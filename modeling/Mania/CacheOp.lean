/-
`core/operation/cache_op.rs`: looking up the uid of a uin and back, in the
cache or by asking the server, and filling the cache from the server.

`Server` is what the server answers to the page requests of one list. A
closure passed to `iter_fetch_*` works on the variables it captures, which
are the state of its monad.
-/
import Mania.Cache
import Mania.Error
import Mania.Lib.Paged

namespace Mania

open Paged

/-- A page of the friend list. -/
structure FetchFriendsEvent where
  friends : List BotFriend
  friendGroups : DashMap UInt32 String

/-- A page of a group's member list. -/
structure FetchMembersEvent where
  groupMembers : List BotGroupMember

structure Server where
  friends : Answers ManiaError FetchFriendsEvent UInt32
  members : UInt32 → Answers ManiaError FetchMembersEvent String

/-- A fallible computation on the variables `σ`. -/
abbrev Closure (σ α : Type) := ExceptT ManiaError (StateM σ) α

/-! ## Filling the cache -/

/-- The variables of `refresh_friends_cache`. -/
structure FriendsFetch where
  store : Store
  friends : DashMap UInt32 BotFriend
  friendGroups : DashMap UInt32 String

/-- The friend with the name of its group, if it is known. -/
def FriendsFetch.withGroupName (s : FriendsFetch) (friend : BotFriend) (group : BotFriendGroup) : BotFriend :=
  match s.friendGroups.lookup group.groupId with
  | some name => { friend with group := some { groupId := group.groupId, groupName := name } }
  | none => friend

def FriendsFetch.insert (s : FriendsFetch) (friend : BotFriend) : FriendsFetch :=
  { s with
    friends := s.friends.insert friend.uin friend
    store := s.store.insertUinUid friend.uin friend.uid }

def refreshFriend (friend : BotFriend) : Closure FriendsFetch Unit := do
  match friend.group with
  | none => throw (.genericError "Missing group id")
  | some group => modify fun s => s.insert (s.withGroupName friend group)

def refreshFriendsPage (event : FetchFriendsEvent) : Closure FriendsFetch (Option Unit) := do
  modify fun s => { s with friendGroups := s.friendGroups.extend event.friendGroups.toList }
  event.friends.forM refreshFriend
  pure none

def refreshFriendsCache (server : Server) : Closure Store Unit := do
  let store ← get
  let (result, s) := (iterFetch refreshFriendsPage server.friends).run.run { store, friends := ∅, friendGroups := ∅ }
  set s.store
  match result with
  | .error e => throw e
  | .ok _ => modify fun store => { store with cachedFriends := DashMap.extend ∅ s.friends.toList }

def refreshGroupMembersPage (event : FetchMembersEvent) :
    Closure (List BotGroupMember) (Option Unit) := do
  modify fun groupMembers => groupMembers ++ event.groupMembers
  pure none

def refreshGroupMembersCache (server : Server) (groupUin : UInt32) : Closure Store Unit := do
  let (result, groupMembers) := (iterFetch refreshGroupMembersPage (server.members groupUin)).run.run []
  match result with
  | .error e => throw e
  | .ok _ =>
    modify fun store => groupMembers.foldl (fun store bgm => store.insertUinUid bgm.uin bgm.uid) store
    modify fun store => { store with cachedGroupMembers := store.cachedGroupMembers.insert groupUin groupMembers }

/-! ## Asking the server -/

def notFound {α : Type} (message : String) : Option α → Except ManiaError α
  | some a => .ok a
  | none => .error (.genericError message)

def fastFetchFriendsUid (server : Server) (uin : UInt32) : Except ManiaError String := do
  let res ← iterFetch (fun event => pure ((event.friends.find? (·.uin = uin)).map (·.uid))) server.friends
  notFound "Friend not found" res

def fastFetchFriendsUin (server : Server) (uid : String) : Except ManiaError UInt32 := do
  let res ← iterFetch (fun event => pure ((event.friends.find? (·.uid = uid)).map (·.uin))) server.friends
  notFound "Friend not found" res

def fastFetchGroupMembersUid (server : Server) (uin groupUin : UInt32) : Except ManiaError String := do
  let res ← iterFetch (fun event => pure ((event.groupMembers.find? (·.uin = uin)).map (·.uid)))
    (server.members groupUin)
  notFound "Member not found" res

def fastFetchGroupMembersUin (server : Server) (uid : String) (groupUin : UInt32) : Except ManiaError UInt32 := do
  let res ← iterFetch (fun event => pure ((event.groupMembers.find? (·.uid = uid)).map (·.uin)))
    (server.members groupUin)
  notFound "Member not found" res

/-! ## Looking up in the cache -/

def resolveUin2uidWithinCache (store : Store) (uin : UInt32) (groupUin : Option UInt32) : Except ManiaError String :=
  match store.index.bind fun index => index.uin2uid.lookup uin with
  | some uid => .ok uid
  | none =>
    match groupUin with
    | some groupId => do
      let groupMembers ← notFound "Group not found" (store.cachedGroupMembers.lookup groupId)
      notFound "Member not found" ((groupMembers.find? (·.uin = uin)).map (·.uid))
    | none => do
      let friend ← notFound "Friend not found" (store.cachedFriends.lookup uin)
      .ok friend.uid

def resolveUid2uinWithinCache (store : Store) (uid : String) (groupUin : Option UInt32) : Except ManiaError UInt32 :=
  match store.index.bind fun index => index.uid2uin.lookup uid with
  | some uin => .ok uin
  | none =>
    match groupUin with
    | some groupId => do
      let groupMembers ← notFound "Group not found" (store.cachedGroupMembers.lookup groupId)
      notFound "Member not found" ((groupMembers.find? (·.uid = uid)).map (·.uin))
    | none => do
      let entry ← notFound "Friend not found" (store.cachedFriends.toList.find? (·.2.uid = uid))
      .ok entry.1

/-! ## The operations -/

/-- Fetch the friends when the index is there and empty. -/
def refreshEmptyIndex (server : Server) (indexEmpty : Index → Bool) : Closure Store Unit := do
  let store ← get
  if store.index.any indexEmpty then refreshFriendsCache server

/-- Fetch the group when it is not cached. -/
def refreshMissingGroup (server : Server) (groupUin : UInt32) : Closure Store Unit := do
  let store ← get
  if !store.cachedGroupMembers.containsKey groupUin then refreshGroupMembersCache server groupUin

/-- Fetch the friends when the one asked for is not cached. -/
def refreshMissingFriend (server : Server) (maybeFriendUin : Option UInt32) : Closure Store Unit := do
  let store ← get
  if maybeFriendUin.any fun uin => !store.cachedFriends.containsKey uin then refreshFriendsCache server

/-- Fill the cache before a lookup. -/
def refreshMissing (server : Server) (indexEmpty : Index → Bool) (groupUin : Option UInt32) : Closure Store Unit := do
  refreshEmptyIndex server indexEmpty
  match groupUin with
  | some groupUin => refreshMissingGroup server groupUin
  | none => pure ()

/-- Run an operation of the modes Full and Half on the cache. -/
def withStore {α : Type} (x : Closure Store α) (store : Store) : Except ManiaError α × Cache :=
  let (r, store) := x.run.run store
  (r, some store)

def uin2uid (server : Server) (uin : UInt32) (groupUin : Option UInt32) : Cache → Except ManiaError String × Cache
  | some store => withStore (do
      refreshMissing server (fun index => index.uin2uid.isEmpty) groupUin
      let store ← get
      MonadExcept.ofExcept (resolveUin2uidWithinCache store uin groupUin)) store
  | none =>
    match groupUin with
    | some groupUin => (fastFetchGroupMembersUid server uin groupUin, none)
    | none => (fastFetchFriendsUid server uin, none)

def uid2uin (server : Server) (uid : String) (groupUin : Option UInt32) : Cache → Except ManiaError UInt32 × Cache
  | some store => withStore (do
      refreshMissing server (fun index => index.uid2uin.isEmpty) groupUin
      let store ← get
      MonadExcept.ofExcept (resolveUid2uinWithinCache store uid groupUin)) store
  | none =>
    match groupUin with
    | some groupUin => (fastFetchGroupMembersUin server uid groupUin, none)
    | none => (fastFetchFriendsUin server uid, none)

def fetchMaybeCachedGroupMembers (server : Server) (groupUin : UInt32)
    (processFn : DashMap UInt32 (List BotGroupMember) → List BotGroupMember) (refreshCache : Bool) :
    Cache → Except ManiaError (List BotGroupMember) × Cache
  | some store => withStore (do
      (if refreshCache then refreshGroupMembersCache server groupUin else pure ())
      refreshMissingGroup server groupUin
      let store ← get
      pure (processFn store.cachedGroupMembers)) store
  | none =>
    let insertPage (event : FetchMembersEvent) : Closure (DashMap UInt32 (List BotGroupMember)) (Option Unit) := do
      modify fun groupMembers => groupMembers.insert groupUin event.groupMembers
      pure none
    let (result, groupMembers) := (iterFetch insertPage (server.members groupUin)).run.run ∅
    (result.map fun _ => processFn groupMembers, none)

def fetchMaybeCachedFriends (server : Server) (maybeFriendUin : Option UInt32)
    (processFn : DashMap UInt32 BotFriend → List BotFriend) (refreshCache : Bool) :
    Cache → Except ManiaError (List BotFriend) × Cache
  | some store => withStore (do
      (if refreshCache then refreshFriendsCache server else pure ())
      refreshMissingFriend server maybeFriendUin
      let store ← get
      pure (processFn store.cachedFriends)) store
  | none =>
    let insertPage (event : FetchFriendsEvent) : Closure (DashMap UInt32 BotFriend) (Option Unit) := do
      modify fun friends => friends.extend (event.friends.map fun friend => (friend.uin, friend))
      pure none
    let (result, friends) := (iterFetch insertPage server.friends).run.run ∅
    (result.map fun _ => processFn friends, none)

/-- A call of one of the public operations. -/
inductive CacheCall where
  | uin2uid (uin : UInt32) (groupUin : Option UInt32)
  | uid2uin (uid : String) (groupUin : Option UInt32)
  | refreshFriendsCache
  | refreshGroupMembersCache (groupUin : UInt32)
  | fetchMaybeCachedFriends (maybeFriendUin : Option UInt32)
      (processFn : DashMap UInt32 BotFriend → List BotFriend) (refreshCache : Bool)
  | fetchMaybeCachedGroupMembers (groupUin : UInt32)
      (processFn : DashMap UInt32 (List BotGroupMember) → List BotGroupMember) (refreshCache : Bool)

/-- What a call leaves of the cache. A refresh does nothing in mode None. -/
def CacheCall.exec (server : Server) (cache : Cache) : CacheCall → Cache
  | .uin2uid uin groupUin => (Mania.uin2uid server uin groupUin cache).2
  | .uid2uin uid groupUin => (Mania.uid2uin server uid groupUin cache).2
  | .refreshFriendsCache => cache.bind fun store => (withStore (Mania.refreshFriendsCache server) store).2
  | .refreshGroupMembersCache groupUin =>
    cache.bind fun store => (withStore (Mania.refreshGroupMembersCache server groupUin) store).2
  | .fetchMaybeCachedFriends maybeFriendUin processFn refreshCache =>
    (Mania.fetchMaybeCachedFriends server maybeFriendUin processFn refreshCache cache).2
  | .fetchMaybeCachedGroupMembers groupUin processFn refreshCache =>
    (Mania.fetchMaybeCachedGroupMembers server groupUin processFn refreshCache cache).2

end Mania
