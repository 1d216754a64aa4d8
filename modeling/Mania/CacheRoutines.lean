/-
`core/operation/cache_op.rs` as tasks run it side by side: an operation is
one access to a map of the cache after the other, and the other tasks make
theirs in between.

The answers of the server to the page requests of a list are fixed, and an
iteration over a map is one access.
-/
import Mania.CacheOp
import Mania.Lib.Coroutine

namespace Mania

open Paged

/-! ## What the tasks share -/

/-- One access. A page is what `send_event` waits for, and `ρ` are the other
requests. -/
inductive Access (ρ : Type) where
  | uin2uidIsEmpty
  | uid2uinIsEmpty
  | insertUin2uid (uin : UInt32) (uid : String)
  | insertUid2uin (uid : String) (uin : UInt32)
  | getUin2uid (uin : UInt32)
  | getUid2uin (uid : String)
  | friends
  | containsFriend (uin : UInt32)
  | clearFriends
  | insertFriend (uin : UInt32) (friend : BotFriend)
  | groupMembers
  | containsGroup (groupUin : UInt32)
  | insertGroup (groupUin : UInt32) (members : List BotGroupMember)
  | page
  | request (r : ρ)

/-- The cache, and what is outside. -/
structure CacheWorld (σ : Type) where
  cache : Cache
  outside : σ

variable {ρ : Type} {Reply : ρ → Type} {ω σ α : Type}

namespace Access

/-- Where the source unwraps the map, the answer is none if there is no map. -/
@[reducible] def Answer (Reply : ρ → Type) : Access ρ → Type
  | uin2uidIsEmpty | uid2uinIsEmpty | containsFriend _ | containsGroup _ => Option Bool
  | getUin2uid _ => Option String
  | getUid2uin _ => Option UInt32
  | friends => Option (DashMap UInt32 BotFriend)
  | groupMembers => Option (DashMap UInt32 (List BotGroupMember))
  | clearFriends | insertGroup _ _ => Option Unit
  | insertUin2uid _ _ | insertUid2uin _ _ | insertFriend _ _ | page => Unit
  | request r => Reply r

/-- What an access leaves of the maps. -/
def write : Access ρ → Store → Store
  | insertUin2uid uin uid, store =>
    { store with index := store.index.map fun index => { index with uin2uid := index.uin2uid.insert uin uid } }
  | insertUid2uin uid uin, store =>
    { store with index := store.index.map fun index => { index with uid2uin := index.uid2uin.insert uid uin } }
  | clearFriends, store => { store with cachedFriends := ∅ }
  | insertFriend uin friend, store => { store with cachedFriends := store.cachedFriends.insert uin friend }
  | insertGroup groupUin members, store =>
    { store with cachedGroupMembers := store.cachedGroupMembers.insert groupUin members }
  | _, store => store

/-- What it reads in them. A request is answered from outside. -/
def read (reply : (r : ρ) → Reply r) : (c : Access ρ) → Cache → c.Answer Reply
  | uin2uidIsEmpty, cache => cache.bind fun store => store.index.map (·.uin2uid.isEmpty)
  | uid2uinIsEmpty, cache => cache.bind fun store => store.index.map (·.uid2uin.isEmpty)
  | getUin2uid uin, cache => cache.bind fun store => store.index.bind (·.uin2uid.lookup uin)
  | getUid2uin uid, cache => cache.bind fun store => store.index.bind (·.uid2uin.lookup uid)
  | friends, cache => cache.map (·.cachedFriends)
  | containsFriend uin, cache => cache.map (·.cachedFriends.containsKey uin)
  | groupMembers, cache => cache.map (·.cachedGroupMembers)
  | containsGroup groupUin, cache => cache.map (·.cachedGroupMembers.containsKey groupUin)
  | clearFriends, cache | insertGroup _ _, cache => cache.map fun _ => ()
  | insertUin2uid _ _, _ | insertUid2uin _ _, _ | insertFriend _ _, _ | page, _ => ()
  | request r, _ => reply r

/-- What is outside changes with a request only. -/
def after (reply : (r : ρ) → σ → Reply r × σ) : Access ρ → σ → σ
  | request r, outside => (reply r outside).2
  | _, outside => outside

def exec (reply : (r : ρ) → σ → Reply r × σ) (c : Access ρ) (w : CacheWorld σ) : c.Answer Reply × CacheWorld σ :=
  (c.read (fun r => (reply r w.outside).1) w.cache,
    { cache := w.cache.map c.write, outside := c.after reply w.outside })

end Access

/-- A task, that tells events `ω`. -/
abbrev Routine (Reply : ρ → Type) (ω α : Type) := Coroutine (Access.Answer Reply) ω α

/-- One with `?` on a `ManiaError`. -/
abbrev CacheRoutine (Reply : ρ → Type) (ω α : Type) := ExceptT ManiaError (Coroutine (Access.Answer Reply) ω) α

namespace Routine

def access (c : Access ρ) : CacheRoutine Reply ω (c.Answer Reply) := monadLift (Coroutine.ask c : Routine Reply ω _)

/-- `unwrap()`. -/
def unwrap : Option α → CacheRoutine Reply ω α
  | some a => pure a
  | none => monadLift (Coroutine.panicked : Routine Reply ω α)

/-- `send_event` of a page request, which waits for the answer. -/
def awaitPage : CacheRoutine Reply ω Unit := access .page

/-! ## Filling the cache -/

def insertUinUid (uin : UInt32) (uid : String) : CacheRoutine Reply ω Unit := do
  access (.insertUin2uid uin uid)
  access (.insertUid2uin uid uin)

/-- The variables of `refresh_friends_cache`. -/
structure FriendsVars where
  friends : DashMap UInt32 BotFriend
  friendGroups : DashMap UInt32 String

def FriendsVars.withGroupName (v : FriendsVars) (friend : BotFriend) (group : BotFriendGroup) : BotFriend :=
  match v.friendGroups.lookup group.groupId with
  | some name => { friend with group := some { groupId := group.groupId, groupName := name } }
  | none => friend

def refreshFriend (mode : CacheMode) (friend : BotFriend) : StateT FriendsVars (CacheRoutine Reply ω) Unit := do
  match friend.group with
  | none => throw (.genericError "Missing group id")
  | some group => do
    let v ← get
    let friend := v.withGroupName friend group
    set { v with friends := v.friends.insert friend.uin friend }
    if mode = .full then (insertUinUid friend.uin friend.uid : CacheRoutine Reply ω Unit)

def refreshFriendsPage (mode : CacheMode) (event : FetchFriendsEvent) :
    StateT FriendsVars (CacheRoutine Reply ω) (Option Unit) := do
  (awaitPage : CacheRoutine Reply ω Unit)
  modify fun v => { v with friendGroups := v.friendGroups.extend event.friendGroups.toList }
  event.friends.forM (refreshFriend mode)
  pure none

def refreshFriendsCache (mode : CacheMode) (server : Server) : CacheRoutine Reply ω Unit :=
  if mode = .none then pure ()
  else do
    let (_, v) ← (iterFetch (refreshFriendsPage mode) server.friends).run { friends := ∅, friendGroups := ∅ }
    unwrap (← access .clearFriends)
    v.friends.toList.forM fun e => access (.insertFriend e.1 e.2)

def refreshGroupMembersPage (event : FetchMembersEvent) :
    StateT (List BotGroupMember) (CacheRoutine Reply ω) (Option Unit) := do
  (awaitPage : CacheRoutine Reply ω Unit)
  modify fun groupMembers => groupMembers ++ event.groupMembers
  pure none

def refreshGroupMembersCache (mode : CacheMode) (server : Server) (groupUin : UInt32) : CacheRoutine Reply ω Unit :=
  if mode = .none then pure ()
  else do
    let (_, groupMembers) ← (iterFetch refreshGroupMembersPage (server.members groupUin)).run []
    (if mode = .full then groupMembers.forM fun bgm => insertUinUid bgm.uin bgm.uid else pure ())
    unwrap (← access (.insertGroup groupUin groupMembers))

/-! ## Asking the server -/

def fastFetchFriendsUid (server : Server) (uin : UInt32) : CacheRoutine Reply ω String := do
  let res ← iterFetch (fun event => do
    awaitPage
    pure ((event.friends.find? (·.uin = uin)).map (·.uid))) server.friends
  MonadExcept.ofExcept (notFound "Friend not found" res)

def fastFetchFriendsUin (server : Server) (uid : String) : CacheRoutine Reply ω UInt32 := do
  let res ← iterFetch (fun event => do
    awaitPage
    pure ((event.friends.find? (·.uid = uid)).map (·.uin))) server.friends
  MonadExcept.ofExcept (notFound "Friend not found" res)

def fastFetchGroupMembersUid (server : Server) (uin groupUin : UInt32) : CacheRoutine Reply ω String := do
  let res ← iterFetch (fun event => do
    awaitPage
    pure ((event.groupMembers.find? (·.uin = uin)).map (·.uid))) (server.members groupUin)
  MonadExcept.ofExcept (notFound "Member not found" res)

def fastFetchGroupMembersUin (server : Server) (uid : String) (groupUin : UInt32) : CacheRoutine Reply ω UInt32 := do
  let res ← iterFetch (fun event => do
    awaitPage
    pure ((event.groupMembers.find? (·.uid = uid)).map (·.uin))) (server.members groupUin)
  MonadExcept.ofExcept (notFound "Member not found" res)

/-! ## Looking up in the cache -/

def resolveUin2uidWithinCache (uin : UInt32) (groupUin : Option UInt32) : CacheRoutine Reply ω String := do
  match ← access (.getUin2uid uin) with
  | some uid => pure uid
  | none =>
    match groupUin with
    | some groupId => do
      let groups ← unwrap (← access .groupMembers)
      let groupMembers ← MonadExcept.ofExcept (notFound "Group not found" (groups.lookup groupId))
      MonadExcept.ofExcept (notFound "Member not found" ((groupMembers.find? (·.uin = uin)).map (·.uid)))
    | none => do
      let friends ← unwrap (← access .friends)
      let friend ← MonadExcept.ofExcept (notFound "Friend not found" (friends.lookup uin))
      pure friend.uid

def resolveUid2uinWithinCache (uid : String) (groupUin : Option UInt32) : CacheRoutine Reply ω UInt32 := do
  match ← access (.getUid2uin uid) with
  | some uin => pure uin
  | none =>
    match groupUin with
    | some groupId => do
      let groups ← unwrap (← access .groupMembers)
      let groupMembers ← MonadExcept.ofExcept (notFound "Group not found" (groups.lookup groupId))
      MonadExcept.ofExcept (notFound "Member not found" ((groupMembers.find? (·.uid = uid)).map (·.uin)))
    | none => do
      let friends ← unwrap (← access .friends)
      let entry ← MonadExcept.ofExcept (notFound "Friend not found" (friends.toList.find? (·.2.uid = uid)))
      pure entry.1

/-! ## The operations -/

/-- Fetch the group when it is not cached. -/
def refreshMissingGroup (mode : CacheMode) (server : Server) (groupUin : UInt32) : CacheRoutine Reply ω Unit := do
  let contained ← unwrap (← access (.containsGroup groupUin))
  if !contained then refreshGroupMembersCache mode server groupUin

/-- Fetch the friends when the one asked for is not cached. -/
def refreshMissingFriend (mode : CacheMode) (server : Server) : Option UInt32 → CacheRoutine Reply ω Unit
  | some uin => do
    let contained ← unwrap (← access (.containsFriend uin))
    if !contained then refreshFriendsCache mode server
  | none => pure ()

/-- Fetch the friend list when the index `isEmpty` looks at is empty. -/
def refreshEmptyIndex (mode : CacheMode) (server : Server) (isEmpty : CacheRoutine Reply ω (Option Bool)) :
    CacheRoutine Reply ω Unit := do
  if mode = .full then
    let empty ← unwrap (← isEmpty)
    if empty then refreshFriendsCache mode server

/-- Fill the cache before a lookup. -/
def refreshMissing (mode : CacheMode) (server : Server) (isEmpty : CacheRoutine Reply ω (Option Bool))
    (groupUin : Option UInt32) : CacheRoutine Reply ω Unit := do
  refreshEmptyIndex mode server isEmpty
  match groupUin with
  | some groupUin => refreshMissingGroup mode server groupUin
  | none => pure ()

def uin2uid (mode : CacheMode) (server : Server) (uin : UInt32) (groupUin : Option UInt32) :
    CacheRoutine Reply ω String :=
  match mode, groupUin with
  | .none, some groupUin => fastFetchGroupMembersUid server uin groupUin
  | .none, none => fastFetchFriendsUid server uin
  | mode, groupUin => do
    refreshMissing mode server (access .uin2uidIsEmpty) groupUin
    resolveUin2uidWithinCache uin groupUin

def uid2uin (mode : CacheMode) (server : Server) (uid : String) (groupUin : Option UInt32) :
    CacheRoutine Reply ω UInt32 :=
  match mode, groupUin with
  | .none, some groupUin => fastFetchGroupMembersUin server uid groupUin
  | .none, none => fastFetchFriendsUin server uid
  | mode, groupUin => do
    refreshMissing mode server (access .uid2uinIsEmpty) groupUin
    resolveUid2uinWithinCache uid groupUin

def insertMembersPage (groupUin : UInt32) (event : FetchMembersEvent) :
    StateT (DashMap UInt32 (List BotGroupMember)) (CacheRoutine Reply ω) (Option Unit) := do
  (awaitPage : CacheRoutine Reply ω Unit)
  modify fun groupMembers => groupMembers.insert groupUin event.groupMembers
  pure none

def fetchMaybeCachedGroupMembers (mode : CacheMode) (server : Server) (groupUin : UInt32)
    (processFn : DashMap UInt32 (List BotGroupMember) → List BotGroupMember) (refreshCache : Bool) :
    CacheRoutine Reply ω (List BotGroupMember) :=
  if mode = .none then do
    let (_, groupMembers) ← (iterFetch (insertMembersPage groupUin) (server.members groupUin)).run ∅
    pure (processFn groupMembers)
  else do
    (if refreshCache then refreshGroupMembersCache mode server groupUin else pure ())
    refreshMissingGroup mode server groupUin
    let groups ← unwrap (← access .groupMembers)
    pure (processFn groups)

def insertFriendsPage (event : FetchFriendsEvent) :
    StateT (DashMap UInt32 BotFriend) (CacheRoutine Reply ω) (Option Unit) := do
  (awaitPage : CacheRoutine Reply ω Unit)
  modify fun friends => friends.extend (event.friends.map fun friend => (friend.uin, friend))
  pure none

def fetchMaybeCachedFriends (mode : CacheMode) (server : Server) (maybeFriendUin : Option UInt32)
    (processFn : DashMap UInt32 BotFriend → List BotFriend) (refreshCache : Bool) :
    CacheRoutine Reply ω (List BotFriend) :=
  if mode = .none then do
    let (_, friends) ← (iterFetch insertFriendsPage server.friends).run ∅
    pure (processFn friends)
  else do
    (if refreshCache then refreshFriendsCache mode server else pure ())
    refreshMissingFriend mode server maybeFriendUin
    let friends ← unwrap (← access .friends)
    pure (processFn friends)

end Routine

/-- What an operation answers. -/
inductive CacheAnswer where
  | uid (r : Except ManiaError String)
  | uin (r : Except ManiaError UInt32)
  | refreshed (r : Except ManiaError Unit)
  | friends (r : Except ManiaError (List BotFriend))
  | members (r : Except ManiaError (List BotGroupMember))

/-- The task of one operation. -/
def CacheCall.routine (mode : CacheMode) (server : Server) : CacheCall → Routine Reply ω CacheAnswer
  | .uin2uid uin groupUin => .uid <$> (Routine.uin2uid mode server uin groupUin).run
  | .uid2uin uid groupUin => .uin <$> (Routine.uid2uin mode server uid groupUin).run
  | .refreshFriendsCache => .refreshed <$> (Routine.refreshFriendsCache mode server).run
  | .refreshGroupMembersCache groupUin => .refreshed <$> (Routine.refreshGroupMembersCache mode server groupUin).run
  | .fetchMaybeCachedFriends maybeFriendUin processFn refreshCache =>
    .friends <$> (Routine.fetchMaybeCachedFriends mode server maybeFriendUin processFn refreshCache).run
  | .fetchMaybeCachedGroupMembers groupUin processFn refreshCache =>
    .members <$> (Routine.fetchMaybeCachedGroupMembers mode server groupUin processFn refreshCache).run

end Mania
