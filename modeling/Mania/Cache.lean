/-
`core/cache.rs`, and what is kept in it: the friends and group members of
`entity/` and the index between uins and uids.

The cache modes decide which maps there are. A `Store` is what a cache in
mode Full or Half keeps: both lists, and the index in mode Full only. A
cache in mode None keeps nothing.
-/
import Mania.Lib.DashMap

namespace Mania

structure BotFriendGroup where
  groupId : UInt32
  groupName : String
  deriving DecidableEq

structure BotFriend where
  uin : UInt32
  uid : String
  nickname : String
  remarks : String
  personalSign : String
  qid : String
  group : Option BotFriendGroup
  avatar : String
  deriving DecidableEq

inductive GroupMemberPermission where
  | member
  | owner
  | admin
  deriving DecidableEq

/-- Times are seconds since the epoch. -/
structure BotGroupMember where
  uin : UInt32
  uid : String
  permission : GroupMemberPermission
  groupLevel : UInt32
  memberCard : Option String
  specialTitle : Option String
  memberName : Option String
  joinTime : Option Int
  lastMsgTime : Option Int
  shutUpTimestamp : Option Int
  deriving DecidableEq

inductive CacheMode where
  | full
  | half
  | none
  deriving DecidableEq

/-- `uin2uid` and `uid2uin`. -/
structure Index where
  uin2uid : DashMap UInt32 String
  uid2uin : DashMap String UInt32

structure Store where
  index : Option Index
  cachedFriends : DashMap UInt32 BotFriend
  cachedGroupMembers : DashMap UInt32 (List BotGroupMember)

abbrev Cache := Option Store

namespace Cache

def new : CacheMode → Cache
  | .full => some { index := some { uin2uid := ∅, uid2uin := ∅ }, cachedFriends := ∅, cachedGroupMembers := ∅ }
  | .half => some { index := none, cachedFriends := ∅, cachedGroupMembers := ∅ }
  | .none => none

def cacheMode : Cache → CacheMode
  | some { index := some _, .. } => .full
  | some { index := none, .. } => .half
  | none => .none

end Cache

def Index.insertUinUid (index : Index) (uin : UInt32) (uid : String) : Index where
  uin2uid := index.uin2uid.insert uin uid
  uid2uin := index.uid2uin.insert uid uin

/-- `Cache::insert_uin_uid`: nothing to do without an index. -/
def Store.insertUinUid (store : Store) (uin : UInt32) (uid : String) : Store :=
  { store with index := store.index.map fun index => index.insertUinUid uin uid }

end Mania
