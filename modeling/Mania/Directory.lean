/-
What the cache is a cache of. A `Directory` is a server that answers every
request and has one uid for each uin; `friendList` and `memberList` are its
lists, the pages put together, and `people` who is in one of them.

The lookups without a cache are searches of these lists.
-/
import Mathlib.Data.Set.Function
import Mania.CacheOp

namespace Mania

open Paged

namespace Server

def friendList (server : Server) : List BotFriend := server.friends.pages.flatMap (·.friends)

def memberList (server : Server) (groupUin : UInt32) : List BotGroupMember :=
  (server.members groupUin).pages.flatMap (·.groupMembers)

end Server

def BotFriend.ids (friend : BotFriend) : UInt32 × String := (friend.uin, friend.uid)

def BotGroupMember.ids (member : BotGroupMember) : UInt32 × String := (member.uin, member.uid)

/-- The uins and uids of everyone the server lists. -/
def Server.people (server : Server) : Set (UInt32 × String) :=
  {p | (∃ friend ∈ server.friendList, friend.ids = p) ∨
    ∃ groupUin, ∃ member ∈ server.memberList groupUin, member.ids = p}

/-- `FetchFriendsEvent::parse` gives every friend a group. -/
structure Directory extends Server where
  friends_succeed : friends.Succeeds
  members_succeed : ∀ groupUin, (members groupUin).Succeeds
  grouped : ∀ friend ∈ toServer.friendList, friend.group ≠ none
  uin_injOn : Set.InjOn Prod.fst toServer.people
  uid_injOn : Set.InjOn Prod.snd toServer.people

namespace Directory

variable (d : Directory)

theorem friend_mem_people {friend : BotFriend} (h : friend ∈ d.friendList) : friend.ids ∈ d.people :=
  .inl ⟨friend, h, rfl⟩

theorem member_mem_people {groupUin : UInt32} {member : BotGroupMember} (h : member ∈ d.memberList groupUin) :
    member.ids ∈ d.people := .inr ⟨groupUin, member, h, rfl⟩

theorem uid_unique {uin : UInt32} {uid uid' : String} (h : (uin, uid) ∈ d.people) (h' : (uin, uid') ∈ d.people) :
    uid = uid' := (Prod.mk.inj (d.uin_injOn h h' rfl)).2

theorem uin_unique {uin uin' : UInt32} {uid : String} (h : (uin, uid) ∈ d.people) (h' : (uin', uid) ∈ d.people) :
    uin = uin' := (Prod.mk.inj (d.uid_injOn h h' rfl)).1

/-! ## Lookups without a cache -/

theorem fastFetchFriendsUid_eq (uin : UInt32) : fastFetchFriendsUid d.toServer uin =
    notFound "Friend not found" ((d.friendList.find? (·.uin = uin)).map (·.uid)) := by
  rw [fastFetchFriendsUid, iterFetch_search d.friends_succeed]
  rfl

theorem fastFetchFriendsUin_eq (uid : String) : fastFetchFriendsUin d.toServer uid =
    notFound "Friend not found" ((d.friendList.find? (·.uid = uid)).map (·.uin)) := by
  rw [fastFetchFriendsUin, iterFetch_search d.friends_succeed]
  rfl

theorem fastFetchGroupMembersUid_eq (uin groupUin : UInt32) : fastFetchGroupMembersUid d.toServer uin groupUin =
    notFound "Member not found" (((d.memberList groupUin).find? (·.uin = uin)).map (·.uid)) := by
  rw [fastFetchGroupMembersUid, iterFetch_search (d.members_succeed groupUin)]
  rfl

theorem fastFetchGroupMembersUin_eq (uid : String) (groupUin : UInt32) :
    fastFetchGroupMembersUin d.toServer uid groupUin =
    notFound "Member not found" (((d.memberList groupUin).find? (·.uid = uid)).map (·.uin)) := by
  rw [fastFetchGroupMembersUin, iterFetch_search (d.members_succeed groupUin)]
  rfl

end Directory

end Mania
