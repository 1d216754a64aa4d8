/-
`parse` of `event/system/fetch_friend.rs`: a page of the friend list, and the
token of the next, out of the server's response.

A friend comes with the id of its group; the names of the groups come beside
the friends, so a parsed friend's group has no name yet (`parse_unnamed`).
-/
import Mania.CacheOpFacts

namespace Mania

structure OidbFriendProperty where
  code : UInt32
  value : String

structure OidbFriendLayer1 where
  properties : List OidbFriendProperty

structure OidbFriendAdditional where
  type : UInt32
  layer1 : Option OidbFriendLayer1

structure OidbFriend where
  uid : String
  customGroup : UInt32
  uin : UInt32
  additional : List OidbFriendAdditional

structure OidbSvcTrpcTcp0xFd41uin where
  uin : UInt32

structure OidbSvcTrpcTcp0xFd41response where
  next : Option OidbSvcTrpcTcp0xFd41uin
  friends : List OidbFriend
  groups : List OidbFriendProperty

def BotFriend.new (uin : UInt32) (uid nickname remarks personalSign qid : String) (group : Option BotFriendGroup) :
    BotFriend where
  uin
  uid
  nickname
  remarks
  personalSign
  qid
  group
  avatar := "https://q1.qlogo.cn/g?b=qq&nk=" ++ decimal 0 uin.toNat ++ "&s=640"

namespace FetchFriendsEvent

def otherError {α : Type} (message : String) : Option α → Except (EventError String) α
  | some a => .ok a
  | none => .error (.parse ("An mania internal event error occurred: " ++ message))

/-- What the loop over the properties leaves of the ones with the code. -/
def property (layer1 : OidbFriendLayer1) (code : UInt32) : Option String :=
  layer1.properties.foldl (fun found p => if p.code = code then some p.value else found) none

def parseFriend (friend : OidbFriend) : Except (EventError String) BotFriend := do
  let additional ← otherError "Missing additional with type 1" (friend.additional.find? (·.type = 1))
  let layer1 ← otherError "Missing layer1 in additional" additional.layer1
  let displayName := (property layer1 20002).getD (decimal 0 friend.uin.toNat)
  pure (BotFriend.new friend.uin friend.uid displayName ((property layer1 103).getD "")
    ((property layer1 102).getD "") ((property layer1 27394).getD "")
    (some { groupId := friend.customGroup, groupName := "" }))

def parse (response : OidbSvcTrpcTcp0xFd41response) :
    Except (EventError String) (FetchFriendsEvent × Option UInt32) := do
  let friends ← response.friends.mapM parseFriend
  pure ({ friends, friendGroups := DashMap.extend ∅ (response.groups.map fun group => (group.code, group.value)) },
    response.next.map (·.uin))

/-- Each friend has a group, without its name. -/
def Unnamed (event : FetchFriendsEvent) : Prop :=
  ∀ friend ∈ event.friends, ∃ groupId, friend.group = some { groupId, groupName := "" }

theorem parseFriend_unnamed {friend : OidbFriend} {f : BotFriend} (h : parseFriend friend = .ok f) :
    f.group = some { groupId := friend.customGroup, groupName := "" } := by
  obtain ⟨additional, -, h⟩ := bind_ok.mp h
  obtain ⟨layer1, -, h⟩ := bind_ok.mp h
  cases h
  rfl

theorem mapM_parseFriend_unnamed {friends : List OidbFriend} {fs : List BotFriend}
    (h : friends.mapM parseFriend = .ok fs) : ∀ f ∈ fs, ∃ groupId, f.group = some { groupId, groupName := "" } := by
  induction friends generalizing fs with
  | nil =>
    cases h
    simp
  | cons friend friends ih =>
    rw [List.mapM_cons] at h
    obtain ⟨f, hfirst, h⟩ := bind_ok.mp h
    obtain ⟨rest, hrest, h⟩ := bind_ok.mp h
    cases h
    intro g hg
    rcases List.mem_cons.mp hg with rfl | hg
    · exact ⟨_, parseFriend_unnamed hfirst⟩
    · exact ih hrest g hg

theorem parse_unnamed {response : OidbSvcTrpcTcp0xFd41response} {event : FetchFriendsEvent} {next : Option UInt32}
    (h : parse response = .ok (event, next)) : event.Unnamed := by
  obtain ⟨friends, hfriends, h⟩ := bind_ok.mp h
  cases h
  exact mapM_parseFriend_unnamed hfriends

end FetchFriendsEvent

end Mania
