/-
The index between uins and uids over all refreshes of a Full cache.

Every insertion binds both directions and takes nothing out, so the two
maps stay inverse exactly as long as no uin and no uid is bound anew
(`index_inverse_iff`): a binding that is replaced in one map stays in the
other.
-/
import Mania.GroupLookups
import Mania.Lib.InverseMaps

namespace Mania

open DashMap

/-! ## Refreshes -/

/-- A refresh, and what the server answers to its requests. -/
inductive Refresh where
  | friends (server : Server)
  | members (server : Server) (groupUin : UInt32)

namespace Refresh

/-- What a refresh leaves of the cache, also one that fails. -/
def exec (cache : Cache) : Refresh → Cache
  | friends server => (cache.refreshFriends server).2
  | members server groupUin => (cache.refreshGroupMembers server groupUin).2

/-- The calls of `insert_uin_uid`, in order. -/
def inserted : Refresh → List (UInt32 × String)
  | friends server => (friendsTaken server.friends).map BotFriend.ids
  | members server groupUin => ((membersFetched (server.members groupUin)).getD []).map BotGroupMember.ids

theorem exec_index (refresh : Refresh) (store : Store) :
    ∃ store', refresh.exec (some store) = some store' ∧
      store'.index = (store.insertUinUids refresh.inserted).index := by
  cases refresh with
  | friends server =>
    by_cases hcomplete : FriendsComplete server.friends
    · obtain ⟨cachedFriends, hrun⟩ := refreshFriendsCache_complete server store hcomplete
      refine ⟨_, by rw [exec, Cache.refreshFriends, withStore, hrun], ?_⟩
      rfl
    · obtain ⟨e, hrun⟩ := refreshFriendsCache_fails server store hcomplete
      refine ⟨_, by rw [exec, Cache.refreshFriends, withStore, hrun], ?_⟩
      rfl
  | members server groupUin =>
    cases hfetched : membersFetched (server.members groupUin) with
    | some members =>
      have hrun := refreshGroupMembersCache_fetched hfetched store
      refine ⟨_, by rw [exec, Cache.refreshGroupMembers, withStore, hrun], ?_⟩
      rw [inserted, hfetched, Option.getD_some]
      rfl
    | none =>
      obtain ⟨e, hrun⟩ := refreshGroupMembersCache_unfetched hfetched store
      refine ⟨_, by rw [exec, Cache.refreshGroupMembers, withStore, hrun], ?_⟩
      rw [inserted, hfetched, Option.getD_none, List.map_nil, Store.insertUinUids_nil]

/-- Over a run the index has taken the insertions of all refreshes. -/
theorem run_index (refreshes : List Refresh) (store : Store) :
    ∃ store', refreshes.foldl exec (some store) = some store' ∧
      store'.index = (store.insertUinUids (refreshes.flatMap inserted)).index := by
  induction refreshes generalizing store with
  | nil => exact ⟨store, rfl, by rw [List.flatMap_nil, Store.insertUinUids_nil]⟩
  | cons refresh refreshes ih =>
    obtain ⟨store₁, hexec, hindex₁⟩ := refresh.exec_index store
    obtain ⟨store₂, hrun, hindex₂⟩ := ih store₁
    refine ⟨store₂, by rw [List.foldl_cons, hexec, hrun], ?_⟩
    rw [hindex₂, List.flatMap_cons, Store.insertUinUids_append]
    simp only [Store.insertUinUids, hindex₁]

end Refresh

/-! ## The index -/

namespace Index

/-- `uin2uid` maps a uin to a uid exactly when `uid2uin` maps the uid to the uin. -/
def Inverse (index : Index) : Prop :=
  ∀ uin uid, index.uin2uid.lookup uin = some uid ↔ index.uid2uin.lookup uid = some uin

/-- The index of a fresh cache after calls of `insert_uin_uid`. -/
def afterCalls (calls : List (UInt32 × String)) : Index :=
  calls.foldl (fun index call => index.insertUinUid call.1 call.2) { uin2uid := ∅, uid2uin := ∅ }

theorem foldl_insertUinUid (calls : List (UInt32 × String)) (index : Index) :
    calls.foldl (fun index call => index.insertUinUid call.1 call.2) index = index.insertUinUids calls := by
  induction calls generalizing index with
  | nil => rfl
  | cons call calls ih => rw [List.foldl_cons, ih]; rfl

theorem afterCalls_eq (calls : List (UInt32 × String)) :
    afterCalls calls = { uin2uid := extend ∅ calls, uid2uin := extend ∅ (calls.map Prod.swap) } :=
  foldl_insertUinUid calls _

/-- Inverse after each of the calls. -/
def StaysInverse (calls : List (UInt32 × String)) : Prop :=
  ∀ made later, calls = made ++ later → (afterCalls made).Inverse

theorem staysInverse_iff {calls : List (UInt32 × String)} : StaysInverse calls ↔ OneToOne calls := by
  rw [← inverse_throughout_iff]
  simp only [StaysInverse, afterCalls_eq]
  rfl

end Index

/-- **The index of a Full cache** has taken the insertions of its refreshes,
and has stayed inverse throughout exactly where no uin and no uid was
reported with another partner before. -/
theorem index_inverse_iff (refreshes : List Refresh) :
    (∃ store, refreshes.foldl Refresh.exec (Cache.new .full) = some store ∧
      store.index = some (Index.afterCalls (refreshes.flatMap Refresh.inserted))) ∧
    (Index.StaysInverse (refreshes.flatMap Refresh.inserted) ↔ OneToOne (refreshes.flatMap Refresh.inserted)) := by
  refine ⟨?_, Index.staysInverse_iff⟩
  obtain ⟨store, hrun, hindex⟩ := Refresh.run_index refreshes
    { index := some { uin2uid := ∅, uid2uin := ∅ }, cachedFriends := ∅, cachedGroupMembers := ∅ }
  refine ⟨store, hrun, ?_⟩
  rw [hindex, Index.afterCalls, Index.foldl_insertUinUid]
  rfl

/-- A server with one friend on one page. -/
def friendServer (friend : BotFriend) : Server where
  friends := .last { friends := [friend], friendGroups := ∅ }
  members _ := .fail (.genericError "Downcast error")

/-- The friend comes back with another uid, and the old one is still looked up. -/
theorem index_not_inverse :
    ¬ ∀ refreshes : List Refresh, Index.StaysInverse (refreshes.flatMap Refresh.inserted) := by
  intro h
  have hinv := h [.friends (friendServer aFriend), .friends (friendServer { aFriend with uid := "u_other" })]
    [(10001, "u_friend"), (10001, "u_other")] [] rfl
  have huid := (hinv 10001 "u_friend").mpr (by decide +kernel)
  exact absurd huid (by decide +kernel)

end Mania
