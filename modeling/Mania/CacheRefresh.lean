/-
A refresh of the cache from a server that can fail at any page.

The members of a group are put in the cache when all their pages are there,
so a refresh of them that fails changes nothing. A friend is put in the index
as soon as its page is read: a refresh of the friends that fails leaves the
index with the friends taken until then (`refreshFriendsCache_fails`), and so
as it was only where it had them already (`refresh_atomic_iff`).
-/
import Mathlib.Data.List.TakeWhile
import Mania.CacheOpFacts

namespace Mania

open Paged

/-! ## How far a fetch of the friends gets -/

namespace FetchFriendsEvent

/-- Every friend of the page has a group. -/
def grouped (event : FetchFriendsEvent) : Bool := event.friends.all (·.group.isSome)

/-- The friends before the first without a group. -/
def taken (event : FetchFriendsEvent) : List BotFriend := event.friends.takeWhile (·.group.isSome)

end FetchFriendsEvent

/-- The friends taken before the fetch ends or fails. -/
def friendsTaken : Answers ManiaError FetchFriendsEvent UInt32 → List BotFriend
  | .last event => event.taken
  | .more event _ rest => event.taken ++ if event.grouped then friendsTaken rest else []
  | .fail _ => []

/-- Every request is answered, and every friend has a group. -/
def FriendsComplete : Answers ManiaError FetchFriendsEvent UInt32 → Prop
  | .last event => event.grouped
  | .more event _ rest => event.grouped ∧ FriendsComplete rest
  | .fail _ => False

instance FriendsComplete.decidable :
    (answers : Answers ManiaError FetchFriendsEvent UInt32) → Decidable (FriendsComplete answers)
  | .last event => inferInstanceAs (Decidable (event.grouped = true))
  | .more event _ rest =>
    have := FriendsComplete.decidable rest
    inferInstanceAs (Decidable (event.grouped = true ∧ FriendsComplete rest))
  | .fail _ => inferInstanceAs (Decidable False)

namespace FriendsFetch

theorem add_store {friend : BotFriend} (h : friend.group.isSome) (s : FriendsFetch) :
    (s.add friend).store = s.store.insertUinUids [friend.ids] := by
  obtain ⟨group, hgroup⟩ := Option.isSome_iff_exists.mp h
  obtain ⟨huin, huid⟩ := Prod.mk.inj (s.withGroupName_ids friend group)
  simp only [FriendsFetch.add, hgroup, insert, huin, huid]
  rfl

theorem foldl_add_store {friends : List BotFriend} (h : ∀ friend ∈ friends, friend.group.isSome) (s : FriendsFetch) :
    (friends.foldl FriendsFetch.add s).store = s.store.insertUinUids (friends.map BotFriend.ids) := by
  induction friends generalizing s with
  | nil => simp
  | cons friend friends ih =>
    rw [List.foldl_cons, ih (fun f hf => h f (List.mem_cons_of_mem friend hf)), add_store (h friend List.mem_cons_self),
      ← Store.insertUinUids_append]
    rfl

theorem refreshFriend_fails {friend : BotFriend} (h : friend.group = none) (s : FriendsFetch) :
    (refreshFriend friend).run.run s = (.error (.genericError "Missing group id"), s) := by
  unfold refreshFriend
  rw [h]
  rfl

/-- The loop over a page stops at the first friend without a group. -/
theorem forM_refreshFriend_run (friends : List BotFriend) (s : FriendsFetch) :
    (friends.forM refreshFriend).run.run s =
      (if friends.all (·.group.isSome) then .ok () else .error (.genericError "Missing group id"),
        (friends.takeWhile (·.group.isSome)).foldl FriendsFetch.add s) := by
  induction friends generalizing s with
  | nil => rfl
  | cons friend friends ih =>
    rw [List.forM]
    cases hgroup : friend.group with
    | none =>
      rw [run_bind_error (refreshFriend_fails hgroup s)]
      simp [hgroup]
    | some group =>
      rw [run_bind_ok (refreshFriend_run (by simp [hgroup]) s), ih]
      simp [hgroup]

theorem refreshFriendsPage_taken (event : FetchFriendsEvent) (s : FriendsFetch) :
    ∃ s', (refreshFriendsPage event).run.run s =
        (if event.grouped then .ok none else .error (.genericError "Missing group id"), s') ∧
      s'.store = s.store.insertUinUids (event.taken.map BotFriend.ids) := by
  have hloop := forM_refreshFriend_run event.friends
    { s with friendGroups := s.friendGroups.extend event.friendGroups.toList }
  have htaken : ∀ friend ∈ event.taken, friend.group.isSome := fun friend hf =>
    List.mem_takeWhile_imp (p := fun friend : BotFriend => friend.group.isSome) hf
  refine ⟨_, ?_, foldl_add_store htaken { s with friendGroups := s.friendGroups.extend event.friendGroups.toList }⟩
  unfold refreshFriendsPage
  rw [run_modify_bind]
  cases hgrouped : event.grouped with
  | true =>
    rw [FetchFriendsEvent.grouped] at hgrouped
    rw [hgrouped] at hloop
    rw [run_bind_ok hloop]
    rfl
  | false =>
    rw [FetchFriendsEvent.grouped] at hgrouped
    rw [hgrouped] at hloop
    rw [run_bind_error hloop]
    rfl

/-- A fetch ends in the index of the friends taken, and well if it is complete. -/
theorem iterFetch_taken (answers : Answers ManiaError FetchFriendsEvent UInt32) (s : FriendsFetch) :
    ∃ r s', (iterFetch refreshFriendsPage answers).run.run s = (r, s') ∧
      s'.store = s.store.insertUinUids ((friendsTaken answers).map BotFriend.ids) ∧
      ((FriendsComplete answers ∧ r = .ok none) ∨ (¬ FriendsComplete answers ∧ ∃ e, r = .error e)) := by
  induction answers generalizing s with
  | last event =>
    obtain ⟨s', hrun, hstore⟩ := refreshFriendsPage_taken event s
    refine ⟨_, s', hrun, hstore, ?_⟩
    cases hgrouped : event.grouped <;> simp [FriendsComplete, hgrouped]
  | more event next rest ih =>
    obtain ⟨s', hrun, hstore⟩ := refreshFriendsPage_taken event s
    cases hgrouped : event.grouped with
    | true =>
      rw [hgrouped] at hrun
      obtain ⟨r, s'', hrest, hrestStore, hr⟩ := ih s'
      refine ⟨r, s'', ?_, ?_, ?_⟩
      · rw [iterFetch, run_bind_ok hrun]
        exact hrest
      · rw [hrestStore, hstore, ← Store.insertUinUids_append]
        simp [friendsTaken, hgrouped]
      · simpa [FriendsComplete, hgrouped] using hr
    | false =>
      rw [hgrouped] at hrun
      refine ⟨.error (.genericError "Missing group id"), s', ?_, ?_, .inr ⟨?_, _, rfl⟩⟩
      · rw [iterFetch, run_bind_error hrun]
      · simpa [friendsTaken, hgrouped] using hstore
      · simp [FriendsComplete, hgrouped]
  | fail e => exact ⟨.error e, s, rfl, by simp [friendsTaken], .inr ⟨id, e, rfl⟩⟩

end FriendsFetch

/-! ## How a refresh ends -/

variable (server : Server) (store : Store)

/-- What a refresh of the friends that goes through leaves, but for the friends. -/
theorem refreshFriendsCache_complete (h : FriendsComplete server.friends) :
    ∃ cachedFriends, (refreshFriendsCache server).run.run store = (.ok (),
      { store.insertUinUids ((friendsTaken server.friends).map BotFriend.ids) with cachedFriends }) := by
  obtain ⟨r, s, hrun, hstore, ⟨-, rfl⟩ | ⟨hincomplete, -⟩⟩ :=
    FriendsFetch.iterFetch_taken server.friends { store, friends := ∅, friendGroups := ∅ }
  · unfold refreshFriendsCache
    simp only [run_get_bind, hrun, run_set_bind, ← hstore]
    exact ⟨_, rfl⟩
  · exact absurd h hincomplete

theorem refreshFriendsCache_completes (h : FriendsComplete server.friends) :
    ∃ store', (refreshFriendsCache server).run.run store = (.ok (), store') := by
  obtain ⟨cachedFriends, hrun⟩ := refreshFriendsCache_complete server store h
  exact ⟨_, hrun⟩

/-- What is left of a refresh of the friends that fails. -/
theorem refreshFriendsCache_fails (h : ¬ FriendsComplete server.friends) :
    ∃ e, (refreshFriendsCache server).run.run store =
      (.error e, store.insertUinUids ((friendsTaken server.friends).map BotFriend.ids)) := by
  obtain ⟨r, s, hrun, hstore, ⟨hcomplete, -⟩ | ⟨-, e, rfl⟩⟩ :=
    FriendsFetch.iterFetch_taken server.friends { store, friends := ∅, friendGroups := ∅ }
  · exact absurd hcomplete h
  · unfold refreshFriendsCache
    simp only [run_get_bind, hrun, run_set_bind, ← hstore]
    exact ⟨e, rfl⟩

theorem refreshGroupMembersCache_fails {groupUin : UInt32} {e : ManiaError} {store' : Store}
    (h : (refreshGroupMembersCache server groupUin).run.run store = (.error e, store')) : store' = store := by
  unfold refreshGroupMembersCache at h
  cases hrun : (iterFetch refreshGroupMembersPage (server.members groupUin)).run.run [] with
  | mk result groupMembers =>
    simp only [hrun] at h
    cases result with
    | error e => exact (Prod.mk.inj h).2.symm
    | ok o => cases (Prod.mk.inj h).1

theorem refreshMissingGroup_cached {server : Server} {store : Store} {groupUin : UInt32}
    {members : List BotGroupMember} (h : store.cachedGroupMembers.lookup groupUin = some members) :
    (refreshMissingGroup server groupUin).run.run store = (.ok (), store) := by
  unfold refreshMissingGroup
  rw [run_get_bind, DashMap.containsKey, h]
  rfl

theorem refreshMissingGroup_uncached {server : Server} {store : Store} {groupUin : UInt32}
    (h : store.cachedGroupMembers.lookup groupUin = none) :
    (refreshMissingGroup server groupUin).run.run store = (refreshGroupMembersCache server groupUin).run.run store := by
  unfold refreshMissingGroup
  rw [run_get_bind, DashMap.containsKey, h]
  rfl

/-! ## What is the same after -/

/-- The last uid listed with each uin, and the last uin with each uid, are
those the index has. -/
structure Index.Agrees (index : Index) (people : List (UInt32 × String)) : Prop where
  uin2uid : ∀ uin uid, (DashMap.extend ∅ people).lookup uin = some uid → index.uin2uid.lookup uin = some uid
  uid2uin : ∀ uid uin, (DashMap.extend ∅ (people.map Prod.swap)).lookup uid = some uin →
    index.uid2uin.lookup uid = some uin

structure Index.Same (index index' : Index) : Prop where
  uin2uid : ∀ uin, index'.uin2uid.lookup uin = index.uin2uid.lookup uin
  uid2uin : ∀ uid, index'.uid2uin.lookup uid = index.uid2uin.lookup uid

/-- Every map holds the same under every key. -/
structure Store.Same (store store' : Store) : Prop where
  index : Option.Rel Index.Same store.index store'.index
  friends : ∀ uin, store'.cachedFriends.lookup uin = store.cachedFriends.lookup uin
  members : ∀ groupUin, store'.cachedGroupMembers.lookup groupUin = store.cachedGroupMembers.lookup groupUin

theorem Store.same_refl (store : Store) : store.Same store := by
  obtain ⟨index, friends, members⟩ := store
  refine ⟨?_, fun _ => rfl, fun _ => rfl⟩
  cases index with
  | none => exact .none
  | some index => exact .some ⟨fun _ => rfl, fun _ => rfl⟩

theorem Store.same_insertUinUids_iff {store : Store} {people : List (UInt32 × String)} :
    store.Same (store.insertUinUids people) ↔ ∀ index ∈ store.index, index.Agrees people := by
  obtain ⟨index, friends, members⟩ := store
  constructor
  · rintro ⟨hindex, -, -⟩ index rfl
    cases hindex with
    | some h => exact ⟨DashMap.extend_unchanged_iff.mp h.uin2uid, DashMap.extend_unchanged_iff.mp h.uid2uin⟩
  · intro h
    refine ⟨?_, fun _ => rfl, fun _ => rfl⟩
    cases index with
    | none => exact .none
    | some index =>
      obtain ⟨huin, huid⟩ := h index rfl
      exact .some ⟨DashMap.extend_unchanged_iff.mpr huin, DashMap.extend_unchanged_iff.mpr huid⟩

namespace Cache

/-- `refresh_friends_cache` in any mode. -/
def refreshFriends (server : Server) : Cache → Except ManiaError Unit × Cache
  | some store => withStore (refreshFriendsCache server) store
  | none => (.ok (), none)

/-- `refresh_group_members_cache` in any mode. -/
def refreshGroupMembers (server : Server) (groupUin : UInt32) : Cache → Except ManiaError Unit × Cache
  | some store => withStore (refreshGroupMembersCache server groupUin) store
  | none => (.ok (), none)

def Same : Cache → Cache → Prop := Option.Rel Store.Same

/-- The friends are all there, or the index has those that are taken. -/
def KeptByFriends (server : Server) (cache : Cache) : Prop :=
  FriendsComplete server.friends ∨
    ∀ store ∈ cache, ∀ index ∈ store.index, index.Agrees ((friendsTaken server.friends).map BotFriend.ids)

theorem Same.refl {cache : Cache} : cache.Same cache := by
  cases cache with
  | none => exact .none
  | some store => exact .some store.same_refl

theorem refreshFriends_kept_iff (server : Server) (cache : Cache) :
    (∀ e cache', cache.refreshFriends server = (.error e, cache') → cache.Same cache') ↔ cache.KeptByFriends server := by
  cases cache with
  | none =>
    have kept : KeptByFriends server none := .inr fun _ h => (nomatch h)
    exact ⟨fun _ => kept, fun _ e cache' h => nomatch h⟩
  | some store =>
    by_cases hcomplete : FriendsComplete server.friends
    · obtain ⟨store', hrun⟩ := refreshFriendsCache_completes server store hcomplete
      refine ⟨fun _ => .inl hcomplete, fun _ e cache' h => ?_⟩
      simp only [refreshFriends, withStore, hrun] at h
      cases (Prod.mk.inj h).1
    · obtain ⟨e, hrun⟩ := refreshFriendsCache_fails server store hcomplete
      have hrefresh : refreshFriends server (some store) =
          (.error e, some (store.insertUinUids ((friendsTaken server.friends).map BotFriend.ids))) := by
        simp only [refreshFriends, withStore, hrun]
      constructor
      · intro h
        cases h e _ hrefresh with
        | some hsame =>
          refine .inr fun store' hstore' => ?_
          cases hstore'
          exact Store.same_insertUinUids_iff.mp hsame
      · rintro (h | h) e' cache' hcall
        · exact absurd h hcomplete
        · cases hrefresh.symm.trans hcall
          exact .some (Store.same_insertUinUids_iff.mpr (h store rfl))

theorem refreshGroupMembers_kept (server : Server) (groupUin : UInt32) (cache : Cache) {e : ManiaError} {cache' : Cache}
    (h : cache.refreshGroupMembers server groupUin = (.error e, cache')) : cache' = cache := by
  cases cache with
  | none => cases h
  | some store =>
    cases hrun : (refreshGroupMembersCache server groupUin).run.run store with
    | mk r store' =>
      simp only [refreshGroupMembers, withStore, hrun] at h
      cases h
      rw [refreshGroupMembersCache_fails server store hrun]

/-- A refresh that fails leaves every map as it was, exactly when the friends
do not fail or are in the index as far as they were taken. -/
theorem refresh_atomic_iff (server : Server) (groupUin : UInt32) (cache : Cache) :
    ((∀ e cache', cache.refreshFriends server = (.error e, cache') → cache.Same cache') ∧
      ∀ e cache', cache.refreshGroupMembers server groupUin = (.error e, cache') → cache.Same cache') ↔
    cache.KeptByFriends server := by
  rw [refreshFriends_kept_iff, and_iff_left_iff_imp]
  intro _ e cache' h
  rw [refreshGroupMembers_kept server groupUin cache h]
  exact .refl

/-- A page with a friend, and no second page. -/
def failingServer : Server where
  friends := .more { friends := [aFriend], friendGroups := ∅ } 10001 (.fail (.genericError "Downcast error"))
  members _ := .fail (.genericError "Downcast error")

/-- The friend of the first page stays in the index. -/
theorem refreshFriends_not_atomic :
    ¬ ∀ e cache', (Cache.new .full).refreshFriends failingServer = (.error e, cache') → (Cache.new .full).Same cache' := by
  intro h
  have hcall : (Cache.new .full).refreshFriends failingServer = (.error (.genericError "Downcast error"),
      some { index := some (({ uin2uid := ∅, uid2uin := ∅ } : Index).insertUinUid 10001 "u_friend")
             cachedFriends := ∅
             cachedGroupMembers := ∅ }) := rfl
  cases h _ _ hcall with
  | some hsame =>
    cases hsame.index with
    | some hindex =>
      have found : some "u_friend" = none := hindex.uin2uid 10001
      cases found

end Cache

end Mania
