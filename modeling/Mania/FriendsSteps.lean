/-
`refresh_friends_cache` one map operation at a time, as the lookups of other
tasks see it: the index is filled while the pages are read, then the cached
friends are cleared and put in one by one, in whatever order the collected
map iterates.

After the last step the store is the one a refresh leaves
(`refreshSteps_end`). In between a friend that was cached and is fetched
again is missing (`friendsKept_iff`).
-/
import Mania.CacheRefresh

namespace Mania

open Paged

/-- An operation on one of the shared maps. -/
inductive MapStep where
  | insertUin (uin : UInt32) (uid : String)
  | insertUid (uid : String) (uin : UInt32)
  | clearFriends
  | insertFriend (uin : UInt32) (friend : BotFriend)

def MapStep.apply (store : Store) : MapStep → Store
  | insertUin uin uid =>
    { store with index := store.index.map fun index => { index with uin2uid := index.uin2uid.insert uin uid } }
  | insertUid uid uin =>
    { store with index := store.index.map fun index => { index with uid2uin := index.uid2uin.insert uid uin } }
  | clearFriends => { store with cachedFriends := ∅ }
  | insertFriend uin friend => { store with cachedFriends := store.cachedFriends.insert uin friend }

/-- `insert_uin_uid`. -/
def indexSteps (friend : BotFriend) : List MapStep :=
  [.insertUin friend.uin friend.uid, .insertUid friend.uid friend.uin]

/-- The steps of a refresh that iterates over the collected friends as
`entries`. -/
def refreshSteps (server : Server) (entries : List (UInt32 × BotFriend)) : List MapStep :=
  (friendsTaken server.friends).flatMap indexSteps ++
    if FriendsComplete server.friends then
      .clearFriends :: entries.map fun entry => .insertFriend entry.1 entry.2
    else []

/-- The friends a refresh collects before it touches those cached. -/
def collectedFriends (server : Server) (store : Store) : DashMap UInt32 BotFriend :=
  ((iterFetch refreshFriendsPage server.friends).run.run { store, friends := ∅, friendGroups := ∅ }).2.friends

/-- The store after the first `k` steps. -/
def storeAfter (store : Store) (steps : List MapStep) (k : Nat) : Store := (steps.take k).foldl MapStep.apply store

/-- After any number of steps every friend that was cached and is fetched
again is still cached, and can be looked up by its uin and by its uid. -/
def FriendsKept (server : Server) (store : Store) (entries : List (UInt32 × BotFriend)) : Prop :=
  ∀ k uin friend, store.cachedFriends.lookup uin = some friend → uin ∈ (friendsTaken server.friends).map (·.uin) →
    uin ∈ (storeAfter store (refreshSteps server entries) k).cachedFriends ∧
    (∃ uid, resolveUin2uidWithinCache (storeAfter store (refreshSteps server entries) k) uin none = .ok uid) ∧
    ∃ uin', resolveUid2uinWithinCache (storeAfter store (refreshSteps server entries) k) friend.uid none = .ok uin'

/-! ## The steps put together -/

variable (server : Server) (store : Store)

theorem indexSteps_apply (friends : List BotFriend) :
    (friends.flatMap indexSteps).foldl MapStep.apply store = store.insertUinUids (friends.map BotFriend.ids) := by
  induction friends generalizing store with
  | nil => simp
  | cons friend friends ih =>
    have hfirst : (indexSteps friend).foldl MapStep.apply store = store.insertUinUids [friend.ids] := by
      obtain ⟨_ | index, cachedFriends, members⟩ := store <;> rfl
    rw [List.flatMap_cons, List.foldl_append, hfirst, ih, ← Store.insertUinUids_append]
    rfl

/-- Filling the index touches no cached friend. -/
theorem foldl_indexSteps_friends {steps : List MapStep} {friends : List BotFriend}
    (h : ∀ step ∈ steps, ∃ friend ∈ friends, step ∈ indexSteps friend) :
    (steps.foldl MapStep.apply store).cachedFriends = store.cachedFriends := by
  induction steps generalizing store with
  | nil => rfl
  | cons step steps ih =>
    have hstep : (step.apply store).cachedFriends = store.cachedFriends := by
      obtain ⟨friend, -, hmem⟩ := h step List.mem_cons_self
      simp only [indexSteps, List.mem_cons, List.not_mem_nil, or_false] at hmem
      rcases hmem with rfl | rfl <;> rfl
    rw [List.foldl_cons, ih _ fun s hs => h s (List.mem_cons_of_mem step hs), hstep]

/-- Putting friends in one by one. -/
theorem foldl_insertFriend (entries : List (UInt32 × BotFriend)) :
    (entries.map fun entry => MapStep.insertFriend entry.1 entry.2).foldl MapStep.apply store =
      { store with cachedFriends := store.cachedFriends.extend entries } := by
  induction entries generalizing store with
  | nil => rfl
  | cons entry entries ih =>
    rw [List.map_cons, List.foldl_cons, ih]
    rfl

/-- All the steps of a refresh that goes through. -/
theorem storeAfter_complete (h : FriendsComplete server.friends) (entries : List (UInt32 × BotFriend)) :
    storeAfter store (refreshSteps server entries) (refreshSteps server entries).length =
      { store.insertUinUids ((friendsTaken server.friends).map BotFriend.ids) with
        cachedFriends := DashMap.extend ∅ entries } := by
  rw [storeAfter, List.take_length, refreshSteps, if_pos h, List.foldl_append, indexSteps_apply, List.foldl_cons,
    foldl_insertFriend]
  rfl

/-- **The steps are those of a refresh**: after the last, every map holds
what the refresh leaves in it. -/
theorem refreshSteps_end {entries : List (UInt32 × BotFriend)}
    (hentries : entries.Perm (collectedFriends server store).toList) :
    (storeAfter store (refreshSteps server entries) (refreshSteps server entries).length).Same
      ((refreshFriendsCache server).run.run store).2 := by
  by_cases hcomplete : FriendsComplete server.friends
  · obtain ⟨r, s, hrun, hstore, ⟨-, rfl⟩ | ⟨hincomplete, -⟩⟩ :=
      FriendsFetch.iterFetch_taken server.friends { store, friends := ∅, friendGroups := ∅ }
    · have hrefresh : ((refreshFriendsCache server).run.run store).2 =
          { s.store with cachedFriends := DashMap.extend ∅ s.friends.toList } := by
        unfold refreshFriendsCache
        simp only [run_get_bind, hrun, run_set_bind]
        rfl
      have hcollected : collectedFriends server store = s.friends := by
        rw [collectedFriends, hrun]
      rw [hcollected] at hentries
      rw [storeAfter_complete server store hcomplete, hrefresh, hstore]
      obtain ⟨hindex, -, hmembers⟩ :=
        (store.insertUinUids ((friendsTaken server.friends).map BotFriend.ids)).same_refl
      refine ⟨hindex, fun uin => ?_, hmembers⟩
      exact (DashMap.lookup_extend_toList s.friends uin).trans (DashMap.lookup_extend_of_perm hentries uin).symm
    · exact absurd hcomplete hincomplete
  · obtain ⟨e, hrun⟩ := refreshFriendsCache_fails server store hcomplete
    have hsteps : storeAfter store (refreshSteps server entries) (refreshSteps server entries).length =
        store.insertUinUids ((friendsTaken server.friends).map BotFriend.ids) := by
      rw [storeAfter, List.take_length, refreshSteps, if_neg hcomplete, List.append_nil, indexSteps_apply]
    rw [hsteps, hrun]
    exact Store.same_refl _

/-! ## Between two steps -/

/-- A cached friend is found by either id. -/
theorem resolve_cached {store : Store} {uin : UInt32} {friend : BotFriend}
    (h : store.cachedFriends.lookup uin = some friend) :
    (∃ uid, resolveUin2uidWithinCache store uin none = .ok uid) ∧
      ∃ uin', resolveUid2uinWithinCache store friend.uid none = .ok uin' := by
  constructor
  · unfold resolveUin2uidWithinCache
    cases store.index.bind fun index => index.uin2uid.lookup uin with
    | some uid => exact ⟨uid, rfl⟩
    | none =>
      refine ⟨friend.uid, ?_⟩
      simp only [h]
      rfl
  · unfold resolveUid2uinWithinCache
    cases store.index.bind fun index => index.uid2uin.lookup friend.uid with
    | some uin' => exact ⟨uin', rfl⟩
    | none =>
      have hfind : (store.cachedFriends.toList.find? (·.2.uid = friend.uid)).isSome := by
        rw [List.find?_isSome]
        exact ⟨(uin, friend), DashMap.mem_toList.mpr h, decide_eq_true rfl⟩
      obtain ⟨entry, hentry⟩ := Option.isSome_iff_exists.mp hfind
      refine ⟨entry.1, ?_⟩
      simp only [hentry]
      rfl

/-- Right after the clear nobody is cached. -/
theorem storeAfter_clear (h : FriendsComplete server.friends) (entries : List (UInt32 × BotFriend)) :
    (storeAfter store (refreshSteps server entries)
      (((friendsTaken server.friends).flatMap indexSteps).length + 1)).cachedFriends = ∅ := by
  rw [storeAfter, refreshSteps, if_pos h, List.take_length_add_append, List.foldl_append]
  rfl

/-- The friends are kept between all the steps exactly when the refresh does
not get as far as the clear, or fetches nobody who was cached. -/
theorem friendsKept_iff (entries : List (UInt32 × BotFriend)) :
    FriendsKept server store entries ↔
      (FriendsComplete server.friends →
        ∀ uin ∈ store.cachedFriends, uin ∉ (friendsTaken server.friends).map (·.uin)) := by
  constructor
  · intro hkept hcomplete uin hcached hfetched
    obtain ⟨friend, hfriend⟩ := Option.isSome_iff_exists.mp (AList.lookup_isSome.mpr hcached)
    have hmem := (hkept (((friendsTaken server.friends).flatMap indexSteps).length + 1) uin friend hfriend hfetched).1
    rw [storeAfter_clear server store hcomplete entries] at hmem
    exact AList.notMem_empty uin hmem
  · intro h k uin friend hfriend hfetched
    have hcached : uin ∈ store.cachedFriends := AList.lookup_isSome.mp (hfriend ▸ rfl)
    by_cases hcomplete : FriendsComplete server.friends
    · exact absurd hfetched (h hcomplete uin hcached)
    · -- the steps are those of the index alone
      have hkept : (storeAfter store (refreshSteps server entries) k).cachedFriends = store.cachedFriends := by
        rw [storeAfter, refreshSteps, if_neg hcomplete, List.append_nil]
        exact foldl_indexSteps_friends store fun step hstep => List.mem_flatMap.mp (List.mem_of_mem_take hstep)
      have hlookup := hfriend
      rw [← hkept] at hlookup
      exact ⟨hkept ▸ hcached, resolve_cached hlookup⟩

/-! ## A friend that is cached and fetched again -/

/-- Mode Half, with the one friend in the cache. -/
def friendCached : Store where
  index := none
  cachedFriends := AList.singleton 10001 aFriend
  cachedGroupMembers := ∅

/-- Between the clear and the insert the friend is gone, and neither of its
ids is found. -/
theorem friendCached_not_kept :
    ¬ FriendsKept friendAndGroup friendCached [(10001, aFriend)] ∧
      resolveUin2uidWithinCache friendCached 10001 none = .ok "u_friend" ∧
      resolveUin2uidWithinCache (storeAfter friendCached (refreshSteps friendAndGroup [(10001, aFriend)]) 3) 10001 none =
        .error (.genericError "Friend not found") ∧
      resolveUid2uinWithinCache (storeAfter friendCached (refreshSteps friendAndGroup [(10001, aFriend)]) 3) "u_friend"
          none =
        .error (.genericError "Friend not found") ∧
      resolveUin2uidWithinCache (storeAfter friendCached (refreshSteps friendAndGroup [(10001, aFriend)]) 4) 10001 none =
        .ok "u_friend" := by
  refine ⟨fun h => ?_, rfl, rfl, rfl, rfl⟩
  obtain ⟨-, ⟨uid, huid⟩, -⟩ := h 3 10001 aFriend rfl List.mem_cons_self
  cases huid

end Mania
