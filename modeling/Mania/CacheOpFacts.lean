/-
The cache against the directory it is filled from.

`Filled` is the invariant of a cache over every sequence of calls: what it
holds is what the directory has, and a cached friend is in the index when
there is one. So a lookup in the cache never answers wrong; whether it
answers at all depends on what the calls before it have fetched.
-/
import Mathlib.Data.List.ProdSigma
import Mania.Directory

namespace Mania

open Paged

/-! ## Entries of the index -/

def Index.insertUinUids (index : Index) (people : List (UInt32 × String)) : Index where
  uin2uid := index.uin2uid.extend people
  uid2uin := index.uid2uin.extend (people.map Prod.swap)

def Store.insertUinUids (store : Store) (people : List (UInt32 × String)) : Store :=
  { store with index := store.index.map fun index => index.insertUinUids people }

namespace Store

variable (store : Store)

@[simp] theorem insertUinUids_nil : store.insertUinUids [] = store := by
  obtain ⟨_ | index, friends, members⟩ := store <;> rfl

theorem insertUinUids_append (people people' : List (UInt32 × String)) :
    store.insertUinUids (people ++ people') = (store.insertUinUids people).insertUinUids people' := by
  obtain ⟨_ | index, friends, members⟩ := store
  · rfl
  · simp [insertUinUids, Index.insertUinUids, DashMap.extend_append]

theorem insertUinUids_single (uin : UInt32) (uid : String) :
    store.insertUinUids [(uin, uid)] = store.insertUinUid uin uid := rfl

theorem foldl_insertUinUid (members : List BotGroupMember) :
    members.foldl (fun store bgm => store.insertUinUid bgm.uin bgm.uid) store =
      store.insertUinUids (members.map BotGroupMember.ids) := by
  induction members generalizing store with
  | nil => simp
  | cons bgm members ih =>
    rw [List.foldl_cons, ih, ← insertUinUids_single, ← insertUinUids_append]
    rfl

end Store

/-! ## What a refresh does -/

namespace FriendsFetch

/-- One friend of a page taken in. -/
def add (s : FriendsFetch) (friend : BotFriend) : FriendsFetch :=
  match friend.group with
  | none => s
  | some group => s.insert (s.withGroupName friend group)

def addPage (s : FriendsFetch) (event : FetchFriendsEvent) : FriendsFetch :=
  event.friends.foldl add { s with friendGroups := s.friendGroups.extend event.friendGroups.toList }

/-- The state after the friends `taken`, from the cache `store`. -/
structure Taken (store : Store) (taken : List BotFriend) (s : FriendsFetch) : Prop where
  store_eq : s.store = store.insertUinUids (taken.map BotFriend.ids)
  mem_taken : ∀ uin friend, s.friends.lookup uin = some friend → (uin, friend.uid) ∈ taken.map BotFriend.ids
  mem_friends : ∀ friend ∈ taken, friend.uin ∈ s.friends

variable {store : Store} {taken : List BotFriend} {s : FriendsFetch}

theorem withGroupName_ids (s : FriendsFetch) (friend : BotFriend) (group : BotFriendGroup) :
    (s.withGroupName friend group).ids = friend.ids := by
  unfold withGroupName
  split <;> rfl

theorem Taken.add {friend : BotFriend} (h : Taken store taken s) (hgroup : friend.group ≠ none) :
    Taken store (taken ++ [friend]) (s.add friend) := by
  obtain ⟨group, hgroup⟩ := Option.ne_none_iff_exists'.mp hgroup
  have hids := s.withGroupName_ids friend group
  obtain ⟨huin, huid⟩ := Prod.mk.inj hids
  simp only [FriendsFetch.add, hgroup, insert]
  refine ⟨?_, ?_, ?_⟩
  · rw [List.map_append, Store.insertUinUids_append, ← h.store_eq, huin, huid]
    rfl
  · intro uin f hf
    rw [List.map_append, List.mem_append]
    rw [DashMap.lookup_insert_eq] at hf
    split at hf
    · next heq =>
      cases hf
      rw [heq]
      exact .inr (List.mem_singleton.mpr hids)
    · exact .inl (h.mem_taken uin f hf)
  · intro f hf
    rw [AList.mem_insert]
    rcases List.mem_append.mp hf with hf | hf
    · exact .inr (h.mem_friends f hf)
    · cases List.mem_singleton.mp hf
      exact .inl huin.symm

theorem Taken.addAll {friends : List BotFriend} (h : Taken store taken s)
    (hgroups : ∀ friend ∈ friends, friend.group ≠ none) :
    Taken store (taken ++ friends) (friends.foldl FriendsFetch.add s) := by
  induction friends generalizing taken s with
  | nil => simpa using h
  | cons friend friends ih =>
    have hrest := ih (h.add (hgroups friend List.mem_cons_self)) fun f hf => hgroups f (List.mem_cons_of_mem friend hf)
    rwa [List.append_assoc] at hrest

theorem Taken.addPages {pages : List FetchFriendsEvent} (h : Taken store taken s)
    (hgroups : ∀ friend ∈ pages.flatMap (·.friends), friend.group ≠ none) :
    Taken store (taken ++ pages.flatMap (·.friends)) (pages.foldl FriendsFetch.addPage s) := by
  induction pages generalizing taken s with
  | nil => simpa using h
  | cons event pages ih =>
    have hnames : Taken store taken { s with friendGroups := s.friendGroups.extend event.friendGroups.toList } :=
      ⟨h.store_eq, h.mem_taken, h.mem_friends⟩
    have hfriends : ∀ friend ∈ event.friends, friend.group ≠ none := fun f hf =>
      hgroups f (List.mem_append_left _ hf)
    have hpage := hnames.addAll hfriends
    have hrest := ih hpage fun f hf => hgroups f (List.mem_append_right _ hf)
    rwa [List.append_assoc] at hrest

theorem refreshFriend_run {friend : BotFriend} (h : friend.group ≠ none) (s : FriendsFetch) :
    (refreshFriend friend).run.run s = (.ok (), s.add friend) := by
  obtain ⟨group, hgroup⟩ := Option.ne_none_iff_exists'.mp h
  unfold add refreshFriend
  rw [hgroup]
  rfl

theorem refreshFriendsPage_run {event : FetchFriendsEvent} (h : ∀ friend ∈ event.friends, friend.group ≠ none)
    (s : FriendsFetch) : (refreshFriendsPage event).run.run s = (.ok none, s.addPage event) := by
  have hforM := forM_fold (fun friend hf => refreshFriend_run (h friend hf))
    { s with friendGroups := s.friendGroups.extend event.friendGroups.toList }
  unfold refreshFriendsPage
  rw [run_modify_bind, run_bind_ok hforM]
  rfl

end FriendsFetch

/-- The cache after the friend list was fetched into it. -/
structure FriendsRefreshed (d : Directory) (store store' : Store) : Prop where
  index_eq : store'.index = (store.insertUinUids (d.friendList.map BotFriend.ids)).index
  members_eq : store'.cachedGroupMembers = store.cachedGroupMembers
  mem_friendList : ∀ uin friend, store'.cachedFriends.lookup uin = some friend →
    (uin, friend.uid) ∈ d.friendList.map BotFriend.ids
  mem_cached : ∀ friend ∈ d.friendList, friend.uin ∈ store'.cachedFriends

theorem refreshFriendsCache_run (d : Directory) (store : Store) :
    ∃ store', (refreshFriendsCache d.toServer).run.run store = (.ok (), store') ∧ FriendsRefreshed d store store' := by
  have hpages := iterPages_fold (fun event hevent => FriendsFetch.refreshFriendsPage_run fun friend hf =>
    d.grouped friend (List.mem_flatMap.mpr ⟨event, hevent, hf⟩)) { store, friends := ∅, friendGroups := ∅ }
  have hstart : FriendsFetch.Taken store [] { store, friends := ∅, friendGroups := ∅ } :=
    ⟨by simp, by simp, by simp⟩
  have htaken := hstart.addPages d.grouped
  rw [← iterFetch_eq d.friends_succeed] at hpages
  unfold refreshFriendsCache
  simp only [run_get_bind, hpages, run_set_bind]
  have hindex := congrArg Store.index htaken.store_eq
  have hmembers := congrArg Store.cachedGroupMembers htaken.store_eq
  refine ⟨_, rfl, hindex, hmembers, ?_, ?_⟩
  · intro uin friend hlookup
    rcases DashMap.lookup_extend_some hlookup with hmem | hempty
    · exact htaken.mem_taken uin friend (DashMap.mem_toList.mp hmem)
    · simp at hempty
  · intro friend hfriend
    obtain ⟨cached, hcached⟩ := Option.isSome_iff_exists.mp (AList.lookup_isSome.mpr (htaken.mem_friends friend hfriend))
    exact DashMap.mem_extend.mpr (.inl ⟨cached, DashMap.mem_toList.mpr hcached⟩)

theorem refreshGroupMembersCache_run (d : Directory) (groupUin : UInt32) (store : Store) :
    (refreshGroupMembersCache d.toServer groupUin).run.run store = (.ok (),
      { store.insertUinUids ((d.memberList groupUin).map BotGroupMember.ids) with
        cachedGroupMembers := store.cachedGroupMembers.insert groupUin (d.memberList groupUin) }) := by
  have hpages : (iterFetch refreshGroupMembersPage (d.members groupUin)).run.run [] =
      (.ok none, (d.members groupUin).pages.foldl (fun ms event => ms ++ event.groupMembers) []) := by
    rw [iterFetch_eq (d.members_succeed groupUin)]
    exact iterPages_fold (fun _ _ _ => rfl) []
  have hmembers : (d.members groupUin).pages.foldl (fun ms event => ms ++ event.groupMembers) [] =
      d.memberList groupUin := by
    rw [List.foldl_append_eq_append, List.nil_append]
    rfl
  unfold refreshGroupMembersCache
  simp only [hpages, hmembers, run_modify_bind, Store.foldl_insertUinUid]
  rfl

/-! ## The invariant -/

/-- The index has nobody but `people`. -/
structure Index.Within (index : Index) (people : Set (UInt32 × String)) : Prop where
  uin2uid : ∀ uin uid, index.uin2uid.lookup uin = some uid → (uin, uid) ∈ people
  uid2uin : ∀ uid uin, index.uid2uin.lookup uid = some uin → (uin, uid) ∈ people

theorem Index.Within.insertUinUids {index : Index} {people : Set (UInt32 × String)} {new : List (UInt32 × String)}
    (h : index.Within people) (hnew : ∀ p ∈ new, p ∈ people) : (index.insertUinUids new).Within people where
  uin2uid uin uid hlookup := by
    rcases DashMap.lookup_extend_some hlookup with hmem | hold
    · exact hnew _ hmem
    · exact h.uin2uid uin uid hold
  uid2uin uid uin hlookup := by
    rcases DashMap.lookup_extend_some hlookup with hmem | hold
    · exact hnew _ ((List.mem_map_swap _ _ _).mp hmem)
    · exact h.uid2uin uid uin hold

/-- The index has both ids of one person. -/
structure Index.Has (index : Index) (p : UInt32 × String) : Prop where
  uin2uid : p.1 ∈ index.uin2uid
  uid2uin : p.2 ∈ index.uid2uin

theorem Index.has_insertUinUids {index : Index} {new : List (UInt32 × String)} {p : UInt32 × String} :
    p ∈ new ∨ index.Has p → (index.insertUinUids new).Has p := by
  intro h
  rcases h with hmem | hold
  · exact ⟨DashMap.mem_extend.mpr (.inl ⟨p.2, hmem⟩),
      DashMap.mem_extend.mpr (.inl ⟨p.1, (List.mem_map_swap _ _ _).mpr hmem⟩)⟩
  · exact ⟨DashMap.mem_extend.mpr (.inr hold.uin2uid), DashMap.mem_extend.mpr (.inr hold.uid2uin)⟩

structure Filled (d : Directory) (store : Store) : Prop where
  index_within : ∀ index ∈ store.index, index.Within d.people
  friend_mem : ∀ uin friend, store.cachedFriends.lookup uin = some friend → (uin, friend.uid) ∈ d.people
  members_eq : ∀ groupUin members, store.cachedGroupMembers.lookup groupUin = some members →
    members = d.memberList groupUin
  friend_indexed : ∀ index ∈ store.index, ∀ uin friend, store.cachedFriends.lookup uin = some friend →
    index.Has (uin, friend.uid)

namespace Filled

variable {d : Directory} {store store' : Store}

theorem insertUinUids {people : List (UInt32 × String)} (h : Filled d store) (hpeople : ∀ p ∈ people, p ∈ d.people) :
    Filled d (store.insertUinUids people) where
  index_within index hindex := by
    obtain ⟨old, hold, rfl⟩ := Option.mem_map.mp hindex
    exact (h.index_within old hold).insertUinUids hpeople
  friend_mem := h.friend_mem
  members_eq := h.members_eq
  friend_indexed index hindex uin friend hfriend := by
    obtain ⟨old, hold, rfl⟩ := Option.mem_map.mp hindex
    exact Index.has_insertUinUids (.inr (h.friend_indexed old hold uin friend hfriend))

theorem friend_ids_mem {p : UInt32 × String} (h : p ∈ d.friendList.map BotFriend.ids) : p ∈ d.people := by
  obtain ⟨friend, hfriend, rfl⟩ := List.mem_map.mp h
  exact d.friend_mem_people hfriend

theorem member_ids_mem {groupUin : UInt32} {p : UInt32 × String}
    (h : p ∈ (d.memberList groupUin).map BotGroupMember.ids) : p ∈ d.people := by
  obtain ⟨member, hmember, rfl⟩ := List.mem_map.mp h
  exact d.member_mem_people hmember

theorem refreshFriends (h : Filled d store) (hrefresh : FriendsRefreshed d store store') : Filled d store' where
  index_within index hindex :=
    (h.insertUinUids fun _ => friend_ids_mem).index_within index (hrefresh.index_eq ▸ hindex)
  friend_mem uin friend hfriend := friend_ids_mem (hrefresh.mem_friendList uin friend hfriend)
  members_eq := hrefresh.members_eq ▸ h.members_eq
  friend_indexed index hindex uin friend hfriend := by
    rw [hrefresh.index_eq] at hindex
    obtain ⟨old, _, rfl⟩ := Option.mem_map.mp hindex
    exact Index.has_insertUinUids (.inl (hrefresh.mem_friendList uin friend hfriend))

theorem refreshMembers (h : Filled d store) (groupUin : UInt32) :
    Filled d { store.insertUinUids ((d.memberList groupUin).map BotGroupMember.ids) with
      cachedGroupMembers := store.cachedGroupMembers.insert groupUin (d.memberList groupUin) } := by
  have hpeople : ∀ p ∈ (d.memberList groupUin).map BotGroupMember.ids, p ∈ d.people := fun _ => member_ids_mem
  have hindex := h.insertUinUids hpeople
  refine ⟨hindex.index_within, hindex.friend_mem, ?_, hindex.friend_indexed⟩
  intro g members hlookup
  rw [DashMap.lookup_insert_eq] at hlookup
  split at hlookup
  · next heq =>
    cases hlookup
    rw [heq]
  · exact h.members_eq g members hlookup

end Filled

theorem filled_new (d : Directory) (mode : CacheMode) : ∀ store ∈ Cache.new mode, Filled d store := by
  intro store hstore
  cases mode with
  | full =>
    cases hstore
    refine ⟨?_, by simp, by simp, by simp⟩
    intro index hindex
    cases hindex
    exact ⟨by simp, by simp⟩
  | half =>
    cases hstore
    exact ⟨by simp, by simp, by simp, by simp⟩
  | none => cases hstore

/-! ## Calls -/

theorem refreshEmptyIndex_run (d : Directory) (indexEmpty : Index → Bool) (store : Store) :
    ∃ store', (refreshEmptyIndex d.toServer indexEmpty).run.run store = (.ok (), store') ∧
      if store.index.any indexEmpty then FriendsRefreshed d store store' else store' = store := by
  unfold refreshEmptyIndex
  rw [run_get_bind]
  split
  · exact refreshFriendsCache_run d store
  · exact ⟨store, rfl, rfl⟩

theorem refreshMissingFriend_run (d : Directory) (maybeFriendUin : Option UInt32) (store : Store) :
    ∃ store', (refreshMissingFriend d.toServer maybeFriendUin).run.run store = (.ok (), store') ∧
      (FriendsRefreshed d store store' ∨ store' = store) := by
  unfold refreshMissingFriend
  rw [run_get_bind]
  split
  · obtain ⟨store', hrun, hrefresh⟩ := refreshFriendsCache_run d store
    exact ⟨store', hrun, .inl hrefresh⟩
  · exact ⟨store, rfl, .inr rfl⟩

theorem refreshMissingGroup_run {d : Directory} {store : Store} (h : Filled d store) (groupUin : UInt32) :
    ∃ store', (refreshMissingGroup d.toServer groupUin).run.run store = (.ok (), store') ∧ Filled d store' ∧
      store'.cachedGroupMembers.lookup groupUin = some (d.memberList groupUin) := by
  unfold refreshMissingGroup
  rw [run_get_bind, DashMap.containsKey]
  cases hlookup : store.cachedGroupMembers.lookup groupUin with
  | some members =>
    have hmembers := h.members_eq groupUin members hlookup
    exact ⟨store, rfl, h, hmembers ▸ hlookup⟩
  | none => exact ⟨_, refreshGroupMembersCache_run d groupUin store, h.refreshMembers groupUin, AList.lookup_insert _⟩

theorem Filled.refreshIf {d : Directory} {store store' : Store} {c : Prop} [Decidable c] (h : Filled d store)
    (hrefresh : if c then FriendsRefreshed d store store' else store' = store) : Filled d store' := by
  split at hrefresh
  · exact h.refreshFriends hrefresh
  · exact hrefresh ▸ h

/-- The cache that a lookup is made in: the group asked for is there, and
the friends were fetched when the index is there and empty. -/
theorem refreshMissing_run {d : Directory} {store : Store} (h : Filled d store) (indexEmpty : Index → Bool)
    (groupUin : Option UInt32) :
    ∃ store', (refreshMissing d.toServer indexEmpty groupUin).run.run store = (.ok (), store') ∧ Filled d store' ∧
      match groupUin with
      | some groupUin => store'.cachedGroupMembers.lookup groupUin = some (d.memberList groupUin)
      | none => if store.index.any indexEmpty then FriendsRefreshed d store store' else store' = store := by
  obtain ⟨friends, hrun, hfriends⟩ := refreshEmptyIndex_run d indexEmpty store
  have hfilled := h.refreshIf hfriends
  unfold refreshMissing
  rw [run_bind_ok hrun]
  cases groupUin with
  | none => exact ⟨friends, rfl, hfilled, hfriends⟩
  | some groupUin => exact refreshMissingGroup_run hfilled groupUin

theorem withStore_ofExcept {α : Type} {x : Closure Store Unit} {store store' : Store}
    (hrun : x.run.run store = (.ok (), store')) (f : Store → Except ManiaError α) :
    withStore (do x; let store ← get; MonadExcept.ofExcept (f store)) store = (f store', some store') := by
  unfold withStore
  rw [run_bind_ok hrun, run_get_bind]
  cases f store' <;> rfl

/-- Every lookup is one in the filled cache. -/
theorem uin2uid_run {d : Directory} {store store' : Store} {uin : UInt32} {groupUin : Option UInt32}
    (hrun : (refreshMissing d.toServer (fun index => index.uin2uid.isEmpty) groupUin).run.run store = (.ok (), store')) :
    uin2uid d.toServer uin groupUin (some store) = (resolveUin2uidWithinCache store' uin groupUin, some store') :=
  withStore_ofExcept hrun fun store => resolveUin2uidWithinCache store uin groupUin

theorem uid2uin_run {d : Directory} {store store' : Store} {uid : String} {groupUin : Option UInt32}
    (hrun : (refreshMissing d.toServer (fun index => index.uid2uin.isEmpty) groupUin).run.run store = (.ok (), store')) :
    uid2uin d.toServer uid groupUin (some store) = (resolveUid2uinWithinCache store' uid groupUin, some store') :=
  withStore_ofExcept hrun fun store => resolveUid2uinWithinCache store uid groupUin

theorem fetchMaybeCachedFriends_filled {d : Directory} {store : Store} (h : Filled d store)
    (maybeFriendUin : Option UInt32) (processFn : DashMap UInt32 BotFriend → List BotFriend) (refreshCache : Bool) :
    ∃ store', (fetchMaybeCachedFriends d.toServer maybeFriendUin processFn refreshCache (some store)) =
      (.ok (processFn store'.cachedFriends), some store') ∧ Filled d store' := by
  obtain ⟨first, hfirst, hfilled⟩ : ∃ first,
      (if refreshCache then refreshFriendsCache d.toServer else pure ()).run.run store = (.ok (), first) ∧
      Filled d first := by
    split
    · obtain ⟨first, hrun, hrefresh⟩ := refreshFriendsCache_run d store
      exact ⟨first, hrun, h.refreshFriends hrefresh⟩
    · exact ⟨store, rfl, h⟩
  obtain ⟨second, hsecond, hrefresh⟩ := refreshMissingFriend_run d maybeFriendUin first
  unfold fetchMaybeCachedFriends withStore
  simp only [run_bind_ok hfirst, run_bind_ok hsecond, run_get_bind]
  refine ⟨second, rfl, ?_⟩
  rcases hrefresh with hrefresh | rfl
  · exact hfilled.refreshFriends hrefresh
  · exact hfilled

theorem fetchMaybeCachedGroupMembers_filled {d : Directory} {store : Store} (h : Filled d store) (groupUin : UInt32)
    (processFn : DashMap UInt32 (List BotGroupMember) → List BotGroupMember) (refreshCache : Bool) :
    ∃ store', fetchMaybeCachedGroupMembers d.toServer groupUin processFn refreshCache (some store) =
      (.ok (processFn store'.cachedGroupMembers), some store') ∧ Filled d store' := by
  obtain ⟨first, hfirst, hfilled⟩ : ∃ first,
      (if refreshCache then refreshGroupMembersCache d.toServer groupUin else pure ()).run.run store =
        (.ok (), first) ∧ Filled d first := by
    split
    · exact ⟨_, refreshGroupMembersCache_run d groupUin store, h.refreshMembers groupUin⟩
    · exact ⟨store, rfl, h⟩
  obtain ⟨second, hsecond, hfilled, -⟩ := refreshMissingGroup_run hfilled groupUin
  unfold fetchMaybeCachedGroupMembers withStore
  simp only [run_bind_ok hfirst, run_bind_ok hsecond, run_get_bind]
  exact ⟨second, rfl, hfilled⟩

/-- A call of an operation keeps the invariant. -/
theorem exec_filled {d : Directory} {cache : Cache} (h : ∀ store ∈ cache, Filled d store) (call : CacheCall) :
    ∀ store ∈ call.exec d.toServer cache, Filled d store := by
  intro store' hstore'
  cases cache with
  | none =>
    cases call with
    | uin2uid uin groupUin => cases groupUin <;> cases hstore'
    | uid2uin uid groupUin => cases groupUin <;> cases hstore'
    | _ => cases hstore'
  | some store =>
    have h := h store rfl
    cases call with
    | uin2uid uin groupUin =>
      obtain ⟨after, hrun, hafter, -⟩ := refreshMissing_run h (fun index => index.uin2uid.isEmpty) groupUin
      rw [CacheCall.exec, uin2uid_run hrun] at hstore'
      cases hstore'
      exact hafter
    | uid2uin uid groupUin =>
      obtain ⟨after, hrun, hafter, -⟩ := refreshMissing_run h (fun index => index.uid2uin.isEmpty) groupUin
      rw [CacheCall.exec, uid2uin_run hrun] at hstore'
      cases hstore'
      exact hafter
    | refreshFriendsCache =>
      obtain ⟨after, hrun, hrefresh⟩ := refreshFriendsCache_run d store
      simp only [CacheCall.exec, Option.bind_some, withStore, hrun] at hstore'
      cases hstore'
      exact h.refreshFriends hrefresh
    | refreshGroupMembersCache groupUin =>
      simp only [CacheCall.exec, Option.bind_some, withStore, refreshGroupMembersCache_run] at hstore'
      cases hstore'
      exact h.refreshMembers groupUin
    | fetchMaybeCachedFriends maybeFriendUin processFn refreshCache =>
      obtain ⟨after, hrun, hafter⟩ := fetchMaybeCachedFriends_filled h maybeFriendUin processFn refreshCache
      rw [CacheCall.exec, hrun] at hstore'
      cases hstore'
      exact hafter
    | fetchMaybeCachedGroupMembers groupUin processFn refreshCache =>
      obtain ⟨after, hrun, hafter⟩ := fetchMaybeCachedGroupMembers_filled h groupUin processFn refreshCache
      rw [CacheCall.exec, hrun] at hstore'
      cases hstore'
      exact hafter

theorem run_filled (d : Directory) {cache : Cache} (h : ∀ store ∈ cache, Filled d store) (calls : List CacheCall) :
    ∀ store ∈ calls.foldl (CacheCall.exec d.toServer) cache, Filled d store := by
  induction calls generalizing cache with
  | nil => exact h
  | cons call calls ih => exact ih (exec_filled h call)

/-! ## Lookups -/

namespace Cache

/-- Whether a lookup of a friend's uid in the cache finds it: with an index,
the index has the uin or the friends are about to be fetched; without one,
the friends fetched so far have it. -/
def answersUin : Cache → UInt32 → Bool
  | none, _ => true
  | some store, uin =>
    match store.index with
    | some index => index.uin2uid.isEmpty || index.uin2uid.containsKey uin
    | none => store.cachedFriends.containsKey uin

def answersUid : Cache → String → Bool
  | none, _ => true
  | some store, uid =>
    match store.index with
    | some index => index.uid2uin.isEmpty || index.uid2uin.containsKey uid
    | none => store.cachedFriends.toList.any (·.2.uid = uid)

end Cache

theorem notFound_ok {α : Type} {message : String} {x : Option α} {a : α} : notFound message x = .ok a ↔ x = some a := by
  cases x <;> simp [notFound]

theorem find_uid_mem {d : Directory} {groupUin uin : UInt32} {uid : String}
    (h : ((d.memberList groupUin).find? (·.uin = uin)).map (·.uid) = some uid) : (uin, uid) ∈ d.people := by
  obtain ⟨member, hfind, rfl⟩ := Option.map_eq_some_iff.mp h
  have huin : member.uin = uin := by simpa using List.find?_some hfind
  exact huin ▸ d.member_mem_people (List.mem_of_find?_eq_some hfind)

theorem find_uin_mem {d : Directory} {groupUin uin : UInt32} {uid : String}
    (h : ((d.memberList groupUin).find? (·.uid = uid)).map (·.uin) = some uin) : (uin, uid) ∈ d.people := by
  obtain ⟨member, hfind, rfl⟩ := Option.map_eq_some_iff.mp h
  have huid : member.uid = uid := by simpa using List.find?_some hfind
  exact huid ▸ d.member_mem_people (List.mem_of_find?_eq_some hfind)

theorem bind_ok {ε α β : Type} {x : Except ε α} {f : α → Except ε β} {b : β} :
    (x >>= f) = .ok b ↔ ∃ a, x = .ok a ∧ f a = .ok b := by
  cases x with
  | error e => simp [bind, Except.bind]
  | ok a => simp [bind, Except.bind]

theorem find_friend_uid_mem {d : Directory} {uin : UInt32} {uid : String}
    (h : (d.friendList.find? (·.uin = uin)).map (·.uid) = some uid) : (uin, uid) ∈ d.friendList.map BotFriend.ids := by
  obtain ⟨friend, hfind, rfl⟩ := Option.map_eq_some_iff.mp h
  have huin : friend.uin = uin := by simpa using List.find?_some hfind
  exact List.mem_map.mpr ⟨friend, List.mem_of_find?_eq_some hfind, huin ▸ rfl⟩

theorem find_friend_uin_mem {d : Directory} {uin : UInt32} {uid : String}
    (h : (d.friendList.find? (·.uid = uid)).map (·.uin) = some uin) : (uin, uid) ∈ d.friendList.map BotFriend.ids := by
  obtain ⟨friend, hfind, rfl⟩ := Option.map_eq_some_iff.mp h
  have huid : friend.uid = uid := by simpa using List.find?_some hfind
  exact List.mem_map.mpr ⟨friend, List.mem_of_find?_eq_some hfind, huid ▸ rfl⟩

/-- What the cache answers is so. -/
theorem resolveUin2uid_mem {d : Directory} {store : Store} (h : Filled d store) {uin : UInt32} {uid : String}
    {groupUin : Option UInt32} (hr : resolveUin2uidWithinCache store uin groupUin = .ok uid) : (uin, uid) ∈ d.people := by
  unfold resolveUin2uidWithinCache at hr
  split at hr
  · next uid' hindex =>
    cases hr
    obtain ⟨index, hstore, hlookup⟩ := Option.bind_eq_some_iff.mp hindex
    exact (h.index_within index hstore).uin2uid uin uid hlookup
  · cases groupUin with
    | some groupUin =>
      obtain ⟨members, hmembers, hfind⟩ := bind_ok.mp hr
      have hlist := h.members_eq groupUin members (notFound_ok.mp hmembers)
      exact find_uid_mem (hlist ▸ notFound_ok.mp hfind)
    | none =>
      obtain ⟨friend, hfriend, hr⟩ := bind_ok.mp hr
      cases hr
      exact h.friend_mem uin friend (notFound_ok.mp hfriend)

theorem resolveUid2uin_mem {d : Directory} {store : Store} (h : Filled d store) {uin : UInt32} {uid : String}
    {groupUin : Option UInt32} (hr : resolveUid2uinWithinCache store uid groupUin = .ok uin) : (uin, uid) ∈ d.people := by
  unfold resolveUid2uinWithinCache at hr
  split at hr
  · next uin' hindex =>
    cases hr
    obtain ⟨index, hstore, hlookup⟩ := Option.bind_eq_some_iff.mp hindex
    exact (h.index_within index hstore).uid2uin uid uin hlookup
  · cases groupUin with
    | some groupUin =>
      obtain ⟨members, hmembers, hfind⟩ := bind_ok.mp hr
      have hlist := h.members_eq groupUin members (notFound_ok.mp hmembers)
      exact find_uin_mem (hlist ▸ notFound_ok.mp hfind)
    | none =>
      obtain ⟨entry, hentry, hr⟩ := bind_ok.mp hr
      cases hr
      have hfind := notFound_ok.mp hentry
      have huid : entry.2.uid = uid := by simpa using List.find?_some hfind
      have hlookup := DashMap.mem_toList.mp (List.mem_of_find?_eq_some hfind)
      exact huid ▸ h.friend_mem entry.1 entry.2 hlookup

/-- A group member is found: the group is cached by then. -/
theorem resolveUin2uid_member {d : Directory} {store : Store} (h : Filled d store) {groupUin uin : UInt32} {uid : String}
    (hmembers : store.cachedGroupMembers.lookup groupUin = some (d.memberList groupUin))
    (hfind : ((d.memberList groupUin).find? (·.uin = uin)).map (·.uid) = some uid) :
    resolveUin2uidWithinCache store uin (some groupUin) = .ok uid := by
  obtain ⟨uid', hr⟩ : ∃ uid', resolveUin2uidWithinCache store uin (some groupUin) = .ok uid' := by
    unfold resolveUin2uidWithinCache
    split
    · exact ⟨_, rfl⟩
    · exact ⟨uid, bind_ok.mpr ⟨_, notFound_ok.mpr hmembers, notFound_ok.mpr hfind⟩⟩
  rw [hr, d.uid_unique (resolveUin2uid_mem h hr) (find_uid_mem hfind)]

theorem resolveUid2uin_member {d : Directory} {store : Store} (h : Filled d store) {groupUin uin : UInt32} {uid : String}
    (hmembers : store.cachedGroupMembers.lookup groupUin = some (d.memberList groupUin))
    (hfind : ((d.memberList groupUin).find? (·.uid = uid)).map (·.uin) = some uin) :
    resolveUid2uinWithinCache store uid (some groupUin) = .ok uin := by
  obtain ⟨uin', hr⟩ : ∃ uin', resolveUid2uinWithinCache store uid (some groupUin) = .ok uin' := by
    unfold resolveUid2uinWithinCache
    split
    · exact ⟨_, rfl⟩
    · exact ⟨uin, bind_ok.mpr ⟨_, notFound_ok.mpr hmembers, notFound_ok.mpr hfind⟩⟩
  rw [hr, d.uin_unique (resolveUid2uin_mem h hr) (find_uin_mem hfind)]

/-- A friend's key is found in the index when there is one, and among the
friends fetched so far when there is none. -/
def Store.Finds (store : Store) (inIndex : Index → Prop) (cached : Store → Prop) : Prop :=
  match store.index with
  | some index => inIndex index
  | none => cached store

/-- With an index the friends add nothing, as all of them are in the index. -/
theorem elim_index_iff {β : Type} {store : Store} {lookup : Index → Option β} {fallback : Except ManiaError β}
    {cached : Store → Prop} (hcached : (∃ b, fallback = .ok b) ↔ cached store)
    (hindexed : ∀ index ∈ store.index, cached store → (lookup index).isSome) :
    (∃ b, (store.index.bind lookup).elim fallback .ok = .ok b) ↔
      store.Finds (fun index => (lookup index).isSome) cached := by
  unfold Store.Finds
  cases hindex : store.index with
  | none => exact hcached
  | some index =>
    simp only [Option.bind_some]
    cases hlookup : lookup index with
    | some b => exact iff_of_true ⟨b, rfl⟩ rfl
    | none =>
      refine iff_of_false ?_ Bool.false_ne_true
      intro hok
      have hsome := hindexed index hindex (hcached.mp hok)
      rw [hlookup] at hsome
      exact Bool.false_ne_true hsome

/-- Whether the cache, as it is, answers the lookup of a friend. -/
theorem resolveUin2uid_friend {d : Directory} {store : Store} (h : Filled d store) (uin : UInt32) :
    (∃ uid, resolveUin2uidWithinCache store uin none = .ok uid) ↔
      store.Finds (fun index => (index.uin2uid.lookup uin).isSome) (uin ∈ ·.cachedFriends) := by
  have hcached : (∃ uid, (do let friend ← notFound "Friend not found" (store.cachedFriends.lookup uin); .ok friend.uid) =
      (.ok uid : Except ManiaError String)) ↔ uin ∈ store.cachedFriends := by
    rw [← AList.lookup_isSome]
    cases store.cachedFriends.lookup uin <;> simp [notFound, bind, Except.bind]
  have hindexed : ∀ index ∈ store.index, uin ∈ store.cachedFriends → (index.uin2uid.lookup uin).isSome := by
    intro index hindex hin
    obtain ⟨friend, hfriend⟩ := Option.isSome_iff_exists.mp (AList.lookup_isSome.mpr hin)
    exact AList.lookup_isSome.mpr (h.friend_indexed index hindex uin friend hfriend).uin2uid
  rw [← elim_index_iff hcached hindexed]
  unfold resolveUin2uidWithinCache
  cases store.index.bind fun index => index.uin2uid.lookup uin <;> rfl

theorem resolveUid2uin_friend {d : Directory} {store : Store} (h : Filled d store) (uid : String) :
    (∃ uin, resolveUid2uinWithinCache store uid none = .ok uin) ↔
      store.Finds (fun index => (index.uid2uin.lookup uid).isSome)
        fun store => ∃ entry ∈ store.cachedFriends.toList, entry.2.uid = uid := by
  have hcached : (∃ uin, (do
        let entry ← notFound "Friend not found" (store.cachedFriends.toList.find? (·.2.uid = uid))
        .ok entry.1) = (.ok uin : Except ManiaError UInt32)) ↔ ∃ entry ∈ store.cachedFriends.toList, entry.2.uid = uid := by
    have hsome : (store.cachedFriends.toList.find? (·.2.uid = uid)).isSome ↔
        ∃ entry ∈ store.cachedFriends.toList, entry.2.uid = uid := by simp
    rw [← hsome]
    cases store.cachedFriends.toList.find? (·.2.uid = uid) <;> simp [notFound, bind, Except.bind]
  have hindexed : ∀ index ∈ store.index, (∃ entry ∈ store.cachedFriends.toList, entry.2.uid = uid) →
      (index.uid2uin.lookup uid).isSome := by
    rintro index hindex ⟨entry, hentry, rfl⟩
    exact AList.lookup_isSome.mpr
      (h.friend_indexed index hindex entry.1 entry.2 (DashMap.mem_toList.mp hentry)).uid2uin
  rw [← elim_index_iff hcached hindexed]
  unfold resolveUid2uinWithinCache
  cases store.index.bind fun index => index.uid2uin.lookup uid <;> rfl

theorem FriendsRefreshed.has {d : Directory} {store store' : Store} (h : FriendsRefreshed d store store') {index : Index}
    (hindex : index ∈ store'.index) {p : UInt32 × String} (hp : p ∈ d.friendList.map BotFriend.ids) : index.Has p := by
  rw [h.index_eq] at hindex
  obtain ⟨old, _, rfl⟩ := Option.mem_map.mp hindex
  exact Index.has_insertUinUids (.inl hp)

/-- A friend is found after an empty index has been filled, and otherwise as
before. -/
theorem finds_refreshed_iff {d : Directory} {store after : Store} {indexEmpty : Index → Bool} {p : UInt32 × String}
    (hp : p ∈ d.friendList.map BotFriend.ids) {inIndex : Index → Prop} {cached : Store → Prop}
    (hhas : ∀ index : Index, index.Has p → inIndex index)
    (hrefresh : if store.index.any indexEmpty then FriendsRefreshed d store after else after = store) :
    after.Finds inIndex cached ↔ store.Finds (fun index => indexEmpty index ∨ inIndex index) cached := by
  cases hindex : store.index with
  | none =>
    obtain rfl : after = store := by simpa [hindex] using hrefresh
    simp [Store.Finds, hindex]
  | some index =>
    by_cases hempty : indexEmpty index = true
    · have hrefreshed : FriendsRefreshed d store after := by simpa [hindex, hempty] using hrefresh
      have hafter : after.index = some (index.insertUinUids (d.friendList.map BotFriend.ids)) := by
        rw [hrefreshed.index_eq, Store.insertUinUids, hindex]
        rfl
      have hfound := hhas _ (hrefreshed.has hafter hp)
      simp [Store.Finds, hindex, hafter, hempty, hfound]
    · obtain rfl : after = store := by simpa [hindex, hempty] using hrefresh
      simp [Store.Finds, hindex, hempty]

theorem ok_iff_exists {α : Type} {x : Except ManiaError α} {a : α} (h : ∀ a', x = .ok a' → a' = a) :
    x = .ok a ↔ ∃ a', x = .ok a' := by
  refine ⟨fun hx => ⟨a, hx⟩, fun hx => ?_⟩
  obtain ⟨a', hx⟩ := hx
  rw [hx, h a' hx]

theorem uin2uid_cached_iff {d : Directory} {cache : Cache} (h : ∀ store ∈ cache, Filled d store) {uin : UInt32}
    {groupUin : Option UInt32} {uid : String} (hnone : (uin2uid d.toServer uin groupUin none).1 = .ok uid) :
    (uin2uid d.toServer uin groupUin cache).1 = .ok uid ↔ groupUin.isSome ∨ cache.answersUin uin := by
  cases cache with
  | none => exact iff_of_true hnone (.inr rfl)
  | some store =>
    have h := h store rfl
    obtain ⟨after, hrun, hafter, hgroup⟩ := refreshMissing_run h (fun index => index.uin2uid.isEmpty) groupUin
    rw [uin2uid_run hrun]
    cases groupUin with
    | some groupUin =>
      have hfind := notFound_ok.mp ((d.fastFetchGroupMembersUid_eq uin groupUin).symm.trans hnone)
      exact iff_of_true (resolveUin2uid_member hafter hgroup hfind) (.inl rfl)
    | none =>
      have hfriend := find_friend_uid_mem (notFound_ok.mp ((d.fastFetchFriendsUid_eq uin).symm.trans hnone))
      -- an answer from the cache is the right one
      have honly : ∀ uid', resolveUin2uidWithinCache after uin none = .ok uid' → uid' = uid := fun _ hr =>
        d.uid_unique (resolveUin2uid_mem hafter hr) (Filled.friend_ids_mem hfriend)
      rw [ok_iff_exists honly, resolveUin2uid_friend hafter,
        finds_refreshed_iff hfriend (fun _ hhas => AList.lookup_isSome.mpr hhas.uin2uid) hgroup]
      cases hindex : store.index <;>
        simp [Store.Finds, Cache.answersUin, hindex, DashMap.containsKey_iff, AList.lookup_isSome]

theorem uid2uin_cached_iff {d : Directory} {cache : Cache} (h : ∀ store ∈ cache, Filled d store) {uid : String}
    {groupUin : Option UInt32} {uin : UInt32} (hnone : (uid2uin d.toServer uid groupUin none).1 = .ok uin) :
    (uid2uin d.toServer uid groupUin cache).1 = .ok uin ↔ groupUin.isSome ∨ cache.answersUid uid := by
  cases cache with
  | none => exact iff_of_true hnone (.inr rfl)
  | some store =>
    have h := h store rfl
    obtain ⟨after, hrun, hafter, hgroup⟩ := refreshMissing_run h (fun index => index.uid2uin.isEmpty) groupUin
    rw [uid2uin_run hrun]
    cases groupUin with
    | some groupUin =>
      have hfind := notFound_ok.mp ((d.fastFetchGroupMembersUin_eq uid groupUin).symm.trans hnone)
      exact iff_of_true (resolveUid2uin_member hafter hgroup hfind) (.inl rfl)
    | none =>
      have hfriend := find_friend_uin_mem (notFound_ok.mp ((d.fastFetchFriendsUin_eq uid).symm.trans hnone))
      have honly : ∀ uin', resolveUid2uinWithinCache after uid none = .ok uin' → uin' = uin := fun _ hr =>
        d.uin_unique (resolveUid2uin_mem hafter hr) (Filled.friend_ids_mem hfriend)
      rw [ok_iff_exists honly, resolveUid2uin_friend hafter,
        finds_refreshed_iff hfriend (fun _ hhas => AList.lookup_isSome.mpr hhas.uid2uin) hgroup]
      cases hindex : store.index <;>
        simp [Store.Finds, Cache.answersUid, hindex, DashMap.containsKey_iff, AList.lookup_isSome]

/-- After any calls, a lookup that mode None answers is answered by the
cache exactly when it is in a group or the cache has its key. -/
theorem lookup_transparent_iff (d : Directory) (mode : CacheMode) (calls : List CacheCall) (groupUin : Option UInt32)
    (uin : UInt32) (uid : String) :
    ((uin2uid d.toServer uin groupUin none).1 = .ok uid →
      ((uin2uid d.toServer uin groupUin (calls.foldl (CacheCall.exec d.toServer) (Cache.new mode))).1 = .ok uid ↔
        groupUin.isSome ∨ Cache.answersUin (calls.foldl (CacheCall.exec d.toServer) (Cache.new mode)) uin)) ∧
    ((uid2uin d.toServer uid groupUin none).1 = .ok uin →
      ((uid2uin d.toServer uid groupUin (calls.foldl (CacheCall.exec d.toServer) (Cache.new mode))).1 = .ok uin ↔
        groupUin.isSome ∨ Cache.answersUid (calls.foldl (CacheCall.exec d.toServer) (Cache.new mode)) uid)) := by
  have hfilled := run_filled d (filled_new d mode) calls
  exact ⟨uin2uid_cached_iff hfilled, uid2uin_cached_iff hfilled⟩

/-! ## A friend and a group -/

def aFriend : BotFriend where
  uin := 10001
  uid := "u_friend"
  nickname := "friend"
  remarks := ""
  personalSign := ""
  qid := ""
  group := some { groupId := 0, groupName := "" }
  avatar := ""

def aMember : BotGroupMember where
  uin := 20002
  uid := "u_member"
  permission := .member
  groupLevel := 1
  memberCard := none
  specialTitle := none
  memberName := some "member"
  joinTime := some 0
  lastMsgTime := some 0
  shutUpTimestamp := some 0

/-- One friend, and every group has the same one member. -/
def friendAndGroup : Server where
  friends := .last { friends := [aFriend], friendGroups := ∅ }
  members _ := .last { groupMembers := [aMember] }

theorem friendAndGroup_people {p : UInt32 × String} (h : p ∈ friendAndGroup.people) :
    p = (10001, "u_friend") ∨ p = (20002, "u_member") := by
  rcases h with ⟨friend, hfriend, rfl⟩ | ⟨_, member, hmember, rfl⟩
  · cases List.mem_singleton.mp hfriend
    exact .inl rfl
  · cases List.mem_singleton.mp hmember
    exact .inr rfl

def friendAndGroupDirectory : Directory where
  toServer := friendAndGroup
  friends_succeed := trivial
  members_succeed _ := trivial
  grouped friend hfriend := by
    cases List.mem_singleton.mp hfriend
    simp [aFriend]
  uin_injOn p hp q hq heq := by
    rcases friendAndGroup_people hp with rfl | rfl <;> rcases friendAndGroup_people hq with rfl | rfl <;> simp_all
  uid_injOn p hp q hq heq := by
    rcases friendAndGroup_people hp with rfl | rfl <;> rcases friendAndGroup_people hq with rfl | rfl <;> simp_all

/-- A fresh cache in mode Full fetches the friends at the first lookup. -/
theorem lookup_transparent_fresh :
    (uin2uid friendAndGroup 10001 none (Cache.new .full)).1 = .ok "u_friend" ∧
    (uid2uin friendAndGroup "u_friend" none (Cache.new .full)).1 = .ok 10001 := by
  have h := lookup_transparent_iff friendAndGroupDirectory .full [] none 10001 "u_friend"
  exact ⟨(h.1 rfl).mpr (.inr rfl), (h.2 rfl).mpr (.inr rfl)⟩

/-- In mode Half nothing fetches the friends, and in mode Full a group's
members in the index keep them from being fetched. -/
theorem friend_not_found :
    (uin2uid friendAndGroupDirectory.toServer 10001 none none).1 = .ok "u_friend" ∧
    (uin2uid friendAndGroupDirectory.toServer 10001 none (Cache.new .half)).1 =
      .error (.genericError "Friend not found") ∧
    (uin2uid friendAndGroupDirectory.toServer 10001 none
        ([CacheCall.refreshGroupMembersCache 700].foldl (CacheCall.exec friendAndGroupDirectory.toServer)
          (Cache.new .full))).1 =
      .error (.genericError "Friend not found") := ⟨rfl, rfl, rfl⟩

end Mania
