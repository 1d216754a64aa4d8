/-
`uid2uin` for a group, before and after the members of the group are fetched
into the cache, in closed form.

A lookup asks the index and then the group's cached list. On its way it
fetches the friends when the index is there and empty, and the group when it
is not cached; so what it answers depends on the friends and members the
server lists as well as on the cache (`uid2uin_before`, `uid2uin_after`).
-/
import Mania.CacheRefresh

namespace Mania

open Paged

/-! ## The members of a group -/

/-- The members on all the pages, if every request is answered. -/
def membersFetched : Answers ManiaError FetchMembersEvent String → Option (List BotGroupMember)
  | .last event => some event.groupMembers
  | .more event _ rest => (membersFetched rest).map fun members => event.groupMembers ++ members
  | .fail _ => none

/-- The store with the members of a group put in. -/
def Store.withMembers (store : Store) (groupUin : UInt32) (members : List BotGroupMember) : Store :=
  { store.insertUinUids (members.map BotGroupMember.ids) with
    cachedGroupMembers := store.cachedGroupMembers.insert groupUin members }

theorem iterFetch_members (answers : Answers ManiaError FetchMembersEvent String) (collected : List BotGroupMember) :
    match membersFetched answers with
    | some members => (iterFetch refreshGroupMembersPage answers).run.run collected = (.ok none, collected ++ members)
    | none => ∃ e s, (iterFetch refreshGroupMembersPage answers).run.run collected = (.error e, s) := by
  induction answers generalizing collected with
  | last event => rfl
  | more event next rest ih =>
    have hpage : (refreshGroupMembersPage event).run.run collected = (.ok none, collected ++ event.groupMembers) := rfl
    have hrest := ih (collected ++ event.groupMembers)
    rw [membersFetched, iterFetch, run_bind_ok hpage]
    cases hfetched : membersFetched rest with
    | none =>
      rw [hfetched] at hrest
      exact hrest
    | some members =>
      rw [hfetched] at hrest
      simpa using hrest
  | fail e => exact ⟨e, collected, rfl⟩

variable {server : Server} {store : Store} {groupUin : UInt32} {members : List BotGroupMember} {uid : String}

theorem refreshGroupMembersCache_fetched (h : membersFetched (server.members groupUin) = some members) (store : Store) :
    (refreshGroupMembersCache server groupUin).run.run store = (.ok (), store.withMembers groupUin members) := by
  have hpages := iterFetch_members (server.members groupUin) []
  simp only [h] at hpages
  unfold refreshGroupMembersCache
  simp only [hpages, run_modify_bind, Store.foldl_insertUinUid]
  rfl

theorem refreshGroupMembersCache_unfetched (h : membersFetched (server.members groupUin) = none) (store : Store) :
    ∃ e, (refreshGroupMembersCache server groupUin).run.run store = (.error e, store) := by
  have hpages := iterFetch_members (server.members groupUin) []
  simp only [h] at hpages
  obtain ⟨e, s, hpages⟩ := hpages
  refine ⟨e, ?_⟩
  unfold refreshGroupMembersCache
  simp only [hpages]
  rfl

/-! ## What is known of a uid -/

/-- The uin listed last with the uid, which is the one an index has. -/
def lastUin (people : List (UInt32 × String)) (uid : String) : Option UInt32 :=
  (people.filter (·.2 = uid)).getLast?.map (·.1)

/-- The uin of the first member with the uid. -/
def firstUin (members : List BotGroupMember) (uid : String) : Option UInt32 :=
  (members.find? (·.uid = uid)).map (·.uin)

namespace Store

/-- The index is there and empty. -/
def needsFriends (store : Store) : Bool := store.index.any fun index => index.uid2uin.isEmpty

/-- What the index says when `people` have been put in. -/
def told (store : Store) (people : List (UInt32 × String)) (uid : String) : Option UInt32 :=
  store.index.bind fun index => (lastUin people uid).or (index.uid2uin.lookup uid)

/-- What a lookup finds, if the server lists the `members` of the group. -/
def uinBefore (server : Server) (groupUin : UInt32) (members : List BotGroupMember) (uid : String) (store : Store) :
    Option UInt32 :=
  if store.needsFriends ∧ ¬ FriendsComplete server.friends then none
  else
    let friends := if store.needsFriends then (friendsTaken server.friends).map BotFriend.ids else []
    match store.cachedGroupMembers.lookup groupUin with
    | some cached => (store.told friends uid).or (firstUin cached uid)
    | none => (store.told (friends ++ members.map BotGroupMember.ids) uid).or (firstUin members uid)

/-- What it finds after they were fetched into the cache. -/
def uinAfter (server : Server) (members : List BotGroupMember) (uid : String) (store : Store) : Option UInt32 :=
  if store.needsFriends ∧ members = [] then
    -- the index is still empty
    if FriendsComplete server.friends then lastUin ((friendsTaken server.friends).map BotFriend.ids) uid else none
  else (store.told (members.map BotGroupMember.ids) uid).or (firstUin members uid)

end Store

theorem lastUin_append (people people' : List (UInt32 × String)) (uid : String) :
    lastUin (people ++ people') uid = (lastUin people' uid).or (lastUin people uid) := by
  rw [lastUin, List.filter_append, List.getLast?_append, Option.map_or]
  rfl

theorem lookup_insertUinUids (index : Index) (people : List (UInt32 × String)) (uid : String) :
    (index.insertUinUids people).uid2uin.lookup uid = (lastUin people uid).or (index.uid2uin.lookup uid) := by
  rw [Index.insertUinUids, DashMap.lookup_extend, List.filter_map, List.getLast?_map, Option.map_map]
  rfl

theorem told_insertUinUids (store : Store) (people people' : List (UInt32 × String)) (uid : String) :
    (store.insertUinUids people).told people' uid = store.told (people ++ people') uid := by
  obtain ⟨_ | index, friends, members⟩ := store
  · rfl
  · simp only [Store.told, Store.insertUinUids, Option.map_some, Option.bind_some, lookup_insertUinUids, lastUin_append,
      Option.or_assoc]

theorem isEmpty_insertUinUids (index : Index) (people : List (UInt32 × String)) :
    (index.insertUinUids people).uid2uin.isEmpty = (index.uid2uin.isEmpty && people.isEmpty) := by
  rw [Index.insertUinUids, DashMap.isEmpty_extend]
  cases people <;> rfl

theorem needsFriends_insertUinUids (store : Store) (people : List (UInt32 × String)) :
    (store.insertUinUids people).needsFriends = (store.needsFriends && people.isEmpty) := by
  obtain ⟨_ | index, friends, members⟩ := store
  · rfl
  · exact isEmpty_insertUinUids index people

theorem resolveUid2uin_group {cached : List BotGroupMember} (h : store.cachedGroupMembers.lookup groupUin = some cached)
    (uid : String) :
    (resolveUid2uinWithinCache store uid (some groupUin)).toOption = (store.told [] uid).or (firstUin cached uid) := by
  have htold : store.told [] uid = store.index.bind fun index => index.uid2uin.lookup uid := rfl
  rw [htold]
  unfold resolveUid2uinWithinCache
  cases store.index.bind fun index => index.uid2uin.lookup uid with
  | some uin => rfl
  | none =>
    simp only [h, Option.none_or]
    show (notFound "Member not found" (firstUin cached uid)).toOption = firstUin cached uid
    cases firstUin cached uid <;> rfl

/-- An empty index says only what is put in. -/
theorem told_of_needsFriends (h : store.needsFriends = true) (people : List (UInt32 × String)) (uid : String) :
    store.told people uid = lastUin people uid := by
  obtain ⟨_ | index, friends, members⟩ := store
  · cases h
  · have hlookup : index.uid2uin.lookup uid = none := DashMap.isEmpty_iff.mp h uid
    rw [Store.told, Option.bind_some, hlookup, Option.or_none]

/-! ## A lookup -/

theorem refreshEmptyIndex_ends (server : Server) (store : Store) :
    if store.needsFriends ∧ ¬ FriendsComplete server.friends then
      ∃ e store', (refreshEmptyIndex server fun index => index.uid2uin.isEmpty).run.run store = (.error e, store') ∧
        store'.cachedGroupMembers = store.cachedGroupMembers
    else
      ∃ friends, (refreshEmptyIndex server fun index => index.uid2uin.isEmpty).run.run store = (.ok (),
        { store.insertUinUids (if store.needsFriends then (friendsTaken server.friends).map BotFriend.ids else []) with
          cachedFriends := friends }) := by
  unfold refreshEmptyIndex
  rw [run_get_bind, ← Store.needsFriends]
  cases store.needsFriends with
  | false =>
    refine ⟨store.cachedFriends, ?_⟩
    simp only [Bool.false_eq_true, if_false, Store.insertUinUids_nil]
    rfl
  | true =>
    by_cases hcomplete : FriendsComplete server.friends
    · obtain ⟨friends, hrun⟩ := refreshFriendsCache_complete server store hcomplete
      simpa [hcomplete] using ⟨friends, hrun⟩
    · obtain ⟨e, hrun⟩ := refreshFriendsCache_fails server store hcomplete
      simpa [hcomplete] using ⟨e, _, hrun, rfl⟩

/-- How the fetches before a lookup end: which members they leave, and what
the lookup then finds. -/
structure LookupReady (server : Server) (groupUin : UInt32) (store : Store) (r : Except ManiaError Unit)
    (store' : Store) : Prop where
  members : store'.cachedGroupMembers = store.cachedGroupMembers ∨
    ∃ members, membersFetched (server.members groupUin) = some members ∧
      store'.cachedGroupMembers = store.cachedGroupMembers.insert groupUin members
  uin : ∀ members, membersFetched (server.members groupUin) = some members → ∀ uid,
    (r.toOption.bind fun _ => (resolveUid2uinWithinCache store' uid (some groupUin)).toOption) =
      store.uinBefore server groupUin members uid

/-- A group that is cached is looked up as it is. -/
theorem refreshMissingGroup_ready_cached {friends : List (UInt32 × String)} {after : Store} {cached : List BotGroupMember}
    (htold : ∀ people uid, after.told people uid = store.told (friends ++ people) uid)
    (hmembers : after.cachedGroupMembers = store.cachedGroupMembers)
    (hbefore : ∀ members uid, store.uinBefore server groupUin members uid =
      (store.told friends uid).or (firstUin cached uid))
    (hcached : after.cachedGroupMembers.lookup groupUin = some cached) :
    ∃ r store', (refreshMissingGroup server groupUin).run.run after = (r, store') ∧
      LookupReady server groupUin store r store' := by
  refine ⟨.ok (), after, refreshMissingGroup_cached hcached, .inl hmembers, fun members _ uid => ?_⟩
  rw [hbefore]
  have hfound := resolveUid2uin_group hcached uid
  rw [htold, List.append_nil] at hfound
  exact hfound

/-- A group that is not is fetched. -/
theorem refreshMissingGroup_ready_uncached {friends : List (UInt32 × String)} {after : Store}
    (htold : ∀ people uid, after.told people uid = store.told (friends ++ people) uid)
    (hmembers : after.cachedGroupMembers = store.cachedGroupMembers)
    (hbefore : ∀ members uid, store.uinBefore server groupUin members uid =
      (store.told (friends ++ members.map BotGroupMember.ids) uid).or (firstUin members uid))
    (hmissing : after.cachedGroupMembers.lookup groupUin = none) :
    ∃ r store', (refreshMissingGroup server groupUin).run.run after = (r, store') ∧
      LookupReady server groupUin store r store' := by
  rw [refreshMissingGroup_uncached hmissing]
  cases hfetched : membersFetched (server.members groupUin) with
  | none =>
    obtain ⟨e, hrun⟩ := refreshGroupMembersCache_unfetched hfetched after
    exact ⟨.error e, after, hrun, .inl hmembers, fun members h => nomatch hfetched.symm.trans h⟩
  | some members =>
    have hput : (after.withMembers groupUin members).cachedGroupMembers.lookup groupUin = some members :=
      AList.lookup_insert _
    refine ⟨.ok (), _, refreshGroupMembersCache_fetched hfetched after, .inr ⟨members, hfetched, ?_⟩, fun ms hms uid => ?_⟩
    · exact congrArg (AList.insert groupUin members) hmembers
    · cases Option.some.inj (hfetched.symm.trans hms)
      have hfound := resolveUid2uin_group hput uid
      have hindex : (after.withMembers groupUin members).told [] uid =
          (after.insertUinUids (members.map BotGroupMember.ids)).told [] uid := rfl
      rw [hindex, told_insertUinUids, List.append_nil, htold] at hfound
      rw [hbefore]
      exact hfound

theorem refreshMissing_ready (server : Server) (groupUin : UInt32) (store : Store) :
    ∃ r store', (refreshMissing server (fun index => index.uid2uin.isEmpty) (some groupUin)).run.run store =
      (r, store') ∧ LookupReady server groupUin store r store' := by
  have hfriends := refreshEmptyIndex_ends server store
  unfold refreshMissing
  split at hfriends
  · next hblocked =>
    obtain ⟨e, store', hrun, hmembers⟩ := hfriends
    refine ⟨.error e, store', run_bind_error hrun, .inl hmembers, fun members _ uid => ?_⟩
    rw [Store.uinBefore, if_pos hblocked]
    rfl
  · next hfree =>
    obtain ⟨cachedFriends, hrun⟩ := hfriends
    rw [run_bind_ok hrun]
    generalize hids : (if store.needsFriends then (friendsTaken server.friends).map BotFriend.ids else []) = friends
    have htold := told_insertUinUids store friends
    cases hlookup : store.cachedGroupMembers.lookup groupUin with
    | some cached =>
      refine refreshMissingGroup_ready_cached htold rfl (fun members uid => ?_) hlookup
      simp only [Store.uinBefore, if_neg hfree, hids, hlookup]
    | none =>
      refine refreshMissingGroup_ready_uncached htold rfl (fun members uid => ?_) hlookup
      simp only [Store.uinBefore, if_neg hfree, hids, hlookup]

theorem withStore_error {α : Type} {x : Closure Store Unit} {store store' : Store} {e : ManiaError}
    (hrun : x.run.run store = (.error e, store')) (f : Store → Except ManiaError α) :
    withStore (do x; let store ← get; MonadExcept.ofExcept (f store)) store = (.error e, some store') := by
  unfold withStore
  rw [run_bind_error hrun]

/-- **A lookup**: what it leaves of the members, and what it finds. -/
theorem uid2uin_ready (server : Server) (groupUin : UInt32) (store : Store) (uid : String) :
    ∃ r store', LookupReady server groupUin store r store' ∧
      (uid2uin server uid (some groupUin) (some store)).1.toOption =
        (r.toOption.bind fun _ => (resolveUid2uinWithinCache store' uid (some groupUin)).toOption) ∧
      (uid2uin server uid (some groupUin) (some store)).2 = some store' := by
  obtain ⟨r, store', hrun, hready⟩ := refreshMissing_ready server groupUin store
  refine ⟨r, store', hready, ?_⟩
  cases r with
  | error e =>
    have hcall := withStore_error hrun fun store => resolveUid2uinWithinCache store uid (some groupUin)
    exact ⟨congrArg (·.1.toOption) hcall, congrArg Prod.snd hcall⟩
  | ok _ =>
    have hcall := withStore_ofExcept hrun fun store => resolveUid2uinWithinCache store uid (some groupUin)
    exact ⟨congrArg (·.1.toOption) hcall, congrArg Prod.snd hcall⟩

theorem uid2uin_before (h : membersFetched (server.members groupUin) = some members) (store : Store) (uid : String) :
    (uid2uin server uid (some groupUin) (some store)).1.toOption = store.uinBefore server groupUin members uid := by
  obtain ⟨r, store', hready, hfound, -⟩ := uid2uin_ready server groupUin store uid
  exact hfound.trans (hready.uin members h uid)

theorem uid2uin_after (h : membersFetched (server.members groupUin) = some members) (store : Store) (uid : String) :
    (uid2uin server uid (some groupUin) (some (store.withMembers groupUin members))).1.toOption =
      store.uinAfter server members uid := by
  rw [uid2uin_before h, Store.uinBefore, Store.uinAfter]
  have hput : (store.withMembers groupUin members).cachedGroupMembers.lookup groupUin = some members :=
    AList.lookup_insert _
  have hneeds : (store.withMembers groupUin members).needsFriends = (store.needsFriends && members.isEmpty) := by
    have hids := needsFriends_insertUinUids store (members.map BotGroupMember.ids)
    rwa [List.isEmpty_map] at hids
  have htold : ∀ people, (store.withMembers groupUin members).told people uid =
      store.told (members.map BotGroupMember.ids ++ people) uid :=
    fun people => told_insertUinUids store (members.map BotGroupMember.ids) people uid
  simp only [hput, hneeds, htold]
  cases hfriends : store.needsFriends with
  | false => simp
  | true =>
    cases members with
    | nil =>
      by_cases hcomplete : FriendsComplete server.friends <;>
        simp [hcomplete, told_of_needsFriends hfriends, firstUin]
    | cons member members => simp

end Mania
