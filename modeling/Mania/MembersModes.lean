/-
The members that `fetch_maybe_cached_group_members` passes on, in each mode.

With a cache they are the members of all pages, in order: a refresh collects
the pages before it puts them under the group (`passesMembers_refreshing`).
Without one every page is put under the group in turn, so the last page is
all that is passed on (`passesMembers_none`).
-/
import Mania.CacheRefresh

namespace Mania

open Paged

/-- The members of the last page. -/
def Server.lastMembers (server : Server) (groupUin : UInt32) : List BotGroupMember :=
  ((server.members groupUin).pages.getLast?.map (·.groupMembers)).getD []

/-- Whatever `process_fn` is, it is given a map with these members of the group. -/
def PassesMembers (server : Server) (groupUin : UInt32) (refreshCache : Bool) (cache : Cache)
    (members : List BotGroupMember) : Prop :=
  ∃ map cache', (∀ processFn, fetchMaybeCachedGroupMembers server groupUin processFn refreshCache cache =
    (.ok (processFn map), cache')) ∧ map.lookup groupUin = some members

/-! ## With a cache -/

theorem refreshGroupMembersCache_succeeds {server : Server} {groupUin : UInt32}
    (h : (server.members groupUin).Succeeds) (store : Store) :
    ∃ store', (refreshGroupMembersCache server groupUin).run.run store = (.ok (), store') ∧
      store'.cachedGroupMembers.lookup groupUin = some (server.memberList groupUin) := by
  have hpages : (iterFetch refreshGroupMembersPage (server.members groupUin)).run.run [] =
      (.ok none, (server.members groupUin).pages.foldl (fun ms event => ms ++ event.groupMembers) []) := by
    rw [iterFetch_eq h]
    exact iterPages_fold (fun _ _ _ => rfl) []
  unfold refreshGroupMembersCache
  simp only [hpages, run_modify_bind]
  refine ⟨_, rfl, ?_⟩
  rw [AList.lookup_insert, List.foldl_append_eq_append, List.nil_append]
  rfl

/-- A call after a refresh passes on the cache as it is. -/
theorem passesMembers_cached {server : Server} {groupUin : UInt32} {refreshCache : Bool} {store first : Store}
    {members : List BotGroupMember}
    (hfirst : (if refreshCache then refreshGroupMembersCache server groupUin else pure ()).run.run store = (.ok (), first))
    (h : first.cachedGroupMembers.lookup groupUin = some members) :
    PassesMembers server groupUin refreshCache (some store) members := by
  refine ⟨first.cachedGroupMembers, some first, fun processFn => ?_, h⟩
  unfold fetchMaybeCachedGroupMembers withStore
  simp only [run_bind_ok hfirst, run_bind_ok (refreshMissingGroup_cached h), run_get_bind]
  rfl

theorem passesMembers_refreshing {server : Server} {groupUin : UInt32} (h : (server.members groupUin).Succeeds)
    (store : Store) : PassesMembers server groupUin true (some store) (server.memberList groupUin) := by
  obtain ⟨first, hfirst, hlookup⟩ := refreshGroupMembersCache_succeeds h store
  exact passesMembers_cached hfirst hlookup

theorem passesMembers_refreshed {server : Server} {groupUin : UInt32} (h : (server.members groupUin).Succeeds)
    (store : Store) (refreshCache : Bool) :
    PassesMembers server groupUin refreshCache (Cache.refreshGroupMembers server groupUin (some store)).2
      (server.memberList groupUin) := by
  obtain ⟨first, hfirst, hlookup⟩ := refreshGroupMembersCache_succeeds h store
  have hrefreshed : (Cache.refreshGroupMembers server groupUin (some store)).2 = some first := by
    simp only [Cache.refreshGroupMembers, withStore, hfirst]
  rw [hrefreshed]
  cases refreshCache with
  | true => exact passesMembers_refreshing h first
  | false => exact passesMembers_cached rfl hlookup

/-! ## Without one -/

theorem lookup_foldl_insert (groupUin : UInt32) (events : List FetchMembersEvent)
    (map : DashMap UInt32 (List BotGroupMember)) :
    (events.foldl (fun map event => map.insert groupUin event.groupMembers) map).lookup groupUin =
      (events.getLast?.map (·.groupMembers)).or (map.lookup groupUin) := by
  rcases List.eq_nil_or_concat events with rfl | ⟨earlier, event, rfl⟩
  · rfl
  · simp

theorem iterPages_insertPage (groupUin : UInt32) (events : List FetchMembersEvent)
    (map : DashMap UInt32 (List BotGroupMember)) :
    (iterPages (fun event => do
        modify fun groupMembers => groupMembers.insert groupUin event.groupMembers
        pure none : FetchMembersEvent → Closure (DashMap UInt32 (List BotGroupMember)) (Option Unit)) events).run.run map =
      (.ok none, events.foldl (fun map event => map.insert groupUin event.groupMembers) map) :=
  iterPages_fold (fun _ _ _ => rfl) map

theorem fetchMaybeCachedGroupMembers_none {server : Server} {groupUin : UInt32}
    (h : (server.members groupUin).Succeeds)
    (processFn : DashMap UInt32 (List BotGroupMember) → List BotGroupMember) (refreshCache : Bool) :
    fetchMaybeCachedGroupMembers server groupUin processFn refreshCache none =
      (.ok (processFn ((server.members groupUin).pages.foldl
        (fun map event => map.insert groupUin event.groupMembers) ∅)), none) := by
  unfold fetchMaybeCachedGroupMembers
  simp only [iterFetch_eq h, iterPages_insertPage]
  rfl

theorem passesMembers_none {server : Server} {groupUin : UInt32} (h : (server.members groupUin).Succeeds)
    (refreshCache : Bool) (members : List BotGroupMember) :
    PassesMembers server groupUin refreshCache none members ↔ members = server.lastMembers groupUin := by
  obtain ⟨event, hlast⟩ := Option.ne_none_iff_exists'.mp (mt List.getLast?_eq_none_iff.mp (Answers.pages_ne_nil h))
  have hlookup := lookup_foldl_insert groupUin (server.members groupUin).pages ∅
  rw [hlast, Option.map_some, Option.some_or] at hlookup
  have hlastMembers : server.lastMembers groupUin = event.groupMembers := by
    rw [Server.lastMembers, hlast]
    rfl
  constructor
  · rintro ⟨map, cache', hcall, hmap⟩
    -- The function that looks the group up tells which map it was.
    have hfetch := hcall fun map => (map.lookup groupUin).getD []
    rw [fetchMaybeCachedGroupMembers_none h, hlookup, hmap] at hfetch
    cases hfetch
    exact hlastMembers.symm
  · rintro rfl
    rw [hlastMembers]
    exact ⟨_, none, fun processFn => fetchMaybeCachedGroupMembers_none h processFn refreshCache, hlookup⟩

theorem lastMembers_eq_iff {server : Server} {groupUin : UInt32} (h : (server.members groupUin).Succeeds) :
    server.memberList groupUin = server.lastMembers groupUin ↔
      ∀ event ∈ (server.members groupUin).pages.dropLast, event.groupMembers = [] := by
  rw [Server.memberList, Server.lastMembers]
  rcases List.eq_nil_or_concat (server.members groupUin).pages with hnil | ⟨events, event, hevents⟩
  · exact absurd hnil (Answers.pages_ne_nil h)
  · rw [hevents]
    simp

/-- All members of all pages are passed on, refreshing or refreshed, exactly
with a cache or when the pages before the last have none. -/
theorem members_passed_iff (server : Server) (groupUin : UInt32) (cache : Cache)
    (h : (server.members groupUin).Succeeds) :
    (PassesMembers server groupUin true cache (server.memberList groupUin) ∧
      ∀ refreshCache, PassesMembers server groupUin refreshCache (cache.refreshGroupMembers server groupUin).2
        (server.memberList groupUin)) ↔
    cache.isSome ∨ ∀ event ∈ (server.members groupUin).pages.dropLast, event.groupMembers = [] := by
  cases cache with
  | some store => simp [passesMembers_refreshing h store, passesMembers_refreshed h store]
  | none => simp [Cache.refreshGroupMembers, passesMembers_none h, lastMembers_eq_iff h]

/-- Two pages with one member each. -/
def twoPages : Server where
  friends := .last { friends := [], friendGroups := ∅ }
  members _ := .more { groupMembers := [aMember] } "next" (.last { groupMembers := [{ aMember with uin := 20003 }] })

/-- Without a cache the member of the first page is lost. -/
theorem twoPages_not_passed : ¬ PassesMembers twoPages 700 true none (twoPages.memberList 700) := by
  rw [passesMembers_none (show (twoPages.members 700).Succeeds from trivial)]
  intro h
  have hlength := congrArg List.length h
  cases hlength

theorem twoPages_passed_full : PassesMembers twoPages 700 true (Cache.new .full) (twoPages.memberList 700) :=
  ((members_passed_iff twoPages 700 (Cache.new .full) trivial).mpr (.inl rfl)).1

end Mania
