/-
The friends that `fetch_maybe_cached_friends` passes on, in each mode.

Every mode passes on the last occurrence of each friend. With a cache its
group gets the name known when its page was read (`passesFriends_store_iff`);
without one the name stays empty (`passesFriends_none_iff`). So they agree,
and with the names the server gives, only where these are empty
(`friendsAsListed_iff`).
-/
import Mania.CacheRefresh
import Mania.FetchFriends

namespace Mania

open Paged

/-! ## What the server lists -/

/-- The last occurrence of a friend on the page. -/
def FetchFriendsEvent.lastOn (event : FetchFriendsEvent) (uin : UInt32) : Option BotFriend :=
  (event.friends.filter (·.uin = uin)).getLast?

/-- The last occurrence of a friend, behind the pages up to the one it is on. -/
def lastFriend (uin : UInt32) : List FetchFriendsEvent → Option (List FetchFriendsEvent × BotFriend)
  | [] => none
  | event :: events =>
    match lastFriend uin events with
    | some (upTo, friend) => some (event :: upTo, friend)
    | none => (event.lastOn uin).map fun friend => ([event], friend)

/-- The names the pages give the group of the friend, in order. -/
def BotFriend.groupNames (friend : BotFriend) (events : List FetchFriendsEvent) : List String :=
  events.filterMap fun event => friend.group.bind fun group => event.friendGroups.lookup group.groupId

/-- The friend under a name for its group. -/
def BotFriend.named (friend : BotFriend) (name : Option String) : BotFriend :=
  match friend.group, name with
  | some group, some name => { friend with group := some { groupId := group.groupId, groupName := name } }
  | _, _ => friend

/-- The group of the entry has a name that a page gives it, or is as it came
when no page does. -/
def BotFriend.NamedBy (events : List FetchFriendsEvent) (friend entry : BotFriend) : Prop :=
  (friend.groupNames events = [] ∧ entry = friend) ∨
    ∃ name ∈ friend.groupNames events, entry = friend.named (some name)

theorem lastFriend_concat (uin : UInt32) (events : List FetchFriendsEvent) (event : FetchFriendsEvent) :
    lastFriend uin (events ++ [event]) =
      ((event.lastOn uin).map fun friend => (events ++ [event], friend)).or (lastFriend uin events) := by
  induction events with
  | nil =>
    simp only [List.nil_append, lastFriend]
    cases event.lastOn uin <;> rfl
  | cons first events ih =>
    rw [List.cons_append, lastFriend, ih]
    cases event.lastOn uin with
    | some friend => rfl
    | none =>
      simp only [Option.map_none, Option.none_or, lastFriend]

/-- It is the last occurrence in the whole list. -/
theorem lastFriend_eq (uin : UInt32) (events : List FetchFriendsEvent) :
    (lastFriend uin events).map Prod.snd = ((events.flatMap (·.friends)).filter (·.uin = uin)).getLast? := by
  induction events using List.reverseRecOn with
  | nil => rfl
  | append_singleton events event ih =>
    rw [lastFriend_concat, List.flatMap_append, List.filter_append, List.getLast?_append, ← ih]
    simp only [List.flatMap_cons, List.flatMap_nil, List.append_nil]
    cases hlast : event.lastOn uin with
    | some friend =>
      rw [FetchFriendsEvent.lastOn] at hlast
      simp [hlast]
    | none =>
      rw [FetchFriendsEvent.lastOn] at hlast
      simp [hlast]

/-! ## What the pages leave in a map -/

/-- The map has the last occurrence of each friend, under the entry `g` makes
of it and of the pages up to it. -/
def Lists (g : List FetchFriendsEvent → BotFriend → BotFriend) (events : List FetchFriendsEvent)
    (map : DashMap UInt32 BotFriend) : Prop :=
  ∀ uin, map.lookup uin = (lastFriend uin events).map fun last => g last.1 last.2

theorem Lists.empty (g : List FetchFriendsEvent → BotFriend → BotFriend) : Lists g [] ∅ := fun _ => rfl

/-- One more page put into the map. -/
theorem Lists.addPage {g : List FetchFriendsEvent → BotFriend → BotFriend} {events : List FetchFriendsEvent}
    {map : DashMap UInt32 BotFriend} (h : Lists g events map) (event : FetchFriendsEvent) :
    Lists g (events ++ [event])
      (map.extend (event.friends.map fun friend => (friend.uin, g (events ++ [event]) friend))) := by
  intro uin
  rw [DashMap.lookup_extend, lastFriend_concat, h uin, List.filter_map, List.getLast?_map]
  simp only [Function.comp_def]
  rw [← FetchFriendsEvent.lastOn]
  cases event.lastOn uin <;> rfl

/-- Without a cache a friend goes into the map as it is. -/
theorem lists_foldl_extend (events : List FetchFriendsEvent) :
    Lists (fun _ friend => friend) events
      (events.foldl (fun map event => map.extend (event.friends.map fun friend => (friend.uin, friend))) ∅) := by
  induction events using List.reverseRecOn with
  | nil => exact .empty _
  | append_singleton events event ih =>
    rw [List.foldl_concat]
    exact ih.addPage event

/-- The name known when the page of the friend is read. -/
def namedSoFar (upTo : List FetchFriendsEvent) (friend : BotFriend) : BotFriend :=
  friend.named (friend.groupNames upTo).getLast?

namespace FriendsFetch

/-- The friend under the name the fetch knows for its group. -/
def entry (s : FriendsFetch) (friend : BotFriend) : BotFriend :=
  friend.named (friend.group.bind fun group => s.friendGroups.lookup group.groupId)

theorem add_eq {friend : BotFriend} (h : friend.group.isSome) (s : FriendsFetch) :
    (s.add friend).friends = s.friends.insert friend.uin (s.entry friend) ∧
      (s.add friend).friendGroups = s.friendGroups := by
  obtain ⟨group, hgroup⟩ := Option.isSome_iff_exists.mp h
  obtain ⟨huin, -⟩ := Prod.mk.inj (s.withGroupName_ids friend group)
  have hentry : s.entry friend = s.withGroupName friend group := by
    simp only [entry, BotFriend.named, withGroupName, hgroup, Option.bind_some]
    cases s.friendGroups.lookup group.groupId <;> rfl
  rw [hentry]
  simp only [FriendsFetch.add, hgroup, insert, huin, and_self]

theorem foldl_add_eq {friends : List BotFriend} (h : ∀ friend ∈ friends, friend.group.isSome) (s : FriendsFetch) :
    (friends.foldl FriendsFetch.add s).friends =
        s.friends.extend (friends.map fun friend => (friend.uin, s.entry friend)) ∧
      (friends.foldl FriendsFetch.add s).friendGroups = s.friendGroups := by
  induction friends generalizing s with
  | nil => exact ⟨rfl, rfl⟩
  | cons friend friends ih =>
    obtain ⟨hfriends, hgroups⟩ := add_eq (h friend List.mem_cons_self) s
    obtain ⟨ihfriends, ihgroups⟩ := ih (fun f hf => h f (List.mem_cons_of_mem friend hf)) (s.add friend)
    rw [List.foldl_cons]
    refine ⟨?_, ihgroups.trans hgroups⟩
    rw [ihfriends, hfriends]
    simp only [entry, hgroups]
    rfl

/-- The variables after the pages `events`. -/
structure Read (events : List FetchFriendsEvent) (s : FriendsFetch) : Prop where
  lists : Lists namedSoFar events s.friends
  names : ∀ groupId, s.friendGroups.lookup groupId =
    (events.filterMap fun event => event.friendGroups.lookup groupId).getLast?

theorem Read.addPage {events : List FetchFriendsEvent} {event : FetchFriendsEvent} {s : FriendsFetch}
    (h : Read events s) (hgroups : ∀ friend ∈ event.friends, friend.group.isSome) :
    Read (events ++ [event]) (s.addPage event) := by
  have hnames : ∀ groupId, (s.friendGroups.extend event.friendGroups.toList).lookup groupId =
      ((events ++ [event]).filterMap fun event => event.friendGroups.lookup groupId).getLast? := by
    intro groupId
    rw [DashMap.lookup_extend, h.names groupId]
    have hpage := DashMap.lookup_extend_toList event.friendGroups groupId
    rw [DashMap.lookup_extend, AList.lookup_empty, Option.or_none] at hpage
    rw [hpage, List.filterMap_append, List.getLast?_append]
    cases hlookup : event.friendGroups.lookup groupId with
    | none => simp [hlookup]
    | some name => simp [hlookup]
  obtain ⟨hfriends, hfriendGroups⟩ :=
    foldl_add_eq hgroups { s with friendGroups := s.friendGroups.extend event.friendGroups.toList }
  refine ⟨?_, ?_⟩
  · rw [FriendsFetch.addPage, hfriends]
    have hentry : ∀ friend, entry { s with friendGroups := s.friendGroups.extend event.friendGroups.toList } friend =
        namedSoFar (events ++ [event]) friend := by
      intro friend
      unfold entry namedSoFar BotFriend.groupNames
      cases friend.group with
      | none => simp [BotFriend.named]
      | some group => rw [Option.bind_some, hnames]; rfl
    simp only [hentry]
    exact h.lists.addPage event
  · intro groupId
    rw [FriendsFetch.addPage, hfriendGroups]
    exact hnames groupId

theorem Read.foldl {events : List FetchFriendsEvent}
    (hgroups : ∀ event ∈ events, ∀ friend ∈ event.friends, friend.group.isSome) (store : Store) :
    Read events (events.foldl FriendsFetch.addPage { store, friends := ∅, friendGroups := ∅ }) := by
  induction events using List.reverseRecOn with
  | nil => exact ⟨.empty _, fun _ => rfl⟩
  | append_singleton events event ih =>
    rw [List.foldl_concat]
    exact (ih fun e he => hgroups e (List.mem_append_left _ he)).addPage
      (hgroups event (List.mem_append_right _ List.mem_cons_self))

end FriendsFetch

/-! ## What a call passes on -/

/-- Whatever `process_fn` is, it is given a map with these entries. -/
def PassesFriends (server : Server) (maybeFriendUin : Option UInt32) (refreshCache : Bool) (cache : Cache)
    (entry : UInt32 → Option BotFriend) : Prop :=
  ∃ map cache', (∀ processFn, fetchMaybeCachedFriends server maybeFriendUin processFn refreshCache cache =
    (.ok (processFn map), cache')) ∧ ∀ uin, map.lookup uin = entry uin

/-- The map that is passed on is what the functions that look into it find. -/
theorem passesFriends_iff {server : Server} {maybeFriendUin : Option UInt32} {refreshCache : Bool} {cache cache' : Cache}
    {map : DashMap UInt32 BotFriend}
    (h : ∀ processFn, fetchMaybeCachedFriends server maybeFriendUin processFn refreshCache cache =
      (.ok (processFn map), cache')) (entry : UInt32 → Option BotFriend) :
    PassesFriends server maybeFriendUin refreshCache cache entry ↔ ∀ uin, map.lookup uin = entry uin := by
  constructor
  · rintro ⟨map', cache'', h', hentry⟩ uin
    have hlookup := (h fun map => (map.lookup uin).toList).symm.trans (h' fun map => (map.lookup uin).toList)
    simp only [Prod.mk.injEq, Except.ok.injEq] at hlookup
    rw [← hentry uin]
    cases hmap : map.lookup uin <;> cases hmap' : map'.lookup uin <;> simp_all
  · intro hentry
    exact ⟨map, cache', h, hentry⟩

theorem iterPages_insertFriends (events : List FetchFriendsEvent) (map : DashMap UInt32 BotFriend) :
    (iterPages (fun event => do
        modify fun friends => friends.extend (event.friends.map fun friend => (friend.uin, friend))
        pure none : FetchFriendsEvent → Closure (DashMap UInt32 BotFriend) (Option Unit)) events).run.run map =
      (.ok none, events.foldl (fun map event => map.extend (event.friends.map fun friend => (friend.uin, friend))) map) :=
  iterPages_fold (fun _ _ _ => rfl) map

variable {server : Server} (h : server.friends.Succeeds)
include h

theorem passesFriends_none_iff (maybeFriendUin : Option UInt32) (refreshCache : Bool)
    (entry : UInt32 → Option BotFriend) :
    PassesFriends server maybeFriendUin refreshCache none entry ↔
      ∀ uin, entry uin = (lastFriend uin server.friends.pages).map Prod.snd := by
  have hcall : ∀ processFn, fetchMaybeCachedFriends server maybeFriendUin processFn refreshCache none =
      (.ok (processFn (server.friends.pages.foldl
        (fun map event => map.extend (event.friends.map fun friend => (friend.uin, friend))) ∅)), none) := by
    intro processFn
    unfold fetchMaybeCachedFriends
    simp only [iterFetch_eq h, iterPages_insertFriends]
    rfl
  rw [passesFriends_iff hcall]
  have hlists := lists_foldl_extend server.friends.pages
  exact forall_congr' fun uin => by rw [hlists uin]; exact eq_comm

variable (hunnamed : ∀ event ∈ server.friends.pages, event.Unnamed)
include hunnamed

theorem refreshFriendsCache_lists (store : Store) :
    ∃ store', (refreshFriendsCache server).run.run store = (.ok (), store') ∧
      Lists namedSoFar server.friends.pages store'.cachedFriends := by
  have hgroups : ∀ event ∈ server.friends.pages, ∀ friend ∈ event.friends, friend.group.isSome := by
    intro event hevent friend hfriend
    obtain ⟨groupId, hgroup⟩ := hunnamed event hevent friend hfriend
    simp [hgroup]
  have hpages := iterPages_fold (fun event hevent => FriendsFetch.refreshFriendsPage_run fun friend hfriend =>
    Option.isSome_iff_ne_none.mp (hgroups event hevent friend hfriend)) { store, friends := ∅, friendGroups := ∅ }
  rw [← iterFetch_eq h] at hpages
  unfold refreshFriendsCache
  simp only [run_get_bind, hpages, run_set_bind]
  refine ⟨_, rfl, fun uin => ?_⟩
  rw [DashMap.lookup_extend_toList]
  exact (FriendsFetch.Read.foldl hgroups store).lists uin

theorem refreshMissingFriend_lists (maybeFriendUin : Option UInt32) {store : Store}
    (hstore : Lists namedSoFar server.friends.pages store.cachedFriends) :
    ∃ store', (refreshMissingFriend server maybeFriendUin).run.run store = (.ok (), store') ∧
      Lists namedSoFar server.friends.pages store'.cachedFriends := by
  unfold refreshMissingFriend
  rw [run_get_bind]
  split
  · exact refreshFriendsCache_lists h hunnamed store
  · exact ⟨store, rfl, hstore⟩

/-- A call whose first refresh, if any, leaves the listed friends passes them on. -/
theorem passesFriends_listed_iff (maybeFriendUin : Option UInt32) (refreshCache : Bool) {store first : Store}
    (hfirst : (if refreshCache then refreshFriendsCache server else pure ()).run.run store = (.ok (), first))
    (hlists : Lists namedSoFar server.friends.pages first.cachedFriends) (entry : UInt32 → Option BotFriend) :
    PassesFriends server maybeFriendUin refreshCache (some store) entry ↔
      ∀ uin, entry uin = (lastFriend uin server.friends.pages).map fun last => namedSoFar last.1 last.2 := by
  obtain ⟨second, hsecond, hlists⟩ := refreshMissingFriend_lists h hunnamed maybeFriendUin hlists
  have hcall : ∀ processFn, fetchMaybeCachedFriends server maybeFriendUin processFn refreshCache (some store) =
      (.ok (processFn second.cachedFriends), some second) := by
    intro processFn
    unfold fetchMaybeCachedFriends withStore
    simp only [run_bind_ok hfirst, run_bind_ok hsecond, run_get_bind]
    rfl
  rw [passesFriends_iff hcall]
  exact forall_congr' fun uin => by rw [hlists uin]; exact eq_comm

/-- With a cache, refreshing or refreshed. -/
theorem passesFriends_store_iff (maybeFriendUin : Option UInt32) (store : Store) (entry : UInt32 → Option BotFriend) :
    (PassesFriends server maybeFriendUin true (some store) entry ∧
      ∀ refreshCache, PassesFriends server maybeFriendUin refreshCache (Cache.refreshFriends server (some store)).2 entry) ↔
    ∀ uin, entry uin = (lastFriend uin server.friends.pages).map fun last => namedSoFar last.1 last.2 := by
  obtain ⟨first, hfirst, hlists⟩ := refreshFriendsCache_lists h hunnamed store
  have hrefreshing := passesFriends_listed_iff h hunnamed maybeFriendUin true hfirst hlists entry
  constructor
  · rintro ⟨hpass, -⟩
    exact hrefreshing.mp hpass
  · intro hentry
    refine ⟨hrefreshing.mpr hentry, fun refreshCache => ?_⟩
    have hrefreshed : (Cache.refreshFriends server (some store)).2 = some first := by
      simp only [Cache.refreshFriends, withStore, hfirst]
    rw [hrefreshed]
    cases refreshCache with
    | false => exact (passesFriends_listed_iff h hunnamed maybeFriendUin false rfl hlists entry).mpr hentry
    | true =>
      obtain ⟨second, hsecond, hlists⟩ := refreshFriendsCache_lists h hunnamed first
      exact (passesFriends_listed_iff h hunnamed maybeFriendUin true hsecond hlists entry).mpr hentry

/-! ## When it is what the server lists -/

omit h hunnamed

/-- One entry for each friend, whatever the mode: its last occurrence, under
a name that the server gives its group. -/
def FriendsAsListed (server : Server) : Prop :=
  ∃ entry : UInt32 → Option BotFriend,
    (∀ uin, Option.Rel (BotFriend.NamedBy server.friends.pages)
      (server.friendList.filter (·.uin = uin)).getLast? (entry uin)) ∧
    ∀ (cache : Cache) (maybeFriendUin : Option UInt32),
      PassesFriends server maybeFriendUin true cache entry ∧
        ∀ refreshCache, PassesFriends server maybeFriendUin refreshCache (cache.refreshFriends server).2 entry

/-- No page names the group of the friend, or some page names it with nothing;
and no page up to the friend's own names it last with anything else. -/
structure NameKept (events upTo : List FetchFriendsEvent) (friend : BotFriend) : Prop where
  anywhere : friend.groupNames events = [] ∨ "" ∈ friend.groupNames events
  soFar : ∀ name ∈ (friend.groupNames upTo).getLast?, name = ""

theorem BotFriend.named_eq_self_iff {friend : BotFriend} {groupId : UInt32} {name : String}
    (hgroup : friend.group = some { groupId, groupName := "" }) : friend.named (some name) = friend ↔ name = "" := by
  obtain ⟨uin, uid, nickname, remarks, personalSign, qid, group, avatar⟩ := friend
  cases hgroup
  simp [BotFriend.named]

theorem nameKept_iff {events upTo : List FetchFriendsEvent} {friend : BotFriend} {groupId : UInt32}
    (hgroup : friend.group = some { groupId, groupName := "" }) :
    NameKept events upTo friend ↔ BotFriend.NamedBy events friend friend ∧ namedSoFar upTo friend = friend := by
  have anywhere : BotFriend.NamedBy events friend friend ↔
      friend.groupNames events = [] ∨ "" ∈ friend.groupNames events := by
    simp only [BotFriend.NamedBy, and_true, eq_comm (a := friend), BotFriend.named_eq_self_iff hgroup, exists_eq_right]
  have soFar : namedSoFar upTo friend = friend ↔ ∀ name ∈ (friend.groupNames upTo).getLast?, name = "" := by
    unfold namedSoFar
    cases (friend.groupNames upTo).getLast? with
    | none => simp [BotFriend.named]
    | some name => simp [BotFriend.named_eq_self_iff hgroup]
  rw [anywhere, soFar]
  exact ⟨fun h => ⟨h.anywhere, h.soFar⟩, fun h => ⟨h.1, h.2⟩⟩

/-- A friend that is listed is on a page, and comes without its group's name. -/
theorem lastFriend_unnamed {events : List FetchFriendsEvent} (hunnamed : ∀ event ∈ events, event.Unnamed) {uin : UInt32}
    {upTo : List FetchFriendsEvent} {friend : BotFriend} (hlast : lastFriend uin events = some (upTo, friend)) :
    ∃ groupId, friend.group = some { groupId, groupName := "" } := by
  have hmem := lastFriend_eq uin events
  rw [hlast, Option.map_some] at hmem
  have hfriend := List.mem_of_mem_filter (List.mem_of_getLast? hmem.symm)
  obtain ⟨event, hevent, hon⟩ := List.mem_flatMap.mp hfriend
  exact hunnamed event hevent friend hon

/-- The map that is passed without a cache and the one with it name the last
occurrence alike. -/
theorem FriendsAsListed.nameKept {server : Server} (hlisted : FriendsAsListed server) (h : server.friends.Succeeds)
    (hunnamed : ∀ event ∈ server.friends.pages, event.Unnamed) {uin : UInt32} {upTo : List FetchFriendsEvent}
    {friend : BotFriend} (hlast : lastFriend uin server.friends.pages = some (upTo, friend)) :
    NameKept server.friends.pages upTo friend := by
  obtain ⟨entry, hentry, hpasses⟩ := hlisted
  have hnone := (passesFriends_none_iff h none true entry).mp (hpasses none none).1 uin
  have hstore := (passesFriends_store_iff h hunnamed none
    { index := none, cachedFriends := ∅, cachedGroupMembers := ∅ } entry).mp (hpasses (some _) none) uin
  obtain ⟨groupId, hgroup⟩ := lastFriend_unnamed hunnamed hlast
  have hlisted := hentry uin
  rw [Server.friendList, ← lastFriend_eq, hnone, hlast] at hlisted
  rw [hnone, hlast] at hstore
  cases hlisted with
  | some hnamed => exact (nameKept_iff hgroup).mpr ⟨hnamed, (Option.some.inj hstore).symm⟩

/-- The last occurrences as they come, where their names are kept. -/
theorem FriendsAsListed.of_nameKept {server : Server} (h : server.friends.Succeeds)
    (hunnamed : ∀ event ∈ server.friends.pages, event.Unnamed)
    (hkept : ∀ uin upTo friend, lastFriend uin server.friends.pages = some (upTo, friend) →
      NameKept server.friends.pages upTo friend) : FriendsAsListed server := by
  refine ⟨fun uin => (lastFriend uin server.friends.pages).map Prod.snd, fun uin => ?_, fun cache maybeFriendUin => ?_⟩
  · rw [Server.friendList, ← lastFriend_eq]
    dsimp only
    cases hlast : lastFriend uin server.friends.pages with
    | none => exact .none
    | some last =>
      obtain ⟨groupId, hgroup⟩ := lastFriend_unnamed hunnamed hlast
      exact .some ((nameKept_iff hgroup).mp (hkept uin last.1 last.2 hlast)).1
  · cases cache with
    | none =>
      have hpass : ∀ refreshCache, PassesFriends server maybeFriendUin refreshCache none _ := fun refreshCache =>
        (passesFriends_none_iff h maybeFriendUin refreshCache _).mpr fun _ => rfl
      exact ⟨hpass true, hpass⟩
    | some store =>
      refine (passesFriends_store_iff h hunnamed maybeFriendUin store _).mpr fun uin => ?_
      cases hlast : lastFriend uin server.friends.pages with
      | none => rfl
      | some last =>
        obtain ⟨groupId, hgroup⟩ := lastFriend_unnamed hunnamed hlast
        have hsame := ((nameKept_iff hgroup).mp (hkept uin last.1 last.2 hlast)).2
        simp [hsame]

/-- The map is the same in every mode, and what the server lists, exactly when
for the last occurrence of each friend the name of its group is kept. -/
theorem friendsAsListed_iff (server : Server) (h : server.friends.Succeeds)
    (hparse : ∀ event ∈ server.friends.pages, ∃ response next, FetchFriendsEvent.parse response = .ok (event, next)) :
    FriendsAsListed server ↔ ∀ uin upTo friend, lastFriend uin server.friends.pages = some (upTo, friend) →
      NameKept server.friends.pages upTo friend := by
  have hunnamed : ∀ event ∈ server.friends.pages, event.Unnamed := by
    intro event hevent
    obtain ⟨response, next, hparsed⟩ := hparse event hevent
    exact FetchFriendsEvent.parse_unnamed hparsed
  exact ⟨fun hlisted _ _ _ hlast => hlisted.nameKept h hunnamed hlast, .of_nameKept h hunnamed⟩

/-- One friend, in the group 1, and the names of some groups. -/
def oneFriend (groups : List OidbFriendProperty) : OidbSvcTrpcTcp0xFd41response where
  next := none
  friends :=
    [{ uid := "u_friend"
       customGroup := 1
       uin := 10001
       additional := [{ type := 1, layer1 := some { properties := [] } }] }]
  groups

def oneFriendPage (groups : List OidbFriendProperty) : FetchFriendsEvent where
  friends := [.new 10001 "u_friend" (decimal 0 10001) "" "" "" (some { groupId := 1, groupName := "" })]
  friendGroups := DashMap.extend ∅ (groups.map fun group => (group.code, group.value))

theorem parse_oneFriend (groups : List OidbFriendProperty) :
    FetchFriendsEvent.parse (oneFriend groups) = .ok (oneFriendPage groups, none) := rfl

def oneFriendServer (groups : List OidbFriendProperty) : Server where
  friends := .last (oneFriendPage groups)
  members _ := .last { groupMembers := [] }

theorem oneFriendServer_succeeds (groups : List OidbFriendProperty) : (oneFriendServer groups).friends.Succeeds := trivial

/-- The server names the friend's group on the friend's page: the cache has
the name, and without a cache it is empty. -/
theorem namedFriend_not_asListed : ¬ FriendsAsListed (oneFriendServer [{ code := 1, value := "Family" }]) := by
  rintro ⟨entry, -, hpasses⟩
  have hunnamed : ∀ event ∈ (oneFriendServer [{ code := 1, value := "Family" }]).friends.pages, event.Unnamed := by
    intro event hevent
    cases List.mem_singleton.mp hevent
    exact FetchFriendsEvent.parse_unnamed (parse_oneFriend _)
  have hnone := (passesFriends_none_iff (oneFriendServer_succeeds _) none true entry).mp (hpasses none none).1 10001
  have hstore := (passesFriends_store_iff (oneFriendServer_succeeds _) hunnamed none
    { index := none, cachedFriends := ∅, cachedGroupMembers := ∅ } entry).mp (hpasses (some _) none) 10001
  have hgroup : some (some (BotFriendGroup.mk 1 "")) = some (some (BotFriendGroup.mk 1 "Family")) :=
    congrArg (Option.map BotFriend.group) (hnone.symm.trans hstore)
  simp at hgroup

theorem unnamedFriend_asListed : FriendsAsListed (oneFriendServer []) := by
  refine (friendsAsListed_iff (oneFriendServer []) (oneFriendServer_succeeds []) ?_).mpr ?_
  · intro event hevent
    cases List.mem_singleton.mp hevent
    exact ⟨_, _, parse_oneFriend []⟩
  · intro uin upTo friend hlast
    obtain ⟨f, -, hf⟩ := Option.map_eq_some_iff.mp hlast
    cases hf
    have hnames : friend.groupNames (oneFriendServer []).friends.pages = [] := by
      cases hgroup : friend.group with
      | none => simp [BotFriend.groupNames, hgroup]
      | some group =>
        simp [BotFriend.groupNames, hgroup, oneFriendServer, Answers.pages, oneFriendPage]
    exact ⟨.inl hnames, by simp [show friend.groupNames [oneFriendPage []] = [] from hnames]⟩

end Mania
