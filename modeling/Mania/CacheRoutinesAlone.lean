/-
The two models of `core/operation/cache_op.rs` agree. A task that nobody
interrupts answers what the operation answers when it is run in one go, and
leaves the same cache, whether the server answers every page or fails on the
way (`operation_alone`). So what `CacheOpFacts` and the modules on top of it
prove of one operation holds of the tasks, as far as they do not overlap.
-/
import Mania.CacheRoutines

namespace Mania

open Paged Runs
open Coroutine (Pool)

variable {ρ : Type} {Reply : ρ → Type} {ω σ α β S V : Type} {reply : (r : ρ) → σ → Reply r × σ}

/-! ## How a task ends alone -/

/-- Alone, the task comes to `r` and leaves `w'`, and tells nothing. -/
def Ends (reply : (r : ρ) → σ → Reply r × σ) (t : CacheRoutine Reply ω α) (w : CacheWorld σ) (r : Except ManiaError α)
    (w' : CacheWorld σ) : Prop :=
  t.run.alone (Access.exec reply) w = (some r, [], w')

namespace Ends

variable {t : CacheRoutine Reply ω α} {f : α → CacheRoutine Reply ω β} {w w' w'' : CacheWorld σ}

theorem pure {a : α} : Ends reply (pure a : CacheRoutine Reply ω α) w (.ok a) w := rfl

theorem throw {e : ManiaError} : Ends reply (throw e : CacheRoutine Reply ω α) w (.error e) w := rfl

theorem access (c : Access ρ) :
    Ends reply (Routine.access c : CacheRoutine Reply ω _) w (.ok (c.exec reply w).1) (c.exec reply w).2 := rfl

theorem ofExcept (x : Except ManiaError α) : Ends reply (MonadExcept.ofExcept x : CacheRoutine Reply ω α) w x w := by
  cases x <;> rfl

theorem bind_ok {a : α} {r : Except ManiaError β} (h : Ends reply t w (.ok a) w') (hf : Ends reply (f a) w' r w'') :
    Ends reply (t >>= f) w r w'' := by
  rw [Ends, ExceptT.run_bind, Coroutine.alone_bind_nil h]
  exact hf

theorem bind_error {e : ManiaError} (h : Ends reply t w (.error e) w') : Ends reply (t >>= f) w (.error e) w' := by
  rw [Ends, ExceptT.run_bind, Coroutine.alone_bind_nil h]
  rfl

end Ends

/-- A page is asked for, and nothing else happens. -/
theorem awaitPage_ends (w : CacheWorld σ) :
    Ends reply (Routine.awaitPage : CacheRoutine Reply ω Unit) w (.ok ()) w := by
  obtain ⟨cache, outside⟩ := w
  cases cache <;> rfl

/-! ## Against the operations run in one go -/

/-- Tasks and fallible computations on a state that `At` fits to the world. -/
def linked (reply : (r : ρ) → σ → Reply r × σ) (At : S → CacheWorld σ → Prop) :
    Simulation ManiaError (CacheRoutine Reply ω) (Closure S) where
  rel x y := ∀ s w, At s w → ∃ w', Ends reply x w (y.run.run s).1 w' ∧ At (y.run.run s).2 w'
  pure a s w h := ⟨w, .pure, h⟩
  throw e s w h := ⟨w, .throw, h⟩
  bind {α β x y f g} hx hf s w h := by
    obtain ⟨w', hends, h'⟩ := hx s w h
    rcases hy : y.run.run s with ⟨r, s'⟩
    rw [hy] at hends h'
    cases r with
    | error e =>
      rw [run_bind_error hy]
      exact ⟨w', hends.bind_error, h'⟩
    | ok a =>
      rw [run_bind_ok hy]
      obtain ⟨w'', hends', h''⟩ := hf a s' w' h'
      exact ⟨w'', hends.bind_ok hends', h''⟩

/-- The same with variables, which are a part of the state. -/
def linkedVars (reply : (r : ρ) → σ → Reply r × σ) (vars : S → V) (At : S → CacheWorld σ → Prop) :
    Simulation ManiaError (StateT V (CacheRoutine Reply ω)) (Closure S) where
  rel x y := ∀ s w, At s w → ∃ w',
    Ends reply (x.run (vars s)) w ((y.run.run s).1.map fun a => (a, vars (y.run.run s).2)) w' ∧ At (y.run.run s).2 w'
  pure a s w h := ⟨w, .pure, h⟩
  throw e s w h := ⟨w, .throw, h⟩
  bind {α β x y f g} hx hf s w h := by
    obtain ⟨w', hends, h'⟩ := hx s w h
    rcases hy : y.run.run s with ⟨r, s'⟩
    rw [hy] at hends h'
    cases r with
    | error e =>
      rw [run_bind_error hy]
      exact ⟨w', hends.bind_error, h'⟩
    | ok a =>
      rw [run_bind_ok hy]
      obtain ⟨w'', hends', h''⟩ := hf a s' w' h'
      exact ⟨w'', hends.bind_ok hends', h''⟩

/-- And with requests only, that leave the world as it is. -/
def asked (reply : (r : ρ) → σ → Reply r × σ) :
    Simulation ManiaError (CacheRoutine Reply ω) (Except ManiaError) where
  rel x y := ∀ w, Ends reply x w y w
  pure a w := .pure
  throw e w := .throw
  bind {α β x y f g} hx hf w := by
    have hends := hx w
    cases y with
    | error e => exact hends.bind_error
    | ok a => exact hends.bind_ok (hf a w)

/-- A process that waits for its page first. -/
theorem linkedVars_await {vars : S → V} {At : S → CacheWorld σ → Prop} {x : StateT V (CacheRoutine Reply ω) α}
    {y : Closure S α} (h : (linkedVars reply vars At).rel x y) :
    (linkedVars reply vars At).rel (do
      liftM (Routine.awaitPage : CacheRoutine Reply ω Unit)
      x) y := by
  intro s w hat
  obtain ⟨w', hends, hat'⟩ := h s w hat
  exact ⟨w', ((awaitPage_ends w).bind_ok .pure).bind_ok hends, hat'⟩

theorem linkedVars_modify {vars : S → V} {At : S → CacheWorld σ → Prop} {f : V → V} {g : S → S}
    (hvars : ∀ s, f (vars s) = vars (g s)) (hat : ∀ s w, At s w → At (g s) w) :
    (linkedVars reply vars At).rel (modify f : StateT V (CacheRoutine Reply ω) PUnit) (modify g) := by
  intro s w h
  refine ⟨w, ?_, hat s w h⟩
  show Ends reply (Pure.pure (PUnit.unit, f (vars s))) w (.ok (PUnit.unit, vars (g s))) w
  rw [hvars]
  exact .pure

/-- The cache of the world is the store, in this mode. -/
def Stores (mode : CacheMode) (outside : σ) (store : Store) (w : CacheWorld σ) : Prop :=
  w = { cache := some store, outside } ∧ Cache.cacheMode (some store) = mode

theorem cacheMode_insertUinUid (store : Store) (uin : UInt32) (uid : String) :
    Cache.cacheMode (some (store.insertUinUid uin uid)) = Cache.cacheMode (some store) := by
  obtain ⟨index, friends, groups⟩ := store
  cases index <;> rfl

/-- Without an index there is nothing to insert into. -/
theorem insertUinUid_of_half {store : Store} (h : Cache.cacheMode (some store) ≠ .full) (uin : UInt32) (uid : String) :
    store.insertUinUid uin uid = store := by
  obtain ⟨index, friends, groups⟩ := store
  cases index with
  | none => rfl
  | some index => exact absurd rfl h

theorem cacheMode_ne_none (store : Store) : Cache.cacheMode (some store) ≠ .none := by
  obtain ⟨index, friends, groups⟩ := store
  cases index <;> nofun

/-! ## Filling the cache -/

theorem insertUinUid_ends (store : Store) (outside : σ) (uin : UInt32) (uid : String) :
    Ends reply (Routine.insertUinUid uin uid : CacheRoutine Reply ω Unit) { cache := some store, outside } (.ok ())
      { cache := some (store.insertUinUid uin uid), outside } := by
  obtain ⟨index, friends, groups⟩ := store
  cases index <;> rfl

/-- The variables of `refresh_friends_cache`, of what it works on. -/
def FriendsFetch.vars (s : FriendsFetch) : Routine.FriendsVars := { friends := s.friends, friendGroups := s.friendGroups }

section
variable {mode : CacheMode} {outside : σ}

theorem refreshFriend_linked (friend : BotFriend) :
    (linkedVars reply FriendsFetch.vars fun s => Stores mode outside s.store).rel
      (Routine.refreshFriend mode friend : StateT Routine.FriendsVars (CacheRoutine Reply ω) Unit)
      (Mania.refreshFriend friend) := by
  rintro s w ⟨rfl, hmode⟩
  unfold Routine.refreshFriend Mania.refreshFriend
  cases friend.group with
  | none => exact ⟨_, .throw, rfl, hmode⟩
  | some group =>
    let friend' := s.withGroupName friend group
    have hmode' : Cache.cacheMode (some (s.store.insertUinUid friend'.uin friend'.uid)) = mode :=
      (cacheMode_insertUinUid s.store friend'.uin friend'.uid).trans hmode
    refine ⟨{ cache := some (s.store.insertUinUid friend'.uin friend'.uid), outside }, ?_, rfl, hmode'⟩
    let v := (s.insert friend').vars
    show Ends reply (StateT.run (if mode = .full then
      liftM (Routine.insertUinUid friend'.uin friend'.uid : CacheRoutine Reply ω Unit) else pure ()) v) _ (.ok ((), v)) _
    by_cases hfull : mode = .full
    · rw [if_pos hfull]
      exact (insertUinUid_ends s.store outside friend'.uin friend'.uid).bind_ok .pure
    · rw [if_neg hfull, insertUinUid_of_half (hmode ▸ hfull)]
      exact .pure

theorem refreshFriendsPage_linked (event : FetchFriendsEvent) :
    (linkedVars reply FriendsFetch.vars fun s => Stores mode outside s.store).rel
      (Routine.refreshFriendsPage mode event : StateT Routine.FriendsVars (CacheRoutine Reply ω) (Option Unit))
      (Mania.refreshFriendsPage event) := by
  refine linkedVars_await ?_
  let R := linkedVars (ω := ω) reply FriendsFetch.vars fun s => Stores mode outside s.store
  refine R.bind (linkedVars_modify (fun _ => rfl) fun _ _ h => h) fun _ => ?_
  exact R.bind (R.forM refreshFriend_linked event.friends) fun _ => R.pure none

/-- The entries go in one after the other. -/
theorem insertFriends_ends (entries : List (UInt32 × BotFriend)) (store : Store) :
    Ends reply (entries.forM fun e => Routine.access (.insertFriend e.1 e.2) : CacheRoutine Reply ω PUnit)
      { cache := some store, outside } (.ok ())
      { cache := some { store with cachedFriends := store.cachedFriends.extend entries }, outside } := by
  induction entries generalizing store with
  | nil => exact .pure
  | cons e entries ih =>
    exact (Ends.access (.insertFriend e.1 e.2)).bind_ok (ih { store with
      cachedFriends := store.cachedFriends.insert e.1 e.2 })

theorem refreshFriendsCache_linked (server : Server) :
    (linked reply (Stores mode outside)).rel (Routine.refreshFriendsCache mode server : CacheRoutine Reply ω Unit)
      (Mania.refreshFriendsCache server) := by
  rintro store w ⟨rfl, hmode⟩
  rw [Routine.refreshFriendsCache, if_neg (hmode ▸ cacheMode_ne_none store)]
  obtain ⟨_, hpages, rfl, hmode'⟩ := (linkedVars reply FriendsFetch.vars fun s => Stores mode outside s.store).iterFetch
    (refreshFriendsPage_linked (ω := ω)) server.friends { store, friends := ∅, friendGroups := ∅ } _ ⟨rfl, hmode⟩
  have hrun : (Mania.refreshFriendsCache server).run.run store =
      (match (iterFetch Mania.refreshFriendsPage server.friends).run.run { store, friends := ∅, friendGroups := ∅ } with
      | (.error e, s) => (.error e, s.store)
      | (.ok _, s) => (.ok (), { s.store with cachedFriends := DashMap.extend ∅ s.friends.toList })) := by
    rw [Mania.refreshFriendsCache, run_get_bind]
    rcases (iterFetch Mania.refreshFriendsPage server.friends).run.run { store, friends := ∅, friendGroups := ∅ } with
      ⟨result, s⟩
    cases result <;> rfl
  rw [hrun]
  rcases hfetch : (iterFetch Mania.refreshFriendsPage server.friends).run.run
    { store, friends := ∅, friendGroups := ∅ } with ⟨result, s⟩
  rw [hfetch] at hpages hmode'
  cases result with
  | error e => exact ⟨_, hpages.bind_error, rfl, hmode'⟩
  | ok r =>
    refine ⟨_, hpages.bind_ok ((Ends.access .clearFriends).bind_ok (insertFriends_ends _ _)), rfl, ?_⟩
    obtain ⟨⟨index, friends, groups⟩, vars, names⟩ := s
    cases index <;> exact hmode'

/-- A page is taken into the variables, and the world stays as it is. -/
theorem takePage_linked (f : V → V) (w : CacheWorld σ) :
    (linkedVars reply id fun _ w' => w' = w).rel (do
      (Routine.awaitPage : CacheRoutine Reply ω Unit)
      modify f
      pure none : StateT V (CacheRoutine Reply ω) (Option Unit)) (do
      modify f
      pure none : Closure V (Option Unit)) := by
  let R := linkedVars (ω := ω) (V := V) reply id fun _ w' => w' = w
  exact linkedVars_await (R.bind (linkedVars_modify (fun _ => rfl) fun _ _ h => h) fun _ => R.pure none)

theorem insertUinUids_ends (members : List BotGroupMember) (store : Store) :
    Ends reply (members.forM fun bgm => Routine.insertUinUid bgm.uin bgm.uid : CacheRoutine Reply ω PUnit)
      { cache := some store, outside } (.ok ())
      { cache := some (members.foldl (fun store bgm => store.insertUinUid bgm.uin bgm.uid) store), outside } := by
  induction members generalizing store with
  | nil => exact .pure
  | cons bgm members ih => exact (insertUinUid_ends store outside bgm.uin bgm.uid).bind_ok (ih _)

theorem cacheMode_insertUinUids (members : List BotGroupMember) (store : Store) :
    Cache.cacheMode (some (members.foldl (fun store bgm => store.insertUinUid bgm.uin bgm.uid) store)) =
      Cache.cacheMode (some store) := by
  induction members generalizing store with
  | nil => rfl
  | cons bgm members ih => exact (ih _).trans (cacheMode_insertUinUid store bgm.uin bgm.uid)

theorem insertUinUids_of_half {store : Store} (h : Cache.cacheMode (some store) ≠ .full) (members : List BotGroupMember) :
    members.foldl (fun store bgm => store.insertUinUid bgm.uin bgm.uid) store = store := by
  induction members with
  | nil => rfl
  | cons bgm members ih => rw [List.foldl_cons, insertUinUid_of_half h, ih]

theorem insertMembers_ends {store : Store} (hmode : Cache.cacheMode (some store) = mode) (members : List BotGroupMember) :
    Ends reply (if mode = .full then members.forM fun bgm => Routine.insertUinUid bgm.uin bgm.uid else pure () :
        CacheRoutine Reply ω Unit) { cache := some store, outside } (.ok ())
      { cache := some (members.foldl (fun store bgm => store.insertUinUid bgm.uin bgm.uid) store), outside } := by
  by_cases hfull : mode = .full
  · rw [if_pos hfull]
    exact insertUinUids_ends members store
  · rw [if_neg hfull, insertUinUids_of_half (hmode ▸ hfull)]
    exact .pure

theorem refreshGroupMembersCache_linked (server : Server) (groupUin : UInt32) :
    (linked reply (Stores mode outside)).rel
      (Routine.refreshGroupMembersCache mode server groupUin : CacheRoutine Reply ω Unit)
      (Mania.refreshGroupMembersCache server groupUin) := by
  rintro store w ⟨rfl, hmode⟩
  rw [Routine.refreshGroupMembersCache, if_neg (hmode ▸ cacheMode_ne_none store)]
  have hpage (event : FetchMembersEvent) : (linkedVars reply id fun _ w => w = { cache := some store, outside }).rel
      (Routine.refreshGroupMembersPage event : StateT (List BotGroupMember) (CacheRoutine Reply ω) (Option Unit))
      (Mania.refreshGroupMembersPage event) := takePage_linked _ _
  obtain ⟨_, hpages, rfl⟩ := (linkedVars reply id fun _ w => w = { cache := some store, outside }).iterFetch hpage
    (server.members groupUin) [] _ rfl
  rcases hfetch : (iterFetch Mania.refreshGroupMembersPage (server.members groupUin)).run.run [] with
    ⟨result, groupMembers⟩
  rw [hfetch] at hpages
  unfold Mania.refreshGroupMembersCache
  simp only [hfetch]
  cases result with
  | error e => exact ⟨_, hpages.bind_error, rfl, hmode⟩
  | ok r =>
    refine ⟨_, hpages.bind_ok ((insertMembers_ends hmode groupMembers).bind_ok ((Ends.access _).bind_ok .pure)), rfl, ?_⟩
    have hmode' := (cacheMode_insertUinUids groupMembers store).trans hmode
    show Cache.cacheMode (some { groupMembers.foldl (fun store bgm => store.insertUinUid bgm.uin bgm.uid) store with
      cachedGroupMembers := _ }) = mode
    generalize groupMembers.foldl (fun store bgm => store.insertUinUid bgm.uin bgm.uid) store = filled at *
    obtain ⟨index, friends, groups⟩ := filled
    cases index <;> exact hmode'

/-! ## Filling it before a lookup -/

theorem refreshMissingGroup_linked (server : Server) (groupUin : UInt32) :
    (linked reply (Stores mode outside)).rel
      (Routine.refreshMissingGroup mode server groupUin : CacheRoutine Reply ω Unit)
      (Mania.refreshMissingGroup server groupUin) := by
  rintro store w ⟨rfl, hmode⟩
  have hlook : Ends reply (Routine.access (.containsGroup groupUin) : CacheRoutine Reply ω (Option Bool))
    { cache := some store, outside } (.ok (some (store.cachedGroupMembers.containsKey groupUin)))
    { cache := some store, outside } := .access (.containsGroup groupUin)
  unfold Routine.refreshMissingGroup Mania.refreshMissingGroup
  rw [run_get_bind]
  cases hcontained : store.cachedGroupMembers.containsKey groupUin with
  | true =>
    rw [hcontained] at hlook
    exact ⟨_, hlook.bind_ok .pure, rfl, hmode⟩
  | false =>
    rw [hcontained] at hlook
    have hfill : (linked reply (Stores mode outside)).rel
        (Routine.refreshGroupMembersCache mode server groupUin : CacheRoutine Reply ω Unit) _ :=
      refreshGroupMembersCache_linked server groupUin
    obtain ⟨w', hends, hstores⟩ := hfill store _ ⟨rfl, hmode⟩
    exact ⟨w', hlook.bind_ok hends, hstores⟩

theorem refreshMissingFriend_linked (server : Server) (maybeFriendUin : Option UInt32) :
    (linked reply (Stores mode outside)).rel
      (Routine.refreshMissingFriend mode server maybeFriendUin : CacheRoutine Reply ω Unit)
      (Mania.refreshMissingFriend server maybeFriendUin) := by
  rintro store w ⟨rfl, hmode⟩
  unfold Mania.refreshMissingFriend
  rw [run_get_bind]
  cases maybeFriendUin with
  | none => exact ⟨_, .pure, rfl, hmode⟩
  | some uin =>
    have hlook : Ends reply (Routine.access (.containsFriend uin) : CacheRoutine Reply ω (Option Bool))
      { cache := some store, outside } (.ok (some (store.cachedFriends.containsKey uin)))
      { cache := some store, outside } := .access (.containsFriend uin)
    unfold Routine.refreshMissingFriend
    rw [Option.any_some]
    cases hcontained : store.cachedFriends.containsKey uin with
    | true =>
      rw [hcontained] at hlook
      exact ⟨_, hlook.bind_ok .pure, rfl, hmode⟩
    | false =>
      rw [hcontained] at hlook
      have hfill : (linked reply (Stores mode outside)).rel
          (Routine.refreshFriendsCache mode server : CacheRoutine Reply ω Unit) _ := refreshFriendsCache_linked server
      obtain ⟨w', hends, hstores⟩ := hfill store _ ⟨rfl, hmode⟩
      exact ⟨w', hlook.bind_ok hends, hstores⟩

/-- The index that a lookup goes by is empty. -/
theorem refreshEmptyIndex_linked (server : Server) {isEmpty : CacheRoutine Reply ω (Option Bool)}
    {indexEmpty : Index → Bool}
    (hlook : ∀ store, Ends reply isEmpty { cache := some store, outside } (.ok (store.index.map indexEmpty))
      { cache := some store, outside }) :
    (linked reply (Stores mode outside)).rel (Routine.refreshEmptyIndex mode server isEmpty)
      (Mania.refreshEmptyIndex server indexEmpty) := by
  rintro store w ⟨rfl, hmode⟩
  unfold Routine.refreshEmptyIndex Mania.refreshEmptyIndex
  rw [run_get_bind]
  have hlook := hlook store
  cases hindex : store.index with
  | none =>
    have hhalf : mode ≠ .full := by
      obtain ⟨index, friends, groups⟩ := store
      subst hindex
      subst hmode
      exact fun h => by cases h
    rw [if_neg hhalf]
    exact ⟨_, .pure, rfl, hmode⟩
  | some index =>
    have hfull : mode = .full := by
      obtain ⟨_, friends, groups⟩ := store
      subst hindex
      exact hmode.symm
    rw [if_pos hfull, Option.any_some]
    rw [hindex, Option.map_some] at hlook
    cases hempty : indexEmpty index with
    | false =>
      rw [hempty] at hlook
      exact ⟨_, hlook.bind_ok .pure, rfl, hmode⟩
    | true =>
      rw [hempty] at hlook
      have hfill : (linked reply (Stores mode outside)).rel
          (Routine.refreshFriendsCache mode server : CacheRoutine Reply ω Unit) _ := refreshFriendsCache_linked server
      obtain ⟨w', hends, hstores⟩ := hfill store _ ⟨rfl, hmode⟩
      exact ⟨w', hlook.bind_ok hends, hstores⟩

theorem refreshMissing_linked (server : Server) {isEmpty : CacheRoutine Reply ω (Option Bool)}
    {indexEmpty : Index → Bool}
    (hlook : ∀ store, Ends reply isEmpty { cache := some store, outside } (.ok (store.index.map indexEmpty))
      { cache := some store, outside }) (groupUin : Option UInt32) :
    (linked reply (Stores mode outside)).rel (Routine.refreshMissing mode server isEmpty groupUin)
      (Mania.refreshMissing server indexEmpty groupUin) := by
  refine (linked reply (Stores mode outside)).bind (refreshEmptyIndex_linked server hlook) fun _ => ?_
  cases groupUin with
  | none => exact (linked reply (Stores mode outside)).pure ()
  | some groupUin => exact refreshMissingGroup_linked server groupUin

/-! ## The lookups -/

theorem resolveUin2uidWithinCache_ends (store : Store) (uin : UInt32) (groupUin : Option UInt32) :
    Ends reply (Routine.resolveUin2uidWithinCache uin groupUin : CacheRoutine Reply ω String)
      { cache := some store, outside } (Mania.resolveUin2uidWithinCache store uin groupUin)
      { cache := some store, outside } := by
  have hlook : Ends reply (Routine.access (.getUin2uid uin) : CacheRoutine Reply ω (Option String))
    { cache := some store, outside } (.ok (store.index.bind (·.uin2uid.lookup uin))) { cache := some store, outside } :=
    .access (.getUin2uid uin)
  refine hlook.bind_ok ?_
  unfold Mania.resolveUin2uidWithinCache
  cases store.index.bind (·.uin2uid.lookup uin) with
  | some uid => exact .pure
  | none =>
    cases groupUin with
    | some g =>
      refine (Ends.access .groupMembers).bind_ok ?_
      exact (asked reply).bind (fun _ => .ofExcept _) (fun _ _ => .ofExcept _) _
    | none =>
      refine (Ends.access .friends).bind_ok ?_
      exact (asked reply).bind (fun _ => .ofExcept _) (fun _ _ => .pure) _

theorem resolveUid2uinWithinCache_ends (store : Store) (uid : String) (groupUin : Option UInt32) :
    Ends reply (Routine.resolveUid2uinWithinCache uid groupUin : CacheRoutine Reply ω UInt32)
      { cache := some store, outside } (Mania.resolveUid2uinWithinCache store uid groupUin)
      { cache := some store, outside } := by
  have hlook : Ends reply (Routine.access (.getUid2uin uid) : CacheRoutine Reply ω (Option UInt32))
    { cache := some store, outside } (.ok (store.index.bind (·.uid2uin.lookup uid))) { cache := some store, outside } :=
    .access (.getUid2uin uid)
  refine hlook.bind_ok ?_
  unfold Mania.resolveUid2uinWithinCache
  cases store.index.bind (·.uid2uin.lookup uid) with
  | some uin => exact .pure
  | none =>
    cases groupUin with
    | some g =>
      refine (Ends.access .groupMembers).bind_ok ?_
      exact (asked reply).bind (fun _ => .ofExcept _) (fun _ _ => .ofExcept _) _
    | none =>
      refine (Ends.access .friends).bind_ok ?_
      exact (asked reply).bind (fun _ => .ofExcept _) (fun _ _ => .pure) _

/-! ## Asking the server -/

/-- A page that is only looked at. -/
theorem page_asked (r : Option α) : (asked reply).rel (do
      Routine.awaitPage
      pure r : CacheRoutine Reply ω (Option α)) (pure r) :=
  fun w => (awaitPage_ends w).bind_ok .pure

theorem fastFetchFriendsUid_asked (server : Server) (uin : UInt32) :
    (asked reply).rel (Routine.fastFetchFriendsUid server uin : CacheRoutine Reply ω String)
      (Mania.fastFetchFriendsUid server uin) :=
  (asked reply).bind ((asked reply).iterFetch (fun _ => page_asked _) server.friends) fun _ _ => .ofExcept _

theorem fastFetchFriendsUin_asked (server : Server) (uid : String) :
    (asked reply).rel (Routine.fastFetchFriendsUin server uid : CacheRoutine Reply ω UInt32)
      (Mania.fastFetchFriendsUin server uid) :=
  (asked reply).bind ((asked reply).iterFetch (fun _ => page_asked _) server.friends) fun _ _ => .ofExcept _

theorem fastFetchGroupMembersUid_asked (server : Server) (uin groupUin : UInt32) :
    (asked reply).rel (Routine.fastFetchGroupMembersUid server uin groupUin : CacheRoutine Reply ω String)
      (Mania.fastFetchGroupMembersUid server uin groupUin) :=
  (asked reply).bind ((asked reply).iterFetch (fun _ => page_asked _) (server.members groupUin)) fun _ _ => .ofExcept _

theorem fastFetchGroupMembersUin_asked (server : Server) (uid : String) (groupUin : UInt32) :
    (asked reply).rel (Routine.fastFetchGroupMembersUin server uid groupUin : CacheRoutine Reply ω UInt32)
      (Mania.fastFetchGroupMembersUin server uid groupUin) :=
  (asked reply).bind ((asked reply).iterFetch (fun _ => page_asked _) (server.members groupUin)) fun _ _ => .ofExcept _

/-! ## The operations -/

theorem linked_ends {mode : CacheMode} {t : CacheRoutine Reply ω α} {x : Closure Store α}
    (h : (linked reply (Stores mode outside)).rel t x) {store : Store} (hmode : Cache.cacheMode (some store) = mode) :
    Ends reply t { cache := some store, outside } (withStore x store).1 { cache := (withStore x store).2, outside } := by
  obtain ⟨_, hends, rfl, -⟩ := h store _ ⟨rfl, hmode⟩
  exact hends

theorem run_ofExcept (x : Except ManiaError α) (store : Store) :
    (MonadExcept.ofExcept x : Closure Store α).run.run store = (x, store) := by
  cases x <;> rfl

/-- A lookup in the cache there is. -/
theorem resolve_linked {t : CacheRoutine Reply ω α} {f : Store → Except ManiaError α}
    (h : ∀ store, Ends reply t { cache := some store, outside } (f store) { cache := some store, outside }) :
    (linked reply (Stores mode outside)).rel t (do
      let store ← get
      MonadExcept.ofExcept (f store)) := by
  rintro store w ⟨rfl, hmode⟩
  rw [run_get_bind, run_ofExcept]
  exact ⟨_, h store, rfl, hmode⟩

theorem uin2uid_eq (hmode : mode ≠ .none) (server : Server) (uin : UInt32) (groupUin : Option UInt32) :
    (Routine.uin2uid mode server uin groupUin : CacheRoutine Reply ω String) = (do
      Routine.refreshMissing mode server (Routine.access .uin2uidIsEmpty) groupUin
      Routine.resolveUin2uidWithinCache uin groupUin) := by
  cases mode with
  | full => cases groupUin <;> rfl
  | half => cases groupUin <;> rfl
  | none => exact absurd rfl hmode

theorem uid2uin_eq (hmode : mode ≠ .none) (server : Server) (uid : String) (groupUin : Option UInt32) :
    (Routine.uid2uin mode server uid groupUin : CacheRoutine Reply ω UInt32) = (do
      Routine.refreshMissing mode server (Routine.access .uid2uinIsEmpty) groupUin
      Routine.resolveUid2uinWithinCache uid groupUin) := by
  cases mode with
  | full => cases groupUin <;> rfl
  | half => cases groupUin <;> rfl
  | none => exact absurd rfl hmode

theorem uin2uid_ends (server : Server) (uin : UInt32) (groupUin : Option UInt32) (cache : Cache) (outside : σ) :
    Ends reply (Routine.uin2uid cache.cacheMode server uin groupUin : CacheRoutine Reply ω String) { cache, outside }
      (Mania.uin2uid server uin groupUin cache).1 { cache := (Mania.uin2uid server uin groupUin cache).2, outside } := by
  cases cache with
  | none =>
    cases groupUin with
    | none => exact fastFetchFriendsUid_asked server uin _
    | some groupUin => exact fastFetchGroupMembersUid_asked server uin groupUin _
  | some store =>
    rw [uin2uid_eq (cacheMode_ne_none store)]
    refine linked_ends ((linked reply _).bind (refreshMissing_linked server (fun store => ?_) groupUin) fun _ => ?_) rfl
    · exact .access .uin2uidIsEmpty
    · exact resolve_linked fun store => resolveUin2uidWithinCache_ends store uin groupUin

theorem uid2uin_ends (server : Server) (uid : String) (groupUin : Option UInt32) (cache : Cache) (outside : σ) :
    Ends reply (Routine.uid2uin cache.cacheMode server uid groupUin : CacheRoutine Reply ω UInt32) { cache, outside }
      (Mania.uid2uin server uid groupUin cache).1 { cache := (Mania.uid2uin server uid groupUin cache).2, outside } := by
  cases cache with
  | none =>
    cases groupUin with
    | none => exact fastFetchFriendsUin_asked server uid _
    | some groupUin => exact fastFetchGroupMembersUin_asked server uid groupUin _
  | some store =>
    rw [uid2uin_eq (cacheMode_ne_none store)]
    refine linked_ends ((linked reply _).bind (refreshMissing_linked server (fun store => ?_) groupUin) fun _ => ?_) rfl
    · exact .access .uid2uinIsEmpty
    · exact resolve_linked fun store => resolveUid2uinWithinCache_ends store uid groupUin

/-- What a call answers. A refresh does nothing in mode None. -/
def CacheCall.answer (server : Server) (cache : Cache) : CacheCall → CacheAnswer
  | .uin2uid uin groupUin => .uid (Mania.uin2uid server uin groupUin cache).1
  | .uid2uin uid groupUin => .uin (Mania.uid2uin server uid groupUin cache).1
  | .refreshFriendsCache =>
    .refreshed (cache.elim (.ok ()) fun store => (withStore (Mania.refreshFriendsCache server) store).1)
  | .refreshGroupMembersCache groupUin =>
    .refreshed (cache.elim (.ok ()) fun store => (withStore (Mania.refreshGroupMembersCache server groupUin) store).1)
  | .fetchMaybeCachedFriends maybeFriendUin processFn refreshCache =>
    .friends (Mania.fetchMaybeCachedFriends server maybeFriendUin processFn refreshCache cache).1
  | .fetchMaybeCachedGroupMembers groupUin processFn refreshCache =>
    .members (Mania.fetchMaybeCachedGroupMembers server groupUin processFn refreshCache cache).1

theorem refreshFriendsCache_ends (server : Server) (cache : Cache) (outside : σ) :
    Ends reply (Routine.refreshFriendsCache cache.cacheMode server : CacheRoutine Reply ω Unit) { cache, outside }
      (cache.elim (.ok ()) fun store => (withStore (Mania.refreshFriendsCache server) store).1)
      { cache := CacheCall.refreshFriendsCache.exec server cache, outside } := by
  cases cache with
  | none => exact .pure
  | some store => exact linked_ends (refreshFriendsCache_linked server) rfl

theorem refreshGroupMembersCache_ends (server : Server) (groupUin : UInt32) (cache : Cache) (outside : σ) :
    Ends reply (Routine.refreshGroupMembersCache cache.cacheMode server groupUin : CacheRoutine Reply ω Unit)
      { cache, outside }
      (cache.elim (.ok ()) fun store => (withStore (Mania.refreshGroupMembersCache server groupUin) store).1)
      { cache := (CacheCall.refreshGroupMembersCache groupUin).exec server cache, outside } := by
  cases cache with
  | none => exact .pure
  | some store => exact linked_ends (refreshGroupMembersCache_linked server groupUin) rfl

/-- What `process_fn` makes of a map. -/
theorem process_linked {t : CacheRoutine Reply ω (Option β)} {look : Store → β} (processFn : β → α)
    (hlook : ∀ store, Ends reply t { cache := some store, outside } (.ok (some (look store)))
      { cache := some store, outside }) :
    (linked reply (Stores mode outside)).rel (do
      let found ← Routine.unwrap (← t)
      pure (processFn found) : CacheRoutine Reply ω α) (do
      let store ← get
      pure (processFn (look store))) := by
  rintro store w ⟨rfl, hmode⟩
  exact ⟨_, (hlook store).bind_ok .pure, rfl, hmode⟩

/-- A refresh that is asked for, or not. -/
theorem refresh_linked {t : CacheRoutine Reply ω Unit} {x : Closure Store Unit}
    (h : (linked reply (Stores mode outside)).rel t x) (refreshCache : Bool) :
    (linked reply (Stores mode outside)).rel (if refreshCache then t else pure ())
      (if refreshCache then x else pure ()) := by
  cases refreshCache with
  | true => exact h
  | false => exact (linked reply (Stores mode outside)).pure ()

/-- In mode None the pages are taken in by the call alone. -/
theorem takePages_ends {π τ : Type} {w : CacheWorld σ} {process : π → StateT V (CacheRoutine Reply ω) (Option Unit)}
    {take : π → Closure V (Option Unit)}
    (h : ∀ page, (linkedVars reply id fun _ w' => w' = w).rel (process page) (take page))
    (answers : Answers ManiaError π τ) (v : V) (processFn : V → α) :
    Ends reply (do
      let (_, v) ← (iterFetch process answers).run v
      pure (processFn v) : CacheRoutine Reply ω α) w
      (((iterFetch take answers).run.run v).1.map fun _ => processFn ((iterFetch take answers).run.run v).2) w := by
  obtain ⟨_, hpages, rfl⟩ := (linkedVars reply id fun _ w' => w' = w).iterFetch h answers v w rfl
  rcases hfetch : (iterFetch take answers).run.run v with ⟨result, v'⟩
  rw [hfetch] at hpages
  cases result with
  | error e => exact hpages.bind_error
  | ok r => exact hpages.bind_ok .pure

theorem fetchMaybeCachedFriends_ends (server : Server) (maybeFriendUin : Option UInt32)
    (processFn : DashMap UInt32 BotFriend → List BotFriend) (refreshCache : Bool) (cache : Cache) (outside : σ) :
    Ends reply (Routine.fetchMaybeCachedFriends cache.cacheMode server maybeFriendUin processFn refreshCache :
        CacheRoutine Reply ω (List BotFriend)) { cache, outside }
      (Mania.fetchMaybeCachedFriends server maybeFriendUin processFn refreshCache cache).1
      { cache := (Mania.fetchMaybeCachedFriends server maybeFriendUin processFn refreshCache cache).2, outside } := by
  cases cache with
  | none => exact takePages_ends (fun page => takePage_linked _ _) server.friends ∅ processFn
  | some store =>
    rw [Routine.fetchMaybeCachedFriends, if_neg (cacheMode_ne_none store)]
    refine linked_ends ((linked reply _).bind
      (refresh_linked (refreshFriendsCache_linked server) refreshCache) fun _ =>
      (linked reply _).bind (refreshMissingFriend_linked server maybeFriendUin) fun _ => ?_) rfl
    exact process_linked processFn fun store => .access .friends

theorem fetchMaybeCachedGroupMembers_ends (server : Server) (groupUin : UInt32)
    (processFn : DashMap UInt32 (List BotGroupMember) → List BotGroupMember) (refreshCache : Bool) (cache : Cache)
    (outside : σ) :
    Ends reply (Routine.fetchMaybeCachedGroupMembers cache.cacheMode server groupUin processFn refreshCache :
        CacheRoutine Reply ω (List BotGroupMember)) { cache, outside }
      (Mania.fetchMaybeCachedGroupMembers server groupUin processFn refreshCache cache).1
      { cache := (Mania.fetchMaybeCachedGroupMembers server groupUin processFn refreshCache cache).2, outside } := by
  cases cache with
  | none => exact takePages_ends (fun page => takePage_linked _ _) (server.members groupUin) ∅ processFn
  | some store =>
    rw [Routine.fetchMaybeCachedGroupMembers, if_neg (cacheMode_ne_none store)]
    refine linked_ends ((linked reply _).bind
      (refresh_linked (refreshGroupMembersCache_linked server groupUin) refreshCache) fun _ =>
      (linked reply _).bind (refreshMissingGroup_linked server groupUin) fun _ => ?_) rfl
    exact process_linked processFn fun store => .access .groupMembers

theorem Ends.map {t : CacheRoutine Reply ω α} {w w' : CacheWorld σ} {r : Except ManiaError α} (h : Ends reply t w r w')
    (f : Except ManiaError α → β) : (f <$> t.run).alone (Access.exec reply) w = (some (f r), [], w') := by
  rw [map_eq_pure_bind, Coroutine.alone_bind_nil h]
  rfl

theorem CacheCall.routine_alone (call : CacheCall) (server : Server) (cache : Cache) (outside : σ) :
    (call.routine cache.cacheMode server : Routine Reply ω CacheAnswer).alone (Access.exec reply) { cache, outside } =
      (some (call.answer server cache), [], { cache := call.exec server cache, outside }) := by
  cases call with
  | uin2uid uin groupUin => exact (uin2uid_ends server uin groupUin cache outside).map CacheAnswer.uid
  | uid2uin uid groupUin => exact (uid2uin_ends server uid groupUin cache outside).map CacheAnswer.uin
  | refreshFriendsCache => exact (refreshFriendsCache_ends server cache outside).map CacheAnswer.refreshed
  | refreshGroupMembersCache groupUin =>
    exact (refreshGroupMembersCache_ends server groupUin cache outside).map CacheAnswer.refreshed
  | fetchMaybeCachedFriends maybeFriendUin processFn refreshCache =>
    exact Ends.map (fetchMaybeCachedFriends_ends server maybeFriendUin processFn refreshCache cache outside)
      CacheAnswer.friends
  | fetchMaybeCachedGroupMembers groupUin processFn refreshCache =>
    exact Ends.map (fetchMaybeCachedGroupMembers_ends server groupUin processFn refreshCache cache outside)
      CacheAnswer.members

/-- Main result. **An operation that nobody interrupts** is the operation run
in one go: whatever the other tasks have come to, it answers the same and
leaves the same cache. -/
theorem operation_alone (server : Server) (call : CacheCall)
    (p : Pool (Access.Answer Reply) ω CacheAnswer (CacheWorld σ)) :
    ∃ n, run (Pool.step (Access.exec reply) (CacheCall.routine p.shared.cache.cacheMode server)) p
        (.spawn call :: List.replicate n (.turn p.routines.length)) =
      some { p with
        shared.cache := call.exec server p.shared.cache
        routines := p.routines ++ [.done (call.answer server p.shared.cache)] } := by
  have halone : (call.routine p.shared.cache.cacheMode server : Routine Reply ω CacheAnswer).alone (Access.exec reply)
      p.shared = _ := call.routine_alone server p.shared.cache p.shared.outside
  obtain ⟨n, hn⟩ := Pool.run_alone halone
  refine ⟨n, hn.trans ?_⟩
  rw [List.map_nil, List.append_nil]

end

end Mania
