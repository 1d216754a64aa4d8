/-
What the operations on the cache come to when tasks run them side by side.

The server answers from a directory. Every access that an operation makes
keeps the cache within the directory and keeps a group that is cached
(`rely`), so a lookup never answers anybody else's uin or uid, and finds a
member of the group it is for, whatever the other tasks do in between
(`operations_run`).
-/
import Mania.CacheOpFacts
import Mania.CacheRoutines

namespace Mania

open Paged Runs
open Coroutine (Rely Pool)

variable {ρ : Type} {Reply : ρ → Type} {ω σ α β V : Type}

/-! ## What every access keeps -/

/-- A friend of the directory, whose group has got a name. -/
def BotFriend.ListedIn (d : Directory) (friend : BotFriend) : Prop :=
  ∃ listed ∈ d.friendList, friend = { listed with group := friend.group }

theorem BotFriend.ListedIn.ids_mem {d : Directory} {friend : BotFriend} (h : friend.ListedIn d) :
    (friend.uin, friend.uid) ∈ d.people := by
  obtain ⟨listed, hlisted, heq⟩ := h
  have hmem : listed.ids ∈ d.people := d.friend_mem_people hlisted
  rw [heq]
  exact hmem

/-- The cache has nobody but who the directory lists. -/
structure Store.Within (d : Directory) (store : Store) : Prop where
  index_within : ∀ index ∈ store.index, index.Within d.people
  friend_listed : ∀ uin friend, store.cachedFriends.lookup uin = some friend → uin = friend.uin ∧ friend.ListedIn d
  members_eq : ∀ groupUin members, store.cachedGroupMembers.lookup groupUin = some members →
    members = d.memberList groupUin

/-- The accesses that put in only what the directory lists. -/
def Access.Allowed (d : Directory) : Access ρ → Prop
  | insertUin2uid uin uid | insertUid2uin uid uin => (uin, uid) ∈ d.people
  | insertFriend uin friend => uin = friend.uin ∧ friend.ListedIn d
  | insertGroup groupUin members => members = d.memberList groupUin
  | _ => True

namespace Access

variable {d : Directory} {store : Store} {c : Access ρ} {cache : Cache}

theorem write_within (h : store.Within d) (hc : c.Allowed d) : (c.write store).Within d := by
  cases c with
  | insertUin2uid uin uid =>
    refine { h with index_within := fun index hindex => ?_ }
    obtain ⟨old, hold, rfl⟩ := Option.mem_map.mp hindex
    have hwithin := h.index_within old hold
    refine { hwithin with uin2uid := fun uin' uid' hlookup => ?_ }
    rw [DashMap.lookup_insert_eq] at hlookup
    split at hlookup
    · next heq =>
      cases hlookup
      exact heq ▸ hc
    · exact hwithin.uin2uid uin' uid' hlookup
  | insertUid2uin uid uin =>
    refine { h with index_within := fun index hindex => ?_ }
    obtain ⟨old, hold, rfl⟩ := Option.mem_map.mp hindex
    have hwithin := h.index_within old hold
    refine { hwithin with uid2uin := fun uid' uin' hlookup => ?_ }
    rw [DashMap.lookup_insert_eq] at hlookup
    split at hlookup
    · next heq =>
      cases hlookup
      exact heq ▸ hc
    · exact hwithin.uid2uin uid' uin' hlookup
  | clearFriends => exact { h with friend_listed := fun uin friend hlookup => by cases hlookup }
  | insertFriend uin friend =>
    refine { h with friend_listed := fun uin' friend' hlookup => ?_ }
    simp only [write] at hlookup
    rw [DashMap.lookup_insert_eq] at hlookup
    split at hlookup
    · next heq =>
      cases hlookup
      exact heq ▸ hc
    · exact h.friend_listed uin' friend' hlookup
  | insertGroup groupUin members =>
    refine { h with members_eq := fun groupUin' members' hlookup => ?_ }
    simp only [write] at hlookup
    rw [DashMap.lookup_insert_eq] at hlookup
    split at hlookup
    · next heq =>
      cases hlookup
      exact heq ▸ hc
    · exact h.members_eq groupUin' members' hlookup
  | _ => exact h

theorem cacheMode_write : Cache.cacheMode (cache.map c.write) = cache.cacheMode := by
  cases cache with
  | none => rfl
  | some store =>
    obtain ⟨index, friends, groups⟩ := store
    cases index <;> cases c <;> rfl

/-- A group that is cached stays. -/
theorem containsGroup_write {groupUin : UInt32} (h : store.cachedGroupMembers.containsKey groupUin = true) :
    (c.write store).cachedGroupMembers.containsKey groupUin = true := by
  cases c with
  | insertGroup groupUin' members =>
    simp only [write]
    rw [DashMap.containsKey, DashMap.lookup_insert_eq]
    split
    · rfl
    · exact h
  | _ => exact h

end Access

namespace CacheWorld

/-- The cache has its mode and is within the directory. -/
structure Good (mode : CacheMode) (d : Directory) (w : CacheWorld σ) : Prop where
  mode : w.cache.cacheMode = mode
  within : ∀ store ∈ w.cache, store.Within d

def HasGroup (groupUin : UInt32) (w : CacheWorld σ) : Prop :=
  w.cache.any (·.cachedGroupMembers.containsKey groupUin) = true

/-- What is relied on: the cache stays good, and groups stay in it. -/
def Grows (mode : CacheMode) (d : Directory) (w w' : CacheWorld σ) : Prop :=
  w.Good mode d → w'.Good mode d ∧ ∀ groupUin, w.HasGroup groupUin → w'.HasGroup groupUin

theorem good_new (mode : CacheMode) (d : Directory) (outside : σ) :
    (CacheWorld.mk (Cache.new mode) outside).Good mode d := by
  refine ⟨by cases mode <;> rfl, fun store hstore => ?_⟩
  have hfilled := filled_new d mode store hstore
  refine ⟨hfilled.index_within, fun uin friend hlookup => ?_, hfilled.members_eq⟩
  cases mode <;> cases hstore <;> cases hlookup

end CacheWorld

/-- Every allowed access keeps the cache good. -/
def rely (mode : CacheMode) (d : Directory) (reply : (r : ρ) → σ → Reply r × σ) : Rely (Access.exec reply) where
  rel := CacheWorld.Grows mode d
  allowed := Access.Allowed d
  refl w hw := ⟨hw, fun _ h => h⟩
  trans h h' hw :=
    have ⟨hgood, hgroups⟩ := h hw
    have ⟨hgood', hgroups'⟩ := h' hgood
    ⟨hgood', fun groupUin hgroup => hgroups' groupUin (hgroups groupUin hgroup)⟩
  exec_rel {c} w hc hw := by
    refine ⟨⟨Access.cacheMode_write.trans hw.mode, fun store hstore => ?_⟩, fun groupUin hgroup => ?_⟩
    · obtain ⟨old, hold, rfl⟩ := Option.mem_map.mp hstore
      exact Access.write_within (hw.within old hold) hc
    · simp only [CacheWorld.HasGroup, Access.exec] at hgroup ⊢
      cases hcache : w.cache with
      | none => simp [hcache] at hgroup
      | some store =>
        rw [hcache] at hgroup
        exact Access.containsGroup_write hgroup

/-! ## Rules for operations that do not fail -/

section
variable {reply : (r : ρ) → σ → Reply r × σ} {R : Rely (Access.exec reply)} {w : CacheWorld σ}

/-- The operation succeeds, tells nothing, and ends in `after`. -/
def Gives (R : Rely (Access.exec reply)) (after : α → CacheWorld σ → Prop) (t : CacheRoutine Reply ω α)
    (w : CacheWorld σ) : Prop :=
  R.Finds False (fun r w => ∃ a, r = .ok a ∧ after a w) t.run w

namespace Gives

variable {after : α → CacheWorld σ → Prop} {t : CacheRoutine Reply ω α}

theorem finds_bind {f : α → CacheRoutine Reply ω β} {after' : Except ManiaError β → CacheWorld σ → Prop}
    (h : Gives R after t w) (hf : ∀ a w, after a w → R.Finds False after' (f a).run w) :
    R.Finds False after' (t >>= f).run w := by
  rw [ExceptT.run_bind]
  refine Rely.Finds.bind h fun r w hr => ?_
  obtain ⟨a, rfl, ha⟩ := hr
  exact hf a w ha

theorem bind {f : α → CacheRoutine Reply ω β} {after' : β → CacheWorld σ → Prop} (h : Gives R after t w)
    (hf : ∀ a w, after a w → Gives R after' (f a) w) : Gives R after' (t >>= f) w := h.finds_bind hf

theorem pure {a : α} (h : ∀ w', R.rel w w' → after a w') :
    Gives R after (pure a : CacheRoutine Reply ω α) w :=
  .done fun w' hw' => ⟨a, rfl, h w' hw'⟩

theorem access {c : Access ρ} {after : c.Answer Reply → CacheWorld σ → Prop} (hc : R.allowed c)
    (h : ∀ w', R.rel w w' → ∀ w'', R.rel (c.exec reply w').2 w'' → after (c.exec reply w').1 w'') :
    Gives R after (Routine.access c : CacheRoutine Reply ω _) w :=
  .call hc fun w' hw' => .done fun w'' hw'' => ⟨_, rfl, h w' hw' w'' hw''⟩

/-- For an access whose answer is not looked at. -/
theorem allowed {c : Access ρ} (hc : R.allowed c) :
    Gives R (fun _ _ => True) (Routine.access c : CacheRoutine Reply ω _) w :=
  access hc fun _ _ _ _ => trivial

theorem mono {after' : α → CacheWorld σ → Prop} (h : Gives R after t w) (hafter : ∀ a w, after a w → after' a w) :
    Gives R after' t w :=
  Rely.Finds.mono h fun _ w hr =>
    have ⟨a, heq, ha⟩ := hr
    ⟨a, heq, hafter a w ha⟩

theorem carry {P : CacheWorld σ → Prop} (h : Gives R after t w) (hP : ∀ w w', R.rel w w' → P w → P w') (hw : P w) :
    Gives R (fun a w => after a w ∧ P w) t w :=
  Rely.Finds.mono (Rely.Finds.carry h hP hw) fun _ _ hr =>
    have ⟨⟨a, heq, ha⟩, hw⟩ := hr
    ⟨a, heq, ha, hw⟩

/-- With a condition that no access changes. -/
theorem const {P : α → Prop} {a : α} (h : P a) : Gives R (fun a _ => P a) (Pure.pure a : CacheRoutine Reply ω α) w :=
  .pure fun _ _ => h

theorem forM {as : List α} {f : α → CacheRoutine Reply ω Unit}
    (h : ∀ a ∈ as, ∀ w, Gives R (fun _ _ => True) (f a) w) : Gives R (fun _ _ => True) (as.forM f) w := by
  induction as generalizing w with
  | nil => exact .const trivial
  | cons a as ih =>
    exact (h a List.mem_cons_self w).bind fun _ _ _ => ih fun b hb => h b (List.mem_cons_of_mem a hb)

end Gives

/-- The same with variables of the operation, that satisfy `I`. -/
abbrev GivesVars (R : Rely (Access.exec reply)) (I : α → V → Prop) (t : StateT V (CacheRoutine Reply ω) α) (v : V)
    (w : CacheWorld σ) : Prop :=
  Gives R (fun r _ => I r.1 r.2) (t.run v) w

namespace GivesVars

variable {I : α → V → Prop} {I' : β → V → Prop} {t : StateT V (CacheRoutine Reply ω) α} {v : V}

theorem bind {f : α → StateT V (CacheRoutine Reply ω) β} (h : GivesVars R I t v w)
    (hf : ∀ a v w, I a v → GivesVars R I' (f a) v w) : GivesVars R I' (t >>= f) v w := by
  rw [GivesVars, StateT.run_bind]
  exact Gives.bind h fun r w hr => hf r.1 r.2 w hr

theorem pure {a : α} (h : I a v) : GivesVars R I (Pure.pure a : StateT V (CacheRoutine Reply ω) α) v w := .const h

theorem get_bind {f : V → StateT V (CacheRoutine Reply ω) β} (h : GivesVars R I' (f v) v w) :
    GivesVars R I' (get >>= f) v w := h

theorem set_bind {v' : V} {f : PUnit → StateT V (CacheRoutine Reply ω) β} (h : GivesVars R I' (f ⟨⟩) v' w) :
    GivesVars R I' (set v' >>= f) v w := h

theorem modify_bind {g : V → V} {f : PUnit → StateT V (CacheRoutine Reply ω) β} (h : GivesVars R I' (f ⟨⟩) (g v) w) :
    GivesVars R I' (modify g >>= f) v w := h

theorem lift {t : CacheRoutine Reply ω α} (h : Gives R (fun a _ => I a v) t w) :
    GivesVars R I (liftM t : StateT V (CacheRoutine Reply ω) α) v w :=
  Gives.bind h fun _ _ ha => .const ha

theorem forM {J : V → Prop} {as : List α} {f : α → StateT V (CacheRoutine Reply ω) Unit}
    (h : ∀ a ∈ as, ∀ v w, J v → GivesVars R (fun _ v => J v) (f a) v w) (hv : J v) :
    GivesVars R (fun _ v => J v) (as.forM f) v w := by
  induction as generalizing v w with
  | nil => exact .pure hv
  | cons a as ih =>
    exact (h a List.mem_cons_self v w hv).bind fun _ v w hv => ih (fun b hb => h b (List.mem_cons_of_mem a hb)) hv

/-- A process that never gives a value takes in every page. -/
theorem iterFetch {π τ : Type} {J : List π → V → Prop} {answers : Answers ManiaError π τ}
    {process : π → StateT V (CacheRoutine Reply ω) (Option β)} (hsucceeds : answers.Succeeds) (seen : List π)
    (h : ∀ seen, ∀ page ∈ answers.pages, ∀ v w, J seen v →
      GivesVars R (fun r v => r = none ∧ J (seen ++ [page]) v) (process page) v w) (hv : J seen v) :
    GivesVars R (fun _ v => J (seen ++ answers.pages) v) (Paged.iterFetch process answers) v w := by
  induction answers generalizing seen v w with
  | last page => exact Gives.mono (h seen page (by simp [Answers.pages]) v w hv) fun _ _ hr => hr.2
  | more page next rest ih =>
    rw [Paged.iterFetch]
    refine (h seen page (by simp [Answers.pages]) v w hv).bind fun r v w hr => ?_
    obtain ⟨rfl, hv⟩ := hr
    have hrest := ih (w := w) hsucceeds (seen ++ [page]) (fun seen p hp => h seen p (by simp [Answers.pages, hp])) hv
    simpa [Answers.pages] using hrest
  | fail e => exact hsucceeds.elim

end GivesVars

end

/-! ## Filling the cache -/

section
variable {mode : CacheMode} {d : Directory} {reply : (r : ρ) → σ → Reply r × σ} {w w' : CacheWorld σ}

theorem CacheWorld.Good.stable (h : (rely mode d reply).rel w w') (hw : w.Good mode d) : w'.Good mode d := (h hw).1

/-- With a cache there are the maps. -/
theorem CacheWorld.Good.exists_store (hw : w.Good mode d) (hmode : mode ≠ .none) : ∃ store, w.cache = some store := by
  have hcache := hw.mode
  cases h : w.cache with
  | none =>
    rw [h] at hcache
    exact absurd hcache.symm hmode
  | some store => exact ⟨store, rfl⟩

/-- And with a full one the index. -/
theorem CacheWorld.Good.exists_index (hw : w.Good .full d) :
    ∃ store index, w.cache = some store ∧ store.index = some index := by
  have hcache := hw.mode
  obtain ⟨store, hstore⟩ := hw.exists_store (by simp)
  rw [hstore] at hcache
  obtain ⟨index, friends, groups⟩ := store
  cases index with
  | none => cases hcache
  | some index => exact ⟨_, index, hstore, rfl⟩

theorem CacheWorld.Good.hasGroup_insert (hw : w.Good mode d) (hmode : mode ≠ .none) {groupUin : UInt32}
    {members : List BotGroupMember} : ((Access.insertGroup groupUin members).exec reply w).2.HasGroup groupUin := by
  obtain ⟨store, hstore⟩ := hw.exists_store hmode
  rw [HasGroup, Access.exec, hstore]
  simp [Access.write, DashMap.containsKey]

/-- A good cache is good at the end. -/
theorem Gives.good {after : α → CacheWorld σ → Prop} {t : CacheRoutine Reply ω α}
    (h : Gives (rely mode d reply) after t w) (hw : w.Good mode d) :
    Gives (rely mode d reply) (fun a w => after a w ∧ w.Good mode d) t w :=
  h.carry (fun _ _ => CacheWorld.Good.stable) hw

/-- What the maps of a cache answer. -/
theorem Gives.stored {c : Access ρ} {P : c.Answer Reply → Prop} (hw : w.Good mode d) (hmode : mode ≠ .none)
    (hc : c.Allowed d) (h : ∀ w store, w.Good mode d → w.cache = some store → P (c.exec reply w).1) :
    Gives (rely mode d reply) (fun r _ => P r) (Routine.access c : CacheRoutine Reply ω _) w :=
  .access hc fun w' hw' _ _ =>
    have hgood := CacheWorld.Good.stable hw' hw
    have ⟨store, hstore⟩ := hgood.exists_store hmode
    h w' store hgood hstore

namespace Routine

theorem awaitPage_gives : Gives (rely mode d reply) (fun _ _ => True) (awaitPage : CacheRoutine Reply ω Unit) w :=
  .allowed (c := .page) trivial

theorem insertUinUid_gives {uin : UInt32} {uid : String} (h : (uin, uid) ∈ d.people) :
    Gives (rely mode d reply) (fun _ _ => True) (insertUinUid uin uid : CacheRoutine Reply ω Unit) w :=
  (Gives.allowed (c := .insertUin2uid uin uid) h).bind fun _ _ _ => .allowed (c := .insertUid2uin uid uin) h

/-- The friends taken so far are listed. -/
def FriendsVars.Within (d : Directory) (v : FriendsVars) : Prop :=
  ∀ uin friend, v.friends.lookup uin = some friend → uin = friend.uin ∧ friend.ListedIn d

theorem withGroupName_listedIn {friend : BotFriend} (h : friend ∈ d.friendList) (v : FriendsVars)
    (group : BotFriendGroup) : (v.withGroupName friend group).ListedIn d := by
  unfold FriendsVars.withGroupName
  split
  · exact ⟨friend, h, rfl⟩
  · exact ⟨friend, h, rfl⟩

theorem refreshFriend_holds {friend : BotFriend} (h : friend ∈ d.friendList) (v : FriendsVars) (hv : v.Within d) :
    GivesVars (rely mode d reply) (fun _ v => v.Within d)
      (refreshFriend mode friend : StateT FriendsVars (CacheRoutine Reply ω) Unit) v w := by
  unfold refreshFriend
  cases hgroup : friend.group with
  | none => exact absurd hgroup (d.grouped friend h)
  | some group =>
    have hlisted := withGroupName_listedIn h v group
    have hinserted : FriendsVars.Within d { v with
        friends := v.friends.insert (v.withGroupName friend group).uin (v.withGroupName friend group) } := by
      intro uin entry hlookup
      rw [DashMap.lookup_insert_eq] at hlookup
      split at hlookup
      · next heq =>
        cases hlookup
        exact ⟨heq, hlisted⟩
      · exact hv uin entry hlookup
    refine GivesVars.get_bind (GivesVars.set_bind ?_)
    by_cases hmode : mode = .full
    · rw [if_pos hmode]
      exact .lift ((insertUinUid_gives hlisted.ids_mem).mono fun _ _ _ => hinserted)
    · rw [if_neg hmode]
      exact .pure hinserted

theorem refreshFriendsPage_holds {event : FetchFriendsEvent} (h : event ∈ d.friends.pages) (v : FriendsVars)
    (hv : v.Within d) : GivesVars (rely mode d reply) (fun r v => r = none ∧ v.Within d)
      (refreshFriendsPage mode event : StateT FriendsVars (CacheRoutine Reply ω) (Option Unit)) v w := by
  have hfriends : ∀ friend ∈ event.friends, friend ∈ d.friendList := fun friend hfriend =>
    List.mem_flatMap.mpr ⟨event, h, hfriend⟩
  have hpage : GivesVars (rely mode d reply) (fun _ v => v.Within d)
    (liftM (awaitPage : CacheRoutine Reply ω Unit) : StateT FriendsVars (CacheRoutine Reply ω) Unit) v w :=
    .lift (awaitPage_gives.mono fun _ _ _ => hv)
  refine hpage.bind fun _ v w hv => GivesVars.modify_bind ?_
  have hloop : GivesVars (rely mode d reply) (fun _ v => v.Within d)
      (event.friends.forM (refreshFriend mode) : StateT FriendsVars (CacheRoutine Reply ω) Unit)
      { v with friendGroups := v.friendGroups.extend event.friendGroups.toList } w :=
    .forM (fun friend hfriend v w hv => refreshFriend_holds (hfriends friend hfriend) v hv) hv
  exact hloop.bind fun _ v w hv => .pure ⟨rfl, hv⟩

theorem clearFriends_gives (hw : w.Good mode d) (hmode : mode ≠ .none) :
    Gives (rely mode d reply) (fun r _ => r = some ()) (access .clearFriends : CacheRoutine Reply ω (Option Unit)) w := by
  refine Gives.stored (c := .clearFriends) hw hmode trivial fun w store _ hstore => ?_
  rw [Access.exec, hstore]
  rfl

theorem refreshFriendsCache_gives (hw : w.Good mode d) :
    Gives (rely mode d reply) (fun _ _ => True) (refreshFriendsCache mode d.toServer : CacheRoutine Reply ω Unit) w := by
  unfold refreshFriendsCache
  split
  · exact .const trivial
  · next hmode =>
    have hnew : FriendsVars.Within d { friends := ∅, friendGroups := ∅ } := fun uin friend hlookup => by cases hlookup
    have hpages : GivesVars (rely mode d reply) (fun _ v => v.Within d)
        (iterFetch (refreshFriendsPage mode) d.friends : StateT FriendsVars (CacheRoutine Reply ω) (Option Unit))
        { friends := ∅, friendGroups := ∅ } w :=
      GivesVars.iterFetch (J := fun _ v => v.Within d) d.friends_succeed []
        (fun _ event hevent v w hv => refreshFriendsPage_holds hevent v hv) hnew
    refine (Gives.good hpages hw).bind fun r w hr => ?_
    refine (clearFriends_gives hr.2 hmode).bind fun _ w hcleared => ?_
    subst hcleared
    exact Gives.forM fun e he w => .allowed (c := .insertFriend e.1 e.2) (hr.1 e.1 e.2 (DashMap.mem_toList.mp he))

theorem refreshGroupMembersPage_holds (seen : List FetchMembersEvent) (event : FetchMembersEvent)
    (v : List BotGroupMember) (hv : v = seen.flatMap (·.groupMembers)) :
    GivesVars (rely mode d reply) (fun r v => r = none ∧ v = (seen ++ [event]).flatMap (·.groupMembers))
      (refreshGroupMembersPage event : StateT (List BotGroupMember) (CacheRoutine Reply ω) (Option Unit)) v w := by
  have hpage : GivesVars (rely mode d reply) (fun _ v => v = seen.flatMap (·.groupMembers))
    (liftM (awaitPage : CacheRoutine Reply ω Unit) : StateT (List BotGroupMember) (CacheRoutine Reply ω) Unit) v w :=
    .lift (awaitPage_gives.mono fun _ _ _ => hv)
  refine hpage.bind fun _ v w hv => GivesVars.modify_bind ?_
  exact .pure ⟨rfl, by simp [hv]⟩

theorem insertGroup_gives (hw : w.Good mode d) (hmode : mode ≠ .none) {groupUin : UInt32}
    {members : List BotGroupMember} (hmembers : members = d.memberList groupUin) :
    Gives (rely mode d reply) (fun r w => r = some () ∧ w.HasGroup groupUin)
      (access (.insertGroup groupUin members) : CacheRoutine Reply ω (Option Unit)) w := by
  refine .access (c := .insertGroup groupUin members) hmembers fun w' hw' w'' hw'' => ?_
  have hgood := CacheWorld.Good.stable hw' hw
  obtain ⟨store, hstore⟩ := hgood.exists_store hmode
  refine ⟨by rw [Access.exec, hstore]; rfl, ?_⟩
  exact (hw'' (CacheWorld.Good.stable ((rely mode d reply).exec_rel w' hmembers) hgood)).2 groupUin
    (hgood.hasGroup_insert hmode)

/-- After it the group is cached. -/
theorem refreshGroupMembersCache_gives (hw : w.Good mode d) (groupUin : UInt32) :
    Gives (rely mode d reply) (fun _ w => mode ≠ .none → w.HasGroup groupUin)
      (refreshGroupMembersCache mode d.toServer groupUin : CacheRoutine Reply ω Unit) w := by
  unfold refreshGroupMembersCache
  split
  · next hnone => exact .pure fun _ _ h => absurd hnone h
  · next hmode =>
    have hpages : GivesVars (rely mode d reply) (fun _ v => v = d.memberList groupUin)
        (iterFetch refreshGroupMembersPage (d.members groupUin) :
          StateT (List BotGroupMember) (CacheRoutine Reply ω) (Option Unit)) [] w :=
      GivesVars.iterFetch (J := fun seen v => v = seen.flatMap FetchMembersEvent.groupMembers)
        (d.members_succeed groupUin) [] (fun seen event _ v w hv => refreshGroupMembersPage_holds seen event v hv) rfl
    refine (Gives.good hpages hw).bind fun r w hr => ?_
    obtain ⟨hlist, hw⟩ := hr
    have hindex : Gives (rely mode d reply) (fun _ _ => True)
        (if mode = .full then r.2.forM fun bgm => insertUinUid bgm.uin bgm.uid else pure () :
          CacheRoutine Reply ω Unit) w := by
      split
      · exact .forM fun bgm hbgm w => insertUinUid_gives (d.member_mem_people (hlist ▸ hbgm))
      · exact .const trivial
    refine (hindex.good hw).bind fun _ w hgood => ?_
    refine ((insertGroup_gives hgood.2 hmode hlist).good hgood.2).bind fun _ w hinserted => ?_
    obtain ⟨⟨rfl, hgroup⟩, hw⟩ := hinserted
    exact Gives.pure fun w' hw' _ => (hw' hw).2 groupUin hgroup

theorem containsGroup_gives (hw : w.Good mode d) (hmode : mode ≠ .none) (groupUin : UInt32) :
    Gives (rely mode d reply) (fun r w => ∃ contained, r = some contained ∧ (contained = true → w.HasGroup groupUin))
      (access (.containsGroup groupUin) : CacheRoutine Reply ω (Option Bool)) w := by
  refine .access (c := .containsGroup groupUin) trivial fun w' hw' w'' hw'' => ?_
  have hgood := CacheWorld.Good.stable hw' hw
  obtain ⟨store, hstore⟩ := hgood.exists_store hmode
  refine ⟨store.cachedGroupMembers.containsKey groupUin, by rw [Access.exec, hstore]; rfl, fun hcontained => ?_⟩
  have hread := (rely mode d reply).exec_rel (c := .containsGroup groupUin) w' trivial hgood
  refine (hw'' hread.1).2 groupUin (hread.2 groupUin ?_)
  rw [CacheWorld.HasGroup, hstore]
  exact hcontained

theorem refreshMissingGroup_gives (hw : w.Good mode d) (hmode : mode ≠ .none) (groupUin : UInt32) :
    Gives (rely mode d reply) (fun _ w => w.HasGroup groupUin)
      (refreshMissingGroup mode d.toServer groupUin : CacheRoutine Reply ω Unit) w := by
  unfold refreshMissingGroup
  refine ((containsGroup_gives hw hmode groupUin).good hw).bind fun r w h => ?_
  obtain ⟨⟨contained, rfl, hcontained⟩, hw⟩ := h
  cases contained with
  | false => exact (refreshGroupMembersCache_gives hw groupUin).mono fun _ _ h => h hmode
  | true => exact Gives.pure fun w' hw' => (hw' hw).2 groupUin (hcontained rfl)

theorem containsFriend_gives (hw : w.Good mode d) (hmode : mode ≠ .none) (uin : UInt32) :
    Gives (rely mode d reply) (fun r _ => ∃ contained, r = some contained)
      (access (.containsFriend uin) : CacheRoutine Reply ω (Option Bool)) w := by
  refine Gives.stored (c := .containsFriend uin) hw hmode trivial fun w store _ hstore => ?_
  exact ⟨store.cachedFriends.containsKey uin, by rw [Access.exec, hstore]; rfl⟩

theorem refreshMissingFriend_gives (hw : w.Good mode d) (hmode : mode ≠ .none) (maybeFriendUin : Option UInt32) :
    Gives (rely mode d reply) (fun _ _ => True)
      (refreshMissingFriend mode d.toServer maybeFriendUin : CacheRoutine Reply ω Unit) w := by
  cases maybeFriendUin with
  | none => exact .const trivial
  | some uin =>
    refine ((containsFriend_gives hw hmode uin).good hw).bind fun r w h => ?_
    obtain ⟨⟨contained, rfl⟩, hw⟩ := h
    cases contained with
    | false => exact refreshFriendsCache_gives hw
    | true => exact Gives.const trivial

/-- An index there is in a full cache. -/
def IndexThere (d : Directory) (reply : (r : ρ) → σ → Reply r × σ) (isEmpty : CacheRoutine Reply ω (Option Bool)) :
    Prop :=
  ∀ w : CacheWorld σ, w.Good .full d → Gives (rely .full d reply) (fun r _ => ∃ empty, r = some empty) isEmpty w

theorem uin2uidIsEmpty_there :
    IndexThere d reply (access .uin2uidIsEmpty : CacheRoutine Reply ω (Option Bool)) := fun w hw => by
  refine .access (c := .uin2uidIsEmpty) trivial fun w' hw' _ _ => ?_
  obtain ⟨store, index, hstore, hindex⟩ := (CacheWorld.Good.stable hw' hw).exists_index
  exact ⟨index.uin2uid.isEmpty, by simp [Access.exec, Access.read, hstore, hindex]⟩

theorem uid2uinIsEmpty_there :
    IndexThere d reply (access .uid2uinIsEmpty : CacheRoutine Reply ω (Option Bool)) := fun w hw => by
  refine .access (c := .uid2uinIsEmpty) trivial fun w' hw' _ _ => ?_
  obtain ⟨store, index, hstore, hindex⟩ := (CacheWorld.Good.stable hw' hw).exists_index
  exact ⟨index.uid2uin.isEmpty, by simp [Access.exec, Access.read, hstore, hindex]⟩

theorem refreshEmptyIndex_gives (hw : w.Good mode d) {isEmpty : CacheRoutine Reply ω (Option Bool)}
    (h : IndexThere d reply isEmpty) :
    Gives (rely mode d reply) (fun _ _ => True) (refreshEmptyIndex mode d.toServer isEmpty) w := by
  unfold refreshEmptyIndex
  split
  · next hfull =>
    subst hfull
    refine ((h w hw).good hw).bind fun r w hr => ?_
    obtain ⟨⟨empty, rfl⟩, hw⟩ := hr
    cases empty with
    | false => exact Gives.const trivial
    | true => exact refreshFriendsCache_gives hw
  · exact .const trivial

/-- After it the group of the lookup is cached. -/
theorem refreshMissing_gives (hw : w.Good mode d) (hmode : mode ≠ .none)
    {isEmpty : CacheRoutine Reply ω (Option Bool)} (h : IndexThere d reply isEmpty) (groupUin : Option UInt32) :
    Gives (rely mode d reply) (fun _ w => w.Good mode d ∧ ∀ g, groupUin = some g → w.HasGroup g)
      (refreshMissing mode d.toServer isEmpty groupUin) w := by
  refine ((refreshEmptyIndex_gives hw h).good hw).bind fun _ w hempty => ?_
  cases groupUin with
  | none => exact .pure fun w' hw' => ⟨CacheWorld.Good.stable hw' hempty.2, nofun⟩
  | some groupUin =>
    refine ((refreshMissingGroup_gives hempty.2 hmode groupUin).good hempty.2).mono fun _ w hgroup => ⟨hgroup.2, ?_⟩
    intro g hg
    cases hg
    exact hgroup.1

end Routine

/-! ## Lookups -/

/-- What a lookup of a uid may answer: a uin that the directory has for it,
and the uin of a member in the group it is for. -/
structure FindsUin (d : Directory) (uid : String) (groupUin : Option UInt32) (r : Except ManiaError UInt32) : Prop where
  sound : ∀ uin, r = .ok uin → (uin, uid) ∈ d.people
  complete : ∀ g, groupUin = some g → ∀ member ∈ d.memberList g, member.uid = uid → r = .ok member.uin

/-- The same of a uin. -/
structure FindsUid (d : Directory) (uin : UInt32) (groupUin : Option UInt32) (r : Except ManiaError String) : Prop where
  sound : ∀ uid, r = .ok uid → (uin, uid) ∈ d.people
  complete : ∀ g, groupUin = some g → ∀ member ∈ d.memberList g, member.uin = uin → r = .ok member.uid

/-- One in the directory is the one that is found. -/
theorem FindsUin.of_mem {uid : String} {groupUin : Option UInt32} {uin : UInt32} (h : (uin, uid) ∈ d.people) :
    FindsUin d uid groupUin (.ok uin) where
  sound uin' heq := by
    cases heq
    exact h
  complete g _ member hmember huid := by
    have hmem : (member.uin, member.uid) ∈ d.people := d.member_mem_people hmember
    rw [d.uin_unique h (huid ▸ hmem)]

theorem FindsUid.of_mem {uin : UInt32} {groupUin : Option UInt32} {uid : String} (h : (uin, uid) ∈ d.people) :
    FindsUid d uin groupUin (.ok uid) where
  sound uid' heq := by
    cases heq
    exact h
  complete g _ member hmember huin := by
    have hmem : (member.uin, member.uid) ∈ d.people := d.member_mem_people hmember
    rw [d.uid_unique h (huin ▸ hmem)]

/-- Of a friend nothing more is promised. -/
theorem FindsUin.error {uid : String} {e : ManiaError} : FindsUin d uid none (.error e) := ⟨nofun, nofun⟩

theorem FindsUid.error {uin : UInt32} {e : ManiaError} : FindsUid d uin none (.error e) := ⟨nofun, nofun⟩

/-- A search among the members. -/
theorem findsUin_members {uid : String} {g : UInt32} :
    FindsUin d uid (some g) (notFound "Member not found" (((d.memberList g).find? (·.uid = uid)).map (·.uin))) := by
  cases h : (d.memberList g).find? (·.uid = uid) with
  | some member => exact .of_mem (find_uin_mem (congrArg (Option.map _) h))
  | none =>
    refine ⟨nofun, fun g' hg' member hmember huid => ?_⟩
    cases hg'
    exact absurd huid (by simpa using List.find?_eq_none.mp h member hmember)

theorem findsUid_members {uin g : UInt32} :
    FindsUid d uin (some g) (notFound "Member not found" (((d.memberList g).find? (·.uin = uin)).map (·.uid))) := by
  cases h : (d.memberList g).find? (·.uin = uin) with
  | some member => exact .of_mem (find_uid_mem (congrArg (Option.map _) h))
  | none =>
    refine ⟨nofun, fun g' hg' member hmember huin => ?_⟩
    cases hg'
    exact absurd huin (by simpa using List.find?_eq_none.mp h member hmember)

/-- The map has only friends of the directory. -/
def OnlyFriends (d : Directory) (friends : DashMap UInt32 BotFriend) : Prop :=
  ∀ uin friend, friends.lookup uin = some friend → uin = friend.uin ∧ friend.ListedIn d

/-- The cache is good and has the group. -/
def CacheWorld.Ready (mode : CacheMode) (d : Directory) (groupUin : Option UInt32) (w : CacheWorld σ) : Prop :=
  w.Good mode d ∧ ∀ g, groupUin = some g → w.HasGroup g

theorem CacheWorld.Ready.stable {groupUin : Option UInt32} (h : (rely mode d reply).rel w w')
    (hw : w.Ready mode d groupUin) : w'.Ready mode d groupUin :=
  ⟨(h hw.1).1, fun g hg => (h hw.1).2 g (hw.2 g hg)⟩

theorem CacheWorld.Ready.members {g : UInt32} (hw : w.Ready mode d (some g)) :
    ∃ store, w.cache = some store ∧ store.cachedGroupMembers.lookup g = some (d.memberList g) := by
  have hgroup := hw.2 g rfl
  unfold HasGroup at hgroup
  cases hcache : w.cache with
  | none =>
    rw [hcache] at hgroup
    cases hgroup
  | some store =>
    rw [hcache] at hgroup
    obtain ⟨members, hmembers⟩ := Option.isSome_iff_exists.mp hgroup
    refine ⟨store, rfl, ?_⟩
    rw [← hw.1.within store hcache |>.members_eq g members hmembers]
    exact hmembers

namespace Routine

theorem ofExcept_run (x : Except ManiaError α) :
    (MonadExcept.ofExcept x : CacheRoutine Reply ω α).run = .done x := by
  cases x <;> rfl

theorem getUid2uin_gives (hw : w.Good mode d) (uid : String) :
    Gives (rely mode d reply) (fun r _ => ∀ uin, r = some uin → (uin, uid) ∈ d.people)
      (access (.getUid2uin uid) : CacheRoutine Reply ω (Option UInt32)) w := by
  refine .access (c := .getUid2uin uid) trivial fun w' hw' _ _ uin huin => ?_
  have hgood := CacheWorld.Good.stable hw' hw
  obtain ⟨store, hstore, hlookup⟩ := Option.bind_eq_some_iff.mp huin
  obtain ⟨index, hindex, hlookup⟩ := Option.bind_eq_some_iff.mp hlookup
  exact ((hgood.within store hstore).index_within index hindex).uid2uin uid uin hlookup

theorem getUin2uid_gives (hw : w.Good mode d) (uin : UInt32) :
    Gives (rely mode d reply) (fun r _ => ∀ uid, r = some uid → (uin, uid) ∈ d.people)
      (access (.getUin2uid uin) : CacheRoutine Reply ω (Option String)) w := by
  refine .access (c := .getUin2uid uin) trivial fun w' hw' _ _ uid huid => ?_
  have hgood := CacheWorld.Good.stable hw' hw
  obtain ⟨store, hstore, hlookup⟩ := Option.bind_eq_some_iff.mp huid
  obtain ⟨index, hindex, hlookup⟩ := Option.bind_eq_some_iff.mp hlookup
  exact ((hgood.within store hstore).index_within index hindex).uin2uid uin uid hlookup

theorem groupMembers_gives {g : UInt32} (hw : w.Ready mode d (some g)) :
    Gives (rely mode d reply) (fun r _ => ∃ groups, r = some groups ∧ groups.lookup g = some (d.memberList g))
      (access .groupMembers : CacheRoutine Reply ω (Option (DashMap UInt32 (List BotGroupMember)))) w := by
  refine .access (c := .groupMembers) trivial fun w' hw' _ _ => ?_
  obtain ⟨store, hstore, hmembers⟩ := (CacheWorld.Ready.stable hw' hw).members
  exact ⟨store.cachedGroupMembers, by rw [Access.exec, hstore]; rfl, hmembers⟩

theorem friends_gives (hw : w.Good mode d) (hmode : mode ≠ .none) :
    Gives (rely mode d reply) (fun r _ => ∃ friends, r = some friends ∧ OnlyFriends d friends)
      (access .friends : CacheRoutine Reply ω (Option (DashMap UInt32 BotFriend))) w := by
  refine Gives.stored (c := .friends) hw hmode trivial fun w store hgood hstore => ?_
  exact ⟨store.cachedFriends, by rw [Access.exec, hstore]; rfl, (hgood.within store hstore).friend_listed⟩

theorem resolveUid2uinWithinCache_finds {groupUin : Option UInt32} (hw : w.Ready mode d groupUin)
    (hmode : mode ≠ .none) (uid : String) :
    (rely mode d reply).Finds False (fun r _ => FindsUin d uid groupUin r)
      (resolveUid2uinWithinCache uid groupUin : CacheRoutine Reply ω UInt32).run w := by
  unfold resolveUid2uinWithinCache
  refine ((getUid2uin_gives hw.1 uid).carry (fun _ _ => CacheWorld.Ready.stable) hw).finds_bind fun r w h => ?_
  obtain ⟨hindexed, hw⟩ := h
  cases r with
  | some uin => exact .done fun _ _ => .of_mem (hindexed uin rfl)
  | none =>
    cases groupUin with
    | some g =>
      refine (groupMembers_gives hw).finds_bind fun r w hr => ?_
      obtain ⟨groups, rfl, hgroups⟩ := hr
      show (rely mode d reply).Finds False _ (do
        let groupMembers ← MonadExcept.ofExcept (notFound "Group not found" (groups.lookup g))
        MonadExcept.ofExcept _ : CacheRoutine Reply ω _).run w
      rw [hgroups]
      show (rely mode d reply).Finds False _ (MonadExcept.ofExcept (notFound _ _) : CacheRoutine Reply ω UInt32).run w
      rw [ofExcept_run]
      exact .done fun _ _ => findsUin_members
    | none =>
      refine (friends_gives hw.1 hmode).finds_bind fun r w hr => ?_
      obtain ⟨friends, rfl, hfriends⟩ := hr
      show (rely mode d reply).Finds False _ (do
        let entry ← MonadExcept.ofExcept (notFound "Friend not found" (friends.toList.find? (·.2.uid = uid)))
        pure entry.1 : CacheRoutine Reply ω UInt32).run w
      cases hfind : friends.toList.find? (·.2.uid = uid) with
      | none => exact .done fun _ _ => .error
      | some entry =>
        obtain ⟨huin, hlisted⟩ := hfriends _ _ (DashMap.mem_toList.mp (List.mem_of_find?_eq_some hfind))
        have huid : entry.2.uid = uid := by simpa using List.find?_some hfind
        exact .done fun _ _ => .of_mem (huid ▸ huin ▸ hlisted.ids_mem)

theorem resolveUin2uidWithinCache_finds {groupUin : Option UInt32} (hw : w.Ready mode d groupUin)
    (hmode : mode ≠ .none) (uin : UInt32) :
    (rely mode d reply).Finds False (fun r _ => FindsUid d uin groupUin r)
      (resolveUin2uidWithinCache uin groupUin : CacheRoutine Reply ω String).run w := by
  unfold resolveUin2uidWithinCache
  refine ((getUin2uid_gives hw.1 uin).carry (fun _ _ => CacheWorld.Ready.stable) hw).finds_bind fun r w h => ?_
  obtain ⟨hindexed, hw⟩ := h
  cases r with
  | some uid => exact .done fun _ _ => .of_mem (hindexed uid rfl)
  | none =>
    cases groupUin with
    | some g =>
      refine (groupMembers_gives hw).finds_bind fun r w hr => ?_
      obtain ⟨groups, rfl, hgroups⟩ := hr
      show (rely mode d reply).Finds False _ (do
        let groupMembers ← MonadExcept.ofExcept (notFound "Group not found" (groups.lookup g))
        MonadExcept.ofExcept _ : CacheRoutine Reply ω _).run w
      rw [hgroups]
      show (rely mode d reply).Finds False _ (MonadExcept.ofExcept (notFound _ _) : CacheRoutine Reply ω String).run w
      rw [ofExcept_run]
      exact .done fun _ _ => findsUid_members
    | none =>
      refine (friends_gives hw.1 hmode).finds_bind fun r w hr => ?_
      obtain ⟨friends, rfl, hfriends⟩ := hr
      show (rely mode d reply).Finds False _ (do
        let friend ← MonadExcept.ofExcept (notFound "Friend not found" (friends.lookup uin))
        pure friend.uid : CacheRoutine Reply ω String).run w
      cases hfind : friends.lookup uin with
      | none => exact .done fun _ _ => .error
      | some friend =>
        obtain ⟨huin, hlisted⟩ := hfriends uin friend hfind
        exact .done fun _ _ => .of_mem (huin ▸ hlisted.ids_mem)

/-! ## Asking the server -/

/-- A search of the pages finds what a search of the list does. -/
theorem iterFetch_gives {π τ ι : Type} {answers : Answers ManiaError π τ} (h : answers.Succeeds) (items : π → List ι)
    (p : ι → Bool) (f : ι → α) :
    Gives (rely mode d reply) (fun r _ => r = ((answers.pages.flatMap items).find? p).map f)
      (iterFetch (fun event => do
        awaitPage
        pure (((items event).find? p).map f)) answers : CacheRoutine Reply ω (Option α)) w := by
  induction answers generalizing w with
  | last page =>
    refine Gives.bind awaitPage_gives fun _ w _ => .pure fun _ _ => ?_
    simp [Answers.pages]
  | more page next rest ih =>
    rw [iterFetch]
    have hpage : Gives (rely mode d reply) (fun r _ => r = ((items page).find? p).map f)
        (do
          awaitPage
          pure (((items page).find? p).map f) : CacheRoutine Reply ω (Option α)) w :=
      Gives.bind awaitPage_gives fun _ w _ => .const rfl
    refine hpage.bind fun r w hr => ?_
    rw [hr]
    cases hfind : (items page).find? p with
    | none =>
      refine (ih h).mono fun r w hr => ?_
      rw [hr, Answers.pages, List.flatMap_cons, List.find?_append, hfind]
      rfl
    | some i =>
      refine .pure fun _ _ => ?_
      rw [Answers.pages, List.flatMap_cons, List.find?_append, hfind]
      rfl
  | fail e => exact h.elim

theorem fastFetchGroupMembersUin_finds (uid : String) (g : UInt32) :
    (rely mode d reply).Finds False (fun r _ => FindsUin d uid (some g) r)
      (fastFetchGroupMembersUin d.toServer uid g : CacheRoutine Reply ω UInt32).run w :=
  (iterFetch_gives (d.members_succeed g) FetchMembersEvent.groupMembers _ _).finds_bind fun r w hr => by
    rw [ofExcept_run, hr]
    exact .done fun _ _ => findsUin_members

theorem fastFetchGroupMembersUid_finds (uin g : UInt32) :
    (rely mode d reply).Finds False (fun r _ => FindsUid d uin (some g) r)
      (fastFetchGroupMembersUid d.toServer uin g : CacheRoutine Reply ω String).run w :=
  (iterFetch_gives (d.members_succeed g) FetchMembersEvent.groupMembers _ _).finds_bind fun r w hr => by
    rw [ofExcept_run, hr]
    exact .done fun _ _ => findsUid_members

theorem fastFetchFriendsUin_finds (uid : String) :
    (rely mode d reply).Finds False (fun r _ => FindsUin d uid none r)
      (fastFetchFriendsUin d.toServer uid : CacheRoutine Reply ω UInt32).run w :=
  (iterFetch_gives d.friends_succeed FetchFriendsEvent.friends _ _).finds_bind fun r w hr => by
    rw [ofExcept_run, hr]
    refine .done fun _ _ => ⟨fun uin huin => ?_, nofun⟩
    exact Filled.friend_ids_mem (find_friend_uin_mem (notFound_ok.mp huin))

theorem fastFetchFriendsUid_finds (uin : UInt32) :
    (rely mode d reply).Finds False (fun r _ => FindsUid d uin none r)
      (fastFetchFriendsUid d.toServer uin : CacheRoutine Reply ω String).run w :=
  (iterFetch_gives d.friends_succeed FetchFriendsEvent.friends _ _).finds_bind fun r w hr => by
    rw [ofExcept_run, hr]
    refine .done fun _ _ => ⟨fun uid huid => ?_, nofun⟩
    exact Filled.friend_ids_mem (find_friend_uid_mem (notFound_ok.mp huid))

/-! ## The operations -/

theorem uid2uin_finds (hw : w.Good mode d) (uid : String) (groupUin : Option UInt32) :
    (rely mode d reply).Finds False (fun r _ => FindsUin d uid groupUin r)
      (uid2uin mode d.toServer uid groupUin : CacheRoutine Reply ω UInt32).run w := by
  cases mode with
  | none =>
    cases groupUin with
    | some g => exact fastFetchGroupMembersUin_finds uid g
    | none => exact fastFetchFriendsUin_finds uid
  | full => exact (refreshMissing_gives hw nofun uid2uinIsEmpty_there groupUin).finds_bind fun _ w hready =>
      resolveUid2uinWithinCache_finds hready nofun uid
  | half => exact (refreshMissing_gives hw nofun uid2uinIsEmpty_there groupUin).finds_bind fun _ w hready =>
      resolveUid2uinWithinCache_finds hready nofun uid

theorem uin2uid_finds (hw : w.Good mode d) (uin : UInt32) (groupUin : Option UInt32) :
    (rely mode d reply).Finds False (fun r _ => FindsUid d uin groupUin r)
      (uin2uid mode d.toServer uin groupUin : CacheRoutine Reply ω String).run w := by
  cases mode with
  | none =>
    cases groupUin with
    | some g => exact fastFetchGroupMembersUid_finds uin g
    | none => exact fastFetchFriendsUid_finds uin
  | full => exact (refreshMissing_gives hw nofun uin2uidIsEmpty_there groupUin).finds_bind fun _ w hready =>
      resolveUin2uidWithinCache_finds hready nofun uin
  | half => exact (refreshMissing_gives hw nofun uin2uidIsEmpty_there groupUin).finds_bind fun _ w hready =>
      resolveUin2uidWithinCache_finds hready nofun uin

end Routine

/-- The map has members of the group, with a cache all of them. -/
def HasMembers (mode : CacheMode) (d : Directory) (groupUin : UInt32)
    (groups : DashMap UInt32 (List BotGroupMember)) : Prop :=
  ∃ members, groups.lookup groupUin = some members ∧ (∀ member ∈ members, member ∈ d.memberList groupUin) ∧
    (mode ≠ .none → members = d.memberList groupUin)

namespace Routine

theorem insertMembersPage_holds {groupUin : UInt32} {event : FetchMembersEvent}
    (h : event ∈ (d.members groupUin).pages) (v : DashMap UInt32 (List BotGroupMember)) :
    GivesVars (rely .none d reply) (fun r v => r = none ∧ HasMembers .none d groupUin v)
      (insertMembersPage groupUin event : StateT (DashMap UInt32 (List BotGroupMember)) (CacheRoutine Reply ω) _) v w := by
  have hpage : GivesVars (rely .none d reply) (fun _ v' => v' = v)
    (liftM (awaitPage : CacheRoutine Reply ω Unit) :
      StateT (DashMap UInt32 (List BotGroupMember)) (CacheRoutine Reply ω) Unit) v w :=
    .lift (awaitPage_gives.mono fun _ _ _ => rfl)
  refine hpage.bind fun _ v w hv => GivesVars.modify_bind (.pure ⟨rfl, event.groupMembers, ?_, ?_, fun h => absurd rfl h⟩)
  · rw [DashMap.lookup_insert_eq, if_pos rfl]
  · exact fun member hmember => List.mem_flatMap.mpr ⟨event, h, hmember⟩

theorem insertFriendsPage_holds {event : FetchFriendsEvent} (h : event ∈ d.friends.pages)
    {v : DashMap UInt32 BotFriend} (hv : OnlyFriends d v) :
    GivesVars (rely .none d reply) (fun r v => r = none ∧ OnlyFriends d v)
      (insertFriendsPage event : StateT (DashMap UInt32 BotFriend) (CacheRoutine Reply ω) _) v w := by
  have hpage : GivesVars (rely .none d reply) (fun _ v => OnlyFriends d v)
    (liftM (awaitPage : CacheRoutine Reply ω Unit) : StateT (DashMap UInt32 BotFriend) (CacheRoutine Reply ω) Unit) v w :=
    .lift (awaitPage_gives.mono fun _ _ _ => hv)
  refine hpage.bind fun _ v w hv => GivesVars.modify_bind (.pure ⟨rfl, fun uin friend hlookup => ?_⟩)
  rcases DashMap.lookup_extend_some hlookup with hnew | hold
  · obtain ⟨listed, hlisted, heq⟩ := List.mem_map.mp hnew
    cases heq
    exact ⟨rfl, _, List.mem_flatMap.mpr ⟨event, h, hlisted⟩, rfl⟩
  · exact hv uin friend hold

theorem fetchMaybeCachedGroupMembers_gives (hw : w.Good mode d) (groupUin : UInt32)
    (processFn : DashMap UInt32 (List BotGroupMember) → List BotGroupMember) (refreshCache : Bool) :
    Gives (rely mode d reply) (fun r _ => ∃ groups, HasMembers mode d groupUin groups ∧ r = processFn groups)
      (fetchMaybeCachedGroupMembers mode d.toServer groupUin processFn refreshCache :
        CacheRoutine Reply ω (List BotGroupMember)) w := by
  unfold fetchMaybeCachedGroupMembers
  split
  · next hnone =>
    subst hnone
    have hpages : GivesVars (rely .none d reply)
        (fun _ v => (d.members groupUin).pages ≠ [] → HasMembers .none d groupUin v)
        (iterFetch (insertMembersPage groupUin) (d.members groupUin) :
          StateT (DashMap UInt32 (List BotGroupMember)) (CacheRoutine Reply ω) (Option Unit)) ∅ w :=
      GivesVars.iterFetch (J := fun seen v => seen ≠ [] → HasMembers .none d groupUin v)
        (d.members_succeed groupUin) []
        (fun seen event hevent v w _ => (insertMembersPage_holds hevent v).mono fun _ _ h => ⟨h.1, fun _ => h.2⟩)
        (fun h => absurd rfl h)
    refine Gives.bind hpages fun r w hr => .const ?_
    exact ⟨r.2, hr (Answers.pages_ne_nil (d.members_succeed groupUin)), rfl⟩
  · next hmode =>
    have hrefresh : Gives (rely mode d reply) (fun _ _ => True)
        (if refreshCache then refreshGroupMembersCache mode d.toServer groupUin else pure () :
          CacheRoutine Reply ω Unit) w := by
      split
      · exact (refreshGroupMembersCache_gives hw groupUin).mono fun _ _ _ => trivial
      · exact .const trivial
    refine (hrefresh.good hw).bind fun _ w h => ?_
    refine ((refreshMissingGroup_gives h.2 hmode groupUin).good h.2).bind fun _ w h => ?_
    have hready : w.Ready mode d (some groupUin) := ⟨h.2, fun g hg => by
      cases hg
      exact h.1⟩
    refine (groupMembers_gives hready).bind fun r w hr => ?_
    obtain ⟨groups, rfl, hgroups⟩ := hr
    exact Gives.const ⟨groups, ⟨_, hgroups, fun _ h => h, fun _ => rfl⟩, rfl⟩

theorem fetchMaybeCachedFriends_gives (hw : w.Good mode d) (maybeFriendUin : Option UInt32)
    (processFn : DashMap UInt32 BotFriend → List BotFriend) (refreshCache : Bool) :
    Gives (rely mode d reply) (fun r _ => ∃ friends, OnlyFriends d friends ∧ r = processFn friends)
      (fetchMaybeCachedFriends mode d.toServer maybeFriendUin processFn refreshCache :
        CacheRoutine Reply ω (List BotFriend)) w := by
  unfold fetchMaybeCachedFriends
  split
  · next hnone =>
    subst hnone
    have hnew : OnlyFriends d ∅ := fun uin friend hlookup => by cases hlookup
    have hpages : GivesVars (rely .none d reply) (fun _ v => OnlyFriends d v)
        (iterFetch insertFriendsPage d.friends :
          StateT (DashMap UInt32 BotFriend) (CacheRoutine Reply ω) (Option Unit)) ∅ w :=
      GivesVars.iterFetch (J := fun _ v => OnlyFriends d v) d.friends_succeed []
        (fun _ event hevent v w hv => insertFriendsPage_holds hevent hv) hnew
    exact Gives.bind hpages fun r w hr => .const ⟨r.2, hr, rfl⟩
  · next hmode =>
    have hrefresh : Gives (rely mode d reply) (fun _ _ => True)
        (if refreshCache then refreshFriendsCache mode d.toServer else pure () : CacheRoutine Reply ω Unit) w := by
      split
      · exact refreshFriendsCache_gives hw
      · exact .const trivial
    refine (hrefresh.good hw).bind fun _ w h => ?_
    refine ((refreshMissingFriend_gives h.2 hmode maybeFriendUin).good h.2).bind fun _ w h => ?_
    refine (friends_gives h.2 hmode).bind fun r w hr => ?_
    obtain ⟨friends, rfl, hfriends⟩ := hr
    exact Gives.const ⟨friends, hfriends, rfl⟩

end Routine

/-! ## Many tasks -/

/-- What an operation may answer. -/
def CacheCall.Right (mode : CacheMode) (d : Directory) : CacheCall → CacheAnswer → Prop
  | .uin2uid uin groupUin, .uid r => FindsUid d uin groupUin r
  | .uid2uin uid groupUin, .uin r => FindsUin d uid groupUin r
  | .refreshFriendsCache, .refreshed r => r = .ok ()
  | .refreshGroupMembersCache _, .refreshed r => r = .ok ()
  | .fetchMaybeCachedFriends _ processFn _, .friends r => ∃ friends, OnlyFriends d friends ∧ r = .ok (processFn friends)
  | .fetchMaybeCachedGroupMembers groupUin processFn _, .members r =>
    ∃ groups, HasMembers mode d groupUin groups ∧ r = .ok (processFn groups)
  | _, _ => False

theorem CacheCall.routine_finds (hw : w.Good mode d) (call : CacheCall) :
    (rely mode d reply).Finds False (fun answer _ => call.Right mode d answer)
      (call.routine mode d.toServer : Routine Reply ω CacheAnswer) w := by
  cases call with
  | uin2uid uin groupUin => exact (Routine.uin2uid_finds hw uin groupUin).map fun _ _ hr => hr
  | uid2uin uid groupUin => exact (Routine.uid2uin_finds hw uid groupUin).map fun _ _ hr => hr
  | refreshFriendsCache =>
    refine Rely.Finds.map (Routine.refreshFriendsCache_gives hw) fun _ _ hr => ?_
    obtain ⟨_, hr, _⟩ := hr
    exact hr
  | refreshGroupMembersCache groupUin =>
    refine Rely.Finds.map (Routine.refreshGroupMembersCache_gives hw groupUin) fun _ _ hr => ?_
    obtain ⟨_, hr, _⟩ := hr
    exact hr
  | fetchMaybeCachedFriends maybeFriendUin processFn refreshCache =>
    refine Rely.Finds.map (Routine.fetchMaybeCachedFriends_gives hw maybeFriendUin processFn refreshCache) fun _ _ hr => ?_
    obtain ⟨_, rfl, friends, hfriends, rfl⟩ := hr
    exact ⟨friends, hfriends, rfl⟩
  | fetchMaybeCachedGroupMembers groupUin processFn refreshCache =>
    refine Rely.Finds.map (Routine.fetchMaybeCachedGroupMembers_gives hw groupUin processFn refreshCache) fun _ _ hr => ?_
    obtain ⟨_, rfl, groups, hgroups, rfl⟩ := hr
    exact ⟨groups, hgroups, rfl⟩

/-- Main result. **In every order in which the tasks access the cache, every
operation answers from the directory**: a lookup never answers another's uin
or uid, it finds each member of the group it is for, and a refresh does not
fail. None panics, and the cache has nobody but who the directory lists. -/
theorem operations_run (d : Directory) (mode : CacheMode) (reply : (r : ρ) → σ → Reply r × σ) (outside : σ)
    (acts : List (Coroutine.PoolAction CacheCall)) (p : Pool (Access.Answer Reply) ω CacheAnswer (CacheWorld σ))
    (h : run (Pool.step (Access.exec reply) (CacheCall.routine mode d.toServer))
      (Pool.new { cache := Cache.new mode, outside }) acts = some p) :
    p.shared.Good mode d ∧ ∀ (i : ℕ) (call : CacheCall), (Pool.spawned acts)[i]? = some call →
      p.routines[i]? ≠ some .panicked ∧
      ∀ answer, p.routines[i]? = some (.done answer) → call.Right mode d answer := by
  have hnew : (CacheWorld.mk (Cache.new mode) outside).Good mode d := CacheWorld.good_new mode d outside
  have hscript : ∀ (call : CacheCall) w, (rely mode d reply).rel { cache := Cache.new mode, outside } w →
      (rely mode d reply).Meets False (fun _ => True) (fun answer _ _ => call.Right mode d answer)
        (call.routine mode d.toServer : Routine Reply ω CacheAnswer) [] w := fun call w hw =>
    ((call.routine_finds (hw hnew).1) (fun _ => True) [] trivial).mono id (fun _ h => h) fun _ _ _ h => h.2
  have hkeeps : Pool.Keeps (rely mode d reply) (fun _ => False) (fun _ _ => True)
    (fun call answer _ _ => call.Right mode d answer) _ (Pool.spawned acts) p := Pool.meets_run hscript h
  refine ⟨(hkeeps.rel hnew).1, fun i call hcall => ⟨fun hpanicked => ?_, fun answer hanswer => ?_⟩⟩
  · exact (hkeeps.meets i call _ hcall hpanicked).2
  · exact (hkeeps.meets i call _ hcall hanswer).2 p.shared ((rely mode d reply).refl _)

end

/-- A lookup in a group, while another task fetches the friends. -/
def lookupActs : List (Coroutine.PoolAction CacheCall) :=
  [.spawn (.uid2uin "u_member" (some 700)), .turn 0, .spawn .refreshFriendsCache, .turn 1, .turn 0, .turn 1, .turn 0,
    .turn 1, .turn 0, .turn 0]

/-- There are no other requests. -/
def noRequest (_ : Empty) (_ : Unit) : Unit × Unit := ((), ())

theorem operations_run_lookup : ∃ p : Pool (Access.Answer fun _ => Unit) Empty CacheAnswer (CacheWorld Unit),
    run (Pool.step (Access.exec noRequest) (CacheCall.routine .half friendAndGroup))
      (Pool.new { cache := Cache.new .half, outside := () }) lookupActs = some p ∧
    p.routines[0]? = some (.done (.uin (.ok 20002))) ∧
    FindsUin friendAndGroupDirectory "u_member" (some 700) (.ok 20002) := by
  refine ⟨_, rfl, rfl, ?_⟩
  have hrun := operations_run (ω := Empty) friendAndGroupDirectory .half noRequest () lookupActs _ rfl
  exact (hrun.2 0 (.uid2uin "u_member" (some 700)) rfl).2 (.uin (.ok 20002)) rfl

end Mania
