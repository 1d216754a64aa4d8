/-
The two handlers of a member who joins or leaves a group: `caching_logic`,
which fetches the members into the cache, and the branches of
`messaging_logic` that tell the listeners.

`dispatch_logic` runs the handlers registered for an event in the order in
which they were collected, and there is no order between registrations. The
second handler finds the invitor or operator through the cache the first one
fills, so the order is seen in the event exactly when the lookup answers
otherwise after the fetch than before it (`handlers_commute_iff`).
-/
import Mania.GroupLookups
import Mania.Lib.Effect
import Mania.PushMsg

namespace Mania

/-! ## Events -/

structure GroupSysIncreaseEvent where
  groupUin : UInt32
  memberUid : String
  invitorUid : Option String
  eventType : GroupMemberIncreaseEventType

structure GroupSysDecreaseEvent where
  groupUin : UInt32
  memberUid : String
  operatorUid : Option String
  eventType : GroupMemberDecreaseEventType

/-- An event with both handlers. -/
inductive GroupSysChange where
  | increase (event : GroupSysIncreaseEvent)
  | decrease (event : GroupSysDecreaseEvent)

structure GroupMemberIncreaseEvent where
  groupUin : UInt32
  memberUin : UInt32
  invitorUin : Option UInt32
  eventType : GroupMemberIncreaseEventType
  deriving DecidableEq

structure GroupMemberDecreaseEvent where
  groupUin : UInt32
  memberUin : UInt32
  operatorUin : Option UInt32
  eventType : GroupMemberDecreaseEventType
  deriving DecidableEq

inductive GroupEvent where
  | groupMemberIncrease (event : GroupMemberIncreaseEvent)
  | groupMemberDecrease (event : GroupMemberDecreaseEvent)
  deriving DecidableEq

/-! ## Handlers -/

/-- What the handlers change. -/
structure GroupWorld where
  cache : Cache
  /-- What was given to `event_dispatcher.group`. -/
  sent : List GroupEvent

/-- What the handlers only read. -/
structure GroupContext where
  server : Server
  resolveStrangerUid2uin : String → Except ManiaError UInt32
  /-- `key_store.uid`. -/
  selfUid : Option String

abbrev GroupTask (α : Type) := Effect GroupWorld (BusinessError String) α

abbrev GroupHandler := GroupSysChange → GroupTask GroupSysChange

namespace GroupContext

variable (context : GroupContext)

def resolveStrangerUid2uinFast (strangerUid : String) : UInt32 :=
  match context.resolveStrangerUid2uin strangerUid with
  | .ok uin => uin
  | .error _ => 0

/-- A failure is logged. -/
def refreshGroupMembersCache (groupUin : UInt32) : GroupTask Unit :=
  Effect.modify fun w => { w with cache := (w.cache.refreshGroupMembers context.server groupUin).2 }

/-- `uid2uin(..).map(Some).unwrap_or_else(..)`. -/
def uid2uin (uid : String) (groupUin : UInt32) : GroupTask (Option UInt32) := do
  let w ← Effect.get
  let (uin, cache) := Mania.uid2uin context.server uid (some groupUin) w.cache
  Effect.modify fun w => { w with cache }
  pure uin.toOption

def send (event : GroupEvent) : GroupTask Unit := Effect.modify fun w => { w with sent := w.sent ++ [event] }

def cachingLogic : GroupHandler
  | .increase increase => do
    context.refreshGroupMembersCache increase.groupUin
    pure (.increase increase)
  | .decrease decrease =>
    match context.selfUid with
    | none => Effect.panic
    | some selfUid => do
      if decrease.memberUid ≠ selfUid then context.refreshGroupMembersCache decrease.groupUin
      pure (.decrease decrease)

/-- The type is taken out of the event. -/
def messagingLogic : GroupHandler
  | .increase join => do
    let memberUin := context.resolveStrangerUid2uinFast join.memberUid
    let invitorUin ← context.uid2uin (join.invitorUid.getD "") join.groupUin
    send (.groupMemberIncrease { groupUin := join.groupUin, memberUin, invitorUin, eventType := join.eventType })
    pure (.increase { join with eventType := .unknown })
  | .decrease leave => do
    let memberUin := context.resolveStrangerUid2uinFast leave.memberUid
    let operatorUin ← context.uid2uin (leave.operatorUid.getD "") leave.groupUin
    send (.groupMemberDecrease { groupUin := leave.groupUin, memberUin, operatorUin, eventType := leave.eventType })
    pure (.decrease { leave with eventType := .unknown })

/-- `dispatch_logic`: a panic ends the task, and leaves what was done. -/
def dispatchLogic (fns : List GroupHandler) (event : GroupSysChange) : GroupTask GroupSysChange :=
  fns.foldlM (fun event handleFn => handleFn event) event

/-- What the handlers leave, in the order they are run in. -/
def handled (fns : List GroupHandler) (event : GroupSysChange) (cache : Cache) : GroupWorld :=
  ((dispatchLogic fns event).run { cache, sent := [] }).2

end GroupContext

/-! ## What an event comes to -/

namespace GroupSysChange

def groupUin : GroupSysChange → UInt32
  | increase event => event.groupUin
  | decrease event => event.groupUin

/-- The uid looked up in the group: of the invitor or of the operator. -/
def askedUid : GroupSysChange → String
  | increase event => event.invitorUid.getD ""
  | decrease event => event.operatorUid.getD ""

/-- The event the listeners get, with what the lookup found. -/
def told (context : GroupContext) (uin : Option UInt32) : GroupSysChange → GroupEvent
  | increase event =>
    .groupMemberIncrease { event with
      memberUin := context.resolveStrangerUid2uinFast event.memberUid
      invitorUin := uin }
  | decrease event =>
    .groupMemberDecrease { event with
      memberUin := context.resolveStrangerUid2uinFast event.memberUid
      operatorUin := uin }

/-- The event without its type. -/
def taken : GroupSysChange → GroupSysChange
  | increase event => .increase { event with eventType := .unknown }
  | decrease event => .decrease { event with eventType := .unknown }

/-- A decrease is told apart from one of the client itself. -/
def OwnUidKnown (selfUid : Option String) : GroupSysChange → Prop
  | increase _ => True
  | decrease _ => selfUid.isSome

/-- The members are fetched, as the client is still one of them. -/
def Fetches (selfUid : Option String) : GroupSysChange → Prop
  | increase _ => True
  | decrease event => selfUid ≠ some event.memberUid

instance (selfUid : Option String) : (event : GroupSysChange) → Decidable (event.Fetches selfUid)
  | increase _ => inferInstanceAs (Decidable True)
  | decrease _ => inferInstanceAs (Decidable (_ ≠ _))

/-- What is fetched changes nothing about the uid looked up. -/
def SameLookup (context : GroupContext) (cache : Cache) (event : GroupSysChange) : Prop :=
  event.Fetches context.selfUid → ∀ store ∈ cache, ∀ members,
    membersFetched (context.server.members event.groupUin) = some members →
      store.uinBefore context.server event.groupUin members event.askedUid =
        store.uinAfter context.server members event.askedUid

theorem told_inj {context : GroupContext} {uin uin' : Option UInt32} {event : GroupSysChange} :
    event.told context uin = event.told context uin' ↔ uin = uin' := by
  cases event <;> simp [told]

end GroupSysChange

/-! ## One handler -/

namespace GroupContext

variable {context : GroupContext} {event : GroupSysChange} {cache : Cache}

/-- The cache after `caching_logic`. -/
def cached (context : GroupContext) (event : GroupSysChange) (cache : Cache) : Cache :=
  if event.Fetches context.selfUid then (cache.refreshGroupMembers context.server event.groupUin).2 else cache

theorem cachingLogic_run (h : event.OwnUidKnown context.selfUid) (w : GroupWorld) :
    (context.cachingLogic event).run w = (.ok event, { w with cache := context.cached event w.cache }) := by
  cases event with
  | increase increase => rfl
  | decrease decrease =>
    obtain ⟨selfUid, hself⟩ := Option.isSome_iff_exists.mp h
    by_cases hmember : decrease.memberUid = selfUid
    · have hstays : ¬ (GroupSysChange.decrease decrease).Fetches context.selfUid :=
        fun h => h (hself.trans (congrArg some hmember.symm))
      rw [cached, if_neg hstays, cachingLogic, hself]
      simp [hmember]
    · have hfetches : (GroupSysChange.decrease decrease).Fetches context.selfUid :=
        fun h => hmember (Option.some.inj (h.symm.trans hself))
      rw [cached, if_pos hfetches, cachingLogic, hself]
      simp only [ne_eq, hmember, not_false_eq_true, if_true]
      rfl

theorem cachingLogic_panics (h : ¬ event.OwnUidKnown context.selfUid) (w : GroupWorld) :
    (context.cachingLogic event).run w = (.panic, w) := by
  cases event with
  | increase increase => exact absurd trivial h
  | decrease decrease =>
    have hself : context.selfUid = none := by simpa [GroupSysChange.OwnUidKnown] using h
    rw [cachingLogic, hself]
    rfl

theorem messagingLogic_run (context : GroupContext) (event : GroupSysChange) (w : GroupWorld) :
    (context.messagingLogic event).run w = (.ok event.taken,
      { cache := (Mania.uid2uin context.server event.askedUid (some event.groupUin) w.cache).2
        sent := w.sent ++ [event.told context
          (Mania.uid2uin context.server event.askedUid (some event.groupUin) w.cache).1.toOption] }) := by
  cases event <;> rfl

theorem taken_known : event.taken.OwnUidKnown context.selfUid ↔ event.OwnUidKnown context.selfUid := by
  cases event <;> rfl

theorem taken_cached : context.cached event.taken cache = context.cached event cache := by
  cases event <;> rfl

theorem handled_pair (first second : GroupHandler) (event : GroupSysChange) (cache : Cache) :
    handled [first, second] event cache = ((first event >>= second).run { cache, sent := [] }).2 := by
  simp [handled, dispatchLogic]

/-! ## Both handlers -/

theorem handled_caching_first (h : event.OwnUidKnown context.selfUid) (cache : Cache) :
    handled [context.cachingLogic, context.messagingLogic] event cache =
      { cache := (Mania.uid2uin context.server event.askedUid (some event.groupUin) (context.cached event cache)).2
        sent := [event.told context (Mania.uid2uin context.server event.askedUid (some event.groupUin)
          (context.cached event cache)).1.toOption] } := by
  rw [handled_pair, Effect.bind_ok (cachingLogic_run h _), messagingLogic_run]
  rfl

theorem handled_messaging_first (h : event.OwnUidKnown context.selfUid) (cache : Cache) :
    handled [context.messagingLogic, context.cachingLogic] event cache =
      { cache := context.cached event
          (Mania.uid2uin context.server event.askedUid (some event.groupUin) cache).2
        sent := [event.told context
          (Mania.uid2uin context.server event.askedUid (some event.groupUin) cache).1.toOption] } := by
  rw [handled_pair, Effect.bind_ok (messagingLogic_run context event _), cachingLogic_run (taken_known.mpr h),
    taken_cached]
  rfl

end GroupContext

/-! ## The members both leave -/

/-- The members cached of a group. -/
def Cache.members (cache : Cache) (groupUin : UInt32) : Option (List BotGroupMember) :=
  cache.bind fun store => store.cachedGroupMembers.lookup groupUin

theorem refreshGroupMembers_fetched {server : Server} {groupUin : UInt32} {members : List BotGroupMember}
    (h : membersFetched (server.members groupUin) = some members) (store : Store) :
    (Cache.refreshGroupMembers server groupUin (some store)).2 = some (store.withMembers groupUin members) := by
  simp only [Cache.refreshGroupMembers, withStore, refreshGroupMembersCache_fetched h]

theorem refreshGroupMembers_unfetched {server : Server} {groupUin : UInt32}
    (h : membersFetched (server.members groupUin) = none) (cache : Cache) :
    (cache.refreshGroupMembers server groupUin).2 = cache := by
  cases cache with
  | none => rfl
  | some store =>
    obtain ⟨e, hrun⟩ := refreshGroupMembersCache_unfetched h store
    simp only [Cache.refreshGroupMembers, withStore, hrun]

/-- A refresh leaves the members it fetches. -/
theorem members_refresh {server : Server} {groupUin : UInt32} {members : List BotGroupMember}
    (h : membersFetched (server.members groupUin) = some members) (store : Store) (g : UInt32) :
    Cache.members (Cache.refreshGroupMembers server groupUin (some store)).2 g =
      if g = groupUin then some members else Cache.members (some store) g := by
  rw [refreshGroupMembers_fetched h]
  exact DashMap.lookup_insert_eq store.cachedGroupMembers groupUin g members

/-- A lookup leaves the members as they are, or those it fetches. -/
theorem members_uid2uin (server : Server) (groupUin : UInt32) (uid : String) (store : Store) (g : UInt32) :
    Cache.members (uid2uin server uid (some groupUin) (some store)).2 g = Cache.members (some store) g ∨
      g = groupUin ∧ Cache.members (uid2uin server uid (some groupUin) (some store)).2 g =
        membersFetched (server.members groupUin) := by
  obtain ⟨r, store', hready, -, hcache⟩ := uid2uin_ready server groupUin store uid
  rw [hcache]
  rcases hready.members with hsame | ⟨members, hfetched, hput⟩
  · exact .inl (congrArg (AList.lookup g) hsame)
  · have hlookup := (congrArg (AList.lookup g) hput).trans
      (DashMap.lookup_insert_eq store.cachedGroupMembers groupUin g members)
    by_cases hg : g = groupUin
    · rw [if_pos hg] at hlookup
      exact .inr ⟨hg, hlookup.trans hfetched.symm⟩
    · rw [if_neg hg] at hlookup
      exact .inl hlookup

/-- A lookup and a refresh leave the same members in either order. -/
theorem members_comm (server : Server) (groupUin : UInt32) (uid : String) (cache : Cache) (g : UInt32) :
    Cache.members (uid2uin server uid (some groupUin) (cache.refreshGroupMembers server groupUin).2).2 g =
      Cache.members ((uid2uin server uid (some groupUin) cache).2.refreshGroupMembers server groupUin).2 g := by
  cases cache with
  | none => rfl
  | some store =>
    obtain ⟨r, store', -, -, hcache⟩ := uid2uin_ready server groupUin store uid
    cases hfetched : membersFetched (server.members groupUin) with
    | none => rw [refreshGroupMembers_unfetched hfetched, refreshGroupMembers_unfetched hfetched]
    | some members =>
      have hfirst := members_uid2uin server groupUin uid store g
      have hsecond := members_uid2uin server groupUin uid (store.withMembers groupUin members) g
      have hrefreshed := members_refresh hfetched store g
      rw [refreshGroupMembers_fetched hfetched] at hrefreshed ⊢
      rw [hcache] at hfirst ⊢
      rw [members_refresh hfetched store' g]
      rw [hfetched] at hsecond
      by_cases hg : g = groupUin
      · rw [if_pos hg] at hrefreshed ⊢
        rcases hsecond with hsame | ⟨-, hput⟩
        · exact hsame.trans hrefreshed
        · exact hput
      · rw [if_neg hg] at hrefreshed ⊢
        have hkept := hfirst.resolve_right fun h => hg h.1
        have hkept' := hsecond.resolve_right fun h => hg h.1
        exact (hkept'.trans hrefreshed).trans hkept.symm

/-! ## The order of the handlers -/

namespace GroupContext

variable (context : GroupContext) (event : GroupSysChange) (cache : Cache)

/-- The listeners get the same in both orders. -/
def SameEvents : Prop :=
  (handled [context.cachingLogic, context.messagingLogic] event cache).sent =
    (handled [context.messagingLogic, context.cachingLogic] event cache).sent

/-- The same members are cached after both orders. -/
def SameMembers : Prop :=
  ∀ groupUin, (handled [context.cachingLogic, context.messagingLogic] event cache).cache.members groupUin =
    (handled [context.messagingLogic, context.cachingLogic] event cache).cache.members groupUin

variable {context event cache}

theorem sameMembers (h : event.OwnUidKnown context.selfUid) : context.SameMembers event cache := by
  intro groupUin
  rw [handled_caching_first h, handled_messaging_first h]
  unfold cached
  split
  · exact members_comm context.server event.groupUin event.askedUid cache groupUin
  · rfl

/-- Without the own uid the caching handler ends the task: the listeners are
told only when the other one comes first. -/
theorem not_sameEvents (h : ¬ event.OwnUidKnown context.selfUid) : ¬ context.SameEvents event cache := by
  intro hsame
  have hfirst : (handled [context.cachingLogic, context.messagingLogic] event cache).sent = [] := by
    rw [handled_pair, Effect.bind_panic (cachingLogic_panics h _)]
  have hsecond : (handled [context.messagingLogic, context.cachingLogic] event cache).sent ≠ [] := by
    rw [handled_pair, Effect.bind_ok (messagingLogic_run context event _),
      cachingLogic_panics fun h' => h (taken_known.mp h')]
    simp
  exact hsecond (hsame.symm.trans hfirst)

theorem sameEvents_iff_uid2uin (h : event.OwnUidKnown context.selfUid) : context.SameEvents event cache ↔
    (Mania.uid2uin context.server event.askedUid (some event.groupUin) (context.cached event cache)).1.toOption =
      (Mania.uid2uin context.server event.askedUid (some event.groupUin) cache).1.toOption := by
  rw [SameEvents, handled_caching_first h, handled_messaging_first h, List.singleton_inj, GroupSysChange.told_inj]

theorem uid2uin_cached_same_iff :
    (Mania.uid2uin context.server event.askedUid (some event.groupUin) (context.cached event cache)).1.toOption =
      (Mania.uid2uin context.server event.askedUid (some event.groupUin) cache).1.toOption ↔
    event.SameLookup context cache := by
  unfold cached GroupSysChange.SameLookup
  by_cases hfetches : event.Fetches context.selfUid
  · rw [if_pos hfetches]
    cases cache with
    | none => simp [Cache.refreshGroupMembers]
    | some store =>
      cases hfetched : membersFetched (context.server.members event.groupUin) with
      | none =>
        rw [refreshGroupMembers_unfetched hfetched]
        simp
      | some members =>
        rw [refreshGroupMembers_fetched hfetched, uid2uin_after hfetched, uid2uin_before hfetched]
        constructor
        · intro h _ store' hstore members' hmembers
          cases hstore
          cases hmembers
          exact h.symm
        · intro h
          exact (h hfetches store rfl members rfl).symm
  · rw [if_neg hfetches]
    exact iff_of_true rfl fun h => absurd h hfetches

/-- **The two orders.** With the own uid known where it is needed, they leave
the same members. They send the same event exactly when it is known and the
fetch changes nothing about the uid looked up. -/
theorem handlers_commute_iff (context : GroupContext) (event : GroupSysChange) (cache : Cache) :
    (event.OwnUidKnown context.selfUid → context.SameMembers event cache) ∧
      (context.SameEvents event cache ↔ event.OwnUidKnown context.selfUid ∧ event.SameLookup context cache) := by
  refine ⟨sameMembers, ?_⟩
  by_cases h : event.OwnUidKnown context.selfUid
  · rw [sameEvents_iff_uid2uin h, uid2uin_cached_same_iff, and_iff_right h]
  · exact iff_of_false (not_sameEvents h) fun hboth => h hboth.1

/-! ## An invitor who is not cached -/

def memberContext (selfUid : Option String) : GroupContext where
  server := friendAndGroup
  resolveStrangerUid2uin _ := .ok 30003
  selfUid

def invited : GroupSysChange :=
  .increase { groupUin := 700, memberUid := "u_new", invitorUid := some "u_member", eventType := .invite }

def left : GroupSysChange :=
  .decrease { groupUin := 700, memberUid := "u_new", operatorUid := none, eventType := .leave }

/-- Mode Half, with the group cached before the invitor was in it. -/
def staleGroup : Store where
  index := none
  cachedFriends := ∅
  cachedGroupMembers := AList.singleton 700 [{ aMember with uin := 20001, uid := "u_owner" }]

/-- A group that is not cached is fetched by either handler. -/
theorem handlers_commute_uncached :
    (memberContext (some "u_self")).SameMembers invited (Cache.new .half) ∧
      (memberContext (some "u_self")).SameEvents invited (Cache.new .half) := by
  obtain ⟨hmembers, hevents⟩ := handlers_commute_iff (memberContext (some "u_self")) invited (Cache.new .half)
  refine ⟨hmembers trivial, hevents.mpr ⟨trivial, fun _ store hstore members hmembers => ?_⟩⟩
  cases hstore
  cases hmembers
  rfl

/-- The invitor is told only when the members are fetched first, and of one
who left before the own uid is known only when they are not. -/
theorem handlers_not_commute :
    ¬ (memberContext (some "u_self")).SameEvents invited (some staleGroup) ∧
      (handled [(memberContext (some "u_self")).cachingLogic, (memberContext (some "u_self")).messagingLogic] invited
          (some staleGroup)).sent =
        [.groupMemberIncrease { groupUin := 700, memberUin := 30003, invitorUin := some 20002, eventType := .invite }] ∧
      (handled [(memberContext (some "u_self")).messagingLogic, (memberContext (some "u_self")).cachingLogic] invited
          (some staleGroup)).sent =
        [.groupMemberIncrease { groupUin := 700, memberUin := 30003, invitorUin := none, eventType := .invite }] ∧
      ¬ (memberContext none).SameEvents left (some staleGroup) := by
  have hfirst : (handled [(memberContext (some "u_self")).cachingLogic, (memberContext (some "u_self")).messagingLogic]
      invited (some staleGroup)).sent =
      [.groupMemberIncrease { groupUin := 700, memberUin := 30003, invitorUin := some 20002, eventType := .invite }] := by
    decide +kernel
  have hsecond : (handled [(memberContext (some "u_self")).messagingLogic, (memberContext (some "u_self")).cachingLogic]
      invited (some staleGroup)).sent =
      [.groupMemberIncrease { groupUin := 700, memberUin := 30003, invitorUin := none, eventType := .invite }] := by
    decide +kernel
  refine ⟨fun h => ?_, hfirst, hsecond, ?_⟩
  · have hsame := hfirst.symm.trans (h.trans hsecond)
    simp at hsame
  · exact not_sameEvents fun h => by simp [left, memberContext, GroupSysChange.OwnUidKnown] at h

end GroupContext

end Mania
