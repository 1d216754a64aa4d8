/-
`event/mod.rs`: the channels on which events go from the packet tasks to a
listener, and a listener that waits for a change on any of them and then
reads what is there.

A channel is a watch channel, so a listener gets the last event and not
every event. It gets all of them exactly when no event is sent on the
channel while another waits to be read.
-/
import Mathlib.Logic.Function.Basic
import Mania.Lib.Watch

namespace Mania

open Watch Runs
open Function (update update_of_ne)

/-- The fields of `EventDispatcher` and of `EventListener`. -/
inductive EventChannel where
  | system
  | friend
  | group
  deriving DecidableEq

-- `Event c` is what the channel carries: `SystemEvent`, `FriendEvent` or `GroupEvent`.
variable {Event : EventChannel → Type}

abbrev EventDispatcher (Event : EventChannel → Type) := (c : EventChannel) → Sender (Option (Event c))

abbrev EventListener := EventChannel → Receiver

def EventDispatcher.new : EventDispatcher Event := fun _ => channel none

def EventListener.new (dispatcher : EventDispatcher Event) : EventListener := fun c => (dispatcher c).subscribe

/-- A listener in a loop: `notified` is the channel whose `changed` has
returned and whose value is not borrowed yet. -/
structure Session (Event : EventChannel → Type) where
  dispatcher : EventDispatcher Event
  listener : EventListener
  notified : Option EventChannel
  read : (c : EventChannel) → List (Option (Event c))

inductive EventAction (Event : EventChannel → Type) where
  | send (c : EventChannel) (event : Event c)
  | changed (c : EventChannel)
  | borrow (c : EventChannel)

namespace Session

def new (dispatcher : EventDispatcher Event) : Session Event where
  dispatcher
  listener := .new dispatcher
  notified := none
  read _ := []

/-- One step. A send does not fail while there is a listener. -/
def step (s : Session Event) : EventAction Event → Option (Session Event)
  | .send c event => some { s with dispatcher := update s.dispatcher c ((s.dispatcher c).send (some event)) }
  | .changed c =>
    if s.notified.isSome then none
    else ((s.listener c).changed (s.dispatcher c)).map fun rx =>
      { s with listener := update s.listener c rx, notified := some c }
  | .borrow c =>
    if s.notified = some c then some { s with
      notified := none
      read := update s.read c (s.read c ++ [(s.listener c).borrow (s.dispatcher c)]) }
    else none

/-- The listener has nothing to wake for or to read on the channel. -/
def CaughtUp (s : Session Event) (c : EventChannel) : Prop :=
  s.notified ≠ some c ∧ (s.listener c).seen = (s.dispatcher c).version

def sentOn (c : EventChannel) : EventAction Event → Option (Option (Event c))
  | .send c' event => if h : c' = c then some (some (h ▸ event)) else none
  | _ => none

/-- The events sent on a channel, in order. -/
def sent (c : EventChannel) (acts : List (EventAction Event)) : List (Option (Event c)) := acts.filterMap (sentOn c)

/-- Every event on the channel is sent when the listener is caught up. -/
def Calm (c : EventChannel) (s₀ : Session Event) (acts : List (EventAction Event)) : Prop :=
  ∀ before event after, acts = before ++ .send c event :: after → ∀ s, run step s₀ before = some s → s.CaughtUp c

/-! ## One channel of the session -/

/-- The session as the reader of one channel. -/
def view (c : EventChannel) (s : Session Event) : Reader (Option (Event c)) where
  tx := s.dispatcher c
  rx := s.listener c
  awake := s.notified = some c
  read := s.read c

def actOn (c : EventChannel) : EventAction Event → Option (Act (Option (Event c)))
  | .send c' event => if h : c' = c then some (.send (some (h ▸ event))) else none
  | .changed c' => if c' = c then some .wake else none
  | .borrow c' => if c' = c then some .read else none

variable {c : EventChannel} {s s' : Session Event} {acts : List (EventAction Event)} {dispatcher : EventDispatcher Event}

theorem view_caughtUp : (s.view c).CaughtUp ↔ s.CaughtUp c := by simp [Reader.CaughtUp, CaughtUp, view]

theorem sent_actOn (acts : List (EventAction Event)) : Reader.sent (acts.filterMap (actOn c)) = sent c acts := by
  rw [Reader.sent, List.filterMap_filterMap, sent]
  congr 1
  funext a
  cases a with
  | send c' event =>
    by_cases h : c' = c
    · simp [actOn, sentOn, h, Reader.sentBy]
    · simp [actOn, sentOn, h]
  | changed c' => by_cases h : c' = c <;> simp [actOn, sentOn, h, Reader.sentBy]
  | borrow c' => by_cases h : c' = c <;> simp [actOn, sentOn, h, Reader.sentBy]

/-- A step of the session is a step of the reader of its channel, and does
nothing to the readers of the others. -/
theorem step_view (c : EventChannel) (a : EventAction Event) (h : step s a = some s') :
    StepOrStay Reader.step (s.view c) (s'.view c) (actOn c a) := by
  cases a with
  | send c' event =>
    cases h
    by_cases hc : c' = c
    · subst hc
      simp [actOn, StepOrStay, Reader.step, view]
    · simp [actOn, StepOrStay, hc, view, update_of_ne (Ne.symm hc)]
  | changed c' =>
    simp only [step] at h
    split at h
    · cases h
    · next hidle =>
      obtain ⟨rx, hchanged, rfl⟩ := Option.map_eq_some_iff.mp h
      have hnone : s.notified = none := by simpa using hidle
      by_cases hc : c' = c
      · subst hc
        simp [actOn, StepOrStay, Reader.step, view, hnone, hchanged]
      · simp [actOn, StepOrStay, hc, view, hnone, update_of_ne (Ne.symm hc)]
  | borrow c' =>
    simp only [step] at h
    split at h
    · next hawake =>
      cases h
      by_cases hc : c' = c
      · subst hc
        simp [actOn, StepOrStay, Reader.step, view, hawake]
      · simp [actOn, StepOrStay, hc, view, hawake, update_of_ne (Ne.symm hc)]
    · cases h

theorem view_start (c : EventChannel) (dispatcher : EventDispatcher Event) :
    (new dispatcher).view c = Reader.start (dispatcher c) := by
  simp [view, new, Reader.start, EventListener.new]

theorem run_view (c : EventChannel) (h : run step (new dispatcher) acts = some s) :
    run Reader.step (Reader.start (dispatcher c)) (acts.filterMap (actOn c)) = some (s.view c) := by
  rw [← view_start]
  exact run_filterMap (fun _ a _ hstep => step_view c a hstep) h

theorem actOn_send {a : EventAction Event} {value : Option (Event c)} (h : actOn c a = some (.send value)) :
    ∃ event, a = .send c event ∧ value = some event := by
  cases a with
  | send c' event =>
    simp only [actOn] at h
    split at h
    · next hc =>
      subst hc
      cases h
      exact ⟨event, rfl, rfl⟩
    · cases h
  | changed c' =>
    simp only [actOn] at h
    split at h <;> cases h
  | borrow c' =>
    simp only [actOn] at h
    split at h <;> cases h

/-- The sends on a channel are calm when they are to its reader. -/
theorem calm_view (h : run step (new dispatcher) acts = some s) :
    Reader.Calm (Reader.start (dispatcher c)) (acts.filterMap (actOn c)) ↔ Calm c (new dispatcher) acts := by
  constructor
  · intro hcalm before event after hsplit mid hmid
    have hview := hcalm (before.filterMap (actOn c)) (some event) (after.filterMap (actOn c))
      (by rw [hsplit]; simp [actOn]) (mid.view c) (run_view c hmid)
    exact view_caughtUp.mp hview
  · intro hcalm before value after hsplit mid hmid
    obtain ⟨pre, post, rfl, hpre, hpost⟩ := List.filterMap_eq_append_iff.mp hsplit
    obtain ⟨skipped, a, rest, rfl, hskipped, hsend, -⟩ := List.filterMap_eq_cons_iff.mp hpost
    obtain ⟨event, rfl, rfl⟩ := actOn_send hsend
    -- the session before the send is what `mid` is the reader of
    rw [← List.append_assoc, run_append] at h
    obtain ⟨there, hthere, -⟩ := Option.bind_eq_some_iff.mp h
    have hview := run_view c hthere
    have hbefore : (pre ++ skipped).filterMap (actOn c) = before := by
      rw [List.filterMap_append, hpre, List.filterMap_eq_nil_iff.mpr hskipped, List.append_nil]
    rw [hbefore, hmid] at hview
    cases hview
    exact view_caughtUp.mpr (hcalm (pre ++ skipped) event rest (by simp) there hthere)

/-- What a listener reads of a channel: the events sent, in order, each at
most twice; when it has caught up, the last one; and then all of them, each
once, if each was sent when it had caught up, and (different events) only
then. -/
theorem read_sent (h : run step (new dispatcher) acts = some s) (c : EventChannel) :
    (s.read c).Sublist (Reader.twice (sent c acts)) ∧
    (s.CaughtUp c → (s.read c).getLast? = (sent c acts).getLast?) ∧
    (s.CaughtUp c → Calm c (new dispatcher) acts → s.read c = sent c acts) ∧
    ((sent c acts).Nodup → s.read c = sent c acts → Calm c (new dispatcher) acts) := by
  have hview := run_view c h
  rw [← sent_actOn, ← view_caughtUp, ← calm_view h]
  exact ⟨Reader.read_sublist hview, Reader.read_getLast hview,
    fun hcaught hcalm => Reader.read_eq_sent hview hcalm hcaught, Reader.calm_of_read_eq_sent hview⟩

/-- Two group events, each read before the next is sent. -/
theorem read_sent_in_turn :
    Calm .group (new (EventDispatcher.new : EventDispatcher fun _ => Nat))
      [.send .group 1, .changed .group, .borrow .group, .send .group 2, .changed .group, .borrow .group] := by
  have hrun : run step (new (EventDispatcher.new : EventDispatcher fun _ => Nat))
      [.send .group 1, .changed .group, .borrow .group, .send .group 2, .changed .group, .borrow .group] = some _ := rfl
  have h := read_sent hrun .group
  exact h.2.2.2 (by decide) (by rfl)

/-- The second of two events takes the place of the first one. -/
theorem event_overwritten :
    ¬ ∀ acts s, run step (new (EventDispatcher.new : EventDispatcher fun _ => Nat)) acts = some s → s.CaughtUp .group →
      ∀ event ∈ sent .group acts, event ∈ s.read .group := by
  intro hall
  have hrun : run step (new (EventDispatcher.new : EventDispatcher fun _ => Nat))
      [.send .group 1, .send .group 2, .changed .group, .borrow .group] = some _ := rfl
  have hread := hall _ _ hrun ⟨by decide, rfl⟩ (some 1) (by decide)
  exact absurd hread (by decide)

/-! ## Catching up -/

theorem exists_caughtUp_idle (hidle : s.notified = none) (c : EventChannel) :
    ∃ acts s', (∀ c', sent c' acts = []) ∧ run step s acts = some s' ∧ s'.CaughtUp c := by
  by_cases hseen : (s.listener c).seen = (s.dispatcher c).version
  · exact ⟨[], s, fun _ => rfl, rfl, by simp [CaughtUp, hidle, hseen]⟩
  · refine ⟨[.changed c, .borrow c], ?_⟩
    simp [run_cons, step, hidle, Receiver.changed, hseen, sent, sentOn, CaughtUp]

/-- From any state the listener catches up on a channel when nothing more is
sent. -/
theorem exists_caughtUp (s : Session Event) (c : EventChannel) :
    ∃ acts s', (∀ c', sent c' acts = []) ∧ run step s acts = some s' ∧ s'.CaughtUp c := by
  cases hnotified : s.notified with
  | none => exact exists_caughtUp_idle hnotified c
  | some c' =>
    obtain ⟨idle, hborrow, hidle⟩ : ∃ idle, step s (.borrow c') = some idle ∧ idle.notified = none := by
      simp [step, hnotified]
    obtain ⟨acts, s', hsent, hrun, hcaught⟩ := exists_caughtUp_idle hidle c
    refine ⟨.borrow c' :: acts, s', ?_, ?_, hcaught⟩
    · intro c''
      exact hsent c''
    · rw [run_cons, hborrow]
      exact hrun

end Session

end Mania
