/-
From the packet tasks to a listener. What a task tells is sent on the channel
of the event at once, while the listener, in its loop, waits for a channel to
change and reads what is there when it gets to it. The sends of many tasks
and the reads come in any order (`deliveries_run`).
-/
import Mania.IncomingLogicFacts

namespace Mania

open Runs Watch
open Coroutine (Pool PoolAction)

/-- What a channel carries. -/
abbrev ChannelEvent (c : EventChannel) : Type := { e : Published // e.channel = c }

/-- The tasks, and the dispatcher with one of its listeners. -/
structure Delivery (σ : Type) where
  tasks : IncomingPool σ
  session : Session ChannelEvent

inductive DeliveryAction where
  | task (a : PoolAction IncomingPacket)
  | changed (c : EventChannel)
  | borrow (c : EventChannel)

/-- `dispatch_event`. -/
def Published.sent (e : Published) : EventAction ChannelEvent := .send e.channel ⟨e, rfl⟩

namespace Delivery

variable {σ : Type} (decoders : Decoders) (x : IncomingContext) (registry : List Logic)
  (reply : (r : IncomingRequest) → σ → r.Reply × σ)

/-- What is told in a turn is sent before the next one. -/
def step (s : Delivery σ) : DeliveryAction → Option (Delivery σ)
  | .task a => do
    let tasks ← IncomingPool.step decoders x registry reply s.tasks a
    let session ← run Session.step s.session ((tasks.told.drop s.tasks.told.length).map (·.2.sent))
    pure { tasks, session }
  | .changed c => do
    let session ← s.session.step (.changed c)
    pure { s with session }
  | .borrow c => do
    let session ← s.session.step (.borrow c)
    pure { s with session }

def new (mode : CacheMode) (outside : σ) : Delivery σ where
  tasks := .new mode outside
  session := .new .new

/-- The steps of the tasks. -/
def taskOf : DeliveryAction → Option (PoolAction IncomingPacket)
  | .task a => some a
  | _ => none

/-- What was told on a channel, in order. -/
def toldOn (c : EventChannel) (s : Delivery σ) : List (Option (ChannelEvent c)) :=
  s.tasks.told.filterMap fun e => Session.sentOn c e.2.sent

/-- Whenever something is told on the channel, the listener is caught up. -/
def Calm (c : EventChannel) (s₀ : Delivery σ) (acts : List DeliveryAction) : Prop :=
  ∀ before a after, acts = before ++ a :: after → ∀ s s', run (step decoders x registry reply) s₀ before = some s →
    step decoders x registry reply s a = some s' → s'.toldOn c ≠ s.toldOn c → s.session.CaughtUp c

variable {decoders x registry reply} {s s' : Delivery σ} {a : DeliveryAction} {acts : List DeliveryAction}
  {c : EventChannel}

/-! ## What a step does -/

/-- The steps: a turn that tells nothing, one that tells an event, and a step
of the listener. -/
inductive Moves (decoders : Decoders) (x : IncomingContext) (registry : List Logic)
    (reply : (r : IncomingRequest) → σ → r.Reply × σ) (s : Delivery σ) : DeliveryAction → Delivery σ → Prop
  | quiet {a : PoolAction IncomingPacket} {tasks : IncomingPool σ}
      (hstep : IncomingPool.step decoders x registry reply s.tasks a = some tasks) (htold : tasks.told = s.tasks.told) :
      Moves decoders x registry reply s (.task a) { s with tasks }
  | tells {a : PoolAction IncomingPacket} {tasks : IncomingPool σ} {session : Session ChannelEvent} (i : ℕ) (e : Published)
      (hstep : IncomingPool.step decoders x registry reply s.tasks a = some tasks)
      (htold : tasks.told = s.tasks.told ++ [(i, e)]) (hsent : s.session.step e.sent = some session) :
      Moves decoders x registry reply s (.task a) { tasks, session }
  | changed (c : EventChannel) {session : Session ChannelEvent} (hstep : s.session.step (.changed c) = some session) :
      Moves decoders x registry reply s (.changed c) { s with session }
  | borrow (c : EventChannel) {session : Session ChannelEvent} (hstep : s.session.step (.borrow c) = some session) :
      Moves decoders x registry reply s (.borrow c) { s with session }

theorem moves_of_step (h : step decoders x registry reply s a = some s') : Moves decoders x registry reply s a s' := by
  cases a with
  | task a =>
    obtain ⟨tasks, htasks, h⟩ := Option.bind_eq_some_iff.mp h
    obtain ⟨session, hsession, h⟩ := Option.bind_eq_some_iff.mp h
    cases h
    have hquiet (htold : tasks.told = s.tasks.told) :
        Moves decoders x registry reply s (.task a) { tasks, session } := by
      rw [htold, List.drop_length] at hsession
      cases hsession
      exact .quiet htasks htold
    cases Pool.moves_of_step htasks with
    | spawn packet => exact hquiet rfl
    | call i c next hcall => exact hquiet rfl
    | emit i e rest hemit =>
      rw [List.drop_left, List.map_singleton, run_cons] at hsession
      obtain ⟨mid, hmid, hrest⟩ := Option.bind_eq_some_iff.mp hsession
      cases hrest
      exact .tells i e htasks rfl hmid
  | changed c =>
    obtain ⟨session, hsession, h⟩ := Option.bind_eq_some_iff.mp h
    cases h
    exact .changed c hsession
  | borrow c =>
    obtain ⟨session, hsession, h⟩ := Option.bind_eq_some_iff.mp h
    cases h
    exact .borrow c hsession

/-! ## The tasks and the listener, each alone -/

theorem run_tasks (h : run (step decoders x registry reply) s acts = some s') :
    run (IncomingPool.step decoders x registry reply) s.tasks (acts.filterMap taskOf) = some s'.tasks := by
  refine run_filterMap (fun s a s' hstep => ?_) h
  cases moves_of_step hstep with
  | quiet htasks htold => exact htasks
  | tells i e htasks htold hsent => exact htasks
  | changed c hsession => exact rfl
  | borrow c hsession => exact rfl

/-- The channel's reader, when what was told on the channel is sent to it. -/
structure Tracks (decoders : Decoders) (x : IncomingContext) (registry : List Logic)
    (reply : (r : IncomingRequest) → σ → r.Reply × σ) (c : EventChannel) (s₀ s : Delivery σ) (acts : List DeliveryAction)
    (racts : List (Act (Option (ChannelEvent c)))) : Prop where
  reads : run Reader.step (Reader.start (channel none)) racts = some (s.session.view c)
  sent : Reader.sent racts = s.toldOn c
  calm : Calm decoders x registry reply c s₀ acts → Reader.Calm (Reader.start (channel none)) racts

theorem Calm.of_concat {s₀ : Delivery σ} (h : Calm decoders x registry reply c s₀ (acts ++ [a])) :
    Calm decoders x registry reply c s₀ acts := by
  intro before b after hsplit
  exact h before b (after ++ [a]) (by rw [hsplit, List.append_assoc, List.cons_append])

/-- One more step of the session. -/
theorem Tracks.extend {s₀ : Delivery σ} {racts : List (Act (Option (ChannelEvent c)))}
    (h : Tracks decoders x registry reply c s₀ s acts racts) (b : EventAction ChannelEvent)
    (hsession : s.session.step b = some s'.session) (htold : s'.toldOn c = s.toldOn c ++ Session.sent c [b])
    (hcalm : Calm decoders x registry reply c s₀ (acts ++ [a]) → ∀ value, Session.actOn c b = some (.send value) →
      s.session.CaughtUp c) :
    Tracks decoders x registry reply c s₀ s' (acts ++ [a]) (racts ++ [b].filterMap (Session.actOn c)) where
  reads := by
    have hone : run Session.step s.session [b] = some s'.session := by
      rw [run_cons, hsession]
      rfl
    rw [run_append, h.reads]
    exact run_filterMap (fun _ a _ hstep => Session.step_view c a hstep) hone
  sent := by
    rw [htold, ← h.sent, ← Session.sent_actOn, Reader.sent, List.filterMap_append]
    rfl
  calm hafter := by
    have hbefore := h.calm hafter.of_concat
    cases hact : Session.actOn c b with
    | none => simpa [hact] using hbefore
    | some act =>
      rw [List.filterMap_cons_some hact, List.filterMap_nil]
      refine hbefore.concat h.reads ?_
      rintro value rfl
      exact Session.view_caughtUp.mpr (hcalm hafter value hact)

theorem Tracks.step {s₀ : Delivery σ} {racts : List (Act (Option (ChannelEvent c)))}
    (h : Tracks decoders x registry reply c s₀ s acts racts)
    (hrun : run (Delivery.step decoders x registry reply) s₀ acts = some s)
    (hstep : Delivery.step decoders x registry reply s a = some s') :
    ∃ racts', Tracks decoders x registry reply c s₀ s' (acts ++ [a]) racts' := by
  cases moves_of_step hstep with
  | @quiet a tasks htasks htold =>
    refine ⟨racts, h.reads, ?_, fun hcalm => h.calm hcalm.of_concat⟩
    rw [h.sent, toldOn, toldOn, htold]
  | @tells a tasks session i e htasks htold hsent =>
    have htold' : toldOn c { tasks, session } = s.toldOn c ++ Session.sent c [e.sent] := by
      rw [toldOn, htold, List.filterMap_append]
      rfl
    refine ⟨_, h.extend e.sent hsent htold' fun hcalm value hact => ?_⟩
    refine hcalm acts _ [] rfl s _ hrun hstep ?_
    obtain ⟨event, hevent, -⟩ := Session.actOn_send hact
    rw [htold', hevent]
    simp [Session.sent, Session.sentOn]
  | changed c' hsession =>
    refine ⟨_, h.extend (.changed c') hsession (by simp [toldOn, Session.sent, Session.sentOn]) fun _ value hact => ?_⟩
    obtain ⟨event, hevent, -⟩ := Session.actOn_send hact
    cases hevent
  | borrow c' hsession =>
    refine ⟨_, h.extend (.borrow c') hsession (by simp [toldOn, Session.sent, Session.sentOn]) fun _ value hact => ?_⟩
    obtain ⟨event, hevent, -⟩ := Session.actOn_send hact
    cases hevent

theorem tracks_run {mode : CacheMode} {outside : σ} (c : EventChannel)
    (h : run (step decoders x registry reply) (new mode outside) acts = some s) :
    ∃ racts, Tracks decoders x registry reply c (new mode outside) s acts racts := by
  induction acts using List.reverseRecOn generalizing s with
  | nil =>
    cases h
    exact ⟨[], congrArg some (Session.view_start c .new).symm, rfl, fun _ before a after hsplit => by simp at hsplit⟩
  | append_singleton acts a ih =>
    obtain ⟨mid, hmid, hstep⟩ := run_concat_eq_some.mp h
    obtain ⟨racts, hracts⟩ := ih hmid
    exact hracts.step hmid hstep

/-! ## What a listener reads -/

/-- An event told on the channel was told by one of the tasks. -/
theorem toldBy_of_mem_toldOn {e : Option (ChannelEvent c)} (h : e ∈ s.toldOn c) :
    ∃ i event, e = some event ∧ (i, event.1) ∈ s.tasks.told := by
  obtain ⟨⟨i, told⟩, hmem, hsent⟩ := List.mem_filterMap.mp h
  simp only [Published.sent, Session.sentOn] at hsent
  split at hsent
  · next hc =>
    subst hc
    cases hsent
    exact ⟨i, _, rfl, hmem⟩
  · cases hsent

/-- Main result. **A listener reads what the tasks told**: whatever the order
of the tasks' accesses and of its own steps, every event it reads stands in
what some packet's notices come to; it reads the events of a channel in the
order they were told, each at most twice; caught up, it has read the last
one, and every one just once if it was caught up whenever one was told. -/
theorem deliveries_run (d : Directory) (x : IncomingContext) (hserver : x.server = d.toServer) (decoders : Decoders)
    (registry : List Logic) (hregistry : registry.Perm Logic.all) (reply : (r : IncomingRequest) → σ → r.Reply × σ)
    (outside : σ) (acts : List DeliveryAction) (s : Delivery σ)
    (h : run (step decoders x registry reply) (new x.mode outside) acts = some s) (c : EventChannel) :
    (∀ e ∈ s.session.read c, ∃ i packet event, e = some event ∧
      (Pool.spawned (acts.filterMap taskOf))[i]? = some packet ∧ event.1 ∈ s.tasks.toldBy i ∧
      TellsFirst x d reply (packet.events decoders x.strategy) (s.tasks.toldBy i)) ∧
    (s.session.read c).Sublist (Reader.twice (s.toldOn c)) ∧
    (s.session.CaughtUp c → (s.session.read c).getLast? = (s.toldOn c).getLast?) ∧
    (s.session.CaughtUp c → Calm decoders x registry reply c (new x.mode outside) acts →
      s.session.read c = s.toldOn c) := by
  obtain ⟨racts, hracts⟩ := tracks_run c h
  have hsublist : (s.session.read c).Sublist (Reader.twice (s.toldOn c)) := hracts.sent ▸ Reader.read_sublist hracts.reads
  have hkeeps := packets_keeps hserver hregistry (run_tasks h)
  refine ⟨fun e he => ?_, hsublist, fun hcaught => ?_, fun hcaught hcalm => ?_⟩
  · have htold : e ∈ s.toldOn c := by
      have hmem := hsublist.subset he
      simp only [Reader.twice, List.mem_flatMap, List.mem_cons, List.not_mem_nil, or_false, or_self] at hmem
      obtain ⟨e', he', rfl⟩ := hmem
      exact he'
    obtain ⟨i, event, rfl, hi⟩ := toldBy_of_mem_toldOn htold
    have hlt : i < (Pool.spawned (acts.filterMap taskOf)).length := hkeeps.length ▸ hkeeps.told_lt _ hi
    have hpacket := List.getElem?_eq_getElem hlt
    have hmeets := hkeeps.meets i _ _ hpacket (List.getElem?_eq_getElem (hkeeps.length ▸ hlt))
    refine ⟨i, _, event, rfl, hpacket, ?_, hmeets.sofar⟩
    exact List.mem_filterMap.mpr ⟨_, hi, if_pos rfl⟩
  · rw [← hracts.sent]
    exact Reader.read_getLast hracts.reads (Session.view_caughtUp.mpr hcaught)
  · rw [← hracts.sent]
    exact Reader.read_eq_sent hracts.reads (hracts.calm hcalm) (Session.view_caughtUp.mpr hcaught)

/-- The listener looks at the groups once the tasks are done. -/
def promotionReads : List DeliveryAction := promotionActs.map .task ++ [.changed .group, .borrow .group]

theorem deliveries_run_promotion :
    ∃ s, run (step promotionDecoders halfContext [.wt, .messaging, .caching] pagesOnly) (new .half ()) promotionReads =
      some s ∧
    s.session.read .group = [some ⟨.groupAdminChanged 700 20002 true, rfl⟩] ∧
    (s.session.read .group).Sublist (Reader.twice (s.toldOn .group)) := by
  refine ⟨_, rfl, rfl, ?_⟩
  have hrun := deliveries_run friendAndGroupDirectory halfContext rfl promotionDecoders [.wt, .messaging, .caching]
    (by decide) pagesOnly () promotionReads _ rfl .group
  exact hrun.2.1

end Delivery

end Mania
