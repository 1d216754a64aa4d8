/-
Every interleaving of `send_packet` calls and dispatch tasks
(`Mania.SendPacket`) hands each call at most one result, and the one of the
first packet with its sequence that looked the sequence up after the call
had inserted it.

`Status` is what the actions taken so far mean for one call, read off the
actions alone. `Refines` ties the state to it; every step keeps that.
-/
import Mathlib.Data.List.Count
import Mania.SendPacket

namespace Mania.SendState

open Function Runs

variable {ι τ ρ : Type}

/-- What a task finds when it looks its sequence up. -/
def found : Option ι → Dispatch ι
  | some tx => .took tx
  | none => .unclaimed

/-- The call a dispatch task has taken. -/
def claim : Dispatch ι → Option ι
  | .took tx | .sent tx | .panicked tx => some tx
  | _ => none

theorem claim_found (o : Option ι) : claim (found o) = o := by
  cases o <;> rfl

variable [DecidableEq ι]

/-- Before the insertion, after it, and once the first packet with the
sequence has looked it up. -/
inductive Status (τ : Type) where
  | absent
  | waiting
  | taken (t : τ)
  deriving DecidableEq

def statusStep (x : Traffic ι τ ρ) (i : ι) : Status τ → Action ι τ → Status τ
  | .absent, .insert j => if j = i then .waiting else .absent
  | .waiting, .take t => if x.inbound t = x.sequence i then .taken t else .waiting
  | st, _ => st

def status (x : Traffic ι τ ρ) (i : ι) (acts : List (Action ι τ)) : Status τ :=
  acts.foldl (statusStep x i) .absent

/-- Only insertions and lookups change a status. -/
theorem statusStep_eq {x : Traffic ι τ ρ} {i : ι} {st : Status τ} {a : Action ι τ}
    (hinsert : ∀ j, a ≠ .insert j) (htake : ∀ t, a ≠ .take t) : statusStep x i st a = st := by
  cases a with
  | insert j => exact absurd rfl (hinsert j)
  | take t => exact absurd rfl (htake t)
  | _ => cases st <;> rfl

@[simp] theorem status_concat (x : Traffic ι τ ρ) (i : ι) (acts : List (Action ι τ)) (a : Action ι τ) :
    status x i (acts ++ [a]) = statusStep x i (status x i acts) a := by
  simp [status]

/-! ## What a status says about the actions -/

/-- `i` is inserted, and no packet with its sequence has looked it up since. -/
def Outstanding (x : Traffic ι τ ρ) (acts : List (Action ι τ)) (i : ι) : Prop :=
  ∃ before after, acts = before ++ .insert i :: after ∧
    ∀ t, Action.take t ∈ after → x.inbound t ≠ x.sequence i

/-- `t` is the first packet with the sequence of `i` to look it up after the
insertion. -/
def FirstTaken (x : Traffic ι τ ρ) (acts : List (Action ι τ)) (i : ι) (t : τ) : Prop :=
  ∃ before between after, acts = before ++ .insert i :: (between ++ .take t :: after) ∧
    x.inbound t = x.sequence i ∧ ∀ t', Action.take t' ∈ between → x.inbound t' ≠ x.sequence i

theorem statusStep_eq_waiting {x : Traffic ι τ ρ} {i : ι} {st : Status τ} {a : Action ι τ} :
    statusStep x i st a = .waiting ↔
      (st = .absent ∧ a = .insert i) ∨ (st = .waiting ∧ ∀ t, a = .take t → x.inbound t ≠ x.sequence i) := by
  cases st <;> cases a <;> simp [statusStep]

theorem statusStep_eq_taken {x : Traffic ι τ ρ} {i : ι} {st : Status τ} {a : Action ι τ} {t : τ} :
    statusStep x i st a = .taken t ↔ (st = .waiting ∧ a = .take t ∧ x.inbound t = x.sequence i) ∨ st = .taken t := by
  cases st <;> cases a <;> simp [statusStep] <;> grind

theorem status_sound (x : Traffic ι τ ρ) (i : ι) (acts : List (Action ι τ)) :
    (status x i acts = .waiting → Outstanding x acts i) ∧
      ∀ t, status x i acts = .taken t → FirstTaken x acts i t := by
  induction acts using List.reverseRecOn with
  | nil => exact ⟨fun h => (nomatch h), fun t h => (nomatch h)⟩
  | append_singleton acts a ih =>
    obtain ⟨ihwaiting, ihtaken⟩ := ih
    rw [status_concat]
    constructor
    · intro h
      rcases statusStep_eq_waiting.mp h with ⟨-, rfl⟩ | ⟨hst, ha⟩
      · exact ⟨acts, [], rfl, by simp⟩
      · obtain ⟨before, after, rfl, hafter⟩ := ihwaiting hst
        refine ⟨before, after ++ [a], by simp, fun t ht => ?_⟩
        rcases List.mem_append.mp ht with ht | ht
        · exact hafter t ht
        · exact ha t (List.mem_singleton.mp ht).symm
    · intro t h
      rcases statusStep_eq_taken.mp h with ⟨hst, rfl, hseq⟩ | hst
      · obtain ⟨before, after, rfl, hafter⟩ := ihwaiting hst
        exact ⟨before, after, [], by simp, hseq, hafter⟩
      · obtain ⟨before, between, after, rfl, hseq, hbetween⟩ := ihtaken t hst
        exact ⟨before, between, after ++ [a], by simp, hseq, hbetween⟩

theorem foldl_statusStep_waiting {x : Traffic ι τ ρ} {i : ι} {acts : List (Action ι τ)}
    (h : ∀ t, Action.take t ∈ acts → x.inbound t ≠ x.sequence i) :
    acts.foldl (statusStep x i) .waiting = .waiting := by
  induction acts with
  | nil => rfl
  | cons a acts ih =>
    have hstep : statusStep x i .waiting a = .waiting :=
      statusStep_eq_waiting.mpr (.inr ⟨rfl, fun t ht => h t (by simp [ht])⟩)
    rw [List.foldl_cons, hstep]
    exact ih fun t ht => h t (List.mem_cons_of_mem a ht)

/-! ## What a step does -/

variable [DecidableEq τ]

theorem step_insert {x : Traffic ι τ ρ} {s s' : SendState ι τ ρ} {i : ι} (h : step x s (.insert i) = some s') :
    s.call i = .fresh ∧ s' = { s with
      requests := s.requests.insert (x.sequence i) i
      call := update s.call i .inserted } := by
  simp only [step] at h
  split at h
  · next hcall => exact ⟨hcall, by simpa using h.symm⟩
  · cases h

theorem step_post {x : Traffic ι τ ρ} {s s' : SendState ι τ ρ} {i : ι} {ok : Bool}
    (h : step x s (.post i ok) = some s') :
    s.call i = .inserted ∧
      s' = if ok then { s with call := update s.call i .awaiting }
        else { s with requests := s.requests.close i, call := update s.call i .left } := by
  simp only [step] at h
  split at h
  · next hcall => cases ok <;> exact ⟨hcall, by simpa using h.symm⟩
  · cases h

theorem step_await {x : Traffic ι τ ρ} {s s' : SendState ι τ ρ} {i : ι} (h : step x s (.await i) = some s') :
    s.call i = .awaiting ∧ ∃ r, s.requests.channel i = .full r ∧
      s' = { s with requests := s.requests.close i, call := update s.call i (.returned r) } := by
  simp only [step, Correlator.receive] at h
  split at h
  · next hcall hreceive =>
    split at hreceive
    · next hfull =>
      cases hreceive
      exact ⟨hcall, _, hfull, by simpa [Correlator.close] using h.symm⟩
    · cases hreceive
  · cases h

theorem step_drop {x : Traffic ι τ ρ} {s s' : SendState ι τ ρ} {i : ι} (h : step x s (.drop i) = some s') :
    (s.call i = .inserted ∨ s.call i = .awaiting) ∧
      s' = { s with requests := s.requests.close i, call := update s.call i .left } := by
  simp only [step] at h
  split at h
  · next hcall => exact ⟨.inl hcall, by simpa using h.symm⟩
  · next hcall => exact ⟨.inr hcall, by simpa using h.symm⟩
  · cases h

theorem step_dispatch {x : Traffic ι τ ρ} {s s' : SendState ι τ ρ} {t : τ} (h : step x s (.dispatch t) = some s') :
    s.task t = .fresh ∧ s' = { s with task := update s.task t .running } := by
  simp only [step] at h
  split at h
  · next htask => exact ⟨htask, by simpa using h.symm⟩
  · cases h

theorem step_take {x : Traffic ι τ ρ} {s s' : SendState ι τ ρ} {t : τ} (h : step x s (.take t) = some s') :
    s.task t = .running ∧ s' = { s with
      requests := { s.requests with pending := update s.requests.pending (x.inbound t) none }
      task := update s.task t (found (s.requests.pending (x.inbound t))) } := by
  simp only [step, Correlator.remove] at h
  split at h
  · next htask hremove =>
    simp only [Prod.mk.injEq] at hremove
    obtain ⟨hpending, rfl⟩ := hremove
    exact ⟨htask, by simpa [found, hpending] using h.symm⟩
  · next htask hremove =>
    simp only [Prod.mk.injEq] at hremove
    obtain ⟨hpending, rfl⟩ := hremove
    exact ⟨htask, by simpa [found, hpending] using h.symm⟩
  · cases h

theorem step_send {x : Traffic ι τ ρ} {s s' : SendState ι τ ρ} {t : τ} (h : step x s (.send t) = some s') :
    ∃ tx, s.task t = .took tx ∧
      (s' = { s with
          requests := { s.requests with channel := update s.requests.channel tx (.full (x.result t)) }
          task := update s.task t (.sent tx) } ∨
        s' = { s with task := update s.task t (.panicked tx) }) := by
  simp only [step, Correlator.send] at h
  split at h
  · next tx htask =>
    refine ⟨tx, htask, ?_⟩
    split at h
    · next hsend =>
      split at hsend
      · cases hsend
        exact .inl (by simpa using h.symm)
      · cases hsend
    · exact .inr (by simpa using h.symm)
  · cases h

/-! ## The state refines the status -/

/-- The state of the call `i` is what its status says. -/
structure Refines (x : Traffic ι τ ρ) (s : SendState ι τ ρ) (i : ι) (st : Status τ) : Prop where
  call : s.call i = .fresh ↔ st = .absent
  pending : s.requests.pending (x.sequence i) = some i ↔ st = .waiting
  claimed : ∀ t, claim (s.task t) = some i ↔ st = .taken t
  full : ∀ r, s.requests.channel i = .full r → ∃ t, st = .taken t ∧ r = x.result t
  returned : ∀ r, s.call i = .returned r → ∃ t, st = .taken t ∧ r = x.result t

/-- A pending sequence is the one of the call it is pending for. -/
def Addressed (x : Traffic ι τ ρ) (s : SendState ι τ ρ) : Prop :=
  ∀ n i, s.requests.pending n = some i → x.sequence i = n

theorem addressed_step {x : Traffic ι τ ρ} {s s' : SendState ι τ ρ} {a : Action ι τ} (hs : Addressed x s)
    (h : step x s a = some s') : Addressed x s' := by
  intro n i hn
  cases a with
  | insert j =>
    obtain ⟨-, rfl⟩ := step_insert h
    simp only [Correlator.insert, update_apply] at hn
    split at hn
    · next hseq =>
      cases hn
      exact hseq.symm
    · exact hs n i hn
  | post j ok =>
    obtain ⟨-, rfl⟩ := step_post h
    cases ok <;> exact hs n i hn
  | await j =>
    obtain ⟨-, r, -, rfl⟩ := step_await h
    exact hs n i hn
  | drop j =>
    obtain ⟨-, rfl⟩ := step_drop h
    exact hs n i hn
  | dispatch t =>
    obtain ⟨-, rfl⟩ := step_dispatch h
    exact hs n i hn
  | take t =>
    obtain ⟨-, rfl⟩ := step_take h
    simp only [update_apply] at hn
    split at hn
    · cases hn
    · exact hs n i hn
  | send t =>
    obtain ⟨tx, -, rfl | rfl⟩ := step_send h <;> exact hs n i hn

theorem refines_step {x : Traffic ι τ ρ} {s s' : SendState ι τ ρ} {a : Action ι τ} {i : ι} {st : Status τ}
    (haddr : Addressed x s) (hr : Refines x s i st) (h : step x s a = some s') :
    Refines x s' i (statusStep x i st a) := by
  obtain ⟨hcall, hpending, hclaimed, hfull, hreturned⟩ := hr
  cases a with
  | insert j =>
    obtain ⟨hfresh, rfl⟩ := step_insert h
    by_cases hij : j = i
    · subst hij
      obtain rfl := hcall.mp hfresh
      have hwaits : statusStep x j .absent (.insert j) = .waiting := by simp [statusStep]
      rw [hwaits]
      constructor <;> grind [update_apply]
    · have hne : x.sequence i ≠ x.sequence j := fun hseq => hij (x.distinct hseq).symm
      have hstays : statusStep x i st (.insert j) = st := by cases st <;> simp [statusStep, hij]
      rw [hstays]
      constructor <;> grind [update_apply]
  | post j ok =>
    obtain ⟨hinserted, rfl⟩ := step_post h
    rw [statusStep_eq (by simp) (by simp)]
    cases ok <;> constructor <;> grind [update_apply]
  | await j =>
    obtain ⟨hawaiting, r, hr, rfl⟩ := step_await h
    rw [statusStep_eq (by simp) (by simp)]
    constructor <;> grind [update_apply]
  | drop j =>
    obtain ⟨hleaves, rfl⟩ := step_drop h
    rw [statusStep_eq (by simp) (by simp)]
    constructor <;> grind [update_apply]
  | dispatch t =>
    obtain ⟨hfresh, rfl⟩ := step_dispatch h
    rw [statusStep_eq (by simp) (by simp)]
    constructor <;> grind [claim, update_apply]
  | take t =>
    obtain ⟨hrunning, rfl⟩ := step_take h
    -- The task finds `i` exactly when `i` waits and is the one addressed.
    have hfound : s.requests.pending (x.inbound t) = some i ↔ x.inbound t = x.sequence i ∧ st = .waiting := by
      constructor
      · intro hp
        have hseq := haddr _ _ hp
        exact ⟨hseq.symm, hpending.mp (hseq ▸ hp)⟩
      · rintro ⟨hseq, hst⟩
        exact hseq ▸ hpending.mpr hst
    have hclaim := claim_found (s.requests.pending (x.inbound t))
    by_cases hseq : x.inbound t = x.sequence i
    · cases st <;> constructor <;> grind [claim, statusStep, update_apply]
    · cases st <;> constructor <;> grind [claim, statusStep, update_apply]
  | send t =>
    obtain ⟨tx, htook, rfl | rfl⟩ := step_send h
    · rw [statusStep_eq (by simp) (by simp)]
      constructor <;> grind [claim, update_apply]
    · rw [statusStep_eq (by simp) (by simp)]
      constructor <;> grind [claim, update_apply]

theorem refines_run {x : Traffic ι τ ρ} {s : SendState ι τ ρ} {acts : List (Action ι τ)}
    (h : run (step x) init acts = some s) : Addressed x s ∧ ∀ i, Refines x s i (status x i acts) := by
  refine Runs.induction (P := fun s acts => Addressed x s ∧ ∀ i, Refines x s i (status x i acts)) ?_ ?_ h
  · refine ⟨fun _ _ h => (nomatch h), fun i => ?_⟩
    constructor <;> simp [init, Correlator.new, status, claim]
  · intro s acts a s' hs hstep
    refine ⟨addressed_step hs.1 hstep, fun i => ?_⟩
    rw [status_concat]
    exact refines_step hs.1 (hs.2 i) hstep

/-- In a run a call is inserted once, so what is outstanding waits. -/
theorem status_of_outstanding {x : Traffic ι τ ρ} {s : SendState ι τ ρ} {acts : List (Action ι τ)} {i : ι}
    (h : run (step x) init acts = some s) (ho : Outstanding x acts i) : status x i acts = .waiting := by
  obtain ⟨before, after, rfl, hafter⟩ := ho
  rw [run_append, Option.bind_eq_some_iff] at h
  obtain ⟨mid, hmid, h⟩ := h
  rw [run_cons, Option.bind_eq_some_iff] at h
  obtain ⟨_, hinsert, -⟩ := h
  have habsent : status x i before = .absent := ((refines_run hmid).2 i).call.mp (step_insert hinsert).1
  rw [status, List.foldl_append, List.foldl_cons]
  change List.foldl _ (statusStep x i (status x i before) (.insert i)) after = _
  rw [habsent, statusStep_eq_waiting.mpr (.inl ⟨rfl, rfl⟩), foldl_statusStep_waiting hafter]

/-! ## Results -/

/-- How many results a call has received. -/
def received : Call ρ → Nat
  | .returned _ => 1
  | _ => 0

theorem count_await {x : Traffic ι τ ρ} {s : SendState ι τ ρ} {acts : List (Action ι τ)}
    (h : run (step x) init acts = some s) (i : ι) : acts.count (.await i) = received (s.call i) := by
  refine Runs.induction (P := fun s acts => acts.count (.await i) = received (s.call i)) rfl ?_ h
  intro s acts a s' hcount hstep
  rw [List.count_append, hcount, List.count_singleton]
  cases a with
  | insert j =>
    obtain ⟨hfresh, rfl⟩ := step_insert hstep
    grind [received, update_apply]
  | post j ok =>
    obtain ⟨hinserted, rfl⟩ := step_post hstep
    cases ok <;> grind [received, update_apply]
  | await j =>
    obtain ⟨hawaiting, r, -, rfl⟩ := step_await hstep
    grind [received, update_apply]
  | drop j =>
    obtain ⟨hleaves, rfl⟩ := step_drop hstep
    grind [received, update_apply]
  | dispatch t =>
    obtain ⟨-, rfl⟩ := step_dispatch hstep
    simp
  | take t =>
    obtain ⟨-, rfl⟩ := step_take hstep
    simp
  | send t =>
    obtain ⟨tx, -, rfl | rfl⟩ := step_send hstep <;> simp

/-- **Every interleaving.** A call receives at most one result, and what it
is sent is the result of the first packet with its own sequence to look the
sequence up after the call inserted it. The pending sequences are those inserted and not looked up since. -/
theorem send_packet_run (x : Traffic ι τ ρ) (acts : List (Action ι τ)) (s : SendState ι τ ρ)
    (h : run (step x) init acts = some s) :
    (∀ i, acts.count (.await i) ≤ 1) ∧
      (∀ i r, s.requests.channel i = .full r ∨ s.call i = .returned r →
        ∃ t, FirstTaken x acts i t ∧ r = x.result t) ∧
      ∀ n i, s.requests.pending n = some i ↔ x.sequence i = n ∧ Outstanding x acts i := by
  obtain ⟨haddr, hrefines⟩ := refines_run h
  refine ⟨fun i => ?_, fun i r hr => ?_, fun n i => ⟨fun hp => ?_, fun ho => ?_⟩⟩
  · rw [count_await h]
    cases s.call i <;> simp [received]
  · obtain ⟨t, ht, hrt⟩ := hr.elim ((hrefines i).full r) ((hrefines i).returned r)
    exact ⟨t, (status_sound x i acts).2 t ht, hrt⟩
  · have hseq := haddr n i hp
    subst hseq
    exact ⟨rfl, (status_sound x i acts).1 ((hrefines i).pending.mp hp)⟩
  · obtain ⟨rfl, ho⟩ := ho
    exact (hrefines i).pending.mpr (status_of_outstanding h ho)

/-- One call and two packets with its sequence. -/
def racing : Traffic Unit Bool Bool where
  sequence := fun _ => 7
  distinct := fun _ _ _ => rfl
  inbound := fun _ => 7
  result := id

/-- The packet `false` is dispatched before the call inserts its sequence. -/
def racingRun : List (Action Unit Bool) :=
  [.dispatch false, .take false, .insert (), .post () true, .dispatch true, .take true, .send true, .await ()]

theorem racingRun_end : (run (step racing) init racingRun).map (fun s => s.call ()) = some (.returned true) := by
  decide

theorem send_packet_racing : ∃ t, FirstTaken racing racingRun () t ∧ true = racing.result t := by
  obtain ⟨s, hs, hcall⟩ := Option.map_eq_some_iff.mp racingRun_end
  exact (send_packet_run racing racingRun s hs).2.1 () true (.inr hcall)

/-- The first packet with the sequence that was dispatched at all. -/
def firstDispatched (x : Traffic ι τ ρ) (n : UInt32) (acts : List (Action ι τ)) : Option τ :=
  acts.findSome? fun a => match a with
    | .dispatch t => if x.inbound t = n then some t else none
    | _ => none

/-- A packet that came before the insertion is not the one received. -/
theorem firstDispatched_not_received :
    ¬ ∀ (x : Traffic Unit Bool Bool) (acts : List (Action Unit Bool)) (s : SendState Unit Bool Bool),
      run (step x) init acts = some s → ∀ i r, s.call i = .returned r →
      ∃ t, firstDispatched x (x.sequence i) acts = some t ∧ r = x.result t := by
  intro h
  obtain ⟨s, hs, hcall⟩ := Option.map_eq_some_iff.mp racingRun_end
  obtain ⟨t, hfirst, hr⟩ := h racing racingRun s hs () true hcall
  have hfalse : firstDispatched racing 7 racingRun = some false := by decide
  cases hfalse.symm.trans hfirst
  cases hr

end Mania.SendState
