/-
What a `send_packet` call leaves in the pending requests, however it ends.

A call only inserts its entry; what removes it is the dispatch task of a
packet with its sequence. So a call that has ended is cleaned up after
exactly when such a packet had looked the sequence up (`cleanedUp_iff`). Left
there, the entry makes the next packet with the sequence panic
(`late_response_panics`).
-/
import Mania.SendPacketFacts

namespace Mania.SendState

open Function Runs

variable {ι τ ρ : Type}

/-- The steps a call ends with: its result is delivered, its packet is not
posted, or its future is dropped. -/
inductive Ends (i : ι) : Action ι τ → Prop
  | await : Ends i (.await i)
  | post : Ends i (.post i false)
  | drop : Ends i (.drop i)

/-! ## A status that stays -/

variable [DecidableEq ι]

theorem foldl_statusStep_taken (x : Traffic ι τ ρ) (i : ι) (t : τ) (acts : List (Action ι τ)) :
    acts.foldl (statusStep x i) (.taken t) = .taken t := by
  induction acts with
  | nil => rfl
  | cons a acts ih => exact ih

theorem status_append_taken {x : Traffic ι τ ρ} {i : ι} {t : τ} {acts : List (Action ι τ)}
    (h : status x i acts = .taken t) (acts' : List (Action ι τ)) : status x i (acts ++ acts') = .taken t := by
  rw [status, List.foldl_append, ← status, h]
  exact foldl_statusStep_taken x i t acts'

theorem Ends.statusStep_eq {x : Traffic ι τ ρ} {a : Action ι τ} {i : ι} (ha : Ends i a) (j : ι) (st : Status τ) :
    statusStep x j st a = st := by
  cases ha <;> exact SendState.statusStep_eq (by simp) (by simp)

variable [DecidableEq τ]

/-- In a run the first packet to look a sequence up is the one that takes it. -/
theorem status_of_firstTaken {x : Traffic ι τ ρ} {s : SendState ι τ ρ} {acts : List (Action ι τ)} {i : ι} {t : τ}
    (h : run (step x) init acts = some s) (ht : FirstTaken x acts i t) : status x i acts = .taken t := by
  obtain ⟨before, between, after, rfl, hseq, hbetween⟩ := ht
  have hacts : before ++ .insert i :: (between ++ .take t :: after) =
      (before ++ .insert i :: between) ++ ([.take t] ++ after) := by simp
  rw [hacts] at h ⊢
  rw [run_append, Option.bind_eq_some_iff] at h
  obtain ⟨mid, hmid, -⟩ := h
  have waiting := status_of_outstanding hmid ⟨before, between, rfl, hbetween⟩
  rw [← List.append_assoc]
  refine status_append_taken ?_ after
  rw [status_concat, waiting]
  exact statusStep_eq_taken.mpr (.inl ⟨rfl, rfl, hseq⟩)

/-! ## The step a call ends with -/

/-- Nothing pends under the sequence of `i`, and no packet with it that is
still to look it up can panic. -/
structure CleanedUp (x : Traffic ι τ ρ) (s : SendState ι τ ρ) (i : ι) : Prop where
  pending : s.requests.pending (x.sequence i) = none
  late : ∀ t, x.inbound t = x.sequence i → s.task t = .fresh ∨ s.task t = .running →
    ∀ acts s', run (step x) s acts = some s' → ∀ tx, s'.task t ≠ .panicked tx

theorem Ends.step_eq {x : Traffic ι τ ρ} {s s' : SendState ι τ ρ} {a : Action ι τ} {i : ι} (ha : Ends i a)
    (h : step x s a = some s') : s.call i ≠ .fresh ∧ s'.requests = s.requests.close i := by
  cases ha with
  | await =>
    obtain ⟨hcall, r, -, rfl⟩ := step_await h
    exact ⟨by simp [hcall], rfl⟩
  | post =>
    obtain ⟨hcall, rfl⟩ := step_post h
    exact ⟨by simp [hcall], rfl⟩
  | drop =>
    obtain ⟨hcall, rfl⟩ := step_drop h
    exact ⟨by rcases hcall with hcall | hcall <;> simp [hcall], rfl⟩

/-- A packet panics only over a call with its own sequence. -/
theorem sequence_of_panicked {x : Traffic ι τ ρ} {s : SendState ι τ ρ} {acts : List (Action ι τ)} {t : τ} {tx : ι}
    (h : run (step x) init acts = some s) (ht : s.task t = .panicked tx) :
    status x tx acts = .taken t ∧ x.inbound t = x.sequence tx := by
  have taken := (((refines_run h).2 tx).claimed t).mp (by simp [claim, ht])
  obtain ⟨before, between, after, -, hseq, -⟩ := (status_sound x tx acts).2 t taken
  exact ⟨taken, hseq⟩

/-- Once a packet has looked the sequence up, no other can panic over it. -/
theorem cleanedUp_of_taken {x : Traffic ι τ ρ} {s : SendState ι τ ρ} {acts : List (Action ι τ)} {i : ι} {t : τ}
    (h : run (step x) init acts = some s) (htaken : status x i acts = .taken t) : CleanedUp x s i := by
  obtain ⟨haddr, hrefines⟩ := refines_run h
  constructor
  · cases hp : s.requests.pending (x.sequence i) with
    | none => rfl
    | some j =>
      have hij : j = i := x.distinct (haddr _ _ hp)
      subst hij
      have waiting := (hrefines j).pending.mp hp
      rw [htaken] at waiting
      cases waiting
  · intro t' hseq hlate acts' s' hrun tx hpanicked
    have hall : run (step x) init (acts ++ acts') = some s' := by
      rw [run_append, h]
      exact hrun
    obtain ⟨htx, htxseq⟩ := sequence_of_panicked hall hpanicked
    have htx' : tx = i := x.distinct (htxseq.symm.trans hseq)
    subst htx'
    -- Then `t'` is the packet that had taken the sequence, and is past looking it up.
    have same := (status_append_taken htaken acts').symm.trans htx
    cases same
    have claimed := ((hrefines tx).claimed t).mpr htaken
    rcases hlate with hlate | hlate <;> simp [hlate, claim] at claimed

/-- An entry whose call has ended makes the next packet with its sequence panic. -/
theorem late_response_panics {x : Traffic ι τ ρ} {s : SendState ι τ ρ} {i : ι} {t : τ}
    (hpending : s.requests.pending (x.inbound t) = some i) (hclosed : s.requests.channel i = .closed)
    (ht : s.task t = .fresh) :
    ∃ s', run (step x) s [.dispatch t, .take t, .send t] = some s' ∧ s'.task t = .panicked i := by
  simp [run, step, Correlator.remove, Correlator.send, ht, hpending, hclosed]

/-- **Every run.** A call that has ended is cleaned up after exactly when a
packet with its sequence had looked the sequence up since the call inserted
it. -/
theorem cleanedUp_iff (x : Traffic ι τ ρ) (acts : List (Action ι τ)) (a : Action ι τ) (s : SendState ι τ ρ) (i : ι)
    (h : run (step x) init (acts ++ [a]) = some s) (ha : Ends i a) :
    CleanedUp x s i ↔ ∃ t, FirstTaken x acts i t := by
  obtain ⟨mid, hmid, hstep⟩ := run_concat_eq_some.mp h
  have hrefines := (refines_run hmid).2 i
  obtain ⟨hcall, hrequests⟩ := ha.step_eq hstep
  constructor
  · intro hclean
    cases hst : status x i acts with
    | absent => exact absurd (hrefines.call.mpr hst) hcall
    | waiting =>
      have kept : s.requests.pending (x.sequence i) = some i := by
        rw [hrequests]
        exact hrefines.pending.mpr hst
      cases hclean.pending.symm.trans kept
    | taken t => exact ⟨t, (status_sound x i acts).2 t hst⟩
  · rintro ⟨t, ht⟩
    have taken := status_of_firstTaken hmid ht
    refine cleanedUp_of_taken h (t := t) ?_
    rw [status_concat, taken, ha.statusStep_eq]

/-- The socket is closed when the packet of the call is posted. -/
def closedSocketRun : List (Action Unit Bool) := [.insert (), .post () false]

theorem closedSocketRun_end :
    (run (step racing) init closedSocketRun).map (fun s => (s.requests.pending 7, s.requests.channel (), s.task true)) =
      some (some (), .closed, .fresh) := by
  decide

/-- The entry stays, and the response panics when it comes after all. -/
theorem closedSocketRun_not_cleanedUp :
    ∃ s, run (step racing) init closedSocketRun = some s ∧ ¬ CleanedUp racing s () ∧
      ∃ s', run (step racing) s [.dispatch true, .take true, .send true] = some s' ∧ s'.task true = .panicked () := by
  obtain ⟨s, hs, hend⟩ := Option.map_eq_some_iff.mp closedSocketRun_end
  simp only [Prod.mk.injEq] at hend
  obtain ⟨hpending, hclosed, hfresh⟩ := hend
  refine ⟨s, hs, fun hclean => ?_, late_response_panics hpending hclosed hfresh⟩
  cases hclean.pending.symm.trans hpending

/-- A call whose result was delivered is cleaned up after. -/
theorem racingRun_cleanedUp : ∃ s, run (step racing) init racingRun = some s ∧ CleanedUp racing s () := by
  obtain ⟨s, hs, -⟩ := Option.map_eq_some_iff.mp racingRun_end
  have first : FirstTaken racing racingRun.dropLast () true :=
    ⟨[.dispatch false, .take false], [.post () true, .dispatch true], [.send true], rfl, rfl, by simp⟩
  exact ⟨s, hs, (cleanedUp_iff racing racingRun.dropLast (.await ()) s () hs .await).mpr ⟨true, first⟩⟩

end Mania.SendState
