/-
Runs of a system that takes one action at a time. `step s a` is `none`
when `a` cannot be taken in `s`. A property of the state and of the
actions taken so far is proved of every run from what it says before the
first action and from what one more action preserves.
-/
import Mathlib.Data.List.Induction

namespace Runs

variable {σ α : Type}

/-- Take the actions in order. -/
def run (step : σ → α → Option σ) (s : σ) (acts : List α) : Option σ := acts.foldlM step s

variable {step : σ → α → Option σ} {s s' : σ} {acts : List α} {a : α}

@[simp] theorem run_nil : run step s [] = some s := rfl

theorem run_cons : run step s (a :: acts) = (step s a).bind fun s' => run step s' acts := rfl

theorem run_append (acts' : List α) :
    run step s (acts ++ acts') = (run step s acts).bind fun s' => run step s' acts' := by
  simp [run, List.foldlM_append, Option.bind_eq_bind]

theorem run_concat_eq_some :
    run step s (acts ++ [a]) = some s' ↔ ∃ mid, run step s acts = some mid ∧ step mid a = some s' := by
  simp [run_append, run_cons, Option.bind_eq_some_iff]

/-- **The invariant rule**, for properties that look at the actions taken as
well as at the state. -/
theorem induction {P : σ → List α → Prop} {s₀ : σ} (init : P s₀ [])
    (preserved : ∀ s acts a s', P s acts → step s a = some s' → P s' (acts ++ [a]))
    (h : run step s₀ acts = some s) : P s acts := by
  induction acts using List.reverseRecOn generalizing s with
  | nil =>
    cases h
    exact init
  | append_singleton acts a ih =>
    obtain ⟨mid, hmid, hstep⟩ := run_concat_eq_some.mp h
    exact preserved mid acts a s (ih hmid) hstep

/-- One step, or none at all. -/
def StepOrStay (step : σ → α → Option σ) (s s' : σ) : Option α → Prop
  | some a => step s a = some s'
  | none => s' = s

/-- A run of a system is one of another, when each step is one there or
changes nothing there. -/
theorem run_filterMap {σ' α' : Type} {step' : σ' → α' → Option σ'} {f : σ → σ'} {g : α → Option α'}
    (hstep : ∀ s a s', step s a = some s' → StepOrStay step' (f s) (f s') (g a))
    (h : run step s acts = some s') : run step' (f s) (acts.filterMap g) = some (f s') := by
  induction acts generalizing s with
  | nil =>
    cases h
    rfl
  | cons a acts ih =>
    obtain ⟨mid, hmid, hrest⟩ := Option.bind_eq_some_iff.mp (run_cons ▸ h)
    have ha := hstep s a mid hmid
    have hrun := ih hrest
    rw [List.filterMap_cons]
    cases hg : g a with
    | none =>
      rw [hg] at ha
      rwa [← show f mid = f s from ha]
    | some b =>
      rw [hg] at ha
      rw [run_cons, show step' (f s) b = some (f mid) from ha]
      exact hrun

/-! ## A step in a run -/

/-- The run takes a step that is one of `P`. -/
def Occurs (step : σ → α → Option σ) (s : σ) (P : σ → α → Prop) (acts : List α) : Prop :=
  ∃ before a after mid, acts = before ++ a :: after ∧ run step s before = some mid ∧ P mid a

theorem not_occurs_nil {P : σ → α → Prop} : ¬ Occurs step s P [] := by
  rintro ⟨before, a, after, mid, heq, -, -⟩
  exact absurd heq (by simp)

/-- It is in the run up to the last action, or the last one. -/
theorem occurs_concat {P : σ → α → Prop} (h : run step s acts = some s') :
    Occurs step s P (acts ++ [a]) ↔ Occurs step s P acts ∨ P s' a := by
  constructor
  · rintro ⟨before, b, after, mid, heq, hmid, hb⟩
    rcases List.eq_nil_or_concat after with rfl | ⟨after, c, rfl⟩
    · obtain ⟨rfl, hlast⟩ := List.append_inj' heq rfl
      cases hlast
      cases h.symm.trans hmid
      exact .inr hb
    · rw [List.concat_eq_append, ← List.cons_append, ← List.append_assoc] at heq
      obtain ⟨rfl, -⟩ := List.append_inj' heq rfl
      exact .inl ⟨before, b, after, mid, rfl, hmid, hb⟩
  · rintro (⟨before, b, after, mid, rfl, hmid, hb⟩ | ha)
    · exact ⟨before, b, after ++ [a], mid, by simp, hmid, hb⟩
    · exact ⟨acts, a, [], s', rfl, h, ha⟩

end Runs
