/-
`next_sequence` of `packet.rs`: the threads that draw sequence numbers from
the one counter they share, one atomic operation at a time.

The first call claims the counter with a placeholder and stores a random
offset there; the others wait for it. `Stage` says where the counter is in
that, and every step of every thread keeps it (`inv_step`). So each value is
drawn once (`sequences_unique`).
-/
import Mathlib.Algebra.Group.Nat.Defs
import Mathlib.Data.Finset.Card
import Mania.Lib.Runs

namespace Mania.NextSequence

open Function Runs

/-- Where a thread is: in no call, or before the `store`, a `load` or the
`fetch_add` of one. -/
inductive Phase where
  | idle
  | claimed
  | spinning
  | adding
  deriving DecidableEq

/-- The atomic operations, each with the thread that does it. -/
inductive Action (ι : Type) where
  | compareExchange (i : ι)
  | store (i : ι) (offset : UInt32)
  | load (i : ι)
  | fetchAdd (i : ι)

/-- The counter, the threads, and the values returned so far. -/
structure State (ι : Type) where
  sequence : UInt32
  phase : ι → Phase
  returned : List UInt32

variable {ι : Type} [DecidableEq ι]

def init : State ι := { sequence := 0, phase := fun _ => .idle, returned := [] }

/-- One step. The offset stored is any that `random_range` can give. -/
def step (s : State ι) : Action ι → Option (State ι)
  | .compareExchange i =>
    match s.phase i with
    | .idle =>
      if s.sequence = 0 then some { s with sequence := 1, phase := update s.phase i .claimed }
      else some { s with phase := update s.phase i .spinning }
    | _ => none
  | .store i offset =>
    match s.phase i with
    | .claimed =>
      if 5000000 ≤ offset ∧ offset ≤ 9900000 then
        some { s with sequence := offset, phase := update s.phase i .adding }
      else none
    | _ => none
  | .load i =>
    match s.phase i with
    | .spinning =>
      if s.sequence = 1 then some s
      else some { s with phase := update s.phase i .adding }
    | _ => none
  | .fetchAdd i =>
    match s.phase i with
    | .adding => some
        { sequence := s.sequence + 1
          phase := update s.phase i .idle
          returned := s.returned ++ [s.sequence] }
    | _ => none

/-- A call begins with its `compare_exchange`. -/
def Action.begins {ι : Type} : Action ι → Bool
  | .compareExchange _ => true
  | _ => false

/-- How many calls have begun. -/
def calls {ι : Type} (acts : List (Action ι)) : Nat := acts.countP Action.begins

theorem calls_concat {ι : Type} (acts : List (Action ι)) (a : Action ι) :
    calls (acts ++ [a]) = calls acts + if a.begins then 1 else 0 := by
  rw [calls, List.countP_append, List.countP_singleton]
  rfl

/-! ## What a step does -/

variable {s s' : State ι} {i : ι}

theorem step_compareExchange (h : step s (.compareExchange i) = some s') :
    s.phase i = .idle ∧
      ((s.sequence = 0 ∧ s' = { s with sequence := 1, phase := update s.phase i .claimed }) ∨
        (s.sequence ≠ 0 ∧ s' = { s with phase := update s.phase i .spinning })) := by
  simp only [step] at h
  split at h
  · next hphase =>
    refine ⟨hphase, ?_⟩
    split at h
    · next hzero => exact .inl ⟨hzero, (Option.some.inj h).symm⟩
    · next hzero => exact .inr ⟨hzero, (Option.some.inj h).symm⟩
  · cases h

theorem step_store {offset : UInt32} (h : step s (.store i offset) = some s') :
    s.phase i = .claimed ∧ 5000000 ≤ offset.toNat ∧ offset.toNat ≤ 9900000 ∧
      s' = { s with sequence := offset, phase := update s.phase i .adding } := by
  simp only [step] at h
  split at h
  · next hphase =>
    split at h
    · next hrange =>
      obtain ⟨hlow, hhigh⟩ := hrange
      exact ⟨hphase, UInt32.le_iff_toNat_le.mp hlow, UInt32.le_iff_toNat_le.mp hhigh, (Option.some.inj h).symm⟩
    · cases h
  · cases h

theorem step_load (h : step s (.load i) = some s') :
    s.phase i = .spinning ∧
      ((s.sequence = 1 ∧ s' = s) ∨ (s.sequence ≠ 1 ∧ s' = { s with phase := update s.phase i .adding })) := by
  simp only [step] at h
  split at h
  · next hphase =>
    refine ⟨hphase, ?_⟩
    split at h
    · next hone => exact .inl ⟨hone, (Option.some.inj h).symm⟩
    · next hone => exact .inr ⟨hone, (Option.some.inj h).symm⟩
  · cases h

theorem step_fetchAdd (h : step s (.fetchAdd i) = some s') :
    s.phase i = .adding ∧ s' =
      { sequence := s.sequence + 1, phase := update s.phase i .idle, returned := s.returned ++ [s.sequence] } := by
  simp only [step] at h
  split at h
  · next hphase => exact ⟨hphase, (Option.some.inj h).symm⟩
  · cases h

/-! ## The invariant -/

/-- Where the counter is: nobody has called, one thread is to store the
offset and the others can only wait, or the values are counted up from it. -/
inductive Stage (s : State ι) : Prop
  | fresh (sequence : s.sequence = 0) (returned : s.returned = []) (idle : ∀ j, s.phase j = .idle)
  | claimed (i : ι) (sequence : s.sequence = 1) (returned : s.returned = []) (claimed : s.phase i = .claimed)
      (others : ∀ j, j ≠ i → s.phase j = .idle ∨ s.phase j = .spinning)
  | counting (offset : Nat) (low : 5000000 ≤ offset) (high : offset ≤ 9900000)
      (sequence : s.sequence.toNat = offset + s.returned.length)
      (returned : s.returned.map UInt32.toNat = List.range' offset s.returned.length)
      (unclaimed : ∀ j, s.phase j ≠ .claimed)

/-- Each call begun has returned or is the one its thread is in. -/
def Accounted (s : State ι) (calls : Nat) : Prop :=
  ∃ active : Finset ι, (∀ j, j ∈ active ↔ s.phase j ≠ .idle) ∧ s.returned.length + active.card = calls

/-- A thread that begins a call. -/
theorem Accounted.begin {calls : Nat} (h : Accounted s calls) (hidle : s.phase i = .idle)
    (hphase : ∃ p, p ≠ .idle ∧ s'.phase = update s.phase i p) (hreturned : s'.returned = s.returned) :
    Accounted s' (calls + 1) := by
  obtain ⟨active, hactive, hcard⟩ := h
  obtain ⟨p, hp, hphase⟩ := hphase
  have hnew : i ∉ active := fun hi => (hactive i).mp hi hidle
  refine ⟨insert i active, fun j => ?_, ?_⟩
  · rw [hphase, Finset.mem_insert, hactive, update_apply]
    by_cases hj : j = i <;> simp [hj, hp]
  · rw [hreturned, Finset.card_insert_of_notMem hnew]
    omega

/-- A thread that goes on in its call. -/
theorem Accounted.go {calls : Nat} (h : Accounted s calls) (hactive : s.phase i ≠ .idle)
    (hphase : ∃ p, p ≠ .idle ∧ s'.phase = update s.phase i p) (hreturned : s'.returned = s.returned) :
    Accounted s' calls := by
  obtain ⟨active, hmem, hcard⟩ := h
  obtain ⟨p, hp, hphase⟩ := hphase
  refine ⟨active, fun j => ?_, by rw [hreturned, hcard]⟩
  rw [hphase, hmem, update_apply]
  by_cases hj : j = i
  · simp [hj, hp, hactive]
  · simp [hj]

/-- A thread whose call returns. -/
theorem Accounted.return {calls : Nat} (h : Accounted s calls) (hactive : s.phase i ≠ .idle)
    (hphase : s'.phase = update s.phase i .idle) (hreturned : s'.returned.length = s.returned.length + 1) :
    s.returned.length < calls ∧ Accounted s' calls := by
  obtain ⟨active, hmem, hcard⟩ := h
  have hi : i ∈ active := (hmem i).mpr hactive
  have hpos := Finset.card_pos.mpr ⟨i, hi⟩
  refine ⟨by omega, active.erase i, fun j => ?_, ?_⟩
  · rw [hphase, Finset.mem_erase, hmem, update_apply]
    by_cases hj : j = i <;> simp [hj]
  · rw [hreturned, Finset.card_erase_of_mem hi]
    omega

/-- A thread that goes anywhere but to the `store` leaves no other there. -/
theorem update_ne_claimed {phase : ι → Phase} (h : ∀ j, phase j ≠ .claimed) {p : Phase} (hp : p ≠ .claimed) (i j : ι) :
    update phase i p j ≠ .claimed := by
  rw [update_apply]
  by_cases hj : j = i
  · simp [hj, hp]
  · simp [hj, h j]

theorem Stage.compareExchange (h : Stage s) (hstep : step s (.compareExchange i) = some s') : Stage s' := by
  obtain ⟨hidle, ⟨hzero, rfl⟩ | ⟨hzero, rfl⟩⟩ := step_compareExchange hstep
  · cases h with
    | fresh hsequence hreturned hall =>
      exact .claimed i rfl hreturned (update_self ..) fun j hj => .inl ((update_of_ne hj ..).trans (hall j))
    | claimed i' hsequence => simp [hsequence] at hzero
    | counting offset hlow hhigh hsequence =>
      rw [hzero] at hsequence
      simp at hsequence
      omega
  · cases h with
    | fresh hsequence => exact absurd hsequence hzero
    | claimed i' hsequence hreturned hclaimed hothers =>
      have hne : i' ≠ i := by
        rintro rfl
        simp [hidle] at hclaimed
      refine .claimed i' hsequence hreturned ((update_of_ne hne ..).trans hclaimed) fun j hj => ?_
      by_cases hji : j = i
      · simp [hji]
      · simpa [update_of_ne hji] using hothers j hj
    | counting offset hlow hhigh hsequence hreturned hunclaimed =>
      exact .counting offset hlow hhigh hsequence hreturned (update_ne_claimed hunclaimed (by simp) i)

/-- Only the thread that claimed the counter stores. -/
theorem Stage.store {offset : UInt32} (h : Stage s) (hstep : step s (.store i offset) = some s') : Stage s' := by
  obtain ⟨hclaimed, hlow, hhigh, rfl⟩ := step_store hstep
  cases h with
  | fresh hsequence hreturned hall => simp [hall i] at hclaimed
  | claimed i' hsequence hreturned hclaimed' hothers =>
    have heq : i = i' := by
      by_contra hne
      rcases hothers i hne with h | h <;> simp [h] at hclaimed
    refine .counting offset.toNat hlow hhigh (by simp [hreturned]) (by simp [hreturned]) fun j => ?_
    by_cases hji : j = i
    · simp [hji]
    · rcases hothers j (heq ▸ hji) with h | h <;> simp [update_of_ne hji, h]
  | counting _ _ _ _ _ hunclaimed => exact absurd hclaimed (hunclaimed i)

theorem Stage.load (h : Stage s) (hstep : step s (.load i) = some s') : Stage s' := by
  obtain ⟨hspinning, ⟨hone, rfl⟩ | ⟨hone, rfl⟩⟩ := step_load hstep
  · exact h
  · cases h with
    | fresh hsequence hreturned hall => simp [hall i] at hspinning
    | claimed i' hsequence => exact absurd hsequence hone
    | counting offset hlow hhigh hsequence hreturned hunclaimed =>
      exact .counting offset hlow hhigh hsequence hreturned (update_ne_claimed hunclaimed (by simp) i)

/-- The counter has room for one more. -/
theorem Stage.fetchAdd (h : Stage s) (hstep : step s (.fetchAdd i) = some s')
    (hroom : s.returned.length + 9900000 < 2 ^ 32 - 1) : Stage s' := by
  obtain ⟨hadding, rfl⟩ := step_fetchAdd hstep
  cases h with
  | fresh hsequence hreturned hall => simp [hall i] at hadding
  | claimed i' hsequence hreturned hclaimed hothers =>
    by_cases hii : i = i'
    · simp [hii, hclaimed] at hadding
    · rcases hothers i hii with h | h <;> simp [h] at hadding
  | counting offset hlow hhigh hsequence hreturned hunclaimed =>
    refine .counting offset hlow hhigh ?_ ?_ (update_ne_claimed hunclaimed (by simp) i)
    · rw [UInt32.toNat_add, hsequence, List.length_append]
      simp
      omega
    · rw [List.map_append, hreturned, List.length_append]
      simp [List.range'_concat, hsequence]

/-- A step keeps the stage, as long as the counter cannot run over. -/
theorem stage_step {a : Action ι} (h : Stage s) (hstep : step s a = some s')
    (hbound : ∀ i, a = .fetchAdd i → s.returned.length + 9900000 < 2 ^ 32 - 1) : Stage s' := by
  cases a with
  | compareExchange i => exact h.compareExchange hstep
  | store i offset => exact h.store hstep
  | load i => exact h.load hstep
  | fetchAdd i => exact h.fetchAdd hstep (hbound i rfl)

structure Inv (s : State ι) (calls : Nat) : Prop where
  stage : Stage s
  accounted : Accounted s calls

theorem accounted_step {a : Action ι} {acts : List (Action ι)} (h : Accounted s (calls acts))
    (hstep : step s a = some s') :
    Accounted s' (calls (acts ++ [a])) ∧ ∀ i, a = .fetchAdd i → s.returned.length < calls acts := by
  rw [calls_concat]
  cases a with
  | compareExchange i =>
    refine ⟨?_, by simp⟩
    obtain ⟨hidle, ⟨-, rfl⟩ | ⟨-, rfl⟩⟩ := step_compareExchange hstep
    · exact h.begin hidle ⟨.claimed, by simp, rfl⟩ rfl
    · exact h.begin hidle ⟨.spinning, by simp, rfl⟩ rfl
  | store i offset =>
    refine ⟨?_, by simp⟩
    obtain ⟨hclaimed, -, -, rfl⟩ := step_store hstep
    exact h.go (i := i) (by simp [hclaimed]) ⟨.adding, by simp, rfl⟩ rfl
  | load i =>
    refine ⟨?_, by simp⟩
    obtain ⟨hspinning, ⟨-, rfl⟩ | ⟨-, rfl⟩⟩ := step_load hstep
    · exact h
    · exact h.go (i := i) (by simp [hspinning]) ⟨.adding, by simp, rfl⟩ rfl
  | fetchAdd i =>
    obtain ⟨hadding, heq⟩ := step_fetchAdd hstep
    have hphase : s'.phase = update s.phase i .idle := by rw [heq]
    have hreturned : s'.returned.length = s.returned.length + 1 := by simp [heq]
    obtain ⟨hlt, hafter⟩ := h.return (by simp [hadding]) hphase hreturned
    exact ⟨hafter, fun _ _ => hlt⟩

theorem inv_step {a : Action ι} {acts : List (Action ι)} (h : Inv s (calls acts)) (hstep : step s a = some s')
    (hcalls : calls (acts ++ [a]) < 2 ^ 32 - 9900000) : Inv s' (calls (acts ++ [a])) := by
  obtain ⟨haccounted, hreturns⟩ := accounted_step h.accounted hstep
  refine ⟨stage_step h.stage hstep fun i hi => ?_, haccounted⟩
  have hlt := hreturns i hi
  rw [calls_concat] at hcalls
  omega

theorem inv_run {s : State ι} {acts : List (Action ι)} (h : run step init acts = some s)
    (hcalls : calls acts < 2 ^ 32 - 9900000) : Inv s (calls acts) := by
  refine Runs.induction (P := fun s acts => calls acts < 2 ^ 32 - 9900000 → Inv s (calls acts)) ?_ ?_ h hcalls
  · intro _
    exact ⟨.fresh rfl rfl fun _ => rfl, ∅, by simp [init], rfl⟩
  · intro s acts a s' hinv hstep hcalls
    refine inv_step (hinv ?_) hstep hcalls
    rw [calls_concat] at hcalls
    exact Nat.lt_of_le_of_lt (Nat.le_add_right ..) hcalls

/-- **Every interleaving.** The values that fewer than 2^32 - 9900000 calls
return are pairwise distinct, from 5000000 on and not the placeholder; and
while that is in the counter, some thread is about to store the offset. -/
theorem sequences_unique (acts : List (Action ι)) (s : State ι) (h : run step init acts = some s)
    (hcalls : calls acts < 2 ^ 32 - 9900000) :
    s.returned.Nodup ∧ (∀ n ∈ s.returned, 5000000 ≤ n) ∧ 1 ∉ s.returned ∧
      (s.sequence = 1 → ∃ i, s.phase i = .claimed) := by
  cases (inv_run h hcalls).stage with
  | fresh hsequence hreturned => simp [hsequence, hreturned]
  | claimed i hsequence hreturned hclaimed =>
    refine ⟨by simp [hreturned], by simp [hreturned], by simp [hreturned], fun _ => ⟨i, hclaimed⟩⟩
  | counting offset hlow hhigh hsequence hreturned =>
    have hlarge : ∀ n ∈ s.returned, 5000000 ≤ n := by
      intro n hn
      have hmem := List.mem_map_of_mem (f := UInt32.toNat) hn
      rw [hreturned, List.mem_range'_1] at hmem
      rw [UInt32.le_iff_toNat_le]
      exact Nat.le_trans hlow hmem.1
    refine ⟨?_, hlarge, ?_, ?_⟩
    · have hnodup : (s.returned.map UInt32.toNat).Nodup := hreturned ▸ List.nodup_range'
      exact hnodup.of_map
    · intro hone
      have hle := hlarge 1 hone
      simp [UInt32.le_iff_toNat_le] at hle
    · intro hone
      rw [hone] at hsequence
      simp at hsequence
      omega

/-- Two threads: the second calls while the first has claimed the counter. -/
def twoThreads : List (Action Bool) :=
  [.compareExchange false, .compareExchange true, .load true, .store false 5000000, .load true, .fetchAdd true,
    .fetchAdd false]

theorem twoThreads_unique : ∃ s, run step init twoThreads = some s ∧ s.returned = [5000000, 5000001] ∧
    s.returned.Nodup := by
  refine ⟨_, rfl, rfl, ?_⟩
  exact (sequences_unique twoThreads _ rfl (by decide)).1

end Mania.NextSequence
