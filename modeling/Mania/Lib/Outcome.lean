/-
What a call of a Rust function that answers a `Result` can do: return a
value, return an error, or panic. A function with no `Result` in its type
is an `Outcome` over any error type that never is an `err`.
-/
import Mathlib.Algebra.Group.Nat.Defs
import Mathlib.Data.List.Forall2
import Mathlib.Logic.Basic
import Mathlib.Tactic.Attr.Core

/-- A returned value, a returned error, or a panic. -/
inductive Outcome (ε : Type) (α : Type) where
  | ok (a : α)
  | err (e : ε)
  | panic
  deriving DecidableEq, Repr

namespace Outcome

variable {ε α β γ : Type}

/-- What follows a call, with `?` on its error. -/
def bind : Outcome ε α → (α → Outcome ε β) → Outcome ε β
  | ok a, f => f a
  | err e, _ => err e
  | panic, _ => panic

instance : Monad (Outcome ε) where
  pure := ok
  bind := bind

@[simp] theorem pure_eq (a : α) : (pure a : Outcome ε α) = ok a := rfl
@[simp] theorem ok_bind (a : α) (f : α → Outcome ε β) : (ok a >>= f) = f a := rfl
@[simp] theorem err_bind (e : ε) (f : α → Outcome ε β) : (err e >>= f) = err e := rfl
@[simp] theorem panic_bind (f : α → Outcome ε β) : ((panic : Outcome ε α) >>= f) = panic := rfl
@[simp] theorem map_ok (f : α → β) (a : α) : f <$> (ok a : Outcome ε α) = ok (f a) := rfl
@[simp] theorem map_err (f : α → β) (e : ε) : f <$> (err e : Outcome ε α) = err e := rfl
@[simp] theorem map_panic (f : α → β) : f <$> (panic : Outcome ε α) = panic := rfl

/-- After an `OptionT` step that answers. -/
@[simp] theorem elimM_some (a : α) (x : Outcome ε β) (f : α → Outcome ε β) : Option.elimM (ok (some a)) x f = f a := rfl

instance : LawfulMonad (Outcome ε) :=
  LawfulMonad.mk' _ (fun x => by cases x <;> rfl) (fun _ _ => rfl) (fun x _ _ => by cases x <;> rfl)

theorem bind_eq_ok {x : Outcome ε α} {f : α → Outcome ε β} {b : β} :
    (x >>= f) = ok b ↔ ∃ a, x = ok a ∧ f a = ok b := by
  cases x <;> simp

theorem bind_eq_err {x : Outcome ε α} {f : α → Outcome ε β} {e : ε} :
    (x >>= f) = err e ↔ x = err e ∨ ∃ a, x = ok a ∧ f a = err e := by
  cases x <;> simp

theorem bind_eq_panic {x : Outcome ε α} {f : α → Outcome ε β} :
    (x >>= f) = panic ↔ x = panic ∨ ∃ a, x = ok a ∧ f a = panic := by
  cases x <;> simp

/-- Only the first of two steps can panic. -/
theorem bind_eq_panic_left {x : Outcome ε α} {f : α → Outcome ε β} (h : ∀ a, f a ≠ panic) :
    (x >>= f) = panic ↔ x = panic := by
  simp [bind_eq_panic, h]

theorem bind_ne_panic {x : Outcome ε α} {f : α → Outcome ε β} (hx : x ≠ panic) (hf : ∀ a, f a ≠ panic) :
    (x >>= f) ≠ panic :=
  fun h => hx ((bind_eq_panic_left hf).mp h)

theorem map_eq_ok {x : Outcome ε α} {f : α → β} {b : β} :
    f <$> x = ok b ↔ ∃ a, x = ok a ∧ f a = b := by
  cases x <;> simp

theorem map_eq_panic {x : Outcome ε α} {f : α → β} : f <$> x = panic ↔ x = panic := by
  cases x <;> simp

theorem mapM_mem_ok {f : α → Outcome ε β} {as : List α} {bs : List β} (h : as.mapM f = ok bs) {a : α} (ha : a ∈ as) :
    ∃ b ∈ bs, f a = ok b := by
  induction as generalizing bs with
  | nil => cases ha
  | cons a' as ih =>
    rw [List.mapM_cons, bind_eq_ok] at h
    obtain ⟨b, hfirst, hrest⟩ := h
    obtain ⟨bs', hbs, hcons⟩ := bind_eq_ok.mp hrest
    cases hcons
    rcases List.mem_cons.mp ha with rfl | ha
    · exact ⟨b, List.mem_cons_self, hfirst⟩
    · obtain ⟨b', hb', hok⟩ := ih hbs ha
      exact ⟨b', List.mem_cons_of_mem b hb', hok⟩

theorem exists_mapM_ok {f : α → Outcome ε β} {as : List α} (h : ∀ a ∈ as, ∃ b, f a = ok b) : ∃ bs, as.mapM f = ok bs := by
  induction as with
  | nil => exact ⟨[], rfl⟩
  | cons a as ih =>
    obtain ⟨b, hb⟩ := h a List.mem_cons_self
    obtain ⟨bs, hbs⟩ := ih fun a' ha' => h a' (List.mem_cons_of_mem a ha')
    refine ⟨b :: bs, ?_⟩
    rw [List.mapM_cons, hb, ok_bind, hbs]
    rfl

/-- `Result::map_err`. -/
def mapErr {ε' : Type} (f : ε → ε') : Outcome ε α → Outcome ε' α
  | ok a => ok a
  | err e => err (f e)
  | panic => panic

@[simp] theorem mapErr_ok {ε' : Type} (f : ε → ε') (a : α) : (ok a : Outcome ε α).mapErr f = ok a := rfl
@[simp] theorem mapErr_err {ε' : Type} (f : ε → ε') (e : ε) : (err e : Outcome ε α).mapErr f = err (f e) := rfl
@[simp] theorem mapErr_panic {ε' : Type} (f : ε → ε') : (panic : Outcome ε α).mapErr f = panic := rfl

theorem mapErr_eq_ok {ε' : Type} {f : ε → ε'} {x : Outcome ε α} {a : α} : x.mapErr f = ok a ↔ x = ok a := by
  cases x <;> simp

@[simp] theorem mapErr_eq_panic {ε' : Type} {f : ε → ε'} {x : Outcome ε α} :
    x.mapErr f = panic ↔ x = panic := by
  cases x <;> simp

/-- `Option::ok_or`. -/
def okOr (e : ε) : Option α → Outcome ε α
  | some a => ok a
  | none => err e

@[simp] theorem okOr_some (e : ε) (a : α) : okOr e (some a) = ok a := rfl
@[simp] theorem okOr_none (e : ε) : okOr e (none : Option α) = err e := rfl

@[simp] theorem okOr_eq_ok {e : ε} {o : Option α} {a : α} : okOr e o = ok a ↔ o = some a := by
  cases o <;> simp

@[simp] theorem okOr_ne_panic (e : ε) (o : Option α) : okOr e o ≠ panic := by
  cases o <;> simp

/-- `Option::expect` and `Option::unwrap`. -/
def expect : Option α → Outcome ε α
  | some a => ok a
  | none => panic

@[simp] theorem expect_some (a : α) : (expect (some a) : Outcome ε α) = ok a := rfl
@[simp] theorem expect_none : (expect none : Outcome ε α) = panic := rfl

theorem expect_eq_ok {o : Option α} {a : α} : (expect o : Outcome ε α) = ok a ↔ o = some a := by
  cases o <;> simp

/-- An operation that panics unless `p`. -/
def guard (p : Prop) [Decidable p] : Outcome ε Unit := if p then ok () else panic

theorem guard_pos {p : Prop} [Decidable p] (h : p) : (guard p : Outcome ε Unit) = ok () := if_pos h
theorem guard_neg {p : Prop} [Decidable p] (h : ¬ p) : (guard p : Outcome ε Unit) = panic := if_neg h

@[simp] theorem guard_eq_ok {p : Prop} [Decidable p] {u : Unit} : (guard p : Outcome ε Unit) = ok u ↔ p := by
  by_cases h : p <;> simp [guard, h]

@[simp] theorem guard_eq_panic {p : Prop} [Decidable p] : (guard p : Outcome ε Unit) = panic ↔ ¬ p := by
  by_cases h : p <;> simp [guard, h]

@[simp] theorem guard_ne_err {p : Prop} [Decidable p] {e : ε} : (guard p : Outcome ε Unit) ≠ err e := by
  by_cases h : p <;> simp [guard, h]

/-- `if p { return Err(e) }`. -/
def refuse (p : Prop) [Decidable p] (e : ε) : Outcome ε Unit := if p then err e else ok ()

@[simp] theorem refuse_eq_ok {p : Prop} [Decidable p] {e : ε} {u : Unit} : refuse p e = ok u ↔ ¬ p := by
  by_cases h : p <;> simp [refuse, h]

@[simp] theorem refuse_ne_panic {p : Prop} [Decidable p] {e : ε} : refuse p e ≠ panic := by
  by_cases h : p <;> simp [refuse, h]

theorem refuse_ne_self {a : α} [DecidableEq α] {e : ε} : refuse (a ≠ a) e = ok () :=
  refuse_eq_ok.mpr fun h => h rfl

/-- `a - b` on an unsigned type: an underflow panics. -/
def sub (a b : Nat) : Outcome ε Nat := do
  guard (b ≤ a)
  ok (a - b)

theorem sub_ok {a b : Nat} (h : b ≤ a) : (sub a b : Outcome ε Nat) = ok (a - b) := by
  simp [sub, guard_pos h]

/-- `a + b` on an unsigned type of `w` bits: an overflow panics. -/
def add (w a b : Nat) : Outcome ε Nat := do
  guard (a + b < 2 ^ w)
  ok (a + b)

theorem add_ok {w a b : Nat} (h : a + b < 2 ^ w) : (add w a b : Outcome ε Nat) = ok (a + b) := by
  simp [add, guard_pos h]

theorem add_panic {w a b : Nat} (h : ¬ a + b < 2 ^ w) : (add w a b : Outcome ε Nat) = panic := by
  simp [add, guard_neg h]

/-- `a * b`, likewise. -/
def mul (w a b : Nat) : Outcome ε Nat := do
  guard (a * b < 2 ^ w)
  ok (a * b)

theorem mul_ok {w a b : Nat} (h : a * b < 2 ^ w) : (mul w a b : Outcome ε Nat) = ok (a * b) := by
  simp [mul, guard_pos h]

/-! ## Slices -/

/-- `&xs[b..e]`. -/
def slice (xs : List α) (b e : Nat) : Outcome ε (List α) := do
  guard (b ≤ e ∧ e ≤ xs.length)
  ok ((xs.take e).drop b)

theorem slice_ok {xs : List α} {b e : Nat} (h : b ≤ e ∧ e ≤ xs.length) :
    (slice xs b e : Outcome ε (List α)) = ok ((xs.take e).drop b) := by
  simp [slice, guard_pos h]

@[simp] theorem slice_eq_panic {xs : List α} {b e : Nat} :
    (slice xs b e : Outcome ε (List α)) = panic ↔ ¬ (b ≤ e ∧ e ≤ xs.length) := by
  simp [slice, bind_eq_panic]

/-- `xs[i]`. -/
def index (xs : List α) (i : Nat) : Outcome ε α := expect xs[i]?

theorem index_ok {xs : List α} {i : Nat} (h : i < xs.length) : (index xs i : Outcome ε α) = ok xs[i] := by
  simp [index, h]

@[simp] theorem index_eq_panic {xs : List α} {i : Nat} :
    (index xs i : Outcome ε α) = panic ↔ xs.length ≤ i := by
  rcases Nat.lt_or_ge i xs.length with h | h
  · simp [index_ok h, h]
  · simp [index, h]

/-- `xs[i] = a`. -/
def setIndex (xs : List α) (i : Nat) (a : α) : Outcome ε (List α) := do
  guard (i < xs.length)
  ok (xs.set i a)

theorem setIndex_ok {xs : List α} {i : Nat} (h : i < xs.length) (a : α) :
    (setIndex xs i a : Outcome ε (List α)) = ok (xs.set i a) := by
  simp [setIndex, guard_pos h]

/-- `xs[b..e].copy_from_slice(src)`. -/
def copyFromSlice (xs : List α) (b e : Nat) (src : List α) : Outcome ε (List α) := do
  guard (b ≤ e ∧ e ≤ xs.length)
  guard (src.length = e - b)
  ok (xs.take b ++ src ++ xs.drop e)

theorem copyFromSlice_ok {xs src : List α} {b e : Nat} (h : b ≤ e ∧ e ≤ xs.length)
    (hs : src.length = e - b) :
    (copyFromSlice xs b e src : Outcome ε (List α)) = ok (xs.take b ++ src ++ xs.drop e) := by
  simp [copyFromSlice, guard_pos h, guard_pos hs]

/-- Copying over a stretch of the same length. -/
theorem copyFromSlice_append {a mid c src : List α} {b e : Nat} (hb : b = a.length)
    (he : e = a.length + mid.length) (hs : src.length = mid.length) :
    (copyFromSlice (a ++ (mid ++ c)) b e src : Outcome ε (List α)) = ok (a ++ (src ++ c)) := by
  subst hb he
  rw [copyFromSlice_ok (by simp) (by omega)]
  simp [← List.drop_drop]

/-! ## The first that answers -/

/-- Try one after the other, where `None` is `err ()`. -/
def firstSome : List (Outcome Unit α) → Outcome Unit α
  | [] => err ()
  | ok a :: _ => ok a
  | err () :: xs => firstSome xs
  | panic :: _ => panic

/-- Whether a call answers, and whether it panics. -/
structure Outlook where
  answers : Bool
  panics : Bool

/-- Whether trying one after the other gets to a panic: nothing answers
before it. -/
def Outlook.reachesPanic : List Outlook → Bool
  | [] => false
  | o :: os => o.panics || (!o.answers && reachesPanic os)

/-- The outlook of a call is what the call does. -/
structure Fits (x : Outcome Unit α) (o : Outlook) : Prop where
  panics : x = panic ↔ o.panics = true
  answers : (∃ a, x = ok a) ↔ o.answers = true

namespace Fits

theorem ok (a : α) : Fits (.ok a) { answers := true, panics := false } := ⟨by simp, by simp⟩

theorem err : Fits (.err () : Outcome Unit α) { answers := false, panics := false } := ⟨by simp, by simp⟩

theorem panic : Fits (.panic : Outcome Unit α) { answers := false, panics := true } := ⟨by simp, by simp⟩

theorem map {x : Outcome Unit α} {o : Outlook} (h : Fits x o) (f : α → β) : Fits (f <$> x) o where
  panics := by rw [map_eq_panic, h.panics]
  answers := by
    rw [← h.answers]
    cases x <;> simp

/-- A step that is there or answers `None`, before one that does not panic. -/
theorem okOr_bind {o : Option β} {f : β → Outcome Unit α} {answers : β → Bool}
    (h : ∀ b, Fits (f b) { answers := answers b, panics := false }) :
    Fits (okOr () o >>= f) { answers := o.any answers, panics := false } := by
  cases o with
  | none => exact err
  | some b => exact h b

theorem okOr_map {o : Option β} {f : β → α} :
    Fits (okOr () o >>= fun b => .ok (f b)) { answers := o.isSome, panics := false } := by
  cases o with
  | none => exact err
  | some b => exact ok (f b)

/-- How the call ends, and what its outlook says then. -/
theorem cases {x : Outcome Unit α} {o : Outlook} (h : Fits x o) :
    (x = .panic ∧ o.panics = true) ∨ (∃ a, x = .ok a ∧ o.answers = true ∧ o.panics = false) ∨
      (x = .err () ∧ o.answers = false ∧ o.panics = false) := by
  have hp := h.panics
  have ha := h.answers
  cases x with
  | ok a =>
    simp only [reduceCtorEq, false_iff, Bool.not_eq_true] at hp
    simp only [ok.injEq, exists_eq', true_iff] at ha
    exact .inr (.inl ⟨a, rfl, ha, hp⟩)
  | err e =>
    simp only [reduceCtorEq, false_iff, Bool.not_eq_true] at hp
    simp only [reduceCtorEq, exists_false, false_iff, Bool.not_eq_true] at ha
    exact .inr (.inr ⟨rfl, ha, hp⟩)
  | panic => exact .inl ⟨rfl, hp.mp rfl⟩

end Fits

theorem firstSome_eq_panic {xs : List (Outcome Unit α)} {os : List Outlook} (h : List.Forall₂ Fits xs os) :
    firstSome xs = panic ↔ Outlook.reachesPanic os = true := by
  induction h with
  | nil => simp [firstSome, Outlook.reachesPanic]
  | @cons x o xs os hx _ ih =>
    rcases hx.cases with ⟨rfl, hp⟩ | ⟨a, rfl, ha, hp⟩ | ⟨rfl, ha, hp⟩
    · simp [firstSome, Outlook.reachesPanic, hp]
    · simp [firstSome, Outlook.reachesPanic, hp, ha]
    · simp [firstSome, Outlook.reachesPanic, hp, ha, ih]

end Outcome
