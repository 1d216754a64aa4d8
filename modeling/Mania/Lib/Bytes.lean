/-
Byte strings: unsigned integers in big-endian order, and reading them off
the front of a buffer. A read that wants more than is left panics, as the
reads of a byte buffer do in Rust.
-/
import Mathlib.Data.List.Induction
import Mania.Lib.Outcome

abbrev Bytes := List UInt8

namespace Bytes

/-- The last `k` base-256 digits of `n`, most significant first. -/
def toBE : Nat → Nat → Bytes
  | 0, _ => []
  | k + 1, n => toBE k (n / 256) ++ [UInt8.ofNat n]

/-- The number with these base-256 digits, most significant first. -/
def ofBE (bs : Bytes) : Nat := bs.foldl (fun acc b => acc * 256 + b.toNat) 0

@[simp] theorem toBE_length (k n : Nat) : (toBE k n).length = k := by
  induction k generalizing n with
  | zero => rfl
  | succ k ih => simp [toBE, ih]

@[simp] theorem ofBE_nil : ofBE [] = 0 := rfl

theorem ofBE_concat (bs : Bytes) (b : UInt8) : ofBE (bs ++ [b]) = ofBE bs * 256 + b.toNat := by
  simp [ofBE]

theorem ofBE_lt (bs : Bytes) : ofBE bs < 256 ^ bs.length := by
  induction bs using List.reverseRecOn with
  | nil => simp
  | append_singleton bs b ih =>
    have hb := b.toNat_lt
    rw [ofBE_concat, List.length_append, List.length_singleton, Nat.pow_succ]
    omega

theorem ofBE_toBE (k n : Nat) : ofBE (toBE k n) = n % 256 ^ k := by
  induction k generalizing n with
  | zero => simp [toBE, Nat.mod_one]
  | succ k ih =>
    have hlast : (UInt8.ofNat n).toNat = n % 256 := by simp
    rw [toBE, ofBE_concat, ih, hlast, Nat.pow_succ', Nat.mod_mul]
    omega

theorem toBE_ofBE (bs : Bytes) : toBE bs.length (ofBE bs) = bs := by
  induction bs using List.reverseRecOn with
  | nil => rfl
  | append_singleton bs b ih =>
    have hb := b.toNat_lt
    have hdiv : (ofBE bs * 256 + b.toNat) / 256 = ofBE bs := by omega
    have hmod : UInt8.ofNat (ofBE bs * 256 + b.toNat) = b := by
      apply UInt8.toNat_inj.mp
      simp only [UInt8.toNat_ofNat']
      omega
    rw [List.length_append, List.length_singleton, toBE, ofBE_concat, hdiv, ih, hmod]

/-! ## Machine words -/

def be16 (n : UInt16) : Bytes := toBE 2 n.toNat
def be32 (n : UInt32) : Bytes := toBE 4 n.toNat
def be64 (n : UInt64) : Bytes := toBE 8 n.toNat

def ofBE16 (bs : Bytes) : UInt16 := UInt16.ofNat (ofBE bs)
def ofBE32 (bs : Bytes) : UInt32 := UInt32.ofNat (ofBE bs)
def ofBE64 (bs : Bytes) : UInt64 := UInt64.ofNat (ofBE bs)

@[simp] theorem be16_length (n : UInt16) : (be16 n).length = 2 := toBE_length ..
@[simp] theorem be32_length (n : UInt32) : (be32 n).length = 4 := toBE_length ..
@[simp] theorem be64_length (n : UInt64) : (be64 n).length = 8 := toBE_length ..

@[simp] theorem ofBE16_be16 (n : UInt16) : ofBE16 (be16 n) = n := by
  have h := n.toNat_lt
  rw [ofBE16, be16, ofBE_toBE, Nat.mod_eq_of_lt (by omega), UInt16.ofNat_toNat]

@[simp] theorem ofBE32_be32 (n : UInt32) : ofBE32 (be32 n) = n := by
  have h := n.toNat_lt
  rw [ofBE32, be32, ofBE_toBE, Nat.mod_eq_of_lt (by omega), UInt32.ofNat_toNat]

@[simp] theorem ofBE64_be64 (n : UInt64) : ofBE64 (be64 n) = n := by
  have h := n.toNat_lt
  rw [ofBE64, be64, ofBE_toBE, Nat.mod_eq_of_lt (by omega), UInt64.ofNat_toNat]

theorem be16_ofBE16 {bs : Bytes} (h : bs.length = 2) : be16 (ofBE16 bs) = bs := by
  have hlt := ofBE_lt bs
  rw [h] at hlt
  rw [be16, ofBE16, UInt16.toNat_ofNat_of_lt' (by simpa using hlt), ← h, toBE_ofBE]

theorem be32_ofBE32 {bs : Bytes} (h : bs.length = 4) : be32 (ofBE32 bs) = bs := by
  have hlt := ofBE_lt bs
  rw [h] at hlt
  rw [be32, ofBE32, UInt32.toNat_ofNat_of_lt' (by simpa using hlt), ← h, toBE_ofBE]

theorem be64_ofBE64 {bs : Bytes} (h : bs.length = 8) : be64 (ofBE64 bs) = bs := by
  have hlt := ofBE_lt bs
  rw [h] at hlt
  rw [be64, ofBE64, UInt64.toNat_ofNat_of_lt' (by simpa using hlt), ← h, toBE_ofBE]

theorem be32_append_inj {m n : UInt32} {x y : Bytes} (h : be32 m ++ x = be32 n ++ y) : m = n ∧ x = y := by
  obtain ⟨hmn, rfl⟩ := List.append_inj h (by simp)
  have hn : ofBE32 (be32 m) = ofBE32 (be32 n) := congrArg ofBE32 hmn
  exact ⟨by simpa using hn, rfl⟩

/-- The first `n` 64-bit words of `bs`. -/
def words64 : Nat → Bytes → List UInt64
  | 0, _ => []
  | n + 1, bs => ofBE64 (bs.take 8) :: words64 n (bs.drop 8)

@[simp] theorem words64_length (n : Nat) (bs : Bytes) : (words64 n bs).length = n := by
  induction n generalizing bs with
  | zero => rfl
  | succ n ih => simp [words64, ih]

@[simp] theorem flatMap_be64_length (ws : List UInt64) : (ws.flatMap be64).length = 8 * ws.length := by
  induction ws with
  | nil => rfl
  | cons w ws ih => simp [ih]; omega

theorem words64_flatMap (ws : List UInt64) : words64 ws.length (ws.flatMap be64) = ws := by
  induction ws with
  | nil => rfl
  | cons w ws ih => simp [words64, ih]

theorem flatMap_words64 {n : Nat} {bs : Bytes} (h : bs.length = 8 * n) :
    (words64 n bs).flatMap be64 = bs := by
  induction n generalizing bs with
  | zero => simpa [words64, eq_comm] using h
  | succ n ih =>
    have h8 : (bs.take 8).length = 8 := by simp; omega
    rw [words64, List.flatMap_cons, be64_ofBE64 h8, ih (by simp; omega), List.take_append_drop]

end Bytes

/-- A computation that reads off the front of a buffer. -/
abbrev Cursor (ε α : Type) := StateT Bytes (Outcome ε) α

namespace Cursor

open Bytes

variable {ε α β : Type}

/-- `split_to`: the first `n` bytes. -/
def splitTo (n : Nat) : Cursor ε Bytes := fun bs =>
  if n ≤ bs.length then .ok (bs.take n, bs.drop n) else .panic

/-- `split_off(0)`: whatever is left. -/
def rest : Cursor ε Bytes := fun bs => .ok (bs, [])

/-- `advance`. -/
def advance (n : Nat) : Cursor ε Unit := fun bs =>
  if n ≤ bs.length then .ok ((), bs.drop n) else .panic

def getU8 : Cursor ε UInt8 := fun bs => match bs with
  | b :: bs => .ok (b, bs)
  | [] => .panic

def getU16 : Cursor ε UInt16 := ofBE16 <$> splitTo 2
def getU32 : Cursor ε UInt32 := ofBE32 <$> splitTo 4
def getU64 : Cursor ε UInt64 := ofBE64 <$> splitTo 8

theorem splitTo_append {n : Nat} {x : Bytes} (h : x.length = n) (bs : Bytes) :
    (splitTo n : Cursor ε Bytes).run (x ++ bs) = .ok (x, bs) := by
  subst h
  simp [StateT.run, splitTo]

theorem splitTo_eq_ok {n : Nat} {bs x bs' : Bytes} :
    (splitTo n : Cursor ε Bytes).run bs = .ok (x, bs') ↔ bs = x ++ bs' ∧ x.length = n := by
  constructor
  · intro h
    simp only [StateT.run, splitTo] at h
    split at h
    · next hn =>
      cases h
      exact ⟨(List.take_append_drop n bs).symm, by simp [hn]⟩
    · cases h
  · rintro ⟨rfl, hx⟩
    exact splitTo_append hx bs'

@[simp] theorem splitTo_ne_err {n : Nat} {bs : Bytes} {e : ε} :
    (splitTo n : Cursor ε Bytes).run bs ≠ .err e := by
  simp only [StateT.run, splitTo]
  split <;> simp

@[simp] theorem rest_run (bs : Bytes) : (rest : Cursor ε Bytes).run bs = .ok (bs, []) := rfl

theorem advance_eq_ok {n : Nat} {bs bs' : Bytes} :
    (advance n : Cursor ε Unit).run bs = .ok ((), bs') ↔ n ≤ bs.length ∧ bs' = bs.drop n := by
  simp only [StateT.run, advance]
  split
  · simp_all [eq_comm]
  · simp; omega

@[simp] theorem getU8_cons (b : UInt8) (bs : Bytes) : (getU8 : Cursor ε UInt8).run (b :: bs) = .ok (b, bs) := rfl

theorem getU8_eq_ok {bs bs' : Bytes} {b : UInt8} :
    (getU8 : Cursor ε UInt8).run bs = .ok (b, bs') ↔ bs = b :: bs' := by
  cases bs <;> simp [StateT.run, getU8]

@[simp] theorem getU8_ne_err {bs : Bytes} {e : ε} : (getU8 : Cursor ε UInt8).run bs ≠ .err e := by
  cases bs <;> simp [StateT.run, getU8]

@[simp] theorem getU16_be16 (n : UInt16) (bs : Bytes) :
    (getU16 : Cursor ε UInt16).run (be16 n ++ bs) = .ok (n, bs) := by
  simp [getU16, splitTo_append]

@[simp] theorem getU32_be32 (n : UInt32) (bs : Bytes) :
    (getU32 : Cursor ε UInt32).run (be32 n ++ bs) = .ok (n, bs) := by
  simp [getU32, splitTo_append]

@[simp] theorem getU64_be64 (n : UInt64) (bs : Bytes) :
    (getU64 : Cursor ε UInt64).run (be64 n ++ bs) = .ok (n, bs) := by
  simp [getU64, splitTo_append]

theorem getU32_eq_ok {bs bs' : Bytes} {n : UInt32} :
    (getU32 : Cursor ε UInt32).run bs = .ok (n, bs') ↔ bs = be32 n ++ bs' := by
  constructor
  · intro h
    simp only [getU32, StateT.run_map, Outcome.map_eq_ok, Prod.exists, Prod.mk.injEq] at h
    obtain ⟨x, _, hx, rfl, rfl⟩ := h
    obtain ⟨rfl, hlen⟩ := splitTo_eq_ok.mp hx
    rw [be32_ofBE32 hlen]
  · rintro rfl
    exact getU32_be32 n bs'

/-! ## Going on after a read -/

/-- A computation that never answers an error. -/
def Errorless (r : Cursor ε α) : Prop := ∀ bs e, r.run bs ≠ .err e

theorem errorless_splitTo (n : Nat) : Errorless (splitTo n : Cursor ε Bytes) := fun _ _ => splitTo_ne_err

theorem errorless_rest : Errorless (rest : Cursor ε Bytes) := by
  intro bs e h
  cases h

theorem errorless_getU8 : Errorless (getU8 : Cursor ε UInt8) := fun _ _ => getU8_ne_err

theorem Errorless.map {r : Cursor ε α} (h : Errorless r) (f : α → β) : Errorless (f <$> r) := by
  intro bs e he
  rw [StateT.run_map] at he
  cases hr : r.run bs with
  | ok p => simp [hr] at he
  | err e' => exact h bs e' hr
  | panic => simp [hr] at he

theorem errorless_getU32 : Errorless (getU32 : Cursor ε UInt32) := (errorless_splitTo 4).map ofBE32

theorem Errorless.bind {r : Cursor ε α} (h : Errorless r) {k : α → Cursor ε β} (hk : ∀ a, Errorless (k a)) :
    Errorless (r >>= k) := by
  intro bs e he
  rw [StateT.run_bind, Outcome.bind_eq_err] at he
  rcases he with he | ⟨p, _, he⟩
  · exact h bs e he
  · exact hk p.1 p.2 e he

theorem errorless_lift {o : Outcome ε α} (h : ∀ e, o ≠ .err e) : Errorless (StateT.lift o : Cursor ε α) := by
  intro bs e he
  cases ho : o with
  | ok a => simp [ho, StateT.run_lift] at he
  | err e' => exact h e' ho
  | panic => simp [ho, StateT.run_lift] at he

/-- What follows an errorless read is free of panics if the read succeeds
and the rest is. -/
theorem Errorless.bind_ne_panic {r : Cursor ε α} (h : Errorless r) {k : α → Cursor ε β} {bs : Bytes} :
    (r >>= k).run bs ≠ .panic ↔ ∃ a bs', r.run bs = .ok (a, bs') ∧ (k a).run bs' ≠ .panic := by
  rw [StateT.run_bind]
  cases hr : r.run bs with
  | ok p =>
    obtain ⟨a, bs'⟩ := p
    simp
  | err e => exact absurd hr (h bs e)
  | panic => simp

theorem lift_bind_ne_panic {o : Outcome ε α} {k : α → Cursor ε β} {bs : Bytes} :
    ((StateT.lift o : Cursor ε α) >>= k).run bs ≠ .panic ↔
      (∃ e, o = .err e) ∨ ∃ a, o = .ok a ∧ (k a).run bs ≠ .panic := by
  rw [StateT.run_bind, StateT.run_lift]
  cases o <;> simp

end Cursor
