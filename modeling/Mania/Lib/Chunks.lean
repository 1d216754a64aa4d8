/-
Lists cut into pieces of one length. The chunks of a list are its whole
pieces and, unless they cover it, one shorter piece (`chunks_eq`).
-/
import Mathlib.Algebra.Group.Nat.Defs
import Mathlib.Data.List.Basic

namespace Chunks

variable {α β : Type}

/-- The first `k` pieces of length `n`. -/
def pieces (n : Nat) : Nat → List α → List (List α)
  | 0, _ => []
  | k + 1, xs => xs.take n :: pieces n k (xs.drop n)

/-- `slice::chunks`: as many pieces as it takes, the last of which may be shorter. -/
def chunks (n : Nat) (xs : List α) : List (List α) := pieces n ((xs.length + n - 1) / n) xs

@[simp] theorem pieces_length (n k : Nat) (xs : List α) : (pieces n k xs).length = k := by
  induction k generalizing xs with
  | zero => rfl
  | succ k ih => rw [pieces, List.length_cons, ih]

theorem pieces_add (n j k : Nat) (xs : List α) :
    pieces n (j + k) xs = pieces n j xs ++ pieces n k (xs.drop (n * j)) := by
  induction j generalizing xs with
  | zero => rw [Nat.zero_add, Nat.mul_zero, List.drop_zero, pieces, List.nil_append]
  | succ j ih =>
    have hdrop : (xs.drop n).drop (n * j) = xs.drop (n * (j + 1)) := by
      rw [List.drop_drop, Nat.mul_succ, Nat.add_comm]
    rw [Nat.succ_add, pieces, ih, hdrop, pieces, List.cons_append]

theorem length_of_mem_pieces {n k : Nat} {xs piece : List α} (hk : n * k ≤ xs.length)
    (h : piece ∈ pieces n k xs) : piece.length = n := by
  induction k generalizing xs with
  | zero => cases h
  | succ k ih =>
    rw [Nat.mul_succ] at hk
    rw [pieces] at h
    rcases List.mem_cons.mp h with rfl | h
    · rw [List.length_take]
      omega
    · exact ih (by rw [List.length_drop]; omega) h

/-- The pieces of a list whose elements are written out, `m` for each. -/
theorem pieces_flatMap {f : α → List β} {m : Nat} (hf : ∀ a, (f a).length = m) {n k : Nat} {xs : List α}
    (hk : n * k ≤ xs.length) : pieces (n * m) k (xs.flatMap f) = (pieces n k xs).map (List.flatMap f) := by
  have hlen : ∀ ys : List α, (ys.flatMap f).length = ys.length * m := fun ys => by
    induction ys with
    | nil => simp
    | cons y ys ih => rw [List.flatMap_cons, List.length_append, hf, ih, List.length_cons, Nat.succ_mul, Nat.add_comm]
  induction k generalizing xs with
  | zero => rfl
  | succ k ih =>
    rw [Nat.mul_succ] at hk
    have htake : ((xs.take n).flatMap f).length = n * m := by
      rw [hlen, List.length_take, Nat.min_eq_left (by omega)]
    have hsplit : xs.flatMap f = (xs.take n).flatMap f ++ (xs.drop n).flatMap f := by
      rw [← List.flatMap_append, List.take_append_drop]
    rw [pieces, pieces, List.map_cons, hsplit, List.take_left' htake, List.drop_left' htake,
      ih (by rw [List.length_drop]; omega)]

theorem div_eq_of_bounds {m n k : Nat} (hlow : n * k ≤ m) (hhigh : m < n * k + n) : m / n = k :=
  Nat.div_eq_of_lt_le (by rwa [Nat.mul_comm]) (by rwa [Nat.succ_mul, Nat.mul_comm])

theorem chunks_eq {n : Nat} (hn : 0 < n) (xs : List α) :
    chunks n xs = pieces n (xs.length / n) xs ++
      if xs.length % n = 0 then [] else [xs.drop (n * (xs.length / n))] := by
  have hdiv := Nat.div_add_mod xs.length n
  have hmod := Nat.mod_lt xs.length hn
  split
  case isTrue h =>
    have hcount : (xs.length + n - 1) / n = xs.length / n := div_eq_of_bounds (by omega) (by omega)
    rw [chunks, hcount, List.append_nil]
  case isFalse h =>
    have hcount : (xs.length + n - 1) / n = xs.length / n + 1 :=
      div_eq_of_bounds (by rw [Nat.mul_succ]; omega) (by rw [Nat.mul_succ]; omega)
    have htake : (xs.drop (n * (xs.length / n))).take n = xs.drop (n * (xs.length / n)) := by
      apply List.take_of_length_le
      rw [List.length_drop]
      omega
    rw [chunks, hcount, pieces_add, pieces, pieces, htake]

end Chunks
