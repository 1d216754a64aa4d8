/-
Hashing by blocks: a compression function over the `N`-byte blocks of a
message, in order.

`chaining` is the state after all whole blocks of a byte string. Whoever
has passed on blocks `bl` and holds less than a block of a byte string
`join bl ++ rest` has computed it (`chaining_join`), however the bytes came
in.
-/
import Mathlib.Data.List.GetD
import Mania.Lib.Bytes

namespace MerkleDamgard

variable {σ : Type} {N : Nat}

/-- The first `N` bytes. -/
def block (N : Nat) (bs : Bytes) : Vector UInt8 N := Vector.ofFn fun i => bs.getD i 0

/-- The first `n` blocks. -/
def blocks (N : Nat) : Nat → Bytes → List (Vector UInt8 N)
  | 0, _ => []
  | n + 1, bs => block N bs :: blocks N n (bs.drop N)

/-- The bytes of blocks. -/
def join (bl : List (Vector UInt8 N)) : Bytes := bl.flatMap Vector.toList

@[simp] theorem join_nil : join ([] : List (Vector UInt8 N)) = [] := rfl

@[simp] theorem join_cons (b : Vector UInt8 N) (bl : List (Vector UInt8 N)) : join (b :: bl) = b.toList ++ join bl := rfl

@[simp] theorem join_append (x y : List (Vector UInt8 N)) : join (x ++ y) = join x ++ join y := List.flatMap_append

@[simp] theorem join_length (bl : List (Vector UInt8 N)) : (join bl).length = N * bl.length := by
  induction bl with
  | nil => rfl
  | cons b bl ih =>
    rw [join_cons, List.length_append, ih, Vector.length_toList, List.length_cons, Nat.mul_succ]
    omega

theorem block_append (b : Vector UInt8 N) (rest : Bytes) : block N (b.toList ++ rest) = b := by
  apply Vector.ext
  intro i hi
  have hlen : i < b.toList.length := by simpa using hi
  simp only [block, Vector.getElem_ofFn]
  rw [List.getD_eq_getElem _ _ (by simp; omega), List.getElem_append_left hlen, Vector.getElem_toList]

theorem blocks_join (bl : List (Vector UInt8 N)) (rest : Bytes) : blocks N bl.length (join bl ++ rest) = bl := by
  induction bl with
  | nil => rfl
  | cons b bl ih =>
    have hdrop : (b.toList ++ (join bl ++ rest)).drop N = join bl ++ rest := List.drop_left' (by simp)
    rw [List.length_cons, join_cons, List.append_assoc, blocks, block_append, hdrop, ih]

theorem length_div_of_join {bl : List (Vector UInt8 N)} {bs rest : Bytes} (hbs : bs = join bl ++ rest)
    (hrest : rest.length < N) : bs.length / N = bl.length := by
  rw [hbs, List.length_append, join_length, Nat.mul_add_div (by omega), Nat.div_eq_of_lt hrest, Nat.add_zero]

/-- The state after the whole blocks of a byte string. -/
def chaining (compress : σ → Vector UInt8 N → σ) (h : σ) (bs : Bytes) : σ :=
  (blocks N (bs.length / N) bs).foldl compress h

variable {compress : σ → Vector UInt8 N → σ} {h : σ}

/-- Whole blocks, and less than one more. -/
theorem chaining_join (bl : List (Vector UInt8 N)) {rest : Bytes} (hrest : rest.length < N) :
    chaining compress h (join bl ++ rest) = bl.foldl compress h := by
  rw [chaining, length_div_of_join rfl hrest, blocks_join]

/-- The whole blocks of a byte string, and the rest of it. -/
theorem exists_join (hN : 0 < N) (bs : Bytes) :
    ∃ (bl : List (Vector UInt8 N)) (rest : Bytes), bs = join bl ++ rest ∧ rest.length < N := by
  induction hlen : bs.length using Nat.strongRecOn generalizing bs with
  | ind n ih =>
    by_cases hshort : bs.length < N
    · exact ⟨[], bs, rfl, hshort⟩
    · obtain ⟨bl, rest, hbs, hrest⟩ := ih (bs.drop N).length (by simp; omega) (bs.drop N) rfl
      have htake : (bs.take N).toArray.size = N := by simp; omega
      refine ⟨⟨(bs.take N).toArray, htake⟩ :: bl, rest, ?_, hrest⟩
      rw [join_cons, List.append_assoc, ← hbs]
      simp

/-- The blocks and the rest, computed. -/
theorem join_blocks (hN : 0 < N) (bs : Bytes) :
    join (blocks N (bs.length / N) bs) ++ bs.drop (N * (bs.length / N)) = bs ∧
      (bs.drop (N * (bs.length / N))).length < N := by
  obtain ⟨bl, rest, hbs, hrest⟩ := exists_join hN bs
  have hcount := length_div_of_join hbs hrest
  have hblocks : blocks N (bs.length / N) bs = bl := by rw [hcount, hbs, blocks_join]
  have hdrop : bs.drop (N * (bs.length / N)) = rest := by
    rw [hcount, hbs]
    exact List.drop_left' (join_length bl)
  rw [hblocks, hdrop, ← hbs]
  exact ⟨rfl, hrest⟩

end MerkleDamgard
