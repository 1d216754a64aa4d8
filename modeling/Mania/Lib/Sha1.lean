/-
SHA-1, as the standard defines it: the compression function over 64-byte
blocks, the padding, and the digest of a byte string of fewer than 2^61
bytes.
-/
import Mania.Lib.MerkleDamgard

namespace Sha1

open Bytes MerkleDamgard

abbrev Block := Vector UInt8 64

/-- The five words of the chaining state. -/
structure State where
  a : UInt32
  b : UInt32
  c : UInt32
  d : UInt32
  e : UInt32
  deriving DecidableEq, Repr

namespace State

def words (s : State) : List UInt32 := [s.a, s.b, s.c, s.d, s.e]

def add (s t : State) : State :=
  { a := s.a + t.a, b := s.b + t.b, c := s.c + t.c, d := s.d + t.d, e := s.e + t.e }

/-- The words most significant byte first: what a digest is. -/
def toBE (s : State) : Bytes := s.words.flatMap be32

/-- The words least significant byte first. -/
def toLE (s : State) : Bytes := s.words.flatMap fun w => (be32 w).reverse

end State

def initial : State := { a := 0x67452301, b := 0xEFCDAB89, c := 0x98BADCFE, d := 0x10325476, e := 0xC3D2E1F0 }

/-! ## The compression function -/

def rotl (k x : UInt32) : UInt32 := x <<< k ||| x >>> (32 - k)

/-- The function of round `t`. -/
def f (t : Nat) (b c d : UInt32) : UInt32 :=
  if t < 20 then (b &&& c) ||| (~~~b &&& d)
  else if t < 40 then b ^^^ c ^^^ d
  else if t < 60 then (b &&& c) ||| (b &&& d) ||| (c &&& d)
  else b ^^^ c ^^^ d

/-- The constant of round `t`. -/
def k (t : Nat) : UInt32 :=
  if t < 20 then 0x5A827999 else if t < 40 then 0x6ED9EBA1 else if t < 60 then 0x8F1BBCDC else 0xCA62C1D6

def round (t : Nat) (w : UInt32) (s : State) : State :=
  { a := rotl 5 s.a + f t s.b s.c s.d + s.e + k t + w, b := s.a, c := rotl 30 s.b, d := s.c, e := s.d }

/-- The last `n` of the 80 rounds. `w` is the message schedule from the
word of the first of them on, sixteen words at a time. -/
def rounds : Nat → List UInt32 → State → State
  | 0, _, s => s
  | n + 1, w, s =>
    let next := rotl 1 (w.getD 13 0 ^^^ w.getD 8 0 ^^^ w.getD 2 0 ^^^ w.getD 0 0)
    rounds n (w.tail ++ [next]) (round (79 - n) (w.getD 0 0) s)

/-- The sixteen words of a block. -/
def schedule (b : Block) : List UInt32 :=
  (List.range 16).map fun i => ofBE32 ((b.toList.drop (4 * i)).take 4)

def compress (s : State) (b : Block) : State := s.add (rounds 80 (schedule b) s)

/-! ## The digest -/

/-- Padding of a byte string `bs`, of which `tail` is not compressed yet: a
one bit, zeros up to the last eight bytes of a block, and the length in
bits. -/
def padded (tail : Bytes) (bits : Nat) : Bytes :=
  tail ++ 0x80 :: List.replicate ((119 - tail.length % 64) % 64) 0 ++ Bytes.toBE 8 bits

def hash (bs : Bytes) : Bytes := (chaining compress initial (padded bs (8 * bs.length))).toBE

example : hash [0x61, 0x62, 0x63] =
    [0xA9, 0x99, 0x3E, 0x36, 0x47, 0x06, 0x81, 0x6A, 0xBA, 0x3E, 0x25, 0x71, 0x78, 0x50, 0xC2, 0x6C, 0x9C, 0xD0,
      0xD8, 0x9D] := by
  decide +kernel

theorem padded_length (tail : Bytes) (bits : Nat) : (padded tail bits).length % 64 = 0 := by
  simp only [padded, List.length_append, List.length_cons, List.length_replicate, toBE_length]
  omega

/-- The zeros fill the block, so their number is no choice. -/
theorem eq_padded {tail : Bytes} {zeros bits : Nat} (hzeros : zeros < 64)
    (hlen : (tail ++ 0x80 :: List.replicate zeros 0 ++ Bytes.toBE 8 bits).length % 64 = 0) :
    tail ++ 0x80 :: List.replicate zeros 0 ++ Bytes.toBE 8 bits = padded tail bits := by
  simp only [List.length_append, List.length_cons, List.length_replicate, toBE_length] at hlen
  have hcount : zeros = (119 - tail.length % 64) % 64 := by omega
  rw [padded, ← hcount]

/-- Whole blocks before the tail stay before its padding. -/
theorem padded_join (bl : List Block) (tail : Bytes) (bits : Nat) :
    padded (join bl ++ tail) bits = join bl ++ padded tail bits := by
  have hmod : (join bl ++ tail).length % 64 = tail.length % 64 := by
    rw [List.length_append, join_length, Nat.mul_add_mod]
  simp only [padded, hmod, List.append_assoc]

/-- The digest from the state after some of the blocks, and the blocks
that the padded tail is. -/
theorem hash_of_blocks {bs : Bytes} {bl last : List Block} {tail : Bytes} (hbs : bs = join bl ++ tail)
    (hlast : join last = padded tail (8 * bs.length)) :
    hash bs = (last.foldl compress (bl.foldl compress initial)).toBE := by
  have hpad : padded bs (8 * bs.length) = join (bl ++ last) ++ [] := by
    rw [List.append_nil, join_append, hlast, ← padded_join, ← hbs]
  rw [hash, hpad, chaining_join _ (by decide), List.foldl_append]

end Sha1
