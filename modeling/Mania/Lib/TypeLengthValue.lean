/-
Sets of entries with a tag, a length and a value, behind their count, all
numbers `u16` in big-endian order.
-/
import Mania.Lib.Bytes

namespace TypeLengthValue

open Bytes

structure Entry where
  tag : UInt16
  value : Bytes
  fits : value.length < 65536

def Entry.toBytes (e : Entry) : Bytes := be16 e.tag ++ (be16 (UInt16.ofNat e.value.length) ++ e.value)

def toStream (entries : List Entry) : Bytes := be16 (UInt16.ofNat entries.length) ++ entries.flatMap Entry.toBytes

/-! ## Parsing -/

def readU16 (bs : Bytes) : Option (UInt16 × Bytes) :=
  if 2 ≤ bs.length then some (ofBE16 (bs.take 2), bs.drop 2) else none

theorem length_take_lt (length : UInt16) (bs : Bytes) : (bs.take length.toNat).length < 65536 := by
  have hlt := length.toNat_lt
  have htake := List.length_take_le length.toNat bs
  omega

def readEntry (bs : Bytes) : Option (Entry × Bytes) := do
  let (tag, bs) ← readU16 bs
  let (length, bs) ← readU16 bs
  if length.toNat ≤ bs.length then
    some ({ tag, value := bs.take length.toNat, fits := length_take_lt length bs }, bs.drop length.toNat)
  else none

def readEntries : Nat → Bytes → Option (List Entry × Bytes)
  | 0, bs => some ([], bs)
  | count + 1, bs => do
    let (e, bs) ← readEntry bs
    let (entries, bs) ← readEntries count bs
    some (e :: entries, bs)

/-- The entries of a stream with no bytes left over. -/
def parse (bs : Bytes) : Option (List Entry) := do
  let (count, bs) ← readU16 bs
  let (entries, bs) ← readEntries count.toNat bs
  if bs = [] then some entries else none

theorem readU16_be16 (n : UInt16) (rest : Bytes) : readU16 (be16 n ++ rest) = some (n, rest) := by
  rw [readU16, if_pos (by simp), List.take_left' (be16_length n), List.drop_left' (be16_length n), ofBE16_be16]

theorem readEntry_toBytes (e : Entry) (rest : Bytes) : readEntry (e.toBytes ++ rest) = some (e, rest) := by
  have hlength : (UInt16.ofNat e.value.length).toNat = e.value.length := UInt16.toNat_ofNat_of_lt' e.fits
  simp only [readEntry, Entry.toBytes, List.append_assoc, readU16_be16, Option.bind_eq_bind, Option.bind_some, hlength]
  rw [if_pos (by simp)]
  simp

theorem readEntries_flatMap (entries : List Entry) (rest : Bytes) :
    readEntries entries.length (entries.flatMap Entry.toBytes ++ rest) = some (entries, rest) := by
  induction entries with
  | nil => rfl
  | cons e entries ih =>
    rw [List.flatMap_cons, List.append_assoc, List.length_cons, readEntries, readEntry_toBytes]
    simp only [Option.bind_eq_bind, Option.bind_some, ih]

theorem readEntries_length {count : Nat} {bs rest : Bytes} {entries : List Entry}
    (h : readEntries count bs = some (entries, rest)) : entries.length = count := by
  induction count generalizing bs entries with
  | zero =>
    simp only [readEntries, Option.some.injEq, Prod.mk.injEq] at h
    rw [← h.1]
    rfl
  | succ count ih =>
    simp only [readEntries, Option.bind_eq_bind, Option.bind_eq_some_iff, Option.some.injEq, Prod.mk.injEq] at h
    obtain ⟨_, _, ⟨tail, _⟩, htail, rfl, rfl⟩ := h
    rw [List.length_cons, ih htail]

/-- What is parsed is fewer entries than a `u16` counts. -/
theorem length_of_parse {bs : Bytes} {entries : List Entry} (h : parse bs = some entries) : entries.length < 65536 := by
  simp only [parse, Option.bind_eq_bind, Option.bind_eq_some_iff] at h
  obtain ⟨⟨count, _⟩, _, ⟨parsed, _⟩, hentries, hlast⟩ := h
  split at hlast
  · cases hlast
    rw [readEntries_length hentries]
    exact count.toNat_lt
  · cases hlast

theorem parse_toStream {entries : List Entry} (h : entries.length < 65536) : parse (toStream entries) = some entries := by
  have hcount : (UInt16.ofNat entries.length).toNat = entries.length := UInt16.toNat_ofNat_of_lt' h
  have hentries := readEntries_flatMap entries []
  rw [List.append_nil] at hentries
  simp only [parse, toStream, readU16_be16, Option.bind_eq_bind, Option.bind_some, hcount, hentries, if_true]

end TypeLengthValue
