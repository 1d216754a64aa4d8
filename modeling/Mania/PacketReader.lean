/-
`PacketReader` of `core/packet.rs`: reading numbers and length-prefixed
sections off the front of a packet.

A reader is a `Cursor`: what it has not read yet is the state. No reader
of this module answers an error; a length that runs past the buffer panics
in `split_to`. The `isize` difference of a length and its addition is exact
here, in `Int`; a build with overflow checks panics where it leaves `isize`,
with an addition close to the bounds. The facts about a section say both
where it reads on and what it then reads, in terms of `Prefixed`, the byte
strings a sender can put behind a length.
-/
import Mania.Lib.Str

namespace Mania

open Bytes

def PREFIX_NONE : UInt8 := 0b0000
def PREFIX_U8 : UInt8 := 0b0001
def PREFIX_U16 : UInt8 := 0b0010
def PREFIX_U32 : UInt8 := 0b0100
def PREFIX_LENGTH_ONLY : UInt8 := 0
def PREFIX_WITH : UInt8 := 0b1000

namespace PacketReader

variable {ε α : Type}

/-- `f(&mut PacketReader::new(packet))`. -/
def new (packet : Bytes) (f : Cursor ε α) : Outcome ε α := Prod.fst <$> f.run packet

def u8 : Cursor ε UInt8 := Cursor.getU8
def u16 : Cursor ε UInt16 := Cursor.getU16
def u32 : Cursor ε UInt32 := Cursor.getU32
def u64 : Cursor ε UInt64 := Cursor.getU64
def i8 : Cursor ε Int8 := UInt8.toInt8 <$> Cursor.getU8
def i16 : Cursor ε Int16 := UInt16.toInt16 <$> Cursor.getU16
def i32 : Cursor ε Int32 := UInt32.toInt32 <$> Cursor.getU32
def i64 : Cursor ε Int64 := UInt64.toInt64 <$> Cursor.getU64
def bytes : Cursor ε Bytes := Cursor.rest
def string : Cursor ε String := Utf8.fromUtf8Lossy <$> bytes

def skip (n : Nat) : Cursor ε Unit := Cursor.advance n

/-- The bytes of the `BinaryPacket`. -/
def readPacket (count : Nat) : Cursor ε Bytes := Cursor.splitTo count

/-- `split_to(length as usize)`: a negative length is a `usize` no buffer
reaches. -/
def splitTo (length : Int) : Cursor ε Bytes :=
  if 0 ≤ length then Cursor.splitTo length.toNat else fun _ => .panic

def readWithLength (P : UInt8) (f : Cursor ε α) : Cursor ε α := do
  let lengthCounted := 0 < P &&& PREFIX_WITH
  let prefixLength := (P &&& 0b0111).toNat
  let n ← match prefixLength with
    | 0 => pure 0
    | 1 => UInt8.toNat <$> u8
    | 2 => UInt16.toNat <$> u16
    | 4 => UInt32.toNat <$> u32
    | _ => fun _ => .panic
  let length ← StateT.lift (Outcome.sub n (if lengthCounted then prefixLength else 0))
  let buffer ← Cursor.splitTo length
  StateT.lift (new buffer f)

def sectionWithAddition (N : Int) (f : Cursor ε α) : Cursor ε α := do
  let n ← u32
  let length := (n.toNat : Int) - N
  let buffer ← splitTo length
  StateT.lift (new buffer f)

/-- The `section` of the source, a word Lean keeps for itself. -/
def «section» (f : Cursor ε α) : Cursor ε α := sectionWithAddition 4 f

def section16WithAddition (N : Int) (f : Cursor ε α) : Cursor ε α := do
  let n ← u16
  let length := (n.toNat : Int) - N
  let buffer ← splitTo length
  StateT.lift (new buffer f)

def section16 (f : Cursor ε α) : Cursor ε α := section16WithAddition 2 f

end PacketReader

/-- A byte string that fits behind a `u32` length counting `N` bytes more
than the string. -/
structure Prefixed (N : Nat) where
  body : Bytes
  fits : N + body.length < 2 ^ 32

/-- What `section` reads: the length counts its own four bytes. -/
abbrev Section := Prefixed 4

/-- The shortest section, of its length alone. -/
def Section.empty : Section := ⟨[], by decide⟩

namespace Prefixed

variable {N : Nat}

def length (s : Prefixed N) : UInt32 := UInt32.ofNat (N + s.body.length)

/-- The length and then the body, as they lie in a packet. -/
def toBytes (s : Prefixed N) : Bytes := be32 s.length ++ s.body

theorem toNat_length (s : Prefixed N) : s.length.toNat = N + s.body.length :=
  UInt32.toNat_ofNat_of_lt' s.fits

end Prefixed

namespace PacketReader

variable {ε α : Type}

/-! ## What the readers do -/

@[simp] theorem new_bytes (packet : Bytes) : (new packet bytes : Outcome ε Bytes) = .ok packet := rfl

@[simp] theorem new_string (packet : Bytes) :
    (new packet string : Outcome ε String) = .ok (Utf8.fromUtf8Lossy packet) := rfl

theorem new_eq_ok {f : Cursor ε α} {packet : Bytes} {a : α} :
    new packet f = .ok a ↔ ∃ rest, f.run packet = .ok (a, rest) := by
  simp [new, Outcome.map_eq_ok]

theorem new_eq_panic {f : Cursor ε α} {packet : Bytes} : new packet f = .panic ↔ f.run packet = .panic :=
  Outcome.map_eq_panic

theorem i32_eq_ok {bs rest : Bytes} {n : Int32} :
    (i32 : Cursor ε Int32).run bs = .ok (n, rest) ↔ bs = be32 n.toUInt32 ++ rest := by
  unfold i32
  simp only [StateT.run_map, Outcome.map_eq_ok, Prod.exists, Prod.mk.injEq]
  constructor
  · intro h
    obtain ⟨m, _, hm, rfl, rfl⟩ := h
    simpa using Cursor.getU32_eq_ok.mp hm
  · intro h
    exact ⟨n.toUInt32, rest, Cursor.getU32_eq_ok.mpr h, by simp, rfl⟩

theorem splitTo_eq_ok {length : Int} {bs x rest : Bytes} :
    (splitTo length : Cursor ε Bytes).run bs = .ok (x, rest) ↔ bs = x ++ rest ∧ (x.length : Int) = length := by
  unfold splitTo
  split
  · rw [Cursor.splitTo_eq_ok]
    exact and_congr_right fun _ => by omega
  · next hneg =>
    constructor
    · intro h
      cases h
    · intro h
      have := h.2
      omega

theorem sectionWithAddition_eq_ok {N : Nat} {f : Cursor ε α} {bs rest : Bytes} {a : α} :
    (sectionWithAddition N f).run bs = .ok (a, rest) ↔
      ∃ s : Prefixed N, bs = s.toBytes ++ rest ∧ new s.body f = .ok a := by
  simp only [sectionWithAddition, StateT.run_bind, Outcome.bind_eq_ok, Prod.exists, StateT.run_lift,
    Cursor.getU32_eq_ok, splitTo_eq_ok, u32]
  constructor
  · intro h
    obtain ⟨n, _, hn, x, _, ⟨rfl, hlen⟩, b, hb, h⟩ := h
    cases h
    have hlt := n.toNat_lt
    refine ⟨⟨x, by omega⟩, ?_, hb⟩
    have hlength : (⟨x, by omega⟩ : Prefixed N).length = n := by
      apply UInt32.toNat_inj.mp
      rw [Prefixed.toNat_length]
      show N + x.length = n.toNat
      omega
    rw [Prefixed.toBytes, hlength, List.append_assoc, hn]
  · intro h
    obtain ⟨s, rfl, ha⟩ := h
    have hlength := s.toNat_length
    refine ⟨s.length, s.body ++ rest, by simp [Prefixed.toBytes], s.body, rest, ⟨rfl, by omega⟩, a, ha, rfl⟩

theorem section_eq_ok {f : Cursor ε α} {bs rest : Bytes} {a : α} :
    («section» f).run bs = .ok (a, rest) ↔ ∃ s : Section, bs = s.toBytes ++ rest ∧ new s.body f = .ok a :=
  sectionWithAddition_eq_ok

/-- The length of `PREFIX_U32 | PREFIX_LENGTH_ONLY` does not count itself. -/
theorem readWithLength_u32 (f : Cursor ε α) :
    readWithLength (PREFIX_U32 ||| PREFIX_LENGTH_ONLY) f = sectionWithAddition 0 f := by
  have hcounted : ¬ 0 < (PREFIX_U32 ||| PREFIX_LENGTH_ONLY) &&& PREFIX_WITH := by decide
  have hlength : ((PREFIX_U32 ||| PREFIX_LENGTH_ONLY) &&& 0b0111).toNat = 4 := by decide
  have hsub (n : Nat) : (StateT.lift (Outcome.sub n 0) : Cursor ε Nat) = pure n := by
    rw [Outcome.sub_ok n.zero_le]
    rfl
  simp [readWithLength, sectionWithAddition, hcounted, hlength, splitTo, hsub]

theorem readWithLength_eq_ok {f : Cursor ε α} {bs rest : Bytes} {a : α} :
    (readWithLength (PREFIX_U32 ||| PREFIX_LENGTH_ONLY) f).run bs = .ok (a, rest) ↔
      ∃ s : Prefixed 0, bs = s.toBytes ++ rest ∧ new s.body f = .ok a := by
  rw [readWithLength_u32]
  exact sectionWithAddition_eq_ok

/-! ## Reading what a builder writes -/

theorem u8_cons (v : UInt8) (rest : Bytes) : (u8 : Cursor ε UInt8).run (v :: rest) = .ok (v, rest) := rfl

theorem u16_be16 (v : UInt16) (rest : Bytes) : (u16 : Cursor ε UInt16).run (be16 v ++ rest) = .ok (v, rest) :=
  Cursor.getU16_be16 v rest

theorem u32_be32 (v : UInt32) (rest : Bytes) : (u32 : Cursor ε UInt32).run (be32 v ++ rest) = .ok (v, rest) :=
  Cursor.getU32_be32 v rest

theorem u64_be64 (v : UInt64) (rest : Bytes) : (u64 : Cursor ε UInt64).run (be64 v ++ rest) = .ok (v, rest) :=
  Cursor.getU64_be64 v rest

theorem i8_cons (v : Int8) (rest : Bytes) : (i8 : Cursor ε Int8).run (v.toUInt8 :: rest) = .ok (v, rest) := by
  simp [i8, StateT.run_map]

theorem i16_be16 (v : Int16) (rest : Bytes) :
    (i16 : Cursor ε Int16).run (be16 v.toUInt16 ++ rest) = .ok (v, rest) := by
  simp [i16, StateT.run_map]

theorem i32_be32 (v : Int32) (rest : Bytes) :
    (i32 : Cursor ε Int32).run (be32 v.toUInt32 ++ rest) = .ok (v, rest) :=
  i32_eq_ok.mpr rfl

theorem i64_be64 (v : Int64) (rest : Bytes) :
    (i64 : Cursor ε Int64).run (be64 v.toUInt64 ++ rest) = .ok (v, rest) := by
  simp [i64, StateT.run_map]

theorem bytes_run (packet : Bytes) : (bytes : Cursor ε Bytes).run packet = .ok (packet, []) := rfl

theorem readPacket_append {count : Nat} {x : Bytes} (h : x.length = count) (rest : Bytes) :
    (readPacket count : Cursor ε Bytes).run (x ++ rest) = .ok (x, rest) :=
  Cursor.splitTo_append h rest

/-- The inner reader gets the body, the outer one goes on behind it. -/
theorem split_run {length : Int} {body : Bytes} (h : (body.length : Int) = length) (f : Cursor ε α) (rest : Bytes) :
    (splitTo length >>= fun buffer => StateT.lift (new buffer f)).run (body ++ rest) =
      (fun a => (a, rest)) <$> new body f := by
  rw [StateT.run_bind, splitTo_eq_ok.mpr ⟨rfl, h⟩, Outcome.ok_bind, StateT.run_lift, map_eq_pure_bind]

theorem sectionWithAddition_run {N : Int} {n : UInt32} {body : Bytes} (h : (body.length : Int) = n.toNat - N)
    (f : Cursor ε α) (rest : Bytes) :
    (sectionWithAddition N f).run (be32 n ++ (body ++ rest)) = (fun a => (a, rest)) <$> new body f := by
  unfold sectionWithAddition
  rw [StateT.run_bind, u32_be32, Outcome.ok_bind]
  exact split_run h f rest

theorem section16WithAddition_run {N : Int} {n : UInt16} {body : Bytes} (h : (body.length : Int) = n.toNat - N)
    (f : Cursor ε α) (rest : Bytes) :
    (section16WithAddition N f).run (be16 n ++ (body ++ rest)) = (fun a => (a, rest)) <$> new body f := by
  unfold section16WithAddition
  rw [StateT.run_bind, u16_be16, Outcome.ok_bind]
  exact split_run h f rest

/-! ## A `u16` length -/

def lengthOf (bs : Bytes) : Nat := (ofBE16 (bs.take 2)).toNat

theorem lengthOf_be16 (n : UInt16) (bs : Bytes) : lengthOf (be16 n ++ bs) = n.toNat := by
  rw [lengthOf, List.take_left' (be16_length n), ofBE16_be16]

/-- There is a length, and as many bytes behind it as it says. -/
def lengthed (bs : Bytes) : Bool := 2 ≤ bs.length ∧ 2 + lengthOf bs ≤ bs.length

def behindLength (bs : Bytes) : Bytes := (bs.drop 2).take (lengthOf bs)

theorem u16_run (bs : Bytes) : (u16 : Cursor ε UInt16).run bs =
    if 2 ≤ bs.length then .ok (ofBE16 (bs.take 2), bs.drop 2) else .panic := by
  unfold u16 Cursor.getU16
  rw [StateT.run_map]
  simp only [StateT.run, Cursor.splitTo]
  split <;> rfl

theorem u32_run (bs : Bytes) : (u32 : Cursor ε UInt32).run bs =
    if 4 ≤ bs.length then .ok (ofBE32 (bs.take 4), bs.drop 4) else .panic := by
  unfold u32 Cursor.getU32
  rw [StateT.run_map]
  simp only [StateT.run, Cursor.splitTo]
  split <;> rfl

theorem splitTo_run (n : Nat) (bs : Bytes) : (Cursor.splitTo n : Cursor ε Bytes).run bs =
    if n ≤ bs.length then .ok (bs.take n, bs.drop n) else .panic := rfl

theorem readWithLength_u16 (f : Cursor ε α) :
    readWithLength (PREFIX_U16 ||| PREFIX_LENGTH_ONLY) f =
      u16 >>= fun n => Cursor.splitTo n.toNat >>= fun buffer => StateT.lift (new buffer f) := by
  have hcounted : ¬ 0 < (PREFIX_U16 ||| PREFIX_LENGTH_ONLY) &&& PREFIX_WITH := by decide
  have hlength : ((PREFIX_U16 ||| PREFIX_LENGTH_ONLY) &&& 0b0111).toNat = 2 := by decide
  have hsub (n : Nat) : (StateT.lift (Outcome.sub n 0) : Cursor ε Nat) = pure n := by
    rw [Outcome.sub_ok n.zero_le]
    rfl
  simp [readWithLength, hcounted, hlength, hsub]

theorem readWithLength_u16_run (bs : Bytes) :
    (readWithLength (PREFIX_U16 ||| PREFIX_LENGTH_ONLY) bytes : Cursor ε Bytes).run bs =
      if lengthed bs then .ok (behindLength bs, bs.drop (2 + lengthOf bs)) else .panic := by
  have hbuffer (buffer : Bytes) : (StateT.lift (new buffer bytes) : Cursor ε Bytes) = pure buffer := rfl
  rw [readWithLength_u16, StateT.run_bind, u16_run]
  simp only [hbuffer, bind_pure]
  by_cases h2 : 2 ≤ bs.length
  · rw [if_pos h2, Outcome.ok_bind]
    show (Cursor.splitTo (lengthOf bs) : Cursor ε Bytes).run (bs.drop 2) = _
    rw [splitTo_run, List.drop_drop]
    have hfits : lengthOf bs ≤ (bs.drop 2).length ↔ lengthed bs = true := by
      simp only [lengthed, List.length_drop, decide_eq_true_eq]
      omega
    simp only [hfits, behindLength]
  · have hshort : ¬ lengthed bs = true := by simp [lengthed, h2]
    rw [if_neg h2, if_neg hshort]
    rfl

/-! ## No reader answers an error -/

theorem new_ne_err {f : Cursor ε α} (h : f.Errorless) (packet : Bytes) (e : ε) : new packet f ≠ .err e := by
  intro he
  unfold new at he
  cases hf : f.run packet with
  | ok p => simp [hf] at he
  | err e' => exact h packet e' hf
  | panic => simp [hf] at he

theorem errorless_u8 : (u8 : Cursor ε UInt8).Errorless := Cursor.errorless_getU8

theorem errorless_u32 : (u32 : Cursor ε UInt32).Errorless := Cursor.errorless_getU32

theorem errorless_i32 : (i32 : Cursor ε Int32).Errorless := Cursor.errorless_getU32.map _

theorem errorless_bytes : (bytes : Cursor ε Bytes).Errorless := Cursor.errorless_rest

theorem errorless_string : (string : Cursor ε String).Errorless := errorless_bytes.map _

theorem errorless_splitTo (length : Int) : (splitTo length : Cursor ε Bytes).Errorless := by
  unfold splitTo
  split
  · exact Cursor.errorless_splitTo _
  · intro bs e he
    cases he

theorem errorless_sectionWithAddition (N : Nat) {f : Cursor ε α} (h : f.Errorless) :
    (sectionWithAddition N f).Errorless :=
  errorless_u32.bind fun _ => (errorless_splitTo _).bind fun buffer =>
    Cursor.errorless_lift (new_ne_err h buffer)

theorem errorless_section {f : Cursor ε α} (h : f.Errorless) : («section» f).Errorless :=
  errorless_sectionWithAddition 4 h

theorem errorless_readWithLength {f : Cursor ε α} (h : f.Errorless) :
    (readWithLength (PREFIX_U32 ||| PREFIX_LENGTH_ONLY) f).Errorless := by
  rw [readWithLength_u32]
  exact errorless_sectionWithAddition 0 h

end PacketReader

end Mania
