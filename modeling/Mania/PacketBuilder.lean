/-
`PacketBuilder` of `core/packet.rs`: appending numbers and length-prefixed
sections to a buffer.

A section writes a length of zero, then its body, and patches the length
in at its offset in the whole buffer. The `isize` sum of a length and its
addition is exact here, in `Int`; a build with overflow checks panics where
it leaves `isize`, with an addition close to the bounds. `Writes w bs` says
of a chain of calls that it appends `bs` whatever the buffer holds; every
call that a packet is built of has such a fact.
-/
import Mania.PacketReader

namespace Mania

open Bytes

structure PacketBuilder where
  buffer : Bytes
  deriving DecidableEq

namespace PacketBuilder

variable {ε : Type}

/-- A call, or a chain of calls: `self` to `Self`. -/
abbrev Write (ε : Type) := PacketBuilder → Outcome ε PacketBuilder

def new : PacketBuilder := { buffer := [] }

def bytes (bs : Bytes) : Write ε := fun self => .ok { buffer := self.buffer ++ bs }

def u8 (value : UInt8) : Write ε := bytes [value]
def u16 (value : UInt16) : Write ε := bytes (be16 value)
def u32 (value : UInt32) : Write ε := bytes (be32 value)
def u64 (value : UInt64) : Write ε := bytes (be64 value)
def i8 (value : Int8) : Write ε := u8 value.toUInt8
def i16 (value : Int16) : Write ε := u16 value.toUInt16
def i32 (value : Int32) : Write ε := u32 value.toUInt32
def i64 (value : Int64) : Write ε := u64 value.toUInt64

def string (s : String) : Write ε := bytes (Utf8.encode s)

def packet (f : Write ε) : Write ε := f

/-- `|p| p`. -/
def skip : Write ε := .ok

/-- The big-endian write of a length into `buffer[start..]`. -/
def patch (start : Nat) (length : Bytes) : Write ε := fun self => do
  let buffer ← Outcome.copyFromSlice self.buffer start (start + length.length) length
  .ok { buffer }

def writeWithLength (P : UInt8) (A : Int) (f : Write ε) : Write ε := fun self =>
  let prefixLength := (P &&& 0b0111).toNat
  if prefixLength = 0 then f self
  else do
    let this ← match prefixLength with
      | 1 => u8 0 self
      | 2 => u16 0 self
      | 4 => u32 0 self
      | _ => .panic
    let oriLength := this.buffer.length
    let this ← f this
    let closureCalledLength ← Outcome.sub this.buffer.length oriLength
    let counted := if 0 < P &&& PREFIX_WITH then closureCalledLength + prefixLength else closureCalledLength
    let length := (counted : Int) + A
    let start ← Outcome.sub oriLength prefixLength
    match prefixLength with
    | 1 => do
      let buffer ← Outcome.setIndex this.buffer start (UInt8.ofInt length)
      .ok { buffer }
    | 2 => patch start (be16 (UInt16.ofInt length)) this
    | 4 => patch start (be32 (UInt32.ofInt length)) this
    | _ => .panic

def sectionWithAddition (N : Int) (f : Write ε) : Write ε := fun self => do
  let start := self.buffer.length
  let this ← u32 0 self
  let this ← f this
  let n ← Outcome.sub this.buffer.length start
  let len := (n : Int) - 4 + N
  patch start (be32 (UInt32.ofInt len)) this

/-- The `section` of the source. -/
def «section» (f : Write ε) : Write ε := sectionWithAddition 4 f

def section16WithAddition (N : Int) (f : Write ε) : Write ε := fun self => do
  let start := self.buffer.length
  let this ← u16 0 self
  let this ← f this
  let n ← Outcome.sub this.buffer.length start
  let len := (n : Int) - 2 + N
  -- "section too long"
  Outcome.guard (len ≤ 65535)
  patch start (be16 (UInt16.ofInt len)) this

def section16 (f : Write ε) : Write ε := section16WithAddition 2 f

/-- `PacketBuilder::new()`, the calls, and `build`. -/
def build (w : Write ε) : Outcome ε Bytes := PacketBuilder.buffer <$> w new

/-! ## What a chain appends -/

/-- The chain appends `bs` to every buffer. -/
def Writes (w : Write ε) (bs : Bytes) : Prop := ∀ self : PacketBuilder, w self = .ok { buffer := self.buffer ++ bs }

namespace Writes

theorem bytes (bs : Bytes) : Writes (bytes bs : Write ε) bs := fun _ => rfl
theorem u8 (v : UInt8) : Writes (u8 v : Write ε) [v] := fun _ => rfl
theorem u16 (v : UInt16) : Writes (u16 v : Write ε) (be16 v) := fun _ => rfl
theorem u32 (v : UInt32) : Writes (u32 v : Write ε) (be32 v) := fun _ => rfl
theorem u64 (v : UInt64) : Writes (u64 v : Write ε) (be64 v) := fun _ => rfl
theorem i8 (v : Int8) : Writes (i8 v : Write ε) [v.toUInt8] := fun _ => rfl
theorem i16 (v : Int16) : Writes (i16 v : Write ε) (be16 v.toUInt16) := fun _ => rfl
theorem i32 (v : Int32) : Writes (i32 v : Write ε) (be32 v.toUInt32) := fun _ => rfl
theorem i64 (v : Int64) : Writes (i64 v : Write ε) (be64 v.toUInt64) := fun _ => rfl
theorem string (s : String) : Writes (string s : Write ε) (Utf8.encode s) := fun _ => rfl

theorem skip : Writes (skip : Write ε) [] := by
  intro self
  simp [PacketBuilder.skip]

/-- One call after another. -/
theorem comp {w w' : Write ε} {bs bs' : Bytes} (h : Writes w bs) (h' : Writes w' bs') :
    Writes (w >=> w') (bs ++ bs') := by
  intro self
  show w self >>= w' = _
  rw [h self, Outcome.ok_bind, h', List.append_assoc]

theorem build_eq {w : Write ε} {bs : Bytes} (h : Writes w bs) : build w = .ok bs := by
  rw [build, h new]
  rfl

end Writes

/-- Patching a stretch of the length's own length. -/
theorem patch_append {pre hole length body : Bytes} (h : length.length = hole.length) :
    (patch pre.length length : Write ε) { buffer := pre ++ (hole ++ body) } =
      .ok { buffer := pre ++ (length ++ body) } := by
  unfold patch
  rw [Outcome.copyFromSlice_append rfl (by rw [h]) h]
  rfl

theorem writes_sectionWithAddition {N : Int} {w : Write ε} {bs : Bytes} (h : Writes w bs) :
    Writes (sectionWithAddition N w) (be32 (UInt32.ofInt (bs.length + N)) ++ bs) := by
  intro self
  have hn : (be32 0 ++ bs).length = 4 + bs.length := by simp
  have hlen : (((self.buffer ++ (be32 0 ++ bs)).length - self.buffer.length : Nat) : Int) - 4 + N = bs.length + N := by
    rw [List.length_append, hn]
    omega
  simp only [sectionWithAddition, Writes.u32 0 self, h _, Outcome.ok_bind, List.append_assoc]
  rw [Outcome.sub_ok (by simp), Outcome.ok_bind, hlen]
  exact patch_append (by simp)

theorem writes_section {w : Write ε} {bs : Bytes} (h : Writes w bs) :
    Writes («section» w) (be32 (UInt32.ofInt (bs.length + 4)) ++ bs) :=
  writes_sectionWithAddition h

theorem writes_section16WithAddition {N : Int} {w : Write ε} {bs : Bytes} (h : Writes w bs)
    (hlen : bs.length + N ≤ 65535) :
    Writes (section16WithAddition N w) (be16 (UInt16.ofInt (bs.length + N)) ++ bs) := by
  intro self
  have hn : (be16 0 ++ bs).length = 2 + bs.length := by simp
  have hlength : (((self.buffer ++ (be16 0 ++ bs)).length - self.buffer.length : Nat) : Int) - 2 + N =
      bs.length + N := by
    rw [List.length_append, hn]
    omega
  simp only [section16WithAddition, Writes.u16 0 self, h _, Outcome.ok_bind, List.append_assoc]
  rw [Outcome.sub_ok (by simp), Outcome.ok_bind, hlength, Outcome.guard_pos hlen, Outcome.ok_bind]
  exact patch_append (by simp)

end PacketBuilder

/-! ## Lengths of one, two or four bytes -/

theorem ofInt8_natCast (n : Nat) : UInt8.ofInt n = UInt8.ofNat n := by
  apply UInt8.toNat_inj.mp
  simp only [UInt8.ofInt, UInt8.toNat_ofNat']
  omega

theorem ofInt16_natCast (n : Nat) : UInt16.ofInt n = UInt16.ofNat n := by
  apply UInt16.toNat_inj.mp
  simp only [UInt16.ofInt, UInt16.toNat_ofNat']
  omega

theorem ofInt32_natCast (n : Nat) : UInt32.ofInt n = UInt32.ofNat n := by
  apply UInt32.toNat_inj.mp
  simp only [UInt32.ofInt, UInt32.toNat_ofNat']
  omega

/-- The widths that a length prefix can have. -/
inductive PrefixWidth where
  | one
  | two
  | four
  deriving DecidableEq

namespace PrefixWidth

def size : PrefixWidth → Nat
  | one => 1
  | two => 2
  | four => 4

/-- The constant, with or without `PREFIX_WITH`. -/
def bits (w : PrefixWidth) (counted : Bool) : UInt8 :=
  (match w with
    | one => PREFIX_U8
    | two => PREFIX_U16
    | four => PREFIX_U32) ||| (if counted then PREFIX_WITH else PREFIX_LENGTH_ONLY)

/-- What a length adds to the body's when it counts the prefix. -/
def added (w : PrefixWidth) (counted : Bool) : Nat := if counted then w.size else 0

/-- A length, cut to the width. -/
def encode (w : PrefixWidth) (n : Int) : Bytes :=
  match w with
  | one => [UInt8.ofInt n]
  | two => be16 (UInt16.ofInt n)
  | four => be32 (UInt32.ofInt n)

variable {ε α : Type}

theorem encode_length (w : PrefixWidth) (n : Int) : (w.encode n).length = w.size := by
  cases w <;> simp [encode, size]

end PrefixWidth

namespace PacketBuilder

variable {ε : Type}

theorem setIndex_append {pre body : Bytes} (old v : UInt8) :
    (Outcome.setIndex (pre ++ ([old] ++ body)) pre.length v : Outcome ε Bytes) = .ok (pre ++ ([v] ++ body)) := by
  rw [Outcome.setIndex_ok (by simp)]
  simp

theorem writes_writeWithLength (w : PrefixWidth) (counted : Bool) {A : Int} {f : Write ε} {bs : Bytes}
    (h : Writes f bs) :
    Writes (writeWithLength (w.bits counted) A f)
      (w.encode (((bs.length + w.added counted : Nat) : Int) + A) ++ bs) := by
  intro self
  have hsize : (w.bits counted &&& 0b0111).toNat = w.size := by cases w <;> cases counted <;> decide
  have hcounted : 0 < w.bits counted &&& PREFIX_WITH ↔ counted = true := by cases w <;> cases counted <;> decide
  have hclosure (hole : Bytes) : Outcome.sub (ε := ε) (self.buffer ++ (hole ++ bs)).length (self.buffer ++ hole).length =
      .ok bs.length := by
    rw [Outcome.sub_ok (by simp)]
    simp only [List.length_append]
    congr 1
    omega
  have hstart (hole : Bytes) (n : Nat) (hn : hole.length = n) :
      Outcome.sub (ε := ε) (self.buffer ++ hole).length n = .ok self.buffer.length := by
    rw [Outcome.sub_ok (by simp [hn])]
    simp [hn]
  simp only [writeWithLength, hsize, hcounted]
  cases w with
  | one =>
    simp only [PrefixWidth.size, Nat.succ_ne_zero, if_false, Writes.u8 0 self, h _, Outcome.ok_bind, List.append_assoc,
      hclosure, hstart [0] 1 rfl]
    rw [setIndex_append, Outcome.ok_bind]
    cases counted <;> rfl
  | two =>
    simp only [PrefixWidth.size, Nat.succ_ne_zero, if_false, Writes.u16 0 self, h _, Outcome.ok_bind, List.append_assoc,
      hclosure, hstart (be16 0) 2 (be16_length 0)]
    rw [patch_append (by simp)]
    cases counted <;> rfl
  | four =>
    simp only [PrefixWidth.size, Nat.succ_ne_zero, if_false, Writes.u32 0 self, h _, Outcome.ok_bind, List.append_assoc,
      hclosure, hstart (be32 0) 4 (be32_length 0)]
    rw [patch_append (by simp)]
    cases counted <;> rfl

end PacketBuilder

end Mania
