/-
Trees of fields, written with `PacketBuilder` and read back with the
`PacketReader` calls that mirror it.

A `Body` is what stands in a section, or in a whole packet: fields one
after the other, and maybe a byte string that runs to the end. Of the
values a `Shape` knows nothing but the counts of byte strings, so reading by
the shape finds the values in the bytes. What every inner reader is given
is recorded on the way.
-/
import Mathlib.Algebra.Group.Int.Defs
import Mania.PacketBuilder

namespace Mania

open Bytes

/-! ## A body behind its length -/

/-- The calls that put a length before a body. -/
inductive Wrap where
  | sectionWithAddition (N : Int)
  | section16WithAddition (N : Int)
  | withLength (width : PrefixWidth) (counted : Bool)
  deriving DecidableEq

namespace Wrap

variable {ε α : Type}

def write (w : Wrap) (f : PacketBuilder.Write ε) : PacketBuilder.Write ε :=
  match w with
  | sectionWithAddition N => PacketBuilder.sectionWithAddition N f
  | section16WithAddition N => PacketBuilder.section16WithAddition N f
  | withLength width counted => PacketBuilder.writeWithLength (width.bits counted) 0 f

def read (w : Wrap) (f : Cursor ε α) : Cursor ε α :=
  match w with
  | sectionWithAddition N => PacketReader.sectionWithAddition N f
  | section16WithAddition N => PacketReader.section16WithAddition N f
  | withLength width counted => PacketReader.readWithLength (width.bits counted) f

/-- The length value of a body of `n` bytes. -/
def length (w : Wrap) (n : Nat) : Int :=
  match w with
  | sectionWithAddition N | section16WithAddition N => n + N
  | withLength width counted => ((n + width.added counted : Nat) : Int)

def width : Wrap → PrefixWidth
  | sectionWithAddition _ => .four
  | section16WithAddition _ => .two
  | withLength width _ => width

/-- The length value fits its prefix. -/
def Fits (w : Wrap) (n : Nat) : Prop := 0 ≤ w.length n ∧ w.length n < 256 ^ w.width.size

instance (w : Wrap) (n : Nat) : Decidable (w.Fits n) := inferInstanceAs (Decidable (_ ∧ _))

/-- What stands before a body of `n` bytes. -/
def header (w : Wrap) (n : Nat) : Bytes := w.width.encode (w.length n)

theorem writes {w : Wrap} {f : PacketBuilder.Write ε} {bs : Bytes} (h : PacketBuilder.Writes f bs)
    (hfits : w.Fits bs.length) : PacketBuilder.Writes (w.write f) (w.header bs.length ++ bs) := by
  cases w with
  | sectionWithAddition N => exact PacketBuilder.writes_sectionWithAddition h
  | section16WithAddition N =>
    have hlt : (bs.length : Int) + N < 65536 := hfits.2
    exact PacketBuilder.writes_section16WithAddition h (by omega)
  | withLength width counted =>
    have hwrites := PacketBuilder.writes_writeWithLength width counted (A := 0) h
    rwa [Int.add_zero] at hwrites

end Wrap

theorem toNat_ofInt8 {n : Int} (h0 : 0 ≤ n) (h : n < 256) : ((UInt8.ofInt n).toNat : Int) = n := by
  unfold UInt8.ofInt
  rw [UInt8.toNat_ofNat_of_lt' (by simp only [UInt8.size]; omega)]
  omega

theorem toNat_ofInt16 {n : Int} (h0 : 0 ≤ n) (h : n < 65536) : ((UInt16.ofInt n).toNat : Int) = n := by
  unfold UInt16.ofInt
  rw [UInt16.toNat_ofNat_of_lt' (by simp only [UInt16.size]; omega)]
  omega

theorem toNat_ofInt32 {n : Int} (h0 : 0 ≤ n) (h : n < 4294967296) : ((UInt32.ofInt n).toNat : Int) = n := by
  unfold UInt32.ofInt
  rw [UInt32.toNat_ofNat_of_lt' (by simp only [UInt32.size]; omega)]
  omega

namespace Wrap

variable {ε α : Type}

/-- The length is taken off the prefix, and the body split off behind it. -/
theorem readWithLength_run (width : PrefixWidth) (counted : Bool) {body : Bytes}
    (hfits : (withLength width counted).Fits body.length) (f : Cursor ε α) (rest : Bytes) :
    (PacketReader.readWithLength (width.bits counted) f).run
        ((withLength width counted).header body.length ++ (body ++ rest)) =
      (fun a => (a, rest)) <$> PacketReader.new body f := by
  have hsize : (width.bits counted &&& 0b0111).toNat = width.size := by cases width <;> cases counted <;> decide
  have hcounted : 0 < width.bits counted &&& PREFIX_WITH ↔ counted = true := by
    cases width <;> cases counted <;> decide
  have hadded : (if counted = true then width.size else 0) = width.added counted := rfl
  have hsplit {n : Nat} (hn : n = body.length + width.added counted) :
      (StateT.lift (Outcome.sub n (width.added counted)) >>= fun length => Cursor.splitTo length >>= fun buffer =>
        StateT.lift (PacketReader.new buffer f)).run (body ++ rest) = (fun a => (a, rest)) <$> PacketReader.new body f := by
    rw [hn, StateT.run_bind, StateT.run_lift, Outcome.sub_ok (Nat.le_add_left _ _), Nat.add_sub_cancel, Outcome.ok_bind,
      Outcome.pure_eq, Outcome.ok_bind, StateT.run_bind, Cursor.splitTo_append rfl, Outcome.ok_bind, StateT.run_lift,
      map_eq_pure_bind]
  obtain ⟨h0, hlt⟩ := hfits
  simp only [PacketReader.readWithLength, hsize, hcounted, hadded, header, Wrap.width, length]
  cases width with
  | one =>
    have hlength := toNat_ofInt8 h0 hlt
    exact hsplit (Int.ofNat_inj.mp hlength)
  | two =>
    have hlength := toNat_ofInt16 h0 hlt
    simp only [PrefixWidth.size, PrefixWidth.encode]
    rw [StateT.run_bind, StateT.run_map, PacketReader.u16_be16]
    exact hsplit (Int.ofNat_inj.mp hlength)
  | four =>
    have hlength := toNat_ofInt32 h0 hlt
    simp only [PrefixWidth.size, PrefixWidth.encode]
    rw [StateT.run_bind, StateT.run_map, PacketReader.u32_be32]
    exact hsplit (Int.ofNat_inj.mp hlength)

theorem read_run {w : Wrap} {body : Bytes} (hfits : w.Fits body.length) (f : Cursor ε α) (rest : Bytes) :
    (w.read f).run (w.header body.length ++ (body ++ rest)) = (fun a => (a, rest)) <$> PacketReader.new body f := by
  cases w with
  | sectionWithAddition N =>
    have hlength := toNat_ofInt32 hfits.1 hfits.2
    exact PacketReader.sectionWithAddition_run (by rw [hlength]; simp [length]) f rest
  | section16WithAddition N =>
    have hlength := toNat_ofInt16 hfits.1 hfits.2
    exact PacketReader.section16WithAddition_run (by rw [hlength]; simp [length]) f rest
  | withLength width counted => exact readWithLength_run width counted hfits f rest

end Wrap

/-! ## Trees -/

mutual

/-- One field, with its value. -/
inductive Field where
  | u8 (v : UInt8)
  | u16 (v : UInt16)
  | u32 (v : UInt32)
  | u64 (v : UInt64)
  | i8 (v : Int8)
  | i16 (v : Int16)
  | i32 (v : Int32)
  | i64 (v : Int64)
  | counted (bs : Bytes)
  | wrapped (w : Wrap) (body : Body)

/-- What stands in a section or a packet. -/
inductive Body where
  | done
  | rest (bs : Bytes)
  | cons (field : Field) (body : Body)

end

mutual

/-- A field without its value. -/
inductive Shape where
  | u8
  | u16
  | u32
  | u64
  | i8
  | i16
  | i32
  | i64
  | counted (count : Nat)
  | wrapped (w : Wrap) (body : BodyShape)

inductive BodyShape where
  | done
  | rest
  | cons (field : Shape) (body : BodyShape)

end

mutual

def Field.shape : Field → Shape
  | .u8 _ => .u8
  | .u16 _ => .u16
  | .u32 _ => .u32
  | .u64 _ => .u64
  | .i8 _ => .i8
  | .i16 _ => .i16
  | .i32 _ => .i32
  | .i64 _ => .i64
  | .counted bs => .counted bs.length
  | .wrapped w body => .wrapped w body.shape

def Body.shape : Body → BodyShape
  | .done => .done
  | .rest _ => .rest
  | .cons field body => .cons field.shape body.shape

end

section

variable {ε : Type}

mutual

/-- The builder's calls for a field. -/
def Field.write : Field → PacketBuilder.Write ε
  | .u8 v => PacketBuilder.u8 v
  | .u16 v => PacketBuilder.u16 v
  | .u32 v => PacketBuilder.u32 v
  | .u64 v => PacketBuilder.u64 v
  | .i8 v => PacketBuilder.i8 v
  | .i16 v => PacketBuilder.i16 v
  | .i32 v => PacketBuilder.i32 v
  | .i64 v => PacketBuilder.i64 v
  | .counted bs => PacketBuilder.bytes bs
  | .wrapped w body => w.write body.write

def Body.write : Body → PacketBuilder.Write ε
  | .done => PacketBuilder.skip
  | .rest bs => PacketBuilder.bytes bs
  | .cons field body => field.write >=> body.write

end

mutual

/-- The reader's calls for a field: the field that is read, and what each
reader of a section was given, outermost first. -/
def Shape.read : Shape → Cursor ε (Field × List Bytes)
  | .u8 => (fun v => (.u8 v, [])) <$> PacketReader.u8
  | .u16 => (fun v => (.u16 v, [])) <$> PacketReader.u16
  | .u32 => (fun v => (.u32 v, [])) <$> PacketReader.u32
  | .u64 => (fun v => (.u64 v, [])) <$> PacketReader.u64
  | .i8 => (fun v => (.i8 v, [])) <$> PacketReader.i8
  | .i16 => (fun v => (.i16 v, [])) <$> PacketReader.i16
  | .i32 => (fun v => (.i32 v, [])) <$> PacketReader.i32
  | .i64 => (fun v => (.i64 v, [])) <$> PacketReader.i64
  | .counted count => (fun bs => (.counted bs, [])) <$> PacketReader.readPacket count
  | .wrapped w shape => w.read do
      let given ← get
      let (body, inner) ← shape.read
      pure (.wrapped w body, given :: inner)

def BodyShape.read : BodyShape → Cursor ε (Body × List Bytes)
  | .done => pure (.done, [])
  | .rest => (fun bs => (.rest bs, [])) <$> PacketReader.bytes
  | .cons shape shapes => do
      let (field, inner) ← shape.read
      let (body, inner') ← shapes.read
      pure (.cons field body, inner ++ inner')

end

end

/-! ## What the tree is in bytes -/

mutual

def Field.encode : Field → Bytes
  | .u8 v => [v]
  | .u16 v => be16 v
  | .u32 v => be32 v
  | .u64 v => be64 v
  | .i8 v => [v.toUInt8]
  | .i16 v => be16 v.toUInt16
  | .i32 v => be32 v.toUInt32
  | .i64 v => be64 v.toUInt64
  | .counted bs => bs
  | .wrapped w body => w.header body.encode.length ++ body.encode

def Body.encode : Body → Bytes
  | .done => []
  | .rest bs => bs
  | .cons field body => field.encode ++ body.encode

end

mutual

/-- The bodies of the sections, outermost first. -/
def Field.bodies : Field → List Bytes
  | .wrapped _ body => body.encode :: body.bodies
  | _ => []

def Body.bodies : Body → List Bytes
  | .done | .rest _ => []
  | .cons field body => field.bodies ++ body.bodies

end

mutual

/-- Every length value fits its prefix. -/
def Field.Fits : Field → Prop
  | .wrapped w body => w.Fits body.encode.length ∧ body.Fits
  | _ => True

def Body.Fits : Body → Prop
  | .done | .rest _ => True
  | .cons field body => field.Fits ∧ body.Fits

end

/-- The body runs to the end of what it stands in. -/
def Body.toEnd : Body → Bool
  | .done => false
  | .rest _ => true
  | .cons _ body => body.toEnd

variable {ε : Type}

mutual

theorem Field.writes : (field : Field) → field.Fits →
    PacketBuilder.Writes (field.write : PacketBuilder.Write ε) field.encode
  | .u8 v, _ => .u8 v
  | .u16 v, _ => .u16 v
  | .u32 v, _ => .u32 v
  | .u64 v, _ => .u64 v
  | .i8 v, _ => .i8 v
  | .i16 v, _ => .i16 v
  | .i32 v, _ => .i32 v
  | .i64 v, _ => .i64 v
  | .counted bs, _ => .bytes bs
  | .wrapped _ body, hfits => Wrap.writes (body.writes hfits.2) hfits.1

theorem Body.writes : (body : Body) → body.Fits → PacketBuilder.Writes (body.write : PacketBuilder.Write ε) body.encode
  | .done, _ => .skip
  | .rest bs, _ => .bytes bs
  | .cons field body, hfits => (field.writes hfits.1).comp (body.writes hfits.2)

end

/-- A section's reader, when its inner one reads the whole body. -/
theorem Shape.read_wrapped {w : Wrap} {body : Body} (hfits : w.Fits body.encode.length)
    (hbody : (body.shape.read : Cursor ε _).run (body.encode ++ []) = .ok ((body, body.bodies), [])) (trailing : Bytes) :
    ((Shape.wrapped w body.shape).read : Cursor ε _).run ((Field.wrapped w body).encode ++ trailing) =
      .ok ((.wrapped w body, (Field.wrapped w body).bodies), trailing) := by
  rw [Shape.read, Field.encode, Field.bodies, List.append_assoc, Wrap.read_run hfits, PacketReader.new, StateT.run_bind,
    StateT.run_get, Outcome.pure_eq, Outcome.ok_bind, StateT.run_bind]
  rw [List.append_nil] at hbody
  rw [hbody]
  rfl

mutual

theorem Field.read_encode : (field : Field) → field.Fits → (trailing : Bytes) →
    (field.shape.read : Cursor ε _).run (field.encode ++ trailing) = .ok ((field, field.bodies), trailing)
  | .u8 v, _, trailing => by simp [Field.shape, Shape.read, Field.encode, Field.bodies, PacketReader.u8_cons]
  | .u16 v, _, trailing => by simp [Field.shape, Shape.read, Field.encode, Field.bodies, PacketReader.u16_be16]
  | .u32 v, _, trailing => by simp [Field.shape, Shape.read, Field.encode, Field.bodies, PacketReader.u32_be32]
  | .u64 v, _, trailing => by simp [Field.shape, Shape.read, Field.encode, Field.bodies, PacketReader.u64_be64]
  | .i8 v, _, trailing => by simp [Field.shape, Shape.read, Field.encode, Field.bodies, PacketReader.i8_cons]
  | .i16 v, _, trailing => by simp [Field.shape, Shape.read, Field.encode, Field.bodies, PacketReader.i16_be16]
  | .i32 v, _, trailing => by simp [Field.shape, Shape.read, Field.encode, Field.bodies, PacketReader.i32_be32]
  | .i64 v, _, trailing => by simp [Field.shape, Shape.read, Field.encode, Field.bodies, PacketReader.i64_be64]
  | .counted bs, _, trailing => by
    simp [Field.shape, Shape.read, Field.encode, Field.bodies, PacketReader.readPacket_append rfl]
  | .wrapped w body, hfits, trailing =>
    Shape.read_wrapped hfits.1 (body.read_encode hfits.2 [] fun _ => rfl) trailing

theorem Body.read_encode : (body : Body) → body.Fits → (trailing : Bytes) → (body.toEnd = true → trailing = []) →
    (body.shape.read : Cursor ε _).run (body.encode ++ trailing) = .ok ((body, body.bodies), trailing)
  | .done, _, trailing, _ => rfl
  | .rest bs, _, trailing, hend => by
    rw [hend rfl, List.append_nil]
    rfl
  | .cons field body, hfits, trailing, hend => by
    have hfield := field.read_encode hfits.1 (body.encode ++ trailing)
    have hbody := body.read_encode hfits.2 trailing hend
    rw [Body.shape, BodyShape.read, Body.encode, List.append_assoc, StateT.run_bind, hfield, Outcome.ok_bind,
      StateT.run_bind, hbody]
    rfl

end

/-- **The round trip**: behind whatever is already written, a tree is
written as its encoding, and the mirrored reader finds every value, gives
every inner reader its own body and stops at the end. -/
theorem Body.read_write (body : Body) (hfits : body.Fits) (written trailing : Bytes)
    (hend : body.toEnd = true → trailing = []) :
    ∃ encoding, (body.write { buffer := written } : Outcome ε PacketBuilder) = .ok { buffer := written ++ encoding } ∧
      (body.shape.read : Cursor ε _).run (encoding ++ trailing) = .ok ((body, body.bodies), trailing) :=
  ⟨body.encode, body.writes hfits { buffer := written }, body.read_encode hfits trailing hend⟩

/-- A number and a section, counted in its own `u16`, with a text to the end. -/
def Body.nested : Body :=
  .cons (.u32 7) (.cons (.wrapped (.withLength .two true) (.cons (.i8 (-1)) (.rest [65, 66]))) .done)

theorem Body.read_write_nested : ∃ encoding,
    (Body.nested.write { buffer := [9] } : Outcome Unit PacketBuilder) = .ok { buffer := [9] ++ encoding } ∧
      (Body.nested.shape.read : Cursor Unit _).run (encoding ++ [1]) = .ok ((Body.nested, [[255, 65, 66]]), [1]) :=
  Body.nested.read_write ⟨trivial, ⟨by decide, trivial, trivial⟩, trivial⟩ [9] [1] nofun

end Mania
