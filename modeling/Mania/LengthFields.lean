/-
The length fields of `core/packet.rs` and of the body of a QR code command:
what the bytes of a length field read as, and exactly for which bodies that
is the length the packet has (`lengthFields_iff`).

A sum in `isize` is exact here. Where one leaves that range, its last 32
bits are the same whether or not it wraps around.
-/
import Mathlib.Algebra.Group.Nat.Defs
import Mathlib.Algebra.Group.Int.Defs
import Mania.WtLoginFacts

namespace Mania

open Bytes

/-! ## Reading a length field -/

namespace PrefixWidth

/-- A length field reads as the length modulo what the field can hold. -/
theorem ofBE_encode (w : PrefixWidth) (n : Int) : (ofBE (w.encode n) : Int) = n % 256 ^ w.size := by
  cases w with
  | one =>
    have h1 : ofBE [UInt8.ofInt n] = (UInt8.ofInt n).toNat := by simp [ofBE]
    rw [encode, h1]
    simp only [size, UInt8.ofInt, UInt8.toNat_ofNat']
    omega
  | two =>
    have h2 : ofBE (be16 (UInt16.ofInt n)) = (UInt16.ofInt n).toNat := by
      rw [be16, ofBE_toBE]
      exact Nat.mod_eq_of_lt (UInt16.toNat_lt _)
    rw [encode, h2]
    simp only [size, UInt16.ofInt, UInt16.toNat_ofNat']
    omega
  | four =>
    have h4 : ofBE (be32 (UInt32.ofInt n)) = (UInt32.ofInt n).toNat := by
      rw [be32, ofBE_toBE]
      exact Nat.mod_eq_of_lt (UInt32.toNat_lt _)
    rw [encode, h4]
    simp only [size, UInt32.ofInt, UInt32.toNat_ofNat']
    omega

theorem ofBE_encode_eq_iff (w : PrefixWidth) (n : Int) :
    (ofBE (w.encode n) : Int) = n ↔ 0 ≤ n ∧ n < 256 ^ w.size := by
  have hpos : (0 : Int) < 256 ^ w.size := Int.pow_pos (by decide)
  rw [ofBE_encode]
  constructor
  · intro h
    exact ⟨h ▸ Int.emod_nonneg n (by omega), h ▸ Int.emod_lt_of_pos n hpos⟩
  · rintro ⟨h0, hlt⟩
    exact Int.emod_eq_of_lt h0 hlt

end PrefixWidth

namespace PacketBuilder

variable {ε : Type}

/-- What a closure of calls does: it panics, or it appends a body to the
buffer it is given. -/
def Appends (f : Write ε) : Prop :=
  ∀ self : PacketBuilder, f self = .panic ∨ ∃ body, f self = .ok { buffer := self.buffer ++ body }

theorem Writes.appends {w : Write ε} {bs : Bytes} (h : Writes w bs) : Appends w := fun self => .inr ⟨bs, h self⟩

/-! ## The calls with a length field -/

/-- `write_with_length` with its constants, and the two sections with an
addition; `section` and `section_16` add the width of their own field. -/
inductive LengthCall where
  | writeWithLength (w : PrefixWidth) (counted : Bool) (A : Int)
  | sectionWithAddition (N : Int)
  | section16WithAddition (N : Int)
  deriving DecidableEq

namespace LengthCall

def write : LengthCall → Write ε → Write ε
  | writeWithLength w counted A => PacketBuilder.writeWithLength (w.bits counted) A
  | sectionWithAddition N => PacketBuilder.sectionWithAddition N
  | section16WithAddition N => PacketBuilder.section16WithAddition N

def width : LengthCall → PrefixWidth
  | writeWithLength w .. => w
  | sectionWithAddition _ => .four
  | section16WithAddition _ => .two

/-- What the length adds to that of the body: the prefix where it is
counted, and the addition. -/
def addition : LengthCall → Int
  | writeWithLength w counted A => w.added counted + A
  | sectionWithAddition N => N
  | section16WithAddition N => N

/-- The builder the closure is called with: the field is still zero. -/
def opened (call : LengthCall) (self : PacketBuilder) : PacketBuilder :=
  { buffer := self.buffer ++ call.width.encode 0 }

/-- The lengths that the call itself refuses: `section_16` alone compares
the length with the most its field can hold. -/
def TooLong (call : LengthCall) (length : Int) : Prop :=
  match call with
  | section16WithAddition _ => 65535 < length
  | _ => False

/-- The call refuses the length, or the field can hold it. -/
def Fits (call : LengthCall) (length : Int) : Prop :=
  call.TooLong length ∨ 0 ≤ length ∧ length < 256 ^ call.width.size

/-- The call panics, or the length it leaves before the body is the body's
with the addition. -/
def Lawful (call : LengthCall) (f : Write ε) (self : PacketBuilder) : Prop :=
  call.write f self = .panic ∨ ∃ field body,
    f (call.opened self) = .ok { buffer := (call.opened self).buffer ++ body } ∧
    field.length = call.width.size ∧
    call.write f self = .ok { buffer := self.buffer ++ (field ++ body) } ∧
    (ofBE field : Int) = body.length + call.addition

/-- The closure is called once, with the opened builder. -/
theorem write_congr (call : LengthCall) {f g : Write ε} {self : PacketBuilder}
    (h : f (call.opened self) = g (call.opened self)) : call.write f self = call.write g self := by
  cases call with
  | writeWithLength w counted A =>
    have hsize : (w.bits counted &&& 0b0111).toNat = w.size := by cases w <;> cases counted <;> decide
    cases w with
    | one =>
      have h1 : f { buffer := self.buffer ++ [0] } = g { buffer := self.buffer ++ [0] } := h
      simp only [write, PacketBuilder.writeWithLength, hsize, PrefixWidth.size, Nat.succ_ne_zero, if_false,
        Writes.u8 0 self, Outcome.ok_bind, h1]
    | two =>
      have h2 : f { buffer := self.buffer ++ be16 0 } = g { buffer := self.buffer ++ be16 0 } := h
      simp only [write, PacketBuilder.writeWithLength, hsize, PrefixWidth.size, Nat.succ_ne_zero, if_false,
        Writes.u16 0 self, Outcome.ok_bind, h2]
    | four =>
      have h4 : f { buffer := self.buffer ++ be32 0 } = g { buffer := self.buffer ++ be32 0 } := h
      simp only [write, PacketBuilder.writeWithLength, hsize, PrefixWidth.size, Nat.succ_ne_zero, if_false,
        Writes.u32 0 self, Outcome.ok_bind, h4]
  | sectionWithAddition N =>
    have h4 : f { buffer := self.buffer ++ be32 0 } = g { buffer := self.buffer ++ be32 0 } := h
    simp only [write, PacketBuilder.sectionWithAddition, Writes.u32 0 self, Outcome.ok_bind, h4]
  | section16WithAddition N =>
    have h2 : f { buffer := self.buffer ++ be16 0 } = g { buffer := self.buffer ++ be16 0 } := h
    simp only [write, PacketBuilder.section16WithAddition, Writes.u16 0 self, Outcome.ok_bind, h2]

theorem write_panic (call : LengthCall) {f : Write ε} {self : PacketBuilder} (h : f (call.opened self) = .panic) :
    call.write f self = .panic := by
  rw [call.write_congr (g := fun _ => .panic) h]
  cases call with
  | writeWithLength w counted A => cases w <;> cases counted <;> rfl
  | sectionWithAddition N => rfl
  | section16WithAddition N => rfl

theorem write_tooLong (call : LengthCall) {f : Write ε} {self : PacketBuilder} {body : Bytes}
    (h : f (call.opened self) = .ok { buffer := (call.opened self).buffer ++ body })
    (hlong : call.TooLong (body.length + call.addition)) : call.write f self = .panic := by
  cases call with
  | writeWithLength w counted A => exact hlong.elim
  | sectionWithAddition N => exact hlong.elim
  | section16WithAddition N =>
    have hlength : ((((self.buffer ++ be16 0) ++ body).length - self.buffer.length : Nat) : Int) - 2 + N =
        body.length + N := by
      simp only [List.length_append, be16_length]
      omega
    have h2 : f { buffer := self.buffer ++ be16 0 } = .ok { buffer := self.buffer ++ be16 0 ++ body } := h
    have hlt : ¬ (body.length : Int) + N ≤ 65535 := Int.not_le.mpr hlong
    simp only [write, PacketBuilder.section16WithAddition, Writes.u16 0 self, Outcome.ok_bind, h2]
    rw [Outcome.sub_ok (by simp), Outcome.ok_bind, hlength, Outcome.guard_neg hlt]
    rfl

/-- The length goes in front of the body, cut to the width of its field. -/
theorem write_ok (call : LengthCall) {f : Write ε} {self : PacketBuilder} {body : Bytes}
    (h : f (call.opened self) = .ok { buffer := (call.opened self).buffer ++ body })
    (hlong : ¬ call.TooLong (body.length + call.addition)) :
    call.write f self =
      .ok { buffer := self.buffer ++ (call.width.encode (body.length + call.addition) ++ body) } := by
  rw [call.write_congr (g := bytes body) h]
  cases call with
  | writeWithLength w counted A =>
    have hsum : ((body.length + w.added counted : Nat) : Int) + A = body.length + (w.added counted + A) := by
      omega
    rw [write, writes_writeWithLength w counted (Writes.bytes body) self, hsum]
    rfl
  | sectionWithAddition N => exact writes_sectionWithAddition (Writes.bytes body) self
  | section16WithAddition N =>
    exact writes_section16WithAddition (Writes.bytes body) (Int.not_lt.mp hlong) self

/-- The length is right exactly for the bodies it fits. -/
theorem lawful_iff (call : LengthCall) {f : Write ε} (hf : Appends f) (self : PacketBuilder) :
    call.Lawful f self ↔ ∀ body : Bytes,
      f (call.opened self) = .ok { buffer := (call.opened self).buffer ++ body } →
      call.Fits (body.length + call.addition) := by
  rcases hf (call.opened self) with hpanic | ⟨body, hbody⟩
  · simp [Lawful, call.write_panic hpanic, hpanic]
  have hbody_eq {body' : Bytes}
      (h : f (call.opened self) = .ok { buffer := (call.opened self).buffer ++ body' }) : body' = body := by
    rw [hbody] at h
    simpa [eq_comm] using h
  have hfits : (∀ body' : Bytes, f (call.opened self) = .ok { buffer := (call.opened self).buffer ++ body' } →
      call.Fits (body'.length + call.addition)) ↔ call.Fits (body.length + call.addition) := by
    constructor
    · intro h
      exact h body hbody
    · intro h body' hbody'
      rw [hbody_eq hbody']
      exact h
  rw [hfits]
  by_cases hlong : call.TooLong (body.length + call.addition)
  · exact iff_of_true (.inl (call.write_tooLong hbody hlong)) (.inl hlong)
  have hwrite := call.write_ok hbody hlong
  constructor
  · rintro (hpanic | ⟨field, body', hbody', hlen, hout, hlaw⟩)
    · rw [hwrite] at hpanic
      cases hpanic
    · cases hbody_eq hbody'
      rw [hwrite, Outcome.ok.injEq, PacketBuilder.mk.injEq, List.append_cancel_left_eq,
        List.append_cancel_right_eq] at hout
      rw [← hout, PrefixWidth.ofBE_encode_eq_iff] at hlaw
      exact .inr hlaw
  · rintro (hlong' | hrange)
    · exact absurd hlong' hlong
    · exact .inr ⟨_, body, hbody, PrefixWidth.encode_length _ _, hwrite,
        (PrefixWidth.ofBE_encode_eq_iff _ _).mpr hrange⟩

end LengthCall

end PacketBuilder

/-! ## The body of a QR code command -/

namespace WtLogin

open PacketBuilder

variable {ε : Type}

/-- The two lengths of the body read as what is behind them: the request,
and the new packet behind the request's time. -/
structure TransEmpLengths (body : Bytes) : Prop where
  request : ofBE ((body.drop 1).take 2) = (body.drop 14).length
  newPacket : ofBE ((body.drop 19).take 2) = (body.drop 18).length

theorem ofBE_be16_ofNat (n : Nat) (rest : Bytes) : ofBE ((be16 (UInt16.ofNat n) ++ rest).take 2) = n % 65536 := by
  rw [List.take_left' (be16_length _), be16, ofBE_toBE, UInt16.toNat_ofNat']
  exact Nat.mod_mod n 65536

theorem transEmpLengths_iff (ctx : Context) (timestamp : Int64) (qrCmd : UInt16) (tlvs : Bytes) :
    (∃ body, (buildTransEmpBody ctx timestamp qrCmd tlvs : Outcome ε Bytes) = .ok body ∧ TransEmpLengths body) ↔
      tlvs.length + 48 < 65536 := by
  let time := be32 timestamp.toUInt64.toUInt32
  let new := newPacketBytes qrCmd tlvs
  let body := [0] ++ (be16 (UInt16.ofNat (48 + tlvs.length)) ++ (transEmpHead ctx ++ (time ++ new)))
  have hbuild : (buildTransEmpBody ctx timestamp qrCmd tlvs : Outcome ε Bytes) = .ok body :=
    buildTransEmpBody_eq ctx timestamp qrCmd tlvs
  have hnew : new.length = 44 + tlvs.length := newPacketBytes_length qrCmd tlvs
  have hrequest : body.drop 14 = time ++ new := by
    rw [show body = [0] ++ be16 (UInt16.ofNat (48 + tlvs.length)) ++ transEmpHead ctx ++ (time ++ new) by simp [body]]
    exact List.drop_left' (by simp [transEmpHead_length])
  have hpacket : body.drop 18 = new := by
    rw [← List.drop_drop (i := 4) (j := 14), hrequest]
    exact List.drop_left' (be32_length _)
  have hlen : ofBE ((body.drop 1).take 2) = (48 + tlvs.length) % 65536 := ofBE_be16_ofNat _ _
  have hnewLen : ofBE ((body.drop 19).take 2) = (44 + tlvs.length) % 65536 := by
    rw [← List.drop_drop (i := 1) (j := 18), hpacket]
    exact ofBE_be16_ofNat _ _
  rw [hbuild]
  constructor
  · rintro ⟨body', hbody, hrequestLen, -⟩
    cases hbody
    have hlt := Nat.mod_lt (48 + tlvs.length) (y := 65536) (by decide)
    rw [hlen, hrequest, List.length_append, be32_length, hnew] at hrequestLen
    omega
  · intro hsmall
    refine ⟨body, rfl, ?_, ?_⟩
    · rw [hlen, hrequest, List.length_append, be32_length, hnew]
      omega
    · rw [hnewLen, hpacket, hnew]
      omega

end WtLogin

open PacketBuilder WtLogin

/-- **Length fields.** A call with a length field panics or leaves the true
length exactly if every body the closure can append fits, and the two
lengths written by hand are right exactly below 2¹⁶. -/
theorem lengthFields_iff (call : LengthCall) (f : Write Empty) (hf : Appends f) (self : PacketBuilder) (ctx : Context)
    (timestamp : Int64) (qrCmd : UInt16) (tlvs : Bytes) :
    (call.Lawful f self ↔ ∀ body : Bytes,
      f (call.opened self) = .ok { buffer := (call.opened self).buffer ++ body } →
      call.Fits (body.length + call.addition)) ∧
    ((∃ body, (buildTransEmpBody ctx timestamp qrCmd tlvs : Outcome Empty Bytes) = .ok body ∧
      TransEmpLengths body) ↔ tlvs.length + 48 < 65536) :=
  ⟨call.lawful_iff hf self, transEmpLengths_iff ctx timestamp qrCmd tlvs⟩

/-- A section of one byte, and a command without TLVs. -/
theorem lengthFields_section :
    ((LengthCall.sectionWithAddition 4).Lawful (ε := Empty) (bytes [7]) new ↔ ∀ body : Bytes,
      (bytes [7] : Write Empty) ((LengthCall.sectionWithAddition 4).opened new) =
        .ok { buffer := ((LengthCall.sectionWithAddition 4).opened new).buffer ++ body } →
      (LengthCall.sectionWithAddition 4).Fits (body.length + 4)) ∧
    ((∃ body, (buildTransEmpBody { keyStore := { uin := 0, session := { d2Key := .replicate 16 0 } } } 0 0x31 [] :
      Outcome Empty Bytes) = .ok body ∧ TransEmpLengths body) ↔ ([] : Bytes).length + 48 < 65536) :=
  lengthFields_iff (.sectionWithAddition 4) (bytes [7]) (Writes.bytes [7]).appends new
    { keyStore := { uin := 0, session := { d2Key := .replicate 16 0 } } } 0 0x31 []

/-- A body of 2¹⁶ bytes behind a prefix of two bytes is announced as empty. -/
theorem longBody_not_lawful :
    ¬ ∀ (call : LengthCall) (f : Write Empty) (self : PacketBuilder), Appends f → call.Lawful f self := by
  intro h
  let call : LengthCall := .writeWithLength .two false 0
  have hlaw := h call (bytes (List.replicate 65536 0)) new (Writes.bytes _).appends
  rw [call.lawful_iff (Writes.bytes _).appends] at hlaw
  rcases hlaw (List.replicate 65536 0) rfl with hlong | ⟨-, hlt⟩
  · exact hlong
  · rw [List.length_replicate] at hlt
    exact absurd hlt (by decide)

end Mania
