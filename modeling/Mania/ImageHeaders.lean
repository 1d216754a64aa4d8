/-
What `resolve_image_metadata` answers for the headers of PNG, GIF and WebP
images, written as the formats have them.

`ImageHeader.bytes` lays a header out with its sizes; `resolvesAs_iff` says
for which sizes they are the ones read. An image of fewer than 32 bytes is
not read at all.
-/
import Mathlib.Algebra.Group.Nat.Defs
import Mania.ImageResolver

namespace Mania

open Bytes ByteStream LittleEndian Effect

/-! ## Numbers in little-endian order -/

/-- The last `k` base-256 digits of `n`, least significant first. -/
def toLE : Nat → Nat → Bytes
  | 0, _ => []
  | k + 1, n => UInt8.ofNat n :: toLE k (n / 256)

@[simp] theorem toLE_length (k n : Nat) : (toLE k n).length = k := by
  induction k generalizing n with
  | zero => rfl
  | succ k ih => simp [toLE, ih]

theorem toLE_reverse (k n : Nat) : (toLE k n).reverse = toBE k n := by
  induction k generalizing n with
  | zero => rfl
  | succ k ih => rw [toLE, List.reverse_cons, ih, toBE]

/-- A longer number starts with its low digits. -/
theorem toLE_take {j k : Nat} (h : j ≤ k) (n : Nat) : (toLE k n).take j = toLE j n := by
  induction k generalizing j n with
  | zero => rw [Nat.le_zero.mp h]; rfl
  | succ k ih =>
    cases j with
    | zero => rfl
    | succ j => rw [toLE, List.take_succ_cons, ih (Nat.le_of_succ_le_succ h), toLE]

theorem readU16_toLE {k : Nat} (h : 2 ≤ k) (n : Nat) : readU16 (toLE k n) = UInt16.ofNat n := by
  rw [readU16, toLE_take h, toLE_reverse, ofBE16, ofBE_toBE]
  apply UInt16.toNat_inj.mp
  simp only [UInt16.toNat_ofNat']
  omega

theorem readU32_toLE (n : Nat) : readU32 (toLE 4 n) = UInt32.ofNat n := by
  rw [readU32, toLE_take (Nat.le_refl 4), toLE_reverse, ofBE32, ofBE_toBE]
  apply UInt32.toNat_inj.mp
  simp only [UInt32.toNat_ofNat']
  omega

/-- A range of bytes that starts behind `front`. -/
theorem byteRange_append {front mid rest : Bytes} {lo hi : Nat} (hlo : front.length = lo)
    (hhi : lo + mid.length = hi) : byteRange (front ++ (mid ++ rest)) lo hi = mid := by
  subst hlo hhi
  rw [byteRange, List.drop_left, Nat.add_sub_cancel_left, List.take_left]

/-! ## The headers -/

/-- The sizes of an image and what else its header holds. The sizes of `VP8L`
and `VP8X` are one less than the image's. -/
inductive ImageHeader where
  | png (width height : UInt32)
  | gif (late : Bool) (width height : UInt16)
  | vp8 (frameTag : Vector UInt8 3) (width height : Fin (2 ^ 14)) (xScale yScale : Fin 4)
  | vp8l (width height : Fin (2 ^ 14)) (flags : Fin (2 ^ 4))
  | vp8x (flags : Vector UInt8 4) (width height : Fin (2 ^ 24))
  deriving DecidableEq

/-- `RIFF`, the size of the file, `WEBP`, the type of the first chunk, its size. -/
def riffHead (fileSize chunkSize : UInt32) (chunkType : Bytes) : Bytes :=
  [0x52, 0x49, 0x46, 0x46] ++ (toLE 4 fileSize.toNat ++ ([0x57, 0x45, 0x42, 0x50] ++ (chunkType ++
    toLE 4 chunkSize.toNat)))

namespace ImageHeader

def format : ImageHeader → ImageFormat
  | png .. => .png
  | gif .. => .gif
  | vp8 .. => .webp
  | vp8l .. => .webp
  | vp8x .. => .webp

def width : ImageHeader → Nat
  | png w _ => w.toNat
  | gif _ w _ => w.toNat
  | vp8 _ w _ _ _ => w.val
  | vp8l w _ _ => w.val + 1
  | vp8x _ w _ => w.val + 1

def height : ImageHeader → Nat
  | png _ h => h.toNat
  | gif _ _ h => h.toNat
  | vp8 _ _ h _ _ => h.val
  | vp8l _ h _ => h.val + 1
  | vp8x _ _ h => h.val + 1

/-- The header, in a file of this size with a first chunk of this size. -/
def bytes (fileSize chunkSize : UInt32) : ImageHeader → Bytes
  | png w h => pngMagic ++ ([0, 0, 0, 13, 0x49, 0x48, 0x44, 0x52] ++ (be32 w ++ be32 h))
  | gif late w h =>
    [0x47, 0x49, 0x46, 0x38, if late then 0x39 else 0x37, 0x61] ++ (toLE 2 w.toNat ++ toLE 2 h.toNat)
  | vp8 tag w h xScale yScale =>
    riffHead fileSize chunkSize [0x56, 0x50, 0x38, 0x20] ++ (tag.toList ++ ([0x9D, 0x01, 0x2A] ++
      (toLE 2 (w.val + xScale.val * 2 ^ 14) ++ toLE 2 (h.val + yScale.val * 2 ^ 14))))
  | vp8l w h flags =>
    riffHead fileSize chunkSize [0x56, 0x50, 0x38, 0x4C] ++ ([0x2F] ++
      toLE 4 (w.val + h.val * 2 ^ 14 + flags.val * 2 ^ 28))
  | vp8x flags w h =>
    riffHead fileSize chunkSize [0x56, 0x50, 0x38, 0x58] ++ (flags.toList ++ (toLE 3 w.val ++ toLE 3 h.val))

/-- The headers whose sizes are read as they are: a `VP8` image is not
scaled, a `VP8L` image has a height of one, and a `VP8X` image has sizes of
16 bits. -/
def Readable : ImageHeader → Prop
  | png .. => True
  | gif .. => True
  | vp8 _ _ _ xScale yScale => xScale = 0 ∧ yScale = 0
  | vp8l _ h _ => h = 0
  | vp8x _ w h => w.val + 1 < 2 ^ 16 ∧ h.val + 1 < 2 ^ 16

/-- What is answered for an image with this header and more behind it. -/
def ResolvesAs (line : CallLine) (s : ByteStream) (format : ImageFormat) (width height : Nat) : Prop :=
  (resolveImageMetadata line).run s = (.ok (format, UInt32.ofNat width, UInt32.ofNat height), s)

end ImageHeader

/-! ## Reading a header -/

variable {line : CallLine} {s : ByteStream}

theorem seekTo_run {k : Nat} (h : line k = .ok ()) (position : Nat) :
    (io (seekTo line k position)).run s = (.ok (), { s with position }) := by
  rw [io, mapErr_eq_ok, seekTo, answerCall, h]
  rfl

theorem returnInfo_run {k : Nat} (h : line k = .ok ()) (position : Nat) (info : ImageInfo) :
    (returnInfo line k position info).run s = (.ok info, { s with position }) := by
  rw [returnInfo, Effect.bind_ok (seekTo_run h position)]
  rfl

theorem byteRange_take {bs : Bytes} {lo hi n : Nat} (h : hi ≤ n) :
    byteRange (bs.take n) lo hi = byteRange bs lo hi := by
  rw [byteRange, byteRange, List.drop_take, List.take_take, Nat.min_eq_left (by omega)]

theorem answerCall_run {k : Nat} (h : line k = .ok ()) : (io (answerCall line k)).run s = (.ok (), s) := by
  rw [io, mapErr_eq_ok, answerCall, h]
  rfl

/-- The header is the first 32 bytes. -/
theorem resolveImageMetadata_run (hline : ∀ k, line k = .ok ()) (h32 : 32 ≤ s.content.length) :
    (resolveImageMetadata line).run s =
      (resolveHeader line s.position (s.content.take 32)).run { s with position := 32 } := by
  have hread : (io (ByteStream.readExact line 2 32)).run { s with position := 0 } =
      (.ok (s.content.take 32), { s with position := 32 }) := by
    have hlong : ¬ ({ s with position := 0 } : ByteStream).rest.length < 32 := Nat.not_lt.mpr h32
    rw [io, mapErr_eq_ok, ByteStream.readExact, answerCall, hline, pure_bind, get_bind]
    simp only [hlong, if_false]
    rfl
  rw [resolveImageMetadata, Effect.bind_ok (answerCall_run (hline 0)), get_bind, Effect.bind_ok (seekTo_run (hline 1) 0),
    Effect.bind_ok hread]

/-- An image of fewer bytes than that is refused, whatever its format. -/
theorem resolveImageMetadata_short (hline : ∀ k, line k = .ok ()) (hshort : s.content.length < 32) :
    (resolveImageMetadata line).run s = (.err (.io "early eof"), { s with position := s.content.length }) := by
  have hread : (io (ByteStream.readExact line 2 32)).run { s with position := 0 } =
      (.err (.io "early eof"), { s with position := s.content.length }) := by
    have hrest : ({ s with position := 0 } : ByteStream).rest.length < 32 := hshort
    apply mapErr_err
    rw [ByteStream.readExact, answerCall, hline, pure_bind, get_bind]
    simp only [hrest, if_true, modify_bind, throw_run, drained, Nat.zero_max]
  rw [resolveImageMetadata, Effect.bind_ok (answerCall_run (hline 0)), get_bind, Effect.bind_ok (seekTo_run (hline 1) 0),
    Effect.bind_err hread]

namespace ImageHeader

variable {fileSize chunkSize : UInt32} {rest : Bytes}

/-- What is answered where the header alone tells. -/
theorem resolvesAs_of_info (hline : ∀ k, line k = .ok ()) (h32 : 32 ≤ s.content.length)
    {info : Outcome ImageResolverError ImageInfo}
    (hheader : resolveHeader line s.position (s.content.take 32) = (do
      let info ← Effect.lift info
      returnInfo line 3 s.position info)) {format : ImageFormat} {width height : Nat} :
    ResolvesAs line s format width height ↔ info = .ok (format, UInt32.ofNat width, UInt32.ofNat height) := by
  rw [ResolvesAs, resolveImageMetadata_run hline h32, hheader]
  cases info with
  | ok info =>
    rw [lift_ok, pure_bind, returnInfo_run (hline 3)]
    simp
  | err e => simp
  | panic => simp

theorem png_info {w h : UInt32} (hcontent : s.content = (png w h).bytes fileSize chunkSize ++ rest) :
    resolveHeader line s.position (s.content.take 32) = (do
      let info ← Effect.lift (.ok (.png, w, h))
      returnInfo line 3 s.position info) := by
  have hw : byteRange s.content 16 20 = be32 w := by
    rw [hcontent, bytes, List.append_assoc, List.append_assoc, List.append_assoc, ← List.append_assoc pngMagic]
    exact byteRange_append rfl (by simp)
  have hh : byteRange s.content 20 24 = be32 h := by
    rw [hcontent, bytes, List.append_assoc, List.append_assoc, List.append_assoc, ← List.append_assoc pngMagic,
      ← List.append_assoc _ (be32 w)]
    exact byteRange_append (by simp [pngMagic]) (by simp)
  have hinfo : pngInfo (s.content.take 32) = (.png, w, h) := by
    rw [pngInfo, byteRange_take (by decide), byteRange_take (by decide), hw, hh, ofBE32_be32, ofBE32_be32]
  have hresolve : resolveHeader line s.position (s.content.take 32) =
      returnInfo line 3 s.position (pngInfo (s.content.take 32)) := by
    rw [hcontent]
    rfl
  rw [hresolve, hinfo]
  rfl

theorem gif_info {late : Bool} {w h : UInt16} (hcontent : s.content = (gif late w h).bytes fileSize chunkSize ++ rest) :
    resolveHeader line s.position (s.content.take 32) = (do
      let info ← Effect.lift (.ok (.gif, w.toUInt32, h.toUInt32))
      returnInfo line 3 s.position info) := by
  have hw : byteRange s.content 6 8 = toLE 2 w.toNat := by
    rw [hcontent, bytes, List.append_assoc, List.append_assoc]
    exact byteRange_append rfl (by simp)
  have hh : byteRange s.content 8 10 = toLE 2 h.toNat := by
    rw [hcontent, bytes, List.append_assoc, List.append_assoc, ← List.append_assoc _ (toLE 2 w.toNat)]
    exact byteRange_append (by simp) (by simp)
  have hinfo : gifInfo (s.content.take 32) = (.gif, w.toUInt32, h.toUInt32) := by
    rw [gifInfo, byteRange_take (by decide), byteRange_take (by decide), hw, hh, readU16_toLE (Nat.le_refl 2),
      readU16_toLE (Nat.le_refl 2), UInt16.ofNat_toNat, UInt16.ofNat_toNat]
  have hresolve : resolveHeader line s.position (s.content.take 32) =
      returnInfo line 3 s.position (gifInfo (s.content.take 32)) := by
    rw [hcontent]
    cases late <;> rfl
  rw [hresolve, hinfo]
  rfl

theorem riffHead_length (fileSize chunkSize : UInt32) {chunkType : Bytes} (h : chunkType.length = 4) :
    (riffHead fileSize chunkSize chunkType).length = 20 := by
  simp [riffHead, h]

section Webp

variable {chunkType tail : Bytes}

/-- The type of the chunk, behind `RIFF` and `WEBP`. -/
theorem chunkType_eq (hcontent : s.content = riffHead fileSize chunkSize chunkType ++ tail)
    (htype : chunkType.length = 4) : byteRange (s.content.take 32) 12 16 = chunkType := by
  rw [byteRange_take (by decide), hcontent, riffHead]
  simp only [List.append_assoc]
  rw [← List.append_assoc (toLE 4 fileSize.toNat), ← List.append_assoc [0x52, 0x49, 0x46, 0x46]]
  exact byteRange_append (by simp) (by rw [htype])

theorem webp_info (hcontent : s.content = riffHead fileSize chunkSize chunkType ++ tail) :
    resolveHeader line s.position (s.content.take 32) = (do
      let info ← Effect.lift (webpInfo (s.content.take 32))
      returnInfo line 3 s.position info) := by
  have hwebp : byteRange (s.content.take 32) 8 12 = [0x57, 0x45, 0x42, 0x50] := by
    rw [byteRange_take (by decide), hcontent, riffHead]
    simp only [List.append_assoc]
    rw [← List.append_assoc [0x52, 0x49, 0x46, 0x46]]
    exact byteRange_append (by simp) rfl
  have hriff : List.isPrefixOf [0x52, 0x49, 0x46, 0x46] (s.content.take 32) = true := by
    rw [hcontent]
    rfl
  have hother : resolveHeader line s.position (s.content.take 32) =
      resolveOthers line 3 s.position (s.content.take 32) := by
    rw [hcontent]
    rfl
  have hpng : pngMagic.isPrefixOf (s.content.take 32) = false := by
    rw [hcontent]
    rfl
  rw [hother, resolveOthers, hpng, if_neg Bool.false_ne_true, if_pos ⟨hriff, hwebp⟩]

end Webp

/-- `VP8`: the two scaling bits are read as part of the size. -/
theorem vp8_info {tag : Vector UInt8 3} {w h : Fin (2 ^ 14)} {xScale yScale : Fin 4}
    (hcontent : s.content = (vp8 tag w h xScale yScale).bytes fileSize chunkSize ++ rest) :
    (webpInfo (s.content.take 32) : Outcome ImageResolverError ImageInfo) =
      .ok (.webp, UInt32.ofNat (w.val + xScale.val * 2 ^ 14), UInt32.ofNat (h.val + yScale.val * 2 ^ 14)) := by
  have hhead := riffHead_length fileSize chunkSize (show List.length ([0x56, 0x50, 0x38, 0x20] : Bytes) = 4 from rfl)
  have hriff := hcontent
  rw [bytes, List.append_assoc] at hriff
  have hw : byteRange s.content 26 28 = toLE 2 (w.val + xScale.val * 2 ^ 14) := by
    rw [hcontent, bytes]
    simp only [List.append_assoc]
    rw [← List.append_assoc tag.toList, ← List.append_assoc (riffHead _ _ _)]
    exact byteRange_append (by simp [hhead]) (by simp)
  have hh : byteRange s.content 28 30 = toLE 2 (h.val + yScale.val * 2 ^ 14) := by
    rw [hcontent, bytes]
    simp only [List.append_assoc]
    rw [← List.append_assoc [0x9D, 0x01, 0x2A], ← List.append_assoc tag.toList, ← List.append_assoc (riffHead _ _ _)]
    exact byteRange_append (by simp [hhead]) (by simp)
  have hsmall (n m : Nat) (hn : n < 2 ^ 14) (hm : m < 4) :
      (UInt16.ofNat (n + m * 2 ^ 14)).toUInt32 = UInt32.ofNat (n + m * 2 ^ 14) := by
    apply UInt32.toNat_inj.mp
    simp only [UInt16.toNat_toUInt32, UInt16.toNat_ofNat', UInt32.toNat_ofNat']
    omega
  rw [webpInfo, chunkType_eq hriff rfl]
  simp only [byteRange_take (show 28 ≤ 32 by decide), byteRange_take (show 30 ≤ 32 by decide), hw, hh,
    readU16_toLE (Nat.le_refl 2), hsmall _ _ w.isLt xScale.isLt, hsmall _ _ h.isLt yScale.isLt]
  rfl

/-- The bits of a mask that starts at bit `k`. -/
theorem and_shiftLeft_mask (n m k : Nat) : n &&& (m <<< k) = ((n >>> k) &&& m) <<< k := by
  apply Nat.eq_of_testBit_eq
  intro i
  simp only [Nat.testBit_and, Nat.testBit_shiftLeft, Nat.testBit_shiftRight]
  by_cases h : k ≤ i
  · simp [h]
  · simp [h]

/-- The two masks of `VP8L` over its 32 bits. -/
theorem vp8l_masks (w h : Fin (2 ^ 14)) (flags : Fin (2 ^ 4)) :
    (UInt32.ofNat (w.val + h.val * 2 ^ 14 + flags.val * 2 ^ 28) &&& 0x3FFF) + 1 = UInt32.ofNat (w.val + 1) ∧
    (UInt32.ofNat (w.val + h.val * 2 ^ 14 + flags.val * 2 ^ 28) &&& 0xFFFC000) + 1 =
      UInt32.ofNat (h.val * 2 ^ 14 + 1) := by
  have hw := w.isLt
  have hh := h.isLt
  have hflags := flags.isLt
  let n := w.val + h.val * 2 ^ 14 + flags.val * 2 ^ 28
  have hlt : n < 2 ^ 32 := by
    simp only [n]
    omega
  have hn : (UInt32.ofNat n).toNat = n := UInt32.toNat_ofNat_of_lt' hlt
  have hwidth : n &&& 0x3FFF = w.val := by
    rw [Nat.and_two_pow_sub_one_eq_mod n 14]
    simp only [n]
    omega
  have hheight : n &&& 0xFFFC000 = h.val * 2 ^ 14 := by
    rw [show (0xFFFC000 : Nat) = 0x3FFF <<< 14 by decide, and_shiftLeft_mask, Nat.and_two_pow_sub_one_eq_mod _ 14,
      Nat.shiftRight_eq_div_pow, Nat.shiftLeft_eq]
    simp only [n]
    omega
  constructor
  · apply UInt32.toNat_inj.mp
    rw [UInt32.toNat_add, UInt32.toNat_and, hn]
    simp only [UInt32.toNat_ofNat', UInt32.reduceToNat, hwidth]
  · apply UInt32.toNat_inj.mp
    rw [UInt32.toNat_add, UInt32.toNat_and, hn]
    simp only [UInt32.toNat_ofNat', UInt32.reduceToNat, hheight]

/-- `VP8L`: the bits of the height are not moved down. -/
theorem vp8l_info {w h : Fin (2 ^ 14)} {flags : Fin (2 ^ 4)}
    (hcontent : s.content = (vp8l w h flags).bytes fileSize chunkSize ++ rest) :
    (webpInfo (s.content.take 32) : Outcome ImageResolverError ImageInfo) =
      .ok (.webp, UInt32.ofNat (w.val + 1), UInt32.ofNat (h.val * 2 ^ 14 + 1)) := by
  have hhead := riffHead_length fileSize chunkSize (show List.length ([0x56, 0x50, 0x38, 0x4C] : Bytes) = 4 from rfl)
  have hriff := hcontent
  rw [bytes, List.append_assoc] at hriff
  let n := w.val + h.val * 2 ^ 14 + flags.val * 2 ^ 28
  have hbits : byteRange s.content 21 25 = toLE 4 n := by
    rw [hcontent, bytes]
    simp only [List.append_assoc]
    rw [← List.append_assoc (riffHead _ _ _)]
    exact byteRange_append (by simp [hhead]) (by simp)
  obtain ⟨hwidth, hheight⟩ := vp8l_masks w h flags
  rw [webpInfo, chunkType_eq hriff rfl]
  simp only [byteRange_take (show 25 ≤ 32 by decide), hbits, readU32_toLE]
  show Outcome.ok (_, (UInt32.ofNat n &&& 0x3FFF) + 1, (UInt32.ofNat n &&& 0xFFFC000) + 1) = _
  rw [hwidth, hheight]

/-- `VP8X`: the low 16 bits of the sizes, counted up in 16 bits. -/
theorem vp8x_info {flags : Vector UInt8 4} {w h : Fin (2 ^ 24)}
    (hcontent : s.content = (vp8x flags w h).bytes fileSize chunkSize ++ rest) :
    (webpInfo (s.content.take 32) : Outcome ImageResolverError ImageInfo) = (do
      let width ← succU16 (UInt16.ofNat w.val)
      let height ← succU16 (UInt16.ofNat h.val)
      .ok (.webp, width, height)) := by
  have hhead := riffHead_length fileSize chunkSize (show List.length ([0x56, 0x50, 0x38, 0x58] : Bytes) = 4 from rfl)
  have hriff := hcontent
  rw [bytes, List.append_assoc] at hriff
  have hw : byteRange s.content 24 27 = toLE 3 w.val := by
    rw [hcontent, bytes]
    simp only [List.append_assoc]
    rw [← List.append_assoc (riffHead _ _ _)]
    exact byteRange_append (by simp [hhead]) (by simp)
  have hh : byteRange s.content 27 30 = toLE 3 h.val := by
    rw [hcontent, bytes]
    simp only [List.append_assoc]
    rw [← List.append_assoc flags.toList, ← List.append_assoc (riffHead _ _ _)]
    exact byteRange_append (by simp [hhead]) (by simp)
  rw [webpInfo, chunkType_eq hriff rfl]
  simp only [byteRange_take (show 27 ≤ 32 by decide), byteRange_take (show 30 ≤ 32 by decide), hw, hh,
    readU16_toLE (show 2 ≤ 3 by decide), if_true]

theorem ofNat32_inj {m n : Nat} (hm : m < 2 ^ 32) (hn : n < 2 ^ 32) : UInt32.ofNat m = UInt32.ofNat n ↔ m = n := by
  rw [← UInt32.toNat_inj, UInt32.toNat_ofNat_of_lt' hm, UInt32.toNat_ofNat_of_lt' hn]

/-- Sizes read alike are the sizes. -/
theorem info_eq_iff {format : ImageFormat} {w h w' h' : Nat} (hw : w < 2 ^ 32) (hh : h < 2 ^ 32) (hw' : w' < 2 ^ 32)
    (hh' : h' < 2 ^ 32) :
    (.ok (format, UInt32.ofNat w, UInt32.ofNat h) : Outcome ImageResolverError ImageInfo) =
      .ok (format, UInt32.ofNat w', UInt32.ofNat h') ↔ w = w' ∧ h = h' := by
  rw [Outcome.ok.injEq, Prod.mk.injEq, Prod.mk.injEq, ofNat32_inj hw hw', ofNat32_inj hh hh']
  simp

/-- Counting up in 16 bits gives the size below 2¹⁶ and panics at a low half
of 2¹⁶ - 1. -/
theorem succU16_eq_iff {n : Nat} (hn : n < 2 ^ 24) :
    (succU16 (UInt16.ofNat n) : Outcome ImageResolverError UInt32) = .ok (UInt32.ofNat (n + 1)) ↔ n + 1 < 2 ^ 16 := by
  have hlow : (UInt16.ofNat n).toNat = n % 65536 := UInt16.toNat_ofNat'
  rw [succU16, hlow]
  by_cases hsum : n % 65536 + 1 < 2 ^ 16
  · rw [Outcome.add_ok hsum, Outcome.ok_bind, Outcome.ok.injEq, ofNat32_inj (by omega) (by omega)]
    omega
  · rw [Outcome.add_panic hsum]
    simp only [Outcome.panic_bind, reduceCtorEq, false_iff]
    omega

/-- One size after the other. -/
theorem succU16_both_iff {w h : Nat} (hw : w < 2 ^ 24) (hh : h < 2 ^ 24) :
    (do let width ← succU16 (UInt16.ofNat w)
        let height ← succU16 (UInt16.ofNat h)
        .ok (.webp, width, height) : Outcome ImageResolverError ImageInfo) =
      .ok (.webp, UInt32.ofNat (w + 1), UInt32.ofNat (h + 1)) ↔ w + 1 < 2 ^ 16 ∧ h + 1 < 2 ^ 16 := by
  rw [← succU16_eq_iff hw, ← succU16_eq_iff hh, Outcome.bind_eq_ok]
  constructor
  · rintro ⟨width, hwidth, hrest⟩
    obtain ⟨height, hheight, hok⟩ := Outcome.bind_eq_ok.mp hrest
    cases hok
    exact ⟨hwidth, hheight⟩
  · rintro ⟨hwidth, hheight⟩
    exact ⟨_, hwidth, Outcome.bind_eq_ok.mpr ⟨_, hheight, rfl⟩⟩

/-- With the 32 bytes there, each format has its own condition. -/
theorem resolvesAs_iff_readable (header : ImageHeader) (fileSize chunkSize : UInt32) (rest : Bytes) (line : CallLine)
    (position : Nat) (hline : ∀ k, line k = .ok ())
    (h32 : 32 ≤ (header.bytes fileSize chunkSize ++ rest).length) :
    ResolvesAs line { content := header.bytes fileSize chunkSize ++ rest, position } header.format header.width
      header.height ↔ header.Readable := by
  let s : ByteStream := { content := header.bytes fileSize chunkSize ++ rest, position }
  show ResolvesAs line s _ _ _ ↔ _
  cases header with
  | png w h =>
    rw [resolvesAs_of_info hline h32 (png_info (s := s) rfl)]
    simp [format, width, height, Readable]
  | gif late w h =>
    have hcast (n : UInt16) : n.toUInt32 = UInt32.ofNat n.toNat := UInt32.toNat_inj.mp (by simp)
    rw [resolvesAs_of_info hline h32 (gif_info (s := s) rfl), hcast, hcast]
    simp [format, width, height, Readable]
  | vp8 tag w h xScale yScale =>
    have hw := w.isLt
    have hh := h.isLt
    have hx := xScale.isLt
    have hy := yScale.isLt
    rw [resolvesAs_of_info hline h32 (webp_info (s := s) (List.append_assoc ..)), vp8_info (s := s) rfl]
    show Outcome.ok _ = Outcome.ok (ImageFormat.webp, UInt32.ofNat w.val, UInt32.ofNat h.val) ↔ xScale = 0 ∧ yScale = 0
    rw [info_eq_iff (by omega) (by omega) (by omega) (by omega), Fin.ext_iff, Fin.ext_iff]
    show _ ↔ xScale.val = 0 ∧ yScale.val = 0
    omega
  | vp8l w h flags =>
    have hw := w.isLt
    have hh := h.isLt
    rw [resolvesAs_of_info hline h32 (webp_info (s := s) (List.append_assoc ..)), vp8l_info (s := s) rfl]
    show Outcome.ok _ = Outcome.ok (ImageFormat.webp, UInt32.ofNat (w.val + 1), UInt32.ofNat (h.val + 1)) ↔ h = 0
    rw [info_eq_iff (by omega) (by omega) (by omega) (by omega), Fin.ext_iff]
    show _ ↔ h.val = 0
    omega
  | vp8x flags w h =>
    rw [resolvesAs_of_info hline h32 (webp_info (s := s) (List.append_assoc ..)), vp8x_info (s := s) rfl]
    show _ = Outcome.ok (ImageFormat.webp, UInt32.ofNat (w.val + 1), UInt32.ofNat (h.val + 1)) ↔ _ ∧ _
    exact succU16_both_iff w.isLt h.isLt

/-- **The sizes of PNG, GIF and WebP images.** With all of its calls
answered, the resolver gives the sizes the header has exactly if there are
32 bytes and the header is readable: every PNG and GIF is. -/
theorem resolvesAs_iff (header : ImageHeader) (fileSize chunkSize : UInt32) (rest : Bytes) (line : CallLine)
    (position : Nat) (hline : ∀ k, line k = .ok ()) :
    ResolvesAs line { content := header.bytes fileSize chunkSize ++ rest, position } header.format header.width
      header.height ↔ 32 ≤ (header.bytes fileSize chunkSize ++ rest).length ∧ header.Readable := by
  by_cases h32 : 32 ≤ (header.bytes fileSize chunkSize ++ rest).length
  · rw [resolvesAs_iff_readable header fileSize chunkSize rest line position hline h32]
    exact (and_iff_right h32).symm
  · refine iff_of_false (fun hresolves => ?_) fun h => h32 h.1
    have hshort := resolveImageMetadata_short (s := { content := header.bytes fileSize chunkSize ++ rest, position })
      hline (Nat.lt_of_not_le h32)
    cases hshort.symm.trans hresolves

/-- A lossless image of one pixel. -/
theorem resolvesAs_pixel :
    ResolvesAs (fun _ => .ok ()) { content := (vp8l 0 0 0).bytes 24 12 ++ List.replicate 12 0, position := 5 }
      .webp 1 1 ↔ 32 ≤ ((vp8l 0 0 0).bytes 24 12 ++ List.replicate 12 0).length ∧ (vp8l 0 0 0).Readable :=
  resolvesAs_iff (vp8l 0 0 0) 24 12 (List.replicate 12 0) (fun _ => .ok ()) 5 (fun _ => rfl)

/-- A lossless image one wide and two high is read as 16385 high. -/
theorem tallImage_not_resolved :
    ¬ ∀ (header : ImageHeader) (fileSize chunkSize : UInt32) (rest : Bytes) (line : CallLine) (position : Nat),
      (∀ k, line k = .ok ()) → 32 ≤ (header.bytes fileSize chunkSize ++ rest).length →
      ResolvesAs line { content := header.bytes fileSize chunkSize ++ rest, position } header.format header.width
        header.height := by
  intro h
  let s : ByteStream := { content := (vp8l 0 1 0).bytes 24 12 ++ List.replicate 12 0, position := 0 }
  have hread := h (vp8l 0 1 0) 24 12 (List.replicate 12 0) (fun _ => .ok ()) 0 (fun _ => rfl) (by decide)
  rw [resolvesAs_of_info (s := s) (fun _ => rfl) (by decide) (webp_info (List.append_assoc ..)), vp8l_info (s := s) rfl]
    at hread
  cases hread

end ImageHeader

end Mania
