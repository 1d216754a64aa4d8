/-
What `resolve_image_metadata` answers for a JPEG: it takes the sizes behind
the first two bytes that look like the marker of a frame, wherever they
stand, in little-endian order.

`Jpeg.bytes` lays an image out as the format has it; `jpeg_resolvesAs_iff`
says which of them are read right.
-/
import Mathlib.Data.Nat.Find
import Mania.ImageHeaders

namespace Mania

open Bytes ByteStream LittleEndian Effect ImageHeader

/-! ## The format -/

inductive SegmentMarker where
  | app (n : Fin 16)
  | dqt
  | dht
  | com
  deriving DecidableEq

def SegmentMarker.byte : SegmentMarker → UInt8
  | app n => 0xE0 + UInt8.ofNat n.val
  | dqt => 0xDB
  | dht => 0xC4
  | com => 0xFE

/-- A segment before the frame; its length counts its own two bytes. -/
structure JpegSegment where
  marker : SegmentMarker
  payload : Bytes
  fits : payload.length + 2 < 2 ^ 16

def JpegSegment.bytes (segment : JpegSegment) : Bytes :=
  [0xFF, segment.marker.byte] ++ (be16 (UInt16.ofNat (segment.payload.length + 2)) ++ segment.payload)

/-- An image up to its frame, and what is behind the components of that. -/
structure Jpeg where
  segments : List JpegSegment
  process : Fin 4
  precision : UInt8
  height : UInt16
  width : UInt16
  component : Vector UInt8 3
  components : List (Vector UInt8 3)
  fits : components.length + 1 < 2 ^ 8
  tail : Bytes

namespace Jpeg

/-- The start of the image, and its segments. -/
def front (jpeg : Jpeg) : Bytes := [0xFF, 0xD8] ++ jpeg.segments.flatMap JpegSegment.bytes

/-- The frame from its marker on: its length, the precision, and the sizes. -/
def frame (jpeg : Jpeg) : Bytes :=
  [0xFF, 0xC0 + UInt8.ofNat jpeg.process.val] ++ (be16 (UInt16.ofNat (8 + 3 * (jpeg.components.length + 1))) ++
    ([jpeg.precision] ++ (be16 jpeg.height ++ (be16 jpeg.width ++ ([UInt8.ofNat (jpeg.components.length + 1)] ++
    (jpeg.component.toList ++ (jpeg.components.flatMap Vector.toList ++ jpeg.tail)))))))

def bytes (jpeg : Jpeg) : Bytes := jpeg.front ++ jpeg.frame

end Jpeg

/-! ## The marker of a frame -/

/-- `FF`, and `C0` to `C3` behind it. -/
def FramePair (bs : Bytes) (i : Nat) : Prop :=
  bs[i]? = some 0xFF ∧ ∃ b : UInt8, bs[i + 1]? = some b ∧ 0xC0 ≤ b ∧ b ≤ 0xC3

/-- The first such pair behind the start of the image. -/
structure FirstFramePair (bs : Bytes) (i : Nat) : Prop where
  start : 2 ≤ i
  pair : FramePair bs i
  before : ∀ j, 2 ≤ j → j < i → ¬ FramePair bs j

theorem mask_high (b : UInt8) : b.toNat &&& 0xFC = 0xC0 ↔ 0xC0 ≤ b ∧ b ≤ 0xC3 := by
  have h : ∀ n : Fin 256, (n.val &&& 0xFC = 0xC0 ↔ 0xC0 ≤ n.val ∧ n.val ≤ 0xC3) := by
    decide +kernel
  exact h ⟨b.toNat, b.toNat_lt⟩

/-- Two bytes as a number, the first one low. -/
theorem readU16_drop {bs : Bytes} {i : Nat} (h : i + 1 < bs.length) :
    (readU16 (bs.drop i)).toNat = bs[i + 1].toNat * 256 + bs[i].toNat := by
  have htake : (bs.drop i).take 2 = [bs[i], bs[i + 1]] := by
    rw [List.drop_eq_getElem_cons (by omega), List.drop_eq_getElem_cons h]
    rfl
  have hlow := bs[i].toNat_lt
  have hhigh := bs[i + 1].toNat_lt
  rw [readU16, htake, ofBE16]
  simp only [List.reverse_cons, List.reverse_nil, List.nil_append, List.singleton_append, ofBE, List.foldl_cons,
    List.foldl_nil, Nat.zero_mul, Nat.zero_add, UInt16.toNat_ofNat']
  omega

/-- The mask is one of the low byte and one of the high byte. -/
theorem mask_bytes (low high : UInt8) : (high.toNat * 256 + low.toNat) &&& 0xFCFF = 0xC0FF ↔
    low.toNat = 0xFF ∧ high.toNat &&& 0xFC = 0xC0 := by
  have hlow := low.toNat_lt
  let n := high.toNat * 256 + low.toNat
  have hdiv : (n &&& 0xFCFF) / 2 ^ 8 = high.toNat &&& 0xFC := by
    have hhigh : n / 2 ^ 8 = high.toNat := by
      simp only [n]
      omega
    rw [Nat.and_div_two_pow, hhigh]
  have hmod : (n &&& 0xFCFF) % 2 ^ 8 = low.toNat := by
    have hbyte : n % 2 ^ 8 = low.toNat := by
      simp only [n]
      omega
    rw [Nat.and_mod_two_pow, hbyte]
    exact (Nat.and_two_pow_sub_one_eq_mod _ 8).trans (Nat.mod_eq_of_lt hlow)
  have hsplit : n &&& 0xFCFF = 0xC0FF ↔ (n &&& 0xFCFF) % 2 ^ 8 = 0xFF ∧ (n &&& 0xFCFF) / 2 ^ 8 = 0xC0 := by omega
  rwa [hmod, hdiv] at hsplit

/-- The mask of the source over two bytes is the pair. -/
theorem framePair_iff {bs : Bytes} {i : Nat} (h : i + 1 < bs.length) :
    readU16 (bs.drop i) &&& 0xFCFF = 0xC0FF ↔ FramePair bs i := by
  have hmask : readU16 (bs.drop i) &&& 0xFCFF = 0xC0FF ↔
      (bs[i + 1].toNat * 256 + bs[i].toNat) &&& 0xFCFF = 0xC0FF := by
    rw [← UInt16.toNat_inj, UInt16.toNat_and, readU16_drop h]
    rfl
  rw [hmask, mask_bytes, mask_high, FramePair, List.getElem?_eq_getElem (by omega), List.getElem?_eq_getElem h]
  constructor
  · rintro ⟨hff, hrange⟩
    exact ⟨congrArg some (UInt8.toNat_inj.mp hff), _, rfl, hrange⟩
  · rintro ⟨hff, b, hb, hrange⟩
    cases hb
    exact ⟨congrArg UInt8.toNat (Option.some.inj hff), hrange⟩

/-- The scan stops at the first pair. -/
theorem jpegMarker_eq {bs : Bytes} {i : Nat} (h : FirstFramePair bs i) (hend : i + 10 < bs.length) :
    jpegMarker bs (bs.length - 10) = some i := by
  have hstart := h.start
  rw [jpegMarker, List.range_eq_range', List.drop_range', List.find?_range'_eq_some]
  refine ⟨?_, ?_, fun j hj hji => ?_⟩
  · exact decide_eq_true ((framePair_iff (by omega)).mpr h.pair)
  · rw [List.mem_range'_1]
    omega
  · have hpair : ¬ readU16 (bs.drop j) &&& 0xFCFF = 0xC0FF :=
      fun hmask => h.before j (by omega) hji ((framePair_iff (by omega)).mp hmask)
    simp [hpair]

/-- Up to a pair there is a first one. -/
theorem exists_firstFramePair {bs : Bytes} {p : Nat} (hp : 2 ≤ p) (hpair : FramePair bs p) :
    ∃ i ≤ p, FirstFramePair bs i := by
  have hsome : ∃ i, 2 ≤ i ∧ FramePair bs i := ⟨p, hp, hpair⟩
  classical
  obtain ⟨hstart, hfirst⟩ := Nat.find_spec hsome
  exact ⟨Nat.find hsome, Nat.find_min' hsome ⟨hp, hpair⟩, hstart, hfirst,
    fun j hj hlt hpair' => Nat.find_min hsome hlt ⟨hj, hpair'⟩⟩

theorem FirstFramePair.unique {bs : Bytes} {i j : Nat} (hi : FirstFramePair bs i) (hj : FirstFramePair bs j) :
    i = j := by
  rcases Nat.lt_trichotomy i j with hlt | heq | hgt
  · exact absurd hi.pair (hj.before i hi.start hlt)
  · exact heq
  · exact absurd hj.pair (hi.before j hj.start hgt)

/-! ## The answer -/

variable {line : CallLine} {s : ByteStream}

/-- The whole of the image is read. -/
theorem resolveHeader_jpeg (hline : ∀ k, line k = .ok ()) {position : Nat} {more : Bytes}
    (hcontent : s.content = [0xFF, 0xD8] ++ more) (h10 : 10 ≤ s.content.length) :
    (resolveHeader line position (s.content.take 32)).run s =
      (.ok (jpegInfo s.content (s.content.length - 10)), { s with position }) := by
  have hread : (io (readAll line 4)).run { s with position := 0 } =
      (.ok s.content, ({ s with position := 0 } : ByteStream).drained) := by
    rw [io, mapErr_eq_ok, readAll, answerCall, hline]
    rfl
  have hlong : 2 < s.content.length ∧ List.isPrefixOf [0xFF, 0xD8] s.content = true := by
    refine ⟨by omega, ?_⟩
    rw [hcontent]
    rfl
  have hgif : gifMagics.any (·.isPrefixOf (s.content.take 32)) = false := by
    rw [hcontent]
    rfl
  have hjpeg : List.isPrefixOf [0xFF, 0xD8] (s.content.take 32) = true := by
    rw [hcontent]
    rfl
  rw [resolveHeader, hgif, if_neg Bool.false_ne_true, if_pos hjpeg,
    Effect.bind_ok (seekTo_run (hline 3) 0), Effect.bind_ok hread, if_pos hlong,
    Outcome.sub_ok h10, lift_ok, pure_bind, returnInfo_run (hline 5)]
  rfl

/-- Two bytes are read as a number exactly if they are its bytes. -/
theorem readU16_eq_iff {bs : Bytes} (h : bs.length = 2) (n : UInt16) : readU16 bs = n ↔ bs = toLE 2 n.toNat := by
  constructor
  · rintro rfl
    have hlt := ofBE_lt bs.reverse
    have hn : (readU16 bs).toNat = ofBE bs.reverse := by
      rw [readU16, List.take_of_length_le (by omega), ofBE16, UInt16.toNat_ofNat_of_lt']
      simpa [h] using hlt
    rw [hn, ← List.reverse_inj, toLE_reverse]
    have hback := toBE_ofBE bs.reverse
    rw [List.length_reverse, h] at hback
    exact hback.symm
  · rintro rfl
    rw [readU16_toLE (Nat.le_refl 2), UInt16.ofNat_toNat]

/-- The four bytes of the sizes behind the marker at `i`. -/
def sizeBytes (bs : Bytes) (i : Nat) : Bytes := (bs.drop (i + 5)).take 4

theorem jpegInfo_eq_iff {bs : Bytes} {i : Nat} (hfirst : FirstFramePair bs i) (hend : i + 10 < bs.length)
    (width height : UInt16) :
    jpegInfo bs (bs.length - 10) = (.jpeg, UInt32.ofNat width.toNat, UInt32.ofNat height.toNat) ↔
      sizeBytes bs i = toLE 2 height.toNat ++ toLE 2 width.toNat := by
  have hcast (n m : UInt16) : n.toUInt32 = UInt32.ofNat m.toNat ↔ n = m := by
    rw [← UInt32.toNat_inj, UInt16.toNat_toUInt32, UInt32.toNat_ofNat_of_lt' (Nat.lt_trans m.toNat_lt (by decide)),
      UInt16.toNat_inj]
  have hheight : (byteRange bs (i + 5) (i + 7)).length = 2 := by
    rw [byteRange, List.length_take, List.length_drop]
    omega
  have hwidth : (byteRange bs (i + 7) (i + 9)).length = 2 := by
    rw [byteRange, List.length_take, List.length_drop]
    omega
  have hsplit : sizeBytes bs i = byteRange bs (i + 5) (i + 7) ++ byteRange bs (i + 7) (i + 9) := by
    have htwo (lo : Nat) : lo + 2 - lo = 2 := by omega
    rw [byteRange, byteRange, htwo (i + 5), htwo (i + 7)]
    show (bs.drop (i + 5)).take (2 + 2) = _
    rw [List.take_add, List.drop_drop]
  rw [jpegInfo, jpegMarker_eq hfirst hend, hsplit]
  simp only [Prod.mk.injEq, true_and, hcast]
  rw [readU16_eq_iff hwidth, readU16_eq_iff hheight]
  constructor
  · rintro ⟨hw, hh⟩
    rw [hw, hh]
  · intro h
    obtain ⟨hh, hw⟩ := List.append_inj h (by rw [hheight, toLE_length])
    exact ⟨hw, hh⟩

/-! ## An image -/

namespace Jpeg

theorem framePair_front (jpeg : Jpeg) : FramePair jpeg.bytes jpeg.front.length := by
  have hrange : ∀ process : Fin 4, 0xC0 ≤ 0xC0 + UInt8.ofNat process.val ∧ 0xC0 + UInt8.ofNat process.val ≤ 0xC3 := by
    decide
  refine ⟨?_, _, ?_, hrange jpeg.process⟩
  · rw [bytes, List.getElem?_append_right (Nat.le_refl _), Nat.sub_self]
    rfl
  · rw [bytes, List.getElem?_append_right (Nat.le_add_right _ 1), Nat.add_sub_cancel_left]
    rfl

theorem front_length (jpeg : Jpeg) : 2 ≤ jpeg.front.length := by
  rw [front, List.length_append]
  exact Nat.le_add_right 2 _

/-- There is a component behind the sizes. -/
theorem frame_length (jpeg : Jpeg) : 13 ≤ jpeg.frame.length := by
  simp [frame]
  omega

theorem sizeBytes_frame (jpeg : Jpeg) :
    sizeBytes jpeg.bytes jpeg.front.length = be16 jpeg.height ++ be16 jpeg.width := by
  have hlong (mid : Bytes) (hmid : mid.length = 2) (rest : Bytes) :
      (([0xFF, 0xC0 + UInt8.ofNat jpeg.process.val] ++ (mid ++ ([jpeg.precision] ++ rest))).drop 5) = rest := by
    rw [← List.append_assoc mid, ← List.append_assoc]
    exact List.drop_left' (by simp [hmid])
  rw [sizeBytes, bytes, ← List.drop_drop, List.drop_left, frame, hlong _ (be16_length _), ← List.append_assoc]
  exact List.take_left' (by simp)

/-- Behind the first pair that looks like a frame's marker the two sizes
stand in little-endian order. -/
def Readable (jpeg : Jpeg) : Prop :=
  ∃ i, FirstFramePair jpeg.bytes i ∧ sizeBytes jpeg.bytes i = toLE 2 jpeg.height.toNat ++ toLE 2 jpeg.width.toNat

/-- Both orders of two bytes agree if they are the same byte. -/
theorem be16_eq_toLE_iff (n : UInt16) : be16 n = toLE 2 n.toNat ↔ n.toNat / 256 = n.toNat % 256 := by
  have hlt := n.toNat_lt
  have hbytes : be16 n = toLE 2 n.toNat ↔ UInt8.ofNat (n.toNat / 256) = UInt8.ofNat n.toNat := by
    show [UInt8.ofNat (n.toNat / 256), UInt8.ofNat n.toNat] = [UInt8.ofNat n.toNat, UInt8.ofNat (n.toNat / 256)] ↔ _
    simp [eq_comm]
  rw [hbytes, ← UInt8.toNat_inj, UInt8.toNat_ofNat', UInt8.toNat_ofNat']
  omega

/-- Where nothing before the frame looks like one, the two bytes of each
size have to be equal. -/
theorem readable_iff_of_plain {jpeg : Jpeg}
    (h : ∀ i, 2 ≤ i → i < jpeg.front.length → ¬ FramePair jpeg.bytes i) :
    jpeg.Readable ↔ jpeg.height.toNat / 256 = jpeg.height.toNat % 256 ∧
      jpeg.width.toNat / 256 = jpeg.width.toNat % 256 := by
  have hfirst : FirstFramePair jpeg.bytes jpeg.front.length := ⟨jpeg.front_length, jpeg.framePair_front, h⟩
  have hsizes : jpeg.Readable ↔
      be16 jpeg.height ++ be16 jpeg.width = toLE 2 jpeg.height.toNat ++ toLE 2 jpeg.width.toNat := by
    rw [← sizeBytes_frame]
    constructor
    · rintro ⟨i, hi, hsizes⟩
      rw [hfirst.unique hi]
      exact hsizes
    · intro hsizes
      exact ⟨_, hfirst, hsizes⟩
  rw [hsizes, ← be16_eq_toLE_iff, ← be16_eq_toLE_iff]
  constructor
  · intro heq
    exact List.append_inj heq (by simp)
  · rintro ⟨hheight, hwidth⟩
    rw [hheight, hwidth]

/-- **The sizes of a JPEG.** With all of its calls answered, the resolver
gives the sizes of the frame exactly if the image is readable. -/
theorem jpeg_resolvesAs_iff (jpeg : Jpeg) (line : CallLine) (position : Nat) (hline : ∀ k, line k = .ok ())
    (h32 : 32 ≤ jpeg.bytes.length) :
    ResolvesAs line { content := jpeg.bytes, position } .jpeg jpeg.width.toNat jpeg.height.toNat ↔ jpeg.Readable := by
  let s : ByteStream := { content := jpeg.bytes, position }
  have hcontent : s.content = [0xFF, 0xD8] ++ (jpeg.segments.flatMap JpegSegment.bytes ++ jpeg.frame) := by
    simp only [s, bytes, front, List.append_assoc]
  obtain ⟨i, hle, hfirst⟩ := exists_firstFramePair jpeg.front_length jpeg.framePair_front
  have hend : i + 10 < jpeg.bytes.length := by
    have hframe := jpeg.frame_length
    rw [bytes, List.length_append]
    omega
  have hrun : ResolvesAs line s .jpeg jpeg.width.toNat jpeg.height.toNat ↔
      jpegInfo jpeg.bytes (jpeg.bytes.length - 10) =
        (.jpeg, UInt32.ofNat jpeg.width.toNat, UInt32.ofNat jpeg.height.toNat) := by
    rw [ResolvesAs, resolveImageMetadata_run (s := s) hline h32,
      resolveHeader_jpeg (s := { s with position := 32 }) hline hcontent (by show 10 ≤ jpeg.bytes.length; omega)]
    simp [s]
  show ResolvesAs line s .jpeg _ _ ↔ _
  rw [hrun, jpegInfo_eq_iff hfirst hend]
  constructor
  · intro hsizes
    exact ⟨i, hfirst, hsizes⟩
  · rintro ⟨j, hj, hsizes⟩
    rw [hfirst.unique hj]
    exact hsizes

theorem baseline_lt : 0 < 4 := by decide

/-- A baseline image of 300 by 200 pixels with one component and no segments. -/
def small : Jpeg where
  segments := []
  process := ⟨0, baseline_lt⟩
  precision := 8
  height := 200
  width := 300
  component := #v[1, 0x11, 0]
  components := []
  fits := Nat.one_lt_two_pow (Nat.succ_ne_zero 7)
  tail := List.replicate 20 0

theorem jpeg_resolvesAs_small :
    ResolvesAs (fun _ => .ok ()) { content := small.bytes, position := 7 } .jpeg 300 200 ↔ small.Readable :=
  jpeg_resolvesAs_iff small (fun _ => .ok ()) 7 (fun _ => rfl) (by decide)

/-- Its sizes come back as 11265 by 51200. -/
theorem small_not_resolved :
    ¬ ∀ (jpeg : Jpeg) (line : CallLine) (position : Nat), (∀ k, line k = .ok ()) → 32 ≤ jpeg.bytes.length →
      ResolvesAs line { content := jpeg.bytes, position } .jpeg jpeg.width.toNat jpeg.height.toNat := by
  intro h
  have hread := h small (fun _ => .ok ()) 0 (fun _ => rfl) (by decide)
  cases hread

end Jpeg

end Mania
