/-
`utility/image_resolver.rs`: the format and the size of an image, off its
first 32 bytes, and a JPEG's off all of it.

Whatever it answers, the stream stands where it stood before
(`resolveImageMetadata_restores`); an error can leave it anywhere.
-/
import Mania.HighwayOp
import Mania.StreamHelper

namespace Mania

open Bytes ByteStream

inductive ImageResolverError where
  | io (e : String)
  | unsupported

/-- `{e:?}`. -/
def ImageResolverError.debug : ImageResolverError → String
  | io e => "Io(" ++ e ++ ")"
  | unsupported => "Unsupported"

abbrev Resolve (α : Type) := Effect ByteStream ImageResolverError α

/-- `?` on an `io::Result`. -/
def io {α : Type} (x : Effect ByteStream String α) : Resolve α := x.mapErr .io

/-! ## The formats -/

/-- `bs[lo..hi]`. -/
def byteRange (bs : Bytes) (lo hi : Nat) : Bytes := (bs.drop lo).take (hi - lo)

namespace LittleEndian

/-- The first two bytes. -/
def readU16 (bs : Bytes) : UInt16 := ofBE16 (bs.take 2).reverse

def readU32 (bs : Bytes) : UInt32 := ofBE32 (bs.take 4).reverse

end LittleEndian

open LittleEndian

abbrev ImageInfo := ImageFormat × UInt32 × UInt32

/-- `GIF89a` and `GIF87a`. -/
def gifMagics : List Bytes := [[0x47, 0x49, 0x46, 0x38, 0x39, 0x61], [0x47, 0x49, 0x46, 0x38, 0x37, 0x61]]

def pngMagic : Bytes := [0x89, 0x50, 0x4E, 0x47, 0x0D, 0x0A, 0x1A, 0x0A]

def gifInfo (header : Bytes) : ImageInfo :=
  (.gif, (readU16 (byteRange header 6 8)).toUInt32, (readU16 (byteRange header 8 10)).toUInt32)

/-- The first marker of a frame, before the last ten bytes. -/
def jpegMarker (imageData : Bytes) (stop : Nat) : Option Nat :=
  ((List.range stop).drop 2).find? fun i => (readU16 (imageData.drop i)) &&& 0xFCFF = 0xC0FF

def jpegInfo (imageData : Bytes) (stop : Nat) : ImageInfo :=
  match jpegMarker imageData stop with
  | some i =>
    (.jpeg, (readU16 (byteRange imageData (i + 7) (i + 9))).toUInt32,
      (readU16 (byteRange imageData (i + 5) (i + 7))).toUInt32)
  | none => (.jpeg, 0, 0)

def pngInfo (header : Bytes) : ImageInfo :=
  (.png, ofBE32 (byteRange header 16 20), ofBE32 (byteRange header 20 24))

/-- `(x + 1) as u32`, of a `u16`. -/
def succU16 {ε : Type} (x : UInt16) : Outcome ε UInt32 := do
  let n ← Outcome.add 16 x.toNat 1
  .ok (UInt32.ofNat n)

def webpInfo {ε : Type} (header : Bytes) : Outcome ε ImageInfo :=
  let chunkType := byteRange header 12 16
  if chunkType = [0x56, 0x50, 0x38, 0x58] then do
    -- `VP8X`
    let width ← succU16 (readU16 (byteRange header 24 27))
    let height ← succU16 (readU16 (byteRange header 27 30))
    .ok (.webp, width, height)
  else if chunkType = [0x56, 0x50, 0x38, 0x4C] then
    -- `VP8L`
    let bits := readU32 (byteRange header 21 25)
    .ok (.webp, (bits &&& 0x3FFF) + 1, (bits &&& 0xFFFC000) + 1)
  else
    .ok (.webp, (readU16 (byteRange header 26 28)).toUInt32, (readU16 (byteRange header 28 30)).toUInt32)

def bmpInfo (header : Bytes) : ImageInfo :=
  (.bmp, (readU16 (byteRange header 18 20)).toUInt32, (readU16 (byteRange header 22 24)).toUInt32)

def tiffInfo (header : Bytes) : ImageInfo :=
  (.tiff, (readU16 (byteRange header 18 20)).toUInt32, (readU16 (byteRange header 30 32)).toUInt32)

/-- Back to where the stream stood. -/
def returnInfo (line : CallLine) (k currentPos : Nat) (info : ImageInfo) : Resolve ImageInfo := do
  io (seekTo line k currentPos)
  pure info

/-- The formats after JPEG, from the `k`-th call. -/
def resolveOthers (line : CallLine) (k currentPos : Nat) (header : Bytes) : Resolve ImageInfo :=
  if pngMagic.isPrefixOf header then returnInfo line k currentPos (pngInfo header)
  else if List.isPrefixOf [0x52, 0x49, 0x46, 0x46] header ∧ byteRange header 8 12 = [0x57, 0x45, 0x42, 0x50] then do
    -- `RIFF`, `WEBP`
    let info ← Effect.lift (webpInfo header)
    returnInfo line k currentPos info
  else if List.isPrefixOf [0x42, 0x4D] header then returnInfo line k currentPos (bmpInfo header)
  else if List.isPrefixOf [0x49, 0x49] header ∨ List.isPrefixOf [0x4D, 0x4D] header then
    returnInfo line k currentPos (tiffInfo header)
  else do
    io (seekTo line k currentPos)
    Effect.throw .unsupported

/-- The format that the header says. -/
def resolveHeader (line : CallLine) (currentPos : Nat) (header : Bytes) : Resolve ImageInfo :=
  if gifMagics.any (·.isPrefixOf header) then returnInfo line 3 currentPos (gifInfo header)
  else if List.isPrefixOf [0xFF, 0xD8] header then do
    io (seekTo line 3 0)
    let imageData ← io (readAll line 4)
    if 2 < imageData.length ∧ List.isPrefixOf [0xFF, 0xD8] imageData then do
      let stop ← Effect.lift (Outcome.sub imageData.length 10)
      returnInfo line 5 currentPos (jpegInfo imageData stop)
    else resolveOthers line 5 currentPos header
  else resolveOthers line 3 currentPos header

def resolveImageMetadata (line : CallLine) : Resolve ImageInfo := do
  io (answerCall line 0)
  let s ← Effect.get
  let currentPos := s.position
  io (seekTo line 1 0)
  let header ← io (ByteStream.readExact line 2 32)
  resolveHeader line currentPos header

/-! ## Where it leaves the stream -/

open Effect

/-- What returns leaves the stream at `position`. -/
def ReturnsAt {α : Type} (position : Nat) (x : Resolve α) : Prop :=
  ∀ s a s', x.run s = (.ok a, s') → s' = { s with position }

namespace ReturnsAt

variable {α β : Type} {position : Nat}

theorem bind {x : Resolve α} {f : α → Resolve β} (hx : Keeps SameContent x) (hf : ∀ a, ReturnsAt position (f a)) :
    ReturnsAt position (x >>= f) := by
  intro s b s' hrun
  obtain ⟨a, s₁, hfirst, hrest⟩ := bind_eq_ok.mp hrun
  have hsame : s₁.content = s.content := by
    have hkept := hx s
    rw [hfirst] at hkept
    exact hkept
  rw [hf a s₁ b s' hrest, hsame]

theorem throw (e : ImageResolverError) : ReturnsAt position (Effect.throw e : Resolve α) := by
  intro s a s' hrun
  cases hrun

theorem ite {p : Prop} [Decidable p] {x y : Resolve α} (hx : ReturnsAt position x) (hy : ReturnsAt position y) :
    ReturnsAt position (if p then x else y) := by
  split
  · exact hx
  · exact hy

end ReturnsAt

theorem returnInfo_at (line : CallLine) (k position : Nat) (info : ImageInfo) :
    ReturnsAt position (returnInfo line k position info) := by
  intro s info' s' hrun
  obtain ⟨u, s₁, hseek, hpure⟩ := bind_eq_ok.mp hrun
  cases hpure
  exact seekTo_ok (mapErr_eq_ok.mp hseek)

theorem resolveOthers_at (line : CallLine) (k position : Nat) (header : Bytes) :
    ReturnsAt position (resolveOthers line k position header) := by
  unfold resolveOthers
  refine .ite (returnInfo_at line k position _) (.ite ?_ (.ite (returnInfo_at line k position _)
    (.ite (returnInfo_at line k position _) ?_)))
  · exact .bind (Keeps.lift _) fun info => returnInfo_at line k position info
  · exact .bind (seekTo_same line k position).mapErr fun _ => .throw _

/-- **An image that is resolved leaves its stream where it stood.** -/
theorem resolveImageMetadata_restores {line : CallLine} {s s' : ByteStream} {info : ImageInfo}
    (h : (resolveImageMetadata line).run s = (.ok info, s')) : s' = s := by
  obtain ⟨u, s₁, hcall, hrest⟩ := bind_eq_ok.mp h
  have hs₁ : s₁ = s := answerCall_ok (mapErr_eq_ok.mp hcall)
  subst hs₁
  rw [get_bind] at hrest
  have hreturns : ReturnsAt s₁.position (do
      io (seekTo line 1 0)
      let header ← io (ByteStream.readExact line 2 32)
      resolveHeader line s₁.position header) := by
    refine .bind (seekTo_same line 1 0).mapErr fun _ => .bind (readExact_same line 2 32).mapErr fun header => ?_
    refine .ite (returnInfo_at line 3 _ _) (.ite ?_ (resolveOthers_at line 3 _ header))
    refine .bind (seekTo_same line 3 0).mapErr fun _ => .bind (readAll_same line 4).mapErr fun imageData => ?_
    refine .ite (.bind (Keeps.lift _) fun stop => ?_) (resolveOthers_at line 5 _ header)
    exact returnInfo_at line 5 _ _
  exact hreturns s₁ info s' hrest

end Mania
