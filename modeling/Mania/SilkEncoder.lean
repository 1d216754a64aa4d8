/-
`mania-codec`'s `SilkEncoder` and the scan of its output in `resolve_audio`.

The SILK library is a parameter: `σ` is what the encoder's memory holds
between its calls. A multiplication that overflows panics in a build with
`overflowChecks`, and wraps in one without.

The output is a header and the packets of the whole 20 ms frames, which is
how `resolve_audio` counts them (`encode_scanned_iff`).
-/
import Mania.HighwayOp
import Mania.Lib.Bytes
import Mania.Lib.Chunks
import Mania.Lib.Str

namespace Mania

open Bytes Chunks

/-! ## The library -/

inductive SilkError where
  | encInputInvalidNoOfSamples
  | encFsNotSupported
  | encPacketSizeNotSupported
  | encPayloadBufTooShort
  | encInvalidLossRate
  | encInvalidComplexitySetting
  | encInvalidInbandFecSetting
  | encInvalidDtxSetting
  | encInternalError
  | decInvalidSamplingFrequency
  | decPayloadTooLarge
  | decPayloadError
  deriving DecidableEq

def SilkError.tryFrom (code : Int32) : Option SilkError :=
  [(-1, encInputInvalidNoOfSamples), (-2, encFsNotSupported), (-3, encPacketSizeNotSupported),
    (-4, encPayloadBufTooShort), (-5, encInvalidLossRate), (-6, encInvalidComplexitySetting),
    (-7, encInvalidInbandFecSetting), (-8, encInvalidDtxSetting), (-9, encInternalError),
    (-10, decInvalidSamplingFrequency), (-11, decPayloadTooLarge), (-12, decPayloadError)].lookup code

inductive AudioCodecEncoderError where
  | silkEncoderKnownError (e : SilkError)
  | silkEncoderUnknownError (code : Int32)
  deriving DecidableEq

/-- `SKP_SILK_SDK_EncControlStruct`. -/
structure EncControl where
  apiSampleRate : Int32
  maxInternalSampleRate : Int32
  packetSize : Int32
  bitRate : Int32
  packetLossPercentage : Int32
  complexity : Int32
  useInBandFEC : Int32
  useDTX : Int32
  deriving DecidableEq

/-- What `SKP_Silk_SDK_Encode` returns and leaves in the memory it is given. -/
structure EncodeCall (σ : Type) where
  code : Int32
  encoder : σ
  outData : Bytes
  nBytesOut : Int16

structure SilkSdk (σ : Type) where
  /-- The code and the size. -/
  getEncoderSize : Int32 × Int32
  initEncoder : Bytes → EncControl → Int32 × σ
  encode : σ → EncControl → (samplesIn : Bytes) → (nSamplesIn : Int32) → (outData : Bytes) →
    (nBytesOut : Int16) → EncodeCall σ

/-- `fast_unsafe_check!`. -/
def fastUnsafeCheck (code : Int32) : Outcome AudioCodecEncoderError Unit :=
  if code ≠ 0 then
    match SilkError.tryFrom code with
    | some err => .err (.silkEncoderKnownError err)
    | none => .err (.silkEncoderUnknownError code)
  else .ok ()

theorem fastUnsafeCheck_zero : fastUnsafeCheck 0 = .ok () := rfl

/-! ## Encoding -/

structure AudioInfo where
  sampleRate : UInt32
  channels : UInt16
  time : UInt32
  deriving DecidableEq

structure AudioResampleStream (α : Type) where
  stream : List α
  info : AudioInfo
  deriving DecidableEq

structure AudioEncodeStream where
  stream : Bytes
  info : AudioInfo
  deriving DecidableEq

/-- `put_i16_le`, and the bytes of a sample in memory. -/
def i16Le (n : Int16) : Bytes := (be16 n.toUInt16).reverse

/-- `u16::from_le_bytes([lo, hi])`. -/
def u16FromLe (lo hi : UInt8) : UInt16 := ofBE16 [hi, lo]

structure SilkEncoder where
  bitRate : UInt32

namespace SilkEncoder

variable {σ : Type}

def encControl (self : SilkEncoder) (sampleRate : UInt32) : EncControl where
  apiSampleRate := sampleRate.toInt32
  maxInternalSampleRate := 24000
  packetSize := (20 * sampleRate / 1000).toInt32
  bitRate := self.bitRate.toInt32
  packetLossPercentage := 0
  complexity := 2
  useInBandFEC := 0
  useDTX := 0

/-- `enc_status`. -/
def encStatus (self : SilkEncoder) : EncControl where
  apiSampleRate := 0
  maxInternalSampleRate := 0
  packetSize := 0
  bitRate := self.bitRate.toInt32
  packetLossPercentage := 0
  complexity := 0
  useInBandFEC := 0
  useDTX := 0

/-- `size as usize` of a `c_int` that is not negative, for `vec![0u8; size]`. -/
def allocate (size : Int32) : Outcome AudioCodecEncoderError Bytes := do
  Outcome.guard (0 ≤ size)
  .ok (List.replicate size.toInt.toNat 0)

/-- `\x02#!SILK_V3`. -/
def header : Bytes := 0x02 :: Utf8.encode "#!SILK_V3"

theorem header_length : header.length = 10 := by decide +kernel

def frameSize (sampleRate : UInt32) : Nat := sampleRate.toNat / 1000 * 40

def encodeChunk (sdk : SilkSdk σ) (control : EncControl) (encoder : σ) (buf chunk : Bytes) : EncodeCall σ :=
  sdk.encode encoder control chunk (Int32.ofNat chunk.length / 2) buf 1250

/-- The `for` loop over the chunks. -/
def encodeChunks (sdk : SilkSdk σ) (control : EncControl) (frameSize : Nat) :
    List Bytes → σ → Bytes → Bytes → Outcome AudioCodecEncoderError Bytes
  | [], _, _, result => .ok result
  | chunk :: chunks, encoder, buf, result =>
    if chunk.length < frameSize then .ok result
    else do
      let call := encodeChunk sdk control encoder buf chunk
      fastUnsafeCheck call.code
      let payload ← Outcome.slice call.outData 0 call.nBytesOut.toInt64.toUInt64.toNat
      encodeChunks sdk control frameSize chunks call.encoder call.outData
        (result ++ i16Le call.nBytesOut ++ payload)

def encode (overflowChecks : Bool) (sdk : SilkSdk σ) (self : SilkEncoder) (input : AudioResampleStream Int16) :
    Outcome AudioCodecEncoderError AudioEncodeStream := do
  let stream := input.stream.flatMap i16Le
  let sampleRate := input.info.sampleRate
  -- the product in `packetSize`
  Outcome.guard (overflowChecks = true → 20 * sampleRate.toNat < 2 ^ 32)
  let control := self.encControl sampleRate
  fastUnsafeCheck sdk.getEncoderSize.1
  let memory ← allocate sdk.getEncoderSize.2
  fastUnsafeCheck (sdk.initEncoder memory self.encStatus).1
  let encoder := (sdk.initEncoder memory self.encStatus).2
  -- `chunks` panics on a size of zero
  Outcome.guard (frameSize sampleRate ≠ 0)
  let result ← encodeChunks sdk control (frameSize sampleRate) (chunks (frameSize sampleRate) stream) encoder
    (List.replicate 1250 0) header
  .ok { stream := result, info := input.info }

end SilkEncoder

/-! ## Scanning -/

section

variable {ε : Type}

/-- How often the closure of `from_fn` answers from position `i` on. -/
def blocksFrom (data : Bytes) (i : Nat) : Outcome ε Nat :=
  if h : i + 2 ≤ data.length then do
    let lo ← Outcome.index data i
    let hi ← Outcome.index data (i + 1)
    let count ← blocksFrom data (i + (2 + (u16FromLe lo hi).toNat))
    .ok (count + 1)
  else .ok 0
termination_by data.length - i

/-- `get_ten_silk_time`: the count, before it is multiplied by 0.02 s. -/
def getTenSilkTime (data : Bytes) : Outcome ε Nat := blocksFrom data 10

theorem blocksFrom_stop {data : Bytes} {i : Nat} (h : ¬ i + 2 ≤ data.length) :
    (blocksFrom data i : Outcome ε Nat) = .ok 0 := by
  rw [blocksFrom, dif_neg h]

theorem blocksFrom_next {data : Bytes} {i : Nat} (h : i + 2 ≤ data.length) :
    (blocksFrom data i : Outcome ε Nat) =
      (· + 1) <$> blocksFrom data (i + (2 + (u16FromLe data[i] data[i + 1]).toNat)) := by
  rw [blocksFrom, dif_pos h, Outcome.index_ok (by omega), Outcome.ok_bind, Outcome.index_ok (by omega),
    Outcome.ok_bind]
  rfl

theorem blocksFrom_append (before : Bytes) (lo hi : UInt8) (after : Bytes) :
    (blocksFrom (before ++ lo :: hi :: after) before.length : Outcome ε Nat) =
      (· + 1) <$> blocksFrom (before ++ lo :: hi :: after) (before.length + (2 + (u16FromLe lo hi).toNat)) := by
  rw [blocksFrom_next (by simp), List.getElem_append_right (by omega), List.getElem_append_right (by omega)]
  simp

theorem u16FromLe_toNat (lo hi : UInt8) : (u16FromLe lo hi).toNat = lo.toNat + 256 * hi.toNat := by
  have hlo := lo.toNat_lt
  have hhi := hi.toNat_lt
  rw [u16FromLe, ofBE16, UInt16.toNat_ofNat', Nat.mod_eq_of_lt] <;> simp [ofBE] <;> omega

/-- From any position, the scan ends, and counts the blocks as `resolveAudio` does. -/
theorem blocksFrom_eq {data : Bytes} {i fuel : Nat} (h : data.length - i ≤ fuel) :
    (blocksFrom data i : Outcome ε Nat) = .ok (silkBlocks fuel (data.drop i)) := by
  induction fuel generalizing i with
  | zero => exact blocksFrom_stop (by omega)
  | succ fuel ih =>
    by_cases hnext : i + 2 ≤ data.length
    · have hrest := ih (i := i + (2 + (u16FromLe data[i] data[i + 1]).toNat)) (by omega)
      have hdrop : data.drop i = data[i] :: data[i + 1] :: data.drop (i + 2) := by
        rw [List.drop_eq_getElem_cons (by omega : i < data.length),
          List.drop_eq_getElem_cons (by omega : i + 1 < data.length)]
      rw [blocksFrom_next hnext, hrest, Outcome.map_ok, hdrop, silkBlocks, List.drop_drop, ← u16FromLe_toNat,
        Nat.add_assoc]
    · rw [blocksFrom_stop hnext]
      have hshort : (data.drop i).length < 2 := by
        rw [List.length_drop]
        omega
      match hdrop : data.drop i with
      | [] => rfl
      | [_] => rfl
      | _ :: _ :: _ =>
        rw [hdrop, List.length_cons, List.length_cons] at hshort
        omega

theorem getTenSilkTime_eq (data : Bytes) :
    (getTenSilkTime data : Outcome ε Nat) = .ok (silkBlocks data.length (data.drop 10)) :=
  blocksFrom_eq (Nat.sub_le ..)

end

/-! ## The packets of a stream -/

variable {σ : Type}

namespace EncodeCall

structure Succeeds (c : EncodeCall σ) : Prop where
  code_eq : c.code = 0
  nonneg : 0 ≤ c.nBytesOut
  le : c.nBytesOut ≤ 1250
  outData_length : c.outData.length = 1250

instance (c : EncodeCall σ) : Decidable c.Succeeds :=
  decidable_of_iff (c.code = 0 ∧ 0 ≤ c.nBytesOut ∧ c.nBytesOut ≤ 1250 ∧ c.outData.length = 1250)
    ⟨fun ⟨h₁, h₂, h₃, h₄⟩ => ⟨h₁, h₂, h₃, h₄⟩, fun ⟨h₁, h₂, h₃, h₄⟩ => ⟨h₁, h₂, h₃, h₄⟩⟩

/-- The bytes a call reports. -/
def payload (c : EncodeCall σ) : Bytes := c.outData.take c.nBytesOut.toNatClampNeg

def packet (c : EncodeCall σ) : Bytes := i16Le c.nBytesOut ++ c.payload

variable {c : EncodeCall σ}

theorem Succeeds.count_le (h : c.Succeeds) : c.nBytesOut.toNatClampNeg ≤ 1250 := Int16.toNatClampNeg_le h.le

theorem Succeeds.payload_length (h : c.Succeeds) : c.payload.length = c.nBytesOut.toNatClampNeg := by
  have hle := h.count_le
  rw [payload, List.length_take, h.outData_length, Nat.min_eq_left hle]

theorem Succeeds.slice_eq (h : c.Succeeds) :
    (Outcome.slice c.outData 0 c.nBytesOut.toInt64.toUInt64.toNat : Outcome AudioCodecEncoderError _) =
      .ok c.payload := by
  have hle := h.count_le
  have hlen := h.outData_length
  have hnonneg : 0 ≤ c.nBytesOut.toInt64 := by
    rw [Int64.le_iff_toInt_le, Int16.toInt_toInt64]
    exact Int16.le_iff_toInt_le.mp h.nonneg
  have hcount : c.nBytesOut.toInt64.toUInt64.toNat = c.nBytesOut.toNatClampNeg := by
    rw [Int64.toNat_toUInt64_of_le hnonneg, ← Int64.toNat_toInt, Int16.toInt_toInt64, Int16.toNat_toInt]
  rw [hcount, Outcome.slice_ok (by omega), payload, List.drop_zero]

end EncodeCall

theorem i16Le_length (n : Int16) : (i16Le n).length = 2 := rfl

theorem u16FromLe_i16Le (n : UInt16) :
    u16FromLe (UInt8.ofNat n.toNat) (UInt8.ofNat (n.toNat / 256)) = n := ofBE16_be16 n

/-- The scan jumps from one packet to the next. -/
theorem blocksFrom_packets {ε : Type} {cs : List (EncodeCall σ)} (h : ∀ c ∈ cs, c.Succeeds) (before : Bytes) :
    (blocksFrom (before ++ cs.flatMap (·.packet)) before.length : Outcome ε Nat) = .ok cs.length := by
  induction cs generalizing before with
  | nil => exact blocksFrom_stop (by simp)
  | cons c cs ih =>
    have hc := h c List.mem_cons_self
    have hlen : (before ++ c.packet).length = before.length + (2 + c.nBytesOut.toUInt16.toNat) := by
      rw [List.length_append, EncodeCall.packet, List.length_append, i16Le_length, hc.payload_length,
        Int16.toNat_toUInt16_of_le hc.nonneg]
    have hnext := ih (fun c' hc' => h c' (List.mem_cons_of_mem c hc')) (before ++ c.packet)
    rw [hlen, List.append_assoc] at hnext
    rw [List.flatMap_cons, List.length_cons]
    have hjump := blocksFrom_append (ε := ε) before (UInt8.ofNat c.nBytesOut.toUInt16.toNat)
      (UInt8.ofNat (c.nBytesOut.toUInt16.toNat / 256)) (c.payload ++ cs.flatMap (·.packet))
    rw [u16FromLe_i16Le] at hjump
    exact hjump.trans (congrArg ((· + 1) <$> ·) hnext)

namespace SilkEncoder

/-! ## The output -/

/-- The calls of the library for a list of frames. -/
def calls (sdk : SilkSdk σ) (control : EncControl) : List Bytes → σ → Bytes → List (EncodeCall σ)
  | [], _, _ => []
  | frame :: frames, encoder, buf =>
    let call := encodeChunk sdk control encoder buf frame
    call :: calls sdk control frames call.encoder call.outData

variable {sdk : SilkSdk σ} {control : EncControl} {encoder : σ} {buf : Bytes}

theorem calls_length (frames : List Bytes) : (calls sdk control frames encoder buf).length = frames.length := by
  induction frames generalizing encoder buf with
  | nil => rfl
  | cons frame frames ih => rw [calls, List.length_cons, ih, List.length_cons]

/-- The loop appends the packets of the whole frames and breaks off at a shorter one. -/
theorem encodeChunks_eq {n : Nat} {frames short : List Bytes} (hframes : ∀ f ∈ frames, f.length = n)
    (hshort : ∀ f ∈ short, f.length < n) (hcalls : ∀ c ∈ calls sdk control frames encoder buf, c.Succeeds)
    (result : Bytes) :
    encodeChunks sdk control n (frames ++ short) encoder buf result =
      .ok (result ++ (calls sdk control frames encoder buf).flatMap (·.packet)) := by
  induction frames generalizing encoder buf result with
  | nil =>
    cases short with
    | nil => simp [encodeChunks, calls]
    | cons f short => simp [encodeChunks, calls, hshort f List.mem_cons_self]
  | cons frame frames ih =>
    have hlen := hframes frame List.mem_cons_self
    have hcall := hcalls (encodeChunk sdk control encoder buf frame) (by rw [calls]; exact List.mem_cons_self)
    rw [List.cons_append, encodeChunks, if_neg (by omega)]
    simp only [hcall.code_eq, fastUnsafeCheck_zero, Outcome.ok_bind, hcall.slice_eq]
    rw [ih (fun f hf => hframes f (List.mem_cons_of_mem frame hf))
      (fun c hc => hcalls c (by rw [calls]; exact List.mem_cons_of_mem _ hc)), calls, List.flatMap_cons,
      List.append_assoc, List.append_assoc, EncodeCall.packet, List.append_assoc]

/-- How many samples a 20 ms frame has. -/
def frameSamples (sampleRate : UInt32) : Nat := 20 * sampleRate.toNat / 1000

/-- The whole 20 ms frames. -/
def frames (input : AudioResampleStream Int16) : List (List Int16) :=
  pieces (frameSamples input.info.sampleRate) (input.stream.length / frameSamples input.info.sampleRate)
    input.stream

/-- The calls of the library `encode` makes, one for each frame. -/
def frameCalls (sdk : SilkSdk σ) (self : SilkEncoder) (input : AudioResampleStream Int16) : List (EncodeCall σ) :=
  calls sdk (self.encControl input.info.sampleRate) ((frames input).map (List.flatMap i16Le))
    (sdk.initEncoder (List.replicate sdk.getEncoderSize.2.toInt.toNat 0) self.encStatus).2
    (List.replicate 1250 0)

/-- Every call of the library that `encode` makes succeeds, with a payload of at most 1250 bytes. -/
structure Succeeds (sdk : SilkSdk σ) (silk : SilkEncoder) (input : AudioResampleStream Int16) : Prop where
  size_code : sdk.getEncoderSize.1 = 0
  size_nonneg : 0 ≤ sdk.getEncoderSize.2
  init_code : (sdk.initEncoder (List.replicate sdk.getEncoderSize.2.toInt.toNat 0) silk.encStatus).1 = 0
  calls : ∀ c ∈ frameCalls sdk silk input, c.Succeeds

/-- The header, and the packets of the calls. -/
def output (sdk : SilkSdk σ) (self : SilkEncoder) (input : AudioResampleStream Int16) : Bytes :=
  header ++ (frameCalls sdk self input).flatMap (·.packet)

theorem frameCalls_length (sdk : SilkSdk σ) (self : SilkEncoder) (input : AudioResampleStream Int16) :
    (frameCalls sdk self input).length = input.stream.length / frameSamples input.info.sampleRate := by
  rw [frameCalls, calls_length, List.length_map, frames, pieces_length]

theorem samples_length (samples : List Int16) : (samples.flatMap i16Le).length = samples.length * 2 := by
  induction samples with
  | nil => rfl
  | cons n samples ih => rw [List.flatMap_cons, List.length_append, ih, i16Le_length, List.length_cons]; omega

/-- The chunks of the bytes are the frames, and one shorter chunk of what is left. -/
theorem chunks_frames {input : AudioResampleStream Int16} (hrate : 0 < input.info.sampleRate.toNat)
    (hthousand : input.info.sampleRate.toNat % 1000 = 0) :
    ∃ short : List Bytes, (∀ f ∈ short, f.length < frameSize input.info.sampleRate) ∧
      chunks (frameSize input.info.sampleRate) (input.stream.flatMap i16Le) =
        (frames input).map (List.flatMap i16Le) ++ short := by
  have hsize : frameSize input.info.sampleRate = frameSamples input.info.sampleRate * 2 := by
    rw [frameSize, frameSamples]
    omega
  have hpos : 0 < frameSamples input.info.sampleRate := by
    rw [frameSamples]
    omega
  have hcount : (input.stream.flatMap i16Le).length / (frameSamples input.info.sampleRate * 2) =
      input.stream.length / frameSamples input.info.sampleRate := by
    rw [samples_length, Nat.mul_div_mul_right _ _ (by omega)]
  have hframes := pieces_flatMap i16Le_length (Nat.mul_div_le input.stream.length (frameSamples input.info.sampleRate))
  rw [hsize, chunks_eq (by omega), hcount, hframes, frames]
  refine ⟨_, ?_, rfl⟩
  split
  case isTrue => simp
  case isFalse =>
    intro f hf
    have hmod := Nat.mod_lt (input.stream.flatMap i16Le).length (y := frameSamples input.info.sampleRate * 2) (by omega)
    have hdiv := Nat.div_add_mod (input.stream.flatMap i16Le).length (frameSamples input.info.sampleRate * 2)
    rw [hcount] at hdiv
    rw [List.mem_singleton.mp hf, List.length_drop]
    omega

/-- `encode` returns the packets of the whole frames, unless `20 * sample_rate` panics. -/
theorem encode_eq (overflowChecks : Bool) {self : SilkEncoder} {input : AudioResampleStream Int16}
    (hsdk : Succeeds sdk self input) (hrate : 0 < input.info.sampleRate.toNat)
    (hthousand : input.info.sampleRate.toNat % 1000 = 0) :
    encode overflowChecks sdk self input =
      if overflowChecks = true → 20 * input.info.sampleRate.toNat < 2 ^ 32 then
        .ok { stream := output sdk self input, info := input.info } else .panic := by
  obtain ⟨short, hshort, hchunks⟩ := chunks_frames hrate hthousand
  have hnonzero : frameSize input.info.sampleRate ≠ 0 := by
    rw [frameSize]
    omega
  have hlen : ∀ f ∈ (frames input).map (List.flatMap i16Le), f.length = frameSize input.info.sampleRate := by
    intro f hf
    obtain ⟨piece, hpiece, rfl⟩ := List.mem_map.mp hf
    rw [samples_length, length_of_mem_pieces (Nat.mul_div_le _ _) hpiece, frameSamples, frameSize]
    omega
  by_cases hfits : overflowChecks = true → 20 * input.info.sampleRate.toNat < 2 ^ 32
  · rw [if_pos hfits]
    simp only [encode, Outcome.guard_pos hfits, hsdk.size_code, allocate, Outcome.guard_pos hsdk.size_nonneg,
      hsdk.init_code, fastUnsafeCheck_zero, Outcome.guard_pos hnonzero, Outcome.ok_bind, hchunks]
    rw [encodeChunks_eq hlen hshort hsdk.calls]
    rfl
  · rw [if_neg hfits, encode, Outcome.guard_neg hfits]
    rfl

theorem getTenSilkTime_output {ε : Type} {self : SilkEncoder} {input : AudioResampleStream Int16}
    (hsdk : Succeeds sdk self input) :
    (getTenSilkTime (output sdk self input) : Outcome ε Nat) = .ok (frameCalls sdk self input).length := by
  have hscan := blocksFrom_packets (ε := ε) hsdk.calls header
  rwa [header_length] at hscan

/-- `encode` answers the packets of the `k` whole frames, and the scan counts `k`. -/
def EncodesFrames (overflowChecks : Bool) (sdk : SilkSdk σ) (self : SilkEncoder)
    (input : AudioResampleStream Int16) : Prop :=
  ∃ k, k = input.stream.length / (20 * input.info.sampleRate.toNat / 1000) ∧
    (frameCalls sdk self input).length = k ∧
    encode overflowChecks sdk self input =
      .ok { stream := header ++ (frameCalls sdk self input).flatMap (·.packet), info := input.info } ∧
    (getTenSilkTime (header ++ (frameCalls sdk self input).flatMap (·.packet)) : Outcome Empty Nat) = .ok k

/-- **Encoder and scan agree** on the packets of every sample list, as long
as `20 * sample_rate` does not panic; and the scan reads any bytes to their
end. -/
theorem encode_scanned_iff (overflowChecks : Bool) (sdk : SilkSdk σ) (self : SilkEncoder)
    (input : AudioResampleStream Int16) (hsdk : Succeeds sdk self input)
    (hrate : 0 < input.info.sampleRate.toNat) (hthousand : input.info.sampleRate.toNat % 1000 = 0) :
    (EncodesFrames overflowChecks sdk self input ↔
      (overflowChecks = true → 20 * input.info.sampleRate.toNat < 2 ^ 32)) ∧
      ∀ data : Bytes, ∃ count, (getTenSilkTime data : Outcome Empty Nat) = .ok count := by
  refine ⟨?_, fun data => ⟨_, getTenSilkTime_eq data⟩⟩
  have hencode := encode_eq overflowChecks hsdk hrate hthousand
  constructor
  · rintro ⟨_, _, _, hok, _⟩
    by_contra hfits
    rw [hencode, if_neg hfits] at hok
    cases hok
  · intro hfits
    rw [if_pos hfits] at hencode
    exact ⟨_, rfl, frameCalls_length sdk self input, hencode,
      by rw [← frameSamples, ← frameCalls_length sdk self input]; exact getTenSilkTime_output hsdk⟩

/-- A library that reports the first byte of every frame. -/
def echoSdk : SilkSdk Unit where
  getEncoderSize := (0, 16)
  initEncoder _ _ := (0, ())
  encode _ _ samplesIn _ outData _ :=
    { code := 0, encoder := (), outData := samplesIn.take 1 ++ outData.drop 1, nBytesOut := 1 }

/-- 485 samples at 24000 Hz: one frame, and five samples left over. -/
def oneFrame : AudioResampleStream Int16 where
  stream := List.replicate 485 7
  info := { sampleRate := 24000, channels := 1, time := 0 }

theorem echoSdk_oneFrame : Succeeds echoSdk { bitRate := 30000 } oneFrame :=
  ⟨rfl, by decide, rfl, by decide +kernel⟩

theorem encode_scanned_oneFrame :
    (EncodesFrames true echoSdk { bitRate := 30000 } oneFrame ↔
      (true = true → 20 * oneFrame.info.sampleRate.toNat < 2 ^ 32)) ∧
      ∀ data : Bytes, ∃ count, (getTenSilkTime data : Outcome Empty Nat) = .ok count :=
  encode_scanned_iff true echoSdk { bitRate := 30000 } oneFrame echoSdk_oneFrame (by decide) (by decide)

/-- `20 * 214749000` is not a `u32`. -/
theorem encode_fast_rate_panics :
    ¬ ∀ (overflowChecks : Bool) (sdk : SilkSdk Unit) (self : SilkEncoder) (input : AudioResampleStream Int16),
      Succeeds sdk self input → 0 < input.info.sampleRate.toNat → input.info.sampleRate.toNat % 1000 = 0 →
        EncodesFrames overflowChecks sdk self input := by
  intro h
  obtain ⟨_, _, _, hok, _⟩ := h true echoSdk { bitRate := 30000 }
    { stream := [], info := { sampleRate := 214749000, channels := 1, time := 0 } }
    ⟨rfl, by decide, rfl, by decide⟩ (by decide) (by decide)
  rw [encode, Outcome.guard_neg (by decide)] at hok
  cases hok

end SilkEncoder

end Mania
