/-
`mania-codec`'s `RubatoResampler`: all samples of a stream through a
resampler, and its output frames cut to `i16`.

The resampler is a parameter: `ρ` is its state and `ε` the errors of its
crate, as `?` converts them. Samples are rationals. The reservation of
`pcm_out` is left out, and `fuel` bounds the rounds of the `while` loop.

The loop ends and feeds every sample once; the conversion drops the output
frames beyond the range of `i16` (`resample_keeps_iff`).
-/
import Mathlib.Data.Rat.Floor
import Mania.SilkEncoder

namespace Mania

/-! ## The crate -/

/-- What a call of the resampler answers, and the output buffer after it. -/
structure Processed (ρ : Type) where
  resampler : ρ
  inLen : Nat
  outLen : Nat
  buffer : List ℚ

structure Rubato (ρ ε : Type) where
  /-- `FftFixedInOut::new(sr_in, sr_out, chunk_size_in, nbr_channels)`. -/
  new : Nat → Nat → Nat → Nat → Outcome ε ρ
  /-- The one channel of `output_buffer_allocate`. -/
  outputBufferAllocate : ρ → Bool → List ℚ
  inputFramesNext : ρ → Nat
  processIntoBuffer : ρ → (input buffer : List ℚ) → Outcome ε (Processed ρ)
  processPartialIntoBuffer : ρ → (input buffer : List ℚ) → Outcome ε (Processed ρ)

/-- A call of the resampler: the samples it takes and the frames it puts out. -/
structure ResampleCall where
  taken : List ℚ
  frames : List ℚ
  deriving DecidableEq

/-! ## Resampling -/

/-- The truncated value, where it is an `i16`. -/
def i16FromF32 (v : ℚ) : Option Int16 :=
  let t := if 0 ≤ v then ⌊v⌋ else ⌈v⌉
  if -32768 ≤ t ∧ t ≤ 32767 then some (Int16.ofInt t) else none

structure RubatoResampler where
  targetSampleRate : UInt32

namespace RubatoResampler

variable {ρ ε : Type}

/-- The loop variables, and the calls made so far, which the code does not keep. -/
structure Feeding (ρ : Type) where
  resampler : ρ
  outputBuffer : List ℚ
  posIn : Nat
  pcmOut : List ℚ
  calls : List ResampleCall

/-- After a call that was given the input from `posIn` on. -/
def Feeding.after (s : Feeding ρ) (input : List ℚ) (p : Processed ρ) (frames : List ℚ) : Feeding ρ where
  resampler := p.resampler
  outputBuffer := p.buffer
  posIn := s.posIn + p.inLen
  pcmOut := s.pcmOut ++ frames
  calls := s.calls ++ [{ taken := input.take p.inLen, frames }]

/-- The body of the loop. -/
def feedOnce (crate : Rubato ρ ε) (pcmIn : List ℚ) (s : Feeding ρ) : Outcome ε (Feeding ρ) := do
  let input ← Outcome.slice pcmIn s.posIn pcmIn.length
  let p ← crate.processIntoBuffer s.resampler input s.outputBuffer
  let frames ← Outcome.slice p.buffer 0 p.outLen
  .ok (s.after input p frames)

def feed (crate : Rubato ρ ε) (pcmIn : List ℚ) : Nat → Feeding ρ → Option (Outcome ε (Feeding ρ))
  | 0, _ => none
  | fuel + 1, s =>
    if s.posIn + crate.inputFramesNext s.resampler < pcmIn.length then
      match feedOnce crate pcmIn s with
      | .ok s' => feed crate pcmIn fuel s'
      | .err e => some (.err e)
      | .panic => some .panic
    else some (.ok s)

/-- The rest of the input, after the loop. `pos_in` is not read again. -/
def feedRest (crate : Rubato ρ ε) (pcmIn : List ℚ) (s : Feeding ρ) : Outcome ε (Feeding ρ) :=
  if s.posIn < pcmIn.length then do
    let input ← Outcome.slice pcmIn s.posIn pcmIn.length
    let p ← crate.processPartialIntoBuffer s.resampler input s.outputBuffer
    let frames ← Outcome.slice p.buffer 0 p.outLen
    .ok (s.after input p frames)
  else .ok s

/-- All the calls of the resampler. -/
def feedAll (fuel : Nat) (crate : Rubato ρ ε) (self : RubatoResampler) (input : AudioResampleStream ℚ) :
    Option (Outcome ε (Feeding ρ)) :=
  match crate.new input.info.sampleRate.toNat self.targetSampleRate.toNat 1024 1 with
  | .ok resampler =>
    (feed crate input.stream fuel
      { resampler, outputBuffer := crate.outputBufferAllocate resampler true, posIn := 0, pcmOut := [],
        calls := [] }).map (· >>= feedRest crate input.stream)
  | .err e => some (.err e)
  | .panic => some .panic

def resample (fuel : Nat) (crate : Rubato ρ ε) (self : RubatoResampler) (input : AudioResampleStream ℚ) :
    Option (Outcome ε (AudioResampleStream Int16)) :=
  (feedAll fuel crate self input).map fun fed =>
    (fun s =>
      { stream := s.pcmOut.filterMap fun v => i16FromF32 (v * 32767)
        info := { sampleRate := self.targetSampleRate, channels := 1, time := 0 } }) <$> fed

/-! ## Feeding -/

/-- The calls of a resampler that is given a list in turn: full ones while
there is more than one of them left, and one for the rest. -/
inductive Fed (crate : Rubato ρ ε) : ρ → List ℚ → List ℚ → List ResampleCall → Prop
  | nothing {r : ρ} {buffer : List ℚ} : Fed crate r buffer [] []
  | full {r : ρ} {buffer input : List ℚ} {p : Processed ρ} {calls : List ResampleCall} :
    crate.inputFramesNext r < input.length → crate.processIntoBuffer r input buffer = .ok p →
    Fed crate p.resampler p.buffer (input.drop (crate.inputFramesNext r)) calls →
    Fed crate r buffer input
      ({ taken := input.take (crate.inputFramesNext r), frames := p.buffer.take p.outLen } :: calls)
  | rest {r : ρ} {buffer input : List ℚ} {p : Processed ρ} :
    0 < input.length → input.length ≤ crate.inputFramesNext r →
    crate.processPartialIntoBuffer r input buffer = .ok p →
    Fed crate r buffer input [{ taken := input, frames := p.buffer.take p.outLen }]

/-- What `resample` relies on: full calls take `input_frames_next` frames, a
partial call takes what it is given, and the output fits the buffer. `ready`
are the states and buffers the crate works with. -/
structure Lawful (crate : Rubato ρ ε) (ready : ρ → List ℚ → Prop) : Prop where
  next_pos : ∀ r, 0 < crate.inputFramesNext r
  full : ∀ r input buffer, ready r buffer → crate.inputFramesNext r ≤ input.length →
    ∃ p, crate.processIntoBuffer r input buffer = .ok p ∧ p.inLen = crate.inputFramesNext r ∧
      p.outLen ≤ p.buffer.length ∧ ready p.resampler p.buffer
  rest : ∀ r input buffer, ready r buffer → input.length ≤ crate.inputFramesNext r →
    ∃ p, crate.processPartialIntoBuffer r input buffer = .ok p ∧ input.length ≤ p.inLen ∧
      p.outLen ≤ p.buffer.length

variable {crate : Rubato ρ ε} {r : ρ} {buffer input : List ℚ} {calls : List ResampleCall}

theorem Fed.taken (h : Fed crate r buffer input calls) : calls.flatMap (·.taken) = input := by
  induction h with
  | nothing => rfl
  | full _ _ _ ih => rw [List.flatMap_cons, ih, List.take_append_drop]
  | rest => rw [List.flatMap_cons, List.flatMap_nil, List.append_nil]

/-- The calls are a function of the input. -/
theorem Fed.unique {calls' : List ResampleCall} (h : Fed crate r buffer input calls)
    (h' : Fed crate r buffer input calls') : calls = calls' := by
  induction h generalizing calls' with
  | nothing =>
    cases h' with
    | nothing => rfl
    | full hlen => exact absurd hlen (by simp)
    | rest hpos => exact absurd hpos (by simp)
  | full hlen hok _ ih =>
    cases h' with
    | nothing => exact absurd hlen (by simp)
    | full _ hok' hfed' =>
      cases hok.symm.trans hok'
      rw [ih hfed']
    | rest _ hle => exact absurd hlen (by omega)
  | rest hpos hle hok =>
    cases h' with
    | nothing => exact absurd hpos (by simp)
    | full hlen => exact absurd hlen (by omega)
    | rest _ _ hok' =>
      cases hok.symm.trans hok'
      rfl

variable {ready : ρ → List ℚ → Prop}

theorem frames_ok {p : Processed ρ} (h : p.outLen ≤ p.buffer.length) :
    (Outcome.slice p.buffer 0 p.outLen : Outcome ε (List ℚ)) = .ok (p.buffer.take p.outLen) := by
  rw [Outcome.slice_ok ⟨Nat.zero_le _, h⟩, List.drop_zero]

theorem input_ok {pcmIn : List ℚ} {posIn : Nat} (h : posIn ≤ pcmIn.length) :
    (Outcome.slice pcmIn posIn pcmIn.length : Outcome ε (List ℚ)) = .ok (pcmIn.drop posIn) := by
  rw [Outcome.slice_ok ⟨h, Nat.le_refl _⟩, List.take_length]

/-- A round of the loop is a full call. -/
theorem feedOnce_full (hcrate : Lawful crate ready) {pcmIn : List ℚ} {s : Feeding ρ}
    (hready : ready s.resampler s.outputBuffer) (hloop : s.posIn + crate.inputFramesNext s.resampler < pcmIn.length) :
    ∃ p, crate.processIntoBuffer s.resampler (pcmIn.drop s.posIn) s.outputBuffer = .ok p ∧
      p.inLen = crate.inputFramesNext s.resampler ∧ ready p.resampler p.buffer ∧
      feedOnce crate pcmIn s = .ok (s.after (pcmIn.drop s.posIn) p (p.buffer.take p.outLen)) := by
  obtain ⟨p, hp, hin, hout, hready'⟩ := hcrate.full s.resampler (pcmIn.drop s.posIn) s.outputBuffer hready
    (by rw [List.length_drop]; omega)
  refine ⟨p, hp, hin, hready', ?_⟩
  rw [feedOnce, input_ok (by omega), Outcome.ok_bind, hp, Outcome.ok_bind, frames_ok hout, Outcome.ok_bind]

/-- What is left after the loop is fed by one call. -/
theorem feedRest_fed (hcrate : Lawful crate ready) {pcmIn : List ℚ} {s : Feeding ρ}
    (hready : ready s.resampler s.outputBuffer) (hpos : s.posIn ≤ pcmIn.length)
    (hstop : ¬ s.posIn + crate.inputFramesNext s.resampler < pcmIn.length) :
    ∃ calls s', Fed crate s.resampler s.outputBuffer (pcmIn.drop s.posIn) calls ∧
      feedRest crate pcmIn s = .ok s' ∧
      s'.calls = s.calls ++ calls ∧ s'.pcmOut = s.pcmOut ++ calls.flatMap (·.frames) := by
  have hleft : (pcmIn.drop s.posIn).length = pcmIn.length - s.posIn := List.length_drop
  by_cases hrest : s.posIn < pcmIn.length
  · obtain ⟨p, hp, hin, hout⟩ := hcrate.rest s.resampler (pcmIn.drop s.posIn) s.outputBuffer hready (by omega)
    refine ⟨_, s.after (pcmIn.drop s.posIn) p (p.buffer.take p.outLen), .rest (by omega) (by omega) hp, ?_, ?_, ?_⟩
    · rw [feedRest, if_pos hrest, input_ok hpos, Outcome.ok_bind, hp, Outcome.ok_bind, frames_ok hout,
        Outcome.ok_bind]
    · rw [Feeding.after, List.take_of_length_le hin]
    · rw [Feeding.after, List.flatMap_cons, List.flatMap_nil, List.append_nil]
  · have hnil : pcmIn.drop s.posIn = [] := List.drop_eq_nil_of_le (by omega)
    refine ⟨[], s, by rw [hnil]; exact .nothing, ?_, by simp, by simp⟩
    rw [feedRest, if_neg hrest]

/-- From any position the loop ends, and with the rest after it the input
from there on has been fed. -/
theorem feed_fed (hcrate : Lawful crate ready) {pcmIn : List ℚ} {s : Feeding ρ}
    (hready : ready s.resampler s.outputBuffer) (hpos : s.posIn ≤ pcmIn.length) :
    ∃ calls s', Fed crate s.resampler s.outputBuffer (pcmIn.drop s.posIn) calls ∧
      (∀ fuel, pcmIn.length - s.posIn < fuel →
        (feed crate pcmIn fuel s).map (· >>= feedRest crate pcmIn) = some (.ok s')) ∧
      s'.calls = s.calls ++ calls ∧ s'.pcmOut = s.pcmOut ++ calls.flatMap (·.frames) := by
  induction h : pcmIn.length - s.posIn using Nat.strongRecOn generalizing s with
  | _ left ih =>
    have hnext := hcrate.next_pos s.resampler
    by_cases hloop : s.posIn + crate.inputFramesNext s.resampler < pcmIn.length
    · obtain ⟨p, hp, hin, hready', honce⟩ := feedOnce_full hcrate hready hloop
      have hpos' : (s.after (pcmIn.drop s.posIn) p (p.buffer.take p.outLen)).posIn =
          s.posIn + crate.inputFramesNext s.resampler := by
        rw [Feeding.after, hin]
      obtain ⟨calls, s', hfed, hend, hcalls, hpcm⟩ :=
        ih _ (by omega) (s := s.after (pcmIn.drop s.posIn) p (p.buffer.take p.outLen)) hready' (by omega) rfl
      rw [hpos', ← List.drop_drop] at hfed
      refine ⟨_, s', .full (by rw [List.length_drop]; omega) hp hfed, fun fuel hfuel => ?_, ?_, ?_⟩
      · obtain _ | fuel := fuel
        · omega
        · rw [feed, if_pos hloop, honce]
          exact hend fuel (by omega)
      · rw [hcalls, Feeding.after, List.append_assoc, List.singleton_append, hin]
      · rw [hpcm, Feeding.after, List.append_assoc, List.flatMap_cons]
    · obtain ⟨calls, s', hfed, hrest, hcalls, hpcm⟩ := feedRest_fed hcrate hready hpos hloop
      refine ⟨calls, s', hfed, fun fuel hfuel => ?_, hcalls, hpcm⟩
      obtain _ | fuel := fuel
      · omega
      · rw [feed, if_neg hloop, Option.map_some, Outcome.ok_bind, hrest]

/-! ## Conversion -/

/-- The values `i16::from_f32` answers. -/
def InRange (v : ℚ) : Prop := -32769 < v ∧ v < 32768

theorem i16FromF32_isSome {v : ℚ} : (i16FromF32 v).isSome ↔ InRange v := by
  have htrunc : (-32768 ≤ (if 0 ≤ v then ⌊v⌋ else ⌈v⌉) ∧ (if 0 ≤ v then ⌊v⌋ else ⌈v⌉) ≤ 32767) ↔ InRange v := by
    rw [InRange]
    split
    case isTrue hv =>
      have hfloor : ⌊v⌋ < 32768 ↔ v < 32768 := by exact_mod_cast Int.floor_lt (z := 32768) (a := v)
      have hnonneg : 0 ≤ ⌊v⌋ := Int.floor_nonneg.mpr hv
      rw [← hfloor]
      exact ⟨fun h => ⟨by linarith, by omega⟩, fun h => ⟨by omega, by omega⟩⟩
    case isFalse hv =>
      have hceil : -32769 < ⌈v⌉ ↔ -32769 < v := by exact_mod_cast Int.lt_ceil (z := -32769) (a := v)
      have hnonpos : ⌈v⌉ ≤ 0 := Int.ceil_le.mpr (by push_cast; linarith)
      rw [← hceil]
      exact ⟨fun h => ⟨by omega, by linarith⟩, fun h => ⟨by omega, by omega⟩⟩
  rw [i16FromF32, ← htrunc]
  split
  case isTrue => simp
  case isFalse => simp

/-- Every element has its own value exactly where none is dropped. -/
theorem forall₂_filterMap {α β : Type} {f : α → Option β} {as : List α} :
    List.Forall₂ (fun a b => f a = some b) as (as.filterMap f) ↔ ∀ a ∈ as, (f a).isSome := by
  induction as with
  | nil => simp
  | cons a as ih =>
    cases ha : f a with
    | some b => simp [ha, ih]
    | none =>
      have hle := List.length_filterMap_le f as
      refine ⟨fun h => absurd h.length_eq ?_, fun h => by simp [ha] at h⟩
      rw [List.filterMap_cons_none ha, List.length_cons]
      omega

/-! ## The stream -/

/-- The frames the resampler puts out on all of the stream are each one
sample of what `resample` returns. -/
def Resampled (crate : Rubato ρ ε) (self : RubatoResampler) (input : AudioResampleStream ℚ) (r : ρ) : Prop :=
  ∃ s stream enough,
    Fed crate r (crate.outputBufferAllocate r true) input.stream s.calls ∧
      s.calls.flatMap (·.taken) = input.stream ∧ s.pcmOut = s.calls.flatMap (·.frames) ∧
      (∀ fuel, enough < fuel → feedAll fuel crate self input = some (.ok s) ∧
        resample fuel crate self input =
          some (.ok { stream, info := { sampleRate := self.targetSampleRate, channels := 1, time := 0 } })) ∧
      List.Forall₂ (fun v n => i16FromF32 (v * 32767) = some n) s.pcmOut stream

/-- All the samples are fed, whatever becomes of the frames. -/
theorem feedAll_fed (hcrate : Lawful crate ready) {self : RubatoResampler} {input : AudioResampleStream ℚ}
    (hnew : crate.new input.info.sampleRate.toNat self.targetSampleRate.toNat 1024 1 = .ok r)
    (hready : ready r (crate.outputBufferAllocate r true)) :
    ∃ s, Fed crate r (crate.outputBufferAllocate r true) input.stream s.calls ∧
      s.pcmOut = s.calls.flatMap (·.frames) ∧
      ∀ fuel, input.stream.length < fuel → feedAll fuel crate self input = some (.ok s) := by
  let start : Feeding ρ :=
    { resampler := r, outputBuffer := crate.outputBufferAllocate r true, posIn := 0, pcmOut := [], calls := [] }
  have hzero : start.posIn ≤ input.stream.length := Nat.zero_le _
  obtain ⟨calls, s, hfed, hend, hcalls, hpcm⟩ := feed_fed hcrate hready hzero
  rw [List.nil_append] at hcalls hpcm
  rw [← hcalls] at hfed hpcm
  refine ⟨s, hfed, hpcm, fun fuel hfuel => ?_⟩
  rw [feedAll, hnew]
  exact hend fuel hfuel

theorem resample_eq {fuel : Nat} {self : RubatoResampler} {input : AudioResampleStream ℚ} {s : Feeding ρ}
    (h : feedAll fuel crate self input = some (.ok s)) :
    resample fuel crate self input =
      some (.ok { stream := s.pcmOut.filterMap fun v => i16FromF32 (v * 32767)
                  info := { sampleRate := self.targetSampleRate, channels := 1, time := 0 } }) := by
  rw [resample, h, Option.map_some, Outcome.map_ok]

theorem Resampled.inRange {self : RubatoResampler} {input : AudioResampleStream ℚ}
    (h : Resampled crate self input r) {calls : List ResampleCall}
    (hcalls : Fed crate r (crate.outputBufferAllocate r true) input.stream calls) {c : ResampleCall} (hc : c ∈ calls)
    {v : ℚ} (hv : v ∈ c.frames) : InRange (v * 32767) := by
  obtain ⟨s, stream, enough, hfed, _, hpcm, hend, hkept⟩ := h
  obtain ⟨hall, hok⟩ := hend (enough + 1) (Nat.lt_succ_self enough)
  have hstream : s.pcmOut.filterMap (fun v => i16FromF32 (v * 32767)) = stream := by
    have heq := (resample_eq hall).symm.trans hok
    simp only [Option.some.injEq, Outcome.ok.injEq, AudioResampleStream.mk.injEq] at heq
    exact heq.1
  rw [← hstream, forall₂_filterMap] at hkept
  have hmem : v ∈ s.pcmOut := by
    rw [hpcm, hfed.unique hcalls]
    exact List.mem_flatMap.mpr ⟨c, hc, hv⟩
  exact i16FromF32_isSome.mp (hkept v hmem)

/-- **`resample` keeps every output frame** exactly where the resampler puts
out none beyond the range of `i16`. -/
theorem resample_keeps_iff (hcrate : Lawful crate ready) (self : RubatoResampler) (input : AudioResampleStream ℚ)
    (hnew : crate.new input.info.sampleRate.toNat self.targetSampleRate.toNat 1024 1 = .ok r)
    (hready : ready r (crate.outputBufferAllocate r true)) :
    Resampled crate self input r ↔
      ∀ calls, Fed crate r (crate.outputBufferAllocate r true) input.stream calls →
        ∀ c ∈ calls, ∀ v ∈ c.frames, InRange (v * 32767) := by
  constructor
  · intro h calls hcalls c hc v hv
    exact h.inRange hcalls hc hv
  · intro hrange
    obtain ⟨s, hfed, hpcm, hall⟩ := feedAll_fed hcrate hnew hready
    refine ⟨s, _, input.stream.length, hfed, hfed.taken, hpcm,
      fun fuel hfuel => ⟨hall fuel hfuel, resample_eq (hall fuel hfuel)⟩, ?_⟩
    rw [forall₂_filterMap]
    intro v hv
    rw [hpcm] at hv
    obtain ⟨c, hc, hv⟩ := List.mem_flatMap.mp hv
    exact i16FromF32_isSome.mpr (hrange s.calls hfed c hc v hv)

/-- Equal rates: every `n` samples come out as they went in. -/
def sameRate (n : Nat) : Rubato Unit String where
  new _ _ _ _ := .ok ()
  outputBufferAllocate _ _ := List.replicate n 0
  inputFramesNext _ := n
  processIntoBuffer _ input _ :=
    if n ≤ input.length then .ok { resampler := (), inLen := n, outLen := n, buffer := input.take n }
    else .err "InsufficientInputBufferSize"
  processPartialIntoBuffer _ input _ :=
    .ok { resampler := (), inLen := n, outLen := n, buffer := input ++ List.replicate (n - input.length) 0 }

theorem sameRate_lawful {n : Nat} (hn : 0 < n) : Lawful (sameRate n) fun _ _ => True where
  next_pos _ := hn
  full _ input _ _ hlen := by
    refine ⟨_, if_pos hlen, rfl, ?_, trivial⟩
    show n ≤ (input.take n).length
    rw [List.length_take]
    exact Nat.le_min.mpr ⟨Nat.le_refl n, hlen⟩
  rest _ input _ _ hlen := by
    refine ⟨_, rfl, hlen, ?_⟩
    show n ≤ (input ++ List.replicate (n - input.length) 0).length
    rw [List.length_append, List.length_replicate]
    omega

/-- Three samples of silence. -/
theorem resample_keeps_silence :
    Resampled (sameRate 1024) { targetSampleRate := 48000 }
        { stream := [0, 0, 0], info := { sampleRate := 48000, channels := 1, time := 0 } } () ↔
      ∀ calls, Fed (sameRate 1024) () ((sameRate 1024).outputBufferAllocate () true) [0, 0, 0] calls →
        ∀ c ∈ calls, ∀ v ∈ c.frames, InRange (v * 32767) :=
  resample_keeps_iff (sameRate_lawful (by decide)) { targetSampleRate := 48000 }
    { stream := [0, 0, 0], info := { sampleRate := 48000, channels := 1, time := 0 } } rfl trivial

/-- A sample of twice full scale is dropped. -/
theorem resample_drops_loud :
    ¬ ∀ (crate : Rubato Unit String) (ready : Unit → List ℚ → Prop) (self : RubatoResampler)
      (input : AudioResampleStream ℚ), Lawful crate ready →
        crate.new input.info.sampleRate.toNat self.targetSampleRate.toNat 1024 1 = .ok () →
        ready () (crate.outputBufferAllocate () true) → Resampled crate self input () := by
  intro h
  have hloud := h (sameRate 1024) (fun _ _ => True) { targetSampleRate := 48000 }
    { stream := [2], info := { sampleRate := 48000, channels := 1, time := 0 } } (sameRate_lawful (by decide)) rfl
    trivial
  have hrange : InRange (2 * 32767) :=
    hloud.inRange (.rest Nat.zero_lt_one (by decide) rfl) List.mem_cons_self List.mem_cons_self
  norm_num [InRange] at hrange

end RubatoResampler

end Mania
