/-
`core/highway/hw_frame_codec.rs`: the frames of the highway protocol, as
`tokio_util`'s `Framed` reads them (`Framed.feed`).

`decode` reads the nine header bytes off the buffer before it knows that
the frame is complete, so a chunk that ends within a frame, after its tenth
byte, loses the header. The frames sent arrive exactly when no chunk ends so.
-/
import Mania.Lib.Framed

namespace Mania

open Bytes

structure HighwayFrame where
  head : Bytes
  body : Bytes
  deriving DecidableEq

inductive HighwayError where
  | invalidFrame
  | ioError (e : String)
  | uploadError (code : Nat)
  | hexError
  | otherError (text : String)
  deriving DecidableEq

namespace HighwayFrame

def encode (item : HighwayFrame) : Bytes :=
  0x28 :: (be32 (UInt32.ofNat item.head.length) ++ (be32 (UInt32.ofNat item.body.length) ++
    (item.head ++ (item.body ++ [0x29]))))

/-- The head, the body and the end byte, which the buffer is known to hold. -/
def decodeRest (start : UInt8) (headLength bodyLength : Nat) :
    Cursor Empty (Except HighwayError (Option HighwayFrame)) := do
  let head ← Cursor.splitTo headLength
  let body ← Cursor.splitTo bodyLength
  let stop ← Cursor.getU8
  if start ≠ 0x28 ∨ stop ≠ 0x29 then pure (.error .invalidFrame)
  else pure (.ok (some { head, body }))

def decode : Cursor Empty (Except HighwayError (Option HighwayFrame)) := do
  let src ← get
  if src.length < 1 + 4 + 4 + 1 then pure (.ok none)
  else
    let start ← Cursor.getU8
    let headLength ← Cursor.getU32
    let bodyLength ← Cursor.getU32
    let src ← get
    if src.length < headLength.toNat + bodyLength.toNat + 1 then pure (.ok none)
    else decodeRest start headLength.toNat bodyLength.toNat

/-- Head and body are short enough for their length fields. -/
def Fits (f : HighwayFrame) : Prop := f.head.length < 2 ^ 32 ∧ f.body.length < 2 ^ 32

theorem encode_length (f : HighwayFrame) : f.encode.length = 10 + f.head.length + f.body.length := by
  simp [encode]
  omega

/-! ## One call -/

/-- Fewer than ten bytes are left alone. -/
theorem decode_short {buffer : Bytes} (h : buffer.length < 10) : decode.run buffer = .ok (.ok none, buffer) := by
  simp [decode, h]

/-- Of ten bytes or more, the header is gone whatever follows. -/
theorem decode_header (start : UInt8) (m n : UInt32) {rest : Bytes} (h : rest ≠ []) :
    decode.run (start :: (be32 m ++ (be32 n ++ rest))) =
      if rest.length < m.toNat + n.toNat + 1 then .ok (.ok none, rest)
      else (decodeRest start m.toNat n.toNat).run rest := by
  have hlen : ¬ (start :: (be32 m ++ (be32 n ++ rest))).length < 1 + 4 + 4 + 1 := by
    have hrest := List.length_pos_iff.mpr h
    simp only [List.length_cons, List.length_append, be32_length]
    omega
  simp only [decode, StateT.run_bind, StateT.run_get, Outcome.pure_eq, Outcome.ok_bind, if_neg hlen,
    Cursor.getU8_cons, Cursor.getU32_be32]
  split <;> rfl

theorem header_of_length {buffer : Bytes} (h : 10 ≤ buffer.length) :
    ∃ start m n rest, buffer = start :: (be32 m ++ (be32 n ++ rest)) ∧ rest ≠ [] := by
  obtain ⟨start, buffer, rfl⟩ := List.exists_cons_of_length_pos (show 0 < buffer.length by omega)
  rw [List.length_cons] at h
  have hm : (buffer.take 4).length = 4 := by simp; omega
  have hn : ((buffer.drop 4).take 4).length = 4 := by simp; omega
  refine ⟨start, ofBE32 (buffer.take 4), ofBE32 ((buffer.drop 4).take 4), (buffer.drop 4).drop 4, ?_, ?_⟩
  · rw [be32_ofBE32 hm, be32_ofBE32 hn, List.take_append_drop, List.take_append_drop]
  · apply List.ne_nil_of_length_pos
    simp
    omega

/-- A whole frame at the front of the buffer is decoded. -/
theorem decode_encode {f : HighwayFrame} (hf : f.Fits) (bs : Bytes) :
    decode.run (f.encode ++ bs) = .ok (.ok (some f), bs) := by
  have hm : (UInt32.ofNat f.head.length).toNat = f.head.length := UInt32.toNat_ofNat_of_lt' hf.1
  have hn : (UInt32.ofNat f.body.length).toNat = f.body.length := UInt32.toNat_ofNat_of_lt' hf.2
  have hshape : f.encode ++ bs = 0x28 :: (be32 (UInt32.ofNat f.head.length) ++
      (be32 (UInt32.ofNat f.body.length) ++ (f.head ++ (f.body ++ (0x29 :: bs))))) := by
    simp [encode]
  rw [hshape, decode_header _ _ _ (by simp), hm, hn, if_neg (by simp only [List.length_append, List.length_cons]; omega)]
  simp only [decodeRest, StateT.run_bind, Cursor.splitTo_append rfl, Cursor.getU8_cons, Outcome.ok_bind]
  rfl

/-- A frame cut after its tenth byte or later loses its header. -/
theorem decode_partial {f : HighwayFrame} (hf : f.Fits) {left tail : Bytes} (hcut : left ++ tail = f.encode)
    (h10 : 10 ≤ left.length) (hlt : left.length < f.encode.length) :
    decode.run left = .ok (.ok none, left.drop 9) := by
  obtain ⟨start, m, n, rest, rfl, hrest⟩ := header_of_length h10
  rw [encode, List.cons_append, List.cons.injEq, List.append_assoc, List.append_assoc] at hcut
  obtain ⟨rfl, hbody⟩ := be32_append_inj hcut.2
  obtain ⟨rfl, -⟩ := be32_append_inj hbody
  have hm : (UInt32.ofNat f.head.length).toNat = f.head.length := UInt32.toNat_ofNat_of_lt' hf.1
  have hn : (UInt32.ofNat f.body.length).toNat = f.body.length := UInt32.toNat_ofNat_of_lt' hf.2
  have hshort : rest.length < f.head.length + f.body.length + 1 := by
    rw [encode_length] at hlt
    simp only [List.length_cons, List.length_append, be32_length] at hlt
    omega
  rw [decode_header _ _ _ hrest, hm, hn, if_pos hshort, List.drop_succ_cons, ← List.append_assoc,
    List.drop_left' (by simp)]

theorem decodeRest_some {start : UInt8} {m n : Nat} {buffer rest : Bytes} {f : HighwayFrame}
    (h : (decodeRest start m n).run buffer = .ok (.ok (some f), rest)) :
    f.head.length = m ∧ f.body.length = n ∧ buffer.length = m + n + 1 + rest.length := by
  simp only [decodeRest, StateT.run_bind, Outcome.bind_eq_ok, Prod.exists, Cursor.splitTo_eq_ok,
    Cursor.getU8_eq_ok] at h
  obtain ⟨head, _, ⟨rfl, hhead⟩, body, _, ⟨rfl, hbody⟩, stop, _, rfl, h⟩ := h
  split at h
  · cases h
  · cases h
    refine ⟨hhead, hbody, ?_⟩
    simp only [List.length_append, List.length_cons]
    omega

/-- A decoded frame has the lengths its header said. -/
theorem fits_of_decode {buffer rest : Bytes} {f : HighwayFrame}
    (h : decode.run buffer = .ok (.ok (some f), rest)) : f.Fits := by
  by_cases h10 : buffer.length < 10
  · rw [decode_short h10] at h
    cases h
  · obtain ⟨start, m, n, body, rfl, hbody⟩ := header_of_length (Nat.le_of_not_lt h10)
    rw [decode_header _ _ _ hbody] at h
    split at h
    · cases h
    · obtain ⟨hhead, hlen, -⟩ := decodeRest_some h
      exact ⟨hhead ▸ m.toNat_lt, hlen ▸ n.toNat_lt⟩

theorem decodeRest_ne_none {start : UInt8} {m n : Nat} {buffer rest : Bytes} :
    (decodeRest start m n).run buffer ≠ .ok (.ok none, rest) := by
  intro h
  simp only [decodeRest, StateT.run_bind, Outcome.bind_eq_ok, Prod.exists] at h
  obtain ⟨_, _, -, _, _, -, _, _, -, h⟩ := h
  split at h <;> cases h

theorem sound_decode : Framed.Decoder.Sound decode encode where
  frame := by
    intro buffer f rest h
    by_cases h10 : buffer.length < 10
    · rw [decode_short h10] at h
      cases h
    · obtain ⟨start, m, n, body, rfl, hbody⟩ := header_of_length (Nat.le_of_not_lt h10)
      rw [decode_header _ _ _ hbody] at h
      split at h
      · cases h
      · obtain ⟨hhead, hlen, hrest⟩ := decodeRest_some h
        rw [encode_length]
        simp only [List.length_cons, List.length_append, be32_length]
        omega
  wait := by
    intro buffer rest h
    by_cases h10 : buffer.length < 10
    · rw [decode_short h10] at h
      cases h
      exact Nat.le_refl _
    · obtain ⟨start, m, n, body, rfl, hbody⟩ := header_of_length (Nat.le_of_not_lt h10)
      rw [decode_header _ _ _ hbody] at h
      split at h
      · cases h
        simp only [List.length_cons, List.length_append, be32_length]
        omega
      · exact absurd h decodeRest_ne_none

/-! ## Every way of cutting the stream into chunks -/

open Framed (encodeAll drain feed Yield)

/-- The stream position `p` is not within a frame, past its ninth byte. -/
def Clear (frames : List HighwayFrame) (p : Nat) : Prop :=
  ∀ done f later, frames = done ++ f :: later →
    ¬ ((encodeAll encode done).length + 10 ≤ p ∧ p < (encodeAll encode done).length + f.encode.length)

/-- Every chunk ends at a clear position; `start` bytes came before the first. -/
def ClearCuts (frames : List HighwayFrame) (start : Nat) (chunks : List Bytes) : Prop :=
  ∀ before after, chunks = before ++ after → Clear frames (start + before.flatten.length)

/-- Positions past some whole frames are clear when they are for the frames that follow. -/
theorem clear_append {done later : List HighwayFrame} {q : Nat} :
    Clear (done ++ later) ((encodeAll encode done).length + q) ↔ Clear later q := by
  constructor
  · intro h done' f rest hlater hq
    refine h (done ++ done') f rest (by simp [hlater]) ?_
    simp only [Framed.encodeAll_append, List.length_append]
    omega
  · intro h done' f rest heq hq
    rcases List.append_eq_append_iff.mp heq with ⟨mid, rfl, hlater⟩ | ⟨mid, hdone, hrest⟩
    · refine h mid f rest hlater ?_
      simp only [Framed.encodeAll_append, List.length_append] at hq
      omega
    · -- `f` lies among the frames that are done, so it ends before `q` begins.
      cases mid with
      | nil =>
        simp only [List.append_nil] at hdone
        subst hdone
        refine h [] f rest (by simpa using hrest.symm) ?_
        simp only [Framed.encodeAll_nil, List.length_nil]
        omega
      | cons g mid =>
        cases hrest
        subst hdone
        simp only [Framed.encodeAll_append, Framed.encodeAll_cons, List.length_append] at hq
        omega

/-- Draining a buffer that starts like the encoding of `later`, and has less
than its first frame, keeps it or cuts the header off it. -/
theorem drain_left {later : List HighwayFrame} (hfits : ∀ f ∈ later, f.Fits) {left tail : Bytes} (n : Nat)
    (hleft : left ++ tail = encodeAll encode later)
    (hend : (later = [] ∧ left = []) ∨ ∃ f rest, later = f :: rest ∧ left.length < f.encode.length) :
    drain decode (n + 1) left =
      .ok { frames := [], error := none, buffer := if left.length < 10 then left else left.drop 9 } := by
  by_cases h10 : left.length < 10
  · rw [if_pos h10, drain, decode_short h10]
    rfl
  · rcases hend with ⟨-, rfl⟩ | ⟨f, rest, rfl, hlt⟩
    · simp at h10
    · obtain ⟨tail', hcut⟩ : ∃ tail', left ++ tail' = f.encode := by
        rw [Framed.encodeAll_cons] at hleft
        exact List.prefix_of_prefix_length_le ⟨tail, rfl⟩ ⟨_, hleft.symm⟩ (Nat.le_of_lt hlt)
      rw [if_neg h10, drain, decode_partial (hfits f List.mem_cons_self) hcut (Nat.le_of_not_lt h10) hlt]
      rfl

theorem length_le_encodeAll (frames : List HighwayFrame) : frames.length ≤ (encodeAll encode frames).length := by
  induction frames with
  | nil => simp
  | cons f frames ih =>
    simp only [List.length_cons, Framed.encodeAll_cons, List.length_append, encode_length]
    omega

/-- One chunk: the frames it completes, and what is left of the next. -/
theorem drain_chunk {done later : List HighwayFrame} (hfits : ∀ f ∈ done ++ later, f.Fits) {buffer left tail : Bytes}
    (hbuffer : buffer = encodeAll encode done ++ left) (hleft : left ++ tail = encodeAll encode later)
    (hend : (later = [] ∧ left = []) ∨ ∃ f rest, later = f :: rest ∧ left.length < f.encode.length) :
    drain decode (buffer.length + 1) buffer =
      .ok { frames := done, error := none, buffer := if left.length < 10 then left else left.drop 9 } := by
  subst hbuffer
  have hcalls := length_le_encodeAll done
  obtain ⟨n, hn⟩ : ∃ n, (encodeAll encode done ++ left).length + 1 = done.length + (n + 1) :=
    ⟨(encodeAll encode done ++ left).length - done.length, by rw [List.length_append]; omega⟩
  rw [hn, Framed.drain_encodeAll fun f hf => decode_encode (hfits f (List.mem_append_left later hf)),
    drain_left (fun f hf => hfits f (List.mem_append_right done hf)) n hleft hend, Outcome.map_ok, List.append_nil]

/-- The stream gives these frames and no error. -/
def Gives (buffer : Bytes) (chunks : List Bytes) (frames : List HighwayFrame) : Prop :=
  ∃ left, feed decode buffer chunks = .ok { frames, error := none, buffer := left }

theorem gives_cons {buffer chunk left : Bytes} {chunks : List Bytes} {done later : List HighwayFrame}
    (h : drain decode ((buffer ++ chunk).length + 1) (buffer ++ chunk) =
      .ok { frames := done, error := none, buffer := left }) :
    Gives buffer (chunk :: chunks) (done ++ later) ↔ Gives left chunks later := by
  unfold Gives
  rw [Framed.feed_cons h]
  cases feed decode left chunks with
  | ok y => cases y; simp
  | err e => exact e.elim
  | panic => simp

/-- What a stream gives is no longer than the stream. -/
theorem Gives.length {buffer : Bytes} {chunks : List Bytes} {frames : List HighwayFrame}
    (h : Gives buffer chunks frames) : (encodeAll encode frames).length ≤ buffer.length + chunks.flatten.length := by
  obtain ⟨left, h⟩ := h
  exact Nat.le_trans (Nat.le_add_right _ _) (Framed.feed_length sound_decode h rfl)

/-- Cutting on from a chunk that ends `left` bytes into the frames `later`. -/
theorem clearCuts_cons {done later : List HighwayFrame} {buffer chunk left : Bytes} {chunks : List Bytes}
    (hshort : buffer.length < 10) (hbuffer : buffer ++ chunk = encodeAll encode done ++ left) :
    ClearCuts (done ++ later) buffer.length (chunk :: chunks) ↔ ClearCuts later left.length chunks := by
  have hlen : buffer.length + chunk.length = (encodeAll encode done).length + left.length := by
    rw [← List.length_append, ← List.length_append, hbuffer]
  have hpos (before : List Bytes) : buffer.length + (chunk :: before).flatten.length =
      (encodeAll encode done).length + (left.length + before.flatten.length) := by
    rw [List.flatten_cons, List.length_append]
    omega
  constructor
  · intro h before after hchunks
    have hclear := h (chunk :: before) after (by rw [hchunks, List.cons_append])
    rwa [hpos, clear_append] at hclear
  · intro h before after hchunks
    cases before with
    | nil =>
      intro done' f rest _ hp
      simp only [List.flatten_nil, List.length_nil] at hp
      omega
    | cons chunk' before =>
      cases hchunks
      rw [hpos, clear_append]
      exact h before after rfl

theorem gives_iff {frames : List HighwayFrame} (hfits : ∀ f ∈ frames, f.Fits) {chunks : List Bytes} {buffer : Bytes}
    (hshort : buffer.length < 10) (hstream : buffer ++ chunks.flatten = encodeAll encode frames) :
    Gives buffer chunks frames ↔ ClearCuts frames buffer.length chunks := by
  induction chunks generalizing buffer frames with
  | nil =>
    -- Fewer than ten bytes encode no frame at all.
    rw [List.flatten_nil, List.append_nil] at hstream
    cases frames with
    | nil =>
      refine iff_of_true ⟨buffer, rfl⟩ ?_
      intro _ _ _ done f later hnil
      simp at hnil
    | cons f frames =>
      rw [hstream, Framed.encodeAll_cons, List.length_append, encode_length] at hshort
      omega
  | cons chunk chunks ih =>
    rw [List.flatten_cons, ← List.append_assoc] at hstream
    obtain ⟨done, later, left, rfl, hbuffer, hleft, hend⟩ := Framed.split_buffer hstream
    have hlater : ∀ f ∈ later, f.Fits := fun f hf => hfits f (List.mem_append_right done hf)
    rw [gives_cons (drain_chunk hfits hbuffer hleft hend), clearCuts_cons hshort hbuffer]
    by_cases h10 : left.length < 10
    · rw [if_pos h10]
      exact ih hlater h10 hleft
    · -- The header is cut off, and the frames cannot be made of what remains.
      rw [if_neg h10]
      rcases hend with ⟨-, rfl⟩ | ⟨f, rest, rfl, hlt⟩
      · simp at h10
      · refine iff_of_false (fun hgives => ?_) (fun hclear => ?_)
        · have hlen := hgives.length
          have htotal := congrArg List.length hleft
          rw [List.length_append] at htotal
          rw [List.length_drop] at hlen
          omega
        · refine hclear [] chunks rfl [] f rest rfl ?_
          simp only [List.flatten_nil, List.length_nil, Framed.encodeAll_nil]
          omega

/-- **When the frames arrive.** However their encodings are cut into chunks,
the stream gives the frames, in order and without an error, exactly when no
chunk ends within a frame past its ninth byte. -/
theorem feed_encodeAll_iff (frames : List HighwayFrame) (chunks : List Bytes) (hfits : ∀ f ∈ frames, f.Fits)
    (hchunks : chunks.flatten = encodeAll encode frames) :
    (∃ left, feed decode [] chunks = .ok { frames, error := none, buffer := left }) ↔
      ∀ before after, chunks = before ++ after → Clear frames before.flatten.length := by
  have h : Gives [] chunks frames ↔ ClearCuts frames 0 chunks := gives_iff hfits (by simp) hchunks
  simpa [Gives, ClearCuts] using h

/-- A frame of eleven bytes, cut after its fifth, arrives, so that cut is clear. -/
theorem clear_cut_header : Clear [{ head := [], body := [7] }] [[0x28, 0, 0, 0, (0 : UInt8)]].flatten.length :=
  (feed_encodeAll_iff [{ head := [], body := [7] }] [[0x28, 0, 0, 0, 0], [0, 0, 0, 1, 7, 0x29]] (by simp [Fits])
    (by decide)).mp ⟨[], rfl⟩ [[0x28, 0, 0, 0, 0]] [[0, 0, 0, 1, 7, 0x29]] rfl

/-- A frame of eleven bytes in two chunks that are cut before its last byte. -/
theorem feed_cut_frame :
    ¬ ∀ (frames : List HighwayFrame) (chunks : List Bytes), (∀ f ∈ frames, f.Fits) →
      chunks.flatten = encodeAll encode frames →
      ∃ left, feed decode [] chunks = .ok { frames, error := none, buffer := left } := by
  intro h
  obtain ⟨left, hfeed⟩ := h [{ head := [], body := [7] }]
    [[0x28, 0, 0, 0, 0, 0, 0, 0, 1, 7], [0x29]] (by simp [Fits]) (by decide)
  have hgot : feed decode [] [[0x28, 0, 0, 0, 0, 0, 0, 0, 1, 7], [0x29]] =
      .ok { frames := [], error := none, buffer := [7, 0x29] } := by rfl
  rw [hgot] at hfeed
  cases hfeed

end HighwayFrame

end Mania
