/-
A framed byte stream: a decoder is called on the buffer again and again
until it has no frame, and what it leaves stays in the buffer for the next
chunk. A decoder may consume bytes without giving a frame.

`Decoder.Sound` says what a decoder may do: a frame it gives stood encoded
at the front of the buffer for as many bytes as it consumed. From it follows
that the encodings of all frames given, and what is left in the buffer, are
no longer than the bytes received.
-/
import Mania.Lib.Bytes

namespace Framed

/-- One call: a frame, no frame yet, or an error; the buffer is the state. -/
abbrev Decoder (ε α : Type) := Cursor Empty (Except ε (Option α))

/-- What some bytes gave: the frames, the error that ended the stream if one
did, and the buffer. -/
structure Yield (ε α : Type) where
  frames : List α
  error : Option ε
  buffer : Bytes
  deriving DecidableEq

variable {ε α : Type}

/-- Call the decoder until it has no frame, at most `n` times. -/
def drain (d : Decoder ε α) : Nat → Bytes → Outcome Empty (Yield ε α)
  | 0, buffer => .ok { frames := [], error := none, buffer }
  | n + 1, buffer => do
    let (result, buffer) ← d.run buffer
    match result with
    | .ok (some frame) =>
      let y ← drain d n buffer
      .ok { y with frames := frame :: y.frames }
    | .ok none => .ok { frames := [], error := none, buffer }
    | .error e => .ok { frames := [], error := some e, buffer }

/-- Receive the chunks one after the other. An error ends the stream. -/
def feed (d : Decoder ε α) : Bytes → List Bytes → Outcome Empty (Yield ε α)
  | buffer, [] => .ok { frames := [], error := none, buffer }
  | buffer, chunk :: chunks => do
    let y ← drain d ((buffer ++ chunk).length + 1) (buffer ++ chunk)
    match y.error with
    | some _ => .ok y
    | none =>
      let y' ← feed d y.buffer chunks
      .ok { y' with frames := y.frames ++ y'.frames }

/-- The bytes of a list of frames. -/
def encodeAll (encode : α → Bytes) (frames : List α) : Bytes := frames.flatMap encode

@[simp] theorem encodeAll_nil (encode : α → Bytes) : encodeAll encode [] = [] := rfl

@[simp] theorem encodeAll_cons (encode : α → Bytes) (f : α) (fs : List α) :
    encodeAll encode (f :: fs) = encode f ++ encodeAll encode fs := by
  simp [encodeAll]

@[simp] theorem encodeAll_append (encode : α → Bytes) (fs gs : List α) :
    encodeAll encode (fs ++ gs) = encodeAll encode fs ++ encodeAll encode gs := by
  simp [encodeAll]

/-- The decoder gives no frame out of fewer bytes than encode it, and never
gives bytes back. -/
structure Decoder.Sound (d : Decoder ε α) (encode : α → Bytes) : Prop where
  frame : ∀ {buffer frame rest}, d.run buffer = .ok (.ok (some frame), rest) →
    buffer.length = (encode frame).length + rest.length
  wait : ∀ {buffer rest}, d.run buffer = .ok (.ok none, rest) → rest.length ≤ buffer.length

variable {d : Decoder ε α} {encode : α → Bytes}

theorem drain_length (hd : d.Sound encode) {n : Nat} {buffer : Bytes} {y : Yield ε α}
    (h : drain d n buffer = .ok y) (he : y.error = none) :
    (encodeAll encode y.frames).length + y.buffer.length ≤ buffer.length := by
  induction n generalizing buffer y with
  | zero =>
    cases h
    simp
  | succ n ih =>
    simp only [drain, Outcome.bind_eq_ok, Prod.exists] at h
    obtain ⟨result, rest, hrun, h⟩ := h
    split at h
    · next frame =>
      obtain ⟨y', hy', h⟩ := Outcome.bind_eq_ok.mp h
      cases h
      have hlen := hd.frame hrun
      have hrest := ih hy' he
      simp only [encodeAll_cons, List.length_append]
      omega
    · cases h
      simpa using hd.wait hrun
    · cases h
      cases he

/-- No more comes out than went in. -/
theorem feed_length (hd : d.Sound encode) {chunks : List Bytes} {buffer : Bytes} {y : Yield ε α}
    (h : feed d buffer chunks = .ok y) (he : y.error = none) :
    (encodeAll encode y.frames).length + y.buffer.length ≤ buffer.length + chunks.flatten.length := by
  induction chunks generalizing buffer y with
  | nil =>
    cases h
    simp
  | cons chunk chunks ih =>
    obtain ⟨y₁, hdrain, h⟩ := Outcome.bind_eq_ok.mp h
    split at h
    · next e herr =>
      cases h
      rw [he] at herr
      cases herr
    · next herr =>
      obtain ⟨y₂, hfeed, h⟩ := Outcome.bind_eq_ok.mp h
      cases h
      have h₁ := drain_length hd hdrain herr
      have h₂ := ih hfeed he
      simp only [List.flatten_cons, List.length_append, encodeAll_append] at h₁ h₂ ⊢
      omega

/-- Feeding goes on from a chunk that gives frames and no error. -/
theorem feed_cons {buffer chunk : Bytes} {chunks : List Bytes} {frames : List α} {left : Bytes}
    (h : drain d ((buffer ++ chunk).length + 1) (buffer ++ chunk) =
      .ok { frames, error := none, buffer := left }) :
    feed d buffer (chunk :: chunks) =
      (fun y => { y with frames := frames ++ y.frames }) <$> feed d left chunks := by
  rw [feed, h, Outcome.ok_bind]
  cases feed d left chunks <;> rfl

/-- Calls on the encoded frames `fs` give them, one each. -/
theorem drain_encodeAll {fs : List α} {rest : Bytes} {n : Nat}
    (hd : ∀ f ∈ fs, ∀ bs, d.run (encode f ++ bs) = .ok (.ok (some f), bs)) :
    drain d (fs.length + n) (encodeAll encode fs ++ rest) =
      (fun y => { y with frames := fs ++ y.frames }) <$> drain d n rest := by
  induction fs with
  | nil =>
    rw [List.length_nil, Nat.zero_add, encodeAll_nil, List.nil_append]
    cases drain d n rest <;> rfl
  | cons f fs ih =>
    rw [List.length_cons, Nat.add_right_comm, drain, encodeAll_cons, List.append_assoc,
      hd f List.mem_cons_self, Outcome.ok_bind]
    simp only
    rw [ih fun g hg => hd g (List.mem_cons_of_mem f hg)]
    cases drain d n rest <;> rfl

/-- A buffer that starts like the encoding of `fs` holds the whole encoding of
some of them and a proper beginning of the next. -/
theorem split_buffer {fs : List α} {buffer tail : Bytes} (h : buffer ++ tail = encodeAll encode fs) :
    ∃ done later left, fs = done ++ later ∧ buffer = encodeAll encode done ++ left ∧
      left ++ tail = encodeAll encode later ∧
      ((later = [] ∧ left = []) ∨ ∃ f rest, later = f :: rest ∧ left.length < (encode f).length) := by
  induction fs generalizing buffer with
  | nil =>
    simp only [encodeAll_nil, List.append_eq_nil_iff] at h
    exact ⟨[], [], [], rfl, by simp [h.1], by simp [h.2], .inl ⟨rfl, rfl⟩⟩
  | cons f fs ih =>
    by_cases hlt : buffer.length < (encode f).length
    · exact ⟨[], f :: fs, buffer, rfl, by simp, h, .inr ⟨f, fs, rfl, hlt⟩⟩
    · rw [encodeAll_cons] at h
      obtain ⟨more, rfl⟩ : ∃ more, buffer = encode f ++ more := by
        have hpre := List.prefix_of_prefix_length_le ⟨_, h.symm⟩ ⟨tail, rfl⟩ (Nat.le_of_not_lt hlt)
        exact ⟨_, hpre.choose_spec.symm⟩
      rw [List.append_assoc, List.append_cancel_left_eq] at h
      obtain ⟨done, later, left, rfl, rfl, hleft, hend⟩ := ih h
      exact ⟨f :: done, later, left, rfl, by simp, hleft, hend⟩

end Framed
