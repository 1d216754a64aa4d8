/-
`recv_loop` of `core/socket.rs`: cutting the byte stream of a connection
into packets by their length words. The stream is what the connection
gives until it closes.

A packet above 64 MiB is not skipped: `continue` goes back to reading a
length word, so the packet's own bytes are taken for length words. Later
packets are cut right, whatever they are, exactly when that does no harm:
the body is made of words that are all above 64 MiB themselves.
-/
import Mania.PacketReader

namespace Mania

open Bytes

/-- What one turn of the loop does. -/
inductive Turn where
  | tooLarge (stream : Bytes)
  | packet (buffer stream : Bytes)
  | eof
  | panic

/-- `read_exact`, and `read_u32` over four bytes: `none` when the stream ends before. -/
def readExact (n : Nat) (stream : Bytes) : Option (Bytes × Bytes) :=
  if n ≤ stream.length then some (stream.take n, stream.drop n) else none

def recvTurn (stream : Bytes) : Turn :=
  match readExact 4 stream with
  | none => .eof
  | some (word, stream) =>
    let packetLength := ofBE32 word
    if packetLength > 1024 * 1024 * 64 then .tooLarge stream
    else
      let buffer := List.replicate packetLength.toNat (0 : UInt8)
      match (Outcome.copyFromSlice buffer 0 4 (be32 packetLength) : Outcome Empty Bytes) with
      | .ok buffer =>
        match readExact (buffer.drop 4).length stream with
        | some (bytes, stream) => .packet (buffer.take 4 ++ bytes) stream
        | none => .eof
      | _ => .panic

/-- The packets sent to the channel in at most `n` turns. -/
def recvLoop : Nat → Bytes → List Bytes
  | 0, _ => []
  | n + 1, stream =>
    match recvTurn stream with
    | .tooLarge stream => recvLoop n stream
    | .packet buffer stream => buffer :: recvLoop n stream
    | .eof => []
    | .panic => []

/-- The packets of a whole stream: every turn consumes bytes. -/
def recvAll (stream : Bytes) : List Bytes := recvLoop (stream.length + 1) stream

/-! ## One turn -/

theorem readExact_append {n : Nat} {x : Bytes} (h : x.length = n) (rest : Bytes) :
    readExact n (x ++ rest) = some (x, rest) := by
  subst h
  simp [readExact]

theorem readExact_eq_none {n : Nat} {stream : Bytes} : readExact n stream = none ↔ stream.length < n := by
  unfold readExact
  split <;> simp <;> omega

/-- A word above 64 MiB. -/
def TooLarge (w : UInt32) : Prop := 1024 * 1024 * 64 < w.toNat

theorem recvTurn_tooLarge {w : UInt32} (h : TooLarge w) (rest : Bytes) :
    recvTurn (be32 w ++ rest) = .tooLarge rest := by
  have hw : w > 1024 * 1024 * 64 := UInt32.lt_iff_toNat_lt.mpr h
  simp only [recvTurn, readExact_append (be32_length w), ofBE32_be32, if_pos hw]

theorem recvTurn_short {stream : Bytes} (h : stream.length < 4) : recvTurn stream = .eof := by
  simp only [recvTurn, readExact_eq_none.mpr h]

/-- A word that does not even count itself. -/
theorem recvTurn_panic {w : UInt32} (h : w.toNat < 4) (rest : Bytes) : recvTurn (be32 w ++ rest) = .panic := by
  have hw : ¬ w > 1024 * 1024 * 64 := fun hlarge => by
    have hlt : 1024 * 1024 * 64 < w.toNat := UInt32.lt_iff_toNat_lt.mp hlarge
    omega
  have hcopy : (Outcome.copyFromSlice (List.replicate w.toNat (0 : UInt8)) 0 4 (be32 w) : Outcome Empty Bytes) =
      .panic := by
    rw [Outcome.copyFromSlice, Outcome.guard_neg (by simp; omega)]
    rfl
  simp only [recvTurn, readExact_append (be32_length w), ofBE32_be32, if_neg hw, hcopy]

theorem header_buffer {w : UInt32} (h : 4 ≤ w.toNat) :
    (Outcome.copyFromSlice (List.replicate w.toNat (0 : UInt8)) 0 4 (be32 w) : Outcome Empty Bytes) =
      .ok (be32 w ++ List.replicate (w.toNat - 4) 0) := by
  have hsplit : List.replicate w.toNat (0 : UInt8) = [] ++ (List.replicate 4 0 ++ List.replicate (w.toNat - 4) 0) := by
    rw [List.nil_append, List.replicate_append_replicate]
    congr 1
    omega
  rw [hsplit, Outcome.copyFromSlice_append (by simp) (by simp) (by simp), List.nil_append]

/-- A length word that is not too large, and what follows it. -/
theorem recvTurn_word {w : UInt32} (hw : ¬ TooLarge w) (h4 : 4 ≤ w.toNat) (rest : Bytes) :
    recvTurn (be32 w ++ rest) =
      if w.toNat - 4 ≤ rest.length then .packet (be32 w ++ rest.take (w.toNat - 4)) (rest.drop (w.toNat - 4))
      else .eof := by
  have hw' : ¬ w > 1024 * 1024 * 64 := fun hlarge => hw (UInt32.lt_iff_toNat_lt.mp hlarge)
  have htake : (be32 w ++ List.replicate (w.toNat - 4) (0 : UInt8)).take 4 = be32 w := List.take_left' (be32_length w)
  have hdrop : ((be32 w ++ List.replicate (w.toNat - 4) (0 : UInt8)).drop 4).length = w.toNat - 4 := by
    rw [List.drop_left' (be32_length w), List.length_replicate]
  simp only [recvTurn, readExact_append (be32_length w), ofBE32_be32, if_neg hw', header_buffer h4, htake, hdrop]
  rw [readExact]
  by_cases hlen : w.toNat - 4 ≤ rest.length
  · rw [if_pos hlen, if_pos hlen]
  · rw [if_neg hlen, if_neg hlen]

/-- A turn that goes on leaves a shorter stream. -/
theorem recvTurn_length {stream rest : Bytes}
    (h : recvTurn stream = .tooLarge rest ∨ ∃ p, recvTurn stream = .packet p rest) : rest.length < stream.length := by
  by_cases hshort : stream.length < 4
  · simp [recvTurn_short hshort] at h
  · obtain ⟨w, tail, rfl⟩ : ∃ w tail, stream = be32 w ++ tail := by
      have htake : (stream.take 4).length = 4 := by simp; omega
      exact ⟨ofBE32 (stream.take 4), stream.drop 4, by rw [be32_ofBE32 htake, List.take_append_drop]⟩
    rw [List.length_append, be32_length]
    by_cases hw : TooLarge w
    · simp only [recvTurn_tooLarge hw, Turn.tooLarge.injEq, reduceCtorEq, exists_false, or_false] at h
      rw [h]
      omega
    by_cases h4 : 4 ≤ w.toNat
    · rw [recvTurn_word hw h4] at h
      split at h
      · simp only [reduceCtorEq, Turn.packet.injEq, false_or, exists_and_right, exists_eq', true_and] at h
        rw [← h, List.length_drop]
        omega
      · simp at h
    · simp [recvTurn_panic (Nat.lt_of_not_le h4)] at h

/-! ## The loop -/

/-- More turns than bytes make no difference. -/
theorem recvLoop_turns {n m : Nat} {stream : Bytes} (hn : stream.length < n) (hm : stream.length < m) :
    recvLoop n stream = recvLoop m stream := by
  induction n generalizing m stream with
  | zero => omega
  | succ n ih =>
    obtain ⟨m, rfl⟩ : ∃ k, m = k + 1 := ⟨m - 1, by omega⟩
    rw [recvLoop, recvLoop]
    cases hturn : recvTurn stream with
    | tooLarge rest =>
      have hlt := recvTurn_length (.inl hturn)
      exact ih (by omega) (by omega)
    | packet buffer rest =>
      have hlt := recvTurn_length (.inr ⟨_, hturn⟩)
      exact congrArg _ (ih (by omega) (by omega))
    | eof => rfl
    | panic => rfl

theorem recvAll_eq (stream : Bytes) :
    recvAll stream =
      match recvTurn stream with
      | .tooLarge rest => recvAll rest
      | .packet buffer rest => buffer :: recvAll rest
      | .eof => []
      | .panic => [] := by
  rw [recvAll, recvLoop]
  cases hturn : recvTurn stream with
  | tooLarge rest =>
    have hlt := recvTurn_length (.inl hturn)
    exact recvLoop_turns (by omega) (by omega)
  | packet buffer rest =>
    have hlt := recvTurn_length (.inr ⟨_, hturn⟩)
    exact congrArg _ (recvLoop_turns (by omega) (by omega))
  | eof => rfl
  | panic => rfl

/-- A frame of at most 64 MiB is delivered whole. -/
theorem recvAll_frame {f : Section} (hf : ¬ TooLarge f.length) (rest : Bytes) :
    recvAll (f.toBytes ++ rest) = f.toBytes :: recvAll rest := by
  have hlen := f.toNat_length
  have hbody : f.length.toNat - 4 = f.body.length := by omega
  rw [recvAll_eq, Prefixed.toBytes, List.append_assoc, recvTurn_word hf (by omega), hbody, if_pos (by simp),
    List.take_left' rfl, List.drop_left' rfl]

/-- Words above 64 MiB are read over. -/
theorem recvAll_tooLarge {words : List UInt32} (h : ∀ w ∈ words, TooLarge w) (rest : Bytes) :
    recvAll (words.flatMap be32 ++ rest) = recvAll rest := by
  induction words with
  | nil => rfl
  | cons w words ih =>
    rw [List.flatMap_cons, List.append_assoc, recvAll_eq, recvTurn_tooLarge (h w List.mem_cons_self)]
    exact ih fun v hv => h v (List.mem_cons_of_mem w hv)

theorem recvAll_short {stream : Bytes} (h : stream.length < 4) : recvAll stream = [] := by
  rw [recvAll_eq, recvTurn_short h]

/-! ## Frames back to back -/

instance (w : UInt32) : Decidable (TooLarge w) := inferInstanceAs (Decidable (_ < _))

/-- The frames that are to be delivered. -/
def good (frames : List Section) : List Bytes :=
  (frames.filter fun f => ¬ TooLarge f.length).map Prefixed.toBytes

/-- Bytes that are read over as length words. -/
def Skippable (body : Bytes) : Prop := ∃ words : List UInt32, body = words.flatMap be32 ∧ ∀ w ∈ words, TooLarge w

/-- The frames of a stream: a section counts its own length field. -/
def stream (frames : List Section) : Bytes := frames.flatMap Prefixed.toBytes

theorem stream_append (frames later : List Section) : stream (frames ++ later) = stream frames ++ stream later := by
  simp [stream]

theorem good_append (frames later : List Section) : good (frames ++ later) = good frames ++ good later := by
  simp [good]

/-- What is left of an oversized frame: the bytes after its length word. -/
theorem recvAll_oversized {f : Section} (hf : TooLarge f.length) (rest : Bytes) :
    recvAll (f.toBytes ++ rest) = recvAll (f.body ++ rest) := by
  rw [Prefixed.toBytes, List.append_assoc, recvAll_eq, recvTurn_tooLarge hf]

theorem recvAll_stream {frames : List Section} (h : ∀ f ∈ frames, TooLarge f.length → Skippable f.body) (rest : Bytes) :
    recvAll (stream frames ++ rest) = good frames ++ recvAll rest := by
  induction frames with
  | nil => rfl
  | cons f frames ih =>
    have ih := ih fun g hg => h g (List.mem_cons_of_mem f hg)
    rw [stream, List.flatMap_cons, ← stream, List.append_assoc]
    by_cases hf : TooLarge f.length
    · obtain ⟨words, hwords, hlarge⟩ := h f List.mem_cons_self hf
      rw [recvAll_oversized hf, hwords, recvAll_tooLarge hlarge, ih]
      simp [good, hf]
    · rw [recvAll_frame hf, ih]
      simp [good, hf]

/-- Any bytes are words above 64 MiB and then an end of fewer than four bytes
or a word that is not. -/
theorem skip_words (body : Bytes) : ∃ (words : List UInt32) (tail : Bytes), body = words.flatMap be32 ++ tail ∧
    (∀ w ∈ words, TooLarge w) ∧ (tail.length < 4 ∨ ∃ w rest, tail = be32 w ++ rest ∧ ¬ TooLarge w) := by
  induction h : body.length using Nat.strongRecOn generalizing body with
  | ind n ih =>
    by_cases hshort : body.length < 4
    · exact ⟨[], body, rfl, by simp, .inl hshort⟩
    · have htake : (body.take 4).length = 4 := by simp; omega
      have hword : body = be32 (ofBE32 (body.take 4)) ++ body.drop 4 := by
        rw [be32_ofBE32 htake, List.take_append_drop]
      by_cases hw : TooLarge (ofBE32 (body.take 4))
      · obtain ⟨words, tail, hdrop, hwords, htail⟩ := ih (body.drop 4).length (by simp; omega) (body.drop 4) rfl
        refine ⟨ofBE32 (body.take 4) :: words, tail, ?_, ?_, htail⟩
        · rw [List.flatMap_cons, List.append_assoc, ← hdrop]
          exact hword
        · intro w hmem
          rcases List.mem_cons.mp hmem with rfl | hmem
          · exact hw
          · exact hwords w hmem
      · exact ⟨[], body, rfl, by simp, .inr ⟨_, _, hword, hw⟩⟩

/-- The shortest frame, of its length word alone. -/
def emptyFrame : Section := Section.empty

theorem emptyFrame_toBytes : emptyFrame.toBytes = [0, 0, 0, 4] := by decide

/-- One word and fewer than four bytes more: the shortest frame does not come out behind something else. -/
theorem recvAll_word_ne {w : UInt32} {rest : Bytes} (hne : w ≠ 4) (hpart : ¬ TooLarge w ∨ rest.length < 4) :
    recvAll (be32 w ++ rest) ≠ [be32 4] := by
  rw [recvAll_eq]
  by_cases hw : TooLarge w
  · rw [recvTurn_tooLarge hw]
    rcases hpart with hpart | hpart
    · exact absurd hw hpart
    · simp [recvAll_short hpart]
  by_cases h4 : 4 ≤ w.toNat
  · rw [recvTurn_word hw h4]
    by_cases hlen : w.toNat - 4 ≤ rest.length
    · rw [if_pos hlen]
      intro h
      rw [List.cons.injEq] at h
      have hword : be32 w ++ rest.take (w.toNat - 4) = be32 4 ++ [] := by rw [h.1, List.append_nil]
      exact hne (be32_append_inj hword).1
    · rw [if_neg hlen]
      simp
  · rw [recvTurn_panic (Nat.lt_of_not_le h4)]
    simp

/-- One to three bytes before the shortest frame spoil its length word. -/
theorem spoiled_word {tail : Bytes} (hne : tail ≠ []) (hshort : tail.length < 4) :
    ∃ (w : UInt32) (rest : Bytes), tail ++ emptyFrame.toBytes = be32 w ++ rest ∧ w ≠ 4 ∧ rest.length < 4 := by
  have htake : ((tail ++ emptyFrame.toBytes).take 4).length = 4 := by simp [emptyFrame_toBytes]
  refine ⟨ofBE32 ((tail ++ emptyFrame.toBytes).take 4), (tail ++ emptyFrame.toBytes).drop 4, ?_, ?_, ?_⟩
  · rw [be32_ofBE32 htake, List.take_append_drop]
  · intro h
    have hbytes := be32_ofBE32 htake
    rw [h, emptyFrame_toBytes] at hbytes
    match tail, hne, hshort with
    | [a], _, _ => simp [be32, toBE] at hbytes
    | [a, b], _, _ => simp [be32, toBE] at hbytes
    | [a, b, c], _, _ => simp [be32, toBE] at hbytes
  · simp [emptyFrame_toBytes]
    omega

/-- After a body that is not read over, the stream does not go on as it should. -/
theorem recvAll_misaligned {body : Bytes} (h : ¬ Skippable body) :
    recvAll body ≠ [] ∨ recvAll (body ++ emptyFrame.toBytes) ≠ [be32 4] := by
  obtain ⟨words, tail, rfl, hwords, htail⟩ := skip_words body
  rw [List.append_assoc, recvAll_tooLarge hwords, recvAll_tooLarge hwords]
  rcases htail with hshort | ⟨w, rest, rfl, hw⟩
  · have hne : tail ≠ [] := by
      rintro rfl
      exact h ⟨words, by simp, hwords⟩
    obtain ⟨w, rest, heq, hw, hrest⟩ := spoiled_word hne hshort
    rw [heq]
    exact .inr (recvAll_word_ne hw (.inr hrest))
  · by_cases h4 : w = 4
    · subst h4
      left
      have hlen : UInt32.toNat 4 - 4 ≤ rest.length := Nat.zero_le _
      rw [recvAll_eq, recvTurn_word hw (by decide), if_pos hlen]
      exact List.cons_ne_nil _ _
    · right
      rw [List.append_assoc]
      exact recvAll_word_ne h4 (.inl hw)

/-- After any first part of these frames, frames of at most 64 MiB come out right. -/
def Aligned (frames : List Section) : Prop :=
  ∀ before after, frames = before ++ after → ∀ later : List Section, (∀ f ∈ later, ¬ TooLarge f.length) →
    recvAll (stream (before ++ later)) = good (before ++ later)

theorem aligned_of_skippable {frames : List Section} (h : ∀ f ∈ frames, TooLarge f.length → Skippable f.body) :
    Aligned frames := by
  intro before after hframes later hlater
  have hall : ∀ f ∈ before ++ later, TooLarge f.length → Skippable f.body := by
    intro f hf hlarge
    rcases List.mem_append.mp hf with hf | hf
    · exact h f (by simp [hframes, hf]) hlarge
    · exact absurd hlarge (hlater f hf)
  have hnil : recvAll [] = [] := recvAll_short (by simp)
  have hrun := recvAll_stream hall []
  rwa [hnil, List.append_nil, List.append_nil] at hrun

theorem skippable_of_aligned {frames : List Section} (h : Aligned frames) :
    ∀ f ∈ frames, TooLarge f.length → Skippable f.body := by
  induction frames using List.reverseRecOn with
  | nil => simp
  | append_singleton frames f ih =>
    have hbefore : ∀ g ∈ frames, TooLarge g.length → Skippable g.body :=
      ih fun before after hframes => h before (after ++ [f]) (by rw [hframes, List.append_assoc])
    intro g hg hlarge
    rcases List.mem_append.mp hg with hg | hg
    · exact hbefore g hg hlarge
    rw [List.mem_singleton] at hg
    subst hg
    by_contra hskip
    -- What is delivered after the oversized frame, with nothing and with the shortest frame behind it.
    have hafter (later : List Section) (hlater : ∀ f ∈ later, ¬ TooLarge f.length) :
        recvAll (g.body ++ stream later) = good later := by
      have hrun := h (frames ++ [g]) [] (by simp) later hlater
      have hgood : good [g] = [] := by simp [good, hlarge]
      rw [List.append_assoc, stream_append, recvAll_stream hbefore, good_append, good_append, hgood,
        List.nil_append, List.append_cancel_left_eq, stream_append] at hrun
      rwa [stream, List.flatMap_singleton, recvAll_oversized hlarge] at hrun
    rcases recvAll_misaligned hskip with hnil | hframe
    · exact hnil (by simpa [stream, good] using hafter [] (by simp))
    · exact hframe (hafter [emptyFrame] (by decide))

/-- **When oversized frames do no harm.** Every frame of at most 64 MiB is
delivered, complete, in order and nothing else, whatever such frames follow,
exactly when the body of every oversized frame is made of words that are
above 64 MiB themselves. -/
theorem aligned_iff (frames : List Section) :
    Aligned frames ↔ ∀ f ∈ frames, TooLarge f.length → Skippable f.body :=
  ⟨skippable_of_aligned, aligned_of_skippable⟩

/-- A frame of zeros. -/
def zerosFrame (n : Nat) (h : 4 + n < 2 ^ 32) : Section := ⟨List.replicate n 0, by rwa [List.length_replicate]⟩

theorem zerosFrame_body (n : Nat) (h : 4 + n < 2 ^ 32) : (zerosFrame n h).body = List.replicate n 0 := rfl

/-- The first zeros of an oversized frame are taken for a length word that
does not count itself, and the frame after it is lost. -/
theorem recvAll_zeros {n : Nat} (h : 4 + (4 + n) < 2 ^ 32) (hlarge : 1024 * 1024 * 64 < 4 + (4 + n)) :
    recvAll (stream [zerosFrame (4 + n) h, emptyFrame]) ≠ good [zerosFrame (4 + n) h, emptyFrame] := by
  have hframe : TooLarge (zerosFrame (4 + n) h).length := by
    rw [TooLarge, Prefixed.toNat_length, zerosFrame_body, List.length_replicate]
    exact hlarge
  have hempty : ¬ TooLarge emptyFrame.length := by decide
  have hgood : good [zerosFrame (4 + n) h, emptyFrame] = [emptyFrame.toBytes] := by simp [good, hframe, hempty]
  have hword : List.replicate 4 (0 : UInt8) = be32 0 := by decide
  rw [hgood, stream, List.flatMap_cons, recvAll_oversized hframe, zerosFrame_body,
    ← List.replicate_append_replicate, hword, List.append_assoc, recvAll_eq, recvTurn_panic (by decide)]
  exact (List.cons_ne_nil _ _).symm

/-- A frame of 64 MiB and one byte before the shortest frame. -/
theorem recvAll_zerosFrame : ¬ ∀ frames : List Section, recvAll (stream frames) = good frames := fun h =>
  recvAll_zeros (n := 67108857) (by decide) (by decide) (h _)

end Mania
