/-
Streams of bytes that are read and sought: what one holds, and where it
stands. Only its position moves.

How a stream answers is an argument. A read can give less than there is,
and a call that fails leaves the stream anywhere.
-/
import Mania.Lib.Bytes
import Mania.Lib.Effect

structure ByteStream where
  content : Bytes
  position : Nat

namespace ByteStream

/-- What is left to read: nothing at a position past the end. -/
def rest (s : ByteStream) : Bytes := s.content.drop s.position

/-- The stream when nothing is left. -/
def drained (s : ByteStream) : ByteStream := { s with position := max s.position s.content.length }

/-- The stream after the first `n` bytes that are left. -/
def advance (n : Nat) (s : ByteStream) : ByteStream := { s with position := s.position + n }

theorem rest_length (s : ByteStream) : s.rest.length = s.content.length - s.position := List.length_drop

theorem rest_advance (n : Nat) (s : ByteStream) : (s.advance n).rest = s.rest.drop n := by
  rw [rest, rest, List.drop_drop]
  rfl

theorem drained_of_rest {s : ByteStream} (h : s.rest = []) : s.drained = s := by
  have hle : s.content.length ≤ s.position := List.drop_eq_nil_iff.mp h
  rw [drained, Nat.max_eq_left hle]

theorem drained_advance {n : Nat} {s : ByteStream} (hn : n ≤ s.rest.length) : (s.advance n).drained = s.drained := by
  rw [rest_length] at hn
  have hmax : max (s.position + n) s.content.length = max s.position s.content.length := by omega
  rw [drained, drained, advance, hmax]

end ByteStream

/-! ## Calls -/

/-- How a stream answers its reads: the `k`-th fails, or gives no more than
one byte more than this. -/
abbrev ByteStream.ChunkLine := Nat → Except String Nat

/-- How a stream answers its other calls. -/
abbrev ByteStream.CallLine := Nat → Except (String × Nat) Unit

namespace ByteStream

/-- `read` into a buffer of `len` bytes. -/
def readChunk (line : ChunkLine) (k len : Nat) : Effect ByteStream String Bytes :=
  match line k with
  | .error e => Effect.throw e
  | .ok most => do
    let s ← Effect.get
    let chunk := s.rest.take (min (most + 1) len)
    Effect.modify (advance chunk.length)
    pure chunk

def answerCall (line : CallLine) (k : Nat) : Effect ByteStream String Unit :=
  match line k with
  | .ok () => pure ()
  | .error (e, position) => do
    Effect.modify fun s => { s with position }
    Effect.throw e

/-- `seek(SeekFrom::Start(position))`. -/
def seekTo (line : CallLine) (k position : Nat) : Effect ByteStream String Unit := do
  answerCall line k
  Effect.modify fun s => { s with position }

/-- `read_exact`. -/
def readExact (line : CallLine) (k n : Nat) : Effect ByteStream String Bytes := do
  answerCall line k
  let s ← Effect.get
  if s.rest.length < n then do
    Effect.modify drained
    Effect.throw "early eof"
  else do
    Effect.modify (advance n)
    pure (s.rest.take n)

/-- `read_to_end`. -/
def readAll (line : CallLine) (k : Nat) : Effect ByteStream String Bytes := do
  answerCall line k
  let s ← Effect.get
  Effect.modify drained
  pure s.rest

/-! ## Only the position moves -/

def SameContent (s s' : ByteStream) : Prop := s'.content = s.content

instance : Std.Refl SameContent := ⟨fun _ => rfl⟩

instance : IsTrans ByteStream SameContent := ⟨fun _ _ _ hfirst hrest => hrest.trans hfirst⟩

open Effect

theorem move_same {f : ByteStream → ByteStream} (hf : ∀ s, SameContent s (f s)) :
    Keeps SameContent (modify f : Effect ByteStream String Unit) := Keeps.modify hf

theorem answerCall_same (line : CallLine) (k : Nat) : Keeps SameContent (answerCall line k) := by
  unfold answerCall
  cases line k with
  | ok u => exact Keeps.pure _
  | error failed => exact Keeps.bind (move_same fun _ => rfl) fun _ => Keeps.throw _

theorem seekTo_same (line : CallLine) (k position : Nat) : Keeps SameContent (seekTo line k position) :=
  (answerCall_same line k).bind fun _ => move_same fun _ => rfl

theorem readExact_same (line : CallLine) (k n : Nat) : Keeps SameContent (readExact line k n) := by
  refine (answerCall_same line k).bind fun _ => Keeps.get.bind fun s => ?_
  show Keeps SameContent (if _ then _ else _)
  split
  · exact Keeps.bind (move_same fun _ => rfl) fun _ => Keeps.throw _
  · exact Keeps.bind (move_same fun _ => rfl) fun _ => Keeps.pure _

theorem readAll_same (line : CallLine) (k : Nat) : Keeps SameContent (readAll line k) :=
  (answerCall_same line k).bind fun _ => Keeps.get.bind fun _ => Keeps.bind (move_same fun _ => rfl) fun _ => Keeps.pure _

theorem answerCall_ok {line : CallLine} {k : Nat} {u : Unit} {s s' : ByteStream}
    (h : (answerCall line k).run s = (.ok u, s')) : s' = s := by
  unfold answerCall at h
  cases hline : line k with
  | error failed =>
    rw [hline] at h
    cases h
  | ok u' =>
    rw [hline] at h
    cases h
    rfl

theorem seekTo_ok {line : CallLine} {k position : Nat} {u : Unit} {s s' : ByteStream}
    (h : (seekTo line k position).run s = (.ok u, s')) : s' = { s with position } := by
  obtain ⟨u', s₁, hcall, hmove⟩ := bind_eq_ok.mp h
  cases hmove
  rw [answerCall_ok hcall]

end ByteStream
