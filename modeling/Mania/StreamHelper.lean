/-
`utility/stream_helper.rs`: a stream is read to its end, chunk by chunk.
Whatever its reads give, the chunks are what was left (`streamPipeline_ok`).
-/
import Mania.Lib.ByteStream

namespace Mania

open ByteStream

/-- The loop, from the `k`-th read. -/
def pipelineLoop (line : ChunkLine) : Nat → Nat → Effect ByteStream String (List Bytes)
  | 0, _ => Effect.spins
  | fuel + 1, k => do
    let chunk ← readChunk line k 8192
    if chunk.length = 0 then pure []
    else do
      let chunks ← pipelineLoop line fuel (k + 1)
      pure (chunk :: chunks)

/-- The chunks that are handed to the processor. -/
def streamPipeline (line : ChunkLine) : Effect ByteStream String (List Bytes) := do
  let s ← Effect.get
  pipelineLoop line (s.rest.length + 1) 0

/-! ## What is read -/

/-- All that was left was read, or the stream failed at what it holds still. -/
def Drains (s : ByteStream) (exit : Exit String (List Bytes)) (s' : ByteStream) : Prop :=
  (∃ chunks, exit = .ok chunks ∧ chunks.flatten = s.rest ∧ s' = s.drained) ∨
    (∃ e, exit = .err e ∧ s'.content = s.content)

theorem pipelineLoop_drains (line : ChunkLine) {fuel : Nat} (k : Nat) {s : ByteStream} (hfuel : s.rest.length < fuel) :
    Drains s ((pipelineLoop line fuel k).run s).1 ((pipelineLoop line fuel k).run s).2 := by
  induction fuel generalizing k s with
  | zero => exact absurd hfuel (Nat.not_lt_zero _)
  | succ fuel ih =>
    cases hread : line k with
    | error e =>
      have hrun : (readChunk line k 8192).run s = (.err e, s) := by simp [readChunk, hread]
      rw [pipelineLoop, Effect.bind_err hrun]
      exact .inr ⟨e, rfl, rfl⟩
    | ok most =>
      let chunk := s.rest.take (min (most + 1) 8192)
      have hrun : (readChunk line k 8192).run s = (.ok chunk, s.advance chunk.length) := by
        simp only [readChunk, hread]
        rfl
      have hlength : chunk.length = min (min (most + 1) 8192) s.rest.length := List.length_take
      rw [pipelineLoop, Effect.bind_ok hrun]
      by_cases hchunk : chunk.length = 0
      · -- `n == 0` only at the end.
        have hrest : s.rest = [] := List.length_eq_zero_iff.mp (by omega)
        rw [if_pos hchunk, hchunk]
        exact .inl ⟨[], rfl, hrest.symm, (drained_of_rest hrest).symm⟩
      · have hleft : (s.advance chunk.length).rest.length < fuel := by
          rw [rest_advance, List.length_drop]
          omega
        have hdrains := ih (k + 1) hleft
        rw [if_neg hchunk, Effect.bind_run]
        rcases hloop : (pipelineLoop line fuel (k + 1)).run (s.advance chunk.length) with ⟨exit, s'⟩
        rw [hloop] at hdrains
        rcases hdrains with ⟨chunks, hexit, hflat, hs'⟩ | ⟨e, hexit, hcontent⟩
        · cases hexit
          refine .inl ⟨chunk :: chunks, rfl, ?_, ?_⟩
          · rw [List.flatten_cons, hflat, rest_advance]
            exact List.prefix_iff_eq_append.mp (List.take_prefix _ _)
          · exact hs'.trans (drained_advance (by omega))
        · cases hexit
          exact .inr ⟨e, rfl, hcontent⟩

/-- The pipeline comes to an end. -/
theorem streamPipeline_drains (line : ChunkLine) (s : ByteStream) :
    Drains s ((streamPipeline line).run s).1 ((streamPipeline line).run s).2 :=
  pipelineLoop_drains line 0 (Nat.lt_succ_self _)

theorem streamPipeline_ok {line : ChunkLine} {s s' : ByteStream} {chunks : List Bytes}
    (h : (streamPipeline line).run s = (.ok chunks, s')) : chunks.flatten = s.rest ∧ s' = s.drained := by
  have hdrains := streamPipeline_drains line s
  rw [h] at hdrains
  rcases hdrains with ⟨chunks', hexit, hflat, hs'⟩ | ⟨e, hexit, -⟩
  · cases hexit
    exact ⟨hflat, hs'⟩
  · cases hexit

end Mania
