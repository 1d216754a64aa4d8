/-
The outside of `HighwayOp` with streams in it: what they hold, where they
stand, and what each upload of one handed to the connections. A stream is
read with `stream_pipeline`, its image is resolved with
`resolve_image_metadata`, and an upload leaves it where its last read did.

How files and streams answer is the argument `StreamIo`. The rest is an
outside as before, that does not reach the streams of a call.
-/
import Mania.ImageResolver

namespace Mania

variable {σ τ ε α : Type}

/-- The open streams by their handles, what was uploaded, and the rest. -/
structure Streams (τ : Type) where
  table : List ByteStream
  uploaded : List (UploadData × HighwayWorld)
  rest : τ

namespace Shared

/-- What the rest of the outside gets to see. -/
def rest (s : Shared (Streams τ)) : Shared τ where
  sigSession := s.sigSession
  client := s.client
  cache := s.cache
  outside := s.outside.rest

def putRest (part : Shared τ) (s : Shared (Streams τ)) : Shared (Streams τ) where
  sigSession := part.sigSession
  client := part.client
  cache := part.cache
  outside := { s.outside with rest := part.outside }

def stream? (s : Shared (Streams τ)) (stream : AsyncStream) : Option ByteStream := s.outside.table[stream.handle]?

/-- A handle is one of an open stream. -/
def stream (s : Shared (Streams τ)) (stream : AsyncStream) : ByteStream :=
  (s.stream? stream).getD { content := [], position := 0 }

def putStream (stream : AsyncStream) (b : ByteStream) (s : Shared (Streams τ)) : Shared (Streams τ) :=
  { s with outside := { s.outside with table := s.outside.table.set stream.handle b } }

def pushStream (b : ByteStream) (s : Shared (Streams τ)) : Shared (Streams τ) :=
  { s with outside := { s.outside with table := s.outside.table ++ [b] } }

end Shared

/-- How files and streams answer. -/
structure StreamIo (τ : Type) where
  /-- `File::open` and the length: what the file holds. -/
  file : String → Shared (Streams τ) → Option Bytes
  /-- `gen_thumbnail`: the cursor it wrote to. -/
  thumbnail : Shared (Streams τ) → Except String (Option ByteStream)
  chunks : AsyncStream → Shared (Streams τ) → ByteStream.ChunkLine
  calls : AsyncStream → Shared (Streams τ) → ByteStream.CallLine

def elsewhere (x : Effect (Shared τ) ε α) : Effect (Shared (Streams τ)) ε α := x.zoom Shared.rest Shared.putRest

def onStream (stream : AsyncStream) (x : Effect ByteStream ε α) : Effect (Shared (Streams τ)) ε α :=
  x.zoom (·.stream stream) (Shared.putStream stream)

/-- A new handle. -/
def addStream (b : ByteStream) : Effect (Shared (Streams τ)) ε AsyncStream := do
  let s ← Effect.get
  Effect.modify (Shared.pushStream b)
  pure { handle := s.outside.table.length }

/-- The stream of an upload is where the upload left it. -/
def putUploaded (data : UploadData) (hw : HighwayWorld) (s : Shared (Streams τ)) : Shared (Streams τ) :=
  let s := { s with outside := { s.outside with uploaded := s.outside.uploaded ++ [(data, hw)] } }
  match data with
  | .shared stream => s.putStream stream { content := hw.content, position := hw.position }
  | .silk _ => s

open ByteStream

def Outside.onStreams (io : StreamIo τ) (o : Outside τ) : Outside (Streams τ) where
  sendPacket packet := elsewhere (o.sendPacket packet)
  openFile path := do
    let s ← Effect.get
    let content ← Effect.lift (Outcome.okOr () (io.file path s))
    let stream ← addStream { content, position := 0 }
    pure (stream, content.length)
  genThumbnail := do
    let s ← Effect.get
    match io.thumbnail s with
    | .error e => Effect.throw e
    | .ok none => pure none
    | .ok (some thumb) => do
      let stream ← addStream thumb
      pure (some (stream, thumb.content.length))
  readChunks stream := do
    let s ← Effect.get
    onStream stream (streamPipeline (io.chunks stream s))
  readToEnd stream := do
    let s ← Effect.get
    onStream stream (readAll (io.calls stream s) 0)
  rewind stream := do
    let s ← Effect.get
    onStream stream (seekTo (io.calls stream s) 1 0)
  resolveImageMetadata stream := do
    let s ← Effect.get
    (onStream stream (Mania.resolveImageMetadata (io.calls stream s))).mapErr ImageResolverError.debug
  content stream s := ((s.stream stream).content, (s.stream stream).position)
  tcp s := o.tcp s.rest
  http s := o.http s.rest
  fuel s := o.fuel s.rest
  afterUpload data hw s := (o.afterUpload data hw s.rest).putRest (putUploaded data hw s)
  server s := o.server s.rest
  afterFetch s := (o.afterFetch s.rest).putRest s
  now s := o.now s.rest

/-- A handle whose outside has these streams. -/
def Handle.onStreams (io : StreamIo τ) (h : Handle τ) : Handle (Streams τ) where
  context := h.context
  config := h.config
  enc := h.enc
  crates := h.crates
  outside := h.outside.onStreams io

end Mania
