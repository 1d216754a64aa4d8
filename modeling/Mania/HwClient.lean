/-
`core/highway/hw_client.rs`: the upload of a stream to the highway server,
block by block, over TCP and where that fails over HTTP.

What the outside does at each of its turns is an argument: `TcpLine` and
`HttpLine`. The state is the data stream (what it holds and where it
stands) and what was handed to either connection. Offsets and lengths are
numbers, cut to size where the source casts them. A sum that overflows
(`data_offset + data_length`) panics, as in a build with overflow checks; a
release build wraps it. A buffer of more than `isize::MAX` bytes panics too.
The protobuf coding of the heads and MD5 are the argument `crates`.
-/
import Mania.HwFrameCodec
import Mania.Lib.Effect

namespace Mania

structure DataHighwayHead where
  version : Nat := 0
  uin : Option String := none
  command : Option String := none
  seq : Option Nat := none
  retryTimes : Option Nat := none
  appId : Nat := 0
  dataFlag : Nat := 0
  commandId : Nat := 0
  buildVer : Option Bytes := none

structure SegHead where
  serviceId : Option Nat := none
  filesize : Nat := 0
  dataOffset : Option Nat := none
  dataLength : Nat := 0
  retCode : Option Nat := none
  serviceTicket : Bytes := []
  md5 : Bytes := []
  fileMd5 : Bytes := []
  cacheAddr : Option Nat := none
  queryTimes : Nat := 0
  updateCacheIp : Nat := 0
  cachePort : Option Nat := none

structure LoginSigHead where
  uint32LoginSigType : Nat := 0
  bytesLoginSig : Bytes := []
  appId : Nat := 0

structure ReqDataHighwayHead where
  msgBaseHead : Option DataHighwayHead
  msgSegHead : Option SegHead
  bytesReqExtendInfo : Option Bytes
  timestamp : Nat
  msgLoginSigHead : Option LoginSigHead

/-- What is read of a response. -/
structure RespDataHighwayHead where
  msgSegHead : Option SegHead
  errorCode : Nat

structure HighwayCrates where
  encode : ReqDataHighwayHead → Bytes
  decode : Bytes → Option RespDataHighwayHead
  md5 : Bytes → Bytes

structure HighwaySession where
  ticket : Bytes
  uin : String
  cmd : Nat
  command : String
  fileMd5 : Bytes
  fileSize : Nat
  ext : Bytes

def HighwaySession.buildPicUpHead (crates : HighwayCrates) (self : HighwaySession) (offset bodyLength : Nat)
    (bodyMd5 : Bytes) : Bytes :=
  crates.encode
    { msgBaseHead := some
        { version := 1
          uin := some self.uin
          command := some self.command
          seq := some 0
          retryTimes := some 0
          appId := 1600001604
          dataFlag := 16
          commandId := self.cmd }
      msgSegHead := some
        { serviceId := some 0
          filesize := self.fileSize
          dataOffset := some offset
          dataLength := bodyLength
          serviceTicket := self.ticket
          md5 := bodyMd5
          fileMd5 := self.fileMd5
          cacheAddr := some 0
          cachePort := some 0 }
      bytesReqExtendInfo := some self.ext
      timestamp := 0
      msgLoginSigHead := some
        { uint32LoginSigType := 8
          appId := 1600001604 } }

structure HighwayClient where
  uin : String
  ticket : Bytes
  chunkSize : Nat

/-- The arguments of an upload besides the stream. -/
structure UploadArgs where
  cmd : Nat
  size : Nat
  md5 : Bytes
  extInfo : Bytes

/-- The data stream and the two connections. -/
structure HighwayWorld where
  content : Bytes
  position : Nat
  sent : List HighwayFrame
  posted : List Bytes
  deriving DecidableEq

abbrev HighwayAction (α : Type) := Effect HighwayWorld HighwayError α

/-! ## The outside -/

/-- A response off a connection has the lengths its header says. -/
abbrev HighwayResponse := { f : HighwayFrame // f.Fits }

/-- How the stream answers: a failed read leaves it anywhere. -/
structure StreamLine where
  seek : Except String Unit
  read : Nat → Except (String × Nat) Unit

/-- How the TCP connection answers in the turn of each block: the address
and the connection first, then every `send`, and every poll for its
response. A peer that closed the connection answers `None` to all polls. -/
structure TcpLine where
  stream : StreamLine
  toSocketAddrs : Except String (Option Unit)
  connect : Except String Unit
  send : Nat → Except String Unit
  next : Nat → Nat → Option (Except HighwayError HighwayResponse)

structure HttpLine where
  stream : StreamLine
  post : Nat → Except String Bytes

/-! ## The upload -/

/-- `?` on an `io::Result`. -/
def ofIo {α : Type} : Except String α → HighwayAction α
  | .ok a => pure a
  | .error e => Effect.throw (.ioError e)

def seekStart (line : StreamLine) : HighwayAction Unit := do
  ofIo line.seek
  Effect.modify fun w => { w with position := 0 }

/-- `isize::MAX`. -/
def isizeMax : Nat := 2 ^ 63 - 1

/-- `Vec::with_capacity`. -/
def withCapacity (n : Nat) : HighwayAction Unit := Effect.lift (Outcome.guard (n ≤ isizeMax))

/-- The `k`-th read: to the end of what `take(chunk_size)` leaves. -/
def readStream (line : StreamLine) (k chunkSize : Nat) : HighwayAction Bytes := do
  withCapacity chunkSize
  match line.read k with
  | .error (e, position) =>
    Effect.modify fun w => { w with position }
    Effect.throw (.ioError e)
  | .ok () =>
    let w ← Effect.get
    let buf := (w.content.drop w.position).take chunkSize
    Effect.modify fun w => { w with position := w.position + buf.length }
    pure buf

def buildFrame (crates : HighwayCrates) (self : HighwayClient) (args : UploadArgs) (line : StreamLine) (k offset : Nat) :
    HighwayAction HighwayFrame := do
  let chunk ← readStream line k self.chunkSize
  let chunkMd5 := crates.md5 chunk
  let session : HighwaySession :=
    { ticket := self.ticket
      uin := self.uin
      cmd := args.cmd
      command := "PicUp.DataUp"
      fileMd5 := args.md5
      fileSize := args.size
      ext := args.extInfo }
  let head := session.buildPicUpHead crates offset (chunk.length % 2 ^ 32) chunkMd5
  pure { head, body := chunk }

/-- `codec.decode` of all the bytes there are. -/
def decodeFrame (bytes : Bytes) : Outcome HighwayError HighwayFrame :=
  match HighwayFrame.decode.run bytes with
  | .ok (.ok (some frame), _) => .ok frame
  | .ok (.ok none, _) => .err (.otherError "decode http frame: not enough data")
  | .ok (.error e, _) => .err e
  | .err e => e.elim
  | .panic => .panic

/-- The progress is the fraction of these two. -/
def parseFrame (crates : HighwayCrates) (frame : HighwayFrame) : Outcome HighwayError (Nat × Nat) := do
  let res ← decodeFrame frame.encode
  let resHead ← Outcome.expect (crates.decode res.head)
  Outcome.refuse (resHead.errorCode ≠ 0) (.uploadError resHead.errorCode)
  let resSegHead ← Outcome.okOr (.otherError "No seg head in response") resHead.msgSegHead
  let dataOffset ← Outcome.okOr (.otherError "No data offset in response") resSegHead.dataOffset
  let done ← Outcome.add 64 dataOffset resSegHead.dataLength
  pure (done, resSegHead.filesize)

/-- `loop { if let Some(resp) = stream.next().await { break resp; } }`. -/
def nextResponse {α : Type} : Nat → (Nat → Option α) → Option α
  | 0, _ => none
  | fuel + 1, next =>
    match next 0 with
    | some resp => some resp
    | none => nextResponse fuel fun poll => next (poll + 1)

/-- What comes after a frame was sent. -/
def awaitResponse (crates : HighwayCrates) (line : TcpLine) (fuel k : Nat) : HighwayAction Unit := do
  let res ←
    match nextResponse fuel (line.next k) with
    | none => Effect.spins
    | some (.error e) => Effect.throw e
    | some (.ok resp) => pure resp.val
  let _ ← Effect.lift (parseFrame crates res)

/-- The offsets of `(0..size).step_by(chunk_size)` are the multiples of
`chunk_size` below `size`: so many of them. -/
def steps (size chunkSize : Nat) : Nat := (size + chunkSize - 1) / chunkSize

def tcpBlock (crates : HighwayCrates) (self : HighwayClient) (args : UploadArgs) (line : TcpLine) (fuel k : Nat) :
    HighwayAction Unit := do
  let frame ← buildFrame crates self args line.stream k (k * self.chunkSize)
  Effect.modify fun w => { w with sent := w.sent ++ [frame] }
  ofIo (line.send k)
  awaitResponse crates line fuel k

def tcpUpload (crates : HighwayCrates) (self : HighwayClient) (args : UploadArgs) (line : TcpLine) (fuel : Nat) :
    HighwayAction Unit := do
  seekStart line.stream
  let addr ← ofIo line.toSocketAddrs
  Effect.lift (Outcome.okOr (.otherError "Invalid address") addr)
  ofIo line.connect
  -- `step_by(0)` panics.
  Effect.lift (Outcome.guard (self.chunkSize ≠ 0))
  forM (List.range (steps args.size self.chunkSize)) (tcpBlock crates self args line fuel)

def httpBlock (crates : HighwayCrates) (self : HighwayClient) (args : UploadArgs) (line : HttpLine) (k : Nat) :
    HighwayAction Unit := do
  let frame ← buildFrame crates self args line.stream k (k * self.chunkSize)
  let postFrame := frame.encode
  Effect.modify fun w => { w with posted := w.posted ++ [postFrame] }
  let res ←
    match line.post k with
    | .ok res => pure res
    | .error e => Effect.throw (.otherError ("Failed to upload via http: " ++ e))
  let resFrame ← Effect.lift (decodeFrame res)
  let _ ← Effect.lift (parseFrame crates resFrame)

def httpUpload (crates : HighwayCrates) (self : HighwayClient) (args : UploadArgs) (line : HttpLine) :
    HighwayAction Unit := do
  seekStart line.stream
  Effect.lift (Outcome.guard (self.chunkSize ≠ 0))
  forM (List.range (steps args.size self.chunkSize)) (httpBlock crates self args line)

def upload (crates : HighwayCrates) (self : HighwayClient) (args : UploadArgs) (tcp : TcpLine) (http : HttpLine)
    (fuel : Nat) : HighwayAction Unit :=
  (tcpUpload crates self args tcp fuel).orElse fun _ => httpUpload crates self args http

end Mania
