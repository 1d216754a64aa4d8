/-
`core/operation/highway_op.rs`: the uploads of a message's images, videos
and records; and `send_event` of `core/business.rs`, the events of `event/`
it sends and gets.

What the outside answers is the argument `Outside`: the server to a packet,
the file system, the streams, the image resolver and the turns of the two
highway connections. An answer can be any, and what is shared with other
tasks can change with it. The world of a call also keeps what the call
posted and what it was answered.
-/
import Mania.EntityPack
import Mania.CacheOp
import Mania.HwClient
import Mania.StreamSha1

namespace Mania

open HexString

/-! ## Events -/

inductive ImageFormat where
  | unknown
  | png
  | jpeg
  | gif
  | webp
  | bmp
  | tiff
  deriving DecidableEq

def ImageFormat.toUInt32 : ImageFormat → UInt32
  | unknown => 0
  | png => 1001
  | jpeg => 1000
  | gif => 2000
  | webp => 1002
  | bmp => 1005
  | tiff => 1006

def ImageFormat.display : ImageFormat → String
  | unknown => "jpg"
  | png => "png"
  | jpeg => "jpeg"
  | gif => "gif"
  | webp => "webp"
  | bmp => "bmp"
  | tiff => "tiff"

/-- `ImageGroupUploadArgs`, to a group's uin, and `ImageC2CUploadArgs`, to
a friend's uid. -/
structure ImageUploadArgs (τ : Type) where
  target : τ
  size : UInt32
  md5 : Bytes
  sha1 : Bytes
  name : String
  picType : UInt32
  subType : UInt32
  height : UInt32
  width : UInt32
  summary : String

structure VideoUploadArgs (τ : Type) where
  target : τ
  videoSize : UInt32
  videoMd5 : Bytes
  videoSha1 : Bytes
  videoName : String
  thumbSize : UInt32
  thumbMd5 : Bytes
  thumbSha1 : Bytes
  thumbName : String
  thumbWidth : UInt32
  thumbHeight : UInt32
  summary : String

structure RecordUploadArgs (τ : Type) where
  target : τ
  size : UInt32
  length : UInt32
  md5 : Bytes
  sha1 : Bytes
  name : String

structure IPv4 where
  outIp : UInt32
  outPort : UInt32

structure SubFileInfo where
  uKey : String

/-- The answer to an upload request, with what is stored beside the info. -/
structure UploadRes (κ : Type) where
  msgInfo : MsgInfo
  compat : κ
  uKey : Option String
  ipv4s : List IPv4
  subFileInfo : List SubFileInfo := []

inductive ClientEvent where
  | fetchHighwayTicket
  | imageGroupUpload (req : ImageUploadArgs UInt32)
  | imageC2CUpload (req : ImageUploadArgs String)
  | videoGroupUpload (req : VideoUploadArgs UInt32)
  | videoC2CUpload (req : VideoUploadArgs String)
  | recordGroupUpload (req : RecordUploadArgs UInt32)
  | recordC2CUpload (req : RecordUploadArgs String)
  | sendMessage (chain : MessageChain)

def ClientEvent.command : ClientEvent → String
  | fetchHighwayTicket => "HttpConn.0x6ff_501"
  | imageGroupUpload _ => "OidbSvcTrpcTcp.0x11c4_100"
  | imageC2CUpload _ => "OidbSvcTrpcTcp.0x11c5_100"
  | videoGroupUpload _ => "OidbSvcTrpcTcp.0x11ea_100"
  | videoC2CUpload _ => "OidbSvcTrpcTcp.0x11e9_100"
  | recordGroupUpload _ => "OidbSvcTrpcTcp.0x126e_100"
  | recordC2CUpload _ => "OidbSvcTrpcTcp.0x126d_100"
  | sendMessage _ => "MessageSvc.PbSendMsg"

/-- The major `ServerEvent` of an answer. -/
inductive AnswerEvent where
  | fetchHighwayTicket (sigSession : Bytes)
  | imageGroupUpload (res : UploadRes CustomFace)
  | imageC2CUpload (res : UploadRes NotOnlineImage)
  | videoGroupUpload (res : UploadRes VideoFile)
  | videoC2CUpload (res : UploadRes VideoFile)
  | recordGroupUpload (res : UploadRes RichText)
  | recordC2CUpload (res : UploadRes RichText)
  | other

/-! `downcast_major_event`. -/

namespace AnswerEvent

def ticket : AnswerEvent → Option Bytes
  | fetchHighwayTicket sigSession => some sigSession
  | _ => none

def imageGroup : AnswerEvent → Option (UploadRes CustomFace)
  | imageGroupUpload res => some res
  | _ => none

def imageC2C : AnswerEvent → Option (UploadRes NotOnlineImage)
  | imageC2CUpload res => some res
  | _ => none

def videoGroup : AnswerEvent → Option (UploadRes VideoFile)
  | videoGroupUpload res => some res
  | _ => none

def videoC2C : AnswerEvent → Option (UploadRes VideoFile)
  | videoC2CUpload res => some res
  | _ => none

def recordGroup : AnswerEvent → Option (UploadRes RichText)
  | recordGroupUpload res => some res
  | _ => none

def recordC2C : AnswerEvent → Option (UploadRes RichText)
  | recordC2CUpload res => some res
  | _ => none

end AnswerEvent

structure NtHighwayDomain where
  isEnable : Bool
  ip : String

structure NtHighwayIPv4 where
  domain : Option NtHighwayDomain
  port : UInt32

structure NtHighwayNetwork where
  iPv4s : List NtHighwayIPv4

structure NtHighwayHash where
  fileSha1 : List Bytes

structure Ntv2RichMediaHighwayExt where
  fileUuid : String
  uKey : String
  network : Option NtHighwayNetwork
  msgInfoBody : List MsgInfoBody
  blockSize : UInt32
  hash : Option NtHighwayHash

def int32ip2str (ip : UInt32) : String :=
  toString (ip &&& 0xff) ++ "." ++ toString ((ip >>> 8) &&& 0xff) ++ "." ++ toString ((ip >>> 16) &&& 0xff) ++ "." ++
    toString ((ip >>> 24) &&& 0xff)

def oidbIpv4sToHighwayIpv4s (ipv4s : List IPv4) : List NtHighwayIPv4 :=
  ipv4s.map fun ip => { domain := some { isEnable := true, ip := int32ip2str ip.outIp }, port := ip.outPort }

/-! ## The outside, and the world of a call -/

structure Packet where
  command : String
  payload : Bytes
  deriving DecidableEq

/-- What a handle shares with other tasks: of the `Highway`, the cache, and
the state `σ` of everything outside. -/
structure Shared (σ : Type) where
  sigSession : Option Bytes
  client : HighwayClient
  cache : Cache
  outside : σ

/-- The `data` of an upload: a shared stream, or silk that was read to its end. -/
inductive UploadData where
  | shared (stream : AsyncStream)
  | silk (bytes : Bytes)

structure Outside (σ : Type) where
  /-- From the packet's way to the socket to the event it is answered with. -/
  sendPacket : Packet → Effect (Shared σ) (BusinessError String) AnswerEvent
  /-- A file and its length. -/
  openFile : String → Effect (Shared σ) Unit (AsyncStream × Nat)
  /-- `None` is an error of `gen_thumbnail`, an error one of its thread. -/
  genThumbnail : Effect (Shared σ) String (Option (AsyncStream × Nat))
  /-- `stream_pipeline`: the chunks it reads. -/
  readChunks : AsyncStream → Effect (Shared σ) String (List Bytes)
  readToEnd : AsyncStream → Effect (Shared σ) String Bytes
  rewind : AsyncStream → Effect (Shared σ) String Unit
  resolveImageMetadata : AsyncStream → Effect (Shared σ) String (ImageFormat × UInt32 × UInt32)
  /-- What a stream holds and where it stands. -/
  content : AsyncStream → Shared σ → Bytes × Nat
  tcp : Shared σ → TcpLine
  http : Shared σ → HttpLine
  fuel : Shared σ → Nat
  afterUpload : UploadData → HighwayWorld → Shared σ → Shared σ
  /-- The pages of the lists that fill the cache. -/
  server : Shared σ → Server
  afterFetch : Shared σ → Shared σ
  now : Shared σ → Int

structure UploadCrates where
  highway : HighwayCrates
  ext : Ntv2RichMediaHighwayExt → Bytes
  /-- What an event other than `SendMessageEvent` builds. -/
  build : ClientEvent → Bytes
  md5 : Bytes → Bytes
  sha1 : Bytes → Bytes
  streamSha1 : Sha1Crates
  /-- Decoded, resampled and encoded to silk, or the text of the error. -/
  silk : Bytes → Except String Bytes
  /-- `(count as f64 * 0.02) as u32`. -/
  seconds : Nat → UInt32

structure Config where
  highwayChuckSize : Nat
  fetchGroupMemberStrategy : FetchGroupMemberStrategy

/-- The part of a `BusinessHandle` an outgoing event works with. -/
structure Handle (σ : Type) where
  context : Context
  config : Config
  enc : Encoders
  crates : UploadCrates
  outside : Outside σ

structure World (σ : Type) where
  posted : List Packet
  answered : List (ClientEvent × AnswerEvent)
  shared : Shared σ

def World.start {σ : Type} (shared : Shared σ) : World σ := { posted := [], answered := [], shared }

abbrev Op (σ ε α : Type) := Effect (World σ) ε α

variable {σ : Type} {ε α : Type}

def ask (x : Effect (Shared σ) ε α) : Op σ ε α := x.zoom World.shared fun shared w => { w with shared }

/-! ## `send_event` -/

def ClientEvent.build (h : Handle σ) (now : Int) : ClientEvent → Outcome (BusinessError String) Bytes
  | sendMessage chain => do
    let packet ← MessagePacker.build h.enc now chain
    .ok (h.enc.message packet)
  | event => .ok (h.crates.build event)

def sendPacket (h : Handle σ) (event : ClientEvent) (packet : Packet) : Op σ (BusinessError String) AnswerEvent := do
  Effect.modify fun w => { w with posted := w.posted ++ [packet] }
  let answer ← ask (h.outside.sendPacket packet)
  Effect.modify fun w => { w with answered := w.answered ++ [(event, answer)] }
  pure answer

/-- `dispatchLogic` is what the outgoing handlers make of the event. -/
def sendEvent (h : Handle σ) (dispatchLogic : ClientEvent → Op σ (BusinessError String) ClientEvent) (event : ClientEvent) :
    Op σ (BusinessError String) AnswerEvent := do
  let event ← dispatchLogic event
  let w ← Effect.get
  let payload ← Effect.lift (event.build h (h.outside.now w.shared))
  sendPacket h event { command := event.command, payload }

/-- `send_event(..).await?` for an event no outgoing handler is registered
for, as the events of an upload. -/
def request (h : Handle σ) (event : ClientEvent) : Op σ ManiaError AnswerEvent :=
  (sendEvent h pure event).mapErr .internalBusinessError

def downcastMajorEvent (o : Option α) : Op σ ManiaError α := Effect.lift (Outcome.okOr .internalEventDowncastError o)

/-! ## Getting ready -/

def fetchSigSession (h : Handle σ) : Op σ ManiaError Bytes := do
  let req ← request h .fetchHighwayTicket
  let sigSession ← downcastMajorEvent req.ticket
  Effect.modify fun w => { w with shared := { w.shared with sigSession := some sigSession } }
  pure sigSession

def loadSigSession (h : Handle σ) : Op σ ManiaError Bytes := do
  let w ← Effect.get
  match w.shared.sigSession with
  | some sig => pure sig
  | none => fetchSigSession h

def prepareHighway (h : Handle σ) : Op σ ManiaError Unit := do
  let ticket ← loadSigSession h
  let client : HighwayClient :=
    { uin := toString h.context.keyStore.uin
      ticket
      chunkSize := h.config.highwayChuckSize }
  Effect.modify fun w => { w with shared := { w.shared with client } }

/-- `?` on an `io::Result`. -/
def askIo (x : Effect (Shared σ) String α) : Op σ ManiaError α := (ask x).mapErr .networkError

def orGeneric (message : String) (o : Option α) : Op σ ManiaError α := Effect.lift (Outcome.okOr (.genericError message) o)

/-! ## To the highway -/

/-- The node and the file of the body of an info. -/
def indexNode (msgInfo : MsgInfo) (body : Nat) : Op σ ManiaError (IndexNode × FileInfo) := do
  let msgInfoBody ← orGeneric "No index node in response" msgInfo.msgInfoBody[body]?
  let index ← orGeneric "No index in response" msgInfoBody.index
  let info ← orGeneric "No info in response" index.info
  pure (index, info)

def unhexed (s : String) : Op σ ManiaError Bytes := Effect.lift (Outcome.okOr (.highWayError .hexError) (unhex s))

/-- What the data holds and where it stands. -/
def UploadData.stands (outside : Outside σ) (shared : Shared σ) : UploadData → Bytes × Nat
  | .shared stream => outside.content stream shared
  | .silk bytes => (bytes, bytes.length)

/-- `HighwayClient::upload`. -/
def clientUpload (h : Handle σ) (data : UploadData) (args : UploadArgs) : Op σ ManiaError Unit := do
  let w ← Effect.get
  let line := upload h.crates.highway w.shared.client args (h.outside.tcp w.shared) (h.outside.http w.shared)
    (h.outside.fuel w.shared)
  let start : HighwayWorld :=
    { content := (data.stands h.outside w.shared).1
      position := (data.stands h.outside w.shared).2
      sent := []
      posted := [] }
  let after (hw : HighwayWorld) (w : World σ) : World σ := { w with shared := h.outside.afterUpload data hw w.shared }
  (line.zoom (fun _ => start) after).mapErr .highWayError

/-- The hashes of the stream, or else the one the info says. -/
def fileHashes (streamSha1 : Option (List Bytes)) (info : FileInfo) : Op σ ManiaError (List Bytes) :=
  match streamSha1 with
  | some fileStreamSha1 => pure fileStreamSha1
  | none => do
    let sha1 ← unhexed info.fileSha1
    pure [sha1]

/-- The file of a body goes to the highway under `cmd`. -/
def uploadBody (h : Handle σ) (cmd : Nat) (data : UploadData) (size : UInt32) (res : UploadRes α)
    (uKey : String) (body : Nat) (streamSha1 : Option (List Bytes)) : Op σ ManiaError Unit := do
  let (index, info) ← indexNode res.msgInfo body
  let fileSha1 ← fileHashes streamSha1 info
  let md5 ← unhexed info.fileHash
  let extInfo := h.crates.ext
    { fileUuid := index.fileUuid
      uKey
      network := some { iPv4s := oidbIpv4sToHighwayIpv4s res.ipv4s }
      msgInfoBody := res.msgInfo.msgInfoBody
      blockSize := UInt32.ofNat h.config.highwayChuckSize
      hash := some { fileSha1 } }
  clientUpload h data { cmd, size := size.toNat, md5, extInfo }

/-- The file of the first body, if the answer has a key for it. -/
def uploadFirst (h : Handle σ) (cmd : Nat) (data : UploadData) (size : UInt32) (res : UploadRes α)
    (streamSha1 : Option (List Bytes)) : Op σ ManiaError Unit :=
  match res.uKey with
  | some uKey => uploadBody h cmd data size res uKey 0 streamSha1
  | none => pure ()

/-- The thumbnail of a video, which is the second body. -/
def uploadThumb (h : Handle σ) (cmd : Nat) (data : UploadData) (size : UInt32) (res : UploadRes α) :
    Op σ ManiaError Unit :=
  match res.subFileInfo.head? with
  | some subFile => if subFile.uKey ≠ "" then uploadBody h cmd data size res subFile.uKey 1 none else pure ()
  | none => pure ()

/-- What the six uploads have in common: `resolve` reads the streams and
makes the request, `transfer` goes to the highway with the answer. -/
def uploadMedia {media ρ κ : Type} (h : Handle σ) (resolve : Op σ ManiaError (media × ρ)) (event : ρ → ClientEvent)
    (downcast : AnswerEvent → Option (UploadRes κ)) (transfer : media → UploadRes κ → Op σ ManiaError Unit) :
    Op σ ManiaError (media × UploadRes κ) := do
  prepareHighway h
  let (media, req) ← resolve
  let answer ← request h (event req)
  let res ← downcastMajorEvent (downcast answer)
  transfer media res
  pure (media, res)

/-! ## Images -/

/-- A stream and its length, where there is a file. -/
def openStream (h : Handle σ) (path : String) : Op σ Unit (AsyncStream × Nat) := ask (h.outside.openFile path)

def ImageEntity.resolveStream (h : Handle σ) (self : ImageEntity) : Op σ Unit (AsyncStream × ImageEntity) :=
  match self.filePath with
  | some filePath => do
    let (file, size) ← openStream h filePath
    pure (file, { self with size := UInt32.ofNat size })
  | none => Effect.lift ((Outcome.okOr () self.imageStream).bind fun stream => .ok (stream, self))

def resolveImage (h : Handle σ) (stream : AsyncStream) :
    Op σ ManiaError ((ImageFormat × UInt32 × UInt32) × Bytes × Bytes) := do
  let chunks ← askIo (h.outside.readChunks stream)
  let iv ← (ask (h.outside.resolveImageMetadata stream)).mapErr fun e => .genericError ("Resolve image error: " ++ e)
  pure (iv, h.crates.sha1 chunks.flatten, h.crates.md5 chunks.flatten)

/-- The stream, and the entity and the request with what was read of it. -/
def requestImage {τ : Type} (h : Handle σ) (target : τ) (image : ImageEntity) :
    Op σ ManiaError ((AsyncStream × ImageEntity) × ImageUploadArgs τ) := do
  let (stream, image) ← (image.resolveStream h).mapErr fun _ => .genericError "No image stream found"
  let (iv, sha1, md5) ← resolveImage h stream
  let req : ImageUploadArgs τ :=
    { target
      size := image.size
      name := image.filePath.getD (hex sha1 ++ "." ++ iv.1.display)
      md5
      sha1
      picType := iv.1.toUInt32
      subType := image.subType
      summary := image.summary.getD "[图片]"
      width := iv.2.1
      height := iv.2.2 }
  pure ((stream, image), req)

def uploadImage {τ κ : Type} (h : Handle σ) (cmd : Nat) (event : ImageUploadArgs τ → ClientEvent)
    (downcast : AnswerEvent → Option (UploadRes κ)) (target : τ) (image : ImageEntity) :
    Op σ ManiaError ((AsyncStream × ImageEntity) × UploadRes κ) :=
  uploadMedia h (requestImage h target image) event downcast fun (stream, image) res =>
    uploadFirst h cmd (.shared stream) image.size res none

def uploadGroupImage (h : Handle σ) (groupUin : UInt32) (image : ImageEntity) : Op σ ManiaError ImageEntity := do
  let ((_, image), res) ← uploadImage h 1004 .imageGroupUpload AnswerEvent.imageGroup groupUin image
  pure { image with msgInfo := some res.msgInfo, customFace := res.compat }

def uploadC2cImage (h : Handle σ) (targetUid : String) (image : ImageEntity) : Op σ ManiaError ImageEntity := do
  let ((_, image), res) ← uploadImage h 1003 .imageC2CUpload AnswerEvent.imageC2C targetUid image
  pure { image with msgInfo := some res.msgInfo, notOnlineImage := res.compat }

/-! ## Videos -/

/-- `load_stream`. -/
def loadStream (h : Handle σ) (path : String) : Op σ String (Option (AsyncStream × Nat)) :=
  (some <$> openStream h path).orElse fun _ => pure none

def VideoEntity.resolveVideoStream (h : Handle σ) (self : VideoEntity) : Op σ String (Option AsyncStream × VideoEntity) :=
  match self.videoPath with
  | some videoPath => do
    match ← loadStream h videoPath with
    | some (stream, size) => pure (some stream, { self with videoSize := Int32.ofNat size })
    | none => pure (none, self)
  | none => pure (self.videoStream, self)

/-- An error of `gen_thumbnail` comes to an `unwrap_err` of an `Ok`. -/
def VideoEntity.resolveThumbStream (h : Handle σ) (self : VideoEntity) : Op σ String (Option AsyncStream × VideoEntity) :=
  match self.videoThumbPath, self.videoThumbStream with
  | some thumbPath, _ => do
    match ← loadStream h thumbPath with
    | some (stream, size) => pure (some stream, { self with videoThumbSize := Int32.ofNat size })
    | none => pure (none, self)
  | none, some stream => pure (some stream, self)
  | none, none => do
    match ← ask h.outside.genThumbnail with
    | some (stream, size) => pure (some stream, { self with videoThumbSize := Int32.ofNat size })
    | none => Effect.panic

def VideoEntity.resolveStream (h : Handle σ) (self : VideoEntity) :
    Op σ String (Option AsyncStream × Option AsyncStream × VideoEntity) := do
  let (videoStream, self) ← self.resolveVideoStream h
  let (videoThumbStream, self) ← self.resolveThumbStream h
  pure (videoStream, videoThumbStream, self)

/-- `StreamSha1` over the chunks. -/
def streamSha1 (h : Handle σ) (chunks : List Bytes) : Op σ ManiaError (List Bytes) := do
  let w ← Effect.get
  match StreamSha1.digest h.crates.streamSha1 (1024 * 1024) (h.outside.fuel w.shared) chunks with
  | .ok (some digests) => pure digests
  | .ok none => Effect.spins
  | .err e => e.elim
  | .panic => Effect.panic

structure VideoHashes where
  fileMd5 : Bytes
  fileSha1 : Bytes
  fileStreamSha1 : List Bytes
  thumbMd5 : Bytes
  thumbSha1 : Bytes

def resolveVideo (h : Handle σ) (videoStream videoThumbStream : AsyncStream) : Op σ ManiaError VideoHashes := do
  let chunks ← askIo (h.outside.readChunks videoStream)
  let fileStreamSha1 ← streamSha1 h chunks
  let thumbChunks ← askIo (h.outside.readChunks videoThumbStream)
  pure
    { fileMd5 := h.crates.md5 chunks.flatten
      fileSha1 := h.crates.sha1 chunks.flatten
      fileStreamSha1
      thumbMd5 := h.crates.md5 thumbChunks.flatten
      thumbSha1 := h.crates.sha1 thumbChunks.flatten }

/-- The two streams, the entity and the hashes of the video. -/
structure VideoStreams where
  video : AsyncStream
  thumb : AsyncStream
  entity : VideoEntity
  fileStreamSha1 : List Bytes

def requestVideo {τ : Type} (h : Handle σ) (target : τ) (video : VideoEntity) :
    Op σ ManiaError (VideoStreams × VideoUploadArgs τ) := do
  let (vs, is, video) ← (video.resolveStream h).mapErr fun e => .genericError ("Resolve stream error: " ++ reprStr e)
  let vs ← orGeneric "No video stream found" vs
  let is ← orGeneric "No image stream found" is
  let hashes ← resolveVideo h vs is
  let req : VideoUploadArgs τ :=
    { target
      videoSize := video.videoSize.toUInt32
      videoName := video.videoPath.getD (hex hashes.fileSha1 ++ ".mp4")
      videoMd5 := hashes.fileMd5
      videoSha1 := hashes.fileSha1
      thumbSize := video.videoThumbSize.toUInt32
      thumbName := video.videoThumbPath.getD (hex hashes.thumbSha1 ++ ".jpg")
      thumbMd5 := hashes.thumbMd5
      thumbSha1 := hashes.thumbSha1
      thumbWidth := video.videoThumbWidth.toUInt32
      thumbHeight := video.videoThumbHeight.toUInt32
      summary := "[视频]" }
  pure ({ video := vs, thumb := is, entity := video, fileStreamSha1 := hashes.fileStreamSha1 }, req)

/-- The thumbnail goes under the command after the video's. -/
def uploadVideo {τ : Type} (h : Handle σ) (cmd : Nat) (event : VideoUploadArgs τ → ClientEvent)
    (downcast : AnswerEvent → Option (UploadRes VideoFile)) (target : τ) (video : VideoEntity) :
    Op σ ManiaError VideoEntity := do
  let (streams, res) ← uploadMedia h (requestVideo h target video) event downcast fun streams res => do
    uploadFirst h cmd (.shared streams.video) streams.entity.videoSize.toUInt32 res (some streams.fileStreamSha1)
    uploadThumb h (cmd + 1) (.shared streams.thumb) streams.entity.videoThumbSize.toUInt32 res
  pure { streams.entity with msgInfo := some res.msgInfo, compat := some res.compat }

def uploadGroupVideo (h : Handle σ) (groupUin : UInt32) (video : VideoEntity) : Op σ ManiaError VideoEntity :=
  uploadVideo h 1005 .videoGroupUpload AnswerEvent.videoGroup groupUin video

def uploadC2cVideo (h : Handle σ) (targetUid : String) (video : VideoEntity) : Op σ ManiaError VideoEntity :=
  uploadVideo h 1001 .videoC2CUpload AnswerEvent.videoC2C targetUid video

/-! ## Records -/

def RecordEntity.resolveStream (h : Handle σ) (self : RecordEntity) : Op σ Unit (AsyncStream × RecordEntity) :=
  match self.filePath with
  | some filePath => do
    let (file, size) ← openStream h filePath
    pure (file, { self with fileSize := UInt32.ofNat size })
  | none => Effect.lift ((Outcome.okOr () self.audioStream).bind fun stream => .ok (stream, self))

/-- The blocks `get_ten_silk_time` counts, behind the header. -/
def silkBlocks : Nat → Bytes → Nat
  | fuel + 1, a :: b :: rest => silkBlocks fuel (rest.drop (a.toNat + 256 * b.toNat)) + 1
  | _, _ => 0

structure Audio where
  silk : Bytes
  time : UInt32
  sha1 : Bytes
  md5 : Bytes

def resolveAudio (h : Handle σ) (stream : AsyncStream) : Op σ ManiaError Audio := do
  let data ← askIo (h.outside.readToEnd stream)
  askIo (h.outside.rewind stream)
  match h.crates.silk data with
  | .error e => Effect.throw (.genericError e)
  | .ok silk =>
    pure
      { silk
        time := h.crates.seconds (silkBlocks silk.length (silk.drop 10))
        sha1 := h.crates.sha1 silk
        md5 := h.crates.md5 silk }

/-- `name` is the record's without a file, of its MD5 and SHA-1. -/
def requestRecord {τ : Type} (h : Handle σ) (name : Bytes → Bytes → String) (target : τ) (record : RecordEntity) :
    Op σ ManiaError ((Audio × RecordEntity) × RecordUploadArgs τ) := do
  let (stream, record) ← (record.resolveStream h).mapErr fun _ => .genericError "No record stream found"
  let audio ← resolveAudio h stream
  let record := { record with audioLength := audio.time }
  let req : RecordUploadArgs τ :=
    { target
      size := UInt32.ofNat audio.silk.length
      length := audio.time
      name := record.filePath.getD (name audio.md5 audio.sha1)
      md5 := audio.md5
      sha1 := audio.sha1 }
  pure ((audio, record), req)

def uploadRecord {τ : Type} (h : Handle σ) (cmd : Nat) (name : Bytes → Bytes → String)
    (event : RecordUploadArgs τ → ClientEvent) (downcast : AnswerEvent → Option (UploadRes RichText)) (target : τ)
    (record : RecordEntity) :
    Op σ ManiaError RecordEntity := do
  let ((_, record), res) ← uploadMedia h (requestRecord h name target record) event downcast fun (audio, _) res =>
    uploadFirst h cmd (.silk audio.silk) (UInt32.ofNat audio.silk.length) res none
  pure { record with msgInfo := some res.msgInfo, compat := some res.compat }

def uploadGroupRecord (h : Handle σ) (groupUin : UInt32) (record : RecordEntity) : Op σ ManiaError RecordEntity :=
  uploadRecord h 1008 (fun md5 _ => hex md5 ++ ".amr") .recordGroupUpload AnswerEvent.recordGroup groupUin record

def uploadC2cRecord (h : Handle σ) (targetUid : String) (record : RecordEntity) : Op σ ManiaError RecordEntity :=
  uploadRecord h 1007 (fun _ sha1 => hex sha1 ++ ".mp3") .recordC2CUpload AnswerEvent.recordC2C targetUid record

end Mania
