/-
`build` of the six upload events of `event/message/`: the request that
announces the files of an image, a video or a record, to a group or to a
friend. `clientRandomId` is `RandomGenerator::rand_u64()`.
-/
import Mania.HighwayOp

namespace Mania

open HexString

/-! ## `NTV2RichMediaReq.proto` -/

structure CommonHead where
  requestId : UInt32
  command : UInt32

structure C2cUserInfo where
  accountType : UInt32
  targetUid : String

structure NtGroupInfo where
  groupUin : UInt32

structure SceneInfo where
  requestType : UInt32
  businessType : UInt32
  sceneType : UInt32
  c2c : Option C2cUserInfo := none
  group : Option NtGroupInfo := none

structure ClientMeta where
  agentType : UInt32

structure MultiMediaReqHead where
  common : Option CommonHead
  scene : Option SceneInfo
  client : Option ClientMeta

structure UploadInfo where
  fileInfo : Option FileInfo
  subFileType : UInt32

structure UploadReq where
  uploadInfo : List UploadInfo
  tryFastUploadCompleted : Bool
  srvSendMsg : Bool
  clientRandomId : UInt64
  compatQMsgSceneType : UInt32
  extBizInfo : Option ExtBizInfo
  clientSeq : UInt32
  noNeedCompatMsg : Bool

structure Ntv2RichMediaReq where
  reqHead : Option MultiMediaReqHead
  upload : Option UploadReq

/-! ## `OidbPacket` of `packet.rs` -/

structure OidbLafter where
  type : Int32
  d2 : Bytes
  subAppid : UInt32

structure OidbSvcTrpcTcpBase where
  command : UInt32
  subCommand : UInt32
  body : Bytes
  reserved : Int32
  lafter : Option OidbLafter

/-- `encode_to_vec` of the request and of the packet it goes in. -/
structure RequestEncoders where
  ntv2RichMediaReq : Ntv2RichMediaReq → Bytes
  oidbSvcTrpcTcpBase : OidbSvcTrpcTcpBase → Bytes

structure OidbPacket where
  commend : UInt32
  subCommend : UInt32
  body : Bytes
  isLafter : Bool
  isUid : Bool

def OidbPacket.toBinary (x : RequestEncoders) (self : OidbPacket) : Bytes :=
  x.oidbSvcTrpcTcpBase
    { command := self.commend
      subCommand := self.subCommend
      body := self.body
      reserved := if self.isUid then 1 else 0
      lafter := if self.isLafter then some { type := 0, d2 := [], subAppid := 0 } else none }

/-! ## The requests -/

def groupScene (businessType groupUin : UInt32) : SceneInfo :=
  { requestType := 2, businessType, sceneType := 2, group := some { groupUin } }

def c2cScene (businessType : UInt32) (targetUid : String) : SceneInfo :=
  { requestType := 2, businessType, sceneType := 1, c2c := some { accountType := 2, targetUid } }

/-- What the six requests have in common. -/
def uploadReq (requestId : UInt32) (scene : SceneInfo) (uploadInfo : List UploadInfo) (clientRandomId : UInt64)
    (compatQMsgSceneType : UInt32) (extBizInfo : ExtBizInfo) : Ntv2RichMediaReq where
  reqHead := some
    { common := some { requestId, command := 100 }
      scene := some scene
      client := some { agentType := 2 } }
  upload := some
    { uploadInfo
      tryFastUploadCompleted := true
      srvSendMsg := false
      clientRandomId
      compatQMsgSceneType
      extBizInfo := some extBizInfo
      clientSeq := 0
      noNeedCompatMsg := false }

variable {τ : Type}

/-- The file of an image, under the `file_sha1` of either event. -/
def imageInfo (req : ImageUploadArgs τ) (fileSha1 : String) : UploadInfo where
  fileInfo := some
    { fileSize := req.size
      fileHash := hex req.md5
      fileSha1
      fileName := req.name
      type := some { type := 1, picFormat := req.picType, videoFormat := 0, voiceFormat := 0 }
      width := req.width
      height := req.height
      time := 0
      original := 1 }
  subFileType := 0

def imageExt (pic : PicExtBizInfo) : ExtBizInfo where
  pic := some pic
  video := some { bytesPbReserve := [] }
  ptt := some { bytesReserve := [], bytesPbReserve := [], bytesGeneralFlags := [] }

def ImageGroupUploadEvent.request (req : ImageUploadArgs UInt32) (clientRandomId : UInt64) : Ntv2RichMediaReq :=
  uploadReq 1 (groupScene 1 req.target) [imageInfo req (hex req.sha1)] clientRandomId 2
    (imageExt
      { bizType := req.subType
        textSummary := req.summary
        bytesPbReserveTroop := some { subType := req.subType, textSummary := req.summary } })

/-- The `file_sha1` is the hex of the MD5. -/
def ImageC2CUploadEvent.request (req : ImageUploadArgs String) (clientRandomId : UInt64) : Ntv2RichMediaReq :=
  uploadReq 1 (c2cScene 1 req.target) [imageInfo req (hex req.md5)] clientRandomId 2
    (imageExt
      { bizType := req.subType
        textSummary := req.summary
        bytesPbReserveTroop := none
        bytesPbReserveC2c := some { subType := req.subType, field8 := req.summary } })

/-- The video and its thumbnail. -/
def videoInfo (req : VideoUploadArgs τ) : List UploadInfo :=
  [{ fileInfo := some
      { fileSize := req.videoSize
        fileHash := hex req.videoMd5
        fileSha1 := hex req.videoSha1
        fileName := req.videoName
        type := some { type := 2, picFormat := 0, videoFormat := 0, voiceFormat := 0 }
        width := 0
        height := 0
        time := 0
        original := 0 }
     subFileType := 0 },
   { fileInfo := some
      { fileSize := req.thumbSize
        fileHash := hex req.thumbMd5
        fileSha1 := hex req.thumbSha1
        fileName := req.thumbName
        type := some { type := 1, picFormat := 0, videoFormat := 0, voiceFormat := 0 }
        width := req.thumbWidth
        height := req.thumbHeight
        time := 0
        original := 0 }
     subFileType := 100 }]

def videoExt (req : VideoUploadArgs τ) : ExtBizInfo where
  pic := some { bizType := 0, textSummary := req.summary, bytesPbReserveTroop := none }
  video := some { bytesPbReserve := [0x80, 0x01, 0x00] }
  ptt := some { bytesReserve := [], bytesPbReserve := [], bytesGeneralFlags := [] }

def VideoGroupUploadEvent.request (req : VideoUploadArgs UInt32) (clientRandomId : UInt64) : Ntv2RichMediaReq :=
  uploadReq 3 (groupScene 2 req.target) (videoInfo req) clientRandomId 2 (videoExt req)

def VideoC2CUploadEvent.request (req : VideoUploadArgs String) (clientRandomId : UInt64) : Ntv2RichMediaReq :=
  uploadReq 3 (c2cScene 2 req.target) (videoInfo req) clientRandomId 2 (videoExt req)

def recordInfo (req : RecordUploadArgs τ) : UploadInfo where
  fileInfo := some
    { fileSize := req.size
      fileHash := hex req.md5
      fileSha1 := hex req.sha1
      fileName := req.name
      type := some { type := 3, picFormat := 0, videoFormat := 0, voiceFormat := 1 }
      width := 0
      height := 0
      time := req.length
      original := 0 }
  subFileType := 0

def recordExt (ptt : PttExtBizInfo) : ExtBizInfo where
  pic := some { bizType := 0, textSummary := "", bytesPbReserveTroop := none }
  video := some { bytesPbReserve := [] }
  ptt := some ptt

def RecordGroupUploadEvent.request (req : RecordUploadArgs UInt32) (clientRandomId : UInt64) : Ntv2RichMediaReq :=
  uploadReq 1 (groupScene 3 req.target) [recordInfo req] clientRandomId 2
    (recordExt
      { bytesReserve := []
        bytesPbReserve := [0x08, 0x00, 0x38, 0x00]
        bytesGeneralFlags := [0x9a, 0x01, 0x07, 0xaa, 0x03, 0x04, 0x08, 0x08, 0x12, 0x00] })

def RecordC2CUploadEvent.request (req : RecordUploadArgs String) (clientRandomId : UInt64) : Ntv2RichMediaReq :=
  uploadReq 4 (c2cScene 3 req.target) [recordInfo req] clientRandomId 1
    (recordExt
      { bytesReserve := [0x08, 0x00, 0x38, 0x00]
        bytesPbReserve := []
        bytesGeneralFlags :=
          [0x9a, 0x01, 0x0b, 0xaa, 0x03, 0x08, 0x08, 0x04, 0x12, 0x04, 0x00, 0x00, 0x00, 0x00] })

namespace ClientEvent

/-- The command and the request of an upload's packet. -/
def uploadRequest (clientRandomId : UInt64) : ClientEvent → Option (UInt32 × Ntv2RichMediaReq)
  | imageGroupUpload req => some (0x11c4, ImageGroupUploadEvent.request req clientRandomId)
  | imageC2CUpload req => some (0x11c5, ImageC2CUploadEvent.request req clientRandomId)
  | videoGroupUpload req => some (0x11ea, VideoGroupUploadEvent.request req clientRandomId)
  | videoC2CUpload req => some (0x11e9, VideoC2CUploadEvent.request req clientRandomId)
  | recordGroupUpload req => some (0x126e, RecordGroupUploadEvent.request req clientRandomId)
  | recordC2CUpload req => some (0x126d, RecordC2CUploadEvent.request req clientRandomId)
  | fetchHighwayTicket => none
  | sendMessage _ => none

/-- `build` of an upload. -/
def buildUpload (x : RequestEncoders) (clientRandomId : UInt64) (event : ClientEvent) : Option Bytes := do
  let (commend, req) ← event.uploadRequest clientRandomId
  some (OidbPacket.toBinary x
    { commend, subCommend := 100, body := x.ntv2RichMediaReq req, isLafter := false, isUid := true })

end ClientEvent

end Mania
