/-
`message/entity/`: the entities of a message and how each is unpacked from
an element.

`unpack_element` answers an `Option`; its `None` is the error of an
`Outcome Unit`, so that `?` is the bind. Fields with a default here are
the ones unpacking leaves at it; those that are resolved after it (urls,
nested chains) are left out.
-/
import Mathlib.Data.List.Infix
import Mania.Cache
import Mania.Extensions
import Mania.Message
import Mania.PacketReader

namespace Mania

/-! ## Numbers, times and texts -/

/-- A `DateTime<Utc>` in seconds since the epoch. -/
abbrev DateTime := Int

/-- `DateTime::from_timestamp(secs, 0)`: years -262143 to 262142. -/
def DateTime.fromTimestamp (secs : Int) : Option DateTime :=
  if -8334601228800 ≤ secs ∧ secs ≤ 8210266876799 then some secs else none

/-- `str::contains`. -/
def containsStr (s pattern : String) : Bool := decide (pattern.toList <:+: s.toList)

open HexString

def GroupMemberPermission.tryFrom (n : UInt32) : Option GroupMemberPermission :=
  if n = 0 then some .member else if n = 1 then some .owner else if n = 2 then some .admin else none

/-! ## The entities -/

/-- A stream that is shared, by its handle. -/
structure AsyncStream where
  handle : Nat
  deriving DecidableEq

structure TextEntity where
  text : String

structure JsonEntity where
  json : String
  resId : String

structure ImageEntity where
  height : UInt32
  width : UInt32
  filePath : Option String
  md5 : Bytes
  size : UInt32
  url : String
  msgInfo : Option MsgInfo
  notOnlineImage : NotOnlineImage
  customFace : CustomFace
  summary : Option String
  subType : UInt32
  isGroup : Bool
  imageStream : Option AsyncStream := none

structure FaceEntity where
  faceId : UInt16
  isLargeFace : Bool

structure ForwardEntity where
  time : DateTime
  messageId : UInt64
  sequence : UInt32
  targetUin : UInt32
  uid : Option String := none

structure MarketFaceEntity where
  emojiId : String
  emojiPackageId : UInt32
  key : String
  summary : String

structure LightAppEntity where
  appName : String
  payload : String

structure MultiMsgEntity where
  resId : String

structure MentionEntity where
  uin : UInt32
  name : Option String
  uid : String := ""

inductive FileUnique where
  | group (fileId : Option String)
  | c2c (fileUuid fileHash : Option String)

structure FileEntity where
  fileSize : UInt64
  fileName : String
  fileMd5 : Bytes
  extra : Option FileUnique

structure RecordEntity where
  audioLength : UInt32
  audioMd5 : Bytes
  audioName : String
  audioUuid : Option String
  fileSha1 : Option String
  msgInfo : Option MsgInfo
  filePath : Option String := none
  fileSize : UInt32 := 0
  audioStream : Option AsyncStream := none
  compat : Option RichText := none

structure VideoEntity where
  fileName : String
  height : Int32
  width : Int32
  videoSize : Int32
  videoLength : Int32
  node : Option IndexNode
  videoThumbSize : Int32 := 0
  videoThumbHeight : Int32 := 0
  videoThumbWidth : Int32 := 0
  videoPath : Option String := none
  videoStream : Option AsyncStream := none
  videoThumbPath : Option String := none
  videoThumbStream : Option AsyncStream := none
  msgInfo : Option MsgInfo := none
  compat : Option VideoFile := none

structure XmlEntity where
  xml : String
  serviceId : Int32

structure LongMsgEntity where
  resId : String

structure ExtraInfoEntity where
  groupMemberSpecialTitle : Option String

structure ExtraGeneralFlagsEntity where
  permission : GroupMemberPermission
  newGroupLevel : UInt32

/-! ## Unpacking -/

abbrev Unpack (α : Type) := Outcome Unit α

/-- `?` on an `Option`. -/
abbrev orNone {α : Type} (o : Option α) : Unpack α := Outcome.okOr () o

/-- `&bs[1..]`. -/
def behindFirst (bs : Bytes) : Unpack Bytes := Outcome.slice bs 1 bs.length

def TextEntity.unpackElement (elem : Elem) : Unpack TextEntity := do
  let text ← orNone elem.text
  match text.str, text.attr6Buf with
  | some s, none => .ok { text := s }
  | some s, some buf => if buf.isEmpty then .ok { text := s } else .err ()
  | none, _ => .err ()

def JsonEntity.unpackElement (x : Decoders) (elem : Elem) : Unpack JsonEntity := do
  let richMsg ← orNone elem.richMsg
  let serviceId ← orNone richMsg.serviceId
  if serviceId = 1 then
    let template1 ← orNone richMsg.template1
    let data ← orNone (x.decompress (← behindFirst template1))
    let json ← orNone (Utf8.fromUtf8 data)
    .ok { json, resId := "" }
  else .err ()

/-- `MsgInfo` in a common element: a picture of service 48. -/
def ImageEntity.ofMsgInfo (x : Decoders) (common : CommonElem) : Unpack ImageEntity := do
  let extra ← orNone (x.msgInfo common.pbElem).toOption
  let extBizInfo ← orNone extra.extBizInfo
  let msgInfoBody ← Outcome.index extra.msgInfoBody 0
  let index ← orNone msgInfoBody.index
  let info ← orNone index.info
  let md5 ← orNone (unhex info.fileHash)
  let pic ← orNone extBizInfo.pic
  .ok {
    height := info.height
    width := info.width
    filePath := some info.fileName
    md5
    size := info.fileSize
    url := ""
    msgInfo := some extra
    notOnlineImage := .default
    customFace := .default
    subType := pic.bizType
    isGroup := pic.bytesPbReserveTroop.isSome
    summary := some (if pic.textSummary.isEmpty then "[图片]" else pic.textSummary) }

def ImageEntity.fullUrl (origUrl : String) : String :=
  if containsStr origUrl "&fileid=" then "https://multimedia.nt.qq.com.cn" ++ origUrl
  else "https://gchat.qpic.cn" ++ origUrl

def ImageEntity.ofNotOnlineImage (image : NotOnlineImage) : ImageEntity :=
  let pbRes := image.pbRes.getD .default
  { height := image.picHeight
    width := image.picWidth
    filePath := some image.filePath
    md5 := image.picMd5
    size := image.fileLen
    url := fullUrl image.origUrl
    msgInfo := none
    notOnlineImage := image
    customFace := .default
    subType := pbRes.subType.toUInt32
    isGroup := false
    summary := some pbRes.summary }

def ImageEntity.ofCustomFace (face : CustomFace) : ImageEntity :=
  let pbRes := face.pbRes.getD .default
  { height := face.height.toUInt32
    width := face.width.toUInt32
    filePath := some face.filePath
    md5 := face.md5
    size := face.size
    url := fullUrl face.origUrl
    msgInfo := none
    notOnlineImage := .default
    customFace := face
    subType := pbRes.subType.toUInt32
    isGroup := true
    summary := some pbRes.summary }

/-- The common element that carries a picture. -/
def Elem.picture (elem : Elem) : Option CommonElem :=
  elem.commonElem.filter fun common =>
    common.serviceType = 48 ∧ (common.businessType = 10 ∨ common.businessType = 20)

def ImageEntity.unpackElement (x : Decoders) (elem : Elem) : Unpack ImageEntity :=
  match elem.picture, elem.notOnlineImage, elem.customFace with
  | some common, _, _ => ofMsgInfo x common
  | none, some image, _ => .ok (ofNotOnlineImage image)
  | none, none, some face => .ok (ofCustomFace face)
  | none, none, none => .err ()

def FaceEntity.unpackElement (x : Decoders) (elem : Elem) : Unpack FaceEntity :=
  match elem.face with
  | some { index := some index, old := some _ } =>
    .ok { faceId := index.toUInt32.toUInt16, isLargeFace := false }
  | _ => do
    let common ← orNone elem.commonElem
    if common.serviceType = 37 then
      let qface ← orNone (x.qBigFaceExtra common.pbElem).toOption
      let id ← orNone qface.faceId
      .ok { faceId := id.toUInt32.toUInt16, isLargeFace := true }
    else if common.serviceType = 33 then
      let smallFace ← orNone (x.qSmallFaceExtra common.pbElem).toOption
      .ok { faceId := smallFace.faceId.toUInt16, isLargeFace := false }
    else .err ()

/-- `orig_seqs[0]` is read also when the reserve has a sequence. -/
def ForwardEntity.unpackElement (x : Decoders) (elem : Elem) : Unpack ForwardEntity := do
  let src ← orNone elem.srcMsg
  let pbReserve ← orNone src.pbReserve
  let reserve ← orNone (x.preserve pbReserve).toOption
  let time ← orNone (DateTime.fromTimestamp (src.time.getD 0).toInt)
  let origSeq ← Outcome.index src.origSeqs 0
  .ok {
    time
    sequence := reserve.clientSequence.getD origSeq
    targetUin := src.senderUin.toUInt32
    messageId := reserve.messageId }

def MarketFaceEntity.unpackElement (elem : Elem) : Unpack MarketFaceEntity := do
  let marketFace ← orNone elem.marketFace
  let faceId ← orNone marketFace.faceId
  let tabId ← orNone marketFace.tabId
  let key ← orNone marketFace.key
  let faceName ← orNone marketFace.faceName
  .ok { emojiId := hex faceId, emojiPackageId := tabId, key, summary := faceName }

def LightAppEntity.unpackElement (x : Decoders) (elem : Elem) : Unpack LightAppEntity := do
  let lightApp ← orNone elem.lightAppElem
  let decompressed ← orNone (x.decompress (← behindFirst lightApp.data))
  let payload ← orNone (Utf8.fromUtf8 decompressed)
  let app ← orNone (x.app payload)
  .ok { appName := app, payload }

def MultiMsgEntity.unpackElement (x : Decoders) (elem : Elem) : Unpack MultiMsgEntity := do
  let richMsg ← orNone elem.richMsg
  match richMsg.serviceId, richMsg.template1 with
  | some serviceId, some template =>
    if serviceId = 35 then
      let decompressed ← orNone (x.decompress (← behindFirst template))
      let xml ← orNone (Utf8.fromUtf8 decompressed)
      let resId ← orNone (x.resId xml)
      .ok { resId }
    else .err ()
  | _, _ => .err ()

def MentionEntity.unpackElement (elem : Elem) : Unpack MentionEntity := do
  let text ← orNone elem.text
  match text.str, text.attr6Buf with
  | some s, some buf =>
    if 11 ≤ buf.length then
      let uin ← Outcome.slice buf 7 11
      .ok { uin := Bytes.ofBE32 uin, name := some s }
    else .err ()
  | _, _ => .err ()

/-- The payload of a group file: a byte, and then what is behind a length. -/
def FileEntity.payload : Cursor Unit Bytes := do
  Cursor.advance 1
  PacketReader.readWithLength (PREFIX_U16 ||| PREFIX_LENGTH_ONLY) PacketReader.bytes

def FileEntity.unpackElement (x : Decoders) (elem : Elem) : Unpack FileEntity := do
  let transElem ← orNone elem.transElem
  if transElem.elemType = 24 then
    let data ← PacketReader.new transElem.elemValue payload
    let extra ← orNone (x.groupFileExtra data).toOption
    let inner ← orNone extra.inner
    let info ← orNone inner.info
    let fileMd5 ← orNone (unhex info.fileMd5)
    .ok { fileSize := info.fileSize, fileMd5, fileName := info.fileName, extra := some (.group (some info.fileId)) }
  else .err ()

def RecordEntity.unpackElement (x : Decoders) (elem : Elem) : Unpack RecordEntity := do
  let common ← orNone elem.commonElem
  if (common.businessType = 22 ∨ common.businessType = 12) ∧ common.serviceType = 48 then
    let extra ← orNone (x.msgInfo common.pbElem).toOption
    let msgInfoBody ← orNone extra.msgInfoBody.head?
    let index ← orNone msgInfoBody.index
    let info ← orNone index.info
    let md5 ← orNone (unhex info.fileHash)
    .ok {
      audioUuid := some index.fileUuid
      audioName := info.fileName
      audioMd5 := md5
      audioLength := info.time
      fileSha1 := some info.fileHash
      msgInfo := some extra }
  else .err ()

/-- What `video_file` would give is thrown away. -/
def VideoEntity.unpackElement (x : Decoders) (elem : Elem) : Unpack VideoEntity := do
  let common ← orNone elem.commonElem
  if common.serviceType = 48 then
    let msgInfo ← orNone (x.msgInfo common.pbElem).toOption
    let msgInfoBody ← orNone msgInfo.msgInfoBody.head?
    let node ← orNone msgInfoBody.index
    let info ← orNone node.info
    .ok {
      fileName := info.fileName
      height := info.height.toInt32
      width := info.width.toInt32
      videoSize := info.fileSize.toInt32
      videoLength := info.time.toInt32
      node := some node }
  else .err ()

def XmlEntity.unpackElement (x : Decoders) (elem : Elem) : Unpack XmlEntity := do
  let richMsg ← orNone elem.richMsg
  let serviceId ← orNone richMsg.serviceId
  let temp ← orNone richMsg.template1
  let decompressed ← orNone (x.decompress (← behindFirst temp))
  let xml ← orNone (Utf8.fromUtf8 decompressed)
  .ok { xml, serviceId }

def LongMsgEntity.unpackElement (elem : Elem) : Unpack LongMsgEntity := do
  let general ← orNone elem.generalFlags
  match general.longTextResId with
  | some resId => if general.longTextFlag = 1 then .ok { resId } else .err ()
  | none => .err ()

def ExtraInfoEntity.unpackElement (elem : Elem) : Unpack ExtraInfoEntity := do
  let extraInfo ← orNone elem.extraInfo
  .ok { groupMemberSpecialTitle := extraInfo.senderTitle.map Utf8.fromUtf8Lossy }

def ExtraGeneralFlagsEntity.unpackElement (elem : Elem) : Unpack ExtraGeneralFlagsEntity := do
  let generalFlags ← orNone elem.generalFlags
  let data ← orNone generalFlags.pbReserve
  let pr ← orNone data.levelPermission
  match pr.permission, pr.newLevel with
  | some p, some l => .ok { permission := (GroupMemberPermission.tryFrom p).getD .member, newGroupLevel := l }
  | _, _ => .err ()

inductive Entity where
  | text (inner : TextEntity)
  | json (inner : JsonEntity)
  | image (inner : ImageEntity)
  | face (inner : FaceEntity)
  | forward (inner : ForwardEntity)
  | marketFace (inner : MarketFaceEntity)
  | lightApp (inner : LightAppEntity)
  | multiMsg (inner : MultiMsgEntity)
  | mention (inner : MentionEntity)
  | file (inner : FileEntity)
  | record (inner : RecordEntity)
  | video (inner : VideoEntity)
  | xml (inner : XmlEntity)
  | longMsg (inner : LongMsgEntity)
  | extraInfo (inner : ExtraInfoEntity)
  | extraGeneralFlags (inner : ExtraGeneralFlagsEntity)

namespace Entity

/-- The kinds of `impl_common_entity_unpack!`, in its order. -/
def unpackers (x : Decoders) (elem : Elem) : List (Unpack Entity) :=
  [text <$> TextEntity.unpackElement elem,
   json <$> JsonEntity.unpackElement x elem,
   image <$> ImageEntity.unpackElement x elem,
   face <$> FaceEntity.unpackElement x elem,
   forward <$> ForwardEntity.unpackElement x elem,
   marketFace <$> MarketFaceEntity.unpackElement elem,
   lightApp <$> LightAppEntity.unpackElement x elem,
   multiMsg <$> MultiMsgEntity.unpackElement x elem,
   mention <$> MentionEntity.unpackElement elem,
   file <$> FileEntity.unpackElement x elem,
   record <$> RecordEntity.unpackElement x elem,
   video <$> VideoEntity.unpackElement x elem,
   xml <$> XmlEntity.unpackElement x elem,
   longMsg <$> LongMsgEntity.unpackElement elem]

def unpackElement (x : Decoders) (elem : Elem) : Unpack Entity := Outcome.firstSome (unpackers x elem)

def unpackExtraElement (elem : Elem) : Unpack Entity :=
  Outcome.firstSome
    [extraInfo <$> ExtraInfoEntity.unpackElement elem,
     extraGeneralFlags <$> ExtraGeneralFlagsEntity.unpackElement elem]

end Entity

end Mania
