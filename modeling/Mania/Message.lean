/-
The protobuf messages of a push, with the fields that are read: `PushMsg`
and what it holds, the elements of a rich text, and the messages encoded in
an element's bytes or in the content of a notice. And those a message is
sent in, with the fields that are written.

Protobuf, zlib, JSON and XML are done by other crates. `Decoders` and
`Encoders` are what they answer; none of them panics.
-/
import Mania.Lib.Bytes

namespace Mania

/-! ## `element.proto` -/

structure Text where
  str : Option String
  attr6Buf : Option Bytes
  pbReserve : Option Bytes := none

structure Face where
  index : Option Int32
  old : Option Bytes

/-- `PbReserve` of `NotOnlineImage` and of `CustomFace`. -/
structure PbReserve where
  subType : Int32
  summary : String

def PbReserve.default : PbReserve := { subType := 0, summary := "" }

structure NotOnlineImage where
  filePath : String
  fileLen : UInt32
  picMd5 : Bytes
  picHeight : UInt32
  picWidth : UInt32
  origUrl : String
  pbRes : Option PbReserve

structure CustomFace where
  filePath : String
  md5 : Bytes
  origUrl : String
  width : Int32
  height : Int32
  size : UInt32
  pbRes : Option PbReserve

def NotOnlineImage.default : NotOnlineImage :=
  { filePath := "", fileLen := 0, picMd5 := [], picHeight := 0, picWidth := 0, origUrl := "", pbRes := none }

def CustomFace.default : CustomFace :=
  { filePath := "", md5 := [], origUrl := "", width := 0, height := 0, size := 0, pbRes := none }

structure TransElem where
  elemType : Int32
  elemValue : Bytes

structure MarketFace where
  faceName : Option String
  faceId : Option Bytes
  tabId : Option UInt32
  key : Option String

structure RichMsg where
  template1 : Option Bytes
  serviceId : Option Int32

structure ExtraInfo where
  senderTitle : Option Bytes

structure GeneralFlagsReserveLevelPermission where
  permission : Option UInt32
  newLevel : Option UInt32

structure GeneralFlagsReserve where
  levelPermission : Option GeneralFlagsReserveLevelPermission

structure GeneralFlags where
  longTextFlag : Int32
  longTextResId : Option String
  pbReserve : Option GeneralFlagsReserve

structure SrcMsg where
  origSeqs : List UInt32
  senderUin : UInt64
  time : Option Int32
  pbReserve : Option Bytes
  toUin : Option UInt64 := none

structure LightAppElem where
  data : Bytes

structure CommonElem where
  serviceType : Int32
  pbElem : Bytes
  businessType : UInt32

structure Elem where
  text : Option Text := none
  face : Option Face := none
  notOnlineImage : Option NotOnlineImage := none
  transElem : Option TransElem := none
  marketFace : Option MarketFace := none
  customFace : Option CustomFace := none
  richMsg : Option RichMsg := none
  extraInfo : Option ExtraInfo := none
  generalFlags : Option GeneralFlags := none
  srcMsg : Option SrcMsg := none
  lightAppElem : Option LightAppElem := none
  commonElem : Option CommonElem := none

structure VideoFile where
  fileUuid : String
  fileMd5 : Bytes
  fileSize : Int32
  fileWidth : Int32
  fileHeight : Int32

structure MentionExtra where
  type : Option Int32
  uin : Option UInt32
  field5 : Option Int32
  uid : Option String

structure Preserve where
  messageId : UInt64
  clientSequence : Option UInt32
  senderUid : Option String := none

structure QBigFaceExtra where
  faceId : Option Int32

structure QSmallFaceExtra where
  faceId : UInt32

/-! ## `component.proto` -/

structure RichText where
  elems : List Elem

structure NotOnlineFile where
  fileUuid : Option String
  fileMd5 : Option Bytes
  fileName : Option String
  fileSize : Option Int64
  fileHash : Option String

structure FileExtra where
  file : Option NotOnlineFile

structure GroupFileExtraInfo where
  fileId : String
  fileSize : UInt64
  fileName : String
  fileMd5 : String

structure GroupFileExtraInner where
  info : Option GroupFileExtraInfo

structure GroupFileExtra where
  inner : Option GroupFileExtraInner

/-! ## `NTV2RichMediaReq.proto` -/

structure FileType where
  type : UInt32
  picFormat : UInt32
  videoFormat : UInt32
  voiceFormat : UInt32

structure FileInfo where
  fileSize : UInt32
  fileHash : String
  fileName : String
  width : UInt32
  height : UInt32
  time : UInt32
  fileSha1 : String := ""
  type : Option FileType := none
  original : UInt32 := 0

structure IndexNode where
  info : Option FileInfo
  fileUuid : String

structure TroopSource where
  groupUin : UInt32

structure HashSum where
  troopSource : Option TroopSource

structure MsgInfoBody where
  index : Option IndexNode
  hashSum : Option HashSum := none

structure BytesPbReserveC2c where
  subType : UInt32
  field8 : String

structure BytesPbReserveTroop where
  textSummary : String
  subType : UInt32 := 0

structure PicExtBizInfo where
  bizType : UInt32
  textSummary : String
  bytesPbReserveTroop : Option BytesPbReserveTroop
  bytesPbReserveC2c : Option BytesPbReserveC2c := none

structure VideoExtBizInfo where
  bytesPbReserve : Bytes

structure PttExtBizInfo where
  bytesReserve : Bytes
  bytesPbReserve : Bytes
  bytesGeneralFlags : Bytes

structure ExtBizInfo where
  pic : Option PicExtBizInfo
  video : Option VideoExtBizInfo := none
  ptt : Option PttExtBizInfo := none

structure MsgInfo where
  msgInfoBody : List MsgInfoBody
  extBizInfo : Option ExtBizInfo

def MsgInfo.default : MsgInfo := { msgInfoBody := [], extBizInfo := none }

/-! ## `message.proto` -/

structure ContentHead where
  type : UInt32
  subType : Option UInt32
  sequence : Option UInt32
  timeStamp : Option UInt32
  ntMsgSeq : Option UInt32
  msgUid : Option UInt64
  c2cCmd : Option UInt32 := none

structure MessageBody where
  richText : Option RichText
  msgContent : Option Bytes

structure ResponseGrp where
  groupCode : Option UInt64
  groupCard : Option String

structure ResponseHead where
  fromUin : UInt32
  fromUid : Option String
  toUin : UInt32
  toUid : Option String
  grp : Option ResponseGrp

structure PushMsgBody where
  responseHead : Option ResponseHead
  contentHead : Option ContentHead
  body : Option MessageBody

structure PushMsg where
  message : Option PushMsgBody

structure C2c where
  uin : Option UInt32
  uid : Option String

structure Grp where
  groupCode : Option UInt32

structure Trans0x211 where
  ccCmd : Option UInt32
  uid : Option String

structure RoutingHead where
  c2c : Option C2c
  grp : Option Grp
  trans0x211 : Option Trans0x211

structure MessageControl where
  msgFlag : Int32

structure Message where
  routingHead : Option RoutingHead
  contentHead : Option ContentHead
  body : Option MessageBody
  clientSequence : Option UInt32
  random : Option UInt32
  ctrl : Option MessageControl

/-! ## `notify.proto` -/

structure FriendRecallTipInfo where
  tip : Option String

structure FriendRecallInfo where
  sequence : UInt32
  time : UInt32
  random : UInt32
  tipInfo : Option FriendRecallTipInfo

structure FriendRecall where
  info : Option FriendRecallInfo

structure NewFriendInfo where
  uid : String
  message : String
  nickName : String

structure NewFriend where
  info : Option NewFriendInfo

structure FriendRequestInfo where
  sourceUid : String
  message : String
  source : String

structure FriendRequest where
  info : Option FriendRequestInfo

structure GroupAdminExtra where
  adminUid : String

structure GroupAdminBody where
  extraDisable : Option GroupAdminExtra
  extraEnable : Option GroupAdminExtra

structure GroupAdmin where
  groupUin : UInt32
  body : Option GroupAdminBody

structure GroupChange where
  groupUin : UInt32
  memberUid : String
  decreaseType : UInt32
  operator : Option Bytes

structure OperatorField1 where
  operatorUid : String

structure OperatorInfo where
  operatorField1 : Option OperatorField1

structure InvitationInner where
  groupUin : UInt32
  targetUid : String
  invitorUid : String

structure InvitationInfo where
  inner : Option InvitationInner

structure GroupInvitation where
  cmd : Int32
  info : Option InvitationInfo

structure GroupInvite where
  groupUin : UInt32
  invitorUid : String

structure GroupJoin where
  groupUin : UInt32
  targetUid : String

structure GroupMuteState where
  targetUid : Option String
  duration : UInt32

structure GroupMuteData where
  state : Option GroupMuteState

structure GroupMute where
  groupUin : UInt32
  operatorUid : Option String
  data : Option GroupMuteData

structure GroupRecallTipInfo where
  tip : String

structure RecallMessage where
  sequence : UInt64
  time : UInt32
  random : UInt32
  authorUid : String

structure GroupRecall where
  operatorUid : Option String
  recallMessages : List RecallMessage
  tipInfo : Option GroupRecallTipInfo

structure TemplParam where
  key : String
  value : String

structure GeneralGrayTipInfo where
  busiType : UInt64
  msgTemplParam : List TemplParam

structure EssenceMessage where
  msgSequence : UInt32
  random : UInt32
  setFlag : UInt32
  authorUin : UInt32
  operatorUin : UInt32

structure GroupReactionTarget where
  sequence : UInt32

structure GroupReactionData3 where
  code : String
  count : UInt32
  operatorUid : String
  type : UInt32

structure GroupReactionData2 where
  target : Option GroupReactionTarget
  data : Option GroupReactionData3

structure GroupReactionData1 where
  data : Option GroupReactionData2

structure GroupReactionData0 where
  data : Option GroupReactionData1

structure NotifyMessageBody where
  groupUin : UInt32
  eventParam : Bytes
  «recall» : Option GroupRecall
  field13 : Option UInt32
  operatorUid : String
  grayTipInfo : Option GeneralGrayTipInfo
  essenceMessage : Option EssenceMessage
  reaction : Option GroupReactionData0

structure SpecialTittleNotify where
  notifyInner : String
  targetUin : UInt32

structure GroupNameChange where
  name : String

structure GroupMemberEnterStyle where
  styleId : UInt32

structure GroupMemberEnterDetail where
  groupMemberUin : UInt32
  groupId : UInt32
  style : Option GroupMemberEnterStyle

structure GroupMemberEnterInfo where
  detail : Option GroupMemberEnterDetail

structure GroupMemberEnterContentBody where
  info : Option GroupMemberEnterInfo

structure GroupMemberEnterNotify where
  body : Option GroupMemberEnterContentBody

structure RenameData where
  nickName : String

structure SelfRenameBody where
  renameData : Option RenameData

structure SelfRenameNotify where
  body : Option SelfRenameBody

structure FriendRenameMsgData where
  uid : String
  renameData : Option RenameData

structure PinChangedInfo where
  timestamp : Bytes

structure PinChangedBody where
  uid : String
  groupUin : Option UInt32
  info : Option PinChangedInfo

structure PinChanged where
  body : Option PinChangedBody

structure Event0x210Sub39NotifyBody where
  type : UInt32
  data : Option FriendRenameMsgData
  pinChanged : Option PinChanged

structure Event0x210Sub39Notify where
  body : Option Event0x210Sub39NotifyBody

/-! ## What other crates answer -/

/-- `prost::DecodeError`, by its `Debug` text. -/
structure DecodeError where
  debug : String
  deriving DecidableEq

/-- The fields that are used of the JSON objects in a special title. -/
structure SpecialTitleUserInfo where
  text : String

structure SpecialTitleMedalInfo where
  text : String
  url : String

structure Decoders where
  msgInfo : Bytes → Except DecodeError MsgInfo
  preserve : Bytes → Except DecodeError Preserve
  qBigFaceExtra : Bytes → Except DecodeError QBigFaceExtra
  qSmallFaceExtra : Bytes → Except DecodeError QSmallFaceExtra
  groupFileExtra : Bytes → Except DecodeError GroupFileExtra
  fileExtra : Bytes → Except DecodeError FileExtra
  groupInvitation : Bytes → Except DecodeError GroupInvitation
  groupJoin : Bytes → Except DecodeError GroupJoin
  groupInvite : Bytes → Except DecodeError GroupInvite
  groupAdmin : Bytes → Except DecodeError GroupAdmin
  groupChange : Bytes → Except DecodeError GroupChange
  operatorInfo : Bytes → Except DecodeError OperatorInfo
  groupMute : Bytes → Except DecodeError GroupMute
  notifyMessageBody : Bytes → Except DecodeError NotifyMessageBody
  specialTittleNotify : Bytes → Except DecodeError SpecialTittleNotify
  groupNameChange : Bytes → Except DecodeError GroupNameChange
  selfRenameNotify : Bytes → Except DecodeError SelfRenameNotify
  friendRequest : Bytes → Except DecodeError FriendRequest
  groupMemberEnterNotify : Bytes → Except DecodeError GroupMemberEnterNotify
  event0x210Sub39Notify : Bytes → Except DecodeError Event0x210Sub39Notify
  friendRecall : Bytes → Except DecodeError FriendRecall
  generalGrayTipInfo : Bytes → Except DecodeError GeneralGrayTipInfo
  newFriend : Bytes → Except DecodeError NewFriend
  /-- `zlib::decompress`. -/
  decompress : Bytes → Option Bytes
  /-- `serde_json::from_str`, then `get("app")` and `as_str`. -/
  app : String → Option String
  /-- `quick_xml::de::from_str`, then `res_id`. -/
  resId : String → Option String
  /-- What the group of `<(.*?)>` captured, match after match. -/
  captures : String → List String
  userInfo : String → Option SpecialTitleUserInfo
  medalInfo : String → Option SpecialTitleMedalInfo

/-- Decoders that refuse everything. -/
def PushMsg.refusing : Decoders where
  msgInfo _ := .error ⟨""⟩
  preserve _ := .error ⟨""⟩
  qBigFaceExtra _ := .error ⟨""⟩
  qSmallFaceExtra _ := .error ⟨""⟩
  groupFileExtra _ := .error ⟨""⟩
  fileExtra _ := .error ⟨""⟩
  groupInvitation _ := .error ⟨""⟩
  groupJoin _ := .error ⟨""⟩
  groupInvite _ := .error ⟨""⟩
  groupAdmin _ := .error ⟨""⟩
  groupChange _ := .error ⟨""⟩
  operatorInfo _ := .error ⟨""⟩
  groupMute _ := .error ⟨""⟩
  notifyMessageBody _ := .error ⟨""⟩
  specialTittleNotify _ := .error ⟨""⟩
  groupNameChange _ := .error ⟨""⟩
  selfRenameNotify _ := .error ⟨""⟩
  friendRequest _ := .error ⟨""⟩
  groupMemberEnterNotify _ := .error ⟨""⟩
  event0x210Sub39Notify _ := .error ⟨""⟩
  friendRecall _ := .error ⟨""⟩
  generalGrayTipInfo _ := .error ⟨""⟩
  newFriend _ := .error ⟨""⟩
  decompress _ := none
  app _ := none
  resId _ := none
  captures _ := []
  userInfo _ := none
  medalInfo _ := none

structure Encoders where
  msgInfo : MsgInfo → Bytes
  preserve : Preserve → Bytes
  mentionExtra : MentionExtra → Bytes
  message : Message → Bytes
  /-- `zlib::compress`. -/
  compress : Bytes → Bytes

end Mania
