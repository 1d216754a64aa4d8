/-
`core/event/message/push_msg.rs`: `PushMessageEvent::parse`, from a decoded
`PushMsg` to the event with its chain and the events of the notices.

Every kind of push has a definition of its own, after its `PkgType`. The
events are pushed on `extra`, which is `None` for the kinds that have a
chain; the `unwrap` of a push panics there. Of the context, parsing takes
how group members are fetched, and it stores the name the bot is renamed
to.
-/
import Mania.Lib.DashMap
import Mania.MessagePacker
import Mania.SsoPacket

namespace Mania

inductive PkgType where
  | privateMessage
  | groupMessage
  | tempMessage
  | event0x210
  | event0x2DC
  | privateRecordMessage
  | privateFileMessage
  | groupRequestInvitationNotice
  | groupRequestJoinNotice
  | groupInviteNotice
  | groupAdminChangedNotice
  | groupMemberIncreaseNotice
  | groupMemberDecreaseNotice
  deriving DecidableEq

/-- The discriminants. -/
def PkgType.numbers : List (UInt32 × PkgType) :=
  [(166, .privateMessage), (82, .groupMessage), (141, .tempMessage), (0x210, .event0x210), (0x2DC, .event0x2DC),
   (208, .privateRecordMessage), (529, .privateFileMessage), (525, .groupRequestInvitationNotice),
   (84, .groupRequestJoinNotice), (87, .groupInviteNotice), (44, .groupAdminChangedNotice),
   (33, .groupMemberIncreaseNotice), (34, .groupMemberDecreaseNotice)]

inductive Event0x2DCSubType where
  | groupMuteNotice
  | subType16
  | groupRecallNotice
  | groupEssenceNotice
  | groupGreyTipNotice
  deriving DecidableEq

def Event0x2DCSubType.numbers : List (UInt32 × Event0x2DCSubType) :=
  [(12, .groupMuteNotice), (16, .subType16), (17, .groupRecallNotice), (21, .groupEssenceNotice),
   (20, .groupGreyTipNotice)]

inductive Event0x2DCSubType16Field13 where
  | groupMemberSpecialTitleNotice
  | groupNameChangeNotice
  | groupTodoNotice
  | groupReactionNotice
  deriving DecidableEq

def Event0x2DCSubType16Field13.numbers : List (UInt32 × Event0x2DCSubType16Field13) :=
  [(6, .groupMemberSpecialTitleNotice), (12, .groupNameChangeNotice), (23, .groupTodoNotice),
   (35, .groupReactionNotice)]

inductive Event0x210SubType where
  | selfRenameNotice
  | friendRequestNotice
  | groupMemberEnterNotice
  | friendDeleteOrPinChangedNotice
  | friendRecallNotice
  | subType179
  | servicePinChanged
  | subType226
  | friendPokeNotice
  | groupKickNotice
  deriving DecidableEq

def Event0x210SubType.numbers : List (UInt32 × Event0x210SubType) :=
  [(29, .selfRenameNotice), (35, .friendRequestNotice), (38, .groupMemberEnterNotice),
   (39, .friendDeleteOrPinChangedNotice), (138, .friendRecallNotice), (179, .subType179), (199, .servicePinChanged),
   (226, .subType226), (290, .friendPokeNotice), (212, .groupKickNotice)]

inductive GroupMemberIncreaseEventType where
  | unknown
  | approve
  | invite
  deriving DecidableEq

def GroupMemberIncreaseEventType.numbers : List (UInt32 × GroupMemberIncreaseEventType) :=
  [(0, .unknown), (130, .approve), (131, .invite)]

inductive GroupMemberDecreaseEventType where
  | unknown
  | kickMe
  | disband
  | leave
  | kick
  deriving DecidableEq

def GroupMemberDecreaseEventType.numbers : List (UInt32 × GroupMemberDecreaseEventType) :=
  [(0, .unknown), (3, .kickMe), (129, .disband), (130, .leave), (131, .kick)]

inductive GroupEssenceSetFlag where
  | unknown
  | set
  | unset
  deriving DecidableEq

def GroupEssenceSetFlag.numbers : List (UInt32 × GroupEssenceSetFlag) := [(0, .unknown), (1, .set), (2, .unset)]

/-- `try_from` of an enum with the discriminants `numbers`. -/
def tryFromPrimitive {α : Type} (numbers : List (UInt32 × α)) (n : UInt32) : Option α :=
  (numbers.find? (·.1 = n)).map (·.2)

/-- The `Debug` text of its error. -/
def tryFromPrimitiveError (n : UInt32) : String := "TryFromPrimitiveError \x7b number: " ++ toString n ++ " \x7d"

/-- The events that a push can have besides its chain. -/
inductive ServerEvent where
  | botSysRename (nickname : String)
  | friendSysNew (fromUid fromNickname msg : String)
  | friendSysPoke (operatorUin targetUin : UInt32) (action suffix actionImgUrl : String)
  | friendSysRecall (fromUid : String) (clientSequence time random : UInt32) (tip : String)
  | friendSysRename (uid nickname : String)
  | friendSysRequest (sourceUin : UInt32) (sourceUid message source : String)
  | groupSysAdmin (groupUin : UInt32) (uid : String) (isPromoted : Bool)
  | groupSysDecrease (groupUin : UInt32) (memberUid : String) (operatorUid : Option String)
      (eventType : GroupMemberDecreaseEventType)
  | groupSysEssence (groupUin sequence random : UInt32) (setFlag : GroupEssenceSetFlag) (fromUin operatorUin : UInt32)
  | groupSysIncrease (groupUin : UInt32) (memberUid : String) (invitorUid : Option String)
      (eventType : GroupMemberIncreaseEventType)
  | groupSysInvite (groupUin : UInt32) (invitorUid : String)
  | groupSysMemberEnter (groupUin groupMemberUin styleId : UInt32)
  | groupSysMemberMute (groupUin : UInt32) (operatorUid : Option String) (targetUid : String) (duration : UInt32)
  | groupSysMute (groupUin : UInt32) (operatorUid : Option String) (isMuted : Bool)
  | groupSysNameChange (groupUin : UInt32) (name : String)
  | groupSysPinChange (uid : String) (groupUin : Option UInt32) (isPin : Bool)
  | groupSysPoke (groupUin operatorUin targetUin : UInt32) (action suffix actionImgUrl : String)
  | groupSysReaction (targetGroupUin targetSequence : UInt32) (operatorUid : String) (isAdd : Bool) (code : String)
      (count : UInt32)
  | groupSysRecall (groupUin : UInt32) (authorUid : String) (operatorUid : Option String)
      (sequence time random : UInt32) (tip : String)
  | groupSysRequestInvitation (groupUin : UInt32) (targetUid invitorUid : String)
  | groupSysRequestJoin (targetUid : String) (groupUin : UInt32)
  | groupSysSpecialTitle (targetUin : UInt32) (targetNickname specialTitle specialTitleDetailUrl : String)
      (groupUin : UInt32)
  | groupSysTodo (groupUin : UInt32) (operatorUid : String)

/-- The errors of parsing an event that a push can meet. -/
inductive ParseError where
  | protoParseError (e : DecodeError)
  | otherError (text : String)
  | internalWarning (text : String)
  deriving DecidableEq

/-- What is stored of the bot. -/
structure BotInfo where
  name : String

abbrev Extra := Option (List ServerEvent)

abbrev Parsed (α : Type) := Outcome ParseError α

namespace PushMsg

/-- `T::decode(bytes)?`. -/
def decoded {α : Type} : Except DecodeError α → Parsed α
  | .ok a => .ok a
  | .error e => .err (.protoParseError e)

/-- `extra.as_mut().unwrap().push(event)`. -/
def push (extra : Extra) (event : ServerEvent) : Parsed Extra := do
  let events ← Outcome.expect extra
  .ok (some (events ++ [event]))

def msgContent (packet : PushMsg) : Option Bytes := (packet.message.bind (·.body)).bind (·.msgContent)

def extractStableMsgContent (packet : PushMsg) (errTip : String) : Parsed Bytes :=
  Outcome.okOr (.otherError errTip) packet.msgContent

def extractUnstableMsgContent (packet : PushMsg) (errTip : String) : Parsed Bytes :=
  Outcome.okOr (.internalWarning errTip) packet.msgContent

/-- The group and, after a byte and a length, the message of a 0x2dc notice. -/
def head0x2dc : Cursor ParseError (UInt32 × Bytes) := do
  let groupUin ← PacketReader.u32
  let _ ← PacketReader.u8
  let proto ← PacketReader.readWithLength (PREFIX_U16 ||| PREFIX_LENGTH_ONLY) PacketReader.bytes
  pure (groupUin, proto)

/-- The head extractor of the 0x2dc notices. -/
def extract0x2dcHead {α : Type} (decode : Bytes → Except DecodeError α) (msgContent : Bytes) : Parsed (UInt32 × α) := do
  let (groupUin, proto) ← PacketReader.new msgContent head0x2dc
  let msgBody ← decoded (decode proto)
  .ok (groupUin, msgBody)

def extract0xSubType (packet : PushMsg) : Parsed UInt32 :=
  Outcome.okOr (.otherError "Cannot get sub_type in PushMsg")
    ((packet.message.bind (·.contentHead)).bind (·.subType))

structure PokeArgs where
  action : String
  operatorUin : UInt32
  targetUin : UInt32
  suffix : String
  actionImgUrl : String

def extractPokeInfo (gt : GeneralGrayTipInfo) : PokeArgs :=
  let templates : DashMap String String := DashMap.extend ∅ (gt.msgTemplParam.map fun param => (param.key, param.value))
  { action := ((templates.lookup "action_str").or (templates.lookup "alt_str1")).getD ""
    operatorUin := (parseU32 ((templates.lookup "uin_str1").getD "")).getD 0
    targetUin := (parseU32 ((templates.lookup "uin_str2").getD "")).getD 0
    suffix := (templates.lookup "suffix").getD ""
    actionImgUrl := (templates.lookup "action_img_url").getD "" }

/-! ## Notices of their own type -/

def parseGroupRequestInvitationNotice (x : Decoders) (packet : PushMsg) (extra : Extra) : Parsed Extra := do
  let msgContent ← extractStableMsgContent packet "GroupRequestInvitationNotice missing msg_content"
  let invite ← decoded (x.groupInvitation msgContent)
  if invite.cmd = 87 then
    let info ← Outcome.okOr (.otherError "GroupInvitation missing data") invite.info
    let infoInner ← Outcome.okOr (.otherError "GroupInvitation missing inner") info.inner
    push extra (.groupSysRequestInvitation infoInner.groupUin infoInner.targetUid infoInner.invitorUid)
  else .err (.internalWarning "GroupRequestInvitationNotice unknown cmd")

def parseGroupRequestJoinNotice (x : Decoders) (packet : PushMsg) (extra : Extra) : Parsed Extra := do
  let msgContent ← extractStableMsgContent packet "GroupRequestJoinNotice missing msg_content"
  let join ← decoded (x.groupJoin msgContent)
  push extra (.groupSysRequestJoin join.targetUid join.groupUin)

def parseGroupInviteNotice (x : Decoders) (packet : PushMsg) (extra : Extra) : Parsed Extra := do
  let msgContent ← extractStableMsgContent packet "GroupInviteNotice missing msg_content"
  let invite ← decoded (x.groupInvite msgContent)
  push extra (.groupSysInvite invite.groupUin invite.invitorUid)

def parseGroupAdminChangedNotice (x : Decoders) (packet : PushMsg) (extra : Extra) : Parsed Extra := do
  let msgContent ← extractStableMsgContent packet "GroupAdminChangedNotice missing msg_content"
  let change ← decoded (x.groupAdmin msgContent)
  let body ← Outcome.okOr (.otherError "GroupAdmin missing body") change.body
  let (enabled, uid) ← Outcome.okOr (.otherError "GroupAdmin missing extra")
    ((body.extraEnable.map fun extra => (true, extra.adminUid)).or
      (body.extraDisable.map fun extra => (false, extra.adminUid)))
  push extra (.groupSysAdmin change.groupUin uid enabled)

def invitorUid : Option Bytes → Parsed (Option String)
  | none => .ok none
  | some operator =>
    match Utf8.fromUtf8 operator with
    | some uid => .ok (some uid)
    | none => .err (.otherError ("Failed to parse invitor_uid in GroupChange: " ++ Utf8.error operator))

def parseGroupMemberIncreaseNotice (x : Decoders) (packet : PushMsg) (extra : Extra) : Parsed Extra := do
  let msgContent ← extractStableMsgContent packet "GroupMemberIncreaseNotice missing msg_content"
  let increase ← decoded (x.groupChange msgContent)
  let invitorUid ← invitorUid increase.operator
  push extra (.groupSysIncrease increase.groupUin increase.memberUid invitorUid
    ((tryFromPrimitive GroupMemberIncreaseEventType.numbers increase.decreaseType).getD .unknown))

def parseGroupMemberDecreaseNotice (x : Decoders) (packet : PushMsg) (extra : Extra) : Parsed Extra := do
  let msgContent ← extractStableMsgContent packet "GroupMemberDecreaseNotice missing msg_content"
  let decrease ← decoded (x.groupChange msgContent)
  let eventType := (tryFromPrimitive GroupMemberDecreaseEventType.numbers decrease.decreaseType).getD .unknown
  if decrease.decreaseType = 3 then
    let operator ← Outcome.okOr (.otherError "Cannot get operator in GroupChange") decrease.operator
    let op ← decoded (x.operatorInfo operator)
    push extra (.groupSysDecrease decrease.groupUin decrease.memberUid (op.operatorField1.map (·.operatorUid)) eventType)
  else
    let opUid := decrease.operator.bind Utf8.fromUtf8
    push extra (.groupSysDecrease decrease.groupUin decrease.memberUid opUid eventType)

/-! ## `process_event_0x2dc` -/

def groupMuteNotice (x : Decoders) (packet : PushMsg) (extra : Extra) : Parsed Extra := do
  let msgContent ← extractStableMsgContent packet "0x2dc GroupMuteNotice missing msg_content"
  let mute ← decoded (x.groupMute msgContent)
  let data ← Outcome.okOr (.otherError "GroupMute missing data") mute.data
  let state ← Outcome.okOr (.otherError "GroupMute missing state") data.state
  match state.targetUid with
  | none => push extra (.groupSysMute mute.groupUin mute.operatorUid (state.duration != 0))
  | some targetUid => push extra (.groupSysMemberMute mute.groupUin mute.operatorUid targetUid state.duration)

def groupMemberSpecialTitleNotice (x : Decoders) (groupUin : UInt32) (msgBody : NotifyMessageBody) (extra : Extra) :
    Parsed Extra := do
  let content ← decoded (x.specialTittleNotify msgBody.eventParam)
  match x.captures content.notifyInner with
  | [userInfoJson, medalInfoJson] => do
    let userInfo ← Outcome.okOr (.otherError "Failed to parse special title") (x.userInfo userInfoJson)
    let medalInfo ← Outcome.okOr (.otherError "Failed to parse special title") (x.medalInfo medalInfoJson)
    push extra (.groupSysSpecialTitle content.targetUin userInfo.text medalInfo.text medalInfo.url groupUin)
  | _ => .err (.otherError "Failed to parse special title")

def groupReactionNotice (groupUin : UInt32) (msgBody : NotifyMessageBody) (extra : Extra) : Parsed Extra := do
  let data2 ← Outcome.okOr (.otherError "Missing reaction data_2 in 0x2dc sub type 16 field 13")
    ((msgBody.reaction.bind (·.data)).bind (·.data))
  let data3 ← Outcome.okOr (.otherError "Missing reaction data_3 in 0x2dc sub type 16 field 13") data2.data
  let target ← Outcome.okOr
    (.otherError "Missing target_sequence in reaction in 0x2dc sub type 16 field 13") data2.target
  push extra (.groupSysReaction groupUin target.sequence data3.operatorUid (data3.type == 1) data3.code data3.count)

def subType16 (x : Decoders) (packet : PushMsg) (extra : Extra) : Parsed Extra := do
  let msgContent ← extractUnstableMsgContent packet "0x2dc SubType16 missing msg_content"
  let (groupUin, msgBody) ← extract0x2dcHead x.notifyMessageBody msgContent
  let field13 := msgBody.field13.getD 0
  let ev ← Outcome.okOr
    (.internalWarning ("Failed to parse 0x2dc sub type 16 field 13: No discriminant in enum `Event0x2DCSubType16Field13` matches the value `"
      ++ toString field13 ++ "`"))
    (tryFromPrimitive Event0x2DCSubType16Field13.numbers field13)
  match ev with
  | .groupMemberSpecialTitleNotice => groupMemberSpecialTitleNotice x groupUin msgBody extra
  | .groupNameChangeNotice => do
    let param ← decoded (x.groupNameChange msgBody.eventParam)
    push extra (.groupSysNameChange groupUin param.name)
  | .groupTodoNotice => push extra (.groupSysTodo groupUin msgBody.operatorUid)
  | .groupReactionNotice => groupReactionNotice groupUin msgBody extra

def groupRecallNotice (x : Decoders) (packet : PushMsg) (extra : Extra) : Parsed Extra := do
  let msgContent ← extractStableMsgContent packet "0x2dc GroupRecallNotice missing msg_content"
  let (_, recallNotify) ← extract0x2dcHead x.notifyMessageBody msgContent
  let groupRecall ← Outcome.okOr (.otherError "Missing recall meta in 0x2dc sub type 17") recallNotify.recall
  let tip := (groupRecall.tipInfo.map (·.tip)).getD ""
  let recalled ← Outcome.okOr (.otherError "Missing recall message in 0x2dc sub type 17") groupRecall.recallMessages.head?
  push extra (.groupSysRecall recallNotify.groupUin recalled.authorUid groupRecall.operatorUid recalled.sequence.toUInt32
    recalled.time recalled.random tip)

def groupEssenceNotice (x : Decoders) (packet : PushMsg) (extra : Extra) : Parsed Extra := do
  let msgContent ← extractStableMsgContent packet "0x2dc GroupEssenceNotice missing msg_content"
  let (groupUin, essence) ← extract0x2dcHead x.notifyMessageBody msgContent
  let essenceMsg ← Outcome.okOr (.otherError "Missing essence_message in 0x2dc sub type 21") essence.essenceMessage
  push extra (.groupSysEssence groupUin essenceMsg.msgSequence essenceMsg.random
    ((tryFromPrimitive GroupEssenceSetFlag.numbers essenceMsg.setFlag).getD .unknown)
    essenceMsg.authorUin essenceMsg.operatorUin)

def groupGreyTipNotice (x : Decoders) (packet : PushMsg) (extra : Extra) : Parsed Extra := do
  let msgContent ← extractUnstableMsgContent packet "0x2dc sub type 20 missing msg_content"
  let (groupUin, greyTip) ← extract0x2dcHead x.notifyMessageBody msgContent
  match greyTip.grayTipInfo with
  | some info =>
    if info.busiType = 12 then
      let poke := extractPokeInfo info
      push extra (.groupSysPoke groupUin poke.operatorUin poke.targetUin poke.action poke.suffix poke.actionImgUrl)
    else .ok extra
  | none => .ok extra

def processEvent0x2dc (x : Decoders) (packet : PushMsg) (extra : Extra) : Parsed Extra := do
  let n ← extract0xSubType packet
  let subType ← Outcome.okOr
    (.internalWarning ("receive unknown olpush message 0x2dc sub type: " ++ tryFromPrimitiveError n))
    (tryFromPrimitive Event0x2DCSubType.numbers n)
  match subType with
  | .groupMuteNotice => groupMuteNotice x packet extra
  | .subType16 => subType16 x packet extra
  | .groupRecallNotice => groupRecallNotice x packet extra
  | .groupEssenceNotice => groupEssenceNotice x packet extra
  | .groupGreyTipNotice => groupGreyTipNotice x packet extra

/-! ## `process_event_0x210` -/

def selfRenameNotice (x : Decoders) (packet : PushMsg) (extra : Extra) : Parsed (Extra × BotInfo) := do
  let msgContent ← extractStableMsgContent packet "0x210 SelfRenameNotice missing msg_content"
  let notify ← decoded (x.selfRenameNotify msgContent)
  let body ← Outcome.okOr (.otherError "Missing body in 0x210 sub type 29") notify.body
  let renameData ← Outcome.okOr (.otherError "Missing rename_data in 0x210 sub type 29") body.renameData
  let extra ← push extra (.botSysRename renameData.nickName)
  .ok (extra, { name := renameData.nickName })

def friendRequestNotice (x : Decoders) (packet : PushMsg) (extra : Extra) : Parsed Extra := do
  let msgContent ← Outcome.okOr (.otherError "Missing msg_content in Event0x210SubType::FriendRecallNotice")
    packet.msgContent
  let responseHead ← Outcome.okOr (.otherError "Missing response_head in Event0x210SubType::FriendRecallNotice")
    (packet.message.bind (·.responseHead))
  let request ← decoded (x.friendRequest msgContent)
  let info ← Outcome.okOr (.otherError "Missing friend request info in 0x210 sub type 35") request.info
  push extra (.friendSysRequest responseHead.fromUin info.sourceUid info.message info.source)

def groupMemberEnterNotice (x : Decoders) (packet : PushMsg) (extra : Extra) : Parsed Extra := do
  let msgContent ← extractUnstableMsgContent packet "0x210 GroupMemberEnterNotice missing msg_content"
  let notify ← decoded (x.groupMemberEnterNotify msgContent)
  let body ← Outcome.okOr (.internalWarning "Missing body in 0x210 sub type 38") notify.body
  let info ← Outcome.okOr (.internalWarning "Missing info in 0x210 sub type 38") body.info
  let detail ← Outcome.okOr (.internalWarning "Missing detail in 0x210 sub type 38") info.detail
  let style ← Outcome.okOr (.internalWarning "Missing style in 0x210 sub type 38") detail.style
  push extra (.groupSysMemberEnter detail.groupId detail.groupMemberUin style.styleId)

def friendDeleteOrPinChangedNotice (x : Decoders) (packet : PushMsg) (extra : Extra) : Parsed Extra := do
  let msgContent ← extractStableMsgContent packet "0x210 FriendDeleteOrPinChangedNotice missing msg_content"
  let nt ← decoded (x.event0x210Sub39Notify msgContent)
  let ntBody ← Outcome.okOr (.otherError "Missing body in 0x210 sub type 39") nt.body
  if ntBody.type = 7 then
    let pc ← Outcome.okOr (.otherError "Missing pin_changed in 0x210 sub type 39 type 7") ntBody.pinChanged
    let body ← Outcome.okOr (.otherError "Missing pin_changed body") pc.body
    push extra (.groupSysPinChange body.uid body.groupUin (body.info.any fun info => !info.timestamp.isEmpty))
  else if ntBody.type = 20 then
    let data ← Outcome.okOr (.otherError "Missing data in 0x210 sub type 39 type 20") ntBody.data
    let body ← Outcome.okOr (.otherError "Missing data.rename_data") data.renameData
    push extra (.friendSysRename data.uid body.nickName)
  else .err (.otherError "Unknown 0x210 sub type 39 type")

def friendRecallNotice (x : Decoders) (packet : PushMsg) (extra : Extra) : Parsed Extra := do
  let msgContent ← Outcome.okOr (.otherError "Missing msg_content in Event0x210SubType::FriendRecallNotice")
    packet.msgContent
  let responseHead ← Outcome.okOr (.otherError "Missing response_head in Event0x210SubType::FriendRecallNotice")
    (packet.message.bind (·.responseHead))
  let friendRecall ← decoded (x.friendRecall msgContent)
  let info ← Outcome.okOr (.otherError "Missing friend request info in 0x210 sub type 138") friendRecall.info
  push extra (.friendSysRecall (responseHead.fromUid.getD "") info.sequence info.time info.random
    ((info.tipInfo.bind (·.tip)).getD ""))

def friendPokeNotice (x : Decoders) (packet : PushMsg) (extra : Extra) : Parsed Extra := do
  let msgContent ← extractStableMsgContent packet "0x210 FriendPokeNotice missing msg_content"
  let greyTip ← decoded (x.generalGrayTipInfo msgContent)
  if greyTip.busiType ≠ 12 then .ok extra
  else
    let poke := extractPokeInfo greyTip
    push extra (.friendSysPoke poke.operatorUin poke.targetUin poke.action poke.suffix poke.actionImgUrl)

/-- Sub types 179 and 226. -/
def newFriend (x : Decoders) (packet : PushMsg) (extra : Extra) : Parsed Extra := do
  let msgContent ← extractUnstableMsgContent packet "0x210 SubType179 missing msg_content"
  let new ← decoded (x.newFriend msgContent)
  let newFriend ← Outcome.okOr (.otherError "Missing info in 0x210 sub type 179") new.info
  push extra (.friendSysNew newFriend.uid newFriend.nickName newFriend.message)

def processEvent0x210 (x : Decoders) (info : BotInfo) (packet : PushMsg) (extra : Extra) : Parsed (Extra × BotInfo) := do
  let n ← extract0xSubType packet
  let subType ← Outcome.okOr
    (.internalWarning ("receive unknown olpush message 0x210 sub type: " ++ tryFromPrimitiveError n))
    (tryFromPrimitive Event0x210SubType.numbers n)
  let same (extra : Extra) : Extra × BotInfo := (extra, info)
  match subType with
  | .selfRenameNotice => selfRenameNotice x packet extra
  | .friendRequestNotice => same <$> friendRequestNotice x packet extra
  | .groupMemberEnterNotice => same <$> groupMemberEnterNotice x packet extra
  | .friendDeleteOrPinChangedNotice => same <$> friendDeleteOrPinChangedNotice x packet extra
  | .friendRecallNotice => same <$> friendRecallNotice x packet extra
  | .friendPokeNotice => same <$> friendPokeNotice x packet extra
  | .subType179 | .subType226 => same <$> newFriend x packet extra
  | .servicePinChanged => .err (.internalWarning "TODO: handle 0x210 sub type ServicePinChanged")
  | .groupKickNotice => .err (.internalWarning "TODO: handle 0x210 sub type GroupKickNotice")

/-! ## `PushMessageEvent::parse` -/

/-- A `PushMessageEvent`'s chain and the events that came with it. -/
structure PushMessageEvent where
  chain : Option MessageChain
  extra : Extra

def parseMessage (x : Decoders) (strategy : FetchGroupMemberStrategy) (packet : PushMsg) : Parsed PushMessageEvent := do
  let message ← Outcome.okOr (.otherError "PushMsgBody is None") packet.message
  let chain ← (MessagePacker.parseChain x strategy message).mapErr fun e => .otherError ("parse_chain failed: " ++ e)
  .ok { chain := some chain, extra := none }

def parseFile (x : Decoders) (strategy : FetchGroupMemberStrategy) (packet : PushMsg) : Parsed PushMessageEvent := do
  let message ← Outcome.okOr (.otherError "PushMsgBody is None") packet.message
  let chain ← (MessagePacker.parsePrivateFile x strategy message).mapErr fun e =>
    .otherError ("parse_file_chain failed: " ++ e)
  .ok { chain := some chain, extra := some [] }

/-- `parse` of a packet that is decoded: what it answers, and the bot's
info as it leaves it. -/
def parse (x : Decoders) (strategy : FetchGroupMemberStrategy) (info : BotInfo) (packet : PushMsg) :
    Parsed (PushMessageEvent × BotInfo) := do
  let contentHead ← Outcome.okOr (.otherError "Cannot get typ in PushMsg") (packet.message.bind (·.contentHead))
  let packetType ← Outcome.okOr
    (.internalWarning ("receive unknown olpush message type: " ++ toString contentHead.type))
    (tryFromPrimitive PkgType.numbers contentHead.type)
  let notice (extra : Extra) : PushMessageEvent × BotInfo := ({ chain := none, extra }, info)
  match packetType with
  | .privateMessage | .groupMessage | .tempMessage | .privateRecordMessage =>
    (fun event => (event, info)) <$> parseMessage x strategy packet
  | .privateFileMessage => (fun event => (event, info)) <$> parseFile x strategy packet
  | .groupRequestInvitationNotice => notice <$> parseGroupRequestInvitationNotice x packet (some [])
  | .groupRequestJoinNotice => notice <$> parseGroupRequestJoinNotice x packet (some [])
  | .groupInviteNotice => notice <$> parseGroupInviteNotice x packet (some [])
  | .groupAdminChangedNotice => notice <$> parseGroupAdminChangedNotice x packet (some [])
  | .groupMemberIncreaseNotice => notice <$> parseGroupMemberIncreaseNotice x packet (some [])
  | .groupMemberDecreaseNotice => notice <$> parseGroupMemberDecreaseNotice x packet (some [])
  | .event0x2DC => notice <$> processEvent0x2dc x packet (some [])
  | .event0x210 => (fun r => ({ chain := none, extra := r.1 }, r.2)) <$> processEvent0x210 x info packet (some [])

end PushMsg

end Mania
