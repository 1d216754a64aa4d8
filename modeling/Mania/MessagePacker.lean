/-
`parse_chain` and `parse_private_file` of `message/packer.rs`: the message
chain of a push, with the entities its elements unpack to.

Both answer a `Result<MessageChain, String>`. What they take from the
context is how group members are fetched. A chain's `elements` stay empty
here.
-/
import Mania.Entity

namespace Mania

inductive FetchGroupMemberStrategy where
  | simple
  | full
  deriving DecidableEq

structure GroupMessageUniqueElem where
  groupUin : UInt32
  groupMemberInfo : Option BotGroupMember

structure FriendMessageUniqueElem where
  friendInfo : Option BotFriend
  clientSequence : UInt32

inductive MessageType where
  | friend (inner : FriendMessageUniqueElem)
  | group (inner : GroupMessageUniqueElem)
  | temp
  | none

structure MessageChain where
  typ : MessageType
  uid : String
  selfUid : String
  targetUin : UInt32
  friendUin : UInt32
  messageId : UInt64
  time : DateTime
  sequence : UInt32
  entities : List Entity

namespace MessagePacker

/-- `elems.iter().filter_map(unpack)`. -/
def filterMap {ε : Type} (unpack : Elem → Unpack Entity) : List Elem → Outcome ε (List Entity)
  | [] => .ok []
  | elem :: elems =>
    match unpack elem with
    | .ok entity => do
      let entities ← filterMap unpack elems
      .ok (entity :: entities)
    | .err () => filterMap unpack elems
    | .panic => .panic

def richTextElems (pushMsgBody : PushMsgBody) : List Elem :=
  ((pushMsgBody.body.bind (·.richText)).map (·.elems)).getD []

/-- The extra entities of a group message: the last of each kind. -/
def foldExtra (entities : List Entity) : Option ExtraGeneralFlagsEntity × Option ExtraInfoEntity :=
  entities.foldl (fun acc e =>
    match e with
    | .extraGeneralFlags inner => (some inner, acc.2)
    | .extraInfo inner => (acc.1, some inner)
    | _ => acc) (none, none)

def groupMemberInfo (strategy : FetchGroupMemberStrategy) (responseHead : ResponseHead) (grp : ResponseGrp)
    (elems : List Elem) : Outcome String (Option BotGroupMember) :=
  match strategy with
  | .simple => do
    let (exGf, exInfo) := foldExtra (← filterMap Entity.unpackExtraElement elems)
    .ok (some {
      uin := responseHead.fromUin
      uid := responseHead.fromUid.getD ""
      permission := (exGf.map (·.permission)).getD .member
      groupLevel := (exGf.map (·.newGroupLevel)).getD 0
      memberCard := grp.groupCard
      specialTitle := exInfo.bind (·.groupMemberSpecialTitle)
      memberName := none
      joinTime := none
      lastMsgTime := none
      shutUpTimestamp := none })
  | .full => .ok none

def parseChain (x : Decoders) (strategy : FetchGroupMemberStrategy) (pushMsgBody : PushMsgBody) :
    Outcome String MessageChain := do
  let responseHead ← Outcome.okOr "missing ResponseHead" pushMsgBody.responseHead
  let contentHead ← Outcome.okOr "missing ContentHead" pushMsgBody.contentHead
  let entities ← filterMap (Entity.unpackElement x) (richTextElems pushMsgBody)
  match responseHead.grp with
  | some grp => do
    let memberInfo ← groupMemberInfo strategy responseHead grp (richTextElems pushMsgBody)
    let time ← Outcome.okOr "failed to parse timestamp"
      (DateTime.fromTimestamp (contentHead.timeStamp.getD 0).toNat)
    .ok {
      typ := .group { groupUin := (grp.groupCode.getD 0).toUInt32, groupMemberInfo := memberInfo }
      uid := ""
      selfUid := ""
      targetUin := 0
      friendUin := responseHead.fromUin
      messageId := contentHead.msgUid.getD 0
      time
      sequence := contentHead.sequence.getD 0
      entities }
  | none => do
    let time ← Outcome.okOr "failed to parse timestamp"
      (DateTime.fromTimestamp (contentHead.timeStamp.getD 0).toNat)
    .ok {
      typ := if contentHead.type = 141 then .temp
        else .friend { friendInfo := none, clientSequence := contentHead.sequence.getD 0 }
      uid := responseHead.fromUid.getD ""
      selfUid := responseHead.toUid.getD ""
      targetUin := responseHead.toUin
      friendUin := responseHead.fromUin
      messageId := contentHead.msgUid.getD 0
      time
      sequence := contentHead.ntMsgSeq.getD 0
      entities }

def parsePrivateFile (x : Decoders) (strategy : FetchGroupMemberStrategy) (body : PushMsgBody) :
    Outcome String MessageChain := do
  let msgContent ← Outcome.okOr "missing msg_content" (body.body.bind (·.msgContent))
  let baseChain ← parseChain x strategy body
  let extra ← match x.fileExtra msgContent with
    | .ok extra => .ok extra
    | .error e => .err ("failed to decode FileExtra: " ++ e.debug)
  let file ← Outcome.okOr "missing file" extra.file
  match file.fileSize, file.fileName, file.fileMd5, file.fileUuid, file.fileHash with
  | some fileSize, some fileName, some fileMd5, some fileUuid, some fileHash =>
    let entity : FileEntity := {
      fileSize := fileSize.toUInt64
      fileName
      fileMd5
      extra := some (.c2c (some fileUuid) (some fileHash)) }
    .ok { baseChain with entities := baseChain.entities ++ [.file entity] }
  | _, _, _, _, _ => .err "missing file fields"

end MessagePacker

end Mania
