/-
When `PushMessageEvent::parse` panics.

A push with a chain breaks on an element that breaks; a notice of type
0x2DC breaks on a head that is shorter than it says. Everything else is
refused with an error. `robust` says so of a packet, and is exactly when
`parse` returns.
-/
import Mania.EntityFacts
import Mania.PushMsg

namespace Mania

open Outcome PacketReader

/-! ## Chains -/

namespace MessagePacker

variable (x : Decoders)

theorem filterMap_eq_panic {unpack : Elem → Unpack Entity} {elems : List Elem} :
    (filterMap unpack elems : Outcome String _) = .panic ↔ ∃ elem ∈ elems, unpack elem = .panic := by
  induction elems with
  | nil => simp [filterMap]
  | cons elem elems ih =>
    rw [filterMap]
    cases h : unpack elem with
    | ok entity => simp [h, bind_eq_panic, ih]
    | err e => simp [h, ih]
    | panic => simp [h]

theorem groupMemberInfo_ne_panic (strategy : FetchGroupMemberStrategy) (responseHead : ResponseHead) (grp : ResponseGrp)
    (elems : List Elem) : groupMemberInfo strategy responseHead grp elems ≠ .panic := by
  cases strategy with
  | full => simp [groupMemberInfo]
  | simple =>
    have h : (filterMap Entity.unpackExtraElement elems : Outcome String _) ≠ .panic := by
      rw [ne_eq, filterMap_eq_panic]
      rintro ⟨elem, -, hpanic⟩
      exact unpackExtraElement_ne_panic elem hpanic
    simp [groupMemberInfo, bind_eq_panic, h]

theorem parseChain_eq_panic {strategy : FetchGroupMemberStrategy} {pushMsgBody : PushMsgBody} :
    parseChain x strategy pushMsgBody = .panic ↔ pushMsgBody.responseHead.isSome ∧ pushMsgBody.contentHead.isSome ∧
      ∃ elem ∈ richTextElems pushMsgBody, elem.breaks x = true := by
  obtain ⟨responseHead, contentHead, body⟩ := pushMsgBody
  unfold parseChain
  cases responseHead with
  | none => simp
  | some responseHead =>
    cases contentHead with
    | none => simp
    | some contentHead =>
      simp only [okOr_some, ok_bind, Option.isSome_some, true_and]
      rw [bind_eq_panic_left, filterMap_eq_panic]
      · simp only [unpackElement_eq_panic]
      · intro entities
        cases responseHead.grp with
        | none => simp [bind_eq_panic]
        | some grp => simp [bind_eq_panic, groupMemberInfo_ne_panic]

theorem parsePrivateFile_eq_panic {strategy : FetchGroupMemberStrategy} {body : PushMsgBody} :
    parsePrivateFile x strategy body = .panic ↔
      (body.body.bind (·.msgContent)).isSome ∧ parseChain x strategy body = .panic := by
  unfold parsePrivateFile
  cases body.body.bind (·.msgContent) with
  | none => simp
  | some msgContent =>
    simp only [okOr_some, ok_bind, Option.isSome_some, true_and]
    rw [bind_eq_panic_left]
    intro baseChain
    cases x.fileExtra msgContent with
    | error e => simp
    | ok extra =>
      refine bind_ne_panic (okOr_ne_panic _ _) fun file => ?_
      split <;> simp

end MessagePacker

/-! ## Notices -/

/-- The content of the notice starts with a head. -/
def Event0x2DCSubType.hasHead : Event0x2DCSubType → Bool
  | .groupMuteNotice => false
  | .subType16 | .groupRecallNotice | .groupEssenceNotice | .groupGreyTipNotice => true

namespace PushMsg

variable (x : Decoders) (packet : PushMsg)

@[simp] theorem decoded_ne_panic {α : Type} (r : Except DecodeError α) : decoded r ≠ .panic := by
  cases r <;> simp [decoded]

@[simp] theorem push_some_ne_panic (events : List ServerEvent) (event : ServerEvent) :
    push (some events) event ≠ .panic := by
  simp [push]

variable (events : List ServerEvent)

/-- A notice that decodes its content and goes on. -/
theorem stable_ne_panic {α β : Type} {errTip : String} {decode : Bytes → Except DecodeError α} {f : α → Parsed β}
    (h : ∀ a, f a ≠ .panic) :
    (do
      let msgContent ← extractStableMsgContent packet errTip
      let a ← decoded (decode msgContent)
      f a) ≠ .panic :=
  bind_ne_panic (okOr_ne_panic _ _) fun _ => bind_ne_panic (decoded_ne_panic _) h

/-- The same for a warning. -/
theorem unstable_ne_panic {α β : Type} {errTip : String} {decode : Bytes → Except DecodeError α} {f : α → Parsed β}
    (h : ∀ a, f a ≠ .panic) :
    (do
      let msgContent ← extractUnstableMsgContent packet errTip
      let a ← decoded (decode msgContent)
      f a) ≠ .panic :=
  bind_ne_panic (okOr_ne_panic _ _) fun _ => bind_ne_panic (decoded_ne_panic _) h

theorem parseGroupRequestInvitationNotice_ne_panic :
    parseGroupRequestInvitationNotice x packet (some events) ≠ .panic := by
  refine stable_ne_panic packet fun invite => ?_
  split
  · exact bind_ne_panic (okOr_ne_panic _ _) fun _ => bind_ne_panic (okOr_ne_panic _ _) fun _ => push_some_ne_panic _ _
  · simp

theorem parseGroupRequestJoinNotice_ne_panic : parseGroupRequestJoinNotice x packet (some events) ≠ .panic :=
  stable_ne_panic packet fun _ => push_some_ne_panic _ _

theorem parseGroupInviteNotice_ne_panic : parseGroupInviteNotice x packet (some events) ≠ .panic :=
  stable_ne_panic packet fun _ => push_some_ne_panic _ _

theorem parseGroupAdminChangedNotice_ne_panic : parseGroupAdminChangedNotice x packet (some events) ≠ .panic :=
  stable_ne_panic packet fun _ => bind_ne_panic (okOr_ne_panic _ _) fun _ =>
    bind_ne_panic (okOr_ne_panic _ _) fun _ => push_some_ne_panic _ _

theorem invitorUid_ne_panic (operator : Option Bytes) : invitorUid operator ≠ .panic := by
  unfold invitorUid
  split
  · simp
  · split <;> simp

theorem parseGroupMemberIncreaseNotice_ne_panic : parseGroupMemberIncreaseNotice x packet (some events) ≠ .panic :=
  stable_ne_panic packet fun _ => bind_ne_panic (invitorUid_ne_panic _) fun _ => push_some_ne_panic _ _

theorem parseGroupMemberDecreaseNotice_ne_panic : parseGroupMemberDecreaseNotice x packet (some events) ≠ .panic := by
  refine stable_ne_panic packet fun decrease => ?_
  split
  · exact bind_ne_panic (okOr_ne_panic _ _) fun _ => bind_ne_panic (decoded_ne_panic _) fun _ => push_some_ne_panic _ _
  · exact push_some_ne_panic _ _

/-! ## 0x210 -/

theorem selfRenameNotice_ne_panic : selfRenameNotice x packet (some events) ≠ .panic :=
  stable_ne_panic packet fun _ => bind_ne_panic (okOr_ne_panic _ _) fun _ => bind_ne_panic (okOr_ne_panic _ _) fun _ =>
    bind_ne_panic (push_some_ne_panic _ _) fun _ => nofun

theorem friendRequestNotice_ne_panic : friendRequestNotice x packet (some events) ≠ .panic :=
  bind_ne_panic (okOr_ne_panic _ _) fun _ => bind_ne_panic (okOr_ne_panic _ _) fun _ =>
    bind_ne_panic (decoded_ne_panic _) fun _ => bind_ne_panic (okOr_ne_panic _ _) fun _ => push_some_ne_panic _ _

theorem groupMemberEnterNotice_ne_panic : groupMemberEnterNotice x packet (some events) ≠ .panic :=
  unstable_ne_panic packet fun _ => bind_ne_panic (okOr_ne_panic _ _) fun _ => bind_ne_panic (okOr_ne_panic _ _) fun _ =>
    bind_ne_panic (okOr_ne_panic _ _) fun _ => bind_ne_panic (okOr_ne_panic _ _) fun _ => push_some_ne_panic _ _

theorem friendDeleteOrPinChangedNotice_ne_panic : friendDeleteOrPinChangedNotice x packet (some events) ≠ .panic := by
  refine stable_ne_panic packet fun nt => bind_ne_panic (okOr_ne_panic _ _) fun ntBody => ?_
  split
  · exact bind_ne_panic (okOr_ne_panic _ _) fun _ => bind_ne_panic (okOr_ne_panic _ _) fun _ => push_some_ne_panic _ _
  · split
    · exact bind_ne_panic (okOr_ne_panic _ _) fun _ => bind_ne_panic (okOr_ne_panic _ _) fun _ =>
        push_some_ne_panic _ _
    · simp

theorem friendRecallNotice_ne_panic : friendRecallNotice x packet (some events) ≠ .panic :=
  bind_ne_panic (okOr_ne_panic _ _) fun _ => bind_ne_panic (okOr_ne_panic _ _) fun _ =>
    bind_ne_panic (decoded_ne_panic _) fun _ => bind_ne_panic (okOr_ne_panic _ _) fun _ => push_some_ne_panic _ _

theorem friendPokeNotice_ne_panic : friendPokeNotice x packet (some events) ≠ .panic := by
  refine stable_ne_panic packet fun greyTip => ?_
  split
  · simp
  · exact push_some_ne_panic _ _

theorem newFriend_ne_panic : newFriend x packet (some events) ≠ .panic :=
  unstable_ne_panic packet fun _ => bind_ne_panic (okOr_ne_panic _ _) fun _ => push_some_ne_panic _ _

theorem processEvent0x210_ne_panic (info : BotInfo) : processEvent0x210 x info packet (some events) ≠ .panic := by
  refine bind_ne_panic (okOr_ne_panic _ _) fun n => bind_ne_panic (okOr_ne_panic _ _) fun subType => ?_
  cases subType with
  | selfRenameNotice => exact selfRenameNotice_ne_panic x packet events
  | friendRequestNotice => exact mt map_eq_panic.mp (friendRequestNotice_ne_panic x packet events)
  | groupMemberEnterNotice => exact mt map_eq_panic.mp (groupMemberEnterNotice_ne_panic x packet events)
  | friendDeleteOrPinChangedNotice => exact mt map_eq_panic.mp (friendDeleteOrPinChangedNotice_ne_panic x packet events)
  | friendRecallNotice => exact mt map_eq_panic.mp (friendRecallNotice_ne_panic x packet events)
  | friendPokeNotice => exact mt map_eq_panic.mp (friendPokeNotice_ne_panic x packet events)
  | subType179 | subType226 => exact mt map_eq_panic.mp (newFriend_ne_panic x packet events)
  | servicePinChanged | groupKickNotice => nofun

/-! ## 0x2dc -/

theorem head0x2dc_new (bs : Bytes) : PacketReader.new bs head0x2dc =
    if lengthed (bs.drop 5) then .ok (Bytes.ofBE32 (bs.take 4), behindLength (bs.drop 5)) else .panic := by
  have hdrop : bs.drop 5 = (bs.drop 4).drop 1 := by rw [List.drop_drop]
  unfold PacketReader.new head0x2dc
  rw [StateT.run_bind, u32_run, hdrop]
  by_cases h4 : 4 ≤ bs.length
  · rw [if_pos h4, ok_bind]
    cases bs.drop 4 with
    | nil => rfl
    | cons b rest =>
      show Prod.fst <$> (StateT.run (readWithLength (PREFIX_U16 ||| PREFIX_LENGTH_ONLY) PacketReader.bytes) rest >>= _) = _
      rw [readWithLength_u16_run, List.drop_one, List.tail_cons]
      split <;> rfl
  · have hnil : bs.drop 4 = [] := List.drop_eq_nil_of_le (by omega)
    rw [if_neg h4, hnil]
    rfl

/-- A head and a body behind it that fits its length. -/
theorem head0x2dc_written (groupUin : UInt32) (b : UInt8) {body : Bytes} (h : body.length < 65536) :
    PacketReader.new (Bytes.be32 groupUin ++ b :: Bytes.be16 (UInt16.ofNat body.length) ++ body) head0x2dc =
      .ok (groupUin, body) := by
  have hdrop : (Bytes.be32 groupUin ++ b :: Bytes.be16 (UInt16.ofNat body.length) ++ body).drop 5 =
      Bytes.be16 (UInt16.ofNat body.length) ++ body := rfl
  have htake : (Bytes.be32 groupUin ++ b :: Bytes.be16 (UInt16.ofNat body.length) ++ body).take 4 =
      Bytes.be32 groupUin := rfl
  have hlength : (UInt16.ofNat body.length).toNat = body.length := by
    rw [UInt16.toNat_ofNat']
    omega
  have hlengthed : lengthed (Bytes.be16 (UInt16.ofNat body.length) ++ body) = true := by
    rw [lengthed, lengthOf_be16, hlength]
    simp
  have hbehind : behindLength (Bytes.be16 (UInt16.ofNat body.length) ++ body) = body := by
    rw [behindLength, lengthOf_be16, hlength, List.drop_left' (Bytes.be16_length _), List.take_length]
  rw [head0x2dc_new, hdrop, if_pos hlengthed, hbehind, htake, Bytes.ofBE32_be32]

theorem extract0x2dcHead_eq_panic {α : Type} {decode : Bytes → Except DecodeError α} {bs : Bytes} :
    extract0x2dcHead decode bs = .panic ↔ lengthed (bs.drop 5) = false := by
  unfold extract0x2dcHead
  rw [head0x2dc_new]
  cases lengthed (bs.drop 5) with
  | false => simp
  | true => simp [bind_eq_panic]

/-- The content of a notice with a head is long enough for it. -/
def headed : Bool := packet.msgContent.all fun content => lengthed (content.drop 5)

/-- A notice that takes its content, reads the head and goes on. -/
theorem head_eq_panic {α β : Type} {e : ParseError} {decode : Bytes → Except DecodeError α} {f : UInt32 × α → Parsed β}
    (h : ∀ r, f r ≠ .panic) :
    (do
      let content ← okOr e packet.msgContent
      let r ← extract0x2dcHead decode content
      f r) = .panic ↔ packet.headed = false := by
  unfold headed
  cases packet.msgContent with
  | none => simp
  | some content =>
    rw [okOr_some, ok_bind, bind_eq_panic_left h, extract0x2dcHead_eq_panic]
    simp

theorem groupMuteNotice_ne_panic : groupMuteNotice x packet (some events) ≠ .panic := by
  refine stable_ne_panic packet fun mute => bind_ne_panic (okOr_ne_panic _ _) fun _ =>
    bind_ne_panic (okOr_ne_panic _ _) fun state => ?_
  split <;> exact push_some_ne_panic _ _

theorem groupMemberSpecialTitleNotice_ne_panic (groupUin : UInt32) (msgBody : NotifyMessageBody) :
    groupMemberSpecialTitleNotice x groupUin msgBody (some events) ≠ .panic := by
  refine bind_ne_panic (decoded_ne_panic _) fun content => ?_
  split
  · exact bind_ne_panic (okOr_ne_panic _ _) fun _ => bind_ne_panic (okOr_ne_panic _ _) fun _ => push_some_ne_panic _ _
  · simp

theorem groupReactionNotice_ne_panic (groupUin : UInt32) (msgBody : NotifyMessageBody) :
    groupReactionNotice groupUin msgBody (some events) ≠ .panic :=
  bind_ne_panic (okOr_ne_panic _ _) fun _ => bind_ne_panic (okOr_ne_panic _ _) fun _ =>
    bind_ne_panic (okOr_ne_panic _ _) fun _ => push_some_ne_panic _ _

theorem subType16_eq_panic : subType16 x packet (some events) = .panic ↔ packet.headed = false := by
  refine head_eq_panic packet fun r => bind_ne_panic (okOr_ne_panic _ _) fun ev => ?_
  cases ev with
  | groupMemberSpecialTitleNotice => exact groupMemberSpecialTitleNotice_ne_panic x events _ _
  | groupNameChangeNotice => exact bind_ne_panic (decoded_ne_panic _) fun _ => push_some_ne_panic _ _
  | groupTodoNotice => exact push_some_ne_panic _ _
  | groupReactionNotice => exact groupReactionNotice_ne_panic events _ _

theorem groupRecallNotice_eq_panic : groupRecallNotice x packet (some events) = .panic ↔ packet.headed = false :=
  head_eq_panic packet fun _ => bind_ne_panic (okOr_ne_panic _ _) fun _ => bind_ne_panic (okOr_ne_panic _ _) fun _ =>
    push_some_ne_panic _ _

theorem groupEssenceNotice_eq_panic : groupEssenceNotice x packet (some events) = .panic ↔ packet.headed = false :=
  head_eq_panic packet fun _ => bind_ne_panic (okOr_ne_panic _ _) fun _ => push_some_ne_panic _ _

theorem groupGreyTipNotice_eq_panic : groupGreyTipNotice x packet (some events) = .panic ↔ packet.headed = false := by
  refine head_eq_panic packet fun r => ?_
  obtain ⟨groupUin, greyTip⟩ := r
  cases h : greyTip.grayTipInfo with
  | none => simp [h]
  | some info =>
    simp only [h]
    split
    · exact push_some_ne_panic _ _
    · simp

/-- The sub types of a 0x2dc notice whose content starts with a head. -/
def headSubType (n : UInt32) : Bool := (tryFromPrimitive Event0x2DCSubType.numbers n).any Event0x2DCSubType.hasHead

theorem processEvent0x2dc_eq_panic : processEvent0x2dc x packet (some events) = .panic ↔
    ((packet.message.bind (·.contentHead)).bind (·.subType)).any headSubType = true ∧ packet.headed = false := by
  unfold processEvent0x2dc extract0xSubType
  cases (packet.message.bind (·.contentHead)).bind (·.subType) with
  | none => simp
  | some n =>
    simp only [okOr_some, ok_bind, Option.any_some, headSubType]
    cases tryFromPrimitive Event0x2DCSubType.numbers n with
    | none => simp
    | some subType =>
      simp only [okOr_some, ok_bind, Option.any_some]
      cases subType with
      | groupMuteNotice => simpa [Event0x2DCSubType.hasHead] using groupMuteNotice_ne_panic x packet events
      | subType16 => simpa [Event0x2DCSubType.hasHead] using subType16_eq_panic x packet events
      | groupRecallNotice => simpa [Event0x2DCSubType.hasHead] using groupRecallNotice_eq_panic x packet events
      | groupEssenceNotice => simpa [Event0x2DCSubType.hasHead] using groupEssenceNotice_eq_panic x packet events
      | groupGreyTipNotice => simpa [Event0x2DCSubType.hasHead] using groupGreyTipNotice_eq_panic x packet events

/-! ## A packet -/

/-- Whether the chain of a message can be parsed: nothing is parsed without
a response head, and every element is unpacked otherwise. -/
def chainRobust (message : PushMsgBody) : Bool :=
  message.responseHead.isNone || (MessagePacker.richTextElems message).all fun elem => !elem.breaks x

/-- What of a packet has to be well formed, by its type. -/
def robustAs (message : PushMsgBody) (contentHead : ContentHead) : PkgType → Bool
  | .privateMessage | .groupMessage | .tempMessage | .privateRecordMessage => chainRobust x message
  | .privateFileMessage => packet.msgContent.isNone || chainRobust x message
  | .event0x2DC => !contentHead.subType.any headSubType || packet.headed
  | _ => true

/-- The packets that `parse` does not panic on. -/
def robust : Bool :=
  packet.message.all fun message => message.contentHead.all fun contentHead =>
    (tryFromPrimitive PkgType.numbers contentHead.type).all (packet.robustAs x message contentHead)

variable {packet}

theorem parseMessage_eq_panic {strategy : FetchGroupMemberStrategy} {message : PushMsgBody}
    (h : packet.message = some message) (hhead : message.contentHead.isSome) :
    parseMessage x strategy packet = .panic ↔ chainRobust x message = false := by
  unfold parseMessage
  rw [h, okOr_some, ok_bind, bind_eq_panic_left fun _ => by nofun, mapErr_eq_panic, MessagePacker.parseChain_eq_panic]
  simp [chainRobust, hhead]

theorem parseFile_eq_panic {strategy : FetchGroupMemberStrategy} {message : PushMsgBody} (h : packet.message = some message)
    (hhead : message.contentHead.isSome) :
    parseFile x strategy packet = .panic ↔ (packet.msgContent.isNone || chainRobust x message) = false := by
  unfold parseFile
  rw [h, okOr_some, ok_bind, bind_eq_panic_left fun _ => by nofun, mapErr_eq_panic,
    MessagePacker.parsePrivateFile_eq_panic, MessagePacker.parseChain_eq_panic]
  simp [chainRobust, hhead, msgContent, h]

theorem parse_eq_panic_iff (strategy : FetchGroupMemberStrategy) (info : BotInfo) (packet : PushMsg) :
    parse x strategy info packet = .panic ↔ packet.robust x = false := by
  unfold parse robust
  cases hmessage : packet.message with
  | none => simp
  | some message =>
    cases hhead : message.contentHead with
    | none => simp [hhead]
    | some contentHead =>
      simp only [Option.bind_some, hhead, okOr_some, ok_bind, Option.all_some]
      cases tryFromPrimitive PkgType.numbers contentHead.type with
      | none => simp
      | some packetType =>
        have hsome : message.contentHead.isSome := by simp [hhead]
        have hsubType : (packet.message.bind (·.contentHead)).bind (·.subType) = contentHead.subType := by
          simp [hmessage, hhead]
        simp only [okOr_some, ok_bind, Option.all_some]
        cases packetType with
        | privateMessage | groupMessage | tempMessage | privateRecordMessage =>
          simpa [robustAs, map_eq_panic] using parseMessage_eq_panic x hmessage hsome
        | privateFileMessage => simpa [robustAs, map_eq_panic] using parseFile_eq_panic x hmessage hsome
        | event0x2DC =>
          have h := processEvent0x2dc_eq_panic x packet []
          rw [hsubType] at h
          simpa [robustAs, map_eq_panic] using h
        | event0x210 => simpa [robustAs, map_eq_panic] using processEvent0x210_ne_panic x packet [] info
        | groupRequestInvitationNotice =>
          simpa [robustAs, map_eq_panic] using parseGroupRequestInvitationNotice_ne_panic x packet []
        | groupRequestJoinNotice => simpa [robustAs, map_eq_panic] using parseGroupRequestJoinNotice_ne_panic x packet []
        | groupInviteNotice => simpa [robustAs, map_eq_panic] using parseGroupInviteNotice_ne_panic x packet []
        | groupAdminChangedNotice => simpa [robustAs, map_eq_panic] using parseGroupAdminChangedNotice_ne_panic x packet []
        | groupMemberIncreaseNotice =>
          simpa [robustAs, map_eq_panic] using parseGroupMemberIncreaseNotice_ne_panic x packet []
        | groupMemberDecreaseNotice =>
          simpa [robustAs, map_eq_panic] using parseGroupMemberDecreaseNotice_ne_panic x packet []

/-- `parse` answers, with an event or an error, exactly on the robust packets. -/
theorem parse_returns_iff (x : Decoders) (strategy : FetchGroupMemberStrategy) (info : BotInfo) (packet : PushMsg) :
    parse x strategy info packet ≠ .panic ↔ packet.robust x = true := by
  rw [ne_eq, parse_eq_panic_iff, Bool.not_eq_false]

/-- A push of a type, from friend 7, with its body. -/
def pushOf (type : UInt32) (subType : Option UInt32) (body : MessageBody) : PushMsg where
  message := some {
    responseHead := some { fromUin := 7, fromUid := none, toUin := 8, toUid := none, grp := none }
    contentHead := some { type, subType, sequence := none, timeStamp := none, ntMsgSeq := none, msgUid := none }
    body := some body }

/-- A light app without data, and a recall whose content is empty. -/
theorem parse_panics :
    parse refusing .simple { name := "" }
        (pushOf 166 none { richText := some { elems := [{ lightAppElem := some { data := [] } }] }, msgContent := none }) =
      .panic ∧
    parse refusing .simple { name := "" } (pushOf 0x2DC (some 17) { richText := none, msgContent := some [] }) = .panic :=
  ⟨rfl, rfl⟩

end PushMsg

end Mania
