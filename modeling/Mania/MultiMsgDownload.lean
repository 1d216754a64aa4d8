/-
`parse_fake_chain` of `message/packer.rs`, and `parse` of
`event/message/multi_msg_download.rs`: the chains of a merged message, from
the archive the server keeps of it.

Each body parses as the body of a push does, and then gets a type of its
own. It must have a card if it is of a group; a body that does not parse is
the end of the others too (`parse_archive`).
-/
import Mania.EntityFacts
import Mania.EntityPackFacts
import Mania.MessagePacker
import Mania.PushMsg

namespace Mania

/-! ## `action.proto` -/

structure LongMsgContent where
  msgBody : List PushMsgBody

structure LongMsgAction where
  actionCommand : String
  actionData : Option LongMsgContent

structure LongMsgResult where
  action : List LongMsgAction

structure RecvLongMsgResult where
  payload : Bytes

structure RecvLongMsgResp where
  result : Option RecvLongMsgResult

/-- `decode` of the two messages, `gzip::decompress`, and what unpacking entities takes. -/
structure LongMsgDecoders where
  recvLongMsgResp : Bytes → Except DecodeError RecvLongMsgResp
  longMsgResult : Bytes → Except DecodeError LongMsgResult
  decompress : Bytes → Option Bytes
  entities : Decoders

def BotGroupMember.default : BotGroupMember where
  uin := 0
  uid := ""
  permission := .member
  groupLevel := 0
  memberCard := none
  specialTitle := none
  memberName := none
  joinTime := none
  lastMsgTime := none
  shutUpTimestamp := none

def BotFriend.default : BotFriend where
  uin := 0
  uid := ""
  nickname := ""
  remarks := ""
  personalSign := ""
  qid := ""
  group := none
  avatar := ""

namespace MessagePacker

/-- The closure `make_group_extra`. -/
def makeGroupExtra (body : PushMsgBody) : Option GroupMessageUniqueElem := do
  let responseHead ← body.responseHead
  let grp ← responseHead.grp
  let card ← grp.groupCard
  pure
    { groupUin := (grp.groupCode.getD 0).toUInt32
      groupMemberInfo := some { BotGroupMember.default with
        memberCard := some card
        memberName := some card
        uid := responseHead.fromUid.getD "" } }

/-- The closure `make_friend_extra`. -/
def makeFriendExtra (body : PushMsgBody) : Option FriendMessageUniqueElem := do
  let contentHead ← body.contentHead
  let responseHead ← body.responseHead
  pure
    { clientSequence := contentHead.sequence.getD 0
      friendInfo := some { BotFriend.default with nickname := responseHead.fromUid.getD "" } }

def parseFakeChain (x : Decoders) (strategy : FetchGroupMemberStrategy) (body : PushMsgBody) :
    Outcome String MessageChain := do
  let responseHead ← Outcome.okOr "missing response_head" body.responseHead
  let typ ← if responseHead.grp.isSome
    then MessageType.group <$> Outcome.okOr "failed to make_group_extra" (makeGroupExtra body)
    else MessageType.friend <$> Outcome.okOr "failed to make_friend_extra" (makeFriendExtra body)
  let chain ← parseChain x strategy body
  .ok { chain with typ }

end MessagePacker

def MultiMsgDownloadEvent.parse (x : LongMsgDecoders) (strategy : FetchGroupMemberStrategy) (packet : Bytes) :
    Parsed (List MessageChain) := do
  let packet ← PushMsg.decoded (x.recvLongMsgResp packet)
  let result ← Outcome.okOr (.otherError "Missing RecvLongMsgInfo") packet.result
  let inflate ← Outcome.okOr (.otherError "Failed to decompress long message") (x.decompress result.payload)
  let result ← PushMsg.decoded (x.longMsgResult inflate)
  let main ← Outcome.okOr (.otherError "Failed to find MultiMsg command")
    (result.action.find? (·.actionCommand = "MultiMsg"))
  let data ← Outcome.okOr (.otherError "Failed to find action_data") main.actionData
  (data.msgBody.mapM (MessagePacker.parseFakeChain x.entities strategy)).mapErr .otherError

/-! ## One body -/

/-- A message as it is quoted: who sent it and where, and what was in it. -/
structure Quoted where
  responseHead : ResponseHead
  contentHead : ContentHead
  chain : MessageChain

namespace Quoted

variable (q : Quoted)

/-- The body with the message that was built for it. -/
def body (message : Message) : PushMsgBody :=
  { responseHead := some q.responseHead, contentHead := some q.contentHead, body := message.body }

/-- A message of a group has the card of its sender. -/
def Carded : Prop := ∀ grp, q.responseHead.grp = some grp → grp.groupCard ≠ none

instance : Decidable q.Carded := by
  unfold Carded
  cases q.responseHead.grp with
  | none => exact .isTrue nofun
  | some grp => exact decidable_of_iff (grp.groupCard ≠ none) (by simp)

/-- The type of the chain that is received. -/
def typ : MessageType :=
  match q.responseHead.grp with
  | some grp => .group
      { groupUin := (grp.groupCode.getD 0).toUInt32
        groupMemberInfo := some { BotGroupMember.default with
          memberCard := grp.groupCard
          memberName := grp.groupCard
          uid := q.responseHead.fromUid.getD "" } }
  | none => .friend
      { clientSequence := q.contentHead.sequence.getD 0
        friendInfo := some { BotFriend.default with nickname := q.responseHead.fromUid.getD "" } }

/-- Who sent it is told by the type alone in a group. -/
def received : MessageChain where
  typ := q.typ
  uid := if q.responseHead.grp.isSome then "" else q.responseHead.fromUid.getD ""
  selfUid := if q.responseHead.grp.isSome then "" else q.responseHead.toUid.getD ""
  targetUin := if q.responseHead.grp.isSome then 0 else q.responseHead.toUin
  friendUin := q.responseHead.fromUin
  messageId := q.contentHead.msgUid.getD 0
  time := (q.contentHead.timeStamp.getD 0).toNat
  sequence := (if q.responseHead.grp.isSome then q.contentHead.sequence else q.contentHead.ntMsgSeq).getD 0
  entities := q.chain.entities.flatMap Entity.received

end Quoted

namespace DateTime

theorem fromTimestamp_uint32 (n : UInt32) : fromTimestamp n.toNat = some (n.toNat : Int) := by
  have hlt := n.toNat_lt
  rw [fromTimestamp, if_pos]
  omega

end DateTime

namespace MessagePacker

open Outcome

variable {ε : Type} {x : Decoders}

theorem filterMap_total {unpack : Elem → Unpack Entity} (h : ∀ elem, unpack elem ≠ .panic) (elems : List Elem) :
    ∃ entities, filterMap unpack elems = (.ok entities : Outcome ε _) := by
  induction elems with
  | nil => exact ⟨[], rfl⟩
  | cons elem elems ih =>
    obtain ⟨entities, hentities⟩ := ih
    rw [filterMap]
    cases hunpack : unpack elem with
    | ok entity => exact ⟨entity :: entities, by rw [hentities]; rfl⟩
    | err e => exact ⟨entities, hentities⟩
    | panic => exact absurd hunpack (h elem)

theorem groupMemberInfo_total (strategy : FetchGroupMemberStrategy) (responseHead : ResponseHead) (grp : ResponseGrp)
    (elems : List Elem) : ∃ info, groupMemberInfo strategy responseHead grp elems = .ok info := by
  cases strategy with
  | full => exact ⟨none, rfl⟩
  | simple =>
    obtain ⟨entities, hentities⟩ := filterMap_total (ε := String) unpackExtraElement_ne_panic elems
    rw [groupMemberInfo, hentities]
    exact ⟨_, rfl⟩

/-- A body that has its two heads parses, to a chain of the entities its elements unpack to. -/
theorem parseChain_quoted (strategy : FetchGroupMemberStrategy) {q : Quoted} {message : Message}
    (h : filterMap (Entity.unpackElement x) message.elems = (.ok (q.chain.entities.flatMap Entity.received) :
      Outcome String _)) :
    ∃ chain, parseChain x strategy (q.body message) = .ok chain ∧ { chain with typ := q.typ } = q.received := by
  have hunpack : filterMap (Entity.unpackElement x) (richTextElems (q.body message)) = (.ok _ : Outcome String _) := h
  have hgroup := groupMemberInfo_total strategy q.responseHead
  rw [parseChain, hunpack]
  simp only [Quoted.body, okOr_some, ok_bind, DateTime.fromTimestamp_uint32]
  cases hgrp : q.responseHead.grp with
  | none => exact ⟨_, rfl, by simp [Quoted.received, hgrp]⟩
  | some grp =>
    obtain ⟨info, hinfo⟩ := hgroup grp (richTextElems (q.body message))
    refine ⟨_, bind_eq_ok.mpr ⟨info, hinfo, rfl⟩, ?_⟩
    simp [Quoted.received, hgrp]

/-- The type of a body, and a group's that has no card. -/
theorem parseFakeChain_quoted (strategy : FetchGroupMemberStrategy) {q : Quoted} {message : Message}
    (h : filterMap (Entity.unpackElement x) message.elems = (.ok (q.chain.entities.flatMap Entity.received) :
      Outcome String _)) :
    parseFakeChain x strategy (q.body message) =
      if q.Carded then .ok q.received else .err "failed to make_group_extra" := by
  obtain ⟨chain, hchain, hreceived⟩ := parseChain_quoted strategy h
  rw [parseFakeChain]
  simp only [Quoted.body] at hchain
  simp only [Quoted.body, okOr_some, ok_bind]
  cases hgrp : q.responseHead.grp with
  | none =>
    have hcarded : q.Carded := fun grp hsome => by rw [hgrp] at hsome; cases hsome
    rw [if_pos hcarded]
    rw [hchain]
    simp [makeFriendExtra, ← hreceived, Quoted.typ, hgrp]
  | some grp =>
    cases hcard : grp.groupCard with
    | none =>
      have hcarded : ¬q.Carded := fun h => h grp hgrp hcard
      simp [makeGroupExtra, hgrp, hcard, if_neg hcarded]
    | some card =>
      have hcarded : q.Carded := fun grp' hsome => by
        rw [hgrp] at hsome
        cases hsome
        rw [hcard]
        exact Option.some_ne_none card
      rw [if_pos hcarded, hchain]
      simp [makeGroupExtra, ← hreceived, Quoted.typ, hgrp, hcard]

end MessagePacker

/-! ## The archive -/

/-- The body that is kept of what is quoted. -/
def Quoted.Archived (enc : Encoders) (now : Int) (q : Quoted) (body : PushMsgBody) : Prop :=
  ∃ message, MessagePacker.build enc now q.chain = (.ok message : Outcome String _) ∧ body = q.body message

namespace MessagePacker

open Outcome

section
variable {x : Decoders} {enc : Encoders} {now : Int} (hzlib : ∀ bs, x.decompress (enc.compress bs) = some bs)
include hzlib

theorem parseFakeChain_archived (strategy : FetchGroupMemberStrategy) {q : Quoted} {body : PushMsgBody}
    (hplain : ∀ entity ∈ q.chain.entities, Entity.Plain x entity) (h : q.Archived enc now body) :
    parseFakeChain x strategy body = if q.Carded then .ok q.received else .err "failed to make_group_extra" := by
  obtain ⟨message, hbuild, rfl⟩ := h
  obtain ⟨elems, helems, hread⟩ := Entity.fromElems_packed hzlib (ε := String) hplain
  have hcontent : firstContent q.chain.entities = (.ok none : Outcome String _) := by
    refine firstContent_none fun entity hentity => ?_
    cases hplain entity hentity <;> rfl
  rw [build, buildPacketBase, helems, ok_bind, hcontent, ok_bind] at hbuild
  cases hbuild
  exact parseFakeChain_quoted strategy hread

/-- Bodies are parsed in order up to the first without a card. -/
theorem mapM_archived (strategy : FetchGroupMemberStrategy) {sent : List Quoted} {bodies : List PushMsgBody}
    (hplain : ∀ q ∈ sent, ∀ entity ∈ q.chain.entities, Entity.Plain x entity)
    (h : List.Forall₂ (Quoted.Archived enc now) sent bodies) :
    bodies.mapM (parseFakeChain x strategy) =
      if ∀ q ∈ sent, q.Carded then .ok (sent.map Quoted.received) else .err "failed to make_group_extra" := by
  induction h with
  | nil => rfl
  | @cons q body sent bodies hq hrest ih =>
    have hfirst := parseFakeChain_archived hzlib strategy (hplain q List.mem_cons_self) hq
    have hothers := ih fun q' hq' => hplain q' (List.mem_cons_of_mem q hq')
    rw [List.mapM_cons, hfirst, hothers]
    by_cases hcarded : q.Carded
    · rw [if_pos hcarded, ok_bind]
      by_cases hall : ∀ q ∈ sent, q.Carded
      · rw [if_pos hall, if_pos (List.forall_mem_cons.mpr ⟨hcarded, hall⟩)]
        rfl
      · rw [if_neg hall, if_neg fun h => hall (List.forall_mem_cons.mp h).2]
        rfl
    · rw [if_neg hcarded, if_neg fun h => hcarded (List.forall_mem_cons.mp h).1]
      rfl

end

end MessagePacker

namespace MultiMsgDownloadEvent

open Outcome

/-- Main result. **The archive of plain messages reads as what their
entities read as**, in order and each with its sender and time, if every one
of a group has a card; one that has none takes the others with it. -/
theorem parse_archive {x : LongMsgDecoders} {enc : Encoders} {now : Int}
    (hzlib : ∀ bs, x.entities.decompress (enc.compress bs) = some bs) (strategy : FetchGroupMemberStrategy)
    {packet payload inflate : Bytes} {archive : LongMsgResult} {bodies : List PushMsgBody} {sent : List Quoted}
    (hpacket : x.recvLongMsgResp packet = .ok { result := some { payload } })
    (hinflate : x.decompress payload = some inflate) (harchive : x.longMsgResult inflate = .ok archive)
    (hmain : archive.action.find? (·.actionCommand = "MultiMsg") =
      some { actionCommand := "MultiMsg", actionData := some { msgBody := bodies } })
    (hplain : ∀ q ∈ sent, ∀ entity ∈ q.chain.entities, Entity.Plain x.entities entity)
    (hbodies : List.Forall₂ (Quoted.Archived enc now) sent bodies) :
    MultiMsgDownloadEvent.parse x strategy packet =
      if ∀ q ∈ sent, q.Carded then .ok (sent.map Quoted.received)
      else .err (.otherError "failed to make_group_extra") := by
  have hmapM := MessagePacker.mapM_archived hzlib strategy hplain hbodies
  rw [MultiMsgDownloadEvent.parse, hpacket]
  simp only [PushMsg.decoded, ok_bind, okOr_some]
  rw [hinflate]
  simp only [ok_bind, okOr_some]
  rw [harchive]
  simp only [ok_bind, hmain, okOr_some]
  rw [hmapM]
  split <;> rfl

/-- A message of a group and one of a friend. -/
def sampleSent : List Quoted :=
  [{ responseHead :=
       { fromUin := 7, fromUid := some "u", toUin := 0, toUid := none
         grp := some { groupCode := some 9, groupCard := some "c" } }
     contentHead :=
       { type := 82, subType := none, sequence := some 5, timeStamp := some 100, ntMsgSeq := none, msgUid := none }
     chain := { Entity.sampleChain with entities := [.text { text := "hi" }] } },
   { responseHead := { fromUin := 8, fromUid := some "v", toUin := 0, toUid := none, grp := none }
     contentHead :=
       { type := 9, subType := none, sequence := some 6, timeStamp := some 101, ntMsgSeq := none, msgUid := none }
     chain := { Entity.sampleChain with entities := [.text { text := "no" }] } }]

/-- Their bodies. -/
def sampleBodies : List PushMsgBody :=
  sampleSent.map fun q =>
    { responseHead := some q.responseHead
      contentHead := some q.contentHead
      body := some
        { richText := some { elems := q.chain.entities.map fun
            | .text inner => { text := some { str := some inner.text, attr6Buf := none } }
            | _ => {} }
          msgContent := none } }

/-- The archive of them. -/
def sampleArchive : LongMsgResult :=
  { action := [{ actionCommand := "MultiMsg", actionData := some { msgBody := sampleBodies } }] }

/-- Its encoding, as gzip inflates it. -/
def sampleInflate : Bytes :=
  [0x12, 0x4d, 0x0a, 0x08, 0x4d, 0x75, 0x6c, 0x74, 0x69, 0x4d, 0x73, 0x67, 0x12, 0x41, 0x0a, 0x22, 0x0a, 0x0c, 0x08,
   0x07, 0x12, 0x01, 0x75, 0x42, 0x05, 0x08, 0x09, 0x22, 0x01, 0x63, 0x12, 0x06, 0x08, 0x52, 0x28, 0x05, 0x30, 0x64,
   0x1a, 0x0a, 0x0a, 0x08, 0x12, 0x06, 0x0a, 0x04, 0x0a, 0x02, 0x68, 0x69, 0x0a, 0x1b, 0x0a, 0x05, 0x08, 0x08, 0x12,
   0x01, 0x76, 0x12, 0x06, 0x08, 0x09, 0x28, 0x06, 0x30, 0x65, 0x1a, 0x0a, 0x0a, 0x08, 0x12, 0x06, 0x0a, 0x04, 0x0a,
   0x02, 0x6e, 0x6f]

def samplePayload : Bytes :=
  [0x1f, 0x8b, 0x08, 0x00, 0x00, 0x00, 0x00, 0x00, 0x02, 0x03, 0x13, 0xf2, 0xe5, 0xe2, 0xf0, 0x2d, 0xcd, 0x29, 0xc9,
   0xf4, 0x2d, 0x4e, 0x17, 0x72, 0xe4, 0x52, 0xe2, 0xe2, 0xe1, 0x60, 0x17, 0x62, 0x2c, 0x75, 0x62, 0xe5, 0xe0, 0x54,
   0x62, 0x4c, 0x16, 0x62, 0xe3, 0x08, 0xd2, 0x60, 0x35, 0x48, 0x91, 0xe2, 0xe2, 0xe2, 0x10, 0x62, 0xe3, 0x62, 0xe1,
   0x62, 0xca, 0xc8, 0xe4, 0x92, 0xe6, 0x62, 0xe5, 0xe0, 0x10, 0x62, 0x2c, 0x03, 0x4a, 0x72, 0x6a, 0xb0, 0x19, 0xa4,
   0x22, 0x24, 0xf3, 0xf2, 0x01, 0xac, 0x12, 0xe2, 0x17, 0x4f, 0x00, 0x00, 0x00]

/-- The reply that has them. -/
def samplePacket : Bytes := [0x0a, 0x5b, 0x22, 0x59] ++ samplePayload

def sampleLongMsgDecoders : LongMsgDecoders where
  recvLongMsgResp bs :=
    if bs = samplePacket then .ok { result := some { payload := samplePayload } } else .error { debug := "" }
  longMsgResult bs := if bs = sampleInflate then .ok sampleArchive else .error { debug := "" }
  decompress bs := if bs = samplePayload then some sampleInflate else none
  entities := Entity.sampleDecoders

theorem parse_archive_sample : (∀ q ∈ sampleSent, q.Carded) ∧
    MultiMsgDownloadEvent.parse sampleLongMsgDecoders .simple samplePacket = .ok (sampleSent.map Quoted.received) := by
  have hcarded : ∀ q ∈ sampleSent, q.Carded := by decide
  have hplain : ∀ q ∈ sampleSent, ∀ entity ∈ q.chain.entities,
      Entity.Plain sampleLongMsgDecoders.entities entity := by
    simp only [sampleSent, List.forall_mem_cons, List.not_mem_nil, false_imp_iff, implies_true, and_true]
    exact ⟨.text _, .text _⟩
  have hbodies : List.Forall₂ (Quoted.Archived Entity.sampleEncoders 0) sampleSent sampleBodies :=
    .cons ⟨_, rfl, rfl⟩ (.cons ⟨_, rfl, rfl⟩ .nil)
  have hpacket : sampleLongMsgDecoders.recvLongMsgResp samplePacket =
      .ok { result := some { payload := samplePayload } } := by
    simp [sampleLongMsgDecoders]
  have hinflate : sampleLongMsgDecoders.decompress samplePayload = some sampleInflate := by
    simp [sampleLongMsgDecoders]
  have harchive : sampleLongMsgDecoders.longMsgResult sampleInflate = .ok sampleArchive := by
    simp [sampleLongMsgDecoders]
  have hparse := parse_archive Entity.sample_inverts .simple hpacket hinflate harchive rfl hplain hbodies
  exact ⟨hcarded, hparse.trans (if_pos hcarded)⟩

end MultiMsgDownloadEvent

end Mania
