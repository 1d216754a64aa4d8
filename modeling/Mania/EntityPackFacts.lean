/-
What a packed message unpacks to.

Each packed element is refused by every kind before its own:
`unpackElement_text`, `unpackElement_json`, `unpackElement_lightApp`,
`unpackElement_xml`. So reading the elements of a built message gives the
entities back, where a Json entity comes as two (`fromElems_build`). A
reply comes back with the low half of its message id in place of its
sequence (`forward_roundTrips_iff`).
-/
import Mathlib.Algebra.Group.Int.Defs
import Mania.EntityFacts
import Mania.EntityPack

namespace Mania

open Outcome

variable {ε : Type} {x : Decoders} {enc : Encoders}

/-- The elements of a message. -/
def Message.elems (message : Message) : List Elem := ((message.body.bind (·.richText)).map (·.elems)).getD []

namespace MessagePacker

theorem filterMap_ok {unpack : Elem → Unpack Entity} {elem : Elem} {entity : Entity} (h : unpack elem = .ok entity)
    (elems : List Elem) : (filterMap unpack (elem :: elems) : Outcome ε _) = (entity :: ·) <$> filterMap unpack elems := by
  rw [filterMap, h, map_eq_pure_bind]
  rfl

theorem filterMap_append (unpack : Elem → Unpack Entity) (elems elems' : List Elem) :
    (filterMap unpack (elems ++ elems') : Outcome ε _) = (do
      let entities ← filterMap unpack elems
      (entities ++ ·) <$> filterMap unpack elems') := by
  induction elems with
  | nil =>
    show filterMap unpack elems' = (fun entities => entities) <$> filterMap unpack elems'
    rw [id_map']
  | cons elem elems ih =>
    cases h : unpack elem with
    | ok entity =>
      rw [List.cons_append, filterMap_ok h, filterMap_ok h, ih]
      simp [map_eq_pure_bind]
    | err e => simpa [filterMap, h] using ih
    | panic => simp [filterMap, h]

/-- No entity but a file has content of its own. -/
theorem firstContent_none {entities : List Entity}
    (h : ∀ entity ∈ entities, entity.packContent = (.ok none : Outcome ε _)) :
    firstContent entities = (.ok none : Outcome ε _) := by
  induction entities with
  | nil => rfl
  | cons entity entities ih =>
    rw [firstContent, h entity List.mem_cons_self]
    exact ih fun e he => h e (List.mem_cons_of_mem entity he)

/-- The packed elements of each entity stand together in the message. -/
theorem build_elems {now : Int} {chain : MessageChain} {message : Message}
    (h : build enc now chain = (.ok message : Outcome ε _)) {entity : Entity} (hentity : entity ∈ chain.entities) :
    ∃ elems, entity.packElement enc = (.ok elems : Outcome ε _) ∧ elems <:+: message.elems := by
  rw [build, buildPacketBase] at h
  obtain ⟨packed, hpacked, hrest⟩ := bind_eq_ok.mp h
  obtain ⟨msgContent, hcontent, hmessage⟩ := bind_eq_ok.mp hrest
  cases hmessage
  obtain ⟨elems, helems, hok⟩ := mapM_mem_ok hpacked hentity
  exact ⟨elems, hok, List.infix_of_mem_flatten helems⟩

end MessagePacker

namespace Entity

/-- The kinds whose packed elements are not taken for another kind. -/
inductive Plain (x : Decoders) : Entity → Prop
  | text (inner : TextEntity) : Plain x (.text inner)
  | json (inner : JsonEntity) : Plain x (.json inner)
  | lightApp (inner : LightAppEntity) (happ : x.app inner.payload = some inner.appName) : Plain x (.lightApp inner)
  | xml (inner : XmlEntity) (hjson : inner.serviceId ≠ 1) (hmulti : inner.serviceId ≠ 35) : Plain x (.xml inner)

/-- What the receiver reads of an entity. -/
def received : Entity → List Entity
  | json inner => [text { text := inner.resId }, json { inner with resId := "" }]
  | entity => [entity]

/-! ## One element -/

/-- A rich message, as Json and Xml entities are packed. -/
def rich (enc : Encoders) (serviceId : Int32) (s : String) : Elem :=
  { richMsg := some { serviceId := some serviceId, template1 := some (deflated enc s) } }

theorem unpackElement_text (s : String) :
    unpackElement x { text := some { str := some s, attr6Buf := none } } = .ok (text { text := s }) := rfl

section
variable (hzlib : ∀ bs, x.decompress (enc.compress bs) = some bs)
include hzlib

theorem unpackElement_json (s : String) : unpackElement x (rich enc 1 s) = .ok (json { json := s, resId := "" }) := by
  have htext : TextEntity.unpackElement (rich enc 1 s) = .err () := rfl
  have hjson : JsonEntity.unpackElement x (rich enc 1 s) = .ok { json := s, resId := "" } := by
    simp [JsonEntity.unpackElement, rich, deflated, behindFirst_cons, hzlib]
  rw [unpackElement, unpackers, htext, hjson]
  rfl

theorem unpackElement_xml {serviceId : Int32} (hone : serviceId ≠ 1) (hmulti : serviceId ≠ 35) (s : String) :
    unpackElement x (rich enc serviceId s) = .ok (xml { xml := s, serviceId }) := by
  have hjson : JsonEntity.unpackElement x (rich enc serviceId s) = .err () := by
    simp [JsonEntity.unpackElement, rich, hone]
  have hmultiMsg : MultiMsgEntity.unpackElement x (rich enc serviceId s) = .err () := by
    simp [MultiMsgEntity.unpackElement, rich, hmulti]
  have hxml : XmlEntity.unpackElement x (rich enc serviceId s) = .ok { xml := s, serviceId } := by
    simp [XmlEntity.unpackElement, rich, deflated, behindFirst_cons, hzlib]
  rw [unpackElement, unpackers, hjson, hmultiMsg, hxml]
  rfl

theorem unpackElement_lightApp {payload appName : String} (happ : x.app payload = some appName) :
    unpackElement x { lightAppElem := some { data := deflated enc payload } } = .ok (lightApp { appName, payload }) := by
  have hlightApp : LightAppEntity.unpackElement x { lightAppElem := some { data := deflated enc payload } } =
      .ok { appName, payload } := by
    simp [LightAppEntity.unpackElement, deflated, behindFirst_cons, hzlib, happ]
  rw [unpackElement, unpackers, hlightApp]
  rfl

/-! ## One entity, and a message of them -/

/-- A plain entity is packed, and its elements unpack to what is received. -/
theorem fromElems_packElement {entity : Entity} (h : Plain x entity) :
    ∃ elems, entity.packElement enc = (.ok elems : Outcome ε _) ∧
      fromElems x elems = (.ok entity.received : Outcome ε _) := by
  cases h with
  | text inner =>
    refine ⟨_, rfl, ?_⟩
    exact MessagePacker.filterMap_ok (unpackElement_text inner.text) []
  | json inner =>
    refine ⟨_, rfl, ?_⟩
    have hrest := MessagePacker.filterMap_ok (ε := ε) (unpackElement_json hzlib inner.json) []
    exact (MessagePacker.filterMap_ok (unpackElement_text inner.resId) _).trans (congrArg _ hrest)
  | lightApp inner happ =>
    refine ⟨_, rfl, ?_⟩
    exact MessagePacker.filterMap_ok (unpackElement_lightApp hzlib happ) []
  | xml inner hone hmulti =>
    refine ⟨_, rfl, ?_⟩
    exact MessagePacker.filterMap_ok (unpackElement_xml hzlib hone hmulti inner.xml) []

theorem fromElems_packed {entities : List Entity} (h : ∀ entity ∈ entities, Plain x entity) :
    ∃ elems, entities.mapM (packElement enc) = (.ok elems : Outcome ε _) ∧
      fromElems x elems.flatten = (.ok (entities.flatMap received) : Outcome ε _) := by
  induction entities with
  | nil => exact ⟨[], rfl, rfl⟩
  | cons entity entities ih =>
    obtain ⟨first, hfirst, hread⟩ := fromElems_packElement hzlib (ε := ε) (h entity List.mem_cons_self)
    obtain ⟨rest, hrest, hreads⟩ := ih fun e he => h e (List.mem_cons_of_mem entity he)
    refine ⟨first :: rest, ?_, ?_⟩
    · rw [List.mapM_cons, hfirst, ok_bind, hrest]
      rfl
    · rw [fromElems] at hread hreads
      rw [fromElems, List.flatten_cons, MessagePacker.filterMap_append, hread, ok_bind, hreads, List.flatMap_cons]
      rfl

end

/-- Main result. Where zlib inflates what it deflated, **the elements of a
message built from plain entities read as those entities**, in order, a Json
entity as the text of its resource id and the Json without it. -/
theorem fromElems_build (hzlib : ∀ bs, x.decompress (enc.compress bs) = some bs) (now : Int) (chain : MessageChain)
    (h : ∀ entity ∈ chain.entities, Plain x entity) :
    ∃ message, MessagePacker.build enc now chain = (.ok message : Outcome ε _) ∧
      fromElems x message.elems = (.ok (chain.entities.flatMap received) : Outcome ε _) := by
  obtain ⟨elems, helems, hread⟩ := fromElems_packed hzlib (ε := ε) h
  have hcontent : MessagePacker.firstContent chain.entities = (.ok none : Outcome ε _) := by
    refine MessagePacker.firstContent_none fun entity hentity => ?_
    cases h entity hentity <;> rfl
  rw [MessagePacker.build, MessagePacker.buildPacketBase, helems, ok_bind, hcontent, ok_bind]
  exact ⟨_, rfl, hread⟩

/-! ## A message -/

/-- Three texts and what zlib makes of them. -/
def zlibSamples : List (Bytes × Bytes) :=
  [(Utf8.encode "[]", [0x78, 0x9c, 0x8b, 0x8e, 0x05, 0x00, 0x01, 0x15, 0x00, 0xb9]),
   (Utf8.encode "\x7b\"app\":\"a\"\x7d",
    [0x78, 0x9c, 0xab, 0x56, 0x4a, 0x2c, 0x28, 0x50, 0xb2, 0x52, 0x4a, 0x54, 0xaa, 0x05, 0x00, 0x14, 0xfb, 0x03, 0x5d]),
   (Utf8.encode "<a/>", [0x78, 0x9c, 0xb3, 0x49, 0xd4, 0xb7, 0x03, 0x00, 0x02, 0xb3, 0x01, 0x0b])]

/-- zlib on the samples; other texts stay as they are behind a zero. -/
def sampleEncoders : Encoders where
  msgInfo _ := []
  preserve _ := []
  mentionExtra _ := []
  message _ := []
  compress bs := (zlibSamples.lookup bs).getD (0 :: bs)

def sampleDecoders : Decoders :=
  { PushMsg.refusing with
    decompress := fun bs =>
      match bs with
      | 0 :: bs => some bs
      | bs => (zlibSamples.find? fun sample => sample.2 = bs).map (·.1)
    app := fun s => if s = "\x7b\"app\":\"a\"\x7d" then some "a" else none }

theorem sample_inverts (bs : Bytes) : sampleDecoders.decompress (sampleEncoders.compress bs) = some bs := by
  show sampleDecoders.decompress ((zlibSamples.lookup bs).getD (0 :: bs)) = some bs
  have hsamples : ∀ sample ∈ zlibSamples, sampleDecoders.decompress sample.2 = some sample.1 := by decide
  cases h : zlibSamples.lookup bs with
  | none => rfl
  | some compressed =>
    obtain ⟨before, after, hsplit, _⟩ := List.lookup_eq_some_iff.mp h
    exact hsamples (bs, compressed) (by simp [hsplit])

/-- A text, a Json, a light app and an Xml entity. -/
def sampleEntities : List Entity :=
  [text { text := "hi" },
   json { json := "[]", resId := "r" },
   lightApp { appName := "a", payload := "\x7b\"app\":\"a\"\x7d" },
   xml { xml := "<a/>", serviceId := 60 }]

def sampleChain : MessageChain where
  typ := .temp
  uid := "u"
  selfUid := ""
  targetUin := 0
  friendUin := 7
  messageId := 0
  time := 0
  sequence := 0
  entities := sampleEntities

theorem fromElems_build_sample : (∀ entity ∈ sampleChain.entities, Plain sampleDecoders entity) ∧
    ∃ message, MessagePacker.build sampleEncoders 0 sampleChain = (.ok message : Outcome Unit _) ∧
      fromElems sampleDecoders message.elems = (.ok
        [text { text := "hi" },
         text { text := "r" },
         json { json := "[]", resId := "" },
         lightApp { appName := "a", payload := "\x7b\"app\":\"a\"\x7d" },
         xml { xml := "<a/>", serviceId := 60 }] : Outcome Unit _) := by
  have hplain : ∀ entity ∈ sampleChain.entities, Plain sampleDecoders entity := by
    intro entity hentity
    simp only [sampleChain, sampleEntities, List.mem_cons, List.not_mem_nil, or_false] at hentity
    rcases hentity with rfl | rfl | rfl | rfl
    · exact .text _
    · exact .json _
    · exact .lightApp _ (by simp [sampleDecoders])
    · exact .xml _ (by decide) (by decide)
  exact ⟨hplain, fromElems_build sample_inverts 0 sampleChain hplain⟩

/-! ## A reply -/

end Entity

namespace ForwardEntity

/-- The reserve a reply is packed with. -/
def reserve (self : ForwardEntity) : Preserve :=
  { messageId := self.messageId, clientSequence := none, senderUid := self.uid }

/-- The one element of a reply unpacks to a reply with the same time,
sequence, message id and target. -/
def RoundTrips (x : Decoders) (enc : Encoders) (self : ForwardEntity) : Prop :=
  ∃ elem back, self.packElement enc = [elem] ∧ Entity.unpackElement x elem = .ok (.forward back) ∧
    back.time = self.time ∧ back.sequence = self.sequence ∧ back.messageId = self.messageId ∧
    back.targetUin = self.targetUin

/-- A quoted message is read as a reply: the kinds tried before it look at
fields the element does not have. -/
theorem unpackElement_srcMsg {src : SrcMsg} {bs : Bytes} {reserve : Preserve} {seq : UInt32}
    (hbs : src.pbReserve = some bs) (hreserve : x.preserve bs = .ok reserve) (hseqs : src.origSeqs = [seq]) :
    Entity.unpackElement x { srcMsg := some src } = .ok (.forward
      { time := (src.time.getD 0).toInt
        messageId := reserve.messageId
        sequence := reserve.clientSequence.getD seq
        targetUin := src.senderUin.toUInt32 }) := by
  have htime := fromTimestamp_int32 (src.time.getD 0)
  have hforward : ForwardEntity.unpackElement x { srcMsg := some src } = .ok
      { time := (src.time.getD 0).toInt
        messageId := reserve.messageId
        sequence := reserve.clientSequence.getD seq
        targetUin := src.senderUin.toUInt32 } := by
    simp [ForwardEntity.unpackElement, hbs, hreserve, hseqs, Except.toOption, htime, index]
  rw [Entity.unpackElement, Entity.unpackers, hforward]
  rfl

/-- What the element of a reply unpacks to. -/
theorem unpackElement_packElement {self : ForwardEntity} (htime : -2 ^ 31 ≤ self.time ∧ self.time < 2 ^ 31)
    (hpreserve : x.preserve (enc.preserve self.reserve) = .ok self.reserve) :
    ∃ elem, self.packElement enc = [elem] ∧ Entity.unpackElement x elem = .ok (.forward
      { time := self.time
        messageId := self.messageId
        sequence := self.messageId.toUInt32
        targetUin := self.targetUin }) := by
  have hseconds : (Int32.ofInt self.time).toInt = self.time := Int32.toInt_ofInt_of_le htime.1 htime.2
  refine ⟨_, rfl, (unpackElement_srcMsg rfl hpreserve rfl).trans ?_⟩
  simp [hseconds, reserve]

/-- **Replies.** Everything but the sequence survives: it comes back as the
message id cut to 32 bits. -/
theorem forward_roundTrips_iff (x : Decoders) (enc : Encoders) (self : ForwardEntity)
    (htime : -2 ^ 31 ≤ self.time ∧ self.time < 2 ^ 31)
    (hpreserve : x.preserve (enc.preserve self.reserve) = .ok self.reserve) :
    self.RoundTrips x enc ↔ self.sequence = self.messageId.toUInt32 := by
  obtain ⟨elem, hpack, hunpack⟩ := unpackElement_packElement htime hpreserve
  constructor
  · rintro ⟨elem', back, hpack', hunpack', -, hsequence, -, -⟩
    rw [hpack] at hpack'
    cases hpack'
    rw [hunpack] at hunpack'
    cases hunpack'
    exact hsequence.symm
  · intro h
    exact ⟨elem, _, hpack, hunpack, rfl, h.symm, rfl, rfl⟩

/-- A reply to the third message of a chat, whose id is 7. -/
def sampleReply : ForwardEntity where
  time := 0
  messageId := 7
  sequence := 3
  targetUin := 10001

/-- Protobuf on the reserve of that reply. -/
def preserveEncoders : Encoders := { Entity.sampleEncoders with preserve := fun _ => [0x18, 0x07] }

def preserveDecoders : Decoders :=
  { Entity.sampleDecoders with
    preserve := fun bs =>
      if bs = [0x18, 0x07] then .ok { messageId := 7, clientSequence := none }
      else Entity.sampleDecoders.preserve bs }

theorem forward_roundTrips_sample :
    sampleReply.RoundTrips preserveDecoders preserveEncoders ↔ (3 : UInt32) = (7 : UInt64).toUInt32 :=
  forward_roundTrips_iff preserveDecoders preserveEncoders sampleReply (by decide) rfl

/-- The sequence of that reply comes back as 7. -/
theorem sampleReply_not_roundTrips :
    ¬ ∀ (x : Decoders) (enc : Encoders) (self : ForwardEntity), -2 ^ 31 ≤ self.time ∧ self.time < 2 ^ 31 →
      x.preserve (enc.preserve self.reserve) = .ok self.reserve → self.RoundTrips x enc := by
  intro h
  obtain ⟨elem, back, hpack, hunpack, -, hsequence, -, -⟩ :=
    h preserveDecoders preserveEncoders sampleReply (by decide) rfl
  cases hpack
  cases hunpack
  exact absurd hsequence (by decide)

end ForwardEntity

end Mania
