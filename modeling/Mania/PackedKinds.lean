/-
What every kind reads as once it is packed.

`readAs` says of an entity which entities its elements unpack to, in terms
of the entity alone: a mention is read as a text, a picture twice (with its
`MsgInfo`, and without), a picture or a record whose info is not complete
as a video, and an Xml of service 1 or 35 as a Json or a forwarded message.
`sent_reads` is that of a whole message, from the chain that is sent to the
one that is received.
-/
import Mania.MediaKinds
import Mania.MultiMsgDownload

namespace Mania

open HexString Outcome

/-! ## What a `MsgInfo` reads as -/

namespace MsgInfo

/-- The first body's index. -/
def node (info : MsgInfo) : Option IndexNode := info.msgInfoBody.head?.bind (·.index)

/-- A picture needs a business info of its own, and a hash. -/
def picture (info : MsgInfo) : Option ImageEntity := do
  let pic ← info.extBizInfo.bind (·.pic)
  let file ← Elem.fileInfo info
  let md5 ← unhex file.fileHash
  some {
    height := file.height
    width := file.width
    filePath := some file.fileName
    md5
    size := file.fileSize
    url := ""
    msgInfo := some info
    notOnlineImage := .default
    customFace := .default
    subType := pic.bizType
    isGroup := pic.bytesPbReserveTroop.isSome
    summary := some (if pic.textSummary.isEmpty then "[图片]" else pic.textSummary) }

/-- A record needs a hash. -/
def record (info : MsgInfo) : Option RecordEntity := do
  let node ← info.node
  let file ← node.info
  let md5 ← unhex file.fileHash
  some {
    audioUuid := some node.fileUuid
    audioName := file.fileName
    audioMd5 := md5
    audioLength := file.time
    fileSha1 := some file.fileHash
    msgInfo := some info }

/-- A video needs a file. -/
def video (info : MsgInfo) : Option VideoEntity := do
  let node ← info.node
  let file ← node.info
  some {
    fileName := file.fileName
    height := file.height.toInt32
    width := file.width.toInt32
    videoSize := file.fileSize.toInt32
    videoLength := file.time.toInt32
    node := some node }

/-- A business info over no body is indexed. -/
def indexed (info : MsgInfo) : Bool := info.extBizInfo.isSome && info.msgInfoBody.isEmpty

end MsgInfo

namespace Entity

variable {x : Decoders} {enc : Encoders} {info : MsgInfo} {common : CommonElem}

section
variable (hinfo : x.msgInfo common.pbElem = .ok info)
include hinfo

theorem image_unpack (h : Elem.isPicture common = true) : ImageEntity.unpackElement x common.alone =
    if info.indexed then .panic else orNone info.picture := by
  have hpicture : common.alone.picture = some common := by
    show Option.filter Elem.isPicture (some common) = some common
    rw [Option.filter, h]
    rfl
  rw [ImageEntity.unpackElement, hpicture]
  obtain ⟨bodies, extBizInfo⟩ := info
  simp only [ImageEntity.ofMsgInfo, hinfo, Except.toOption, okOr_some, ok_bind, MsgInfo.indexed, MsgInfo.picture,
    Elem.fileInfo]
  cases extBizInfo with
  | none => simp
  | some extBizInfo =>
    obtain ⟨pic⟩ := extBizInfo
    cases bodies with
    | nil => simp [index]
    | cons body bodies =>
      obtain ⟨node⟩ := body
      cases node with
      | none => cases pic <;> simp [index]
      | some node =>
        obtain ⟨file, fileUuid⟩ := node
        cases file with
        | none => cases pic <;> simp [index]
        | some file =>
          cases hmd5 : unhex file.fileHash <;> cases pic <;> simp [index, hmd5]

theorem record_unpack (h : Elem.isRecord common = true) :
    RecordEntity.unpackElement x common.alone = orNone info.record := by
  have hfields := of_decide_eq_true h
  obtain ⟨bodies, extBizInfo⟩ := info
  simp only [RecordEntity.unpackElement, CommonElem.alone, okOr_some, ok_bind, if_pos hfields, hinfo, Except.toOption,
    MsgInfo.record, MsgInfo.node]
  cases bodies with
  | nil => simp
  | cons body bodies =>
    obtain ⟨node⟩ := body
    cases node with
    | none => simp
    | some node =>
      obtain ⟨file, fileUuid⟩ := node
      cases file with
      | none => simp
      | some file => cases hmd5 : unhex file.fileHash <;> simp [hmd5]

theorem video_unpack (hservice : common.serviceType = 48) :
    VideoEntity.unpackElement x common.alone = orNone info.video := by
  obtain ⟨bodies, extBizInfo⟩ := info
  simp only [VideoEntity.unpackElement, CommonElem.alone, okOr_some, ok_bind, if_pos hservice, hinfo, Except.toOption,
    MsgInfo.video, MsgInfo.node]
  cases bodies with
  | nil => simp
  | cons body bodies =>
    obtain ⟨node⟩ := body
    cases node with
    | none => simp
    | some node =>
      obtain ⟨file, fileUuid⟩ := node
      cases file <;> simp

end

/-! ## What a packed entity reads as -/

/-- A picture whose info has a business info and no body. -/
def breaksReader : Entity → Bool
  | image inner => (inner.msgInfo.getD .default).indexed
  | _ => false

/-- The entities read where an entity was sent. -/
def readAs (x : Decoders) : Entity → List Entity
  | json inner => [text { text := inner.resId }, json { inner with resId := "" }]
  | image inner =>
    let info := inner.msgInfo.getD .default
    image (.ofNotOnlineImage inner.notOnlineImage) :: (info.picture.map image <|> info.video.map video).toList
  | forward inner =>
    [forward
      { time := (Int32.ofInt inner.time).toInt
        messageId := inner.messageId
        sequence := inner.messageId.toUInt32
        targetUin := inner.targetUin }]
  | lightApp inner => ((x.app inner.payload).map fun appName => lightApp { inner with appName }).toList
  | mention inner => (inner.name.map fun name => text { text := name }).toList
  | record inner =>
    let info := inner.msgInfo.getD .default
    (info.record.map record <|> info.video.map video).toList
  | video inner => ((inner.msgInfo.getD .default).video.map video).toList
  | xml inner =>
    [if inner.serviceId = 1 then json { json := inner.xml, resId := "" }
     else if inner.serviceId = 35 then ((x.resId inner.xml).map fun resId => multiMsg { resId }).getD (xml inner)
     else xml inner]
  | entity => [entity]

/-- The kinds that are packed. -/
def isPacked : Entity → Bool
  | face _ | marketFace _ | multiMsg _ | file _ | longMsg _ | extraInfo _ | extraGeneralFlags _ => false
  | _ => true

/-- The bytes an entity carries decode to what was encoded. -/
def Decodes (x : Decoders) (enc : Encoders) : Entity → Prop
  | image inner => x.msgInfo (enc.msgInfo (inner.msgInfo.getD .default)) = .ok (inner.msgInfo.getD .default)
  | record inner => x.msgInfo (enc.msgInfo (inner.msgInfo.getD .default)) = .ok (inner.msgInfo.getD .default)
  | video inner => x.msgInfo (enc.msgInfo (inner.msgInfo.getD .default)) = .ok (inner.msgInfo.getD .default)
  | forward inner => x.preserve (enc.preserve inner.reserve) = .ok inner.reserve
  | _ => True

variable {ε : Type}

/-- An entity of a kind that is not packed panics. -/
theorem isPacked_of_packElement {entity : Entity} {elems : List Elem}
    (h : entity.packElement enc = (.ok elems : Outcome ε _)) : entity.isPacked = true := by
  cases entity <;> first | rfl | exact absurd h nofun

/-- The elements read as these entities, unless reading them panics. -/
def Reads (ε : Type) (x : Decoders) (elems : List Elem) (breaks : Bool) (entities : List Entity) : Prop :=
  fromElems x elems = (if breaks then .panic else .ok entities : Outcome ε _)

theorem reads_nil : Reads ε x [] false [] := rfl

/-- Messages one behind the other. -/
theorem Reads.append {elems elems' : List Elem} {breaks breaks' : Bool} {entities entities' : List Entity}
    (h : Reads ε x elems breaks entities) (h' : Reads ε x elems' breaks' entities') :
    Reads ε x (elems ++ elems') (breaks || breaks') (entities ++ entities') := by
  rw [Reads, fromElems] at h h'
  rw [Reads, fromElems, MessagePacker.filterMap_append, h]
  cases breaks with
  | true => rfl
  | false =>
    simp only [Bool.false_eq_true, if_false, ok_bind, h', Bool.false_or]
    cases breaks' <;> rfl

/-- One element. -/
theorem reads_elem {elem : Elem} {breaks : Bool} {entity : Option Entity}
    (h : unpackElement x elem = if breaks then .panic else orNone entity) : Reads ε x [elem] breaks entity.toList := by
  rw [Reads, fromElems, MessagePacker.filterMap, h]
  cases breaks <;> cases entity <;> rfl

theorem reads_ok {elem : Elem} {entity : Entity} (h : unpackElement x elem = .ok entity) :
    Reads ε x [elem] false [entity] := by
  have hno : unpackElement x elem = if false then .panic else orNone (some entity) := h
  exact reads_elem hno

/-! ### The kinds with an info -/

theorem image_refuses (h : Elem.isPicture common = false) : ImageEntity.unpackElement x common.alone = .err () := by
  have hfields : ¬ (common.serviceType = 48 ∧ (common.businessType = 10 ∨ common.businessType = 20)) :=
    of_decide_eq_false h
  simp [ImageEntity.unpackElement, Elem.picture, CommonElem.alone, Option.filter, hfields]

theorem record_refuses (h : Elem.isRecord common = false) : RecordEntity.unpackElement x common.alone = .err () := by
  have hfields : ¬ ((common.businessType = 22 ∨ common.businessType = 12) ∧ common.serviceType = 48) :=
    of_decide_eq_false h
  simp [RecordEntity.unpackElement, CommonElem.alone, hfields]

section
variable (hinfo : x.msgInfo (enc.msgInfo info) = .ok info)
include hinfo

/-- The picture is tried first, and the record refuses its business types. -/
theorem unpackElement_picture {businessType : UInt32} (h : businessType = 10 ∨ businessType = 20) :
    unpackElement x (mediaElem enc (some info) businessType) =
      if info.indexed then .panic else orNone (info.picture.map image <|> info.video.map video) := by
  let common : CommonElem := { serviceType := 48, pbElem := enc.msgInfo info, businessType }
  have hservice : common.serviceType = 48 := rfl
  have hdecoded : x.msgInfo common.pbElem = .ok info := hinfo
  have hnot : Elem.isRecord common = false :=
    Bool.eq_false_iff.mpr fun hrecord => not_record_of_picture h ((isRecord_iff hservice).mp hrecord)
  show unpackElement x common.alone = _
  rw [unpackElement_alone hservice, image_unpack hdecoded ((isPicture_iff hservice).mpr h), record_refuses hnot,
    video_unpack hdecoded hservice]
  cases info.indexed <;> cases info.picture <;> cases info.video <;> rfl

theorem unpackElement_record : unpackElement x (mediaElem enc (some info) 22) =
    orNone (info.record.map record <|> info.video.map video) := by
  let common : CommonElem := { serviceType := 48, pbElem := enc.msgInfo info, businessType := 22 }
  have hservice : common.serviceType = 48 := rfl
  have hdecoded : x.msgInfo common.pbElem = .ok info := hinfo
  have hnot : Elem.isPicture common = false := rfl
  have hrecord : Elem.isRecord common = true := rfl
  show unpackElement x common.alone = _
  rw [unpackElement_alone hservice, image_refuses hnot, record_unpack hdecoded hrecord, video_unpack hdecoded hservice]
  cases info.record <;> cases info.video <;> rfl

theorem unpackElement_video : unpackElement x (mediaElem enc (some info) 21) = orNone (info.video.map video) := by
  let common : CommonElem := { serviceType := 48, pbElem := enc.msgInfo info, businessType := 21 }
  have hservice : common.serviceType = 48 := rfl
  have hdecoded : x.msgInfo common.pbElem = .ok info := hinfo
  have hpicture : Elem.isPicture common = false := rfl
  have hrecord : Elem.isRecord common = false := rfl
  show unpackElement x common.alone = _
  rw [unpackElement_alone hservice, image_refuses hpicture, record_refuses hrecord, video_unpack hdecoded hservice]
  cases info.video <;> rfl

end

/-! ### The others -/

/-- A reply, at any time: its seconds are cut to 32 bits. -/
theorem unpackElement_reply {inner : ForwardEntity}
    (hpreserve : x.preserve (enc.preserve inner.reserve) = .ok inner.reserve) :
    ∃ elem, inner.packElement enc = [elem] ∧ unpackElement x elem = .ok (forward
      { time := (Int32.ofInt inner.time).toInt
        messageId := inner.messageId
        sequence := inner.messageId.toUInt32
        targetUin := inner.targetUin }) := by
  refine ⟨_, rfl, (ForwardEntity.unpackElement_srcMsg rfl hpreserve rfl).trans ?_⟩
  simp [ForwardEntity.reserve]

theorem unpackElement_mention (inner : MentionEntity) :
    ∃ elem, inner.packElement enc = [elem] ∧
      unpackElement x elem = orNone (inner.name.map fun name => text { text := name }) := by
  refine ⟨_, rfl, ?_⟩
  cases inner.name <;> rfl

/-- The body of a push, with what its elements read as. -/
theorem parseChain_reads (strategy : FetchGroupMemberStrategy) {q : Quoted} {message : Message} {breaks : Bool}
    {entities : List Entity} (h : Reads String x message.elems breaks entities) :
    (breaks = true → MessagePacker.parseChain x strategy (q.body message) = .panic) ∧
      (breaks = false → ∃ chain, MessagePacker.parseChain x strategy (q.body message) = .ok chain ∧
        chain.entities = entities) := by
  have hunpack : MessagePacker.filterMap (unpackElement x) (MessagePacker.richTextElems (q.body message)) =
      (if breaks then .panic else .ok entities : Outcome String _) := h
  have hgroup := MessagePacker.groupMemberInfo_total strategy q.responseHead
  rw [MessagePacker.parseChain, hunpack]
  simp only [Quoted.body, okOr_some, ok_bind, DateTime.fromTimestamp_uint32]
  refine ⟨fun hbreaks => by rw [if_pos hbreaks]; rfl, fun hbreaks => ?_⟩
  simp only [hbreaks, Bool.false_eq_true, if_false, ok_bind]
  cases q.responseHead.grp with
  | none => exact ⟨_, rfl, rfl⟩
  | some grp =>
    obtain ⟨info, hinfo⟩ := hgroup grp (MessagePacker.richTextElems (q.body message))
    exact ⟨_, bind_eq_ok.mpr ⟨info, hinfo, rfl⟩, rfl⟩

section
variable (hzlib : ∀ bs, x.decompress (enc.compress bs) = some bs)
include hzlib

/-- Service 35 is a forwarded message if its xml names one. -/
theorem unpackElement_service35 (s : String) : unpackElement x (rich enc 35 s) =
    .ok (((x.resId s).map fun resId => multiMsg { resId }).getD (xml { xml := s, serviceId := 35 })) := by
  have hjson : JsonEntity.unpackElement x (rich enc 35 s) = .err () := by
    simp [JsonEntity.unpackElement, rich]
  have hmultiMsg : MultiMsgEntity.unpackElement x (rich enc 35 s) =
      orNone ((x.resId s).map fun resId => { resId }) := by
    cases hresId : x.resId s <;> simp [MultiMsgEntity.unpackElement, rich, deflated, behindFirst_cons, hzlib, hresId]
  have hxml : XmlEntity.unpackElement x (rich enc 35 s) = .ok { xml := s, serviceId := 35 } := by
    simp [XmlEntity.unpackElement, rich, deflated, behindFirst_cons, hzlib]
  rw [unpackElement, unpackers, hjson, hmultiMsg, hxml]
  cases x.resId s <;> rfl

/-- Without an app the payload is taken by no kind. -/
theorem unpackElement_app (inner : LightAppEntity) :
    unpackElement x { lightAppElem := some { data := deflated enc inner.payload } } =
      orNone ((x.app inner.payload).map fun appName => lightApp { inner with appName }) := by
  cases happ : x.app inner.payload with
  | some appName => exact unpackElement_lightApp hzlib happ
  | none =>
    have hlightApp : LightAppEntity.unpackElement x { lightAppElem := some { data := deflated enc inner.payload } } =
        .err () := by
      simp [LightAppEntity.unpackElement, deflated, behindFirst_cons, hzlib, happ]
    rw [unpackElement, unpackers, hlightApp]
    rfl

theorem xml_reads (inner : XmlEntity) :
    unpackElement x (rich enc inner.serviceId inner.xml) = .ok
      (if inner.serviceId = 1 then json { json := inner.xml, resId := "" }
       else if inner.serviceId = 35 then ((x.resId inner.xml).map fun resId => multiMsg { resId }).getD (xml inner)
       else xml inner) := by
  obtain ⟨s, serviceId⟩ := inner
  by_cases hone : serviceId = 1
  · subst hone
    exact unpackElement_json hzlib s
  · by_cases hmulti : serviceId = 35
    · subst hmulti
      exact unpackElement_service35 hzlib s
    · simp only [hone, hmulti, if_false]
      exact unpackElement_xml hzlib hone hmulti s

/-! ## Messages -/

theorem entity_reads {entity : Entity} (hpacked : entity.isPacked = true) (hdecodes : Decodes x enc entity) :
    ∃ elems, entity.packElement enc = (.ok elems : Outcome ε _) ∧
      Reads ε x elems entity.breaksReader (entity.readAs x) := by
  cases entity with
  | text inner => exact ⟨_, rfl, reads_ok (unpackElement_text inner.text)⟩
  | json inner =>
    have htext : Reads ε x _ _ _ := reads_ok (unpackElement_text inner.resId)
    exact ⟨_, rfl, htext.append (reads_ok (unpackElement_json hzlib inner.json))⟩
  | image inner =>
    have hplain : Reads ε x [{ customFace := some inner.customFace, notOnlineImage := some inner.notOnlineImage }] false
        [image (.ofNotOnlineImage inner.notOnlineImage)] := reads_ok rfl
    refine ⟨_, rfl, hplain.append (reads_elem (unpackElement_picture hdecodes ?_))⟩
    split
    · exact .inr rfl
    · exact .inl rfl
  | forward inner =>
    obtain ⟨elem, hpack, hreads⟩ := unpackElement_reply hdecodes
    exact ⟨[elem], congrArg Outcome.ok hpack, reads_ok hreads⟩
  | lightApp inner => exact ⟨_, rfl, reads_elem (unpackElement_app hzlib inner)⟩
  | mention inner =>
    have hmention : ∃ elem, inner.packElement enc = [elem] ∧ unpackElement x elem = _ := unpackElement_mention inner
    obtain ⟨elem, hpack, hreads⟩ := hmention
    exact ⟨[elem], congrArg Outcome.ok hpack, reads_elem hreads⟩
  | record inner => exact ⟨_, rfl, reads_elem (unpackElement_record hdecodes)⟩
  | video inner => exact ⟨_, rfl, reads_elem (unpackElement_video hdecodes)⟩
  | xml inner => exact ⟨_, rfl, reads_ok (xml_reads hzlib inner)⟩
  | face _ | marketFace _ | multiMsg _ | file _ | longMsg _ | extraInfo _ | extraGeneralFlags _ => cases hpacked

theorem entities_read {entities : List Entity} (hpacked : ∀ entity ∈ entities, entity.isPacked = true)
    (hdecodes : ∀ entity ∈ entities, Decodes x enc entity) :
    ∃ elems, entities.mapM (packElement enc) = (.ok elems : Outcome ε _) ∧
      Reads ε x elems.flatten (entities.any breaksReader) (entities.flatMap (readAs x)) := by
  induction entities with
  | nil => exact ⟨[], rfl, reads_nil⟩
  | cons entity entities ih =>
    obtain ⟨first, hfirst, hread⟩ := entity_reads (ε := ε) hzlib (hpacked entity List.mem_cons_self)
      (hdecodes entity List.mem_cons_self)
    obtain ⟨rest, hrest, hreads⟩ := ih (fun e he => hpacked e (List.mem_cons_of_mem entity he))
      (fun e he => hdecodes e (List.mem_cons_of_mem entity he))
    refine ⟨first :: rest, ?_, ?_⟩
    · rw [List.mapM_cons, hfirst, ok_bind, hrest]
      rfl
    · rw [List.flatten_cons, List.any_cons, List.flatMap_cons]
      exact hread.append hreads

/-- A message is built if all its entities are of kinds that are packed. -/
theorem built_reads (now : Int) {chain : MessageChain} (hpacked : ∀ entity ∈ chain.entities, entity.isPacked = true)
    (hdecodes : ∀ entity ∈ chain.entities, Decodes x enc entity) :
    ∃ message, MessagePacker.build enc now chain = (.ok message : Outcome ε _) ∧
      Reads ε x message.elems (chain.entities.any breaksReader) (chain.entities.flatMap (readAs x)) := by
  obtain ⟨elems, helems, hreads⟩ := entities_read (ε := ε) hzlib hpacked hdecodes
  have hcontent : MessagePacker.firstContent chain.entities = (.ok none : Outcome ε _) := by
    refine MessagePacker.firstContent_none fun entity hentity => ?_
    have hentityPacked := hpacked entity hentity
    cases entity <;> first | rfl | exact absurd hentityPacked nofun
  rw [MessagePacker.build, MessagePacker.buildPacketBase, helems, ok_bind, hcontent, ok_bind]
  exact ⟨_, rfl, hreads⟩

/-- **What a sent message reads as.** A message is built exactly if all its
entities are of kinds that are packed. The body it arrives in parses to a
chain of what each entity reads as, in order, unless a picture in it breaks
the reader. -/
theorem sent_reads (strategy : FetchGroupMemberStrategy) (now : Int) (q : Quoted)
    (hdecodes : ∀ entity ∈ q.chain.entities, Decodes x enc entity) :
    ((∃ message, MessagePacker.build enc now q.chain = (.ok message : Outcome String _)) ↔
        ∀ entity ∈ q.chain.entities, entity.isPacked = true) ∧
      ∀ message, MessagePacker.build enc now q.chain = (.ok message : Outcome String _) →
        (q.chain.entities.any breaksReader = true → MessagePacker.parseChain x strategy (q.body message) = .panic) ∧
        (q.chain.entities.any breaksReader = false → ∃ chain,
          MessagePacker.parseChain x strategy (q.body message) = .ok chain ∧
            chain.entities = q.chain.entities.flatMap (readAs x)) := by
  have hpacked {message : Message} (hbuild : MessagePacker.build enc now q.chain = (.ok message : Outcome String _)) :
      ∀ entity ∈ q.chain.entities, entity.isPacked = true := by
    intro entity hentity
    obtain ⟨elems, hok, -⟩ := MessagePacker.build_elems hbuild hentity
    exact isPacked_of_packElement hok
  refine ⟨⟨fun ⟨message, hbuild⟩ => hpacked hbuild, fun h => ?_⟩, fun message hbuild => ?_⟩
  · obtain ⟨message, hbuild, -⟩ := built_reads (ε := String) hzlib now h hdecodes
    exact ⟨message, hbuild⟩
  · obtain ⟨message', hbuild', hreads⟩ := built_reads hzlib now (hpacked hbuild) hdecodes
    rw [hbuild] at hbuild'
    cases hbuild'
    exact parseChain_reads strategy hreads

end

/-! ### A picture and a record without a hash -/

/-- zlib as on the samples, and protobuf on the info of the bare picture. -/
def bareEncoders : Encoders := { sampleEncoders with msgInfo := fun _ => barePicture.pbElem }

def bareDecoders : Decoders := { sampleDecoders with msgInfo := barePictureDecoders.msgInfo }

def bareImage : ImageEntity where
  height := 0
  width := 0
  filePath := none
  md5 := []
  size := 0
  url := ""
  msgInfo := some barePicture.info
  notOnlineImage := .default
  customFace := .default
  summary := none
  subType := 0
  isGroup := false

def bareRecord : RecordEntity where
  audioLength := 0
  audioMd5 := []
  audioName := ""
  audioUuid := none
  fileSha1 := none
  msgInfo := some barePicture.info

/-- What the video makes of the info. -/
def bareVideo : VideoEntity where
  fileName := ""
  height := 0
  width := 0
  videoSize := 0
  videoLength := 0
  node := some
    { info := some { fileSize := 0, fileHash := "zz", fileName := "", width := 0, height := 0, time := 0 }
      fileUuid := "" }

/-- A group message of these, with a mention. -/
def bareQuoted : Quoted where
  responseHead :=
    { fromUin := 7, fromUid := some "u", toUin := 0, toUid := none
      grp := some { groupCode := some 9, groupCard := some "c" } }
  contentHead :=
    { type := 82, subType := none, sequence := some 5, timeStamp := some 100, ntMsgSeq := none, msgUid := none }
  chain :=
    { sampleChain with entities := [mention { uin := 7, name := some "@a" }, image bareImage, record bareRecord] }

theorem sent_reads_bare : (∀ entity ∈ bareQuoted.chain.entities, Decodes bareDecoders bareEncoders entity) ∧
    ∃ message chain, MessagePacker.build bareEncoders 0 bareQuoted.chain = (.ok message : Outcome String _) ∧
      MessagePacker.parseChain bareDecoders .simple (bareQuoted.body message) = .ok chain ∧
        chain.entities =
          [text { text := "@a" }, image (.ofNotOnlineImage .default), video bareVideo, video bareVideo] := by
  have hdecodes : ∀ entity ∈ bareQuoted.chain.entities, Decodes bareDecoders bareEncoders entity := by
    intro entity hentity
    simp only [bareQuoted, List.mem_cons, List.not_mem_nil, or_false] at hentity
    rcases hentity with rfl | rfl | rfl
    · trivial
    · rfl
    · rfl
  have hpacked : ∀ entity ∈ bareQuoted.chain.entities, entity.isPacked = true := by simp [bareQuoted, isPacked]
  have hzlib (bs : Bytes) : bareDecoders.decompress (bareEncoders.compress bs) = some bs := sample_inverts bs
  have hreads := sent_reads hzlib .simple 0 bareQuoted hdecodes
  obtain ⟨message, hbuild⟩ := hreads.1.mpr hpacked
  obtain ⟨chain, hparse, hentities⟩ := (hreads.2 message hbuild).2 rfl
  exact ⟨hdecodes, message, chain, hbuild, hparse, hentities⟩

end Entity

end Mania
