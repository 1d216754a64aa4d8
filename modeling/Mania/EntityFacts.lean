/-
When unpacking an element panics.

The kinds are tried in order, so a panic of one kind is reached only when
no kind before it takes the element. `Elem.outlooks` says for every kind,
from the fields of the element, whether it takes it and whether it panics;
`unpackElement_eq_panic` puts them together.
-/
import Mania.MessagePacker

namespace Mania

open HexString Outcome PacketReader

/-! ## What the fields say -/

namespace Elem

/-- The template of a rich message with a service id in `p`. -/
def template (p : Int32 → Bool) (elem : Elem) : Option Bytes :=
  elem.richMsg.bind fun richMsg => if richMsg.serviceId.any p then richMsg.template1 else none

variable (x : Decoders)

/-- The text behind the first byte, inflated. -/
def inflated (bs : Bytes) : Option String :=
  if bs.isEmpty then none else (x.decompress (bs.drop 1)).bind Utf8.fromUtf8

/-- The `MsgInfo` of a common element in `p`. -/
def msgInfo (p : CommonElem → Bool) (elem : Elem) : Option MsgInfo :=
  (elem.commonElem.filter p).bind fun common => (x.msgInfo common.pbElem).toOption

/-- The file of the first body. -/
def fileInfo (info : MsgInfo) : Option FileInfo := (info.msgInfoBody.head?.bind (·.index)).bind (·.info)

def isPicture (common : CommonElem) : Bool :=
  common.serviceType = 48 ∧ (common.businessType = 10 ∨ common.businessType = 20)

def isRecord (common : CommonElem) : Bool :=
  (common.businessType = 22 ∨ common.businessType = 12) ∧ common.serviceType = 48

def hasHash (info : FileInfo) : Bool := (unhex info.fileHash).isSome

/-- A quoted message whose reserve decodes. -/
def quoted (elem : Elem) : Option SrcMsg :=
  elem.srcMsg.filter fun src => (src.pbReserve.bind fun bs => (x.preserve bs).toOption).isSome

/-- The value of a group file. -/
def groupFile (elem : Elem) : Option Bytes :=
  (elem.transElem.filter fun trans => trans.elemType = 24).map (·.elemValue)

def groupFileInfo (bs : Bytes) : Option GroupFileExtraInfo :=
  if lengthed (bs.drop 1) then ((x.groupFileExtra (behindLength (bs.drop 1))).toOption.bind (·.inner)).bind (·.info)
  else none

variable (elem : Elem)

def textOutlook : Outlook where
  answers := elem.text.any fun text => text.str.isSome && text.attr6Buf.all (·.isEmpty)
  panics := false

def jsonOutlook : Outlook where
  answers := (elem.template (· = 1)).any fun bs => (inflated x bs).isSome
  panics := (elem.template (· = 1)).any (·.isEmpty)

def imageOutlook : Outlook where
  answers :=
    if (elem.commonElem.filter isPicture).isSome then
      (elem.msgInfo x isPicture).any fun info => info.extBizInfo.any (·.pic.isSome) && (fileInfo info).any hasHash
    else elem.notOnlineImage.isSome || elem.customFace.isSome
  panics := (elem.msgInfo x isPicture).any fun info => info.extBizInfo.isSome && info.msgInfoBody.isEmpty

def faceOutlook : Outlook where
  answers := elem.face.any (fun face => face.old.isSome && face.index.isSome) ||
    elem.commonElem.any fun common =>
      (common.serviceType = 37 && (x.qBigFaceExtra common.pbElem).toOption.any (·.faceId.isSome)) ||
      (common.serviceType = 33 && (x.qSmallFaceExtra common.pbElem).toOption.isSome)
  panics := false

def forwardOutlook : Outlook where
  answers := (elem.quoted x).any fun src => !src.origSeqs.isEmpty
  panics := (elem.quoted x).any (·.origSeqs.isEmpty)

def marketFaceOutlook : Outlook where
  answers := elem.marketFace.any fun face =>
    face.faceId.isSome && face.tabId.isSome && face.key.isSome && face.faceName.isSome
  panics := false

def lightAppOutlook : Outlook where
  answers := elem.lightAppElem.any fun app => (inflated x app.data).any fun payload => (x.app payload).isSome
  panics := elem.lightAppElem.any (·.data.isEmpty)

def multiMsgOutlook : Outlook where
  answers := (elem.template (· = 35)).any fun bs => (inflated x bs).any fun xml => (x.resId xml).isSome
  panics := (elem.template (· = 35)).any (·.isEmpty)

def mentionOutlook : Outlook where
  answers := elem.text.any fun text => text.str.isSome && text.attr6Buf.any (11 ≤ ·.length)
  panics := false

def fileOutlook : Outlook where
  answers := elem.groupFile.any fun bs => (groupFileInfo x bs).any fun info => (unhex info.fileMd5).isSome
  panics := elem.groupFile.any fun bs => !lengthed (bs.drop 1)

def recordOutlook : Outlook where
  answers := (elem.msgInfo x isRecord).any fun info => (fileInfo info).any hasHash
  panics := false

def videoOutlook : Outlook where
  answers := (elem.msgInfo x (·.serviceType = 48)).any fun info => (fileInfo info).isSome
  panics := false

def xmlOutlook : Outlook where
  answers := (elem.template fun _ => true).any fun bs => (inflated x bs).isSome
  panics := (elem.template fun _ => true).any (·.isEmpty)

def longMsgOutlook : Outlook where
  answers := elem.generalFlags.any fun general => general.longTextResId.isSome && general.longTextFlag = 1
  panics := false

/-- The outlook of every kind, in the order they are tried. -/
def outlooks : List Outlook :=
  [elem.textOutlook, elem.jsonOutlook x, elem.imageOutlook x, elem.faceOutlook x, elem.forwardOutlook x,
   elem.marketFaceOutlook, elem.lightAppOutlook x, elem.multiMsgOutlook x, elem.mentionOutlook, elem.fileOutlook x,
   elem.recordOutlook x, elem.videoOutlook x, elem.xmlOutlook x, elem.longMsgOutlook]

end Elem

/-! ## Every kind has its outlook -/

theorem behindFirst_cons (b : UInt8) (bs : Bytes) : behindFirst (b :: bs) = .ok bs := by
  unfold behindFirst
  rw [slice_ok (by simp)]
  simp

variable (x : Decoders) (elem : Elem)

/-- Inflating what is behind the first byte, and going on with the text. -/
theorem inflate_fits {α : Type} (bs : Bytes) {f : String → Unpack α} {answers : String → Bool}
    (h : ∀ s, Fits (f s) { answers := answers s, panics := false }) :
    Fits (do
      let decompressed ← orNone (x.decompress (← behindFirst bs))
      let s ← orNone (Utf8.fromUtf8 decompressed)
      f s) { answers := (Elem.inflated x bs).any answers, panics := bs.isEmpty } := by
  cases bs with
  | nil => exact Fits.panic
  | cons b bs =>
    rw [behindFirst_cons]
    simp only [ok_bind, Elem.inflated, List.isEmpty_cons, List.drop_one, List.tail_cons]
    cases x.decompress bs with
    | none => exact Fits.err
    | some decompressed => simpa using Fits.okOr_bind (o := Utf8.fromUtf8 decompressed) h

theorem text_fits : Fits (TextEntity.unpackElement elem) elem.textOutlook := by
  unfold TextEntity.unpackElement Elem.textOutlook
  cases elem.text with
  | none => exact Fits.err
  | some text =>
    obtain ⟨str, attr6Buf⟩ := text
    cases str with
    | none => exact Fits.err
    | some s =>
      cases attr6Buf with
      | none => exact Fits.ok _
      | some buf => cases buf <;> first | exact Fits.ok _ | exact Fits.err

theorem json_fits : Fits (JsonEntity.unpackElement x elem) (elem.jsonOutlook x) := by
  unfold JsonEntity.unpackElement Elem.jsonOutlook Elem.template
  cases elem.richMsg with
  | none => exact Fits.err
  | some richMsg =>
    obtain ⟨template1, serviceId⟩ := richMsg
    cases serviceId with
    | none => exact Fits.err
    | some serviceId =>
      by_cases hservice : serviceId = 1
      · cases template1 with
        | none => simpa [hservice] using Fits.err
        | some bs =>
          have h := inflate_fits x bs fun json => Fits.ok ({ json, resId := "" } : JsonEntity)
          simpa [hservice] using h
      · simpa [hservice] using Fits.err

theorem multiMsg_fits : Fits (MultiMsgEntity.unpackElement x elem) (elem.multiMsgOutlook x) := by
  unfold MultiMsgEntity.unpackElement Elem.multiMsgOutlook Elem.template
  cases elem.richMsg with
  | none => exact Fits.err
  | some richMsg =>
    obtain ⟨template1, serviceId⟩ := richMsg
    cases serviceId with
    | none => exact Fits.err
    | some serviceId =>
      by_cases hservice : serviceId = 35
      · cases template1 with
        | none => simpa [hservice] using Fits.err
        | some bs =>
          have h := inflate_fits x bs fun xml => Fits.okOr_map (o := x.resId xml)
            (f := fun resId => ({ resId } : MultiMsgEntity))
          simpa [hservice] using h
      · cases template1 <;> simpa [hservice] using Fits.err

theorem xml_fits : Fits (XmlEntity.unpackElement x elem) (elem.xmlOutlook x) := by
  unfold XmlEntity.unpackElement Elem.xmlOutlook Elem.template
  cases elem.richMsg with
  | none => exact Fits.err
  | some richMsg =>
    obtain ⟨template1, serviceId⟩ := richMsg
    cases serviceId with
    | none => exact Fits.err
    | some serviceId =>
      cases template1 with
      | none => simpa using Fits.err
      | some bs =>
        have h := inflate_fits x bs fun xml => Fits.ok ({ xml, serviceId } : XmlEntity)
        simpa using h

theorem lightApp_fits : Fits (LightAppEntity.unpackElement x elem) (elem.lightAppOutlook x) := by
  unfold LightAppEntity.unpackElement Elem.lightAppOutlook
  cases elem.lightAppElem with
  | none => exact Fits.err
  | some lightApp =>
    have h := inflate_fits x lightApp.data fun payload => Fits.okOr_map (o := x.app payload)
      (f := fun appName => ({ appName, payload } : LightAppEntity))
    simpa using h

/-- The decoder of a picture, given what the bytes decode to. -/
theorem ofMsgInfo_fits (common : CommonElem) : Fits (ImageEntity.ofMsgInfo x common)
    { answers := (x.msgInfo common.pbElem).toOption.any fun info =>
        info.extBizInfo.any (·.pic.isSome) && (Elem.fileInfo info).any Elem.hasHash
      panics := (x.msgInfo common.pbElem).toOption.any fun info =>
        info.extBizInfo.isSome && info.msgInfoBody.isEmpty } := by
  unfold ImageEntity.ofMsgInfo
  simp only [Elem.fileInfo]
  cases (x.msgInfo common.pbElem).toOption with
  | none => exact Fits.err
  | some extra =>
    obtain ⟨msgInfoBody, extBizInfo⟩ := extra
    cases extBizInfo with
    | none => simpa using Fits.err
    | some extBizInfo =>
      cases msgInfoBody with
      | nil => simpa [index] using Fits.panic
      | cons body bodies =>
        obtain ⟨node⟩ := body
        cases node with
        | none => simpa [index] using Fits.err
        | some node =>
          obtain ⟨info, fileUuid⟩ := node
          cases info with
          | none => simpa [index] using Fits.err
          | some info =>
            obtain ⟨pic⟩ := extBizInfo
            cases hmd5 : unhex info.fileHash with
            | none => simpa [index, Elem.hasHash, hmd5] using Fits.err
            | some md5 =>
              cases pic with
              | none => simpa [index, hmd5] using Fits.err
              | some pic => simpa [index, Elem.hasHash, hmd5] using Fits.ok _

theorem image_fits : Fits (ImageEntity.unpackElement x elem) (elem.imageOutlook x) := by
  unfold ImageEntity.unpackElement Elem.imageOutlook Elem.picture
  have hpicture : (elem.commonElem.filter fun common =>
      decide (common.serviceType = 48 ∧ (common.businessType = 10 ∨ common.businessType = 20))) =
        elem.commonElem.filter Elem.isPicture := rfl
  rw [hpicture]
  simp only [Elem.msgInfo]
  cases elem.commonElem.filter Elem.isPicture with
  | none =>
    cases elem.notOnlineImage with
    | some image => exact Fits.ok _
    | none =>
      cases elem.customFace with
      | some face => exact Fits.ok _
      | none => exact Fits.err
  | some common => exact ofMsgInfo_fits x common

theorem face_fits : Fits (FaceEntity.unpackElement x elem) (elem.faceOutlook x) := by
  unfold FaceEntity.unpackElement Elem.faceOutlook
  have hcommon : Fits (do
      let common ← orNone elem.commonElem
      if common.serviceType = 37 then
        let qface ← orNone (x.qBigFaceExtra common.pbElem).toOption
        let id ← orNone qface.faceId
        .ok { faceId := id.toUInt32.toUInt16, isLargeFace := true }
      else if common.serviceType = 33 then
        let smallFace ← orNone (x.qSmallFaceExtra common.pbElem).toOption
        .ok { faceId := smallFace.faceId.toUInt16, isLargeFace := false }
      else .err () : Unpack FaceEntity)
      { answers := elem.commonElem.any fun common =>
          (common.serviceType = 37 && (x.qBigFaceExtra common.pbElem).toOption.any (·.faceId.isSome)) ||
          (common.serviceType = 33 && (x.qSmallFaceExtra common.pbElem).toOption.isSome)
        panics := false } := by
    refine Fits.okOr_bind fun common => ?_
    by_cases hbig : common.serviceType = 37
    · simpa [hbig] using Fits.okOr_bind fun qface => Fits.okOr_map
    · by_cases hsmall : common.serviceType = 33
      · simpa [hsmall] using Fits.okOr_map
      · simpa [hbig, hsmall] using Fits.err
  cases elem.face with
  | none => simpa using hcommon
  | some face =>
    obtain ⟨index, old⟩ := face
    cases index with
    | none => simpa using hcommon
    | some index =>
      cases old with
      | none => simpa using hcommon
      | some old => simpa using Fits.ok _

/-- Every time of 32 bits is in range. -/
theorem fromTimestamp_int32 (n : Int32) : DateTime.fromTimestamp n.toInt = some n.toInt := by
  have hle := n.le_toInt
  have hlt := n.toInt_lt
  unfold DateTime.fromTimestamp
  exact if_pos (by omega)

theorem forward_fits : Fits (ForwardEntity.unpackElement x elem) (elem.forwardOutlook x) := by
  unfold ForwardEntity.unpackElement Elem.forwardOutlook Elem.quoted
  cases elem.srcMsg with
  | none => exact Fits.err
  | some src =>
    obtain ⟨origSeqs, senderUin, time, pbReserve⟩ := src
    cases pbReserve with
    | none => exact Fits.err
    | some pbReserve =>
      cases hreserve : (x.preserve pbReserve).toOption with
      | none => simpa [hreserve] using Fits.err
      | some reserve =>
        have htime := fromTimestamp_int32 (time.getD 0)
        cases origSeqs with
        | nil => simpa [hreserve, htime, index] using Fits.panic
        | cons origSeq origSeqs => simpa [hreserve, htime, index] using Fits.ok _

theorem marketFace_fits : Fits (MarketFaceEntity.unpackElement elem) elem.marketFaceOutlook := by
  unfold MarketFaceEntity.unpackElement Elem.marketFaceOutlook
  cases elem.marketFace with
  | none => exact Fits.err
  | some face =>
    obtain ⟨faceName, faceId, tabId, key⟩ := face
    cases faceId <;> cases tabId <;> cases key <;> cases faceName <;> first | exact Fits.ok _ | exact Fits.err

theorem mention_fits : Fits (MentionEntity.unpackElement elem) elem.mentionOutlook := by
  unfold MentionEntity.unpackElement Elem.mentionOutlook
  cases elem.text with
  | none => exact Fits.err
  | some text =>
    obtain ⟨str, attr6Buf⟩ := text
    cases str with
    | none => exact Fits.err
    | some s =>
      cases attr6Buf with
      | none => exact Fits.err
      | some buf =>
        by_cases hlen : 11 ≤ buf.length
        · simpa [hlen, slice_ok] using Fits.ok _
        · simpa [hlen] using Fits.err

theorem record_fits : Fits (RecordEntity.unpackElement x elem) (elem.recordOutlook x) := by
  unfold RecordEntity.unpackElement Elem.recordOutlook Elem.msgInfo
  cases elem.commonElem with
  | none => exact Fits.err
  | some common =>
    by_cases hrecord : Elem.isRecord common = true
    · have hfields := of_decide_eq_true hrecord
      simp only [okOr_some, ok_bind, if_pos hfields, Option.filter, hrecord, if_true, Option.bind_some, Elem.fileInfo]
      refine Fits.okOr_bind fun info => ?_
      cases info.msgInfoBody.head? with
      | none => exact Fits.err
      | some body =>
        obtain ⟨index⟩ := body
        cases index with
        | none => exact Fits.err
        | some index =>
          obtain ⟨file, fileUuid⟩ := index
          cases file with
          | none => exact Fits.err
          | some file => exact Fits.okOr_map
    · have hfields : ¬ ((common.businessType = 22 ∨ common.businessType = 12) ∧ common.serviceType = 48) :=
        fun h => hrecord (decide_eq_true h)
      simpa [hfields, Option.filter, hrecord] using Fits.err

theorem video_fits : Fits (VideoEntity.unpackElement x elem) (elem.videoOutlook x) := by
  unfold VideoEntity.unpackElement Elem.videoOutlook Elem.msgInfo
  cases elem.commonElem with
  | none => exact Fits.err
  | some common =>
    by_cases hservice : common.serviceType = 48
    · simp only [okOr_some, ok_bind, hservice, if_true, Option.filter, decide_true, Option.bind_some, Elem.fileInfo]
      refine Fits.okOr_bind fun info => ?_
      cases info.msgInfoBody.head? with
      | none => exact Fits.err
      | some body =>
        obtain ⟨index⟩ := body
        cases index with
        | none => exact Fits.err
        | some index =>
          obtain ⟨file, fileUuid⟩ := index
          cases file with
          | none => exact Fits.err
          | some file => exact Fits.ok _
    · simpa [hservice, Option.filter] using Fits.err

theorem longMsg_fits : Fits (LongMsgEntity.unpackElement elem) elem.longMsgOutlook := by
  unfold LongMsgEntity.unpackElement Elem.longMsgOutlook
  cases elem.generalFlags with
  | none => exact Fits.err
  | some general =>
    obtain ⟨flag, resId, reserve⟩ := general
    cases resId with
    | none => exact Fits.err
    | some resId =>
      by_cases hflag : flag = 1
      · simpa [hflag] using Fits.ok _
      · simpa [hflag] using Fits.err

theorem payload_new (bs : Bytes) : PacketReader.new bs FileEntity.payload =
    if lengthed (bs.drop 1) then .ok (behindLength (bs.drop 1)) else .panic := by
  cases bs with
  | nil => rfl
  | cons b bs =>
    unfold PacketReader.new FileEntity.payload
    have hadvance : (Cursor.advance 1 : Cursor Unit Unit).run (b :: bs) = .ok ((), bs) := by
      simp [Cursor.advance_eq_ok]
    rw [StateT.run_bind, hadvance, ok_bind]
    show Prod.fst <$> StateT.run _ bs = _
    rw [readWithLength_u16_run]
    simp only [List.drop_one, List.tail_cons]
    split <;> rfl

theorem file_fits : Fits (FileEntity.unpackElement x elem) (elem.fileOutlook x) := by
  unfold FileEntity.unpackElement Elem.fileOutlook Elem.groupFile
  cases elem.transElem with
  | none => exact Fits.err
  | some trans =>
    by_cases htype : trans.elemType = 24
    · simp only [okOr_some, ok_bind, payload_new, Option.filter, htype, decide_true, if_true,
        Option.map_some, Option.any_some, Elem.groupFileInfo]
      cases lengthed (trans.elemValue.drop 1) with
      | false => exact Fits.panic
      | true =>
        simp only [if_true, ok_bind, Bool.not_true]
        cases (x.groupFileExtra (behindLength (trans.elemValue.drop 1))).toOption with
        | none => exact Fits.err
        | some extra =>
          obtain ⟨inner⟩ := extra
          cases inner with
          | none => exact Fits.err
          | some inner =>
            obtain ⟨info⟩ := inner
            cases info with
            | none => exact Fits.err
            | some info => exact Fits.okOr_map
    · simpa [htype, Option.filter] using Fits.err

/-! ## An element -/

theorem unpackers_fit : List.Forall₂ Fits (Entity.unpackers x elem) (elem.outlooks x) := by
  unfold Entity.unpackers Elem.outlooks
  exact .cons ((text_fits elem).map _) <| .cons ((json_fits x elem).map _) <| .cons ((image_fits x elem).map _) <|
    .cons ((face_fits x elem).map _) <| .cons ((forward_fits x elem).map _) <| .cons ((marketFace_fits elem).map _) <|
    .cons ((lightApp_fits x elem).map _) <| .cons ((multiMsg_fits x elem).map _) <| .cons ((mention_fits elem).map _) <|
    .cons ((file_fits x elem).map _) <| .cons ((record_fits x elem).map _) <| .cons ((video_fits x elem).map _) <|
    .cons ((xml_fits x elem).map _) <| .cons ((longMsg_fits elem).map _) .nil

/-- An element that panics: some kind does, and no kind before it takes the
element. -/
def Elem.breaks : Bool := Outlook.reachesPanic (elem.outlooks x)

theorem unpackElement_eq_panic : Entity.unpackElement x elem = .panic ↔ elem.breaks x = true :=
  firstSome_eq_panic (unpackers_fit x elem)

theorem extraInfo_fits :
    Fits (ExtraInfoEntity.unpackElement elem) { answers := elem.extraInfo.isSome, panics := false } :=
  Fits.okOr_map

theorem extraGeneralFlags_fits : Fits (ExtraGeneralFlagsEntity.unpackElement elem)
    { answers := elem.generalFlags.any fun flags => flags.pbReserve.any fun data =>
        data.levelPermission.any fun pr => pr.permission.isSome && pr.newLevel.isSome
      panics := false } := by
  unfold ExtraGeneralFlagsEntity.unpackElement
  refine Fits.okOr_bind fun flags => Fits.okOr_bind fun data => Fits.okOr_bind fun pr => ?_
  obtain ⟨permission, newLevel⟩ := pr
  cases permission <;> cases newLevel <;> first | exact Fits.ok _ | exact Fits.err

/-- Unpacking an extra element does not panic. -/
theorem unpackExtraElement_ne_panic : Entity.unpackExtraElement elem ≠ .panic := by
  have h : List.Forall₂ Fits _ _ :=
    .cons ((extraInfo_fits elem).map Entity.extraInfo)
      (.cons ((extraGeneralFlags_fits elem).map Entity.extraGeneralFlags) .nil)
  rw [Entity.unpackExtraElement, ne_eq, firstSome_eq_panic h]
  simp [Outlook.reachesPanic]

end Mania
