/-
What an element with nothing but a common element of service 48 is reported
as: only the picture, the record and the video look at it, in this order,
and the video takes what the two before it refuse
(`decidedByBusiness_iff`).
-/
import Mania.EntityFacts

namespace Mania

open HexString Outcome

/-- An element with this common element alone. -/
def CommonElem.alone (common : CommonElem) : Elem := { commonElem := some common }

namespace Entity

/-- The kinds that a business type stands for. -/
def OfBusiness (businessType : UInt32) : Entity → Prop
  | image _ => businessType = 10 ∨ businessType = 20
  | record _ => businessType = 12 ∨ businessType = 22
  | video _ => ¬ (businessType = 10 ∨ businessType = 20) ∧ ¬ (businessType = 12 ∨ businessType = 22)
  | _ => False

/-- The element is reported as a kind its business type stands for, or not
at all. -/
def DecidedByBusiness (x : Decoders) (common : CommonElem) : Prop :=
  unpackElement x common.alone = .err () ∨
    ∃ entity, unpackElement x common.alone = .ok entity ∧ entity.OfBusiness common.businessType

/-- The info of a picture or a record is one that its own decoder takes, or
that the video's refuses too. -/
structure Complete (businessType : UInt32) (info : MsgInfo) : Prop where
  bodies : businessType = 10 ∨ businessType = 20 → info.msgInfoBody = [] → info.extBizInfo = none
  picture : businessType = 10 ∨ businessType = 20 → ∀ file, Elem.fileInfo info = some file →
    Elem.hasHash file ∧ info.extBizInfo.any (·.pic.isSome)
  record : businessType = 12 ∨ businessType = 22 → ∀ file, Elem.fileInfo info = some file → Elem.hasHash file

variable {x : Decoders} {common : CommonElem}

/-- The other kinds look at fields the element does not have, or at other
services. -/
theorem unpackElement_alone (hservice : common.serviceType = 48) :
    unpackElement x common.alone = firstSome
      [image <$> ImageEntity.unpackElement x common.alone, record <$> RecordEntity.unpackElement x common.alone,
       video <$> VideoEntity.unpackElement x common.alone] := by
  have hface : FaceEntity.unpackElement x common.alone = .err () := by
    simp [FaceEntity.unpackElement, CommonElem.alone, hservice]
  have hxml : XmlEntity.unpackElement x common.alone = .err () := rfl
  have hlong : LongMsgEntity.unpackElement common.alone = .err () := rfl
  rw [unpackElement, unpackers, hface, hxml, hlong]
  cases himage : ImageEntity.unpackElement x common.alone with
  | ok entity => rfl
  | panic => rfl
  | err e =>
    cases hrecord : RecordEntity.unpackElement x common.alone with
    | ok entity => rfl
    | panic => rfl
    | err e =>
      cases hvideo : VideoEntity.unpackElement x common.alone <;> rfl

/-! ## The three decoders -/

theorem isPicture_iff (hservice : common.serviceType = 48) :
    Elem.isPicture common = true ↔ common.businessType = 10 ∨ common.businessType = 20 := by
  simp [Elem.isPicture, hservice]

theorem isRecord_iff (hservice : common.serviceType = 48) :
    Elem.isRecord common = true ↔ common.businessType = 12 ∨ common.businessType = 22 := by
  simp [Elem.isRecord, hservice, or_comm]

theorem imageOutlook_alone {info : MsgInfo} (hinfo : x.msgInfo common.pbElem = .ok info) :
    common.alone.imageOutlook x =
      { answers := Elem.isPicture common && (info.extBizInfo.any (·.pic.isSome) && (Elem.fileInfo info).any Elem.hasHash)
        panics := Elem.isPicture common && (info.extBizInfo.isSome && info.msgInfoBody.isEmpty) } := by
  cases hpicture : Elem.isPicture common <;>
    simp [Elem.imageOutlook, CommonElem.alone, Elem.msgInfo, Option.filter, hpicture, hinfo, Except.toOption]

theorem recordOutlook_alone {info : MsgInfo} (hinfo : x.msgInfo common.pbElem = .ok info) :
    common.alone.recordOutlook x =
      { answers := Elem.isRecord common && (Elem.fileInfo info).any Elem.hasHash, panics := false } := by
  cases hrecord : Elem.isRecord common <;>
    simp [Elem.recordOutlook, CommonElem.alone, Elem.msgInfo, Option.filter, hrecord, hinfo, Except.toOption]

theorem videoOutlook_alone {info : MsgInfo} (hservice : common.serviceType = 48)
    (hinfo : x.msgInfo common.pbElem = .ok info) :
    common.alone.videoOutlook x = { answers := (Elem.fileInfo info).isSome, panics := false } := by
  simp [Elem.videoOutlook, CommonElem.alone, Elem.msgInfo, Option.filter, hservice, hinfo, Except.toOption]

/-- Undecodable bytes are refused three times. -/
theorem unpackElement_undecodable (hservice : common.serviceType = 48) {e : DecodeError}
    (hinfo : x.msgInfo common.pbElem = .error e) : unpackElement x common.alone = .err () := by
  have himage : ImageEntity.unpackElement x common.alone = .err () := by
    cases hpicture : Elem.isPicture common <;>
      simp only [Elem.isPicture, decide_eq_true_eq, decide_eq_false_iff_not] at hpicture <;>
      simp [ImageEntity.unpackElement, Elem.picture, CommonElem.alone, Option.filter, hpicture, ImageEntity.ofMsgInfo,
        hinfo, Except.toOption]
  have hrecord : RecordEntity.unpackElement x common.alone = .err () := by
    simp [RecordEntity.unpackElement, CommonElem.alone, hinfo, Except.toOption]
  have hvideo : VideoEntity.unpackElement x common.alone = .err () := by
    simp [VideoEntity.unpackElement, CommonElem.alone, hinfo, Except.toOption]
  rw [unpackElement_alone hservice, himage, hrecord, hvideo]
  rfl

/-- Whether the record and the video, in this order, report the element as
a kind its business type stands for. -/
theorem recordOrVideo_outlooks (hservice : common.serviceType = 48) {info : MsgInfo}
    (hinfo : x.msgInfo common.pbElem = .ok info) {reported : Outcome Unit Entity}
    (hreported : reported = firstSome
      [record <$> RecordEntity.unpackElement x common.alone, video <$> VideoEntity.unpackElement x common.alone]) :
    (reported = .err () ∨ ∃ entity, reported = .ok entity ∧ entity.OfBusiness common.businessType) ↔
      (common.alone.recordOutlook x).answers = true ∨ (common.alone.videoOutlook x).answers = false ∨
        (Elem.isPicture common = false ∧ Elem.isRecord common = false) := by
  have hrecordPanics : (common.alone.recordOutlook x).panics = false := by rw [recordOutlook_alone hinfo]
  have hvideoPanics : (common.alone.videoOutlook x).panics = false := by rw [videoOutlook_alone hservice hinfo]
  rw [hreported]
  rcases (record_fits x common.alone).cases with ⟨-, hp⟩ | ⟨entity, hr, ha, -⟩ | ⟨hr, hrefuses, -⟩
  · rw [hrecordPanics] at hp
    cases hp
  · have hrecord : Elem.isRecord common = true := by
      rw [recordOutlook_alone hinfo] at ha
      exact (Bool.and_eq_true_iff.mp ha).1
    simp [firstSome, hr, ha, OfBusiness, (isRecord_iff hservice).mp hrecord]
  · rcases (video_fits x common.alone).cases with ⟨-, hp⟩ | ⟨entity, hv, ha, -⟩ | ⟨hv, ha, -⟩
    · rw [hvideoPanics] at hp
      cases hp
    · simp only [Bool.eq_false_iff, ne_eq, isPicture_iff hservice, isRecord_iff hservice]
      simp [firstSome, hr, hv, hrefuses, ha, OfBusiness]
    · simp [firstSome, hr, hv, ha]

/-- Which of the three reports the element: it is one its business type
stands for unless the video gets a picture or a record. -/
theorem decidedByBusiness_outlooks (hservice : common.serviceType = 48) {info : MsgInfo}
    (hinfo : x.msgInfo common.pbElem = .ok info) :
    DecidedByBusiness x common ↔ (common.alone.imageOutlook x).panics = false ∧
      ((common.alone.imageOutlook x).answers = true ∨ (common.alone.recordOutlook x).answers = true ∨
        (common.alone.videoOutlook x).answers = false ∨
        (Elem.isPicture common = false ∧ Elem.isRecord common = false)) := by
  rw [DecidedByBusiness, unpackElement_alone hservice]
  rcases (image_fits x common.alone).cases with ⟨hi, hp⟩ | ⟨entity, hi, ha, hp⟩ | ⟨hi, ha, hp⟩
  · simp [firstSome, hi, hp]
  · have hpicture : Elem.isPicture common = true := by
      rw [imageOutlook_alone hinfo] at ha
      exact (Bool.and_eq_true_iff.mp ha).1
    simp [firstSome, hi, ha, hp, OfBusiness, (isPicture_iff hservice).mp hpicture]
  · rw [hi]
    simp only [ha, hp, Bool.false_eq_true, false_or, true_and]
    exact recordOrVideo_outlooks hservice hinfo rfl

/-- A picture's business type is not a record's. -/
theorem not_record_of_picture {businessType : UInt32} (h : businessType = 10 ∨ businessType = 20) :
    ¬ (businessType = 12 ∨ businessType = 22) := by
  rcases h with rfl | rfl <;> decide

/-- A picture's info is complete if the picture takes it or the video
refuses it. -/
theorem complete_picture_iff {businessType : UInt32} (hbusiness : businessType = 10 ∨ businessType = 20) (info : MsgInfo) :
    ((info.extBizInfo.isSome && info.msgInfoBody.isEmpty) = false ∧
      ((info.extBizInfo.any (·.pic.isSome) && (Elem.fileInfo info).any Elem.hasHash) = true ∨
        (Elem.fileInfo info).isSome = false)) ↔ Complete businessType info := by
  constructor
  · rintro ⟨hpanics, htakes⟩
    refine ⟨fun _ hnil => ?_, fun _ file hfile => ?_, fun hrecord => ?_⟩
    · simpa [hnil] using hpanics
    · simpa [hfile, and_comm] using htakes
    · exact absurd hrecord (not_record_of_picture hbusiness)
  · rintro ⟨hbodies, hpicture, -⟩
    refine ⟨?_, ?_⟩
    · cases hnil : info.msgInfoBody with
      | nil => simp [hbodies hbusiness hnil]
      | cons body bodies => simp
    · cases hfile : Elem.fileInfo info with
      | none => simp
      | some file => simpa [and_comm] using hpicture hbusiness file hfile

/-- So is a record's. -/
theorem complete_record_iff {businessType : UInt32} (hbusiness : businessType = 12 ∨ businessType = 22) (info : MsgInfo) :
    ((Elem.fileInfo info).any Elem.hasHash = true ∨ (Elem.fileInfo info).isSome = false) ↔ Complete businessType info := by
  constructor
  · intro htakes
    refine ⟨fun hpicture => ?_, fun hpicture => ?_, fun _ file hfile => ?_⟩
    · exact absurd hbusiness (not_record_of_picture hpicture)
    · exact absurd hbusiness (not_record_of_picture hpicture)
    · simpa [hfile] using htakes
  · rintro ⟨-, -, hhash⟩
    cases hfile : Elem.fileInfo info with
    | none => simp
    | some file => simp [hhash hbusiness file hfile]

/-- The outlooks of the three, in terms of the info. -/
theorem outlooks_complete_iff (hservice : common.serviceType = 48) {info : MsgInfo}
    (hinfo : x.msgInfo common.pbElem = .ok info) :
    ((common.alone.imageOutlook x).panics = false ∧
      ((common.alone.imageOutlook x).answers = true ∨ (common.alone.recordOutlook x).answers = true ∨
        (common.alone.videoOutlook x).answers = false ∨
        (Elem.isPicture common = false ∧ Elem.isRecord common = false))) ↔ Complete common.businessType info := by
  rw [imageOutlook_alone hinfo, recordOutlook_alone hinfo, videoOutlook_alone hservice hinfo]
  have hpic := isPicture_iff hservice
  have hrec := isRecord_iff hservice
  by_cases hpicture : common.businessType = 10 ∨ common.businessType = 20
  · have hnot : Elem.isRecord common = false :=
      Bool.eq_false_iff.mpr fun h => not_record_of_picture hpicture (hrec.mp h)
    rw [← complete_picture_iff hpicture, hpic.mpr hpicture, hnot]
    simp
  · have hnot : Elem.isPicture common = false := Bool.eq_false_iff.mpr fun h => hpicture (hpic.mp h)
    by_cases hrecord : common.businessType = 12 ∨ common.businessType = 22
    · rw [← complete_record_iff hrecord, hnot, hrec.mpr hrecord]
      simp
    · have hnot' : Elem.isRecord common = false := Bool.eq_false_iff.mpr fun h => hrecord (hrec.mp h)
      exact iff_of_true (by simp [hnot, hnot'])
        ⟨fun h => absurd h hpicture, fun h => absurd h hpicture, fun h => absurd h hrecord⟩

theorem decidedByBusiness_of_info (hservice : common.serviceType = 48) {info : MsgInfo}
    (hinfo : x.msgInfo common.pbElem = .ok info) :
    DecidedByBusiness x common ↔ Complete common.businessType info :=
  (decidedByBusiness_outlooks hservice hinfo).trans (outlooks_complete_iff hservice hinfo)

/-- **The kind of an element of service 48.** Its business type decides it
exactly if its info is complete, or does not decode. -/
theorem decidedByBusiness_iff (x : Decoders) (common : CommonElem) (hservice : common.serviceType = 48) :
    DecidedByBusiness x common ↔ ∀ info, x.msgInfo common.pbElem = .ok info → Complete common.businessType info := by
  cases hinfo : x.msgInfo common.pbElem with
  | error e => exact iff_of_true (.inl (unpackElement_undecodable hservice hinfo)) (fun info h => nomatch h)
  | ok info =>
    rw [decidedByBusiness_of_info hservice hinfo]
    constructor
    · intro h info' hinfo'
      cases hinfo'
      exact h
    · intro h
      exact h info rfl

/-! ## A picture without its business info -/

/-- A picture whose info has one file, with the hash `zz`, and nothing else. -/
def barePicture : CommonElem where
  serviceType := 48
  pbElem := [10, 8, 10, 6, 10, 4, 18, 2, 122, 122]
  businessType := 20

def barePicture.info : MsgInfo where
  msgInfoBody :=
    [{ index := some
        { info := some
            { fileSize := 0, fileHash := "zz", fileName := "", width := 0, height := 0, time := 0 },
          fileUuid := "" } }]
  extBizInfo := none

/-- Protobuf on these bytes. -/
def barePictureDecoders : Decoders :=
  { PushMsg.refusing with
    msgInfo := fun bs => if bs = barePicture.pbElem then .ok barePicture.info else PushMsg.refusing.msgInfo bs }

theorem decidedByBusiness_bare : DecidedByBusiness barePictureDecoders barePicture ↔
    ∀ info, barePictureDecoders.msgInfo barePicture.pbElem = .ok info → Complete 20 info :=
  decidedByBusiness_iff barePictureDecoders barePicture rfl

/-- It is not reported as a picture, and not as nothing. -/
theorem barePicture_not_decided :
    ¬ ∀ (x : Decoders) (common : CommonElem), common.serviceType = 48 → DecidedByBusiness x common := by
  intro h
  have hinfo : barePictureDecoders.msgInfo barePicture.pbElem = .ok barePicture.info := rfl
  have hcomplete := (decidedByBusiness_of_info rfl hinfo).mp (h barePictureDecoders barePicture rfl)
  exact absurd (hcomplete.picture (.inr rfl) _ rfl).2 Bool.false_ne_true

end Entity

end Mania
