/-
`parse` of `event/system/fetch_user_info.rs`: the user info out of the
properties in the server's response.

The birthday comes as four bytes, a year and a month and a day, and is read
as a string first. Bytes that are not UTF-8 give 1970-01-01, which is most
years with a low byte of 128 or more; a string shorter than four bytes
panics, and a longer one is read up to its fourth byte (`birthday_iff`).
`prost` decodes the messages.
-/
import Mania.Entity
import Mania.FetchFriends
import Mania.Lib.Calendar
import Mania.Lib.Utf8Exact
import Mania.PacketReader

namespace Mania

open Calendar

/-! ## The response -/

structure OidbFriendByteProperty where
  code : UInt32
  value : Bytes

structure OidbTwoNumber where
  number1 : UInt32
  number2 : UInt32

structure OidbSvcTrpcTcp0xFe12responseProperty where
  numberProperties : List OidbTwoNumber
  bytesProperties : List OidbFriendByteProperty

namespace OidbSvcTrpcTcp0xFe12responseProperty

variable (self : OidbSvcTrpcTcp0xFe12responseProperty)

def bytesProps : DashMap UInt32 Bytes :=
  DashMap.extend ∅ (self.bytesProperties.map fun prop => (prop.code, prop.value))

def numberProps : DashMap UInt32 UInt32 :=
  DashMap.extend ∅ (self.numberProperties.map fun prop => (prop.number1, prop.number2))

end OidbSvcTrpcTcp0xFe12responseProperty

structure OidbSvcTrpcTcp0xFe12responseBody where
  properties : Option OidbSvcTrpcTcp0xFe12responseProperty
  uin : UInt32

structure OidbSvcTrpcTcp0xFe12response where
  body : Option OidbSvcTrpcTcp0xFe12responseBody

structure CustomStatus where
  faceId : UInt32
  msg : Option String

/-- The default is a message without an url. -/
structure Avatar where
  url : Option String

/-- `business_list::Icon`. -/
inductive BusinessIcon where
  | icon1 (s : String)
  | icon2 (s : String)

structure BusinessList where
  type : UInt32
  isYear : Bool
  level : UInt32
  isPro : Bool
  icon : Option BusinessIcon

structure BusinessBody where
  lists : List BusinessList

structure Business where
  body : Option BusinessBody

structure UserInfoProst where
  /-- `OidbPacket::parse_into`. -/
  parseInto : Bytes → Outcome (EventError String) OidbSvcTrpcTcp0xFe12response
  customStatus : Bytes → Option CustomStatus
  avatar : Bytes → Option Avatar
  business : Bytes → Option Business

/-! ## The user info -/

structure BusinessCustom where
  busType : UInt32
  level : UInt32
  icon : Option String
  isYear : UInt32
  isPro : UInt32

inductive GenderInfo where
  | unset
  | male
  | female
  | unknown

structure BotStatus where
  statusId : UInt32
  faceId : Option UInt32
  msg : Option String

structure BotUserInfo where
  uin : UInt32
  avatar : String
  nickname : String
  birthday : DateTime
  city : String
  country : String
  school : String
  age : UInt32
  registerTime : DateTime
  gender : GenderInfo
  qid : Option String
  level : UInt32
  sign : String
  status : BotStatus
  business : List BusinessCustom

structure FetchUserInfoEvent where
  userInfo : BotUserInfo
  uin : UInt32
  uid : Option String

/-- `with_ymd_and_hms(.., 0, 0, 0).single()` in UTC: chrono has every year of a `u16`. -/
def withYmd (year : UInt16) (month day : UInt8) : Option DateTime :=
  (dateAt year.toNat month.toNat day.toNat).map Date.midnight

variable {ε : Type}

/-- The reads of `get_birthday`. -/
def readYmd : Cursor ε (UInt16 × UInt8 × UInt8) := do
  let year ← PacketReader.u16
  let month ← PacketReader.u8
  let day ← PacketReader.u8
  pure (year, month, day)

def getBirthday (birthday : String) : Outcome ε DateTime := do
  let (year, month, day) ← PacketReader.new (Utf8.encode birthday) readYmd
  match withYmd year month day with
  | some date => .ok date
  | none => Outcome.expect (withYmd 1970 1 1)

/-- `.map(|s| get_birthday(&s)).unwrap_or_default()` on the property 20031. -/
def birthdayOf (property : Option Bytes) : Outcome ε DateTime :=
  match property.bind Utf8.fromUtf8 with
  | some s => getBirthday s
  | none => .ok 0

/-- The string of an icon that is not empty. -/
def BusinessIcon.nonEmpty : BusinessIcon → Option String
  | icon1 s => if s.isEmpty then none else some s
  | icon2 s => if s.isEmpty then none else some s

def BusinessList.custom (b : BusinessList) : BusinessCustom where
  busType := b.type
  level := b.level
  icon := b.icon.bind BusinessIcon.nonEmpty
  isPro := if b.isPro then 1 else 0
  isYear := if b.isYear then 1 else 0

def genderOf : UInt32 → GenderInfo
  | 1 => .male
  | 2 => .female
  | _ => .unset

def FetchUserInfoEvent.parse (prost : UserInfoProst) (packet : Bytes) :
    Outcome (EventError String) FetchUserInfoEvent := do
  let response ← prost.parseInto packet
  let body ← Outcome.okOr (.parse "An mania internal event error occurred: Missing response body") response.body
  let properties ← Outcome.okOr (.parse "An mania internal event error occurred: Missing properties") body.properties
  let bytesProps := properties.bytesProps
  let numberProps := properties.numberProps
  let stringOf (code : UInt32) : Option String := (bytesProps.lookup code).bind Utf8.fromUtf8
  let birthday ← birthdayOf (bytesProps.lookup 20031)
  let regSecs := (numberProps.lookup 20026).getD 0
  let statusId := (numberProps.lookup 27372).getD 0
  let customs := (bytesProps.lookup 27406).bind fun bytes => if bytes.isEmpty then none else prost.customStatus bytes
  let avatars := ((bytesProps.lookup 101).bind prost.avatar).getD { url := none }
  let business := ((bytesProps.lookup 107).bind prost.business).bind fun business =>
    business.body.map fun body => body.lists.map BusinessList.custom
  .ok {
    userInfo := {
      uin := body.uin
      nickname := (stringOf 20002).getD ""
      avatar := avatars.url.getD "" ++ "640"
      birthday
      city := (stringOf 20020).getD ""
      country := (stringOf 20003).getD ""
      school := (stringOf 20021).getD ""
      age := (numberProps.lookup 20037).getD 0
      registerTime := regSecs.toNat
      gender := genderOf ((numberProps.lookup 20009).getD 0)
      qid := stringOf 27394
      level := (numberProps.lookup 105).getD 0
      sign := (stringOf 102).getD ""
      status := {
        statusId := if statusId > 268435455 then statusId - 268435456 else statusId
        faceId := customs.map (·.faceId)
        msg := customs.bind (·.msg) }
      business := business.getD [] }
    uin := body.uin
    uid := none }

/-! ## The birthday -/

/-- The date in four bytes. -/
def dateBytes (hi lo month day : UInt8) : Option Date := dateAt (256 * hi.toNat + lo.toNat : Nat) month.toNat day.toNat

/-- The date of the years 1 to 9999 that a value encodes. -/
def encodedDate : Bytes → Option Date
  | [hi, lo, month, day] => (dateBytes hi lo month day).filter fun date => 1 ≤ date.year && date.year ≤ 9999
  | _ => none

/-- The date in the first four bytes of a value, of any year. -/
def leadingDate : Bytes → Option Date
  | hi :: lo :: month :: day :: _ => dateBytes hi lo month day
  | _ => none

/-- Midnight of the encoded date, or 1970-01-01. -/
def intendedBirthday (v : Bytes) : DateTime := ((encodedDate v).map Date.midnight).getD 0

/-- The dates that pass as a string, or as the default; the values that do not, or that have no date in front. -/
def BirthdaySurvives (v : Bytes) : Prop :=
  (∀ date, encodedDate v = some date → date.year % 256 < 128 ∨ date = Date.epoch) ∧
    (encodedDate v = none → Utf8.fromUtf8 v = none ∨ (4 ≤ v.length ∧ leadingDate v = none))

theorem readYmd_run (hi lo month day : UInt8) (rest : Bytes) :
    (readYmd : Cursor ε _).run (hi :: lo :: month :: day :: rest) =
      .ok ((Bytes.ofBE16 [hi, lo], month, day), rest) := by
  have hyear : (PacketReader.u16 : Cursor ε UInt16).run (hi :: lo :: month :: day :: rest) =
      .ok (Bytes.ofBE16 [hi, lo], month :: day :: rest) := by
    rw [PacketReader.u16, Cursor.getU16, StateT.run_map]
    exact congrArg ((fun p => (Bytes.ofBE16 p.1, p.2)) <$> ·) (Cursor.splitTo_append (x := [hi, lo]) rfl _)
  rw [readYmd, StateT.run_bind, hyear]
  rfl

theorem readYmd_short {bs : Bytes} (h : bs.length < 4) : (readYmd : Cursor ε _).run bs = .panic := by
  rcases bs with _ | ⟨a, _ | ⟨b, _ | ⟨c, _ | ⟨d, rest⟩⟩⟩⟩
  · rfl
  · rfl
  · rfl
  · rfl
  · simp only [List.length_cons] at h
    omega

theorem year_toNat (hi lo : UInt8) : (Bytes.ofBE16 [hi, lo]).toNat = 256 * hi.toNat + lo.toNat := by
  have hhi := hi.toNat_lt
  have hlo := lo.toNat_lt
  have hvalue : Bytes.ofBE [hi, lo] = 256 * hi.toNat + lo.toNat := by
    simp only [Bytes.ofBE, List.foldl_cons, List.foldl_nil]
    omega
  rw [Bytes.ofBE16, hvalue, UInt16.toNat_ofNat_of_lt' (show _ < 65536 by omega)]

/-- `get_birthday` on the bytes of its string. -/
theorem getBirthday_eq {s : String} {hi lo month day : UInt8} {rest : Bytes}
    (h : Utf8.encode s = hi :: lo :: month :: day :: rest) :
    (getBirthday s : Outcome ε DateTime) = .ok (((leadingDate (Utf8.encode s)).map Date.midnight).getD 0) := by
  have hdate : withYmd (Bytes.ofBE16 [hi, lo]) month day = (leadingDate (Utf8.encode s)).map Date.midnight := by
    rw [withYmd, year_toNat, h, leadingDate, dateBytes]
  have hdefault : withYmd 1970 1 1 = some 0 := by decide
  rw [getBirthday, PacketReader.new, h, readYmd_run, ← h, Outcome.map_ok, Outcome.ok_bind]
  simp only [hdate, hdefault]
  cases (leadingDate (Utf8.encode s)).map Date.midnight <;> rfl

theorem getBirthday_short {s : String} (h : (Utf8.encode s).length < 4) :
    (getBirthday s : Outcome ε DateTime) = .panic := by
  rw [getBirthday, PacketReader.new, readYmd_short h]
  rfl

/-- A lone low byte of a year is no UTF-8. -/
theorem fromUtf8_high {hi lo month : UInt8} (hhi : hi.toNat < 0x80) (hlo : 0x80 ≤ lo.toNat)
    (h : month.toNat < 0x80 ∨ lo.toNat < 0xC2) (rest : Bytes) : Utf8.fromUtf8 (hi :: lo :: month :: rest) = none := by
  have hnext : (Utf8.next lo (month :: rest)).1 = none := by
    rcases h with hmonth | hlow
    · exact Utf8.next_untailed hlo hmonth rest
    · exact Utf8.next_unled hlo hlow _
  have htail := Utf8.fromUtf8_ascii_isSome hhi (lo :: month :: rest)
  rw [Utf8.fromUtf8_cons_none hnext] at htail
  exact Option.isSome_eq_false_iff.mp htail |> Option.isNone_iff_eq_none.mp

theorem fromUtf8_low {hi lo month day : UInt8} (hhi : hi.toNat < 0x80) (hlo : lo.toNat < 0x80)
    (hmonth : month.toNat < 0x80) (hday : day.toNat < 0x80) : (Utf8.fromUtf8 [hi, lo, month, day]).isSome := by
  rw [Utf8.fromUtf8_ascii_isSome hhi, Utf8.fromUtf8_ascii_isSome hlo, Utf8.fromUtf8_ascii_isSome hmonth,
    Utf8.fromUtf8_ascii_isSome hday]
  rfl

theorem dateBytes_eq_some {hi lo month day : UInt8} {date : Date} (h : dateBytes hi lo month day = some date) :
    date.year = (256 * hi.toNat + lo.toNat : Nat) ∧ month.toNat ≤ 12 ∧ day.toNat ≤ 31 := by
  rw [dateBytes, dateAt] at h
  split at h
  case isFalse => cases h
  case isTrue hvalid =>
    cases h
    obtain ⟨_, h12, _, hlast⟩ := hvalid
    have hlength := monthLength_le (256 * hi.toNat + lo.toNat : Nat) month.toNat
    exact ⟨rfl, h12, by omega⟩

/-- An encoded date is four bytes, three of which are ASCII. -/
theorem encodedDate_eq_some {v : Bytes} {date : Date} (h : encodedDate v = some date) :
    ∃ hi lo month day : UInt8, v = [hi, lo, month, day] ∧ leadingDate v = some date ∧
      date.year = (256 * hi.toNat + lo.toNat : Nat) ∧ hi.toNat < 0x80 ∧ month.toNat < 0x80 ∧ day.toNat < 0x80 := by
  unfold encodedDate at h
  split at h
  case h_2 => cases h
  case h_1 hi lo month day =>
    obtain ⟨hdate, hyear⟩ := Option.filter_eq_some_iff.mp h
    obtain ⟨heq, hmonth, hday⟩ := dateBytes_eq_some hdate
    simp only [Bool.and_eq_true, decide_eq_true_eq] at hyear
    exact ⟨hi, lo, month, day, rfl, hdate, heq, by omega, by omega, by omega⟩

theorem leadingDate_eq_some {v : Bytes} {date : Date} (h : leadingDate v = some date) :
    ∃ hi lo month day rest, v = hi :: lo :: month :: day :: rest ∧ date.year = (256 * hi.toNat + lo.toNat : Nat) := by
  unfold leadingDate at h
  split at h
  case h_2 => cases h
  case h_1 hi lo month day rest => exact ⟨hi, lo, month, day, rest, rfl, (dateBytes_eq_some h).1⟩

theorem birthdayOf_none {v : Bytes} (h : Utf8.fromUtf8 v = none) :
    (birthdayOf (some v) : Outcome ε DateTime) = .ok 0 := by
  rw [birthdayOf, Option.bind_some, h]

/-- A string of four bytes or more has the birthday in front of it, a shorter one panics. -/
theorem birthdayOf_some {v : Bytes} {s : String} (h : Utf8.fromUtf8 v = some s) :
    (birthdayOf (some v) : Outcome ε DateTime) =
      if 4 ≤ v.length then .ok (((leadingDate v).map Date.midnight).getD 0) else .panic := by
  have hbytes := Utf8.encode_of_fromUtf8 h
  rw [birthdayOf, Option.bind_some, h]
  show getBirthday s = _
  split
  case isFalse hshort => exact getBirthday_short (by rw [hbytes]; omega)
  case isTrue hlong =>
    rcases v with _ | ⟨hi, _ | ⟨lo, _ | ⟨month, _ | ⟨day, rest⟩⟩⟩⟩
    case cons.cons.cons.cons =>
      rw [← hbytes]
      exact getBirthday_eq hbytes
    all_goals simp at hlong

/-- The date 1970-01-01 itself is in no string. -/
theorem leadingDate_ne_epoch {v : Bytes} {s : String} (h : Utf8.fromUtf8 v = some s) :
    leadingDate v ≠ some Date.epoch := by
  intro hdate
  obtain ⟨hi, lo, month, day, rest, rfl, hyear⟩ := leadingDate_eq_some hdate
  have hlo := lo.toNat_lt
  have hyear : (1970 : Int) = (256 * hi.toNat + lo.toNat : Nat) := hyear
  rw [fromUtf8_high (by omega) (by omega) (.inr (by omega))] at h
  cases h

theorem midnight_eq_zero {date : Date} : date.midnight = 0 ↔ date = Date.epoch := by
  constructor
  · intro h
    exact Date.midnight_injective (h.trans Date.midnight_epoch.symm)
  · rintro rfl
    exact Date.midnight_epoch

theorem birthdayOf_iff (v : Bytes) :
    (birthdayOf (some v) : Outcome ε DateTime) = .ok (intendedBirthday v) ↔ BirthdaySurvives v := by
  rw [intendedBirthday, BirthdaySurvives]
  cases hencoded : encodedDate v with
  | some date =>
    obtain ⟨hi, lo, month, day, rfl, hleading, hyear, hhi, hmonth, hday⟩ := encodedDate_eq_some hencoded
    have hlo := lo.toNat_lt
    have hlow : date.year % 256 < 128 ↔ lo.toNat < 0x80 := by omega
    simp only [Option.some.injEq, forall_eq', reduceCtorEq, false_implies, and_true, hlow, Option.map_some,
      Option.getD_some]
    by_cases hascii : lo.toNat < 0x80
    · obtain ⟨s, hs⟩ := Option.isSome_iff_exists.mp (fromUtf8_low hhi hascii hmonth hday)
      rw [birthdayOf_some hs, if_pos (by simp), hleading]
      simp [hascii]
    · rw [birthdayOf_none (fromUtf8_high hhi (by omega) (.inl hmonth) [day]), Outcome.ok.injEq, eq_comm,
        midnight_eq_zero]
      simp [hascii]
  | none =>
    simp only [reduceCtorEq, false_implies, implies_true, true_and, true_implies, Option.map_none, Option.getD_none]
    cases hs : Utf8.fromUtf8 v with
    | none => simp [birthdayOf_none hs]
    | some s =>
      rw [birthdayOf_some hs]
      by_cases hlong : 4 ≤ v.length
      · cases hdate : leadingDate v with
        | none => simp [hlong]
        | some date =>
          have hne : date.midnight ≠ 0 := fun h => leadingDate_ne_epoch hs (by rw [hdate, midnight_eq_zero.mp h])
          simp [hlong, hne]
      · simp [hlong]

variable {prost : UserInfoProst} {packet v : Bytes} {response : OidbSvcTrpcTcp0xFe12response}
  {body : OidbSvcTrpcTcp0xFe12responseBody} {properties : OidbSvcTrpcTcp0xFe12responseProperty}

/-- Past the response nothing but the birthday can fail. -/
theorem parse_birthday (hresponse : prost.parseInto packet = .ok response) (hbody : response.body = some body)
    (hproperties : body.properties = some properties) (hv : properties.bytesProps.lookup 20031 = some v)
    (birthday : DateTime) :
    (∃ event, FetchUserInfoEvent.parse prost packet = .ok event ∧ event.userInfo.birthday = birthday) ↔
      (birthdayOf (some v) : Outcome (EventError String) DateTime) = .ok birthday := by
  simp only [FetchUserInfoEvent.parse, hresponse, hbody, hproperties, Outcome.okOr_some, Outcome.ok_bind, hv]
  cases (birthdayOf (some v) : Outcome (EventError String) DateTime) with
  | ok date => simp
  | err e => simp
  | panic => simp

/-- **The birthday of a parsed user info** is the encoded date, and
1970-01-01 for any other value, exactly where the value survives the string. -/
theorem birthday_iff (hresponse : prost.parseInto packet = .ok response) (hbody : response.body = some body)
    (hproperties : body.properties = some properties) (hv : properties.bytesProps.lookup 20031 = some v) :
    (∃ event, FetchUserInfoEvent.parse prost packet = .ok event ∧ event.userInfo.birthday = intendedBirthday v) ↔
      BirthdaySurvives v := by
  rw [parse_birthday hresponse hbody hproperties hv, birthdayOf_iff]

/-- A response with nothing but a birthday. -/
def birthdayResponse (v : Bytes) : OidbSvcTrpcTcp0xFe12response where
  body := some {
    properties := some { numberProperties := [], bytesProperties := [{ code := 20031, value := v }] }
    uin := 10001 }

/-- The base packet around the response, for a value of four bytes. -/
def birthdayPacket (v : Bytes) : Bytes :=
  [0x08, 0xE1, 0x1F, 0x10, 0x02, 0x22, 0x13, 0x0A, 0x11, 0x12, 0x0C, 0x12, 0x0A, 0x08, 0xBF, 0x9C, 0x01, 0x12, 0x04] ++
    v ++ [0x18, 0x91, 0x4E]

def birthdayProst (v : Bytes) : UserInfoProst where
  parseInto packet := if packet = birthdayPacket v then .ok (birthdayResponse v) else .err (.parse "")
  customStatus _ := none
  avatar _ := none
  business _ := none

theorem birthdayProst_parseInto (v : Bytes) : (birthdayProst v).parseInto (birthdayPacket v) = .ok (birthdayResponse v) :=
  if_pos rfl

/-- The first of January 1900. -/
theorem birthday_1900 :
    (∃ event, FetchUserInfoEvent.parse (birthdayProst [0x07, 0x6C, 1, 1]) (birthdayPacket [0x07, 0x6C, 1, 1]) =
        .ok event ∧
      event.userInfo.birthday = intendedBirthday [0x07, 0x6C, 1, 1]) ↔ BirthdaySurvives [0x07, 0x6C, 1, 1] :=
  birthday_iff (birthdayProst_parseInto [0x07, 0x6C, 1, 1]) rfl rfl rfl

/-- The 29th of February 2000 is taken for 1970-01-01. -/
theorem birthday_2000_lost :
    ¬ ∀ (prost : UserInfoProst) (packet v : Bytes) (response : OidbSvcTrpcTcp0xFe12response)
      (body : OidbSvcTrpcTcp0xFe12responseBody) (properties : OidbSvcTrpcTcp0xFe12responseProperty),
      prost.parseInto packet = .ok response → response.body = some body → body.properties = some properties →
        properties.bytesProps.lookup 20031 = some v →
          ∃ event, FetchUserInfoEvent.parse prost packet = .ok event ∧
            event.userInfo.birthday = intendedBirthday v := by
  intro h
  have hparsed := birthdayProst_parseInto [0x07, 0xD0, 2, 29]
  have hkept := h _ _ [0x07, 0xD0, 2, 29] _ _ _ hparsed rfl rfl rfl
  rw [parse_birthday hparsed rfl rfl rfl, birthdayOf_iff] at hkept
  have hdate : encodedDate [0x07, 0xD0, 2, 29] = some ⟨2000, 2, 29, by decide⟩ := by decide +kernel
  rcases hkept.1 _ hdate with hlow | hepoch
  · exact absurd hlow (by decide)
  · exact absurd (congrArg Date.year hepoch) (by decide)

end Mania
