/-
The special title notices of `process_event_0x2dc`: two JSON objects in
angle brackets, found by the regular expression `<(.*?)>`.

A match ends at the first `>` behind the bracket, also at one inside a
string of the object. So the notice is parsed exactly where neither of the
serialised objects contains a `>` (`specialTitle_iff`).
-/
import Mania.PushMsgFacts

namespace Mania

open Bytes PushMsg

/-! ## The regular expression -/

namespace AngleRegex

/-- The rest of a match behind its `<`: what the group captures, and what is
left. The group is as short as can be and has no line break. -/
def group : List Char → Option (List Char × List Char)
  | [] => none
  | c :: cs =>
    if c = '>' then some ([], cs)
    else if c = '\n' then none
    else (group cs).map fun (m, rest) => (c :: m, rest)

/-- What the group captures in the matches within `n` characters. -/
def capturesIn : Nat → List Char → List (List Char)
  | n + 1, c :: cs =>
    if c = '<' then
      match group cs with
      | some (m, rest) => m :: capturesIn n rest
      | none => capturesIn n cs
    else capturesIn n cs
  | _, _ => []

/-- `captures_iter` of `<(.*?)>`, and the group of every match. -/
def captures (s : String) : List String := (capturesIn s.toList.length s.toList).map String.ofList

theorem group_first {inner : List Char} (hclose : '>' ∉ inner) (hline : '\n' ∉ inner) (rest : List Char) :
    group (inner ++ '>' :: rest) = some (inner, rest) := by
  induction inner with
  | nil => rfl
  | cons c inner ih =>
    simp only [List.mem_cons, not_or] at hclose hline
    rw [List.cons_append, group, if_neg (Ne.symm hclose.1), if_neg (Ne.symm hline.1), ih hclose.2 hline.2]
    rfl

/-- One match after text without an opening bracket. -/
theorem capturesIn_match {n : Nat} {text inner rest : List Char}
    (hn : (text ++ '<' :: (inner ++ '>' :: rest)).length ≤ n) (hopen : '<' ∉ text) (hclose : '>' ∉ inner)
    (hline : '\n' ∉ inner) :
    ∃ n', rest.length ≤ n' ∧ capturesIn n (text ++ '<' :: (inner ++ '>' :: rest)) = inner :: capturesIn n' rest := by
  induction text generalizing n with
  | nil =>
    simp only [List.nil_append, List.length_cons, List.length_append] at hn
    obtain ⟨m, rfl⟩ : ∃ m, n = m + 1 := ⟨n - 1, by omega⟩
    refine ⟨m, by omega, ?_⟩
    rw [List.nil_append, capturesIn, if_pos rfl, group_first hclose hline]
  | cons c text ih =>
    simp only [List.mem_cons, not_or] at hopen
    rw [List.cons_append, List.length_cons] at hn
    obtain ⟨m, rfl⟩ : ∃ m, n = m + 1 := ⟨n - 1, by omega⟩
    rw [List.cons_append, capturesIn, if_neg (Ne.symm hopen.1)]
    exact ih (by omega) hopen.2

theorem capturesIn_none {n : Nat} {text : List Char} (hopen : '<' ∉ text) : capturesIn n text = [] := by
  induction text generalizing n with
  | nil => cases n <;> rfl
  | cons c text ih =>
    simp only [List.mem_cons, not_or] at hopen
    cases n with
    | zero => rfl
    | succ n => rw [capturesIn, if_neg (Ne.symm hopen.1), ih hopen.2]

end AngleRegex

/-! ## The notice -/

/-- `text <J1> text <J2> text`. -/
def titleNotice (before json₁ between json₂ after : String) : String :=
  before ++ "<" ++ json₁ ++ ">" ++ between ++ "<" ++ json₂ ++ ">" ++ after

/-- Text without angle brackets. -/
def Plain (s : String) : Prop := '<' ∉ s.toList ∧ '>' ∉ s.toList

/-- A parser of JSON objects refuses a text that is cut off before a `>`: JSON
has the character inside strings only. -/
def RefusesCut {α : Type} (parse : String → Option α) : Prop :=
  ∀ cut left, (parse (cut ++ ">" ++ left)).isSome → parse cut = none

theorem titleNotice_toList (before json₁ between json₂ after : String) :
    (titleNotice before json₁ between json₂ after).toList =
      before.toList ++
        '<' :: (json₁.toList ++ '>' :: (between.toList ++ '<' :: (json₂.toList ++ '>' :: after.toList))) := by
  simp [titleNotice]

/-- The part of an object before its first `>` is refused. -/
theorem RefusesCut.first {α : Type} {parse : String → Option α} (h : RefusesCut parse) {json : String} {a : α}
    (hjson : parse json = some a) (hclose : '>' ∈ json.toList) :
    ∃ cut left, json.toList = cut ++ '>' :: left ∧ '>' ∉ cut ∧ parse (String.ofList cut) = none := by
  obtain ⟨cut, left, heq, hcut⟩ := List.eq_append_cons_of_mem hclose
  refine ⟨cut, left, heq, hcut, h (String.ofList cut) (String.ofList left) ?_⟩
  have hwhole : String.ofList cut ++ ">" ++ String.ofList left = json := by
    rw [← String.toList_inj]
    simp [heq]
  rw [hwhole, hjson]
  rfl

/-- A `>` in the first object ends the first capture. -/
theorem captures_cut_first {before json₁ between json₂ after : String} {cut left : List Char} (hbefore : Plain before)
    (hline : '\n' ∉ json₁.toList) (hjson : json₁.toList = cut ++ '>' :: left) (hcut : '>' ∉ cut) :
    ∃ more, AngleRegex.captures (titleNotice before json₁ between json₂ after) = String.ofList cut :: more := by
  have hcutLine : '\n' ∉ cut := fun h => hline (by rw [hjson]; exact List.mem_append_left _ h)
  rw [AngleRegex.captures, titleNotice_toList, hjson, List.append_assoc, List.cons_append]
  obtain ⟨n, _, hmatch⟩ := AngleRegex.capturesIn_match (Nat.le_refl _) hbefore.1 hcut hcutLine
  rw [hmatch]
  exact ⟨_, rfl⟩

/-- The first object is captured whole, and a `>` in the second ends the second capture. -/
theorem captures_cut_second {before json₁ between json₂ after : String} {cut left : List Char} (hbefore : Plain before)
    (hbetween : Plain between) (hline₁ : '\n' ∉ json₁.toList) (hclose : '>' ∉ json₁.toList)
    (hline₂ : '\n' ∉ json₂.toList) (hjson : json₂.toList = cut ++ '>' :: left) (hcut : '>' ∉ cut) :
    ∃ more, AngleRegex.captures (titleNotice before json₁ between json₂ after) =
      json₁ :: String.ofList cut :: more := by
  have hcutLine : '\n' ∉ cut := fun h => hline₂ (by rw [hjson]; exact List.mem_append_left _ h)
  rw [AngleRegex.captures, titleNotice_toList, hjson, List.append_assoc, List.cons_append]
  obtain ⟨n, hn, hfirst⟩ := AngleRegex.capturesIn_match (Nat.le_refl _) hbefore.1 hclose hline₁
  obtain ⟨m, _, hsecond⟩ := AngleRegex.capturesIn_match hn hbetween.1 hcut hcutLine
  rw [hfirst, hsecond, List.map_cons, List.map_cons, String.ofList_toList]
  exact ⟨_, rfl⟩

/-- Objects without a `>` are captured whole, and nothing else is. -/
theorem captures_whole {before json₁ between json₂ after : String} (hbefore : Plain before) (hbetween : Plain between)
    (hafter : Plain after) (hline₁ : '\n' ∉ json₁.toList) (hclose₁ : '>' ∉ json₁.toList)
    (hline₂ : '\n' ∉ json₂.toList) (hclose₂ : '>' ∉ json₂.toList) :
    AngleRegex.captures (titleNotice before json₁ between json₂ after) = [json₁, json₂] := by
  rw [AngleRegex.captures, titleNotice_toList]
  obtain ⟨n, hn, hfirst⟩ := AngleRegex.capturesIn_match (Nat.le_refl _) hbefore.1 hclose₁ hline₁
  obtain ⟨m, _, hsecond⟩ := AngleRegex.capturesIn_match hn hbetween.1 hclose₂ hline₂
  rw [hfirst, hsecond, AngleRegex.capturesIn_none hafter.1]
  simp

/-! ## The event -/

/-- A push whose event parameter is the content of a special title notice. -/
def SpecialTitlePush (x : Decoders) (packet : PushMsg) (groupUin : UInt32) (content : SpecialTittleNotify) : Prop :=
  ∃ msgContent msgBody, extract0xSubType packet = .ok 16 ∧ packet.msgContent = some msgContent ∧
    extract0x2dcHead x.notifyMessageBody msgContent = .ok (groupUin, msgBody) ∧ msgBody.field13 = some 6 ∧
    x.specialTittleNotify msgBody.eventParam = .ok content

variable {x : Decoders} {packet : PushMsg} {groupUin : UInt32} {content : SpecialTittleNotify}

theorem processEvent0x2dc_specialTitle (hpush : SpecialTitlePush x packet groupUin content) (extra : Extra) :
    ∃ msgBody, x.specialTittleNotify msgBody.eventParam = .ok content ∧
      processEvent0x2dc x packet extra = groupMemberSpecialTitleNotice x groupUin msgBody extra := by
  obtain ⟨msgContent, msgBody, hsubType, hcontent, hhead, hfield, hdecode⟩ := hpush
  refine ⟨msgBody, hdecode, ?_⟩
  have hsub : tryFromPrimitive Event0x2DCSubType.numbers 16 = some .subType16 := rfl
  have hev : tryFromPrimitive Event0x2DCSubType16Field13.numbers 6 = some .groupMemberSpecialTitleNotice := rfl
  rw [processEvent0x2dc, hsubType, Outcome.ok_bind, hsub, Outcome.okOr_some, Outcome.ok_bind]
  show subType16 x packet extra = _
  rw [subType16, extractUnstableMsgContent, hcontent, Outcome.okOr_some, Outcome.ok_bind, hhead, Outcome.ok_bind]
  simp only [hfield, Option.getD_some, hev, Outcome.okOr_some, Outcome.ok_bind]

variable {msgBody : NotifyMessageBody} {events : List ServerEvent}

/-- Two captures that are both parsed make one event. -/
theorem notice_parsed (hdecode : x.specialTittleNotify msgBody.eventParam = .ok content) {json₁ json₂ : String}
    {userInfo : SpecialTitleUserInfo} {medalInfo : SpecialTitleMedalInfo}
    (hcaptures : x.captures content.notifyInner = [json₁, json₂]) (hjson₁ : x.userInfo json₁ = some userInfo)
    (hjson₂ : x.medalInfo json₂ = some medalInfo) :
    groupMemberSpecialTitleNotice x groupUin msgBody (some events) =
      .ok (some (events ++ [.groupSysSpecialTitle content.targetUin userInfo.text medalInfo.text medalInfo.url
        groupUin])) := by
  rw [groupMemberSpecialTitleNotice, hdecode, decoded, Outcome.ok_bind]
  simp only [hcaptures, hjson₁, hjson₂, Outcome.okOr_some, Outcome.ok_bind]
  rfl

/-- The notice is an error if the first capture is refused, or the second is. -/
theorem notice_refused (hdecode : x.specialTittleNotify msgBody.eventParam = .ok content) {first : String}
    {more : List String} (hcaptures : x.captures content.notifyInner = first :: more)
    (hrefused : x.userInfo first = none ∨ ∃ second rest, more = second :: rest ∧ x.medalInfo second = none)
    (extra : Extra) :
    groupMemberSpecialTitleNotice x groupUin msgBody extra = .err (.otherError "Failed to parse special title") := by
  rw [groupMemberSpecialTitleNotice, hdecode, decoded, Outcome.ok_bind]
  simp only [hcaptures]
  rcases more with _ | ⟨second, _ | ⟨third, more⟩⟩
  · rfl
  · cases hfirst : x.userInfo first with
    | none => simp [hfirst]
    | some userInfo =>
      rcases hrefused with hnone | ⟨second, rest, heq, hsecond⟩
      · cases hfirst.symm.trans hnone
      · cases heq
        simp [hfirst, hsecond]
  · rfl

/-- A `>` in one of the objects cuts its capture short, and what is left is refused. -/
theorem notice_cut (hdecode : x.specialTittleNotify msgBody.eventParam = .ok content)
    (hregex : x.captures = AngleRegex.captures) (hcutUser : RefusesCut x.userInfo) (hcutMedal : RefusesCut x.medalInfo)
    {before json₁ between json₂ after : String}
    (hnotice : content.notifyInner = titleNotice before json₁ between json₂ after)
    {userInfo : SpecialTitleUserInfo} {medalInfo : SpecialTitleMedalInfo}
    (hjson₁ : x.userInfo json₁ = some userInfo) (hjson₂ : x.medalInfo json₂ = some medalInfo)
    (hline₁ : '\n' ∉ json₁.toList) (hline₂ : '\n' ∉ json₂.toList) (hbefore : Plain before) (hbetween : Plain between)
    (hclose : ¬ ('>' ∉ json₁.toList ∧ '>' ∉ json₂.toList)) :
    groupMemberSpecialTitleNotice x groupUin msgBody (some events) =
      .err (.otherError "Failed to parse special title") := by
  by_cases hclose₁ : '>' ∈ json₁.toList
  · obtain ⟨cut, left, heq, hcut, hnone⟩ := hcutUser.first hjson₁ hclose₁
    have hcaptures : ∃ more, x.captures content.notifyInner = String.ofList cut :: more := by
      rw [hnotice, hregex]
      exact captures_cut_first hbefore hline₁ heq hcut
    obtain ⟨more, hcaptures⟩ := hcaptures
    exact notice_refused hdecode hcaptures (.inl hnone) _
  · have hclose₂ : '>' ∈ json₂.toList := by
      by_contra hclose₂
      exact hclose ⟨hclose₁, hclose₂⟩
    obtain ⟨cut, left, heq, hcut, hnone⟩ := hcutMedal.first hjson₂ hclose₂
    have hcaptures : ∃ more, x.captures content.notifyInner = json₁ :: String.ofList cut :: more := by
      rw [hnotice, hregex]
      exact captures_cut_second hbefore hbetween hline₁ hclose₁ hline₂ heq hcut
    obtain ⟨more, hcaptures⟩ := hcaptures
    exact notice_refused hdecode hcaptures (.inr ⟨_, _, rfl, hnone⟩) _

/-- **A special title notice** of two JSON objects gives its event exactly
where neither of them contains a `>`. -/
theorem specialTitle_iff (hregex : x.captures = AngleRegex.captures) (hcutUser : RefusesCut x.userInfo)
    (hcutMedal : RefusesCut x.medalInfo) (hpush : SpecialTitlePush x packet groupUin content)
    {before json₁ between json₂ after : String}
    (hnotice : content.notifyInner = titleNotice before json₁ between json₂ after)
    {userInfo : SpecialTitleUserInfo} {medalInfo : SpecialTitleMedalInfo}
    (hjson₁ : x.userInfo json₁ = some userInfo) (hjson₂ : x.medalInfo json₂ = some medalInfo)
    (hline₁ : '\n' ∉ json₁.toList) (hline₂ : '\n' ∉ json₂.toList) (hbefore : Plain before) (hbetween : Plain between)
    (hafter : Plain after) (events : List ServerEvent) :
    processEvent0x2dc x packet (some events) =
        .ok (some (events ++ [.groupSysSpecialTitle content.targetUin userInfo.text medalInfo.text medalInfo.url
          groupUin])) ↔
      '>' ∉ json₁.toList ∧ '>' ∉ json₂.toList := by
  obtain ⟨msgBody, hdecode, hbranch⟩ := processEvent0x2dc_specialTitle hpush (some events)
  rw [hbranch]
  constructor
  · intro hok
    by_contra hclose
    cases hok.symm.trans (notice_cut hdecode hregex hcutUser hcutMedal hnotice hjson₁ hjson₂ hline₁ hline₂ hbefore
      hbetween hclose)
  · rintro ⟨hclose₁, hclose₂⟩
    have hcaptures := captures_whole hbefore hbetween hafter hline₁ hclose₁ hline₂ hclose₂
    rw [← hnotice, ← hregex] at hcaptures
    exact notice_parsed hdecode hcaptures hjson₁ hjson₂

/-! ## A notice -/

/-- A parser that knows one text. -/
def knows {α : Type} (json : String) (a : α) (s : String) : Option α := if s = json then some a else none

theorem knows_self {α : Type} (json : String) (a : α) : knows json a json = some a := if_pos rfl

theorem refusesCut_knows {α : Type} (json : String) (a : α) : RefusesCut (knows json a) := by
  intro cut left hsome
  apply if_neg
  rintro rfl
  rw [knows] at hsome
  split at hsome
  case isTrue heq =>
    have hlength := congrArg (fun s => s.toList.length) heq
    simp at hlength
  case isFalse => cases hsome

/-- The object of a member with the nickname. -/
def nicknameJson (nickname : String) : String := "\x7b\"data\":\"\",\"text\":\"" ++ nickname ++ "\"\x7d"

def medalJson : String := "\x7b\"data\":\"\",\"text\":\"title\",\"url\":\"https\"\x7d"

def titleContent (nickname : String) : SpecialTittleNotify where
  notifyInner := titleNotice "" (nicknameJson nickname) "" medalJson ""
  targetUin := 10001

/-- The bytes of the content. -/
def titleParam (nickname : String) : Bytes :=
  let inner := Utf8.encode (titleContent nickname).notifyInner
  [0x12, UInt8.ofNat inner.length] ++ inner ++ [0x28, 0x91, 0x4E]

def titleMessage (nickname : String) : NotifyMessageBody where
  groupUin := 1
  eventParam := titleParam nickname
  «recall» := none
  field13 := some 6
  operatorUid := ""
  grayTipInfo := none
  essenceMessage := none
  reaction := none

/-- The bytes of the message. -/
def titleBody (nickname : String) : Bytes :=
  [0x20, 0x01, 0x2A, UInt8.ofNat (titleParam nickname).length] ++ titleParam nickname ++ [0x68, 0x06]

/-- What decodes the notice of the member. -/
def titleDecoders (nickname : String) : Decoders :=
  { PushMsg.refusing with
    notifyMessageBody := fun bs => if bs = titleBody nickname then .ok (titleMessage nickname) else .error ⟨""⟩
    specialTittleNotify := fun bs => if bs = titleParam nickname then .ok (titleContent nickname) else .error ⟨""⟩
    captures := AngleRegex.captures
    userInfo := knows (nicknameJson nickname) { text := nickname }
    medalInfo := knows medalJson { text := "title", url := "https" } }

/-- The group, a byte, and the message behind its length. -/
def titleMsgContent (nickname : String) : Bytes :=
  be32 1 ++ 0 :: be16 (UInt16.ofNat (titleBody nickname).length) ++ titleBody nickname

def titlePush (nickname : String) : PushMsg :=
  pushOf 0x2DC (some 16) { richText := none, msgContent := some (titleMsgContent nickname) }

theorem titlePush_specialTitle {nickname : String} (hlength : (titleBody nickname).length < 65536) :
    SpecialTitlePush (titleDecoders nickname) (titlePush nickname) 1 (titleContent nickname) := by
  have hmessage : (titleDecoders nickname).notifyMessageBody (titleBody nickname) = .ok (titleMessage nickname) := by
    simp only [titleDecoders, if_true]
  have hcontent : (titleDecoders nickname).specialTittleNotify (titleParam nickname) = .ok (titleContent nickname) := by
    simp only [titleDecoders, if_true]
  refine ⟨titleMsgContent nickname, titleMessage nickname, rfl, rfl, ?_, rfl, hcontent⟩
  simp only [extract0x2dcHead, titleMsgContent, head0x2dc_written 1 0 hlength, Outcome.ok_bind, hmessage, decoded]

theorem titleDecoders_userInfo (nickname : String) :
    (titleDecoders nickname).userInfo (nicknameJson nickname) = some { text := nickname } :=
  knows_self _ _

theorem titleDecoders_medalInfo (nickname : String) :
    (titleDecoders nickname).medalInfo medalJson = some { text := "title", url := "https" } := by
  rw [titleDecoders]
  exact knows_self medalJson ({ text := "title", url := "https" } : SpecialTitleMedalInfo)

theorem plain_empty : Plain "" := by
  rw [Plain]
  decide

/-- A member called `A`. -/
theorem specialTitle_plain_nickname :
    processEvent0x2dc (titleDecoders "A") (titlePush "A") (some []) =
        .ok (some [.groupSysSpecialTitle 10001 "A" "title" "https" 1]) ↔
      '>' ∉ (nicknameJson "A").toList ∧ '>' ∉ medalJson.toList :=
  specialTitle_iff rfl (refusesCut_knows _ _) (refusesCut_knows _ _) (titlePush_specialTitle (by decide +kernel)) rfl
    (titleDecoders_userInfo "A") (titleDecoders_medalInfo "A") (by decide +kernel) (by decide +kernel)
    plain_empty plain_empty plain_empty []

/-- A member called `A>`: the notice is refused. -/
theorem specialTitle_bracket_refused :
    ¬ ∀ (x : Decoders) (packet : PushMsg) (groupUin : UInt32) (content : SpecialTittleNotify)
      (before json₁ between json₂ after : String) (userInfo : SpecialTitleUserInfo) (medalInfo : SpecialTitleMedalInfo)
      (events : List ServerEvent), x.captures = AngleRegex.captures → RefusesCut x.userInfo → RefusesCut x.medalInfo →
        SpecialTitlePush x packet groupUin content →
        content.notifyInner = titleNotice before json₁ between json₂ after → x.userInfo json₁ = some userInfo →
        x.medalInfo json₂ = some medalInfo → '\n' ∉ json₁.toList → '\n' ∉ json₂.toList → Plain before →
        Plain between → Plain after →
          processEvent0x2dc x packet (some events) =
            .ok (some (events ++ [.groupSysSpecialTitle content.targetUin userInfo.text medalInfo.text medalInfo.url
              groupUin])) := by
  intro h
  have hpush : SpecialTitlePush (titleDecoders "A>") (titlePush "A>") 1 (titleContent "A>") :=
    titlePush_specialTitle (by decide +kernel)
  have hparsed := h (titleDecoders "A>") (titlePush "A>") 1 (titleContent "A>") "" (nicknameJson "A>") "" medalJson ""
    _ _ [] rfl (refusesCut_knows _ _) (refusesCut_knows _ _) hpush rfl
    (titleDecoders_userInfo "A>") (titleDecoders_medalInfo "A>") (by decide +kernel) (by decide +kernel)
    plain_empty plain_empty plain_empty
  obtain ⟨msgBody, hdecode, hbranch⟩ := processEvent0x2dc_specialTitle hpush (some [])
  have hcaptures : (titleDecoders "A>").captures (titleContent "A>").notifyInner =
      ["\x7b\"data\":\"\",\"text\":\"A", medalJson] := by
    decide +kernel
  rw [hbranch, notice_refused hdecode hcaptures (.inl (by decide +kernel))] at hparsed
  cases hparsed

end Mania
