/-
The QR code between the server and the login. A response is read as what the
server meant by it, whatever else is among its TLVs (`parse_toBytes`), and
from a code that was fetched to the polls the signature goes back to the
server byte for byte (`polls_name`).
-/
import Mania.TlvFacts
import Mania.TransEmp

namespace Mania

open Bytes PacketReader TypeLengthValue

variable {ε α : Type} {prost : TlvProst}

/-! ## The TLVs of a response -/

/-- What the map for QR codes makes of an entry. -/
def qrcodeTlv (prost : TlvProst) (e : Entry) : Option TlvDe :=
  if e.tag = 0x017 then some (.T017q e.value)
  else if e.tag = 0x018 then some (.T018q e.value)
  else if e.tag = 0x019 then some (.T019q e.value)
  else if e.tag = 0x01c then some (.T01cq (ofBE32 (e.value.take 4)) (ofBE16 ((e.value.drop 4).take 2)))
  else if e.tag = 0x01e then some (.T01eq e.value)
  else if e.tag = 0x0d1 then (prost.qrCodeD1Resp e.value).map .T0d1Resp
  else none

/-- An entry of fixed size is at least that long. -/
abbrev Whole (e : Entry) : Prop := e.tag = 0x01c → 6 ≤ e.value.length

theorem holds_T01cq {value : Bytes} (h : 6 ≤ value.length) :
    Holds prost (.T01cq (ofBE32 (value.take 4)) (ofBE16 ((value.drop 4).take 2))) value := by
  have hsplit : value =
      be32 (ofBE32 (value.take 4)) ++ (be16 (ofBE16 ((value.drop 4).take 2)) ++ (value.drop 4).drop 2) := by
    rw [be32_ofBE32 (by simp; omega), be16_ofBE16 (by simp; omega), List.take_append_drop, List.take_append_drop]
  have hholds : Holds prost _ _ :=
    .T01cq (ofBE32 (value.take 4)) (ofBE16 ((value.drop 4).take 2)) ((value.drop 4).drop 2)
  rwa [← hsplit] at hholds

theorem reads_qrcodeTlv {e : Entry} (h : Whole e) : Reads prost TLV_QR_DE_TAGS e (qrcodeTlv prost e) := by
  unfold qrcodeTlv
  split
  · next htag => exact .decoded (htag ▸ by decide) htag.symm (.T017q e.value)
  split
  · next htag => exact .decoded (htag ▸ by decide) htag.symm (.T018q e.value)
  split
  · next htag => exact .decoded (htag ▸ by decide) htag.symm (.T019q e.value)
  split
  · next htag => exact .decoded (htag ▸ by decide) htag.symm (holds_T01cq (h htag))
  split
  · next htag => exact .decoded (htag ▸ by decide) htag.symm (.T01eq e.value)
  split
  · next htag =>
    cases hproto : prost.qrCodeD1Resp e.value with
    | some proto => exact .decoded (htag ▸ by decide) htag.symm (.T0d1Resp hproto)
    | none => exact .undecodable (htag ▸ by decide) htag hproto
  · exact .unsupported (by simp_all [TLV_QR_DE_TAGS])

theorem T01cq_panic {value : Bytes} (h : value.length < 6) :
    (new value do
      let expireSec ← u32
      let expireMin ← u16
      pure (TlvDe.T01cq expireSec expireMin) : Outcome ε TlvDe) = .panic := by
  rw [new_eq_panic, StateT.run_bind, u32_run]
  split
  · rw [Outcome.ok_bind, StateT.run_bind, u16_run, if_neg (by simp; omega)]
    rfl
  · rfl

/-- Reading the entries panics at the first that is too short. -/
theorem readTlvs_panic (prost : TlvProst) {entries : List Entry} (h : ¬ ∀ e ∈ entries, Whole e) (result : TlvSet) (rest : Bytes) :
    (TlvSet.readTlvs (deserializeQrcodeTlv prost) entries.length result : Cursor ε TlvSet).run
      (entries.flatMap Entry.toBytes ++ rest) = .panic := by
  induction entries generalizing result with
  | nil => exact absurd nofun h
  | cons e entries ih =>
    rw [List.length_cons, List.flatMap_cons, List.append_assoc, TlvSet.readTlvs, StateT.run_bind]
    by_cases hwhole : Whole e
    · obtain ⟨tlv, hrun, -⟩ := deserializeWith_run (ε := ε) (tabled_qrcode prost) (reads_qrcodeTlv hwhole)
        (entries.flatMap Entry.toBytes ++ rest)
      rw [deserializeQrcodeTlv, hrun, Outcome.ok_bind]
      have hrest : ¬ ∀ e ∈ entries, Whole e := fun hall => h (by simpa using ⟨hwhole, hall⟩)
      cases tlv with
      | ok tlv => exact ih hrest (result.insert tlv.tag tlv)
      | error e => exact ih hrest result
    · obtain ⟨htag, hshort⟩ := Classical.not_imp.mp hwhole
      have hrun : (deserializeQrcodeTlv prost : TlvDeserializer ε).run
          (e.toBytes ++ (entries.flatMap Entry.toBytes ++ rest)) = .panic := by
        rw [deserializeQrcodeTlv, deserializeWith, StateT.run_bind, Entry.toBytes, List.append_assoc, u16_be16,
          List.append_assoc, Outcome.ok_bind, htag]
        show (boxed _ : TlvDeserializer ε).run _ = _
        rw [boxed, StateT.run_map, lengthValue_run e.fits, T01cq_panic (by omega)]
        rfl
      rw [hrun]
      rfl

/-- The TLVs of a response. -/
structure QrTlvs where
  entries : List Entry
  counted : entries.length < 65536

namespace QrTlvs

variable (tlvs : QrTlvs)

/-- Reading does not panic. -/
abbrev Whole : Prop := ∀ e ∈ tlvs.entries, Mania.Whole e

/-- Those the map has a type for. -/
def known (prost : TlvProst) : List TlvDe := tlvs.entries.filterMap (qrcodeTlv prost)

/-- The last one of a type. -/
def field (prost : TlvProst) (type : TlvType) (get : TlvDe → Option α) : Outcome TransEmp.ParseError α :=
  Outcome.okOr (.missingTlv (.missingTlv type.tagStatic)) ((TlvSet.lastOf type.tagStatic (tlvs.known prost)).bind get)

def toBytes : Bytes := toStream tlvs.entries

theorem deserializeQrcode_whole (prost : TlvProst) (h : tlvs.Whole) : ∃ set,
    (TlvSet.deserializeQrcode prost tlvs.toBytes : Outcome ε TlvSet) = .ok set ∧
    ∀ (α : Type) (type : TlvType) (get : TlvDe → Option α),
      TlvSet.getField .missingTlv set type get = tlvs.field prost type get := by
  have hreads : ∀ e ∈ tlvs.entries, Reads prost TLV_QR_DE_TAGS e (qrcodeTlv prost e) :=
    fun e he => reads_qrcodeTlv (h e he)
  refine ⟨_, TlvSet.deserializeSet_toStream (tabled_qrcode prost) hreads tlvs.counted, ?_⟩
  intro α type get
  rw [TlvSet.getField, TlvSet.lookup_tagged]
  rfl

theorem deserializeQrcode_panic (h : ¬ tlvs.Whole) :
    (TlvSet.deserializeQrcode prost tlvs.toBytes : Outcome ε TlvSet) = .panic := by
  have hlength : (UInt16.ofNat tlvs.entries.length).toNat = tlvs.entries.length :=
    UInt16.toNat_ofNat_of_lt' tlvs.counted
  have hrun := readTlvs_panic (ε := ε) prost h ∅ []
  rw [List.append_nil] at hrun
  rw [TlvSet.deserializeQrcode, TlvSet.deserializeSet, new_eq_panic, StateT.run_bind, toBytes, toStream, u16_be16,
    Outcome.ok_bind, hlength, hrun]

end QrTlvs

/-! ## What the server says -/

/-- The payload of a response behind its command. -/
inductive QrMessage where
  | code (flag : UInt8) (signature : Bytes) (fits : signature.length < 65536) (tlvs : QrTlvs)
  | confirmed (unknown : Vector UInt8 12) (tlvs : QrTlvs)
  | status (state : UInt8) (h : state ≠ 0) (rest : Bytes)
  | other (command : UInt16) (hcode : command ≠ 0x31) (hstatus : command ≠ 0x12) (rest : Bytes)

namespace QrMessage

def command : QrMessage → UInt16
  | code .. => 0x31
  | confirmed .. | status .. => 0x12
  | other command .. => command

def payload : QrMessage → Bytes
  | code flag signature _ tlvs => flag :: (be16 (UInt16.ofNat signature.length) ++ (signature ++ tlvs.toBytes))
  | confirmed unknown tlvs => 0 :: (unknown.toList ++ tlvs.toBytes)
  | status state _ rest => state :: rest
  | other _ _ _ rest => rest

/-- What is to be read of it. -/
def read (prost : TlvProst) : QrMessage → Outcome TransEmp.ParseError TransEmp.Parsed
  | code _ signature _ tlvs =>
    if tlvs.Whole then do
      let qrCode ← tlvs.field prost .T017q TlvDe.qrCode
      let expiration ← tlvs.field prost .T01cq TlvDe.expireSec
      let t0d1 ← tlvs.field prost .T0d1Resp TlvDe.proto
      .ok (.emp31 { qrCode, expiration, url := t0d1.url, qrSig := t0d1.qrSig, signature })
    else .panic
  | confirmed _ tlvs =>
    if tlvs.Whole then do
      let tgtgtKey ← tlvs.field prost .T01eq TlvDe.tgtgtKey
      let tempPassword ← tlvs.field prost .T018q TlvDe.tempPassword
      let noPicSig ← tlvs.field prost .T019q TlvDe.noPicSig
      .ok (.emp12 (.confirmed { tgtgtKey, tempPassword, noPicSig }))
    else .panic
  | status 17 _ _ => .ok (.emp12 .codeExpired)
  | status 48 _ _ => .ok (.emp12 .waitingForScan)
  | status 53 _ _ => .ok (.emp12 .waitingForConfirm)
  | status 54 _ _ => .ok (.emp12 .canceled)
  | status state _ _ => .err (.otherError ("unknown trans_emp ret code: " ++ toString state))
  | other command _ _ _ => .err (.otherError ("unsupported trans_emp command: " ++ TransEmp.lowerHex command))

end QrMessage

/-- The fields around it that `parse` passes over. -/
structure QrHead where
  packetLength : UInt32
  misc : UInt32
  unknown : Vector UInt8 40
  appId : UInt32

def QrHead.toBytes (head : QrHead) (msg : QrMessage) : Bytes :=
  be32 head.packetLength ++ (be32 head.misc ++ (be16 msg.command ++ (head.unknown.toList ++
    (be32 head.appId ++ msg.payload))))

namespace TransEmp

theorem skip_run {n : Nat} {bs : Bytes} (h : bs.length = n) (rest : Bytes) :
    (skip n : Cursor ε Unit).run (bs ++ rest) = .ok ((), rest) := by
  subst h
  exact Cursor.advance_eq_ok.mpr ⟨by simp, by simp⟩

theorem readHead_toBytes (head : QrHead) (msg : QrMessage) :
    readHead (head.toBytes msg) = .ok (msg.command, msg.payload) := by
  rw [readHead, new_eq_ok]
  refine ⟨[], ?_⟩
  have hunknown : head.unknown.toList.length = 40 := by simp
  simp only [QrHead.toBytes, StateT.run_bind, u32_be32, Outcome.ok_bind, u16_be16, skip_run hunknown]
  rfl

theorem parseEmp31_payload (flag : UInt8) (signature : Bytes) (fits : signature.length < 65536) (tlvs : QrTlvs) :
    Parsed.emp31 <$> parseEmp31 prost (QrMessage.code flag signature fits tlvs).payload =
      (QrMessage.code flag signature fits tlvs).read prost := by
  have hhead : (new (QrMessage.code flag signature fits tlvs).payload do
      let _ ← u8
      let signature ← section16WithAddition 0 bytes
      let rest ← bytes
      pure (signature, rest) : Outcome ParseError (Bytes × Bytes)) = .ok (signature, tlvs.toBytes) := by
    rw [new_eq_ok]
    refine ⟨[], ?_⟩
    rw [QrMessage.payload, StateT.run_bind, u8_cons, Outcome.ok_bind, StateT.run_bind]
    show ((lengthValue bytes).run _ >>= _) = _
    rw [lengthValue_run fits]
    rfl
  rw [parseEmp31, hhead, Outcome.ok_bind, QrMessage.read]
  dsimp only
  split
  · next hwhole =>
    obtain ⟨set, hset, hfield⟩ := tlvs.deserializeQrcode_whole (ε := ParseError) prost hwhole
    simp only [hset, Outcome.ok_bind, hfield, map_bind]
    rfl
  · next hwhole =>
    rw [tlvs.deserializeQrcode_panic hwhole]
    rfl

theorem parseConfirmed_payload (unknown : Vector UInt8 12) (tlvs : QrTlvs) :
    (Parsed.emp12 ∘ TransEmp12Res.confirmed) <$> parseConfirmed prost (unknown.toList ++ tlvs.toBytes) =
      (QrMessage.confirmed unknown tlvs).read prost := by
  have hhead : (new (unknown.toList ++ tlvs.toBytes) do
      skip 12
      bytes : Outcome ParseError Bytes) = .ok tlvs.toBytes := by
    rw [new_eq_ok]
    refine ⟨[], ?_⟩
    rw [StateT.run_bind, skip_run (by simp), Outcome.ok_bind]
    rfl
  rw [parseConfirmed, hhead, Outcome.ok_bind, QrMessage.read]
  split
  · next hwhole =>
    obtain ⟨set, hset, hfield⟩ := tlvs.deserializeQrcode_whole (ε := ParseError) prost hwhole
    simp only [hset, Outcome.ok_bind, hfield, map_bind]
    rfl
  · next hwhole =>
    rw [tlvs.deserializeQrcode_panic hwhole]
    rfl

theorem parseEmp12_status {state : UInt8} (h : state ≠ 0) (rest : Bytes) :
    Parsed.emp12 <$> parseEmp12 prost (state :: rest) = (QrMessage.status state h rest).read prost := by
  have hhead : (new (state :: rest) do
      let state ← u8
      let packet ← bytes
      pure (state, packet) : Outcome ParseError (UInt8 × Bytes)) = .ok (state, rest) := rfl
  rw [parseEmp12, hhead, Outcome.ok_bind]
  dsimp only
  rw [if_neg h]
  split
  · next hexpired =>
    subst hexpired
    rfl
  split
  · next hscan =>
    subst hscan
    rfl
  split
  · next hconfirm =>
    subst hconfirm
    rfl
  split
  · next hcanceled =>
    subst hcanceled
    rfl
  · unfold QrMessage.read
    split <;> simp_all

theorem parseEmp12_confirmed (unknown : Vector UInt8 12) (tlvs : QrTlvs) :
    Parsed.emp12 <$> parseEmp12 prost (QrMessage.confirmed unknown tlvs).payload =
      (QrMessage.confirmed unknown tlvs).read prost := by
  have hstate : parseEmp12 prost (QrMessage.confirmed unknown tlvs).payload =
      .confirmed <$> parseConfirmed prost (unknown.toList ++ tlvs.toBytes) := rfl
  rw [hstate, Functor.map_map]
  exact parseConfirmed_payload unknown tlvs

/-- What `parse` does behind the envelope. -/
theorem parse_body (prost : TlvProst) (ctx : Context) (rng : Nat → UInt8) (r : WtLogin.WtloginResponse)
    (head : QrHead) (msg : QrMessage) :
    parse prost ({ r with body := head.toBytes msg }.toBytes rng ctx.crypto.loginP256.sharedKey) ctx =
      if msg.command = 0x31 then .emp31 <$> parseEmp31 prost msg.payload
      else if msg.command = 0x12 then .emp12 <$> parseEmp12 prost msg.payload
      else .err (.otherError ("unsupported trans_emp command: " ++ lowerHex msg.command)) := by
  rw [parse, WtLogin.parseWtloginPacket_toBytes, Outcome.mapErr_ok, Outcome.ok_bind, readHead_toBytes, Outcome.ok_bind]

/-- The message behind its command. -/
theorem dispatch_payload (prost : TlvProst) (msg : QrMessage) :
    (if msg.command = 0x31 then .emp31 <$> parseEmp31 prost msg.payload
      else if msg.command = 0x12 then .emp12 <$> parseEmp12 prost msg.payload
      else .err (.otherError ("unsupported trans_emp command: " ++ lowerHex msg.command))) = msg.read prost := by
  cases msg with
  | code flag signature fits tlvs => exact parseEmp31_payload flag signature fits tlvs
  | confirmed unknown tlvs => exact parseEmp12_confirmed unknown tlvs
  | status state h rest => exact parseEmp12_status h rest
  | other command hcode hstatus rest =>
    rw [QrMessage.command, if_neg hcode, if_neg hstatus]
    rfl

/-- Main result. **A response is read as the server meant it**: the last TLV
of each kind that decodes, whatever stands around it; the first one missing,
an unknown status or an unknown command is the error; and only an entry too
short for its numbers makes the parser panic. -/
theorem parse_toBytes (prost : TlvProst) (ctx : Context) (rng : Nat → UInt8) (r : WtLogin.WtloginResponse)
    (head : QrHead) (msg : QrMessage) :
    parse prost ({ r with body := head.toBytes msg }.toBytes rng ctx.crypto.loginP256.sharedKey) ctx =
      msg.read prost :=
  (parse_body prost ctx rng r head msg).trans (dispatch_payload prost msg)

end TransEmp

/-! ## From the code to the polls -/

/-- A whole code, if that was read. -/
def codeOf : Outcome TransEmp.ParseError TransEmp.Parsed → Option CoreQrSign
  | .ok (.emp31 res) => (toSign res.signature).map fun sign => { sign, string := res.qrSig, url := res.url }
  | _ => none

/-- How a call to `fetch_qrcode` is answered: its request fails, or a packet
comes, of any bytes, and is read in the context there is. -/
inductive QrAnswer where
  | failed (e : BusinessError String)
  | packet (ctx : Context) (bs : Bytes)

namespace QrAnswer

/-- What the call leaves in `session.qr_sign`. -/
def leaves (prost : TlvProst) (display : TransEmp.ParseError → String) :
    QrAnswer → Option CoreQrSign → Option CoreQrSign
  | failed e, qrSign => ((fetchQrcode (.error e)).run qrSign).2
  | packet ctx bs, qrSign => fetched prost display bs ctx qrSign

def code (prost : TlvProst) : QrAnswer → Option CoreQrSign
  | failed _ => none
  | packet ctx bs => codeOf (TransEmp.parse prost bs ctx)

theorem leaves_eq (display : TransEmp.ParseError → String) (answer : QrAnswer) (qrSign : Option CoreQrSign) :
    answer.leaves prost display qrSign = (answer.code prost).or qrSign := by
  cases answer with
  | failed e => rfl
  | packet ctx bs =>
    rw [leaves, fetched, TransEmp.received, code]
    cases TransEmp.parse prost bs ctx with
    | ok parsed =>
      cases parsed with
      | emp12 res => rfl
      | emp31 res =>
        dsimp only [fetchQrcode, codeOf]
        cases toSign res.signature <;> rfl
    | err e => rfl
    | panic => rfl

end QrAnswer

/-- An answer in which the server puts a message, in any envelope. -/
structure QrResponse where
  ctx : Context
  rng : Nat → UInt8
  response : WtLogin.WtloginResponse
  head : QrHead
  msg : QrMessage

def QrResponse.answer (r : QrResponse) : QrAnswer :=
  .packet r.ctx ({ r.response with body := r.head.toBytes r.msg }.toBytes r.rng r.ctx.crypto.loginP256.sharedKey)

/-- It brings the code of the message. -/
theorem QrResponse.answer_code (prost : TlvProst) (r : QrResponse) :
    r.answer.code prost = codeOf (r.msg.read prost) := by
  rw [answer, QrAnswer.code, TransEmp.parse_body, TransEmp.dispatch_payload]

/-- One call after the other. -/
def fetchAll (prost : TlvProst) (display : TransEmp.ParseError → String) (answers : List QrAnswer)
    (qrSign : Option CoreQrSign) : Option CoreQrSign :=
  answers.foldl (fun qrSign answer => answer.leaves prost display qrSign) qrSign

/-- The code of the last answer that brings one. -/
def latest (prost : TlvProst) (answers : List QrAnswer) : Option CoreQrSign :=
  (answers.filterMap (QrAnswer.code prost)).getLast?

theorem fetchAll_eq (display : TransEmp.ParseError → String) (answers : List QrAnswer) (qrSign : Option CoreQrSign) :
    fetchAll prost display answers qrSign = (latest prost answers).or qrSign := by
  induction answers using List.reverseRecOn with
  | nil => rfl
  | append_singleton answers answer ih =>
    have hlast : latest prost (answers ++ [answer]) = (answer.code prost).or (latest prost answers) := by
      simp [latest, List.getLast?_append]
    have hconcat : fetchAll prost display (answers ++ [answer]) qrSign =
        answer.leaves prost display (fetchAll prost display answers qrSign) := List.foldl_concat _ _ _ _
    rw [hconcat, QrAnswer.leaves_eq, ih, hlast, Option.or_assoc]

/-! ## What a poll sends -/

/-- The TLV bytes of a poll. -/
def pollBytes (ctx : Context) (sign : Vector UInt8 24) : Bytes :=
  be16 0 ++ (be32 ctx.appInfo.appId.toUInt32 ++ (be16 24 ++ (sign.toList ++ (be64 0 ++ ([0] ++ (be16 0 ++ be16 0))))))

theorem pollBytes_length (ctx : Context) (sign : Vector UInt8 24) : (pollBytes ctx sign).length = 45 := by
  simp [pollBytes]

theorem pollBytes_inj {ctx : Context} {sign sign' : Vector UInt8 24} (h : pollBytes ctx sign = pollBytes ctx sign') :
    sign = sign' := by
  have hdrop (sign : Vector UInt8 24) : ((pollBytes ctx sign).drop 8).take 24 = sign.toList := by
    rw [pollBytes, ← List.append_assoc, ← List.append_assoc, List.drop_left' (by simp), List.take_left' (by simp)]
  apply Vector.toList_inj.mp
  rw [← hdrop sign, h, hdrop sign']

theorem queryResultData_eq (ctx : Context) (qrsign : CoreQrSign) :
    (TransEmp.queryResultData ctx qrsign : Outcome ε Bytes) = .ok (pollBytes ctx qrsign.sign) := by
  have hsign := PacketBuilder.writes_writeWithLength (ε := ε) .two false (A := 0)
    (PacketBuilder.Writes.bytes qrsign.sign.toList)
  have hempty := PacketBuilder.writes_writeWithLength (ε := ε) .two false (A := 0) (PacketBuilder.Writes.bytes [])
  have h : PacketBuilder.Writes (ε := ε) _ _ :=
    (PacketBuilder.Writes.u16 0).comp <| (PacketBuilder.Writes.u32 ctx.appInfo.appId.toUInt32).comp <| hsign.comp <|
    (PacketBuilder.Writes.u64 0).comp <| (PacketBuilder.Writes.u8 0).comp <| hempty.comp <| PacketBuilder.Writes.u16 0
  refine h.build_eq.trans ?_
  have hlength : PrefixWidth.two.encode ((qrsign.sign.toList.length + PrefixWidth.two.added false : Nat) + 0) =
      be16 24 := by
    rw [Vector.length_toList]
    rfl
  rw [hlength]
  simp only [pollBytes, List.append_assoc]
  rfl

/-- Opened with the key of the context, the packet is a command 0x12 with
these TLV bytes. -/
def Polls (ctx : Context) (sign : Vector UInt8 24) (packet : Bytes) : Prop :=
  ∃ body, WtLogin.WtloginFramed ctx body packet ∧ WtLogin.TransEmpFramed (pollBytes ctx sign) body ∧
    (body.drop 21).take 2 = be16 0x12

theorem Polls.unique {ctx : Context} {sign sign' : Vector UInt8 24} {packet : Bytes} (h : Polls ctx sign packet)
    (h' : Polls ctx sign' packet) : sign = sign' := by
  obtain ⟨body, hframed, htlvs, -⟩ := h
  obtain ⟨body', hframed', htlvs', -⟩ := h'
  have hbody : body = body' := Outcome.ok.inj (hframed.decrypted.symm.trans hframed'.decrypted)
  subst hbody
  exact pollBytes_inj (htlvs.tlvs_eq.symm.trans htlvs'.tlvs_eq)

/-- The body of a poll, and what of it is in front of its command. -/
def pollHead (ctx : Context) (timestamp : Int64) : Bytes :=
  [0] ++ (be16 93 ++ (WtLogin.transEmpHead ctx ++ (be32 timestamp.toUInt64.toUInt32 ++ ([2] ++ be16 89))))

def pollBody (ctx : Context) (timestamp : Int64) (sign : Vector UInt8 24) : Bytes :=
  [0] ++ (be16 (UInt16.ofNat (48 + 45)) ++ (WtLogin.transEmpHead ctx ++ (be32 timestamp.toUInt64.toUInt32 ++
    WtLogin.newPacketBytes 0x12 (pollBytes ctx sign))))

theorem pollBody_length (ctx : Context) (timestamp : Int64) (sign : Vector UInt8 24) :
    (pollBody ctx timestamp sign).length = 107 := by
  simp [pollBody, WtLogin.transEmpHead_length, WtLogin.newPacketBytes_length, pollBytes_length]

theorem pollBody_framed (ctx : Context) (timestamp : Int64) (sign : Vector UInt8 24) :
    WtLogin.TransEmpFramed (pollBytes ctx sign) (pollBody ctx timestamp sign) := by
  have hcounted : 48 + 45 = 48 + (pollBytes ctx sign).length := by rw [pollBytes_length]
  exact WtLogin.transEmpFramed (WtLogin.transEmpHead_length ctx) (be32_length _) rfl
    (WtLogin.newPacketHead_length 0x12) hcounted (by decide)

theorem pollBody_command (ctx : Context) (timestamp : Int64) (sign : Vector UInt8 24) :
    ((pollBody ctx timestamp sign).drop 21).take 2 = be16 0x12 := by
  have hsplit : pollBody ctx timestamp sign =
      pollHead ctx timestamp ++ (WtLogin.newPacketHead 0x12 ++ (pollBytes ctx sign ++ [3])) := by
    rw [pollBody, pollHead, WtLogin.newPacketBytes, pollBytes_length]
    simp only [List.append_assoc]
    rfl
  have hlength : (pollHead ctx timestamp).length = 21 := by simp [pollHead, WtLogin.transEmpHead_length]
  rw [hsplit, List.drop_left' hlength, WtLogin.newPacketHead, List.append_assoc, List.take_left' (be16_length _)]

theorem buildBody_queryResult (prost : TlvSerProst) (timestamp : Int64) (ctx : Context) (code : CoreQrSign) :
    (TransEmp.buildBody prost timestamp ctx (some code) .queryResult : Outcome ε Bytes) =
      .ok (pollBody ctx timestamp code.sign) := by
  rw [TransEmp.buildBody, Outcome.expect_some, Outcome.ok_bind, queryResultData_eq, Outcome.ok_bind,
    WtLogin.buildTransEmpBody_eq, pollBytes_length]
  rfl

theorem build_polls {ctx : Context} (hkey : ctx.crypto.loginP256.publicKey.length = 65) (rng : Nat → UInt8)
    (timestamp : Int64) (prost : TlvSerProst) (code : CoreQrSign) : ∃ packet,
      (TransEmp.build prost rng timestamp ctx (some code) .queryResult : Outcome ε Bytes) = .ok packet ∧
      Polls ctx code.sign packet := by
  have hsmall : (WtLogin.wtloginBytes ctx 2066
      (encrypted rng (pollBody ctx timestamp code.sign) ctx.crypto.loginP256.sharedKey.toList)).length < 65536 := by
    have hfill := fillCount_bounds (pollBody ctx timestamp code.sign)
    rw [WtLogin.wtloginBytes_length, encrypted_length, hkey, pollBody_length]
    omega
  have hpolls : Polls ctx code.sign (WtLogin.wtloginBytes ctx 2066
      (encrypted rng (pollBody ctx timestamp code.sign) ctx.crypto.loginP256.sharedKey.toList)) :=
    ⟨pollBody ctx timestamp code.sign, WtLogin.wtloginFramed rng ctx 2066 _ hsmall,
      pollBody_framed ctx timestamp code.sign, pollBody_command ctx timestamp code.sign⟩
  refine ⟨_, ?_, hpolls⟩
  rw [TransEmp.build, buildBody_queryResult, Outcome.ok_bind, WtLogin.buildWtloginPacket_eq]

/-- The HTTP request that goes with a poll. -/
def faceRequest (ctx : Context) (code : CoreQrSign) : NTLoginHttpRequest :=
  { appid := ctx.appInfo.appId.toInt64.toUInt64, faceUpdateTime := 0, qrsig := code.string }

/-- Main result. **A poll names the code that was fetched last**: whatever
bytes answered the fetches since the session is new, and whichever of them
failed, the packet is a poll of the signature in the last answer that brought
a whole code (of zeros, if none did) and of no other, and the HTTP request
that the login posts before it is for the same code. What the server puts
into an envelope brings the code that it means. -/
theorem polls_name (prost : TlvProst) (display : TransEmp.ParseError → String) (answers : List QrAnswer) (ctx : Context)
    (hkey : ctx.crypto.loginP256.publicKey.length = 65) (x : QrServices) (serProst : TlvSerProst) (rng : Nat → UInt8)
    (timestamp : Int64) :
    (∃ packet, (TransEmp.build serProst rng timestamp ctx (fetchAll prost display answers (some .new)) .queryResult :
      Outcome Empty Bytes) = .ok packet ∧
      ∀ sign, Polls ctx sign packet ↔ sign = ((latest prost answers).getD .new).sign) ∧
    (∀ payload, (QrLogin.loginByQrcode x ctx ((fetchAll prost display answers (some .new)).map (·.toQrSign))).phase =
      .posting payload → x.toVec (faceRequest ctx ((latest prost answers).getD .new)) = .ok payload) ∧
    ∀ r : QrResponse, r.answer.code prost = codeOf (r.msg.read prost) := by
  refine and_assoc.mp ⟨?_, QrResponse.answer_code prost⟩
  have hheld : fetchAll prost display answers (some .new) = some ((latest prost answers).getD .new) := by
    rw [fetchAll_eq]
    cases latest prost answers <;> rfl
  rw [hheld]
  generalize (latest prost answers).getD .new = code
  obtain ⟨packet, hbuild, hpolls⟩ := build_polls (ε := Empty) hkey rng timestamp serProst code
  refine ⟨⟨packet, hbuild, fun sign => ?_⟩, ?_⟩
  · constructor
    · intro h
      exact h.unique hpolls
    · rintro rfl
      exact hpolls
  · intro payload hphase
    simp only [QrLogin.loginByQrcode, QrLogin.queryTransTmpStatus, Option.map_some] at hphase
    split at hphase
    · next hpayload =>
      cases hphase
      exact hpayload
    · cases hphase

/-! ## A code that expires -/

/-- A `TlvQrCodeD1Resp` with the address and the string of the code. -/
def qrCodeBytes : Bytes := [0x12, 0x12] ++ Utf8.encode "https://txz.qq.com" ++ [0x1A, 0x01, 0x73]

def qrProst : TlvProst where
  qrCodeD1Resp := fun bs => if bs = qrCodeBytes then some { url := "https://txz.qq.com", qrSig := "s" } else none
  tlv543 := fun _ => none

/-- A context whose public key has 65 bytes. -/
def qrContext : Context := { WtLogin.freshContext with crypto.loginP256.publicKey := List.replicate 65 4 }

def qrHead : QrHead where
  packetLength := 0
  misc := 0
  unknown := .replicate 40 0
  appId := 0

def qrTlvs : QrTlvs where
  entries :=
    [{ tag := 0x17, value := [137], fits := of_decide_eq_true rfl },
      { tag := 0x1c, value := [0, 0, 0, 120, 0, 2], fits := of_decide_eq_true rfl },
      { tag := 0xd1, value := qrCodeBytes, fits := of_decide_eq_true rfl }]
  counted := of_decide_eq_true rfl

def qrResponse (msg : QrMessage) : QrResponse :=
  { ctx := qrContext, rng := fun _ => 220, response := WtLogin.loginResponse, head := qrHead, msg }

/-- The server brings the code, and then has it expired. Then comes a packet
that is none. -/
def qrAnswers : List QrAnswer :=
  [(qrResponse (.code 0 (List.replicate 24 9) (by simp) qrTlvs)).answer,
    (qrResponse (.status 17 (by decide) [])).answer, .packet qrContext [1]]

theorem polls_name_expired : ∃ packet,
    (TransEmp.build { qrCodeD1 := fun _ => [] } (fun _ => 220) 0 qrContext
      (fetchAll qrProst (fun _ => "") qrAnswers (some .new)) .queryResult : Outcome Empty Bytes) = .ok packet ∧
    ∀ sign, Polls qrContext sign packet ↔ sign = .replicate 24 9 := by
  have hpolls := polls_name qrProst (fun _ => "") qrAnswers qrContext (by decide) (QrLogin.servicesOf 7)
    { qrCodeD1 := fun _ => [] } (fun _ => 220) 0
  have hlatest : ((latest qrProst qrAnswers).getD .new).sign = .replicate 24 9 := by
    simp only [latest, qrAnswers, List.filterMap_cons, hpolls.2.2]
    rfl
  rw [hlatest] at hpolls
  exact hpolls.1

end Mania
