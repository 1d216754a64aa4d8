/-
`parse` of `core/event/login/wtlogin.rs`: what a login response stores in
the session and the key store.

Everything that can fail comes before the first store, so a login is stored
whole or not at all (`parse_atomic`). The MD5 is the argument `md5`, and the
time `now`.
-/
import Mania.Lib.Effect
import Mania.TlvFacts
import Mania.WtLoginFacts

namespace Mania

/-- The event. -/
structure WtLogin where
  code : Int32
  msg : Option String

namespace WtLogin

open PacketReader

/-- The `EventError`s of `parse`. -/
inductive ParseError where
  | missingTlv (e : TlvError)
  | packetParseError (e : PacketError)

end WtLogin

/-! ## `downcast_ref`, and the field that is read -/

namespace TlvDe

def encryptedTlv : TlvDe → Option Bytes
  | T119 encryptedTlv => some encryptedTlv
  | _ => none

def tgt : TlvDe → Option Bytes
  | T10A tgt => some tgt
  | _ => none

def d2 : TlvDe → Option Bytes
  | T143 d2 => some d2
  | _ => none

def d2key : TlvDe → Option Bytes
  | T305 d2key => some d2key
  | _ => none

def temp : TlvDe → Option Bytes
  | T106 tlv => some tlv.temp
  | _ => none

def uid : TlvDe → Option String
  | T543 uid => some uid
  | _ => none

def selfInfo : TlvDe → Option AccountInfo
  | T11A _ age gender nickName => some { age, gender, name := nickName }
  | _ => none

def message : TlvDe → Option String
  | T146 _ _ message _ => some message
  | _ => none

end TlvDe

namespace WtLogin

open PacketReader

/-- `try_into()` of a slice. -/
def toKey (bs : Bytes) : Option (Vector UInt8 16) :=
  if h : bs.length = 16 then some ⟨bs.toArray, by simpa using h⟩ else none

/-- The type of the answer, and the bytes of its TLVs. -/
def readHead (packet : Bytes) : Outcome ParseError (UInt8 × Bytes) :=
  new packet do
    skip 2
    let typ ← u8
    let tlvs ← bytes
    pure (typ, tlvs)

def parse (prost : TlvProst) (md5 : Bytes → Bytes) (now : Int) (packet : Bytes) :
    Effect Context ParseError WtLogin := do
  let ctx ← Effect.get
  let packet ← Effect.lift ((parseWtloginPacket packet ctx).mapErr .packetParseError)
  let (typ, tlvs) ← Effect.lift (readHead packet)
  let originalTlvs ← Effect.lift (TlvSet.deserialize prost tlvs)
  if typ = 0 then do
    let encTlvsData ← Effect.lift (TlvSet.getField .missingTlv originalTlvs .T119 TlvDe.encryptedTlv)
    let decTlvsData ← Effect.lift (Mania.teaDecrypt encTlvsData ctx.session.stub.tgtgtKey)
    let tlvs ← Effect.lift (TlvSet.deserialize prost decTlvsData)
    let tgt ← Effect.lift (TlvSet.getField .missingTlv tlvs .T10A TlvDe.tgt)
    let d2 ← Effect.lift (TlvSet.getField .missingTlv tlvs .T143 TlvDe.d2)
    let d2Key ← Effect.lift (TlvSet.getField .missingTlv tlvs .T305 TlvDe.d2key)
    -- "d2_key is not 16 bytes long"
    let transD2Key ← Effect.lift (Outcome.expect (toKey d2Key))
    let tgtgt := md5 d2Key
    let tempPwd ← Effect.lift (TlvSet.getField .missingTlv tlvs .T106 TlvDe.temp)
    let uid ← Effect.lift (TlvSet.getField .missingTlv tlvs .T543 TlvDe.uid)
    let selfInfo ← Effect.lift (TlvSet.getField .missingTlv tlvs .T11A TlvDe.selfInfo)
    Effect.modify fun ctx => { ctx with session.stub.tgtgtKey := tgtgt }
    Effect.modify fun ctx => { ctx with keyStore.session.tgt := tgt }
    Effect.modify fun ctx => { ctx with keyStore.session.d2 := d2 }
    Effect.modify fun ctx => { ctx with keyStore.session.d2Key := transD2Key }
    Effect.modify fun ctx => { ctx with keyStore.uid := some uid }
    Effect.modify fun ctx => { ctx with keyStore.session.tempPassword := some tempPwd }
    Effect.modify fun ctx => { ctx with keyStore.session.sessionDate := now }
    Effect.modify fun ctx => { ctx with keyStore.info := selfInfo }
    pure { code := 0, msg := none }
  else do
    let message ← Effect.lift (TlvSet.getField .missingTlv originalTlvs .T146 TlvDe.message)
    pure { code := typ.toUInt32.toInt32, msg := some message }

/-! ## What is stored -/

/-- The TLVs in the 0x119 entry of the response, encrypted with the `tgtgt_key`
of the context. -/
def Unsealed (prost : TlvProst) (packet : Bytes) (ctx : Context) (tlvs : TlvSet) : Prop :=
  ∃ payload head original encTlvsData decTlvsData,
    parseWtloginPacket packet ctx = .ok payload ∧ readHead payload = .ok head ∧ head.1 = 0 ∧
    (TlvSet.deserialize prost head.2 : Outcome ParseError _) = .ok original ∧
    (original.lookup 0x119).bind TlvDe.encryptedTlv = some encTlvsData ∧
    (Mania.teaDecrypt encTlvsData ctx.session.stub.tgtgtKey : Outcome ParseError _) = .ok decTlvsData ∧
    (TlvSet.deserialize prost decTlvsData : Outcome ParseError _) = .ok tlvs

theorem Unsealed.unique {prost : TlvProst} {packet : Bytes} {ctx : Context} {tlvs tlvs' : TlvSet}
    (h : Unsealed prost packet ctx tlvs) (h' : Unsealed prost packet ctx tlvs') : tlvs = tlvs' := by
  obtain ⟨payload, head, original, enc, dec, hpacket, hhead, -, horiginal, henc, hdec, htlvs⟩ := h
  obtain ⟨payload', head', original', enc', dec', hpacket', hhead', -, horiginal', henc', hdec', htlvs'⟩ := h'
  cases hpacket.symm.trans hpacket'
  cases hhead.symm.trans hhead'
  cases horiginal.symm.trans horiginal'
  cases henc.symm.trans henc'
  cases hdec.symm.trans hdec'
  cases htlvs.symm.trans htlvs'
  rfl

/-- The context `ctx'` is `ctx` with the login stored that these TLVs hold. -/
structure Stored (md5 : Bytes → Bytes) (now : Int) (tlvs : TlvSet) (ctx ctx' : Context) : Prop where
  tgt : (tlvs.lookup 0x10A).bind TlvDe.tgt = some ctx'.keyStore.session.tgt
  d2 : (tlvs.lookup 0x143).bind TlvDe.d2 = some ctx'.keyStore.session.d2
  d2Key : (tlvs.lookup 0x305).bind TlvDe.d2key = some ctx'.keyStore.session.d2Key.toList
  tempPassword : (tlvs.lookup 0x106).bind TlvDe.temp = ctx'.keyStore.session.tempPassword
  uid : (tlvs.lookup 0x543).bind TlvDe.uid = ctx'.keyStore.uid
  info : (tlvs.lookup 0x11A).bind TlvDe.selfInfo = some ctx'.keyStore.info
  tempPassword_isSome : ctx'.keyStore.session.tempPassword.isSome
  uid_isSome : ctx'.keyStore.uid.isSome
  tgtgtKey : ctx'.session.stub.tgtgtKey = md5 ctx'.keyStore.session.d2Key.toList
  /-- Nothing else is stored. -/
  rest : ctx' = { ctx with
    session.stub.tgtgtKey := ctx'.session.stub.tgtgtKey
    keyStore.uid := ctx'.keyStore.uid
    keyStore.info := ctx'.keyStore.info
    keyStore.session.tgt := ctx'.keyStore.session.tgt
    keyStore.session.d2 := ctx'.keyStore.session.d2
    keyStore.session.d2Key := ctx'.keyStore.session.d2Key
    keyStore.session.tempPassword := ctx'.keyStore.session.tempPassword
    keyStore.session.sessionDate := now }

theorem toKey_eq_some {bs : Bytes} {key : Vector UInt8 16} (h : toKey bs = some key) : key.toList = bs := by
  unfold toKey at h
  split at h
  · cases h
    simp
  · cases h

/-- How a parsing that gives a result ends, and the context it leaves. -/
inductive Parsed (prost : TlvProst) (md5 : Bytes → Bytes) (now : Int) (packet : Bytes) (ctx : Context) :
    Exit ParseError WtLogin → Context → Prop
  | login {tlvs : TlvSet} {ctx' : Context} (hunsealed : Unsealed prost packet ctx tlvs)
      (hstored : Stored md5 now tlvs ctx ctx') : Parsed prost md5 now packet ctx (.ok { code := 0, msg := none }) ctx'
  | refused {r : WtLogin} (hcode : r.code ≠ 0) : Parsed prost md5 now packet ctx (.ok r) ctx

theorem code_eq_zero {typ : UInt8} (h : typ.toUInt32.toInt32 = 0) : typ = 0 := by
  have h32 : typ.toUInt32 = 0 := congrArg Int32.toUInt32 h
  exact UInt8.toUInt32_inj.mp h32

theorem parse_allOrNothing (prost : TlvProst) (md5 : Bytes → Bytes) (now : Int) (packet : Bytes) (ctx : Context) :
    (parse prost md5 now packet).AllOrNothing (Parsed prost md5 now packet ctx) ctx := by
  refine .get_bind ?_
  refine .lift_bind fun payload hpayload => ?_
  refine .lift_bind fun head hhead => ?_
  refine .lift_bind fun original horiginal => ?_
  dsimp only
  split
  · next htyp =>
    refine .lift_bind fun encTlvsData henc => ?_
    refine .lift_bind fun decTlvsData hdec => ?_
    refine .lift_bind fun tlvs htlvs => ?_
    refine .lift_bind fun tgt htgt => ?_
    refine .lift_bind fun d2 hd2 => ?_
    refine .lift_bind fun d2Key hd2Key => ?_
    refine .lift_bind fun key hkey => ?_
    refine .lift_bind fun tempPwd htemp => ?_
    refine .lift_bind fun uid huid => ?_
    refine .lift_bind fun selfInfo hinfo => ?_
    have hunsealed : Unsealed prost packet ctx tlvs :=
      ⟨payload, head, original, encTlvsData, decTlvsData, Outcome.mapErr_eq_ok.mp hpayload, hhead, htyp, horiginal,
        TlvSet.getField_eq_ok.mp henc, hdec, htlvs⟩
    refine .inr (.login hunsealed ?_)
    · have hbytes : d2Key = key.toList := (toKey_eq_some (Outcome.expect_eq_ok.mp hkey)).symm
      subst hbytes
      exact {
        tgt := TlvSet.getField_eq_ok.mp htgt
        d2 := TlvSet.getField_eq_ok.mp hd2
        d2Key := TlvSet.getField_eq_ok.mp hd2Key
        tempPassword := TlvSet.getField_eq_ok.mp htemp
        uid := TlvSet.getField_eq_ok.mp huid
        info := TlvSet.getField_eq_ok.mp hinfo
        tempPassword_isSome := rfl
        uid_isSome := rfl
        tgtgtKey := rfl
        rest := rfl }
  · next htyp =>
    refine .lift_bind fun message _ => ?_
    refine .inr (.refused ?_)
    intro hcode
    exact htyp (code_eq_zero hcode)

theorem toKey_toList (key : Vector UInt8 16) : toKey key.toList = some key := by
  rw [toKey, dif_pos (by simp)]
  rfl

/-- A response with all that is stored is stored. -/
theorem parse_login {prost : TlvProst} {packet : Bytes} {ctx : Context} {tlvs : TlvSet} {tgt d2 temp : Bytes}
    {key : Vector UInt8 16} {uid : String} {info : AccountInfo} (md5 : Bytes → Bytes) (now : Int)
    (hunsealed : Unsealed prost packet ctx tlvs) (htgt : (tlvs.lookup 0x10A).bind TlvDe.tgt = some tgt)
    (hd2 : (tlvs.lookup 0x143).bind TlvDe.d2 = some d2) (hkey : (tlvs.lookup 0x305).bind TlvDe.d2key = some key.toList)
    (htemp : (tlvs.lookup 0x106).bind TlvDe.temp = some temp) (huid : (tlvs.lookup 0x543).bind TlvDe.uid = some uid)
    (hinfo : (tlvs.lookup 0x11A).bind TlvDe.selfInfo = some info) :
    ∃ ctx', (parse prost md5 now packet).run ctx = (.ok { code := 0, msg := none }, ctx') := by
  obtain ⟨payload, ⟨_, data⟩, original, enc, dec, hpacket, hhead, rfl, horiginal, henc, hdec, htlvs⟩ := hunsealed
  have hpacket : (parseWtloginPacket packet ctx).mapErr ParseError.packetParseError = .ok payload := by
    rw [hpacket, Outcome.mapErr_ok]
  have htyp : ((0 : UInt8), data).1 = 0 := rfl
  unfold parse
  apply Exists.intro
  refine (Effect.get_bind _ _).trans ?_
  refine Effect.lift_bind_ok hpacket ?_
  refine Effect.lift_bind_ok hhead ?_
  refine Effect.lift_bind_ok horiginal ?_
  dsimp only
  rw [if_pos htyp]
  refine Effect.lift_bind_ok (TlvSet.getField_eq_ok.mpr henc) ?_
  refine Effect.lift_bind_ok hdec ?_
  refine Effect.lift_bind_ok htlvs ?_
  refine Effect.lift_bind_ok (TlvSet.getField_eq_ok.mpr htgt) ?_
  refine Effect.lift_bind_ok (TlvSet.getField_eq_ok.mpr hd2) ?_
  refine Effect.lift_bind_ok (TlvSet.getField_eq_ok.mpr hkey) ?_
  refine Effect.lift_bind_ok (Outcome.expect_eq_ok.mpr (toKey_toList key)) ?_
  refine Effect.lift_bind_ok (TlvSet.getField_eq_ok.mpr htemp) ?_
  refine Effect.lift_bind_ok (TlvSet.getField_eq_ok.mpr huid) ?_
  refine Effect.lift_bind_ok (TlvSet.getField_eq_ok.mpr hinfo) ?_
  rfl

/-! ## An accepted login -/

/-- The TLVs hold the login of the key store: the account's `uid`, and the
`tgt`, `d2` and `d2_key` of its session. -/
structure HoldsLogin (tlvs : TlvSet) (k : KeyStore) : Prop where
  uid : (tlvs.lookup 0x543).bind TlvDe.uid = k.uid
  tgt : (tlvs.lookup 0x10A).bind TlvDe.tgt = some k.session.tgt
  d2 : (tlvs.lookup 0x143).bind TlvDe.d2 = some k.session.d2
  d2Key : (tlvs.lookup 0x305).bind TlvDe.d2key = some k.session.d2Key.toList

theorem Stored.holdsLogin {md5 : Bytes → Bytes} {now : Int} {tlvs : TlvSet} {ctx ctx' : Context}
    (h : Stored md5 now tlvs ctx ctx') : HoldsLogin tlvs ctx'.keyStore :=
  ⟨h.uid, h.tgt, h.d2, h.d2Key⟩

/-- The TLVs have all that a login stores. -/
structure Complete (tlvs : TlvSet) : Prop where
  tgt : ∃ tgt, (tlvs.lookup 0x10A).bind TlvDe.tgt = some tgt
  d2 : ∃ d2, (tlvs.lookup 0x143).bind TlvDe.d2 = some d2
  d2Key : ∃ key : Vector UInt8 16, (tlvs.lookup 0x305).bind TlvDe.d2key = some key.toList
  temp : ∃ temp, (tlvs.lookup 0x106).bind TlvDe.temp = some temp
  uid : ∃ uid, (tlvs.lookup 0x543).bind TlvDe.uid = some uid
  selfInfo : ∃ info, (tlvs.lookup 0x11A).bind TlvDe.selfInfo = some info

theorem Stored.complete {md5 : Bytes → Bytes} {now : Int} {tlvs : TlvSet} {ctx ctx' : Context}
    (h : Stored md5 now tlvs ctx ctx') : Complete tlvs where
  tgt := ⟨_, h.tgt⟩
  d2 := ⟨_, h.d2⟩
  d2Key := ⟨_, h.d2Key⟩
  temp := by
    obtain ⟨temp, htemp⟩ := Option.isSome_iff_exists.mp h.tempPassword_isSome
    exact ⟨temp, h.tempPassword.trans htemp⟩
  uid := by
    obtain ⟨uid, huid⟩ := Option.isSome_iff_exists.mp h.uid_isSome
    exact ⟨uid, h.uid.trans huid⟩
  selfInfo := ⟨_, h.info⟩

/-- The packet is the response to an accepted login, for who has the context. -/
structure Accepts (prost : TlvProst) (packet : Bytes) (ctx : Context) (tlvs : TlvSet) : Prop where
  unsealed : Unsealed prost packet ctx tlvs
  complete : Complete tlvs

/-- What a parsing does to the context: it stores an accepted login, or nothing. -/
theorem parse_accepts {prost : TlvProst} {md5 : Bytes → Bytes} {now : Int} {packet : Bytes} {ctx ctx' : Context}
    {exit : Exit ParseError WtLogin} (h : (parse prost md5 now packet).run ctx = (exit, ctx')) :
    (exit = .ok { code := 0, msg := none } ∧ ∃ tlvs, Accepts prost packet ctx tlvs ∧ Stored md5 now tlvs ctx ctx') ∨
      ((∀ r, exit = .ok r → r.code ≠ 0) ∧ (∀ tlvs, ¬ Accepts prost packet ctx tlvs) ∧ ctx' = ctx) := by
  have hends := parse_allOrNothing prost md5 now packet ctx
  rw [Effect.AllOrNothing, h] at hends
  have hrefused (hcode : ∀ r, exit = .ok r → r.code ≠ 0) (tlvs : TlvSet) : ¬ Accepts prost packet ctx tlvs := by
    rintro ⟨hunsealed, ⟨_, htgt⟩, ⟨_, hd2⟩, ⟨_, hkey⟩, ⟨_, htemp⟩, ⟨_, huid⟩, ⟨_, hinfo⟩⟩
    obtain ⟨_, hlogin⟩ := parse_login md5 now hunsealed htgt hd2 hkey htemp huid hinfo
    rw [h] at hlogin
    exact hcode _ (congrArg Prod.fst hlogin) rfl
  rcases hends with ⟨hfailed, hkept⟩ | hparsed
  · have hcode : ∀ r, exit = .ok r → r.code ≠ 0 := fun r hok => absurd hok (hfailed r)
    exact .inr ⟨hcode, hrefused hcode, hkept⟩
  · change Parsed prost md5 now packet ctx exit ctx' at hparsed
    cases hparsed with
    | login hunsealed hstored => exact .inl ⟨rfl, _, ⟨hunsealed, hstored.complete⟩, hstored⟩
    | @refused r hne =>
      have hcode : ∀ r', (.ok r : Exit ParseError WtLogin) = .ok r' → r'.code ≠ 0 := by
        rintro r' ⟨⟩
        exact hne
      exact .inr ⟨hcode, hrefused hcode, rfl⟩

/-- **A login is stored whole or not at all.** -/
theorem parse_atomic {prost : TlvProst} {md5 : Bytes → Bytes} {now : Int} {packet : Bytes} {ctx ctx' : Context}
    {exit : Exit ParseError WtLogin} (h : (parse prost md5 now packet).run ctx = (exit, ctx')) :
    (∀ e, exit = .err e → ctx' = ctx) ∧
      ∀ r, exit = .ok r → (r.code ≠ 0 → ctx' = ctx) ∧
        (r.code = 0 → ∃ tlvs, Unsealed prost packet ctx tlvs ∧ Stored md5 now tlvs ctx ctx') := by
  rcases parse_accepts h with ⟨rfl, tlvs, haccepts, hstored⟩ | ⟨hcode, -, rfl⟩
  · refine ⟨?_, ?_⟩
    · intro e herr
      cases herr
    · intro r hok
      cases hok
      exact ⟨fun hcode => absurd rfl hcode, fun _ => ⟨tlvs, haccepts.unsealed, hstored⟩⟩
  · refine ⟨fun _ _ => rfl, ?_⟩
    intro r hok
    exact ⟨fun _ => rfl, fun hzero => absurd hzero (hcode r hok)⟩

/-! ## A login of one account -/

/-- A `Tlv543` with the `uid` in its second layer. -/
def namedBytes : Bytes := [0x4A, 0x07, 0x5A, 0x05, 0x0A, 0x03, 0x75, 0x5F, 0x31]

/-- The message of one account is the only one that decodes. -/
def namedProst : TlvProst where
  qrCodeD1Resp := fun _ => none
  tlv543 := fun bs => if bs = namedBytes then some { layer1 := some { layer2 := some { uid := "u_1" } } } else none

open TypeLengthValue in
/-- The entries of a login, the `tgt` twice. -/
def loginEntries : List Entry :=
  [{ tag := 0x10A, value := [1], fits := by simp },
    { tag := 0x143, value := [2], fits := by simp },
    { tag := 0x305, value := List.replicate 16 9, fits := by simp },
    { tag := 0x106, value := [3], fits := by simp },
    { tag := 0x543, value := namedBytes, fits := of_decide_eq_true rfl },
    { tag := 0x11A, value := [0, 5, 20, 1, 0], fits := by simp },
    { tag := 0x10A, value := [6], fits := by simp }]

/-- Each entry as what it holds. -/
def loginTlv (e : TypeLengthValue.Entry) : Option TlvDe :=
  if e.tag = 0x10A then some (.T10A e.value)
  else if e.tag = 0x143 then some (.T143 e.value)
  else if e.tag = 0x305 then some (.T305 e.value)
  else if e.tag = 0x106 then some (.T106 (.ofTemp e.value))
  else if e.tag = 0x543 then some (.T543 "u_1")
  else some (.T11A 5 20 1 "")

theorem reads_login : ∀ e ∈ loginEntries, Reads namedProst TLV_DE_TAGS e (loginTlv e) := by
  intro e he
  simp only [loginEntries, List.mem_cons, List.not_mem_nil, or_false] at he
  rcases he with rfl | rfl | rfl | rfl | rfl | rfl | rfl
  · exact .decoded (by decide) rfl (.T10A _)
  · exact .decoded (by decide) rfl (.T143 _)
  · exact .decoded (by decide) rfl (.T305 _)
  · exact .decoded (by decide) rfl (.T106 _)
  · exact .decoded (by decide) rfl (.T543 rfl)
  · have hname : ([] : Bytes).length < 256 := by decide
    exact .decoded (by decide) rfl (.T11A 5 20 1 [] hname)
  · exact .decoded (by decide) rfl (.T10A _)

def loginCipher : Bytes := encrypted (fun _ => 220) (TypeLengthValue.toStream loginEntries) (List.replicate 16 0)

def sealedEntry : TypeLengthValue.Entry :=
  { tag := 0x119, value := loginCipher, fits := by rw [loginCipher, encrypted_length]; decide }

def loginResponse : WtloginResponse where
  length := 0
  ver := 0
  cmd := 2064
  seq := 0
  uin := 7
  flag := 0
  retryTime := 0
  body := 0 :: 0 :: 0 :: TypeLengthValue.toStream [sealedEntry]

def freshContext : Context := { keyStore := { uin := 7, session := { d2Key := .replicate 16 0 } } }

def loginPacket : Bytes := loginResponse.toBytes (fun _ => 220) freshContext.crypto.loginP256.sharedKey

theorem unsealed_login : ∃ tlvs, Unsealed namedProst loginPacket freshContext tlvs ∧
    ∀ tag, tlvs.lookup tag = TlvSet.lastOf tag (loginEntries.filterMap loginTlv) := by
  have hsealed : ∀ e ∈ [sealedEntry], Reads namedProst TLV_DE_TAGS e (some (.T119 loginCipher)) := by
    intro e he
    cases List.mem_singleton.mp he
    exact .decoded (by decide) rfl (.T119 _)
  have horiginal := TlvSet.deserializeSet_toStream (ε := ParseError) (tabled namedProst) hsealed (by decide)
  have htlvs := TlvSet.deserializeSet_toStream (ε := ParseError) (tabled namedProst) reads_login (by decide)
  have hdec : (Mania.teaDecrypt loginCipher freshContext.session.stub.tgtgtKey : Outcome ParseError _) =
      .ok (TypeLengthValue.toStream loginEntries) := teaDecrypt_encrypted _ _ (by simp)
  have henc : (TlvSet.lastOf 0x119 ([sealedEntry].filterMap fun _ => some (.T119 loginCipher))).bind TlvDe.encryptedTlv =
      some loginCipher := rfl
  refine ⟨_, ⟨_, (0, TypeLengthValue.toStream [sealedEntry]), _, loginCipher, _,
    parseWtloginPacket_toBytes _ _ freshContext, ?_, rfl, horiginal, ?_, hdec, htlvs⟩, TlvSet.lookup_tagged _⟩
  · rfl
  · rw [TlvSet.lookup_tagged]
    exact henc

/-- The MD5 of sixteen nines. -/
def loginMd5 : Bytes := [56, 89, 156, 105, 245, 20, 169, 255, 188, 184, 249, 12, 16, 200, 171, 237]

/-- A login, with the last `tgt` stored. -/
theorem parse_atomic_login : ∃ ctx', (parse namedProst (fun _ => loginMd5) 5 loginPacket).run freshContext =
    (.ok { code := 0, msg := none }, ctx') ∧
    ctx'.keyStore.session.tgt = [6] ∧ ctx'.session.stub.tgtgtKey = loginMd5 ∧ ctx'.keyStore.uid = some "u_1" := by
  obtain ⟨tlvs, hunsealed, hlookup⟩ := unsealed_login
  have htgt : (tlvs.lookup 0x10A).bind TlvDe.tgt = some [6] := by
    rw [hlookup]
    rfl
  have huid : (tlvs.lookup 0x543).bind TlvDe.uid = some "u_1" := by
    rw [hlookup]
    rfl
  have hd2 : (tlvs.lookup 0x143).bind TlvDe.d2 = some [2] := by
    rw [hlookup]
    rfl
  have hkey : (tlvs.lookup 0x305).bind TlvDe.d2key = some (Vector.replicate 16 (9 : UInt8)).toList := by
    rw [hlookup]
    rfl
  have htemp : (tlvs.lookup 0x106).bind TlvDe.temp = some [3] := by
    rw [hlookup]
    rfl
  have hinfo : (tlvs.lookup 0x11A).bind TlvDe.selfInfo = some { age := 20, gender := 1, name := "" } := by
    rw [hlookup]
    rfl
  obtain ⟨ctx', hrun⟩ := parse_login (fun _ => loginMd5) 5 hunsealed htgt hd2 hkey htemp huid hinfo
  obtain ⟨tlvs', hunsealed', hstored⟩ := ((parse_atomic hrun).2 _ rfl).2 rfl
  cases hunsealed.unique hunsealed'
  refine ⟨ctx', hrun, ?_, hstored.tgtgtKey, ?_⟩
  · exact Option.some.inj (hstored.tgt.symm.trans htgt)
  · exact hstored.uid.symm.trans huid

end WtLogin

end Mania
