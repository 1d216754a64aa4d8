/-
`build` and `parse` of `core/event/login/trans_emp.rs`, and `fetch_qrcode` of
`core/operation/wt_op.rs`: a QR code, from the response that brings it to the
polls that name it.

The time is the argument `timestamp`, and the filler bytes of the encryption
are `rng`, as in `tea_encrypt`. A poll goes on with `QrLogin`, which does not
look at what an `Emp31` has in it.
-/
import Mania.QrLogin
import Mania.TlvSer

namespace Mania

/-- The `QrSign` of `core/session.rs`. -/
structure CoreQrSign extends QrSign where
  sign : Vector UInt8 24
  url : String

/-- Of `Session::new`. -/
def CoreQrSign.new : CoreQrSign where
  sign := .replicate 24 0
  string := ""
  url := ""

structure TransEmp31Res where
  qrCode : Bytes
  expiration : UInt32
  url : String
  qrSig : String
  signature : Bytes

inductive TransEmpStatus where
  | queryResult
  | fetchQrCode

namespace TlvDe

/-! ## `downcast_ref`, and the field that is read -/

def qrCode : TlvDe → Option Bytes
  | T017q qrCode => some qrCode
  | _ => none

def expireSec : TlvDe → Option UInt32
  | T01cq expireSec _ => some expireSec
  | _ => none

def proto : TlvDe → Option TlvQrCodeD1Resp
  | T0d1Resp proto => some proto
  | _ => none

def tgtgtKey : TlvDe → Option Bytes
  | T01eq tgtgtKey => some tgtgtKey
  | _ => none

def tempPassword : TlvDe → Option Bytes
  | T018q tempPassword => some tempPassword
  | _ => none

def noPicSig : TlvDe → Option Bytes
  | T019q noPicSig => some noPicSig
  | _ => none

end TlvDe

namespace TransEmp

/-- The `EventError`s of `parse`. -/
inductive ParseError where
  | missingTlv (e : TlvError)
  | packetParseError (e : PacketError)
  | otherError (text : String)

/-- The result of an event that was parsed. -/
inductive Parsed where
  | emp12 (res : TransEmp12Res)
  | emp31 (res : TransEmp31Res)

variable {ε : Type}

/-! ## `build` -/

section
open PacketBuilder

def TLVS : List UInt16 := [0x016, 0x01B, 0x01D, 0x033, 0x035, 0x066, 0x0D1]

def TLVS_PASSWORD : List UInt16 := [0x011, 0x016, 0x01B, 0x01D, 0x033, 0x035, 0x066, 0x0D1]

def queryResultData (ctx : Context) (qrsign : CoreQrSign) : Outcome ε Bytes :=
  build (u16 0 >=>
    u32 ctx.appInfo.appId.toUInt32 >=>
    writeWithLength (PREFIX_U16 ||| PREFIX_LENGTH_ONLY) 0 (bytes qrsign.sign.toList) >=>
    u64 0 >=>
    u8 0 >=>
    writeWithLength (PREFIX_U16 ||| PREFIX_LENGTH_ONLY) 0 (bytes []) >=>
    u16 0)

def fetchQrCodeData (prost : TlvSerProst) (ctx : Context) : Outcome ε Bytes :=
  let tlvs := if ctx.session.unusualSign.isNone then TLVS else TLVS_PASSWORD
  build (u16 0 >=>
    u32 ctx.appInfo.appId.toUInt32 >=>
    u64 0 >=>
    bytes [] >=>
    u8 0 >=>
    writeWithLength (PREFIX_U16 ||| PREFIX_LENGTH_ONLY) 0 (bytes []) >=>
    serializeQrcodeTlvSet prost ctx tlvs)

/-- The body of a command, before it is encrypted. -/
def buildBody (prost : TlvSerProst) (timestamp : Int64) (ctx : Context) (qrSign : Option CoreQrSign) :
    TransEmpStatus → Outcome ε Bytes
  | .queryResult => do
    -- "qr sign not initialized"
    let qrsign ← Outcome.expect qrSign
    let data ← queryResultData ctx qrsign
    WtLogin.buildTransEmpBody ctx timestamp 0x12 data
  | .fetchQrCode => do
    let data ← fetchQrCodeData prost ctx
    WtLogin.buildTransEmpBody ctx timestamp 0x31 data

def build (prost : TlvSerProst) (rng : Nat → UInt8) (timestamp : Int64) (ctx : Context) (qrSign : Option CoreQrSign)
    (status : TransEmpStatus) : Outcome ε Bytes := do
  let body ← buildBody prost timestamp ctx qrSign status
  WtLogin.buildWtloginPacket rng ctx 2066 body

end

/-! ## `parse` -/

section
open PacketReader

/-- The command, and what is behind it. -/
def readHead (packet : Bytes) : Outcome ParseError (UInt16 × Bytes) :=
  new packet do
    let _packetLength ← u32
    let _ ← u32
    let command ← u16
    skip 40
    let _appId ← u32
    let packet ← bytes
    pure (command, packet)

def parseEmp31 (prost : TlvProst) (packet : Bytes) : Outcome ParseError TransEmp31Res := do
  let (signature, rest) ← new packet do
    let _ ← u8
    let signature ← section16WithAddition 0 bytes
    let rest ← bytes
    pure (signature, rest)
  let tlvs ← TlvSet.deserializeQrcode prost rest
  let qrCode ← TlvSet.getField .missingTlv tlvs .T017q TlvDe.qrCode
  let expiration ← TlvSet.getField .missingTlv tlvs .T01cq TlvDe.expireSec
  let t0d1 ← TlvSet.getField .missingTlv tlvs .T0d1Resp TlvDe.proto
  .ok { qrCode, expiration, url := t0d1.url, qrSig := t0d1.qrSig, signature }

def parseConfirmed (prost : TlvProst) (packet : Bytes) : Outcome ParseError TransEmp12ConfirmedData := do
  let rest ← new packet do
    skip 12
    bytes
  let tlvs ← TlvSet.deserializeQrcode prost rest
  let tgtgtKey ← TlvSet.getField .missingTlv tlvs .T01eq TlvDe.tgtgtKey
  let tempPassword ← TlvSet.getField .missingTlv tlvs .T018q TlvDe.tempPassword
  let noPicSig ← TlvSet.getField .missingTlv tlvs .T019q TlvDe.noPicSig
  .ok { tgtgtKey, tempPassword, noPicSig }

def parseEmp12 (prost : TlvProst) (packet : Bytes) : Outcome ParseError TransEmp12Res := do
  let (state, packet) ← new packet do
    let state ← u8
    let packet ← bytes
    pure (state, packet)
  if state = 0 then .confirmed <$> parseConfirmed prost packet
  else if state = 17 then .ok .codeExpired
  else if state = 48 then .ok .waitingForScan
  else if state = 53 then .ok .waitingForConfirm
  else if state = 54 then .ok .canceled
  else .err (.otherError ("unknown trans_emp ret code: " ++ toString state))

/-- `{command:#x}`. -/
def lowerHex (command : UInt16) : String := "0x" ++ String.ofList (Nat.toDigits 16 command.toNat)

def parse (prost : TlvProst) (packet : Bytes) (ctx : Context) : Outcome ParseError Parsed := do
  let packet ← (WtLogin.parseWtloginPacket packet ctx).mapErr .packetParseError
  let (command, packet) ← readHead packet
  if command = 0x31 then .emp31 <$> parseEmp31 prost packet
  else if command = 0x12 then .emp12 <$> parseEmp12 prost packet
  else .err (.otherError ("unsupported trans_emp command: " ++ lowerHex command))

end

end TransEmp

/-! ## `fetch_qrcode` -/

/-- `try_into()` of the signature. -/
def toSign (bs : Bytes) : Option (Vector UInt8 24) :=
  if h : bs.length = 24 then some ⟨bs.toArray, by simpa using h⟩ else none

/-- From the event that answers the request, `none` where the downcast
fails; the URL and the picture of the code. It stores the code in
`session.qr_sign`. -/
def fetchQrcode (answer : Except (BusinessError String) (Option (Option TransEmp.Parsed))) :
    Effect (Option CoreQrSign) ManiaError (String × Bytes) :=
  match answer with
  | .error e => Effect.throw (.internalBusinessError e)
  | .ok none => Effect.throw .internalEventDowncastError
  | .ok (some none) => Effect.throw (.genericError "Emp result not found")
  -- "Emp31 not found in response"
  | .ok (some (some (.emp12 _))) => Effect.panic
  | .ok (some (some (.emp31 emp31))) =>
    match toSign emp31.signature with
    | none => Effect.throw (.genericError "invalid QR signature")
    | some sign => do
      Effect.modify fun _ => some { sign, string := emp31.qrSig, url := emp31.url }
      pure (emp31.url, emp31.qrCode)

/-- What `send_event` gives for the packet that answers. The task of one that
panics leaves the caller waiting. -/
def TransEmp.received (prost : TlvProst) (display : TransEmp.ParseError → String) (packet : Bytes) (ctx : Context) :
    Option (Except (BusinessError String) (Option (Option TransEmp.Parsed))) :=
  match TransEmp.parse prost packet ctx with
  | .ok event => some (.ok (some (some event)))
  | .err e => some (.error (.internalEventError (.parse (display e))))
  | .panic => none

/-- A call, from the packet that answers it to the `session.qr_sign` it leaves. -/
def fetched (prost : TlvProst) (display : TransEmp.ParseError → String) (packet : Bytes) (ctx : Context)
    (qrSign : Option CoreQrSign) : Option CoreQrSign :=
  match TransEmp.received prost display packet ctx with
  | some answer => ((fetchQrcode answer).run qrSign).2
  | none => qrSign

end Mania
