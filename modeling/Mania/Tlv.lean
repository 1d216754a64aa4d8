/-
The inbound half of `core/tlv.rs` and of the modules under `core/tlv/`:
sets of received TLVs.

A `deserialize` takes a `&mut PacketReader`, so what it has read stays read
when it answers an error: its `Result` is the value of a `Cursor`, which
itself only panics. What `prost` decodes is the argument `prost`.
-/
import Mania.Lib.DashMap
import Mania.PacketReader

namespace Mania

open PacketReader

inductive TlvError where
  | unsupportedTag (tag : UInt16)
  | protobufDecodeError
  | missingTlv (tag : UInt16)
  deriving DecidableEq

/-- `tlv.TlvQrCodeD1Resp`. -/
structure TlvQrCodeD1Resp where
  url : String
  qrSig : String
  deriving DecidableEq

structure Tlv543Layer2 where
  uid : String

structure Tlv543Layer1 where
  layer2 : Option Tlv543Layer2

/-- `tlv.Tlv543`. -/
structure Tlv543 where
  layer1 : Option Tlv543Layer1

/-- `T::decode` of the messages in TLVs; `none` is an error. -/
structure TlvProst where
  qrCodeD1Resp : Bytes → Option TlvQrCodeD1Resp
  tlv543 : Bytes → Option Tlv543

structure T106 where
  appId : Int32
  appClientVersion : Int32
  uin : Int32
  passwordMd5 : Bytes
  guid : String
  tgtgtKey : Bytes
  ip : Vector UInt8 4
  savePassword : Bool
  temp : Bytes
  deriving DecidableEq

/-- The types with a `TlvDe`. -/
inductive TlvType where
  | T017q
  | T018q
  | T019q
  | T01cq
  | T01eq
  | T0d1Resp
  | T106
  | T10A
  | T119
  | T143
  | T146
  | T305
  | T543
  | T11A
  deriving DecidableEq

def TlvType.tagStatic : TlvType → UInt16
  | T017q => 0x017
  | T018q => 0x018
  | T019q => 0x019
  | T01cq => 0x01c
  | T01eq => 0x01e
  | T0d1Resp => 0x0d1
  | T106 => 0x106
  | T10A => 0x10A
  | T119 => 0x119
  | T143 => 0x143
  | T146 => 0x146
  | T305 => 0x305
  | T543 => 0x543
  | T11A => 0x11A

/-- A `Box<dyn TlvDe>`. -/
inductive TlvDe where
  | T017q (qrCode : Bytes)
  | T018q (tempPassword : Bytes)
  | T019q (noPicSig : Bytes)
  | T01cq (expireSec : UInt32) (expireMin : UInt16)
  | T01eq (tgtgtKey : Bytes)
  | T0d1Resp (proto : TlvQrCodeD1Resp)
  | T106 (tlv : T106)
  | T10A (tgt : Bytes)
  | T119 (encryptedTlv : Bytes)
  | T143 (d2 : Bytes)
  | T146 (state : UInt32) (tag message : String) (field0 : UInt32)
  | T305 (d2key : Bytes)
  | T543 (uid : String)
  | T11A (faceId : UInt16) (age gender : UInt8) (nickName : String)
  deriving DecidableEq

namespace TlvDe

/-- The type behind the box. -/
def type : TlvDe → TlvType
  | T017q .. => .T017q
  | T018q .. => .T018q
  | T019q .. => .T019q
  | T01cq .. => .T01cq
  | T01eq .. => .T01eq
  | T0d1Resp .. => .T0d1Resp
  | T106 .. => .T106
  | T10A .. => .T10A
  | T119 .. => .T119
  | T143 .. => .T143
  | T146 .. => .T146
  | T305 .. => .T305
  | T543 .. => .T543
  | T11A .. => .T11A

def tag (self : TlvDe) : UInt16 := self.type.tagStatic

end TlvDe

/-! ## The deserializers -/

variable {ε α : Type}

abbrev TlvDeserializer (ε : Type) := Cursor ε (Except TlvError TlvDe)

namespace PacketReader

def lengthValue (f : Cursor ε α) : Cursor ε α := section16WithAddition 0 f

def proto (decode : Bytes → Option α) : Cursor ε (Except TlvError α) :=
  (fun bs => (decode bs).elim (.error .protobufDecodeError) .ok) <$> bytes

end PacketReader

/-- `Ok(Box::new(p.length_value(f)))`. -/
def boxed (f : Cursor ε TlvDe) : Cursor ε (Except TlvError TlvDe) := Except.ok <$> lengthValue f

/-- A TLV of one byte string, all of its value. -/
def deserializeBytes (wrap : Bytes → TlvDe) : TlvDeserializer ε := boxed (wrap <$> bytes)

def T017q.deserialize : TlvDeserializer ε := deserializeBytes .T017q
def T018q.deserialize : TlvDeserializer ε := deserializeBytes .T018q
def T019q.deserialize : TlvDeserializer ε := deserializeBytes .T019q

def T01cq.deserialize : TlvDeserializer ε :=
  boxed do
    let expireSec ← u32
    let expireMin ← u16
    pure (.T01cq expireSec expireMin)

def T01eq.deserialize : TlvDeserializer ε := deserializeBytes .T01eq

def T0d1Resp.deserialize (prost : TlvProst) : Cursor ε (Except TlvError TlvDe) := do
  let proto ← lengthValue (proto prost.qrCodeD1Resp)
  pure (proto.map .T0d1Resp)

/-- All that is received of it is `temp`. -/
def T106.ofTemp (temp : Bytes) : T106 where
  appId := 0
  appClientVersion := 0
  uin := 0
  passwordMd5 := []
  guid := ""
  tgtgtKey := []
  ip := .replicate 4 0
  savePassword := false
  temp := temp

def T106.deserialize : TlvDeserializer ε := deserializeBytes fun temp => .T106 (ofTemp temp)

def T10A.deserialize : TlvDeserializer ε := deserializeBytes .T10A
def T119.deserialize : TlvDeserializer ε := deserializeBytes .T119
def T143.deserialize : TlvDeserializer ε := deserializeBytes .T143

def T146.deserialize : TlvDeserializer ε :=
  boxed do
    let state ← u32
    let tag ← section16WithAddition 0 string
    let message ← section16WithAddition 0 string
    let field0 ← u32
    pure (.T146 state tag message field0)

def T305.deserialize : TlvDeserializer ε := deserializeBytes .T305

def T543.deserialize (prost : TlvProst) : TlvDeserializer ε :=
  boxed do
    let packet ← bytes
    -- "decode Tlv543 failed"
    let proto ← StateT.lift (Outcome.expect (prost.tlv543 packet))
    let layer1 ← StateT.lift (Outcome.expect proto.layer1)
    let layer2 ← StateT.lift (Outcome.expect layer1.layer2)
    pure (.T543 layer2.uid)

def T11A.deserialize : TlvDeserializer ε :=
  boxed do
    let faceId ← u16
    let age ← u8
    let gender ← u8
    let nickName ← readWithLength (PREFIX_U8 ||| PREFIX_NONE) string
    pure (.T11A faceId age gender nickName)

/-! ## Sets of TLVs -/

/-- A map from tags, as it is written down. -/
abbrev TlvMap (ε : Type) := List (UInt16 × TlvDeserializer ε)

def TLV_QR_DE_MAP (prost : TlvProst) : TlvMap ε :=
  [(0x017, T017q.deserialize),
    (0x018, T018q.deserialize),
    (0x019, T019q.deserialize),
    (0x01c, T01cq.deserialize),
    (0x01e, T01eq.deserialize),
    (0x0d1, T0d1Resp.deserialize prost)]

def TLV_DE_MAP (prost : TlvProst) : TlvMap ε :=
  [(0x106, T106.deserialize),
    (0x10A, T10A.deserialize),
    (0x119, T119.deserialize),
    (0x143, T143.deserialize),
    (0x146, T146.deserialize),
    (0x305, T305.deserialize),
    (0x543, T543.deserialize prost),
    (0x11A, T11A.deserialize)]

/-- The value of an entry that no deserializer is for. -/
def skipValue (tag : UInt16) : Cursor ε (Except TlvError TlvDe) := do
  let len ← u16
  let _value ← readPacket len.toNat
  pure (.error (.unsupportedTag tag))

/-- One TLV, with the deserializer that the map has for its tag. -/
def deserializeWith (map : TlvMap ε) : Cursor ε (Except TlvError TlvDe) := do
  let tag ← u16
  match map.lookup tag with
  | some de => de
  | none => skipValue tag

def deserializeQrcodeTlv (prost : TlvProst) : TlvDeserializer ε := deserializeWith (TLV_QR_DE_MAP prost)

def deserializeTlv (prost : TlvProst) : TlvDeserializer ε := deserializeWith (TLV_DE_MAP prost)

abbrev TlvSet := DashMap UInt16 TlvDe

namespace TlvSet

/-- The loop, `count` times. -/
def readTlvs (next : TlvDeserializer ε) : Nat → TlvSet → Cursor ε TlvSet
  | 0, result => pure result
  | count + 1, result => do
    match ← next with
    | .ok tlv => readTlvs next count (result.insert tlv.tag tlv)
    | .error _ => readTlvs next count result

def deserializeSet (next : TlvDeserializer ε) (packet : Bytes) : Outcome ε TlvSet :=
  new packet do
    let count ← u16
    readTlvs next count.toNat ∅

def deserializeQrcode (prost : TlvProst) (packet : Bytes) : Outcome ε TlvSet :=
  deserializeSet (deserializeQrcodeTlv prost) packet

def deserialize (prost : TlvProst) (packet : Bytes) : Outcome ε TlvSet :=
  deserializeSet (deserializeTlv prost) packet

/-- `get::<T>`: what is there under the tag, if it is a `T`. -/
def get (set : TlvSet) (type : TlvType) : Outcome UInt16 TlvDe :=
  Outcome.okOr type.tagStatic ((set.lookup type.tagStatic).bind fun tlv => if tlv.type = type then some tlv else none)

/-- `get::<T>().map_err(TlvError::MissingTlv)?` where a `TlvError` is the
error `missing`, and a field of the `T`. -/
def getField {α : Type} (missing : TlvError → ε) (set : TlvSet) (type : TlvType) (field : TlvDe → Option α) :
    Outcome ε α :=
  Outcome.okOr (missing (.missingTlv type.tagStatic)) ((set.lookup type.tagStatic).bind field)

theorem getField_eq_ok {α : Type} {missing : TlvError → ε} {set : TlvSet} {type : TlvType} {field : TlvDe → Option α}
    {a : α} : getField missing set type field = .ok a ↔ (set.lookup type.tagStatic).bind field = some a :=
  Outcome.okOr_eq_ok

end TlvSet

end Mania
