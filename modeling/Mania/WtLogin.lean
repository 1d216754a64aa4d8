/-
The envelopes of `core/event/login/trans_emp.rs`, for `wtlogin.trans_emp`
and `wtlogin.login`: the body of a QR code command, the packet around a
body, and the packet of the response.

The time is the argument `timestamp`, and the filler bytes of the
encryption are `rng`, as in `tea_encrypt`.
-/
import Mania.SsoPacket
import Mania.PacketBuilder
import Mania.TeaFacts

namespace Mania

open Bytes

namespace P256

variable {ε : Type}

def teaEncrypt (p : P256) (rng : Nat → UInt8) (data : Bytes) : Outcome ε Bytes :=
  Mania.teaEncrypt rng data p.sharedKey.toList

def teaDecrypt (p : P256) (data : Bytes) : Outcome ε Bytes := Mania.teaDecrypt data p.sharedKey.toList

theorem teaEncrypt_eq (p : P256) (rng : Nat → UInt8) (data : Bytes) :
    (p.teaEncrypt rng data : Outcome ε Bytes) = .ok (encrypted rng data p.sharedKey.toList) :=
  teaEncrypt_ok rng data (by simp)

theorem teaDecrypt_eq (p : P256) (rng : Nat → UInt8) (data : Bytes) :
    (p.teaDecrypt (encrypted rng data p.sharedKey.toList) : Outcome ε Bytes) = .ok data :=
  teaDecrypt_encrypted rng data (by simp)

end P256

namespace WtLogin

open PacketBuilder

variable {ε : Type}

def newPacket (qrCmd : UInt16) (tlvs : Bytes) : Outcome ε Bytes :=
  build (u8 2 >=>
    u16 (UInt16.ofNat (43 + tlvs.length + 1)) >=>
    u16 qrCmd >=>
    bytes (List.replicate 21 0) >=>
    u8 0x03 >=>
    u16 0x00 >=>
    u16 0x32 >=>
    u32 0 >=>
    u64 0 >=>
    bytes tlvs >=>
    u8 3)

def requestBody (timestamp : Int64) (newPacket : Bytes) : Outcome ε Bytes :=
  build (u32 timestamp.toUInt64.toUInt32 >=> bytes newPacket)

def buildTransEmpBody (ctx : Context) (timestamp : Int64) (qrCmd : UInt16) (tlvs : Bytes) : Outcome ε Bytes := do
  let newPacket ← newPacket qrCmd tlvs
  let requestBody ← requestBody timestamp newPacket
  build (u8 0x00 >=>
    u16 (UInt16.ofNat requestBody.length) >=>
    u32 ctx.appInfo.appId.toUInt32 >=>
    u32 0x72 >=>
    writeWithLength (PREFIX_U16 ||| PREFIX_LENGTH_ONLY) 0 (bytes []) >=>
    writeWithLength (PREFIX_U8 ||| PREFIX_LENGTH_ONLY) 0 (bytes []) >=>
    bytes requestBody)

/-- What the length at the front of the packet counts. -/
def wtloginCounted (ctx : Context) (cmd : UInt16) (encrypted : Bytes) : Write ε :=
  -- version, command, sequence, uin
  u16 8001 >=>
  u16 cmd >=>
  u16 ctx.session.sequence >=>
  u32 ctx.keyStore.uin >=>
  u8 3 >=>
  u8 135 >=>
  u32 0 >=>
  u8 19 >=>
  u16 0 >=>
  u16 ctx.appInfo.appClientVersion >=>
  u32 0 >=>
  -- the head: curve, rollback flag, keys
  u8 2 >=>
  u8 1 >=>
  bytes ctx.session.stub.randomKey.toList >=>
  u16 0x0131 >=>
  u16 0x0001 >=>
  u16 (UInt16.ofNat ctx.crypto.loginP256.publicKey.length) >=>
  bytes ctx.crypto.loginP256.publicKey >=>
  bytes encrypted >=>
  u8 3

def buildWtloginPacket (rng : Nat → UInt8) (ctx : Context) (cmd : UInt16) (body : Bytes) : Outcome ε Bytes := do
  let encrypted ← ctx.crypto.loginP256.teaEncrypt rng body
  build (u8 2 >=> writeWithLength (PREFIX_U16 ||| PREFIX_WITH) 1 (wtloginCounted ctx cmd encrypted))

/-- What is left behind the seven fields of a response. -/
def responseFields : Cursor PacketError Bytes := do
  let _length ← PacketReader.u16
  let _ver ← PacketReader.u16
  let _cmd ← PacketReader.u16
  let _seq ← PacketReader.u16
  let _uin ← PacketReader.u32
  let _flag ← PacketReader.u8
  let _retryTime ← PacketReader.u16
  PacketReader.bytes

def parseWtloginPacket (packet : Bytes) (ctx : Context) : Outcome PacketError Bytes :=
  PacketReader.new packet do
    let header ← PacketReader.u8
    StateT.lift (Outcome.refuse (header ≠ 2) (.otherError "invalid packet header when parse_wtlogin_packet"))
    let encrypted ← responseFields
    let last ← StateT.lift (Outcome.sub encrypted.length 1)
    let tail ← StateT.lift (Outcome.index (encrypted.drop last) 0)
    StateT.lift (Outcome.refuse (tail ≠ 3) (.otherError "invalid packet end when parse_wtlogin_packet"))
    StateT.lift (ctx.crypto.loginP256.teaDecrypt (encrypted.take last))

end WtLogin

end Mania
