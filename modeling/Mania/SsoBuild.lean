/-
The outbound half of `core/packet.rs`: `SsoPacket::build`, and what a
server makes of the requests.

What `prost` encodes a message to is the argument `prost`, the bytes that
are drawn for the trace are `draws`, and the filler bytes of the encryption
are `rng`, as in `tea_encrypt`.
-/
import Mania.Extensions
import Mania.PacketBuilder
import Mania.SsoPacket

namespace Mania

open Bytes HexString

/-- `system.Sign`. -/
structure Sign where
  secSign : Option Bytes
  secToken : Option String
  secExtra : Option Bytes

/-- `system.NTDeviceSign`. -/
structure NtDeviceSign where
  trace : String
  uid : Option String
  sign : Option Sign

/-- `system.NTPacketUid`. -/
structure NtPacketUid where
  uid : Option String

/-- `encode_to_vec` of the messages in a request. -/
structure RequestProst where
  deviceSign : NtDeviceSign → Bytes
  packetUid : NtPacketUid → Bytes

/-- `{:x}` of a byte. -/
def lowerHex (b : UInt8) : String := String.ofList (Nat.toDigits 16 b.toNat)

def randomTrace (draws : Nat → UInt8) : String :=
  "00-" ++ String.join ((List.range 16).map fun i => lowerHex (draws i)) ++ "-" ++
    String.join ((List.range 8).map fun i => lowerHex (draws (16 + i))) ++ "-01"

namespace SsoPacket

open PacketBuilder

variable {ε : Type}

def deviceSign (draws : Nat → UInt8) (ctx : Context) (self : SsoPacket) : NtDeviceSign where
  trace := randomTrace draws
  uid := ctx.keyStore.uid
  sign := (ctx.sign self.command self.sequence self.payload).map fun sign =>
    { secSign := some sign.sign, secExtra := some sign.extra, secToken := some sign.token }

/-- The first section of the body. -/
def headerPart (prost : RequestProst) (draws : Nat → UInt8) (ctx : Context) (self : SsoPacket) : Write ε :=
  u32 self.sequence >=>
  u32 ctx.appInfo.subAppId.toUInt32 >=>
  u32 2052 >=>
  bytes [2, 0, 0, 0, 0, 0, 0, 0, 0, 0, 0, 0] >=>
  «section» (bytes ctx.keyStore.session.tgt) >=>
  «section» (string self.command) >=>
  «section» skip >=>
  «section» (string (hex ctx.device.uuid.toList)) >=>
  «section» skip >=>
  section16 (string ctx.appInfo.currentVersion) >=>
  «section» (bytes (prost.deviceSign (self.deviceSign draws ctx)))

def buildProtocol12 (prost : RequestProst) (draws rng : Nat → UInt8) (ctx : Context) (self : SsoPacket) :
    Outcome ε Bytes := do
  let body ← PacketBuilder.build («section» (self.headerPart prost draws ctx) >=> «section» (bytes self.payload))
  let encrypted ← teaEncrypt rng body ctx.keyStore.session.d2Key.toList
  PacketBuilder.build («section» (
    u32 12 >=>
    u8 (if ctx.keyStore.session.d2 = [] then 2 else 1) >=>
    «section» (bytes ctx.keyStore.session.d2) >=>
    u8 0 >=>
    «section» (string (decimal 0 ctx.keyStore.uin.toNat)) >=>
    bytes encrypted))

/-- The bytes of the uid, if there is one. -/
def packetUid (prost : RequestProst) (ctx : Context) : Bytes :=
  match ctx.keyStore.uid with
  | some uid => prost.packetUid { uid := some uid }
  | none => []

def buildProtocol13 (prost : RequestProst) (ctx : Context) (self : SsoPacket) : Outcome ε Bytes :=
  PacketBuilder.build («section» (
    u32 13 >=>
    u8 0 >=>
    u32 self.sequence >=>
    u8 0 >=>
    «section» (string "0") >=>
    «section» (
      «section» (string self.command) >=>
      «section» skip >=>
      «section» (bytes (packetUid prost ctx))) >=>
    «section» (bytes self.payload)))

def build (prost : RequestProst) (draws rng : Nat → UInt8) (ctx : Context) (self : SsoPacket) : Outcome ε Bytes :=
  match self.packetType with
  | .T12 => self.buildProtocol12 prost draws rng ctx
  | .T13 => self.buildProtocol13 prost ctx

end SsoPacket

/-! ## The server's side

A decoder for the layout of requests, with the flag rule of
`SsoPacket::parse`. -/

/-- What a request carries. -/
inductive Request where
  | T12 (d2 : Bytes) (uin : String) (sequence : UInt32) (command : String) (tgt payload : Bytes)
  | T13 (sequence : UInt32) (command : String) (payload : Bytes)
  deriving DecidableEq

namespace Request

open PacketReader

structure Header where
  sequence : UInt32
  tgt : Bytes
  command : String

def header : Cursor PacketError Header := do
  let sequence ← u32
  let _subAppId ← u32
  let _locale ← u32
  let _fixed ← readPacket 12
  let tgt ← «section» bytes
  let command ← «section» string
  let _unknown ← «section» bytes
  let _uuid ← «section» string
  let _unknown ← «section» bytes
  let _version ← section16 string
  let _signature ← «section» bytes
  pure { sequence, tgt, command }

def body12 (d2 : Bytes) (uin : String) : Cursor PacketError Request := do
  let header ← «section» header
  let payload ← «section» bytes
  pure (.T12 d2 uin header.sequence header.command header.tgt payload)

def command13 : Cursor PacketError String := do
  let command ← «section» string
  let _unknown ← «section» bytes
  let _uid ← «section» bytes
  pure command

def body13 : Cursor PacketError Request := do
  let sequence ← u32
  let _unknown ← u8
  let _unknown ← «section» string
  let command ← «section» command13
  let payload ← «section» bytes
  pure (.T13 sequence command payload)

/-- What follows the length of a request. -/
def envelope (ctx : Context) : Cursor PacketError Request := do
  let protocol ← u32
  let protocol ← StateT.lift ((PacketType.tryFrom protocol).mapErr .unknownSsoPacketType)
  let authFlag ← u8
  match protocol with
  | .T12 => do
    let d2 ← «section» bytes
    let _unknown ← u8
    let uin ← «section» string
    let body ← bytes
    let clear ← StateT.lift (SsoPacket.decryptBody ctx authFlag body)
    StateT.lift (new clear (body12 d2 uin))
  | .T13 => do
    let body ← bytes
    let clear ← StateT.lift (SsoPacket.decryptBody ctx authFlag body)
    StateT.lift (new clear body13)

def decode (ctx : Context) (packet : Bytes) : Outcome PacketError Request :=
  new packet («section» (envelope ctx))

/-- What a packet says to a server. -/
def ofPacket (ctx : Context) (packet : SsoPacket) : Request :=
  match packet.packetType with
  | .T12 => .T12 ctx.keyStore.session.d2 (decimal 0 ctx.keyStore.uin.toNat) packet.sequence packet.command
    ctx.keyStore.session.tgt packet.payload
  | .T13 => .T13 packet.sequence packet.command packet.payload

end Request

end Mania
