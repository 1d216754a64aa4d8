/-
The inbound half of `core/packet.rs`: `SsoPacket::parse`, which opens the
envelope of a packet, decrypts its body and reads the SSO layout inside;
and `resolve_event` of `core/event.rs`, which strips the payload's length
header and looks up the event parser.

`inflate` stands for copying a zlib decoder of the `flate2` crate to its
end; `none` is its I/O error.
-/
import Mania.Context
import Mania.PacketReader
import Mania.Tea

namespace Mania

open Bytes

inductive PacketType where
  | T12
  | T13
  deriving DecidableEq, Repr

/-- `TryFrom<u32>`. -/
def PacketType.tryFrom (value : UInt32) : Outcome UInt32 PacketType :=
  if value = 12 then .ok .T12 else if value = 13 then .ok .T13 else .err value

/-- The errors that the packets of the model meet. -/
inductive PacketError where
  | unknownSsoPacketType (value : UInt32)
  | unknownAuthFlag (flag : UInt8)
  | invalidUin (uin : String)
  | uinMismatch (expected got : UInt32)
  | inflateFailed
  | ssoPacketRetFailed (command : String) (sequence : UInt32) (retCode : Int32) (extra : String)
  | otherError (text : String)
  deriving DecidableEq

structure SsoPacket where
  packetType : PacketType
  command : String
  sequence : UInt32
  payload : Bytes
  deriving DecidableEq

namespace SsoPacket

open PacketReader

/-- The body, decrypted as the auth flag says. -/
def decryptBody (ctx : Context) (authFlag : UInt8) (body : Bytes) : Outcome PacketError Bytes :=
  match authFlag with
  | 0 => .ok body
  | 1 => teaDecrypt body ctx.keyStore.session.d2Key.toList
  | 2 => teaDecrypt body (List.replicate 16 0)
  | _ => .err (.unknownAuthFlag authFlag)

/-- `ServicePacker.Parse`: the envelope. -/
def servicePackerParse (ctx : Context) : Cursor PacketError Bytes := do
  let _length ← u32
  let protocol ← u32
  let protocol ← StateT.lift ((PacketType.tryFrom protocol).mapErr .unknownSsoPacketType)
  let authFlag ← u8
  let _flag ← u8
  let uin ← «section» string
  let uin ← StateT.lift (Outcome.okOr (.invalidUin uin) (parseU32 uin))
  StateT.lift (Outcome.refuse (uin ≠ ctx.keyStore.uin ∧ protocol = .T12) (.uinMismatch ctx.keyStore.uin uin))
  let body ← bytes
  StateT.lift (decryptBody ctx authFlag body)

/-- `SsoPacker.InflatePacket`: the inflated bytes behind a length of their
own, which is written over a placeholder. -/
def inflatePacket (inflate : Bytes → Option Bytes) (body : Bytes) : Outcome PacketError Bytes := do
  let inflated ← Outcome.okOr .inflateFailed (inflate body)
  let buffer := be32 0 ++ inflated
  let len := UInt32.ofNat buffer.length
  Outcome.copyFromSlice buffer 0 4 (be32 len)

/-- The payload part: a compressed one is a section. -/
def payloadPart (inflate : Bytes → Option Bytes) (isCompressed : Bool) : Cursor PacketError Bytes :=
  if isCompressed then do
    let body ← «section» bytes
    StateT.lift (inflatePacket inflate body)
  else bytes

/-- `SsoPacker.Parse`: the layout inside the decrypted body. -/
def ssoPackerParse (inflate : Bytes → Option Bytes) : Cursor PacketError SsoPacket := do
  let _length ← u32
  let sequence ← u32
  let retCode ← i32
  let extra ← «section» string
  let command ← «section» string
  let _unknown ← «section» bytes
  let isCompressed ← (fun n => n != 0) <$> u32
  let _header ← readWithLength (PREFIX_U32 ||| PREFIX_LENGTH_ONLY) bytes
  let body ← payloadPart inflate isCompressed
  if retCode = 0 then pure { packetType := .T12, command, sequence, payload := body }
  else StateT.lift (.err (.ssoPacketRetFailed command sequence retCode extra))

def parse (inflate : Bytes → Option Bytes) (packet : Bytes) (ctx : Context) : Outcome PacketError SsoPacket := do
  let body ← PacketReader.new packet (servicePackerParse ctx)
  PacketReader.new body (ssoPackerParse inflate)

end SsoPacket

/-- The errors of `resolve_event`: a command no event is registered for, or
the event parser's own. -/
inductive EventError (ε : Type) where
  | unsupportedEvent (command : String)
  | parse (e : ε)
  deriving DecidableEq

/-- `resolve_event` over the registered event parsers, `EVENT_MAP`. -/
def resolveEvent {ε β : Type} (eventMap : String → Option (Bytes → Outcome ε β)) (packet : SsoPacket) :
    Outcome (EventError ε) β := do
  let payload ← PacketReader.new packet.payload (PacketReader.section PacketReader.bytes)
  let parse ← Outcome.okOr (.unsupportedEvent packet.command) (eventMap packet.command)
  (parse payload).mapErr .parse

end Mania
