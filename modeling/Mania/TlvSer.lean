/-
The outbound half of `core/tlv.rs` and of the modules under `core/tlv/`:
the TLVs of a login and of a QR code login, and sets of them.

A `Box<dyn TlvSer>` is the chain of calls its `serialize` makes. What
`prost` encodes a message to is the argument `prost`; the filler bytes of
an encryption are `rng`, as in `tea_encrypt`, and those of a set `rng k`
for the TLV that `k` others follow.
-/
import Mania.Context
import Mania.Extensions
import Mania.PacketBuilder
import Mania.Tea
import Mania.Tlv

namespace Mania

open HexString PacketBuilder

/-- `tlv.NTOS`. -/
structure Ntos where
  os : String
  name : String

/-- `tlv.TlvQrCodeD1`. -/
structure TlvQrCodeD1 where
  sys : Option Ntos
  type : Bytes

/-- `encode_to_vec` of the message in a TLV. -/
structure TlvSerProst where
  qrCodeD1 : TlvQrCodeD1 → Bytes

variable {ε : Type}

namespace PacketBuilder

def tlv (tag : UInt16) (f : Write ε) : Write ε := u16 tag >=> section16WithAddition 0 f

def bytesWithLength (bs : Bytes) : Write ε := section16WithAddition 0 (bytes bs)

def stringWithLength (s : String) : Write ε := bytesWithLength (Utf8.encode s)

end PacketBuilder

/-! ## QR code TLVs -/

structure T011q where
  unusualSign : Bytes

namespace T011q

def fromContext (ctx : Context) : Outcome ε T011q := do
  -- "unusual sign is none"
  let unusualSign ← Outcome.expect ctx.session.unusualSign
  .ok { unusualSign }

def serialize (self : T011q) : Write ε := tlv 0x011 (bytes self.unusualSign)

end T011q

structure T016q where
  ssoVersion : UInt32
  appid : UInt32
  subAppId : UInt32
  appIdQrCode : UInt32
  guid : Vector UInt8 16
  packageName : String
  ptVersion : String

namespace T016q

def fromContext (ctx : Context) : T016q where
  ssoVersion := 0
  appid := ctx.appInfo.appId.toUInt32
  subAppId := ctx.appInfo.subAppId.toUInt32
  appIdQrCode := ctx.appInfo.appIdQrCode.toUInt32
  guid := ctx.device.uuid
  packageName := ctx.appInfo.packageName
  ptVersion := ctx.appInfo.ptVersion

def serialize (self : T016q) : Write ε :=
  tlv 0x016 (
    u32 0 >=>
    u32 self.appid >=>
    u32 self.subAppId >=>
    bytes self.guid.toList >=>
    stringWithLength self.packageName >=>
    stringWithLength self.ptVersion >=>
    stringWithLength self.packageName)

end T016q

structure T01bq where
  micro : UInt32
  version : UInt32
  size : UInt32
  margin : UInt32
  dpi : UInt32
  ecLevel : UInt32
  hint : UInt32
  field0 : UInt16

namespace T01bq

def fromContext (_ctx : Context) : T01bq where
  micro := 0
  version := 0
  size := 3
  margin := 4
  dpi := 72
  ecLevel := 2
  hint := 2
  field0 := 0

def serialize (self : T01bq) : Write ε :=
  tlv 0x01b (
    u32 self.micro >=>
    u32 self.version >=>
    u32 self.size >=>
    u32 self.margin >=>
    u32 self.dpi >=>
    u32 self.ecLevel >=>
    u32 self.hint >=>
    u16 self.field0)

end T01bq

structure T01dq where
  fieldByte : UInt8
  miscBitmap : UInt32
  field0 : UInt32
  fieldByte0 : UInt8

namespace T01dq

def fromContext (ctx : Context) : T01dq where
  fieldByte := 1
  miscBitmap := ctx.appInfo.miscBitmap.toUInt32
  field0 := 0
  fieldByte0 := 0

def serialize (self : T01dq) : Write ε :=
  tlv 0x01d (u8 self.fieldByte >=> u32 self.miscBitmap >=> u32 self.field0 >=> u8 self.fieldByte0)

end T01dq

structure T033q where
  guid : Vector UInt8 16

namespace T033q

def fromContext (ctx : Context) : T033q where
  guid := ctx.device.uuid

def serialize (self : T033q) : Write ε := tlv 0x033 (bytes self.guid.toList)

end T033q

structure T035q where
  ptOsVersion : Int32

namespace T035q

def fromContext (ctx : Context) : T035q where
  ptOsVersion := ctx.appInfo.ptOsVersion

def serialize (self : T035q) : Write ε := tlv 0x035 (i32 self.ptOsVersion)

end T035q

structure T066q where
  ptOsVersion : Int32

namespace T066q

def fromContext (ctx : Context) : T066q where
  ptOsVersion := ctx.appInfo.ptOsVersion

def serialize (self : T066q) : Write ε := tlv 0x066 (i32 self.ptOsVersion)

end T066q

structure T0d1q where
  proto : TlvQrCodeD1

namespace T0d1q

def fromContext (ctx : Context) : T0d1q where
  proto :=
    { sys := some { name := ctx.device.deviceName, os := ctx.appInfo.os }
      type := [0x30, 0x01] }

def serialize (prost : TlvSerProst) (self : T0d1q) : Write ε := tlv 0x0d1 (bytes (prost.qrCodeD1 self.proto))

end T0d1q

/-! ## Login TLVs -/

structure T018 where
  pingVersion : UInt16
  ssoVersion : UInt32
  appId : UInt32
  appClientVersion : UInt32
  uin : UInt32
  field0 : UInt16
  field1 : UInt16

namespace T018

def fromContext (ctx : Context) : T018 where
  pingVersion := 0
  ssoVersion := 0x00000005
  appId := 0
  appClientVersion := ctx.appInfo.appClientVersion.toUInt32
  uin := ctx.keyStore.uin
  field0 := 0
  field1 := 0

def serialize (self : T018) : Write ε :=
  tlv 0x18 (
    u16 self.pingVersion >=>
    u32 self.ssoVersion >=>
    u32 self.appId >=>
    u32 self.appClientVersion >=>
    u32 self.uin >=>
    u16 self.field0 >=>
    u16 self.field1)

end T018

structure T100 where
  dbBufVersion : UInt16
  ssoVersion : UInt32
  appid : UInt32
  subAppId : UInt32
  appClientVersion : UInt32
  mainSigmap : UInt32

namespace T100

def fromContext (ctx : Context) : T100 where
  dbBufVersion := 0
  ssoVersion := 0x00000005
  appid := ctx.appInfo.appId.toUInt32
  subAppId := ctx.appInfo.subAppId.toUInt32
  appClientVersion := ctx.appInfo.appClientVersion.toUInt32
  mainSigmap := ctx.appInfo.mainSigMap

def serialize (self : T100) : Write ε :=
  tlv 0x100 (
    u16 self.dbBufVersion >=>
    u32 self.ssoVersion >=>
    u32 self.appid >=>
    u32 self.subAppId >=>
    u32 self.appClientVersion >=>
    u32 self.mainSigmap)

end T100

namespace T106

def fromContext (ctx : Context) : Outcome ε T106 := do
  -- "Missing temp password"
  let temp ← Outcome.expect ctx.keyStore.session.tempPassword
  .ok {
    appId := ctx.appInfo.appId
    appClientVersion := ctx.appInfo.appClientVersion.toUInt32.toInt32
    uin := ctx.keyStore.uin.toInt32
    passwordMd5 := ctx.keyStore.passwordMd5
    guid := hex ctx.device.uuid.toList
    tgtgtKey := ctx.session.stub.tgtgtKey
    ip := .replicate 4 0
    savePassword := true
    temp }

def serialize (self : T106) : Write ε := tlv 0x106 (bytes self.temp)

end T106

structure T107 where
  picType : UInt16
  capType : UInt8
  picSize : UInt16
  picContent : UInt8

namespace T107

def fromContext (_ctx : Context) : T107 where
  picType := 0x0001
  capType := 0x0D
  picSize := 0x0000
  picContent := 0x01

def serialize (self : T107) : Write ε :=
  tlv 0x107 (u16 self.picType >=> u8 self.capType >=> u16 self.picSize >=> u8 self.picContent)

end T107

structure T116 where
  subSigmap : UInt16

namespace T116

def fromContext (ctx : Context) : T116 where
  subSigmap := ctx.appInfo.subSigMap

def serialize (self : T116) : Write ε :=
  tlv 0x116 (u8 0 >=> u32 12058620 >=> u32 self.subSigmap.toUInt32 >=> u8 0)

end T116

structure T124 where

namespace T124

def fromContext (_ctx : Context) : T124 := {}

def serialize (_self : T124) : Write ε := tlv 0x124 (bytes (List.replicate 12 0))

end T124

structure T128 where
  appInfoOs : String
  deviceGuid : Vector UInt8 16

namespace T128

def fromContext (ctx : Context) : T128 where
  appInfoOs := ctx.appInfo.os
  deviceGuid := ctx.device.uuid

def serialize (self : T128) : Write ε :=
  tlv 0x128 (
    u16 0 >=>
    u8 0 >=>
    u8 1 >=>
    u8 0 >=>
    u32 0 >=>
    stringWithLength self.appInfoOs >=>
    bytesWithLength self.deviceGuid.toList >=>
    stringWithLength "")

end T128

structure T141 where
  version : UInt16
  unknown : String
  networkType : UInt16
  apn : String

namespace T141

def fromContext (_ctx : Context) : T141 where
  version := 0
  unknown := "Unknown"
  networkType := 0
  apn := ""

def serialize (self : T141) : Write ε :=
  tlv 0x141 (
    u16 self.version >=>
    stringWithLength self.unknown >=>
    u16 self.networkType >=>
    stringWithLength self.apn)

end T141

structure T142 where
  packageName : String

namespace T142

def fromContext (ctx : Context) : T142 where
  packageName := ctx.appInfo.packageName

def serialize (self : T142) : Write ε := tlv 0x142 (u16 0 >=> stringWithLength self.packageName)

end T142

structure T145 where
  deviceGuid : Vector UInt8 16

namespace T145

def fromContext (ctx : Context) : T145 where
  deviceGuid := ctx.device.uuid

def serialize (self : T145) : Write ε := tlv 0x145 (bytes self.deviceGuid.toList)

end T145

structure T147 where
  appId : UInt32
  ptVersion : String
  packageName : String

namespace T147

def fromContext (ctx : Context) : T147 where
  appId := ctx.appInfo.appId.toUInt32
  ptVersion := ctx.appInfo.ptVersion
  packageName := ctx.appInfo.packageName

def serialize (self : T147) : Write ε :=
  tlv 0x147 (u32 self.appId >=> stringWithLength self.ptVersion >=> stringWithLength self.packageName)

end T147

structure T166 where
  imageType : UInt8

namespace T166

def fromContext (_ctx : Context) : T166 where
  imageType := 5

def serialize (self : T166) : Write ε := tlv 0x166 (u8 self.imageType)

end T166

structure T16A where
  noPicSig : Bytes

namespace T16A

def fromContext (ctx : Context) : Outcome ε T16A := do
  -- "no_pic_sig is none"
  let noPicSig ← Outcome.expect ctx.keyStore.session.noPicSig
  .ok { noPicSig }

def serialize (self : T16A) : Write ε := tlv 0x16A (bytes self.noPicSig)

end T16A

structure T016E where
  deviceName : String

namespace T016E

def fromContext (ctx : Context) : T016E where
  deviceName := ctx.device.deviceName

def serialize (self : T016E) : Write ε := tlv 0x16E (bytes (Utf8.encode self.deviceName))

end T016E

structure T177 where
  field1 : Bytes
  buildTime : UInt32
  wtLoginSdk : String

namespace T177

def fromContext (ctx : Context) : T177 where
  field1 := [0x01]
  buildTime := 0
  wtLoginSdk := ctx.appInfo.wtLoginSdk

def serialize (self : T177) : Write ε :=
  tlv 0x177 (u8 1 >=> u32 self.buildTime >=> stringWithLength self.wtLoginSdk)

end T177

structure T191 where
  canWebVerify : UInt8

namespace T191

def fromContext (_ctx : Context) : T191 where
  canWebVerify := 0

def serialize (self : T191) : Write ε := tlv 0x191 (u8 self.canWebVerify)

end T191

structure T318 where
  tgtQr : UInt8

namespace T318

def fromContext (_ctx : Context) : T318 where
  tgtQr := 0

def serialize (_self : T318) : Write ε := tlv 0x318 skip

end T318

structure T521 where
  productType : UInt32

namespace T521

def fromContext (_ctx : Context) : T521 where
  productType := 0x13

def serialize (self : T521) : Write ε := tlv 0x521 (u32 self.productType >=> stringWithLength "basicim")

end T521

/-! ## Sets of TLVs -/

/-- `fn(&Context) -> Box<dyn TlvSer>`. -/
abbrev TlvConstructor (ε : Type) := Context → Outcome ε (Write ε)

/-- A map from tags, as it is written down. -/
abbrev TlvSerMap (ε : Type) := List (UInt16 × TlvConstructor ε)

/-- One turn of the loop. -/
def serializeTag (map : TlvSerMap ε) (ctx : Context) (tag : UInt16) : Write ε := fun packet => do
  -- "tlv not found"
  let constructor ← Outcome.expect (map.lookup tag)
  let tlv ← constructor ctx
  let tlv ← PacketBuilder.build tlv
  bytes tlv packet

/-- The loop, with the map as it is when `k` tags are to follow. -/
def serializeTags (map : Nat → TlvSerMap ε) (ctx : Context) : List UInt16 → Write ε
  | [] => skip
  | tag :: tags => serializeTag (map tags.length) ctx tag >=> serializeTags map ctx tags

def serializeWith (map : Nat → TlvSerMap ε) (ctx : Context) (tags : List UInt16) : Write ε :=
  u16 (UInt16.ofNat tags.length) >=> serializeTags map ctx tags

structure T144 where
  tgtgtKey : Bytes
  tlvs : Bytes

namespace T144

/-- The TLV with a set of four others; `map` is where they are looked up. -/
def fromContext (map : TlvSerMap ε) (ctx : Context) : Outcome ε T144 := do
  let tlvs ← PacketBuilder.build (serializeWith (fun _ => map) ctx [0x16E, 0x147, 0x128, 0x124])
  .ok { tgtgtKey := ctx.session.stub.tgtgtKey, tlvs }

def serialize (rng : Nat → UInt8) (self : T144) : Write ε :=
  tlv 0x144 fun p => do
    let encryptedTlvs ← teaEncrypt rng self.tlvs self.tgtgtKey
    bytes encryptedTlvs p

end T144

def TLV_QR_SER_MAP (prost : TlvSerProst) : TlvSerMap ε :=
  [(0x011, fun ctx => T011q.serialize <$> T011q.fromContext ctx),
    (0x016, fun ctx => .ok (T016q.fromContext ctx).serialize),
    (0x01b, fun ctx => .ok (T01bq.fromContext ctx).serialize),
    (0x01d, fun ctx => .ok (T01dq.fromContext ctx).serialize),
    (0x033, fun ctx => .ok (T033q.fromContext ctx).serialize),
    (0x035, fun ctx => .ok (T035q.fromContext ctx).serialize),
    (0x066, fun ctx => .ok (T066q.fromContext ctx).serialize),
    (0x0d1, fun ctx => .ok ((T0d1q.fromContext ctx).serialize prost))]

/-- The map, with `map` where the TLVs inside a `T144` are looked up. -/
def serMapOver (rng : Nat → UInt8) (map : TlvSerMap ε) : TlvSerMap ε :=
  [(0x106, fun ctx => T106.serialize <$> T106.fromContext ctx),
    (0x144, fun ctx => T144.serialize rng <$> T144.fromContext map ctx),
    (0x116, fun ctx => .ok (T116.fromContext ctx).serialize),
    (0x142, fun ctx => .ok (T142.fromContext ctx).serialize),
    (0x145, fun ctx => .ok (T145.fromContext ctx).serialize),
    (0x018, fun ctx => .ok (T018.fromContext ctx).serialize),
    (0x141, fun ctx => .ok (T141.fromContext ctx).serialize),
    (0x177, fun ctx => .ok (T177.fromContext ctx).serialize),
    (0x191, fun ctx => .ok (T191.fromContext ctx).serialize),
    (0x100, fun ctx => .ok (T100.fromContext ctx).serialize),
    (0x107, fun ctx => .ok (T107.fromContext ctx).serialize),
    (0x318, fun ctx => .ok (T318.fromContext ctx).serialize),
    (0x16a, fun ctx => T16A.serialize <$> T16A.fromContext ctx),
    (0x166, fun ctx => .ok (T166.fromContext ctx).serialize),
    (0x521, fun ctx => .ok (T521.fromContext ctx).serialize),
    (0x16E, fun ctx => .ok (T016E.fromContext ctx).serialize),
    (0x147, fun ctx => .ok (T147.fromContext ctx).serialize),
    (0x128, fun ctx => .ok (T128.fromContext ctx).serialize),
    (0x124, fun ctx => .ok (T124.fromContext ctx).serialize)]

/-- In the source the TLVs inside a `T144` are looked up in the map itself.
They are none of them a `T144`, so the map below does for them what this
one would: `TLV_SER_MAP_eq`. -/
def TLV_SER_MAP (rng : Nat → UInt8) : TlvSerMap ε := serMapOver rng (serMapOver rng [])

/-- The tags that a map has. -/
def TlvSerMap.tags (map : TlvSerMap ε) : List UInt16 := map.map Prod.fst

def serializeTlvSet (rng : Nat → Nat → UInt8) (ctx : Context) (tags : List UInt16) : Write ε :=
  serializeWith (fun k => TLV_SER_MAP (rng k)) ctx tags

def serializeQrcodeTlvSet (prost : TlvSerProst) (ctx : Context) (tags : List UInt16) : Write ε :=
  serializeWith (fun _ => TLV_QR_SER_MAP prost) ctx tags

end Mania
