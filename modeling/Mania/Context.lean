/-
`core/context.rs`, `core/key_store.rs` and `core/session.rs`: what packets
are built from and opened with.

A field that is swapped at run time is its value at the call. The fields
that have a default have the source's, where it has one; the device's uuid
and the keys, which it draws at random, are zero.
-/
import Mania.Lib.Bytes

namespace Mania

structure AppInfo where
  os : String
  currentVersion : String
  miscBitmap : Int32
  ptVersion : String
  ptOsVersion : Int32
  packageName : String
  wtLoginSdk : String
  appId : Int32
  subAppId : Int32
  appIdQrCode : Int32
  appClientVersion : UInt16
  mainSigMap : UInt32
  subSigMap : UInt16

namespace AppInfo

def LINUX : AppInfo where
  os := "Linux"
  currentVersion := "3.2.15-30366"
  miscBitmap := 32764
  ptVersion := "2.0.0"
  ptOsVersion := 19
  packageName := "com.tencent.qq"
  wtLoginSdk := "nt.wtlogin.0.0.1"
  appId := 1600001615
  subAppId := 537258424
  appIdQrCode := 13697054
  appClientVersion := 30366
  mainSigMap := 169742560
  subSigMap := 0

end AppInfo

structure DeviceInfo where
  /-- The bytes of the `Uuid`. -/
  uuid : Vector UInt8 16 := .replicate 16 0
  deviceName : String := "Lagrange.Mania"

structure AccountInfo where
  age : UInt8 := 0
  gender : UInt8 := 0
  name : String := ""

structure WtLoginSession where
  d2Key : Vector UInt8 16
  d2 : Bytes := []
  tgt : Bytes := []
  /-- Nanoseconds since the epoch. -/
  sessionDate : Int := 0
  tempPassword : Option Bytes := none
  noPicSig : Option Bytes := none

structure KeyStore where
  uin : UInt32
  uid : Option String := none
  passwordMd5 : Bytes := []
  session : WtLoginSession
  info : AccountInfo := {}

structure KeyCollection where
  randomKey : Vector UInt8 16 := .replicate 16 0
  tgtgtKey : Bytes := List.replicate 16 0

/-- The `Session` of `core/session.rs`. -/
structure CoreSession where
  stub : KeyCollection := {}
  unusualSign : Option Bytes := none
  /-- What `next_sequence` answers. -/
  sequence : UInt16 := 0

structure P256 where
  publicKey : Bytes := []
  sharedKey : Vector UInt8 16 := .replicate 16 0

structure Crypto where
  loginP256 : P256 := {}

structure SignResult where
  sign : Bytes
  extra : Bytes
  token : String

structure Context where
  keyStore : KeyStore
  appInfo : AppInfo := .LINUX
  device : DeviceInfo := {}
  session : CoreSession := {}
  crypto : Crypto := {}
  /-- `sign` of the `SignProvider`: command, sequence, body. -/
  sign : String → UInt32 → Bytes → Option SignResult := fun _ _ _ => none

end Mania
