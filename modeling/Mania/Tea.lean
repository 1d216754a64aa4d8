/-
`core/crypto/tea.rs`: the 16-round TEA block cipher and the padded,
chained encryption of byte strings over it.

The filler bytes `tea_encrypt` draws are the argument `rng`: `rng i` is the
`i`-th byte of `rng().fill_bytes` (in a debug build every one of them is
220).
-/
import Mathlib.Logic.Function.Iterate
import Mania.Lib.Bytes
import Mania.Lib.Chaining

namespace Mania

open Bytes

def TEA_DELTA : UInt32 := 0x9E3779B9

/-- The cipher with its four key words. -/
structure Tea16 where
  key : Vector UInt32 4
  deriving DecidableEq

/-- The loop variables of `Tea16::encrypt` and `Tea16::decrypt`. -/
structure Tea16.Round where
  sum : UInt32
  x : UInt32
  y : UInt32
  deriving DecidableEq

namespace Tea16

/-- `((n >> 32) as u32, n as u32)`. -/
def split (n : UInt64) : UInt32 × UInt32 := ((n >>> 32).toUInt32, n.toUInt32)

/-- `((x as u64) << 32) | y as u64`. -/
def join (x y : UInt32) : UInt64 := (x.toUInt64 <<< 32) ||| y.toUInt64

def encryptRound (c : Tea16) (s : Round) : Round :=
  let sum := s.sum + TEA_DELTA
  let x := s.x + ((c.key[0] + (s.y <<< 4)) ^^^ (s.y + sum) ^^^ (c.key[1] + (s.y >>> 5)))
  let y := s.y + ((c.key[2] + (x <<< 4)) ^^^ (x + sum) ^^^ (c.key[3] + (x >>> 5)))
  { sum, x, y }

def decryptRound (c : Tea16) (s : Round) : Round :=
  let y := s.y - ((c.key[2] + (s.x <<< 4)) ^^^ (s.x + s.sum) ^^^ (c.key[3] + (s.x >>> 5)))
  let x := s.x - ((c.key[0] + (y <<< 4)) ^^^ (y + s.sum) ^^^ (c.key[1] + (y >>> 5)))
  { sum := s.sum - TEA_DELTA, x, y }

def encrypt (c : Tea16) (n : UInt64) : UInt64 :=
  let (x, y) := split n
  let s := (c.encryptRound)^[16] { sum := 0, x, y }
  join s.x s.y

def decrypt (c : Tea16) (n : UInt64) : UInt64 :=
  let (x, y) := split n
  let s := (c.decryptRound)^[16] { sum := TEA_DELTA <<< 4, x, y }
  join s.x s.y

/-- The cipher of a 16-byte key. -/
def ofKey (key : Bytes) : Tea16 :=
  { key := #v[ofBE32 (key.take 4), ofBE32 ((key.drop 4).take 4), ofBE32 ((key.drop 8).take 4),
    ofBE32 ((key.drop 12).take 4)] }

variable {ε : Type}

/-- `Tea16::new(GenericArray::from_slice(key))`: a key that is not 16 bytes
long panics in `from_slice`. -/
def new (key : Bytes) : Outcome ε Tea16 := do
  Outcome.guard (key.length = 16)
  .ok (ofKey key)

end Tea16

variable {ε : Type}

/-- `BigEndian::read_u64_into` into `n` words. -/
def readU64Into (src : Bytes) (n : Nat) : Outcome ε (List UInt64) := do
  Outcome.guard (src.length = 8 * n)
  .ok (words64 n src)

/-- `BigEndian::write_u64_into` into a buffer of `n` bytes. -/
def writeU64Into (src : List UInt64) (n : Nat) : Outcome ε Bytes := do
  Outcome.guard (n = 8 * src.length)
  .ok (src.flatMap be64)

def fillCount (text : Bytes) : Nat := 9 - (text.length + 1) % 8

def teaEncrypt (rng : Nat → UInt8) (text key : Bytes) : Outcome ε Bytes := do
  let fillCount := fillCount text
  let plaintext := List.replicate (1 + fillCount + text.length + 7) (0 : UInt8)
  let plaintextLen := plaintext.length
  let plaintext ← Outcome.setIndex plaintext 0 ((UInt8.ofNat fillCount - 2) ||| 0xF8)
  let plaintext ← Outcome.copyFromSlice plaintext 1 (fillCount + 1) ((List.range fillCount).map rng)
  let plaintext ← Outcome.copyFromSlice plaintext (fillCount + 1) (plaintextLen - 7) text
  let workBlock ← readU64Into plaintext (plaintext.length / 8)
  let cipher ← Tea16.new key
  let workBlock := Chaining.encrypt (· ^^^ ·) cipher.encrypt 0 0 workBlock
  writeU64Into workBlock plaintext.length

def teaDecrypt (text key : Bytes) : Outcome ε Bytes := do
  let workBlock ← readU64Into text (text.length / 8)
  let cipher ← Tea16.new key
  let workBlock := Chaining.decrypt (· ^^^ ·) cipher.decrypt 0 0 workBlock
  let result ← writeU64Into workBlock text.length
  let first ← Outcome.index result 0
  let beginPos := (first.toNat &&& 7) + 3
  let endPos ← Outcome.sub result.length 7
  Outcome.slice result beginPos endPos

end Mania
