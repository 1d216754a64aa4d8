/-
`core/crypto/stream_sha1.rs`: a SHA-1 that also gives the chaining state
after every `block_size` bytes of its input.

The block buffer and the compression function are crates of their own:
`Sha1Crates` is their interface, and `Sha1Crates.Documented` what they
promise. Counters are `usize` and `u64` of 64 bits and panic on overflow. A
call of `update` gets fuel for its recursion; without enough of it the
model fails, outside of any outcome.
-/
import Mania.Lib.Sha1

namespace Mania

open MerkleDamgard

/-- `BlockBuffer<U64, Eager>`, and `compress` of `sha1::block_api`. -/
structure Sha1Crates where
  BlockBuffer : Type
  default : BlockBuffer
  getData : BlockBuffer → Bytes
  getPos : BlockBuffer → Nat
  /-- The buffer after it, and the slices of blocks the closure was called with. -/
  digestBlocks : BlockBuffer → Bytes → BlockBuffer × List (List Sha1.Block)
  /-- The blocks the closure was called with. -/
  len64PaddingBe : BlockBuffer → Nat → List Sha1.Block
  compress : Sha1.State → List Sha1.Block → Sha1.State

/-- An eager buffer passes blocks on as soon as they are full. -/
structure Sha1Crates.Documented (crates : Sha1Crates) : Prop where
  default : crates.getData crates.default = []
  getPos : ∀ b, crates.getPos b = (crates.getData b).length
  digestBlocks : ∀ b input,
    join (crates.digestBlocks b input).2.flatten ++ crates.getData (crates.digestBlocks b input).1 =
      crates.getData b ++ input
  eager : ∀ b input, (crates.getData (crates.digestBlocks b input).1).length < 64
  len64PaddingBe : ∀ b bits, (crates.getData b).length < 64 → ∃ zeros < 64,
    join (crates.len64PaddingBe b bits) =
      crates.getData b ++ 0x80 :: List.replicate zeros 0 ++ Bytes.toBE 8 bits
  compress : ∀ h blocks, crates.compress h blocks = blocks.foldl Sha1.compress h

variable {crates : Sha1Crates}

structure StreamSha1Core (crates : Sha1Crates) where
  h : Sha1.State := { a := 0x67452301, b := 0xEFCDAB89, c := 0x98BADCFE, d := 0x10325476, e := 0xC3D2E1F0 }
  blockLen : Nat := 0
  buffer : crates.BlockBuffer := crates.default

namespace StreamSha1Core

def hash (self : StreamSha1Core crates) : Bytes := self.h.toLE

/-- The closure of `update`, over what it captures. -/
def absorb (crates : Sha1Crates) (captured : Sha1.State × Nat) (blocks : List Sha1.Block) :
    Outcome Empty (Sha1.State × Nat) := do
  let blockLen ← Outcome.add 64 captured.2 blocks.length
  pure (crates.compress captured.1 blocks, blockLen)

def update (self : StreamSha1Core crates) (input : Bytes) : Outcome Empty (StreamSha1Core crates) := do
  let (buffer, calls) := crates.digestBlocks self.buffer input
  let (h, blockLen) ← calls.foldlM (absorb crates) (self.h, self.blockLen)
  pure { h, blockLen, buffer }

def finalize (self : StreamSha1Core crates) : Outcome Empty Bytes := do
  let compressed ← Outcome.mul 64 64 self.blockLen
  let len ← Outcome.add 64 (crates.getPos self.buffer) compressed
  let bitLen ← Outcome.mul 64 8 len
  let h := (crates.len64PaddingBe self.buffer bitLen).foldl (fun h b => crates.compress h [b]) self.h
  pure h.toBE

end StreamSha1Core

structure StreamSha1 (crates : Sha1Crates) where
  hasher : StreamSha1Core crates := {}
  blockSize : Nat := 1024 * 1024
  offset : Nat := 0
  digestsStream : List Bytes := []

namespace StreamSha1

def new (crates : Sha1Crates) : StreamSha1 crates := {}

def newWithSize (crates : Sha1Crates) (blockSize : Nat) : StreamSha1 crates :=
  { hasher := {}, blockSize, offset := 0, digestsStream := [] }

/-- The body of `update`, with the data its recursive call gets. -/
def updateOnce (self : StreamSha1 crates) (data : Bytes) : Outcome Empty (StreamSha1 crates × Option Bytes) := do
  let total ← Outcome.add 64 data.length self.offset
  if total < self.blockSize then
    let hasher ← self.hasher.update data
    let offset ← Outcome.add 64 self.offset data.length
    pure ({ self with hasher, offset }, none)
  else
    let range ← Outcome.sub self.blockSize self.offset
    let block ← Outcome.slice data 0 range
    let hasher ← self.hasher.update block
    let hash := hasher.hash
    let rest ← Outcome.slice data range data.length
    pure ({ self with hasher, digestsStream := self.digestsStream ++ [hash], offset := 0 }, some rest)

def update : Nat → StreamSha1 crates → Bytes → OptionT (Outcome Empty) (StreamSha1 crates)
  | 0, _, _ => failure
  | fuel + 1, self, data => do
    match ← self.updateOnce data with
    | (self, none) => pure self
    | (self, some rest) => update fuel self rest

def finalize (self : StreamSha1 crates) : Outcome Empty (List Bytes) := do
  let finalDigest ← self.hasher.finalize
  pure (self.digestsStream ++ [finalDigest])

/-- `update` with every chunk, and `finalize`. -/
def digest (crates : Sha1Crates) (blockSize fuel : Nat) (chunks : List Bytes) : OptionT (Outcome Empty) (List Bytes) := do
  let self ← chunks.foldlM (update fuel) (newWithSize crates blockSize)
  self.finalize

end StreamSha1

/-! ## The core -/

namespace StreamSha1Core

/-- The core after the bytes `all`. -/
structure Sound (c : StreamSha1Core crates) (all : Bytes) : Prop where
  h : c.h = chaining Sha1.compress Sha1.initial all
  blockLen : c.blockLen = all.length / 64
  held : ∃ bl : List Sha1.Block, all = join bl ++ crates.getData c.buffer
  short : (crates.getData c.buffer).length < 64

variable {c : StreamSha1Core crates} {all : Bytes}

theorem Sound.default (hcrates : crates.Documented) : ({} : StreamSha1Core crates).Sound [] where
  h := rfl
  blockLen := rfl
  held := ⟨[], hcrates.default.symm⟩
  short := by rw [hcrates.default]; decide

/-- The closure's calls: one compression a block, and no overflow while
the blocks can be counted. -/
theorem foldlM_absorb (hcrates : crates.Documented) (calls : List (List Sha1.Block)) :
    ∀ {h : Sha1.State} {n : Nat}, n + calls.flatten.length < 2 ^ 64 →
      calls.foldlM (absorb crates) (h, n) = .ok (calls.flatten.foldl Sha1.compress h, n + calls.flatten.length) := by
  induction calls with
  | nil => intro h n _; rfl
  | cons blocks calls ih =>
    intro h n hlen
    rw [List.flatten_cons, List.length_append] at hlen
    have hadd : absorb crates (h, n) blocks = .ok (blocks.foldl Sha1.compress h, n + blocks.length) := by
      have hlen' : n + blocks.length < 2 ^ 64 := by omega
      simp only [absorb, Outcome.add_ok hlen', Outcome.ok_bind, hcrates.compress, Outcome.pure_eq]
    have hrest := @ih (blocks.foldl Sha1.compress h) (n + blocks.length) (by omega)
    rw [List.foldlM_cons, hadd, Outcome.ok_bind, hrest, List.flatten_cons, List.foldl_append, List.length_append,
      Nat.add_assoc]

theorem Sound.update (hcrates : crates.Documented) (hc : c.Sound all) (input : Bytes)
    (hlen : (all ++ input).length < 2 ^ 61) :
    ∃ c', c.update input = .ok c' ∧ c'.Sound (all ++ input) := by
  obtain ⟨bl, hbl⟩ := hc.held
  have hpassed := hcrates.digestBlocks c.buffer input
  have hshort := hcrates.eager c.buffer input
  have hall : all ++ input = join (bl ++ (crates.digestBlocks c.buffer input).2.flatten) ++
      crates.getData (crates.digestBlocks c.buffer input).1 := by
    rw [join_append, List.append_assoc, hpassed, ← List.append_assoc, ← hbl]
  have hcount := length_div_of_join hall hshort
  have hblocks : c.blockLen = bl.length := by rw [hc.blockLen, length_div_of_join hbl hc.short]
  have hstate : c.h = bl.foldl Sha1.compress Sha1.initial := by rw [hc.h, hbl, chaining_join bl hc.short]
  rw [List.length_append] at hlen hcount
  rw [List.length_append] at hcount
  have hfold := foldlM_absorb hcrates (crates.digestBlocks c.buffer input).2 (h := c.h) (n := c.blockLen)
    (by omega)
  have hupdate : c.update input = .ok
      { h := (crates.digestBlocks c.buffer input).2.flatten.foldl Sha1.compress c.h
        blockLen := c.blockLen + (crates.digestBlocks c.buffer input).2.flatten.length
        buffer := (crates.digestBlocks c.buffer input).1 } := by
    simp only [StreamSha1Core.update, hfold, Outcome.ok_bind, Outcome.pure_eq]
  refine ⟨_, hupdate, ?_, ?_, ⟨_, hall⟩, hshort⟩
  · rw [hall, chaining_join _ hshort, List.foldl_append, ← hstate]
  · rw [List.length_append, hcount, hblocks]

/-- The length is counted right, so the padding is the standard's. -/
theorem Sound.finalize (hcrates : crates.Documented) (hc : c.Sound all) (hlen : all.length < 2 ^ 61) :
    c.finalize = .ok (Sha1.hash all) := by
  obtain ⟨bl, hbl⟩ := hc.held
  have hblocks : c.blockLen = bl.length := by rw [hc.blockLen, length_div_of_join hbl hc.short]
  have hstate : c.h = bl.foldl Sha1.compress Sha1.initial := by rw [hc.h, hbl, chaining_join bl hc.short]
  have htotal : (crates.getData c.buffer).length + 64 * bl.length = all.length := by
    conv => rhs; rw [hbl, List.length_append, join_length]
    omega
  obtain ⟨zeros, hzeros, hlast⟩ := hcrates.len64PaddingBe c.buffer (8 * all.length) hc.short
  have hpadded : join (crates.len64PaddingBe c.buffer (8 * all.length)) =
      Sha1.padded (crates.getData c.buffer) (8 * all.length) := by
    rw [hlast]
    exact Sha1.eq_padded hzeros (by rw [← hlast, join_length, Nat.mul_mod_right])
  have hcompress : (fun h b => crates.compress h [b]) = Sha1.compress := by
    funext h b
    rw [hcrates.compress, List.foldl_cons, List.foldl_nil]
  have hmul : (Outcome.mul 64 64 c.blockLen : Outcome Empty Nat) = .ok (64 * bl.length) := by
    rw [hblocks, Outcome.mul_ok (by omega)]
  have hadd : (Outcome.add 64 (crates.getPos c.buffer) (64 * bl.length) : Outcome Empty Nat) = .ok all.length := by
    rw [hcrates.getPos, Outcome.add_ok (by omega), htotal]
  have hbits : (Outcome.mul 64 8 all.length : Outcome Empty Nat) = .ok (8 * all.length) := Outcome.mul_ok (by omega)
  simp only [StreamSha1Core.finalize, hmul, hadd, hbits, Outcome.ok_bind, Outcome.pure_eq, hcompress, hstate]
  rw [Sha1.hash_of_blocks hbl hpadded]

end StreamSha1Core

/-! ## The stream -/

/-- The chaining states after every `blockSize` bytes. -/
def blockDigests (blockSize : Nat) (all : Bytes) : List Bytes :=
  (List.range (all.length / blockSize)).map fun k =>
    (chaining Sha1.compress Sha1.initial (all.take ((k + 1) * blockSize))).toLE

theorem blockDigests_append {blockSize : Nat} (all data : Bytes) :
    blockDigests blockSize all = (List.range (all.length / blockSize)).map fun k =>
      (chaining Sha1.compress Sha1.initial ((all ++ data).take ((k + 1) * blockSize))).toLE := by
  apply List.map_congr_left
  intro k hk
  have hle : (k + 1) * blockSize ≤ all.length :=
    Nat.le_trans (Nat.mul_le_mul_right blockSize (List.mem_range.mp hk)) (Nat.div_mul_le_self _ _)
  rw [List.take_append_of_le_length hle]

namespace StreamSha1

/-- The stream after the bytes `all`. -/
structure Sound (B : Nat) (s : StreamSha1 crates) (all : Bytes) : Prop where
  hasher : s.hasher.Sound all
  blockSize : s.blockSize = B
  offset : s.offset = all.length % B
  digestsStream : s.digestsStream = blockDigests B all

variable {B : Nat} {s : StreamSha1 crates} {all : Bytes}

theorem Sound.newWithSize (hcrates : crates.Documented) (B : Nat) : (newWithSize crates B).Sound B [] where
  hasher := .default hcrates
  blockSize := rfl
  offset := (Nat.zero_mod B).symm
  digestsStream := by simp [StreamSha1.newWithSize, blockDigests]

/-- Within a block: no digest. -/
theorem Sound.within {hasher : StreamSha1Core crates} {data : Bytes} (hs : s.Sound B all)
    (hhasher : hasher.Sound (all ++ data)) (hlt : data.length + s.offset < B) :
    ({ s with hasher, offset := s.offset + data.length } : StreamSha1 crates).Sound B (all ++ data) := by
  have hoffset := hs.offset
  have hdivmod := Nat.div_add_mod all.length B
  have hlen : (all ++ data).length = B * (all.length / B) + (s.offset + data.length) := by
    rw [List.length_append]
    omega
  have hmod : (all ++ data).length % B = s.offset + data.length := by
    rw [hlen, Nat.mul_add_mod, Nat.mod_eq_of_lt (by omega)]
  have hsmall : (s.offset + data.length) / B = 0 := Nat.div_eq_of_lt (by omega)
  have hdiv : (all ++ data).length / B = all.length / B := by
    rw [hlen, Nat.mul_add_div (Nat.zero_lt_of_lt hlt), hsmall, Nat.add_zero]
  refine ⟨hhasher, hs.blockSize, hmod.symm, ?_⟩
  show s.digestsStream = _
  rw [hs.digestsStream, blockDigests_append all data, blockDigests, hdiv]

/-- Up to the end of a block: one more digest. -/
theorem Sound.filled {hasher : StreamSha1Core crates} {block : Bytes} (hs : s.Sound B all)
    (hhasher : hasher.Sound (all ++ block)) (hB : 0 < B) (hfill : block.length + s.offset = B) :
    ({ s with hasher, digestsStream := s.digestsStream ++ [hasher.hash], offset := 0 } : StreamSha1 crates).Sound B
      (all ++ block) := by
  have hoffset := hs.offset
  have hdivmod := Nat.div_add_mod all.length B
  have hlen : (all ++ block).length = (all.length / B + 1) * B := by
    rw [List.length_append, Nat.succ_mul, Nat.mul_comm]
    omega
  have hdiv : (all ++ block).length / B = all.length / B + 1 := by rw [hlen, Nat.mul_div_cancel _ hB]
  refine ⟨hhasher, hs.blockSize, ?_, ?_⟩
  · rw [hlen, Nat.mul_mod_left]
  · have hlast : (all ++ block).take ((all.length / B + 1) * B) = all ++ block := by rw [← hlen, List.take_length]
    show s.digestsStream ++ [hasher.h.toLE] = _
    rw [hs.digestsStream, hhasher.h, blockDigests_append all block, blockDigests, hdiv, List.range_succ,
      List.map_append, List.map_singleton, hlast]

/-- One turn of `update`: it is done, or has some of the data left. -/
theorem Sound.updateOnce (hcrates : crates.Documented) (hB : 0 < B) {data : Bytes} (hs : s.Sound B all)
    (hlen : (all ++ data).length < 2 ^ 61) :
    (∃ s', s.updateOnce data = .ok (s', none) ∧ s'.Sound B (all ++ data)) ∨
    (∃ s' block rest, s.updateOnce data = .ok (s', some rest) ∧ data = block ++ rest ∧ rest.length < data.length ∧
      s'.Sound B (all ++ block)) := by
  have hoffset := hs.offset
  have hsize := hs.blockSize
  have hmod := Nat.mod_lt all.length hB
  have hmod_le := Nat.mod_le all.length B
  rw [List.length_append] at hlen
  have htotal : (Outcome.add 64 data.length s.offset : Outcome Empty Nat) = .ok (data.length + s.offset) :=
    Outcome.add_ok (by omega)
  by_cases hlt : data.length + s.offset < B
  · left
    obtain ⟨hasher, hupdate, hhasher⟩ := hs.hasher.update hcrates data (by rw [List.length_append]; exact hlen)
    have hnext : (Outcome.add 64 s.offset data.length : Outcome Empty Nat) = .ok (s.offset + data.length) :=
      Outcome.add_ok (by omega)
    refine ⟨_, ?_, hs.within hhasher hlt⟩
    simp only [StreamSha1.updateOnce, htotal, hsize, hlt, hupdate, hnext, Outcome.ok_bind, Outcome.pure_eq, if_true]
  · right
    have hrange : (Outcome.sub B s.offset : Outcome Empty Nat) = .ok (B - s.offset) := Outcome.sub_ok (by omega)
    have hblock : (Outcome.slice data 0 (B - s.offset) : Outcome Empty Bytes) = .ok (data.take (B - s.offset)) :=
      Outcome.slice_ok (by omega)
    have hrest : (Outcome.slice data (B - s.offset) data.length : Outcome Empty Bytes) =
        .ok (data.drop (B - s.offset)) := by
      rw [Outcome.slice_ok (by omega), List.take_length]
    have htake : (data.take (B - s.offset)).length = B - s.offset := by rw [List.length_take]; omega
    obtain ⟨hasher, hupdate, hhasher⟩ := hs.hasher.update hcrates (data.take (B - s.offset))
      (by rw [List.length_append, htake]; omega)
    refine ⟨_, _, _, ?_, (List.take_append_drop (B - s.offset) data).symm, ?_, hs.filled hhasher hB (by omega)⟩
    · simp only [StreamSha1.updateOnce, htotal, hsize, hlt, hrange, hblock, hupdate, hrest, Outcome.ok_bind,
        Outcome.pure_eq, if_false]
    · rw [List.length_drop]
      omega

theorem Sound.update (hcrates : crates.Documented) (hB : 0 < B) (fuel : Nat) :
    ∀ {s : StreamSha1 crates} {all : Bytes} (data : Bytes), s.Sound B all → (all ++ data).length < 2 ^ 61 →
      data.length < fuel → ∃ s', (update fuel s data).run = .ok (some s') ∧ s'.Sound B (all ++ data) := by
  induction fuel with
  | zero => intro _ _ _ _ _ hfuel; exact absurd hfuel (Nat.not_lt_zero _)
  | succ fuel ih =>
    intro s all data hs hlen hfuel
    rcases hs.updateOnce hcrates hB hlen with ⟨s', hs', hsound⟩ | ⟨next, block, rest, hnext, rfl, hshorter, hsound⟩
    · exact ⟨s', by simp [StreamSha1.update, hs'], hsound⟩
    · rw [← List.append_assoc] at hlen
      obtain ⟨s', hs', hsound'⟩ := ih rest hsound hlen (by omega)
      rw [List.append_assoc] at hsound'
      exact ⟨s', by simp [StreamSha1.update, hnext, hs'], hsound'⟩

theorem Sound.updates (hcrates : crates.Documented) (hB : 0 < B) {fuel : Nat} :
    ∀ (chunks : List Bytes) {s : StreamSha1 crates} {all : Bytes}, s.Sound B all →
      (all ++ chunks.flatten).length < 2 ^ 61 → chunks.flatten.length < fuel →
      ∃ s', (chunks.foldlM (StreamSha1.update fuel) s).run = .ok (some s') ∧ s'.Sound B (all ++ chunks.flatten) := by
  intro chunks
  induction chunks with
  | nil =>
    intro s all hs _ _
    exact ⟨s, rfl, by rwa [List.flatten_nil, List.append_nil]⟩
  | cons data chunks ih =>
    intro s all hs hlen hfuel
    rw [List.flatten_cons] at hlen hfuel
    simp only [List.length_append] at hlen hfuel
    obtain ⟨next, hnext, hsound⟩ := Sound.update hcrates hB fuel data hs (by rw [List.length_append]; omega) (by omega)
    obtain ⟨s', hs', hsound'⟩ := ih hsound (by simp only [List.length_append]; omega) (by omega)
    refine ⟨s', ?_, ?_⟩
    · simp [List.foldlM_cons, hnext, hs']
    · rw [List.flatten_cons, ← List.append_assoc]
      exact hsound'

/-- **The digests of a stream**: whatever the chunks, the calls of `update`
come to an end, and `finalize` gives the chaining state after each of the
blocks and the digest of the whole. -/
theorem digest_chunks (hcrates : crates.Documented) {B : Nat} (hB : 0 < B) (chunks : List Bytes)
    (hlen : chunks.flatten.length < 2 ^ 61) :
    ∃ enough, ∀ fuel ≥ enough, (digest crates B fuel chunks).run =
      .ok (some (blockDigests B chunks.flatten ++ [Sha1.hash chunks.flatten])) := by
  refine ⟨chunks.flatten.length + 1, fun fuel hfuel => ?_⟩
  obtain ⟨s, hs, hsound⟩ := Sound.updates hcrates hB chunks (Sound.newWithSize hcrates B) (by rwa [List.nil_append])
    hfuel
  rw [List.nil_append] at hsound
  have hfinal : s.finalize = .ok (blockDigests B chunks.flatten ++ [Sha1.hash chunks.flatten]) := by
    rw [StreamSha1.finalize, hsound.hasher.finalize hcrates hlen, hsound.digestsStream, Outcome.ok_bind, Outcome.pure_eq]
  simp [digest, hs, hfinal]

end StreamSha1

namespace Sha1Crates

/-- The slices of `bl` that a buffer of the bytes `held` passes on: the
block that it began alone, before those that the input holds. -/
def calls (held : Bytes) (bl : List Sha1.Block) : List (List Sha1.Block) :=
  (if held = [] then [bl] else [bl.take 1, bl.drop 1]).filter (· ≠ [])

theorem calls_flatten (held : Bytes) (bl : List Sha1.Block) : (calls held bl).flatten = bl := by
  rw [calls, List.flatten_filter_ne_nil]
  split
  · exact List.flatten_singleton
  · rw [List.flatten_cons, List.flatten_singleton, List.take_append_drop]

/-- The crates over lists. -/
def lists : Sha1Crates where
  BlockBuffer := Bytes
  default := []
  getData held := held
  getPos held := held.length
  digestBlocks held input :=
    let all := held ++ input
    (all.drop (64 * (all.length / 64)), calls held (blocks 64 (all.length / 64) all))
  len64PaddingBe held bits := blocks 64 ((Sha1.padded held bits).length / 64) (Sha1.padded held bits)
  compress h bl := bl.foldl Sha1.compress h

theorem lists_documented : lists.Documented where
  default := rfl
  getPos _ := rfl
  digestBlocks := fun (held : Bytes) input => by
    show join (calls held (blocks 64 _ (held ++ input))).flatten ++ _ = held ++ input
    rw [calls_flatten]
    exact (join_blocks (N := 64) (by decide) (held ++ input)).1
  eager := fun (held : Bytes) input => (join_blocks (N := 64) (by decide) (held ++ input)).2
  len64PaddingBe := fun (held : Bytes) bits _ => by
    refine ⟨(119 - held.length % 64) % 64, Nat.mod_lt _ (by decide), ?_⟩
    have hwhole := (join_blocks (N := 64) (by decide) (Sha1.padded held bits)).1
    have hmod := Sha1.padded_length held bits
    rwa [List.drop_eq_nil_of_le (by omega), List.append_nil] at hwhole
  compress _ _ := rfl

end Sha1Crates

/-- Seventy bytes in three chunks, one of them empty: a block, and the
digest. -/
theorem StreamSha1.digest_chunks_seventy :
    ∃ enough, ∀ fuel ≥ enough,
      (StreamSha1.digest Sha1Crates.lists 64 fuel [List.replicate 30 0x61, [], List.replicate 40 0x61]).run = .ok (some
        [[0xEB, 0x68, 0x49, 0xDA, 0x1F, 0x7C, 0x37, 0x2E, 0x52, 0x8F, 0x4E, 0x88, 0xEB, 0x4B, 0x52, 0x83, 0xBD, 0xBD, 0x4E,
            0xE7],
          [0xED, 0x6C, 0x69, 0xD9, 0xE8, 0xB4, 0x37, 0x3A, 0xF8, 0x63, 0x03, 0xDF, 0xAA, 0x35, 0x28, 0xDF, 0xBC, 0x12, 0x99,
            0x02]]) := by
  have hvalue : blockDigests 64 (List.replicate 70 0x61) ++ [Sha1.hash (List.replicate 70 0x61)] =
      [[0xEB, 0x68, 0x49, 0xDA, 0x1F, 0x7C, 0x37, 0x2E, 0x52, 0x8F, 0x4E, 0x88, 0xEB, 0x4B, 0x52, 0x83, 0xBD, 0xBD, 0x4E,
          0xE7],
        [0xED, 0x6C, 0x69, 0xD9, 0xE8, 0xB4, 0x37, 0x3A, 0xF8, 0x63, 0x03, 0xDF, 0xAA, 0x35, 0x28, 0xDF, 0xBC, 0x12, 0x99,
          0x02]] := by decide +kernel
  have h := StreamSha1.digest_chunks Sha1Crates.lists_documented (B := 64) (by decide)
    [List.replicate 30 0x61, [], List.replicate 40 0x61] (by decide)
  have hflatten : [List.replicate 30 0x61, [], List.replicate 40 0x61].flatten = List.replicate 70 (0x61 : UInt8) := rfl
  rwa [hflatten, hvalue] at h

end Mania
