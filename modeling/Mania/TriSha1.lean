/-
`core/crypto/tri_sha1.rs`: a SHA-1 over the start, the middle and the end
of a file, or over all of a small one, and its size.

The hasher is a crate of its own: `Sha1Digest` is its interface, assumed to
be the SHA-1 of what it was fed, in whatever pieces (`Incremental`).
Counters are `u64` and panic on overflow. The bytes of the size are in the
machine's own order.
-/
import Mania.Lib.Sha1

namespace Mania

open Bytes

/-- `sha1::Sha1` as a `Digest`. -/
structure Sha1Digest where
  Sha1 : Type
  default : Sha1
  update : Sha1 → Bytes → Sha1
  finalize : Sha1 → Bytes

structure Sha1Digest.Incremental (digest : Sha1Digest) : Prop where
  finalize : ∀ pieces : List Bytes, pieces.flatten.length < 2 ^ 61 →
    digest.finalize (pieces.foldl digest.update digest.default) = Sha1.hash pieces.flatten

inductive Endian where
  | little
  | big
  deriving DecidableEq, Repr

/-- `u64::to_ne_bytes`. -/
def Endian.toNeBytes : Endian → Nat → Bytes
  | little, n => (toBE 8 n).reverse
  | big, n => toBE 8 n

variable {digest : Sha1Digest}

structure TriSha1 (digest : Sha1Digest) where
  hasher : digest.Sha1
  offset : Nat
  fileSize : Nat
  ranges : List (Nat × Nat)

namespace TriSha1

def new (digest : Sha1Digest) (fileSize : Nat) : Outcome Empty (TriSha1 digest) := do
  let ranges ←
    if fileSize < 31457280 then
      pure [(0, fileSize)]
    else do
      let middle ← Outcome.sub (fileSize >>> 1) 5242880
      let middleEnd ← Outcome.add 64 (fileSize >>> 1) 5242879
      let last ← Outcome.sub fileSize 10485760
      let lastEnd ← Outcome.sub fileSize 1
      pure [(0, 10485759), (middle, middleEnd), (last, lastEnd)]
  pure { fileSize, ranges, hasher := digest.default, offset := 0 }

/-- The body of the loop of `update`, for data at `start..stop`. -/
def updateRange (digest : Sha1Digest) (data : Bytes) (start stop : Nat) (hasher : digest.Sha1) (range : Nat × Nat) :
    Outcome Empty digest.Sha1 := do
  let (rs, re) := range
  let lo := max start rs
  let past ← Outcome.add 64 re 1
  let hi := min stop past
  if lo < hi then
    let b ← Outcome.sub lo start
    let e ← Outcome.sub hi start
    let slice ← Outcome.slice data b e
    pure (digest.update hasher slice)
  else
    pure hasher

def update (self : TriSha1 digest) (data : Bytes) : Outcome Empty (TriSha1 digest) := do
  let start := self.offset
  let stop ← Outcome.add 64 start data.length
  let hasher ← self.ranges.foldlM (updateRange digest data start stop) self.hasher
  pure { self with hasher, offset := stop }

def finalize (endian : Endian) (self : TriSha1 digest) : Bytes :=
  let sizeBytes := endian.toNeBytes self.fileSize
  digest.finalize (digest.update self.hasher sizeBytes)

/-- `new` for a file of `fileSize` bytes, `update` with every chunk, and
`finalize`. -/
def run (digest : Sha1Digest) (endian : Endian) (fileSize : Nat) (chunks : List Bytes) : Outcome Empty Bytes := do
  let self ← new digest fileSize
  let self ← chunks.foldlM update self
  pure (self.finalize endian)

end TriSha1

/-! ## Ranges of a byte string -/

/-- The bytes of an inclusive range. -/
def clip (all : Bytes) (range : Nat × Nat) : Bytes := (all.take (range.2 + 1)).drop range.1

/-- The bytes of a range that are in the data after `start` bytes. -/
def piece (start : Nat) (data : Bytes) (range : Nat × Nat) : Bytes :=
  (data.take (range.2 + 1 - start)).drop (range.1 - start)

/-- Ranges that follow one another. -/
def Ascending (ranges : List (Nat × Nat)) : Prop := ranges.Pairwise fun r r' => r.2 < r'.1

theorem clip_append (all data : Bytes) (range : Nat × Nat) :
    clip (all ++ data) range = clip all range ++ piece all.length data range := by
  rw [clip, List.take_append, List.drop_append, List.length_take, clip, piece]
  by_cases hlt : range.2 + 1 ≤ all.length
  · have hnone : range.2 + 1 - all.length = 0 := by omega
    rw [hnone, List.take_zero, List.drop_nil, List.drop_nil]
  · rw [Nat.min_eq_right (by omega)]

theorem clip_eq_nil {all : Bytes} {range : Nat × Nat} (h : all.length ≤ range.1) : clip all range = [] := by
  apply List.drop_eq_nil_of_le
  rw [List.length_take]
  omega

theorem piece_eq_nil {start : Nat} {data : Bytes} {range : Nat × Nat} (h : range.2 < start) :
    piece start data range = [] := by
  have hnone : range.2 + 1 - start = 0 := by omega
  rw [piece, hnone, List.take_zero, List.drop_nil]

/-- A range that goes on into the data comes before none that began. -/
theorem flatMap_clip_append {ranges : List (Nat × Nat)} (hasc : Ascending ranges) (all data : Bytes) :
    ranges.flatMap (clip (all ++ data)) = ranges.flatMap (clip all) ++ ranges.flatMap (piece all.length data) := by
  induction ranges with
  | nil => rfl
  | cons range ranges ih =>
    have ⟨hfirst, hrest⟩ := List.pairwise_cons.mp hasc
    have hswap : piece all.length data range ++ ranges.flatMap (clip all) =
        ranges.flatMap (clip all) ++ piece all.length data range := by
      by_cases hlt : range.2 < all.length
      · rw [piece_eq_nil hlt, List.nil_append, List.append_nil]
      · have hlater : ranges.flatMap (clip all) = [] := by
          apply List.flatMap_eq_nil_iff.mpr
          intro r hr
          have := hfirst r hr
          exact clip_eq_nil (by omega)
        rw [hlater, List.nil_append, List.append_nil]
    simp only [List.flatMap_cons]
    rw [clip_append, ih hrest, List.append_assoc, ← List.append_assoc (piece _ _ _), hswap]
    simp only [List.append_assoc]

namespace TriSha1

/-- The hasher after the bytes `all`: it was fed, piece by piece, what is
in the ranges. -/
structure Sound (rs : List (Nat × Nat)) (s : TriSha1 digest) (all : Bytes) : Prop where
  ranges : s.ranges = rs
  offset : s.offset = all.length
  hasher : ∃ pieces : List Bytes, s.hasher = pieces.foldl digest.update digest.default ∧
    pieces.flatten = rs.flatMap (clip all)

/-- A range's turn: its piece of the data, if there is any. -/
theorem updateRange_ok (data : Bytes) (start : Nat) (hasher : digest.Sha1) {range : Nat × Nat}
    (hrange : range.2 + 1 < 2 ^ 64) :
    ∃ pieces : List Bytes, updateRange digest data start (start + data.length) hasher range =
      .ok (pieces.foldl digest.update hasher) ∧ pieces.flatten = piece start data range := by
  obtain ⟨rs, re⟩ := range
  have hpast : (Outcome.add 64 re 1 : Outcome Empty Nat) = .ok (re + 1) := Outcome.add_ok hrange
  by_cases hlt : max start rs < min (start + data.length) (re + 1)
  · have hb : (Outcome.sub (max start rs) start : Outcome Empty Nat) = .ok (rs - start) := by
      rw [Outcome.sub_ok (Nat.le_max_left ..)]
      congr 1
      omega
    have he : (Outcome.sub (min (start + data.length) (re + 1)) start : Outcome Empty Nat) =
        .ok (min data.length (re + 1 - start)) := by
      rw [Outcome.sub_ok (by omega)]
      congr 1
      omega
    have hslice : (Outcome.slice data (rs - start) (min data.length (re + 1 - start)) : Outcome Empty Bytes) =
        .ok (piece start data (rs, re)) := by
      rw [Outcome.slice_ok (by omega), piece]
      congr 2
      rcases Nat.le_total data.length (re + 1 - start) with hle | hle
      · rw [Nat.min_eq_left hle, List.take_length, List.take_of_length_le hle]
      · rw [Nat.min_eq_right hle]
    refine ⟨[piece start data (rs, re)], ?_, List.flatten_singleton⟩
    simp only [updateRange, hpast, Outcome.ok_bind, hlt, if_true, hb, he, hslice, Outcome.pure_eq, List.foldl_cons,
      List.foldl_nil]
  · have hnone : piece start data (rs, re) = [] := by
      apply List.drop_eq_nil_of_le
      rw [List.length_take]
      omega
    refine ⟨[], ?_, hnone.symm⟩
    simp only [updateRange, hpast, Outcome.ok_bind, hlt, if_false, Outcome.pure_eq, List.foldl_nil]

theorem foldlM_updateRange (data : Bytes) (start : Nat) (ranges : List (Nat × Nat)) :
    ∀ hasher : digest.Sha1, (∀ r ∈ ranges, r.2 + 1 < 2 ^ 64) →
      ∃ pieces : List Bytes, ranges.foldlM (updateRange digest data start (start + data.length)) hasher =
        .ok (pieces.foldl digest.update hasher) ∧ pieces.flatten = ranges.flatMap (piece start data) := by
  induction ranges with
  | nil => intro hasher _; exact ⟨[], rfl, rfl⟩
  | cons range ranges ih =>
    intro hasher hranges
    obtain ⟨first, hfirst, hpiece⟩ := updateRange_ok data start hasher
      (hranges range (List.mem_cons_self ..))
    obtain ⟨rest, hrest, hpieces⟩ := ih (first.foldl digest.update hasher) fun r hr =>
      hranges r (List.mem_cons_of_mem _ hr)
    refine ⟨first ++ rest, ?_, ?_⟩
    · rw [List.foldlM_cons, hfirst, Outcome.ok_bind, hrest, List.foldl_append]
    · rw [List.flatten_append, hpiece, hpieces, List.flatMap_cons]

theorem Sound.update {ranges : List (Nat × Nat)} {s : TriSha1 digest} {all data : Bytes} (hs : s.Sound ranges all)
    (hasc : Ascending ranges) (hranges : ∀ r ∈ ranges, r.2 + 1 < 2 ^ 64) (hlen : (all ++ data).length < 2 ^ 64) :
    ∃ s', s.update data = .ok s' ∧ s'.fileSize = s.fileSize ∧ s'.Sound ranges (all ++ data) := by
  obtain ⟨pieces, hhasher, hpieces⟩ := hs.hasher
  rw [List.length_append] at hlen
  have hstop : (Outcome.add 64 s.offset data.length : Outcome Empty Nat) = .ok (s.offset + data.length) := by
    rw [hs.offset, Outcome.add_ok hlen]
  obtain ⟨more, hmore, hdata⟩ := foldlM_updateRange data s.offset ranges s.hasher hranges
  refine ⟨{ s with hasher := more.foldl digest.update s.hasher, offset := s.offset + data.length }, ?_, rfl, ?_⟩
  · simp only [TriSha1.update, hstop, hs.ranges, hmore, Outcome.ok_bind, Outcome.pure_eq]
  · refine ⟨hs.ranges, ?_, pieces ++ more, ?_, ?_⟩
    · show s.offset + data.length = (all ++ data).length
      rw [hs.offset, List.length_append]
    · rw [List.foldl_append, ← hhasher]
    · rw [List.flatten_append, hpieces, hdata, hs.offset, flatMap_clip_append hasc]

theorem Sound.updates {ranges : List (Nat × Nat)} (hasc : Ascending ranges) (hranges : ∀ r ∈ ranges, r.2 + 1 < 2 ^ 64)
    (chunks : List Bytes) :
    ∀ {s : TriSha1 digest} {all : Bytes}, s.Sound ranges all → (all ++ chunks.flatten).length < 2 ^ 64 →
      ∃ s', chunks.foldlM TriSha1.update s = .ok s' ∧ s'.fileSize = s.fileSize ∧
        s'.Sound ranges (all ++ chunks.flatten) := by
  induction chunks with
  | nil =>
    intro s all hs _
    exact ⟨s, rfl, rfl, by rwa [List.flatten_nil, List.append_nil]⟩
  | cons data chunks ih =>
    intro s all hs hlen
    rw [List.flatten_cons, ← List.append_assoc] at hlen
    have hdata : (all ++ data).length < 2 ^ 64 := by
      rw [List.length_append] at hlen
      omega
    obtain ⟨next, hnext, hsize, hsound⟩ := hs.update hasc hranges hdata
    obtain ⟨s', hs', hsize', hsound'⟩ := ih hsound hlen
    refine ⟨s', ?_, hsize'.trans hsize, ?_⟩
    · rw [List.foldlM_cons, hnext, Outcome.ok_bind, hs']
    · rw [List.flatten_cons, ← List.append_assoc]
      exact hsound'

/-! ## The three ranges -/

def rangesOf (fileSize : Nat) : List (Nat × Nat) :=
  if fileSize < 31457280 then [(0, fileSize)]
  else [(0, 10485759), (fileSize / 2 - 5242880, fileSize / 2 + 5242879), (fileSize - 10485760, fileSize - 1)]

theorem new_ok {fileSize : Nat} (hsize : fileSize < 2 ^ 64) :
    new digest fileSize = .ok { fileSize, ranges := rangesOf fileSize, hasher := digest.default, offset := 0 } := by
  have hhalf : fileSize >>> 1 = fileSize / 2 := Nat.shiftRight_one fileSize
  by_cases hsmall : fileSize < 31457280
  · simp only [new, rangesOf, hsmall, if_true, Outcome.pure_eq, Outcome.ok_bind]
  · have hmiddle : (Outcome.sub (fileSize / 2) 5242880 : Outcome Empty Nat) = .ok (fileSize / 2 - 5242880) :=
      Outcome.sub_ok (by omega)
    have hmiddleEnd : (Outcome.add 64 (fileSize / 2) 5242879 : Outcome Empty Nat) = .ok (fileSize / 2 + 5242879) :=
      Outcome.add_ok (by omega)
    have hlast : (Outcome.sub fileSize 10485760 : Outcome Empty Nat) = .ok (fileSize - 10485760) :=
      Outcome.sub_ok (by omega)
    have hlastEnd : (Outcome.sub fileSize 1 : Outcome Empty Nat) = .ok (fileSize - 1) := Outcome.sub_ok (by omega)
    simp only [new, rangesOf, hhalf, hsmall, if_false, hmiddle, hmiddleEnd, hlast, hlastEnd, Outcome.pure_eq,
      Outcome.ok_bind]

/-- No overlap, down to the threshold. -/
theorem rangesOf_ascending (fileSize : Nat) : Ascending (rangesOf fileSize) := by
  rw [rangesOf]
  split
  · exact List.pairwise_singleton ..
  · simp only [Ascending, List.pairwise_cons, List.mem_cons, List.not_mem_nil, or_false, forall_eq_or_imp, forall_eq,
      false_imp_iff, forall_const, List.Pairwise.nil, and_true]
    omega

theorem rangesOf_lt {fileSize : Nat} (hsize : fileSize < 2 ^ 64) : ∀ r ∈ rangesOf fileSize, r.2 + 1 < 2 ^ 64 := by
  rw [rangesOf]
  split
  · simp only [List.mem_singleton, forall_eq]
    omega
  · simp only [List.mem_cons, List.not_mem_nil, or_false, forall_eq_or_imp, forall_eq]
    omega

/-- What of a file is hashed, before its size. -/
def sampled (content : Bytes) : Bytes :=
  if content.length < 31457280 then content
  else content.take 10485760 ++ (content.drop (content.length / 2 - 5242880)).take 10485760 ++
    content.drop (content.length - 10485760)

theorem flatMap_clip_rangesOf (content : Bytes) : (rangesOf content.length).flatMap (clip content) = sampled content := by
  rw [rangesOf, sampled]
  split
  · rw [List.flatMap_singleton, clip, List.drop_zero, List.take_of_length_le (Nat.le_succ _)]
  · have hmiddle : clip content (content.length / 2 - 5242880, content.length / 2 + 5242879) =
        (content.drop (content.length / 2 - 5242880)).take 10485760 := by
      rw [List.take_drop, clip]
      congr 2
      omega
    have hlast : clip content (content.length - 10485760, content.length - 1) =
        content.drop (content.length - 10485760) := by
      rw [clip, List.take_of_length_le (by omega)]
    have hfirst : clip content (0, 10485759) = content.take 10485760 := List.drop_zero
    simp only [List.flatMap_cons, List.flatMap_nil, List.append_nil, hfirst, hmiddle, hlast, List.append_assoc]

theorem sampled_length_lt (content : Bytes) : (sampled content).length < 2 ^ 60 := by
  rw [sampled]
  split
  · omega
  · simp only [List.length_append, List.length_take, List.length_drop]
    omega

theorem Sound.finalize {ranges : List (Nat × Nat)} {s : TriSha1 digest} {all : Bytes} (hs : s.Sound ranges all)
    (hdigest : digest.Incremental) (endian : Endian) (hlen : (ranges.flatMap (clip all)).length < 2 ^ 60) :
    s.finalize endian = Sha1.hash (ranges.flatMap (clip all) ++ endian.toNeBytes s.fileSize) := by
  obtain ⟨pieces, hhasher, hpieces⟩ := hs.hasher
  have height : (endian.toNeBytes s.fileSize).length = 8 := by
    cases endian <;> simp [Endian.toNeBytes]
  have hfed := hdigest.finalize (pieces ++ [endian.toNeBytes s.fileSize]) (by
    rw [List.flatten_append, List.flatten_singleton, List.length_append, hpieces, height]
    omega)
  rw [List.foldl_append, ← hhasher, List.flatten_append, List.flatten_singleton, hpieces] at hfed
  exact hfed

/-- **The digest of a file**: of all of it and its size under 30 MiB, of
three ranges in order and its size from there on, whatever the chunks. -/
theorem run_chunks (hdigest : digest.Incremental) (endian : Endian) (chunks : List Bytes)
    (hlen : chunks.flatten.length < 2 ^ 64) :
    (∃ s, new digest chunks.flatten.length = .ok s ∧ Ascending s.ranges) ∧
    run digest endian chunks.flatten.length chunks =
      .ok (Sha1.hash (sampled chunks.flatten ++ endian.toNeBytes chunks.flatten.length)) := by
  have hnew : new digest chunks.flatten.length = .ok _ := new_ok hlen
  refine ⟨⟨_, hnew, rangesOf_ascending _⟩, ?_⟩
  have hempty : (rangesOf chunks.flatten.length).flatMap (clip []) = [] :=
    List.flatMap_eq_nil_iff.mpr fun _ _ => clip_eq_nil (Nat.zero_le _)
  have hstart : Sound (rangesOf chunks.flatten.length)
      ({ fileSize := chunks.flatten.length, ranges := rangesOf chunks.flatten.length, hasher := digest.default,
         offset := 0 } : TriSha1 digest) [] := ⟨rfl, rfl, [], rfl, hempty.symm⟩
  obtain ⟨s, hs, hsize, hsound⟩ := Sound.updates (rangesOf_ascending _) (rangesOf_lt hlen) chunks hstart
    (by rwa [List.nil_append])
  rw [List.nil_append] at hsound
  have hfinal := hsound.finalize hdigest endian (by rw [flatMap_clip_rangesOf]; exact sampled_length_lt _)
  rw [flatMap_clip_rangesOf, hsize] at hfinal
  simp only [run, hnew, hs, Outcome.ok_bind, Outcome.pure_eq, hfinal]

end TriSha1

/-- The digest that keeps what it was fed. -/
def Sha1Digest.lists : Sha1Digest where
  Sha1 := Bytes
  default := []
  update fed bytes := fed ++ bytes
  finalize := Sha1.hash

theorem Sha1Digest.lists_foldl (pieces : List Bytes) :
    ∀ fed : Bytes, pieces.foldl (fun fed bytes => fed ++ bytes) fed = fed ++ pieces.flatten := by
  induction pieces with
  | nil => intro fed; rw [List.foldl_nil, List.flatten_nil, List.append_nil]
  | cons bytes pieces ih => intro fed; rw [List.foldl_cons, ih, List.flatten_cons, List.append_assoc]

theorem Sha1Digest.lists_incremental : Sha1Digest.lists.Incremental where
  finalize pieces _ := congrArg Sha1.hash (lists_foldl pieces [])

/-- A file of three bytes in two chunks. -/
theorem TriSha1.run_chunks_three :
    (∃ s, TriSha1.new Sha1Digest.lists 3 = .ok s ∧ Ascending s.ranges) ∧
    TriSha1.run Sha1Digest.lists .little 3 [[0x61], [0x62, 0x63]] =
      .ok (Sha1.hash [0x61, 0x62, 0x63, 3, 0, 0, 0, 0, 0, 0, 0]) :=
  TriSha1.run_chunks Sha1Digest.lists_incremental .little [[0x61], [0x62, 0x63]] (by decide)

end Mania
