/-
UTF-8 as Rust's strings use it: the bytes of a string, and the two ways of
making a string from bytes. `from_utf8` refuses ill-formed bytes;
`from_utf8_lossy` puts U+FFFD for each maximal ill-formed stretch: a lead
byte with the tails that could still follow it, or one byte that starts
nothing. And parsing an unsigned integer from a string.
-/
import Mania.Lib.Bytes

namespace Utf8

/-- `str::as_bytes`. -/
def encode (s : String) : Bytes := s.toList.flatMap String.utf8EncodeChar

/-- What lead byte `a` starts: how many tails, the range of the first of
them, and the lead's own bits. -/
def lead (a : Nat) : Option (Nat × Nat × Nat × Nat) :=
  if 0xC2 ≤ a ∧ a ≤ 0xDF then some (1, 0x80, 0xBF, a - 0xC0)
  else if a = 0xE0 then some (2, 0xA0, 0xBF, a - 0xE0)
  else if a = 0xED then some (2, 0x80, 0x9F, a - 0xE0)
  else if 0xE1 ≤ a ∧ a ≤ 0xEF then some (2, 0x80, 0xBF, a - 0xE0)
  else if a = 0xF0 then some (3, 0x90, 0xBF, a - 0xF0)
  else if 0xF1 ≤ a ∧ a ≤ 0xF3 then some (3, 0x80, 0xBF, a - 0xF0)
  else if a = 0xF4 then some (3, 0x80, 0x8F, a - 0xF0)
  else none

/-- `k` tails, the first between `lo` and `hi`, after the bits `v`: the
character if all are there, and what is left. -/
def tails : Nat → Nat → Nat → Nat → Bytes → Option Char × Bytes
  | 0, _, _, v, bs => (some (Char.ofNat v), bs)
  | k + 1, lo, hi, v, b :: bs =>
    if lo ≤ b.toNat ∧ b.toNat ≤ hi then tails k 0x80 0xBF (v * 64 + (b.toNat - 0x80)) bs
    else (none, b :: bs)
  | _ + 1, _, _, _, [] => (none, [])

/-- The character (or ill-formed stretch) at the front of `a :: bs`. -/
def next (a : UInt8) (bs : Bytes) : Option Char × Bytes :=
  if a.toNat < 0x80 then (some (Char.ofNat a.toNat), bs)
  else match lead a.toNat with
    | some (k, lo, hi, v) => tails k lo hi v bs
    | none => (none, bs)

/-- At most `n` characters and ill-formed stretches of `bs`. -/
def scan : Nat → Bytes → List (Option Char)
  | n + 1, a :: bs => (next a bs).1 :: scan n (next a bs).2
  | _, _ => []

/-- The characters of `bs`, with a `none` for each maximal ill-formed stretch. -/
def decode (bs : Bytes) : List (Option Char) := scan bs.length bs

/-- `String::from_utf8_lossy`. -/
def fromUtf8Lossy (bs : Bytes) : String := String.ofList ((decode bs).map (·.getD '\uFFFD'))

/-- `String::from_utf8(bytes).ok()`. -/
def fromUtf8 (bs : Bytes) : Option String := ((decode bs).mapM id).map String.ofList

/-- What the error of `String::from_utf8` says of the first ill-formed
stretch, from index `i` on. -/
def errorFrom : Nat → Nat → Bytes → String
  | n + 1, i, a :: bs =>
    match next a bs with
    | (some _, rest) => errorFrom n (i + (bs.length + 1 - rest.length)) rest
    | (none, rest) =>
      if (lead a.toNat).isSome ∧ rest = [] then "incomplete utf-8 byte sequence from index " ++ toString i
      else "invalid utf-8 sequence of " ++ toString (bs.length + 1 - rest.length) ++ " bytes from index " ++ toString i
  | _, _, _ => ""

/-- The text of a `FromUtf8Error`. -/
def error (bs : Bytes) : String := errorFrom bs.length 0 bs

theorem char_valid (c : Char) : c.toNat < 0xD800 ∨ (0xDFFF < c.toNat ∧ c.toNat < 0x110000) := c.valid

theorem tails_zero (lo hi v : Nat) (bs : Bytes) : tails 0 lo hi v bs = (some (Char.ofNat v), bs) := by
  simp only [tails]

theorem tails_succ {k lo hi v t : Nat} (bs : Bytes) (ht : t < 256) (hlo : lo ≤ t ∧ t ≤ hi) :
    tails (k + 1) lo hi v (UInt8.ofNat t :: bs) = tails k 0x80 0xBF (v * 64 + (t - 0x80)) bs := by
  have htn : (UInt8.ofNat t).toNat = t := UInt8.toNat_ofNat_of_lt' ht
  simp only [tails, htn, if_pos hlo]

theorem next_lead {a k lo hi v : Nat} (bs : Bytes) (ha : a < 256) (h80 : 0x80 ≤ a)
    (hl : lead a = some (k, lo, hi, v)) : next (UInt8.ofNat a) bs = tails k lo hi v bs := by
  have han : (UInt8.ofNat a).toNat = a := UInt8.toNat_ofNat_of_lt' ha
  simp only [next, han, if_neg (Nat.not_lt.mpr h80), hl]

/-- The lead byte of a character of three bytes, and the range of its second. -/
theorem lead_three {n : Nat} (hlow : ¬ n ≤ 0x7ff) (hhigh : n ≤ 0xffff)
    (hv : n < 0xD800 ∨ (0xDFFF < n ∧ n < 0x110000)) :
    ∃ lo hi, lead (n / 4096 % 0x10 + 0xe0) = some (2, lo, hi, n / 4096 % 0x10 + 0xe0 - 0xE0) ∧
      lo ≤ n / 64 % 0x40 + 0x80 ∧ n / 64 % 0x40 + 0x80 ≤ hi := by
  rw [lead, if_neg (by omega)]
  split
  · exact ⟨_, _, rfl, by omega⟩
  split
  · exact ⟨_, _, rfl, by omega⟩
  rw [if_pos (by omega)]
  exact ⟨_, _, rfl, by omega⟩

/-- The lead byte of a character of four bytes. -/
theorem lead_four {n : Nat} (hlow : ¬ n ≤ 0xffff) (hv : n < 0xD800 ∨ (0xDFFF < n ∧ n < 0x110000)) :
    ∃ lo hi, lead (n / 262144 % 0x08 + 0xf0) = some (3, lo, hi, n / 262144 % 0x08 + 0xf0 - 0xF0) ∧
      lo ≤ n / 4096 % 0x40 + 0x80 ∧ n / 4096 % 0x40 + 0x80 ≤ hi := by
  rw [lead, if_neg (by omega), if_neg (by omega), if_neg (by omega), if_neg (by omega)]
  split
  · exact ⟨_, _, rfl, by omega⟩
  split
  · exact ⟨_, _, rfl, by omega⟩
  rw [if_pos (by omega)]
  exact ⟨_, _, rfl, by omega⟩

/-- A character's encoding reads back as the character. -/
theorem scan_utf8EncodeChar (n : Nat) (c : Char) (bs : Bytes) :
    scan (n + 1) (String.utf8EncodeChar c ++ bs) = some c :: scan n bs := by
  have hv := char_valid c
  have hc : Char.ofNat c.toNat = c := Char.ofNat_toNat c
  suffices h : ∃ a as, String.utf8EncodeChar c = a :: as ∧ next a (as ++ bs) = (some c, bs) by
    obtain ⟨a, as, he, hn⟩ := h
    rw [he, List.cons_append, scan, hn]
  unfold String.utf8EncodeChar
  change ∃ a as, (if c.toNat ≤ 0x7f then _ else if c.toNat ≤ 0x7ff then _ else
    if c.toNat ≤ 0xffff then _ else _) = a :: as ∧ _
  split
  · refine ⟨_, _, rfl, ?_⟩
    have h8 : (UInt8.ofNat c.toNat).toNat = c.toNat := UInt8.toNat_ofNat_of_lt' (show c.toNat < 256 by omega)
    change next (UInt8.ofNat c.toNat) _ = _
    rw [next, h8, if_pos (by omega), hc]
    rfl
  split
  · refine ⟨_, _, rfl, ?_⟩
    change next (UInt8.ofNat (c.toNat / 64 % 0x20 + 0xc0)) (UInt8.ofNat (c.toNat % 0x40 + 0x80) :: bs) = _
    rw [next_lead _ (by omega) (by omega) (by rw [lead, if_pos (by omega)]),
      tails_succ _ (by omega) (by omega), tails_zero,
      show (c.toNat / 64 % 0x20 + 0xc0 - 0xC0) * 64 + (c.toNat % 0x40 + 0x80 - 0x80) = c.toNat by omega, hc]
  split
  · refine ⟨_, _, rfl, ?_⟩
    change next (UInt8.ofNat (c.toNat / 4096 % 0x10 + 0xe0)) (UInt8.ofNat (c.toNat / 64 % 0x40 + 0x80) ::
      UInt8.ofNat (c.toNat % 0x40 + 0x80) :: bs) = _
    obtain ⟨lo, hi, hl, hlo⟩ := lead_three ‹¬ c.toNat ≤ 0x7ff› ‹c.toNat ≤ 0xffff› hv
    rw [next_lead _ (by omega) (by omega) hl, tails_succ _ (by omega) hlo,
      tails_succ _ (by omega) (by omega), tails_zero,
      show ((c.toNat / 4096 % 0x10 + 0xe0 - 0xE0) * 64 + (c.toNat / 64 % 0x40 + 0x80 - 0x80)) * 64 +
        (c.toNat % 0x40 + 0x80 - 0x80) = c.toNat by omega, hc]
  · refine ⟨_, _, rfl, ?_⟩
    change next (UInt8.ofNat (c.toNat / 262144 % 0x08 + 0xf0)) (UInt8.ofNat (c.toNat / 4096 % 0x40 + 0x80) ::
      UInt8.ofNat (c.toNat / 64 % 0x40 + 0x80) :: UInt8.ofNat (c.toNat % 0x40 + 0x80) :: bs) = _
    obtain ⟨lo, hi, hl, hlo⟩ := lead_four ‹¬ c.toNat ≤ 0xffff› hv
    rw [next_lead _ (by omega) (by omega) hl, tails_succ _ (by omega) hlo,
      tails_succ _ (by omega) (by omega), tails_succ _ (by omega) (by omega), tails_zero,
      show (((c.toNat / 262144 % 0x08 + 0xf0 - 0xF0) * 64 + (c.toNat / 4096 % 0x40 + 0x80 - 0x80)) * 64 +
        (c.toNat / 64 % 0x40 + 0x80 - 0x80)) * 64 + (c.toNat % 0x40 + 0x80 - 0x80) = c.toNat by omega, hc]

theorem scan_encode {n : Nat} {cs : List Char} (hn : cs.length ≤ n) :
    scan n (cs.flatMap String.utf8EncodeChar) = cs.map some := by
  induction cs generalizing n with
  | nil => cases n <;> rfl
  | cons c cs ih =>
    obtain ⟨n, rfl⟩ : ∃ m, n = m + 1 := ⟨n - 1, by simp at hn; omega⟩
    rw [List.flatMap_cons, scan_utf8EncodeChar, ih (by simpa using hn), List.map_cons]

theorem length_le_encode (s : String) : s.toList.length ≤ (encode s).length := by
  rw [encode]
  induction s.toList with
  | nil => simp
  | cons c cs ih =>
    have h1 : 0 < (String.utf8EncodeChar c).length := by
      rw [String.length_utf8EncodeChar]
      exact c.utf8Size_pos
    simp only [List.flatMap_cons, List.length_append, List.length_cons]
    omega

theorem decode_encode (s : String) : decode (encode s) = s.toList.map some :=
  scan_encode (length_le_encode s)

@[simp] theorem fromUtf8Lossy_encode (s : String) : fromUtf8Lossy (encode s) = s := by
  simp [fromUtf8Lossy, decode_encode, Function.comp_def]

@[simp] theorem fromUtf8_encode (s : String) : fromUtf8 (encode s) = some s := by
  have h : (s.toList.map some).mapM id = some s.toList := by
    rw [List.mapM_map]
    exact (List.mapM_pure (m := Option) (l := s.toList) (f := id)).trans (by simp)
  rw [fromUtf8, decode_encode, h, Option.map_some, String.ofList_toList]

end Utf8

/-! ## Integers -/

/-- Without the one `+` an integer may start with. -/
def stripPlus : List Char → List Char
  | '+' :: c :: cs => c :: cs
  | cs => cs

/-- `str::parse::<u32>().ok()`: decimal digits after at most one `+`. -/
def parseU32 (s : String) : Option UInt32 :=
  let digits := stripPlus s.toList
  if digits ≠ [] ∧ digits.all Char.isDigit ∧ Nat.ofDigitChars 10 digits 0 < 2 ^ 32 then
    some (UInt32.ofNat (Nat.ofDigitChars 10 digits 0))
  else none

/-- `n` in decimal, after `zeros` leading zeros. -/
def decimal (zeros n : Nat) : String := String.ofList (List.replicate zeros '0' ++ Nat.toDigits 10 n)

theorem stripPlus_of_isDigit {ds : List Char} (h : ∀ c ∈ ds, c.isDigit = true) : stripPlus ds = ds := by
  unfold stripPlus
  split
  · have hplus := h '+' (by simp)
    simp at hplus
  · rfl

theorem decimal_isDigit {zeros n : Nat} {c : Char} (hc : c ∈ List.replicate zeros '0' ++ Nat.toDigits 10 n) :
    c.isDigit = true := by
  rcases List.mem_append.mp hc with hc | hc
  · rw [List.eq_of_mem_replicate hc]
    rfl
  · exact Nat.isDigit_of_mem_toDigits (by decide) (by decide) hc

@[simp] theorem parseU32_decimal (zeros : Nat) (n : UInt32) : parseU32 (decimal zeros n.toNat) = some n := by
  have hlt := n.toNat_lt
  have hdig : ∀ c ∈ List.replicate zeros '0' ++ Nat.toDigits 10 n.toNat, c.isDigit = true :=
    fun c hc => decimal_isDigit hc
  have hne : List.replicate zeros '0' ++ Nat.toDigits 10 n.toNat ≠ [] := by
    simp [Nat.toDigits_ne_nil]
  have hval : Nat.ofDigitChars 10 (List.replicate zeros '0' ++ Nat.toDigits 10 n.toNat) 0 = n.toNat := by
    rw [Nat.ofDigitChars_append, Nat.ofDigitChars_replicate_zero, Nat.mul_zero, Nat.ofDigitChars_ten_toDigits]
  rw [parseU32, decimal, String.toList_ofList, stripPlus_of_isDigit hdig, hval,
    if_pos ⟨hne, List.all_eq_true.mpr hdig, hlt⟩, UInt32.ofNat_toNat]
