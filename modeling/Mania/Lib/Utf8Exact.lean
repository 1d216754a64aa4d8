/-
`String::from_utf8` keeps the bytes: what it makes a string of is the
string's encoding (`encode_of_fromUtf8`).
-/
import Mania.Lib.Str

namespace Utf8

/-- A lead byte, by the number of its tails. -/
theorem lead_eq_some {a k lo hi v : Nat} (h : lead a = some (k, lo, hi, v)) :
    (k = 1 ∧ lo = 0x80 ∧ hi = 0xBF ∧ v = a - 0xC0 ∧ 0xC2 ≤ a ∧ a ≤ 0xDF) ∨
    (k = 2 ∧ v = a - 0xE0 ∧ 0xE0 ≤ a ∧ a ≤ 0xEF ∧ 0x80 ≤ lo ∧ hi ≤ 0xBF ∧ (a = 0xE0 → 0xA0 ≤ lo) ∧
      (a = 0xED → hi ≤ 0x9F)) ∨
    (k = 3 ∧ v = a - 0xF0 ∧ 0xF0 ≤ a ∧ a ≤ 0xF4 ∧ 0x80 ≤ lo ∧ hi ≤ 0xBF ∧ (a = 0xF0 → 0x90 ≤ lo) ∧
      (a = 0xF4 → hi ≤ 0x8F)) := by
  rw [lead] at h
  repeat' split at h
  all_goals cases h <;> omega

theorem tails_eq_some {k lo hi v : Nat} {bs rest : Bytes} {c : Char} (h : tails (k + 1) lo hi v bs = (some c, rest)) :
    ∃ b bs', bs = b :: bs' ∧ lo ≤ b.toNat ∧ b.toNat ≤ hi ∧
      tails k 0x80 0xBF (v * 64 + (b.toNat - 0x80)) bs' = (some c, rest) := by
  cases bs with
  | nil => cases h
  | cons b bs' =>
    rw [tails] at h
    split at h
    case isTrue hb => exact ⟨b, bs', rfl, hb.1, hb.2, h⟩
    case isFalse => cases h

theorem utf8EncodeChar_ofNat {n : Nat} (h : n.isValidChar) : String.utf8EncodeChar (Char.ofNat n) =
    if n ≤ 0x7f then [UInt8.ofNat n]
    else if n ≤ 0x7ff then [UInt8.ofNat (n / 64 % 0x20 + 0xc0), UInt8.ofNat (n % 0x40 + 0x80)]
    else if n ≤ 0xffff then
      [UInt8.ofNat (n / 4096 % 0x10 + 0xe0), UInt8.ofNat (n / 64 % 0x40 + 0x80), UInt8.ofNat (n % 0x40 + 0x80)]
    else [UInt8.ofNat (n / 262144 % 0x08 + 0xf0), UInt8.ofNat (n / 4096 % 0x40 + 0x80),
      UInt8.ofNat (n / 64 % 0x40 + 0x80), UInt8.ofNat (n % 0x40 + 0x80)] := by
  have hn : (Char.ofNat n).toNat = n := by
    rw [Char.ofNat, dif_pos h]
    rfl
  have henc : ∀ c : Char, String.utf8EncodeChar c =
      if c.toNat ≤ 0x7f then [UInt8.ofNat c.toNat]
      else if c.toNat ≤ 0x7ff then [UInt8.ofNat (c.toNat / 64 % 0x20 + 0xc0), UInt8.ofNat (c.toNat % 0x40 + 0x80)]
      else if c.toNat ≤ 0xffff then [UInt8.ofNat (c.toNat / 4096 % 0x10 + 0xe0),
        UInt8.ofNat (c.toNat / 64 % 0x40 + 0x80), UInt8.ofNat (c.toNat % 0x40 + 0x80)]
      else [UInt8.ofNat (c.toNat / 262144 % 0x08 + 0xf0), UInt8.ofNat (c.toNat / 4096 % 0x40 + 0x80),
        UInt8.ofNat (c.toNat / 64 % 0x40 + 0x80), UInt8.ofNat (c.toNat % 0x40 + 0x80)] := fun _ => rfl
  rw [henc, hn]

theorem next_ascii {a : UInt8} (bs : Bytes) (ha : a.toNat < 0x80) : next a bs = (some (Char.ofNat a.toNat), bs) := by
  rw [next, if_pos ha]

theorem encode_ascii {a : UInt8} (ha : a.toNat < 0x80) : String.utf8EncodeChar (Char.ofNat a.toNat) = [a] := by
  have hvalid : a.toNat.isValidChar := by
    rw [Nat.isValidChar]
    omega
  rw [utf8EncodeChar_ofNat hvalid, if_pos (by omega), UInt8.ofNat_toNat]

/-- The last tail of a number, and what is in front of it. -/
theorem tail_digits {q t n : Nat} (ht : 0x80 ≤ t) (ht' : t ≤ 0xBF) (hn : n = q * 64 + (t - 0x80)) :
    n / 64 = q ∧ n % 0x40 + 0x80 = t := by omega

theorem encode_two {a b n : Nat} (ha : 0xC2 ≤ a) (ha' : a ≤ 0xDF) (hb : 0x80 ≤ b) (hb' : b ≤ 0xBF)
    (hn : n = (a - 0xC0) * 64 + (b - 0x80)) :
    String.utf8EncodeChar (Char.ofNat n) = [UInt8.ofNat a, UInt8.ofNat b] := by
  have hvalid : n.isValidChar := by
    rw [Nat.isValidChar]
    omega
  obtain ⟨hfront, htail⟩ := tail_digits hb hb' hn
  have hlead : (a - 0xC0) % 0x20 + 0xc0 = a := by omega
  rw [utf8EncodeChar_ofNat hvalid, if_neg (by omega), if_pos (by omega), hfront, hlead, htail]

theorem encode_three {a b c n : Nat} (ha : 0xE0 ≤ a) (ha' : a ≤ 0xEF) (hb : 0x80 ≤ b) (hb' : b ≤ 0xBF)
    (he0 : a = 0xE0 → 0xA0 ≤ b) (hed : a = 0xED → b ≤ 0x9F) (hc : 0x80 ≤ c) (hc' : c ≤ 0xBF)
    (hn : n = ((a - 0xE0) * 64 + (b - 0x80)) * 64 + (c - 0x80)) :
    String.utf8EncodeChar (Char.ofNat n) = [UInt8.ofNat a, UInt8.ofNat b, UInt8.ofNat c] := by
  have hvalid : n.isValidChar := by
    rw [Nat.isValidChar]
    omega
  obtain ⟨hfront₂, htail₂⟩ := tail_digits hc hc' hn
  obtain ⟨hfront₁, htail₁⟩ := tail_digits hb hb' rfl
  have hshift : n / 4096 = n / 64 / 64 := (Nat.div_div_eq_div_mul n 64 64).symm
  have hlead : (a - 0xE0) % 0x10 + 0xe0 = a := by omega
  rw [utf8EncodeChar_ofNat hvalid, if_neg (by omega), if_neg (by omega), if_pos (by omega), hshift, hfront₂, hfront₁,
    hlead, htail₁, htail₂]

theorem encode_four {a b c d n : Nat} (ha : 0xF0 ≤ a) (ha' : a ≤ 0xF4) (hb : 0x80 ≤ b) (hb' : b ≤ 0xBF)
    (hf0 : a = 0xF0 → 0x90 ≤ b) (hf4 : a = 0xF4 → b ≤ 0x8F) (hc : 0x80 ≤ c) (hc' : c ≤ 0xBF) (hd : 0x80 ≤ d)
    (hd' : d ≤ 0xBF) (hn : n = (((a - 0xF0) * 64 + (b - 0x80)) * 64 + (c - 0x80)) * 64 + (d - 0x80)) :
    String.utf8EncodeChar (Char.ofNat n) = [UInt8.ofNat a, UInt8.ofNat b, UInt8.ofNat c, UInt8.ofNat d] := by
  have hlow : 0x10000 ≤ n := by omega
  have hvalid : n.isValidChar := by
    rw [Nat.isValidChar]
    omega
  obtain ⟨hfront₃, htail₃⟩ := tail_digits hd hd' hn
  obtain ⟨hfront₂, htail₂⟩ := tail_digits hc hc' rfl
  obtain ⟨hfront₁, htail₁⟩ := tail_digits hb hb' rfl
  have hshift₂ : n / 4096 = n / 64 / 64 := (Nat.div_div_eq_div_mul n 64 64).symm
  have hshift₃ : n / 262144 = n / 64 / 64 / 64 := by rw [← hshift₂, Nat.div_div_eq_div_mul]
  have hlead : (a - 0xF0) % 0x08 + 0xf0 = a := by omega
  rw [utf8EncodeChar_ofNat hvalid, if_neg (by omega), if_neg (by omega), if_neg (by omega), hshift₃, hshift₂, hfront₃,
    hfront₂, hfront₁, hlead, htail₁, htail₂, htail₃]

/-- The bytes a character is read from are its encoding. -/
theorem next_eq_some {a : UInt8} {bs rest : Bytes} {c : Char} (h : next a bs = (some c, rest)) :
    a :: bs = String.utf8EncodeChar c ++ rest := by
  by_cases hascii : a.toNat < 0x80
  · rw [next_ascii bs hascii] at h
    cases h
    rw [encode_ascii hascii, List.singleton_append]
  rw [next, if_neg hascii] at h
  split at h
  case h_2 => cases h
  case h_1 k lo hi v hlead =>
    rcases lead_eq_some hlead with ⟨hk, hlo, hhi, hv, ha, ha'⟩ | ⟨hk, hv, ha, ha', hlo, hhi, he0, hed⟩ |
      ⟨hk, hv, ha, ha', hlo, hhi, hf0, hf4⟩ <;> subst hk
    · obtain ⟨t, bs', rfl, ht, ht', h⟩ := tails_eq_some h
      rw [tails_zero, Prod.mk.injEq, Option.some.injEq] at h
      rw [← h.1, ← h.2]
      rw [encode_two (b := t.toNat) ha ha' (by omega) (by omega) (by rw [hv])]
      simp
    · obtain ⟨t, bs', rfl, ht, ht', h⟩ := tails_eq_some h
      obtain ⟨u, bs', rfl, hu, hu', h⟩ := tails_eq_some h
      rw [tails_zero, Prod.mk.injEq, Option.some.injEq] at h
      rw [← h.1, ← h.2]
      rw [encode_three (b := t.toNat) (c := u.toNat) ha ha' (by omega) (by omega) (by omega) (by omega) hu hu'
        (by rw [hv])]
      simp
    · obtain ⟨t, bs', rfl, ht, ht', h⟩ := tails_eq_some h
      obtain ⟨u, bs', rfl, hu, hu', h⟩ := tails_eq_some h
      obtain ⟨w, bs', rfl, hw, hw', h⟩ := tails_eq_some h
      rw [tails_zero, Prod.mk.injEq, Option.some.injEq] at h
      rw [← h.1, ← h.2]
      rw [encode_four (b := t.toNat) (c := u.toNat) (d := w.toNat) ha ha' (by omega) (by omega) (by omega) (by omega)
        hu hu' hw hw' (by rw [hv])]
      simp

/-- Characters read from bytes, up to the end of them. -/
theorem encode_scan {n : Nat} {bs : Bytes} {cs : List Char} (hn : bs.length ≤ n) (h : (scan n bs).mapM id = some cs) :
    cs.flatMap String.utf8EncodeChar = bs := by
  induction n generalizing bs cs with
  | zero =>
    obtain rfl : bs = [] := List.eq_nil_of_length_eq_zero (Nat.le_zero.mp hn)
    cases h
    rfl
  | succ n ih =>
    cases bs with
    | nil =>
      cases h
      rfl
    | cons a bs =>
      rw [scan, List.mapM_cons] at h
      obtain ⟨c, hc, h⟩ := Option.bind_eq_some_iff.mp h
      obtain ⟨cs', hcs', h⟩ := Option.bind_eq_some_iff.mp h
      cases h
      have hnext : next a bs = (some c, (next a bs).2) := Prod.ext hc rfl
      have hbytes := next_eq_some hnext
      have hlen : (next a bs).2.length ≤ bs.length := by
        have hcount := congrArg List.length hbytes
        have hpos := c.utf8Size_pos
        rw [List.length_cons, List.length_append, String.length_utf8EncodeChar] at hcount
        omega
      rw [List.flatMap_cons, ih (by rw [List.length_cons] at hn; omega) hcs', ← hbytes]

/-- The string's encoding is what it was made of. -/
theorem encode_of_fromUtf8 {bs : Bytes} {s : String} (h : fromUtf8 bs = some s) : encode s = bs := by
  obtain ⟨cs, hcs, rfl⟩ := Option.map_eq_some_iff.mp h
  rw [encode, String.toList_ofList]
  exact encode_scan (Nat.le_refl _) hcs

/-! ## Well-formed and ill-formed fronts -/

theorem fromUtf8_ascii_isSome {a : UInt8} (ha : a.toNat < 0x80) (bs : Bytes) :
    (fromUtf8 (a :: bs)).isSome = (fromUtf8 bs).isSome := by
  simp only [fromUtf8, decode, List.length_cons, scan, next_ascii bs ha, List.mapM_cons, Option.isSome_map]
  cases (scan bs.length bs).mapM id <;> rfl

theorem fromUtf8_cons_none {a : UInt8} {bs : Bytes} (h : (next a bs).1 = none) : fromUtf8 (a :: bs) = none := by
  simp only [fromUtf8, decode, List.length_cons, scan, h, List.mapM_cons]
  rfl

/-- A lead byte and no tail after it. -/
theorem next_untailed {a b : UInt8} (ha : 0x80 ≤ a.toNat) (hb : b.toNat < 0x80) (bs : Bytes) :
    (next a (b :: bs)).1 = none := by
  rw [next, if_neg (by omega)]
  split
  case h_2 => rfl
  case h_1 k lo hi v hlead =>
    have htail : ∃ k', k = k' + 1 ∧ 0x80 ≤ lo := by
      rcases lead_eq_some hlead with ⟨hk, hlo, _⟩ | ⟨hk, _, _, _, hlo, _⟩ | ⟨hk, _, _, _, hlo, _⟩
      · exact ⟨0, hk, by omega⟩
      · exact ⟨1, hk, hlo⟩
      · exact ⟨2, hk, hlo⟩
    obtain ⟨k', rfl, hlo⟩ := htail
    rw [tails, if_neg (by omega)]

/-- A tail and no lead byte before it. -/
theorem next_unled {a : UInt8} (ha : 0x80 ≤ a.toNat) (ha' : a.toNat < 0xC2) (bs : Bytes) : (next a bs).1 = none := by
  rw [next, if_neg (by omega)]
  split
  case h_2 => rfl
  case h_1 k lo hi v hlead =>
    rcases lead_eq_some hlead with ⟨_, _, _, _, hlow, _⟩ | ⟨_, _, hlow, _⟩ | ⟨_, _, hlow, _⟩ <;> omega

end Utf8
