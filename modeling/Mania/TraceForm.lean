/-
The trace identifier of a request (`random_trace`): 16 and 8 drawn bytes,
each in hexadecimal. `{:x}` pads nothing, so a byte below 16 is one digit;
the identifier has its fixed form exactly where none is drawn
(`randomTrace_iff`).
-/
import Mania.SsoBuild

namespace Mania

open HexString

/-! ## Digits -/

def IsLowerHex (c : Char) : Prop := ('0' ≤ c ∧ c ≤ '9') ∨ ('a' ≤ c ∧ c ≤ 'f')

instance (c : Char) : Decidable (IsLowerHex c) := inferInstanceAs (Decidable (_ ∨ _))

/-- `{:x}` of a list of bytes, one after the other. -/
def digits (bs : Bytes) : List Char := bs.flatMap fun b => Nat.toDigits 16 b.toNat

def hexDigits (bs : Bytes) : List Char := bs.flatMap fun b => [hexDigit (b.toNat / 16), hexDigit (b.toNat % 16)]

theorem hexDigit_lower : ∀ n : Fin 16, IsLowerHex (hexDigit n) := by decide

theorem toDigits_cases : ∀ n : Fin 256, (16 ≤ n.val ∧ Nat.toDigits 16 n = [hexDigit (n / 16), hexDigit (n % 16)]) ∨
    (n.val < 16 ∧ Nat.toDigits 16 n = [hexDigit n]) := by
  decide +kernel

/-- A byte of 16 or more is two digits, a smaller one is one digit. -/
theorem digits_cases (b : UInt8) :
    (16 ≤ b.toNat ∧ digits [b] = hexDigits [b]) ∨ (b.toNat < 16 ∧ (digits [b]).length = 1) := by
  rcases toDigits_cases ⟨b.toNat, b.toNat_lt⟩ with ⟨h, hb⟩ | ⟨h, hb⟩
  · exact .inl ⟨h, by rw [digits, hexDigits, List.flatMap_cons, List.flatMap_cons]; exact congrArg (· ++ []) hb⟩
  · exact .inr ⟨h, by rw [digits, List.flatMap_cons]; exact congrArg (fun ds => (ds ++ []).length) hb⟩

theorem digits_cons (b : UInt8) (bs : Bytes) : digits (b :: bs) = digits [b] ++ digits bs := by
  simp [digits]

theorem hexDigits_cons (b : UInt8) (bs : Bytes) : hexDigits (b :: bs) = hexDigits [b] ++ hexDigits bs := by
  simp [hexDigits]

theorem hexDigits_length (bs : Bytes) : (hexDigits bs).length = 2 * bs.length := by
  induction bs with
  | nil => rfl
  | cons b bs ih =>
    have hpair : (hexDigits [b]).length = 2 := rfl
    rw [hexDigits_cons, List.length_append, hpair, ih, List.length_cons]
    omega

theorem hexDigits_lower {bs : Bytes} {c : Char} (h : c ∈ hexDigits bs) : IsLowerHex c := by
  obtain ⟨b, _, hc⟩ := List.mem_flatMap.mp h
  have hb := b.toNat_lt
  rcases List.mem_cons.mp hc with rfl | hc
  · exact hexDigit_lower ⟨b.toNat / 16, by omega⟩
  · rw [List.mem_singleton.mp hc]
    exact hexDigit_lower ⟨b.toNat % 16, Nat.mod_lt _ (by decide)⟩

theorem hexDigits_eq (bs : Bytes) : hexDigits bs = (hex bs).toList := by
  rw [hex, String.toList_ofList, hexDigits]

theorem digits_eq {bs : Bytes} (h : ∀ b ∈ bs, 16 ≤ b.toNat) : digits bs = hexDigits bs := by
  induction bs with
  | nil => rfl
  | cons b bs ih =>
    have hb := h b List.mem_cons_self
    rcases digits_cases b with ⟨_, hdigits⟩ | ⟨hlt, _⟩
    · rw [digits_cons, hexDigits_cons, hdigits, ih fun b' hb' => h b' (List.mem_cons_of_mem b hb')]
    · omega

theorem digits_length_le (bs : Bytes) : (digits bs).length ≤ 2 * bs.length := by
  induction bs with
  | nil => exact Nat.le_refl 0
  | cons b bs ih =>
    have hpair := hexDigits_length [b]
    rw [digits_cons, List.length_append, List.length_cons]
    rcases digits_cases b with ⟨_, hdigits⟩ | ⟨_, hone⟩
    · rw [hdigits, hpair, List.length_singleton]
      omega
    · omega

/-- Two digits throughout: no byte is below 16. -/
theorem le_of_digits_length {bs : Bytes} (h : 2 * bs.length ≤ (digits bs).length) : ∀ b ∈ bs, 16 ≤ b.toNat := by
  induction bs with
  | nil => exact fun b hb => absurd hb List.not_mem_nil
  | cons b bs ih =>
    have hpair := hexDigits_length [b]
    have hle := digits_length_le bs
    rw [digits_cons, List.length_append, List.length_cons] at h
    rcases digits_cases b with ⟨hb, hdigits⟩ | ⟨_, hone⟩
    · rw [hdigits, hpair, List.length_singleton] at h
      intro b' hb'
      rcases List.mem_cons.mp hb' with rfl | hb'
      · exact hb
      · exact ih (by omega) b' hb'
    · omega

/-! ## The identifier -/

/-- The bytes drawn for the 32 digits. -/
def traceBytes (draws : Nat → UInt8) : Bytes := (List.range 16).map draws

/-- The bytes drawn for the 16 digits. -/
def spanBytes (draws : Nat → UInt8) : Bytes := (List.range 8).map fun i => draws (16 + i)

/-- The identifier whose digits are `trace` and `span`. -/
def identifier (trace span : List Char) : List Char := '0' :: '0' :: '-' :: (trace ++ '-' :: (span ++ ['-', '0', '1']))

theorem randomTrace_toList (draws : Nat → UInt8) :
    (randomTrace draws).toList = identifier (digits (traceBytes draws)) (digits (spanBytes draws)) := by
  simp [randomTrace, lowerHex, identifier, digits, traceBytes, spanBytes, List.flatMap_map]

theorem identifier_length (trace span : List Char) :
    (identifier trace span).length = trace.length + span.length + 7 := by
  simp [identifier]
  omega

theorem identifier_inj {trace span trace' span' : List Char} (hlen : trace.length = trace'.length)
    (h : identifier trace span = identifier trace' span') : trace = trace' ∧ span = span' := by
  simp only [identifier, List.cons.injEq, true_and] at h
  obtain ⟨htrace, hspan⟩ := List.append_inj h hlen
  simp only [List.cons.injEq, true_and] at hspan
  exact ⟨htrace, List.append_cancel_right hspan⟩

theorem forall_drawn {draws : Nat → UInt8} :
    (∀ i < 24, 16 ≤ (draws i).toNat) ↔
      (∀ b ∈ traceBytes draws, 16 ≤ b.toNat) ∧ ∀ b ∈ spanBytes draws, 16 ≤ b.toNat := by
  simp only [traceBytes, spanBytes, List.forall_mem_map, List.mem_range]
  constructor
  · intro h
    exact ⟨fun i hi => h i (by omega), fun i hi => h (16 + i) (by omega)⟩
  · rintro ⟨htrace, hspan⟩ i hi
    by_cases h16 : i < 16
    · exact htrace i h16
    · have hi' := hspan (i - 16) (by omega)
      rwa [Nat.add_sub_of_le (by omega)] at hi'

/-- An identifier of full length is drawn from bytes of 16 or more. -/
theorem drawn_of_length {draws : Nat → UInt8} (h : 55 ≤ (randomTrace draws).toList.length) :
    ∀ i < 24, 16 ≤ (draws i).toNat := by
  have htrace := digits_length_le (traceBytes draws)
  have hspan := digits_length_le (spanBytes draws)
  have htraceLen : (traceBytes draws).length = 16 := by simp [traceBytes]
  have hspanLen : (spanBytes draws).length = 8 := by simp [spanBytes]
  rw [randomTrace_toList, identifier_length] at h
  exact forall_drawn.mpr ⟨le_of_digits_length (by omega), le_of_digits_length (by omega)⟩

theorem randomTrace_of_drawn {draws : Nat → UInt8} (h : ∀ i < 24, 16 ≤ (draws i).toNat) :
    (randomTrace draws).toList = identifier (hexDigits (traceBytes draws)) (hexDigits (spanBytes draws)) := by
  obtain ⟨htrace, hspan⟩ := forall_drawn.mp h
  rw [randomTrace_toList, digits_eq htrace, digits_eq hspan]

/-- The fixed form, the digits it is made of, and no other bytes with the same identifier. -/
structure IsTrace (draws : Nat → UInt8) : Prop where
  form : ∃ trace span : String,
    randomTrace draws = "00-" ++ trace ++ "-" ++ span ++ "-01" ∧
      trace.toList.length = 32 ∧ span.toList.length = 16 ∧
      (∀ c ∈ trace.toList, IsLowerHex c) ∧ (∀ c ∈ span.toList, IsLowerHex c) ∧
      trace = hex ((List.range 16).map draws) ∧ span = hex ((List.range 8).map fun i => draws (16 + i))
  distinct : ∀ draws', randomTrace draws' = randomTrace draws → ∀ i < 24, draws' i = draws i

theorem same_of_randomTrace {draws draws' : Nat → UInt8} (h : ∀ i < 24, 16 ≤ (draws i).toNat)
    (heq : randomTrace draws' = randomTrace draws) : ∀ i < 24, draws' i = draws i := by
  have hform := randomTrace_of_drawn h
  have hlen : 55 ≤ (randomTrace draws').toList.length := by
    rw [heq, hform, identifier_length, hexDigits_length, hexDigits_length]
    simp [traceBytes, spanBytes]
  have hform' := randomTrace_of_drawn (drawn_of_length hlen)
  rw [heq, hform] at hform'
  obtain ⟨htrace, hspan⟩ := identifier_inj (by simp [hexDigits_length, traceBytes]) hform'
  rw [hexDigits_eq, hexDigits_eq, String.toList_inj] at htrace hspan
  have htrace := hex_injective htrace
  have hspan := hex_injective hspan
  simp only [traceBytes, spanBytes, List.map_inj_left, List.mem_range] at htrace hspan
  intro i hi
  by_cases h16 : i < 16
  · exact (htrace i h16).symm
  · have hi' := hspan (i - 16) (by omega)
    rw [Nat.add_sub_of_le (by omega)] at hi'
    exact hi'.symm

/-- **Trace identifiers** have their form, and tell the drawn bytes apart,
exactly where no byte below 16 is drawn. -/
theorem randomTrace_iff (draws : Nat → UInt8) : IsTrace draws ↔ ∀ i < 24, 16 ≤ (draws i).toNat := by
  constructor
  · rintro ⟨⟨trace, span, hform, htrace, hspan, _⟩, _⟩
    apply drawn_of_length
    rw [hform]
    simp only [String.toList_append, List.length_append, htrace, hspan]
    decide
  · intro h
    refine ⟨⟨_, _, ?_, ?_, ?_, ?_, ?_, rfl, rfl⟩, fun draws' => same_of_randomTrace h⟩
    · rw [← String.toList_inj, randomTrace_of_drawn h, hexDigits_eq, hexDigits_eq]
      simp [identifier, traceBytes, spanBytes]
    · rw [← hexDigits_eq, hexDigits_length]
      simp
    · rw [← hexDigits_eq, hexDigits_length]
      simp
    · rw [← hexDigits_eq]
      exact fun c => hexDigits_lower
    · rw [← hexDigits_eq]
      exact fun c => hexDigits_lower

/-- `0x11, 0x01` and `0x01, 0x11` are both written `111`. -/
theorem randomTrace_collides : ¬ ∀ draws, IsTrace draws := by
  intro h
  have hsame := (h fun i => if i = 0 then 0x11 else if i = 1 then 0x01 else 0xFF).distinct
    (fun i => if i = 0 then 0x01 else if i = 1 then 0x11 else 0xFF) (by decide +kernel) 0 (by decide)
  exact absurd hsame (by decide)

end Mania
