/-
Facts about the TEA encryption (`Mania.Tea`): the cipher is inverted, a
ciphertext decrypts to its text whatever the filler bytes, and exactly
which ciphertexts `teaDecrypt` panics on.
-/
import Mania.Tea

namespace Mania

open Bytes

namespace Tea16

/-! ## The cipher -/

theorem decryptRound_encryptRound (c : Tea16) (s : Round) : c.decryptRound (c.encryptRound s) = s := by
  simp only [encryptRound, decryptRound, UInt32.add_sub_cancel]

theorem encryptRound_decryptRound (c : Tea16) (s : Round) : c.encryptRound (c.decryptRound s) = s := by
  simp only [encryptRound, decryptRound, UInt32.sub_add_cancel]

/-- The sum does not depend on the block: `n` rounds add `n` deltas. -/
theorem iterate_encryptRound_sum (c : Tea16) (n : Nat) (s : Round) :
    ((c.encryptRound)^[n] s).sum = s.sum + UInt32.ofNat n * TEA_DELTA := by
  induction n generalizing s with
  | zero => simp
  | succ n ih =>
    rw [Function.iterate_succ_apply, ih, encryptRound]
    simp only [UInt32.ofNat_add, UInt32.add_mul, UInt32.add_assoc]
    rw [UInt32.add_comm TEA_DELTA]
    rfl

theorem join_toNat (x y : UInt32) : (join x y).toNat = x.toNat * 2 ^ 32 + y.toNat := by
  have hx := x.toNat_lt
  have hy := y.toNat_lt
  simp only [join, UInt64.toNat_or, UInt64.toNat_shiftLeft, UInt32.toNat_toUInt64, UInt64.reduceToNat,
    Nat.reduceMod]
  rw [Nat.mod_eq_of_lt (by rw [Nat.shiftLeft_eq]; omega), ← Nat.shiftLeft_add_eq_or_of_lt hy,
    Nat.shiftLeft_eq]

theorem join_split (n : UInt64) : join (split n).1 (split n).2 = n := by
  have h := n.toNat_lt
  apply UInt64.toNat_inj.mp
  rw [join_toNat]
  simp only [split, UInt64.toNat_toUInt32, UInt64.toNat_shiftRight, UInt64.reduceToNat, Nat.reduceMod,
    Nat.shiftRight_eq_div_pow]
  omega

theorem split_join (x y : UInt32) : split (join x y) = (x, y) := by
  have hx := x.toNat_lt
  have hy := y.toNat_lt
  simp only [split, Prod.mk.injEq]
  constructor <;> apply UInt32.toNat_inj.mp <;>
    simp only [UInt64.toNat_toUInt32, UInt64.toNat_shiftRight, join_toNat, UInt64.reduceToNat,
      Nat.reduceMod, Nat.shiftRight_eq_div_pow] <;>
    omega

/-- The sum after sixteen rounds is the one `decrypt` starts from. -/
theorem sixteen_deltas : UInt32.ofNat 16 * TEA_DELTA = TEA_DELTA <<< 4 := by decide

theorem decrypt_encrypt (c : Tea16) (n : UInt64) : c.decrypt (c.encrypt n) = n := by
  have hsum := c.iterate_encryptRound_sum 16 { sum := 0, x := (split n).1, y := (split n).2 }
  have hback := Function.LeftInverse.iterate c.decryptRound_encryptRound 16
    { sum := 0, x := (split n).1, y := (split n).2 }
  simp only [encrypt, decrypt, split_join]
  rw [UInt32.zero_add, sixteen_deltas] at hsum
  rw [← hsum]
  generalize (c.encryptRound)^[16] { sum := 0, x := (split n).1, y := (split n).2 } = s at hback
  show join (c.decryptRound^[16] s).x (c.decryptRound^[16] s).y = n
  rw [hback, join_split]

/-- Sixteen decryption rounds take the sum back to the zero `encrypt` starts from. -/
theorem iterate_decryptRound_sum (c : Tea16) (s : Round) (h : s.sum = TEA_DELTA <<< 4) :
    ((c.decryptRound)^[16] s).sum = 0 := by
  have hforth := Function.LeftInverse.iterate c.encryptRound_decryptRound 16 s
  have hsum := c.iterate_encryptRound_sum 16 ((c.decryptRound)^[16] s)
  rw [hforth, h, sixteen_deltas] at hsum
  exact (UInt32.add_left_inj (TEA_DELTA <<< 4)).mp (by rw [← hsum, UInt32.zero_add])

theorem encrypt_decrypt (c : Tea16) (n : UInt64) : c.encrypt (c.decrypt n) = n := by
  have hsum := c.iterate_decryptRound_sum { sum := TEA_DELTA <<< 4, x := (split n).1, y := (split n).2 } rfl
  have hforth := Function.LeftInverse.iterate c.encryptRound_decryptRound 16
    { sum := TEA_DELTA <<< 4, x := (split n).1, y := (split n).2 }
  simp only [encrypt, decrypt, split_join]
  rw [← hsum]
  generalize (c.decryptRound)^[16] { sum := TEA_DELTA <<< 4, x := (split n).1, y := (split n).2 } = s
    at hforth
  show join (c.encryptRound^[16] s).x (c.encryptRound^[16] s).y = n
  rw [hforth, join_split]

/-- **The block cipher is a bijection of blocks** under every key: `decrypt`
and `encrypt` undo each other, and each starts from the sum the other ends
with. -/
theorem encrypt_decrypt_inverse (c : Tea16) (n : UInt64) :
    c.decrypt (c.encrypt n) = n ∧ c.encrypt (c.decrypt n) = n ∧
      ((c.encryptRound)^[16] { sum := 0, x := (split n).1, y := (split n).2 }).sum = TEA_DELTA <<< 4 ∧
      ((c.decryptRound)^[16] { sum := TEA_DELTA <<< 4, x := (split n).1, y := (split n).2 }).sum = 0 := by
  refine ⟨c.decrypt_encrypt n, c.encrypt_decrypt n, ?_, c.iterate_decryptRound_sum _ rfl⟩
  rw [c.iterate_encryptRound_sum, UInt32.zero_add, sixteen_deltas]

variable {ε : Type}

theorem new_ok {key : Bytes} (h : key.length = 16) : (new key : Outcome ε Tea16) = .ok (ofKey key) := by
  simp [new, Outcome.guard_pos h, ofKey]

end Tea16

/-! ## Padding -/

theorem fillCount_bounds (text : Bytes) :
    2 ≤ fillCount text ∧ fillCount text ≤ 9 ∧ (1 + fillCount text + text.length + 7) % 8 = 0 := by
  simp only [fillCount]
  omega

/-- The bytes `teaEncrypt` encrypts: the fill count, the filler, the text and seven zeros. -/
def padded (rng : Nat → UInt8) (text : Bytes) : Bytes :=
  ((UInt8.ofNat (fillCount text) - 2) ||| 0xF8) :: ((List.range (fillCount text)).map rng ++ text ++
    List.replicate 7 0)

theorem padded_length (rng : Nat → UInt8) (text : Bytes) :
    (padded rng text).length = 1 + fillCount text + text.length + 7 := by
  simp [padded]
  omega

/-- The fill count read back from the first byte. -/
theorem padded_begin (rng : Nat → UInt8) (text : Bytes) :
    ((padded rng text).headD 0).toNat &&& 7 = fillCount text - 2 := by
  have h : ∀ r : Fin 8, (((UInt8.ofNat (9 - r.val) - 2) ||| 0xF8).toNat &&& 7) = 9 - r.val - 2 := by
    decide
  exact h ⟨(text.length + 1) % 8, Nat.mod_lt _ (by decide)⟩

variable {ε : Type}

theorem xor_cancel (a b : UInt64) : a ^^^ b ^^^ b = a := by
  rw [UInt64.xor_assoc, UInt64.xor_self, UInt64.xor_zero]

theorem readU64Into_ok {bs : Bytes} (h : bs.length % 8 = 0) :
    (readU64Into bs (bs.length / 8) : Outcome ε _) = .ok (words64 (bs.length / 8) bs) := by
  have h8 : bs.length = 8 * (bs.length / 8) := by omega
  simp only [readU64Into]
  rw [Outcome.guard_pos h8]
  rfl

/-- The plaintext buffer `teaEncrypt` fills in is `padded`. -/
theorem fill_padded (rng : Nat → UInt8) (text : Bytes) :
    (do
      let p ← Outcome.setIndex (List.replicate (1 + fillCount text + text.length + 7) (0 : UInt8)) 0
        ((UInt8.ofNat (fillCount text) - 2) ||| 0xF8)
      let p ← Outcome.copyFromSlice p 1 (fillCount text + 1) ((List.range (fillCount text)).map rng)
      Outcome.copyFromSlice p (fillCount text + 1) (1 + fillCount text + text.length + 7 - 7) text :
        Outcome ε Bytes) = .ok (padded rng text) := by
  have hrep : List.replicate (1 + fillCount text + text.length + 7) (0 : UInt8) =
      0 :: (List.replicate (fillCount text) 0 ++ (List.replicate text.length 0 ++ List.replicate 7 0)) := by
    rw [List.replicate_append_replicate, List.replicate_append_replicate, ← List.replicate_succ]
    congr 1
    omega
  rw [hrep, Outcome.setIndex_ok (by simp), Outcome.ok_bind, List.set_cons_zero, ← List.singleton_append,
    Outcome.copyFromSlice_append (by simp) (by simp [Nat.add_comm]) (by simp), Outcome.ok_bind,
    ← List.append_assoc, Outcome.copyFromSlice_append (by simp) (by simp; omega) (by simp)]
  simp [padded]

/-! ## Encryption and decryption of byte strings -/

/-- What `teaEncrypt` returns. -/
def encrypted (rng : Nat → UInt8) (text key : Bytes) : Bytes :=
  (Chaining.encrypt (· ^^^ ·) (Tea16.ofKey key).encrypt 0 0
    (words64 ((padded rng text).length / 8) (padded rng text))).flatMap be64

theorem encrypted_length (rng : Nat → UInt8) (text key : Bytes) :
    (encrypted rng text key).length = 1 + fillCount text + text.length + 7 := by
  have hb := fillCount_bounds text
  simp only [encrypted, flatMap_be64_length, Chaining.encrypt_length, words64_length, padded_length]
  omega

theorem teaEncrypt_ok (rng : Nat → UInt8) (text : Bytes) {key : Bytes} (h : key.length = 16) :
    (teaEncrypt rng text key : Outcome ε Bytes) = .ok (encrypted rng text key) := by
  have hb := fillCount_bounds text
  have hfill := fill_padded (ε := ε) rng text
  rw [Outcome.bind_eq_ok] at hfill
  obtain ⟨p₁, h₁, hfill⟩ := hfill
  rw [Outcome.bind_eq_ok] at hfill
  obtain ⟨p₂, h₂, h₃⟩ := hfill
  simp only [teaEncrypt, List.length_replicate, h₁, h₂, h₃, Outcome.ok_bind]
  rw [readU64Into_ok (by rw [padded_length]; omega), Outcome.ok_bind, Tea16.new_ok h, Outcome.ok_bind,
    writeU64Into, Outcome.guard_pos (by simp [padded_length]; omega)]
  rfl

/-- The plaintext buffer `teaDecrypt` cuts its result from. -/
def decrypted (text key : Bytes) : Bytes :=
  (Chaining.decrypt (· ^^^ ·) (Tea16.ofKey key).decrypt 0 0 (words64 (text.length / 8) text)).flatMap be64

/-- Where the text starts in that buffer, by its first byte. -/
def beginPos (text key : Bytes) : Nat := (((decrypted text key).headD 0).toNat &&& 7) + 3

/-- The ciphertexts `teaDecrypt` does not panic on. -/
def Decryptable (text key : Bytes) : Prop := text.length % 8 = 0 ∧ beginPos text key + 7 ≤ text.length

instance (text key : Bytes) : Decidable (Decryptable text key) := inferInstanceAs (Decidable (_ ∧ _))

/-- The text `teaDecrypt` cuts out of that buffer. -/
def plaintext (text key : Bytes) : Bytes :=
  ((decrypted text key).take (text.length - 7)).drop (beginPos text key)

theorem decrypted_length {text : Bytes} (h : text.length % 8 = 0) (key : Bytes) :
    (decrypted text key).length = text.length := by
  simp only [decrypted, flatMap_be64_length, Chaining.decrypt_length, words64_length]
  omega

/-- **All `teaDecrypt` does under a 16-byte key**: cut the text out of the
decrypted buffer, or panic. -/
theorem teaDecrypt_eq (text : Bytes) {key : Bytes} (hkey : key.length = 16) :
    (teaDecrypt text key : Outcome ε Bytes) =
      if Decryptable text key then .ok (plaintext text key) else .panic := by
  by_cases h8 : text.length % 8 = 0
  · have hlen := decrypted_length h8 key
    have hwrite : (writeU64Into (Chaining.decrypt (· ^^^ ·) (Tea16.ofKey key).decrypt 0 0
        (words64 (text.length / 8) text)) text.length : Outcome ε Bytes) = .ok (decrypted text key) := by
      rw [writeU64Into, Outcome.guard_pos (by simp; omega)]
      rfl
    simp only [teaDecrypt, readU64Into_ok h8, Tea16.new_ok hkey, hwrite, Outcome.ok_bind]
    cases hd : decrypted text key with
    | nil =>
      have h0 : text.length = 0 := by rw [← hlen, hd]; rfl
      simp [Outcome.index, Decryptable, h0]
    | cons b bs =>
      have hbegin : beginPos text key = (b.toNat &&& 7) + 3 := by simp [beginPos, hd]
      rw [hd] at hlen
      rw [Outcome.index_ok (by simp), Outcome.ok_bind, List.getElem_cons_zero, ← hbegin, hlen]
      by_cases h7 : 7 ≤ text.length
      · rw [Outcome.sub_ok h7, Outcome.ok_bind]
        by_cases hp : beginPos text key + 7 ≤ text.length
        · rw [Outcome.slice_ok (by omega), if_pos ⟨h8, hp⟩, plaintext, hd]
        · rw [Outcome.slice_eq_panic.mpr (by omega), if_neg (fun h => hp h.2)]
      · rw [Outcome.sub, Outcome.guard_neg h7, if_neg (fun h => h7 (by have := h.2; omega))]
        rfl
  · rw [teaDecrypt, readU64Into, Outcome.guard_neg (by omega), if_neg (fun h => h8 h.1)]
    rfl

theorem decrypted_encrypted (rng : Nat → UInt8) (text key : Bytes) :
    decrypted (encrypted rng text key) key = padded rng text := by
  have hb := fillCount_bounds text
  have hlen := padded_length rng text
  have hwords : words64 ((encrypted rng text key).length / 8) (encrypted rng text key) =
      Chaining.encrypt (· ^^^ ·) (Tea16.ofKey key).encrypt 0 0
        (words64 ((padded rng text).length / 8) (padded rng text)) := by
    have hcount : (encrypted rng text key).length / 8 = (Chaining.encrypt (· ^^^ ·) (Tea16.ofKey key).encrypt 0 0
        (words64 ((padded rng text).length / 8) (padded rng text))).length := by
      rw [encrypted_length, Chaining.encrypt_length, words64_length, hlen]
    rw [hcount, encrypted, words64_flatMap]
  rw [decrypted, hwords, Chaining.decrypt_encrypt xor_cancel (Tea16.ofKey key).decrypt_encrypt,
    flatMap_words64 (by omega)]

theorem beginPos_encrypted (rng : Nat → UInt8) (text key : Bytes) :
    beginPos (encrypted rng text key) key = fillCount text + 1 := by
  have hb := fillCount_bounds text
  have hhead := padded_begin rng text
  rw [beginPos, decrypted_encrypted, hhead]
  omega

theorem decryptable_encrypted (rng : Nat → UInt8) (text key : Bytes) :
    Decryptable (encrypted rng text key) key := by
  have hb := fillCount_bounds text
  rw [Decryptable, beginPos_encrypted, encrypted_length]
  omega

theorem teaDecrypt_encrypted (rng : Nat → UInt8) (text : Bytes) {key : Bytes} (h : key.length = 16) :
    (teaDecrypt (encrypted rng text key) key : Outcome ε Bytes) = .ok text := by
  rw [teaDecrypt_eq _ h, if_pos (decryptable_encrypted rng text key), plaintext, decrypted_encrypted,
    beginPos_encrypted, encrypted_length]
  have htake : (padded rng text).take (1 + fillCount text + text.length + 7 - 7) =
      (((UInt8.ofNat (fillCount text) - 2) ||| 0xF8) :: (List.range (fillCount text)).map rng) ++ text := by
    rw [padded, ← List.cons_append, ← List.cons_append]
    exact List.take_left' (by simp; omega)
  rw [htake, List.drop_left' (by simp)]

/-- **TEA round trip.** Whatever the filler bytes, the encryption of a text
under a 16-byte key panics nowhere, has one of the lengths the padding
allows, and decrypts to the text. -/
theorem teaDecrypt_teaEncrypt (rng : Nat → UInt8) (text key : Bytes) (hkey : key.length = 16) :
    ∃ cipher, (teaEncrypt rng text key : Outcome Empty Bytes) = .ok cipher ∧
      cipher.length % 8 = 0 ∧ 16 ≤ cipher.length ∧
      text.length + 10 ≤ cipher.length ∧ cipher.length ≤ text.length + 17 ∧
      (teaDecrypt cipher key : Outcome Empty Bytes) = .ok text := by
  have hb := fillCount_bounds text
  have hlen := encrypted_length rng text key
  refine ⟨encrypted rng text key, teaEncrypt_ok rng text hkey, ?_, ?_, ?_, ?_,
    teaDecrypt_encrypted rng text hkey⟩ <;> omega

/-- One byte under the debug build's filler. -/
theorem teaDecrypt_teaEncrypt_single :
    ([7] : Bytes).length + 10 ≤ 16 ∧ ∃ cipher,
      (teaEncrypt (fun _ => 220) [7] (List.replicate 16 1) : Outcome Empty Bytes) = .ok cipher ∧
      cipher.length % 8 = 0 ∧ 16 ≤ cipher.length ∧
      ([7] : Bytes).length + 10 ≤ cipher.length ∧ cipher.length ≤ ([7] : Bytes).length + 17 ∧
      (teaDecrypt cipher (List.replicate 16 1) : Outcome Empty Bytes) = .ok [7] :=
  ⟨by decide, teaDecrypt_teaEncrypt (fun _ => 220) [7] (List.replicate 16 1) (by decide)⟩

/-! ## Ciphertexts under any key -/

/-- The low three bits of the first byte of the first block under the
cipher: what `tea_decrypt` takes the fill count from. -/
def fillBits (text key : Bytes) : Nat :=
  (((Tea16.ofKey key).decrypt (ofBE64 (text.take 8)) >>> 56) &&& 7).toNat

theorem fillBits_le (text key : Bytes) : fillBits text key ≤ 7 := by
  rw [fillBits, UInt64.toNat_and]
  exact Nat.and_le_right

/-- The first byte of a word in big-endian order is its top byte. -/
theorem headD_be64 (n : UInt64) (rest : Bytes) :
    ((be64 n ++ rest).headD 0).toNat &&& 7 = ((n >>> 56) &&& 7).toNat := by
  have hn := n.toNat_lt
  have hhead : ((be64 n ++ rest).headD 0).toNat = n.toNat / 2 ^ 56 % 256 := by
    simp only [be64, toBE, List.nil_append, List.cons_append, List.headD_cons, UInt8.toNat_ofNat',
      Nat.reducePow, Nat.div_div_eq_div_mul, Nat.reduceMul]
  rw [hhead, UInt64.toNat_and, UInt64.toNat_shiftRight, Nat.shiftRight_eq_div_pow]
  have h7 : ∀ m, m &&& 7 = m % 8 := fun m => Nat.and_two_pow_sub_one_eq_mod m 3
  rw [h7]
  show _ = _ &&& 7
  rw [h7]
  simp only [UInt64.reduceToNat, Nat.reduceMod]
  omega

/-- The first block is masked with zeros on both sides of the cipher. -/
theorem beginPos_eq {text key : Bytes} (h : 8 ≤ text.length) : beginPos text key = fillBits text key + 3 := by
  obtain ⟨n, hn⟩ : ∃ n, text.length / 8 = n + 1 := ⟨text.length / 8 - 1, by omega⟩
  rw [beginPos, decrypted, hn, words64, Chaining.decrypt, List.flatMap_cons, headD_be64, fillBits,
    UInt64.xor_zero, UInt64.xor_zero]

/-- **`tea_decrypt` of any ciphertext under any key.** On the lengths
`tea_encrypt` can produce the slice is out of range at one length and one
fill count only: at sixteen bytes the longest filler would start the text
behind the seven zeros. -/
theorem teaDecrypt_returns_iff (text key : Bytes) (hkey : key.length = 16) (h8 : text.length % 8 = 0)
    (h16 : 16 ≤ text.length) :
    (∃ out, (teaDecrypt text key : Outcome Empty Bytes) = .ok out) ↔
      (text.length = 16 → fillBits text key ≠ 7) := by
  have hle := fillBits_le text key
  have hbegin : beginPos text key = fillBits text key + 3 := beginPos_eq (by omega)
  have hdec : Decryptable text key ↔ (text.length = 16 → fillBits text key ≠ 7) := by
    rw [Decryptable, hbegin]
    omega
  rw [← hdec, teaDecrypt_eq text hkey]
  by_cases h : Decryptable text key
  · simp [h]
  · simp [h]

/-- Three blocks of zeros under a key of zeros. -/
theorem teaDecrypt_returns_zeros :
    (∃ out, (teaDecrypt (List.replicate 24 0) (List.replicate 16 0) : Outcome Empty Bytes) = .ok out) ↔
      ((List.replicate 24 (0 : UInt8)).length = 16 →
        fillBits (List.replicate 24 0) (List.replicate 16 0) ≠ 7) :=
  teaDecrypt_returns_iff _ _ (by decide) (by decide) (by decide)

example : encrypted (fun _ => 220) [] (List.replicate 16 0) =
    [225, 11, 117, 157, 216, 66, 149, 112, 32, 71, 60, 66, 204, 251, 135, 176] := by decide +kernel

/-- The empty text encrypted under a key of zeros, with the debug build's
filler, cannot be decrypted under a key of threes. -/
theorem teaDecrypt_wrong_key_panics :
    ¬ ∀ text key : Bytes, key.length = 16 → text.length % 8 = 0 → 16 ≤ text.length →
      ∃ out, (teaDecrypt text key : Outcome Empty Bytes) = .ok out := by
  intro h
  obtain ⟨out, hout⟩ := h [225, 11, 117, 157, 216, 66, 149, 112, 32, 71, 60, 66, 204, 251, 135, 176]
    (List.replicate 16 3) (by decide) (by decide) (by decide)
  have hpanic : ¬ Decryptable [225, 11, 117, 157, 216, 66, 149, 112, 32, 71, 60, 66, 204, 251, 135, 176]
      (List.replicate 16 3) := by
    decide +kernel
  rw [teaDecrypt_eq _ (by decide), if_neg hpanic] at hout
  cases hout

end Mania
