/-
A block-chaining mode with two vectors: each block is masked with the
ciphertext before it on the way into the cipher and with the cipher's
previous input on the way out. Decryption undoes encryption from the same
two vectors, for any cipher that is inverted and any self-cancelling mask.
-/

namespace Chaining

variable {β : Type}

/-- The ciphertext of `bs`, from the vectors `iv1` (previous ciphertext) and
`iv2` (previous input of the cipher). -/
def encrypt (mask : β → β → β) (enc : β → β) : β → β → List β → List β
  | _, _, [] => []
  | iv1, iv2, block :: bs =>
    let holder := mask block iv1
    let iv1 := mask (enc holder) iv2
    iv1 :: encrypt mask enc iv1 holder bs

/-- The plaintext of `cs`, from the same two vectors. -/
def decrypt (mask : β → β → β) (dec : β → β) : β → β → List β → List β
  | _, _, [] => []
  | iv1, iv2, block :: cs =>
    let tmpBlock := dec (mask block iv2)
    let holder := mask tmpBlock iv1
    holder :: decrypt mask dec block tmpBlock cs

variable {mask : β → β → β} {enc dec : β → β}

@[simp] theorem encrypt_length (iv1 iv2 : β) (bs : List β) :
    (encrypt mask enc iv1 iv2 bs).length = bs.length := by
  induction bs generalizing iv1 iv2 with
  | nil => rfl
  | cons b bs ih => simp [encrypt, ih]

@[simp] theorem decrypt_length (iv1 iv2 : β) (cs : List β) :
    (decrypt mask dec iv1 iv2 cs).length = cs.length := by
  induction cs generalizing iv1 iv2 with
  | nil => rfl
  | cons c cs ih => simp [decrypt, ih]

/-- **Decryption undoes encryption.** Both sides carry the previous
ciphertext in `iv1` and the previous cipher input in `iv2`, so the vectors
stay equal block after block. -/
theorem decrypt_encrypt (hmask : ∀ a b, mask (mask a b) b = a) (hdec : ∀ b, dec (enc b) = b)
    (iv1 iv2 : β) (bs : List β) :
    decrypt mask dec iv1 iv2 (encrypt mask enc iv1 iv2 bs) = bs := by
  induction bs generalizing iv1 iv2 with
  | nil => rfl
  | cons block bs ih =>
    simp only [encrypt, decrypt]
    -- The first mask gives back the cipher's output, the cipher its input, the second mask the block.
    rw [hmask, hdec, hmask, ih]

end Chaining
