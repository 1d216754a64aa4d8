/-
`HexString` of `utility/extensions.rs`.
-/
import Mania.Lib.Str

namespace Mania

namespace HexString

def hexDigit (n : Nat) : Char := if n < 10 then Char.ofNat (48 + n) else Char.ofNat (87 + n)

/-- `hex::encode`. -/
def hex (bs : Bytes) : String := String.ofList (bs.flatMap fun b => [hexDigit (b.toNat / 16), hexDigit (b.toNat % 16)])

theorem hexDigit_injective {m n : Nat} (hm : m < 16) (hn : n < 16) (h : hexDigit m = hexDigit n) : m = n := by
  have digits : ∀ a b : Fin 16, hexDigit a = hexDigit b → a = b := by decide
  exact congrArg Fin.val (digits ⟨m, hm⟩ ⟨n, hn⟩ h)

theorem hex_injective : ∀ {bs bs' : Bytes}, hex bs = hex bs' → bs = bs'
  | [], [], _ => rfl
  | [], _ :: _, h => by simp [hex] at h
  | _ :: _, [], h => by simp [hex] at h
  | b :: bs, b' :: bs', h => by
    simp only [hex, List.flatMap_cons, List.cons_append, List.nil_append, String.ofList_inj, List.cons.injEq] at h
    obtain ⟨high, low, rest⟩ := h
    have hb := b.toNat_lt
    have hb' := b'.toNat_lt
    have high := hexDigit_injective (by omega) (by omega) high
    have low := hexDigit_injective (by omega) (by omega) low
    have head : b = b' := UInt8.toNat_inj.mp (by omega)
    rw [head, hex_injective (String.ofList_inj.mpr rest)]

def hexValue (b : UInt8) : Option Nat :=
  if 48 ≤ b ∧ b ≤ 57 then some (b.toNat - 48)
  else if 65 ≤ b ∧ b ≤ 70 then some (b.toNat - 55)
  else if 97 ≤ b ∧ b ≤ 102 then some (b.toNat - 87)
  else none

def unhexBytes : Bytes → Option Bytes
  | [] => some []
  | [_] => none
  | a :: b :: bs => do
    let high ← hexValue a
    let low ← hexValue b
    let rest ← unhexBytes bs
    some (UInt8.ofNat (high * 16 + low) :: rest)

/-- `hex::decode(..).ok()`. -/
def unhex (s : String) : Option Bytes := unhexBytes (Utf8.encode s)

end HexString

end Mania
