/-! Octet strings as lists, with their hexadecimal and positional readings. -/

namespace RequestAuth

abbrev Bytes := List UInt8

namespace Bytes

/-- The UTF-8 form of a text. -/
def ofText (s : String) : Bytes := s.toUTF8.data.toList

def toText? (b : Bytes) : Option String := String.fromUTF8? ⟨b.toArray⟩

theorem toText?_ofText (s : String) : toText? (ofText s) = some s := by
  simp [toText?, ofText, String.fromUTF8?, String.fromUTF8, s.isValidUTF8]

def hexDigit (n : Nat) : Char :=
  if n < 10 then Char.ofNat (48 + n) else Char.ofNat (87 + n)

def hexValue? (c : Char) : Option Nat :=
  if 48 ≤ c.toNat ∧ c.toNat ≤ 57 then some (c.toNat - 48)
  else if 97 ≤ c.toNat ∧ c.toNat ≤ 102 then some (c.toNat - 87)
  else none

def hexChars : Bytes → List Char
  | [] => []
  | b :: r => hexDigit (b.toNat / 16) :: hexDigit (b.toNat % 16) :: hexChars r

def toHex (b : Bytes) : String := String.ofList (hexChars b)

def ofHexChars? : List Char → Option Bytes
  | [] => some []
  | [_] => none
  | h :: l :: r => do
    let h ← hexValue? h
    let l ← hexValue? l
    let rest ← ofHexChars? r
    return UInt8.ofNat (16 * h + l) :: rest

def ofHex? (s : String) : Option Bytes := ofHexChars? s.toList

theorem length_hexChars (b : Bytes) : (hexChars b).length = 2 * b.length := by
  induction b with
  | nil => rfl
  | cons x r ih => simp [hexChars, ih]; omega

def ofNatLE : Nat → Nat → Bytes
  | 0, _ => []
  | w + 1, n => UInt8.ofNat n :: ofNatLE w (n / 256)

def toNatLE : Bytes → Nat
  | [] => 0
  | b :: r => b.toNat + 256 * toNatLE r

def ofNatBE (width n : Nat) : Bytes := (ofNatLE width n).reverse

def toNatBE (b : Bytes) : Nat := toNatLE b.reverse

theorem length_ofNatLE (w n : Nat) : (ofNatLE w n).length = w := by
  induction w generalizing n with
  | zero => rfl
  | succ w ih => simp [ofNatLE, ih]

theorem length_ofNatBE (w n : Nat) : (ofNatBE w n).length = w := by
  simp [ofNatBE, length_ofNatLE]

theorem toNatLE_ofNatLE (w n : Nat) : toNatLE (ofNatLE w n) = n % Nat.pow 256 w := by
  induction w generalizing n with
  | zero => exact (Nat.mod_one n).symm
  | succ w ih =>
    have low : (UInt8.ofNat n).toNat = n % 256 := rfl
    simp only [ofNatLE, toNatLE, ih, low]
    change _ = n % (Nat.pow 256 w * 256)
    rw [Nat.mul_comm (Nat.pow 256 w), Nat.mod_mul]

theorem toNatBE_ofNatBE (w n : Nat) : toNatBE (ofNatBE w n) = n % Nat.pow 256 w := by
  simp [toNatBE, ofNatBE, toNatLE_ofNatLE]

end Bytes
end RequestAuth
