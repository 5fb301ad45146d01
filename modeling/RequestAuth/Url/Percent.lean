import RequestAuth.Bytes

/-! Octets written by their hexadecimal numbers after a percent sign. -/

namespace RequestAuth.Percent

def isControl (b : UInt8) : Bool := b < 0x20 || 0x7e < b

def inFragment (b : UInt8) : Bool := isControl b || [32, 34, 60, 62, 96].contains b

def inPath (b : UInt8) : Bool := inFragment b || [35, 63, 123, 125].contains b

def inUserInfo (b : UInt8) : Bool := inPath b || [47, 58, 59, 61, 64, 91, 92, 93, 94, 124].contains b

def inQuery (b : UInt8) : Bool := isControl b || [32, 34, 35, 60, 62].contains b

def inSpecialQuery (b : UInt8) : Bool := inQuery b || b == 39

def upperDigit (n : Nat) : Char := if n < 10 then Char.ofNat (48 + n) else Char.ofNat (55 + n)

def octet (encoded : UInt8 → Bool) (b : UInt8) : List Char :=
  if encoded b then ['%', upperDigit (b.toNat / 16), upperDigit (b.toNat % 16)]
  else [Char.ofNat b.toNat]

def encode (encoded : UInt8 → Bool) (cs : List Char) : List Char :=
  (Bytes.ofText (String.ofList cs)).flatMap (octet encoded)

def digit? (b : UInt8) : Option Nat :=
  let n := b.toNat
  if 48 ≤ n ∧ n ≤ 57 then some (n - 48)
  else if 97 ≤ n ∧ n ≤ 102 then some (n - 87)
  else if 65 ≤ n ∧ n ≤ 70 then some (n - 55)
  else none

/-- A percent sign without two digits stands for itself. -/
def decode : Bytes → Bytes
  | 37 :: h :: l :: r =>
    match digit? h, digit? l with
    | some h, some l => UInt8.ofNat (16 * h + l) :: decode r
    | _, _ => 37 :: decode (h :: l :: r)
  | b :: r => b :: decode r
  | [] => []

end RequestAuth.Percent
