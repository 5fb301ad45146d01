import RequestAuth.Bytes

/-! Base64 on octets, in the standard alphabet with padding and in the URL alphabet without it.
The reader accepts written forms only: no blanks, full padding, no stray bits in the last symbol. -/

namespace RequestAuth.Base64

inductive Alphabet where
  | standard
  | url
  deriving DecidableEq

def Alphabet.symbol (a : Alphabet) (v : Nat) : UInt8 :=
  if v < 26 then UInt8.ofNat (65 + v)
  else if v < 52 then UInt8.ofNat (71 + v)
  else if v < 62 then UInt8.ofNat (v - 4)
  else match a with
    | .standard => if v = 62 then 43 else 47
    | .url => if v = 62 then 45 else 95

def Alphabet.value? (a : Alphabet) (c : UInt8) : Option Nat :=
  let n := c.toNat
  if 65 ≤ n ∧ n ≤ 90 then some (n - 65)
  else if 97 ≤ n ∧ n ≤ 122 then some (n - 71)
  else if 48 ≤ n ∧ n ≤ 57 then some (n + 4)
  else match a with
    | .standard => if n = 43 then some 62 else if n = 47 then some 63 else none
    | .url => if n = 45 then some 62 else if n = 95 then some 63 else none

def pad : UInt8 := 61

def Alphabet.padding : Alphabet → Nat → Bytes
  | .standard, n => List.replicate n pad
  | .url, _ => []

def encode (a : Alphabet) : Bytes → Bytes
  | x :: y :: z :: r =>
    a.symbol (x.toNat / 4) :: a.symbol (x.toNat % 4 * 16 + y.toNat / 16) ::
      a.symbol (y.toNat % 16 * 4 + z.toNat / 64) :: a.symbol (z.toNat % 64) :: encode a r
  | [x, y] =>
    a.symbol (x.toNat / 4) :: a.symbol (x.toNat % 4 * 16 + y.toNat / 16) ::
      a.symbol (y.toNat % 16 * 4) :: a.padding 1
  | [x] => a.symbol (x.toNat / 4) :: a.symbol (x.toNat % 4 * 16) :: a.padding 2
  | [] => []

inductive Fault where
  | symbol (octet : UInt8) (offset : Nat)
  | lastSymbol (octet : UInt8) (offset : Nat)
  | length (n : Nat)
  | padding
  deriving DecidableEq

def Fault.message : Fault → String
  | .symbol b o => s!"Invalid symbol {b.toNat}, offset {o}."
  | .lastSymbol b o => s!"Invalid last symbol {b.toNat}, offset {o}."
  | .length n => s!"Invalid input length: {n}"
  | .padding => "Invalid padding"

def sextet (a : Alphabet) (c : UInt8) (offset : Nat) : Except Fault Nat :=
  match a.value? c with
  | some v => .ok v
  | none => .error (.symbol c offset)

/-- The symbols of the last group and the count of its padding. Padding starts at the third place
at the earliest and runs to the end. -/
def lastGroup (a : Alphabet) (offset : Nat) : Nat → Bytes → Except Fault (List Nat × Nat)
  | _, [] => .ok ([], 0)
  | i, c :: r =>
    if c = pad then
      if i < 2 then .error (.symbol c (offset + i))
      else if r.all (· == pad) then .ok ([], r.length + 1)
      else .error (.symbol c (offset + i))
    else do
      let v ← sextet a c (offset + i)
      let (vs, n) ← lastGroup a offset (i + 1) r
      return (v :: vs, n)

def decodeLast (a : Alphabet) (offset : Nat) (s : Bytes) : Except Fault Bytes := do
  let (vs, pads) ← lastGroup a offset 0 s
  if s ≠ [] ∧ vs.length < 2 then throw (.length (offset + vs.length))
  if a = .standard ∧ (vs.length + pads) % 4 ≠ 0 then throw .padding
  if a = .url ∧ pads ≠ 0 then throw .padding
  let last := (s.takeWhile (· != pad)).getLastD 0
  match vs with
  | [w, x] =>
    if x % 16 ≠ 0 then throw (.lastSymbol last (offset + 1))
    return [UInt8.ofNat (w * 4 + x / 16)]
  | [w, x, y] =>
    if y % 4 ≠ 0 then throw (.lastSymbol last (offset + 2))
    return [UInt8.ofNat (w * 4 + x / 16), UInt8.ofNat (x % 16 * 16 + y / 4)]
  | [w, x, y, z] =>
    return [UInt8.ofNat (w * 4 + x / 16), UInt8.ofNat (x % 16 * 16 + y / 4),
      UInt8.ofNat (y % 4 * 64 + z)]
  | _ => return []

def decodeGroups (a : Alphabet) : Nat → Bytes → Except Fault Bytes
  | offset, w :: x :: y :: z :: r =>
    if r = [] then decodeLast a offset [w, x, y, z]
    else do
      let w ← sextet a w offset
      let x ← sextet a x (offset + 1)
      let y ← sextet a y (offset + 2)
      let z ← sextet a z (offset + 3)
      let rest ← decodeGroups a (offset + 4) r
      return UInt8.ofNat (w * 4 + x / 16) :: UInt8.ofNat (x % 16 * 16 + y / 4) ::
        UInt8.ofNat (y % 4 * 64 + z) :: rest
  | offset, s => decodeLast a offset s

/-- A foreign last octet of an input one octet too long is reported first. -/
def decode (a : Alphabet) (s : Bytes) : Except Fault Bytes :=
  let last := s.getLastD 0
  if s.length % 4 = 1 ∧ last ≠ pad ∧ a.value? last = none then
    .error (.symbol last (s.length - 1))
  else decodeGroups a 0 s

end RequestAuth.Base64
