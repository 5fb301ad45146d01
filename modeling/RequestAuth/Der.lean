import RequestAuth.Bytes

/-! Distinguished encoding of ASN.1 values: readers that take an element from the front of the input
and give back the rest, and the writers they accept. Lengths are definite and shortest. -/

namespace RequestAuth.Der

abbrev Reader (α : Type) := Bytes → Option (α × Bytes)

structure Header where
  tag : UInt8
  length : Nat
  deriving DecidableEq

def tagInteger : UInt8 := 0x02
def tagBitString : UInt8 := 0x03
def tagOctetString : UInt8 := 0x04
def tagIdentifier : UInt8 := 0x06
def tagSequence : UInt8 := 0x30

/-- The universal types by number; a number of 31 in the other classes starts a longer tag. -/
def isTag (b : UInt8) : Bool :=
  if b < 0x40 then
    [0x01, 0x02, 0x03, 0x04, 0x05, 0x06, 0x09, 0x0a, 0x0c, 0x12, 0x13, 0x14, 0x15, 0x16, 0x17, 0x18,
      0x1a, 0x1b, 0x1e, 0x30, 0x31].contains b
  else b % 32 != 31

def isContextTag (b : UInt8) : Bool := 0x80 ≤ b && b < 0xc0

def isConstructed (b : UInt8) : Bool := b / 32 % 2 == 1

def readLength : Reader Nat
  | [] => none
  | b :: r =>
    if b < 0x80 then some (b.toNat, r)
    else
      let width := b.toNat - 0x80
      let n := Bytes.toNatBE (r.take width)
      if 1 ≤ width ∧ width ≤ 4 ∧ width ≤ r.length ∧ 0x80 ≤ n ∧ Nat.pow 256 (width - 1) ≤ n then
        some (n, r.drop width)
      else none

def readHeader : Reader Header
  | [] => none
  | b :: r => if isTag b then (readLength r).map fun (n, r) => (⟨b, n⟩, r) else none

def within (n : Nat) (read : Reader α) : Reader α := fun s =>
  if s.length < n then none
  else match read (s.take n) with
    | some (a, []) => some (a, s.drop n)
    | _ => none

def readContents (n : Nat) : Reader Bytes := fun s =>
  if s.length < n then none else some (s.take n, s.drop n)

def readAny : Reader (UInt8 × Bytes) := fun s => do
  let (h, r) ← readHeader s
  let (c, r) ← readContents h.length r
  return ((h.tag, c), r)

def element (tag : UInt8) (read : Reader α) : Reader α := fun s => do
  let (h, r) ← readHeader s
  if h.tag = tag then within h.length read r else none

def readElement (tag : UInt8) : Reader Bytes := fun s => do
  let (h, r) ← readHeader s
  if h.tag = tag then readContents h.length r else none

def readAll (read : Reader α) (s : Bytes) : Option α :=
  match read s with
  | some (a, []) => some a
  | _ => none

def readSmall : Reader Nat := fun s => do
  let (c, r) ← readElement tagInteger s
  match c with
  | [b] => if b < 0x80 then some (b.toNat, r) else none
  | [0, b] => if 0x80 ≤ b then some (b.toNat, r) else none
  | _ => none

def isArcs : Nat → Bytes → Bool
  | n, [] => n == 0
  | n, b :: r => (n < 4 || b < 16) && isArcs (if b < 0x80 then 0 else n + 1) r

/-- At least three octets and at most 39; the first arc is at most 2 and the others fit 32 bits. -/
def isIdentifier (c : Bytes) : Bool :=
  3 ≤ c.length && c.length ≤ 39 && c.headD 120 < 120 && isArcs 0 c.tail

def checkIdentifier (c : Bytes) : Option Bytes := if isIdentifier c then some c else none

def readIdentifier : Reader Bytes := fun s => do
  let (c, r) ← readElement tagIdentifier s
  return (← checkIdentifier c, r)

def wholeOctets : Bytes → Option Bytes
  | 0 :: r => some r
  | _ => none

def readBitString : Reader Bytes := fun s => do
  let (c, r) ← readElement tagBitString s
  return (← wholeOctets c, r)

/-- The optional field of a number in a sequence. Fields of lower numbers before it are skipped; any
other element is left where it is. -/
def readField (number : UInt8) (read : UInt8 → Reader α) : Nat → Reader (Option α)
  | 0, s => some (none, s)
  | _ + 1, [] => some (none, [])
  | fuel + 1, b :: r =>
    if ¬ isTag b then none
    else if ¬ isContextTag b ∨ number < b % 32 then some (none, b :: r)
    else if b % 32 = number then (read b (b :: r)).map fun (a, r) => (some a, r)
    else do
      let (_, r) ← readAny (b :: r)
      readField number read fuel r

def explicitField (number : UInt8) (read : Reader α) : Reader (Option α) := fun s =>
  readField number (fun tag s => if isConstructed tag then element tag read s else none) s.length s

def implicitBitString (number : UInt8) : Reader (Option Bytes) := fun s =>
  readField number
    (fun tag s => do
      if isConstructed tag then none
      let (c, r) ← readElement tag s
      return (← wholeOctets c, r))
    s.length s

def isFields : Nat → Bytes → Bool
  | _, [] => true
  | 0, _ => false
  | fuel + 1, b :: r =>
    isContextTag b && isConstructed b &&
      match element b readAny (b :: r) with
      | some (_, rest) => isFields fuel rest
      | none => false

def writeLength (n : Nat) : Bytes :=
  if n < 0x80 then [UInt8.ofNat n]
  else if n < 0x100 then 0x81 :: Bytes.ofNatBE 1 n
  else if n < 0x10000 then 0x82 :: Bytes.ofNatBE 2 n
  else if n < 0x1000000 then 0x83 :: Bytes.ofNatBE 3 n
  else 0x84 :: Bytes.ofNatBE 4 n

def write (tag : UInt8) (contents : Bytes) : Bytes :=
  tag :: (writeLength contents.length ++ contents)

end RequestAuth.Der
