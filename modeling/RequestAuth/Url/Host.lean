import RequestAuth.Url.Basic
import RequestAuth.Url.Idna
import RequestAuth.Url.Percent

/-! Hosts: domains in lower-case ASCII, IPv4 addresses in any of their number forms, IPv6 addresses
in brackets, and opaque names for schemes without rules of their own. -/

namespace RequestAuth.Host

def splitDots (cs : List Char) : List (List Char) := cs.splitOn '.'

def radixDigit? (radix : Nat) (c : Char) : Option Nat :=
  let n := c.toNat
  let d := if 48 ≤ n ∧ n ≤ 57 then n - 48
    else if 97 ≤ n ∧ n ≤ 102 then n - 87
    else if 65 ≤ n ∧ n ≤ 70 then n - 55
    else 16
  if d < radix then some d else none

def radixNumber? (radix : Nat) (cs : List Char) : Option Nat :=
  cs.foldlM (fun n c => (radixDigit? radix c).map (n * radix + ·)) 0

/-- A decimal, octal or hexadecimal number. The marks alone stand for zero. -/
def ipv4Number? : List Char → Option Nat
  | [] => none
  | ['0'] => some 0
  | '0' :: 'x' :: r => radixNumber? 16 r
  | '0' :: 'X' :: r => radixNumber? 16 r
  | '0' :: r => radixNumber? 8 r
  | cs => radixNumber? 10 cs

def isDigits (cs : List Char) : Bool := cs != [] && cs.all Char.isDigit

/-- The last part that counts: a final empty part does not. -/
def endsInNumber (cs : List Char) : Bool :=
  match (splitDots cs).reverse with
  | [] :: last :: _ => isDigits last || (ipv4Number? last).isSome
  | last :: _ => isDigits last || (ipv4Number? last).isSome
  | [] => false

/-- The last number fills all octets that the others leave. -/
def ipv4? (cs : List Char) : Option Nat := do
  let parts := match (splitDots cs).reverse with
    | [] :: r => r.reverse
    | r => r.reverse
  if 4 < parts.length then none
  let numbers ← parts.mapM ipv4Number?
  let last ← numbers.getLast?
  let firsts := numbers.dropLast
  if last < Nat.pow 256 (4 - firsts.length) ∧ firsts.all (· < 256) then
    return (firsts.foldl (fun n x => n * 256 + x) 0) * Nat.pow 256 (4 - firsts.length) + last
  else none

def ipv4Text (n : Nat) : String :=
  s!"{n / 0x1000000 % 256}.{n / 0x10000 % 256}.{n / 0x100 % 256}.{n % 256}"

def hexPiece (cs : List Char) : Nat × List Char :=
  let ds := (cs.take 4).takeWhile fun c => (radixDigit? 16 c).isSome
  ((radixNumber? 16 ds).getD 0, cs.drop ds.length)

def dottedPart? (cs : List Char) : Option (Nat × List Char) :=
  let ds := cs.takeWhile Char.isDigit
  match radixNumber? 10 ds with
  | some n =>
    if ds = [] ∨ 255 < n ∨ (1 < ds.length ∧ ds.head? = some '0') then none
    else some (n, cs.drop ds.length)
  | none => none

def dotted? (cs : List Char) : Option (List Nat) := do
  let (a, r) ← dottedPart? cs
  let '.' :: r := r | none
  let (b, r) ← dottedPart? r
  let '.' :: r := r | none
  let (c, r) ← dottedPart? r
  let '.' :: r := r | none
  let (d, r) ← dottedPart? r
  if r = [] then return [a * 256 + b, c * 256 + d] else none

def ipv6Pieces : Nat → List Nat → Option (List Nat) → List Char → Option (List Nat × Option (List Nat))
  | 0, _, _, _ => none
  | _ + 1, done, zeros, [] => some (done, zeros)
  | fuel + 1, done, zeros, ':' :: r =>
    if zeros.isSome then none else ipv6Pieces fuel [] (some done) r
  | fuel + 1, done, zeros, cs =>
    let (n, r) := hexPiece cs
    match r with
    | '.' :: _ => (dotted? cs).map fun ps => (done ++ ps, zeros)
    | ':' :: r => if r = [] then none else ipv6Pieces fuel (done ++ [n]) zeros r
    | [] => some (done ++ [n], zeros)
    | _ => none

def ipv6? (cs : List Char) : Option (List Nat) := do
  let (ps, zeros) ← match cs with
    | ':' :: ':' :: r => ipv6Pieces (r.length + 1) [] (some []) r
    | ':' :: _ => none
    | [] => none
    | cs => ipv6Pieces (cs.length + 1) [] none cs
  match zeros with
  | none => if ps.length = 8 then return ps else none
  | some front =>
    if front.length + ps.length < 8 then
      return front ++ List.replicate (8 - front.length - ps.length) 0 ++ ps
    else none

def zeroRun (ps : List Nat) : Nat := (ps.takeWhile (· == 0)).length

/-- The place and length of the first longest run of at least two zeros. -/
def longestRun : Nat → List Nat → Option (Nat × Nat)
  | _, [] => none
  | i, p :: r =>
    let here := zeroRun (p :: r)
    match longestRun (i + 1) r with
    | some (j, n) => if n ≤ here then some (i, here) else some (j, n)
    | none => if 2 ≤ here then some (i, here) else none

def piecesText (ps : List Nat) : String :=
  ":".intercalate (ps.map fun p => String.ofList (Nat.toDigits 16 p))

def ipv6Text (ps : List Nat) : String :=
  let body := match longestRun 0 ps with
    | some (i, n) => piecesText (ps.take i) ++ "::" ++ piecesText (ps.drop (i + n))
    | none => piecesText ps
  "[" ++ body ++ "]"

def isForbidden (c : Char) : Bool :=
  c.toNat ≤ 0x20 || c.toNat == 0x7f || "%#/:<>?@[\\]^|".contains c

/-- The domain in ASCII. -/
def domain? (b : Bytes) : Option (List Char) := do
  let s ← Bytes.toText? b
  let cs ← Idna.toAscii? s.toList
  if cs.any isForbidden then none else return cs

def bracketed (cs : List Char) : Except UrlFault String :=
  match cs.reverse with
  | ']' :: r =>
    match ipv6? r.reverse.tail with
    | some ps => .ok (ipv6Text ps)
    | none => .error .invalidIpv6
  | _ => .error .invalidIpv6

/-- A host for a scheme with rules of its own. -/
def special (cs : List Char) : Except UrlFault String :=
  if cs.head? = some '[' then bracketed cs
  else match domain? (Percent.decode (Bytes.ofText (String.ofList cs))) with
    | none => .error .invalidDomain
    | some [] => .error .emptyHost
    | some d =>
      if endsInNumber d then
        match ipv4? d with
        | some n => .ok (ipv4Text n)
        | none => .error .invalidIpv4
      else .ok (String.ofList d)

def isForbiddenOpaque (c : Char) : Bool :=
  c == Char.ofNat 0 || "\t\n\r #/:<>?@[\\]^|".contains c

def opaqueText (cs : List Char) : Except UrlFault String :=
  if cs.head? = some '[' then bracketed cs
  else if cs.any isForbiddenOpaque then .error .invalidHostCharacter
  else .ok (String.ofList (Percent.encode Percent.isControl cs))

end RequestAuth.Host
