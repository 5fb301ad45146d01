import RequestAuth.Record
import RequestAuth.Yaml.Parse

/-! What unquoted texts mean: null, truth values and numbers. -/

namespace RequestAuth.Yaml

def isNull (s : String) : Bool := ["null", "Null", "NULL", "~"].contains s

def truth? (s : String) : Option Bool :=
  if ["true", "True", "TRUE"].contains s then some true
  else if ["false", "False", "FALSE"].contains s then some false
  else none

def isPaddedDigits (cs : List Char) : Bool :=
  let cs := match cs with
    | '-' :: r => r
    | '+' :: r => r
    | cs => cs
  1 < cs.length && cs.head? == some '0' && cs.all Char.isDigit

def radixNumber? (radix : Nat) (cs : List Char) : Option Nat :=
  if cs = [] then none
  else cs.foldlM (fun n c => do
    let d ← hexDigit? c
    if d < radix then some (n * radix + d) else none) 0

def magnitude? : List Char → Option Nat
  | '0' :: 'x' :: r => radixNumber? 16 r
  | '0' :: 'o' :: r => radixNumber? 8 r
  | '0' :: 'b' :: r => radixNumber? 2 r
  | cs => if isPaddedDigits cs then none else radixNumber? 10 cs

def unsigned? (cs : List Char) : Option Nat :=
  match cs with
  | '+' :: r => magnitude? r
  | cs => magnitude? cs

def negative? : List Char → Option Nat
  | '-' :: r => magnitude? r
  | _ => none

/-- Whole numbers of more than 64 bits are told apart. -/
def integer? (cs : List Char) : Option Found :=
  match unsigned? cs with
  | some n =>
    if n < Nat.pow 2 64 then some (.integer n)
    else if n < Nat.pow 2 128 then some (.other s!"integer `{n}` as u128")
    else none
  | none =>
    match negative? cs with
    | some n =>
      if n ≤ Nat.pow 2 63 then some (.integer (-n))
      else if n ≤ Nat.pow 2 127 then some (.other s!"integer `-{n}` as i128")
      else none
    | none => none

def exponent? : List Char → Option Int
  | [] => some 0
  | 'e' :: '-' :: r => (radixNumber? 10 r).map fun n => -n
  | 'E' :: '-' :: r => (radixNumber? 10 r).map fun n => -n
  | 'e' :: '+' :: r => (radixNumber? 10 r).map Int.ofNat
  | 'E' :: '+' :: r => (radixNumber? 10 r).map Int.ofNat
  | 'e' :: r => (radixNumber? 10 r).map Int.ofNat
  | 'E' :: r => (radixNumber? 10 r).map Int.ofNat
  | _ => none

/-- A number with a sign beyond the range is none. Powers of ten beyond 10000 are cut to that. -/
def decimal? (cs : List Char) : Option Binary64 := do
  let (minus, cs) := match cs with
    | '-' :: r => (true, r)
    | cs => (false, cs)
  let whole := cs.takeWhile Char.isDigit
  let r := cs.drop whole.length
  let fraction := match r with
    | '.' :: r => r.takeWhile Char.isDigit
    | _ => []
  let r := match r with
    | '.' :: r => r.drop fraction.length
    | r => r
  if whole = [] ∧ fraction = [] then none
  let e := (← exponent? r) - fraction.length
  let n := (whole ++ fraction).foldl (fun n c => 10 * n + (c.toNat - 48)) 0
  let e := max (min e (10000 : Int)) (-10000 - (whole ++ fraction).length)
  let x ←
    if 0 ≤ e then Binary64.ofRatio? (n * Nat.pow 10 e.toNat) 1
    else Binary64.ofRatio? n (Nat.pow 10 (-e).toNat)
  return { x with negative := minus }

def float? (s : String) : Option Found :=
  if [".inf", ".Inf", ".INF", "+.inf", "+.Inf", "+.INF"].contains s then
    some (.other "floating point `inf`")
  else if ["-.inf", "-.Inf", "-.INF"].contains s then some (.other "floating point `-inf`")
  else if [".nan", ".NaN", ".NAN"].contains s then some (.other "floating point `NaN`")
  else
    match s.toList with
    | '+' :: '-' :: _ => none
    | '+' :: r => (decimal? r).map Found.float
    | cs => (decimal? cs).map Found.float

def plainMeaning (s : String) : Found :=
  if s = "" || isNull s then .null
  else match truth? s with
    | some b => .bool b
    | none =>
      match integer? s.toList with
      | some n => n
      | none => if isPaddedDigits s.toList then .text s else (float? s).getD (.text s)

end RequestAuth.Yaml
