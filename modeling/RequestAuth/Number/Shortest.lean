import RequestAuth.Number.Binary64

/-! The shortest decimal that reads back as a given binary number: of all decimals in the interval
that rounds to it, one with the fewest digits, and of those the nearest. -/

namespace RequestAuth.Binary64

/-- The decimals that round to a number, as bounds over a common denominator. -/
structure Interval where
  low : Nat
  value : Nat
  high : Nat
  den : Nat
  closed : Bool

/-- Halfway to the neighbours on both sides. The lower neighbour of a power of two is nearer. -/
def interval (x : Binary64) : Interval :=
  let (n, d) := (⟨false, 1, x.exponent⟩ : Binary64).ratio
  let m := x.mantissa
  let near := if m = Nat.pow 2 52 ∧ -1074 < x.exponent then 1 else 2
  ⟨(4 * m - near) * n, 4 * m * n, (4 * m + 2) * n, 4 * d, m % 2 == 0⟩

def Interval.contains (i : Interval) (n d : Nat) : Bool :=
  let v := n * i.den
  (i.low * d < v && v < i.high * d) || (i.closed && (i.low * d == v || i.high * d == v))

def digitCount (n : Nat) : Nat := (Nat.toDigits 10 n).length

def logTen (n d : Nat) : Int :=
  let k : Int := (digitCount n : Int) - digitCount d
  let (a, b) := match k with
    | .ofNat e => (n, d * Nat.pow 10 e)
    | .negSucc e => (n * Nat.pow 10 (e + 1), d)
  if a < b then k - 1 else k

structure Decimal where
  digits : Nat
  exponent : Int
  deriving DecidableEq

def gridPoint (k : Nat) : Int → Nat × Nat
  | .ofNat e => (k * Nat.pow 10 e, 1)
  | .negSucc e => (k, Nat.pow 10 (e + 1))

/-- The nearer of the value's two neighbours on the grid of `10 ^ e` that lie in the interval. -/
def Interval.onGrid (i : Interval) (e : Int) : Option Decimal :=
  let (u, v) := gridPoint 1 e
  let k := i.value * v / (i.den * u)
  let low := gridPoint k e
  let high := gridPoint (k + 1) e
  let inLow := i.contains low.1 low.2
  let inHigh := i.contains high.1 high.2
  let rest := i.value * v - k * (i.den * u)
  if inLow && (!inHigh || 2 * rest < i.den * u || (2 * rest == i.den * u && k % 2 == 0)) then
    some ⟨k, e⟩
  else if inHigh then some ⟨k + 1, e⟩
  else none

def Interval.search (i : Interval) : Nat → Int → Decimal
  | 0, e => ⟨i.value / i.den, e⟩
  | n + 1, e =>
    match i.onGrid e with
    | some d => d
    | none => i.search n (e - 1)

/-- Seventeen digits are always enough. -/
def shortest (x : Binary64) : Decimal :=
  let i := x.interval
  let e := logTen i.value i.den
  i.search 18 e

def Decimal.strip : Nat → Decimal → Decimal
  | 0, d => d
  | fuel + 1, d =>
    if d.digits % 10 = 0 ∧ d.digits ≠ 0 then Decimal.strip fuel ⟨d.digits / 10, d.exponent + 1⟩ else d

/-- Positional notation with at least one digit after the point for first digits from `10 ^ -5` to
`10 ^ 15`, and otherwise one digit before the point and a signed exponent. -/
def Decimal.chars (d : Decimal) : List Char :=
  let ds := Nat.toDigits 10 d.digits
  let first : Int := d.exponent + ds.length - 1
  if 16 ≤ first ∨ first < -5 then
    let point := match ds with
      | [] => []
      | [c] => [c]
      | c :: r => c :: '.' :: r
    let sign := if first < 0 then '-' else '+'
    point ++ 'e' :: sign :: Nat.toDigits 10 first.natAbs
  else if first < 0 then
    '0' :: '.' :: (List.replicate (first.natAbs - 1) '0' ++ ds)
  else
    let whole := first.toNat + 1
    if ds.length ≤ whole then ds ++ List.replicate (whole - ds.length) '0' ++ ['.', '0']
    else ds.take whole ++ '.' :: ds.drop whole

def Decimal.positional (d : Decimal) : List Char :=
  let ds := Nat.toDigits 10 d.digits
  match d.exponent with
  | .ofNat e => ds ++ List.replicate e '0' ++ ['.', '0']
  | .negSucc e =>
    if ds.length ≤ e + 1 then '0' :: '.' :: (List.replicate (e + 1 - ds.length) '0' ++ ds)
    else ds.take (ds.length - (e + 1)) ++ '.' :: ds.drop (ds.length - (e + 1))

def signed (x : Binary64) (body : Decimal → List Char) : List Char :=
  let cs := if x.mantissa = 0 then ['0', '.', '0'] else body (x.shortest.strip 20)
  if x.negative then '-' :: cs else cs

def chars (x : Binary64) : List Char := x.signed Decimal.chars

def positionalChars (x : Binary64) : List Char := x.signed Decimal.positional

end RequestAuth.Binary64
