/-! Finite numbers of the 64-bit binary format, as exact integers times powers of two. Products and
quotients are rounded to the nearest such number, a tie to the even one. -/

namespace RequestAuth

/-- The number `mantissa * 2 ^ exponent`, negated if so marked. -/
structure Binary64 where
  negative : Bool
  mantissa : Nat
  exponent : Int
  deriving DecidableEq

namespace Binary64

/-- The quotient to the nearest integer, a tie to the even one. -/
def roundDiv (n d : Nat) : Nat :=
  let q := n / d
  let r := n % d
  if 2 * r < d then q
  else if d < 2 * r then q + 1
  else q + q % 2

def scale (n d : Nat) : Int → Nat × Nat
  | .ofNat e => (n, d * Nat.pow 2 e)
  | .negSucc e => (n * Nat.pow 2 (e + 1), d)

def logTwo (n d : Nat) : Int :=
  let k : Int := (n.log2 : Int) - d.log2
  let (a, b) := scale n d k
  if a < b then k - 1 else k

/-- The nearest non-negative number to `n / d`, or nothing if that lies beyond the largest. -/
def ofRatio? (n d : Nat) : Option Binary64 :=
  if n = 0 then some ⟨false, 0, -1074⟩
  else
    let e := max (logTwo n d - 52) (-1074)
    let (a, b) := scale n d e
    let m := roundDiv a b
    let (m, e) := if m = Nat.pow 2 53 then (Nat.pow 2 52, e + 1) else (m, e)
    if 971 < e then none else some ⟨false, m, e⟩

def ratio (x : Binary64) : Nat × Nat :=
  match x.exponent with
  | .ofNat e => (x.mantissa * Nat.pow 2 e, 1)
  | .negSucc e => (x.mantissa, Nat.pow 2 (e + 1))

def mul? (x y : Binary64) : Option Binary64 :=
  let (a, b) := x.ratio
  let (c, d) := y.ratio
  ofRatio? (a * c) (b * d)

def div? (x y : Binary64) : Option Binary64 :=
  let (a, b) := x.ratio
  let (c, d) := y.ratio
  ofRatio? (a * d) (b * c)

def zero : Binary64 := ⟨false, 0, -1074⟩

def pow10? (e : Nat) : Option Binary64 := ofRatio? (Nat.pow 10 e) 1

end Binary64
end RequestAuth
