/-! Characters beyond ASCII in domain labels, written as distances in base 36 whose digits have
adapting thresholds. -/

namespace RequestAuth.Punycode

def digitChar (d : Nat) : Char := if d < 26 then Char.ofNat (97 + d) else Char.ofNat (22 + d)

def digitValue? (c : Char) : Option Nat :=
  let n := c.toNat
  if 97 ≤ n ∧ n ≤ 122 then some (n - 97)
  else if 65 ≤ n ∧ n ≤ 90 then some (n - 65)
  else if 48 ≤ n ∧ n ≤ 57 then some (n - 22)
  else none

def threshold (k bias : Nat) : Nat := min 26 (max 1 (36 * k - bias))

def settle : Nat → Nat → Nat → Nat × Nat
  | 0, delta, k => (delta, k)
  | fuel + 1, delta, k => if 455 < delta then settle fuel (delta / 35) (k + 36) else (delta, k)

def adapt (delta count : Nat) (first : Bool) : Nat :=
  let delta := if first then delta / 700 else delta / 2
  let (delta, k) := settle delta (delta + delta / count) 0
  k + 36 * delta / (delta + 38)

def writeNumber (bias : Nat) : Nat → Nat → Nat → List Char
  | 0, _, _ => []
  | fuel + 1, k, q =>
    let t := threshold k bias
    if q < t then [digitChar q]
    else digitChar (t + (q - t) % (36 - t)) :: writeNumber bias fuel (k + 1) ((q - t) / (36 - t))

/-- The text so far, the pending distance, the bias and the number of characters handled. -/
structure Progress where
  written : List Char
  delta : Nat
  bias : Nat
  handled : Nat

def Progress.pass (basic m : Nat) (p : Progress) (c : Char) : Progress :=
  if c.toNat < m then { p with delta := p.delta + 1 }
  else if c.toNat = m then
    ⟨p.written ++ writeNumber p.bias (p.delta + 1) 1 p.delta, 0,
      adapt p.delta (p.handled + 1) (p.handled == basic), p.handled + 1⟩
  else p

def insertAll (cs : List Char) (basic : Nat) : List Nat → Nat → Progress → Progress
  | [], _, p => p
  | m :: ms, n, p =>
    let p := cs.foldl (Progress.pass basic m) { p with delta := p.delta + (m - n) * (p.handled + 1) }
    insertAll cs basic ms (m + 1) { p with delta := p.delta + 1 }

def encode (cs : List Char) : List Char :=
  let basic := cs.filter fun c => c.toNat < 0x80
  let others := ((cs.filter fun c => 0x80 ≤ c.toNat).map Char.toNat).mergeSort.eraseDups
  let front := if basic = [] then [] else basic ++ ['-']
  front ++ (insertAll cs basic.length others 0x80 ⟨[], 0, 72, basic.length⟩).written

def readNumber (bias : Nat) : Nat → Nat → Nat → List Char → Option (Nat × List Char)
  | _, _, _, [] => none
  | k, w, i, c :: r => do
    let d ← digitValue? c
    let i := i + d * w
    if Nat.pow 2 31 ≤ i then none
    else if d < threshold k bias then return (i, r)
    else readNumber bias (k + 1) (w * (36 - threshold k bias)) i r

def decodeFrom : Nat → Nat → Nat → Nat → List Char → List Char → Option (List Char)
  | _, _, _, _, out, [] => some out
  | 0, _, _, _, _, _ => none
  | fuel + 1, n, i, bias, out, s => do
    let (j, r) ← readNumber bias 1 1 i s
    let count := out.length + 1
    let bias := adapt (j - i) count (i == 0)
    let n := n + j / count
    let place := j % count
    if n.isValidChar then
      decodeFrom fuel n (place + 1) bias (out.insertIdx place (Char.ofNat n)) r
    else none

def decode? (s : List Char) : Option (List Char) :=
  let (tail, front) := s.reverse.span (· != '-')
  let basic := front.tail.reverse
  if s.any fun c => 0x80 ≤ c.toNat then none
  else decodeFrom (s.length + 1) 0x80 0 72 basic tail.reverse

end RequestAuth.Punycode
