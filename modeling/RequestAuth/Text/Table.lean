import RequestAuth.Bytes

/-! Tables of characters, kept as texts: numbers in base 16 with blanks between them. -/

namespace RequestAuth.Table

def words (s : String) : List (List Char) := (s.toList.splitOnP fun c => c == ' ' || c == '\n').filter (· != [])

def number (w : List Char) : Nat := w.foldl (fun n c => 16 * n + (Bytes.hexValue? c).getD 0) 0

def numbers (s : String) : List Nat := (words s).map number

/-- Characters at regular distances, and what they are written as. If that is one character, it moves along. -/
structure Row where
  first : Nat
  last : Nat
  step : Nat
  target : List Nat

def Row.contains (r : Row) (n : Nat) : Bool :=
  r.first ≤ n && n ≤ r.last && (n - r.first) % r.step == 0

def Row.at (r : Row) (n : Nat) : List Nat :=
  match r.target with
  | [t] => [t + (n - r.first)]
  | ts => ts

/-- `first-last/step=target`, or what the character after those of the row before is written as. -/
def readRow (next : Nat) (w : List Char) : Row :=
  let target (t : List Char) := (t.splitOn '+').map number
  match w.splitOn '=' with
  | [source, t] =>
    let (range, step) := match source.splitOn '/' with
      | [range, step] => (range, number step)
      | _ => (source, 1)
    match range.splitOn '-' with
    | [first, last] => ⟨number first, number last, step, target t⟩
    | _ => ⟨number range, number range, step, target t⟩
  | _ => ⟨next, next, 1, target w⟩

def rowsFrom : Nat → List (List Char) → List Row
  | _, [] => []
  | next, w :: ws =>
    let r := readRow next w
    r :: rowsFrom (r.last + 1) ws

def rows (s : String) : List Row := rowsFrom 0 (words s)

/-- `first:value` for each run of characters with one value. -/
def runs (s : String) : List (Nat × List Char) :=
  (words s).map fun w =>
    match w.splitOn ':' with
    | [first, value] => (number first, value)
    | _ => (number w, [])

def valueAt (rs : List (Nat × α)) (n : Nat) : Option α := ((rs.takeWhile (·.1 ≤ n)).getLast?).map Prod.snd

end RequestAuth.Table
