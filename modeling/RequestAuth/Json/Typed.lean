import RequestAuth.Json.Skip

/-! Reading values of a given type. A value of another type is reported once it has been read, a list
or object as soon as it starts. -/

namespace RequestAuth.Json.Read

def reject (m : Mismatch) (s : Bytes) : Except Stop α := stopAt (.mismatch m) s

def JsonNumber.found : JsonNumber → Found
  | .integer n => .integer n
  | .float x => .float x

def wrongType (expected : String) (s : Bytes) : Except Stop α :=
  match s with
  | [] => stopPast .expectedValue []
  | c :: r =>
    if c = 110 then do reject (.type .null expected) (← word nullRest r)
    else if c = 116 then do reject (.type (.bool true) expected) (← word trueRest r)
    else if c = 102 then do reject (.type (.bool false) expected) (← word falseRest r)
    else if c = 45 then do
      let (n, r) ← number false r
      reject (.type (JsonNumber.found n) expected) r
    else if isDigit c then do
      let (n, r) ← number true (c :: r)
      reject (.type (JsonNumber.found n) expected) r
    else if c = 34 then do
      let (t, r) ← text r
      reject (.type (.text t) expected) r
    else if c = 91 then reject (.type .list expected) (c :: r)
    else if c = 123 then reject (.type .map expected) (c :: r)
    else stopPast .expectedValue (c :: r)

def peek (s : Bytes) : Except Stop (UInt8 × Bytes) :=
  match skipSpace s with
  | [] => stopPast .endInValue []
  | c :: r => .ok (c, r)

def string : Reader String := fun s => do
  let (c, r) ← peek s
  if c = 34 then text r else wrongType "a string" (c :: r)

def boolean : Reader Bool := fun s => do
  let (c, r) ← peek s
  if c = 116 then return (true, ← word trueRest r)
  else if c = 102 then return (false, ← word falseRest r)
  else wrongType "a boolean" (c :: r)

def integer (low high : Int) (expected : String) : Reader Int := fun s => do
  let (c, r) ← peek s
  if c = 45 ∨ isDigit c then
    let (n, r) ← if c = 45 then number false r else number true (c :: r)
    match n with
    | .integer n =>
      if low ≤ n ∧ n ≤ high then return (n, r) else reject (.value (.integer n) expected) r
    | .float x => reject (.type (.float x) expected) r
  else wrongType expected (c :: r)

def count : Reader UInt64 := fun s => do
  let (n, r) ← integer 0 maxCount "u64" s
  return (UInt64.ofNat n.toNat, r)

def instant : Reader Int64 := fun s => do
  let (n, r) ← integer Int64.minValue.toInt Int64.maxValue.toInt "i64" s
  return (Int64.ofInt n, r)

def optional (read : Reader α) : Reader (Option α) := fun s =>
  match skipSpace s with
  | 110 :: r => do return (none, ← word nullRest r)
  | s => do
    let (a, r) ← read s
    return (some a, r)

def descend (depth : Nat) (s : Bytes) : Except Stop Nat :=
  match depth with
  | 0 => stopPast .nestedTooDeeply s
  | depth + 1 => .ok depth

def listOf (read : Nat → Reader α) (depth : Nat) : Reader (List α) := fun s => do
  let (c, r) ← peek s
  if c = 91 then
    let depth ← descend depth (c :: r)
    items (read depth) (r.length + 1) true r
  else wrongType "a sequence" (c :: r)

def object (depth : Nat) : Reader Members := fun s => do
  let (c, r) ← peek s
  if c = 123 then
    let depth ← descend depth (c :: r)
    members (value depth) (r.length + 1) true [] r
  else wrongType "a map" (c :: r)

/-- What is left after the end of an object, as far as the end can be seen from here. -/
def leftAfterObject (s : Bytes) : Bytes :=
  match skipSpace s with
  | 125 :: r => r
  | s => s

def leftAfterList (s : Bytes) : Bytes :=
  match skipSpace s with
  | 93 :: r => r
  | 44 :: r => skipSpace r
  | s => s

def closeList (s : Bytes) : Except Stop Bytes :=
  match skipSpace s with
  | [] => stopPast .endInList []
  | c :: r =>
    if c = 93 then .ok r
    else if c = 44 then
      match skipSpace r with
      | 93 :: r => stopPast .trailingComma (93 :: r)
      | r => stopPast .trailingCharacters r
    else stopPast .trailingCharacters (c :: r)

def recordMembers (F : Shape) (read : (s : F.Slot) → Reader (F.Value s)) :
    Nat → Bool → F.Draft → Reader F.Draft
  | 0, _, _, s => stopAt .endInObject s
  | fuel + 1, first, d, s => do
    match ← nextName first s with
    | (none, r) => return (d, r)
    | (some n, r) =>
      match F.slot? n with
      | some slot =>
        if (d slot).isSome then reject (.duplicate (F.name slot)) (leftAfterObject r)
        else
          let r ← colon r
          let (v, r) ← read slot r
          recordMembers F read fuel false (d.set slot v) r
      | none =>
        let r ← colon r
        let r ← skip r
        recordMembers F read fuel false d r

def recordItems (F : Shape) (read : (s : F.Slot) → Reader (F.Value s)) :
    List F.Slot → Nat → Bool → F.Draft → Reader F.Draft
  | [], _, _, d, s => .ok (d, s)
  | slot :: slots, n, first, d, s => do
    match ← nextItem first s with
    | (true, r) =>
      let (v, r) ← read slot r
      recordItems F read slots (n + 1) false (d.set slot v) r
    | (false, r) =>
      match F.omitted slot with
      | some v => recordItems F read slots (n + 1) first (d.set slot v) r
      | none => reject (.length n F.expectedLength) (leftAfterList r)

def fill (F : Shape) (d : F.Draft) (s : Bytes) : Except Stop F.Filled :=
  match d.fill with
  | .ok f => .ok f
  | .error slot => reject (.missing (F.name slot)) s

/-- A record, as an object of its members or as a list of their values. -/
def record (F : Shape) (read : (s : F.Slot) → Nat → Reader (F.Value s)) (depth : Nat) :
    Reader F.Filled := fun s => do
  let (c, r) ← peek s
  if c = 91 then
    let depth ← descend depth (c :: r)
    let (d, r) ← recordItems F (fun slot => read slot depth) F.slots 0 true (Shape.Draft.empty F) r
    let f ← fill F d r
    return (f, ← closeList r)
  else if c = 123 then
    let depth ← descend depth (c :: r)
    let (d, r) ← recordMembers F (fun slot => read slot depth) (r.length + 1) true
      (Shape.Draft.empty F) r
    let f ← fill F d (leftAfterObject r)
    return (f, leftAfterObject r)
  else wrongType F.expected (c :: r)

end RequestAuth.Json.Read
