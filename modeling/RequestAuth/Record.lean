import RequestAuth.Number.Shortest
import RequestAuth.Text.Quoted

/-! Records as they are read from any kind of document: named members, some with other names or with
a value that stands for their absence. -/

namespace RequestAuth

inductive Found where
  | null
  | bool (b : Bool)
  | integer (n : Int)
  | float (x : Binary64)
  | text (s : String)
  | list
  | map
  | other (description : String)
  deriving DecidableEq

structure Wording where
  null : String
  float : Binary64 → List Char

def Found.describe (w : Wording) : Found → String
  | .null => w.null
  | .bool true => "boolean `true`"
  | .bool false => "boolean `false`"
  | .integer n => s!"integer `{n}`"
  | .float x => s!"floating point `{String.ofList (w.float x)}`"
  | .text s => s!"string {quoted s}"
  | .list => "sequence"
  | .map => "map"
  | .other s => s

inductive Mismatch where
  | type (found : Found) (expected : String)
  | value (found : Found) (expected : String)
  | length (n : Nat) (expected : String)
  | variant (name expected : String)
  | missing (name : String)
  | duplicate (name : String)
  deriving DecidableEq

def Mismatch.message (w : Wording) : Mismatch → String
  | type f e => s!"invalid type: {f.describe w}, expected {e}"
  | value f e => s!"invalid value: {f.describe w}, expected {e}"
  | length n e => s!"invalid length {n}, expected {e}"
  | variant v e => s!"unknown variant `{v}`, expected {e}"
  | missing n => s!"missing field `{n}`"
  | duplicate n => s!"duplicate field `{n}`"

/-- The members of a record in order. -/
structure Shape where
  Slot : Type
  decEq : DecidableEq Slot
  title : String
  slots : List Slot
  mem_slots : ∀ s, s ∈ slots
  names : Slot → String × List String
  Value : Slot → Type
  absent : (s : Slot) → Option (Value s)
  /-- The value of a member beyond the end of a list of values. -/
  omitted : (s : Slot) → Option (Value s)

namespace Shape

instance (F : Shape) : DecidableEq F.Slot := F.decEq

def expected (F : Shape) : String := "struct " ++ F.title

def expectedLength (F : Shape) : String := s!"struct {F.title} with {F.slots.length} elements"

def name (F : Shape) (s : F.Slot) : String := (F.names s).1

def slot? (F : Shape) (name : String) : Option F.Slot :=
  F.slots.find? fun s => (F.names s).1 == name || (F.names s).2.contains name

def Draft (F : Shape) := (s : F.Slot) → Option (F.Value s)

def Draft.empty (F : Shape) : F.Draft := fun _ => none

def Draft.set {F : Shape} (d : F.Draft) (s : F.Slot) (v : F.Value s) : F.Draft := fun t =>
  if h : s = t then some (h ▸ v) else d t

def Draft.get? {F : Shape} (d : F.Draft) (s : F.Slot) : Option (F.Value s) :=
  (d s).or (F.absent s)

theorem Draft.set_same {F : Shape} (d : F.Draft) (s : F.Slot) (v : F.Value s) : d.set s v s = some v := by
  simp [Draft.set]

theorem Draft.set_other {F : Shape} (d : F.Draft) {s t : F.Slot} (v : F.Value s) (h : s ≠ t) :
    d.set s v t = d t := by
  simp [Draft.set, h]

def Filled (F : Shape) := (s : F.Slot) → F.Value s

/-- All values, or the first member that has none. -/
def Draft.fill {F : Shape} (d : F.Draft) : Except F.Slot F.Filled :=
  match h : F.slots.find? fun s => (d.get? s).isNone with
  | some s => .error s
  | none => .ok fun s => (d.get? s).get (by
      have hs := List.find?_eq_none.mp h s (F.mem_slots s)
      cases hd : d.get? s with
      | none => simp [hd] at hs
      | some v => rfl)

end Shape
end RequestAuth
