import RequestAuth.Record
import RequestAuth.Text.LowerCase

/-! Settings from environment variables. The letter case of a variable's name does not count. -/

namespace RequestAuth

/-- What the variables say under one name. A dot or an index in the name of a variable stands for a
place inside a value, of which only the kind matters. -/
inductive Setting where
  | text (s : String)
  | list
  | map
  deriving DecidableEq

inductive SettingFault where
  | type (name : String) (found : Setting) (expected : String)
  | missing (name : String)
  | duplicate (name : String)
  deriving DecidableEq

namespace SettingFault

/-- Values inside others are not known to come from the environment. -/
def message : SettingFault → String
  | type name (.text s) expected =>
    s!"invalid type: string {quoted s}, expected {expected} for key `{name}` in the environment"
  | type name .list expected => s!"invalid type: sequence, expected {expected} for key `{name}`"
  | type name .map expected => s!"invalid type: map, expected {expected} for key `{name}`"
  | missing name => s!"missing configuration field {quoted name}"
  | duplicate name => s!"duplicate field `{name}`"

end SettingFault

namespace Environment

abbrev Variables := List (String × String)

def scope : List Char := ['c', 'd', 'p', '_']

def localName? (name : String) : Option (List Char) :=
  let name := (lowerCase name).toList
  if scope.isPrefixOf name then some (name.drop scope.length) else none

inductive Step where
  | member
  | index

def isNameChar (c : Char) : Bool := c.isAlphanum || c == '_' || c == '-'

def nameFront? (cs : List Char) : Option (List Char × List Char) :=
  let name := cs.takeWhile isNameChar
  if name = [] then none else some (name, cs.drop name.length)

def decimal (digits : List Char) : Nat := digits.foldl (fun n c => 10 * n + (c.toNat - 48)) 0

def afterIndex? (cs : List Char) : Option (List Char) :=
  let (negative, cs) := match cs with
    | '-' :: r => (true, r)
    | cs => (false, cs)
  let digits := cs.takeWhile Char.isDigit
  let n := decimal digits
  if digits = [] ∨ Nat.pow 2 63 < (if negative then n else n + 1) then none
  else some (cs.drop digits.length)

def steps? : Nat → List Char → Option (List Step)
  | _, [] => some []
  | 0, _ => none
  | fuel + 1, '.' :: r => do
    let (_, r) ← nameFront? r
    return .member :: (← steps? fuel r)
  | fuel + 1, '[' :: r => do
    let ']' :: r ← afterIndex? r | none
    return .index :: (← steps? fuel r)
  | _, _ => none

def path? (cs : List Char) : Option (List Char × List Step) := do
  let (name, r) ← nameFront? cs
  return (name, ← steps? r.length r)

def setting (name : List Char) (value : String) : String × Setting :=
  match path? name with
  | some (root, .member :: _) => (String.ofList root, .map)
  | some (root, .index :: _) => (String.ofList root, .list)
  | _ => (String.ofList name, .text value)

abbrev Settings := List (String × Setting)

/-- A later variable replaces an earlier one. -/
def set (name : String) (value : Setting) : Settings → Settings
  | [] => [(name, value)]
  | (n, v) :: r => if n = name then (n, value) :: r else (n, v) :: set name value r

def settings (vars : Variables) : Settings :=
  vars.foldl (fun found v =>
    match localName? v.1 with
    | some name => let (n, s) := setting name v.2; set n s found
    | none => found) []

def string (name : String) : Setting → Except SettingFault String
  | .text s => .ok s
  | found => .error (.type name found "a string")

def countText? (s : String) : Option UInt64 :=
  let digits := match s.toList with
    | '+' :: r => r
    | cs => cs
  let n := decimal digits
  if digits ≠ [] ∧ digits.all Char.isDigit ∧ n < Nat.pow 2 64 then some (UInt64.ofNat n) else none

def count (name : String) : Setting → Except SettingFault UInt64
  | .text s =>
    let word := lowerCase s
    if ["true", "on", "yes"].contains word then .ok 1
    else if ["false", "off", "no"].contains word then .ok 0
    else match countText? s with
      | some n => .ok n
      | none => .error (.type name (.text s) "an integer")
  | found => .error (.type name found "an integer")

def flag (name : String) : Setting → Except SettingFault Bool
  | .text s =>
    let word := lowerCase s
    if ["1", "true", "on", "yes"].contains word then .ok true
    else if ["0", "false", "off", "no"].contains word then .ok false
    else .error (.type name (.text word) "a boolean")
  | found => .error (.type name found "a boolean")

def members (F : Shape) (read : (s : F.Slot) → String → Setting → Except SettingFault (F.Value s)) :
    F.Draft → Settings → Except SettingFault F.Draft
  | d, [] => .ok d
  | d, (name, value) :: r =>
    match F.slot? name with
    | some slot =>
      if (d slot).isSome then .error (.duplicate (F.name slot))
      else do
        let v ← read slot name value
        members F read (d.set slot v) r
    | none => members F read d r

def record (F : Shape) (read : (s : F.Slot) → String → Setting → Except SettingFault (F.Value s))
    (vars : Variables) : Except SettingFault F.Filled := do
  let d ← members F read (Shape.Draft.empty F) (settings vars)
  match d.fill with
  | .ok f => .ok f
  | .error slot => .error (.missing (F.name slot))

end Environment
end RequestAuth
