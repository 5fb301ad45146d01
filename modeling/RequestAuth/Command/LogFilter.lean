import RequestAuth.Environment
import RequestAuth.Text.Blank

/-! Which log filters can be used: levels for all events, or for the events of a module or span. -/

namespace RequestAuth

inductive LogFilterFault where
  | level
  | directive
  deriving DecidableEq

namespace LogFilterFault

def levels : String :=
  "error parsing level filter: expected one of \"off\", \"error\", \"warn\", \"info\", \"debug\", " ++
    "\"trace\", or a number 0-5"

/-- The message and then its own cause, which for a level is the same. -/
def messages : LogFilterFault → List String
  | level => [levels, levels]
  | directive => ["invalid filter directive"]

end LogFilterFault

namespace LogFilter

def isLevel (cs : List Char) : Bool :=
  let s := String.ofList cs
  match Environment.countText? s with
  | some n => n ≤ 5
  | none => ["", "error", "warn", "info", "debug", "trace", "off"].contains (asciiLower s)

inductive Stage where
  | start
  | name
  | span
  | field (empty : Bool)
  | fields
  | target
  | level (start : Nat)
  deriving DecidableEq

def startsName (c : Char) : Bool := c.isAlphanum || c == '-' || c == ':' || c == '_' || 0x80 ≤ c.toNat

def step (i : Nat) (c : Char) : Stage → Option Stage
  | .start => if c == '[' then some .span else if startsName c then some .name else none
  | .name => if c == '=' then some (.level (i + 1)) else if c == '[' then some .span else some .name
  | .span => if c == ']' then some .target else if c == '\x7b' then some (.field true) else some .span
  | .field empty => if c != '\x7d' then some (.field false) else if empty then none else some .fields
  | .fields => if c == ']' then some .target else none
  | .target => if c == '=' then some (.level (i + 1)) else none
  | .level start => some (.level start)

def stage : Nat → Stage → List Char → Option Stage
  | _, s, [] => some s
  | i, s, c :: r => (step i c s).bind fun s => stage (i + 1) s r

/-- A directive. Blanks around it do not count in the search for signs, but the level is then taken
from the text with its blanks. -/
def checkDirective (cs : List Char) : Except LogFilterFault Unit :=
  match stage 0 .start (trimList cs) with
  | some .name | some .target => .ok ()
  | some (.level start) =>
    let level := cs.drop start
    if isLevel level then .ok () else .error .level
  | _ => .error .directive

def checkAll : List (List Char) → Except LogFilterFault Unit
  | [] => .ok ()
  | cs :: r => do
    if cs ≠ [] then checkDirective cs
    checkAll r

/-- Directives between commas. -/
def check (s : String) : Except LogFilterFault Unit := checkAll (s.toList.splitOn ',')

end LogFilter
end RequestAuth
