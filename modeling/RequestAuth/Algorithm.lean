import RequestAuth.Json.Typed
import RequestAuth.Text.Shown

/-! The signature schemes that a token can name. -/

namespace RequestAuth

inductive Algorithm where
  | es256
  | edDsa
  deriving DecidableEq

namespace Algorithm

def name : Algorithm → String
  | es256 => "ES256"
  | edDsa => "EdDSA"

def ofName? (s : String) : Option Algorithm :=
  if s = "ES256" then some es256 else if s = "EdDSA" then some edDsa else none

theorem ofName?_name (a : Algorithm) : ofName? a.name = some a := by
  cases a <;> decide

def toJson (a : Algorithm) : Json := .text a.name

def shown : Algorithm → Shown
  | es256 => .word "Es256"
  | edDsa => .word "EdDsa"

open Json.Read

def readName : Reader Algorithm := fun s => do
  let (c, r) ← peek s
  if c = 34 then
    let (n, r) ← text r
    match ofName? n with
    | some a => return (a, r)
    | none => reject (.variant n "`ES256` or `EdDSA`") r
  else wrongType "variant identifier" (c :: r)

def readNull : Reader Unit := fun s => do
  let (c, r) ← peek s
  if c = 110 then return ((), ← word nullRest r) else wrongType "unit" (c :: r)

/-- A name, or an object with the name as its only member and null as that member's value. -/
def read (depth : Nat) : Reader Algorithm := fun s => do
  let (c, r) ← peek s
  if c = 34 then readName (c :: r)
  else if c = 123 then
    let _ ← descend depth (c :: r)
    let (a, r) ← readName r
    let r ← colon r
    let (_, r) ← readNull r
    match skipSpace r with
    | [] => stopAt .endInObject []
    | c :: r => if c = 125 then return (a, r) else stopAt .expectedValue (c :: r)
  else stopPast .expectedValue (c :: r)

end Algorithm
end RequestAuth
