import RequestAuth.Json.Typed
import RequestAuth.Text.Shown

/-! The request that a token is bound to, as one text. -/

namespace RequestAuth

structure RequestUri where
  text : String
  deriving DecidableEq

/-- Method, host and path of a request. All empty, they stand for no request. -/
structure Coordinates where
  method : String
  host : String
  path : String
  deriving DecidableEq

namespace RequestUri

def ofCoordinates (c : Coordinates) : RequestUri := ⟨c.method ++ " " ++ c.host ++ c.path⟩

def toJson (u : RequestUri) : Json := .text u.text

def shown (u : RequestUri) : Shown := .tuple "RequestUri" [.text u.text]

def read : Json.Read.Reader RequestUri := fun s => do
  let (t, r) ← Json.Read.string s
  return (⟨t⟩, r)

end RequestUri

/-- Either all coordinates are given or none. -/
inductive Coordinates.Binding where
  | request (uri : RequestUri)
  | free
  | malformed
  deriving DecidableEq

def Coordinates.binding (c : Coordinates) : Coordinates.Binding :=
  if c.method ≠ "" ∧ c.host ≠ "" ∧ c.path ≠ "" then .request (.ofCoordinates c)
  else if c.method = "" ∧ c.host = "" ∧ c.path = "" then .free
  else .malformed

end RequestAuth
