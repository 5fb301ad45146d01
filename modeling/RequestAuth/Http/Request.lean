import RequestAuth.Http.Headers

/-! Requests on their way out, and putting the headers into them. -/

namespace RequestAuth

inductive Body where
  | none
  | octets (b : Bytes)
  | stream
  deriving DecidableEq

/-- The members of the body that a proof binds. No body is as good as an empty object. -/
def Body.members : Body → Except BodyFault Members
  | .none => .ok []
  | .stream => .error .streaming
  | .octets [] => .ok []
  | .octets b => (Json.Read.document Json.Read.object b).mapError .document

structure Request where
  method : String
  url : Url
  headers : HeaderFields
  body : Body
  deriving DecidableEq

namespace Request

def isMethodOctet (b : UInt8) : Bool :=
  (48 ≤ b && b ≤ 57) || (65 ≤ b && b ≤ 90) || (97 ≤ b && b ≤ 122) ||
    (Bytes.ofText "!#$%&'*+-.^_\x60|~").contains b

def isMethod (s : String) : Bool := s != "" && (Bytes.ofText s).all isMethodOctet

def insertFields (hs new : HeaderFields) : HeaderFields := new.foldl insertField hs

def coordinates (r : Request) : Coordinates where
  method := asciiUpper r.method
  host := r.url.hostAndPort
  path := r.url.path

def needsProof (r : Request) : Bool := requiresWalletProof r.coordinates.method r.coordinates.path

open Signing

def boundBody (r : Request) : Signing (Option Members) := do
  if r.needsProof then
    match r.body.members with
    | .ok ms => return some ms
    | .error f => do
      log (.bodyRefused r.coordinates.method r.coordinates.path f)
      throw (.body f)
  else return none

def headersRequest (o : ClientOptions) (r : Request) (body : Option Members) : HeadersRequest where
  keyId := o.keyId
  keySecret := o.keySecret
  coordinates := r.coordinates
  body := body
  walletSecret := o.walletSecret
  source := o.source
  sourceVersion := o.sourceVersion
  expiresIn := o.expiresIn
  audience := []

def authenticatedEvent (o : ClientOptions) (r : Request) (withProof : Bool) : Event :=
  if o.debugging then .authenticatedUrl r.coordinates.method r.url.text withProof
  else .authenticated r.coordinates.method r.coordinates.path withProof

/-- A request that is being edited, and its signer. Both keep what was done to them when a step fails. -/
structure Open where
  request : Request
  signer : SignerState

abbrev Editing (α : Type) := EStateM AuthError Open α

namespace Editing

def sign (x : Signing α) : Editing α := fun s =>
  match x s.signer with
  | .ok a t => .ok a { s with signer := t }
  | .error e t => .error e { s with signer := t }

def insert (p : String × String) : Editing Unit :=
  modify fun s => { s with request.headers := insertField s.request.headers p }

def insertAll : HeaderFields → Editing Unit
  | [] => pure ()
  | p :: r => do
    insert p
    insertAll r

end Editing

/-- Puts headers into the request and gives back what was put in. Nothing goes in before the last step
that can fail. -/
def edit (o : ClientOptions) (now : Times) : Editing HeaderFields := do
  let r := (← get).request
  let body ← Editing.sign r.boundBody
  let set ← Editing.sign ((headersRequest o r body).headers now)
  let fields ← Editing.sign (lift set.fields)
  Editing.insertAll fields
  Editing.sign (log (authenticatedEvent o r set.walletAuth.isSome))
  return fields

def authenticate (o : ClientOptions) (now : Times) (r : Request) : Signing Request := fun s =>
  match edit o now ⟨r, s⟩ with
  | .ok _ t => .ok t.request t.signer
  | .error e t => .error e t.signer

end Request
end RequestAuth
