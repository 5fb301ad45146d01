import RequestAuth.Error

/-! The headers of one authenticated request. -/

namespace RequestAuth

abbrev HeaderFields := List (String × String)

def Request.insertField (hs : HeaderFields) (p : String × String) : HeaderFields :=
  hs.filter (fun q => q.1 != p.1) ++ [p]

structure HeaderSet where
  authorization : String
  contentType : String
  walletAuth : Option String
  correlationContext : String
  deriving DecidableEq

namespace HeaderSet

def walletAuthName : String := "X-Wallet-Auth"

def correlationContextName : String := "Correlation-Context"

def jsonType : String := "application/json"

def pairs (h : HeaderSet) : HeaderFields :=
  [("Authorization", h.authorization), ("Content-Type", h.contentType)] ++
    (h.walletAuth.map fun w => (walletAuthName, w)).toList ++
    [(correlationContextName, h.correlationContext)]

/-- Text, blanks and tabs; no other controls. -/
def isValueOctet (b : UInt8) : Bool := b == 9 || (32 ≤ b && b != 127)

def isValue (s : String) : Bool := (Bytes.ofText s).all isValueOctet

def put (fields : HeaderFields) (p : String × String) : Except AuthError HeaderFields :=
  if isValue p.2 then .ok (Request.insertField fields p) else .error .headerValue

/-- The fields by their lower-case names. They go in one by one, up to the first that cannot. -/
def fields (h : HeaderSet) : Except AuthError HeaderFields := do
  let fields ← put [] ("authorization", h.authorization)
  let fields ← put fields ("content-type", h.contentType)
  let fields ← match h.walletAuth with
    | some proof => put fields ("x-wallet-auth", proof)
    | none => pure fields
  put fields ("correlation-context", h.correlationContext)

def shown (h : HeaderSet) : Shown :=
  .record "AuthHeaders"
    [("authorization", .text h.authorization), ("content_type", .text h.contentType),
      ("wallet_auth", .option .text h.walletAuth),
      ("correlation_context", .text h.correlationContext)]

end HeaderSet

end RequestAuth
