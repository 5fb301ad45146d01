import RequestAuth.RequestUri

/-! The claims of a bearer token: who holds the API key, for whom the token is, when it is valid, and
the request that it is bound to, if any. -/

namespace RequestAuth

structure BearerClaims where
  subject : String
  issuer : String
  audience : List String
  notBefore : Int64
  issuedAt : Int64
  expires : Int64
  uris : Option (List RequestUri)
  deriving DecidableEq

namespace BearerClaims

def defaultIssuer : String := "cdp"

def defaultAudience : String := "cdp_service"

def defaultLifetime : UInt64 := 120

/-- A requested lifetime of zero selects the default. -/
def lifetime (requested : UInt64) : UInt64 := if requested = 0 then defaultLifetime else requested

/-- The end of a lifetime, at most the last second that can be written. -/
def expiry (now : Int64) (lifetime : UInt64) : Int64 :=
  Int64.ofInt (min (now.toInt + lifetime.toNat) Int64.maxValue.toInt)

def new (subject : String) (audience : List String) (uri : Option RequestUri) (requested : UInt64)
    (now : Int64) : BearerClaims where
  subject := subject
  issuer := defaultIssuer
  audience := if audience = [] then [defaultAudience] else audience
  notBefore := now
  issuedAt := now
  expires := expiry now (lifetime requested)
  uris := uri.map fun u => [u]

def toJson (c : BearerClaims) : Json :=
  .object ([("sub", .text c.subject), ("iss", .text c.issuer), ("aud", .list (c.audience.map .text)),
      ("nbf", .instant c.notBefore), ("iat", .instant c.issuedAt), ("exp", .instant c.expires)] ++
    (c.uris.map fun us => ("uris", .list (us.map RequestUri.toJson))).toList)

def shown (c : BearerClaims) : Shown :=
  .record "ClaimSet"
    [("sub", .text c.subject), ("iss", .text c.issuer), ("aud", .list (c.audience.map .text)),
      ("nbf", .int c.notBefore.toInt), ("iat", .int c.issuedAt.toInt), ("exp", .int c.expires.toInt),
      ("uris", .option (fun us => .list (us.map RequestUri.shown)) c.uris)]

inductive Slot where
  | sub
  | iss
  | aud
  | nbf
  | iat
  | exp
  | uris
  deriving DecidableEq

@[reducible] def shape : Shape where
  Slot := Slot
  decEq := inferInstance
  title := "ClaimSet"
  slots := [.sub, .iss, .aud, .nbf, .iat, .exp, .uris]
  mem_slots := by intro s; cases s <;> simp
  names
    | .sub => ("sub", [])
    | .iss => ("iss", [])
    | .aud => ("aud", [])
    | .nbf => ("nbf", [])
    | .iat => ("iat", [])
    | .exp => ("exp", [])
    | .uris => ("uris", [])
  Value
    | .sub | .iss => String
    | .aud => List String
    | .nbf | .iat | .exp => Int64
    | .uris => Option (List RequestUri)
  absent
    | .uris => some none
    | .sub | .iss | .aud | .nbf | .iat | .exp => none
  omitted _ := none

def readSlot : (s : Slot) → Nat → Json.Read.Reader (shape.Value s)
  | .sub, _ => Json.Read.string
  | .iss, _ => Json.Read.string
  | .aud, depth => Json.Read.listOf (fun _ => Json.Read.string) depth
  | .nbf, _ => Json.Read.instant
  | .iat, _ => Json.Read.instant
  | .exp, _ => Json.Read.instant
  | .uris, depth => Json.Read.optional (Json.Read.listOf (fun _ => RequestUri.read) depth)

def ofFilled (f : shape.Filled) : BearerClaims :=
  ⟨f .sub, f .iss, f .aud, f .nbf, f .iat, f .exp, f .uris⟩

def read (depth : Nat) : Json.Read.Reader BearerClaims := fun s => do
  let (f, r) ← Json.Read.record shape readSlot depth s
  return (ofFilled f, r)

end BearerClaims
end RequestAuth
