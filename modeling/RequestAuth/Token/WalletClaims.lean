import RequestAuth.RequestUri

/-! The claims of a wallet proof: one request, its body unless that is empty, and no expiry. -/

namespace RequestAuth

structure WalletClaims where
  uris : List RequestUri
  body : Option Members
  notBefore : Int64
  issuedAt : Int64
  tokenId : String

namespace WalletClaims

def new (uri : RequestUri) (body : Members) (tokenId : String) (now : Int64) : WalletClaims where
  uris := [uri]
  body := if body.isEmpty then none else some body
  notBefore := now
  issuedAt := now
  tokenId := tokenId

def toJson (c : WalletClaims) : Json :=
  .object ([("uris", .list (c.uris.map RequestUri.toJson))] ++
    (c.body.map fun ms => ("req", .object ms)).toList ++
    [("nbf", .instant c.notBefore), ("iat", .instant c.issuedAt), ("jti", .text c.tokenId)])

def shown (c : WalletClaims) : Shown :=
  .record "WalletClaims"
    [("uris", .list (c.uris.map RequestUri.shown)), ("req", .option .members c.body),
      ("nbf", .int c.notBefore.toInt), ("iat", .int c.issuedAt.toInt), ("jti", .text c.tokenId)]

inductive Slot where
  | uris
  | req
  | nbf
  | iat
  | jti
  deriving DecidableEq

@[reducible] def shape : Shape where
  Slot := Slot
  decEq := inferInstance
  title := "WalletClaims"
  slots := [.uris, .req, .nbf, .iat, .jti]
  mem_slots := by intro s; cases s <;> simp
  names
    | .uris => ("uris", [])
    | .req => ("req", [])
    | .nbf => ("nbf", [])
    | .iat => ("iat", [])
    | .jti => ("jti", [])
  Value
    | .uris => List RequestUri
    | .req => Option Members
    | .nbf | .iat => Int64
    | .jti => String
  absent
    | .req => some none
    | .uris | .nbf | .iat | .jti => none
  omitted
    | .req => some none
    | .uris | .nbf | .iat | .jti => none

def readSlot : (s : Slot) → Nat → Json.Read.Reader (shape.Value s)
  | .uris, depth => Json.Read.listOf (fun _ => RequestUri.read) depth
  | .req, depth => Json.Read.optional (Json.Read.object depth)
  | .nbf, _ => Json.Read.instant
  | .iat, _ => Json.Read.instant
  | .jti, _ => Json.Read.string

def ofFilled (f : shape.Filled) : WalletClaims := ⟨f .uris, f .req, f .nbf, f .iat, f .jti⟩

def read (depth : Nat) : Json.Read.Reader WalletClaims := fun s => do
  let (f, r) ← Json.Read.record shape readSlot depth s
  return (ofFilled f, r)

end WalletClaims
end RequestAuth
