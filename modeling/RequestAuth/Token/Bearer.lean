import RequestAuth.Token.BearerClaims
import RequestAuth.Token.Compact
import RequestAuth.Token.Signing

/-! Bearer tokens. -/

namespace RequestAuth

/-- A token that shows who holds an API key, for one request or, without coordinates, for a stream. -/
structure BearerRequest where
  keyId : String
  keySecret : String
  coordinates : Coordinates
  expiresIn : UInt64
  audience : List String
  deriving DecidableEq

namespace BearerRequest

def shown (r : BearerRequest) : Shown :=
  .record "SigningRequest"
    [("key_id", .text r.keyId), ("key_secret", .secret),
      ("request_method", .text r.coordinates.method), ("request_host", .text r.coordinates.host),
      ("request_path", .text r.coordinates.path), ("expires_in", .nat r.expiresIn.toNat),
      ("audience", .list (r.audience.map .text))]

def header (keyId : String) (n : Nonce) (key : SigningKey) : TokenHeader :=
  { TokenHeader.new key.algorithm with keyId := some keyId, nonce := some n.hex }

def claims (r : BearerRequest) (uri : Option RequestUri) (now : Int64) : BearerClaims :=
  .new r.keyId r.audience uri r.expiresIn now

def uri (r : BearerRequest) : Except AuthError (Option RequestUri) :=
  match r.coordinates.binding with
  | .request u => .ok (some u)
  | .free => .ok none
  | .malformed => .error .malformedCoordinates

open Signing

/-- The nonce is taken before the key is read. -/
def token (r : BearerRequest) (now : Int64) : Signing String := do
  if r.keyId = "" then throw (.missing .keyId)
  if r.keySecret = "" then throw (.missing .keySecret)
  let uri ← lift r.uri
  let n ← drawNonce
  let key ← parseKey r.keySecret
  let text ← lift (Token.encode (header r.keyId n key) (r.claims uri now).toJson key)
  log (.bearerToken r.keyId key.algorithm uri.isSome)
  return text

end BearerRequest

end RequestAuth
