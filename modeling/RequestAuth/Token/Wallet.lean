import RequestAuth.Token.Compact
import RequestAuth.Token.Signing
import RequestAuth.Token.WalletClaims

/-! Wallet proofs. -/

namespace RequestAuth

structure WalletRequest where
  secret : String
  coordinates : Coordinates
  body : Members

namespace WalletRequest

def shown (r : WalletRequest) : Shown :=
  .record "WalletSigningRequest"
    [("wallet_secret", .secret), ("request_method", .text r.coordinates.method),
      ("request_host", .text r.coordinates.host), ("request_path", .text r.coordinates.path),
      ("request_data", .members r.body)]

def claims (r : WalletRequest) (n : Nonce) (now : Int64) : WalletClaims :=
  .new (.ofCoordinates r.coordinates) r.body n.hex now

open Signing

/-- The nonce is taken after the key is read. -/
def token (r : WalletRequest) (now : Int64) : Signing String := do
  if r.secret = "" then throw (.missing .walletSecret)
  let key ← parseWalletKey r.secret
  let n ← drawNonce
  let claims := r.claims n now
  let text ← lift (Token.encode (.new .es256) claims.toJson key)
  log (.walletToken r.coordinates.method r.coordinates.path claims.body.isSome)
  return text

end WalletRequest

end RequestAuth
