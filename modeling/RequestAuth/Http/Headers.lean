import RequestAuth.Http.Correlation
import RequestAuth.Http.HeaderSet
import RequestAuth.Http.WalletRule
import RequestAuth.Token.Bearer
import RequestAuth.Token.Wallet

/-! Making the headers of a request, and of the request that opens a stream. -/

namespace RequestAuth

/-- When the bearer token of a request is made, and when its proof. -/
structure Times where
  bearer : Int64
  wallet : Int64
  deriving DecidableEq

instance : Coe Int64 Times := ⟨fun now => ⟨now, now⟩⟩

instance (n : Nat) : OfNat Times n := ⟨(OfNat.ofNat n : Int64)⟩

/-- What is made at two times can be made at one. -/
instance {α : Type} : CoeTail (Times → α) (Int64 → α) := ⟨fun x now => x now⟩

structure HeadersRequest where
  keyId : String
  keySecret : String
  coordinates : Coordinates
  body : Option Members
  walletSecret : Option String
  source : Option String
  sourceVersion : Option String
  expiresIn : Option UInt64
  audience : List String

structure StreamRequest where
  keyId : String
  keySecret : String
  source : Option String
  sourceVersion : Option String
  expiresIn : Option UInt64
  audience : List String
  deriving DecidableEq

namespace HeadersRequest

def shown (r : HeadersRequest) : Shown :=
  .record "AuthHeadersRequest"
    [("api_key_id", .text r.keyId), ("api_key_secret", .secret),
      ("request_method", .text r.coordinates.method), ("request_host", .text r.coordinates.host),
      ("request_path", .text r.coordinates.path), ("request_body", .option .members r.body),
      ("wallet_secret", .optionalSecret r.walletSecret), ("source", .option .text r.source),
      ("source_version", .option .text r.sourceVersion),
      ("expires_in", .option (fun n => .nat n.toNat) r.expiresIn),
      ("audience", .list (r.audience.map .text))]

def bearer (r : HeadersRequest) : BearerRequest where
  keyId := r.keyId
  keySecret := r.keySecret
  coordinates := r.coordinates
  expiresIn := r.expiresIn.getD 0
  audience := r.audience

def wallet (r : HeadersRequest) : Except AuthError WalletRequest :=
  match r.walletSecret with
  | none => .error (.missing .configuredWalletSecret)
  | some secret =>
    if secret = "" then .error (.missing .configuredWalletSecret)
    else .ok ⟨secret, r.coordinates, r.body.getD []⟩

/-- The proof, where the request needs one. -/
def walletToken (r : HeadersRequest) (now : Times) : Signing (Option String) := do
  if requiresWalletProof r.coordinates.method r.coordinates.path then
    let w ← Signing.lift r.wallet
    return some (← w.token now.wallet)
  else return none

def headers (r : HeadersRequest) (now : Times) : Signing HeaderSet := do
  let token ← r.bearer.token now.bearer
  let proof ← r.walletToken now
  return {
    authorization := "Bearer " ++ token
    contentType := HeaderSet.jsonType
    walletAuth := proof
    correlationContext := correlationContext r.source r.sourceVersion }

end HeadersRequest

namespace StreamRequest

def shown (r : StreamRequest) : Shown :=
  .record "WebSocketAuthRequest"
    [("api_key_id", .text r.keyId), ("api_key_secret", .secret), ("source", .option .text r.source),
      ("source_version", .option .text r.sourceVersion),
      ("expires_in", .option (fun n => .nat n.toNat) r.expiresIn),
      ("audience", .list (r.audience.map .text))]

def bearer (r : StreamRequest) : BearerRequest where
  keyId := r.keyId
  keySecret := r.keySecret
  coordinates := ⟨"", "", ""⟩
  expiresIn := r.expiresIn.getD 0
  audience := r.audience

def headers (r : StreamRequest) (now : Int64) : Signing HeaderSet := do
  let token ← r.bearer.token now
  return {
    authorization := "Bearer " ++ token
    contentType := HeaderSet.jsonType
    walletAuth := none
    correlationContext := correlationContext r.source r.sourceVersion }

end StreamRequest

end RequestAuth
