import RequestAuth.Event
import RequestAuth.Nonce

/-! What making a token changes: values are taken from the source of nonces, and what happens is logged.
Both last when a step fails. -/

namespace RequestAuth

structure SignerState where
  nonces : NonceSource
  events : List Event

abbrev Signing (α : Type) := EStateM AuthError SignerState α

namespace Signing

def drawNonce : Signing Nonce := fun s =>
  match s.nonces.take with
  | (.ok n, nonces) => .ok n { s with nonces }
  | (.error reason, nonces) => .error (.nonce reason) { s with nonces }

def log (e : Event) : Signing Unit := modify fun s => { s with events := s.events ++ [e] }

def lift : Except AuthError α → Signing α
  | .ok a => pure a
  | .error e => throw e

def parseKey (secret : String) : Signing SigningKey :=
  lift ((SigningKey.ofApiSecret secret).mapError .key)

def parseWalletKey (secret : String) : Signing SigningKey :=
  lift (((SigningKey.ofWalletSecret secret).map .ec).mapError .key)

end Signing
end RequestAuth
