import RequestAuth.Key.SigningKey
import RequestAuth.Options

/-! Everything that can go wrong on the way to an authenticated request. -/

namespace RequestAuth

inductive RequiredText where
  | keyId
  | keySecret
  | walletSecret
  | configuredWalletSecret
  deriving DecidableEq

def RequiredText.message : RequiredText → String
  | keyId => "key name is required"
  | keySecret => "private key is required"
  | walletSecret => "wallet secret is not defined"
  | configuredWalletSecret =>
    "wallet secret not configured; set CDP_WALLET_SECRET or pass it in the client options"

inductive BodyFault where
  | streaming
  | document (fault : Json.Read.Fault)
  deriving DecidableEq

def BodyFault.message : BodyFault → String
  | streaming => "streaming bodies cannot be bound to a wallet token"
  | document fault => fault.message

inductive AuthError where
  | missing (text : RequiredText)
  | malformedCoordinates
  | key (fault : KeyFault)
  | algorithmMismatch (named used : Algorithm)
  | nonce (reason : String)
  | document (fault : Json.Read.Fault)
  | body (fault : BodyFault)
  | headerValue
  | options (fault : OptionsFault)
  deriving DecidableEq

namespace AuthError

/-- The text of an error, where that of a fault in a key is up to a decoder too. -/
def text (keyText : KeyFault → String) : AuthError → String
  | missing text => text.message
  | malformedCoordinates =>
    "either all request details (method, host, path) must be provided, or all must be empty for " ++
      "JWTs intended for websocket connections"
  | key fault => keyText fault
  | algorithmMismatch named used =>
    s!"could not sign token: header algorithm {named.name} does not match {used.name} key"
  | nonce reason => "failed to generate nonce: " ++ reason
  | document fault => "Serialization error: " ++ fault.message
  | body fault => "failed to parse request body: " ++ fault.message
  | headerValue => "invalid header value: failed to parse header value"
  | options fault => "Configuration error: " ++ fault.message

def message (e : AuthError) : String := e.text KeyFault.context

/-- Whether the text of a secret is the reason. A well-formed key of another curve is not. -/
def isKeyError : AuthError → Bool
  | key .notP256 => false
  | key _ => true
  | _ => false

def isInputError : AuthError → Bool
  | missing _ | malformedCoordinates | body _ => true
  | _ => false

end AuthError
end RequestAuth
