import RequestAuth.Error

/-! What is logged on the way. -/

namespace RequestAuth

inductive Event where
  | bearerToken (keyId : String) (algorithm : Algorithm) (bound : Bool)
  | walletToken (method path : String) (withBody : Bool)
  | bodyRefused (method path : String) (fault : BodyFault)
  | authenticated (method path : String) (withProof : Bool)
  | authenticatedUrl (method url : String) (withProof : Bool)
  deriving DecidableEq

inductive Severity where
  | debug
  | info
  | warn
  deriving DecidableEq

inductive FieldValue where
  | text (s : String)
  | flag (b : Bool)
  deriving DecidableEq

def Severity.name : Severity → String
  | debug => "DEBUG"
  | info => "INFO"
  | warn => "WARN"

namespace Event

def severity : Event → Severity
  | bearerToken .. | walletToken .. | authenticated .. => .debug
  | authenticatedUrl .. => .info
  | bodyRefused .. => .warn

def message : Event → String
  | bearerToken .. => "generated api key jwt"
  | walletToken .. => "generated wallet jwt"
  | bodyRefused .. => "cannot bind request body"
  | authenticated .. | authenticatedUrl .. => "authenticated request"

def fields : Event → List (String × FieldValue)
  | bearerToken keyId algorithm bound =>
    [("key_id", .text keyId), ("algorithm", .text algorithm.name), ("uri_bound", .flag bound)]
  | walletToken method path withBody =>
    [("method", .text method), ("path", .text path), ("has_body", .flag withBody)]
  | bodyRefused method path fault =>
    [("method", .text method), ("path", .text path), ("error", .text (AuthError.body fault).message)]
  | authenticated method path withProof =>
    [("method", .text method), ("path", .text path), ("wallet_auth", .flag withProof)]
  | authenticatedUrl method url withProof =>
    [("method", .text method), ("url", .text url), ("wallet_auth", .flag withProof)]

end Event
end RequestAuth
