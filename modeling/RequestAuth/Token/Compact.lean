import RequestAuth.Error
import RequestAuth.Token.Header

/-! The compact form of a token: header, payload and signature in base64 with dots between them. -/

namespace RequestAuth.Token

def segment (b : Bytes) : String :=
  String.ofList ((Base64.encode .url b).map fun c => Char.ofNat c.toNat)

def signingInput (h : TokenHeader) (claims : Json) : String :=
  segment (Bytes.ofText h.toJson.render) ++ "." ++ segment (Bytes.ofText claims.render)

/-- A key signs only what names its own scheme. -/
def encode (h : TokenHeader) (claims : Json) (key : SigningKey) : Except AuthError String :=
  if h.algorithm = key.algorithm then
    let input := signingInput h claims
    .ok (input ++ "." ++ segment (key.sign (Bytes.ofText input)))
  else .error (.algorithmMismatch h.algorithm key.algorithm)

end RequestAuth.Token
