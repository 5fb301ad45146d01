import RequestAuth.Algorithm
import RequestAuth.Base64
import RequestAuth.Curve.Ed25519
import RequestAuth.Key.EcPrivateKey
import RequestAuth.Key.PrivateKeyInfo
import RequestAuth.Text.Blank

/-! Secrets become signing keys. An API secret is an armoured P-256 key or the base64 of an Ed25519
keypair; a wallet secret is the base64 of a wrapped P-256 key. -/

namespace RequestAuth

inductive SigningKey where
  | ec (d : P256.Scalar)
  | edwards (s : Ed25519.Seed)
  deriving DecidableEq

inductive KeyFault where
  | keypair (f : Ed25519.KeypairFault)
  | unrecognized
  | walletText (f : Base64.Fault)
  | walletStructure
  | notEc
  | notP256
  deriving DecidableEq

namespace KeyFault

/-- What the decoder of wrapped keys says of octets that it refuses, in words of its own. -/
structure Reasons where
  wrapping : Bytes → String
  p256 : Bytes → String

/-- The text of a fault up to the reason of the decoder. -/
def context : KeyFault → String
  | keypair f => "invalid Ed25519 keypair: " ++ f.message
  | unrecognized => "invalid key format - must be either PEM EC key or base64 Ed25519 key"
  | walletText f => "failed to decode wallet secret: " ++ f.message
  | walletStructure => "could not create the EC key"
  | notEc => "private key is not an ECDSA key"
  | notP256 => "could not sign token: wallet key is not a P-256 key"

def message (reasons : Reasons) (octets : Bytes) : KeyFault → String
  | walletStructure => context walletStructure ++ ": " ++ reasons.wrapping octets
  | notP256 => context notP256 ++ ": " ++ reasons.p256 octets
  | f => f.context

end KeyFault

namespace SigningKey

def algorithm : SigningKey → Algorithm
  | ec _ => .es256
  | edwards _ => .edDsa

/-- Always 64 octets. -/
def sign : SigningKey → Bytes → Bytes
  | ec d, message => d.sign message
  | edwards s, message => s.sign message

theorem length_sign (k : SigningKey) (message : Bytes) : (k.sign message).length = 64 := by
  cases k with
  | ec d => exact d.length_sign message
  | edwards s => exact s.length_sign message

/-- The octets of a text without its CR and LF. -/
def unwrapped (secret : String) : Bytes :=
  (Bytes.ofText secret).filter fun c => c != Pem.cr && c != Pem.lf

def ofPem? (secret : String) : Option SigningKey :=
  (EcPrivateKey.ofPem? (Bytes.ofText (trimBlank secret))).map ec

def keypairOctets? (secret : String) : Option { b : Bytes // b.length = 64 } :=
  match Base64.decode .standard (unwrapped secret) with
  | .ok b => if h : b.length = 64 then some ⟨b, h⟩ else none
  | .error _ => none

/-- The key of an API secret. Whatever is no armoured key is tried as a keypair. -/
def ofApiSecret (secret : String) : Except KeyFault SigningKey :=
  match ofPem? secret with
  | some k => .ok k
  | none =>
    match keypairOctets? secret with
    | some b =>
      match Ed25519.Seed.ofKeypair b.1 b.2 with
      | .ok s => .ok (edwards s)
      | .error f => .error (.keypair f)
    | none => .error .unrecognized

def p256Scalar? (info : PrivateKeyInfo) : Option P256.Scalar :=
  if info.parameters = some (Der.tagIdentifier, PrivateKeyInfo.p256) then
    EcPrivateKey.ofDer? info.privateKey
  else none

/-- The key of a wallet secret. The algorithm is checked before the curve and the inner key. -/
def ofWalletSecret (secret : String) : Except KeyFault P256.Scalar :=
  match Base64.decode .standard (unwrapped secret) with
  | .error f => .error (.walletText f)
  | .ok der =>
    match PrivateKeyInfo.ofDer? der with
    | none => .error .walletStructure
    | some info =>
      if info.algorithm = PrivateKeyInfo.ecPublicKey then
        match p256Scalar? info with
        | some d => .ok d
        | none => .error .notP256
      else .error .notEc

def walletOctets (secret : String) : Bytes :=
  match Base64.decode .standard (unwrapped secret) with
  | .ok der => der
  | .error _ => []

def walletRefusal? (reasons : KeyFault.Reasons) (secret : String) : Option String :=
  match ofWalletSecret secret with
  | .ok _ => none
  | .error f => some (f.message reasons (walletOctets secret))

def shown : SigningKey → Shown
  | ec _ => .word "KeyMaterial::EllipticCurve(..)"
  | edwards _ => .word "KeyMaterial::Edwards(..)"

/-- The octets that hold the secret: the number, or the seed with its public key. -/
def secretOctets : SigningKey → Bytes
  | ec d => d.bytes
  | edwards s => s.keypair

end SigningKey
end RequestAuth
