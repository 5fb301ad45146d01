import RequestAuth.Curve.P256
import RequestAuth.Der
import RequestAuth.Pem

/-! The structure that holds a P-256 private key: version 1, the number as octets, and optionally the
name of a curve and the public key. The named curve plays no part; a public key must be the number's
own. -/

namespace RequestAuth.EcPrivateKey

/-- A number of 24 to 32 octets in range; shorter forms stand for leading zeros. -/
def scalar? (b : Bytes) : Option P256.Scalar :=
  if 24 ≤ b.length ∧ b.length ≤ 32 then P256.Scalar.ofNat? (Bytes.toNatBE b) else none

def fields : Der.Reader (Bytes × Option Bytes) := fun s => do
  let (version, s) ← Der.readSmall s
  if version ≠ 1 then none
  let (number, s) ← Der.readElement Der.tagOctetString s
  let (_, s) ← Der.explicitField 0 Der.readIdentifier s
  let (publicKey, s) ← Der.explicitField 1 Der.readBitString s
  return ((number, publicKey), s)

def ofDer? (s : Bytes) : Option P256.Scalar := do
  let (number, publicKey) ← Der.readAll (Der.element Der.tagSequence fields) s
  let d ← scalar? number
  match publicKey with
  | none => return d
  | some k => if k = d.uncompressed ∨ k = d.compressed then return d else none

def label : Bytes := Bytes.ofText "EC PRIVATE KEY"

def ofPem? (s : Bytes) : Option P256.Scalar := (Pem.decode? label s).bind ofDer?

end RequestAuth.EcPrivateKey
