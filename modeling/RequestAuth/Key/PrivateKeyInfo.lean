import RequestAuth.Der

/-! The structure that wraps a private key of any kind with the identifier of its algorithm. -/

namespace RequestAuth

structure PrivateKeyInfo where
  algorithm : Bytes
  parameters : Option (UInt8 × Bytes)
  privateKey : Bytes
  deriving DecidableEq

namespace PrivateKeyInfo

def algorithmFields : Der.Reader (Bytes × Option (UInt8 × Bytes)) := fun s => do
  let (name, s) ← Der.readIdentifier s
  match s with
  | [] => return ((name, none), [])
  | s =>
    let (p, s) ← Der.readAny s
    return ((name, some p), s)

/-- Version 1 has a public key and version 0 has none. -/
def fields : Der.Reader PrivateKeyInfo := fun s => do
  let (version, s) ← Der.readSmall s
  if 1 < version then none
  let ((name, parameters), s) ← Der.element Der.tagSequence algorithmFields s
  let (key, s) ← Der.readElement Der.tagOctetString s
  let (publicKey, s) ← Der.implicitBitString 1 s
  if (version == 1) ≠ publicKey.isSome then none
  if Der.isFields s.length s then return (⟨name, parameters, key⟩, []) else none

def ofDer? (s : Bytes) : Option PrivateKeyInfo :=
  Der.readAll (Der.element Der.tagSequence fields) s

/-- The identifier 1.2.840.10045.2.1 of keys on elliptic curves. -/
def ecPublicKey : Bytes := [0x2a, 0x86, 0x48, 0xce, 0x3d, 0x02, 0x01]

/-- The identifier 1.2.840.10045.3.1.7 of the curve P-256. -/
def p256 : Bytes := [0x2a, 0x86, 0x48, 0xce, 0x3d, 0x03, 0x01, 0x07]

end PrivateKeyInfo
end RequestAuth
