import RequestAuth.Hash.Sha256

/-! Keyed SHA-256 digests. Every key in this library is at most one hash block long. -/

namespace RequestAuth.Hmac

def pad (key : Bytes) (x : UInt8) : Bytes :=
  (key ++ List.replicate (64 - key.length) 0).map (· ^^^ x)

def sha256 (key message : Bytes) : Bytes :=
  Sha256.hash (pad key 0x5c ++ Sha256.hash (pad key 0x36 ++ message))

end RequestAuth.Hmac
