import RequestAuth.Curve.Modular
import RequestAuth.Hash.Sha512

/-! Ed25519 keys and signatures, on the twisted Edwards curve in extended coordinates. -/

namespace RequestAuth.Ed25519

def modulus : Nat := Nat.pow 2 255 - 19
def order : Nat := Nat.pow 2 252 + 27742317777372353535851937790883648493

def coefficient : Nat := 0x52036cee2b6ffe738cc740797779e89800700a4d4141d8ab75eb4dca135978a3

structure Seed where
  bytes : Bytes
  size : bytes.length = 32
  deriving DecidableEq

/-- `x / z` and `y / z`, with `t * z = x * y`. -/
structure Point where
  x : Nat
  y : Nat
  z : Nat
  t : Nat

def Point.neutral : Point := ⟨0, 1, 1, 0⟩

def Point.generator : Point :=
  let x := 0x216936d3cd6e53fec0a4e231fdd6dc5c692cc7609525a7b2c9562d608f25d51a
  let y := 0x6666666666666666666666666666666666666666666666666666666666666658
  ⟨x, y, 1, x * y % modulus⟩

def Point.add (p r : Point) : Point :=
  let q := modulus
  let a := Modular.sub q p.y p.x * Modular.sub q r.y r.x % q
  let b := (p.y + p.x) * (r.y + r.x) % q
  let c := 2 * (p.t * r.t % q) * coefficient % q
  let d := 2 * p.z * r.z % q
  let e := Modular.sub q b a
  let f := Modular.sub q d c
  let g := (d + c) % q
  let h := (b + a) % q
  ⟨e * f % q, g * h % q, f * g % q, e * h % q⟩

def Point.mul (p : Point) : Nat → Nat → Point
  | 0, _ => .neutral
  | bits + 1, k =>
    let h := p.mul bits (k / 2)
    let h := h.add h
    if k % 2 = 1 then h.add p else h

def Point.bytes (p : Point) : Bytes :=
  let i := Modular.inv modulus p.z
  let x := p.x * i % modulus
  let y := p.y * i % modulus
  Bytes.ofNatLE 32 (y + x % 2 * Nat.pow 2 255)

theorem Point.length_bytes (p : Point) : p.bytes.length = 32 := Bytes.length_ofNatLE _ _

/-- Whether 32 octets name a point: `(y ^ 2 - 1) / (d * y ^ 2 + 1)` has a square root. -/
def isPoint (b : Bytes) : Bool :=
  let q := modulus
  let y := Bytes.toNatLE b % Nat.pow 2 255 % q
  let yy := y * y % q
  let u := Modular.sub q yy 1
  let v := (coefficient * yy + 1) % q
  u == 0 || Modular.pow q (u * v % q) 255 ((q - 1) / 2) == 1

/-- The secret multiplier: bits 0 to 2 and 255 are cleared and bit 254 is set. -/
def Seed.multiplier (s : Seed) : Nat :=
  let n := Bytes.toNatLE ((Sha512.hash s.bytes).take 32) % Nat.pow 2 254
  n - n % 8 + Nat.pow 2 254

def Seed.publicKey (s : Seed) : Bytes := (Point.generator.mul 255 s.multiplier).bytes

theorem Seed.length_publicKey (s : Seed) : s.publicKey.length = 32 := Point.length_bytes _

def Seed.keypair (s : Seed) : Bytes := s.bytes ++ s.publicKey

theorem Seed.length_keypair (s : Seed) : s.keypair.length = 64 := by
  simp [Seed.keypair, s.size, s.length_publicKey]

inductive KeypairFault where
  | notAPoint
  | mismatched
  deriving DecidableEq

def KeypairFault.message : KeypairFault → String
  | .notAPoint => "signature error: Cannot decompress Edwards point"
  | .mismatched => "signature error: Mismatched Keypair detected"

def Seed.ofKeypair (b : Bytes) (h : b.length = 64) : Except KeypairFault Seed :=
  let s : Seed := ⟨b.take 32, by simp [h]⟩
  let key := b.drop 32
  if key = s.publicKey then .ok s
  else if isPoint key then .error .mismatched
  else .error .notAPoint

theorem Seed.ofKeypair_keypair (s : Seed) : Seed.ofKeypair s.keypair s.length_keypair = .ok s := by
  simp [Seed.ofKeypair, Seed.keypair, s.size]

def Seed.sign (s : Seed) (message : Bytes) : Bytes :=
  let nonce := Bytes.toNatLE (Sha512.hash ((Sha512.hash s.bytes).drop 32 ++ message)) % order
  let r := (Point.generator.mul 255 nonce).bytes
  let k := Bytes.toNatLE (Sha512.hash (r ++ s.publicKey ++ message)) % order
  r ++ Bytes.ofNatLE 32 ((nonce + k * s.multiplier) % order)

theorem Seed.length_sign (s : Seed) (message : Bytes) : (s.sign message).length = 64 := by
  simp [Seed.sign, Point.length_bytes, Bytes.length_ofNatLE]

end RequestAuth.Ed25519
