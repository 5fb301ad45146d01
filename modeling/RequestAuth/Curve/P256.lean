import RequestAuth.Curve.Modular
import RequestAuth.Hash.Hmac

/-! The curve P-256 and its ES256 signatures. Points are kept in Jacobian coordinates; a signature's
secret multiplier is drawn from the key and the digest, so that one message has one signature. -/

namespace RequestAuth.P256

def modulus : Nat := 0xffffffff00000001000000000000000000000000ffffffffffffffffffffffff
def order : Nat := 0xffffffff00000000ffffffffffffffffbce6faada7179e84f3b9cac2fc632551

/-- A private key: a number between zero and the order of the group. -/
structure Scalar where
  val : Nat
  pos : 0 < val
  lt : val < order
  deriving DecidableEq

/-- `x / z ^ 2` and `y / z ^ 3`; the point at infinity has `z = 0`. -/
structure Point where
  x : Nat
  y : Nat
  z : Nat

def Point.infinity : Point := ⟨1, 1, 0⟩

def Point.generator : Point :=
  ⟨0x6b17d1f2e12c4247f8bce6e563a440f277037d812deb33a0f4a13945d898c296,
   0x4fe342e2fe1a7f9b8ee7eb4a7c0f9e162bce33576b315ececbb6406837bf51f5, 1⟩

def Point.double (p : Point) : Point :=
  let q := modulus
  let delta := p.z * p.z % q
  let gamma := p.y * p.y % q
  let beta := p.x * gamma % q
  let alpha := 3 * (Modular.sub q p.x delta * (p.x + delta)) % q
  let x := Modular.sub q (alpha * alpha) (8 * beta)
  let t := p.y + p.z
  let z := Modular.sub q (t * t) (gamma + delta)
  ⟨x, Modular.sub q (alpha * Modular.sub q (4 * beta) x) (8 * (gamma * gamma)), z⟩

def Point.add (p r : Point) : Point :=
  if p.z = 0 then r
  else if r.z = 0 then p
  else
    let q := modulus
    let z1 := p.z * p.z % q
    let z2 := r.z * r.z % q
    let u1 := p.x * z2 % q
    let u2 := r.x * z1 % q
    let s1 := p.y * (r.z * z2 % q) % q
    let s2 := r.y * (p.z * z1 % q) % q
    let h := Modular.sub q u2 u1
    let d := Modular.sub q s2 s1
    if h = 0 then (if d = 0 then p.double else .infinity)
    else
      let hh := h * h % q
      let hhh := h * hh % q
      let v := u1 * hh % q
      let x := Modular.sub q (d * d) (hhh + 2 * v)
      ⟨x, Modular.sub q (d * Modular.sub q v x) (s1 * hhh), p.z * r.z % q * h % q⟩

def Point.mul (p : Point) : Nat → Nat → Point
  | 0, _ => .infinity
  | bits + 1, k =>
    let h := (p.mul bits (k / 2)).double
    if k % 2 = 1 then h.add p else h

/-- The affine coordinates; the point at infinity has none and reads as zeros. -/
def Point.affine (p : Point) : Nat × Nat :=
  let i := Modular.inv modulus p.z
  let ii := i * i % modulus
  (p.x * ii % modulus, p.y * (ii * i % modulus) % modulus)

def Scalar.publicPoint (d : Scalar) : Nat × Nat := (Point.generator.mul 256 d.val).affine

def Scalar.bytes (d : Scalar) : Bytes := Bytes.ofNatBE 32 d.val

theorem Scalar.length_bytes (d : Scalar) : d.bytes.length = 32 := Bytes.length_ofNatBE _ _

def Scalar.ofNat? (n : Nat) : Option Scalar :=
  if h : 0 < n ∧ n < order then some ⟨n, h.1, h.2⟩ else none

theorem Scalar.ofNat?_val (d : Scalar) : Scalar.ofNat? d.val = some d := by
  simp [Scalar.ofNat?, d.pos, d.lt]

def Scalar.uncompressed (d : Scalar) : Bytes :=
  let (x, y) := d.publicPoint
  0x04 :: (Bytes.ofNatBE 32 x ++ Bytes.ofNatBE 32 y)

def Scalar.compressed (d : Scalar) : Bytes :=
  let (x, y) := d.publicPoint
  UInt8.ofNat (2 + y % 2) :: Bytes.ofNatBE 32 x

/-- The state of the deterministic generator of secret multipliers: a key and a value. -/
structure Drbg where
  key : Bytes
  value : Bytes

def Drbg.absorb (g : Drbg) (mark : UInt8) (seed : Bytes) : Drbg :=
  let key := Hmac.sha256 g.key (g.value ++ mark :: seed)
  ⟨key, Hmac.sha256 key g.value⟩

def Drbg.seeded (seed : Bytes) : Drbg :=
  let g : Drbg := ⟨List.replicate 32 0, List.replicate 32 1⟩
  (g.absorb 0 seed).absorb 1 seed

/-- The first multiplier in range. A draw misses with a chance near `2 ^ -32`; the last of the
allowed draws is reduced into range. -/
def Drbg.multiplier : Nat → Drbg → Nat
  | 0, g => Bytes.toNatBE (Hmac.sha256 g.key g.value) % (order - 1) + 1
  | draws + 1, g =>
    let value := Hmac.sha256 g.key g.value
    let k := Bytes.toNatBE value
    if 0 < k ∧ k < order then k else ((⟨g.key, value⟩ : Drbg).absorb 0 []).multiplier draws

def Scalar.signDigest (d : Scalar) (digest : Nat) : Nat × Nat :=
  let k := (Drbg.seeded (d.bytes ++ Bytes.ofNatBE 32 (digest % order))).multiplier 128
  let r := (Point.generator.mul 256 k).affine.1 % order
  (r, Modular.inv order k * (digest + r * d.val) % order)

/-- The two numbers of the signature, 32 octets each. -/
def Scalar.sign (d : Scalar) (message : Bytes) : Bytes :=
  let (r, s) := d.signDigest (Bytes.toNatBE (Sha256.hash message))
  Bytes.ofNatBE 32 r ++ Bytes.ofNatBE 32 s

theorem Scalar.length_sign (d : Scalar) (message : Bytes) : (d.sign message).length = 64 := by
  simp [Scalar.sign, Bytes.length_ofNatBE]

end RequestAuth.P256
