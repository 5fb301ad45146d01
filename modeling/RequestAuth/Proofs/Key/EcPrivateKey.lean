import RequestAuth.Key.EcPrivateKey
import RequestAuth.Key.PrivateKeyInfo
import RequestAuth.Proofs.Key.Fields

/-! The structure of a P-256 private key as a grammar of its own. The reader takes the structures of the grammar,
and nothing else. -/

namespace RequestAuth

theorem P256.Scalar.ofNat?_eq_some {n : Nat} {d : P256.Scalar} : P256.Scalar.ofNat? n = some d ↔ n = d.val := by
  constructor
  · intro h
    unfold P256.Scalar.ofNat? at h
    split at h
    · cases h
      rfl
    · cases h
  · rintro rfl
    exact d.ofNat?_val

namespace Der

theorem Below.zero {passed : Bytes} (h : Below 0 passed) : passed = [] := by
  cases h with
  | nil => rfl
  | cons _ _ lower => exact absurd lower UInt8.not_lt_zero

theorem Below.of_past {passed rest : Bytes} (h : Below 1 passed) (past : Past 0 (passed ++ rest)) :
    passed = [] := by
  cases h with
  | nil => rfl
  | cons _ context lower =>
    obtain ⟨-, above⟩ := past _ rfl
    have least := above context
    rw [UInt8.lt_iff_toNat_lt] at least lower
    simp only [UInt8.reduceToNat] at least lower
    omega

end Der

namespace EcPrivateKey
open Der
variable {d : P256.Scalar} {s number : Bytes}

/-- The octets of a number. At most eight leading zeros may be left out. -/
structure Number (d : P256.Scalar) (octets : Bytes) : Prop where
  least : 24 ≤ octets.length
  most : octets.length ≤ 32
  value : Bytes.toNatBE octets = d.val

def curveField : Option Bytes → Bytes
  | none => []
  | some name => write (outer 0) (write tagIdentifier name)

def Named (curve : Option Bytes) : Prop := ∀ name ∈ curve, name = PrivateKeyInfo.p256

/-- The name of any curve, which may be left out and plays no part. More fields of its number behind it are
passed over. -/
inductive Curve : Bytes → Prop
  | absent : Curve []
  | named {name more : Bytes} (identifier : isIdentifier name) (below : Below 1 more) :
      Curve (write (outer 0) (write tagIdentifier name) ++ more)

def publicKeyField : Option Bytes → Bytes
  | none => []
  | some k => write (outer 1) (write tagBitString (0 :: k))

def Matches (d : P256.Scalar) (publicKey : Option Bytes) : Prop :=
  ∀ k ∈ publicKey, k = d.uncompressed ∨ k = d.compressed

def contents (number curve : Bytes) (publicKey : Option Bytes) : Bytes :=
  write tagInteger [1] ++ (write tagOctetString number ++ (curve ++ publicKeyField publicKey))

/-- The structure of a key on P-256. -/
inductive OfP256 (d : P256.Scalar) : Bytes → Prop
  | mk {number : Bytes} {curve publicKey : Option Bytes} (isNumber : Number d number) (named : Named curve)
      (own : Matches d publicKey) (fits : Fits (contents number (curveField curve) publicKey)) :
      OfP256 d (write tagSequence (contents number (curveField curve) publicKey))

/-- The structure that holds a number, whatever the curve. -/
inductive Encodes (d : P256.Scalar) : Bytes → Prop
  | mk {number curve : Bytes} {publicKey : Option Bytes} (isNumber : Number d number) (isCurve : Curve curve)
      (own : Matches d publicKey) (fits : Fits (contents number curve publicKey)) :
      Encodes d (write tagSequence (contents number curve publicKey))

theorem Named.isCurve {curve : Option Bytes} (h : Named curve) : Curve (curveField curve) := by
  cases curve with
  | none => exact .absent
  | some name =>
    obtain rfl := h name rfl
    have named : Curve (write (outer 0) (write tagIdentifier PrivateKeyInfo.p256) ++ []) :=
      .named (by decide) .nil
    rwa [List.append_nil] at named

theorem OfP256.encodes (h : OfP256 d s) : Encodes d s := by
  obtain ⟨isNumber, named, own, fits⟩ := h
  exact .mk isNumber named.isCurve own fits

theorem curve_eq {name : Bytes} {curve publicKey publicKey' : Option Bytes}
    (fits : Fits (curveField (some name) ++ publicKeyField publicKey))
    (fits' : Fits (curveField curve ++ publicKeyField publicKey'))
    (h : curveField (some name) ++ publicKeyField publicKey = curveField curve ++ publicKeyField publicKey') :
    curve = some name := by
  cases curve with
  | none =>
    cases publicKey' with
    | none => cases h
    | some k =>
      have first : outer 0 = outer 1 := (List.cons.inj h).1
      exact absurd first (by decide)
  | some other =>
    have field : isTag (outer 0) := by decide
    have identifier : isTag tagIdentifier := by decide
    have inner : Fits (write tagIdentifier name) := fits.left.of_write
    have inner' : Fits (write tagIdentifier other) := fits'.left.of_write
    have same := (write_inj field inner inner' h).1
    rw [← List.append_nil (write tagIdentifier name), ← List.append_nil (write tagIdentifier other)] at same
    rw [(write_inj identifier inner.of_write inner'.of_write same).1]

theorem OfP256.named {name : Bytes} {publicKey : Option Bytes}
    (fits : Fits (contents number (curveField (some name)) publicKey))
    (h : OfP256 d (write tagSequence (contents number (curveField (some name)) publicKey))) :
    name = PrivateKeyInfo.p256 := by
  have sequence : isTag tagSequence := by decide
  have integer : isTag tagInteger := by decide
  have octetString : isTag tagOctetString := by decide
  generalize octets : write tagSequence (contents number (curveField (some name)) publicKey) = s at h
  obtain ⟨-, named, -, fits'⟩ := h
  have whole := congrArg (fun s => s ++ []) octets
  have same := (write_inj sequence fits fits' whole).1
  obtain ⟨-, rest⟩ := write_inj integer fits.left.of_write fits'.left.of_write same
  obtain ⟨-, last⟩ := write_inj octetString fits.right.left.of_write fits'.right.left.of_write rest
  exact named name (curve_eq fits.right.right fits'.right.right last)

theorem scalar?_eq_some : scalar? number = some d ↔ Number d number := by
  rw [scalar?]
  constructor
  · intro h
    split at h
    · rename_i size
      exact ⟨size.1, size.2, P256.Scalar.ofNat?_eq_some.mp h⟩
    · cases h
  · intro h
    rw [if_pos ⟨h.least, h.most⟩]
    exact P256.Scalar.ofNat?_eq_some.mpr h.value

theorem readPublicKey_eq_some {publicKey : Option Bytes} (fits : Fits s) :
    explicitField 1 readBitString s = some (publicKey, []) ↔
      ∃ passed, Below 1 passed ∧ s = passed ++ publicKeyField publicKey := by
  cases publicKey with
  | none =>
    rw [explicitField_eq_none]
    constructor
    · intro h
      obtain ⟨passed, below, -, rfl⟩ := h
      exact ⟨passed, below, rfl⟩
    · intro h
      obtain ⟨passed, below, rfl⟩ := h
      exact ⟨passed, below, by simp [Past], rfl⟩
  | some k =>
    rw [explicitField_eq_some (by decide)]
    constructor
    · intro h
      obtain ⟨passed, c, below, -, read, rfl⟩ := h
      obtain ⟨-, rfl⟩ := readBitString_eq_some.mp read
      exact ⟨passed, below, by simp [publicKeyField]⟩
    · intro h
      obtain ⟨passed, below, rfl⟩ := h
      have inside : Fits (write tagBitString (0 :: k)) := fits.right.of_write
      exact ⟨passed, _, below, inside,
        readBitString_eq_some.mpr ⟨inside.of_write, (List.append_nil _).symm⟩, by simp [publicKeyField]⟩

theorem past_publicKeyField (publicKey : Option Bytes) : Past 0 (publicKeyField publicKey) := by
  cases publicKey with
  | none => simp [publicKeyField, Past]
  | some k =>
    intro b first
    cases first
    decide

/-- The curve decides where the public key is looked for: a second field of a curve's number is passed over only
behind a first. -/
theorem optionalFields_eq_some {publicKey : Option Bytes} (fits : Fits s) :
    (∃ name rest, explicitField 0 readIdentifier s = some (name, rest) ∧
        explicitField 1 readBitString rest = some (publicKey, [])) ↔
      ∃ curve, Curve curve ∧ s = curve ++ publicKeyField publicKey := by
  constructor
  · intro h
    obtain ⟨name, rest, readCurve, readKey⟩ := h
    cases name with
    | none =>
      obtain ⟨before, lower, past, rfl⟩ := explicitField_eq_none.mp readCurve
      obtain ⟨passed, below, rfl⟩ := (readPublicKey_eq_some fits.right).mp readKey
      obtain rfl := lower.zero
      obtain rfl := below.of_past past
      exact ⟨[], .absent, rfl⟩
    | some name =>
      obtain ⟨before, c, lower, -, read, rfl⟩ := (explicitField_eq_some (by decide)).mp readCurve
      obtain ⟨passed, below, rfl⟩ := (readPublicKey_eq_some fits.right.right).mp readKey
      obtain rfl := lower.zero
      obtain ⟨identifier, rfl⟩ := readIdentifier_eq_some.mp read
      exact ⟨_, .named identifier below, by simp⟩
  · intro h
    obtain ⟨curve, isCurve, rfl⟩ := h
    cases isCurve with
    | absent =>
      have readKey := (readPublicKey_eq_some fits.right).mpr ⟨[], .nil, rfl⟩
      exact ⟨none, _, explicitField_eq_none.mpr ⟨[], .nil, past_publicKeyField publicKey, rfl⟩, readKey⟩
    | @named name more identifier below =>
      rw [List.append_assoc] at fits ⊢
      have readKey := (readPublicKey_eq_some fits.right).mpr ⟨more, below, rfl⟩
      have readName : readIdentifier (write tagIdentifier name) = some (name, []) :=
        readIdentifier_eq_some.mpr ⟨identifier, (List.append_nil _).symm⟩
      exact ⟨some name, _, (explicitField_eq_some (by decide)).mpr
        ⟨[], _, .nil, fits_identifier identifier, readName, rfl⟩, readKey⟩

theorem fields_eq_some {publicKey : Option Bytes} (fits : Fits s) : fields s = some ((number, publicKey), []) ↔
    ∃ curve, Curve curve ∧ s = contents number curve publicKey := by
  simp only [fields, bind, Option.bind_eq_some_iff, Prod.exists]
  constructor
  · intro given
    obtain ⟨version, s₁, readVersion, h⟩ := given
    obtain ⟨-, rfl⟩ := readSmall_eq_some.mp readVersion
    by_cases one : version = 1
    · subst one
      simp only [ne_eq, not_true, if_false, Option.bind_eq_some_iff, Prod.exists, pure, Option.some.injEq,
        Prod.mk.injEq] at h
      obtain ⟨octets, s₂, readNumber, name, s₃, readCurve, key, s₄, readKey, ⟨rfl, rfl⟩, rfl⟩ := h
      obtain ⟨-, -, rfl⟩ := readElement_eq_some.mp readNumber
      obtain ⟨curve, isCurve, rfl⟩ :=
        (optionalFields_eq_some fits.right.right).mp ⟨name, s₃, readCurve, readKey⟩
      exact ⟨curve, isCurve, rfl⟩
    · rw [if_pos one] at h
      cases h
  · intro h
    obtain ⟨curve, isCurve, rfl⟩ := h
    obtain ⟨name, rest, readCurve, readKey⟩ :=
      (optionalFields_eq_some fits.right.right).mpr ⟨curve, isCurve, rfl⟩
    refine ⟨1, _, readSmall_eq_some.mpr ⟨by decide, rfl⟩, ?_⟩
    simp only [ne_eq, not_true, if_false, Option.bind_eq_some_iff, Prod.exists, pure]
    exact ⟨number, _, readElement_eq_some.mpr ⟨rfl, fits.right.left.of_write, rfl⟩, name, rest, readCurve,
      publicKey, [], readKey, rfl⟩

/-- The reader takes the structures of a number for that number, and nothing else for any. -/
theorem ofDer?_eq_some : ofDer? s = some d ↔ Encodes d s := by
  simp only [ofDer?, bind, Option.bind_eq_some_iff, Prod.exists, readAll_element]
  constructor
  · intro h
    obtain ⟨number, publicKey, ⟨-, c, fits, read, rfl⟩, e, readNumber, own⟩ := h
    obtain ⟨curve, isCurve, rfl⟩ := (fields_eq_some fits).mp read
    cases publicKey with
    | none =>
      cases own
      exact .mk (scalar?_eq_some.mp readNumber) isCurve (by simp [Matches]) fits
    | some k =>
      dsimp only at own
      split at own
      · rename_i same
        cases own
        exact .mk (scalar?_eq_some.mp readNumber) isCurve (by simpa [Matches] using same) fits
      · cases own
  · intro h
    obtain @⟨number, curve, publicKey, isNumber, isCurve, own, fits⟩ := h
    have read := (fields_eq_some fits).mpr ⟨curve, isCurve, rfl⟩
    refine ⟨number, publicKey, ⟨rfl, _, fits, read, rfl⟩, d, scalar?_eq_some.mpr isNumber, ?_⟩
    cases publicKey with
    | none => rfl
    | some k => exact if_pos (own k rfl)

end EcPrivateKey
end RequestAuth
