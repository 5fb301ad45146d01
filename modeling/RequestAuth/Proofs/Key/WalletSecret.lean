import RequestAuth.Proofs.Key.EcPrivateKey
import RequestAuth.Proofs.Key.PrivateKeyInfo
import RequestAuth.Proofs.Key.Secret

/-! A wallet secret is checked layer by layer, and the first layer that does not hold decides the failure. -/

namespace RequestAuth.SigningKey
open Bytes
variable {d : P256.Scalar} {info : PrivateKeyInfo} {secret : String}

/-- A wrapped key on P-256, around the structure of the number. -/
structure OnP256 (info : PrivateKeyInfo) (d : P256.Scalar) : Prop where
  curve : info.parameters = some (Der.tagIdentifier, PrivateKeyInfo.p256)
  encodes : EcPrivateKey.Encodes d info.privateKey

theorem p256Scalar?_eq_some : p256Scalar? info = some d ↔ OnP256 info d := by
  rw [p256Scalar?]
  constructor
  · intro h
    split at h
    · rename_i curve
      exact ⟨curve, EcPrivateKey.ofDer?_eq_some.mp h⟩
    · cases h
  · intro h
    rw [if_pos h.curve]
    exact EcPrivateKey.ofDer?_eq_some.mpr h.encodes

theorem p256Scalar?_eq_none : p256Scalar? info = none ↔ ¬ ∃ d, OnP256 info d :=
  option_eq_none fun _ => p256Scalar?_eq_some

/-- The layers of a text, from the outermost to the first that does not hold, and what comes of it. -/
inductive Decided (secret : String) : Except KeyFault P256.Scalar → Prop
  | notBase64 {f : Base64.Fault} (fault : Base64.decode .standard (ofText (withoutBreaks secret)) = .error f) :
      Decided secret (.error (.walletText f))
  | notWrapped {der : Bytes} (base64 : Base64Of secret der) (bare : ¬ ∃ info, PrivateKeyInfo.Holds info der) :
      Decided secret (.error .walletStructure)
  | notEc {der : Bytes} {info : PrivateKeyInfo} (base64 : Base64Of secret der)
      (holds : PrivateKeyInfo.Holds info der) (other : info.algorithm ≠ PrivateKeyInfo.ecPublicKey) :
      Decided secret (.error .notEc)
  | notP256 {der : Bytes} {info : PrivateKeyInfo} (base64 : Base64Of secret der)
      (holds : PrivateKeyInfo.Holds info der) (ec : info.algorithm = PrivateKeyInfo.ecPublicKey)
      (foreign : ¬ ∃ d, OnP256 info d) : Decided secret (.error .notP256)
  | key {der : Bytes} {info : PrivateKeyInfo} {d : P256.Scalar} (base64 : Base64Of secret der)
      (holds : PrivateKeyInfo.Holds info der) (ec : info.algorithm = PrivateKeyInfo.ecPublicKey)
      (own : OnP256 info d) : Decided secret (.ok d)

theorem decided (secret : String) : Decided secret (ofWalletSecret secret) := by
  rw [ofWalletSecret]
  split
  · rename_i f fault
    rw [unwrapped_eq] at fault
    exact .notBase64 fault
  · rename_i der read
    have base64 := decode_unwrapped.mp read
    split
    · rename_i bare
      exact .notWrapped base64 (PrivateKeyInfo.ofDer?_eq_none.mp bare)
    · rename_i info wrapped
      have holds := PrivateKeyInfo.ofDer?_eq_some.mp wrapped
      split
      · rename_i ec
        split
        · rename_i d own
          exact .key base64 holds ec (p256Scalar?_eq_some.mp own)
        · rename_i foreign
          exact .notP256 base64 holds ec (p256Scalar?_eq_none.mp foreign)
      · rename_i other
        exact .notEc base64 holds other

theorem ofWalletSecret_holds {der : Bytes} (base64 : Base64Of secret der) (holds : PrivateKeyInfo.Holds info der) :
    ofWalletSecret secret = if info.algorithm = PrivateKeyInfo.ecPublicKey then
      (p256Scalar? info).elim (.error .notP256) .ok
    else .error .notEc := by
  rw [ofWalletSecret, decode_unwrapped.mpr base64]
  dsimp only
  rw [PrivateKeyInfo.ofDer?_eq_some.mpr holds]
  dsimp only
  cases p256Scalar? info with
  | none => rfl
  | some d => rfl

theorem Decided.eq {r : Except KeyFault P256.Scalar} (h : Decided secret r) : ofWalletSecret secret = r := by
  cases h with
  | notBase64 fault => rw [ofWalletSecret, unwrapped_eq, fault]
  | notWrapped base64 bare =>
    rw [ofWalletSecret, decode_unwrapped.mpr base64]
    dsimp only
    rw [PrivateKeyInfo.ofDer?_eq_none.mpr bare]
  | notEc base64 holds other => rw [ofWalletSecret_holds base64 holds, if_neg other]
  | notP256 base64 holds ec foreign =>
    rw [ofWalletSecret_holds base64 holds, if_pos ec, p256Scalar?_eq_none.mpr foreign, Option.elim_none]
  | key base64 holds ec own =>
    rw [ofWalletSecret_holds base64 holds, if_pos ec, p256Scalar?_eq_some.mpr own, Option.elim_some]

theorem ofWalletSecret_eq_iff {r : Except KeyFault P256.Scalar} :
    ofWalletSecret secret = r ↔ Decided secret r := by
  constructor
  · rintro rfl
    exact decided secret
  · exact Decided.eq

theorem ofWalletSecret_withoutBreaks (secret : String) :
    ofWalletSecret (withoutBreaks secret) = ofWalletSecret secret := by
  rw [ofWalletSecret, ofWalletSecret, unwrapped_eq, unwrapped_eq, withoutBreaks_withoutBreaks]

theorem walletOctets_eq {der : Bytes} (base64 : Base64Of secret der) : walletOctets secret = der := by
  rw [walletOctets, decode_unwrapped.mpr base64]

theorem walletRefusal?_error {f : KeyFault} (reasons : KeyFault.Reasons) (refused : ofWalletSecret secret = .error f) :
    walletRefusal? reasons secret = some (f.message reasons (walletOctets secret)) := by
  rw [walletRefusal?, refused]

/-- What is said of a text that is refused. It is the decoder's turn to speak where it refuses the octets, of which
it knows nothing else. -/
structure Worded (reasons : KeyFault.Reasons) (secret : String) : Prop where
  breaks : walletRefusal? reasons (withoutBreaks secret) = walletRefusal? reasons secret
  accepted : walletRefusal? reasons secret = none ↔ ∃ d, ofWalletSecret secret = .ok d
  notBase64 : ∀ f, ofWalletSecret secret = .error (.walletText f) →
    walletRefusal? reasons secret = some ("failed to decode wallet secret: " ++ f.message)
  notWrapped : ∀ der, Base64Of secret der → ofWalletSecret secret = .error .walletStructure →
    walletRefusal? reasons secret = some ("could not create the EC key: " ++ reasons.wrapping der)
  notEc : ofWalletSecret secret = .error .notEc →
    walletRefusal? reasons secret = some "private key is not an ECDSA key"
  notP256 : ∀ der, Base64Of secret der → ofWalletSecret secret = .error .notP256 → walletRefusal? reasons secret =
    some ("could not sign token: wallet key is not a P-256 key: " ++ reasons.p256 der)

theorem worded (reasons : KeyFault.Reasons) (secret : String) : Worded reasons secret where
  breaks := by
    have octets : walletOctets (withoutBreaks secret) = walletOctets secret := by
      rw [walletOctets, walletOctets, unwrapped_eq, unwrapped_eq, withoutBreaks_withoutBreaks]
    rw [walletRefusal?, walletRefusal?, ofWalletSecret_withoutBreaks, octets]
  accepted := by
    rw [walletRefusal?]
    cases ofWalletSecret secret <;> simp
  notBase64 f refused := walletRefusal?_error reasons refused
  notWrapped der base64 refused := by
    rw [walletRefusal?_error reasons refused, walletOctets_eq base64]
    rfl
  notEc refused := walletRefusal?_error reasons refused
  notP256 der base64 refused := by
    rw [walletRefusal?_error reasons refused, walletOctets_eq base64]
    rfl

/-- Which layer of a text decides, that there is nothing else to decide, and what is said of a text that is
refused. -/
theorem walletSecret_decided (secret : String) :
    ofWalletSecret (withoutBreaks secret) = ofWalletSecret secret ∧
    ((∃ f, ofWalletSecret secret = .error (.walletText f)) ↔ ¬ ∃ der, Base64Of secret der) ∧
    (ofWalletSecret secret = .error .walletStructure ↔
      ∃ der, Base64Of secret der ∧ ¬ ∃ info, PrivateKeyInfo.Holds info der) ∧
    (ofWalletSecret secret = .error .notEc ↔
      ∃ der info, Base64Of secret der ∧ PrivateKeyInfo.Holds info der ∧
        info.algorithm ≠ PrivateKeyInfo.ecPublicKey) ∧
    (ofWalletSecret secret = .error .notP256 ↔
      ∃ der info, Base64Of secret der ∧ PrivateKeyInfo.Holds info der ∧
        info.algorithm = PrivateKeyInfo.ecPublicKey ∧ ¬ ∃ d, OnP256 info d) ∧
    (∀ d, ofWalletSecret secret = .ok d ↔
      ∃ der info, Base64Of secret der ∧ PrivateKeyInfo.Holds info der ∧
        info.algorithm = PrivateKeyInfo.ecPublicKey ∧ OnP256 info d) ∧
    ((∃ f, ofWalletSecret secret = .error (.walletText f)) ∨ ofWalletSecret secret = .error .walletStructure ∨
      ofWalletSecret secret = .error .notEc ∨ ofWalletSecret secret = .error .notP256 ∨
      ∃ d, ofWalletSecret secret = .ok d) ∧
    ∀ reasons, Worded reasons secret := by
  refine ⟨ofWalletSecret_withoutBreaks secret, ?notBase64, ?notWrapped, ?notEc, ?notP256, ?key, ?all,
    fun reasons => worded reasons secret⟩
  case all =>
    have h := decided secret
    generalize ofWalletSecret secret = r at h ⊢
    cases h with
    | notBase64 => exact .inl ⟨_, rfl⟩
    | notWrapped => exact .inr (.inl rfl)
    | notEc => exact .inr (.inr (.inl rfl))
    | notP256 => exact .inr (.inr (.inr (.inl rfl)))
    | key => exact .inr (.inr (.inr (.inr ⟨_, rfl⟩)))
  all_goals simp only [ofWalletSecret_eq_iff]
  case notBase64 =>
    constructor
    · rintro ⟨f, h⟩ ⟨der, base64⟩
      cases h with
      | notBase64 fault =>
        rw [base64Of_iff, ← Base64.decode_eq_ok, fault] at base64
        cases base64
    · intro foreign
      cases read : Base64.decode .standard (ofText (withoutBreaks secret)) with
      | ok der => exact absurd ⟨der, base64Of_iff.mpr (Base64.decode_eq_ok.mp read)⟩ foreign
      | error f => exact ⟨f, .notBase64 read⟩
  case notWrapped =>
    constructor
    · intro h
      cases h with
      | notWrapped base64 bare => exact ⟨_, base64, bare⟩
    · intro h
      obtain ⟨der, base64, bare⟩ := h
      exact .notWrapped base64 bare
  case notEc =>
    constructor
    · intro h
      cases h with
      | notEc base64 holds other => exact ⟨_, _, base64, holds, other⟩
    · intro h
      obtain ⟨der, info, base64, holds, other⟩ := h
      exact .notEc base64 holds other
  case notP256 =>
    constructor
    · intro h
      cases h with
      | notP256 base64 holds ec foreign => exact ⟨_, _, base64, holds, ec, foreign⟩
    · intro h
      obtain ⟨der, info, base64, holds, ec, foreign⟩ := h
      exact .notP256 base64 holds ec foreign
  case key =>
    intro d
    constructor
    · intro h
      cases h with
      | key base64 holds ec own => exact ⟨_, _, base64, holds, ec, own⟩
    · intro h
      obtain ⟨der, info, base64, holds, ec, own⟩ := h
      exact .key base64 holds ec own

end RequestAuth.SigningKey
