import RequestAuth.Proofs.Key.WalletSecret
import RequestAuth.Proofs.Token.Content
import RequestAuth.Proofs.Token.Refusal

/-! Which failures the text of a secret is blamed for. Once a request is in order and there is a nonce, only
its secret can be at fault. All texts that are no key are blamed, and a key on another curve is not: it is a
key, but not one that signs these tokens. -/

namespace RequestAuth
open Signing
variable {s : SignerState} {now : Int64} {n : Nonce}

namespace SigningKey
variable {secret : String} {info : PrivateKeyInfo} {f : KeyFault}

def Wraps (secret : String) (info : PrivateKeyInfo) : Prop :=
  ∃ der, Base64Of secret der ∧ PrivateKeyInfo.Holds info der

def WrapsEc (secret : String) : Prop :=
  ∃ info, Wraps secret info ∧ info.algorithm = PrivateKeyInfo.ecPublicKey

/-- The curve that is named is not P-256. -/
def WrapsOther (secret : String) : Prop :=
  ∃ info, Wraps secret info ∧ info.algorithm = PrivateKeyInfo.ecPublicKey ∧
    info.parameters ≠ some (Der.tagIdentifier, PrivateKeyInfo.p256)

theorem isKeyError_apiSecret (h : ofApiSecret secret = .error f) : (AuthError.key f).isKeyError := by
  obtain ⟨g, rfl⟩ | rfl := ofApiSecret_error h <;> rfl

theorem isKeyError_walletSecret (h : ofWalletSecret secret = .error f) :
    (AuthError.key f).isKeyError ∨ WrapsEc secret := by
  have layers := decided secret
  rw [h] at layers
  cases layers with
  | notBase64 | notWrapped | notEc => exact Or.inl rfl
  | notP256 base64 holds ec => exact Or.inr ⟨_, ⟨_, base64, holds⟩, ec⟩

theorem ofWalletSecret_other (h : WrapsOther secret) : ofWalletSecret secret = .error .notP256 := by
  obtain ⟨info, ⟨der, base64, holds⟩, ec, other⟩ := h
  exact (Decided.notP256 base64 holds ec fun ⟨_, own⟩ => other own.curve).eq

end SigningKey

theorem BearerRequest.failure?_inOrder {r : BearerRequest} {uri : Option RequestUri} (keyId : r.keyId ≠ "")
    (keySecret : r.keySecret ≠ "") (bound : r.uri = .ok uri) (fresh : s.nonces.take.1 = .ok n) :
    failure? (r.token now s) = (refusal? (SigningKey.ofApiSecret r.keySecret)).map AuthError.key := by
  have accepted : r.refused? = none := by
    rw [refused?, if_neg keyId, if_neg keySecret, bound]
    rfl
  rw [failure?_token, accepted, fresh]
  rfl

theorem WalletRequest.failure?_inOrder {r : WalletRequest} (secret : r.secret ≠ "")
    (fresh : s.nonces.take.1 = .ok n) :
    failure? (r.token now s) = (refusal? (SigningKey.ofWalletSecret r.secret)).map AuthError.key := by
  rw [failure?_token, refused?, if_neg secret, fresh, Option.none_or]
  exact Option.or_none

/-- A secret that gives no key is blamed for it, and so it is by a request that is in order, when there is a
nonce: there is nothing else to fail. But a key on an elliptic curve is not blamed for being on another curve
than P-256. -/
theorem keys_blamed (s : SignerState) (now : Int64) (n : Nonce) (fresh : s.nonces.take.1 = .ok n) :
    (∀ secret f, SigningKey.ofApiSecret secret = .error f → (AuthError.key f).isKeyError) ∧
    (∀ secret f, SigningKey.ofWalletSecret secret = .error f →
      (AuthError.key f).isKeyError ∨ SigningKey.WrapsEc secret) ∧
    (∀ secret, SigningKey.WrapsOther secret → SigningKey.ofWalletSecret secret = .error .notP256 ∧
      ¬ (AuthError.key .notP256).isKeyError) ∧
    (∀ r : BearerRequest, r.keyId ≠ "" → r.keySecret ≠ "" →
      (r.coordinates.method ≠ "" ∧ r.coordinates.host ≠ "" ∧ r.coordinates.path ≠ "" ∨
        r.coordinates.method = "" ∧ r.coordinates.host = "" ∧ r.coordinates.path = "") →
      ∀ e s', r.token now s = .error e s' → e.isKeyError) ∧
    ∀ r : WalletRequest, r.secret ≠ "" →
      (∀ e s', r.token now s = .error e s' → e.isKeyError ∨ SigningKey.WrapsEc r.secret) ∧
      (SigningKey.WrapsOther r.secret → ∃ s', r.token now s = .error (.key .notP256) s') := by
  refine ⟨fun _ _ => SigningKey.isKeyError_apiSecret, fun _ _ => SigningKey.isKeyError_walletSecret,
    fun _ other => ⟨SigningKey.ofWalletSecret_other other, nofun⟩, ?bearer, ?wallet⟩
  case bearer =>
    intro r keyId keySecret coordinates e s' h
    obtain ⟨uri, bound⟩ : ∃ uri, r.uri = .ok uri := by
      obtain ⟨method, host, path⟩ | ⟨method, host, path⟩ := coordinates
      · exact ⟨_, BearerRequest.uri_eq_ok.mpr (Or.inl ⟨method, host, path, rfl⟩)⟩
      · exact ⟨_, BearerRequest.uri_eq_ok.mpr (Or.inr ⟨method, host, path, rfl⟩)⟩
    have fails : failure? (r.token now s) = _ := BearerRequest.failure?_inOrder keyId keySecret bound fresh
    rw [failure?_eq_some.mpr ⟨s', h⟩] at fails
    obtain ⟨f, read, rfl⟩ := Option.map_eq_some_iff.mp fails.symm
    exact SigningKey.isKeyError_apiSecret (refusal?_eq_some.mp read)
  case wallet =>
    intro r secret
    have fails : failure? (r.token now s) = _ := WalletRequest.failure?_inOrder secret fresh
    constructor
    · intro e s' h
      rw [failure?_eq_some.mpr ⟨s', h⟩] at fails
      obtain ⟨f, read, rfl⟩ := Option.map_eq_some_iff.mp fails.symm
      exact SigningKey.isKeyError_walletSecret (refusal?_eq_some.mp read)
    · intro other
      rw [SigningKey.ofWalletSecret_other other] at fails
      exact failure?_eq_some.mp fails

def otherInfo : PrivateKeyInfo where
  algorithm := PrivateKeyInfo.ecPublicKey
  parameters := some (Der.tagIdentifier, [0x2b, 0x81, 0x04, 0x00, 0x22])
  privateKey := [0x30, 0x35, 0x02, 0x01, 0x01, 0x04, 0x30] ++ List.replicate 47 0 ++ [0x05]

def otherSecret : String :=
  "ME4CAQAwEAYHKoZIzj0CAQYFK4EEACIENzA1AgEBBDAAAAAAAAAAAAAAAAAA" ++
    "AAAAAAAAAAAAAAAAAAAAAAAAAAAAAAAAAAAAAAAAAAAAAAU="

theorem wraps_otherSecret : SigningKey.Wraps otherSecret otherInfo := by
  have octets : (Base64.decode .standard (SigningKey.unwrapped otherSecret)).toOption.bind
      PrivateKeyInfo.ofDer? = some otherInfo := by decide +kernel
  obtain ⟨der, decoded, read⟩ := Option.bind_eq_some_iff.mp octets
  exact ⟨der, decode_unwrapped.mp (toOption_eq_some.mp decoded), PrivateKeyInfo.ofDer?_eq_some.mp read⟩

theorem wrapsOther_otherSecret : SigningKey.WrapsOther otherSecret :=
  ⟨otherInfo, wraps_otherSecret, rfl, by decide⟩

def otherProof : WalletRequest where
  secret := otherSecret
  coordinates := ⟨"POST", "api.cdp.coinbase.com", "/platform/v2/evm/accounts"⟩
  body := []

/-- A text that is no key as either secret, and a key on P-384. -/
theorem keys_blamed_sample : ∃ e₁ e₂ s₁ s₂ s₃,
    BearerRequest.token ⟨"k1", "%%%", ⟨"", "", ""⟩, 0, []⟩ 1700000000 ⟨.constant .zero, []⟩ = .error e₁ s₁ ∧
    e₁.isKeyError ∧
    WalletRequest.token ⟨"%%%", ⟨"POST", "", ""⟩, []⟩ 1700000000 ⟨.constant .zero, []⟩ = .error e₂ s₂ ∧
    e₂.isKeyError ∧
    otherProof.token 1700000000 ⟨.constant .zero, []⟩ = .error (.key .notP256) s₃ := by
  obtain ⟨-, -, -, bearer, wallet⟩ := keys_blamed ⟨.constant .zero, []⟩ 1700000000 .zero rfl
  have text : Base64.decode .standard (SigningKey.unwrapped "%%%") = .error (.symbol 37 0) := by decide
  have noApiKey : SigningKey.ofApiSecret "%%%" = .error .unrecognized := by decide +kernel
  have noWalletKey : SigningKey.ofWalletSecret "%%%" = .error (.walletText (.symbol 37 0)) := by decide +kernel
  let r₁ : BearerRequest := ⟨"k1", "%%%", ⟨"", "", ""⟩, 0, []⟩
  let r₂ : WalletRequest := ⟨"%%%", ⟨"POST", "", ""⟩, []⟩
  have fails₁ : failure? (r₁.token 1700000000 ⟨.constant .zero, []⟩) = _ :=
    BearerRequest.failure?_inOrder (by decide) (by decide) rfl rfl
  have fails₂ : failure? (r₂.token 1700000000 ⟨.constant .zero, []⟩) = _ :=
    WalletRequest.failure?_inOrder (by decide) rfl
  rw [noApiKey] at fails₁
  rw [noWalletKey] at fails₂
  obtain ⟨s₁, refused₁⟩ := failure?_eq_some.mp fails₁
  obtain ⟨s₂, refused₂⟩ := failure?_eq_some.mp fails₂
  have bare : ¬ SigningKey.WrapsEc "%%%" := by
    intro h
    obtain ⟨_, ⟨der, base64, -⟩, -⟩ := h
    cases text.symm.trans (decode_unwrapped.mpr base64)
  obtain ⟨s₃, other⟩ := (wallet otherProof (by decide)).2 wrapsOther_otherSecret
  exact ⟨_, _, s₁, s₂, s₃, refused₁, bearer r₁ (by decide) (by decide) (Or.inr ⟨rfl, rfl, rfl⟩) _ _ refused₁,
    refused₂, ((wallet r₂ (by decide)).1 _ _ refused₂).resolve_right bare, other⟩

/-- A key on another curve gives no token, and is not blamed for it. -/
theorem other_curve_unblamed : otherProof.secret ≠ "" ∧
    SigningKey.ofWalletSecret otherProof.secret = .error .notP256 ∧
    (∃ s', otherProof.token 1700000000 ⟨.constant .zero, []⟩ = .error (.key .notP256) s') ∧
    (AuthError.key .notP256).isKeyError = false := by
  have secret : otherProof.secret ≠ "" := by decide
  have refused : SigningKey.ofWalletSecret otherProof.secret = .error .notP256 :=
    SigningKey.ofWalletSecret_other wrapsOther_otherSecret
  have fails : failure? (otherProof.token 1700000000 ⟨.constant .zero, []⟩) = _ :=
    WalletRequest.failure?_inOrder secret rfl
  rw [refused] at fails
  exact ⟨secret, refused, failure?_eq_some.mp fails, rfl⟩

end RequestAuth
