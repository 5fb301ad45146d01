import RequestAuth.Proofs.Token.Signing

/-! Why no token is made: of the checks in a row the first that fails gives the error, and only those
that come after the nonce cost one. -/

namespace RequestAuth
variable {ε σ α β : Type}

def refusal? : Except ε α → Option ε
  | .ok _ => none
  | .error e => some e

theorem refusal?_eq_none {x : Except ε α} : refusal? x = none ↔ ∃ a, x = .ok a := by
  cases x <;> simp [refusal?]

theorem refusal?_eq_some {x : Except ε α} {e : ε} : refusal? x = some e ↔ x = .error e := by
  cases x <;> simp [refusal?]

theorem refusal?_mapError {ε' : Type} (f : ε → ε') (x : Except ε α) :
    refusal? (x.mapError f) = (refusal? x).map f := by
  cases x <;> rfl

theorem refusal?_map (f : α → β) (x : Except ε α) : refusal? (x.map f) = refusal? x := by
  cases x <;> rfl

namespace Signing

def failure? : EStateM.Result ε σ α → Option ε
  | .ok _ _ => none
  | .error e _ => some e

def final : EStateM.Result ε σ α → σ
  | .ok _ s => s
  | .error _ s => s

section steps
variable {s : σ}

theorem failure?_eq_none {x : EStateM.Result ε σ α} : failure? x = none ↔ ∃ a s', x = .ok a s' := by
  cases x <;> simp [failure?]

theorem failure?_eq_some {x : EStateM.Result ε σ α} {e : ε} :
    failure? x = some e ↔ ∃ s', x = .error e s' := by
  cases x <;> simp [failure?]

theorem failure?_bind {x : EStateM ε σ α} {f : α → EStateM ε σ β} {g : Option ε}
    (h : ∀ a t, x s = .ok a t → failure? (f a t) = g) :
    failure? ((x >>= f) s) = (failure? (x s)).or g := by
  change failure? (EStateM.bind x f s) = _
  unfold EStateM.bind
  cases e : x s with
  | ok a t => exact h a t e
  | error e t => rfl

/-- What is thrown where a condition holds comes before all that follows. -/
theorem failure?_guard {c : Prop} [Decidable c] (e : ε) (f : α → EStateM ε σ β) (x : EStateM ε σ β) :
    failure? ((if c then (throw e : EStateM ε σ α) >>= f else x) s) =
      (if c then some e else none).or (failure? (x s)) := by
  split <;> rfl

theorem final_guard {c : Prop} [Decidable c] (e : ε) (f : α → EStateM ε σ β) (x : EStateM ε σ β) :
    final ((if c then (throw e : EStateM ε σ α) >>= f else x) s) =
      if c then s else final (x s) := by
  split <;> rfl

theorem final_bind {x : EStateM ε σ α} {f : α → EStateM ε σ β} :
    final ((x >>= f) s) = match x s with
      | .ok a t => final (f a t)
      | .error _ t => t := by
  change final (EStateM.bind x f s) = _
  unfold EStateM.bind
  cases x s <;> rfl

end steps

variable {s : SignerState}

theorem failure?_lift (x : Except AuthError α) : failure? (lift x s) = refusal? x := by
  cases x <;> rfl

theorem failure?_drawNonce :
    failure? (drawNonce s) = (refusal? s.nonces.take.1).map AuthError.nonce := by
  unfold drawNonce
  split <;> rename_i h <;> rw [h] <;> rfl

theorem failure?_parseKey (secret : String) :
    failure? (parseKey secret s) = (refusal? (SigningKey.ofApiSecret secret)).map AuthError.key := by
  rw [parseKey, failure?_lift, refusal?_mapError]

theorem failure?_parseWalletKey (secret : String) : failure? (parseWalletKey secret s) =
    (refusal? (SigningKey.ofWalletSecret secret)).map AuthError.key := by
  rw [parseWalletKey, failure?_lift, refusal?_mapError, refusal?_map]

theorem final_lift_bind (x : Except AuthError α) (f : α → Signing β) :
    final ((lift x >>= f) s) = match x with
      | .ok a => final (f a s)
      | .error _ => s := by
  rw [final_bind]
  cases x <;> rfl

theorem nonces_drawNonce : (final (drawNonce s)).nonces = s.nonces.take.2 := by
  unfold drawNonce
  split <;> rename_i h <;> rw [h] <;> rfl

/-- Steps that take no nonce may follow without counting. -/
theorem nonces_bind {x : Signing α} {f : α → Signing β}
    (h : ∀ a t, (final (f a t)).nonces = t.nonces) :
    (final ((x >>= f) s)).nonces = (final (x s)).nonces := by
  rw [final_bind]
  cases x s with
  | ok a t => exact h a t
  | error e t => rfl

theorem nonces_lift (x : Except AuthError α) : (final (lift x s)).nonces = s.nonces := by
  cases x <;> rfl

end Signing

theorem SigningKey.ofApiSecret_error {secret : String} {f : KeyFault} (h : ofApiSecret secret = .error f) :
    (∃ g, f = .keypair g) ∨ f = .unrecognized := by
  unfold ofApiSecret at h
  split at h
  · cases h
  split at h
  · split at h
    · cases h
    · cases h
      exact Or.inl ⟨_, rfl⟩
  · cases h
    exact Or.inr rfl

theorem SigningKey.ofWalletSecret_error {secret : String} {f : KeyFault}
    (h : ofWalletSecret secret = .error f) :
    (∃ g, f = .walletText g) ∨ f = .walletStructure ∨ f = .notEc ∨ f = .notP256 := by
  unfold ofWalletSecret at h
  split at h
  · cases h
    exact Or.inl ⟨_, rfl⟩
  split at h
  · cases h
    exact Or.inr (Or.inl rfl)
  split at h
  · split at h
    · cases h
    · cases h
      exact Or.inr (Or.inr (Or.inr rfl))
  · cases h
    exact Or.inr (Or.inr (Or.inl rfl))

open Signing
variable {s s' : SignerState} {now : Int64}

namespace BearerRequest
variable {r : BearerRequest}

def refused? (r : BearerRequest) : Option AuthError :=
  (if r.keyId = "" then some (.missing .keyId) else none).or
    ((if r.keySecret = "" then some (.missing .keySecret) else none).or (refusal? r.uri))

def signed (r : BearerRequest) (uri : Option RequestUri) (now : Int64) : Signing String := do
  let n ← drawNonce
  let key ← parseKey r.keySecret
  let text ← lift (Token.encode (header r.keyId n key) (r.claims uri now).toJson key)
  log (.bearerToken r.keyId key.algorithm uri.isSome)
  return text

theorem failure?_signed (uri : Option RequestUri) : failure? (r.signed uri now s) =
    ((refusal? s.nonces.take.1).map AuthError.nonce).or
      ((refusal? (SigningKey.ofApiSecret r.keySecret)).map AuthError.key) := by
  rw [signed, failure?_bind, failure?_drawNonce]
  intro n t _
  rw [failure?_bind (g := none), failure?_parseKey, Option.or_none]
  intro key t' _
  -- The header names the algorithm of the key, so nothing is left that can fail.
  have same : (header r.keyId n key).algorithm = key.algorithm := rfl
  rw [failure?_bind (g := none), failure?_lift, Option.or_none, refusal?_eq_none]
  · exact ⟨_, if_pos same⟩
  · intro text t'' _
    rfl

theorem nonces_signed (uri : Option RequestUri) :
    (final (r.signed uri now s)).nonces = s.nonces.take.2 := by
  rw [signed, nonces_bind, nonces_drawNonce]
  intro n t
  rw [nonces_bind, parseKey, nonces_lift]
  intro key t'
  rw [nonces_bind, nonces_lift]
  intro text t''
  rfl

theorem failure?_token : failure? (r.token now s) = r.refused?.or
    (((refusal? s.nonces.take.1).map AuthError.nonce).or
      ((refusal? (SigningKey.ofApiSecret r.keySecret)).map AuthError.key)) := by
  have rest : failure? ((lift r.uri >>= fun uri => r.signed uri now) s) = (refusal? r.uri).or
      (((refusal? s.nonces.take.1).map AuthError.nonce).or
        ((refusal? (SigningKey.ofApiSecret r.keySecret)).map AuthError.key)) := by
    rw [failure?_bind, failure?_lift]
    intro uri t e
    rw [← (lift_eq_ok.mp e).2]
    exact failure?_signed uri
  rw [refused?, Option.or_assoc, Option.or_assoc, ← rest]
  exact (failure?_guard _ _ _).trans (congrArg _ (failure?_guard _ _ _))

/-- A nonce is taken exactly where the request is not refused before. -/
theorem nonces_token : (final (r.token now s)).nonces =
    if r.refused?.isSome then s.nonces else s.nonces.take.2 := by
  have rest : final (r.token now s) = if r.keyId = "" then s else if r.keySecret = "" then s else
      final ((lift r.uri >>= fun uri => r.signed uri now) s) :=
    (final_guard _ _ _).trans (congrArg (ite (r.keyId = "") s) (final_guard _ _ _))
  rw [rest, refused?, final_lift_bind]
  by_cases id : r.keyId = ""
  · simp [id]
  by_cases secret : r.keySecret = ""
  · simp [id, secret]
  cases uri : r.uri with
  | error e => simp [id, secret, refusal?]
  | ok u => simp [id, secret, refusal?, nonces_signed]

theorem refused?_eq_some {e : AuthError} (h : r.refused? = some e) :
    e = .missing .keyId ∨ e = .missing .keySecret ∨ e = .malformedCoordinates := by
  unfold refused? at h
  by_cases id : r.keyId = ""
  · rw [if_pos id] at h
    exact Or.inl (Option.some.inj h).symm
  by_cases secret : r.keySecret = ""
  · rw [if_neg id, if_pos secret] at h
    exact Or.inr (Or.inl (Option.some.inj h).symm)
  rw [if_neg id, if_neg secret, Option.none_or, Option.none_or, refusal?_eq_some, uri] at h
  split at h
  · cases h
  · cases h
  · exact Or.inr (Or.inr (Except.error.inj h).symm)

/-- What a request without a token has cost: nothing if the request itself is at fault, and one nonce, if
there is one, for a secret that is no key. -/
theorem token_error {e : AuthError} (h : r.token now s = .error e s') :
    r.refused? = some e ∧ s'.nonces = s.nonces ∨
    (∃ reason, e = .nonce reason ∧ s.nonces.take = (.error reason, s'.nonces)) ∨
    ∃ f n, e = .key f ∧ SigningKey.ofApiSecret r.keySecret = .error f ∧
      s.nonces.take = (.ok n, s'.nonces) := by
  have fails : failure? (r.token now s) = _ := failure?_token
  have left : (final (r.token now s)).nonces = _ := nonces_token
  rw [h] at fails left
  change some e = _ at fails
  change s'.nonces = _ at left
  cases refused : r.refused? with
  | some f =>
    rw [refused] at fails left
    exact Or.inl ⟨fails.symm, left⟩
  | none =>
    rw [refused, Option.none_or] at fails
    rw [refused] at left
    cases drawn : s.nonces.take.1 with
    | error reason =>
      rw [drawn] at fails
      exact Or.inr (Or.inl ⟨reason, Option.some.inj fails, Prod.ext drawn left.symm⟩)
    | ok n =>
      rw [drawn] at fails
      obtain ⟨f, read, rfl⟩ := Option.map_eq_some_iff.mp fails.symm
      exact Or.inr (Or.inr ⟨f, n, rfl, refusal?_eq_some.mp read, Prod.ext drawn left.symm⟩)

end BearerRequest

namespace WalletRequest
variable {r : WalletRequest}

def refused? (r : WalletRequest) : Option AuthError :=
  (if r.secret = "" then some (.missing .walletSecret) else none).or
    ((refusal? (SigningKey.ofWalletSecret r.secret)).map AuthError.key)

def signed (r : WalletRequest) (key : SigningKey) (now : Int64) : Signing String := do
  let n ← drawNonce
  let claims := r.claims n now
  let text ← lift (Token.encode (.new .es256) claims.toJson key)
  log (.walletToken r.coordinates.method r.coordinates.path claims.body.isSome)
  return text

theorem failure?_signed (d : P256.Scalar) : failure? (r.signed (.ec d) now s) =
    (refusal? s.nonces.take.1).map AuthError.nonce := by
  rw [signed, failure?_bind (g := none), failure?_drawNonce, Option.or_none]
  intro n t _
  have same : (TokenHeader.new .es256).algorithm = (SigningKey.ec d).algorithm := rfl
  rw [failure?_bind (g := none), failure?_lift, Option.or_none, refusal?_eq_none]
  · exact ⟨_, if_pos same⟩
  · intro text t' _
    rfl

theorem nonces_signed (key : SigningKey) :
    (final (r.signed key now s)).nonces = s.nonces.take.2 := by
  rw [signed, nonces_bind, nonces_drawNonce]
  intro n t
  rw [nonces_bind, nonces_lift]
  intro text t'
  rfl

theorem failure?_token : failure? (r.token now s) =
    r.refused?.or ((refusal? s.nonces.take.1).map AuthError.nonce) := by
  have rest : failure? ((parseWalletKey r.secret >>= fun key => r.signed key now) s) =
      ((refusal? (SigningKey.ofWalletSecret r.secret)).map AuthError.key).or
        ((refusal? s.nonces.take.1).map AuthError.nonce) := by
    rw [failure?_bind, failure?_parseWalletKey]
    intro key t e
    obtain ⟨d, -, rfl, rfl⟩ := parseWalletKey_eq_ok.mp e
    exact failure?_signed d
  rw [refused?, Option.or_assoc, ← rest]
  exact failure?_guard _ _ _

theorem nonces_token : (final (r.token now s)).nonces =
    if r.refused?.isSome then s.nonces else s.nonces.take.2 := by
  have rest : final (r.token now s) = if r.secret = "" then s else
      final ((parseWalletKey r.secret >>= fun key => r.signed key now) s) := final_guard _ _ _
  rw [rest, refused?, parseWalletKey, final_lift_bind]
  by_cases secret : r.secret = ""
  · simp [secret]
  cases read : SigningKey.ofWalletSecret r.secret with
  | error f =>
    rw [if_neg secret, if_neg secret]
    rfl
  | ok d =>
    rw [if_neg secret, if_neg secret]
    exact nonces_signed (.ec d)

theorem refused?_eq_some {e : AuthError} (h : r.refused? = some e) : e = .missing .walletSecret ∨
    ∃ f, e = .key f ∧ SigningKey.ofWalletSecret r.secret = .error f := by
  unfold refused? at h
  by_cases secret : r.secret = ""
  · rw [if_pos secret] at h
    exact Or.inl (Option.some.inj h).symm
  · rw [if_neg secret, Option.none_or] at h
    obtain ⟨f, read, rfl⟩ := Option.map_eq_some_iff.mp h
    exact Or.inr ⟨f, rfl, refusal?_eq_some.mp read⟩

theorem token_error {e : AuthError} (h : r.token now s = .error e s') :
    r.refused? = some e ∧ s'.nonces = s.nonces ∨
    ∃ reason, e = .nonce reason ∧ s.nonces.take = (.error reason, s'.nonces) := by
  have fails : failure? (r.token now s) = _ := failure?_token
  have left : (final (r.token now s)).nonces = _ := nonces_token
  rw [h] at fails left
  change some e = _ at fails
  change s'.nonces = _ at left
  cases refused : r.refused? with
  | some f =>
    rw [refused] at fails left
    exact Or.inl ⟨fails.symm, left⟩
  | none =>
    rw [refused, Option.none_or] at fails
    rw [refused] at left
    obtain ⟨reason, drawn, rfl⟩ := Option.map_eq_some_iff.mp fails.symm
    exact Or.inr ⟨reason, rfl, Prod.ext (refusal?_eq_some.mp drawn) left.symm⟩

end WalletRequest
end RequestAuth
