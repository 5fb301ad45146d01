import RequestAuth.Proofs.Ensures
import RequestAuth.Token.Bearer
import RequestAuth.Token.Wallet

/-! When a step of making a token succeeds, and what it leaves behind. -/

namespace RequestAuth.Signing

section steps
variable {ε σ α β : Type} {s s' : σ}

theorem bind_eq_ok {x : EStateM ε σ α} {f : α → EStateM ε σ β} {b : β} :
    (x >>= f) s = .ok b s' ↔ ∃ a t, x s = .ok a t ∧ f a t = .ok b s' := by
  change EStateM.bind x f s = .ok b s' ↔ _
  unfold EStateM.bind
  cases x s with
  | ok a t =>
    constructor
    · intro h
      exact ⟨a, t, rfl, h⟩
    · intro h
      obtain ⟨_, _, e, rest⟩ := h
      cases e
      exact rest
  | error e t => simp

theorem bind_eq_error {x : EStateM ε σ α} {f : α → EStateM ε σ β} {e : ε} :
    (x >>= f) s = .error e s' ↔
      x s = .error e s' ∨ ∃ a t, x s = .ok a t ∧ f a t = .error e s' := by
  change EStateM.bind x f s = .error e s' ↔ _
  unfold EStateM.bind
  cases x s with
  | ok a t =>
    constructor
    · intro h
      exact Or.inr ⟨a, t, rfl, h⟩
    · intro h
      cases h with
      | inl first => cases first
      | inr later =>
        obtain ⟨_, _, e, rest⟩ := later
        cases e
        exact rest
  | error e t => simp

theorem pure_eq_ok {a b : α} : (pure a : EStateM ε σ α) s = .ok b s' ↔ a = b ∧ s = s' := by
  change EStateM.Result.ok a s = .ok b s' ↔ _
  simp

theorem pure_ne_error {a : α} {e : ε} : (pure a : EStateM ε σ α) s ≠ .error e s' := by
  change EStateM.Result.ok a s ≠ .error e s'
  simp

theorem throw_ne_ok {e : ε} {a : α} : (throw e : EStateM ε σ α) s ≠ .ok a s' := by
  change EStateM.Result.error e s ≠ .ok a s'
  simp

end steps

variable {α : Type} {s s' : SignerState}

theorem lift_eq_ok {x : Except AuthError α} {a : α} : lift x s = .ok a s' ↔ x = .ok a ∧ s = s' := by
  cases x with
  | ok b => simp [lift, pure_eq_ok]
  | error e => simp [lift, throw_ne_ok]

theorem lift_eq_error {x : Except AuthError α} {e : AuthError} :
    lift x s = .error e s' ↔ x = .error e ∧ s = s' := by
  cases x with
  | ok a => simp [lift, pure_ne_error]
  | error f =>
    change EStateM.Result.error f s = .error e s' ↔ _
    simp

theorem drawNonce_eq_ok {n : Nonce} :
    drawNonce s = .ok n s' ↔ s.nonces.take = (.ok n, s'.nonces) ∧ s'.events = s.events := by
  obtain ⟨source, events⟩ := s
  obtain ⟨source', events'⟩ := s'
  unfold drawNonce
  split
  · rename_i m nonces h
    simp only [h, EStateM.Result.ok.injEq, SignerState.mk.injEq, Prod.mk.injEq, Except.ok.injEq]
    constructor
    · intro e
      obtain ⟨rfl, rfl, rfl⟩ := e
      exact ⟨⟨rfl, rfl⟩, rfl⟩
    · intro e
      obtain ⟨⟨rfl, rfl⟩, rfl⟩ := e
      exact ⟨rfl, rfl, rfl⟩
  · rename_i reason nonces h
    simp [h]

theorem log_eq_ok {e : Event} {u : Unit} :
    log e s = .ok u s' ↔ s' = { s with events := s.events ++ [e] } := by
  change EStateM.Result.ok () { s with events := s.events ++ [e] } = .ok u s' ↔ _
  simp [eq_comm]

theorem parseKey_eq_ok {secret : String} {k : SigningKey} :
    parseKey secret s = .ok k s' ↔ SigningKey.ofApiSecret secret = .ok k ∧ s = s' := by
  rw [parseKey, lift_eq_ok, mapError_eq_ok]

theorem parseWalletKey_eq_ok {secret : String} {k : SigningKey} :
    parseWalletKey secret s = .ok k s' ↔
      ∃ d, SigningKey.ofWalletSecret secret = .ok d ∧ k = .ec d ∧ s = s' := by
  rw [parseWalletKey, lift_eq_ok, mapError_eq_ok, map_eq_ok]
  constructor
  · intro h
    obtain ⟨⟨d, parsed, key⟩, same⟩ := h
    exact ⟨d, parsed, key.symm, same⟩
  · intro h
    obtain ⟨d, parsed, key, same⟩ := h
    exact ⟨⟨d, parsed, key.symm⟩, same⟩

end RequestAuth.Signing

namespace RequestAuth
open Signing

theorem BearerRequest.token_eq_ok {r : BearerRequest} {now : Int64} {s s' : SignerState} {t : String} :
    r.token now s = .ok t s' ↔ r.keyId ≠ "" ∧ r.keySecret ≠ "" ∧ ∃ uri n key,
      r.uri = .ok uri ∧ s.nonces.take = (.ok n, s'.nonces) ∧
      SigningKey.ofApiSecret r.keySecret = .ok key ∧
      Token.encode (header r.keyId n key) (r.claims uri now).toJson key = .ok t ∧
      s'.events = s.events ++ [.bearerToken r.keyId key.algorithm uri.isSome] := by
  by_cases id : r.keyId = ""
  · simp [token, id, bind_eq_ok, throw_ne_ok]
  by_cases secret : r.keySecret = ""
  · simp [token, id, secret, bind_eq_ok, throw_ne_ok]
  simp only [token, id, secret, if_false, bind_eq_ok, pure_eq_ok, lift_eq_ok, drawNonce_eq_ok,
    parseKey_eq_ok, log_eq_ok]
  constructor
  · intro h
    obtain ⟨uri, _, ⟨bound, rfl⟩, n, drawn, ⟨take, same⟩, key, _, ⟨parsed, rfl⟩, text, _,
      ⟨encoded, rfl⟩, _, _, rfl, rfl, rfl⟩ := h
    exact ⟨id, secret, uri, n, key, bound, take, parsed, encoded, by rw [same]⟩
  · intro h
    obtain ⟨-, -, uri, n, key, bound, take, parsed, encoded, events⟩ := h
    exact ⟨uri, s, ⟨bound, rfl⟩, n, ⟨s'.nonces, s.events⟩, ⟨take, rfl⟩, key, _, ⟨parsed, rfl⟩, t, _,
      ⟨encoded, rfl⟩, (), _, rfl, rfl, by rw [← events]⟩

theorem WalletRequest.token_eq_ok {r : WalletRequest} {now : Int64} {s s' : SignerState} {t : String} :
    r.token now s = .ok t s' ↔ r.secret ≠ "" ∧ ∃ d n,
      SigningKey.ofWalletSecret r.secret = .ok d ∧ s.nonces.take = (.ok n, s'.nonces) ∧
      Token.encode (.new .es256) (r.claims n now).toJson (.ec d) = .ok t ∧
      s'.events = s.events ++ [.walletToken r.coordinates.method r.coordinates.path
        (r.claims n now).body.isSome] := by
  by_cases secret : r.secret = ""
  · simp [token, secret, bind_eq_ok, throw_ne_ok]
  simp only [token, secret, if_false, bind_eq_ok, pure_eq_ok, lift_eq_ok, drawNonce_eq_ok,
    parseWalletKey_eq_ok, log_eq_ok]
  constructor
  · intro h
    obtain ⟨_, _, ⟨d, parsed, rfl, rfl⟩, n, drawn, ⟨take, same⟩, text, _, ⟨encoded, rfl⟩, _, _,
      rfl, rfl, rfl⟩ := h
    exact ⟨secret, d, n, parsed, take, encoded, by rw [same]⟩
  · intro h
    obtain ⟨-, d, n, parsed, take, encoded, events⟩ := h
    exact ⟨.ec d, s, ⟨d, parsed, rfl, rfl⟩, n, ⟨s'.nonces, s.events⟩, ⟨take, rfl⟩, t, _,
      ⟨encoded, rfl⟩, (), _, rfl, rfl, by rw [← events]⟩

end RequestAuth
