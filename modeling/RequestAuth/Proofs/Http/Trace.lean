import RequestAuth.Proofs.Http.Checks

/-! What is logged on the way is known without the secrets: a run logs a beginning of one list, and all of
it when it succeeds. -/

namespace RequestAuth

namespace Signing
variable {α β : Type} {L M : List Event}

/-- A run that succeeds logs just these events, and one that fails logs the first of them. -/
structure Logs (L : List Event) (x : Signing α) : Prop where
  done : ∀ {s a t}, x s = .ok a t → t.events = s.events ++ L
  failed : ∀ {s e t}, x s = .error e t → ∃ l, l <+: L ∧ t.events = s.events ++ l

namespace Logs

theorem pure (a : α) : Logs [] (Pure.pure a : Signing α) where
  done h := by rw [← (pure_eq_ok.mp h).2, List.append_nil]
  failed h := absurd h pure_ne_error

theorem throw (L : List Event) (e : AuthError) : Logs L (MonadExcept.throw e : Signing α) where
  done h := absurd h throw_ne_ok
  failed h := by
    cases h
    exact ⟨[], List.nil_prefix, (List.append_nil _).symm⟩

theorem log (e : Event) : Logs [e] (Signing.log e) where
  done h := by rw [log_eq_ok.mp h]
  failed h := nomatch h

theorem lift (x : Except AuthError α) : Logs [] (Signing.lift x) := by
  cases x with
  | ok a => exact pure a
  | error e => exact throw [] e

theorem drawNonce : Logs [] drawNonce where
  done h := by rw [(drawNonce_eq_ok.mp h).2, List.append_nil]
  failed {s} _ _ h := by
    unfold Signing.drawNonce at h
    split at h <;> cases h
    exact ⟨[], List.nil_prefix, (List.append_nil _).symm⟩

/-- What follows need only log its events after a result that there is. -/
theorem bind {x : Signing α} {f : α → Signing β} (first : Logs L x)
    (later : ∀ a s t, x s = .ok a t → Logs M (f a)) : Logs (L ++ M) (x >>= f) where
  done h := by
    obtain ⟨a, t, made, rest⟩ := bind_eq_ok.mp h
    rw [(later a _ t made).done rest, first.done made, List.append_assoc]
  failed h := by
    obtain unmade | ⟨a, t, made, rest⟩ := bind_eq_error.mp h
    · obtain ⟨l, front, events⟩ := first.failed unmade
      exact ⟨l, front.trans (List.prefix_append L M), events⟩
    · obtain ⟨l, front, events⟩ := (later a _ t made).failed rest
      refine ⟨L ++ l, (List.prefix_append_right_inj L).mpr front, ?_⟩
      rw [events, first.done made, List.append_assoc]

theorem map {x : Signing α} (f : α → β) (h : Logs L x) : Logs L (x >>= fun a => Pure.pure (f a)) := by
  have all := h.bind fun a _ _ _ => pure (f a)
  rwa [List.append_nil] at all

theorem guard {c : Prop} [Decidable c] (e : AuthError) (f : α → Signing β) {x : Signing β}
    (h : Logs L x) : Logs L (if c then (MonadExcept.throw e : Signing α) >>= f else x) := by
  split
  · exact throw L e
  · exact h

theorem front {x : Signing α} (h : Logs L x) (s : SignerState) :
    ∃ l, l <+: L ∧ (final (x s)).events = s.events ++ l := by
  cases e : x s with
  | ok a t => exact ⟨L, List.prefix_rfl, h.done e⟩
  | error e' t => exact h.failed e

end Logs
end Signing

open Signing
variable {now : Times} {s s' : SignerState}

def BearerRequest.event (r : BearerRequest) (a : Algorithm) : Event :=
  .bearerToken r.keyId a (r.uri.toOption.bind id).isSome

theorem BearerRequest.logs_token {r : BearerRequest} {now : Int64} {a : Algorithm}
    (family : ∀ key, SigningKey.ofApiSecret r.keySecret = .ok key → key.algorithm = a) :
    Logs [r.event a] (r.token now) := by
  apply Logs.guard
  apply Logs.guard
  refine .bind (.lift _) fun uri s t bound => .bind .drawNonce fun n _ _ _ =>
    .bind (.lift _) fun key _ _ parsed => .bind (.lift _) fun text _ _ _ => ?_
  have named : r.event a = .bearerToken r.keyId key.algorithm uri.isSome := by
    rw [event, (lift_eq_ok.mp bound).1, family key (parseKey_eq_ok.mp parsed).1]
    rfl
  rw [named]
  exact .bind (.log _) fun _ _ _ _ => .pure text

def WalletRequest.event (r : WalletRequest) : Event :=
  .walletToken r.coordinates.method r.coordinates.path (!r.body.isEmpty)

theorem WalletRequest.logs_token {r : WalletRequest} {now : Int64} : Logs [r.event] (r.token now) := by
  apply Logs.guard
  refine .bind (.lift _) fun key _ _ _ => .bind .drawNonce fun n _ _ _ => .bind (.lift _) fun text _ _ _ => ?_
  have body : (r.claims n now).body.isSome = !r.body.isEmpty := by
    rw [claims, WalletClaims.new]
    cases r.body.isEmpty <;> rfl
  rw [body]
  exact .bind (.log _) fun _ _ _ _ => .pure text

namespace HeadersRequest
variable {r : HeadersRequest} {a : Algorithm}

def walletTrace (r : HeadersRequest) : List Event :=
  if requiresWalletProof r.coordinates.method r.coordinates.path then
    [.walletToken r.coordinates.method r.coordinates.path (!(r.body.getD []).isEmpty)]
  else []

theorem logs_walletToken : Logs r.walletTrace (r.walletToken now) := by
  unfold walletToken walletTrace
  split
  · refine .bind (.lift _) fun w _ _ given => ?_
    obtain ⟨secret, -, -, rfl⟩ := wallet_eq_ok.mp (lift_eq_ok.mp given).1
    let w : WalletRequest := ⟨secret, r.coordinates, r.body.getD []⟩
    have made : Logs [w.event] (w.token now.wallet) := WalletRequest.logs_token
    exact made.map some
  · exact .pure none

def trace (r : HeadersRequest) (a : Algorithm) : List Event := r.bearer.event a :: r.walletTrace

theorem logs_headers (family : ∀ key, SigningKey.ofApiSecret r.keySecret = .ok key → key.algorithm = a) :
    Logs (r.trace a) (r.headers now) :=
  .bind (r.bearer.logs_token family) fun _ _ _ _ => logs_walletToken.map _

end HeadersRequest

namespace Request
variable {r : Request} {o : ClientOptions} {a : Algorithm}

def trace (o : ClientOptions) (a : Algorithm) (r : Request) : List Event :=
  if r.needsProof then
    match r.body.members with
    | .ok ms => (headersRequest o r (some ms)).trace a ++ [authenticatedEvent o r true]
    | .error f => [.bodyRefused r.coordinates.method r.coordinates.path f]
  else (headersRequest o r none).trace a ++ [authenticatedEvent o r false]

theorem trace_boundBody {body : Option Members} (bound : r.boundBody s = .ok body s') :
    r.trace o a = (headersRequest o r body).trace a ++ [authenticatedEvent o r r.needsProof] := by
  obtain ⟨-, bound⟩ := boundBody_eq_ok.mp bound
  unfold trace
  by_cases need : r.needsProof
  · rw [if_pos need] at bound ⊢
    obtain ⟨ms, read, rfl⟩ := bound
    rw [read, need]
  · rw [if_neg need] at bound ⊢
    cases bound
    rw [Bool.eq_false_iff.mpr need]

/-- A refused body is logged at once, and nothing else of its call. -/
theorem events_refused {e : AuthError} (refused : r.boundBody s = .error e s') :
    ∃ f, r.needsProof ∧ r.body.members = .error f ∧ e = .body f ∧
      s'.events = s.events ++ [.bodyRefused r.coordinates.method r.coordinates.path f] := by
  obtain ⟨-, f, read, rfl⟩ := boundBody_error refused
  by_cases need : r.needsProof
  · rw [boundBody, if_pos need, read] at refused
    cases refused
    exact ⟨f, need, read, rfl, rfl⟩
  · cases (boundBody_free need).symm.trans refused

theorem trace_refused {e : AuthError} (refused : r.boundBody s = .error e s') :
    s'.events = s.events ++ r.trace o a := by
  obtain ⟨f, need, read, -, events⟩ := events_refused refused
  rw [events, trace, if_pos need, read]

theorem logs_authenticate (family : ∀ key, SigningKey.ofApiSecret o.keySecret = .ok key → key.algorithm = a) :
    Logs (r.trace o a) (r.authenticate o now) := by
  have logs (body : Option Members) : Logs ((headersRequest o r body).trace a)
      ((headersRequest o r body).headers now) := HeadersRequest.logs_headers family
  constructor
  · intro s r' t h
    obtain ⟨body, set, fields, t, bound, made, -, rfl, -⟩ := authenticate_eq_ok.mp h
    have proof : set.walletAuth.isSome = r.needsProof := HeadersRequest.isSome_walletAuth made
    rw [trace_boundBody bound, proof, (logs body).done made, List.append_assoc]
  · intro s e t h
    obtain ⟨_, h⟩ := authenticate_error h
    obtain ⟨-, refused | ⟨body, bound, unmade | ⟨set, made, -⟩⟩⟩ := edit_error h
    · exact ⟨_, List.prefix_rfl, trace_refused refused⟩
    · rw [trace_boundBody bound]
      obtain ⟨l, front, events⟩ := (logs body).failed unmade
      exact ⟨l, front.trans (List.prefix_append _ _), events⟩
    · rw [trace_boundBody bound]
      exact ⟨_, List.prefix_append _ _, (logs body).done made⟩

end Request

end RequestAuth
