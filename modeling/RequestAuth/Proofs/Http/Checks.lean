import RequestAuth.Proofs.Http.Binding
import RequestAuth.Proofs.Http.Session
import RequestAuth.Proofs.Token.Refusal

/-! What a request is checked for before it is authenticated, and in which order: the first check that
fails gives the error, and a request that passes all of them is authenticated. -/

namespace RequestAuth
open Signing
variable {s : SignerState} {now : Times}

namespace HeadersRequest
variable {r : HeadersRequest}

theorem failure?_walletToken : failure? (r.walletToken now s) =
    if requiresWalletProof r.coordinates.method r.coordinates.path then
      match r.wallet with
      | .ok w => w.refused?.or ((refusal? s.nonces.take.1).map AuthError.nonce)
      | .error e => some e
    else none := by
  unfold walletToken
  split
  · cases asked : r.wallet with
    | error e => rfl
    | ok w =>
      rw [failure?_bind (g := failure? (w.token now.wallet s)), failure?_lift]
      · exact WalletRequest.failure?_token
      · intro v t e
        obtain ⟨given, rfl⟩ := lift_eq_ok.mp e
        cases given
        rw [failure?_bind (g := none), Option.or_none]
        intro text t' _
        rfl
  · rfl

theorem failure?_headers : failure? (r.headers now s) =
    (failure? (r.bearer.token now.bearer s)).or
      (if requiresWalletProof r.coordinates.method r.coordinates.path then
        match r.wallet with
        | .ok w => w.refused?.or ((refusal? s.nonces.take.2.take.1).map AuthError.nonce)
        | .error e => some e
      else none) := by
  unfold headers
  apply failure?_bind
  intro token t made
  obtain ⟨-, -, _, _, _, -, take, -⟩ := BearerRequest.token_eq_ok.mp made
  have left : t.nonces = s.nonces.take.2 := by rw [take]
  rw [failure?_bind (g := none), Option.or_none, failure?_walletToken, left]
  intro proof t' _
  rfl

/-- Tokens can always be sent, so only the text about the program that sends them can be refused. -/
theorem isValue_pairs {s' : SignerState} {set : HeaderSet} (made : r.headers now s = .ok set s') :
    (∀ p ∈ set.pairs, HeaderSet.isValue p.2) ↔
      HeaderSet.isValue (correlationContext r.source r.sourceVersion) := by
  obtain ⟨authorization, contentType, proof, context⟩ := isValue_headers made
  rw [← context]
  exact HeaderSet.isValue_pairs authorization contentType proof

end HeadersRequest

theorem HeaderSet.refusal?_fields {set : HeaderSet} {c : Prop} [Decidable c]
    (h : (∀ p ∈ set.pairs, isValue p.2) ↔ c) :
    refusal? set.fields = if c then none else some .headerValue := by
  rw [fields_eq]
  by_cases valid : c
  · rw [if_pos valid, if_pos (List.all_eq_true.mpr (h.mpr valid))]
    rfl
  · rw [if_neg valid, if_neg (fun all => valid (h.mp (List.all_eq_true.mp all)))]
    rfl

namespace Request

theorem failure?_boundBody {r : Request} : failure? (r.boundBody s) =
    if r.needsProof then (refusal? r.body.members).map AuthError.body else none := by
  unfold boundBody
  split
  · cases r.body.members <;> rfl
  · rfl

theorem Editing.failure?_sign {α : Type} {x : Signing α} {q : Open} :
    failure? (sign x q) = failure? (x q.signer) := by
  unfold sign
  cases x q.signer <;> rfl

end Request

inductive Check where
  | body
  | keyId
  | keySecret
  | coordinates
  | bearerNonce
  | apiSecret
  | walletSecret
  | walletKey
  | walletNonce
  | headerValues
  deriving DecidableEq

namespace Check

def inOrder (withProof : Bool) : List Check :=
  (if withProof then [body] else []) ++ [keyId, keySecret, coordinates, bearerNonce, apiSecret] ++
    (if withProof then [walletSecret, walletKey, walletNonce] else []) ++ [headerValues]

def fault (o : ClientOptions) (r : Request) (source : NonceSource) : Check → Option AuthError
  | body =>
    match r.body with
    | .none => none
    | .octets b =>
      if b = [] then none
      else (refusal? (Json.Read.document Json.Read.object b)).map fun f => .body (.document f)
    | .stream => some (.body .streaming)
  | keyId => if o.keyId = "" then some (.missing .keyId) else none
  | keySecret => if o.keySecret = "" then some (.missing .keySecret) else none
  | coordinates => if r.url.host? = none ∨ r.url.path = "" then some .malformedCoordinates else none
  | bearerNonce => (refusal? source.take.1).map .nonce
  | apiSecret => (refusal? (SigningKey.ofApiSecret o.keySecret)).map .key
  | walletSecret =>
    if o.walletSecret.getD "" = "" then some (.missing .configuredWalletSecret) else none
  | walletKey => (refusal? (SigningKey.ofWalletSecret (o.walletSecret.getD ""))).map .key
  | walletNonce => (refusal? source.take.2.take.1).map .nonce
  | headerValues =>
    if HeaderSet.isValue (correlationContext o.source o.sourceVersion) then none else some .headerValue

def gives : Check → AuthError → Bool
  | body, .body _ => true
  | keyId, .missing .keyId => true
  | keySecret, .missing .keySecret => true
  | coordinates, .malformedCoordinates => true
  | bearerNonce, .nonce _ => true
  | apiSecret, .key (.keypair _) => true
  | apiSecret, .key .unrecognized => true
  | walletSecret, .missing .configuredWalletSecret => true
  | walletKey, .key (.walletText _) => true
  | walletKey, .key .walletStructure => true
  | walletKey, .key .notEc => true
  | walletKey, .key .notP256 => true
  | walletNonce, .nonce _ => true
  | headerValues, .headerValue => true
  | _, _ => false

variable {o : ClientOptions} {r : Request} {source : NonceSource}

theorem gives_fault {c : Check} {e : AuthError} (h : c.fault o r source = some e) : c.gives e := by
  cases c with
  | body =>
    simp only [fault] at h
    split at h
    · cases h
    · split at h
      · cases h
      · obtain ⟨f, -, rfl⟩ := Option.map_eq_some_iff.mp h
        rfl
    · cases h
      rfl
  | keyId | keySecret | coordinates | walletSecret | headerValues =>
    simp only [fault] at h
    split at h <;> cases h
    rfl
  | bearerNonce | walletNonce =>
    obtain ⟨f, -, rfl⟩ := Option.map_eq_some_iff.mp h
    rfl
  | apiSecret =>
    obtain ⟨f, refused, rfl⟩ := Option.map_eq_some_iff.mp h
    obtain ⟨g, rfl⟩ | rfl := SigningKey.ofApiSecret_error (refusal?_eq_some.mp refused) <;> rfl
  | walletKey =>
    obtain ⟨f, refused, rfl⟩ := Option.map_eq_some_iff.mp h
    obtain ⟨g, rfl⟩ | rfl | rfl | rfl :=
      SigningKey.ofWalletSecret_error (refusal?_eq_some.mp refused) <;> rfl

theorem fault_body : fault o r source .body = (refusal? r.body.members).map AuthError.body := by
  unfold fault Body.members
  cases r.body with
  | none | stream => rfl
  | octets b =>
    cases b with
    | nil => rfl
    | cons c b => simp [refusal?_mapError]; rfl

theorem findSome?_cons_or {α β : Type} (f : α → Option β) (a : α) (l : List α) :
    (a :: l).findSome? f = (f a).or (l.findSome? f) := by
  rw [List.findSome?_cons]
  cases f a <;> rfl

end Check

namespace Request
open Check
variable {o : ClientOptions} {r : Request}

theorem refused?_bearer (body : Option Members) (method : r.method ≠ "") :
    (headersRequest o r body).bearer.refused? =
      ((fault o r s.nonces .keyId).or ((fault o r s.nonces .keySecret).or
        (fault o r s.nonces .coordinates))) := by
  have upper : asciiUpper r.method ≠ "" := mt asciiUpper_eq_empty.mp method
  have uri : refusal? (headersRequest o r body).bearer.uri = fault o r s.nonces .coordinates := by
    simp only [BearerRequest.uri, HeadersRequest.bearer, headersRequest, Coordinates.binding,
      coordinates, upper, fault, ← Url.hostAndPort_eq_empty]
    by_cases host : r.url.hostAndPort = "" <;> by_cases path : r.url.path = "" <;>
      simp [host, path, upper, refusal?]
  rw [BearerRequest.refused?, uri]
  rfl

theorem failure?_headers (body : Option Members) (method : r.method ≠ "") :
    failure? ((headersRequest o r body).headers now s) =
      ([keyId, keySecret, Check.coordinates, bearerNonce, apiSecret] ++
        if r.needsProof then [walletSecret, walletKey, walletNonce] else []).findSome?
          (fault o r s.nonces) := by
  have proof : (match (headersRequest o r body).wallet with
      | .ok w => w.refused?.or ((refusal? s.nonces.take.2.take.1).map AuthError.nonce)
      | .error e => some e) =
      [walletSecret, walletKey, walletNonce].findSome? (fault o r s.nonces) := by
    simp only [findSome?_cons_or, List.findSome?_nil, Option.or_none]
    cases given : o.walletSecret with
    | none => simp [HeadersRequest.wallet, headersRequest, given, fault]
    | some secret =>
      by_cases empty : secret = ""
      · simp [HeadersRequest.wallet, headersRequest, given, fault, empty]
      · simp [HeadersRequest.wallet, headersRequest, given, fault, empty, WalletRequest.refused?]
  rw [HeadersRequest.failure?_headers, BearerRequest.failure?_token, refused?_bearer body method,
    List.findSome?_append]
  congr 1
  · simp only [findSome?_cons_or, List.findSome?_nil, Option.or_none, Option.or_assoc]
    rfl
  · change (if r.needsProof then _ else _) = _
    split
    · exact proof
    · rfl

def withBody (o : ClientOptions) (now : Times) (r : Request) (body : Option Members) :
    Editing HeaderFields := do
  let set ← Editing.sign ((headersRequest o r body).headers now)
  let fields ← Editing.sign (lift set.fields)
  Editing.insertAll fields
  Editing.sign (log (authenticatedEvent o r set.walletAuth.isSome))
  return fields

theorem failure?_authenticate (method : r.method ≠ "") : failure? (r.authenticate o now s) =
    (inOrder r.needsProof).findSome? (fault o r s.nonces) := by
  have edited : failure? (r.authenticate o now s) = failure? (edit o now ⟨r, s⟩) := by
    unfold authenticate
    cases edit o now ⟨r, s⟩ <;> rfl
  have checks : inOrder r.needsProof = (if r.needsProof then [Check.body] else []) ++
      (([keyId, keySecret, Check.coordinates, bearerNonce, apiSecret] ++
        if r.needsProof then [walletSecret, walletKey, walletNonce] else []) ++ [headerValues]) := by
    simp [inOrder]
  have bound : (if r.needsProof then (refusal? r.body.members).map AuthError.body else none) =
      (if r.needsProof then [Check.body] else []).findSome? (fault o r s.nonces) := by
    split
    · rw [findSome?_cons_or, List.findSome?_nil, Option.or_none, fault_body]
    · rfl
  have rest : ∀ body, failure? (r.withBody o now body ⟨r, s⟩) =
      (([keyId, keySecret, Check.coordinates, bearerNonce, apiSecret] ++
        if r.needsProof then [walletSecret, walletKey, walletNonce] else []) ++
          [headerValues]).findSome? (fault o r s.nonces) := by
    intro body
    rw [List.findSome?_append, ← failure?_headers body method, ← Editing.failure?_sign (q := ⟨r, s⟩)]
    apply failure?_bind
    intro set q made
    obtain ⟨made, -⟩ := Editing.sign_eq_ok.mp made
    rw [failure?_bind (g := none), Editing.failure?_sign, failure?_lift, Option.or_none,
      HeaderSet.refusal?_fields (HeadersRequest.isValue_pairs made), findSome?_cons_or,
      List.findSome?_nil, Option.or_none]
    · rfl
    · intro fields q' _
      rw [failure?_bind (g := none), Editing.insertAll_run]
      · rfl
      · intro _ _ _
        rfl
  have run : edit o now ⟨r, s⟩ = (Editing.sign r.boundBody >>= r.withBody o now) ⟨r, s⟩ := rfl
  rw [edited, run, checks, List.findSome?_append, ← bound, ← failure?_boundBody,
    ← Editing.failure?_sign (q := ⟨r, s⟩)]
  apply failure?_bind
  intro body q read
  obtain ⟨read, kept⟩ := Editing.sign_eq_ok.mp read
  obtain ⟨same, -⟩ := boundBody_eq_ok.mp read
  obtain ⟨request, signer⟩ := q
  cases kept
  cases same
  exact rest body

/-- A request that passes all checks is authenticated, and any other is refused with the error of the
first check that it fails. Nothing else can go wrong. -/
theorem authenticate_outcome (o : ClientOptions) (now : Times) (r : Request) (s : SignerState)
    (method : r.method ≠ "") :
    ((∃ r' s', r.authenticate o now s = .ok r' s') ↔
      ∀ c ∈ inOrder r.needsProof, c.fault o r s.nonces = none) ∧
    (∀ e, (∃ s', r.authenticate o now s = .error e s') ↔
      ∃ passed c rest, inOrder r.needsProof = passed ++ c :: rest ∧ c.fault o r s.nonces = some e ∧
        ∀ d ∈ passed, d.fault o r s.nonces = none) ∧
    (r.needsProof ↔ (asciiUpper r.method = "POST" ∨ asciiUpper r.method = "DELETE") ∧
      "/accounts".toList <:+: r.url.path.toList) ∧
    (∀ (c : Check) e, c.fault o r s.nonces = some e → c.gives e) ∧
    (∀ body set t, r.boundBody s = .ok body s →
      (headersRequest o r body).headers now s = .ok set t →
      (headerValues.fault o r s.nonces = none ↔ ∀ p ∈ set.pairs, HeaderSet.isValue p.2)) ∧
    ∀ e s', r.authenticate o now s = .error e s' →
      (∀ f, e ≠ .document f) ∧ (∀ named used, e ≠ .algorithmMismatch named used) ∧
        ∀ f, e ≠ .options f := by
  have failed (e : AuthError) : (∃ s', r.authenticate o now s = .error e s') ↔
      ∃ passed c rest, inOrder r.needsProof = passed ++ c :: rest ∧ c.fault o r s.nonces = some e ∧
        ∀ d ∈ passed, d.fault o r s.nonces = none := by
    rw [← failure?_eq_some, failure?_authenticate method, List.findSome?_eq_some_iff]
  refine ⟨?_, failed, needsProof_iff, fun c e => gives_fault, ?_, ?_⟩
  · rw [← failure?_eq_none, failure?_authenticate method, List.findSome?_eq_none_iff]
  · intro body set t _ made
    rw [HeadersRequest.isValue_pairs made]
    simp only [fault, ite_eq_left_iff, reduceCtorEq, imp_false, Bool.not_eq_true, Bool.not_eq_false]
    rfl
  · intro e s' h
    obtain ⟨_, c, _, -, given, -⟩ := (failed e).mp ⟨s', h⟩
    have possible := gives_fault given
    refine ⟨?_, ?_, ?_⟩
    · rintro f rfl
      cases c <;> cases possible
    · rintro named used rfl
      cases c <;> cases possible
    · rintro f rfl
      cases c <;> cases possible

/-- The one nonce that is left goes into the bearer token, and there is none for the proof. -/
theorem authenticate_outcome_sample : (sample "post" .none).method ≠ "" ∧
    (∀ c ∈ inOrder true, c ≠ walletNonce →
      c.fault sampleOptions (sample "post" .none) (.listed [.ok .zero]) = none) ∧
    ∃ s', (sample "post" .none).authenticate sampleOptions 1700000000 ⟨.listed [.ok .zero], []⟩ =
      .error (.nonce NonceSource.exhausted) s' := by
  have method : (sample "post" .none).method ≠ "" := by decide
  have need := sample_needsProof .none
  have passed : ∀ c ∈ inOrder true, c ≠ walletNonce →
      c.fault sampleOptions (sample "post" .none) (.listed [.ok .zero]) = none := by
    intro c _ other
    cases c with
    | walletNonce => exact absurd rfl other
    | apiSecret =>
      have read : SigningKey.ofApiSecret sampleOptions.keySecret = _ := BearerRequest.sample_key
      rw [fault, read]
      rfl
    | walletKey =>
      have read : SigningKey.ofWalletSecret (sampleOptions.walletSecret.getD "") = _ :=
        WalletRequest.sample_key
      rw [fault, read]
      rfl
    | _ => decide
  obtain ⟨-, failed, -⟩ := authenticate_outcome sampleOptions 1700000000 (sample "post" .none)
    ⟨.listed [.ok .zero], []⟩ method
  refine ⟨method, passed, (failed _).mpr ?_⟩
  rw [need]
  refine ⟨[Check.body, keyId, keySecret, Check.coordinates, bearerNonce, apiSecret, walletSecret,
    walletKey], walletNonce, [headerValues], rfl, rfl, ?_⟩
  intro d hd
  apply passed d
  · simp only [List.mem_cons, List.not_mem_nil, or_false] at hd
    obtain rfl | rfl | rfl | rfl | rfl | rfl | rfl | rfl := hd <;> decide
  · rintro rfl
    exact absurd hd (by decide)

end Request
end RequestAuth
