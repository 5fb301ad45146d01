import RequestAuth.Proofs.Http.Binding
import RequestAuth.Proofs.Http.Unlogged

/-! What has a part in authenticating a request, told by two runs: where they agree on the method in capital
letters, the host with its port and the path, nothing else of the requests makes a difference, but for the
body of a request that needs a proof. -/

namespace RequestAuth.Request
open Signing
variable {r₁ r₂ : Request} {o₁ o₂ : ClientOptions} {now : Times} {s₁ s₂ : SignerState}

structure SameRequest (r₁ r₂ : Request) : Prop where
  method : asciiUpper r₁.method = asciiUpper r₂.method
  host : r₁.url.hostAndPort = r₂.url.hostAndPort
  path : r₁.url.path = r₂.url.path

structure SameOptions (o₁ o₂ : ClientOptions) : Prop where
  keyId : o₁.keyId = o₂.keyId
  keySecret : o₁.keySecret = o₂.keySecret
  source : o₁.source = o₂.source
  sourceVersion : o₁.sourceVersion = o₂.sourceVersion
  expiresIn : o₁.expiresIn = o₂.expiresIn

/-- Both requests get the same fields, or fail alike, and the same nonces are left. -/
inductive SameAnswer (r₁ r₂ : Request) :
    EStateM.Result AuthError SignerState Request → EStateM.Result AuthError SignerState Request → Prop where
  | done {s₁ s₂ : SignerState} (fields : HeaderFields) (nonces : s₁.nonces = s₂.nonces) :
      SameAnswer r₁ r₂ (.ok { r₁ with headers := insertFields r₁.headers fields } s₁)
        (.ok { r₂ with headers := insertFields r₂.headers fields } s₂)
  | refused {s₁ s₂ : SignerState} (e : AuthError) (nonces : s₁.nonces = s₂.nonces) :
      SameAnswer r₁ r₂ (.error e s₁) (.error e s₂)

theorem SameRequest.coordinates (same : SameRequest r₁ r₂) : r₁.coordinates = r₂.coordinates := by
  rw [Request.coordinates, Request.coordinates, same.method, same.host, same.path]

theorem SameRequest.needsProof (same : SameRequest r₁ r₂) : r₁.needsProof = r₂.needsProof := by
  rw [Request.needsProof, Request.needsProof, same.coordinates]

theorem headersRequest_same (same : SameRequest r₁ r₂) (options : SameOptions o₁ o₂) (body : Option Members) :
    headersRequest o₂ r₂ body = { headersRequest o₁ r₁ body with walletSecret := o₂.walletSecret } := by
  simp only [headersRequest, same.coordinates, options.keyId, options.keySecret, options.source,
    options.sourceVersion, options.expiresIn]

/-- The headers decide, whoever keeps the log. -/
theorem sameAnswer_of_headers {b₁ b₂ : Option Members} (bound₁ : r₁.boundBody s₁ = .ok b₁ s₁)
    (bound₂ : r₂.boundBody s₂ = .ok b₂ s₂) (nonces : s₁.nonces = s₂.nonces)
    (same : (headersRequest o₂ r₂ b₂).headers now = (headersRequest o₁ r₁ b₁).headers now) :
    SameAnswer r₁ r₂ (r₁.authenticate o₁ now s₁) (r₂.authenticate o₂ now s₂) := by
  rw [authenticate_of_body bound₁, authenticate_of_body bound₂, same]
  have unlogged : Unlogged ((headersRequest o₁ r₁ b₁).headers now) := HeadersRequest.unlogged_headers
  have given := unlogged s₁ s₂ nonces
  revert given
  -- The two runs end in the same way, so that the mixed cases are empty.
  cases (headersRequest o₁ r₁ b₁).headers now s₁ with
  | error e t₁ =>
    cases (headersRequest o₁ r₁ b₁).headers now s₂ with
    | error f t₂ =>
      intro given
      obtain ⟨reason, left⟩ := Prod.mk.inj given
      cases reason
      exact .refused e left
    | ok set t₂ =>
      intro given
      cases (Prod.mk.inj given).1
  | ok set t₁ =>
    cases (headersRequest o₁ r₁ b₁).headers now s₂ with
    | error f t₂ =>
      intro given
      cases (Prod.mk.inj given).1
    | ok set' t₂ =>
      intro given
      obtain ⟨made, left⟩ := Prod.mk.inj given
      cases made
      cases valid : set.fields with
      | error e =>
        simp only [valid]
        exact .refused e left
      | ok fields =>
        simp only [valid]
        exact .done fields left

/-- A request without a proof is authenticated whatever its body is and whatever the wallet secret, and one
with a proof by what its body says. Scheme, user, query, fragment, earlier headers, the letters of the
method, what has been logged and the options for addresses and debugging make no difference. -/
theorem authenticate_declared (same : SameRequest r₁ r₂) (options : SameOptions o₁ o₂)
    (nonces : s₁.nonces = s₂.nonces) :
    (¬ requiresWalletProof (asciiUpper r₁.method) r₁.url.path →
      SameAnswer r₁ r₂ (r₁.authenticate o₁ now s₁) (r₂.authenticate o₂ now s₂)) ∧
    (requiresWalletProof (asciiUpper r₁.method) r₁.url.path → o₁.walletSecret = o₂.walletSecret →
      ∀ ms, r₁.body.members = .ok ms → r₂.body.members = .ok ms →
        SameAnswer r₁ r₂ (r₁.authenticate o₁ now s₁) (r₂.authenticate o₂ now s₂)) := by
  constructor
  · intro free
    have free₁ : ¬ r₁.needsProof := free
    have free₂ : ¬ r₂.needsProof := same.needsProof ▸ free₁
    apply sameAnswer_of_headers (boundBody_free free₁) (boundBody_free free₂) nonces
    rw [headersRequest_same same options]
    exact HeadersRequest.headers_free (r := headersRequest o₁ r₁ none) free o₂.walletSecret none
  · intro need secret ms read₁ read₂
    have need₁ : r₁.needsProof := need
    have need₂ : r₂.needsProof := same.needsProof ▸ need₁
    apply sameAnswer_of_headers (boundBody_read need₁ read₁) (boundBody_read need₂ read₂) nonces
    rw [headersRequest_same same options, ← secret]
    rfl

def sampleElsewhere (method : String) (body : Body) : Request where
  method := method
  url := ⟨"http", some ⟨"user@", "api.cdp.coinbase.com", none⟩, "/platform/v2/evm/accounts", some "q=1",
    some "f"⟩
  headers := []
  body := body

theorem same_elsewhere {small capital : String} (letters : asciiUpper small = asciiUpper capital)
    (b₁ b₂ : Body) : SameRequest (sample small b₁) (sampleElsewhere capital b₂) :=
  ⟨letters, rfl, rfl⟩

/-- A stream and a broken body where no proof is needed, and no body and an empty object where one is. -/
theorem authenticate_declared_sample :
    SameAnswer (sample "get" .stream) (sampleElsewhere "GET" (.octets [123]))
      ((sample "get" .stream).authenticate sampleOptions 1700000000 ⟨.constant .zero, []⟩)
      ((sampleElsewhere "GET" (.octets [123])).authenticate { sampleOptions with walletSecret := none }
        1700000000 ⟨.constant .zero, []⟩) ∧
    SameAnswer (sample "post" .none) (sampleElsewhere "POST" (.octets [123, 125]))
      ((sample "post" .none).authenticate sampleOptions 1700000000 ⟨.constant .zero, []⟩)
      ((sampleElsewhere "POST" (.octets [123, 125])).authenticate sampleOptions 1700000000
        ⟨.constant .zero, []⟩) ∧
    ∃ r' s', (sample "post" .none).authenticate sampleOptions 1700000000 ⟨.constant .zero, []⟩ = .ok r' s' := by
  have get : asciiUpper "get" = "GET" := asciiUpper_eq rfl
  have post : asciiUpper "POST" = "POST" := asciiUpper_eq rfl
  have need := sample_needsProof .none
  have free : ¬ requiresWalletProof (asciiUpper "get") (sample "get" .stream).url.path := by
    intro h
    obtain ⟨-, e | e⟩ := requiresWalletProof_iff.mp h
    · exact absurd (get.symm.trans e) (by decide)
    · exact absurd (get.symm.trans e) (by decide)
  have capital : asciiUpper "GET" = "GET" := asciiUpper_eq rfl
  have small := same_elsewhere (get.trans capital.symm) .stream (.octets [123])
  have large := same_elsewhere (asciiUpper_post.trans post.symm) .none (.octets [123, 125])
  have other : SameOptions sampleOptions { sampleOptions with walletSecret := none } :=
    ⟨rfl, rfl, rfl, rfl, rfl⟩
  have own : SameOptions sampleOptions sampleOptions := ⟨rfl, rfl, rfl, rfl, rfl⟩
  let s : SignerState := ⟨.constant .zero, []⟩
  have nonces : s.nonces = s.nonces := rfl
  exact ⟨(authenticate_declared small other nonces).1 free,
    (authenticate_declared large own nonces).2 need rfl [] rfl rfl, sample_done need rfl 1700000000⟩

end RequestAuth.Request
