import RequestAuth.Proofs.Http.Authenticate
import RequestAuth.Proofs.Token.Content

/-! The headers of a stream are those of a request without coordinates. -/

namespace RequestAuth
open Json.Read

/-- A token is bound by one member of its payload, and only if it is made for a request. -/
theorem BearerClaims.uris_written (c : BearerClaims) :
    (∃ v, ("uris", v) ∈ Members.ofList (written shape c.write)) ↔ c.uris.isSome := by
  rw [ofList_written]
  cases c.uris <;> simp

theorem BearerRequest.token_free {r : BearerRequest} {now : Int64} {s s' : SignerState} {t : String}
    (free : r.coordinates = ⟨"", "", ""⟩) (made : r.token now s = .ok t s') :
    ∃ p ms, Token.parts? t = some p ∧ parse p.payload = .ok (.object ms) ∧ ∀ v, ("uris", v) ∉ ms := by
  obtain ⟨-, -, uri, n, key, bound, -, -, encoded, -⟩ := token_eq_ok.mp made
  have unbound : uri = none := by
    obtain ⟨method, -⟩ | ⟨-, -, -, unbound⟩ := uri_eq_ok.mp bound
    · rw [free] at method
      exact absurd rfl method
    · exact unbound
  obtain ⟨p, -, -, carries⟩ := Token.carries_encode (r.claims uri now).toJson_written
    (forall_written fun _ _ => Token.exact_bearer (by decide)) encoded
  refine ⟨p, _, carries.parts, carries.payload, ?_⟩
  intro v member
  have named := (r.claims uri now).uris_written.mp ⟨v, member⟩
  rw [unbound] at named
  cases named

namespace StreamRequest
variable (r : StreamRequest) (body : Option Members) (secret : Option String)

/-- The request without coordinates, by the same holder. -/
def unbound : HeadersRequest where
  keyId := r.keyId
  keySecret := r.keySecret
  coordinates := ⟨"", "", ""⟩
  body := body
  walletSecret := secret
  source := r.source
  sourceVersion := r.sourceVersion
  expiresIn := r.expiresIn
  audience := r.audience

theorem bearer_unbound : (r.unbound body secret).bearer = r.bearer := rfl

theorem walletToken_unbound (now : Times) : (r.unbound body secret).walletToken now = pure none := by
  have free : ¬ requiresWalletProof "" "" := by decide
  exact if_neg free

theorem headers_unbound (now : Times) : (r.unbound body secret).headers now = r.headers now.bearer := by
  rw [HeadersRequest.headers, walletToken_unbound, bearer_unbound]
  rfl

/-- A stream and a request without coordinates get the same headers or the same error, and leave the same
nonces and events behind. There is no proof and the token is bound to nothing. -/
theorem stream_unbound (now : Times) (s : SignerState) :
    (r.unbound body secret).headers now s = r.headers now.bearer s ∧
    ∀ set s', r.headers now.bearer s = .ok set s' → set.walletAuth = none ∧
      ∃ token p ms, set.authorization = "Bearer " ++ token ∧ Token.parts? token = some p ∧
        parse p.payload = .ok (.object ms) ∧ ∀ v, ("uris", v) ∉ ms := by
  refine ⟨by rw [headers_unbound], ?_⟩
  intro set s' done
  obtain ⟨token, made, rfl⟩ := headers_eq_ok.mp done
  obtain ⟨p, ms, parts, payload, free⟩ := BearerRequest.token_free rfl made
  exact ⟨rfl, token, p, ms, rfl, parts, payload, free⟩

/-- With a secret and a body that would do for a proof. -/
theorem stream_unbound_sample : ∃ (r : StreamRequest) (set : HeaderSet) (s' : SignerState),
    (r.unbound (some WalletRequest.sample.body) (some WalletRequest.sample.secret)).headers 1700000000
      ⟨.constant .zero, []⟩ = .ok set s' ∧
    set.walletAuth = none := by
  let r : StreamRequest :=
    ⟨BearerRequest.sample.keyId, BearerRequest.sample.keySecret, some "docs", none, none, []⟩
  obtain ⟨token, s', made⟩ := BearerRequest.sample_made
  have done : r.headers 1700000000 ⟨.constant .zero, []⟩ = .ok _ s' := headers_eq_ok.mpr ⟨token, made, rfl⟩
  obtain ⟨same, finished⟩ := stream_unbound r (some WalletRequest.sample.body)
    (some WalletRequest.sample.secret) 1700000000 ⟨.constant .zero, []⟩
  obtain ⟨unproved, -⟩ := finished _ _ done
  exact ⟨r, _, s', same.trans done, unproved⟩

end StreamRequest
end RequestAuth
