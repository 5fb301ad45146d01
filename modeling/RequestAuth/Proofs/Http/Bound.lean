import RequestAuth.Proofs.Http.Session
import RequestAuth.Proofs.Http.Binding
import RequestAuth.Proofs.Token.Mark
import RequestAuth.Proofs.Url.Parsed

/-! What the tokens of a set of headers are bound to, and that the headers of a request are always bound to
that request. -/

namespace RequestAuth
open Token
variable {now : Times} {s s' : SignerState}

theorem HeadersRequest.headers_marks {r : HeadersRequest} {set : HeaderSet}
    (made : r.headers now s = .ok set s') : ∃ t m, set.authorization = "Bearer " ++ t ∧
      mark? t = some m ∧
      (r.coordinates.method ≠ "" ∧ r.coordinates.host ≠ "" ∧ r.coordinates.path ≠ "" ∧
          m.uris = some [.ofCoordinates r.coordinates] ∨
        r.coordinates.method = "" ∧ r.coordinates.host = "" ∧ r.coordinates.path = "" ∧
          m.uris = none) ∧
      ∀ p, set.walletAuth = some p → ∃ w, mark? p = some w ∧ w.uris = m.uris := by
  obtain ⟨token, proof, t, bearer, wallet, rfl⟩ := headers_eq_ok.mp made
  obtain ⟨uri, n, key, bound, -, -, mark⟩ := BearerRequest.token_mark bearer
  refine ⟨token, _, rfl, mark, ?_, ?_⟩
  · obtain ⟨method, host, path, rfl⟩ | ⟨method, host, path, rfl⟩ := BearerRequest.uri_eq_ok.mp bound
    · exact Or.inl ⟨method, host, path, rfl⟩
    · exact Or.inr ⟨method, host, path, rfl⟩
  · rintro p rfl
    have wallet := walletToken_eq_ok.mp wallet
    split at wallet
    · rename_i needed
      obtain ⟨w, q, asked, proved, same⟩ := wallet
      obtain ⟨secret, -, -, rfl⟩ := wallet_eq_ok.mp asked
      obtain ⟨n', -, -, proved⟩ := WalletRequest.token_mark proved
      cases same
      refine ⟨_, proved, ?_⟩
      -- Methods that need a proof are not empty, so the bearer token is bound as well.
      obtain ⟨-, -, -, rfl⟩ | ⟨method, -⟩ := BearerRequest.uri_eq_ok.mp bound
      · rfl
      · have empty : r.coordinates.method = "" := method
        have methods := (requiresWalletProof_iff.mp needed).2
        rw [empty] at methods
        simp at methods
    · cases wallet.1

theorem Request.authenticate_tokens {o : ClientOptions} {r r' : Request}
    (done : r.authenticate o now s = .ok r' s') : ∃ body set t,
      (headersRequest o r body).headers now s = .ok set t ∧
      r'.headers.values "authorization" = [set.authorization] ∧
      ∀ p, set.walletAuth = some p → r'.headers.values "x-wallet-auth" = [p] := by
  obtain ⟨body, set, fields, t, -, made, valid, -, rfl⟩ := authenticate_eq_ok.mp done
  rw [HeaderSet.fields_inserted valid]
  refine ⟨body, set, t, made, ?_, ?_⟩
  · exact HeaderSet.values_insertFields r.headers (p := ("authorization", set.authorization))
      (by simp [HeaderSet.inserted])
  · intro p given
    exact HeaderSet.values_insertFields r.headers (p := ("x-wallet-auth", p))
      (by simp [HeaderSet.inserted, given])

/-- A set of headers without coordinates opens a stream, and its token is bound to nothing. The tokens of
any other set are bound to one and the same request, and an accepted request never carries the first kind:
its token names its own method, host and path, and the port where that is not the scheme's own. -/
theorem bound_tokens :
    (∀ (r : HeadersRequest) (now : Times) (s s' : SignerState) (set : HeaderSet),
      r.headers now s = .ok set s' →
        (set.walletAuth.isSome ↔ requiresWalletProof r.coordinates.method r.coordinates.path) ∧
        ∃ t m, set.authorization = "Bearer " ++ t ∧ mark? t = some m ∧
          (m.uris = none ↔
            r.coordinates.method = "" ∧ r.coordinates.host = "" ∧ r.coordinates.path = "") ∧
          (∀ us, m.uris = some us → us.length = 1) ∧
          ∀ p, set.walletAuth = some p → ∃ w, mark? p = some w ∧ w.uris = m.uris) ∧
    (∀ (o : ClientOptions) (now : Times) (r r' : Request) (s s' : SignerState), r.method ≠ "" →
      r.authenticate o now s = .ok r' s' →
        ∃ t m host, r'.headers.values "authorization" = ["Bearer " ++ t] ∧ mark? t = some m ∧
          r.url.host? = some host ∧
          m.uris = some [⟨asciiUpper r.method ++ " " ++ host ++ Url.portText r.url.port? ++ r.url.path⟩]) ∧
    ∀ text u, Url.parse text = .ok u → ∀ p, u.port? = some p → Url.defaultPort u.scheme ≠ some p := by
  refine ⟨?_, ?_, fun text u read => Url.ensures_parse_port text u read⟩
  · intro r now s s' set made
    obtain ⟨t, m, authorization, mark, bound, proof⟩ := HeadersRequest.headers_marks made
    refine ⟨by rw [HeadersRequest.isSome_walletAuth made], t, m, authorization, mark, ?_, ?_, proof⟩
    · obtain ⟨method, -, -, uris⟩ | ⟨method, host, path, uris⟩ := bound
      · simp [uris, method]
      · simp [uris, method, host, path]
    · intro us given
      obtain ⟨-, -, -, uris⟩ | ⟨-, -, -, uris⟩ := bound
      · cases given.symm.trans uris
        rfl
      · cases given.symm.trans uris
  · intro o now r r' s s' method done
    obtain ⟨body, set, t', made, inserted, -⟩ := Request.authenticate_tokens done
    obtain ⟨t, m, authorization, mark, bound, -⟩ := HeadersRequest.headers_marks made
    rw [authorization] at inserted
    obtain ⟨-, host, -, uris⟩ | ⟨empty, -⟩ := bound
    · have given : r.url.hostAndPort ≠ "" := host
      rw [Ne, Url.hostAndPort_eq_empty, ← Ne, Option.ne_none_iff_exists'] at given
      obtain ⟨host, given⟩ := given
      have whole : r.url.hostAndPort = host ++ Url.portText r.url.port? := by
        rw [Url.hostAndPort, given]
      refine ⟨t, m, host, inserted, mark, given, ?_⟩
      rw [uris]
      simp only [RequestUri.ofCoordinates, Request.headersRequest, Request.coordinates, whole,
        String.append_assoc]
    · exact absurd (asciiUpper_eq_empty.mp empty) method

theorem bound_tokens_sample : (Request.sample "post" .none).method ≠ "" ∧
    ∃ r' s' t m p w, (Request.sample "post" .none).authenticate Request.sampleOptions 1700000000
        ⟨.constant .zero, []⟩ = .ok r' s' ∧
      r'.headers.values "authorization" = ["Bearer " ++ t] ∧ mark? t = some m ∧
      r'.headers.values "x-wallet-auth" = [p] ∧ mark? p = some w ∧ w.uris = m.uris ∧
      m.uris = some [⟨"POST api.cdp.coinbase.com/platform/v2/evm/accounts"⟩] := by
  have method : (Request.sample "post" .none).method ≠ "" := by decide
  have need := Request.sample_needsProof .none
  obtain ⟨r', s', done⟩ := Request.sample_done need rfl 1700000000
  obtain ⟨sets, requests, -⟩ := bound_tokens
  obtain ⟨body, set, s₁, made, authorization, walletAuth⟩ := Request.authenticate_tokens done
  obtain ⟨proof, t, m, bearer, mark, -, -, agree⟩ := sets _ _ _ _ _ made
  obtain ⟨p, given⟩ := Option.isSome_iff_exists.mp (proof.mpr need)
  obtain ⟨w, wallet, same⟩ := agree p given
  obtain ⟨t', m', host, authorization', mark', known, uris⟩ := requests _ _ _ _ _ _ method done
  have token : "Bearer " ++ t = "Bearer " ++ t' :=
    bearer ▸ List.head_eq_of_cons_eq (authorization.symm.trans authorization')
  obtain rfl : t = t' := by simpa using token
  cases mark.symm.trans mark'
  cases known
  refine ⟨method, r', s', t, m, p, w, done, authorization', mark, walletAuth p given, wallet, same, ?_⟩
  rw [uris]
  change some [RequestUri.mk (asciiUpper "post" ++ " " ++ _ ++ _ ++ _)] = _
  rw [Request.asciiUpper_post]
  rfl

end RequestAuth
