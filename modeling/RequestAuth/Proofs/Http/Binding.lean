import RequestAuth.Proofs.Http.Fields
import RequestAuth.Proofs.Json.Result
import RequestAuth.Proofs.Token.Content
import RequestAuth.Proofs.Url.Parsed

/-! Method, host, port, path and body of a request can be told from the payload of its wallet proof. -/

namespace RequestAuth

theorem Body.members_wellFormed {b : Body} {ms : Members} (h : b.members = .ok ms) :
    (Json.object ms).wellFormed := by
  cases b with
  | none =>
    cases h
    rfl
  | stream => cases h
  | octets b =>
    cases b with
    | nil =>
      cases h
      rfl
    | cons c b =>
      rw [members] at h
      · cases read : Json.Read.document Json.Read.object (c :: b) with
        | ok ns =>
          rw [read] at h
          cases h
          exact (Json.Read.document_gives (P := fun ms => Json.Read.Within _ (.object ms))
            (Json.Read.gives_object _ _) read).1
        | error f =>
          rw [read] at h
          cases h
      · simp

theorem requiresWalletProof_iff {method path : String} : requiresWalletProof method path ↔
    containsList accountsPart path.toList ∧ (method = "POST" ∨ method = "DELETE") := by
  simp [requiresWalletProof]

open Token Json.Read

theorem WalletRequest.token_payload {r : WalletRequest} {now : Int64} {s s' : SignerState} {t : String}
    (wf : (Json.object r.body).wellFormed) (int : (Json.object r.body).integral)
    (made : r.token now s = .ok t s') : ∃ m, payload? t = some m ∧
      m.find? "uris" = some (.list [.text
        (r.coordinates.method ++ " " ++ (r.coordinates.host ++ r.coordinates.path))]) ∧
      m.find? "req" = if r.body.isEmpty then none else some (.object r.body) := by
  obtain ⟨-, d, n, -, -, encoded, -⟩ := token_eq_ok.mp made
  have body : ∀ ms, (r.claims n now).body = some ms →
      Exact ((Json.object r.body).depth + 2) (.object ms) := by
    intro ms
    simp only [claims, WalletClaims.new]
    split
    · simp
    · intro h
      cases h
      exact ⟨wf, int, by omega⟩
  have parts : ∀ p ∈ written WalletClaims.shape (r.claims n now).write,
      Exact ((Json.object r.body).depth + 2) p.2 :=
    forall_written fun _ _ => exact_wallet (by omega) body
  rw [WalletClaims.toJson_written] at encoded
  refine ⟨_, payload?_encode (fun p hp => ⟨(parts p hp).1, (parts p hp).2.1⟩) encoded, ?_⟩
  rw [WalletClaims.ofList_written]
  by_cases empty : r.body.isEmpty
  · simp [claims, WalletClaims.new, empty, Members.find?, List.lookup_cons, RequestUri.toJson,
      RequestUri.ofCoordinates, String.append_assoc]
  · simp [claims, WalletClaims.new, empty, Members.find?, List.lookup_cons, RequestUri.toJson,
      RequestUri.ofCoordinates, String.append_assoc]

namespace Request
variable {r r' : Request} {o : ClientOptions} {now : Times} {s s' : SignerState}

/-- An accepted request that needs a proof has one, made for it and its body after its bearer token. -/
theorem authenticate_proof (need : r.needsProof) (done : r.authenticate o now s = .ok r' s') :
    ∃ ms secret token t proof u, r.body.members = .ok ms ∧ r'.headers.values "x-wallet-auth" = [proof] ∧
      (headersRequest o r (some ms)).bearer.token now.bearer s = .ok token t ∧
      WalletRequest.token ⟨secret, r.coordinates, ms⟩ now.wallet t = .ok proof u := by
  obtain ⟨body, set, fields, t, bound, made, valid, -, rfl⟩ := authenticate_eq_ok.mp done
  obtain ⟨-, bound⟩ := boundBody_eq_ok.mp bound
  rw [if_pos need] at bound
  obtain ⟨ms, read, rfl⟩ := bound
  obtain ⟨token, proof, t', bearer, wallet, rfl⟩ := HeadersRequest.headers_eq_ok.mp made
  have needed : requiresWalletProof (headersRequest o r (some ms)).coordinates.method
      (headersRequest o r (some ms)).coordinates.path := need
  have wallet := HeadersRequest.walletToken_eq_ok.mp wallet
  rw [if_pos needed] at wallet
  obtain ⟨w, proof, asked, proved, rfl⟩ := wallet
  obtain ⟨secret, -, -, rfl⟩ := HeadersRequest.wallet_eq_ok.mp asked
  have inserted : HeaderFields.values (insertFields r.headers fields) "x-wallet-auth" = [proof] := by
    rw [HeaderSet.fields_inserted valid, insertFields_distinct _ (HeaderSet.inserted_distinct _),
      HeaderFields.values_append, HeaderFields.values_without]
    rfl
  exact ⟨ms, secret, token, t', proof, t, read, inserted, bearer, proved⟩

theorem authenticate_payload (need : r.needsProof)
    (int : ∀ ms, r.body.members = .ok ms → (Json.object ms).integral)
    (done : r.authenticate o now s = .ok r' s') : ∃ t m ms,
      r'.headers.values "x-wallet-auth" = [t] ∧ payload? t = some m ∧ r.body.members = .ok ms ∧
      r.url.hostAndPort ≠ "" ∧ r.url.path ≠ "" ∧
      m.find? "uris" = some (.list [.text
        (asciiUpper r.method ++ " " ++ (r.url.hostAndPort ++ r.url.path))]) ∧
      m.find? "req" = if ms.isEmpty then none else some (.object ms) := by
  obtain ⟨ms, secret, token, t, proof, u, read, inserted, bearer, proved⟩ := authenticate_proof need done
  obtain ⟨m, payload, uris, req⟩ :=
    WalletRequest.token_payload (Body.members_wellFormed read) (int ms read) proved
  have given : r.url.hostAndPort ≠ "" ∧ r.url.path ≠ "" := by
    obtain ⟨-, -, uri, -, -, bound, -⟩ := BearerRequest.token_eq_ok.mp bearer
    cases BearerRequest.uri_eq_ok.mp bound with
    | inl h =>
      obtain ⟨-, host, path, -⟩ := h
      exact ⟨host, path⟩
    | inr h =>
      obtain ⟨-, -, path, -⟩ := h
      have accounts : containsList accountsPart r.url.path.toList := (requiresWalletProof_iff.mp need).1
      have empty : r.url.path = "" := path
      rw [empty] at accounts
      cases accounts
  exact ⟨proof, m, ms, inserted, payload, read, given.1, given.2, uris, req⟩

theorem blank_notMem_method (need : r.needsProof) : ' ' ∉ (asciiUpper r.method).toList := by
  have method : asciiUpper r.method = "POST" ∨ asciiUpper r.method = "DELETE" :=
    (requiresWalletProof_iff.mp need).2
  obtain e | e := method <;> rw [e] <;> decide

theorem toList_blank (s t : String) : (s ++ " " ++ t).toList = s.toList ++ ' ' :: t.toList := by
  simp [String.toList_append]

/-- No members and no body are bound in one way, and every other body in its own. -/
theorem boundMembers_inj {a b : Members}
    (h : (if a.isEmpty then none else some (Json.object a)) =
      if b.isEmpty then none else some (Json.object b)) : a = b := by
  cases a with
  | nil =>
    cases b with
    | nil => rfl
    | cons q b => simp at h
  | cons p a =>
    cases b with
    | nil => simp at h
    | cons q b => simpa using h

theorem coordinates_inj {r₁ r₂ : Request} (plain₁ : r₁.url.Plain) (plain₂ : r₂.url.Plain)
    (need₁ : r₁.needsProof) (need₂ : r₂.needsProof) (host₁ : r₁.url.hostAndPort ≠ "")
    (host₂ : r₂.url.hostAndPort ≠ "") (path₁ : r₁.url.path ≠ "") (path₂ : r₂.url.path ≠ "")
    (text : asciiUpper r₁.method ++ " " ++ (r₁.url.hostAndPort ++ r₁.url.path) =
      asciiUpper r₂.method ++ " " ++ (r₂.url.hostAndPort ++ r₂.url.path)) :
    asciiUpper r₁.method = asciiUpper r₂.method ∧ r₁.url.host? = r₂.url.host? ∧
      r₁.url.port? = r₂.url.port? ∧ r₁.url.path = r₂.url.path := by
  have chars := congrArg String.toList text
  rw [toList_blank, toList_blank] at chars
  obtain ⟨method, rest⟩ :=
    append_cons_inj (blank_notMem_method need₁) (blank_notMem_method need₂) chars
  exact ⟨String.toList_inj.mp method,
    Url.hostAndPath_inj plain₁ plain₂ host₁ host₂ path₁ path₂ (String.toList_inj.mp rest)⟩

theorem payload_unique {hs : HeaderFields} {t u : String} {m n : Members}
    (ht : hs.values "x-wallet-auth" = [t]) (hu : hs.values "x-wallet-auth" = [u])
    (hm : payload? t = some m) (hn : payload? u = some n) : m = n := by
  have same : t = u := List.head_eq_of_cons_eq (ht.symm.trans hu)
  rw [same, hn] at hm
  exact (Option.some.inj hm).symm

section two
variable {o₁ o₂ : ClientOptions} {now₁ now₂ : Times} {r₁ r₂ r₁' r₂' : Request} {s₁ s₂ s₁' s₂' : SignerState}

theorem proofs_agree (plain₁ : r₁.url.Plain) (plain₂ : r₂.url.Plain)
    (need₁ : r₁.needsProof) (need₂ : r₂.needsProof)
    (int₁ : ∀ ms, r₁.body.members = .ok ms → (Json.object ms).integral)
    (int₂ : ∀ ms, r₂.body.members = .ok ms → (Json.object ms).integral)
    (done₁ : r₁.authenticate o₁ now₁ s₁ = .ok r₁' s₁')
    (done₂ : r₂.authenticate o₂ now₂ s₂ = .ok r₂' s₂') {t₁ t₂ : String} {m₁ m₂ : Members}
    (v₁ : r₁'.headers.values "x-wallet-auth" = [t₁]) (v₂ : r₂'.headers.values "x-wallet-auth" = [t₂])
    (p₁ : payload? t₁ = some m₁) (p₂ : payload? t₂ = some m₂)
    (uris : m₁.find? "uris" = m₂.find? "uris") (req : m₁.find? "req" = m₂.find? "req") :
    (asciiUpper r₁.method = asciiUpper r₂.method ∧ r₁.url.host? = r₂.url.host? ∧
      r₁.url.port? = r₂.url.port? ∧ r₁.url.path = r₂.url.path) ∧
      ∃ ms, r₁.body.members = .ok ms ∧ r₂.body.members = .ok ms := by
  obtain ⟨u₁, n₁, b₁, w₁, q₁, read₁, host₁, path₁, uris₁, req₁⟩ :=
    authenticate_payload need₁ int₁ done₁
  obtain ⟨u₂, n₂, b₂, w₂, q₂, read₂, host₂, path₂, uris₂, req₂⟩ :=
    authenticate_payload need₂ int₂ done₂
  cases payload_unique v₁ w₁ p₁ q₁
  cases payload_unique v₂ w₂ p₂ q₂
  have body : b₁ = b₂ := by
    rw [req₁, req₂] at req
    exact boundMembers_inj req
  rw [uris₁, uris₂] at uris
  exact ⟨coordinates_inj plain₁ plain₂ need₁ need₂ host₁ host₂ path₁ path₂ (by simpa using uris),
    b₁, read₁, body ▸ read₂⟩

/-- Two requests whose proofs agree on what they are bound to are one request with one body. The two
may be made by different clients at different times. Every URL that is read from a text is plain. -/
theorem authenticate_binds (plain₁ : r₁.url.Plain) (plain₂ : r₂.url.Plain)
    (need₁ : r₁.needsProof) (need₂ : r₂.needsProof)
    (int₁ : ∀ ms, r₁.body.members = .ok ms → (Json.object ms).integral)
    (int₂ : ∀ ms, r₂.body.members = .ok ms → (Json.object ms).integral)
    (done₁ : r₁.authenticate o₁ now₁ s₁ = .ok r₁' s₁')
    (done₂ : r₂.authenticate o₂ now₂ s₂ = .ok r₂' s₂') :
    ∃ t₁ t₂ m₁ m₂,
      r₁'.headers.values "x-wallet-auth" = [t₁] ∧ r₂'.headers.values "x-wallet-auth" = [t₂] ∧
      payload? t₁ = some m₁ ∧ payload? t₂ = some m₂ ∧
      (m₁.find? "uris" = m₂.find? "uris" → m₁.find? "req" = m₂.find? "req" →
        asciiUpper r₁.method = asciiUpper r₂.method ∧ r₁.url.host? = r₂.url.host? ∧
        r₁.url.port? = r₂.url.port? ∧ r₁.url.path = r₂.url.path ∧
        ∃ ms, r₁.body.members = .ok ms ∧ r₂.body.members = .ok ms) := by
  obtain ⟨t₁, m₁, -, v₁, p₁, -⟩ := authenticate_payload need₁ int₁ done₁
  obtain ⟨t₂, m₂, -, v₂, p₂, -⟩ := authenticate_payload need₂ int₂ done₂
  refine ⟨t₁, t₂, m₁, m₂, v₁, v₂, p₁, p₂, ?_⟩
  intro uris req
  obtain ⟨⟨method, host, port, path⟩, body⟩ :=
    proofs_agree plain₁ plain₂ need₁ need₂ int₁ int₂ done₁ done₂ v₁ v₂ p₁ p₂ uris req
  exact ⟨method, host, port, path, body⟩

/-- The URLs of clients are read from texts, so that nothing has to be known of them. -/
theorem proofs_agree_read {text₁ text₂ : String} (url₁ : Url.parse text₁ = .ok r₁.url)
    (url₂ : Url.parse text₂ = .ok r₂.url) (need₁ : r₁.needsProof) (need₂ : r₂.needsProof)
    (int₁ : ∀ ms, r₁.body.members = .ok ms → (Json.object ms).integral)
    (int₂ : ∀ ms, r₂.body.members = .ok ms → (Json.object ms).integral)
    (done₁ : r₁.authenticate o₁ now₁ s₁ = .ok r₁' s₁')
    (done₂ : r₂.authenticate o₂ now₂ s₂ = .ok r₂' s₂') {t₁ t₂ : String} {m₁ m₂ : Members}
    (v₁ : r₁'.headers.values "x-wallet-auth" = [t₁]) (v₂ : r₂'.headers.values "x-wallet-auth" = [t₂])
    (p₁ : payload? t₁ = some m₁) (p₂ : payload? t₂ = some m₂)
    (uris : m₁.find? "uris" = m₂.find? "uris") (req : m₁.find? "req" = m₂.find? "req") :
    (asciiUpper r₁.method = asciiUpper r₂.method ∧ r₁.url.host? = r₂.url.host? ∧
      r₁.url.port? = r₂.url.port? ∧ r₁.url.path = r₂.url.path) ∧
      ∃ ms, r₁.body.members = .ok ms ∧ r₂.body.members = .ok ms :=
  proofs_agree (Url.ensures_parse _ _ url₁) (Url.ensures_parse _ _ url₂) need₁ need₂ int₁ int₂ done₁ done₂
    v₁ v₂ p₁ p₂ uris req

end two

def sample (method : String) (body : Body) : Request where
  method := method
  url := ⟨"https", some ⟨"", "api.cdp.coinbase.com", none⟩, "/platform/v2/evm/accounts", none, none⟩
  headers := [("x-wallet-auth", "old")]
  body := body

def sampleOptions : ClientOptions :=
  { ClientOptions.new BearerRequest.sample.keyId BearerRequest.sample.keySecret with
    walletSecret := some WalletRequest.sample.secret }

theorem sample_plain (method : String) (body : Body) : (sample method body).url.Plain where
  host := by
    intro h e
    cases e
    constructor
    · decide
    · intro a b split
      have colon : ':' ∈ "api.cdp.coinbase.com".toList := by
        rw [split]
        simp
      exact absurd colon (by decide)
  path := by
    intro h _ _
    have text : "/platform/v2/evm/accounts".toList = '/' :: "platform/v2/evm/accounts".toList := by
      decide
    exact ⟨_, text⟩

theorem asciiUpper_post : asciiUpper "post" = "POST" := asciiUpper_eq rfl

theorem sample_needsProof (body : Body) : (sample "post" body).needsProof := by
  have accounts : containsList accountsPart (sample "" .none).url.path.toList := by decide
  exact requiresWalletProof_iff.mpr ⟨accounts, Or.inl asciiUpper_post⟩

theorem sample_done {method : String} {body : Body} {ms : Members}
    (need : (sample method body).needsProof) (read : body.members = .ok ms) (now : Times) :
    ∃ r' s', (sample method body).authenticate sampleOptions now ⟨.constant .zero, []⟩ = .ok r' s' := by
  have upper : asciiUpper method = "POST" ∨ asciiUpper method = "DELETE" :=
    (requiresWalletProof_iff.mp need).2
  have given : asciiUpper method ≠ "" := by
    obtain e | e := upper <;> rw [e] <;> decide
  have host : (sample "" .none).url.hostAndPort ≠ "" := by decide
  have path : (sample "" .none).url.path ≠ "" := by decide
  have keyId : BearerRequest.sample.keyId ≠ "" := by decide
  have keySecret : BearerRequest.sample.keySecret ≠ "" := by decide
  have walletSecret : WalletRequest.sample.secret ≠ "" := by decide
  let h := headersRequest sampleOptions (sample method body) (some ms)
  obtain ⟨token, t, constant, bearer⟩ : ∃ token t, t.nonces = .constant .zero ∧
      h.bearer.token now.bearer ⟨.constant .zero, []⟩ = .ok token t :=
    ⟨_, ⟨.constant .zero, _⟩, rfl, BearerRequest.token_eq_ok.mpr ⟨keyId, keySecret, _, .zero, _,
      BearerRequest.uri_eq_ok.mpr (Or.inl ⟨given, host, path, rfl⟩), rfl,
      BearerRequest.sample_key, encode_eq_ok.mpr ⟨rfl, rfl⟩, rfl⟩⟩
  obtain ⟨proof, t', wallet⟩ : ∃ proof t', WalletRequest.token
      ⟨WalletRequest.sample.secret, h.coordinates, ms⟩ now.wallet t = .ok proof t' :=
    ⟨_, ⟨.constant .zero, _⟩, WalletRequest.token_eq_ok.mpr ⟨walletSecret, _, .zero,
      WalletRequest.sample_key, by rw [constant]; rfl, encode_eq_ok.mpr ⟨rfl, rfl⟩, rfl⟩⟩
  have bound : (sample method body).boundBody ⟨.constant .zero, []⟩ =
      .ok (some ms) ⟨.constant .zero, []⟩ := boundBody_read need read
  have proved : h.walletToken now t = .ok (some proof) t' := by
    have needed : requiresWalletProof h.coordinates.method h.coordinates.path := need
    rw [HeadersRequest.walletToken_eq_ok, if_pos needed]
    exact ⟨_, proof, HeadersRequest.wallet_eq_ok.mpr ⟨_, rfl, walletSecret, rfl⟩, wallet, rfl⟩
  have valid : ∀ p ∈ (h.headerSet token (some proof)).pairs, HeaderSet.isValue p.2 := by
    have bearerMark : HeaderSet.isValue "Bearer " := by decide
    have jsonType : HeaderSet.isValue HeaderSet.jsonType := by decide
    have context : HeaderSet.isValue (correlationContext none none) := by decide
    intro p hp
    simp only [HeaderSet.pairs, HeadersRequest.headerSet, Option.map_some, Option.toList_some,
      List.cons_append, List.nil_append, List.mem_cons, List.not_mem_nil, or_false] at hp
    obtain rfl | rfl | rfl | rfl := hp
    · simp [HeaderSet.isValue_append, bearerMark, HeaderSet.isValue_bearer bearer]
    · exact jsonType
    · exact HeaderSet.isValue_wallet wallet
    · exact context
  exact ⟨_, _, authenticate_eq_ok.mpr ⟨some ms, _, _, t', bound,
    HeadersRequest.headers_eq_ok.mpr ⟨token, some proof, t, bearer, proved, rfl⟩,
    HeaderSet.fields_eq_ok.mpr ⟨valid, rfl⟩, rfl, rfl⟩⟩

/-- A method in small letters without a body and one in capitals with an empty object. -/
theorem authenticate_binds_sample : ∃ r₁ s₁ r₂ s₂,
    (sample "post" .none).authenticate sampleOptions 1700000000 ⟨.constant .zero, []⟩ = .ok r₁ s₁ ∧
    (sample "POST" (.octets [123, 125])).authenticate sampleOptions 1800000000 ⟨.constant .zero, []⟩ =
      .ok r₂ s₂ ∧
    ∃ t₁ t₂ m₁ m₂,
      r₁.headers.values "x-wallet-auth" = [t₁] ∧ r₂.headers.values "x-wallet-auth" = [t₂] ∧
      payload? t₁ = some m₁ ∧ payload? t₂ = some m₂ ∧
      m₁.find? "uris" = m₂.find? "uris" ∧ m₁.find? "req" = m₂.find? "req" ∧
      asciiUpper "post" = asciiUpper "POST" ∧
      ∃ ms, Body.none.members = .ok ms ∧ (Body.octets [123, 125]).members = .ok ms := by
  have small := asciiUpper_post
  have capital : asciiUpper "POST" = "POST" := by
    rw [asciiUpper, ← String.toList_inj, String.toList_map]
    decide
  have accounts : containsList accountsPart (sample "" .none).url.path.toList := by decide
  have need₁ := sample_needsProof .none
  have need₂ : (sample "POST" (.octets [123, 125])).needsProof :=
    requiresWalletProof_iff.mpr ⟨accounts, Or.inl capital⟩
  have read₁ : (sample "post" .none).body.members = .ok [] := rfl
  have read₂ : (sample "POST" (.octets [123, 125])).body.members = .ok [] := rfl
  have int₁ : ∀ ms, (sample "post" .none).body.members = .ok ms → (Json.object ms).integral := by
    intro ms e
    cases read₁.symm.trans e
    rfl
  have int₂ : ∀ ms, (sample "POST" (.octets [123, 125])).body.members = .ok ms →
      (Json.object ms).integral := by
    intro ms e
    cases read₂.symm.trans e
    rfl
  obtain ⟨r₁, s₁, done₁⟩ := sample_done need₁ read₁ 1700000000
  obtain ⟨r₂, s₂, done₂⟩ := sample_done need₂ read₂ 1800000000
  obtain ⟨t₁, t₂, m₁, m₂, v₁, v₂, p₁, p₂, binds⟩ := authenticate_binds (sample_plain _ _)
    (sample_plain _ _) need₁ need₂ int₁ int₂ done₁ done₂
  obtain ⟨u₁, n₁, b₁, w₁, q₁, has₁, -, -, uris₁, req₁⟩ := authenticate_payload need₁ int₁ done₁
  obtain ⟨u₂, n₂, b₂, w₂, q₂, has₂, -, -, uris₂, req₂⟩ := authenticate_payload need₂ int₂ done₂
  cases payload_unique v₁ w₁ p₁ q₁
  cases payload_unique v₂ w₂ p₂ q₂
  cases read₁.symm.trans has₁
  cases read₂.symm.trans has₂
  have upper : asciiUpper (sample "post" .none).method =
      asciiUpper (sample "POST" (.octets [123, 125])).method := small.trans capital.symm
  have uris : m₁.find? "uris" = m₂.find? "uris" := by
    rw [uris₁, uris₂, upper]
    rfl
  have req : m₁.find? "req" = m₂.find? "req" := req₁.trans req₂.symm
  obtain ⟨method, -, -, -, body⟩ := binds uris req
  exact ⟨r₁, s₁, r₂, s₂, done₁, done₂, t₁, t₂, m₁, m₂, v₁, v₂, p₁, p₂, uris, req, method, body⟩

end Request
end RequestAuth
