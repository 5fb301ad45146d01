import RequestAuth.Proofs.Http.Binding

/-! A request that is authenticated again and again: whatever succeeds and fails in between, it keeps its
own fields and has those of the last success. -/

namespace RequestAuth

theorem containsList_iff {part text : List Char} : containsList part text ↔ part <:+: text := by
  induction text with
  | nil => simp [containsList]
  | cons c r ih =>
    rw [containsList, Bool.or_eq_true, List.isPrefixOf_iff_prefix, ih, List.infix_cons_iff]

theorem Request.needsProof_iff {r : Request} : r.needsProof ↔
    (asciiUpper r.method = "POST" ∨ asciiUpper r.method = "DELETE") ∧
      "/accounts".toList <:+: r.url.path.toList := by
  have part : "/accounts".toList = accountsPart := by decide
  change requiresWalletProof (asciiUpper r.method) r.url.path ↔ _
  rw [requiresWalletProof, Bool.and_eq_true, containsList_iff, part, and_comm]
  simp

def HeaderSet.names (proof : Bool) : List String :=
  ["authorization", "content-type"] ++ (if proof then ["x-wallet-auth"] else []) ++
    ["correlation-context"]

theorem HeaderSet.names_inserted (set : HeaderSet) :
    set.inserted.map Prod.fst = names set.walletAuth.isSome := by
  cases w : set.walletAuth <;> simp [inserted, names, w]

theorem HeadersRequest.isSome_walletAuth {r : HeadersRequest} {now : Times} {s s' : SignerState}
    {set : HeaderSet} (h : r.headers now s = .ok set s') :
    set.walletAuth.isSome = requiresWalletProof r.coordinates.method r.coordinates.path := by
  obtain ⟨token, proof, t, -, wallet, rfl⟩ := headers_eq_ok.mp h
  have wallet := walletToken_eq_ok.mp wallet
  by_cases needed : requiresWalletProof r.coordinates.method r.coordinates.path
  · rw [if_pos needed] at wallet
    obtain ⟨w, p, -, -, rfl⟩ := wallet
    exact needed.symm
  · rw [if_neg needed] at wallet
    obtain ⟨rfl, -⟩ := wallet
    simpa [headerSet] using needed

/-- What a call is made with, and the body that the request has by then. -/
structure Call where
  options : ClientOptions
  now : Times
  signer : SignerState
  body : Body

namespace Call
variable {c : Call} {r : Request}

/-- The fields that the call inserts, if it succeeds, and the request that it leaves behind. -/
def run (c : Call) (r : Request) : Option HeaderFields × Request :=
  match Request.edit c.options c.now ⟨{ r with body := c.body }, c.signer⟩ with
  | .ok fields q => (some fields, q.request)
  | .error _ q => (none, q.request)

theorem run_of_edit {fields : HeaderFields} {q : Request.Open}
    (edited : Request.edit c.options c.now ⟨{ r with body := c.body }, c.signer⟩ = .ok fields q) :
    c.run r = (some fields, q.request) := by
  rw [run, edited]

def Produces (c : Call) (r : Request) (fields : HeaderFields) : Prop := ∃ body set t,
  Request.boundBody { r with body := c.body } c.signer = .ok body c.signer ∧
  (Request.headersRequest c.options r body).headers c.now c.signer = .ok set t ∧
  set.fields = .ok fields

theorem run_cases (c : Call) (r : Request) :
    c.run r = (none, { r with body := c.body }) ∨
    ∃ fields, c.Produces r fields ∧ c.run r =
      (some fields, { r with
        body := c.body
        headers := Request.insertFields r.headers fields }) := by
  unfold run
  cases e : Request.edit c.options c.now ⟨{ r with body := c.body }, c.signer⟩ with
  | ok fields q =>
    obtain ⟨body, set, t, bound, made, valid, -, request⟩ := Request.edit_eq_ok.mp e
    refine Or.inr ⟨fields, ⟨body, set, t, bound, made, valid⟩, ?_⟩
    dsimp only
    rw [request]
  | error f q =>
    have same := (Request.edit_error e).1
    refine Or.inl ?_
    dsimp only
    rw [same]

theorem Produces.names {fields : HeaderFields} (h : c.Produces r fields) :
    fields.map Prod.fst = HeaderSet.names r.needsProof ∧ (fields.map Prod.fst).Nodup := by
  obtain ⟨body, set, t, -, made, valid⟩ := h
  have proof := HeadersRequest.isSome_walletAuth made
  rw [HeaderSet.fields_inserted valid, HeaderSet.names_inserted, proof]
  have distinct := HeaderSet.inserted_distinct set
  rw [HeaderSet.names_inserted, proof] at distinct
  exact ⟨rfl, distinct⟩

end Call

/-- The calls that succeed with the fields of each, and the request in the end. -/
def session : List Call → Request → List (Call × HeaderFields) × Request
  | [], r => ([], r)
  | c :: cs, r =>
    let (fields, after) := c.run r
    let (later, last) := session cs after
    ((fields.map fun f => (c, f)).toList ++ later, last)

/-- What headers are left of those of a request when the given call was the last to succeed. -/
def Leaves (r : Request) (last : Option (Call × HeaderFields)) (headers : HeaderFields) : Prop :=
  match last with
  | none => headers = r.headers
  | some (c, fields) => c.Produces r fields ∧
      headers = r.headers.without (HeaderSet.names r.needsProof) ++ fields

theorem without_replaced (hs : HeaderFields) {names : List String} {fields : HeaderFields}
    (h : fields.map Prod.fst = names) : (hs.without names ++ fields).without names = hs.without names := by
  have none : fields.filter (fun p => !names.contains p.1) = [] := by
    rw [List.filter_eq_nil_iff]
    intro p hp
    have name : p.1 ∈ names := h ▸ List.mem_map.mpr ⟨p, hp, rfl⟩
    simp [name]
  have again : (hs.without names).filter (fun p => !names.contains p.1) = hs.without names := by
    rw [HeaderFields.without, List.filter_filter]
    simp
  rw [HeaderFields.without, List.filter_append, none, again, List.append_nil]

/-- Later calls replace what earlier ones inserted. -/
theorem Leaves.after {c : Call} {r : Request} {fields : HeaderFields} (made : c.Produces r fields)
    {last : Option (Call × HeaderFields)} {headers : HeaderFields}
    (h : Leaves { r with body := c.body, headers := Request.insertFields r.headers fields } last headers) :
    Leaves r (some (last.getD (c, fields))) headers := by
  obtain ⟨names, distinct⟩ := made.names
  have inserted := Request.insertFields_distinct r.headers distinct
  rw [names] at inserted
  cases last with
  | none =>
    change headers = Request.insertFields r.headers fields at h
    exact ⟨made, h.trans inserted⟩
  | some p =>
    obtain ⟨d, later⟩ := p
    obtain ⟨produced, e⟩ := h
    refine ⟨produced, e.trans ?_⟩
    change (Request.insertFields r.headers fields).without (HeaderSet.names r.needsProof) ++ later = _
    rw [inserted, without_replaced _ names]

theorem session_frame (cs : List Call) (r : Request) :
    (session cs r).2.method = r.method ∧ (session cs r).2.url = r.url ∧
    (session cs r).2.body = (cs.map Call.body).getLastD r.body := by
  induction cs generalizing r with
  | nil => exact ⟨rfl, rfl, rfl⟩
  | cons c cs ih =>
    have rest := ih (c.run r).2
    rw [List.map_cons, List.getLastD_cons]
    cases c.run_cases r with
    | inl e =>
      rw [e] at rest
      simpa [session, e] using rest
    | inr h =>
      obtain ⟨fields, -, e⟩ := h
      rw [e] at rest
      simpa [session, e] using rest

theorem session_leaves (cs : List Call) (r : Request) :
    Leaves r (session cs r).1.getLast? (session cs r).2.headers := by
  induction cs generalizing r with
  | nil => rfl
  | cons c cs ih =>
    have rest := ih (c.run r).2
    cases c.run_cases r with
    | inl e =>
      rw [e] at rest
      have kept : session (c :: cs) r = session cs { r with body := c.body } := by
        simp [session, e]
      rw [kept]
      exact rest
    | inr h =>
      obtain ⟨fields, made, e⟩ := h
      rw [e] at rest
      have added : (session (c :: cs) r).1.getLast? = some ((session cs { r with
          body := c.body
          headers := Request.insertFields r.headers fields }).1.getLast?.getD (c, fields)) := by
        simp [session, e, List.getLast?_cons]
      have final : (session (c :: cs) r).2 = (session cs { r with
          body := c.body
          headers := Request.insertFields r.headers fields }).2 := by
        simp [session, e]
      rw [added, final]
      exact rest.after made

/-- Whatever succeeds and fails, the request has its own fields with those of the last success in place
of all that had their names, and nothing else about it changes but what the caller changes. -/
theorem session_request (cs : List Call) (r : Request) :
    (session cs r).2.method = r.method ∧ (session cs r).2.url = r.url ∧
    (session cs r).2.body = (cs.map Call.body).getLastD r.body ∧
    match (session cs r).1.getLast? with
    | none => (session cs r).2.headers = r.headers
    | some (c, fields) =>
      c.Produces r fields ∧
      fields.map Prod.fst = ["authorization", "content-type"] ++
        (if r.needsProof then ["x-wallet-auth"] else []) ++ ["correlation-context"] ∧
      (r.needsProof ↔ (asciiUpper r.method = "POST" ∨ asciiUpper r.method = "DELETE") ∧
        "/accounts".toList <:+: r.url.path.toList) ∧
      (session cs r).2.headers = r.headers.without (fields.map Prod.fst) ++ fields ∧
      (∀ p ∈ fields, (session cs r).2.headers.values p.1 = [p.2]) ∧
      ∀ name, name ∉ fields.map Prod.fst →
        (session cs r).2.headers.values name = r.headers.values name := by
  obtain ⟨method, url, body⟩ := session_frame cs r
  refine ⟨method, url, body, ?_⟩
  have leaves := session_leaves cs r
  cases last : (session cs r).1.getLast? with
  | none =>
    rw [last] at leaves
    exact leaves
  | some p =>
    obtain ⟨c, fields⟩ := p
    rw [last] at leaves
    obtain ⟨made, headers⟩ := leaves
    obtain ⟨names, distinct⟩ := made.names
    rw [← names] at headers
    refine ⟨made, names, Request.needsProof_iff, headers, ?_, ?_⟩
    · intro p hp
      have name : p.1 ∈ fields.map Prod.fst := List.mem_map.mpr ⟨p, hp, rfl⟩
      rw [headers, HeaderFields.values_append, HeaderFields.values_without, if_pos name,
        HeaderFields.values_of_mem distinct hp, List.nil_append]
    · intro name other
      rw [headers, HeaderFields.values_append, HeaderFields.values_without, if_neg other,
        HeaderFields.values_of_notMem other, List.append_nil]

namespace Call

def sample (body : Body) : Call := ⟨Request.sampleOptions, 1700000000, ⟨.constant .zero, []⟩, body⟩

theorem sample_refused {r : Request} (need : r.needsProof) (headers : HeaderFields) :
    (sample .stream).run { r with headers := headers } = (none, { r with headers := headers, body := .stream }) := by
  cases run_cases (sample .stream) { r with headers := headers } with
  | inl refused => exact refused
  | inr h =>
    obtain ⟨_, ⟨body, set, t, bound, -⟩, -⟩ := h
    have unread := Request.boundBody_unread (s := (sample .stream).signer)
      (r := { r with headers := headers, body := .stream }) need rfl
    cases unread.symm.trans bound

theorem sample_run {r : Request} (empty : r.body = .none) {r' : Request} {s' : SignerState}
    (done : r.authenticate Request.sampleOptions 1700000000 ⟨.constant .zero, []⟩ = .ok r' s') :
    ∃ fields, (sample .none).run { r with body := .stream } =
      (some fields, { r with headers := Request.insertFields r.headers fields }) := by
  obtain ⟨fields, edited⟩ := Request.authenticate_edited.mp done
  obtain ⟨-, -, -, -, -, -, -, changed⟩ := Request.edit_eq_ok.mp edited
  obtain ⟨method, url, headers, body⟩ := r
  obtain rfl : body = .none := empty
  have ran := run_of_edit (c := sample .none) (r := ⟨method, url, headers, .stream⟩) edited
  exact ⟨fields, ran.trans (congrArg (fun q => (some fields, q)) changed)⟩

theorem session_sample {r : Request} (need : r.needsProof) (empty : r.body = .none) {r' : Request}
    {s' : SignerState}
    (done : r.authenticate Request.sampleOptions 1700000000 ⟨.constant .zero, []⟩ = .ok r' s') :
    ∃ fields, session [sample .stream, sample .none, sample .stream] r = ([(sample .none, fields)],
      { r with body := .stream, headers := Request.insertFields r.headers fields }) := by
  obtain ⟨fields, run⟩ := sample_run empty done
  have first := sample_refused need r.headers
  have last := sample_refused need (Request.insertFields r.headers fields)
  refine ⟨fields, ?_⟩
  simp only [session, first, run, last]
  rfl

end Call

/-- The success replaces the old proof, and the second refusal leaves it. -/
theorem session_request_sample : ∃ fields proof last,
    session [.sample .stream, .sample .none, .sample .stream] (Request.sample "post" .none) =
      ([(.sample .none, fields)], last) ∧
    last.body = .stream ∧
    fields.map Prod.fst = ["authorization", "content-type", "x-wallet-auth", "correlation-context"] ∧
    ("x-wallet-auth", proof) ∈ fields ∧ last.headers.values "x-wallet-auth" = [proof] := by
  have need := Request.sample_needsProof .none
  obtain ⟨r', s', done⟩ := Request.sample_done need rfl 1700000000
  obtain ⟨fields, whole⟩ := Call.session_sample need rfl done
  obtain ⟨-, -, body, rest⟩ :=
    session_request [.sample .stream, .sample .none, .sample .stream] (Request.sample "post" .none)
  rw [whole] at body rest
  obtain ⟨-, names, -, -, values, -⟩ := rest
  rw [if_pos need] at names
  have named : "x-wallet-auth" ∈ fields.map Prod.fst := by
    rw [names]
    decide
  obtain ⟨⟨name, proof⟩, given, rfl⟩ := List.mem_map.mp named
  exact ⟨fields, proof, _, whole, body, names, given, values _ given⟩

end RequestAuth
