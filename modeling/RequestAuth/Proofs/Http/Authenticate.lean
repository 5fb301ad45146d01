import RequestAuth.Http.Request
import RequestAuth.Proofs.Token.Signing

/-! When a request is authenticated, and with which headers. -/

namespace RequestAuth
open Signing
variable {s s' : SignerState} {now : Times}

namespace HeadersRequest
variable {r : HeadersRequest}

def headerSet (r : HeadersRequest) (token : String) (proof : Option String) : HeaderSet where
  authorization := "Bearer " ++ token
  contentType := HeaderSet.jsonType
  walletAuth := proof
  correlationContext := correlationContext r.source r.sourceVersion

theorem wallet_eq_ok {w : WalletRequest} : r.wallet = .ok w ↔
    ∃ secret, r.walletSecret = some secret ∧ secret ≠ "" ∧ w = ⟨secret, r.coordinates, r.body.getD []⟩ := by
  unfold wallet
  cases r.walletSecret with
  | none => simp
  | some secret =>
    by_cases empty : secret = ""
    · simp [empty]
    · simp [empty, eq_comm]

theorem walletToken_eq_ok {proof : Option String} : r.walletToken now s = .ok proof s' ↔
    if requiresWalletProof r.coordinates.method r.coordinates.path then
      ∃ w t, r.wallet = .ok w ∧ w.token now.wallet s = .ok t s' ∧ proof = some t
    else proof = none ∧ s' = s := by
  unfold walletToken
  split
  · simp only [bind_eq_ok, lift_eq_ok, pure_eq_ok]
    constructor
    · intro h
      obtain ⟨w, _, ⟨given, rfl⟩, t, _, made, rfl, rfl⟩ := h
      exact ⟨w, t, given, made, rfl⟩
    · intro h
      obtain ⟨w, t, given, made, rfl⟩ := h
      exact ⟨w, s, ⟨given, rfl⟩, t, s', made, rfl, rfl⟩
  · rw [pure_eq_ok]
    constructor
    · intro h
      exact ⟨h.1.symm, h.2.symm⟩
    · intro h
      exact ⟨h.1.symm, h.2.symm⟩

theorem headers_eq_ok {set : HeaderSet} : r.headers now s = .ok set s' ↔
    ∃ token proof t, r.bearer.token now.bearer s = .ok token t ∧ r.walletToken now t = .ok proof s' ∧
      set = r.headerSet token proof := by
  simp only [headers, bind_eq_ok, pure_eq_ok]
  constructor
  · intro h
    obtain ⟨token, t, made, proof, _, proved, rfl, rfl⟩ := h
    exact ⟨token, proof, t, made, proved, rfl⟩
  · intro h
    obtain ⟨token, proof, t, made, proved, rfl⟩ := h
    exact ⟨token, t, made, proof, s', proved, rfl, rfl⟩

/-- The wallet secret and the body only count where there is a proof. -/
theorem headers_free (free : ¬ requiresWalletProof r.coordinates.method r.coordinates.path)
    (secret : Option String) (body : Option Members) :
    { r with walletSecret := secret, body := body }.headers now = r.headers now := by
  have here : r.walletToken now = pure none := if_neg free
  have there : { r with walletSecret := secret, body := body }.walletToken now = pure none := if_neg free
  rw [headers, headers, here, there]
  rfl

end HeadersRequest

theorem StreamRequest.headers_eq_ok {r : StreamRequest} {now : Int64} {set : HeaderSet} :
    r.headers now s = .ok set s' ↔ ∃ token, r.bearer.token now s = .ok token s' ∧
      set = ⟨"Bearer " ++ token, HeaderSet.jsonType, none, correlationContext r.source r.sourceVersion⟩ := by
  simp only [headers, bind_eq_ok, pure_eq_ok]
  constructor
  · intro h
    obtain ⟨token, t, made, rfl, rfl⟩ := h
    exact ⟨token, made, rfl⟩
  · intro h
    obtain ⟨token, made, rfl⟩ := h
    exact ⟨token, s', made, rfl, rfl⟩

namespace Request
variable {r r' : Request} {o : ClientOptions}

theorem boundBody_eq_ok {body : Option Members} : r.boundBody s = .ok body s' ↔ s' = s ∧
    if r.needsProof then ∃ ms, r.body.members = .ok ms ∧ body = some ms else body = none := by
  unfold boundBody
  split
  · cases r.body.members with
    | ok ms =>
      simp only [pure_eq_ok]
      constructor
      · intro h
        obtain ⟨rfl, rfl⟩ := h
        exact ⟨rfl, ms, rfl, rfl⟩
      · intro h
        obtain ⟨rfl, _, ⟨⟩, rfl⟩ := h
        exact ⟨rfl, rfl⟩
    | error f => simp [bind_eq_ok, throw_ne_ok]
  · rw [pure_eq_ok]
    constructor
    · intro h
      exact ⟨h.2.symm, h.1.symm⟩
    · intro h
      exact ⟨h.2.symm, h.1.symm⟩

theorem boundBody_free (free : ¬ r.needsProof) : r.boundBody s = .ok none s :=
  boundBody_eq_ok.mpr ⟨rfl, by rw [if_neg free]⟩

theorem boundBody_read {ms : Members} (need : r.needsProof) (read : r.body.members = .ok ms) :
    r.boundBody s = .ok (some ms) s := by
  rw [boundBody_eq_ok, if_pos need]
  exact ⟨rfl, ms, read, rfl⟩

theorem headers_boundBody {body : Option Members} {ms : Members} (bound : r.boundBody s = .ok body s')
    (read : r.body.members = .ok ms) :
    (headersRequest o r body).headers now = (headersRequest o r (some ms)).headers now := by
  obtain ⟨-, bound⟩ := boundBody_eq_ok.mp bound
  by_cases need : r.needsProof
  · rw [if_pos need] at bound
    obtain ⟨_, given, rfl⟩ := bound
    cases read.symm.trans given
    rfl
  · exact HeadersRequest.headers_free (r := headersRequest o r (some ms)) need o.walletSecret body

theorem boundBody_unread {f : BodyFault} (need : r.needsProof) (unread : r.body.members = .error f) :
    r.boundBody s = .error (.body f)
      { s with events := s.events ++ [.bodyRefused r.coordinates.method r.coordinates.path f] } := by
  rw [boundBody, if_pos need, unread]
  rfl

theorem boundBody_error {e : AuthError} (h : r.boundBody s = .error e s') :
    s'.nonces = s.nonces ∧ ∃ f, r.body.members = .error f ∧ e = .body f := by
  unfold boundBody at h
  split at h
  · cases read : r.body.members with
    | ok ms =>
      rw [read] at h
      exact absurd h pure_ne_error
    | error f =>
      rw [read] at h
      cases h
      exact ⟨rfl, f, rfl, rfl⟩
  · exact absurd h pure_ne_error

namespace Editing
variable {α : Type} {q q' : Open}

theorem sign_eq_ok {x : Signing α} {a : α} :
    sign x q = .ok a q' ↔ x q.signer = .ok a q'.signer ∧ q'.request = q.request := by
  obtain ⟨r, s⟩ := q
  obtain ⟨r', s'⟩ := q'
  unfold sign
  cases x s with
  | ok b t => simp [eq_comm, and_comm, and_left_comm]
  | error e t => simp

theorem sign_eq_error {x : Signing α} {e : AuthError} :
    sign x q = .error e q' ↔ x q.signer = .error e q'.signer ∧ q'.request = q.request := by
  obtain ⟨r, s⟩ := q
  obtain ⟨r', s'⟩ := q'
  unfold sign
  cases x s with
  | ok b t => simp
  | error e t => simp [eq_comm, and_comm, and_left_comm]

theorem insertAll_run (fields : HeaderFields) (q : Open) : insertAll fields q = .ok ()
    { q with request.headers := insertFields q.request.headers fields } := by
  induction fields generalizing q with
  | nil => rfl
  | cons p r ih => exact ih { q with request.headers := insertField q.request.headers p }

end Editing

variable {q q' : Open}

/-- What a call does when it succeeds. -/
theorem edit_eq_ok {fields : HeaderFields} : edit o now q = .ok fields q' ↔ ∃ body set t,
    q.request.boundBody q.signer = .ok body q.signer ∧
      (headersRequest o q.request body).headers now q.signer = .ok set t ∧ set.fields = .ok fields ∧
      q'.signer =
        { t with events := t.events ++ [authenticatedEvent o q.request set.walletAuth.isSome] } ∧
      q'.request = { q.request with headers := insertFields q.request.headers fields } := by
  constructor
  · intro h
    obtain ⟨_, _, got, h⟩ := bind_eq_ok.mp h
    cases got
    obtain ⟨body, q₁, bound, h⟩ := bind_eq_ok.mp h
    obtain ⟨set, q₂, made, h⟩ := bind_eq_ok.mp h
    obtain ⟨fields', q₃, valid, h⟩ := bind_eq_ok.mp h
    obtain ⟨_, q₄, put, h⟩ := bind_eq_ok.mp h
    obtain ⟨_, q₅, logged, h⟩ := bind_eq_ok.mp h
    obtain ⟨rfl, rfl⟩ := pure_eq_ok.mp h
    obtain ⟨bound, same₁⟩ := Editing.sign_eq_ok.mp bound
    obtain ⟨made, same₂⟩ := Editing.sign_eq_ok.mp made
    obtain ⟨valid, same₃⟩ := Editing.sign_eq_ok.mp valid
    obtain ⟨valid, signer⟩ := lift_eq_ok.mp valid
    rw [Editing.insertAll_run] at put
    cases put
    obtain ⟨logged, same₅⟩ := Editing.sign_eq_ok.mp logged
    obtain ⟨kept, -⟩ := boundBody_eq_ok.mp bound
    rw [kept] at bound made
    refine ⟨body, set, q₂.signer, bound, made, valid, ?_, ?_⟩
    · rw [signer]
      exact log_eq_ok.mp logged
    · rw [same₅, same₃, same₂, same₁]
  · intro h
    obtain ⟨body, set, t, bound, made, valid, signer, request⟩ := h
    obtain ⟨r', s'⟩ := q'
    cases signer
    cases request
    have bound : Editing.sign q.request.boundBody q = .ok body q :=
      Editing.sign_eq_ok.mpr ⟨bound, rfl⟩
    have made : Editing.sign ((headersRequest o q.request body).headers now) q =
        .ok set ⟨q.request, t⟩ := Editing.sign_eq_ok.mpr ⟨made, rfl⟩
    have valid : Editing.sign (lift set.fields) ⟨q.request, t⟩ = .ok fields ⟨q.request, t⟩ :=
      Editing.sign_eq_ok.mpr ⟨lift_eq_ok.mpr ⟨valid, rfl⟩, rfl⟩
    refine bind_eq_ok.mpr ⟨q, q, rfl, bind_eq_ok.mpr ⟨body, q, bound, bind_eq_ok.mpr
      ⟨set, _, made, bind_eq_ok.mpr ⟨fields, _, valid, bind_eq_ok.mpr
        ⟨(), _, Editing.insertAll_run fields _, bind_eq_ok.mpr ⟨(), _, ?_, pure_eq_ok.mpr ⟨rfl, rfl⟩⟩⟩⟩⟩⟩⟩
    rfl

/-- Where a call can fail: at the body, at a token, or when the tokens are there and another field cannot
be sent. The request has not been touched. -/
theorem edit_error {e : AuthError} (h : edit o now q = .error e q') : q'.request = q.request ∧
    (q.request.boundBody q.signer = .error e q'.signer ∨
      ∃ body, q.request.boundBody q.signer = .ok body q.signer ∧
        ((headersRequest o q.request body).headers now q.signer = .error e q'.signer ∨
          ∃ set, (headersRequest o q.request body).headers now q.signer = .ok set q'.signer ∧
            set.fields = .error e)) := by
  obtain got | ⟨_, _, got, h⟩ := bind_eq_error.mp h
  · cases got
  cases got
  obtain refused | ⟨body, q₁, bound, h⟩ := bind_eq_error.mp h
  · obtain ⟨refused, same⟩ := Editing.sign_eq_error.mp refused
    exact ⟨same, Or.inl refused⟩
  obtain ⟨bound, same⟩ := Editing.sign_eq_ok.mp bound
  obtain ⟨kept, -⟩ := boundBody_eq_ok.mp bound
  obtain ⟨r₁, s₁⟩ := q₁
  cases same
  cases kept
  obtain refused | ⟨set, q₂, made, h⟩ := bind_eq_error.mp h
  · obtain ⟨refused, same⟩ := Editing.sign_eq_error.mp refused
    exact ⟨same, Or.inr ⟨body, bound, Or.inl refused⟩⟩
  obtain ⟨made, same⟩ := Editing.sign_eq_ok.mp made
  obtain invalid | ⟨fields, q₃, -, h⟩ := bind_eq_error.mp h
  · obtain ⟨invalid, same'⟩ := Editing.sign_eq_error.mp invalid
    obtain ⟨invalid, signer⟩ := lift_eq_error.mp invalid
    rw [signer] at made
    exact ⟨same'.trans same, Or.inr ⟨body, bound, Or.inr ⟨set, made, invalid⟩⟩⟩
  -- From here on nothing fails.
  obtain put | ⟨_, q₄, -, h⟩ := bind_eq_error.mp h
  · rw [Editing.insertAll_run] at put
    cases put
  obtain logged | ⟨_, q₅, -, h⟩ := bind_eq_error.mp h
  · cases logged
  · exact absurd h pure_ne_error

theorem authenticate_edited : r.authenticate o now s = .ok r' s' ↔
    ∃ fields, edit o now ⟨r, s⟩ = .ok fields ⟨r', s'⟩ := by
  unfold authenticate
  cases edit o now ⟨r, s⟩ with
  | ok fields q =>
    obtain ⟨r₁, s₁⟩ := q
    simp
  | error e q => simp

theorem authenticate_eq_ok : r.authenticate o now s = .ok r' s' ↔ ∃ body set fields t,
    r.boundBody s = .ok body s ∧ (headersRequest o r body).headers now s = .ok set t ∧
      set.fields = .ok fields ∧
      s' = { t with events := t.events ++ [authenticatedEvent o r set.walletAuth.isSome] } ∧
      r' = { r with headers := insertFields r.headers fields } := by
  rw [authenticate_edited]
  simp only [edit_eq_ok]
  constructor
  · intro h
    obtain ⟨fields, body, set, t, h⟩ := h
    exact ⟨body, set, fields, t, h⟩
  · intro h
    obtain ⟨body, set, fields, t, h⟩ := h
    exact ⟨fields, body, set, t, h⟩

theorem authenticate_of_body {body : Option Members} (bound : r.boundBody s = .ok body s) :
    r.authenticate o now s =
      match (headersRequest o r body).headers now s with
      | .error e t => .error e t
      | .ok set t =>
        match set.fields with
        | .error e => .error e t
        | .ok fields => .ok { r with headers := insertFields r.headers fields }
          { t with events := t.events ++ [authenticatedEvent o r set.walletAuth.isSome] } := by
  have bound' : Editing.sign r.boundBody ⟨r, s⟩ = .ok body ⟨r, s⟩ := Editing.sign_eq_ok.mpr ⟨bound, rfl⟩
  cases made : (headersRequest o r body).headers now s with
  | error e t =>
    have refused : Editing.sign ((headersRequest o r body).headers now) ⟨r, s⟩ = .error e ⟨r, t⟩ :=
      Editing.sign_eq_error.mpr ⟨made, rfl⟩
    have edited : edit o now ⟨r, s⟩ = .error e ⟨r, t⟩ :=
      bind_eq_error.mpr (Or.inr ⟨_, _, rfl, bind_eq_error.mpr (Or.inr ⟨_, _, bound',
        bind_eq_error.mpr (Or.inl refused)⟩)⟩)
    rw [authenticate, edited]
  | ok set t =>
    cases valid : set.fields with
    | error e =>
      have made' : Editing.sign ((headersRequest o r body).headers now) ⟨r, s⟩ = .ok set ⟨r, t⟩ :=
        Editing.sign_eq_ok.mpr ⟨made, rfl⟩
      have invalid : Editing.sign (lift set.fields) ⟨r, t⟩ = .error e ⟨r, t⟩ :=
        Editing.sign_eq_error.mpr ⟨lift_eq_error.mpr ⟨valid, rfl⟩, rfl⟩
      have edited : edit o now ⟨r, s⟩ = .error e ⟨r, t⟩ :=
        bind_eq_error.mpr (Or.inr ⟨_, _, rfl, bind_eq_error.mpr (Or.inr ⟨_, _, bound',
          bind_eq_error.mpr (Or.inr ⟨_, _, made', bind_eq_error.mpr (Or.inl invalid)⟩)⟩)⟩)
      rw [authenticate, edited]
      simp only [valid]
    | ok fields =>
      simp only [valid]
      exact authenticate_eq_ok.mpr ⟨body, set, fields, t, bound, made, valid, rfl, rfl⟩

theorem authenticate_refused {e : AuthError} (refused : r.boundBody s = .error e s') :
    r.authenticate o now s = .error e s' := by
  have first : Editing.sign r.boundBody ⟨r, s⟩ = .error e ⟨r, s'⟩ :=
    Editing.sign_eq_error.mpr ⟨refused, rfl⟩
  have edited : edit o now ⟨r, s⟩ = .error e ⟨r, s'⟩ :=
    bind_eq_error.mpr (Or.inr ⟨_, _, rfl, bind_eq_error.mpr (Or.inl first)⟩)
  rw [authenticate, edited]

theorem authenticate_error {e : AuthError} (h : r.authenticate o now s = .error e s') :
    ∃ r', edit o now ⟨r, s⟩ = .error e ⟨r', s'⟩ := by
  unfold authenticate at h
  cases edited : edit o now ⟨r, s⟩ with
  | ok fields q =>
    rw [edited] at h
    cases h
  | error f q =>
    rw [edited] at h
    cases h
    exact ⟨q.request, rfl⟩

end Request
end RequestAuth
