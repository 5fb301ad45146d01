import RequestAuth.Proofs.Http.Trace

/-! The events of a call tell how far it came. Each token is logged when it is made, a refused body is all
that is logged of its call, and the last event of a call says that it succeeded. -/

namespace RequestAuth

namespace Signing
variable {α β : Type}

/-- A run that fails has logged nothing. -/
def Silent (x : Signing α) : Prop := ∀ s e t, x s = .error e t → t.events = s.events

namespace Silent

theorem of_logs {x : Signing α} (h : Logs [] x) : Silent x := by
  intro s e t failed
  obtain ⟨l, front, events⟩ := h.failed failed
  rw [events, List.prefix_nil.mp front, List.append_nil]

/-- Only what comes last may log. -/
theorem bind {x : Signing α} {f : α → Signing β} (first : Logs [] x) (later : ∀ a, Silent (f a)) :
    Silent (x >>= f) := by
  intro s e t failed
  cases bind_eq_error.mp failed with
  | inl unmade => exact of_logs first s e t unmade
  | inr rest =>
    obtain ⟨a, u, made, rest⟩ := rest
    rw [later a u e t rest, first.done made, List.append_nil]

theorem guard {c : Prop} [Decidable c] (e : AuthError) (f : α → Signing β) {x : Signing β} (h : Silent x) :
    Silent (if c then (MonadExcept.throw e : Signing α) >>= f else x) := by
  split
  · exact of_logs (.throw [] e)
  · exact h

theorem log (e : Event) (a : α) : Silent (Signing.log e >>= fun _ => pure a) := by
  intro s f t failed
  cases bind_eq_error.mp failed with
  | inl unlogged => cases unlogged
  | inr last =>
    obtain ⟨_, _, -, last⟩ := last
    exact absurd last pure_ne_error

end Silent
end Signing

open Signing
variable {now : Times} {s s' : SignerState}

theorem BearerRequest.silent_token (r : BearerRequest) (now : Int64) : Silent (r.token now) := by
  apply Silent.guard
  apply Silent.guard
  refine .bind (.lift _) fun uri => .bind .drawNonce fun n => .bind (.lift _) fun key => ?_
  exact .bind (.lift _) fun text => .log _ text

theorem WalletRequest.silent_token (r : WalletRequest) (now : Int64) : Silent (r.token now) := by
  apply Silent.guard
  refine .bind (.lift _) fun key => .bind .drawNonce fun n => ?_
  exact .bind (.lift _) fun text => .log _ text

theorem HeadersRequest.silent_walletToken (r : HeadersRequest) : Silent (r.walletToken now) := by
  unfold walletToken
  split
  · refine .bind (.lift _) fun w => ?_
    intro s e t failed
    cases bind_eq_error.mp failed with
    | inl unmade => exact w.silent_token now.wallet s e t unmade
    | inr rest =>
      obtain ⟨_, _, -, rest⟩ := rest
      exact absurd rest pure_ne_error
  · exact .of_logs (.pure none)

def AuthError.ofToken : AuthError → Bool
  | missing _ | malformedCoordinates | nonce _ | key _ => true
  | _ => false

theorem BearerRequest.ofToken_error {r : BearerRequest} {now : Int64} {e : AuthError} (h : r.token now s = .error e s') :
    e.ofToken := by
  obtain ⟨refused, -⟩ | ⟨reason, rfl, -⟩ | ⟨f, n, rfl, -⟩ := token_error h
  · obtain rfl | rfl | rfl := refused?_eq_some refused <;> rfl
  · rfl
  · rfl

theorem WalletRequest.ofToken_error {r : WalletRequest} {now : Int64} {e : AuthError} (h : r.token now s = .error e s') :
    e.ofToken := by
  obtain ⟨refused, -⟩ | ⟨reason, rfl, -⟩ := token_error h
  · obtain rfl | ⟨f, rfl, -⟩ := refused?_eq_some refused <;> rfl
  · rfl

theorem HeadersRequest.ofToken_walletToken {r : HeadersRequest} {e : AuthError}
    (h : r.walletToken now s = .error e s') : e.ofToken := by
  unfold walletToken at h
  split at h
  · cases bind_eq_error.mp h with
    | inl unasked =>
      obtain ⟨unasked, -⟩ := lift_eq_error.mp unasked
      unfold wallet at unasked
      split at unasked
      · cases unasked
        rfl
      · split at unasked <;> cases unasked
        rfl
    | inr later =>
      obtain ⟨w, t, -, later⟩ := later
      cases bind_eq_error.mp later with
      | inl unmade => exact WalletRequest.ofToken_error unmade
      | inr last =>
        obtain ⟨_, _, -, last⟩ := last
        exact absurd last pure_ne_error
  · exact absurd h pure_ne_error

structure LogEntry where
  severity : Severity
  message : String
  fields : List (String × FieldValue)
  deriving DecidableEq

def Event.entry (e : Event) : LogEntry := ⟨e.severity, e.message, e.fields⟩

namespace Request

def refusedEntry (r : Request) (f : BodyFault) : LogEntry where
  severity := .warn
  message := "cannot bind request body"
  fields := [("method", .text r.coordinates.method), ("path", .text r.coordinates.path),
    ("error", .text (AuthError.body f).message)]

def bearerEntry (o : ClientOptions) (key : SigningKey) : LogEntry where
  severity := .debug
  message := "generated api key jwt"
  fields := [("key_id", .text o.keyId), ("algorithm", .text key.algorithm.name), ("uri_bound", .flag true)]

def proofEntry (r : Request) (withBody : Bool) : LogEntry where
  severity := .debug
  message := "generated wallet jwt"
  fields := [("method", .text r.coordinates.method), ("path", .text r.coordinates.path),
    ("has_body", .flag withBody)]

/-- Only those who are debugging see it, with the whole URL. -/
def doneEntry (o : ClientOptions) (r : Request) (withProof : Bool) : LogEntry where
  severity := if o.debugging then .info else .debug
  message := "authenticated request"
  fields := [("method", .text r.coordinates.method),
    if o.debugging then ("url", .text r.url.text) else ("path", .text r.coordinates.path),
    ("wallet_auth", .flag withProof)]

theorem entry_authenticatedEvent (o : ClientOptions) (r : Request) (withProof : Bool) :
    (authenticatedEvent o r withProof).entry = r.doneEntry o withProof := by
  unfold authenticatedEvent doneEntry
  cases o.debugging <;> rfl

variable {r : Request} {o : ClientOptions} {body : Option Members}

def hasMembers (r : Request) : Bool :=
  match r.body.members with
  | .ok ms => !ms.isEmpty
  | .error _ => false

theorem hasMembers_iff : r.hasMembers ↔ ∃ ms, r.body.members = .ok ms ∧ ms ≠ [] := by
  unfold hasMembers
  cases r.body.members <;> simp

/-- What is logged of a wallet proof, where one is needed. -/
def proofTrace (r : Request) : List Event :=
  if r.needsProof then [.walletToken r.coordinates.method r.coordinates.path r.hasMembers] else []

theorem walletTrace_bound (bound : r.boundBody s = .ok body s) :
    (headersRequest o r body).walletTrace = r.proofTrace := by
  have bound := (boundBody_eq_ok.mp bound).2
  change (if r.needsProof then _ else _) = _
  unfold proofTrace
  by_cases need : r.needsProof
  · rw [if_pos need] at bound ⊢
    obtain ⟨ms, read, rfl⟩ := bound
    rw [if_pos need, hasMembers, read]
    rfl
  · rw [if_neg need, if_neg need]

def MakesBearer (o : ClientOptions) (now : Times) (r : Request) (s : SignerState) : Prop :=
  ∃ body token t, r.boundBody s = .ok body s ∧ (headersRequest o r body).bearer.token now.bearer s = .ok token t

def MakesProof (o : ClientOptions) (now : Times) (r : Request) (s : SignerState) : Prop :=
  ∃ body token t proof u, r.boundBody s = .ok body s ∧
    (headersRequest o r body).bearer.token now.bearer s = .ok token t ∧
    (headersRequest o r body).walletToken now t = .ok (some proof) u

structure Bearer (o : ClientOptions) (now : Times) (r : Request) (s : SignerState) (body : Option Members)
    (t : SignerState) (key : SigningKey) : Prop where
  bound : r.boundBody s = .ok body s
  made : ∃ token, (headersRequest o r body).bearer.token now.bearer s = .ok token t
  read : SigningKey.ofApiSecret o.keySecret = .ok key
  events : t.events = s.events ++ [.bearerToken o.keyId key.algorithm true]

theorem exists_bearer (method : r.method ≠ "") {token : String} (bound : r.boundBody s = .ok body s)
    (made : (headersRequest o r body).bearer.token now.bearer s = .ok token s') :
    ∃ key, Bearer o now r s body s' key := by
  obtain ⟨-, -, uri, -, key, given, -, read, -, events⟩ := BearerRequest.token_eq_ok.mp made
  refine ⟨key, bound, ⟨token, made⟩, read, ?_⟩
  cases BearerRequest.uri_eq_ok.mp given with
  | inl given =>
    obtain ⟨-, -, -, rfl⟩ := given
    exact events
  | inr empty => exact absurd (asciiUpper_eq_empty.mp empty.1) method

/-- Where a call ends, and what it has logged by then. -/
inductive Course (o : ClientOptions) (now : Times) (r : Request) (s : SignerState) :
    EStateM.Result AuthError SignerState Request → List Event → Prop where
  | bodyRefused {f : BodyFault} {t : SignerState} (refused : r.boundBody s = .error (.body f) t) :
    Course o now r s (.error (.body f) t) [.bodyRefused r.coordinates.method r.coordinates.path f]
  | bearerRefused {body : Option Members} {e : AuthError} {t : SignerState}
      (bound : r.boundBody s = .ok body s)
      (refused : (headersRequest o r body).bearer.token now.bearer s = .error e t) :
    Course o now r s (.error e t) []
  | proofRefused {body : Option Members} {e : AuthError} {t u : SignerState} {key : SigningKey}
      (bearer : Bearer o now r s body t key)
      (refused : (headersRequest o r body).walletToken now t = .error e u) :
    Course o now r s (.error e u) [.bearerToken o.keyId key.algorithm true]
  | unsent {body : Option Members} {proof : Option String} {t u : SignerState} {key : SigningKey}
      (bearer : Bearer o now r s body t key)
      (proved : (headersRequest o r body).walletToken now t = .ok proof u) :
    Course o now r s (.error .headerValue u) (.bearerToken o.keyId key.algorithm true :: r.proofTrace)
  | done {body : Option Members} {proof : Option String} {t u s' : SignerState} {key : SigningKey}
      {r' : Request} (bearer : Bearer o now r s body t key)
      (proved : (headersRequest o r body).walletToken now t = .ok proof u) :
    Course o now r s (.ok r' s')
      (.bearerToken o.keyId key.algorithm true :: (r.proofTrace ++ [authenticatedEvent o r r.needsProof]))

theorem authenticate_course (o : ClientOptions) (now : Times) (s : SignerState) (method : r.method ≠ "") :
    ∃ trace, Course o now r s (r.authenticate o now s) trace ∧
      (final (r.authenticate o now s)).events = s.events ++ trace := by
  cases bound : r.boundBody s with
  | error e t =>
    obtain ⟨f, -, -, rfl, events⟩ := events_refused bound
    rw [authenticate_refused bound]
    exact ⟨_, .bodyRefused bound, events⟩
  | ok body t =>
    obtain ⟨rfl, -⟩ := boundBody_eq_ok.mp bound
    rw [authenticate_of_body bound]
    cases made : (headersRequest o r body).headers now t with
    | error e u =>
      cases bind_eq_error.mp made with
      | inl refused =>
        refine ⟨[], .bearerRefused bound refused, ?_⟩
        rw [List.append_nil]
        exact BearerRequest.silent_token _ _ _ _ _ refused
      | inr later =>
        obtain ⟨token, t', first, later⟩ := later
        obtain ⟨key, bearer⟩ := exists_bearer method bound first
        cases bind_eq_error.mp later with
        | inl refused =>
          refine ⟨_, .proofRefused bearer refused, ?_⟩
          rw [← bearer.events]
          exact HeadersRequest.silent_walletToken _ _ _ _ refused
        | inr last =>
          obtain ⟨_, _, -, last⟩ := last
          exact absurd last pure_ne_error
    | ok set u =>
      have proof : set.walletAuth.isSome = r.needsProof := HeadersRequest.isSome_walletAuth made
      obtain ⟨token, w, t', first, proved, rfl⟩ := HeadersRequest.headers_eq_ok.mp made
      obtain ⟨key, bearer⟩ := exists_bearer method bound first
      have logged : u.events = t.events ++ .bearerToken o.keyId key.algorithm true :: r.proofTrace := by
        rw [HeadersRequest.logs_walletToken.done proved, bearer.events, walletTrace_bound bound,
          List.append_assoc, List.singleton_append]
      dsimp only
      cases valid : ((headersRequest o r body).headerSet token w).fields with
      | error e =>
        cases HeaderSet.fields_eq_error valid
        exact ⟨_, .unsent bearer proved, logged⟩
      | ok fields =>
        refine ⟨_, .done bearer proved, ?_⟩
        rw [final, proof]
        dsimp only
        rw [logged, List.append_assoc, List.cons_append]

namespace Course
variable {result : EStateM.Result AuthError SignerState Request} {trace : List Event}

theorem messages_proofTrace :
    r.proofTrace.map Event.message = if r.needsProof then ["generated wallet jwt"] else [] := by
  unfold proofTrace
  split <;> rfl

theorem entries_proofTrace :
    r.proofTrace.map Event.entry = if r.needsProof then [r.proofEntry r.hasMembers] else [] := by
  unfold proofTrace
  split <;> rfl

theorem message_authenticatedEvent (withProof : Bool) :
    (authenticatedEvent o r withProof).message = "authenticated request" := by
  unfold authenticatedEvent
  split <;> rfl

theorem refused {f : BodyFault} (course : Course o now r s (.error (.body f) s') trace) :
    trace.map Event.entry = [r.refusedEntry f] := by
  cases course with
  | bodyRefused => rfl
  | bearerRefused _ refused => cases BearerRequest.ofToken_error refused
  | proofRefused _ refused => cases HeadersRequest.ofToken_walletToken refused

theorem headerValue (course : Course o now r s (.error .headerValue s') trace) :
    ∃ key, SigningKey.ofApiSecret o.keySecret = .ok key ∧ trace.map Event.entry =
      bearerEntry o key :: if r.needsProof then [r.proofEntry r.hasMembers] else [] := by
  cases course with
  | bearerRefused _ refused => cases BearerRequest.ofToken_error refused
  | proofRefused _ refused => cases HeadersRequest.ofToken_walletToken refused
  | unsent bearer => exact ⟨_, bearer.read, by rw [← entries_proofTrace]; rfl⟩

/-- The events of a request whose body is not refused come in one order. -/
theorem ordered (course : Course o now r s result trace) (accepted : ∀ f t, result ≠ .error (.body f) t)
    (some : trace ≠ []) : ∃ key, SigningKey.ofApiSecret o.keySecret = .ok key ∧
      trace.map Event.entry <+: bearerEntry o key ::
        ((if r.needsProof then [r.proofEntry r.hasMembers] else []) ++ [r.doneEntry o r.needsProof]) := by
  rw [← entries_proofTrace, ← entry_authenticatedEvent]
  cases course with
  | bodyRefused => exact absurd rfl (accepted _ _)
  | bearerRefused => exact absurd rfl some
  | proofRefused bearer =>
    refine ⟨_, bearer.read, ?_⟩
    change [bearerEntry o _] <+: _
    exact List.prefix_append [_] _
  | unsent bearer =>
    refine ⟨_, bearer.read, ?_⟩
    change bearerEntry o _ :: r.proofTrace.map Event.entry <+: _
    exact (List.prefix_cons_inj _).mpr (List.prefix_append _ _)
  | done bearer =>
    refine ⟨_, bearer.read, ?_⟩
    rw [List.map_cons, List.map_append]
    exact List.prefix_rfl

theorem bearer_iff (course : Course o now r s result trace) :
    "generated api key jwt" ∈ trace.map Event.message ↔ MakesBearer o now r s := by
  cases course with
  | bodyRefused refused =>
    refine iff_of_false (by simp [Event.message]) ?_
    intro h
    obtain ⟨body, token, t, bound, -⟩ := h
    cases refused.symm.trans bound
  | bearerRefused bound refused =>
    refine iff_of_false (by simp) ?_
    intro h
    obtain ⟨body, token, t, bound', made⟩ := h
    cases bound.symm.trans bound'
    cases refused.symm.trans made
  | proofRefused bearer | unsent bearer | done bearer =>
    obtain ⟨token, made⟩ := bearer.made
    exact iff_of_true List.mem_cons_self ⟨_, token, _, bearer.bound, made⟩

/-- With the bearer token of a call, whether there is a proof is up to the rest of it. -/
theorem makesProof_iff {t : SignerState} {key : SigningKey} (bearer : Bearer o now r s body t key) :
    MakesProof o now r s ↔ ∃ proof u, (headersRequest o r body).walletToken now t = .ok (some proof) u := by
  obtain ⟨token, made⟩ := bearer.made
  constructor
  · intro h
    obtain ⟨body', token', t', proof, u, bound, made', proved⟩ := h
    cases bearer.bound.symm.trans bound
    cases made.symm.trans made'
    exact ⟨proof, u, proved⟩
  · intro h
    obtain ⟨proof, u, proved⟩ := h
    exact ⟨body, token, t, proof, u, bearer.bound, made, proved⟩

theorem makesProof_needed {proof : Option String} {t u : SignerState} {key : SigningKey}
    (bearer : Bearer o now r s body t key)
    (proved : (headersRequest o r body).walletToken now t = .ok proof u) :
    MakesProof o now r s ↔ r.needsProof := by
  have given := HeadersRequest.walletToken_eq_ok.mp proved
  change if r.needsProof then _ else _ at given
  rw [makesProof_iff bearer, proved]
  by_cases need : r.needsProof
  · rw [if_pos need] at given
    obtain ⟨-, p, -, -, rfl⟩ := given
    exact iff_of_true ⟨p, u, rfl⟩ need
  · rw [if_neg need] at given
    obtain ⟨rfl, -⟩ := given
    exact iff_of_false (by simp) need

theorem proof_iff (course : Course o now r s result trace) :
    "generated wallet jwt" ∈ trace.map Event.message ↔ MakesProof o now r s := by
  cases course with
  | bodyRefused refused =>
    refine iff_of_false (by simp [Event.message]) ?_
    intro h
    obtain ⟨body, token, t, proof, u, bound, -⟩ := h
    cases refused.symm.trans bound
  | bearerRefused bound refused =>
    refine iff_of_false (by simp) ?_
    intro h
    obtain ⟨body, token, t, proof, u, bound', made, -⟩ := h
    cases bound.symm.trans bound'
    cases refused.symm.trans made
  | proofRefused bearer refused =>
    rw [makesProof_iff bearer, refused]
    exact iff_of_false (by simp [Event.message]) (by simp)
  | unsent bearer proved =>
    rw [makesProof_needed bearer proved, List.map_cons, messages_proofTrace]
    cases r.needsProof <;> simp [Event.message]
  | done bearer proved =>
    rw [makesProof_needed bearer proved, List.map_cons, List.map_append, messages_proofTrace, List.map_cons,
      message_authenticatedEvent]
    cases r.needsProof <;> simp [Event.message]

theorem done_iff (course : Course o now r s result trace) :
    "authenticated request" ∈ trace.map Event.message ↔ ∃ r' s', result = .ok r' s' := by
  cases course with
  | bodyRefused | bearerRefused | proofRefused => exact iff_of_false (by simp [Event.message]) (by simp)
  | unsent =>
    refine iff_of_false ?_ (by simp)
    rw [List.map_cons, messages_proofTrace]
    cases r.needsProof <;> simp [Event.message]
  | done =>
    refine iff_of_true ?_ ⟨_, _, rfl⟩
    rw [List.map_cons, List.map_append, List.map_cons, message_authenticatedEvent]
    simp

theorem last {r' : Request} (course : Course o now r s (.ok r' s') trace) :
    ∃ front, trace.map Event.entry = front ++ [r.doneEntry o r.needsProof] := by
  cases course with
  | @done _ _ _ _ _ key =>
    refine ⟨bearerEntry o key :: r.proofTrace.map Event.entry, ?_⟩
    rw [List.map_cons, List.map_append, List.map_singleton, entry_authenticatedEvent]
    rfl

end Course

theorem proof_inserted {r' : Request} {fields : HeaderFields}
    (edited : edit o now ⟨r, s⟩ = .ok fields ⟨r', s'⟩) :
    decide ("x-wallet-auth" ∈ fields.map Prod.fst) = r.needsProof := by
  obtain ⟨body, set, t, -, made, valid, -⟩ := edit_eq_ok.mp edited
  have proof : set.walletAuth.isSome = r.needsProof := HeadersRequest.isSome_walletAuth made
  rw [HeaderSet.fields_inserted valid, HeaderSet.names_inserted, proof]
  cases r.needsProof <;> simp [HeaderSet.names]

theorem headers_inserted {r' : Request} {fields : HeaderFields}
    (edited : edit o now ⟨r, s⟩ = .ok fields ⟨r', s'⟩) :
    r'.headers = insertFields r.headers fields ∧
      r'.headers = r.headers.without (fields.map Prod.fst) ++ fields := by
  obtain ⟨body, set, t, -, -, valid, -, changed⟩ := edit_eq_ok.mp edited
  have inserted : r'.headers = insertFields r.headers fields := congrArg Request.headers changed
  have distinct : (fields.map Prod.fst).Nodup := by
    rw [HeaderSet.fields_inserted valid]
    exact set.inserted_distinct
  exact ⟨inserted, inserted.trans (insertFields_distinct r.headers distinct)⟩

/-- The log tells how a call went: a refused body is all that is logged of its call. Of any other call the
tokens are logged that it makes, in the order in which it makes them, and then that it has succeeded, if it
has. -/
theorem authenticate_trace (o : ClientOptions) (now : Times) (r : Request) (s : SignerState)
    (method : r.method ≠ "") : ∃ trace, (final (r.authenticate o now s)).events = s.events ++ trace ∧
      (∀ f s', r.authenticate o now s = .error (.body f) s' → trace.map Event.entry = [r.refusedEntry f]) ∧
      ((∀ f s', r.authenticate o now s ≠ .error (.body f) s') → trace ≠ [] →
        ∃ key, SigningKey.ofApiSecret o.keySecret = .ok key ∧ trace.map Event.entry <+: bearerEntry o key ::
          ((if r.needsProof then [r.proofEntry r.hasMembers] else []) ++ [r.doneEntry o r.needsProof])) ∧
      (r.hasMembers ↔ ∃ ms, r.body.members = .ok ms ∧ ms ≠ []) ∧
      ("generated api key jwt" ∈ trace.map Event.message ↔ MakesBearer o now r s) ∧
      ("generated wallet jwt" ∈ trace.map Event.message ↔ MakesProof o now r s) ∧
      ("authenticated request" ∈ trace.map Event.message ↔ ∃ r' s', r.authenticate o now s = .ok r' s') ∧
      (∀ r' s', r.authenticate o now s = .ok r' s' → ∃ fields front,
        edit o now ⟨r, s⟩ = .ok fields ⟨r', s'⟩ ∧
        r'.headers = insertFields r.headers fields ∧
        r'.headers = r.headers.without (fields.map Prod.fst) ++ fields ∧
        trace.map Event.entry = front ++ [r.doneEntry o ("x-wallet-auth" ∈ fields.map Prod.fst)]) ∧
      ∀ s', r.authenticate o now s = .error .headerValue s' →
        ∃ key, SigningKey.ofApiSecret o.keySecret = .ok key ∧ trace.map Event.entry =
          bearerEntry o key :: if r.needsProof then [r.proofEntry r.hasMembers] else [] := by
  obtain ⟨trace, course, events⟩ := authenticate_course o now s method
  refine ⟨trace, events, ?_, course.ordered, hasMembers_iff, course.bearer_iff, course.proof_iff,
    course.done_iff, ?_, ?_⟩
  · intro f s' refused
    exact Course.refused (refused ▸ course)
  · intro r' s' done
    obtain ⟨fields, edited⟩ := authenticate_edited.mp done
    obtain ⟨front, last⟩ := Course.last (done ▸ course)
    obtain ⟨inserted, replaced⟩ := headers_inserted edited
    exact ⟨fields, front, edited, inserted, replaced, by rw [last, proof_inserted edited]⟩
  · intro s' unsent
    exact Course.headerValue (unsent ▸ course)

/-- A request with a proof but without a body: all three events, and nothing of a body. -/
theorem authenticate_trace_sample : (sample "post" .none).method ≠ "" ∧
    ∃ r' s', (sample "post" .none).authenticate sampleOptions 1700000000 ⟨.constant .zero, []⟩ = .ok r' s' ∧
      ¬ (sample "post" .none).hasMembers ∧
      "generated api key jwt" ∈ s'.events.map Event.message ∧
      "generated wallet jwt" ∈ s'.events.map Event.message ∧
      ∃ front, s'.events.map Event.entry = front ++ [(sample "post" .none).doneEntry sampleOptions true] := by
  have method : (sample "post" .none).method ≠ "" := by decide
  have need := sample_needsProof .none
  obtain ⟨r', s', done⟩ := sample_done need rfl 1700000000
  obtain ⟨trace, events, -, -, members, bearer, proof, -, ending, -⟩ :=
    authenticate_trace sampleOptions 1700000000 (sample "post" .none) ⟨.constant .zero, []⟩ method
  rw [done] at events
  obtain rfl : s'.events = trace := events
  obtain ⟨body, set, fields, t, bound, made, -⟩ := authenticate_eq_ok.mp done
  obtain ⟨token, w, t', first, second, rfl⟩ := HeadersRequest.headers_eq_ok.mp made
  obtain ⟨key, given⟩ := exists_bearer method bound first
  obtain ⟨fields, front, edited, -, -, last⟩ := ending r' s' done
  rw [proof_inserted edited, need] at last
  refine ⟨method, r', s', done, ?_, bearer.mpr ⟨body, token, t', bound, first⟩,
    proof.mpr ((Course.makesProof_needed given second).mpr need), front, last⟩
  rw [members]
  intro h
  obtain ⟨ms, read, some⟩ := h
  cases read
  exact some rfl

end Request
end RequestAuth
