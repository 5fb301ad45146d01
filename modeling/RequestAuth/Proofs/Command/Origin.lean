import RequestAuth.Proofs.Command.Answer
import RequestAuth.Proofs.Http.Bound
import RequestAuth.Proofs.Http.Replay

/-! Which request a token is bound to, for every call and every command that gives one out. All calls but
one look whether the request is complete; the proof of a wallet by itself takes what it is given. -/

namespace RequestAuth
open Token Signing
variable {now : Times} {s s' : SignerState}

namespace Coordinates

structure Complete (c : Coordinates) : Prop where
  method : c.method ≠ ""
  host : c.host ≠ ""
  path : c.path ≠ ""

/-- Something is missing, but not everything. -/
def Partial (c : Coordinates) : Prop := ¬ c.Complete ∧ c ≠ ⟨"", "", ""⟩

/-- What is bound where it is checked: the request, or nothing at all. -/
inductive Bound (c : Coordinates) : Option (List RequestUri) → Prop where
  | request (complete : c.Complete) : Bound c (some [.ofCoordinates c])
  | free (empty : c = ⟨"", "", ""⟩) : Bound c none

theorem Bound.of_parts {c : Coordinates} {us : Option (List RequestUri)}
    (h : c.method ≠ "" ∧ c.host ≠ "" ∧ c.path ≠ "" ∧ us = some [.ofCoordinates c] ∨
      c.method = "" ∧ c.host = "" ∧ c.path = "" ∧ us = none) : c.Bound us := by
  obtain ⟨_, _, _⟩ := c
  cases h with
  | inl full =>
    obtain ⟨method, host, path, rfl⟩ := full
    exact .request ⟨method, host, path⟩
  | inr empty =>
    obtain ⟨rfl, rfl, rfl, rfl⟩ := empty
    exact .free rfl

theorem Bound.not_partial {c : Coordinates} {us : Option (List RequestUri)} (h : c.Bound us) :
    ¬ c.Partial := by
  rintro ⟨missing, given⟩
  cases h with
  | request complete => exact missing complete
  | free empty => exact given empty

end Coordinates

def Issued.text : Issued → String
  | bearer t => t
  | wallet t => t

namespace Job

def coordinates : Job → Coordinates
  | bearer r => r.coordinates
  | wallet r => r.coordinates
  | headers r => r.coordinates
  | stream _ => ⟨"", "", ""⟩
  | authenticate _ r => r.coordinates

def isProof : Job → Bool
  | wallet _ => true
  | bearer _ | headers _ | stream _ | authenticate _ _ => false

end Job

theorem BearerRequest.token_bound {r : BearerRequest} {now : Int64} {t : String} (made : r.token now s = .ok t s') :
    ∃ m, mark? t = some m ∧ r.coordinates.Bound m.uris := by
  obtain ⟨uri, n, key, bound, -, -, mark⟩ := token_mark made
  refine ⟨_, mark, .of_parts ?_⟩
  obtain ⟨method, host, path, rfl⟩ | ⟨method, host, path, rfl⟩ := uri_eq_ok.mp bound
  · exact Or.inl ⟨method, host, path, rfl⟩
  · exact Or.inr ⟨method, host, path, rfl⟩

theorem HeadersRequest.headers_bound {r : HeadersRequest} {set : HeaderSet}
    (made : r.headers now s = .ok set s') :
    ∀ t ∈ Issued.ofFields set.pairs, ∃ m, mark? t.text = some m ∧ r.coordinates.Bound m.uris := by
  obtain ⟨token, m, authorization, mark, bound, proof⟩ := headers_marks made
  intro t given
  rw [Issued.ofFields_pairs, authorization, drop_bearer] at given
  cases List.mem_cons.mp given with
  | inl e =>
    cases e
    exact ⟨m, mark, .of_parts bound⟩
  | inr proved =>
    obtain ⟨p, attached, rfl⟩ := List.mem_map.mp proved
    obtain ⟨w, mark', same⟩ := proof p (Option.mem_toList.mp attached)
    exact ⟨w, mark', same ▸ .of_parts bound⟩

theorem StreamRequest.headers_bound {r : StreamRequest} {now : Int64} {set : HeaderSet}
    (made : r.headers now s = .ok set s') :
    ∀ t ∈ Issued.ofFields set.pairs, ∃ m, mark? t.text = some m ∧ r.bearer.coordinates.Bound m.uris := by
  obtain ⟨token, bearer, rfl⟩ := headers_eq_ok.mp made
  intro t given
  rw [Issued.ofFields_pairs, drop_bearer] at given
  cases List.mem_singleton.mp given
  exact BearerRequest.token_bound bearer

theorem Issued.ofFields_ne_nil (set : HeaderSet) : ofFields set.pairs ≠ [] := by
  rw [ofFields_pairs]
  exact List.cons_ne_nil _ _

namespace Job
variable {job : Job}

theorem issue_bound {ts : List Issued} (checked : ¬ job.isProof) (h : job.issue now s = .ok ts s') :
    ts ≠ [] ∧ ∀ t ∈ ts, ∃ m, mark? t.text = some m ∧ job.coordinates.Bound m.uris := by
  cases job with
  | bearer r =>
    obtain ⟨t, _, made, done⟩ := bind_eq_ok.mp h
    obtain ⟨rfl, rfl⟩ := pure_eq_ok.mp done
    refine ⟨List.cons_ne_nil _ _, ?_⟩
    intro t given
    cases List.mem_singleton.mp given
    exact BearerRequest.token_bound made
  | wallet r => exact absurd rfl checked
  | headers r =>
    obtain ⟨set, _, made, done⟩ := bind_eq_ok.mp h
    obtain ⟨rfl, rfl⟩ := pure_eq_ok.mp done
    exact ⟨Issued.ofFields_ne_nil set, HeadersRequest.headers_bound made⟩
  | stream r =>
    obtain ⟨set, _, made, done⟩ := bind_eq_ok.mp h
    obtain ⟨rfl, rfl⟩ := pure_eq_ok.mp done
    exact ⟨Issued.ofFields_ne_nil set, StreamRequest.headers_bound made⟩
  | authenticate o r =>
    unfold issue at h
    cases edited : Request.edit o now ⟨r, s⟩ with
    | error e q => simp [edited] at h
    | ok fields q =>
      simp only [edited] at h
      cases h
      obtain ⟨body, set, t, -, made, valid, -⟩ := Request.edit_eq_ok.mp edited
      rw [HeaderSet.fields_inserted valid, Issued.ofFields_inserted]
      exact ⟨Issued.ofFields_ne_nil set, HeadersRequest.headers_bound made⟩

theorem issue_partial (checked : ¬ job.isProof) (missing : job.coordinates.Partial) :
    ∃ e s', job.issue now s = .error e s' := by
  cases issued : job.issue now s with
  | error e s' => exact ⟨e, s', rfl⟩
  | ok ts s' =>
    obtain ⟨some_token, bound⟩ := issue_bound checked issued
    obtain ⟨t, given⟩ := List.exists_mem_of_ne_nil ts some_token
    obtain ⟨m, -, bound⟩ := bound t given
    exact absurd missing bound.not_partial

theorem issue_proof {ts : List Issued} (proof : job.isProof) (h : job.issue now s = .ok ts s') :
    ts ≠ [] ∧ ((∀ t ∈ ts, ∃ m, mark? t.text = some m ∧ job.coordinates.Bound m.uris) ↔
      job.coordinates.Complete) := by
  cases job with
  | wallet r =>
    obtain ⟨t, _, made, done⟩ := bind_eq_ok.mp h
    obtain ⟨rfl, rfl⟩ := pure_eq_ok.mp done
    obtain ⟨n, -, -, mark⟩ := WalletRequest.token_mark made
    refine ⟨List.cons_ne_nil _ _, ?_, ?_⟩
    · intro bound
      obtain ⟨m, read, bound⟩ := bound _ List.mem_cons_self
      cases mark.symm.trans read
      cases bound with
      | request complete => exact complete
    · intro complete t given
      cases List.mem_singleton.mp given
      exact ⟨_, mark, .request complete⟩
  | bearer | headers | stream | authenticate => cases proof

end Job

/-- The coordinates go into a proof as they are, and have no part in whether it is made. -/
theorem WalletRequest.token_unchecked {r : WalletRequest} {now : Int64} {t : String} (made : r.token now s = .ok t s')
    (c : Coordinates) : ∃ t' s'' m, { r with coordinates := c }.token now s = .ok t' s'' ∧
      s''.nonces = s'.nonces ∧ mark? t' = some m ∧ m.uris = some [.ofCoordinates c] := by
  let q : WalletRequest := { r with coordinates := c }
  obtain ⟨secret, d, n, parsed, take, encoded, -⟩ := token_eq_ok.mp made
  obtain ⟨kind, -⟩ := encode_eq_ok.mp encoded
  obtain ⟨t', encoded⟩ : ∃ t', encode (.new .es256) (q.claims n now).toJson (.ec d) = .ok t' :=
    ⟨_, encode_eq_ok.mpr ⟨kind, rfl⟩⟩
  let s'' : SignerState :=
    ⟨s'.nonces, s.events ++ [.walletToken c.method c.path (q.claims n now).body.isSome]⟩
  have again : q.token now s = .ok t' s'' :=
    token_eq_ok.mpr ⟨secret, d, n, parsed, take, encoded, rfl⟩
  obtain ⟨_, -, -, mark⟩ := token_mark again
  exact ⟨t', s'', _, again, rfl, mark, rfl⟩

namespace Command
variable {w : World} {args : List String} {name : CommandName} {before after : OptionValues}

/-- Where the tokens of a call stand in what a command prints. -/
inductive Prints : CommandName → List Issued → String → Prop where
  | jwt (token : String) : Prints .jwt [.bearer token] (token ++ "\n")
  | walletJwt (token : String) : Prints .walletJwt [.wallet token] (token ++ "\n")
  | headers (set : HeaderSet) : Prints .headers (Issued.ofFields set.pairs) (headerLines set)

/-- A command gives out the tokens of one call, made for the method, host and path that it is given. -/
theorem outcome_issued (parsed : Arguments.parse args = some (.run name before after))
    (done : (outcome w args).exit = 0) : ∃ (job : Job) (ts : List Issued) (s' : SignerState),
      job.coordinates = coordinates after ∧ (job.isProof ↔ name = .walletJwt) ∧
      job.issue w.now ⟨w.nonces, []⟩ = .ok ts s' ∧ Prints name ts (outcome w args).stdout := by
  have line := Arguments.parse_eq_run.mp parsed
  obtain ⟨text, ran, out⟩ := outcome_exit parsed done
  obtain ⟨-, answer⟩ := (run_eq_ok line).mp ran
  rw [out]
  cases answer with
  | jwt _ coordinates _ made =>
    cases (coordinatesOf_iff line.afterOnce).mp coordinates
    exact ⟨.bearer _, _, _, rfl, by simp [Job.isProof],
      bind_eq_ok.mpr ⟨_, _, made, pure_eq_ok.mpr ⟨rfl, rfl⟩⟩, .jwt _⟩
  | walletJwt _ _ coordinates _ made =>
    cases (coordinatesOf_iff line.afterOnce).mp coordinates
    exact ⟨.wallet _, _, _, rfl, by simp [Job.isProof],
      bind_eq_ok.mpr ⟨_, _, made, pure_eq_ok.mpr ⟨rfl, rfl⟩⟩, .walletJwt _⟩
  | headers _ coordinates _ made =>
    cases (coordinatesOf_iff line.afterOnce).mp coordinates
    exact ⟨.headers _, _, _, rfl, by simp [Job.isProof],
      bind_eq_ok.mpr ⟨_, _, made, pure_eq_ok.mpr ⟨rfl, rfl⟩⟩, .headers _⟩

theorem outcome_partial (parsed : Arguments.parse args = some (.run name before after))
    (checked : name ≠ .walletJwt) (missing : (coordinates after).Partial) : (outcome w args).exit ≠ 0 := by
  intro done
  obtain ⟨job, ts, s', same, proof, issued, -⟩ := outcome_issued parsed done
  obtain ⟨e, t, refused⟩ := Job.issue_partial (fun h => checked (proof.mp h)) (same ▸ missing)
  rw [refused] at issued
  cases issued

end Command

/-- The tokens of a call are bound to a complete request, or to nothing where none is named, unless the call
is for a proof by itself and something is missing. Only this call does not look: it makes the proof for any
method, host and path. Each command gives out the tokens of one of these calls. -/
theorem token_origins (job : Job) (now : Times) (s : SignerState) (w : World) (args : List String) :
    (∀ ts s', job.issue now s = .ok ts s' → ts ≠ [] ∧
      ((∀ t ∈ ts, ∃ m, mark? t.text = some m ∧ job.coordinates.Bound m.uris) ↔
        (job.isProof → job.coordinates.Complete))) ∧
    (¬ job.isProof → job.coordinates.Partial → ∃ e s', job.issue now s = .error e s') ∧
    (∀ r t s', job = .wallet r → r.token now.wallet s = .ok t s' → ∀ c, ∃ t' s'' m,
      { r with coordinates := c }.token now.wallet s = .ok t' s'' ∧ s''.nonces = s'.nonces ∧
        mark? t' = some m ∧ m.uris = some [.ofCoordinates c]) ∧
    ∀ name before after, Arguments.parse args = some (.run name before after) →
      ((Command.outcome w args).exit = 0 →
        ∃ (call : Job) (ts : List Issued) (s' : SignerState),
          call.coordinates = Command.coordinates after ∧ (call.isProof ↔ name = .walletJwt) ∧
          call.issue w.now ⟨w.nonces, []⟩ = .ok ts s' ∧
          Command.Prints name ts (Command.outcome w args).stdout) ∧
      (name ≠ .walletJwt → (Command.coordinates after).Partial → (Command.outcome w args).exit ≠ 0) := by
  refine ⟨?_, Job.issue_partial, ?_, ?_⟩
  · intro ts s' issued
    by_cases proof : job.isProof
    · obtain ⟨some_token, bound⟩ := Job.issue_proof proof issued
      exact ⟨some_token, bound.trans ⟨fun complete _ => complete, fun complete => complete proof⟩⟩
    · obtain ⟨some_token, bound⟩ := Job.issue_bound proof issued
      exact ⟨some_token, fun _ single => absurd single proof, fun _ => bound⟩
  · rintro r t s' rfl made
    exact WalletRequest.token_unchecked made
  · intro name before after parsed
    exact ⟨Command.outcome_issued parsed, Command.outcome_partial parsed⟩

def Coordinates.hostless : Coordinates := ⟨"POST", "", "/platform/v2/evm/accounts"⟩

theorem Coordinates.partial_hostless : hostless.Partial :=
  ⟨fun complete => complete.host rfl, by decide⟩

def Command.hostlessOptions : OptionValues := [(.method, "post"), (.path, "/platform/v2/evm/accounts")]

def Command.hostlessArguments : List String := "jwt" :: Arguments.attach hostlessOptions

theorem Command.parse_hostlessArguments :
    Arguments.parse hostlessArguments = some (.run .jwt [] hostlessOptions) :=
  Arguments.parse_writes (c := .jwt) .nil (Arguments.writes_attach hostlessOptions) nofun (by decide)
    ⟨nofun, .nil⟩ ⟨by decide, by decide⟩ nofun

theorem Command.partial_hostlessOptions : (coordinates hostlessOptions).Partial := by
  refine ⟨fun complete => complete.host rfl, ?_⟩
  intro same
  exact absurd (congrArg Coordinates.path same) (by decide)

theorem token_origins_sample :
    (∃ e s', (Job.bearer { BearerRequest.sample with coordinates := .hostless }).issue 1700000000
      ⟨.constant .zero, []⟩ = .error e s') ∧
    (∃ ts s', (Job.wallet WalletRequest.sample).issue 1700000000 ⟨.constant .zero, []⟩ = .ok ts s' ∧
      ts ≠ [] ∧ ∀ t ∈ ts, ∃ m, mark? t.text = some m ∧ WalletRequest.sample.coordinates.Bound m.uris) ∧
    (∃ t s' m, { WalletRequest.sample with coordinates := .hostless }.token 1700000000
      ⟨.constant .zero, []⟩ = .ok t s' ∧ mark? t = some m ∧ m.uris = some [.ofCoordinates .hostless]) ∧
    (Command.outcome (Command.sourceWorld "app") Command.hostlessArguments).exit ≠ 0 ∧
    (Command.outcome (Command.sourceWorld "app") Command.getArguments).exit = 0 ∧
    ∃ (call : Job) (ts : List Issued) (s' : SignerState),
      call.issue (Command.sourceWorld "app").now ⟨(Command.sourceWorld "app").nonces, []⟩ = .ok ts s' ∧
      Command.Prints .headers ts (Command.outcome (Command.sourceWorld "app") Command.getArguments).stdout := by
  obtain ⟨-, refused, -, commands'⟩ := token_origins
    (.bearer { BearerRequest.sample with coordinates := .hostless }) 1700000000 ⟨.constant .zero, []⟩
    (Command.sourceWorld "app") Command.hostlessArguments
  obtain ⟨tokens, -, unchecked, commands⟩ := token_origins (.wallet WalletRequest.sample) 1700000000
    ⟨.constant .zero, []⟩ (Command.sourceWorld "app") Command.getArguments
  obtain ⟨t, s', made⟩ := WalletRequest.sample_made
  have issued : (Job.wallet WalletRequest.sample).issue 1700000000 ⟨.constant .zero, []⟩ = .ok [.wallet t] s' :=
    bind_eq_ok.mpr ⟨t, s', made, pure_eq_ok.mpr ⟨rfl, rfl⟩⟩
  have complete : WalletRequest.sample.coordinates.Complete := ⟨by decide, by decide, by decide⟩
  obtain ⟨some_token, bound⟩ := tokens _ _ issued
  obtain ⟨t', s'', m, again, -, mark, uris⟩ := unchecked _ _ _ rfl made .hostless
  obtain ⟨_, out⟩ := Command.outcome_sourceWorld "app"
  have exit : (Command.outcome (Command.sourceWorld "app") Command.getArguments).exit = 0 := by rw [out]
  obtain ⟨printed, -⟩ := commands _ _ _ Command.parse_getArguments
  obtain ⟨call, ts, left, -, -, issued', prints⟩ := printed exit
  obtain ⟨-, refused'⟩ := commands' _ _ _ Command.parse_hostlessArguments
  exact ⟨refused (by decide) Coordinates.partial_hostless,
    ⟨_, _, issued, some_token, bound.mpr fun _ => complete⟩, ⟨t', s'', m, again, mark, uris⟩,
    refused' (by decide) Command.partial_hostlessOptions, exit, call, ts, left, issued', prints⟩

/-- A proof for a path without a host. -/
theorem hostless_proof : Coordinates.hostless.Partial ∧ ∃ t s' m,
    { WalletRequest.sample with coordinates := .hostless }.token 1700000000 ⟨.constant .zero, []⟩ = .ok t s' ∧
      mark? t = some m ∧ m.uris = some [⟨"POST /platform/v2/evm/accounts"⟩] := by
  obtain ⟨t, s', made⟩ := WalletRequest.sample_made
  obtain ⟨t', s'', m, again, -, mark, uris⟩ := WalletRequest.token_unchecked made .hostless
  exact ⟨Coordinates.partial_hostless, t', s'', m, again, mark, uris⟩

end RequestAuth
