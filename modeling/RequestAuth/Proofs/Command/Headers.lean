import RequestAuth.Command.Run
import RequestAuth.Proofs.Command.Arguments
import RequestAuth.Proofs.Command.Body
import RequestAuth.Proofs.Http.Session
import RequestAuth.Proofs.Http.Unlogged
import RequestAuth.Proofs.Options

/-! The command that prints headers does as the authentication of the same request does: it prints what
the other inserts, and fails where the other fails. -/

namespace RequestAuth.Command
open Signing

theorem splitOn_lines {ls : List String} (h : ∀ l ∈ ls, '\n' ∉ l.toList) :
    (String.join (ls.map line)).toList.splitOn '\n' = ls.map String.toList ++ [[]] := by
  induction ls with
  | nil => rfl
  | cons l ls ih =>
    have text : (String.join ((l :: ls).map line)).toList =
        l.toList ++ '\n' :: (String.join (ls.map line)).toList := by
      simp [line, String.toList_append]
    have plain : ∀ c ∈ l.toList, (c == '\n') = false := by
      intro c hc
      have other : c ≠ '\n' := by
        rintro rfl
        exact h l (by simp) hc
      simpa using other
    rw [text, List.splitOn_eq_splitOnP, List.splitOnP_append_cons_of_forall_mem plain _ rfl,
      ← List.splitOn_eq_splitOnP, ih fun l hl => h l (by simp [hl])]
    rfl

def cutLine? (line : List Char) : Option (String × String) :=
  match line.dropWhile (· != ':') with
  | ':' :: ' ' :: value => some (String.ofList (line.takeWhile (· != ':')), String.ofList value)
  | _ => none

theorem cutLine?_line {name : String} (value : String) (h : ':' ∉ name.toList) :
    cutLine? (name ++ ": " ++ value).toList = some (name, value) := by
  have before : ∀ c ∈ name.toList, (c != ':') = true := by
    intro c hc
    have other : c ≠ ':' := by
      rintro rfl
      exact h hc
    simpa using other
  have text : (name ++ ": " ++ value).toList = name.toList ++ ':' :: ' ' :: value.toList := by
    simp [String.toList_append]
  rw [text, cutLine?, List.dropWhile_append_of_pos before, List.takeWhile_append_of_pos before]
  simp

def printed (text : String) : HeaderFields := (text.toList.splitOn '\n').filterMap cutLine?

theorem newline_notMem_value {s : String} (h : HeaderSet.isValue s) : '\n' ∉ s.toList := by
  intro break'
  have octet : 10 ∈ Bytes.ofText s := by
    rw [Bytes.ofText_eq_ofChars]
    exact (Bytes.mem_ofChars_ascii (by decide) _).mpr break'
  exact absurd (List.all_eq_true.mp h 10 octet) (by decide)

/-- A set of headers that can be sent can be read off its lines. -/
theorem printed_headerLines {h : HeaderSet} (valid : ∀ p ∈ h.pairs, HeaderSet.isValue p.2) :
    printed (headerLines h) = h.pairs := by
  have names : ∀ p ∈ h.pairs, '\n' ∉ p.1.toList ∧ ':' ∉ p.1.toList := by
    intro p hp
    have name := HeaderSet.name_mem hp
    revert name
    generalize p.1 = name
    revert name
    decide
  have lines : h.pairs.map (fun p => line (p.1 ++ ": " ++ p.2)) =
      (h.pairs.map fun p => p.1 ++ ": " ++ p.2).map line := by
    rw [List.map_map]
    rfl
  rw [printed, headerLines, lines, splitOn_lines]
  · have cut : ((h.pairs.map fun p => p.1 ++ ": " ++ p.2).map String.toList).map cutLine? =
        h.pairs.map some := by
      rw [List.map_map, List.map_map]
      exact List.map_congr_left fun p hp => cutLine?_line p.2 (names p hp).2
    have all (l : List (List Char)) : l.filterMap cutLine? = (l.map cutLine?).filterMap id := by
      rw [List.filterMap_map]
      rfl
    rw [all, List.map_append, cut, List.filterMap_append, List.filterMap_map]
    simp [cutLine?]
  · intro l hl
    obtain ⟨p, hp, rfl⟩ := List.mem_map.mp hl
    simp [String.toList_append, (names p hp).1, newline_notMem_value (valid p hp)]

/-- One body for both: what a request carries, and the text that the command is given. -/
inductive SameBody : Body → Option String → Prop where
  | absent : SameBody .none none
  | empty : SameBody (.octets []) (some "")
  | object {text : String} {ms : Members} (read : Json.Read.parse (Bytes.ofText text) = .ok (.object ms)) :
      SameBody (.octets (Bytes.ofText text)) (some text)

theorem SameBody.members {body : Body} {text : Option String} (h : SameBody body text) :
    ∃ ms, body.members = .ok ms ∧ parseBody text = .ok ms := by
  cases h with
  | absent => exact ⟨[], rfl, rfl⟩
  | empty => exact ⟨[], rfl, rfl⟩
  | object read =>
    rename_i text ms
    have some : text ≠ "" := by
      rintro rfl
      cases read
    exact ⟨ms, (Body.members_octets (ofText_ne_nil some)).mpr read, parseBody_object read⟩

/-- The values with which the command is asked for the headers of a request. -/
structure Asks (before after : OptionValues) (config : Option String) (r : Request) (text : Option String) :
    Prop where
  config : option? .config before after = config
  logLevel : LogFilter.check ((option? .logLevel before after).getD defaultLogFilter) = .ok ()
  method : Arguments.value? .method after = some r.method
  host : Arguments.value? .host after = some r.url.hostAndPort
  path : Arguments.value? .path after = some r.url.path
  body : Arguments.value? .body after = text

def configOption (config : Option String) : OptionValues := (config.map fun c => (.config, c)).toList

def requestOptions (r : Request) (text : Option String) : OptionValues :=
  [(.method, r.method), (.host, r.url.hostAndPort), (.path, r.url.path)] ++
    (text.map fun t => (.body, t)).toList

theorem asks_requestOptions (config : Option String) (r : Request) (text : Option String) :
    Asks (configOption config) (requestOptions r text) config r text := by
  have level : LogFilter.check defaultLogFilter = .ok () := rfl
  cases config <;> cases text <;> exact ⟨rfl, level, rfl, rfl, rfl, rfl⟩

theorem parse_requestOptions {config : Option String} {r : Request} {text : Option String}
    {front back : List String} (named : config ≠ some "")
    (first : Arguments.Writes (configOption config) front)
    (second : Arguments.Writes (requestOptions r text) back) :
    Arguments.parse (front ++ "headers" :: back) =
      some (.run .headers (configOption config) (requestOptions r text)) := by
  apply Arguments.parse_writes (c := .headers) first second
  · cases config <;> simp [configOption]
  · cases text <;> simp [requestOptions, CommandName.options]
  · cases config with
    | none => exact ⟨nofun, .nil⟩
    | some c =>
      refine ⟨?_, List.pairwise_singleton ..⟩
      have accepted : c ≠ "" := fun e => named (congrArg some e)
      simpa [configOption, OptionName.accepts] using accepted
  · cases text with
    | none => exact ⟨by simp [requestOptions, OptionName.accepts], by simp [requestOptions]⟩
    | some t => exact ⟨by simp [requestOptions, OptionName.accepts], by simp [requestOptions]⟩
  · simp [CommandName.required, requestOptions, Arguments.has]

theorem outcome_run {w : World} {args : List String} {name : CommandName} {before after : OptionValues}
    (parsed : Arguments.parse args = some (.run name before after)) (keyText : KeyFault → String) :
    outcomeWith keyText w args = ended keyText (run w name before after) := by
  rw [outcomeWith, parsed]

section made
variable {w : World} {o : ClientOptions} {r r' : Request} {text config : Option String} {ms : Members}
  {before after : OptionValues} {s s' : SignerState}

theorem perform_given {α : Type} {x : Times → Signing α} (quiet : Unlogged (x w.now))
    (nonces : s.nonces = w.nonces) : perform w x = (given (x w.now s)).1 := by
  rw [quiet s ⟨w.nonces, []⟩ nonces, perform]
  cases x w.now ⟨w.nonces, []⟩ <;> rfl

theorem run_headers (ask : Asks before after config r text) (loaded : loadOptions w config = .ok o)
    (read : parseBody text = .ok ms) (nonces : s.nonces = w.nonces) :
    run w .headers before after =
      match (Request.headersRequest o r (some ms)).headers w.now s with
      | .ok set _ => .ok (headerLines set)
      | .error e _ => .error (.headers e) := by
  have request : headersRequest o after ms = Request.headersRequest o r (some ms) := by
    simp [headersRequest, Request.headersRequest, coordinates, Request.coordinates, ask.method, ask.host,
      ask.path]
  have made := perform_given (x := (Request.headersRequest o r (some ms)).headers)
    HeadersRequest.unlogged_headers nonces
  rw [run, ask.logLevel, ask.config, loaded]
  change output w o .headers after = _
  rw [output, ask.body, read]
  change (perform w (headersRequest o after ms).headers).mapError CommandFault.headers >>= _ = _
  rw [request, made]
  cases (Request.headersRequest o r (some ms)).headers w.now s <;> rfl

theorem names_pairs (set : HeaderSet) : set.pairs.map Prod.fst = ["Authorization", "Content-Type"] ++
    (if set.walletAuth.isSome then ["X-Wallet-Auth"] else []) ++ ["Correlation-Context"] := by
  cases w : set.walletAuth <;>
    simp [HeaderSet.pairs, w, HeaderSet.walletAuthName, HeaderSet.correlationContextName]

theorem outcome_authenticated {args : List String}
    (parsed : Arguments.parse args = some (.run .headers before after))
    (ask : Asks before after config r text) (loaded : loadOptions w config = .ok o)
    (body : SameBody r.body text) (nonces : s.nonces = w.nonces)
    (done : r.authenticate o w.now s = .ok r' s') :
    (outcome w args).exit = 0 ∧
      (printed (outcome w args).stdout).map Prod.fst = ["Authorization", "Content-Type"] ++
        (if r.needsProof then ["X-Wallet-Auth"] else []) ++ ["Correlation-Context"] ∧
      r' = { r with headers := (Request.insertFields r.headers
        ((printed (outcome w args).stdout).map fun p => (asciiLower p.1, p.2))) } ∧
      ∀ p ∈ printed (outcome w args).stdout, r'.headers.values (asciiLower p.1) = [p.2] := by
  obtain ⟨ms, read, given⟩ := body.members
  obtain ⟨bound, set, fields, t, read', made, valid, -, rfl⟩ := Request.authenticate_eq_ok.mp done
  -- The request without a proof binds no body and the command always reads it: the headers are the same.
  rw [Request.headers_boundBody read' read] at made
  have ran := run_headers ask loaded given nonces
  rw [made] at ran
  have out : outcome w args = ⟨0, headerLines set, ""⟩ := by
    rw [outcome, outcome_run parsed, ran]
    rfl
  have proof : set.walletAuth.isSome = r.needsProof := HeadersRequest.isSome_walletAuth made
  have inserted := HeaderSet.fields_inserted valid
  obtain ⟨legal, rfl⟩ := HeaderSet.fields_eq_ok.mp valid
  rw [out, printed_headerLines legal]
  refine ⟨rfl, by rw [names_pairs, proof], rfl, ?_⟩
  intro p hp
  have field : (asciiLower p.1, p.2) ∈ set.inserted := inserted ▸ List.mem_map_of_mem hp
  rw [inserted]
  exact HeaderSet.values_insertFields r.headers field

theorem run_refused (ask : Asks before after config r text) (loaded : loadOptions w config = .ok o)
    (body : SameBody r.body text) (nonces : s.nonces = w.nonces) {e : AuthError}
    (refused : r.authenticate o w.now s = .error e s') (other : e ≠ .headerValue) :
    run w .headers before after = .error (.headers e) := by
  obtain ⟨ms, read, given⟩ := body.members
  obtain ⟨_, refused⟩ := Request.authenticate_error refused
  obtain ⟨-, unread | ⟨bound, read', unmade | ⟨set, -, invalid⟩⟩⟩ := Request.edit_error refused
  · obtain ⟨-, f, unread, -⟩ := Request.boundBody_error unread
    cases read.symm.trans unread
  · rw [Request.headers_boundBody read' read] at unmade
    have ran := run_headers ask loaded given nonces
    rwa [unmade] at ran
  · exact absurd (HeaderSet.fields_eq_error invalid) other

end made

/-- The command and the authentication of a request agree. The options can be any that are valid, the
arguments any that ask for this request, with each value attached to its option or apart from it. Where a
request is authenticated, the command prints what is inserted, and where it is refused, the command fails
with the same error, but for headers that can be printed and not sent. -/
theorem headers_agree {w : World} {o : ClientOptions} {r : Request} {text : Option String} {s : SignerState}
    (valid : o.validate = .ok ()) (body : SameBody r.body text) (nonces : s.nonces = w.nonces) :
    (w.environment = o.toEnvironment → loadOptions w none = .ok o) ∧
    (∀ config front back, config ≠ some "" → Arguments.Writes (configOption config) front →
      Arguments.Writes (requestOptions r text) back →
        ∃ before after, Arguments.parse (front ++ "headers" :: back) = some (.run .headers before after) ∧
          Asks before after config r text) ∧
    ∀ args before after config, Arguments.parse args = some (.run .headers before after) →
      Asks before after config r text → loadOptions w config = .ok o →
        (∀ r' s', r.authenticate o w.now s = .ok r' s' →
          (outcome w args).exit = 0 ∧
          (printed (outcome w args).stdout).map Prod.fst = ["Authorization", "Content-Type"] ++
            (if r.needsProof then ["X-Wallet-Auth"] else []) ++ ["Correlation-Context"] ∧
          r' = { r with headers := (Request.insertFields r.headers
            ((printed (outcome w args).stdout).map fun p => (asciiLower p.1, p.2))) } ∧
          ∀ p ∈ printed (outcome w args).stdout, r'.headers.values (asciiLower p.1) = [p.2]) ∧
        ∀ e s', r.authenticate o w.now s = .error e s' → e ≠ .headerValue →
          run w .headers before after = .error (.headers e) ∧
            ∀ keyText, (outcomeWith keyText w args).exit = 1 ∧ (outcomeWith keyText w args).stdout = "" ∧
              (CommandFault.headers e).report keyText = ("generate auth headers", [e.text keyText]) := by
  refine ⟨?_, ?_, ?_⟩
  · intro set
    rw [loadOptions, set, ClientOptions.ofEnvironment_toEnvironment valid]
    rfl
  · intro config front back named first second
    exact ⟨_, _, parse_requestOptions named first second, asks_requestOptions config r text⟩
  · intro args before after config parsed ask loaded
    refine ⟨fun r' s' => outcome_authenticated parsed ask loaded body nonces, ?_⟩
    intro e s' refused other
    have failed := run_refused ask loaded body nonces refused other
    refine ⟨failed, fun keyText => ?_⟩
    rw [outcome_run parsed, failed]
    exact ⟨rfl, rfl, rfl⟩

def sampleWorld : World where
  environment := Request.sampleOptions.toEnvironment
  readFile := fun path => .error path
  now := 1700000000
  nonces := .constant .zero

theorem headers_agree_sample : Request.sampleOptions.validate = .ok () ∧
    ∃ r' s' args, args = ["headers", "--method=post", "--host=api.cdp.coinbase.com",
        "--path=/platform/v2/evm/accounts", "--body=\x7b\x7d"] ∧
      (Request.sample "post" (.octets (Bytes.ofText "\x7b\x7d"))).authenticate Request.sampleOptions
        sampleWorld.now ⟨sampleWorld.nonces, []⟩ = .ok r' s' ∧
      (outcome sampleWorld args).exit = 0 ∧
      (printed (outcome sampleWorld args).stdout).map Prod.fst =
        ["Authorization", "Content-Type", "X-Wallet-Auth", "Correlation-Context"] ∧
      ∀ p ∈ printed (outcome sampleWorld args).stdout, r'.headers.values (asciiLower p.1) = [p.2] := by
  have valid := ClientOptions.validate_default (o := Request.sampleOptions) (by decide) (by decide) rfl
  let r := Request.sample "post" (.octets (Bytes.ofText "\x7b\x7d"))
  have empty : Json.Read.parse (Bytes.ofText "\x7b\x7d") = .ok (.object []) := rfl
  have body : SameBody r.body (some "\x7b\x7d") := .object empty
  obtain ⟨ms, read, -⟩ := body.members
  have need : r.needsProof := Request.sample_needsProof _
  obtain ⟨r', s', done⟩ := Request.sample_done need read 1700000000
  obtain ⟨loads, asks, agree⟩ :=
    headers_agree (w := sampleWorld) (s := ⟨.constant .zero, []⟩) valid body rfl
  obtain ⟨before, after, parsed, ask⟩ := asks none [] _ nofun .nil (Arguments.writes_attach _)
  obtain ⟨exit, names, -, values⟩ := (agree _ _ _ _ parsed ask (loads rfl)).1 r' s' done
  rw [need] at names
  exact ⟨valid, r', s', _, rfl, done, exit, names, values⟩

end RequestAuth.Command
