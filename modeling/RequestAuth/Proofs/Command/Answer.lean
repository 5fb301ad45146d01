import RequestAuth.Proofs.Command.Body
import RequestAuth.Proofs.Command.Lines

/-! What a command answers, told by the options that it was given. Each command stands for one call, and
prints what the call gives or nothing at all. -/

namespace RequestAuth.Command
open Arguments

/-- The text given with an option, which is empty where the option is left out. -/
inductive TextOf (o : OptionName) (vs : OptionValues) : String → Prop where
  | given {t : String} (given : (o, t) ∈ vs) : TextOf o vs t
  | omitted (omitted : ∀ t, (o, t) ∉ vs) : TextOf o vs ""

structure CoordinatesOf (vs : OptionValues) (c : Coordinates) : Prop where
  method : ∃ t, TextOf .method vs t ∧ c.method = asciiUpper t
  host : TextOf .host vs c.host
  path : TextOf .path vs c.path

/-- The lifetime that is asked for. The one that is given counts even if it is zero, and without any zero
selects the default. -/
inductive LifetimeOf (vs : OptionValues) (o : ClientOptions) : UInt64 → Prop where
  | given {t : String} {n : UInt64} (given : (.expiresIn, t) ∈ vs)
      (count : Environment.countText? t = some n) : LifetimeOf vs o n
  | configured {n : UInt64} (omitted : ∀ t, (.expiresIn, t) ∉ vs) (configured : o.expiresIn = some n) :
      LifetimeOf vs o n
  | default (omitted : ∀ t, (.expiresIn, t) ∉ vs) (unset : o.expiresIn = none) : LifetimeOf vs o 0

inductive BodyOf (vs : OptionValues) : Members → Prop where
  | omitted (omitted : ∀ t, (.body, t) ∉ vs) : BodyOf vs []
  | blank {t : String} (given : (.body, t) ∈ vs) (blank : trimBlank t = "") : BodyOf vs []
  | object {t : String} {ms : Members} (given : (.body, t) ∈ vs)
      (read : Json.Read.parse (Bytes.ofText t) = .ok (.object ms)) : BodyOf vs ms

inductive FileOf (before after : OptionValues) : String → Prop where
  | after {path : String} (named : (.config, path) ∈ after) : FileOf before after path
  | before {path : String} (named : (.config, path) ∈ before) (other : ∀ p, (.config, p) ∉ after) :
      FileOf before after path

/-- The options come from the file that is named, and only without one from the environment. -/
inductive Loads (w : World) (before after : OptionValues) : ClientOptions → Prop where
  | environment {o : ClientOptions} (unnamed : ∀ path, ¬ FileOf before after path)
      (set : ClientOptions.ofEnvironment w.environment = .ok o) : Loads w before after o
  | file {path text : String} {o : ClientOptions} (named : FileOf before after path)
      (content : w.readFile path = .ok text) (options : ClientOptions.ofYaml text = .ok o)
      (valid : o.validate = .ok ()) : Loads w before after o

/-- The answer of a command whose steps all succeed. -/
inductive Answers (w : World) (before after : OptionValues) : CommandName → String → Prop where
  | jwt {o : ClientOptions} {c : Coordinates} {n : UInt64} {token : String} {s : SignerState}
      (loaded : Loads w before after o) (coordinates : CoordinatesOf after c) (lifetime : LifetimeOf after o n)
      (made : BearerRequest.token ⟨o.keyId, o.keySecret, c, n, values .audience after⟩ w.now.bearer
        ⟨w.nonces, []⟩ = .ok token s) :
      Answers w before after .jwt (token ++ "\n")
  | walletJwt {o : ClientOptions} {secret : String} {c : Coordinates} {ms : Members} {token : String}
      {s : SignerState} (loaded : Loads w before after o) (configured : o.walletSecret = some secret)
      (coordinates : CoordinatesOf after c) (body : BodyOf after ms)
      (made : WalletRequest.token ⟨secret, c, ms⟩ w.now.wallet ⟨w.nonces, []⟩ = .ok token s) :
      Answers w before after .walletJwt (token ++ "\n")
  | headers {o : ClientOptions} {c : Coordinates} {ms : Members} {set : HeaderSet} {s : SignerState}
      (loaded : Loads w before after o) (coordinates : CoordinatesOf after c) (body : BodyOf after ms)
      (made : HeadersRequest.headers ⟨o.keyId, o.keySecret, c, some ms, o.walletSecret, o.source,
        o.sourceVersion, o.expiresIn, []⟩ w.now ⟨w.nonces, []⟩ = .ok set s) :
      Answers w before after .headers (String.join (set.pairs.map fun p => p.1 ++ ": " ++ p.2 ++ "\n"))

section lookup
variable {vs before after : OptionValues} {o : OptionName}

theorem value?_eq_none : value? o vs = none ↔ ∀ t, (o, t) ∉ vs := by
  have filtered : value? o vs = none ↔ ∀ p ∈ vs, p.1 ≠ o := by
    simp [value?, values]
  rw [filtered]
  constructor
  · intro h t given
    exact h _ given rfl
  · intro h p given same
    subst same
    exact h p.2 given

theorem mem_of_value? {t : String} (h : value? o vs = some t) : (o, t) ∈ vs := by
  have value : t ∈ values o vs := List.mem_of_head? h
  obtain ⟨p, given, rfl⟩ := List.mem_map.mp value
  obtain ⟨given, same⟩ := List.mem_filter.mp given
  have same : p.1 = o := by simpa using same
  exact same ▸ given

theorem value?_cons (p : OptionName × String) (vs : OptionValues) :
    value? o (p :: vs) = if p.1 = o then some p.2 else value? o vs := by
  by_cases same : p.1 = o <;> simp [value?, values, same]

theorem value?_of_mem {t : String} (once : vs.Pairwise fun p q => p.1 = q.1 → p.1.isRepeatable)
    (single : ¬ o.isRepeatable) (given : (o, t) ∈ vs) : value? o vs = some t := by
  induction vs with
  | nil => cases given
  | cons p vs ih =>
    obtain ⟨first, later⟩ := List.pairwise_cons.mp once
    rw [value?_cons]
    cases List.mem_cons.mp given with
    | inl e =>
      cases e
      rw [if_pos rfl]
    | inr given =>
      have other : p.1 ≠ o := by
        intro same
        have again := first _ given same
        rw [same] at again
        exact single again
      rw [if_neg other, ih later given]

theorem value?_eq_some (once : Together vs) (single : ¬ o.isRepeatable) {t : String} :
    value? o vs = some t ↔ (o, t) ∈ vs :=
  ⟨mem_of_value?, value?_of_mem once.once single⟩

theorem textOf_iff (once : Together vs) (single : ¬ o.isRepeatable) {t : String} :
    TextOf o vs t ↔ (value? o vs).getD "" = t := by
  constructor
  · intro h
    cases h with
    | given given => rw [(value?_eq_some once single).mpr given, Option.getD_some]
    | omitted omitted => rw [value?_eq_none.mpr omitted, Option.getD_none]
  · rintro rfl
    cases found : value? o vs with
    | none => exact .omitted (value?_eq_none.mp found)
    | some t => exact .given (mem_of_value? found)

theorem coordinatesOf_iff (once : Together vs) {c : Coordinates} :
    CoordinatesOf vs c ↔ c = coordinates vs := by
  constructor
  · intro h
    obtain ⟨⟨m, method, upper⟩, host, path⟩ := h
    obtain ⟨_, _, _⟩ := c
    have method := (textOf_iff once (by decide)).mp method
    have host := (textOf_iff once (by decide)).mp host
    have path := (textOf_iff once (by decide)).mp path
    simp only at upper host path
    rw [coordinates, method, host, path, upper]
  · rintro rfl
    exact ⟨⟨_, (textOf_iff once (by decide)).mpr rfl, rfl⟩, (textOf_iff once (by decide)).mpr rfl,
      (textOf_iff once (by decide)).mpr rfl⟩

theorem lifetimeOf_iff (once : Together vs) {o : ClientOptions} {n : UInt64} :
    LifetimeOf vs o n ↔ n = (bearerRequest o vs).expiresIn := by
  have single : ¬ OptionName.expiresIn.isRepeatable := by decide
  have asked : (bearerRequest o vs).expiresIn =
    (((value? .expiresIn vs).bind Environment.countText?).or o.expiresIn).getD 0 := rfl
  rw [asked]
  constructor
  · intro h
    cases h with
    | given given count => rw [(value?_eq_some once single).mpr given, Option.bind_some, count]; rfl
    | configured omitted configured => rw [value?_eq_none.mpr omitted, configured]; rfl
    | default omitted unset => rw [value?_eq_none.mpr omitted, unset]; rfl
  · rintro rfl
    cases found : value? .expiresIn vs with
    | none =>
      have omitted := value?_eq_none.mp found
      cases unset : o.expiresIn with
      | none => exact .default omitted unset
      | some n => exact .configured omitted unset
    | some t =>
      have given := mem_of_value? found
      have number : (Environment.countText? t).isSome := once.accepted _ given
      obtain ⟨n, count⟩ := Option.isSome_iff_exists.mp number
      rw [Option.bind_some, count]
      exact .given given count

theorem bodyOf_iff (once : Together vs) {ms : Members} :
    BodyOf vs ms ↔ parseBody (value? .body vs) = .ok ms := by
  have single : ¬ OptionName.body.isRepeatable := by decide
  constructor
  · intro h
    cases h with
    | omitted omitted => rw [value?_eq_none.mpr omitted, parseBody]
    | blank given blank =>
      rw [(value?_eq_some once single).mpr given]
      exact parseBody_blank blank
    | object given read =>
      rw [(value?_eq_some once single).mpr given]
      exact parseBody_object read
  · intro h
    cases found : value? .body vs with
    | none =>
      rw [found] at h
      cases h
      exact .omitted (value?_eq_none.mp found)
    | some t =>
      have given := mem_of_value? found
      rw [found] at h
      by_cases blank : trimBlank t = ""
      · rw [parseBody_blank blank] at h
        cases h
        exact .blank given blank
      · exact .object given ((parseBody_eq_ok blank).mp h)

theorem option?_of_mem {t : String} (given : (o, t) ∈ before ++ after) :
    ∃ u, option? o before after = some u := by
  cases found : option? o before after with
  | some u => exact ⟨u, rfl⟩
  | none =>
    rw [option?, Option.or_eq_none_iff, value?_eq_none, value?_eq_none] at found
    obtain ⟨later, earlier⟩ := found
    cases List.mem_append.mp given with
    | inl first => exact absurd first (earlier t)
    | inr second => exact absurd second (later t)

theorem fileOf_iff (earlier : Together before) (later : Together after) {path : String} :
    FileOf before after path ↔ option? .config before after = some path := by
  have single : ¬ OptionName.config.isRepeatable := by decide
  rw [option?]
  constructor
  · intro h
    cases h with
    | after named => rw [(value?_eq_some later single).mpr named, Option.some_or]
    | before named other =>
      rw [value?_eq_none.mpr other, Option.none_or, (value?_eq_some earlier single).mpr named]
  · intro h
    cases found : value? .config after with
    | some p =>
      rw [found, Option.some_or] at h
      cases h
      exact .after (mem_of_value? found)
    | none =>
      rw [found, Option.none_or] at h
      exact .before (mem_of_value? h) (value?_eq_none.mp found)

theorem loads_iff (earlier : Together before) (later : Together after) {w : World} {o : ClientOptions} :
    Loads w before after o ↔ loadOptions w (option? .config before after) = .ok o := by
  constructor
  · intro h
    cases h with
    | environment unnamed set =>
      cases found : option? .config before after with
      | none => rw [loadOptions, set]; rfl
      | some path => exact absurd ((fileOf_iff earlier later).mpr found) (unnamed path)
    | file named content options valid =>
      rw [(fileOf_iff earlier later).mp named]
      exact except_bind_eq_ok.mpr ⟨_, mapError_eq_ok.mpr content, except_bind_eq_ok.mpr ⟨_,
        mapError_eq_ok.mpr options, except_bind_eq_ok.mpr ⟨_, mapError_eq_ok.mpr valid, rfl⟩⟩⟩
  · intro h
    cases found : option? .config before after with
    | none =>
      rw [found, loadOptions, mapError_eq_ok] at h
      refine .environment ?_ h
      intro path named
      rw [fileOf_iff earlier later, found] at named
      cases named
    | some path =>
      rw [found] at h
      obtain ⟨text, content, h⟩ := except_bind_eq_ok.mp h
      obtain ⟨o, options, h⟩ := except_bind_eq_ok.mp h
      obtain ⟨_, valid, h⟩ := except_bind_eq_ok.mp h
      cases h
      exact .file ((fileOf_iff earlier later).mpr found) (mapError_eq_ok.mp content)
        (mapError_eq_ok.mp options) (mapError_eq_ok.mp valid)

end lookup

section answer
variable {w : World} {args : List String} {name : CommandName} {before after : OptionValues} {text : String}

theorem answers_iff (line : CommandLine name before after args) :
    Answers w before after name text ↔
      ∃ o, loadOptions w (option? .config before after) = .ok o ∧ output w o name after = .ok text := by
  have loads {o : ClientOptions} :
      Loads w before after o ↔ loadOptions w (option? .config before after) = .ok o :=
    loads_iff line.beforeOnce line.afterOnce
  have body {ms : Members} : BodyOf after ms ↔ parseBody (value? .body after) = .ok ms :=
    bodyOf_iff line.afterOnce
  constructor
  · intro h
    cases h with
    | jwt loaded coordinates lifetime made =>
      cases (coordinatesOf_iff line.afterOnce).mp coordinates
      cases (lifetimeOf_iff line.afterOnce).mp lifetime
      refine ⟨_, loads.mp loaded, except_bind_eq_ok.mpr ⟨_, mapError_eq_ok.mpr ?_, rfl⟩⟩
      exact perform_eq_ok.mpr ⟨_, made⟩
    | walletJwt loaded configured coordinates given made =>
      cases (coordinatesOf_iff line.afterOnce).mp coordinates
      refine ⟨_, loads.mp loaded, ?_⟩
      rw [output, configured]
      refine except_bind_eq_ok.mpr ⟨_, body.mp given, except_bind_eq_ok.mpr ⟨_, ?_, rfl⟩⟩
      exact mapError_eq_ok.mpr (perform_eq_ok.mpr ⟨_, made⟩)
    | headers loaded coordinates given made =>
      cases (coordinatesOf_iff line.afterOnce).mp coordinates
      refine ⟨_, loads.mp loaded, except_bind_eq_ok.mpr ⟨_, body.mp given, except_bind_eq_ok.mpr ⟨_, ?_, rfl⟩⟩⟩
      exact mapError_eq_ok.mpr (perform_eq_ok.mpr ⟨_, made⟩)
  · intro h
    obtain ⟨o, loaded, h⟩ := h
    have loaded := loads.mpr loaded
    have coordinates := (coordinatesOf_iff line.afterOnce).mpr rfl
    cases name with
    | jwt =>
      obtain ⟨token, made, e⟩ := except_bind_eq_ok.mp h
      obtain ⟨s, made⟩ := perform_eq_ok.mp (mapError_eq_ok.mp made)
      cases e
      exact .jwt loaded coordinates ((lifetimeOf_iff line.afterOnce).mpr rfl) made
    | walletJwt =>
      cases configured : o.walletSecret with
      | none =>
        rw [output, configured] at h
        cases h
      | some secret =>
        rw [output, configured] at h
        obtain ⟨ms, given, h⟩ := except_bind_eq_ok.mp h
        obtain ⟨token, made, e⟩ := except_bind_eq_ok.mp h
        obtain ⟨s, made⟩ := perform_eq_ok.mp (mapError_eq_ok.mp made)
        cases e
        exact .walletJwt loaded configured coordinates (body.mpr given) made
    | headers =>
      obtain ⟨ms, given, h⟩ := except_bind_eq_ok.mp h
      obtain ⟨set, made, e⟩ := except_bind_eq_ok.mp h
      obtain ⟨s, made⟩ := perform_eq_ok.mp (mapError_eq_ok.mp made)
      cases e
      exact .headers loaded coordinates (body.mpr given) made

theorem run_eq_ok (line : CommandLine name before after args) :
    run w name before after = .ok text ↔
      LogFilter.check ((option? .logLevel before after).getD defaultLogFilter) = .ok () ∧
        Answers w before after name text := by
  rw [answers_iff line, run, except_bind_eq_ok]
  simp only [mapError_eq_ok, except_bind_eq_ok]
  constructor
  · intro h
    obtain ⟨⟨⟩, level, made⟩ := h
    exact ⟨level, made⟩
  · intro h
    obtain ⟨level, made⟩ := h
    exact ⟨(), level, made⟩

theorem outcome_of_run (parsed : parse args = some (.run name before after)) {text : String}
    (ran : run w name before after = .ok text) : outcome w args = ⟨0, text, ""⟩ := by
  rw [outcome, outcome_run parsed, ran]
  rfl

theorem output_environment (vars : Environment.Variables) (o : ClientOptions) :
    output { w with environment := vars } o name after = output w o name after := by
  cases name <;> rfl

/-- A command that is understood and told what to log ends well exactly where options and body can be read
and its one call succeeds. Then it prints the result of the call, and otherwise nothing. With a file to
read options from it does not look at the environment. -/
theorem outcome_answers (parsed : parse args = some (.run name before after))
    (level : LogFilter.check ((option? .logLevel before after).getD defaultLogFilter) = .ok ()) :
    CommandLine name before after args ∧
      ((outcome w args).exit = 0 ↔ ∃ text, Answers w before after name text) ∧
      (∀ text, Answers w before after name text →
        (outcome w args).exit = 0 ∧ (outcome w args).stdout = text) ∧
      ((outcome w args).exit ≠ 0 → (outcome w args).exit = 1 ∧ (outcome w args).stdout = "") ∧
      ∀ path, (.config, path) ∈ before ++ after → ∀ vars,
        (outcome { w with environment := vars } args).exit = (outcome w args).exit ∧
          (outcome { w with environment := vars } args).stdout = (outcome w args).stdout := by
  have line := parse_eq_run.mp parsed
  have answers {text : String} : Answers w before after name text ↔ run w name before after = .ok text := by
    rw [run_eq_ok line, and_iff_right level]
  refine ⟨line, ?_, ?_, ?_, ?_⟩
  · constructor
    · intro done
      obtain ⟨text, ran, -⟩ := outcome_exit parsed done
      exact ⟨text, answers.mpr ran⟩
    · intro h
      obtain ⟨text, answer⟩ := h
      rw [outcome_of_run parsed (answers.mp answer)]
  · intro text answer
    rw [outcome_of_run parsed (answers.mp answer)]
    exact ⟨rfl, rfl⟩
  · intro failed
    cases ran : run w name before after with
    | ok text => exact absurd (congrArg Outcome.exit (outcome_of_run parsed ran)) failed
    | error f =>
      rw [outcome, outcome_run parsed, ran]
      exact ⟨rfl, rfl⟩
  · intro path named vars
    obtain ⟨p, file⟩ := option?_of_mem named
    have same : run { w with environment := vars } name before after = run w name before after := by
      rw [run, run, file]
      exact congrArg _ (funext fun _ => congrArg _ (funext fun o => output_environment vars o))
    rw [outcome, outcome, outcome_run parsed, outcome_run parsed, same]
    exact ⟨rfl, rfl⟩

def fileOptions : OptionValues := [(.config, "cdp.yaml"), (.expiresIn, "0")]

def fileArguments : List String := ["jwt", "--config=cdp.yaml", "--expires-in=0"]

theorem parse_fileArguments : parse fileArguments = some (.run .jwt [] fileOptions) :=
  parse_writes (c := .jwt) .nil (writes_attach fileOptions) nofun (by decide) ⟨nofun, .nil⟩
    ⟨by decide, by decide⟩ nofun

theorem outcome_answers_sample :
    parse getArguments = some (.run .headers [] (requestOptions sampleGet none)) ∧
      (outcome (sourceWorld "app") getArguments).exit = 0 ∧
      Answers (sourceWorld "app") [] (requestOptions sampleGet none) .headers
        (outcome (sourceWorld "app") getArguments).stdout ∧
      parse fileArguments = some (.run .jwt [] fileOptions) ∧ (.config, "cdp.yaml") ∈ [] ++ fileOptions ∧
      ∀ vars, (outcome { sampleWorld with environment := vars } fileArguments).exit =
        (outcome sampleWorld fileArguments).exit := by
  obtain ⟨_, out⟩ := outcome_sourceWorld "app"
  have exit : (outcome (sourceWorld "app") getArguments).exit = 0 := by rw [out]
  obtain ⟨-, done, prints, -⟩ := outcome_answers (w := sourceWorld "app") parse_getArguments rfl
  obtain ⟨text, answer⟩ := done.mp exit
  obtain ⟨-, stdout⟩ := prints text answer
  have named : (.config, "cdp.yaml") ∈ [] ++ fileOptions := List.mem_cons_self
  obtain ⟨-, -, -, -, environment⟩ := outcome_answers (w := sampleWorld) parse_fileArguments rfl
  exact ⟨parse_getArguments, exit, stdout ▸ answer, parse_fileArguments, named,
    fun vars => (environment _ named vars).1⟩

end answer
end RequestAuth.Command
