import RequestAuth.Proofs.Command.Headers
import RequestAuth.Proofs.Http.Sendable

/-! The lines that the command prints for the headers of a request. Tokens have no line breaks, so what the
key, the host, the path and the body are does not count; a source that breaks a line adds one. -/

namespace RequestAuth

def breaks (s : String) : Nat := s.toList.count '\n'

theorem breaks_append (s t : String) : breaks (s ++ t) = breaks s + breaks t := by
  rw [breaks, String.toList_append, List.count_append]
  rfl

theorem breaks_eq_zero {s : String} : breaks s = 0 ↔ '\n' ∉ s.toList := List.count_eq_zero

theorem length_splitOn (c : Char) (cs : List Char) : (cs.splitOn c).length = cs.count c + 1 := by
  induction cs with
  | nil => rfl
  | cons d cs ih =>
    rw [List.splitOn_cons_eq_if_modifyHead, List.count_cons]
    split
    · rw [List.length_cons, ih]
    · rw [List.length_modifyHead, ih]

theorem breaks_correlationContext (source sourceVersion : Option String) :
    breaks (correlationContext source sourceVersion) =
      breaks (source.getD defaultSource) + breaks (sourceVersion.getD "") := by
  have front : breaks contextFront = 0 := by decide
  have middle : breaks ",source_version=" = 0 := by decide
  have empty : breaks "" = 0 := by decide
  cases sourceVersion with
  | none => rw [correlationContext_none, breaks_append, front, Nat.zero_add, Option.getD_none, empty, Nat.add_zero]
  | some v =>
    rw [correlationContext_some, breaks_append, breaks_append, breaks_append, front, middle, Nat.zero_add,
      Nat.zero_add, Option.getD_some]

namespace Command

theorem breaks_lines (ls : List String) :
    breaks (String.join (ls.map line)) = ls.length + breaks (String.join ls) := by
  induction ls with
  | nil => rfl
  | cons l ls ih =>
    have one : breaks "\n" = 1 := by decide
    rw [List.map_cons, String.join_cons, breaks_append, line, breaks_append, one, ih, List.length_cons,
      String.join_cons, breaks_append]
    omega

theorem breaks_le_join {l : String} {ls : List String} (h : l ∈ ls) : breaks l ≤ breaks (String.join ls) := by
  induction ls with
  | nil => cases h
  | cons m ls ih =>
    rw [String.join_cons, breaks_append]
    cases List.mem_cons.mp h with
    | inl first =>
      rw [first]
      omega
    | inr later =>
      have := ih later
      omega

/-- Lines are read back exactly if none of them is broken. -/
theorem splitOn_lines_iff (ls : List String) :
    (String.join (ls.map line)).toList.splitOn '\n' = ls.map String.toList ++ [[]] ↔
      breaks (String.join ls) = 0 := by
  constructor
  · intro same
    have lengths := congrArg List.length same
    rw [length_splitOn, List.length_append, List.length_map, List.length_singleton] at lengths
    have lines : (String.join (ls.map line)).toList.count '\n' = _ := breaks_lines ls
    omega
  · intro whole
    apply splitOn_lines
    intro l hl
    exact breaks_eq_zero.mp (Nat.le_zero.mp (whole ▸ breaks_le_join hl))

def headerTexts (h : HeaderSet) : List String := h.pairs.map fun p => p.1 ++ ": " ++ p.2

theorem headerLines_texts (h : HeaderSet) : headerLines h = String.join ((headerTexts h).map line) := by
  rw [headerLines, headerTexts, List.map_map]
  rfl

theorem breaks_isValue {s : String} (h : HeaderSet.isValue s) : breaks s = 0 :=
  breaks_eq_zero.mpr (newline_notMem_value h)

theorem breaks_text {set : HeaderSet} {p : String × String} (h : p ∈ set.pairs) :
    breaks (p.1 ++ ": " ++ p.2) = breaks p.2 := by
  have whole : ∀ name ∈ ["Authorization", "Content-Type", HeaderSet.walletAuthName,
      HeaderSet.correlationContextName], breaks name = 0 := by decide
  have colon : breaks ": " = 0 := by decide
  rw [breaks_append, breaks_append, whole _ (HeaderSet.name_mem h), colon]
  simp

theorem breaks_join {α : Type} {f g : α → String} {xs : List α} (h : ∀ x ∈ xs, breaks (f x) = breaks (g x)) :
    breaks (String.join (xs.map f)) = breaks (String.join (xs.map g)) := by
  induction xs with
  | nil => rfl
  | cons x xs ih =>
    rw [List.map_cons, List.map_cons, String.join_cons, String.join_cons, breaks_append, breaks_append,
      h x (by simp), ih fun y hy => h y (by simp [hy])]

theorem breaks_headerTexts {r : HeadersRequest} {now : Times} {s s' : SignerState} {set : HeaderSet}
    (made : r.headers now s = .ok set s') : breaks (String.join (headerTexts set)) =
      breaks (r.source.getD defaultSource) + breaks (r.sourceVersion.getD "") := by
  obtain ⟨authorization, contentType, proof, context⟩ := HeadersRequest.isValue_headers made
  have values := breaks_join fun p (hp : p ∈ set.pairs) => breaks_text hp
  rw [headerTexts, values, ← breaks_correlationContext, ← context]
  cases w : set.walletAuth with
  | none =>
    simp [HeaderSet.pairs, w, breaks_append, breaks_isValue authorization, breaks_isValue contentType]
  | some p =>
    simp [HeaderSet.pairs, w, breaks_append, breaks_isValue authorization, breaks_isValue contentType,
      breaks_isValue (proof p w)]

theorem perform_eq_ok {α : Type} {w : World} {x : Times → Signing α} {a : α} :
    perform w x = .ok a ↔ ∃ s, x w.now ⟨w.nonces, []⟩ = .ok a s := by
  rw [perform]
  cases x w.now ⟨w.nonces, []⟩ with
  | ok b s =>
    constructor
    · intro h
      cases h
      exact ⟨s, rfl⟩
    · intro h
      obtain ⟨_, made⟩ := h
      cases made
      rfl
  | error e s =>
    constructor
    · intro h
      cases h
    · intro h
      obtain ⟨_, made⟩ := h
      cases made

/-- What a decoder says of a key only shows in the report. -/
theorem outcome_keyText (w : World) (args : List String) (keyText : KeyFault → String) :
    (outcomeWith keyText w args).exit = (outcome w args).exit ∧
      (outcomeWith keyText w args).stdout = (outcome w args).stdout := by
  unfold outcome outcomeWith
  cases Arguments.parse args with
  | none => exact ⟨rfl, rfl⟩
  | some c =>
    cases c with
    | help | version => exact ⟨rfl, rfl⟩
    | run name before after =>
      dsimp only
      cases run w name before after <;> exact ⟨rfl, rfl⟩

theorem outcome_exit {w : World} {args : List String} {name : CommandName} {before after : OptionValues}
    (parsed : Arguments.parse args = some (.run name before after)) (done : (outcome w args).exit = 0) :
    ∃ text, run w name before after = .ok text ∧ outcome w args = ⟨0, text, ""⟩ := by
  cases ran : run w name before after with
  | ok text => exact ⟨text, rfl, by rw [outcome, outcome_run parsed, ran]; rfl⟩
  | error f =>
    rw [outcome, outcome_run parsed, ran] at done
    cases done

theorem run_headers_eq_ok {w : World} {before after : OptionValues} {text : String}
    (h : run w .headers before after = .ok text) :
    ∃ o body set, loadOptions w (option? .config before after) = .ok o ∧
      parseBody (Arguments.value? .body after) = .ok body ∧
      perform w (headersRequest o after body).headers = .ok set ∧ text = headerLines set := by
  obtain ⟨-, -, h⟩ := except_bind_eq_ok.mp h
  obtain ⟨o, loaded, h⟩ := except_bind_eq_ok.mp h
  obtain ⟨body, read, h⟩ := except_bind_eq_ok.mp h
  obtain ⟨set, made, h⟩ := except_bind_eq_ok.mp h
  exact ⟨o, body, set, loaded, read, mapError_eq_ok.mp made, (Except.ok.inj h).symm⟩

/-- What the command prints has a line for each header and one for each break in the source and its version.
So the lines are those of the headers exactly if the source and its version are not broken; the key, the
host, the path and the body do not count. -/
theorem headers_lines {w : World} {args : List String} {before after : OptionValues}
    (parsed : Arguments.parse args = some (.run .headers before after)) (done : (outcome w args).exit = 0) :
    ∃ o body set, loadOptions w (option? .config before after) = .ok o ∧
      parseBody (Arguments.value? .body after) = .ok body ∧
      perform w (headersRequest o after body).headers = .ok set ∧
      set.pairs.map Prod.fst = ["Authorization", "Content-Type"] ++
        (if requiresWalletProof (coordinates after).method (coordinates after).path then ["X-Wallet-Auth"]
          else []) ++ ["Correlation-Context"] ∧
      ((outcome w args).stdout.toList.splitOn '\n').length =
        set.pairs.length + (breaks (o.source.getD defaultSource) + breaks (o.sourceVersion.getD "")) + 1 ∧
      ((outcome w args).stdout.toList.splitOn '\n' = (headerTexts set).map String.toList ++ [[]] ↔
        breaks (o.source.getD defaultSource) = 0 ∧ breaks (o.sourceVersion.getD "") = 0) := by
  obtain ⟨text, ran, out⟩ := outcome_exit parsed done
  obtain ⟨o, body, set, loaded, read, performed, rfl⟩ := run_headers_eq_ok ran
  obtain ⟨s, made⟩ := perform_eq_ok.mp performed
  have sum := breaks_headerTexts made
  have proof := HeadersRequest.isSome_walletAuth made
  refine ⟨o, body, set, loaded, read, performed, by rw [names_pairs, proof]; rfl, ?_, ?_⟩
  · have lines := breaks_lines (headerTexts set)
    have pairs : (headerTexts set).length = set.pairs.length := by rw [headerTexts, List.length_map]
    rw [sum, pairs, ← headerLines_texts] at lines
    rw [out, length_splitOn]
    exact congrArg (· + 1) lines
  · rw [out, headerLines_texts, splitOn_lines_iff, sum]
    exact Nat.add_eq_zero_iff

def sourceOptions (source : String) : ClientOptions := { Request.sampleOptions with source := some source }

def sourceWorld (source : String) : World :=
  { sampleWorld with environment := (sourceOptions source).toEnvironment }

def sampleGet : Request where
  method := "get"
  url := ⟨"https", some ⟨"", "api.example.com", none⟩, "/v1/x", none, none⟩
  headers := []
  body := .none

def getArguments : List String := ["headers", "--method=get", "--host=api.example.com", "--path=/v1/x"]

theorem parse_getArguments :
    Arguments.parse getArguments = some (.run .headers [] (requestOptions sampleGet none)) := by
  have named : none ≠ some "" := nofun
  exact parse_requestOptions named .nil (Arguments.writes_attach _)

theorem sampleGet_needsProof : ¬ sampleGet.needsProof := by
  have other : ¬ containsList accountsPart sampleGet.url.path.toList := by decide
  exact fun need => other (requiresWalletProof_iff.mp need).1

theorem sampleGet_headers (source : String) : ∃ token s',
    (Request.headersRequest (sourceOptions source) sampleGet (some [])).headers 1700000000
      ⟨.constant .zero, []⟩ = .ok ⟨"Bearer " ++ token, HeaderSet.jsonType, none,
        correlationContext (some source) none⟩ s' := by
  let r := Request.headersRequest (sourceOptions source) sampleGet (some [])
  have keyId : BearerRequest.sample.keyId ≠ "" := by decide
  have keySecret : BearerRequest.sample.keySecret ≠ "" := by decide
  have method : asciiUpper "get" ≠ "" := fun e => absurd (asciiUpper_eq_empty.mp e) (by decide)
  have host : sampleGet.url.hostAndPort ≠ "" := by decide
  have path : sampleGet.url.path ≠ "" := by decide
  obtain ⟨token, t, bearer⟩ : ∃ token t, r.bearer.token 1700000000 ⟨.constant .zero, []⟩ = .ok token t :=
    ⟨_, ⟨.constant .zero, _⟩, BearerRequest.token_eq_ok.mpr ⟨keyId, keySecret, _, .zero, _,
      BearerRequest.uri_eq_ok.mpr (Or.inl ⟨method, host, path, rfl⟩), rfl, BearerRequest.sample_key,
      Token.encode_eq_ok.mpr ⟨rfl, rfl⟩, rfl⟩⟩
  have free : ¬ requiresWalletProof r.coordinates.method r.coordinates.path := sampleGet_needsProof
  have proof : r.walletToken 1700000000 t = .ok none t := by
    rw [HeadersRequest.walletToken_eq_ok, if_neg free]
    exact ⟨rfl, rfl⟩
  exact ⟨token, t, HeadersRequest.headers_eq_ok.mpr ⟨token, none, t, bearer, proof, rfl⟩⟩

theorem load_sourceWorld (source : String) :
    loadOptions (sourceWorld source) none = .ok (sourceOptions source) := by
  have keyId : Request.sampleOptions.keyId ≠ "" := by decide
  have keySecret : Request.sampleOptions.keySecret ≠ "" := by decide
  have valid : (sourceOptions source).validate = .ok () := ClientOptions.validate_default keyId keySecret rfl
  have set : (sourceWorld source).environment = (sourceOptions source).toEnvironment := rfl
  rw [loadOptions, set, ClientOptions.ofEnvironment_toEnvironment valid]
  rfl

theorem outcome_sourceWorld (source : String) : ∃ token, outcome (sourceWorld source) getArguments =
    ⟨0, headerLines ⟨"Bearer " ++ token, HeaderSet.jsonType, none,
      correlationContext (some source) none⟩, ""⟩ := by
  obtain ⟨token, s', made⟩ := sampleGet_headers source
  have read : parseBody none = .ok [] := rfl
  have ran := run_headers (w := sourceWorld source) (s := ⟨.constant .zero, []⟩)
    (asks_requestOptions none sampleGet none) (load_sourceWorld source) read rfl
  have now : (sourceWorld source).now = 1700000000 := rfl
  rw [now, made] at ran
  refine ⟨token, ?_⟩
  have before : configOption none = [] := rfl
  rw [before] at ran
  rw [outcome, outcome_run parse_getArguments, ran]
  rfl

theorem source_line {l : String} (h : '\n' ∉ l.toList) : l.toList ∈
    (outcome (sourceWorld ("app" ++ "\n" ++ l)) getArguments).stdout.toList.splitOn '\n' := by
  obtain ⟨token, out⟩ := outcome_sourceWorld ("app" ++ "\n" ++ l)
  let front := line ("Authorization" ++ ": " ++ ("Bearer " ++ token)) ++
    line ("Content-Type" ++ ": " ++ HeaderSet.jsonType) ++
    (HeaderSet.correlationContextName ++ ": " ++ (correlationContext (some "app") none))
  have context : correlationContext (some ("app" ++ "\n" ++ l)) none =
      correlationContext (some "app") none ++ "\n" ++ l := by
    simp only [correlationContext_none, Option.getD_some, String.append_assoc]
  have text : (outcome (sourceWorld ("app" ++ "\n" ++ l)) getArguments).stdout =
      front ++ "\n" ++ (l ++ "\n") := by
    rw [out, context]
    simp only [headerLines, HeaderSet.pairs, front, line, String.append_assoc, Option.map_none,
      Option.toList_none, List.append_nil, List.cons_append, List.nil_append, List.map_cons, List.map_nil,
      String.join_cons, String.join_nil, String.append_empty]
  have chars : (front ++ "\n" ++ (l ++ "\n")).toList = front.toList ++ '\n' :: (l.toList ++ ['\n']) := by
    simp [String.toList_append]
  have last : (l.toList ++ ['\n']).splitOn '\n' = [l.toList, []] := by
    rw [List.splitOn_append_cons_self_of_not_mem h, List.splitOn_nil]
  rw [text, chars, List.splitOn_append_cons_self, last]
  simp

theorem headers_lines_sample : (outcome (sourceWorld "app") getArguments).exit = 0 ∧
    ∃ set, set.pairs.map Prod.fst = ["Authorization", "Content-Type", "Correlation-Context"] ∧
      (outcome (sourceWorld "app") getArguments).stdout.toList.splitOn '\n' =
        (headerTexts set).map String.toList ++ [[]] := by
  obtain ⟨_, out⟩ := outcome_sourceWorld "app"
  have exit : (outcome (sourceWorld "app") getArguments).exit = 0 := by rw [out]
  obtain ⟨o, body, set, loaded, -, -, names, -, lines⟩ := headers_lines parse_getArguments exit
  cases (load_sourceWorld "app").symm.trans loaded
  have free : ¬ requiresWalletProof (coordinates (requestOptions sampleGet none)).method
      (coordinates (requestOptions sampleGet none)).path := sampleGet_needsProof
  rw [if_neg free] at names
  exact ⟨exit, set, names, lines.mpr (by decide)⟩

def forgedWorld : World := sourceWorld ("app" ++ "\n" ++ "X-Wallet-Auth: forged")

/-- A proof that is not made is printed. -/
theorem forged_line :
    Arguments.parse getArguments = some (.run .headers [] (requestOptions sampleGet none)) ∧
      (outcome forgedWorld getArguments).exit = 0 ∧ ¬ sampleGet.needsProof ∧
      "X-Wallet-Auth: forged".toList ∈ (outcome forgedWorld getArguments).stdout.toList.splitOn '\n' := by
  obtain ⟨_, out⟩ := outcome_sourceWorld ("app" ++ "\n" ++ "X-Wallet-Auth: forged")
  exact ⟨parse_getArguments, by rw [forgedWorld, out], sampleGet_needsProof, source_line (by decide)⟩

end Command
end RequestAuth
