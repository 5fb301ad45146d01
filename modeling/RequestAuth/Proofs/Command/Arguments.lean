import RequestAuth.Command.Arguments

/-! Options that are written as arguments are understood as they were meant. A value may be attached to
the name of its option whatever it is, and stand apart from it if it does not look like an option. -/

namespace RequestAuth.Arguments

/-- Arguments that give options with their values, in order. -/
inductive Writes : OptionValues → List String → Prop where
  | nil : Writes [] []
  | attached {vs args} (o : OptionName) (v : String) (rest : Writes vs args) :
      Writes ((o, v) :: vs) ((o.text ++ "=" ++ v) :: args)
  | apart {vs args} (o : OptionName) {v : String} (value : isValue v) (rest : Writes vs args) :
      Writes ((o, v) :: vs) (o.text :: v :: args)

def attach (vs : OptionValues) : List String := vs.map fun p => p.1.text ++ "=" ++ p.2

theorem writes_attach (vs : OptionValues) : Writes vs (attach vs) := by
  induction vs with
  | nil => exact .nil
  | cons p vs ih => exact .attached p.1 p.2 ih

/-- Values that can be given together: each is one for its option, and only some options are given
twice. -/
structure Together (vs : OptionValues) : Prop where
  accepted : ∀ p ∈ vs, p.1.accepts p.2
  once : vs.Pairwise fun p q => p.1 = q.1 → p.1.isRepeatable

theorem text_dashes (o : OptionName) : ∃ cs, o.text.toList = '-' :: '-' :: cs := by
  cases o <;> exact ⟨_, rfl⟩

theorem equals_notMem_text (o : OptionName) : '=' ∉ o.text.toList := by
  cases o <;> decide

theorem text_inj {o p : OptionName} (h : o.text = p.text) : o = p := by
  revert h
  cases o <;> cases p <;> decide

theorem dashes (arg : String) {cs : List Char} (h : arg.toList = '-' :: '-' :: cs) :
    arg.startsWith "-h" = false ∧ arg.startsWith "-V" = false ∧ isValue arg = false := by
  have short (c : Char) (other : c ≠ '-') (p : String) (e : p.toList = ['-', c]) :
      arg.startsWith p = false := by
    rw [Bool.eq_false_iff, Ne, String.startsWith_string_iff, h, e]
    rintro ⟨r, e⟩
    cases e
    exact other rfl
  have dash : arg.startsWith "-" := by
    rw [String.startsWith_string_iff, h]
    exact ⟨_, rfl⟩
  have single : arg ≠ "-" := by
    rintro rfl
    cases h
  refine ⟨short 'h' (by decide) _ rfl, short 'V' (by decide) _ rfl, ?_⟩
  simp [isValue, dash, single]

theorem splitOption_text (o : OptionName) : splitOption o.text = (o.text, none) := by
  cases o <;> rfl

theorem toList_attached (o : OptionName) (v : String) :
    (o.text ++ "=" ++ v).toList = o.text.toList ++ '=' :: v.toList := by
  simp [String.toList_append]

theorem splitOption_attached (o : OptionName) (v : String) :
    splitOption (o.text ++ "=" ++ v) = (o.text, some v) := by
  have name : (o.text.toList ++ '=' :: v.toList).takeWhile (· != '=') = o.text.toList := by
    have all : ∀ c ∈ o.text.toList, (c != '=') = true := by
      intro c hc
      have other : c ≠ '=' := by
        rintro rfl
        exact equals_notMem_text o hc
      simpa using other
    rw [List.takeWhile_append_of_pos all, List.takeWhile_cons]
    simp
  simp only [splitOption, toList_attached, name, List.drop_left, String.ofList_toList]

theorem attached_ne {o : OptionName} {v s : String} (h : '=' ∉ s.toList) : o.text ++ "=" ++ v ≠ s := by
  rintro rfl
  apply h
  rw [toList_attached]
  simp

theorem find_option {allowed : List OptionName} {o : OptionName} (h : o ∈ allowed) :
    (allowed.find? fun p => p.text == o.text) = some o := by
  cases found : allowed.find? fun p => p.text == o.text with
  | none => exact absurd (List.find?_eq_none.mp found o h) (by simp)
  | some p =>
    have same : p = o := text_inj (by simpa using List.find?_some found)
    rw [same]

section step
variable {allowed : List OptionName} {o : OptionName} {v : String} {vs : OptionValues} {r : List String}

theorem commandOptions_attached (h : o ∈ allowed) :
    commandOptions allowed vs ((o.text ++ "=" ++ v) :: r) =
      (add o v vs).bind fun vs => commandOptions allowed vs r := by
  obtain ⟨cs, text⟩ := text_dashes o
  obtain ⟨short, -, -⟩ := dashes (o.text ++ "=" ++ v) (by rw [toList_attached, text]; rfl)
  have none : (o.text ++ "=" ++ v == "--") = false := beq_false_of_ne (attached_ne (by decide))
  have help : (o.text ++ "=" ++ v == "--help") = false := beq_false_of_ne (attached_ne (by decide))
  rw [commandOptions, none, help, short, splitOption_attached]
  simp [find_option h]

theorem commandOptions_apart (h : o ∈ allowed) (value : isValue v) :
    commandOptions allowed vs (o.text :: v :: r) =
      (add o v vs).bind fun vs => commandOptions allowed vs r := by
  obtain ⟨cs, text⟩ := text_dashes o
  obtain ⟨short, -, -⟩ := dashes _ text
  have none : (o.text == "--") = false := by cases o <;> rfl
  have help : (o.text == "--help") = false := by cases o <;> rfl
  rw [commandOptions, none, help, short, splitOption_text]
  simp [find_option h, value]

theorem parseFrom_attached (h : o ∈ [OptionName.config, .logLevel]) :
    parseFrom vs ((o.text ++ "=" ++ v) :: r) = (add o v vs).bind fun vs => parseFrom vs r := by
  obtain ⟨cs, text⟩ := text_dashes o
  obtain ⟨help', version', value⟩ := dashes (o.text ++ "=" ++ v) (by rw [toList_attached, text]; rfl)
  have version : (o.text ++ "=" ++ v == "--version") = false := beq_false_of_ne (attached_ne (by decide))
  have help : (o.text ++ "=" ++ v == "--help") = false := beq_false_of_ne (attached_ne (by decide))
  rw [parseFrom, version, version', help, help', value, splitOption_attached]
  simp only [find_option h]
  rfl

theorem parseFrom_apart (h : o ∈ [OptionName.config, .logLevel]) (value : isValue v) :
    parseFrom vs (o.text :: v :: r) = (add o v vs).bind fun vs => parseFrom vs r := by
  obtain ⟨cs, text⟩ := text_dashes o
  obtain ⟨help', version', name⟩ := dashes _ text
  have version : (o.text == "--version") = false := by cases o <;> rfl
  have help : (o.text == "--help") = false := by cases o <;> rfl
  rw [parseFrom, version, version', help, help', name, splitOption_text]
  simp only [find_option h]
  simp [value]

end step

theorem add_together {o : OptionName} {v : String} {vs ws : OptionValues}
    (h : Together (vs ++ (o, v) :: ws)) : add o v vs = some (vs ++ [(o, v)]) := by
  have accepted : o.accepts v := h.accepted (o, v) (by simp)
  have fresh : (has o vs && !o.isRepeatable) = false := by
    cases given : has o vs with
    | false => rfl
    | true =>
      obtain ⟨p, before, same⟩ := List.any_eq_true.mp given
      have same : p.1 = o := by simpa using same
      have again := (List.pairwise_append.mp h.once).2.2 p before (o, v) (by simp) same
      rw [same] at again
      simp [again]
  rw [add, fresh, accepted]
  rfl

theorem commandOptions_writes {allowed : List OptionName} (acc : OptionValues) {vs : OptionValues}
    {args r : List String} (written : Writes vs args) (known : ∀ p ∈ vs, p.1 ∈ allowed)
    (h : Together (acc ++ vs)) :
    commandOptions allowed acc (args ++ r) = commandOptions allowed (acc ++ vs) r := by
  induction written generalizing acc with
  | nil => simp
  | attached o v _ ih =>
    rw [List.cons_append, commandOptions_attached (known _ List.mem_cons_self), add_together h,
      Option.bind_some, ih _ (fun p hp => known p (List.mem_cons_of_mem _ hp)) (by simpa using h)]
    simp
  | apart o value _ ih =>
    rw [List.cons_append, List.cons_append, commandOptions_apart (known _ List.mem_cons_self) value,
      add_together h, Option.bind_some,
      ih _ (fun p hp => known p (List.mem_cons_of_mem _ hp)) (by simpa using h)]
    simp

theorem parseFrom_writes (acc : OptionValues) {vs : OptionValues} {args r : List String}
    (written : Writes vs args) (known : ∀ p ∈ vs, p.1 ∈ [OptionName.config, .logLevel])
    (h : Together (acc ++ vs)) :
    parseFrom acc (args ++ r) = parseFrom (acc ++ vs) r := by
  induction written generalizing acc with
  | nil => simp
  | attached o v _ ih =>
    rw [List.cons_append, parseFrom_attached (known _ List.mem_cons_self), add_together h,
      Option.bind_some, ih _ (fun p hp => known p (List.mem_cons_of_mem _ hp)) (by simpa using h)]
    simp
  | apart o value _ ih =>
    rw [List.cons_append, List.cons_append, parseFrom_apart (known _ List.mem_cons_self) value,
      add_together h, Option.bind_some,
      ih _ (fun p hp => known p (List.mem_cons_of_mem _ hp)) (by simpa using h)]
    simp

theorem parseFrom_command (c : CommandName) (vs : OptionValues) (r : List String) :
    parseFrom vs (c.text :: r) = (commandOptions c.options [] r).bind fun
      | .help => some .help
      | .options after => if c.required.all fun o => has o after then some (.run c vs after) else none := by
  have word (p : String) (h : p.toList.head? = some '-') : c.text.startsWith p = false := by
    rw [Bool.eq_false_iff, Ne, String.startsWith_string_iff]
    intro start
    have dash : c.text.toList.head? = some '-' := by
      obtain ⟨t, e⟩ := start
      rw [← e, List.head?_append, h]
      rfl
    cases c <;> exact absurd dash (by decide)
  have version : (c.text == "--version") = false := by cases c <;> rfl
  have help : (c.text == "--help") = false := by cases c <;> rfl
  have value : isValue c.text := by simp [isValue, word "-" rfl]
  have known : CommandName.ofText? c.text = some c := by cases c <;> rfl
  have other : (c.text == "help") = false := by cases c <;> rfl
  rw [parseFrom, version, help, word "-V" rfl, word "-h" rfl, value]
  simp only [command, other, known]
  rfl

structure CommandLine (c : CommandName) (before after : OptionValues) (args : List String) : Prop where
  written : ∃ front back tail, args = front ++ c.text :: (back ++ tail) ∧ Writes before front ∧
    Writes after back ∧ (tail = [] ∨ tail = ["--"])
  early : ∀ p ∈ before, p.1 ∈ [OptionName.config, .logLevel]
  known : ∀ p ∈ after, p.1 ∈ c.options
  beforeOnce : Together before
  afterOnce : Together after
  required : ∀ o ∈ c.required, has o after

theorem CommandLine.parse {c : CommandName} {before after : OptionValues} {args : List String}
    (h : CommandLine c before after args) : parse args = some (.run c before after) := by
  obtain ⟨front, back, tail, rfl, first, second, last⟩ := h.written
  have ended : commandOptions c.options after tail = some (.options after) := by
    cases last with
    | inl e => rw [e, commandOptions]
    | inr e =>
      rw [e]
      rfl
  have all : (c.required.all fun o => has o after) = true := List.all_eq_true.mpr h.required
  rw [Arguments.parse, parseFrom_writes [] first h.early h.beforeOnce, parseFrom_command,
    commandOptions_writes [] second h.known h.afterOnce, List.nil_append, ended]
  simp only [Option.bind_some, List.nil_append, all, if_true]

theorem parse_writes {c : CommandName} {before after : OptionValues} {front back : List String}
    (first : Writes before front) (second : Writes after back)
    (early : ∀ p ∈ before, p.1 ∈ [OptionName.config, .logLevel])
    (known : ∀ p ∈ after, p.1 ∈ c.options)
    (hb : Together before) (ha : Together after) (required : ∀ o ∈ c.required, has o after) :
    parse (front ++ c.text :: back) = some (.run c before after) :=
  CommandLine.parse ⟨⟨front, back, [], by simp, first, second, Or.inl rfl⟩, early, known, hb, ha, required⟩

theorem eq_of_splitOption {arg name : String} {v : Option String} (h : splitOption arg = (name, v)) :
    arg = v.elim name fun v => name ++ "=" ++ v := by
  have parts := List.takeWhile_append_dropWhile (p := (· != '=')) (l := arg.toList)
  cases rest : arg.toList.drop (arg.toList.takeWhile (· != '=')).length with
  | nil =>
    simp only [splitOption, rest] at h
    cases h
    rfl
  | cons c cs =>
    have after : arg.toList.dropWhile (· != '=') = c :: cs := by
      calc arg.toList.dropWhile (· != '=')
          = (arg.toList.takeWhile (· != '=') ++ arg.toList.dropWhile (· != '=')).drop
              (arg.toList.takeWhile (· != '=')).length := (List.drop_left ..).symm
        _ = c :: cs := by rw [parts, rest]
    have sign : c = '=' := by
      have first := List.head?_dropWhile_not (· != '=') arg.toList
      rw [after] at first
      simpa using first
    subst sign
    simp only [splitOption, rest] at h
    cases h
    rw [after] at parts
    apply String.toList_injective
    simp [String.toList_append, parts]

theorem Writes.append {vs ws : OptionValues} {args args' : List String} (h : Writes vs args)
    (h' : Writes ws args') : Writes (vs ++ ws) (args ++ args') := by
  induction h with
  | nil => exact h'
  | attached o v _ ih => exact .attached o v ih
  | apart o value _ ih => exact .apart o value ih

structure Takes (allowed : List OptionName) (p : OptionName × String) (args rest : List String) : Prop where
  known : p.1 ∈ allowed
  written : ∃ front, args = front ++ rest ∧ Writes [p] front

theorem Takes.length_lt {allowed : List OptionName} {p : OptionName × String} {args rest : List String}
    (h : Takes allowed p args rest) : rest.length < args.length := by
  obtain ⟨front, rfl, written⟩ := h.written
  have taken : 0 < front.length := by
    cases written <;> exact Nat.zero_lt_succ _
  rw [List.length_append]
  omega

theorem known_of_find {allowed : List OptionName} {o : OptionName} {name : String}
    (h : (allowed.find? fun p => p.text == name) = some o) : o ∈ allowed ∧ o.text = name :=
  ⟨List.mem_of_find?_eq_some h, by simpa using List.find?_some h⟩

theorem has_iff {o : OptionName} {vs : OptionValues} : has o vs ↔ ∃ v, (o, v) ∈ vs := by
  simp [has]

theorem Together.add {o : OptionName} {v : String} {vs ws : OptionValues} (h : Together vs)
    (added : add o v vs = some ws) : ws = vs ++ [(o, v)] ∧ Together ws := by
  unfold Arguments.add at added
  split at added
  · cases added
  · rename_i free
    cases added
    simp only [Bool.or_eq_true, Bool.and_eq_true, Bool.not_eq_true', not_or, not_and,
      Bool.not_eq_false] at free
    obtain ⟨again, accepted⟩ := free
    refine ⟨rfl, ?_, List.pairwise_append.mpr ⟨h.once, List.pairwise_singleton .., ?_⟩⟩
    · intro p hp
      cases List.mem_append.mp hp with
      | inl old => exact h.accepted p old
      | inr new =>
        cases List.mem_singleton.mp new
        exact accepted
    · intro p hp q hq same
      cases List.mem_singleton.mp hq
      subst same
      exact again (has_iff.mpr ⟨p.2, hp⟩)

section understood
variable {allowed : List OptionName} {acc vs : OptionValues} {arg : String} {args r : List String}

theorem takes_of_some {α : Type} {k : OptionValues → List String → Option α} {a : α}
    (h : (match splitOption arg with
      | (name, some v) => do
        let o ← allowed.find? fun o => o.text == name
        k (← add o v acc) r
      | (name, none) => do
        let o ← allowed.find? fun o => o.text == name
        match r with
        | [] => none
        | next :: r => if isValue next then k (← add o next acc) r else none) = some a) :
    ∃ o v ws rest, Takes allowed (o, v) (arg :: r) rest ∧ add o v acc = some ws ∧ k ws rest = some a := by
  split at h
  · rename_i name v split
    have arg_eq := eq_of_splitOption split
    obtain ⟨o, found, added⟩ := Option.bind_eq_some_iff.mp h
    obtain ⟨ws, added, later⟩ := Option.bind_eq_some_iff.mp added
    obtain ⟨known, rfl⟩ := known_of_find found
    subst arg_eq
    exact ⟨o, v, ws, r, ⟨known, [_], rfl, .attached o v .nil⟩, added, later⟩
  · rename_i name split
    have arg_eq := eq_of_splitOption split
    obtain ⟨o, found, apart⟩ := Option.bind_eq_some_iff.mp h
    obtain ⟨known, rfl⟩ := known_of_find found
    subst arg_eq
    cases r with
    | nil => cases apart
    | cons next r =>
      dsimp only at apart
      split at apart
      · rename_i value
        obtain ⟨ws, added, later⟩ := Option.bind_eq_some_iff.mp apart
        exact ⟨o, next, ws, r, ⟨known, [_, _], rfl, .apart o value .nil⟩, added, later⟩
      · cases apart

theorem commandOptions_cases (h : commandOptions allowed acc (arg :: r) = some (.options vs)) :
    (arg = "--" ∧ r = [] ∧ vs = acc) ∨
      ∃ o v ws rest, Takes allowed (o, v) (arg :: r) rest ∧ add o v acc = some ws ∧
        commandOptions allowed ws rest = some (.options vs) := by
  unfold commandOptions at h
  split at h
  · rename_i dashes
    split at h
    · rename_i last
      cases h
      exact Or.inl ⟨by simpa using dashes, last, rfl⟩
    · cases h
  · split at h
    · cases h
    · exact Or.inr (takes_of_some (k := commandOptions allowed) h)

theorem parseFrom_cases {c : CommandName} {before after : OptionValues}
    (h : parseFrom acc (arg :: r) = some (.run c before after)) :
    (arg = c.text ∧ before = acc ∧ commandOptions c.options [] r = some (.options after) ∧
        ∀ o ∈ c.required, has o after) ∨
      ∃ o v ws rest, Takes [.config, .logLevel] (o, v) (arg :: r) rest ∧ add o v acc = some ws ∧
        parseFrom ws rest = some (.run c before after) := by
  unfold parseFrom at h
  split at h
  · cases h
  split at h
  · cases h
  split at h
  · unfold command at h
    split at h
    · split at h
      · cases h
      · split at h <;> cases h
      · cases h
    · obtain ⟨d, named, h⟩ := Option.bind_eq_some_iff.mp h
      have name : d.text = arg := by simpa using List.find?_some named
      obtain ⟨parsed, read, h⟩ := Option.bind_eq_some_iff.mp h
      cases parsed with
      | help => cases h
      | options vs =>
        dsimp only at h
        split at h
        · rename_i required
          cases h
          exact Or.inl ⟨name.symm, rfl, read, List.all_eq_true.mp required⟩
        · cases h
  · exact Or.inr (takes_of_some (k := parseFrom) h)

structure Read (allowed : List OptionName) (acc vs : OptionValues) (args tail : List String) : Prop where
  together : Together vs
  written : ∃ new front, vs = acc ++ new ∧ args = front ++ tail ∧ Writes new front ∧
    ∀ p ∈ new, p.1 ∈ allowed

theorem Read.nothing (h : Together vs) : Read allowed vs vs args args :=
  ⟨h, [], [], by simp, rfl, .nil, nofun⟩

theorem Read.takes {o : OptionName} {v : String} {ws : OptionValues} {rest tail : List String}
    (taken : Takes allowed (o, v) args rest) (added : ws = acc ++ [(o, v)])
    (later : Read allowed ws vs rest tail) : Read allowed acc vs args tail := by
  obtain ⟨together, new, front, rfl, rfl, written, known⟩ := later
  obtain ⟨first, rfl, single⟩ := taken.written
  refine ⟨together, (o, v) :: new, first ++ front, by simp [added], by simp, single.append written, ?_⟩
  intro p hp
  cases List.mem_cons.mp hp with
  | inl e => exact e ▸ taken.known
  | inr later => exact known p later

theorem commandOptions_read (sofar : Together acc)
    (h : commandOptions allowed acc args = some (.options vs)) :
    ∃ tail, (tail = [] ∨ tail = ["--"]) ∧ Read allowed acc vs args tail := by
  induction shorter : args.length using Nat.strongRecOn generalizing args acc with
  | ind n ih =>
    cases args with
    | nil =>
      rw [commandOptions] at h
      cases h
      exact ⟨[], Or.inl rfl, .nothing sofar⟩
    | cons arg r =>
      cases commandOptions_cases h with
      | inl ended =>
        obtain ⟨rfl, rfl, rfl⟩ := ended
        exact ⟨_, Or.inr rfl, .nothing sofar⟩
      | inr next =>
        obtain ⟨o, v, ws, rest, taken, added, h⟩ := next
        obtain ⟨more, together⟩ := sofar.add added
        obtain ⟨tail, last, later⟩ := ih _ (shorter ▸ taken.length_lt) together h rfl
        exact ⟨tail, last, .takes taken more later⟩

theorem parseFrom_read {c : CommandName} {before after : OptionValues} (sofar : Together acc)
    (h : parseFrom acc args = some (.run c before after)) :
    ∃ r, Read [.config, .logLevel] acc before args (c.text :: r) ∧
      commandOptions c.options [] r = some (.options after) ∧ ∀ o ∈ c.required, has o after := by
  induction shorter : args.length using Nat.strongRecOn generalizing args acc with
  | ind n ih =>
    cases args with
    | nil => cases h
    | cons arg r =>
      cases parseFrom_cases h with
      | inl named =>
        obtain ⟨rfl, rfl, read, required⟩ := named
        exact ⟨r, .nothing sofar, read, required⟩
      | inr next =>
        obtain ⟨o, v, ws, rest, taken, added, h⟩ := next
        obtain ⟨more, together⟩ := sofar.add added
        obtain ⟨r, later, read, required⟩ := ih _ (shorter ▸ taken.length_lt) together h rfl
        exact ⟨r, .takes taken more later, read, required⟩

end understood

/-- A command is understood exactly where it is written with options of its own, each with a value that
it accepts, and none given twice that cannot be. -/
theorem parse_eq_run {args : List String} {c : CommandName} {before after : OptionValues} :
    parse args = some (.run c before after) ↔ CommandLine c before after args := by
  constructor
  · intro h
    have none_read : Together [] := ⟨nofun, .nil⟩
    obtain ⟨r, ⟨before_together, _, front, rfl, rfl, first, early⟩, h, required⟩ := parseFrom_read none_read h
    obtain ⟨tail, last, after_together, _, back, rfl, rfl, second, known⟩ := commandOptions_read none_read h
    exact ⟨⟨front, back, tail, rfl, first, second, last⟩, early, known, before_together, after_together,
      required⟩
  · exact CommandLine.parse

end RequestAuth.Arguments
