import RequestAuth.Options
import RequestAuth.Proofs.Json.Unordered
import RequestAuth.Proofs.Yaml.Unordered

/-! Options are read from an object by the names of its members: in any order, with members of other names between
them, and never with two members for one option, be it under its name or under another that stands for it. -/

namespace RequestAuth.ClientOptions
open Json Json.Read

/-- The names of a member. The second one stands for the first. -/
def memberNames : Slot → List String
  | .keyId => ["api_key_id", "api_key_name"]
  | .keySecret => ["api_key_secret"]
  | .walletSecret => ["wallet_secret"]
  | .basePath => ["base_path", "api_url"]
  | .expiresIn => ["expires_in"]
  | .source => ["source"]
  | .sourceVersion => ["source_version"]
  | .debugging => ["debugging"]

theorem slot?_eq_some {n : String} {s : Slot} : shape.slot? n = some s ↔ n ∈ memberNames s := by
  constructor
  · intro found
    have named := List.find?_some found
    rw [Bool.or_eq_true, beq_iff_eq, List.contains_iff_mem] at named
    have names : memberNames s = (shape.names s).1 :: (shape.names s).2 := by cases s <;> rfl
    rw [names]
    exact List.mem_cons.mpr (named.imp_left Eq.symm)
  · intro named
    cases s <;> simp only [memberNames, List.mem_cons, List.not_mem_nil, or_false] at named
    case keyId | basePath => obtain rfl | rfl := named <;> decide
    all_goals
      subst named
      decide

theorem slot?_eq_none {n : String} : shape.slot? n = none ↔ ∀ s, n ∉ memberNames s := by
  rw [Option.eq_none_iff_forall_ne_some]
  exact forall_congr' fun s => not_congr slot?_eq_some

theorem byTokens_readSlot (n : Nat) (s : Slot) : ByTokens (readSlot s n) := by
  cases s with
  | keyId | keySecret | basePath => exact byTokens_string
  | walletSecret | source | sourceVersion => exact byTokens_string.optional
  | expiresIn => exact byTokens_count.optional
  | debugging => exact byTokens_boolean

variable {ms ns added : List (QuotedText × Source)} {b c : Bytes} {o : ClientOptions}

def kept (ms : List (QuotedText × Source)) : Option ClientOptions :=
  ((keptMembers (F := shape) fun s => readSlot s 126).filled ms).map ofFilled

theorem document_read (text : (Source.object ms).IsText b) :
    Read.document ClientOptions.read b = .ok o ↔ kept ms = some o := by
  refine text.document_eq_ok fun w spaced r follows => ?_
  have record := record_spaced (F := shape) (byTokens_readSlot 126) spaced r follows
  have step : ClientOptions.read maxDepth (w ++ r) =
    Read.record shape readSlot 127 (w ++ r) >>= fun p => .ok (ofFilled p.1, p.2) := rfl
  rw [step, toOption_bind, record, kept]
  cases (keptMembers (F := shape) fun s => readSlot s 126).filled ms <;> rfl

/-- Members change their places, and others are added under names that mean nothing: the same options are read, or
none from either text. Two members for one option are refused, wherever they stand and whatever their values are. -/
theorem options_unordered :
    (∀ (ms ns added : List (QuotedText × Source)) (b c : Bytes) (o : ClientOptions),
      (Source.object ms).IsText b → (Source.object ns).IsText c → ns.Perm (ms ++ added) →
      (∀ p ∈ added, ∃ n, p.1.Spells n ∧ ∀ s, n ∉ memberNames s) →
        (Read.document ClientOptions.read b = .ok o ↔ Read.document ClientOptions.read c = .ok o)) ∧
    ∀ (ms : List (QuotedText × Source)) (b : Bytes) (p q : QuotedText × Source) (n m : String) (s : Slot),
      (Source.object ms).IsText b → [p, q].Sublist ms → p.1.Spells n → q.1.Spells m →
      n ∈ memberNames s → m ∈ memberNames s → ∃ f, Read.document ClientOptions.read b = .error f := by
  refine ⟨?_, ?_⟩
  · intro ms ns added b c o text text' perm others
    have other : ∀ p ∈ added, ∃ n, p.1.stored = some n ∧ shape.slot? n = none := by
      intro p hp
      obtain ⟨n, named, unknown⟩ := others p hp
      exact ⟨n, QuotedText.stored_eq_some.mpr named, slot?_eq_none.mpr unknown⟩
    rw [document_read text, document_read text', kept, kept, Shape.View.filled_unordered perm other]
  · intro ms b p q n m s text both first second hn hm
    have doubled : kept ms = none := by
      rw [kept, Shape.View.filled_doubled both (QuotedText.stored_eq_some.mpr first)
        (QuotedText.stored_eq_some.mpr second) (slot?_eq_some.mpr hn) (slot?_eq_some.mpr hm)]
      rfl
    cases got : Read.document ClientOptions.read b with
    | error f => exact ⟨f, rfl⟩
    | ok o =>
      rw [document_read text, doubled] at got
      cases got

def escapedText (t : String) : QuotedText := ⟨_, (writesText_escape t.toList).quoted⟩

theorem spells_escapedText (t : String) : (escapedText t).Spells t := writesText_escape t.toList

def nameMember : QuotedText × Source := (escapedText "api_key_name", .text (escapedText "k"))

def secretMember : QuotedText × Source := (escapedText "api_key_secret", .text (escapedText "s"))

def otherMember : QuotedText × Source := (escapedText "id", .list [.object []])

def againMember : QuotedText × Source := (escapedText "api_key_id", .null)

theorem isText_flatMap {a : Bytes} (blank : Blank a) (v : Source) : v.IsText (v.tokens.flatMap (a ++ ·)) :=
  ⟨_, [], .flatMap blank _, blank_nil, by simp⟩

theorem options_unordered_sample : ∃ b c f,
    b = Bytes.ofText
      " \x7b \"api_key_secret\" : \"s\" , \"id\" : [ \x7b \x7d ] , \"api_key_name\" : \"k\" \x7d" ∧
    c = Bytes.ofText "\x7b\"api_key_name\":\"k\",\"api_key_id\":null\x7d" ∧
    Read.document ClientOptions.read b = .ok (.new "k" "s") ∧ Read.document ClientOptions.read c = .error f := by
  obtain ⟨same, doubled⟩ := options_unordered
  have space : Blank [32] := by simp [Blank, isSpace]
  have text := isText_flatMap blank_nil (.object [nameMember, secretMember])
  have text' := isText_flatMap space (.object [secretMember, otherMember, nameMember])
  have text'' := isText_flatMap blank_nil (.object [nameMember, againMember])
  have perm : [secretMember, otherMember, nameMember].Perm ([nameMember, secretMember] ++ [otherMember]) :=
    @List.perm_append_comm _ [secretMember, otherMember] [nameMember]
  have unknown : ∀ p ∈ [otherMember], ∃ n, p.1.Spells n ∧ ∀ s, n ∉ memberNames s := by
    intro p hp
    cases List.mem_singleton.mp hp
    refine ⟨"id", spells_escapedText "id", ?_⟩
    rintro ⟨⟩ <;> decide
  have read : Read.document ClientOptions.read ((Source.object [nameMember, secretMember]).tokens.flatMap ([] ++ ·)) =
      .ok (.new "k" "s") := rfl
  have moved := (same _ _ _ _ _ (.new "k" "s") text text' perm unknown).mp read
  obtain ⟨f, refused⟩ := doubled _ _ _ _ "api_key_name" "api_key_id" .keyId text'' (List.Sublist.refl _)
    (spells_escapedText _) (spells_escapedText _) (by decide) (by decide)
  exact ⟨_, _, f, by decide, by decide, moved, refused⟩

theorem readsScalars_readNode : Yaml.Read.Document.ReadsScalars (F := shape) readNode := by
  intro s n opens
  cases n with
  | scalar => cases opens
  | list | map => cases s <;> rfl

theorem ofYaml_kept {text : String} {ms : List (String × Yaml.Read.Node)} (map : Yaml.Read.IsMap text ms) :
    (ofYaml text).toOption =
      ((Yaml.Read.Document.keptMembers (F := shape) readNode).filled ms).map ofFilled := by
  rw [← Yaml.Read.record_kept readsScalars_readNode map, ofYaml]
  cases Yaml.Read.record shape readNode text <;> rfl

/-- Options are read from a file by the names of its members as well. -/
theorem ofYaml_unordered :
    (∀ (ms ns added : List (String × Yaml.Read.Node)) (text text' : String),
      Yaml.Read.IsMap text ms → Yaml.Read.IsMap text' ns → ns.Perm (ms ++ added) →
      (∀ p ∈ added, ∀ s, p.1 ∉ memberNames s) → (ofYaml text').toOption = (ofYaml text).toOption) ∧
    ∀ (ms : List (String × Yaml.Read.Node)) (text : String) (p q : String × Yaml.Read.Node) (s : Slot),
      Yaml.Read.IsMap text ms → [p, q].Sublist ms → p.1 ∈ memberNames s → q.1 ∈ memberNames s →
      (ofYaml text).toOption = none := by
  refine ⟨?_, ?_⟩
  · intro ms ns added text text' map map' perm others
    have other : ∀ p ∈ added, ∃ n, some p.1 = some n ∧ shape.slot? n = none :=
      fun p hp => ⟨p.1, rfl, slot?_eq_none.mpr (others p hp)⟩
    rw [ofYaml_kept map, ofYaml_kept map', Shape.View.filled_unordered perm other]
  · intro ms text p q s map both first second
    rw [ofYaml_kept map, Shape.View.filled_doubled both rfl rfl (slot?_eq_some.mpr first)
      (slot?_eq_some.mpr second)]
    rfl

def fileText : String := "api_key_secret: s\nid: [\x7b\x7d]\napi_key_name: k\n"

theorem isMap_fileText : Yaml.Read.IsMap fileText
    [("api_key_secret", .scalar "s" .plain none), ("id", .list), ("api_key_name", .scalar "k" .plain none)] := by
  have entries : (Yaml.Read.firstDocument none (Yaml.events fileText).1 (.empty none)).1.entries =
      [(.node .map, ⟨0, 0, 0⟩),
        (.node (.scalar "api_key_secret" .plain none), ⟨0, 0, 0⟩), (.node (.scalar "s" .plain none), ⟨16, 0, 16⟩),
        (.node (.scalar "id" .plain none), ⟨18, 1, 0⟩), (.node .list, ⟨22, 1, 4⟩), (.node .map, ⟨23, 1, 5⟩),
        (.mapEnd, ⟨24, 1, 6⟩), (.listEnd, ⟨25, 1, 7⟩),
        (.node (.scalar "api_key_name" .plain none), ⟨27, 2, 0⟩), (.node (.scalar "k" .plain none), ⟨41, 2, 14⟩),
        (.mapEnd, ⟨43, 3, 0⟩)] := by
    decide +kernel
  have list : Yaml.Read.Nodes [(.node .map, ⟨23, 1, 5⟩), (.mapEnd, ⟨24, 1, 6⟩)] := .block rfl .nil rfl .nil
  exact ⟨by decide +kernel, ⟨⟨43, 3, 0⟩, by decide +kernel⟩, by decide +kernel, _, _, entries,
    .cons rfl (.leaf rfl rfl) (.cons rfl (.block rfl list rfl) (.cons rfl (.leaf rfl rfl) .nil))⟩

example : (ofYaml fileText).toOption = some (.new "k" "s") := by decide +kernel

end RequestAuth.ClientOptions
