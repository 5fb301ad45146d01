import Mathlib.Data.List.Pairwise
import RequestAuth.Proofs.Options
import RequestAuth.Proofs.Text.LetterCase

/-! Options are loaded from variables in any order, with small or capital letters in their names, under
either name of a member that has two, and with variables of other programs between them. -/

namespace RequestAuth

namespace Environment

theorem assignment?_of_asciiUpper {n m : String} (h : asciiUpper n = m) (capital : asciiUpper m = m)
    (ascii : ∀ c ∈ m.toList, c.toNat < 128) (t : String) : assignment? (n, t) = assignment? (m, t) := by
  rw [assignment?, assignment?, localName?, localName?, lowerCase_of_asciiUpper h ascii,
    lowerCase_of_asciiUpper capital ascii]

theorem assignment?_of_other {v : String × String} (h : ¬ scope <+: (lowerCase v.1).toList) :
    assignment? v = none := by
  have other : scope.isPrefixOf (lowerCase v.1).toList = false := by
    rw [Bool.eq_false_iff, ne_eq, List.isPrefixOf_iff_prefix]
    exact h
  simp [assignment?, localName?, other]

theorem mem_names_set {n name : String} {value : Setting} {ss : Settings} :
    n ∈ (set name value ss).map Prod.fst ↔ n = name ∨ n ∈ ss.map Prod.fst := by
  induction ss with
  | nil => simp [set]
  | cons p ss ih =>
    obtain ⟨m, v⟩ := p
    rw [set]
    split
    · rename_i same
      simp [same]
    · rw [List.map_cons, List.mem_cons, ih, List.map_cons, List.mem_cons]
      exact or_left_comm

theorem names_change {found : Settings} {v : String × String} {n : String} (h : n ∈ found.map Prod.fst) :
    n ∈ (change found v).map Prod.fst := by
  rw [change]
  cases assignment? v with
  | none => exact h
  | some p => exact mem_names_set.mpr (Or.inr h)

theorem names_foldl {vars : Variables} {found : Settings} {n : String} (h : n ∈ found.map Prod.fst) :
    n ∈ (vars.foldl change found).map Prod.fst := by
  induction vars generalizing found with
  | nil => exact h
  | cons v vars ih =>
    rw [List.foldl_cons]
    exact ih (names_change h)

theorem mem_names_settings {vars : Variables} {v : String × String} {p : String × Setting} (h : v ∈ vars)
    (sets : assignment? v = some p) : p.1 ∈ (settings vars).map Prod.fst := by
  rw [settings_changes]
  obtain ⟨before, after, rfl⟩ := List.append_of_mem h
  rw [List.foldl_append, List.foldl_cons]
  apply names_foldl
  rw [change, sets]
  exact mem_names_set.mpr (Or.inl rfl)

section doubled
open Shape (slotsOf)
variable {F : Shape} {read : (s : F.Slot) → String → Setting → Except SettingFault (F.Value s)}

theorem members_nodup {ss : Settings} {d d' : F.Draft} (h : members F read d ss = .ok d') :
    (slotsOf F ss).Nodup ∧ ∀ s ∈ slotsOf F ss, d s = none := by
  induction ss generalizing d with
  | nil => simp [slotsOf]
  | cons p ss ih =>
    obtain ⟨name, value⟩ := p
    rw [members] at h
    cases known : F.slot? name with
    | none =>
      have slots : slotsOf F ((name, value) :: ss) = slotsOf F ss := by simp [slotsOf, known]
      simp only [known] at h
      rw [slots]
      exact ih h
    | some s =>
      have slots : slotsOf F ((name, value) :: ss) = s :: slotsOf F ss := by simp [slotsOf, known]
      simp only [known] at h
      split at h
      · cases h
      rename_i unset
      cases first : read s name value with
      | error f =>
        rw [first] at h
        cases h
      | ok v =>
        rw [first] at h
        obtain ⟨rest, free⟩ := ih h
        have new : s ∉ slotsOf F ss := by
          intro later
          have set := free s later
          rw [Shape.Draft.set_same] at set
          cases set
        rw [slots]
        refine ⟨List.nodup_cons.mpr ⟨new, rest⟩, List.forall_mem_cons.mpr ⟨by simpa using unset, ?_⟩⟩
        intro t ht
        have other : s ≠ t := fun same => new (same ▸ ht)
        rw [← Shape.Draft.set_other d v other]
        exact free t ht

/-- Two names for one member are refused, whatever they are set to and whatever else is set. -/
theorem record_doubled {vars : Variables} {n m : String} (hn : n ∈ (settings vars).map Prod.fst)
    (hm : m ∈ (settings vars).map Prod.fst) (other : n ≠ m) {s : F.Slot} (first : F.slot? n = some s)
    (second : F.slot? m = some s) : ∃ f, record F read vars = .error f := by
  cases got : record F read vars with
  | error f => exact ⟨f, rfl⟩
  | ok f =>
    rw [record] at got
    cases inside : members F read (Shape.Draft.empty F) (settings vars) with
    | error f =>
      rw [inside] at got
      cases got
    | ok d =>
      obtain ⟨distinct, -⟩ := members_nodup inside
      obtain ⟨p, hp, rfl⟩ := List.mem_map.mp hn
      obtain ⟨q, hq, rfl⟩ := List.mem_map.mp hm
      have apart := List.pairwise_filterMap.mp distinct
      have : Std.Symm fun p q : String × Setting =>
          ∀ s, F.slot? p.1 = some s → ∀ t, F.slot? q.1 = some t → s ≠ t :=
        ⟨fun _ _ h s hs t ht same => h t ht s hs same.symm⟩
      exact absurd rfl (apart.forall hp hq (fun same => other (congrArg _ same)) s first s second)

end doubled
end Environment

namespace ClientOptions
open Environment
variable {o : ClientOptions}

def variableNames : Slot → List String
  | .keyId => ["CDP_API_KEY_ID", "CDP_API_KEY_NAME"]
  | .keySecret => ["CDP_API_KEY_SECRET"]
  | .walletSecret => ["CDP_WALLET_SECRET"]
  | .basePath => ["CDP_BASE_PATH", "CDP_API_URL"]
  | .expiresIn => ["CDP_EXPIRES_IN"]
  | .source => ["CDP_SOURCE"]
  | .sourceVersion => ["CDP_SOURCE_VERSION"]
  | .debugging => ["CDP_DEBUGGING"]

def memberName (n : String) : String := String.ofList ((lowerCase n).toList.drop scope.length)

/-- A text that a member of the options is set with. -/
inductive Tells (o : ClientOptions) : Slot → String → Prop where
  | keyId : Tells o .keyId o.keyId
  | keySecret : Tells o .keySecret o.keySecret
  | walletSecret {t : String} (given : o.walletSecret = some t) : Tells o .walletSecret t
  | basePath : Tells o .basePath o.basePath
  | expiresIn {n : UInt64} {ds : List Char} (given : o.expiresIn = some n) (any : ds ≠ [])
      (digits : ∀ c ∈ ds, c.isDigit) (value : decimal ds = n.toNat) : Tells o .expiresIn (String.ofList ds)
  | source {t : String} (given : o.source = some t) : Tells o .source t
  | sourceVersion {t : String} (given : o.sourceVersion = some t) : Tells o .sourceVersion t
  | debugging : Tells o .debugging (toString o.debugging)

def MayOmit (o : ClientOptions) : Slot → Prop
  | .keyId | .keySecret => False
  | .walletSecret => o.walletSecret = none
  | .basePath => o.basePath = defaultBasePath
  | .expiresIn => o.expiresIn = none
  | .source => o.source = none
  | .sourceVersion => o.sourceVersion = none
  | .debugging => o.debugging = false

/-- The variables set the options: one variable for a member, or none where it need not be set, and beside
them those that are not meant for this program. -/
structure SetBy (o : ClientOptions) (vars : Variables) (given : Slot → Option (String × String))
    (others : Variables) : Prop where
  all : vars.Perm (shape.slots.filterMap given ++ others)
  named : ∀ s v, given s = some v → asciiUpper v.1 ∈ variableNames s
  tells : ∀ s v, given s = some v → Tells o s v.2
  omitted : ∀ s, given s = none → MayOmit o s
  other : ∀ v ∈ others, ¬ scope <+: (lowerCase v.1).toList

theorem variableNames_capital :
    ∀ s, ∀ n ∈ variableNames s, asciiUpper n = n ∧ ∀ c ∈ n.toList, c.toNat < 128 := by
  have letters : ∀ s, ∀ n ∈ variableNames s,
      n.toList.map Char.toUpper = n.toList ∧ n.toList.all fun c => c.toNat < 128 := by
    intro s
    cases s <;> decide
  intro s n hn
  obtain ⟨capital, ascii⟩ := letters s n hn
  exact ⟨asciiUpper_eq capital, by simpa using ascii⟩

theorem slot?_memberName : ∀ s, ∀ n ∈ variableNames s, shape.slot? (memberName n) = some s := by
  intro s
  cases s <;> decide

theorem memberName_injective :
    ∀ s, ∀ n ∈ variableNames s, ∀ m ∈ variableNames s, memberName n = memberName m → n = m := by
  intro s
  cases s <;> decide

theorem assignment?_memberName (t : String) :
    ∀ s, ∀ n ∈ variableNames s, assignment? (n, t) = some (memberName n, .text t) := by
  intro s
  have path : ∀ n ∈ variableNames s, localName? n = some (memberName n).toList ∧
      (path? (memberName n).toList).map (fun p => p.2.length) = some 0 := by
    cases s <;> decide
  intro n hn
  obtain ⟨name, whole⟩ := path n hn
  obtain ⟨⟨root, steps⟩, found, none⟩ := Option.map_eq_some_iff.mp whole
  have noSteps : steps = [] := List.length_eq_zero_iff.mp none
  simp only [assignment?, name, Option.map_some, setting, found, noSteps, String.ofList_toList]

theorem assignment?_named {s : Slot} {v : String × String} (h : asciiUpper v.1 ∈ variableNames s) :
    assignment? v = some (memberName (asciiUpper v.1), .text v.2) := by
  obtain ⟨capital, ascii⟩ := variableNames_capital s _ h
  rw [← assignment?_memberName v.2 s _ h, ← assignment?_of_asciiUpper rfl capital ascii]

theorem readSetting_tells {s : Slot} {t : String} (h : Tells o s t) (name : String) :
    readSetting s name (.text t) = .ok (o.filled s) := by
  cases h with
  | keyId | keySecret | basePath => rfl
  | walletSecret given | source given | sourceVersion given =>
    simp only [readSetting, filled, given]
    rfl
  | expiresIn given any digits value =>
    rename_i n ds
    have small : decimal ds < Nat.pow 2 64 := value ▸ n.toNat_lt
    have count : UInt64.ofNat (decimal ds) = n := by rw [value, UInt64.ofNat_toNat]
    simp only [readSetting, filled, given, count_decimal name any digits small, count]
    rfl
  | debugging => exact flag_toString name o.debugging

theorem absent_mayOmit {s : Slot} (h : MayOmit o s) : shape.absent s = some (o.filled s) := by
  cases s with
  | keyId | keySecret => exact h.elim
  | walletSecret | basePath | expiresIn | source | sourceVersion | debugging =>
    simp only [MayOmit] at h
    simp [shape, filled, h]

section set
variable {vars others : Variables} {given : Slot → Option (String × String)}

theorem SetBy.assignments (h : SetBy o vars given others) :
    (vars.filterMap assignment?).Perm ((shape.slots.filterMap given).filterMap assignment?) := by
  have passed : others.filterMap assignment? = [] :=
    List.filterMap_eq_nil_iff.mpr fun v hv => assignment?_of_other (h.other v hv)
  have all := h.all.filterMap assignment?
  rwa [List.filterMap_append, passed, List.append_nil] at all

theorem SetBy.slotsOf (h : SetBy o vars given others) :
    (Shape.slotsOf shape (vars.filterMap assignment?)).Perm (shape.slots.filter fun s => (given s).isSome) := by
  have slots : Shape.slotsOf shape ((shape.slots.filterMap given).filterMap assignment?) =
      shape.slots.filter fun s => (given s).isSome := by
    rw [Shape.slotsOf, List.filterMap_filterMap, List.filterMap_filterMap, ← List.filterMap_eq_filter]
    congr
    funext s
    cases e : given s with
    | none => simp [Option.guard, e]
    | some v =>
      have name := h.named s v e
      simp [Option.guard, e, assignment?_named name, slot?_memberName s _ name]
  rw [← slots]
  exact h.assignments.filterMap _

theorem SetBy.origin (h : SetBy o vars given others) {p : String × Setting}
    (hp : p ∈ vars.filterMap assignment?) :
    ∃ s t, Tells o s t ∧ shape.slot? p.1 = some s ∧ p.2 = .text t := by
  obtain ⟨v, hv, sets⟩ := List.mem_filterMap.mp (h.assignments.mem_iff.mp hp)
  obtain ⟨s, -, set⟩ := List.mem_filterMap.mp hv
  have name := h.named s v set
  obtain rfl := Option.some.inj ((assignment?_named name).symm.trans sets)
  exact ⟨s, v.2, h.tells s v set, slot?_memberName s _ name, rfl⟩

theorem SetBy.record (h : SetBy o vars given others) :
    Environment.record shape readSetting vars = .ok o.filled := by
  apply record_settings
  · intro p hp
    obtain ⟨s, -, -, known, -⟩ := h.origin hp
    rw [known]
    rfl
  · have distinct : shape.slots.Nodup := by decide
    exact h.slotsOf.nodup_iff.mpr (distinct.filter _)
  · intro p hp s known
    obtain ⟨s', t, tells, known', text⟩ := h.origin hp
    obtain rfl : s' = s := Option.some.inj (known'.symm.trans known)
    rw [text]
    exact readSetting_tells tells p.1
  · intro s missing
    rw [h.slotsOf.mem_iff, List.mem_filter] at missing
    apply absent_mayOmit
    apply h.omitted
    cases e : given s with
    | none => rfl
    | some v => exact absurd ⟨shape.mem_slots s, by simp [e]⟩ missing

end set

/-- Options that can be used are loaded from all variables that set them, in every order, and variables
under both names of a member are refused with any others. -/
theorem ofEnvironment_setBy (valid : o.validate = .ok ()) :
    (∀ vars given others, SetBy o vars given others → ofEnvironment vars = .ok o) ∧
    ∀ vars s, ∀ v ∈ vars, ∀ w ∈ vars, asciiUpper v.1 ∈ variableNames s → asciiUpper w.1 ∈ variableNames s →
      asciiUpper v.1 ≠ asciiUpper w.1 → ∃ f, ofEnvironment vars = .error (.setting f) := by
  refine ⟨?_, ?_⟩
  · intro vars given others set
    have whole : ofFilled o.filled = o := rfl
    rw [ofEnvironment, set.record]
    dsimp only
    rw [whole, valid]
    rfl
  · intro vars s v hv w hw first second other
    have names := fun same => other (memberName_injective s _ first _ second same)
    obtain ⟨f, twice⟩ : ∃ f, record shape readSetting vars = .error f := record_doubled
      (mem_names_settings hv (assignment?_named first)) (mem_names_settings hw (assignment?_named second))
      names (slot?_memberName s _ first) (slot?_memberName s _ second)
    exact ⟨f, by rw [ofEnvironment, twice]⟩

def sampleSet : ClientOptions :=
  { new "key" "secret" with walletSecret := some "", expiresIn := some 90, debugging := true }

def sampleGiven : Slot → Option (String × String)
  | .keyId => some ("Cdp_Api_Key_Name", "key")
  | .keySecret => some ("cdp_api_key_secret", "secret")
  | .walletSecret => some ("CDP_WALLET_SECRET", "")
  | .basePath => some ("CDP_API_URL", defaultBasePath)
  | .expiresIn => some ("cdp_EXPIRES_in", "090")
  | .source => none
  | .sourceVersion => none
  | .debugging => some ("CDP_DEBUGGING", "true")

theorem sampleSet_setBy :
    SetBy sampleSet (("HOME", "/") :: (shape.slots.filterMap sampleGiven).reverse) sampleGiven
      [("HOME", "/")] where
  all := by
    refine (List.Perm.cons _ (List.reverse_perm _)).trans ?_
    exact (List.perm_append_singleton _ _).symm
  named := by
    have capitals : ∀ s, ∀ v ∈ sampleGiven s,
        ∃ n ∈ variableNames s, v.1.toList.map Char.toUpper = n.toList := by
      intro s
      cases s <;> decide
    intro s v h
    obtain ⟨n, name, capital⟩ := capitals s v h
    exact asciiUpper_eq capital ▸ name
  tells := by
    intro s v h
    cases s <;> cases h
    case expiresIn =>
      have digits : "090".toList.all Char.isDigit := by decide
      exact Tells.expiresIn (n := 90) rfl (by decide) (List.all_eq_true.mp digits) (by decide)
    all_goals constructor
    rfl
  omitted := by
    intro s h
    cases s <;> cases h <;> rfl
  other := by decide

theorem ofEnvironment_setBy_sample : sampleSet.validate = .ok () ∧
    ofEnvironment (("HOME", "/") :: (shape.slots.filterMap sampleGiven).reverse) = .ok sampleSet ∧
    ∃ f, ofEnvironment [("CDP_API_KEY_ID", "key"), ("cdp_api_key_name", "key")] = .error (.setting f) := by
  have valid := validate_default (o := sampleSet) (by decide) (by decide) rfl
  obtain ⟨loads, refuses⟩ := ofEnvironment_setBy valid
  have first : asciiUpper "CDP_API_KEY_ID" = "CDP_API_KEY_ID" := asciiUpper_eq (by decide)
  have second : asciiUpper "cdp_api_key_name" = "CDP_API_KEY_NAME" := asciiUpper_eq (by decide)
  refine ⟨valid, loads _ _ _ sampleSet_setBy, refuses _ .keyId ("CDP_API_KEY_ID", "key") (by simp)
    ("cdp_api_key_name", "key") (by simp) ?_ ?_ ?_⟩
  · simp [first, variableNames]
  · simp [second, variableNames]
  · simp [first, second]

end ClientOptions
end RequestAuth
