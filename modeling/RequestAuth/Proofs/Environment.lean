import RequestAuth.Environment
import RequestAuth.Proofs.Record

/-! A record is read back from variables that set its members. -/

namespace RequestAuth.Environment

def assignment? (v : String × String) : Option (String × Setting) :=
  (localName? v.1).map fun name => setting name v.2

theorem set_new {name : String} {value : Setting} {ss : Settings} (h : name ∉ ss.map Prod.fst) :
    set name value ss = ss ++ [(name, value)] := by
  induction ss with
  | nil => rfl
  | cons p ss ih =>
    obtain ⟨n, v⟩ := p
    have other : n ≠ name := fun same => h (by simp [same])
    rw [set, if_neg other, ih fun later => h (by simp [later])]
    rfl

def change (found : Settings) (v : String × String) : Settings :=
  (assignment? v).elim found fun p => set p.1 p.2 found

theorem settings_changes (vars : Variables) : settings vars = vars.foldl change [] := by
  refine congrArg (vars.foldl · []) (funext fun found => funext fun v => ?_)
  rw [change, assignment?]
  cases localName? v.1 <;> rfl

theorem foldl_change {found : Settings} {vars : Variables}
    (distinct : ((found ++ vars.filterMap assignment?).map Prod.fst).Nodup) :
    vars.foldl change found = found ++ vars.filterMap assignment? := by
  induction vars generalizing found with
  | nil => simp
  | cons v vars ih =>
    rw [List.foldl_cons]
    rw [List.filterMap_cons] at distinct ⊢
    cases mine : assignment? v with
    | none =>
      rw [mine] at distinct
      have kept : change found v = found := by rw [change, mine]; rfl
      rw [kept]
      exact ih distinct
    | some p =>
      rw [mine] at distinct
      -- A second value for a name would have to take the place of the first.
      have new : p.1 ∉ found.map Prod.fst := by
        rw [List.map_append, List.nodup_append] at distinct
        exact fun earlier => distinct.2.2 _ earlier _ (by simp) rfl
      have added : change found v = found ++ [p] := by
        rw [change, mine]
        exact set_new new
      rw [added, ih (by simpa using distinct)]
      simp

theorem settings_distinct {vars : Variables}
    (distinct : ((vars.filterMap assignment?).map Prod.fst).Nodup) :
    settings vars = vars.filterMap assignment? := by
  rw [settings_changes, foldl_change (by simpa using distinct)]
  rfl

section record
open Shape (slotsOf)
variable {F : Shape} {read : (s : F.Slot) → String → Setting → Except SettingFault (F.Value s)}

theorem members_settings (f : F.Filled) {ss : Settings} (distinct : (slotsOf F ss).Nodup)
    (reads : ∀ p ∈ ss, ∀ s, F.slot? p.1 = some s → read s p.1 p.2 = .ok (f s)) :
    ∀ d : F.Draft, (∀ s ∈ slotsOf F ss, d s = none) →
      ∃ d', members F read d ss = .ok d' ∧ (∀ s ∈ slotsOf F ss, d' s = some (f s)) ∧
        ∀ s ∉ slotsOf F ss, d' s = d s := by
  induction ss with
  | nil => exact fun d _ => ⟨d, rfl, by simp [slotsOf], fun _ _ => rfl⟩
  | cons p ss ih =>
    intro d free
    obtain ⟨name, value⟩ := p
    have later : ∀ q ∈ ss, ∀ s, F.slot? q.1 = some s → read s q.1 q.2 = .ok (f s) :=
      fun q hq => reads q (by simp [hq])
    cases known : F.slot? name with
    | none =>
      have slots : slotsOf F ((name, value) :: ss) = slotsOf F ss := by simp [slotsOf, known]
      rw [slots] at distinct free ⊢
      obtain ⟨d', rest, result⟩ := ih distinct later d free
      exact ⟨d', by simp only [members, known, rest], result⟩
    | some s =>
      have slots : slotsOf F ((name, value) :: ss) = s :: slotsOf F ss := by simp [slotsOf, known]
      rw [slots] at distinct free ⊢
      obtain ⟨new, distinct⟩ := List.nodup_cons.mp distinct
      have unset := Shape.Draft.set_unset (v := f s) new free
      obtain ⟨d', rest, filled, kept⟩ := ih distinct later (d.set s (f s)) unset
      have first : read s name value = .ok (f s) := reads (name, value) (by simp) s known
      have open_slot : (d s).isSome = false := by simp [free s (by simp)]
      refine ⟨d', ?_, Shape.Draft.set_then new filled kept⟩
      simp only [members, known, open_slot, first, bind, Except.bind, rest]
      rfl

theorem names_distinct {ss : Settings} (known : ∀ p ∈ ss, (F.slot? p.1).isSome)
    (distinct : (slotsOf F ss).Nodup) : (ss.map Prod.fst).Nodup := by
  have apart := List.pairwise_filterMap.mp distinct
  refine List.pairwise_map.mpr (apart.imp_of_mem ?_)
  intro p q hp _ other same
  obtain ⟨s, first⟩ := Option.isSome_iff_exists.mp (known p hp)
  exact other s first s (same ▸ first) rfl

theorem record_settings (f : F.Filled) {vars : Variables}
    (known : ∀ p ∈ vars.filterMap assignment?, (F.slot? p.1).isSome)
    (distinct : (slotsOf F (vars.filterMap assignment?)).Nodup)
    (reads : ∀ p ∈ vars.filterMap assignment?, ∀ s, F.slot? p.1 = some s → read s p.1 p.2 = .ok (f s))
    (absent : ∀ s ∉ slotsOf F (vars.filterMap assignment?), F.absent s = some (f s)) :
    record F read vars = .ok f := by
  obtain ⟨d, inside, filled, kept⟩ :=
    members_settings f distinct reads (Shape.Draft.empty F) fun _ _ => rfl
  have complete := Shape.Draft.fill_read filled kept absent
  rw [record, settings_distinct (names_distinct known distinct), inside]
  simp only [bind, Except.bind, complete]

/-- A variable for each member that is not left out, in the order of the members. -/
def written (F : Shape) (variableName : F.Slot → String) (text? : F.Slot → Option String) : Variables :=
  F.slots.filterMap fun s => (text? s).map fun t => (variableName s, t)

theorem record_written {variableName : F.Slot → String} {text? : F.Slot → Option String}
    (named : ∀ s, F.slot? (F.name s) = some s) (slots : F.slots.Nodup)
    (sets : ∀ s t, assignment? (variableName s, t) = some (F.name s, .text t)) (f : F.Filled)
    (reads : ∀ s t, text? s = some t → read s (F.name s) (.text t) = .ok (f s))
    (absent : ∀ s, text? s = none → F.absent s = some (f s)) :
    record F read (written F variableName text?) = .ok f := by
  have entries : (written F variableName text?).filterMap assignment? =
      Shape.entries F fun s => (text? s).map Setting.text := by
    rw [written, List.filterMap_filterMap, Shape.entries]
    congr
    funext s
    cases text? s with
    | none => rfl
    | some t => simp only [Option.map_some, Option.bind_some, sets]
  have origin : ∀ p ∈ (written F variableName text?).filterMap assignment?,
      ∃ s t, text? s = some t ∧ p = (F.name s, .text t) := by
    rw [entries]
    intro p hp
    obtain ⟨s, v, e, rfl⟩ := Shape.exists_of_mem_entries hp
    obtain ⟨t, given, rfl⟩ := Option.map_eq_some_iff.mp e
    exact ⟨s, t, given, rfl⟩
  apply record_settings f
  · intro p hp
    obtain ⟨s, t, -, rfl⟩ := origin p hp
    rw [named s]
    rfl
  · rw [entries, Shape.slotsOf_entries named]
    exact slots.filter _
  · intro p hp t known
    obtain ⟨s, v, e, rfl⟩ := origin p hp
    have same : s = t := Option.some.inj ((named s).symm.trans known)
    subst same
    exact reads s v e
  · intro s missing
    rw [entries] at missing
    exact absent s (Option.map_eq_none_iff.mp (Shape.write_eq_none named missing))

end record
end RequestAuth.Environment
