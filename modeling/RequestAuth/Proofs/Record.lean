import Mathlib.Data.List.Perm.Basic
import RequestAuth.Record

/-! Members of a record that are read one by one, each once: the values of those that were read, and what
stands for the others, make the record. -/

namespace RequestAuth.Shape
variable {F : Shape}

section entries
variable {α : Type} {write : F.Slot → Option α}

def slotsOf (F : Shape) (es : List (String × α)) : List F.Slot := es.filterMap fun p => F.slot? p.1

def entries (F : Shape) (write : F.Slot → Option α) : List (String × α) :=
  F.slots.filterMap fun s => (write s).map fun v => (F.name s, v)

theorem exists_of_mem_entries {p : String × α} (h : p ∈ entries F write) :
    ∃ s v, write s = some v ∧ p = (F.name s, v) := by
  obtain ⟨s, -, hs⟩ := List.mem_filterMap.mp h
  obtain ⟨v, e, rfl⟩ := Option.map_eq_some_iff.mp hs
  exact ⟨s, v, e, rfl⟩

theorem slotsOf_entries (named : ∀ s, F.slot? (F.name s) = some s) :
    slotsOf F (entries F write) = F.slots.filter fun s => (write s).isSome := by
  rw [slotsOf, entries, List.filterMap_filterMap, ← List.filterMap_eq_filter]
  congr
  funext s
  cases h : write s with
  | none => simp [h, Option.guard]
  | some v => simp [h, Option.guard, named s]

theorem write_eq_none (named : ∀ s, F.slot? (F.name s) = some s) {s : F.Slot}
    (h : s ∉ slotsOf F (entries F write)) : write s = none := by
  rw [slotsOf_entries named] at h
  cases e : write s with
  | none => rfl
  | some v => exact absurd (List.mem_filter.mpr ⟨F.mem_slots s, by simp [e]⟩) h

end entries

namespace Draft
variable {f : F.Filled} {s : F.Slot} {slots : List F.Slot} {d d' : F.Draft}

theorem set_unset {v : F.Value s} (new : s ∉ slots) (free : ∀ t ∈ s :: slots, d t = none) :
    ∀ t ∈ slots, d.set s v t = none := by
  intro t ht
  have other : s ≠ t := fun same => new (same ▸ ht)
  rw [set_other d _ other]
  exact free t (List.mem_cons_of_mem _ ht)

theorem set_then (new : s ∉ slots) (filled : ∀ t ∈ slots, d' t = some (f t))
    (kept : ∀ t ∉ slots, d' t = d.set s (f s) t) :
    (∀ t ∈ s :: slots, d' t = some (f t)) ∧ ∀ t ∉ s :: slots, d' t = d t := by
  constructor
  · intro t ht
    cases List.mem_cons.mp ht with
    | inl same =>
      subst same
      rw [kept t new, set_same]
    | inr later => exact filled t later
  · intro t ht
    have other : s ≠ t := fun same => ht (List.mem_cons.mpr (Or.inl same.symm))
    rw [kept t fun later => ht (List.mem_cons_of_mem _ later), set_other d _ other]

theorem set_comm {t : F.Slot} (other : s ≠ t) (d : F.Draft) (v : F.Value s) (w : F.Value t) :
    (d.set s v).set t w = (d.set t w).set s v := by
  funext u
  by_cases first : s = u
  · subst first
    rw [set_other _ w (Ne.symm other), set_same, set_same]
  · by_cases second : t = u
    · subst second
      rw [set_same, set_other _ v first, set_same]
    · rw [set_other _ w second, set_other _ v first, set_other _ v first, set_other _ w second]

theorem fill_eq (h : ∀ s, d.get? s = some (f s)) : d.fill = .ok f := by
  unfold fill
  split
  case h_1 s missing =>
    have none := List.find?_some missing
    simp [h s] at none
  case h_2 =>
    congr
    funext s
    simp [h s]

theorem fill_read (filled : ∀ s ∈ slots, d s = some (f s)) (kept : ∀ s ∉ slots, d s = none)
    (absent : ∀ s ∉ slots, F.absent s = some (f s)) : d.fill = .ok f := by
  apply fill_eq
  intro s
  by_cases given : s ∈ slots
  · rw [get?, filled s given]
    rfl
  · rw [get?, kept s given, absent s given]
    rfl

variable {P : (s : F.Slot) → F.Value s → Prop}

def Meets (P : (s : F.Slot) → F.Value s → Prop) (d : F.Draft) : Prop := ∀ s v, d s = some v → P s v

theorem meets_empty : Meets P (empty F) := by
  intro s v h
  cases h

theorem Meets.set (h : Meets P d) {v : F.Value s} (hv : P s v) : Meets P (d.set s v) := by
  intro t w e
  by_cases same : s = t
  · subst same
    rw [set_same] at e
    cases e
    exact hv
  · rw [set_other d v same] at e
    exact h t w e

theorem fill_eq_ok (h : d.fill = .ok f) (s : F.Slot) : d.get? s = some (f s) := by
  unfold fill at h
  split at h
  · cases h
  · cases h
    exact (Option.some_get _).symm

theorem Meets.fill (h : Meets P d) (absent : ∀ s v, F.absent s = some v → P s v)
    (filled : d.fill = .ok f) (s : F.Slot) : P s (f s) := by
  have value := fill_eq_ok filled s
  rw [get?] at value
  cases read : d s with
  | none =>
    rw [read, Option.none_or] at value
    exact absent s _ value
  | some v =>
    rw [read, Option.some_or] at value
    exact h s _ (read.trans value)

end Draft

structure View (F : Shape) (μ : Type) where
  name : μ → Option String
  value : (s : F.Slot) → μ → Option (F.Value s)

namespace View
variable {μ : Type} (V : F.View μ)

/-- One more member. Its slot has to be free, and without a slot for it nothing changes. -/
def take (d : F.Draft) (p : μ) : Option F.Draft :=
  (V.name p).bind fun n =>
    match F.slot? n with
    | none => some d
    | some s => if (d s).isSome then none else (V.value s p).map (d.set s)

def filled (ms : List μ) : Option F.Filled :=
  (ms.foldlM V.take (Draft.empty F)).bind fun d => d.fill.toOption

variable {V} {p q : μ} {ms ns added : List μ} {n m : String} {s : F.Slot}

theorem take_unnamed (unnamed : V.name p = none) (d : F.Draft) : V.take d p = none := by
  rw [take, unnamed, Option.bind_none]

theorem take_other (named : V.name p = some n) (other : F.slot? n = none) (d : F.Draft) :
    V.take d p = some d := by
  rw [take, named, Option.bind_some, other]

theorem take_slot (named : V.name p = some n) (slot : F.slot? n = some s) (d : F.Draft) :
    V.take d p = if (d s).isSome then none else (V.value s p).map (d.set s) := by
  rw [take, named, Option.bind_some, slot]

theorem take_doubled (first : V.name p = some n) (second : V.name q = some m) (hn : F.slot? n = some s)
    (hm : F.slot? m = some s) (d : F.Draft) : (V.take d p).bind (V.take · q) = none := by
  rw [take_slot first hn]
  split
  · rfl
  · cases V.value s p with
    | none => rfl
    | some v =>
      rw [Option.map_some, Option.bind_some, take_slot second hm, Draft.set_same]
      rfl

theorem take_cases (V : F.View μ) (p : μ) :
    (∀ d, V.take d p = none) ∨ (∀ d, V.take d p = some d) ∨
      ∃ (s : F.Slot) (x : Option (F.Value s)), ∀ d,
        V.take d p = if (d s).isSome then none else x.map (d.set s) := by
  cases named : V.name p with
  | none => exact Or.inl (take_unnamed named)
  | some n =>
    cases slot : F.slot? n with
    | none => exact Or.inr (Or.inl (take_other named slot))
    | some s => exact Or.inr (Or.inr ⟨s, _, take_slot named slot⟩)

theorem take_comm (d : F.Draft) (p q : μ) :
    (V.take d p).bind (V.take · q) = (V.take d q).bind (V.take · p) := by
  obtain refused | passed | ⟨s, x, first⟩ := V.take_cases p
  · simp [refused]
  · simp [passed]
  obtain refused | passed | ⟨t, y, second⟩ := V.take_cases q
  · simp [refused]
  · simp [passed]
  simp only [first, second]
  by_cases same : s = t
  · subst same
    cases d s <;> cases x <;> cases y <;> simp [Draft.set_same]
  · have other := Ne.symm same
    cases hs : d s <;> cases ht : d t <;> cases x <;> cases y <;>
      simp [hs, ht, Draft.set_other, same, other, Draft.set_comm]

theorem takeAll_perm (perm : ms.Perm ns) (d : F.Draft) : ms.foldlM V.take d = ns.foldlM V.take d := by
  induction perm generalizing d with
  | nil => rfl
  | cons p _ ih =>
    rw [List.foldlM_cons, List.foldlM_cons]
    exact congrArg _ (funext ih)
  | swap p q ms =>
    have both : (V.take d q).bind (V.take · p) = (V.take d p).bind (V.take · q) := take_comm d q p
    have all := congrArg (Option.bind · (ms.foldlM V.take)) both
    simpa only [List.foldlM_cons, Option.bind_eq_bind, Option.bind_assoc] using all
  | trans _ _ ih ih' => exact (ih d).trans (ih' d)

theorem takeAll_other (other : ∀ p ∈ added, ∃ n, V.name p = some n ∧ F.slot? n = none) (d : F.Draft) :
    added.foldlM V.take d = some d := by
  induction added with
  | nil => rfl
  | cons p added ih =>
    obtain ⟨n, named, slot⟩ := other p List.mem_cons_self
    rw [List.foldlM_cons, take_other named slot]
    exact ih fun q hq => other q (List.mem_cons_of_mem p hq)

/-- Members change their places, and others are added whose names have no slot. -/
theorem filled_unordered (perm : ns.Perm (ms ++ added))
    (other : ∀ p ∈ added, ∃ n, V.name p = some n ∧ F.slot? n = none) : V.filled ns = V.filled ms := by
  rw [filled, filled, takeAll_perm perm, List.foldlM_append]
  cases ms.foldlM V.take (Draft.empty F) with
  | none => rfl
  | some d => rw [Option.bind_eq_bind, Option.bind_some, takeAll_other other]

/-- Two members of one slot are refused, wherever they stand. -/
theorem filled_doubled (both : [p, q].Sublist ms) (first : V.name p = some n) (second : V.name q = some m)
    (hn : F.slot? n = some s) (hm : F.slot? m = some s) : V.filled ms = none := by
  obtain ⟨others, perm⟩ := both.exists_perm_append
  have refused : (V.take (Draft.empty F) p).bind (V.take · q) = none := take_doubled first second hn hm _
  have pair : [p, q].foldlM V.take (Draft.empty F) = none := by
    simpa [List.foldlM_cons] using refused
  rw [filled, takeAll_perm perm, List.foldlM_append, pair]
  rfl

end View
end RequestAuth.Shape
