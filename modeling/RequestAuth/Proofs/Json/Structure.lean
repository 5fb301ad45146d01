import RequestAuth.Json.Basic

/-! Values by their parts: induction, nesting, and what holds of a value and everything inside it. -/

namespace RequestAuth.Json

/-- Induction with the hypothesis for all items and all members at once. -/
@[elab_as_elim, induction_eliminator]
theorem byParts {P : Json → Prop} (null : P null) (bool : ∀ b, P (bool b))
    (number : ∀ n, P (number n)) (text : ∀ s, P (text s))
    (list : ∀ items, (∀ v ∈ items, P v) → P (list items))
    (object : ∀ members, (∀ p ∈ members, P p.2) → P (object members)) (v : Json) : P v :=
  @Json.rec P (fun items => ∀ v ∈ items, P v) (fun members => ∀ p ∈ members, P p.2) (fun p => P p.2)
    null bool number text list object
    (by simp) (fun _ _ hv hs => List.forall_mem_cons.mpr ⟨hv, hs⟩)
    (by simp) (fun _ _ hp hs => List.forall_mem_cons.mpr ⟨hp, hs⟩)
    (fun _ _ h => h) v

mutual

def depth : Json → Nat
  | null | bool _ | number _ | text _ => 0
  | list items => itemsDepth items + 1
  | object members => membersDepth members + 1

def itemsDepth : List Json → Nat
  | [] => 0
  | v :: r => max (depth v) (itemsDepth r)

def membersDepth : List (String × Json) → Nat
  | [] => 0
  | (_, v) :: r => max (depth v) (membersDepth r)

end

theorem itemsDepth_le {items : List Json} {n : Nat} :
    itemsDepth items ≤ n ↔ ∀ v ∈ items, v.depth ≤ n := by
  induction items with
  | nil => simp [itemsDepth]
  | cons v r ih => rw [itemsDepth, Nat.max_le, ih, List.forall_mem_cons]

theorem membersDepth_le {ms : List (String × Json)} {n : Nat} :
    membersDepth ms ≤ n ↔ ∀ p ∈ ms, p.2.depth ≤ n := by
  induction ms with
  | nil => simp [membersDepth]
  | cons p r ih => rw [membersDepth, Nat.max_le, ih, List.forall_mem_cons]

mutual

/-- Whether a test holds of a value and of everything inside it. -/
def everywhere (test : Json → Bool) : Json → Bool
  | null => test null
  | bool b => test (bool b)
  | number n => test (number n)
  | text s => test (text s)
  | list items => test (list items) && itemsEverywhere test items
  | object members => test (object members) && membersEverywhere test members

def itemsEverywhere (test : Json → Bool) : List Json → Bool
  | [] => true
  | v :: r => everywhere test v && itemsEverywhere test r

def membersEverywhere (test : Json → Bool) : List (String × Json) → Bool
  | [] => true
  | (_, v) :: r => everywhere test v && membersEverywhere test r

end

variable {test : Json → Bool}

theorem itemsEverywhere_iff {items : List Json} :
    itemsEverywhere test items ↔ ∀ v ∈ items, v.everywhere test := by
  induction items with
  | nil => simp [itemsEverywhere]
  | cons v r ih => simp [itemsEverywhere, ih]

theorem membersEverywhere_iff {ms : List (String × Json)} :
    membersEverywhere test ms ↔ ∀ p ∈ ms, p.2.everywhere test := by
  induction ms with
  | nil => simp [membersEverywhere]
  | cons p r ih => simp [membersEverywhere, ih]

theorem everywhere_list {items : List Json} :
    (list items).everywhere test ↔ test (list items) ∧ ∀ v ∈ items, v.everywhere test := by
  rw [everywhere, Bool.and_eq_true, itemsEverywhere_iff]

theorem everywhere_object {ms : List (String × Json)} :
    (object ms).everywhere test ↔ test (object ms) ∧ ∀ p ∈ ms, p.2.everywhere test := by
  rw [everywhere, Bool.and_eq_true, membersEverywhere_iff]

end RequestAuth.Json

namespace RequestAuth

namespace Members

def isSorted (ms : Members) : Bool := ms.Pairwise fun p q => p.1 < q.1

theorem isSorted_iff {ms : Members} : ms.isSorted ↔ ms.Pairwise fun p q => p.1 < q.1 := by
  simp [isSorted]

theorem insert_last {acc : Members} {n : String} (h : ∀ p ∈ acc, p.1 < n) (v : Json) :
    acc.insert n v = acc ++ [(n, v)] := by
  induction acc with
  | nil => rfl
  | cons p r ih =>
    obtain ⟨m, w⟩ := p
    have before : m < n := h (m, w) (by simp)
    have other : n ≠ m := fun e => String.lt_irrefl m (e ▸ before)
    rw [insert, if_neg (String.lt_asymm before), if_neg other,
      ih fun q hq => h q (List.mem_cons_of_mem _ hq), List.cons_append]

/-- The members as a reader keeps them: in order, of two with one name the later. -/
def ofList (ms : List (String × Json)) : Members := ms.foldl (fun a p => a.insert p.1 p.2) []

theorem foldl_insert (acc : Members) {ms : Members} (h : (acc ++ ms).isSorted) :
    ms.foldl (fun a p => a.insert p.1 p.2) acc = acc ++ ms := by
  induction ms generalizing acc with
  | nil => simp
  | cons p r ih =>
    have sorted := isSorted_iff.mp h
    have before : ∀ q ∈ acc, q.1 < p.1 := fun q hq =>
      (List.pairwise_append.mp sorted).2.2 q hq p (by simp)
    rw [List.foldl_cons, insert_last before, ih _ (by simpa using h)]
    simp

theorem ofList_sorted {ms : Members} (h : ms.isSorted) : ofList ms = ms :=
  foldl_insert [] h

theorem mem_insert {ms : Members} {n : String} {v : Json} {p : String × Json}
    (h : p ∈ ms.insert n v) : p = (n, v) ∨ p ∈ ms := by
  induction ms with
  | nil => simpa [insert] using h
  | cons q r ih =>
    obtain ⟨m, w⟩ := q
    rw [insert] at h
    split at h
    · simpa using h
    split at h
    · rename_i same
      subst same
      cases List.mem_cons.mp h with
      | inl e =>
        cases e
        exact Or.inl rfl
      | inr hr => exact Or.inr (List.mem_cons_of_mem _ hr)
    · cases List.mem_cons.mp h with
      | inl e =>
        cases e
        exact Or.inr (by simp)
      | inr hr => exact (ih hr).imp_right (List.mem_cons_of_mem _)

theorem isSorted_insert {ms : Members} (h : ms.isSorted) (n : String) (v : Json) :
    (ms.insert n v).isSorted := by
  rw [isSorted_iff] at h ⊢
  induction ms with
  | nil => simp [insert]
  | cons q r ih =>
    obtain ⟨m, w⟩ := q
    obtain ⟨first, rest⟩ := List.pairwise_cons.mp h
    rw [insert]
    split
    case isTrue before =>
      refine List.pairwise_cons.mpr ⟨?_, h⟩
      intro p hp
      cases List.mem_cons.mp hp with
      | inl e =>
        cases e
        exact before
      | inr hr => exact String.lt_trans before (first p hr)
    split
    case isTrue same => exact List.pairwise_cons.mpr ⟨fun p hp => first p hp, rest⟩
    case isFalse notBefore other =>
      refine List.pairwise_cons.mpr ⟨?_, ih rest⟩
      intro p hp
      cases mem_insert hp with
      | inl e =>
        cases e
        exact Decidable.by_contra fun k =>
          other (String.le_antisymm (String.not_lt.mp k) (String.not_lt.mp notBefore))
      | inr hr => exact first p hr

end Members

namespace JsonNumber

def inRange : JsonNumber → Bool
  | integer n => -0x8000000000000000 ≤ n && n < 0x10000000000000000
  | float _ => true

end JsonNumber

namespace Json

/-- Whole numbers of at most 64 bits, and members in order, everywhere. -/
def wellFormed : Json → Bool :=
  everywhere fun
    | number n => n.inRange
    | object members => Members.isSorted members
    | _ => true

def integral : Json → Bool :=
  everywhere fun
    | number (.float _) => false
    | _ => true

theorem wellFormed_list {items : List Json} :
    (list items).wellFormed ↔ ∀ v ∈ items, v.wellFormed := by
  simp [wellFormed, everywhere_list]

theorem wellFormed_object {ms : Members} :
    (object ms).wellFormed ↔ ms.isSorted ∧ ∀ p ∈ ms, p.2.wellFormed := by
  simp only [wellFormed, everywhere_object]

theorem integral_list {items : List Json} : (list items).integral ↔ ∀ v ∈ items, v.integral := by
  simp [integral, everywhere_list]

theorem integral_object {ms : Members} : (object ms).integral ↔ ∀ p ∈ ms, p.2.integral := by
  simp [integral, everywhere_object]

end Json
end RequestAuth
