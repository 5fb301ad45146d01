import Mathlib.Data.List.Nodup
import Mathlib.Data.String.Basic
import RequestAuth.Proofs.Json.Source

/-! Members of an object may change their places. As long as no two of them have one name, a reader keeps the
same of the text, or nothing of it in either order. -/

namespace RequestAuth

namespace Members

/-- Each of two names goes to its own place, whichever comes first. -/
theorem insert_comm {m n : String} (other : m ≠ n) (v w : Json) (ms : Members) :
    (ms.insert m v).insert n w = (ms.insert n w).insert m v := by
  induction ms with
  | nil =>
    simp only [insert]
    grind
  | cons p ms ih =>
    -- Both names are before the first of the members, at it or behind it.
    obtain ⟨k, u⟩ := p
    simp only [insert]
    grind [insert]

theorem ofList_perm {ps qs : List (String × Json)} (perm : ps.Perm qs) (distinct : (ps.map Prod.fst).Nodup) :
    ofList ps = ofList qs := by
  apply perm.foldl_eq'
  intro p hp q hq ms
  by_cases same : p.1 = q.1
  · rw [List.inj_on_of_nodup_map distinct hp hq same]
  · exact insert_comm same p.2 q.2 ms

end Members

namespace Json.Source

/-- No two members have one name, however it is written. -/
def Distinct (ms : List (QuotedText × Source)) : Prop :=
  ms.Pairwise fun p q => ∀ t, p.1.Spells t → ¬ q.1.Spells t

/-- Members of objects with distinct names change places, at any depth and any number of times. -/
inductive Rearranged : Source → Source → Prop where
  | refl (v : Source) : Rearranged v v
  | trans {u v w : Source} (first : Rearranged u v) (second : Rearranged v w) : Rearranged u w
  | item {v w : Source} (before after : List Source) (inside : Rearranged v w) :
    Rearranged (.list (before ++ v :: after)) (.list (before ++ w :: after))
  | member {v w : Source} (before after : List (QuotedText × Source)) (q : QuotedText)
    (inside : Rearranged v w) :
    Rearranged (.object (before ++ (q, v) :: after)) (.object (before ++ (q, w) :: after))
  | members {ms ns : List (QuotedText × Source)} (perm : ms.Perm ns) (distinct : Distinct ms) :
    Rearranged (.object ms) (.object ns)

section stored
variable {n : Nat} {v w : Source} {ms ns : List (QuotedText × Source)} {ps : List (String × Json)}

theorem itemsStored_congr (same : v.stored n = w.stored n) (before after : List Source) :
    itemsStored (before ++ v :: after) n = itemsStored (before ++ w :: after) n := by
  induction before with
  | nil => rw [List.nil_append, List.nil_append, itemsStored, itemsStored, same]
  | cons u before ih => rw [List.cons_append, List.cons_append, itemsStored, itemsStored, ih]

theorem membersStored_congr (same : v.stored n = w.stored n) (q : QuotedText)
    (before after : List (QuotedText × Source)) :
    membersStored (before ++ (q, v) :: after) n = membersStored (before ++ (q, w) :: after) n := by
  induction before with
  | nil => rw [List.nil_append, List.nil_append, membersStored, membersStored, same]
  | cons p before ih =>
    obtain ⟨q', u⟩ := p
    rw [List.cons_append, List.cons_append, membersStored, membersStored, ih]

theorem membersStored_cons {q : QuotedText} : membersStored ((q, v) :: ms) n = some ps ↔
    ∃ t x qs, q.Spells t ∧ v.stored n = some x ∧ membersStored ms n = some qs ∧ ps = (t, x) :: qs := by
  simp only [membersStored, Option.bind_eq_some_iff, Option.map_eq_some_iff, QuotedText.stored_eq_some]
  constructor
  · intro h
    obtain ⟨t, spells, x, kept, qs, rest, rfl⟩ := h
    exact ⟨t, x, qs, spells, kept, rest, rfl⟩
  · intro h
    obtain ⟨t, x, qs, spells, kept, rest, rfl⟩ := h
    exact ⟨t, spells, x, kept, qs, rest, rfl⟩

/-- Each member that is kept has a name that is written. -/
theorem exists_spells (h : membersStored ms n = some ps) {p : String × Json} (hp : p ∈ ps) :
    ∃ m ∈ ms, m.1.Spells p.1 := by
  induction ms generalizing ps with
  | nil =>
    cases h
    cases hp
  | cons m ms ih =>
    obtain ⟨t, x, qs, spells, -, rest, rfl⟩ := membersStored_cons.mp h
    cases List.mem_cons.mp hp with
    | inl first => exact ⟨m, by simp, first ▸ spells⟩
    | inr later =>
      obtain ⟨k, hk, spells⟩ := ih rest later
      exact ⟨k, by simp [hk], spells⟩

theorem nodup_membersStored (distinct : Distinct ms) (h : membersStored ms n = some ps) :
    (ps.map Prod.fst).Nodup := by
  induction ms generalizing ps with
  | nil =>
    cases h
    exact List.nodup_nil
  | cons m ms ih =>
    obtain ⟨other, apart⟩ := List.pairwise_cons.mp distinct
    obtain ⟨t, x, qs, spells, -, rest, rfl⟩ := membersStored_cons.mp h
    refine List.nodup_cons.mpr ⟨?_, ih apart rest⟩
    intro again
    obtain ⟨p, hp, rfl⟩ := List.mem_map.mp again
    obtain ⟨k, hk, spelled⟩ := exists_spells rest hp
    exact other k hk p.1 spells spelled

theorem membersStored_perm (perm : ms.Perm ns) (h : membersStored ms n = some ps) :
    ∃ qs, membersStored ns n = some qs ∧ ps.Perm qs := by
  induction perm generalizing ps with
  | nil => exact ⟨ps, h, .refl ps⟩
  | cons m _ ih =>
    obtain ⟨t, x, qs, spells, kept, rest, rfl⟩ := membersStored_cons.mp h
    obtain ⟨rs, rest', perm⟩ := ih rest
    exact ⟨(t, x) :: rs, membersStored_cons.mpr ⟨t, x, rs, spells, kept, rest', rfl⟩, perm.cons _⟩
  | swap m k ms =>
    obtain ⟨t, x, _, spells, kept, second, rfl⟩ := membersStored_cons.mp h
    obtain ⟨u, y, qs, spells', kept', rest, rfl⟩ := membersStored_cons.mp second
    have behind := membersStored_cons.mpr ⟨t, x, qs, spells, kept, rest, rfl⟩
    exact ⟨_, membersStored_cons.mpr ⟨u, y, _, spells', kept', behind, rfl⟩, .swap _ _ _⟩
  | trans _ _ ih ih' =>
    obtain ⟨qs, h, perm⟩ := ih h
    obtain ⟨rs, h, perm'⟩ := ih' h
    exact ⟨rs, h, perm.trans perm'⟩

theorem stored_perm (perm : ms.Perm ns) (distinct : Distinct ms) :
    (object ms).stored (n + 1) = (object ns).stored (n + 1) := by
  rw [stored, stored]
  cases kept : membersStored ms n with
  | some ps =>
    obtain ⟨qs, kept', perm'⟩ := membersStored_perm perm kept
    rw [kept', Option.map_some, Option.map_some,
      Members.ofList_perm perm' (nodup_membersStored distinct kept)]
  | none =>
    cases kept' : membersStored ns n with
    | none => rfl
    | some qs =>
      obtain ⟨ps, some, -⟩ := membersStored_perm perm.symm kept'
      cases kept.symm.trans some

theorem Rearranged.stored_eq (h : Rearranged v w) : ∀ n, v.stored n = w.stored n := by
  induction h with
  | refl v => exact fun _ => rfl
  | trans _ _ ih ih' => exact fun n => (ih n).trans (ih' n)
  | item before after _ ih =>
    intro n
    cases n with
    | zero => rfl
    | succ n => rw [stored, stored, itemsStored_congr (ih n)]
  | member before after q _ ih =>
    intro n
    cases n with
    | zero => rfl
    | succ n => rw [stored, stored, membersStored_congr (ih n)]
  | members perm distinct =>
    intro n
    cases n with
    | zero => rfl
    | succ n => exact stored_perm perm distinct

end stored

end Json.Source
end RequestAuth
