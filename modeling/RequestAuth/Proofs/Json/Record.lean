import RequestAuth.Proofs.Json.Skip
import RequestAuth.Proofs.Record

/-! A record is read back from an object of its members, in any order, without those that are absent and
with any others between them. -/

namespace RequestAuth.Json.Read
open Bytes
variable {F : Shape}

def Named (F : Shape) : Prop := ∀ s, F.slot? (F.name s) = some s

def slotsOf (F : Shape) (ms : List (String × Json)) : List F.Slot := ms.filterMap fun p => F.slot? p.1

def memberText (p : String × Json) : Bytes := member p.1 (ofChars p.2.chars)

theorem recordMembers_separated (read : (s : F.Slot) → Reader (F.Value s)) (f : F.Filled)
    {ms : List (String × Json)} (distinct : (slotsOf F ms).Nodup)
    (reads : ∀ p ∈ ms, ∀ s, F.slot? p.1 = some s → ReadsAs (read s) (ofChars p.2.chars) (f s))
    (r : Bytes) :
    ∀ fuel first (d : F.Draft), ms.length < fuel → (∀ s ∈ slotsOf F ms, d s = none) →
      ∃ d', recordMembers F read fuel first d (separated first (ms.map memberText) ++ 125 :: r) =
        .ok (d', 125 :: r) ∧ (∀ s ∈ slotsOf F ms, d' s = some (f s)) ∧
          ∀ s ∉ slotsOf F ms, d' s = d s := by
  induction ms with
  | nil =>
    intro fuel first d room _
    obtain ⟨fuel, rfl⟩ := Nat.exists_eq_add_one.mpr (Nat.zero_lt_of_lt room)
    have closed : recordMembers F read (fuel + 1) first d
        (separated first [] ++ 125 :: r) = .ok (d, 125 :: r) := by
      rw [separated_nil, recordMembers, nextName_close]
      rfl
    exact ⟨d, closed, by simp [slotsOf], fun _ _ => rfl⟩
  | cons p ms ih =>
    intro fuel first d room free
    obtain ⟨fuel, rfl⟩ := Nat.exists_eq_add_one.mpr (Nat.zero_lt_of_lt room)
    have room : ms.length < fuel := by simpa using room
    have later : ∀ q ∈ ms, ∀ s, F.slot? q.1 = some s → ReadsAs (read s) (ofChars q.2.chars) (f s) :=
      fun q hq => reads q (by simp [hq])
    have next := nextName_member first p.1 (ofChars p.2.chars)
      (separated false (ms.map memberText) ++ 125 :: r)
    have closes := closes_separated (ms.map memberText) 125 (Or.inr rfl) r
    cases known : F.slot? p.1 with
    | none =>
      have slots : slotsOf F (p :: ms) = slotsOf F ms := by simp [slotsOf, known]
      rw [slots] at distinct free ⊢
      obtain ⟨d', rest, result⟩ := ih distinct later fuel false d room free
      have passed := skip_chars p.2 closes
      refine ⟨d', ?_, result⟩
      rw [List.map_cons, separated_cons, memberText, recordMembers, next]
      simp only [bind, Except.bind, known, colon_colon, passed, rest]
    | some s =>
      have slots : slotsOf F (p :: ms) = s :: slotsOf F ms := by simp [slotsOf, known]
      rw [slots] at distinct free ⊢
      obtain ⟨new, distinct⟩ := List.nodup_cons.mp distinct
      have unset := Shape.Draft.set_unset (v := f s) new free
      obtain ⟨d', rest, filled, kept⟩ := ih distinct later fuel false (d.set s (f s)) room unset
      have value := reads p (by simp) s known _ closes
      have open_slot : (d s).isSome = false := by simp [free s (by simp)]
      refine ⟨d', ?_, Shape.Draft.set_then new filled kept⟩
      rw [List.map_cons, separated_cons, memberText, recordMembers, next]
      simp only [bind, Except.bind, known, open_slot, colon_colon, value, rest]
      rfl

/-- Members that the record does not know are passed over, whatever they are. -/
theorem record_members (read : (s : F.Slot) → Nat → Reader (F.Value s)) (n : Nat) (f : F.Filled)
    {ms : List (String × Json)} (distinct : (slotsOf F ms).Nodup)
    (reads : ∀ p ∈ ms, ∀ s, F.slot? p.1 = some s → ReadsAs (read s n) (ofChars p.2.chars) (f s))
    (absent : ∀ s ∉ slotsOf F ms, F.absent s = some (f s)) :
    ReadsAs (record F read (n + 1)) (ofChars (Json.object ms).chars) f := by
  intro r _
  have room := length_le_separated true (ms.map memberText) (by
    intro w hw
    obtain ⟨p, -, rfl⟩ := List.mem_map.mp hw
    simp [memberText, member, ofChars_textChars])
  obtain ⟨d, inside, filled, kept⟩ := recordMembers_separated (fun s => read s n) f distinct reads r
    ((separated true (ms.map memberText) ++ 125 :: r).length + 1) true (Shape.Draft.empty F)
    (by simp at room ⊢; omega) (fun _ _ => rfl)
  have complete := Shape.Draft.fill_read filled kept absent
  have text : ofChars (Json.object ms).chars ++ r =
      123 :: (separated true (ms.map memberText) ++ 125 :: r) := by
    have parts : ms.map (fun p => member p.1 (ofChars p.2.chars)) = ms.map memberText := rfl
    rw [chars, List.cons_append, ofChars_ascii (by decide), ofChars_append, memberChars_separated,
      parts]
    simp [ofChars_ascii]
  have self (s : Bytes) : peek (123 :: s) = .ok (123, s) := rfl
  rw [text]
  simp only [record, self, bind, Except.bind, descend, inside, fill, complete]
  rfl

def written (F : Shape) (write : F.Slot → Option Json) : List (String × Json) :=
  F.slots.filterMap fun s => (write s).map fun v => (F.name s, v)

theorem forall_written {write : F.Slot → Option Json} {P : Json → Prop}
    (h : ∀ s v, write s = some v → P v) : ∀ p ∈ written F write, P p.2 := by
  intro p hp
  obtain ⟨s, v, e, rfl⟩ := Shape.exists_of_mem_entries hp
  exact h s v e

theorem record_written (named : Named F) (distinct : F.slots.Nodup)
    (read : (s : F.Slot) → Nat → Reader (F.Value s)) (n : Nat) (f : F.Filled)
    (write : F.Slot → Option Json)
    (reads : ∀ s v, write s = some v → ReadsAs (read s n) (ofChars v.chars) (f s))
    (absent : ∀ s, write s = none → F.absent s = some (f s)) :
    ReadsAs (record F read (n + 1)) (ofChars (Json.object (written F write)).chars) f := by
  have slots : slotsOf F (written F write) = _ := Shape.slotsOf_entries named
  apply record_members read n f
  · rw [slots]
    exact distinct.filter _
  · intro p hp t known
    obtain ⟨s, v, e, rfl⟩ := Shape.exists_of_mem_entries hp
    have same : s = t := Option.some.inj ((named s).symm.trans known)
    subst same
    exact reads s v e
  · intro s missing
    exact absent s (Shape.write_eq_none named missing)

end RequestAuth.Json.Read
