import RequestAuth.Json.Typed
import RequestAuth.Proofs.Ensures
import RequestAuth.Proofs.Text.Utf8
import RequestAuth.Text.Blank

/-! An object is read in the same way by itself as where any value may stand. -/

namespace RequestAuth.Json.Read
open Bytes

theorem wrongType_ne_ok {α : Type} {expected : String} {s : Bytes} {p : α × Bytes} :
    (wrongType expected s : Except Stop (α × Bytes)) ≠ .ok p := by
  have never : Ensures (fun _ => False) (wrongType expected s : Except Stop (α × Bytes)) := by
    unfold wrongType
    split
    · exact Ensures.error _
    · repeat' split
      all_goals first
        | exact Ensures.error _
        | exact Ensures.bind fun _ _ => Ensures.error _
  exact never p

theorem object_of_valueOver {inner : Option (Reader Json)} {c : UInt8} {s r : Bytes} {ms : Members}
    (first : skipSpace s = c :: r) (h : ∃ rest, valueOver inner s = .ok (.object ms, rest)) : c = 123 := by
  by_cases brace : c = 123
  · exact brace
  have other : Ensures (fun p => ∀ ms, p.1 ≠ Json.object ms) (valueOver inner s) := by
    unfold valueOver
    rw [first]
    dsimp only
    repeat' split
    all_goals first
      | exact absurd ‹c = 123› brace
      | exact Ensures.error _
      | exact Ensures.bind fun _ _ => Ensures.pure_iff.mpr fun _ => nofun
  obtain ⟨rest, h⟩ := h
  exact absurd rfl (other _ h ms)

theorem object_eq_ok {n : Nat} {s r : Bytes} {ms : Members} :
    object (n + 1) s = .ok (ms, r) ↔ value (n + 1) s = .ok (.object ms, r) := by
  have same : value (n + 1) s = valueOver (some (value n)) s := rfl
  rw [same]
  cases first : skipSpace s with
  | nil => simp [object, peek, valueOver, first, stopPast, bind, Except.bind]
  | cons c t =>
    by_cases brace : c = 123
    · subst brace
      simp only [object, peek, valueOver, first, descend, isDigit, bind, Except.bind]
      cases members (value n) (t.length + 1) true [] t with
      | ok p => simp [pure, Except.pure, Prod.ext_iff]
      | error e => simp
    · constructor
      · intro h
        simp only [object, peek, first, bind, Except.bind, brace, if_false] at h
        exact absurd h wrongType_ne_ok
      · intro h
        exact absurd (object_of_valueOver first ⟨r, h⟩) brace

theorem document_eq_ok {α : Type} {read : Nat → Reader α} {s : Bytes} {a : α} :
    document read s = .ok a ↔ ∃ r, read maxDepth s = .ok (a, r) ∧ skipSpace r = [] := by
  rw [document, mapError_eq_ok, toEnd]
  cases read maxDepth s with
  | error e => simp [bind, Except.bind]
  | ok p =>
    obtain ⟨b, t⟩ := p
    simp only [bind, Except.bind]
    cases end' : skipSpace t with
    | nil =>
      constructor
      · intro h
        cases h
        exact ⟨t, rfl, end'⟩
      · intro h
        obtain ⟨_, ⟨⟩, -⟩ := h
        rfl
    | cons c u => simp [stopPast, end']

/-- A document that is read as an object is read as the same object where any value would do. -/
theorem document_object {s : Bytes} {ms : Members} :
    document object s = .ok ms ↔ parse s = .ok (.object ms) := by
  rw [parse, document_eq_ok, document_eq_ok]
  exact exists_congr fun r => and_congr_left fun _ => object_eq_ok

theorem trimBlank_object {text : String} {ms : Members} (h : parse (ofText text) = .ok (.object ms)) :
    trimBlank text ≠ "" := by
  obtain ⟨r, h, -⟩ := document_eq_ok.mp h
  have brace : '\x7b' ∈ text.toList := by
    cases first : skipSpace (ofText text) with
    | nil => simp [value, maxDepth, valueOver, first, stopPast] at h
    | cons c t =>
      cases object_of_valueOver first ⟨r, h⟩
      have octet : 123 ∈ skipSpace (ofText text) := first ▸ List.mem_cons_self
      have octet : 123 ∈ ofText text := (List.dropWhile_suffix isSpace).subset octet
      rw [ofText_eq_ofChars] at octet
      exact (mem_ofChars_ascii (by decide) _).mp octet
  intro blank
  have none := congrArg String.toList blank
  rw [trimBlank, String.toList_ofList, String.toList_empty] at none
  have kept := mem_trimList brace (by decide)
  rw [none] at kept
  cases kept

end RequestAuth.Json.Read
