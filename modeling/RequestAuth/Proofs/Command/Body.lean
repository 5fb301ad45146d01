import Mathlib.Data.List.TakeWhile
import RequestAuth.Command.Run
import RequestAuth.Proofs.Http.Body

/-! The body of a command and the body of a request, read from the same text. -/

namespace RequestAuth

theorem trimBlank_eq_empty {text : String} : trimBlank text = "" ↔ ∀ c ∈ text.toList, isBlank c := by
  rw [← String.toList_inj, trimBlank, String.toList_ofList, String.toList_empty]
  constructor
  · intro none c hc
    by_contra visible
    have kept := mem_trimList hc (Bool.eq_false_of_not_eq_true visible)
    rw [none] at kept
    cases kept
  · intro blank
    have dropped : text.toList.dropWhile isBlank = [] := List.dropWhile_eq_nil_iff.mpr blank
    rw [trimList, dropped]
    rfl

namespace Command
open Bytes

theorem parseBody_blank {text : String} (blank : trimBlank text = "") : parseBody (some text) = .ok [] :=
  if_pos blank

theorem parseBody_eq_ok {text : String} (visible : trimBlank text ≠ "") {ms : Members} :
    parseBody (some text) = .ok ms ↔ Json.Read.parse (ofText text) = .ok (.object ms) := by
  cases read : Json.Read.parse (ofText text) with
  | error f => simp [parseBody, visible, read]
  | ok v => cases v <;> simp [parseBody, visible, read]

theorem parseBody_object {text : String} {ms : Members} (read : Json.Read.parse (ofText text) = .ok (.object ms)) :
    parseBody (some text) = .ok ms :=
  (parseBody_eq_ok (Json.Read.trimBlank_object read)).mpr read

theorem ofText_ne_nil {text : String} (some : text ≠ "") : ofText text ≠ [] := by
  intro none
  have octets := length_le_ofChars text.toList
  rw [← ofText_eq_ofChars, none, List.length_nil, Nat.le_zero, List.length_eq_zero_iff] at octets
  exact some (String.toList_inj.mp octets)

/-- Blank texts apart, the command and the request accept the same bodies and read the same members from them.
For the command alone, a blank text is as good as none. -/
theorem bodies_alike :
    (∀ text : String, (∃ c ∈ text.toList, isBlank c = false) →
      (∃ ms, parseBody (some text) = .ok ms ∧ (Body.octets (ofText text)).members = .ok ms) ∨
      (∃ f g, parseBody (some text) = .error f ∧ (Body.octets (ofText text)).members = .error g)) ∧
    (parseBody none = .ok [] ∧ Body.none.members = .ok [] ∧
      parseBody (some "") = .ok [] ∧ (Body.octets (ofText "")).members = .ok []) ∧
    (∀ text : String, text ≠ "" → (∀ c ∈ text.toList, isBlank c) →
      parseBody (some text) = .ok [] ∧ ∃ f, (Body.octets (ofText text)).members = .error f) := by
  refine ⟨?_, ⟨rfl, rfl, rfl, rfl⟩, ?_⟩
  · rintro text ⟨c, hc, visible⟩
    have some : text ≠ "" := by
      rintro rfl
      cases hc
    have visible : trimBlank text ≠ "" := by
      intro blank
      rw [trimBlank_eq_empty.mp blank c hc] at visible
      cases visible
    have same {ms : Members} : parseBody (.some text) = .ok ms ↔ (Body.octets (ofText text)).members = .ok ms :=
      (parseBody_eq_ok visible).trans (Body.members_octets (ofText_ne_nil some)).symm
    cases command : parseBody (.some text) with
    | ok ms => exact Or.inl ⟨ms, rfl, same.mp command⟩
    | error f =>
      cases request : (Body.octets (ofText text)).members with
      | ok ms =>
        rw [same.mpr request] at command
        cases command
      | error g => exact Or.inr ⟨f, g, rfl, rfl⟩
  · intro text some blank
    have blank := trimBlank_eq_empty.mpr blank
    refine ⟨parseBody_blank blank, ?_⟩
    cases request : (Body.octets (ofText text)).members with
    | ok ms =>
      have read := (Body.members_octets (ofText_ne_nil some)).mp request
      exact absurd blank (Json.Read.trimBlank_object read)
    | error f => exact ⟨f, rfl⟩

/-- The empty object behind a space is a body on both ways, and a no-break space on one of them. -/
theorem bodies_alike_sample :
    parseBody (some " \x7b\x7d") = .ok [] ∧ (Body.octets (ofText " \x7b\x7d")).members = .ok [] ∧
    parseBody (some "\u00a0") = .ok [] ∧ ∃ f, (Body.octets (ofText "\u00a0")).members = .error f := by
  obtain ⟨visible, -, blank⟩ := bodies_alike
  have object : parseBody (some " \x7b\x7d") = .ok [] := by
    refine parseBody_object ?_
    rfl
  obtain ⟨ms, command, request⟩ | ⟨f, -, command, -⟩ := visible " \x7b\x7d" ⟨'\x7b', by decide, by decide⟩
  · rw [object] at command
    cases command
    have blanks : "\u00a0".toList.all isBlank := by decide
    exact ⟨object, request, blank "\u00a0" (by decide) (List.all_eq_true.mp blanks)⟩
  · rw [object] at command
    cases command

end Command
end RequestAuth
