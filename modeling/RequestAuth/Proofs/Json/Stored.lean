import RequestAuth.Proofs.Json.Source

/-! Every text of a document is read as the same value, however it is written, or all of them are refused:
where a number is too large or the nesting too deep. -/

namespace RequestAuth.Json
open Bytes

namespace Document

mutual

def stored : Document → Nat → Option Json
  | null, _ => some .null
  | bool b, _ => some (.bool b)
  | number t, _ => t.stored.map .number
  | text s, _ => some (.text s)
  | list _, 0 => none
  | list items, n + 1 => (itemsStored items n).map .list
  | object _, 0 => none
  | object members, n + 1 => (membersStored members n).map fun ps => .object (Members.ofList ps)

def itemsStored : List Document → Nat → Option (List Json)
  | [], _ => some []
  | d :: r, n => do
    let v ← stored d n
    let vs ← itemsStored r n
    return v :: vs

def membersStored : List (String × Document) → Nat → Option (List (String × Json))
  | [], _ => some []
  | (name, d) :: r, n => do
    let v ← stored d n
    let ps ← membersStored r n
    return (name, v) :: ps

end

end Document

namespace Document
open Read

def Tokens (d : Document) (w : Bytes) (v : Source) : Prop :=
  Spaced v.tokens w ∧ ∀ n, v.stored n = d.stored n

theorem Tokens.spaced {d : Document} {w b s : Bytes} {v : Source} {ts : List Bytes} (h : Tokens d w v)
    (blank : Blank b) (rest : Spaced ts s) : Spaced (v.tokens ++ ts) (b ++ (w ++ s)) := by
  obtain ⟨t, us, first, -⟩ := v.tokens_opens
  rw [← List.append_assoc]
  refine Spaced.append_iff.mpr ⟨b ++ w, s, ?_, rest, rfl⟩
  rw [first]
  exact .before blank (first ▸ h.1)

theorem exists_items {is : List Item} (blanks : ∀ i ∈ is, Blank i.before ∧ Blank i.after)
    (each : ∀ i ∈ is, ∃ v, Tokens i.document i.text v) : ∃ vs,
      (∀ first b, Blank b → Spaced (Source.itemsTokens first vs)
        (b ++ (separated first (is.map Item.bytes) ++ [93]))) ∧
      ∀ n, Source.itemsStored vs n = itemsStored (is.map Item.document) n := by
  induction is with
  | nil =>
    refine ⟨[], fun first b blank => ?_, fun n => rfl⟩
    rw [List.map_nil, separated_nil]
    exact .cons blank .nil
  | cons i is ih =>
    obtain ⟨before, after⟩ := blanks i (by simp)
    obtain ⟨v, tokens⟩ := each i (by simp)
    obtain ⟨vs, rest, kept⟩ := ih (fun j hj => blanks j (by simp [hj])) fun j hj => each j (by simp [hj])
    refine ⟨v :: vs, fun first b blank => ?_, fun n => ?_⟩
    · have parts {b : Bytes} (blank : Blank b) := tokens.spaced blank (rest false i.after after)
      rw [List.map_cons, separated_cons, Item.bytes, Source.itemsTokens]
      cases first with
      | true => simpa [Source.comma] using parts (blank.append before)
      | false => simpa [Source.comma] using Spaced.cons (t := [44]) blank (parts before)
    · rw [Source.itemsStored, List.map_cons, itemsStored, tokens.2, kept]
      cases i.document.stored n with
      | none => rfl
      | some x => cases itemsStored (is.map Item.document) n <;> rfl

theorem exists_members {ms : List Member}
    (blanks : ∀ m ∈ ms, Blank m.before ∧ Blank m.after ∧ Blank m.beforeName ∧ Blank m.afterName)
    (names : ∀ m ∈ ms, WritesText m.name.toList m.nameText)
    (each : ∀ m ∈ ms, ∃ v, Tokens m.document m.text v) : ∃ vs,
      (∀ first b, Blank b → Spaced (Source.membersTokens first vs)
        (b ++ (separated first (ms.map Member.bytes) ++ [125]))) ∧
      ∀ n, Source.membersStored vs n = membersStored (ms.map Member.entry) n := by
  induction ms with
  | nil =>
    refine ⟨[], fun first b blank => ?_, fun n => rfl⟩
    rw [List.map_nil, separated_nil]
    exact .cons blank .nil
  | cons m ms ih =>
    obtain ⟨before, after, beforeName, afterName⟩ := blanks m (by simp)
    have name := names m (by simp)
    obtain ⟨v, tokens⟩ := each m (by simp)
    obtain ⟨vs, rest, kept⟩ := ih (fun k hk => blanks k (by simp [hk])) (fun k hk => names k (by simp [hk]))
      fun k hk => each k (by simp [hk])
    let q : QuotedText := ⟨m.nameText, name.quoted⟩
    refine ⟨(q, v) :: vs, fun first b blank => ?_, fun n => ?_⟩
    · have parts := tokens.spaced before (rest false m.after after)
      have named {b : Bytes} (blank : Blank b) :=
        Spaced.cons (t := q.token) blank (.cons (t := [58]) afterName parts)
      rw [List.map_cons, separated_cons, Member.bytes, Item.bytes, Source.membersTokens]
      cases first with
      | true => simpa [Source.comma, QuotedText.token, q] using named (blank.append beforeName)
      | false => simpa [Source.comma, QuotedText.token, q] using Spaced.cons (t := [44]) blank (named beforeName)
    · have spelled : q.stored = some m.name := QuotedText.stored_eq_some.mpr name
      rw [Source.membersStored, List.map_cons, Member.entry, membersStored, tokens.2, kept, spelled]
      cases m.document.stored n with
      | none => rfl
      | some x => cases membersStored (ms.map Member.entry) n <;> rfl

theorem Writes.exists_tokens {d : Document} {w : Bytes} (h : d.Writes w) : ∃ v, Tokens d w v := by
  have alone (t : Bytes) : Spaced [t] t := by simpa using Spaced.cons (t := t) blank_nil .nil
  induction h with
  | null => exact ⟨.null, alone _, fun n => rfl⟩
  | true => exact ⟨.bool Bool.true, alone _, fun n => rfl⟩
  | false => exact ⟨.bool Bool.false, alone _, fun n => rfl⟩
  | number valid => exact ⟨.number _ valid, alone _, fun n => rfl⟩
  | @text s w chars =>
    let q : QuotedText := ⟨w, chars.quoted⟩
    have spelled : q.stored = some s := QuotedText.stored_eq_some.mpr chars
    refine ⟨.text q, alone _, fun n => ?_⟩
    rw [Source.stored, spelled]
    rfl
  | list blank blanks each ih =>
    obtain ⟨vs, spaced, kept⟩ := exists_items blanks ih
    have text := Spaced.cons (t := [91]) blank_nil (spaced Bool.true _ blank)
    refine ⟨.list vs, by simpa [Source.tokens] using text, fun n => ?_⟩
    cases n with
    | zero => rfl
    | succ n => rw [Source.stored, kept, stored]
  | object blank blanks names each ih =>
    obtain ⟨vs, spaced, kept⟩ := exists_members blanks names ih
    have text := Spaced.cons (t := [123]) blank_nil (spaced Bool.true _ blank)
    refine ⟨.object vs, by simpa [Source.tokens] using text, fun n => ?_⟩
    cases n with
    | zero => rfl
    | succ n => rw [Source.stored, kept, stored]

/-- A whole text is read as what is kept of its document, or refused if nothing is. -/
theorem IsText.parse_eq_ok {d : Document} {s : Bytes} (h : d.IsText s) {v : Json} :
    parse s = .ok v ↔ d.stored maxDepth = some v := by
  obtain ⟨b, w, a, before, after, writes, rfl⟩ := h
  obtain ⟨source, tokens⟩ := writes.exists_tokens
  have text : source.IsText (b ++ (w ++ a)) := by
    have spaced := tokens.spaced before .nil
    rw [List.append_nil, List.append_nil] at spaced
    exact ⟨b ++ w, a, spaced, after, by simp⟩
  rw [text.parse_eq_ok, tokens.2]

end Document
end RequestAuth.Json
