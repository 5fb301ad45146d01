import RequestAuth.Proofs.Json.Grammar

/-! The document that is written for a value. -/

namespace RequestAuth.Json

mutual

def document : Json → Document
  | null => .null
  | bool b => .bool b
  | number n => .number (numberText n)
  | text s => .text s
  | list items => .list (itemsDocument items)
  | object members => .object (membersDocument members)

def itemsDocument : List Json → List Document
  | [] => []
  | v :: r => document v :: itemsDocument r

def membersDocument : List (String × Json) → List (String × Document)
  | [] => []
  | (n, v) :: r => (n, document v) :: membersDocument r

end

theorem itemsDocument_map (items : List Json) : itemsDocument items = items.map document := by
  induction items with
  | nil => rfl
  | cons v r ih => rw [itemsDocument, ih, List.map_cons]

theorem membersDocument_map (ms : List (String × Json)) :
    membersDocument ms = ms.map fun p => (p.1, p.2.document) := by
  induction ms with
  | nil => rfl
  | cons p r ih => rw [membersDocument, ih, List.map_cons]

open Bytes in
theorem writes_chars (v : Json) : v.document.Writes (ofChars v.chars) := by
  induction v with
  | null => exact .null
  | bool b =>
    cases b
    · exact .false
    · exact .true
  | number n =>
    obtain ⟨valid, chars⟩ := numberText_chars n
    rw [document, Json.chars, ← chars]
    exact .number valid
  | text s =>
    rw [document, Json.chars, Read.ofChars_textChars]
    exact .text (writesText_escape s.toList)
  | list items ih =>
    let part (v : Json) : Item := ⟨[], v.document, ofChars v.chars, []⟩
    have blanks : ∀ i ∈ items.map part, Blank i.before ∧ Blank i.after := by
      intro i hi
      obtain ⟨v, -, rfl⟩ := List.mem_map.mp hi
      exact ⟨blank_nil, blank_nil⟩
    have each : ∀ i ∈ items.map part, i.document.Writes i.text := by
      intro i hi
      obtain ⟨v, hv, rfl⟩ := List.mem_map.mp hi
      exact ih v hv
    have written := Document.Writes.list blank_nil blanks each
    have bytes : (items.map part).map Item.bytes = items.map fun v => ofChars v.chars := by
      simp [part, Item.bytes]
    have documents : (items.map part).map Item.document = items.map document := by
      simp [part]
    rw [document, itemsDocument_map, Json.chars, List.cons_append, ofChars_ascii (by decide), ofChars_append,
      Read.itemChars_separated, ← bytes, ← documents]
    exact written
  | object ms ih =>
    let part (p : String × Json) : Member :=
      ⟨⟨[], p.2.document, ofChars p.2.chars, []⟩, [], p.1, ofChars (p.1.toList.flatMap escape), []⟩
    have blanks : ∀ m ∈ ms.map part,
        Blank m.before ∧ Blank m.after ∧ Blank m.beforeName ∧ Blank m.afterName := by
      intro m hm
      obtain ⟨p, -, rfl⟩ := List.mem_map.mp hm
      exact ⟨blank_nil, blank_nil, blank_nil, blank_nil⟩
    have names : ∀ m ∈ ms.map part, WritesText m.name.toList m.nameText := by
      intro m hm
      obtain ⟨p, -, rfl⟩ := List.mem_map.mp hm
      exact writesText_escape _
    have each : ∀ m ∈ ms.map part, m.document.Writes m.text := by
      intro m hm
      obtain ⟨p, hp, rfl⟩ := List.mem_map.mp hm
      exact ih p hp
    have written := Document.Writes.object blank_nil blanks names each
    have bytes : (ms.map part).map Member.bytes = ms.map fun p => Read.member p.1 (ofChars p.2.chars) := by
      simp [part, Member.bytes, Item.bytes, Read.member, Read.ofChars_textChars]
    have entries : (ms.map part).map Member.entry = ms.map fun p => (p.1, p.2.document) := by
      simp [part, Member.entry]
    rw [document, membersDocument_map, Json.chars, List.cons_append, ofChars_ascii (by decide), ofChars_append,
      Read.memberChars_separated, ← bytes, ← entries]
    exact written

theorem isText_render (v : Json) : v.document.IsText (Bytes.ofText v.render) := by
  refine ⟨[], _, [], blank_nil, blank_nil, writes_chars v, ?_⟩
  rw [render, Bytes.ofText_ofList, List.nil_append, List.append_nil]

end RequestAuth.Json
