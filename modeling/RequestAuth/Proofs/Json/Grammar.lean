import Mathlib.Algebra.Field.Rat
import RequestAuth.Proofs.Json.Numeral
import RequestAuth.Proofs.Json.Value

/-! JSON texts and what they say, apart from any reader. Blanks may stand between the parts of a text and
characters may be escaped; a number has its exact decimal value, and of members with one name the last
counts. -/

namespace RequestAuth.Json
open Bytes

structure PowerText where
  mark : Char
  sign : Option Char
  digits : List Char

/-- A number as it is written. There is a point if there are places after it. -/
structure NumberText where
  negative : Bool
  whole : List Char
  places : List Char
  power : Option PowerText

namespace PowerText

def chars (e : PowerText) : List Char := e.mark :: (e.sign.toList ++ e.digits)

structure Valid (e : PowerText) : Prop where
  mark : e.mark = 'e' ∨ e.mark = 'E'
  sign : ∀ c ∈ e.sign, c = '+' ∨ c = '-'
  digits : Read.Places e.digits

def value (e : PowerText) : Int :=
  if e.sign = some '-' then -(Nat.ofDigitChars 10 e.digits 0 : Int) else Nat.ofDigitChars 10 e.digits 0

def ofChars : List Char → Option PowerText
  | [] => none
  | m :: '+' :: r => some ⟨m, some '+', r⟩
  | m :: '-' :: r => some ⟨m, some '-', r⟩
  | m :: r => some ⟨m, none, r⟩

theorem ofChars_chars {e : PowerText} (valid : e.Valid) : ofChars e.chars = some e := by
  obtain ⟨mark, sign, digits⟩ := e
  cases sign with
  | some c =>
    obtain rfl | rfl := valid.sign c rfl <;> rfl
  | none =>
    obtain ⟨several, all⟩ := valid.digits
    cases digits with
    | nil => exact absurd rfl several
    | cons d r =>
      have digit := all d (by simp)
      have plus : d ≠ '+' := by
        rintro rfl
        exact absurd digit (by decide)
      have minus : d ≠ '-' := by
        rintro rfl
        exact absurd digit (by decide)
      simp [chars, ofChars, plus, minus]

end PowerText

namespace NumberText

def powerChars (t : NumberText) : List Char := t.power.elim [] PowerText.chars

def tailChars (t : NumberText) : List Char :=
  (if t.places = [] then [] else '.' :: t.places) ++ t.powerChars

def unsignedChars (t : NumberText) : List Char := t.whole ++ t.tailChars

def chars (t : NumberText) : List Char := (if t.negative then ['-'] else []) ++ t.unsignedChars

structure Valid (t : NumberText) : Prop where
  whole : Read.Whole t.whole
  places : ∀ c ∈ t.places, c.isDigit
  power : ∀ e ∈ t.power, e.Valid

def value (t : NumberText) : ℚ :=
  (if t.negative then -1 else 1) * (Nat.ofDigitChars 10 (t.whole ++ t.places) 0 : ℚ) *
    10 ^ ((t.power.elim 0 PowerText.value) - t.places.length : ℤ)

def ofUnsigned (negative : Bool) (cs : List Char) : NumberText :=
  match cs.dropWhile Char.isDigit with
  | '.' :: r => ⟨negative, cs.takeWhile Char.isDigit, r.takeWhile Char.isDigit,
      PowerText.ofChars (r.dropWhile Char.isDigit)⟩
  | r => ⟨negative, cs.takeWhile Char.isDigit, [], PowerText.ofChars r⟩

def ofChars : List Char → NumberText
  | '-' :: r => ofUnsigned true r
  | cs => ofUnsigned false cs

theorem powerChars_head {t : NumberText} (valid : t.Valid) :
    ∀ c ∈ t.powerChars.head?, ¬ c.isDigit ∧ c ≠ '.' := by
  intro c hc
  rw [powerChars] at hc
  cases e : t.power with
  | none =>
    rw [e] at hc
    cases hc
  | some p =>
    rw [e] at hc
    cases hc
    obtain mark | mark := (valid.power p e).mark <;> rw [mark] <;> decide

theorem span_digits {ds r : List Char} (digits : ∀ c ∈ ds, c.isDigit) (stop : ∀ c ∈ r.head?, ¬ c.isDigit) :
    (ds ++ r).takeWhile Char.isDigit = ds ∧ (ds ++ r).dropWhile Char.isDigit = r := by
  rw [List.takeWhile_append_of_pos digits, List.dropWhile_append_of_pos digits]
  cases r with
  | nil => simp
  | cons c r =>
    have other := stop c rfl
    simp [other]

theorem powerText_powerChars {t : NumberText} (valid : t.Valid) :
    PowerText.ofChars t.powerChars = t.power := by
  rw [powerChars]
  cases e : t.power with
  | none => rfl
  | some p => exact PowerText.ofChars_chars (valid.power p e)

theorem ofUnsigned_unsignedChars {t : NumberText} (valid : t.Valid) :
    ofUnsigned t.negative t.unsignedChars = t := by
  have power := powerText_powerChars valid
  have head := powerChars_head valid
  have tail : ∀ c ∈ t.tailChars.head?, ¬ c.isDigit := by
    intro c hc
    rw [tailChars] at hc
    split at hc
    · exact (head c (by simpa using hc)).1
    · cases hc
      decide
  obtain ⟨front, back⟩ := span_digits valid.whole.1.2 tail
  obtain ⟨places, rest⟩ := span_digits valid.places fun c hc => (head c hc).1
  rw [ofUnsigned, unsignedChars, front, back, tailChars]
  by_cases none : t.places = []
  · rw [if_pos none, List.nil_append]
    split
    · rename_i r e
      exact absurd rfl (head '.' (by simp [e])).2
    · rw [power, ← none]
  · rw [if_neg none, List.cons_append]
    simp only [places, rest, power]

theorem ofChars_chars {t : NumberText} (valid : t.Valid) : ofChars t.chars = t := by
  have self := ofUnsigned_unsignedChars valid
  rw [chars]
  cases negative : t.negative with
  | true => rwa [negative] at self
  | false =>
    rw [negative] at self
    obtain ⟨⟨several, digits⟩, -⟩ := valid.whole
    obtain ⟨d, r, whole⟩ := List.exists_cons_of_ne_nil several
    have other : d ≠ '-' := by
      rintro rfl
      exact absurd (digits '-' (by simp [whole])) (by decide)
    have text : t.unsignedChars = d :: (r ++ t.tailChars) := by rw [unsignedChars, whole, List.cons_append]
    rw [text] at self ⊢
    simp only [Bool.false_eq_true, if_false, List.nil_append]
    rw [ofChars]
    · exact self
    · intro _ e
      exact other (List.cons.inj e).1

theorem exists_numeral {cs : List Char} (h : Read.Numeral cs) (negative : Bool) :
    ∃ t : NumberText, t.Valid ∧ t.negative = negative ∧ t.unsignedChars = cs := by
  have power {e : List Char} (h : Read.Exponent e) :
      ∃ p : Option PowerText, (∀ x ∈ p, x.Valid) ∧ p.elim [] PowerText.chars = e := by
    cases h with
    | none => exact ⟨none, nofun, rfl⟩
    | some signed places =>
      rename_i sign ds
      refine ⟨some ⟨'e', some sign, ds⟩, ?_, rfl⟩
      rintro _ ⟨⟩
      exact ⟨Or.inl rfl, by rintro _ ⟨⟩; exact signed, places⟩
  cases h with
  | whole whole exponent =>
    rename_i w e
    obtain ⟨p, valid, rfl⟩ := power exponent
    exact ⟨⟨negative, w, [], p⟩, ⟨whole, nofun, valid⟩, rfl, rfl⟩
  | point whole places exponent =>
    rename_i w f e
    obtain ⟨p, valid, rfl⟩ := power exponent
    refine ⟨⟨negative, w, f, p⟩, ⟨whole, places.2, valid⟩, rfl, ?_⟩
    rw [unsignedChars, tailChars, if_neg places.1]
    rfl

end NumberText

def numberText (n : JsonNumber) : NumberText := .ofChars n.chars

theorem numberText_chars (n : JsonNumber) : (numberText n).Valid ∧ (numberText n).chars = n.chars := by
  obtain ⟨ds, numeral, signed⟩ := Read.signed_number n
  obtain ⟨t, valid, chars⟩ : ∃ t : NumberText, t.Valid ∧ t.chars = n.chars := by
    obtain e | e := signed
    · obtain ⟨t, valid, negative, rfl⟩ := NumberText.exists_numeral numeral true
      exact ⟨t, valid, by rw [NumberText.chars, negative, e]; rfl⟩
    · obtain ⟨t, valid, negative, rfl⟩ := NumberText.exists_numeral numeral false
      exact ⟨t, valid, by rw [NumberText.chars, negative, e]; rfl⟩
  rw [numberText, ← chars, NumberText.ofChars_chars valid]
  exact ⟨valid, rfl⟩

/-- What a text says, with its numbers as they are written and all members in order. -/
inductive Document where
  | null
  | bool (b : Bool)
  | number (t : NumberText)
  | text (s : String)
  | list (items : List Document)
  | object (members : List (String × Document))

def Blank (b : Bytes) : Prop := ∀ c ∈ b, Read.isSpace c

theorem blank_nil : Blank [] := nofun

structure Item where
  before : Bytes
  document : Document
  text : Bytes
  after : Bytes

def Item.bytes (i : Item) : Bytes := i.before ++ (i.text ++ i.after)

structure Member extends Item where
  beforeName : Bytes
  name : String
  nameText : Bytes
  afterName : Bytes

def Member.bytes (m : Member) : Bytes :=
  m.beforeName ++ 34 :: (m.nameText ++ 34 :: (m.afterName ++ 58 :: m.toItem.bytes))

def Member.entry (m : Member) : String × Document := (m.name, m.document)

inductive Document.Writes : Document → Bytes → Prop where
  | null : Writes .null [110, 117, 108, 108]
  | true : Writes (.bool true) [116, 114, 117, 101]
  | false : Writes (.bool false) [102, 97, 108, 115, 101]
  | number {t : NumberText} (valid : t.Valid) : Writes (.number t) (ofChars t.chars)
  | text {s : String} {w : Bytes} (chars : WritesText s.toList w) : Writes (.text s) (34 :: (w ++ [34]))
  | list {b : Bytes} {is : List Item} (blank : Blank b) (blanks : ∀ i ∈ is, Blank i.before ∧ Blank i.after)
    (each : ∀ i ∈ is, Writes i.document i.text) :
    Writes (.list (is.map Item.document)) (91 :: (b ++ (Read.separated Bool.true (is.map Item.bytes) ++ [93])))
  | object {b : Bytes} {ms : List Member} (blank : Blank b)
    (blanks : ∀ m ∈ ms, Blank m.before ∧ Blank m.after ∧ Blank m.beforeName ∧ Blank m.afterName)
    (names : ∀ m ∈ ms, WritesText m.name.toList m.nameText) (each : ∀ m ∈ ms, Writes m.document m.text) :
    Writes (.object (ms.map Member.entry))
      (123 :: (b ++ (Read.separated Bool.true (ms.map Member.bytes) ++ [125])))

/-- A whole text with blanks around it. -/
def Document.IsText (d : Document) (s : Bytes) : Prop :=
  ∃ b w a, Blank b ∧ Blank a ∧ d.Writes w ∧ s = b ++ (w ++ a)

def lastOf {α : Type} : List (String × α) → String → Option α
  | [], _ => none
  | (n, a) :: r, name => (lastOf r name).or (if name = n then some a else none)

/-- What documents have in common that say the same. -/
inductive Meaning where
  | null
  | bool (b : Bool)
  | number (q : ℚ)
  | text (s : String)
  | list (items : List Meaning)
  | object (find : String → Option Meaning)

namespace Document

mutual

def meaning (value : NumberText → ℚ) : Document → Meaning
  | null => .null
  | bool b => .bool b
  | number t => .number (value t)
  | text s => .text s
  | list items => .list (itemsMeaning value items)
  | object members => .object (lastOf (membersMeaning value members))

def itemsMeaning (value : NumberText → ℚ) : List Document → List Meaning
  | [] => []
  | d :: r => meaning value d :: itemsMeaning value r

def membersMeaning (value : NumberText → ℚ) : List (String × Document) → List (String × Meaning)
  | [] => []
  | (n, d) :: r => (n, meaning value d) :: membersMeaning value r

end

mutual

def numbers : Document → List NumberText
  | null | bool _ | text _ => []
  | number t => [t]
  | list items => itemsNumbers items
  | object members => membersNumbers members

def itemsNumbers : List Document → List NumberText
  | [] => []
  | d :: r => numbers d ++ itemsNumbers r

def membersNumbers : List (String × Document) → List NumberText
  | [] => []
  | (_, d) :: r => numbers d ++ membersNumbers r

end

end Document
end RequestAuth.Json
