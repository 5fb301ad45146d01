import RequestAuth.Proofs.Json.Document
import RequestAuth.Proofs.Json.Stored

/-! What is kept of a document and written again says the same as the document, but for numbers that do not
fit 64 bits and are rounded. -/

namespace RequestAuth

namespace Json
variable {α β : Type}

theorem lastOf_map (f : α → β) (ps : List (String × α)) (name : String) :
    lastOf (ps.map fun p => (p.1, f p.2)) name = (lastOf ps name).map f := by
  induction ps with
  | nil => rfl
  | cons p ps ih =>
    rw [List.map_cons, lastOf, lastOf, ih]
    cases lastOf ps name with
    | some a => rfl
    | none => by_cases same : name = p.1 <;> simp [same]

theorem lastOf_eq_none {ps : List (String × α)} {name : String} (h : ∀ p ∈ ps, p.1 ≠ name) :
    lastOf ps name = none := by
  induction ps with
  | nil => rfl
  | cons p ps ih =>
    have other : name ≠ p.1 := (h p (by simp)).symm
    rw [lastOf, ih fun q hq => h q (by simp [hq]), if_neg other]
    rfl

theorem lastOf_ne_none {ps : List (String × α)} {p : String × α} (h : p ∈ ps) : lastOf ps p.1 ≠ none := by
  induction ps with
  | nil => cases h
  | cons q ps ih =>
    rw [lastOf]
    cases List.mem_cons.mp h with
    | inl same => simp [← same]
    | inr later => simp [ih later]

end Json

namespace Members
open Json

theorem lastOf_insert {ms : Members} (sorted : ms.isSorted) (n : String) (v : Json) (name : String) :
    lastOf (ms.insert n v) name = if name = n then some v else lastOf ms name := by
  induction ms with
  | nil => rfl
  | cons p ms ih =>
    obtain ⟨m, w⟩ := p
    obtain ⟨first, rest⟩ := List.pairwise_cons.mp (isSorted_iff.mp sorted)
    have later {x : String} (h : x ≤ m) : lastOf ms x = none := by
      apply lastOf_eq_none
      intro q hq e
      exact absurd (first q hq) (String.not_lt.mpr (e ▸ h))
    rw [insert]
    split
    case isTrue before =>
      rw [lastOf]
      by_cases same : name = n
      · subst same
        have other : name ≠ m := fun e => String.lt_irrefl m (e ▸ before)
        rw [lastOf, later (String.not_lt.mp (String.lt_asymm before)), if_neg other, if_pos rfl]
        simp
      · rw [if_neg same, if_neg same, Option.or_none]
    split
    case isTrue same =>
      subst same
      simp only [lastOf]
      by_cases same : name = n
      · rw [if_pos same, if_pos same, same, later (String.le_refl n)]
        rfl
      · rw [if_neg same, if_neg same, if_neg same]
    case isFalse _ other =>
      rw [lastOf, lastOf, ih (isSorted_iff.mpr rest)]
      by_cases same : name = n
      · rw [if_pos same, if_pos same]
        rfl
      · rw [if_neg same, if_neg same]

theorem lastOf_foldl (ps : List (String × Json)) {acc : Members} (sorted : acc.isSorted) (name : String) :
    lastOf (ps.foldl (fun a p => Members.insert p.1 p.2 a) acc) name = (lastOf ps name).or (lastOf acc name) := by
  induction ps generalizing acc with
  | nil => rfl
  | cons p ps ih =>
    rw [List.foldl_cons, ih (isSorted_insert sorted p.1 p.2), lastOf_insert sorted, lastOf]
    cases lastOf ps name with
    | some v => rfl
    | none => by_cases same : name = p.1 <;> simp [same]

/-- The order that a reader keeps members in does not matter. -/
theorem lastOf_ofList (ps : List (String × Json)) : lastOf (ofList ps) = lastOf ps := by
  funext name
  rw [ofList, lastOf_foldl ps rfl]
  exact Option.or_none

end Members

namespace Json

namespace Document

@[elab_as_elim, induction_eliminator]
theorem byParts {P : Document → Prop} (null : P null) (bool : ∀ b, P (bool b))
    (number : ∀ t, P (number t)) (text : ∀ s, P (text s))
    (list : ∀ items, (∀ d ∈ items, P d) → P (list items))
    (object : ∀ members, (∀ p ∈ members, P p.2) → P (object members)) (d : Document) : P d :=
  @Document.rec P (fun items => ∀ d ∈ items, P d) (fun members => ∀ p ∈ members, P p.2) (fun p => P p.2)
    null bool number text list object
    (by simp) (fun _ _ hd hs => List.forall_mem_cons.mpr ⟨hd, hs⟩)
    (by simp) (fun _ _ hp hs => List.forall_mem_cons.mpr ⟨hp, hs⟩)
    (fun _ _ h => h) d

theorem itemsMeaning_map (value : NumberText → ℚ) (ds : List Document) :
    itemsMeaning value ds = ds.map (meaning value) := by
  induction ds with
  | nil => rfl
  | cons d ds ih => rw [itemsMeaning, ih, List.map_cons]

theorem membersMeaning_map (value : NumberText → ℚ) (ps : List (String × Document)) :
    membersMeaning value ps = ps.map fun p => (p.1, p.2.meaning value) := by
  induction ps with
  | nil => rfl
  | cons p ps ih => rw [membersMeaning, ih, List.map_cons]

theorem mem_itemsNumbers {ds : List Document} {t : NumberText} :
    t ∈ itemsNumbers ds ↔ ∃ d ∈ ds, t ∈ d.numbers := by
  induction ds with
  | nil => simp [itemsNumbers]
  | cons d ds ih => simp [itemsNumbers, ih]

theorem mem_membersNumbers {ps : List (String × Document)} {t : NumberText} :
    t ∈ membersNumbers ps ↔ ∃ p ∈ ps, t ∈ p.2.numbers := by
  induction ps with
  | nil => simp [membersNumbers]
  | cons p ps ih => simp [membersNumbers, ih]

theorem meaning_congr {value value' : NumberText → ℚ} (d : Document) (h : ∀ t ∈ d.numbers, value t = value' t) :
    d.meaning value = d.meaning value' := by
  induction d with
  | null | bool | text => rfl
  | number t =>
    rw [meaning, meaning, h t (by simp [numbers])]
  | list ds ih =>
    rw [numbers] at h
    have each : ∀ d ∈ ds, d.meaning value = d.meaning value' := fun d hd =>
      ih d hd fun t ht => h t (mem_itemsNumbers.mpr ⟨d, hd, ht⟩)
    rw [meaning, meaning, itemsMeaning_map, itemsMeaning_map, List.map_congr_left each]
  | object ps ih =>
    rw [numbers] at h
    have each : ∀ p ∈ ps, (p.1, p.2.meaning value) = (p.1, p.2.meaning value') := fun p hp =>
      congrArg (Prod.mk p.1) (ih p hp fun t ht => h t (mem_membersNumbers.mpr ⟨p, hp, ht⟩))
    rw [meaning, meaning, membersMeaning_map, membersMeaning_map, List.map_congr_left each]

theorem eq_nil_of_meaning {value value' : NumberText → ℚ} {ds : List (String × Document)}
    (h : (object ds).meaning value = (object []).meaning value') : ds = [] := by
  cases ds with
  | nil => rfl
  | cons p ds =>
    have none := congrFun (Meaning.object.inj h) p.1
    rw [membersMeaning_map] at none
    exact absurd none (lastOf_ne_none (p := (p.1, p.2.meaning value)) (by simp))

theorem Writes.valid {d : Document} {w : Bytes} (h : d.Writes w) : ∀ t ∈ d.numbers, t.Valid := by
  induction h with
  | null | true | false | text => nofun
  | number valid =>
    intro t ht
    rw [List.mem_singleton.mp ht]
    exact valid
  | list _ _ _ ih =>
    intro t ht
    obtain ⟨d, hd, ht⟩ := mem_itemsNumbers.mp ht
    obtain ⟨i, hi, rfl⟩ := List.mem_map.mp hd
    exact ih i hi t ht
  | object _ _ _ _ ih =>
    intro t ht
    obtain ⟨p, hp, ht⟩ := mem_membersNumbers.mp ht
    obtain ⟨m, hm, rfl⟩ := List.mem_map.mp hp
    exact ih m hm t ht

end Document

/-- What is written for a number once it has been read. -/
def NumberText.rewritten (t : NumberText) : NumberText := t.stored.elim t numberText

namespace Document

section parts
variable {value value' : NumberText → ℚ} {n : Nat}

theorem itemsMeaning_stored {ds : List Document} (each : ∀ d ∈ ds, ∀ v, d.stored n = some v →
    v.document.meaning value = d.meaning value') {vs : List Json} (h : itemsStored ds n = some vs) :
    itemsMeaning value (itemsDocument vs) = itemsMeaning value' ds := by
  induction ds generalizing vs with
  | nil =>
    cases h
    rfl
  | cons d ds ih =>
    obtain ⟨v, first, h⟩ := Option.bind_eq_some_iff.mp h
    obtain ⟨vs, rest, h⟩ := Option.bind_eq_some_iff.mp h
    cases h
    rw [itemsDocument, itemsMeaning, itemsMeaning, each d (by simp) v first,
      ih (fun e he => each e (by simp [he])) rest]

theorem membersMeaning_stored {ps : List (String × Document)} (each : ∀ p ∈ ps, ∀ v, p.2.stored n = some v →
    v.document.meaning value = p.2.meaning value') {vs : List (String × Json)}
    (h : membersStored ps n = some vs) :
    membersMeaning value (membersDocument vs) = membersMeaning value' ps := by
  induction ps generalizing vs with
  | nil =>
    cases h
    rfl
  | cons p ps ih =>
    obtain ⟨v, first, h⟩ := Option.bind_eq_some_iff.mp h
    obtain ⟨vs, rest, h⟩ := Option.bind_eq_some_iff.mp h
    cases h
    rw [membersDocument, membersMeaning, membersMeaning, each p (by simp) v first,
      ih (fun q hq => each q (by simp [hq])) rest]

theorem lastOf_membersDocument (ms : List (String × Json)) (name : String) :
    lastOf (membersMeaning value (membersDocument ms)) name =
      (lastOf ms name).map fun v => v.document.meaning value := by
  rw [membersDocument_map, membersMeaning_map, List.map_map]
  exact lastOf_map (fun v : Json => v.document.meaning value) ms name

end parts

/-- What is kept says what the document says, with each number as it is written again. -/
theorem meaning_stored {d : Document} {n : Nat} {v : Json} (h : d.stored n = some v) :
    v.document.meaning NumberText.value = d.meaning fun t => t.rewritten.value := by
  induction d generalizing n v with
  | null | bool | text =>
    cases h
    rfl
  | number t =>
    rw [stored] at h
    obtain ⟨k, kept, rfl⟩ := Option.map_eq_some_iff.mp h
    rw [Json.document, meaning, meaning, NumberText.rewritten, kept]
    rfl
  | list ds ih =>
    cases n with
    | zero => cases h
    | succ n =>
      rw [stored] at h
      obtain ⟨vs, kept, rfl⟩ := Option.map_eq_some_iff.mp h
      rw [Json.document, meaning, meaning, itemsMeaning_stored (fun d hd v => ih d hd) kept]
  | object ps ih =>
    cases n with
    | zero => cases h
    | succ n =>
      rw [stored] at h
      obtain ⟨vs, kept, rfl⟩ := Option.map_eq_some_iff.mp h
      have same : lastOf (membersMeaning NumberText.value (membersDocument (Members.ofList vs))) =
          lastOf (membersMeaning NumberText.value (membersDocument vs)) := by
        funext name
        rw [lastOf_membersDocument, lastOf_membersDocument, Members.lastOf_ofList]
      rw [Json.document, meaning, meaning, same, membersMeaning_stored (fun p hp v => ih p hp) kept]

end Document

namespace NumberText

structure IsWord (t : NumberText) : Prop where
  places : t.places = []
  power : t.power = none
  low : -2 ^ 63 ≤ t.value
  high : t.value < 2 ^ 64

theorem value_whole {t : NumberText} (places : t.places = []) (power : t.power = none) :
    t.value = if t.negative then -(Nat.ofDigitChars 10 t.whole 0 : ℚ) else Nat.ofDigitChars 10 t.whole 0 := by
  rw [value, places, power]
  cases t.negative <;> simp

def wholeText (negative : Bool) (n : Nat) : NumberText := ⟨negative, Nat.toDigits 10 n, [], none⟩

theorem value_wholeText (negative : Bool) (n : Nat) :
    (wholeText negative n).value = if negative then -(n : ℚ) else n := by
  have digits := Nat.ofDigitChars_toDigits (b := 10) (n := n) (by omega) (by omega)
  rw [value_whole rfl rfl, wholeText, digits]

theorem valid_wholeText (negative : Bool) (n : Nat) : (wholeText negative n).Valid :=
  ⟨Read.whole_toDigits n, nofun, nofun⟩

theorem ofChars_wholeText (negative : Bool) (n : Nat) :
    NumberText.ofChars ((if negative then ['-'] else []) ++ Nat.toDigits 10 n) = wholeText negative n := by
  have chars : (wholeText negative n).chars = (if negative then ['-'] else []) ++ Nat.toDigits 10 n := by
    cases negative <;> simp [NumberText.chars, unsignedChars, tailChars, powerChars, wholeText]
  rw [← chars, ofChars_chars (valid_wholeText negative n)]

end NumberText

open NumberText

theorem value_integer (k : Int) : (numberText (.integer k)).value = k := by
  cases k with
  | ofNat n =>
    have text : numberText (.integer (.ofNat n)) = wholeText false n := ofChars_wholeText false n
    rw [text, value_wholeText]
    rfl
  | negSucc n =>
    have text : numberText (.integer (.negSucc n)) = wholeText true (n + 1) := ofChars_wholeText true (n + 1)
    rw [text, value_wholeText, Int.cast_negSucc]
    rfl

theorem value_negativeZero : (numberText (Read.whole false 0)).value = 0 := by
  have text : numberText (Read.whole false 0) = ⟨true, ['0'], ['0'], none⟩ := rfl
  have digits : Nat.ofDigitChars 10 ['0', '0'] 0 = 0 := rfl
  rw [text]
  simp [NumberText.value, digits]

theorem number_whole (positive : Bool) {ds : List Char} (h : Read.Whole ds)
    (small : Nat.ofDigitChars 10 ds 0 ≤ Read.maxCount) :
    Read.number positive (Bytes.ofChars ds) = .ok (Read.whole positive (Nat.ofDigitChars 10 ds 0), []) := by
  obtain ⟨⟨several, digits⟩, zeros⟩ := h
  obtain rfl | other := zeros
  · rfl
  · obtain ⟨d, ds, rfl⟩ := List.exists_cons_of_ne_nil several
    have first : d ≠ '0' := fun e => other (by rw [e]; rfl)
    have read := Read.number_digits positive digits first small (r := []) trivial
    rwa [List.append_nil] at read

/-- Whole numbers of 64 bits are kept as they are. -/
theorem NumberText.IsWord.kept {t : NumberText} (word : t.IsWord) (valid : t.Valid) :
    t.rewritten.value = t.value := by
  obtain ⟨places, power, low, high⟩ := word
  have chars : t.unsignedChars = t.whole := by
    simp [unsignedChars, tailChars, powerChars, places, power]
  rw [value_whole places power] at low high ⊢
  have rewritten (small : Nat.ofDigitChars 10 t.whole 0 ≤ Read.maxCount) :
      t.rewritten = numberText (Read.whole (!t.negative) (Nat.ofDigitChars 10 t.whole 0)) := by
    rw [NumberText.rewritten, stored, chars, number_whole _ valid.whole small]
    rfl
  generalize Nat.ofDigitChars 10 t.whole 0 = n at *
  have most : Read.maxCount = 2 ^ 64 - 1 := rfl
  cases negative : t.negative with
  | false =>
    rw [negative, if_neg Bool.false_ne_true] at high
    have small : n < 2 ^ 64 := by exact_mod_cast high
    rw [negative] at rewritten
    rw [rewritten (by omega)]
    exact value_integer n
  | true =>
    rw [negative, if_pos rfl] at low
    have small : n ≤ 2 ^ 63 := by exact_mod_cast neg_le_neg_iff.mp low
    rw [negative] at rewritten
    rw [rewritten (by omega)]
    by_cases zero : n = 0
    · subst n
      rw [Bool.not_true, value_negativeZero]
      simp
    · have kept : Read.whole false n = .integer (-(n : Int)) := by
        have room : 0 < n ∧ n ≤ Nat.pow 2 63 := ⟨Nat.pos_of_ne_zero zero, small⟩
        simp [Read.whole, room]
      rw [Bool.not_true, kept, value_integer]
      simp

end Json
end RequestAuth
