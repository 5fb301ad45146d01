import RequestAuth.Proofs.Ensures
import RequestAuth.Proofs.Json.Grammar

/-! Every text of a document is read as one value, unless a number is too large or the nesting too deep,
and all texts of a document are read alike. -/

namespace RequestAuth.Json.Read
open Bytes
variable {α : Type}

/-- What may stand behind a value: a blank, a comma, a closing bracket or brace, or nothing. -/
def Follows : Bytes → Prop
  | [] => True
  | c :: _ => isSpace c ∨ c = 44 ∨ c = 93 ∨ c = 125

/-- The reader makes this of a text, or nothing, whatever follows it. -/
def ReadsTo (read : Reader α) (w : Bytes) (x : Option α) : Prop :=
  ∀ r, Follows r → (read (w ++ r)).toOption = x.map fun a => (a, r)

/-- What the reader makes of a text does not depend on what follows it. -/
def Settles (read : Reader α) (w : Bytes) : Prop := ∃ x, ReadsTo read w x

theorem ReadsTo.alone {read : Reader α} {w : Bytes} {x : Option α} (h : ReadsTo read w x) :
    (read w).toOption.map Prod.fst = x := by
  have alone := h [] trivial
  rw [List.append_nil] at alone
  rw [alone, Option.map_map]
  simp [Function.comp_def]

theorem Settles.readsTo {read : Reader α} {w : Bytes} (h : Settles read w) :
    ReadsTo read w ((read w).toOption.map Prod.fst) := by
  obtain ⟨x, h⟩ := h
  rwa [h.alone]

theorem Settles.congr {read read' : Reader α} {w w' : Bytes} (h : Settles read' w')
    (same : ∀ r, Follows r → read (w ++ r) = read' (w' ++ r)) : Settles read w := by
  obtain ⟨x, h⟩ := h
  exact ⟨x, fun r follows => by rw [same r follows, h r follows]⟩

theorem isSpace_cases {c : UInt8} (h : isSpace c) : c = 32 ∨ c = 10 ∨ c = 9 ∨ c = 13 := by
  simpa [isSpace, or_assoc] using h

theorem Follows.stop {c : UInt8} {r : Bytes} (h : Follows (c :: r)) :
    isDigit c = false ∧ c ≠ 46 ∧ isExponentMark c = false := by
  obtain space | rfl | rfl | rfl := h
  · obtain rfl | rfl | rfl | rfl := isSpace_cases space <;> decide
  · decide
  · decide
  · decide

theorem Follows.digitsEnd {r : Bytes} (h : Follows r) : DigitsEnd r := by
  cases r with
  | nil => trivial
  | cons c r => exact h.stop.1

theorem settles_float (positive : Bool) (digits : Nat) (e : Int) : Settles (float positive digits e) [] := by
  refine ⟨(scaled? digits e).map fun x => .float { x with negative := !positive }, fun r _ => ?_⟩
  rw [List.nil_append, float]
  cases scaled? digits e <;> rfl

theorem digits_octets {c : Char} {ds : List Char} (h : ∀ d ∈ c :: ds, d.isDigit) :
    ofChars (c :: ds) = UInt8.ofNat c.toNat :: ofChars ds ∧ isDigit (UInt8.ofNat c.toNat) := by
  have first := h c (by simp)
  have range := digit_range first
  exact ⟨ofChars_ascii (by omega) ds, isDigit_octet first⟩

theorem settles_exponentDigits (positive : Bool) (digits : Nat) (start : Int) (up : Bool) {ds : List Char}
    (all : ∀ c ∈ ds, c.isDigit) : ∀ e, Settles (exponentDigits positive digits start up e) (ofChars ds) := by
  induction ds with
  | nil =>
    intro e
    refine (settles_float positive digits (if up then start + e else start - e)).congr fun r follows => ?_
    rw [ofChars_nil, List.nil_append]
    cases r with
    | nil => rfl
    | cons c r => simp [exponentDigits, follows.stop.1]
  | cons c ds ih =>
    intro e
    obtain ⟨octets, digit'⟩ := digits_octets all
    have rest : ∀ d ∈ ds, d.isDigit := fun d hd => all d (by simp [hd])
    by_cases far : maxExponent < e * 10 + digit (UInt8.ofNat c.toNat)
    · by_cases large : digits ≠ 0 ∧ up
      · refine ⟨none, fun r _ => ?_⟩
        rw [octets, List.cons_append]
        simp [exponentDigits, digit', far, large]
        rfl
      · refine ⟨some (.float { Binary64.zero with negative := !positive }), fun r follows => ?_⟩
        rw [octets, List.cons_append]
        simp only [exponentDigits, digit', far, large, if_true, if_false, dropWhile_digits rest follows.digitsEnd]
        rfl
    · refine (ih rest (e * 10 + digit (UInt8.ofNat c.toNat))).congr fun r _ => ?_
      rw [octets, List.cons_append]
      simp only [exponentDigits, digit', far, if_true, if_false]

theorem settles_exponent (positive : Bool) (digits : Nat) (start : Int) {e : PowerText} (valid : e.Valid) :
    Settles (exponent positive digits start) (ofChars (e.sign.toList ++ e.digits)) := by
  obtain ⟨mark, sign, ds⟩ := e
  obtain ⟨several, all⟩ := valid.digits
  obtain ⟨d, ds, rfl⟩ := List.exists_cons_of_ne_nil several
  obtain ⟨octets, digit'⟩ := digits_octets all
  have rest : ∀ x ∈ ds, x.isDigit := fun x hx => all x (by simp [hx])
  have read (up : Bool) := settles_exponentDigits positive digits start up rest (digit (UInt8.ofNat d.toNat))
  cases sign with
  | none =>
    refine (read true).congr fun r _ => ?_
    have plus : UInt8.ofNat d.toNat ≠ 43 := by
      intro e
      rw [e] at digit'
      cases digit'
    have minus : UInt8.ofNat d.toNat ≠ 45 := by
      intro e
      rw [e] at digit'
      cases digit'
    rw [Option.toList_none, List.nil_append, octets, List.cons_append]
    simp [exponent, plus, minus, digit']
  | some c =>
    obtain rfl | rfl := valid.sign c rfl
    · refine (read true).congr fun r _ => ?_
      rw [Option.toList_some, List.singleton_append, ofChars_ascii (by decide), octets]
      simp [exponent, digit']
    · refine (read false).congr fun r _ => ?_
      rw [Option.toList_some, List.singleton_append, ofChars_ascii (by decide), octets]
      simp [exponent, digit']

section text
variable {t : NumberText} (valid : t.Valid)
include valid

theorem powerChars_cases : ofChars t.powerChars = [] ∨
    ∃ (e : PowerText) (m : UInt8), e.Valid ∧ isExponentMark m ∧ isDigit m = false ∧ m ≠ 46 ∧
      ofChars t.powerChars = m :: ofChars (e.sign.toList ++ e.digits) := by
  rw [NumberText.powerChars]
  cases given : t.power with
  | none => exact Or.inl rfl
  | some e =>
    right
    have power := valid.power e given
    obtain mark | mark := power.mark
    · refine ⟨e, 101, power, rfl, rfl, by decide, ?_⟩
      rw [Option.elim_some, PowerText.chars, mark, ofChars_ascii (by decide)]
      rfl
    · refine ⟨e, 69, power, rfl, rfl, by decide, ?_⟩
      rw [Option.elim_some, PowerText.chars, mark, ofChars_ascii (by decide)]
      rfl

theorem digitsEnd_powerChars {r : Bytes} (follows : Follows r) : DigitsEnd (ofChars t.powerChars ++ r) := by
  obtain none | ⟨e, m, -, -, digit, -, chars⟩ := powerChars_cases valid
  · rw [none]
    exact follows.digitsEnd
  · rw [chars]
    exact digit

theorem settles_afterFraction (positive : Bool) (digits : Nat) (start : Int) :
    Settles (afterFraction positive digits start) (ofChars t.powerChars) := by
  obtain none | ⟨e, m, power, mark, -, -, chars⟩ := powerChars_cases valid
  · refine (settles_float positive digits start).congr fun r follows => ?_
    rw [none, List.nil_append]
    cases r with
    | nil => rfl
    | cons c r => simp [afterFraction, follows.stop.2.2]
  · refine (settles_exponent positive digits start power).congr fun r _ => ?_
    rw [chars, List.cons_append]
    simp [afterFraction, mark]

theorem settles_fractionDigits (positive : Bool) (start : Int) {ds : List Char} (all : ∀ c ∈ ds, c.isDigit) :
    ∀ seen, (seen = true ∨ ds ≠ []) → ∀ places digits,
      Settles (fractionDigits positive start seen places digits) (ofChars (ds ++ t.powerChars)) := by
  induction ds with
  | nil =>
    intro seen some places digits
    obtain rfl : seen = true := some.resolve_right fun other => other rfl
    refine (settles_afterFraction valid positive digits (start - places)).congr fun r follows => ?_
    rw [List.nil_append]
    have stop := digitsEnd_powerChars valid follows
    cases e : ofChars t.powerChars ++ r with
    | nil => rfl
    | cons c s =>
      rw [e] at stop
      have other : isDigit c = false := stop
      simp [fractionDigits, other]
  | cons c ds ih =>
    intro seen _ places digits
    obtain ⟨octets, digit'⟩ := digits_octets all
    have rest : ∀ d ∈ ds, d.isDigit := fun d hd => all d (by simp [hd])
    by_cases far : maxCount < digits * 10 + digit (UInt8.ofNat c.toNat)
    · refine (settles_afterFraction valid positive digits (start - places)).congr fun r follows => ?_
      have drop := dropWhile_digits rest (digitsEnd_powerChars valid follows)
      rw [List.cons_append, ofChars_cons, ofChars_append, ← List.append_assoc, ← ofChars_cons, octets,
        List.append_assoc, List.cons_append]
      simp only [fractionDigits, digit', far, if_true, drop]
    · refine (ih rest true (Or.inl rfl) (places + 1) (digits * 10 + digit (UInt8.ofNat c.toNat))).congr
        fun r _ => ?_
      rw [List.cons_append, ofChars_cons, ofChars_append, ← List.append_assoc, ← ofChars_cons, octets,
        List.append_assoc, List.cons_append]
      simp only [fractionDigits, digit', far, if_true, if_false, List.append_assoc]

theorem settles_tail {read : Reader JsonNumber} {positive : Bool} {digits : Nat} (start : Int)
    (point : ∀ r, read (46 :: r) = fractionDigits positive start false 0 digits r)
    (mark : ∀ m r, isExponentMark m → isDigit m = false → m ≠ 46 →
      read (m :: r) = exponent positive digits start r)
    (stop : Settles read []) : Settles read (ofChars t.tailChars) := by
  rw [NumberText.tailChars]
  split
  · rw [List.nil_append]
    obtain none | ⟨e, m, power, isMark, digit, other, chars⟩ := powerChars_cases valid
    · rwa [none]
    · refine (settles_exponent positive digits start power).congr fun r _ => ?_
      rw [chars, List.cons_append, mark m _ isMark digit other]
  · rename_i some
    refine (settles_fractionDigits valid positive start valid.places false (Or.inr some) 0 digits).congr
      fun r _ => ?_
    rw [List.cons_append, ofChars_ascii (by decide), List.cons_append]
    exact point _

theorem digitsEnd_tailChars {r : Bytes} (follows : Follows r) : DigitsEnd (ofChars t.tailChars ++ r) := by
  rw [NumberText.tailChars]
  split
  · exact digitsEnd_powerChars valid follows
  · rw [List.cons_append, ofChars_ascii (by decide)]
    rfl

theorem settles_afterDigits (positive : Bool) (digits : Nat) :
    Settles (afterDigits positive digits) (ofChars t.tailChars) := by
  refine settles_tail valid 0 (fun r => rfl) (fun m r isMark _ other => ?_)
    ⟨some (whole positive digits), fun r follows => ?_⟩
  · simp [afterDigits, isMark, other]
  · cases r with
    | nil => rfl
    | cons c r =>
      obtain ⟨-, point, mark⟩ := follows.stop
      simp [afterDigits, point, mark, Except.toOption]

theorem settles_longDigits (positive : Bool) (digits : Nat) {ds : List Char} (all : ∀ c ∈ ds, c.isDigit) :
    ∀ e, Settles (longDigits positive digits e) (ofChars (ds ++ t.tailChars)) := by
  induction ds with
  | nil =>
    intro e
    refine settles_tail valid e (fun r => rfl) (fun m r isMark digit other => ?_) ?_
    · simp [longDigits, isMark, digit, other]
    · refine (settles_float positive digits e).congr fun r follows => ?_
      cases r with
      | nil => rfl
      | cons c r =>
        obtain ⟨digit, point, mark⟩ := follows.stop
        simp [longDigits, digit, point, mark]
  | cons c ds ih =>
    intro e
    obtain ⟨octets, digit'⟩ := digits_octets all
    refine (ih (fun d hd => all d (by simp [hd])) (e + 1)).congr fun r _ => ?_
    rw [ofChars_append, octets, List.cons_append, List.cons_append, ofChars_append]
    simp only [longDigits, digit', if_true]

theorem settles_wholeDigits (positive : Bool) {ds : List Char} (all : ∀ c ∈ ds, c.isDigit) :
    ∀ digits, Settles (wholeDigits positive digits) (ofChars (ds ++ t.tailChars)) := by
  induction ds with
  | nil =>
    intro digits
    refine (settles_afterDigits valid positive digits).congr fun r follows => ?_
    rw [List.nil_append]
    have stop := digitsEnd_tailChars valid follows
    cases e : ofChars t.tailChars ++ r with
    | nil => rfl
    | cons c s =>
      rw [e] at stop
      have other : isDigit c = false := stop
      simp [wholeDigits, other]
  | cons c ds ih =>
    intro digits
    obtain ⟨octets, digit'⟩ := digits_octets all
    have rest : ∀ d ∈ ds, d.isDigit := fun d hd => all d (by simp [hd])
    by_cases far : maxCount < digits * 10 + digit (UInt8.ofNat c.toNat)
    · refine (settles_longDigits valid positive digits rest 1).congr fun r _ => ?_
      rw [ofChars_append, octets, List.cons_append, List.cons_append, ofChars_append]
      simp only [wholeDigits, digit', far, if_true]
    · refine (ih rest (digits * 10 + digit (UInt8.ofNat c.toNat))).congr fun r _ => ?_
      rw [ofChars_append, octets, List.cons_append, List.cons_append, ofChars_append]
      simp only [wholeDigits, digit', far, if_true, if_false]

theorem settles_number (positive : Bool) : Settles (number positive) (ofChars t.unsignedChars) := by
  obtain ⟨⟨several, all⟩, zeros⟩ := valid.whole
  rw [NumberText.unsignedChars]
  obtain zero | other := zeros
  · refine (settles_afterDigits valid positive 0).congr fun r follows => ?_
    rw [zero, List.singleton_append, ofChars_ascii (by decide), List.cons_append]
    have stop := digitsEnd_tailChars valid follows
    change number positive (48 :: (ofChars t.tailChars ++ r)) = _
    cases e : ofChars t.tailChars ++ r with
    | nil => rfl
    | cons d s =>
      rw [e] at stop
      have end' : isDigit d = false := stop
      simp [number, end']
  · obtain ⟨c, ds, digits⟩ := List.exists_cons_of_ne_nil several
    rw [digits] at all other
    obtain ⟨octets, digit'⟩ := digits_octets all
    have first : c ≠ '0' := fun e => other (by rw [e]; rfl)
    have octet := octet_ne_zero (all c (by simp)) first
    have rest : ∀ d ∈ ds, d.isDigit := fun d hd => all d (by simp [hd])
    refine (settles_wholeDigits valid positive rest (digit (UInt8.ofNat c.toNat))).congr fun r _ => ?_
    rw [digits, ofChars_append, octets, List.cons_append, List.cons_append, ofChars_append]
    simp only [number, octet, digit', if_true, if_false]

end text

section blank
variable {b : Bytes} (blank : Blank b)
include blank

theorem skipSpace_blank (s : Bytes) : skipSpace (b ++ s) = skipSpace s :=
  List.dropWhile_append_of_pos blank

theorem nextItem_blank (first : Bool) (s : Bytes) : nextItem first (b ++ s) = nextItem first s := by
  rw [nextItem, nextItem, skipSpace_blank blank]

theorem nextName_blank (first : Bool) (s : Bytes) : nextName first (b ++ s) = nextName first s := by
  rw [nextName, nextName, skipSpace_blank blank]

theorem colon_blank (s : Bytes) : colon (b ++ 58 :: s) = .ok s := by
  rw [colon, skipSpace_blank blank]
  rfl

theorem value_blank (n : Nat) (s : Bytes) : value n (b ++ s) = value n s := by
  obtain ⟨inner, e⟩ := exists_valueOver n
  rw [e, valueOver, valueOver, skipSpace_blank blank]

theorem follows_blank {s : Bytes} (h : Follows s) : Follows (b ++ s) := by
  cases b with
  | nil => exact h
  | cons c b => exact Or.inl (blank c (by simp))

end blank

theorem nextItem_item (first : Bool) {b w : Bytes} (blank : Blank b) (opens : Opens w) :
    nextItem first (if first then b ++ w else 44 :: (b ++ w)) = .ok (true, w) := by
  have item := nextItem_opens first opens
  cases first with
  | true => rwa [if_pos rfl, nextItem_blank blank]
  | false =>
    have comma (s : Bytes) : skipSpace (44 :: s) = 44 :: s := rfl
    simpa [nextItem, comma, skipSpace_blank blank] using item

end RequestAuth.Json.Read

namespace RequestAuth.Json.NumberText
open Read Bytes

/-- What a reader keeps of a number, unless it is too large. -/
def stored (t : NumberText) : Option JsonNumber :=
  (Read.number (!t.negative) (Bytes.ofChars t.unsignedChars)).toOption.map Prod.fst

theorem unsignedChars_first {t : NumberText} (valid : t.Valid) :
    ∃ c s, Bytes.ofChars t.unsignedChars = c :: s ∧ isDigit c := by
  obtain ⟨c, s, digit, -, first, -⟩ := valid.whole.1.split
  exact ⟨c, s ++ Bytes.ofChars t.tailChars, by
    rw [NumberText.unsignedChars, ofChars_append, first, List.cons_append], digit⟩

theorem opens {t : NumberText} (valid : t.Valid) : Opens (Bytes.ofChars t.chars) := by
  rw [NumberText.chars]
  cases t.negative with
  | true =>
    rw [if_pos rfl, List.singleton_append, ofChars_ascii (by decide)]
    exact ⟨rfl, by decide⟩
  | false =>
    obtain ⟨c, s, first, digit⟩ := unsignedChars_first valid
    obtain ⟨space, bracket, -⟩ := isDigit_cases digit
    rw [if_neg Bool.false_ne_true, List.nil_append, first]
    exact ⟨space, bracket⟩

theorem readsTo_stored {t : NumberText} (valid : t.Valid) (inner : Option (Reader Json)) :
    ReadsTo (valueOver inner) (Bytes.ofChars t.chars) (t.stored.map .number) := by
  intro r follows
  have read := (settles_number valid (!t.negative)).readsTo r follows
  have signed : valueOver inner (Bytes.ofChars t.chars ++ r) =
      Read.number (!t.negative) (Bytes.ofChars t.unsignedChars ++ r) >>= fun p => .ok (.number p.1, p.2) := by
    rw [NumberText.chars]
    cases t.negative with
    | true =>
      have self (s : Bytes) : skipSpace (45 :: s) = 45 :: s := rfl
      rw [if_pos rfl, List.singleton_append, ofChars_ascii (by decide)]
      simp only [valueOver, List.cons_append]
      rfl
    | false =>
      obtain ⟨c, s, first, digit⟩ := unsignedChars_first valid
      obtain ⟨space, -, null, yes, no, sign⟩ := isDigit_cases digit
      have self (s : Bytes) : skipSpace (c :: s) = c :: s := by simp [skipSpace, space]
      rw [if_neg Bool.false_ne_true, List.nil_append, first]
      simp only [valueOver, List.cons_append, self, null, yes, no, sign, digit, if_true, if_false]
      rfl
  rw [signed, toOption_bind, read, NumberText.stored]
  cases (Read.number (!t.negative) (Bytes.ofChars t.unsignedChars)).toOption <;> rfl

end RequestAuth.Json.NumberText
