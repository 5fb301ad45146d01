import RequestAuth.Proofs.Json.Document
import RequestAuth.Proofs.Json.Stored

/-! Every value can be passed over, however it is written and however deep it is: with numbers of any size,
halves of pairs, and blanks between its tokens. -/

namespace RequestAuth.Json.Read
open Bytes

/-- From `s` on, a text is passed over up to its closing quote, and `r` is left. -/
def TextSkips (s r : Bytes) : Prop := ∀ fuel, s.length < fuel → skipText fuel s = .ok r

namespace TextSkips

theorem close (r : Bytes) : TextSkips (34 :: r) r := by
  intro fuel room
  obtain ⟨fuel, rfl⟩ := Nat.exists_eq_add_one.mpr (Nat.zero_lt_of_lt room)
  rfl

theorem plain {b : UInt8} {s r : Bytes} (hb : isPlain b) (h : TextSkips s r) : TextSkips (b :: s) r := by
  intro fuel room
  obtain ⟨fuel, rfl⟩ := Nat.exists_eq_add_one.mpr (Nat.zero_lt_of_lt room)
  have control : ¬ b < 32 := by
    rw [UInt8.lt_iff_toNat_lt]
    exact Nat.not_lt.mpr hb.1
  simp only [skipText, hb.2.1, hb.2.2, control, if_false]
  exact h fuel (by simpa using room)

theorem plains {s r bs : Bytes} (hb : ∀ b ∈ bs, isPlain b) (h : TextSkips s r) : TextSkips (bs ++ s) r := by
  induction bs with
  | nil => exact h
  | cons b bs ih => exact (ih fun x hx => hb x (List.mem_cons_of_mem b hx)).plain (hb b (by simp))

theorem letter {c : Char} {l : UInt8} {s r : Bytes} (letter : (c, l) ∈ letters) (h : TextSkips s r) :
    TextSkips (92 :: l :: s) r := by
  intro fuel room
  obtain ⟨fuel, rfl⟩ := Nat.exists_eq_add_one.mpr (Nat.zero_lt_of_lt room)
  have rest := h fuel (by simp at room; omega)
  simp only [letters, List.mem_cons, Prod.mk.injEq, List.not_mem_nil, or_false] at letter
  obtain ⟨-, rfl⟩ | ⟨-, rfl⟩ | ⟨-, rfl⟩ | ⟨-, rfl⟩ | ⟨-, rfl⟩ | ⟨-, rfl⟩ | ⟨-, rfl⟩ | ⟨-, rfl⟩ := letter <;>
    exact rest

theorem unit {u s r : Bytes} {n : Nat} (unit : HexUnit u n) (h : TextSkips s r) :
    TextSkips (92 :: 117 :: (u ++ s)) r := by
  intro fuel room
  obtain ⟨fuel, rfl⟩ := Nat.exists_eq_add_one.mpr (Nat.zero_lt_of_lt room)
  have rest := h fuel (by simp at room; omega)
  simp [skipText, codeUnit_unit unit, bind, Except.bind, rest]

end TextSkips

/-- Halves of pairs are passed over like all other escapes. -/
theorem textSkips_quoted {w : Bytes} (h : Quoted w) (r : Bytes) : TextSkips (w ++ 34 :: r) r := by
  induction h with
  | nil => exact .close r
  | plain control quote backslash _ ih =>
    rw [List.append_assoc]
    exact ih.plains fun b hb => isPlain_utf8 control quote backslash hb
  | letter letter _ ih => exact ih.letter letter
  | unit unit _ ih =>
    simp only [List.cons_append, List.append_assoc]
    exact ih.unit unit

theorem skipExponent_power {e : PowerText} (valid : e.Valid) {r : Bytes} (follows : Follows r) :
    skipExponent (ofChars (e.sign.toList ++ e.digits) ++ r) = .ok r := by
  obtain ⟨mark, sign, ds⟩ := e
  obtain ⟨c, s, digit, -, first, rest⟩ := valid.digits.split
  have left := rest r follows.digitsEnd
  cases sign with
  | none =>
    have plus : c ≠ 43 := by
      rintro rfl
      cases digit
    have minus : c ≠ 45 := by
      rintro rfl
      cases digit
    rw [Option.toList_none, List.nil_append, first]
    simp [skipExponent, plus, minus, digit, left]
  | some c =>
    obtain rfl | rfl := valid.sign c rfl
    · rw [Option.toList_some, List.singleton_append, ofChars_ascii (by decide), first]
      simp [skipExponent, digit, left]
    · rw [Option.toList_some, List.singleton_append, ofChars_ascii (by decide), first]
      simp [skipExponent, digit, left]

section number
variable {t : NumberText} (valid : t.Valid) {r : Bytes} (follows : Follows r)
include valid follows

theorem skipAfterFraction_power : skipAfterFraction (ofChars t.powerChars ++ r) = .ok r := by
  obtain none | ⟨e, m, power, mark, -, -, chars⟩ := powerChars_cases valid
  · rw [none, List.nil_append]
    cases r with
    | nil => rfl
    | cons c r => simp [skipAfterFraction, follows.stop.2.2]
  · rw [chars, List.cons_append]
    simp [skipAfterFraction, mark, skipExponent_power power follows]

theorem skipAfterDigits_power : skipAfterDigits (ofChars t.powerChars ++ r) = .ok r := by
  obtain none | ⟨e, m, power, mark, -, point, chars⟩ := powerChars_cases valid
  · rw [none, List.nil_append]
    cases r with
    | nil => rfl
    | cons c r =>
      obtain ⟨-, point, mark⟩ := follows.stop
      simp [skipAfterDigits, point, mark]
  · rw [chars, List.cons_append]
    simp [skipAfterDigits, mark, point, skipExponent_power power follows]

theorem skipAfterDigits_tail : skipAfterDigits (ofChars t.tailChars ++ r) = .ok r := by
  rw [NumberText.tailChars]
  split
  · exact skipAfterDigits_power valid follows
  · rename_i several
    obtain ⟨c, s, digit, -, first, rest⟩ := Places.split ⟨several, valid.places⟩
    have left := rest _ (digitsEnd_powerChars valid follows)
    have point : skipAfterDigits (46 :: (c :: (s ++ (ofChars t.powerChars ++ r)))) =
        skipAfterFraction ((s ++ (ofChars t.powerChars ++ r)).dropWhile isDigit) := by
      simp [skipAfterDigits, skipFraction, digit]
    rw [left] at point
    rw [List.cons_append, ofChars_ascii (by decide), ofChars_append, first]
    simpa using point.trans (skipAfterFraction_power valid follows)

theorem skipNumber_unsigned : skipNumber (ofChars t.unsignedChars ++ r) = .ok r := by
  obtain ⟨places, zeros⟩ := valid.whole
  obtain ⟨c, s, digit, zero, first, rest⟩ := places.split
  have end' := digitsEnd_tailChars valid follows
  have tail := skipAfterDigits_tail valid follows
  rw [NumberText.unsignedChars, ofChars_append, List.append_assoc]
  by_cases leading : c = 48
  · have one : t.whole = ['0'] := zeros.resolve_right fun other => other (zero leading)
    have self (s : Bytes) : ofChars ['0'] ++ s = 48 :: s := rfl
    rw [one, self]
    cases e : ofChars t.tailChars ++ r with
    | nil =>
      rw [e] at tail
      exact tail
    | cons d s =>
      rw [e] at tail end'
      have other : isDigit d = false := end'
      simp [skipNumber, other, tail]
  · rw [first]
    simp [skipNumber, leading, digit, rest _ end', tail]

end number

def leave (fuel : Nat) : List Nest → Bytes → Except Stop Bytes
  | [], r => .ok r
  | n :: around, r => skipInside fuel true n around r

/-- A text of one value is passed over with at most three steps for each octet. -/
def Passed (w : Bytes) : Prop := ∀ fuel around r, 3 * w.length ≤ fuel → Follows r →
  ∃ left, fuel ≤ left + 3 * w.length ∧ skipValue fuel around (w ++ r) = leave left around r

def PassedIn (n : Nest) (m : Bytes) : Prop := ∀ fuel around r, 3 * m.length + 1 ≤ fuel → Follows r →
  ∃ left, fuel ≤ left + 3 * m.length + 1 ∧ skipMember fuel n around (m ++ r) = skipInside left true n around r

theorem Passed.before {b w : Bytes} (blank : Blank b) (some : w ≠ []) (h : Passed w) : Passed (b ++ w) := by
  intro fuel around r room follows
  have size := List.length_pos_iff.mpr some
  rw [List.length_append] at room ⊢
  obtain ⟨left, spent, value⟩ := h fuel around r (by omega) follows
  obtain ⟨fuel, rfl⟩ := Nat.exists_eq_add_one.mpr (by omega : 0 < fuel)
  refine ⟨left, by omega, ?_⟩
  rw [List.append_assoc, ← value, skipValue, skipValue, skipSpace_blank blank]

theorem Passed.of_leaf {w : Bytes} (some : w ≠ [])
    (h : ∀ fuel around r, Follows r → skipValue (fuel + 1) around (w ++ r) = leave fuel around r) : Passed w := by
  intro fuel around r room follows
  have size := List.length_pos_iff.mpr some
  obtain ⟨fuel, rfl⟩ := Nat.exists_eq_add_one.mpr (by omega : 0 < fuel)
  exact ⟨fuel, by omega, h fuel around r follows⟩

def skipLeaf (c : UInt8) (r : Bytes) : Except Stop Bytes :=
  match wordRest? c with
  | some w => word w r
  | none =>
    if c = 45 then skipNumber r
    else if isDigit c then skipNumber (c :: r)
    else if c = 34 then skipText (r.length + 1) r
    else stopPast .expectedValue (c :: r)

theorem skipValue_leaf {c : UInt8} {s r : Bytes} (space : isSpace c = false) (list : c ≠ 91)
    (object : c ≠ 123) (h : skipLeaf c s = .ok r) (fuel : Nat) (around : List Nest) :
    skipValue (fuel + 1) around (c :: s) = leave fuel around r := by
  have self : skipSpace (c :: s) = c :: s := by simp [skipSpace, space]
  have step : skipValue (fuel + 1) around (c :: s) = (skipLeaf c s).bind (leave fuel around) := by
    simp only [skipValue, self, list, object, if_false, skipLeaf]
    cases wordRest? c with
    | some w => cases around <;> rfl
    | none =>
      dsimp only
      split
      · cases around <;> rfl
      split
      · cases around <;> rfl
      split <;> cases around <;> rfl
  rw [step, h]
  rfl

theorem passed_number {t : NumberText} (valid : t.Valid) : Passed (ofChars t.chars) := by
  have some := (NumberText.opens valid).ne_nil
  refine Passed.of_leaf some fun fuel around r follows => ?_
  have number := skipNumber_unsigned valid follows
  rw [NumberText.chars]
  cases t.negative with
  | true =>
    have leaf : skipLeaf 45 (ofChars t.unsignedChars ++ r) = .ok r := number
    rw [if_pos rfl, List.singleton_append, ofChars_ascii (by decide)]
    exact skipValue_leaf rfl (by decide) (by decide) leaf fuel around
  | false =>
    obtain ⟨c, s, first, digit⟩ := NumberText.unsignedChars_first valid
    obtain ⟨space, -, null, yes, no, sign⟩ := isDigit_cases digit
    rw [first] at number
    have leaf : skipLeaf c (s ++ r) = .ok r := by
      simpa [skipLeaf, wordRest?, null, yes, no, sign, digit] using number
    have list : c ≠ 91 := by
      rintro rfl
      cases digit
    have object : c ≠ 123 := by
      rintro rfl
      cases digit
    rw [if_neg Bool.false_ne_true, List.nil_append, first]
    exact skipValue_leaf space list object leaf fuel around

theorem passed_text (q : QuotedText) : Passed q.token := by
  refine Passed.of_leaf (by simp [QuotedText.token]) fun fuel around r _ => ?_
  have leaf : skipLeaf 34 (q.inside ++ 34 :: r) = .ok r := textSkips_quoted q.quoted r _ (Nat.lt_succ_self _)
  rw [QuotedText.token, List.cons_append, List.append_assoc, List.singleton_append]
  exact skipValue_leaf rfl (by decide) (by decide) leaf fuel around

def partsTokens (n : Nest) (first : Bool) : List (List Bytes) → List Bytes
  | [] => [[n.closing]]
  | p :: ps => Source.comma first ++ (p ++ partsTokens n false ps)

theorem itemsTokens_parts (first : Bool) (vs : List Source) :
    Source.itemsTokens first vs = partsTokens .list first (vs.map Source.tokens) := by
  induction vs generalizing first with
  | nil => rfl
  | cons v vs ih => rw [Source.itemsTokens, ih, List.map_cons, partsTokens]

theorem membersTokens_parts (first : Bool) (ms : List (QuotedText × Source)) : Source.membersTokens first ms =
    partsTokens .object first (ms.map fun p => p.1.token :: [58] :: p.2.tokens) := by
  induction ms generalizing first with
  | nil => rfl
  | cons p ms ih => rw [Source.membersTokens, ih, List.map_cons, partsTokens]; rfl

structure Part (n : Nest) (ts : List Bytes) : Prop where
  opens : ∃ c s us, ts = (c :: s) :: us ∧ isSpace c = false ∧ c ≠ n.closing
  passed : ∀ w, Spaced ts w → PassedIn n w

theorem Part.item {v : Source} (h : ∀ w, Spaced v.tokens w → Passed w) : Part .list v.tokens := by
  refine ⟨?_, ?_⟩
  · obtain ⟨t, ts, first, opens⟩ := v.tokens_opens
    obtain ⟨c, s, rfl⟩ := List.exists_cons_of_ne_nil opens.ne_nil
    exact ⟨c, s, ts, first, opens⟩
  · intro w spaced fuel around r room follows
    obtain ⟨fuel, rfl⟩ := Nat.exists_eq_add_one.mpr (by omega : 0 < fuel)
    obtain ⟨left, spent, value⟩ := h w spaced fuel (.list :: around) r (by omega) follows
    exact ⟨left, by omega, value⟩

theorem Part.member (q : QuotedText) {v : Source} (h : ∀ w, Spaced v.tokens w → Passed w) :
    Part .object (q.token :: [58] :: v.tokens) := by
  refine ⟨⟨34, q.inside ++ [34], _, rfl, rfl, by decide⟩, ?_⟩
  intro w spaced fuel around r room follows
  obtain ⟨before, _, blank, colon', rfl⟩ := Spaced.cons_iff.mp spaced
  obtain ⟨after, w, blank', value, rfl⟩ := Spaced.cons_iff.mp colon'
  simp only [List.length_append, List.length_cons, List.length_nil] at room ⊢
  obtain ⟨fuel, rfl⟩ := Nat.exists_eq_add_one.mpr (by omega : 0 < fuel)
  obtain ⟨left, spent, rest⟩ := h w value fuel (.object :: around) r (by omega) follows
  refine ⟨left, by omega, ?_⟩
  have quote (s : Bytes) : skipSpace (34 :: s) = 34 :: s := rfl
  have name := textSkips_quoted q.quoted (after ++ 58 :: (w ++ r)) _ (Nat.lt_succ_self _)
  have text : before ++ (q.token ++ (after ++ ([58] ++ w))) ++ r =
      before ++ 34 :: (q.inside ++ 34 :: (after ++ 58 :: (w ++ r))) := by simp [QuotedText.token]
  rw [text, skipMember, skipSpace_blank blank, quote]
  simp only [if_true, bind, Except.bind, name, colon_blank blank']
  exact rest

theorem skipInside_blank {b : Bytes} (blank : Blank b) (fuel : Nat) (separated : Bool) (n : Nest)
    (around : List Nest) (s : Bytes) :
    skipInside (fuel + 1) separated n around (b ++ s) = skipInside (fuel + 1) separated n around s := by
  rw [skipInside, skipInside, skipSpace_blank blank]

theorem skipInside_close (fuel : Nat) (separated : Bool) (n : Nest) (around : List Nest) (r : Bytes) :
    skipInside (fuel + 1) separated n around (n.closing :: r) = leave fuel around r := by
  have self : skipSpace (n.closing :: r) = n.closing :: r := by cases n <;> rfl
  have comma : (n.closing == 44) = false := by cases n <;> rfl
  rw [skipInside, self]
  simp only [comma, Bool.and_false, if_true]
  cases around <;> rfl

theorem skipInside_comma (fuel : Nat) (n : Nest) (around : List Nest) (r : Bytes) :
    skipInside (fuel + 1) true n around (44 :: r) = skipMember fuel n around r := by
  have self : skipSpace (44 :: r) = 44 :: r := rfl
  rw [skipInside, self]
  rfl

theorem skipInside_first (fuel : Nat) (n : Nest) (around : List Nest) {c : UInt8} {r : Bytes}
    (space : isSpace c = false) (other : c ≠ n.closing) :
    skipInside (fuel + 1) false n around (c :: r) = skipMember fuel n around (c :: r) := by
  have self : skipSpace (c :: r) = c :: r := by simp [skipSpace, space]
  rw [skipInside, self]
  simp only [Bool.false_and, if_neg other]
  rfl

theorem follows_parts {n : Nest} {ps : List (List Bytes)} {s : Bytes} (h : Spaced (partsTokens n false ps) s)
    (r : Bytes) : Follows (s ++ r) := by
  cases ps with
  | nil => exact Source.follows_mark h (by cases n <;> decide) r
  | cons p ps => exact Source.follows_mark h (by decide) r

/-- The parts of a list or object up to its end. Behind the opening bracket or brace there are two steps that no
octet of the parts pays for. -/
theorem skipInside_parts {n : Nest} {ps : List (List Bytes)} (parts : ∀ p ∈ ps, Part n p) :
    ∀ first w fuel around r, Spaced (partsTokens n first ps) w → 3 * w.length + 2 * first.toNat ≤ fuel →
      ∃ left, fuel ≤ left + 3 * w.length + 2 * first.toNat ∧
        skipInside fuel (!first) n around (w ++ r) = leave left around r := by
  induction ps with
  | nil =>
    intro first w fuel around r spaced room
    obtain ⟨b, _, blank, ⟨⟩, rfl⟩ := Spaced.cons_iff.mp spaced
    simp only [List.length_append, List.length_cons, List.length_nil] at room ⊢
    obtain ⟨fuel, rfl⟩ := Nat.exists_eq_add_one.mpr (by omega : 0 < fuel)
    refine ⟨fuel, by omega, ?_⟩
    rw [List.append_nil, List.append_assoc, List.singleton_append, skipInside_blank blank, skipInside_close]
  | cons p ps ih =>
    have later : ∀ q ∈ ps, Part n q := fun q hq => parts q (by simp [hq])
    obtain ⟨opens, passed⟩ := parts p (by simp)
    intro first w fuel around r spaced room
    obtain ⟨b, _, blank, inside, rfl⟩ := Source.spaced_comma spaced
    obtain ⟨x, s, part, behind, rfl⟩ := Spaced.append_iff.mp inside
    have follows := follows_parts behind r
    cases first with
    | true =>
      obtain ⟨c, t, us, rfl, space, other⟩ := opens
      obtain ⟨b', u, blank', rest, rfl⟩ := Spaced.cons_iff.mp part
      simp only [if_true, List.length_append, List.length_cons, Bool.toNat_true] at room ⊢
      obtain ⟨fuel, rfl⟩ := Nat.exists_eq_add_one.mpr (by omega : 0 < fuel)
      have alone : Spaced ((c :: t) :: us) ((c :: t) ++ u) := .cons blank_nil rest
      obtain ⟨left, spent, item⟩ := passed _ alone fuel around _ (by simp; omega) follows
      simp only [List.length_append, List.length_cons] at spent
      obtain ⟨left', spent', done⟩ := ih later false s left around r behind (by simp; omega)
      simp only [Bool.toNat_false] at spent'
      refine ⟨left', by omega, ?_⟩
      have text : b ++ (b' ++ ((c :: t) ++ u) ++ s) ++ r = b ++ (b' ++ (c :: ((t ++ u) ++ (s ++ r)))) := by simp
      rw [text, skipInside_blank blank, skipInside_blank blank']
      exact (skipInside_first fuel n around space other).trans (item.trans done)
    | false =>
      simp only [Bool.false_eq_true, if_false, List.length_append, List.length_cons, Bool.toNat_false] at room ⊢
      obtain ⟨fuel, rfl⟩ := Nat.exists_eq_add_one.mpr (by omega : 0 < fuel)
      obtain ⟨left, spent, item⟩ := passed x part fuel around _ (by omega) follows
      obtain ⟨left', spent', done⟩ := ih later false s left around r behind (by simp; omega)
      simp only [Bool.toNat_false] at spent'
      refine ⟨left', by omega, ?_⟩
      have text : b ++ 44 :: (x ++ s) ++ r = b ++ 44 :: (x ++ (s ++ r)) := by simp
      rw [text, skipInside_blank blank]
      exact (skipInside_comma fuel n around _).trans (item.trans done)

theorem Passed.of_parts {c : UInt8} {n : Nest} (opening : c = 91 ∧ n = .list ∨ c = 123 ∧ n = .object)
    {ps : List (List Bytes)} (parts : ∀ p ∈ ps, Part n p) {w : Bytes}
    (spaced : Spaced ([c] :: partsTokens n true ps) w) : Passed w := by
  obtain ⟨b, s, blank, inside, rfl⟩ := Spaced.cons_iff.mp spaced
  refine Passed.before blank (by simp) ?_
  intro fuel around r room _
  obtain ⟨fuel, rfl⟩ := Nat.exists_eq_add_one.mpr (by simp at room; omega : 0 < fuel)
  simp only [List.singleton_append, List.length_cons] at room ⊢
  obtain ⟨left, spent, done⟩ := skipInside_parts parts true s fuel around r inside (by simp; omega)
  simp only [Bool.toNat_true] at spent
  refine ⟨left, by omega, ?_⟩
  have opened (s : Bytes) : skipValue (fuel + 1) around (c :: s) = skipInside fuel false n around s := by
    obtain ⟨rfl, rfl⟩ | ⟨rfl, rfl⟩ := opening
    · have self : skipSpace (91 :: s) = 91 :: s := rfl
      rw [skipValue, self]
      rfl
    · have self : skipSpace (123 :: s) = 123 :: s := rfl
      rw [skipValue, self]
      rfl
  rw [List.cons_append, opened]
  exact done

theorem passed_leaf {t w : Bytes} (spaced : Spaced [t] w) (some : t ≠ []) (h : Passed t) : Passed w := by
  obtain ⟨b, _, blank, ⟨⟩, rfl⟩ := Spaced.cons_iff.mp spaced
  rw [List.append_nil]
  exact h.before blank some

theorem passed_spaced (v : Source) : ∀ w, Spaced v.tokens w → Passed w := by
  induction v with
  | null =>
    intro w spaced
    refine passed_leaf spaced (by simp) (Passed.of_leaf (by simp) fun fuel around r _ => ?_)
    exact skipValue_leaf (c := 110) (s := 117 :: 108 :: 108 :: r) rfl (by decide) (by decide) rfl fuel around
  | bool b =>
    intro w spaced
    cases b with
    | false =>
      refine passed_leaf spaced (by simp) (Passed.of_leaf (by simp) fun fuel around r _ => ?_)
      exact skipValue_leaf (c := 102) (s := 97 :: 108 :: 115 :: 101 :: r) rfl (by decide) (by decide) rfl fuel
        around
    | true =>
      refine passed_leaf spaced (by simp) (Passed.of_leaf (by simp) fun fuel around r _ => ?_)
      exact skipValue_leaf (c := 116) (s := 114 :: 117 :: 101 :: r) rfl (by decide) (by decide) rfl fuel around
  | number t valid =>
    intro w spaced
    exact passed_leaf spaced (NumberText.opens valid).ne_nil (passed_number valid)
  | text q =>
    intro w spaced
    exact passed_leaf spaced (by simp [QuotedText.token]) (passed_text q)
  | list items ih =>
    intro w spaced
    rw [Source.tokens, itemsTokens_parts] at spaced
    refine Passed.of_parts (Or.inl ⟨rfl, rfl⟩) (fun p hp => ?_) spaced
    obtain ⟨v, hv, rfl⟩ := List.mem_map.mp hp
    exact .item (ih v hv)
  | object ms ih =>
    intro w spaced
    rw [Source.tokens, membersTokens_parts] at spaced
    refine Passed.of_parts (Or.inr ⟨rfl, rfl⟩) (fun p hp => ?_) spaced
    obtain ⟨m, hm, rfl⟩ := List.mem_map.mp hp
    exact .member m.1 (ih m hm)

theorem skip_spaced {v : Source} {w r : Bytes} (spaced : Spaced v.tokens w) (follows : Follows r) :
    skip (w ++ r) = .ok r := by
  have room : 3 * w.length ≤ 3 * (w ++ r).length + 3 := by
    rw [List.length_append]
    omega
  obtain ⟨left, -, passed⟩ := passed_spaced v w spaced _ [] r room follows
  exact passed

theorem Closes.follows {r : Bytes} (h : Closes r) : Follows r := by
  cases r with
  | nil => trivial
  | cons c r => exact Or.inr h

theorem skip_chars (v : Json) {r : Bytes} (closes : Closes r) : skip (ofChars v.chars ++ r) = .ok r := by
  obtain ⟨source, spaced, -⟩ := v.writes_chars.exists_tokens
  exact skip_spaced spaced closes.follows

end RequestAuth.Json.Read
