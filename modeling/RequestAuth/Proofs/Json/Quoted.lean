import RequestAuth.Proofs.Ensures
import RequestAuth.Proofs.Json.Text

/-! What may stand between quotes, whether or not it stands for characters: half of a pair can be escaped
without the other half, and such a text is refused. -/

namespace RequestAuth.Json
open Bytes Read

inductive Quoted : Bytes → Prop where
  | nil : Quoted []
  | plain {c : Char} {w : Bytes} (control : 32 ≤ c.toNat) (quote : c ≠ '"') (backslash : c ≠ '\\')
    (rest : Quoted w) : Quoted (String.utf8EncodeChar c ++ w)
  | letter {c : Char} {l : UInt8} {w : Bytes} (letter : (c, l) ∈ letters) (rest : Quoted w) :
    Quoted (92 :: l :: w)
  | unit {u : Bytes} {n : Nat} {w : Bytes} (unit : HexUnit u n) (rest : Quoted w) :
    Quoted (92 :: 117 :: (u ++ w))

theorem WritesText.quoted {cs : List Char} {w : Bytes} (h : WritesText cs w) : Quoted w := by
  induction h with
  | nil => exact .nil
  | plain control quote backslash _ ih => exact .plain control quote backslash ih
  | letter letter _ ih => exact .letter letter ih
  | unit unit _ ih => exact .unit unit ih
  | pair first second _ _ _ _ ih => exact .unit first (.unit second ih)

/-- From `s` on, no text can be read. -/
def TextFails (s : Bytes) : Prop := ∀ fuel, (textOctets fuel s).toOption = none

theorem TextFails.plain {s : Bytes} {b : UInt8} (hb : isPlain b) (h : TextFails s) : TextFails (b :: s) := by
  intro fuel
  cases fuel with
  | zero => rfl
  | succ fuel =>
    have control : ¬ b < 32 := by
      rw [UInt8.lt_iff_toNat_lt]
      exact Nat.not_lt.mpr hb.1
    simp only [textOctets, hb.2.1, hb.2.2, control, if_false, toOption_bind, h fuel, Option.bind_none]

theorem TextFails.plains {s bs : Bytes} (hb : ∀ b ∈ bs, isPlain b) (h : TextFails s) : TextFails (bs ++ s) := by
  induction bs with
  | nil => exact h
  | cons b bs ih => exact (ih fun x hx => hb x (List.mem_cons_of_mem b hx)).plain (hb b (by simp))

theorem TextFails.escape {t : Bytes} (h : ∀ b s, escaped t = .ok (b, s) → TextFails s) : TextFails (92 :: t) := by
  intro fuel
  cases fuel with
  | zero => rfl
  | succ fuel =>
    have quote : ¬ (92 : UInt8) = 34 := by decide
    simp only [textOctets, quote, if_false, if_true, toOption_bind]
    cases e : escaped t with
    | error f => rfl
    | ok p =>
      change ((textOctets fuel p.2).toOption.bind _) = none
      rw [h p.1 p.2 e fuel, Option.bind_none]

theorem TextFails.of_escaped {t : Bytes} (none : (escaped t).toOption = none) : TextFails (92 :: t) := by
  apply TextFails.escape
  intro b s e
  rw [e] at none
  cases none

theorem TextFails.after {t b s : Bytes} (e : escaped t = .ok (b, s)) (h : TextFails s) : TextFails (92 :: t) := by
  apply TextFails.escape
  intro b' s' e'
  cases e.symm.trans e'
  exact h

theorem TextFails.text {s : Bytes} (h : TextFails s) : (Read.text s).toOption = none := by
  rw [Read.text, toOption_bind, h, Option.bind_none]

theorem HexUnit.lt {u : Bytes} {n : Nat} (h : HexUnit u n) : n < 0x10000 := by
  have digit {a : UInt8} {x : Nat} (h : hexDigit? a = some x) : x < 16 := by
    simp only [hexDigit?] at h
    repeat' split at h
    all_goals
      cases h
      try omega
  obtain ⟨first, second, third, fourth⟩ := h
  have := digit first
  have := digit second
  have := digit third
  have := digit fourth
  omega

theorem exists_char {n : Nat} (small : n < 0x110000) (trail : ¬ isTrail n) (lead : ¬ isLead n) :
    ∃ c : Char, c.toNat = n := by
  simp only [isTrail, isLead, Bool.and_eq_true, decide_eq_true_eq] at trail lead
  have valid : n.isValidChar := by
    rw [Nat.isValidChar]
    omega
  exact ⟨Char.ofNat n, by rw [Char.ofNat, dif_pos valid]; rfl⟩

/-- Two halves always make a character, one beyond all that are written alone. -/
theorem exists_pair_char {n m : Nat} (lead : isLead n) (trail : isTrail m) :
    ∃ c : Char, c.toNat = 0x10000 + (n - 0xd800) * 0x400 + (m - 0xdc00) := by
  simp only [isLead, isTrail, Bool.and_eq_true, decide_eq_true_eq] at lead trail
  have range : 0x10000 + (n - 0xd800) * 0x400 + (m - 0xdc00) < 0x110000 := by omega
  exact exists_char range (by simp [isTrail]; omega) (by simp [isLead]; omega)

theorem escaped_trail {u : Bytes} {n : Nat} (unit : HexUnit u n) (trail : isTrail n) (s : Bytes) :
    (escaped (117 :: (u ++ s))).toOption = none := by
  simp [escaped, codeUnit_unit unit, bind, Except.bind, trail, stopAt, Except.toOption]

theorem escaped_lead {u : Bytes} {n : Nat} (unit : HexUnit u n) (lead : isLead n) (s : Bytes) :
    escaped (117 :: (u ++ s)) = trailUnit n s := by
  have other : isTrail n = false := by
    simp only [isLead, Bool.and_eq_true, decide_eq_true_eq] at lead
    simp only [isTrail, Bool.and_eq_false_iff, decide_eq_false_iff_not]
    omega
  simp [escaped, codeUnit_unit unit, bind, Except.bind, other, lead]

theorem trailUnit_quoted {w : Bytes} (h : Quoted w) (lead : Nat) :
    (∃ u n v, HexUnit u n ∧ isTrail n ∧ Quoted v ∧ w = 92 :: 117 :: (u ++ v)) ∨
      ∀ r, (trailUnit lead (w ++ 34 :: r)).toOption = none := by
  cases h with
  | nil => exact Or.inr fun r => rfl
  | @plain c w control quote backslash rest =>
    right
    intro r
    obtain ⟨b, bs, first⟩ := List.exists_cons_of_ne_nil (String.utf8EncodeChar_ne_nil (c := c))
    have plain : isPlain b := isPlain_utf8 control quote backslash (by simp [first])
    rw [first]
    simp [trailUnit, plain.2.2, stopAt, Except.toOption]
  | @letter c l w letter rest =>
    right
    intro r
    simp only [letters, List.mem_cons, Prod.mk.injEq, List.not_mem_nil, or_false] at letter
    obtain ⟨-, rfl⟩ | ⟨-, rfl⟩ | ⟨-, rfl⟩ | ⟨-, rfl⟩ | ⟨-, rfl⟩ | ⟨-, rfl⟩ | ⟨-, rfl⟩ | ⟨-, rfl⟩ :=
      letter <;> rfl
  | @unit u n w unit rest =>
    by_cases trail : isTrail n
    · exact Or.inl ⟨u, n, w, unit, trail, rest, rfl⟩
    · right
      intro r
      simp [trailUnit, codeUnit_unit unit, bind, Except.bind, trail, stopAt, Except.toOption]

/-- A text between quotes stands for some characters, or it is refused whatever follows. -/
theorem Quoted.spells_or_fails {w : Bytes} (h : Quoted w) :
    (∃ cs, WritesText cs w) ∨ ∀ r, TextFails (w ++ 34 :: r) := by
  -- The second half of a pair is read together with the first, so that one part before is not enough.
  induction size : w.length using Nat.strongRecOn generalizing w with
  | ind _ ih =>
    subst size
    cases h with
    | nil => exact Or.inl ⟨[], .nil⟩
    | @plain c w control quote backslash rest =>
      have shorter : w.length < (String.utf8EncodeChar c ++ w).length := by
        have pos := c.utf8Size_pos
        rw [List.length_append, String.length_utf8EncodeChar]
        omega
      obtain ⟨cs, spells⟩ | fails := ih _ shorter rest rfl
      · exact Or.inl ⟨c :: cs, .plain control quote backslash spells⟩
      · right
        intro r
        rw [List.append_assoc]
        exact (fails r).plains fun b hb => isPlain_utf8 control quote backslash hb
    | @letter c l w letter rest =>
      obtain ⟨cs, spells⟩ | fails := ih _ (by simp only [List.length_cons]; omega) rest rfl
      · exact Or.inl ⟨c :: cs, .letter letter spells⟩
      · exact Or.inr fun r => .after (escaped_letter letter _) (fails r)
    | @unit u n w unit rest =>
      have text (r : Bytes) : 92 :: 117 :: (u ++ w) ++ 34 :: r = 92 :: 117 :: (u ++ (w ++ 34 :: r)) := by simp
      simp only [text]
      by_cases trail : isTrail n
      · exact Or.inr fun r => .of_escaped (escaped_trail unit trail _)
      by_cases lead : isLead n
      · obtain ⟨v, m, w, second, trail', behind, rfl⟩ | alone := trailUnit_quoted rest n
        · obtain ⟨c, char⟩ := exists_pair_char lead trail'
          obtain ⟨cs, spells⟩ | fails := ih _ (by simp; omega) behind rfl
          · exact Or.inl ⟨c :: cs, .pair unit second lead trail' char spells⟩
          · right
            intro r
            have read := escaped_pair unit second lead trail' char (w ++ 34 :: r)
            simp only [List.append_assoc, List.cons_append]
            exact .after read (fails r)
        · right
          intro r
          apply TextFails.of_escaped
          rw [escaped_lead unit lead]
          exact alone r
      · obtain ⟨c, rfl⟩ := exists_char (Nat.lt_trans unit.lt (by decide)) trail lead
        obtain ⟨cs, spells⟩ | fails := ih _ (by simp; omega) rest rfl
        · exact Or.inl ⟨c :: cs, .unit unit spells⟩
        · exact Or.inr fun r => .after (escaped_unit unit _) (fails r)

end RequestAuth.Json
