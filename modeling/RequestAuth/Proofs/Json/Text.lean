import RequestAuth.Json.Typed
import RequestAuth.Proofs.Json.Escape

/-! Texts are read back: every character comes out of its escape, whatever it is and however it is escaped. -/

namespace RequestAuth.Json.Read
open Bytes

/-- From `s` on, the octets `d` of a text are read up to the closing quote, and `r` is left. -/
def TextReads (s d r : Bytes) : Prop := ∀ fuel, s.length < fuel → textOctets fuel s = .ok (d, r)

theorem TextReads.close (r : Bytes) : TextReads (34 :: r) [] r := by
  intro fuel hf
  cases fuel with
  | zero => simp at hf
  | succ fuel => simp [textOctets]

def isPlain (b : UInt8) : Prop := 32 ≤ b.toNat ∧ b ≠ 34 ∧ b ≠ 92

theorem TextReads.plain {s d r : Bytes} {b : UInt8} (hb : isPlain b) (h : TextReads s d r) :
    TextReads (b :: s) (b :: d) r := by
  intro fuel hf
  cases fuel with
  | zero => simp at hf
  | succ fuel =>
    have inner := h fuel (by simpa using hf)
    have control : ¬ b < 32 := by
      rw [UInt8.lt_iff_toNat_lt]
      exact Nat.not_lt.mpr hb.1
    simp only [textOctets, hb.2.1, hb.2.2, control, if_false, inner, bind, Except.bind]
    rfl

theorem TextReads.plains {s d r bs : Bytes} (hb : ∀ b ∈ bs, isPlain b) (h : TextReads s d r) :
    TextReads (bs ++ s) (bs ++ d) r := by
  induction bs with
  | nil => exact h
  | cons b bs ih =>
    exact (ih fun x hx => hb x (List.mem_cons_of_mem b hx)).plain (hb b (by simp))

theorem TextReads.escape {t s b d r : Bytes} (e : escaped t = .ok (b, s)) (short : s.length ≤ t.length)
    (h : TextReads s d r) : TextReads (92 :: t) (b ++ d) r := by
  intro fuel hf
  cases fuel with
  | zero => simp at hf
  | succ fuel =>
    have room : s.length < fuel := by
      simp only [List.length_cons] at hf
      omega
    have quote : ¬ (92 : UInt8) = 34 := by decide
    simp only [textOctets, quote, if_false, if_true, e, h fuel room, bind, Except.bind]
    rfl

theorem utf8_toNat (c : Char) : utf8 c.toNat = String.utf8EncodeChar c := by
  have single : String.singleton c = String.ofList [c] := rfl
  rw [utf8, Char.ofNat_toNat, single, ofText_ofList]
  simp [ofChars]

theorem isPlain_utf8 {c : Char} (control : 32 ≤ c.toNat) (quote : c ≠ '"') (backslash : c ≠ '\\')
    {b : UInt8} (hb : b ∈ String.utf8EncodeChar c) : isPlain b := by
  by_cases ascii : c.toNat < 128
  · rw [utf8_ascii ascii, List.mem_singleton] at hb
    subst b
    have octet : (UInt8.ofNat c.toNat).toNat = c.toNat := by simp; omega
    refine ⟨by omega, ?_, ?_⟩
    · intro e
      rw [e] at octet
      exact quote (Char.toNat_inj.mp octet.symm)
    · intro e
      rw [e] at octet
      exact backslash (Char.toNat_inj.mp octet.symm)
  · have high := le_utf8 (Nat.not_lt.mp ascii) hb
    refine ⟨by omega, ?_, ?_⟩
    · intro quote
      simp [quote] at high
    · intro backslash
      simp [backslash] at high

theorem codeUnit_unit {u : Bytes} {n : Nat} (h : HexUnit u n) (r : Bytes) :
    codeUnit (u ++ r) = .ok (n, r) := by
  obtain ⟨first, second, third, fourth⟩ := h
  simp [codeUnit, first, second, third, fourth]

/-- No character is half of a pair. -/
theorem char_unit (c : Char) : isTrail c.toNat = false ∧ isLead c.toNat = false := by
  have valid : c.toNat < 0xd800 ∨ 0xdfff < c.toNat ∧ c.toNat < 0x110000 := c.valid
  simp only [isTrail, isLead, Bool.and_eq_false_iff, decide_eq_false_iff_not]
  omega

theorem escaped_letter {c : Char} {l : UInt8} (h : (c, l) ∈ letters) (r : Bytes) :
    escaped (l :: r) = .ok (String.utf8EncodeChar c, r) := by
  simp only [letters, List.mem_cons, Prod.mk.injEq, List.not_mem_nil, or_false] at h
  obtain ⟨rfl, rfl⟩ | ⟨rfl, rfl⟩ | ⟨rfl, rfl⟩ | ⟨rfl, rfl⟩ | ⟨rfl, rfl⟩ | ⟨rfl, rfl⟩ |
    ⟨rfl, rfl⟩ | ⟨rfl, rfl⟩ := h <;> rfl

theorem escaped_unit {c : Char} {u : Bytes} (h : HexUnit u c.toNat) (r : Bytes) :
    escaped (117 :: (u ++ r)) = .ok (String.utf8EncodeChar c, r) := by
  obtain ⟨trail, lead⟩ := char_unit c
  simp [escaped, codeUnit_unit h, bind, Except.bind, trail, lead, utf8_toNat]

theorem escaped_pair {c : Char} {lead trail : Nat} {u v : Bytes} (first : HexUnit u lead)
    (second : HexUnit v trail) (isLead' : isLead lead) (isTrail' : isTrail trail)
    (char : c.toNat = 0x10000 + (lead - 0xd800) * 0x400 + (trail - 0xdc00)) (r : Bytes) :
    escaped (117 :: (u ++ 92 :: 117 :: (v ++ r))) = .ok (String.utf8EncodeChar c, r) := by
  have other : isTrail lead = false := by
    simp only [isLead, Bool.and_eq_true, decide_eq_true_eq] at isLead'
    simp only [isTrail, Bool.and_eq_false_iff, decide_eq_false_iff_not]
    omega
  simp [escaped, trailUnit, codeUnit_unit first, codeUnit_unit second, bind, Except.bind, other, isLead',
    isTrail', ← char, utf8_toNat]

theorem textReads {cs : List Char} {w : Bytes} (h : WritesText cs w) (r : Bytes) :
    TextReads (w ++ 34 :: r) (ofChars cs) r := by
  induction h with
  | nil => exact TextReads.close r
  | plain control quote backslash _ ih =>
    rw [ofChars_cons, List.append_assoc]
    exact ih.plains fun b hb => isPlain_utf8 control quote backslash hb
  | letter letter _ ih =>
    rw [ofChars_cons]
    exact ih.escape (escaped_letter letter _) (by simp)
  | unit unit _ ih =>
    rw [ofChars_cons, List.cons_append, List.cons_append, List.append_assoc]
    exact ih.escape (escaped_unit unit _) (by simp; omega)
  | pair first second lead trail char _ ih =>
    rw [ofChars_cons, List.cons_append, List.cons_append, List.append_assoc, List.cons_append, List.cons_append,
      List.append_assoc]
    exact ih.escape (escaped_pair first second lead trail char _) (by simp; omega)

theorem text_writes {s : String} {w : Bytes} (h : WritesText s.toList w) (r : Bytes) :
    text (w ++ 34 :: r) = .ok (s, r) := by
  have octets := textReads h r _ (Nat.lt_succ_self _)
  rw [← ofText_eq_ofChars] at octets
  simp only [text, octets, bind, Except.bind, toText?_ofText]

theorem ofChars_textChars (t : String) :
    ofChars (Json.textChars t) = 34 :: (ofChars (t.toList.flatMap Json.escape) ++ [34]) := by
  rw [Json.textChars, List.cons_append, ofChars_ascii (by decide), ofChars_append]
  rfl

theorem text_escaped (t : String) (r : Bytes) :
    text (ofChars (t.toList.flatMap Json.escape) ++ 34 :: r) = .ok (t, r) :=
  text_writes (writesText_escape t.toList) r

theorem string_textChars (t : String) (r : Bytes) :
    string (ofChars (Json.textChars t) ++ r) = .ok (t, r) := by
  rw [ofChars_textChars, List.cons_append, List.append_assoc, List.singleton_append]
  exact text_escaped t r

end RequestAuth.Json.Read
