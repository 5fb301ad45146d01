import RequestAuth.Json.Reader
import RequestAuth.Proofs.Text.Utf8

/-! What may stand between quotes for some characters, and what is written for them. -/

namespace RequestAuth.Json

def letters : List (Char × UInt8) :=
  [('"', 34), ('\\', 92), ('/', 47), (Char.ofNat 8, 98), (Char.ofNat 12, 102), ('\n', 110), ('\r', 114), ('\t', 116)]

inductive HexUnit : Bytes → Nat → Prop where
  | digits {a b c d : UInt8} {w x y z : Nat} (first : Read.hexDigit? a = some w)
    (second : Read.hexDigit? b = some x) (third : Read.hexDigit? c = some y)
    (fourth : Read.hexDigit? d = some z) : HexUnit [a, b, c, d] (((w * 16 + x) * 16 + y) * 16 + z)

/-- What may stand between quotes for some characters. -/
inductive WritesText : List Char → Bytes → Prop where
  | nil : WritesText [] []
  | plain {c : Char} {cs : List Char} {w : Bytes} (control : 32 ≤ c.toNat) (quote : c ≠ '"')
    (backslash : c ≠ '\\') (rest : WritesText cs w) : WritesText (c :: cs) (String.utf8EncodeChar c ++ w)
  | letter {c : Char} {l : UInt8} {cs : List Char} {w : Bytes} (letter : (c, l) ∈ letters)
    (rest : WritesText cs w) : WritesText (c :: cs) (92 :: l :: w)
  | unit {c : Char} {u : Bytes} {cs : List Char} {w : Bytes} (unit : HexUnit u c.toNat)
    (rest : WritesText cs w) : WritesText (c :: cs) (92 :: 117 :: (u ++ w))
  | pair {c : Char} {lead trail : Nat} {u v : Bytes} {cs : List Char} {w : Bytes} (first : HexUnit u lead)
    (second : HexUnit v trail) (isLead : Read.isLead lead) (isTrail : Read.isTrail trail)
    (char : c.toNat = 0x10000 + (lead - 0xd800) * 0x400 + (trail - 0xdc00)) (rest : WritesText cs w) :
    WritesText (c :: cs) (92 :: 117 :: (u ++ 92 :: 117 :: (v ++ w)))

theorem hexDigit?_digitChar : ∀ n < 16, Read.hexDigit? (UInt8.ofNat (Nat.digitChar n).toNat) = some n := by
  decide

theorem digitChar_ascii : ∀ n < 16, (Nat.digitChar n).toNat < 128 := by decide

theorem escape_cases (c : Char) :
    (∃ l, (c, UInt8.ofNat l.toNat) ∈ letters ∧ l.toNat < 128 ∧ escape c = ['\\', l]) ∨
    (c.toNat < 32 ∧ escape c =
      ['\\', 'u', '0', '0', Nat.digitChar (c.toNat / 16), Nat.digitChar (c.toNat % 16)]) ∨
    32 ≤ c.toNat ∧ c ≠ '"' ∧ c ≠ '\\' ∧ escape c = [c] := by
  by_cases quote : c = '"'
  · subst quote
    exact Or.inl ⟨'"', by decide⟩
  by_cases backslash : c = '\\'
  · subst backslash
    exact Or.inl ⟨'\\', by decide⟩
  by_cases backspace : c = Char.ofNat 8
  · subst backspace
    exact Or.inl ⟨'b', by decide⟩
  by_cases feed : c = Char.ofNat 12
  · subst feed
    exact Or.inl ⟨'f', by decide⟩
  by_cases line : c = '\n'
  · subst line
    exact Or.inl ⟨'n', by decide⟩
  by_cases carriage : c = '\r'
  · subst carriage
    exact Or.inl ⟨'r', by decide⟩
  by_cases tab : c = '\t'
  · subst tab
    exact Or.inl ⟨'t', by decide⟩
  have rest : escape c = if c.toNat < 32 then
      ['\\', 'u', '0', '0', Nat.digitChar (c.toNat / 16), Nat.digitChar (c.toNat % 16)] else [c] := by
    simp only [escape, quote, backslash, backspace, feed, line, carriage, tab, if_false]
  by_cases control : c.toNat < 32
  · exact Or.inr (Or.inl ⟨control, rest.trans (if_pos control)⟩)
  · exact Or.inr (Or.inr ⟨by omega, quote, backslash, rest.trans (if_neg control)⟩)

open Bytes in
theorem writesText_escape (cs : List Char) : WritesText cs (ofChars (cs.flatMap escape)) := by
  induction cs with
  | nil => exact .nil
  | cons c cs ih =>
    rw [List.flatMap_cons]
    obtain ⟨l, letter, ascii, e⟩ | ⟨control, e⟩ | ⟨control, quote, backslash, e⟩ := escape_cases c
    · rw [e, List.cons_append, List.singleton_append, ofChars_ascii (by decide), ofChars_ascii ascii]
      exact .letter letter ih
    · have unit : HexUnit [48, 48, UInt8.ofNat (Nat.digitChar (c.toNat / 16)).toNat,
          UInt8.ofNat (Nat.digitChar (c.toNat % 16)).toNat] c.toNat := by
        have zero : Read.hexDigit? 48 = some 0 := rfl
        have digits := HexUnit.digits zero zero (hexDigit?_digitChar (c.toNat / 16) (by omega))
          (hexDigit?_digitChar (c.toNat % 16) (by omega))
        have whole : ((0 * 16 + 0) * 16 + c.toNat / 16) * 16 + c.toNat % 16 = c.toNat := by omega
        rwa [whole] at digits
      have high := digitChar_ascii (c.toNat / 16) (by omega)
      have low := digitChar_ascii (c.toNat % 16) (by omega)
      rw [e]
      simp only [List.cons_append, List.nil_append, ofChars_ascii, high, low, (by decide : '\\'.toNat < 128),
        (by decide : 'u'.toNat < 128), (by decide : '0'.toNat < 128)]
      exact .unit unit ih
    · rw [e, List.singleton_append, ofChars_cons]
      exact .plain control quote backslash ih

end RequestAuth.Json
