import RequestAuth.Bytes
import Mathlib.Data.List.Basic

/-! UTF-8 octets of characters. An octet below 128 is an ASCII character and stands for itself. -/

namespace RequestAuth.Bytes

def ofChars (cs : List Char) : Bytes := cs.flatMap String.utf8EncodeChar

theorem ofText_ofList (cs : List Char) : ofText (String.ofList cs) = ofChars cs := by
  simp [ofText, ofChars, List.utf8Encode]

theorem ofText_eq_ofChars (s : String) : ofText s = ofChars s.toList := by
  rw [← ofText_ofList, String.ofList_toList]

@[simp] theorem ofChars_nil : ofChars [] = [] := rfl

theorem ofChars_append (cs ds : List Char) : ofChars (cs ++ ds) = ofChars cs ++ ofChars ds := by
  simp [ofChars]

theorem ofChars_cons (c : Char) (cs : List Char) :
    ofChars (c :: cs) = String.utf8EncodeChar c ++ ofChars cs := by
  simp [ofChars]

theorem length_le_ofChars (cs : List Char) : cs.length ≤ (ofChars cs).length := by
  induction cs with
  | nil => simp
  | cons c cs ih =>
    have := c.utf8Size_pos
    rw [ofChars_cons, List.length_append, String.length_utf8EncodeChar, List.length_cons]
    omega

theorem ofText_append (s t : String) : ofText (s ++ t) = ofText s ++ ofText t := by
  simp [ofText_eq_ofChars, ofChars_append]

theorem utf8_ascii {c : Char} (h : c.toNat < 128) :
    String.utf8EncodeChar c = [UInt8.ofNat c.toNat] := by
  have small : c.utf8Size = 1 := by
    rw [Char.utf8Size_eq_one_iff, UInt32.le_iff_toNat_le]
    exact Nat.le_of_lt_succ h
  rw [String.utf8EncodeChar_eq_singleton small]
  rfl

theorem ofChars_ascii {c : Char} (h : c.toNat < 128) (cs : List Char) :
    ofChars (c :: cs) = UInt8.ofNat c.toNat :: ofChars cs := by
  simp [ofChars_cons, utf8_ascii h]

theorem le_utf8 {c : Char} (h : 128 ≤ c.toNat) {b : UInt8} (hb : b ∈ String.utf8EncodeChar c) :
    128 ≤ b.toNat := by
  have large : ¬ c.val.toNat ≤ 127 := Nat.not_le.mpr h
  have bound : c.val.toNat < 0x110000 := by
    have := c.valid
    obtain v | v := this <;> omega
  simp only [String.utf8EncodeChar, large, if_false] at hb
  split at hb
  · simp only [List.mem_cons, List.not_mem_nil, or_false] at hb
    obtain rfl | rfl := hb <;> simp <;> omega
  · split at hb
    · simp only [List.mem_cons, List.not_mem_nil, or_false] at hb
      obtain rfl | rfl | rfl := hb <;> simp <;> omega
    · simp only [List.mem_cons, List.not_mem_nil, or_false] at hb
      obtain rfl | rfl | rfl | rfl := hb <;> simp <;> omega

theorem mem_ofChars_ascii {c : Char} (h : c.toNat < 128) (cs : List Char) :
    UInt8.ofNat c.toNat ∈ ofChars cs ↔ c ∈ cs := by
  have small : (UInt8.ofNat c.toNat).toNat = c.toNat := by simp; omega
  constructor
  · intro hb
    obtain ⟨d, hd, hb⟩ := List.mem_flatMap.mp hb
    by_cases ascii : d.toNat < 128
    · rw [utf8_ascii ascii, List.mem_singleton] at hb
      have e := congrArg UInt8.toNat hb
      rw [small] at e
      have same : c.toNat = d.toNat := by simp at e; omega
      rwa [Char.toNat_inj.mp same]
    · have := le_utf8 (Nat.not_lt.mp ascii) hb
      omega
  · intro hc
    exact List.mem_flatMap.mpr ⟨c, hc, by simp [utf8_ascii h]⟩

/-- The first octet tells the first character, if it is an ASCII character. -/
theorem head?_of_ofChars {c : Char} (h : c.toNat < 128) {cs : List Char}
    (first : (ofChars cs).head? = some (UInt8.ofNat c.toNat)) : cs.head? = some c := by
  cases cs with
  | nil => cases first
  | cons d cs =>
    have octets : ofChars [d] ≠ [] := fun none => by
      have pos := length_le_ofChars [d]
      simp [none] at pos
    rw [← List.singleton_append, ofChars_append, List.head?_append_of_ne_nil _ octets] at first
    obtain rfl := List.mem_singleton.mp ((mem_ofChars_ascii h [d]).mp (List.mem_of_head? first))
    rfl

theorem getLast?_of_ofChars {c : Char} (h : c.toNat < 128) {cs : List Char}
    (last : (ofChars cs).getLast? = some (UInt8.ofNat c.toNat)) : cs.getLast? = some c := by
  cases List.eq_nil_or_concat cs with
  | inl none =>
    rw [none] at last
    cases last
  | inr split =>
    obtain ⟨front, d, rfl⟩ := split
    have octets : ofChars [d] ≠ [] := fun none => by
      have pos := length_le_ofChars [d]
      simp [none] at pos
    rw [List.concat_eq_append, ofChars_append, List.getLast?_append_of_ne_nil _ octets] at last
    obtain rfl := List.mem_singleton.mp ((mem_ofChars_ascii h [d]).mp (List.mem_of_getLast? last))
    simp

theorem toNat_ofNat_octet {n : Nat} (h : n < 256) : (Char.ofNat n).toNat = n := by
  have valid : n.isValidChar := Or.inl (by omega)
  rw [Char.ofNat, dif_pos valid]
  rfl

theorem ofChars_octets {b : Bytes} (h : ∀ x ∈ b, x.toNat < 128) :
    ofChars (b.map fun x => Char.ofNat x.toNat) = b := by
  induction b with
  | nil => rfl
  | cons x r ih =>
    have small := h x (by simp)
    have octet := toNat_ofNat_octet x.toNat_lt
    rw [List.map_cons, ofChars_ascii (by omega), octet, UInt8.ofNat_toNat,
      ih fun y hy => h y (by simp [hy])]

end RequestAuth.Bytes
