import RequestAuth.Json.Typed
import RequestAuth.Proofs.Json.Structure
import RequestAuth.Proofs.Text.Utf8

/-! Written whole numbers of at most 64 bits are read back. -/

namespace RequestAuth.Json.Read
open Bytes

/-- What may stand behind a written value: a comma, a closing bracket or brace, or nothing. -/
def Closes : Bytes → Prop
  | [] => True
  | c :: _ => c = 44 ∨ c = 93 ∨ c = 125

theorem le_ofDigitChars (ds : List Char) (n : Nat) : n ≤ Nat.ofDigitChars 10 ds n := by
  rw [Nat.ofDigitChars_eq_ofDigitChars_zero]
  have : 0 < 10 ^ ds.length := Nat.pow_pos (by omega)
  calc
    n ≤ 10 ^ ds.length * n := Nat.le_mul_of_pos_left n this
    _ ≤ _ := Nat.le_add_right _ _

theorem digit_range {c : Char} (h : c.isDigit) : 48 ≤ c.toNat ∧ c.toNat ≤ 57 := by
  simp only [Char.isDigit, Bool.and_eq_true, decide_eq_true_eq, ge_iff_le, UInt32.le_iff_toNat_le] at h
  exact h

theorem isDigit_octet {c : Char} (h : c.isDigit) : isDigit (UInt8.ofNat c.toNat) := by
  have range := digit_range h
  have octet : (UInt8.ofNat c.toNat).toNat = c.toNat := by simp; omega
  simp [isDigit, UInt8.le_iff_toNat_le, octet]
  exact range

theorem digit_octet {c : Char} (h : c.isDigit) : digit (UInt8.ofNat c.toNat) = c.toNat - 48 := by
  have range := digit_range h
  simp [digit]
  omega

theorem afterDigits_closes (positive : Bool) (n : Nat) {r : Bytes} (h : Closes r) :
    afterDigits positive n r = .ok (whole positive n, r) := by
  cases r with
  | nil => rfl
  | cons c r => obtain rfl | rfl | rfl := h <;> rfl

theorem wholeDigits_digits (positive : Bool) {r : Bytes} (hr : Closes r) (ds : List Char) (n : Nat)
    (digits : ∀ c ∈ ds, c.isDigit) (small : Nat.ofDigitChars 10 ds n ≤ maxCount) :
    wholeDigits positive n (ofChars ds ++ r) = .ok (whole positive (Nat.ofDigitChars 10 ds n), r) := by
  induction ds generalizing n with
  | nil =>
    rw [ofChars_nil, List.nil_append, Nat.ofDigitChars_nil]
    cases r with
    | nil => rfl
    | cons c r =>
      have stop : isDigit c = false := by obtain rfl | rfl | rfl := hr <;> rfl
      simp only [wholeDigits, stop]
      exact afterDigits_closes positive n hr
  | cons c ds ih =>
    have hc := digits c (by simp)
    have range := digit_range hc
    have next : n * 10 + digit (UInt8.ofNat c.toNat) = 10 * n + (c.toNat - '0'.toNat) := by
      rw [digit_octet hc, Nat.mul_comm]
      rfl
    rw [Nat.ofDigitChars_cons] at small ⊢
    have room := Nat.le_trans (le_ofDigitChars ds _) small
    rw [ofChars_ascii (by omega), List.cons_append, wholeDigits]
    simp only [isDigit_octet hc, if_true, next, Nat.not_lt.mpr room, if_false]
    exact ih _ (fun d hd => digits d (List.mem_cons_of_mem c hd)) small

theorem isDigit_toDigits {n : Nat} {c : Char} (h : c ∈ Nat.toDigits 10 n) : c.isDigit :=
  Nat.isDigit_of_mem_toDigits (by omega) (by omega) h

theorem digitChar_ne_zero : ∀ n < 10, 0 < n → Nat.digitChar n ≠ '0' := by decide

theorem toDigits_head (n : Nat) (h : 0 < n) :
    ∃ d ds, Nat.toDigits 10 n = d :: ds ∧ d ≠ '0' := by
  induction n using Nat.strongRecOn with
  | ind n ih =>
    by_cases one : n < 10
    · exact ⟨Nat.digitChar n, [], Nat.toDigits_of_lt_base one, digitChar_ne_zero n one h⟩
    · obtain ⟨d, ds, e, hd⟩ := ih (n / 10) (by omega) (by omega)
      exact ⟨d, ds ++ [Nat.digitChar (n % 10)], by
        rw [Nat.toDigits_of_base_le (by omega) (by omega), e, List.cons_append], hd⟩

theorem octet_ne_zero {c : Char} (h : c.isDigit) (other : c ≠ '0') : UInt8.ofNat c.toNat ≠ 48 := by
  intro e
  have range := digit_range h
  have octet := congrArg UInt8.toNat e
  simp at octet
  exact other (Char.toNat_inj.mp (by simp; omega))

theorem number_digits (positive : Bool) {d : Char} {ds : List Char} (digits : ∀ c ∈ d :: ds, c.isDigit)
    (other : d ≠ '0') (small : Nat.ofDigitChars 10 (d :: ds) 0 ≤ maxCount) {r : Bytes} (hr : Closes r) :
    number positive (ofChars (d :: ds) ++ r) =
      .ok (whole positive (Nat.ofDigitChars 10 (d :: ds) 0), r) := by
  have first := digits d (by simp)
  have range := digit_range first
  rw [Nat.ofDigitChars_cons, Nat.mul_zero, Nat.zero_add] at small ⊢
  rw [ofChars_ascii (by omega), List.cons_append]
  simp only [number, octet_ne_zero first other, if_false, isDigit_octet first, if_true, digit_octet first]
  exact wholeDigits_digits positive hr ds (d.toNat - '0'.toNat)
    (fun c hc => digits c (List.mem_cons_of_mem d hc)) small

theorem number_toDigits (positive : Bool) (n : Nat) (small : n ≤ maxCount) {r : Bytes} (hr : Closes r) :
    number positive (ofChars (Nat.toDigits 10 n) ++ r) = .ok (whole positive n, r) := by
  by_cases zero : n = 0
  · subst n
    rw [Nat.toDigits_zero, ofChars_ascii (by decide)]
    cases r with
    | nil => rfl
    | cons c r => obtain rfl | rfl | rfl := hr <;> rfl
  · obtain ⟨d, ds, e, hd⟩ := toDigits_head n (Nat.pos_of_ne_zero zero)
    have digits : ∀ c ∈ d :: ds, c.isDigit := fun c hc => isDigit_toDigits (e ▸ hc)
    have value := Nat.ofDigitChars_toDigits (b := 10) (n := n) (by omega) (by omega)
    rw [e] at value
    have read := number_digits positive digits hd (by rw [value]; exact small) hr
    rwa [← e, Nat.ofDigitChars_toDigits (by omega) (by omega)] at read

theorem ofChars_toDigits (n : Nat) : ∃ c s, ofChars (Nat.toDigits 10 n) = c :: s ∧ isDigit c := by
  obtain ⟨d, ds, e⟩ := List.exists_cons_of_ne_nil (Nat.toDigits_ne_nil (n := n) (b := 10))
  have digit := isDigit_toDigits (n := n) (c := d) (by simp [e])
  have range := digit_range digit
  exact ⟨_, ofChars ds, by rw [e, ofChars_ascii (by omega)], isDigit_octet digit⟩

/-- A written whole number is a sign and a number that is read as negative, or a number. -/
theorem number_intChars {k : Int} (range : (JsonNumber.integer k).inRange) {r : Bytes} (hr : Closes r) :
    ∃ c s, ofChars (JsonNumber.intChars k) ++ r = c :: s ∧
      (c = 45 ∧ number false s = .ok (.integer k, r) ∨
        isDigit c ∧ number true (c :: s) = .ok (.integer k, r)) := by
  simp only [JsonNumber.inRange, Bool.and_eq_true, decide_eq_true_eq] at range
  have most : maxCount = 2 ^ 64 - 1 := rfl
  cases k with
  | ofNat n =>
    have small : n ≤ maxCount := by
      simp only [Int.ofNat_eq_natCast] at range
      omega
    have read := number_toDigits true n small hr
    obtain ⟨c, s, e, digit⟩ := ofChars_toDigits n
    rw [e, List.cons_append] at read
    exact ⟨c, s ++ r, by rw [JsonNumber.intChars, e, List.cons_append], Or.inr ⟨digit, read⟩⟩
  | negSucc n =>
    have read := number_toDigits false (n + 1) (by omega) hr
    have room : n + 1 ≤ Nat.pow 2 63 := by
      have : Nat.pow 2 63 = 2 ^ 63 := rfl
      omega
    have sign : whole false (n + 1) = .integer (.negSucc n) := by
      simp only [whole, room, Nat.succ_pos, and_self, if_true]
      rfl
    rw [sign] at read
    exact ⟨45, _, by rw [JsonNumber.intChars, ofChars_ascii (by decide)]; rfl, Or.inl ⟨rfl, read⟩⟩

theorem isDigit_cases {c : UInt8} (h : isDigit c) :
    isSpace c = false ∧ c ≠ 93 ∧ c ≠ 110 ∧ c ≠ 116 ∧ c ≠ 102 ∧ c ≠ 45 := by
  simp only [isDigit, Bool.and_eq_true, decide_eq_true_eq, UInt8.le_iff_toNat_le] at h
  have other (d : UInt8) (far : d.toNat < 48 ∨ 57 < d.toNat) : c ≠ d := by
    intro e
    cases e
    have low : (48 : UInt8).toNat = 48 := rfl
    have high : (57 : UInt8).toNat = 57 := rfl
    omega
  refine ⟨?_, other 93 (by decide), other 110 (by decide), other 116 (by decide),
    other 102 (by decide), other 45 (by decide)⟩
  simp [isSpace, other 32 (by decide), other 10 (by decide), other 9 (by decide),
    other 13 (by decide)]

end RequestAuth.Json.Read
