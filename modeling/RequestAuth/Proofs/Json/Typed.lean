import RequestAuth.Proofs.Json.Value
import RequestAuth.RequestUri

/-! Readers of a given type read back what is written of that type. -/

namespace RequestAuth.Json.Read
open Bytes
variable {α : Type}

theorem string_text (s : String) : ReadsAs string (ofChars (Json.text s).chars) s :=
  fun r _ => string_textChars s r

theorem integer_number {k : Int} (low high : Int) (expected : String) (range : (JsonNumber.integer k).inRange)
    (hl : low ≤ k) (hh : k ≤ high) :
    ReadsAs (integer low high expected) (ofChars (Json.number (.integer k)).chars) k := by
  intro r hr
  obtain ⟨c, s, e, ⟨rfl, read⟩ | ⟨digit, read⟩⟩ := number_intChars range hr
  · have self : peek (45 :: s) = .ok (45, s) := rfl
    change integer low high expected (ofChars (JsonNumber.intChars k) ++ r) = _
    rw [e]
    simp only [integer, self, bind, Except.bind, true_or, if_true, read, hl, hh, and_self]
    rfl
  · obtain ⟨space, -, -, -, -, sign⟩ := isDigit_cases digit
    have self : peek (c :: s) = .ok (c, s) := by simp [peek, skipSpace, space]
    change integer low high expected (ofChars (JsonNumber.intChars k) ++ r) = _
    rw [e]
    simp only [integer, self, bind, Except.bind, digit, or_true, if_true, sign, if_false, read, hl, hh,
      and_self]
    rfl

theorem inRange_instant (t : Int64) : (JsonNumber.integer t.toInt).inRange := by
  have low := Int64.le_toInt t
  have high := Int64.toInt_lt t
  simp only [JsonNumber.inRange, Bool.and_eq_true, decide_eq_true_eq]
  omega

theorem instant_number (t : Int64) :
    ReadsAs instant (ofChars (Json.number (.integer t.toInt)).chars) t := by
  intro r hr
  have low := Int64.le_toInt t
  have high := Int64.toInt_lt t
  have read := integer_number Int64.minValue.toInt Int64.maxValue.toInt "i64" (inRange_instant t) low
    (Int.le_of_lt_add_one high) r hr
  rw [instant, read]
  simp only [bind, Except.bind, Int64.ofInt_toInt]
  rfl

theorem inRange_count (n : UInt64) : (JsonNumber.integer n.toNat).inRange := by
  have high := n.toNat_lt
  simp only [JsonNumber.inRange, Bool.and_eq_true, decide_eq_true_eq]
  omega

theorem count_number (n : UInt64) :
    ReadsAs count (ofChars (Json.number (.integer n.toNat)).chars) n := by
  intro r hr
  have high : n.toNat < Nat.pow 2 64 := n.toNat_lt
  have small : (n.toNat : Int) ≤ maxCount := by
    rw [maxCount]
    omega
  have read := integer_number 0 maxCount "u64" (inRange_count n) (Int.natCast_nonneg _) small r hr
  rw [count, read]
  simp only [bind, Except.bind, Int.toNat_natCast, UInt64.ofNat_toNat]
  rfl

theorem boolean_bool (b : Bool) : ReadsAs boolean (ofChars (Json.bool b).chars) b := by
  intro r _
  cases b <;> rfl

theorem optional_null (read : Reader α) : ReadsAs (optional read) (ofChars Json.null.chars) none :=
  fun _ _ => rfl

/-- What is read by itself is read as well where it may be missing, unless it starts like null. -/
theorem ReadsAs.optional {read : Reader α} {c : UInt8} {w : Bytes} {a : α}
    (h : ReadsAs read (c :: w) a) (space : isSpace c = false) (null : c ≠ 110) :
    ReadsAs (optional read) (c :: w) (some a) := by
  intro r hr
  have self : skipSpace (c :: (w ++ r)) = c :: (w ++ r) := by simp [skipSpace, space]
  have inner := h r hr
  rw [List.cons_append] at inner ⊢
  unfold Read.optional
  rw [self]
  split
  · rename_i e
    exact absurd (List.cons.inj e).1 null
  · rename_i e
    rw [inner]
    rfl

theorem optional_text (s : String) :
    ReadsAs (optional string) (ofChars (Json.text s).chars) (some s) := by
  have inner := string_text s
  rw [chars, ofChars_textChars] at inner ⊢
  exact inner.optional rfl (by decide)

theorem optional_count (n : UInt64) :
    ReadsAs (optional count) (ofChars (Json.number (.integer n.toNat)).chars) (some n) := by
  have inner := count_number n
  obtain ⟨c, w, e, digit⟩ := ofChars_toDigits n.toNat
  obtain ⟨space, -, null, -⟩ := isDigit_cases digit
  change ReadsAs _ (ofChars (Nat.toDigits 10 n.toNat)) _
  change ReadsAs _ (ofChars (Nat.toDigits 10 n.toNat)) _ at inner
  rw [e] at inner ⊢
  exact inner.optional space null

theorem listOf_list {read : Nat → Reader α} (toJson : α → Json) {n : Nat} {xs : List α}
    (opens : ∀ x ∈ xs, Opens (ofChars (toJson x).chars))
    (reads : ∀ x ∈ xs, ReadsAs (read n) (ofChars (toJson x).chars) x) :
    ReadsAs (listOf read (n + 1)) (ofChars (Json.list (xs.map toJson)).chars) xs := by
  intro r _
  obtain ⟨s, e, inside⟩ := items_list toJson opens reads r
  have self : peek (91 :: s) = .ok (91, s) := rfl
  rw [e]
  simp only [listOf, self, bind, Except.bind, descend, inside]
  rfl

theorem object_members {n : Nat} {ms : Members} (wf : (Json.object ms).wellFormed)
    (int : (Json.object ms).integral) (deep : (Json.object ms).depth ≤ n + 1) :
    ReadsAs (object (n + 1)) (ofChars (Json.object ms).chars) ms := by
  intro r _
  obtain ⟨sorted, parts⟩ := wellFormed_object.mp wf
  have reads : ∀ p ∈ ms, ReadsAs (value n) (ofChars p.2.chars) p.2 := fun p hp =>
    value_chars p.2 (parts p hp) (integral_object.mp int p hp) n
      (membersDepth_le.mp (Nat.le_of_add_le_add_right deep) p hp)
  obtain ⟨s, e, inside⟩ := members_object reads r
  rw [Members.ofList_sorted sorted] at inside
  have self : peek (123 :: s) = .ok (123, s) := rfl
  rw [e]
  simp only [object, self, bind, Except.bind, descend, inside]
  rfl

end RequestAuth.Json.Read
