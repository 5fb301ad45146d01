import RequestAuth.Proofs.Json.Number

/-! Every number is written as a sign and a decimal without needless zeros in front, perhaps with places
after the point and an exponent. -/

namespace RequestAuth.Binary64

/-- A decimal that is not written with zeros in front: it is not zero, or it is written as less than one. -/
def Decimal.Presentable (d : Decimal) : Prop := d.digits ≠ 0 ∨ d.exponent < 0

theorem gridPoint_pos (k : Nat) (e : Int) : 0 < (gridPoint k e).2 := by
  cases e with
  | ofNat e => exact Nat.one_pos
  | negSucc e => exact Nat.pow_pos (by omega)

theorem gridPoint_zero (e : Int) : (gridPoint 0 e).1 = 0 := by
  cases e with
  | ofNat e => exact Nat.zero_mul _
  | negSucc e => rfl

namespace Interval
variable {i : Interval}

theorem not_contains_zero (low : 0 < i.low) (high : 0 < i.high) {d : Nat} (den : 0 < d) :
    i.contains 0 d = false := by
  have below : i.low * d ≠ 0 := Nat.ne_of_gt (Nat.mul_pos low den)
  have above : i.high * d ≠ 0 := Nat.ne_of_gt (Nat.mul_pos high den)
  simp [contains, below, above]

theorem onGrid_digits (low : 0 < i.low) (high : 0 < i.high) {e : Int} {d : Decimal}
    (h : i.onGrid e = some d) : d.digits ≠ 0 := by
  simp only [onGrid] at h
  split at h
  · rename_i inside
    cases h
    intro zero
    have contained := (Bool.and_eq_true _ _ ▸ inside).1
    simp only at zero
    rw [zero, gridPoint_zero, not_contains_zero low high (gridPoint_pos 0 e)] at contained
    cases contained
  split at h
  · cases h
    exact Nat.succ_ne_zero _
  · cases h

theorem search_presentable (low : 0 < i.low) (high : 0 < i.high) {n : Nat} {e : Int}
    (small : i.value / i.den = 0 → e < n) : (i.search n e).Presentable := by
  induction n generalizing e with
  | zero =>
    rw [search, Decimal.Presentable]
    by_cases zero : i.value / i.den = 0
    · exact Or.inr (small zero)
    · exact Or.inl zero
  | succ n ih =>
    rw [search]
    split
    · rename_i d found
      exact Or.inl (onGrid_digits low high found)
    · apply ih
      intro zero
      have := small zero
      omega

end Interval

theorem digitCount_mono {n d : Nat} (h : n ≤ d) : digitCount n ≤ digitCount d := by
  have most := (Nat.length_toDigits_le_iff (b := 10) (n := d) (by omega)
    Nat.length_toDigits_pos).mp (Nat.le_refl _)
  exact (Nat.length_toDigits_le_iff (by omega) Nat.length_toDigits_pos).mpr
    (Nat.lt_of_le_of_lt h most)

theorem logTen_le {n d : Nat} (h : n ≤ d) : logTen n d ≤ 0 := by
  have count : (digitCount n : Int) - digitCount d ≤ 0 :=
    Int.sub_nonpos_of_le (Int.ofNat_le.mpr (digitCount_mono h))
  have step : ∀ c : Prop, [Decidable c] → (if c then (digitCount n : Int) - digitCount d - 1
      else (digitCount n : Int) - digitCount d) ≤ 0 := by
    intro c _
    split <;> omega
  exact step _

theorem ratio_pos (x : Binary64) : 0 < x.ratio.2 := by
  obtain ⟨negative, m, e⟩ := x
  cases e with
  | ofNat e => exact Nat.one_pos
  | negSucc e => exact Nat.pow_pos (by omega)

theorem interval_bounds {x : Binary64} (h : x.mantissa ≠ 0) : 0 < x.interval.low ∧ 0 < x.interval.high := by
  obtain ⟨negative, m, e⟩ := x
  have some : 0 < m := Nat.pos_of_ne_zero h
  have unit : 0 < (ratio ⟨false, 1, e⟩).1 := by
    cases e with
    | ofNat e => exact Nat.mul_pos Nat.one_pos (Nat.pow_pos (by omega))
    | negSucc e => exact Nat.one_pos
  have near : ∀ c : Prop, [Decidable c] → 0 < 4 * m - if c then 1 else 2 := by
    intro c _
    split <;> omega
  exact ⟨Nat.mul_pos (near _) unit, Nat.mul_pos (by omega) unit⟩

theorem shortest_presentable {x : Binary64} (h : x.mantissa ≠ 0) : x.shortest.Presentable := by
  obtain ⟨low, high⟩ := interval_bounds h
  apply Interval.search_presentable low high
  intro zero
  have den : 0 < x.interval.den := Nat.mul_pos (by omega) (ratio_pos _)
  have less : x.interval.value < x.interval.den := (Nat.div_eq_zero_iff_lt den).mp zero
  have first := logTen_le (Nat.le_of_lt less)
  omega

theorem Decimal.strip_presentable {fuel : Nat} {d : Decimal} (h : d.Presentable) :
    (Decimal.strip fuel d).Presentable := by
  induction fuel generalizing d with
  | zero => exact h
  | succ fuel ih =>
    rw [strip]
    split
    · apply ih
      refine Or.inl ?_
      dsimp only
      omega
    · exact h

end RequestAuth.Binary64

namespace RequestAuth.Json.Read

def Places (ds : List Char) : Prop := ds ≠ [] ∧ ∀ c ∈ ds, c.isDigit

def Whole (ds : List Char) : Prop := Places ds ∧ (ds = ['0'] ∨ ds.head? ≠ some '0')

inductive Exponent : List Char → Prop
  | none : Exponent []
  | some {sign : Char} {ds : List Char} (signed : sign = '+' ∨ sign = '-') (places : Places ds) :
    Exponent ('e' :: sign :: ds)

inductive Numeral : List Char → Prop
  | whole {w e : List Char} (whole : Whole w) (exponent : Exponent e) : Numeral (w ++ e)
  | point {w f e : List Char} (whole : Whole w) (places : Places f) (exponent : Exponent e) :
    Numeral (w ++ '.' :: (f ++ e))

theorem Places.append {ds es : List Char} (h : Places ds) (digits : ∀ c ∈ es, c.isDigit) :
    Places (ds ++ es) := by
  refine ⟨by simp [h.1], ?_⟩
  intro c hc
  cases List.mem_append.mp hc with
  | inl first => exact h.2 c first
  | inr later => exact digits c later

theorem places_toDigits (n : Nat) : Places (Nat.toDigits 10 n) :=
  ⟨Nat.toDigits_ne_nil, fun _ => isDigit_toDigits⟩

theorem whole_digit {c : Char} (h : c.isDigit) : Whole [c] := by
  refine ⟨⟨by simp, by simp [h]⟩, ?_⟩
  by_cases zero : c = '0'
  · exact Or.inl (by rw [zero])
  · exact Or.inr (by simpa using zero)

theorem head?_toDigits {n : Nat} (h : n ≠ 0) : (Nat.toDigits 10 n).head? ≠ some '0' := by
  obtain ⟨d, ds, e, other⟩ := toDigits_head n (Nat.pos_of_ne_zero h)
  simpa [e] using other

theorem whole_toDigits (n : Nat) : Whole (Nat.toDigits 10 n) := by
  refine ⟨places_toDigits n, ?_⟩
  by_cases zero : n = 0
  · exact Or.inl (by rw [zero, Nat.toDigits_zero])
  · exact Or.inr (head?_toDigits zero)

theorem isDigit_zeros {n : Nat} : ∀ c ∈ List.replicate n '0', c.isDigit := by
  intro c hc
  rw [(List.mem_replicate.mp hc).2]
  rfl

theorem numeral_decimal {d : Binary64.Decimal} (h : d.Presentable) : Numeral d.chars := by
  have digits := places_toDigits d.digits
  have size := Nat.length_toDigits_pos (b := 10) (n := d.digits)
  unfold Binary64.Decimal.chars
  dsimp only
  split
  · rename_i far
    have exponent : Exponent ('e' :: (if d.exponent + (Nat.toDigits 10 d.digits).length - 1 < 0
        then '-' else '+') ::
          Nat.toDigits 10 (d.exponent + (Nat.toDigits 10 d.digits).length - 1).natAbs) := by
      refine Exponent.some ?_ (places_toDigits _)
      split <;> simp
    split
    · rename_i none
      exact absurd none digits.1
    · rename_i c one
      exact Numeral.whole (whole_digit (digits.2 c (by simp [one]))) exponent
    · rename_i c r several more
      have first := whole_digit (digits.2 c (by simp [more]))
      have rest : Places r := ⟨several, fun x hx => digits.2 x (by simp [more, hx])⟩
      exact Numeral.point first rest exponent
  split
  · rename_i small
    have places : Places (List.replicate ((d.exponent + (Nat.toDigits 10 d.digits).length - 1).natAbs - 1)
        '0' ++ Nat.toDigits 10 d.digits) := by
      refine ⟨by simp [digits.1], ?_⟩
      intro c hc
      cases List.mem_append.mp hc with
      | inl zero => exact isDigit_zeros c zero
      | inr digit => exact digits.2 c digit
    have numeral := Numeral.point (whole_digit (c := '0') rfl) places Exponent.none
    rwa [List.append_nil] at numeral
  · rename_i large
    -- Zero itself would be written as less than one.
    have some : d.digits ≠ 0 := by
      intro zero
      have less := h.resolve_left (fun other => other zero)
      rw [zero, Nat.toDigits_zero] at large
      simp at large
      omega
    have head := head?_toDigits some
    split
    · have whole : Whole (Nat.toDigits 10 d.digits ++ List.replicate
          ((d.exponent + (Nat.toDigits 10 d.digits).length - 1).toNat + 1 -
            (Nat.toDigits 10 d.digits).length) '0') := by
        refine ⟨digits.append isDigit_zeros, Or.inr ?_⟩
        rw [List.head?_append, List.head?_eq_some_head digits.1, Option.some_or,
          ← List.head?_eq_some_head digits.1]
        exact head
      exact Numeral.point whole (whole_digit (c := '0') rfl).1 Exponent.none
    · rename_i long
      generalize (d.exponent + (Nat.toDigits 10 d.digits).length - 1).toNat = n at long
      have whole : Whole ((Nat.toDigits 10 d.digits).take (n + 1)) := by
        refine ⟨⟨?_, fun c hc => digits.2 c (List.mem_of_mem_take hc)⟩, Or.inr ?_⟩
        · rw [← List.length_pos_iff, List.length_take]
          omega
        · rwa [List.head?_take, if_neg (by omega)]
      have places : Places ((Nat.toDigits 10 d.digits).drop (n + 1)) := by
        refine ⟨?_, fun c hc => digits.2 c (List.mem_of_mem_drop hc)⟩
        rw [← List.length_pos_iff, List.length_drop]
        omega
      have numeral := Numeral.point whole places Exponent.none
      rwa [List.append_nil] at numeral

def Signed (cs : List Char) : Prop := ∃ ds, Numeral ds ∧ (cs = '-' :: ds ∨ cs = ds)

theorem signed_float (x : Binary64) : Signed x.chars := by
  have body : Numeral (if x.mantissa = 0 then ['0', '.', '0'] else (x.shortest.strip 20).chars) := by
    split
    · exact Numeral.point (whole_digit (c := '0') rfl) (whole_digit (c := '0') rfl).1 Exponent.none
    · rename_i some
      exact numeral_decimal (Binary64.Decimal.strip_presentable (Binary64.shortest_presentable some))
  refine ⟨_, body, ?_⟩
  unfold Binary64.chars Binary64.signed
  cases x.negative with
  | true => exact Or.inl rfl
  | false => exact Or.inr rfl

theorem signed_number (n : JsonNumber) : Signed n.chars := by
  have whole (n : Nat) : Numeral (Nat.toDigits 10 n) := by
    have numeral := Numeral.whole (whole_toDigits n) Exponent.none
    rwa [List.append_nil] at numeral
  cases n with
  | float x => exact signed_float x
  | integer k =>
    cases k with
    | ofNat n => exact ⟨_, whole n, Or.inr rfl⟩
    | negSucc n => exact ⟨_, whole (n + 1), Or.inl rfl⟩

open Bytes

def DigitsEnd : Bytes → Prop
  | [] => True
  | c :: _ => isDigit c = false

theorem dropWhile_digits {ds : List Char} (digits : ∀ c ∈ ds, c.isDigit) {r : Bytes} (h : DigitsEnd r) :
    (ofChars ds ++ r).dropWhile isDigit = r := by
  induction ds with
  | nil =>
    cases r with
    | nil => rfl
    | cons c r =>
      rw [ofChars_nil, List.nil_append, List.dropWhile_cons, h]
      rfl
  | cons c ds ih =>
    have first := digits c (by simp)
    have range := digit_range first
    rw [ofChars_ascii (by omega), List.cons_append, List.dropWhile_cons, isDigit_octet first, if_pos rfl]
    exact ih fun x hx => digits x (by simp [hx])

theorem Places.split {ds : List Char} (h : Places ds) : ∃ c s, isDigit c ∧ (c = 48 → ds.head? = some '0') ∧
    ofChars ds = c :: s ∧ ∀ r, DigitsEnd r → (s ++ r).dropWhile isDigit = r := by
  obtain ⟨some, digits⟩ := h
  obtain ⟨c, ds, rfl⟩ := List.exists_cons_of_ne_nil some
  have first := digits c (by simp)
  have range := digit_range first
  refine ⟨_, _, isDigit_octet first, ?_, ofChars_ascii (by omega) ds,
    fun r end_r => dropWhile_digits (fun x hx => digits x (by simp [hx])) end_r⟩
  intro zero
  have same : c = '0' := Decidable.by_contra fun other => octet_ne_zero first other zero
  rw [same]
  rfl

end RequestAuth.Json.Read
