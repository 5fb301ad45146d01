import RequestAuth.Der
import Mathlib.Tactic.IntervalCases

/-! Each reader of the distinguished encoding takes what the writer puts at the front of the input, and nothing
else: a tag, the shortest form of the length, and the contents. -/

namespace RequestAuth
namespace Bytes

theorem toNatLE_lt (b : Bytes) : toNatLE b < 256 ^ b.length := by
  induction b with
  | nil => decide
  | cons x r ih =>
    have hx := x.toNat_lt
    rw [toNatLE, List.length_cons, Nat.pow_succ]
    omega

theorem ofNatLE_toNatLE (b : Bytes) : ofNatLE b.length (toNatLE b) = b := by
  induction b with
  | nil => rfl
  | cons x r ih =>
    have hx := x.toNat_lt
    have low : UInt8.ofNat (x.toNat + 256 * toNatLE r) = x := by
      apply UInt8.toNat_inj.mp
      rw [UInt8.toNat_ofNat']
      omega
    have high : (x.toNat + 256 * toNatLE r) / 256 = toNatLE r := by omega
    rw [toNatLE, List.length_cons, ofNatLE, low, high, ih]

theorem toNatBE_lt (b : Bytes) : toNatBE b < 256 ^ b.length := by
  have bound := toNatLE_lt b.reverse
  rwa [List.length_reverse] at bound

theorem ofNatBE_toNatBE (b : Bytes) : ofNatBE b.length (toNatBE b) = b := by
  have back := ofNatLE_toNatLE b.reverse
  rw [List.length_reverse] at back
  rw [ofNatBE, toNatBE, back, List.reverse_reverse]

end Bytes

namespace Der
variable {α : Type} {s r c : Bytes} {tag : UInt8} {n w : Nat}

/-- How many octets after the first a length takes that does not fit into the first. -/
structure Width (n w : Nat) : Prop where
  least : 1 ≤ w
  most : w ≤ 4
  large : 0x80 ≤ n
  shortest : 256 ^ (w - 1) ≤ n
  fits : n < 256 ^ w

theorem exists_width (large : 0x80 ≤ n) (fits : n < 256 ^ 4) : ∃ w, Width n w := by
  by_cases one : n < 256
  · exact ⟨1, by omega, by omega, large, by omega, one⟩
  by_cases two : n < 256 ^ 2
  · exact ⟨2, by omega, by omega, large, by omega, two⟩
  by_cases three : n < 256 ^ 3
  · exact ⟨3, by omega, by omega, large, by omega, three⟩
  · exact ⟨4, by omega, by omega, large, by omega, fits⟩

theorem Width.writeLength (h : Width n w) : writeLength n = UInt8.ofNat (0x80 + w) :: Bytes.ofNatBE w n := by
  obtain ⟨least, most, large, shortest, fits⟩ := h
  have notShort : ¬ n < 0x80 := by omega
  interval_cases w
  · have one : n < 0x100 := fits
    simp [Der.writeLength, notShort, one]
  · have one : ¬ n < 0x100 := by omega
    have two : n < 0x10000 := fits
    simp [Der.writeLength, notShort, one, two]
  · have one : ¬ n < 0x100 := by omega
    have two : ¬ n < 0x10000 := by omega
    have three : n < 0x1000000 := fits
    simp [Der.writeLength, notShort, one, two, three]
  · have one : ¬ n < 0x100 := by omega
    have two : ¬ n < 0x10000 := by omega
    have three : ¬ n < 0x1000000 := by omega
    simp [Der.writeLength, notShort, one, two, three]

theorem octet_short (h : n < 256) : UInt8.ofNat n < 0x80 ↔ n < 0x80 := by
  rw [UInt8.lt_iff_toNat_lt, UInt8.toNat_ofNat_of_lt' h]
  rfl

theorem writeLength_short (h : n < 0x80) : writeLength n = [UInt8.ofNat n] := by
  rw [writeLength, if_pos h]

theorem readLength_short {b : UInt8} (h : b < 0x80) : readLength (b :: r) = some (b.toNat, r) := by
  rw [readLength, if_pos h]

theorem readLength_wide (h : Width n w) (r : Bytes) :
    readLength (UInt8.ofNat (0x80 + w) :: (Bytes.ofNatBE w n ++ r)) = some (n, r) := by
  obtain ⟨least, most, large, shortest, fits⟩ := h
  have small : 0x80 + w < 256 := by omega
  have first : (UInt8.ofNat (0x80 + w)).toNat = 0x80 + w := UInt8.toNat_ofNat_of_lt' small
  have notShort : ¬ UInt8.ofNat (0x80 + w) < 0x80 := by
    rw [UInt8.lt_iff_toNat_lt, first]
    simp
  have width : 0x80 + w - 0x80 = w := by omega
  have size := Bytes.length_ofNatBE w n
  have front : (Bytes.ofNatBE w n ++ r).take w = Bytes.ofNatBE w n := List.take_left' size
  have back : (Bytes.ofNatBE w n ++ r).drop w = r := List.drop_left' size
  have value : Bytes.toNatBE (Bytes.ofNatBE w n) = n := by
    rw [Bytes.toNatBE_ofNatBE]
    exact Nat.mod_eq_of_lt fits
  have enough : w ≤ (Bytes.ofNatBE w n ++ r).length := by
    rw [List.length_append, size]
    omega
  simp only [readLength, notShort, if_false, first, width, front, back, value]
  exact if_pos ⟨least, most, enough, large, shortest⟩

theorem readLength_writeLength (bound : n < 256 ^ 4) (r : Bytes) :
    readLength (writeLength n ++ r) = some (n, r) := by
  by_cases short : n < 0x80
  · have octet : n < 256 := by omega
    rw [writeLength_short short, List.singleton_append, readLength_short ((octet_short octet).mpr short),
      UInt8.toNat_ofNat_of_lt' octet]
  · obtain ⟨w, width⟩ := exists_width (by omega) bound
    rw [width.writeLength, List.cons_append]
    exact readLength_wide width r

theorem of_readLength_wide {b : UInt8} (wide : ¬ b < 0x80) (h : readLength (b :: s) = some (n, r)) :
    ∃ w, Width n w ∧ b = UInt8.ofNat (0x80 + w) ∧ s = Bytes.ofNatBE w n ++ r := by
  simp only [readLength, wide, if_false] at h
  split at h
  · rename_i conditions
    obtain ⟨least, most, enough, large, shortest⟩ := conditions
    rw [Option.some.injEq, Prod.mk.injEq] at h
    obtain ⟨rfl, rfl⟩ := h
    have size : (s.take (b.toNat - 0x80)).length = b.toNat - 0x80 := List.length_take_of_le enough
    have fits := Bytes.toNatBE_lt (s.take (b.toNat - 0x80))
    have octets := Bytes.ofNatBE_toNatBE (s.take (b.toNat - 0x80))
    rw [size] at fits octets
    have first : 0x80 + (b.toNat - 0x80) = b.toNat := by omega
    exact ⟨_, ⟨least, most, large, shortest, fits⟩, by rw [first, UInt8.ofNat_toNat],
      by rw [octets, List.take_append_drop]⟩
  · cases h

theorem of_readLength (h : readLength s = some (n, r)) : n < 256 ^ 4 ∧ s = writeLength n ++ r := by
  cases s with
  | nil => cases h
  | cons b t =>
    by_cases short : b < 0x80
    · rw [readLength_short short] at h
      cases h
      have low : b.toNat < 0x80 := UInt8.lt_iff_toNat_lt.mp short
      refine ⟨by omega, ?_⟩
      rw [writeLength_short low, UInt8.ofNat_toNat]
      rfl
    · obtain ⟨w, width, rfl, rfl⟩ := of_readLength_wide short h
      refine ⟨lt_of_lt_of_le width.fits (Nat.pow_le_pow_right (by omega) width.most), ?_⟩
      rw [width.writeLength, List.cons_append]

theorem readLength_eq_some : readLength s = some (n, r) ↔ n < 256 ^ 4 ∧ s = writeLength n ++ r := by
  constructor
  · exact of_readLength
  · intro h
    obtain ⟨bound, rfl⟩ := h
    exact readLength_writeLength bound r

/-- A length that has a shorter form is refused. -/
example : readLength [0x81, 0x80, 7] = some (0x80, [7]) ∧ readLength [0x81, 0x7f, 7] = none := by decide

def Fits (c : Bytes) : Prop := c.length < 256 ^ 4

theorem fits_of_length (h : c.length < 256) : Fits c := Nat.lt_of_lt_of_le h (by norm_num)

theorem length_writeLength_le (n : Nat) : (writeLength n).length ≤ 5 := by
  unfold writeLength
  split_ifs <;> simp [Bytes.length_ofNatBE]

theorem length_write (tag : UInt8) (c : Bytes) :
    (write tag c).length = 1 + (writeLength c.length).length + c.length := by
  simp only [write, List.length_cons, List.length_append]
  omega

theorem length_write_le (tag : UInt8) (c : Bytes) : (write tag c).length ≤ c.length + 6 := by
  have size := length_write tag c
  have first := length_writeLength_le c.length
  omega

theorem Fits.of_write (h : Fits (write tag c)) : Fits c := by
  have size := length_write tag c
  simp only [Fits] at h ⊢
  omega

theorem Fits.left (h : Fits (s ++ r)) : Fits s := by
  simp only [Fits, List.length_append] at h ⊢
  omega

theorem Fits.right (h : Fits (s ++ r)) : Fits r := by
  simp only [Fits, List.length_append] at h ⊢
  omega

theorem readHeader_eq_some : readHeader s = some (⟨tag, n⟩, r) ↔
    isTag tag ∧ n < 256 ^ 4 ∧ s = tag :: (writeLength n ++ r) := by
  cases s with
  | nil => simp [readHeader]
  | cons b t =>
    by_cases known : isTag b
    · simp only [readHeader, known, if_true, Option.map_eq_some_iff, Prod.exists, Prod.mk.injEq,
        Header.mk.injEq, List.cons.injEq]
      constructor
      · intro h
        obtain ⟨m, u, read, ⟨rfl, rfl⟩, rfl⟩ := h
        obtain ⟨bound, rfl⟩ := readLength_eq_some.mp read
        exact ⟨known, bound, rfl, rfl⟩
      · intro h
        obtain ⟨-, bound, rfl, rfl⟩ := h
        exact ⟨n, r, readLength_eq_some.mpr ⟨bound, rfl⟩, ⟨rfl, rfl⟩, rfl⟩
    · simp only [readHeader, known]
      constructor
      · intro h
        cases h
      · intro h
        obtain ⟨other, -, same⟩ := h
        cases same
        exact absurd other known

theorem readContents_eq_some : readContents n s = some (c, r) ↔ c.length = n ∧ s = c ++ r := by
  rw [readContents]
  constructor
  · intro h
    split at h
    · cases h
    · rename_i enough
      cases h
      exact ⟨List.length_take_of_le (by omega), (List.take_append_drop n s).symm⟩
  · intro h
    obtain ⟨rfl, rfl⟩ := h
    simp

theorem within_eq_some {read : Reader α} {a : α} : within n read s = some (a, r) ↔
    ∃ c, c.length = n ∧ read c = some (a, []) ∧ s = c ++ r := by
  rw [within]
  constructor
  · intro h
    split at h
    · cases h
    · rename_i enough
      split at h
      · rename_i result used
        cases h
        exact ⟨s.take n, List.length_take_of_le (by omega), used, (List.take_append_drop n s).symm⟩
      · cases h
  · intro h
    obtain ⟨c, rfl, used, rfl⟩ := h
    simp [used]

theorem readAny_eq_some : readAny s = some ((tag, c), r) ↔ isTag tag ∧ Fits c ∧ s = write tag c ++ r := by
  simp only [readAny, bind, Option.bind_eq_some_iff, Prod.exists, pure, Option.some.injEq, Prod.mk.injEq]
  constructor
  · intro h
    obtain ⟨⟨t, n⟩, u, header, d, v, contents, ⟨rfl, rfl⟩, rfl⟩ := h
    obtain ⟨known, bound, rfl⟩ := readHeader_eq_some.mp header
    obtain ⟨rfl, rfl⟩ := readContents_eq_some.mp contents
    exact ⟨known, bound, by simp [write]⟩
  · intro h
    obtain ⟨known, bound, rfl⟩ := h
    exact ⟨⟨tag, c.length⟩, c ++ r, readHeader_eq_some.mpr ⟨known, bound, by simp [write]⟩, c, r,
      readContents_eq_some.mpr ⟨rfl, rfl⟩, ⟨rfl, rfl⟩, rfl⟩

theorem readElement_eq_some : readElement tag s = some (c, r) ↔
    isTag tag ∧ Fits c ∧ s = write tag c ++ r := by
  rw [← readAny_eq_some]
  simp only [readElement, readAny, bind, Option.bind_eq_some_iff, Prod.exists, pure, Option.some.injEq,
    Prod.mk.injEq]
  constructor
  · intro given
    obtain ⟨h, u, header, contents⟩ := given
    split at contents
    · rename_i same
      exact ⟨h, u, header, c, r, contents, ⟨same, rfl⟩, rfl⟩
    · cases contents
  · intro given
    obtain ⟨h, u, header, d, v, contents, ⟨same, rfl⟩, rfl⟩ := given
    exact ⟨h, u, header, by rw [if_pos same, contents]⟩

/-- An element and what follows it can be told apart. -/
theorem write_inj {d : Bytes} (known : isTag tag) (fits : Fits c) (fits' : Fits d)
    (h : write tag c ++ r = write tag d ++ s) : c = d ∧ r = s := by
  have first : readElement tag (write tag c ++ r) = some (c, r) := readElement_eq_some.mpr ⟨known, fits, rfl⟩
  have second : readElement tag (write tag d ++ s) = some (d, s) := readElement_eq_some.mpr ⟨known, fits', rfl⟩
  rw [h] at first
  simpa using first.symm.trans second

theorem element_eq_some {read : Reader α} {a : α} : element tag read s = some (a, r) ↔
    isTag tag ∧ ∃ c, Fits c ∧ read c = some (a, []) ∧ s = write tag c ++ r := by
  simp only [element, bind, Option.bind_eq_some_iff, Prod.exists]
  constructor
  · intro h
    obtain ⟨⟨t, n⟩, u, header, inner⟩ := h
    obtain ⟨known, bound, rfl⟩ := readHeader_eq_some.mp header
    split at inner
    · rename_i same
      obtain rfl : t = tag := same
      obtain ⟨c, rfl, used, rfl⟩ := within_eq_some.mp inner
      exact ⟨known, c, bound, used, by simp [write]⟩
    · cases inner
  · intro h
    obtain ⟨known, c, bound, used, rfl⟩ := h
    refine ⟨⟨tag, c.length⟩, c ++ r, readHeader_eq_some.mpr ⟨known, bound, by simp [write]⟩, ?_⟩
    rw [if_pos rfl]
    exact within_eq_some.mpr ⟨c, rfl, used, rfl⟩

theorem readAll_eq_some {read : Reader α} {a : α} : readAll read s = some a ↔ read s = some (a, []) := by
  rw [readAll]
  constructor
  · intro h
    split at h
    · rename_i used
      cases h
      exact used
    · cases h
  · intro used
    rw [used]

theorem readAll_element {read : Reader α} {a : α} : readAll (element tag read) s = some a ↔
    isTag tag ∧ ∃ c, Fits c ∧ read c = some (a, []) ∧ s = write tag c := by
  simp only [readAll_eq_some, element_eq_some, List.append_nil]

/-- A number below 256. A zero goes before an octet whose top bit would make the number negative. -/
def small (n : Nat) : Bytes := if n < 0x80 then [UInt8.ofNat n] else [0, UInt8.ofNat n]

theorem readSmall_eq_some : readSmall s = some (n, r) ↔
    n < 256 ∧ s = write tagInteger (small n) ++ r := by
  simp only [readSmall, bind, Option.bind_eq_some_iff, Prod.exists]
  constructor
  · intro given
    obtain ⟨c, u, read, h⟩ := given
    obtain ⟨-, -, rfl⟩ := readElement_eq_some.mp read
    split at h
    · rename_i b
      split at h
      · rename_i short
        rw [Option.some.injEq, Prod.mk.injEq] at h
        obtain ⟨rfl, rfl⟩ := h
        have low : b.toNat < 0x80 := UInt8.lt_iff_toNat_lt.mp short
        exact ⟨b.toNat_lt, by rw [small, if_pos low, UInt8.ofNat_toNat]⟩
      · cases h
    · rename_i b
      split at h
      · rename_i long
        rw [Option.some.injEq, Prod.mk.injEq] at h
        obtain ⟨rfl, rfl⟩ := h
        have high : ¬ b.toNat < 0x80 := not_lt.mpr (UInt8.le_iff_toNat_le.mp long)
        exact ⟨b.toNat_lt, by rw [small, if_neg high, UInt8.ofNat_toNat]⟩
      · cases h
    · cases h
  · intro h
    obtain ⟨bound, rfl⟩ := h
    have octet : (UInt8.ofNat n).toNat = n := UInt8.toNat_ofNat_of_lt' bound
    by_cases short : n < 0x80
    · have low := (octet_short bound).mpr short
      rw [small, if_pos short]
      exact ⟨_, r, readElement_eq_some.mpr ⟨rfl, fits_of_length (by simp), rfl⟩, by simp only [low, if_true, octet]⟩
    · have high : (0x80 : UInt8) ≤ UInt8.ofNat n := UInt8.not_lt.mp fun low => short ((octet_short bound).mp low)
      rw [small, if_neg short]
      exact ⟨_, r, readElement_eq_some.mpr ⟨rfl, fits_of_length (by simp), rfl⟩, by simp only [high, if_true, octet]⟩

theorem length_identifier (h : isIdentifier c) : c.length ≤ 39 := by
  simp only [isIdentifier, Bool.and_eq_true, decide_eq_true_eq] at h
  exact h.1.1.2

theorem fits_identifier (h : isIdentifier c) : Fits (write tagIdentifier c) := by
  have short := length_identifier h
  have whole := length_write_le tagIdentifier c
  exact fits_of_length (by omega)

theorem readIdentifier_eq_some : readIdentifier s = some (c, r) ↔
    isIdentifier c ∧ s = write tagIdentifier c ++ r := by
  simp only [readIdentifier, checkIdentifier, bind, Option.bind_eq_some_iff, Prod.exists, pure,
    Option.some.injEq, Prod.mk.injEq]
  constructor
  · intro h
    obtain ⟨d, u, read, e, checked, rfl, rfl⟩ := h
    obtain ⟨-, -, rfl⟩ := readElement_eq_some.mp read
    split at checked
    · rename_i named
      cases checked
      exact ⟨named, rfl⟩
    · cases checked
  · intro h
    obtain ⟨named, rfl⟩ := h
    have fits := (fits_identifier named).of_write
    exact ⟨c, r, readElement_eq_some.mpr ⟨rfl, fits, rfl⟩, c, if_pos named, rfl, rfl⟩

theorem wholeOctets_eq_some {k : Bytes} : wholeOctets c = some k ↔ c = 0 :: k := by
  constructor
  · intro h
    unfold wholeOctets at h
    split at h
    · cases h
      rfl
    · cases h
  · rintro rfl
    rfl

theorem readBitString_eq_some {k : Bytes} : readBitString s = some (k, r) ↔
    Fits (0 :: k) ∧ s = write tagBitString (0 :: k) ++ r := by
  simp only [readBitString, bind, Option.bind_eq_some_iff, Prod.exists, pure, Option.some.injEq,
    Prod.mk.injEq]
  constructor
  · intro h
    obtain ⟨d, u, read, e, whole, rfl, rfl⟩ := h
    obtain ⟨-, fits, rfl⟩ := readElement_eq_some.mp read
    rw [wholeOctets_eq_some.mp whole] at fits ⊢
    exact ⟨fits, rfl⟩
  · intro h
    obtain ⟨fits, rfl⟩ := h
    exact ⟨0 :: k, r, readElement_eq_some.mpr ⟨rfl, fits, rfl⟩, k, rfl, rfl, rfl⟩

end Der
end RequestAuth
