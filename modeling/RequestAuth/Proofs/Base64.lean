import RequestAuth.Base64
import RequestAuth.Proofs.Ensures

/-! Base64 reads back what it writes, in either alphabet and for every count of octets, and it reads nothing
else. -/

namespace RequestAuth.Base64

theorem value?_symbol (a : Alphabet) : ∀ v < 64, a.value? (a.symbol v) = some v := by
  cases a <;> decide

theorem symbol_ne_pad (a : Alphabet) : ∀ v < 64, a.symbol v ≠ pad := by
  cases a <;> decide

theorem sextet_symbol (a : Alphabet) {v : Nat} (h : v < 64) (offset : Nat) :
    sextet a (a.symbol v) offset = .ok v := by
  simp [sextet, value?_symbol a v h]

theorem lastGroup_symbol (a : Alphabet) {v : Nat} (h : v < 64) (offset i : Nat) (s : Bytes)
    (vs : List Nat) (pads : Nat) (hs : lastGroup a offset (i + 1) s = .ok (vs, pads)) :
    lastGroup a offset i (a.symbol v :: s) = .ok (v :: vs, pads) := by
  simp only [lastGroup, symbol_ne_pad a v h, if_false, sextet_symbol a h, hs]
  rfl

theorem lastGroup_padding (a : Alphabet) (offset i n : Nat) (h : 2 ≤ i) :
    lastGroup a offset i (a.padding n) = .ok ([], (a.padding n).length) := by
  have late : ¬ i < 2 := by omega
  cases a with
  | url => rfl
  | standard =>
    cases n with
    | zero => rfl
    | succ n => simp [Alphabet.padding, List.replicate_succ, lastGroup, late]

theorem padding_fits (a : Alphabet) {n m : Nat} (h : n + m = 4) :
    ¬ (a = .standard ∧ (n + (a.padding m).length) % 4 ≠ 0) ∧
      ¬ (a = .url ∧ (a.padding m).length ≠ 0) := by
  cases a with
  | url => simp [Alphabet.padding]
  | standard => simp [Alphabet.padding, h]

theorem decodeLast_two (a : Alphabet) (offset : Nat) {w x : Nat} (hw : w < 64) (hx : x < 64)
    (low : x % 16 = 0) :
    decodeLast a offset (a.symbol w :: a.symbol x :: a.padding 2) =
      .ok [UInt8.ofNat (w * 4 + x / 16)] := by
  have group := lastGroup_symbol a hw offset 0 _ _ _
    (lastGroup_symbol a hx offset 1 _ _ _ (lastGroup_padding a offset 2 2 (by omega)))
  obtain ⟨full, bare⟩ := padding_fits a (rfl : 2 + 2 = 4)
  simp only [decodeLast, group, bind, Except.bind, List.length_cons, List.length_nil, Nat.zero_add,
    Nat.reduceAdd, if_neg full, if_neg bare, low, Nat.lt_irrefl, and_false, ne_eq, not_true,
    if_false]
  rfl

theorem decodeLast_three (a : Alphabet) (offset : Nat) {w x y : Nat} (hw : w < 64) (hx : x < 64)
    (hy : y < 64) (low : y % 4 = 0) :
    decodeLast a offset (a.symbol w :: a.symbol x :: a.symbol y :: a.padding 1) =
      .ok [UInt8.ofNat (w * 4 + x / 16), UInt8.ofNat (x % 16 * 16 + y / 4)] := by
  have group := lastGroup_symbol a hw offset 0 _ _ _ (lastGroup_symbol a hx offset 1 _ _ _
    (lastGroup_symbol a hy offset 2 _ _ _ (lastGroup_padding a offset 3 1 (by omega))))
  obtain ⟨full, bare⟩ := padding_fits a (rfl : 3 + 1 = 4)
  simp only [decodeLast, group, bind, Except.bind, List.length_cons, List.length_nil, Nat.zero_add,
    Nat.reduceAdd, if_neg full, if_neg bare, low, Nat.reduceLT, and_false, ne_eq, not_true,
    if_false]
  rfl

theorem decodeLast_four (a : Alphabet) (offset : Nat) {w x y z : Nat} (hw : w < 64) (hx : x < 64)
    (hy : y < 64) (hz : z < 64) :
    decodeLast a offset [a.symbol w, a.symbol x, a.symbol y, a.symbol z] =
      .ok [UInt8.ofNat (w * 4 + x / 16), UInt8.ofNat (x % 16 * 16 + y / 4),
        UInt8.ofNat (y % 4 * 64 + z)] := by
  have group := lastGroup_symbol a hw offset 0 _ _ _ (lastGroup_symbol a hx offset 1 _ _ _
    (lastGroup_symbol a hy offset 2 _ _ _ (lastGroup_symbol a hz offset 3 [] _ _ rfl)))
  simp only [decodeLast, group, bind, Except.bind, List.length_cons, List.length_nil, Nat.zero_add,
    Nat.reduceAdd, Nat.reduceLT, Nat.reduceMod, and_false, ne_eq, not_true, if_false]
  rfl

theorem octet_first (x y : UInt8) :
    UInt8.ofNat (x.toNat / 4 * 4 + (x.toNat % 4 * 16 + y.toNat / 16) / 16) = x := by
  have hy := y.toNat_lt
  have e : x.toNat / 4 * 4 + (x.toNat % 4 * 16 + y.toNat / 16) / 16 = x.toNat := by omega
  rw [e, UInt8.ofNat_toNat]

theorem octet_second (x y z : UInt8) :
    UInt8.ofNat ((x.toNat % 4 * 16 + y.toNat / 16) % 16 * 16 +
      (y.toNat % 16 * 4 + z.toNat / 64) / 4) = y := by
  have hy := y.toNat_lt
  have hz := z.toNat_lt
  have e : (x.toNat % 4 * 16 + y.toNat / 16) % 16 * 16 + (y.toNat % 16 * 4 + z.toNat / 64) / 4 =
      y.toNat := by omega
  rw [e, UInt8.ofNat_toNat]

theorem octet_third (y z : UInt8) :
    UInt8.ofNat ((y.toNat % 16 * 4 + z.toNat / 64) % 4 * 64 + z.toNat % 64) = z := by
  have hz := z.toNat_lt
  have e : (y.toNat % 16 * 4 + z.toNat / 64) % 4 * 64 + z.toNat % 64 = z.toNat := by omega
  rw [e, UInt8.ofNat_toNat]

theorem encode_eq_nil {a : Alphabet} {b : Bytes} (h : encode a b = []) : b = [] := by
  obtain _ | ⟨x, _ | ⟨y, _ | ⟨z, r⟩⟩⟩ := b <;> simp_all [encode]

theorem decodeGroups_short (a : Alphabet) (offset : Nat) {s : Bytes} (h : s.length ≤ 4) :
    decodeGroups a offset s = decodeLast a offset s := by
  obtain _ | ⟨w, _ | ⟨x, _ | ⟨y, _ | ⟨z, _ | ⟨v, r⟩⟩⟩⟩⟩ := s
  case cons.cons.cons.cons.cons =>
    simp only [List.length_cons] at h
    omega
  all_goals simp [decodeGroups]

theorem length_padding_le (a : Alphabet) (n : Nat) : (a.padding n).length ≤ n := by
  cases a <;> simp [Alphabet.padding]

theorem decodeGroups_encode (a : Alphabet) (b : Bytes) (offset : Nat) :
    decodeGroups a offset (encode a b) = .ok b := by
  induction b using encode.induct generalizing offset with
  | case1 x y z r ih =>
    have hx := x.toNat_lt
    have hy := y.toNat_lt
    have hz := z.toNat_lt
    by_cases last : encode a r = []
    · simp only [encode, decodeGroups, last, if_true]
      rw [decodeLast_four a offset (by omega) (by omega) (by omega) (by omega), octet_first,
        octet_second, octet_third, encode_eq_nil last]
    · simp only [encode, decodeGroups, last, if_false]
      rw [sextet_symbol a (by omega), sextet_symbol a (by omega), sextet_symbol a (by omega),
        sextet_symbol a (by omega), ih]
      simp only [bind, Except.bind, octet_first, octet_second, octet_third]
      rfl
  | case2 x y =>
    have hx := x.toNat_lt
    have hy := y.toNat_lt
    have short := length_padding_le a 1
    rw [encode, decodeGroups_short a offset (by simp only [List.length_cons]; omega),
      decodeLast_three a offset (by omega) (by omega) (by omega) (by omega), octet_first]
    have second := octet_second x y 0
    simp only [UInt8.toNat_zero, Nat.zero_div, Nat.add_zero] at second
    rw [second]
  | case3 x =>
    have hx := x.toNat_lt
    have short := length_padding_le a 2
    rw [encode, decodeGroups_short a offset (by simp only [List.length_cons]; omega),
      decodeLast_two a offset (by omega) (by omega) (by omega)]
    have first := octet_first x 0
    simp only [UInt8.toNat_zero, Nat.zero_div, Nat.add_zero] at first
    rw [first]
  | case4 => cases a <;> rfl

/-- No written form is one symbol longer than whole groups. -/
theorem length_encode_mod (a : Alphabet) (b : Bytes) : (encode a b).length % 4 ≠ 1 := by
  induction b using encode.induct with
  | case1 x y z r ih =>
    simp only [encode, List.length_cons]
    omega
  | case2 => cases a <;> simp [encode, Alphabet.padding]
  | case3 => cases a <;> simp [encode, Alphabet.padding]
  | case4 => simp [encode]

theorem decode_encode (a : Alphabet) (b : Bytes) : decode a (encode a b) = .ok b := by
  simp only [decode, length_encode_mod, false_and, if_false]
  exact decodeGroups_encode a b 0

theorem symbol_of_value? (a : Alphabet) : ∀ n < 256, ∀ v ∈ a.value? (UInt8.ofNat n),
    v < 64 ∧ a.symbol v = UInt8.ofNat n := by
  cases a <;> decide +kernel

theorem value?_eq_some {a : Alphabet} {c : UInt8} {v : Nat} :
    a.value? c = some v ↔ v < 64 ∧ c = a.symbol v := by
  constructor
  · intro h
    have read : v ∈ a.value? (UInt8.ofNat c.toNat) := by rwa [UInt8.ofNat_toNat]
    obtain ⟨small, symbol⟩ := symbol_of_value? a c.toNat c.toNat_lt v read
    rw [UInt8.ofNat_toNat] at symbol
    exact ⟨small, symbol.symm⟩
  · intro h
    obtain ⟨small, rfl⟩ := h
    exact value?_symbol a v small

theorem sextet_eq_ok {a : Alphabet} {c : UInt8} {offset v : Nat} :
    sextet a c offset = .ok v ↔ v < 64 ∧ c = a.symbol v := by
  rw [← value?_eq_some, sextet]
  cases a.value? c <;> simp

theorem lastGroup_eq_ok {a : Alphabet} {offset i : Nat} {s : Bytes} {vs : List Nat} {pads : Nat}
    (h : lastGroup a offset i s = .ok (vs, pads)) :
    (∀ v ∈ vs, v < 64) ∧ s = vs.map a.symbol ++ List.replicate pads pad := by
  induction s generalizing i vs with
  | nil =>
    cases h
    exact ⟨by simp, rfl⟩
  | cons c r ih =>
    unfold lastGroup at h
    split at h
    · rename_i padding
      split at h
      · cases h
      · split at h
        · rename_i all
          cases h
          have rest : r = List.replicate r.length pad := by
            rw [List.eq_replicate_iff]
            refine ⟨rfl, ?_⟩
            intro b hb
            simpa using List.all_eq_true.mp all b hb
          refine ⟨by simp, ?_⟩
          rw [List.map_nil, List.nil_append, List.replicate_succ, ← rest, padding]
        · cases h
    · obtain ⟨v, read, h⟩ := except_bind_eq_ok.mp h
      obtain ⟨⟨us, n⟩, rest, h⟩ := except_bind_eq_ok.mp h
      cases h
      obtain ⟨small, rfl⟩ := sextet_eq_ok.mp read
      obtain ⟨others, rfl⟩ := ih rest
      exact ⟨by simpa using ⟨small, others⟩, rfl⟩

theorem padding_eq {a : Alphabet} {n pads : Nat} (full : ¬ (a = .standard ∧ (n + pads) % 4 ≠ 0))
    (bare : ¬ (a = .url ∧ pads ≠ 0)) (least : 0 < n) (most : n + pads ≤ 4) :
    List.replicate pads pad = a.padding (4 - n) := by
  cases a with
  | url =>
    have none : pads = 0 := by simpa using bare
    rw [none]
    rfl
  | standard =>
    have fill : (n + pads) % 4 = 0 := by simpa using full
    have rest : pads = 4 - n := by omega
    rw [rest]
    rfl

section sextets
variable {w x y z : Nat}

theorem toNat_first (hw : w < 64) (hx : x < 64) : (UInt8.ofNat (w * 4 + x / 16)).toNat = w * 4 + x / 16 := by
  have small : w * 4 + x / 16 < 256 := by omega
  exact UInt8.toNat_ofNat_of_lt' small

theorem toNat_second (hy : y < 64) :
    (UInt8.ofNat (x % 16 * 16 + y / 4)).toNat = x % 16 * 16 + y / 4 := by
  have small : x % 16 * 16 + y / 4 < 256 := by omega
  exact UInt8.toNat_ofNat_of_lt' small

theorem toNat_third (hz : z < 64) : (UInt8.ofNat (y % 4 * 64 + z)).toNat = y % 4 * 64 + z := by
  have small : y % 4 * 64 + z < 256 := by omega
  exact UInt8.toNat_ofNat_of_lt' small

theorem sextet_first (hx : x < 64) : (w * 4 + x / 16) / 4 = w := by omega

theorem sextet_second (hx : x < 64) (hy : y < 64) :
    (w * 4 + x / 16) % 4 * 16 + (x % 16 * 16 + y / 4) / 16 = x := by omega

theorem encode_sextets (a : Alphabet) (hw : w < 64) (hx : x < 64) (hy : y < 64) (hz : z < 64) (r : Bytes) :
    encode a (UInt8.ofNat (w * 4 + x / 16) :: UInt8.ofNat (x % 16 * 16 + y / 4) ::
      UInt8.ofNat (y % 4 * 64 + z) :: r) =
      a.symbol w :: a.symbol x :: a.symbol y :: a.symbol z :: encode a r := by
  have third : (x % 16 * 16 + y / 4) % 16 * 4 + (y % 4 * 64 + z) / 64 = y := by omega
  have fourth : (y % 4 * 64 + z) % 64 = z := by omega
  rw [encode, toNat_first hw hx, toNat_second hy, toNat_third hz, sextet_first hx, sextet_second hx hy, third,
    fourth]

end sextets

theorem decodeLast_eq_ok {a : Alphabet} {offset : Nat} {s b : Bytes} (short : s.length ≤ 4)
    (h : decodeLast a offset s = .ok b) : s = encode a b := by
  obtain ⟨⟨vs, pads⟩, group, h⟩ := except_bind_eq_ok.mp h
  obtain ⟨small, rfl⟩ := lastGroup_eq_ok group
  rw [List.length_append, List.length_map, List.length_replicate] at short
  dsimp only at h
  split at h
  · cases h
  rename_i some
  split at h
  · cases h
  rename_i full
  split at h
  · cases h
  rename_i bare
  have padded (least : 0 < vs.length) := padding_eq full bare least short
  match vs, small, some, padded, h with
  | [], _, some, _, h =>
    cases h
    have none : pads = 0 := by simpa using some
    rw [none]
    rfl
  | [w], _, some, _, _ => simp at some
  | [w, x], small, _, padded, h =>
    obtain ⟨hw, hx⟩ : w < 64 ∧ x < 64 := by simpa using small
    dsimp only at h
    split at h
    · cases h
    rename_i low
    cases h
    have second : (w * 4 + x / 16) % 4 * 16 = x := by omega
    rw [encode, toNat_first hw hx, sextet_first hx, second, padded (by simp)]
    rfl
  | [w, x, y], small, _, padded, h =>
    obtain ⟨hw, hx, hy⟩ : w < 64 ∧ x < 64 ∧ y < 64 := by simpa using small
    dsimp only at h
    split at h
    · cases h
    rename_i low
    cases h
    have third : (x % 16 * 16 + y / 4) % 16 * 4 = y := by omega
    rw [encode, toNat_first hw hx, toNat_second hy, sextet_first hx, sextet_second hx hy, third,
      padded (by simp)]
    rfl
  | [w, x, y, z], small, _, padded, h =>
    obtain ⟨hw, hx, hy, hz⟩ : w < 64 ∧ x < 64 ∧ y < 64 ∧ z < 64 := by simpa using small
    cases h
    rw [encode_sextets a hw hx hy hz, padded (by simp), encode]
    cases a <;> rfl
  | _ :: _ :: _ :: _ :: _ :: _, _, _, _, _ =>
    simp only [List.length_cons] at short
    omega

theorem decodeGroups_eq_ok {a : Alphabet} {offset : Nat} {s b : Bytes}
    (h : decodeGroups a offset s = .ok b) : s = encode a b := by
  induction offset, s using decodeGroups.induct generalizing b with
  | case1 offset w x y z => exact decodeLast_eq_ok (by simp) (by simpa [decodeGroups] using h)
  | case2 offset w x y z r more ih =>
    rw [decodeGroups, if_neg more] at h
    obtain ⟨w', hw, h⟩ := except_bind_eq_ok.mp h
    obtain ⟨x', hx, h⟩ := except_bind_eq_ok.mp h
    obtain ⟨y', hy, h⟩ := except_bind_eq_ok.mp h
    obtain ⟨z', hz, h⟩ := except_bind_eq_ok.mp h
    obtain ⟨rest, hr, h⟩ := except_bind_eq_ok.mp h
    cases h
    obtain ⟨smallW, rfl⟩ := sextet_eq_ok.mp hw
    obtain ⟨smallX, rfl⟩ := sextet_eq_ok.mp hx
    obtain ⟨smallY, rfl⟩ := sextet_eq_ok.mp hy
    obtain ⟨smallZ, rfl⟩ := sextet_eq_ok.mp hz
    rw [encode_sextets a smallW smallX smallY smallZ, ih hr]
  | case3 offset s other =>
    have short : s.length ≤ 4 := by
      obtain _ | ⟨w, _ | ⟨x, _ | ⟨y, _ | ⟨z, r⟩⟩⟩⟩ := s
      case cons.cons.cons.cons => exact absurd rfl (other w x y z r)
      all_goals simp
    rw [decodeGroups_short a offset short] at h
    exact decodeLast_eq_ok short h

/-- What is read is what is written, and each text is written for one list of octets only. -/
theorem decode_eq_ok {a : Alphabet} {s b : Bytes} : decode a s = .ok b ↔ s = encode a b := by
  constructor
  · intro h
    unfold decode at h
    dsimp only at h
    split at h
    · cases h
    · exact decodeGroups_eq_ok h
  · rintro rfl
    exact decode_encode a b

theorem mem_encode {a : Alphabet} {c : UInt8} {b : Bytes} (h : c ∈ encode a b) :
    (∃ v < 64, c = a.symbol v) ∨ c ∈ a.padding 2 := by
  induction b using encode.induct with
  | case1 x y z r ih =>
    have hx := x.toNat_lt
    have hy := y.toNat_lt
    have hz := z.toNat_lt
    simp only [encode, List.mem_cons] at h
    obtain h | h | h | h | h := h
    · exact .inl ⟨_, by omega, h⟩
    · exact .inl ⟨_, by omega, h⟩
    · exact .inl ⟨_, by omega, h⟩
    · exact .inl ⟨_, by omega, h⟩
    · exact ih h
  | case2 x y =>
    have hx := x.toNat_lt
    have hy := y.toNat_lt
    simp only [encode, List.mem_cons] at h
    obtain h | h | h | h := h
    · exact .inl ⟨_, by omega, h⟩
    · exact .inl ⟨_, by omega, h⟩
    · exact .inl ⟨_, by omega, h⟩
    · refine .inr ?_
      cases a with
      | standard => exact List.mem_cons_of_mem _ h
      | url => exact h
  | case3 x =>
    have hx := x.toNat_lt
    simp only [encode, List.mem_cons] at h
    obtain h | h | h := h
    · exact .inl ⟨_, by omega, h⟩
    · exact .inl ⟨_, by omega, h⟩
    · exact .inr h
  | case4 => simp [encode] at h

theorem exists_symbol_of_mem_encode {c : UInt8} {b : Bytes} (h : c ∈ encode .url b) :
    ∃ v < 64, c = Alphabet.url.symbol v := by
  cases mem_encode h with
  | inl symbol => exact symbol
  | inr padding => cases padding

theorem standard_symbol_plain : ∀ v < 64, Alphabet.standard.symbol v ∉ [10, 13, 45] := by decide

theorem standard_plain {c : UInt8} {b : Bytes} (h : c ∈ encode .standard b) : c ∉ [10, 13, 45] := by
  cases mem_encode h with
  | inl symbol =>
    obtain ⟨v, small, rfl⟩ := symbol
    exact standard_symbol_plain v small
  | inr padding =>
    obtain rfl : c = pad := List.eq_of_mem_replicate padding
    decide

theorem symbol_ascii (a : Alphabet) : ∀ v < 64, (a.symbol v).toNat < 128 := by
  cases a <;> decide

theorem encode_ascii {a : Alphabet} {c : UInt8} {b : Bytes} (h : c ∈ encode a b) : c.toNat < 128 := by
  cases mem_encode h with
  | inl symbol =>
    obtain ⟨v, small, rfl⟩ := symbol
    exact symbol_ascii a v small
  | inr padding =>
    cases a with
    | standard =>
      obtain rfl : c = pad := List.eq_of_mem_replicate padding
      decide
    | url => cases padding

theorem length_standard_mod (b : Bytes) : (encode .standard b).length % 4 = 0 := by
  induction b using encode.induct with
  | case1 x y z r ih =>
    simp only [encode, List.length_cons]
    omega
  | case2 => simp [encode, Alphabet.padding]
  | case3 => simp [encode, Alphabet.padding]
  | case4 => rfl

/-- Four symbols for three octets; without padding an incomplete group has one symbol more than octets. -/
theorem length_encode_url (b : Bytes) : (encode .url b).length = (4 * b.length + 2) / 3 := by
  induction b using encode.induct with
  | case1 x y z r ih =>
    simp only [encode, List.length_cons, ih]
    omega
  | case2 => simp [encode, Alphabet.padding]
  | case3 => simp [encode, Alphabet.padding]
  | case4 => rfl

end RequestAuth.Base64
