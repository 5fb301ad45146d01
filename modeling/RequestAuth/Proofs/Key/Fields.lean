import RequestAuth.Proofs.Key.Der

/-! Optional fields of a sequence. A reader of one field passes over fields of lower numbers, takes the field where
it stands next, and leaves any other element alone. -/

namespace RequestAuth.Der
variable {α : Type} {s r : Bytes} {tag number : UInt8} {fuel : Nat}

def outer (number : UInt8) : UInt8 := 0xa0 + number

/-- The tag of a field that stands in place of a bit string's. -/
def inPlace (number : UInt8) : UInt8 := 0x80 + number

theorem outer_iff (h : number < 32) :
    isContextTag tag ∧ isConstructed tag ∧ tag % 32 = number ↔ tag = outer number := by
  have small : number.toNat < 32 := UInt8.lt_iff_toNat_lt.mp h
  have bound := tag.toNat_lt
  simp only [isContextTag, isConstructed, outer, Bool.and_eq_true, decide_eq_true_eq, beq_iff_eq,
    UInt8.le_iff_toNat_le, UInt8.lt_iff_toNat_lt, ← UInt8.toNat_inj, UInt8.toNat_mod, UInt8.toNat_div,
    UInt8.toNat_add, UInt8.reduceToNat]
  omega

theorem inPlace_iff (h : number < 32) :
    isContextTag tag ∧ isConstructed tag = false ∧ tag % 32 = number ↔ tag = inPlace number := by
  have small : number.toNat < 32 := UInt8.lt_iff_toNat_lt.mp h
  have bound := tag.toNat_lt
  simp only [isContextTag, isConstructed, inPlace, Bool.and_eq_true, decide_eq_true_eq,
    UInt8.le_iff_toNat_le, UInt8.lt_iff_toNat_lt, ← UInt8.toNat_inj, UInt8.toNat_mod, UInt8.toNat_div,
    UInt8.toNat_add, UInt8.reduceToNat, beq_eq_false_iff_ne, ne_eq]
  omega

inductive Below (number : UInt8) : Bytes → Prop
  | nil : Below number []
  | cons {tag : UInt8} {c rest : Bytes} (known : isTag tag) (context : isContextTag tag)
      (lower : tag % 32 < number) (fits : Fits c) (more : Below number rest) :
      Below number (write tag c ++ rest)

/-- Nothing is left, or an element that is no field up to the number. -/
def Past (number : UInt8) (s : Bytes) : Prop :=
  ∀ b ∈ s.head?, isTag b ∧ (isContextTag b → number < b % 32)

inductive Stops (number : UInt8) (read : UInt8 → Reader α) : Bytes → Option α → Bytes → Prop
  | past {s : Bytes} (h : Past number s) : Stops number read s none s
  | field {tag : UInt8} {s r : Bytes} {a : α} (known : isTag tag) (context : isContextTag tag)
      (same : tag % 32 = number) (taken : read tag (tag :: s) = some (a, r)) :
      Stops number read (tag :: s) (some a) r

section readField
variable {read : UInt8 → Reader α} {o : Option α} {c : Bytes}

theorem readField_stops (h : Stops number read s o r) (enough : s.length ≤ fuel) :
    readField number read fuel s = some (o, r) := by
  cases h with
  | past past =>
    obtain _ | fuel := fuel
    · rfl
    cases s with
    | nil => rfl
    | cons b t =>
      obtain ⟨known, above⟩ := past b rfl
      have leave : ¬ isContextTag b = true ∨ number < b % 32 := by
        by_cases context : isContextTag b
        · exact .inr (above context)
        · exact .inl context
      simp only [readField, known, not_true, if_false, leave, if_true]
  | @field tag s _ _ known context same taken =>
    obtain _ | fuel := fuel
    · simp at enough
    have stay : ¬ (¬ isContextTag tag = true ∨ number < number) := by
      simp [context, UInt8.lt_irrefl]
    simp only [readField, known, not_true, if_false, same, stay, if_true, taken, Option.map_some]

theorem readField_pass (known : isTag tag) (context : isContextTag tag) (lower : tag % 32 < number)
    (fits : Fits c) : readField number read (fuel + 1) (write tag c ++ s) = readField number read fuel s := by
  have stay : ¬ (¬ isContextTag tag = true ∨ number < tag % 32) := by
    simp [context, UInt8.le_of_lt lower]
  have other : tag % 32 ≠ number := UInt8.ne_of_lt lower
  have passed : readAny (tag :: (writeLength c.length ++ c ++ s)) = some ((tag, c), s) :=
    readAny_eq_some.mpr ⟨known, fits, rfl⟩
  simp only [write, List.cons_append, readField, known, not_true, if_false, stay, other, passed, bind,
    Option.bind_some]

theorem readField_below {passed : Bytes} (h : Below number passed) (enough : (passed ++ s).length ≤ fuel)
    (stops : Stops number read s o r) : readField number read fuel (passed ++ s) = some (o, r) := by
  induction h generalizing fuel with
  | nil => exact readField_stops stops enough
  | @cons tag c rest known context lower fits more ih =>
    obtain _ | fuel := fuel
    · simp [write] at enough
    rw [List.append_assoc, readField_pass known context lower fits]
    apply ih
    simp only [write, List.length_append, List.length_cons] at enough ⊢
    omega

/-- All that one step can do: stop, or pass over one field. -/
theorem readField_step (h : readField number read (fuel + 1) s = some (o, r)) : Stops number read s o r ∨
    ∃ tag c rest, isTag tag ∧ isContextTag tag ∧ tag % 32 < number ∧ Fits c ∧ s = write tag c ++ rest ∧
      readField number read fuel rest = some (o, r) := by
  cases s with
  | nil =>
    cases h
    exact .inl (.past (by simp [Past]))
  | cons b t =>
    rw [readField] at h
    split at h
    · cases h
    rename_i known
    rw [not_not] at known
    split at h
    · rename_i leave
      cases h
      refine .inl (.past ?_)
      intro d first
      cases first
      exact ⟨known, fun context => leave.resolve_left (not_not.mpr context)⟩
    · rename_i stay
      obtain ⟨context, upTo⟩ := not_or.mp stay
      rw [not_not] at context
      split at h
      · rename_i same
        obtain ⟨⟨a, u⟩, taken, result⟩ := Option.map_eq_some_iff.mp h
        cases result
        exact .inl (.field known context same taken)
      · rename_i other
        simp only [bind, Option.bind_eq_some_iff, Prod.exists] at h
        obtain ⟨tag, c, rest, passed, h⟩ := h
        obtain ⟨-, fits, split⟩ := readAny_eq_some.mp passed
        obtain rfl : b = tag := (List.cons.inj split).1
        have lower : b % 32 < number := UInt8.lt_of_le_of_ne (UInt8.not_lt.mp upTo) other
        exact .inr ⟨b, c, rest, known, context, lower, fits, split, h⟩

/-- Induction on the fuel: each field that is passed over is at least one octet long. -/
theorem of_readField (enough : s.length ≤ fuel) (h : readField number read fuel s = some (o, r)) :
    ∃ passed rest, Below number passed ∧ Stops number read rest o r ∧ s = passed ++ rest := by
  induction fuel generalizing s with
  | zero =>
    obtain rfl : s = [] := List.length_eq_zero_iff.mp (by omega)
    cases h
    exact ⟨[], [], .nil, .past (by simp [Past]), rfl⟩
  | succ fuel ih =>
    cases readField_step h with
    | inl stops => exact ⟨[], s, .nil, stops, rfl⟩
    | inr pass =>
      obtain ⟨tag, c, rest, known, context, lower, fits, rfl, later⟩ := pass
      have shorter : rest.length ≤ fuel := by
        simp only [write, List.length_append, List.length_cons] at enough
        omega
      obtain ⟨passed, back, below, stops, rfl⟩ := ih shorter later
      exact ⟨write tag c ++ passed, back, .cons known context lower fits below, stops, by simp⟩

theorem readField_eq_some : readField number read s.length s = some (o, r) ↔
    ∃ passed rest, Below number passed ∧ Stops number read rest o r ∧ s = passed ++ rest := by
  constructor
  · exact of_readField (Nat.le_refl _)
  · intro h
    obtain ⟨passed, rest, below, stops, rfl⟩ := h
    exact readField_below below (Nat.le_refl _) stops

theorem readField_eq_none : readField number read s.length s = some (none, r) ↔
    ∃ passed, Below number passed ∧ Past number r ∧ s = passed ++ r := by
  rw [readField_eq_some]
  constructor
  · intro h
    obtain ⟨passed, rest, below, stops, rfl⟩ := h
    cases stops with
    | past past => exact ⟨passed, below, past, rfl⟩
  · intro h
    obtain ⟨passed, below, past, rfl⟩ := h
    exact ⟨passed, r, below, .past past, rfl⟩

end readField

theorem isTag_outer (h : number < 31) : isTag (outer number) := by
  have small : number.toNat < 31 := UInt8.lt_iff_toNat_lt.mp h
  simp only [isTag, outer, UInt8.lt_iff_toNat_lt, UInt8.toNat_add, UInt8.reduceToNat]
  rw [if_neg (by omega), bne_iff_ne, ne_eq, ← UInt8.toNat_inj, UInt8.toNat_mod, UInt8.toNat_add]
  simp only [UInt8.reduceToNat]
  omega

theorem isTag_inPlace (h : number < 31) : isTag (inPlace number) := by
  have small : number.toNat < 31 := UInt8.lt_iff_toNat_lt.mp h
  simp only [isTag, inPlace, UInt8.lt_iff_toNat_lt, UInt8.toNat_add, UInt8.reduceToNat]
  rw [if_neg (by omega), bne_iff_ne, ne_eq, ← UInt8.toNat_inj, UInt8.toNat_mod, UInt8.toNat_add]
  simp only [UInt8.reduceToNat]
  omega

theorem explicitField_eq_none {read : Reader α} : explicitField number read s = some (none, r) ↔
    ∃ passed, Below number passed ∧ Past number r ∧ s = passed ++ r := readField_eq_none

theorem explicitField_eq_some {read : Reader α} {a : α} (h : number < 31) :
    explicitField number read s = some (some a, r) ↔
      ∃ passed c, Below number passed ∧ Fits c ∧ read c = some (a, []) ∧
        s = passed ++ (write (outer number) c ++ r) := by
  have small : number < 32 := UInt8.lt_trans h (by decide)
  rw [explicitField, readField_eq_some]
  constructor
  · intro h
    obtain ⟨passed, rest, below, stops, rfl⟩ := h
    cases stops with
    | @field tag t _ _ known context same taken =>
      split at taken
      · rename_i constructed
        obtain rfl := (outer_iff small).mp ⟨context, constructed, same⟩
        obtain ⟨-, c, fits, inside, split⟩ := element_eq_some.mp taken
        exact ⟨passed, c, below, fits, inside, by rw [split]⟩
      · cases taken
  · intro h
    obtain ⟨passed, c, below, fits, inside, rfl⟩ := h
    obtain ⟨context, constructed, same⟩ := (outer_iff small).mpr rfl
    have taken : element (outer number) read (write (outer number) c ++ r) = some (a, r) :=
      element_eq_some.mpr ⟨isTag_outer h, c, fits, inside, rfl⟩
    refine ⟨passed, _, below, .field (isTag_outer h) context same ?_, rfl⟩
    rw [if_pos constructed]
    exact taken

theorem implicitBitString_eq_none : implicitBitString number s = some (none, r) ↔
    ∃ passed, Below number passed ∧ Past number r ∧ s = passed ++ r := readField_eq_none

theorem implicitBitString_eq_some {k : Bytes} (h : number < 31) :
    implicitBitString number s = some (some k, r) ↔
      ∃ passed, Below number passed ∧ Fits (0 :: k) ∧ s = passed ++ (write (inPlace number) (0 :: k) ++ r) := by
  have small : number < 32 := UInt8.lt_trans h (by decide)
  rw [implicitBitString, readField_eq_some]
  constructor
  · intro h
    obtain ⟨passed, rest, below, stops, rfl⟩ := h
    cases stops with
    | @field tag t _ _ known context same taken =>
      split at taken
      · cases taken
      · rename_i primitive
        rw [Bool.not_eq_true] at primitive
        obtain rfl := (inPlace_iff small).mp ⟨context, primitive, same⟩
        simp only [bind, Option.bind_eq_some_iff, Prod.exists, pure, Option.some.injEq,
          Prod.mk.injEq] at taken
        obtain ⟨c, u, read, octets, whole, rfl, rfl⟩ := taken
        obtain ⟨-, fits, split⟩ := readElement_eq_some.mp read
        rw [wholeOctets_eq_some.mp whole] at fits split
        exact ⟨passed, below, fits, by rw [split]⟩
  · intro h
    obtain ⟨passed, below, fits, rfl⟩ := h
    obtain ⟨context, primitive, same⟩ := (inPlace_iff small).mpr rfl
    have read : readElement (inPlace number) (write (inPlace number) (0 :: k) ++ r) = some (0 :: k, r) :=
      readElement_eq_some.mpr ⟨isTag_inPlace h, fits, rfl⟩
    refine ⟨passed, _, below, .field (isTag_inPlace h) context same ?_, rfl⟩
    rw [primitive]
    exact Option.bind_eq_some_iff.mpr ⟨_, read, rfl⟩

inductive Fields : Bytes → Prop
  | nil : Fields []
  | cons {tag inner : UInt8} {c rest : Bytes} (known : isTag tag) (context : isContextTag tag)
      (constructed : isConstructed tag) (element : isTag inner) (fits : Fits (write inner c))
      (more : Fields rest) : Fields (write tag (write inner c) ++ rest)

theorem isFields_of_fields (h : Fields s) (enough : s.length ≤ fuel) : isFields fuel s := by
  induction h generalizing fuel with
  | nil => cases fuel <;> rfl
  | @cons tag inner c rest known context constructed element fits more ih =>
    obtain _ | fuel := fuel
    · simp [write] at enough
    have shorter : rest.length ≤ fuel := by
      simp only [write, List.length_append, List.length_cons] at enough
      omega
    have inside : readAny (write inner c) = some ((inner, c), []) :=
      readAny_eq_some.mpr ⟨element, fits.of_write, (List.append_nil _).symm⟩
    have taken : Der.element tag readAny (tag :: (writeLength (write inner c).length ++ write inner c ++ rest)) =
        some ((inner, c), rest) := element_eq_some.mpr ⟨known, write inner c, fits, inside, rfl⟩
    rw [write, List.cons_append, isFields, context, constructed, taken]
    exact ih shorter

theorem fields_of_isFields (h : isFields fuel s) : Fields s := by
  induction fuel generalizing s with
  | zero =>
    cases s with
    | nil => exact .nil
    | cons b t => cases h
  | succ fuel ih =>
    cases s with
    | nil => exact .nil
    | cons b t =>
      simp only [isFields, Bool.and_eq_true] at h
      obtain ⟨⟨context, constructed⟩, h⟩ := h
      split at h
      · rename_i value rest taken
        obtain ⟨known, c, fits, inside, split⟩ := element_eq_some.mp taken
        obtain ⟨inner, d⟩ := value
        obtain ⟨element, -, rfl⟩ := readAny_eq_some.mp inside
        rw [List.append_nil] at fits split
        rw [split]
        exact .cons known context constructed element fits (ih h)
      · cases h

theorem isFields_iff : isFields s.length s ↔ Fields s := by
  constructor
  · exact fields_of_isFields
  · intro h
    exact isFields_of_fields h (Nat.le_refl _)

end RequestAuth.Der
