/-! What holds of the result of a step that may fail, and when there is one. -/

namespace RequestAuth
variable {ε ε' α β : Type} {P : α → Prop}

theorem map_eq_ok {f : α → β} {x : Except ε α} {b : β} : x.map f = .ok b ↔ ∃ a, x = .ok a ∧ f a = b := by
  cases x with
  | ok a =>
    constructor
    · intro h
      exact ⟨a, rfl, Except.ok.inj h⟩
    · intro h
      obtain ⟨c, same, e⟩ := h
      cases same
      exact congrArg Except.ok e
  | error e =>
    constructor
    · intro h
      cases h
    · intro h
      obtain ⟨c, same, _⟩ := h
      cases same

theorem mapError_eq_ok {f : ε → ε'} {x : Except ε α} {a : α} : x.mapError f = .ok a ↔ x = .ok a := by
  cases x with
  | ok b =>
    change Except.ok b = .ok a ↔ _
    rw [Except.ok.injEq, Except.ok.injEq]
  | error e =>
    constructor
    · intro h
      cases h
    · intro h
      cases h

theorem except_bind_eq_ok {f : α → Except ε β} {x : Except ε α} {b : β} :
    x >>= f = .ok b ↔ ∃ a, x = .ok a ∧ f a = .ok b := by
  cases x with
  | ok a =>
    constructor
    · intro h
      exact ⟨a, rfl, h⟩
    · intro h
      obtain ⟨c, same, e⟩ := h
      cases same
      exact e
  | error e =>
    constructor
    · intro h
      cases h
    · intro h
      obtain ⟨c, same, _⟩ := h
      cases same

theorem toOption_eq_some {x : Except ε α} {a : α} : x.toOption = some a ↔ x = .ok a := by
  cases x <;> simp [Except.toOption]

theorem toOption_bind (x : Except ε α) (f : α → Except ε β) :
    (x >>= f).toOption = x.toOption.bind fun a => (f a).toOption := by
  cases x <;> rfl

theorem toOption_mapError {δ : Type} (x : Except ε α) (f : ε → δ) : (x.mapError f).toOption = x.toOption := by
  cases x <;> rfl

theorem option_eq_none {x : Option α} (h : ∀ a, x = some a ↔ P a) : x = none ↔ ¬ ∃ a, P a := by
  rw [Option.eq_none_iff_forall_ne_some]
  simp only [ne_eq, h, not_exists]

def Ensures (P : α → Prop) (x : Except ε α) : Prop := ∀ a, x = .ok a → P a

namespace Ensures

theorem ok_iff {a : α} : Ensures P (.ok a : Except ε α) ↔ P a := by
  constructor
  · intro h
    exact h a rfl
  · intro h b e
    cases e
    exact h

theorem pure_iff {a : α} : Ensures P (pure a : Except ε α) ↔ P a := ok_iff

theorem error (e : ε) : Ensures P (.error e : Except ε α) := by
  intro a h
  cases h

theorem bind {x : Except ε β} {f : β → Except ε α} (h : ∀ b, x = .ok b → Ensures P (f b)) :
    Ensures P (x >>= f) := by
  cases x with
  | ok b => exact h b rfl
  | error e => exact error e

theorem guard {c : Prop} [Decidable c] (e : ε) (f : β → Except ε α) {x : Except ε α} (h : Ensures P x) :
    Ensures P (if c then (throw e : Except ε β) >>= f else x) := by
  split
  · exact error e
  · exact h

end Ensures
end RequestAuth
