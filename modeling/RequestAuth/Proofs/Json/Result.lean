import RequestAuth.Json.Typed
import RequestAuth.Proofs.Ensures
import RequestAuth.Proofs.Json.Structure
import RequestAuth.Proofs.Record

/-! Whatever a reader gives is well formed: its whole numbers fit 64 bits, its members are in order, and
its lists and objects are nested no deeper than it allows. -/

namespace RequestAuth.Json.Read
variable {α : Type} {P : α → Prop}

abbrev Gives (P : α → Prop) (x : Except Stop (α × Bytes)) : Prop := Ensures (fun p => P p.1) x

abbrev GivesNumber : Except Stop (JsonNumber × Bytes) → Prop := Gives fun n => n.inRange

theorem whole_inRange (positive : Bool) {n : Nat} (h : n ≤ maxCount) : (whole positive n).inRange := by
  have bound : n < 2 ^ 64 := Nat.lt_of_le_of_lt h (by decide)
  unfold whole
  split
  · simp only [JsonNumber.inRange, Bool.and_eq_true, decide_eq_true_eq]
    omega
  · split
    · rename_i small
      have small : n ≤ 2 ^ 63 := small.2
      simp only [JsonNumber.inRange, Bool.and_eq_true, decide_eq_true_eq]
      omega
    · rfl

theorem gives_float (positive : Bool) (digits : Nat) (e : Int) (s : Bytes) :
    GivesNumber (float positive digits e s) := by
  unfold float
  split
  · exact Ensures.ok_iff.mpr rfl
  · exact Ensures.error _

theorem gives_exponentDigits (positive : Bool) (digits : Nat) (start : Int) (up : Bool) (e : Nat)
    (s : Bytes) : GivesNumber (exponentDigits positive digits start up e s) := by
  induction s generalizing e with
  | nil => exact gives_float _ _ _ _
  | cons c r ih =>
    unfold exponentDigits
    dsimp only
    split
    · split
      · split
        · exact Ensures.error _
        · exact Ensures.ok_iff.mpr rfl
      · exact ih _
    · exact gives_float _ _ _ _

theorem gives_exponent (positive : Bool) (digits : Nat) (start : Int) (s : Bytes) :
    GivesNumber (exponent positive digits start s) := by
  unfold exponent
  dsimp only
  split
  · exact Ensures.error _
  · split
    · exact gives_exponentDigits _ _ _ _ _ _
    · exact Ensures.error _

theorem gives_afterFraction (positive : Bool) (digits : Nat) (start : Int) (s : Bytes) :
    GivesNumber (afterFraction positive digits start s) := by
  unfold afterFraction
  split
  · split
    · exact gives_exponent _ _ _ _
    · exact gives_float _ _ _ _
  · exact gives_float _ _ _ _

theorem gives_fractionDigits (positive : Bool) (start : Int) (seen : Bool) (places digits : Nat)
    (s : Bytes) : GivesNumber (fractionDigits positive start seen places digits s) := by
  induction s generalizing seen places digits with
  | nil =>
    cases seen
    · exact Ensures.error _
    · exact gives_afterFraction positive digits (start - places) []
  | cons c r ih =>
    unfold fractionDigits
    dsimp only
    split
    · split
      · exact gives_afterFraction _ _ _ _
      · exact ih _ _ _
    · split
      · exact gives_afterFraction _ _ _ _
      · exact Ensures.error _

theorem gives_longDigits (positive : Bool) (digits e : Nat) (s : Bytes) :
    GivesNumber (longDigits positive digits e s) := by
  induction s generalizing e with
  | nil => exact gives_float _ _ _ _
  | cons c r ih =>
    unfold longDigits
    dsimp only
    split
    · exact ih _
    · split
      · exact gives_fractionDigits _ _ _ _ _ _
      · split
        · exact gives_exponent _ _ _ _
        · exact gives_float _ _ _ _

theorem gives_afterDigits (positive : Bool) {digits : Nat} (h : digits ≤ maxCount) (s : Bytes) :
    GivesNumber (afterDigits positive digits s) := by
  unfold afterDigits
  split
  · split
    · exact gives_fractionDigits _ _ _ _ _ _
    · split
      · exact gives_exponent _ _ _ _
      · exact Ensures.ok_iff.mpr (whole_inRange positive h)
  · exact Ensures.ok_iff.mpr (whole_inRange positive h)

theorem gives_wholeDigits (positive : Bool) {digits : Nat} (h : digits ≤ maxCount) (s : Bytes) :
    GivesNumber (wholeDigits positive digits s) := by
  induction s generalizing digits with
  | nil => exact gives_afterDigits positive h _
  | cons c r ih =>
    unfold wholeDigits
    dsimp only
    split
    · split
      · exact gives_longDigits _ _ _ _
      · exact ih (Nat.le_of_not_lt ‹_›)
    · exact gives_afterDigits positive h _

theorem digit_le (c : UInt8) : digit c ≤ maxCount := by
  have := c.toNat_lt
  have : (256 : Nat) ≤ maxCount := by decide
  unfold digit
  omega

theorem gives_number (positive : Bool) (s : Bytes) : GivesNumber (number positive s) := by
  unfold number
  split
  · exact Ensures.error _
  · split
    · split
      · split
        · exact Ensures.error _
        · exact gives_afterDigits positive (Nat.zero_le _) _
      · exact gives_afterDigits positive (Nat.zero_le _) _
    · split
      · exact gives_wholeDigits positive (digit_le _) _
      · exact Ensures.error _

theorem wellFormed_number {n : JsonNumber} (h : n.inRange) : (Json.number n).wellFormed := by
  simpa [wellFormed, everywhere] using h

theorem gives_items {read : Reader α} (h : ∀ s, Gives P (read s)) (fuel : Nat) (first : Bool)
    (s : Bytes) : Gives (fun xs => ∀ x ∈ xs, P x) (items read fuel first s) := by
  induction fuel generalizing first s with
  | zero => exact Ensures.error _
  | succ fuel ih =>
    unfold items
    apply Ensures.bind
    intro out _
    obtain ⟨more, r⟩ := out
    cases more with
    | false => exact Ensures.pure_iff.mpr (by simp)
    | true =>
      apply Ensures.bind
      intro out hx
      obtain ⟨x, r⟩ := out
      apply Ensures.bind
      intro out hxs
      obtain ⟨xs, r⟩ := out
      exact Ensures.pure_iff.mpr (List.forall_mem_cons.mpr ⟨h _ _ hx, ih _ _ _ hxs⟩)

/-- What can be read where lists and objects may be nested `n` deep. -/
def Within (n : Nat) (v : Json) : Prop := v.wellFormed ∧ v.depth ≤ n

theorem within_list {n : Nat} {xs : List Json} (h : ∀ x ∈ xs, Within n x) : Within (n + 1) (.list xs) :=
  ⟨wellFormed_list.mpr fun x hx => (h x hx).1,
    Nat.succ_le_succ (itemsDepth_le.mpr fun x hx => (h x hx).2)⟩

theorem within_object {n : Nat} {ms : Members} :
    Within (n + 1) (.object ms) ↔ ms.isSorted ∧ ∀ p ∈ ms, Within n p.2 := by
  rw [Within, wellFormed_object, depth, Nat.add_le_add_iff_right, membersDepth_le]
  constructor
  · intro h
    obtain ⟨⟨sorted, parts⟩, deep⟩ := h
    exact ⟨sorted, fun p hp => ⟨parts p hp, deep p hp⟩⟩
  · intro h
    obtain ⟨sorted, parts⟩ := h
    exact ⟨⟨sorted, fun p hp => (parts p hp).1⟩, fun p hp => (parts p hp).2⟩

theorem gives_members {n : Nat} {read : Reader Json} (h : ∀ s, Gives (Within n) (read s)) (fuel : Nat)
    (first : Bool) {acc : Members} (sofar : Within (n + 1) (.object acc)) (s : Bytes) :
    Gives (fun ms => Within (n + 1) (.object ms)) (members read fuel first acc s) := by
  induction fuel generalizing first acc s with
  | zero => exact Ensures.error _
  | succ fuel ih =>
    unfold members
    apply Ensures.bind
    intro out _
    obtain ⟨name, r⟩ := out
    cases name with
    | none => exact Ensures.pure_iff.mpr sofar
    | some n =>
      apply Ensures.bind
      intro r _
      apply Ensures.bind
      intro out hv
      obtain ⟨v, r⟩ := out
      apply ih
      obtain ⟨sorted, parts⟩ := within_object.mp sofar
      refine within_object.mpr ⟨Members.isSorted_insert sorted n v, ?_⟩
      intro p hp
      cases Members.mem_insert hp with
      | inl e =>
        cases e
        exact h _ _ hv
      | inr old => exact parts p old

theorem within_flat {n : Nat} {v : Json} (wf : v.wellFormed) (flat : v.depth = 0) : Within n v :=
  ⟨wf, flat ▸ Nat.zero_le n⟩

theorem gives_valueOver {n : Nat} {inner : Option (Reader Json)}
    (h : ∀ read, inner = some read → ∃ k, n = k + 1 ∧ ∀ s, Gives (Within k) (read s)) (s : Bytes) :
    Gives (Within n) (valueOver inner s) := by
  unfold valueOver
  split
  · exact Ensures.error _
  split
  · exact Ensures.bind fun _ _ => Ensures.pure_iff.mpr (within_flat rfl rfl)
  split
  · exact Ensures.bind fun _ _ => Ensures.pure_iff.mpr (within_flat rfl rfl)
  split
  · exact Ensures.bind fun _ _ => Ensures.pure_iff.mpr (within_flat rfl rfl)
  split
  · apply Ensures.bind
    intro out hn
    obtain ⟨n, r⟩ := out
    exact Ensures.pure_iff.mpr (within_flat (wellFormed_number (gives_number false _ _ hn)) rfl)
  split
  · apply Ensures.bind
    intro out hn
    obtain ⟨n, r⟩ := out
    exact Ensures.pure_iff.mpr (within_flat (wellFormed_number (gives_number true _ _ hn)) rfl)
  split
  · exact Ensures.bind fun _ _ => Ensures.pure_iff.mpr (within_flat rfl rfl)
  split
  · split
    · exact Ensures.error _
    · obtain ⟨k, rfl, inside⟩ := h _ rfl
      apply Ensures.bind
      intro out hxs
      obtain ⟨xs, r⟩ := out
      exact Ensures.pure_iff.mpr (within_list (gives_items inside _ _ _ _ hxs))
  split
  · split
    · exact Ensures.error _
    · obtain ⟨k, rfl, inside⟩ := h _ rfl
      apply Ensures.bind
      intro out hms
      obtain ⟨ms, r⟩ := out
      exact Ensures.pure_iff.mpr
        (gives_members inside _ _ (within_object.mpr ⟨rfl, by simp⟩) _ _ hms)
  · exact Ensures.error _

theorem gives_value (n : Nat) (s : Bytes) : Gives (Within n) (value n s) := by
  induction n generalizing s with
  | zero => exact gives_valueOver (by simp) s
  | succ n ih =>
    apply gives_valueOver
    intro _ h
    cases h
    exact ⟨n, rfl, ih⟩

theorem ensures_wrongType {Q : α × Bytes → Prop} (expected : String) (s : Bytes) :
    Ensures Q (wrongType expected s) := by
  unfold wrongType
  split
  · exact Ensures.error _
  split
  · exact Ensures.bind fun _ _ => Ensures.error _
  split
  · exact Ensures.bind fun _ _ => Ensures.error _
  split
  · exact Ensures.bind fun _ _ => Ensures.error _
  split
  · exact Ensures.bind fun _ _ => Ensures.error _
  split
  · exact Ensures.bind fun _ _ => Ensures.error _
  split
  · exact Ensures.bind fun _ _ => Ensures.error _
  split
  · exact Ensures.error _
  split
  · exact Ensures.error _
  · exact Ensures.error _

theorem gives_object (n : Nat) (s : Bytes) :
    Gives (fun ms => Within n (.object ms)) (object n s) := by
  unfold object
  apply Ensures.bind
  intro out _
  obtain ⟨c, r⟩ := out
  dsimp only
  split
  · cases n with
    | zero => exact Ensures.error _
    | succ n => exact gives_members (gives_value n) _ _ (within_object.mpr ⟨rfl, by simp⟩) _
  · exact ensures_wrongType _ _

section records
variable {F : Shape} {Q : (s : F.Slot) → F.Value s → Prop} {d : F.Draft}

theorem gives_recordMembers {read : (s : F.Slot) → Reader (F.Value s)}
    (reads : ∀ s b, Gives (Q s) (read s b)) (fuel : Nat) (first : Bool) (h : d.Meets Q) (b : Bytes) :
    Gives (Shape.Draft.Meets Q) (recordMembers F read fuel first d b) := by
  induction fuel generalizing first d b with
  | zero => exact Ensures.error _
  | succ fuel ih =>
    unfold recordMembers
    apply Ensures.bind
    intro out _
    obtain ⟨name, r⟩ := out
    cases name with
    | none => exact Ensures.pure_iff.mpr h
    | some n =>
      cases known : F.slot? n with
      | none =>
        simp only [known]
        exact Ensures.bind fun _ _ => Ensures.bind fun _ _ => ih _ h _
      | some s =>
        simp only [known]
        split
        · exact Ensures.error _
        · apply Ensures.bind
          intro r _
          apply Ensures.bind
          intro out hv
          obtain ⟨v, r⟩ := out
          exact ih _ (h.set (reads s _ _ hv)) _

theorem gives_recordItems {read : (s : F.Slot) → Reader (F.Value s)}
    (reads : ∀ s b, Gives (Q s) (read s b)) (omitted : ∀ s v, F.omitted s = some v → Q s v)
    (slots : List F.Slot) (n : Nat) (first : Bool) (h : d.Meets Q) (b : Bytes) :
    Gives (Shape.Draft.Meets Q) (recordItems F read slots n first d b) := by
  induction slots generalizing n first d b with
  | nil => exact Ensures.ok_iff.mpr h
  | cons s slots ih =>
    unfold recordItems
    apply Ensures.bind
    intro out _
    obtain ⟨more, r⟩ := out
    cases more with
    | true =>
      apply Ensures.bind
      intro out hv
      obtain ⟨v, r⟩ := out
      exact ih _ _ (h.set (reads s _ _ hv)) _
    | false =>
      cases left : F.omitted s with
      | some v =>
        simp only
        exact ih _ _ (h.set (omitted s v left)) _
      | none =>
        simp only
        exact Ensures.error _

/-- What holds of all that the members are read as, and of what stands for those left out, holds of the
members of a record. -/
theorem gives_record {read : (s : F.Slot) → Nat → Reader (F.Value s)} {n : Nat}
    (reads : ∀ s b, Gives (Q s) (read s n b)) (absent : ∀ s v, F.absent s = some v → Q s v)
    (omitted : ∀ s v, F.omitted s = some v → Q s v) (b : Bytes) :
    Gives (fun f => ∀ s, Q s (f s)) (record F read (n + 1) b) := by
  have filled {d : F.Draft} (h : d.Meets Q) (r : Bytes) :
      Ensures (fun f => ∀ s, Q s (f s)) (fill F d r) := by
    unfold fill
    cases e : d.fill with
    | ok f => exact Ensures.ok_iff.mpr (h.fill absent e)
    | error s => exact Ensures.error _
  unfold record
  apply Ensures.bind
  intro out _
  obtain ⟨c, r⟩ := out
  dsimp only [descend]
  split
  · apply Ensures.bind
    intro n e
    cases e
    apply Ensures.bind
    intro out hd
    apply Ensures.bind
    intro f hf
    have meets := gives_recordItems reads omitted _ _ _ Shape.Draft.meets_empty _ out hd
    exact Ensures.bind fun _ _ => Ensures.pure_iff.mpr (filled meets _ f hf)
  split
  · apply Ensures.bind
    intro n e
    cases e
    apply Ensures.bind
    intro out hd
    apply Ensures.bind
    intro f hf
    have meets := gives_recordMembers reads _ _ Shape.Draft.meets_empty _ out hd
    exact Ensures.pure_iff.mpr (filled meets _ f hf)
  · exact ensures_wrongType _ _

end records

theorem gives_optional {read : Reader α} (h : ∀ s, Gives P (read s)) (s : Bytes) :
    Gives (fun x => ∀ a, x = some a → P a) (optional read s) := by
  unfold optional
  split
  · exact Ensures.bind fun _ _ => Ensures.pure_iff.mpr nofun
  · apply Ensures.bind
    intro out ha
    obtain ⟨a, r⟩ := out
    refine Ensures.pure_iff.mpr ?_
    intro b e
    cases e
    exact h _ _ ha

theorem document_gives {read : Nat → Reader α} {s : Bytes} {a : α} (h : Gives P (read maxDepth s))
    (e : document read s = .ok a) : P a := by
  rw [document, mapError_eq_ok, toEnd] at e
  cases got : read maxDepth s with
  | error stop =>
    rw [got] at e
    cases e
  | ok p =>
    have given := h p got
    rw [got] at e
    cases rest : skipSpace p.2 with
    | nil =>
      simp only [bind, Except.bind, rest] at e
      cases e
      exact given
    | cons c r =>
      simp only [bind, Except.bind, rest] at e
      cases e

end RequestAuth.Json.Read
