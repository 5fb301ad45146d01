import RequestAuth.Url.Idna

/-! Names that are ASCII already are only written in small letters, and any name comes out as ASCII. -/

namespace RequestAuth.Punycode

theorem digitChar_ascii : ∀ d < 36, (digitChar d).toNat < 0x80 := by decide

theorem threshold_le (k bias : Nat) : threshold k bias ≤ 26 := Nat.min_le_left _ _

theorem writeNumber_ascii (bias : Nat) : ∀ fuel k q, ∀ c ∈ writeNumber bias fuel k q, c.toNat < 0x80 := by
  intro fuel
  induction fuel with
  | zero => simp [writeNumber]
  | succ fuel ih =>
    intro k q c hc
    have bound := threshold_le k bias
    rw [writeNumber] at hc
    split at hc
    · cases List.mem_singleton.mp hc
      exact digitChar_ascii q (by omega)
    · cases List.mem_cons.mp hc with
      | inl first =>
        subst first
        have small : (q - threshold k bias) % (36 - threshold k bias) < 36 - threshold k bias :=
          Nat.mod_lt _ (by omega)
        exact digitChar_ascii _ (by omega)
      | inr later => exact ih _ _ c later

theorem pass_ascii (basic m : Nat) (c : Char) {p : Progress} (h : ∀ d ∈ p.written, d.toNat < 0x80) :
    ∀ d ∈ (p.pass basic m c).written, d.toNat < 0x80 := by
  intro d hd
  rw [Progress.pass] at hd
  split at hd
  · exact h d hd
  split at hd
  · cases List.mem_append.mp hd with
    | inl before => exact h d before
    | inr number => exact writeNumber_ascii _ _ _ _ d number
  · exact h d hd

theorem passes_ascii (basic m : Nat) (cs : List Char) : ∀ {p : Progress}, (∀ d ∈ p.written, d.toNat < 0x80) →
    ∀ d ∈ (cs.foldl (Progress.pass basic m) p).written, d.toNat < 0x80 := by
  induction cs with
  | nil => exact fun h => h
  | cons c cs ih => exact fun h => ih (pass_ascii basic m c h)

theorem insertAll_ascii (cs : List Char) (basic : Nat) (ms : List Nat) : ∀ n {p : Progress},
    (∀ d ∈ p.written, d.toNat < 0x80) → ∀ d ∈ (insertAll cs basic ms n p).written, d.toNat < 0x80 := by
  induction ms with
  | nil => exact fun _ _ h => h
  | cons m ms ih => exact fun n p h => ih _ (passes_ascii basic m cs h)

theorem encode_ascii (cs : List Char) : ∀ c ∈ encode cs, c.toNat < 0x80 := by
  intro c hc
  rw [encode] at hc
  cases List.mem_append.mp hc with
  | inl front =>
    have basic : ∀ d ∈ cs.filter (fun d => d.toNat < 0x80) ++ ['-'], d.toNat < 0x80 := by
      intro d hd
      cases List.mem_append.mp hd with
      | inl found => exact of_decide_eq_true (List.mem_filter.mp found).2
      | inr hyphen =>
        cases List.mem_singleton.mp hyphen
        decide
    split at front
    · cases front
    · exact basic c front
  | inr inserted => exact insertAll_ascii _ _ _ _ (fun _ h => absurd h List.not_mem_nil) c inserted

end RequestAuth.Punycode

namespace RequestAuth.Idna
variable {cs d : List Char}

theorem isAscii_encoded (cs : List Char) : isAscii (encoded cs) := by
  rw [encoded]
  split
  · assumption
  · rw [isAscii, List.all_append, Bool.and_eq_true, List.all_eq_true (l := Punycode.encode cs)]
    exact ⟨rfl, fun c hc => decide_eq_true (Punycode.encode_ascii cs c hc)⟩

theorem isAscii_intercalate {ls : List (List Char)} :
    isAscii (['.'].intercalate ls) ↔ ∀ l ∈ ls, isAscii l := by
  have dot : isAscii ['.'] = true := rfl
  induction ls with
  | nil => exact iff_of_true rfl nofun
  | cons l ls ih =>
    cases ls with
    | nil => rw [List.intercalate_singleton, List.forall_mem_singleton]
    | cons l' ls =>
      rw [List.intercalate_cons_cons, isAscii, List.all_append, List.all_append, Bool.and_eq_true,
        Bool.and_eq_true, List.forall_mem_cons]
      exact and_congr (and_iff_left dot) ih

/-- Whatever a name is written in, it comes out in ASCII. -/
theorem isAscii_toAscii? (h : toAscii? cs = some d) : isAscii d := by
  simp only [toAscii?, bind, Option.bind_eq_some_iff] at h
  obtain ⟨labels, -, h⟩ := h
  split at h
  · cases h
  · cases h
    rw [isAscii_intercalate]
    intro l hl
    obtain ⟨l, -, rfl⟩ := List.mem_map.mp hl
    exact isAscii_encoded l

theorem isAscii_lower (h : isAscii cs) : isAscii (cs.map Char.toLower) := by
  have small : ∀ n < 0x80, (Char.ofNat n).toLower.toNat < 0x80 := by decide
  rw [isAscii, List.all_map, List.all_eq_true]
  intro c hc
  have lower := small c.toNat (of_decide_eq_true (List.all_eq_true.mp h c hc))
  rw [Char.ofNat_toNat] at lower
  exact decide_eq_true lower

theorem mapM_label? {ls : List (List Char)} (h : ∀ l ∈ ls, label? l = some l) : ls.mapM label? = some ls := by
  induction ls with
  | nil => rfl
  | cons l ls ih =>
    rw [List.forall_mem_cons] at h
    rw [List.mapM_cons, h.1, ih h.2]
    rfl

theorem runsRight_ascii (h : isAscii cs) : cs.any runsRight = false := by
  rw [List.any_eq_false]
  intro c hc right
  have small := of_decide_eq_true (List.all_eq_true.mp h c hc)
  have large := of_decide_eq_true (Bool.and_eq_true_iff.mp right).1
  omega

/-- A name in ASCII without encoded labels is written in small letters. -/
theorem toAscii?_ascii (ascii : isAscii cs)
    (free : ∀ l ∈ (cs.map Char.toLower).splitOn '.', ¬ acePrefix.isPrefixOf l) :
    toAscii? cs = some (cs.map Char.toLower) := by
  have whole : ['.'].intercalate ((cs.map Char.toLower).splitOn '.') = cs.map Char.toLower :=
    List.intercalate_splitOn '.'
  have inside : ∀ l ∈ (cs.map Char.toLower).splitOn '.', isAscii l := by
    rw [← isAscii_intercalate, whole]
    exact isAscii_lower ascii
  have labels : ((cs.map Char.toLower).splitOn '.').mapM label? = some ((cs.map Char.toLower).splitOn '.') := by
    apply mapM_label?
    intro l hl
    rw [label?, if_neg (free l hl), inside l hl]
    rfl
  have plain : ((cs.map Char.toLower).splitOn '.').map encoded = (cs.map Char.toLower).splitOn '.' := by
    have same : ∀ l ∈ (cs.map Char.toLower).splitOn '.', encoded l = l := by
      intro l hl
      rw [encoded, if_pos (inside l hl)]
    rw [List.map_congr_left same, List.map_id']
  have left : ((cs.map Char.toLower).splitOn '.').any (·.any runsRight) = false := by
    rw [List.any_eq_false]
    intro l hl
    rw [runsRight_ascii (inside l hl)]
    exact Bool.false_ne_true
  rw [toAscii?, mapped, if_pos ascii, labels]
  simp only [bind, Option.bind_some, left, Bool.false_and, plain, whole]
  rfl

end RequestAuth.Idna
