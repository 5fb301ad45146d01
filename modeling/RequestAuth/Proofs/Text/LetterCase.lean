import RequestAuth.Text.LowerCase

/-! Small and capital letters. Names that differ in them alone are written in one way. -/

namespace RequestAuth

theorem asciiUpper_eq {s t : String} (h : s.toList.map Char.toUpper = t.toList) : asciiUpper s = t := by
  rw [asciiUpper, ← String.toList_inj, String.toList_map, h]

theorem asciiUpper_eq_empty {s : String} : asciiUpper s = "" ↔ s = "" := by
  rw [asciiUpper, ← String.toList_inj, String.toList_map, String.toList_empty, List.map_eq_nil_iff,
    ← String.toList_empty, String.toList_inj]

theorem asciiLower_eq {s t : String} (h : s.toList.map Char.toLower = t.toList) :
    asciiLower s = t := by
  rw [asciiLower, ← String.toList_inj, String.toList_map, h]

theorem lowerChars_toUpper {c : Char} (h : c.toUpper.toNat < 128) : lowerChars c = [c.toUpper.toLower] := by
  have small : ∀ n < 128, lowerChars (Char.ofNat n) = [(Char.ofNat n).toUpper.toLower] := by decide
  by_cases ascii : c.toNat < 128
  · rw [← Char.ofNat_toNat c]
    exact small c.toNat ascii
  · have letter : ¬(c.val ≥ 'a'.val ∧ c.val ≤ 'z'.val) := by
      intro letter
      have : c.toNat ≤ 122 := UInt32.le_iff_toNat_le.mp letter.2
      omega
    have same : c.toUpper = c := dif_neg letter
    rw [same] at h
    exact absurd h ascii

theorem lowerCase_of_asciiUpper {s t : String} (h : asciiUpper s = t)
    (ascii : ∀ c ∈ t.toList, c.toNat < 128) : lowerCase s = asciiLower t := by
  have capitals : t.toList = s.toList.map Char.toUpper := by
    rw [← h, asciiUpper, String.toList_map]
  have chars : ∀ cs : List Char, (∀ c ∈ cs.map Char.toUpper, c.toNat < 128) →
      cs.flatMap lowerChars = (cs.map Char.toUpper).map Char.toLower := by
    intro cs ascii
    induction cs with
    | nil => rfl
    | cons c cs ih =>
      rw [List.flatMap_cons, lowerChars_toUpper (ascii _ (by simp)), ih fun d hd => ascii d (by simp_all)]
      rfl
  rw [lowerCase, chars s.toList (capitals ▸ ascii), ← capitals, asciiLower, ← String.toList_inj,
    String.toList_ofList, String.toList_map]

end RequestAuth
