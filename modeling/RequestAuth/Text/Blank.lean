/-! Unicode white space and texts without it at their ends. -/

namespace RequestAuth

def isBlank (c : Char) : Bool :=
  let n := c.toNat
  (9 ≤ n && n ≤ 13) || n == 0x20 || n == 0x85 || n == 0xa0 || n == 0x1680 ||
    (0x2000 ≤ n && n ≤ 0x200a) || n == 0x2028 || n == 0x2029 || n == 0x202f || n == 0x205f ||
    n == 0x3000

def trimList (cs : List Char) : List Char :=
  ((cs.dropWhile isBlank).reverse.dropWhile isBlank).reverse

theorem mem_dropWhile {α : Type} {p : α → Bool} {a : α} {l : List α} (h : a ∈ l) (other : p a = false) :
    a ∈ l.dropWhile p := by
  induction l with
  | nil => cases h
  | cons b l ih =>
    rw [List.dropWhile_cons]
    split
    · rename_i dropped
      obtain rfl | later := List.mem_cons.mp h
      · rw [other] at dropped
        cases dropped
      · exact ih later
    · exact h

theorem mem_trimList {c : Char} {cs : List Char} (h : c ∈ cs) (other : isBlank c = false) :
    c ∈ trimList cs := by
  have front := mem_dropWhile h other
  exact List.mem_reverse.mpr (mem_dropWhile (List.mem_reverse.mpr front) other)

def trimBlank (s : String) : String := String.ofList (trimList s.toList)

end RequestAuth
