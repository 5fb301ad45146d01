import RequestAuth.Url.Basic

/-! Host, port and path of a URL can be told apart in the text that a request is bound to, although
nothing stands between them. -/

namespace RequestAuth

theorem append_cons_inj {a b r s : List Char} {x : Char} (ha : x ∉ a) (hb : x ∉ b)
    (h : a ++ x :: r = b ++ x :: s) : a = b ∧ r = s := by
  induction a generalizing b with
  | nil =>
    cases b with
    | nil => simpa using h
    | cons y b =>
      have same : x = y := (List.cons.inj h).1
      exact absurd (same ▸ List.mem_cons_self) hb
  | cons y a ih =>
    cases b with
    | nil =>
      have same : y = x := (List.cons.inj h).1
      exact absurd (same ▸ List.mem_cons_self) ha
    | cons z b =>
      obtain ⟨same, tail⟩ := List.cons.inj h
      obtain ⟨front, rest⟩ := ih (fun m => ha (List.mem_cons_of_mem _ m))
        (fun m => hb (List.mem_cons_of_mem _ m)) tail
      exact ⟨by rw [same, front], rest⟩

theorem append_cons_inj_last {a b r s : List Char} {x : Char} (hr : x ∉ r) (hs : x ∉ s)
    (h : a ++ x :: r = b ++ x :: s) : a = b ∧ r = s := by
  have reversed := congrArg List.reverse h
  simp only [List.reverse_append, List.reverse_cons, List.append_assoc, List.singleton_append]
    at reversed
  obtain ⟨back, front⟩ := append_cons_inj (by simpa using hr) (by simpa using hs) reversed
  exact ⟨List.reverse_inj.mp front, List.reverse_inj.mp back⟩

namespace Url

structure IsHost (h : String) : Prop where
  slash : '/' ∉ h.toList
  colon : ∀ a b, h.toList = a ++ ':' :: b → '[' ∈ a ∧ ']' ∈ b

/-- Empty or with a slash at the start. -/
def IsPath (p : String) : Prop := p ≠ "" → ∃ r, p.toList = '/' :: r

/-- The host is one, and the path behind a host is one. -/
structure Plain (u : Url) : Prop where
  host : ∀ h, u.host? = some h → IsHost h
  path : ∀ h, u.host? = some h → IsPath u.path

def portChars : Option Nat → List Char
  | some p => ':' :: Nat.toDigits 10 p
  | none => []

theorem toList_portText (p : Option Nat) : (portText p).toList = portChars p := by
  cases p with
  | none => rfl
  | some p =>
    rw [portText, String.toList_append]
    change [':'] ++ (Nat.repr p).toList = _
    rw [Nat.toList_repr]
    rfl

theorem digits_notMem {c : Char} (h : c.isDigit = false) (p : Nat) : c ∉ Nat.toDigits 10 p := by
  intro hc
  have digit := Nat.isDigit_of_mem_toDigits (by decide) (by decide) hc
  rw [h] at digit
  cases digit

theorem slash_notMem_portChars (p : Option Nat) : '/' ∉ portChars p := by
  cases p with
  | none => simp [portChars]
  | some p => simpa [portChars] using digits_notMem (c := '/') rfl p

theorem toDigits_inj {p q : Nat} (h : Nat.toDigits 10 p = Nat.toDigits 10 q) : p = q := by
  rw [← Nat.ofDigitChars_toDigits (b := 10) (n := p) (by decide) (by decide), h,
    Nat.ofDigitChars_toDigits (by decide) (by decide)]

/-- No port can be taken for the end of a host. -/
theorem portChars_inj {h k : List Char} {p q : Option Nat}
    (hh : ∀ a b, h = a ++ ':' :: b → '[' ∈ a ∧ ']' ∈ b)
    (hk : ∀ a b, k = a ++ ':' :: b → '[' ∈ a ∧ ']' ∈ b)
    (e : h ++ portChars p = k ++ portChars q) : h = k ∧ p = q := by
  cases p with
  | none =>
    cases q with
    | none => simpa [portChars] using e
    | some q =>
      have inside := (hh k (Nat.toDigits 10 q) (by simpa [portChars] using e)).2
      exact absurd inside (digits_notMem rfl q)
  | some p =>
    cases q with
    | none =>
      have inside := (hk h (Nat.toDigits 10 p) (by simpa [portChars] using e.symm)).2
      exact absurd inside (digits_notMem rfl p)
    | some q =>
      obtain ⟨same, digits⟩ := append_cons_inj_last (digits_notMem rfl p) (digits_notMem rfl q) e
      exact ⟨same, congrArg some (toDigits_inj digits)⟩

/-- The host with its port and the path can be told apart although nothing stands between them. -/
theorem hostAndPath_inj {u v : Url} (hu : u.Plain) (hv : v.Plain) (uHost : u.hostAndPort ≠ "")
    (vHost : v.hostAndPort ≠ "") (uPath : u.path ≠ "") (vPath : v.path ≠ "")
    (e : u.hostAndPort ++ u.path = v.hostAndPort ++ v.path) :
    u.host? = v.host? ∧ u.port? = v.port? ∧ u.path = v.path := by
  unfold hostAndPort at uHost vHost e
  cases h : u.host? with
  | none => simp [h] at uHost
  | some a =>
    cases k : v.host? with
    | none => simp [k] at vHost
    | some b =>
      obtain ⟨r, ur⟩ := hu.path a h uPath
      obtain ⟨s, vs⟩ := hv.path b k vPath
      have chars := congrArg String.toList e
      simp only [h, k, String.toList_append, toList_portText, ur, vs] at chars
      have ua : '/' ∉ a.toList ++ portChars u.port? := by
        simp [(hu.host a h).slash, slash_notMem_portChars]
      have vb : '/' ∉ b.toList ++ portChars v.port? := by
        simp [(hv.host b k).slash, slash_notMem_portChars]
      obtain ⟨front, rest⟩ := append_cons_inj ua vb chars
      obtain ⟨host, port⟩ := portChars_inj (hu.host a h).colon (hv.host b k).colon front
      refine ⟨congrArg some (String.toList_inj.mp host), port, String.toList_inj.mp ?_⟩
      rw [ur, vs, rest]

theorem hostAndPort_eq_empty {u : Url} : u.hostAndPort = "" ↔ u.host? = none := by
  unfold hostAndPort
  cases h : u.host? with
  | none => simp
  | some a =>
    have given : a ≠ "" := by
      unfold host? at h
      split at h
      · split at h
        · cases h
        · cases h
          assumption
      · cases h
    simp [given]

end Url

end RequestAuth
