import RequestAuth.Proofs.Json.Number
import RequestAuth.Proofs.Json.Structure
import RequestAuth.Proofs.Json.Text

/-! Reading gives back every value without floats that was written, whatever follows it, as long as the
reader may go as deep as the value does. -/

namespace RequestAuth.Json.Read
open Bytes

def separated : Bool → List Bytes → Bytes
  | _, [] => []
  | true, w :: ws => w ++ separated false ws
  | false, w :: ws => 44 :: w ++ separated false ws

theorem separated_nil (first : Bool) (s : Bytes) : separated first [] ++ s = s := by
  cases first <;> rfl

theorem separated_cons (first : Bool) (w : Bytes) (ws : List Bytes) (s : Bytes) :
    separated first (w :: ws) ++ s =
      if first then w ++ (separated false ws ++ s) else 44 :: (w ++ (separated false ws ++ s)) := by
  cases first <;> simp [separated]

def Opens : Bytes → Prop
  | [] => False
  | c :: _ => isSpace c = false ∧ c ≠ 93

theorem Opens.append {s : Bytes} (h : Opens s) (r : Bytes) : Opens (s ++ r) := by
  cases s with
  | nil => exact h.elim
  | cons c s => exact h

theorem skipSpace_opens {s : Bytes} (h : Opens s) : skipSpace s = s := by
  cases s with
  | nil => rfl
  | cons c s => simp [skipSpace, h.1]

theorem closes_separated (ws : List Bytes) (c : UInt8) (hc : c = 93 ∨ c = 125) (r : Bytes) :
    Closes (separated false ws ++ c :: r) := by
  cases ws with
  | nil => exact Or.inr hc
  | cons w ws => exact Or.inl rfl

theorem nextItem_opens (first : Bool) {s : Bytes} (h : Opens s) :
    nextItem first (if first then s else 44 :: s) = .ok (true, s) := by
  cases s with
  | nil => exact h.elim
  | cons c s =>
    have self := skipSpace_opens h
    cases first with
    | true => simp [nextItem, self, h.2]
    | false =>
      have comma : skipSpace (44 :: c :: s) = 44 :: c :: s := rfl
      simp [nextItem, comma, self, h.2]

theorem nextItem_close (first : Bool) (r : Bytes) : nextItem first (93 :: r) = .ok (false, 93 :: r) := by
  cases first <;> rfl

variable {α : Type}

/-- What a reader makes of one text, whatever closes behind it. -/
def ReadsAs (read : Reader α) (w : Bytes) (a : α) : Prop :=
  ∀ r, Closes r → read (w ++ r) = .ok (a, r)

theorem items_separated {read : Reader α} {write : α → Bytes} {xs : List α}
    (opens : ∀ x ∈ xs, Opens (write x)) (reads : ∀ x ∈ xs, ReadsAs read (write x) x) (r : Bytes) :
    ∀ fuel first, xs.length < fuel →
      items read fuel first (separated first (xs.map write) ++ 93 :: r) = .ok (xs, r) := by
  induction xs with
  | nil =>
    intro fuel first room
    obtain ⟨fuel, rfl⟩ := Nat.exists_eq_add_one.mpr (Nat.zero_lt_of_lt room)
    rw [List.map_nil, separated_nil, items, nextItem_close]
    rfl
  | cons x xs ih =>
    intro fuel first room
    obtain ⟨fuel, rfl⟩ := Nat.exists_eq_add_one.mpr (Nat.zero_lt_of_lt room)
    have rest := ih (fun y hy => opens y (by simp [hy])) (fun y hy => reads y (by simp [hy]))
      fuel false (by simpa using room)
    have next := nextItem_opens first
      ((opens x (by simp)).append (separated false (xs.map write) ++ 93 :: r))
    have item := reads x (by simp) _ (closes_separated (xs.map write) 93 (Or.inl rfl) r)
    rw [List.map_cons, separated_cons, items, next]
    simp only [bind, Except.bind, item, rest]
    rfl

def member (name : String) (w : Bytes) : Bytes := ofChars (textChars name) ++ 58 :: w

theorem member_append (name : String) (w s : Bytes) :
    member name w ++ s = 34 :: (ofChars (name.toList.flatMap escape) ++ 34 :: 58 :: (w ++ s)) := by
  simp [member, ofChars_textChars]

theorem nextName_member (first : Bool) (name : String) (w s : Bytes) :
    nextName first (if first then member name w ++ s else 44 :: (member name w ++ s)) =
      .ok (some name, 58 :: (w ++ s)) := by
  have name_text := text_escaped name (58 :: (w ++ s))
  rw [member_append]
  cases first with
  | true =>
    have self (t : Bytes) : skipSpace (34 :: t) = 34 :: t := rfl
    simp [nextName, self, name_text, bind, Except.bind, pure, Except.pure]
  | false =>
    have comma (t : Bytes) : skipSpace (44 :: t) = 44 :: t := rfl
    have self (t : Bytes) : skipSpace (34 :: t) = 34 :: t := rfl
    simp [nextName, comma, self, name_text, bind, Except.bind, pure, Except.pure]

theorem nextName_close (first : Bool) (r : Bytes) : nextName first (125 :: r) = .ok (none, 125 :: r) := by
  cases first <;> rfl

theorem colon_colon (s : Bytes) : colon (58 :: s) = .ok s := rfl

theorem members_separated {read : Reader Json} (write : Json → Bytes) {ms : Members}
    (reads : ∀ p ∈ ms, ReadsAs read (write p.2) p.2) (r : Bytes) :
    ∀ fuel first acc, ms.length < fuel →
      members read fuel first acc
        (separated first (ms.map fun p => member p.1 (write p.2)) ++ 125 :: r) =
        .ok (ms.foldl (fun a p => a.insert p.1 p.2) acc, r) := by
  induction ms with
  | nil =>
    intro fuel first acc room
    obtain ⟨fuel, rfl⟩ := Nat.exists_eq_add_one.mpr (Nat.zero_lt_of_lt room)
    rw [List.map_nil, separated_nil, members, nextName_close]
    rfl
  | cons p ms ih =>
    intro fuel first acc room
    obtain ⟨fuel, rfl⟩ := Nat.exists_eq_add_one.mpr (Nat.zero_lt_of_lt room)
    have rest := ih (fun q hq => reads q (by simp [hq])) fuel false (acc.insert p.1 p.2)
      (by simpa using room)
    have next := nextName_member first p.1 (write p.2)
      (separated false (ms.map fun p => member p.1 (write p.2)) ++ 125 :: r)
    have value := reads p (by simp) _
      (closes_separated (ms.map fun p => member p.1 (write p.2)) 125 (Or.inr rfl) r)
    rw [List.map_cons, separated_cons, members, next]
    simp only [bind, Except.bind, colon_colon, value, rest]
    rfl

theorem itemChars_separated (items : List Json) :
    ofChars (itemChars items) = separated true (items.map fun v => ofChars v.chars) := by
  have tail (v : Json) (r : List Json) : ofChars (itemChars (v :: r)) =
      ofChars v.chars ++ separated false (r.map fun v => ofChars v.chars) := by
    induction r generalizing v with
    | nil => simp [itemChars, separated]
    | cons w r ih =>
      rw [itemChars, ofChars_append, ofChars_ascii (by decide), ih w]
      · rfl
      · simp
  cases items with
  | nil => rfl
  | cons v r => exact tail v r

theorem memberChars_separated (ms : Members) :
    ofChars (memberChars ms) = separated true (ms.map fun p => member p.1 (ofChars p.2.chars)) := by
  have tail (p : String × Json) (r : Members) : ofChars (memberChars (p :: r)) =
      member p.1 (ofChars p.2.chars) ++
        separated false (r.map fun p => member p.1 (ofChars p.2.chars)) := by
    induction r generalizing p with
    | nil => simp [memberChars, separated, member, ofChars_append, ofChars_ascii]
    | cons q r ih =>
      rw [memberChars]
      · simp only [ofChars_append, List.append_assoc, ofChars_ascii (c := ':') (by decide),
          ofChars_ascii (c := ',') (by decide), ih q, member, List.map_cons, separated]
        simp
      · simp
  cases ms with
  | nil => rfl
  | cons p r => exact tail p r

theorem exists_valueOver (n : Nat) : ∃ inner, value n = valueOver inner := by
  cases n with
  | zero => exact ⟨none, rfl⟩
  | succ n => exact ⟨some (value n), rfl⟩

theorem opens_chars (v : Json) (h : v.integral) : Opens (ofChars v.chars) := by
  cases v with
  | null => exact ⟨rfl, by decide⟩
  | bool b => cases b <;> exact ⟨rfl, by decide⟩
  | number n =>
    cases n with
    | float x => simp [integral, everywhere] at h
    | integer n =>
      cases n with
      | negSucc n => exact ⟨rfl, by decide⟩
      | ofNat n =>
        obtain ⟨c, s, e, digit⟩ := ofChars_toDigits n
        have first := isDigit_cases digit
        change Opens (ofChars (Nat.toDigits 10 n))
        rw [e]
        exact ⟨first.1, first.2.1⟩
  | text s =>
    rw [chars, ofChars_textChars]
    exact ⟨rfl, by decide⟩
  | list items => exact ⟨rfl, by decide⟩
  | object members => exact ⟨rfl, by decide⟩

theorem valueOver_integer (inner : Option (Reader Json)) {k : Int}
    (range : (JsonNumber.integer k).inRange) :
    ReadsAs (valueOver inner) (ofChars (JsonNumber.intChars k)) (.number (.integer k)) := by
  intro r hr
  obtain ⟨c, s, e, ⟨rfl, read⟩ | ⟨digit, read⟩⟩ := number_intChars range hr
  · have self : skipSpace (45 :: s) = 45 :: s := rfl
    rw [e]
    simp only [valueOver, self, read, bind, Except.bind]
    rfl
  · obtain ⟨space, -, n1, n2, n3, n4⟩ := isDigit_cases digit
    have self : skipSpace (c :: s) = c :: s := by simp [skipSpace, space]
    rw [e]
    simp only [valueOver, self, n1, n2, n3, n4, digit, if_false, if_true, read, bind, Except.bind]
    rfl

theorem valueOver_text (inner : Option (Reader Json)) (t : String) :
    ReadsAs (valueOver inner) (ofChars (textChars t)) (.text t) := by
  intro r _
  have read := text_escaped t r
  rw [ofChars_textChars, List.cons_append, List.append_assoc, List.singleton_append]
  have self (s : Bytes) : skipSpace (34 :: s) = 34 :: s := rfl
  simp only [valueOver, self, read, bind, Except.bind]
  rfl

theorem length_le_separated (first : Bool) (ws : List Bytes) (h : ∀ w ∈ ws, w ≠ []) :
    ws.length ≤ (separated first ws).length := by
  induction ws generalizing first with
  | nil => simp [separated]
  | cons w ws ih =>
    have some := List.length_pos_iff.mpr (h w (by simp))
    have rest := ih false fun x hx => h x (by simp [hx])
    cases first <;> simp [separated] <;> omega

theorem Opens.ne_nil {s : Bytes} (h : Opens s) : s ≠ [] := by
  intro e
  cases e
  exact h

theorem items_list {read : Reader α} (toJson : α → Json) {xs : List α}
    (opens : ∀ x ∈ xs, Opens (ofChars (toJson x).chars))
    (reads : ∀ x ∈ xs, ReadsAs read (ofChars (toJson x).chars) x) (r : Bytes) :
    ∃ s, ofChars (Json.list (xs.map toJson)).chars ++ r = 91 :: s ∧
      items read (s.length + 1) true s = .ok (xs, r) := by
  have room := length_le_separated true (xs.map fun x => ofChars (toJson x).chars) (by
    intro w hw
    obtain ⟨x, hx, rfl⟩ := List.mem_map.mp hw
    exact (opens x hx).ne_nil)
  refine ⟨separated true (xs.map fun x => ofChars (toJson x).chars) ++ 93 :: r, ?_, ?_⟩
  · rw [chars, List.cons_append, ofChars_ascii (by decide), ofChars_append, itemChars_separated,
      List.map_map]
    simp [ofChars_ascii, Function.comp_def]
  · exact items_separated opens reads r _ true (by simp at room ⊢; omega)

theorem members_object {read : Reader Json} {ms : List (String × Json)}
    (reads : ∀ p ∈ ms, ReadsAs read (ofChars p.2.chars) p.2) (r : Bytes) :
    ∃ s, ofChars (Json.object ms).chars ++ r = 123 :: s ∧
      members read (s.length + 1) true [] s = .ok (Members.ofList ms, r) := by
  have room := length_le_separated true (ms.map fun p => member p.1 (ofChars p.2.chars)) (by
    intro w hw
    obtain ⟨p, -, rfl⟩ := List.mem_map.mp hw
    simp [member, ofChars_textChars])
  refine ⟨separated true (ms.map fun p => member p.1 (ofChars p.2.chars)) ++ 125 :: r, ?_, ?_⟩
  · rw [chars, List.cons_append, ofChars_ascii (by decide), ofChars_append, memberChars_separated]
    simp [ofChars_ascii]
  · exact members_separated (fun v => ofChars v.chars) reads r _ true [] (by simp at room ⊢; omega)

theorem valueOver_list {read : Reader Json} {items : List Json} (integral : ∀ v ∈ items, v.integral)
    (reads : ∀ v ∈ items, ReadsAs read (ofChars v.chars) v) :
    ReadsAs (valueOver (some read)) (ofChars (list items).chars) (.list items) := by
  intro r _
  obtain ⟨s, e, inside⟩ := items_list id (fun v hv => opens_chars v (integral v hv)) reads r
  have self : skipSpace (91 :: s) = 91 :: s := rfl
  rw [List.map_id] at e
  rw [e]
  simp only [valueOver, self, inside, bind, Except.bind]
  rfl

theorem valueOver_object {read : Reader Json} {ms : List (String × Json)}
    (reads : ∀ p ∈ ms, ReadsAs read (ofChars p.2.chars) p.2) :
    ReadsAs (valueOver (some read)) (ofChars (Json.object ms).chars) (.object (Members.ofList ms)) := by
  intro r _
  obtain ⟨s, e, inside⟩ := members_object reads r
  have self : skipSpace (123 :: s) = 123 :: s := rfl
  rw [e]
  simp only [valueOver, self, inside, bind, Except.bind]
  rfl

theorem value_chars (v : Json) (wf : v.wellFormed) (int : v.integral) (n : Nat) (deep : v.depth ≤ n) :
    ReadsAs (value n) (ofChars v.chars) v := by
  induction v generalizing n with
  | null =>
    obtain ⟨inner, e⟩ := exists_valueOver n
    exact fun r _ => e ▸ rfl
  | bool b =>
    obtain ⟨inner, e⟩ := exists_valueOver n
    cases b <;> exact fun r _ => e ▸ rfl
  | number x =>
    obtain ⟨inner, e⟩ := exists_valueOver n
    rw [e]
    cases x with
    | float x => simp [integral, everywhere] at int
    | integer k => exact valueOver_integer inner (by simpa [wellFormed, everywhere] using wf)
  | text s =>
    obtain ⟨inner, e⟩ := exists_valueOver n
    exact e ▸ valueOver_text inner s
  | list items ih =>
    rw [depth, Nat.add_one_le_iff] at deep
    obtain ⟨n, rfl⟩ : ∃ k, n = k + 1 := ⟨n - 1, by omega⟩
    have inside := itemsDepth_le.mp (Nat.le_of_lt_succ deep)
    have wf := wellFormed_list.mp wf
    have int := integral_list.mp int
    exact valueOver_list int fun v hv => ih v hv (wf v hv) (int v hv) n (inside v hv)
  | object ms ih =>
    rw [depth, Nat.add_one_le_iff] at deep
    obtain ⟨n, rfl⟩ : ∃ k, n = k + 1 := ⟨n - 1, by omega⟩
    have inside := membersDepth_le.mp (Nat.le_of_lt_succ deep)
    obtain ⟨sorted, wf⟩ := wellFormed_object.mp wf
    have int := integral_object.mp int
    have read := valueOver_object fun p hp => ih p hp (wf p hp) (int p hp) n (inside p hp)
    rwa [Members.ofList_sorted sorted] at read

theorem length_le_itemChars {v : Json} {items : List Json} (h : v ∈ items) :
    v.chars.length ≤ (itemChars items).length := by
  induction items with
  | nil => simp at h
  | cons w r ih =>
    cases r with
    | nil =>
      rw [List.mem_singleton] at h
      simp [itemChars, h]
    | cons u r =>
      rw [itemChars, List.length_append, List.length_cons]
      · cases List.mem_cons.mp h with
        | inl e =>
          cases e
          omega
        | inr later =>
          have := ih later
          omega
      · simp

theorem length_le_memberChars {p : String × Json} {ms : List (String × Json)} (h : p ∈ ms) :
    p.2.chars.length ≤ (memberChars ms).length := by
  induction ms with
  | nil => simp at h
  | cons q r ih =>
    cases r with
    | nil =>
      rw [List.mem_singleton] at h
      subst h
      rw [memberChars, List.length_append, List.length_cons]
      omega
    | cons u r =>
      rw [memberChars]
      · simp only [List.length_append, List.length_cons]
        cases List.mem_cons.mp h with
        | inl e =>
          cases e
          omega
        | inr later =>
          have := ih later
          omega
      · simp

theorem depth_le_length (v : Json) : v.depth ≤ v.chars.length := by
  induction v with
  | null | bool | number | text => exact Nat.zero_le _
  | list items ih =>
    have inside : itemsDepth items ≤ (itemChars items).length :=
      itemsDepth_le.mpr fun v hv => Nat.le_trans (ih v hv) (length_le_itemChars hv)
    rw [depth, chars, List.length_append, List.length_cons, List.length_singleton]
    omega
  | object ms ih =>
    have inside : membersDepth ms ≤ (memberChars ms).length :=
      membersDepth_le.mpr fun p hp => Nat.le_trans (ih p hp) (length_le_memberChars hp)
    rw [depth, chars, List.length_append, List.length_cons, List.length_singleton]
    omega

theorem document_render {α : Type} {read : Nat → Reader α} {v : Json} {a : α}
    (h : ReadsAs (read maxDepth) (ofChars v.chars) a) :
    document read (ofText v.render) = .ok a := by
  have all := h [] trivial
  rw [List.append_nil] at all
  rw [render, ofText_ofList, document, toEnd, all]
  rfl

theorem parse_render {v : Json} (wf : v.wellFormed) (int : v.integral) (deep : v.depth ≤ maxDepth) :
    parse (ofText v.render) = .ok v :=
  document_render (value_chars v wf int maxDepth deep)

/-- The members of an object may be written in any order. -/
theorem parse_members {ms : List (String × Json)}
    (parts : ∀ p ∈ ms, p.2.wellFormed ∧ p.2.integral ∧ p.2.depth < maxDepth) :
    parse (ofText (Json.object ms).render) = .ok (.object (Members.ofList ms)) := by
  apply document_render
  apply valueOver_object
  intro p hp
  obtain ⟨wf, int, deep⟩ := parts p hp
  exact value_chars p.2 wf int _ (Nat.le_of_lt_succ deep)

end RequestAuth.Json.Read
