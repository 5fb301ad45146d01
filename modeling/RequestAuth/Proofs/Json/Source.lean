import RequestAuth.Proofs.Json.Object
import RequestAuth.Proofs.Json.Quoted
import RequestAuth.Proofs.Json.Reading

/-! JSON texts as trees of their tokens. Blanks may stand before each token and at the end, and make no
difference: what a reader keeps of a text, or that it keeps nothing, is told by the tokens. -/

namespace RequestAuth.Json
open Bytes Read

structure QuotedText where
  inside : Bytes
  quoted : Quoted inside

namespace QuotedText
variable {q : QuotedText} {t : String}

def token (q : QuotedText) : Bytes := 34 :: (q.inside ++ [34])

/-- The text that is meant. There is none where half of a pair stands alone. -/
def Spells (q : QuotedText) (t : String) : Prop := WritesText t.toList q.inside

def stored (q : QuotedText) : Option String := (Read.text (q.inside ++ [34])).toOption.map Prod.fst

end QuotedText

/-- All that is written in a JSON text but for its blanks. -/
inductive Source where
  | null
  | bool (b : Bool)
  | number (t : NumberText) (valid : t.Valid)
  | text (q : QuotedText)
  | list (items : List Source)
  | object (members : List (QuotedText × Source))

namespace Source

def comma (first : Bool) : List Bytes := if first then [] else [[44]]

mutual

def tokens : Source → List Bytes
  | null => [[110, 117, 108, 108]]
  | bool true => [[116, 114, 117, 101]]
  | bool false => [[102, 97, 108, 115, 101]]
  | number t _ => [ofChars t.chars]
  | text q => [q.token]
  | list items => [91] :: itemsTokens true items
  | object members => [123] :: membersTokens true members

def itemsTokens (first : Bool) : List Source → List Bytes
  | [] => [[93]]
  | v :: r => comma first ++ (tokens v ++ itemsTokens false r)

def membersTokens (first : Bool) : List (QuotedText × Source) → List Bytes
  | [] => [[125]]
  | (q, v) :: r => comma first ++ (q.token :: [58] :: (tokens v ++ membersTokens false r))

end

mutual

def stored : Source → Nat → Option Json
  | null, _ => some .null
  | bool b, _ => some (.bool b)
  | number t _, _ => t.stored.map .number
  | text q, _ => q.stored.map .text
  | list _, 0 => none
  | list items, n + 1 => (itemsStored items n).map .list
  | object _, 0 => none
  | object members, n + 1 => (membersStored members n).map fun ps => .object (Members.ofList ps)

def itemsStored : List Source → Nat → Option (List Json)
  | [], _ => some []
  | v :: r, n => (stored v n).bind fun x => (itemsStored r n).map fun xs => x :: xs

def membersStored : List (QuotedText × Source) → Nat → Option (List (String × Json))
  | [], _ => some []
  | (q, v) :: r, n =>
    q.stored.bind fun t => (stored v n).bind fun x => (membersStored r n).map fun ps => (t, x) :: ps

end

/-- Induction with the hypothesis for all items and all members at once. -/
@[elab_as_elim, induction_eliminator]
theorem byParts {P : Source → Prop} (null : P null) (bool : ∀ b, P (bool b))
    (number : ∀ t valid, P (number t valid)) (text : ∀ q, P (text q))
    (list : ∀ items, (∀ v ∈ items, P v) → P (list items))
    (object : ∀ members, (∀ p ∈ members, P p.2) → P (object members)) (v : Source) : P v :=
  @Source.rec P (fun items => ∀ v ∈ items, P v) (fun members => ∀ p ∈ members, P p.2) (fun p => P p.2)
    null bool number text list object
    (by simp) (fun _ _ hv hs => List.forall_mem_cons.mpr ⟨hv, hs⟩)
    (by simp) (fun _ _ hp hs => List.forall_mem_cons.mpr ⟨hp, hs⟩)
    (fun _ _ h => h) v

end Source

inductive Spaced : List Bytes → Bytes → Prop where
  | nil : Spaced [] []
  | cons {b t s : Bytes} {ts : List Bytes} (blank : Blank b) (rest : Spaced ts s) :
    Spaced (t :: ts) (b ++ (t ++ s))

def Source.IsText (v : Source) (s : Bytes) : Prop :=
  ∃ w a, Spaced v.tokens w ∧ Blank a ∧ s = w ++ a

theorem Blank.append {a b : Bytes} (ha : Blank a) (hb : Blank b) : Blank (a ++ b) := by
  intro c hc
  exact (List.mem_append.mp hc).elim (ha c) (hb c)

namespace Spaced

theorem append_iff {ts us : List Bytes} {s : Bytes} :
    Spaced (ts ++ us) s ↔ ∃ a b, Spaced ts a ∧ Spaced us b ∧ s = a ++ b := by
  induction ts generalizing s with
  | nil =>
    constructor
    · intro h
      exact ⟨[], s, .nil, h, rfl⟩
    · rintro ⟨_, b, ⟨⟩, h, rfl⟩
      exact h
  | cons t ts ih =>
    constructor
    · intro h
      cases h with
      | @cons b _ s _ blank rest =>
        obtain ⟨x, y, first, second, rfl⟩ := ih.mp rest
        exact ⟨_, y, .cons blank first, second, by simp⟩
    · rintro ⟨_, y, h, second, rfl⟩
      cases h with
      | @cons b _ s _ blank first =>
        have rest := ih.mpr ⟨s, y, first, second, rfl⟩
        simpa using Spaced.cons blank rest

theorem cons_iff {t : Bytes} {ts : List Bytes} {s : Bytes} :
    Spaced (t :: ts) s ↔ ∃ b r, Blank b ∧ Spaced ts r ∧ s = b ++ (t ++ r) := by
  constructor
  · intro h
    cases h with
    | cons blank rest => exact ⟨_, _, blank, rest, rfl⟩
  · rintro ⟨b, r, blank, rest, rfl⟩
    exact .cons blank rest

theorem before {b s t : Bytes} {ts : List Bytes} (blank : Blank b) (h : Spaced (t :: ts) s) :
    Spaced (t :: ts) (b ++ s) := by
  obtain ⟨c, r, blank', rest, rfl⟩ := cons_iff.mp h
  rw [← List.append_assoc]
  exact .cons (blank.append blank') rest

theorem flatMap {b : Bytes} (blank : Blank b) (ts : List Bytes) : Spaced ts (ts.flatMap (b ++ ·)) := by
  induction ts with
  | nil => exact .nil
  | cons t ts ih => simpa using Spaced.cons (t := t) blank ih

theorem flatten (ts : List Bytes) : Spaced ts ts.flatten := by
  simpa using flatMap blank_nil ts

end Spaced

namespace QuotedText
variable {q : QuotedText} {t : String}

theorem reads (q : QuotedText) (r : Bytes) :
    (Read.text (q.inside ++ 34 :: r)).toOption = q.stored.map fun t => (t, r) := by
  obtain ⟨cs, spells⟩ | fails := q.quoted.spells_or_fails
  · have read := text_writes (s := String.ofList cs) (by rwa [String.toList_ofList])
    rw [stored, read, read]
    rfl
  · rw [stored, (fails r).text, (fails []).text]
    rfl

theorem stored_eq_some : q.stored = some t ↔ q.Spells t := by
  constructor
  · intro h
    obtain ⟨cs, spells⟩ | fails := q.quoted.spells_or_fails
    · have read := text_writes (s := String.ofList cs) (w := q.inside) (by rwa [String.toList_ofList]) []
      rw [stored, read] at h
      cases h
      rwa [Spells, String.toList_ofList]
    · rw [stored, (fails []).text] at h
      cases h
  · intro h
    rw [stored, text_writes h]
    rfl

end QuotedText

namespace Source

theorem spaced_comma {first : Bool} {ts : List Bytes} {s : Bytes} (h : Spaced (comma first ++ ts) s) :
    ∃ b r, Blank b ∧ Spaced ts r ∧ s = b ++ (if first then r else 44 :: r) := by
  cases first with
  | true => exact ⟨[], s, blank_nil, h, rfl⟩
  | false => exact Spaced.cons_iff.mp h

theorem tokens_opens (v : Source) : ∃ t ts, v.tokens = t :: ts ∧ Opens t := by
  cases v with
  | null => exact ⟨_, _, rfl, rfl, by decide⟩
  | bool b => cases b <;> exact ⟨_, _, rfl, rfl, by decide⟩
  | number t valid => exact ⟨_, _, rfl, NumberText.opens valid⟩
  | text q => exact ⟨_, _, rfl, rfl, by decide⟩
  | list items => exact ⟨_, _, rfl, rfl, by decide⟩
  | object members => exact ⟨_, _, rfl, rfl, by decide⟩

theorem spaced_opens {v : Source} {s : Bytes} (h : Spaced v.tokens s) :
    ∃ b w, Blank b ∧ Opens w ∧ Spaced v.tokens w ∧ s = b ++ w := by
  obtain ⟨t, ts, first, opens⟩ := v.tokens_opens
  rw [first] at h
  obtain ⟨b, r, blank, rest, rfl⟩ := Spaced.cons_iff.mp h
  refine ⟨b, t ++ r, blank, opens.append r, ?_, rfl⟩
  rw [first]
  exact .cons blank_nil rest

theorem follows_mark {c : UInt8} {ts : List Bytes} {s : Bytes} (h : Spaced ([c] :: ts) s)
    (mark : c = 44 ∨ c = 93 ∨ c = 125) (r : Bytes) : Follows (s ++ r) := by
  obtain ⟨b, _, blank, -, rfl⟩ := Spaced.cons_iff.mp h
  simpa using follows_blank blank (s := c :: _) (Or.inr mark)

theorem follows_items {vs : List Source} {s : Bytes} (h : Spaced (itemsTokens false vs) s) (r : Bytes) :
    Follows (s ++ r) := by
  cases vs with
  | nil => exact follows_mark h (by decide) r
  | cons v vs => exact follows_mark h (by decide) r

theorem follows_members {ms : List (QuotedText × Source)} {s : Bytes} (h : Spaced (membersTokens false ms) s)
    (r : Bytes) : Follows (s ++ r) := by
  cases ms with
  | nil => exact follows_mark h (by decide) r
  | cons p ms => exact follows_mark h (by decide) r

theorem items_step {n fuel : Nat} {b b' w : Bytes} (first : Bool) (blank : Blank b) (blank' : Blank b')
    (opens : Opens w) (s r : Bytes) :
    items (value n) (fuel + 1) first (b ++ (if first then b' ++ w ++ s else 44 :: (b' ++ w ++ s)) ++ r) =
      value n (w ++ (s ++ r)) >>= fun p =>
        items (value n) fuel false p.2 >>= fun q => .ok (p.1 :: q.1, q.2) := by
  have text : b ++ (if first then b' ++ w ++ s else 44 :: (b' ++ w ++ s)) ++ r =
      b ++ (if first then b' ++ (w ++ (s ++ r)) else 44 :: (b' ++ (w ++ (s ++ r)))) := by
    cases first <;> simp
  rw [text, items, nextItem_blank blank, nextItem_item first blank' (opens.append (s ++ r))]
  rfl

theorem items_spaced {n : Nat} {vs : List Source}
    (reads : ∀ v ∈ vs, ∀ w, Spaced v.tokens w → ReadsTo (value n) w (v.stored n)) (r : Bytes) :
    ∀ first s fuel, Spaced (itemsTokens first vs) s → s.length < fuel →
      (items (value n) fuel first (s ++ r)).toOption = (itemsStored vs n).map fun xs => (xs, r) := by
  induction vs with
  | nil =>
    intro first s fuel spaced room
    obtain ⟨fuel, rfl⟩ := Nat.exists_eq_add_one.mpr (Nat.zero_lt_of_lt room)
    obtain ⟨b, _, blank, ⟨⟩, rfl⟩ := Spaced.cons_iff.mp spaced
    rw [List.append_nil, List.append_assoc, List.singleton_append, items, nextItem_blank blank, nextItem_close]
    rfl
  | cons v vs ih =>
    intro first s fuel spaced room
    obtain ⟨fuel, rfl⟩ := Nat.exists_eq_add_one.mpr (Nat.zero_lt_of_lt room)
    obtain ⟨b, _, blank, parts, rfl⟩ := spaced_comma spaced
    obtain ⟨_, s, item, behind, rfl⟩ := Spaced.append_iff.mp parts
    obtain ⟨b', w, blank', opens, alone, rfl⟩ := spaced_opens item
    have shorter : s.length < fuel := by
      have := List.length_pos_of_ne_nil opens.ne_nil
      cases first <;> simp at room <;> omega
    have read := reads v (by simp) w alone (s ++ r) (follows_items behind r)
    have rest := ih (fun u hu => reads u (by simp [hu])) false s fuel behind shorter
    rw [items_step first blank blank' opens, toOption_bind, read, itemsStored]
    cases v.stored n with
    | none => rfl
    | some x =>
      simp only [Option.map_some, Option.bind_some, toOption_bind, rest]
      cases itemsStored vs n <;> rfl

theorem nextName_token (first : Bool) {b : Bytes} (blank : Blank b) (q : QuotedText) (r : Bytes) :
    (nextName first (if first then b ++ (q.token ++ r) else 44 :: (b ++ (q.token ++ r)))).toOption =
      q.stored.map fun t => (some t, r) := by
  have quote (s : Bytes) : skipSpace (34 :: s) = 34 :: s := rfl
  have read : (Read.text (q.inside ++ 34 :: r) >>= fun p => .ok (some p.1, p.2)).toOption =
      q.stored.map fun t => (some t, r) := by
    rw [toOption_bind, q.reads]
    cases q.stored <;> rfl
  rw [← read]
  cases first with
  | true =>
    rw [if_pos rfl, nextName_blank blank]
    simp [nextName, quote, QuotedText.token]
    rfl
  | false =>
    have comma (s : Bytes) : skipSpace (44 :: s) = 44 :: s := rfl
    simp [nextName, comma, skipSpace_blank blank, quote, QuotedText.token]
    rfl

theorem member_step {first : Bool} {q : QuotedText} {v : Source} {ms : List (QuotedText × Source)} {s : Bytes}
    (spaced : Spaced (membersTokens first ((q, v) :: ms)) s) (r : Bytes) :
    ∃ after w s', Spaced v.tokens w ∧ Spaced (membersTokens false ms) s' ∧ s'.length < s.length ∧
      (nextName first (s ++ r)).toOption = (q.stored.map fun t => (some t, after)) ∧
      colon after = .ok (w ++ (s' ++ r)) := by
  obtain ⟨b, _, blank, name, rfl⟩ := spaced_comma spaced
  obtain ⟨beforeName, _, blankName, colon', rfl⟩ := Spaced.cons_iff.mp name
  obtain ⟨afterName, _, blankColon, parts, rfl⟩ := Spaced.cons_iff.mp colon'
  obtain ⟨w, s', item, behind, rfl⟩ := Spaced.append_iff.mp parts
  let after := afterName ++ 58 :: (w ++ (s' ++ r))
  have text : b ++ (if first then beforeName ++ (q.token ++ (afterName ++ ([58] ++ (w ++ s'))))
        else 44 :: (beforeName ++ (q.token ++ (afterName ++ ([58] ++ (w ++ s')))))) ++ r =
      b ++ (if first then beforeName ++ (q.token ++ after) else 44 :: (beforeName ++ (q.token ++ after))) := by
    cases first <;> simp [after]
  refine ⟨after, w, s', item, behind, ?_, ?_, colon_blank blankColon _⟩
  · cases first <;> simp <;> omega
  · rw [text, nextName_blank blank, nextName_token first blankName q after]

theorem members_spaced {n : Nat} {ms : List (QuotedText × Source)}
    (reads : ∀ p ∈ ms, ∀ w, Spaced p.2.tokens w → ReadsTo (value n) w (p.2.stored n)) (r : Bytes) :
    ∀ first acc s fuel, Spaced (membersTokens first ms) s → s.length < fuel →
      (members (value n) fuel first acc (s ++ r)).toOption =
        (membersStored ms n).map fun ps => (ps.foldl (fun a p => a.insert p.1 p.2) acc, r) := by
  induction ms with
  | nil =>
    intro first acc s fuel spaced room
    obtain ⟨fuel, rfl⟩ := Nat.exists_eq_add_one.mpr (Nat.zero_lt_of_lt room)
    obtain ⟨b, _, blank, ⟨⟩, rfl⟩ := Spaced.cons_iff.mp spaced
    rw [List.append_nil, List.append_assoc, List.singleton_append, members, nextName_blank blank, nextName_close]
    rfl
  | cons p ms ih =>
    obtain ⟨q, v⟩ := p
    intro first acc s fuel spaced room
    obtain ⟨fuel, rfl⟩ := Nat.exists_eq_add_one.mpr (Nat.zero_lt_of_lt room)
    obtain ⟨after, w, s', item, behind, shorter, next, colon'⟩ := member_step spaced r
    have read := reads (q, v) (by simp) w item (s' ++ r) (follows_members behind r)
    have rest (t : String) (x : Json) :=
      ih (fun p hp => reads p (by simp [hp])) false (acc.insert t x) s' fuel behind (by omega)
    rw [members, toOption_bind, next, membersStored]
    cases q.stored with
    | none => rfl
    | some t =>
      have inside : (colon after >>= fun r => value n r >>= fun p =>
          members (value n) fuel false (acc.insert t p.1) p.2) = value n (w ++ (s' ++ r)) >>= fun p =>
          members (value n) fuel false (acc.insert t p.1) p.2 := by
        rw [colon']
        rfl
      refine (congrArg Except.toOption inside).trans ?_
      rw [toOption_bind, read, Option.bind_some]
      cases v.stored n with
      | none => rfl
      | some x =>
        simp only [Option.map_some, Option.bind_some, rest]
        cases membersStored ms n <;> rfl

section value
variable {n : Nat} {x : Option Json}

theorem readsTo_blank {b w : Bytes} (blank : Blank b) (h : ReadsTo (value n) w x) :
    ReadsTo (value n) (b ++ w) x := by
  intro r follows
  rw [List.append_assoc, value_blank blank]
  exact h r follows

theorem readsTo_leaf {t w : Bytes} (spaced : Spaced [t] w) (h : ReadsTo (value n) t x) :
    ReadsTo (value n) w x := by
  obtain ⟨b, _, blank, ⟨⟩, rfl⟩ := Spaced.cons_iff.mp spaced
  rw [List.append_nil]
  exact readsTo_blank blank h

/-- The tokens tell what is read, whatever blanks are between them. -/
theorem readsTo (v : Source) : ∀ n w, Spaced v.tokens w → ReadsTo (value n) w (v.stored n) := by
  induction v with
  | null =>
    intro n w spaced
    refine readsTo_leaf spaced fun r _ => ?_
    obtain ⟨inner, e⟩ := exists_valueOver n
    rw [e, stored]
    rfl
  | bool b =>
    intro n w spaced
    obtain ⟨inner, e⟩ := exists_valueOver n
    cases b with
    | true =>
      refine readsTo_leaf spaced fun r _ => ?_
      rw [e, stored]
      rfl
    | false =>
      refine readsTo_leaf spaced fun r _ => ?_
      rw [e, stored]
      rfl
  | number t valid =>
    intro n w spaced
    obtain ⟨inner, e⟩ := exists_valueOver n
    refine readsTo_leaf spaced ?_
    rw [e, stored]
    exact NumberText.readsTo_stored valid inner
  | text q =>
    intro n w spaced
    refine readsTo_leaf spaced fun r _ => ?_
    obtain ⟨inner, e⟩ := exists_valueOver n
    have opened (s : Bytes) : valueOver inner (34 :: s) = Read.text s >>= fun p => .ok (.text p.1, p.2) := rfl
    rw [e, stored, QuotedText.token, List.cons_append, List.append_assoc, List.singleton_append, opened,
      toOption_bind, q.reads]
    cases q.stored <;> rfl
  | list items ih =>
    intro n w spaced
    obtain ⟨b, s, blank, inside, rfl⟩ := Spaced.cons_iff.mp spaced
    refine readsTo_blank blank fun r _ => ?_
    cases n with
    | zero => rfl
    | succ n =>
      have opened (s : Bytes) : value (n + 1) (91 :: s) =
          Read.items (value n) (s.length + 1) true s >>= fun p => .ok (.list p.1, p.2) := rfl
      have read := items_spaced (fun v hv => ih v hv n) r true s ((s ++ r).length + 1) inside
        (by simp only [List.length_append]; omega)
      rw [List.singleton_append, List.cons_append, opened, toOption_bind, read, stored]
      cases itemsStored items n <;> rfl
  | object ms ih =>
    intro n w spaced
    obtain ⟨b, s, blank, inside, rfl⟩ := Spaced.cons_iff.mp spaced
    refine readsTo_blank blank fun r _ => ?_
    cases n with
    | zero => rfl
    | succ n =>
      have opened (s : Bytes) : value (n + 1) (123 :: s) =
          Read.members (value n) (s.length + 1) true [] s >>= fun p => .ok (.object p.1, p.2) := rfl
      have read := members_spaced (fun p hp => ih p hp n) r true [] s ((s ++ r).length + 1) inside
        (by simp only [List.length_append]; omega)
      rw [List.singleton_append, List.cons_append, opened, toOption_bind, read, stored]
      cases membersStored ms n <;> rfl

end value

/-- A whole text is read as a reader makes it of the tokens, or refused if it makes nothing of them. -/
theorem IsText.document_eq_ok {α : Type} {read : Nat → Reader α} {v : Source} {s : Bytes} {x : Option α}
    (h : v.IsText s) (reads : ∀ w, Spaced v.tokens w → ReadsTo (read maxDepth) w x) {a : α} :
    Read.document read s = .ok a ↔ x = some a := by
  obtain ⟨w, b, spaced, after, rfl⟩ := h
  have read' := reads w spaced b (by
    simpa using follows_blank after (s := []) trivial)
  have left : skipSpace b = [] := by
    have none := skipSpace_blank after []
    rwa [List.append_nil] at none
  have whole {r : Bytes} : read maxDepth (w ++ b) = .ok (a, r) ↔ x = some a ∧ b = r := by
    rw [← toOption_eq_some, read']
    cases x <;> simp
  rw [Read.document_eq_ok]
  constructor
  · intro found
    obtain ⟨r, found, -⟩ := found
    exact (whole.mp found).1
  · intro kept
    exact ⟨b, whole.mpr ⟨kept, rfl⟩, left⟩

theorem IsText.parse_eq_ok {v : Source} {s : Bytes} (h : v.IsText s) {x : Json} :
    parse s = .ok x ↔ v.stored maxDepth = some x :=
  h.document_eq_ok (v.readsTo maxDepth)

end Source

end RequestAuth.Json
