import RequestAuth.Proofs.Json.Skip
import RequestAuth.Proofs.Record

/-! A record is read from the members of an object one by one, each by its name. Their order does not count, nor do
blanks between them or members of other names, and a slot is filled once or the object is refused. -/

namespace RequestAuth.Json.Read
open Bytes
variable {α β : Type}

def keeps (read : Reader α) (v : Source) : Option α := (read v.tokens.flatten).toOption.map Prod.fst

/-- Blanks between the tokens of a value make no difference to the reader, nor does what follows it. -/
def ByTokens (read : Reader α) : Prop := ∀ v w, Spaced v.tokens w → ReadsTo read w (keeps read v)

theorem byTokens_of {read : Reader α} (h : ∀ v, ∃ x, ∀ w, Spaced (Source.tokens v) w → ReadsTo read w x) :
    ByTokens read := by
  intro v w spaced
  obtain ⟨x, told⟩ := h v
  have same : keeps read v = x := (told _ (.flatten _)).alone
  rw [same]
  exact told w spaced

def Leads : Source → UInt8 → Prop
  | .null, c => c = 110
  | .bool true, c => c = 116
  | .bool false, c => c = 102
  | .number _ _, c => c = 45 ∨ isDigit c
  | .text _, c => c = 34
  | .list _, c => c = 91
  | .object _, c => c = 123

theorem tokens_leads (v : Source) : ∃ c s ts, v.tokens = (c :: s) :: ts ∧ isSpace c = false ∧ Leads v c := by
  cases v with
  | null => exact ⟨_, _, _, rfl, rfl, rfl⟩
  | bool b => cases b <;> exact ⟨_, _, _, rfl, rfl, rfl⟩
  | text q => exact ⟨_, _, _, rfl, rfl, rfl⟩
  | list items => exact ⟨_, _, _, rfl, rfl, rfl⟩
  | object ms => exact ⟨_, _, _, rfl, rfl, rfl⟩
  | number t valid =>
    rw [Source.tokens, NumberText.chars]
    cases t.negative with
    | true =>
      rw [if_pos rfl, List.singleton_append, ofChars_ascii (by decide)]
      exact ⟨_, _, _, rfl, rfl, Or.inl rfl⟩
    | false =>
      obtain ⟨c, s, first, digit⟩ := NumberText.unsignedChars_first valid
      obtain ⟨space, -⟩ := isDigit_cases digit
      rw [if_neg Bool.false_ne_true, List.nil_append, first]
      exact ⟨_, _, _, rfl, space, Or.inr digit⟩

section leads
variable {v : Source} {c : UInt8}

theorem Leads.null (h : Leads v 110) : v = .null := by
  cases v with
  | null => rfl
  | bool b => cases b <;> simp [Leads] at h
  | number | text | list | object => simp [Leads, isDigit] at h

theorem Leads.bool (h : Leads v c) (word : c = 116 ∨ c = 102) : ∃ b, v = .bool b := by
  cases v with
  | bool b => exact ⟨b, rfl⟩
  | null | number | text | list | object => obtain rfl | rfl := word <;> simp [Leads, isDigit] at h

theorem Leads.number (h : Leads v c) (sign : c = 45 ∨ isDigit c) : ∃ t valid, v = .number t valid := by
  cases v with
  | number t valid => exact ⟨t, valid, rfl⟩
  | bool b =>
    cases b <;>
    · cases h
      simp [isDigit] at sign
  | null | text | list | object =>
    cases h
    simp [isDigit] at sign

theorem Leads.text (h : Leads v 34) : ∃ q, v = .text q := by
  cases v with
  | text q => exact ⟨q, rfl⟩
  | bool b => cases b <;> simp [Leads] at h
  | null | number | list | object => simp [Leads, isDigit] at h

end leads

theorem peek_spaced {v : Source} {w : Bytes} (spaced : Spaced v.tokens w) :
    ∃ c s, Leads v c ∧ ∀ r, peek (w ++ r) = .ok (c, s ++ r) := by
  obtain ⟨c, s, ts, first, space, leads⟩ := tokens_leads v
  rw [first] at spaced
  obtain ⟨b, u, blank, -, rfl⟩ := Spaced.cons_iff.mp spaced
  refine ⟨c, s ++ u, leads, fun r => ?_⟩
  rw [peek, List.append_assoc, skipSpace_blank blank]
  simp [skipSpace, space]

theorem peek_token {c : UInt8} {s w : Bytes} (spaced : Spaced [c :: s] w) (space : isSpace c = false) (r : Bytes) :
    peek (w ++ r) = .ok (c, s ++ r) := by
  obtain ⟨b, _, blank, ⟨⟩, rfl⟩ := Spaced.cons_iff.mp spaced
  rw [peek, List.append_nil, List.append_assoc, skipSpace_blank blank]
  simp [skipSpace, space]

theorem wrongType_toOption (expected : String) (s : Bytes) :
    (wrongType expected s : Except Stop (α × Bytes)).toOption = none := by
  rw [Option.eq_none_iff_forall_ne_some]
  intro p found
  exact wrongType_ne_ok (toOption_eq_some.mp found)

theorem byTokens_string : ByTokens string := by
  refine byTokens_of fun v => ?_
  by_cases text : ∃ q, v = .text q
  · obtain ⟨q, rfl⟩ := text
    refine ⟨q.stored, fun w spaced r _ => ?_⟩
    rw [← q.reads, string, peek_token spaced rfl, List.append_assoc]
    rfl
  · refine ⟨none, fun w spaced r _ => ?_⟩
    obtain ⟨c, s, leads, first⟩ := peek_spaced spaced
    have other : c ≠ 34 := by
      rintro rfl
      exact text leads.text
    simp only [string, first, bind, Except.bind, if_neg other, wrongType_toOption, Option.map_none]

theorem byTokens_boolean : ByTokens boolean := by
  refine byTokens_of fun v => ?_
  by_cases word : ∃ b, v = .bool b
  · obtain ⟨b, rfl⟩ := word
    refine ⟨some b, fun w spaced r _ => ?_⟩
    cases b with
    | true =>
      rw [boolean, peek_token spaced rfl]
      rfl
    | false =>
      rw [boolean, peek_token spaced rfl]
      rfl
  · refine ⟨none, fun w spaced r _ => ?_⟩
    obtain ⟨c, s, leads, first⟩ := peek_spaced spaced
    have yes : c ≠ 116 := fun e => word (leads.bool (Or.inl e))
    have no : c ≠ 102 := fun e => word (leads.bool (Or.inr e))
    simp only [boolean, first, bind, Except.bind, if_neg yes, if_neg no, wrongType_toOption, Option.map_none]

def withinBounds (low high : Int) : JsonNumber → Option Int
  | .integer n => if low ≤ n ∧ n ≤ high then some n else none
  | .float _ => none

theorem byTokens_integer (low high : Int) (expected : String) : ByTokens (integer low high expected) := by
  refine byTokens_of fun v => ?_
  by_cases number : ∃ t valid, v = .number t valid
  · obtain ⟨t, valid, rfl⟩ := number
    refine ⟨t.stored.bind (withinBounds low high), fun w spaced r follows => ?_⟩
    have read := (settles_number valid (!t.negative)).readsTo r follows
    have signed : integer low high expected (w ++ r) =
        Read.number (!t.negative) (ofChars t.unsignedChars ++ r) >>= fun p =>
          match p.1 with
          | .integer n =>
            if low ≤ n ∧ n ≤ high then .ok (n, p.2) else reject (.value (.integer n) expected) p.2
          | .float x => reject (.type (.float x) expected) p.2 := by
      rw [Source.tokens, NumberText.chars] at spaced
      cases negative : t.negative with
      | true =>
        rw [if_pos negative, List.singleton_append, ofChars_ascii (by decide)] at spaced
        rw [integer, peek_token spaced rfl]
        rfl
      | false =>
        obtain ⟨c, s, first, digit⟩ := NumberText.unsignedChars_first valid
        obtain ⟨space, -, -, -, -, sign⟩ := isDigit_cases digit
        rw [negative, if_neg Bool.false_ne_true, List.nil_append, first] at spaced
        rw [integer, peek_token spaced space, first]
        simp only [bind, Except.bind, digit, or_true, if_true, sign, if_false]
        rfl
    rw [signed, toOption_bind, read, NumberText.stored]
    cases Except.toOption (Read.number (!t.negative) (ofChars t.unsignedChars)) with
    | none => rfl
    | some p =>
      obtain ⟨n, u⟩ := p
      cases n with
      | float x => rfl
      | integer n =>
        simp only [Option.map_some, Option.bind_some, withinBounds]
        split <;> rfl
  · refine ⟨none, fun w spaced r _ => ?_⟩
    obtain ⟨c, s, leads, first⟩ := peek_spaced spaced
    have other : ¬ (c = 45 ∨ isDigit c) := fun e => number (leads.number e)
    simp only [integer, first, bind, Except.bind, if_neg other, wrongType_toOption, Option.map_none]

theorem ByTokens.map {read : Reader α} (h : ByTokens read) (f : α → β) :
    ByTokens fun s => read s >>= fun p => .ok (f p.1, p.2) := by
  refine byTokens_of fun v => ⟨(keeps read v).map f, fun w spaced r follows => ?_⟩
  rw [toOption_bind, h v w spaced r follows]
  cases keeps read v <;> rfl

theorem byTokens_count : ByTokens count := (byTokens_integer 0 maxCount "u64").map fun n => UInt64.ofNat n.toNat

/-- Where null stands for no value, all others are read as they are. -/
theorem ByTokens.optional {read : Reader α} (h : ByTokens read) : ByTokens (optional read) := by
  refine byTokens_of fun v => ?_
  by_cases null : v = .null
  · subst null
    refine ⟨some none, fun w spaced r _ => ?_⟩
    obtain ⟨b, _, blank, ⟨⟩, rfl⟩ := Spaced.cons_iff.mp spaced
    rw [Read.optional, List.append_assoc, skipSpace_blank blank]
    rfl
  · refine ⟨(keeps read v).map some, fun w spaced r follows => ?_⟩
    obtain ⟨c, s, ts, first, space, leads⟩ := tokens_leads v
    rw [first] at spaced
    obtain ⟨b, u, blank, rest, rfl⟩ := Spaced.cons_iff.mp spaced
    have alone : Spaced v.tokens (c :: s ++ u) := first ▸ .cons blank_nil rest
    have inner := h v _ alone r follows
    have other : c ≠ 110 := by
      rintro rfl
      exact null leads.null
    have self : skipSpace (b ++ (c :: s ++ u) ++ r) = c :: (s ++ (u ++ r)) := by
      rw [List.append_assoc, skipSpace_blank blank]
      simp [skipSpace, space]
    simp only [List.cons_append, List.append_assoc] at inner self ⊢
    unfold Read.optional
    rw [self]
    split
    · rename_i e
      exact absurd (List.cons.inj e).1 other
    · rw [toOption_bind, inner]
      cases keeps read v <;> rfl

section record
variable {F : Shape} (read : (s : F.Slot) → Reader (F.Value s))

def keptMembers : F.View (QuotedText × Source) where
  name p := p.1.stored
  value s p := keeps (read s) p.2

variable {read} {ms : List (QuotedText × Source)} (byTokens : ∀ s, ByTokens (read s))
include byTokens

theorem recordMembers_spaced (r : Bytes) : ∀ first d s fuel, Spaced (Source.membersTokens first ms) s →
    s.length < fuel → (recordMembers F read fuel first d (s ++ r)).toOption =
      (ms.foldlM (keptMembers read).take d).map fun d => (d, 125 :: r) := by
  induction ms with
  | nil =>
    intro first d s fuel spaced room
    obtain ⟨fuel, rfl⟩ := Nat.exists_eq_add_one.mpr (Nat.zero_lt_of_lt room)
    obtain ⟨b, _, blank, ⟨⟩, rfl⟩ := Spaced.cons_iff.mp spaced
    rw [List.append_nil, List.append_assoc, List.singleton_append, recordMembers, nextName_blank blank,
      nextName_close]
    rfl
  | cons p ms ih =>
    obtain ⟨q, v⟩ := p
    intro first d s fuel spaced room
    obtain ⟨fuel, rfl⟩ := Nat.exists_eq_add_one.mpr (Nat.zero_lt_of_lt room)
    obtain ⟨after, w, s', item, behind, shorter, next, colon'⟩ := Source.member_step spaced r
    have follows := Source.follows_members behind r
    have rest (d : F.Draft) := ih false d s' fuel behind (by omega)
    rw [recordMembers, toOption_bind, next, List.foldlM_cons]
    cases named : q.stored with
    | none =>
      have name : (keptMembers read).name (q, v) = none := named
      rw [Shape.View.take_unnamed name]
      rfl
    | some n =>
      have name : (keptMembers read).name (q, v) = some n := named
      simp only [Option.map_some, Option.bind_some]
      cases slot : F.slot? n with
      | none =>
        rw [Shape.View.take_other name slot, colon']
        simp only [skip_spaced item follows, bind, Except.bind]
        exact rest d
      | some t =>
        rw [Shape.View.take_slot name slot]
        dsimp only
        split
        · rfl
        · have value := byTokens t v w item (s' ++ r) follows
          rw [colon']
          change (read t (w ++ (s' ++ r)) >>= fun p =>
            recordMembers F read fuel false (d.set t p.1) p.2).toOption = _
          have kept : (keptMembers read).value t (q, v) = keeps (read t) v := rfl
          rw [toOption_bind, value, kept]
          cases keeps (read t) v with
          | none => rfl
          | some x => exact rest (d.set t x)

end record

theorem record_spaced {F : Shape} {read : (s : F.Slot) → Nat → Reader (F.Value s)} {n : Nat}
    (byTokens : ∀ s, ByTokens (read s n)) {ms : List (QuotedText × Source)} {w : Bytes}
    (spaced : Spaced (Source.object ms).tokens w) :
    ReadsTo (record F read (n + 1)) w ((keptMembers fun s => read s n).filled ms) := by
  intro r _
  obtain ⟨b, s, blank, inside, rfl⟩ := Spaced.cons_iff.mp spaced
  have opened : peek (b ++ ([123] ++ s) ++ r) = .ok (123, s ++ r) := by
    rw [peek, List.append_assoc, skipSpace_blank blank]
    rfl
  have members := recordMembers_spaced byTokens r true (Shape.Draft.empty F) s ((s ++ r).length + 1) inside
    (by simp only [List.length_append]; omega)
  have step : record F read (n + 1) (b ++ ([123] ++ s) ++ r) =
      recordMembers F (fun slot => read slot n) ((s ++ r).length + 1) true (Shape.Draft.empty F) (s ++ r) >>=
        fun p => fill F p.1 (leftAfterObject p.2) >>= fun f => .ok (f, leftAfterObject p.2) := by
    rw [record, opened]
    rfl
  rw [step, toOption_bind, members, Shape.View.filled]
  cases ms.foldlM (keptMembers fun s => read s n).take (Shape.Draft.empty F) with
  | none => rfl
  | some d =>
    have left : leftAfterObject (125 :: r) = r := rfl
    rw [Option.map_some, Option.bind_some, Option.bind_some, toOption_bind, left, fill]
    cases d.fill <;> rfl

end RequestAuth.Json.Read
