import RequestAuth.Pem
import RequestAuth.Proofs.Base64

/-! Armoured octets as a grammar of lines. The reader takes the texts of the grammar, and nothing else. -/

namespace RequestAuth.Pem
variable {s r symbols body : Bytes}

inductive Eol : Bytes → Prop
  | lf : Eol [10]
  | crlf : Eol [13, 10]
  | cr : Eol [13]

def MayEnd (e : Bytes) : Prop := e = [] ∨ Eol e

theorem of_dropEol (h : dropEol s = some r) : ∃ e, Eol e ∧ s = e ++ r := by
  unfold dropEol at h
  split at h
  · cases h
    exact ⟨_, .crlf, rfl⟩
  · cases h
    exact ⟨_, .cr, rfl⟩
  · cases h
    exact ⟨_, .lf, rfl⟩
  · cases h

/-- A LF after a CR belongs to the line end. -/
theorem dropEol_append {e : Bytes} (h : Eol e) (apart : ¬ (e = [13] ∧ r.head? = some 10)) :
    dropEol (e ++ r) = some r := by
  cases h with
  | lf => rfl
  | crlf => rfl
  | cr =>
    cases r with
    | nil => rfl
    | cons b t =>
      have other : b ≠ 10 := by simpa using apart
      simp [dropEol, other]

theorem of_trimEol (h : trimEol s = some r) : ∃ e, Eol e ∧ s = r ++ e := by
  unfold trimEol at h
  split at h
  · rename_i t reversed
    cases h
    exact ⟨_, .crlf, by rw [← List.reverse_reverse s, reversed]; simp⟩
  · rename_i t _ reversed
    cases h
    exact ⟨_, .lf, by rw [← List.reverse_reverse s, reversed]; simp⟩
  · rename_i t reversed
    cases h
    exact ⟨_, .cr, by rw [← List.reverse_reverse s, reversed]; simp⟩
  · cases h

theorem trimEol_append {e : Bytes} (h : Eol e) (apart : ¬ (e = [10] ∧ r.getLast? = some 13)) :
    trimEol (r ++ e) = some r := by
  cases h with
  | lf =>
    have back : r = r.reverse.reverse := (List.reverse_reverse r).symm
    rw [← List.head?_reverse] at apart
    rw [trimEol, List.reverse_append]
    cases reversed : r.reverse with
    | nil => rw [back, reversed]; rfl
    | cons b t =>
      have other : b ≠ 13 := by simpa [reversed] using apart
      rw [back, reversed]
      simp [other]
  | crlf => simp [trimEol]
  | cr => simp [trimEol]

theorem trimEol_eq_none (lf : s.getLast? ≠ some 10) (cr : s.getLast? ≠ some 13) : trimEol s = none := by
  rw [← List.head?_reverse] at lf cr
  unfold trimEol
  split
  · rename_i reversed
    simp [reversed] at lf
  · rename_i reversed
    simp [reversed] at lf
  · rename_i reversed
    simp [reversed] at cr
  · rfl

theorem of_trimEol_getD (h : (trimEol s).getD s = r) : ∃ e, MayEnd e ∧ s = r ++ e := by
  cases trimmed : trimEol s with
  | none =>
    rw [trimmed] at h
    exact ⟨[], .inl rfl, by rw [List.append_nil]; exact h⟩
  | some t =>
    rw [trimmed] at h
    obtain ⟨e, eol, same⟩ := of_trimEol trimmed
    exact ⟨e, .inr eol, by rw [same]; exact congrArg (· ++ e) h⟩

theorem trimEol_getD {e : Bytes} (h : MayEnd e) (lf : r.getLast? ≠ some 10) (cr : r.getLast? ≠ some 13) :
    (trimEol (r ++ e)).getD (r ++ e) = r := by
  cases h with
  | inl nothing =>
    rw [nothing, List.append_nil, trimEol_eq_none lf cr]
    rfl
  | inr eol =>
    rw [trimEol_append eol (fun h => cr h.2)]
    rfl

/-- Lines of 64 symbols, and a last one that may be shorter and may end. -/
inductive Lines : Bytes → Bytes → Prop
  | last {l e : Bytes} (short : l.length ≤ 64) (ends : MayEnd e) : Lines l (l ++ e)
  | full {l e symbols body : Bytes} (size : l.length = 64) (ends : Eol e) (more : Lines symbols body) :
      Lines (l ++ symbols) (l ++ (e ++ body))

structure Grouped (symbols : Bytes) : Prop where
  plain : ∀ c ∈ symbols, c ∉ [10, 13, 45]
  groups : symbols.length % 4 = 0

theorem of_joinLines {fuel : Nat} (h : joinLines fuel s = some symbols) : Lines symbols s := by
  induction fuel generalizing s symbols with
  | zero => cases h
  | succ fuel ih =>
    rw [joinLines] at h
    split at h
    · rename_i short
      obtain ⟨e, ends, same⟩ := of_trimEol_getD (Option.some.inj h)
      subst same
      refine .last ?_ ends
      rw [List.length_append] at short
      omega
    · rename_i long
      simp only [bind, Option.bind_eq_some_iff, pure, Option.some.injEq] at h
      obtain ⟨t, dropped, rest, joined, rfl⟩ := h
      obtain ⟨e, ends, back⟩ := of_dropEol dropped
      have size : (s.take 64).length = 64 := List.length_take_of_le (by omega)
      have lines := Lines.full size ends (ih joined)
      rwa [← back, List.take_append_drop] at lines

namespace Grouped

theorem right {l : Bytes} (h : Grouped (l ++ symbols)) (size : l.length = 64) : Grouped symbols := by
  refine ⟨fun c hc => h.plain c (List.mem_append_right _ hc), ?_⟩
  have groups := h.groups
  rw [List.length_append] at groups
  omega

theorem head?_ne (h : Grouped symbols) : symbols.head? ≠ some 10 := by
  intro first
  exact h.plain 10 (List.mem_of_head? first) (by decide)

theorem getLast?_lf (h : Grouped symbols) : symbols.getLast? ≠ some 10 := by
  intro last
  exact h.plain 10 (List.mem_of_getLast? last) (by decide)

theorem getLast?_cr (h : Grouped symbols) : symbols.getLast? ≠ some 13 := by
  intro last
  exact h.plain 13 (List.mem_of_getLast? last) (by decide)

end Grouped

theorem joinLines_nil {fuel : Nat} (h : 0 < fuel) : joinLines fuel [] = some [] := by
  cases fuel with
  | zero => omega
  | succ fuel => rfl

theorem Eol.pos {e : Bytes} (h : Eol e) : 0 < e.length := by
  cases h <;> simp

theorem Eol.length_le {e : Bytes} (h : Eol e) : e.length ≤ 2 := by
  cases h <;> simp

/-- Only an empty last line begins with a LF. -/
theorem Lines.of_lf (h : Lines symbols body) (grouped : Grouped symbols) (first : body.head? = some 10) :
    symbols = [] ∧ body = [10] := by
  cases h with
  | @last _ e short ends =>
    cases symbols with
    | nil =>
      obtain rfl | eol := ends
      · cases first
      · cases eol with
        | lf => exact ⟨rfl, rfl⟩
        | crlf => cases first
        | cr => cases first
    | cons c l => exact absurd first grouped.head?_ne
  | @full l e symbols body size ends more =>
    cases l with
    | nil => cases size
    | cons c l => exact absurd first grouped.head?_ne

theorem joinLines_of_lines {fuel : Nat} (h : Lines symbols s) (grouped : Grouped symbols)
    (enough : s.length < fuel) : joinLines fuel s = some symbols := by
  induction h generalizing fuel with
  | @last l e short ends =>
    obtain _ | fuel := fuel
    · omega
    rw [joinLines]
    by_cases single : (l ++ e).length ≤ 64
    · rw [if_pos single, trimEol_getD ends grouped.getLast?_lf grouped.getLast?_cr]
    · -- In groups of four, a last line with its line end is longer than 64 octets only if it is full.
      rw [if_neg single]
      rw [List.length_append] at single enough
      obtain rfl | eol := ends
      · simp at single
        omega
      · have size : l.length = 64 := by
          have most := eol.length_le
          have groups := grouped.groups
          omega
        have dropped : dropEol e = some [] := by
          have alone := dropEol_append (r := []) eol (by simp)
          rwa [List.append_nil] at alone
        rw [List.drop_left' size, List.take_left' size, dropped]
        simp [@joinLines_nil fuel (by omega)]
  | @full l e symbols body size ends more ih =>
    obtain _ | fuel := fuel
    · omega
    have pos := ends.pos
    have long : ¬ (l ++ (e ++ body)).length ≤ 64 := by
      simp only [List.length_append]
      omega
    rw [joinLines, if_neg long, List.drop_left' size, List.take_left' size]
    simp only [List.length_append] at enough
    have rest := grouped.right size
    -- A CR is read together with a LF behind it, and that LF was the whole of an empty last line.
    by_cases apart : e = [13] ∧ body.head? = some 10
    · obtain ⟨rfl, first⟩ := apart
      obtain ⟨rfl, rfl⟩ := more.of_lf rest first
      have dropped : dropEol ([13] ++ [10]) = some [] := rfl
      rw [dropped]
      simp [@joinLines_nil fuel (by omega)]
    · have joined : joinLines fuel body = some symbols := ih rest (by omega)
      rw [dropEol_append ends apart]
      simp [joined]

theorem Lines.of_nil (h : Lines symbols body) (empty : body = []) : symbols = [] := by
  cases h with
  | last => exact (List.append_eq_nil_iff.mp empty).1
  | full size =>
    obtain rfl := (List.append_eq_nil_iff.mp empty).1
    cases size

theorem Lines.of_cr (h : Lines symbols body) (grouped : Grouped symbols) {b : Bytes} (last : body = b ++ [13]) :
    Lines symbols b := by
  induction h generalizing b with
  | @last l e short ends =>
    have final : (l ++ e).getLast? = some 13 := by rw [last]; simp
    obtain rfl | eol := ends
    · rw [List.append_nil] at final
      exact absurd final grouped.getLast?_cr
    · cases eol with
      | lf => simp at final
      | crlf => simp at final
      | cr =>
        obtain rfl := List.append_cancel_right last
        have alone := Lines.last short (.inl rfl : MayEnd [])
        rwa [List.append_nil] at alone
  | @full l e symbols body size ends more ih =>
    cases List.eq_nil_or_concat body with
    | inl empty =>
      obtain rfl := more.of_nil empty
      rw [empty, List.append_nil] at last
      rw [List.append_nil] at grouped ⊢
      have final : (l ++ e).getLast? = some 13 := by rw [last]; simp
      cases ends with
      | lf => simp at final
      | crlf => simp at final
      | cr =>
        obtain rfl := List.append_cancel_right last
        have alone := Lines.last (Nat.le_of_eq size) (.inl rfl : MayEnd [])
        rwa [List.append_nil] at alone
    | inr split =>
      obtain ⟨front, c, rfl⟩ := split
      have parts : (l ++ (e ++ front)) ++ [c] = b ++ [13] := by rw [← last]; simp
      obtain ⟨rfl, same⟩ := List.append_inj' parts rfl
      cases same
      exact .full size ends (ih (grouped.right size) (List.concat_eq_append ..))

def start : Bytes := Bytes.ofText "-----BEGIN "

/-- Whole lines without NUL, none of which begins as an armour does. -/
inductive Preamble : Bytes → Prop
  | nil : Preamble []
  | line {l rest : Bytes} (plain : 0 ∉ l ∧ lf ∉ l) (other : ¬ start <+: l) (more : Preamble rest) :
      Preamble (l ++ lf :: rest)

theorem start_eq : start = [45, 45, 45, 45, 45, 66, 69, 71, 73, 78, 32] := by decide +kernel

theorem lf_notMem_start : lf ∉ start := by
  rw [start_eq]
  decide

theorem prefix_line {front l : Bytes} (h : lf ∉ front) : front <+: l ++ lf :: r ↔ front <+: l := by
  induction front generalizing l with
  | nil => simp
  | cons c front ih =>
    cases l with
    | nil =>
      have other : c ≠ lf := fun same => h (same ▸ List.mem_cons_self)
      simp [other]
    | cons d l =>
      rw [List.cons_append, List.cons_prefix_cons, List.cons_prefix_cons,
        ih (fun inside => h (List.mem_cons_of_mem _ inside))]

theorem search_line {l : Bytes} (plain : 0 ∉ l ∧ lf ∉ l) :
    dropPreamble.search start (l ++ lf :: r) =
      if start <+: r then some r else dropPreamble.search start r := by
  induction l with
  | nil =>
    rw [List.nil_append, dropPreamble.search, if_neg (by decide)]
    simp
  | cons c l ih =>
    have rest : 0 ∉ l ∧ lf ∉ l := by
      exact ⟨fun h => plain.1 (List.mem_cons_of_mem _ h), fun h => plain.2 (List.mem_cons_of_mem _ h)⟩
    have notNul : c ≠ 0 := fun same => plain.1 (same ▸ List.mem_cons_self)
    have notLf : c ≠ lf := fun same => plain.2 (same ▸ List.mem_cons_self)
    rw [List.cons_append, dropPreamble.search, if_neg notNul, if_neg (by simp [notLf]), ih rest]

theorem search_preamble {l pre t : Bytes} (plain : 0 ∉ l ∧ lf ∉ l) (h : Preamble pre) (found : start <+: t) :
    dropPreamble.search start (l ++ lf :: (pre ++ t)) = some t := by
  induction h generalizing l with
  | nil => rw [search_line plain, List.nil_append, if_pos found]
  | @line first rest plainFirst other more ih =>
    have later : ¬ start <+: first ++ lf :: (rest ++ t) := by rwa [prefix_line lf_notMem_start]
    rw [search_line plain, List.append_assoc, List.cons_append, if_neg later]
    exact ih plainFirst

/-- Induction on the text: the search stands inside of a line, of which `l` is the rest. -/
theorem of_search {t : Bytes} (h : dropPreamble.search start s = some t) :
    ∃ l pre, (0 ∉ l ∧ lf ∉ l) ∧ Preamble pre ∧ start <+: t ∧ s = l ++ lf :: (pre ++ t) := by
  induction s with
  | nil => cases h
  | cons c s ih =>
    rw [dropPreamble.search] at h
    split at h
    · cases h
    rename_i notNul
    split at h
    · rename_i found
      cases h
      exact ⟨[], [], by simp, .nil, List.isPrefixOf_iff_prefix.mp found.2, by rw [found.1]; rfl⟩
    · rename_i notFound
      obtain ⟨l, pre, plain, preamble, begins, rfl⟩ := ih h
      by_cases line : c = lf
      · have other : ¬ start <+: l := by
          rw [← prefix_line lf_notMem_start, ← List.isPrefixOf_iff_prefix]
          exact fun first => notFound ⟨line, first⟩
        exact ⟨[], l ++ lf :: pre, by simp, .line plain other preamble, begins, by simp [line]⟩
      · refine ⟨c :: l, pre, ?_, preamble, begins, rfl⟩
        constructor
        · simpa using ⟨Ne.symm notNul, plain.1⟩
        · simpa using ⟨Ne.symm line, plain.2⟩

theorem dropPreamble_eq_some {t : Bytes} : dropPreamble s = some t ↔
    ∃ pre, Preamble pre ∧ start <+: t ∧ s = pre ++ t := by
  change (if start.isPrefixOf s then some s else dropPreamble.search start s) = some t ↔ _
  simp only [List.isPrefixOf_iff_prefix]
  constructor
  · intro h
    split at h
    · rename_i begins
      cases h
      exact ⟨[], .nil, begins, rfl⟩
    · rename_i notFirst
      obtain ⟨l, pre, plain, preamble, begins, rfl⟩ := of_search h
      have other : ¬ start <+: l := by rwa [← prefix_line lf_notMem_start]
      exact ⟨l ++ lf :: pre, .line plain other preamble, begins, by simp⟩
  · intro h
    obtain ⟨pre, preamble, begins, rfl⟩ := h
    cases preamble with
    | nil => rw [List.nil_append, if_pos begins]
    | @line l rest plain other more =>
      have later : ¬ start <+: l ++ lf :: (rest ++ t) := by rwa [prefix_line lf_notMem_start]
      rw [List.append_assoc, List.cons_append, if_neg later]
      exact search_preamble plain more begins

/-- Octets between a first line and an end line of the same label. -/
inductive Strict (label b : Bytes) : Bytes → Prop
  | mk {first body last after : Bytes} (begins : Eol first) (lines : Lines (Base64.encode .standard b) body)
      (ends : Eol last) (mayEnd : MayEnd after) :
      Strict label b (beginLine label ++ (first ++ (body ++ (last ++ (endLine label ++ after)))))

/-- The same with lines of any text before it. -/
inductive Armoured (label b : Bytes) : Bytes → Prop
  | mk {pre text : Bytes} (preamble : Preamble pre) (strict : Strict label b text) : Armoured label b (pre ++ text)

theorem Strict.armoured {label b : Bytes} (h : Strict label b s) : Armoured label b s := .mk .nil h

theorem stripLeft_eq_some {front : Bytes} : stripLeft front s = some r ↔ s = front ++ r := by
  rw [stripLeft]
  constructor
  · intro h
    split at h
    · rename_i begins
      cases h
      exact (List.prefix_iff_eq_append.mp (List.isPrefixOf_iff_prefix.mp begins)).symm
    · cases h
  · rintro rfl
    simp

theorem stripRight_eq_some {back : Bytes} : stripRight back s = some r ↔ s = r ++ back := by
  rw [stripRight]
  constructor
  · intro h
    split at h
    · rename_i ends
      cases h
      exact (List.suffix_iff_eq_append.mp (List.isSuffixOf_iff_suffix.mp ends)).symm
    · cases h
  · rintro rfl
    simp

theorem grouped_encode (b : Bytes) : Grouped (Base64.encode .standard b) :=
  ⟨fun _ h => Base64.standard_plain h, Base64.length_standard_mod b⟩

theorem beginLine_begins (label : Bytes) : start <+: beginLine label := by
  rw [beginLine, List.append_assoc]
  exact List.prefix_append _ _

theorem of_decode? {label b : Bytes} (h : decode? label s = some b) : Armoured label b s := by
  simp only [decode?, bind, Option.bind_eq_some_iff] at h
  obtain ⟨t, found, u, begun, v, lineEnd, w, ended, x, trimmed, symbols, joined, decoded⟩ := h
  obtain ⟨pre, preamble, -, rfl⟩ := dropPreamble_eq_some.mp found
  obtain rfl := stripLeft_eq_some.mp begun
  obtain ⟨first, begins, rfl⟩ := of_dropEol lineEnd
  obtain ⟨after, mayEnd, rfl⟩ := of_trimEol_getD (stripRight_eq_some.mp ended)
  obtain ⟨last, ends, rfl⟩ := of_trimEol trimmed
  obtain rfl := Base64.decode_eq_ok.mp (toOption_eq_some.mp decoded)
  have whole : Armoured label b _ := .mk preamble (.mk begins (of_joinLines joined) ends mayEnd)
  simpa using whole

theorem Lines.trimmed {e : Bytes} (h : Lines symbols body) (grouped : Grouped symbols) (ends : Eol e) :
    ∃ lines, trimEol (body ++ e) = some lines ∧ Lines symbols lines := by
  by_cases apart : e = [10] ∧ body.getLast? = some 13
  · obtain ⟨rfl, last⟩ := apart
    obtain ⟨front, rfl⟩ := List.getLast?_eq_some_iff.mp last
    refine ⟨front, ?_, h.of_cr grouped rfl⟩
    rw [List.append_assoc]
    exact trimEol_append .crlf (by simp)
  · exact ⟨body, trimEol_append ends apart, h⟩

theorem Lines.first {tail : Bytes} (h : Lines symbols body) (grouped : Grouped symbols) (some : symbols ≠ []) :
    (body ++ tail).head? ≠ Option.some 10 := by
  cases body with
  | nil => exact absurd (h.of_nil rfl) some
  | cons c body =>
    intro first
    exact some (h.of_lf grouped first).1

theorem endLine_last (label : Bytes) : (endLine label).getLast? = some 45 := by
  have last : dashes.getLast? = some 45 := by decide +kernel
  rw [endLine, List.getLast?_append, last]
  rfl

theorem decode?_of_armoured {label b : Bytes} (h : Armoured label b s) (some : b ≠ []) :
    decode? label s = Option.some b := by
  obtain @⟨pre, _, preamble, @⟨first, body, last, after, begins, lines, ends, mayEnd⟩⟩ := h
  have grouped := grouped_encode b
  have symbols : Base64.encode .standard b ≠ [] := fun nothing => some (Base64.encode_eq_nil nothing)
  have found : dropPreamble (pre ++ (beginLine label ++ (first ++ (body ++ (last ++ (endLine label ++ after)))))) =
      Option.some (beginLine label ++ (first ++ (body ++ (last ++ (endLine label ++ after))))) :=
    dropPreamble_eq_some.mpr ⟨pre, preamble, (beginLine_begins label).trans (List.prefix_append _ _), rfl⟩
  have lineEnd : dropEol (first ++ (body ++ (last ++ (endLine label ++ after)))) =
      Option.some (body ++ (last ++ (endLine label ++ after))) :=
    dropEol_append begins (fun h => lines.first grouped symbols h.2)
  have final : ((body ++ last) ++ endLine label).getLast? = Option.some 45 := by
    rw [List.getLast?_append, endLine_last]
    rfl
  have text : body ++ (last ++ (endLine label ++ after)) = ((body ++ last) ++ endLine label) ++ after := by simp
  have trimmed := trimEol_getD mayEnd (by rw [final]; simp) (by rw [final]; simp)
  rw [← text] at trimmed
  obtain ⟨block, cut, blockLines⟩ := lines.trimmed grouped ends
  have joined := joinLines_of_lines blockLines grouped (Nat.lt_succ_self _)
  simp only [decode?, bind, Option.bind_eq_some_iff]
  exact ⟨_, found, _, stripLeft_eq_some.mpr rfl, _, lineEnd, _, stripRight_eq_some.mpr trimmed, block, cut, _,
    joined, toOption_eq_some.mpr (Base64.decode_encode _ b)⟩

/-- The reader takes the texts that armour octets, and nothing else. -/
theorem decode?_eq_some {label b : Bytes} (some : b ≠ []) :
    decode? label s = Option.some b ↔ Armoured label b s := by
  constructor
  · exact of_decode?
  · intro h
    exact decode?_of_armoured h some

end RequestAuth.Pem
