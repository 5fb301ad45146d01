import RequestAuth.Proofs.Ensures
import RequestAuth.Proofs.Text.Utf8
import RequestAuth.Proofs.Url.Authority
import RequestAuth.Url.Parse

/-! Hosts and paths of the URLs that are read from texts. -/

namespace RequestAuth

namespace Url

theorem IsHost.of_notMem {h : String} (slash : '/' ∉ h.toList) (colon : ':' ∉ h.toList) :
    IsHost h where
  slash := slash
  colon := by
    intro a b e
    rw [e] at colon
    exact absurd (List.mem_append_right a List.mem_cons_self) colon

theorem IsHost.brackets {body : String} (slash : '/' ∉ body.toList) : IsHost ("[" ++ body ++ "]") := by
  have chars : ("[" ++ body ++ "]").toList = '[' :: (body.toList ++ [']']) := by
    simp [String.toList_append]
  constructor
  · rw [chars]
    simpa using slash
  · intro a b e
    rw [chars] at e
    constructor
    · cases a with
      | nil => cases (List.cons.inj e).1
      | cons c a =>
        obtain ⟨first, -⟩ := List.cons.inj e
        exact List.mem_cons.mpr (Or.inl first)
    · have reversed : ']' :: (body.toList.reverse ++ ['[']) = b.reverse ++ ':' :: a.reverse := by
        simpa using congrArg List.reverse e
      rw [← List.mem_reverse]
      cases back : b.reverse with
      | nil =>
        rw [back] at reversed
        cases (List.cons.inj reversed).1
      | cons c r =>
        rw [back] at reversed
        obtain ⟨last, -⟩ := List.cons.inj reversed
        exact List.mem_cons.mpr (Or.inl last)

end Url

namespace Host
open Url

theorem digitChar_ne_slash : ∀ n, Nat.digitChar n ≠ '/'
  | 0 | 1 | 2 | 3 | 4 | 5 | 6 | 7 | 8 | 9 | 10 | 11 | 12 | 13 | 14 | 15 | _ + 16 => by
    simp [Nat.digitChar]

theorem slash_notMem_toDigits (b n : Nat) : '/' ∉ Nat.toDigits b n := by
  have core (fuel : Nat) : ∀ n ds, '/' ∉ ds → '/' ∉ Nat.toDigitsCore b fuel n ds := by
    induction fuel with
    | zero =>
      intro n ds h
      exact h
    | succ fuel ih =>
      intro n ds h
      have longer : '/' ∉ Nat.digitChar (n % b) :: ds := by
        simp [h, (digitChar_ne_slash (n % b)).symm]
      rw [Nat.toDigitsCore]
      split
      · exact longer
      · exact ih _ _ longer
  exact core _ _ _ (by simp)

theorem notMem_intercalate {c : Char} {s : String} {ts : List String} (hs : c ∉ s.toList)
    (ht : ∀ t ∈ ts, c ∉ t.toList) : c ∉ (s.intercalate ts).toList := by
  induction ts with
  | nil => simp
  | cons t ts ih =>
    have first := ht t (by simp)
    have rest := ih fun u hu => ht u (List.mem_cons_of_mem _ hu)
    by_cases last : ts = []
    · simpa [last] using first
    · rw [String.intercalate_cons_of_ne_nil last]
      simp only [String.toList_append, List.mem_append, not_or]
      exact ⟨⟨first, hs⟩, rest⟩

theorem slash_notMem_piecesText (ps : List Nat) : '/' ∉ (piecesText ps).toList := by
  apply notMem_intercalate (by decide)
  intro t ht
  obtain ⟨p, -, rfl⟩ := List.mem_map.mp ht
  rw [String.toList_ofList]
  exact slash_notMem_toDigits 16 p

theorem isHost_ipv6Text (ps : List Nat) : IsHost (ipv6Text ps) := by
  apply IsHost.brackets
  split
  · simp [String.toList_append, slash_notMem_piecesText]
  · exact slash_notMem_piecesText ps

theorem isHost_ipv4Text (n : Nat) : IsHost (ipv4Text n) := by
  have chars (c : Char) (digit : c.isDigit = false) (dot : c ≠ '.') : c ∉ (ipv4Text n).toList := by
    have dotText : c ∉ (toString ".").toList := by
      change c ∉ ['.']
      simpa using dot
    simp [ipv4Text, String.toList_append, digits_notMem digit, dotText]
  exact IsHost.of_notMem (chars '/' rfl (by decide)) (chars ':' rfl (by decide))

theorem isHost_bracketed {cs : List Char} {h : String} (e : bracketed cs = .ok h) : IsHost h := by
  unfold bracketed at e
  split at e
  · split at e
    · cases e
      exact isHost_ipv6Text _
    · cases e
  · cases e

theorem isForbidden_of_domain {b : Bytes} {d : List Char} (e : domain? b = some d) :
    d.any isForbidden = false := by
  unfold domain? at e
  simp only [bind, Option.bind_eq_some_iff] at e
  obtain ⟨s, -, labels, -, e⟩ := e
  split at e
  · cases e
  · rename_i free
    cases e
    simpa using free

theorem isForbidden_sign {c : Char} (h : c = '/' ∨ c = ':') : isForbidden c := by
  obtain rfl | rfl := h <;> simp [isForbidden, String.contains_char_eq]

theorem isForbiddenOpaque_sign {c : Char} (h : c = '/' ∨ c = ':') : isForbiddenOpaque c := by
  obtain rfl | rfl := h <;> simp [isForbiddenOpaque, String.contains_char_eq]

theorem isHost_special {cs : List Char} {h : String} (e : special cs = .ok h) : IsHost h := by
  unfold special at e
  split at e
  · exact isHost_bracketed e
  split at e
  · cases e
  · cases e
  · rename_i d _ read
    have free := isForbidden_of_domain read
    rw [List.any_eq_false] at free
    split at e
    · split at e
      · cases e
        exact isHost_ipv4Text _
      · cases e
    · cases e
      apply IsHost.of_notMem
      · rw [String.toList_ofList]
        exact fun m => free _ m (isForbidden_sign (Or.inl rfl))
      · rw [String.toList_ofList]
        exact fun m => free _ m (isForbidden_sign (Or.inr rfl))

theorem upperDigit_ne_sign : ∀ n < 16, Percent.upperDigit n ≠ '/' ∧ Percent.upperDigit n ≠ ':' := by
  decide

/-- Encoding brings in no signs but percent signs. -/
theorem mem_encode {c : Char} (sign : c = '/' ∨ c = ':') {encoded : UInt8 → Bool} {cs : List Char}
    (h : c ∈ Percent.encode encoded cs) : c ∈ cs := by
  have ascii : c.toNat < 128 := by obtain rfl | rfl := sign <;> decide
  have other : c ≠ '%' := by obtain rfl | rfl := sign <;> decide
  have digit : ∀ n < 16, c ≠ Percent.upperDigit n := by
    intro n small e
    have apart := upperDigit_ne_sign n small
    cases sign with
    | inl slash =>
      cases slash
      exact apart.1 e.symm
    | inr colon =>
      cases colon
      exact apart.2 e.symm
  obtain ⟨b, hb, hc⟩ := List.mem_flatMap.mp h
  have octet := b.toNat_lt
  rw [Percent.octet] at hc
  split at hc
  · simp only [List.mem_cons, List.not_mem_nil, or_false] at hc
    obtain e | e | e := hc
    · exact absurd e other
    · exact absurd e (digit _ (by omega))
    · exact absurd e (digit _ (by omega))
  · rw [List.mem_singleton] at hc
    have value : UInt8.ofNat c.toNat = b := by
      rw [hc, Bytes.toNat_ofNat_octet octet, UInt8.ofNat_toNat]
    rw [Bytes.ofText_ofList, ← value] at hb
    exact (Bytes.mem_ofChars_ascii ascii cs).mp hb

theorem isHost_opaqueText {cs : List Char} {h : String} (e : opaqueText cs = .ok h) : IsHost h := by
  unfold opaqueText at e
  split at e
  · exact isHost_bracketed e
  split at e
  · cases e
  · rename_i free
    cases e
    rw [Bool.not_eq_true, List.any_eq_false] at free
    apply IsHost.of_notMem
    · rw [String.toList_ofList]
      exact fun m => free _ (mem_encode (Or.inl rfl) m) (isForbiddenOpaque_sign (Or.inl rfl))
    · rw [String.toList_ofList]
      exact fun m => free _ (mem_encode (Or.inr rfl) m) (isForbiddenOpaque_sign (Or.inr rfl))

end Host

namespace Url

theorem isHost_empty : IsHost "" := IsHost.of_notMem (by decide) (by decide)

theorem isHost_unless {c : Prop} [Decidable c] {h : String} (isHost : IsHost h) :
    IsHost (if c then "" else h) := by
  split
  · exact isHost_empty
  · exact isHost

theorem isPath_pathText (f : Family) (cs : List Char) : IsPath (pathText f cs) := by
  intro given
  unfold pathText at given ⊢
  dsimp only at given ⊢
  generalize trimEmpty f _ = parts at given ⊢
  cases parts with
  | nil => exact absurd rfl given
  | cons s ss => exact ⟨s ++ ss.flatMap fun s => '/' :: s, by simp⟩

theorem isPath_pathAfterAuthority (f : Family) (cs : List Char) : IsPath (pathAfterAuthority f cs) := by
  unfold pathAfterAuthority
  split
  · split
    · intro given
      exact absurd rfl given
    · intro _
      exact ⟨[], by decide⟩
  · split <;> exact isPath_pathText f _

abbrev Fits (p : Authority × String) : Prop := IsHost p.1.host ∧ IsPath p.2

theorem ensures_readHost (f : Family) (cs : List Char) : Ensures IsHost (readHost f cs) := by
  intro h e
  unfold readHost at e
  split at e
  · exact Host.isHost_opaqueText e
  · split at e
    · cases e
    · exact Host.isHost_special e

theorem ensures_readAuthority (scheme : String) (f : Family) (cs : List Char) (ended : Bool) :
    Ensures (fun p => IsHost p.1.host) (readAuthority scheme f cs ended) := by
  unfold readAuthority
  dsimp only
  apply Ensures.guard
  apply Ensures.bind
  intro host read
  have isHost := ensures_readHost _ _ _ read
  apply Ensures.guard
  apply Ensures.guard
  apply Ensures.bind
  intro p _
  exact Ensures.pure_iff.mpr isHost

theorem ensures_authorityAndPath (scheme : String) (f : Family) (cs : List Char) (ended : Bool) :
    Ensures Fits (authorityAndPath scheme f cs ended) := by
  unfold authorityAndPath
  apply Ensures.bind
  intro p read
  have isHost := ensures_readAuthority _ _ _ _ _ read
  exact Ensures.pure_iff.mpr ⟨isHost, isPath_pathAfterAuthority _ _⟩

theorem ensures_fileParts (cs : List Char) : Ensures Fits (fileParts cs) := by
  have slash : IsPath "/" := fun _ => ⟨[], by decide⟩
  unfold fileParts
  dsimp only
  split
  · split
    · split
      · exact Ensures.pure_iff.mpr ⟨isHost_empty, isPath_pathText _ _⟩
      split
      · exact Ensures.pure_iff.mpr
          ⟨isHost_unless (isHost_unless isHost_empty), isPath_pathAfterAuthority _ _⟩
      apply Ensures.bind
      intro name read
      have isHost := Host.isHost_special read
      exact Ensures.pure_iff.mpr
        ⟨isHost_unless (isHost_unless isHost), isPath_pathAfterAuthority _ _⟩
    · split <;> exact Ensures.pure_iff.mpr ⟨isHost_empty, isPath_pathText _ _⟩
  · split
    · exact Ensures.pure_iff.mpr ⟨isHost_empty, slash⟩
    · exact Ensures.pure_iff.mpr ⟨isHost_empty, isPath_pathText _ _⟩
  · exact Ensures.pure_iff.mpr ⟨isHost_empty, slash⟩

theorem plain_withTail (scheme : String) (f : Family) {p : Authority × String} (fits : Fits p)
    (query fragment : Option (List Char)) : (withTail scheme f (some p.1) p.2 query fragment).Plain where
  host := by
    intro h e
    simp only [host?, withTail] at e
    split at e
    · cases e
    · cases e
      exact fits.1
  path := by
    intro _ _
    exact fits.2

theorem plain_withoutHost (scheme : String) (f : Family) (path : String)
    (query fragment : Option (List Char)) : (withTail scheme f none path query fragment).Plain where
  host := by
    intro h e
    cases e
  path := by
    intro h e
    cases e

/-- Whatever is read as a URL is plain. -/
theorem ensures_parse (text : String) : Ensures Plain (parse text) := by
  unfold parse
  dsimp only
  split
  · exact Ensures.error _
  split
  · apply Ensures.bind
    intro p read
    exact Ensures.pure_iff.mpr (plain_withTail _ _ (ensures_fileParts _ p read) _ _)
  · apply Ensures.bind
    intro p read
    exact Ensures.pure_iff.mpr (plain_withTail _ _ (ensures_authorityAndPath _ _ _ _ p read) _ _)
  · apply Ensures.bind
    intro p read
    exact Ensures.pure_iff.mpr (plain_withTail _ _ (ensures_authorityAndPath _ _ _ _ p read) _ _)
  · exact Ensures.pure_iff.mpr (plain_withoutHost _ _ _ _ _)
  · exact Ensures.pure_iff.mpr (plain_withoutHost _ _ _ _ _)

def Extra (scheme : String) (port : Option Nat) : Prop := ∀ n, port = some n → defaultPort scheme ≠ some n

theorem ensures_readPort (scheme : String) (cs : List Char) :
    Ensures (fun p => Extra scheme p.1) (readPort scheme cs) := by
  intro p read
  unfold readPort at read
  split at read
  · cases read
    intro n e
    cases e
  · dsimp only at read
    split at read
    · cases read
    split at read
    · cases read
    cases read
    intro n e own
    dsimp only at e
    split at e
    · cases e
    · rename_i other
      cases e
      simp [own] at other

theorem ensures_readAuthority_port (scheme : String) (f : Family) (cs : List Char) (ended : Bool) :
    Ensures (fun p => Extra scheme p.1.port) (readAuthority scheme f cs ended) := by
  unfold readAuthority
  dsimp only
  apply Ensures.guard
  apply Ensures.bind
  intro host _
  apply Ensures.guard
  apply Ensures.guard
  apply Ensures.bind
  intro p read
  exact Ensures.pure_iff.mpr (ensures_readPort _ _ p read)

theorem ensures_authorityAndPath_port (scheme : String) (f : Family) (cs : List Char) (ended : Bool) :
    Ensures (fun p => Extra scheme p.1.port) (authorityAndPath scheme f cs ended) := by
  unfold authorityAndPath
  apply Ensures.bind
  intro p read
  exact Ensures.pure_iff.mpr (ensures_readAuthority_port _ _ _ _ p read)

theorem ensures_fileParts_port (scheme : String) (cs : List Char) :
    Ensures (fun p => Extra scheme p.1.port) (fileParts cs) := by
  have nowhere : Extra scheme none := by
    intro n e
    cases e
  unfold fileParts
  dsimp only
  split
  · split
    · split
      · exact Ensures.pure_iff.mpr nowhere
      split
      · exact Ensures.pure_iff.mpr nowhere
      apply Ensures.bind
      intro name _
      exact Ensures.pure_iff.mpr nowhere
    · split <;> exact Ensures.pure_iff.mpr nowhere
  · split <;> exact Ensures.pure_iff.mpr nowhere
  · exact Ensures.pure_iff.mpr nowhere

theorem ensures_parse_port (text : String) : Ensures (fun u => Extra u.scheme u.port?) (parse text) := by
  unfold parse
  dsimp only
  split
  · exact Ensures.error _
  split
  · apply Ensures.bind
    intro p read
    exact Ensures.pure_iff.mpr (ensures_fileParts_port _ _ p read)
  · apply Ensures.bind
    intro p read
    exact Ensures.pure_iff.mpr (ensures_authorityAndPath_port _ _ _ _ p read)
  · apply Ensures.bind
    intro p read
    exact Ensures.pure_iff.mpr (ensures_authorityAndPath_port _ _ _ _ p read)
  all_goals
    refine Ensures.pure_iff.mpr ?_
    intro n e
    cases e

end Url
end RequestAuth
