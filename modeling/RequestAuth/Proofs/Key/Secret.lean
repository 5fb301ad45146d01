import RequestAuth.Key.SigningKey
import RequestAuth.Proofs.Base64
import RequestAuth.Proofs.Text.Utf8

/-! The two ways in which the text of a secret is read: without its line breaks, and without the blanks
around it. -/

namespace RequestAuth
open Bytes

def isBreak (c : Char) : Bool := c == '\r' || c == '\n'

def withoutBreaks (s : String) : String := String.ofList (s.toList.filter fun c => !isBreak c)

def base64Text (b : Bytes) : String :=
  String.ofList ((Base64.encode .standard b).map fun x => Char.ofNat x.toNat)

/-- The base64 of octets, with CR and LF at any places. -/
def Base64Of (s : String) (b : Bytes) : Prop := withoutBreaks s = base64Text b

def isKept (b : UInt8) : Bool := b != Pem.cr && b != Pem.lf

theorem isKept_octet {c : Char} (h : c.toNat < 128) : isKept (UInt8.ofNat c.toNat) = !isBreak c := by
  by_cases cr : c = '\r'
  · subst cr
    rfl
  by_cases lf : c = '\n'
  · subst lf
    rfl
  have octet : (UInt8.ofNat c.toNat).toNat = c.toNat := UInt8.toNat_ofNat_of_lt' (by omega : c.toNat < 256)
  have notCr : UInt8.ofNat c.toNat ≠ Pem.cr := by
    intro same
    rw [← UInt8.toNat_inj, octet] at same
    exact cr (Char.toNat_inj.mp same)
  have notLf : UInt8.ofNat c.toNat ≠ Pem.lf := by
    intro same
    rw [← UInt8.toNat_inj, octet] at same
    exact lf (Char.toNat_inj.mp same)
  rw [isKept, isBreak, bne_iff_ne.mpr notCr, bne_iff_ne.mpr notLf, beq_false_of_ne cr, beq_false_of_ne lf]
  rfl

theorem filter_utf8 (c : Char) : (String.utf8EncodeChar c).filter isKept =
    if isBreak c then [] else String.utf8EncodeChar c := by
  by_cases ascii : c.toNat < 128
  · rw [utf8_ascii ascii, List.filter_cons, isKept_octet ascii]
    cases isBreak c <;> rfl
  · have large : 128 ≤ c.toNat := Nat.not_lt.mp ascii
    have other : isBreak c = false := by
      cases broken : isBreak c with
      | false => rfl
      | true =>
        simp only [isBreak, Bool.or_eq_true, beq_iff_eq] at broken
        cases broken with
        | inl cr => exact absurd large (by rw [cr]; decide)
        | inr lf => exact absurd large (by rw [lf]; decide)
    rw [other, if_neg (by decide), List.filter_eq_self]
    intro b hb
    have high := le_utf8 large hb
    have notCr : b ≠ Pem.cr := by rintro rfl; exact absurd high (by decide)
    have notLf : b ≠ Pem.lf := by rintro rfl; exact absurd high (by decide)
    simp [isKept, notCr, notLf]

theorem filter_ofChars (cs : List Char) :
    (ofChars cs).filter isKept = ofChars (cs.filter fun c => !isBreak c) := by
  induction cs with
  | nil => rfl
  | cons c cs ih =>
    rw [ofChars_cons, List.filter_append, filter_utf8, ih, List.filter_cons]
    cases isBreak c with
    | true => rfl
    | false => rw [if_neg (by decide), if_pos (by decide), ofChars_cons]

theorem unwrapped_eq (s : String) : SigningKey.unwrapped s = ofText (withoutBreaks s) := by
  rw [SigningKey.unwrapped, ofText_eq_ofChars, withoutBreaks, ofText_ofList]
  exact filter_ofChars s.toList

theorem withoutBreaks_append (s t : String) : withoutBreaks (s ++ t) = withoutBreaks s ++ withoutBreaks t := by
  simp [withoutBreaks]

theorem withoutBreaks_withoutBreaks (s : String) : withoutBreaks (withoutBreaks s) = withoutBreaks s := by
  simp [withoutBreaks]

theorem ofText_base64Text (b : Bytes) : ofText (base64Text b) = Base64.encode .standard b := by
  rw [base64Text, ofText_ofList]
  exact ofChars_octets fun x hx => Base64.encode_ascii hx

theorem ofText_injective {s t : String} (h : ofText s = ofText t) : s = t := by
  have read := congrArg toText? h
  rw [toText?_ofText, toText?_ofText] at read
  exact Option.some.inj read

theorem base64Of_iff {s : String} {b : Bytes} :
    Base64Of s b ↔ ofText (withoutBreaks s) = Base64.encode .standard b := by
  rw [← ofText_base64Text, Base64Of]
  constructor
  · intro same
    rw [same]
  · exact ofText_injective

theorem withoutBreaks_base64Text (b : Bytes) : withoutBreaks (base64Text b) = base64Text b := by
  have kept : (Base64.encode .standard b).filter isKept = Base64.encode .standard b := by
    rw [List.filter_eq_self]
    intro c hc
    have plain := Base64.standard_plain hc
    simp only [List.mem_cons, List.not_mem_nil, or_false, not_or] at plain
    simp [isKept, Pem.cr, Pem.lf, plain.1, plain.2.1]
  have octets := unwrapped_eq (base64Text b)
  rw [SigningKey.unwrapped, ofText_base64Text] at octets
  apply ofText_injective
  rw [← octets, ofText_base64Text]
  exact kept

theorem decode_unwrapped {s : String} {b : Bytes} :
    Base64.decode .standard (SigningKey.unwrapped s) = .ok b ↔ Base64Of s b := by
  rw [unwrapped_eq, Base64.decode_eq_ok, base64Of_iff]

theorem dropWhile_of_front {α : Type} {p : α → Bool} {front rest : List α} (h : ∀ a ∈ front, p a) :
    (front ++ rest).dropWhile p = rest.dropWhile p := by
  induction front with
  | nil => rfl
  | cons a front ih =>
    rw [List.cons_append, List.dropWhile_cons_of_pos (h a List.mem_cons_self)]
    exact ih fun b hb => h b (List.mem_cons_of_mem _ hb)

theorem dropWhile_of_head {α : Type} {p : α → Bool} {l : List α} (h : ∀ a ∈ l.head?, p a = false) :
    l.dropWhile p = l := by
  cases l with
  | nil => rfl
  | cons a l => exact List.dropWhile_cons_of_neg (by simp [h a rfl])

/-- Blanks are taken away up to the first and the last character that is none. -/
theorem trimList_between {front cs back : List Char} (before : ∀ c ∈ front, isBlank c)
    (after : ∀ c ∈ back, isBlank c) (first : ∀ c ∈ cs.head?, isBlank c = false)
    (last : ∀ c ∈ cs.getLast?, isBlank c = false) : trimList (front ++ (cs ++ back)) = cs := by
  rw [trimList, dropWhile_of_front before]
  cases cs with
  | nil =>
    have gone : (back ++ []).dropWhile isBlank = [] := dropWhile_of_front after
    rw [List.append_nil] at gone
    rw [List.nil_append, gone]
    rfl
  | cons c cs =>
    have kept : ((c :: cs) ++ back).dropWhile isBlank = (c :: cs) ++ back := dropWhile_of_head (by simpa using first)
    have turned : ∀ d ∈ back.reverse, isBlank d := fun d hd => after d (List.mem_reverse.mp hd)
    have final : (c :: cs).reverse.dropWhile isBlank = (c :: cs).reverse := by
      apply dropWhile_of_head
      rwa [List.head?_reverse]
    rw [kept, List.reverse_append, dropWhile_of_front turned, final, List.reverse_reverse]

theorem trimBlank_between {front s back : String} (before : ∀ c ∈ front.toList, isBlank c)
    (after : ∀ c ∈ back.toList, isBlank c) (first : ∀ c ∈ s.toList.head?, isBlank c = false)
    (last : ∀ c ∈ s.toList.getLast?, isBlank c = false) : trimBlank (front ++ s ++ back) = s := by
  rw [trimBlank, String.toList_append, String.toList_append, List.append_assoc,
    trimList_between before after first last, String.ofList_toList]

theorem mem_of_mem_trimList {c : Char} {cs : List Char} (h : c ∈ trimList cs) : c ∈ cs := by
  have back := (List.dropWhile_sublist _).mem (List.mem_reverse.mp h)
  exact (List.dropWhile_sublist _).mem (List.mem_reverse.mp back)

end RequestAuth
