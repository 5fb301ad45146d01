import RequestAuth.Proofs.Base64
import RequestAuth.Proofs.Text.Utf8
import RequestAuth.Token.Compact

/-! A token taken apart again: three segments between dots, each the base64 of some octets. -/

namespace RequestAuth.Token

def segments (token : String) : List String := (token.toList.splitOn '.').map String.ofList

def contents? (segment : String) : Option Bytes :=
  (Base64.decode .url (Bytes.ofText segment)).toOption

def isSegmentChar (c : Char) : Bool := c.isAlphanum || c == '-' || c == '_'

structure Parts where
  header : Bytes
  payload : Bytes
  signature : Bytes
  signed : String

def parts? (token : String) : Option Parts :=
  match segments token with
  | [h, p, s] => do return ⟨← contents? h, ← contents? p, ← contents? s, h ++ "." ++ p⟩
  | _ => none

theorem symbol_char : ∀ v < 64, (Base64.Alphabet.url.symbol v).toNat < 128 ∧
    isSegmentChar (Char.ofNat (Base64.Alphabet.url.symbol v).toNat) := by
  decide

theorem ofText_segment (b : Bytes) : Bytes.ofText (segment b) = Base64.encode .url b := by
  rw [segment, Bytes.ofText_ofList]
  apply Bytes.ofChars_octets
  intro x hx
  obtain ⟨v, small, rfl⟩ := Base64.exists_symbol_of_mem_encode hx
  exact (symbol_char v small).1

theorem isSegmentChar_segment {b : Bytes} {c : Char} (h : c ∈ (segment b).toList) :
    isSegmentChar c := by
  rw [segment, String.toList_ofList, List.mem_map] at h
  obtain ⟨x, hx, rfl⟩ := h
  obtain ⟨v, small, rfl⟩ := Base64.exists_symbol_of_mem_encode hx
  exact (symbol_char v small).2

theorem contents?_segment (b : Bytes) : contents? (segment b) = some b := by
  rw [contents?, ofText_segment, Base64.decode_encode]
  rfl

theorem dot_notMem_segment (b : Bytes) : '.' ∉ (segment b).toList := by
  intro h
  have := isSegmentChar_segment h
  revert this
  decide

theorem segments_three (a b c : Bytes) :
    segments (segment a ++ "." ++ segment b ++ "." ++ segment c) =
      [segment a, segment b, segment c] := by
  have text : (segment a ++ "." ++ segment b ++ "." ++ segment c).toList =
      (segment a).toList ++ '.' :: ((segment b).toList ++ '.' :: (segment c).toList) := by
    simp [String.toList_append]
  rw [segments, text, List.splitOn_append_cons_self_of_not_mem (dot_notMem_segment a),
    List.splitOn_append_cons_self_of_not_mem (dot_notMem_segment b),
    List.splitOn_eq_singleton (dot_notMem_segment c)]
  simp

section encoded
variable {h : TokenHeader} {claims : Json} {key : SigningKey} {t : String}

theorem encode_eq_ok : encode h claims key = .ok t ↔ h.algorithm = key.algorithm ∧
    t = signingInput h claims ++ "." ++ segment (key.sign (Bytes.ofText (signingInput h claims))) := by
  by_cases same : h.algorithm = key.algorithm <;> simp [encode, same, eq_comm]

theorem segments_encode (e : encode h claims key = .ok t) :
    segments t = [segment (Bytes.ofText h.toJson.render), segment (Bytes.ofText claims.render),
      segment (key.sign (Bytes.ofText (signingInput h claims)))] := by
  rw [(encode_eq_ok.mp e).2, signingInput]
  exact segments_three _ _ _

/-- Whatever is encoded is a token of three segments, which give back what was written and signed. -/
theorem parts?_encode (e : encode h claims key = .ok t) :
    parts? t = some ⟨Bytes.ofText h.toJson.render, Bytes.ofText claims.render,
      key.sign (Bytes.ofText (signingInput h claims)), signingInput h claims⟩ := by
  rw [parts?, segments_encode e]
  simp only [contents?_segment]
  rfl

theorem isSegmentChar_encode (e : encode h claims key = .ok t) :
    ∀ s ∈ segments t, ∀ c ∈ s.toList, isSegmentChar c := by
  rw [segments_encode e]
  simp only [List.mem_cons, List.not_mem_nil, or_false]
  intro s h c hc
  obtain rfl | rfl | rfl := h <;> exact isSegmentChar_segment hc

end encoded
end RequestAuth.Token
