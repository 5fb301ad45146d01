import RequestAuth.Proofs.Token.Content

/-! The compact form says all that goes into it: header and claims are read back from the text that is signed,
so that no two of them are signed with one text. -/

namespace RequestAuth.Token
open Bytes Json.Read

theorem length_segment (b : Bytes) : (segment b).length = (4 * b.length + 2) / 3 := by
  rw [segment, String.length_ofList, List.length_map, Base64.length_encode_url]

theorem segment_ne_empty {b : Bytes} (some : b ≠ []) : segment b ≠ "" := by
  intro empty
  have octets := ofText_segment b
  rw [empty] at octets
  exact some (Base64.encode_eq_nil octets.symm)

theorem ofText_render_ne_nil (v : Json) : ofText v.render ≠ [] := by
  obtain ⟨source, spaced, -⟩ := v.writes_chars.exists_tokens
  obtain ⟨b, w, -, opens, -, text⟩ := Json.Source.spaced_opens spaced
  rw [Json.render, ofText_ofList, text]
  exact List.append_ne_nil_of_right_ne_nil b opens.ne_nil

/-- The parts of a token with what they are read as. -/
structure Compact (token : String) (key : SigningKey) (header : TokenHeader) (claims : Json) (h p s : String) :
    Prop where
  text : token = h ++ "." ++ p ++ "." ++ s
  dots : token.toList.count '.' = 2
  given : ∀ t ∈ [h, p, s], t ≠ ""
  unpadded : ∀ t ∈ [h, p, s], ∀ c ∈ t.toList, isSegmentChar c
  header : ∃ b, contents? h = some b ∧ document TokenHeader.read b = .ok header
  payload : ∃ b, contents? p = some b ∧ parse b = .ok claims
  size : s.length = 86
  signature : ∃ b, contents? s = some b ∧ b.length = 64 ∧ key.Signs (ofText (h ++ "." ++ p)) b

variable {header header' : TokenHeader} {claims claims' : Json} {key : SigningKey} {t : String}

theorem compact_encode (kept : Exact (maxDepth + 1) claims) (e : encode header claims key = .ok t) :
    ∃ h p s, Compact t key header claims h p s ∧ h ++ "." ++ p = signingInput header claims := by
  obtain ⟨wf, int, deep⟩ := kept
  obtain ⟨-, rfl⟩ := encode_eq_ok.mp e
  have signature := key.length_sign (ofText (signingInput header claims))
  refine ⟨segment (ofText header.toJson.render), segment (ofText claims.render),
    segment (key.sign (ofText (signingInput header claims))), ⟨rfl, ?dots, ?given, ?unpadded,
    ⟨_, contents?_segment _, document_header header⟩,
    ⟨_, contents?_segment _, parse_render wf int (Nat.le_of_lt_succ deep)⟩, ?size,
    ⟨_, contents?_segment _, signature, key.signs _⟩⟩, rfl⟩
  case dots =>
    have none (b : Bytes) : (segment b).toList.count '.' = 0 := List.count_eq_zero.mpr (dot_notMem_segment b)
    simp [signingInput, String.toList_append, none]
  case given =>
    simp only [List.mem_cons, List.not_mem_nil, or_false]
    rintro _ (rfl | rfl | rfl)
    · exact segment_ne_empty (ofText_render_ne_nil _)
    · exact segment_ne_empty (ofText_render_ne_nil _)
    · exact segment_ne_empty (List.ne_nil_of_length_pos (by omega))
  case unpadded =>
    rw [← segments_encode e]
    exact isSegmentChar_encode e
  case size => rw [length_segment, signature]

/-- The dot cuts the signed text in one place only. -/
theorem signingInput_parts (same : signingInput header claims = signingInput header' claims') :
    ofText header.toJson.render = ofText header'.toJson.render ∧ ofText claims.render = ofText claims'.render := by
  have cut := congrArg (fun input => segments (input ++ "." ++ segment [])) same
  simp only [signingInput, segments_three, List.cons.injEq, and_true] at cut
  have contents {b c : Bytes} (written : segment b = segment c) : b = c := by
    have read := congrArg contents? written
    rw [contents?_segment, contents?_segment] at read
    exact Option.some.inj read
  exact ⟨contents cut.1, contents cut.2⟩

theorem signingInput_injective (kept : Exact (maxDepth + 1) claims) (kept' : Exact (maxDepth + 1) claims')
    (same : signingInput header claims = signingInput header' claims') : header = header' ∧ claims = claims' := by
  obtain ⟨head, payload⟩ := signingInput_parts same
  constructor
  · have read := document_header header
    rw [head, document_header header'] at read
    exact (Except.ok.inj read).symm
  · have read := parse_render kept.1 kept.2.1 (Nat.le_of_lt_succ kept.2.2)
    rw [payload, parse_render kept'.1 kept'.2.1 (Nat.le_of_lt_succ kept'.2.2)] at read
    exact (Except.ok.inj read).symm

theorem encode_eq_error {e : AuthError} : encode header claims key = .error e ↔
    header.algorithm ≠ key.algorithm ∧ e = .algorithmMismatch header.algorithm key.algorithm := by
  by_cases same : header.algorithm = key.algorithm <;> simp [encode, same, eq_comm]

/-- Every header that names the scheme of the key is encoded, with any claims, and both are told by what is
signed for them. -/
theorem encode_faithful (header : TokenHeader) (claims : Json) (key : SigningKey)
    (kept : Exact (maxDepth + 1) claims) :
    ((∃ t, encode header claims key = .ok t) ↔ header.algorithm = key.algorithm) ∧
    (∀ e, encode header claims key = .error e ↔
      header.algorithm ≠ key.algorithm ∧ e = .algorithmMismatch header.algorithm key.algorithm) ∧
    (∀ t, encode header claims key = .ok t → ∃ h p s, Compact t key header claims h p s ∧
      h ++ "." ++ p = signingInput header claims) ∧
    ∀ header' claims', Exact (maxDepth + 1) claims' → header ≠ header' ∨ claims ≠ claims' →
      signingInput header claims ≠ signingInput header' claims' := by
  refine ⟨?_, fun e => encode_eq_error, fun t => compact_encode kept, ?_⟩
  · simp only [encode_eq_ok, exists_and_left, exists_eq, and_true]
  · intro header' claims' kept' differ same
    obtain ⟨head, payload⟩ := signingInput_injective kept kept' same
    cases differ with
    | inl other => exact other head
    | inr other => exact other payload

/-- Claims that no builder makes, under a header without a nonce. -/
theorem encode_faithful_sample :
    Exact (maxDepth + 1) (.list [.text "a.b", .object [("", .number (.integer (-9223372036854775808)))]]) ∧
    ∃ t h p s, encode ⟨.es256, "", some "", none⟩
        (.list [.text "a.b", .object [("", .number (.integer (-9223372036854775808)))]])
        (.ec ⟨5, by decide, by decide⟩) = .ok t ∧
      Compact t (.ec ⟨5, by decide, by decide⟩) ⟨.es256, "", some "", none⟩
        (.list [.text "a.b", .object [("", .number (.integer (-9223372036854775808)))]]) h p s ∧
      h ++ "." ++ p ≠ signingInput ⟨.es256, "", none, some ""⟩
        (.list [.text "a.b", .object [("", .number (.integer (-9223372036854775808)))]]) := by
  have kept : Exact (maxDepth + 1)
      (.list [.text "a.b", .object [("", .number (.integer (-9223372036854775808)))]]) :=
    ⟨rfl, rfl, by decide⟩
  obtain ⟨made, -, read, apart⟩ := encode_faithful ⟨.es256, "", some "", none⟩ _
    (.ec ⟨5, by decide, by decide⟩) kept
  obtain ⟨t, e⟩ := made.mpr rfl
  obtain ⟨h, p, s, compact, signed⟩ := read t e
  refine ⟨kept, t, h, p, s, e, compact, ?_⟩
  rw [signed]
  exact apart _ _ kept (Or.inl (by decide))

end RequestAuth.Token
