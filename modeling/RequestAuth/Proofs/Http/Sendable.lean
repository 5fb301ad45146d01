import RequestAuth.Proofs.Http.Binding

/-! Which headers can be sent. Every token can, whatever it is made for; what a program says about itself is
sent as it is, and a control character in it is not a header value. -/

namespace RequestAuth
open Signing
variable {now : Times} {s s' : SignerState} {set : HeaderSet}

def IsControl (c : Char) : Prop := c.toNat < 0x20 ∧ c ≠ '\t' ∨ c.toNat = 0x7f

instance (c : Char) : Decidable (IsControl c) := inferInstanceAs (Decidable (_ ∨ _))

namespace HeaderSet

theorem isValueOctet_eq_false {b : UInt8} :
    isValueOctet b = false ↔ b.toNat < 0x20 ∧ b.toNat ≠ 9 ∨ b.toNat = 0x7f := by
  simp only [isValueOctet, Bool.or_eq_false_iff, Bool.and_eq_false_iff, beq_eq_false_iff_ne, ne_eq,
    decide_eq_false_iff_not, bne_eq_false_iff_eq, ← UInt8.toNat_inj, UInt8.le_iff_toNat_le, UInt8.reduceToNat]
  omega

/-- Beyond ASCII every octet is one of a value, so it is the ASCII characters that count. -/
theorem all_utf8_eq_false {c : Char} :
    (String.utf8EncodeChar c).all isValueOctet = false ↔ IsControl c := by
  by_cases ascii : c.toNat < 128
  · have octet : (UInt8.ofNat c.toNat).toNat = c.toNat := by simp; omega
    have tab : c = '\t' ↔ c.toNat = 9 := Char.toNat_inj.symm
    simp only [Bytes.utf8_ascii ascii, List.all_cons, List.all_nil, Bool.and_true, isValueOctet_eq_false,
      octet, IsControl, ne_eq, tab]
  · have valid : (String.utf8EncodeChar c).all isValueOctet = true := by
      rw [List.all_eq_true]
      intro b hb
      have large := Bytes.le_utf8 (Nat.not_lt.mp ascii) hb
      rw [← Bool.not_eq_false, isValueOctet_eq_false]
      omega
    have other : ¬ IsControl c := by
      rw [IsControl]
      omega
    simp [valid, other]

theorem isValue_eq_false {t : String} : isValue t = false ↔ ∃ c ∈ t.toList, IsControl c := by
  rw [isValue, Bytes.ofText_eq_ofChars, Bytes.ofChars, List.all_flatMap, List.all_eq_false]
  simp only [Bool.not_eq_true, all_utf8_eq_false]

end HeaderSet

def contextFront : String := s!"sdk_version={version},sdk_language={language},source="

theorem correlationContext_none (source : Option String) :
    correlationContext source none = contextFront ++ source.getD defaultSource := String.append_empty

theorem correlationContext_some (source : Option String) (v : String) :
    correlationContext source (some v) = contextFront ++ source.getD defaultSource ++ (",source_version=" ++ v) :=
  rfl

/-- The source or its version is given and has a control character. -/
def HasControl (source sourceVersion : Option String) : Prop :=
  ∃ t, (source = some t ∨ sourceVersion = some t) ∧ ∃ c ∈ t.toList, IsControl c

theorem hasControl_iff {source sourceVersion : Option String} : HasControl source sourceVersion ↔
    (∃ t, source = some t ∧ HeaderSet.isValue t = false) ∨
      ∃ t, sourceVersion = some t ∧ HeaderSet.isValue t = false := by
  simp only [HasControl, HeaderSet.isValue_eq_false, or_and_right, exists_or]

theorem isValue_correlationContext {source sourceVersion : Option String} :
    HeaderSet.isValue (correlationContext source sourceVersion) = false ↔ HasControl source sourceVersion := by
  have front : HeaderSet.isValue contextFront = true := by decide
  have middle : HeaderSet.isValue ",source_version=" = true := by decide
  have usual : HeaderSet.isValue defaultSource = true := by decide
  have first : HeaderSet.isValue (source.getD defaultSource) = false ↔
      ∃ t, source = some t ∧ HeaderSet.isValue t = false := by
    cases source with
    | none => simp [usual]
    | some t => simp
  rw [hasControl_iff, ← first]
  cases sourceVersion with
  | none => simp [correlationContext_none, HeaderSet.isValue_append, front]
  | some v =>
    simp only [correlationContext_some, HeaderSet.isValue_append, front, middle, Bool.true_and,
      Bool.and_eq_false_iff, Option.some.injEq, exists_eq_left']

theorem HeaderSet.fields_of_values {source sourceVersion : Option String}
    (authorization : isValue set.authorization) (contentType : isValue set.contentType)
    (proof : ∀ p ∈ set.walletAuth, isValue p)
    (context : set.correlationContext = RequestAuth.correlationContext source sourceVersion) :
    (set.fields = .error .headerValue ↔ HasControl source sourceVersion) ∧
      (¬ HasControl source sourceVersion → set.fields = .ok set.inserted) := by
  have pairs := isValue_pairs authorization contentType proof
  rw [← isValue_correlationContext, ← context]
  cases made : set.fields with
  | ok fields =>
    have valid := pairs.mp (fields_eq_ok.mp made).1
    rw [fields_inserted made]
    simp [valid]
  | error e =>
    obtain rfl := fields_eq_error made
    have invalid : ¬ isValue set.correlationContext := fun valid => by
      cases made.symm.trans (fields_eq_ok.mpr ⟨pairs.mpr valid, rfl⟩)
    simpa using invalid

/-- Headers that are made can be sent but for what the source and its version are: no key, audience, method,
host, path or body stops them. They are refused exactly if one of the two is given and has a control
character, and else all of them are sent. -/
theorem headers_sendable (now : Times) (s s' : SignerState) (set : HeaderSet) :
    (∀ r : HeadersRequest, r.headers now s = .ok set s' →
      (set.fields = .error .headerValue ↔ HasControl r.source r.sourceVersion) ∧
        (¬ HasControl r.source r.sourceVersion → set.fields = .ok set.inserted)) ∧
    ∀ r : StreamRequest, r.headers now.bearer s = .ok set s' →
      (set.fields = .error .headerValue ↔ HasControl r.source r.sourceVersion) ∧
        (¬ HasControl r.source r.sourceVersion → set.fields = .ok set.inserted) := by
  constructor
  · intro r made
    obtain ⟨authorization, contentType, proof, context⟩ := HeadersRequest.isValue_headers made
    exact HeaderSet.fields_of_values authorization contentType proof context
  · intro r made
    obtain ⟨token, bearer, rfl⟩ := StreamRequest.headers_eq_ok.mp made
    have mark : HeaderSet.isValue "Bearer " := by decide
    have json : HeaderSet.isValue HeaderSet.jsonType := by decide
    refine HeaderSet.fields_of_values ?_ json nofun rfl
    rw [HeaderSet.isValue_append, mark, HeaderSet.isValue_bearer bearer]
    rfl

/-- A stream for a program whose name is on two lines, and a request that says nothing of its program. -/
theorem headers_sendable_sample : ∃ set s' set' t t' fields,
    StreamRequest.headers ⟨BearerRequest.sample.keyId, BearerRequest.sample.keySecret, some "two\nlines", none,
      none, []⟩ 1700000000 ⟨.constant .zero, []⟩ = .ok set s' ∧ set.fields = .error .headerValue ∧
    (Request.headersRequest Request.sampleOptions (Request.sample "post" .none) (some [])).headers 1700000000
      t = .ok set' t' ∧ set'.fields = .ok fields := by
  obtain ⟨token, u, bearer⟩ := BearerRequest.sample_made
  have stream := (StreamRequest.headers_eq_ok (r := ⟨BearerRequest.sample.keyId,
    BearerRequest.sample.keySecret, some "two\nlines", none, none, []⟩)).mpr ⟨token, bearer, rfl⟩
  have break' : HasControl (some "two\nlines") none := ⟨_, Or.inl rfl, '\n', by decide, by decide⟩
  have plain : ¬ HasControl none none := by simp [HasControl]
  have need := Request.sample_needsProof .none
  obtain ⟨r', t', done⟩ := Request.sample_done need rfl 1700000000
  obtain ⟨bound, set', _, v, read, made, -⟩ := Request.authenticate_eq_ok.mp done
  obtain ⟨-, same⟩ := Request.boundBody_eq_ok.mp read
  rw [if_pos need] at same
  obtain ⟨_, ⟨⟩, rfl⟩ := same
  exact ⟨_, u, set', _, v, _, stream, ((headers_sendable 1700000000 _ _ _).2 _ stream).1.mpr break', made,
    ((headers_sendable _ _ _ _).1 _ made).2 plain⟩

end RequestAuth
