import RequestAuth.Proofs.Http.Authenticate
import RequestAuth.Proofs.Text.LetterCase
import RequestAuth.Proofs.Token.Parts

/-! The header fields of a request before and after others are inserted. -/

namespace RequestAuth

namespace HeaderFields

def values (hs : HeaderFields) (name : String) : List String :=
  (hs.filter fun p => p.1 == name).map Prod.snd

/-- All fields but those of some names. -/
def without (hs : HeaderFields) (names : List String) : HeaderFields :=
  hs.filter fun p => !names.contains p.1

theorem values_append (hs new : HeaderFields) (name : String) :
    values (hs ++ new) name = values hs name ++ values new name := by
  simp [values]

theorem values_of_notMem {hs : HeaderFields} {name : String} (h : name ∉ hs.map Prod.fst) :
    values hs name = [] := by
  have none : hs.filter (fun p => p.1 == name) = [] := by
    rw [List.filter_eq_nil_iff]
    intro p hp same
    exact h (List.mem_map.mpr ⟨p, hp, by simpa using same⟩)
  rw [values, none, List.map_nil]

theorem values_of_mem {hs : HeaderFields} (distinct : (hs.map Prod.fst).Nodup) {p : String × String}
    (h : p ∈ hs) : values hs p.1 = [p.2] := by
  induction hs with
  | nil => simp at h
  | cons q r ih =>
    obtain ⟨first, rest⟩ := List.nodup_cons.mp distinct
    have split : values (q :: r) p.1 = values [q] p.1 ++ values r p.1 := values_append [q] r p.1
    rw [split]
    cases List.mem_cons.mp h with
    | inl same =>
      subst same
      rw [values_of_notMem first]
      simp [values]
    | inr later =>
      have other : q.1 ≠ p.1 := fun e => first (List.mem_map.mpr ⟨p, later, e.symm⟩)
      rw [ih rest later]
      simp [values, other]

theorem values_without (hs : HeaderFields) (names : List String) (name : String) :
    values (hs.without names) name = if name ∈ names then [] else values hs name := by
  split
  · rename_i dropped
    apply values_of_notMem
    intro h
    obtain ⟨p, hp, rfl⟩ := List.mem_map.mp h
    have kept := (List.mem_filter.mp hp).2
    simp [dropped] at kept
  · rename_i kept
    rw [values, without, List.filter_filter, values]
    congr 1
    apply List.filter_congr
    intro p _
    by_cases same : p.1 = name
    · simp [same, kept]
    · simp [same]

end HeaderFields

namespace Request

/-- Fields with distinct names take the place of all that had one of these names. -/
theorem insertFields_distinct (hs : HeaderFields) {new : HeaderFields}
    (distinct : (new.map Prod.fst).Nodup) :
    insertFields hs new = hs.without (new.map Prod.fst) ++ new := by
  induction new generalizing hs with
  | nil =>
    rw [List.append_nil, List.map_nil, HeaderFields.without]
    exact (List.filter_eq_self.mpr fun _ _ => rfl).symm
  | cons p new ih =>
    obtain ⟨first, rest⟩ := List.nodup_cons.mp distinct
    have step : insertFields hs (p :: new) = insertFields (insertField hs p) new := rfl
    have kept : (new.map Prod.fst).contains p.1 = false := by simpa using first
    rw [step, ih (insertField hs p) rest, insertField, HeaderFields.without, List.filter_append,
      List.filter_filter, List.filter_cons, kept]
    simp [HeaderFields.without, Bool.and_comm, bne, List.append_assoc]

end Request

namespace HeaderSet
variable {set : HeaderSet} {fields : HeaderFields}

theorem name_mem {p : String × String} (h : p ∈ set.pairs) :
    p.1 ∈ ["Authorization", "Content-Type", walletAuthName, correlationContextName] := by
  cases w : set.walletAuth <;> simp [pairs, w] at h
  · obtain rfl | rfl | rfl := h <;> simp
  · obtain rfl | rfl | rfl | rfl := h <;> simp

def inserted (set : HeaderSet) : HeaderFields :=
  [("authorization", set.authorization), ("content-type", set.contentType)] ++
    (set.walletAuth.map fun w => ("x-wallet-auth", w)).toList ++
    [("correlation-context", set.correlationContext)]

theorem inserted_pairs (set : HeaderSet) :
    set.inserted = set.pairs.map fun p => (asciiLower p.1, p.2) := by
  have authorization : asciiLower "Authorization" = "authorization" := asciiLower_eq rfl
  have contentType : asciiLower "Content-Type" = "content-type" := asciiLower_eq rfl
  have walletAuth : asciiLower walletAuthName = "x-wallet-auth" := asciiLower_eq rfl
  have correlation : asciiLower correlationContextName = "correlation-context" := asciiLower_eq rfl
  cases w : set.walletAuth <;>
    simp [pairs, inserted, w, authorization, contentType, walletAuth, correlation]

theorem inserted_distinct (set : HeaderSet) : (set.inserted.map Prod.fst).Nodup := by
  cases w : set.walletAuth <;> simp [inserted, w]

/-- One field after the other goes in, and one that cannot be sent stops all of them. -/
theorem foldlM_put (hs new : HeaderFields) : new.foldlM put hs =
    if new.all fun p => isValue p.2 then .ok (Request.insertFields hs new) else .error .headerValue := by
  induction new generalizing hs with
  | nil => rfl
  | cons p new ih =>
    rw [List.foldlM_cons, put, List.all_cons]
    cases isValue p.2 with
    | true => exact ih (Request.insertField hs p)
    | false => rfl

theorem fields_foldlM (set : HeaderSet) : set.fields = set.inserted.foldlM put [] := by
  cases w : set.walletAuth <;> simp [fields, inserted, w]

theorem fields_eq (set : HeaderSet) : set.fields =
    if set.pairs.all fun p => isValue p.2 then .ok (set.pairs.map fun p => (asciiLower p.1, p.2))
    else .error .headerValue := by
  have whole : Request.insertFields [] set.inserted = set.inserted :=
    Request.insertFields_distinct [] set.inserted_distinct
  rw [fields_foldlM, foldlM_put, whole, inserted_pairs, List.all_map]
  rfl

theorem fields_eq_ok : set.fields = .ok fields ↔
    (∀ p ∈ set.pairs, isValue p.2) ∧ fields = set.pairs.map fun p => (asciiLower p.1, p.2) := by
  rw [fields_eq]
  split
  · rename_i valid
    rw [Except.ok.injEq]
    constructor
    · intro h
      cases h
      exact ⟨List.all_eq_true.mp valid, rfl⟩
    · intro h
      obtain ⟨-, rfl⟩ := h
      rfl
  · rename_i invalid
    constructor
    · intro h
      cases h
    · intro h
      obtain ⟨valid, -⟩ := h
      exact absurd (List.all_eq_true.mpr valid) invalid

theorem fields_eq_error {e : AuthError} (h : set.fields = .error e) : e = .headerValue := by
  rw [fields_eq] at h
  split at h
  · cases h
  · cases h
    rfl

theorem fields_inserted (h : set.fields = .ok fields) : fields = set.inserted := by
  rw [set.inserted_pairs]
  exact (fields_eq_ok.mp h).2

theorem values_insertFields (hs : HeaderFields) {p : String × String} (h : p ∈ set.inserted) :
    HeaderFields.values (Request.insertFields hs set.inserted) p.1 = [p.2] := by
  rw [Request.insertFields_distinct _ set.inserted_distinct, HeaderFields.values_append,
    HeaderFields.values_without, if_pos (List.mem_map_of_mem h),
    HeaderFields.values_of_mem set.inserted_distinct h, List.nil_append]

theorem isValue_append (s t : String) : isValue (s ++ t) = (isValue s && isValue t) := by
  simp [isValue, Bytes.ofText_append]

theorem isValueOctet_symbol : ∀ v < 64, isValueOctet (Base64.Alphabet.url.symbol v) := by decide

theorem isValue_segment (b : Bytes) : isValue (Token.segment b) := by
  rw [isValue, Token.ofText_segment, List.all_eq_true]
  intro x hx
  obtain ⟨v, small, rfl⟩ := Base64.exists_symbol_of_mem_encode hx
  exact isValueOctet_symbol v small

/-- Tokens can always be sent. -/
theorem isValue_encode {h : TokenHeader} {claims : Json} {key : SigningKey} {t : String}
    (e : Token.encode h claims key = .ok t) : isValue t := by
  have dot : isValue "." := by decide
  rw [(Token.encode_eq_ok.mp e).2, Token.signingInput]
  simp [isValue_append, isValue_segment, dot]

theorem isValue_pairs (authorization : isValue set.authorization) (contentType : isValue set.contentType)
    (proof : ∀ p ∈ set.walletAuth, isValue p) :
    (∀ p ∈ set.pairs, isValue p.2) ↔ isValue set.correlationContext := by
  cases w : set.walletAuth with
  | none => simp [pairs, w, authorization, contentType]
  | some p => simp [pairs, w, authorization, contentType, proof p w]

theorem isValue_bearer {r : BearerRequest} {now : Int64} {s s' : SignerState} {t : String}
    (made : r.token now s = .ok t s') : isValue t := by
  obtain ⟨-, -, uri, n, key, -, -, -, encoded, -⟩ := BearerRequest.token_eq_ok.mp made
  exact isValue_encode encoded

theorem isValue_wallet {r : WalletRequest} {now : Int64} {s s' : SignerState} {t : String}
    (made : r.token now s = .ok t s') : isValue t := by
  obtain ⟨-, d, n, -, -, encoded, -⟩ := WalletRequest.token_eq_ok.mp made
  exact isValue_encode encoded

end HeaderSet

theorem HeadersRequest.isValue_headers {r : HeadersRequest} {now : Times} {s s' : SignerState} {set : HeaderSet}
    (made : r.headers now s = .ok set s') :
    HeaderSet.isValue set.authorization ∧ HeaderSet.isValue set.contentType ∧
      (∀ proof ∈ set.walletAuth, HeaderSet.isValue proof) ∧
      set.correlationContext = correlationContext r.source r.sourceVersion := by
  obtain ⟨token, proof, t, bearer, proved, rfl⟩ := HeadersRequest.headers_eq_ok.mp made
  have mark : HeaderSet.isValue "Bearer " := by decide
  have json : HeaderSet.isValue HeaderSet.jsonType := by decide
  refine ⟨?_, json, ?_, rfl⟩
  · simp [HeadersRequest.headerSet, HeaderSet.isValue_append, mark, HeaderSet.isValue_bearer bearer]
  · intro p given
    rw [HeadersRequest.walletToken_eq_ok] at proved
    split at proved
    · obtain ⟨wallet, u, -, token, rfl⟩ := proved
      cases given
      exact HeaderSet.isValue_wallet token
    · obtain ⟨rfl, -⟩ := proved
      cases given

end RequestAuth
