import RequestAuth.Proofs.Http.Body
import RequestAuth.Proofs.Json.Rearranged

/-! A wallet proof does not depend on how its body is written: blanks between tokens and the places of members
make no difference to it, and neither do they to a request that is refused. -/

namespace RequestAuth

open Json Signing

theorem Body.members_source {b : Bytes} {ms : List (QuotedText × Source)} (text : (Source.object ms).IsText b)
    {kept : Members} : (Body.octets b).members = .ok kept ↔
      (Source.object ms).stored Read.maxDepth = some (.object kept) := by
  have some : b ≠ [] := by
    obtain ⟨w, a, spaced, -, rfl⟩ := text
    obtain ⟨_, _, -, -, rfl⟩ := Spaced.cons_iff.mp spaced
    simp
  rw [members_octets some, text.parse_eq_ok]

/-- Errors of one kind. A fault of the body says where it was found. -/
inductive AuthError.SameKind : AuthError → AuthError → Prop where
  | same (e : AuthError) : SameKind e e
  | body (f g : BodyFault) : SameKind (.body f) (.body g)

namespace Request
variable {r : Request} {o : ClientOptions} {now : Times} {s : SignerState}
  {ms ns : List (QuotedText × Source)} {b c : Bytes}

theorem members_rearranged (same : Source.Rearranged (.object ms) (.object ns))
    (text : (Source.object ms).IsText b) (text' : (Source.object ns).IsText c) :
    (∃ kept, (Body.octets b).members = .ok kept ∧ (Body.octets c).members = .ok kept) ∨
      ∃ f g, (Body.octets b).members = .error f ∧ (Body.octets c).members = .error g := by
  have alike (kept : Members) : (Body.octets b).members = .ok kept ↔ (Body.octets c).members = .ok kept := by
    rw [Body.members_source text, Body.members_source text', same.stored_eq]
  cases read : (Body.octets b).members with
  | ok kept => exact Or.inl ⟨kept, rfl, (alike kept).mp read⟩
  | error f =>
    cases read' : (Body.octets c).members with
    | ok kept => cases read.symm.trans ((alike kept).mpr read')
    | error g => exact Or.inr ⟨f, g, rfl, rfl⟩

/-- Two texts of one body, with other blanks and with members in other places, are worth the same: the request
is refused for the same reason, or gets the same headers with the same proof in them. -/
theorem authenticate_rearranged (need : r.needsProof) (same : Source.Rearranged (.object ms) (.object ns))
    (text : (Source.object ms).IsText b) (text' : (Source.object ns).IsText c) (o : ClientOptions)
    (now : Times) (s : SignerState) :
    (∃ e e' t t', { r with body := .octets b }.authenticate o now s = .error e t ∧
      { r with body := .octets c }.authenticate o now s = .error e' t' ∧ e.SameKind e' ∧
      t.nonces = t'.nonces) ∨
    ∃ headers proof t, { r with body := .octets b }.authenticate o now s =
        .ok { r with body := .octets b, headers := headers } t ∧
      { r with body := .octets c }.authenticate o now s =
        .ok { r with body := .octets c, headers := headers } t ∧
      headers.values "x-wallet-auth" = [proof] := by
  let r₁ : Request := { r with body := .octets b }
  let r₂ : Request := { r with body := .octets c }
  have need₁ : r₁.needsProof := need
  have need₂ : r₂.needsProof := need
  obtain ⟨kept, read₁, read₂⟩ | ⟨f, g, unread₁, unread₂⟩ := members_rearranged same text text'
  · have first : r₁.authenticate o now s = _ := authenticate_of_body (boundBody_read need₁ read₁)
    have second : r₂.authenticate o now s = _ := authenticate_of_body (boundBody_read need₂ read₂)
    -- The headers are made from the members, and from nothing else of the body.
    have made : headersRequest o r₂ (some kept) = headersRequest o r₁ (some kept) := rfl
    rw [made] at second
    cases ran : (headersRequest o r₁ (some kept)).headers now s with
    | error e u =>
      rw [ran] at first second
      exact Or.inl ⟨e, e, u, u, first, second, .same e, rfl⟩
    | ok set u =>
      rw [ran] at first second
      cases valid : set.fields with
      | error e =>
        simp only [valid] at first second
        exact Or.inl ⟨e, e, u, u, first, second, .same e, rfl⟩
      | ok fields =>
        simp only [valid] at first second
        obtain ⟨_, _, _, _, proof, _, _, inserted, -⟩ := authenticate_proof need₁ first
        exact Or.inr ⟨_, proof, _, first, second, inserted⟩
  · left
    exact ⟨_, _, _, _, authenticate_refused (boundBody_unread need₁ unread₁),
      authenticate_refused (boundBody_unread need₂ unread₂), .body f g, rfl⟩

def letterName (c : Char) (plain : 32 ≤ c.toNat ∧ c ≠ '"' ∧ c ≠ '\\') : QuotedText :=
  ⟨String.utf8EncodeChar c ++ [], .plain plain.1 plain.2.1 plain.2.2 .nil⟩

def nameA : QuotedText := letterName 'a' (by decide)
def nameB : QuotedText := letterName 'b' (by decide)

theorem distinct_names (v w : Source) : Source.Distinct [(nameA, v), (nameB, w)] := by
  have first : nameA.stored = some "a" := by decide
  have second : nameB.stored = some "b" := by decide
  refine List.pairwise_pair.mpr fun t a b => ?_
  have same : "a" = "b" := Option.some.inj (first.symm.trans ((QuotedText.stored_eq_some.mpr a).trans
    ((QuotedText.stored_eq_some.mpr b).symm.trans second)))
  exact absurd same (by decide)

theorem rearranged_pair (v w : Source) :
    Source.Rearranged (.object [(nameA, v), (nameB, w)]) (.object [(nameB, w), (nameA, v)]) :=
  .members (.swap _ _ _) (distinct_names v w)

theorem authenticate_rearranged_sample : ∃ b c headers proof t,
    b = Bytes.ofText "\x7b\"a\":[\x7b\"a\":null,\"b\":true\x7d],\"b\":\x7b\x7d\x7d" ∧
    c = Bytes.ofText " \x7b \"b\" : \x7b \x7d , \"a\" : [ \x7b \"b\" : true , \"a\" : null \x7d ] \x7d" ∧
    (sample "post" (.octets b)).authenticate sampleOptions 1700000000 ⟨.constant .zero, []⟩ =
      .ok { sample "post" (.octets b) with headers := headers } t ∧
    (sample "post" (.octets c)).authenticate sampleOptions 1700000000 ⟨.constant .zero, []⟩ =
      .ok { sample "post" (.octets c) with headers := headers } t ∧
    headers.values "x-wallet-auth" = [proof] := by
  let pair : List (QuotedText × Source) := [(nameA, .null), (nameB, .bool true)]
  let swapped : List (QuotedText × Source) := [(nameB, .bool true), (nameA, .null)]
  let ms : List (QuotedText × Source) := [(nameA, .list [.object pair]), (nameB, .object [])]
  let ns : List (QuotedText × Source) := [(nameB, .object []), (nameA, .list [.object swapped])]
  have inside : Source.Rearranged (.list [.object pair]) (.list [.object swapped]) :=
    .item [] [] (rearranged_pair .null (.bool true))
  have same : Source.Rearranged (.object ms) (.object ns) :=
    .trans (.member [] [(nameB, .object [])] nameA inside) (rearranged_pair _ _)
  let b := (Source.object ms).tokens.flatMap ([] ++ ·)
  let c := (Source.object ns).tokens.flatMap ([32] ++ ·)
  have text : (Source.object ms).IsText b := ⟨b, [], Spaced.flatMap blank_nil _, blank_nil, by simp⟩
  have space : Blank [32] := by simp [Blank, Read.isSpace]
  have text' : (Source.object ns).IsText c := ⟨c, [], Spaced.flatMap space _, blank_nil, by simp⟩
  have read : (Body.octets b).members =
      .ok [("a", .list [.object [("a", .null), ("b", .bool true)]]), ("b", .object [])] :=
    (Body.members_source text).mpr rfl
  obtain ⟨r', t, done⟩ := sample_done (sample_needsProof (.octets b)) read 1700000000
  have need : (sample "post" .none).needsProof := sample_needsProof _
  obtain ⟨e, _, _, _, refused, -⟩ | ⟨headers, proof, t, first, second, inserted⟩ :=
    authenticate_rearranged need same text text' sampleOptions 1700000000 ⟨.constant .zero, []⟩
  · cases done.symm.trans refused
  · exact ⟨b, c, headers, proof, t, by decide, by decide, first, second, inserted⟩

end Request
end RequestAuth
