import Mathlib.Tactic.NormNum
import RequestAuth.Proofs.Http.Binding
import RequestAuth.Proofs.Json.Meaning

/-! A wallet proof says of the body what the body says, but for numbers that do not fit 64 bits. -/

namespace RequestAuth

open Json

theorem Body.members_octets {b : Bytes} (some : b ≠ []) {ms : Members} :
    (Body.octets b).members = .ok ms ↔ Read.parse b = .ok (.object ms) := by
  obtain ⟨c, b, rfl⟩ := List.exists_cons_of_ne_nil some
  rw [members, mapError_eq_ok, Read.document_object]
  simp

theorem Body.members_eq_ok {b : Bytes} {ds : List (String × Document)} (text : (Document.object ds).IsText b)
    {ms : Members} : (Body.octets b).members = .ok ms ↔
      (Document.object ds).stored Read.maxDepth = some (.object ms) := by
  have some : b ≠ [] := by
    obtain ⟨before, w, after, -, -, writes, rfl⟩ := text
    cases writes
    simp
  rw [members_octets some, text.parse_eq_ok]

theorem WalletClaims.lastOf_toJson (c : WalletClaims) : ∃ ms, c.toJson = .object ms ∧
    lastOf ms "req" = c.body.map .object := by
  refine ⟨_, rfl, ?_⟩
  cases c.body <;> simp [lastOf]

namespace Request
variable {r r' : Request} {o : ClientOptions} {now : Times} {s s' : SignerState}

/-- The proof says what the body says, with each number as it is written once it has been read. -/
theorem proof_meaning {b : Bytes} {ds : List (String × Document)} (need : r.needsProof)
    (body : r.body = .octets b) (text : (Document.object ds).IsText b) (given : ds ≠ [])
    (done : r.authenticate o now s = .ok r' s') :
    ∃ t p cs req, r'.headers.values "x-wallet-auth" = [t] ∧ Token.parts? t = some p ∧
      (Document.object cs).IsText p.payload ∧ lastOf cs "req" = some req ∧
      req.meaning NumberText.value = (Document.object ds).meaning fun n => n.rewritten.value := by
  obtain ⟨ms, secret, _, _, t, _, read, inserted, -, proved⟩ := authenticate_proof need done
  obtain ⟨-, d, n, -, -, encoded, -⟩ := WalletRequest.token_eq_ok.mp proved
  rw [body] at read
  have same := Document.meaning_stored ((Body.members_eq_ok text).mp read)
  have some : ms ≠ [] := by
    rintro rfl
    exact given (Document.eq_nil_of_meaning same.symm)
  obtain ⟨cs, claims, req⟩ := WalletClaims.lastOf_toJson (WalletRequest.claims ⟨secret, r.coordinates, ms⟩ n now.wallet)
  have member : lastOf (membersDocument cs) "req" = Option.some (Json.object ms).document := by
    rw [membersDocument_map, lastOf_map document, req]
    simp [WalletRequest.claims, WalletClaims.new, some]
  have parts := Token.parts?_encode encoded
  rw [claims] at parts
  exact ⟨t, _, membersDocument cs, (Json.object ms).document, inserted, parts, isText_render (.object cs), member,
    same⟩

/-- Whole numbers of 64 bits are written as they were, so that a body without others is proved exactly. -/
theorem body_bound {b : Bytes} {ds : List (String × Document)} (need : r.needsProof)
    (body : r.body = .octets b) (text : (Document.object ds).IsText b) (given : ds ≠ [])
    (done : r.authenticate o now s = .ok r' s') :
    ∃ t p cs req, r'.headers.values "x-wallet-auth" = [t] ∧ Token.parts? t = some p ∧
      (Document.object cs).IsText p.payload ∧ lastOf cs "req" = some req ∧
      req.meaning NumberText.value = (Document.object ds).meaning (fun n => n.rewritten.value) ∧
      (∀ n ∈ (Document.object ds).numbers, n.IsWord → n.rewritten.value = n.value) ∧
      ((∀ n ∈ (Document.object ds).numbers, n.rewritten.value = n.value) →
        req.meaning NumberText.value = (Document.object ds).meaning NumberText.value) := by
  obtain ⟨t, p, cs, req, inserted, parts, payload, member, same⟩ := proof_meaning need body text given done
  refine ⟨t, p, cs, req, inserted, parts, payload, member, same, ?_, ?_⟩
  · intro n hn word
    obtain ⟨_, _, _, -, -, writes, -⟩ := text
    exact word.kept (writes.valid n hn)
  · intro kept
    exact same.trans (Document.meaning_congr _ kept)

def numberBody (t : NumberText) : Bytes := [123, 32, 34, 110, 34, 58] ++ (Bytes.ofChars t.chars ++ [10, 125])

theorem isText_numberBody {t : NumberText} (valid : t.Valid) :
    (Document.object [("n", .number t)]).IsText (numberBody t) := by
  let m : Member := ⟨⟨[], .number t, Bytes.ofChars t.chars, [10]⟩, [32], "n", [110], []⟩
  have name : WritesText "n".toList [110] := .plain (by decide) (by decide) (by decide) .nil
  have written : (Document.object ([m].map Member.entry)).Writes _ :=
    .object blank_nil (by simp [m, Blank, Read.isSpace]) (by simpa [m] using name)
      (by simpa [m] using Document.Writes.number valid)
  exact ⟨[], _, [], blank_nil, blank_nil, written, by simp [numberBody, m, Member.bytes, Item.bytes, Read.separated]⟩

theorem numberBody_done {t : NumberText} (valid : t.Valid) {k : JsonNumber} (kept : t.stored = some k) :
    ∃ r' s', (sample "post" (.octets (numberBody t))).authenticate sampleOptions 1700000000
      ⟨.constant .zero, []⟩ = .ok r' s' := by
  have read : (Document.object [("n", .number t)]).stored Read.maxDepth = some (.object [("n", .number k)]) := by
    rw [Read.maxDepth, Document.stored, Document.membersStored, Document.stored, kept]
    rfl
  exact sample_done (sample_needsProof _) ((Body.members_eq_ok (isText_numberBody valid)).mpr read) _

theorem body_bound_sample : ∃ r' s' t p cs req,
    (sample "post" (.octets (numberBody (.wholeText true 12)))).authenticate sampleOptions 1700000000
      ⟨.constant .zero, []⟩ = .ok r' s' ∧
    r'.headers.values "x-wallet-auth" = [t] ∧ Token.parts? t = some p ∧
    (Document.object cs).IsText p.payload ∧ lastOf cs "req" = some req ∧
    req.meaning NumberText.value =
      (Document.object [("n", .number (.wholeText true 12))]).meaning NumberText.value := by
  have valid := NumberText.valid_wholeText true 12
  have kept : (NumberText.wholeText true 12).stored = some (.integer (-12)) := by decide +kernel
  obtain ⟨r', s', done⟩ := numberBody_done valid kept
  obtain ⟨t, p, cs, req, inserted, parts, payload, member, -, words, same⟩ :=
    body_bound (sample_needsProof _) rfl (isText_numberBody valid) (by simp) done
  refine ⟨r', s', t, p, cs, req, done, inserted, parts, payload, member, same ?_⟩
  intro n hn
  obtain rfl : n = .wholeText true 12 := by
    simpa [Document.numbers, Document.membersNumbers] using hn
  have value := NumberText.value_wholeText true 12
  exact words _ hn ⟨rfl, rfl, by norm_num [value], by norm_num [value]⟩

/-- The first number beyond 64 bits is proved as another one. -/
theorem rounded_body : ∃ r' s' t p cs req,
    (sample "post" (.octets (numberBody (.wholeText false 18446744073709551616)))).needsProof ∧
    (Document.object [("n", .number (.wholeText false 18446744073709551616))]).IsText
      (numberBody (.wholeText false 18446744073709551616)) ∧
    (sample "post" (.octets (numberBody (.wholeText false 18446744073709551616)))).authenticate sampleOptions
      1700000000 ⟨.constant .zero, []⟩ = .ok r' s' ∧
    r'.headers.values "x-wallet-auth" = [t] ∧ Token.parts? t = some p ∧
    (Document.object cs).IsText p.payload ∧ lastOf cs "req" = some req ∧
    req.meaning NumberText.value =
      (Document.object [("n", .number (.wholeText false 18446744073709552000))]).meaning NumberText.value ∧
    req.meaning NumberText.value ≠
      (Document.object [("n", .number (.wholeText false 18446744073709551616))]).meaning NumberText.value := by
  have valid := NumberText.valid_wholeText false 18446744073709551616
  have kept : (NumberText.wholeText false 18446744073709551616).stored =
      some (.float ⟨false, 4503599627370496, 12⟩) := by decide +kernel
  have rewritten : (NumberText.wholeText false 18446744073709551616).rewritten.value = 18446744073709552000 := by
    have chars : (JsonNumber.float ⟨false, 4503599627370496, 12⟩).chars = "1.8446744073709552e+19".toList := by
      decide +kernel
    have text : NumberText.ofChars "1.8446744073709552e+19".toList =
        ⟨false, ['1'], "8446744073709552".toList, some ⟨'e', some '+', ['1', '9']⟩⟩ := by rfl
    have digits : Nat.ofDigitChars 10 (['1'] ++ "8446744073709552".toList) 0 = 18446744073709552 := by decide
    have exponent : PowerText.value ⟨'e', some '+', ['1', '9']⟩ = 19 := by decide
    rw [NumberText.rewritten, kept, Option.elim_some, numberText, chars, text, NumberText.value]
    dsimp only
    have places : "8446744073709552".toList.length = 16 := by decide
    rw [digits, Option.elim_some, exponent, places]
    norm_num
  obtain ⟨r', s', done⟩ := numberBody_done valid kept
  obtain ⟨t, p, cs, req, inserted, parts, payload, member, same⟩ :=
    proof_meaning (sample_needsProof _) rfl (isText_numberBody valid) (by simp) done
  have meaning (n : NumberText) (value : NumberText → ℚ) : (Document.object [("n", .number n)]).meaning value =
      .object (lastOf [("n", .number (value n))]) := rfl
  rw [meaning] at same
  refine ⟨r', s', t, p, cs, req, sample_needsProof _, isText_numberBody valid, done, inserted, parts, payload,
    member, ?_, ?_⟩
  · rw [same, meaning, rewritten, NumberText.value_wholeText]
    norm_num
  · rw [same, meaning, rewritten, NumberText.value_wholeText]
    intro e
    have values := congrFun (Meaning.object.inj e) "n"
    norm_num [lastOf] at values

end Request
end RequestAuth
