import RequestAuth.Proofs.Json.Record
import RequestAuth.Proofs.Json.Typed
import RequestAuth.Token.BearerClaims
import RequestAuth.Token.Header
import RequestAuth.Token.WalletClaims

/-! Headers and claims are read back from their written form. -/

namespace RequestAuth
open Bytes Json.Read

theorem Algorithm.read_toJson (a : Algorithm) (n : Nat) :
    ReadsAs (Algorithm.read n) (ofChars a.toJson.chars) a := by
  intro r _
  have name := text_escaped a.name r
  have self (s : Bytes) : peek (34 :: s) = .ok (34, s) := rfl
  rw [toJson, Json.chars, ofChars_textChars, List.cons_append, List.append_assoc,
    List.singleton_append]
  simp only [Algorithm.read, readName, self, name, bind, Except.bind, if_true, ofName?_name]
  rfl

theorem RequestUri.read_toJson (u : RequestUri) : ReadsAs RequestUri.read (ofChars u.toJson.chars) u := by
  intro r hr
  rw [toJson, RequestUri.read, string_text u.text r hr]
  rfl

theorem opens_text (s : String) : Opens (ofChars (Json.text s).chars) := Json.Read.opens_chars (.text s) rfl

theorem uris_toJson (us : List RequestUri) (n : Nat) :
    ReadsAs (listOf (fun _ => RequestUri.read) (n + 1))
      (ofChars (Json.list (us.map RequestUri.toJson)).chars) us :=
  listOf_list RequestUri.toJson (fun u _ => opens_text u.text) fun u _ => u.read_toJson

theorem chars_list (items : List Json) :
    ofChars (Json.list items).chars = 91 :: ofChars (Json.itemChars items ++ [']']) := by
  rw [Json.chars, List.cons_append, ofChars_ascii (by decide)]
  rfl

theorem chars_object (ms : List (String × Json)) :
    ofChars (Json.object ms).chars = 123 :: ofChars (Json.memberChars ms ++ ['\x7d']) := by
  rw [Json.chars, List.cons_append, ofChars_ascii (by decide)]
  rfl

namespace TokenHeader

theorem named : Named shape := by
  intro s
  cases s <;> decide

def write (h : TokenHeader) : Slot → Option Json
  | .alg => some h.algorithm.toJson
  | .typ => some (.text h.mediaType)
  | .kid => h.keyId.map .text
  | .nonce => h.nonce.map .text

def filled (h : TokenHeader) : shape.Filled
  | .alg => h.algorithm
  | .typ => h.mediaType
  | .kid => h.keyId
  | .nonce => h.nonce

theorem toJson_written (h : TokenHeader) : h.toJson = .object (written shape h.write) := by
  obtain ⟨a, t, k, o⟩ := h
  cases k <;> cases o <;> rfl

theorem ofList_written (h : TokenHeader) : Members.ofList (written shape h.write) =
    [("alg", h.algorithm.toJson)] ++ (h.keyId.map fun k => ("kid", .text k)).toList ++
      (h.nonce.map fun n => ("nonce", .text n)).toList ++ [("typ", .text h.mediaType)] := by
  have members := h.toJson_written
  obtain ⟨a, t, k, o⟩ := h
  rw [← Json.object.inj members]
  cases k <;> cases o <;>
  simp only [Option.map_none, Option.map_some, Option.toList_none, Option.toList_some, List.append_nil,
    List.cons_append, List.nil_append, Members.ofList, List.foldl_cons, List.foldl_nil, Members.insert,
    String.reduceLT, String.reduceEq, reduceIte]

theorem read_toJson (h : TokenHeader) (n : Nat) :
    ReadsAs (TokenHeader.read (n + 1)) (ofChars h.toJson.chars) h := by
  have record := record_written named (by decide) readSlot n h.filled h.write ?_ ?_
  · intro r hr
    rw [toJson_written, TokenHeader.read, record r hr]
    rfl
  · intro s v e
    cases s with
    | alg => exact (Option.some.inj e) ▸ h.algorithm.read_toJson n
    | typ => exact (Option.some.inj e) ▸ string_text h.mediaType
    | kid =>
      obtain ⟨k, hk, rfl⟩ := Option.map_eq_some_iff.mp e
      simp only [filled, hk]
      exact optional_text k
    | nonce =>
      obtain ⟨o, ho, rfl⟩ := Option.map_eq_some_iff.mp e
      simp only [filled, ho]
      exact optional_text o
  · intro s e
    cases s with
    | alg | typ => cases e
    | kid => simp [shape, filled, Option.map_eq_none_iff.mp e]
    | nonce => simp [shape, filled, Option.map_eq_none_iff.mp e]

end TokenHeader

namespace BearerClaims

theorem named : Named shape := by
  intro s
  cases s <;> decide

def write (c : BearerClaims) : Slot → Option Json
  | .sub => some (.text c.subject)
  | .iss => some (.text c.issuer)
  | .aud => some (.list (c.audience.map .text))
  | .nbf => some (.instant c.notBefore)
  | .iat => some (.instant c.issuedAt)
  | .exp => some (.instant c.expires)
  | .uris => c.uris.map fun us => .list (us.map RequestUri.toJson)

def filled (c : BearerClaims) : shape.Filled
  | .sub => c.subject
  | .iss => c.issuer
  | .aud => c.audience
  | .nbf => c.notBefore
  | .iat => c.issuedAt
  | .exp => c.expires
  | .uris => c.uris

theorem toJson_written (c : BearerClaims) : c.toJson = .object (written shape c.write) := by
  obtain ⟨_, _, _, _, _, _, us⟩ := c
  cases us <;> rfl

theorem ofList_written (c : BearerClaims) : Members.ofList (written shape c.write) =
    [("aud", .list (c.audience.map .text)), ("exp", .instant c.expires), ("iat", .instant c.issuedAt),
      ("iss", .text c.issuer), ("nbf", .instant c.notBefore), ("sub", .text c.subject)] ++
      (c.uris.map fun us => ("uris", .list (us.map RequestUri.toJson))).toList := by
  have members := c.toJson_written
  obtain ⟨_, _, _, _, _, _, us⟩ := c
  rw [← Json.object.inj members]
  cases us <;>
  simp only [Option.map_none, Option.map_some, Option.toList_none, Option.toList_some, List.append_nil,
    List.cons_append, List.nil_append, Members.ofList, List.foldl_cons, List.foldl_nil, Members.insert,
    String.reduceLT, String.reduceEq, reduceIte]

theorem read_toJson (c : BearerClaims) (n : Nat) :
    ReadsAs (BearerClaims.read (n + 2)) (ofChars c.toJson.chars) c := by
  have record := record_written named (by decide) readSlot (n + 1) c.filled c.write ?_ ?_
  · intro r hr
    rw [toJson_written, BearerClaims.read, record r hr]
    rfl
  · intro s v e
    cases s with
    | sub => exact (Option.some.inj e) ▸ string_text c.subject
    | iss => exact (Option.some.inj e) ▸ string_text c.issuer
    | aud =>
      exact (Option.some.inj e) ▸ listOf_list Json.text (fun a _ => opens_text a) fun a _ => string_text a
    | nbf => exact (Option.some.inj e) ▸ instant_number c.notBefore
    | iat => exact (Option.some.inj e) ▸ instant_number c.issuedAt
    | exp => exact (Option.some.inj e) ▸ instant_number c.expires
    | uris =>
      obtain ⟨us, hu, rfl⟩ := Option.map_eq_some_iff.mp e
      have inner := uris_toJson us n
      simp only [filled, hu]
      rw [chars_list] at inner ⊢
      exact inner.optional rfl (by decide)
  · intro s e
    cases s with
    | sub | iss | aud | nbf | iat | exp => cases e
    | uris => simp [shape, filled, Option.map_eq_none_iff.mp e]

end BearerClaims

namespace WalletClaims

theorem named : Named shape := by
  intro s
  cases s <;> decide

def write (c : WalletClaims) : Slot → Option Json
  | .uris => some (.list (c.uris.map RequestUri.toJson))
  | .req => c.body.map .object
  | .nbf => some (.instant c.notBefore)
  | .iat => some (.instant c.issuedAt)
  | .jti => some (.text c.tokenId)

def filled (c : WalletClaims) : shape.Filled
  | .uris => c.uris
  | .req => c.body
  | .nbf => c.notBefore
  | .iat => c.issuedAt
  | .jti => c.tokenId

theorem toJson_written (c : WalletClaims) : c.toJson = .object (written shape c.write) := by
  obtain ⟨_, body, _, _, _⟩ := c
  cases body <;> rfl

theorem ofList_written (c : WalletClaims) : Members.ofList (written shape c.write) =
    [("iat", .instant c.issuedAt), ("jti", .text c.tokenId), ("nbf", .instant c.notBefore)] ++
      (c.body.map fun ms => ("req", .object ms)).toList ++
      [("uris", .list (c.uris.map RequestUri.toJson))] := by
  have members := c.toJson_written
  obtain ⟨_, body, _, _, _⟩ := c
  rw [← Json.object.inj members]
  cases body <;>
  simp only [Option.map_none, Option.map_some, Option.toList_none, Option.toList_some, List.append_nil,
    List.cons_append, List.nil_append, Members.ofList, List.foldl_cons, List.foldl_nil, Members.insert,
    String.reduceLT, String.reduceEq, reduceIte]

theorem read_toJson (c : WalletClaims) (n : Nat)
    (exact_body : ∀ ms, c.body = some ms →
      (Json.object ms).wellFormed ∧ (Json.object ms).integral ∧ (Json.object ms).depth ≤ n + 1) :
    ReadsAs (WalletClaims.read (n + 2)) (ofChars c.toJson.chars) c := by
  have record := record_written named (by decide) readSlot (n + 1) c.filled c.write ?_ ?_
  · intro r hr
    rw [toJson_written, WalletClaims.read, record r hr]
    rfl
  · intro s v e
    cases s with
    | uris => exact (Option.some.inj e) ▸ uris_toJson c.uris n
    | req =>
      obtain ⟨ms, hm, rfl⟩ := Option.map_eq_some_iff.mp e
      obtain ⟨wf, int, deep⟩ := exact_body ms hm
      have inner := object_members wf int deep
      simp only [filled, hm]
      rw [chars_object] at inner ⊢
      exact inner.optional rfl (by decide)
    | nbf => exact (Option.some.inj e) ▸ instant_number c.notBefore
    | iat => exact (Option.some.inj e) ▸ instant_number c.issuedAt
    | jti => exact (Option.some.inj e) ▸ string_text c.tokenId
  · intro s e
    cases s with
    | uris | nbf | iat | jti => cases e
    | req => simp [shape, filled, Option.map_eq_none_iff.mp e]

end WalletClaims

end RequestAuth
