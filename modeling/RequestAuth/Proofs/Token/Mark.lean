import RequestAuth.Proofs.Token.Content

/-! What tells a token apart: the nonce in its header or payload, and the request that it is bound to.
This can be read from every token, whatever is in the body that a proof binds. -/

namespace RequestAuth
open Bytes Json.Read

def Json.Read.present {α : Type} (read : Reader α) : Reader (Option α) := fun s => do
  let (a, r) ← read s
  return (some a, r)

theorem Json.Read.ReadsAs.present {α : Type} {read : Reader α} {w : Bytes} {a : α}
    (h : ReadsAs read w a) : ReadsAs (present read) w (some a) := by
  intro r closes
  rw [Json.Read.present, h r closes]
  rfl

/-- Two members of a payload. Its others are of no interest. -/
structure Mark where
  uris : Option (List RequestUri)
  tokenId : Option String
  deriving DecidableEq

namespace Mark

inductive Slot where
  | uris
  | jti
  deriving DecidableEq

@[reducible] def shape : Shape where
  Slot := Slot
  decEq := inferInstance
  title := "Mark"
  slots := [.uris, .jti]
  mem_slots := by intro s; cases s <;> simp
  names
    | .uris => ("uris", [])
    | .jti => ("jti", [])
  Value
    | .uris => Option (List RequestUri)
    | .jti => Option String
  absent
    | .uris | .jti => some none
  omitted _ := none

def readSlot : (s : Slot) → Nat → Reader (shape.Value s)
  | .uris, depth => present (listOf (fun _ => RequestUri.read) depth)
  | .jti, _ => present string

def read (depth : Nat) : Reader Mark := fun s => do
  let (f, r) ← record shape readSlot depth s
  return (⟨f .uris, f .jti⟩, r)

def filled (m : Mark) : shape.Filled
  | .uris => m.uris
  | .jti => m.tokenId

def Fits (m : Mark) (p : String × Json) : Prop :=
  shape.slot? p.1 = none ∨
  shape.slot? p.1 = some .uris ∧ (∃ us, m.uris = some us ∧ p.2 = .list (us.map RequestUri.toJson)) ∨
  shape.slot? p.1 = some .jti ∧ ∃ i, m.tokenId = some i ∧ p.2 = .text i

theorem document_members {m : Mark} {ms : List (String × Json)} (fits : ∀ p ∈ ms, m.Fits p)
    (distinct : (slotsOf shape ms).Nodup)
    (uris : Slot.uris ∉ slotsOf shape ms → m.uris = none)
    (jti : Slot.jti ∉ slotsOf shape ms → m.tokenId = none) :
    document Mark.read (ofText (Json.object ms).render) = .ok m := by
  have record := record_members readSlot 126 m.filled distinct ?_ ?_
  · apply document_render
    intro r closes
    rw [Mark.read, maxDepth, record r closes]
    rfl
  · intro p hp s known
    obtain other | ⟨slot, us, given, value⟩ | ⟨slot, i, given, value⟩ := fits p hp
    · rw [other] at known
      cases known
    · rw [slot] at known
      cases known
      rw [value, readSlot, filled, given]
      exact (uris_toJson us 125).present
    · rw [slot] at known
      cases known
      rw [value, readSlot, filled, given]
      exact (string_text i).present
  · intro s missing
    cases s with
    | uris => exact congrArg some (uris missing).symm
    | jti => exact congrArg some (jti missing).symm

end Mark

namespace Token

def header? (token : String) : Option TokenHeader :=
  match parts? token with
  | some p => (document TokenHeader.read p.header).toOption
  | none => none

def mark? (token : String) : Option Mark :=
  match parts? token with
  | some p => (document Mark.read p.payload).toOption
  | none => none

variable {h : TokenHeader} {claims : Json} {key : SigningKey} {t : String}

theorem header?_encode (e : encode h claims key = .ok t) : header? t = some h := by
  rw [header?, parts?_encode e]
  simp only [document_header]
  rfl

theorem mark?_encode (e : encode h claims key = .ok t) {m : Mark}
    (read : document Mark.read (ofText claims.render) = .ok m) : mark? t = some m := by
  rw [mark?, parts?_encode e]
  simp only [read]
  rfl

end Token

open Token

theorem BearerClaims.document_mark (c : BearerClaims) :
    document Mark.read (ofText c.toJson.render) = .ok ⟨c.uris, none⟩ := by
  have slots : slotsOf Mark.shape (written shape c.write) =
      (c.uris.map fun _ => Mark.Slot.uris).toList := by
    obtain ⟨_, _, _, _, _, _, us⟩ := c
    cases us <;> rfl
  rw [toJson_written]
  apply Mark.document_members
  · intro p hp
    obtain ⟨s, -, hs⟩ := List.mem_filterMap.mp hp
    obtain ⟨v, e, rfl⟩ := Option.map_eq_some_iff.mp hs
    cases s with
    | uris =>
      obtain ⟨us, given, rfl⟩ := Option.map_eq_some_iff.mp e
      exact Or.inr (Or.inl ⟨rfl, us, given, rfl⟩)
    | sub | iss | aud | nbf | iat | exp => exact Or.inl rfl
  · rw [slots]
    cases c.uris <;> simp
  · rw [slots]
    cases c.uris <;> simp
  · intro _
    rfl

theorem WalletClaims.document_mark (c : WalletClaims) :
    document Mark.read (ofText c.toJson.render) = .ok ⟨some c.uris, some c.tokenId⟩ := by
  have slots : slotsOf Mark.shape (written shape c.write) = [.uris, .jti] := by
    obtain ⟨_, body, _, _, _⟩ := c
    cases body <;> rfl
  rw [toJson_written]
  apply Mark.document_members
  · intro p hp
    obtain ⟨s, -, hs⟩ := List.mem_filterMap.mp hp
    obtain ⟨v, e, rfl⟩ := Option.map_eq_some_iff.mp hs
    cases s with
    | uris =>
      cases e
      exact Or.inr (Or.inl ⟨rfl, c.uris, rfl, rfl⟩)
    | jti =>
      cases e
      exact Or.inr (Or.inr ⟨rfl, c.tokenId, rfl, rfl⟩)
    | req | nbf | iat => exact Or.inl rfl
  · rw [slots]
    decide
  · rw [slots]
    simp
  · rw [slots]
    simp

variable {now : Int64} {s s' : SignerState} {t : String}

theorem BearerRequest.token_mark {r : BearerRequest} (made : r.token now s = .ok t s') :
    ∃ uri n key, r.uri = .ok uri ∧ s.nonces.take = (.ok n, s'.nonces) ∧
      header? t = some (header r.keyId n key) ∧ mark? t = some ⟨uri.map fun u => [u], none⟩ := by
  obtain ⟨-, -, uri, n, key, bound, take, -, encoded, -⟩ := token_eq_ok.mp made
  exact ⟨uri, n, key, bound, take, header?_encode encoded,
    mark?_encode encoded (r.claims uri now).document_mark⟩

theorem WalletRequest.token_mark {r : WalletRequest} (made : r.token now s = .ok t s') :
    ∃ n, s.nonces.take = (.ok n, s'.nonces) ∧ header? t = some (.new .es256) ∧
      mark? t = some ⟨some [.ofCoordinates r.coordinates], some n.hex⟩ := by
  obtain ⟨-, d, n, -, take, encoded, -⟩ := token_eq_ok.mp made
  exact ⟨n, take, header?_encode encoded, mark?_encode encoded (r.claims n now).document_mark⟩

end RequestAuth
