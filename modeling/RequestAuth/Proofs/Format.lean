import RequestAuth.Proofs.Json.Result
import RequestAuth.Proofs.Options
import RequestAuth.Proofs.Token.Content

/-! Values with a written form. Each is read back from its text, and any text that is accepted can be
written anew once and for all. -/

namespace RequestAuth
open Bytes Json.Read

namespace ClientOptions

theorem named : Named shape := by
  intro s
  cases s <;> decide

def write (o : ClientOptions) : Slot → Json
  | .keyId => .text o.keyId
  | .keySecret => .text o.keySecret
  | .walletSecret => optionalText o.walletSecret
  | .basePath => .text o.basePath
  | .expiresIn =>
    match o.expiresIn with
    | some n => .number (.integer n.toNat)
    | none => .null
  | .source => optionalText o.source
  | .sourceVersion => optionalText o.sourceVersion
  | .debugging => .bool o.debugging

theorem toJson_written (o : ClientOptions) :
    o.toJson = .object (written shape fun s => some (o.write s)) := rfl

theorem optional_optionalText (t : Option String) :
    ReadsAs (optional string) (ofChars (optionalText t).chars) t := by
  cases t with
  | none => exact optional_null string
  | some s => exact optional_text s

theorem readSlot_write (o : ClientOptions) (s : Slot) (n : Nat) :
    ReadsAs (readSlot s n) (ofChars (o.write s).chars) (o.filled s) := by
  cases s with
  | keyId => exact string_text o.keyId
  | keySecret => exact string_text o.keySecret
  | walletSecret => exact optional_optionalText o.walletSecret
  | basePath => exact string_text o.basePath
  | expiresIn =>
    simp only [write, filled]
    cases o.expiresIn with
    | none => exact optional_null count
    | some n => exact optional_count n
  | source => exact optional_optionalText o.source
  | sourceVersion => exact optional_optionalText o.sourceVersion
  | debugging => exact boolean_bool o.debugging

theorem read_toJson (o : ClientOptions) (n : Nat) :
    ReadsAs (ClientOptions.read (n + 1)) (ofChars o.toJson.chars) o := by
  have record := record_written named (by decide) readSlot n o.filled (fun s => some (o.write s)) ?_ ?_
  · intro r hr
    rw [toJson_written, ClientOptions.read, record r hr]
    rfl
  · intro s v e
    exact (Option.some.inj e) ▸ o.readSlot_write s n
  · intro s e
    cases e

end ClientOptions

namespace WalletClaims

/-- The body is one that a value can hold, not too deep to be read back. -/
def Storable (c : WalletClaims) : Prop := ∀ ms, c.body = some ms → Within (maxDepth - 1) (.object ms)

def Integral (c : WalletClaims) : Prop := ∀ ms, c.body = some ms → (Json.object ms).integral

def Given : (s : Slot) → shape.Value s → Prop
  | .req => fun body => ∀ ms, body = some ms → Within (maxDepth - 1) (.object ms)
  | .uris | .nbf | .iat | .jti => fun _ => True

theorem given_readSlot (s : Slot) (b : Bytes) : Gives (Given s) (readSlot s (maxDepth - 1) b) := by
  cases s with
  | req => exact gives_optional (gives_object _) b
  | uris | nbf | iat | jti => exact fun _ _ => trivial

theorem given_absent (s : Slot) (v : shape.Value s) (e : shape.absent s = some v) : Given s v := by
  cases s with
  | req =>
    cases e
    exact nofun
  | uris | nbf | iat | jti => trivial

theorem storable_of_accepted {b : Bytes} {c : WalletClaims} (h : document WalletClaims.read b = .ok c) :
    c.Storable := by
  have members := gives_record (F := shape) (Q := Given) given_readSlot given_absent given_absent b
  refine document_gives (P := Storable) ?_ h
  exact Ensures.bind fun out given => Ensures.pure_iff.mpr (members out given .req)

theorem storable_none (c : WalletClaims) :
    Storable { c with body := none } ∧ Integral { c with body := none } := by
  constructor <;>
  · intro ms h
    cases h

theorem storable_empty (c : WalletClaims) :
    Storable { c with body := some [] } ∧ Integral { c with body := some [] } := by
  constructor
  · intro ms h
    cases h
    exact within_object.mpr ⟨rfl, by simp⟩
  · intro ms h
    cases h
    rfl

end WalletClaims

/-- How values are written and read. -/
structure Format (α : Type) where
  toJson : α → Json
  read : Nat → Reader α

namespace Format
variable {α : Type} (F : Format α)

def write (a : α) : String := (F.toJson a).render

def accept (s : Bytes) : Except Fault α := document F.read s

def rewrite (s : Bytes) : Except Fault String := (F.accept s).map F.write

/-- Values that can be held are read back from what is written for them, and no two are written alike.
Whatever is accepted can be held, is accepted as the same value once it is written anew, and stays as
it is from then on. -/
structure RoundTrips (storable exact : α → Prop) : Prop where
  back : ∀ a, storable a → exact a → F.accept (ofText (F.write a)) = .ok a
  distinct : ∀ a b, storable a → exact a → storable b → exact b → F.write a = F.write b → a = b
  held : ∀ s a, F.accept s = .ok a → storable a
  settled : ∀ s a, F.accept s = .ok a → exact a →
    F.rewrite s = .ok (F.write a) ∧ F.accept (ofText (F.write a)) = .ok a ∧
      F.rewrite (ofText (F.write a)) = .ok (F.write a)

variable {F} {storable exact : α → Prop}

theorem RoundTrips.of_back (back : ∀ a, storable a → exact a → F.accept (ofText (F.write a)) = .ok a)
    (held : ∀ s a, F.accept s = .ok a → storable a) : F.RoundTrips storable exact where
  back := back
  distinct := by
    intro a b ha pa hb pb same
    have read := back a ha pa
    rw [same, back b hb pb] at read
    exact (Except.ok.inj read).symm
  held := held
  settled := by
    intro s a accepted plain
    have again := back a (held s a accepted) plain
    refine ⟨?_, again, ?_⟩
    · rw [rewrite, accepted]
      rfl
    · rw [rewrite, again]
      rfl

end Format

def ClientOptions.format : Format ClientOptions := ⟨toJson, read⟩

def TokenHeader.format : Format TokenHeader := ⟨toJson, read⟩

def BearerClaims.format : Format BearerClaims := ⟨toJson, read⟩

def RequestUri.format : Format RequestUri := ⟨toJson, fun _ => read⟩

def WalletClaims.format : Format WalletClaims := ⟨toJson, read⟩

namespace Format

abbrev Any {α : Type} : α → Prop := fun _ => True

theorem roundTrips_options : ClientOptions.format.RoundTrips Any Any := by
  apply RoundTrips.of_back
  · intro o _ _
    exact document_render (o.read_toJson 126)
  · exact fun _ _ _ => trivial

theorem roundTrips_header : TokenHeader.format.RoundTrips Any Any := by
  apply RoundTrips.of_back
  · intro h _ _
    exact Token.document_header h
  · exact fun _ _ _ => trivial

theorem roundTrips_bearer : BearerClaims.format.RoundTrips Any Any := by
  apply RoundTrips.of_back
  · intro c _ _
    exact Token.document_bearer c
  · exact fun _ _ _ => trivial

theorem roundTrips_uri : RequestUri.format.RoundTrips Any Any := by
  apply RoundTrips.of_back
  · intro u _ _
    have read : ReadsAs ((fun _ => RequestUri.read) maxDepth) (ofChars u.toJson.chars) u := u.read_toJson
    exact document_render read
  · exact fun _ _ _ => trivial

theorem roundTrips_wallet : WalletClaims.format.RoundTrips WalletClaims.Storable WalletClaims.Integral := by
  apply RoundTrips.of_back
  · intro c held exact_numbers
    refine Token.document_wallet c ?_
    intro ms hm
    obtain ⟨wf, deep⟩ := held ms hm
    exact ⟨wf, exact_numbers ms hm, Nat.lt_of_le_of_lt deep (by decide)⟩
  · exact fun _ _ accepted => WalletClaims.storable_of_accepted accepted

/-- Options, headers, claims and bound requests keep every member through writing and reading. Claims
with no request and with an empty list of them are written differently, as are proofs without a body
and with an empty one. -/
theorem formats_roundTrip :
    ClientOptions.format.RoundTrips Any Any ∧
      TokenHeader.format.RoundTrips Any Any ∧
      BearerClaims.format.RoundTrips Any Any ∧
      RequestUri.format.RoundTrips Any Any ∧
      WalletClaims.format.RoundTrips WalletClaims.Storable WalletClaims.Integral ∧
      (∀ c : BearerClaims, BearerClaims.format.write { c with uris := none } ≠
        BearerClaims.format.write { c with uris := some [] }) ∧
      ∀ c : WalletClaims, WalletClaims.format.write { c with body := none } ≠
        WalletClaims.format.write { c with body := some [] } := by
  refine ⟨roundTrips_options, roundTrips_header, roundTrips_bearer, roundTrips_uri, roundTrips_wallet,
    ?_, ?_⟩
  · intro c same
    have uris := congrArg BearerClaims.uris
      (roundTrips_bearer.distinct _ _ trivial trivial trivial trivial same)
    cases uris
  · intro c same
    obtain ⟨held, exact_held⟩ := WalletClaims.storable_none c
    obtain ⟨empty, exact_empty⟩ := WalletClaims.storable_empty c
    have body := congrArg WalletClaims.body
      (roundTrips_wallet.distinct _ _ held exact_held empty exact_empty same)
    cases body

def sampleText : Bytes := ofText
  "\x7b\"x\":1e9,\"iat\":-2,\"nbf\":1,\"req\":\x7b\"b\":[7],\"a\":null\x7d,\"jti\":\"\\u0041\",\"uris\":[]\x7d"

def sampleClaims : WalletClaims :=
  ⟨[], some [("a", .null), ("b", .list [.number (.integer 7)])], 1, -2, "A"⟩

theorem formats_roundTrip_sample : WalletClaims.format.accept sampleText = .ok sampleClaims ∧
    WalletClaims.format.rewrite sampleText = .ok (WalletClaims.format.write sampleClaims) ∧
    WalletClaims.format.accept (ofText (WalletClaims.format.write sampleClaims)) = .ok sampleClaims ∧
    WalletClaims.format.rewrite (ofText (WalletClaims.format.write sampleClaims)) =
      .ok (WalletClaims.format.write sampleClaims) := by
  obtain ⟨-, -, -, -, wallet, -⟩ := formats_roundTrip
  have accepted : WalletClaims.format.accept sampleText = .ok sampleClaims := rfl
  have integral : sampleClaims.Integral := by
    intro ms hm
    cases hm
    rfl
  exact ⟨accepted, wallet.settled sampleText sampleClaims accepted integral⟩

end Format
end RequestAuth
