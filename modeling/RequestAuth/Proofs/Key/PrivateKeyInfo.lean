import RequestAuth.Key.PrivateKeyInfo
import RequestAuth.Proofs.Ensures
import RequestAuth.Proofs.Key.Fields

/-! The structure that wraps a private key as a grammar of its own. The reader takes the structures of the
grammar, and nothing else. -/

namespace RequestAuth.PrivateKeyInfo
open Der
variable {info : PrivateKeyInfo} {s name : Bytes} {parameters : Option (UInt8 × Bytes)}

def parametersOctets : Option (UInt8 × Bytes) → Bytes
  | none => []
  | some (tag, c) => write tag c

def algorithmContents (name : Bytes) (parameters : Option (UInt8 × Bytes)) : Bytes :=
  write tagIdentifier name ++ parametersOctets parameters

structure IsAlgorithm (name : Bytes) (parameters : Option (UInt8 × Bytes)) : Prop where
  identifier : isIdentifier name
  known : ∀ e ∈ parameters, isTag e.1

/-- What stands behind the key's own octets: attributes, which are passed over, the public key in version 1 only,
and fields of higher numbers. -/
inductive Trailer : UInt8 → Bytes → Prop
  | bare {passed more : Bytes} (below : Below 1 passed) (past : Past 1 more) (rest : Fields more) :
      Trailer 0 (passed ++ more)
  | withPublicKey {passed k more : Bytes} (below : Below 1 passed) (rest : Fields more) :
      Trailer 1 (passed ++ (write (inPlace 1) (0 :: k) ++ more))

def contents (info : PrivateKeyInfo) (version : UInt8) (trailer : Bytes) : Bytes :=
  write tagInteger [version] ++ (write tagSequence (algorithmContents info.algorithm info.parameters) ++
    (write tagOctetString info.privateKey ++ trailer))

inductive Holds (info : PrivateKeyInfo) : Bytes → Prop
  | mk {version : UInt8} {trailer : Bytes} (algorithm : IsAlgorithm info.algorithm info.parameters)
      (isTrailer : Trailer version trailer) (fits : Fits (contents info version trailer)) :
      Holds info (write tagSequence (contents info version trailer))

theorem algorithmFields_eq_some : algorithmFields s = some ((name, parameters), []) ↔
    IsAlgorithm name parameters ∧ (∀ e ∈ parameters, Fits e.2) ∧ s = algorithmContents name parameters := by
  simp only [algorithmFields, bind, Option.bind_eq_some_iff, Prod.exists]
  constructor
  · intro given
    obtain ⟨c, u, readName, h⟩ := given
    obtain ⟨identifier, rfl⟩ := readIdentifier_eq_some.mp readName
    split at h
    · cases h
      exact ⟨⟨identifier, by simp⟩, by simp, rfl⟩
    · simp only [Option.bind_eq_some_iff, Prod.exists, pure, Option.some.injEq, Prod.mk.injEq] at h
      obtain ⟨tag, d, v, readParameters, ⟨rfl, rfl⟩, rfl⟩ := h
      obtain ⟨known, fits, rfl⟩ := readAny_eq_some.mp readParameters
      exact ⟨⟨identifier, by simpa using known⟩, by simpa using fits,
        by simp [algorithmContents, parametersOctets]⟩
  · intro h
    obtain ⟨⟨identifier, known⟩, fits, rfl⟩ := h
    refine ⟨name, parametersOctets parameters, readIdentifier_eq_some.mpr ⟨identifier, rfl⟩, ?_⟩
    cases parameters with
    | none => rfl
    | some e =>
      obtain ⟨tag, d⟩ := e
      have readParameters : readAny (write tag d) = some ((tag, d), []) :=
        readAny_eq_some.mpr ⟨known _ rfl, fits _ rfl, (List.append_nil _).symm⟩
      change (readAny (write tag d)).bind _ = _
      rw [readParameters]
      rfl

theorem trailer_iff {version : Nat} (most : version ≤ 1) (fits : Fits s) :
    (∃ publicKey rest, implicitBitString 1 s = some (publicKey, rest) ∧
        (version == 1) = publicKey.isSome ∧ Fields rest) ↔ Trailer (UInt8.ofNat version) s := by
  constructor
  · intro h
    obtain ⟨publicKey, rest, read, goes, fields⟩ := h
    cases publicKey with
    | none =>
      have zero : version = 0 := by
        have other : version ≠ 1 := by simpa using goes
        omega
      obtain ⟨passed, below, past, rfl⟩ := implicitBitString_eq_none.mp read
      rw [zero]
      exact .bare below past fields
    | some k =>
      have one : version = 1 := by simpa using goes
      obtain ⟨passed, below, -, rfl⟩ := (implicitBitString_eq_some (by decide)).mp read
      rw [one]
      exact .withPublicKey below fields
  · intro h
    obtain rfl | rfl : version = 0 ∨ version = 1 := by omega
    · cases h with
      | @bare passed more below past rest =>
        exact ⟨none, more, implicitBitString_eq_none.mpr ⟨passed, below, past, rfl⟩, rfl, rest⟩
    · cases h with
      | @withPublicKey passed k more below rest =>
        have inside : Fits (0 :: k) := fits.right.left.of_write
        exact ⟨some k, more, (implicitBitString_eq_some (by decide)).mpr ⟨passed, below, inside, rfl⟩, rfl, rest⟩

theorem small_of_le_one {version : Nat} (h : version ≤ 1) : small version = [UInt8.ofNat version] := by
  rw [small, if_pos (by omega)]

theorem Trailer.version {version : UInt8} (h : Trailer version s) : ∃ v ≤ 1, version = UInt8.ofNat v := by
  cases h with
  | bare => exact ⟨0, by omega, rfl⟩
  | withPublicKey => exact ⟨1, by omega, rfl⟩

theorem fields_eq_some (fits : Fits s) : fields s = some (info, []) ↔
    ∃ version trailer, IsAlgorithm info.algorithm info.parameters ∧ Trailer version trailer ∧
      s = contents info version trailer := by
  simp only [fields, bind, Option.bind_eq_some_iff, Prod.exists]
  constructor
  · intro given
    obtain ⟨version, s₁, readVersion, h⟩ := given
    obtain ⟨-, rfl⟩ := readSmall_eq_some.mp readVersion
    by_cases high : 1 < version
    · rw [if_pos high] at h
      cases h
    have most : version ≤ 1 := by omega
    simp only [high, if_false, Option.bind_eq_some_iff, Prod.exists] at h
    obtain ⟨name, parameters, s₂, readAlgorithm, key, s₃, readKey, publicKey, rest, readPublicKey, h⟩ := h
    obtain ⟨-, c, -, inside, rfl⟩ := element_eq_some.mp readAlgorithm
    obtain ⟨algorithm, -, rfl⟩ := algorithmFields_eq_some.mp inside
    obtain ⟨-, -, rfl⟩ := readElement_eq_some.mp readKey
    split at h
    · cases h
    rename_i goes
    split at h
    · rename_i fields
      cases h
      have trailer := (trailer_iff most fits.right.right.right).mp
        ⟨publicKey, rest, readPublicKey, not_not.mp goes, isFields_iff.mp fields⟩
      exact ⟨_, s₃, algorithm, trailer, by rw [small_of_le_one most, contents]⟩
    · cases h
  · intro h
    obtain ⟨version, trailer, algorithm, isTrailer, rfl⟩ := h
    obtain ⟨v, most, rfl⟩ := isTrailer.version
    obtain ⟨publicKey, rest, readPublicKey, goes, fields⟩ :=
      (trailer_iff most fits.right.right.right).mpr isTrailer
    have fitsAlgorithm := fits.right.left.of_write
    have fitsParameters : ∀ e ∈ info.parameters, Fits e.2 := by
      intro e given
      rw [algorithmContents, given] at fitsAlgorithm
      exact fitsAlgorithm.right.of_write
    have inside := algorithmFields_eq_some.mpr ⟨algorithm, fitsParameters, rfl⟩
    refine ⟨v, _, readSmall_eq_some.mpr ⟨by omega, by rw [small_of_le_one most, contents]⟩, ?_⟩
    have notHigh : ¬ 1 < v := by omega
    simp only [notHigh, if_false, Option.bind_eq_some_iff, Prod.exists]
    refine ⟨_, _, _, element_eq_some.mpr ⟨rfl, _, fitsAlgorithm, inside, rfl⟩, _, _,
      readElement_eq_some.mpr ⟨rfl, fits.right.right.left.of_write, rfl⟩, publicKey, rest, readPublicKey, ?_⟩
    rw [if_neg (not_not.mpr goes), if_pos (isFields_iff.mpr fields)]
    rfl

/-- The reader takes the structures around a key for what they say of it, and nothing else for any. -/
theorem ofDer?_eq_some : ofDer? s = some info ↔ Holds info s := by
  rw [ofDer?, readAll_element]
  constructor
  · intro h
    obtain ⟨-, c, fits, read, rfl⟩ := h
    obtain ⟨version, trailer, algorithm, isTrailer, rfl⟩ := (fields_eq_some fits).mp read
    exact .mk algorithm isTrailer fits
  · intro h
    obtain ⟨algorithm, isTrailer, fits⟩ := h
    exact ⟨rfl, _, fits, (fields_eq_some fits).mpr ⟨_, _, algorithm, isTrailer, rfl⟩, rfl⟩

theorem ofDer?_eq_none : ofDer? s = none ↔ ¬ ∃ info, Holds info s :=
  option_eq_none fun _ => ofDer?_eq_some

end RequestAuth.PrivateKeyInfo
