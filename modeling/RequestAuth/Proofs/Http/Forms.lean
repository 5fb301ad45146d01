import RequestAuth.Proofs.Http.Fields

/-! The two forms of a set of headers: the pairs that are printed, and the fields that go into a request.
Each has its own spelling of the names. -/

namespace RequestAuth

/-- Fields have each of some pairs once, by its name in small letters, and nothing else. -/
structure HeaderFields.Holds (fields pairs : HeaderFields) : Prop where
  entries : fields.Perm (pairs.map fun p => (asciiLower p.1, p.2))
  distinct : (fields.map Prod.fst).Nodup

theorem HeaderFields.Holds.values_eq {fields pairs : HeaderFields} (h : fields.Holds pairs)
    {p : String × String} (mem : p ∈ pairs) : fields.values (asciiLower p.1) = [p.2] := by
  have entry : (asciiLower p.1, p.2) ∈ fields :=
    h.entries.mem_iff.mpr (List.mem_map.mpr ⟨p, mem, rfl⟩)
  exact HeaderFields.values_of_mem h.distinct entry

namespace HeaderSet

def Sendable (value : String) : Prop := ∀ b ∈ Bytes.ofText value, 0x20 ≤ b ∧ b ≠ 0x7f ∨ b = 0x09

theorem isValue_iff {value : String} : isValue value ↔ Sendable value := by
  simp only [isValue, Sendable, List.all_eq_true, isValueOctet, Bool.or_eq_true, Bool.and_eq_true,
    beq_iff_eq, decide_eq_true_eq, bne_iff_ne, or_comm, ne_eq]

instance (value : String) : Decidable (Sendable value) := decidable_of_iff _ isValue_iff

theorem fields_isOk {set : HeaderSet} :
    (∃ fields, set.fields = .ok fields) ↔ ∀ p ∈ set.pairs, Sendable p.2 := by
  simp only [fields_eq_ok, exists_and_left, exists_eq, and_true, isValue_iff]

theorem holds_fields {set : HeaderSet} {fields : HeaderFields} (h : set.fields = .ok fields) :
    fields.Holds set.pairs where
  entries := by
    obtain ⟨-, rfl⟩ := fields_eq_ok.mp h
    exact List.Perm.refl _
  distinct := by
    rw [fields_inserted h]
    exact set.inserted_distinct

theorem inserted_injective {set other : HeaderSet} (h : set.inserted = other.inserted) : set = other := by
  obtain ⟨authorization, contentType, proof, context⟩ := set
  obtain ⟨authorization', contentType', proof', context'⟩ := other
  -- A proof is one field more, so both sets have one or neither has.
  cases proof <;> cases proof' <;> simp_all [inserted]

/-- The fields can be had exactly if every value that would be printed can be sent, and if they cannot, it is
for a header value. They are what would be printed, with small letters in the names: each name has one
value, octet for octet the printed one, nothing is added, and nothing is lost of the set. -/
theorem forms_agree (set : HeaderSet) :
    ((∃ fields, set.fields = .ok fields) ↔ ∀ p ∈ set.pairs, Sendable p.2) ∧
    (∀ fields, set.fields = .ok fields → fields.Holds set.pairs ∧
      (∀ p ∈ set.pairs, fields.values (asciiLower p.1) = [p.2]) ∧
      ∀ other : HeaderSet, other.fields = .ok fields → other = set) ∧
    ((∃ p ∈ set.pairs, ¬ Sendable p.2) → set.fields = .error .headerValue) := by
  refine ⟨fields_isOk, ?_, ?_⟩
  · intro fields done
    have holds := holds_fields done
    refine ⟨holds, fun p mem => holds.values_eq mem, ?_⟩
    intro other done'
    exact inserted_injective ((fields_inserted done').symm.trans (fields_inserted done))
  · intro h
    obtain ⟨p, mem, refused⟩ := h
    cases made : set.fields with
    | ok fields => exact absurd (fields_isOk.mp ⟨fields, made⟩ p mem) refused
    | error e => rw [fields_eq_error made]

/-- A proof beside a source with a tab and a letter beyond ASCII, and a proof on two lines. -/
theorem forms_agree_sample :
    (∃ fields, (HeaderSet.mk "Bearer a.b.c" jsonType (some "d.e.f") "source=é\t").fields = .ok fields ∧
      fields.values "x-wallet-auth" = ["d.e.f"]) ∧
    (HeaderSet.mk "Bearer a.b.c" jsonType (some "d\n.e.f") "source=docs").fields = .error .headerValue := by
  obtain ⟨isOk, shown, -⟩ := forms_agree ⟨"Bearer a.b.c", jsonType, some "d.e.f", "source=é\t"⟩
  obtain ⟨fields, done⟩ := isOk.mpr (by decide)
  obtain ⟨-, found, -⟩ := shown fields done
  have name : asciiLower walletAuthName = "x-wallet-auth" := asciiLower_eq rfl
  have proof := found (walletAuthName, "d.e.f") (by simp [pairs])
  rw [name] at proof
  exact ⟨⟨fields, done, proof⟩, (forms_agree _).2.2 ⟨(walletAuthName, "d\n.e.f"), by simp [pairs], by decide⟩⟩

end HeaderSet
end RequestAuth
