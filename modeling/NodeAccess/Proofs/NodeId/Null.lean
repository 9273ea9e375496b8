import NodeAccess.Proofs.NodeId.Canonical

/-!
# Spellings of the null identifier

The null identifier is the number zero in namespace zero. It is spelled with as many zeros as one
likes, behind a plus sign or not, in either place, and with the namespace or without it. Nothing
else is the null identifier: empty texts, empty octets and the identifier with thirty-two zeros are
of another kind.
-/

set_option autoImplicit false

namespace NodeAccess

namespace Decimal

/-- A run of zeros, alone or behind a plus sign. -/
inductive Zeros : List Char → Prop where
  | plain (n : Nat) : Zeros (List.replicate (n + 1) '0')
  | plus (n : Nat) : Zeros ('+' :: List.replicate (n + 1) '0')

theorem isDigit_zero_iff {c : Char} : IsDigit c 0 ↔ c = '0' := by
  simp [IsDigit, eq_comm]

theorem digits_zero_iff {cs : List Char} :
    Digits cs 0 ↔ ∃ n, cs = List.replicate (n + 1) '0' := by
  constructor
  · intro h
    generalize hvalue : 0 = value at h
    induction h with
    | @one c d hc =>
      subst hvalue
      exact ⟨0, by rw [isDigit_zero_iff.mp hc]; rfl⟩
    | @snoc cs n c d _ hc ih =>
      -- ten times a number and a digit make zero only if both are zero
      obtain ⟨k, rfl⟩ := ih (by omega)
      obtain rfl : d = 0 := by omega
      exact ⟨k + 1, by rw [isDigit_zero_iff.mp hc, ← List.replicate_succ']⟩
  · rintro ⟨n, rfl⟩
    induction n with
    | zero => exact .one (isDigit_zero_iff.mpr rfl)
    | succ n ih =>
      rw [List.replicate_succ']
      exact .snoc ih (isDigit_zero_iff.mpr rfl)

/-- Zero is spelled with zeros only, whatever the limit. -/
theorem spells_zero_iff {limit : Nat} {cs : List Char} : Spells limit cs 0 ↔ Zeros cs := by
  constructor
  · rintro (⟨h, -⟩ | ⟨h, -⟩)
    · obtain ⟨n, rfl⟩ := digits_zero_iff.mp h
      exact .plain n
    · obtain ⟨n, rfl⟩ := digits_zero_iff.mp h
      exact .plus n
  · rintro (n | n)
    · exact .plain (digits_zero_iff.mpr ⟨n, rfl⟩) (Nat.zero_le limit)
    · exact .plus (digits_zero_iff.mpr ⟨n, rfl⟩) (Nat.zero_le limit)

end Decimal

/-- The number zero is spelled behind its letter with zeros only. -/
theorem Identifier.spells_zero_iff {cs : List Char} :
    Spells Guid.AnyMarker cs (.numeric 0) ↔
      ∃ zeros, Decimal.Zeros zeros ∧ cs = 'i' :: '=' :: zeros := by
  constructor
  · intro h
    generalize hzero : numeric 0 = i at h
    cases h with
    | @numeric body n hn =>
      have hle := hn.le_limit
      have hnat := congrArg UInt32.toNat (Identifier.numeric.inj hzero)
      have hsize : UInt32.size = 4294967296 := rfl
      rw [UInt32.toNat_ofNat_of_lt' (by omega)] at hnat
      obtain rfl : 0 = n := hnat
      exact ⟨body, Decimal.spells_zero_iff.mp hn, rfl⟩
    | text => contradiction
    | guid => contradiction
    | octets => contradiction
  · rintro ⟨zeros, hzeros, rfl⟩
    exact .numeric (Decimal.spells_zero_iff.mpr hzeros)

namespace NodeId

/-- A spelling of the null identifier: zeros behind `i=`, and perhaps zeros for the namespace. -/
inductive SpellsNull : List Char → Prop where
  | plain {zeros : List Char} : Decimal.Zeros zeros → SpellsNull ('i' :: '=' :: zeros)
  | inNamespace {index zeros : List Char} : Decimal.Zeros index → Decimal.Zeros zeros →
      SpellsNull ("ns=".toList ++ index ++ ';' :: 'i' :: '=' :: zeros)

theorem spells_null_iff {cs : List Char} : Spells Guid.AnyMarker cs null ↔ SpellsNull cs := by
  constructor
  · intro h
    generalize hnull : null = id at h
    cases h with
    | plain hbody =>
      obtain rfl : Identifier.numeric 0 = _ := congrArg identifier hnull
      obtain ⟨zeros, hzeros, rfl⟩ := Identifier.spells_zero_iff.mp hbody
      exact .plain hzeros
    | @inNamespace index body n i hindex hbody =>
      have hle := hindex.le_limit
      have hnat := congrArg (fun id => id.namespaceIndex.toNat) hnull
      have hsize : UInt16.size = 65536 := rfl
      simp only [UInt16.toNat_ofNat_of_lt' (show n < UInt16.size by omega)] at hnat
      obtain rfl : 0 = n := hnat
      obtain rfl : Identifier.numeric 0 = i := congrArg identifier hnull
      obtain ⟨zeros, hzeros, rfl⟩ := Identifier.spells_zero_iff.mp hbody
      exact .inNamespace (Decimal.spells_zero_iff.mp hindex) hzeros
  · intro h
    cases h with
    | plain hzeros => exact .plain (Identifier.spells_zero_iff.mpr ⟨_, hzeros, rfl⟩)
    | inNamespace hindex hzeros =>
      exact .inNamespace (Decimal.spells_zero_iff.mpr hindex)
        (Identifier.spells_zero_iff.mpr ⟨_, hzeros, rfl⟩)

/-- The texts that are read as the null identifier are its spellings. -/
theorem read_eq_null_iff (text : String) : read text = .ok null ↔ SpellsNull text.toList := by
  rw [read, readChars_eq_ok_iff, spells_null_iff]

/-- Whether an identifier is null shows in the text that it was read from. -/
theorem isNull_iff_spellsNull {text : String} {id : NodeId} (h : read text = .ok id) :
    id.isNull = true ↔ SpellsNull text.toList := by
  rw [isNull_iff, ← read_eq_null_iff, h, Except.ok.injEq]

end NodeId

end NodeAccess
