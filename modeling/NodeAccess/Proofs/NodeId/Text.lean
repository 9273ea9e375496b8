import NodeAccess.NodeId.Text
import NodeAccess.Proofs.NodeId.Guid
import NodeAccess.Proofs.Text.Base64

/-!
# Node identifiers read back

The letter of an identifier tells which of the four readers its body goes to, and each of them
undoes its writer. No identifier begins like a namespace, and no namespace holds a semicolon; so the
reader cuts a text where the writer joined it, whatever the body imitates.
-/

set_option autoImplicit false

namespace NodeAccess

namespace Identifier

/-- Writing an identifier and reading it again changes nothing. -/
theorem read_render (whole : List Char) (i : Identifier) : read whole i.render = .ok i := by
  cases i with
  | numeric n =>
    have hlimit : n.toNat ≤ 4294967295 := Nat.le_of_lt_succ n.toNat_lt
    simp only [render, read, Decimal.readUpTo?_render hlimit, Option.map_some, ofBody,
      UInt32.ofNat_toNat]
  | text s => simp only [render, read, String.ofList_toList]
  | guid g => simp only [render, read, Guid.read?_render, Option.map_some, ofBody]
  | octets bs => simp only [render, read, Base64.decode?_encode, Option.map_some, ofBody]

end Identifier

namespace NodeId

/-- A text is cut at a semicolon that none precedes. -/
theorem splitAtSemicolon?_append {before : List Char} (h : ';' ∉ before) (behind : List Char) :
    splitAtSemicolon? (before ++ ';' :: behind) = some (before, behind) := by
  induction before with
  | nil => simp [splitAtSemicolon?]
  | cons c cs ih =>
    have hc : c ≠ ';' := by
      rintro rfl
      exact h List.mem_cons_self
    have hcs : ';' ∉ cs := fun hmem => h (List.mem_cons_of_mem c hmem)
    simp [splitAtSemicolon?, hc, ih hcs]

/-- A text that is cut at its first semicolon is read by its index, and then by the rest. -/
theorem readChars_cut {index : List Char} (h : ';' ∉ index) (rest : List Char) :
    readChars ("ns=".toList ++ index ++ ';' :: rest) =
      (Decimal.readUpTo? 65535 index).elim (.error (.invalidNamespace (String.ofList index)))
        fun n => (Identifier.read ("ns=".toList ++ index ++ ';' :: rest) rest).map
          fun i => ⟨UInt16.ofNat n, i⟩ := by
  have htext : "ns=".toList ++ index ++ ';' :: rest =
      'n' :: 's' :: '=' :: (index ++ ';' :: rest) := rfl
  rw [htext]
  simp only [readChars, splitAtSemicolon?_append h]
  cases Decimal.readUpTo? 65535 index <;> rfl

/-- A text that begins with an identifier has no namespace. -/
theorem readChars_identifier (i : Identifier) : readChars i.render = .ok ⟨0, i⟩ := by
  have hread := Identifier.read_render i.render i
  have hdispatch : readChars i.render =
      (Identifier.read i.render i.render).map fun i => ⟨0, i⟩ := by
    cases i <;> rfl
  rw [hdispatch, hread]
  rfl

/-- A text that begins with a namespace has that namespace. -/
theorem readChars_namespace (ns : UInt16) (i : Identifier) :
    readChars ('n' :: 's' :: '=' :: Decimal.render ns.toNat ++ ';' :: i.render) = .ok ⟨ns, i⟩ := by
  have hlimit : ns.toNat ≤ 65535 := Nat.le_of_lt_succ ns.toNat_lt
  have hsemicolon : ';' ∉ Decimal.render ns.toNat := Decimal.not_mem_render (by decide) ns.toNat
  have hread := readChars_cut hsemicolon i.render
  simp only [Decimal.readUpTo?_render hlimit, Option.elim_some, Identifier.read_render, Except.map,
    UInt16.ofNat_toNat] at hread
  exact hread

/-- Writing the characters of a node identifier and reading them again changes nothing. -/
theorem readChars_render (id : NodeId) : readChars id.render = .ok id := by
  obtain ⟨ns, i⟩ := id
  by_cases hns : ns = 0
  · subst hns
    exact readChars_identifier i
  · rw [render, if_neg hns]
    exact readChars_namespace ns i

/-- The text of a node identifier reads back as just that. So two node identifiers are the same
exactly if their texts are. -/
theorem read_toText (id : NodeId) :
    read id.toText = .ok id ∧ ∀ other : NodeId, id = other ↔ id.toText = other.toText := by
  have hread : ∀ id : NodeId, read id.toText = .ok id := by
    intro id
    rw [toText, read, String.toList_ofList, readChars_render]
  refine ⟨hread id, ?_⟩
  intro other
  constructor
  · intro h
    rw [h]
  · intro h
    have hsame : (.ok id : Except NodeIdError NodeId) = .ok other := by
      rw [← hread id, h, hread other]
    exact Except.ok.inj hsame

/-- A body may imitate a namespace and an identifier. -/
example : read (text 3 "ns=1;i=2").toText = .ok (text 3 "ns=1;i=2") := by rfl

end NodeId

end NodeAccess
