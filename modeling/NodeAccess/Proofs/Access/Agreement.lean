import Mathlib.Data.List.Basic
import NodeAccess.Proofs.Access.Narrowing

/-!
# The ways to read a table agree

A table is read for roles in three ways: for the entries, for all permissions, and for the three
governed operations. Entry by entry, the grants are told from the entry's own mask; since each of
the operations needs a single bit, they may as well be told from the joined masks. So the
permissions decide the grants, and both are decided by the visible entries.
-/

set_option autoImplicit false

namespace NodeAccess

namespace PermissionMask

/-- A mask of a single bit is contained in a mask that has the bit. -/
theorem contains_twoPow (a : PermissionMask) {i : Nat} (hi : i < 32) :
    a.contains ⟨⟨BitVec.twoPow 32 i⟩⟩ = a.bits.toBitVec.getLsbD i := by
  rw [Bool.eq_iff_iff, contains, decide_eq_true_iff, ← UInt32.toBitVec_inj, UInt32.toBitVec_and,
    BitVec.and_twoPow]
  constructor
  · intro h
    by_contra hbit
    rw [if_neg hbit] at h
    have hzero := congrArg (fun x => x.getLsbD i) h
    simp [hi] at hzero
  · intro hbit
    rw [if_pos hbit]

theorem toBitVec_or (a b : PermissionMask) :
    (a ||| b).bits.toBitVec = a.bits.toBitVec ||| b.bits.toBitVec :=
  UInt32.toBitVec_or a.bits b.bits

/-- What a mask permits of the three governed operations. -/
def grants (a : PermissionMask) : RoleGrants where
  currentRead := a.contains Permission.read.mask
  currentWrite := a.contains Permission.write.mask
  historyRead := a.contains Permission.readHistory.mask

end PermissionMask

namespace RoleGrants

instance : OrOp RoleGrants :=
  ⟨fun g h => ⟨g.currentRead || h.currentRead, g.currentWrite || h.currentWrite,
    g.historyRead || h.historyRead⟩⟩

end RoleGrants

namespace Permission

theorem mask_eq_twoPow (p : Permission) : p.mask = ⟨⟨BitVec.twoPow 32 p.ctorIdx⟩⟩ := by
  cases p <;> rfl

theorem ctorIdx_lt (p : Permission) : p.ctorIdx < 32 := by
  cases p <;> decide

end Permission

namespace PermissionMask

/-- A permission is in joined masks when it is in one of them. Of a mask with two bits, each might
come from another one. -/
theorem contains_or (a b : PermissionMask) (p : Permission) :
    (a ||| b).contains p.mask = (a.contains p.mask || b.contains p.mask) := by
  rw [p.mask_eq_twoPow, contains_twoPow _ p.ctorIdx_lt, contains_twoPow _ p.ctorIdx_lt,
    contains_twoPow _ p.ctorIdx_lt, toBitVec_or, BitVec.getLsbD_or]

theorem grants_or (a b : PermissionMask) : (a ||| b).grants = a.grants ||| b.grants := by
  rw [grants, contains_or, contains_or, contains_or]
  rfl

end PermissionMask

namespace RoleGrants

/-- The grants of roles are those of all their permissions together. -/
theorem collect_eq_grants (table : RoleTable) (roles : List NodeId) :
    collect table roles = (table.effective roles).grants := by
  have hstep : ∀ (m : PermissionMask) (e : RolePermission),
      add m.grants e = (m ||| e.permissions).grants := by
    intro m e
    rw [PermissionMask.grants_or]
    rfl
  have hempty : empty = PermissionMask.empty.grants := by decide
  rw [collect, RoleTable.effective, hempty]
  exact List.foldl_hom _ hstep

end RoleGrants

namespace RoleTable

variable (table : RoleTable) (roles roles₁ roles₂ : List NodeId)

theorem visible_sublist : (table.visible roles).Sublist table :=
  List.filter_sublist

/-- The entries for the roles are kept as often as they occur, and no other one is. -/
theorem count_visible (entry : RolePermission) :
    (table.visible roles).count entry = if entry.role ∈ roles then table.count entry else 0 := by
  unfold visible
  by_cases hrole : entry.role ∈ roles
  · rw [if_pos hrole, List.count_filter]
    simpa using hrole
  · rw [if_neg hrole, List.count_eq_zero]
    simp [hrole]

/-- One after the other, two lists of roles leave the entries for the roles in both. -/
theorem visible_visible :
    (table.visible roles₁).visible roles₂ = table.visible (roles₁ ∩ roles₂) := by
  unfold visible
  rw [List.filter_filter]
  apply List.filter_congr
  intro entry _
  rw [Bool.eq_iff_iff]
  simp [and_comm]

theorem visible_self : (table.visible roles).visible roles = table.visible roles := by
  rw [visible_visible]
  unfold visible
  apply List.filter_congr
  simp

/-- The three ways to read a table for roles agree with each other. All permissions are the union of
the entries; an operation is granted when its permission is among them; the entries are those of the
table for the roles, in their order and as often as they occur there. Nothing is lost where a table
is cut down to the entries for the roles before it is read, and cutting it down for two lists of
roles is cutting it down for the roles that are in both. -/
theorem readings_agree :
    table.effective roles = (table.visible roles).union ∧
      ((RoleGrants.collect table roles).currentRead =
          (table.effective roles).contains Permission.read.mask ∧
        (RoleGrants.collect table roles).currentWrite =
          (table.effective roles).contains Permission.write.mask ∧
        (RoleGrants.collect table roles).historyRead =
          (table.effective roles).contains Permission.readHistory.mask) ∧
      ((table.visible roles).Sublist table ∧ ∀ entry : RolePermission,
        (table.visible roles).count entry =
          if entry.role ∈ roles then table.count entry else 0) ∧
      ((table.visible roles).effective roles = table.effective roles ∧
        RoleGrants.collect (table.visible roles) roles = RoleGrants.collect table roles ∧
        (table.visible roles).visible roles = table.visible roles) ∧
      (table.visible roles₁).visible roles₂ = table.visible (roles₁ ∩ roles₂) := by
  have hself := table.visible_self roles
  refine ⟨table.effective_eq_union_visible roles, ?_, ⟨table.visible_sublist roles,
    table.count_visible roles⟩, ⟨?_, ?_, hself⟩, table.visible_visible roles₁ roles₂⟩
  · rw [RoleGrants.collect_eq_grants]
    exact ⟨rfl, rfl, rfl⟩
  · rw [effective, hself, effective]
  · rw [RoleGrants.collect, hself, RoleGrants.collect]

end RoleTable

end NodeAccess
