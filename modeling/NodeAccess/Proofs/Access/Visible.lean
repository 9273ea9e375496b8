import NodeAccess.Access.Grants
import NodeAccess.Variable

/-!
# What a caller holds is read off the visible entries

The permissions of a caller and the narrowing of an access level are both folds over the entries
of the governing table that are for the caller's roles. So they agree wherever those entries agree,
and narrowing never adds an operation to the level that it starts from.
-/

set_option autoImplicit false

namespace NodeAccess

namespace AccessLevel

/-- Taking bits away adds none. -/
theorem contains_of_contains_without {a b c : AccessLevel}
    (h : (a.without b).contains c = true) : a.contains c = true := by
  have hc : a.bits &&& ~~~b.bits &&& c.bits = c.bits := of_decide_eq_true h
  apply decide_eq_true
  calc a.bits &&& c.bits
      = a.bits &&& (a.bits &&& ~~~b.bits &&& c.bits) := by rw [hc]
    _ = a.bits &&& ~~~b.bits &&& c.bits := by
        rw [← UInt8.and_assoc, ← UInt8.and_assoc, UInt8.and_self]
    _ = c.bits := hc

/-- What the empty level contains is contained in every level. -/
theorem contains_of_contains_empty {a c : AccessLevel} (h : empty.contains c = true) :
    a.contains c = true := by
  have hc : c.bits = 0 := by simpa [contains, empty, eq_comm] using h
  simp [contains, hc]

/-- The lowest bit is the one for reading the value. -/
theorem contains_currentRead_iff (a : AccessLevel) :
    a.contains .currentRead = true ↔ a.bits &&& 0x01 = 0x01 :=
  decide_eq_true_iff

/-- The second bit is the one for writing the value. -/
theorem contains_currentWrite_iff (a : AccessLevel) :
    a.contains .currentWrite = true ↔ a.bits &&& 0x02 = 0x02 :=
  decide_eq_true_iff

end AccessLevel

namespace RoleGrants

/-- An operation is either left alone or taken away, so nothing is added. -/
theorem contains_of_contains_keep {granted : Bool} {operation level c : AccessLevel}
    (h : (keep granted operation level).contains c = true) : level.contains c = true := by
  unfold keep at h
  split at h
  · exact h
  · exact AccessLevel.contains_of_contains_without h

/-- Applied grants leave a part of the level that they are applied to. -/
theorem contains_of_contains_apply {g : RoleGrants} {base c : AccessLevel}
    (h : (g.apply base).contains c = true) : base.contains c = true :=
  contains_of_contains_keep (contains_of_contains_keep (contains_of_contains_keep h))

end RoleGrants

namespace RoleTable

/-- The bits of all masks of a table, whatever the roles of its entries. -/
def union (table : RoleTable) : PermissionMask :=
  (table.map RolePermission.permissions).foldl (· ||| ·) .empty

/-- What roles hold under a table is the union of the entries that they see. -/
theorem effective_eq_union_visible (table : RoleTable) (roles : List NodeId) :
    table.effective roles = (table.visible roles).union := by
  rw [effective, union, List.foldl_map]

/-- The same visible entries narrow every level alike. -/
theorem narrow_congr {table₁ table₂ : RoleTable} {roles₁ roles₂ : List NodeId}
    (h : table₁.visible roles₁ = table₂.visible roles₂) (base : AccessLevel) :
    base.narrow table₁ roles₁ = base.narrow table₂ roles₂ := by
  unfold AccessLevel.narrow RoleGrants.collect
  rw [h]

/-- A table with entries governs its node, whatever the table of the server. -/
theorem governing_of_ne_nil {ofNode : RoleTable} (h : ofNode ≠ []) (ofServer : RoleTable) :
    governing ofNode ofServer = ofNode := by
  cases ofNode with
  | nil => contradiction
  | cons entry rest => rfl

/-- An entry for none of the roles is not visible, wherever it stands. -/
theorem visible_insert {roles : List NodeId} {entry : RolePermission} (h : entry.role ∉ roles)
    (before behind : RoleTable) :
    visible (before ++ entry :: behind) roles = visible (before ++ behind) roles := by
  have hentry : roles.contains entry.role = false := by simpa using h
  unfold visible
  rw [List.filter_append, List.filter_append, List.filter_cons_of_neg (by simpa using hentry)]

end RoleTable

namespace Variable

variable {R W : Type}

/-- A caller holds the union of the entries that are visible to the caller. -/
theorem userPermissions_eq_union (v : Variable R W) (ctx : RequestContext) :
    v.userPermissions ctx = (v.userRolePermissions ctx).union := by
  unfold userPermissions userRolePermissions
  cases ctx.session with
  | none => rfl
  | some s => exact RoleTable.effective_eq_union_visible (v.governingTable s) s.roles

/-- A caller may do no more with the value than the variable admits to anyone. -/
theorem contains_of_contains_userAccessLevel {v : Variable R W} {ctx : RequestContext}
    {c : AccessLevel} (h : (v.userAccessLevel ctx).contains c = true) :
    v.attributes.accessLevel.contains c = true := by
  unfold userAccessLevel at h
  cases hs : ctx.session with
  | none =>
    rw [hs] at h
    exact AccessLevel.contains_of_contains_empty h
  | some s =>
    rw [hs] at h
    exact RoleGrants.contains_of_contains_apply h

end Variable

end NodeAccess
