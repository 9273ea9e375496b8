import NodeAccess.Proofs.Access.Visible

/-!
# Narrowing bit by bit

Of the eight bits of an access level, three are governed by the table: reading and writing the
value and reading its history. Each of them stays when some entry for the caller's roles has the
matching permission, be it the same entry for all three or not. The other five bits pass through.

The grants of a caller are a fold over the visible entries; `RoleGrants.collect_eq` says once what
the fold comes to, and the rest is about bits.
-/

set_option autoImplicit false

namespace NodeAccess

namespace RoleTable

/-- Some entry for one of the roles has the permission bit. -/
def Grants (table : RoleTable) (roles : List NodeId) (bit : UInt32) : Prop :=
  ∃ entry ∈ table, entry.role ∈ roles ∧ entry.permissions.bits &&& bit = bit

/-- The entries for the roles, and of their masks the bits for reading and writing the value and
for reading its history. -/
def governedPart (table : RoleTable) (roles : List NodeId) : RoleTable :=
  (table.filter fun entry => entry.role ∈ roles).map fun entry =>
    { entry with permissions := ⟨entry.permissions.bits &&& 0xE0⟩ }

theorem any_visible_iff (table : RoleTable) (roles : List NodeId) (mask : PermissionMask) :
    (table.visible roles).any (fun entry => entry.permissions.contains mask) = true ↔
      table.Grants roles mask.bits := by
  simp [visible, Grants, PermissionMask.contains]

/-- The governed part of a table grants each governed permission that the table grants, and no
other one. -/
theorem grants_governedPart_iff (table : RoleTable) (roles : List NodeId) {bit : UInt32}
    (hbit : 0xE0 &&& bit = bit) :
    (table.governedPart roles).Grants roles bit ↔ table.Grants roles bit := by
  have hmask : ∀ bits : UInt32, bits &&& 0xE0 &&& bit = bits &&& bit := by
    intro bits
    rw [UInt32.and_assoc, hbit]
  constructor
  · rintro ⟨entry, hentry, hrole, hgrant⟩
    obtain ⟨original, horiginal, rfl⟩ := List.mem_map.mp hentry
    rw [hmask] at hgrant
    exact ⟨original, (List.mem_filter.mp horiginal).1, hrole, hgrant⟩
  · rintro ⟨entry, hentry, hrole, hgrant⟩
    have hkept : entry ∈ table.filter fun entry => entry.role ∈ roles := by
      simp [hentry, hrole]
    refine ⟨_, List.mem_map_of_mem hkept, hrole, ?_⟩
    rw [hmask]
    exact hgrant

end RoleTable

namespace RoleGrants

/-- Adding entries one by one permits what was permitted before or what some entry permits. -/
theorem foldl_add (entries : RoleTable) (g : RoleGrants) :
    entries.foldl add g =
      ⟨g.currentRead || entries.any fun e => e.permissions.contains Permission.read.mask,
        g.currentWrite || entries.any fun e => e.permissions.contains Permission.write.mask,
        g.historyRead ||
          entries.any fun e => e.permissions.contains Permission.readHistory.mask⟩ := by
  induction entries generalizing g with
  | nil => simp
  | cons entry entries ih => simp [ih, add, Bool.or_assoc]

theorem collect_eq (table : RoleTable) (roles : List NodeId) :
    collect table roles =
      ⟨(table.visible roles).any fun e => e.permissions.contains Permission.read.mask,
        (table.visible roles).any fun e => e.permissions.contains Permission.write.mask,
        (table.visible roles).any fun e => e.permissions.contains Permission.readHistory.mask⟩ := by
  rw [collect, foldl_add]
  simp [empty]

/-- Each governed operation is permitted by the table's grant of its own permission. -/
theorem collect_iff (table : RoleTable) (roles : List NodeId) :
    ((collect table roles).currentRead = true ↔ table.Grants roles 0x20) ∧
      ((collect table roles).currentWrite = true ↔ table.Grants roles 0x40) ∧
      ((collect table roles).historyRead = true ↔ table.Grants roles 0x80) := by
  rw [collect_eq]
  exact ⟨table.any_visible_iff roles _, table.any_visible_iff roles _,
    table.any_visible_iff roles _⟩

/-- Tables that grant the same governed permissions come to the same grants. -/
theorem collect_congr {table₁ table₂ : RoleTable} {roles : List NodeId}
    (h : ∀ bit : UInt32, 0xE0 &&& bit = bit →
      (table₁.Grants roles bit ↔ table₂.Grants roles bit)) :
    collect table₁ roles = collect table₂ roles := by
  have hany : ∀ mask : PermissionMask, 0xE0 &&& mask.bits = mask.bits →
      (table₁.visible roles).any (fun e => e.permissions.contains mask) =
        (table₂.visible roles).any (fun e => e.permissions.contains mask) := by
    intro mask hmask
    rw [Bool.eq_iff_iff, RoleTable.any_visible_iff, RoleTable.any_visible_iff]
    exact h mask.bits hmask
  rw [collect_eq, collect_eq, hany _ (by decide), hany _ (by decide), hany _ (by decide)]

/-- An operation stays in a level when it was there and is granted. -/
theorem keep_self_iff (granted : Bool) (operation : AccessLevel) (hne : operation.bits ≠ 0)
    (level : AccessLevel) :
    (keep granted operation level).bits &&& operation.bits = operation.bits ↔
      level.bits &&& operation.bits = operation.bits ∧ granted = true := by
  cases granted with
  | true => simp [keep]
  | false =>
    have hcleared : level.bits &&& ~~~operation.bits &&& operation.bits = 0 := by
      rw [UInt8.and_assoc, UInt8.and_comm (~~~operation.bits), UInt8.and_not_self, UInt8.and_zero]
    simp [keep, AccessLevel.without, hcleared, hne.symm]

/-- Bits apart from an operation do not depend on whether it is granted. -/
theorem keep_and (granted : Bool) {operation : AccessLevel} {bits : UInt8}
    (hapart : ~~~operation.bits &&& bits = bits) (level : AccessLevel) :
    (keep granted operation level).bits &&& bits = level.bits &&& bits := by
  cases granted with
  | true => rfl
  | false => rw [keep, if_neg Bool.false_ne_true, AccessLevel.without, UInt8.and_assoc, hapart]

/-- Applied grants leave each of the three governed bits where it is granted, and the other five
bits as they were. -/
theorem apply_bits (g : RoleGrants) (base : AccessLevel) :
    ((g.apply base).bits &&& 0x01 = 0x01 ↔ base.bits &&& 0x01 = 0x01 ∧ g.currentRead = true) ∧
      ((g.apply base).bits &&& 0x02 = 0x02 ↔ base.bits &&& 0x02 = 0x02 ∧ g.currentWrite = true) ∧
      ((g.apply base).bits &&& 0x04 = 0x04 ↔ base.bits &&& 0x04 = 0x04 ∧ g.historyRead = true) ∧
      (g.apply base).bits &&& 0xF8 = base.bits &&& 0xF8 := by
  -- the three steps go from reading the value, on the inside, to reading the history
  have hread := keep_self_iff g.currentRead .currentRead (by decide) base
  have hwrite := keep_self_iff g.currentWrite .currentWrite (by decide)
    (keep g.currentRead .currentRead base)
  have hhistory := keep_self_iff g.historyRead .historyRead (by decide)
    (keep g.currentWrite .currentWrite (keep g.currentRead .currentRead base))
  refine ⟨?_, ?_, ?_, ?_⟩
  · rw [apply, keep_and _ (by decide), keep_and _ (by decide)]
    exact hread
  · have hbase : (keep g.currentRead .currentRead base).bits &&& 0x02 = base.bits &&& 0x02 :=
      keep_and _ (by decide) base
    rw [apply, keep_and _ (by decide), ← hbase]
    exact hwrite
  · have hbase : (keep g.currentWrite .currentWrite (keep g.currentRead .currentRead base)).bits &&&
        0x04 = base.bits &&& 0x04 := by
      rw [keep_and _ (by decide), keep_and _ (by decide)]
    rw [← hbase]
    exact hhistory
  · rw [apply, keep_and _ (by decide), keep_and _ (by decide), keep_and _ (by decide)]

end RoleGrants

namespace AccessLevel

theorem narrow_bits (base : AccessLevel) (table : RoleTable) (roles : List NodeId) :
    ((base.narrow table roles).bits &&& 0x01 = 0x01 ↔
        base.bits &&& 0x01 = 0x01 ∧ table.Grants roles 0x20) ∧
      ((base.narrow table roles).bits &&& 0x02 = 0x02 ↔
        base.bits &&& 0x02 = 0x02 ∧ table.Grants roles 0x40) ∧
      ((base.narrow table roles).bits &&& 0x04 = 0x04 ↔
        base.bits &&& 0x04 = 0x04 ∧ table.Grants roles 0x80) ∧
      (base.narrow table roles).bits &&& 0xF8 = base.bits &&& 0xF8 := by
  obtain ⟨hread, hwrite, hhistory, hother⟩ := (RoleGrants.collect table roles).apply_bits base
  obtain ⟨hreadGrant, hwriteGrant, hhistoryGrant⟩ := RoleGrants.collect_iff table roles
  rw [hreadGrant] at hread
  rw [hwriteGrant] at hwrite
  rw [hhistoryGrant] at hhistory
  exact ⟨hread, hwrite, hhistory, hother⟩

/-- Only the governed part of a table narrows a level. -/
theorem narrow_governedPart (base : AccessLevel) (table : RoleTable) (roles : List NodeId) :
    base.narrow (table.governedPart roles) roles = base.narrow table roles := by
  have hgrants : RoleGrants.collect (table.governedPart roles) roles =
      RoleGrants.collect table roles :=
    RoleGrants.collect_congr fun _ hbit => table.grants_governedPart_iff roles hbit
  rw [narrow, hgrants, narrow]

theorem and_eq_left_of_contains {a b : AccessLevel} (h : a.contains b = true) :
    b.bits &&& a.bits = b.bits := by
  rw [UInt8.and_comm]
  exact of_decide_eq_true h

end AccessLevel

namespace Variable

variable {R W : Type}

/-- What a caller may do with the value of a variable, exactly. In a session, each of the governed
bits for reading the value, writing it and reading its history is set when the variable's own level
has it and some entry of the governing table, for a role of the session, has the permission; the
other five bits are the variable's own. Without a session no bit is set.

So the level is a part of the variable's own level, whoever asks; and entries for other roles and
further bits of masks play no part in it. -/
theorem userAccessLevel_exact (v : Variable R W) :
    (∀ s : Session,
      let table : RoleTable :=
        if v.attributes.rolePermissions = [] then s.server.defaultTable
        else v.attributes.rolePermissions
      let base : UInt8 := v.attributes.accessLevel.bits
      let user : UInt8 := (v.userAccessLevel (.ofSession s)).bits
      (user &&& 0x01 = 0x01 ↔ base &&& 0x01 = 0x01 ∧ table.Grants s.roles 0x20) ∧
        (user &&& 0x02 = 0x02 ↔ base &&& 0x02 = 0x02 ∧ table.Grants s.roles 0x40) ∧
        (user &&& 0x04 = 0x04 ↔ base &&& 0x04 = 0x04 ∧ table.Grants s.roles 0x80) ∧
        user &&& 0xF8 = base &&& 0xF8 ∧
        v.userAccessLevel (.ofSession s) =
          v.attributes.accessLevel.narrow (table.governedPart s.roles) s.roles) ∧
      (v.userAccessLevel .background).bits = 0 ∧
      ∀ ctx : RequestContext, (v.userAccessLevel ctx).bits &&& v.attributes.accessLevel.bits =
        (v.userAccessLevel ctx).bits := by
  refine ⟨?_, rfl, ?_⟩
  · intro s table base user
    have htable : v.governingTable s = table := by
      simp only [governingTable, RoleTable.governing, List.isEmpty_iff, table]
    have huser : v.userAccessLevel (.ofSession s) =
        v.attributes.accessLevel.narrow table s.roles := by
      rw [← htable]
      rfl
    obtain ⟨hread, hwrite, hhistory, hother⟩ :=
      v.attributes.accessLevel.narrow_bits table s.roles
    rw [← huser] at hread hwrite hhistory hother
    refine ⟨hread, hwrite, hhistory, hother, ?_⟩
    rw [huser, AccessLevel.narrow_governedPart]
  · intro ctx
    have hself : (v.userAccessLevel ctx).contains (v.userAccessLevel ctx) = true := by
      simp [AccessLevel.contains]
    exact AccessLevel.and_eq_left_of_contains (contains_of_contains_userAccessLevel hself)

end Variable

end NodeAccess
