import Mathlib.Data.List.Forall2
import NodeAccess.Proofs.Access.Agreement

/-!
# Lists of permissions and masks

Settings list permissions by name, while tables hold masks. The mask of a list has the bits of the
listed permissions and no other one, because every permission has a bit of its own, at its place in
the list of all permissions. Entry by entry this carries over to configured tables, where what a
session holds can be told from the lists.
-/

set_option autoImplicit false

namespace NodeAccess

namespace PermissionMask

/-- Is the bit in place `i` set? The lowest bit is in place zero. -/
def hasBit (a : PermissionMask) (i : Nat) : Bool :=
  a.bits.toBitVec.getLsbD i

theorem hasBit_or (a b : PermissionMask) (i : Nat) :
    (a ||| b).hasBit i = (a.hasBit i || b.hasBit i) := by
  unfold hasBit
  rw [toBitVec_or, BitVec.getLsbD_or]

theorem eq_of_hasBit {a b : PermissionMask} (h : ∀ i, a.hasBit i = b.hasBit i) : a = b := by
  have hvec : a.bits.toBitVec = b.bits.toBitVec := BitVec.eq_of_getLsbD_eq fun i _ => h i
  exact congrArg PermissionMask.mk (UInt32.toBitVec_inj.mp hvec)

/-- Joining masks to one that is there already leaves no bit out and adds none of its own. -/
theorem hasBit_foldl (ms : List PermissionMask) (a : PermissionMask) (i : Nat) :
    (ms.foldl (· ||| ·) a).hasBit i = true ↔ a.hasBit i = true ∨ ∃ m ∈ ms, m.hasBit i = true := by
  induction ms generalizing a with
  | nil => simp
  | cons m ms ih =>
    rw [List.foldl_cons, ih, hasBit_or, Bool.or_eq_true, or_assoc]
    simp only [List.mem_cons, exists_eq_or_imp]

theorem hasBit_foldl_empty (ms : List PermissionMask) (i : Nat) :
    (ms.foldl (· ||| ·) empty).hasBit i = true ↔ ∃ m ∈ ms, m.hasBit i = true := by
  rw [hasBit_foldl, show empty.hasBit i = false from BitVec.getLsbD_zero]
  simp

end PermissionMask

namespace Permission

theorem getElem?_all_eq_some_iff (p : Permission) (i : Nat) :
    all[i]? = some p ↔ p.ctorIdx = i := by
  constructor
  · intro h
    have hplaces : ∀ j : Fin all.length, (all[j]).ctorIdx = j.val := by decide
    obtain ⟨hi, rfl⟩ := List.getElem?_eq_some_iff.mp h
    exact hplaces ⟨i, hi⟩
  · rintro rfl
    cases p <;> rfl

/-- The one bit of a permission is in the place where the permission is listed. -/
theorem hasBit_mask (p : Permission) (i : Nat) :
    p.mask.hasBit i = true ↔ all[i]? = some p := by
  rw [getElem?_all_eq_some_iff, mask_eq_twoPow, PermissionMask.hasBit, BitVec.getLsbD_twoPow,
    Bool.and_eq_true, decide_eq_true_iff, decide_eq_true_iff]
  exact and_iff_right p.ctorIdx_lt

theorem contains_mask_iff (a : PermissionMask) (p : Permission) :
    a.contains p.mask = true ↔ a.hasBit p.ctorIdx = true := by
  rw [mask_eq_twoPow, PermissionMask.contains_twoPow a p.ctorIdx_lt, PermissionMask.hasBit]

theorem hasBit_maskOf (ps : List Permission) (i : Nat) :
    (maskOf ps).hasBit i = true ↔ ∃ p ∈ ps, all[i]? = some p := by
  have hfold : maskOf ps = (ps.map mask).foldl (· ||| ·) .empty := List.foldl_map.symm
  rw [hfold, PermissionMask.hasBit_foldl_empty]
  simp only [List.mem_map, exists_exists_and_eq_and, hasBit_mask]

theorem contains_maskOf (ps : List Permission) (p : Permission) :
    (maskOf ps).contains p.mask = true ↔ p ∈ ps := by
  rw [contains_mask_iff, hasBit_maskOf, (getElem?_all_eq_some_iff p p.ctorIdx).mpr rfl]
  simp

/-- Masks tell lists apart up to order and repetition. -/
theorem maskOf_eq_maskOf_iff (ps qs : List Permission) :
    maskOf ps = maskOf qs ↔ ∀ p, p ∈ ps ↔ p ∈ qs := by
  constructor
  · intro h p
    rw [← contains_maskOf, h, contains_maskOf]
  · intro h
    apply PermissionMask.eq_of_hasBit
    intro i
    rw [Bool.eq_iff_iff, hasBit_maskOf, hasBit_maskOf]
    simp only [h]

end Permission

namespace RoleTable

/-- A permission is held under a table when an entry for the roles has it, and never by putting
entries together. -/
theorem contains_effective (table : RoleTable) (roles : List NodeId) (p : Permission) :
    (table.effective roles).contains p.mask = true ↔
      ∃ e ∈ table, e.role ∈ roles ∧ e.permissions.contains p.mask = true := by
  rw [effective_eq_union_visible, union, Permission.contains_mask_iff,
    PermissionMask.hasBit_foldl_empty]
  simp [visible, Permission.contains_mask_iff, and_assoc]

end RoleTable

namespace Settings

variable (c : Settings)

theorem table_forall₂ :
    List.Forall₂ (fun setting entry => entry = ⟨setting.role, Permission.maskOf setting.permissions⟩)
      c.security.defaultRoles c.table := by
  rw [table, List.forall₂_map_right_iff, List.forall₂_same]
  exact fun setting _ => rfl

/-- What roles hold under a configured table is what is listed for them. -/
theorem contains_effective_table (roles : List NodeId) (p : Permission) :
    (c.table.effective roles).contains p.mask = true ↔
      ∃ setting ∈ c.security.defaultRoles, setting.role ∈ roles ∧ p ∈ setting.permissions := by
  rw [RoleTable.contains_effective, table]
  simp only [List.mem_map, exists_exists_and_eq_and, RoleSetting.toEntry,
    Permission.contains_maskOf]

theorem defaultTable_of_ne_nil {c : Settings} (h : c.security.defaultRoles ≠ []) :
    (Server.ofSettings c).defaultTable = c.table := by
  have htable : c.table.isEmpty = false := by simpa [table] using h
  rw [Server.ofSettings, htable]
  rfl

end Settings

namespace Variable

variable {R W : Type}

theorem contains_userPermissions {v : Variable R W} {s : Session} {c : Settings}
    (hown : v.attributes.rolePermissions = []) (hserver : s.server.defaultTable = c.table)
    (p : Permission) :
    (v.userPermissions (.ofSession s)).contains p.mask = true ↔
      ∃ setting ∈ c.security.defaultRoles, setting.role ∈ s.roles ∧ p ∈ setting.permissions := by
  have hgoverning : v.governingTable s = c.table := by
    rw [governingTable, RoleTable.governing, hown, hserver]
    rfl
  show ((v.governingTable s).effective s.roles).contains p.mask = true ↔ _
  rw [hgoverning, c.contains_effective_table]

/-- Permissions are held as they are listed. The mask of a list has the bit of each permission in it
and no other bit, so two lists have the same mask when they have the same members. A configured table
has an entry for each setting, in order, with the mask of what is listed there. Where such a table
governs, a session holds a permission if a setting for one of its roles lists it. -/
theorem permissions_held_as_listed :
    (∀ ps : List Permission,
      (∀ p, (Permission.maskOf ps).contains p.mask = true ↔ p ∈ ps) ∧
      (∀ i, (Permission.maskOf ps).hasBit i = true ↔ ∃ p ∈ ps, Permission.all[i]? = some p) ∧
      ∀ qs, Permission.maskOf ps = Permission.maskOf qs ↔ ∀ p, p ∈ ps ↔ p ∈ qs) ∧
    ∀ c : Settings,
      List.Forall₂
        (fun setting entry => entry = ⟨setting.role, Permission.maskOf setting.permissions⟩)
        c.security.defaultRoles c.table ∧
      (c.security.defaultRoles ≠ [] → (Server.ofSettings c).defaultTable = c.table) ∧
      ∀ (v : Variable R W) (s : Session), v.attributes.rolePermissions = [] →
        s.server.defaultTable = c.table → ∀ p : Permission,
          (v.userPermissions (.ofSession s)).contains p.mask = true ↔
            ∃ setting ∈ c.security.defaultRoles,
              setting.role ∈ s.roles ∧ p ∈ setting.permissions := by
  refine ⟨fun ps => ⟨?_, ?_, ?_⟩, fun c => ⟨c.table_forall₂, ?_, ?_⟩⟩
  · exact Permission.contains_maskOf ps
  · exact Permission.hasBit_maskOf ps
  · exact Permission.maskOf_eq_maskOf_iff ps
  · exact Settings.defaultTable_of_ne_nil
  · intro v s hown hserver
    exact contains_userPermissions hown hserver

/-- Settings that list operators twice, with an engineer between. -/
def operatorTwice : Settings where
  security :=
    { defaultRoles :=
        [⟨WellKnownRole.operator.nodeId, [.browse, .read, .browse]⟩,
          ⟨WellKnownRole.engineer.nodeId, [.write]⟩,
          ⟨WellKnownRole.operator.nodeId, [.call]⟩] }

/-- A valve without a table of its own. -/
def valve : Variable Unit Unit where
  attributes :=
    { nodeId := .text 2 "Valve"
      browseName := ⟨2, "Valve"⟩
      dataType := .numeric 0 1 }
  state := {}

/-- An operator holds what either setting for operators lists, and not what the engineer's does. -/
theorem permissions_held_as_listed_valve :
    let s : Session := ⟨Guid.ofNat 1, [WellKnownRole.operator.nodeId], .ofSettings operatorTwice⟩
    valve.attributes.rolePermissions = [] ∧ operatorTwice.security.defaultRoles ≠ [] ∧
      s.server.defaultTable = operatorTwice.table ∧ operatorTwice.table.length = 3 ∧
      (valve.userPermissions (.ofSession s)).contains Permission.call.mask = true ∧
      (valve.userPermissions (.ofSession s)).contains Permission.write.mask = false := by
  intro s
  have hlisted : operatorTwice.security.defaultRoles ≠ [] := by decide
  obtain ⟨-, hsettings⟩ := permissions_held_as_listed (R := Unit) (W := Unit)
  obtain ⟨-, hserver, hheld⟩ := hsettings operatorTwice
  have hvalve := hheld valve s rfl (hserver hlisted)
  refine ⟨rfl, hlisted, hserver hlisted, rfl, (hvalve .call).mpr ?_, ?_⟩
  · decide
  · rw [← Bool.not_eq_true, hvalve .write]
    decide

end Variable

end NodeAccess
