import NodeAccess.Access.WellKnownRole
import NodeAccess.Proofs.Access.Joining
import NodeAccess.Proofs.Access.Mask

/-!
# Roles under the standard table

The standard table has one entry for each well-known role, and the node identifiers of these roles
differ from each other. So what roles hold under it is the join of what the well-known ones among
them hold, one by one; every other node identifier counts for nothing. A permission is held by some
roles together only if one of them holds it alone.
-/

set_option autoImplicit false

namespace NodeAccess

namespace WellKnownRole

theorem mem_all (w : WellKnownRole) : w ∈ all := by
  cases w <;> decide

theorem nodeId_inj {w w' : WellKnownRole} (h : w.nodeId = w'.nodeId) : w = w' := by
  have hnodes : ∀ w ∈ all, ∀ w' ∈ all, w.nodeId = w'.nodeId → w = w' := by decide
  exact hnodes w w.mem_all w' w'.mem_all h

/-- Looking up a node identifier undoes taking the one of a role, and finds nothing else. -/
theorem ofNodeId?_eq_some_iff (id : NodeId) (w : WellKnownRole) :
    ofNodeId? id = some w ↔ id = w.nodeId := by
  unfold ofNodeId?
  constructor
  · intro h
    split at h
    · have hfound := List.find?_some h
      exact (of_decide_eq_true hfound).symm
    · contradiction
  · rintro rfl
    have hnamespace : w.nodeId.namespaceIndex = 0 := rfl
    rw [if_pos hnamespace]
    cases hfind : all.find? fun role => role.nodeId = w.nodeId with
    | none => exact absurd (decide_eq_true rfl) (List.find?_eq_none.mp hfind w w.mem_all)
    | some w' =>
      have hfound := List.find?_some hfind
      rw [nodeId_inj (of_decide_eq_true hfound)]

/-- The permissions of several roles together. -/
def permissionsOf (ws : List WellKnownRole) : PermissionMask :=
  ws.foldl (fun m w => m ||| w.permissions) .empty

theorem permissionsOf_cons (w : WellKnownRole) (ws : List WellKnownRole) :
    permissionsOf (w :: ws) = w.permissions ||| permissionsOf ws := by
  rw [permissionsOf, permissionsOf, PermissionMask.foldl_or, PermissionMask.foldl_or,
    List.toFinset_cons, Finset.sup_insert]
  exact sup_left_comm _ _ _

/-- The roles that hold a permission under the standard table. -/
def holders : Permission → List WellKnownRole
  | .browse | .read | .readHistory | .receiveEvents => all
  | .write | .call => [operator, supervisor, engineer, configureAdmin, securityAdmin]
  | .writeHistorizing => [engineer, configureAdmin, securityAdmin]
  | .readRolePermissions | .writeAttribute | .addNode | .deleteNode | .addReference
  | .removeReference => [configureAdmin, securityAdmin]
  | .writeRolePermissions | .insertHistory | .modifyHistory | .deleteHistory => [securityAdmin]

theorem mem_holders_iff (w : WellKnownRole) (p : Permission) :
    w ∈ holders p ↔ w.permissions.contains p.mask = true := by
  have hroles : ∀ w ∈ all, w ∈ holders p ↔ w.permissions.contains p.mask = true := by
    cases p <;> decide
  exact hroles w w.mem_all

end WellKnownRole

namespace RoleTable

open WellKnownRole

theorem effective_standard_eq_all (roles : List NodeId) :
    standard.effective roles = permissionsOf (all.filter fun w => w.nodeId ∈ roles) := by
  have hvisible : standard.visible roles =
      (all.filter fun w => w.nodeId ∈ roles).map fun w => ⟨w.nodeId, w.permissions⟩ := by
    simp only [visible, standard, List.filter_map, Function.comp_def, List.contains_eq_mem]
  rw [effective, hvisible, List.foldl_map, permissionsOf]

/-- One node identifier alone gives the permissions of the role that it names, if it names one. -/
theorem effective_standard_singleton (id : NodeId) :
    standard.effective [id] = ((ofNodeId? id).map permissions).getD .empty := by
  rw [effective_standard_eq_all]
  cases hrole : ofNodeId? id with
  | none =>
    have hnone : (all.filter fun w => w.nodeId ∈ [id]) = [] := by
      rw [List.filter_eq_nil_iff]
      intro w _ hw
      have hid : id = w.nodeId := (List.mem_singleton.mp (of_decide_eq_true hw)).symm
      rw [(ofNodeId?_eq_some_iff id w).mpr hid] at hrole
      contradiction
    rw [hnone]
    rfl
  | some w =>
    have hid : id = w.nodeId := (ofNodeId?_eq_some_iff id w).mp hrole
    rw [hid]
    cases w <;> rfl

/-- Node identifiers are gone through one by one: each adds the permissions of the role that it
names, or nothing. -/
theorem effective_standard_eq_named (roles : List NodeId) :
    standard.effective roles = permissionsOf (roles.filterMap ofNodeId?) := by
  induction roles with
  | nil => exact effective_standard_eq_all []
  | cons id roles ih =>
    rw [← List.singleton_append, effective_append_roles, ih, effective_standard_singleton,
      List.singleton_append]
    cases hrole : ofNodeId? id with
    | none =>
      rw [List.filterMap_cons_none hrole]
      exact PermissionMask.or_eq_right_of_le bot_le
    | some w =>
      rw [List.filterMap_cons_some hrole, permissionsOf_cons]
      rfl

theorem contains_effective_standard (roles : List NodeId) (p : Permission) :
    (standard.effective roles).contains p.mask = true ↔ ∃ w ∈ holders p, w.nodeId ∈ roles := by
  rw [contains_effective]
  simp only [standard, List.mem_map, exists_exists_and_eq_and, mem_holders_iff]
  constructor
  · rintro ⟨w, -, hrole, hheld⟩
    exact ⟨w, hheld, hrole⟩
  · rintro ⟨w, hheld, hrole⟩
    exact ⟨w, w.mem_all, hrole, hheld⟩

/-- No combination of roles gains anything under the standard table. Whatever node identifiers a
session has, it holds the permissions of the well-known roles among them, joined, and those that
name no such role can as well be left out; a node identifier names a role just if it is the role's
own. So a permission is held just if one of its holders is among the roles. -/
theorem standard_never_escalates (roles : List NodeId) :
    standard.effective roles = permissionsOf (all.filter fun w => w.nodeId ∈ roles) ∧
      (∀ (id : NodeId) (w : WellKnownRole), ofNodeId? id = some w ↔ id = w.nodeId) ∧
      standard.effective roles = permissionsOf (roles.filterMap ofNodeId?) ∧
      standard.effective roles =
        standard.effective (roles.filter fun id => (ofNodeId? id).isSome) ∧
      ∀ p : Permission,
        (standard.effective roles).contains p.mask = true ↔ ∃ w ∈ holders p, w.nodeId ∈ roles := by
  refine ⟨effective_standard_eq_all roles, ofNodeId?_eq_some_iff,
    effective_standard_eq_named roles, ?_, contains_effective_standard roles⟩
  rw [effective_standard_eq_named, effective_standard_eq_named, List.filterMap_filter]
  congr 2
  funext id
  cases ofNodeId? id <;> rfl

end RoleTable

end NodeAccess
