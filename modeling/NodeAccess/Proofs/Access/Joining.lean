import Mathlib.Data.Finset.Lattice.Fold
import NodeAccess.Proofs.Access.Agreement

/-!
# Tables and roles are joined

Masks are ordered by what they contain and joined bit by bit. The permissions that a table gives to
roles are the join over the set of matching entries, and that set is a union in the roles as well as
in the table. Everything else follows: grants are told from permissions, a level is cut down to what
the grants leave of the full level, and neither the order nor the repetition of roles and of entries
matters.
-/

set_option autoImplicit false

namespace NodeAccess

theorem bitVec_or_and_self {w : Nat} (x y : BitVec w) : (x ||| y) &&& x = x := by
  ext i hi
  rw [BitVec.getElem_and, BitVec.getElem_or]
  cases x[i] <;> cases y[i] <;> rfl

namespace PermissionMask

instance : Max PermissionMask := ⟨(· ||| ·)⟩

instance : SemilatticeSup PermissionMask :=
  SemilatticeSup.mk'
    (fun a b => congrArg PermissionMask.mk (UInt32.or_comm a.bits b.bits))
    (fun a b c => congrArg PermissionMask.mk (UInt32.or_assoc a.bits b.bits c.bits))
    (fun a => congrArg PermissionMask.mk (UInt32.or_self (a := a.bits)))

instance : OrderBot PermissionMask where
  bot := .empty
  bot_le a := congrArg PermissionMask.mk (UInt32.zero_or (a := a.bits))

theorem or_eq_right_of_le {a b : PermissionMask} (h : a ≤ b) : a ||| b = b :=
  sup_eq_right.mpr h

/-- A mask contains what lies below it. -/
theorem contains_of_le {a b : PermissionMask} (h : a ≤ b) : b.contains a = true := by
  apply decide_eq_true
  rw [← or_eq_right_of_le h, ← UInt32.toBitVec_inj, UInt32.toBitVec_and, toBitVec_or]
  exact bitVec_or_and_self _ _

/-- Joining masks one by one comes to the join over the set of them. -/
theorem foldl_or {α : Type} [DecidableEq α] (f : α → PermissionMask) (l : List α)
    (a : PermissionMask) : l.foldl (fun m x => m ||| f x) a = a ⊔ l.toFinset.sup f := by
  induction l generalizing a with
  | nil => simp
  | cons x l ih =>
    rw [List.foldl_cons, ih, List.toFinset_cons, Finset.sup_insert, ← sup_assoc]
    rfl

end PermissionMask

namespace RoleTable

/-- The entries of a table that are for one of the roles, as a set. -/
def matching (table : RoleTable) (roles : List NodeId) : Finset RolePermission :=
  table.toFinset.filter fun entry => entry.role ∈ roles

theorem mem_matching {table : RoleTable} {roles : List NodeId} {entry : RolePermission} :
    entry ∈ table.matching roles ↔ entry ∈ table ∧ entry.role ∈ roles := by
  simp [matching]

theorem matching_append_roles (table : RoleTable) (roles₁ roles₂ : List NodeId) :
    table.matching (roles₁ ++ roles₂) = table.matching roles₁ ∪ table.matching roles₂ := by
  ext entry
  simp only [Finset.mem_union, mem_matching, List.mem_append]
  tauto

theorem matching_append_table (table₁ table₂ : RoleTable) (roles : List NodeId) :
    matching (table₁ ++ table₂) roles = table₁.matching roles ∪ table₂.matching roles := by
  ext entry
  simp only [Finset.mem_union, mem_matching, List.mem_append]
  tauto

theorem matching_mono {table table' : RoleTable} {roles roles' : List NodeId}
    (htable : table ⊆ table') (hroles : roles ⊆ roles') :
    table.matching roles ⊆ table'.matching roles' := by
  intro entry hentry
  obtain ⟨hmem, hrole⟩ := mem_matching.mp hentry
  exact mem_matching.mpr ⟨htable hmem, hroles hrole⟩

/-- All permissions of roles are the join over the matching entries. -/
theorem effective_eq_sup (table : RoleTable) (roles : List NodeId) :
    table.effective roles = (table.matching roles).sup RolePermission.permissions := by
  have hmatching : (table.visible roles).toFinset = table.matching roles := by
    ext entry
    simp [visible, mem_matching]
  rw [effective, PermissionMask.foldl_or, hmatching]
  exact bot_sup_eq _

theorem effective_append_roles (table : RoleTable) (roles₁ roles₂ : List NodeId) :
    table.effective (roles₁ ++ roles₂) = table.effective roles₁ ||| table.effective roles₂ := by
  rw [effective_eq_sup, effective_eq_sup, effective_eq_sup, matching_append_roles]
  exact Finset.sup_union

theorem effective_append_table (table₁ table₂ : RoleTable) (roles : List NodeId) :
    effective (table₁ ++ table₂) roles = table₁.effective roles ||| table₂.effective roles := by
  rw [effective_eq_sup, effective_eq_sup, effective_eq_sup, matching_append_table]
  exact Finset.sup_union

theorem effective_mono {table table' : RoleTable} {roles roles' : List NodeId}
    (htable : table ⊆ table') (hroles : roles ⊆ roles') :
    table.effective roles ≤ table'.effective roles' := by
  rw [effective_eq_sup, effective_eq_sup]
  exact Finset.sup_mono (matching_mono htable hroles)

end RoleTable

namespace AccessLevel

/-- Every operation. -/
def full : AccessLevel := ⟨0xFF⟩

theorem and_full (a : AccessLevel) : a &&& full = a :=
  congrArg AccessLevel.mk UInt8.and_neg_one

theorem and_or_distrib (a b c : AccessLevel) : a &&& (b ||| c) = a &&& b ||| a &&& c := by
  have hbits : a.bits &&& (b.bits ||| c.bits) = a.bits &&& b.bits ||| a.bits &&& c.bits := by
    rw [← UInt8.toBitVec_inj]
    simp only [UInt8.toBitVec_and, UInt8.toBitVec_or]
    exact BitVec.and_or_distrib_left
  exact congrArg AccessLevel.mk hbits

theorem and_and_and_left (a b c : AccessLevel) : (a &&& b) &&& (a &&& c) = (a &&& b) &&& c := by
  have hbits : (a.bits &&& b.bits) &&& (a.bits &&& c.bits) = (a.bits &&& b.bits) &&& c.bits := by
    rw [← UInt8.and_assoc, UInt8.and_comm (a.bits &&& b.bits) a.bits, ← UInt8.and_assoc,
      UInt8.and_self]
  exact congrArg AccessLevel.mk hbits

/-- A level has no bit outside what it is joined to. -/
theorem isSubsetOf_or (a b : AccessLevel) : a.isSubsetOf (a ||| b) = true := by
  apply decide_eq_true
  rw [UInt8.and_comm, ← UInt8.toBitVec_inj, UInt8.toBitVec_and]
  exact bitVec_or_and_self _ _

end AccessLevel

namespace RoleGrants

/-- What is cleared does not depend on what else the level is cut down to. -/
theorem keep_of_and (granted : Bool) (operation base level : AccessLevel) :
    keep granted operation (base &&& level) = base &&& keep granted operation level := by
  cases granted with
  | true => rfl
  | false => exact congrArg AccessLevel.mk (UInt8.and_assoc _ _ _)

/-- Applied grants cut a level down to what they leave of the full level. -/
theorem apply_eq_and (g : RoleGrants) (base : AccessLevel) :
    g.apply base = base &&& g.apply .full := by
  have hbase : g.apply base = g.apply (base &&& .full) := by rw [AccessLevel.and_full]
  rw [hbase]
  simp only [apply, keep_of_and]

theorem apply_full_or (g h : RoleGrants) :
    (g ||| h).apply .full = g.apply .full ||| h.apply .full := by
  have hall : ∀ r w y r' w' y' : Bool,
      ((⟨r, w, y⟩ : RoleGrants) ||| ⟨r', w', y'⟩).apply .full =
        (⟨r, w, y⟩ : RoleGrants).apply .full ||| (⟨r', w', y'⟩ : RoleGrants).apply .full := by
    decide
  exact hall _ _ _ _ _ _

theorem apply_or (g h : RoleGrants) (base : AccessLevel) :
    (g ||| h).apply base = g.apply base ||| h.apply base := by
  rw [apply_eq_and, apply_full_or, AccessLevel.and_or_distrib, ← apply_eq_and, ← apply_eq_and]

/-- One after the other, two grants leave what both of them leave. -/
theorem apply_apply (g h : RoleGrants) (base : AccessLevel) :
    h.apply (g.apply base) = g.apply base &&& h.apply base := by
  rw [h.apply_eq_and, g.apply_eq_and, h.apply_eq_and base, AccessLevel.and_and_and_left]

theorem collect_append_roles (table : RoleTable) (roles₁ roles₂ : List NodeId) :
    collect table (roles₁ ++ roles₂) = collect table roles₁ ||| collect table roles₂ := by
  simp only [collect_eq_grants, RoleTable.effective_append_roles, PermissionMask.grants_or]

theorem collect_append_table (table₁ table₂ : RoleTable) (roles : List NodeId) :
    collect (table₁ ++ table₂) roles = collect table₁ roles ||| collect table₂ roles := by
  simp only [collect_eq_grants, RoleTable.effective_append_table, PermissionMask.grants_or]

/-- Each operation that the one grants admit is admitted by the other ones. -/
structure Within (g h : RoleGrants) : Prop where
  currentRead : g.currentRead = true → h.currentRead = true
  currentWrite : g.currentWrite = true → h.currentWrite = true
  historyRead : g.historyRead = true → h.historyRead = true

theorem within_or (g h : RoleGrants) : g.Within (g ||| h) :=
  ⟨Bool.or_inl, Bool.or_inl, Bool.or_inl⟩

end RoleGrants

namespace RoleTable

/-- Permissions, grants and levels come out the same. -/
structure ResolvesLike (table table' : RoleTable) (roles roles' : List NodeId) : Prop where
  permissions : table.effective roles = table'.effective roles'
  grants : RoleGrants.collect table roles = RoleGrants.collect table' roles'
  levels : ∀ base : AccessLevel, base.narrow table roles = base.narrow table' roles'

/-- Nothing that comes out for the first table and roles is missing for the second ones. -/
structure ResolvesWithin (table table' : RoleTable) (roles roles' : List NodeId) : Prop where
  entries : (table.visible roles).Sublist (table'.visible roles')
  permissions : (table'.effective roles').contains (table.effective roles) = true
  grants : (RoleGrants.collect table roles).Within (RoleGrants.collect table' roles')
  levels : ∀ base : AccessLevel,
    (base.narrow table roles).isSubsetOf (base.narrow table' roles') = true

/-- All three are decided by the permissions. -/
theorem resolvesLike_of_effective_eq {table table' : RoleTable} {roles roles' : List NodeId}
    (h : table.effective roles = table'.effective roles') :
    table.ResolvesLike table' roles roles' := by
  have hgrants : RoleGrants.collect table roles = RoleGrants.collect table' roles' := by
    rw [RoleGrants.collect_eq_grants, RoleGrants.collect_eq_grants, h]
  refine ⟨h, hgrants, ?_⟩
  intro base
  rw [AccessLevel.narrow, AccessLevel.narrow, hgrants]

theorem resolvesLike_of_mem_iff {table table' : RoleTable} {roles roles' : List NodeId}
    (htable : ∀ entry, entry ∈ table ↔ entry ∈ table')
    (hroles : ∀ role, role ∈ roles ↔ role ∈ roles') :
    table.ResolvesLike table' roles roles' := by
  apply resolvesLike_of_effective_eq
  apply le_antisymm
  · exact effective_mono (fun _ => (htable _).mp) (fun _ => (hroles _).mp)
  · exact effective_mono (fun _ => (htable _).mpr) (fun _ => (hroles _).mpr)

theorem resolvesWithin_of_le {table table' : RoleTable} {roles roles' : List NodeId}
    (hentries : (table.visible roles).Sublist (table'.visible roles'))
    (h : table.effective roles ≤ table'.effective roles') :
    table.ResolvesWithin table' roles roles' := by
  have hgrants : RoleGrants.collect table' roles' =
      RoleGrants.collect table roles ||| RoleGrants.collect table' roles' := by
    rw [RoleGrants.collect_eq_grants, RoleGrants.collect_eq_grants, ← PermissionMask.grants_or,
      PermissionMask.or_eq_right_of_le h]
  refine ⟨hentries, PermissionMask.contains_of_le h, ?_, ?_⟩
  · rw [hgrants]
    exact RoleGrants.within_or _ _
  · intro base
    rw [AccessLevel.narrow, AccessLevel.narrow, hgrants, RoleGrants.apply_or]
    exact AccessLevel.isSubsetOf_or _ _

theorem visible_sublist_of_subset (table : RoleTable) {roles roles' : List NodeId}
    (h : roles ⊆ roles') : (table.visible roles).Sublist (table.visible roles') := by
  apply List.monotone_filter_right
  intro entry hentry
  simp only [List.contains_eq_mem, decide_eq_true_iff] at hentry ⊢
  exact h hentry

theorem visible_congr_roles (table : RoleTable) {roles roles' : List NodeId}
    (h : ∀ role, role ∈ roles ↔ role ∈ roles') : table.visible roles = table.visible roles' := by
  unfold visible
  apply List.filter_congr
  intro entry _
  simp [h]

/-- What tables give to roles is joined from what they give to the parts. Permissions and grants are
joined over the parts of the roles and of the table, and levels over the parts of the roles; a level
that is narrowed twice keeps what it keeps both times. Hence roles matter as a set only, and so do
entries, except that visible ones are listed in the order of the table; and more roles or more
entries never take anything away. -/
theorem resolving_joins (table table₁ table₂ : RoleTable) (roles roles₁ roles₂ : List NodeId)
    (base : AccessLevel) :
    (table.effective (roles₁ ++ roles₂) = table.effective roles₁ ||| table.effective roles₂ ∧
      effective (table₁ ++ table₂) roles = table₁.effective roles ||| table₂.effective roles) ∧
      (RoleGrants.collect table (roles₁ ++ roles₂) =
          RoleGrants.collect table roles₁ ||| RoleGrants.collect table roles₂ ∧
        RoleGrants.collect (table₁ ++ table₂) roles =
          RoleGrants.collect table₁ roles ||| RoleGrants.collect table₂ roles) ∧
      (base.narrow table (roles₁ ++ roles₂) =
          base.narrow table roles₁ ||| base.narrow table roles₂ ∧
        (base.narrow table₁ roles₁).narrow table₂ roles₂ =
          base.narrow table₁ roles₁ &&& base.narrow table₂ roles₂) ∧
      (∀ roles' : List NodeId, (∀ role, role ∈ roles ↔ role ∈ roles') →
        table.ResolvesLike table roles roles' ∧ table.visible roles = table.visible roles') ∧
      (∀ table' : RoleTable, (∀ entry, entry ∈ table ↔ entry ∈ table') →
        table.ResolvesLike table' roles roles) ∧
      (table.visible roles).Sublist table ∧
      (∀ roles' : List NodeId, roles ⊆ roles' → table.ResolvesWithin table roles roles') ∧
      ∀ table' : RoleTable, table.Sublist table' → table.ResolvesWithin table' roles roles := by
  refine ⟨⟨table.effective_append_roles _ _, effective_append_table _ _ _⟩,
    ⟨RoleGrants.collect_append_roles _ _ _, RoleGrants.collect_append_table _ _ _⟩,
    ⟨?_, RoleGrants.apply_apply _ _ base⟩, ?_, ?_, table.visible_sublist roles, ?_, ?_⟩
  · rw [AccessLevel.narrow, RoleGrants.collect_append_roles, RoleGrants.apply_or]
    rfl
  · intro roles' hroles
    exact ⟨resolvesLike_of_mem_iff (fun _ => Iff.rfl) hroles, table.visible_congr_roles hroles⟩
  · intro table' htable
    exact resolvesLike_of_mem_iff htable fun _ => Iff.rfl
  · intro roles' hroles
    exact resolvesWithin_of_le (table.visible_sublist_of_subset hroles)
      (effective_mono (List.Subset.refl _) hroles)
  · intro table' htable
    exact resolvesWithin_of_le (htable.filter _)
      (effective_mono htable.subset (List.Subset.refl _))

end RoleTable

end NodeAccess
