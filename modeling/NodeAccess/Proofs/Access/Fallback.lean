import NodeAccess.Proofs.Access.Narrowing

/-!
# One table decides

Three tables could govern a variable: its own, the one that the settings configure, and the standard
one. The first of them that has entries governs alone. What has entries is a matter of the list, not
of the permissions in it: an entry without permissions keeps the tables below it out, and so does a
table that is for other roles only.
-/

set_option autoImplicit false

namespace NodeAccess

namespace RoleTable

/-- Of tables in the order of their rank, the first that has entries. -/
def first : List RoleTable → RoleTable
  | [] => []
  | table :: lower => if table = [] then first lower else table

theorem first_of_ne_nil {table : RoleTable} (h : table ≠ []) (lower : List RoleTable) :
    first (table :: lower) = table :=
  if_neg h

/-- Of one table, the first that has entries is that table, be it empty or not. -/
theorem first_singleton (table : RoleTable) : first [table] = table := by
  cases table <;> rfl

/-- The tables below another one may be replaced by the first of them that has entries. -/
theorem first_cons_first (table : RoleTable) (lower : List RoleTable) :
    first [table, first lower] = first (table :: lower) := by
  rw [first, first_singleton, first]

theorem governing_eq_first (ofNode ofServer : RoleTable) :
    governing ofNode ofServer = first [ofNode, ofServer] := by
  rw [first, first_singleton]
  simp only [governing, List.isEmpty_iff]

theorem visible_eq_nil {table : RoleTable} {roles : List NodeId}
    (h : ∀ entry ∈ table, entry.role ∉ roles) : table.visible roles = [] := by
  unfold visible
  rw [List.filter_eq_nil_iff]
  intro entry hentry
  simpa using h entry hentry

end RoleTable

namespace AccessLevel

/-- A level without its three governed operations. -/
def ungoverned (base : AccessLevel) : AccessLevel :=
  ⟨base.bits &&& 0xF8⟩

/-- Where nothing is granted, the three governed operations are cleared and nothing else is. -/
theorem narrow_of_visible_eq_nil {table : RoleTable} {roles : List NodeId}
    (h : table.visible roles = []) (base : AccessLevel) :
    base.narrow table roles = base.ungoverned := by
  have hgrants : RoleGrants.collect table roles = .empty := by
    rw [RoleGrants.collect, h]
    rfl
  have hcleared : ∀ bits : UInt8, bits &&& ~~~0x01 &&& ~~~0x02 &&& ~~~0x04 = bits &&& 0xF8 := by
    intro bits
    rw [UInt8.and_assoc, UInt8.and_assoc]
    rfl
  rw [narrow, hgrants]
  exact congrArg AccessLevel.mk (hcleared base.bits)

end AccessLevel

namespace Variable

variable {R W : Type}

/-- What a session may do with a variable, and what it sees of the entries, is worked out from one
table and the session's roles. -/
structure DecidedBy (v : Variable R W) (s : Session) (table : RoleTable) : Prop where
  level : v.userAccessLevel (.ofSession s) = v.attributes.accessLevel.narrow table s.roles
  permissions : v.userPermissions (.ofSession s) = table.effective s.roles
  entries : v.userRolePermissions (.ofSession s) = table.visible s.roles

theorem decidedBy_governing (v : Variable R W) (s : Session) :
    v.DecidedBy s (RoleTable.first [v.attributes.rolePermissions, s.server.defaultTable]) := by
  rw [← RoleTable.governing_eq_first]
  exact ⟨rfl, rfl, rfl⟩

/-- On any server, a table of the variable's own decides. -/
theorem decidedBy_own {v : Variable R W} (h : v.attributes.rolePermissions ≠ []) (s : Session) :
    v.DecidedBy s v.attributes.rolePermissions := by
  have hdecided := v.decidedBy_governing s
  rwa [RoleTable.first_of_ne_nil h] at hdecided

/-- A table that is for other roles only leaves a session nothing that tables govern. -/
theorem DecidedBy.denied {v : Variable R W} {s : Session} {table : RoleTable}
    (h : v.DecidedBy s table) (hother : ∀ entry ∈ table, entry.role ∉ s.roles) :
    v.userAccessLevel (.ofSession s) = v.attributes.accessLevel.ungoverned ∧
      v.userPermissions (.ofSession s) = .empty ∧ v.userRolePermissions (.ofSession s) = [] := by
  have hnone : table.visible s.roles = [] := RoleTable.visible_eq_nil hother
  refine ⟨?_, ?_, ?_⟩
  · rw [h.level, AccessLevel.narrow_of_visible_eq_nil hnone]
  · rw [h.permissions, RoleTable.effective, hnone, List.foldl_nil]
  · rw [h.entries, hnone]

end Variable

namespace Settings

/-- The table that settings configure: one entry for each that they list, in order. -/
def configuredTable (c : Settings) : RoleTable :=
  c.security.defaultRoles.map fun setting => ⟨setting.role, Permission.maskOf setting.permissions⟩

theorem configuredTable_ne_nil {c : Settings} (h : c.security.defaultRoles ≠ []) :
    c.configuredTable ≠ [] := by
  simpa [configuredTable] using h

/-- A server from settings has the configured table, or the standard one below it. -/
theorem defaultTable_ofSettings (c : Settings) :
    (Server.ofSettings c).defaultTable = RoleTable.first [c.configuredTable, .standard] := by
  rw [← RoleTable.governing_eq_first]
  rfl

end Settings

namespace Variable

variable {R W : Type}

/-- On a server from settings, valid or not, one of three tables decides alone what a session may
do with a variable: the variable's own, the configured one, and the standard one, in this rank.

With a table of its own the server does not matter, nor do the settings. Without one, a configured
entry is enough to keep the standard table out, whatever that would say; and where the configured
entries are for other roles, everything governed is denied. -/
theorem first_table_decides (v : Variable R W) (c : Settings) (id : Guid) (roles : List NodeId) :
    let own : RoleTable := v.attributes.rolePermissions
    let s : Session := ⟨id, roles, .ofSettings c⟩
    v.DecidedBy s (RoleTable.first [own, c.configuredTable, .standard]) ∧
      (own ≠ [] → ∀ server : Server, v.DecidedBy ⟨id, roles, server⟩ own) ∧
      (own = [] → c.security.defaultRoles ≠ [] →
        (∀ lower : List RoleTable,
          v.DecidedBy s (RoleTable.first (own :: c.configuredTable :: lower))) ∧
        ((∀ setting ∈ c.security.defaultRoles, setting.role ∉ roles) →
          v.userAccessLevel (.ofSession s) = v.attributes.accessLevel.ungoverned ∧
            v.userPermissions (.ofSession s) = .empty ∧
            v.userRolePermissions (.ofSession s) = [])) := by
  intro own s
  have hfirst : v.DecidedBy s (RoleTable.first [own, c.configuredTable, .standard]) := by
    have hdecided := v.decidedBy_governing s
    rwa [show s.server.defaultTable = _ from c.defaultTable_ofSettings,
      RoleTable.first_cons_first] at hdecided
  refine ⟨hfirst, ?_, ?_⟩
  · intro hown server
    exact decidedBy_own hown _
  · intro hown hlisted
    have hne : c.configuredTable ≠ [] := c.configuredTable_ne_nil hlisted
    have hfirstTable : ∀ lower : List RoleTable,
        RoleTable.first (own :: c.configuredTable :: lower) = c.configuredTable := by
      intro lower
      rw [hown]
      exact RoleTable.first_of_ne_nil hne lower
    have hdecided : v.DecidedBy s c.configuredTable := by
      rw [← hfirstTable [.standard]]
      exact hfirst
    refine ⟨?_, ?_⟩
    · intro lower
      rw [hfirstTable lower]
      exact hdecided
    · intro hother
      apply hdecided.denied
      intro entry hentry
      obtain ⟨setting, hsetting, rfl⟩ := List.mem_map.mp hentry
      exact hother setting hsetting

/-- A gauge with a table of its own, which admits every operation as far as roles permit it. -/
def gauge (table : RoleTable) : Variable Unit Unit where
  attributes :=
    { nodeId := .text 2 "Gauge"
      browseName := ⟨2, "Gauge"⟩
      rolePermissions := table
      accessLevel := ⟨0xFF⟩
      dataType := .numeric 0 11 }
  state := {}

/-- Settings that list operators, without any permission. -/
def bareOperator : Settings where
  security := { defaultRoles := [⟨WellKnownRole.operator.nodeId, []⟩] }

/-- An observer is denied what tables govern by an entry for operators, which permits nothing,
though the standard table would let the observer read; a gauge with the standard table as its own
lets the observer read on any server. -/
theorem first_table_decides_gauge :
    let observer : List NodeId := [WellKnownRole.observer.nodeId]
    let s : Session := ⟨Guid.ofNat 1, observer, .ofSettings bareOperator⟩
    ((gauge []).attributes.rolePermissions = [] ∧ bareOperator.security.defaultRoles ≠ [] ∧
        (∀ setting ∈ bareOperator.security.defaultRoles, setting.role ∉ observer) ∧
        (gauge []).userAccessLevel (.ofSession s) = ⟨0xF8⟩) ∧
      (gauge .standard).attributes.rolePermissions ≠ [] ∧
        (gauge .standard).userAccessLevel (.ofSession s) = ⟨0xFD⟩ := by
  intro observer s
  have hlisted : bareOperator.security.defaultRoles ≠ [] := by decide
  have hother : ∀ setting ∈ bareOperator.security.defaultRoles, setting.role ∉ observer := by
    decide
  have hown : (gauge .standard).attributes.rolePermissions ≠ [] := by decide
  have hbare := first_table_decides (gauge []) bareOperator (Guid.ofNat 1) observer
  have hstandard := first_table_decides (gauge .standard) bareOperator (Guid.ofNat 1) observer
  refine ⟨⟨rfl, hlisted, hother, (hbare.2.2 rfl hlisted).2 hother |>.1⟩, hown, ?_⟩
  rw [(hstandard.2.1 hown _).level]
  decide

end Variable

end NodeAccess
