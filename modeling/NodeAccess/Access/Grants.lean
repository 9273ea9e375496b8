import NodeAccess.Access.Level
import NodeAccess.Access.Table

/-!
# Grants

Three operations on the value of a variable need a permission: reading and writing the current
value, and reading the history. The grants of a caller say which of them some entry of the
governing table permits; applied to the access level of a variable they clear the other ones and
leave all further bits as they are.
-/

set_option autoImplicit false

namespace NodeAccess

/-- Which of the three governed operations are permitted. -/
structure RoleGrants where
  currentRead : Bool
  currentWrite : Bool
  historyRead : Bool
deriving DecidableEq

namespace RoleGrants

/-- Nothing is permitted. -/
def empty : RoleGrants :=
  ⟨false, false, false⟩

instance : Inhabited RoleGrants := ⟨empty⟩

/-- The grants together with those of one more entry. -/
def add (g : RoleGrants) (e : RolePermission) : RoleGrants :=
  { currentRead := g.currentRead || e.permissions.contains Permission.read.mask
    currentWrite := g.currentWrite || e.permissions.contains Permission.write.mask
    historyRead := g.historyRead || e.permissions.contains Permission.readHistory.mask }

/-- What the entries of a table permit to the given roles. -/
def collect (table : RoleTable) (roles : List NodeId) : RoleGrants :=
  (table.visible roles).foldl add empty

/-- The level without one operation, unless it is granted. -/
def keep (granted : Bool) (operation level : AccessLevel) : AccessLevel :=
  if granted then level else level.without operation

/-- The access level narrowed to what is permitted. -/
def apply (g : RoleGrants) (base : AccessLevel) : AccessLevel :=
  keep g.historyRead .historyRead
    (keep g.currentWrite .currentWrite (keep g.currentRead .currentRead base))

/-- Grants described. -/
def describe (g : RoleGrants) : String :=
  Described.record "RoleGrants"
    [("current_read", Described.boolean g.currentRead),
      ("current_write", Described.boolean g.currentWrite),
      ("history_read", Described.boolean g.historyRead)]

end RoleGrants

namespace AccessLevel

/-- The access level narrowed to what a table permits to the given roles. -/
def narrow (base : AccessLevel) (table : RoleTable) (roles : List NodeId) : AccessLevel :=
  (RoleGrants.collect table roles).apply base

end AccessLevel

end NodeAccess
