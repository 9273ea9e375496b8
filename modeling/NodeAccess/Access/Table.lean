import NodeAccess.Access.Permission
import NodeAccess.NodeId.Text

/-!
# Role-permission tables

A table grants permissions to roles, entry by entry; a role may have several entries. A node with
a table of its own is governed by it, and any other node by the table of the server. What a caller
holds is read off the entries for the caller's roles.
-/

set_option autoImplicit false

namespace NodeAccess

/-- The permissions that one entry of a table grants to a role. -/
structure RolePermission where
  role : NodeId
  permissions : PermissionMask
deriving DecidableEq, Inhabited

namespace RolePermission

/-- An entry described. -/
def describe (e : RolePermission) : String :=
  Described.record "RolePermission"
    [("role_id", e.role.describe), ("permissions", e.permissions.describe)]

end RolePermission

/-- A table of granted permissions; the order of entries is kept. -/
abbrev RoleTable := List RolePermission

namespace RoleTable

/-- The table that governs a node: its own if it has entries, else the server's. -/
def governing (ofNode ofServer : RoleTable) : RoleTable :=
  if ofNode.isEmpty then ofServer else ofNode

/-- The entries for the given roles, in the order of the table. -/
def visible (table : RoleTable) (roles : List NodeId) : RoleTable :=
  table.filter fun e => roles.contains e.role

/-- Every permission that some entry for the given roles grants. -/
def effective (table : RoleTable) (roles : List NodeId) : PermissionMask :=
  (table.visible roles).foldl (fun m e => m ||| e.permissions) .empty

end RoleTable

end NodeAccess
