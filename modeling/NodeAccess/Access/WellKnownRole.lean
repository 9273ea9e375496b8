import NodeAccess.Access.Table

/-!
# Well-known roles

Eight roles that every server knows, each with a reserved node identifier and with the permissions
that the standard table grants to it.
-/

set_option autoImplicit false

namespace NodeAccess

/-- A role that every server knows. -/
inductive WellKnownRole where
  | anonymous
  | authenticatedUser
  | observer
  | operator
  | engineer
  | supervisor
  | configureAdmin
  | securityAdmin
deriving DecidableEq

namespace WellKnownRole

/-- Every well-known role, in the order of the standard table. -/
def all : List WellKnownRole :=
  [anonymous, authenticatedUser, observer, operator, engineer, supervisor, configureAdmin,
    securityAdmin]

/-- The number in namespace zero that is reserved for a role. -/
def number : WellKnownRole → UInt32
  | anonymous => 15644
  | authenticatedUser => 15656
  | observer => 15668
  | operator => 15680
  | engineer => 16036
  | supervisor => 15692
  | configureAdmin => 15716
  | securityAdmin => 15704

/-- The node identifier of a role. -/
def nodeId (role : WellKnownRole) : NodeId :=
  .numeric 0 role.number

/-- The role that a node identifier names, if it is a well-known one. -/
def ofNodeId? (id : NodeId) : Option WellKnownRole :=
  if id.namespaceIndex = 0 then all.find? fun role => role.nodeId = id else none

/-- The name of a role in configurations. -/
def name : WellKnownRole → String
  | anonymous => "anonymous"
  | authenticatedUser => "authenticated-user"
  | observer => "observer"
  | operator => "operator"
  | engineer => "engineer"
  | supervisor => "supervisor"
  | configureAdmin => "configure-admin"
  | securityAdmin => "security-admin"

/-- The role of a name, if it is one. -/
def ofName? (s : String) : Option WellKnownRole :=
  all.find? fun role => role.name = s

/-- A role described. -/
def describe : WellKnownRole → String
  | anonymous => "Anonymous"
  | authenticatedUser => "AuthenticatedUser"
  | observer => "Observer"
  | operator => "Operator"
  | engineer => "Engineer"
  | supervisor => "Supervisor"
  | configureAdmin => "ConfigureAdmin"
  | securityAdmin => "SecurityAdmin"

/-- What those may do who only look. -/
def viewing : PermissionMask :=
  Permission.maskOf [.browse, .read, .readHistory, .receiveEvents]

/-- What those may do who run the plant. -/
def operating : PermissionMask :=
  viewing ||| Permission.maskOf [.write, .call]

/-- What those may do who set up the server. -/
def configuring : PermissionMask :=
  operating ||| Permission.maskOf [.readRolePermissions, .writeAttribute, .writeHistorizing,
    .addReference, .removeReference, .addNode, .deleteNode]

/-- Every permission. -/
def everything : PermissionMask :=
  configuring ||| Permission.maskOf [.writeRolePermissions, .deleteHistory, .insertHistory,
    .modifyHistory]

/-- The permissions of a role in the standard table. -/
def permissions : WellKnownRole → PermissionMask
  | anonymous => viewing
  | authenticatedUser => viewing
  | observer => viewing
  | operator => operating
  | supervisor => operating
  | engineer => operating ||| Permission.writeHistorizing.mask
  | configureAdmin => configuring
  | securityAdmin => everything

end WellKnownRole

namespace RoleTable

/-- The table of a server that is given none: one entry for each well-known role. -/
def standard : RoleTable :=
  WellKnownRole.all.map fun role => ⟨role.nodeId, role.permissions⟩

end RoleTable

end NodeAccess
