import NodeAccess.Access.Table
import NodeAccess.Text.Blank

/-!
# Settings

What can be configured: how the server presents itself, and the table of permissions that governs
nodes without a table of their own. Settings are valid when the server has a name that is not
blank and no entry of the table is for the null node identifier.
-/

set_option autoImplicit false

namespace NodeAccess

/-- How a server presents itself. -/
structure ServerInfo where
  applicationName : String := "uanode-server"
  applicationUri : String := "urn:localhost:uanode"
  productUri : String := "urn:uanode"
deriving DecidableEq, Inhabited

namespace ServerInfo

/-- What a server presents when nothing is configured. -/
def standard : ServerInfo := {}

/-- Server information described. -/
def describe (i : ServerInfo) : String :=
  Described.record "ServerInfoConfig"
    [("application_name", Described.text i.applicationName),
      ("application_uri", Described.text i.applicationUri),
      ("product_uri", Described.text i.productUri)]

end ServerInfo

/-- The permissions configured for a role, by name. -/
structure RoleSetting where
  role : NodeId
  permissions : List Permission := []
deriving DecidableEq, Inhabited

namespace RoleSetting

/-- The entry of a role-permission table that the setting stands for. -/
def toEntry (s : RoleSetting) : RolePermission :=
  ⟨s.role, Permission.maskOf s.permissions⟩

/-- A role setting described. -/
def describe (s : RoleSetting) : String :=
  Described.record "RolePermissionConfig"
    [("role", s.role.describe),
      ("permissions", Described.list (s.permissions.map Permission.describe))]

end RoleSetting

/-- The settings that govern access. -/
structure SecuritySettings where
  defaultRoles : List RoleSetting := []
deriving DecidableEq, Inhabited

namespace SecuritySettings

/-- The settings when nothing is configured. -/
def standard : SecuritySettings := {}

/-- Security settings described. -/
def describe (s : SecuritySettings) : String :=
  Described.record "SecurityConfig"
    [("default_role_permissions", Described.list (s.defaultRoles.map RoleSetting.describe))]

end SecuritySettings

/-- Everything that can be configured. -/
structure Settings where
  server : ServerInfo := {}
  security : SecuritySettings := {}
deriving DecidableEq, Inhabited

/-- Why settings are not valid. -/
inductive InvalidSettings where
  | blankApplicationName
  /-- The first entry that is for the null node identifier. -/
  | nullRole (entry : RoleSetting)
deriving DecidableEq

namespace InvalidSettings

/-- The message for settings that are not valid. -/
def message : InvalidSettings → String
  | blankApplicationName =>
    "Invalid configuration: server.application_name must not be empty"
  | nullRole entry =>
    "Invalid configuration: security.default_role_permissions entry has a null role: " ++
      entry.describe

end InvalidSettings

namespace Settings

/-- The settings when nothing is configured. -/
def standard : Settings := {}

/-- The configured role-permission table, entry by entry. -/
def table (s : Settings) : RoleTable :=
  s.security.defaultRoles.map RoleSetting.toEntry

/-- Why the settings are not valid, if they are not. -/
def problem? (s : Settings) : Option InvalidSettings :=
  if Text.allBlank s.server.applicationName then some .blankApplicationName
  else (s.security.defaultRoles.find? fun entry => entry.role.isNull).map .nullRole

/-- The settings, if they are valid. -/
def validate (s : Settings) : Except InvalidSettings Settings :=
  match s.problem? with
  | some e => .error e
  | none => .ok s

/-- Settings described. -/
def describe (s : Settings) : String :=
  Described.record "UanodeConfig"
    [("server", s.server.describe), ("security", s.security.describe)]

/-- The settings for nothing configured are valid. -/
theorem problem?_standard : standard.problem? = none := by
  decide +kernel

end Settings

end NodeAccess
