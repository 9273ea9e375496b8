import NodeAccess.Json.Names
import NodeAccess.Settings.Basic

/-!
# Settings in JSON

Records within records. Every part may be missing, and then is as if nothing were configured;
only the role of an entry must be there.
-/

set_option autoImplicit false

namespace NodeAccess

namespace ServerInfo

/-- The fields of server information. -/
def fieldNames : List String :=
  ["application_name", "application_uri", "product_uri"]

/-- Server information as JSON. -/
def toJson (i : ServerInfo) : Json :=
  .object [("application_name", .string i.applicationName),
    ("application_uri", .string i.applicationUri), ("product_uri", .string i.productUri)]

/-- Server information in JSON. -/
def decode : Decoder ServerInfo :=
  (Fields.find? fieldNames).andThen fun f => do
    let applicationName ←
      f.withDefault "application_name" Decoder.text standard.applicationName
    let applicationUri ← f.withDefault "application_uri" Decoder.text standard.applicationUri
    let productUri ← f.withDefault "product_uri" Decoder.text standard.productUri
    some { applicationName, applicationUri, productUri }

end ServerInfo

namespace RoleSetting

/-- The fields of a role setting. -/
def fieldNames : List String :=
  ["role", "permissions"]

/-- A role setting as JSON. -/
def toJson (s : RoleSetting) : Json :=
  .object [("role", s.role.toJson), ("permissions", .array (s.permissions.map Permission.toJson))]

/-- A role setting in JSON. -/
def decode : Decoder RoleSetting :=
  (Fields.find? fieldNames).andThen fun f => do
    let role ← f.required "role" NodeId.decode
    let permissions ← f.withDefault "permissions" (Decoder.list Permission.decode) []
    some { role, permissions }

end RoleSetting

namespace SecuritySettings

/-- The fields of security settings. -/
def fieldNames : List String :=
  ["default_role_permissions"]

/-- Security settings as JSON. -/
def toJson (s : SecuritySettings) : Json :=
  .object [("default_role_permissions", .array (s.defaultRoles.map RoleSetting.toJson))]

/-- Security settings in JSON. -/
def decode : Decoder SecuritySettings :=
  (Fields.find? fieldNames).andThen fun f => do
    let defaultRoles ←
      f.withDefault "default_role_permissions" (Decoder.list RoleSetting.decode)
        standard.defaultRoles
    some { defaultRoles }

end SecuritySettings

namespace Settings

/-- The fields of settings. -/
def fieldNames : List String :=
  ["server", "security"]

/-- Settings as JSON. -/
def toJson (s : Settings) : Json :=
  .object [("server", s.server.toJson), ("security", s.security.toJson)]

/-- Settings in JSON. -/
def decode : Decoder Settings :=
  (Fields.find? fieldNames).andThen fun f => do
    let server ← f.withDefault "server" ServerInfo.decode standard.server
    let security ← f.withDefault "security" SecuritySettings.decode standard.security
    some { server, security }

end Settings

end NodeAccess
