import NodeAccess.Access.Level
import NodeAccess.Access.WellKnownRole
import NodeAccess.AttributeId
import NodeAccess.Json.Decoder
import NodeAccess.Name
import NodeAccess.NodeClass
import NodeAccess.StatusCode
import NodeAccess.Timestamp.Text
import NodeAccess.Variant.Type

/-!
# Identifiers, names and masks in JSON

Identifiers and points in time are strings in their text form, masks and codes are numbers, and
the members of an enumeration are strings with their names.
-/

set_option autoImplicit false

namespace NodeAccess

namespace NodeId

/-- A node identifier as JSON. -/
def toJson (id : NodeId) : Json :=
  .string id.toText

/-- A node identifier in JSON. -/
def decode : Decoder NodeId :=
  Decoder.text.andThen read?

end NodeId

namespace Guid

/-- A globally unique identifier as JSON. -/
def toJson (g : Guid) : Json :=
  .string g.toText

/-- A globally unique identifier in JSON. -/
def decode : Decoder Guid :=
  Decoder.text.andThen fun s => read? s.toList

end Guid

namespace Timestamp

/-- A point in time as JSON. -/
def toJson (t : Timestamp) : Json :=
  .string t.toText

/-- A point in time in JSON. -/
def decode : Decoder Timestamp :=
  Decoder.text.andThen fun s => read? s.toList

end Timestamp

namespace StatusCode

/-- A status code as JSON. -/
def toJson (s : StatusCode) : Json :=
  .ofNat s.bits.toNat

/-- A status code in JSON. -/
def decode : Decoder StatusCode :=
  (Decoder.natural UInt32.size).andThen fun n => some ⟨UInt32.ofNat n⟩

end StatusCode

namespace PermissionMask

/-- A permission mask as JSON. -/
def toJson (m : PermissionMask) : Json :=
  .ofNat m.bits.toNat

/-- A permission mask in JSON. -/
def decode : Decoder PermissionMask :=
  (Decoder.natural UInt32.size).andThen fun n => some ⟨UInt32.ofNat n⟩

end PermissionMask

namespace AccessLevel

/-- An access level as JSON. -/
def toJson (a : AccessLevel) : Json :=
  .ofNat a.bits.toNat

/-- An access level in JSON. -/
def decode : Decoder AccessLevel :=
  (Decoder.natural UInt8.size).andThen fun n => some ⟨UInt8.ofNat n⟩

end AccessLevel

namespace Permission

/-- A permission as JSON. -/
def toJson (p : Permission) : Json :=
  .string p.name

/-- A permission in JSON. -/
def decode : Decoder Permission :=
  Decoder.named ofName?

end Permission

namespace WellKnownRole

/-- A well-known role as JSON. -/
def toJson (role : WellKnownRole) : Json :=
  .string role.name

/-- A well-known role in JSON. -/
def decode : Decoder WellKnownRole :=
  Decoder.named ofName?

end WellKnownRole

namespace NodeClass

/-- A node class as JSON. -/
def toJson (c : NodeClass) : Json :=
  .string c.name

/-- A node class in JSON. -/
def decode : Decoder NodeClass :=
  Decoder.named ofName?

end NodeClass

namespace AttributeId

/-- An attribute as JSON. -/
def toJson (a : AttributeId) : Json :=
  .string a.name

/-- An attribute in JSON. -/
def decode : Decoder AttributeId :=
  Decoder.named ofName?

end AttributeId

namespace VariantType

/-- A type of values as JSON. -/
def toJson (t : VariantType) : Json :=
  .string t.name

/-- A type of values in JSON. -/
def decode : Decoder VariantType :=
  Decoder.named ofName?

end VariantType

namespace QualifiedName

/-- The fields of a qualified name. -/
def fieldNames : List String :=
  ["namespace_index", "name"]

/-- A qualified name as JSON. -/
def toJson (n : QualifiedName) : Json :=
  .object [("namespace_index", .ofNat n.namespaceIndex.toNat), ("name", .string n.name)]

/-- A qualified name in JSON. -/
def decode : Decoder QualifiedName :=
  (Fields.find? fieldNames).andThen fun f => do
    let index ← f.required "namespace_index" (Decoder.natural UInt16.size)
    let name ← f.required "name" Decoder.text
    some ⟨UInt16.ofNat index, name⟩

end QualifiedName

namespace LocalizedText

/-- The fields of a localized text. -/
def fieldNames : List String :=
  ["locale", "text"]

/-- A localized text as JSON. -/
def toJson (t : LocalizedText) : Json :=
  .object [("locale", .string t.locale), ("text", .string t.text)]

/-- A localized text in JSON. -/
def decode : Decoder LocalizedText :=
  (Fields.find? fieldNames).andThen fun f => do
    let locale ← f.required "locale" Decoder.text
    let text ← f.required "text" Decoder.text
    some ⟨locale, text⟩

end LocalizedText

namespace RolePermission

/-- The fields of an entry. -/
def fieldNames : List String :=
  ["role_id", "permissions"]

/-- An entry of a role-permission table as JSON. -/
def toJson (e : RolePermission) : Json :=
  .object [("role_id", e.role.toJson), ("permissions", e.permissions.toJson)]

/-- An entry of a role-permission table in JSON. -/
def decode : Decoder RolePermission :=
  (Fields.find? fieldNames).andThen fun f => do
    let role ← f.required "role_id" NodeId.decode
    let permissions ← f.required "permissions" PermissionMask.decode
    some ⟨role, permissions⟩

end RolePermission

end NodeAccess
