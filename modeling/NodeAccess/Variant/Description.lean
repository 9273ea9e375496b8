import NodeAccess.Number.Shortest
import NodeAccess.Timestamp.Text
import NodeAccess.Variant.Basic

/-!
# Values described

Each value is shown as the name of its type applied to what it holds.
-/

set_option autoImplicit false

namespace NodeAccess.Variant

mutual

/-- A value described. -/
def describe : Variant → String
  | null => "Null"
  | boolean b => Described.applied "Boolean" (Described.boolean b)
  | sbyte n => Described.applied "SByte" (toString n.toInt)
  | byte n => Described.applied "Byte" (toString n.toNat)
  | int16 n => Described.applied "Int16" (toString n.toInt)
  | uint16 n => Described.applied "UInt16" (toString n.toNat)
  | int32 n => Described.applied "Int32" (toString n.toInt)
  | uint32 n => Described.applied "UInt32" (toString n.toNat)
  | int64 n => Described.applied "Int64" (toString n.toInt)
  | uint64 n => Described.applied "UInt64" (toString n.toNat)
  | float x => Described.applied "Float" (x.render .described)
  | double x => Described.applied "Double" (x.render .described)
  | string s => Described.applied "String" (Described.text s)
  | dateTime t => Described.applied "DateTime" t.toText
  | guid g => Described.applied "Guid" g.toText
  | byteString bs => Described.applied "ByteString" (Described.octets bs)
  | nodeId id => Described.applied "NodeId" id.describe
  | statusCode s => Described.applied "StatusCode" s.describe
  | qualifiedName n => Described.applied "QualifiedName" n.describe
  | localizedText t => Described.applied "LocalizedText" t.describe
  | rolePermission e => Described.applied "RolePermission" e.describe
  | array items => Described.applied "Array" (Described.list (describeItems items))

/-- Several values described. -/
def describeItems : List Variant → List String
  | [] => []
  | item :: items => describe item :: describeItems items

end

end NodeAccess.Variant
