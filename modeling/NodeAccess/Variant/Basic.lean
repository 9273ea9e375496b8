import NodeAccess.Access.Table
import NodeAccess.Name
import NodeAccess.NodeId.Basic
import NodeAccess.Number.Binary
import NodeAccess.StatusCode
import NodeAccess.Timestamp.Basic
import NodeAccess.Variant.Type

/-!
# Values

A value is of one of the built-in types or an array of values. The type of an array is that of its
first element, through any depth of nesting; an array without elements counts as null there.
-/

set_option autoImplicit false

namespace NodeAccess

/-- A value of a built-in type, or an array of values. -/
inductive Variant where
  | null
  | boolean (value : Bool)
  | sbyte (value : Int8)
  | byte (value : UInt8)
  | int16 (value : Int16)
  | uint16 (value : UInt16)
  | int32 (value : Int32)
  | uint32 (value : UInt32)
  | int64 (value : Int64)
  | uint64 (value : UInt64)
  | float (value : Binary32)
  | double (value : Binary64)
  | string (value : String)
  | dateTime (value : Timestamp)
  | guid (value : Guid)
  | byteString (value : List UInt8)
  | nodeId (value : NodeId)
  | statusCode (value : StatusCode)
  | qualifiedName (value : QualifiedName)
  | localizedText (value : LocalizedText)
  | rolePermission (value : RolePermission)
  | array (items : List Variant)

namespace Variant

instance : Inhabited Variant := ⟨null⟩

mutual

/-- The type of a value. -/
def type : Variant → VariantType
  | null => .null
  | boolean _ => .boolean
  | sbyte _ => .sbyte
  | byte _ => .byte
  | int16 _ => .int16
  | uint16 _ => .uint16
  | int32 _ => .int32
  | uint32 _ => .uint32
  | int64 _ => .int64
  | uint64 _ => .uint64
  | float _ => .float
  | double _ => .double
  | string _ => .string
  | dateTime _ => .dateTime
  | guid _ => .guid
  | byteString _ => .byteString
  | nodeId _ => .nodeId
  | statusCode _ => .statusCode
  | qualifiedName _ => .qualifiedName
  | localizedText _ => .localizedText
  | rolePermission _ => .extensionObject
  | array items => firstType items

/-- The type of the first of several values; null if there is none. -/
def firstType : List Variant → VariantType
  | [] => .null
  | item :: _ => type item

end

/-- Is the value null? -/
def isNull : Variant → Bool
  | null => true
  | _ => false

/-- Is the value an array? -/
def isArray : Variant → Bool
  | array _ => true
  | _ => false

mutual

/-- Do two values have the same form and equal parts? Numbers with a point are compared as
numbers, all other parts as they are. -/
def same : Variant → Variant → Bool
  | null, null => true
  | boolean a, boolean b => a = b
  | sbyte a, sbyte b => a = b
  | byte a, byte b => a = b
  | int16 a, int16 b => a = b
  | uint16 a, uint16 b => a = b
  | int32 a, int32 b => a = b
  | uint32 a, uint32 b => a = b
  | int64 a, int64 b => a = b
  | uint64 a, uint64 b => a = b
  | float a, float b => a.same b
  | double a, double b => a.same b
  | string a, string b => a = b
  | dateTime a, dateTime b => a = b
  | guid a, guid b => a = b
  | byteString a, byteString b => a = b
  | nodeId a, nodeId b => a = b
  | statusCode a, statusCode b => a = b
  | qualifiedName a, qualifiedName b => a = b
  | localizedText a, localizedText b => a = b
  | rolePermission a, rolePermission b => a = b
  | array a, array b => sameItems a b
  | _, _ => false

/-- Are two lists of values of the same length and the same at every place? -/
def sameItems : List Variant → List Variant → Bool
  | [], [] => true
  | a :: as, b :: bs => same a b && sameItems as bs
  | _, _ => false

end

end Variant

end NodeAccess
