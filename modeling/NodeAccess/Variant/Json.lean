import NodeAccess.Json.Float
import NodeAccess.Json.Names
import NodeAccess.Variant.Basic

/-!
# Values in JSON

Null is the string `"Null"`; every other value is an object whose only member has the name of the
value's constructor and the content as its value. An array opens two levels of nesting: its object
and the array of its items.
-/

set_option autoImplicit false

namespace NodeAccess.Variant

/-- A value as an object with one member. -/
def tagged (name : String) (content : Json) : Json :=
  .object [(name, content)]

mutual

/-- A value as JSON. -/
def toJson : Variant → Json
  | null => .string "Null"
  | boolean b => tagged "Boolean" (.boolean b)
  | sbyte n => tagged "SByte" (.ofInt n.toInt)
  | byte n => tagged "Byte" (.ofNat n.toNat)
  | int16 n => tagged "Int16" (.ofInt n.toInt)
  | uint16 n => tagged "UInt16" (.ofNat n.toNat)
  | int32 n => tagged "Int32" (.ofInt n.toInt)
  | uint32 n => tagged "UInt32" (.ofNat n.toNat)
  | int64 n => tagged "Int64" (.ofInt n.toInt)
  | uint64 n => tagged "UInt64" (.ofNat n.toNat)
  | float x => tagged "Float" (.ofSingle x)
  | double x => tagged "Double" (.ofDouble x)
  | string s => tagged "String" (.string s)
  | dateTime t => tagged "DateTime" t.toJson
  | guid g => tagged "Guid" g.toJson
  | byteString bs => tagged "ByteString" (.array (bs.map fun b => .ofNat b.toNat))
  | nodeId id => tagged "NodeId" id.toJson
  | statusCode s => tagged "StatusCode" s.toJson
  | qualifiedName n => tagged "QualifiedName" n.toJson
  | localizedText t => tagged "LocalizedText" t.toJson
  | rolePermission e => tagged "RolePermission" e.toJson
  | array items => tagged "Array" (.array (itemsToJson items))

/-- Several values as JSON. -/
def itemsToJson : List Variant → List Json
  | [] => []
  | item :: items => toJson item :: itemsToJson items

end

/-- The content of a tag other than `"Array"`. -/
def decodeTagged (name : String) : Decoder Variant :=
  match name with
  | "Null" => fun _ j => match j with
    | .null => some .null
    | _ => none
  | "Boolean" => Decoder.boolean.andThen fun b => some (.boolean b)
  | "SByte" => (Decoder.integer (-128) 127).andThen fun i => some (.sbyte (Int8.ofInt i))
  | "Byte" => (Decoder.natural UInt8.size).andThen fun n => some (.byte (UInt8.ofNat n))
  | "Int16" => (Decoder.integer (-32768) 32767).andThen fun i => some (.int16 (Int16.ofInt i))
  | "UInt16" => (Decoder.natural UInt16.size).andThen fun n => some (.uint16 (UInt16.ofNat n))
  | "Int32" =>
    (Decoder.integer (-2147483648) 2147483647).andThen fun i => some (.int32 (Int32.ofInt i))
  | "UInt32" => (Decoder.natural UInt32.size).andThen fun n => some (.uint32 (UInt32.ofNat n))
  | "Int64" =>
    (Decoder.integer (-9223372036854775808) 9223372036854775807).andThen fun i =>
      some (.int64 (Int64.ofInt i))
  | "UInt64" => (Decoder.natural UInt64.size).andThen fun n => some (.uint64 (UInt64.ofNat n))
  | "Float" => Decoder.single.andThen fun x => some (.float x)
  | "Double" => Decoder.double.andThen fun x => some (.double x)
  | "String" => Decoder.text.andThen fun s => some (.string s)
  | "DateTime" => Timestamp.decode.andThen fun t => some (.dateTime t)
  | "Guid" => Guid.decode.andThen fun g => some (.guid g)
  | "ByteString" => Decoder.octets.andThen fun bs => some (.byteString bs)
  | "NodeId" => NodeId.decode.andThen fun id => some (.nodeId id)
  | "StatusCode" => StatusCode.decode.andThen fun s => some (.statusCode s)
  | "QualifiedName" => QualifiedName.decode.andThen fun n => some (.qualifiedName n)
  | "LocalizedText" => LocalizedText.decode.andThen fun t => some (.localizedText t)
  | "RolePermission" => RolePermission.decode.andThen fun e => some (.rolePermission e)
  | _ => fun _ _ => none

/-- A value in JSON. -/
def decode : Decoder Variant
  | _, .string s => if s = "Null" then some .null else none
  | depth + 2, .object [("Array", .array items)] =>
    (Decoder.collect (decode depth) items).map .array
  | depth + 1, .object [(name, content)] => decodeTagged name depth content
  | _, _ => none

end NodeAccess.Variant
