/-!
# Types of values

The built-in types of values with their numbers, from zero without gaps.
-/

set_option autoImplicit false

namespace NodeAccess

/-- A built-in type of values. -/
inductive VariantType where
  | null
  | boolean
  | sbyte
  | byte
  | int16
  | uint16
  | int32
  | uint32
  | int64
  | uint64
  | float
  | double
  | string
  | dateTime
  | guid
  | byteString
  | xmlElement
  | nodeId
  | expandedNodeId
  | statusCode
  | qualifiedName
  | localizedText
  | extensionObject
  | dataValue
  | variant
  | diagnosticInfo
deriving DecidableEq

namespace VariantType

/-- Every type, in the order of their numbers. -/
def all : List VariantType :=
  [null, boolean, sbyte, byte, int16, uint16, int32, uint32, int64, uint64, float, double, string,
    dateTime, guid, byteString, xmlElement, nodeId, expandedNodeId, statusCode, qualifiedName,
    localizedText, extensionObject, dataValue, .variant, diagnosticInfo]

/-- The number of a type. -/
def tag : VariantType → UInt8
  | null => 0
  | boolean => 1
  | sbyte => 2
  | byte => 3
  | int16 => 4
  | uint16 => 5
  | int32 => 6
  | uint32 => 7
  | int64 => 8
  | uint64 => 9
  | float => 10
  | double => 11
  | string => 12
  | dateTime => 13
  | guid => 14
  | byteString => 15
  | xmlElement => 16
  | nodeId => 17
  | expandedNodeId => 18
  | statusCode => 19
  | qualifiedName => 20
  | localizedText => 21
  | extensionObject => 22
  | dataValue => 23
  | .variant => 24
  | diagnosticInfo => 25

/-- The name of a type. -/
def name : VariantType → String
  | null => "Null"
  | boolean => "Boolean"
  | sbyte => "SByte"
  | byte => "Byte"
  | int16 => "Int16"
  | uint16 => "UInt16"
  | int32 => "Int32"
  | uint32 => "UInt32"
  | int64 => "Int64"
  | uint64 => "UInt64"
  | float => "Float"
  | double => "Double"
  | string => "String"
  | dateTime => "DateTime"
  | guid => "Guid"
  | byteString => "ByteString"
  | xmlElement => "XmlElement"
  | nodeId => "NodeId"
  | expandedNodeId => "ExpandedNodeId"
  | statusCode => "StatusCode"
  | qualifiedName => "QualifiedName"
  | localizedText => "LocalizedText"
  | extensionObject => "ExtensionObject"
  | dataValue => "DataValue"
  | .variant => "Variant"
  | diagnosticInfo => "DiagnosticInfo"

/-- The type of a name, if it is one. -/
def ofName? (s : String) : Option VariantType :=
  all.find? fun t => t.name = s

/-- The order of types by their numbers. -/
def order (a b : VariantType) : Ordering :=
  compare a.tag b.tag

end VariantType

end NodeAccess
