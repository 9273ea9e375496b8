/-!
# Attributes

The attributes that nodes may have, numbered from one without gaps.
-/

set_option autoImplicit false

namespace NodeAccess

/-- An attribute of a node. -/
inductive AttributeId where
  | nodeId
  | nodeClass
  | browseName
  | displayName
  | description
  | writeMask
  | userWriteMask
  | isAbstract
  | symmetric
  | inverseName
  | containsNoLoops
  | eventNotifier
  | value
  | dataType
  | valueRank
  | arrayDimensions
  | accessLevel
  | userAccessLevel
  | minimumSamplingInterval
  | historizing
  | executable
  | userExecutable
  | dataTypeDefinition
  | rolePermissions
  | userRolePermissions
  | accessRestrictions
  | accessLevelEx
deriving DecidableEq

namespace AttributeId

/-- Every attribute, in the order of their numbers. -/
def all : List AttributeId :=
  [nodeId, nodeClass, browseName, displayName, description, writeMask, userWriteMask, isAbstract,
    symmetric, inverseName, containsNoLoops, eventNotifier, value, dataType, valueRank,
    arrayDimensions, accessLevel, userAccessLevel, minimumSamplingInterval, historizing,
    executable, userExecutable, dataTypeDefinition, rolePermissions, userRolePermissions,
    accessRestrictions, accessLevelEx]

/-- The number of an attribute. -/
def number : AttributeId → UInt32
  | nodeId => 1
  | nodeClass => 2
  | browseName => 3
  | displayName => 4
  | description => 5
  | writeMask => 6
  | userWriteMask => 7
  | isAbstract => 8
  | symmetric => 9
  | inverseName => 10
  | containsNoLoops => 11
  | eventNotifier => 12
  | value => 13
  | dataType => 14
  | valueRank => 15
  | arrayDimensions => 16
  | accessLevel => 17
  | userAccessLevel => 18
  | minimumSamplingInterval => 19
  | historizing => 20
  | executable => 21
  | userExecutable => 22
  | dataTypeDefinition => 23
  | rolePermissions => 24
  | userRolePermissions => 25
  | accessRestrictions => 26
  | accessLevelEx => 27

/-- The name of an attribute. -/
def name : AttributeId → String
  | nodeId => "NodeId"
  | nodeClass => "NodeClass"
  | browseName => "BrowseName"
  | displayName => "DisplayName"
  | description => "Description"
  | writeMask => "WriteMask"
  | userWriteMask => "UserWriteMask"
  | isAbstract => "IsAbstract"
  | symmetric => "Symmetric"
  | inverseName => "InverseName"
  | containsNoLoops => "ContainsNoLoops"
  | eventNotifier => "EventNotifier"
  | value => "Value"
  | dataType => "DataType"
  | valueRank => "ValueRank"
  | arrayDimensions => "ArrayDimensions"
  | accessLevel => "AccessLevel"
  | userAccessLevel => "UserAccessLevel"
  | minimumSamplingInterval => "MinimumSamplingInterval"
  | historizing => "Historizing"
  | executable => "Executable"
  | userExecutable => "UserExecutable"
  | dataTypeDefinition => "DataTypeDefinition"
  | rolePermissions => "RolePermissions"
  | userRolePermissions => "UserRolePermissions"
  | accessRestrictions => "AccessRestrictions"
  | accessLevelEx => "AccessLevelEx"

/-- The attribute with a number: entry `n - 1` of the list of all. -/
def ofNumber? (n : UInt32) : Option AttributeId :=
  if n = 0 then none else all[n.toNat - 1]?

/-- The message for a number that is no attribute. -/
def unknownMessage (n : UInt32) : String :=
  "unknown attribute id: " ++ toString n.toNat

/-- The attribute of a name, if it is one. -/
def ofName? (s : String) : Option AttributeId :=
  all.find? fun a => a.name = s

/-- An attribute's number makes that attribute. -/
theorem ofNumber?_number (a : AttributeId) : ofNumber? a.number = some a := by
  cases a <;> rfl

end AttributeId

end NodeAccess
