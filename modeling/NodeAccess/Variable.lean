import NodeAccess.NodeClass
import NodeAccess.AttributeId
import NodeAccess.Request
import NodeAccess.Access.Grants
import NodeAccess.Session

/-!
# Variables

A variable is a node that holds one value. Its attributes are fixed; its references, its value,
whether it keeps a history, and who answers for its value may change. A variable may have a handler
that answers reads of its value in place of the stored one, and another that takes what is written.
Handlers are known here by what identifies them; what they do is said where they run.

What a caller may do with a variable follows from the table that governs it and from the roles of
the caller; without a session that is nothing.
-/

set_option autoImplicit false

namespace NodeAccess

/-- The value rank of a single value. -/
def scalarRank : Int32 := -1

/-- What is fixed about a variable. -/
structure VariableAttributes where
  nodeId : NodeId
  browseName : QualifiedName
  displayName : LocalizedText := .invariant browseName.name
  description : LocalizedText := .invariant ""
  /-- The table of the node's own; an empty one leaves the node to the table of the server. -/
  rolePermissions : RoleTable := []
  accessRestrictions : UInt16 := 0
  /-- The most that anyone may do with the value. -/
  accessLevel : AccessLevel := .currentRead
  minimumSamplingInterval : Binary64 := Binary.ofNat 0
  dataType : NodeId
  valueRank : Int32 := scalarRank
  arrayDimensions : List UInt32 := []

namespace VariableAttributes

/-- Are all attributes the same? The sampling interval is compared as a number. -/
def same (a b : VariableAttributes) : Bool :=
  a.nodeId = b.nodeId && a.browseName = b.browseName && a.displayName = b.displayName &&
    a.description = b.description && a.rolePermissions = b.rolePermissions &&
    a.accessRestrictions = b.accessRestrictions && a.accessLevel = b.accessLevel &&
    a.minimumSamplingInterval.same b.minimumSamplingInterval && a.dataType = b.dataType &&
    a.valueRank = b.valueRank && a.arrayDimensions = b.arrayDimensions

/-- The attributes described. -/
def describe (a : VariableAttributes) : String :=
  Described.record "VariableAttributes"
    [("node_id", a.nodeId.describe),
      ("browse_name", a.browseName.describe),
      ("display_name", a.displayName.describe),
      ("description", a.description.describe),
      ("role_permissions", Described.list (a.rolePermissions.map RolePermission.describe)),
      ("access_restrictions", toString a.accessRestrictions.toNat),
      ("access_level", a.accessLevel.describe),
      ("minimum_sampling_interval", a.minimumSamplingInterval.render .described),
      ("data_type", a.dataType.describe),
      ("value_rank", toString a.valueRank.toInt),
      ("array_dimensions", Described.list (a.arrayDimensions.map fun n => toString n.toNat))]

end VariableAttributes

/-- What may change about a variable whose handlers for reads and writes are identified by values
of the types `R` and `W`. -/
structure VariableState (R W : Type) where
  references : List Reference := []
  value : DataValue := {}
  historizing : Bool := false
  readHandler : Option R := none
  writeHandler : Option W := none

/-- A node that holds one value. -/
structure Variable (R W : Type) where
  attributes : VariableAttributes
  state : VariableState R W

namespace Variable

variable {R W : Type}

/-- The attributes that a variable supports. -/
def supportedAttributes : List AttributeId :=
  [.nodeId, .nodeClass, .browseName, .displayName, .description, .rolePermissions,
    .userRolePermissions, .value, .dataType, .valueRank, .arrayDimensions, .accessLevel,
    .userAccessLevel, .minimumSamplingInterval, .historizing]

/-- Does a variable support the attribute with a number? -/
def supports (attributeId : UInt32) : Bool :=
  match AttributeId.ofNumber? attributeId with
  | some a => supportedAttributes.contains a
  | none => false

/-- The table that governs a variable in a session. -/
def governingTable (v : Variable R W) (s : Session) : RoleTable :=
  RoleTable.governing v.attributes.rolePermissions s.server.defaultTable

/-- What a caller may do with the value. -/
def userAccessLevel (v : Variable R W) (ctx : RequestContext) : AccessLevel :=
  match ctx.session with
  | some s => v.attributes.accessLevel.narrow (v.governingTable s) s.roles
  | none => .empty

/-- The permissions that a caller holds on a variable. -/
def userPermissions (v : Variable R W) (ctx : RequestContext) : PermissionMask :=
  match ctx.session with
  | some s => (v.governingTable s).effective s.roles
  | none => .empty

/-- The entries of the governing table that are for a caller. -/
def userRolePermissions (v : Variable R W) (ctx : RequestContext) : RoleTable :=
  match ctx.session with
  | some s => (v.governingTable s).visible s.roles
  | none => []

/-- The variable in another state. -/
def withState (v : Variable R W) (state : VariableState R W) : Variable R W :=
  { v with state }

/-- The variable with another value; its type is not checked. -/
def setValue (v : Variable R W) (value : DataValue) : Variable R W :=
  v.withState { v.state with value }

/-- The variable with its history switched on or off. -/
def setHistorizing (v : Variable R W) (historizing : Bool) : Variable R W :=
  v.withState { v.state with historizing }

/-- The variable with other references. -/
def setReferences (v : Variable R W) (references : List Reference) : Variable R W :=
  v.withState { v.state with references }

/-- The variable with another handler for reads, or with none. -/
def setReadHandler (v : Variable R W) (readHandler : Option R) : Variable R W :=
  v.withState { v.state with readHandler }

/-- The variable with another handler for writes, or with none. -/
def setWriteHandler (v : Variable R W) (writeHandler : Option W) : Variable R W :=
  v.withState { v.state with writeHandler }

/-- A variable described. -/
def describe (v : Variable R W) : String :=
  Described.record "VariableNode"
    [("attributes", v.attributes.describe),
      ("references", Described.list (v.state.references.map Reference.describe)),
      ("value", v.state.value.describe),
      ("historizing", Described.boolean v.state.historizing),
      ("read_value_handler", Described.boolean v.state.readHandler.isSome),
      ("write_value_handler", Described.boolean v.state.writeHandler.isSome)]

end Variable

end NodeAccess
