import NodeAccess.Variable

/-!
# Reading and writing variables

Every request is checked in the same order: it has to name the node, then an attribute that
variables support, then it needs the access level or the permissions that the attribute asks for.
Only then a handler runs, or the stored value is read or replaced. What is refused is answered by a
status code and changes nothing.

A handler sees the request as it came, may leave the variable in any state, and may keep a memory of
its own, which is passed through everything that runs.
-/

set_option autoImplicit false

namespace NodeAccess

/-- What an operation on a variable answers, the state that it leaves, and the memory of handlers
after it. -/
structure Outcome (α R W M : Type) where
  answer : α
  state : VariableState R W
  memory : M

/-- What handlers do that are identified by values of `R` and `W` and remember a value of `M`. -/
structure Handlers (R W M : Type) where
  onRead : R → RequestContext → ReadRequest → Variable R W → M → Outcome DataValue R W M
  onWrite : W → RequestContext → WriteRequest → Variable R W → M → Outcome StatusCode R W M

namespace Variable

variable {R W M : Type}

/-- An answer that leaves everything as it is. -/
def answered {α : Type} (v : Variable R W) (m : M) (answer : α) : Outcome α R W M :=
  ⟨answer, v.state, m⟩

/-- The attribute that a request for a node and an attribute number is about, or why there is
none. -/
def target (v : Variable R W) (node : NodeId) (attributeId : UInt32) :
    Except StatusCode AttributeId :=
  if node ≠ v.attributes.nodeId then .error .badNodeIdUnknown
  else if !supports attributeId then .error .badAttributeIdInvalid
  else
    match AttributeId.ofNumber? attributeId with
    | some a => .ok a
    | none => .error .badAttributeIdInvalid

/-- What a caller reads for an attribute other than the value. -/
def attribute? (v : Variable R W) (ctx : RequestContext) : AttributeId → Option Variant
  | .nodeId => some (.nodeId v.attributes.nodeId)
  | .nodeClass => some (.int32 NodeClass.variable.number.toInt32)
  | .browseName => some (.qualifiedName v.attributes.browseName)
  | .displayName => some (.localizedText v.attributes.displayName)
  | .description => some (.localizedText v.attributes.description)
  | .rolePermissions => some (.array (v.attributes.rolePermissions.map .rolePermission))
  | .userRolePermissions => some (.array ((v.userRolePermissions ctx).map .rolePermission))
  | .dataType => some (.nodeId v.attributes.dataType)
  | .valueRank => some (.int32 v.attributes.valueRank)
  | .arrayDimensions => some (.array (v.attributes.arrayDimensions.map .uint32))
  | .accessLevel => some (.byte v.attributes.accessLevel.bits)
  | .userAccessLevel => some (.byte (v.userAccessLevel ctx).bits)
  | .minimumSamplingInterval => some (.double v.attributes.minimumSamplingInterval)
  | .historizing => some (.boolean v.state.historizing)
  | _ => none

/-- Why a caller may not read the value, if so. -/
def readRefusal? (v : Variable R W) (ctx : RequestContext) : Option StatusCode :=
  if !v.attributes.accessLevel.contains .currentRead then some .badNotReadable
  else if !(v.userAccessLevel ctx).contains .currentRead then some .badUserAccessDenied
  else none

/-- Why a caller may not write the value, if so. -/
def writeRefusal? (v : Variable R W) (ctx : RequestContext) : Option StatusCode :=
  if !v.attributes.accessLevel.contains .currentWrite then some .badNotWritable
  else if !(v.userAccessLevel ctx).contains .currentWrite then some .badUserAccessDenied
  else none

/-- A read of the value that nothing refuses: the handler answers, or the stored value. -/
def fetch (h : Handlers R W M) (ctx : RequestContext) (v : Variable R W) (r : ReadRequest)
    (m : M) : Outcome DataValue R W M :=
  match v.state.readHandler with
  | some handler => h.onRead handler ctx r v m
  | none => v.answered m v.state.value

/-- A write of the value that nothing refuses: the handler takes it, or it is stored. -/
def store (h : Handlers R W M) (ctx : RequestContext) (v : Variable R W) (r : WriteRequest)
    (m : M) : Outcome StatusCode R W M :=
  match v.state.writeHandler with
  | some handler => h.onWrite handler ctx r v m
  | none => (v.setValue r.value).answered m .good

/-- A write to the flag for keeping a history. -/
def writeHistorizing (ctx : RequestContext) (v : Variable R W) (r : WriteRequest) (m : M) :
    Outcome StatusCode R W M :=
  if (v.userPermissions ctx).contains Permission.writeHistorizing.mask then
    match r.value.value with
    | .boolean historizing => (v.setHistorizing historizing).answered m .good
    | _ => v.answered m .badTypeMismatch
  else v.answered m .badUserAccessDenied

/-- A read of an attribute for a caller at the given time. -/
def read (h : Handlers R W M) (now : Timestamp) (ctx : RequestContext) (v : Variable R W)
    (r : ReadRequest) (m : M) : Outcome DataValue R W M :=
  match v.target r.node r.attributeId with
  | .error status => v.answered m (.ofStatus status)
  | .ok .value =>
    match v.readRefusal? ctx with
    | some status => v.answered m (.ofStatus status)
    | none => v.fetch h ctx r m
  | .ok a =>
    if a = .rolePermissions &&
        !(v.userPermissions ctx).contains Permission.readRolePermissions.mask then
      v.answered m (.ofStatus .badUserAccessDenied)
    else
      match v.attribute? ctx a with
      | some value => v.answered m (.stamped now value)
      | none => v.answered m (.ofStatus .badAttributeIdInvalid)

/-- A write of an attribute for a caller. -/
def write (h : Handlers R W M) (ctx : RequestContext) (v : Variable R W) (r : WriteRequest)
    (m : M) : Outcome StatusCode R W M :=
  match v.target r.node r.attributeId with
  | .error status => v.answered m status
  | .ok .value =>
    match v.writeRefusal? ctx with
    | some status => v.answered m status
    | none => v.store h ctx r m
  | .ok .historizing => v.writeHistorizing ctx r m
  | .ok _ => v.answered m .badNotWritable

end Variable

end NodeAccess
