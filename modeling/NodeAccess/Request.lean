import NodeAccess.DataValue.Basic

/-!
# Requests and references

A request names an attribute of a node, which is to be read or written. A reference is a directed
edge from a node to another one.
-/

set_option autoImplicit false

namespace NodeAccess

/-- A typed edge to another node. -/
structure Reference where
  referenceType : NodeId
  isInverse : Bool
  target : NodeId
deriving DecidableEq, Inhabited

namespace Reference

/-- A reference described. -/
def describe (r : Reference) : String :=
  Described.record "Reference"
    [("reference_type_id", r.referenceType.describe),
      ("is_inverse", Described.boolean r.isInverse),
      ("target_id", r.target.describe)]

end Reference

/-- A request to read an attribute of a node. -/
structure ReadRequest where
  node : NodeId
  attributeId : UInt32
  indexRange : Option String := none
deriving DecidableEq, Inhabited

namespace ReadRequest

/-- A read request described. -/
def describe (r : ReadRequest) : String :=
  Described.record "ReadValueId"
    [("node_id", r.node.describe),
      ("attribute_id", toString r.attributeId.toNat),
      ("index_range", Described.option (r.indexRange.map Described.text))]

end ReadRequest

/-- A request to write an attribute of a node. -/
structure WriteRequest where
  node : NodeId
  attributeId : UInt32
  indexRange : Option String := none
  value : DataValue
deriving Inhabited

namespace WriteRequest

/-- A write request described. -/
def describe (r : WriteRequest) : String :=
  Described.record "WriteValue"
    [("node_id", r.node.describe),
      ("attribute_id", toString r.attributeId.toNat),
      ("index_range", Described.option (r.indexRange.map Described.text)),
      ("value", r.value.describe)]

end WriteRequest

end NodeAccess
