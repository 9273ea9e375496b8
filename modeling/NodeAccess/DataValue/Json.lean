import NodeAccess.Request
import NodeAccess.Variant.Json

/-!
# Data values, references and requests in JSON

Records with their fields in a fixed order; times and index ranges may be null.
-/

set_option autoImplicit false

namespace NodeAccess

namespace Json

/-- A value or null. -/
def ofOption (j : Option Json) : Json :=
  j.getD .null

end Json

namespace DataValue

/-- The fields of a data value. -/
def fieldNames : List String :=
  ["value", "status", "source_timestamp", "server_timestamp"]

/-- A data value as JSON. -/
def toJson (d : DataValue) : Json :=
  .object [("value", d.value.toJson), ("status", d.status.toJson),
    ("source_timestamp", .ofOption (d.sourceTimestamp.map Timestamp.toJson)),
    ("server_timestamp", .ofOption (d.serverTimestamp.map Timestamp.toJson))]

/-- A data value in JSON. -/
def decode : Decoder DataValue :=
  (Fields.find? fieldNames).andThen fun f => do
    let value ← f.required "value" Variant.decode
    let status ← f.required "status" StatusCode.decode
    let sourceTimestamp ← f.optional "source_timestamp" Timestamp.decode
    let serverTimestamp ← f.optional "server_timestamp" Timestamp.decode
    some { value, status, sourceTimestamp, serverTimestamp }

end DataValue

namespace Reference

/-- The fields of a reference. -/
def fieldNames : List String :=
  ["reference_type_id", "is_inverse", "target_id"]

/-- A reference as JSON. -/
def toJson (r : Reference) : Json :=
  .object [("reference_type_id", r.referenceType.toJson), ("is_inverse", .boolean r.isInverse),
    ("target_id", r.target.toJson)]

/-- A reference in JSON. -/
def decode : Decoder Reference :=
  (Fields.find? fieldNames).andThen fun f => do
    let referenceType ← f.required "reference_type_id" NodeId.decode
    let isInverse ← f.required "is_inverse" Decoder.boolean
    let target ← f.required "target_id" NodeId.decode
    some { referenceType, isInverse, target }

end Reference

namespace ReadRequest

/-- The fields of a read request. -/
def fieldNames : List String :=
  ["node_id", "attribute_id", "index_range"]

/-- A read request as JSON. -/
def toJson (r : ReadRequest) : Json :=
  .object [("node_id", r.node.toJson), ("attribute_id", .ofNat r.attributeId.toNat),
    ("index_range", .ofOption (r.indexRange.map .string))]

/-- A read request in JSON. -/
def decode : Decoder ReadRequest :=
  (Fields.find? fieldNames).andThen fun f => do
    let node ← f.required "node_id" NodeId.decode
    let attributeId ← f.required "attribute_id" (Decoder.natural UInt32.size)
    let indexRange ← f.optional "index_range" Decoder.text
    some { node, attributeId := UInt32.ofNat attributeId, indexRange }

end ReadRequest

namespace WriteRequest

/-- The fields of a write request. -/
def fieldNames : List String :=
  ["node_id", "attribute_id", "index_range", "value"]

/-- A write request as JSON. -/
def toJson (r : WriteRequest) : Json :=
  .object [("node_id", r.node.toJson), ("attribute_id", .ofNat r.attributeId.toNat),
    ("index_range", .ofOption (r.indexRange.map .string)), ("value", r.value.toJson)]

/-- A write request in JSON. -/
def decode : Decoder WriteRequest :=
  (Fields.find? fieldNames).andThen fun f => do
    let node ← f.required "node_id" NodeId.decode
    let attributeId ← f.required "attribute_id" (Decoder.natural UInt32.size)
    let indexRange ← f.optional "index_range" Decoder.text
    let value ← f.required "value" DataValue.decode
    some { node, attributeId := UInt32.ofNat attributeId, indexRange, value }

end WriteRequest

end NodeAccess
