import NodeAccess.Variant.Description

/-!
# Data values

A value together with its quality and the times at which the source and the server took it.
-/

set_option autoImplicit false

namespace NodeAccess

/-- A value with its quality and times. -/
structure DataValue where
  value : Variant := .null
  status : StatusCode := .good
  sourceTimestamp : Option Timestamp := none
  serverTimestamp : Option Timestamp := none
deriving Inhabited

namespace DataValue

/-- A good value without times. -/
def ofValue (value : Variant) : DataValue :=
  { value }

/-- No value, with a status and without times. -/
def ofStatus (status : StatusCode) : DataValue :=
  { status }

/-- A good value that the server took at the given time. -/
def stamped (now : Timestamp) (value : Variant) : DataValue :=
  { value, serverTimestamp := some now }

/-- Are value, quality and times the same? -/
def same (a b : DataValue) : Bool :=
  a.value.same b.value && a.status = b.status && a.sourceTimestamp = b.sourceTimestamp &&
    a.serverTimestamp = b.serverTimestamp

/-- A data value described. -/
def describe (d : DataValue) : String :=
  Described.record "DataValue"
    [("value", d.value.describe),
      ("status", d.status.describe),
      ("source_timestamp", Described.option (d.sourceTimestamp.map Timestamp.toText)),
      ("server_timestamp", Described.option (d.serverTimestamp.map Timestamp.toText))]

end DataValue

end NodeAccess
