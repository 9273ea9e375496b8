import NodeAccess.Guid

/-!
# Node identifiers

A node is named by the index of a namespace and, within it, by a number, a text, a globally unique
identifier or octets. Roles are named by node identifiers too.
-/

set_option autoImplicit false

namespace NodeAccess

/-- The part of a node identifier that names the node within its namespace. -/
inductive Identifier where
  | numeric (value : UInt32)
  | text (value : String)
  | guid (value : Guid)
  | octets (value : List UInt8)
deriving DecidableEq

/-- The name of a node. -/
structure NodeId where
  namespaceIndex : UInt16
  identifier : Identifier
deriving DecidableEq

namespace NodeId

/-- The number zero in namespace zero, which names no node. -/
def null : NodeId :=
  ⟨0, .numeric 0⟩

instance : Inhabited NodeId := ⟨null⟩

/-- A node named by a number. -/
def numeric (namespaceIndex : UInt16) (value : UInt32) : NodeId :=
  ⟨namespaceIndex, .numeric value⟩

/-- A node named by a text. -/
def text (namespaceIndex : UInt16) (value : String) : NodeId :=
  ⟨namespaceIndex, .text value⟩

/-- Is this the identifier that names no node? -/
def isNull (id : NodeId) : Bool :=
  id = null

/-- Only the null identifier is null. -/
theorem isNull_iff (id : NodeId) : id.isNull = true ↔ id = null := by
  simp [isNull]

end NodeId

end NodeAccess
