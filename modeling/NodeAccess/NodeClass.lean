/-!
# Node classes

The kinds of node of an address space; each is one bit of a mask.
-/

set_option autoImplicit false

namespace NodeAccess

/-- The kind of a node. -/
inductive NodeClass where
  | unspecified
  | object
  | variable
  | method
  | objectType
  | variableType
  | referenceType
  | dataType
  | view
deriving DecidableEq, Inhabited

namespace NodeClass

/-- Every class, in the order of their numbers. -/
def all : List NodeClass :=
  [unspecified, object, .variable, method, objectType, variableType, referenceType, dataType, view]

/-- The number of a class. -/
def number : NodeClass → UInt32
  | unspecified => 0
  | object => 1
  | .variable => 2
  | method => 4
  | objectType => 8
  | variableType => 16
  | referenceType => 32
  | dataType => 64
  | view => 128

/-- The name of a class. -/
def name : NodeClass → String
  | unspecified => "Unspecified"
  | object => "Object"
  | .variable => "Variable"
  | method => "Method"
  | objectType => "ObjectType"
  | variableType => "VariableType"
  | referenceType => "ReferenceType"
  | dataType => "DataType"
  | view => "View"

/-- The class of a name, if it is one. -/
def ofName? (s : String) : Option NodeClass :=
  all.find? fun c => c.name = s

end NodeClass

end NodeAccess
