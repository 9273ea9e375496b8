import NodeAccess.Number.Binary

/-!
# Statements of a TOML document

A document is a list of statements: headers, which open a table or a new element of an array of
tables, and assignments, which belong to the table opened last. Keys keep whether they were quoted.
What the statements mean together is not decided here.
-/

set_option autoImplicit false

namespace NodeAccess.Toml

/-- May the character stand in a key without quotes? -/
def isBareKeyChar (c : Char) : Bool :=
  c.isAlphanum || c = '_' || c = '-'

/-- Can the text be a key without quotes? -/
def isBareName (cs : List Char) : Bool :=
  !cs.isEmpty && cs.all isBareKeyChar

/-- A key as it is written; without quotes only some texts can be keys. -/
structure Key where
  text : String
  isQuoted : Bool
  isBareName_of_not_quoted : isQuoted = false → isBareName text.toList = true
deriving DecidableEq

namespace Key

/-- A key in quotes. -/
def quoted (text : String) : Key :=
  ⟨text, true, by simp⟩

/-- A key without quotes, if the text can be one. -/
def bare? (cs : List Char) : Option Key :=
  if h : isBareName cs = true then some ⟨String.ofList cs, false, by simpa using h⟩ else none

instance : Inhabited Key := ⟨quoted ""⟩

end Key

/-- A dotted key: the keys of the tables on the way, and the key in the last of them. -/
structure KeyPath where
  tables : List Key
  last : Key
deriving DecidableEq, Inhabited

/-- All keys of a dotted key, in order. -/
def KeyPath.keys (p : KeyPath) : List Key :=
  p.tables ++ [p.last]

/-- A value as it is written. -/
inductive Value where
  | boolean (value : Bool)
  | integer (value : Int)
  | float (value : Binary64)
  | string (value : String)
  /-- A date, a time of day or both, by its normal text. -/
  | dateTime (text : String)
  | array (items : List Value)
  /-- A table written in one place, by its assignments. -/
  | table (assignments : List (KeyPath × Value))

instance : Inhabited Value := ⟨.boolean false⟩

namespace Value

mutual

/-- The number of arrays and tables around the innermost part of a value. -/
def nesting : Value → Nat
  | array items => itemsNesting items + 1
  | table assignments => assignmentsNesting assignments + 1
  | _ => 0

/-- The greatest nesting among several values. -/
def itemsNesting : List Value → Nat
  | [] => 0
  | v :: vs => max (nesting v) (itemsNesting vs)

/-- The greatest nesting among the values of several assignments. -/
def assignmentsNesting : List (KeyPath × Value) → Nat
  | [] => 0
  | (_, v) :: rest => max (nesting v) (assignmentsNesting rest)

end

end Value

/-- A statement of a document. -/
inductive Statement where
  /-- The header that opens a table. -/
  | table (path : KeyPath)
  /-- The header that opens a new element of an array of tables. -/
  | element (path : KeyPath)
  | assignment (path : KeyPath) (value : Value)

instance : Inhabited Statement := ⟨.table default⟩

end NodeAccess.Toml
