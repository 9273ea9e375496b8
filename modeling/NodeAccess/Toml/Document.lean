import NodeAccess.Settings.Tree
import NodeAccess.Toml.Statement

/-!
# The tree of a TOML document

Statements build a tree step by step. A header may open a table that exists so far only because
later parts were placed in it, but none that a header or a dotted key made; a header of an array of
tables adds an element to such an array. An assignment makes tables along its dotted key, or goes
on in tables that dotted keys made. Nothing is ever assigned twice, and what was written in one
place is closed.
-/

set_option autoImplicit false

namespace NodeAccess.Toml

/-- Why a table exists. -/
inductive Origin where
  /-- A header opened it. -/
  | stated
  /-- A header opened something within it. -/
  | implied
  /-- A dotted key of an assignment passes through it. -/
  | dotted
deriving DecidableEq

/-- A part of a document that is still open to statements. -/
inductive Node where
  | value (tree : Tree)
  | table (origin : Origin) (entries : List (String × Node))
  /-- An array of tables: the elements before the last, latest first, and the last. -/
  | tables (earlier : List (List (String × Node))) (last : List (String × Node))

/-- The open parts of a table by their keys. -/
abbrev Entries := List (String × Node)

namespace Entries

/-- The entries with the one of a key changed, or added behind the others. -/
def change? (f : Option Node → Option Node) (key : String) : Entries → Option Entries
  | [] => (f none).map fun n => [(key, n)]
  | (k, n) :: es =>
    if k = key then (f (some n)).map fun n => (k, n) :: es
    else (change? f key es).map ((k, n) :: ·)

end Entries

namespace Node

/-- A change within the table on the way of a header. -/
def within? (f : Entries → Option Entries) : Option Node → Option Node
  | none => (f []).map (table .implied)
  | some (table o es) => (f es).map (table o)
  | some (tables earlier last) => (f last).map (tables earlier)
  | some (value _) => none

/-- A change within the table on the way of a dotted key; `isLast` tells whether it is to hold the
value itself. -/
def along? (isLast : Bool) (f : Entries → Option Entries) : Option Node → Option Node
  | none => (f []).map (table .dotted)
  | some (table .dotted es) => (f es).map (table .dotted)
  | some (table .implied es) => if isLast then none else (f es).map (table .implied)
  | some (table .stated _) => none
  | some (tables earlier last) => if isLast then none else (f last).map (tables earlier)
  | some (value _) => none

/-- The table that a header opens. -/
def openTable? : Option Node → Option Node
  | none => some (table .stated [])
  | some (table .implied es) => some (table .stated es)
  | _ => none

/-- The array of tables to which a header adds an element. -/
def openElement? : Option Node → Option Node
  | none => some (tables [] [])
  | some (tables earlier last) => some (tables (last :: earlier) [])
  | _ => none

/-- A value where there was nothing before. -/
def place? (tree : Tree) : Option Node → Option Node
  | none => some (value tree)
  | some _ => none

mutual

/-- The finished part. -/
def toTree : Node → Tree
  | value t => t
  | table _ es => .table (entriesToTree es)
  | tables earlier last =>
    .array ((elementsToTree earlier).reverse ++ [.table (entriesToTree last)])

/-- The finished entries of a table. -/
def entriesToTree : List (String × Node) → List (String × Tree)
  | [] => []
  | (k, n) :: es => (k, toTree n) :: entriesToTree es

/-- The finished elements of an array of tables. -/
def elementsToTree : List (List (String × Node)) → List Tree
  | [] => []
  | es :: rest => .table (entriesToTree es) :: elementsToTree rest

end

end Node

namespace Entries

/-- A change within the table at the end of the way of a header. -/
def under? (f : Entries → Option Entries) : List String → Entries → Option Entries
  | [], es => f es
  | k :: ks, es => change? (Node.within? (under? f ks)) k es

/-- A value assigned to a dotted key. -/
def assign? (tree : Tree) (key : String) : List String → Entries → Option Entries
  | [], es => change? (Node.place? tree) key es
  | k :: ks, es => change? (Node.along? ks.isEmpty (assign? tree key ks)) k es

end Entries

/-- The texts of keys. -/
def keyTexts (keys : List Key) : List String :=
  keys.map Key.text

namespace Value

mutual

/-- The tree of a value, if its tables assign no key twice. -/
def toTree? : Value → Option Tree
  | boolean b => some (.boolean b)
  | integer i => some (.integer i)
  | float x => some (.float x)
  | string s => some (.string s)
  | dateTime s => some (.dateTime s)
  | array items => (itemsToTree? items).map .array
  | table assignments =>
    (assignmentsToEntries? assignments []).map fun es => .table (Node.entriesToTree es)

/-- The trees of several values. -/
def itemsToTree? : List Value → Option (List Tree)
  | [] => some []
  | v :: vs =>
    match toTree? v, itemsToTree? vs with
    | some t, some ts => some (t :: ts)
    | _, _ => none

/-- The entries after assignments, given those before. -/
def assignmentsToEntries? : List (KeyPath × Value) → Entries → Option Entries
  | [], es => some es
  | (path, v) :: rest, es =>
    match toTree? v with
    | some t =>
      match es.assign? t path.last.text (keyTexts path.tables) with
      | some es => assignmentsToEntries? rest es
      | none => none
    | none => none

end

end Value

/-- What the statements so far have built, and the table that is open. -/
structure Draft where
  entries : Entries := []
  opened : List String := []

namespace Draft

/-- The draft after a further statement. -/
def step? (d : Draft) : Statement → Option Draft
  | .table path => do
    let entries ←
      d.entries.under? (Entries.change? Node.openTable? path.last.text) (keyTexts path.tables)
    some { entries, opened := keyTexts path.keys }
  | .element path => do
    let entries ←
      d.entries.under? (Entries.change? Node.openElement? path.last.text) (keyTexts path.tables)
    some { entries, opened := keyTexts path.keys }
  | .assignment path v => do
    let tree ← v.toTree?
    let entries ←
      d.entries.under? (Entries.assign? tree path.last.text (keyTexts path.tables)) d.opened
    some { d with entries }

/-- The draft after several statements. -/
def run? (d : Draft) : List Statement → Option Draft
  | [] => some d
  | s :: ss => (d.step? s).bind fun d => d.run? ss

end Draft

/-- The entries that the statements of a document build. -/
def build? (statements : List Statement) : Option (List (String × Tree)) :=
  (Draft.run? {} statements).map fun d => Node.entriesToTree d.entries

/-- The entries of a document. -/
def read? (text : String) : Option (List (String × Tree)) :=
  (statements? text).bind build?

end NodeAccess.Toml
