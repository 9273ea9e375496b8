import NodeAccess.Toml.Value

/-!
# Reading the statements of a TOML document

A document is read line by line: every line holds a header, an assignment or nothing, and perhaps
a comment. A byte order mark in front of the first line is skipped.
-/

set_option autoImplicit false

namespace NodeAccess.Toml

/-- The header of an element of an array of tables behind its opening brackets, and what follows
it. -/
def readElement? (cs : List Char) : Option (Statement × List Char) :=
  match readPath? cs with
  | some (path, ']' :: ']' :: rest) => some (.element path, rest)
  | _ => none

/-- The header of a table behind its opening bracket, and what follows it. -/
def readTable? (cs : List Char) : Option (Statement × List Char) :=
  match readPath? cs with
  | some (path, ']' :: rest) => some (.table path, rest)
  | _ => none

/-- A statement at the front, and what follows it. -/
def readStatement? : List Char → Option (Statement × List Char)
  | '[' :: '[' :: cs => readElement? cs
  | '[' :: cs => readTable? cs
  | cs => (readAssignment? cs).map fun ((path, value), rest) => (.assignment path value, rest)

/-- Does the text begin with a statement, and not with a comment or a line end? -/
def startsStatement : List Char → Bool
  | [] => false
  | c :: _ => c != '#' && c != '\n' && c != '\r'

/-- The statement on the first line, if it holds one, and the further lines. -/
def readLine? (cs : List Char) : Option (Option Statement × List Char) :=
  if startsStatement (skipSpaces cs) then
    match readStatement? (skipSpaces cs) with
    | some (statement, rest) => (nextLine? rest).map fun rest => (some statement, rest)
    | none => none
  else (nextLine? cs).map fun rest => (none, rest)

/-- The statements on all lines. The first argument bounds the number of lines. -/
def readLines : Nat → List Char → Option (List Statement)
  | _, [] => some []
  | 0, _ => none
  | fuel + 1, cs =>
    match readLine? cs with
    | some (statement, rest) =>
      (readLines fuel rest).map fun statements => statement.toList ++ statements
    | none => none

/-- The text without a byte order mark at its front. -/
def skipMark : List Char → List Char
  | '\uFEFF' :: cs => cs
  | cs => cs

/-- The statements of a document. -/
def statements? (text : String) : Option (List Statement) :=
  let cs := skipMark text.toList
  readLines cs.length cs

end NodeAccess.Toml
