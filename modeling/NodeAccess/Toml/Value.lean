import NodeAccess.Toml.Basic
import NodeAccess.Toml.DateTime
import NodeAccess.Toml.Number
import NodeAccess.Toml.Quoted

/-!
# Reading keys and values of TOML

A key is bare or a quoted text of one line; dotted keys have spaces around their dots at most. A
value is a quoted text, an array, a table written in one place, or a word: a truth value, a number,
a date or a time. Arrays and tables may stretch over lines, may end with a comma, and are at most
eighty deep.
-/

set_option autoImplicit false

namespace NodeAccess.Toml

/-- A key at the front, and what follows it. -/
def readKey? (cs : List Char) : Option (Key × List Char) :=
  match cs with
  | '"' :: rest => (readBasic? rest).map fun (text, rest) => (.quoted text, rest)
  | '\'' :: rest => (readLiteral? rest).map fun (text, rest) => (.quoted text, rest)
  | _ =>
    (Key.bare? (cs.takeWhile isBareKeyChar)).map fun key => (key, cs.dropWhile isBareKeyChar)

/-- The dotted key that begins with the given key and goes on behind dots, and what follows it.
The first argument bounds the number of keys. -/
def readPathFrom : Nat → Key → List Char → Option (KeyPath × List Char)
  | 0, _, _ => none
  | fuel + 1, key, cs =>
    match skipSpaces cs with
    | '.' :: rest =>
      match readKey? (skipSpaces rest) with
      | some (next, rest) =>
        (readPathFrom fuel next rest).map fun (path, rest) =>
          (⟨key :: path.tables, path.last⟩, rest)
      | none => none
    | rest => some (⟨[], key⟩, rest)

/-- A dotted key at the front, behind spaces, and what follows it and the spaces behind it. -/
def readPath? (cs : List Char) : Option (KeyPath × List Char) :=
  match readKey? (skipSpaces cs) with
  | some (key, rest) => readPathFrom (rest.length + 1) key rest
  | none => none

/-- May the character stand in a word? -/
def isWordChar (c : Char) : Bool :=
  c.isAlphanum || c = '_' || c = '-' || c = '+' || c = '.' || c = ':'

/-- The value that a word writes. -/
def readWord? (cs : List Char) : Option Value :=
  if cs = "true".toList then some (.boolean true)
  else if cs = "false".toList then some (.boolean false)
  else
    match readInteger? cs with
    | some i => some (.integer i)
    | none =>
      match readFloat? cs with
      | some x => some (.float x)
      | none => (readDateTime? cs).map .dateTime

/-- A word at the front, and what follows it. A time of day may follow a date behind a space. -/
def splitWord (cs : List Char) : List Char × List Char :=
  let word := cs.takeWhile isWordChar
  let rest := cs.dropWhile isWordChar
  match readDate? word, rest with
  | some (_, []), ' ' :: c :: more =>
    if c.isDigit then
      (word ++ ' ' :: (c :: more).takeWhile isWordChar, (c :: more).dropWhile isWordChar)
    else (word, rest)
  | _, _ => (word, rest)

/-- The greatest number of arrays and tables around each other. -/
def maxNesting : Nat := 80

mutual

/-- A value at the front, and what follows it. The first argument bounds the number of steps. -/
def readValueFrom : Nat → List Char → Option (Value × List Char)
  | 0, _ => none
  | fuel + 1, cs =>
    match cs with
    | '[' :: rest => (readItems fuel (skipGap rest)).map fun (vs, rest) => (.array vs, rest)
    | '{' :: rest => (readEntries fuel (skipGap rest)).map fun (es, rest) => (.table es, rest)
    | '"' :: _ => (readText? cs).map fun (text, rest) => (.string text, rest)
    | '\'' :: _ => (readText? cs).map fun (text, rest) => (.string text, rest)
    | _ =>
      let (word, rest) := splitWord cs
      (readWord? word).map fun value => (value, rest)

/-- The items of an array up to its closing bracket, and what follows it. -/
def readItems : Nat → List Char → Option (List Value × List Char)
  | 0, _ => none
  | fuel + 1, cs =>
    match cs with
    | ']' :: rest => some ([], rest)
    | _ =>
      match readValueFrom fuel cs with
      | none => none
      | some (value, rest) =>
        match skipGap rest with
        | ',' :: rest =>
          (readItems fuel (skipGap rest)).map fun (values, rest) => (value :: values, rest)
        | ']' :: rest => some ([value], rest)
        | _ => none

/-- The assignments of a table up to its closing brace, and what follows it. -/
def readEntries : Nat → List Char → Option (List (KeyPath × Value) × List Char)
  | 0, _ => none
  | fuel + 1, cs =>
    match cs with
    | '}' :: rest => some ([], rest)
    | _ =>
      match readEntry fuel cs with
      | none => none
      | some (entry, rest) =>
        match skipGap rest with
        | ',' :: rest =>
          (readEntries fuel (skipGap rest)).map fun (entries, rest) => (entry :: entries, rest)
        | '}' :: rest => some ([entry], rest)
        | _ => none

/-- A dotted key, an equals sign and a value, and what follows them. -/
def readEntry : Nat → List Char → Option ((KeyPath × Value) × List Char)
  | 0, _ => none
  | fuel + 1, cs =>
    match readPath? cs with
    | some (path, '=' :: rest) =>
      (readValueFrom fuel (skipSpaces rest)).map fun (value, rest) => ((path, value), rest)
    | _ => none

end

/-- An assignment at the front, and what follows it. -/
def readAssignment? (cs : List Char) : Option ((KeyPath × Value) × List Char) :=
  match readEntry (3 * cs.length + 3) cs with
  | some ((path, value), rest) =>
    if value.nesting ≤ maxNesting then some ((path, value), rest) else none
  | none => none

end NodeAccess.Toml
