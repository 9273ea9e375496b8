import NodeAccess.Text.Hex
import NodeAccess.Toml.Blank

/-!
# Quoted texts in TOML

A text stands in double quotes, with escapes, or in single quotes, as it is. Three quotes of a
kind open a text of many lines; a line end right behind them does not count, and up to two more
quotes of the kind may stand before the closing three. In a text of many lines with escapes, a
backslash at the end of a line joins the line with the next text that is not blank.

Each reader finds the end of the text first and looks at escapes afterwards.
-/

set_option autoImplicit false

namespace NodeAccess.Toml

/-- The character of an escape of one letter. -/
def escape? (c : Char) : Option Char :=
  if c = '"' then some '"'
  else if c = '\\' then some '\\'
  else if c = 'b' then some '\x08'
  else if c = 'e' then some '\x1b'
  else if c = 'f' then some '\x0c'
  else if c = 'n' then some '\n'
  else if c = 'r' then some '\r'
  else if c = 't' then some '\t'
  else none

/-- The character whose number is written by hexadecimal digits. -/
def charOfHex? (cs : List Char) : Option Char :=
  match Hex.read? cs with
  | some n => if n.isValidChar then some (Char.ofNat n) else none
  | none => none

/-- Does the text begin with a line end, behind spaces? -/
def endsLine (cs : List Char) : Bool :=
  match skipSpaces cs with
  | '\n' :: _ => true
  | '\r' :: '\n' :: _ => true
  | _ => false

/-- A character in front of a text, if there is that text. -/
def prepend? (c : Option Char) (cs : Option (List Char)) : Option (List Char) :=
  match c, cs with
  | some c, some cs => some (c :: cs)
  | _, _ => none

/-- The text that a content with escapes writes. The flags tell whether it may have many lines,
and whether it stands behind a backslash that joins lines. -/
def unescape? (lines : Bool) : Bool → List Char → Option (List Char)
  | _, [] => some []
  | true, ' ' :: cs => unescape? lines true cs
  | true, '\t' :: cs => unescape? lines true cs
  | true, '\n' :: cs => unescape? lines true cs
  | true, '\r' :: '\n' :: cs => unescape? lines true cs
  | _, '\\' :: 'u' :: a :: b :: c :: d :: cs =>
    prepend? (charOfHex? [a, b, c, d]) (unescape? lines false cs)
  | _, '\\' :: 'U' :: a :: b :: c :: d :: e :: f :: g :: h :: cs =>
    prepend? (charOfHex? [a, b, c, d, e, f, g, h]) (unescape? lines false cs)
  | _, '\\' :: 'x' :: a :: b :: cs => prepend? (charOfHex? [a, b]) (unescape? lines false cs)
  | _, '\\' :: c :: cs =>
    if lines && endsLine (c :: cs) then unescape? lines true cs
    else prepend? (escape? c) (unescape? lines false cs)
  | _, '\n' :: cs => if lines then prepend? (some '\n') (unescape? lines false cs) else none
  | _, '\r' :: '\n' :: cs =>
    if lines then prepend? (some '\r') (prepend? (some '\n') (unescape? lines false cs)) else none
  | _, c :: cs => if isPlain c then prepend? (some c) (unescape? lines false cs) else none

/-- The content of a text in double quotes up to the closing one, and what follows it. -/
def splitBasic : List Char → Option (List Char × List Char)
  | [] => none
  | '"' :: rest => some ([], rest)
  | '\\' :: c :: rest => (splitBasic rest).map fun (cs, rest) => ('\\' :: c :: cs, rest)
  | c :: rest => (splitBasic rest).map fun (cs, rest) => (c :: cs, rest)

/-- What closing quotes leave of the quotes before them, and what follows them. -/
def closing (quote : Char) (rest : List Char) : List Char × List Char :=
  let extra := (rest.take 2).takeWhile (· = quote)
  (extra, rest.drop extra.length)

/-- The content of a text of many lines with escapes, and what follows it. -/
def splitBasicLines : List Char → Option (List Char × List Char)
  | [] => none
  | '"' :: '"' :: '"' :: rest => some (closing '"' rest)
  | '\\' :: c :: rest => (splitBasicLines rest).map fun (cs, rest) => ('\\' :: c :: cs, rest)
  | c :: rest => (splitBasicLines rest).map fun (cs, rest) => (c :: cs, rest)

/-- The content of a text of many lines as it is, and what follows it. -/
def splitLiteralLines : List Char → Option (List Char × List Char)
  | [] => none
  | '\'' :: '\'' :: '\'' :: rest => some (closing '\'' rest)
  | c :: rest => (splitLiteralLines rest).map fun (cs, rest) => (c :: cs, rest)

/-- Do plain characters and line ends make up the whole text? -/
def isPlainLines : List Char → Bool
  | [] => true
  | '\n' :: cs => isPlainLines cs
  | '\r' :: '\n' :: cs => isPlainLines cs
  | c :: cs => isPlain c && isPlainLines cs

/-- The text without a line end at its front. -/
def dropLineEnd : List Char → List Char
  | '\n' :: cs => cs
  | '\r' :: '\n' :: cs => cs
  | cs => cs

/-- The text in double quotes behind the opening one, and what follows it. -/
def readBasic? (cs : List Char) : Option (String × List Char) :=
  match splitBasic cs with
  | some (content, rest) =>
    (unescape? false false content).map fun text => (String.ofList text, rest)
  | none => none

/-- The text in three double quotes behind the opening ones, and what follows it. -/
def readBasicLines? (cs : List Char) : Option (String × List Char) :=
  match splitBasicLines (dropLineEnd cs) with
  | some (content, rest) =>
    (unescape? true false content).map fun text => (String.ofList text, rest)
  | none => none

/-- The text in single quotes behind the opening one, and what follows it. -/
def readLiteral? (cs : List Char) : Option (String × List Char) :=
  let content := cs.takeWhile fun c => c != '\'' && isPlain c
  match cs.drop content.length with
  | '\'' :: rest => some (String.ofList content, rest)
  | _ => none

/-- The text in three single quotes behind the opening ones, and what follows it. -/
def readLiteralLines? (cs : List Char) : Option (String × List Char) :=
  match splitLiteralLines (dropLineEnd cs) with
  | some (content, rest) => if isPlainLines content then some (String.ofList content, rest) else none
  | none => none

/-- A quoted text at the front, and what follows it. -/
def readText? : List Char → Option (String × List Char)
  | '"' :: '"' :: '"' :: cs => readBasicLines? cs
  | '"' :: cs => readBasic? cs
  | '\'' :: '\'' :: '\'' :: cs => readLiteralLines? cs
  | '\'' :: cs => readLiteral? cs
  | _ => none

end NodeAccess.Toml
