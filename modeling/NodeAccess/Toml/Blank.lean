/-!
# Blanks, comments and line ends in TOML

Spaces and tabs separate the parts of a line, and a comment may end it. Inside arrays and tables
written in one place, line ends and comments count as blanks too. Control characters other than
the tab stand nowhere.
-/

set_option autoImplicit false

namespace NodeAccess.Toml

/-- A space or a tab. -/
def isSpace (c : Char) : Bool :=
  c = ' ' || c = '\t'

/-- May the character stand in a comment or in a literal text? -/
def isPlain (c : Char) : Bool :=
  c = '\t' || (0x20 ≤ c.toNat && c.toNat != 0x7F)

/-- The text without the spaces at its front. -/
def skipSpaces (cs : List Char) : List Char :=
  cs.dropWhile isSpace

/-- The text behind a line end at its front; the text has to be empty or to begin with one. -/
def skipLineEnd? : List Char → Option (List Char)
  | [] => some []
  | '\n' :: cs => some cs
  | '\r' :: '\n' :: cs => some cs
  | _ => none

/-- The text behind a comment at its front, if there is one. -/
def skipComment : List Char → List Char
  | '#' :: cs => cs.dropWhile isPlain
  | cs => cs

/-- The next line, if nothing but spaces and a comment is left of this one. -/
def nextLine? (cs : List Char) : Option (List Char) :=
  skipLineEnd? (skipComment (skipSpaces cs))

/-- The text behind spaces, line ends and comments. The first argument tells whether the text
begins inside a comment. -/
def skipGapFrom : Bool → List Char → List Char
  | _, [] => []
  | _, '\n' :: cs => skipGapFrom false cs
  | _, '\r' :: '\n' :: cs => skipGapFrom false cs
  | true, c :: cs => if isPlain c then skipGapFrom true cs else c :: cs
  | false, c :: cs =>
    if isSpace c then skipGapFrom false cs
    else if c = '#' then skipGapFrom true cs
    else c :: cs

/-- The text behind spaces, line ends and comments at its front. -/
def skipGap (cs : List Char) : List Char :=
  skipGapFrom false cs

end NodeAccess.Toml
