import NodeAccess.Json.Basic
import NodeAccess.Text.Hex

/-!
# Writing JSON

Values are written without blanks. In strings a quote, a backslash and the control characters are
escaped, and nothing else.
-/

set_option autoImplicit false

namespace NodeAccess.Json

/-- The text of a character inside a string. -/
def renderChar (c : Char) : List Char :=
  if c = '"' then ['\\', '"']
  else if c = '\\' then ['\\', '\\']
  else if c = '\n' then ['\\', 'n']
  else if c = '\r' then ['\\', 'r']
  else if c = '\t' then ['\\', 't']
  else if c = '\x08' then ['\\', 'b']
  else if c = '\x0c' then ['\\', 'f']
  else if c.toNat < 0x20 then '\\' :: 'u' :: Hex.renderFixed 4 c.toNat
  else [c]

/-- The text of characters inside a string, with the closing quote. -/
def renderChars : List Char → List Char
  | [] => ['"']
  | c :: cs => renderChar c ++ renderChars cs

/-- The text of a string. -/
def renderString (s : String) : List Char :=
  '"' :: renderChars s.toList

/-- The text of octets: an array of numbers. -/
def renderOctets (bs : List UInt8) : List Char :=
  '[' :: (",".toList.intercalate (bs.map fun b => Decimal.render b.toNat)) ++ [']']

mutual

/-- The text of a value. -/
def render : Json → List Char
  | .null => "null".toList
  | .boolean true => "true".toList
  | .boolean false => "false".toList
  | .number n => n.render
  | .string s => renderString s
  | .octets bs _ => renderOctets bs
  | .array [] => ['[', ']']
  | .array (item :: items) => '[' :: (render item ++ renderItems items)
  | .object [] => "\x7b\x7d".toList
  | .object ((name, value) :: members) =>
    '{' :: (renderString name ++ ':' :: (render value ++ renderMembers members))

/-- The text of the items of an array behind its first, with the closing bracket. -/
def renderItems : List Json → List Char
  | [] => [']']
  | item :: items => ',' :: (render item ++ renderItems items)

/-- The text of the members of an object behind its first, with the closing brace. -/
def renderMembers : List (String × Json) → List Char
  | [] => ['}']
  | (name, value) :: members =>
    ',' :: (renderString name ++ ':' :: (render value ++ renderMembers members))

end

/-- The text of a value as a string. -/
def toText (j : Json) : String :=
  String.ofList j.render

end NodeAccess.Json
