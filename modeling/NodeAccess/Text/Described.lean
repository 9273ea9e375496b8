import NodeAccess.Text.Hex
import NodeAccess.Text.Printable

/-!
# Values described in text

The one-line form in which values are shown for inspection and in messages: records as
`Name { field: value, other: value }`, applications as `Name(value)`, lists as `[a, b]`, options
as `Some(x)` or `None`, text and octets quoted with escapes.
-/

set_option autoImplicit false

namespace NodeAccess.Described

/-- A character inside quoted text. -/
def character (c : Char) : String :=
  if c = '"' then "\\\""
  else if c = '\\' then "\\\\"
  else if c = '\n' then "\\n"
  else if c = '\r' then "\\r"
  else if c = '\t' then "\\t"
  else if c = '\x00' then "\\0"
  else if Text.isPrintable c then String.singleton c
  else "\\u\x7b" ++ String.ofList (Hex.render c.toNat) ++ "\x7d"

/-- Text between quotes. -/
def text (s : String) : String :=
  "\"" ++ s.foldl (fun shown c => shown ++ character c) "" ++ "\""

/-- An octet inside quoted octets. -/
def octet (b : UInt8) : String :=
  if b = 10 then "\\n"
  else if b = 13 then "\\r"
  else if b = 9 then "\\t"
  else if b = 92 then "\\\\"
  else if b = 34 then "\\\""
  else if b = 0 then "\\0"
  else if 32 ≤ b ∧ b < 127 then String.singleton (Char.ofNat b.toNat)
  else "\\x" ++ String.ofList (Hex.renderFixed 2 b.toNat)

/-- Octets between quotes, marked by a `b`. -/
def octets (bs : List UInt8) : String :=
  "b\"" ++ bs.foldl (fun shown b => shown ++ octet b) "" ++ "\""

/-- A name applied to a described value. -/
def applied (name value : String) : String :=
  name ++ "(" ++ value ++ ")"

/-- Described values in brackets. -/
def list (values : List String) : String :=
  "[" ++ ", ".intercalate values ++ "]"

/-- An optional described value. -/
def option : Option String → String
  | some value => applied "Some" value
  | none => "None"

/-- A truth value. -/
def boolean (b : Bool) : String :=
  if b then "true" else "false"

/-- A named record of described fields. -/
def record (name : String) (fields : List (String × String)) : String :=
  name ++ " \x7b " ++ ", ".intercalate (fields.map fun f => f.1 ++ ": " ++ f.2) ++ " \x7d"

end NodeAccess.Described
