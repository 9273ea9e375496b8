import NodeAccess.Text.Hex

/-!
# Globally unique identifiers

A value of 128 bits as its thirty-two hexadecimal digits, and its text: five groups of digits
joined by hyphens. Four forms are read: the digits alone, the groups, the groups in braces, and
the groups behind `urn:uuid:`. Letters may have either case; they are written in lower case.
-/

set_option autoImplicit false

namespace NodeAccess

/-- A value of 128 bits, most significant digit first. -/
structure Guid where
  digits : List (Fin 16)
  length_digits : digits.length = 32
deriving DecidableEq

namespace Guid

/-- The widths of the groups. -/
def widths : List Nat :=
  [8, 4, 4, 4, 12]

/-- Characters in groups of the given widths with hyphens between; the last group takes what is
left. -/
def group : List Nat → List Char → List Char
  | [], cs => cs
  | [_], cs => cs
  | w :: ws, cs => cs.take w ++ '-' :: group ws (cs.drop w)

/-- The characters of groups of the given widths with hyphens between. -/
def ungroup? : List Nat → List Char → Option (List Char)
  | [], _ => none
  | [w], cs => if cs.length = w then some cs else none
  | w :: ws, cs =>
    match cs.drop w with
    | '-' :: rest => (ungroup? ws rest).map (cs.take w ++ ·)
    | _ => none

/-- The marker before the groups of the fourth form, in lower case. -/
def marker : List Char :=
  ['u', 'r', 'n', ':', 'u', 'u', 'i', 'd', ':']

/-- The digit characters of a text in one of the four forms. -/
def digitText? (cs : List Char) : Option (List Char) :=
  if cs.length = 32 then some cs
  else
    match cs with
    | '{' :: rest => if rest.getLast? = some '}' then ungroup? widths rest.dropLast else none
    | _ =>
      if (cs.take 9).map Char.toLower = marker then ungroup? widths (cs.drop 9)
      else ungroup? widths cs

/-- The identifier with the given digits, if there are thirty-two. -/
def ofDigits? (ds : List (Fin 16)) : Option Guid :=
  if h : ds.length = 32 then some ⟨ds, h⟩ else none

/-- The identifier that a text writes. -/
def read? (cs : List Char) : Option Guid :=
  match digitText? cs with
  | some text =>
    match Hex.digits? text with
    | some ds => ofDigits? ds
    | none => none
  | none => none

/-- The text of an identifier. -/
def render (g : Guid) : List Char :=
  group widths (g.digits.map Hex.digit)

/-- The identifier with the given value. -/
def ofNat (n : Nat) : Guid :=
  ⟨(List.range 32).map fun i => ⟨n / Nat.pow 16 (31 - i) % 16, Nat.mod_lt _ (by decide)⟩, by simp⟩

/-- The text of an identifier as a string. -/
def toText (g : Guid) : String :=
  String.ofList g.render

end Guid

end NodeAccess
