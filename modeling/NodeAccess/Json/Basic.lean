import NodeAccess.Number.Numeral

/-!
# Data in exchange format

The values of JSON as they are written: numbers stay numerals, and the members of an object keep
their order and their repetitions. A string that is no text, because an escape leaves half of a
surrogate pair or a control character stands unescaped, is kept as octets: it can be read as
octets, or be skipped, but not be read as text.
-/

set_option autoImplicit false

namespace NodeAccess

/-- A JSON value as it is written. -/
inductive Json where
  | null
  | boolean (value : Bool)
  | number (value : Numeral)
  | string (value : String)
  /-- A string that is no text; `escaped` tells that no control character stands in it. -/
  | octets (value : List UInt8) (escaped : Bool)
  | array (items : List Json)
  | object (members : List (String × Json))

namespace Json

instance : Inhabited Json := ⟨null⟩

/-- The number of a natural number. -/
def ofNat (n : Nat) : Json :=
  .number (.ofNat n)

/-- The number of an integer. -/
def ofInt (i : Int) : Json :=
  .number (.ofInt i)

mutual

/-- Can the value stand where it is not looked at? Only control characters in strings bar it. -/
def isSkippable : Json → Bool
  | .octets _ escaped => escaped
  | .array items => areSkippable items
  | .object members => haveSkippable members
  | _ => true

/-- Can all values stand where they are not looked at? -/
def areSkippable : List Json → Bool
  | [] => true
  | item :: items => isSkippable item && areSkippable items

/-- Can the values of all members stand where they are not looked at? -/
def haveSkippable : List (String × Json) → Bool
  | [] => true
  | (_, value) :: members => isSkippable value && haveSkippable members

end

mutual

/-- How many arrays and objects are open at the deepest place of the value. -/
def nesting : Json → Nat
  | .array items => nestingOfItems items + 1
  | .object members => nestingOfMembers members + 1
  | _ => 0

/-- The deepest nesting of several values. -/
def nestingOfItems : List Json → Nat
  | [] => 0
  | item :: items => max (nesting item) (nestingOfItems items)

/-- The deepest nesting of the values of members. -/
def nestingOfMembers : List (String × Json) → Nat
  | [] => 0
  | (_, value) :: members => max (nesting value) (nestingOfMembers members)

end

end Json

end NodeAccess
