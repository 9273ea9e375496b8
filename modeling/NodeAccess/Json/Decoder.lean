import NodeAccess.Json.Basic
import NodeAccess.Text.Decimal

/-!
# Decoding JSON

A decoder finds a value of some type in a JSON value, or refuses. It is told how many arrays and
objects may still be opened, and refuses what lies deeper; parts that it does not look at may be
nested to any depth. Records are found in objects, whatever the order of the members and whatever
further members there are, and in arrays that list their fields in order.
-/

set_option autoImplicit false

namespace NodeAccess

/-- Finds a value in a JSON value of which only so many nested arrays and objects are opened. -/
abbrev Decoder (α : Type) := Nat → Json → Option α

namespace Decoder

variable {α β : Type}

/-- How many nested arrays and objects are opened at most. -/
def greatestDepth : Nat := 127

/-- What the decoder finds in a value from outside. -/
def run (d : Decoder α) (j : Json) : Option α :=
  d greatestDepth j

/-- The decoder with its results passed on to a partial function. -/
def andThen (d : Decoder α) (f : α → Option β) : Decoder β :=
  fun depth j => (d depth j).bind f

/-- A truth value. -/
def boolean : Decoder Bool
  | _, .boolean b => some b
  | _, _ => none

/-- A text. -/
def text : Decoder String
  | _, .string s => some s
  | _, _ => none

/-- An integer between two bounds. -/
def integer (low high : Int) : Decoder Int
  | _, .number n =>
    match n.toInt? with
    | some i => if low ≤ i ∧ i ≤ high then some i else none
    | none => none
  | _, _ => none

/-- A natural number below a bound. -/
def natural (bound : Nat) : Decoder Nat :=
  (integer 0 ((bound : Int) - 1)).andThen fun i => some i.toNat

/-- The results of a partial function on all items, if it accepts each of them. -/
def collect (f : Json → Option α) : List Json → Option (List α)
  | [] => some []
  | item :: items =>
    match f item, collect f items with
    | some a, some as => some (a :: as)
    | _, _ => none

/-- A list. -/
def list (d : Decoder α) : Decoder (List α)
  | depth + 1, .array items => collect (d depth) items
  | _, _ => none

/-- A value or nothing. -/
def option (d : Decoder α) : Decoder (Option α)
  | _, .null => some none
  | depth, j => (d depth j).map some

/-- One of several names: the name as a string, or as the only member of an object, with null. -/
def named (ofName? : String → Option α) : Decoder α
  | _, .string s => ofName? s
  | _ + 1, .object [(name, .null)] => ofName? name
  | _, _ => none

/-- Octets: an array of numbers below 256, or the octets of a string. -/
def octets : Decoder (List UInt8)
  | _, .string s => some (s.toList.flatMap String.utf8EncodeChar)
  | _, .octets bs _ => some bs
  | depth, j => list ((natural 256).andThen fun n => some (UInt8.ofNat n)) depth j

end Decoder

/-- The fields of a record, as they are found in a JSON value. -/
structure Fields where
  /-- How many nested arrays and objects may be opened in the fields. -/
  depth : Nat
  members : List (String × Json)
  /-- Were the fields listed in order, without names? -/
  positional : Bool

namespace Fields

variable {α : Type}

/-- Is no known name repeated, and can every other member be skipped? -/
def areReadable (names : List String) : List (String × Json) → Bool
  | [] => true
  | (name, value) :: members =>
    (if names.contains name then members.all fun m => m.1 != name else value.isSkippable) &&
      areReadable names members

/-- The fields of the given names in a value. -/
def find? (names : List String) : Decoder Fields
  | depth + 1, .object members =>
    if areReadable names members then some ⟨depth, members, false⟩ else none
  | depth + 1, .array items =>
    if items.length ≤ names.length then some ⟨depth, names.zip items, true⟩ else none
  | _, _ => none

/-- A field that may not be missing. -/
def required (f : Fields) (name : String) (d : Decoder α) : Option α :=
  match f.members.lookup name with
  | some j => d f.depth j
  | none => none

/-- A field with a value for when it is missing. -/
def withDefault (f : Fields) (name : String) (d : Decoder α) (value : α) : Option α :=
  match f.members.lookup name with
  | some j => d f.depth j
  | none => some value

/-- A field whose value may be null; it may be missing where fields have names. -/
def optional (f : Fields) (name : String) (d : Decoder α) : Option (Option α) :=
  match f.members.lookup name with
  | some j => Decoder.option d f.depth j
  | none => if f.positional then none else some none

end Fields

end NodeAccess
