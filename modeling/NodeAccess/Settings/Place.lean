import NodeAccess.Settings.Tree
import NodeAccess.Text.Decimal

/-!
# Places in trees of settings

A place is named by a path such as `security.default_role_permissions[0].role`: a key, and further
keys behind dots and indices in brackets. A negative index counts from the end. A key that is no
path names a place at the top by itself.
-/

set_option autoImplicit false

namespace NodeAccess

namespace Tree

/-- A step from a place to one within it. -/
inductive Step where
  | key (name : String)
  | index (i : Int)
deriving DecidableEq

/-- A place: a key at the top, and the steps from there. -/
structure Place where
  key : String
  steps : List Step := []
deriving DecidableEq

namespace Place

/-- May the character stand in a key of a path? -/
def isKeyChar (c : Char) : Bool :=
  c.isAlphanum || c = '_' || c = '-'

/-- A nonempty key at the front, and what follows it. -/
def readKey? (cs : List Char) : Option (String × List Char) :=
  let name := cs.takeWhile isKeyChar
  if name.isEmpty then none else some (String.ofList name, cs.dropWhile isKeyChar)

/-- May the character stand around an index? -/
def isSpace (c : Char) : Bool :=
  c = ' ' || c = '\t'

/-- An index of at most 64 bits up to its closing bracket, and what follows it. -/
def readIndex? (cs : List Char) : Option (Int × List Char) :=
  let (negative, body) :=
    match cs.dropWhile isSpace with
    | '-' :: rest => (true, rest)
    | rest => (false, rest)
  let (ds, rest) := Decimal.spanDigits body
  match rest.dropWhile isSpace with
  | ']' :: rest =>
    (Decimal.read? ds).bind fun n =>
      let i : Int := if negative then -(n : Int) else n
      if Int64.minValue.toInt ≤ i ∧ i ≤ Int64.maxValue.toInt then some (i, rest) else none
  | _ => none

/-- The steps that make up a text. The first argument bounds their number. -/
def readSteps? : Nat → List Char → Option (List Step)
  | _, [] => some []
  | 0, _ => none
  | fuel + 1, '.' :: cs =>
    match readKey? cs with
    | some (name, rest) => (readSteps? fuel rest).map (.key name :: ·)
    | none => none
  | fuel + 1, '[' :: cs =>
    match readIndex? cs with
    | some (i, rest) => (readSteps? fuel rest).map (.index i :: ·)
    | none => none
  | _, _ => none

/-- The place that a path names. -/
def read? (cs : List Char) : Option Place :=
  match readKey? cs with
  | some (key, rest) => (readSteps? rest.length rest).map fun steps => { key, steps }
  | none => none

/-- The place that a text names, be it a path or not. -/
def ofText (text : String) : Place :=
  (read? text.toList).getD { key := text }

end Place

end Tree

end NodeAccess
