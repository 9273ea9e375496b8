import NodeAccess.Number.Reading
import NodeAccess.Settings.Tree
import NodeAccess.Text.LowerCase

/-!
# Settings in environment variables

A variable gives a setting when its name begins, in any case, with a given word and an underscore.
The rest of the name in lower case is the name of the setting, with two underscores for a dot. Its
value is taken for a truth value, an integer of 64 bits or a float where it reads as one, and for a
text otherwise.
-/

set_option autoImplicit false

namespace NodeAccess

/-- The tree that the value of an environment variable gives. -/
def Tree.ofVariable (value : String) : Tree :=
  let cs := value.toList
  if Text.lower cs = "true".toList then .boolean true
  else if Text.lower cs = "false".toList then .boolean false
  else
    match (Decimal.readInt? cs).filter fun i =>
        Int64.minValue.toInt ≤ i && i ≤ Int64.maxValue.toInt with
    | some i => .integer i
    | none =>
      match Binary.read? cs with
      | some x => .float x
      | none => .string value

namespace Environment

/-- The text with a dot for every two underscores. -/
def dotted : List Char → List Char
  | '_' :: '_' :: cs => '.' :: dotted cs
  | c :: cs => c :: dotted cs
  | [] => []

/-- What follows the given text at the front of another one. -/
def after? : List Char → List Char → Option (List Char)
  | [], cs => some cs
  | _ :: _, [] => none
  | d :: ds, c :: cs => if d = c then after? ds cs else none

/-- The name of the setting that a variable gives, if it gives one. -/
def settingName? (word name : String) : Option String :=
  (after? (Text.lower (word.toList ++ ['_'])) (Text.lower name.toList)).map
    fun cs => String.ofList (dotted cs)

/-- Does a variable of this name give a setting? -/
def givesSetting (word name : String) : Bool :=
  (settingName? word name).isSome

theorem givesSetting_eq_false_iff {word name : String} :
    givesSetting word name = false ↔ settingName? word name = none := by
  simp [givesSetting]

/-- The settings that variables give. -/
def settings (word : String) (environment : List (String × String)) : List (String × Tree) :=
  environment.filterMap fun (name, value) =>
    (settingName? word name).map fun setting => (setting, Tree.ofVariable value)

end Environment

end NodeAccess
