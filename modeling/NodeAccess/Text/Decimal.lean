/-!
# Decimal numbers in text

A natural number is written with the digits `0` to `9` and no leading zero, and read from any
nonempty run of such digits, leading zeros included. Readers for bounded numbers also take one
plus sign, and the reader for integers a plus or a minus sign. No reader skips blanks.
-/

set_option autoImplicit false

namespace NodeAccess.Decimal

/-- The decimal digits of a natural number, without leading zeros. -/
def render (n : Nat) : List Char :=
  Nat.toDigits 10 n

/-- The decimal digits of an integer, behind a minus sign when it is negative. -/
def renderInt : Int → List Char
  | .ofNat n => render n
  | .negSucc n => '-' :: render (n + 1)

/-- The digits of a number, filled up with zeros on the left to the given width. -/
def renderPadded (width n : Nat) : List Char :=
  List.replicate (width - (render n).length) '0' ++ render n

/-- The number that a nonempty run of digits writes. -/
def read? (cs : List Char) : Option Nat :=
  if cs.isEmpty then none
  else if cs.all Char.isDigit then some (Nat.ofDigitChars 10 cs 0)
  else none

/-- The number written by digits behind an optional plus sign. -/
def readUnsigned? : List Char → Option Nat
  | '+' :: cs => read? cs
  | cs => read? cs

/-- The number written by digits behind an optional plus sign, if it is at most `limit`. -/
def readUpTo? (limit : Nat) (cs : List Char) : Option Nat :=
  match readUnsigned? cs with
  | some n => if n ≤ limit then some n else none
  | none => none

/-- The integer written by digits behind an optional sign. -/
def readInt? : List Char → Option Int
  | '-' :: cs => (read? cs).map fun n => -(n : Int)
  | cs => (readUnsigned? cs).map fun n => (n : Int)

/-- The longest run of digits at the front, and what follows it. -/
def spanDigits (cs : List Char) : List Char × List Char :=
  (cs.takeWhile Char.isDigit, cs.dropWhile Char.isDigit)

/-- The value of a digit; zero for any other character. -/
def digitValue (c : Char) : Nat :=
  if c.isDigit then c.toNat - '0'.toNat else 0

theorem render_ne_nil (n : Nat) : render n ≠ [] :=
  Nat.toDigits_ne_nil

theorem all_isDigit_render (n : Nat) : (render n).all Char.isDigit = true := by
  rw [List.all_eq_true]
  intro c hc
  exact Nat.isDigit_of_mem_toDigits (by decide) (by decide) hc

/-- Writing a number and reading it again changes nothing. -/
theorem read?_render (n : Nat) : read? (render n) = some n := by
  have h : (render n).isEmpty = false := by
    simpa using render_ne_nil n
  simp only [read?, h, all_isDigit_render n]
  simp [render]

end NodeAccess.Decimal
