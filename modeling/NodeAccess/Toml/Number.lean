import NodeAccess.Number.Reading
import NodeAccess.Text.Hex

/-!
# Numbers in TOML

An integer is decimal, without superfluous zeros and perhaps with a sign, or hexadecimal, octal or
binary behind `0x`, `0o` or `0b`. A float has a fraction, an exponent or both, or is `inf` or
`nan`. An underscore may stand between two digits. Integers have no bound here; a float too great
to be finite is refused.
-/

set_option autoImplicit false

namespace NodeAccess.Toml

/-- The digits of a nonempty run whose underscores all stand between two digits. -/
def digitRun? (isDigit : Char → Bool) : List Char → Option (List Char)
  | [] => none
  | [c] => if isDigit c then some [c] else none
  | c :: '_' :: cs => if isDigit c then (digitRun? isDigit cs).map (c :: ·) else none
  | c :: cs => if isDigit c then (digitRun? isDigit cs).map (c :: ·) else none

/-- Is the character a digit of a base up to ten? -/
def isDigitBelow (base : Nat) (c : Char) : Bool :=
  c.isDigit && Decimal.digitValue c < base

/-- Is the character a hexadecimal digit? -/
def isHexDigit (c : Char) : Bool :=
  (Hex.value? c).isSome

/-- The decimal digits of a run that has no superfluous zero. -/
def wholeRun? (cs : List Char) : Option (List Char) :=
  match digitRun? Char.isDigit cs with
  | some ('0' :: _ :: _) => none
  | ds => ds

/-- The integer that a text writes. -/
def readInteger? : List Char → Option Int
  | '0' :: 'x' :: cs => ((digitRun? isHexDigit cs).bind Hex.read?).map fun n => (n : Int)
  | '0' :: 'o' :: cs =>
    (digitRun? (isDigitBelow 8) cs).map fun ds => (Nat.ofDigitChars 8 ds 0 : Int)
  | '0' :: 'b' :: cs =>
    (digitRun? (isDigitBelow 2) cs).map fun ds => (Nat.ofDigitChars 2 ds 0 : Int)
  | cs =>
    let (negative, body) := Binary.splitSign cs
    (wholeRun? body).map fun ds =>
      if negative then -(Nat.ofDigitChars 10 ds 0 : Int) else (Nat.ofDigitChars 10 ds 0 : Int)

/-- The longest run of digits and underscores at the front, and what follows it. -/
def spanRun (cs : List Char) : List Char × List Char :=
  (cs.takeWhile fun c => c.isDigit || c = '_', cs.dropWhile fun c => c.isDigit || c = '_')

/-- The digits of a fraction behind a point, and what follows them; none without a point. -/
def readFraction? : List Char → Option (List Char × List Char)
  | '.' :: cs =>
    let (run, rest) := spanRun cs
    (digitRun? Char.isDigit run).map fun ds => (ds, rest)
  | cs => some ([], cs)

/-- An exponent that makes up the whole text; zero for the empty text. -/
def readExponent? : List Char → Option Int
  | [] => some 0
  | c :: cs =>
    if c = 'e' || c = 'E' then
      let (negative, body) := Binary.splitSign cs
      (digitRun? Char.isDigit body).map fun ds =>
        if negative then -(Nat.ofDigitChars 10 ds 0 : Int) else (Nat.ofDigitChars 10 ds 0 : Int)
    else none

/-- The float that a text writes. -/
def readFloat? (cs : List Char) : Option Binary64 := do
  let (negative, body) := Binary.splitSign cs
  if body = "inf".toList then some (Binary.infinite negative)
  else if body = "nan".toList then some Binary.nan
  else
    let (run, rest) := spanRun body
    let whole ← wholeRun? run
    if rest.isEmpty then none
    else
      let (fraction, rest) ← readFraction? rest
      let exponent ← readExponent? rest
      let x : Binary64 :=
        Binary.ofDecimal negative (Nat.ofDigitChars 10 (whole ++ fraction) 0)
          (exponent - fraction.length)
      if x = Binary.infinite negative then none else some x

end NodeAccess.Toml
