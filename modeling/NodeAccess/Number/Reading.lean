import NodeAccess.Number.Binary
import NodeAccess.Number.Numeral

/-!
# Reading binary numbers from text

A number is digits with at most one point, at least one digit, an optional exponent and an
optional sign; or `inf`, `infinity` or `nan` in any case. The result is correctly rounded.
-/

set_option autoImplicit false

namespace NodeAccess.Binary

variable {f : BinaryFormat}

/-- A sign at the front, and what follows it. -/
def splitSign : List Char → Bool × List Char
  | '-' :: cs => (true, cs)
  | '+' :: cs => (false, cs)
  | cs => (false, cs)

/-- The exponent behind a mantissa: nothing, or `e` and an integer. -/
def readExponent? : List Char → Option Int
  | [] => some 0
  | c :: cs => if c = 'e' || c = 'E' then Decimal.readInt? cs else none

/-- A number without a sign and without a name. -/
def readDigits? (negative : Bool) (cs : List Char) : Option (Binary f) :=
  let (whole, rest) := Decimal.spanDigits cs
  let (fraction, rest) :=
    match rest with
    | '.' :: more => Decimal.spanDigits more
    | _ => ([], rest)
  if whole.isEmpty && fraction.isEmpty then none
  else
    (readExponent? rest).map fun e =>
      ofDecimal negative (Nat.ofDigitChars 10 (whole ++ fraction) 0) (e - fraction.length)

/-- The number that a text writes. -/
def read? (cs : List Char) : Option (Binary f) :=
  let (negative, body) := splitSign cs
  let name := body.map Char.toLower
  if name = "inf".toList ∨ name = "infinity".toList then some (infinite negative)
  else if name = "nan".toList then some nan
  else readDigits? negative body

end NodeAccess.Binary
