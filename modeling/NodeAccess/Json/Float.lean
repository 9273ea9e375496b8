import NodeAccess.Json.Decoder
import NodeAccess.Number.Shortest

/-!
# Floating-point numbers in JSON

A numeral is read as a floating-point number in two steps: its digits, as far as sixty-four bits
hold them, make a number, which is then multiplied or divided by a power of ten. Each step rounds,
so long numerals need not give the nearest number. What exceeds the greatest number is refused.
Numbers are written with the fewest digits that read back, those that are no number as null.
-/

set_option autoImplicit false

namespace NodeAccess

namespace Numeral

/-- The digits that a number of sixty-four bits takes up, and the remaining ones. -/
def absorb : Nat → List (Fin 10) → Nat × List (Fin 10)
  | n, [] => (n, [])
  | n, d :: ds => if 10 * n + d.val < UInt64.size then absorb (10 * n + d.val) ds else (n, d :: ds)

/-- The digits of a numeral, as far as they are taken up, and the power of ten they stand for. -/
def significand (x : Numeral) : Nat × Int :=
  let (n, left) := absorb 0 (digitsOf x.whole)
  let (m, unread) := absorb n x.fraction
  let taken := x.fraction.length - unread.length
  (m, (left.length : Int) - taken + x.exponent.getD 0)

/-- The product with a power of ten up to `10 ^ 308`, unless it exceeds the greatest number. -/
def scaleUp? (x : Binary64) (e : Nat) : Option Binary64 :=
  if x.isZero then some x
  else if 308 < e then none
  else
    match x.ratio?, (Binary.ofNat (tenPow e) : Binary64).ratio? with
    | some (a, b), some (c, d) =>
      let y : Binary64 := Binary.ofRatio false (a * c) (b * d)
      if y.magnitude = .infinite then none else some y
    | _, _ => none

/-- The quotient by a power of ten up to `10 ^ 308`. -/
def divide (x : Binary64) (e : Nat) : Binary64 :=
  match x.ratio?, (Binary.ofNat (tenPow e) : Binary64).ratio? with
  | some (a, b), some (c, d) => Binary.ofRatio false (a * d) (b * c)
  | _, _ => x

/-- The quotient by any power of ten, in steps of `10 ^ 308`. -/
def scaleDown (x : Binary64) (e : Nat) : Binary64 :=
  if x.isZero then x
  else if e ≤ 308 then divide x e
  else scaleDown (divide x 308) (e - 308)
termination_by e

/-- The number of sixty-four bits that a numeral is read as. -/
def toDouble? (x : Numeral) : Option Binary64 :=
  let (n, e) := x.significand
  let unsigned : Option Binary64 :=
    if 0 ≤ e then scaleUp? (Binary.ofNat n) e.toNat
    else some (scaleDown (Binary.ofNat n) (-e).toNat)
  unsigned.map fun y => if x.negative then y.negate else y

/-- The number of thirty-two bits that a numeral is read as: integers of sixty-four bits are
rounded once, other numerals by way of sixty-four bits. -/
def toSingle? (x : Numeral) : Option Binary32 :=
  match x.toInt? with
  | some i =>
    if Int64.minValue.toInt ≤ i ∧ i < UInt64.size then some (Binary.ofRatio (i < 0) i.natAbs 1)
    else x.toDouble?.map Binary.convert
  | none => x.toDouble?.map Binary.convert

end Numeral

namespace Decoder

/-- A number of sixty-four bits. -/
def double : Decoder Binary64
  | _, .number n => n.toDouble?
  | _, _ => none

/-- A number of thirty-two bits. -/
def single : Decoder Binary32
  | _, .number n => n.toSingle?
  | _, _ => none

end Decoder

namespace Json

/-- A number of sixty-four bits. -/
def ofDouble (x : Binary64) : Json :=
  match x.numeral? .exchanged64 with
  | some n => .number n
  | none => .null

/-- A number of thirty-two bits. -/
def ofSingle (x : Binary32) : Json :=
  match x.numeral? .exchanged32 with
  | some n => .number n
  | none => .null

end Json

end NodeAccess
