import NodeAccess.Number.Power

/-!
# Binary floating-point numbers

Numbers of a binary interchange format (IEEE 754) as their bits: a sign, an exponent field and a
fraction. A bit pattern stands for no number, for an infinity, or for a significand times a power
of two; `ofRatio` goes the other way and rounds to nearest, ties to even. `same` is the comparison
of numbers: the two zeros are one number, and no number is equal to a pattern that stands for none.
-/

set_option autoImplicit false

namespace NodeAccess

/-- The widths of the fraction and of the exponent field. -/
structure BinaryFormat where
  fractionBits : Nat
  exponentBits : Nat

namespace BinaryFormat

/-- The format of 32 bits. -/
def single : BinaryFormat := ⟨23, 8⟩

/-- The format of 64 bits. -/
def double : BinaryFormat := ⟨52, 11⟩

/-- The number of bits of a pattern, the sign included. -/
def width (f : BinaryFormat) : Nat :=
  f.exponentBits + f.fractionBits + 1

/-- The pattern that has only the sign. -/
def signBit (f : BinaryFormat) : Nat :=
  twoPow (f.exponentBits + f.fractionBits)

/-- The pattern of the positive infinity: every bit of the exponent field. -/
def infinity (f : BinaryFormat) : Nat :=
  (twoPow f.exponentBits - 1) * twoPow f.fractionBits

/-- The power of two that the last place of the smallest numbers stands for. -/
def leastExponent (f : BinaryFormat) : Int :=
  2 - twoPow (f.exponentBits - 1) - f.fractionBits

end BinaryFormat

/-- A bit pattern of a binary format. -/
structure Binary (f : BinaryFormat) where
  bits : BitVec f.width
deriving DecidableEq

/-- A number of 32 bits. -/
abbrev Binary32 := Binary .single

/-- A number of 64 bits. -/
abbrev Binary64 := Binary .double

/-- What a bit pattern stands for, its sign apart. -/
inductive Magnitude where
  | nan
  | infinite
  /-- The number `significand * 2 ^ exponent`. -/
  | finite (significand : Nat) (exponent : Int)
deriving DecidableEq

/-- The quotient of two naturals rounded to the nearest natural, a half to the even one. -/
def roundQuotient (num den : Nat) : Nat :=
  let q := num / den
  let r := num % den
  if den < 2 * r ∨ (2 * r = den ∧ q % 2 = 1) then q + 1 else q

/-- The greatest `e` with `2 ^ e ≤ num / den`. -/
def floorLog2 (num den : Nat) : Int :=
  let e : Int := (num.log2 : Int) - (den.log2 : Int)
  if num * twoPow (-e).toNat < den * twoPow e.toNat then e - 1 else e

namespace Binary

variable {f : BinaryFormat}

/-- The pattern of a sign and the bits below it. -/
def ofParts (negative : Bool) (below : Nat) : Binary f :=
  ⟨BitVec.ofNat _ (below + if negative then f.signBit else 0)⟩

/-- Is the sign set? -/
def isNegative (x : Binary f) : Bool :=
  f.signBit ≤ x.bits.toNat

/-- The bits below the sign. -/
def below (x : Binary f) : Nat :=
  x.bits.toNat % f.signBit

/-- Does the pattern stand for no number? -/
def isNaN (x : Binary f) : Bool :=
  f.infinity < x.below

/-- Is the number one of the two zeros? -/
def isZero (x : Binary f) : Bool :=
  x.below = 0

/-- Do the patterns stand for the same number? -/
def same (x y : Binary f) : Bool :=
  !x.isNaN && !y.isNaN && (x.bits = y.bits || (x.isZero && y.isZero))

/-- What the pattern stands for, its sign apart. -/
def magnitude (x : Binary f) : Magnitude :=
  if f.infinity < x.below then .nan
  else if x.below = f.infinity then .infinite
  else
    let field := x.below / twoPow f.fractionBits
    let fraction := x.below % twoPow f.fractionBits
    if field = 0 then .finite fraction f.leastExponent
    else .finite (twoPow f.fractionBits + fraction) (f.leastExponent + field - 1)

/-- The bits of the number nearest to a ratio, ties to even; from the middle between the greatest
number and its successor on, the infinity. -/
def nearestBits (f : BinaryFormat) (num den : Nat) : Nat :=
  if num = 0 then 0
  else
    let q := max (floorLog2 num den - f.fractionBits) f.leastExponent
    let s := roundQuotient (num * twoPow (-q).toNat) (den * twoPow q.toNat)
    let bits :=
      if s < twoPow f.fractionBits then s
      else (q - f.leastExponent + 1).toNat * twoPow f.fractionBits + (s - twoPow f.fractionBits)
    min bits f.infinity

/-- The number nearest to a ratio, with a sign. -/
def ofRatio (negative : Bool) (num den : Nat) : Binary f :=
  ofParts negative (nearestBits f num den)

/-- The number nearest to a natural number. -/
def ofNat (n : Nat) : Binary f :=
  ofRatio false n 1

/-- The zero without a sign. -/
def zero : Binary f :=
  ofParts false 0

/-- An infinity. -/
def infinite (negative : Bool) : Binary f :=
  ofParts negative f.infinity

/-- The pattern for "no number" that computations give. -/
def nan : Binary f :=
  ofParts false (f.infinity + twoPow (f.fractionBits - 1))

/-- The number with the opposite sign. -/
def negate (x : Binary f) : Binary f :=
  ofParts (!x.isNegative) x.below

/-- The magnitude of a finite number as a ratio. -/
def ratio? (x : Binary f) : Option (Nat × Nat) :=
  match x.magnitude with
  | .finite s e => some (s * twoPow e.toNat, twoPow (-e).toNat)
  | _ => none

/-- The number nearest to `digits * 10 ^ exponent`. Exponents far outside the format are settled
without computing the power. -/
def ofDecimal (negative : Bool) (digits : Nat) (exponent : Int) : Binary f :=
  let places : Int := (Nat.toDigits 10 digits).length
  if digits = 0 then ofParts negative 0
  else if (twoPow (f.exponentBits - 1) : Int) < places + exponent then infinite negative
  else if places + exponent < f.leastExponent then ofParts negative 0
  else ofRatio negative (digits * tenPow exponent.toNat) (tenPow (-exponent).toNat)

/-- The number in another format. -/
def convert {g : BinaryFormat} (x : Binary f) : Binary g :=
  match x.magnitude with
  | .nan => nan
  | .infinite => infinite x.isNegative
  | .finite s e => ofRatio x.isNegative (s * twoPow e.toNat) (twoPow (-e).toNat)

/-- Equality of numbers is symmetric. -/
theorem same_comm (x y : Binary f) : x.same y = y.same x := by
  simp only [same, eq_comm (a := x.bits)]
  cases x.isNaN <;> cases y.isNaN <;> cases x.isZero <;> cases y.isZero <;> simp

/-- A pattern is the same number as itself exactly when it stands for a number. -/
theorem same_self (x : Binary f) : x.same x = !x.isNaN := by
  simp [same]

end Binary

end NodeAccess
