import NodeAccess.Number.Binary
import NodeAccess.Number.Numeral

/-!
# Shortest decimals

The decimal with the fewest digits among those that round to a given binary number, and of these
the nearest. The search goes from coarse decimal grids to fine ones; on each grid only the two
neighbours of the number are candidates. A style then says where the point stands and from which
magnitudes on an exponent is written.
-/

set_option autoImplicit false

namespace NodeAccess

/-- The number `digits * 10 ^ exponent`. -/
structure ShortDecimal where
  digits : Nat
  exponent : Int

namespace Shortest

/-- The numbers that round to `significand * 2 ^ exponent`, in quarters of its last place: those
from `4 * significand - lower` to `4 * significand + 2`, the ends included iff `closed`. -/
structure Interval where
  significand : Nat
  exponent : Int
  lower : Nat
  closed : Bool

/-- Does the interval hold `digits * 10 ^ k`, given `num` and `den` with
`2 ^ (exponent - 2) = 10 ^ k * num / den`? -/
def Interval.holds (i : Interval) (num den digits : Nat) : Bool :=
  let x := digits * den
  let low := (4 * i.significand - i.lower) * num
  let high := (4 * i.significand + 2) * num
  if i.closed then low ≤ x && x ≤ high else low < x && x < high

/-- The nearer of two candidates, `down` and the next one, for the number `x / den`. In the middle
it is the upper one or the even one. -/
def nearer (tiesUp : Bool) (x den down : Nat) : Nat :=
  let below := x - down * den
  let above := (down + 1) * den - x
  if below < above then down
  else if above < below || tiesUp then down + 1
  else if down % 2 = 0 then down
  else down + 1

/-- The candidate on the grid of multiples of `10 ^ k`, if the interval holds one. -/
def Interval.onGrid (i : Interval) (tiesUp : Bool) (k : Int) : Option Nat :=
  let q := i.exponent - 2
  let num := twoPow q.toNat * tenPow (-k).toNat
  let den := twoPow (-q).toNat * tenPow k.toNat
  let x := 4 * i.significand * num
  let down := x / den
  match i.holds num den down && down != 0, i.holds num den (down + 1) with
  | true, true => some (nearer tiesUp x den down)
  | true, false => some down
  | false, true => some (down + 1)
  | false, false => none

/-- The first hit on the grids from `10 ^ k` on, each ten times finer than the one before. -/
def Interval.search (i : Interval) (tiesUp : Bool) : Nat → Int → ShortDecimal
  | 0, k =>
    let q := i.exponent
    ⟨i.significand * (twoPow q.toNat * tenPow (-k).toNat) /
      (twoPow (-q).toNat * tenPow k.toNat), k⟩
  | steps + 1, k =>
    match i.onGrid tiesUp k with
    | some digits => ⟨digits, k⟩
    | none => i.search tiesUp steps (k - 1)

/-- The number of decimal places before the point of `significand * 2 ^ exponent`; zero or less
when the number is below one. -/
def places (significand : Nat) (exponent : Int) : Int :=
  let shift : Nat := 400
  let scaled := significand * twoPow exponent.toNat * tenPow shift / twoPow (-exponent).toNat
  ((Nat.toDigits 10 scaled).length : Int) - shift

/-- The shortest decimal of a positive number of the format. -/
def ofFinite (f : BinaryFormat) (tiesUp : Bool) (significand : Nat) (exponent : Int) :
    ShortDecimal :=
  let narrow := significand = twoPow f.fractionBits ∧ f.leastExponent < exponent
  let i : Interval :=
    { significand, exponent
      lower := if narrow then 1 else 2
      closed := significand % 2 = 0 }
  i.search tiesUp 20 (places significand exponent)

end Shortest

/-- How binary numbers are written. -/
structure FloatStyle where
  /-- Numbers `0.d… * 10 ^ p` are written without an exponent for `p` in this range, or always
  if there is none. -/
  plain : Option (Int × Int)
  /-- Is a whole number written with `.0`? -/
  keepsPoint : Bool
  /-- Does a number in the middle between two shortest decimals take the upper one? Otherwise it
  takes the even one. -/
  tiesUp : Bool

namespace FloatStyle

/-- The style of descriptions: an exponent from `1e16` on and below `0.0001`. -/
def described : FloatStyle := ⟨some (-3, 16), true, true⟩

/-- The style of data exchange for 64 bits: an exponent from `1e16` on and below `0.00001`. -/
def exchanged64 : FloatStyle := ⟨some (-4, 16), true, false⟩

/-- The style of data exchange for 32 bits: an exponent from `1e13` on and below `0.000001`. -/
def exchanged32 : FloatStyle := ⟨some (-5, 13), true, false⟩

/-- The style of plain text: never an exponent, and a whole number without a point. -/
def text : FloatStyle := ⟨none, false, true⟩

/-- Is a number `0.d… * 10 ^ p` written without an exponent? -/
def isPlain (style : FloatStyle) (p : Int) : Bool :=
  match style.plain with
  | none => true
  | some (low, high) => low ≤ p && p ≤ high

/-- The fraction of a whole number. -/
def wholeFraction (style : FloatStyle) : List (Fin 10) :=
  if style.keepsPoint then [0] else []

/-- The numeral of a decimal. -/
def numeral (style : FloatStyle) (negative : Bool) (d : ShortDecimal) : Numeral :=
  let ds := Numeral.digitsOf d.digits
  let p : Int := ds.length + d.exponent
  if style.isPlain p then
    if p ≤ 0 then ⟨negative, 0, List.replicate (-p).toNat 0 ++ ds, none⟩
    else if 0 ≤ d.exponent then
      ⟨negative, d.digits * tenPow d.exponent.toNat, style.wholeFraction, none⟩
    else ⟨negative, Numeral.valueOf (ds.take p.toNat), ds.drop p.toNat, none⟩
  else
    match ds with
    | [] => ⟨negative, 0, style.wholeFraction, none⟩
    | first :: rest => ⟨negative, first.val, rest, some (p - 1)⟩

end FloatStyle

namespace Binary

variable {f : BinaryFormat}

/-- The numeral of a finite number in a style. -/
def numeral? (style : FloatStyle) (x : Binary f) : Option Numeral :=
  match x.magnitude with
  | .finite 0 _ => some ⟨x.isNegative, 0, style.wholeFraction, none⟩
  | .finite (s + 1) e =>
    some (style.numeral x.isNegative (Shortest.ofFinite f style.tiesUp (s + 1) e))
  | _ => none

/-- The text of a number in a style. -/
def render (style : FloatStyle) (x : Binary f) : String :=
  match x.numeral? style with
  | some n => String.ofList n.render
  | none => if x.isNaN then "NaN" else if x.isNegative then "-inf" else "inf"

end Binary

end NodeAccess
