import NodeAccess.Text.Decimal

/-!
# Written decimal numbers

A numeral is a decimal number as it is written: a sign, the whole part, the digits behind the
point, and an exponent of ten. Without point and exponent it is an integer literal.
-/

set_option autoImplicit false

namespace NodeAccess

/-- A decimal number as it is written. -/
structure Numeral where
  negative : Bool
  whole : Nat
  /-- The digits behind the point; no point is written when there are none. -/
  fraction : List (Fin 10)
  exponent : Option Int
deriving DecidableEq

namespace Numeral

/-- The integer literal of an integer. -/
def ofInt : Int → Numeral
  | .ofNat n => ⟨false, n, [], none⟩
  | .negSucc n => ⟨true, n + 1, [], none⟩

/-- The integer literal of a natural number. -/
def ofNat (n : Nat) : Numeral :=
  ⟨false, n, [], none⟩

/-- The integer that an integer literal writes. A minus sign before zero makes no integer. -/
def toInt? (x : Numeral) : Option Int :=
  match x with
  | ⟨false, n, [], none⟩ => some n
  | ⟨true, n + 1, [], none⟩ => some (-(n + 1 : Nat))
  | _ => none

/-- The text of a digit. -/
def digit (d : Fin 10) : Char :=
  Nat.digitChar d.val

/-- The digit that a character is, if it is one. -/
def digit? (c : Char) : Option (Fin 10) :=
  if h : 48 ≤ c.toNat ∧ c.toNat ≤ 57 then some ⟨c.toNat - 48, by omega⟩ else none

/-- The digits of a natural number. -/
def digitsOf (n : Nat) : List (Fin 10) :=
  (Decimal.render n).filterMap digit?

/-- The number that a list of digits writes. -/
def valueOf (ds : List (Fin 10)) : Nat :=
  ds.foldl (fun n d => 10 * n + d.val) 0

/-- The text of a numeral. -/
def render (x : Numeral) : List Char :=
  (if x.negative then ['-'] else []) ++ Decimal.render x.whole ++
    (if x.fraction.isEmpty then [] else '.' :: x.fraction.map digit) ++
    (match x.exponent with
      | none => []
      | some e => 'e' :: Decimal.renderInt e)

/-- An integer literal reads back as its integer. -/
theorem toInt?_ofInt (i : Int) : (ofInt i).toInt? = some i := by
  cases i with
  | ofNat n => rfl
  | negSucc n => rfl

end Numeral

end NodeAccess
