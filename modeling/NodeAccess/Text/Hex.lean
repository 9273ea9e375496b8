/-!
# Hexadecimal digits

Digits are written in lower case and read in either case.
-/

set_option autoImplicit false

namespace NodeAccess.Hex

/-- The lower-case hexadecimal digit of a value below sixteen. -/
def digit (v : Fin 16) : Char :=
  Nat.digitChar v.val

/-- The value of a hexadecimal digit of either case. -/
def value? (c : Char) : Option (Fin 16) :=
  let n := c.toNat
  if h : 48 ≤ n ∧ n ≤ 57 then some ⟨n - 48, by omega⟩
  else if h : 97 ≤ n ∧ n ≤ 102 then some ⟨n - 87, by omega⟩
  else if h : 65 ≤ n ∧ n ≤ 70 then some ⟨n - 55, by omega⟩
  else none

/-- The last `width` hexadecimal digits of a number. -/
def renderFixed : Nat → Nat → List Char
  | 0, _ => []
  | width + 1, n => renderFixed width (n / 16) ++ [Nat.digitChar (n % 16)]

/-- The hexadecimal digits of a number, without leading zeros. -/
def render (n : Nat) : List Char :=
  Nat.toDigits 16 n

/-- The values of a text made of hexadecimal digits only. -/
def digits? : List Char → Option (List (Fin 16))
  | [] => some []
  | c :: cs =>
    match value? c, digits? cs with
    | some v, some vs => some (v :: vs)
    | _, _ => none

/-- The number that a list of hexadecimal digit values stands for, most significant first. -/
def toNat (vs : List (Fin 16)) : Nat :=
  vs.foldl (fun n v => 16 * n + v.val) 0

/-- The number written by a nonempty run of hexadecimal digits. -/
def read? (cs : List Char) : Option Nat :=
  if cs.isEmpty then none else (digits? cs).map toNat

/-- A digit reads back as its value. -/
theorem value?_digit (v : Fin 16) : value? (digit v) = some v := by
  revert v
  decide

end NodeAccess.Hex
