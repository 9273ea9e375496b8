/-!
# Base64 with padding

The standard alphabet (`A`–`Z`, `a`–`z`, `0`–`9`, `+`, `/`) in groups of four symbols, the last
group filled up with `=`. Reading is strict: the length is a multiple of four, padding stands at
the end only, and the bits that padding leaves unused are zero, so every list of octets has one
spelling.
-/

set_option autoImplicit false

namespace NodeAccess.Base64

/-- The symbol of a value below sixty-four. -/
def symbol (v : Nat) : Char :=
  if v < 26 then Char.ofNat (v + 65)
  else if v < 52 then Char.ofNat (v + 71)
  else if v < 62 then Char.ofNat (v - 4)
  else if v = 62 then '+'
  else '/'

/-- The value of a symbol. -/
def value? (c : Char) : Option Nat :=
  let n := c.toNat
  if 65 ≤ n ∧ n ≤ 90 then some (n - 65)
  else if 97 ≤ n ∧ n ≤ 122 then some (n - 71)
  else if 48 ≤ n ∧ n ≤ 57 then some (n + 4)
  else if c = '+' then some 62
  else if c = '/' then some 63
  else none

/-- The text of a list of octets. -/
def encode : List UInt8 → List Char
  | [] => []
  | [a] => [symbol (a.toNat / 4), symbol (a.toNat % 4 * 16), '=', '=']
  | [a, b] =>
    [symbol (a.toNat / 4), symbol (a.toNat % 4 * 16 + b.toNat / 16),
      symbol (b.toNat % 16 * 4), '=']
  | a :: b :: c :: rest =>
    symbol (a.toNat / 4) :: symbol (a.toNat % 4 * 16 + b.toNat / 16) ::
      symbol (b.toNat % 16 * 4 + c.toNat / 64) :: symbol (c.toNat % 64) :: encode rest

/-- The octets that a text stands for, if it is the text of any. -/
def decode? : List Char → Option (List UInt8)
  | [] => some []
  | [p, q, '=', '='] => do
    let v ← value? p
    let w ← value? q
    if w % 16 = 0 then some [UInt8.ofNat (v * 4 + w / 16)] else none
  | [p, q, r, '='] => do
    let v ← value? p
    let w ← value? q
    let x ← value? r
    if x % 4 = 0 then
      some [UInt8.ofNat (v * 4 + w / 16), UInt8.ofNat (w % 16 * 16 + x / 4)]
    else none
  | p :: q :: r :: s :: rest => do
    let v ← value? p
    let w ← value? q
    let x ← value? r
    let y ← value? s
    let more ← decode? rest
    some (UInt8.ofNat (v * 4 + w / 16) :: UInt8.ofNat (w % 16 * 16 + x / 4) ::
      UInt8.ofNat (x % 4 * 64 + y) :: more)
  | _ => none

end NodeAccess.Base64
