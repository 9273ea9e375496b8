/-!
# Powers of two and of ten

The powers that number formats are made of.
-/

set_option autoImplicit false

namespace NodeAccess

/-- A power of two. -/
abbrev twoPow (n : Nat) : Nat :=
  Nat.pow 2 n

/-- A power of ten. -/
abbrev tenPow (n : Nat) : Nat :=
  Nat.pow 10 n

end NodeAccess
