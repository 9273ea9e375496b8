import NodeAccess.Text.Described

/-!
# Access levels

What may be done with the value of a variable, as eight bits.
-/

set_option autoImplicit false

namespace NodeAccess

/-- A set of operations on the value of a variable. -/
structure AccessLevel where
  bits : UInt8
deriving DecidableEq, Inhabited

namespace AccessLevel

/-- No operation. -/
def empty : AccessLevel := ⟨0⟩

/-- The current value may be read. -/
def currentRead : AccessLevel := ⟨0x01⟩

/-- The current value may be written. -/
def currentWrite : AccessLevel := ⟨0x02⟩

/-- The history may be read. -/
def historyRead : AccessLevel := ⟨0x04⟩

instance : OrOp AccessLevel := ⟨fun a b => ⟨a.bits ||| b.bits⟩⟩

instance : AndOp AccessLevel := ⟨fun a b => ⟨a.bits &&& b.bits⟩⟩

instance : Complement AccessLevel := ⟨fun a => ⟨~~~a.bits⟩⟩

/-- Is no bit set? -/
def isEmpty (a : AccessLevel) : Bool :=
  a.bits = 0

/-- Is every bit of `b` set in `a`? -/
def contains (a b : AccessLevel) : Bool :=
  a.bits &&& b.bits = b.bits

/-- The bits of `a` that are not in `b`. -/
def without (a b : AccessLevel) : AccessLevel :=
  ⟨a.bits &&& ~~~b.bits⟩

/-- Has `a` no bit outside `b`? -/
def isSubsetOf (a b : AccessLevel) : Bool :=
  a.bits &&& b.bits = a.bits

/-- An access level described. -/
def describe (a : AccessLevel) : String :=
  Described.applied "AccessLevel" (toString a.bits.toNat)

end AccessLevel

end NodeAccess
