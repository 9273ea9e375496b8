import NodeAccess.Text.Described

/-!
# Status codes

The result of an operation, or the quality of a value, in thirty-two bits. The two highest bits
give the severity: good, uncertain or bad.
-/

set_option autoImplicit false

namespace NodeAccess

/-- The result of an operation or the quality of a value. -/
structure StatusCode where
  bits : UInt32
deriving DecidableEq, Inhabited

namespace StatusCode

/-- The operation succeeded. -/
def good : StatusCode := ⟨0⟩

/-- The caller's roles do not permit the operation. -/
def badUserAccessDenied : StatusCode := ⟨0x801F0000⟩

/-- The request names another node. -/
def badNodeIdUnknown : StatusCode := ⟨0x80340000⟩

/-- The node does not support the attribute. -/
def badAttributeIdInvalid : StatusCode := ⟨0x80350000⟩

/-- Nobody may read the value. -/
def badNotReadable : StatusCode := ⟨0x803A0000⟩

/-- Nobody may write the attribute. -/
def badNotWritable : StatusCode := ⟨0x803B0000⟩

/-- The written value does not suit the kind of write. -/
def badWriteNotSupported : StatusCode := ⟨0x80730000⟩

/-- The written value has the wrong type. -/
def badTypeMismatch : StatusCode := ⟨0x80740000⟩

/-- The two highest bits. -/
def severity (s : StatusCode) : UInt32 :=
  s.bits &&& 0xC0000000

/-- Is the severity "good"? -/
def isGood (s : StatusCode) : Bool :=
  s.severity = 0

/-- Is the severity "uncertain"? -/
def isUncertain (s : StatusCode) : Bool :=
  s.severity = 0x40000000

/-- Is the severity "bad"? -/
def isBad (s : StatusCode) : Bool :=
  s.severity = 0x80000000

/-- The codes that have a name. -/
def named : List (StatusCode × String) :=
  [(good, "Good"),
    (badUserAccessDenied, "BadUserAccessDenied"),
    (badNodeIdUnknown, "BadNodeIdUnknown"),
    (badAttributeIdInvalid, "BadAttributeIdInvalid"),
    (badNotReadable, "BadNotReadable"),
    (badNotWritable, "BadNotWritable"),
    (badWriteNotSupported, "BadWriteNotSupported"),
    (badTypeMismatch, "BadTypeMismatch")]

/-- The name of a code, if it has one. -/
def name? (s : StatusCode) : Option String :=
  named.lookup s

/-- The code in hexadecimal. -/
def hexText (s : StatusCode) : String :=
  "0x" ++ String.ofList (Hex.renderFixed 8 s.bits.toNat)

/-- The text of a code: its name, if it has one, and its bits. -/
def toText (s : StatusCode) : String :=
  match s.name? with
  | some name => name ++ " (" ++ s.hexText ++ ")"
  | none => s.hexText

/-- A status code described. -/
def describe (s : StatusCode) : String :=
  Described.applied "StatusCode" (toString s.bits.toNat)

end StatusCode

end NodeAccess
