import NodeAccess.Json.Basic
import NodeAccess.Text.Hex

/-!
# Reading JSON

One value with blanks around it is read; anything else after it is refused. The reader sets no
limit to nesting or to the size of numbers: that is left to those who look at the value.
-/

set_option autoImplicit false

namespace NodeAccess.Json

/-- A blank between the parts of a text. -/
def isSeparator (c : Char) : Bool :=
  c = ' ' || c = '\n' || c = '\t' || c = '\r'

/-- The text without the blanks at its front. -/
def skipBlanks (cs : List Char) : List Char :=
  cs.dropWhile isSeparator

/-- A part of a string. -/
inductive StringPart where
  | char (c : Char)
  /-- A control character that stands unescaped. -/
  | control (c : Char)
  /-- One half of a surrogate pair. -/
  | surrogate (unit : Nat)

/-- The character of an escape of one letter. -/
def escape? (c : Char) : Option Char :=
  if c = '"' then some '"'
  else if c = '\\' then some '\\'
  else if c = '/' then some '/'
  else if c = 'b' then some '\x08'
  else if c = 'f' then some '\x0c'
  else if c = 'n' then some '\n'
  else if c = 'r' then some '\r'
  else if c = 't' then some '\t'
  else none

/-- The part that an escape of four hexadecimal digits writes. -/
def unitPart (unit : Nat) : StringPart :=
  if 0xD800 ≤ unit ∧ unit < 0xE000 then .surrogate unit else .char (Char.ofNat unit)

/-- The parts of a string behind its opening quote, and what follows its closing quote. -/
def stringParts : List Char → Option (List StringPart × List Char)
  | [] => none
  | '"' :: rest => some ([], rest)
  | '\\' :: 'u' :: a :: b :: c :: d :: rest =>
    match Hex.digits? [a, b, c, d], stringParts rest with
    | some ds, some (parts, rest) => some (unitPart (Hex.toNat ds) :: parts, rest)
    | _, _ => none
  | '\\' :: e :: rest =>
    match escape? e, stringParts rest with
    | some c, some (parts, rest) => some (.char c :: parts, rest)
    | _, _ => none
  | c :: rest =>
    match stringParts rest with
    | some (parts, rest) => some ((if c.toNat < 0x20 then .control c else .char c) :: parts, rest)
    | none => none

/-- The parts of a string with surrogate pairs joined. -/
def joinPairs : List StringPart → List StringPart
  | .surrogate high :: .surrogate low :: parts =>
    if high < 0xDC00 ∧ 0xDC00 ≤ low then
      .char (Char.ofNat (0x10000 + (high - 0xD800) * 0x400 + (low - 0xDC00))) :: joinPairs parts
    else .surrogate high :: joinPairs (.surrogate low :: parts)
  | part :: parts => part :: joinPairs parts
  | [] => []

/-- The characters of parts that are all characters. -/
def partsText? : List StringPart → Option (List Char)
  | [] => some []
  | .char c :: parts => (partsText? parts).map (c :: ·)
  | _ => none

/-- The octets of a part. -/
def StringPart.octets : StringPart → List UInt8
  | .char c => String.utf8EncodeChar c
  | .control c => String.utf8EncodeChar c
  | .surrogate u =>
    [UInt8.ofNat (0xE0 + u / 4096), UInt8.ofNat (0x80 + u / 64 % 64), UInt8.ofNat (0x80 + u % 64)]

/-- Is the part no unescaped control character? -/
def StringPart.isEscaped : StringPart → Bool
  | .control _ => false
  | _ => true

/-- The value of a string with the given parts. -/
def ofParts (parts : List StringPart) : Json :=
  match partsText? (joinPairs parts) with
  | some cs => .string (String.ofList cs)
  | none => .octets ((joinPairs parts).flatMap StringPart.octets) (parts.all StringPart.isEscaped)

/-- A member's name behind its opening quote, and what follows its closing quote. -/
def readName? (cs : List Char) : Option (String × List Char) :=
  match stringParts cs with
  | some (parts, rest) =>
    (partsText? (joinPairs parts)).map fun name => (String.ofList name, rest)
  | none => none

/-- A whole part without superfluous zeros, and what follows it. -/
def readWhole? (cs : List Char) : Option (Nat × List Char) :=
  let (ds, rest) := Decimal.spanDigits cs
  match ds with
  | [] => none
  | '0' :: _ :: _ => none
  | _ => some (Nat.ofDigitChars 10 ds 0, rest)

/-- A point and at least one digit, or no point, and what follows. -/
def readFraction? : List Char → Option (List (Fin 10) × List Char)
  | '.' :: cs =>
    let (ds, rest) := Decimal.spanDigits cs
    if ds.isEmpty then none else some (ds.filterMap Numeral.digit?, rest)
  | cs => some ([], cs)

/-- An exponent behind its letter, and what follows it. -/
def readPower? (cs : List Char) : Option (Int × List Char) :=
  let (negative, body) :=
    match cs with
    | '-' :: rest => (true, rest)
    | '+' :: rest => (false, rest)
    | _ => (false, cs)
  let (ds, rest) := Decimal.spanDigits body
  if ds.isEmpty then none
  else
    let n := Nat.ofDigitChars 10 ds 0
    some (if negative then -(n : Int) else (n : Int), rest)

/-- An exponent or none, and what follows. -/
def readExponent? (cs : List Char) : Option (Option Int × List Char) :=
  match cs with
  | c :: rest =>
    if c = 'e' ∨ c = 'E' then (readPower? rest).map fun (e, rest) => (some e, rest)
    else some (none, cs)
  | [] => some (none, [])

/-- A numeral at the front, and what follows it. -/
def readNumeral? (cs : List Char) : Option (Numeral × List Char) := do
  let (negative, cs) :=
    match cs with
    | '-' :: rest => (true, rest)
    | _ => (false, cs)
  let (whole, cs) ← readWhole? cs
  let (fraction, cs) ← readFraction? cs
  let (exponent, cs) ← readExponent? cs
  some (⟨negative, whole, fraction, exponent⟩, cs)

mutual

/-- A value at the front, and what follows it. The first argument bounds the number of steps. -/
def readValue : Nat → List Char → Option (Json × List Char)
  | 0, _ => none
  | fuel + 1, cs =>
    match skipBlanks cs with
    | 'n' :: 'u' :: 'l' :: 'l' :: rest => some (.null, rest)
    | 't' :: 'r' :: 'u' :: 'e' :: rest => some (.boolean true, rest)
    | 'f' :: 'a' :: 'l' :: 's' :: 'e' :: rest => some (.boolean false, rest)
    | '"' :: rest => (stringParts rest).map fun (parts, rest) => (ofParts parts, rest)
    | '[' :: rest =>
      match skipBlanks rest with
      | ']' :: rest => some (.array [], rest)
      | rest => (readItems fuel rest).map fun (items, rest) => (.array items, rest)
    | '{' :: rest =>
      match skipBlanks rest with
      | '}' :: rest => some (.object [], rest)
      | rest => (readMembers fuel rest).map fun (members, rest) => (.object members, rest)
    | rest => (readNumeral? rest).map fun (n, rest) => (.number n, rest)

/-- The items of an array up to its closing bracket, at least one, and what follows. -/
def readItems : Nat → List Char → Option (List Json × List Char)
  | 0, _ => none
  | fuel + 1, cs =>
    match readValue fuel cs with
    | none => none
    | some (item, rest) =>
      match skipBlanks rest with
      | ',' :: rest => (readItems fuel rest).map fun (items, rest) => (item :: items, rest)
      | ']' :: rest => some ([item], rest)
      | _ => none

/-- The members of an object up to its closing brace, at least one, and what follows. -/
def readMembers : Nat → List Char → Option (List (String × Json) × List Char)
  | 0, _ => none
  | fuel + 1, cs =>
    match readMember fuel cs with
    | none => none
    | some (member, rest) =>
      match skipBlanks rest with
      | ',' :: rest => (readMembers fuel rest).map fun (members, rest) => (member :: members, rest)
      | '}' :: rest => some ([member], rest)
      | _ => none

/-- A member of an object, and what follows it. -/
def readMember : Nat → List Char → Option ((String × Json) × List Char)
  | 0, _ => none
  | fuel + 1, cs =>
    match skipBlanks cs with
    | '"' :: rest =>
      match readName? rest with
      | none => none
      | some (name, rest) =>
        match skipBlanks rest with
        | ':' :: rest => (readValue fuel rest).map fun (value, rest) => ((name, value), rest)
        | _ => none
    | _ => none

end

/-- The value that a list of characters writes. -/
def readChars? (cs : List Char) : Option Json :=
  match readValue (3 * cs.length + 1) cs with
  | some (j, rest) => if (skipBlanks rest).isEmpty then some j else none
  | none => none

/-- The value that a text writes. -/
def read? (s : String) : Option Json :=
  readChars? s.toList

end NodeAccess.Json
