import NodeAccess.Number.Power
import NodeAccess.Text.Blank
import NodeAccess.Text.Decimal
import NodeAccess.Timestamp.Basic

/-!
# The text of points in time

A point in time is written as a clock shows it, as in `2024-01-02T03:04:05Z`, with three, six or
nine digits of a fraction of a second when they are needed; years outside 0000 to 9999 carry a sign.
The reader is more liberal: fields may have fewer digits and blanks before them, a blank may stand
for the `T`, a fraction may have any number of digits, of which nine count, and any offset below a
day may stand for the `Z`.
-/

set_option autoImplicit false

namespace NodeAccess

namespace Date

/-- The text of a year. -/
def renderYear (year : Int) : List Char :=
  if 0 ≤ year ∧ year ≤ 9999 then Decimal.renderPadded 4 year.toNat
  else (if year < 0 then '-' else '+') :: Decimal.renderPadded 4 year.natAbs

/-- The text of a day. -/
def render (d : Date) : List Char :=
  renderYear d.year ++ '-' :: Decimal.renderPadded 2 d.month ++
    '-' :: Decimal.renderPadded 2 d.day

end Date

namespace ClockTime

/-- The text of a fraction of a second: the fewest of zero, three, six or nine digits. -/
def renderFraction (nanosecond : Nat) : List Char :=
  if nanosecond = 0 then []
  else if nanosecond % 1000000 = 0 then '.' :: Decimal.renderPadded 3 (nanosecond / 1000000)
  else if nanosecond % 1000 = 0 then '.' :: Decimal.renderPadded 6 (nanosecond / 1000)
  else '.' :: Decimal.renderPadded 9 nanosecond

/-- The text of a clock time. -/
def render (t : ClockTime) : List Char :=
  Decimal.renderPadded 2 t.hour ++ ':' :: Decimal.renderPadded 2 t.minute ++
    ':' :: Decimal.renderPadded 2 t.second ++ renderFraction t.nanosecond

end ClockTime

namespace Timestamp

/-- The text of a point in time. -/
def render (t : Timestamp) : List Char :=
  t.date.render ++ 'T' :: t.time.clock.render ++ ['Z']

/-- The text of a point in time as a string. -/
def toText (t : Timestamp) : String :=
  String.ofList t.render

/-- A number of one to `width` digits at the front, and what follows it. -/
def readNumber? (width : Nat) (cs : List Char) : Option (Nat × List Char) :=
  let ds := (cs.take width).takeWhile Char.isDigit
  if ds.isEmpty then none else some (Nat.ofDigitChars 10 ds 0, cs.drop ds.length)

/-- A field of at most two digits behind any blanks. -/
def readField? (cs : List Char) : Option (Nat × List Char) :=
  readNumber? 2 (Text.trimFront cs)

/-- A year behind any blanks: a sign and any number of digits, or at most four digits. -/
def readYear? (cs : List Char) : Option (Int × List Char) :=
  match Text.trimFront cs with
  | '-' :: rest => (readNumber? rest.length rest).map fun (n, rest) => (-(n : Int), rest)
  | '+' :: rest => (readNumber? rest.length rest).map fun (n, rest) => ((n : Int), rest)
  | rest => (readNumber? 4 rest).map fun (n, rest) => ((n : Int), rest)

/-- The rest of a text behind any blanks and the given character. -/
def skip? (c : Char) (cs : List Char) : Option (List Char) :=
  match Text.trimFront cs with
  | d :: rest => if c = d then some rest else none
  | [] => none

/-- A date at the front, and what follows it. -/
def readDate? (cs : List Char) : Option (Date × List Char) := do
  let (year, cs) ← readYear? cs
  let cs ← skip? '-' cs
  let (month, cs) ← readField? cs
  let cs ← skip? '-' cs
  let (day, cs) ← readField? cs
  let date ← Date.ofFields? year month day
  some (date, cs)

/-- A fraction of a second at the front, in nanoseconds, and what follows it. -/
def readFraction? : List Char → Option (Nat × List Char)
  | '.' :: cs =>
    (readNumber? 9 cs).map fun (n, rest) =>
      (n * tenPow (9 - (cs.length - rest.length)), rest.dropWhile Char.isDigit)
  | cs => some (0, cs)

/-- A clock time at the front, and what follows it. -/
def readTime? (cs : List Char) : Option (ClockTime × List Char) := do
  let (hour, cs) ← readField? cs
  let cs ← skip? ':' cs
  let (minute, cs) ← readField? cs
  let cs ← skip? ':' cs
  let (second, cs) ← readField? cs
  let (nanosecond, cs) ← readFraction? cs
  let time ← ClockTime.ofFields? hour minute second nanosecond
  some (time, cs)

/-- Two digits at the front that write a number below `bound`, and what follows them. -/
def readTwoDigits? (bound : Nat) : List Char → Option (Nat × List Char)
  | a :: b :: rest =>
    if a.isDigit && b.isDigit then
      let n := Decimal.digitValue a * 10 + Decimal.digitValue b
      if n < bound then some (n, rest) else none
    else none
  | _ => none

/-- Hours and minutes, with colons and blanks allowed between them, as minutes. -/
def readClock? (cs : List Char) : Option (Int × List Char) := do
  let (hours, cs) ← readTwoDigits? 100 cs
  let (minutes, cs) ← readTwoDigits? 60 (cs.dropWhile fun c => c = ':' || Text.isBlank c)
  let offset := hours * 60 + minutes
  if offset < 1440 then some (offset, cs) else none

/-- Does the text begin with `UTC` in any case? -/
def startsWithUtc (cs : List Char) : Bool :=
  (cs.take 3).map Char.toUpper = ['U', 'T', 'C']

/-- An offset from UTC in minutes at the front, and what follows it. -/
def readOffset? (cs : List Char) : Option (Int × List Char) :=
  if startsWithUtc cs then some (0, cs.drop 3)
  else
    match cs with
    | 'Z' :: rest => some (0, rest)
    | 'z' :: rest => some (0, rest)
    | '+' :: rest => readClock? rest
    | '-' :: rest => (readClock? rest).map fun (n, rest) => (-n, rest)
    | '−' :: rest => (readClock? rest).map fun (n, rest) => (-n, rest)
    | _ => none

/-- The rest of a text behind the mark between date and time of day. -/
def skipMark? : List Char → Option (List Char)
  | 'T' :: rest => some rest
  | 't' :: rest => some rest
  | ' ' :: rest => some rest
  | _ => none

/-- The point in time that a text writes. -/
def read? (cs : List Char) : Option Timestamp := do
  let (date, cs) ← readDate? cs
  let cs ← skipMark? cs
  let (time, cs) ← readTime? cs
  let (offset, cs) ← readOffset? (Text.trimFront cs)
  if cs.all Text.isBlank then ofLocal? date (.ofClock time) offset else none

end Timestamp

end NodeAccess
