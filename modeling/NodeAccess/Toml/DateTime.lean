import NodeAccess.Timestamp.Text

/-!
# Dates and times in TOML

A date, a time of day, both joined by `T` or a blank, or both with an offset. Only their normal
text is of interest: `T` between date and time, seconds always written, a fraction of at most nine
digits without zeros at its end, and `Z` or an offset as it was given.
-/

set_option autoImplicit false

namespace NodeAccess.Toml

/-- A number of exactly the given count of digits at the front, and what follows it. -/
def readDigits? (count : Nat) (cs : List Char) : Option (Nat × List Char) :=
  let ds := cs.take count
  if ds.length = count && ds.all Char.isDigit then
    some (Nat.ofDigitChars 10 ds 0, cs.drop count)
  else none

/-- The text behind a character that has to stand at the front. -/
def skipChar? (c : Char) : List Char → Option (List Char)
  | d :: cs => if c = d then some cs else none
  | [] => none

/-- A date at the front, and what follows it. -/
def readDate? (cs : List Char) : Option (Date × List Char) := do
  let (year, cs) ← readDigits? 4 cs
  let cs ← skipChar? '-' cs
  let (month, cs) ← readDigits? 2 cs
  let cs ← skipChar? '-' cs
  let (day, cs) ← readDigits? 2 cs
  let date ← Date.ofFields? year month day
  some (date, cs)

/-- The nanoseconds that the digits of a fraction write. -/
def nanosecondsOf (ds : List Char) : Nat :=
  Nat.ofDigitChars 10 ((ds ++ List.replicate 9 '0').take 9) 0

/-- A fraction of a second in nanoseconds, and what follows it; zero without a point. -/
def readNanoseconds? : List Char → Option (Nat × List Char)
  | '.' :: cs =>
    let (ds, rest) := Decimal.spanDigits cs
    if ds.isEmpty then none else some (nanosecondsOf ds, rest)
  | cs => some (0, cs)

/-- Seconds with their fraction, and what follows them; zero where they are left out. -/
def readSeconds? : List Char → Option ((Nat × Nat) × List Char)
  | ':' :: cs => do
    let (second, cs) ← readDigits? 2 cs
    let (nanosecond, cs) ← readNanoseconds? cs
    some ((second, nanosecond), cs)
  | cs => some ((0, 0), cs)

/-- A clock time at the front, and what follows it. -/
def readTime? (cs : List Char) : Option (ClockTime × List Char) := do
  let (hour, cs) ← readDigits? 2 cs
  let cs ← skipChar? ':' cs
  let (minute, cs) ← readDigits? 2 cs
  let ((second, nanosecond), cs) ← readSeconds? cs
  let time ← ClockTime.ofFields? hour minute second nanosecond
  some (time, cs)

/-- The normal text of a clock time. -/
def renderTime (t : ClockTime) : List Char :=
  let fraction := (Decimal.renderPadded 9 t.nanosecond).reverse.dropWhile (· = '0')
  Decimal.renderPadded 2 t.hour ++ ':' :: Decimal.renderPadded 2 t.minute ++
    ':' :: Decimal.renderPadded 2 t.second ++
    (if t.nanosecond = 0 then [] else '.' :: fraction.reverse)

/-- The normal text of an offset that makes up the whole text. -/
def readOffset? : List Char → Option (List Char)
  | ['Z'] => some ['Z']
  | ['z'] => some ['Z']
  | sign :: cs => do
    guard (sign = '+' || sign = '-')
    let (hours, cs) ← readDigits? 2 cs
    let cs ← skipChar? ':' cs
    let (minutes, cs) ← readDigits? 2 cs
    guard (cs.isEmpty && minutes < 60 && hours * 60 + minutes ≤ 1440)
    some (sign :: Decimal.renderPadded 2 hours ++ ':' :: Decimal.renderPadded 2 minutes)
  | [] => none

/-- The normal text of what follows a date: nothing, or a time of day and perhaps an offset. -/
def readAfterDate? : List Char → Option (List Char)
  | [] => some []
  | c :: cs => do
    guard (c = 'T' || c = 't' || c = ' ')
    let (time, rest) ← readTime? cs
    let offset ← if rest.isEmpty then some [] else readOffset? rest
    some ('T' :: renderTime time ++ offset)

/-- The normal text of the date or time that a text writes. -/
def readDateTime? (cs : List Char) : Option String :=
  match readDate? cs with
  | some (date, rest) =>
    (readAfterDate? rest).map fun after => String.ofList (date.render ++ after)
  | none =>
    match readTime? cs with
    | some (time, []) => some (String.ofList (renderTime time))
    | _ => none

end NodeAccess.Toml
