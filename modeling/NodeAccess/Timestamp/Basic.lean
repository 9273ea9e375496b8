/-!
# Points in time

A point in time is a date and a time of day in UTC, to the nanosecond. Years reach from -262143 to
262142 and follow the Gregorian calendar throughout. Dates and times of day hold valid fields only,
so two points in time are equal exactly when their fields are.

A leap second has no number of its own: it goes on with the nanoseconds of the second before it,
which may be any second of a minute. A clock shows a leap second under the next number, which is
sixty at the end of a minute, and the number of another second elsewhere.
-/

set_option autoImplicit false

namespace NodeAccess

/-- Has the year a 29th of February? -/
def isLeapYear (year : Int) : Bool :=
  year % 4 = 0 && (year % 100 != 0 || year % 400 = 0)

/-- The number of days of a month. -/
def daysInMonth (year : Int) (month : Nat) : Nat :=
  if month = 2 then if isLeapYear year then 29 else 28
  else if month = 4 ∨ month = 6 ∨ month = 9 ∨ month = 11 then 30
  else 31

/-- A day of the calendar. -/
structure Date where
  year : Int
  month : Nat
  day : Nat
  year_mem : -262143 ≤ year ∧ year ≤ 262142
  month_mem : 1 ≤ month ∧ month ≤ 12
  day_mem : 1 ≤ day ∧ day ≤ daysInMonth year month
deriving DecidableEq

namespace Date

/-- The day with the given fields, if there is one. -/
def ofFields? (year : Int) (month day : Nat) : Option Date :=
  if hy : -262143 ≤ year ∧ year ≤ 262142 then
    if hm : 1 ≤ month ∧ month ≤ 12 then
      if hd : 1 ≤ day ∧ day ≤ daysInMonth year month then some ⟨year, month, day, hy, hm, hd⟩
      else none
    else none
  else none

/-- The day after, if the calendar reaches it. -/
def next? (d : Date) : Option Date :=
  if d.day < daysInMonth d.year d.month then ofFields? d.year d.month (d.day + 1)
  else if d.month < 12 then ofFields? d.year (d.month + 1) 1
  else ofFields? (d.year + 1) 1 1

/-- The day before, if the calendar reaches it. -/
def previous? (d : Date) : Option Date :=
  if 1 < d.day then ofFields? d.year d.month (d.day - 1)
  else if 1 < d.month then
    ofFields? d.year (d.month - 1) (daysInMonth d.year (d.month - 1))
  else ofFields? (d.year - 1) 12 31

/-- The fields of a day make that day. -/
theorem ofFields?_fields (d : Date) : ofFields? d.year d.month d.day = some d := by
  simp [ofFields?, d.year_mem, d.month_mem, d.day_mem]

end Date

/-- What a clock shows within a day; the second sixty is a leap second. -/
structure ClockTime where
  hour : Nat
  minute : Nat
  second : Nat
  nanosecond : Nat
  hour_lt : hour < 24
  minute_lt : minute < 60
  second_le : second ≤ 60
  nanosecond_lt : nanosecond < 1000000000
deriving DecidableEq

namespace ClockTime

/-- The clock time with the given fields, if there is one. -/
def ofFields? (hour minute second nanosecond : Nat) : Option ClockTime :=
  if h : hour < 24 ∧ minute < 60 ∧ second ≤ 60 ∧ nanosecond < 1000000000 then
    some ⟨hour, minute, second, nanosecond, h.1, h.2.1, h.2.2.1, h.2.2.2⟩
  else none

/-- The fields of a clock time make that clock time. -/
theorem ofFields?_fields (t : ClockTime) :
    ofFields? t.hour t.minute t.second t.nanosecond = some t := by
  simp [ofFields?, t.hour_lt, t.minute_lt, t.second_le, t.nanosecond_lt]

end ClockTime

/-- A time of day. From a thousand million on, nanoseconds are those of a leap second. -/
structure TimeOfDay where
  hour : Nat
  minute : Nat
  second : Nat
  nanosecond : Nat
  hour_lt : hour < 24
  minute_lt : minute < 60
  second_lt : second < 60
  nanosecond_lt : nanosecond < 2000000000
deriving DecidableEq

namespace TimeOfDay

/-- Is it a leap second? -/
def isLeap (t : TimeOfDay) : Bool :=
  1000000000 ≤ t.nanosecond

theorem isLeap_iff {t : TimeOfDay} : t.isLeap = true ↔ 1000000000 ≤ t.nanosecond :=
  decide_eq_true_iff

theorem isLeap_eq_false_iff {t : TimeOfDay} : t.isLeap = false ↔ t.nanosecond < 1000000000 :=
  decide_eq_false_iff_not.trans Nat.not_le

/-- The time of day at which a clock shows the given time. -/
def ofClock (c : ClockTime) : TimeOfDay where
  hour := c.hour
  minute := c.minute
  second := min c.second 59
  nanosecond := if c.second = 60 then c.nanosecond + 1000000000 else c.nanosecond
  hour_lt := c.hour_lt
  minute_lt := c.minute_lt
  second_lt := by omega
  nanosecond_lt := by
    have hnanosecond := c.nanosecond_lt
    split <;> omega

/-- What a clock shows at a time of day. -/
def clock (t : TimeOfDay) : ClockTime where
  hour := t.hour
  minute := t.minute
  second := if t.isLeap then t.second + 1 else t.second
  nanosecond := if t.isLeap then t.nanosecond - 1000000000 else t.nanosecond
  hour_lt := t.hour_lt
  minute_lt := t.minute_lt
  second_le := by
    have hsecond := t.second_lt
    split <;> omega
  nanosecond_lt := by
    have hnanosecond := t.nanosecond_lt
    simp only [isLeap_iff]
    split <;> omega

/-- The same second of a minute in another minute, counted from the beginning of some day. -/
def inMinute (t : TimeOfDay) (minutes : Int) : TimeOfDay :=
  { t with
    hour := (minutes % 1440 / 60).toNat
    minute := (minutes % 60).toNat
    hour_lt := by omega
    minute_lt := by omega }

end TimeOfDay

/-- A point in time, in UTC. -/
structure Timestamp where
  date : Date
  time : TimeOfDay
deriving DecidableEq

namespace Timestamp

/-- The point in time at which clocks that are `offset` minutes ahead of UTC show the given date
and time. -/
def ofLocal? (date : Date) (time : TimeOfDay) (offset : Int) : Option Timestamp :=
  let minutes : Int := time.hour * 60 + time.minute - offset
  let date? :=
    if minutes < 0 then date.previous?
    else if 1440 ≤ minutes then date.next?
    else some date
  date?.map fun date => ⟨date, time.inMinute minutes⟩

end Timestamp

end NodeAccess
