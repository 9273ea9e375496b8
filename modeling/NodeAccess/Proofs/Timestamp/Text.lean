import NodeAccess.Proofs.Text.Digits
import NodeAccess.Timestamp.Text

/-!
# Points in time read back

In the text of a point in time every number is followed by a character that is no digit, so the
reader ends each field where the writer did. A fraction of three or six digits is scaled back to
nanoseconds by the digits it lacks. Years of more than four digits and years before 0000 carry a
sign, and are read with as many digits as they have.

What reads back is what a clock shows. A leap second within a minute is shown like the second after
it, and read back as that; all other points in time are read back as they were.
-/

set_option autoImplicit false

namespace NodeAccess

namespace Text

theorem trimFront_cons {c : Char} (h : isBlank c = false) (cs : List Char) :
    trimFront (c :: cs) = c :: cs := by
  simp [trimFront, h]

end Text

open Decimal

theorem daysInMonth_le (year : Int) (month : Nat) : daysInMonth year month ≤ 31 := by
  unfold daysInMonth
  repeat' split
  all_goals decide

namespace Timestamp

/-! ## Fields -/

theorem skip?_cons {c : Char} (h : Text.isBlank c = false) (cs : List Char) :
    skip? c (c :: cs) = some cs := by
  simp [skip?, Text.trimFront_cons h]

/-- A number of no more digits than are read is read as it is. -/
theorem readNumber?_renderPadded {limit width n : Nat} {rest : List Char}
    (hlimit : (renderPadded width n).length ≤ limit) (hrest : StartsApart rest) :
    readNumber? limit (renderPadded width n ++ rest) = some (n, rest) := by
  -- the limit may reach into what follows, but finds no digit there
  have hapart : StartsApart (rest.take (limit - (renderPadded width n).length)) := by
    intro c hc
    rw [List.head?_take] at hc
    split at hc
    · cases hc
    · exact hrest c hc
  have hdigits : ((renderPadded width n ++ rest).take limit).takeWhile Char.isDigit =
      renderPadded width n := by
    rw [List.take_append, List.take_of_length_le hlimit]
    exact congrArg Prod.fst
      (spanDigits_append (fun c => isDigit_of_mem_renderPadded width n) hapart)
  have hne : (renderPadded width n).isEmpty = false := by
    simpa using renderPadded_ne_nil width n
  simp [readNumber?, hdigits, hne, ofDigitChars_renderPadded]

theorem trimFront_renderPadded (width n : Nat) (rest : List Char) :
    Text.trimFront (renderPadded width n ++ rest) = renderPadded width n ++ rest := by
  cases hpadded : renderPadded width n with
  | nil => exact absurd hpadded (renderPadded_ne_nil width n)
  | cons c cs =>
    have hdigit : c.isDigit = true := by
      apply isDigit_of_mem_renderPadded width n
      simp [hpadded]
    exact Text.trimFront_cons (Text.isBlank_eq_false_of_isDigit hdigit) _

theorem readField?_renderPadded {n : Nat} (hn : n < 100) {rest : List Char}
    (hrest : StartsApart rest) : readField? (renderPadded 2 n ++ rest) = some (n, rest) := by
  have hlength : (renderPadded 2 n).length = 2 := length_renderPadded (by decide) hn
  rw [readField?, trimFront_renderPadded, readNumber?_renderPadded (Nat.le_of_eq hlength) hrest]

theorem renderPadded_append_ne_cons (width n : Nat) (rest : List Char) {c : Char}
    (hc : c.isDigit = false) (cs : List Char) : renderPadded width n ++ rest ≠ c :: cs :=
  append_ne_cons_of_isDigit (fun _ => isDigit_of_mem_renderPadded width n)
    (renderPadded_ne_nil width n) rest hc cs

theorem readYear?_renderYear (year : Int) {rest : List Char} (hrest : StartsApart rest) :
    readYear? (Date.renderYear year ++ rest) = some (year, rest) := by
  have hsigned : readNumber? (renderPadded 4 year.natAbs ++ rest).length
      (renderPadded 4 year.natAbs ++ rest) = some (year.natAbs, rest) :=
    readNumber?_renderPadded (by simp) hrest
  unfold Date.renderYear
  split
  case isTrue hcommon =>
    have hsmall : year.toNat < 10000 := by omega
    have hlength : (renderPadded 4 year.toNat).length = 4 := length_renderPadded (by decide) hsmall
    have hyear : (year.toNat : Int) = year := Int.toNat_of_nonneg hcommon.1
    unfold readYear?
    rw [trimFront_renderPadded]
    -- a year that begins with a digit is not taken for a signed one
    split
    · rename_i hminus
      exact absurd hminus (renderPadded_append_ne_cons _ _ _ (by decide) _)
    · rename_i hplus
      exact absurd hplus (renderPadded_append_ne_cons _ _ _ (by decide) _)
    · rw [readNumber?_renderPadded (Nat.le_of_eq hlength) hrest]
      simp [hyear]
  case isFalse hlarge =>
    split
    case isTrue hnegative =>
      have hyear : -(year.natAbs : Int) = year := by omega
      rw [List.cons_append, readYear?, Text.trimFront_cons (by decide)]
      simp only [hsigned]
      simpa using hyear
    case isFalse hpositive =>
      have hyear : (year.natAbs : Int) = year := by omega
      rw [List.cons_append, readYear?, Text.trimFront_cons (by decide)]
      simp only [hsigned]
      simpa using hyear

/-! ## Fractions -/

/-- A fraction of some digits counts as many nanoseconds as if zeros filled it up to nine. -/
theorem readFraction?_renderPadded {width n : Nat} (hwidth : 0 < width ∧ width ≤ 9)
    (hn : n < tenPow width) {rest : List Char} (hrest : StartsApart rest) :
    readFraction? ('.' :: (renderPadded width n ++ rest)) =
      some (n * tenPow (9 - width), rest) := by
  have hlength : (renderPadded width n).length = width := length_renderPadded hwidth.1 hn
  have hread := readNumber?_renderPadded (Nat.le_trans (Nat.le_of_eq hlength) hwidth.2) hrest
  have hbehind : rest.dropWhile Char.isDigit = rest :=
    congrArg Prod.snd (spanDigits_append (fun c hc => absurd hc List.not_mem_nil) hrest)
  simp [readFraction?, hread, hlength, hbehind]

theorem readFraction?_renderFraction {n : Nat} (hn : n < 1000000000) {rest : List Char}
    (hrest : StartsApart rest) (hpoint : rest.head? ≠ some '.') :
    readFraction? (ClockTime.renderFraction n ++ rest) = some (n, rest) := by
  unfold ClockTime.renderFraction
  split
  case isTrue hzero =>
    cases rest with
    | nil => simp [readFraction?, hzero]
    | cons c rest =>
      have hc : c ≠ '.' := by simpa using hpoint
      simp [readFraction?, hzero, hc]
  case isFalse =>
    split
    case isTrue hmilli =>
      have hsmall : n / 1000000 < 1000 := by omega
      have hscale : n / 1000000 * tenPow 6 = n := Nat.div_mul_cancel (Nat.dvd_of_mod_eq_zero hmilli)
      rw [List.cons_append, readFraction?_renderPadded (by decide) hsmall hrest, hscale]
    case isFalse =>
      split
      case isTrue hmicro =>
        have hsmall : n / 1000 < 1000000 := by omega
        have hscale : n / 1000 * tenPow 3 = n := Nat.div_mul_cancel (Nat.dvd_of_mod_eq_zero hmicro)
        rw [List.cons_append, readFraction?_renderPadded (by decide) hsmall hrest, hscale]
      case isFalse =>
        have hscale : n * tenPow 0 = n := Nat.mul_one n
        rw [List.cons_append, readFraction?_renderPadded (by decide) hn hrest, hscale]

/-! ## Whole points in time -/

theorem skip?_separators (cs : List Char) :
    skip? '-' ('-' :: cs) = some cs ∧ skip? ':' (':' :: cs) = some cs :=
  ⟨skip?_cons (by decide) cs, skip?_cons (by decide) cs⟩

theorem readDate?_render (d : Date) {rest : List Char} (hrest : StartsApart rest) :
    readDate? (d.render ++ rest) = some (d, rest) := by
  have hmonth : d.month < 100 := Nat.lt_of_le_of_lt d.month_mem.2 (by decide)
  have hday : d.day < 100 := by
    have hle : d.day ≤ 31 := Nat.le_trans d.day_mem.2 (daysInMonth_le d.year d.month)
    omega
  have hrender : d.render ++ rest = Date.renderYear d.year ++
      '-' :: (renderPadded 2 d.month ++ '-' :: (renderPadded 2 d.day ++ rest)) := by
    simp [Date.render]
  rw [hrender]
  simp [readDate?, readYear?_renderYear, readField?_renderPadded, skip?_separators,
    startsApart_cons, hmonth, hday, hrest, Date.ofFields?_fields]

theorem readTime?_render (t : ClockTime) {rest : List Char} (hrest : StartsApart rest)
    (hpoint : rest.head? ≠ some '.') : readTime? (t.render ++ rest) = some (t, rest) := by
  have hhour : t.hour < 100 := Nat.lt_trans t.hour_lt (by decide)
  have hminute : t.minute < 100 := Nat.lt_trans t.minute_lt (by decide)
  have hsecond : t.second < 100 := Nat.lt_of_le_of_lt t.second_le (by decide)
  have hfraction := readFraction?_renderFraction t.nanosecond_lt hrest hpoint
  have hapart : StartsApart (ClockTime.renderFraction t.nanosecond ++ rest) := by
    unfold ClockTime.renderFraction
    repeat' split
    · exact hrest
    all_goals exact startsApart_cons (by decide) _
  have hrender : t.render ++ rest = renderPadded 2 t.hour ++ ':' :: (renderPadded 2 t.minute ++
      ':' :: (renderPadded 2 t.second ++ (ClockTime.renderFraction t.nanosecond ++ rest))) := by
    simp [ClockTime.render]
  rw [hrender]
  simp [readTime?, readField?_renderPadded, skip?_separators, startsApart_cons, hhour, hminute,
    hsecond, hapart, hfraction, ClockTime.ofFields?_fields]

end Timestamp

/-! ## Clocks -/

namespace TimeOfDay

/-- A leap second stands at the end of a minute only. -/
def IsRegular (t : TimeOfDay) : Prop :=
  t.isLeap = true → t.second = 59

/-- A clock shows the time at which it shows it. -/
theorem clock_ofClock (c : ClockTime) : (ofClock c).clock = c := by
  have hsecond := c.second_le
  have hnanosecond := c.nanosecond_lt
  cases c
  simp only [clock, isLeap_iff, ofClock, ClockTime.mk.injEq, true_and] at *
  split <;> split <;> omega

theorem isRegular_ofClock (c : ClockTime) : (ofClock c).IsRegular := by
  intro hleap
  have hnanosecond := c.nanosecond_lt
  simp only [isLeap_iff, ofClock] at hleap ⊢
  split at hleap <;> omega

theorem ofClock_clock {t : TimeOfDay} (h : t.IsRegular) : ofClock t.clock = t := by
  have hsecond := t.second_lt
  have hnanosecond := t.nanosecond_lt
  cases t
  simp only [IsRegular, isLeap_iff] at h
  simp only [ofClock, clock, isLeap_iff, mk.injEq, true_and] at *
  split <;> split <;> omega

theorem inMinute_self (t : TimeOfDay) : t.inMinute (t.hour * 60 + t.minute) = t := by
  have hhour := t.hour_lt
  have hminute := t.minute_lt
  cases t
  simp only [inMinute, mk.injEq, and_true] at *
  omega

end TimeOfDay

namespace Timestamp

/-- A leap second stands at the end of a minute only. -/
def IsRegular (t : Timestamp) : Prop :=
  t.time.IsRegular

/-- Clocks that show UTC show the point in time itself. -/
theorem ofLocal?_zero (date : Date) (time : TimeOfDay) :
    ofLocal? date time 0 = some ⟨date, time⟩ := by
  have hhour := time.hour_lt
  have hminute := time.minute_lt
  have hminutes : ¬ ((time.hour * 60 + time.minute : Int) < 0) ∧
      ¬ 1440 ≤ (time.hour * 60 + time.minute : Int) := by
    omega
  simp only [ofLocal?, Int.sub_zero, hminutes, if_false, Option.map_some, time.inMinute_self]

theorem isRegular_ofLocal? {date : Date} {time : TimeOfDay} (h : time.IsRegular) {offset : Int}
    {t : Timestamp} (ht : ofLocal? date time offset = some t) : t.IsRegular := by
  obtain ⟨date', -, rfl⟩ := Option.map_eq_some_iff.mp ht
  exact h

/-- Every point in time that a text writes is regular. -/
theorem isRegular_of_read? {cs : List Char} {t : Timestamp} (h : read? cs = some t) :
    t.IsRegular := by
  simp only [read?, Option.bind_eq_bind, Option.bind_eq_some_iff,
    Option.ite_none_right_eq_some] at h
  obtain ⟨date, -, rest, -, clock, -, offset, -, -, h⟩ := h
  exact isRegular_ofLocal? (TimeOfDay.isRegular_ofClock clock.1) h

/-- The text of a point in time reads back as what a clock shows there. -/
theorem read?_render (t : Timestamp) : read? t.render = some ⟨t.date, .ofClock t.time.clock⟩ := by
  have hdate : readDate? (t.date.render ++ 'T' :: (t.time.clock.render ++ ['Z'])) =
      some (t.date, 'T' :: (t.time.clock.render ++ ['Z'])) :=
    readDate?_render t.date (startsApart_cons (by decide) _)
  have htime : readTime? (t.time.clock.render ++ ['Z']) = some (t.time.clock, ['Z']) :=
    readTime?_render t.time.clock (startsApart_cons (by decide) []) (by simp)
  have hoffset : readOffset? (Text.trimFront ['Z']) = some (0, []) := rfl
  have hrender : t.render = t.date.render ++ 'T' :: (t.time.clock.render ++ ['Z']) := by
    simp [render]
  rw [hrender]
  simp only [read?, hdate, Option.bind_eq_bind, Option.bind_some, skipMark?, htime, hoffset,
    List.all_nil, if_true, ofLocal?_zero]

/-- Points in time have the same text exactly if a clock shows the same on the same day. -/
theorem render_inj {t t' : Timestamp} :
    t.render = t'.render ↔ t.date = t'.date ∧ t.time.clock = t'.time.clock := by
  constructor
  · intro h
    have hread := t.read?_render
    rw [h, t'.read?_render, Option.some.injEq, mk.injEq] at hread
    refine ⟨hread.1.symm, ?_⟩
    rw [← TimeOfDay.clock_ofClock t.time.clock, ← hread.2, TimeOfDay.clock_ofClock]
  · rintro ⟨hdate, hclock⟩
    rw [render, render, hdate, hclock]

/-- The text of a regular point in time reads back. -/
theorem IsRegular.read?_render {t : Timestamp} (h : t.IsRegular) : read? t.render = some t := by
  rw [Timestamp.read?_render, TimeOfDay.ofClock_clock h]

end Timestamp

end NodeAccess
