import NodeAccess.Timestamp.Basic

/-!
# Points in time as instants

The days of the calendar are numbered without gaps, and with the seconds of the day this numbers the
seconds. A leap second goes on with the nanoseconds of the second before it. Two points in time are
equal exactly when they are the same instant, that is the same nanosecond of the same second, and
what a clock shows that is ahead of UTC is that much earlier. Where nanoseconds are counted through,
a leap second coincides with the second after it, and all other instants differ.
-/

set_option autoImplicit false

namespace NodeAccess

/-! ## Days -/

namespace Date

/-- The days of the first months of a year. -/
def daysThrough (year : Int) : Nat → Nat
  | 0 => 0
  | month + 1 => daysThrough year month + daysInMonth year (month + 1)

/-- The days before a year, from the beginning of the year one on. -/
def daysBefore (year : Int) : Int :=
  365 * (year - 1) + (year - 1) / 4 - (year - 1) / 100 + (year - 1) / 400

/-- The number of a day; the first day of the year one has the number one. -/
def number (d : Date) : Int :=
  daysBefore d.year + daysThrough d.year (d.month - 1) + d.day

theorem daysThrough_mono (year : Int) {month month' : Nat} (h : month ≤ month') :
    daysThrough year month ≤ daysThrough year month' := by
  induction h with
  | refl => exact Nat.le_refl _
  | step _ ih => exact Nat.le_trans ih (Nat.le_add_right _ _)

theorem daysThrough_twelve (year : Int) :
    daysThrough year 12 = if isLeapYear year then 366 else 365 := by
  simp only [daysThrough, daysInMonth]
  cases isLeapYear year <;> rfl

/-- A year begins where the one before it ends. -/
theorem daysBefore_succ (year : Int) :
    daysBefore (year + 1) = daysBefore year + daysThrough year 12 := by
  rw [daysThrough_twelve]
  unfold daysBefore isLeapYear
  simp only [Bool.and_eq_true, Bool.or_eq_true, decide_eq_true_eq, bne_iff_ne, ne_eq]
  split <;> omega

theorem daysBefore_mono {year year' : Int} (h : year ≤ year') :
    daysBefore year ≤ daysBefore year' := by
  unfold daysBefore
  omega

theorem daysThrough_month (d : Date) :
    daysThrough d.year d.month =
      daysThrough d.year (d.month - 1) + daysInMonth d.year d.month := by
  obtain ⟨month, hmonth⟩ : ∃ month, d.month = month + 1 :=
    Nat.exists_eq_succ_of_ne_zero (Nat.pos_iff_ne_zero.mp d.month_mem.1)
  rw [hmonth]
  rfl

theorem daysBefore_lt_number (d : Date) : daysBefore d.year < d.number := by
  have hday := d.day_mem
  unfold number
  omega

theorem number_le_daysBefore_succ (d : Date) : d.number ≤ daysBefore (d.year + 1) := by
  have hday := d.day_mem
  have hmonth := d.daysThrough_month
  have hyear := daysThrough_mono d.year d.month_mem.2
  rw [daysBefore_succ]
  unfold number
  omega

theorem number_lt_of_year_lt {d d' : Date} (h : d.year < d'.year) : d.number < d'.number :=
  calc d.number ≤ daysBefore (d.year + 1) := d.number_le_daysBefore_succ
    _ ≤ daysBefore d'.year := daysBefore_mono (Int.add_one_le_of_lt h)
    _ < d'.number := d'.daysBefore_lt_number

theorem number_lt_of_month_lt {d d' : Date} (hyear : d.year = d'.year) (h : d.month < d'.month) :
    d.number < d'.number := by
  have hday := d.day_mem
  have hday' := d'.day_mem
  have hmonth := d.daysThrough_month
  have hbetween := daysThrough_mono d.year (Nat.le_sub_one_of_lt h)
  unfold number
  rw [← hyear]
  omega

/-- Days with the same number are of the same year and month, and so the same. -/
theorem number_inj {d d' : Date} (h : d.number = d'.number) : d = d' := by
  have hyear : d.year = d'.year := by
    rcases Int.lt_trichotomy d.year d'.year with hlt | heq | hgt
    · exact absurd h (Int.ne_of_lt (number_lt_of_year_lt hlt))
    · exact heq
    · exact absurd h.symm (Int.ne_of_lt (number_lt_of_year_lt hgt))
  have hmonth : d.month = d'.month := by
    rcases Nat.lt_trichotomy d.month d'.month with hlt | heq | hgt
    · exact absurd h (Int.ne_of_lt (number_lt_of_month_lt hyear hlt))
    · exact heq
    · exact absurd h.symm (Int.ne_of_lt (number_lt_of_month_lt hyear.symm hgt))
  have hday : d.day = d'.day := by
    unfold number at h
    rw [hyear, hmonth] at h
    omega
  cases d
  cases d'
  rw [mk.injEq]
  exact ⟨hyear, hmonth, hday⟩

theorem fields_of_ofFields? {year : Int} {month day : Nat} {d : Date}
    (h : ofFields? year month day = some d) : d.year = year ∧ d.month = month ∧ d.day = day := by
  unfold ofFields? at h
  split at h
  · split at h
    · split at h
      · cases h
        exact ⟨rfl, rfl, rfl⟩
      · contradiction
    · contradiction
  · contradiction

/-- The day after has the next number. -/
theorem number_next? {d d' : Date} (h : d.next? = some d') : d'.number = d.number + 1 := by
  have hday := d.day_mem
  have hmonth := d.month_mem
  have hthrough := d.daysThrough_month
  unfold next? at h
  unfold number
  split at h
  · obtain ⟨hyear', hmonth', hday'⟩ := fields_of_ofFields? h
    rw [hyear', hmonth', hday']
    omega
  · split at h
    · obtain ⟨hyear', hmonth', hday'⟩ := fields_of_ofFields? h
      rw [hyear', hmonth', hday', Nat.add_sub_cancel]
      omega
    · obtain ⟨hyear', hmonth', hday'⟩ := fields_of_ofFields? h
      have hlast : d.month = 12 := by omega
      have hyear := daysBefore_succ d.year
      rw [← hlast] at hyear
      rw [hyear', hmonth', hday', Nat.sub_self, daysThrough]
      omega

/-- The first day of the year 1970, from which clocks often count. -/
example : number ⟨1970, 1, 1, by decide, by decide, by decide⟩ = 719163 := by decide

/-- The day before has the number before. -/
theorem number_previous? {d d' : Date} (h : d.previous? = some d') :
    d'.number = d.number - 1 := by
  have hday := d.day_mem
  have hmonth := d.month_mem
  have hthrough' := d'.daysThrough_month
  unfold previous? at h
  unfold number
  split at h
  · obtain ⟨hyear', hmonth', hday'⟩ := fields_of_ofFields? h
    rw [hyear', hmonth', hday']
    omega
  · split at h
    · obtain ⟨hyear', hmonth', hday'⟩ := fields_of_ofFields? h
      rw [hyear', hmonth'] at hthrough' ⊢
      rw [hday']
      omega
    · obtain ⟨hyear', hmonth', hday'⟩ := fields_of_ofFields? h
      have hfirst : d.month = 1 := by omega
      have hyear := daysBefore_succ (d.year - 1)
      rw [Int.sub_add_cancel] at hyear
      have hlast : daysInMonth (d.year - 1) 12 = 31 := rfl
      rw [hyear', hmonth'] at hthrough' ⊢
      rw [hday', hfirst, Nat.sub_self, daysThrough]
      omega

end Date

/-! ## Seconds -/

namespace TimeOfDay

/-- The seconds of the day before this one. -/
def secondOfDay (t : TimeOfDay) : Nat :=
  t.hour * 3600 + t.minute * 60 + t.second

theorem secondOfDay_lt (t : TimeOfDay) : t.secondOfDay < 86400 := by
  have hhour := t.hour_lt
  have hminute := t.minute_lt
  have hsecond := t.second_lt
  unfold secondOfDay
  omega

theorem eq_of_secondOfDay_eq {t t' : TimeOfDay} (hsecond : t.secondOfDay = t'.secondOfDay)
    (hnanosecond : t.nanosecond = t'.nanosecond) : t = t' := by
  have hminute := t.minute_lt
  have hminute' := t'.minute_lt
  have hsecond_lt := t.second_lt
  have hsecond_lt' := t'.second_lt
  unfold secondOfDay at hsecond
  have hsame : t.hour = t'.hour ∧ t.minute = t'.minute ∧ t.second = t'.second := by omega
  cases t
  cases t'
  rw [mk.injEq]
  exact ⟨hsame.1, hsame.2.1, hsame.2.2, hnanosecond⟩

end TimeOfDay

namespace Timestamp

/-- The instant at which clocks that are `offset` minutes ahead of UTC show the given date and time:
the number of a second and the nanoseconds within it. -/
def localInstant (date : Date) (time : TimeOfDay) (offset : Int) : Int × Nat :=
  (86400 * date.number + time.secondOfDay - 60 * offset, time.nanosecond)

/-- The instant of a point in time. -/
def instant (t : Timestamp) : Int × Nat :=
  localInstant t.date t.time 0

/-- Points in time are equal exactly when they are the same instant. -/
theorem instant_inj {t t' : Timestamp} : t.instant = t'.instant ↔ t = t' := by
  constructor
  · intro h
    obtain ⟨hseconds, hnanosecond⟩ := Prod.mk.inj h
    have hlt := t.time.secondOfDay_lt
    have hlt' := t'.time.secondOfDay_lt
    have hdate : t.date = t'.date := Date.number_inj (by omega)
    have htime : t.time = t'.time := by
      rw [hdate] at hseconds
      exact TimeOfDay.eq_of_secondOfDay_eq (by omega) hnanosecond
    cases t
    cases t'
    rw [mk.injEq]
    exact ⟨hdate, htime⟩
  · rintro rfl
    rfl

/-- The nanoseconds up to a point in time, all seconds counted but leap seconds. -/
def elapsed (t : Timestamp) : Int :=
  1000000000 * t.instant.1 + t.instant.2

/-- Outside leap seconds points in time are equal exactly when as many nanoseconds have elapsed. -/
theorem elapsed_inj {t t' : Timestamp} (h : t.time.isLeap = false) (h' : t'.time.isLeap = false) :
    t.elapsed = t'.elapsed ↔ t = t' := by
  have hlt : t.instant.2 < 1000000000 := TimeOfDay.isLeap_eq_false_iff.mp h
  have hlt' : t'.instant.2 < 1000000000 := TimeOfDay.isLeap_eq_false_iff.mp h'
  rw [← instant_inj, Prod.ext_iff, elapsed, elapsed]
  omega

/-- What clocks show that are ahead of UTC is that much earlier. -/
theorem instant_ofLocal? {date : Date} {time : TimeOfDay} {offset : Int} {t : Timestamp}
    (hoffset : -1440 ≤ offset ∧ offset ≤ 1440) (h : ofLocal? date time offset = some t) :
    t.instant = localInstant date time offset := by
  have hhour := time.hour_lt
  have hminute := time.minute_lt
  obtain ⟨date', hdate, rfl⟩ := Option.map_eq_some_iff.mp h
  have hnumber : date'.number =
      date.number + ((time.hour : Int) * 60 + time.minute - offset) / 1440 := by
    split at hdate
    · rw [Date.number_previous? hdate]
      omega
    · split at hdate
      · rw [Date.number_next? hdate]
        omega
      · cases hdate
        omega
  simp only [instant, localInstant, TimeOfDay.secondOfDay, TimeOfDay.inMinute, hnumber]
  congr 1
  omega

end Timestamp

end NodeAccess
