import NetReconcile.Time.Span

/-!
# The civil calendar

Days counted from 1970-01-01 and dates of the proleptic Gregorian calendar correspond:
the date `civilFromDays` gives a day is a valid date, a month from 1 to 12 and a day
within that month, with February's 29th only in leap years, and `daysFromCivil` counts
from that date back to the day. The days of the calendar's range have dates within its
years.

The conversion works in eras of 400 years whose years begin on March 1st, so that a leap
day is the last day of its year. An era of 146097 days is four centuries of 36524 days
and one day more at its end; a century is 25 four-year cycles of 1461 days, the last one
day short; a cycle is four years of 365 days with the leap day at its end. The year of
a day of the era is found by splitting the day along these lines.
-/

namespace NetReconcile.Time

/-- The year of an era, from 0 to 399, that holds a day of the era. -/
def yearOfEra (doe : Int) : Int := (doe - doe / 1460 + doe / 36524 - doe / 146096) / 365

/-- The day of an era on which a year of the era begins. -/
def yearStart (yoe : Int) : Int := 365 * yoe + yoe / 4 - yoe / 100

/-- The month of a year counted from March, 0 for March to 11 for February, that holds a
day of the year. -/
def monthOfYear (doy : Int) : Int := (5 * doy + 2) / 153

/-- The day of a year counted from March on which a month begins. -/
def monthStart (mp : Int) : Int := (153 * mp + 2) / 5

/-- The date of a day of an era: the year, the month and the day of the month. -/
def dateOfEraDay (era doe : Int) : Int × Nat × Nat :=
  let yoe := yearOfEra doe
  let doy := doe - yearStart yoe
  let mp := monthOfYear doy
  let m := if mp < 10 then mp + 3 else mp - 9
  (if m ≤ 2 then yoe + era * 400 + 1 else yoe + era * 400, m.toNat, (doy - monthStart mp + 1).toNat)

/-- A date of the calendar: a month from 1 to 12 and a day within that month. -/
def ValidDate (y : Int) (m d : Nat) : Prop := 1 ≤ m ∧ m ≤ 12 ∧ 1 ≤ d ∧ d ≤ daysInMonth y m

theorem daysInMonth_le_31 (y : Int) (m : Nat) : daysInMonth y m ≤ 31 := by
  unfold daysInMonth
  split
  · split <;> omega
  · split <;> omega

/-- The date of a day is the date of its day within its era. -/
theorem civilFromDays_eq (z : Int) :
    civilFromDays z = dateOfEraDay ((z + 719468).fdiv 146097)
      (z + 719468 - (z + 719468).fdiv 146097 * 146097) := rfl

theorem isLeapYear_iff (y : Int) :
    isLeapYear y = true ↔ (y % 4 = 0 ∧ y % 100 ≠ 0) ∨ y % 400 = 0 := by
  simp [isLeapYear]

/-- The year of a day of an era begins on or before the day and at most 365 days before
it; the 366th day falls only in a year whose next year is a leap year. -/
theorem yearOfEra_spec {doe : Int} (h0 : 0 ≤ doe) (h1 : doe ≤ 146096) :
    0 ≤ yearOfEra doe ∧ yearOfEra doe ≤ 399 ∧ yearStart (yearOfEra doe) ≤ doe ∧
      doe ≤ yearStart (yearOfEra doe) + 365 ∧
      (doe = yearStart (yearOfEra doe) + 365 →
        yearOfEra doe % 4 = 3 ∧ (yearOfEra doe % 100 ≠ 99 ∨ yearOfEra doe = 399)) := by
  unfold yearOfEra yearStart
  rcases (show doe = 146096 ∨ doe < 146096 by omega) with rfl | hlt
  · decide
  obtain ⟨c, q, s, rfl, hc, hc', hq, hq', hs, hs', hqs⟩ : ∃ c q s, doe = 36524 * c + 1461 * q + s ∧
      0 ≤ c ∧ c ≤ 3 ∧ 0 ≤ q ∧ q ≤ 24 ∧ 0 ≤ s ∧ s ≤ 1460 ∧ (q = 24 → s ≤ 1459) :=
    ⟨doe / 36524, doe % 36524 / 1461, doe % 36524 % 1461, by omega, by omega, by omega, by omega,
      by omega⟩
  have h146096 : (36524 * c + 1461 * q + s) / 146096 = 0 := by omega
  have h36524 : (36524 * c + 1461 * q + s) / 36524 = c := by omega
  have h1460 : (36524 * c + 1461 * q + s) / 1460 = 25 * c + q + (24 * c + q + s) / 1460 := by omega
  have hδ : (24 * c + q + s) / 1460 ≤ 1 := by omega
  have hδ' : (24 * c + q + s) / 1460 = 1 → 1364 ≤ s := by omega
  rw [h146096, h36524, h1460]
  have hyoe : (36524 * c + 1461 * q + s - (25 * c + q + (24 * c + q + s) / 1460) + c - 0) / 365 =
      100 * c + 4 * q + (s - (24 * c + q + s) / 1460) / 365 := by omega
  rw [hyoe]
  have ht : (s - (24 * c + q + s) / 1460) / 365 ≤ 3 := by omega
  have ht' : 0 ≤ (s - (24 * c + q + s) / 1460) / 365 := by omega
  have h4 : (100 * c + 4 * q + (s - (24 * c + q + s) / 1460) / 365) / 4 = 25 * c + q := by omega
  have h100 : (100 * c + 4 * q + (s - (24 * c + q + s) / 1460) / 365) / 100 = c := by omega
  rw [h4, h100]
  omega

/-- The month of a day of a year begins on or before the day and ends after it. -/
theorem monthOfYear_spec (doy : Int) (h0 : 0 ≤ doy) (h1 : doy ≤ 365) :
    0 ≤ monthOfYear doy ∧ monthOfYear doy ≤ 11 ∧ monthStart (monthOfYear doy) ≤ doy ∧
      doy < monthStart (monthOfYear doy + 1) := by
  unfold monthOfYear monthStart
  omega

/-- The date of a day of an era is valid, and counting the days to it gives the day back. -/
theorem dateOfEraDay_spec (era doe : Int) (h0 : 0 ≤ doe) (h1 : doe ≤ 146096) :
    ValidDate (dateOfEraDay era doe).1 (dateOfEraDay era doe).2.1 (dateOfEraDay era doe).2.2 ∧
      daysFromCivil (dateOfEraDay era doe).1 (dateOfEraDay era doe).2.1 (dateOfEraDay era doe).2.2 =
        era * 146097 + doe - 719468 := by
  obtain ⟨hy0, hy1, hs0, hs1, hleap⟩ := yearOfEra_spec h0 h1
  obtain ⟨hm0, hm1, hms, hme⟩ := monthOfYear_spec (doe - yearStart (yearOfEra doe)) (by omega) (by omega)
  simp only [dateOfEraDay]
  generalize monthOfYear (doe - yearStart (yearOfEra doe)) = mp at *
  generalize yearOfEra doe = yoe at *
  unfold monthStart yearStart at *
  constructor
  · unfold ValidDate daysInMonth
    by_cases hlt : mp < 10
    · simp only [hlt, if_true]
      split
      · omega
      · split <;> omega
    · simp only [hlt, if_false]
      split
      · have hy : mp - 9 ≤ 2 := by omega
        simp only [hy, if_true, isLeapYear_iff]
        split <;> omega
      · split <;> omega
  · have he : (yoe + era * 400).fdiv 400 = era := by
      rw [Int.fdiv_eq_ediv_of_nonneg _ (by decide)]
      omega
    by_cases hlt : mp < 10
    · have hm : ¬ mp + 3 ≤ 2 := by omega
      have hm' : ¬ (mp + 3).toNat ≤ 2 := by omega
      have hm'' : (mp + 3).toNat > 2 := by omega
      have hcast : ((mp + 3).toNat : Int) = mp + 3 := Int.toNat_of_nonneg (by omega)
      simp only [daysFromCivil, hlt, if_true, hm, hm', hm'', if_false, he, hcast, Int.add_sub_cancel]
      omega
    · have hm : mp - 9 ≤ 2 := by omega
      have hm' : (mp - 9).toNat ≤ 2 := by omega
      have hm'' : ¬ (mp - 9).toNat > 2 := by omega
      have hcast : ((mp - 9).toNat : Int) = mp - 9 := Int.toNat_of_nonneg (by omega)
      simp only [daysFromCivil, hlt, if_false, hm, hm', hm'', if_true, Int.add_sub_cancel, he, hcast]
      omega

/-- The date of every day is valid, and counting the days to it gives the day back. -/
theorem civilFromDays_spec (z : Int) :
    ValidDate (civilFromDays z).1 (civilFromDays z).2.1 (civilFromDays z).2.2 ∧
      daysFromCivil (civilFromDays z).1 (civilFromDays z).2.1 (civilFromDays z).2.2 = z := by
  have hdiv := Int.fdiv_eq_ediv_of_nonneg (z + 719468) (show (0 : Int) ≤ 146097 by decide)
  obtain ⟨hvalid, hdays⟩ := dateOfEraDay_spec ((z + 719468).fdiv 146097)
    (z + 719468 - (z + 719468).fdiv 146097 * 146097) (by omega) (by omega)
  rw [civilFromDays_eq]
  exact ⟨hvalid, by omega⟩

/-- The days of the calendar's range have dates within its years. -/
theorem civilFromDays_year_mem {z : Int} (h1 : daysFromCivil calendarFirstYear 1 1 ≤ z)
    (h2 : z ≤ daysFromCivil calendarLastYear 12 31) :
    calendarFirstYear ≤ (civilFromDays z).1 ∧ (civilFromDays z).1 ≤ calendarLastYear := by
  have hfirst : daysFromCivil calendarFirstYear 1 1 = -96465292 := by decide
  have hlast : daysFromCivil calendarLastYear 12 31 = 95026236 := by decide
  rw [hfirst] at h1
  rw [hlast] at h2
  rw [civilFromDays_eq]
  have hdiv := Int.fdiv_eq_ediv_of_nonneg (z + 719468) (show (0 : Int) ≤ 146097 by decide)
  generalize hera : (z + 719468).fdiv 146097 = era at hdiv
  have hd0 : 0 ≤ z + 719468 - era * 146097 := by omega
  have hd1 : z + 719468 - era * 146097 ≤ 146096 := by omega
  have hz : z = era * 146097 + (z + 719468 - era * 146097) - 719468 := by omega
  generalize z + 719468 - era * 146097 = doe at *
  obtain ⟨hy0, hy1, hs0, hs1, -⟩ := yearOfEra_spec hd0 hd1
  obtain ⟨hm0, hm1, hms, hme⟩ := monthOfYear_spec (doe - yearStart (yearOfEra doe)) (by omega) (by omega)
  simp only [dateOfEraDay, calendarFirstYear, calendarLastYear]
  generalize monthOfYear (doe - yearStart (yearOfEra doe)) = mp at *
  generalize yearOfEra doe = yoe at *
  unfold monthStart yearStart at *
  have hlo : -656 ≤ era := by omega
  have hhi : era ≤ 655 := by omega
  rcases (show era = -656 ∨ era = 655 ∨ (-655 ≤ era ∧ era ≤ 654) by omega) with rfl | rfl | h
  all_goals split <;> split <;> omega

end NetReconcile.Time
