import HyperSchema.Calendar.Moment
import Mathlib.Tactic.IntervalCases

namespace HyperSchema.Calendar

/-- The days of an era before the year of this number in it. The years begin in March. -/
def yearStart (year : Int) : Int := 365 * year + year / 4 - year / 100

/-- By centuries, cycles of four years and years. -/
theorem yearStart_eq (century : Int) {cycle year : Int} (hcycle : 0 ≤ cycle ∧ cycle ≤ 24)
    (hyear : 0 ≤ year ∧ year ≤ 3) :
    yearStart (100 * century + 4 * cycle + year) = 36524 * century + 1461 * cycle + 365 * year := by
  have hcycles : (100 * century + 4 * cycle + year) / 4 = 25 * century + cycle := by omega
  have hcenturies : (100 * century + 4 * cycle + year) / 100 = century := by omega
  rw [yearStart, hcycles, hcenturies]
  omega

theorem yearStart_succ (year : Int) : yearStart (year + 1) =
    yearStart year + if (year + 1) % 4 = 0 ∧ (year + 1) % 100 ≠ 0 then 366 else 365 := by
  unfold yearStart
  split <;> omega

/-- A day of an era belongs to the last year that has begun by then. -/
theorem exists_yearOfEra {day : Int} (hday : 0 ≤ day) (hera : day < 146097) :
    ∃ year, (day - day / 1460 + day / 36524 - day / 146096) / 365 = year ∧
      0 ≤ year ∧ year ≤ 399 ∧ yearStart year ≤ day ∧ (day < yearStart (year + 1) ∨ year = 399) := by
  by_cases hlast : day = 146096
  · subst hlast
    exact ⟨399, by decide⟩
  obtain ⟨century, cycle, rest, hsum, hcentury, hcycle, hrest, hshort⟩ :
      ∃ century cycle rest : Int, day = 36524 * century + 1461 * cycle + rest ∧
        (0 ≤ century ∧ century ≤ 3) ∧ (0 ≤ cycle ∧ cycle ≤ 24) ∧ (0 ≤ rest ∧ rest ≤ 1460) ∧
        (cycle = 24 → rest ≤ 1459) :=
    ⟨day / 36524, day % 36524 / 1461, day % 36524 % 1461, by omega⟩
  have hcenturies : day / 36524 = century := by omega
  have hcycles : day / 1460 = 25 * century + cycle + (24 * century + cycle + rest) / 1460 := by
    omega
  have heras : day / 146096 = 0 := by omega
  obtain ⟨year, hyear⟩ : ∃ year, (rest - (24 * century + cycle + rest) / 1460) / 365 = year :=
    ⟨_, rfl⟩
  have hbounds : 0 ≤ year ∧ year ≤ 3 := by omega
  have hbegun : 365 * year ≤ rest := by omega
  have hended : rest < 365 * (year + 1) ∨ year = 3 ∧ rest = 1460 := by omega
  have hstart := yearStart_eq century hcycle hbounds
  refine ⟨100 * century + 4 * cycle + year, ?_, ?_, ?_, ?_, .inl ?_⟩
  · rw [hcenturies, hcycles, heras, hsum, ← hyear]
    omega
  · omega
  · omega
  · omega
  · rw [yearStart_succ, hstart]
    split <;> omega

/-- The parts that a date is put together from: an era, a year in it, a day of that year and the
month of the day, all counted from zero and from March on. -/
structure IsDate (days era year day month : Int) : Prop where
  days_eq : days + 719468 = era * 146097 + yearStart year + day
  year_range : 0 ≤ year ∧ year ≤ 399
  day_range : 0 ≤ day ∧ day ≤ 365
  leap : day = 365 → (year + 1) % 4 = 0 ∧ ((year + 1) % 100 = 0 → year = 399)
  month_range : 0 ≤ month ∧ month ≤ 11
  month_begun : (153 * month + 2) / 5 ≤ day
  month_ended : day < (153 * (month + 1) + 2) / 5
  date : Date.ofDays days = {
    year := if month < 10 then year + era * 400 else year + era * 400 + 1
    month := (if month < 10 then month + 3 else month - 9).toNat
    day := (day - (153 * month + 2) / 5 + 1).toNat }

theorem exists_isDate (days : Int) : ∃ era year day month, IsDate days era year day month := by
  have hdays : 0 ≤ (days + 719468) % 146097 ∧ (days + 719468) % 146097 < 146097 := by omega
  obtain ⟨year, hyear, hlow, hhigh, hbegun, hended⟩ := exists_yearOfEra hdays.1 hdays.2
  obtain ⟨day, hday⟩ : ∃ day, (days + 719468) % 146097 - yearStart year = day := ⟨_, rfl⟩
  obtain ⟨month, hmonth⟩ : ∃ month, (5 * day + 2) / 153 = month := ⟨_, rfl⟩
  have hlength : day ≤ 365 ∧
      (day = 365 → (year + 1) % 4 = 0 ∧ ((year + 1) % 100 = 0 → year = 399)) := by
    obtain hended | rfl := hended
    · rw [yearStart_succ] at hended
      split at hended <;> omega
    · have hlast : yearStart 399 = 145731 := by decide
      omega
  refine ⟨(days + 719468) / 146097, year, day, month, ?_⟩
  exact {
    days_eq := by omega
    year_range := ⟨hlow, hhigh⟩
    day_range := ⟨by omega, hlength.1⟩
    leap := hlength.2
    month_range := by omega
    month_begun := by omega
    month_ended := by omega
    date := by
      have hstart : 365 * year + year / 4 - year / 100 = yearStart year := rfl
      simp only [Date.ofDays, hyear, hstart, hday, hmonth]
      by_cases hspring : month < 10
      · have hlate : ¬month + 3 ≤ 2 := by omega
        simp only [if_pos hspring, if_neg hlate]
      · have hearly : month - 9 ≤ 2 := by omega
        simp only [if_neg hspring, if_pos hearly] }

theorem isLeapYear_iff {year : Int} :
    isLeapYear year = true ↔ year % 4 = 0 ∧ (year % 100 = 0 → year % 400 = 0) := by
  simp only [isLeapYear, Bool.and_eq_true, Bool.or_eq_true, beq_iff_eq, bne_iff_ne]
  tauto

namespace IsDate

variable {days era year day month : Int}

theorem toDays_eq (h : IsDate days era year day month) : (Date.ofDays days).toDays = days := by
  obtain ⟨hdays, hyear, hday, -, hmonth, hbegun, -, hdate⟩ := h
  have hera : (year + era * 400) / 400 = era := by omega
  have hyearOfEra : (year + era * 400) % 400 = year := by omega
  have hstart : year * 365 + year / 4 - year / 100 = yearStart year := by
    unfold yearStart
    omega
  rw [hdate, Date.toDays]
  by_cases hspring : month < 10
  · have hlate : ¬(month + 3).toNat ≤ 2 := by omega
    simp only [if_pos hspring, if_neg hlate, hera, hyearOfEra, hstart]
    omega
  · have hearly : (month - 9).toNat ≤ 2 := by omega
    have hback : year + era * 400 + 1 - 1 = year + era * 400 := by omega
    simp only [if_neg hspring, if_pos hearly, hback, hera, hyearOfEra, hstart]
    omega

/-- February has its last day in leap years only. -/
theorem daysInMonth_le (h : IsDate days era year day month) :
    (Date.ofDays days).day ≤ daysInMonth (Date.ofDays days).year (Date.ofDays days).month := by
  obtain ⟨-, hyear, hday, hleap, ⟨hlow, hhigh⟩, hbegun, hended, hdate⟩ := h
  rw [hdate]
  by_cases hfebruary : month = 11
  · subst hfebruary
    have hlength : daysInMonth (year + era * 400 + 1) 2 = 29 ∨ day ≠ 365 := by
      by_cases hlast : day = 365
      · have hyear : isLeapYear (year + era * 400 + 1) = true := by
          rw [isLeapYear_iff]
          omega
        exact .inl (by rw [daysInMonth, if_pos rfl, if_pos hyear])
      · exact .inr hlast
    have hleast : 28 ≤ daysInMonth (year + era * 400 + 1) 2 := by
      unfold daysInMonth
      split <;> split <;> omega
    change (day - (153 * 11 + 2) / 5 + 1).toNat ≤ daysInMonth (year + era * 400 + 1) 2
    omega
  · interval_cases month <;> simp [daysInMonth] <;> omega

theorem isValid (h : IsDate days era year day month) (hfirst : firstYear ≤ (Date.ofDays days).year)
    (hlast : (Date.ofDays days).year ≤ lastYear) : (Date.ofDays days).isValid = true := by
  have hlength := h.daysInMonth_le
  obtain ⟨-, -, -, -, hmonth, hbegun, -, hdate⟩ := h
  have hparts : 1 ≤ (Date.ofDays days).month ∧ (Date.ofDays days).month ≤ 12 ∧
      1 ≤ (Date.ofDays days).day := by
    rw [hdate]
    by_cases hspring : month < 10
    · simp only [if_pos hspring]
      omega
    · simp only [if_neg hspring]
      omega
  simp only [Date.isValid, hfirst, hlast, hparts, hlength, decide_true, Bool.and_self]

end IsDate

theorem Date.toDays_ofDays (days : Int) : (Date.ofDays days).toDays = days := by
  obtain ⟨era, year, day, month, hdate⟩ := exists_isDate days
  exact hdate.toDays_eq

theorem Date.isValid_ofDays {days : Int} (hfirst : firstYear ≤ (Date.ofDays days).year)
    (hlast : (Date.ofDays days).year ≤ lastYear) : (Date.ofDays days).isValid = true := by
  obtain ⟨era, year, day, month, hdate⟩ := exists_isDate days
  exact hdate.isValid hfirst hlast

end HyperSchema.Calendar
