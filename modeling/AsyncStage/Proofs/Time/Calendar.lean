import AsyncStage.Time.Calendar
import Mathlib.Algebra.Order.Group.Nat

/-!
# Dates and day numbers

`Date.ofDays` gives a date that exists, and `Date.toDays` leads back from it. Years begin in
March here, so a day is the day of a year in a cycle of 400 years, and the only year in which
there are 366 of them is one whose February has a leap day.
-/

namespace AsyncStage.Date

theorem daysInMonth_le (year : Int) (month : Nat) : daysInMonth year month ≤ 31 := by
  unfold daysInMonth
  split
  · split <;> omega
  all_goals omega

/-- Days of a cycle before a year, counted from March. -/
def daysBefore (year : Nat) : Nat := 365 * year + year / 4 - year / 100

/-- The date of a day of a year, counted from March. -/
def ofMarch (cycle : Int) (year day : Nat) : Date :=
  let monthFromMarch := (5 * day + 2) / 153
  let month := if monthFromMarch < 10 then monthFromMarch + 3 else monthFromMarch - 9
  { year := cycle * 400 + year + (if month ≤ 2 then 1 else 0)
    month := month
    day := day - (153 * monthFromMarch + 2) / 5 + 1 }

/-- The day is one of this year, and the last one only if the year has a leap day at its end. -/
structure OfYear (year day : Nat) : Prop where
  year_lt : year < 400
  day_le : day ≤ 365
  leap : day = 365 → (year + 1) % 4 = 0 ∧ ((year + 1) % 100 ≠ 0 ∨ (year + 1) % 400 = 0)

/-- The year that a day of a cycle falls into, if it is not the last day of the cycle: first
the century, then the year. -/
theorem ofYear_of_lt {day century year : Nat} (few : century < 4) (hundred : day / 36524 = century)
    (quotient : year = (day - day / 1460 + century) / 365) :
    daysBefore year ≤ day ∧ OfYear year (day - daysBefore year) := by
  have inCentury : year / 100 = century := by
    obtain rfl | rfl | rfl | rfl : century = 0 ∨ century = 1 ∨ century = 2 ∨ century = 3 := by omega
    all_goals omega
  have bounds : 365 * year ≤ day - day / 1460 + century ∧ day - day / 1460 + century ≤ 365 * year + 364 := by
    omega
  unfold daysBefore
  rw [inCentury]
  obtain rfl | rfl | rfl | rfl : century = 0 ∨ century = 1 ∨ century = 2 ∨ century = 3 := by omega
  all_goals
    refine ⟨by omega, by omega, by omega, fun last => ?_⟩
    have late : year / 4 + 1 ≤ day / 1460 := by omega
    obtain fourth | fourth | fourth | fourth : year % 4 = 0 ∨ year % 4 = 1 ∨ year % 4 = 2 ∨ year % 4 = 3 := by omega
    all_goals omega

/-- The year of a day of a cycle. -/
theorem ofYear_yearOfCycle {day : Nat} (inCycle : day < 146097) {year : Nat}
    (quotient : year = (day - day / 1460 + day / 36524 - day / 146096) / 365) :
    daysBefore year ≤ day ∧ OfYear year (day - daysBefore year) := by
  by_cases last : day = 146096
  · subst last
    subst quotient
    exact ⟨by decide, by decide, by decide, by decide⟩
  · apply ofYear_of_lt (show day / 36524 < 4 by omega) rfl
    rwa [show day / 146096 = 0 by omega, Nat.sub_zero] at quotient

/-- Every day is the day of a year in a cycle. -/
theorem ofDays_eq (days : Int) : ∃ (cycle : Int) (year day : Nat), OfYear year day ∧
    days + cycleStart = cycle * daysPerCycle + (daysBefore year + day : Nat) ∧ ofDays days = ofMarch cycle year day := by
  have inCycle : ((days + cycleStart) % daysPerCycle).toNat < 146097 := by
    simp only [daysPerCycle]
    omega
  have whole : days + cycleStart = (days + cycleStart) / daysPerCycle * daysPerCycle +
      (((days + cycleStart) % daysPerCycle).toNat : Int) := by
    simp only [daysPerCycle]
    omega
  obtain ⟨after, ofYear⟩ := ofYear_yearOfCycle inCycle rfl
  refine ⟨_, _, _, ofYear, ?_, rfl⟩
  rwa [Nat.add_sub_cancel' after]

variable {cycle : Int} {year day : Nat}

theorem toDays_ofMarch (h : OfYear year day) :
    (ofMarch cycle year day).toDays = cycle * daysPerCycle + (daysBefore year + day : Nat) - cycleStart := by
  have year_lt := h.year_lt
  have day_le := h.day_le
  have months : (5 * day + 2) / 153 ≤ 11 := by omega
  have start : (153 * ((5 * day + 2) / 153) + 2) / 5 ≤ day := by omega
  unfold toDays ofMarch daysBefore
  simp only
  generalize (5 * day + 2) / 153 = month at months start
  by_cases winter : month < 10
  · have spring : ¬ month + 3 ≤ 2 := by omega
    simp only [winter, if_true, spring, if_false, Nat.add_sub_cancel]
    rw [show (cycle * 400 + (year : Int) + 0 - 0) / 400 = cycle by omega,
      show ((cycle * 400 + (year : Int) + 0 - 0) % 400).toNat = year by omega]
    omega
  · have spring : month - 9 ≤ 2 := by omega
    simp only [winter, if_false, spring, if_true]
    rw [show (cycle * 400 + (year : Int) + 1 - 1) / 400 = cycle by omega,
      show ((cycle * 400 + (year : Int) + 1 - 1) % 400).toNat = year by omega]
    omega

/-- **Back to the day number.** -/
theorem toDays_ofDays (days : Int) : (ofDays days).toDays = days := by
  obtain ⟨cycle, year, day, ofYear, whole, date⟩ := ofDays_eq days
  rw [date, toDays_ofMarch ofYear, ← whole]
  omega

theorem isValid_ofMarch (h : OfYear year day) : (ofMarch cycle year day).isValid = true := by
  have day_le := h.day_le
  have months : (5 * day + 2) / 153 ≤ 11 := by omega
  have leap : day = 365 → isLeapYear (cycle * 400 + year + 1) = true := by
    intro last
    obtain ⟨fourth, hundredth⟩ := h.leap last
    simp only [isLeapYear, Bool.and_eq_true, Bool.or_eq_true, bne_iff_ne, beq_iff_eq]
    omega
  unfold ofMarch isValid
  simp only [Bool.and_eq_true, decide_eq_true_eq]
  generalize index : (5 * day + 2) / 153 = month at months
  refine ⟨⟨⟨?_, ?_⟩, ?_⟩, ?_⟩
  · split <;> omega
  · split <;> omega
  · omega
  · -- A month is as long as the distance between two of the starting points.
    by_cases february : month = 11
    · subst february
      change _ ≤ if isLeapYear (cycle * 400 + year + 1) = true then 29 else 28
      by_cases last : day = 365
      · rw [if_pos (leap last)]
        omega
      · split <;> omega
    · obtain rfl | rfl | rfl | rfl | rfl | rfl | rfl | rfl | rfl | rfl | rfl : month = 0 ∨ month = 1 ∨
          month = 2 ∨ month = 3 ∨ month = 4 ∨ month = 5 ∨ month = 6 ∨ month = 7 ∨ month = 8 ∨ month = 9 ∨
          month = 10 := by omega
      all_goals first
        | change _ ≤ 30; omega
        | change _ ≤ 31; omega

/-- **The date of a day exists.** -/
theorem isValid_ofDays (days : Int) : (ofDays days).isValid = true := by
  obtain ⟨cycle, year, day, ofYear, -, date⟩ := ofDays_eq days
  rw [date]
  exact isValid_ofMarch ofYear

/-- Days in the range of event times fall into years of at most six digits. -/
theorem natAbs_year_lt {days : Int} (low : -100000000 ≤ days) (high : days ≤ 100000000) :
    (ofDays days).year.natAbs < 10 ^ 6 := by
  obtain ⟨cycle, year, day, ofYear, whole, date⟩ := ofDays_eq days
  have year_lt := ofYear.year_lt
  have day_le := ofYear.day_le
  have next : (ofMarch cycle year day).year ≤ cycle * 400 + year + 1 ∧ cycle * 400 + year ≤ (ofMarch cycle year day).year := by
    simp only [ofMarch]
    split <;> omega
  rw [date]
  simp only [daysPerCycle, cycleStart, daysBefore] at whole
  omega

end AsyncStage.Date
