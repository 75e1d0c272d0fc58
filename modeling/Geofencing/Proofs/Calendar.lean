import Geofencing.Instant.Calendar
import Mathlib.Tactic.IntervalCases

/-!
# Day counts and dates

The calendar repeats itself after an era of 400 years. Within an era a day is found by centuries,
cycles of four years, single years and days (`Date.InEra`), of which only the last ones may be a day
longer than the others. The year that is computed from a day count is the one found in this way, so
every day count has a date that exists and that has this day count: `Date.exists_ofDays` and
`Date.toDays_ofDays`.
-/

namespace Geofencing.Date

/-! ## Years of an era -/

/-- Where a day of an era lies: after some centuries, some cycles of four years, some single years
and some days. Years start with March, so a leap day is the day 365 of its year. -/
structure InEra (day centuries cycles years rest : Int) : Prop where
  centuries_le : 0 ≤ centuries ∧ centuries ≤ 3
  cycles_le : 0 ≤ cycles ∧ cycles ≤ 24
  years_le : 0 ≤ years ∧ years ≤ 3
  rest_le : 0 ≤ rest ∧ rest ≤ 365
  /-- A year has one more day if it is the last of four and ends none of the first three
  centuries. -/
  leap : rest = 365 → years = 3 ∧ (cycles < 24 ∨ centuries = 3)
  day_eq : day = 36524 * centuries + 1461 * cycles + 365 * years + rest

theorem exists_inEra {day : Int} (hstart : 0 ≤ day) (hend : day < 146097) :
    ∃ centuries cycles years rest, InEra day centuries cycles years rest := by
  -- The last century of an era and the last year of a cycle have a day more than the division
  -- allows for, which would otherwise count as the first day of a fifth one.
  obtain ⟨c, hc⟩ : ∃ c, c = min (day / 36524) 3 := ⟨_, rfl⟩
  obtain ⟨q, hq⟩ : ∃ q, q = (day - 36524 * c) / 1461 := ⟨_, rfl⟩
  obtain ⟨y, hy⟩ : ∃ y, y = min ((day - 36524 * c - 1461 * q) / 365) 3 := ⟨_, rfl⟩
  have hcentury : 0 ≤ c ∧ c ≤ 3 ∧ 0 ≤ day - 36524 * c ∧ day - 36524 * c ≤ 36524 ∧
      (day - 36524 * c = 36524 → c = 3) := by omega
  have hcycle : 0 ≤ q ∧ q ≤ 24 ∧ 0 ≤ day - 36524 * c - 1461 * q ∧
      day - 36524 * c - 1461 * q ≤ 1460 := by omega
  refine ⟨c, q, y, day - 36524 * c - 1461 * q - 365 * y, ?_⟩
  constructor <;> omega

/-- The year of an era that is computed for a day of it. -/
def yearOfEra (day : Int) : Int :=
  (day - day / 1460 + day / 36524 - day / 146096) / 365

section InEra

variable {day centuries cycles years rest : Int}

/-- The divisions find the year in which the day lies. -/
theorem InEra.yearOfEra_eq (h : InEra day centuries cycles years rest) :
    yearOfEra day = 100 * centuries + 4 * cycles + years := by
  obtain ⟨hc, hq, hy, hd, hleap, hday⟩ := h
  -- Only the very last day of an era lies a whole number of centuries after its first one.
  have hlast : day = 146096 ∧ centuries = 3 ∨
      day < 146096 ∧ day - 36524 * centuries < 36524 := by omega
  have hcenturies : day / 36524 - day / 146096 = centuries := by
    rcases hlast with ⟨rfl, rfl⟩ | ⟨hbefore, hwithin⟩
    · rfl
    · omega
  -- Where the quotient by 1460 is already that of the next cycle, it makes up for a leap day.
  have hcycles : day / 1460 = 25 * centuries + cycles +
      if 1460 ≤ 24 * centuries + cycles + 365 * years + rest then 1 else 0 := by
    split <;> omega
  rw [yearOfEra, Int.add_sub_assoc, hcenturies, hcycles]
  split <;> omega

/-- What remains of a day count is the day of the year. -/
theorem InEra.dayOfYear_eq (h : InEra day centuries cycles years rest) :
    day - (365 * yearOfEra day + yearOfEra day / 4 - yearOfEra day / 100) = rest := by
  rw [h.yearOfEra_eq]
  obtain ⟨hc, hq, hy, hd, -, rfl⟩ := h
  omega

/-- A year with a day 365 is followed by the first months of a leap year. -/
theorem InEra.isLeap (h : InEra day centuries cycles years rest) (hrest : rest = 365) (era : Int) :
    isLeap (100 * centuries + 4 * cycles + years + era * 400 + 1) = true := by
  obtain ⟨hc, hq, hy, hd, hleap, -⟩ := h
  obtain ⟨rfl, hcycles⟩ := hleap hrest
  simp [Date.isLeap]
  omega

end InEra

/-! ## Months and days -/

/-- The date of a day of a year that starts with March. -/
def ofDayOfYear (year day : Int) : Date :=
  let month := (5 * day + 2) / 153
  let civilMonth := if month < 10 then month + 3 else month - 9
  { year := year + (if civilMonth ≤ 2 then 1 else 0)
    month := civilMonth.toNat
    day := (day - (153 * month + 2) / 5 + 1).toNat }

section DayOfYear

variable {year day : Int}

/-- The months of a year that starts with March are counted from 0 to 11. -/
theorem exists_month (hday : 0 ≤ day ∧ day ≤ 365) :
    ∃ month : Nat, (5 * day + 2) / 153 = month ∧ month < 12 :=
  ⟨((5 * day + 2) / 153).toNat, by omega, by omega⟩

theorem toDays_ofDayOfYear (hday : 0 ≤ day ∧ day ≤ 365) :
    (ofDayOfYear year day).toDays = year / 400 * 146097 +
      (year % 400 * 365 + year % 400 / 4 - year % 400 / 100 + day) - 719468 := by
  obtain ⟨m, hm, hlt⟩ := exists_month hday
  have hrest : ((day - (153 * (m : Int) + 2) / 5 + 1).toNat : Int) =
      day - (153 * m + 2) / 5 + 1 := by omega
  rw [ofDayOfYear, hm]
  -- From January on the civil year is the next one, which is taken back when days are counted.
  by_cases hcivil : m < 10
  · have hmonth : ((m : Int) + 3).toNat - 3 = m := by omega
    rw [if_pos (by omega : (m : Int) < 10), if_neg (by omega)]
    simp only [toDays, hrest, daysBefore]
    rw [if_neg (by omega), if_neg (by omega), hmonth]
    omega
  · have hmonth : ((m : Int) - 9).toNat + 9 = m := by omega
    rw [if_neg (by omega : ¬(m : Int) < 10), if_pos (by omega)]
    simp only [toDays, hrest, daysBefore]
    rw [if_pos (by omega), if_pos (by omega), hmonth]
    omega

theorem exists_ofDayOfYear (hday : 0 ≤ day ∧ day ≤ 365)
    (hleap : day = 365 → isLeap (year + 1) = true) : (ofDayOfYear year day).exists? = true := by
  obtain ⟨m, hm, hlt⟩ := exists_month hday
  simp only [ofDayOfYear, hm, exists?, Bool.and_eq_true, decide_eq_true_eq]
  by_cases hfebruary : m = 11
  · subst hfebruary
    have hlength : monthLength (year + 1) 2 = if isLeap (year + 1) then 29 else 28 := rfl
    -- Day 365 is the leap day, and all days before it are in every February.
    by_cases hlast : day = 365
    · rw [hleap hlast] at hlength
      simp [hlength]
      omega
    · simp [hlength]
      split <;> omega
  · interval_cases m <;> simp [monthLength] <;> omega

end DayOfYear

/-! ## Dates of day counts -/

/-- A day count has a year and a day of that year. -/
theorem exists_dayOfYear (days : Int) : ∃ year day, ofDays days = ofDayOfYear year day ∧
    (0 ≤ day ∧ day ≤ 365) ∧ (day = 365 → isLeap (year + 1) = true) ∧
    days = year / 400 * 146097 +
      (year % 400 * 365 + year % 400 / 4 - year % 400 / 100 + day) - 719468 := by
  let n := (days + 719468) % 146097
  let era := (days + 719468) / 146097
  have hn : 0 ≤ n ∧ n < 146097 := by omega
  obtain ⟨c, q, y, d, h⟩ := exists_inEra hn.1 hn.2
  -- The formula for the year of the era finds the year that the day lies in.
  have hyear : yearOfEra n = 100 * c + 4 * q + y := h.yearOfEra_eq
  have hday : n - (365 * yearOfEra n + yearOfEra n / 4 - yearOfEra n / 100) = d := h.dayOfYear_eq
  have hbound : 0 ≤ yearOfEra n ∧ yearOfEra n < 400 := by
    obtain ⟨hc, hq, hy, -⟩ := h
    omega
  have hdiv : (yearOfEra n + era * 400) / 400 = era := by omega
  have hmod : (yearOfEra n + era * 400) % 400 = yearOfEra n := by omega
  refine ⟨yearOfEra n + era * 400, d, ?_, h.rest_le, fun hd => ?_, ?_⟩
  · rw [← hday]
    rfl
  · rw [hyear]
    exact h.isLeap hd era
  · rw [hdiv, hmod]
    omega

/-- The date of a day count has this day count. -/
theorem toDays_ofDays (days : Int) : (ofDays days).toDays = days := by
  obtain ⟨year, day, heq, hday, -, hdays⟩ := exists_dayOfYear days
  rw [heq, toDays_ofDayOfYear hday, ← hdays]

/-- The date of a day count exists. -/
theorem exists_ofDays (days : Int) : (ofDays days).exists? = true := by
  obtain ⟨year, day, heq, hday, hleap, -⟩ := exists_dayOfYear days
  rw [heq, exists_ofDayOfYear hday hleap]

theorem bounds_of_exists {d : Date} (h : d.exists? = true) : d.month ≤ 12 ∧ d.day ≤ 31 := by
  simp only [exists?, Bool.and_eq_true, decide_eq_true_eq] at h
  have hlength : monthLength d.year d.month ≤ 31 := by
    rw [monthLength]
    repeat' split
    all_goals decide
  omega

end Geofencing.Date
