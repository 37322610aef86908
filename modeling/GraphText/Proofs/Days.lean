-- Days of the calendar: every count of days names a day that counts back to it. The
-- proof follows the eras of 400 years, the years of an era and the months of a year.
import GraphText.Instant.Basic

namespace GraphText.Date

/-- The day of an era lies within the year that the division by 365 finds. The first
three centuries of an era are alike, and the last has a day more at its end. -/
theorem ofEra_bounds {day year : Int} (low : 0 ≤ day) (high : day < 146097)
    (h : year = (day - day / 1460 + day / 36524 - day / 146096) / 365) :
    0 ≤ year ∧ year < 400 ∧ 365 * year + year / 4 - year / 100 ≤ day ∧
      day ≤ 365 * year + year / 4 - year / 100 + 365 := by
  have century : day / 36524 = 0 ∨ day / 36524 = 1 ∨ day / 36524 = 2 ∨ day / 36524 = 3 ∨
      day = 146096 := by omega
  rcases century with c | c | c | c | rfl
  · have : year / 100 = 0 := by omega
    omega
  · have : year / 100 = 1 := by omega
    omega
  · have : year / 100 = 2 := by omega
    omega
  · have : year / 100 = 3 := by omega
    omega
  · subst h
    decide

/-- The day of a year lies within the month that the division by 153 finds. -/
theorem ofYear_bounds {day month : Int} (low : 0 ≤ day) (high : day ≤ 365)
    (h : month = (5 * day + 2) / 153) :
    0 ≤ month ∧ month ≤ 11 ∧ (153 * month + 2) / 5 ≤ day ∧ day < (153 * month + 2) / 5 + 31 := by
  omega

/-- What a count of days is made of: an era, a year of the era and a day of the year. -/
theorem exists_ofDays (n : Int) : ∃ era year day month : Int,
    n + 719468 = era * 146097 + (365 * year + year / 4 - year / 100 + day) ∧
    0 ≤ year ∧ year < 400 ∧ 0 ≤ month ∧ month ≤ 11 ∧
    (153 * month + 2) / 5 ≤ day ∧ day < (153 * month + 2) / 5 + 31 ∧
    ofDays n = ⟨if month < 10 then year + era * 400 else year + era * 400 + 1,
      if month < 10 then month + 3 else month - 9, day - (153 * month + 2) / 5 + 1⟩ := by
  obtain ⟨ofEra, hofEra⟩ : ∃ d, d = (n + 719468) % 146097 := ⟨_, rfl⟩
  obtain ⟨year, hyear⟩ :
      ∃ y, y = (ofEra - ofEra / 1460 + ofEra / 36524 - ofEra / 146096) / 365 := ⟨_, rfl⟩
  obtain ⟨day, hday⟩ : ∃ d, d = ofEra - (365 * year + year / 4 - year / 100) := ⟨_, rfl⟩
  obtain ⟨month, hmonth⟩ : ∃ m, m = (5 * day + 2) / 153 := ⟨_, rfl⟩
  obtain ⟨yearLow, yearHigh, dayLow, dayHigh⟩ := ofEra_bounds (by omega) (by omega) hyear
  obtain ⟨monthLow, monthHigh, low, high⟩ := ofYear_bounds (by omega) (by omega) hmonth
  refine ⟨(n + 719468) / 146097, year, day, month, by omega, yearLow, yearHigh, monthLow,
    monthHigh, low, high, ?_⟩
  simp only [ofDays, ← hofEra, ← hyear, ← hday, ← hmonth]

/-- Every count of days is that of the day it names. -/
theorem toDays_ofDays (n : Int) : (ofDays n).toDays = n := by
  obtain ⟨era, year, day, month, count, yearLow, yearHigh, monthLow, monthHigh, low, high, eq⟩ :=
    exists_ofDays n
  rw [eq]
  by_cases late : month < 10
  · simp only [toDays, late, if_true]
    have m : (month + 3 + 9) % 12 = month := by omega
    have y1 : (year + era * 400) % 400 = year := by omega
    have y2 : (year + era * 400) / 400 = era := by omega
    rw [if_neg (by omega), m, y1, y2]
    omega
  · simp only [toDays, late, if_false]
    have m : (month - 9 + 9) % 12 = month := by omega
    have y : year + era * 400 + 1 - 1 = year + era * 400 := by omega
    have y1 : (year + era * 400) % 400 = year := by omega
    have y2 : (year + era * 400) / 400 = era := by omega
    rw [if_pos (by omega), m, y, y1, y2]
    omega

theorem stands_ofDays (n : Int) : (ofDays n).Stands := by
  rw [Stands, toDays_ofDays]

theorem month_ofDays (n : Int) : 1 ≤ (ofDays n).month ∧ (ofDays n).month ≤ 12 := by
  obtain ⟨era, year, day, month, -, -, -, low, high, -, -, eq⟩ := exists_ofDays n
  rw [eq]
  dsimp only
  split <;> omega

theorem day_ofDays (n : Int) : 1 ≤ (ofDays n).day ∧ (ofDays n).day ≤ 31 := by
  obtain ⟨era, year, day, month, -, -, -, -, -, low, high, eq⟩ := exists_ofDays n
  rw [eq]
  dsimp only
  omega

end GraphText.Date
