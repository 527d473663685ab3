import Switchboard.Timestamp

/-!
# The calendar

The days of the proleptic Gregorian calendar repeat every 400 years. Inside such an era a day is
found by its century, its cycle of four years, its year and its day of the year, with years that
start in March, so that the day a leap year has more is the last one. Dates and numbers of days are
then two ways of writing the same four numbers.

## Main results

* `DayOfEra.ofDays_eq` — the date of a day, read off the four numbers.
* `Date.toDays_ofDays` — a number of days is that of its date.
* `Date.ofDays_isProper`, `Date.ofDays_year` — such a date exists, in a year of the right range.
-/

namespace Switchboard.Timestamp

/-- The number of a day within its era, counted from the first of March. -/
structure DayOfEra where
  /-- The full centuries before it. -/
  century : Int
  /-- The full cycles of four years before it in its century. -/
  cycle : Int
  /-- The full years before it in its cycle. -/
  year : Int
  /-- The days before it in its year. -/
  day : Int

/-- The days of an era before one of its years. -/
def yearStart (year : Int) : Int := 365 * year + year / 4 - year / 100

theorem yearStart_lt {a b : Int} (h : a < b) : yearStart a + 365 ≤ yearStart b := by
  simp only [yearStart]
  omega

theorem yearStart_range {year : Int} (hlow : 0 ≤ year) (hhigh : year < 400) :
    0 ≤ yearStart year ∧ yearStart year ≤ 145731 := by
  simp only [yearStart]
  omega

namespace DayOfEra

/-- The ranges of the four numbers. The last day of a leap year comes after four years of a cycle,
and at the end of a century only after four centuries. -/
structure IsProper (d : DayOfEra) : Prop where
  century : 0 ≤ d.century ∧ d.century ≤ 3
  cycle : 0 ≤ d.cycle ∧ d.cycle ≤ 24
  year : 0 ≤ d.year ∧ d.year ≤ 3
  day : 0 ≤ d.day ∧ d.day ≤ 365
  leap : d.day = 365 → d.year = 3 ∧ (d.cycle < 24 ∨ d.century = 3)

/-- The number of the day within the era. -/
def number (d : DayOfEra) : Int :=
  36524 * d.century + 1461 * d.cycle + 365 * d.year + d.day

/-- The number of the year within the era. -/
def yearOfEra (d : DayOfEra) : Int :=
  100 * d.century + 4 * d.cycle + d.year

/-- Every day of an era has its four numbers. -/
theorem exists_number_eq {n : Int} (hlow : 0 ≤ n) (hhigh : n < 146097) :
    ∃ d : DayOfEra, d.IsProper ∧ d.number = n := by
  obtain ⟨century, hcentury, hrest⟩ :
      ∃ c : Int, (0 ≤ c ∧ c ≤ 3) ∧ 0 ≤ n - 36524 * c ∧ n - 36524 * c ≤ 36524 ∧
        (c < 3 → n - 36524 * c < 36524) :=
    ⟨min (n / 36524) 3, by omega, by omega, by omega, by omega⟩
  obtain ⟨year, hyear, hday⟩ :
      ∃ y : Int, (0 ≤ y ∧ y ≤ 3) ∧ 0 ≤ (n - 36524 * century) % 1461 - 365 * y ∧
        (n - 36524 * century) % 1461 - 365 * y ≤ 365 ∧
        (y < 3 → (n - 36524 * century) % 1461 - 365 * y < 365) :=
    ⟨min ((n - 36524 * century) % 1461 / 365) 3, by omega, by omega, by omega, by omega⟩
  refine ⟨⟨century, (n - 36524 * century) / 1461, year,
    (n - 36524 * century) % 1461 - 365 * year⟩, ⟨hcentury, ?_, hyear, ?_, ?_⟩, ?_⟩
  · constructor <;> dsimp only <;> omega
  · exact ⟨hday.1, hday.2.1⟩
  · intro hleap
    dsimp only at hleap ⊢
    omega
  · simp only [number]
    omega

section

variable {d : DayOfEra}

/-- The year of the era is found by taking the leap days out of the number of the day. -/
theorem IsProper.year_of_number (h : d.IsProper) :
    (d.number - d.number / 1460 + d.number / 36524 - d.number / 146096) / 365 = d.yearOfEra := by
  obtain ⟨hcentury, hcycle, hyear, hday, hleap⟩ := h
  have hcenturies : d.number / 36524 - d.number / 146096 = d.century := by
    -- Only the last day of an era seems to belong to a century after the fourth.
    by_cases hlast : d.number = 146096
    · have hfourth : d.century = 3 := by
        simp only [number] at hlast
        omega
      rw [hlast, hfourth]
      rfl
    · have hrest : 0 ≤ d.number - 36524 * d.century ∧ d.number - 36524 * d.century < 36524 := by
        simp only [number] at hlast ⊢
        omega
      omega
  have hcycles : d.number / 1460 = 25 * d.century + d.cycle ∨
      d.number / 1460 = 25 * d.century + d.cycle + 1 := by
    simp only [number]
    omega
  have hwithin : 0 ≤ d.day - (d.number / 1460 - (25 * d.century + d.cycle)) ∧
      d.day - (d.number / 1460 - (25 * d.century + d.cycle)) < 365 := by
    simp only [number] at hcycles ⊢
    omega
  have hsplit : d.number - d.number / 1460 + d.number / 36524 - d.number / 146096 =
      365 * d.yearOfEra + (d.day - (d.number / 1460 - (25 * d.century + d.cycle))) := by
    simp only [yearOfEra]
    simp only [number] at hcenturies ⊢
    omega
  rw [hsplit]
  omega

theorem IsProper.number_eq (h : d.IsProper) : d.number = yearStart d.yearOfEra + d.day := by
  obtain ⟨hcentury, hcycle, hyear, -, -⟩ := h
  simp only [number, yearOfEra, yearStart]
  omega

theorem IsProper.yearOfEra_range (h : d.IsProper) : 0 ≤ d.yearOfEra ∧ d.yearOfEra < 400 := by
  obtain ⟨hcentury, hcycle, hyear, -, -⟩ := h
  simp only [yearOfEra]
  omega

/-- The full months before the day in its year. -/
def month (d : DayOfEra) : Int := (5 * d.day + 2) / 153

/-- The date of a day in an era: January and February belong to the next year of the calendar. -/
def date (d : DayOfEra) (era : Int) : Date where
  year := if d.month < 10 then d.yearOfEra + era * 400 else d.yearOfEra + era * 400 + 1
  month := (if d.month < 10 then d.month + 3 else d.month - 9).toNat
  day := (d.day - (153 * d.month + 2) / 5 + 1).toNat

theorem ofDays_eq (h : d.IsProper) (era : Int) :
    Date.ofDays (era * 146097 + d.number - 719468) = d.date era := by
  have hnumber : 0 ≤ d.number ∧ d.number < 146097 := by
    obtain ⟨hcentury, hcycle, hyear, hday, hleap⟩ := h
    simp only [number]
    omega
  have hera : (era * 146097 + d.number - 719468 + 719468) / 146097 = era := by omega
  have hwithin : (era * 146097 + d.number - 719468 + 719468) % 146097 = d.number := by omega
  have hday : d.number - (365 * d.yearOfEra + d.yearOfEra / 4 - d.yearOfEra / 100) = d.day := by
    have hnumber := h.number_eq
    simp only [yearStart] at hnumber
    omega
  obtain ⟨hlow, hhigh⟩ := h.day
  simp only [Date.ofDays, hera, hwithin, h.year_of_number, hday]
  simp only [date, month]
  congr 1
  split <;> split <;> omega

theorem toDays_date (h : d.IsProper) (era : Int) :
    (d.date era).toDays = era * 146097 + d.number - 719468 := by
  obtain ⟨hlow, hhigh⟩ := h.day
  have hmonth : 0 ≤ d.month ∧ d.month ≤ 11 := by
    simp only [month]
    omega
  have hfirst : 0 ≤ d.day - (153 * d.month + 2) / 5 := by
    simp only [month]
    omega
  have hyear : (if (d.date era).month ≤ 2 then (d.date era).year - 1 else (d.date era).year) =
      d.yearOfEra + era * 400 := by
    simp only [date]
    split <;> split <;> omega
  have hback : (((d.date era).month : Int) + 9) % 12 = d.month := by
    simp only [date]
    split <;> omega
  have hdays : ((d.date era).day : Int) = d.day - (153 * d.month + 2) / 5 + 1 := by
    simp only [date]
    omega
  have hera : (d.yearOfEra + era * 400) / 400 = era := by
    have := h.yearOfEra_range
    omega
  have hwithin : (d.yearOfEra + era * 400) % 400 = d.yearOfEra := by
    have := h.yearOfEra_range
    omega
  have hnumber := h.number_eq
  simp only [yearStart] at hnumber
  simp only [Date.toDays, hyear, hback, hdays, hera, hwithin]
  omega

/-- The day that only a leap year has. -/
theorem IsProper.isLeap (h : d.IsProper) (hday : d.day = 365) (era : Int) :
    Timestamp.isLeap (d.yearOfEra + era * 400 + 1) = true := by
  obtain ⟨hyear, hlast⟩ := h.leap hday
  obtain ⟨hcentury, hcycle, -, -, -⟩ := h
  simp only [Timestamp.isLeap, yearOfEra, hyear, Bool.and_eq_true, Bool.or_eq_true,
    decide_eq_true_eq]
  omega

end

end DayOfEra

/-- A date that the calendar has. -/
structure Date.IsProper (date : Date) : Prop where
  month : 1 ≤ date.month ∧ date.month ≤ 12
  day : 1 ≤ date.day ∧ date.day ≤ monthLength date.year date.month

theorem DayOfEra.date_isProper {d : DayOfEra} (h : d.IsProper) (era : Int) :
    (d.date era).IsProper := by
  obtain ⟨hlow, hhigh⟩ := h.day
  have hmonths : d.month = (5 * d.day + 2) / 153 := rfl
  refine ⟨?_, ?_, ?_⟩
  · simp only [date]
    split <;> omega
  · simp only [date]
    omega
  · by_cases hfebruary : d.month = 11
    · have hdate : d.date era = ⟨d.yearOfEra + era * 400 + 1, 2, (d.day - 336).toNat⟩ := by
        simp only [date, hfebruary]
        congr 1
        omega
      rw [hdate]
      show (d.day - 336).toNat ≤ if Timestamp.isLeap _ = true then 29 else 28
      by_cases hlast : d.day = 365
      · rw [h.isLeap hlast, if_pos rfl]
        omega
      · split <;> omega
    · simp only [date, monthLength]
      (repeat' split) <;> omega

namespace Date

/-- Every number of days is that of a day in an era. -/
theorem exists_dayOfEra (days : Int) :
    ∃ (d : DayOfEra) (era : Int), d.IsProper ∧ days = era * 146097 + d.number - 719468 := by
  obtain ⟨d, hproper, hnumber⟩ := DayOfEra.exists_number_eq
    (Int.emod_nonneg (days + 719468) (by decide : (146097 : Int) ≠ 0))
    (Int.emod_lt_of_pos (days + 719468) (by decide : (0 : Int) < 146097))
  refine ⟨d, (days + 719468) / 146097, hproper, ?_⟩
  omega

theorem toDays_ofDays (days : Int) : (ofDays days).toDays = days := by
  obtain ⟨d, era, hproper, rfl⟩ := exists_dayOfEra days
  rw [DayOfEra.ofDays_eq hproper, DayOfEra.toDays_date hproper]

theorem ofDays_isProper (days : Int) : (ofDays days).IsProper := by
  obtain ⟨d, era, hproper, rfl⟩ := exists_dayOfEra days
  rw [DayOfEra.ofDays_eq hproper]
  exact DayOfEra.date_isProper hproper era

/-- The first of January of a year, by the era and the year of the era it falls in. -/
theorem toDays_january (year : Int) :
    toDays ⟨year, 1, 1⟩ =
      (year - 1) / 400 * 146097 + (yearStart ((year - 1) % 400) + 306) - 719468 := by
  have hyear : (if 1 ≤ 2 then year - 1 else year) = year - 1 := if_pos (by decide)
  simp only [toDays, hyear, yearStart]
  omega

/-- A year begins with its first of January. -/
theorem january_le_iff (year days : Int) :
    toDays ⟨year, 1, 1⟩ ≤ days ↔ year ≤ (ofDays days).year := by
  obtain ⟨d, era, hproper, rfl⟩ := exists_dayOfEra days
  have hday := hproper.day
  have hyear : (d.date era).year = d.yearOfEra + era * 400 + if d.day < 306 then 0 else 1 := by
    have hmonth : d.month < 10 ↔ d.day < 306 := by
      simp only [DayOfEra.month]
      omega
    simp only [DayOfEra.date, hmonth]
    split <;> omega
  obtain ⟨hlow, hhigh⟩ := hproper.yearOfEra_range
  have hstart := yearStart_range hlow hhigh
  have hother := yearStart_range (Int.emod_nonneg (year - 1) (by decide : (400 : Int) ≠ 0))
    (Int.emod_lt_of_pos (year - 1) (by decide : (0 : Int) < 400))
  have hsplit : year = (year - 1) % 400 + (year - 1) / 400 * 400 + 1 := by omega
  rw [DayOfEra.ofDays_eq hproper, toDays_january, hproper.number_eq, hyear]
  -- The year of the era decides within one era, and the day of the year within one year.
  obtain hless | hsame | hmore := Int.lt_trichotomy ((year - 1) % 400) d.yearOfEra
  · have hstep := yearStart_lt hless
    split <;> omega
  · rw [hsame] at hsplit ⊢
    split <;> omega
  · have hstep := yearStart_lt hmore
    split <;> omega

/-- The days of a range of years have their dates in these years. -/
theorem ofDays_year {days first last : Int} (hfirst : toDays ⟨first, 1, 1⟩ ≤ days)
    (hlast : days < toDays ⟨last + 1, 1, 1⟩) :
    first ≤ (ofDays days).year ∧ (ofDays days).year ≤ last := by
  have hafter := mt (january_le_iff (last + 1) days).mpr (Int.not_le.mpr hlast)
  exact ⟨(january_le_iff first days).mp hfirst, Int.le_of_lt_add_one (Int.not_le.mp hafter)⟩

end Date

end Switchboard.Timestamp
