import Mathlib.Data.Int.Basic

namespace Sake.Lib.Calendar

variable {doe mp : Int}

/-- A date of the proleptic Gregorian calendar. -/
structure Date where
  year : Int
  month : Int
  day : Int
deriving Repr, DecidableEq

/-- The days from 1 March of the first year of a 400-year era to 1 March of its year `yoe`. -/
def yearStart (yoe : Int) : Int := 365 * yoe + yoe / 4 - yoe / 100

/-- The days from 1 March to the first day of the `mp`-th month after March. -/
def monthStart (mp : Int) : Int := (153 * mp + 2) / 5

/-- The number of a day in a year that begins in March, where the leap day comes last. -/
def marchNumber (y mp d : Int) : Int :=
  y / 400 * 146097 + yearStart (y % 400) + monthStart mp + (d - 1) - 306

/-- The number of the day, counted from 1 January of year 1. The day of the month may be
out of range. -/
def dayNumber (d : Date) : Int :=
  if d.month ≤ 2 then marchNumber (d.year - 1) (d.month + 9) d.day
  else marchNumber d.year (d.month - 3) d.day

/-- The last day of an era belongs to its fourth century, and the last day of four years
to the fourth of them. -/
def yearOfEra (doe : Int) : Int :=
  100 * min (doe / 36524) 3 + 4 * ((doe - 36524 * min (doe / 36524) 3) / 1461) +
    min ((doe - 36524 * min (doe / 36524) 3) % 1461 / 365) 3

def dayOfYear (doe : Int) : Int := doe - yearStart (yearOfEra doe)

def monthOfYear (doy : Int) : Int := (5 * doy + 2) / 153

def ofMarch (y mp d : Int) : Date :=
  if 10 ≤ mp then ⟨y + 1,mp - 9,d⟩ else ⟨y,mp + 3,d⟩

def date (n : Int) : Date :=
  let doe := (n + 306) % 146097
  let mp := monthOfYear (dayOfYear doe)
  ofMarch ((n + 306) / 146097 * 400 + yearOfEra doe) mp (dayOfYear doe - monthStart mp + 1)

theorem yearOfEra_bounds (h0 : 0 ≤ doe) (h1 : doe < 146097) : 0 ≤ yearOfEra doe ∧ yearOfEra doe < 400 := by
  unfold yearOfEra
  omega

theorem yearStart_eq (hq0 : 0 ≤ q) (hq1 : q < 25) (hr0 : 0 ≤ r) (hr1 : r < 4) :
    yearStart (100 * c + 4 * q + r) = 36524 * c + 1461 * q + 365 * r := by
  have h4 : (100 * c + 4 * q + r) / 4 = 25 * c + q := by omega
  have h100 : (100 * c + 4 * q + r) / 100 = c := by omega
  rw [yearStart]
  omega

theorem dayOfYear_bounds (h0 : 0 ≤ doe) (h1 : doe < 146097) : 0 ≤ dayOfYear doe ∧ dayOfYear doe < 366 := by
  unfold dayOfYear yearOfEra
  generalize hc : min (doe / 36524) 3 = c
  have hdoc : 0 ≤ doe - 36524 * c ∧ doe - 36524 * c ≤ 36524 := by omega
  rw [yearStart_eq (by omega) (by omega) (by omega) (by omega)]
  omega

theorem dayNumber_ofMarch (h0 : 0 ≤ mp) (h1 : mp < 12) : dayNumber (ofMarch y mp d) = marchNumber y mp d := by
  unfold dayNumber ofMarch
  by_cases h : 10 ≤ mp
  · have hle : mp - 9 ≤ 2 := by omega
    have hy : y + 1 - 1 = y := by omega
    have hm : mp - 9 + 9 = mp := by omega
    simp only [if_pos h,if_pos hle,hy,hm]
  · have hgt : ¬ mp + 3 ≤ 2 := by omega
    have hm : mp + 3 - 3 = mp := by omega
    simp only [if_neg h,if_neg hgt,hm]

/-- Every day has a date of its own. -/
@[simp]
theorem dayNumber_date (n : Int) : dayNumber (date n) = n := by
  have h0 : 0 ≤ (n + 306) % 146097 := by omega
  have h1 : (n + 306) % 146097 < 146097 := by omega
  obtain ⟨hy0,hy1⟩ := yearOfEra_bounds h0 h1
  obtain ⟨hd0,hd1⟩ := dayOfYear_bounds h0 h1
  have hm : 0 ≤ monthOfYear (dayOfYear ((n + 306) % 146097)) ∧ monthOfYear (dayOfYear ((n + 306) % 146097)) < 12 := by
    unfold monthOfYear
    omega
  have hq : ((n + 306) / 146097 * 400 + yearOfEra ((n + 306) % 146097)) / 400 = (n + 306) / 146097 := by omega
  have hr : ((n + 306) / 146097 * 400 + yearOfEra ((n + 306) % 146097)) % 400 =
      yearOfEra ((n + 306) % 146097) := by omega
  simp only [date]
  rw [dayNumber_ofMarch hm.1 hm.2,marchNumber,hr]
  unfold dayOfYear
  omega

theorem ofMarch_month (h0 : 0 ≤ mp) (h1 : mp < 12) : 1 ≤ (ofMarch y mp d).month ∧ (ofMarch y mp d).month ≤ 12 := by
  unfold ofMarch
  by_cases h : 10 ≤ mp
  · rw [if_pos h]
    dsimp only
    omega
  · rw [if_neg h]
    dsimp only
    omega

theorem ofMarch_day : (ofMarch y mp d).day = d := by
  unfold ofMarch
  split <;> rfl

theorem date_bounds (n : Int) : (1 ≤ (date n).month ∧ (date n).month ≤ 12) ∧ 1 ≤ (date n).day ∧ (date n).day ≤ 31 := by
  obtain ⟨hd0,hd1⟩ := @dayOfYear_bounds ((n + 306) % 146097) (by omega) (by omega)
  refine ⟨ofMarch_month ?_ ?_,?_⟩
  · unfold monthOfYear
    omega
  · unfold monthOfYear
    omega
  · simp only [date,ofMarch_day,monthOfYear,monthStart]
    omega

/-- The day of the month counts on, also past the end of the month. -/
theorem dayNumber_add (d : Date) (k : Int) : dayNumber { d with day := d.day + k } = dayNumber d + k := by
  simp only [dayNumber,marchNumber]
  split <;> omega

end Sake.Lib.Calendar
