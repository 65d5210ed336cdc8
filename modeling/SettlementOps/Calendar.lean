import Mathlib.Tactic.IntervalCases
import Mathlib.Tactic.NormNum

/-!
# Instants and the proleptic Gregorian calendar

The part of the JavaScript `Date` object the reconciliation code relies on.  An
instant is its number of milliseconds since 1970-01-01T00:00:00Z; everything else
is computed from it the way ECMAScript prescribes.  A date is at most 100,000,000 days
away from the epoch; what would lie beyond is the Invalid Date, here `none`, with which
every comparison of times is false.

* `newDate`, `Date.plus` — dates made from a time, and from a date and a difference.
* `civilFromDays`, `daysFromCivil` — the calendar date of a day number and back.
* `utcFullYear`, `utcMonth`, `utcDate`, `utcHours`, `utcDay` — the UTC getters.
* `dateUTC` — `Date.UTC(year, month, day)`, with its reading of the years `0` to
  `99` as `1900` to `1999`.
* `toISOString` — the ISO text of an instant.
-/

namespace SettlementOps

/-- An instant: milliseconds since the epoch.  The dates of the program are `Valid`. -/
structure Date where
  getTime : Int
  deriving DecidableEq, Repr

/-- How far from the epoch a date may be. -/
def MAX_TIME : Int := 8_640_000_000_000_000

/-- Within the range of dates. -/
def Date.Valid (t : Date) : Prop := -MAX_TIME ≤ t.getTime ∧ t.getTime ≤ MAX_TIME

instance : DecidablePred Date.Valid := fun t =>
  inferInstanceAs (Decidable (-MAX_TIME ≤ t.getTime ∧ t.getTime ≤ MAX_TIME))

/-- `new Date(time)`; `none` is the Invalid Date. -/
def newDate (time : Int) : Option Date := if Date.Valid ⟨time⟩ then some ⟨time⟩ else none

/-- `new Date(t.getTime() + ms)` for a date `t`. -/
def Date.plus (t : Date) (ms : Int) : Option Date :=
  if t.Valid ∧ ¬ Date.Valid ⟨t.getTime + ms⟩ then none else some ⟨t.getTime + ms⟩

theorem newDate_eq_some {time : Int} {t : Date} (h : newDate time = some t) :
    t = ⟨time⟩ ∧ t.Valid := by
  unfold newDate at h
  split at h
  · cases h
    exact ⟨rfl, ‹_›⟩
  · cases h

theorem newDate_of_valid {t : Date} (h : t.Valid) : newDate t.getTime = some t := if_pos h

theorem newDate_of_not_valid {t : Date} (h : ¬ t.Valid) : newDate t.getTime = none := if_neg h

/-- On the dates of the program a difference is added as to a time. -/
theorem Date.plus_eq {t : Date} (h : t.Valid) (ms : Int) :
    t.plus ms = newDate (t.getTime + ms) := by
  unfold Date.plus newDate
  by_cases hnext : Date.Valid ⟨t.getTime + ms⟩
  · rw [if_neg fun hout => hout.2 hnext, if_pos hnext]
  · rw [if_pos ⟨h, hnext⟩, if_neg hnext]

namespace Calendar

def msPerSecond : Int := 1_000
def msPerMinute : Int := 60_000
def msPerHour : Int := 3_600_000
def msPerDay : Int := 86_400_000

/-- A calendar date; `month` runs from `1` to `12`. -/
structure Civil where
  year : Int
  month : Int
  day : Int
  deriving DecidableEq, Repr

/-- The day number an instant falls on. -/
def dayNumber (t : Date) : Int := t.getTime / msPerDay

/-- Milliseconds since that day's midnight. -/
def msOfDay (t : Date) : Int := t.getTime % msPerDay

/-- The calendar date of a day number.  Years are counted from March, so that the
leap day is the last day of its year, and in eras of 400 years. -/
def civilFromDays (days : Int) : Civil :=
  let z := days + 719_468
  let era := z / 146_097
  let doe := z % 146_097
  let yoe := (doe - doe / 1_460 + doe / 36_524 - doe / 146_096) / 365
  let doy := doe - (365 * yoe + yoe / 4 - yoe / 100)
  let mp := (5 * doy + 2) / 153
  let day := doy - (153 * mp + 2) / 5 + 1
  let month := if mp < 10 then mp + 3 else mp - 9
  let year := yoe + era * 400 + (if month ≤ 2 then 1 else 0)
  ⟨year, month, day⟩

/-- The day number of a calendar date. -/
def daysFromCivil (year month day : Int) : Int :=
  let y := if month ≤ 2 then year - 1 else year
  let era := y / 400
  let yoe := y % 400
  let mp := if month > 2 then month - 3 else month + 9
  let doy := (153 * mp + 2) / 5 + day - 1
  let doe := yoe * 365 + yoe / 4 - yoe / 100 + doy
  era * 146_097 + doe - 719_468

/-- `getUTCFullYear`. -/
def utcFullYear (t : Date) : Int := (civilFromDays (dayNumber t)).year

/-- `getUTCMonth`: January is `0`. -/
def utcMonth (t : Date) : Int := (civilFromDays (dayNumber t)).month - 1

/-- `getUTCDate`. -/
def utcDate (t : Date) : Int := (civilFromDays (dayNumber t)).day

/-- `getUTCHours`. -/
def utcHours (t : Date) : Int := msOfDay t / msPerHour

/-- `getUTCDay`: Sunday is `0`, and day `0` of the epoch was a Thursday. -/
def utcDay (t : Date) : Int := (dayNumber t + 4) % 7

/-- `Date.UTC(year, month, day)` for a month between `0` and `11`.  A year between
`0` and `99` is read as `1900` to `1999`. -/
def dateUTC (year month day : Int) : Int :=
  let y := if 0 ≤ year ∧ year ≤ 99 then 1900 + year else year
  daysFromCivil y (month + 1) day * msPerDay

/-- A number written with at least `width` digits. -/
def pad (width : Nat) (n : Int) : String :=
  let digits := toString n.natAbs
  String.ofList (List.replicate (width - digits.length) '0') ++ digits

/-- The year of an ISO text: four digits, or a sign and six. -/
def isoYear (year : Int) : String :=
  if 0 ≤ year ∧ year ≤ 9999 then pad 4 year
  else if year < 0 then "-" ++ pad 6 year
  else "+" ++ pad 6 year

/-- `toISOString`. -/
def toISOString (t : Date) : String :=
  let c := civilFromDays (dayNumber t)
  let ms := msOfDay t
  isoYear c.year ++ "-" ++ pad 2 c.month ++ "-" ++ pad 2 c.day ++ "T" ++
    pad 2 (ms / msPerHour) ++ ":" ++ pad 2 (ms / msPerMinute % 60) ++ ":" ++
    pad 2 (ms / msPerSecond % 60) ++ "." ++ pad 3 (ms % msPerSecond) ++ "Z"

/-! ## The calendar is consistent -/

/-- The year of the era a day of the era falls in is one of the 400. -/
theorem yearOfEra_bounds {doe yoe : Int} (h₀ : 0 ≤ doe) (h₁ : doe < 146_097)
    (hy : yoe = (doe - doe / 1_460 + doe / 36_524 - doe / 146_096) / 365) :
    0 ≤ yoe ∧ yoe ≤ 399 := by
  obtain ⟨century, hc⟩ : ∃ century, century = doe / 36_524 := ⟨_, rfl⟩
  rw [← hc] at hy
  have hc₀ : 0 ≤ century := by omega
  have hc₄ : century ≤ 4 := by omega
  interval_cases century <;> omega

/-- The day of that year is one of its at most 366. -/
theorem dayOfYear_bounds {doe yoe : Int} (h₀ : 0 ≤ doe) (h₁ : doe < 146_097)
    (hy : yoe = (doe - doe / 1_460 + doe / 36_524 - doe / 146_096) / 365) :
    0 ≤ doe - (365 * yoe + yoe / 4 - yoe / 100) ∧
      doe - (365 * yoe + yoe / 4 - yoe / 100) ≤ 365 := by
  obtain ⟨hy₀, hy₁⟩ := yearOfEra_bounds h₀ h₁ hy
  obtain ⟨century, hc⟩ : ∃ century, century = doe / 36_524 := ⟨_, rfl⟩
  obtain ⟨g, hg⟩ : ∃ g, g = yoe / 100 := ⟨_, rfl⟩
  obtain ⟨e, he⟩ : ∃ e, e = doe / 146_096 := ⟨_, rfl⟩
  rw [← hc, ← he] at hy
  rw [← hg]
  have hc₀ : 0 ≤ century := by omega
  have hc₄ : century ≤ 4 := by omega
  have hg₀ : 0 ≤ g := by omega
  have hg₃ : g ≤ 3 := by omega
  -- the last day of an era and the last day of a century are the irregular ones
  have he₁ : e = 0 ∨ e = 1 := by omega
  rcases he₁ with rfl | rfl <;> interval_cases century <;> interval_cases g <;> omega

/-- The date written for day `doy` of year `yoe` of an era has that day's number. -/
theorem daysFromCivil_ofEra {era yoe doy mp : Int} (hy₀ : 0 ≤ yoe) (hy₁ : yoe ≤ 399)
    (hd₀ : 0 ≤ doy) (hd₁ : doy ≤ 365) (hmp : mp = (5 * doy + 2) / 153) :
    daysFromCivil
        (yoe + era * 400 + (if (if mp < 10 then mp + 3 else mp - 9) ≤ 2 then 1 else 0))
        (if mp < 10 then mp + 3 else mp - 9) (doy - (153 * mp + 2) / 5 + 1) =
      era * 146_097 + (365 * yoe + yoe / 4 - yoe / 100 + doy) - 719_468 := by
  by_cases hm : mp < 10
  · have hmonth : ¬ mp + 3 ≤ 2 := by omega
    have hmonth' : mp + 3 > 2 := by omega
    have hera : (yoe + era * 400) / 400 = era := by omega
    have hyoe : (yoe + era * 400) % 400 = yoe := by omega
    simp only [daysFromCivil, if_pos hm, if_neg hmonth, if_pos hmonth', add_zero, hera, hyoe]
    omega
  · have hmonth : mp - 9 ≤ 2 := by omega
    have hmonth' : ¬ mp - 9 > 2 := by omega
    have hera : (yoe + era * 400) / 400 = era := by omega
    have hyoe : (yoe + era * 400) % 400 = yoe := by omega
    simp only [daysFromCivil, if_neg hm, if_pos hmonth, if_neg hmonth', add_sub_cancel_right,
      hera, hyoe]
    omega

/-- **The calendar loses no day.**  The day number of the date of a day is that
day. -/
theorem daysFromCivil_civilFromDays (days : Int) :
    daysFromCivil (civilFromDays days).year (civilFromDays days).month
      (civilFromDays days).day = days := by
  have h₀ : 0 ≤ (days + 719_468) % 146_097 := Int.emod_nonneg _ (by norm_num)
  have h₁ : (days + 719_468) % 146_097 < 146_097 := Int.emod_lt_of_pos _ (by norm_num)
  have hsplit := Int.emod_add_mul_ediv (days + 719_468) 146_097
  obtain ⟨hy₀, hy₁⟩ := yearOfEra_bounds h₀ h₁ rfl
  obtain ⟨hd₀, hd₁⟩ := dayOfYear_bounds h₀ h₁ rfl
  rw [civilFromDays, daysFromCivil_ofEra hy₀ hy₁ hd₀ hd₁ rfl]
  omega

/-- Reading a year as one of the twentieth century only moves a date on. -/
theorem daysFromCivil_le_add (year month day : Int) :
    daysFromCivil year month day ≤ daysFromCivil (1900 + year) month day := by
  simp only [daysFromCivil]
  split <;> omega

/-- In any year `Date.UTC` of the UTC getters is no earlier than that midnight. -/
theorem dayNumber_le_dateUTC (t : Date) :
    dayNumber t * msPerDay ≤ dateUTC (utcFullYear t) (utcMonth t) (utcDate t) := by
  have hday : daysFromCivil (utcFullYear t) (utcMonth t + 1) (utcDate t) = dayNumber t := by
    rw [utcMonth, sub_add_cancel]
    exact daysFromCivil_civilFromDays (dayNumber t)
  have hnonneg : (0 : Int) ≤ msPerDay := by decide
  rw [dateUTC]
  refine mul_le_mul_of_nonneg_right ?_ hnonneg
  split
  · rw [← hday]
    exact daysFromCivil_le_add _ _ _
  · rw [hday]

/-- It moves a date on by less than as many leap years. -/
theorem daysFromCivil_add_le (year month day : Int) :
    daysFromCivil (1900 + year) month day ≤ daysFromCivil year month day + 1900 * 366 := by
  simp only [daysFromCivil]
  split <;> omega

theorem dateUTC_le_dayNumber (t : Date) :
    dateUTC (utcFullYear t) (utcMonth t) (utcDate t) ≤ (dayNumber t + 1900 * 366) * msPerDay := by
  have hday : daysFromCivil (utcFullYear t) (utcMonth t + 1) (utcDate t) = dayNumber t := by
    rw [utcMonth, sub_add_cancel]
    exact daysFromCivil_civilFromDays (dayNumber t)
  have hnonneg : (0 : Int) ≤ msPerDay := by decide
  rw [dateUTC]
  refine mul_le_mul_of_nonneg_right ?_ hnonneg
  split
  · rw [← hday]
    exact daysFromCivil_add_le _ _ _
  · rw [hday]
    omega

example : dateUTC 2026 3 1 = 1_775_001_600_000 := by decide

example : toISOString ⟨1_770_026_400_000⟩ = "2026-02-02T10:00:00.000Z" := by decide

end Calendar
end SettlementOps
