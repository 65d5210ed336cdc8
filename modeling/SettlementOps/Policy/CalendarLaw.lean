import Mathlib.Data.Int.ConditionallyCompleteOrder
import Mathlib.Data.Int.Interval
import SettlementOps.Numeric.NthAfter
import SettlementOps.Policy.SettlementCycle

/-!
# The settlement calendar in whole dates

The two calendar functions walk over instants.  Here they are read as walks over dates: a
settlement is due on the second business day after the effective date of its capture, and the
window of an adjustment opens on the second business day before the settlement.

* `IsBusinessDate` — Monday to Friday, on day numbers.
* `businessDaysMet_forward`, `businessDaysMet_back` — the loops count the dates of an interval.
* `walk_forward_nth`, `walk_back_nth` — what they count to.
* `effectiveDate`, `SettlesLawfully`, `settlesLawfully_iff` — the law of the settlement date,
  and the captures it holds for.
* `windowCovers_iff` — the captures whose whole cycle lies in the window.
-/

namespace SettlementOps

open Calendar Numeric

/-! ## Business dates -/

/-- The date with this day number is a business day. -/
def IsBusinessDate (day : Int) : Prop := isWeekday ⟨day * msPerDay⟩ = true

instance : DecidablePred IsBusinessDate := fun day =>
  inferInstanceAs (Decidable (isWeekday ⟨day * msPerDay⟩ = true))

theorem isWeekday_iff (t : Date) :
    isWeekday t = true ↔ (dayNumber t + 4) % 7 ≠ 0 ∧ (dayNumber t + 4) % 7 ≠ 6 := by
  simp [isWeekday, utcDay]

theorem dayNumber_midnight (day : Int) : dayNumber ⟨day * msPerDay⟩ = day :=
  Int.mul_ediv_cancel day (by decide)

theorem isBusinessDate_iff {day : Int} :
    IsBusinessDate day ↔ (day + 4) % 7 ≠ 0 ∧ (day + 4) % 7 ≠ 6 := by
  rw [IsBusinessDate, isWeekday_iff, dayNumber_midnight]

/-- The time of day does not matter. -/
theorem isWeekday_eq (t : Date) : isWeekday t = true ↔ IsBusinessDate (dayNumber t) := by
  rw [isWeekday_iff, isBusinessDate_iff]

/-- Of four days in a row two are business days. -/
theorem two_of_four (day : Int) :
    ∃ x y, day < x ∧ x < y ∧ y ≤ day + 4 ∧ IsBusinessDate x ∧ IsBusinessDate y := by
  simp only [isBusinessDate_iff]
  rcases (by omega : (day + 4) % 7 = 0 ∨ (day + 4) % 7 = 1 ∨ (day + 4) % 7 = 2 ∨
    (day + 4) % 7 = 3 ∨ (day + 4) % 7 = 4 ∨ (day + 4) % 7 = 5 ∨ (day + 4) % 7 = 6) with
    h | h | h | h | h | h | h
  · exact ⟨day + 1, day + 2, by omega⟩
  · exact ⟨day + 1, day + 2, by omega⟩
  · exact ⟨day + 1, day + 2, by omega⟩
  · exact ⟨day + 1, day + 2, by omega⟩
  · exact ⟨day + 1, day + 4, by omega⟩
  · exact ⟨day + 3, day + 4, by omega⟩
  · exact ⟨day + 2, day + 3, by omega⟩

/-! ## Counting strides -/

theorem Ioc_succ (day : Int) (n : Nat) :
    Finset.Ioc day (day + (n + 1 : Nat)) =
      insert (day + 1) (Finset.Ioc (day + 1) (day + 1 + n)) := by
  ext x
  simp only [Finset.mem_Ioc, Finset.mem_insert]
  push_cast
  omega

/-- The same interval, grown at its far end. -/
theorem Ioc_succ_far (day : Int) (n : Nat) :
    Finset.Ioc day (day + (n + 1 : Nat)) =
      insert (day + (n + 1 : Nat)) (Finset.Ioc day (day + n)) := by
  ext x
  simp only [Finset.mem_Ioc, Finset.mem_insert]
  push_cast
  omega

theorem Ico_succ (day : Int) (n : Nat) :
    Finset.Ico (day - (n + 1 : Nat)) day =
      insert (day - 1) (Finset.Ico (day - 1 - n) (day - 1)) := by
  ext x
  simp only [Finset.mem_Ico, Finset.mem_insert]
  push_cast
  omega

theorem Ico_succ_far (day : Int) (n : Nat) :
    Finset.Ico (day - (n + 1 : Nat)) day =
      insert (day - (n + 1 : Nat)) (Finset.Ico (day - n) day) := by
  ext x
  simp only [Finset.mem_Ico, Finset.mem_insert]
  push_cast
  omega

theorem businessDaysMet_forward (strides : Nat) : ∀ day : Int,
    businessDaysMet msPerDay ⟨day * msPerDay⟩ strides =
      ((Finset.Ioc day (day + strides)).filter IsBusinessDate).card := by
  induction strides with
  | zero =>
      intro day
      simp [businessDaysMet]
  | succ n ih =>
      intro day
      have hnext : day * msPerDay + msPerDay = (day + 1) * msPerDay := by ring
      rw [businessDaysMet, hnext, ih, Ioc_succ, card_filter_insert (by simp)]
      rfl

theorem businessDaysMet_back (strides : Nat) : ∀ day : Int,
    businessDaysMet (-msPerDay) ⟨day * msPerDay⟩ strides =
      ((Finset.Ico (day - strides) day).filter IsBusinessDate).card := by
  induction strides with
  | zero =>
      intro day
      simp [businessDaysMet]
  | succ n ih =>
      intro day
      have hnext : day * msPerDay + -msPerDay = (day - 1) * msPerDay := by ring
      rw [businessDaysMet, hnext, ih, Ico_succ, card_filter_insert (by simp)]
      rfl

/-! ## Where the walks end -/

/-- **The walk forward** ends on the last of the business dates it counts. -/
theorem walk_forward_nth (day : Int) (days : Nat) :
    ∃ last : Int,
      walkBusinessDays msPerDay forward_isDayStride ⟨day * msPerDay⟩ (days + 1) =
          ⟨last * msPerDay⟩ ∧
        IsNthAfter IsBusinessDate (days + 1) day last := by
  obtain ⟨strides, -, ht, hmet, hfirst⟩ :=
    walkBusinessDays_spec forward_isDayStride ⟨day * msPerDay⟩ (days + 1)
  obtain ⟨n, rfl⟩ : ∃ n, strides = n + 1 := by
    cases strides with
    | zero => cases hmet
    | succ n => exact ⟨n, rfl⟩
  have hbefore := hfirst n (Nat.lt_succ_self n)
  rw [businessDaysMet_forward] at hmet hbefore
  refine ⟨day + (n + 1 : Nat), ?_, ?_, ?_, hmet⟩
  · rw [Date.mk.injEq, ht]
    ring
  · -- the stride before it had not met enough
    by_contra hnot
    rw [Ioc_succ_far, card_filter_insert (by simp), if_neg hnot, zero_add] at hmet
    omega
  · push_cast
    omega

/-- **The walk back** ends on the first of them. -/
theorem walk_back_nth (day : Int) (days : Nat) :
    ∃ first : Int,
      walkBusinessDays (-msPerDay) back_isDayStride ⟨day * msPerDay⟩ (days + 1) =
          ⟨first * msPerDay⟩ ∧
        IsNthBefore IsBusinessDate (days + 1) day first := by
  obtain ⟨strides, -, ht, hmet, hfirst⟩ :=
    walkBusinessDays_spec back_isDayStride ⟨day * msPerDay⟩ (days + 1)
  obtain ⟨n, rfl⟩ : ∃ n, strides = n + 1 := by
    cases strides with
    | zero => cases hmet
    | succ n => exact ⟨n, rfl⟩
  have hbefore := hfirst n (Nat.lt_succ_self n)
  rw [businessDaysMet_back] at hmet hbefore
  refine ⟨day - (n + 1 : Nat), ?_, ?_, ?_, hmet⟩
  · rw [Date.mk.injEq, ht]
    ring
  · by_contra hnot
    rw [Ico_succ_far, card_filter_insert (by simp; omega), if_neg hnot, zero_add] at hmet
    omega
  · push_cast
    omega

/-- The second business day is two to four days on. -/
theorem second_after_bounds {day last : Int} (h : IsNthAfter IsBusinessDate 2 day last) :
    day + 2 ≤ last ∧ last ≤ day + 4 := by
  constructor
  · have hcard := Finset.card_filter_le (Finset.Ioc day last) IsBusinessDate
    rw [h.count, Int.card_Ioc] at hcard
    omega
  · by_contra hfar
    obtain ⟨x, y, hx, hxy, hy, hbx, hby⟩ := two_of_four day
    have hthree : ({x, y, last} : Finset Int) ⊆ (Finset.Ioc day last).filter IsBusinessDate := by
      intro z hz
      simp only [Finset.mem_insert, Finset.mem_singleton] at hz
      rw [Finset.mem_filter, Finset.mem_Ioc]
      rcases hz with rfl | rfl | rfl
      · exact ⟨by omega, hbx⟩
      · exact ⟨by omega, hby⟩
      · exact ⟨by omega, h.holds⟩
    have hcard := Finset.card_le_card hthree
    rw [h.count, Finset.card_eq_three.2 ⟨x, y, last, by omega, by omega, by omega, rfl⟩] at hcard
    omega

/-- Counting back, it is at most four days off. -/
theorem second_before_bound {day first : Int} (h : IsNthBefore IsBusinessDate 2 day first) :
    day - 4 ≤ first := by
  by_contra hfar
  obtain ⟨x, y, hx, hxy, hy, hbx, hby⟩ := two_of_four (day - 5)
  have hthree : ({first, x, y} : Finset Int) ⊆ (Finset.Ico first day).filter IsBusinessDate := by
    intro z hz
    simp only [Finset.mem_insert, Finset.mem_singleton] at hz
    rw [Finset.mem_filter, Finset.mem_Ico]
    rcases hz with rfl | rfl | rfl
    · exact ⟨by omega, h.holds⟩
    · exact ⟨by omega, hbx⟩
    · exact ⟨by omega, hby⟩
  have hcard := Finset.card_le_card hthree
  rw [h.count, Finset.card_eq_three.2 ⟨first, x, y, by omega, by omega, by omega, rfl⟩] at hcard
  omega

/-! ## The settlement date of a capture -/

/-- The date a capture counts for: its Indian date, or the next one from the cutoff on. -/
def effectiveDate (capturedAt : Date) : Int :=
  dayNumber (indianTime capturedAt) +
    if utcHours (indianTime capturedAt) ≥ SETTLEMENT_CUTOFF_HOUR_IST then 1 else 0

/-- `Date.UTC` reads the years 0 to 99 as 1900 to 1999. -/
def InTwoDigitYear (capturedAt : Date) : Prop :=
  0 ≤ utcFullYear (indianTime capturedAt) ∧ utcFullYear (indianTime capturedAt) ≤ 99

/-- The last effective date with a settlement date, `+275760-09-10`: the day 100,000,000 days
after the epoch, where dates end, is a Saturday. -/
def LAST_EFFECTIVE_DATE : Int := 99_999_997

/-- A later capture does not count for an earlier date. -/
theorem effectiveDate_mono {a b : Date} (h : a.getTime ≤ b.getTime) :
    effectiveDate a ≤ effectiveDate b := by
  have heffective : ∀ t : Date,
      effectiveDate t = (t.getTime + 41_400_000) / 86_400_000 := by
    intro t
    have hist : (indianTime t).getTime = t.getTime + 19_800_000 := rfl
    simp only [effectiveDate, dayNumber, utcHours, msOfDay, hist, msPerDay, msPerHour,
      SETTLEMENT_CUTOFF_HOUR_IST]
    split <;> omega
  rw [heffective, heffective]
  omega

/-- The loop starts from the effective date, unless the year is misread; then from a later
one by centuries. -/
theorem settlementStart_spec (capturedAt : Date) :
    ∃ day, settlementStart capturedAt = ⟨day * msPerDay⟩ ∧ effectiveDate capturedAt ≤ day ∧
      (¬ InTwoDigitYear capturedAt → day = effectiveDate capturedAt) ∧
      (InTwoDigitYear capturedAt → effectiveDate capturedAt + 10 < day) := by
  have hcivil : daysFromCivil (utcFullYear (indianTime capturedAt))
      (utcMonth (indianTime capturedAt) + 1) (utcDate (indianTime capturedAt)) =
        dayNumber (indianTime capturedAt) := by
    rw [utcMonth, sub_add_cancel]
    exact daysFromCivil_civilFromDays _
  obtain ⟨midnight, hmidnight, hread, hmisread⟩ : ∃ midnight : Int,
      dateUTC (utcFullYear (indianTime capturedAt)) (utcMonth (indianTime capturedAt))
          (utcDate (indianTime capturedAt)) = midnight * msPerDay ∧
        (¬ InTwoDigitYear capturedAt → midnight = dayNumber (indianTime capturedAt)) ∧
        (InTwoDigitYear capturedAt → dayNumber (indianTime capturedAt) + 10 < midnight) := by
    refine ⟨_, rfl, fun hread => ?_, fun hmisread => ?_⟩
    · rw [InTwoDigitYear] at hread
      rw [if_neg hread, hcivil]
    · rw [InTwoDigitYear] at hmisread
      rw [if_pos hmisread, ← hcivil]
      simp only [daysFromCivil]
      split <;> omega
  have hle : dayNumber (indianTime capturedAt) ≤ midnight := by
    by_cases htwo : InTwoDigitYear capturedAt
    · have := hmisread htwo
      omega
    · exact (hread htwo).ge
  unfold settlementStart effectiveDate
  dsimp only
  rw [hmidnight]
  split
  · refine ⟨midnight + 1, by rw [add_mul, one_mul], by omega, fun h => ?_, fun h => ?_⟩
    · rw [hread h]
    · have := hmisread h
      omega
  · refine ⟨midnight, rfl, by omega, fun h => ?_, fun h => ?_⟩
    · rw [hread h, add_zero]
    · have := hmisread h
      omega

/-- More fuel does not change where a walk ends. -/
theorem walkDates_of_le {stride : Int} {t : Option Date} : ∀ {fuel fuel' : Nat}
    {cursor : Option Date} {remaining : Nat},
    walkDates stride fuel cursor remaining = some t → fuel ≤ fuel' →
      walkDates stride fuel' cursor remaining = some t := by
  intro fuel
  induction fuel with
  | zero =>
      intro fuel' cursor remaining h _
      cases remaining with
      | zero =>
          cases fuel' <;> exact h
      | succ r => cases h
  | succ fuel ih =>
      intro fuel' cursor remaining h hle
      obtain ⟨k, rfl⟩ : ∃ k, fuel' = k + 1 := ⟨fuel' - 1, by omega⟩
      cases remaining with
      | zero => exact h
      | succ r =>
          rw [walkDates] at h ⊢
          by_cases hday : isBusinessDay (cursor.bind fun t => t.plus stride) = true
          · rw [if_pos hday] at h ⊢
            exact ih h (Nat.le_of_succ_le_succ hle)
          · rw [if_neg hday] at h ⊢
            exact ih h (Nat.le_of_succ_le_succ hle)

/-- The law of the settlement date.  The loop ends, on the midnight of the second business day
strictly after the effective date, two to four days on, and a later capture is never due
earlier. -/
structure SettlesLawfully (capturedAt : Date) : Prop where
  terminates : ∀ fuel, 6 ≤ fuel →
    walkDates msPerDay fuel (settlementCursor capturedAt) SETTLEMENT_CYCLE_BUSINESS_DAYS =
      some (expectedSettlementDate capturedAt)
  second : ∃ day, expectedSettlementDate capturedAt = some ⟨day * msPerDay⟩ ∧
    IsNthAfter IsBusinessDate 2 (effectiveDate capturedAt) day ∧
    effectiveDate capturedAt + 2 ≤ day ∧ day ≤ effectiveDate capturedAt + 4
  monotone : ∀ later : Date, capturedAt.getTime ≤ later.getTime →
    ∀ expected ∈ expectedSettlementDate capturedAt, ∀ later' ∈ expectedSettlementDate later,
      expected.getTime ≤ later'.getTime

/-- In any year the walk ends on the second business day after the day it starts from. -/
theorem settlementInstant_spec (capturedAt : Date) :
    ∃ start day, settlementStart capturedAt = ⟨start * msPerDay⟩ ∧
      effectiveDate capturedAt ≤ start ∧
      (¬ InTwoDigitYear capturedAt → start = effectiveDate capturedAt) ∧
      (InTwoDigitYear capturedAt → effectiveDate capturedAt + 10 < start) ∧
      settlementInstant capturedAt = ⟨day * msPerDay⟩ ∧
      IsNthAfter IsBusinessDate 2 start day := by
  obtain ⟨start, hstart, hle, hread, hmisread⟩ := settlementStart_spec capturedAt
  obtain ⟨day, hday, hnth⟩ := walk_forward_nth start 1
  refine ⟨start, day, hstart, hle, hread, hmisread, ?_, hnth⟩
  rw [settlementInstant, hstart]
  exact hday

/-- The second business day after a date is a date up to this one. -/
theorem second_after_le_iff {start day : Int} (h : IsNthAfter IsBusinessDate 2 start day) :
    day ≤ 100_000_000 ↔ start ≤ LAST_EFFECTIVE_DATE := by
  have hbusiness := isBusinessDate_iff.1 h.holds
  have hbounds := second_after_bounds h
  have hlast : IsNthAfter IsBusinessDate 2 99_999_997 99_999_999 :=
    ⟨by decide, by decide, by decide⟩
  unfold LAST_EFFECTIVE_DATE
  constructor
  · intro hday
    omega
  · intro hstart
    have hle := h.le_of_le hlast hstart
    omega

/-- **The settlement calendar law** holds of a capture exactly when its Indian date is not in
one of the years 0 to 99, and the second business day after its effective date is a date. -/
theorem settlesLawfully_iff (capturedAt : Date) (hcaptured : capturedAt.Valid) :
    SettlesLawfully capturedAt ↔
      ¬ InTwoDigitYear capturedAt ∧ effectiveDate capturedAt ≤ LAST_EFFECTIVE_DATE := by
  obtain ⟨start, day, hstart, hle, hread, hmisread, hday, hnth⟩ :=
    settlementInstant_spec capturedAt
  have hexpected := expectedSettlementDate_eq hcaptured
  have hlate := (settlementInstant_bounds capturedAt).1
  have hvalid : Date.Valid ⟨day * msPerDay⟩ ↔ day ≤ 100_000_000 := by
    have hlow := hcaptured.1
    have hms : msPerDay = 86_400_000 := rfl
    have hmax : MAX_TIME = 8_640_000_000_000_000 := rfl
    rw [hday, hms] at hlate
    simp only [Date.Valid, hms, hmax] at hlow hlate ⊢
    omega
  rw [hday] at hexpected
  constructor
  · rintro ⟨-, ⟨day', hday', hnth', -, hfour⟩, -⟩
    rw [hexpected] at hday'
    obtain ⟨hsame, hin⟩ := newDate_eq_some hday'
    rw [Date.mk.injEq] at hsame
    have hdays : day' = day := mul_right_cancel₀ (by decide : msPerDay ≠ 0) hsame
    subst hdays
    refine ⟨fun htwo => ?_, (second_after_le_iff hnth').1 (hvalid.1 hin)⟩
    have hbound := second_after_bounds hnth
    have hfar := hmisread htwo
    omega
  · rintro ⟨htwo, hlast⟩
    have heffective := hread htwo
    subst heffective
    have hin := hvalid.2 ((second_after_le_iff hnth).2 hlast)
    rw [newDate_of_valid hin] at hexpected
    refine ⟨fun fuel hfuel => ?_, ⟨day, hexpected, hnth, second_after_bounds hnth⟩,
      fun later hlater expected hcycle expected' hcycle' => ?_⟩
    · have hsix : walkDates msPerDay 6 (settlementCursor capturedAt)
          SETTLEMENT_CYCLE_BUSINESS_DAYS = some (expectedSettlementDate capturedAt) :=
        (Option.some_get _).symm
      exact walkDates_of_le hsix hfuel
    · obtain ⟨start', day', -, hle', -, -, hday', hnth'⟩ := settlementInstant_spec later
      have hdays := hnth.le_of_le hnth' ((effectiveDate_mono hlater).trans hle')
      rw [(eq_of_expectedSettlementDate hcycle).1, (eq_of_expectedSettlementDate hcycle').1, hday,
        hday']
      exact mul_le_mul_of_nonneg_right hdays (by decide)

/-- A Monday afternoon of 2026. -/
theorem settlesLawfully_afternoon :
    toISOString ⟨1_770_026_400_000⟩ = "2026-02-02T10:00:00.000Z" ∧
      SettlesLawfully ⟨1_770_026_400_000⟩ :=
  ⟨by decide, (settlesLawfully_iff ⟨1_770_026_400_000⟩ (by decide)).2
    ⟨by unfold InTwoDigitYear; decide, by decide⟩⟩

/-- A capture of 15 June of the year 50 is due in June 1950. -/
theorem misreadYear_not_lawful :
    toISOString ⟨-60_575_004_000_000⟩ = "0050-06-15T10:00:00.000Z" ∧
      (expectedSettlementDate ⟨-60_575_004_000_000⟩).map toISOString =
        some "1950-06-19T00:00:00.000Z" ∧
      ¬ SettlesLawfully ⟨-60_575_004_000_000⟩ := by
  have hexpected : expectedSettlementDate ⟨-60_575_004_000_000⟩ = some ⟨-7_136 * msPerDay⟩ := by
    decide
  have heffective : effectiveDate ⟨-60_575_004_000_000⟩ = -701_100 := by decide
  refine ⟨by decide, by decide, fun h => ?_⟩
  obtain ⟨day, hday, -, -, hfour⟩ := h.second
  rw [hexpected, Option.some.injEq, Date.mk.injEq] at hday
  have hsame : -7_136 = day := mul_right_cancel₀ (by decide : msPerDay ≠ 0) hday
  rw [heffective] at hfour
  omega

/-! ## The window of an adjustment -/

/-- Every adjustment from the capture to its expected settlement is inside the window. -/
def WindowCovers (capturedAt : Date) : Prop :=
  ∀ expected ∈ expectedSettlementDate capturedAt, ∀ adjustmentAt : Date,
    capturedAt.getTime ≤ adjustmentAt.getTime → adjustmentAt.getTime ≤ expected.getTime →
      adjustmentCanExplainSettlement adjustmentAt expected = true

/-- The window is an interval, so its start decides. -/
theorem windowCovers_iff_start {capturedAt expected windowStart : Date}
    (hexpected : expectedSettlementDate capturedAt = some expected)
    (hwindow : businessDaysBefore expected SETTLEMENT_CYCLE_BUSINESS_DAYS = some windowStart) :
    WindowCovers capturedAt ↔ windowStart.getTime ≤ capturedAt.getTime := by
  have hpos : (0 : Int) ≤ msPerDay := by decide
  have hbefore := lt_expectedSettlementDate hexpected
  constructor
  · intro h
    obtain ⟨⟨start, hstart, hle⟩, -⟩ :=
      adjustmentCanExplainSettlement_iff.1 (h expected hexpected capturedAt le_rfl (by omega))
    rw [hwindow] at hstart
    cases hstart
    exact hle
  · intro hstart expected' hexpected' adjustmentAt hfrom hto
    rw [hexpected] at hexpected'
    cases hexpected'
    exact adjustmentCanExplainSettlement_iff.2 ⟨⟨windowStart, hwindow, hstart.trans hfrom⟩, hto⟩

/-- **The window covers the cycle of a capture before the cutoff exactly when** its year is
read as it is and, if its Indian date is a business day, its UTC date is the same: from 05:30
Indian time on.  A capture without a settlement date has no cycle. -/
theorem windowCovers_iff (capturedAt expected : Date)
    (hexpected : expectedSettlementDate capturedAt = some expected)
    (hearly : utcHours (indianTime capturedAt) < SETTLEMENT_CUTOFF_HOUR_IST) :
    WindowCovers capturedAt ↔ ¬ InTwoDigitYear capturedAt ∧
      (isWeekday (indianTime capturedAt) = true →
        dayNumber capturedAt = dayNumber (indianTime capturedAt)) := by
  obtain ⟨start, day, hstarts, -, hread, hmisread, hday, hnth⟩ := settlementInstant_spec capturedAt
  obtain ⟨first, hfirst, hback⟩ := walk_back_nth day 1
  obtain ⟨hinstant, -, hvalid⟩ := eq_of_expectedSettlementDate hexpected
  have heffective : effectiveDate capturedAt = dayNumber (indianTime capturedAt) := by
    rw [effectiveDate, if_neg (not_le.2 hearly), add_zero]
  have hopens : IsBusinessDate start → first = start := fun hbusiness =>
    hback.unique (hnth.before hbusiness)
  have hrange : -MAX_TIME ≤ first * msPerDay := by
    have hlow := hvalid.1
    have hms : msPerDay = 86_400_000 := rfl
    have hmax : MAX_TIME = 8_640_000_000_000_000 := rfl
    rw [hstarts] at hlow
    simp only [hms, hmax] at hlow ⊢
    by_cases hbusiness : IsBusinessDate start
    · rw [hopens hbusiness]
      exact hlow
    · -- the first of all dates is a Tuesday
      have hlast := second_after_bounds hnth
      have hfour := second_before_bound hback
      rw [isBusinessDate_iff] at hbusiness
      omega
  have hwindow : businessDaysBefore expected SETTLEMENT_CYCLE_BUSINESS_DAYS =
      some ⟨first * msPerDay⟩ := by
    rw [hinstant, hday, ← hfirst]
    exact walkBusinessDates_back (hrange.trans (congrArg Date.getTime hfirst).ge)
  have hist : (indianTime capturedAt).getTime = capturedAt.getTime + 19_800_000 := rfl
  rw [windowCovers_iff_start hexpected hwindow, isWeekday_eq]
  by_cases htwo : InTwoDigitYear capturedAt
  · -- the window lies centuries after the capture
    have hfar := hmisread htwo
    have hlast := second_after_bounds hnth
    have hfour := second_before_bound hback
    rw [heffective] at hfar
    refine ⟨fun h => ?_, fun h => absurd htwo h.1⟩
    simp only [dayNumber, hist, msPerDay] at hfar h
    omega
  · have hstart := hread htwo
    rw [heffective] at hstart
    subst hstart
    by_cases hbusiness : IsBusinessDate (dayNumber (indianTime capturedAt))
    · -- there and back again: the window opens with the Indian date, read as a UTC date
      have hsame := hopens hbusiness
      subst hsame
      simp only [htwo, hbusiness, not_false_eq_true, true_and, true_implies]
      simp only [dayNumber, hist, msPerDay]
      omega
    · have hlt := hnth.before_lt hback hbusiness
      refine ⟨fun _ => ⟨htwo, fun h => absurd h hbusiness⟩, fun _ => ?_⟩
      simp only [dayNumber, hist, msPerDay] at hlt ⊢
      omega

/-- A Monday afternoon. -/
theorem windowCovers_afternoon :
    toISOString ⟨1_770_026_400_000⟩ = "2026-02-02T10:00:00.000Z" ∧
      WindowCovers ⟨1_770_026_400_000⟩ :=
  ⟨by decide, (windowCovers_iff ⟨1_770_026_400_000⟩ ⟨1_770_163_200_000⟩ (by decide) (by decide)).2
    ⟨by unfold InTwoDigitYear; decide, fun _ => by decide⟩⟩

/-- A Monday at two in the morning of Indian time is still a Sunday in UTC: an adjustment made
with the capture is outside the window of its on-time settlement. -/
theorem nightCapture_uncovered :
    toISOString ⟨1_769_977_800_000⟩ = "2026-02-01T20:30:00.000Z" ∧
      utcHours (indianTime ⟨1_769_977_800_000⟩) = 2 ∧
      (expectedSettlementDate ⟨1_769_977_800_000⟩).map toISOString =
        some "2026-02-04T00:00:00.000Z" ∧
      (expectedSettlementDate ⟨1_769_977_800_000⟩).map
        (adjustmentCanExplainSettlement ⟨1_769_977_800_000⟩) = some false ∧
      ¬ WindowCovers ⟨1_769_977_800_000⟩ := by
  have hexpected : expectedSettlementDate ⟨1_769_977_800_000⟩ = some ⟨1_770_163_200_000⟩ := by
    decide
  have hrejected : adjustmentCanExplainSettlement ⟨1_769_977_800_000⟩ ⟨1_770_163_200_000⟩ =
      false := by decide
  refine ⟨by decide, by decide, by decide, by decide, fun h => ?_⟩
  rw [h _ hexpected ⟨1_769_977_800_000⟩ le_rfl (by decide)] at hrejected
  cases hrejected

end SettlementOps
