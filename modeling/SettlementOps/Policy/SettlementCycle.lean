import SettlementOps.Calendar
import Mathlib.Tactic.Ring

/-!
# Settlement timing windows

T+2 business-day settlement with an evening cutoff, on a calendar without holidays.

* `walkDates` — the loop behind both calendar functions: stride by whole days until enough
  business days were met.  `walk` is the same in unbounded time.  `walk_isSome` shows that
  three strides a business day are always enough, so the loop ends, `walkBusinessDays_spec`
  where, and `walkDates_cases` that it ends there or has left the range of dates.
* `expectedSettlementDate` — forward from the capture date; `settlementInstant` in unbounded
  time, and `expectedSettlementDate_eq` that they agree where there is such a date.
* `businessDaysBefore`, `adjustmentCanExplainSettlement` — backward from a settlement.
-/

namespace SettlementOps

open Calendar

def SETTLEMENT_CYCLE_BUSINESS_DAYS : Nat := 2
def SETTLEMENT_CUTOFF_HOUR_IST : Int := 18
def IST_OFFSET_MINUTES : Int := 330
def REFUND_NETTING_MAX_CYCLES : Nat := 2
def BANK_CREDIT_EXPECTED_LAG_HOURS : Int := 24
def BANK_CREDIT_LATENESS_TOLERANCE_HOURS : Int := 72
def ADJUSTMENT_ACCRUAL_WINDOW_BUSINESS_DAYS : Nat := SETTLEMENT_CYCLE_BUSINESS_DAYS
def EVIDENCE_REQUEST_EXPIRY_DAYS : Int := 7

/-- The instant shifted so that its UTC fields read as Indian standard time. -/
def toIst (instant : Date) : Option Date := instant.plus (IST_OFFSET_MINUTES * msPerMinute)

/-- The same in unbounded time. -/
def indianTime (instant : Date) : Date := ⟨instant.getTime + IST_OFFSET_MINUTES * msPerMinute⟩

def isWeekday (t : Date) : Bool :=
  let day := utcDay t
  day != 0 && day != 6

/-- Saturday and Sunday are the non-business days.  The day of the Invalid Date is neither. -/
def isBusinessDay (istDate : Option Date) : Bool := istDate.all isWeekday

/-! ## Walking over business days -/

/-- Stride from `cursor` until `remaining` business days were met, in unbounded time. -/
def walk (stride : Int) : Nat → Date → Nat → Option Date
  | _, cursor, 0 => some cursor
  | 0, _, _ + 1 => none
  | fuel + 1, cursor, remaining + 1 =>
      let next : Date := ⟨cursor.getTime + stride⟩
      if isWeekday next then walk stride fuel next remaining
      else walk stride fuel next (remaining + 1)

/-- Stride from `cursor` until `remaining` business days were met. -/
def walkDates (stride : Int) : Nat → Option Date → Nat → Option (Option Date)
  | _, cursor, 0 => some cursor
  | 0, _, _ + 1 => none
  | fuel + 1, cursor, remaining + 1 =>
      let next := cursor.bind fun t => t.plus stride
      if isBusinessDay next then walkDates stride fuel next remaining
      else walkDates stride fuel next (remaining + 1)

/-- A stride of one day, forward or backward. -/
def IsDayStride (stride : Int) : Prop := stride = msPerDay ∨ stride = -msPerDay

theorem forward_isDayStride : IsDayStride msPerDay := .inl rfl

theorem back_isDayStride : IsDayStride (-msPerDay) := .inr rfl

theorem utcDay_eq (t : Date) : utcDay t = (t.getTime / 86_400_000 + 4) % 7 := rfl

/-- A weekend has two days: of three days in a row one is a business day. -/
theorem isWeekday_within_three {stride : Int} (hs : IsDayStride stride) (t : Date) :
    isWeekday ⟨t.getTime + stride⟩ = true ∨
      isWeekday ⟨t.getTime + stride + stride⟩ = true ∨
        isWeekday ⟨t.getTime + stride + stride + stride⟩ = true := by
  have hday : msPerDay = 86_400_000 := rfl
  simp only [isWeekday, utcDay_eq, Bool.and_eq_true, bne_iff_ne, ne_eq]
  rcases hs with rfl | rfl <;> rw [hday] <;> omega

/-- **The walk ends.**  Three strides a business day are enough. -/
theorem walk_isSome {stride : Int} (hs : IsDayStride stride) (remaining : Nat) :
    ∀ (fuel : Nat) (cursor : Date), 3 * remaining ≤ fuel →
      (walk stride fuel cursor remaining).isSome = true := by
  induction remaining with
  | zero =>
      intro fuel cursor _
      simp [walk]
  | succ r ih =>
      intro fuel cursor hf
      obtain ⟨k, rfl⟩ : ∃ k, fuel = k + 3 := ⟨fuel - 3, by omega⟩
      rw [walk]
      by_cases h₁ : isWeekday ⟨cursor.getTime + stride⟩ = true
      · rw [if_pos h₁]
        exact ih _ _ (by omega)
      rw [if_neg h₁, walk]
      by_cases h₂ : isWeekday ⟨cursor.getTime + stride + stride⟩ = true
      · rw [if_pos h₂]
        exact ih _ _ (by omega)
      rw [if_neg h₂, walk]
      have h₃ : isWeekday ⟨cursor.getTime + stride + stride + stride⟩ = true := by
        rcases isWeekday_within_three hs cursor with h | h | h
        · exact absurd h h₁
        · exact absurd h h₂
        · exact h
      rw [if_pos h₃]
      exact ih _ _ (by omega)

/-- How many of the first strides from `cursor` end on a business day. -/
def businessDaysMet (stride : Int) (cursor : Date) : Nat → Nat
  | 0 => 0
  | strides + 1 =>
      (if isWeekday ⟨cursor.getTime + stride⟩ then 1 else 0) +
        businessDaysMet stride ⟨cursor.getTime + stride⟩ strides

theorem businessDaysMet_le (stride : Int) (strides : Nat) :
    ∀ cursor, businessDaysMet stride cursor strides ≤ strides := by
  induction strides with
  | zero =>
      intro cursor
      exact le_rfl
  | succ n ih =>
      intro cursor
      have hrest := ih ⟨cursor.getTime + stride⟩
      rw [businessDaysMet]
      split <;> omega

/-- **Where a walk ends**: after the first number of strides that met enough business days. -/
theorem walk_eq_some {stride : Int} {t : Date} (fuel : Nat) :
    ∀ (cursor : Date) (remaining : Nat), walk stride fuel cursor remaining = some t →
      ∃ strides ≤ fuel, t.getTime = cursor.getTime + strides * stride ∧
        businessDaysMet stride cursor strides = remaining ∧
          ∀ n < strides, businessDaysMet stride cursor n < remaining := by
  induction fuel with
  | zero =>
      intro cursor remaining h
      cases remaining with
      | zero =>
          rw [walk, Option.some.injEq] at h
          subst h
          exact ⟨0, le_rfl, by simp, rfl, fun n hn => absurd hn (Nat.not_lt_zero n)⟩
      | succ r => cases h
  | succ fuel ih =>
      intro cursor remaining h
      cases remaining with
      | zero =>
          rw [walk, Option.some.injEq] at h
          subst h
          exact ⟨0, Nat.zero_le _, by simp, rfl, fun n hn => absurd hn (Nat.not_lt_zero n)⟩
      | succ r =>
          -- one stride, and then the walk from there
          obtain ⟨met, hmet⟩ : ∃ met : Nat,
              met = if isWeekday ⟨cursor.getTime + stride⟩ then 1 else 0 := ⟨_, rfl⟩
          have hone : met ≤ 1 := by
            rw [hmet]
            split <;> omega
          have hrest : walk stride fuel ⟨cursor.getTime + stride⟩ (r + 1 - met) = some t := by
            rw [walk] at h
            rw [hmet]
            split at h
            · rename_i hday
              rw [if_pos hday]
              exact h
            · rename_i hday
              rw [if_neg hday]
              exact h
          obtain ⟨strides, hle, ht, hall, hfirst⟩ := ih _ _ hrest
          refine ⟨strides + 1, Nat.succ_le_succ hle, ?_, ?_, fun n hn => ?_⟩
          · rw [ht]
            push_cast
            ring
          · rw [businessDaysMet, ← hmet, hall]
            omega
          · cases n with
            | zero => exact Nat.succ_pos r
            | succ n =>
                have hbefore := hfirst n (Nat.lt_of_succ_lt_succ hn)
                rw [businessDaysMet, ← hmet]
                omega

/-- The day that lies `days` business days from `cursor` in the direction of `stride`. -/
def walkBusinessDays (stride : Int) (hs : IsDayStride stride) (cursor : Date) (days : Nat) :
    Date :=
  (walk stride (3 * days) cursor days).get (walk_isSome hs days _ cursor le_rfl)

/-- **A walk over business days ends on the last of as many as it was to meet.** -/
theorem walkBusinessDays_spec {stride : Int} (hs : IsDayStride stride) (cursor : Date)
    (days : Nat) :
    ∃ strides ≤ 3 * days,
      (walkBusinessDays stride hs cursor days).getTime = cursor.getTime + strides * stride ∧
        businessDaysMet stride cursor strides = days ∧
          ∀ n < strides, businessDaysMet stride cursor n < days :=
  walk_eq_some _ _ _ (Option.some_get _).symm

/-- A walk forward gains at least a day for each business day, and at most three. -/
theorem walkBusinessDays_forward_bounds (cursor : Date) (days : Nat) :
    cursor.getTime + days * msPerDay ≤
        (walkBusinessDays msPerDay forward_isDayStride cursor days).getTime ∧
      (walkBusinessDays msPerDay forward_isDayStride cursor days).getTime ≤
        cursor.getTime + 3 * days * msPerDay := by
  have hday : msPerDay = 86_400_000 := rfl
  obtain ⟨strides, hmost, ht, hmet, -⟩ := walkBusinessDays_spec forward_isDayStride cursor days
  have hle := businessDaysMet_le msPerDay strides cursor
  rw [ht, hday]
  omega

/-- So does a walk back lose them. -/
theorem walkBusinessDays_back_bounds (cursor : Date) (days : Nat) :
    cursor.getTime - 3 * days * msPerDay ≤
        (walkBusinessDays (-msPerDay) back_isDayStride cursor days).getTime ∧
      (walkBusinessDays (-msPerDay) back_isDayStride cursor days).getTime ≤
        cursor.getTime - days * msPerDay := by
  have hday : msPerDay = 86_400_000 := rfl
  obtain ⟨strides, hmost, ht, hmet, -⟩ := walkBusinessDays_spec back_isDayStride cursor days
  have hle := businessDaysMet_le (-msPerDay) strides cursor
  rw [ht, hday]
  omega

/-! ## Leaving the range of dates -/

section Range

variable {stride : Int}

theorem le_fuel_of_walk {u : Date} (fuel : Nat) : ∀ {t : Date} {remaining : Nat},
    walk stride fuel t remaining = some u → remaining ≤ fuel := by
  induction fuel with
  | zero =>
      intro t remaining h
      cases remaining with
      | zero => exact le_rfl
      | succ r => cases h
  | succ fuel ih =>
      intro t remaining h
      cases remaining with
      | zero => exact Nat.zero_le _
      | succ r =>
          rw [walk] at h
          split at h
          · exact Nat.succ_le_succ (ih h)
          · exact (ih h).trans (Nat.le_succ _)

/-- Beyond the range every stride counts. -/
theorem walkDates_none (fuel : Nat) : ∀ {remaining : Nat}, remaining ≤ fuel →
    walkDates stride fuel none remaining = some none := by
  induction fuel with
  | zero =>
      intro remaining h
      rw [Nat.le_zero.1 h]
      rfl
  | succ fuel ih =>
      intro remaining h
      cases remaining with
      | zero => rfl
      | succ r => exact ih (Nat.le_of_succ_le_succ h)

/-- From a date the walk strides out of the range, and ends further on. -/
def Crosses (stride : Int) (u : Date) : Prop :=
  ∃ (v : Date) (n : Nat), v.Valid ∧ ¬ Date.Valid ⟨v.getTime + stride⟩ ∧
    u.getTime = v.getTime + stride + n * stride

/-- **The loop ends where the walk does**, unless that has left the range of dates. -/
theorem walkDates_cases {u : Date} (fuel : Nat) : ∀ {t : Date} {remaining : Nat},
    walk stride fuel t remaining = some u →
      walkDates stride fuel (some t) remaining = some (some u) ∧ (t.Valid → u.Valid) ∨
        walkDates stride fuel (some t) remaining = some none ∧ Crosses stride u := by
  induction fuel with
  | zero =>
      intro t remaining h
      cases remaining with
      | zero =>
          cases h
          exact .inl ⟨rfl, id⟩
      | succ r => cases h
  | succ fuel ih =>
      intro t remaining h
      cases remaining with
      | zero =>
          cases h
          exact .inl ⟨rfl, id⟩
      | succ r =>
          have hfuel := le_fuel_of_walk _ h
          obtain ⟨strides, -, hu, hmet, -⟩ := walk_eq_some _ _ _ h
          rw [walk] at h
          rw [walkDates, Option.bind_some]
          by_cases hout : t.Valid ∧ ¬ Date.Valid ⟨t.getTime + stride⟩
          · -- the cursor is the Invalid Date from here on
            rw [Date.plus, if_pos hout]
            refine .inr ⟨walkDates_none fuel (Nat.le_of_succ_le_succ hfuel), t, strides - 1, hout.1,
              hout.2, ?_⟩
            have hone : 1 ≤ strides := by
              cases strides with
              | zero => cases hmet
              | succ n => omega
            rw [hu, Nat.cast_sub hone]
            push_cast
            ring
          · have hvalid : t.Valid → Date.Valid ⟨t.getTime + stride⟩ := fun ht =>
              not_not.1 fun hnot => hout ⟨ht, hnot⟩
            have hday : isBusinessDay (some ⟨t.getTime + stride⟩) =
                isWeekday ⟨t.getTime + stride⟩ := rfl
            rw [Date.plus, if_neg hout, hday]
            split at h
            · rename_i hweekday
              rw [if_pos hweekday]
              exact (ih h).imp_left fun hsame => ⟨hsame.1, fun ht => hsame.2 (hvalid ht)⟩
            · rename_i hweekend
              rw [if_neg hweekend]
              exact (ih h).imp_left fun hsame => ⟨hsame.1, fun ht => hsame.2 (hvalid ht)⟩

theorem walkDates_isSome (hs : IsDayStride stride) (cursor : Option Date) (remaining fuel : Nat)
    (hfuel : 3 * remaining ≤ fuel) : (walkDates stride fuel cursor remaining).isSome = true := by
  cases cursor with
  | none => rw [walkDates_none fuel (by omega), Option.isSome_some]
  | some t =>
      obtain ⟨u, hu⟩ := Option.isSome_iff_exists.1 (walk_isSome hs remaining fuel t hfuel)
      rcases walkDates_cases fuel hu with ⟨h, -⟩ | ⟨h, -⟩
      · rw [h, Option.isSome_some]
      · rw [h, Option.isSome_some]

/-- The date that lies `days` business days from `cursor` in the direction of `stride`. -/
def walkBusinessDates (stride : Int) (hs : IsDayStride stride) (cursor : Option Date)
    (days : Nat) : Option Date :=
  (walkDates stride (3 * days) cursor days).get (walkDates_isSome hs cursor days _ le_rfl)

theorem walkBusinessDates_none (hs : IsDayStride stride) (days : Nat) :
    walkBusinessDates stride hs none days = none :=
  Option.get_of_eq_some _ (walkDates_none _ (by omega))

theorem walkBusinessDates_cases (hs : IsDayStride stride) (t : Date) (days : Nat) :
    walkBusinessDates stride hs (some t) days = some (walkBusinessDays stride hs t days) ∧
        (t.Valid → (walkBusinessDays stride hs t days).Valid) ∨
      walkBusinessDates stride hs (some t) days = none ∧
        Crosses stride (walkBusinessDays stride hs t days) := by
  have hwalk : walk stride (3 * days) t days = some (walkBusinessDays stride hs t days) :=
    (Option.some_get _).symm
  exact (walkDates_cases _ hwalk).imp
    (fun h => ⟨Option.get_of_eq_some _ h.1, h.2⟩) fun h => ⟨Option.get_of_eq_some _ h.1, h.2⟩

end Range

/-- Forward the range is left for good at its end. -/
theorem lt_of_crosses {u : Date} (h : Crosses msPerDay u) : MAX_TIME < u.getTime := by
  obtain ⟨v, n, hv, hout, hu⟩ := h
  have hday : msPerDay = 86_400_000 := rfl
  simp only [Date.Valid, hday] at hv hout
  rw [hu, hday]
  omega

/-- Backward it is left at its beginning. -/
theorem lt_of_crosses_back {u : Date} (h : Crosses (-msPerDay) u) : u.getTime < -MAX_TIME := by
  obtain ⟨v, n, hv, hout, hu⟩ := h
  have hday : msPerDay = 86_400_000 := rfl
  simp only [Date.Valid, hday] at hv hout
  rw [hu, hday]
  omega

/-- **The loop forward** ends on the date the walk ends on, if it is one. -/
theorem walkBusinessDates_forward {time : Int} (h : -MAX_TIME ≤ time) (days : Nat) :
    walkBusinessDates msPerDay forward_isDayStride (newDate time) days =
      newDate (walkBusinessDays msPerDay forward_isDayStride ⟨time⟩ days).getTime := by
  have hle := (walkBusinessDays_forward_bounds ⟨time⟩ days).1
  have hnonneg : 0 ≤ (days : Int) * msPerDay := mul_nonneg (Int.natCast_nonneg _) (by decide)
  by_cases ht : Date.Valid ⟨time⟩
  · rw [newDate_of_valid ht]
    rcases walkBusinessDates_cases forward_isDayStride ⟨time⟩ days with
      ⟨hsome, hvalid⟩ | ⟨hnone, hcross⟩
    · rw [hsome, newDate_of_valid (hvalid ht)]
    · have hout := lt_of_crosses hcross
      rw [hnone, newDate_of_not_valid fun hu => absurd hu.2 (not_le.2 hout)]
  · -- the walk has left the range before it began
    have hout : MAX_TIME < time := not_le.1 fun hmax => ht ⟨h, hmax⟩
    dsimp only at hle
    rw [newDate_of_not_valid ht, walkBusinessDates_none,
      newDate_of_not_valid fun hu => absurd hu.2 (by omega)]

/-- **The loop back** ends where the walk does, when that is no earlier than any date. -/
theorem walkBusinessDates_back {t : Date} {days : Nat}
    (h : -MAX_TIME ≤ (walkBusinessDays (-msPerDay) back_isDayStride t days).getTime) :
    walkBusinessDates (-msPerDay) back_isDayStride (some t) days =
      some (walkBusinessDays (-msPerDay) back_isDayStride t days) := by
  rcases walkBusinessDates_cases back_isDayStride t days with ⟨hsome, -⟩ | ⟨-, hcross⟩
  · exact hsome
  · exact absurd (lt_of_crosses_back hcross) (not_lt.2 h)

/-! ## The windows -/

/-- The day the loop of `expectedSettlementDate` starts from. -/
def settlementCursor (capturedAt : Date) : Option Date :=
  let ist := toIst capturedAt
  let midnight := ist.bind fun ist =>
    newDate (dateUTC (utcFullYear ist) (utcMonth ist) (utcDate ist))
  if ist.any fun ist => utcHours ist ≥ SETTLEMENT_CUTOFF_HOUR_IST then
    midnight.bind fun cursor => cursor.plus msPerDay
  else midnight

/-- The settlement date of a capture: two business days on, where a capture after the
cutoff counts as the next day's. -/
def expectedSettlementDate (capturedAt : Date) : Option Date :=
  walkBusinessDates msPerDay forward_isDayStride (settlementCursor capturedAt)
    SETTLEMENT_CYCLE_BUSINESS_DAYS

/-- The start in unbounded time. -/
def settlementStart (capturedAt : Date) : Date :=
  let ist := indianTime capturedAt
  let midnight : Date := ⟨dateUTC (utcFullYear ist) (utcMonth ist) (utcDate ist)⟩
  if utcHours ist ≥ SETTLEMENT_CUTOFF_HOUR_IST then ⟨midnight.getTime + msPerDay⟩ else midnight

/-- The settlement date in unbounded time. -/
def settlementInstant (capturedAt : Date) : Date :=
  walkBusinessDays msPerDay forward_isDayStride (settlementStart capturedAt)
    SETTLEMENT_CYCLE_BUSINESS_DAYS

/-- Whole days between two instants: the floor of the difference, then its magnitude. -/
def daysBetween (a b : Date) : Nat := ((a.getTime - b.getTime) / msPerDay).natAbs

/-- Whether a bank credit landed within the modelled lag of its settlement. -/
def bankCreditWithinExpectedLag (settlementAt creditedAt : Date) : Bool :=
  -- the source divides by the hour first; nothing is rounded by not doing so
  let delta := creditedAt.getTime - settlementAt.getTime
  delta ≥ 0 && delta ≤ BANK_CREDIT_EXPECTED_LAG_HOURS * msPerHour

/-- Beyond this a late bank credit stops being an explanation. -/
def withinBankCreditLatenessTolerance (expected observed : Date) : Bool :=
  (expected.getTime - observed.getTime).natAbs ≤ BANK_CREDIT_LATENESS_TOLERANCE_HOURS * msPerHour

/-- `days` business days before a date, skipping weekends. -/
def businessDaysBefore (date : Date) (days : Nat) : Option Date :=
  walkBusinessDates (-msPerDay) back_isDayStride (some date) days

/-- Whether an adjustment can have affected a settlement's net: it is not later than the
settlement, and not more than one settlement cycle earlier. -/
def adjustmentCanExplainSettlement (adjustmentAt settlementAt : Date) : Bool :=
  if adjustmentAt.getTime > settlementAt.getTime then false
  else
    let windowStart := businessDaysBefore settlementAt ADJUSTMENT_ACCRUAL_WINDOW_BUSINESS_DAYS
    windowStart.any fun windowStart => adjustmentAt.getTime ≥ windowStart.getTime

/-- The window of a day difference.  The floor comes before the sign is dropped, so it reaches a
whole day further forward than back. -/
theorem daysBetween_le_iff {a b : Date} {days : Nat} :
    daysBetween a b ≤ days ↔ b.getTime - days * msPerDay ≤ a.getTime ∧
      a.getTime < b.getTime + (days + 1) * msPerDay := by
  have hpos : 0 < msPerDay := by decide
  have hback : -(days : Int) ≤ (a.getTime - b.getTime) / msPerDay ↔
      -(days : Int) * msPerDay ≤ a.getTime - b.getTime := Int.le_ediv_iff_mul_le hpos
  have hforward : (a.getTime - b.getTime) / msPerDay < days + 1 ↔
      a.getTime - b.getTime < (days + 1) * msPerDay := Int.ediv_lt_iff_lt_mul hpos
  rw [neg_mul] at hback
  unfold daysBetween
  constructor
  · intro h
    have h₁ := hback.1 (by omega)
    have h₂ := hforward.1 (by omega)
    omega
  · rintro ⟨h₁, h₂⟩
    have h₃ := hback.2 (by omega)
    have h₄ := hforward.2 (by omega)
    omega

theorem bankCreditWithinExpectedLag_iff {settlementAt creditedAt : Date} :
    bankCreditWithinExpectedLag settlementAt creditedAt = true ↔
      settlementAt.getTime ≤ creditedAt.getTime ∧
        creditedAt.getTime ≤ settlementAt.getTime + 86_400_000 := by
  have h : BANK_CREDIT_EXPECTED_LAG_HOURS * msPerHour = 86_400_000 := rfl
  simp only [bankCreditWithinExpectedLag, Bool.and_eq_true, decide_eq_true_eq, h]
  omega

/-- The window of a settlement: from two business days before it to the settlement. -/
theorem adjustmentCanExplainSettlement_iff {adjustmentAt settlementAt : Date} :
    adjustmentCanExplainSettlement adjustmentAt settlementAt = true ↔
      (∃ windowStart ∈ businessDaysBefore settlementAt SETTLEMENT_CYCLE_BUSINESS_DAYS,
          windowStart.getTime ≤ adjustmentAt.getTime) ∧
        adjustmentAt.getTime ≤ settlementAt.getTime := by
  unfold adjustmentCanExplainSettlement ADJUSTMENT_ACCRUAL_WINDOW_BUSINESS_DAYS
  split
  · rename_i hlater
    exact iff_of_false Bool.false_ne_true fun h => absurd h.2 (not_le.2 hlater)
  · rename_i hearlier
    simp only [Option.any_eq_true, decide_eq_true_eq, ge_iff_le, not_lt.1 hearlier, and_true,
      Option.mem_def]

/-- A number of business days before a date is at least as many days before it. -/
theorem businessDaysBefore_le {date windowStart : Date} {days : Nat}
    (h : businessDaysBefore date days = some windowStart) :
    windowStart.getTime ≤ date.getTime - days * msPerDay := by
  have hback := (walkBusinessDays_back_bounds date days).2
  rcases walkBusinessDates_cases back_isDayStride date days with ⟨hsome, -⟩ | ⟨hnone, -⟩
  · rw [businessDaysBefore, hsome, Option.some.injEq] at h
    rwa [h] at hback
  · rw [businessDaysBefore, hnone] at h
    cases h

/-- There is one, except for the first dates of all. -/
theorem businessDaysBefore_isSome {date : Date} {days : Nat}
    (h : -MAX_TIME + 3 * days * msPerDay ≤ date.getTime) :
    (businessDaysBefore date days).isSome = true := by
  have hback := (walkBusinessDays_back_bounds date days).1
  rw [businessDaysBefore, walkBusinessDates_back (by omega), Option.isSome_some]

/-- A capture settles more than a day later, and less than two millennia even where its year is
misread. -/
theorem settlementInstant_bounds (capturedAt : Date) :
    capturedAt.getTime + msPerDay < (settlementInstant capturedAt).getTime ∧
      (settlementInstant capturedAt).getTime < capturedAt.getTime + 700_000 * msPerDay := by
  have hday : msPerDay = 86_400_000 := rfl
  have hist : (indianTime capturedAt).getTime = capturedAt.getTime + 19_800_000 := rfl
  have hmidnight := dayNumber_le_dateUTC (indianTime capturedAt)
  have hmisread := dateUTC_le_dayNumber (indianTime capturedAt)
  unfold settlementInstant settlementStart
  dsimp only
  split
  · have hwalk := walkBusinessDays_forward_bounds ⟨dateUTC (utcFullYear (indianTime capturedAt))
      (utcMonth (indianTime capturedAt)) (utcDate (indianTime capturedAt)) + msPerDay⟩
      SETTLEMENT_CYCLE_BUSINESS_DAYS
    simp only [dayNumber, hday, hist, SETTLEMENT_CYCLE_BUSINESS_DAYS] at hmidnight hmisread hwalk ⊢
    omega
  · have hwalk := walkBusinessDays_forward_bounds ⟨dateUTC (utcFullYear (indianTime capturedAt))
      (utcMonth (indianTime capturedAt)) (utcDate (indianTime capturedAt))⟩
      SETTLEMENT_CYCLE_BUSINESS_DAYS
    -- the evening's captures are those of the other case
    rename_i hearly
    have hcutoff : SETTLEMENT_CUTOFF_HOUR_IST = 18 := rfl
    simp only [dayNumber, utcHours, msOfDay, msPerHour, hday, hist, hcutoff,
      SETTLEMENT_CYCLE_BUSINESS_DAYS] at hmidnight hmisread hearly hwalk ⊢
    omega

/-- It settles on a midnight. -/
theorem settlementInstant_midnight (capturedAt : Date) :
    (settlementInstant capturedAt).getTime % msPerDay = 0 := by
  have hday : msPerDay = 86_400_000 := rfl
  unfold settlementInstant settlementStart
  dsimp only
  split
  · obtain ⟨strides, -, ht, -⟩ := walkBusinessDays_spec forward_isDayStride ⟨dateUTC
      (utcFullYear (indianTime capturedAt)) (utcMonth (indianTime capturedAt))
      (utcDate (indianTime capturedAt)) + msPerDay⟩ SETTLEMENT_CYCLE_BUSINESS_DAYS
    rw [ht, dateUTC, hday]
    dsimp only
    omega
  · obtain ⟨strides, -, ht, -⟩ := walkBusinessDays_spec forward_isDayStride ⟨dateUTC
      (utcFullYear (indianTime capturedAt)) (utcMonth (indianTime capturedAt))
      (utcDate (indianTime capturedAt))⟩ SETTLEMENT_CYCLE_BUSINESS_DAYS
    rw [ht, dateUTC, hday]
    dsimp only
    omega

/-- Adding to a time that is not too early leaves the range at its end, if at all. -/
theorem newDate_bind_plus {time ms : Int} (h : -MAX_TIME ≤ time) (hms : 0 ≤ ms) :
    ((newDate time).bind fun t => t.plus ms) = newDate (time + ms) := by
  by_cases ht : Date.Valid ⟨time⟩
  · rw [newDate_of_valid ht, Option.bind_some, Date.plus_eq ht]
  · have hout : MAX_TIME < time := not_le.1 fun hmax => ht ⟨h, hmax⟩
    rw [newDate_of_not_valid ht, Option.bind_none,
      newDate_of_not_valid fun hnext => absurd hnext.2 (by dsimp only; omega)]

/-- **The expected settlement date of a capture** is the instant computed in unbounded time, if
that is a date. -/
theorem expectedSettlementDate_eq {capturedAt : Date} (h : capturedAt.Valid) :
    expectedSettlementDate capturedAt = newDate (settlementInstant capturedAt).getTime := by
  have hday : msPerDay = 86_400_000 := rfl
  have hmax : MAX_TIME = 8_640_000_000_000_000 := rfl
  have hist : (indianTime capturedAt).getTime = capturedAt.getTime + 19_800_000 := rfl
  have htoIst : toIst capturedAt = newDate (indianTime capturedAt).getTime := Date.plus_eq h _
  unfold expectedSettlementDate settlementCursor
  by_cases hvalid : (indianTime capturedAt).Valid
  · rw [htoIst, newDate_of_valid hvalid]
    dsimp only
    rw [Option.bind_some, Option.any_some]
    have hmidnight := dayNumber_le_dateUTC (indianTime capturedAt)
    have hle : -MAX_TIME ≤ dateUTC (utcFullYear (indianTime capturedAt))
        (utcMonth (indianTime capturedAt)) (utcDate (indianTime capturedAt)) := by
      refine le_trans ?_ hmidnight
      have hlow := h.1
      simp only [dayNumber, hist, hday, hmax] at hlow ⊢
      omega
    unfold settlementInstant settlementStart
    dsimp only
    simp only [decide_eq_true_eq]
    split
    · rw [newDate_bind_plus hle (by decide), walkBusinessDates_forward (by omega)]
    · rw [walkBusinessDates_forward hle]
  · -- the shift alone leaves the range
    have hlate := (settlementInstant_bounds capturedAt).1
    rw [htoIst, newDate_of_not_valid hvalid]
    dsimp only [Option.bind_none, Option.any_none]
    rw [if_neg Bool.false_ne_true, walkBusinessDates_none,
      newDate_of_not_valid fun hu => hvalid ?_]
    have hlow := h.1
    have hhigh := hu.2
    simp only [Date.Valid, hist, hday] at hlate hlow hhigh ⊢
    omega

/-- A date that is expected is that instant, and the loop started from a date. -/
theorem eq_of_expectedSettlementDate {capturedAt expected : Date}
    (h : expectedSettlementDate capturedAt = some expected) :
    expected = settlementInstant capturedAt ∧ expected.Valid ∧
      (settlementStart capturedAt).Valid := by
  have hstart : ∀ t, settlementCursor capturedAt = some t →
      t = settlementStart capturedAt ∧ t.Valid := by
    intro t ht
    unfold settlementCursor at ht
    dsimp only at ht
    cases hist : toIst capturedAt with
    | none =>
        rw [hist] at ht
        cases ht
    | some ist =>
        have hsame : ist = indianTime capturedAt := by
          unfold toIst Date.plus at hist
          split at hist
          · cases hist
          · cases hist
            rfl
        rw [hist, Option.bind_some, Option.any_some, hsame] at ht
        unfold settlementStart
        dsimp only
        simp only [decide_eq_true_eq] at ht
        split at ht
        · rename_i hlate
          rw [if_pos hlate]
          obtain ⟨midnight, hmidnight, hnext⟩ := Option.bind_eq_some_iff.1 ht
          obtain ⟨rfl, hvalid⟩ := newDate_eq_some hmidnight
          rw [Date.plus_eq hvalid] at hnext
          exact newDate_eq_some hnext
        · rename_i hearly
          rw [if_neg hearly]
          exact newDate_eq_some ht
  unfold expectedSettlementDate at h
  cases hcursor : settlementCursor capturedAt with
  | none =>
      rw [hcursor, walkBusinessDates_none] at h
      cases h
  | some t =>
      obtain ⟨rfl, hvalid⟩ := hstart t hcursor
      rw [hcursor] at h
      rcases walkBusinessDates_cases forward_isDayStride (settlementStart capturedAt)
        SETTLEMENT_CYCLE_BUSINESS_DAYS with ⟨hsome, hkeeps⟩ | ⟨hnone, -⟩
      · rw [hsome, Option.some.injEq] at h
        rw [← h]
        exact ⟨rfl, hkeeps hvalid, hvalid⟩
      · rw [hnone] at h
        cases h

/-- What is expected is expected more than a day after the capture. -/
theorem lt_expectedSettlementDate {capturedAt expected : Date}
    (h : expectedSettlementDate capturedAt = some expected) :
    capturedAt.getTime + msPerDay < expected.getTime := by
  rw [(eq_of_expectedSettlementDate h).1]
  exact (settlementInstant_bounds capturedAt).1

theorem expectedSettlementDate_midnight {capturedAt expected : Date}
    (h : expectedSettlementDate capturedAt = some expected) :
    expected.getTime % msPerDay = 0 := by
  rw [(eq_of_expectedSettlementDate h).1]
  exact settlementInstant_midnight capturedAt

-- captured on a Monday at 15:30 Indian time, settled on the Wednesday
example : (expectedSettlementDate ⟨1_770_026_400_000⟩).map toISOString =
    some "2026-02-04T00:00:00.000Z" := by decide

-- the last date there is, whose settlement date would be two days beyond it
example : expectedSettlementDate ⟨8_640_000_000_000_000⟩ = none := by decide

end SettlementOps
