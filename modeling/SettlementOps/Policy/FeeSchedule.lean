import SettlementOps.Calendar
import SettlementOps.Money

/-!
# Rounding, tolerances and the fee schedule

The versioned financial policy, without the settlement calendar.

* `mulDivHalfUp` — every rate application, rounded half away from zero.
* `roundingToleranceFor` — the drift rounding may explain, at most
  `ROUNDING_TOLERANCE_ABSOLUTE_CAP_MINOR`.
* `scheduleAt`, `scheduledFeeFor` — the published schedule in force at an instant and
  the fee and tax it asks for.
-/

namespace SettlementOps

/-- Version of the financial policy, carried by every verdict. -/
def POLICY_VERSION : String := "1.0.0"

/-! ## Integer rounding -/

/-- `(amount * numerator) / denominator`, rounded half away from zero.  The source
throws when the denominator is zero, so a caller has to bring the evidence. -/
def mulDivHalfUp (amount numerator denominator : Int) (_h : denominator ≠ 0) : Int :=
  let product := amount * numerator
  let negative := product < 0
  let magnitude := if negative then -product else product
  let absDenominator := if denominator < 0 then -denominator else denominator
  let quotient := magnitude / absDenominator
  let remainder := magnitude % absDenominator
  let rounded := if remainder * 2 ≥ absDenominator then quotient + 1 else quotient
  if negative then -rounded else rounded

def BPS_DENOMINATOR : Int := 10_000

/-- Applies a basis-point rate to an amount in minor units. -/
def applyBasisPoints (amountMinor : Int) (bps : Int) : Int :=
  mulDivHalfUp amountMinor bps BPS_DENOMINATOR (by decide)

example : applyBasisPoints 1_000_000 250 = 25_000 := by decide

/-! ## Tolerances -/

/-- Maximum honest drift from one rounding operation, per contributing record. -/
def ROUNDING_TOLERANCE_PER_RECORD_MINOR : Int := 2

/-- Absolute ceiling on the variance rounding may ever explain. -/
def ROUNDING_TOLERANCE_ABSOLUTE_CAP_MINOR : Int := 100

def AMOUNT_MATCH_TOLERANCE_MINOR : Int := 0

def SETTLEMENT_DATE_MATCH_TOLERANCE_DAYS : Int := 1

def NEAR_DUPLICATE_WINDOW_SECONDS : Int := 60

/-- Exact amount agreement, outside the rounding path. -/
def withinAmountMatchTolerance (varianceMinor : Int) : Bool :=
  let magnitude := if varianceMinor < 0 then -varianceMinor else varianceMinor
  magnitude ≤ AMOUNT_MATCH_TOLERANCE_MINOR

/-- The aggregate allowance of a number of contributing records, capped. -/
def roundingToleranceFor (lineCount : Nat) : Int :=
  let scaled := ROUNDING_TOLERANCE_PER_RECORD_MINOR * (max 1 lineCount : Nat)
  if scaled > ROUNDING_TOLERANCE_ABSOLUTE_CAP_MINOR then ROUNDING_TOLERANCE_ABSOLUTE_CAP_MINOR
  else scaled

/-- Whether a variance is small enough to be explained by rounding alone. -/
def withinRoundingTolerance (varianceMinor : Int) (lineCount : Nat) : Bool :=
  let magnitude := if varianceMinor < 0 then -varianceMinor else varianceMinor
  magnitude ≤ roundingToleranceFor lineCount

theorem magnitude_eq_abs (v : Int) : (if v < 0 then -v else v) = |v| := by
  split
  · rw [abs_of_neg (by assumption)]
  · rw [abs_of_nonneg (by omega)]

/-- Outside the rounding path only the amount itself agrees. -/
theorem withinAmountMatchTolerance_iff {v : Int} :
    withinAmountMatchTolerance v = true ↔ v = 0 := by
  simp [withinAmountMatchTolerance, magnitude_eq_abs, AMOUNT_MATCH_TOLERANCE_MINOR]

/-- Two minor units a record, one hundred at most. -/
theorem roundingToleranceFor_eq_min (n : Nat) :
    roundingToleranceFor n = min 100 (2 * ((max 1 n : Nat) : Int)) := by
  unfold roundingToleranceFor
  dsimp only
  split <;> simp only [ROUNDING_TOLERANCE_PER_RECORD_MINOR,
    ROUNDING_TOLERANCE_ABSOLUTE_CAP_MINOR] at * <;> omega

theorem withinRoundingTolerance_iff {v : Int} {n : Nat} :
    withinRoundingTolerance v n = true ↔ |v| ≤ roundingToleranceFor n := by
  simp [withinRoundingTolerance, magnitude_eq_abs]

/-- Rounding never explains more than the ceiling. -/
theorem roundingToleranceFor_le_cap (n : Nat) :
    roundingToleranceFor n ≤ ROUNDING_TOLERANCE_ABSOLUTE_CAP_MINOR := by
  rw [roundingToleranceFor_eq_min, ROUNDING_TOLERANCE_ABSOLUTE_CAP_MINOR]
  exact min_le_left _ _

/-! ## The fee schedule -/

inductive PaymentMethod
  | card
  | netbanking
  | upi
  | wallet
  deriving DecidableEq, Repr

/-- The code a payment method is written as. -/
def PaymentMethod.code : PaymentMethod → String
  | .card => "CARD"
  | .netbanking => "NETBANKING"
  | .upi => "UPI"
  | .wallet => "WALLET"

structure FeeScheduleVersion where
  id : String
  effectiveFrom : Date
  feeRateBps : PaymentMethod → Int
  taxOnFeeBps : Int

/-- The tax rate, applied to the fee and not to the gross amount. -/
def GST_BPS : Int := 1_800

def feeScheduleV1 : FeeScheduleVersion where
  id := "fee-schedule-v1"
  effectiveFrom := ⟨1_767_225_600_000⟩ -- 2026-01-01T00:00:00Z
  feeRateBps
    | .card => 250
    | .netbanking => 190
    | .upi => 0
    | .wallet => 200
  taxOnFeeBps := GST_BPS

def feeScheduleV2 : FeeScheduleVersion where
  id := "fee-schedule-v2"
  effectiveFrom := ⟨1_775_001_600_000⟩ -- 2026-04-01T00:00:00Z
  feeRateBps
    | .card => 230
    | .netbanking => 190
    | .upi => 0
    | .wallet => 200
  taxOnFeeBps := GST_BPS

def FEE_SCHEDULES : List FeeScheduleVersion := [feeScheduleV1, feeScheduleV2]

example : FEE_SCHEDULES.map (fun s => Calendar.toISOString s.effectiveFrom) =
    ["2026-01-01T00:00:00.000Z", "2026-04-01T00:00:00.000Z"] := by decide

/-- The schedule in force at an instant: of those effective by then, the latest. -/
def scheduleAt (instant : Date) : Option FeeScheduleVersion :=
  FEE_SCHEDULES.foldl
    (fun selected schedule =>
      if schedule.effectiveFrom.getTime ≤ instant.getTime then
        match selected with
        | none => some schedule
        | some s =>
            if schedule.effectiveFrom.getTime > s.effectiveFrom.getTime then some schedule
            else selected
      else selected)
    none

/-- Fee and tax a schedule asks for. -/
structure ScheduledFee where
  fee : Money
  tax : Money
  scheduleId : String
  deriving DecidableEq, Repr

/-- Fee and tax one schedule asks for. -/
def FeeScheduleVersion.feeOn (schedule : FeeScheduleVersion) (gross : Money)
    (method : PaymentMethod) : ScheduledFee :=
  let feeMinor := applyBasisPoints gross.amountMinor (schedule.feeRateBps method)
  let taxMinor := applyBasisPoints feeMinor schedule.taxOnFeeBps
  { fee := ⟨feeMinor, gross.currency⟩
    tax := ⟨taxMinor, gross.currency⟩
    scheduleId := schedule.id }

/-- Fee and tax the published schedule says should apply, or nothing before the first
schedule. -/
def scheduledFeeFor (gross : Money) (method : PaymentMethod) (instant : Date) :
    Option ScheduledFee :=
  (scheduleAt instant).map fun schedule => schedule.feeOn gross method

/-- The schedule in force, by the two dates. -/
theorem scheduleAt_eq (instant : Date) :
    scheduleAt instant =
      if instant.getTime < feeScheduleV1.effectiveFrom.getTime then none
      else if instant.getTime < feeScheduleV2.effectiveFrom.getTime then some feeScheduleV1
      else some feeScheduleV2 := by
  simp only [scheduleAt, FEE_SCHEDULES, List.foldl_cons, List.foldl_nil]
  rcases lt_or_ge instant.getTime feeScheduleV1.effectiveFrom.getTime with h₁ | h₁
  · have h₂ : ¬ feeScheduleV2.effectiveFrom.getTime ≤ instant.getTime :=
      fun h => absurd (lt_of_le_of_lt h h₁) (by decide)
    simp only [if_pos h₁, if_neg (not_le.2 h₁), if_neg h₂]
  · rcases lt_or_ge instant.getTime feeScheduleV2.effectiveFrom.getTime with h₂ | h₂
    · simp only [if_pos h₁, if_neg (not_lt.2 h₁), if_pos h₂, if_neg (not_le.2 h₂)]
    · simp only [if_pos h₁, if_neg (not_lt.2 h₁), if_pos h₂, if_neg (not_lt.2 h₂)]
      rfl

/-- The scheduled fee and tax are in the currency of the gross amount. -/
theorem scheduledFeeFor_currency {gross : Money} {method : PaymentMethod} {instant : Date}
    {s : ScheduledFee} (h : scheduledFeeFor gross method instant = some s) :
    s.fee.currency = gross.currency ∧ s.tax.currency = gross.currency := by
  obtain ⟨schedule, -, rfl⟩ := Option.map_eq_some_iff.1 h
  exact ⟨rfl, rfl⟩

end SettlementOps
