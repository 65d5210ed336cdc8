import SettlementOps.Numeric.Tracking
import SettlementOps.Policy.Rounding

/-!
# What rounding line by line can add up to

A settlement of several lines rounds the fee and the tax of each of them; the schedule
applied once to the whole rounds twice.

* `applyBasisPoints_tracks` — one rounding moves a value by half a unit at most.
* `FeeScheduleVersion.net` — an amount less its scheduled fee and the tax on it.
* `net_tracks`, `roundingTolerance_adequate` — at most 1.09 minor units a line, so the drift
  of up to ninety lines stays within their tolerance.
-/

namespace SettlementOps

open Numeric

/-- A basis-point rate, rounded. -/
theorem applyBasisPoints_tracks (bps : Int) :
    Tracks 10_000 bps 5_000 fun amountMinor => applyBasisPoints amountMinor bps := by
  intro amountMinor
  have hrounds := mulDivHalfUp_halfAway amountMinor bps BPS_DENOMINATOR (by decide)
  have hnearest : 2 * |10_000 * applyBasisPoints amountMinor bps - amountMinor * bps| ≤ 10_000 :=
    hrounds.nearest
  show |10_000 * applyBasisPoints amountMinor bps - bps * amountMinor| ≤ 5_000
  rw [mul_comm bps]
  omega

/-- An amount less its scheduled fee and the scheduled tax on that fee. -/
def FeeScheduleVersion.net (schedule : FeeScheduleVersion) (method : PaymentMethod)
    (gross : Money) : Int :=
  let scheduled := schedule.feeOn gross method
  gross.amountMinor - scheduled.fee.amountMinor - scheduled.tax.amountMinor

/-- The tax is 0.18 of the fee, so the half unit the fee is rounded by costs 0.59 of a minor
unit, and the rounding of the tax another half. -/
theorem net_tracks {schedule : FeeScheduleVersion} (htax : schedule.taxOnFeeBps = GST_BPS)
    (method : PaymentMethod) (currency : Currency) :
    ∃ slope, Tracks (10_000 * 10_000) slope 109_000_000
      fun amountMinor => schedule.net method ⟨amountMinor, currency⟩ := by
  have hfee := applyBasisPoints_tracks (schedule.feeRateBps method)
  have htax' := applyBasisPoints_tracks schedule.taxOnFeeBps
  have hgst : schedule.taxOnFeeBps = 1_800 := htax
  have hafter := ((tracks_id (10_000 * 10_000 : Int)).sub
    (hfee.rescale (c := 10_000) (by decide))).sub (htax'.comp hfee (by decide) (by omega))
  refine ⟨_, fun amountMinor => le_trans (hafter amountMinor) ?_⟩
  rw [hgst]
  decide

/-- **The tolerance covers honest rounding.**  Split a gross amount into up to ninety parts in
any way: the nets of the parts add up to the net of the whole within the tolerance for that
many lines, so the difference is explained. -/
theorem roundingTolerance_adequate {schedule : FeeScheduleVersion}
    (hschedule : schedule ∈ FEE_SCHEDULES) (method : PaymentMethod) (currency : Currency)
    {grossMinor : Int} {parts : List Int} (hsplit : parts.sum = grossMinor)
    (hone : 1 ≤ parts.length) (hninety : parts.length ≤ 90) :
    |(parts.map fun part => schedule.net method ⟨part, currency⟩).sum -
        schedule.net method ⟨grossMinor, currency⟩| ≤ roundingToleranceFor parts.length ∧
      withinRoundingTolerance ((parts.map fun part => schedule.net method ⟨part, currency⟩).sum -
        schedule.net method ⟨grossMinor, currency⟩) parts.length = true := by
  have htax : schedule.taxOnFeeBps = GST_BPS := by
    simp only [FEE_SCHEDULES, List.mem_cons, List.not_mem_nil, or_false] at hschedule
    rcases hschedule with rfl | rfl <;> rfl
  obtain ⟨slope, htracks⟩ := net_tracks htax method currency
  have hsum := htracks.sum parts
  rw [hsplit, abs_mul, abs_of_pos (by decide)] at hsum
  have hdrift : |(parts.map fun part => schedule.net method ⟨part, currency⟩).sum -
      schedule.net method ⟨grossMinor, currency⟩| ≤ roundingToleranceFor parts.length := by
    rw [roundingToleranceFor_eq_min]
    omega
  exact ⟨hdrift, withinRoundingTolerance_iff.2 hdrift⟩

/-- Three payments by card of 20 minor units each: every fee rounds up, their sum does not. -/
theorem roundingTolerance_adequate_thrice :
    [20, 20, 20].map (fun part => feeScheduleV1.net .card ⟨part, "INR"⟩) = [19, 19, 19] ∧
      feeScheduleV1.net .card ⟨60, "INR"⟩ = 58 ∧
      withinRoundingTolerance (([20, 20, 20].map fun part =>
        feeScheduleV1.net .card ⟨part, "INR"⟩).sum - feeScheduleV1.net .card ⟨60, "INR"⟩)
          3 = true := by
  have hschedule : feeScheduleV1 ∈ FEE_SCHEDULES := List.mem_cons_self
  have hsplit : ([20, 20, 20] : List Int).sum = 60 := rfl
  exact ⟨by decide, by decide,
    (roundingTolerance_adequate hschedule .card "INR" hsplit (by decide) (by decide)).2⟩

end SettlementOps
