import SettlementOps.Tools.Handlers

/-!
# The tax mapping tool

`validate_tax_line_mapping` tells the agent whether the tax lines are the tax on the fee lines.
It divides in whole numbers and drops the rest; the schedule rounds the same quotient half up.

* `validateTaxLineMapping` — the tool.
* `TaxMappingAgrees` — its verdict is the schedule's.
* `taxMapping_agrees_iff` — exactly when it is.
-/

namespace SettlementOps

def ReconciliationUnit.feeTotal (unit : ReconciliationUnit) : Int :=
  unit.fees.foldl (fun total f => total + f.amount.amountMinor) 0

def ReconciliationUnit.taxTotal (unit : ReconciliationUnit) : Int :=
  unit.taxes.foldl (fun total t => total + t.amount.amountMinor) 0

/-- `validate_tax_line_mapping`.  Without a capture time the schedule is that of `now`. -/
def validateTaxLineMapping (loadUnit : UnitLoader) (now : Date) (ctx : ToolContext) :
    ToolResult :=
  withUnit loadUnit ctx .validateTaxLineMapping fun unit =>
    let feeTotal := unit.feeTotal
    let taxTotal := unit.taxTotal
    let schedule := scheduleAt (unit.payment.capturedAt.getD now)
    -- `bigint` division truncates
    let expectedTax := schedule.map fun s => (feeTotal * s.taxOnFeeBps).tdiv 10_000
    let consistent := expectedTax.map fun tax => decide (taxTotal = tax)
    toolOk .validateTaxLineMapping
      [ ("fee_total_minor", .str (toString feeTotal)),
        ("tax_total_minor", .str (toString taxTotal)),
        ("expected_tax_on_fee_minor", .str? (expectedTax.map toString)),
        ("consistent", (consistent.map Json.bool).getD .null) ]
      (match consistent with
        | none => "no schedule in force; tax mapping not checkable"
        | some true => "tax lines are consistent with the fee lines"
        | some false => "tax lines do NOT match the fee lines under the applicable schedule")
      (unit.fees.map (·.id) ++ unit.taxes.map (·.id))

/-! ## Truncating and rounding half up -/

/-- Both roundings of a quotient by its magnitude `m`, on either side of zero. -/
theorem tdiv_applyBasisPoints (amount bps : Int) :
    ∃ m : Int, 0 ≤ m ∧ ∃ quotient rounded : Int, quotient = m / 10_000 ∧
      rounded = (if m % 10_000 < 5_000 then quotient else quotient + 1) ∧
      ((amount * bps = m ∧ (amount * bps).tdiv 10_000 = quotient ∧
          applyBasisPoints amount bps = rounded) ∨
        (amount * bps = -m ∧ (amount * bps).tdiv 10_000 = -quotient ∧
          applyBasisPoints amount bps = -rounded)) := by
  have hhalf : ∀ m : Int, (if m % 10_000 * 2 ≥ 10_000 then m / 10_000 + 1 else m / 10_000) =
      if m % 10_000 < 5_000 then m / 10_000 else m / 10_000 + 1 := by
    intro m
    split <;> split <;> omega
  unfold applyBasisPoints mulDivHalfUp BPS_DENOMINATOR
  dsimp only
  rw [if_neg (by decide : ¬ (10_000 : Int) < 0)]
  generalize amount * bps = exact
  by_cases hneg : exact < 0
  · refine ⟨-exact, by omega, _, _, rfl, rfl, .inr ⟨(neg_neg exact).symm, ?_, ?_⟩⟩
    · rw [← Int.tdiv_eq_ediv_of_nonneg (by omega), Int.neg_tdiv, neg_neg]
    · rw [if_pos hneg, if_pos hneg, hhalf]
  · refine ⟨exact, by omega, _, _, rfl, rfl, .inl ⟨rfl, ?_, ?_⟩⟩
    · rw [Int.tdiv_eq_ediv_of_nonneg (by omega)]
    · rw [if_neg hneg, if_neg hneg, hhalf]

/-- **They agree** where less than half a unit is dropped, and nowhere else. -/
theorem applyBasisPoints_eq_tdiv_iff {amount bps : Int} :
    applyBasisPoints amount bps = (amount * bps).tdiv 10_000 ↔
      (amount * bps).natAbs % 10_000 < 5_000 := by
  obtain ⟨m, hm, quotient, rounded, hq, hr, ⟨he, ht, ha⟩ | ⟨he, ht, ha⟩⟩ :=
    tdiv_applyBasisPoints amount bps
  all_goals
    rw [ht, ha, he]
    split at hr <;> omega

/-- Where they differ they are the two whole numbers next to the exact quotient. -/
theorem eq_tdiv_or_applyBasisPoints_iff {amount bps v : Int}
    (h : 5_000 ≤ (amount * bps).natAbs % 10_000) :
    v = (amount * bps).tdiv 10_000 ∨ v = applyBasisPoints amount bps ↔
      |10_000 * v - amount * bps| < 10_000 := by
  obtain ⟨m, hm, quotient, rounded, hq, hr, ⟨he, ht, ha⟩ | ⟨he, ht, ha⟩⟩ :=
    tdiv_applyBasisPoints amount bps
  all_goals
    rw [he] at h
    rw [ht, ha, he, abs_lt]
    rw [if_neg (by omega)] at hr
    omega

/-! ## The verdict of the tool -/

theorem validateTaxLineMapping_consistent {loadUnit : UnitLoader} {now : Date}
    {ctx : ToolContext} {unit : ReconciliationUnit} (hload : loadUnit ctx = some unit)
    {schedule : FeeScheduleVersion}
    (hschedule : scheduleAt (unit.payment.capturedAt.getD now) = some schedule) :
    (validateTaxLineMapping loadUnit now ctx).data.field? "consistent" =
      some (.bool (decide (unit.taxTotal =
        (unit.feeTotal * schedule.taxOnFeeBps).tdiv 10_000))) := by
  unfold validateTaxLineMapping withUnit
  rw [hload]
  simp only [hschedule]
  rfl

/-- The tool speaks for the schedule: what the schedule prescribes is consistent, and what it
calls inconsistent is exactly a tax total other than the tax on the fee total. -/
structure TaxMappingAgrees (loadUnit : UnitLoader) (now : Date) (ctx : ToolContext)
    (unit : ReconciliationUnit) : Prop where
  prescribed : ∀ capturedAt scheduled, unit.payment.capturedAt = some capturedAt →
    scheduledFeeFor unit.payment.amount unit.payment.paymentMethod capturedAt =
      some scheduled →
    unit.feeTotal = scheduled.fee.amountMinor → unit.taxTotal = scheduled.tax.amountMinor →
      (validateTaxLineMapping loadUnit now ctx).data.field? "consistent" = some (.bool true)
  mismatch : ∀ schedule, scheduleAt (unit.payment.capturedAt.getD now) = some schedule →
    ((validateTaxLineMapping loadUnit now ctx).data.field? "consistent" = some (.bool false) ↔
      unit.taxTotal ≠ applyBasisPoints unit.feeTotal schedule.taxOnFeeBps)

/-- The recorded totals do not show which way the tax was rounded: less than half a minor unit
is dropped, or the tax is off by a whole one. -/
def RoundingIrrelevant (feeTotal taxTotal taxOnFeeBps : Int) : Prop :=
  (feeTotal * taxOnFeeBps).natAbs % 10_000 < 5_000 ∨
    10_000 ≤ |10_000 * taxTotal - feeTotal * taxOnFeeBps|

/-- A total is judged alike by both roundings exactly when it does not show which was used. -/
theorem roundingIrrelevant_iff {feeTotal taxTotal taxOnFeeBps : Int} :
    RoundingIrrelevant feeTotal taxTotal taxOnFeeBps ↔
      (taxTotal = (feeTotal * taxOnFeeBps).tdiv 10_000 ↔
        taxTotal = applyBasisPoints feeTotal taxOnFeeBps) := by
  unfold RoundingIrrelevant
  by_cases h : (feeTotal * taxOnFeeBps).natAbs % 10_000 < 5_000
  · rw [applyBasisPoints_eq_tdiv_iff.2 h]
    simp only [h, true_or]
  · have hne := mt applyBasisPoints_eq_tdiv_iff.1 h
    have hnext := eq_tdiv_or_applyBasisPoints_iff (v := taxTotal) (not_lt.1 h)
    rw [← not_lt, ← hnext]
    constructor
    · rintro (hlt | hneither)
      · exact absurd hlt h
      · exact ⟨fun ht => absurd (.inl ht) hneither, fun ha => absurd (.inr ha) hneither⟩
    · intro hiff
      refine .inr ?_
      rintro (ht | ha)
      · exact hne ((hiff.1 ht).symm.trans ht)
      · exact hne (ha.symm.trans (hiff.2 ha))

/-- **The tax tool agrees with the schedule exactly where the rounding does not show.** -/
theorem taxMapping_agrees_iff (loadUnit : UnitLoader) (now : Date) (ctx : ToolContext)
    (unit : ReconciliationUnit) (hload : loadUnit ctx = some unit) :
    TaxMappingAgrees loadUnit now ctx unit ↔
      ∀ schedule, scheduleAt (unit.payment.capturedAt.getD now) = some schedule →
        RoundingIrrelevant unit.feeTotal unit.taxTotal schedule.taxOnFeeBps := by
  constructor
  · intro h schedule hschedule
    have hmismatch := h.mismatch schedule hschedule
    rw [validateTaxLineMapping_consistent hload hschedule] at hmismatch
    rw [roundingIrrelevant_iff, ← not_iff_not, ← ne_eq _ (applyBasisPoints _ _), ← hmismatch]
    simp [Json.bool]
  · intro h
    constructor
    · intro capturedAt scheduled hcaptured hscheduled hfee htax
      obtain ⟨schedule, hschedule, rfl⟩ := Option.map_eq_some_iff.1 hscheduled
      have hinforce : scheduleAt (unit.payment.capturedAt.getD now) = some schedule := by
        rw [hcaptured]
        exact hschedule
      have hprescribed : unit.taxTotal =
          applyBasisPoints unit.feeTotal schedule.taxOnFeeBps := by
        rw [hfee]
        exact htax
      have htruncated := (roundingIrrelevant_iff.1 (h schedule hinforce)).2 hprescribed
      rw [validateTaxLineMapping_consistent hload hinforce, decide_eq_true htruncated]
    · intro schedule hschedule
      rw [validateTaxLineMapping_consistent hload hschedule, ne_eq,
        ← roundingIrrelevant_iff.1 (h schedule hschedule)]
      simp [Json.bool]

/-- On the sample unit nothing is dropped. -/
theorem taxMapping_agrees_sampleUnit :
    TaxMappingAgrees (fun _ => some sampleUnit) ⟨0⟩ ⟨⟨"m-1"⟩, "pay-1"⟩ sampleUnit := by
  refine (taxMapping_agrees_iff (fun _ => some sampleUnit) ⟨0⟩ ⟨⟨"m-1"⟩, "pay-1"⟩ sampleUnit
    rfl).2 fun schedule hschedule => .inl ?_
  have hinforce : scheduleAt (sampleUnit.payment.capturedAt.getD ⟨0⟩) = some feeScheduleV1 := rfl
  rw [hinforce, Option.some.injEq] at hschedule
  subst hschedule
  decide

/-- A fee of 3 minor units on a payment of 120, with the 1 minor unit of tax on it. -/
def smallFeeUnit : ReconciliationUnit :=
  { sampleUnit with
    payment := { sampleUnit.payment with amount := ⟨120, "INR"⟩ }
    fees := sampleUnit.fees.map fun f => { f with amount := ⟨3, "INR"⟩ }
    taxes := sampleUnit.taxes.map fun t => { t with amount := ⟨1, "INR"⟩ } }

/-- Fee and tax are the scheduled ones, and the tool calls them inconsistent. -/
theorem smallFee_called_inconsistent :
    scheduledFeeFor smallFeeUnit.payment.amount .card ⟨1_770_026_400_000⟩ =
        some ⟨⟨3, "INR"⟩, ⟨1, "INR"⟩, "fee-schedule-v1"⟩ ∧
      smallFeeUnit.feeTotal = 3 ∧ smallFeeUnit.taxTotal = 1 ∧
      (validateTaxLineMapping (fun _ => some smallFeeUnit) ⟨0⟩ ⟨⟨"m-1"⟩, "pay-1"⟩).data.field?
        "consistent" = some (.bool false) ∧
      ¬ TaxMappingAgrees (fun _ => some smallFeeUnit) ⟨0⟩ ⟨⟨"m-1"⟩, "pay-1"⟩ smallFeeUnit := by
  have hscheduled : scheduledFeeFor smallFeeUnit.payment.amount .card ⟨1_770_026_400_000⟩ =
      some ⟨⟨3, "INR"⟩, ⟨1, "INR"⟩, "fee-schedule-v1"⟩ := by decide
  have hflag : (validateTaxLineMapping (fun _ => some smallFeeUnit) ⟨0⟩
      ⟨⟨"m-1"⟩, "pay-1"⟩).data.field? "consistent" = some (.bool false) := rfl
  refine ⟨hscheduled, rfl, rfl, hflag, fun h => ?_⟩
  have htrue := h.prescribed _ _ rfl hscheduled rfl rfl
  rw [hflag] at htrue
  exact absurd htrue (by decide)

end SettlementOps
