import SettlementOps.Generator.CaseContents
import SettlementOps.Reconciliation.OrderIndependence
import SettlementOps.Verification.Gate

/-!
# What the baseline and the verifier say of a case

The noise of a case cancels out: the checks and the rules of the causes come to conditions on
its lifecycle.

* `Lifecycle.Priced` — what transforms keep of a clean lifecycle; `Lifecycle.Sound` adds that
  the window of its adjustments begins on a date.
* `Lifecycle.failures`, `Lifecycle.discrepancy` — the verdict as a function of the lifecycle.
* `Lifecycle.Supports` — the rules of the causes likewise.
* `failures_eq`, `discrepancy_eq`, `causeCondition_iff` — they are those of the unit.
-/

namespace SettlementOps.Generator

open Calendar

namespace Lifecycle

/-- The fee and the tax are the scheduled ones, and the net is what they leave. -/
structure Priced (life : Lifecycle) : Prop where
  gross : 0 ≤ life.grossMinor
  fee : life.feeMinor = (scheduledFeeAndTax life.grossMinor life.method life.capturedAt).fee
  tax : life.taxMinor = (scheduledFeeAndTax life.grossMinor life.method life.capturedAt).tax
  net : life.netMinor = life.grossMinor - life.feeMinor - life.taxMinor
  refund : ∀ r ∈ life.refund, 0 ≤ r.minor

/-- It is so, and settled late enough for the window of its adjustments to begin on a date. -/
structure Sound (life : Lifecycle) : Prop extends Priced life where
  window : (businessDaysBefore life.settledAt
    ADJUSTMENT_ACCRUAL_WINDOW_BUSINESS_DAYS).isSome = true

/-- What was withheld and is not recorded. -/
def unrecorded (life : Lifecycle) : Int :=
  if life.feeRecordsPresent then 0 else life.feeMinor + life.taxMinor

def refunded (life : Lifecycle) : Int := (life.refund.map (·.minor)).getD 0

def adjusted (life : Lifecycle) : Int := (life.impossibleAdjustment.map (·.minor)).getD 0

/-- The expected net less what was settled. -/
def discrepancy (life : Lifecycle) : Int :=
  life.unexplainedMinor + life.unrecorded - life.refunded + life.adjusted

def lineCount (life : Lifecycle) : Nat := if life.split then 2 else 1

/-- The adjustment cannot have affected the settlement. -/
def Trapped (life : Lifecycle) : Prop :=
  ∃ a ∈ life.impossibleAdjustment,
    adjustmentCanExplainSettlement a.effectiveAt life.settledAt = false

/-- The refund settled beyond the netting window. -/
def RefundLate (life : Lifecycle) : Prop :=
  ∃ r ∈ life.refund, 2 * REFUND_NETTING_MAX_CYCLES < daysBetween r.settledAt r.createdAt

/-- The second of two legs was credited too late, or before it was settled. -/
def CreditLate (life : Lifecycle) : Prop :=
  life.split = true ∧ ¬ (0 ≤ life.splitCreditLateHours ∧ life.splitCreditLateHours ≤ 24)

/-- The settlement missed its day. -/
def SettledLate (life : Lifecycle) : Prop :=
  ∃ expected ∈ expectedSettlementDate life.capturedAt,
    SETTLEMENT_DATE_MATCH_TOLERANCE_DAYS < daysBetween life.settledAt expected

instance (life : Lifecycle) : Decidable life.Trapped := by
  unfold Trapped
  infer_instance

instance (life : Lifecycle) : Decidable life.RefundLate := by
  unfold RefundLate
  infer_instance

instance (life : Lifecycle) : Decidable life.CreditLate := by
  unfold CreditLate
  infer_instance

instance (life : Lifecycle) : Decidable life.SettledLate := by
  unfold SettledLate
  infer_instance

/-- The fee check misses a record: of a fee that is due, or of the schedule itself. -/
def FeeMissing (life : Lifecycle) : Prop :=
  (scheduleAt life.capturedAt).isNone = true ∨ life.feeRecordsPresent = false ∧ life.feeMinor ≠ 0

instance (life : Lifecycle) : Decidable life.FeeMissing := by
  unfold FeeMissing
  infer_instance

/-- What the ten checks report, in their order. -/
def failures (life : Lifecycle) : List (Option ResidualReason) :=
  [ none,
    if life.grossMinor < life.refunded then some .lifecycleInconsistent else none,
    none,
    if life.FeeMissing then some .missingFeeRecord else none,
    none,
    if |life.discrepancy| ≤ 2 * life.lineCount then none
    else some (if life.split then .splitSettlementUnresolved else .netAmountMismatch),
    if life.SettledLate then some .settlementTimingOutsideWindow else none,
    if life.RefundLate then some .refundOutsideNettingWindow else none,
    if life.Trapped then some .lifecycleInconsistent else none,
    if life.CreditLate then some .bankCreditTimingOutsideWindow else none ]

/-- The rules of the causes. -/
def Supports (life : Lifecycle) : CauseCode → Prop
  | .mdrFee =>
      (scheduleAt life.capturedAt).isSome = true ∧
        |(|life.discrepancy| - |life.unrecorded|)| ≤ 4
  | .utrSplit => life.split = true ∧ |life.discrepancy| ≤ 4
  | .timingLag => |life.discrepancy| ≤ 2 * life.lineCount
  | .roundingDrift => |life.discrepancy| ≤ 100
  | .refundNetting => life.refund ≠ none ∧ ¬ life.RefundLate
  | .ambiguous => False
  | .compound => False

end Lifecycle

/-! ## Amounts -/

theorem applyBasisPoints_nonneg {amount bps : Int} (ha : 0 ≤ amount) (hb : 0 ≤ bps) :
    0 ≤ applyBasisPoints amount bps := by
  have hproduct : 0 ≤ amount * bps := mul_nonneg ha hb
  have hquotient : 0 ≤ amount * bps / 10_000 := Int.ediv_nonneg hproduct (by decide)
  unfold applyBasisPoints mulDivHalfUp BPS_DENOMINATOR
  dsimp only
  rw [if_neg (by omega)]
  simp only [if_neg (show ¬ (amount * bps < 0) by omega)]
  norm_num
  split <;> omega

theorem feeRateBps_nonneg {t : Date} {schedule : FeeScheduleVersion}
    (h : scheduleAt t = some schedule) (method : PaymentMethod) :
    0 ≤ schedule.feeRateBps method ∧ 0 ≤ schedule.taxOnFeeBps := by
  rw [scheduleAt_eq] at h
  split at h
  · cases h
  split at h <;> cases h <;> cases method <;> decide

theorem scheduledFeeAndTax_nonneg {gross : Int} (h : 0 ≤ gross) (method : PaymentMethod)
    (t : Date) :
    0 ≤ (scheduledFeeAndTax gross method t).fee ∧ 0 ≤ (scheduledFeeAndTax gross method t).tax := by
  unfold scheduledFeeAndTax
  cases hs : scheduleAt t with
  | none => exact ⟨le_rfl, le_rfl⟩
  | some schedule =>
      obtain ⟨hrate, htax⟩ := feeRateBps_nonneg hs method
      have hfee := applyBasisPoints_nonneg h hrate
      exact ⟨hfee, applyBasisPoints_nonneg hfee htax⟩

theorem total_halves (split : Bool) (minor : Int) :
    Money.total ((halves split minor).map inr) = minor := by
  unfold halves
  cases split <;> simp [inr]

theorem total_legs (life : Lifecycle) (delta : Int) :
    Money.total ((life.legs delta).map fun leg => inr leg.netMinor) = life.paidOut + delta := by
  unfold Lifecycle.legs
  split
  · simp [inr]
    omega
  · simp [inr]

theorem total_routine (routine : List (Nat × Int)) :
    Money.total (routine.map fun entry => inr entry.2) = routineTotal routine := by
  simp [Money.total, routineTotal, inr, Function.comp_def]

theorem legs_length (life : Lifecycle) (delta : Int) :
    (life.legs delta).length = life.lineCount := by
  unfold Lifecycle.legs Lifecycle.lineCount
  split <;> rfl

/-- A routine adjustment falls into the window of its settlement. -/
theorem routineAt_explains {life : Lifecycle} (hs : life.Sound) :
    adjustmentCanExplainSettlement life.routineAt life.settledAt = true := by
  obtain ⟨windowStart, hstart⟩ := Option.isSome_iff_exists.1 hs.window
  have hback := businessDaysBefore_le hstart
  have htwo : ADJUSTMENT_ACCRUAL_WINDOW_BUSINESS_DAYS = 2 := rfl
  have hday : msPerDay = 86_400_000 := rfl
  rw [adjustmentCanExplainSettlement_iff, Lifecycle.routineAt]
  rw [htwo, hday] at hback
  refine ⟨⟨windowStart, hstart, ?_⟩, ?_⟩ <;> dsimp only <;> omega

theorem legs_utr_nodup (life : Lifecycle) (delta : Int) :
    ((life.legs delta).map (·.utr)).Nodup := by
  have hutr := append_ne_self (s := life.refs.utr) (t := "B") (by decide)
  unfold Lifecycle.legs
  split
  · simp [hutr.symm, Lifecycle.secondUtr]
  · simp

/-- The first leg is credited in time, so a late credit is the second one's. -/
theorem exists_late_leg_iff (life : Lifecycle) (delta : Int) :
    (∃ leg ∈ life.legs delta,
        bankCreditWithinExpectedLag life.settledAt leg.creditedAt = false) ↔ life.CreditLate := by
  have hwithin : ∀ hours : Int,
      bankCreditWithinExpectedLag life.settledAt (plusHours life.settledAt hours) = false ↔
        ¬ (0 ≤ hours ∧ hours ≤ 24) := by
    intro hours
    have hhour : msPerHour = 3_600_000 := rfl
    rw [← Bool.not_eq_true, bankCreditWithinExpectedLag_iff, plusHours, hhour]
    dsimp only
    omega
  unfold Lifecycle.legs Lifecycle.CreditLate
  cases life.split with
  | false => simp [hwithin]
  | true => simp [hwithin]

theorem tolerance_eq (life : Lifecycle) :
    roundingToleranceFor life.lineCount = 2 * life.lineCount := by
  unfold Lifecycle.lineCount
  split <;> rfl

namespace CaseUnit

variable {life : Lifecycle} {noise : Noise} {unit : ReconciliationUnit}
  (hu : CaseUnit life noise unit)
include hu

theorem refundAmounts :
    unit.refunds.map (·.amount) = life.refund.toList.map fun r => inr r.minor := by
  have h := congrArg (List.map fun x => x.1) hu.refunds
  rwa [List.map_map, List.map_map] at h

theorem adjustmentAmounts :
    unit.adjustments.map (·.amount) =
      life.impossibleAdjustment.toList.map (fun a => inr a.minor) ++
        noise.routine.map fun entry => inr entry.2 := by
  have h := congrArg (List.map fun x => x.1) hu.adjustments
  rwa [List.map_append, List.map_map, List.map_map, List.map_map] at h

theorem refundTotal : Money.total (unit.refunds.map (·.amount)) = life.refunded := by
  rw [hu.refundAmounts, Lifecycle.refunded]
  cases life.refund <;> simp [inr]

theorem singleCurrency : unit.SingleCurrency := by
  have hinr : ∀ {α : Type} (l : List α) (f : α → Int), ∀ m ∈ l.map (fun x => inr (f x)),
      m.currency = "INR" := by
    intro α l f m hm
    obtain ⟨x, -, rfl⟩ := List.mem_map.1 hm
    rfl
  have hlines : unit.settlementLines.map (·.amount) =
      (life.legs (routineTotal noise.routine)).map fun leg => inr leg.netMinor := by
    rw [← hu.allLines]
    exact hu.lines
  intro m hm
  rw [hu.amount]
  change m.currency = "INR"
  simp only [ReconciliationUnit.comparedAmounts, List.mem_append, hu.fees, hu.taxes,
    hu.refundAmounts, hu.adjustmentAmounts, hlines] at hm
  rcases hm with ((((hm | hm) | hm) | hm) | hm) | hm
  · split at hm
    · exact hinr _ id m hm
    · cases hm
  · split at hm
    · exact hinr _ id m hm
    · cases hm
  · exact hinr _ _ m hm
  · rcases hm with hm | hm
    · exact hinr _ _ m hm
    · exact hinr _ _ m hm
  · exact hinr _ _ m hm
  · obtain ⟨b, hb, rfl⟩ := List.mem_map.1 hm
    obtain ⟨leg, -, heq⟩ := List.mem_map.1 (hu.credits.mem_iff.1 (List.mem_map_of_mem hb))
    exact congrArg (fun x => x.2.1.currency) heq.symm

theorem lines_length : unit.lines.length = life.lineCount := by
  rw [← List.length_map (f := (·.amount)), hu.lines, List.length_map, legs_length]

theorem lines_ne_nil : unit.lines ≠ [] := by
  have h := hu.lines_length
  intro hnil
  rw [hnil, Lifecycle.lineCount] at h
  split at h <;> cases h

theorem withholding :
    Money.total (unit.fees.map (·.amount)) + Money.total (unit.taxes.map (·.amount)) =
      life.feeMinor + life.taxMinor - life.unrecorded := by
  rw [hu.fees, hu.taxes, Lifecycle.unrecorded]
  split
  · rw [total_halves, total_halves]
    omega
  · simp

/-- The noise cancels out of what is left unexplained. -/
theorem unexplained_eq (hs : life.Sound) : unit.unexplained = life.discrepancy := by
  have hadjusted : Money.total (unit.adjustments.map (·.amount)) =
      life.adjusted + routineTotal noise.routine := by
    rw [hu.adjustmentAmounts, Money.total, List.map_append, List.sum_append]
    refine congrArg₂ (· + ·) ?_ (total_routine noise.routine)
    rw [Lifecycle.adjusted]
    cases life.impossibleAdjustment <;> simp [inr]
  have hsettled : unit.settledMinor = life.paidOut + routineTotal noise.routine := by
    rw [ReconciliationUnit.settledMinor, hu.lines, total_legs]
  have hwithheld := hu.withholding
  rw [ReconciliationUnit.unexplained, ExpectedNetInput.net, ReconciliationUnit.expectedNetInput]
  dsimp only
  rw [hu.amount, hadjusted, hsettled, hu.refundTotal, Lifecycle.paidOut, hs.net,
    Lifecycle.discrepancy, inr]
  dsimp only
  omega

theorem sound (hs : life.Sound) : unit.expectedNetInput.Sound where
  currency := by
    intro m hm
    refine hu.singleCurrency m ?_
    simp only [ExpectedNetInput.parts, ReconciliationUnit.expectedNetInput,
      List.mem_append] at hm
    simp only [ReconciliationUnit.comparedAmounts, List.mem_append]
    tauto
  gross := by
    rw [ReconciliationUnit.expectedNetInput, hu.amount]
    exact hs.gross
  fees := by
    rw [ReconciliationUnit.expectedNetInput, hu.fees]
    split
    · rw [total_halves, hs.fee]
      exact (scheduledFeeAndTax_nonneg hs.gross _ _).1
    · exact le_rfl
  taxes := by
    rw [ReconciliationUnit.expectedNetInput, hu.taxes]
    split
    · rw [total_halves, hs.tax]
      exact (scheduledFeeAndTax_nonneg hs.gross _ _).2
    · exact le_rfl
  refunds := by
    rw [ReconciliationUnit.expectedNetInput, hu.refundTotal, Lifecycle.refunded]
    cases hr : life.refund with
    | none => exact le_rfl
    | some r => exact hs.refund r hr

theorem discrepancy_eq (hs : life.Sound) :
    (reconcileUnit unit).discrepancy = inr life.discrepancy := by
  rw [discrepancy_eq_unexplained (hu.sound hs) hu.singleCurrency, hu.unexplained_eq hs, hu.amount]
  rfl

/-! ### The checks -/

theorem lifecycle_failure (hs : life.Sound) : (checkLifecycleConsistency unit).failure =
    if life.grossMinor < life.refunded then some .lifecycleInconsistent else none := by
  have hbefore : before unit.payment.capturedAt unit.payment.authorizedAt = false := by
    have hhour : (0 : Int) < msPerHour := by decide
    rw [hu.capturedAt, hu.authorizedAt, before, decide_eq_false_iff_not]
    dsimp only
    omega
  have hamount : unit.payment.amount.amountMinor = life.grossMinor := congrArg _ hu.amount
  have hcaptured : ¬ (unit.payment.status = .captured ∧ unit.payment.capturedAt = none) := by
    rw [hu.capturedAt]
    exact fun h => nomatch h.2
  unfold checkLifecycleConsistency
  dsimp only
  rw [if_neg hcaptured, hbefore, if_neg (by decide), hamount, hu.refundAmounts]
  unfold Lifecycle.refunded
  cases life.refund with
  | none =>
      have hgross := hs.gross
      rw [if_neg (by simpa using hgross)]
      rfl
  | some r =>
      change ReconciliationCheck.failure (if r.minor > life.grossMinor then _ else _) = _
      rw [apply_ite ReconciliationCheck.failure]
      rfl

theorem scheduleTime : unit.payment.scheduleTime = some life.capturedAt := by
  rw [PaymentRecord.scheduleTime, hu.capturedAt]

/-- The schedule asks for the fee and the tax of the lifecycle. -/
theorem scheduled (hs : life.Sound) :
    scheduledFeeFor unit.payment.amount unit.payment.paymentMethod life.capturedAt =
      (scheduleAt life.capturedAt).map fun schedule =>
        ⟨inr life.feeMinor, inr life.taxMinor, schedule.id⟩ := by
  rw [scheduledFeeFor, hu.amount, hu.method, hs.fee, hs.tax, scheduledFeeAndTax]
  cases scheduleAt life.capturedAt <;> rfl

theorem fees_eq_nil_iff : unit.fees = [] ↔ life.feeRecordsPresent = false := by
  rw [← List.map_eq_nil_iff (f := (·.amount)), hu.fees]
  unfold halves
  cases life.feeRecordsPresent <;> cases noise.feesSplit <;> simp

theorem fee_failure (hs : life.Sound) : (checkFeeAgainstSchedule unit).failure =
    if life.FeeMissing then some .missingFeeRecord else none := by
  have hscheduled := hu.scheduled hs
  cases hschedule : scheduleAt life.capturedAt with
  | none =>
      rw [hschedule] at hscheduled
      rw [if_pos (.inl (by rw [hschedule]; rfl))]
      unfold checkFeeAgainstSchedule
      dsimp only
      rw [hu.scheduleTime]
      dsimp only
      rw [hscheduled]
      rfl
  | some schedule =>
      rw [hschedule] at hscheduled
      rw [checkFeeAgainstSchedule_of_schedule hu.singleCurrency hu.scheduleTime hscheduled]
      have hiff : life.FeeMissing ↔ life.feeRecordsPresent = false ∧ life.feeMinor ≠ 0 := by
        rw [Lifecycle.FeeMissing, hschedule]
        simp
      simp only [hu.fees_eq_nil_iff, hiff, inr_amountMinor]
      by_cases hmissing : life.feeRecordsPresent = false ∧ life.feeMinor ≠ 0
      · rw [if_pos hmissing, if_pos hmissing]
      · -- a recorded fee is the scheduled one, an unrecorded one nothing
        have htotal : Money.total (unit.fees.map (·.amount)) = life.feeMinor := by
          rw [hu.fees]
          split
          · exact total_halves _ _
          · rename_i hpresent
            by_contra hne
            exact hmissing ⟨by simpa using hpresent, fun h => hne (by rw [h]; rfl)⟩
        have hwithin : withinRoundingTolerance
            (Money.total (unit.fees.map (·.amount)) - life.feeMinor)
            (max 1 unit.fees.length) = true := by
          rw [withinRoundingTolerance_iff, htotal, sub_self, abs_zero, roundingToleranceFor_eq_min]
          omega
        rw [if_neg hmissing, if_neg hmissing]
        exact if_pos hwithin

theorem distinctSettlements_eq : distinctSettlements unit.lines = life.lineCount := by
  rw [distinctSettlements, Relational.length_eraseDups_of_nodup hu.lineSettlements,
    List.length_map, hu.lines_length]

theorem conservation_failure (hs : life.Sound) :
    (checkAmountConservation unit (breakdownFor unit)).check.failure =
      if |life.discrepancy| ≤ 2 * life.lineCount then none
      else some (if life.split then .splitSettlementUnresolved else .netAmountMismatch) := by
  rw [(conservation_of_lines (hu.sound hs) hu.singleCurrency hu.lines_ne_nil).2,
    hu.unexplained_eq hs, hu.lines_length, hu.distinctSettlements_eq]
  simp only [withinRoundingTolerance_iff, tolerance_eq]
  have hsplit : life.lineCount > 1 ↔ life.split = true := by
    unfold Lifecycle.lineCount
    cases life.split <;> decide
  simp only [hsplit]

/-! ### Settlements and their credits -/

theorem settlements_ne_nil : unit.settlements ≠ [] := by
  intro hnil
  have hperm := hu.settlements
  rw [hnil, List.map_nil] at hperm
  have hlength := legs_length life (routineTotal noise.routine)
  rw [List.map_eq_nil_iff.1 hperm.symm.eq_nil, Lifecycle.lineCount] at hlength
  split at hlength <;> cases hlength

/-- Every settlement is a leg of the lifecycle. -/
theorem mem_settlements {s : SettlementRecord} (hs : s ∈ unit.settlements) :
    s.settlementAt = life.settledAt ∧
      ∃ leg ∈ life.legs (routineTotal noise.routine),
        s.netAmount = inr leg.netMinor ∧ s.utr = some leg.utr := by
  obtain ⟨leg, hleg, heq⟩ := List.mem_map.1 (hu.settlements.mem_iff.1 (List.mem_map_of_mem hs))
  injection heq with hnet hrest
  injection hrest with hat hutr
  exact ⟨hat.symm, leg, hleg, hnet.symm, hutr.symm⟩

theorem exists_settlement {leg : Leg} (hleg : leg ∈ life.legs (routineTotal noise.routine)) :
    ∃ s ∈ unit.settlements, s.netAmount = inr leg.netMinor ∧ s.utr = some leg.utr := by
  obtain ⟨s, hs, heq⟩ := List.mem_map.1 (hu.settlements.mem_iff.2 (List.mem_map_of_mem hleg))
  injection heq with hnet hrest
  injection hrest with hat hutr
  exact ⟨s, hs, hnet, hutr⟩

theorem timing_failure : (checkSettlementTiming unit).failure =
    if life.SettledLate then some .settlementTimingOutsideWindow else none := by
  have hlate : ∀ s ∈ unit.settlements,
      (expectedSettlementDate life.capturedAt).any (fun expected =>
        decide ((daysBetween s.settlementAt expected : Int) >
          SETTLEMENT_DATE_MATCH_TOLERANCE_DAYS)) = decide life.SettledLate := by
    intro s hs
    rw [(hu.mem_settlements hs).1, Bool.eq_iff_iff, decide_eq_true_iff, Option.any_eq_true]
    simp only [decide_eq_true_eq]
    rfl
  have hlength : ¬ unit.settlements.length = 0 := fun h =>
    hu.settlements_ne_nil (List.length_eq_zero_iff.1 h)
  unfold checkSettlementTiming
  dsimp only
  rw [hu.capturedAt]
  dsimp only
  rw [if_neg hlength, List.filter_congr hlate]
  by_cases h : life.SettledLate
  · rw [decide_eq_true h, List.filter_true, if_neg hlength, if_pos h]
    rfl
  · rw [decide_eq_false h, List.filter_false, if_neg h]
    rfl

theorem mem_refunds {r : RefundRecord} (hr : r ∈ unit.refunds) :
    ∃ refund ∈ life.refund, r.createdAt = refund.createdAt ∧
      r.settledAt = some refund.settledAt := by
  have hmem := List.mem_map_of_mem (f := fun r => (r.amount, r.createdAt, r.settledAt)) hr
  rw [hu.refunds] at hmem
  obtain ⟨refund, hrefund, heq⟩ := List.mem_map.1 hmem
  injection heq with hamount hrest
  injection hrest with hcreated hsettled
  exact ⟨refund, Option.mem_toList.1 hrefund, hcreated.symm, hsettled.symm⟩

theorem exists_refund {refund : LifecycleRefund} (h : refund ∈ life.refund) :
    ∃ r ∈ unit.refunds, r.createdAt = refund.createdAt ∧ r.settledAt = some refund.settledAt := by
  have hmem := List.mem_map_of_mem
    (f := fun r : LifecycleRefund => (inr r.minor, r.createdAt, some r.settledAt))
    (Option.mem_toList.2 h)
  rw [← hu.refunds] at hmem
  obtain ⟨r, hr, heq⟩ := List.mem_map.1 hmem
  injection heq with hamount hrest
  injection hrest with hcreated hsettled
  exact ⟨r, hr, hcreated, hsettled⟩

/-- Some refund of the unit is late when that of the lifecycle is. -/
theorem exists_late_iff : (∃ r ∈ unit.refunds, r.late = true) ↔ life.RefundLate := by
  constructor
  · rintro ⟨r, hr, hlate⟩
    obtain ⟨refund, hrefund, hcreated, hsettled⟩ := hu.mem_refunds hr
    obtain ⟨settledAt, hsome, hdays⟩ := late_iff.1 hlate
    rw [hsettled, Option.some.injEq] at hsome
    rw [← hsome, hcreated] at hdays
    exact ⟨refund, hrefund, hdays⟩
  · rintro ⟨refund, hrefund, hdays⟩
    obtain ⟨r, hr, hcreated, hsettled⟩ := hu.exists_refund hrefund
    refine ⟨r, hr, late_iff.2 ⟨_, hsettled, ?_⟩⟩
    rw [hcreated]
    exact hdays

theorem refund_failure : (checkRefundNettingWindow unit).failure =
    if life.RefundLate then some .refundOutsideNettingWindow else none := by
  unfold checkRefundNettingWindow
  dsimp only
  by_cases h : life.RefundLate
  · obtain ⟨r, hr, hlate⟩ := hu.exists_late_iff.2 h
    have hlength : ¬ (unit.refunds.filter (·.late)).length = 0 := fun hzero => by
      have hmem := List.mem_filter.2 ⟨hr, hlate⟩
      rw [List.length_eq_zero_iff.1 hzero] at hmem
      cases hmem
    rw [if_neg hlength, if_pos h]
    rfl
  · have hnil : unit.refunds.filter (·.late) = [] :=
      List.filter_eq_nil_iff.2 fun r hr hlate => h (hu.exists_late_iff.1 ⟨r, hr, hlate⟩)
    rw [hnil, if_neg h]
    rfl

/-! ### Adjustments -/

theorem explains_iff (a : AdjustmentRecord) :
    (∃ s ∈ unit.settlements,
        adjustmentCanExplainSettlement a.effectiveAt s.settlementAt = true) ↔
      adjustmentCanExplainSettlement a.effectiveAt life.settledAt = true := by
  constructor
  · rintro ⟨s, hs, hexplains⟩
    rwa [(hu.mem_settlements hs).1] at hexplains
  · intro hexplains
    obtain ⟨s, hs⟩ := List.exists_mem_of_ne_nil _ hu.settlements_ne_nil
    exact ⟨s, hs, by rwa [(hu.mem_settlements hs).1]⟩

theorem mem_adjustments {a : AdjustmentRecord} (ha : a ∈ unit.adjustments) :
    (∃ x ∈ life.impossibleAdjustment, a.effectiveAt = x.effectiveAt) ∨
      a.effectiveAt = life.routineAt := by
  have hmem := List.mem_map_of_mem (f := fun a => (a.amount, a.effectiveAt)) ha
  rw [hu.adjustments, List.mem_append] at hmem
  rcases hmem with hmem | hmem
  · obtain ⟨x, hx, heq⟩ := List.mem_map.1 hmem
    exact .inl ⟨x, Option.mem_toList.1 hx, (congrArg Prod.snd heq).symm⟩
  · obtain ⟨entry, -, heq⟩ := List.mem_map.1 hmem
    exact .inr (congrArg Prod.snd heq).symm

theorem exists_adjustment {x : ImpossibleAdjustment} (h : x ∈ life.impossibleAdjustment) :
    ∃ a ∈ unit.adjustments, a.effectiveAt = x.effectiveAt := by
  have hmem := List.mem_map_of_mem
    (f := fun a : ImpossibleAdjustment => (inr a.minor, a.effectiveAt)) (Option.mem_toList.2 h)
  have hall := List.mem_append_left (noise.routine.map fun entry => (inr entry.2, life.routineAt))
    hmem
  rw [← hu.adjustments] at hall
  obtain ⟨a, ha, heq⟩ := List.mem_map.1 hall
  exact ⟨a, ha, congrArg Prod.snd heq⟩

/-- Only the adjustment of the trap can be impossible. -/
theorem adjustmentsPossible_iff (hs : life.Sound) :
    unit.AdjustmentsPossible ↔ ¬ life.Trapped := by
  constructor
  · rintro hpossible ⟨x, hx, hfalse⟩
    obtain ⟨a, ha, hat⟩ := hu.exists_adjustment hx
    have hexplains := (hu.explains_iff a).1 (hpossible hu.settlements_ne_nil a ha)
    rw [hat, hfalse] at hexplains
    cases hexplains
  · intro hno _ a ha
    refine (hu.explains_iff a).2 ?_
    rcases hu.mem_adjustments ha with ⟨x, hx, hat⟩ | hat
    · rw [hat]
      by_contra hnot
      exact hno ⟨x, hx, by simpa using hnot⟩
    · rw [hat]
      exact routineAt_explains hs

theorem adjustment_failure (hs : life.Sound) : (checkAdjustmentTiming unit).failure =
    if life.Trapped then some .lifecycleInconsistent else none := by
  have himpossible : unit.impossibleAdjustments = [] ↔ unit.AdjustmentsPossible := by
    simp [ReconciliationUnit.impossibleAdjustments, ReconciliationUnit.AdjustmentsPossible,
      List.filter_eq_nil_iff, hu.settlements_ne_nil]
  unfold checkAdjustmentTiming
  by_cases h : life.Trapped
  · obtain ⟨x, hx, -⟩ := id h
    obtain ⟨a, ha, -⟩ := hu.exists_adjustment hx
    have hsome : ¬ (unit.adjustments.length = 0 ∨ unit.settlements.length = 0) := by
      rintro (hzero | hzero)
      · rw [List.length_eq_zero_iff.1 hzero] at ha
        cases ha
      · exact hu.settlements_ne_nil (List.length_eq_zero_iff.1 hzero)
    have himp : ¬ unit.impossibleAdjustments.length = 0 := fun hzero =>
      (hu.adjustmentsPossible_iff hs).1 (himpossible.1 (List.length_eq_zero_iff.1 hzero)) h
    rw [if_neg hsome, if_pos h]
    dsimp only
    rw [if_neg himp]
    rfl
  · have hnil := himpossible.2 ((hu.adjustmentsPossible_iff hs).2 h)
    rw [if_neg h]
    split
    · rfl
    · dsimp only
      rw [hnil]
      rfl

/-! ### The bank leg -/

theorem mem_credits {b : BankCreditRecord} (hb : b ∈ unit.bankCredits) :
    ∃ leg ∈ life.legs (routineTotal noise.routine),
      b.utr = leg.utr ∧ b.amount = inr leg.netMinor ∧ b.creditedAt = leg.creditedAt := by
  obtain ⟨leg, hleg, heq⟩ := List.mem_map.1 (hu.credits.mem_iff.1 (List.mem_map_of_mem hb))
  injection heq with hutr hrest
  injection hrest with hamount hat
  exact ⟨leg, hleg, hutr.symm, hamount.symm, hat.symm⟩

theorem exists_credit {leg : Leg} (hleg : leg ∈ life.legs (routineTotal noise.routine)) :
    ∃ b ∈ unit.bankCredits, b.utr = leg.utr := by
  obtain ⟨b, hb, heq⟩ := List.mem_map.1 (hu.credits.mem_iff.2 (List.mem_map_of_mem hleg))
  exact ⟨b, hb, congrArg Prod.fst heq⟩

/-- A leg is matched with its own credit, whose amount is right. -/
theorem legDefect_eq {s : SettlementRecord} (hs : s ∈ unit.settlements) {leg : Leg}
    (hleg : leg ∈ life.legs (routineTotal noise.routine)) (hnet : s.netAmount = inr leg.netMinor)
    (hutr : s.utr = some leg.utr) :
    unit.legDefect s =
      if bankCreditWithinExpectedLag life.settledAt leg.creditedAt then none
      else some .bankCreditTimingOutsideWindow := by
  obtain ⟨credit, hcredit, hsame⟩ := hu.exists_credit hleg
  cases hfound : unit.creditFor s with
  | none =>
      have hno := List.find?_eq_none.1 hfound credit hcredit
      rw [hutr, hsame] at hno
      simp at hno
  | some b =>
      obtain ⟨leg', hleg', hutr', hamount, hat⟩ := hu.mem_credits (List.mem_of_find?_eq_some hfound)
      have hmatch : some b.utr = s.utr := by simpa using List.find?_some hfound
      rw [hutr, hutr', Option.some.injEq] at hmatch
      obtain rfl := List.inj_on_of_nodup_map (legs_utr_nodup life _) hleg' hleg hmatch
      rw [legDefect_of_some hfound, pairDefect, creditAgrees_iff.2 (hamount.trans hnet.symm),
        (hu.mem_settlements hs).1, hat]
      cases bankCreditWithinExpectedLag life.settledAt leg'.creditedAt <;> rfl

theorem bank_failure : (checkBankCredit unit).failure =
    if life.CreditLate then some .bankCreditTimingOutsideWindow else none := by
  have hall : unit.utrSettlements = unit.settlements := by
    refine List.filter_eq_self.2 fun s hs => ?_
    obtain ⟨-, leg, -, -, hutr⟩ := hu.mem_settlements hs
    rw [hutr]
    rfl
  rw [checkBankCredit_failure, hall]
  by_cases h : life.CreditLate
  · rw [if_pos h]
    obtain ⟨leg, hleg, hlate⟩ := (exists_late_leg_iff life (routineTotal noise.routine)).2 h
    obtain ⟨s, hs, hnet, hutr⟩ := hu.exists_settlement hleg
    have hdefect := hu.legDefect_eq hs hleg hnet hutr
    rw [hlate] at hdefect
    cases hfound : unit.settlements.findSome? unit.legDefect with
    | none =>
        rw [List.findSome?_eq_none_iff.1 hfound s hs] at hdefect
        cases hdefect
    | some r =>
        obtain ⟨s', hs', hr⟩ := List.exists_of_findSome?_eq_some hfound
        obtain ⟨-, leg', hleg', hnet', hutr'⟩ := hu.mem_settlements hs'
        rw [hu.legDefect_eq hs' hleg' hnet' hutr'] at hr
        split at hr
        · cases hr
        · exact hr.symm
  · rw [if_neg h, List.findSome?_eq_none_iff]
    intro s hs
    obtain ⟨-, leg, hleg, hnet, hutr⟩ := hu.mem_settlements hs
    rw [hu.legDefect_eq hs hleg hnet hutr, if_pos]
    by_contra hlate
    exact h ((exists_late_leg_iff life _).1 ⟨leg, hleg, by simpa using hlate⟩)

/-! ### The verdict -/

/-- **The verdict on a case is a function of its lifecycle**: the noise cancels out of every
check. -/
theorem failures_eq (hs : life.Sound) :
    (checksOf unit).map (·.failure) = life.failures := by
  have hcurrency : (checkCurrencyConsistency unit).failure = none := by
    rcases checkCurrencyConsistency_failure unit with ⟨-, h⟩ | ⟨hno, -⟩
    · exact h
    · exact absurd hu.singleCurrency hno
  have hduplicates : (checkNoDuplicates unit).failure = none := by
    rw [checkNoDuplicates_failure, if_pos hu.duplicates]
  have hpresence : (checkSettlementPresence unit).failure = none := by
    rw [checkSettlementPresence_failure, if_neg hu.lines_ne_nil]
  simp only [checksOf, List.map_cons, List.map_nil, hcurrency, hu.lifecycle_failure hs,
    hduplicates, hu.fee_failure hs, hpresence, hu.conservation_failure hs, hu.timing_failure,
    hu.refund_failure, hu.adjustment_failure hs, hu.bank_failure]
  rfl

theorem mem_reasons (hs : life.Sound) (r : ResidualReason) :
    r ∈ (reconcileUnit unit).reasons ↔ some r ∈ life.failures := by
  rw [mem_reasons_iff, ← hu.failures_eq hs]
  simp only [List.mem_map]

theorem exception_iff (hs : life.Sound) :
    (reconcileUnit unit).outcome = .exception ↔ ∃ r, some r ∈ life.failures := by
  have hiff : (reconcileUnit unit).outcome = .reconciled ↔ ∀ r, some r ∉ life.failures := by
    rw [reconciled_iff_no_reason]
    exact forall_congr' fun r => not_congr (hu.mem_reasons hs r)
  cases ho : (reconcileUnit unit).outcome with
  | reconciled =>
      have hno := hiff.1 ho
      exact ⟨fun h => (nomatch h), fun ⟨r, hr⟩ => absurd hr (hno r)⟩
  | exception =>
      refine ⟨fun _ => ?_, fun _ => rfl⟩
      by_contra hno
      rw [hiff.2 fun r hr => hno ⟨r, hr⟩] at ho
      cases ho

/-! ### The rules of the causes -/

theorem two_legs_iff : (∃ s ∈ unit.settlements, ∃ s' ∈ unit.settlements,
    s.settlementId ≠ s'.settlementId) ↔ life.split = true := by
  have hlength : unit.settlements.length = life.lineCount := by
    have hperm := hu.settlements.length_eq
    rwa [List.length_map, List.length_map, legs_length] at hperm
  have htwo := two_le_length_eraseDups_iff (unit.settlements.map (·.settlementId))
  rw [Relational.length_eraseDups_of_nodup hu.settlementIds, List.length_map, hlength] at htwo
  simp only [List.mem_map, exists_exists_and_eq_and] at htwo
  rw [← htwo, Lifecycle.lineCount]
  cases life.split <;> decide

theorem settlementLines_length : unit.settlementLines.length = life.lineCount := by
  rw [← hu.allLines, hu.lines_length]

/-- The schedule asks for what was withheld, so its rule compares with what is unrecorded. -/
theorem mdrFee_condition_iff (hs : life.Sound) :
    unit.CauseCondition .mdrFee ↔ life.Supports .mdrFee := by
  have hwithheld : life.feeMinor + life.taxMinor - Money.total (unit.fees.map (·.amount)) -
      Money.total (unit.taxes.map (·.amount)) = life.unrecorded := by
    have htotal := hu.withholding
    omega
  have htolerance : roundingToleranceFor 2 = 4 := rfl
  simp only [ReconciliationUnit.CauseCondition, Lifecycle.Supports, hu.unexplained_eq hs,
    hu.scheduleTime, Option.some.injEq, htolerance]
  constructor
  · rintro ⟨time, fee, rfl, hfee, hsize⟩
    rw [hu.scheduled hs] at hfee
    obtain ⟨schedule, hschedule, rfl⟩ := Option.map_eq_some_iff.1 hfee
    dsimp only [inr_amountMinor] at hsize
    rw [hwithheld] at hsize
    exact ⟨by rw [hschedule]; rfl, hsize⟩
  · rintro ⟨hinForce, hsize⟩
    obtain ⟨schedule, hschedule⟩ := Option.isSome_iff_exists.1 hinForce
    refine ⟨_, _, rfl, by rw [hu.scheduled hs, hschedule]; rfl, ?_⟩
    dsimp only [inr_amountMinor]
    rw [hwithheld]
    exact hsize

theorem utrSplit_condition_iff (hs : life.Sound) :
    unit.CauseCondition .utrSplit ↔ life.Supports .utrSplit := by
  have hcredited : ∀ s ∈ unit.settlements, s.utr ≠ none →
      ∃ b ∈ unit.bankCredits, some b.utr = s.utr := by
    intro s hs _
    obtain ⟨-, leg, hleg, -, hutr⟩ := hu.mem_settlements hs
    obtain ⟨b, hb, hsame⟩ := hu.exists_credit hleg
    exact ⟨b, hb, by rw [hutr, hsame]⟩
  simp only [ReconciliationUnit.CauseCondition, Lifecycle.Supports, hu.unexplained_eq hs,
    hu.two_legs_iff, hu.settlementLines_length, tolerance_eq]
  constructor
  · rintro ⟨hsplit, -, hsmall⟩
    rw [Lifecycle.lineCount, if_pos hsplit] at hsmall
    exact ⟨hsplit, hsmall⟩
  · rintro ⟨hsplit, hsmall⟩
    refine ⟨hsplit, hcredited, ?_⟩
    rw [Lifecycle.lineCount, if_pos hsplit]
    exact hsmall

theorem timingLag_condition_iff (hs : life.Sound) :
    unit.CauseCondition .timingLag ↔ life.Supports .timingLag := by
  have hone : max 1 life.lineCount = life.lineCount := by
    unfold Lifecycle.lineCount
    split <;> rfl
  simp only [ReconciliationUnit.CauseCondition, Lifecycle.Supports, hu.unexplained_eq hs,
    hu.settlementLines_length, hone, tolerance_eq, hu.capturedAt]
  exact ⟨fun h => h.1, fun h => ⟨h, Option.some_ne_none _, hu.settlements_ne_nil⟩⟩

theorem refundNetting_condition_iff :
    unit.CauseCondition .refundNetting ↔ life.Supports .refundNetting := by
  have hsome : unit.refunds ≠ [] ↔ life.refund ≠ none := by
    rw [ne_eq, ← List.map_eq_nil_iff (f := (·.amount)), hu.refundAmounts]
    cases life.refund <;> simp
  have hlate : (∀ r ∈ unit.refunds, ∀ settledAt, r.settledAt = some settledAt →
      daysBetween settledAt r.createdAt ≤ 2 * REFUND_NETTING_MAX_CYCLES) ↔ ¬ life.RefundLate := by
    rw [← hu.exists_late_iff]
    simp only [late_iff, not_exists, not_and, not_lt]
  simp only [ReconciliationUnit.CauseCondition, Lifecycle.Supports, hsome, hlate]

/-- **The rules of the causes come to conditions on the lifecycle.** -/
theorem causeCondition_iff (hs : life.Sound) (cause : CauseCode) :
    unit.CauseCondition cause ↔ life.Supports cause := by
  cases cause with
  | mdrFee => exact hu.mdrFee_condition_iff hs
  | utrSplit => exact hu.utrSplit_condition_iff hs
  | timingLag => exact hu.timingLag_condition_iff hs
  | roundingDrift =>
      simp only [ReconciliationUnit.CauseCondition, Lifecycle.Supports, hu.unexplained_eq hs]
  | refundNetting => exact hu.refundNetting_condition_iff
  | ambiguous => exact Iff.rfl
  | compound => exact Iff.rfl

/-- Nothing resolves on the unit of a case that is a trap or fits no cause. -/
theorem unresolvable_iff (hs : life.Sound) :
    (∀ proposal, (verify proposal unit).effectiveDisposition ≠ .resolve) ↔
      life.Trapped ∨ ∀ cause, ¬ life.Supports cause := by
  constructor
  · intro hall
    by_contra hno
    push Not at hno
    obtain ⟨hpossible, cause, hsupports⟩ := hno
    exact hall _ (payment_resolves (hu.sound hs) ((hu.adjustmentsPossible_iff hs).2 hpossible)
      ((hu.causeCondition_iff hs cause).2 hsupports))
  · intro hnothing proposal hresolved
    obtain ⟨-, hsub⟩ := verify_eq_resolve_iff.1 hresolved
    rcases hnothing with htrapped | hno
    · exact (hu.adjustmentsPossible_iff hs).1 hsub.adjustments htrapped
    · exact hno _ ((hu.causeCondition_iff hs _).1 hsub.cause)

/-- A proposal resolves as one of some causes when one of these fits. -/
theorem resolvable_iff (hs : life.Sound) (causes : List CauseCode) :
    (∃ proposal : Proposal, proposal.cause ∈ causes ∧
        (∀ id ∈ proposal.evidenceRecordIds, id ∈ unit.recordIds) ∧
        (verify proposal unit).effectiveDisposition = .resolve) ↔
      ¬ life.Trapped ∧ ∃ cause ∈ causes, life.Supports cause := by
  constructor
  · rintro ⟨proposal, hcause, -, hresolved⟩
    obtain ⟨-, hsub⟩ := verify_eq_resolve_iff.1 hresolved
    exact ⟨(hu.adjustmentsPossible_iff hs).1 hsub.adjustments, _, hcause,
      (hu.causeCondition_iff hs _).1 hsub.cause⟩
  · rintro ⟨hpossible, cause, hcause, hsupports⟩
    have hresolved := payment_resolves (hu.sound hs) ((hu.adjustmentsPossible_iff hs).2 hpossible)
      ((hu.causeCondition_iff hs cause).2 hsupports)
    exact ⟨_, hcause, (verify_eq_resolve_iff.1 hresolved).2.inScope, hresolved⟩

end CaseUnit

end SettlementOps.Generator
