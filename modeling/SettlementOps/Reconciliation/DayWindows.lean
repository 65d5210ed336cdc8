import SettlementOps.Reconciliation.Matcher

/-!
# Windows in whole days

Refunds and settlements are compared with their windows through `daysBetween`, which rounds a
difference down and then drops its sign.

* `settlementDate_iff` — around the expected settlement date, which is a midnight, this counts
  calendar days.
* `refundWindow_exact_iff` — around the creation of a refund, which is any instant, it reaches
  four days back and up to five days on.
-/

namespace SettlementOps

open Calendar

/-! ## The settlement date -/

/-- The unit settled once, at a given instant. -/
def ReconciliationUnit.settledOnce (unit : ReconciliationUnit) (s : SettlementRecord)
    (settlementAt : Date) : ReconciliationUnit :=
  { unit with settlements := [{ s with settlementAt }] }

/-- Whether the timing check accepts the unit settled `offset` milliseconds from the date its
capture is expected to settle on. -/
def ReconciliationUnit.AcceptsOffset (unit : ReconciliationUnit) (s : SettlementRecord)
    (expected : Date) (offset : Int) : Prop :=
  (checkSettlementTiming (unit.settledOnce s ⟨expected.getTime + offset⟩)).status = .pass

instance (unit : ReconciliationUnit) (s : SettlementRecord) (expected : Date) (offset : Int) :
    Decidable (unit.AcceptsOffset s expected offset) :=
  inferInstanceAs (Decidable (_ = _))

/-- How many calendar days an instant `offset` milliseconds from the expected date is off. -/
def calendarDaysOff (expected : Date) (offset : Int) : Int :=
  dayNumber ⟨expected.getTime + offset⟩ - dayNumber expected

theorem checkSettlementTiming_status (unit : ReconciliationUnit) :
    (checkSettlementTiming unit).status = .pass ↔ (checkSettlementTiming unit).failure = none := by
  unfold checkSettlementTiming
  dsimp only
  split
  · simp
  split
  · simp
  split <;> simp

section Expected

variable {unit : ReconciliationUnit} {capturedAt expected : Date}
  (hexpected : expectedSettlementDate capturedAt = some expected)
include hexpected

/-- Counted from a midnight, whole days are calendar days. -/
theorem calendarDaysOff_eq (offset : Int) :
    calendarDaysOff expected offset = offset / msPerDay := by
  have hday : msPerDay = 86_400_000 := rfl
  have hmidnight := expectedSettlementDate_midnight hexpected
  rw [calendarDaysOff, dayNumber, dayNumber]
  dsimp only
  rw [hday] at hmidnight ⊢
  omega

theorem acceptsOffset_iff (hc : unit.payment.capturedAt = some capturedAt) (s : SettlementRecord)
    (offset : Int) :
    unit.AcceptsOffset s expected offset ↔
      |calendarDaysOff expected offset| ≤ SETTLEMENT_DATE_MATCH_TOLERANCE_DAYS := by
  have hone : (daysBetween ⟨expected.getTime + offset⟩ expected : Int) =
      |calendarDaysOff expected offset| := by
    rw [daysBetween, add_sub_cancel_left, calendarDaysOff_eq hexpected, Int.natCast_natAbs]
  have hcaptured : (unit.settledOnce s ⟨expected.getTime + offset⟩).payment.capturedAt =
      some capturedAt := hc
  rw [ReconciliationUnit.AcceptsOffset, checkSettlementTiming_status,
    checkSettlementTiming_passes_iff hcaptured, ← hone]
  simp [ReconciliationUnit.settledOnce, hexpected]

/-- **The tolerance of the settlement date is one calendar day, on either side.**  A settlement
is accepted from a day before the expected date until the end of the day after it, and on a day
as many days before as after. -/
theorem settlementDate_iff (hc : unit.payment.capturedAt = some capturedAt)
    (s : SettlementRecord) :
    (∀ offset, unit.AcceptsOffset s expected offset ↔
        |calendarDaysOff expected offset| ≤ SETTLEMENT_DATE_MATCH_TOLERANCE_DAYS) ∧
      (∀ offset, unit.AcceptsOffset s expected offset ↔
        -msPerDay ≤ offset ∧ offset < 2 * msPerDay) ∧
      ∀ offset offset', calendarDaysOff expected offset' = -calendarDaysOff expected offset →
        (unit.AcceptsOffset s expected offset' ↔ unit.AcceptsOffset s expected offset) := by
  refine ⟨acceptsOffset_iff hexpected hc s, fun offset => ?_, fun offset offset' hmirror => ?_⟩
  · have hday : msPerDay = 86_400_000 := rfl
    have htolerance : SETTLEMENT_DATE_MATCH_TOLERANCE_DAYS = 1 := rfl
    rw [acceptsOffset_iff hexpected hc, calendarDaysOff_eq hexpected, htolerance, hday, abs_le]
    omega
  · rw [acceptsOffset_iff hexpected hc, acceptsOffset_iff hexpected hc, hmirror, abs_neg]

end Expected

/-- The settlement of the sample unit. -/
def sampleSettlement : SettlementRecord :=
  { sampleBase "set-1" with
    settlementId := "set-1"
    settlementBatchId := none
    grossAmount := ⟨1_000_000, "INR"⟩
    netAmount := ⟨970_500, "INR"⟩
    settlementAt := ⟨1_770_163_200_000⟩
    status := .processed
    utr := some "UTR001" }

theorem settlementDate_sampleUnit :
    expectedSettlementDate ⟨1_770_026_400_000⟩ = some ⟨1_770_163_200_000⟩ ∧
      sampleUnit.AcceptsOffset sampleSettlement ⟨1_770_163_200_000⟩ (-msPerDay) ∧
      ¬ sampleUnit.AcceptsOffset sampleSettlement ⟨1_770_163_200_000⟩ (2 * msPerDay) := by
  have hexpected : expectedSettlementDate ⟨1_770_026_400_000⟩ = some ⟨1_770_163_200_000⟩ := by
    decide
  have hc : sampleUnit.payment.capturedAt = some ⟨1_770_026_400_000⟩ := rfl
  have haccepts := (settlementDate_iff hexpected hc sampleSettlement).2.1
  exact ⟨hexpected, (haccepts _).2 (by decide), fun h => absurd ((haccepts _).1 h) (by decide)⟩

/-- A day and a half late is accepted, a day and a half early is not. -/
theorem settlementDate_not_symmetric :
    sampleUnit.payment.capturedAt = some ⟨1_770_026_400_000⟩ ∧
      expectedSettlementDate ⟨1_770_026_400_000⟩ = some ⟨1_770_163_200_000⟩ ∧
      sampleUnit.AcceptsOffset sampleSettlement ⟨1_770_163_200_000⟩ 129_600_000 ∧
      ¬ sampleUnit.AcceptsOffset sampleSettlement ⟨1_770_163_200_000⟩ (-129_600_000) ∧
      ¬ |(129_600_000 : Int)| ≤ SETTLEMENT_DATE_MATCH_TOLERANCE_DAYS * msPerDay := by
  refine ⟨rfl, by decide, by decide, by decide, by decide⟩

/-! ## The refund window -/

namespace RefundRecord

/-- Settled before it was created, or more than two cycles of two days after. -/
def OutsideWindow (r : RefundRecord) : Prop :=
  ∃ settledAt, r.settledAt = some settledAt ∧
    (settledAt.getTime < r.createdAt.getTime ∨
      r.createdAt.getTime + 2 * REFUND_NETTING_MAX_CYCLES * msPerDay < settledAt.getTime)

/-- Settled outside the window, and so close to its creation that the day difference does not
show it. -/
def RoundedIntoWindow (r : RefundRecord) : Prop :=
  ∃ settledAt, r.settledAt = some settledAt ∧
    (r.createdAt.getTime - 4 * msPerDay ≤ settledAt.getTime ∧
        settledAt.getTime < r.createdAt.getTime ∨
      r.createdAt.getTime + 4 * msPerDay < settledAt.getTime ∧
        settledAt.getTime < r.createdAt.getTime + 5 * msPerDay)

/-- What is outside the window is late, or rounded into it. -/
theorem outsideWindow_iff {r : RefundRecord} :
    r.OutsideWindow ↔ r.late = true ∨ r.RoundedIntoWindow := by
  have hday : msPerDay = 86_400_000 := rfl
  have hcycles : REFUND_NETTING_MAX_CYCLES = 2 := rfl
  have hlate : ∀ settledAt, 2 * REFUND_NETTING_MAX_CYCLES < daysBetween settledAt r.createdAt ↔
      ¬ (r.createdAt.getTime - 4 * msPerDay ≤ settledAt.getTime ∧
        settledAt.getTime < r.createdAt.getTime + (4 + 1) * msPerDay) := by
    intro settledAt
    rw [← not_le]
    exact not_congr daysBetween_le_iff
  rw [late_iff, OutsideWindow, RoundedIntoWindow, ← exists_or]
  refine exists_congr fun settledAt => ?_
  rw [← and_or_left, hlate, hday, hcycles]
  refine and_congr_right fun _ => ?_
  omega

end RefundRecord

/-- **A refund is reported exactly when some refund is late**: no other check has that reason. -/
theorem refund_reported_iff (unit : ReconciliationUnit) :
    .refundOutsideNettingWindow ∈ (reconcileUnit unit).reasons ↔
      ∃ r ∈ unit.refunds, r.late = true := by
  have hcheck : checkRefundNettingWindow unit ∈ checksOf unit := by simp [checksOf]
  have hpasses : (checkRefundNettingWindow unit).failure = none ↔
      ∀ r ∈ unit.refunds, r.late = false := checkRefundNettingWindow_passes_iff
  have hmem := checkRefundNettingWindow_failure unit
  simp only [List.mem_cons, List.not_mem_nil, or_false] at hmem
  rw [reason_mem_iff_of_only hcheck (by simp [reasonsOfChecks])]
  constructor
  · intro h
    by_contra hno
    simp only [not_exists, not_and, Bool.not_eq_true] at hno
    rw [hpasses.2 hno] at h
    cases h
  · rintro ⟨r, hr, hlate⟩
    refine hmem.resolve_left fun hnone => ?_
    rw [hpasses.1 hnone r hr] at hlate
    cases hlate

/-- **When the refund window is kept in exact time.**  On a reconciled unit: when no refund is
rounded into it.  And whatever is outside of it is reported when nothing is rounded into it, or
another refund is late by whole days. -/
theorem refundWindow_exact_iff (unit : ReconciliationUnit) :
    ((reconcileUnit unit).outcome = .reconciled →
        ((∀ r ∈ unit.refunds, ¬ r.OutsideWindow) ↔ ∀ r ∈ unit.refunds, ¬ r.RoundedIntoWindow)) ∧
      (((∃ r ∈ unit.refunds, r.OutsideWindow) →
          .refundOutsideNettingWindow ∈ (reconcileUnit unit).reasons) ↔
        ((∃ r ∈ unit.refunds, r.RoundedIntoWindow) → ∃ r ∈ unit.refunds, r.late = true)) := by
  constructor
  · intro h
    have hpass := failure_eq_none_of_reconciled h (c := checkRefundNettingWindow unit)
      (by simp [checksOf])
    have hnone := checkRefundNettingWindow_passes_iff.1 hpass
    refine forall₂_congr fun r hr => ?_
    rw [RefundRecord.outsideWindow_iff, hnone r hr]
    simp
  · rw [refund_reported_iff]
    simp only [RefundRecord.outsideWindow_iff, and_or_left, exists_or, or_imp]
    exact and_iff_right id

/-- The sample unit with a refund of 10.00 netted, which settled at `settledAt`. -/
def refundedSampleUnit (settledAt : Date) : ReconciliationUnit :=
  let net : Money := ⟨969_500, "INR"⟩
  { sampleUnit with
    refunds := [{ sampleBase "refund-1" with
      refundId := "refund-1"
      paymentId := "pay-1"
      amount := ⟨1_000, "INR"⟩
      status := .processed
      createdAt := ⟨1_770_026_400_000⟩
      settledAt }]
    settlements := sampleUnit.settlements.map fun s => { s with netAmount := net }
    settlementLines := sampleUnit.settlementLines.map fun l => { l with amount := net }
    bankCredits := sampleUnit.bankCredits.map fun b => { b with amount := net } }

theorem refundWindow_exact_refundedSampleUnit :
    (reconcileUnit (refundedSampleUnit ⟨1_770_112_800_000⟩)).outcome = .reconciled ∧
      ∀ r ∈ (refundedSampleUnit ⟨1_770_112_800_000⟩).refunds, ¬ r.OutsideWindow := by
  have hreconciled :
      (reconcileUnit (refundedSampleUnit ⟨1_770_112_800_000⟩)).outcome = .reconciled := by decide
  refine ⟨hreconciled, ((refundWindow_exact_iff _).1 hreconciled).2 ?_⟩
  rintro r hr ⟨settledAt, hsettled, hrounded⟩
  rw [List.mem_singleton.1 hr] at hsettled hrounded
  have hat : settledAt = ⟨1_770_112_800_000⟩ := (Option.some.inj hsettled).symm
  subst hat
  revert hrounded
  decide

/-- A refund settled two days before it was made, and one settled four days and a half after,
reconcile. -/
theorem refundWindow_not_exact :
    ((reconcileUnit (refundedSampleUnit ⟨1_769_853_600_000⟩)).outcome = .reconciled ∧
        ∃ r ∈ (refundedSampleUnit ⟨1_769_853_600_000⟩).refunds, r.OutsideWindow) ∧
      (reconcileUnit (refundedSampleUnit ⟨1_770_415_200_000⟩)).outcome = .reconciled ∧
        ∃ r ∈ (refundedSampleUnit ⟨1_770_415_200_000⟩).refunds, r.OutsideWindow := by
  refine ⟨⟨by decide, ?_⟩, by decide, ?_⟩
  · exact ⟨_, List.mem_singleton_self _, ⟨1_769_853_600_000⟩, rfl, by decide⟩
  · exact ⟨_, List.mem_singleton_self _, ⟨1_770_415_200_000⟩, rfl, by decide⟩

end SettlementOps
