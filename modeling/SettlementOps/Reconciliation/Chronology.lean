import SettlementOps.Reconciliation.BankLegs

/-!
# The order of events of a reconciled unit

Four checks look at instants, in whole days, in hours and in business days.  Together they put
the events of a reconciled unit in order.  Only a payment captured so late that no date is
expected for its settlement may have been settled before.

* `authorized_of_reconciled`, `captured_lt_settled`, `credited_of_reconciled`,
  `adjusted_of_reconciled` — one step of the order each.
* `reconciled_chronology` — the whole order.
-/

namespace SettlementOps

open Calendar

/-- Settled within a day of the expected date is settled after the capture: a difference that
rounds to one day backward is of no more than one day, and the expected date is further off. -/
theorem lt_of_daysBetween_le {capturedAt expected settlementAt : Date}
    (he : expectedSettlementDate capturedAt = some expected)
    (h : (daysBetween settlementAt expected : Int) ≤ SETTLEMENT_DATE_MATCH_TOLERANCE_DAYS) :
    capturedAt.getTime < settlementAt.getTime := by
  have hday : msPerDay = 86_400_000 := rfl
  have htolerance : SETTLEMENT_DATE_MATCH_TOLERANCE_DAYS = 1 := rfl
  have hexpected := lt_expectedSettlementDate he
  rw [daysBetween, htolerance] at h
  rw [hday] at h hexpected
  omega

section Reconciled

variable {unit : ReconciliationUnit} (h : (reconcileUnit unit).outcome = .reconciled)
include h

theorem authorized_of_reconciled {authorizedAt capturedAt : Date}
    (ha : unit.payment.authorizedAt = some authorizedAt)
    (hc : unit.payment.capturedAt = some capturedAt) :
    authorizedAt.getTime ≤ capturedAt.getTime := by
  have hpass := failure_eq_none_of_reconciled h (c := checkLifecycleConsistency unit)
    (by simp [checksOf])
  have hordered := checkLifecycleConsistency_ordered hpass
  rw [ha, hc, before, decide_eq_false_iff_not] at hordered
  exact not_lt.1 hordered

/-- A captured payment was settled, every time after its capture. -/
theorem captured_lt_settled {capturedAt : Date}
    (hc : unit.payment.capturedAt = some capturedAt) :
    unit.settlements ≠ [] ∧ (expectedSettlementDate capturedAt ≠ none →
      ∀ s ∈ unit.settlements, capturedAt.getTime < s.settlementAt.getTime) := by
  have hpass := failure_eq_none_of_reconciled h (c := checkSettlementTiming unit)
    (by simp [checksOf])
  obtain ⟨hne, hinside⟩ := (checkSettlementTiming_passes_iff hc).1 hpass
  refine ⟨hne, fun hdate s hs => ?_⟩
  obtain ⟨expected, he⟩ := Option.ne_none_iff_exists'.1 hdate
  exact lt_of_daysBetween_le he (hinside s hs expected he)

theorem credited_of_reconciled {s : SettlementRecord} (hs : s ∈ unit.settlements)
    (hutr : s.utr ≠ none) :
    ∃ b ∈ unit.bankCredits, some b.utr = s.utr ∧ s.settlementAt.getTime ≤ b.creditedAt.getTime ∧
      b.creditedAt.getTime ≤ s.settlementAt.getTime + 24 * msPerHour := by
  have hmem : s ∈ unit.utrSettlements := List.mem_filter.2 ⟨hs, by simpa using hutr⟩
  obtain ⟨b, hcredit, -, hlag⟩ := leg_of_reconciled h hmem
  obtain ⟨hb, hbutr⟩ := mem_of_creditFor hcredit
  obtain ⟨hafter, hwithin⟩ := bankCreditWithinExpectedLag_iff.1 hlag
  exact ⟨b, hb, hbutr, hafter, hwithin⟩

theorem adjusted_of_reconciled (hne : unit.settlements ≠ []) {a : AdjustmentRecord}
    (ha : a ∈ unit.adjustments) :
    ∃ s ∈ unit.settlements,
      (∃ windowStart ∈ businessDaysBefore s.settlementAt 2,
        windowStart.getTime ≤ a.effectiveAt.getTime) ∧
      a.effectiveAt.getTime ≤ s.settlementAt.getTime := by
  have hpass := failure_eq_none_of_reconciled h (c := checkAdjustmentTiming unit)
    (by simp [checksOf])
  obtain ⟨s, hs, hexplains⟩ := checkAdjustmentTiming_passes_iff.1 hpass hne a ha
  exact ⟨s, hs, adjustmentCanExplainSettlement_iff.1 hexplains⟩

end Reconciled

/-- **The chronology of a reconciled unit.**  Authorized, captured, settled and credited in this
order, the credit within a day of its settlement, and adjusted within the two business days
before some settlement; captured before settled where a settlement date is expected. -/
theorem reconciled_chronology {unit : ReconciliationUnit} {capturedAt : Date}
    (h : (reconcileUnit unit).outcome = .reconciled)
    (hc : unit.payment.capturedAt = some capturedAt) :
    (∀ authorizedAt, unit.payment.authorizedAt = some authorizedAt →
        authorizedAt.getTime ≤ capturedAt.getTime) ∧
      (expectedSettlementDate capturedAt ≠ none →
        ∀ s ∈ unit.settlements, capturedAt.getTime < s.settlementAt.getTime) ∧
      (∀ s ∈ unit.settlements, s.utr ≠ none → ∃ b ∈ unit.bankCredits, some b.utr = s.utr ∧
        s.settlementAt.getTime ≤ b.creditedAt.getTime ∧
          b.creditedAt.getTime ≤ s.settlementAt.getTime + 24 * msPerHour) ∧
      ∀ a ∈ unit.adjustments, ∃ s ∈ unit.settlements,
        (∃ windowStart ∈ businessDaysBefore s.settlementAt 2,
          windowStart.getTime ≤ a.effectiveAt.getTime) ∧
        a.effectiveAt.getTime ≤ s.settlementAt.getTime := by
  obtain ⟨hne, hsettled⟩ := captured_lt_settled h hc
  refine ⟨fun authorizedAt ha => ?_, hsettled, fun s hs hutr => ?_, fun a ha => ?_⟩
  · exact authorized_of_reconciled h ha hc
  · exact credited_of_reconciled h hs hutr
  · exact adjusted_of_reconciled h hne ha

/-- The sample unit with an authorization and an adjustment of nothing. -/
def adjustedSampleUnit : ReconciliationUnit :=
  { sampleUnit with
    payment := { sampleUnit.payment with authorizedAt := some ⟨1_770_026_340_000⟩ }
    adjustments := [{ sampleBase "adj-1" with
      settlementId := some "set-1"
      reference := "ADJ-1"
      amount := ⟨0, "INR"⟩
      effectiveAt := ⟨1_770_112_800_000⟩
      reasonCode := "ROUNDING" }] }

theorem reconciled_chronology_adjustedSampleUnit :
    (1_770_026_340_000 : Int) ≤ 1_770_026_400_000 ∧
      ∀ s ∈ adjustedSampleUnit.settlements, 1_770_026_400_000 < s.settlementAt.getTime := by
  have hreconciled : (reconcileUnit adjustedSampleUnit).outcome = .reconciled := by decide
  have h := reconciled_chronology hreconciled rfl
  exact ⟨h.1 _ rfl, h.2.1 (by decide)⟩

/-- The sample unit captured at the end of all dates, with the fee and the tax of the schedule in
force then. -/
def lastCaptureUnit : ReconciliationUnit :=
  let net : Money := ⟨972_860, "INR"⟩
  { sampleUnit with
    payment := { sampleUnit.payment with capturedAt := some ⟨8_640_000_000_000_000⟩ }
    fees := sampleUnit.fees.map fun f => { f with amount := ⟨23_000, "INR"⟩ }
    taxes := sampleUnit.taxes.map fun t => { t with amount := ⟨4_140, "INR"⟩ }
    settlements := sampleUnit.settlements.map fun s => { s with netAmount := net }
    settlementLines := sampleUnit.settlementLines.map fun l => { l with amount := net }
    bankCredits := sampleUnit.bankCredits.map fun b => { b with amount := net } }

/-- It reconciles with a settlement of 2026: no date is expected, and none is out of reach of
the Invalid Date. -/
theorem lastCapture_not_chronological :
    Date.Valid ⟨8_640_000_000_000_000⟩ ∧
      lastCaptureUnit.payment.capturedAt = some ⟨8_640_000_000_000_000⟩ ∧
      expectedSettlementDate ⟨8_640_000_000_000_000⟩ = none ∧
      (reconcileUnit lastCaptureUnit).outcome = .reconciled ∧
      ∃ s ∈ lastCaptureUnit.settlements,
        s.settlementAt.getTime < 8_640_000_000_000_000 := by
  refine ⟨by decide, rfl, by decide, by decide, ?_⟩
  exact ⟨_, List.mem_singleton_self _, by decide⟩

end SettlementOps
