import SettlementOps.Reconciliation.Checks

/-!
# The deterministic reconciliation baseline

`reconcileUnit` runs the ten checks on a unit and fails closed: one failed check makes
the verdict an exception.

* `checkAmountConservation` — what was settled against what the records say.
* `mem_reasons_iff`, `exception_of_failure` — a verdict and its checks.
* `discrepancy_eq_unexplained` — the discrepancy it files.
* `reconciled_sound` — what a `reconciled` verdict guarantees.
* `reasonsOfChecks`, `reason_mem_iff_of_only` — which check may give a reason.
-/

namespace SettlementOps

/-- The breakdown of the unit's observed records, if it can be computed. -/
def breakdownFor (unit : ReconciliationUnit) : Option AmountBreakdown :=
  match expectedNetFromRecords unit.expectedNetInput with
  | .ok b => some b
  | .error _ => none

structure Conservation where
  check : ReconciliationCheck
  discrepancy : Money
  deriving DecidableEq, Repr

/-- Whether what was settled for the payment is what the observed records say it should
be.  The lines are summed across every settlement leg. -/
def checkAmountConservation (unit : ReconciliationUnit) (breakdown : Option AmountBreakdown) :
    Conservation :=
  let currency := unit.payment.amount.currency
  let zeroMoney : Money := ⟨0, currency⟩
  match breakdown with
  | none =>
      ⟨fail "amount_conservation" .currencyInconsistent none none
        (some "expected net could not be computed") [unit.payment.id], zeroMoney⟩
  | some breakdown =>
      let lines := unit.lines
      if lines.length = 0 then
        ⟨fail "amount_conservation" .noSettlementFound none none none [unit.payment.id],
          ⟨breakdown.expectedNetMinor, currency⟩⟩
      else
        let settled := settledTotalFor unit
        let expected : Money := ⟨breakdown.expectedNetMinor, currency⟩
        match Money.subtract expected settled with
        | .error _ =>
            ⟨fail "amount_conservation" .currencyInconsistent none none none
              [unit.payment.id], zeroMoney⟩
        | .ok discrepancy =>
            let isSplit := distinctSettlements lines > 1
            if withinRoundingTolerance discrepancy.amountMinor lines.length then
              ⟨pass "amount_conservation" (lines.map (·.id))
                (if isSplit then
                  some ("conserved across " ++ toString (distinctSettlements lines) ++
                    " settlement legs")
                else none), discrepancy⟩
            else
              ⟨fail "amount_conservation"
                (if isSplit then .splitSettlementUnresolved else .netAmountMismatch)
                (some (toString expected.amountMinor)) (some (toString settled.amountMinor))
                (some ("variance " ++ toString discrepancy.amountMinor ++ " minor units"))
                (lines.map (·.id)), discrepancy⟩

inductive Outcome
  | reconciled
  | exception
  deriving DecidableEq, Repr

structure ReconciliationVerdict where
  outcome : Outcome
  reasons : List ResidualReason
  discrepancy : Money
  breakdown : Option AmountBreakdown
  checks : List ReconciliationCheck
  evidenceRecordIds : List String
  policyVersion : String
  deriving DecidableEq, Repr

/-- The ten checks, in order. -/
def checksOf (unit : ReconciliationUnit) : List ReconciliationCheck :=
  [ checkCurrencyConsistency unit,
    checkLifecycleConsistency unit,
    checkNoDuplicates unit,
    checkFeeAgainstSchedule unit,
    checkSettlementPresence unit,
    (checkAmountConservation unit (breakdownFor unit)).check,
    checkSettlementTiming unit,
    checkRefundNettingWindow unit,
    checkAdjustmentTiming unit,
    checkBankCredit unit ]

/-- Reconcile one unit.  Any failed check produces an exception. -/
def reconcileUnit (unit : ReconciliationUnit) : ReconciliationVerdict :=
  let breakdown := breakdownFor unit
  let conservation := checkAmountConservation unit breakdown
  let checks := checksOf unit
  let failures := checks.filter (fun c => c.status == .fail)
  { outcome := if failures.length = 0 then .reconciled else .exception
    reasons := (failures.flatMap (fun c => c.reason.toList)).eraseDups
    discrepancy := conservation.discrepancy
    breakdown
    checks
    evidenceRecordIds := (unit.payment.id :: checks.flatMap (·.sourceRecordIds)).eraseDups
    policyVersion := POLICY_VERSION }

/-! ## A verdict and its checks -/

/-- The reasons of a verdict are those of its failed checks. -/
theorem mem_reasons_iff {unit : ReconciliationUnit} {r : ResidualReason} :
    r ∈ (reconcileUnit unit).reasons ↔ ∃ c ∈ checksOf unit, c.failure = some r := by
  simp only [reconcileUnit, List.mem_eraseDups, List.mem_flatMap, List.mem_filter,
    beq_iff_eq, Option.mem_toList, ReconciliationCheck.failure]
  constructor
  · rintro ⟨c, ⟨hc, hstatus⟩, hreason⟩
    exact ⟨c, hc, by rw [if_pos hstatus]; exact hreason⟩
  · rintro ⟨c, hc, h⟩
    by_cases hstatus : c.status = .fail
    · rw [if_pos hstatus] at h
      exact ⟨c, ⟨hc, hstatus⟩, h⟩
    · rw [if_neg hstatus] at h
      cases h

theorem reconciled_iff {unit : ReconciliationUnit} :
    (reconcileUnit unit).outcome = .reconciled ↔ ∀ c ∈ checksOf unit, c.status ≠ .fail := by
  simp only [reconcileUnit, List.length_eq_zero_iff, List.filter_eq_nil_iff, beq_iff_eq]
  split
  · rename_i h
    exact ⟨fun _ => h, fun _ => rfl⟩
  · rename_i h
    exact ⟨fun he => (nomatch he), fun hall => absurd hall h⟩

/-- No check of a reconciled unit reports anything. -/
theorem failure_eq_none_of_reconciled {unit : ReconciliationUnit}
    (h : (reconcileUnit unit).outcome = .reconciled) {c : ReconciliationCheck}
    (hc : c ∈ checksOf unit) : c.failure = none :=
  if_neg (reconciled_iff.1 h c hc)

/-- **Fail closed.**  A check that reports something makes the verdict an exception that
carries its reason. -/
theorem exception_of_failure {unit : ReconciliationUnit} {c : ReconciliationCheck}
    {r : ResidualReason} (hc : c ∈ checksOf unit) (h : c.failure = some r) :
    (reconcileUnit unit).outcome = .exception ∧ r ∈ (reconcileUnit unit).reasons := by
  refine ⟨?_, mem_reasons_iff.2 ⟨c, hc, h⟩⟩
  cases ho : (reconcileUnit unit).outcome with
  | exception => rfl
  | reconciled =>
      rw [failure_eq_none_of_reconciled ho hc] at h
      cases h

/-! ## Amount conservation -/

theorem breakdownFor_eq_some_iff {unit : ReconciliationUnit} {b : AmountBreakdown} :
    breakdownFor unit = some b ↔ expectedNetFromRecords unit.expectedNetInput = .ok b := by
  unfold breakdownFor
  cases expectedNetFromRecords unit.expectedNetInput with
  | error e => simp
  | ok b' => simp

theorem breakdownFor_eq_none_iff {unit : ReconciliationUnit} :
    breakdownFor unit = none ↔ ¬ unit.expectedNetInput.Sound := by
  rw [← expectedNetFromRecords_ok_iff]
  unfold breakdownFor
  cases expectedNetFromRecords unit.expectedNetInput with
  | error e => simp
  | ok b => simp

/-- The unexplained amount: the expected net less what was settled. -/
def ReconciliationUnit.unexplained (unit : ReconciliationUnit) : Int :=
  unit.expectedNetInput.net - unit.settledMinor

/-- Without a breakdown conservation fails. -/
theorem conservation_of_not_sound {unit : ReconciliationUnit}
    (h : ¬ unit.expectedNetInput.Sound) :
    (checkAmountConservation unit (breakdownFor unit)).check.failure =
      some .currencyInconsistent := by
  rw [breakdownFor_eq_none_iff.2 h]
  rfl

/-- Without a line of the payment conservation fails. -/
theorem conservation_of_no_lines {unit : ReconciliationUnit}
    (hs : unit.expectedNetInput.Sound) (h : unit.lines = []) :
    checkAmountConservation unit (breakdownFor unit) =
      ⟨fail "amount_conservation" .noSettlementFound none none none [unit.payment.id],
        ⟨unit.expectedNetInput.net, unit.payment.amount.currency⟩⟩ := by
  obtain ⟨b, hb⟩ := expectedNetFromRecords_ok_iff.2 hs
  rw [breakdownFor_eq_some_iff.2 hb]
  simp only [checkAmountConservation, h, List.length_nil, if_true, expectedNet_eq_net hb]

/-- In one currency the conservation check compares the unexplained amount with the
rounding tolerance of the payment's lines. -/
theorem conservation_of_lines {unit : ReconciliationUnit} (hs : unit.expectedNetInput.Sound)
    (hc : unit.SingleCurrency) (h : unit.lines ≠ []) :
    (checkAmountConservation unit (breakdownFor unit)).discrepancy =
        ⟨unit.unexplained, unit.payment.amount.currency⟩ ∧
      (checkAmountConservation unit (breakdownFor unit)).check.failure =
        if withinRoundingTolerance unit.unexplained unit.lines.length then none
        else some (if distinctSettlements unit.lines > 1 then .splitSettlementUnresolved
          else .netAmountMismatch) := by
  obtain ⟨b, hb⟩ := expectedNetFromRecords_ok_iff.2 hs
  have hlen : unit.lines.length ≠ 0 := by simpa using h
  rw [breakdownFor_eq_some_iff.2 hb]
  simp only [checkAmountConservation, if_neg hlen, settledTotalFor_eq hc,
    expectedNet_eq_net hb]
  rw [Money.subtract_of_currency_eq (a := ⟨unit.expectedNetInput.net,
    unit.payment.amount.currency⟩) (b := ⟨unit.settledMinor, unit.payment.amount.currency⟩) rfl]
  dsimp only
  by_cases hw : withinRoundingTolerance unit.unexplained unit.lines.length = true
  · have hw' : withinRoundingTolerance (unit.expectedNetInput.net - unit.settledMinor)
        unit.lines.length = true := hw
    rw [if_pos hw, if_pos hw']
    exact ⟨rfl, rfl⟩
  · have hw' : ¬ withinRoundingTolerance (unit.expectedNetInput.net - unit.settledMinor)
        unit.lines.length = true := hw
    rw [if_neg hw, if_neg hw']
    exact ⟨rfl, rfl⟩

/-- In one currency the discrepancy of the verdict is the unexplained amount, with lines
or without. -/
theorem discrepancy_eq_unexplained {unit : ReconciliationUnit}
    (hs : unit.expectedNetInput.Sound) (hc : unit.SingleCurrency) :
    (reconcileUnit unit).discrepancy = ⟨unit.unexplained, unit.payment.amount.currency⟩ := by
  change (checkAmountConservation unit (breakdownFor unit)).discrepancy = _
  by_cases h : unit.lines = []
  · rw [conservation_of_no_lines hs h]
    simp only [ReconciliationUnit.unexplained, ReconciliationUnit.settledMinor, h,
      List.map_nil, Money.total_nil, sub_zero]
  · exact (conservation_of_lines hs hc h).1

/-- A unit whose expected net does not exist is never reconciled. -/
theorem exception_of_not_sound {unit : ReconciliationUnit}
    (h : ¬ unit.expectedNetInput.Sound) :
    (reconcileUnit unit).outcome = .exception :=
  (exception_of_failure (by simp [checksOf]) (conservation_of_not_sound h)).1

/-! ## What each check may report -/

theorem conservation_failure (unit : ReconciliationUnit) (breakdown : Option AmountBreakdown) :
    (checkAmountConservation unit breakdown).check.failure ∈
      [none, some .currencyInconsistent, some .noSettlementFound,
        some .splitSettlementUnresolved, some .netAmountMismatch] := by
  unfold checkAmountConservation
  dsimp only
  split
  · simp
  split
  · simp
  split
  · simp
  split
  · simp
  · split <;> simp

/-- The checks of a unit, each with the reasons it may give. -/
def reasonsOfChecks (unit : ReconciliationUnit) :
    List (ReconciliationCheck × List ResidualReason) :=
  [ (checkCurrencyConsistency unit, [.currencyInconsistent]),
    (checkLifecycleConsistency unit, [.lifecycleInconsistent]),
    (checkNoDuplicates unit, [.duplicateSourceRecord]),
    (checkFeeAgainstSchedule unit, [.lifecycleInconsistent, .missingFeeRecord,
      .unexpectedFeeAmount, .currencyInconsistent]),
    (checkSettlementPresence unit, [.noSettlementFound]),
    ((checkAmountConservation unit (breakdownFor unit)).check, [.currencyInconsistent,
      .noSettlementFound, .splitSettlementUnresolved, .netAmountMismatch]),
    (checkSettlementTiming unit, [.noSettlementFound, .settlementTimingOutsideWindow]),
    (checkRefundNettingWindow unit, [.refundOutsideNettingWindow]),
    (checkAdjustmentTiming unit, [.lifecycleInconsistent]),
    (checkBankCredit unit, [.missingBankCredit, .bankCreditAmountMismatch,
      .bankCreditTimingOutsideWindow]) ]

theorem checksOf_eq_map (unit : ReconciliationUnit) :
    checksOf unit = (reasonsOfChecks unit).map (·.1) := rfl

/-- A check gives no reason but its own. -/
theorem failure_mem_reasons {unit : ReconciliationUnit}
    {c : ReconciliationCheck × List ResidualReason} (hc : c ∈ reasonsOfChecks unit)
    {r : ResidualReason} (h : c.1.failure = some r) : r ∈ c.2 := by
  simp only [reasonsOfChecks, List.mem_cons, List.not_mem_nil, or_false] at hc
  rcases hc with rfl | rfl | rfl | rfl | rfl | rfl | rfl | rfl | rfl | rfl
  · rcases checkCurrencyConsistency_failure unit with ⟨-, hcur⟩ | ⟨-, hcur⟩
    · simp [h] at hcur
    · simpa [h] using hcur
  · simpa [h] using checkLifecycleConsistency_failure unit
  · rw [checkNoDuplicates_failure] at h
    split at h
    · cases h
    · cases h
      simp
  · simpa [h] using checkFeeAgainstSchedule_failure unit
  · rw [checkSettlementPresence_failure] at h
    split at h
    · cases h
      simp
    · cases h
  · simpa [h] using conservation_failure unit (breakdownFor unit)
  · simpa [h] using checkSettlementTiming_failure unit
  · simpa [h] using checkRefundNettingWindow_failure unit
  · simpa [h] using checkAdjustmentTiming_failure unit
  · simpa [h] using checkBankCredit_failure_mem unit

/-- A reason that only one check may give is reported exactly when this check gives it. -/
theorem reason_mem_iff_of_only {unit : ReconciliationUnit} {r : ResidualReason}
    {c : ReconciliationCheck} (hc : c ∈ checksOf unit)
    (honly : ∀ c' ∈ reasonsOfChecks unit, r ∈ c'.2 → c'.1 = c) :
    r ∈ (reconcileUnit unit).reasons ↔ c.failure = some r := by
  rw [mem_reasons_iff]
  constructor
  · rintro ⟨_, hmem, h⟩
    rw [checksOf_eq_map] at hmem
    obtain ⟨c', hc', rfl⟩ := List.mem_map.1 hmem
    rw [← honly c' hc' (failure_mem_reasons hc' h)]
    exact h
  · intro h
    exact ⟨c, hc, h⟩

/-- **Duplicates are reported exactly when the unit carries duplicate groups**: no other check
has that reason. -/
theorem duplicate_reported_iff (unit : ReconciliationUnit) :
    .duplicateSourceRecord ∈ (reconcileUnit unit).reasons ↔ unit.duplicates ≠ [] := by
  have hcheck : checkNoDuplicates unit ∈ checksOf unit := by simp [checksOf]
  rw [reason_mem_iff_of_only hcheck (by simp [reasonsOfChecks]), checkNoDuplicates_failure]
  split
  · rename_i hnil
    simp [hnil]
  · rename_i hne
    simp [hne]

/-! ## A unit that reconciles -/

/-- The lineage of the sample records. -/
def sampleBase (id : String) : RecordBase where
  id
  scope := ⟨"m-1"⟩
  lineage := ⟨"gateway", id, ⟨0⟩, ⟨0⟩, "v1"⟩

/-- A card payment of 10,000.00, captured on 2026-02-02 and settled net of a fee of
250.00 and a tax of 45.00 on 2026-02-04. -/
def sampleUnit : ReconciliationUnit where
  payment := { sampleBase "pay-1" with
    paymentId := "pay-1"
    orderId := none
    amount := ⟨1_000_000, "INR"⟩
    paymentMethod := .card
    status := .captured
    authorizedAt := none
    capturedAt := some ⟨1_770_026_400_000⟩ }
  fees := [{ sampleBase "fee-1" with
    paymentId := some "pay-1"
    settlementId := none
    feeType := "MDR"
    amount := ⟨25_000, "INR"⟩
    effectiveDate := ⟨1_770_026_400_000⟩ }]
  taxes := [{ sampleBase "tax-1" with
    feeLineId := some "fee-1"
    taxType := "GST"
    amount := ⟨4_500, "INR"⟩
    period := "2026-02" }]
  refunds := []
  adjustments := []
  settlements := [{ sampleBase "set-1" with
    settlementId := "set-1"
    settlementBatchId := none
    grossAmount := ⟨1_000_000, "INR"⟩
    netAmount := ⟨970_500, "INR"⟩
    settlementAt := ⟨1_770_163_200_000⟩
    status := .processed
    utr := some "UTR001" }]
  settlementLines := [{ sampleBase "line-1" with
    settlementId := "set-1"
    paymentId := some "pay-1"
    refundId := none
    lineType := .payment
    amount := ⟨970_500, "INR"⟩ }]
  bankCredits := [{ sampleBase "credit-1" with
    utr := "UTR001"
    amount := ⟨970_500, "INR"⟩
    creditedAt := ⟨1_770_184_800_000⟩
    bankReference := "REF-1" }]
  duplicates := []

/-! ## What a reconciled verdict guarantees -/

section Reconciled

variable {unit : ReconciliationUnit} (h : (reconcileUnit unit).outcome = .reconciled)
include h

theorem singleCurrency_of_reconciled : unit.SingleCurrency := by
  rcases checkCurrencyConsistency_failure unit with ⟨hcur, -⟩ | ⟨-, hfail⟩
  · exact hcur
  · rw [failure_eq_none_of_reconciled h (by simp [checksOf])] at hfail
    cases hfail

theorem lines_of_reconciled : unit.lines ≠ [] := by
  intro hnil
  have hpres := checkSettlementPresence_failure unit
  rw [failure_eq_none_of_reconciled h (by simp [checksOf]), if_pos hnil] at hpres
  cases hpres

theorem sound_of_reconciled : unit.expectedNetInput.Sound := by
  by_contra hns
  have hcons := conservation_of_not_sound hns
  rw [failure_eq_none_of_reconciled h (by simp [checksOf])] at hcons
  cases hcons

/-- What is left unexplained is within the rounding tolerance of the lines. -/
theorem unexplained_of_reconciled :
    |unit.unexplained| ≤ roundingToleranceFor unit.lines.length := by
  have hcons := (conservation_of_lines (sound_of_reconciled h) (singleCurrency_of_reconciled h)
    (lines_of_reconciled h)).2
  rw [failure_eq_none_of_reconciled h (by simp [checksOf])] at hcons
  by_contra hno
  rw [if_neg fun hw => hno (withinRoundingTolerance_iff.1 hw)] at hcons
  cases hcons

end Reconciled

/-- **A reconciled verdict is sound.**  Every amount is in the payment's currency, a line
references the payment, and the unexplained amount is within the rounding tolerance of
the payment's lines.  None of the fallbacks was taken: the breakdown exists, and the
lines and the recorded fees add up. -/
theorem reconciled_sound {unit : ReconciliationUnit}
    (h : (reconcileUnit unit).outcome = .reconciled) :
    (∀ m ∈ unit.fees.map (·.amount) ++ unit.taxes.map (·.amount) ++
        unit.refunds.map (·.amount) ++ unit.adjustments.map (·.amount) ++
        unit.settlementLines.map (·.amount) ++ unit.bankCredits.map (·.amount),
      m.currency = unit.payment.amount.currency) ∧
    (∃ l ∈ unit.settlementLines, l.paymentId = some unit.payment.paymentId) ∧
    |unit.payment.amount.amountMinor - Money.total (unit.fees.map (·.amount)) -
        Money.total (unit.taxes.map (·.amount)) - Money.total (unit.refunds.map (·.amount)) +
        Money.total (unit.adjustments.map (·.amount)) -
        Money.total (unit.lines.map (·.amount))| ≤ min 100 (2 * (unit.lines.length : Int)) ∧
    (∃ b, (reconcileUnit unit).breakdown = some b) ∧
    Money.sum (unit.lines.map (·.amount)) = .ok (settledTotalFor unit) ∧
    (unit.fees ≠ [] → Money.sum (unit.fees.map (·.amount)) =
      .ok ⟨Money.total (unit.fees.map (·.amount)), unit.payment.amount.currency⟩) := by
  have hcur := singleCurrency_of_reconciled h
  have hlines := lines_of_reconciled h
  have hsound := sound_of_reconciled h
  refine ⟨hcur, ?_, ?_, ?_, ?_, ?_⟩
  · obtain ⟨l, hl⟩ := List.exists_mem_of_ne_nil _ hlines
    obtain ⟨hmem, hpay⟩ := List.mem_filter.1 hl
    exact ⟨l, hmem, by simpa using hpay⟩
  · have hpos : 1 ≤ unit.lines.length := List.length_pos_of_ne_nil hlines
    have htol := unexplained_of_reconciled h
    rw [roundingToleranceFor_eq_min, max_eq_right hpos] at htol
    exact htol
  · obtain ⟨b, hb⟩ := expectedNetFromRecords_ok_iff.2 hsound
    exact ⟨b, breakdownFor_eq_some_iff.2 hb⟩
  · rw [settledTotalFor_eq hcur]
    exact Money.sum_of_currency (by simpa using hlines) fun m hm => hcur m (mem_lines_amount hm)
  · intro hfees
    exact Money.sum_of_currency (by simpa using hfees) fun m hm => hcur m (by
      simp only [ReconciliationUnit.comparedAmounts, List.mem_append, hm, true_or])

/-- The sample unit reconciles, so it has all that the verdict guarantees. -/
theorem reconciled_sound_sampleUnit :
    (reconcileUnit sampleUnit).outcome = .reconciled ∧
    (∀ m ∈ sampleUnit.comparedAmounts, m.currency = "INR") ∧
    |(1_000_000 : Int) - 25_000 - 4_500 - 0 + 0 - 970_500| ≤ min 100 (2 * 1) := by
  have h : (reconcileUnit sampleUnit).outcome = .reconciled := by decide
  have hsound := reconciled_sound h
  exact ⟨h, hsound.1, hsound.2.2.1⟩

end SettlementOps
