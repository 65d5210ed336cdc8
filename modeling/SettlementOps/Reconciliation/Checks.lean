import SettlementOps.Policy.SettlementCycle
import SettlementOps.Reconciliation.ExpectedNet

/-!
# The deterministic checks

Each check is a pure function of the unit and names the records it consulted.  After
each definition stands what its failure, or its passing, says about the unit.

* `checkCurrencyConsistency`, `checkLifecycleConsistency`, `checkNoDuplicates`,
  `checkFeeAgainstSchedule`, `checkSettlementPresence`, `checkSettlementTiming`,
  `checkRefundNettingWindow`, `checkBankCredit`, `checkAdjustmentTiming`.
* `settledTotalFor` — what was settled for the payment.
-/

namespace SettlementOps

/-- Why the baseline stopped. -/
inductive ResidualReason
  | noSettlementFound
  | multipleSettlementCandidates
  | netAmountMismatch
  | splitSettlementUnresolved
  | missingBankCredit
  | bankCreditAmountMismatch
  | settlementTimingOutsideWindow
  | bankCreditTimingOutsideWindow
  | missingFeeRecord
  | unexpectedFeeAmount
  | duplicateSourceRecord
  | refundOutsideNettingWindow
  | lifecycleInconsistent
  | currencyInconsistent
  deriving DecidableEq, Repr

inductive CheckStatus
  | pass
  | fail
  | notRun
  deriving DecidableEq, Repr

structure ReconciliationCheck where
  name : String
  status : CheckStatus
  expected : Option String := none
  observed : Option String := none
  detail : Option String := none
  reason : Option ResidualReason := none
  sourceRecordIds : List String := []
  deriving DecidableEq, Repr

def pass (name : String) (sourceRecordIds : List String := [])
    (detail : Option String := none) : ReconciliationCheck :=
  { name, status := .pass, detail, sourceRecordIds }

def fail (name : String) (reason : ResidualReason) (expected : Option String := none)
    (observed : Option String := none) (detail : Option String := none)
    (sourceRecordIds : List String := []) : ReconciliationCheck :=
  { name, status := .fail, expected, observed, detail, reason := some reason, sourceRecordIds }

@[simp] theorem pass_status (name : String) (ids : List String) (detail : Option String) :
    (pass name ids detail).status = .pass := rfl

@[simp] theorem fail_status (name : String) (reason : ResidualReason)
    (expected observed detail : Option String) (ids : List String) :
    (fail name reason expected observed detail ids).status = .fail := rfl

@[simp] theorem fail_reason (name : String) (reason : ResidualReason)
    (expected observed detail : Option String) (ids : List String) :
    (fail name reason expected observed detail ids).reason = some reason := rfl

/-- The reason a check contributes to the verdict: that of a failed check. -/
def ReconciliationCheck.failure (c : ReconciliationCheck) : Option ResidualReason :=
  if c.status = .fail then c.reason else none

@[simp] theorem failure_pass (name : String) (ids : List String) (detail : Option String) :
    (pass name ids detail).failure = none := rfl

@[simp] theorem failure_fail (name : String) (reason : ResidualReason)
    (expected observed detail : Option String) (ids : List String) :
    (fail name reason expected observed detail ids).failure = some reason := rfl

/-! ## Currency -/

namespace ReconciliationUnit

/-- The amounts that must be in the payment's currency. -/
def comparedAmounts (unit : ReconciliationUnit) : List Money :=
  unit.fees.map (·.amount) ++ unit.taxes.map (·.amount) ++ unit.refunds.map (·.amount) ++
    unit.adjustments.map (·.amount) ++ unit.settlementLines.map (·.amount) ++
    unit.bankCredits.map (·.amount)

/-- The settlement lines that reference the payment. -/
def lines (unit : ReconciliationUnit) : List SettlementLineRecord :=
  unit.settlementLines.filter (fun l => l.paymentId == some unit.payment.paymentId)

/-- Every compared amount is in the payment's currency. -/
def SingleCurrency (unit : ReconciliationUnit) : Prop :=
  ∀ m ∈ unit.comparedAmounts, m.currency = unit.payment.amount.currency

end ReconciliationUnit

def checkCurrencyConsistency (unit : ReconciliationUnit) : ReconciliationCheck :=
  let currency := unit.payment.amount.currency
  match unit.comparedAmounts.find? (fun m => m.currency != currency) with
  | none => pass "currency_consistency" [unit.payment.id]
  | some mismatch =>
      fail "currency_consistency" .currencyInconsistent (some currency)
        (some mismatch.currency)

theorem checkCurrencyConsistency_failure (unit : ReconciliationUnit) :
    (unit.SingleCurrency ∧ (checkCurrencyConsistency unit).failure = none) ∨
      (¬ unit.SingleCurrency ∧
        (checkCurrencyConsistency unit).failure = some .currencyInconsistent) := by
  unfold checkCurrencyConsistency
  dsimp only
  cases h : unit.comparedAmounts.find? (fun m => m.currency != unit.payment.amount.currency) with
  | none =>
      refine .inl ⟨fun m hm => ?_, rfl⟩
      simpa using List.find?_eq_none.1 h m hm
  | some m =>
      refine .inr ⟨fun hall => ?_, rfl⟩
      have hm := List.find?_some h
      exact absurd (hall m (List.mem_of_find?_eq_some h)) (by simpa using hm)

/-! ## Lifecycle -/

/-- `a < b` for instants that may be missing; false when either is. -/
def before (a b : Option Date) : Bool :=
  match a, b with
  | some a, some b => a.getTime < b.getTime
  | _, _ => false

def checkLifecycleConsistency (unit : ReconciliationUnit) : ReconciliationCheck :=
  let p := unit.payment
  if p.status = .captured ∧ p.capturedAt = none then
    fail "lifecycle_consistency" .lifecycleInconsistent none none
      (some "payment is CAPTURED but has no capture timestamp") [p.id]
  else if before p.capturedAt p.authorizedAt then
    fail "lifecycle_consistency" .lifecycleInconsistent none none
      (some "capture precedes authorization") [p.id]
  else
    match Money.sum (unit.refunds.map (·.amount)) with
    | .ok refundTotal =>
        if refundTotal.amountMinor > p.amount.amountMinor then
          fail "lifecycle_consistency" .lifecycleInconsistent
            (some ("<= " ++ toString p.amount.amountMinor))
            (some (toString refundTotal.amountMinor))
            (some "refunds exceed the captured payment amount") (unit.refunds.map (·.id))
        else pass "lifecycle_consistency" [p.id]
    | .error _ => pass "lifecycle_consistency" [p.id]

theorem checkLifecycleConsistency_failure (unit : ReconciliationUnit) :
    (checkLifecycleConsistency unit).failure ∈ [none, some .lifecycleInconsistent] := by
  unfold checkLifecycleConsistency
  dsimp only
  split
  · simp
  split
  · simp
  split
  · split <;> simp
  · simp

/-- A payment that passes was not captured before it was authorized. -/
theorem checkLifecycleConsistency_ordered {unit : ReconciliationUnit}
    (h : (checkLifecycleConsistency unit).failure = none) :
    before unit.payment.capturedAt unit.payment.authorizedAt = false := by
  unfold checkLifecycleConsistency at h
  dsimp only at h
  split at h
  · cases h
  split at h
  · cases h
  · rename_i hordered
    exact Bool.eq_false_iff.2 hordered

/-! ## Duplicates -/

def checkNoDuplicates (unit : ReconciliationUnit) : ReconciliationCheck :=
  if unit.duplicates.length = 0 then pass "duplicate_detection" [unit.payment.id]
  else
    fail "duplicate_detection" .duplicateSourceRecord none none
      (some (", ".intercalate (unit.duplicates.map fun d => d.detection.code ++ ":" ++ d.key)))
      (unit.duplicates.flatMap (·.ids))

theorem checkNoDuplicates_failure (unit : ReconciliationUnit) :
    (checkNoDuplicates unit).failure =
      if unit.duplicates = [] then none else some .duplicateSourceRecord := by
  unfold checkNoDuplicates
  simp only [List.length_eq_zero_iff]
  split <;> simp

/-! ## Fees against the schedule -/

/-- The time a fee schedule is selected by. -/
def PaymentRecord.scheduleTime (p : PaymentRecord) : Option Date :=
  match p.capturedAt with
  | some t => some t
  | none => p.authorizedAt

def checkFeeAgainstSchedule (unit : ReconciliationUnit) : ReconciliationCheck :=
  let p := unit.payment
  match p.scheduleTime with
  | none =>
      fail "fee_matches_schedule" .lifecycleInconsistent none none
        (some "no capture or authorization time to select a fee schedule") [p.id]
  | some time =>
      match scheduledFeeFor p.amount p.paymentMethod time with
      | none =>
          fail "fee_matches_schedule" .missingFeeRecord none none
            (some "no fee schedule in force at the payment date") [p.id]
      | some scheduled =>
          let feeTotal :=
            match Money.sum (unit.fees.map (·.amount)) with
            | .ok observedFee => observedFee
            | .error _ => Money.zero p.amount.currency
          if unit.fees.length = 0 ∧ scheduled.fee.amountMinor ≠ 0 then
            fail "fee_matches_schedule" .missingFeeRecord
              (some (toString scheduled.fee.amountMinor)) (some "0")
              (some ("schedule " ++ scheduled.scheduleId ++
                " expects a fee but no fee record exists")) [p.id]
          else
            match Money.subtract feeTotal scheduled.fee with
            | .error _ =>
                fail "fee_matches_schedule" .currencyInconsistent none none none
                  (unit.fees.map (·.id))
            | .ok delta =>
                if withinRoundingTolerance delta.amountMinor (max 1 unit.fees.length) then
                  pass "fee_matches_schedule" (unit.fees.map (·.id))
                    (some ("schedule " ++ scheduled.scheduleId))
                else
                  fail "fee_matches_schedule" .unexpectedFeeAmount
                    (some (toString scheduled.fee.amountMinor))
                    (some (toString feeTotal.amountMinor))
                    (some ("against schedule " ++ scheduled.scheduleId))
                    (unit.fees.map (·.id))

theorem checkFeeAgainstSchedule_failure (unit : ReconciliationUnit) :
    (checkFeeAgainstSchedule unit).failure ∈ [none, some .lifecycleInconsistent,
      some .missingFeeRecord, some .unexpectedFeeAmount, some .currencyInconsistent] := by
  unfold checkFeeAgainstSchedule
  dsimp only
  split
  · simp
  split
  · simp
  split
  · simp
  split
  · simp
  split <;> simp

/-- Without a schedule in force the fee check fails. -/
theorem checkFeeAgainstSchedule_of_no_schedule {unit : ReconciliationUnit}
    (h : ∀ time, unit.payment.scheduleTime = some time →
      scheduledFeeFor unit.payment.amount unit.payment.paymentMethod time = none) :
    (checkFeeAgainstSchedule unit).failure ≠ none := by
  unfold checkFeeAgainstSchedule
  dsimp only
  cases htime : unit.payment.scheduleTime with
  | none => simp
  | some time =>
      dsimp only
      rw [h time htime]
      simp

/-- **The fee check in one currency** compares the recorded fees with the scheduled one. -/
theorem checkFeeAgainstSchedule_of_schedule {unit : ReconciliationUnit} {time : Date}
    {scheduled : ScheduledFee} (hc : unit.SingleCurrency)
    (htime : unit.payment.scheduleTime = some time)
    (hs : scheduledFeeFor unit.payment.amount unit.payment.paymentMethod time = some scheduled) :
    (checkFeeAgainstSchedule unit).failure =
      if unit.fees = [] ∧ scheduled.fee.amountMinor ≠ 0 then some .missingFeeRecord
      else if withinRoundingTolerance
          (Money.total (unit.fees.map (·.amount)) - scheduled.fee.amountMinor)
          (max 1 unit.fees.length) then none
      else some .unexpectedFeeAmount := by
  have hcur := (scheduledFeeFor_currency hs).1
  have hfees : ∀ m ∈ unit.fees.map (·.amount), m.currency = unit.payment.amount.currency :=
    fun m hm => hc m (by simp only [ReconciliationUnit.comparedAmounts, List.mem_append, hm,
      true_or])
  have hsubtract : ∀ total, Money.subtract ⟨total, unit.payment.amount.currency⟩ scheduled.fee =
      .ok ⟨total - scheduled.fee.amountMinor, unit.payment.amount.currency⟩ :=
    fun total => Money.subtract_of_currency_eq (a := ⟨total, _⟩) hcur.symm
  unfold checkFeeAgainstSchedule
  dsimp only
  rw [htime]
  dsimp only
  rw [hs]
  dsimp only
  simp only [List.length_eq_zero_iff]
  split
  · rfl
  · by_cases hnil : unit.fees.map (·.amount) = []
    · rw [hnil, Money.sum]
      dsimp only
      rw [Money.zero, hsubtract, Money.total_nil]
      dsimp only
      split <;> rfl
    · rw [Money.sum_of_currency hnil hfees]
      dsimp only
      rw [hsubtract]
      dsimp only
      split <;> rfl

/-- A fee total in another currency than the payment's needs a fee that is. -/
theorem checkFeeAgainstSchedule_currency {unit : ReconciliationUnit}
    (h : unit.SingleCurrency) :
    (checkFeeAgainstSchedule unit).failure ≠ some .currencyInconsistent := by
  have hfees : ∀ m ∈ unit.fees.map (·.amount), m.currency = unit.payment.amount.currency :=
    fun m hm => h m (by simp only [ReconciliationUnit.comparedAmounts, List.mem_append, hm,
      true_or])
  unfold checkFeeAgainstSchedule
  dsimp only
  split
  · simp
  split
  · simp
  rename_i scheduled hscheduled
  split
  · simp
  split
  · rename_i e hsub
    have hcur := (scheduledFeeFor_currency hscheduled).1
    -- the fee total is a sum of the fees, or zero in the payment's currency
    rw [Money.subtract_of_currency_eq] at hsub
    · cases hsub
    · rw [hcur]
      split
      · rename_i total htotal
        obtain ⟨hne, hall, -⟩ := Money.sum_ok_iff.1 htotal
        obtain ⟨m, hm⟩ := List.exists_mem_of_ne_nil _ hne
        exact (hall m hm).symm.trans (hfees m hm)
      · rfl
  split <;> simp

/-! ## Settlement presence and timing -/

def distinctSettlements (lines : List SettlementLineRecord) : Nat :=
  (lines.map (·.settlementId)).eraseDups.length

def checkSettlementPresence (unit : ReconciliationUnit) : ReconciliationCheck :=
  let lines := unit.lines
  if lines.length = 0 then
    fail "settlement_present" .noSettlementFound none none
      (some "no settlement line references this payment") [unit.payment.id]
  else if distinctSettlements lines > 1 then
    pass "settlement_present" (lines.map (·.id))
      (some ("split across " ++ toString (distinctSettlements lines) ++ " settlements"))
  else pass "settlement_present" (lines.map (·.id))

theorem checkSettlementPresence_failure (unit : ReconciliationUnit) :
    (checkSettlementPresence unit).failure =
      if unit.lines = [] then some .noSettlementFound else none := by
  unfold checkSettlementPresence
  simp only [List.length_eq_zero_iff]
  split
  · rfl
  · split <;> rfl

def checkSettlementTiming (unit : ReconciliationUnit) : ReconciliationCheck :=
  let p := unit.payment
  match p.capturedAt with
  | none => pass "settlement_timing" [p.id] (some "no capture time; not applicable")
  | some capturedAt =>
      let settlements := unit.settlements
      if settlements.length = 0 then
        fail "settlement_timing" .noSettlementFound none none none [p.id]
      else
        let expected := expectedSettlementDate capturedAt
        -- no number of days from the Invalid Date exceeds the tolerance
        let outside := settlements.filter fun s => expected.any fun expected =>
          daysBetween s.settlementAt expected > SETTLEMENT_DATE_MATCH_TOLERANCE_DAYS
        if outside.length = 0 then pass "settlement_timing" (settlements.map (·.id))
        else
          fail "settlement_timing" .settlementTimingOutsideWindow
            (expected.map Calendar.toISOString)
            (some (", ".intercalate
              (outside.map fun s => Calendar.toISOString s.settlementAt)))
            none (outside.map (·.id))

theorem checkSettlementTiming_failure (unit : ReconciliationUnit) :
    (checkSettlementTiming unit).failure ∈
      [none, some .noSettlementFound, some .settlementTimingOutsideWindow] := by
  unfold checkSettlementTiming
  dsimp only
  split
  · simp
  split
  · simp
  split <;> simp

/-- **When a captured payment passes the timing check**: it is settled, and every settlement is
within the tolerance of the expected date, if there is one. -/
theorem checkSettlementTiming_passes_iff {unit : ReconciliationUnit} {capturedAt : Date}
    (hc : unit.payment.capturedAt = some capturedAt) :
    (checkSettlementTiming unit).failure = none ↔ unit.settlements ≠ [] ∧
      ∀ s ∈ unit.settlements, ∀ expected ∈ expectedSettlementDate capturedAt,
        daysBetween s.settlementAt expected ≤ SETTLEMENT_DATE_MATCH_TOLERANCE_DAYS := by
  have houtside : unit.settlements.filter (fun s =>
        (expectedSettlementDate capturedAt).any fun expected =>
          daysBetween s.settlementAt expected > SETTLEMENT_DATE_MATCH_TOLERANCE_DAYS) = [] ↔
      ∀ s ∈ unit.settlements, ∀ expected ∈ expectedSettlementDate capturedAt,
        daysBetween s.settlementAt expected ≤ SETTLEMENT_DATE_MATCH_TOLERANCE_DAYS := by
    simp only [List.filter_eq_nil_iff, Option.any_eq_true, decide_eq_true_eq, gt_iff_lt, not_exists,
      not_and, not_lt, Option.mem_def]
  rw [← houtside]
  unfold checkSettlementTiming
  dsimp only
  rw [hc]
  simp only [List.length_eq_zero_iff]
  split
  · rename_i hnil
    simp [hnil]
  · rename_i hne
    split
    · rename_i hinside
      simp [hne, hinside]
    · rename_i houtside
      simp [houtside]

/-! ## Refunds -/

/-- Whether a refund settled beyond the netting window.  The source halves the days and
compares with the cycles; the days are compared with twice the cycles here. -/
def RefundRecord.late (r : RefundRecord) : Bool :=
  match r.settledAt with
  | none => false
  | some settledAt => daysBetween settledAt r.createdAt > 2 * REFUND_NETTING_MAX_CYCLES

theorem late_iff {r : RefundRecord} :
    r.late = true ↔ ∃ settledAt, r.settledAt = some settledAt ∧
      2 * REFUND_NETTING_MAX_CYCLES < daysBetween settledAt r.createdAt := by
  unfold RefundRecord.late
  cases r.settledAt with
  | none => simp
  | some t => simp

def checkRefundNettingWindow (unit : ReconciliationUnit) : ReconciliationCheck :=
  let late := unit.refunds.filter (·.late)
  if late.length = 0 then pass "refund_netting_window" (unit.refunds.map (·.id))
  else
    fail "refund_netting_window" .refundOutsideNettingWindow none none
      (some (toString late.length ++ " refund(s) settled beyond " ++
        toString REFUND_NETTING_MAX_CYCLES ++ " cycles"))
      (late.map (·.id))

theorem checkRefundNettingWindow_failure (unit : ReconciliationUnit) :
    (checkRefundNettingWindow unit).failure ∈ [none, some .refundOutsideNettingWindow] := by
  unfold checkRefundNettingWindow
  dsimp only
  split <;> simp

theorem checkRefundNettingWindow_passes_iff {unit : ReconciliationUnit} :
    (checkRefundNettingWindow unit).failure = none ↔ ∀ r ∈ unit.refunds, r.late = false := by
  have hnone : unit.refunds.filter (·.late) = [] ↔ ∀ r ∈ unit.refunds, r.late = false := by
    simp only [List.filter_eq_nil_iff, Bool.not_eq_true]
  rw [← hnone]
  unfold checkRefundNettingWindow
  simp only [List.length_eq_zero_iff]
  split
  · rename_i hnil
    simp [hnil]
  · rename_i hne
    simp [hne]

/-! ## The bank leg -/

/-- Whether a credit is the settlement's net amount, currency included. -/
def creditAgrees (credit net : Money) : Bool :=
  match Money.subtract credit net with
  | .error _ => false
  | .ok creditVariance => withinAmountMatchTolerance creditVariance.amountMinor

/-- The loop over the settlements that have a UTR; `credited` are the credits matched so
far. -/
def matchCredits (unit : ReconciliationUnit) :
    List SettlementRecord → List String → ReconciliationCheck
  | [], credited => pass "bank_credit" credited
  | settlement :: rest, credited =>
      match unit.bankCredits.find? (fun b => some b.utr == settlement.utr) with
      | none =>
          fail "bank_credit" .missingBankCredit
            (some ("credit for UTR " ++ settlement.utr.getD "")) (some "none") none
            [settlement.id]
      | some credit =>
          if !creditAgrees credit.amount settlement.netAmount then
            fail "bank_credit" .bankCreditAmountMismatch
              (some (toString settlement.netAmount.amountMinor))
              (some (toString credit.amount.amountMinor)) none [settlement.id, credit.id]
          else if !bankCreditWithinExpectedLag settlement.settlementAt credit.creditedAt then
            fail "bank_credit" .bankCreditTimingOutsideWindow
              (some (Calendar.toISOString settlement.settlementAt))
              (some (Calendar.toISOString credit.creditedAt)) none [settlement.id, credit.id]
          else matchCredits unit rest (credited ++ [credit.id])

/-- The settlements that have a UTR. -/
def ReconciliationUnit.utrSettlements (unit : ReconciliationUnit) : List SettlementRecord :=
  unit.settlements.filter (fun s => s.utr != none)

def checkBankCredit (unit : ReconciliationUnit) : ReconciliationCheck :=
  let settlements := unit.utrSettlements
  if settlements.length = 0 then
    pass "bank_credit" [] (some "no settlement UTR to match; not applicable")
  else matchCredits unit settlements []

/-- The credit the bank check matches a settlement with: the first with its UTR. -/
def ReconciliationUnit.creditFor (unit : ReconciliationUnit) (s : SettlementRecord) :
    Option BankCreditRecord :=
  unit.bankCredits.find? (fun b => some b.utr == s.utr)

theorem mem_of_creditFor {unit : ReconciliationUnit} {s : SettlementRecord}
    {b : BankCreditRecord} (h : unit.creditFor s = some b) :
    b ∈ unit.bankCredits ∧ some b.utr = s.utr :=
  ⟨List.mem_of_find?_eq_some h, by simpa using List.find?_some h⟩

/-- What the bank check finds wrong with one settlement. -/
def ReconciliationUnit.legDefect (unit : ReconciliationUnit) (s : SettlementRecord) :
    Option ResidualReason :=
  match unit.creditFor s with
  | none => some .missingBankCredit
  | some credit =>
      if !creditAgrees credit.amount s.netAmount then some .bankCreditAmountMismatch
      else if !bankCreditWithinExpectedLag s.settlementAt credit.creditedAt then
        some .bankCreditTimingOutsideWindow
      else none

theorem creditAgrees_iff {credit net : Money} : creditAgrees credit net = true ↔ credit = net := by
  obtain ⟨a, c⟩ := credit
  obtain ⟨b, d⟩ := net
  by_cases hc : c = d
  · subst hc
    rw [creditAgrees, Money.subtract_of_currency_eq (a := ⟨a, c⟩) (b := ⟨b, c⟩) rfl]
    simp only [withinAmountMatchTolerance_iff, Money.mk.injEq, and_true]
    omega
  · rw [creditAgrees, Money.subtract_of_currency_ne (a := ⟨a, c⟩) (b := ⟨b, d⟩) hc]
    simp [hc]

theorem matchCredits_failure (unit : ReconciliationUnit) (settlements : List SettlementRecord) :
    ∀ credited, (matchCredits unit settlements credited).failure =
      settlements.findSome? unit.legDefect := by
  induction settlements with
  | nil =>
      intro credited
      rfl
  | cons s rest ih =>
      intro credited
      rw [matchCredits, List.findSome?_cons, ReconciliationUnit.legDefect,
        ReconciliationUnit.creditFor]
      cases unit.bankCredits.find? (fun b => some b.utr == s.utr) with
      | none => rfl
      | some credit =>
          dsimp only
          by_cases hagree : (!creditAgrees credit.amount s.netAmount) = true
          · rw [if_pos hagree, if_pos hagree]
            rfl
          · rw [if_neg hagree, if_neg hagree]
            by_cases hlag : (!bankCreditWithinExpectedLag s.settlementAt credit.creditedAt) = true
            · rw [if_pos hlag, if_pos hlag]
              rfl
            · rw [if_neg hlag, if_neg hlag]
              exact ih _

/-- **The bank check reports the first settlement something is wrong with.** -/
theorem checkBankCredit_failure (unit : ReconciliationUnit) :
    (checkBankCredit unit).failure = unit.utrSettlements.findSome? unit.legDefect := by
  unfold checkBankCredit
  dsimp only
  split
  · rename_i h
    rw [List.length_eq_zero_iff.1 h]
    rfl
  · exact matchCredits_failure unit _ _

theorem checkBankCredit_failure_mem (unit : ReconciliationUnit) :
    (checkBankCredit unit).failure ∈ [none, some .missingBankCredit,
      some .bankCreditAmountMismatch, some .bankCreditTimingOutsideWindow] := by
  rw [checkBankCredit_failure]
  cases hfound : unit.utrSettlements.findSome? unit.legDefect with
  | none => simp
  | some r =>
      obtain ⟨s, -, hs⟩ := List.exists_of_findSome?_eq_some hfound
      rw [← hs]
      unfold ReconciliationUnit.legDefect
      split
      · simp
      split
      · simp
      split <;> simp

/-! ## Adjustments -/

/-- The adjustments that cannot have affected any settlement of the unit. -/
def ReconciliationUnit.impossibleAdjustments (unit : ReconciliationUnit) :
    List AdjustmentRecord :=
  unit.adjustments.filter fun adjustment =>
    unit.settlements.all fun settlement =>
      !adjustmentCanExplainSettlement adjustment.effectiveAt settlement.settlementAt

def checkAdjustmentTiming (unit : ReconciliationUnit) : ReconciliationCheck :=
  if unit.adjustments.length = 0 ∨ unit.settlements.length = 0 then
    pass "adjustment_timing" [] (some "no adjustments to relate")
  else
    let impossible := unit.impossibleAdjustments
    if impossible.length = 0 then pass "adjustment_timing" (unit.adjustments.map (·.id))
    else
      fail "adjustment_timing" .lifecycleInconsistent none
        (some (", ".intercalate
          (impossible.map fun a => Calendar.toISOString a.effectiveAt)))
        (some (toString impossible.length ++ " adjustment(s) fall outside every settlement window"))
        (impossible.map (·.id))

theorem checkAdjustmentTiming_failure (unit : ReconciliationUnit) :
    (checkAdjustmentTiming unit).failure ∈ [none, some .lifecycleInconsistent] := by
  unfold checkAdjustmentTiming
  dsimp only
  split
  · simp
  split <;> simp

theorem impossibleAdjustments_eq_nil_iff {unit : ReconciliationUnit} :
    unit.impossibleAdjustments = [] ↔ ∀ a ∈ unit.adjustments, ∃ s ∈ unit.settlements,
      adjustmentCanExplainSettlement a.effectiveAt s.settlementAt = true := by
  simp [ReconciliationUnit.impossibleAdjustments, List.filter_eq_nil_iff]

theorem checkAdjustmentTiming_passes_iff {unit : ReconciliationUnit} :
    (checkAdjustmentTiming unit).failure = none ↔
      (unit.settlements ≠ [] → ∀ a ∈ unit.adjustments, ∃ s ∈ unit.settlements,
        adjustmentCanExplainSettlement a.effectiveAt s.settlementAt = true) := by
  rw [← impossibleAdjustments_eq_nil_iff]
  unfold checkAdjustmentTiming
  simp only [List.length_eq_zero_iff]
  split
  · rename_i hnothing
    rcases hnothing with hnil | hnil
    · simp [hnil, ReconciliationUnit.impossibleAdjustments]
    · simp [hnil]
  · rename_i hsome
    rw [not_or] at hsome
    split
    · rename_i hnil
      simp [hnil]
    · rename_i hne
      simp [hne, hsome.2]

/-! ## The settled total -/

/-- What was settled for the payment; lines that do not add up count as nothing. -/
def settledTotalFor (unit : ReconciliationUnit) : Money :=
  match Money.sum (unit.lines.map (·.amount)) with
  | .ok total => total
  | .error _ => ⟨0, unit.payment.amount.currency⟩

/-- The minor units of the payment's lines added up, whatever their currencies. -/
def ReconciliationUnit.settledMinor (unit : ReconciliationUnit) : Int :=
  Money.total (unit.lines.map (·.amount))

theorem mem_lines_amount {unit : ReconciliationUnit} {m : Money}
    (h : m ∈ unit.lines.map (·.amount)) : m ∈ unit.comparedAmounts := by
  obtain ⟨l, hl, rfl⟩ := List.mem_map.1 h
  have hl' : l ∈ unit.settlementLines := (List.mem_filter.1 hl).1
  simp only [ReconciliationUnit.comparedAmounts, List.mem_append]
  exact .inl (.inr (List.mem_map.2 ⟨l, hl', rfl⟩))

/-- In one currency the settled total is the sum of the lines, and without lines zero. -/
theorem settledTotalFor_eq {unit : ReconciliationUnit} (h : unit.SingleCurrency) :
    settledTotalFor unit = ⟨unit.settledMinor, unit.payment.amount.currency⟩ := by
  unfold settledTotalFor ReconciliationUnit.settledMinor
  by_cases hnil : unit.lines.map (·.amount) = []
  · rw [hnil]
    rfl
  · rw [Money.sum_of_currency hnil fun m hm => h m (mem_lines_amount hm)]

end SettlementOps
