import SettlementOps.Reconciliation.Matcher

/-!
# The statuses of refunds and settlements

A refund or a settlement that failed keeps its record.  The baseline reads amounts, instants and
identifiers, and never a status of either.

* `withStatuses` — the unit with other statuses; `reconcile_withStatuses` — with the same
  verdict.
* `withoutFailedRefunds` — the unit without its failed refunds, with the discrepancy
  `discrepancy_withoutFailedRefunds`.
* `statuses_disregarded` — both.
-/

namespace SettlementOps

namespace ReconciliationUnit

/-- The unit with other statuses of its refunds and settlements. -/
def withStatuses (unit : ReconciliationUnit) (refundStatus : RefundRecord → RefundStatus)
    (settlementStatus : SettlementRecord → SettlementStatus) : ReconciliationUnit :=
  { unit with
    refunds := unit.refunds.map fun r => { r with status := refundStatus r }
    settlements := unit.settlements.map fun s => { s with status := settlementStatus s } }

def failedRefunds (unit : ReconciliationUnit) : List RefundRecord :=
  unit.refunds.filter (fun r => r.status == .failed)

def withoutFailedRefunds (unit : ReconciliationUnit) : ReconciliationUnit :=
  { unit with refunds := unit.refunds.filter (fun r => r.status != .failed) }

end ReconciliationUnit

/-! ## One verdict for all statuses -/

section Statuses

variable (unit : ReconciliationUnit) (f : RefundRecord → RefundStatus)
  (g : SettlementRecord → SettlementStatus)

theorem expectedNetInput_withStatuses :
    (unit.withStatuses f g).expectedNetInput = unit.expectedNetInput := by
  simp [ReconciliationUnit.expectedNetInput, ReconciliationUnit.withStatuses,
    Function.comp_def]

theorem comparedAmounts_withStatuses :
    (unit.withStatuses f g).comparedAmounts = unit.comparedAmounts := by
  simp [ReconciliationUnit.comparedAmounts, ReconciliationUnit.withStatuses, Function.comp_def]

theorem checkLifecycleConsistency_withStatuses :
    checkLifecycleConsistency (unit.withStatuses f g) = checkLifecycleConsistency unit := by
  simp only [checkLifecycleConsistency, ReconciliationUnit.withStatuses, List.map_map,
    Function.comp_def]

theorem checkSettlementTiming_withStatuses :
    checkSettlementTiming (unit.withStatuses f g) = checkSettlementTiming unit := by
  simp only [checkSettlementTiming, ReconciliationUnit.withStatuses, List.length_map,
    List.filter_map, List.map_map, Function.comp_def]

theorem checkRefundNettingWindow_withStatuses :
    checkRefundNettingWindow (unit.withStatuses f g) = checkRefundNettingWindow unit := by
  simp only [checkRefundNettingWindow, ReconciliationUnit.withStatuses, List.length_map,
    List.filter_map, List.map_map, Function.comp_def, RefundRecord.late]
  rfl

theorem checkAdjustmentTiming_withStatuses :
    checkAdjustmentTiming (unit.withStatuses f g) = checkAdjustmentTiming unit := by
  simp only [checkAdjustmentTiming, ReconciliationUnit.impossibleAdjustments,
    ReconciliationUnit.withStatuses, List.length_map, List.all_map, Function.comp_def]
  rfl

theorem matchCredits_withStatuses (settlements : List SettlementRecord) :
    ∀ credited, matchCredits (unit.withStatuses f g)
        (settlements.map fun s => { s with status := g s }) credited =
      matchCredits unit settlements credited := by
  induction settlements with
  | nil =>
      intro credited
      rfl
  | cons s rest ih =>
      intro credited
      rw [List.map_cons, matchCredits, matchCredits]
      simp only [ih]
      rfl

theorem checkBankCredit_withStatuses :
    checkBankCredit (unit.withStatuses f g) = checkBankCredit unit := by
  have hutr : (unit.withStatuses f g).utrSettlements =
      unit.utrSettlements.map fun s => { s with status := g s } := by
    simp only [ReconciliationUnit.utrSettlements, ReconciliationUnit.withStatuses,
      List.filter_map, Function.comp_def]
  unfold checkBankCredit
  simp only [hutr, List.length_map, matchCredits_withStatuses]

/-- **The verdict does not depend on a status.** -/
theorem reconcile_withStatuses :
    reconcileUnit (unit.withStatuses f g) = reconcileUnit unit := by
  have hbreakdown : breakdownFor (unit.withStatuses f g) = breakdownFor unit := by
    rw [breakdownFor, expectedNetInput_withStatuses, breakdownFor]
  have hcurrency : checkCurrencyConsistency (unit.withStatuses f g) =
      checkCurrencyConsistency unit := by
    rw [checkCurrencyConsistency, comparedAmounts_withStatuses]
    rfl
  have hchecks : checksOf (unit.withStatuses f g) = checksOf unit := by
    rw [checksOf, hbreakdown, hcurrency, checkLifecycleConsistency_withStatuses,
      checkSettlementTiming_withStatuses, checkRefundNettingWindow_withStatuses,
      checkAdjustmentTiming_withStatuses, checkBankCredit_withStatuses]
    rfl
  unfold reconcileUnit
  rw [hchecks, hbreakdown]
  rfl

end Statuses

/-! ## Failed refunds are deducted -/

theorem total_filter_add {α : Type} (amount : α → Money) (p : α → Bool) (l : List α) :
    Money.total ((l.filter (fun x => !p x)).map amount) +
      Money.total ((l.filter p).map amount) = Money.total (l.map amount) := by
  induction l with
  | nil => rfl
  | cons x l ih =>
      cases hx : p x with
      | true =>
          simp only [List.filter_cons, hx, Bool.not_true, Bool.false_eq_true, if_false, if_true,
            List.map_cons, Money.total_cons]
          omega
      | false =>
          simp only [List.filter_cons, hx, Bool.not_false, Bool.false_eq_true, if_false, if_true,
            List.map_cons, Money.total_cons]
          omega

theorem unexplained_withoutFailedRefunds (unit : ReconciliationUnit) :
    unit.withoutFailedRefunds.unexplained =
      unit.unexplained + Money.total (unit.failedRefunds.map (·.amount)) := by
  have htotal := total_filter_add (·.amount) (fun r => r.status == .failed) unit.refunds
  have hsettled : unit.withoutFailedRefunds.settledMinor = unit.settledMinor := rfl
  have hnet : unit.withoutFailedRefunds.expectedNetInput.net = unit.expectedNetInput.net +
      Money.total (unit.failedRefunds.map (·.amount)) := by
    simp only [ExpectedNetInput.net, ReconciliationUnit.expectedNetInput,
      ReconciliationUnit.withoutFailedRefunds, ReconciliationUnit.failedRefunds, bne]
    omega
  rw [ReconciliationUnit.unexplained, ReconciliationUnit.unexplained, hsettled, hnet]
  omega

theorem singleCurrency_withoutFailedRefunds {unit : ReconciliationUnit}
    (h : unit.SingleCurrency) : unit.withoutFailedRefunds.SingleCurrency := by
  intro m hm
  refine h m ?_
  simp only [ReconciliationUnit.comparedAmounts, ReconciliationUnit.withoutFailedRefunds,
    List.mem_append, List.mem_map, List.mem_filter] at hm ⊢
  rcases hm with ((((hm | hm) | ⟨r, hr, hamount⟩) | hm) | hm) | hm
  · exact .inl (.inl (.inl (.inl (.inl hm))))
  · exact .inl (.inl (.inl (.inl (.inr hm))))
  · exact .inl (.inl (.inl (.inr ⟨r, hr.1, hamount⟩)))
  · exact .inl (.inl (.inr hm))
  · exact .inl (.inr hm)
  · exact .inr hm

/-- **A failed refund is deducted like any other.**  Without the failed refunds the discrepancy
is larger by their total. -/
theorem discrepancy_withoutFailedRefunds {unit : ReconciliationUnit}
    (hc : unit.SingleCurrency) (hs : unit.expectedNetInput.Sound)
    (hs' : unit.withoutFailedRefunds.expectedNetInput.Sound) :
    (reconcileUnit unit.withoutFailedRefunds).discrepancy.amountMinor =
      (reconcileUnit unit).discrepancy.amountMinor +
        Money.total (unit.failedRefunds.map (·.amount)) := by
  rw [discrepancy_eq_unexplained hs' (singleCurrency_withoutFailedRefunds hc),
    discrepancy_eq_unexplained hs hc]
  exact unexplained_withoutFailedRefunds unit

/-! ## The two together -/

/-- **Statuses play no part in a verdict.**  It is the same whatever the statuses of refunds and
settlements; so failed refunds are deducted, and the lines and the bank leg of failed settlements
counted, as those of any others. -/
theorem statuses_disregarded (unit : ReconciliationUnit) :
    (∀ refundStatus settlementStatus,
        reconcileUnit (unit.withStatuses refundStatus settlementStatus) = reconcileUnit unit ∧
          settledTotalFor (unit.withStatuses refundStatus settlementStatus) =
            settledTotalFor unit) ∧
      (unit.SingleCurrency → unit.expectedNetInput.Sound →
        unit.withoutFailedRefunds.expectedNetInput.Sound →
        (reconcileUnit unit.withoutFailedRefunds).discrepancy.amountMinor =
          (reconcileUnit unit).discrepancy.amountMinor +
            Money.total (unit.failedRefunds.map (·.amount))) :=
  ⟨fun f g => ⟨reconcile_withStatuses unit f g, rfl⟩, discrepancy_withoutFailedRefunds⟩

theorem statuses_disregarded_sampleUnit :
    reconcileUnit (sampleUnit.withStatuses (·.status) (fun _ => .failed)) =
      reconcileUnit sampleUnit :=
  ((statuses_disregarded sampleUnit).1 _ _).1

/-- The sample payment with a refund of 10.00 that failed. -/
def failedRefundUnit : ReconciliationUnit :=
  { sampleUnit with
    refunds := [{ sampleBase "refund-1" with
      refundId := "refund-1"
      paymentId := "pay-1"
      amount := ⟨1_000, "INR"⟩
      status := .failed
      createdAt := ⟨1_770_026_400_000⟩
      settledAt := none }] }

/-- The sample payment, whose settlement failed. -/
def failedSettlementUnit : ReconciliationUnit :=
  sampleUnit.withStatuses (·.status) (fun _ => .failed)

/-- Without its failed refund `failedRefundUnit` reconciles, with it there is a mismatch of
10.00; and a payment reconciles on the line and the credit of a settlement that failed. -/
theorem failedRecords_counted :
    ((reconcileUnit failedRefundUnit.withoutFailedRefunds).outcome = .reconciled ∧
        (reconcileUnit failedRefundUnit).outcome = .exception ∧
        (reconcileUnit failedRefundUnit).reasons = [.netAmountMismatch] ∧
        (reconcileUnit failedRefundUnit).discrepancy = ⟨-1_000, "INR"⟩) ∧
      (reconcileUnit failedSettlementUnit).outcome = .reconciled ∧
        (∀ s ∈ failedSettlementUnit.settlements, s.status = .failed) ∧
        settledTotalFor failedSettlementUnit = ⟨970_500, "INR"⟩ :=
  ⟨⟨by decide, by decide, by decide, by decide⟩, by decide, by decide, by decide⟩

end SettlementOps
