import SettlementOps.Reconciliation.DayWindows
import SettlementOps.Verification.Verifier

/-!
# System B, the strong fixed workflow

The arm of the evaluation that has no model: it gathers all evidence and picks a cause by rules
written by hand, the most specific first.

* `SystemB.decide` — the cause the rules pick, if any.
* `decide_of_unallocatedMatch` — two explanations that fit leave it without a cause.
* `decide_ne_refundNetting` — one rule is out of reach.
-/

namespace SettlementOps

/-- An adjustment of no settlement that matches the variance: two explanations fit. -/
def SystemB.unallocated (varianceMinor : Int) (a : AdjustmentRecord) : Bool :=
  a.settlementId == none && magnitude a.amount.amountMinor == magnitude varianceMinor

/-- The hand-written cause selection. -/
def SystemB.decide (unit : ReconciliationUnit) (varianceMinor : Int) : Option CauseCode :=
  let reasons := (reconcileUnit unit).reasons
  -- an adjustment that could not have affected this settlement is a trap, not evidence
  if reasons.contains .lifecycleInconsistent then none
  else if unit.adjustments.any (SystemB.unallocated varianceMinor) then none
  else if unit.refunds.any (·.late) then none
  else if reasons.contains .refundOutsideNettingWindow then some .refundNetting
  -- small, bounded variance is rounding, and only inside the ceiling
  else if varianceMinor ≠ 0 ∧
      magnitude varianceMinor ≤ ROUNDING_TOLERANCE_ABSOLUTE_CAP_MINOR then some .roundingDrift
  else if reasons.contains .missingFeeRecord ∨ reasons.contains .unexpectedFeeAmount then
    some .mdrFee
  else if reasons.contains .splitSettlementUnresolved ∨
      reasons.contains .bankCreditTimingOutsideWindow ∨ reasons.contains .missingBankCredit ∨
      unit.settlements.length > 1 then some .utrSplit
  else if reasons.contains .settlementTimingOutsideWindow then some .timingLag
  else none

/-- An unallocated adjustment that matches the variance leaves the workflow without a cause. -/
theorem decide_of_unallocatedMatch {unit : ReconciliationUnit} {varianceMinor : Int}
    {a : AdjustmentRecord} (ha : a ∈ unit.adjustments)
    (h : SystemB.unallocated varianceMinor a = true) :
    SystemB.decide unit varianceMinor = none := by
  have hany : unit.adjustments.any (SystemB.unallocated varianceMinor) = true :=
    List.any_eq_true.2 ⟨a, ha, h⟩
  unfold SystemB.decide
  dsimp only
  rw [if_pos hany]
  exact ite_self none

/-- **Netting is never picked.**  Its rule asks for a reported refund, and a late refund, which
every report comes from, has ended the selection before. -/
theorem decide_ne_refundNetting (unit : ReconciliationUnit) (varianceMinor : Int) :
    SystemB.decide unit varianceMinor ≠ some .refundNetting := by
  have hlate : unit.refunds.any (·.late) = false →
      (reconcileUnit unit).reasons.contains .refundOutsideNettingWindow = false := by
    intro hnone
    rw [Bool.eq_false_iff, ne_eq, List.contains_iff_mem, refund_reported_iff]
    rintro ⟨r, hr, hlate⟩
    exact absurd hlate (List.any_eq_false.1 hnone r hr)
  unfold SystemB.decide
  dsimp only
  split
  · exact (Option.some_ne_none _).symm
  split
  · exact (Option.some_ne_none _).symm
  split
  · exact (Option.some_ne_none _).symm
  rename_i hnone
  rw [if_neg (by rw [hlate (Bool.eq_false_iff.2 hnone)]; exact Bool.false_ne_true)]
  split
  · simp
  split
  · simp
  split
  · simp
  split <;> simp

end SettlementOps
