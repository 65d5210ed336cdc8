import SettlementOps.Verification.Gate
import Mathlib.Data.List.Sublists

/-!
# Refunds that account for a variance

A refund explains a settlement that is off by its amount.  The verifier asks whether there are
refunds and when they settled.

* `RefundsAccount` — some of the refunds add up to the variance, on either side of zero.
* `UnrelatedRefunds` — the refunds are in time and of no amount that matters.
* `refundNetting_accounted_iff` — a resolution by netting is accounted for exactly where the
  refunds are not unrelated.
-/

namespace SettlementOps

namespace ReconciliationUnit

/-- Some of the refunds were recorded and not netted, or netted and not expected: the variance is
their total up to its sign. -/
def RefundsAccount (unit : ReconciliationUnit) (records : Nat) : Prop :=
  ∃ delta, variance unit = some delta ∧ ∃ refunds : List RefundRecord,
    refunds.Sublist unit.refunds ∧
      (|delta + Money.total (refunds.map (·.amount))| ≤ roundingToleranceFor records ∨
        |delta - Money.total (refunds.map (·.amount))| ≤ roundingToleranceFor records)

/-- Refunds that are all inside the netting window, on a unit nothing else stands against, none
of whose totals comes near what is unexplained. -/
structure UnrelatedRefunds (unit : ReconciliationUnit) (records : Nat) : Prop where
  computable : unit.expectedNetInput.Sound
  adjustments : unit.AdjustmentsPossible
  present : unit.refunds ≠ []
  inWindow : ∀ r ∈ unit.refunds, r.late = false
  unrelated : ∀ refunds : List RefundRecord, refunds.Sublist unit.refunds →
    roundingToleranceFor records < |unit.unexplained + Money.total (refunds.map (·.amount))| ∧
      roundingToleranceFor records < |unit.unexplained - Money.total (refunds.map (·.amount))|

end ReconciliationUnit

/-- The rule of the cause: there are refunds, and none of them is late. -/
theorem refundNetting_condition_iff {unit : ReconciliationUnit} :
    unit.CauseCondition .refundNetting ↔
      unit.refunds ≠ [] ∧ ∀ r ∈ unit.refunds, r.late = false := by
  refine and_congr_right fun _ => forall₂_congr fun r _ => ?_
  rw [← Bool.not_eq_true, late_iff]
  constructor
  · rintro hdays ⟨settledAt, hsettled, hlate⟩
    exact absurd (hdays settledAt hsettled) (not_le.2 hlate)
  · intro hno settledAt hsettled
    exact not_lt.1 fun hlate => hno ⟨settledAt, hsettled, hlate⟩

/-- Where the expected net exists, refunds account for the unexplained amount or are unrelated
to it. -/
theorem refundsAccount_iff {unit : ReconciliationUnit} (h : unit.expectedNetInput.Sound)
    (records : Nat) :
    unit.RefundsAccount records ↔ ¬ ∀ refunds : List RefundRecord, refunds.Sublist unit.refunds →
      roundingToleranceFor records < |unit.unexplained + Money.total (refunds.map (·.amount))| ∧
        roundingToleranceFor records <
          |unit.unexplained - Money.total (refunds.map (·.amount))| := by
  simp only [ReconciliationUnit.RefundsAccount, variance_eq h, Option.some.injEq,
    exists_eq_left', not_forall, exists_prop, not_and_or, not_lt]

/-- **The support of netting is a matter of dates.**  Whatever resolves with this cause has
refunds that account for the variance, exactly on the units whose refunds are not unrelated to
it. -/
theorem refundNetting_accounted_iff (unit : ReconciliationUnit) (records : Nat) :
    (∀ proposal : Proposal, proposal.cause = .refundNetting →
        (verify proposal unit).effectiveDisposition = .resolve → unit.RefundsAccount records) ↔
      ¬ unit.UnrelatedRefunds records := by
  rw [forall_resolved_iff]
  constructor
  · intro h hno
    have hcondition := refundNetting_condition_iff.2 ⟨hno.present, hno.inWindow⟩
    have haccount := h hno.computable hno.adjustments hcondition
    exact (refundsAccount_iff hno.computable records).1 haccount hno.unrelated
  · intro hno hs ha hc
    obtain ⟨hpresent, hwindow⟩ := refundNetting_condition_iff.1 hc
    refine (refundsAccount_iff hs records).2 fun hunrelated => hno ?_
    exact ⟨hs, ha, hpresent, hwindow, hunrelated⟩

/-- The sample payment, settled 2,695.00 short, with a refund of 10.00 that settled a day after
it was made. -/
def unrelatedRefundUnit : ReconciliationUnit :=
  { sampleUnit with
    refunds := [{ sampleBase "refund-1" with
      refundId := "refund-1"
      paymentId := "pay-1"
      amount := ⟨1_000, "INR"⟩
      status := .processed
      createdAt := ⟨1_770_026_400_000⟩
      settledAt := some ⟨1_770_112_800_000⟩ }]
    settlementLines := sampleUnit.settlementLines.map fun l =>
      { l with amount := ⟨700_000, "INR"⟩ } }

/-- The 2,695.00 missing from `unrelatedRefundUnit` are resolved as the netting of 10.00. -/
theorem unrelatedRefundUnit_resolved :
    (verify ⟨.refundNetting, .resolve, ["refund-1"], "", none⟩
        unrelatedRefundUnit).effectiveDisposition = .resolve ∧
      variance unrelatedRefundUnit = some 269_500 ∧
      ∀ records, ¬ unrelatedRefundUnit.RefundsAccount records := by
  refine ⟨by decide, by decide, ?_⟩
  rintro records ⟨delta, hdelta, refunds, hsub, hnear⟩
  have hvariance : variance unrelatedRefundUnit = some 269_500 := by decide
  rw [hvariance, Option.some.injEq] at hdelta
  subst hdelta
  have htotal : ∀ l ∈ unrelatedRefundUnit.refunds.sublists,
      0 ≤ Money.total (l.map (·.amount)) ∧ Money.total (l.map (·.amount)) ≤ 1_000 := by decide
  have hle := htotal refunds (List.mem_sublists.2 hsub)
  have hcap : roundingToleranceFor records ≤ 100 := roundingToleranceFor_le_cap records
  rcases hnear with hnear | hnear
  · have := (abs_le.1 hnear).2
    omega
  · have := (abs_le.1 hnear).2
    omega

end SettlementOps
