import SettlementOps.Verification.Gate

/-!
# Lateness that explains a case

An arrival that is late, and not too late, explains why a case is open.  The verifier asks
whether the amounts agree.

* `LateSettlement`, `LateCredit` — what arrived later than the schedule has it.
* `BoundedLag` — the amounts agree, something was late, and nothing was late beyond the bound.
* `timingLag_bounded_iff` — a resolution by lateness has a bounded lag exactly where the unit
  has no unbounded or missing one.
-/

namespace SettlementOps

open Calendar

/-- A settlement after the date the capture is expected to settle on. -/
def LateSettlement (capturedAt : Date) (s : SettlementRecord) : Prop :=
  ∃ expected ∈ expectedSettlementDate capturedAt, expected.getTime < s.settlementAt.getTime

/-- A credit of the settlement's UTR beyond the lag expected of a bank credit. -/
def LateCredit (s : SettlementRecord) (b : BankCreditRecord) : Prop :=
  some b.utr = s.utr ∧
    s.settlementAt.getTime + BANK_CREDIT_EXPECTED_LAG_HOURS * msPerHour < b.creditedAt.getTime

namespace ReconciliationUnit

/-- Some settlement or bank credit of the unit arrived late. -/
def SomethingLate (unit : ReconciliationUnit) : Prop :=
  (∃ capturedAt, unit.payment.capturedAt = some capturedAt ∧
      ∃ s ∈ unit.settlements, LateSettlement capturedAt s) ∨
    ∃ s ∈ unit.settlements, ∃ b ∈ unit.bankCredits, LateCredit s b

/-- No late arrival is further off than lateness may explain. -/
def NothingTooLate (unit : ReconciliationUnit) : Prop :=
  (∀ capturedAt, unit.payment.capturedAt = some capturedAt → ∀ s ∈ unit.settlements,
      ∀ expected ∈ expectedSettlementDate capturedAt,
        expected.getTime < s.settlementAt.getTime →
          withinBankCreditLatenessTolerance expected s.settlementAt) ∧
    ∀ s ∈ unit.settlements, ∀ b ∈ unit.bankCredits, LateCredit s b →
      withinBankCreditLatenessTolerance s.settlementAt b.creditedAt

/-- What a resolution by lateness should rest on. -/
structure BoundedLag (unit : ReconciliationUnit) : Prop where
  conserved : ∃ delta, variance unit = some delta ∧
    |delta| ≤ roundingToleranceFor (max 1 unit.settlementLines.length)
  late : unit.SomethingLate
  bounded : unit.NothingTooLate

/-- A captured and settled unit whose amounts agree and nothing else stands against, with no
arrival late or with one later than the bound. -/
structure UnexplainedLag (unit : ReconciliationUnit) : Prop where
  computable : unit.expectedNetInput.Sound
  adjustments : unit.AdjustmentsPossible
  conserved : |unit.unexplained| ≤ roundingToleranceFor (max 1 unit.settlementLines.length)
  captured : unit.payment.capturedAt ≠ none
  settled : unit.settlements ≠ []
  arrivals : ¬ unit.SomethingLate ∨ ¬ unit.NothingTooLate

end ReconciliationUnit

/-- **The support of lateness never looks at a date.**  Whatever resolves with this cause has a
bounded lag, exactly on the units without an unexplained one. -/
theorem timingLag_bounded_iff (unit : ReconciliationUnit) :
    (∀ proposal : Proposal, proposal.cause = .timingLag →
        (verify proposal unit).effectiveDisposition = .resolve → unit.BoundedLag) ↔
      ¬ unit.UnexplainedLag := by
  rw [forall_resolved_iff]
  constructor
  · intro h hno
    have hcondition : unit.CauseCondition .timingLag :=
      ⟨hno.conserved, hno.captured, hno.settled⟩
    have hlag := h hno.computable hno.adjustments hcondition
    rcases hno.arrivals with honTime | htooLate
    · exact honTime hlag.late
    · exact htooLate hlag.bounded
  · rintro hno hs ha ⟨hconserved, hcaptured, hsettled⟩
    have harrivals : unit.SomethingLate ∧ unit.NothingTooLate := by
      by_contra hneither
      rw [not_and_or] at hneither
      exact hno ⟨hs, ha, hconserved, hcaptured, hsettled, hneither⟩
    exact ⟨⟨unit.unexplained, variance_eq hs, hconserved⟩, harrivals.1, harrivals.2⟩

/-- Nothing is late about the sample unit, and it is resolved as late. -/
theorem punctualUnit_resolved :
    (verify ⟨.timingLag, .resolve, ["pay-1"], "", none⟩ sampleUnit).effectiveDisposition =
        .resolve ∧ ¬ sampleUnit.BoundedLag := by
  refine ⟨by decide, fun hlag => ?_⟩
  rcases hlag.late with ⟨capturedAt, hcaptured, s, hs, hlate⟩ | ⟨s, hs, b, hb, -, hlate⟩
  · have hat : capturedAt = ⟨1_770_026_400_000⟩ := (Option.some.inj hcaptured).symm
    subst hat
    revert s
    unfold LateSettlement
    decide
  · revert s b
    decide

end SettlementOps
