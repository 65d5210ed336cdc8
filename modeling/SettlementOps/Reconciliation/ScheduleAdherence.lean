import SettlementOps.Reconciliation.Matcher

/-!
# A reconciled unit against the published schedule

The fee records are compared with the schedule; the tax records are only taken off.

* `AdheresToSchedule` — what was settled, and the recorded tax, are what the schedule asks for
  within the rounding tolerances of the records.
* `taxAllowance` — how far the recorded tax may depart from the scheduled one.
* `reconciled_adheres_iff` — a reconciled unit adheres exactly when its tax stays within the
  allowance.
-/

namespace SettlementOps

namespace ReconciliationUnit

/-- The rounding tolerances of the fee records, the tax records and the lines together. -/
def scheduleTolerance (unit : ReconciliationUnit) : Int :=
  roundingToleranceFor unit.fees.length + roundingToleranceFor unit.taxes.length +
    roundingToleranceFor unit.lines.length

/-- The net amount if fee and tax were the scheduled ones. -/
def scheduledNet (unit : ReconciliationUnit) (scheduled : ScheduledFee) : Int :=
  unit.payment.amount.amountMinor - scheduled.fee.amountMinor - scheduled.tax.amountMinor -
    Money.total (unit.refunds.map (·.amount)) + Money.total (unit.adjustments.map (·.amount))

def taxDeparture (unit : ReconciliationUnit) (scheduled : ScheduledFee) : Int :=
  Money.total (unit.taxes.map (·.amount)) - scheduled.tax.amountMinor

/-- What is amiss apart from the tax: the amount missing from the lines if the fee is the
scheduled one and the tax the recorded one. -/
def shortfall (unit : ReconciliationUnit) (scheduled : ScheduledFee) : Int :=
  unit.scheduledNet scheduled - unit.taxDeparture scheduled - unit.settledMinor

/-- The settled total and the recorded tax are within tolerance of what the schedule asks for. -/
def AdheresToSchedule (unit : ReconciliationUnit) : Prop :=
  ∃ time scheduled, unit.payment.scheduleTime = some time ∧
    scheduledFeeFor unit.payment.amount unit.payment.paymentMethod time = some scheduled ∧
    |(settledTotalFor unit).amountMinor - unit.scheduledNet scheduled| ≤ unit.scheduleTolerance ∧
    |unit.taxDeparture scheduled| ≤ unit.scheduleTolerance

/-- The tolerance of the records, less what the shortfall takes of it when the tax departs to
its side. -/
def taxAllowance (unit : ReconciliationUnit) (scheduled : ScheduledFee) : Int :=
  unit.scheduleTolerance -
    if 0 < unit.taxDeparture scheduled * unit.shortfall scheduled then |unit.shortfall scheduled|
    else 0

end ReconciliationUnit

/-! ## What the checks leave open -/

section Reconciled

variable {unit : ReconciliationUnit} (h : (reconcileUnit unit).outcome = .reconciled)
include h

/-- The fee records of a reconciled unit agree with the schedule in force. -/
theorem fee_of_reconciled :
    ∃ time scheduled, unit.payment.scheduleTime = some time ∧
      scheduledFeeFor unit.payment.amount unit.payment.paymentMethod time = some scheduled ∧
      |Money.total (unit.fees.map (·.amount)) - scheduled.fee.amountMinor| ≤
        roundingToleranceFor unit.fees.length := by
  have hpass := failure_eq_none_of_reconciled h (c := checkFeeAgainstSchedule unit)
    (by simp [checksOf])
  have hforce : ∃ time scheduled, unit.payment.scheduleTime = some time ∧
      scheduledFeeFor unit.payment.amount unit.payment.paymentMethod time = some scheduled := by
    by_contra hno
    refine checkFeeAgainstSchedule_of_no_schedule (fun time htime => ?_) hpass
    by_contra hsome
    obtain ⟨scheduled, hscheduled⟩ := Option.ne_none_iff_exists'.1 hsome
    exact hno ⟨time, scheduled, htime, hscheduled⟩
  obtain ⟨time, scheduled, htime, hscheduled⟩ := hforce
  refine ⟨time, scheduled, htime, hscheduled, ?_⟩
  rw [checkFeeAgainstSchedule_of_schedule (singleCurrency_of_reconciled h) htime
    hscheduled] at hpass
  have hrecords : roundingToleranceFor (max 1 unit.fees.length) =
      roundingToleranceFor unit.fees.length := by
    rw [roundingToleranceFor_eq_min, roundingToleranceFor_eq_min]
    omega
  split at hpass
  · cases hpass
  split at hpass
  · rename_i hwithin
    rw [← hrecords]
    exact withinRoundingTolerance_iff.1 hwithin
  · cases hpass

/-- Apart from the tax, a reconciled unit is within the tolerances of its fees and lines. -/
theorem shortfall_of_reconciled {time : Date} {scheduled : ScheduledFee}
    (htime : unit.payment.scheduleTime = some time)
    (hs : scheduledFeeFor unit.payment.amount unit.payment.paymentMethod time =
      some scheduled) :
    |unit.shortfall scheduled| ≤
      roundingToleranceFor unit.fees.length + roundingToleranceFor unit.lines.length := by
  obtain ⟨time', scheduled', htime', hs', hfee⟩ := fee_of_reconciled h
  rw [htime, Option.some.injEq] at htime'
  subst htime'
  rw [hs, Option.some.injEq] at hs'
  subst hs'
  have hsplit : unit.shortfall scheduled =
      (Money.total (unit.fees.map (·.amount)) - scheduled.fee.amountMinor) +
        unit.unexplained := by
    simp only [ReconciliationUnit.shortfall, ReconciliationUnit.scheduledNet,
      ReconciliationUnit.taxDeparture, ReconciliationUnit.unexplained, ExpectedNetInput.net,
      ReconciliationUnit.expectedNetInput]
    omega
  rw [hsplit]
  exact (abs_add_le _ _).trans (add_le_add hfee (unexplained_of_reconciled h))

end Reconciled

/-- A sum is within a bound exactly when the one part is within what the other leaves of it,
which is all of it when they pull apart. -/
theorem abs_add_le_iff {d x t : Int} (hx : |x| ≤ t) :
    (|d + x| ≤ t ∧ |d| ≤ t) ↔ |d| ≤ t - if 0 < d * x then |x| else 0 := by
  have hside : 0 < d * x ↔ 0 < d ∧ 0 < x ∨ d < 0 ∧ x < 0 := mul_pos_iff
  split
  · rename_i hsame
    rw [hside] at hsame
    rcases abs_cases d with ⟨hd, _⟩ | ⟨hd, _⟩ <;> rcases abs_cases x with ⟨hx', _⟩ | ⟨hx', _⟩ <;>
      rw [hx'] at hx ⊢ <;> rw [hd] <;> simp only [abs_le] <;> omega
  · rename_i hapart
    rw [hside] at hapart
    rcases abs_cases d with ⟨hd, _⟩ | ⟨hd, _⟩ <;> rcases abs_cases x with ⟨hx', _⟩ | ⟨hx', _⟩ <;>
      rw [hx'] at hx <;> rw [hd] <;> simp only [abs_le] <;> omega

/-- **Adherence to the schedule.**  A reconciled unit settles what the schedule asks for exactly
when its recorded tax departs from the scheduled one by no more than the tolerances allow: no
check compares the two. -/
theorem reconciled_adheres_iff {unit : ReconciliationUnit}
    (h : (reconcileUnit unit).outcome = .reconciled) :
    unit.AdheresToSchedule ↔
      ∀ time scheduled, unit.payment.scheduleTime = some time →
        scheduledFeeFor unit.payment.amount unit.payment.paymentMethod time = some scheduled →
        |unit.taxDeparture scheduled| ≤ unit.taxAllowance scheduled := by
  obtain ⟨time, scheduled, htime, hscheduled, -⟩ := fee_of_reconciled h
  have hshort := shortfall_of_reconciled h htime hscheduled
  have htolerance : |unit.shortfall scheduled| ≤ unit.scheduleTolerance := by
    have hpos : 0 ≤ roundingToleranceFor unit.taxes.length := by
      rw [roundingToleranceFor_eq_min]
      omega
    unfold ReconciliationUnit.scheduleTolerance
    omega
  have hsettled : (settledTotalFor unit).amountMinor - unit.scheduledNet scheduled =
      -(unit.taxDeparture scheduled + unit.shortfall scheduled) := by
    rw [settledTotalFor_eq (singleCurrency_of_reconciled h), ReconciliationUnit.shortfall]
    dsimp only
    omega
  have hboth : (|(settledTotalFor unit).amountMinor - unit.scheduledNet scheduled| ≤
        unit.scheduleTolerance ∧ |unit.taxDeparture scheduled| ≤ unit.scheduleTolerance) ↔
      |unit.taxDeparture scheduled| ≤ unit.taxAllowance scheduled := by
    rw [hsettled, abs_neg, abs_add_le_iff htolerance, ReconciliationUnit.taxAllowance]
  constructor
  · rintro ⟨time', scheduled', htime', hscheduled', hsettles, htax⟩ _ _ ht hs
    rw [htime, Option.some.injEq] at htime' ht
    subst htime'
    subst ht
    rw [hscheduled, Option.some.injEq] at hscheduled' hs
    subst hscheduled'
    subst hs
    exact hboth.1 ⟨hsettles, htax⟩
  · intro hallowed
    obtain ⟨hsettles, htax⟩ := hboth.2 (hallowed time scheduled htime hscheduled)
    exact ⟨time, scheduled, htime, hscheduled, hsettles, htax⟩

/-- The recorded tax of the sample unit is the scheduled one. -/
theorem reconciled_adheres_sampleUnit :
    (reconcileUnit sampleUnit).outcome = .reconciled ∧ sampleUnit.AdheresToSchedule := by
  have h : (reconcileUnit sampleUnit).outcome = .reconciled := by decide
  refine ⟨h, (reconciled_adheres_iff h).2 ?_⟩
  intro time scheduled htime hscheduled
  have htime' : sampleUnit.payment.scheduleTime = some ⟨1_770_026_400_000⟩ := rfl
  rw [htime', Option.some.injEq] at htime
  subst htime
  revert scheduled
  decide

/-- The sample payment with ten times its tax, recorded and deducted. -/
def overtaxedUnit : ReconciliationUnit :=
  { sampleUnit with
    taxes := sampleUnit.taxes.map fun t => { t with amount := ⟨45_000, "INR"⟩ }
    settlements := sampleUnit.settlements.map fun s => { s with netAmount := ⟨930_000, "INR"⟩ }
    settlementLines := sampleUnit.settlementLines.map fun l =>
      { l with amount := ⟨930_000, "INR"⟩ }
    bankCredits := sampleUnit.bankCredits.map fun b => { b with amount := ⟨930_000, "INR"⟩ } }

/-- `overtaxedUnit` reconciles: the tax is deducted as recorded, and recorded ten times too
high. -/
theorem overtaxedUnit_reconciled :
    (reconcileUnit overtaxedUnit).outcome = .reconciled ∧ ¬ overtaxedUnit.AdheresToSchedule := by
  refine ⟨by decide, ?_⟩
  rintro ⟨time, scheduled, htime, hscheduled, -, htax⟩
  have htime' : overtaxedUnit.payment.scheduleTime = some ⟨1_770_026_400_000⟩ := rfl
  rw [htime', Option.some.injEq] at htime
  subst htime
  have hdeparture : ∀ s, scheduledFeeFor overtaxedUnit.payment.amount
      overtaxedUnit.payment.paymentMethod ⟨1_770_026_400_000⟩ = some s →
      ¬ |overtaxedUnit.taxDeparture s| ≤ overtaxedUnit.scheduleTolerance := by decide
  exact hdeparture scheduled hscheduled htax

end SettlementOps
