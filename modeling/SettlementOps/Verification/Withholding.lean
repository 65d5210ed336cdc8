import SettlementOps.Verification.Gate

/-!
# The sign of an unrecorded withholding

A settlement that is short by the fee and the tax nobody recorded is explained by them.  The
verifier compares the two sizes only.

* `ShortByWithholding` — the variance is the unrecorded withholding, as signed amounts.
* `MirrorsWithholding` — the two agree in size and lie on opposite sides of zero.
* `mdrFee_signed_iff` — a fee that was not recorded explains a shortfall exactly where no
  mirrored one passes for it.
-/

namespace SettlementOps

namespace ReconciliationUnit

/-- The variance is what the schedule in force asks to withhold and no record shows. -/
def ShortByWithholding (unit : ReconciliationUnit) : Prop :=
  ∃ time scheduled delta, unit.payment.scheduleTime = some time ∧
    scheduledFeeFor unit.payment.amount unit.payment.paymentMethod time = some scheduled ∧
    variance unit = some delta ∧
    |delta - unrecordedWithholding unit scheduled| ≤ roundingToleranceFor 2

/-- The variance is that amount with the other sign: a surplus of what was not recorded, or a
shortfall of what was recorded beyond the schedule. -/
def MirrorsWithholding (unit : ReconciliationUnit) : Prop :=
  ∃ time scheduled delta, unit.payment.scheduleTime = some time ∧
    scheduledFeeFor unit.payment.amount unit.payment.paymentMethod time = some scheduled ∧
    variance unit = some delta ∧
    (delta < 0 ∧ 0 < unrecordedWithholding unit scheduled ∨
      0 < delta ∧ unrecordedWithholding unit scheduled < 0) ∧
    |delta + unrecordedWithholding unit scheduled| ≤ roundingToleranceFor 2 ∧
    roundingToleranceFor 2 < |delta| + |unrecordedWithholding unit scheduled|

end ReconciliationUnit

/-- Sizes that agree come from amounts that agree, or from amounts on opposite sides. -/
theorem abs_sub_abs_le_iff {d u t : Int} :
    |(|d| - |u|)| ≤ t ↔ |d - u| ≤ t ∨ ((d < 0 ∧ 0 < u ∨ 0 < d ∧ u < 0) ∧ |d + u| ≤ t) := by
  rcases abs_cases d with ⟨hd, _⟩ | ⟨hd, _⟩ <;> rcases abs_cases u with ⟨hu, _⟩ | ⟨hu, _⟩ <;>
    rw [hd, hu] <;> simp only [abs_le] <;> omega

/-- Amounts on opposite sides are as far apart as they are large. -/
theorem abs_sub_of_opposite {d u : Int} (h : d < 0 ∧ 0 < u ∨ 0 < d ∧ u < 0) :
    |d - u| = |d| + |u| := by
  rcases h with ⟨hd, hu⟩ | ⟨hd, hu⟩
  · rw [abs_of_neg hd, abs_of_pos hu, abs_of_neg (by omega)]
    omega
  · rw [abs_of_pos hd, abs_of_neg hu, abs_of_pos (by omega)]
    omega

/-- What the rule of the cause lets through: the signed amounts agree, or mirror each other. -/
theorem mdrFee_condition_iff {unit : ReconciliationUnit} (h : unit.expectedNetInput.Sound) :
    unit.CauseCondition .mdrFee ↔ unit.ShortByWithholding ∨ unit.MirrorsWithholding := by
  simp only [ReconciliationUnit.CauseCondition, ← unrecordedWithholding_eq]
  constructor
  · rintro ⟨time, scheduled, htime, hscheduled, hsize⟩
    rcases abs_sub_abs_le_iff.1 hsize with hsigned | ⟨hopposite, hmirror⟩
    · exact .inl ⟨time, scheduled, _, htime, hscheduled, variance_eq h, hsigned⟩
    · rcases le_or_gt (|unit.unexplained| + |unrecordedWithholding unit scheduled|)
        (roundingToleranceFor 2) with hsmall | hlarge
      · refine .inl ⟨time, scheduled, _, htime, hscheduled, variance_eq h, ?_⟩
        rw [abs_sub_of_opposite hopposite]
        exact hsmall
      · exact .inr ⟨time, scheduled, _, htime, hscheduled, variance_eq h, hopposite, hmirror,
          hlarge⟩
  · rintro (⟨time, scheduled, delta, htime, hscheduled, hdelta, hsigned⟩ |
      ⟨time, scheduled, delta, htime, hscheduled, hdelta, hopposite, hmirror, -⟩)
    · rw [variance_eq h, Option.some.injEq] at hdelta
      subst hdelta
      exact ⟨time, scheduled, htime, hscheduled, abs_sub_abs_le_iff.2 (.inl hsigned)⟩
    · rw [variance_eq h, Option.some.injEq] at hdelta
      subst hdelta
      exact ⟨time, scheduled, htime, hscheduled,
        abs_sub_abs_le_iff.2 (.inr ⟨hopposite, hmirror⟩)⟩

/-- The two readings of the variance exclude each other. -/
theorem not_short_of_mirrors {unit : ReconciliationUnit} (h : unit.MirrorsWithholding) :
    ¬ unit.ShortByWithholding := by
  rintro ⟨time, scheduled, delta, htime, hscheduled, hdelta, hsigned⟩
  obtain ⟨time', scheduled', delta', htime', hscheduled', hdelta', hopposite, -, hlarge⟩ := h
  rw [htime, Option.some.injEq] at htime'
  subst htime'
  rw [hscheduled, Option.some.injEq] at hscheduled'
  subst hscheduled'
  rw [hdelta, Option.some.injEq] at hdelta'
  subst hdelta'
  rw [abs_sub_of_opposite hopposite] at hsigned
  exact absurd hsigned (not_le.2 hlarge)

/-- **The support of an unrecorded fee is unsigned.**  Whatever resolves with this cause is short
by what was not recorded, exactly on the units whose variance does not mirror the unrecorded
withholding and on those an impossible adjustment keeps from resolving. -/
theorem mdrFee_signed_iff (unit : ReconciliationUnit) :
    (∀ proposal : Proposal, proposal.cause = .mdrFee →
        (verify proposal unit).effectiveDisposition = .resolve → unit.ShortByWithholding) ↔
      ¬ (unit.AdjustmentsPossible ∧ unit.MirrorsWithholding) := by
  rw [forall_resolved_iff]
  constructor
  · rintro hall ⟨ha, hmirrors⟩
    have hs : unit.expectedNetInput.Sound := by
      obtain ⟨_, _, delta, -, -, hdelta, -⟩ := hmirrors
      by_contra hno
      rw [variance_eq_none hno] at hdelta
      cases hdelta
    have hcondition := (mdrFee_condition_iff hs).2 (.inr hmirrors)
    exact not_short_of_mirrors hmirrors (hall hs ha hcondition)
  · intro hno hs ha hcondition
    rcases (mdrFee_condition_iff hs).1 hcondition with hshort | hmirrors
    · exact hshort
    · exact absurd ⟨ha, hmirrors⟩ hno

/-- The sample payment without its fee and tax records, settled with 29,500 more than was
paid. -/
def surplusUnit : ReconciliationUnit :=
  { sampleUnit with
    fees := []
    taxes := []
    settlementLines := sampleUnit.settlementLines.map fun l =>
      { l with amount := ⟨1_029_500, "INR"⟩ } }

/-- The surplus of `surplusUnit` is resolved as the fee and the tax nobody recorded. -/
theorem surplusUnit_resolved :
    (verify ⟨.mdrFee, .resolve, ["pay-1"], "", none⟩ surplusUnit).effectiveDisposition =
        .resolve ∧
      variance surplusUnit = some (-29_500) ∧ ¬ surplusUnit.ShortByWithholding := by
  refine ⟨by decide, by decide, ?_⟩
  rintro ⟨time, scheduled, delta, htime, hscheduled, hdelta, hsigned⟩
  have htime' : surplusUnit.payment.scheduleTime = some ⟨1_770_026_400_000⟩ := rfl
  rw [htime', Option.some.injEq] at htime
  subst htime
  have hvariance : variance surplusUnit = some (-29_500) := by decide
  rw [hvariance, Option.some.injEq] at hdelta
  subst hdelta
  have hwithheld : ∀ s, scheduledFeeFor surplusUnit.payment.amount
      surplusUnit.payment.paymentMethod ⟨1_770_026_400_000⟩ = some s →
      unrecordedWithholding surplusUnit s = 29_500 := by decide
  rw [hwithheld scheduled hscheduled] at hsigned
  revert hsigned
  decide

end SettlementOps
