import SettlementOps.Generator.Plans
import SettlementOps.Generator.RenderedCases

/-!
# The baseline on the cases of the generator

A blueprint records how much of a case is missing and that the baseline leaves it as a residual.

* `blueprint_discrepancy_iff` — when the baseline finds the discrepancy of the blueprint.
* `CasePlan.Shows` — what the checks of the baseline can see of a case.
* `residual_iff` — when a case is a residual.
-/

namespace SettlementOps.Generator

open Random

/-! ## The discrepancy -/

/-- **When the blueprint agrees with the baseline.**  The adjustment of the trap makes up for
what is unexplained, and what a refund takes from the expectation is not recorded. -/
theorem blueprint_discrepancy_iff {parseDate : String → Option Date} (hreads : ReadsISO parseDate)
    {recordId : Nat → String} (hrecordId : Function.Injective recordId) (ctx : RequestContext)
    (ingestedAt : Date) (importId : String) (ordinal : Nat) (split : Split) (slug : String)
    (plan : CasePlan) (tape : Tape UInt32) :
    ∃ unit, loadImported parseDate ctx recordId ingestedAt importId
        (result (renderCase ordinal split slug plan) tape).visibleRecords
        (result (renderCase ordinal split slug plan) tape).blueprint.paymentId = some unit ∧
      ((reconcileUnit unit).discrepancy.amountMinor =
          (result (renderCase ordinal split slug plan) tape).blueprint.discrepancyMinor ↔
        plan.adversarial = false ∧ .refundNetting ∉ plan.causes) := by
  obtain ⟨unit, noise, hload, hblueprint, hrange, hu⟩ := loadRendered hreads hrecordId ctx
    ingestedAt importId ordinal split slug plan tape rfl
  generalize result (drawCase split) tape = draw at hblueprint hrange hu ⊢
  refine ⟨unit, hload, ?_⟩
  have hrecorded : (blueprintOf ordinal split slug plan draw).discrepancyMinor =
      (plan.damaged (refsFor ordinal) draw).1.unexplainedMinor +
        (plan.damaged (refsFor ordinal) draw).1.unrecorded := rfl
  have hvariance := hrange.variance_pos
  rw [hblueprint, hu.discrepancy_eq (CasePlan.damaged_sound hrange), inr_amountMinor, hrecorded]
  cases htrap : plan.adversarial with
  | true =>
      obtain ⟨hzero, hunexplained, hunrecorded⟩ :=
        CasePlan.discrepancy_trap htrap (refsFor ordinal) draw
      rw [hzero, hunexplained, hunrecorded, add_zero]
      exact ⟨fun h => absurd h hvariance.ne, fun h => nomatch h.1⟩
  | false =>
      rw [CasePlan.discrepancy_eq htrap, CasePlan.unexplained_eq htrap,
        CasePlan.unrecorded_eq htrap, CasePlan.discrepancy]
      by_cases hrefund : .refundNetting ∈ plan.causes
      · rw [if_pos hrefund]
        exact ⟨fun h => absurd h (by omega), fun h => absurd hrefund h.2⟩
      · rw [if_neg hrefund]
        exact ⟨fun _ => ⟨rfl, hrefund⟩, fun _ => by omega⟩

/-- A missing fee, which the blueprint and the baseline find alike. -/
theorem blueprint_discrepancy_fee :
    let plan : CasePlan := ⟨[.mdrFee], false, false⟩
    ∃ unit, loadImported parseISOString ⟨"u-1", "m-1", [], "c-1"⟩ toString ⟨0⟩ "i-1"
        (result (renderCase 1 .development "acme" plan) (createRng 7)).visibleRecords
        (result (renderCase 1 .development "acme" plan) (createRng 7)).blueprint.paymentId =
          some unit ∧
      (reconcileUnit unit).discrepancy.amountMinor = 1_221 ∧
      (result (renderCase 1 .development "acme" plan) (createRng 7)).blueprint.discrepancyMinor =
        1_221 := by
  intro plan
  have hrecorded : (result (renderCase 1 .development "acme" plan)
      (createRng 7)).blueprint.discrepancyMinor = 1_221 := by
    decide +kernel
  obtain ⟨unit, hload, hfound⟩ := blueprint_discrepancy_iff readsISO_parseISOString
    toString_injective ⟨"u-1", "m-1", [], "c-1"⟩ ⟨0⟩ "i-1" 1 .development "acme" plan (createRng 7)
  exact ⟨unit, hload, (hfound.2 ⟨rfl, by decide⟩).trans hrecorded, hrecorded⟩

/-- A refund that was not netted: the blueprint records nothing, the baseline that more was
settled than expected. -/
theorem blueprint_discrepancy_refund :
    let plan : CasePlan := ⟨[.refundNetting], false, false⟩
    let tape := rest (planForStratum .seen none) (createRng 11)
    result (planForStratum .seen none) (createRng 11) = plan ∧
    ∃ unit, loadImported parseISOString ⟨"u-1", "m-1", [], "c-1"⟩ toString ⟨0⟩ "i-1"
        (result (renderCase 1 .development "acme" plan) tape).visibleRecords
        (result (renderCase 1 .development "acme" plan) tape).blueprint.paymentId = some unit ∧
      (result (renderCase 1 .development "acme" plan) tape).blueprint.discrepancyMinor = 0 ∧
      (reconcileUnit unit).discrepancy.amountMinor = -41_601 := by
  intro plan tape
  have hplan : result (planForStratum .seen none) (createRng 11) = plan := by decide +kernel
  have hdraw : result (drawCase .development) tape =
      ⟨1_000_000, .netbanking, ⟨1_780_473_840_000⟩, 4, 1, 416⟩ := by
    decide +kernel
  obtain ⟨unit, noise, hload, hblueprint, hrange, hu⟩ := loadRendered readsISO_parseISOString
    toString_injective ⟨"u-1", "m-1", [], "c-1"⟩ ⟨0⟩ "i-1" 1 .development "acme" plan tape hdraw
  refine ⟨hplan, unit, hload, ?_, ?_⟩
  · rw [hblueprint]
    decide +kernel
  · rw [hu.discrepancy_eq (CasePlan.damaged_sound hrange), inr_amountMinor,
      CasePlan.discrepancy_eq rfl]
    decide +kernel

/-! ## The residual -/

/-- What makes some check fail. -/
theorem Lifecycle.exists_failure_iff (life : Lifecycle) :
    (∃ r, some r ∈ life.failures) ↔
      life.grossMinor < life.refunded ∨ life.FeeMissing ∨
        2 * (life.lineCount : Int) < |life.discrepancy| ∨ life.SettledLate ∨ life.RefundLate ∨
        life.Trapped ∨ life.CreditLate := by
  simp only [failures, List.mem_cons, List.not_mem_nil, reduceCtorEq, false_or, or_false,
    Option.some_eq_ite_none_right, Option.some_eq_ite_none_left, Option.some.injEq, exists_or,
    exists_and_left, exists_eq, and_true, not_le]

namespace CasePlan

/-- What the baseline sees of a case: its trap, its legs, a fee that is due, more missing than
rounding makes, its delay, or a refund beyond the window. -/
def Shows (plan : CasePlan) (draw : CaseDraw) : Prop :=
  plan.adversarial = true ∨
    .utrSplit ∈ plan.causes ∨
    (withholds plan.causes = true ∧
      (scheduledFeeAndTax draw.grossMinor draw.method draw.capturedAt).fee ≠ 0) ∨
    2 < |plan.discrepancy draw| ∨
    .timingLag ∈ plan.causes ∨
    (.refundNetting ∈ plan.causes ∧ netsInTime draw.input = false)

instance (plan : CasePlan) (draw : CaseDraw) : Decidable (plan.Shows draw) := by
  unfold Shows
  infer_instance

variable {plan : CasePlan} {refs : Refs} {draw : CaseDraw} {split : Split}

/-- The legs of a split are seen by their credits, so that the tolerance is that of one line. -/
theorem exists_failure_iff (h : draw.InRange split) :
    (∃ r, some r ∈ (plan.damaged refs draw).1.failures) ↔ plan.Shows draw := by
  rw [Lifecycle.exists_failure_iff]
  cases htrap : plan.adversarial with
  | true =>
      have htrapped := trapped htrap refs draw
      exact ⟨fun _ => .inl htrap, fun _ => by simp only [htrapped, true_or, or_true]⟩
  | false =>
      have hgross : ¬ (plan.damaged refs draw).1.grossMinor < (plan.damaged refs draw).1.refunded :=
        not_lt.2 (refunded_le htrap h)
      have hpossible : ¬ (plan.damaged refs draw).1.Trapped := trapped_iff htrap
      have hlate : (plan.damaged refs draw).1.RefundLate ↔
          .refundNetting ∈ plan.causes ∧ netsInTime draw.input = false := refundLate_iff htrap
      have hcredit : (plan.damaged refs draw).1.CreditLate ↔ .utrSplit ∈ plan.causes :=
        creditLate_iff htrap
      have hdiscrepancy : (plan.damaged refs draw).1.discrepancy = plan.discrepancy draw :=
        discrepancy_eq htrap
      simp only [hgross, hpossible, hlate, hcredit, hdiscrepancy, feeMissing_iff htrap h,
        settledLate_iff htrap h, Shows, htrap, Bool.false_eq_true, false_or]
      by_cases hlegs : .utrSplit ∈ plan.causes
      · simp only [hlegs, true_or, or_true]
      · have hone : 2 * ((plan.damaged refs draw).1.lineCount : Int) = 2 := by
          rw [Lifecycle.lineCount, split_eq htrap, if_neg (by simpa using hlegs)]
          rfl
        simp only [hone, hlegs, false_or, or_false]

end CasePlan

/-- **When a generated case is a residual**: when something of it shows. -/
theorem residual_iff {parseDate : String → Option Date} (hreads : ReadsISO parseDate)
    {recordId : Nat → String} (hrecordId : Function.Injective recordId) (ctx : RequestContext)
    (ingestedAt : Date) (importId : String) (ordinal : Nat) (split : Split) (slug : String)
    (plan : CasePlan) (tape : Tape UInt32) :
    ∃ unit, loadImported parseDate ctx recordId ingestedAt importId
        (result (renderCase ordinal split slug plan) tape).visibleRecords
        (result (renderCase ordinal split slug plan) tape).blueprint.paymentId = some unit ∧
      ((reconcileUnit unit).outcome = .exception ↔
        plan.Shows (result (drawCase split) tape)) := by
  obtain ⟨unit, noise, hload, -, hrange, hu⟩ := loadRendered hreads hrecordId ctx
    ingestedAt importId ordinal split slug plan tape rfl
  generalize result (drawCase split) tape = draw at hrange hu ⊢
  refine ⟨unit, hload, ?_⟩
  rw [hu.exception_iff (CasePlan.damaged_sound hrange), CasePlan.exists_failure_iff hrange]

/-- A delayed case, which shows by its date. -/
theorem residual_delay :
    let plan : CasePlan := ⟨[.timingLag], false, false⟩
    plan.Shows (result (drawCase .development) (createRng 7)) ∧
    ∃ unit, loadImported parseISOString ⟨"u-1", "m-1", [], "c-1"⟩ toString ⟨0⟩ "i-1"
        (result (renderCase 1 .development "acme" plan) (createRng 7)).visibleRecords
        (result (renderCase 1 .development "acme" plan) (createRng 7)).blueprint.paymentId =
          some unit ∧
      (reconcileUnit unit).outcome = .exception := by
  intro plan
  have hshows : plan.Shows (result (drawCase .development) (createRng 7)) := by decide +kernel
  obtain ⟨unit, hload, hresidual⟩ := residual_iff readsISO_parseISOString toString_injective
    ⟨"u-1", "m-1", [], "c-1"⟩ ⟨0⟩ "i-1" 1 .development "acme" plan (createRng 7)
  exact ⟨hshows, unit, hload, hresidual.2 hshows⟩

/-- UPI has no fee that could go missing. -/
theorem residual_free :
    let plan : CasePlan := ⟨[.mdrFee], false, false⟩
    let seen := planForStratum .seen (some ⟨[[.mdrFee]], [.mdrFee]⟩)
    let tape := rest seen (createRng 1)
    result seen (createRng 1) = plan ∧
    ∃ unit, loadImported parseISOString ⟨"u-1", "m-1", [], "c-1"⟩ toString ⟨0⟩ "i-1"
        (result (renderCase 1 .validation "acme" plan) tape).visibleRecords
        (result (renderCase 1 .validation "acme" plan) tape).blueprint.paymentId = some unit ∧
      (result (renderCase 1 .validation "acme" plan) tape).blueprint.expectedResidual = true ∧
      (reconcileUnit unit).outcome = .reconciled := by
  intro plan seen tape
  have hplan : result seen (createRng 1) = plan := by decide +kernel
  have hdraw : result (drawCase .validation) tape =
      ⟨45_000, .upi, ⟨1_776_767_100_000⟩, 7, 0, 450⟩ := by
    decide +kernel
  obtain ⟨unit, noise, hload, hblueprint, hrange, hu⟩ := loadRendered readsISO_parseISOString
    toString_injective ⟨"u-1", "m-1", [], "c-1"⟩ ⟨0⟩ "i-1" 1 .validation "acme" plan tape hdraw
  have hhidden : ¬ plan.Shows ⟨45_000, .upi, ⟨1_776_767_100_000⟩, 7, 0, 450⟩ := by decide +kernel
  refine ⟨hplan, unit, hload, by rw [hblueprint]; rfl, ?_⟩
  cases houtcome : (reconcileUnit unit).outcome with
  | reconciled => rfl
  | exception =>
      rw [hu.exception_iff (CasePlan.damaged_sound hrange),
        CasePlan.exists_failure_iff hrange] at houtcome
      exact absurd houtcome hhidden

end SettlementOps.Generator
