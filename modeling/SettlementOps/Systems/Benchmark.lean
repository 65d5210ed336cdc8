import SettlementOps.Store.AdjustmentLinks
import SettlementOps.Systems.GeneratedScores

/-!
# The benchmark on a generated case

The benchmark finds a payment by its source record id, loads its unit once for all treatments and
scores what each of them returns.

* `benchmarkCase`, `score` — a case of the benchmark, and the score of a treatment on it.
* `baseline_score`, `workflow_score` — exactly how the deterministic treatments score.
* `workflow_dominates_baseline` — where the workflow does as well as the baseline.
-/

namespace SettlementOps

open Interleave

/-- The tools' context and the unit of a case, found by the source record id of its payment. -/
def benchmarkCase (store : RecordStore) (m : MerchantId) (paymentId : String) :
    Option (ToolContext × ReconciliationUnit) :=
  (findSource m (fun p : PaymentRow => p.toRowBase) store.payments (some paymentId)).bind fun p =>
    (loadUnit store ⟨m⟩ p.id).map fun unit => (⟨⟨m⟩, p.id⟩, unit)

/-- The registry of the benchmark, over the stored records. -/
def benchmarkRegistry (parseDate : String → Option Date) (now : Date) (store : RecordStore) :
    ToolRegistry :=
  createToolRegistry parseDate now fun ctx => .ok (loadUnit store ctx.scope ctx.paymentId)

theorem benchmarkCase_eq_some {store : RecordStore} {m : MerchantId} {paymentId : String}
    {ctx : ToolContext} {unit : ReconciliationUnit}
    (h : benchmarkCase store m paymentId = some (ctx, unit)) :
    loadUnit store ctx.scope ctx.paymentId = some unit := by
  obtain ⟨p, -, hmap⟩ := Option.bind_eq_some_iff.1 h
  obtain ⟨u, hload, heq⟩ := Option.map_eq_some_iff.1 hmap
  cases heq
  exact hload

namespace Generator

open Random Scoring

/-- The score of a treatment on a case. -/
def score (outcome : SystemOutcome) (truth : CaseBlueprint) : Scoring.Outcome :=
  scoreOutcome
    { effectiveDisposition := outcome.effectiveDisposition
      proposedCause := outcome.proposedCause
      trueDisposition := truth.trueDisposition
      trueCauses := truth.trueCauses }

/-- What a treatment that resolves or escalates scores. -/
theorem score_eq {outcome : SystemOutcome} {truth : CaseBlueprint} {resolves : Prop}
    [Decidable resolves]
    (h : outcome.effectiveDisposition = if resolves then .resolve else .escalate) :
    score outcome truth =
      if truth.trueDisposition = .resolve then
        if resolves then
          if causeIsCorrect outcome.proposedCause truth.trueCauses then .correctResolve
          else .wrongCauseResolve
        else .unnecessaryAbstention
      else if resolves then .unsupportedResolve
      else .correctAbstention := by
  unfold score scoreOutcome
  dsimp only
  rw [h]
  by_cases hresolves : resolves <;> by_cases htruth : truth.trueDisposition = .resolve <;>
    simp [hresolves, htruth]

/-- A cause other than a compound is correct if it is one of the plan. -/
theorem causeIsCorrect_iff {plan : CasePlan} {ordinal : Nat} {split : Split} {slug : String}
    {draw : CaseDraw} {cause : CauseCode} (hcause : cause ≠ .compound) :
    causeIsCorrect (some cause) (blueprintOf ordinal split slug plan draw).trueCauses = true ↔
      cause ∈ plan.causes := by
  have hmem : (blueprintOf ordinal split slug plan draw).trueCauses.contains cause = true ↔
      cause ∈ plan.causes := by
    rw [List.contains_iff_mem, CasePlan.mem_trueCauses]
  unfold causeIsCorrect
  dsimp only
  rw [beq_false_of_ne hcause, Bool.false_or, ite_self]
  exact hmem

namespace CasePlan

/-- Every component of the case can be proved, so that it is to be resolved. -/
def Provable (plan : CasePlan) (draw : CaseDraw) : Prop :=
  plan.adversarial = false ∧ ∀ c ∈ plan.causes, provable draw.input c = true

instance (plan : CasePlan) (draw : CaseDraw) : Decidable (plan.Provable draw) :=
  inferInstanceAs
    (Decidable (plan.adversarial = false ∧ ∀ c ∈ plan.causes, provable draw.input c = true))

/-- How the baseline scores. -/
def baselineScore (plan : CasePlan) (draw : CaseDraw) : Scoring.Outcome :=
  if plan.Provable draw then
    if plan.Enumerated draw then
      if .timingLag ∈ plan.causes ∨ .utrSplit ∈ plan.causes then .correctResolve
      else .wrongCauseResolve
    else .unnecessaryAbstention
  else if plan.Enumerated draw then .unsupportedResolve
  else .correctAbstention

/-- How the workflow scores; `rival` is an adjustment it takes for a competing explanation. -/
def workflowScore (plan : CasePlan) (draw : CaseDraw) (rival : Prop) [Decidable rival] :
    Scoring.Outcome :=
  if plan.Provable draw then
    if plan.Worked draw ∧ ¬ rival then
      if ∃ cause ∈ plan.pickedCause draw, cause ∈ plan.causes then .correctResolve
      else .wrongCauseResolve
    else .unnecessaryAbstention
  else if plan.Worked draw ∧ ¬ rival then .unsupportedResolve
  else .correctAbstention

end CasePlan

namespace CaseDraw

/-- What a cause injects is beyond the tolerance of any line. -/
theorem InRange.variance_gt {draw : CaseDraw} {split : Split} (h : draw.InRange split) :
    4 < draw.variance := by
  have hgross := h.gross_le
  have hscale : (20 : Int) ≤ draw.varianceScaleBps := by exact_mod_cast h.varianceScaleBps.1
  have hproduct : 45_000 * 20 ≤ draw.grossMinor * (draw.varianceScaleBps : Int) :=
    mul_le_mul hgross hscale (by decide) (by omega)
  unfold variance varianceOf input
  dsimp only
  rw [Int.tdiv_eq_ediv_of_nonneg (by omega)]
  omega

end CaseDraw

namespace CasePlan

/-- Where the baseline is right, the workflow picks a cause of the case that its records
support. -/
theorem worked_of_baseline_correct {plan : CasePlan} {draw : CaseDraw} {split : Split}
    (h : draw.InRange split) (hcorrect : plan.baselineScore draw = .correctResolve) :
    plan.Provable draw ∧
      ∃ cause ∈ plan.pickedCause draw, cause ∈ plan.causes ∧ plan.Fits draw cause := by
  have hcase : plan.Provable draw ∧ plan.Enumerated draw ∧
      (.timingLag ∈ plan.causes ∨ .utrSplit ∈ plan.causes) := by
    unfold baselineScore at hcorrect
    split at hcorrect
    · split at hcorrect
      · split at hcorrect
        · exact ⟨‹_›, ‹_›, ‹_›⟩
        · cases hcorrect
      · cases hcorrect
    · split at hcorrect <;> cases hcorrect
  obtain ⟨hprovable, hcovered, hdefect⟩ := hcase
  refine ⟨hprovable, ?_⟩
  have hsmall : |plan.discrepancy draw| ≤ 4 := by
    refine le_trans hcovered.conserves ?_
    split <;> decide
  have hplain : ¬ plan.adversarial = true := by
    rw [hcovered.plain]
    exact Bool.false_ne_true
  by_cases hzero : plan.discrepancy draw = 0
  · have hpicked : plan.pickedCause draw = if .utrSplit ∈ plan.causes then some .utrSplit
        else some .timingLag := by
      unfold pickedCause
      rw [if_neg hplain, if_neg hcovered.refund, if_neg fun h => h.1 hzero, if_neg hcovered.fee]
      split
      · rfl
      · rename_i hsplit
        rw [if_pos (hdefect.resolve_right hsplit)]
    rw [hpicked]
    split
    · rename_i hsplit
      exact ⟨_, rfl, hsplit, hsplit, hsmall⟩
    · rename_i hsplit
      exact ⟨_, rfl, hdefect.resolve_right hsplit, hcovered.conserves⟩
  · refine ⟨.roundingDrift, ?_, ?_, le_trans hsmall (by decide)⟩
    · unfold pickedCause
      rw [if_neg hplain, if_neg hcovered.refund, if_pos ⟨hzero, le_trans hsmall (by decide)⟩]
      rfl
    · -- without rounding the discrepancy is nothing or a whole refund
      by_contra hrounding
      have hambiguous : .ambiguous ∉ plan.causes := fun hmem =>
        Bool.noConfusion (hprovable.2 _ hmem)
      have hvariance := h.variance_gt
      have hdiscrepancy : plan.discrepancy draw =
          -(if .refundNetting ∈ plan.causes then draw.variance else 0) := by
        rw [discrepancy, withheld_of_not_feeLost h hcovered.fee, drift,
          List.count_eq_zero_of_not_mem hrounding, List.count_eq_zero_of_not_mem hambiguous]
        simp
      rw [abs_le] at hsmall
      split at hdiscrepancy <;> omega

end CasePlan

/-! ## The deterministic treatments -/

/-- Some adjustment of the unit is as large as an amount. -/
def Rival (unit : ReconciliationUnit) (amountMinor : Int) : Prop :=
  ∃ a ∈ unit.adjustments, |a.amount.amountMinor| = |amountMinor|

instance (unit : ReconciliationUnit) (amountMinor : Int) : Decidable (Rival unit amountMinor) :=
  inferInstanceAs (Decidable (∃ a ∈ unit.adjustments, |a.amount.amountMinor| = |amountMinor|))

/-- An adjustment that is routine comes to something. -/
theorem CaseUnit.not_rival_zero {life : Lifecycle} {noise : Noise} {unit : ReconciliationUnit}
    (hu : CaseUnit life noise unit) (hnone : life.impossibleAdjustment = none) :
    ¬ Rival unit 0 := by
  rintro ⟨a, ha, hamount⟩
  have hmem := List.mem_map_of_mem (f := fun a => (a.amount, a.effectiveAt)) ha
  rw [hu.adjustments, hnone, Option.toList_none, List.map_nil, List.nil_append] at hmem
  obtain ⟨entry, hentry, heq⟩ := List.mem_map.1 hmem
  obtain ⟨hentryAmount, -⟩ := Prod.mk.inj heq
  rw [abs_zero, abs_eq_zero, ← hentryAmount] at hamount
  exact noise.nonzero entry hentry hamount

/-- No adjustment is loaded with its settlement, so each counts as unallocated. -/
theorem any_unallocated_iff {store : RecordStore} {scope : MerchantScope} {paymentId : String}
    {unit : ReconciliationUnit} (h : loadUnit store scope paymentId = some unit)
    (varianceMinor : Int) :
    unit.adjustments.any (SystemB.unallocated varianceMinor) = true ↔ Rival unit varianceMinor := by
  have hnone : ∀ a ∈ unit.adjustments, a.settlementId = none := by
    rw [adjustments_of_loadUnit h]
    intro a ha
    obtain ⟨row, -, rfl⟩ := List.mem_map.1 ha
    rfl
  rw [List.any_eq_true, Rival]
  refine exists_congr fun a => and_congr_right fun ha => ?_
  simp [SystemB.unallocated, hnone a ha, magnitude_eq]

/-- What the workflow does to a case, over the stored records. -/
theorem systemB_eq (parseDate : String → Option Date) (now : Date) {store : RecordStore}
    {toolCtx : ToolContext} {unit : ReconciliationUnit}
    (hload : loadUnit store toolCtx.scope toolCtx.paymentId = some unit)
    {refs : Refs} {noise : Noise} {plan : CasePlan} {draw : CaseDraw} {split : Split}
    (hu : CaseUnit (plan.damaged refs draw).1 noise unit) (h : draw.InRange split) :
    let outcome := runSystemB unit (benchmarkRegistry parseDate now store) toolCtx
    outcome.effectiveDisposition =
        (if plan.Worked draw ∧ ¬ Rival unit (plan.discrepancy draw) then .resolve
        else .escalate) ∧
      (plan.Worked draw ∧ ¬ Rival unit (plan.discrepancy draw) →
        outcome.proposedCause = plan.pickedCause draw) := by
  intro outcome
  have hsound : (plan.damaged refs draw).1.Sound := CasePlan.damaged_sound h
  let loader : ThrowingLoader := fun ctx => .ok (loadUnit store ctx.scope ctx.paymentId)
  have hloader : loader toolCtx = .ok (some unit) := congrArg _ hload
  obtain ⟨hcause, heither, hresolves⟩ := runSystemB_eq parseDate now hloader (hu.sound hsound)
  rw [CasePlan.decide_resolves_iff hu h, any_unallocated_iff hload] at hresolves
  by_cases hworked : plan.Worked draw ∧ ¬ Rival unit (plan.discrepancy draw)
  · rw [if_pos hworked]
    refine ⟨hresolves.2 hworked, fun _ => hcause.trans ?_⟩
    have hplain : plan.adversarial = false := by
      obtain ⟨cause, hpicked, -⟩ := hworked.1
      by_contra htrap
      rw [CasePlan.pickedCause, if_pos (Bool.of_not_eq_false htrap)] at hpicked
      cases hpicked
    have hunexplained : unit.unexplained = plan.discrepancy draw := by
      rw [hu.unexplained_eq hsound, CasePlan.discrepancy_eq hplain]
    rw [CasePlan.decide_eq hu h, hunexplained,
      if_neg fun hany => hworked.2 ((any_unallocated_iff hload _).1 hany)]
  · rw [if_neg hworked]
    exact ⟨heither.resolve_left fun heff => hworked (hresolves.1 heff), fun h => absurd h hworked⟩

/-- The workflow never picks a compound. -/
theorem pickedCause_ne_compound {plan : CasePlan} {draw : CaseDraw} :
    plan.pickedCause draw ≠ some .compound := by
  unfold CasePlan.pickedCause
  repeat' split
  all_goals simp

section Scores

variable {refs : Refs} {noise : Noise} {unit : ReconciliationUnit} {plan : CasePlan}
  {draw : CaseDraw} {split : Split} {ordinal : Nat} {slug : String}

theorem provable_iff :
    (blueprintOf ordinal split slug plan draw).trueDisposition = .resolve ↔
      plan.Provable draw := by
  rw [CasePlan.trueDisposition_eq]
  split
  · rename_i h
    exact iff_of_true rfl h
  · rename_i h
    exact iff_of_false nofun h

theorem score_runSystemA (hu : CaseUnit (plan.damaged refs draw).1 noise unit)
    (h : draw.InRange split) :
    score (runSystemA unit) (blueprintOf ordinal split slug plan draw) =
      plan.baselineScore draw := by
  obtain ⟨heff, hcause⟩ := CasePlan.systemA_eq hu h
  rw [score_eq heff, CasePlan.baselineScore]
  simp only [provable_iff]
  by_cases hcovered : plan.Enumerated draw
  · simp only [hcovered, if_true]
    have hcorrect : causeIsCorrect (runSystemA unit).proposedCause
          (blueprintOf ordinal split slug plan draw).trueCauses = true ↔
        .timingLag ∈ plan.causes ∨ .utrSplit ∈ plan.causes := by
      rw [hcause hcovered, CasePlan.enumeratedCause]
      split
      · rename_i hdelay
        rw [causeIsCorrect_iff (by decide)]
        exact iff_of_true hdelay (.inl hdelay)
      split
      · rename_i hsplit
        rw [causeIsCorrect_iff (by decide)]
        exact iff_of_true hsplit (.inr hsplit)
      · rename_i hdelay hsplit
        exact iff_of_false Bool.false_ne_true (not_or.2 ⟨hdelay, hsplit⟩)
    simp only [hcorrect]
  · simp only [hcovered, if_false]

theorem score_runSystemB (parseDate : String → Option Date) (now : Date) {store : RecordStore}
    {toolCtx : ToolContext}
    (hload : loadUnit store toolCtx.scope toolCtx.paymentId = some unit)
    (hu : CaseUnit (plan.damaged refs draw).1 noise unit) (h : draw.InRange split) :
    score (runSystemB unit (benchmarkRegistry parseDate now store) toolCtx)
        (blueprintOf ordinal split slug plan draw) =
      plan.workflowScore draw (Rival unit (plan.discrepancy draw)) := by
  obtain ⟨heff, hcause⟩ := systemB_eq parseDate now hload hu h
  rw [score_eq heff, CasePlan.workflowScore]
  simp only [provable_iff]
  by_cases hworked : plan.Worked draw ∧ ¬ Rival unit (plan.discrepancy draw)
  · simp only [hworked, hcause hworked]
    have hcorrect : causeIsCorrect (plan.pickedCause draw)
          (blueprintOf ordinal split slug plan draw).trueCauses = true ↔
        ∃ cause ∈ plan.pickedCause draw, cause ∈ plan.causes := by
      cases hpicked : plan.pickedCause draw with
      | none => exact ⟨nofun, nofun⟩
      | some cause =>
          rw [causeIsCorrect_iff fun h => pickedCause_ne_compound (hpicked.trans (by rw [h]))]
          exact ⟨fun h => ⟨cause, rfl, h⟩, fun ⟨_, hsame, h⟩ => by cases hsame; exact h⟩
    simp only [hcorrect]
  · simp only [hworked, if_false]

end Scores

section Cases

variable {parseDate : String → Option Date} (hreads : ReadsISO parseDate)
  {recordId : Nat → String} (hrecordId : Function.Injective recordId) (ctx : RequestContext)
  (ingestedAt : Date) (importId : String) (ordinal : Nat) (split : Split) (slug : String)
  (plan : CasePlan) (tape : Tape UInt32)

include hreads hrecordId in
/-- The benchmark finds the case it imported. -/
theorem benchmarkCase_rendered {draw : CaseDraw} (hdraw : result (drawCase split) tape = draw) :
    ∃ toolCtx unit noise,
      benchmarkCase (importRequest parseDate ctx recordId ingestedAt importId
          (result (renderCase ordinal split slug plan) tape).visibleRecords) ctx.tenantId
        (result (renderCase ordinal split slug plan) tape).blueprint.paymentId =
          some (toolCtx, unit) ∧
      (result (renderCase ordinal split slug plan) tape).blueprint =
        blueprintOf ordinal split slug plan draw ∧
      draw.InRange split ∧
      CaseUnit (plan.damaged (refsFor ordinal) draw).1 noise unit := by
  obtain ⟨unit, noise, hload, hblueprint, hrange, hu⟩ := loadRendered hreads hrecordId ctx
    ingestedAt importId ordinal split slug plan tape hdraw
  obtain ⟨p, hp, hunit⟩ := Option.bind_eq_some_iff.1 hload
  refine ⟨⟨⟨ctx.tenantId⟩, p.id⟩, unit, noise, ?_, hblueprint, hrange, hu⟩
  rw [benchmarkCase, hp, Option.bind_some]
  rw [show loadUnit _ (⟨ctx.tenantId⟩ : MerchantScope) p.id = some unit from hunit]
  rfl

include hreads hrecordId in
/-- **How the baseline scores on a generated case**: a function of its plan and its draws.  It
resolves a case whose settlement adds up and which has no other defect than one late settlement
or one late credit, by the cause of that defect; a resolution without a cause is scored as one by
the wrong cause. -/
theorem baseline_score : ∃ toolCtx unit,
    benchmarkCase (importRequest parseDate ctx recordId ingestedAt importId
        (result (renderCase ordinal split slug plan) tape).visibleRecords) ctx.tenantId
      (result (renderCase ordinal split slug plan) tape).blueprint.paymentId =
        some (toolCtx, unit) ∧
    score (runSystemA unit) (result (renderCase ordinal split slug plan) tape).blueprint =
      plan.baselineScore (result (drawCase split) tape) := by
  obtain ⟨toolCtx, unit, noise, hcase, hblueprint, hrange, hu⟩ := benchmarkCase_rendered hreads
    hrecordId ctx ingestedAt importId ordinal split slug plan tape rfl
  rw [hblueprint]
  rw [hblueprint] at hcase
  exact ⟨toolCtx, unit, hcase, score_runSystemA hu hrange⟩

/-- A late settlement alone is resolved correctly. -/
theorem baseline_score_delayed :
    let plan : CasePlan := ⟨[.timingLag], false, false⟩
    ∃ toolCtx unit,
      benchmarkCase (importRequest parseISOString ⟨"u-1", "m-1", [], "c-1"⟩ toString ⟨0⟩ "i-1"
          (result (renderCase 1 .validation "acme" plan) (createRng 7)).visibleRecords) "m-1"
        (result (renderCase 1 .validation "acme" plan) (createRng 7)).blueprint.paymentId =
          some (toolCtx, unit) ∧
      score (runSystemA unit)
          (result (renderCase 1 .validation "acme" plan) (createRng 7)).blueprint =
        .correctResolve := by
  intro plan
  obtain ⟨toolCtx, unit, hcase, hscore⟩ := baseline_score readsISO_parseISOString
    toString_injective ⟨"u-1", "m-1", [], "c-1"⟩ ⟨0⟩ "i-1" 1 .validation "acme" plan (createRng 7)
  refine ⟨toolCtx, unit, hcase, hscore.trans ?_⟩
  decide +kernel

include hreads hrecordId in
/-- **How the workflow scores on a generated case**: a function of its plan, its draws and whether
some adjustment of the case is as large as its discrepancy. -/
theorem workflow_score (now : Date) : ∃ toolCtx unit,
    let store := importRequest parseDate ctx recordId ingestedAt importId
      (result (renderCase ordinal split slug plan) tape).visibleRecords
    let draw := result (drawCase split) tape
    benchmarkCase store ctx.tenantId
      (result (renderCase ordinal split slug plan) tape).blueprint.paymentId =
        some (toolCtx, unit) ∧
    score (runSystemB unit (benchmarkRegistry parseDate now store) toolCtx)
        (result (renderCase ordinal split slug plan) tape).blueprint =
      plan.workflowScore draw (Rival unit (plan.discrepancy draw)) := by
  obtain ⟨toolCtx, unit, noise, hcase, hblueprint, hrange, hu⟩ := benchmarkCase_rendered hreads
    hrecordId ctx ingestedAt importId ordinal split slug plan tape rfl
  rw [hblueprint]
  rw [hblueprint] at hcase
  exact ⟨toolCtx, unit, hcase,
    score_runSystemB parseDate now (benchmarkCase_eq_some hcase) hu hrange⟩

include hreads hrecordId in
/-- The case of a plan without the trap has no rival when nothing is missing. -/
theorem not_rival_of_discrepancy_zero {draw : CaseDraw} {toolCtx : ToolContext}
    {unit : ReconciliationUnit} (hdraw : result (drawCase split) tape = draw)
    (hplain : plan.adversarial = false) (hzero : plan.discrepancy draw = 0)
    (hcase : benchmarkCase (importRequest parseDate ctx recordId ingestedAt importId
        (result (renderCase ordinal split slug plan) tape).visibleRecords) ctx.tenantId
      (result (renderCase ordinal split slug plan) tape).blueprint.paymentId =
        some (toolCtx, unit)) :
    ¬ Rival unit (plan.discrepancy draw) := by
  obtain ⟨toolCtx', unit', noise, hcase', -, -, hu⟩ := benchmarkCase_rendered hreads hrecordId ctx
    ingestedAt importId ordinal split slug plan tape hdraw
  rw [hcase, Option.some.injEq, Prod.mk.injEq] at hcase'
  obtain ⟨rfl, rfl⟩ := hcase'
  rw [hzero]
  exact hu.not_rival_zero (CasePlan.damage hplain _ _).impossibleAdjustment

/-- Two unrelated defects, of which the workflow names one. -/
theorem workflow_score_pair :
    let plan : CasePlan := ⟨[.timingLag, .utrSplit], false, false⟩
    ∃ toolCtx unit,
      let store := importRequest parseISOString ⟨"u-1", "m-1", [], "c-1"⟩ toString ⟨0⟩ "i-1"
        (result (renderCase 1 .validation "acme" plan) (createRng 7)).visibleRecords
      benchmarkCase store "m-1"
        (result (renderCase 1 .validation "acme" plan) (createRng 7)).blueprint.paymentId =
          some (toolCtx, unit) ∧
      score (runSystemB unit (benchmarkRegistry parseISOString ⟨0⟩ store) toolCtx)
          (result (renderCase 1 .validation "acme" plan) (createRng 7)).blueprint =
        .correctResolve := by
  intro plan
  have hzero : plan.discrepancy (result (drawCase .validation) (createRng 7)) = 0 := by
    decide +kernel
  have hworked : plan.workflowScore (result (drawCase .validation) (createRng 7)) False =
      .correctResolve := by
    decide +kernel
  obtain ⟨toolCtx, unit, hcase, hscore⟩ := workflow_score readsISO_parseISOString
    toString_injective ⟨"u-1", "m-1", [], "c-1"⟩ ⟨0⟩ "i-1" 1 .validation "acme" plan (createRng 7)
    ⟨0⟩
  have hrival := not_rival_of_discrepancy_zero readsISO_parseISOString toString_injective
    ⟨"u-1", "m-1", [], "c-1"⟩ ⟨0⟩ "i-1" 1 .validation "acme" plan (createRng 7) rfl rfl hzero hcase
  refine ⟨toolCtx, unit, hcase, hscore.trans (Eq.trans ?_ hworked)⟩
  simp only [hrival]

include hreads hrecordId in
/-- **The workflow does as well as the baseline** on every case the baseline resolves correctly,
unless some adjustment of the case happens to be as large as its discrepancy; then it escalates.
The rule against competing explanations is meant for unallocated adjustments; those are not
loaded, and those that are loaded are allocated. -/
theorem workflow_dominates_baseline (now : Date) : ∃ toolCtx unit,
    let store := importRequest parseDate ctx recordId ingestedAt importId
      (result (renderCase ordinal split slug plan) tape).visibleRecords
    let truth := (result (renderCase ordinal split slug plan) tape).blueprint
    benchmarkCase store ctx.tenantId truth.paymentId = some (toolCtx, unit) ∧
    (score (runSystemA unit) truth = .correctResolve →
      score (runSystemB unit (benchmarkRegistry parseDate now store) toolCtx) truth =
        if Rival unit (plan.discrepancy (result (drawCase split) tape)) then
          .unnecessaryAbstention
        else .correctResolve) := by
  obtain ⟨toolCtx, unit, noise, hcase, hblueprint, hrange, hu⟩ := benchmarkCase_rendered hreads
    hrecordId ctx ingestedAt importId ordinal split slug plan tape rfl
  generalize result (drawCase split) tape = draw at hblueprint hrange hu ⊢
  refine ⟨toolCtx, unit, hcase, fun hbaseline => ?_⟩
  rw [hblueprint, score_runSystemA hu hrange] at hbaseline
  obtain ⟨hprovable, cause, hpicked, hcause, hfits⟩ :=
    CasePlan.worked_of_baseline_correct hrange hbaseline
  have hworked : plan.Worked draw := ⟨cause, hpicked, hfits⟩
  have hcorrect : ∃ cause ∈ plan.pickedCause draw, cause ∈ plan.causes := ⟨cause, hpicked, hcause⟩
  rw [hblueprint, score_runSystemB parseDate now (benchmarkCase_eq_some hcase) hu hrange,
    CasePlan.workflowScore, if_pos hprovable, if_pos hcorrect]
  by_cases hrival : Rival unit (plan.discrepancy draw)
  · rw [if_neg fun h => h.2 hrival, if_pos hrival]
  · rw [if_pos ⟨hworked, hrival⟩, if_neg hrival]

/-- On a late settlement the workflow names the same cause. -/
theorem workflow_dominates_baseline_delayed :
    let plan : CasePlan := ⟨[.timingLag], false, false⟩
    ∃ toolCtx unit,
      let store := importRequest parseISOString ⟨"u-1", "m-1", [], "c-1"⟩ toString ⟨0⟩ "i-1"
        (result (renderCase 1 .validation "acme" plan) (createRng 7)).visibleRecords
      let truth := (result (renderCase 1 .validation "acme" plan) (createRng 7)).blueprint
      benchmarkCase store "m-1" truth.paymentId = some (toolCtx, unit) ∧
      score (runSystemA unit) truth = .correctResolve ∧
      score (runSystemB unit (benchmarkRegistry parseISOString ⟨0⟩ store) toolCtx) truth =
        .correctResolve := by
  intro plan
  have hzero : plan.discrepancy (result (drawCase .validation) (createRng 7)) = 0 := by
    decide +kernel
  obtain ⟨toolCtx, unit, hcase, hdominates⟩ := workflow_dominates_baseline readsISO_parseISOString
    toString_injective ⟨"u-1", "m-1", [], "c-1"⟩ ⟨0⟩ "i-1" 1 .validation "acme" plan (createRng 7)
    ⟨0⟩
  have hrival := not_rival_of_discrepancy_zero readsISO_parseISOString toString_injective
    ⟨"u-1", "m-1", [], "c-1"⟩ ⟨0⟩ "i-1" 1 .validation "acme" plan (createRng 7) rfl rfl hzero hcase
  obtain ⟨_, _, noise, hcase', hblueprint, hrange, hu⟩ := benchmarkCase_rendered
    readsISO_parseISOString toString_injective ⟨"u-1", "m-1", [], "c-1"⟩ ⟨0⟩ "i-1" 1 .validation
    "acme" plan (createRng 7) rfl
  have hbaseline : score (runSystemA unit)
      (result (renderCase 1 .validation "acme" plan) (createRng 7)).blueprint =
        .correctResolve := by
    rw [hcase, Option.some.injEq, Prod.mk.injEq] at hcase'
    obtain ⟨rfl, rfl⟩ := hcase'
    rw [hblueprint, score_runSystemA hu hrange]
    decide +kernel
  exact ⟨toolCtx, unit, hcase, hbaseline, (hdominates hbaseline).trans (if_neg hrival)⟩

end Cases

end Generator

end SettlementOps
