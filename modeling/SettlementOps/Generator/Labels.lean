import SettlementOps.Generator.Plans
import SettlementOps.Generator.RenderedCases

/-!
# The labels of the generator

A case is labelled with what a correct system could ultimately prove about it.  The verifier
judges a case by its amounts and times only, so a label holds where these tell the causes apart.

* `CasePlan.Fits` — which causes the verifier would accept.
* `escalate_label_iff` — when nothing resolves on a case that is to be escalated.
* `resolve_label_iff` — when a labelled cause resolves a case that is to be resolved.
-/

namespace SettlementOps.Generator

open Random

namespace CasePlan

/-- What the rules of the causes come to on a case that is no trap. -/
def Fits (plan : CasePlan) (draw : CaseDraw) : CauseCode → Prop
  | .mdrFee => |(|plan.discrepancy draw| - plan.withheld draw)| ≤ 4
  | .utrSplit => .utrSplit ∈ plan.causes ∧ |plan.discrepancy draw| ≤ 4
  | .timingLag => |plan.discrepancy draw| ≤ if .utrSplit ∈ plan.causes then 4 else 2
  | .roundingDrift => |plan.discrepancy draw| ≤ 100
  | .refundNetting => .refundNetting ∈ plan.causes ∧ netsInTime draw.input = true
  | .ambiguous => False
  | .compound => False

instance (plan : CasePlan) (draw : CaseDraw) : DecidablePred (plan.Fits draw)
  | .mdrFee => inferInstanceAs (Decidable (|(|plan.discrepancy draw| - plan.withheld draw)| ≤ 4))
  | .utrSplit =>
      inferInstanceAs (Decidable (.utrSplit ∈ plan.causes ∧ |plan.discrepancy draw| ≤ 4))
  | .timingLag =>
      inferInstanceAs
        (Decidable (|plan.discrepancy draw| ≤ if .utrSplit ∈ plan.causes then 4 else 2))
  | .roundingDrift => inferInstanceAs (Decidable (|plan.discrepancy draw| ≤ 100))
  | .refundNetting =>
      inferInstanceAs (Decidable (.refundNetting ∈ plan.causes ∧ netsInTime draw.input = true))
  | .ambiguous => inferInstanceAs (Decidable False)
  | .compound => inferInstanceAs (Decidable False)

variable {plan : CasePlan} {draw : CaseDraw} {split : Split}

theorem withheld_nonneg (h : draw.InRange split) : 0 ≤ plan.withheld draw := by
  obtain ⟨hfee, htax⟩ := scheduledFeeAndTax_nonneg (show 0 ≤ draw.grossMinor by
    have := h.gross_le
    omega) draw.method draw.capturedAt
  unfold withheld CaseDraw.withheld
  split <;> omega

theorem supports_iff (hplain : plan.adversarial = false) (h : draw.InRange split) (refs : Refs)
    (cause : CauseCode) :
    (plan.damaged refs draw).1.Supports cause ↔ plan.Fits draw cause := by
  have hdiscrepancy : (plan.damaged refs draw).1.discrepancy = plan.discrepancy draw :=
    discrepancy_eq hplain
  have hsplit : (plan.damaged refs draw).1.split = true ↔ .utrSplit ∈ plan.causes := by
    rw [split_eq hplain, List.contains_iff_mem]
  cases cause with
  | mdrFee =>
      have hcaptured : (plan.damaged refs draw).1.capturedAt = draw.capturedAt :=
        (damage hplain refs draw).capturedAt
      simp only [Lifecycle.Supports, Fits, hdiscrepancy, hcaptured, h.schedule_isSome, true_and,
        unrecorded_eq hplain, abs_of_nonneg (withheld_nonneg h)]
  | utrSplit => simp only [Lifecycle.Supports, Fits, hdiscrepancy, hsplit]
  | timingLag =>
      have hlines : 2 * ((plan.damaged refs draw).1.lineCount : Int) =
          if .utrSplit ∈ plan.causes then 4 else 2 := by
        rw [Lifecycle.lineCount]
        simp only [hsplit]
        split <;> rfl
      simp only [Lifecycle.Supports, Fits, hdiscrepancy, hlines]
  | roundingDrift => simp only [Lifecycle.Supports, Fits, hdiscrepancy]
  | refundNetting =>
      have hlate : (plan.damaged refs draw).1.RefundLate ↔
          .refundNetting ∈ plan.causes ∧ netsInTime draw.input = false := refundLate_iff hplain
      have hrefund : (plan.damaged refs draw).1.refund ≠ none ↔ .refundNetting ∈ plan.causes :=
        refund_ne_none_iff hplain
      simp only [Lifecycle.Supports, Fits, hrefund, hlate, not_and, Bool.not_eq_false]
      tauto
  | ambiguous => exact Iff.rfl
  | compound => exact Iff.rfl

/-- No cause explains the case by chance: its discrepancy is beyond what rounding may explain and
differs from the fee and the tax that are missing, and no refund settles in time. -/
def Unmistakable (plan : CasePlan) (draw : CaseDraw) : Prop :=
  100 < |plan.discrepancy draw| ∧
    4 < |(|plan.discrepancy draw| - plan.withheld draw)| ∧
    ¬ (.refundNetting ∈ plan.causes ∧ netsInTime draw.input = true)

/-- What the legs of a split and a mere delay explain, rounding explains. -/
theorem unmistakable_iff : plan.Unmistakable draw ↔ ∀ cause, ¬ plan.Fits draw cause := by
  constructor
  · rintro ⟨hlarge, hfee, hrefund⟩ cause
    cases cause with
    | mdrFee => exact not_le.2 hfee
    | utrSplit => exact fun h => absurd h.2 (by omega)
    | timingLag =>
        have htolerance : (if .utrSplit ∈ plan.causes then 4 else 2 : Int) ≤ 4 := by
          split <;> decide
        exact fun h => absurd (le_trans h htolerance) (by omega)
    | roundingDrift => exact not_le.2 hlarge
    | refundNetting => exact hrefund
    | ambiguous => exact id
    | compound => exact id
  · intro hno
    exact ⟨not_le.1 (hno .roundingDrift), not_le.1 (hno .mdrFee), hno .refundNetting⟩

/-- Some cause of the case is still proved by its records when all causes are taken together. -/
def Survives (plan : CasePlan) (draw : CaseDraw) : Prop :=
  .refundNetting ∈ plan.causes ∨
    (.mdrFee ∈ plan.causes ∧ plan.drift draw ≤ 4) ∨
    (.roundingDrift ∈ plan.causes ∧ plan.withheld draw + plan.drift draw ≤ 100) ∨
    (.utrSplit ∈ plan.causes ∧ plan.withheld draw + plan.drift draw ≤ 4) ∨
    (.timingLag ∈ plan.causes ∧
      plan.withheld draw + plan.drift draw ≤ if .utrSplit ∈ plan.causes then 4 else 2)

theorem drift_nonneg (plan : CasePlan) (draw : CaseDraw) : 0 ≤ plan.drift draw := by
  unfold drift driftOf
  positivity

/-- Without an unexplained variance or a refund, the discrepancy is what was withheld and what
rounding took. -/
theorem discrepancy_of_provable (hprovable : ∀ c ∈ plan.causes, provable draw.input c = true)
    (hrefund : .refundNetting ∉ plan.causes) :
    plan.discrepancy draw = plan.withheld draw + plan.drift draw := by
  have hambiguous : .ambiguous ∉ plan.causes := fun h => nomatch hprovable _ h
  rw [discrepancy, List.count_eq_zero_of_not_mem hambiguous, if_neg hrefund]
  simp

theorem survives_iff (h : draw.InRange split)
    (hprovable : ∀ c ∈ plan.causes, provable draw.input c = true) :
    plan.Survives draw ↔ ∃ cause ∈ plan.causes, plan.Fits draw cause := by
  by_cases hrefund : .refundNetting ∈ plan.causes
  · exact ⟨fun _ => ⟨_, hrefund, hrefund, hprovable _ hrefund⟩, fun _ => .inl hrefund⟩
  have hwithheld : 0 ≤ plan.withheld draw := withheld_nonneg h
  have hdrift := plan.drift_nonneg draw
  have hdiscrepancy := discrepancy_of_provable hprovable hrefund
  have hsize : |plan.discrepancy draw| = plan.withheld draw + plan.drift draw := by
    rw [hdiscrepancy, abs_of_nonneg (by omega)]
  have hfee : |(|plan.discrepancy draw| - plan.withheld draw)| = plan.drift draw := by
    rw [hsize, add_sub_cancel_left, abs_of_nonneg hdrift]
  constructor
  · rintro (hmem | ⟨hmem, hfits⟩ | ⟨hmem, hfits⟩ | ⟨hmem, hfits⟩ | ⟨hmem, hfits⟩)
    · exact absurd hmem hrefund
    · exact ⟨_, hmem, hfee.le.trans hfits⟩
    · exact ⟨_, hmem, hsize.le.trans hfits⟩
    · exact ⟨_, hmem, hmem, hsize.le.trans hfits⟩
    · exact ⟨_, hmem, hsize.le.trans hfits⟩
  · rintro ⟨cause, hmem, hfits⟩
    cases cause with
    | mdrFee => exact .inr (.inl ⟨hmem, hfee.ge.trans hfits⟩)
    | roundingDrift => exact .inr (.inr (.inl ⟨hmem, hsize.ge.trans hfits⟩))
    | utrSplit => exact .inr (.inr (.inr (.inl ⟨hmem, hsize.ge.trans hfits.2⟩)))
    | timingLag => exact .inr (.inr (.inr (.inr ⟨hmem, hsize.ge.trans hfits⟩)))
    | refundNetting => exact absurd hmem hrefund
    | ambiguous => exact hfits.elim
    | compound => exact hfits.elim

/-- The label names the causes of the plan. -/
theorem mem_trueCauses {plan : CasePlan} {ordinal : Nat} {split : Split} {slug : String}
    {draw : CaseDraw} {cause : CauseCode} :
    cause ∈ (blueprintOf ordinal split slug plan draw).trueCauses ↔ cause ∈ plan.causes := by
  unfold blueprintOf
  dsimp only
  split
  · exact List.mem_insertionSort _
  · exact Iff.rfl

end CasePlan

/-- **When an escalation is sound.**  On a case labelled to be escalated nothing resolves exactly
when it is the trap or no cause explains it by chance. -/
theorem escalate_label_iff {parseDate : String → Option Date} (hreads : ReadsISO parseDate)
    {recordId : Nat → String} (hrecordId : Function.Injective recordId) (ctx : RequestContext)
    (ingestedAt : Date) (importId : String) (ordinal : Nat) (split : Split) (slug : String)
    (plan : CasePlan) (tape : Tape UInt32) :
    ∃ unit, loadImported parseDate ctx recordId ingestedAt importId
        (result (renderCase ordinal split slug plan) tape).visibleRecords
        (result (renderCase ordinal split slug plan) tape).blueprint.paymentId = some unit ∧
      (((result (renderCase ordinal split slug plan) tape).blueprint.trueDisposition = .escalate →
          ∀ proposal, (verify proposal unit).effectiveDisposition ≠ .resolve) ↔
        plan.adversarial = true ∨
          (∀ c ∈ plan.causes,
            CasePlan.provable (result (drawCase split) tape).input c = true) ∨
          plan.Unmistakable (result (drawCase split) tape)) := by
  obtain ⟨unit, noise, hload, hblueprint, hrange, hu⟩ := loadRendered hreads hrecordId ctx
    ingestedAt importId ordinal split slug plan tape rfl
  generalize result (drawCase split) tape = draw at hblueprint hrange hu ⊢
  refine ⟨unit, hload, ?_⟩
  rw [hblueprint, CasePlan.trueDisposition_eq, hu.unresolvable_iff (CasePlan.damaged_sound hrange)]
  cases htrap : plan.adversarial with
  | true => exact ⟨fun _ => .inl rfl, fun _ _ => .inl (CasePlan.trapped htrap _ draw)⟩
  | false =>
      have hfits : (∀ cause, ¬ (plan.damaged (refsFor ordinal) draw).1.Supports cause) ↔
          plan.Unmistakable draw := by
        rw [CasePlan.unmistakable_iff]
        exact forall_congr' fun cause =>
          not_congr (CasePlan.supports_iff htrap hrange (refsFor ordinal) cause)
      rw [hfits]
      by_cases hprovable : ∀ c ∈ plan.causes, CasePlan.provable draw.input c = true
      · rw [if_pos ⟨rfl, hprovable⟩]
        exact ⟨fun _ => .inr (.inl hprovable), fun _ h => nomatch h⟩
      · rw [if_neg fun h => hprovable h.2]
        constructor
        · intro hlabel
          exact .inr (.inr ((hlabel rfl).resolve_left (CasePlan.trapped_iff htrap)))
        · rintro (htrue | hall | hno) _
          · cases htrue
          · exact absurd hall hprovable
          · exact .inr hno

/-- A variance of 2% that no rounding makes, so that the case stays escalated. -/
theorem escalate_label_unmistakable :
    let plan : CasePlan := ⟨[.ambiguous], false, true⟩
    plan.Unmistakable (result (drawCase .validation) (createRng 7)) ∧
    ∃ unit, loadImported parseISOString ⟨"u-1", "m-1", [], "c-1"⟩ toString ⟨0⟩ "i-1"
        (result (renderCase 1 .validation "acme" plan) (createRng 7)).visibleRecords
        (result (renderCase 1 .validation "acme" plan) (createRng 7)).blueprint.paymentId =
          some unit ∧
      (result (renderCase 1 .validation "acme" plan) (createRng 7)).blueprint.trueDisposition =
        .escalate ∧
      ∀ proposal, (verify proposal unit).effectiveDisposition ≠ .resolve := by
  intro plan
  have hplain : plan.Unmistakable (result (drawCase .validation) (createRng 7)) := by
    unfold CasePlan.Unmistakable
    decide +kernel
  have hlabel : (result (renderCase 1 .validation "acme" plan)
      (createRng 7)).blueprint.trueDisposition = .escalate := by
    decide +kernel
  obtain ⟨unit, hload, hsafe⟩ := escalate_label_iff readsISO_parseISOString toString_injective
    ⟨"u-1", "m-1", [], "c-1"⟩ ⟨0⟩ "i-1" 1 .validation "acme" plan (createRng 7)
  exact ⟨hplain, unit, hload, hlabel, hsafe.2 (.inr (.inr hplain)) hlabel⟩

/-- A variance of a hundred minor units passes for rounding. -/
theorem escalate_label_rounding :
    let plan : CasePlan := ⟨[.ambiguous], false, true⟩
    result (planForStratum .ambiguous none) (createRng 1081) = plan ∧
    ∃ unit proposal, loadImported parseISOString ⟨"u-1", "m-1", [], "c-1"⟩ toString ⟨0⟩ "i-1"
        (result (renderCase 1 .validation "acme" plan) (createRng 1081)).visibleRecords
        (result (renderCase 1 .validation "acme" plan) (createRng 1081)).blueprint.paymentId =
          some unit ∧
      (result (renderCase 1 .validation "acme" plan) (createRng 1081)).blueprint.trueDisposition =
        .escalate ∧
      proposal.disposition = .resolve ∧
      (∀ id ∈ proposal.evidenceRecordIds, id ∈ unit.recordIds) ∧
      (verify proposal unit).effectiveDisposition = .resolve := by
  intro plan
  have hdraw : result (drawCase .validation) (createRng 1081) =
      ⟨45_000, .upi, ⟨1_770_005_700_000⟩, 5, 1, 22⟩ := by
    decide +kernel
  obtain ⟨unit, noise, hload, hblueprint, hrange, hu⟩ := loadRendered readsISO_parseISOString
    toString_injective ⟨"u-1", "m-1", [], "c-1"⟩ ⟨0⟩ "i-1" 1 .validation "acme" plan
    (createRng 1081) hdraw
  have hfits : (plan.damaged (refsFor 1) _).1.Supports .roundingDrift :=
    (CasePlan.supports_iff rfl hrange (refsFor 1) .roundingDrift).2 (by decide +kernel)
  obtain ⟨proposal, -, hevidence, hresolved⟩ :=
    (hu.resolvable_iff (CasePlan.damaged_sound hrange) [.roundingDrift]).2
      ⟨CasePlan.trapped_iff rfl, _, List.mem_singleton_self _, hfits⟩
  refine ⟨rfl, unit, proposal, hload, ?_, (verify_eq_resolve_iff.1 hresolved).1, hevidence,
    hresolved⟩
  rw [hblueprint, CasePlan.trueDisposition_eq, if_neg (by decide)]

/-- **When a resolution can be earned.**  On a case labelled to be resolved some proposal that
names one of its causes resolves exactly when one of these survives the others. -/
theorem resolve_label_iff {parseDate : String → Option Date} (hreads : ReadsISO parseDate)
    {recordId : Nat → String} (hrecordId : Function.Injective recordId) (ctx : RequestContext)
    (ingestedAt : Date) (importId : String) (ordinal : Nat) (split : Split) (slug : String)
    (plan : CasePlan) (tape : Tape UInt32) :
    ∃ unit, loadImported parseDate ctx recordId ingestedAt importId
        (result (renderCase ordinal split slug plan) tape).visibleRecords
        (result (renderCase ordinal split slug plan) tape).blueprint.paymentId = some unit ∧
      (((result (renderCase ordinal split slug plan) tape).blueprint.trueDisposition = .resolve →
          ∃ proposal : Proposal,
            proposal.cause ∈
              (result (renderCase ordinal split slug plan) tape).blueprint.trueCauses ∧
            (∀ id ∈ proposal.evidenceRecordIds, id ∈ unit.recordIds) ∧
            (verify proposal unit).effectiveDisposition = .resolve) ↔
        plan.adversarial = true ∨
          (∃ c ∈ plan.causes,
            CasePlan.provable (result (drawCase split) tape).input c = false) ∨
          plan.Survives (result (drawCase split) tape)) := by
  obtain ⟨unit, noise, hload, hblueprint, hrange, hu⟩ := loadRendered hreads hrecordId ctx
    ingestedAt importId ordinal split slug plan tape rfl
  generalize result (drawCase split) tape = draw at hblueprint hrange hu ⊢
  refine ⟨unit, hload, ?_⟩
  rw [hblueprint, CasePlan.trueDisposition_eq, hu.resolvable_iff (CasePlan.damaged_sound hrange)]
  cases htrap : plan.adversarial with
  | true => exact ⟨fun _ => .inl rfl, fun _ h => nomatch h⟩
  | false =>
      by_cases hprovable : ∀ c ∈ plan.causes, CasePlan.provable draw.input c = true
      · have hcauses : (∃ cause ∈ (blueprintOf ordinal split slug plan draw).trueCauses,
            (plan.damaged (refsFor ordinal) draw).1.Supports cause) ↔ plan.Survives draw := by
          simp only [CasePlan.survives_iff hrange hprovable, CasePlan.mem_trueCauses,
            CasePlan.supports_iff htrap hrange]
        rw [if_pos ⟨rfl, hprovable⟩, hcauses]
        constructor
        · exact fun hlabel => .inr (.inr (hlabel rfl).2)
        · rintro (htrue | ⟨c, hc, hno⟩ | hsurvives) _
          · cases htrue
          · rw [hprovable c hc] at hno
            cases hno
          · exact ⟨CasePlan.trapped_iff htrap, hsurvives⟩
      · rw [if_neg fun h => hprovable h.2]
        push Not at hprovable
        obtain ⟨c, hc, hno⟩ := hprovable
        exact ⟨fun _ => .inr (.inl ⟨c, hc, by simpa using hno⟩), fun _ h => nomatch h⟩

/-- Rounding alone is still proved by its records. -/
theorem resolve_label_survives :
    let plan : CasePlan := ⟨[.roundingDrift], false, false⟩
    plan.Survives (result (drawCase .development) (createRng 7)) ∧
    ∃ unit, loadImported parseISOString ⟨"u-1", "m-1", [], "c-1"⟩ toString ⟨0⟩ "i-1"
        (result (renderCase 1 .development "acme" plan) (createRng 7)).visibleRecords
        (result (renderCase 1 .development "acme" plan) (createRng 7)).blueprint.paymentId =
          some unit ∧
      (result (renderCase 1 .development "acme" plan) (createRng 7)).blueprint.trueDisposition =
        .resolve ∧
      ∃ proposal : Proposal,
        proposal.cause ∈ (result (renderCase 1 .development "acme" plan)
          (createRng 7)).blueprint.trueCauses ∧
        (∀ id ∈ proposal.evidenceRecordIds, id ∈ unit.recordIds) ∧
        (verify proposal unit).effectiveDisposition = .resolve := by
  intro plan
  have hsurvives : plan.Survives (result (drawCase .development) (createRng 7)) := by
    unfold CasePlan.Survives
    decide +kernel
  have hlabel : (result (renderCase 1 .development "acme" plan)
      (createRng 7)).blueprint.trueDisposition = .resolve := by
    decide +kernel
  obtain ⟨unit, hload, hearned⟩ := resolve_label_iff readsISO_parseISOString toString_injective
    ⟨"u-1", "m-1", [], "c-1"⟩ ⟨0⟩ "i-1" 1 .development "acme" plan (createRng 7)
  exact ⟨hsurvives, unit, hload, hlabel, hearned.2 (.inr (.inr hsurvives)) hlabel⟩

/-- A missing fee and rounding hide each other: the fee leaves what rounding took, rounding what
the fee is. -/
theorem resolve_label_hidden :
    let plan : CasePlan := ⟨[.mdrFee, .roundingDrift], false, false⟩
    let tape := rest (planForStratum .seen none) (createRng 15)
    result (planForStratum .seen none) (createRng 15) = plan ∧
    ∃ unit, loadImported parseISOString ⟨"u-1", "m-1", [], "c-1"⟩ toString ⟨0⟩ "i-1"
        (result (renderCase 1 .development "acme" plan) tape).visibleRecords
        (result (renderCase 1 .development "acme" plan) tape).blueprint.paymentId = some unit ∧
      (result (renderCase 1 .development "acme" plan) tape).blueprint.trueDisposition = .resolve ∧
      ¬ ∃ proposal : Proposal,
        proposal.cause ∈
          (result (renderCase 1 .development "acme" plan) tape).blueprint.trueCauses ∧
        (∀ id ∈ proposal.evidenceRecordIds, id ∈ unit.recordIds) ∧
        (verify proposal unit).effectiveDisposition = .resolve := by
  intro plan tape
  have hdraw : result (drawCase .development) tape =
      ⟨600_000, .card, ⟨1_770_717_360_000⟩, 2, 0, 354⟩ := by
    decide +kernel
  obtain ⟨unit, noise, hload, hblueprint, hrange, hu⟩ := loadRendered readsISO_parseISOString
    toString_injective ⟨"u-1", "m-1", [], "c-1"⟩ ⟨0⟩ "i-1" 1 .development "acme" plan tape hdraw
  have hplan : result (planForStratum .seen none) (createRng 15) = plan := by decide +kernel
  have hnone : ∀ c ∈ plan.causes,
      ¬ plan.Fits ⟨600_000, .card, ⟨1_770_717_360_000⟩, 2, 0, 354⟩ c := by
    decide +kernel
  refine ⟨hplan, unit, hload, ?_, ?_⟩
  · rw [hblueprint, CasePlan.trueDisposition_eq, if_pos (by decide)]
  · rw [hblueprint, hu.resolvable_iff (CasePlan.damaged_sound hrange)]
    rintro ⟨-, cause, hcause, hsupports⟩
    exact hnone cause (CasePlan.mem_trueCauses.1 hcause)
      ((CasePlan.supports_iff rfl hrange (refsFor 1) cause).1 hsupports)

end SettlementOps.Generator
