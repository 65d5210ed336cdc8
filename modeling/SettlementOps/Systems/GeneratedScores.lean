import SettlementOps.Systems.Gathering

/-!
# How the deterministic treatments score on the generated cases

What the baseline and the workflow do to a case is a function of its plan and its draws.

* `CasePlan.reasonsOf` — what the baseline reports of a case.
* `CasePlan.Enumerated`, `systemA_eq` — the cases it resolves, and by which cause.
* `CasePlan.pickedCause`, `decide_eq` — the cause the workflow picks.
* `CasePlan.Worked`, `decide_resolves_iff` — the cases it resolves.
-/

namespace SettlementOps.Generator

open Random Scoring

/-! ## The reasons of a case -/

/-- The reasons by the five things that may be wrong with a case. -/
def reasonsFor (feeLost conserves delayed refundedLate split : Bool) : List ResidualReason :=
  (if feeLost then [.missingFeeRecord] else []) ++
  (if conserves then []
    else [if split then .splitSettlementUnresolved else .netAmountMismatch]) ++
  (if delayed then [.settlementTimingOutsideWindow] else []) ++
  (if refundedLate then [.refundOutsideNettingWindow] else []) ++
  (if split then [.bankCreditTimingOutsideWindow] else [])

theorem reasonsFor_eq_nil_iff : ∀ feeLost conserves delayed refundedLate split : Bool,
    reasonsFor feeLost conserves delayed refundedLate split = [] ↔
      feeLost = false ∧ conserves = true ∧ delayed = false ∧ refundedLate = false ∧
        split = false := by
  decide

/-- What each rule of the workflow looks for among the reasons. -/
theorem contains_reasonsFor : ∀ feeLost conserves delayed refundedLate split : Bool,
    let reasons := reasonsFor feeLost conserves delayed refundedLate split
    reasons.contains .lifecycleInconsistent = false ∧
      reasons.contains .refundOutsideNettingWindow = refundedLate ∧
      reasons.contains .missingFeeRecord = feeLost ∧
      reasons.contains .unexpectedFeeAmount = false ∧
      reasons.contains .splitSettlementUnresolved = (!conserves && split) ∧
      reasons.contains .bankCreditTimingOutsideWindow = split ∧
      reasons.contains .missingBankCredit = false ∧
      reasons.contains .settlementTimingOutsideWindow = delayed := by
  decide

/-- A rule applies where a single thing is wrong and what was settled adds up. -/
theorem singleCause_reasonsFor_iff : ∀ (feeLost conserves delayed refundedLate split : Bool)
    (cause : CauseCode),
    singleCause (reasonsFor feeLost conserves delayed refundedLate split) = some cause ↔
      conserves = true ∧
        (cause, feeLost, delayed, refundedLate, split) ∈
          [ (CauseCode.mdrFee, true, false, false, false),
            (.timingLag, false, true, false, false),
            (.refundNetting, false, false, true, false),
            (.utrSplit, false, false, false, true) ] := by
  intro feeLost conserves delayed refundedLate split cause
  revert feeLost conserves delayed refundedLate split
  cases cause <;> decide

namespace CasePlan

variable {plan : CasePlan} {draw : CaseDraw} {split : Split}

/-- A fee is due and its record is missing. -/
def FeeLost (plan : CasePlan) (draw : CaseDraw) : Prop :=
  withholds plan.causes = true ∧
    (scheduledFeeAndTax draw.grossMinor draw.method draw.capturedAt).fee ≠ 0

/-- What was settled adds up within the tolerance of its lines. -/
def Conserves (plan : CasePlan) (draw : CaseDraw) : Prop :=
  |plan.discrepancy draw| ≤ if .utrSplit ∈ plan.causes then 4 else 2

/-- The refund settled beyond the netting window. -/
def RefundedLate (plan : CasePlan) (draw : CaseDraw) : Prop :=
  .refundNetting ∈ plan.causes ∧ netsInTime draw.input = false

instance : Decidable (plan.FeeLost draw) := by
  unfold FeeLost
  infer_instance

instance : Decidable (plan.Conserves draw) := by
  unfold Conserves
  infer_instance

instance : Decidable (plan.RefundedLate draw) := by
  unfold RefundedLate
  infer_instance

/-- What the baseline reports of a case that is no trap. -/
def reasonsOf (plan : CasePlan) (draw : CaseDraw) : List ResidualReason :=
  reasonsFor (plan.FeeLost draw) (plan.Conserves draw) (.timingLag ∈ plan.causes)
    (plan.RefundedLate draw) (.utrSplit ∈ plan.causes)

/-- Of the amounts there are, a fee is nothing and has no tax, or it is beyond every tolerance. -/
theorem dueFee : ∀ schedule ∈ FEE_SCHEDULES, ∀ method : PaymentMethod,
    ∀ gross ∈ AMOUNT_CHOICES,
      let fee := applyBasisPoints gross (schedule.feeRateBps method)
      if fee = 0 then fee + applyBasisPoints fee schedule.taxOnFeeBps = 0
      else 8 < fee + applyBasisPoints fee schedule.taxOnFeeBps := by
  intro schedule hschedule method
  revert schedule
  cases method <;> decide +kernel

theorem dueFee_of_inRange (h : draw.InRange split) :
    if (scheduledFeeAndTax draw.grossMinor draw.method draw.capturedAt).fee = 0 then
      draw.withheld = 0
    else 8 < draw.withheld := by
  obtain ⟨schedule, hschedule⟩ := Option.isSome_iff_exists.1 h.schedule_isSome
  have hmem : schedule ∈ FEE_SCHEDULES := by
    rw [scheduleAt_eq] at hschedule
    split at hschedule
    · cases hschedule
    split at hschedule <;> cases hschedule <;> simp [FEE_SCHEDULES]
  have hdue := dueFee schedule hmem draw.method draw.grossMinor h.grossMinor
  unfold CaseDraw.withheld scheduledFeeAndTax
  rw [hschedule]
  exact hdue

/-- What is not recorded, where its fee is recorded or none is due. -/
theorem withheld_of_not_feeLost (h : draw.InRange split) (hfee : ¬ plan.FeeLost draw) :
    plan.withheld draw = 0 := by
  have hdue := dueFee_of_inRange h
  unfold CasePlan.withheld
  split
  · rename_i hwithholds
    rw [FeeLost, not_and, not_not] at hfee
    rwa [if_pos (hfee hwithholds)] at hdue
  · rfl

theorem withheld_of_feeLost (h : draw.InRange split) (hfee : plan.FeeLost draw) :
    8 < plan.withheld draw := by
  have hdue := dueFee_of_inRange h
  rw [if_neg hfee.2] at hdue
  rwa [CasePlan.withheld, if_pos hfee.1]

section Unit

variable {refs : Refs} {noise : Noise} {unit : ReconciliationUnit}

theorem failures_eq_of_plain (hplain : plan.adversarial = false) (h : draw.InRange split) :
    ((plan.damaged refs draw).1.failures.filterMap id).eraseDups = plan.reasonsOf draw := by
  have hgross : ¬ (plan.damaged refs draw).1.grossMinor < (plan.damaged refs draw).1.refunded :=
    not_lt.2 (refunded_le hplain h)
  have hsplit : (plan.damaged refs draw).1.split = true ↔ .utrSplit ∈ plan.causes := by
    rw [split_eq hplain, List.contains_iff_mem]
  have hconserves : |(plan.damaged refs draw).1.discrepancy| ≤
      2 * ((plan.damaged refs draw).1.lineCount : Int) ↔ plan.Conserves draw := by
    have hlines : 2 * ((plan.damaged refs draw).1.lineCount : Int) =
        if .utrSplit ∈ plan.causes then 4 else 2 := by
      rw [Lifecycle.lineCount]
      simp only [hsplit]
      split <;> rfl
    rw [discrepancy_eq hplain, hlines, Conserves]
  have hfee : (plan.damaged refs draw).1.FeeMissing ↔ plan.FeeLost draw :=
    feeMissing_iff hplain h
  have hlate : (plan.damaged refs draw).1.RefundLate ↔ plan.RefundedLate draw :=
    refundLate_iff hplain
  have htimely : (plan.damaged refs draw).1.SettledLate ↔ .timingLag ∈ plan.causes :=
    settledLate_iff hplain h
  have hcredit : (plan.damaged refs draw).1.CreditLate ↔ .utrSplit ∈ plan.causes :=
    creditLate_iff hplain
  have htrap : ¬ (plan.damaged refs draw).1.Trapped := trapped_iff hplain
  simp only [Lifecycle.failures, if_neg hgross, hsplit, hconserves, hfee, hlate, htimely, hcredit,
    if_neg htrap, reasonsOf]
  by_cases h₁ : plan.FeeLost draw <;> by_cases h₂ : plan.Conserves draw <;>
    by_cases h₃ : CauseCode.timingLag ∈ plan.causes <;>
    by_cases h₄ : plan.RefundedLate draw <;>
    by_cases h₅ : CauseCode.utrSplit ∈ plan.causes <;>
    simp only [h₁, h₂, h₃, h₄, h₅, if_true, if_false, decide_true, decide_false] <;> decide

variable (hu : CaseUnit (plan.damaged refs draw).1 noise unit)
include hu

theorem reasons_of_plain (hplain : plan.adversarial = false) (h : draw.InRange split) :
    (reconcileUnit unit).reasons = plan.reasonsOf draw := by
  rw [reasons_eq_failures, hu.failures_eq (damaged_sound h), failures_eq_of_plain hplain h]

/-- What the gate makes of a proposal that cites the records of the case. -/
theorem gate_of_plain (hplain : plan.adversarial = false) (h : draw.InRange split)
    {proposal : Proposal} (hresolve : proposal.disposition = .resolve)
    (hne : proposal.evidenceRecordIds ≠ []) (hcites : unit.Cites proposal.evidenceRecordIds)
    (hretrieved : ∀ ids ∈ proposal.retrievedRecordIds, proposal.evidenceRecordIds ⊆ ids) :
    (verify proposal unit).effectiveDisposition = .resolve ↔ plan.Fits draw proposal.cause := by
  have hsound : (plan.damaged refs draw).1.Sound := damaged_sound h
  rw [verify_cited_iff hresolve hne hcites hretrieved, hu.adjustmentsPossible_iff hsound,
    hu.causeCondition_iff hsound, supports_iff hplain h refs]
  exact ⟨fun hall => hall.2.2, fun hfits => ⟨trapped_iff hplain, hu.sound hsound, hfits⟩⟩

end Unit

/-! ## System A -/

/-- The cases the baseline resolves: what was settled adds up, no record of a due fee is missing
and no refund was late, and at most one rule applies. -/
structure Enumerated (plan : CasePlan) (draw : CaseDraw) : Prop where
  plain : plan.adversarial = false
  conserves : plan.Conserves draw
  fee : ¬ plan.FeeLost draw
  refund : ¬ plan.RefundedLate draw
  oneRule : ¬ (.timingLag ∈ plan.causes ∧ .utrSplit ∈ plan.causes)

instance : Decidable (plan.Enumerated draw) :=
  decidable_of_iff (plan.adversarial = false ∧ plan.Conserves draw ∧ ¬ plan.FeeLost draw ∧
      ¬ plan.RefundedLate draw ∧ ¬ (.timingLag ∈ plan.causes ∧ .utrSplit ∈ plan.causes))
    ⟨fun ⟨hplain, hconserves, hfee, hrefund, hrule⟩ => ⟨hplain, hconserves, hfee, hrefund, hrule⟩,
      fun h => ⟨h.plain, h.conserves, h.fee, h.refund, h.oneRule⟩⟩

/-- The cause it names, if any. -/
def enumeratedCause (plan : CasePlan) : Option CauseCode :=
  if .timingLag ∈ plan.causes then some .timingLag
  else if .utrSplit ∈ plan.causes then some .utrSplit
  else none

section Unit

variable {refs : Refs} {noise : Noise} {unit : ReconciliationUnit}
  (hu : CaseUnit (plan.damaged refs draw).1 noise unit)
include hu

/-- **What the baseline does to a case that is no trap.** -/
theorem systemA_of_plain (hplain : plan.adversarial = false) (h : draw.InRange split) :
    ((runSystemA unit).effectiveDisposition = .resolve ↔ plan.Enumerated draw) ∧
      ((runSystemA unit).effectiveDisposition = .resolve →
        (runSystemA unit).proposedCause = plan.enumeratedCause) := by
  have hreasons := reasons_of_plain hu hplain h
  by_cases hreconciled : (reconcileUnit unit).outcome = .reconciled
  · obtain ⟨heff, hcause⟩ := runSystemA_reconciled hreconciled
    rw [reconciled_iff_reasons, hreasons, reasonsOf, reasonsFor_eq_nil_iff] at hreconciled
    simp only [decide_eq_false_iff_not, decide_eq_true_eq] at hreconciled
    obtain ⟨hfee, hconserves, hdelay, hrefund, hsplit⟩ := hreconciled
    refine ⟨⟨fun _ => ⟨hplain, hconserves, hfee, hrefund, fun hboth => hdelay hboth.1⟩,
      fun _ => heff⟩, fun _ => ?_⟩
    rw [hcause, enumeratedCause, if_neg hdelay, if_neg hsplit]
  cases hsingle : singleCause (reconcileUnit unit).reasons with
  | none =>
      have heff := runSystemA_uncovered hreconciled hsingle
      rw [heff]
      refine ⟨⟨nofun, fun hcovered => ?_⟩, nofun⟩
      -- a covered case has no reason or the one of its rule
      have hnone : ∀ cause, ¬ singleCause (plan.reasonsOf draw) = some cause := by
        intro cause
        rw [← hreasons, hsingle]
        exact nofun
      rw [reconciled_iff_reasons, hreasons, reasonsOf, reasonsFor_eq_nil_iff] at hreconciled
      have hdelay := hnone .timingLag
      have hsplit := hnone .utrSplit
      rw [reasonsOf, singleCause_reasonsFor_iff] at hdelay hsplit
      have hrule := hcovered.oneRule
      simp only [decide_eq_false hcovered.fee, decide_eq_true hcovered.conserves,
        decide_eq_false hcovered.refund] at hreconciled hdelay hsplit
      by_cases ht : CauseCode.timingLag ∈ plan.causes <;>
        by_cases hs : CauseCode.utrSplit ∈ plan.causes <;>
        simp [ht, hs] at hreconciled hdelay hsplit hrule
  | some cause =>
      obtain ⟨hcause, proposal, hnamed, hresolve, hevidence, hretrieved, heff⟩ :=
        runSystemA_enumerated hreconciled hsingle
      have hgate := gate_of_plain hu hplain h hresolve
        (by rw [hevidence]; exact evidence_ne_nil)
        (by rw [hevidence]; exact evidence_inScope hu.duplicates)
        (by rw [hretrieved]; exact nofun)
      rw [hreasons, reasonsOf, singleCause_reasonsFor_iff] at hsingle
      simp only [decide_eq_true_eq, List.mem_cons, List.not_mem_nil, or_false, Prod.mk.injEq,
        decide_eq_false_iff_not] at hsingle
      rw [heff, hgate, hnamed, hcause]
      obtain ⟨hconserves, hrule⟩ := hsingle
      rcases hrule with ⟨rfl, hfee, -, -, hsplit⟩ | ⟨rfl, hfee, hdelay, hrefund, hsplit⟩ |
        ⟨rfl, -, -, hrefund, -⟩ | ⟨rfl, hfee, hdelay, hrefund, hsplit⟩
      · -- what is missing is more than what may go unexplained
        have hwithheld := withheld_of_feeLost h hfee
        have hno : ¬ plan.Fits draw .mdrFee := by
          intro hfits
          rw [Conserves, if_neg hsplit] at hconserves
          rw [Fits, abs_le] at hfits
          omega
        exact ⟨⟨fun hfits => absurd hfits hno, fun hcovered => absurd hfee hcovered.fee⟩,
          fun hfits => absurd hfits hno⟩
      · refine ⟨⟨fun _ => ⟨hplain, hconserves, hfee, hrefund, fun hboth => hsplit hboth.2⟩,
          fun _ => hconserves⟩, fun _ => ?_⟩
        rw [enumeratedCause, if_pos hdelay]
      · have hno : ¬ plan.Fits draw .refundNetting := by
          rintro ⟨-, hnets⟩
          rw [hrefund.2] at hnets
          cases hnets
        exact ⟨⟨fun hfits => absurd hfits hno, fun hcovered => absurd hrefund hcovered.refund⟩,
          fun hfits => absurd hfits hno⟩
      · refine ⟨⟨fun _ => ⟨hplain, hconserves, hfee, hrefund, fun hboth => hdelay hboth.1⟩,
          fun _ => ⟨hsplit, ?_⟩⟩, fun _ => ?_⟩
        · rwa [Conserves, if_pos hsplit] at hconserves
        · rw [enumeratedCause, if_neg hdelay, if_pos hsplit]

/-- The baseline resolves no trap. -/
theorem systemA_of_trap (htrap : plan.adversarial = true) (h : draw.InRange split) :
    (runSystemA unit).effectiveDisposition = .escalate := by
  have hsound : (plan.damaged refs draw).1.Sound := damaged_sound h
  have htrapped := trapped htrap refs draw
  have hnone := (hu.unresolvable_iff hsound).2 (.inl htrapped)
  have hreconciled : (reconcileUnit unit).outcome ≠ .reconciled := by
    intro hrec
    rw [reconciled_iff_no_reason] at hrec
    refine hrec .lifecycleInconsistent ((hu.mem_reasons hsound _).2 ?_)
    simp [Lifecycle.failures, htrapped]
  cases hsingle : singleCause (reconcileUnit unit).reasons with
  | none => exact runSystemA_uncovered hreconciled hsingle
  | some cause =>
      obtain ⟨-, proposal, -, hresolve, -, -, heff⟩ := runSystemA_enumerated hreconciled hsingle
      rw [heff]
      exact (verify_resolve_or_escalate hresolve).resolve_left (hnone proposal)

/-- **What the baseline does to a case.** -/
theorem systemA_eq (h : draw.InRange split) :
    ((runSystemA unit).effectiveDisposition =
        if plan.Enumerated draw then .resolve else .escalate) ∧
      (plan.Enumerated draw → (runSystemA unit).proposedCause = plan.enumeratedCause) := by
  cases htrap : plan.adversarial with
  | true =>
      have hno : ¬ plan.Enumerated draw := fun hcovered =>
        Bool.noConfusion (htrap.symm.trans hcovered.plain)
      rw [if_neg hno]
      exact ⟨systemA_of_trap hu htrap h, fun hcovered => absurd hcovered hno⟩
  | false =>
      obtain ⟨hiff, hcause⟩ := systemA_of_plain hu htrap h
      by_cases hcovered : plan.Enumerated draw
      · rw [if_pos hcovered]
        exact ⟨hiff.2 hcovered, fun _ => hcause (hiff.2 hcovered)⟩
      · rw [if_neg hcovered]
        exact ⟨(runSystemA_effective unit).resolve_left fun heff => hcovered (hiff.1 heff),
          fun h => absurd h hcovered⟩

end Unit

/-! ## System B -/

/-- The rule of the workflow that picks a cause, where no adjustment competes. -/
def pickedCause (plan : CasePlan) (draw : CaseDraw) : Option CauseCode :=
  if plan.adversarial = true then none
  else if plan.RefundedLate draw then none
  else if plan.discrepancy draw ≠ 0 ∧ |plan.discrepancy draw| ≤ 100 then some .roundingDrift
  else if plan.FeeLost draw then some .mdrFee
  else if .utrSplit ∈ plan.causes then some .utrSplit
  else if .timingLag ∈ plan.causes then some .timingLag
  else none

/-- The cases the workflow resolves: the cause it picks is one their records support. -/
def Worked (plan : CasePlan) (draw : CaseDraw) : Prop :=
  ∃ cause ∈ plan.pickedCause draw, plan.Fits draw cause

instance : Decidable (plan.Worked draw) :=
  inferInstanceAs (Decidable (∃ cause ∈ plan.pickedCause draw, plan.Fits draw cause))

section Unit

variable {refs : Refs} {noise : Noise} {unit : ReconciliationUnit}
  (hu : CaseUnit (plan.damaged refs draw).1 noise unit)
include hu

theorem settlements_length : unit.settlements.length > 1 ↔
    (plan.damaged refs draw).1.split = true := by
  have hlength : unit.settlements.length = (plan.damaged refs draw).1.lineCount := by
    have hperm := hu.settlements.length_eq
    rwa [List.length_map, List.length_map, legs_length] at hperm
  rw [hlength, Lifecycle.lineCount]
  cases (plan.damaged refs draw).1.split <;> decide

/-- The rules of the workflow on a case. -/
theorem decide_eq (h : draw.InRange split) :
    SystemB.decide unit unit.unexplained =
      if unit.adjustments.any (SystemB.unallocated unit.unexplained) then none
      else plan.pickedCause draw := by
  have hsound : (plan.damaged refs draw).1.Sound := damaged_sound h
  cases htrap : plan.adversarial with
  | true =>
      have hmem : .lifecycleInconsistent ∈ (reconcileUnit unit).reasons := by
        rw [hu.mem_reasons hsound]
        simp [Lifecycle.failures, trapped htrap refs draw]
      unfold SystemB.decide
      dsimp only
      rw [if_pos (List.contains_iff_mem.2 hmem), pickedCause, if_pos htrap, ite_self]
  | false =>
      have hunexplained : unit.unexplained = plan.discrepancy draw := by
        rw [hu.unexplained_eq hsound, discrepancy_eq htrap]
      have hlate : unit.refunds.any (·.late) = true ↔ plan.RefundedLate draw := by
        rw [List.any_eq_true, hu.exists_late_iff, refundLate_iff htrap, RefundedLate]
      have hsplit : unit.settlements.length > 1 ↔ .utrSplit ∈ plan.causes := by
        rw [settlements_length hu, split_eq htrap, List.contains_iff_mem]
      obtain ⟨hlifecycle, hrefund, hmissing, hunexpected, hunresolved, hcredit, hnocredit, htiming⟩
        := contains_reasonsFor (plan.FeeLost draw) (plan.Conserves draw)
          (.timingLag ∈ plan.causes) (plan.RefundedLate draw) (.utrSplit ∈ plan.causes)
      unfold SystemB.decide pickedCause
      rw [reasons_of_plain hu htrap h, reasonsOf]
      simp only [hlifecycle, hrefund, hmissing, hunexpected, hunresolved, hcredit, hnocredit,
        htiming, hlate, hsplit, htrap, hunexplained, magnitude_eq, decide_eq_true_eq,
        Bool.false_eq_true, if_false, or_false, false_or, Bool.and_eq_true, Bool.not_eq_true',
        decide_eq_false_iff_not, ROUNDING_TOLERANCE_ABSOLUTE_CAP_MINOR]
      by_cases hrival : unit.adjustments.any (SystemB.unallocated (plan.discrepancy draw)) = true
      · rw [if_pos hrival, if_pos hrival]
      rw [if_neg hrival, if_neg hrival]
      by_cases hrefunded : plan.RefundedLate draw
      · rw [if_pos hrefunded, if_pos hrefunded]
      rw [if_neg hrefunded, if_neg hrefunded, if_neg hrefunded]
      have hlegs : (¬ plan.Conserves draw ∧ CauseCode.utrSplit ∈ plan.causes ∨
          CauseCode.utrSplit ∈ plan.causes ∨ CauseCode.utrSplit ∈ plan.causes) ↔
            CauseCode.utrSplit ∈ plan.causes := by
        tauto
      simp only [hlegs]

/-- The rules pick a cause that takes effect. -/
theorem decide_resolves_iff (h : draw.InRange split) :
    (∃ cause ∈ SystemB.decide unit unit.unexplained,
        unit.AdjustmentsPossible ∧ unit.CauseCondition cause) ↔
      plan.Worked draw ∧
        ¬ unit.adjustments.any (SystemB.unallocated (plan.discrepancy draw)) = true := by
  have hsound : (plan.damaged refs draw).1.Sound := damaged_sound h
  rw [decide_eq hu h]
  cases htrap : plan.adversarial with
  | true =>
      have hpicked : plan.pickedCause draw = none := by
        rw [pickedCause, if_pos htrap]
      rw [Worked, hpicked, ite_self]
      exact ⟨nofun, nofun⟩
  | false =>
      have hunexplained : unit.unexplained = plan.discrepancy draw := by
        rw [hu.unexplained_eq hsound, discrepancy_eq htrap]
      rw [hunexplained]
      by_cases hrival : unit.adjustments.any (SystemB.unallocated (plan.discrepancy draw)) = true
      · rw [if_pos hrival]
        exact ⟨nofun, fun h => absurd hrival h.2⟩
      · rw [if_neg hrival, and_iff_left hrival, Worked]
        refine exists_congr fun cause => and_congr_right fun _ => ?_
        rw [hu.adjustmentsPossible_iff hsound, hu.causeCondition_iff hsound,
          supports_iff htrap h refs]
        exact and_iff_right (trapped_iff htrap)

end Unit

end CasePlan

end SettlementOps.Generator
