import Mathlib
import SettlementOps.Systems.Verdicts

/-!
# What the fixed workflow gathers

Over the registry the workflow sees the unit of the case and nothing else.

* `gatherEvidence_cites` — its evidence is of the case.
* `gatherEvidence_variance` — the variance it reads off the tool is the unexplained amount.
* `runSystemB_eq` — so that the workflow is its rules and the gate.
-/

namespace SettlementOps

/-- The registry over a loader. -/
def createToolRegistry (parseDate : String → Option Date) (now : Date)
    (loadUnit : ThrowingLoader) : ToolRegistry :=
  invokeTool parseDate now loadUnit

section Gathering

variable (parseDate : String → Option Date) (now : Date) {loadUnit : ThrowingLoader}
  {ctx : ToolContext} {unit : ReconciliationUnit}

theorem isToolName_code (name : ToolName) : isToolName name.code = some name := by
  cases name <;> decide

theorem validateArguments_empty : validateArguments parseDate {} = .ok {} := rfl

theorem registry_code (name : ToolName) :
    createToolRegistry parseDate now loadUnit ctx name.code {} =
      runTool parseDate now loadUnit ctx {} name := by
  unfold createToolRegistry invokeTool
  rw [isToolName_code]
  dsimp only
  rw [validateArguments_empty]

/-- What is gathered over a list of tools, from any start. -/
theorem gather_cites (hload : loadUnit ctx = .ok (some unit)) (names : List ToolName) :
    ∀ s : WorkflowState, unit.Cites s.evidenceRecordIds →
      unit.Cites (names.foldl
        (WorkflowState.gather (createToolRegistry parseDate now loadUnit) ctx) s).evidenceRecordIds
        ∧ s.evidenceRecordIds ⊆ (names.foldl
          (WorkflowState.gather (createToolRegistry parseDate now loadUnit) ctx)
            s).evidenceRecordIds := by
  induction names with
  | nil => exact fun s h => ⟨h, fun _ hid => hid⟩
  | cons name names ih =>
      intro s h
      have hunit : loadUnit.unit ctx = some unit := by
        rw [ThrowingLoader.unit, hload]
      have hstep : unit.Cites (s.gather (createToolRegistry parseDate now loadUnit) ctx
          name).evidenceRecordIds := by
        intro id hid
        rcases mem_foldl_addNew.1 hid with hid | hid
        · exact h id hid
        · obtain ⟨u, hu, hmem⟩ :=
            (confined_invokeTool parseDate now loadUnit ctx name.code {}).ids id hid
          rw [hunit] at hu
          cases hu
          exact hmem
      obtain ⟨hcites, hsub⟩ := ih _ hstep
      exact ⟨hcites, fun id hid => hsub (mem_foldl_addNew.2 (.inl hid))⟩

theorem gatherEvidence_cites (hload : loadUnit ctx = .ok (some unit)) :
    unit.Cites
      (gatherEvidence unit (createToolRegistry parseDate now loadUnit) ctx).evidenceRecordIds ∧
      (gatherEvidence unit (createToolRegistry parseDate now loadUnit) ctx).evidenceRecordIds ≠
        [] := by
  obtain ⟨hcites, hsub⟩ := gather_cites parseDate now hload WORKFLOW
    ⟨[unit.payment.id], 0, 0⟩ cites_payment
  exact ⟨hcites, List.ne_nil_of_mem (hsub (List.mem_singleton_self _))⟩

/-- **The variance survives its way through the tool**: the amount is written out in the answer
and read back from it. -/
theorem gatherEvidence_variance (hload : loadUnit ctx = .ok (some unit))
    (hsound : unit.expectedNetInput.Sound) :
    (gatherEvidence unit (createToolRegistry parseDate now loadUnit) ctx).varianceMinor =
      unit.unexplained := by
  let load : UnitLoader := fun _ => some unit
  have hresult : createToolRegistry parseDate now loadUnit ctx
      ToolName.calculateExpectedNetAmount.code {} = calculateExpectedNetAmount load ctx := by
    rw [registry_code parseDate now, runTool, if_neg (by decide), hload]
    rfl
  obtain ⟨hok, hfield⟩ := calculateExpectedNetAmount_of_sound (rfl : load ctx = some unit) hsound
  have hshown : varianceShown (calculateExpectedNetAmount load ctx) = unit.unexplained := by
    rw [varianceShown, hfield]
    show (toString unit.unexplained).toInt?.getD 0 = unit.unexplained
    rw [show toString unit.unexplained = unit.unexplained.repr from rfl, Int.toInt?_repr]
    rfl
  simp only [gatherEvidence, WORKFLOW, List.foldl_cons, List.foldl_nil, WorkflowState.gather,
    reduceCtorEq, false_and, if_false, true_and, hresult, hok, if_true, hshown]

/-- **The workflow is its rules and the gate.**  Over the registry it escalates where no rule fits
the unexplained amount, and otherwise does what the gate makes of the cause. -/
theorem runSystemB_eq (hload : loadUnit ctx = .ok (some unit))
    (hsound : unit.expectedNetInput.Sound) :
    (runSystemB unit (createToolRegistry parseDate now loadUnit) ctx).proposedCause =
        SystemB.decide unit unit.unexplained ∧
      ((runSystemB unit (createToolRegistry parseDate now loadUnit) ctx).effectiveDisposition =
          .resolve ∨
        (runSystemB unit (createToolRegistry parseDate now loadUnit) ctx).effectiveDisposition =
          .escalate) ∧
      ((runSystemB unit (createToolRegistry parseDate now loadUnit) ctx).effectiveDisposition =
          .resolve ↔
        ∃ cause ∈ SystemB.decide unit unit.unexplained,
          unit.AdjustmentsPossible ∧ unit.CauseCondition cause) := by
  obtain ⟨hcites, hne⟩ := gatherEvidence_cites parseDate now hload
  unfold runSystemB
  dsimp only
  rw [gatherEvidence_variance parseDate now hload hsound]
  generalize (gatherEvidence unit (createToolRegistry parseDate now loadUnit)
    ctx).evidenceRecordIds = evidence at hcites hne ⊢
  cases hcause : SystemB.decide unit unit.unexplained with
  | none => exact ⟨rfl, .inr rfl, ⟨nofun, nofun⟩⟩
  | some cause =>
      refine ⟨rfl, verify_resolve_or_escalate rfl, ?_⟩
      refine (verify_cited_iff rfl hne hcites fun _ hids =>
        absurd hids (Option.not_mem_none _)).trans ⟨?_, ?_⟩
      · rintro ⟨hadjustments, -, hcondition⟩
        exact ⟨cause, rfl, hadjustments, hcondition⟩
      · rintro ⟨cause', hsame, hadjustments, hcondition⟩
        cases hsame
        exact ⟨hadjustments, hsound, hcondition⟩

end Gathering

end SettlementOps
