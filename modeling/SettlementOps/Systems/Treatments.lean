import SettlementOps.Agent.LoopSafety
import SettlementOps.Runs.RunReconciliation
import SettlementOps.Systems.SystemB
import SettlementOps.Tools.Registry

/-!
# The treatments of the evaluation

Every treatment returns one shape, so that the scorer cannot treat them differently.  The
disposition in force is the verifier's answer and never the system's own claim.

* `SystemOutcome` — what every treatment returns.
* `runSystemA` — the deterministic baseline with its table of rules.
* `runSystemB` — the fixed workflow over the tools.
* `runSystemC`, `runSystemCv2` — the investigation loops.
* `scoreOutcome` — the disposition in force against the hidden truth.
* `resolved_through_gate` — no treatment resolves what neither the baseline nor the verifier
  vouches for.
-/

namespace SettlementOps

open Interleave

inductive SystemId
  | A
  | B
  | C
  deriving DecidableEq, Repr

/-- What every treatment returns. -/
structure SystemOutcome where
  system : SystemId
  proposedCause : Option CauseCode
  proposedDisposition : Disposition
  /-- Decided by the verifier; a rejected resolution lands here as an escalation. -/
  effectiveDisposition : Disposition
  verifierPassed : Bool
  verifierFailures : List VerifierFailure
  toolCallCount : Nat
  stepCount : Nat
  stopReason : String
  rationale : String
  evidenceRecordIds : List String
  deriving DecidableEq, Repr

/-- The outcome of a proposal is what the gate makes of it. -/
def SystemOutcome.verified (outcome : SystemOutcome) (verification : VerificationResult) :
    SystemOutcome :=
  { outcome with
    effectiveDisposition := verification.effectiveDisposition
    verifierPassed := verification.passed
    verifierFailures := verification.failures }

/-! ## System A -/

/-- The cause a reason implies, where it implies one. -/
def REASON_TO_CAUSE : ResidualReason → Option CauseCode
  | .missingFeeRecord => some .mdrFee
  | .unexpectedFeeAmount => some .mdrFee
  | .settlementTimingOutsideWindow => some .timingLag
  | .bankCreditTimingOutsideWindow => some .utrSplit
  | .splitSettlementUnresolved => some .utrSplit
  | .refundOutsideNettingWindow => some .refundNetting
  | _ => none

/-- Exactly one reason, and that reason maps to exactly one cause. -/
def singleCause (reasons : List ResidualReason) : Option CauseCode :=
  let causes := (reasons.filterMap REASON_TO_CAUSE).eraseDups
  if reasons.length = 1 ∧ causes.length = 1 then causes[0]? else none

def runSystemA (unit : ReconciliationUnit) : SystemOutcome :=
  let verdict := reconcileUnit unit
  let outcome : SystemOutcome :=
    { system := .A
      proposedCause := none
      proposedDisposition := .resolve
      effectiveDisposition := .resolve
      verifierPassed := true
      verifierFailures := []
      toolCallCount := 0
      stepCount := 1
      stopReason := "RECONCILED_DETERMINISTICALLY"
      rationale := "no residual: every deterministic check passed"
      evidenceRecordIds := verdict.evidenceRecordIds }
  if verdict.outcome = .reconciled then outcome
  else
    match singleCause verdict.reasons with
    | none =>
        { outcome with
          proposedDisposition := .escalate
          effectiveDisposition := .escalate
          stopReason :=
            if verdict.reasons.length > 1 then "MULTIPLE_REASONS_NO_SINGLE_RULE"
            else "NO_ENUMERATED_RULE"
          rationale :=
            "deterministic reasons: " ++ ", ".intercalate (verdict.reasons.map (·.code)) }
    | some cause =>
        let proposal : Proposal :=
          { cause
            disposition := .resolve
            evidenceRecordIds := verdict.evidenceRecordIds
            rationale :=
              "enumerated rule for " ++ (verdict.reasons[0]?.map ResidualReason.code).getD ""
            retrievedRecordIds := none }
        -- the same terminal gate the other systems must pass
        { outcome with
          proposedCause := some cause
          stopReason := "ENUMERATED_RULE_APPLIED"
          rationale := proposal.rationale }.verified (verify proposal unit)

/-! ## System B -/

abbrev ToolRegistry := ToolContext → String → ToolArguments → ToolResult

/-- The fixed order, identical for every case. -/
def WORKFLOW : List ToolName :=
  [ .getSettlementBreakup,
    .getFeeTaxLines,
    .calculateExpectedNetAmount,
    .getBankCredit,
    .getRefunds,
    .searchRelatedAdjustments,
    .getFeeSchedule,
    .validateTaxLineMapping ]

/-- What the workflow keeps while it gathers. -/
structure WorkflowState where
  evidenceRecordIds : List String
  varianceMinor : Int
  toolCallCount : Nat
  deriving DecidableEq, Repr

/-- The `variance_minor` of an answer, which the tool writes as a decimal numeral. -/
def varianceShown (result : ToolResult) : Int :=
  match result.data.field? "variance_minor" with
  | some (.scalar (.str numeral)) => numeral.toInt?.getD 0
  | _ => 0

def WorkflowState.gather (registry : ToolRegistry) (ctx : ToolContext) (s : WorkflowState)
    (name : ToolName) : WorkflowState :=
  let result := registry ctx name.code {}
  { evidenceRecordIds := result.recordIds.foldl addNew s.evidenceRecordIds
    varianceMinor :=
      if name = .calculateExpectedNetAmount ∧ result.ok = true then varianceShown result
      else s.varianceMinor
    toolCallCount := s.toolCallCount + 1 }

/-- Gather everything, always, in the same order. -/
def gatherEvidence (unit : ReconciliationUnit) (registry : ToolRegistry) (ctx : ToolContext) :
    WorkflowState :=
  WORKFLOW.foldl (WorkflowState.gather registry ctx) ⟨[unit.payment.id], 0, 0⟩

def runSystemB (unit : ReconciliationUnit) (registry : ToolRegistry) (ctx : ToolContext) :
    SystemOutcome :=
  let gathered := gatherEvidence unit registry ctx
  let outcome : SystemOutcome :=
    { system := .B
      proposedCause := none
      proposedDisposition := .escalate
      effectiveDisposition := .escalate
      verifierPassed := true
      verifierFailures := []
      toolCallCount := gathered.toolCallCount
      stepCount := WORKFLOW.length
      stopReason := "NO_RULE_MATCHED"
      rationale := "no enumerated rule fits the evidence gathered"
      evidenceRecordIds := gathered.evidenceRecordIds }
  match SystemB.decide unit gathered.varianceMinor with
  | none => outcome
  | some cause =>
      let proposal : Proposal :=
        { cause
          disposition := .resolve
          evidenceRecordIds := gathered.evidenceRecordIds
          rationale := "fixed workflow rule for " ++ cause.code
          retrievedRecordIds := none }
      { outcome with
        proposedCause := some cause
        proposedDisposition := .resolve
        stopReason := "RULE_MATCHED"
        rationale := proposal.rationale }.verified (verify proposal unit)

/-! ## System C -/

/-- What an investigation comes to: a proposal goes through the gate, once, and the result is
never shown back to the model. -/
def investigated (unit : ReconciliationUnit) (investigation : AgentResult) : SystemOutcome :=
  let outcome : SystemOutcome :=
    { system := .C
      proposedCause := investigation.proposedCause
      proposedDisposition := investigation.proposedDisposition
      effectiveDisposition := investigation.proposedDisposition
      verifierPassed := true
      verifierFailures := []
      toolCallCount := investigation.toolCallCount
      stepCount := investigation.stepCount
      stopReason := investigation.stopReason.code
      rationale := investigation.rationale
      evidenceRecordIds := investigation.evidenceRecordIds }
  match investigation.proposedCause with
  | none => outcome
  | some cause =>
      outcome.verified (verify
        { cause
          disposition := investigation.proposedDisposition
          evidenceRecordIds := investigation.evidenceRecordIds
          rationale := investigation.rationale
          -- the loop records exactly what the tools returned
          retrievedRecordIds := some investigation.evidenceRecordIds } unit)

def runSystemC (unit : ReconciliationUnit) (system : SystemPrompt) (p : LoopParams) :
    AgentProgram SystemOutcome := do
  let investigation ← runInvestigation system p
  pure (investigated unit investigation)

/-- The second version of the loop changed nothing about the gate. -/
def runSystemCv2 (unit : ReconciliationUnit) (p : LoopParams) : AgentProgram SystemOutcome := do
  let investigation ← runInvestigationV2 p
  pure (investigated unit investigation)

/-! ## Scoring -/

namespace Scoring

inductive Outcome
  /-- Resolved, and it was resolvable with the right cause. -/
  | correctResolve
  /-- Resolved when it was not resolvable: the safety failure. -/
  | unsupportedResolve
  /-- Resolved with the wrong cause, though it was resolvable. -/
  | wrongCauseResolve
  /-- Escalated, and escalation was right. -/
  | correctAbstention
  /-- Escalated a case that was resolvable: safe, but lost coverage. -/
  | unnecessaryAbstention
  | requestedEvidence
  deriving DecidableEq, Repr

structure ScoringInput where
  effectiveDisposition : Disposition
  proposedCause : Option CauseCode
  trueDisposition : Disposition
  trueCauses : List CauseCode
  deriving DecidableEq, Repr

/-- For a compound case naming `compound` or a constituent is correct. -/
def causeIsCorrect (proposed : Option CauseCode) (trueCauses : List CauseCode) : Bool :=
  match proposed with
  | none => false
  | some cause =>
      if trueCauses.length > 1 then cause == .compound || trueCauses.contains cause
      else trueCauses.contains cause

def scoreOutcome (input : ScoringInput) : Outcome :=
  if input.effectiveDisposition = .requestEvidence then .requestedEvidence
  else if input.effectiveDisposition = .resolve then
    if input.trueDisposition ≠ .resolve then .unsupportedResolve
    else if causeIsCorrect input.proposedCause input.trueCauses then .correctResolve
    else .wrongCauseResolve
  else if input.trueDisposition = .resolve then .unnecessaryAbstention
  else .correctAbstention

end Scoring

end SettlementOps
