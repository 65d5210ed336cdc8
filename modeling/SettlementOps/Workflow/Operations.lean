import SettlementOps.Auth.RequestContext
import SettlementOps.Text.CodeUnits
import SettlementOps.Workflow.Repositories

/-!
# The case operations

The use cases of the API: starting an investigation and running the agent, the human-driven
moves of a case, approval and staging.  Each is a program of statements; where it returns
early, it returns early here.

* `moveAndRecord` — a transition followed by its audit event, as most operations do it.
* `startInvestigation`, `runAiInvestigation`, `escalateCase`, `requestEvidence`,
  `reopenForInvestigation`, `approveProposal`, `rejectProposal`, `stageApprovedAction`.
* `Operation`, `caseSystem` — any number of calls to them on one database.
-/

namespace SettlementOps

open Interleave

/-- What an operation returns; every operation has some of these. -/
inductive OperationResult
  | forbidden
  | reasonRequired
  | failed (failure : TransitionFailure)
  | started (investigation : InvestigationRecord) (transition : CaseTransitionResult)
  | escalatedAiDisabled (investigation : InvestigationRecord) (transition : CaseTransitionResult)
  | alreadyRunning (investigation : InvestigationRecord)
  | proposed (cause : CauseCode) (disposition : Disposition)
  | escalated (reason : String)
  | ok (result : CaseTransitionResult)
  | approved (transition : CaseTransitionResult)
  | rejected (transition : CaseTransitionResult)
  | staged (transition : CaseTransitionResult)
  | threw (message : String)
  deriving DecidableEq, Repr

/-! ## Events -/

/-- The event of an applied transition. -/
def transitionEvent (ctx : RequestContext) (actorType : ActorType)
    (result : CaseTransitionResult) (eventType : String) (payload : JsonObject) : AuditEvent where
  entityType := "reconciliation_case"
  entityId := result.caseId
  eventType := eventType
  actorType := actorType
  actorId := match actorType with
    | .user => some ctx.userId
    | .system => none
  correlationId := ctx.correlationId
  previousState := some result.previousState
  nextState := some result.nextState
  caseVersion := some result.caseVersion
  payload := payload

/-- An event of the agent's run, which moves nothing. -/
def agentEvent (ctx : RequestContext) (caseId : CaseId) (eventType : String)
    (payload : JsonObject) : AuditEvent where
  entityType := "reconciliation_case"
  entityId := caseId
  eventType := eventType
  actorType := .system
  actorId := none
  correlationId := ctx.correlationId
  previousState := none
  nextState := none
  caseVersion := none
  payload := payload

/-- A transition and then, when it was applied, its event. -/
def moveAndRecord (scope : MerchantScope) (input : TransitionInput)
    (event : CaseTransitionResult → AuditEvent) : CaseProgram TransitionOutcome := do
  match ← transition scope input with
  | .error failure => pure (.error failure)
  | .ok result => do
      appendAudit scope (event result)
      pure (.ok result)

/-! ## Investigations -/

/-- Escalate a started investigation whose agent may not run. -/
def escalateAiDisabled (ctx : RequestContext) (caseId : CaseId)
    (investigation : InvestigationRecord) (moved : CaseTransitionResult) :
    CaseProgram OperationResult := do
  InvestigationRepository.finish (scopeOf ctx) investigation.id .failed (some "MODEL_DISABLED")
  match ← moveAndRecord (scopeOf ctx)
      { caseId, toState := .escalated, actor := .system, expectedVersion := moved.caseVersion }
      (fun escalated => transitionEvent ctx .system escalated "case_escalated"
        [("reason", .str "AI investigation is disabled; routed to deterministic human handling"),
          ("failure_code", .str "MODEL_DISABLED")]) with
  | .error failure => pure (.failed failure)
  | .ok escalated => pure (.escalatedAiDisabled investigation escalated)

/-- The kill switch is `aiInvestigationEnabled`.  When an investigation is already running
the case has moved by then, and the call returns before the audit event. -/
def startInvestigation (aiInvestigationEnabled : Bool) (ctx : RequestContext) (caseId : CaseId)
    (expectedVersion : Int) : CaseProgram OperationResult := do
  if !hasAtLeast ctx .operator then pure .forbidden
  else
    match ← transition (scopeOf ctx)
        { caseId, toState := .investigating, actor := .operator, expectedVersion } with
    | .error failure => pure (.failed failure)
    | .ok moved =>
        match ← InvestigationRepository.start (scopeOf ctx)
            ⟨caseId, moved.caseVersion, POLICY_VERSION, ctx.correlationId⟩ with
        | .error message => pure (.threw message)
        | .ok ⟨investigation, false⟩ => pure (.alreadyRunning investigation)
        | .ok ⟨investigation, true⟩ => do
            appendAudit (scopeOf ctx) (transitionEvent ctx .user moved "investigation_started"
              [("investigation_id", .str investigation.id),
                ("ai_enabled", .bool aiInvestigationEnabled)])
            if aiInvestigationEnabled then pure (.started investigation moved)
            else escalateAiDisabled ctx caseId investigation moved

structure AiInvestigationInput where
  caseId : CaseId
  investigationId : String
  paymentId : String
  unit : ReconciliationUnit
  expectedVersion : Int
  deriving DecidableEq, Repr

/-- The audit event of one step of the agent. -/
def traceEvent (ctx : RequestContext) (caseId : CaseId) (entry : AgentTrace) : AuditEvent :=
  agentEvent ctx caseId (if entry.action = "TOOL_CALL" then "agent_tool_called" else "agent_step")
    [("step", .num entry.step), ("tool", .str? entry.tool), ("summary", .str entry.summary)]

/-- Every path on which the agent proposes nothing the verifier allows ends here. -/
def escalateWith (ctx : RequestContext) (input : AiInvestigationInput)
    (reason failureCode : String) : CaseProgram OperationResult := do
  InvestigationRepository.finish (scopeOf ctx) input.investigationId .failed (some failureCode)
  match ← moveAndRecord (scopeOf ctx)
      { caseId := input.caseId, toState := .escalated, actor := .system,
        expectedVersion := input.expectedVersion }
      (fun escalated => transitionEvent ctx .system escalated "case_escalated"
        [("reason", .str reason), ("failure_code", .str failureCode),
          ("policy_version", .str POLICY_VERSION)]) with
  | .error failure => pure (.failed failure)
  | .ok _ => pure (.escalated reason)

/-- The proposal made of what the agent found.  The evidence it may cite is what its tools
returned. -/
def InvestigationResult.proposal (investigation : InvestigationResult) (cause : CauseCode) :
    Proposal where
  cause := cause
  disposition := investigation.proposedDisposition
  evidenceRecordIds := investigation.evidenceRecordIds
  rationale := investigation.rationale
  retrievedRecordIds := some investigation.evidenceRecordIds

/-- The event that records the verifier's result. -/
def verifierEvent (ctx : RequestContext) (caseId : CaseId) (proposal : Proposal)
    (verification : VerificationResult) : AuditEvent :=
  agentEvent ctx caseId "verifier_completed"
    [("proposed_cause", .str proposal.cause.code),
      ("proposed_disposition", .str proposal.disposition.code),
      ("effective_disposition", .str verification.effectiveDisposition.code),
      ("passed", .bool verification.passed),
      ("failures", .strs (verification.failures.map (·.code))),
      ("detail", .strs verification.detail)]

/-- A verified resolution becomes a proposal for a human, never an action. -/
def proposeAction (ctx : RequestContext) (input : AiInvestigationInput)
    (investigation : InvestigationResult) (proposal : Proposal) :
    CaseProgram OperationResult := do
  InvestigationRepository.finish (scopeOf ctx) input.investigationId .succeeded none
  match ← moveAndRecord (scopeOf ctx)
      { caseId := input.caseId, toState := .actionProposed, actor := .system,
        expectedVersion := input.expectedVersion }
      (fun proposed => transitionEvent ctx .system proposed "action_proposed"
        [("cause", .str proposal.cause.code), ("disposition", .str proposal.disposition.code),
          ("rationale", .str proposal.rationale),
          ("evidence_record_ids", .strs proposal.evidenceRecordIds),
          ("tool_calls", .num investigation.toolCallCount)]) with
  | .error failure => pure (.failed failure)
  | .ok _ => pure (.proposed proposal.cause proposal.disposition)

/-- Put the agent's proposal through the verifier and act on what the verifier allows. -/
def judgeProposal (ctx : RequestContext) (input : AiInvestigationInput)
    (investigation : InvestigationResult) (proposal : Proposal) :
    CaseProgram OperationResult := do
  let verification ← query (.verify proposal input.unit)
  appendAudit (scopeOf ctx) (verifierEvent ctx input.caseId proposal verification)
  if verification.effectiveDisposition ≠ .resolve then
    escalateWith ctx input
      (if verification.passed then "the agent did not claim a resolution"
        else "verifier rejected the proposal: " ++
          ", ".intercalate (verification.failures.map (·.code)))
      (if verification.passed then investigation.stopReason.code else "VERIFIER_REJECTED")
  else proposeAction ctx input investigation proposal

def runAiInvestigation (ctx : RequestContext) (input : AiInvestigationInput) :
    CaseProgram OperationResult := do
  let investigation ← query (.runInvestigation (scopeOf ctx) input.paymentId input.unit)
  Prog.forEach investigation.trace fun entry =>
    appendAudit (scopeOf ctx) (traceEvent ctx input.caseId entry)
  match investigation.proposedCause with
  | none => escalateWith ctx input investigation.rationale investigation.stopReason.code
  | some cause => judgeProposal ctx input investigation (investigation.proposal cause)

/-! ## Human moves -/

/-- The actor is the caller's own role, and the event names the caller. -/
def applyHumanTransition (ctx : RequestContext) (caseId : CaseId) (toState : CaseState)
    (expectedVersion : Int) (eventType : String) (payload : JsonObject) :
    CaseProgram OperationResult := do
  let actor : TransitionActor :=
    if ctx.roles.contains .approver ∨ ctx.roles.contains .admin then .approver else .operator
  match ← moveAndRecord (scopeOf ctx) { caseId, toState, actor, expectedVersion }
      (fun result => transitionEvent ctx .user result eventType payload) with
  | .error failure => pure (.failed failure)
  | .ok result => pure (.ok result)

def escalateCase (ctx : RequestContext) (caseId : CaseId) (expectedVersion : Int)
    (reason : String) : CaseProgram OperationResult :=
  if !hasAtLeast ctx .operator then pure .forbidden
  else
    applyHumanTransition ctx caseId .escalated expectedVersion "case_escalated"
      [("reason", .str reason)]

/-- The transition and the request row are two statements; a failure may fall between. -/
def requestEvidence (ctx : RequestContext) (caseId : CaseId) (expectedVersion : Int)
    (detail : String) (expiryDays : Int) : CaseProgram OperationResult := do
  if !hasAtLeast ctx .operator then pure .forbidden
  else
    match ← applyHumanTransition ctx caseId .requestingEvidence expectedVersion
        "evidence_requested" [("detail", .str detail)] with
    | .ok result => do
        let now ← query .now
        let opened ← EvidenceRequestRepository.open (scopeOf ctx) {
          caseId
          requestedBy := ctx.userId
          detail
          expiresAt := ⟨now.getTime + expiryDays * 86_400_000⟩ }
        match opened with
        | .error message => pure (.threw message)
        | .ok _ => pure (.ok result)
    | other => pure other

def reopenForInvestigation (ctx : RequestContext) (caseId : CaseId) (expectedVersion : Int) :
    CaseProgram OperationResult :=
  if !hasAtLeast ctx .operator then pure .forbidden
  else applyHumanTransition ctx caseId .investigating expectedVersion "investigation_started" []

/-! ## Approval and staging -/

/-- The white space `trim` removes. -/
def isTrimmed (c : Char) : Bool :=
  c.val ∈ [0x09, 0x0A, 0x0B, 0x0C, 0x0D, 0x20, 0xA0, 0x1680, 0x2028, 0x2029, 0x202F, 0x205F,
    0x3000, 0xFEFF] || (0x2000 ≤ c.val && c.val ≤ 0x200A)

/-- `text.trim() === ''`. -/
def isBlank (text : String) : Bool := text.toList.all isTrimmed

/-- Separation of duties is a role check: an operator may not approve. -/
def approveProposal (ctx : RequestContext) (caseId : CaseId) (expectedVersion : Int)
    (note : String) : CaseProgram OperationResult := do
  if !hasAtLeast ctx .approver then pure .forbidden
  else
    match ← moveAndRecord (scopeOf ctx)
        { caseId, toState := .approved, actor := .approver, expectedVersion }
        (fun approved => transitionEvent ctx .user approved "proposal_approved"
          [("note", .str (Text.slice note 500))]) with
    | .error failure => pure (.failed failure)
    | .ok approved => pure (.approved approved)

/-- A rejection without a reason is not auditable, so it is not permitted. -/
def rejectProposal (ctx : RequestContext) (caseId : CaseId) (expectedVersion : Int)
    (reason : String) : CaseProgram OperationResult := do
  if !hasAtLeast ctx .approver then pure .forbidden
  else if isBlank reason then pure .reasonRequired
  else
    match ← moveAndRecord (scopeOf ctx)
        { caseId, toState := .rejected, actor := .approver, expectedVersion }
        (fun rejected => transitionEvent ctx .user rejected "proposal_rejected"
          [("reason", .str (Text.slice reason 500))]) with
    | .error failure => pure (.failed failure)
    | .ok rejected => pure (.rejected rejected)

/-- What would be done is recorded for a human to apply; nothing writes to a ledger. -/
def stageApprovedAction (ctx : RequestContext) (caseId : CaseId) (expectedVersion : Int)
    (actionType amountMinor currency : String) : CaseProgram OperationResult := do
  if !hasAtLeast ctx .approver then pure .forbidden
  else
    match ← moveAndRecord (scopeOf ctx)
        { caseId, toState := .staged, actor := .system, expectedVersion }
        (fun staged => transitionEvent ctx .system staged "action_staged"
          [("action_type", .str actionType), ("amount_minor", .str amountMinor),
            ("currency", .str currency),
            ("note", .str "staged for human application; this system does not write to a ledger")])
        with
    | .error failure => pure (.failed failure)
    | .ok staged => pure (.staged staged)

/-! ## Any number of calls -/

inductive Operation
  | startInvestigation (aiInvestigationEnabled : Bool) (ctx : RequestContext) (caseId : CaseId)
      (expectedVersion : Int)
  | runAiInvestigation (ctx : RequestContext) (input : AiInvestigationInput)
  | escalateCase (ctx : RequestContext) (caseId : CaseId) (expectedVersion : Int)
      (reason : String)
  | requestEvidence (ctx : RequestContext) (caseId : CaseId) (expectedVersion : Int)
      (detail : String) (expiryDays : Int)
  | reopenForInvestigation (ctx : RequestContext) (caseId : CaseId) (expectedVersion : Int)
  | approveProposal (ctx : RequestContext) (caseId : CaseId) (expectedVersion : Int)
      (note : String)
  | rejectProposal (ctx : RequestContext) (caseId : CaseId) (expectedVersion : Int)
      (reason : String)
  | stageApprovedAction (ctx : RequestContext) (caseId : CaseId) (expectedVersion : Int)
      (actionType amountMinor currency : String)
  deriving DecidableEq, Repr

/-- The user on whose behalf an operation runs. -/
def Operation.ctx : Operation → RequestContext
  | startInvestigation _ ctx _ _ => ctx
  | runAiInvestigation ctx _ => ctx
  | escalateCase ctx _ _ _ => ctx
  | requestEvidence ctx _ _ _ _ => ctx
  | reopenForInvestigation ctx _ _ => ctx
  | approveProposal ctx _ _ _ => ctx
  | rejectProposal ctx _ _ _ => ctx
  | stageApprovedAction ctx _ _ _ _ _ => ctx

def Operation.program : Operation → CaseProgram OperationResult
  | startInvestigation aiInvestigationEnabled ctx caseId expectedVersion =>
      SettlementOps.startInvestigation aiInvestigationEnabled ctx caseId expectedVersion
  | runAiInvestigation ctx input => SettlementOps.runAiInvestigation ctx input
  | escalateCase ctx caseId expectedVersion reason =>
      SettlementOps.escalateCase ctx caseId expectedVersion reason
  | requestEvidence ctx caseId expectedVersion detail expiryDays =>
      SettlementOps.requestEvidence ctx caseId expectedVersion detail expiryDays
  | reopenForInvestigation ctx caseId expectedVersion =>
      SettlementOps.reopenForInvestigation ctx caseId expectedVersion
  | approveProposal ctx caseId expectedVersion note =>
      SettlementOps.approveProposal ctx caseId expectedVersion note
  | rejectProposal ctx caseId expectedVersion reason =>
      SettlementOps.rejectProposal ctx caseId expectedVersion reason
  | stageApprovedAction ctx caseId expectedVersion actionType amountMinor currency =>
      SettlementOps.stageApprovedAction ctx caseId expectedVersion actionType amountMinor currency

/-- Any number of users' calls on one database. -/
def caseSystem :
    System Database Surroundings Statement Statement.Answer Operation OperationResult where
  exec := exec
  prog := Operation.program

end SettlementOps
