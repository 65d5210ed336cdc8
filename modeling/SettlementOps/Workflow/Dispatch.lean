import SettlementOps.Store.UnitLoader
import SettlementOps.Workflow.Operations

/-!
# The dispatch of the agent

The API loads the payment's unit and runs the agent on it; what it reports is a kind and a
detail.  A payment without a unit is reported as an escalation, and nothing else happens.

* `dispatchAgent` — the edge around `runAiInvestigation`.
* `WorkflowCall`, `workflowSystem` — any number of calls to it and to the case operations.
* `AgentRun`, `WorkflowCall.agentRun` — the case and the investigation a call runs the agent
  for.
-/

namespace SettlementOps

open Interleave

inductive AgentOutcomeKind
  | proposed
  | escalated
  | failed
  deriving DecidableEq, Repr

structure AgentOutcome where
  kind : AgentOutcomeKind
  detail : String
  deriving DecidableEq, Repr

structure DispatchInput where
  caseId : CaseId
  investigationId : String
  paymentId : PaymentId
  expectedVersion : Int
  deriving DecidableEq, Repr

/-- What the agent is run with, once the unit is loaded. -/
def DispatchInput.investigation (input : DispatchInput) (unit : ReconciliationUnit) :
    AiInvestigationInput where
  caseId := input.caseId
  investigationId := input.investigationId
  paymentId := input.paymentId
  unit := unit
  expectedVersion := input.expectedVersion

/-- The result of a run of the agent as the API reports it. -/
def OperationResult.agentOutcome : OperationResult → AgentOutcome
  | .proposed cause disposition => ⟨.proposed, cause.code ++ " / " ++ disposition.code⟩
  | .escalated reason => ⟨.escalated, reason⟩
  | _ => ⟨.failed, "transition failed"⟩

/-- `records` are the record tables as the call finds them; the workflow does not write
them. -/
def dispatchAgent (records : RecordStore) (ctx : RequestContext) (input : DispatchInput) :
    CaseProgram AgentOutcome := do
  match loadUnit records (scopeOf ctx) input.paymentId with
  | none => pure ⟨.escalated, "the case has no loadable payment unit"⟩
  | some unit => do
      let result ← runAiInvestigation ctx (input.investigation unit)
      pure result.agentOutcome

/-! ## Any number of calls -/

inductive WorkflowCall
  | operation (operation : Operation)
  | dispatchAgent (records : RecordStore) (ctx : RequestContext) (input : DispatchInput)

inductive WorkflowResult
  | operation (result : OperationResult)
  | agent (outcome : AgentOutcome)
  deriving DecidableEq, Repr

def WorkflowCall.program : WorkflowCall → CaseProgram WorkflowResult
  | operation ℓ => do
      let result ← ℓ.program
      pure (.operation result)
  | dispatchAgent records ctx input => do
      let outcome ← SettlementOps.dispatchAgent records ctx input
      pure (.agent outcome)

/-- Users' calls to the case operations and dispatches of the agent, on one database. -/
def workflowSystem :
    System Database Surroundings Statement Statement.Answer WorkflowCall WorkflowResult where
  exec := exec
  prog := WorkflowCall.program

/-- What a call runs the agent for. -/
structure AgentRun where
  scope : MerchantScope
  caseId : CaseId
  investigationId : String
  expectedVersion : Int
  deriving DecidableEq, Repr

def AiInvestigationInput.agentRun (input : AiInvestigationInput) (ctx : RequestContext) :
    AgentRun :=
  ⟨scopeOf ctx, input.caseId, input.investigationId, input.expectedVersion⟩

def WorkflowCall.agentRun : WorkflowCall → Option AgentRun
  | operation (.runAiInvestigation ctx input) => some (input.agentRun ctx)
  | dispatchAgent _ ctx input =>
      some ⟨scopeOf ctx, input.caseId, input.investigationId, input.expectedVersion⟩
  | _ => none

/-- The kind a call reports. -/
def WorkflowResult.kind : WorkflowResult → AgentOutcomeKind
  | operation result => result.agentOutcome.kind
  | agent outcome => outcome.kind

end SettlementOps
