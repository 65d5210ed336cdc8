import SettlementOps.Calendar
import SettlementOps.Interleave.Sequential
import SettlementOps.Tools.Contracts
import SettlementOps.Workflow.Database

/-!
# The model gateway and the tools, as the loops see them

Everything an investigation does is ask: the clock, a tool, or the model.  The model
answers with a value of the declared type, whose strings may be anything, or fails.

* `isToolName`, `isCauseCode`, `isDisposition` — the closed sets.
* `StepDecision`, `ProposalDecision`, `ProposalDecisionV2`, `ModelResponse` — the replies.
* `AgentAction`, `AgentProgram` — the programs of the loops.
-/

namespace SettlementOps

open Interleave

/-! ## The closed sets -/

def TOOL_NAMES : List ToolName :=
  [.getSettlementBreakup, .getFeeTaxLines, .getLedgerEntries, .getBankCredit,
    .searchRelatedAdjustments, .getRefunds, .getFeeSchedule, .calculateExpectedNetAmount,
    .validateTaxLineMapping]

def CAUSE_CODES : List CauseCode :=
  [.mdrFee, .utrSplit, .refundNetting, .timingLag, .roundingDrift, .ambiguous, .compound]

/-- The tool of a name, if the name is one. -/
def isToolName (value : String) : Option ToolName := TOOL_NAMES.find? fun t => t.code = value

def isCauseCode (value : String) : Option CauseCode := CAUSE_CODES.find? fun c => c.code = value

def isDisposition (value : String) : Option Disposition :=
  allDispositions.find? fun d => d.code = value

/-! ## Replies -/

inductive ModelFailure
  | modelUnavailable
  | modelTimeout
  | modelError
  | modelSchemaViolation
  | modelDigestMismatch
  deriving DecidableEq, Repr

/-- A failure of the model as the reason an investigation stops. -/
def ModelFailure.stopReason : ModelFailure → StopReason
  | .modelUnavailable => .modelUnavailable
  | .modelTimeout => .modelTimeout
  | .modelError => .modelError
  | .modelSchemaViolation => .modelSchemaViolation
  | .modelDigestMismatch => .modelDigestMismatch

inductive ModelResponse (T : Type)
  | ok (value : T)
  | failed (failure : ModelFailure) (detail : String)
  deriving DecidableEq, Repr

structure StepDecision where
  reasoning : String
  action : String
  tool : Option String
  hypotheses : List String
  deriving DecidableEq, Repr

structure ProposalDecision where
  reasoning : String
  cause : String
  disposition : String
  injectionDetected : Option Bool
  deriving DecidableEq, Repr

structure ProposalDecisionV2 where
  reasoning : String
  cause : String
  conclusion : String
  injectionDetected : Option Bool
  deriving DecidableEq, Repr

/-! ## Questions -/

/-- The system prompt a message is sent under: two variants for the first loop, and the
second loop's own. -/
inductive SystemPrompt
  | v1
  | v2
  | loopV2
  deriving DecidableEq, Repr

inductive AgentAction
  | now
  | invoke (ctx : ToolContext) (name : ToolName)
  | chatStep (system : SystemPrompt) (user : String)
  | chatProposal (system : SystemPrompt) (user : String)
  | chatProposalV2 (system : SystemPrompt) (user : String)
  deriving DecidableEq, Repr

abbrev AgentAction.Answer : AgentAction → Type
  | .now => Date
  | .invoke _ _ => ToolResult
  | .chatStep _ _ => ModelResponse StepDecision
  | .chatProposal _ _ => ModelResponse ProposalDecision
  | .chatProposalV2 _ _ => ModelResponse ProposalDecisionV2

abbrev AgentProgram := Prog AgentAction AgentAction.Answer

/-- Ask once. -/
def ask (a : AgentAction) : AgentProgram a.Answer := Prog.perform a

/-- A question with its answer. -/
abbrev AgentEvent := Event AgentAction AgentAction.Answer

/-! ## What happened in a run -/

/-- The executed tool and its result. -/
def invoked : AgentEvent → Option (ToolName × ToolResult)
  | ⟨.invoke _ name, result⟩ => some (name, result)
  | _ => none

/-- The tool calls of a run, in order. -/
def toolCalls (events : List AgentEvent) : List (ToolName × ToolResult) :=
  events.filterMap invoked

/-- How often a run executed a tool. -/
def callsOf (tool : ToolName) (events : List AgentEvent) : Nat :=
  (toolCalls events).countP fun call => call.1 = tool

def isStep : AgentEvent → Bool
  | ⟨.chatStep _ _, _⟩ => true
  | _ => false

/-- The model was asked. -/
def isModelCall : AgentEvent → Bool
  | ⟨.chatStep _ _, _⟩ => true
  | ⟨.chatProposal _ _, _⟩ => true
  | ⟨.chatProposalV2 _ _, _⟩ => true
  | _ => false

/-- The model was asked and failed. -/
def modelFailed : AgentEvent → Bool
  | ⟨.chatStep _ _, .failed _ _⟩ => true
  | ⟨.chatProposal _ _, .failed _ _⟩ => true
  | ⟨.chatProposalV2 _ _, .failed _ _⟩ => true
  | _ => false

/-- The cause and the conclusion a model proposed. -/
def proposedReply : AgentEvent → Option (String × String)
  | ⟨.chatProposal _ _, .ok value⟩ => some (value.cause, value.disposition)
  | ⟨.chatProposalV2 _ _, .ok value⟩ => some (value.cause, value.conclusion)
  | _ => none

@[simp] theorem toolCalls_nil : toolCalls [] = [] := rfl

@[simp] theorem toolCalls_concat (events : List AgentEvent) (e : AgentEvent) :
    toolCalls (events ++ [e]) = toolCalls events ++ (invoked e).toList := by
  cases h : invoked e with
  | none => simp [toolCalls, h]
  | some call => simp [toolCalls, h]

@[simp] theorem callsOf_concat (tool : ToolName) (events : List AgentEvent) (e : AgentEvent) :
    callsOf tool (events ++ [e]) =
      callsOf tool events + (if (invoked e).any (fun call => call.1 = tool) then 1 else 0) := by
  unfold callsOf
  rw [toolCalls_concat, List.countP_append]
  cases h : invoked e with
  | none => simp
  | some call => simp [List.countP_cons]

end SettlementOps
