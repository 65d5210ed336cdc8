import Mathlib.Logic.Function.Basic
import SettlementOps.Agent.Gateway
import SettlementOps.Text.CodeUnits

/-!
# The bounded investigation loops

The agent decides what to look at; every exit that is not a proposal escalates.  The second
loop keeps an explicit record of what it has seen and answers a repeated request from it.

* `AgentBudget`, `LoopParams` — the budgets, and what a loop is run with.
* `Gathered`, `Gathered.called`, `escalate` — what both loops keep and return.
* `runInvestigation` — the first loop.
* `runInvestigationV2` — the second loop.
-/

namespace SettlementOps

open Interleave

structure AgentBudget where
  maxToolCalls : Nat
  maxSteps : Nat
  maxWallclockSeconds : Nat
  identicalToolCallLimit : Nat
  deriving DecidableEq, Repr

structure LoopParams where
  ctx : ToolContext
  briefing : String
  budget : AgentBudget
  deriving DecidableEq, Repr

/-- What a loop returns: beyond what the workflow reads, the steps it took and whether the
model reported an injection. -/
structure AgentResult extends InvestigationResult where
  stepCount : Nat
  injectionDetected : Bool
  deriving DecidableEq, Repr

/-- Add to a set kept in insertion order. -/
def addNew (ids : List String) (id : String) : List String :=
  if id ∈ ids then ids else ids ++ [id]

/-- What both loops keep count of. -/
structure Gathered where
  toolCalls : Nat
  steps : Nat
  evidence : List String
  trace : List AgentTrace
  deriving DecidableEq, Repr

namespace Gathered

def empty : Gathered := ⟨0, 0, [], []⟩

/-- A tool was executed at a step. -/
def called (g : Gathered) (step : Nat) (tool : ToolName) (result : ToolResult) : Gathered where
  toolCalls := g.toolCalls + 1
  steps := g.steps
  evidence := result.recordIds.foldl addNew g.evidence
  trace := g.trace ++ [⟨step, "TOOL_CALL", some tool.code, result.summary⟩]

def noted (g : Gathered) (action : String) (tool : Option String) (summary : String) :
    Gathered :=
  { g with trace := g.trace ++ [⟨g.steps, action, tool, summary⟩] }

end Gathered

def escalate (stopReason : StopReason) (rationale : String) (g : Gathered) : AgentResult where
  proposedCause := none
  proposedDisposition := .escalate
  rationale := rationale
  evidenceRecordIds := g.evidence
  toolCallCount := g.toolCalls
  stepCount := g.steps
  stopReason := stopReason
  trace := g.trace
  injectionDetected := false

/-- A proposal within the closed sets. -/
def propose (cause : CauseCode) (disposition : Disposition) (conclusion reasoning : String)
    (injectionDetected : Option Bool) (g : Gathered) : AgentResult where
  proposedCause := some cause
  proposedDisposition := disposition
  rationale := Text.slice reasoning 400
  evidenceRecordIds := g.evidence
  toolCallCount := g.toolCalls
  stepCount := g.steps
  stopReason := .proposalMade
  trace := g.trace ++ [⟨g.steps + 1, "PROPOSAL", none, cause.code ++ " / " ++ conclusion⟩]
  injectionDetected := injectionDetected == some true

/-- The two opening calls: an investigation reads the case before it concludes. -/
def OPENERS : List ToolName := [.getSettlementBreakup, .calculateExpectedNetAmount]

/-- The time budget is used up. -/
def overTime (p : LoopParams) (startedAt now : Date) : Bool :=
  (p.budget.maxWallclockSeconds : Int) * 1000 < now.getTime - startedAt.getTime

/-- `Tool calls used: n/max`. -/
def callsUsed (p : LoopParams) (g : Gathered) : String :=
  toString g.toolCalls ++ "/" ++ toString p.budget.maxToolCalls

def REJECTED_TOOL_OBSERVATION : String :=
  "Requested tool is not available. Choose from the allowed list."

/-! ## The first loop -/

structure LoopState extends Gathered where
  seenCalls : ToolName → Nat
  observations : List String

namespace LoopState

def empty : LoopState := ⟨.empty, fun _ => 0, []⟩

/-- An executed tool, seen once more or, as an opener, once. -/
def called (s : LoopState) (step : Nat) (tool : ToolName) (seen : Nat) (result : ToolResult) :
    LoopState where
  toGathered := s.toGathered.called step tool result
  seenCalls := Function.update s.seenCalls tool seen
  observations := s.observations ++ [tool.code ++ ": " ++ result.summary]

end LoopState

def runOpener (p : LoopParams) (s : LoopState) (opener : ToolName) : AgentProgram LoopState := do
  let result ← ask (.invoke p.ctx opener)
  pure (s.called 0 opener 1 result)

def stepPrompt (p : LoopParams) (s : LoopState) : String :=
  p.briefing ++ "\n\nEvidence so far:\n" ++
    (if s.observations.isEmpty then "No evidence gathered yet."
      else "\n".intercalate s.observations) ++
    "\n\nTool calls used: " ++ callsUsed p s.toGathered ++ ".\nDecide the next action."

def proposalPrompt (p : LoopParams) (s : LoopState) : String :=
  p.briefing ++ "\n\nEvidence gathered:\n" ++ "\n".intercalate s.observations ++
    "\n\nPropose a cause and a disposition. Resolve ONLY if the evidence above proves it."

/-- The `while` loop with the steps that remain: it stops the investigation, or breaks off
with what was gathered. -/
def investigate (system : SystemPrompt) (p : LoopParams) (startedAt : Date) :
    Nat → LoopState → AgentProgram (Except AgentResult LoopState)
  | 0, s => pure (.ok s)
  | remaining + 1, s => do
      let now ← ask .now
      if overTime p startedAt now then
        pure (.error (escalate .wallclockExceeded "investigation exceeded its time budget"
          s.toGathered))
      else
        let s := { s with steps := s.steps + 1 }
        match ← ask (.chatStep system (stepPrompt p s)) with
        | .failed failure detail =>
            pure (.error (escalate failure.stopReason ("model failure: " ++ detail) s.toGathered))
        | .ok value =>
            if value.action = "CONCLUDE" ∨ p.budget.maxToolCalls ≤ s.toolCalls then pure (.ok s)
            else
              match value.tool.bind isToolName with
              | none =>
                  -- a tool outside the allowlist is no error to negotiate over
                  investigate system p startedAt remaining
                    { s with
                      toGathered := s.toGathered.noted "REJECTED_TOOL" none
                        (value.tool.getD "undefined")
                      observations := s.observations ++ [REJECTED_TOOL_OBSERVATION] }
              | some tool =>
                  if p.budget.identicalToolCallLimit < s.seenCalls tool then
                    pure (.error (escalate .repeatedToolCall
                      ("repeated " ++ tool.code ++ " without new information") s.toGathered))
                  else do
                    let result ← ask (.invoke p.ctx tool)
                    investigate system p startedAt remaining
                      (s.called s.steps tool (s.seenCalls tool + 1) result)

/-- The final proposal. -/
def concludeInvestigation (system : SystemPrompt) (p : LoopParams) (s : LoopState) :
    AgentProgram AgentResult := do
  if s.toolCalls = 0 then pure (escalate .noProgress "no evidence was gathered" s.toGathered)
  else
    match ← ask (.chatProposal system (proposalPrompt p s)) with
    | .failed failure detail =>
        pure (escalate failure.stopReason ("model failure: " ++ detail) s.toGathered)
    | .ok value =>
        match isCauseCode value.cause, isDisposition value.disposition with
        | some cause, some disposition =>
            pure (propose cause disposition value.disposition value.reasoning
              value.injectionDetected s.toGathered)
        | _, _ =>
            pure (escalate .modelSchemaViolation "proposal used a value outside the closed set"
              s.toGathered)

def runInvestigation (system : SystemPrompt) (p : LoopParams) : AgentProgram AgentResult := do
  let startedAt ← ask .now
  let s ← OPENERS.foldlM (runOpener p) LoopState.empty
  match ← investigate system p startedAt p.budget.maxSteps s with
  | .error result => pure result
  | .ok s => concludeInvestigation system p s

/-! ## The second loop -/

/-- Everything else the model may reach for. -/
def REMAINING : List ToolName :=
  [.getFeeTaxLines, .getBankCredit, .getRefunds, .searchRelatedAdjustments, .getFeeSchedule,
    .validateTaxLineMapping]

/-- The observations in the order of their tools' first calls. -/
structure LoopStateV2 extends Gathered where
  observed : List (ToolName × String)

namespace LoopStateV2

def empty : LoopStateV2 := ⟨.empty, []⟩

def observation (s : LoopStateV2) (tool : ToolName) : Option String :=
  (s.observed.find? fun o => o.1 = tool).map (·.2)

/-- A tool was executed; a tool that is there keeps its place. -/
def called (s : LoopStateV2) (tool : ToolName) (result : ToolResult) : LoopStateV2 where
  toGathered := s.toGathered.called s.steps tool result
  observed :=
    if s.observed.any fun o => o.1 = tool then
      s.observed.map fun o => if o.1 = tool then (tool, result.summary) else o
    else s.observed ++ [(tool, result.summary)]

def gatheredText (s : LoopStateV2) : String :=
  "\n".intercalate (s.observed.map fun o => o.1.code ++ ": " ++ o.2)

end LoopStateV2

def invokeV2 (p : LoopParams) (s : LoopStateV2) (name : ToolName) :
    AgentProgram LoopStateV2 := do
  let result ← ask (.invoke p.ctx name)
  pure (s.called name result)

def stepPromptV2 (p : LoopParams) (s : LoopStateV2) : String :=
  let notYet := REMAINING.filter fun tool => (s.observation tool).isNone
  p.briefing ++ "\n\nEvidence gathered:\n" ++ s.gatheredText ++ "\n\nNot yet retrieved: " ++
    (if notYet.isEmpty then "nothing - you have everything"
      else ", ".intercalate (notYet.map (·.code))) ++
    "\nTool calls used " ++ callsUsed p s.toGathered ++
    ".\nCall another tool, or CONCLUDE if the evidence already settles the case."

def proposalPromptV2 (p : LoopParams) (s : LoopStateV2) : String :=
  p.briefing ++ "\n\nEvidence gathered:\n" ++ s.gatheredText ++
    "\n\nState your conclusion. Choose RESOLVE_SUPPORTED only if the evidence above " ++
    "proves the cause you name."

def investigateV2 (p : LoopParams) (startedAt : Date) :
    Nat → LoopStateV2 → AgentProgram (Except AgentResult LoopStateV2)
  | 0, s => pure (.ok s)
  | remaining + 1, s => do
      if p.budget.maxToolCalls ≤ s.toolCalls then pure (.ok s)
      else
        let now ← ask .now
        if overTime p startedAt now then
          pure (.error (escalate .wallclockExceeded "investigation exceeded its time budget"
            s.toGathered))
        else
          let s := { s with steps := s.steps + 1 }
          match ← ask (.chatStep .loopV2 (stepPromptV2 p s)) with
          | .failed failure detail =>
              pure (.error (escalate failure.stopReason ("model failure: " ++ detail)
                s.toGathered))
          | .ok value =>
              if value.action = "CONCLUDE" then pure (.ok s)
              else
                match value.tool.bind isToolName with
                | none =>
                    investigateV2 p startedAt remaining
                      { s with
                        toGathered := s.toGathered.noted "REJECTED_TOOL" none
                          (value.tool.getD "undefined") }
                | some tool =>
                    match s.observation tool with
                    | some summary =>
                        -- a repeat costs a step and no call
                        investigateV2 p startedAt remaining
                          { s with
                            toGathered := s.toGathered.noted "REPEAT_SERVED_FROM_CACHE"
                              (some tool.code) summary }
                    | none => do
                        let s ← invokeV2 p s tool
                        investigateV2 p startedAt remaining s

/-- The disposition a conclusion of the second loop stands for. -/
def dispositionOf (conclusion : String) : Disposition :=
  if conclusion = "RESOLVE_SUPPORTED" then .resolve
  else if conclusion = "REQUEST_EVIDENCE" then .requestEvidence
  else .escalate

def concludeInvestigationV2 (p : LoopParams) (s : LoopStateV2) : AgentProgram AgentResult := do
  if s.toolCalls = 0 then pure (escalate .noProgress "no evidence was gathered" s.toGathered)
  else
    match ← ask (.chatProposalV2 .loopV2 (proposalPromptV2 p s)) with
    | .failed failure detail =>
        pure (escalate failure.stopReason ("model failure: " ++ detail) s.toGathered)
    | .ok value =>
        match isCauseCode value.cause with
        | some cause =>
            pure (propose cause (dispositionOf value.conclusion) value.conclusion
              value.reasoning value.injectionDetected s.toGathered)
        | none =>
            pure (escalate .modelSchemaViolation "proposal used a cause outside the closed set"
              s.toGathered)

def runInvestigationV2 (p : LoopParams) : AgentProgram AgentResult := do
  let startedAt ← ask .now
  let s ← OPENERS.foldlM (invokeV2 p) LoopStateV2.empty
  match ← investigateV2 p startedAt p.budget.maxSteps s with
  | .error result => pure result
  | .ok s => concludeInvestigationV2 p s

end SettlementOps
