import SettlementOps.Agent.InvestigationLoop

/-!
# What an investigation may do

Whatever the model replies and the tools return, both loops stay within their budgets, report
what they executed, and escalate whenever the model fails, repeats itself or leaves the closed
sets.

* `LoopSafe` — what is said of a run and its result.
* `Counted` — the invariant of both loops: the counters count the run.
* `safe_escalate`, `safe_propose` — the two ways a run ends.
* `investigation_safe` — the result, for both loops.
-/

namespace SettlementOps

open Interleave

/-! ## The property -/

/-- The result of an investigation that proposes nothing. -/
def IsEscalation (result : AgentResult) : Prop :=
  result.proposedCause = none ∧ result.proposedDisposition = .escalate

/-- The run `events` with this result is within `budget`, executed each tool at most `perTool`
times, and every proposal outside the closed sets came to nothing. -/
structure LoopSafe (budget : AgentBudget) (perTool : Nat) (closed : List String)
    (result : AgentResult) (events : List AgentEvent) : Prop where
  calls_le : (toolCalls events).length ≤ max 2 budget.maxToolCalls
  steps_le : events.countP isStep ≤ budget.maxSteps
  modelCalls_le : events.countP isModelCall ≤ budget.maxSteps + 1
  tool_le : ∀ tool, callsOf tool events ≤ perTool
  opened : ∀ tool ∈ OPENERS, 1 ≤ callsOf tool events
  reported : result.toolCallCount = (toolCalls events).length
  stepsReported : result.stepCount = events.countP isStep
  nodup : result.evidenceRecordIds.Nodup
  evidence : ∀ id, id ∈ result.evidenceRecordIds ↔
    ∃ call ∈ toolCalls events, id ∈ call.2.recordIds
  failure : (∃ e ∈ events, modelFailed e = true) → IsEscalation result
  repetition : result.stopReason = .repeatedToolCall → IsEscalation result
  cause : ∀ e ∈ events, ∀ reply ∈ proposedReply e, isCauseCode reply.1 = none →
    IsEscalation result
  disposition : ∀ e ∈ events, ∀ reply ∈ proposedReply e, reply.2 ∉ closed →
    result.proposedDisposition ≠ .resolve

/-! ## The evidence -/

theorem mem_foldl_addNew {ids : List String} :
    ∀ {evidence : List String} {id : String},
      id ∈ ids.foldl addNew evidence ↔ id ∈ evidence ∨ id ∈ ids := by
  induction ids with
  | nil => simp
  | cons x ids ih =>
      intro evidence id
      rw [List.foldl_cons, ih]
      unfold addNew
      split
      · rename_i hx
        constructor
        · rintro (h | h)
          · exact .inl h
          · exact .inr (List.mem_cons_of_mem _ h)
        · rintro (h | h)
          · exact .inl h
          · rcases List.mem_cons.1 h with rfl | h
            · exact .inl hx
            · exact .inr h
      · simp only [List.mem_append, List.mem_cons]
        tauto

theorem nodup_foldl_addNew {ids : List String} :
    ∀ {evidence : List String}, evidence.Nodup → (ids.foldl addNew evidence).Nodup := by
  induction ids with
  | nil =>
      intro evidence h
      exact h
  | cons x ids ih =>
      intro evidence h
      rw [List.foldl_cons]
      apply ih
      unfold addNew
      split
      · exact h
      · rename_i hx
        exact List.nodup_append.2 ⟨h, by simp, by
          intro a ha b hb
          rw [List.mem_singleton] at hb
          rw [hb]
          rintro rfl
          exact hx ha⟩

/-! ## The invariant -/

/-- The counters count the run so far, which is within the budget, and the model has neither
failed nor proposed. -/
structure Counted (budget : AgentBudget) (perTool : Nat) (g : Gathered)
    (events : List AgentEvent) : Prop where
  toolCalls_eq : g.toolCalls = (toolCalls events).length
  steps_eq : g.steps = events.countP isStep
  modelCalls_eq : events.countP isModelCall = events.countP isStep
  nodup : g.evidence.Nodup
  evidence : ∀ id, id ∈ g.evidence ↔ ∃ call ∈ toolCalls events, id ∈ call.2.recordIds
  calls_le : g.toolCalls ≤ max 2 budget.maxToolCalls
  steps_le : g.steps ≤ budget.maxSteps
  tool_le : ∀ tool, callsOf tool events ≤ perTool
  opened : ∀ tool ∈ OPENERS, 1 ≤ callsOf tool events
  noFailure : ∀ e ∈ events, modelFailed e = false
  noReply : ∀ e ∈ events, proposedReply e = none

section Counted

variable {budget : AgentBudget} {perTool : Nat} {g : Gathered} {events : List AgentEvent}

/-- Neither a tool nor the model. -/
theorem Counted.now (h : Counted budget perTool g events) (time : Date) :
    Counted budget perTool g (events ++ [⟨.now, time⟩]) where
  toolCalls_eq := by simpa [invoked] using h.toolCalls_eq
  steps_eq := by simpa [isStep] using h.steps_eq
  modelCalls_eq := by simpa [isStep, isModelCall] using h.modelCalls_eq
  nodup := h.nodup
  evidence := by simpa [invoked] using h.evidence
  calls_le := h.calls_le
  steps_le := h.steps_le
  tool_le := by simpa [invoked] using h.tool_le
  opened := by simpa [invoked] using h.opened
  noFailure := List.forall_mem_append.2 ⟨h.noFailure, List.forall_mem_singleton.2 rfl⟩
  noReply := List.forall_mem_append.2 ⟨h.noReply, List.forall_mem_singleton.2 rfl⟩

/-- A note in the trace counts for nothing. -/
theorem Counted.noted (h : Counted budget perTool g events) (action : String)
    (tool : Option String) (summary : String) :
    Counted budget perTool (g.noted action tool summary) events :=
  { h with }

/-- One more step, whose reply came. -/
theorem Counted.asked (h : Counted budget perTool g events) (hbelow : g.steps < budget.maxSteps)
    (system : SystemPrompt) (user : String) (value : StepDecision) :
    Counted budget perTool { g with steps := g.steps + 1 }
      (events ++ [⟨.chatStep system user, .ok value⟩]) where
  toolCalls_eq := by simpa [invoked] using h.toolCalls_eq
  steps_eq := by simp [isStep, h.steps_eq]
  modelCalls_eq := by simp [isStep, isModelCall, h.modelCalls_eq]
  nodup := h.nodup
  evidence := by simpa [invoked] using h.evidence
  calls_le := h.calls_le
  steps_le := hbelow
  tool_le := by simpa [invoked] using h.tool_le
  opened := by simpa [invoked] using h.opened
  noFailure := List.forall_mem_append.2 ⟨h.noFailure, List.forall_mem_singleton.2 rfl⟩
  noReply := List.forall_mem_append.2 ⟨h.noReply, List.forall_mem_singleton.2 rfl⟩

/-- One more tool call, within the budget. -/
theorem Counted.called (h : Counted budget perTool g events)
    (hbelow : g.toolCalls < budget.maxToolCalls) {tool : ToolName}
    (htool : callsOf tool events < perTool) (step : Nat) (ctx : ToolContext)
    (result : ToolResult) :
    Counted budget perTool (g.called step tool result)
      (events ++ [⟨.invoke ctx tool, result⟩]) where
  toolCalls_eq := by simp [invoked, Gathered.called, h.toolCalls_eq]
  steps_eq := by simpa [isStep, Gathered.called] using h.steps_eq
  modelCalls_eq := by simpa [isStep, isModelCall] using h.modelCalls_eq
  nodup := nodup_foldl_addNew h.nodup
  evidence := by
    intro id
    simp only [Gathered.called, mem_foldl_addNew, h.evidence, toolCalls_concat, invoked,
      Option.toList_some, List.mem_append, List.mem_singleton]
    constructor
    · rintro (⟨call, hcall, hid⟩ | hid)
      · exact ⟨call, .inl hcall, hid⟩
      · exact ⟨_, .inr rfl, hid⟩
    · rintro ⟨call, hcall | rfl, hid⟩
      · exact .inl ⟨call, hcall, hid⟩
      · exact .inr hid
  calls_le := by
    have hle : g.toolCalls + 1 ≤ budget.maxToolCalls := hbelow
    exact hle.trans (le_max_right _ _)
  steps_le := h.steps_le
  tool_le := by
    intro other
    have hother := h.tool_le other
    rw [callsOf_concat]
    by_cases heq : tool = other
    · subst heq
      simp only [invoked, Option.any_some, decide_true, if_true]
      omega
    · simpa [invoked, heq] using hother
  opened := by
    intro opener hopener
    rw [callsOf_concat]
    exact Nat.le_add_right_of_le (h.opened opener hopener)
  noFailure := List.forall_mem_append.2 ⟨h.noFailure, List.forall_mem_singleton.2 rfl⟩
  noReply := List.forall_mem_append.2 ⟨h.noReply, List.forall_mem_singleton.2 rfl⟩

end Counted

/-! ## How a run ends -/

section Ends

variable {budget : AgentBudget} {perTool : Nat} {closed : List String} {g : Gathered}
  {events : List AgentEvent}

/-- The run stops, at once or after one more question to the model. -/
theorem safe_escalate (h : Counted budget perTool g events) {steps : Nat}
    (last : List AgentEvent) (hcalls : toolCalls (events ++ last) = toolCalls events)
    (hsteps : (events ++ last).countP isStep = steps) (hle : steps ≤ budget.maxSteps)
    (hmodel : last.countP isModelCall ≤ 1) (stopReason : StopReason) (rationale : String) :
    LoopSafe budget perTool closed
      (escalate stopReason rationale { g with steps := steps }) (events ++ last) where
  calls_le := by
    rw [hcalls, ← h.toolCalls_eq]
    exact h.calls_le
  steps_le := by
    rw [hsteps]
    exact hle
  modelCalls_le := by
    have hbefore := h.steps_le
    rw [List.countP_append, h.modelCalls_eq, ← h.steps_eq]
    omega
  tool_le := by
    intro tool
    unfold callsOf
    rw [hcalls]
    exact h.tool_le tool
  opened := by
    intro tool htool
    unfold callsOf
    rw [hcalls]
    exact h.opened tool htool
  reported := by
    rw [hcalls]
    exact h.toolCalls_eq
  stepsReported := hsteps.symm
  nodup := h.nodup
  evidence := by
    rw [hcalls]
    exact h.evidence
  failure _ := ⟨rfl, rfl⟩
  repetition _ := ⟨rfl, rfl⟩
  cause _ _ _ _ _ := ⟨rfl, rfl⟩
  disposition _ _ _ _ _ := by simp [escalate]

/-- The run stops where it stands. -/
theorem Counted.safe (h : Counted budget perTool g events) (stopReason : StopReason)
    (rationale : String) :
    LoopSafe budget perTool closed (escalate stopReason rationale g) events := by
  have hsafe : LoopSafe budget perTool closed (escalate stopReason rationale g) (events ++ []) :=
    safe_escalate h [] (by simp) (by simpa using h.steps_eq.symm) h.steps_le (by simp) stopReason
      rationale
  rw [List.append_nil] at hsafe
  exact hsafe

/-- The run stops at a step whose question the model failed. -/
theorem Counted.failedStep (h : Counted budget perTool g events)
    (hsteps : g.steps + 1 ≤ budget.maxSteps) {e : AgentEvent} (hcalls : invoked e = none)
    (hstep : isStep e = true) (stopReason : StopReason) (rationale : String) :
    LoopSafe budget perTool closed
      (escalate stopReason rationale { g with steps := g.steps + 1 }) (events ++ [e]) := by
  refine safe_escalate h [e] ?_ ?_ hsteps ?_ stopReason rationale
  · rw [toolCalls_concat, hcalls]
    exact List.append_nil _
  · rw [List.countP_append, ← h.steps_eq]
    simp [hstep]
  · exact List.countP_le_length

/-- The run stops at its last question, the one for a proposal. -/
theorem Counted.unproposed (h : Counted budget perTool g events) {e : AgentEvent}
    (hcalls : invoked e = none) (hstep : isStep e = false) (stopReason : StopReason)
    (rationale : String) :
    LoopSafe budget perTool closed (escalate stopReason rationale g) (events ++ [e]) := by
  refine safe_escalate h [e] ?_ ?_ h.steps_le ?_ stopReason rationale
  · rw [toolCalls_concat, hcalls]
    exact List.append_nil _
  · rw [List.countP_append, ← h.steps_eq]
    simp [hstep]
  · exact List.countP_le_length

/-- The run ends with a proposal whose cause is in its closed set. -/
theorem safe_propose (h : Counted budget perTool g events) {e : AgentEvent}
    {text conclusion : String} {cause : CauseCode} {disposition : Disposition}
    (hcalls : invoked e = none) (hstep : isStep e = false) (hok : modelFailed e = false)
    (hreply : proposedReply e = some (text, conclusion)) (hcause : isCauseCode text = some cause)
    (hclosed : disposition = .resolve → conclusion ∈ closed) (reasoning : String)
    (injectionDetected : Option Bool) :
    LoopSafe budget perTool closed
      (propose cause disposition conclusion reasoning injectionDetected g) (events ++ [e]) where
  calls_le := by
    rw [toolCalls_concat, hcalls, Option.toList_none, List.append_nil, ← h.toolCalls_eq]
    exact h.calls_le
  steps_le := by
    simpa [hstep, ← h.steps_eq] using h.steps_le
  modelCalls_le := by
    have hbefore := h.steps_le
    have hlast : [e].countP isModelCall ≤ [e].length := List.countP_le_length
    rw [List.length_singleton] at hlast
    rw [List.countP_append, h.modelCalls_eq, ← h.steps_eq]
    omega
  tool_le := by
    intro tool
    simpa [hcalls] using h.tool_le tool
  opened := by
    intro tool htool
    simpa [hcalls] using h.opened tool htool
  reported := by simpa [propose, hcalls] using h.toolCalls_eq
  stepsReported := by simpa [propose, hstep] using h.steps_eq
  nodup := h.nodup
  evidence := by simpa [propose, hcalls] using h.evidence
  failure := by
    rintro ⟨e', he', hfailed⟩
    have hall := List.forall_mem_append.2 ⟨h.noFailure, List.forall_mem_singleton.2 hok⟩
    rw [hall e' he'] at hfailed
    cases hfailed
  repetition hrepeated := by cases hrepeated
  cause := by
    intro e' he' reply hreply' hnone
    rcases List.mem_append.1 he' with he' | he'
    · rw [h.noReply e' he'] at hreply'
      cases hreply'
    · rw [List.mem_singleton] at he'
      rw [he', hreply, Option.mem_some_iff] at hreply'
      rw [← hreply', hcause] at hnone
      cases hnone
  disposition := by
    intro e' he' reply hreply' hnot hresolve
    rcases List.mem_append.1 he' with he' | he'
    · rw [h.noReply e' he'] at hreply'
      cases hreply'
    · rw [List.mem_singleton] at he'
      rw [he', hreply, Option.mem_some_iff] at hreply'
      rw [← hreply'] at hnot
      exact hnot (hclosed hresolve)

/-- The events of the openers. -/
def openingEvents (time : Date) (ctx : ToolContext) (breakup net : ToolResult) :
    List AgentEvent :=
  [⟨.now, time⟩, ⟨.invoke ctx .getSettlementBreakup, breakup⟩,
    ⟨.invoke ctx .calculateExpectedNetAmount, net⟩]

@[simp] theorem toolCalls_openingEvents (time : Date) (ctx : ToolContext)
    (breakup net : ToolResult) : toolCalls (openingEvents time ctx breakup net) =
      [(.getSettlementBreakup, breakup), (.calculateExpectedNetAmount, net)] := rfl

theorem callsOf_openingEvents (time : Date) (ctx : ToolContext) (breakup net : ToolResult)
    (tool : ToolName) : callsOf tool (openingEvents time ctx breakup net) =
      if tool ∈ OPENERS then 1 else 0 := by
  unfold callsOf
  rw [toolCalls_openingEvents]
  cases tool <;> rfl

theorem counted_opened (hper : 1 ≤ perTool) (time : Date) (ctx : ToolContext)
    (breakup net : ToolResult) :
    Counted budget perTool
      ((Gathered.empty.called 0 .getSettlementBreakup breakup).called 0
        .calculateExpectedNetAmount net)
      (openingEvents time ctx breakup net) where
  toolCalls_eq := rfl
  steps_eq := rfl
  modelCalls_eq := rfl
  nodup := nodup_foldl_addNew (nodup_foldl_addNew List.nodup_nil)
  evidence := by
    intro id
    simp [Gathered.called, Gathered.empty, mem_foldl_addNew]
  calls_le := le_max_left _ _
  steps_le := Nat.zero_le _
  tool_le := by
    intro tool
    rw [callsOf_openingEvents]
    split
    · exact hper
    · exact Nat.zero_le _
  opened := by
    intro tool htool
    rw [callsOf_openingEvents, if_pos htool]
  noFailure := by
    simp [openingEvents, modelFailed]
  noReply := by
    simp [openingEvents, proposedReply]

end Ends

/-! ## The first loop -/

section First

variable {p : LoopParams} {system : SystemPrompt} {startedAt : Date}

/-- The first loop's bound on one tool. -/
def AgentBudget.perTool (budget : AgentBudget) : Nat := budget.identicalToolCallLimit + 1

/-- The strings of the closed disposition set. -/
def DISPOSITIONS : List String := allDispositions.map (·.code)

/-- The invariant of the first loop: what it has seen is what was executed. -/
structure Investigating (p : LoopParams) (s : LoopState) (events : List AgentEvent) : Prop where
  counted : Counted p.budget p.budget.perTool s.toGathered events
  seen : ∀ tool, s.seenCalls tool = callsOf tool events

/-- How the loop is left: with a safe result, or with the invariant. -/
def LeftSafely (p : LoopParams) (out : Except AgentResult LoopState)
    (events : List AgentEvent) : Prop :=
  match out with
  | .error result => LoopSafe p.budget p.budget.perTool DISPOSITIONS result events
  | .ok s => Investigating p s events

theorem investigating_opened (time : Date) (breakup net : ToolResult) :
    Investigating p
      ((LoopState.empty.called 0 .getSettlementBreakup 1 breakup).called 0
        .calculateExpectedNetAmount 1 net)
      (openingEvents time p.ctx breakup net) where
  counted := counted_opened (Nat.le_add_left 1 _) time p.ctx breakup net
  seen := by
    intro tool
    rw [callsOf_openingEvents]
    cases tool <;> rfl

theorem Investigating.called {s : LoopState} {events : List AgentEvent}
    (h : Investigating p s events) (hbelow : s.toolCalls < p.budget.maxToolCalls)
    {tool : ToolName} (hseen : s.seenCalls tool ≤ p.budget.identicalToolCallLimit) (step : Nat)
    (result : ToolResult) :
    Investigating p (s.called step tool (s.seenCalls tool + 1) result)
      (events ++ [⟨.invoke p.ctx tool, result⟩]) where
  counted := by
    refine h.counted.called hbelow ?_ step p.ctx result
    rw [← h.seen tool]
    exact Nat.lt_succ_of_le hseen
  seen := by
    intro other
    rw [callsOf_concat]
    by_cases heq : tool = other
    · subst heq
      simp [LoopState.called, invoked, h.seen]
    · simp [LoopState.called, invoked, heq, Function.update_of_ne (Ne.symm heq), h.seen]

/-- **The loop.**  The induction is on the steps that remain. -/
theorem wp_investigate (remaining : Nat) :
    ∀ {s : LoopState} {events : List AgentEvent}, Investigating p s events →
      s.steps + remaining ≤ p.budget.maxSteps →
      Wp recorded (LeftSafely p) (investigate system p startedAt remaining s) events := by
  induction remaining with
  | zero =>
      intro s events h _
      exact h
  | succ remaining ih =>
      intro s events h hsteps
      unfold investigate
      rintro time _ rfl
      have hnow := h.counted.now time
      dsimp only [Prog.bind_ret]
      split
      · exact hnow.safe _ _
      rintro reply _ rfl
      cases reply with
      | failed failure detail =>
          refine hnow.failedStep ?_ rfl rfl _ _
          show s.steps + 1 ≤ p.budget.maxSteps
          omega
      | ok value =>
          have hasked := hnow.asked (by omega) system (stepPrompt p { s with steps := s.steps + 1 })
            value
          have hseen : ∀ tool, s.seenCalls tool = callsOf tool (events ++ [⟨.now, time⟩] ++
              [⟨.chatStep system (stepPrompt p { s with steps := s.steps + 1 }), .ok value⟩]) := by
            intro tool
            rw [callsOf_concat, callsOf_concat]
            exact h.seen tool
          have hstate : Investigating p { s with steps := s.steps + 1 } _ := ⟨hasked, hseen⟩
          have hnext : s.steps + 1 + remaining ≤ p.budget.maxSteps := by omega
          dsimp only [Prog.bind_ret]
          split
          · exact hstate
          rename_i hgo
          split
          · exact ih ⟨hasked.noted _ _ _, hseen⟩ hnext
          · rename_i tool htool
            split
            · exact hasked.safe _ _
            · rename_i hlimit
              rintro result _ rfl
              refine ih (hstate.called ?_ ?_ _ result) hnext
              · show s.toolCalls < p.budget.maxToolCalls
                exact Nat.lt_of_not_le fun hle => hgo (.inr hle)
              · exact Nat.le_of_not_lt hlimit

/-- The final proposal of the first loop. -/
theorem wp_concludeInvestigation {s : LoopState} {events : List AgentEvent}
    (h : Investigating p s events) :
    Wp recorded (LoopSafe p.budget p.budget.perTool DISPOSITIONS)
      (concludeInvestigation system p s) events := by
  unfold concludeInvestigation
  split
  · exact h.counted.safe _ _
  rintro reply _ rfl
  cases reply with
  | failed failure detail => exact h.counted.unproposed rfl rfl _ _
  | ok value =>
      dsimp only [Prog.bind_ret]
      split
      · rename_i cause disposition hcause hdisposition
        refine safe_propose h.counted rfl rfl rfl rfl hcause ?_ _ _
        intro _
        have hmem := List.mem_of_find?_eq_some hdisposition
        have hcode : disposition.code = value.disposition := by
          simpa using List.find?_some hdisposition
        rw [← hcode]
        exact List.mem_map.2 ⟨disposition, hmem, rfl⟩
      · exact h.counted.unproposed rfl rfl _ _

theorem wp_runInvestigation :
    Wp recorded (LoopSafe p.budget p.budget.perTool DISPOSITIONS) (runInvestigation system p)
      [] := by
  rintro time _ rfl breakup _ rfl net _ rfl
  refine wp_then (M := LeftSafely p) ?_ ?_
  · apply wp_investigate p.budget.maxSteps (investigating_opened time breakup net)
    exact le_of_eq (Nat.zero_add _)
  · intro out events hout
    cases out with
    | error result => exact hout
    | ok s => exact wp_concludeInvestigation hout

end First

/-! ## The second loop -/

section Second

variable {p : LoopParams} {startedAt : Date}

/-- The conclusions of the second loop. -/
def CONCLUSIONS : List String := ["RESOLVE_SUPPORTED", "REQUEST_EVIDENCE", "ESCALATE"]

/-- A first observation of a tool leaves those of the others. -/
theorem observation_called {s : LoopStateV2} {tool : ToolName}
    (hnew : s.observation tool = none) (result : ToolResult) (other : ToolName) :
    (s.called tool result).observation other =
      if tool = other then some result.summary else s.observation other := by
  have hnone : s.observed.find? (fun o => o.1 = tool) = none := by
    simpa [LoopStateV2.observation] using hnew
  have hany : (s.observed.any fun o => o.1 = tool) = false := by
    simpa using hnone
  unfold LoopStateV2.called LoopStateV2.observation
  simp only [hany, Bool.false_eq_true, if_false, List.find?_append]
  by_cases heq : tool = other
  · subst heq
    simp [hnone]
  · simp [heq]

/-- The invariant of the second loop: what it has observed is what was executed, once. -/
structure InvestigatingV2 (p : LoopParams) (s : LoopStateV2) (events : List AgentEvent) :
    Prop where
  counted : Counted p.budget 1 s.toGathered events
  seen : ∀ tool, callsOf tool events = if (s.observation tool).isSome then 1 else 0

def LeftSafelyV2 (p : LoopParams) (out : Except AgentResult LoopStateV2)
    (events : List AgentEvent) : Prop :=
  match out with
  | .error result => LoopSafe p.budget 1 CONCLUSIONS result events
  | .ok s => InvestigatingV2 p s events

theorem investigatingV2_opened (time : Date) (breakup net : ToolResult) :
    InvestigatingV2 p
      ((LoopStateV2.empty.called .getSettlementBreakup breakup).called
        .calculateExpectedNetAmount net)
      (openingEvents time p.ctx breakup net) where
  counted := counted_opened le_rfl time p.ctx breakup net
  seen := by
    intro tool
    rw [callsOf_openingEvents]
    cases tool <;> rfl

theorem InvestigatingV2.called {s : LoopStateV2} {events : List AgentEvent}
    (h : InvestigatingV2 p s events) (hbelow : s.toolCalls < p.budget.maxToolCalls)
    {tool : ToolName} (hnew : s.observation tool = none) (result : ToolResult) :
    InvestigatingV2 p (s.called tool result) (events ++ [⟨.invoke p.ctx tool, result⟩]) where
  counted := by
    refine h.counted.called hbelow ?_ s.steps p.ctx result
    rw [h.seen tool, hnew]
    exact Nat.zero_lt_one
  seen := by
    intro other
    rw [callsOf_concat, observation_called hnew, h.seen other]
    by_cases heq : tool = other
    · subst heq
      simp [invoked, hnew]
    · simp [invoked, heq]

theorem wp_investigateV2 (remaining : Nat) :
    ∀ {s : LoopStateV2} {events : List AgentEvent}, InvestigatingV2 p s events →
      s.steps + remaining ≤ p.budget.maxSteps →
      Wp recorded (LeftSafelyV2 p) (investigateV2 p startedAt remaining s) events := by
  induction remaining with
  | zero =>
      intro s events h _
      exact h
  | succ remaining ih =>
      intro s events h hsteps
      unfold investigateV2
      split
      · exact h
      rename_i hcalls
      rintro time _ rfl
      have hnow := h.counted.now time
      dsimp only [Prog.bind_ret]
      split
      · exact hnow.safe _ _
      rintro reply _ rfl
      cases reply with
      | failed failure detail =>
          refine hnow.failedStep ?_ rfl rfl _ _
          show s.steps + 1 ≤ p.budget.maxSteps
          omega
      | ok value =>
          have hasked := hnow.asked (by omega) .loopV2
            (stepPromptV2 p { s with steps := s.steps + 1 }) value
          have hseen : ∀ tool, callsOf tool (events ++ [⟨.now, time⟩] ++
              [⟨.chatStep .loopV2 (stepPromptV2 p { s with steps := s.steps + 1 }), .ok value⟩]) =
              if (s.observation tool).isSome then 1 else 0 := by
            intro tool
            rw [callsOf_concat, callsOf_concat]
            exact h.seen tool
          have hstate : InvestigatingV2 p { s with steps := s.steps + 1 } _ := ⟨hasked, hseen⟩
          have hnext : s.steps + 1 + remaining ≤ p.budget.maxSteps := by omega
          dsimp only [Prog.bind_ret]
          split
          · exact hstate
          split
          · exact ih ⟨hasked.noted _ _ _, hseen⟩ hnext
          · rename_i tool htool
            split
            · exact ih ⟨hasked.noted _ _ _, hseen⟩ hnext
            · rename_i hnew
              rintro result _ rfl
              exact ih (hstate.called (Nat.lt_of_not_le hcalls) hnew result) hnext

theorem wp_concludeInvestigationV2 {s : LoopStateV2} {events : List AgentEvent}
    (h : InvestigatingV2 p s events) :
    Wp recorded (LoopSafe p.budget 1 CONCLUSIONS) (concludeInvestigationV2 p s) events := by
  unfold concludeInvestigationV2
  split
  · exact h.counted.safe _ _
  rintro reply _ rfl
  cases reply with
  | failed failure detail => exact h.counted.unproposed rfl rfl _ _
  | ok value =>
      dsimp only [Prog.bind_ret]
      split
      · rename_i cause hcause
        refine safe_propose h.counted rfl rfl rfl rfl hcause ?_ _ _
        intro hresolve
        unfold dispositionOf at hresolve
        split at hresolve
        · rename_i hconclusion
          rw [hconclusion]
          exact List.mem_cons_self
        · split at hresolve <;> cases hresolve
      · exact h.counted.unproposed rfl rfl _ _

theorem wp_runInvestigationV2 :
    Wp recorded (LoopSafe p.budget 1 CONCLUSIONS) (runInvestigationV2 p) [] := by
  rintro time _ rfl breakup _ rfl net _ rfl
  refine wp_then (M := LeftSafelyV2 p) ?_ ?_
  · apply wp_investigateV2 p.budget.maxSteps (investigatingV2_opened time breakup net)
    exact le_of_eq (Nat.zero_add _)
  · intro out events hout
    cases out with
    | error result => exact hout
    | ok s => exact wp_concludeInvestigationV2 hout

end Second

/-- **Loop safety.**  In every environment, both loops stay within the budgets, report the
tool calls they executed and exactly the evidence these returned, and escalate with no cause
on any failure of the model, repeated call or cause outside the closed set; nothing outside
the closed set of conclusions resolves.  The first loop executes a tool at most once more than
`identicalToolCallLimit`, the second at most once. -/
theorem investigation_safe (system : SystemPrompt) (p : LoopParams)
    (env : List AgentEvent → (a : AgentAction) → a.Answer) :
    LoopSafe p.budget (p.budget.identicalToolCallLimit + 1) DISPOSITIONS
        (play env (runInvestigation system p) []).1
        (play env (runInvestigation system p) []).2 ∧
      LoopSafe p.budget 1 CONCLUSIONS
        (play env (runInvestigationV2 p) []).1
        (play env (runInvestigationV2 p) []).2 :=
  ⟨Wp.play env _ wp_runInvestigation, Wp.play env _ wp_runInvestigationV2⟩

end SettlementOps
