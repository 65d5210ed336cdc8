import SettlementOps.Agent.LoopSafety

/-!
# An investigation whose budget ran out

The first loop is left for the proposal when the model concludes, and just the same when the
steps or the tool calls are used up.

* `LeftByBudget` — the loop was left because a budget was used up.
* `proposesClosed` — the model's reply to the question for a proposal is within the closed sets.
* `usedUp_of_not_concluded` — no third way leads to the proposal.
* `exhaustion_escalates_iff` — such a run escalates unless the model proposes.
-/

namespace SettlementOps

open Interleave

/-- The model chose to conclude. -/
def concludes : AgentEvent → Bool
  | ⟨.chatStep _ _, .ok value⟩ => value.action = "CONCLUDE"
  | _ => false

/-- The model was asked for its proposal. -/
def asksProposal : AgentEvent → Bool
  | ⟨.chatProposal _ _, _⟩ => true
  | ⟨.chatProposalV2 _ _, _⟩ => true
  | _ => false

/-- The model proposed a cause and a disposition of the closed sets. -/
def proposesClosed (e : AgentEvent) : Bool :=
  (proposedReply e).any fun reply =>
    (isCauseCode reply.1).isSome && (isDisposition reply.2).isSome

/-- No step or no tool call is left. -/
def UsedUp (budget : AgentBudget) (events : List AgentEvent) : Prop :=
  events.countP isStep = budget.maxSteps ∨ budget.maxToolCalls ≤ (toolCalls events).length

/-- The run left its loop for the proposal because a budget was used up, and not because the
model chose to conclude. -/
structure LeftByBudget (budget : AgentBudget) (events : List AgentEvent) : Prop where
  left : ∃ e ∈ events, asksProposal e = true
  notConcluded : ∀ e ∈ events, concludes e = false
  usedUp : UsedUp budget events

/-! ## How the loop is left -/

/-- The loop is left with an escalation, or for the proposal: the model concluded, or no step
or tool call is left. -/
def LeftFor (p : LoopParams) (out : Except AgentResult LoopState) (events : List AgentEvent) :
    Prop :=
  (∀ e ∈ events, asksProposal e = false) ∧
    match out with
    | .error result => IsEscalation result
    | .ok s => (∃ e ∈ events, concludes e = true) ∨ s.steps = p.budget.maxSteps ∨
        p.budget.maxToolCalls ≤ s.toolCalls

section

variable {p : LoopParams} {system : SystemPrompt} {startedAt : Date}

theorem not_asksProposal_concat {events : List AgentEvent}
    (h : ∀ e ∈ events, asksProposal e = false) {e : AgentEvent} (he : asksProposal e = false) :
    ∀ e' ∈ events ++ [e], asksProposal e' = false :=
  List.forall_mem_append.2 ⟨h, List.forall_mem_singleton.2 he⟩

theorem leftFor_escalate {events : List AgentEvent} (h : ∀ e ∈ events, asksProposal e = false)
    (stopReason : StopReason) (rationale : String) (g : Gathered) :
    LeftFor p (.error (escalate stopReason rationale g)) events :=
  ⟨h, rfl, rfl⟩

/-- The induction is on the steps that remain: when none does, the counter stands at its
maximum. -/
theorem wp_investigate_leftFor (remaining : Nat) :
    ∀ {s : LoopState} {events : List AgentEvent}, (∀ e ∈ events, asksProposal e = false) →
      s.steps + remaining = p.budget.maxSteps →
      Wp recorded (LeftFor p) (investigate system p startedAt remaining s) events := by
  induction remaining with
  | zero =>
      intro s events h hsteps
      exact ⟨h, .inr (.inl hsteps)⟩
  | succ remaining ih =>
      intro s events h hsteps
      have hnext : s.steps + 1 + remaining = p.budget.maxSteps := by omega
      unfold investigate
      rintro time _ rfl
      have hnow := not_asksProposal_concat h (e := ⟨.now, time⟩) rfl
      dsimp only [Prog.bind_ret]
      split
      · exact leftFor_escalate hnow _ _ _
      rintro reply _ rfl
      have hasked := not_asksProposal_concat hnow
        (e := ⟨.chatStep system (stepPrompt p { s with steps := s.steps + 1 }), reply⟩) rfl
      cases reply with
      | failed failure detail => exact leftFor_escalate hasked _ _ _
      | ok value =>
          dsimp only [Prog.bind_ret]
          split
          · rename_i hout
            rcases hout with hconclude | hcalls
            · refine ⟨hasked, .inl ⟨_, List.mem_append_right _ (List.mem_singleton_self _), ?_⟩⟩
              simpa [concludes] using hconclude
            · exact ⟨hasked, .inr (.inr hcalls)⟩
          split
          · exact ih hasked hnext
          · split
            · exact leftFor_escalate hasked _ _ _
            · rintro result _ rfl
              exact ih (not_asksProposal_concat hasked rfl) hnext

/-! ## How the run ends -/

/-- The proposal was asked for because the model concluded or a budget was used up; the run
escalates unless the model proposed within the closed sets. -/
structure EndsFor (budget : AgentBudget) (result : AgentResult) (events : List AgentEvent) :
    Prop where
  usedUp : (∃ e ∈ events, asksProposal e = true) → (∀ e ∈ events, concludes e = false) →
    UsedUp budget events
  escalates : IsEscalation result ↔ ∀ e ∈ events, proposesClosed e = false

theorem proposesClosed_of_not_asksProposal {e : AgentEvent} (h : asksProposal e = false) :
    proposesClosed e = false := by
  obtain ⟨a, answer⟩ := e
  cases a <;> first | rfl | cases h

/-- A run that never came to the proposal. -/
theorem endsFor_escalation {budget : AgentBudget} {result : AgentResult}
    {events : List AgentEvent} (h : ∀ e ∈ events, asksProposal e = false)
    (hresult : IsEscalation result) : EndsFor budget result events where
  usedUp := by
    rintro ⟨e, he, hasks⟩
    rw [h e he] at hasks
    cases hasks
  escalates := by
    constructor
    · intro _ e he
      exact proposesClosed_of_not_asksProposal (h e he)
    · intro _
      exact hresult

/-- A run that came to the proposal: the loop's reason stands, and the reply decides. -/
theorem endsFor_proposal {s : LoopState} {result : AgentResult} {events : List AgentEvent}
    {e : AgentEvent} (h : Investigating p s events) (hleft : LeftFor p (.ok s) events)
    (hcalls : invoked e = none) (hstep : isStep e = false)
    (hresult : IsEscalation result ↔ proposesClosed e = false) :
    EndsFor p.budget result (events ++ [e]) where
  usedUp := by
    intro _ hnever
    have hcount : (events ++ [e]).countP isStep = s.steps := by
      simp [hstep, h.counted.steps_eq]
    have hlength : (toolCalls (events ++ [e])).length = s.toolCalls := by
      simp [hcalls, h.counted.toolCalls_eq]
    unfold UsedUp
    rw [hcount, hlength]
    rcases hleft.2 with ⟨e', he', hconcludes⟩ | husedUp
    · rw [hnever e' (List.mem_append_left _ he')] at hconcludes
      cases hconcludes
    · exact husedUp
  escalates := by
    rw [hresult, List.forall_mem_append, List.forall_mem_singleton]
    constructor
    · intro hlast
      exact ⟨fun e' he' => proposesClosed_of_not_asksProposal (hleft.1 e' he'), hlast⟩
    · rintro ⟨_, hlast⟩
      exact hlast

theorem wp_concludeInvestigation_endsFor {s : LoopState} {events : List AgentEvent}
    (h : Investigating p s events) (hleft : LeftFor p (.ok s) events) :
    Wp recorded (EndsFor p.budget) (concludeInvestigation system p s) events := by
  unfold concludeInvestigation
  split
  · exact endsFor_escalation hleft.1 ⟨rfl, rfl⟩
  rintro reply _ rfl
  cases reply with
  | failed failure detail =>
      refine endsFor_proposal h hleft rfl rfl ?_
      simp [proposesClosed, proposedReply, IsEscalation, escalate]
  | ok value =>
      dsimp only [Prog.bind_ret]
      split
      · rename_i cause disposition hcause hdisposition
        refine endsFor_proposal h hleft rfl rfl ?_
        simp [proposesClosed, proposedReply, IsEscalation, propose, hcause, hdisposition]
      · rename_i hopen
        refine endsFor_proposal h hleft rfl rfl ?_
        -- one of the two is outside its closed set
        cases hcause : isCauseCode value.cause with
        | none => simp [proposesClosed, proposedReply, IsEscalation, escalate, hcause]
        | some cause =>
            cases hdisposition : isDisposition value.disposition with
            | none =>
                simp [proposesClosed, proposedReply, IsEscalation, escalate, hdisposition]
            | some disposition => exact absurd hdisposition (hopen cause disposition hcause)

theorem wp_runInvestigation_endsFor :
    Wp recorded (EndsFor p.budget) (runInvestigation system p) [] := by
  rintro time _ rfl breakup _ rfl net _ rfl
  refine wp_then (M := fun out events => LeftSafely p out events ∧ LeftFor p out events) ?_ ?_
  · refine Wp.and _ ?_ ?_
    · apply wp_investigate p.budget.maxSteps (investigating_opened time breakup net)
      exact le_of_eq (Nat.zero_add _)
    · apply wp_investigate_leftFor p.budget.maxSteps
      · simp [asksProposal]
      · exact Nat.zero_add _
  · rintro out events ⟨hsafe, hleft⟩
    cases out with
    | error result => exact endsFor_escalation hleft.1 hleft.2
    | ok s => exact wp_concludeInvestigation_endsFor hsafe hleft

end

/-- Nothing else leads to the proposal: the model concluded, or a budget was used up. -/
theorem usedUp_of_not_concluded (system : SystemPrompt) (p : LoopParams)
    (env : List AgentEvent → (a : AgentAction) → a.Answer)
    (hasks : ∃ e ∈ (play env (runInvestigation system p) []).2, asksProposal e = true)
    (hnever : ∀ e ∈ (play env (runInvestigation system p) []).2, concludes e = false) :
    LeftByBudget p.budget (play env (runInvestigation system p) []).2 :=
  ⟨hasks, hnever, (Wp.play env _ wp_runInvestigation_endsFor).usedUp hasks hnever⟩

/-- **Exhaustion.**  An investigation that ran out of budget escalates, with no cause, exactly
when the model does not answer the question for a proposal within the closed sets. -/
theorem exhaustion_escalates_iff (system : SystemPrompt) (p : LoopParams)
    (env : List AgentEvent → (a : AgentAction) → a.Answer) :
    (LeftByBudget p.budget (play env (runInvestigation system p) []).2 →
        IsEscalation (play env (runInvestigation system p) []).1) ↔
      (LeftByBudget p.budget (play env (runInvestigation system p) []).2 →
        ∀ e ∈ (play env (runInvestigation system p) []).2, proposesClosed e = false) :=
  imp_congr_right fun _ => (Wp.play env _ wp_runInvestigation_endsFor).escalates

/-! ## A model that never concludes -/

/-- The budget investigations run with by default. -/
def DEFAULT_AGENT_BUDGET : AgentBudget where
  maxToolCalls := 8
  maxSteps := 8
  maxWallclockSeconds := 120
  identicalToolCallLimit := 1

def insistentParams : LoopParams where
  ctx := ⟨⟨"merchant"⟩, "payment"⟩
  briefing := "Case EX-1"
  budget := DEFAULT_AGENT_BUDGET

/-- The model asks for one tool after another and, asked for a proposal, resolves. -/
def insistentModel (events : List AgentEvent) : (a : AgentAction) → a.Answer
  | .now => ⟨0⟩
  | .invoke _ name => toolOk name [] "nothing unusual" []
  | .chatStep _ _ => .ok
      { reasoning := "more", action := "CALL_TOOL"
        tool := REMAINING[events.countP isStep]?.map (·.code), hypotheses := [] }
  | .chatProposal _ _ => .ok ⟨"enough", "MDR_FEE", "RESOLVE", none⟩
  | .chatProposalV2 _ _ => .ok ⟨"enough", "MDR_FEE", "RESOLVE_SUPPORTED", none⟩

/-- The seventh step finds all eight calls used; the model does not conclude, and resolves. -/
theorem exhausted_run_resolves :
    LeftByBudget DEFAULT_AGENT_BUDGET
        (play insistentModel (runInvestigation .v1 insistentParams) []).2 ∧
      (play insistentModel (runInvestigation .v1 insistentParams) []).1.proposedCause =
        some .mdrFee ∧
      (play insistentModel (runInvestigation .v1 insistentParams) []).1.proposedDisposition =
        .resolve :=
  ⟨⟨by decide +kernel, by decide +kernel, .inr (by decide +kernel)⟩, by decide +kernel,
    by decide +kernel⟩

end SettlementOps
