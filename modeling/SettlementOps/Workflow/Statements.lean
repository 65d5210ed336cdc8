import SettlementOps.Workflow.Operations

/-!
# The statements an operation sends

What a call of an operation can do at all, whatever the statements before answer: read,
append to the trail, move a case, finish an investigation, and, for a call that asks for
evidence, open a request.

* `Issues` — the statements of each operation.
* `only_issues` — an operation sends no others.
-/

namespace SettlementOps

open Interleave

/-- A statement that moves no case, finishes no investigation and opens no request. -/
def Statement.plain : Statement → Bool
  | .updateCase .. => false
  | .updateInvestigation .. => false
  | .insertEvidenceRequest .. => false
  | _ => true

/-- The statements an operation may send. -/
inductive Issues : Operation → Statement → Prop
  | plain {ℓ : Operation} {a : Statement} (h : a.plain = true) : Issues ℓ a
  | move {ℓ : Operation} {scope : MerchantScope} {caseId : CaseId} {toState fromState : CaseState}
      {expectedVersion : Int} (hto : toState ≠ .requestingEvidence) :
      Issues ℓ (.updateCase scope caseId toState fromState expectedVersion)
  | finish {ℓ : Operation} {scope : MerchantScope} {id : String} {status : InvestigationStatus}
      {failureCode : Option String} (hstatus : status ≠ .running) :
      Issues ℓ (.updateInvestigation scope id status failureCode)
  | ask {ctx : RequestContext} {caseId : CaseId} {expectedVersion : Int} {detail : String}
      {expiryDays : Int} {fromState : CaseState} :
      Issues (.requestEvidence ctx caseId expectedVersion detail expiryDays)
        (.updateCase (scopeOf ctx) caseId .requestingEvidence fromState expectedVersion)
  | openRequest {ctx : RequestContext} {caseId : CaseId} {expectedVersion : Int} {detail : String}
      {expiryDays : Int} {expiresAt : Date} :
      Issues (.requestEvidence ctx caseId expectedVersion detail expiryDays)
        (.insertEvidenceRequest (scopeOf ctx) ⟨caseId, ctx.userId, detail, expiresAt⟩)

section Parts

variable {P : Statement → Prop} {scope : MerchantScope}

theorem only_transition (hplain : ∀ a, a.plain = true → P a) {input : TransitionInput}
    (hmove : ∀ fromState,
      P (.updateCase scope input.caseId input.toState fromState input.expectedVersion)) :
    Prog.Only P (transition scope input) := by
  refine Prog.only_bind (query _) (Prog.only_perform (hplain _ rfl)) ?_
  intro read
  cases read with
  | none => exact Prog.only_ret P _
  | some read =>
      dsimp only
      split
      · exact Prog.only_ret P _
      · refine Prog.only_bind (query _) (Prog.only_perform (hmove _)) ?_
        intro after
        cases after with
        | some v => exact Prog.only_ret P _
        | none =>
            refine Prog.only_bind (query _) (Prog.only_perform (hplain _ rfl)) ?_
            exact fun _ => Prog.only_ret P _

theorem only_moveAndRecord (hplain : ∀ a, a.plain = true → P a) {input : TransitionInput}
    (hmove : ∀ fromState,
      P (.updateCase scope input.caseId input.toState fromState input.expectedVersion))
    (event : CaseTransitionResult → AuditEvent) :
    Prog.Only P (moveAndRecord scope input event) := by
  refine Prog.only_bind _ (only_transition hplain hmove) ?_
  intro out
  cases out with
  | error failure => exact Prog.only_ret P _
  | ok result =>
      refine Prog.only_bind (query _) (Prog.only_perform (hplain _ rfl)) ?_
      exact fun _ => Prog.only_ret P _

/-- A start of an investigation, with the row it falls back on. -/
theorem only_startRow {ℓ : Operation} (scope : MerchantScope) (input : InvestigationStart) :
    Prog.Only (Issues ℓ) (InvestigationRepository.start scope input) := by
  refine Prog.only_bind (query _) (Prog.only_perform (.plain rfl)) ?_
  intro row
  cases row with
  | some row => exact Prog.only_ret _ _
  | none =>
      refine Prog.only_bind (query _) (Prog.only_perform (.plain rfl)) ?_
      intro found
      cases found <;> exact Prog.only_ret _ _

theorem only_openRequest {ℓ : Operation} {input : EvidenceOpening}
    (hopen : Issues ℓ (.insertEvidenceRequest scope input)) :
    Prog.Only (Issues ℓ) (EvidenceRequestRepository.open scope input) := by
  refine Prog.only_bind (query _) (Prog.only_perform hopen) ?_
  intro row
  cases row with
  | some row => exact Prog.only_ret _ _
  | none =>
      refine Prog.only_bind (query _) (Prog.only_perform (.plain rfl)) ?_
      intro found
      cases found <;> exact Prog.only_ret _ _

end Parts

/-- A plain transition of an operation, with its event. -/
theorem only_request {ℓ : Operation} {scope : MerchantScope} {input : TransitionInput}
    (hto : input.toState ≠ .requestingEvidence) (event : CaseTransitionResult → AuditEvent) :
    Prog.Only (Issues ℓ) (moveAndRecord scope input event) :=
  only_moveAndRecord (fun _ => .plain) (fun _ => .move hto) event

theorem only_applyHumanTransition {ℓ : Operation} {ctx : RequestContext} {caseId : CaseId}
    {toState : CaseState} {expectedVersion : Int} {eventType : String} {payload : JsonObject}
    (hmove : ∀ fromState,
      Issues ℓ (.updateCase (scopeOf ctx) caseId toState fromState expectedVersion)) :
    Prog.Only (Issues ℓ)
      (applyHumanTransition ctx caseId toState expectedVersion eventType payload) := by
  refine Prog.only_bind _ (only_moveAndRecord (fun _ => .plain) hmove _) ?_
  intro out
  cases out <;> exact Prog.only_ret _ _

theorem only_finish {ℓ : Operation} {scope : MerchantScope} {id : String}
    {status : InvestigationStatus} {failureCode : Option String} (hstatus : status ≠ .running) :
    Prog.Only (Issues ℓ) (InvestigationRepository.finish scope id status failureCode) :=
  Prog.only_perform (.finish hstatus)

theorem only_appendAudit {ℓ : Operation} (scope : MerchantScope) (event : AuditEvent) :
    Prog.Only (Issues ℓ) (appendAudit scope event) :=
  Prog.only_perform (.plain rfl)

/-! ## The operations -/

theorem only_escalateAiDisabled {ℓ : Operation} (ctx : RequestContext) (caseId : CaseId)
    (investigation : InvestigationRecord) (moved : CaseTransitionResult) :
    Prog.Only (Issues ℓ) (escalateAiDisabled ctx caseId investigation moved) := by
  refine Prog.only_bind _ (only_finish (by decide)) ?_
  intro _
  refine Prog.only_bind _ (only_request (by simp) _) ?_
  intro out
  cases out <;> exact Prog.only_ret _ _

theorem only_startInvestigation {ℓ : Operation} (aiInvestigationEnabled : Bool)
    (ctx : RequestContext) (caseId : CaseId) (expectedVersion : Int) :
    Prog.Only (Issues ℓ) (startInvestigation aiInvestigationEnabled ctx caseId expectedVersion) := by
  unfold startInvestigation
  split
  · exact Prog.only_ret _ _
  refine Prog.only_bind _ (only_transition (fun _ => .plain) fun _ => .move (by simp)) ?_
  intro out
  cases out with
  | error failure => exact Prog.only_ret _ _
  | ok moved =>
      refine Prog.only_bind _ (only_startRow _ _) ?_
      rintro (message | ⟨investigation, _ | _⟩)
      · exact Prog.only_ret _ _
      · exact Prog.only_ret _ _
      · refine Prog.only_bind _ (only_appendAudit _ _) ?_
        intro _
        split
        · exact Prog.only_ret _ _
        · exact only_escalateAiDisabled ctx caseId investigation moved

theorem only_escalateWith {ℓ : Operation} (ctx : RequestContext) (input : AiInvestigationInput)
    (reason failureCode : String) :
    Prog.Only (Issues ℓ) (escalateWith ctx input reason failureCode) := by
  refine Prog.only_bind _ (only_finish (by decide)) ?_
  intro _
  refine Prog.only_bind _ (only_request (by simp) _) ?_
  intro out
  cases out <;> exact Prog.only_ret _ _

theorem only_proposeAction {ℓ : Operation} (ctx : RequestContext) (input : AiInvestigationInput)
    (investigation : InvestigationResult) (proposal : Proposal) :
    Prog.Only (Issues ℓ) (proposeAction ctx input investigation proposal) := by
  refine Prog.only_bind _ (only_finish (by decide)) ?_
  intro _
  refine Prog.only_bind _ (only_request (by simp) _) ?_
  intro out
  cases out <;> exact Prog.only_ret _ _

theorem only_runAiInvestigation {ℓ : Operation} (ctx : RequestContext)
    (input : AiInvestigationInput) :
    Prog.Only (Issues ℓ) (runAiInvestigation ctx input) := by
  refine Prog.only_bind (query _) (Prog.only_perform (.plain rfl)) ?_
  intro investigation
  refine Prog.only_bind _ (Prog.only_forEach _ fun _ => only_appendAudit _ _) ?_
  intro _
  cases investigation.proposedCause with
  | none => exact only_escalateWith ctx input _ _
  | some cause =>
      refine Prog.only_bind (query _) (Prog.only_perform (.plain rfl)) ?_
      intro verification
      refine Prog.only_bind _ (only_appendAudit _ _) ?_
      intro _
      split
      · exact only_escalateWith ctx input _ _
      · exact only_proposeAction ctx input investigation _

theorem only_requestEvidence (ctx : RequestContext) (caseId : CaseId) (expectedVersion : Int)
    (detail : String) (expiryDays : Int) :
    Prog.Only (Issues (.requestEvidence ctx caseId expectedVersion detail expiryDays))
      (requestEvidence ctx caseId expectedVersion detail expiryDays) := by
  unfold requestEvidence
  split
  · exact Prog.only_ret _ _
  refine Prog.only_bind _ (only_applyHumanTransition fun _ => .ask) ?_
  intro out
  cases out with
  | ok result =>
      refine Prog.only_bind (query _) (Prog.only_perform (.plain rfl)) ?_
      intro now
      refine Prog.only_bind _ (only_openRequest .openRequest) ?_
      intro opened
      cases opened <;> exact Prog.only_ret _ _
  | _ => exact Prog.only_ret _ _

/-- **An operation sends no other statements.** -/
theorem only_issues (ℓ : Operation) : Prog.Only (Issues ℓ) ℓ.program := by
  cases ℓ with
  | startInvestigation aiInvestigationEnabled ctx caseId expectedVersion =>
      exact only_startInvestigation aiInvestigationEnabled ctx caseId expectedVersion
  | runAiInvestigation ctx input => exact only_runAiInvestigation ctx input
  | escalateCase ctx caseId expectedVersion reason =>
      show Prog.Only _ (escalateCase ctx caseId expectedVersion reason)
      unfold escalateCase
      split
      · exact Prog.only_ret _ _
      · exact only_applyHumanTransition fun _ => .move (by decide)
  | requestEvidence ctx caseId expectedVersion detail expiryDays =>
      exact only_requestEvidence ctx caseId expectedVersion detail expiryDays
  | reopenForInvestigation ctx caseId expectedVersion =>
      show Prog.Only _ (reopenForInvestigation ctx caseId expectedVersion)
      unfold reopenForInvestigation
      split
      · exact Prog.only_ret _ _
      · exact only_applyHumanTransition fun _ => .move (by decide)
  | approveProposal ctx caseId expectedVersion note =>
      show Prog.Only _ (approveProposal ctx caseId expectedVersion note)
      unfold approveProposal
      split
      · exact Prog.only_ret _ _
      refine Prog.only_bind _ (only_request (by simp) _) ?_
      intro out
      cases out <;> exact Prog.only_ret _ _
  | rejectProposal ctx caseId expectedVersion reason =>
      show Prog.Only _ (rejectProposal ctx caseId expectedVersion reason)
      unfold rejectProposal
      split
      · exact Prog.only_ret _ _
      split
      · exact Prog.only_ret _ _
      refine Prog.only_bind _ (only_request (by simp) _) ?_
      intro out
      cases out <;> exact Prog.only_ret _ _
  | stageApprovedAction ctx caseId expectedVersion actionType amountMinor currency =>
      show Prog.Only _ (stageApprovedAction ctx caseId expectedVersion actionType amountMinor
        currency)
      unfold stageApprovedAction
      split
      · exact Prog.only_ret _ _
      refine Prog.only_bind _ (only_request (by simp) _) ?_
      intro out
      cases out <;> exact Prog.only_ret _ _

end SettlementOps
