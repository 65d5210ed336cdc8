import SettlementOps.Interleave.Outline
import SettlementOps.Workflow.Operations

/-!
# What the operations do, statement by statement

A property of all case operations is proved by saying what a call knows of the log between
its statements: while it is *clear*, while it *owes* the audit event of a transition it has
applied, and once the verifier has *resolved* for it.  `keeps_operation` walks through the
eight operations once; a property gives the meaning of the three and shows that the few
statements that matter move between them.

* `recorded` — the transition an executed statement wrote to the audit trail.
* `Steady`, `Lasting` — knowledge that others and quiet statements, or others and the reads of
  a transition, do not change.
* `keeps_transition_when` — the rule of a transition.
* `Requests` — the transitions an operation asks for, proposals apart.
* `Discipline`, `keeps_operation`.
-/

namespace SettlementOps

open Interleave

variable {L : Type}

/-- The transition an audit row is the event of. -/
def AuditEvent.transition? (event : AuditEvent) : Option AppliedTransition :=
  match event.entityType == "reconciliation_case", event.previousState, event.nextState,
      event.caseVersion with
  | true, some previousState, some nextState, some caseVersion =>
      some ⟨event.entityId, previousState, nextState, caseVersion⟩
  | _, _, _, _ => none

/-- The transition an executed statement wrote to the audit trail. -/
def recorded (e : Executed L) : Option AppliedTransition :=
  (appended e).bind (·.transition?)

def CaseTransitionResult.asApplied (r : CaseTransitionResult) : AppliedTransition :=
  ⟨r.caseId, r.previousState, r.nextState, r.caseVersion⟩

/-- The event of a transition is read back as that transition. -/
@[simp] theorem transitionEvent_transition? (ctx : RequestContext) (actorType : ActorType)
    (r : CaseTransitionResult) (eventType : String) (payload : JsonObject) :
    (transitionEvent ctx actorType r eventType payload).transition? = some r.asApplied := rfl

@[simp] theorem agentEvent_transition? (ctx : RequestContext) (caseId : CaseId)
    (eventType : String) (payload : JsonObject) :
    (agentEvent ctx caseId eventType payload).transition? = none := rfl

/-- An executed statement that neither applied a transition nor recorded one. -/
structure Quiet (e : Executed L) : Prop where
  applied : applied e = none
  recorded : recorded e = none

/-- A statement of a transition that moves nothing: a read, or an update that missed. -/
inductive Idle (ω : Surroundings) (s : Database) : Statement → Prop
  | selectCase (scope : MerchantScope) (caseId : CaseId) : Idle ω s (.selectCase scope caseId)
  | selectCaseVersion (scope : MerchantScope) (caseId : CaseId) :
      Idle ω s (.selectCaseVersion scope caseId)
  | missed {scope : MerchantScope} {caseId : CaseId} {toState fromState : CaseState}
      {expectedVersion : Int}
      (h : (exec ω (.updateCase scope caseId toState fromState expectedVersion) s).1 = none) :
      Idle ω s (.updateCase scope caseId toState fromState expectedVersion)

theorem Idle.quiet {ω : Surroundings} {s : Database} {a : Statement} (h : Idle ω s a) (i : Nat)
    (ℓ : L) : Quiet (executed i ℓ a ω s) := by
  cases h with
  | selectCase => exact ⟨rfl, rfl⟩
  | selectCaseVersion => exact ⟨rfl, rfl⟩
  | missed h => exact ⟨by simp only [executed, SettlementOps.applied, h], rfl⟩

section Steady

variable (Inv : Database → List (Executed L) → Prop) (i : Nat) (ℓ : L)

/-- Knowledge of call `i` that others do not change, and quiet statements of its own do not
change either. -/
structure Steady (K : List (Executed L) → Prop) : Prop where
  others : ∀ log log', Others i log log' → K log → K log'
  quiet : ∀ s log a ω, Inv s log → K log → Quiet (executed i ℓ a ω s) →
    Inv (exec ω a s).2 (log ++ [executed i ℓ a ω s]) ∧ K (log ++ [executed i ℓ a ω s])

/-- A statement that reads or updates a case. -/
def Statement.touchesCase : Statement → Bool
  | .selectCase .. => true
  | .updateCase .. => true
  | _ => false

/-- Knowledge of call `i` that others do not change, and the reads of its transitions do not
change either. -/
structure Lasting (G : Rules Database Surroundings Statement Statement.Answer L)
    (K : List (Executed L) → Prop) : Prop where
  others : ∀ log log', Others i log log' → K log → K log'
  idle : ∀ s log a ω, Inv s log → K log → G.run s log i ℓ a → Idle ω s a →
    Inv (exec ω a s).2 (log ++ [executed i ℓ a ω s]) ∧ K (log ++ [executed i ℓ a ω s])

variable {Inv i ℓ} in
theorem Steady.lasting {G : Rules Database Surroundings Statement Statement.Answer L}
    {K : List (Executed L) → Prop} (h : Steady Inv i ℓ K) : Lasting Inv i ℓ G K where
  others := h.others
  idle s log a ω hinv hK _ hidle := h.quiet s log a ω hinv hK (hidle.quiet i ℓ)

/-- What the guarded update of an applied transition has to settle. -/
def Applies (K : List (Executed L) → Prop)
    (Owes : MerchantScope → CaseTransitionResult → List (Executed L) → Prop) (scope : MerchantScope)
    (input : TransitionInput) : Prop :=
  ∀ s log ω fromState, Inv s log → K log →
    Permitted fromState input.toState input.actor input.outcomeRecorded →
    (exec ω (.updateCase scope input.caseId input.toState fromState input.expectedVersion)
      s).1 = some (input.expectedVersion + 1) →
    Inv (exec ω (.updateCase scope input.caseId input.toState fromState
        input.expectedVersion) s).2
      (log ++ [executed i ℓ (.updateCase scope input.caseId input.toState fromState
        input.expectedVersion) ω s]) ∧
    Owes scope ⟨input.caseId, fromState, input.toState, input.expectedVersion + 1⟩
      (log ++ [executed i ℓ (.updateCase scope input.caseId input.toState fromState
        input.expectedVersion) ω s])

/-- The same for an update from one state, where the rules of the run let it be executed. -/
def AppliesFrom (G : Rules Database Surroundings Statement Statement.Answer L)
    (K : List (Executed L) → Prop) (M : CaseTransitionResult → List (Executed L) → Prop)
    (scope : MerchantScope) (input : TransitionInput) (fromState : CaseState) : Prop :=
  ∀ s log ω, Inv s log → K log →
    G.run s log i ℓ
      (.updateCase scope input.caseId input.toState fromState input.expectedVersion) →
    (exec ω (.updateCase scope input.caseId input.toState fromState input.expectedVersion)
      s).1 = some (input.expectedVersion + 1) →
    Inv (exec ω (.updateCase scope input.caseId input.toState fromState
        input.expectedVersion) s).2
      (log ++ [executed i ℓ (.updateCase scope input.caseId input.toState fromState
        input.expectedVersion) ω s]) ∧
    M ⟨input.caseId, fromState, input.toState, input.expectedVersion + 1⟩
      (log ++ [executed i ℓ (.updateCase scope input.caseId input.toState fromState
        input.expectedVersion) ω s])

/-- What the audit event of an applied transition has to settle. -/
def Records (Owes : MerchantScope → CaseTransitionResult → List (Executed L) → Prop)
    (K : List (Executed L) → Prop) : Prop :=
  ∀ s log ω scope event r, event.transition? = some r.asApplied → Inv s log → Owes scope r log →
    Inv (exec ω (.insertAuditEvent scope event) s).2
        (log ++ [executed i ℓ (.insertAuditEvent scope event) ω s]) ∧
      K (log ++ [executed i ℓ (.insertAuditEvent scope event) ω s])

end Steady

section Rules

variable {G : Rules Database Surroundings Statement Statement.Answer L}
  {Inv : Database → List (Executed L) → Prop} {i : Nat} {ℓ : L}
  {K : List (Executed L) → Prop} {s : Database} {log : List (Executed L)}

/-- A statement that is quiet whatever it meets. -/
theorem keeps_quiet (hK : Steady Inv i ℓ K) {a : Statement}
    (hquiet : ∀ ω s, Quiet (executed i ℓ a ω s)) (h : K log) :
    Keeps exec G Inv i ℓ (fun _ _ => K) (query a) s log :=
  keeps_perform fun s log' ω hothers hinv _ =>
    hK.quiet s log' a ω hinv (hK.others _ _ hothers h) (hquiet ω s)

/-- **The rule of a transition**: its reads, and an update that misses, leave the database
alone, so a call has to restore the invariant only where its update applies. -/
theorem keeps_transition_when {M : CaseTransitionResult → List (Executed L) → Prop}
    (hK : Lasting Inv i ℓ G K) {scope : MerchantScope} {input : TransitionInput}
    (happly : ∀ fromState, Permitted fromState input.toState input.actor input.outcomeRecorded →
      AppliesFrom Inv i ℓ G K M scope input fromState)
    (h : K log) :
    Keeps exec G Inv i ℓ
      (fun out _ log => match out with
        | .ok r => r.caseId = input.caseId ∧ M r log
        | .error _ => K log)
      (transition scope input) s log := by
  unfold transition
  intro s₁ log₁ ω₁ hothers₁ hinv₁ hrun₁
  have hK₁ := hK.others _ _ hothers₁ h
  obtain ⟨hinv₁', hK₁'⟩ := hK.idle s₁ log₁ _ ω₁ hinv₁ hK₁ hrun₁ (.selectCase scope input.caseId)
  refine ⟨hinv₁', ?_⟩
  cases hread : (exec ω₁ (.selectCase scope input.caseId) s₁).1 with
  | none =>
      simp only [executed, hread] at hK₁'
      exact hK₁'
  | some read =>
      obtain ⟨fromState, caseVersion⟩ := read
      simp only [executed, hread] at hK₁'
      cases href : refusal input fromState caseVersion with
      | some failure =>
          simp only [Prog.bind_ret, href]
          exact hK₁'
      | none =>
          simp only [Prog.bind_ret, href]
          obtain ⟨-, hpermitted⟩ := refusal_eq_none_iff.1 href
          intro s₂ log₂ ω₂ hothers₂ hinv₂ hrun₂
          have hK₂ := hK.others _ _ hothers₂ hK₁'
          cases hafter : (exec ω₂ (.updateCase scope input.caseId input.toState fromState
              input.expectedVersion) s₂).1 with
          | some after =>
              obtain ⟨-, -, -, -, -, rfl⟩ := exec_updateCase_eq_some.1 hafter
              have hdone := happly fromState hpermitted s₂ log₂ ω₂ hinv₂ hK₂ hrun₂ hafter
              simp only [executed, hafter] at hdone
              exact ⟨hdone.1, rfl, hdone.2⟩
          | none =>
              obtain ⟨hinv₂', hK₂'⟩ := hK.idle s₂ log₂ _ ω₂ hinv₂ hK₂ hrun₂ (.missed hafter)
              simp only [executed, hafter] at hinv₂' hK₂'
              refine ⟨hinv₂', ?_⟩
              intro s₃ log₃ ω₃ hothers₃ hinv₃ hrun₃
              exact hK.idle s₃ log₃ _ ω₃ hinv₃ (hK.others _ _ hothers₃ hK₂') hrun₃
                (.selectCaseVersion scope input.caseId)

/-- The rule where the rules of the run let the call read and update its case only as it
expects to find it: the transition is applied. -/
theorem keeps_transition_met {M : CaseTransitionResult → List (Executed L) → Prop}
    (hK : Lasting Inv i ℓ G K) {scope : MerchantScope} {input : TransitionInput}
    {fromState : CaseState}
    (hmet : ∀ s log a, K log → G.run s log i ℓ a → a.touchesCase = true →
      s.isAt scope input.caseId fromState input.expectedVersion = true)
    (hpermitted : Permitted fromState input.toState input.actor input.outcomeRecorded)
    (happly : AppliesFrom Inv i ℓ G K M scope input fromState)
    (h : K log) :
    Keeps exec G Inv i ℓ (fun out _ log => ∃ r, out = .ok r ∧ M r log) (transition scope input)
      s log := by
  unfold transition
  intro s₁ log₁ ω₁ hothers₁ hinv₁ hrun₁
  have hK₁ := hK.others _ _ hothers₁ h
  have hread := exec_selectCase_of_isAt (ω := ω₁) (hmet s₁ log₁ _ hK₁ hrun₁ rfl)
  obtain ⟨hinv₁', hK₁'⟩ := hK.idle s₁ log₁ _ ω₁ hinv₁ hK₁ hrun₁ (.selectCase scope input.caseId)
  refine ⟨hinv₁', ?_⟩
  have hpassed : refusal input fromState input.expectedVersion = none :=
    refusal_eq_none_iff.2 ⟨rfl, hpermitted⟩
  rw [hread]
  simp only [executed, hread] at hK₁'
  simp only [Prog.bind_ret, hpassed]
  intro s₂ log₂ ω₂ hothers₂ hinv₂ hrun₂
  have hK₂ := hK.others _ _ hothers₂ hK₁'
  have hafter : (exec ω₂ (.updateCase scope input.caseId input.toState fromState
      input.expectedVersion) s₂).1 = some (input.expectedVersion + 1) :=
    exec_updateCase_of_isAt (hmet s₂ log₂ _ hK₂ hrun₂ rfl)
  have hdone := happly s₂ log₂ ω₂ hinv₂ hK₂ hrun₂ hafter
  simp only [executed, hafter] at hdone
  rw [hafter]
  exact ⟨hdone.1, _, rfl, hdone.2⟩

/-- The same where the knowledge outlasts all quiet statements. -/
theorem keeps_transition_of {Owes : MerchantScope → CaseTransitionResult → List (Executed L) → Prop}
    (hK : Steady Inv i ℓ K) {scope : MerchantScope} {input : TransitionInput}
    (happly : Applies Inv i ℓ K Owes scope input) (h : K log) :
    Keeps exec G Inv i ℓ
      (fun out _ log => match out with
        | .ok r => r.caseId = input.caseId ∧ Owes scope r log
        | .error _ => K log)
      (transition scope input) s log :=
  keeps_transition_when (M := Owes scope) hK.lasting
    (fun fromState hpermitted s log ω hinv hlog _ hafter =>
      happly s log ω fromState hinv hlog hpermitted hafter) h

/-- The event that was owed. -/
theorem keeps_record {Clear : List (Executed L) → Prop}
    {Owes : MerchantScope → CaseTransitionResult → List (Executed L) → Prop}
    {r : CaseTransitionResult} {scope : MerchantScope} (howes : Steady Inv i ℓ (Owes scope r))
    (hrecord : Records Inv i ℓ Owes Clear) {event : AuditEvent}
    (hevent : event.transition? = some r.asApplied) (h : Owes scope r log) :
    Keeps exec G Inv i ℓ (fun _ _ => Clear) (appendAudit scope event) s log :=
  keeps_perform fun s log' ω hothers hinv _ =>
    hrecord s log' ω scope event r hevent hinv (howes.others _ _ hothers h)

/-- **The rule of a transition with its event**: what is owed in between is settled. -/
theorem keeps_moveAndRecord {Clear : List (Executed L) → Prop}
    {Owes : MerchantScope → CaseTransitionResult → List (Executed L) → Prop} (hK : Steady Inv i ℓ K)
    (howes : ∀ scope r, Steady Inv i ℓ (Owes scope r)) (hclear : ∀ log, K log → Clear log)
    {scope : MerchantScope} {input : TransitionInput}
    (happly : Applies Inv i ℓ K Owes scope input) (hrecord : Records Inv i ℓ Owes Clear)
    {event : CaseTransitionResult → AuditEvent}
    (hevent : ∀ r, (event r).transition? = some r.asApplied) (h : K log) :
    Keeps exec G Inv i ℓ (fun _ _ => Clear) (moveAndRecord scope input event) s log := by
  refine keeps_then (keeps_transition_of hK happly h) ?_
  intro out s log hout
  cases out with
  | error failure => exact hclear log hout
  | ok r =>
      refine keeps_then (keeps_record (howes scope r) hrecord (hevent r) hout.2) ?_
      intro _ s log hclear
      exact hclear

end Rules

/-! ## The operations -/

/-- The transitions the operations ask for, but for the proposal of an action. -/
inductive Requests : Operation → TransitionInput → Prop
  | approve {ctx : RequestContext} {caseId : CaseId} {expectedVersion : Int} {note : String}
      (hrole : hasAtLeast ctx .approver = true) :
      Requests (.approveProposal ctx caseId expectedVersion note)
        { caseId, toState := .approved, actor := .approver, expectedVersion }
  | other {ℓ : Operation} {input : TransitionInput}
      (hto : input.toState ∈ [CaseState.investigating, .escalated, .requestingEvidence,
        .rejected, .staged]) :
      Requests ℓ input

/-- The transition that proposes the action of an investigation. -/
def AiInvestigationInput.proposal (input : AiInvestigationInput) : TransitionInput where
  caseId := input.caseId
  toState := .actionProposed
  actor := .system
  expectedVersion := input.expectedVersion

/-- A property of the operations, as what a call knows between its statements: nothing is
left open, the event of an applied transition is owed, the verifier has resolved. -/
structure Discipline (G : Rules Database Surroundings Statement Statement.Answer Operation)
    (Inv : Database → List (Executed Operation) → Prop) (i : Nat) (ℓ : Operation) where
  Clear : List (Executed Operation) → Prop
  Owes : MerchantScope → CaseTransitionResult → List (Executed Operation) → Prop
  Resolved : List (Executed Operation) → Prop
  clear : Steady Inv i ℓ Clear
  owes : ∀ scope r, Steady Inv i ℓ (Owes scope r)
  resolved : Steady Inv i ℓ Resolved
  clear_of_resolved : ∀ log, Resolved log → Clear log
  verified : ∀ ctx input, ℓ = .runAiInvestigation ctx input →
    ∀ s log ω proposal, Inv s log → Clear log →
      (verify proposal input.unit).effectiveDisposition = .resolve →
      Resolved (log ++ [executed i ℓ (.verify proposal input.unit) ω s])
  request : ∀ scope input, Requests ℓ input → Applies Inv i ℓ Clear Owes scope input
  propose : ∀ ctx input, ℓ = .runAiInvestigation ctx input →
    ∀ scope, Applies Inv i ℓ Resolved Owes scope input.proposal
  record : Records Inv i ℓ Owes Clear
  conflict : ∀ s log ω scope input r, Inv s log →
    G.run s log i ℓ (.insertInvestigation scope input) → r.caseId = input.caseId →
    Owes scope r log →
    (exec ω (.insertInvestigation scope input) s).1 = none →
    Clear (log ++ [executed i ℓ (.insertInvestigation scope input) ω s])

section Operations

variable {G : Rules Database Surroundings Statement Statement.Answer Operation}
  {Inv : Database → List (Executed Operation) → Prop} {i : Nat} {ℓ : Operation}
  (D : Discipline G Inv i ℓ) {s : Database} {log : List (Executed Operation)}

namespace Discipline

/-- A requested transition with its event. -/
theorem keeps_request {scope : MerchantScope} {input : TransitionInput}
    (hreq : Requests ℓ input) {event : CaseTransitionResult → AuditEvent}
    (hevent : ∀ r, (event r).transition? = some r.asApplied) (h : D.Clear log) :
    Keeps exec G Inv i ℓ (fun _ _ => D.Clear) (moveAndRecord scope input event) s log :=
  keeps_moveAndRecord D.clear D.owes (fun _ h => h) (D.request scope input hreq) D.record
    hevent h

theorem keeps_finish {K : List (Executed Operation) → Prop} (hK : Steady Inv i ℓ K)
    (scope : MerchantScope) (id : String) (status : InvestigationStatus)
    (failureCode : Option String) (h : K log) :
    Keeps exec G Inv i ℓ (fun _ _ => K)
      (InvestigationRepository.finish scope id status failureCode) s log :=
  keeps_quiet hK (fun _ _ => ⟨rfl, rfl⟩) h

theorem keeps_applyHumanTransition {ctx : RequestContext} {caseId : CaseId}
    {toState : CaseState} {expectedVersion : Int} {eventType : String} {payload : JsonObject}
    (hto : toState ∈ [CaseState.investigating, .escalated, .requestingEvidence, .rejected,
      .staged]) (h : D.Clear log) :
    Keeps exec G Inv i ℓ (fun _ _ => D.Clear)
      (applyHumanTransition ctx caseId toState expectedVersion eventType payload) s log := by
  refine keeps_then (D.keeps_request (.other hto) (fun _ => rfl) h) ?_
  intro out s log hclear
  cases out <;> exact hclear

theorem keeps_openEvidence (scope : MerchantScope) (input : EvidenceOpening)
    (h : D.Clear log) :
    Keeps exec G Inv i ℓ (fun _ _ => D.Clear) (EvidenceRequestRepository.open scope input)
      s log := by
  refine keeps_then (keeps_quiet D.clear (fun _ _ => ⟨rfl, rfl⟩) h) ?_
  intro row s log hclear
  cases row with
  | some row => exact hclear
  | none =>
      refine keeps_then (keeps_quiet D.clear (fun _ _ => ⟨rfl, rfl⟩) hclear) ?_
      intro found s log hclear
      cases found <;> exact hclear

theorem keeps_requestEvidence {ctx : RequestContext} {caseId : CaseId} {expectedVersion : Int}
    {detail : String} {expiryDays : Int} (h : D.Clear log) :
    Keeps exec G Inv i ℓ (fun _ _ => D.Clear)
      (requestEvidence ctx caseId expectedVersion detail expiryDays) s log := by
  unfold requestEvidence
  split
  · exact h
  refine keeps_then (D.keeps_applyHumanTransition (by decide) h) ?_
  intro out s log hclear
  cases out with
  | ok result =>
      refine keeps_then (keeps_quiet D.clear (fun _ _ => ⟨rfl, rfl⟩) hclear) ?_
      intro now s log hclear
      refine keeps_then (D.keeps_openEvidence _ _ hclear) ?_
      intro opened s log hclear
      cases opened <;> exact hclear
  | _ => exact hclear

/-! ### Investigations -/

theorem keeps_escalateAiDisabled {ctx : RequestContext} {caseId : CaseId}
    {investigation : InvestigationRecord} {moved : CaseTransitionResult} (h : D.Clear log) :
    Keeps exec G Inv i ℓ (fun _ _ => D.Clear)
      (escalateAiDisabled ctx caseId investigation moved) s log := by
  refine keeps_then (keeps_finish D.clear _ _ _ _ h) ?_
  intro _ s log hclear
  refine keeps_then (D.keeps_request (.other (by simp)) (fun _ => rfl) hclear) ?_
  intro out s log hclear
  cases out <;> exact hclear

/-- The start of an investigation, while the event of the transition is owed. -/
theorem keeps_startRow {scope : MerchantScope} {input : InvestigationStart}
    {r : CaseTransitionResult} (hid : r.caseId = input.caseId) (h : D.Owes scope r log) :
    Keeps exec G Inv i ℓ
      (fun out _ log => match out with
        | .ok ⟨_, true⟩ => D.Owes scope r log
        | _ => D.Clear log)
      (InvestigationRepository.start scope input) s log := by
  intro s₁ log₁ ω₁ hothers₁ hinv₁ hrun
  have howes := (D.owes scope r).others _ _ hothers₁ h
  obtain ⟨hinv₁', howes'⟩ := (D.owes scope r).quiet s₁ log₁ (.insertInvestigation scope input) ω₁
    hinv₁ howes ⟨rfl, rfl⟩
  refine ⟨hinv₁', ?_⟩
  cases hrow : (exec ω₁ (.insertInvestigation scope input) s₁).1 with
  | some row =>
      simp only [executed, hrow] at howes'
      exact howes'
  | none =>
      have hclear := D.conflict s₁ log₁ ω₁ scope input r hinv₁ hrun hid howes hrow
      simp only [executed, hrow] at hclear
      dsimp only [Prog.bind_ret]
      refine keeps_then (keeps_quiet D.clear (fun _ _ => ⟨rfl, rfl⟩) hclear) ?_
      intro found s log hclear
      cases found <;> exact hclear

theorem keeps_startInvestigation {aiInvestigationEnabled : Bool} {ctx : RequestContext}
    {caseId : CaseId} {expectedVersion : Int} (h : D.Clear log) :
    Keeps exec G Inv i ℓ (fun _ _ => D.Clear)
      (startInvestigation aiInvestigationEnabled ctx caseId expectedVersion) s log := by
  unfold startInvestigation
  split
  · exact h
  refine keeps_then (keeps_transition_of D.clear (D.request _ _ (.other (by simp))) h) ?_
  intro out s log hout
  cases out with
  | error failure => exact hout
  | ok moved =>
      refine keeps_then (D.keeps_startRow hout.1 hout.2) ?_
      intro started s log hstarted
      match started, hstarted with
      | .error message, hclear => exact hclear
      | .ok ⟨investigation, false⟩, hclear => exact hclear
      | .ok ⟨investigation, true⟩, howes =>
          -- the event of the transition is written only now
          refine keeps_then (keeps_record (D.owes _ moved) D.record rfl howes) ?_
          intro _ s log hclear
          split
          · exact hclear
          · exact D.keeps_escalateAiDisabled hclear

theorem keeps_escalateWith {ctx : RequestContext} {input : AiInvestigationInput}
    {reason failureCode : String} (h : D.Clear log) :
    Keeps exec G Inv i ℓ (fun _ _ => D.Clear) (escalateWith ctx input reason failureCode)
      s log := by
  refine keeps_then (keeps_finish D.clear _ _ _ _ h) ?_
  intro _ s log hclear
  refine keeps_then (D.keeps_request (.other (by simp)) (fun _ => rfl) hclear) ?_
  intro out s log hclear
  cases out <;> exact hclear

theorem keeps_proposeAction {ctx : RequestContext} {input : AiInvestigationInput}
    (hℓ : ℓ = .runAiInvestigation ctx input) {investigation : InvestigationResult}
    {proposal : Proposal} (h : D.Resolved log) :
    Keeps exec G Inv i ℓ (fun _ _ => D.Clear) (proposeAction ctx input investigation proposal)
      s log := by
  refine keeps_then (keeps_finish D.resolved _ _ _ _ h) ?_
  intro _ s log hresolved
  refine keeps_then (keeps_moveAndRecord D.resolved D.owes D.clear_of_resolved
    (D.propose ctx input hℓ _) D.record (fun _ => rfl) hresolved) ?_
  intro out s log hclear
  cases out <;> exact hclear

theorem keeps_judgeProposal {ctx : RequestContext} {input : AiInvestigationInput}
    (hℓ : ℓ = .runAiInvestigation ctx input) {investigation : InvestigationResult}
    {proposal : Proposal} (h : D.Clear log) :
    Keeps exec G Inv i ℓ (fun _ _ => D.Clear) (judgeProposal ctx input investigation proposal)
      s log := by
  intro s₁ log₁ ω₁ hothers₁ hinv₁ _
  have hclear := D.clear.others _ _ hothers₁ h
  obtain ⟨hinv₁', hclear'⟩ := D.clear.quiet s₁ log₁ (.verify proposal input.unit) ω₁ hinv₁
    hclear ⟨rfl, rfl⟩
  refine ⟨hinv₁', ?_⟩
  dsimp only [Prog.bind_ret]
  by_cases hresolve :
      (exec ω₁ (.verify proposal input.unit) s₁).1.effectiveDisposition = .resolve
  · -- the verifier allows it: what it resolved is known from here on
    have hresolved := D.verified ctx input hℓ s₁ log₁ ω₁ proposal hinv₁ hclear hresolve
    refine keeps_then (keeps_quiet D.resolved (fun _ _ => ⟨rfl, rfl⟩) hresolved) ?_
    intro _ s log hresolved
    rw [if_neg (by simpa using hresolve)]
    exact D.keeps_proposeAction hℓ hresolved
  · refine keeps_then (keeps_quiet D.clear (fun _ _ => ⟨rfl, rfl⟩) hclear') ?_
    intro _ s log hclear
    rw [if_pos hresolve]
    exact D.keeps_escalateWith hclear

theorem keeps_runAiInvestigation {ctx : RequestContext} {input : AiInvestigationInput}
    (hℓ : ℓ = .runAiInvestigation ctx input) (h : D.Clear log) :
    Keeps exec G Inv i ℓ (fun _ _ => D.Clear) (runAiInvestigation ctx input) s log := by
  refine keeps_then (keeps_quiet D.clear (fun _ _ => ⟨rfl, rfl⟩) h) ?_
  intro investigation s log hclear
  refine keeps_then (keeps_forEach (J := fun _ => D.Clear) investigation.trace ?_ hclear) ?_
  · intro entry _ s log hclear
    exact keeps_quiet D.clear (fun _ _ => ⟨rfl, rfl⟩) hclear
  · intro _ s log hclear
    cases investigation.proposedCause with
    | none => exact D.keeps_escalateWith hclear
    | some cause => exact D.keeps_judgeProposal hℓ hclear

/-! ### Approval and staging -/

theorem keeps_approveProposal {ctx : RequestContext} {caseId : CaseId} {expectedVersion : Int}
    {note : String} (hℓ : ℓ = .approveProposal ctx caseId expectedVersion note)
    (h : D.Clear log) :
    Keeps exec G Inv i ℓ (fun _ _ => D.Clear) (approveProposal ctx caseId expectedVersion note)
      s log := by
  unfold approveProposal
  split
  · exact h
  rename_i hrole
  have hreq : Requests ℓ { caseId, toState := .approved, actor := .approver, expectedVersion } := by
    rw [hℓ]
    exact .approve (by simpa using hrole)
  refine keeps_then (D.keeps_request hreq (fun _ => rfl) h) ?_
  intro out s log hclear
  cases out <;> exact hclear

theorem keeps_rejectProposal {ctx : RequestContext} {caseId : CaseId} {expectedVersion : Int}
    {reason : String} (h : D.Clear log) :
    Keeps exec G Inv i ℓ (fun _ _ => D.Clear) (rejectProposal ctx caseId expectedVersion reason)
      s log := by
  unfold rejectProposal
  split
  · exact h
  split
  · exact h
  refine keeps_then (D.keeps_request (.other (by simp)) (fun _ => rfl) h) ?_
  intro out s log hclear
  cases out <;> exact hclear

theorem keeps_stageApprovedAction {ctx : RequestContext} {caseId : CaseId}
    {expectedVersion : Int} {actionType amountMinor currency : String} (h : D.Clear log) :
    Keeps exec G Inv i ℓ (fun _ _ => D.Clear)
      (stageApprovedAction ctx caseId expectedVersion actionType amountMinor currency) s log := by
  unfold stageApprovedAction
  split
  · exact h
  refine keeps_then (D.keeps_request (.other (by simp)) (fun _ => rfl) h) ?_
  intro out s log hclear
  cases out <;> exact hclear

end Discipline

/-- **Every operation keeps a property it keeps statement by statement.** -/
theorem keeps_operation (ℓ : Operation) (D : Discipline G Inv i ℓ) (h : D.Clear log) :
    Keeps exec G Inv i ℓ (fun _ _ => D.Clear) ℓ.program s log := by
  cases ℓ with
  | startInvestigation aiInvestigationEnabled ctx caseId expectedVersion =>
      exact D.keeps_startInvestigation h
  | runAiInvestigation ctx input => exact D.keeps_runAiInvestigation rfl h
  | escalateCase ctx caseId expectedVersion reason =>
      show Keeps exec G Inv i _ _ (escalateCase ctx caseId expectedVersion reason) s log
      unfold escalateCase
      split
      · exact h
      · exact D.keeps_applyHumanTransition (by decide) h
  | requestEvidence ctx caseId expectedVersion detail expiryDays =>
      exact D.keeps_requestEvidence h
  | reopenForInvestigation ctx caseId expectedVersion =>
      show Keeps exec G Inv i _ _ (reopenForInvestigation ctx caseId expectedVersion) s log
      unfold reopenForInvestigation
      split
      · exact h
      · exact D.keeps_applyHumanTransition (by decide) h
  | approveProposal ctx caseId expectedVersion note => exact D.keeps_approveProposal rfl h
  | rejectProposal ctx caseId expectedVersion reason => exact D.keeps_rejectProposal h
  | stageApprovedAction ctx caseId expectedVersion actionType amountMinor currency =>
      exact D.keeps_stageApprovedAction h

end Operations

end SettlementOps
