import SettlementOps.Records

/-!
# The case state machine

The legal graph is a table; a transition is checked against it in a fixed order: version,
legality, actor, outcome.

* `TRANSITIONS` — the table.
* `isActorPermitted` — human roles inherit downwards, `system` stays outside.
* `applyTransition` — one transition of a case.
* `applyTransition_ok_iff` — exactly when it is applied, and to what.
-/

namespace SettlementOps

abbrev CaseId := String

inductive CaseState
  | received
  | normalized
  | matching
  | reconciled
  | exception
  | investigating
  | actionProposed
  | approvalPending
  | approved
  | rejected
  | requestingEvidence
  | escalated
  | staged
  | applied
  | outcomeLogged
  | closed
  | reopened
  deriving DecidableEq, Repr

/-- The actors of transitions.  An agent is deliberately none of them. -/
inductive TransitionActor
  | system
  | operator
  | approver
  | admin
  deriving DecidableEq, Repr

structure TransitionRule where
  fromState : CaseState
  toState : CaseState
  actors : List TransitionActor
  event : String
  requiresOutcome : Bool := false
  deriving DecidableEq, Repr

def TRANSITIONS : List TransitionRule :=
  [ ⟨.received, .normalized, [.system], "record_normalized", false⟩,
    ⟨.normalized, .matching, [.system], "reconciliation_started", false⟩,
    ⟨.matching, .reconciled, [.system], "reconciliation_completed", false⟩,
    ⟨.matching, .exception, [.system], "reconciliation_exception_created", false⟩,
    ⟨.reconciled, .closed, [.system], "case_closed", false⟩,
    ⟨.exception, .investigating, [.system, .operator], "investigation_started", false⟩,
    ⟨.exception, .escalated, [.system, .operator], "case_escalated", false⟩,
    ⟨.investigating, .actionProposed, [.system], "verification_completed", false⟩,
    ⟨.investigating, .requestingEvidence, [.system], "evidence_requested", false⟩,
    ⟨.investigating, .escalated, [.system, .operator], "case_escalated", false⟩,
    ⟨.actionProposed, .approvalPending, [.system], "approval_required", false⟩,
    ⟨.actionProposed, .approved, [.approver], "approval_recorded", false⟩,
    ⟨.actionProposed, .requestingEvidence, [.system, .operator], "evidence_requested", false⟩,
    ⟨.actionProposed, .escalated, [.system, .operator], "case_escalated", false⟩,
    ⟨.actionProposed, .investigating, [.system], "proposal_invalidated", false⟩,
    ⟨.approvalPending, .approved, [.approver], "approval_recorded", false⟩,
    ⟨.approvalPending, .rejected, [.approver], "approval_recorded", false⟩,
    ⟨.approvalPending, .requestingEvidence, [.operator, .approver], "evidence_requested", false⟩,
    ⟨.approvalPending, .escalated, [.operator, .approver], "case_escalated", false⟩,
    ⟨.approvalPending, .investigating, [.system], "proposal_invalidated", false⟩,
    ⟨.approved, .staged, [.system], "staging_created", false⟩,
    ⟨.approved, .closed, [.system], "outcome_logged", true⟩,
    ⟨.rejected, .investigating, [.operator], "investigation_started", false⟩,
    ⟨.rejected, .escalated, [.operator, .approver], "case_escalated", false⟩,
    ⟨.requestingEvidence, .investigating, [.system, .operator], "evidence_received", false⟩,
    ⟨.requestingEvidence, .escalated, [.system, .operator], "evidence_request_expired", false⟩,
    ⟨.escalated, .reopened, [.operator, .approver, .admin], "case_reopened", false⟩,
    ⟨.escalated, .closed, [.operator, .approver, .admin], "case_closed", true⟩,
    ⟨.staged, .applied, [.system], "staged_action_applied", false⟩,
    ⟨.staged, .escalated, [.system], "case_escalated", false⟩,
    ⟨.applied, .outcomeLogged, [.system, .operator], "outcome_logged", false⟩,
    ⟨.outcomeLogged, .closed, [.system], "case_closed", true⟩,
    ⟨.closed, .reopened, [.admin], "case_reopened", false⟩,
    ⟨.reopened, .investigating, [.system, .operator], "investigation_started", false⟩ ]

def findTransition (fromState toState : CaseState) : Option TransitionRule :=
  TRANSITIONS.find? (fun t => t.fromState == fromState && t.toState == toState)

def canTransition (fromState toState : CaseState) : Bool :=
  (findTransition fromState toState).isSome

/-- The rank of a human role; `system` has none. -/
def HUMAN_RANK : TransitionActor → Option Nat
  | .system => none
  | .operator => some 1
  | .approver => some 2
  | .admin => some 3

/-- Whether an actor may drive a transition.  A human role has the permissions of the
roles below it. -/
def isActorPermitted (fromState toState : CaseState) (actor : TransitionActor) : Bool :=
  match findTransition fromState toState with
  | none => false
  | some rule =>
      if rule.actors.contains actor then true
      else
        match HUMAN_RANK actor with
        | none => false
        | some actorRank =>
            rule.actors.any fun permitted =>
              match HUMAN_RANK permitted with
              | none => false
              | some permittedRank => permittedRank ≤ actorRank

def requiresOutcomeRecord (fromState toState : CaseState) : Bool :=
  match findTransition fromState toState with
  | none => false
  | some rule => rule.requiresOutcome

structure ReconciliationCase where
  id : CaseId
  scope : MerchantScope
  caseNumber : String
  state : CaseState
  priority : Int
  discrepancy : Money
  deterministicReason : String
  caseVersion : Int
  openedAt : Date
  closedAt : Option Date
  deriving DecidableEq, Repr

inductive TransitionError
  | illegalTransition (fromState toState : CaseState)
  | actorNotPermitted (fromState toState : CaseState) (actor : TransitionActor)
  | outcomeRequired (fromState toState : CaseState)
  | versionConflict (expected actual : Int)
  deriving DecidableEq, Repr

structure TransitionRequest where
  toState : CaseState
  actor : TransitionActor
  expectedVersion : Int
  /-- Missing counts as not recorded. -/
  outcomeRecorded : Option Bool := none
  instant : Date
  deriving DecidableEq, Repr

/-- Applies a transition, or says which guard refused it. -/
def applyTransition (current : ReconciliationCase) (request : TransitionRequest) :
    Except TransitionError ReconciliationCase :=
  if current.caseVersion ≠ request.expectedVersion then
    .error (.versionConflict request.expectedVersion current.caseVersion)
  else if !canTransition current.state request.toState then
    .error (.illegalTransition current.state request.toState)
  else if !isActorPermitted current.state request.toState request.actor then
    .error (.actorNotPermitted current.state request.toState request.actor)
  else if requiresOutcomeRecord current.state request.toState ∧
      request.outcomeRecorded ≠ some true then
    .error (.outcomeRequired current.state request.toState)
  else
    .ok { current with
      state := request.toState
      caseVersion := current.caseVersion + 1
      closedAt := if request.toState = .closed then some request.instant else current.closedAt }

/-! ## What the table permits -/

/-- A rule of the table lets the actor make the step, outcome record included. -/
structure Permitted (fromState toState : CaseState) (actor : TransitionActor)
    (outcomeRecorded : Option Bool) : Prop where
  legal : canTransition fromState toState = true
  actor : isActorPermitted fromState toState actor = true
  outcome : requiresOutcomeRecord fromState toState = true → outcomeRecorded = some true

instance (fromState toState : CaseState) (actor : TransitionActor)
    (outcomeRecorded : Option Bool) :
    Decidable (Permitted fromState toState actor outcomeRecorded) :=
  decidable_of_iff
    (canTransition fromState toState = true ∧ isActorPermitted fromState toState actor = true ∧
      (requiresOutcomeRecord fromState toState = true → outcomeRecorded = some true))
    ⟨fun ⟨h₁, h₂, h₃⟩ => ⟨h₁, h₂, h₃⟩, fun ⟨h₁, h₂, h₃⟩ => ⟨h₁, h₂, h₃⟩⟩

/-- A permitted step is a rule of the table. -/
theorem Permitted.rule {fromState toState : CaseState} {actor : TransitionActor}
    {outcomeRecorded : Option Bool} (h : Permitted fromState toState actor outcomeRecorded) :
    ∃ rule ∈ TRANSITIONS, rule.fromState = fromState ∧ rule.toState = toState ∧
      (rule.requiresOutcome = true → outcomeRecorded = some true) := by
  have hlegal := h.legal
  have houtcome := h.outcome
  unfold canTransition at hlegal
  unfold requiresOutcomeRecord at houtcome
  cases hf : findTransition fromState toState with
  | none =>
      rw [hf] at hlegal
      cases hlegal
  | some rule =>
      rw [hf] at houtcome
      have hmatch := List.find?_some hf
      simp only [Bool.and_eq_true, beq_iff_eq] at hmatch
      exact ⟨rule, List.mem_of_find?_eq_some hf, hmatch.1, hmatch.2, houtcome⟩

/-- **A transition is applied exactly when it names the current version and the table
permits it**, and then moves the state, raises the version by one and nothing else but
the closing time. -/
theorem applyTransition_ok_iff {current next : ReconciliationCase}
    {request : TransitionRequest} :
    applyTransition current request = .ok next ↔
      current.caseVersion = request.expectedVersion ∧
      Permitted current.state request.toState request.actor request.outcomeRecorded ∧
      next = { current with
        state := request.toState
        caseVersion := current.caseVersion + 1
        closedAt := if request.toState = .closed then some request.instant
          else current.closedAt } := by
  unfold applyTransition
  split
  · rename_i hv
    simp [hv]
  rename_i hv
  split
  · rename_i hl
    refine ⟨fun h => (nomatch h), ?_⟩
    rintro ⟨-, hp, -⟩
    rw [hp.legal] at hl
    cases hl
  rename_i hl
  split
  · rename_i ha
    refine ⟨fun h => (nomatch h), ?_⟩
    rintro ⟨-, hp, -⟩
    rw [hp.actor] at ha
    cases ha
  rename_i ha
  split
  · rename_i ho
    refine ⟨fun h => (nomatch h), ?_⟩
    rintro ⟨-, hp, -⟩
    exact absurd (hp.outcome ho.1) ho.2
  · rename_i ho
    have hp : Permitted current.state request.toState request.actor
        request.outcomeRecorded := by
      refine ⟨by simpa using hl, by simpa using ha, fun hr => ?_⟩
      by_contra hne
      exact ho ⟨hr, hne⟩
    have hver : current.caseVersion = request.expectedVersion := by simpa using hv
    constructor
    · intro h
      exact ⟨hver, hp, (Except.ok.inj h).symm⟩
    · rintro ⟨-, -, rfl⟩
      rfl

end SettlementOps
