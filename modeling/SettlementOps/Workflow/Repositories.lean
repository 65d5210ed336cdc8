import SettlementOps.Workflow.Database

/-!
# The repositories of the case workflow

Each method is a program of statements.  The transition is the important one: its checks
run on a row it has read, and its write repeats state and version in the `WHERE` clause.

* `transition` — a read, the checks, the guarded update.
* `InvestigationRepository.start`, `finish`, `EvidenceRequestRepository.open` — inserts
  that fall back on the row they conflict with.
-/

namespace SettlementOps

open Interleave

structure TransitionInput where
  caseId : CaseId
  toState : CaseState
  actor : TransitionActor
  expectedVersion : Int
  outcomeRecorded : Option Bool := none
  deriving DecidableEq, Repr

structure CaseTransitionResult where
  caseId : CaseId
  previousState : CaseState
  nextState : CaseState
  caseVersion : Int
  deriving DecidableEq, Repr

inductive TransitionFailure
  | notFound
  | versionConflict (actual : Int)
  | illegalTransition (fromState toState : CaseState)
  | actorNotPermitted (fromState toState : CaseState) (actor : TransitionActor)
  | outcomeRequired
  deriving DecidableEq, Repr

abbrev TransitionOutcome := Except TransitionFailure CaseTransitionResult

/-- What the check of a read row comes to: the reason it refuses the transition. -/
def refusal (input : TransitionInput) (fromState : CaseState) (caseVersion : Int) :
    Option TransitionFailure :=
  if caseVersion ≠ input.expectedVersion then some (.versionConflict caseVersion)
  else if !canTransition fromState input.toState then
    some (.illegalTransition fromState input.toState)
  else if !isActorPermitted fromState input.toState input.actor then
    some (.actorNotPermitted fromState input.toState input.actor)
  else if requiresOutcomeRecord fromState input.toState ∧ input.outcomeRecorded ≠ some true then
    some .outcomeRequired
  else none

/-- After a missed update the caller learns the version the row has now. -/
def reportConflict (scope : MerchantScope) (input : TransitionInput) :
    CaseProgram TransitionOutcome := do
  let latest ← query (.selectCaseVersion scope input.caseId)
  pure (.error (.versionConflict (latest.getD (-1))))

/-- The `WHERE` clause repeats state and version, so a transition in between the read and
this write makes it miss rather than corrupt. -/
def guardedWrite (scope : MerchantScope) (input : TransitionInput) (fromState : CaseState) :
    CaseProgram TransitionOutcome := do
  match ← query (.updateCase scope input.caseId input.toState fromState
      input.expectedVersion) with
  | some after => pure (.ok ⟨input.caseId, fromState, input.toState, after⟩)
  | none => reportConflict scope input

/-- Read, check, write. -/
def transition (scope : MerchantScope) (input : TransitionInput) :
    CaseProgram TransitionOutcome := do
  match ← query (.selectCase scope input.caseId) with
  | none => pure (.error .notFound)
  | some (fromState, caseVersion) =>
      match refusal input fromState caseVersion with
      | some failure => pure (.error failure)
      | none => guardedWrite scope input fromState

/-- The investigation a start ended up with, and whether it is new. -/
structure InvestigationStarted where
  investigation : InvestigationRecord
  created : Bool
  deriving DecidableEq, Repr

namespace InvestigationRepository

/-- One running investigation a case; a conflict that resolves to no row throws. -/
def start (scope : MerchantScope) (input : InvestigationStart) :
    CaseProgram (Except String InvestigationStarted) := do
  match ← query (.insertInvestigation scope input) with
  | some row => pure (.ok ⟨row, true⟩)
  | none =>
      match ← query (.selectRunningInvestigation scope input.caseId) with
      | none => pure (.error "investigation conflict resolved to no row")
      | some found => pure (.ok ⟨found, false⟩)

def finish (scope : MerchantScope) (id : String) (status : InvestigationStatus)
    (failureCode : Option String) : CaseProgram Unit :=
  query (.updateInvestigation scope id status failureCode)

end InvestigationRepository

namespace EvidenceRequestRepository

structure EvidenceOpened where
  request : EvidenceRequestRecord
  created : Bool
  deriving DecidableEq, Repr

/-- One open request a case. -/
def «open» (scope : MerchantScope) (input : EvidenceOpening) :
    CaseProgram (Except String EvidenceOpened) := do
  match ← query (.insertEvidenceRequest scope input) with
  | some row => pure (.ok ⟨row, true⟩)
  | none =>
      match ← query (.selectOpenEvidenceRequest scope input.caseId) with
      | none => pure (.error "evidence request conflict resolved to no row")
      | some found => pure (.ok ⟨found, false⟩)

end EvidenceRequestRepository

/-- Append one event to the trail. -/
def appendAudit (scope : MerchantScope) (event : AuditEvent) : CaseProgram Unit :=
  query (.insertAuditEvent scope event)

/-! ## The checks -/

/-- The checks pass exactly when the row has the named version and the table permits the
step. -/
theorem refusal_eq_none_iff {input : TransitionInput} {fromState : CaseState} {v : Int} :
    refusal input fromState v = none ↔
      v = input.expectedVersion ∧
        Permitted fromState input.toState input.actor input.outcomeRecorded := by
  unfold refusal
  constructor
  · intro h
    split at h
    · cases h
    rename_i hv
    split at h
    · cases h
    rename_i hl
    split at h
    · cases h
    rename_i ha
    split at h
    · cases h
    rename_i ho
    refine ⟨by simpa using hv, by simpa using hl, by simpa using ha, fun hr => ?_⟩
    by_contra hne
    exact ho ⟨hr, hne⟩
  · rintro ⟨hv, hp⟩
    have ho : ¬ (requiresOutcomeRecord fromState input.toState = true ∧
        input.outcomeRecorded ≠ some true) := fun h => h.2 (hp.outcome h.1)
    simp [hv, hp.legal, hp.actor, ho]

end SettlementOps
