import SettlementOps.Case.Transitions
import SettlementOps.Interleave.Pool
import SettlementOps.Json
import SettlementOps.Verification.Verifier

/-!
# The tables of the case workflow

Case rows, investigations, evidence requests and the audit trail, with the statements the
repositories send.  PostgreSQL executes one statement atomically, so each of them is one
action; `clock.now`, the agent's investigation and the verifier are actions as well, since
they are what a run of the workflow is judged by.

* `Database`, `Statement`, `Statement.Answer`, `exec` — the tables and what a statement does.
* `applied` — the transition an executed statement applied, if it did.
* `appended` — the audit row it appended, if it did.
* `exec_of_applied`, `exec_of_not_applied`, `exec_auditEvents` — all that a statement can do
  to a case row and to the trail.
-/

namespace SettlementOps

open Interleave

/-! ## The agent's investigation -/

inductive StopReason
  | proposalMade
  | budgetExhausted
  | noProgress
  | repeatedToolCall
  | wallclockExceeded
  | modelUnavailable
  | modelTimeout
  | modelError
  | modelSchemaViolation
  | modelDigestMismatch
  | injectionDetected
  deriving DecidableEq, Repr

def StopReason.code : StopReason → String
  | .proposalMade => "PROPOSAL_MADE"
  | .budgetExhausted => "BUDGET_EXHAUSTED"
  | .noProgress => "NO_PROGRESS"
  | .repeatedToolCall => "REPEATED_TOOL_CALL"
  | .wallclockExceeded => "WALLCLOCK_EXCEEDED"
  | .modelUnavailable => "MODEL_UNAVAILABLE"
  | .modelTimeout => "MODEL_TIMEOUT"
  | .modelError => "MODEL_ERROR"
  | .modelSchemaViolation => "MODEL_SCHEMA_VIOLATION"
  | .modelDigestMismatch => "MODEL_DIGEST_MISMATCH"
  | .injectionDetected => "INJECTION_DETECTED"

structure AgentTrace where
  step : Nat
  action : String
  tool : Option String
  summary : String
  deriving DecidableEq, Repr

structure InvestigationResult where
  proposedCause : Option CauseCode
  proposedDisposition : Disposition
  rationale : String
  evidenceRecordIds : List String
  toolCallCount : Nat
  stopReason : StopReason
  trace : List AgentTrace
  deriving DecidableEq, Repr

/-! ## Rows -/

inductive InvestigationStatus
  | running
  | succeeded
  | failed
  deriving DecidableEq, Repr

structure InvestigationRecord where
  id : String
  caseId : CaseId
  status : InvestigationStatus
  failureCode : Option String
  caseVersionAtStart : Int
  toolCallCount : Int
  policyVersion : String
  startedAt : Date
  finishedAt : Option Date
  deriving DecidableEq, Repr

structure InvestigationRow extends InvestigationRecord where
  scope : MerchantScope
  correlationId : String
  deriving DecidableEq, Repr

inductive EvidenceStatus
  | opened
  | resolved
  | expired
  deriving DecidableEq, Repr

structure EvidenceRequestRecord where
  id : String
  caseId : CaseId
  detail : String
  status : EvidenceStatus
  expiresAt : Date
  createdAt : Date
  deriving DecidableEq, Repr

structure EvidenceRow extends EvidenceRequestRecord where
  scope : MerchantScope
  requestedBy : String
  deriving DecidableEq, Repr

inductive ActorType
  | system
  | user
  deriving DecidableEq, Repr

structure AuditEvent where
  entityType : String
  entityId : String
  eventType : String
  actorType : ActorType
  actorId : Option String
  correlationId : String
  previousState : Option CaseState
  nextState : Option CaseState
  caseVersion : Option Int
  payload : JsonObject
  deriving DecidableEq, Repr

structure AuditRow extends AuditEvent where
  id : String
  scope : MerchantScope
  createdAt : Date
  deriving DecidableEq, Repr

structure Database where
  cases : CaseId → Option ReconciliationCase
  investigations : List InvestigationRow
  evidenceRequests : List EvidenceRow
  auditEvents : List AuditRow

/-- A row of `reconciliation_cases` by id and merchant. -/
def Database.caseOf (db : Database) (scope : MerchantScope) (caseId : CaseId) :
    Option ReconciliationCase :=
  (db.cases caseId).filter (fun row => row.scope = scope)

/-- The row is in a state, at a version. -/
def Database.isAt (db : Database) (scope : MerchantScope) (caseId : CaseId) (state : CaseState)
    (caseVersion : Int) : Bool :=
  (db.caseOf scope caseId).any fun row => row.state == state && row.caseVersion == caseVersion

/-! ## Statements -/

/-- The values of an inserted investigation but its id. -/
structure InvestigationStart where
  caseId : CaseId
  caseVersionAtStart : Int
  policyVersion : String
  correlationId : String
  deriving DecidableEq, Repr

structure EvidenceOpening where
  caseId : CaseId
  requestedBy : String
  detail : String
  expiresAt : Date
  deriving DecidableEq, Repr

inductive Statement
  | selectCase (scope : MerchantScope) (caseId : CaseId)
  | updateCase (scope : MerchantScope) (caseId : CaseId) (toState fromState : CaseState)
      (expectedVersion : Int)
  | selectCaseVersion (scope : MerchantScope) (caseId : CaseId)
  | insertInvestigation (scope : MerchantScope) (input : InvestigationStart)
  | selectRunningInvestigation (scope : MerchantScope) (caseId : CaseId)
  | updateInvestigation (scope : MerchantScope) (id : String) (status : InvestigationStatus)
      (failureCode : Option String)
  | insertEvidenceRequest (scope : MerchantScope) (input : EvidenceOpening)
  | selectOpenEvidenceRequest (scope : MerchantScope) (caseId : CaseId)
  | insertAuditEvent (scope : MerchantScope) (event : AuditEvent)
  | now
  | runInvestigation (scope : MerchantScope) (paymentId : String) (unit : ReconciliationUnit)
  | verify (proposal : Proposal) (unit : ReconciliationUnit)

/-- What a statement answers with; an insert that met a conflict returns no row. -/
abbrev Statement.Answer : Statement → Type
  | .selectCase _ _ => Option (CaseState × Int)
  | .updateCase _ _ _ _ _ => Option Int
  | .selectCaseVersion _ _ => Option Int
  | .insertInvestigation _ _ => Option InvestigationRecord
  | .selectRunningInvestigation _ _ => Option InvestigationRecord
  | .updateInvestigation _ _ _ _ => Unit
  | .insertEvidenceRequest _ _ => Option EvidenceRequestRecord
  | .selectOpenEvidenceRequest _ _ => Option EvidenceRequestRecord
  | .insertAuditEvent _ _ => Unit
  | .now => Date
  | .runInvestigation _ _ _ => InvestigationResult
  | .verify _ _ => VerificationResult

/-- What a statement takes from its surroundings: the clock, a generated id, which no
other row has, and whatever the model made of the case. -/
structure Surroundings where
  now : Date
  uuid : String
  investigation : InvestigationResult
  deriving DecidableEq, Repr

/-- A case in the state a transition moves it to. -/
def ReconciliationCase.moved (row : ReconciliationCase) (toState : CaseState) (now : Date) :
    ReconciliationCase :=
  { row with
    state := toState
    caseVersion := row.caseVersion + 1
    closedAt := if toState = .closed then some now else row.closedAt }

/-- The effect of one statement. -/
def exec (ω : Surroundings) : (a : Statement) → Database → a.Answer × Database
  | .selectCase scope caseId, db =>
      ((db.caseOf scope caseId).map fun row => (row.state, row.caseVersion), db)
  | .updateCase scope caseId toState fromState expectedVersion, db =>
      match db.caseOf scope caseId with
      | none => (none, db)
      | some row =>
          if row.state = fromState ∧ row.caseVersion = expectedVersion then
            (some (row.caseVersion + 1), { db with
              cases := Function.update db.cases caseId (some (row.moved toState ω.now)) })
          else (none, db)
  | .selectCaseVersion scope caseId, db =>
      ((db.caseOf scope caseId).map (·.caseVersion), db)
  | .insertInvestigation scope input, db =>
      -- the partial unique index: one running investigation a case
      if db.investigations.any (fun r => r.caseId = input.caseId ∧ r.status = .running) then
        (none, db)
      else
        let record : InvestigationRecord := {
          id := ω.uuid
          caseId := input.caseId
          status := .running
          failureCode := none
          caseVersionAtStart := input.caseVersionAtStart
          toolCallCount := 0
          policyVersion := input.policyVersion
          startedAt := ω.now
          finishedAt := none }
        (some record, { db with
          investigations := db.investigations ++
            [⟨record, scope, input.correlationId⟩] })
  | .selectRunningInvestigation scope caseId, db =>
      ((db.investigations.find? fun r =>
        r.caseId = caseId ∧ r.scope = scope ∧ r.status = .running).map
          (·.toInvestigationRecord), db)
  | .updateInvestigation scope id status failureCode, db =>
      ((), { db with
        investigations := db.investigations.map fun r =>
          if r.id = id ∧ r.scope = scope then
            { r with status, failureCode, finishedAt := some ω.now }
          else r })
  | .insertEvidenceRequest scope input, db =>
      if db.evidenceRequests.any (fun r => r.caseId = input.caseId ∧ r.status = .opened) then
        (none, db)
      else
        let record : EvidenceRequestRecord := {
          id := ω.uuid
          caseId := input.caseId
          detail := input.detail
          status := .opened
          expiresAt := input.expiresAt
          createdAt := ω.now }
        (some record, { db with
          evidenceRequests := db.evidenceRequests ++ [⟨record, scope, input.requestedBy⟩] })
  | .selectOpenEvidenceRequest scope caseId, db =>
      ((db.evidenceRequests.find? fun r =>
        r.caseId = caseId ∧ r.scope = scope ∧ r.status = .opened).map
          (·.toEvidenceRequestRecord), db)
  | .insertAuditEvent scope event, db =>
      ((), { db with auditEvents := db.auditEvents ++ [⟨event, ω.uuid, scope, ω.now⟩] })
  | .now, db => (ω.now, db)
  | .runInvestigation _ _ _, db => (ω.investigation, db)
  | .verify proposal unit, db => (SettlementOps.verify proposal unit, db)

/-- The programs of the workflow. -/
abbrev CaseProgram := Prog Statement Statement.Answer

/-- Send one statement. -/
def query (a : Statement) : CaseProgram a.Answer := Prog.perform a

@[simp] theorem query_bind {α : Type} (a : Statement) (f : a.Answer → CaseProgram α) :
    (query a >>= f) = Prog.act a f := rfl

/-! ## What an executed statement did -/

/-- An executed statement of a call in `L`. -/
abbrev Executed (L : Type) := Entry Surroundings Statement Statement.Answer L

structure AppliedTransition where
  caseId : CaseId
  fromState : CaseState
  toState : CaseState
  caseVersion : Int
  deriving DecidableEq, Repr

variable {L : Type}

/-- The transition an executed statement applied. -/
def applied : Executed L → Option AppliedTransition
  | ⟨_, _, .updateCase _ caseId toState fromState _, some caseVersion, _⟩ =>
      some ⟨caseId, fromState, toState, caseVersion⟩
  | _ => none

/-- The audit row an executed statement appended. -/
def appended : Executed L → Option AuditRow
  | ⟨_, _, .insertAuditEvent scope event, _, ω⟩ => some ⟨event, ω.uuid, scope, ω.now⟩
  | _ => none

/-- The entry of the statement as it is executed. -/
def executed (i : Nat) (ℓ : L) (a : Statement) (ω : Surroundings) (db : Database) :
    Executed L :=
  ⟨i, ℓ, a, (exec ω a db).1, ω⟩

@[simp] theorem own_executed (i : Nat) (ℓ : L) (a : Statement) (ω : Surroundings)
    (db : Database) : own i [executed i ℓ a ω db] = [executed i ℓ a ω db] :=
  own_singleton_self i ℓ a _ ω

theorem Database.caseOf_eq_some {db : Database} {scope : MerchantScope} {caseId : CaseId}
    {row : ReconciliationCase} :
    db.caseOf scope caseId = some row ↔ db.cases caseId = some row ∧ row.scope = scope := by
  simp [Database.caseOf, Option.filter_eq_some_iff]

theorem Database.isAt_iff {db : Database} {scope : MerchantScope} {caseId : CaseId}
    {state : CaseState} {caseVersion : Int} :
    db.isAt scope caseId state caseVersion = true ↔
      ∃ row, db.cases caseId = some row ∧ row.scope = scope ∧ row.state = state ∧
        row.caseVersion = caseVersion := by
  simp only [Database.isAt, Option.any_eq_true, Bool.and_eq_true, beq_iff_eq]
  constructor
  · rintro ⟨row, hrow, hstate, hversion⟩
    obtain ⟨hcase, hscope⟩ := Database.caseOf_eq_some.1 hrow
    exact ⟨row, hcase, hscope, hstate, hversion⟩
  · rintro ⟨row, hcase, hscope, hstate, hversion⟩
    exact ⟨row, Database.caseOf_eq_some.2 ⟨hcase, hscope⟩, hstate, hversion⟩

/-- The guarded update applies exactly when the row is as it was read. -/
theorem exec_updateCase_eq_some {ω : Surroundings} {scope : MerchantScope} {caseId : CaseId}
    {toState fromState : CaseState} {expectedVersion v : Int} {db : Database} :
    (exec ω (.updateCase scope caseId toState fromState expectedVersion) db).1 = some v ↔
      ∃ row, db.cases caseId = some row ∧ row.scope = scope ∧ row.state = fromState ∧
        row.caseVersion = expectedVersion ∧ v = expectedVersion + 1 := by
  simp only [exec]
  constructor
  · intro h
    split at h
    · cases h
    rename_i row hrow
    obtain ⟨hcase, hscope⟩ := Database.caseOf_eq_some.1 hrow
    split at h
    · rename_i hguard
      refine ⟨row, hcase, hscope, hguard.1, hguard.2, ?_⟩
      rw [← hguard.2]
      exact (Option.some.inj h).symm
    · cases h
  · rintro ⟨row, hcase, hscope, hstate, hversion, rfl⟩
    rw [Database.caseOf_eq_some.2 ⟨hcase, hscope⟩]
    simp [hstate, hversion]

theorem exec_updateCase_of_isAt {ω : Surroundings} {scope : MerchantScope} {caseId : CaseId}
    {toState fromState : CaseState} {v : Int} {db : Database}
    (h : db.isAt scope caseId fromState v = true) :
    (exec ω (.updateCase scope caseId toState fromState v) db).1 = some (v + 1) := by
  obtain ⟨row, hcase, hscope, hstate, hversion⟩ := Database.isAt_iff.1 h
  exact exec_updateCase_eq_some.2 ⟨row, hcase, hscope, hstate, hversion, rfl⟩

theorem exec_selectCase_of_isAt {ω : Surroundings} {scope : MerchantScope} {caseId : CaseId}
    {state : CaseState} {v : Int} {db : Database} (h : db.isAt scope caseId state v = true) :
    (exec ω (.selectCase scope caseId) db).1 = some (state, v) := by
  obtain ⟨row, hcase, hscope, hstate, hversion⟩ := Database.isAt_iff.1 h
  simp only [exec, Database.caseOf_eq_some.2 ⟨hcase, hscope⟩, Option.map_some, hstate, hversion]

/-- An applied transition moves its case by one version and touches no other. -/
theorem exec_of_applied {i : Nat} {ℓ : L} {a : Statement} {ω : Surroundings} {db : Database}
    {t : AppliedTransition} (h : applied (executed i ℓ a ω db) = some t) :
    ∃ row, db.cases t.caseId = some row ∧ row.state = t.fromState ∧
      row.caseVersion + 1 = t.caseVersion ∧
      (exec ω a db).2.cases =
        Function.update db.cases t.caseId (some (row.moved t.toState ω.now)) := by
  cases a with
  | updateCase scope caseId toState fromState expectedVersion =>
      cases hv : (exec ω (.updateCase scope caseId toState fromState expectedVersion) db).1 with
      | none => simp [executed, applied, hv] at h
      | some v =>
          simp only [executed, applied, hv, Option.some.injEq] at h
          subst h
          obtain ⟨row, hcase, hscope, hstate, hversion, rfl⟩ := exec_updateCase_eq_some.1 hv
          refine ⟨row, hcase, hstate, by rw [hversion], ?_⟩
          simp [exec, Database.caseOf_eq_some.2 ⟨hcase, hscope⟩, hstate, hversion]
  | _ => cases h

/-- Without an applied transition the case rows stay. -/
theorem exec_of_not_applied {i : Nat} {ℓ : L} {a : Statement} {ω : Surroundings}
    {db : Database} (h : applied (executed i ℓ a ω db) = none) :
    (exec ω a db).2.cases = db.cases := by
  cases a with
  | updateCase scope caseId toState fromState expectedVersion =>
      simp only [exec]
      split
      · rfl
      rename_i row hrow
      split
      · rename_i hguard
        simp [executed, applied, exec, hrow, hguard] at h
      · rfl
  | insertInvestigation scope input =>
      simp only [exec]
      split <;> rfl
  | insertEvidenceRequest scope input =>
      simp only [exec]
      split <;> rfl
  | _ => rfl

/-- A step takes a row to itself or to its next version. -/
theorem exec_cases_step (ω : Surroundings) (a : Statement) (db : Database) (caseId : CaseId)
    {row : ReconciliationCase} (h : db.cases caseId = some row) :
    ∃ row', (exec ω a db).2.cases caseId = some row' ∧ row'.scope = row.scope ∧
      (row' = row ∨ row'.caseVersion = row.caseVersion + 1) := by
  cases happ : applied (executed 0 () a ω db) with
  | none =>
      rw [exec_of_not_applied happ]
      exact ⟨row, h, rfl, .inl rfl⟩
  | some t =>
      obtain ⟨row₁, hrow₁, -, -, hcases⟩ := exec_of_applied happ
      rw [hcases]
      by_cases hid : caseId = t.caseId
      · subst hid
        rw [hrow₁] at h
        cases h
        exact ⟨_, Function.update_self .., rfl, .inr rfl⟩
      · exact ⟨row, by rw [Function.update_of_ne hid, h], rfl, .inl rfl⟩

/-- The trail only grows, by the appended rows. -/
theorem exec_auditEvents (i : Nat) (ℓ : L) (a : Statement) (ω : Surroundings)
    (db : Database) :
    (exec ω a db).2.auditEvents =
      db.auditEvents ++ (appended (executed i ℓ a ω db)).toList := by
  cases a with
  | updateCase scope caseId toState fromState expectedVersion =>
      simp only [exec]
      split
      · simp [executed, appended]
      split <;> simp [executed, appended]
  | insertInvestigation scope input =>
      simp only [exec]
      split <;> simp [executed, appended]
  | insertEvidenceRequest scope input =>
      simp only [exec]
      split <;> simp [executed, appended]
  | _ => simp [exec, executed, appended]

/-! ## One open case -/

def sampleCase : ReconciliationCase where
  id := "case-1"
  scope := ⟨"merchant-1"⟩
  caseNumber := "CASE-1"
  state := .exception
  priority := 0
  discrepancy := ⟨100, "INR"⟩
  deterministicReason := "VARIANCE"
  caseVersion := 1
  openedAt := ⟨0⟩
  closedAt := none

def sampleDatabase : Database where
  cases := fun caseId => if caseId = "case-1" then some sampleCase else none
  investigations := []
  evidenceRequests := []
  auditEvents := []

/-- A surroundings in which the model is not there. -/
def quietSurroundings : Surroundings where
  now := ⟨0⟩
  uuid := "uuid"
  investigation := {
    proposedCause := none
    proposedDisposition := .escalate
    rationale := ""
    evidenceRecordIds := []
    toolCallCount := 0
    stopReason := .modelUnavailable
    trace := [] }

end SettlementOps
