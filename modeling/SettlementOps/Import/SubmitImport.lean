import SettlementOps.Import.Normalizer
import SettlementOps.Interleave.Pool
import SettlementOps.Json
import SettlementOps.Store.Transactions

/-!
# Submitting an import

The import row, the records and the audit event are written in separate steps, and a replay
is decided by the idempotency key of the import row alone.

* `ImportDatabase`, `ImportStatement`, `execImport` — the tables and the repository calls, a
  batch of records in one.
* `SubmitStatement`, `execSubmit` — the statements, those of a batch one by one.
* `createOrGet`, `insertBatch`, `submitImport` — the use case, statement by statement.
* `importSystem` — any number of calls on one database.
* `committed`, `inserted` — what an executed statement has done to the records.
-/

namespace SettlementOps

open Interleave Relational

/-! ## The tables -/

inductive ImportStatus
  | pending
  | running
  | succeeded
  | failed
  deriving DecidableEq, Repr

structure ImportSummary where
  id : String
  merchantId : MerchantId
  sourceType : String
  status : ImportStatus
  submittedCount : Int
  acceptedCount : Int
  rejectedCount : Int
  duplicateCount : Int
  validationErrors : List ValidationError
  createdAt : Date
  completedAt : Option Date
  deriving DecidableEq, Repr

structure ImportRow extends ImportSummary where
  idempotencyKey : String
  correlationId : String
  deriving DecidableEq, Repr

/-- The key of the constraint `imports_idempotency_unique`. -/
def ImportRow.key (row : ImportRow) : MerchantId × String := (row.merchantId, row.idempotencyKey)

/-- The values of an inserted import but its id. -/
structure ImportStart where
  sourceType : String
  idempotencyKey : String
  submittedCount : Int
  correlationId : String
  deriving DecidableEq, Repr

structure ImportCounts where
  accepted : Int
  rejected : Int
  duplicates : Int
  validationErrors : List ValidationError
  deriving DecidableEq, Repr

structure IngestionEvent where
  entityType : String
  entityId : String
  eventType : String
  actorType : String
  actorId : Option String
  correlationId : String
  previousState : Option String
  nextState : Option String
  caseVersion : Option Int
  payload : JsonObject
  deriving DecidableEq, Repr

structure IngestionRow extends IngestionEvent where
  id : String
  scope : MerchantScope
  createdAt : Date
  deriving DecidableEq, Repr

structure ImportDatabase where
  imports : List ImportRow := []
  records : RecordStore := {}
  auditEvents : List IngestionRow := []
  deriving DecidableEq, Repr

/-! ## Statements -/

inductive ImportStatement
  | insertImport (scope : MerchantScope) (input : ImportStart)
  | selectImport (scope : MerchantScope) (idempotencyKey : String)
  | now
  | nextIds
  | insertMany (scope : MerchantScope) (importId : String) (records : List FinancialRecord)
  | completeImport (scope : MerchantScope) (id : String) (counts : ImportCounts)
  | insertAuditEvent (scope : MerchantScope) (event : IngestionEvent)
  | selectImportById (scope : MerchantScope) (id : String)

/-- What a statement answers with.  The inserts may fail; an insert of an import that met its
key returns no row. -/
abbrev ImportStatement.Answer : ImportStatement → Type
  | .insertImport _ _ => Option (Option ImportSummary)
  | .selectImport _ _ => Option ImportSummary
  | .now => Date
  | .nextIds => Nat → String
  | .insertMany _ _ _ => Option InsertCounts
  | .completeImport _ _ _ => Unit
  | .insertAuditEvent _ _ => Unit
  | .selectImportById _ _ => Option ImportSummary

/-- The clock and the generator of ids; the id of record `i` of a request is `recordId i`. -/
structure ImportSurroundings where
  now : Date
  uuid : String
  recordId : Nat → String

/-- The effect of one statement. -/
def execImport (ω : ImportSurroundings) :
    (a : ImportStatement) → ImportDatabase → a.Answer × ImportDatabase
  | .insertImport scope input, db =>
      let row : ImportRow := {
        id := ω.uuid
        merchantId := scope.merchantId
        sourceType := input.sourceType
        status := .running
        submittedCount := input.submittedCount
        acceptedCount := 0
        rejectedCount := 0
        duplicateCount := 0
        validationErrors := []
        createdAt := ω.now
        completedAt := none
        idempotencyKey := input.idempotencyKey
        correlationId := input.correlationId }
      match insertNew (·.id) ImportRow.key row db.imports with
      | none => (none, db)
      | some (0, _) => (some none, db)
      | some (_, imports) => (some (some row.toImportSummary), { db with imports })
  | .selectImport scope idempotencyKey, db =>
      ((db.imports.find? fun row => row.key = (scope.merchantId, idempotencyKey)).map
        (·.toImportSummary), db)
  | .now, db => (ω.now, db)
  | .nextIds, db => (ω.recordId, db)
  | .insertMany scope importId records, db =>
      let out := insertMany scope importId records db.records
      (out.1, { db with records := out.2 })
  | .completeImport scope id counts, db =>
      ((), { db with
        imports := db.imports.map fun row =>
          if row.id = id ∧ row.merchantId = scope.merchantId then
            { row with
              status := .succeeded
              acceptedCount := counts.accepted
              rejectedCount := counts.rejected
              duplicateCount := counts.duplicates
              validationErrors := counts.validationErrors
              completedAt := some ω.now }
          else row })
  | .insertAuditEvent scope event, db =>
      ((), { db with auditEvents := db.auditEvents ++ [⟨event, ω.uuid, scope, ω.now⟩] })
  | .selectImportById scope id, db =>
      ((db.imports.find? fun row => row.id = id ∧ row.merchantId = scope.merchantId).map
        (·.toImportSummary), db)

/-- The statements a call sends.  A batch of records is several, in one transaction. -/
inductive SubmitStatement
  | call (a : ImportStatement)
  | begin
  | insertRecord (scope : MerchantScope) (importId : String) (record : FinancialRecord)
      (tx : BatchTransaction)
  | commit (scope : MerchantScope) (tx : BatchTransaction)
  | rollback

/-- An insert answers with its transaction, and it or the commit may fail. -/
abbrev SubmitStatement.Answer : SubmitStatement → Type
  | .call a => a.Answer
  | .begin => BatchTransaction
  | .insertRecord _ _ _ _ => Option BatchTransaction
  | .commit _ _ => Option InsertCounts
  | .rollback => Unit

/-- The effect of one statement.  What a transaction writes is nobody else's before it commits. -/
def execSubmit (ω : ImportSurroundings) :
    (a : SubmitStatement) → ImportDatabase → a.Answer × ImportDatabase
  | .call a, db => execImport ω a db
  | .begin, db => ({}, db)
  | .insertRecord scope importId record tx, db =>
      (tx.insert scope.merchantId importId record db.records, db)
  | .commit _ tx, db =>
      let out := tx.commit db.records
      (out.map fun _ => tx.counts, { db with records := out.getD db.records })
  | .rollback, db => ((), db)

abbrev ImportProgram := Prog SubmitStatement SubmitStatement.Answer

/-- Send one statement. -/
def importQuery (a : SubmitStatement) : ImportProgram a.Answer := Prog.perform a

@[simp] theorem importQuery_bind {α : Type} (a : SubmitStatement) (f : a.Answer → ImportProgram α) :
    (importQuery a >>= f) = Prog.act a f := rfl

/-! ## The use case -/

inductive SubmitImportResult
  | accepted (summary : ImportSummary) (replayed : Bool)
  | validationError (issues : List String)
  | threw (message : String)
  deriving DecidableEq, Repr

/-- Creates an import, or returns the existing one for this idempotency key, and whether it
was created. -/
def createOrGet (scope : MerchantScope) (input : ImportStart) :
    ImportProgram (Except String (ImportSummary × Bool)) := do
  match ← importQuery (.call (.insertImport scope input)) with
  | none => pure (.error "duplicate key value violates unique constraint")
  | some (some summary) => pure (.ok (summary, true))
  | some none => do
      match ← importQuery (.call (.selectImport scope input.idempotencyKey)) with
      | none => pure (.error "import conflict resolved to no row")
      | some summary => pure (.ok (summary, false))

/-- `insertMany`, statement by statement. -/
def insertBatch (scope : MerchantScope) (importId : String) (records : List FinancialRecord) :
    ImportProgram (Option InsertCounts) := do
  if records.length = 0 then pure (some ⟨0, 0⟩)
  else
    let tx ← importQuery .begin
    match ← Prog.loop (fun tx record => importQuery (.insertRecord scope importId record tx))
        (inInsertOrder records) tx with
    | none => do
        let _ ← importQuery .rollback
        pure none
    | some tx => do
        match ← importQuery (.commit scope tx) with
        | none => do
            let _ ← importQuery .rollback
            pure none
        | some counts => pure (some counts)

structure SubmitImportInput (Body : Type) where
  body : Body
  idempotencyKey : String
  deriving DecidableEq, Repr

def ingestedEvent (ctx : RequestContext) (importId : String) (submitted : Int)
    (counts : ImportCounts) : IngestionEvent where
  entityType := "import"
  entityId := importId
  eventType := "financial_record_ingested"
  actorType := "USER"
  actorId := some ctx.userId
  correlationId := ctx.correlationId
  previousState := none
  nextState := some "SUCCEEDED"
  caseVersion := none
  payload := [("submitted", .num submitted), ("accepted", .num counts.accepted),
    ("duplicates", .num counts.duplicates), ("rejected", .num counts.rejected)]

section SubmitImport

variable {Body : Type} (P : Readers Body)

/-- What follows the creation of the import: normalize, persist, complete, audit. -/
def ingest (ctx : RequestContext) (request : ImportRequestDto) (summary : ImportSummary) :
    ImportProgram SubmitImportResult := do
  let scope := scopeOf ctx
  let ingestedAt ← importQuery (.call .now)
  let recordId ← importQuery (.call .nextIds)
  let results := normalizeRecords P.parseDate ctx request.records recordId ingestedAt
  let validationErrors := validationErrorsOf results
  match ← insertBatch scope summary.id (normalizedOf results) with
  | none => pure (.threw "duplicate key value violates unique constraint")
  | some inserted => do
      let counts : ImportCounts :=
        ⟨inserted.accepted, validationErrors.length, inserted.duplicates, validationErrors⟩
      let _ ← importQuery (.call (.completeImport scope summary.id counts))
      let _ ← importQuery (.call (.insertAuditEvent scope
        (ingestedEvent ctx summary.id request.records.length counts)))
      let final ← importQuery (.call (.selectImportById scope summary.id))
      pure (.accepted (final.getD summary) false)

def submitImport (ctx : RequestContext) (input : SubmitImportInput Body) :
    ImportProgram SubmitImportResult :=
  match P.safeParse input.body with
  | .error issues => pure (.validationError issues)
  | .ok request => do
      match ← createOrGet (scopeOf ctx) ⟨request.sourceType, input.idempotencyKey,
          request.records.length, ctx.correlationId⟩ with
      | .error message => pure (.threw message)
      -- a replay returns the original result and writes nothing further
      | .ok (summary, false) => pure (.accepted summary true)
      | .ok (summary, true) => ingest P ctx request summary

/-- One call. -/
structure ImportCall (Body : Type) where
  ctx : RequestContext
  input : SubmitImportInput Body
  deriving DecidableEq, Repr

/-- Any number of calls on one database. -/
def importSystem : System ImportDatabase ImportSurroundings SubmitStatement
    SubmitStatement.Answer (ImportCall Body) SubmitImportResult where
  exec := execSubmit
  prog call := submitImport P call.ctx call.input

end SubmitImport

/-! ## What a statement does to the records -/

/-- An executed statement of a call. -/
abbrev ExecutedImport (Body : Type) :=
  Entry ImportSurroundings SubmitStatement SubmitStatement.Answer (ImportCall Body)

/-- The batch an executed statement committed, with its merchant. -/
def committed {Body : Type} : ExecutedImport Body → Option (MerchantId × List FinancialRecord)
  | ⟨_, _, .commit scope tx, some _, _⟩ => some (scope.merchantId, tx.records)
  | _ => none

/-- The record an executed statement inserted for a merchant, and its transaction before and
after. -/
def inserted {Body : Type} : ExecutedImport Body →
    Option (MerchantId × FinancialRecord × BatchTransaction × BatchTransaction)
  | ⟨_, _, .insertRecord scope _ record tx, some tx', _⟩ =>
      some (scope.merchantId, record, tx, tx')
  | _ => none

/-- The entry of the statement as it is executed. -/
def executedImport {Body : Type} (i : Nat) (ℓ : ImportCall Body) (a : SubmitStatement)
    (ω : ImportSurroundings) (db : ImportDatabase) : ExecutedImport Body :=
  ⟨i, ℓ, a, (execSubmit ω a db).1, ω⟩

/-- A statement that neither inserts nor commits, in a transaction or of its own. -/
def SubmitStatement.Quiet : SubmitStatement → Prop
  | .call (.insertMany _ _ _) => False
  | .insertRecord _ _ _ _ => False
  | .commit _ _ => False
  | _ => True

/-- It leaves the records as they are. -/
theorem quiet_records {a : SubmitStatement} (h : a.Quiet) (ω : ImportSurroundings)
    (db : ImportDatabase) : (execSubmit ω a db).2.records = db.records := by
  cases a with
  | call a =>
      cases a with
      | insertMany scope importId records => exact h.elim
      | insertImport scope input =>
          simp only [execSubmit, execImport]
          split <;> rfl
      | _ => rfl
  | insertRecord scope importId record tx => exact h.elim
  | commit scope tx => exact h.elim
  | begin => rfl
  | rollback => rfl

/-- What a commit does. -/
theorem commit_cases (ω : ImportSurroundings) (scope : MerchantScope) (tx : BatchTransaction)
    (db : ImportDatabase) :
    (execSubmit ω (.commit scope tx) db).1 = none ∧
        (execSubmit ω (.commit scope tx) db).2 = db ∨
      (execSubmit ω (.commit scope tx) db).1 = some tx.counts ∧
        (execSubmit ω (.commit scope tx) db).2.records = db.records.overlay tx.written := by
  have hcommit : tx.commit db.records = none ∨
      tx.commit db.records = some (db.records.overlay tx.written) := by
    unfold BatchTransaction.commit
    split
    · exact .inr rfl
    · exact .inl rfl
  simp only [execSubmit]
  rcases hcommit with h | h
  · rw [h]
    exact .inl ⟨rfl, rfl⟩
  · rw [h]
    exact .inr ⟨rfl, rfl⟩

end SettlementOps
