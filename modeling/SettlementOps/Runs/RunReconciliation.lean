import SettlementOps.Auth.RequestContext
import SettlementOps.Case.Transitions
import SettlementOps.Import.SubmitImport
import SettlementOps.Store.UnitLoader

/-!
# Reconciliation runs

A run lists the captured payments of an import, evaluates a bounded number of them and writes
a case for each one that does not reconcile.  The run row, each case and each audit event are
written in separate steps.  The id of a run is generated by the call itself.

Nothing that the batch of an import writes is seen before its commit; so to the runs a batch is
one statement, executed when it is committed.

* `RunDatabase`, `RunStatement`, `execRun` — the tables and the repository calls.
* `createResidual`, `evaluatePayment`, `runReconciliation` — the use case, statement by
  statement.
* `reconciliationRunsRoute` — the route, with its bound on the payments of one run.
* `runSystem` — any number of calls on one database, among the statements of imports.
* `only_program` — the statements a call sends.
* `startedRun`, `createdCase`, `appendedEvent` — what an executed statement added.
* `execRun_wellFormed` — every statement keeps the constraints.
-/

namespace SettlementOps

open Interleave Relational

/-! ## The tables -/

inductive RunStatus
  | pending
  | running
  | succeeded
  | failed
  deriving DecidableEq, Repr

structure ReconciliationRunSummary where
  id : String
  merchantId : MerchantId
  importId : Option String
  status : RunStatus
  policyVersion : String
  evaluatedCount : Nat
  reconciledCount : Nat
  residualCount : Nat
  failureCode : Option String
  createdAt : Date
  completedAt : Option Date
  deriving DecidableEq, Repr

structure RunRow extends ReconciliationRunSummary where
  correlationId : String
  deriving DecidableEq, Repr

/-- A case with the run and the payment that produced it. -/
structure CaseRow extends ReconciliationCase where
  runId : Option String
  paymentId : Option PaymentId
  reasons : List ResidualReason
  checks : List ReconciliationCheck
  policyVersion : Option String
  deriving DecidableEq, Repr

/-- The key of the partial index `cases_run_payment_unique`. -/
def CaseRow.runPayment (row : CaseRow) : Option (String × PaymentId) :=
  row.runId.bind fun runId => row.paymentId.map fun paymentId => (runId, paymentId)

/-- The key of the constraint `cases_number_unique`. -/
def CaseRow.number (row : CaseRow) : MerchantScope × String := (row.scope, row.caseNumber)

structure CaseSourceRecord where
  caseId : CaseId
  scope : MerchantScope
  recordType : String
  recordId : String
  deriving DecidableEq, Repr

/-- The key of the constraint `case_source_records_unique`. -/
def CaseSourceRecord.key (row : CaseSourceRecord) : CaseId × String × String :=
  (row.caseId, row.recordType, row.recordId)

structure RunDatabase extends ImportDatabase where
  runs : List RunRow := []
  cases : List CaseRow := []
  caseSourceRecords : List CaseSourceRecord := []
  deriving DecidableEq, Repr

/-- The constraints on the records, the runs and the cases. -/
structure RunDatabase.WellFormed (db : RunDatabase) : Prop where
  records : SettlementOps.WellFormed db.records
  runs : Unique (·.id) db.runs
  cases : Unique (·.id) db.cases
  number : Unique CaseRow.number db.cases
  runPayment : (db.cases.filterMap CaseRow.runPayment).Nodup
  caseRun : References (·.runId) (·.id) db.cases db.runs

theorem RunDatabase.wellFormed_of_records {records : RecordStore}
    (h : SettlementOps.WellFormed records) : RunDatabase.WellFormed { records := records } where
  records := h
  runs := unique_nil _
  cases := unique_nil _
  number := unique_nil _
  runPayment := List.nodup_nil
  caseRun := references_nil _ _ _

/-! ## Statements -/

structure RunStart where
  id : String
  importId : Option String
  policyVersion : String
  correlationId : String
  deriving DecidableEq, Repr

structure NewResidual where
  id : CaseId
  caseNumber : String
  runId : String
  paymentId : PaymentId
  verdict : ReconciliationVerdict
  deriving DecidableEq, Repr

structure RunCounts where
  evaluated : Nat := 0
  reconciled : Nat := 0
  residual : Nat := 0
  deriving DecidableEq, Repr

inductive RunStatement
  | nextId
  | insertRun (scope : MerchantScope) (input : RunStart)
  | listPaymentIdsForImport (scope : MerchantScope) (importId : String)
  | listCapturedPaymentIds (scope : MerchantScope) (limit : Nat)
  | loadUnit (scope : MerchantScope) (paymentId : PaymentId)
  | insertCase (scope : MerchantScope) (input : NewResidual)
  | selectCase (scope : MerchantScope) (runId : String) (paymentId : PaymentId)
  | insertAuditEvent (scope : MerchantScope) (id : String) (event : IngestionEvent)
  | completeRun (scope : MerchantScope) (id : String) (counts : RunCounts)
  | selectRun (scope : MerchantScope) (id : String)
  | importing (a : ImportStatement)

/-- What a statement answers with.  The inserts may fail; an insert of a case that met the case
of its run and payment returns no row. -/
abbrev RunStatement.Answer : RunStatement → Type
  | .nextId => String
  | .insertRun _ _ => Option ReconciliationRunSummary
  | .listPaymentIdsForImport _ _ => List PaymentId
  | .listCapturedPaymentIds _ _ => List PaymentId
  | .loadUnit _ _ => Option ReconciliationUnit
  | .insertCase _ _ => Option (Option CaseId)
  | .selectCase _ _ _ => Option CaseId
  | .insertAuditEvent _ _ _ => Option Unit
  | .completeRun _ _ _ => Unit
  | .selectRun _ _ => Option ReconciliationRunSummary
  | .importing a => a.Answer

/-- `captured_at NULLS LAST`. -/
def capturedFirst (a b : PaymentRow) : Bool :=
  match a.capturedAt, b.capturedAt with
  | _, none => true
  | none, some _ => false
  | some x, some y => x.getTime ≤ y.getTime

/-- `captured_at DESC NULLS LAST`. -/
def capturedLast (a b : PaymentRow) : Bool :=
  match a.capturedAt, b.capturedAt with
  | _, none => true
  | none, some _ => false
  | some x, some y => y.getTime ≤ x.getTime

/-- The orders the two listings come in. -/
structure ListingOrders where
  forImport : OrderBy capturedFirst
  captured : OrderBy capturedLast

/-- Payments captured at one moment in the order they are stored. -/
def storedOrders : ListingOrders where
  forImport := OrderBy.stored
    (by
      intro a b c
      unfold capturedFirst
      cases a.capturedAt <;> cases b.capturedAt <;> cases c.capturedAt <;> simp
      omega)
    (by
      intro a b
      unfold capturedFirst
      cases a.capturedAt <;> cases b.capturedAt <;> simp
      omega)
  captured := OrderBy.stored
    (by
      intro a b c
      unfold capturedLast
      cases a.capturedAt <;> cases b.capturedAt <;> cases c.capturedAt <;> simp
      omega)
    (by
      intro a b
      unfold capturedLast
      cases a.capturedAt <;> cases b.capturedAt <;> simp
      omega)

/-- The captured payments of an import of the merchant. -/
def RecordStore.capturedOf (store : RecordStore) (scope : MerchantScope) (importId : String) :
    List PaymentRow :=
  store.payments.filter fun p =>
    p.merchantId = scope.merchantId ∧ p.importId = some importId ∧ p.status = .captured

/-- Larger absolute discrepancies surface first. -/
def priorityFor (discrepancyMinor : Int) : Int :=
  if discrepancyMinor.natAbs ≥ 1_000_000 then 3
  else if discrepancyMinor.natAbs ≥ 100_000 then 2
  else if discrepancyMinor.natAbs > 0 then 1
  else 0

def ResidualReason.code : ResidualReason → String
  | .noSettlementFound => "NO_SETTLEMENT_FOUND"
  | .multipleSettlementCandidates => "MULTIPLE_SETTLEMENT_CANDIDATES"
  | .netAmountMismatch => "NET_AMOUNT_MISMATCH"
  | .splitSettlementUnresolved => "SPLIT_SETTLEMENT_UNRESOLVED"
  | .missingBankCredit => "MISSING_BANK_CREDIT"
  | .bankCreditAmountMismatch => "BANK_CREDIT_AMOUNT_MISMATCH"
  | .settlementTimingOutsideWindow => "SETTLEMENT_TIMING_OUTSIDE_WINDOW"
  | .bankCreditTimingOutsideWindow => "BANK_CREDIT_TIMING_OUTSIDE_WINDOW"
  | .missingFeeRecord => "MISSING_FEE_RECORD"
  | .unexpectedFeeAmount => "UNEXPECTED_FEE_AMOUNT"
  | .duplicateSourceRecord => "DUPLICATE_SOURCE_RECORD"
  | .refundOutsideNettingWindow => "REFUND_OUTSIDE_NETTING_WINDOW"
  | .lifecycleInconsistent => "LIFECYCLE_INCONSISTENT"
  | .currencyInconsistent => "CURRENCY_INCONSISTENT"

/-- The row a residual case is inserted as. -/
def residualRow (now : Date) (scope : MerchantScope) (input : NewResidual) : CaseRow where
  id := input.id
  scope := scope
  caseNumber := input.caseNumber
  state := .exception
  priority := priorityFor input.verdict.discrepancy.amountMinor
  discrepancy := input.verdict.discrepancy
  deterministicReason :=
    if input.verdict.reasons = [] then "UNSPECIFIED"
    else ",".intercalate (input.verdict.reasons.map (·.code))
  caseVersion := 1
  openedAt := now
  closedAt := none
  runId := some input.runId
  paymentId := some input.paymentId
  reasons := input.verdict.reasons
  checks := input.verdict.checks
  policyVersion := some input.verdict.policyVersion

/-- A row that breaks a constraint of the table other than `cases_run_payment_unique`. -/
def RunDatabase.rejects (db : RunDatabase) (row : CaseRow) : Bool :=
  db.cases.any (fun r => r.id = row.id ∨ r.number = row.number) ||
    !(row.runId.all fun runId => db.runs.any fun r => r.id = runId) ||
    !(row.paymentId.all fun paymentId => db.records.payments.any fun p => p.id = paymentId)

/-- The effect of one statement. -/
def execRun (orders : ListingOrders) (ω : ImportSurroundings) :
    (a : RunStatement) → RunDatabase → a.Answer × RunDatabase
  | .nextId, db => (ω.uuid, db)
  | .insertRun scope input, db =>
      let row : RunRow := {
        id := input.id
        merchantId := scope.merchantId
        importId := input.importId
        status := .running
        policyVersion := input.policyVersion
        evaluatedCount := 0
        reconciledCount := 0
        residualCount := 0
        failureCode := none
        createdAt := ω.now
        completedAt := none
        correlationId := input.correlationId }
      if db.runs.any (fun r => r.id = row.id) ∨
          !(row.importId.all fun importId => db.imports.any fun r => r.id = importId) then
        (none, db)
      else (some row.toReconciliationRunSummary, { db with runs := db.runs ++ [row] })
  | .listPaymentIdsForImport scope importId, db =>
      ((orders.forImport.sort (db.records.capturedOf scope importId)).map (·.id), db)
  | .listCapturedPaymentIds scope limit, db =>
      (((orders.captured.sort (db.records.payments.filter fun p =>
        p.merchantId = scope.merchantId ∧ p.status = .captured)).take limit).map (·.id), db)
  | .loadUnit scope paymentId, db => (SettlementOps.loadUnit db.records scope paymentId, db)
  -- the case and its lineage, in one transaction
  | .insertCase scope input, db =>
      let row := residualRow ω.now scope input
      if db.cases.any (fun r => r.runPayment = row.runPayment) then (some none, db)
      else if db.rejects row then (none, db)
      else (some (some row.id), { db with
        cases := db.cases ++ [row]
        caseSourceRecords := (input.verdict.evidenceRecordIds.map fun recordId =>
          (⟨row.id, scope, "DETERMINISTIC_EVIDENCE", recordId⟩ : CaseSourceRecord)).foldl
            (keepNew CaseSourceRecord.key) db.caseSourceRecords })
  | .selectCase scope runId paymentId, db =>
      ((db.cases.find? fun r =>
        r.scope = scope ∧ r.runId = some runId ∧ r.paymentId = some paymentId).map (·.id), db)
  | .insertAuditEvent scope id event, db =>
      if db.auditEvents.any (fun r => r.id = id) then (none, db)
      else (some (), { db with auditEvents := db.auditEvents ++ [⟨event, id, scope, ω.now⟩] })
  | .completeRun scope id counts, db =>
      ((), { db with
        runs := db.runs.map fun row =>
          if row.id = id ∧ row.merchantId = scope.merchantId then
            { row with
              status := .succeeded
              evaluatedCount := counts.evaluated
              reconciledCount := counts.reconciled
              residualCount := counts.residual
              completedAt := some ω.now }
          else row })
  | .selectRun scope id, db =>
      ((db.runs.find? fun row => row.id = id ∧ row.merchantId = scope.merchantId).map
        (·.toReconciliationRunSummary), db)
  | .importing a, db =>
      let out := execImport ω a db.toImportDatabase
      (out.1, { db with toImportDatabase := out.2 })

abbrev RunProgram := Prog RunStatement RunStatement.Answer

/-- Send one statement. -/
def runQuery (a : RunStatement) : RunProgram a.Answer := Prog.perform a

@[simp] theorem runQuery_bind {α : Type} (a : RunStatement) (f : a.Answer → RunProgram α) :
    (runQuery a >>= f) = Prog.act a f := rfl

/-! ## The use case -/

/-- The case of a run and a payment, and whether it is new; a missing value is a thrown
error. -/
def createResidual (scope : MerchantScope) (input : NewResidual) :
    RunProgram (Option (CaseId × Bool)) := do
  match ← runQuery (.insertCase scope input) with
  | none => pure none
  | some (some id) => pure (some (id, true))
  | some none => do
      match ← runQuery (.selectCase scope input.runId input.paymentId) with
      | none => pure none
      | some id => pure (some (id, false))

/-- A text of at least `width` characters, filled up with zeros from the left. -/
def padStart (width : Nat) (s : String) : String := String.ofList (s.toList.leftpad width '0')

def caseNumberFor (runId : String) (index : Nat) : String :=
  "CASE-" ++ String.ofList ((runId.toList.take 8).map Char.toUpper) ++ "-" ++
    padStart 4 (toString (index + 1))

theorem padStart_toString_injective {width m n : Nat}
    (h : padStart width (toString m) = padStart width (toString n)) : m = n := by
  have hchars := congrArg String.toList h
  simp only [padStart, String.toList_ofList] at hchars
  -- the zeros on the left add nothing to the number the digits spell
  have hvalue := congrArg (fun digits => Nat.ofDigitChars 10 digits 0) hchars
  simpa only [List.leftpad, Nat.ofDigitChars_append, Nat.ofDigitChars_replicate_zero, Nat.mul_zero,
    Nat.toString_eq_repr, Nat.repr_eq_ofList_toDigits, String.toList_ofList,
    Nat.ofDigitChars_ten_toDigits] using hvalue

/-- The cases of one run have different numbers. -/
theorem caseNumberFor_injective {runId : String} {j k : Nat}
    (h : caseNumberFor runId j = caseNumberFor runId k) : j = k := by
  unfold caseNumberFor at h
  rw [String.append_right_inj] at h
  have hsucc := padStart_toString_injective h
  omega

def exceptionCreatedEvent (ctx : RequestContext) (caseId : CaseId)
    (verdict : ReconciliationVerdict) : IngestionEvent where
  entityType := "reconciliation_case"
  entityId := caseId
  eventType := "reconciliation_exception_created"
  actorType := "SYSTEM"
  actorId := none
  correlationId := ctx.correlationId
  previousState := some "MATCHING"
  nextState := some "EXCEPTION"
  caseVersion := some 1
  payload := [("reasons", .strs (verdict.reasons.map (·.code))),
    ("discrepancy_minor", .str (toString verdict.discrepancy.amountMinor)),
    ("currency", .str verdict.discrepancy.currency),
    ("policy_version", .str verdict.policyVersion)]

/-- Record the residual case of a payment, and its audit event when the case is new. -/
def recordResidual (ctx : RequestContext) (runId : String) (paymentId : PaymentId)
    (verdict : ReconciliationVerdict) (counts : RunCounts) : RunProgram (Option RunCounts) := do
  let residual := counts.residual + 1
  let id ← runQuery .nextId
  match ← createResidual (scopeOf ctx)
      ⟨id, caseNumberFor runId (residual - 1), runId, paymentId, verdict⟩ with
  | none => pure none
  | some (_, false) => pure (some { counts with residual })
  | some (caseId, true) => do
      let eventId ← runQuery .nextId
      match ← runQuery (.insertAuditEvent (scopeOf ctx) eventId
          (exceptionCreatedEvent ctx caseId verdict)) with
      | none => pure none
      | some () => pure (some { counts with residual })

/-- The body of the loop over the payments. -/
def evaluatePayment (ctx : RequestContext) (runId : String) (counts : RunCounts)
    (paymentId : PaymentId) : RunProgram (Option RunCounts) := do
  match ← runQuery (.loadUnit (scopeOf ctx) paymentId) with
  | none => pure (some counts)
  | some unit =>
      let verdict := reconcileUnit unit
      let counts := { counts with evaluated := counts.evaluated + 1 }
      match verdict.outcome with
      | .reconciled => pure (some { counts with reconciled := counts.reconciled + 1 })
      | .exception => recordResidual ctx runId paymentId verdict counts

structure RunReconciliationInput where
  importId : Option String
  /-- Bound on how many payments one run evaluates. -/
  maxPayments : Nat
  deriving DecidableEq, Repr

/-- The payments of a run, before the bound. -/
def listPayments (scope : MerchantScope) (input : RunReconciliationInput) :
    RunProgram (List PaymentId) :=
  match input.importId with
  | none => runQuery (.listCapturedPaymentIds scope input.maxPayments)
  | some importId => runQuery (.listPaymentIdsForImport scope importId)

/-- A missing summary is a thrown error. -/
def runReconciliation (ctx : RequestContext) (input : RunReconciliationInput) :
    RunProgram (Option ReconciliationRunSummary) := do
  let scope := scopeOf ctx
  let id ← runQuery .nextId
  match ← runQuery (.insertRun scope ⟨id, input.importId, POLICY_VERSION, ctx.correlationId⟩) with
  | none => pure none
  | some run => do
      let paymentIds ← listPayments scope input
      match ← Prog.loop (evaluatePayment ctx run.id) (paymentIds.take input.maxPayments) {} with
      | none => pure none
      | some counts => do
          let _ ← runQuery (.completeRun scope run.id counts)
          let final ← runQuery (.selectRun scope run.id)
          pure (some (final.getD run))

def MAX_PAYMENTS_PER_RUN : Nat := 5_000

inductive RunReply
  | forbidden
  | completed (summary : ReconciliationRunSummary)
  | threw
  | imported
  deriving DecidableEq, Repr

def replyOf : Option ReconciliationRunSummary → RunReply
  | none => .threw
  | some summary => .completed summary

/-- The route `/v1/reconciliation-runs`. -/
def reconciliationRunsRoute (ctx : RequestContext) (importId : Option String) :
    RunProgram RunReply :=
  if !hasAtLeast ctx .operator then pure .forbidden
  else do
    let summary ← runReconciliation ctx ⟨importId, MAX_PAYMENTS_PER_RUN⟩
    pure (replyOf summary)

/-- A request to the route, a call of the use case by another caller, or one statement of an
import. -/
inductive RunOperation
  | reconciliationRuns (ctx : RequestContext) (importId : Option String)
  | runReconciliation (ctx : RequestContext) (input : RunReconciliationInput)
  | importing (a : ImportStatement)

def RunOperation.program : RunOperation → RunProgram RunReply
  | reconciliationRuns ctx importId => reconciliationRunsRoute ctx importId
  | runReconciliation ctx input => do
      let summary ← SettlementOps.runReconciliation ctx input
      pure (replyOf summary)
  | importing a => do
      let _ ← runQuery (.importing a)
      pure .imported

/-- Any number of calls on one database. -/
def runSystem (orders : ListingOrders) : System RunDatabase ImportSurroundings RunStatement
    RunStatement.Answer RunOperation RunReply where
  exec := execRun orders
  prog := RunOperation.program

/-- An executed statement of a call. -/
abbrev ExecutedRun := Entry ImportSurroundings RunStatement RunStatement.Answer RunOperation

/-! ## What a call sends -/

/-- The use case an operation calls, with its input. -/
def RunOperation.call : RunOperation → Option (RequestContext × RunReconciliationInput)
  | reconciliationRuns ctx importId => some (ctx, ⟨importId, MAX_PAYMENTS_PER_RUN⟩)
  | runReconciliation ctx input => some (ctx, input)
  | importing _ => none

/-- The statements a call of the use case sends. -/
def RunStatement.OfRun : RunStatement → Prop
  | importing _ => False
  | insertAuditEvent _ _ event =>
      ∃ ctx caseId verdict, event = exceptionCreatedEvent ctx caseId verdict
  | _ => True

theorem only_runReconciliation (ctx : RequestContext) (input : RunReconciliationInput) :
    Prog.Only RunStatement.OfRun (runReconciliation ctx input) := by
  have hquery {a : RunStatement} (ha : a.OfRun) :
      Prog.Only RunStatement.OfRun (runQuery a) := Prog.only_perform ha
  have hcreate (residual : NewResidual) :
      Prog.Only RunStatement.OfRun (createResidual (scopeOf ctx) residual) := by
    refine Prog.only_bind _ (hquery trivial) ?_
    rintro (_ | _ | caseId)
    · exact Prog.only_ret _ _
    · refine Prog.only_bind _ (hquery trivial) ?_
      rintro (_ | caseId)
      · exact Prog.only_ret _ _
      · exact Prog.only_ret _ _
    · exact Prog.only_ret _ _
  have hrecord (runId : String) (p : PaymentId) (verdict : ReconciliationVerdict)
      (counts : RunCounts) : Prog.Only RunStatement.OfRun
        (recordResidual ctx runId p verdict counts) := by
    refine Prog.only_bind _ (hquery trivial) fun id => Prog.only_bind _ (hcreate _) ?_
    rintro (_ | ⟨caseId, _ | _⟩)
    · exact Prog.only_ret _ _
    · exact Prog.only_ret _ _
    · refine Prog.only_bind _ (hquery trivial) fun eventId =>
        Prog.only_bind _ (hquery ⟨ctx, caseId, verdict, rfl⟩) ?_
      rintro (_ | _)
      · exact Prog.only_ret _ _
      · exact Prog.only_ret _ _
  have hevaluate (runId : String) (counts : RunCounts) (p : PaymentId) :
      Prog.Only RunStatement.OfRun (evaluatePayment ctx runId counts p) := by
    refine Prog.only_bind _ (hquery trivial) ?_
    rintro (_ | unit)
    · exact Prog.only_ret _ _
    · dsimp only
      cases (reconcileUnit unit).outcome with
      | reconciled => exact Prog.only_ret _ _
      | exception => exact hrecord runId p _ _
  refine Prog.only_bind _ (hquery trivial) fun id => Prog.only_bind _ (hquery trivial) ?_
  rintro (_ | run)
  · exact Prog.only_ret _ _
  · refine Prog.only_bind _ ?_ fun ids => Prog.only_bind _ (Prog.only_loop _ (hevaluate run.id) _) ?_
    · unfold listPayments
      cases input.importId with
      | none => exact hquery trivial
      | some importId => exact hquery trivial
    · rintro (_ | counts)
      · exact Prog.only_ret _ _
      · exact Prog.only_bind _ (hquery trivial) fun _ =>
          Prog.only_bind _ (hquery trivial) fun _ => Prog.only_ret _ _

theorem only_program {ℓ : RunOperation} {ctx : RequestContext} {input : RunReconciliationInput}
    (h : ℓ.call = some (ctx, input)) : Prog.Only RunStatement.OfRun ℓ.program := by
  cases ℓ with
  | reconciliationRuns ctx' importId =>
      show Prog.Only RunStatement.OfRun (reconciliationRunsRoute ctx' importId)
      unfold reconciliationRunsRoute
      split
      · exact Prog.only_ret _ _
      · exact Prog.only_bind _ (only_runReconciliation _ _) fun _ => Prog.only_ret _ _
  | runReconciliation ctx' input' =>
      exact Prog.only_bind _ (only_runReconciliation _ _) fun _ => Prog.only_ret _ _
  | importing a => cases h

/-! ## What a statement does -/

def executedRun (orders : ListingOrders) (i : Nat) (ℓ : RunOperation) (a : RunStatement)
    (ω : ImportSurroundings) (db : RunDatabase) : ExecutedRun :=
  ⟨i, ℓ, a, (execRun orders ω a db).1, ω⟩

/-- The run an executed statement started. -/
def startedRun : ExecutedRun → Option ReconciliationRunSummary
  | ⟨_, _, .insertRun _ _, some run, _⟩ => some run
  | _ => none

/-- The case it created. -/
def createdCase : ExecutedRun → Option CaseRow
  | ⟨_, _, .insertCase scope input, some (some _), ω⟩ => some (residualRow ω.now scope input)
  | _ => none

/-- The audit row it appended. -/
def appendedEvent : ExecutedRun → Option IngestionRow
  | ⟨_, _, .insertAuditEvent scope id event, some (), ω⟩ => some ⟨event, id, scope, ω.now⟩
  | ⟨_, _, .importing (.insertAuditEvent scope event), _, ω⟩ =>
      some ⟨event, ω.uuid, scope, ω.now⟩
  | _ => none

section Effects

variable (orders : ListingOrders) (ω : ImportSurroundings) (db : RunDatabase)

/-- The three outcomes of an insert of a case. -/
theorem insertCase_cases (scope : MerchantScope) (input : NewResidual) :
    let row := residualRow ω.now scope input
    let out := execRun orders ω (.insertCase scope input) db
    (out.1 = some none ∧ out.2 = db ∧ ∃ r ∈ db.cases, r.runPayment = row.runPayment) ∨
      (out.1 = none ∧ out.2 = db ∧ db.rejects row = true) ∨
      (out.1 = some (some input.id) ∧ out.2.cases = db.cases ++ [row] ∧
        out.2.toImportDatabase = db.toImportDatabase ∧ out.2.runs = db.runs ∧
        (∀ r ∈ db.cases, r.runPayment ≠ row.runPayment) ∧ db.rejects row = false) := by
  intro row out
  by_cases hconflict : db.cases.any (fun r => r.runPayment = row.runPayment)
  · refine .inl ⟨?_, ?_, by simpa using hconflict⟩
    · simp only [out, execRun, row, hconflict, if_true]
    · simp only [out, execRun, row, hconflict, if_true]
  · by_cases hrejects : db.rejects row
    · refine .inr (.inl ⟨?_, ?_, hrejects⟩)
      · simp only [out, execRun, row, hconflict, hrejects, if_true]
        rfl
      · simp only [out, execRun, row, hconflict, hrejects, if_true]
        rfl
    · have hout : out = (some (some row.id), { db with
          cases := db.cases ++ [row]
          caseSourceRecords := (input.verdict.evidenceRecordIds.map fun recordId =>
            (⟨row.id, scope, "DETERMINISTIC_EVIDENCE", recordId⟩ : CaseSourceRecord)).foldl
              (keepNew CaseSourceRecord.key) db.caseSourceRecords }) := by
        simp only [out, execRun, row, hconflict, hrejects]
        rfl
      refine .inr (.inr ?_)
      rw [hout]
      exact ⟨rfl, rfl, rfl, rfl, by simpa using hconflict, by simpa using hrejects⟩

/-- A started run has a new id. -/
theorem insertRun_cases (scope : MerchantScope) (input : RunStart) :
    let out := execRun orders ω (.insertRun scope input) db
    (out.1 = none ∧ out.2 = db) ∨
      ∃ row : RunRow, out.1 = some row.toReconciliationRunSummary ∧
        out.2 = { db with runs := db.runs ++ [row] } ∧ row.id = input.id ∧
        ∀ r ∈ db.runs, r.id ≠ row.id := by
  intro out
  simp only [out, execRun]
  split
  · exact .inl ⟨rfl, rfl⟩
  · rename_i hnew
    refine .inr ⟨_, rfl, rfl, rfl, ?_⟩
    simp only [not_or, Bool.not_eq_true, List.any_eq_false, decide_eq_true_eq] at hnew
    exact hnew.1

/-- Only a batch of an import changes the records. -/
theorem execRun_records (a : RunStatement) :
    (execRun orders ω a db).2.records = db.records ∨
    ∃ scope importId records, a = .importing (.insertMany scope importId records) ∧
      (execRun orders ω a db).2.records = (insertMany scope importId records db.records).2 := by
  cases a with
  | insertCase scope input =>
      rcases insertCase_cases orders ω db scope input with
        ⟨-, hdb, -⟩ | ⟨-, hdb, -⟩ | ⟨-, -, hdb, -⟩
      · exact .inl (by rw [hdb])
      · exact .inl (by rw [hdb])
      · exact .inl (by rw [hdb])
  | insertRun scope input =>
      rcases insertRun_cases orders ω db scope input with
        ⟨-, hdb⟩ | ⟨row, -, hdb, -⟩
      · exact .inl (by rw [hdb])
      · exact .inl (by rw [hdb])
  | insertAuditEvent scope id event =>
      refine .inl ?_
      simp only [execRun]
      split <;> rfl
  | importing a =>
      cases a with
      | insertMany scope importId records => exact .inr ⟨scope, importId, records, rfl, rfl⟩
      | insertImport scope input =>
          refine .inl ?_
          simp only [execRun, execImport]
          split <;> rfl
      | _ => exact .inl rfl
  | _ => exact .inl rfl

variable {orders ω db} (i : Nat) (ℓ : RunOperation) (a : RunStatement)

theorem execRun_cases : (execRun orders ω a db).2.cases =
    db.cases ++ (createdCase (executedRun orders i ℓ a ω db)).toList := by
  cases a with
  | insertCase scope input =>
      rcases insertCase_cases orders ω db scope input with
        ⟨hanswer, hdb, -⟩ | ⟨hanswer, hdb, -⟩ | ⟨hanswer, hcases, -⟩
      · rw [hdb]
        simp [executedRun, hanswer, createdCase]
      · rw [hdb]
        simp [executedRun, hanswer, createdCase]
      · rw [hcases]
        simp [executedRun, hanswer, createdCase]
  | insertRun scope input =>
      rcases insertRun_cases orders ω db scope input with
        ⟨-, hdb⟩ | ⟨row, -, hdb, -⟩
      · rw [hdb]
        simp [executedRun, createdCase]
      · rw [hdb]
        simp [executedRun, createdCase]
  | insertAuditEvent scope id event =>
      simp only [execRun]
      split <;> simp [executedRun, createdCase]
  | _ => simp [execRun, executedRun, createdCase]

theorem execRun_auditEvents : (execRun orders ω a db).2.auditEvents =
    db.auditEvents ++ (appendedEvent (executedRun orders i ℓ a ω db)).toList := by
  cases a with
  | insertCase scope input =>
      rcases insertCase_cases orders ω db scope input with
        ⟨-, hdb, -⟩ | ⟨-, hdb, -⟩ | ⟨-, -, hdb, -⟩
      · rw [hdb]
        simp [executedRun, appendedEvent]
      · rw [hdb]
        simp [executedRun, appendedEvent]
      · rw [hdb]
        simp [executedRun, appendedEvent]
  | insertRun scope input =>
      rcases insertRun_cases orders ω db scope input with
        ⟨-, hdb⟩ | ⟨row, -, hdb, -⟩
      · rw [hdb]
        simp [executedRun, appendedEvent]
      · rw [hdb]
        simp [executedRun, appendedEvent]
  | insertAuditEvent scope id event =>
      simp only [execRun, executedRun]
      split <;> simp [appendedEvent]
  | importing a =>
      cases a with
      | insertImport scope input =>
          simp only [execRun, execImport]
          split <;> simp [executedRun, appendedEvent]
      | _ => simp [execRun, execImport, executedRun, appendedEvent]
  | _ => simp [execRun, executedRun, appendedEvent]

/-- Only a started run adds an id. -/
theorem execRun_runIds : (execRun orders ω a db).2.runs.map (·.id) =
    db.runs.map (·.id) ++ ((startedRun (executedRun orders i ℓ a ω db)).map (·.id)).toList := by
  cases a with
  | insertCase scope input =>
      rcases insertCase_cases orders ω db scope input with
        ⟨-, hdb, -⟩ | ⟨-, hdb, -⟩ | ⟨-, -, -, hruns, -⟩
      · rw [hdb]
        simp [executedRun, startedRun]
      · rw [hdb]
        simp [executedRun, startedRun]
      · rw [hruns]
        simp [executedRun, startedRun]
  | insertRun scope input =>
      rcases insertRun_cases orders ω db scope input with
        ⟨hanswer, hdb⟩ | ⟨row, hanswer, hdb, -⟩
      · rw [hdb]
        simp [executedRun, hanswer, startedRun]
      · rw [hdb]
        simp [executedRun, hanswer, startedRun]
  | insertAuditEvent scope id event =>
      simp only [execRun]
      split <;> simp [executedRun, startedRun]
  | completeRun scope id counts =>
      simp only [execRun, executedRun, startedRun, Option.map_none, Option.toList_none,
        List.append_nil, List.map_map]
      apply List.map_congr_left
      intro row _
      simp only [Function.comp_apply]
      split <;> rfl
  | _ => simp [execRun, executedRun, startedRun]

/-- The id of a started run is new. -/
theorem startedRun_new {run : ReconciliationRunSummary}
    (h : startedRun (executedRun orders i ℓ a ω db) = some run) :
    run.id ∉ db.runs.map (·.id) := by
  cases a with
  | insertRun scope input =>
      rcases insertRun_cases orders ω db scope input with
        ⟨hanswer, -⟩ | ⟨row, hanswer, -, -, hnew⟩
      · simp [executedRun, hanswer, startedRun] at h
      · simp only [executedRun, hanswer, startedRun, Option.some.injEq] at h
        rw [← h]
        simpa using hnew
  | _ => simp [executedRun, startedRun] at h

variable {a}

/-- A case that is not rejected keeps the constraints on the cases. -/
theorem RunDatabase.WellFormed.addCase {row : CaseRow} (h : db.WellFormed)
    (hnew : ∀ r ∈ db.cases, r.runPayment ≠ row.runPayment) (hok : db.rejects row = false)
    {db' : RunDatabase} (hcases : db'.cases = db.cases ++ [row])
    (himports : db'.toImportDatabase = db.toImportDatabase) (hruns : db'.runs = db.runs) :
    db'.WellFormed := by
  simp only [RunDatabase.rejects, Bool.or_eq_false_iff, Bool.not_eq_false', List.any_eq_false,
    decide_eq_true_eq, not_or] at hok
  obtain ⟨⟨hkeys, hrun⟩, -⟩ := hok
  refine ⟨by rw [himports]; exact h.records, by rw [hruns]; exact h.runs, ?_, ?_, ?_, ?_⟩
  · rw [hcases]
    exact h.cases.concat fun r hr => (hkeys r hr).1
  · rw [hcases]
    exact h.number.concat fun r hr => (hkeys r hr).2
  · rw [hcases, List.filterMap_append]
    cases hrow : row.runPayment with
    | none => simpa [hrow] using h.runPayment
    | some key =>
        rw [List.filterMap_cons_some hrow, List.filterMap_nil, List.nodup_append]
        refine ⟨h.runPayment, by simp, ?_⟩
        intro k hk k' hk' heq
        obtain ⟨r, hr, hrk⟩ := List.mem_filterMap.1 hk
        rw [List.mem_singleton] at hk'
        exact hnew r hr (by rw [hrk, heq, hk', hrow])
  · rw [hcases, hruns]
    intro r hr k hk
    rcases List.mem_append.1 hr with hr | hr
    · exact h.caseRun r hr k hk
    · rw [List.mem_singleton.1 hr] at hk
      rw [Option.mem_def] at hk
      simpa [hk] using hrun

/-- **Every statement keeps the constraints.** -/
theorem execRun_wellFormed (h : db.WellFormed) : (execRun orders ω a db).2.WellFormed := by
  have hids : (execRun orders ω a db).2.runs.map (·.id) = _ :=
    execRun_runIds 0 (.importing .now) a
  have hrecords : SettlementOps.WellFormed (execRun orders ω a db).2.records := by
    rcases execRun_records orders ω db a with
      hsame | ⟨scope, importId, records, -, hbatch⟩
    · rw [hsame]
      exact h.records
    · rw [hbatch]
      exact insertMany_wellFormed h.records _ _ _
  by_cases hcase : ∃ scope input, a = .insertCase scope input
  · obtain ⟨scope, input, rfl⟩ := hcase
    rcases insertCase_cases orders ω db scope input with
      ⟨-, hdb, -⟩ | ⟨-, hdb, -⟩ | ⟨-, hcases, himports, hruns, hnew, hok⟩
    · rw [hdb]
      exact h
    · rw [hdb]
      exact h
    · exact h.addCase hnew hok hcases himports hruns
  · have hcases : (execRun orders ω a db).2.cases = db.cases := by
      rw [execRun_cases 0 (.importing .now) a]
      cases a with
      | insertCase scope input => exact absurd ⟨scope, input, rfl⟩ hcase
      | _ => simp [executedRun, createdCase]
    refine ⟨hrecords, ?_, by rw [hcases]; exact h.cases, by rw [hcases]; exact h.number,
      by rw [hcases]; exact h.runPayment, ?_⟩
    · show ((execRun orders ω a db).2.runs.map (·.id)).Nodup
      rw [hids]
      cases hstarted : startedRun (executedRun orders 0 (.importing .now) a ω db) with
      | none =>
          rw [Option.map_none, Option.toList_none, List.append_nil]
          exact h.runs
      | some run =>
          rw [Option.map_some, Option.toList_some, List.nodup_append]
          refine ⟨h.runs, by simp, ?_⟩
          intro k hk k' hk' heq
          rw [List.mem_singleton.1 hk'] at heq
          exact startedRun_new 0 (.importing .now) a hstarted (heq ▸ hk)
    · rw [hcases]
      intro r hr k hk
      obtain ⟨run, hrun, hkey⟩ := h.caseRun r hr k hk
      have hmem : k ∈ (execRun orders ω a db).2.runs.map (·.id) := by
        rw [hids, ← hkey]
        exact List.mem_append_left _ (List.mem_map_of_mem hrun)
      obtain ⟨run', hrun', hkey'⟩ := List.mem_map.1 hmem
      exact ⟨run', hrun', hkey'⟩

end Effects

/-! ## A stored import -/

def sampleImportRow : ImportRow where
  id := "import-1"
  merchantId := "m-1"
  sourceType := "gateway"
  status := .succeeded
  submittedCount := 0
  acceptedCount := 0
  rejectedCount := 0
  duplicateCount := 0
  validationErrors := []
  createdAt := ⟨0⟩
  completedAt := some ⟨0⟩
  idempotencyKey := "key-1"
  correlationId := "corr-1"

def runOperator : RequestContext where
  userId := "user-1"
  tenantId := "m-1"
  roles := [.operator]
  correlationId := "corr-1"

end SettlementOps
