import SettlementOps.Calendar
import SettlementOps.Interleave.Outline
import SettlementOps.Json
import SettlementOps.Relational.Keyed

/-!
# The job queue

The `jobs` table and the statements workers send to it.  `claimJob` is one statement, and
so are `completeJob`, `failJob` and `heartbeat`; the sweep that reclaims abandoned jobs is
two.  None of them holds a transaction open to the next.

* `JobRow`, `JobTable` — the table, under its primary key.
* `JobStatement`, `execJob` — the statements and what they do.
* `JobOperation`, `jobSystem` — any number of workers' calls on one queue.
* `claims`, `reclaims`, `finishes` — what an executed statement did to a job.
* `claimRules` — a worker acts on a job it has claimed.
-/

namespace SettlementOps

open Interleave Relational

/-! ## The table -/

inductive JobStatus
  | pending
  | claimed
  | succeeded
  | failed
  | abandoned
  deriving DecidableEq, Repr

/-- What a claim hands to its worker. -/
structure Job where
  id : String
  merchantId : Option String
  jobType : String
  payload : JsonObject
  correlationId : String
  attempts : Nat
  deriving DecidableEq, Repr

structure JobRow extends Job where
  status : JobStatus
  claimedAt : Option Date
  heartbeatAt : Option Date
  completedAt : Option Date
  failureCode : Option String
  createdAt : Date
  availableAt : Date
  deriving DecidableEq, Repr

/-- The `jobs` table. -/
abbrev JobTable := Keyed fun r : JobRow => r.id

structure NewJob where
  id : String
  merchantId : Option String
  jobType : String
  payload : JsonObject
  correlationId : String
  deriving DecidableEq, Repr

def MAX_ATTEMPTS : Nat := 3

/-- Retry backoff, in seconds, indexed by attempt number. -/
def BACKOFF_SECONDS : List Nat := [5, 30, 120]

def backoffFor (attempts : Nat) : Nat :=
  BACKOFF_SECONDS.getD (min attempts (BACKOFF_SECONDS.length - 1)) 120

/-- A backoff is bounded, whatever the attempt. -/
theorem backoffFor_le (attempts : Nat) : backoffFor attempts ≤ 120 := by
  match attempts with
  | 0 => decide
  | 1 => decide
  | n + 2 => simp [backoffFor, BACKOFF_SECONDS]

/-- A moment some seconds after another. -/
def Date.plusSeconds (t : Date) (seconds : Int) : Date := ⟨t.getTime + seconds * 1000⟩

/-! ## Statements -/

inductive JobStatement
  | claim (jobTypes : List String)
  | complete (id : String)
  | fail (id : String) (status : JobStatus) (failureCode : String) (backoffSeconds : Nat)
  | heartbeat (id : String)
  | requeueStale (staleSeconds : Int) (backoffSeconds : Nat)
  | abandonStale (staleSeconds : Int)
  | insert (input : NewJob)
  deriving DecidableEq, Repr

/-- What a statement answers with.  The sweep answers with the jobs it changed, of which
the caller reads the number; an insert answers whether the id was free. -/
abbrev JobStatement.Answer : JobStatement → Type
  | .claim _ => Option Job
  | .complete _ => Unit
  | .fail _ _ _ _ => Unit
  | .heartbeat _ => Unit
  | .requeueStale _ _ => List String
  | .abandonStale _ => List String
  | .insert _ => Bool

/-- The clock, and the rows other statements hold locked at this moment. -/
structure JobSurroundings where
  now : Date
  locked : List String
  deriving DecidableEq, Repr

/-- A row a claim may take. -/
def claimable (ω : JobSurroundings) (jobTypes : List String) (r : JobRow) : Bool :=
  r.status = .pending ∧ r.jobType ∈ jobTypes ∧ r.availableAt.getTime ≤ ω.now.getTime ∧
    r.id ∉ ω.locked

/-- The first of the oldest rows. -/
def oldest : List JobRow → Option JobRow
  | [] => none
  | r :: rows =>
      match oldest rows with
      | none => some r
      | some r' => if r'.createdAt.getTime < r.createdAt.getTime then some r' else some r

theorem mem_of_oldest {rows : List JobRow} :
    ∀ {r : JobRow}, oldest rows = some r → r ∈ rows := by
  induction rows with
  | nil =>
      intro r h
      cases h
  | cons r₀ rows ih =>
      intro r h
      unfold oldest at h
      split at h
      · cases h
        exact List.mem_cons_self
      · rename_i r' hr'
        split at h
        · cases h
          exact List.mem_cons_of_mem _ (ih hr')
        · cases h
          exact List.mem_cons_self

/-- The row a claim takes: the oldest it may take and finds unlocked. -/
def JobTable.next (t : JobTable) (ω : JobSurroundings) (jobTypes : List String) :
    Option JobRow :=
  oldest (t.rows.filter (claimable ω jobTypes))

/-- A claimed row whose worker has not been heard of for some time. -/
def isStale (ω : JobSurroundings) (staleSeconds : Int) (r : JobRow) : Bool :=
  r.status = .claimed ∧
    r.heartbeatAt.any fun t => t.getTime < (ω.now.plusSeconds (-staleSeconds)).getTime

def JobRow.claimedNow (now : Date) (r : JobRow) : JobRow :=
  { r with
    status := .claimed, attempts := r.attempts + 1, claimedAt := some now, heartbeatAt := some now }

def JobRow.succeededNow (now : Date) (r : JobRow) : JobRow :=
  { r with status := .succeeded, completedAt := some now }

def JobRow.failedNow (now : Date) (status : JobStatus) (failureCode : String)
    (backoffSeconds : Nat) (r : JobRow) : JobRow :=
  { r with
    status := status
    failureCode := some failureCode
    completedAt := if status = .abandoned then some now else none
    availableAt := if status = .pending then now.plusSeconds backoffSeconds else r.availableAt }

def JobRow.heardNow (now : Date) (r : JobRow) : JobRow := { r with heartbeatAt := some now }

def JobRow.requeuedNow (now : Date) (backoffSeconds : Nat) (r : JobRow) : JobRow :=
  { r with status := .pending, availableAt := now.plusSeconds backoffSeconds }

def JobRow.abandonedNow (now : Date) (r : JobRow) : JobRow :=
  { r with
    status := .abandoned
    failureCode := some (r.failureCode.getD "WORKER_LOST_AFTER_MAX_ATTEMPTS")
    completedAt := some now }

@[simp] theorem JobRow.claimedNow_id (now : Date) (r : JobRow) : (r.claimedNow now).id = r.id :=
  rfl

@[simp] theorem JobRow.succeededNow_id (now : Date) (r : JobRow) :
    (r.succeededNow now).id = r.id := rfl

@[simp] theorem JobRow.failedNow_id (now : Date) (status : JobStatus) (failureCode : String)
    (backoffSeconds : Nat) (r : JobRow) :
    (r.failedNow now status failureCode backoffSeconds).id = r.id := rfl

@[simp] theorem JobRow.heardNow_id (now : Date) (r : JobRow) : (r.heardNow now).id = r.id := rfl

@[simp] theorem JobRow.requeuedNow_id (now : Date) (backoffSeconds : Nat) (r : JobRow) :
    (r.requeuedNow now backoffSeconds).id = r.id := rfl

@[simp] theorem JobRow.abandonedNow_id (now : Date) (r : JobRow) :
    (r.abandonedNow now).id = r.id := rfl

def NewJob.row (input : NewJob) (now : Date) : JobRow where
  id := input.id
  merchantId := input.merchantId
  jobType := input.jobType
  payload := input.payload
  correlationId := input.correlationId
  attempts := 0
  status := .pending
  claimedAt := none
  heartbeatAt := none
  completedAt := none
  failureCode := none
  createdAt := now
  availableAt := now

/-- The effect of one statement. -/
def execJob (ω : JobSurroundings) : (a : JobStatement) → JobTable → a.Answer × JobTable
  | .claim jobTypes, t =>
      match t.next ω jobTypes with
      | none => (none, t)
      | some row =>
          (some (row.claimedNow ω.now).toJob,
            t.update (fun r => r.id = row.id) (JobRow.claimedNow ω.now)
              (JobRow.claimedNow_id ω.now))
  | .complete id, t =>
      ((), t.update (fun r => r.id = id) (JobRow.succeededNow ω.now)
        (JobRow.succeededNow_id ω.now))
  | .fail id status failureCode backoffSeconds, t =>
      ((), t.update (fun r => r.id = id)
        (JobRow.failedNow ω.now status failureCode backoffSeconds)
        (JobRow.failedNow_id ω.now status failureCode backoffSeconds))
  | .heartbeat id, t =>
      ((), t.update (fun r => r.id = id) (JobRow.heardNow ω.now) (JobRow.heardNow_id ω.now))
  | .requeueStale staleSeconds backoffSeconds, t =>
      let p := fun r => isStale ω staleSeconds r && decide (r.attempts < MAX_ATTEMPTS)
      (t.touched p, t.update p (JobRow.requeuedNow ω.now backoffSeconds)
        (JobRow.requeuedNow_id ω.now backoffSeconds))
  | .abandonStale staleSeconds, t =>
      let p := fun r => isStale ω staleSeconds r && decide (MAX_ATTEMPTS ≤ r.attempts)
      (t.touched p, t.update p (JobRow.abandonedNow ω.now) (JobRow.abandonedNow_id ω.now))
  | .insert input, t =>
      match t.insert (input.row ω.now) with
      | none => (false, t)
      | some t' => (true, t')

/-! ## Calls -/

abbrev JobProgram := Prog JobStatement JobStatement.Answer

/-- Send one statement. -/
def queryJobs (a : JobStatement) : JobProgram a.Answer := Prog.perform a

inductive JobResult
  | job (claimed : Option Job)
  | done
  | reclaimed (requeued abandoned : Nat)
  | threw
  deriving DecidableEq, Repr

def claimJob (jobTypes : List String) : JobProgram JobResult := do
  let row ← queryJobs (.claim jobTypes)
  pure (.job row)

def completeJob (id : String) : JobProgram JobResult := do
  let _ ← queryJobs (.complete id)
  pure .done

/-- Retryable below the attempt ceiling, abandoned above it. -/
def failJob (id : String) (attempts : Nat) (failureCode : String) : JobProgram JobResult := do
  let terminal := decide (MAX_ATTEMPTS ≤ attempts)
  let _ ← queryJobs
    (.fail id (if terminal then .abandoned else .pending) failureCode (backoffFor attempts))
  pure .done

def heartbeat (id : String) : JobProgram JobResult := do
  let _ ← queryJobs (.heartbeat id)
  pure .done

/-- Two statements: the stale jobs below the attempt ceiling, then the others. -/
def reclaimAbandoned (staleSeconds : Int) : JobProgram JobResult := do
  let requeued ← queryJobs (.requeueStale staleSeconds (BACKOFF_SECONDS.getD 0 5))
  let abandoned ← queryJobs (.abandonStale staleSeconds)
  pure (.reclaimed requeued.length abandoned.length)

/-- An id that is taken is an error. -/
def enqueueJob (input : NewJob) : JobProgram JobResult := do
  let free ← queryJobs (.insert input)
  if free then pure .done else pure .threw

/-- The calls of the workers.  A worker that completes, fails or keeps alive a job does so
for a claim of its own, named by the call that made it. -/
inductive JobOperation
  | enqueueJob (input : NewJob)
  | claimJob (jobTypes : List String)
  | completeJob (claim : Nat) (id : String)
  | failJob (claim : Nat) (id : String) (attempts : Nat) (failureCode : String)
  | heartbeat (claim : Nat) (id : String)
  | reclaimAbandoned (staleSeconds : Int)
  deriving DecidableEq, Repr

def JobOperation.program : JobOperation → JobProgram JobResult
  | enqueueJob input => SettlementOps.enqueueJob input
  | claimJob jobTypes => SettlementOps.claimJob jobTypes
  | completeJob _ id => SettlementOps.completeJob id
  | failJob _ id attempts failureCode => SettlementOps.failJob id attempts failureCode
  | heartbeat _ id => SettlementOps.heartbeat id
  | reclaimAbandoned staleSeconds => SettlementOps.reclaimAbandoned staleSeconds

/-- Any number of workers on one queue. -/
def jobSystem :
    System JobTable JobSurroundings JobStatement JobStatement.Answer JobOperation JobResult where
  exec := execJob
  prog := JobOperation.program

/-! ## What a call sends -/

/-- A program of a single statement. -/
theorem sends_queryJobs {a b : JobStatement} {f : b.Answer → JobResult} :
    Prog.Sends a (queryJobs b >>= fun r => pure (f r)) ↔ a = b := by
  show (a = b ∨ ∃ _ : b.Answer, False) ↔ a = b
  simp

theorem sends_claimJob {jobTypes : List String} {a : JobStatement} :
    (claimJob jobTypes).Sends a ↔ a = .claim jobTypes := sends_queryJobs

theorem sends_completeJob {id : String} {a : JobStatement} :
    (completeJob id).Sends a ↔ a = .complete id := sends_queryJobs

theorem sends_failJob {id failureCode : String} {attempts : Nat} {a : JobStatement} :
    (failJob id attempts failureCode).Sends a ↔
      a = .fail id (if MAX_ATTEMPTS ≤ attempts then .abandoned else .pending) failureCode
        (backoffFor attempts) := by
  refine sends_queryJobs.trans ?_
  simp

theorem sends_heartbeat {id : String} {a : JobStatement} :
    (heartbeat id).Sends a ↔ a = .heartbeat id := sends_queryJobs

theorem sends_reclaimAbandoned {staleSeconds : Int} {a : JobStatement}
    (h : (reclaimAbandoned staleSeconds).Sends a) :
    a = .requeueStale staleSeconds 5 ∨ a = .abandonStale staleSeconds := by
  rcases h with h | ⟨requeued, h | ⟨abandoned, h⟩⟩
  · exact .inl h
  · exact .inr h
  · exact h.elim

theorem sends_enqueueJob {input : NewJob} {a : JobStatement} (h : (enqueueJob input).Sends a) :
    a = .insert input := by
  rcases h with h | ⟨_ | _, h⟩
  · exact h
  · exact h.elim
  · exact h.elim

/-! ## What a statement does -/

section Exec

variable {ω : JobSurroundings} {t : JobTable}

/-- A claim takes a pending row or changes nothing. -/
theorem execJob_claim (jobTypes : List String) :
    execJob ω (.claim jobTypes) t = (none, t) ∨
      ∃ row, t.find row.id = some row ∧ row.status = .pending ∧
        execJob ω (.claim jobTypes) t =
          (some (row.claimedNow ω.now).toJob,
            t.update (fun r => r.id = row.id) (JobRow.claimedNow ω.now)
              (JobRow.claimedNow_id ω.now)) := by
  cases hnext : t.next ω jobTypes with
  | none => exact .inl (by simp only [execJob, hnext])
  | some row =>
      obtain ⟨hmem, hclaim⟩ := List.mem_filter.1 (mem_of_oldest hnext)
      simp only [claimable, Bool.decide_and, Bool.and_eq_true, decide_eq_true_eq] at hclaim
      exact .inr ⟨row, Keyed.find_eq_some.2 ⟨hmem, rfl⟩, hclaim.1, by simp only [execJob, hnext]⟩

/-- An insert keeps the rows that are there. -/
theorem find_execJob_insert {input : NewJob} {id : String} {row : JobRow}
    (h : t.find id = some row) : (execJob ω (.insert input) t).2.find id = some row := by
  simp only [execJob]
  split
  · exact h
  · rename_i t' hins
    obtain ⟨hfree, hfind⟩ := Keyed.find_insert hins id
    have hne : (input.row ω.now).id ≠ id := by
      rintro rfl
      rw [hfree] at h
      cases h
    rw [hfind, if_neg hne, h]

end Exec

/-! ## What an executed statement did -/

/-- An executed statement of some worker. -/
abbrev JobEntry := Entry JobSurroundings JobStatement JobStatement.Answer JobOperation

/-- The job a claim took. -/
def claimedJob : JobEntry → Option Job
  | ⟨_, _, .claim _, job, _⟩ => job
  | _ => none

/-- The statement claimed the job. -/
def claims (id : String) (e : JobEntry) : Bool := (claimedJob e).any fun job => job.id = id

/-- The statement took the job from a worker that was not heard of. -/
def reclaims (id : String) : JobEntry → Bool
  | ⟨_, _, .requeueStale _ _, ids, _⟩ => ids.contains id
  | ⟨_, _, .abandonStale _, ids, _⟩ => ids.contains id
  | _ => false

/-- The call completes or fails the job for a claim. -/
def finishes (claim : Nat) (id : String) (e : JobEntry) : Bool :=
  match e.label with
  | .completeJob k id' => k = claim ∧ id' = id
  | .failJob k id' _ _ => k = claim ∧ id' = id
  | _ => false

/-- The claim of a call, as later calls of its worker name it. -/
def holds (log : List JobEntry) (claim : Nat) (p : Job → Bool) : Bool :=
  log.any fun e => e.pid = claim ∧ (claimedJob e).any p

/-- A worker acts on a job it has claimed, and fails it with the attempts of its claim. -/
def claimRules : Rules JobTable JobSurroundings JobStatement JobStatement.Answer JobOperation where
  call _ log ℓ := match ℓ with
    | .completeJob claim id => holds log claim (fun job => job.id = id)
    | .failJob claim id attempts _ =>
        holds log claim fun job => job.id = id ∧ job.attempts = attempts
    | .heartbeat claim id => holds log claim (fun job => job.id = id)
    | _ => True

instance : ∀ t log ℓ, Decidable (claimRules.call t log ℓ)
  | _, log, .completeJob claim id =>
      inferInstanceAs (Decidable (holds log claim (fun job => job.id = id) = true))
  | _, log, .failJob claim id attempts _ => inferInstanceAs
      (Decidable (holds log claim (fun job => job.id = id ∧ job.attempts = attempts) = true))
  | _, log, .heartbeat claim id =>
      inferInstanceAs (Decidable (holds log claim (fun job => job.id = id) = true))
  | _, _, .enqueueJob _ => isTrue trivial
  | _, _, .claimJob _ => isTrue trivial
  | _, _, .reclaimAbandoned _ => isTrue trivial

instance (t : JobTable) (log : List JobEntry) (i : Nat) (ℓ : JobOperation) (a : JobStatement) :
    Decidable (claimRules.run t log i ℓ a) := isTrue trivial

instance (t : JobTable) (log : List JobEntry) (i : Nat) : Decidable (claimRules.fail t log i) :=
  isTrue trivial

/-! ## One job -/

/-- The queue before any job. -/
def emptyQueue : JobTable := Keyed.empty _

def sampleJob : NewJob := ⟨"job-1", none, "RECONCILE", [], "correlation-1"⟩

/-- So many seconds in, with nothing locked. -/
def atSecond (seconds : Int) : JobSurroundings := ⟨⟨seconds * 1000⟩, []⟩

end SettlementOps
