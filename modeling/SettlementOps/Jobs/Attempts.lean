import SettlementOps.Jobs.JobRunner

/-!
# How often a job is claimed

`failJob` decides from the attempts its worker read when it claimed the job, and writes
whatever row it finds.  As long as that reading and the row agree on whether the ceiling is
reached, a job is claimed at most `MAX_ATTEMPTS` times; a reading below the ceiling that meets
a row at the ceiling puts an exhausted job back into the queue.

* `BoundedAttempts` — what is said of one job.
* `freshRules` — the readings agree with the rows.
* `AttemptsInv` — the counter counts the claims, and an exhausted job is not pending.
* `attempts_bounded` — the result, with its converse.
-/

namespace SettlementOps

open Interleave Relational

/-- The job was claimed at most `MAX_ATTEMPTS` times, its counter is no higher, and once it is
there the job is not waiting to be claimed. -/
def BoundedAttempts (t : JobTable) (log : List JobEntry) (id : String) : Prop :=
  log.countP (claims id) ≤ MAX_ATTEMPTS ∧
    ∀ row ∈ t.find id, row.attempts ≤ MAX_ATTEMPTS ∧
      (MAX_ATTEMPTS ≤ row.attempts → row.status ≠ .pending)

/-- The attempts a worker read when it claimed the job have reached the ceiling if the row's
have. -/
def FreshAttempts (t : JobTable) : JobOperation → Prop
  | .failJob _ id attempts _ =>
      ∀ row ∈ t.find id, MAX_ATTEMPTS ≤ row.attempts → MAX_ATTEMPTS ≤ attempts
  | _ => True

instance (t : JobTable) : ∀ ℓ, Decidable (FreshAttempts t ℓ)
  | .failJob _ id attempts _ => inferInstanceAs (Decidable
      (∀ row ∈ t.find id, MAX_ATTEMPTS ≤ row.attempts → MAX_ATTEMPTS ≤ attempts))
  | .enqueueJob _ => isTrue trivial
  | .claimJob _ => isTrue trivial
  | .completeJob _ _ => isTrue trivial
  | .heartbeat _ _ => isTrue trivial
  | .reclaimAbandoned _ => isTrue trivial

/-- No `failJob` runs with a reading below the ceiling on a row that has reached it. -/
def freshRules : Rules JobTable JobSurroundings JobStatement JobStatement.Answer JobOperation :=
  { claimRules with run := fun t _ _ ℓ _ => FreshAttempts t ℓ }

/-! ## The invariant -/

structure AttemptsInv (t : JobTable) (log : List JobEntry) : Prop where
  counted : ∀ id, log.countP (claims id) = (t.find id).elim 0 (·.attempts)
  bounded : ∀ id row, t.find id = some row →
    row.attempts ≤ MAX_ATTEMPTS ∧ (MAX_ATTEMPTS ≤ row.attempts → row.status ≠ .pending)

theorem AttemptsInv.boundedAttempts {t : JobTable} {log : List JobEntry}
    (h : AttemptsInv t log) (id : String) : BoundedAttempts t log id := by
  refine ⟨?_, fun row hrow => h.bounded id row hrow⟩
  rw [h.counted id]
  cases hfind : t.find id with
  | none => simp
  | some row => exact (h.bounded id row hfind).1

/-- A row that is not there may be thought of as one without attempts. -/
theorem elim_attempts_map {f : JobRow → JobRow} (hf : ∀ r, (f r).attempts = r.attempts)
    (found : Option JobRow) : (found.map f).elim 0 (·.attempts) = found.elim 0 (·.attempts) := by
  cases found with
  | none => rfl
  | some r => exact hf r

/-- A change of rows that leaves the attempts alone and queues only rows below the ceiling. -/
theorem AttemptsInv.update {t : JobTable} {log : List JobEntry} (h : AttemptsInv t log)
    {p : JobRow → Bool} {f : JobRow → JobRow} (hid : ∀ r, (f r).id = r.id)
    (hattempts : ∀ r, (f r).attempts = r.attempts)
    (hstatus : ∀ id r, t.find id = some r → p r = true → MAX_ATTEMPTS ≤ r.attempts →
      (f r).status ≠ .pending)
    {e : JobEntry} (he : ∀ id, claims id e = false) :
    AttemptsInv (t.update p f hid) (log ++ [e]) := by
  constructor
  · intro id
    rw [Keyed.find_update, elim_attempts_map, ← h.counted id]
    · simp [List.countP_append, he id]
    · intro r
      split
      · exact hattempts r
      · rfl
  · intro id row hrow
    rw [Keyed.find_update, Option.map_eq_some_iff] at hrow
    obtain ⟨r, hr, hrow⟩ := hrow
    obtain ⟨hle, hpending⟩ := h.bounded id r hr
    split at hrow
    · rename_i hp
      subst hrow
      rw [hattempts]
      exact ⟨hle, fun hmax => hstatus id r hr hp hmax⟩
    · subst hrow
      exact ⟨hle, hpending⟩

/-- A claim takes a pending row, so one below the ceiling, and counts. -/
theorem AttemptsInv.claim {t : JobTable} {log : List JobEntry} (h : AttemptsInv t log)
    {ω : JobSurroundings} {row : JobRow} (hrow : t.find row.id = some row)
    (hpending : row.status = .pending) {e : JobEntry}
    (he : claimedJob e = some (row.claimedNow ω.now).toJob) :
    AttemptsInv (t.update (fun r => r.id = row.id) (JobRow.claimedNow ω.now)
      (JobRow.claimedNow_id ω.now)) (log ++ [e]) := by
  have hbelow : row.attempts < MAX_ATTEMPTS := by
    by_contra hge
    exact (h.bounded _ row hrow).2 (by omega) hpending
  have hclaims : ∀ id, claims id e = decide (row.id = id) := by
    intro id
    simp [claims, he, JobRow.claimedNow]
  constructor
  · intro id
    rw [List.countP_append, h.counted id, Keyed.find_update]
    by_cases hid : row.id = id
    · subst hid
      simp [hrow, hclaims, JobRow.claimedNow]
    · have hother : ∀ r, t.find id = some r → r.id ≠ row.id := by
        rintro r hr heq
        exact hid (heq.symm.trans (Keyed.find_eq_some.1 hr).2)
      cases hfind : t.find id with
      | none => simp [hclaims, hid]
      | some r => simp [hclaims, hid, hother r hfind]
  · intro id r' hr'
    rw [Keyed.find_update, Option.map_eq_some_iff] at hr'
    obtain ⟨r, hr, heq⟩ := hr'
    split at heq
    · rename_i hid
      have hsame : r = row := by
        have hfind : t.find row.id = some r := by
          rw [← of_decide_eq_true hid, (Keyed.find_eq_some.1 hr).2]
          exact hr
        rw [hrow, Option.some.injEq] at hfind
        exact hfind.symm
      subst hsame heq
      exact ⟨hbelow, fun _ => by simp [JobRow.claimedNow]⟩
    · subst heq
      exact h.bounded id r hr

theorem AttemptsInv.insert {t t' : JobTable} {log : List JobEntry} (h : AttemptsInv t log)
    {input : NewJob} {now : Date} (hins : t.insert (input.row now) = some t') {e : JobEntry}
    (he : ∀ id, claims id e = false) : AttemptsInv t' (log ++ [e]) := by
  constructor
  · intro id
    obtain ⟨hfree, hfind⟩ := Keyed.find_insert hins id
    rw [List.countP_append, h.counted id, hfind]
    by_cases hid : (input.row now).id = id
    · rw [if_pos hid, ← hid, hfree]
      simp [he, NewJob.row]
    · simp [hid, he]
  · intro id row hrow
    obtain ⟨-, hfind⟩ := Keyed.find_insert hins id
    rw [hfind] at hrow
    split at hrow
    · cases hrow
      exact ⟨Nat.zero_le _, fun hmax => absurd hmax (by simp [NewJob.row, MAX_ATTEMPTS])⟩
    · exact h.bounded id row hrow

/-- An entry that answers nothing about claims leaves the invariant of an unchanged table. -/
theorem AttemptsInv.stay {t : JobTable} {log : List JobEntry} (h : AttemptsInv t log)
    {e : JobEntry} (he : ∀ id, claims id e = false) : AttemptsInv t (log ++ [e]) := by
  refine ⟨fun id => ?_, h.bounded⟩
  rw [List.countP_append, h.counted id]
  simp [he id]

/-- **Every statement of a call restores the invariant.** -/
theorem AttemptsInv.exec {t : JobTable} {log : List JobEntry} (h : AttemptsInv t log) (i : Nat)
    {ℓ : JobOperation} (hfresh : FreshAttempts t ℓ) {a : JobStatement}
    (ha : ℓ.program.Sends a) (ω : JobSurroundings) :
    AttemptsInv (execJob ω a t).2 (log ++ [⟨i, ℓ, a, (execJob ω a t).1, ω⟩]) := by
  cases ℓ with
  | enqueueJob input =>
      obtain rfl := sends_enqueueJob ha
      simp only [execJob]
      split
      · exact h.stay fun _ => rfl
      · rename_i t' hins
        exact h.insert hins fun _ => rfl
  | claimJob jobTypes =>
      obtain rfl := sends_claimJob.1 ha
      rcases execJob_claim (ω := ω) (t := t) jobTypes with heq | ⟨row, hrow, hpending, heq⟩
      · rw [heq]
        exact h.stay fun _ => rfl
      · rw [heq]
        exact h.claim hrow hpending rfl
  | completeJob claim id =>
      obtain rfl := sends_completeJob.1 ha
      refine h.update (JobRow.succeededNow_id ω.now) ?_ ?_ ?_
      · intro r
        rfl
      · intro id' r _ _ _
        simp [JobRow.succeededNow]
      · intro id'
        rfl
  | failJob claim id attempts failureCode =>
      obtain rfl := sends_failJob.1 ha
      refine h.update (fun r => JobRow.failedNow_id ω.now _ _ _ r) ?_ ?_ ?_
      · intro r
        rfl
      · -- a row at the ceiling is failed with a reading at the ceiling
        intro id' r hr hp hmax
        have hid : id' = id := (Keyed.find_eq_some.1 hr).2.symm.trans (of_decide_eq_true hp)
        rw [hid] at hr
        have hattempts := hfresh r hr hmax
        simp [JobRow.failedNow, hattempts]
      · intro id'
        rfl
  | heartbeat claim id =>
      obtain rfl := sends_heartbeat.1 ha
      refine h.update (JobRow.heardNow_id ω.now) ?_ ?_ ?_
      · intro r
        rfl
      · intro id' r hr _ hmax
        exact (h.bounded id' r hr).2 hmax
      · intro id'
        rfl
  | reclaimAbandoned staleSeconds =>
      rcases sends_reclaimAbandoned ha with rfl | rfl
      · refine h.update (JobRow.requeuedNow_id ω.now 5) ?_ ?_ ?_
        · intro r
          rfl
        · intro id' r _ hp hmax
          simp only [Bool.and_eq_true, decide_eq_true_eq] at hp
          omega
        · intro id'
          rfl
      · refine h.update (JobRow.abandonedNow_id ω.now) ?_ ?_ ?_
        · intro r
          rfl
        · intro id' r _ _ _
          simp [JobRow.abandonedNow]
        · intro id'
          rfl

/-! ## The bound -/

theorem attemptsInv_of_reachable
    {c : Config JobTable JobSurroundings JobStatement JobStatement.Answer JobOperation JobResult}
    (h : jobSystem.Reachable freshRules.Allows (Config.init emptyQueue) c) :
    AttemptsInv c.state c.log := by
  refine inv_of_actions (I := AttemptsInv) ⟨fun _ => rfl, ?_⟩ ?_ h
  · intro id row hrow
    cases hrow
  · intro t log i ℓ a ω hinv hfresh ha
    exact hinv.exec i hfresh ha ω

/-- **Bounded attempts.**  While no worker fails a job that has reached the ceiling with a
reading below it, every job stays within its attempts; and a worker that does puts an
exhausted job back into the queue. -/
theorem attempts_bounded
    (c : Config JobTable JobSurroundings JobStatement JobStatement.Answer JobOperation JobResult) :
    (jobSystem.Reachable freshRules.Allows (Config.init emptyQueue) c →
      ∀ id, BoundedAttempts c.state c.log id) ∧
    (∀ c' m, jobSystem.Reachable claimRules.Allows (Config.init emptyQueue) c →
      claimRules.Allows c m → ¬ freshRules.Allows c m → jobSystem.step c m = some c' →
      ∃ id, ¬ BoundedAttempts c'.state c'.log id) := by
  constructor
  · intro h id
    exact (attemptsInv_of_reachable h).boundedAttempts id
  · intro c' m h hallow hstale hstep
    rcases System.step_cases hstep with ⟨ℓ, rfl, rfl⟩ | ⟨i, ω, ℓ, a, k, rfl, hi, rfl⟩ |
      ⟨i, ℓ, p, rfl, hi, rfl⟩
    · exact absurd hallow hstale
    · have hnot : ¬ FreshAttempts c.state ℓ := by
        intro hfresh
        apply hstale
        intro p hp
        simp only [Config.pending, hi, Option.mem_def, Option.some.injEq] at hp
        subst hp
        exact hfresh
      cases ℓ with
      | failJob claim id attempts failureCode =>
          obtain rfl := sends_failJob.1 (h.thread_sends hi (.inl rfl))
          simp only [FreshAttempts, Option.mem_def, not_forall] at hnot
          obtain ⟨row, hrow, hmax, hbelow⟩ := hnot
          have hid := (Keyed.find_eq_some.1 hrow).2
          refine ⟨id, fun hbounded => ?_⟩
          have hfind : (execJob ω (.fail id (if MAX_ATTEMPTS ≤ attempts then .abandoned
              else .pending) failureCode (backoffFor attempts)) c.state).2.find id =
              some (row.failedNow ω.now .pending failureCode (backoffFor attempts)) := by
            simp [execJob, hrow, hid, hbelow]
          exact (hbounded.2 _ hfind).2 hmax rfl
      | _ => exact absurd trivial hnot
    · exact absurd hallow hstale

/-! ## Three attempts, and a fourth -/

instance : ∀ t log ℓ, Decidable (freshRules.call t log ℓ) :=
  fun t log ℓ => inferInstanceAs (Decidable (claimRules.call t log ℓ))

instance (t : JobTable) (log : List JobEntry) (i : Nat) (ℓ : JobOperation) (a : JobStatement) :
    Decidable (freshRules.run t log i ℓ a) := inferInstanceAs (Decidable (FreshAttempts t ℓ))

instance (t : JobTable) (log : List JobEntry) (i : Nat) : Decidable (freshRules.fail t log i) :=
  isTrue trivial

/-- Three workers fail the job one after the other. -/
def exhaustedMoves : List (Move JobOperation JobSurroundings) :=
  [.call (.enqueueJob sampleJob), .run 0 (atSecond 0),
    .call (.claimJob ["RECONCILE"]), .run 1 (atSecond 1),
    .call (.failJob 1 "job-1" 1 "TRANSIENT_ERROR"), .run 2 (atSecond 2),
    .call (.claimJob ["RECONCILE"]), .run 3 (atSecond 40),
    .call (.failJob 3 "job-1" 2 "TRANSIENT_ERROR"), .run 4 (atSecond 41),
    .call (.claimJob ["RECONCILE"]), .run 5 (atSecond 170),
    .call (.failJob 5 "job-1" 3 "TRANSIENT_ERROR"), .run 6 (atSecond 171)]

/-- After the third failure the job is abandoned. -/
theorem attempts_bounded_exhausted :
    ∃ c, jobSystem.Reachable freshRules.Allows (Config.init emptyQueue) c ∧
      (c.state.find "job-1").map (fun row => (row.status, row.attempts)) =
        some (.abandoned, 3) ∧
      BoundedAttempts c.state c.log "job-1" := by
  obtain ⟨c, hc, hrow⟩ : ∃ c, jobSystem.replay freshRules.Allows (Config.init emptyQueue)
      exhaustedMoves = some c ∧
      (c.state.find "job-1").map (fun row => (row.status, row.attempts)) =
        some (.abandoned, 3) := ⟨_, rfl, rfl⟩
  have hreach := System.reachable_of_replay exhaustedMoves hc
  exact ⟨c, hreach, hrow, (attempts_bounded c).1 hreach "job-1"⟩

/-- A worker claims the job and stalls; two others claim it after the sweep; the first fails
it with the one attempt it remembers. -/
def fourthClaimMoves : List (Move JobOperation JobSurroundings) :=
  [.call (.enqueueJob sampleJob), .run 0 (atSecond 0),
    .call (.claimJob ["RECONCILE"]), .run 1 (atSecond 1),
    .call (.reclaimAbandoned 300), .run 2 (atSecond 400), .run 2 (atSecond 400),
    .call (.claimJob ["RECONCILE"]), .run 3 (atSecond 410),
    .call (.reclaimAbandoned 300), .run 4 (atSecond 800), .run 4 (atSecond 800),
    .call (.claimJob ["RECONCILE"]), .run 5 (atSecond 810),
    .call (.failJob 1 "job-1" 1 "TRANSIENT_ERROR"), .run 6 (atSecond 811),
    .call (.claimJob ["RECONCILE"]), .run 7 (atSecond 850)]

/-- The job is claimed a fourth time. -/
theorem fourth_claim :
    ∃ c, jobSystem.Reachable claimRules.Allows (Config.init emptyQueue) c ∧
      c.log.countP (claims "job-1") = 4 ∧
      (c.state.find "job-1").map (fun row => (row.status, row.attempts)) = some (.claimed, 4) ∧
      ¬ BoundedAttempts c.state c.log "job-1" := by
  obtain ⟨c, hc, hclaims, hrow⟩ : ∃ c, jobSystem.replay claimRules.Allows
      (Config.init emptyQueue) fourthClaimMoves = some c ∧
      c.log.countP (claims "job-1") = 4 ∧
      (c.state.find "job-1").map (fun row => (row.status, row.attempts)) =
        some (.claimed, 4) := ⟨_, rfl, rfl, rfl⟩
  refine ⟨c, System.reachable_of_replay fourthClaimMoves hc, hclaims, hrow, ?_⟩
  rintro ⟨hle, -⟩
  rw [hclaims] at hle
  exact absurd hle (by decide)

end SettlementOps
