import SettlementOps.Jobs.JobRunner

/-!
# Who may change a claimed job

`completeJob` and `failJob` find their job by its id alone.  While every worker stops acting
for a claim that the sweep has taken back or that it has itself completed or failed, a job
that ended stays as it is and only the holder of its last claim ends it; a worker that acts
for an ended claim meets whatever its successors made of the job.

* `isLive` — the claim was not taken back, completed or failed.
* `lastClaimant` — the call that made the last claim.
* `liveRules` — workers complete and fail only live claims, and keep no ended job alive.
* `OwnershipInv` — a live claim is the last one, and its job is claimed.
* `job_ownership` — the result.
-/

namespace SettlementOps

open Interleave Relational

/-- A job is done with. -/
def JobStatus.isEnded : JobStatus → Bool
  | .succeeded => true
  | .abandoned => true
  | _ => false

/-- The call that made the job's last claim. -/
def lastClaimant (id : String) (log : List JobEntry) : Option Nat :=
  log.foldl (fun claimant e => if claims id e then some e.pid else claimant) none

/-- The claim was neither taken back nor completed or failed. -/
def isLive (claim : Nat) (id : String) (log : List JobEntry) : Bool :=
  log.foldl (fun live e =>
    if claims id e ∧ e.pid = claim then true
    else live && !reclaims id e && !finishes claim id e) false

/-- A worker completes or fails only a live claim, and sends no heartbeat for a job that is
done with. -/
def ActsInTime (t : JobTable) (log : List JobEntry) : JobOperation → Prop
  | .completeJob claim id => isLive claim id log = true
  | .failJob claim id _ _ => isLive claim id log = true
  | .heartbeat _ id => ∀ row ∈ t.find id, row.status.isEnded = false
  | _ => True

def liveRules : Rules JobTable JobSurroundings JobStatement JobStatement.Answer JobOperation :=
  { claimRules with run := fun t log _ ℓ _ => ActsInTime t log ℓ }

/-! ## What one more statement changes -/

section Log

variable {log : List JobEntry} {e : JobEntry} {id : String} {claim : Nat}

theorem lastClaimant_concat : lastClaimant id (log ++ [e]) =
    if claims id e then some e.pid else lastClaimant id log := by
  simp [lastClaimant]

theorem isLive_concat : isLive claim id (log ++ [e]) =
    if claims id e ∧ e.pid = claim then true
    else isLive claim id log && !reclaims id e && !finishes claim id e := by
  simp [isLive]

/-- A claim that is live after a statement that claims nothing was live before, and the
statement did not end it. -/
theorem isLive_of_concat (hclaims : claims id e = false)
    (h : isLive claim id (log ++ [e]) = true) :
    isLive claim id log = true ∧ reclaims id e = false ∧ finishes claim id e = false := by
  rw [isLive_concat, hclaims] at h
  simpa [and_assoc] using h

end Log

/-! ## The invariant -/

/-- A live claim is the job's last, and its job is claimed. -/
structure OwnershipInv (t : JobTable) (log : List JobEntry) : Prop where
  live : ∀ claim id, isLive claim id log = true →
    lastClaimant id log = some claim ∧ ∃ row, t.find id = some row ∧ row.status = .claimed

/-- A job whose row is not claimed has no live claim. -/
theorem OwnershipInv.isLive_eq_false {t : JobTable} {log : List JobEntry}
    (h : OwnershipInv t log) {id : String} {row : JobRow} (hrow : t.find id = some row)
    (hstatus : row.status ≠ .claimed) (claim : Nat) : isLive claim id log = false := by
  cases hlive : isLive claim id log with
  | false => rfl
  | true =>
      obtain ⟨-, row', hrow', hclaimed⟩ := h.live claim id hlive
      rw [hrow, Option.some.injEq] at hrow'
      rw [hrow'] at hstatus
      exact absurd hclaimed hstatus

/-- Two live claims of a job are the same. -/
theorem OwnershipInv.eq {t : JobTable} {log : List JobEntry} (h : OwnershipInv t log)
    {id : String} {claim claim' : Nat} (hlive : isLive claim id log = true)
    (hlive' : isLive claim' id log = true) : claim = claim' := by
  have hlast := (h.live claim id hlive).1
  rw [(h.live claim' id hlive').1, Option.some.injEq] at hlast
  exact hlast.symm

/-- A statement that claims nothing keeps the invariant if the rows of the claims it leaves
live stay claimed. -/
theorem OwnershipInv.of_rows {t t' : JobTable} {log : List JobEntry} (h : OwnershipInv t log)
    {e : JobEntry} (he : ∀ id, claims id e = false)
    (hrows : ∀ claim id row, isLive claim id (log ++ [e]) = true → t.find id = some row →
      row.status = .claimed → ∃ row', t'.find id = some row' ∧ row'.status = .claimed) :
    OwnershipInv t' (log ++ [e]) := by
  constructor
  intro claim id hlive
  obtain ⟨hbefore, -, -⟩ := isLive_of_concat (he id) hlive
  obtain ⟨hlast, row, hrow, hclaimed⟩ := h.live claim id hbefore
  refine ⟨?_, hrows claim id row hlive hrow hclaimed⟩
  rw [lastClaimant_concat, he id]
  exact hlast

/-- A claim takes a pending row, which has no live claim, and is live. -/
theorem OwnershipInv.claim {t : JobTable} {log : List JobEntry} (h : OwnershipInv t log)
    {ω : JobSurroundings} {row : JobRow} (hrow : t.find row.id = some row)
    (hpending : row.status = .pending) {e : JobEntry}
    (he : claimedJob e = some (row.claimedNow ω.now).toJob) :
    OwnershipInv (t.update (fun r => r.id = row.id) (JobRow.claimedNow ω.now)
      (JobRow.claimedNow_id ω.now)) (log ++ [e]) := by
  have hclaims : ∀ id, claims id e = decide (row.id = id) := by
    intro id
    simp [claims, he, JobRow.claimedNow]
  constructor
  intro claim id hlive
  rw [lastClaimant_concat]
  rw [isLive_concat] at hlive
  by_cases hid : row.id = id
  · subst hid
    have hnone := h.isLive_eq_false hrow (by simp [hpending]) claim
    simp only [hclaims, decide_true, true_and, hnone, Bool.false_and] at hlive
    have hpid : e.pid = claim := by simpa using hlive
    refine ⟨by simp [hclaims, hpid], row.claimedNow ω.now, ?_, rfl⟩
    simp [hrow]
  · have hbefore : isLive claim id log = true := by
      simp only [hclaims, hid, decide_false, Bool.false_eq_true, false_and, if_false,
        Bool.and_eq_true] at hlive
      exact hlive.1.1
    obtain ⟨hlast, r, hr, hclaimed⟩ := h.live claim id hbefore
    refine ⟨by simp [hclaims, hid, hlast], r, ?_, hclaimed⟩
    have hne : r.id ≠ row.id := by
      rw [(Keyed.find_eq_some.1 hr).2]
      exact fun heq => hid heq.symm
    simp [hr, hne]

/-- The holder of a live claim ends it: no claim of its job is live after. -/
theorem OwnershipInv.finish {t : JobTable} {log : List JobEntry} (h : OwnershipInv t log)
    {claim : Nat} {id : String} (hlive : isLive claim id log = true) {e : JobEntry}
    (he : ∀ id, claims id e = false) (hfinishes : finishes claim id e = true)
    {f : JobRow → JobRow} (hf : ∀ r, (f r).id = r.id) :
    OwnershipInv (t.update (fun r => r.id = id) f hf) (log ++ [e]) := by
  refine h.of_rows he ?_
  intro claim' id' row hlive' hrow hclaimed
  obtain ⟨hbefore, -, hnot⟩ := isLive_of_concat (he id') hlive'
  have hne : id' ≠ id := by
    rintro rfl
    rw [h.eq hbefore hlive, hfinishes] at hnot
    cases hnot
  have hrowid : row.id ≠ id := by
    rw [(Keyed.find_eq_some.1 hrow).2]
    exact hne
  exact ⟨row, by simp [hrow, hrowid], hclaimed⟩

/-- The sweep ends the claims of the jobs it changes. -/
theorem OwnershipInv.sweep {t : JobTable} {log : List JobEntry} (h : OwnershipInv t log)
    {p : JobRow → Bool} {f : JobRow → JobRow} (hf : ∀ r, (f r).id = r.id) {e : JobEntry}
    (he : ∀ id, claims id e = false)
    (hreclaims : ∀ id, reclaims id e = (t.touched p).contains id) :
    OwnershipInv (t.update p f hf) (log ++ [e]) := by
  refine h.of_rows he ?_
  intro claim id row hlive hrow hclaimed
  obtain ⟨-, hnot, -⟩ := isLive_of_concat (he id) hlive
  have hp : p row = false := by
    by_contra hp
    have hmem : id ∈ t.touched p := Keyed.mem_touched.2 ⟨row, hrow, by simpa using hp⟩
    rw [hreclaims] at hnot
    simp [hmem] at hnot
  exact ⟨row, by simp [hrow, hp], hclaimed⟩

/-- **Every statement of a call that acts in time restores the invariant.** -/
theorem OwnershipInv.exec {t : JobTable} {log : List JobEntry} (h : OwnershipInv t log) (i : Nat)
    {ℓ : JobOperation} (hact : ActsInTime t log ℓ) {a : JobStatement}
    (ha : ℓ.program.Sends a) (ω : JobSurroundings) :
    OwnershipInv (execJob ω a t).2 (log ++ [⟨i, ℓ, a, (execJob ω a t).1, ω⟩]) := by
  cases ℓ with
  | enqueueJob input =>
      obtain rfl := sends_enqueueJob ha
      refine h.of_rows (fun _ => rfl) ?_
      intro claim id row _ hrow hclaimed
      exact ⟨row, find_execJob_insert hrow, hclaimed⟩
  | claimJob jobTypes =>
      obtain rfl := sends_claimJob.1 ha
      rcases execJob_claim (ω := ω) (t := t) jobTypes with heq | ⟨row, hrow, hpending, heq⟩
      · rw [heq]
        refine h.of_rows (fun _ => rfl) ?_
        intro claim id row _ hrow hclaimed
        exact ⟨row, hrow, hclaimed⟩
      · rw [heq]
        exact h.claim hrow hpending rfl
  | completeJob claim id =>
      obtain rfl := sends_completeJob.1 ha
      refine h.finish hact ?_ ?_ (JobRow.succeededNow_id ω.now)
      · intro id'
        rfl
      · simp [finishes]
  | failJob claim id attempts failureCode =>
      obtain rfl := sends_failJob.1 ha
      refine h.finish hact ?_ ?_ (fun r => JobRow.failedNow_id ω.now _ _ _ r)
      · intro id'
        rfl
      · simp [finishes]
  | heartbeat claim id =>
      obtain rfl := sends_heartbeat.1 ha
      refine h.of_rows (fun _ => rfl) ?_
      intro claim' id' row _ hrow hclaimed
      have hfind : (execJob ω (.heartbeat id) t).2.find id' =
          some (if row.id = id then row.heardNow ω.now else row) := by
        simp [execJob, hrow]
      refine ⟨_, hfind, ?_⟩
      split
      · exact hclaimed
      · exact hclaimed
  | reclaimAbandoned staleSeconds =>
      rcases sends_reclaimAbandoned ha with rfl | rfl
      · refine h.sweep (JobRow.requeuedNow_id ω.now 5) ?_ ?_
        · intro id
          rfl
        · intro id
          rfl
      · refine h.sweep (JobRow.abandonedNow_id ω.now) ?_ ?_
        · intro id
          rfl
        · intro id
          rfl

theorem ownershipInv_of_reachable
    {c : Config JobTable JobSurroundings JobStatement JobStatement.Answer JobOperation JobResult}
    (h : jobSystem.Reachable liveRules.Allows (Config.init emptyQueue) c) :
    OwnershipInv c.state c.log := by
  refine inv_of_actions (I := OwnershipInv) ⟨?_⟩ ?_ h
  · intro claim id hlive
    cases hlive
  · intro t log i ℓ a ω hinv hact ha
    exact hinv.exec i hact ha ω

/-! ## Ended jobs, and who ends a job -/

section Step

variable {t : JobTable} {log : List JobEntry} {ℓ : JobOperation} {a : JobStatement}
  {ω : JobSurroundings} {id : String} {row : JobRow}

/-- An update of another row, or one whose condition the row does not meet. -/
theorem find_update_of_not {p : JobRow → Bool} {f : JobRow → JobRow}
    (hf : ∀ r, (f r).id = r.id) (hrow : t.find id = some row) (hp : p row = false) :
    (t.update p f hf).find id = some row := by
  simp [hrow, hp]

/-- **An ended job stays as it is.** -/
theorem ended_stays (h : OwnershipInv t log) (hact : ActsInTime t log ℓ)
    (ha : ℓ.program.Sends a) (hrow : t.find id = some row) (hended : row.status.isEnded = true) :
    (execJob ω a t).2.find id = some row := by
  have hid := (Keyed.find_eq_some.1 hrow).2
  have hclaimed : row.status ≠ .claimed := by
    intro heq
    rw [heq] at hended
    cases hended
  -- a live claim is on another job
  have hother : ∀ claim id', isLive claim id' log = true → row.id ≠ id' := by
    rintro claim id' hlive rfl
    rw [hid, h.isLive_eq_false hrow hclaimed claim] at hlive
    cases hlive
  cases ℓ with
  | enqueueJob input =>
      obtain rfl := sends_enqueueJob ha
      exact find_execJob_insert hrow
  | claimJob jobTypes =>
      obtain rfl := sends_claimJob.1 ha
      rcases execJob_claim (ω := ω) (t := t) jobTypes with heq | ⟨taken, htaken, hpending, heq⟩
      · rw [heq]
        exact hrow
      · rw [heq]
        apply find_update_of_not (JobRow.claimedNow_id ω.now) hrow
        have hne : row.id ≠ taken.id := by
          intro hsame
          rw [← hsame, hid, hrow, Option.some.injEq] at htaken
          rw [htaken, hpending] at hended
          cases hended
        simpa using hne
  | completeJob claim id' =>
      obtain rfl := sends_completeJob.1 ha
      exact find_update_of_not (JobRow.succeededNow_id ω.now) hrow
        (by simpa using hother claim id' hact)
  | failJob claim id' attempts failureCode =>
      obtain rfl := sends_failJob.1 ha
      exact find_update_of_not (fun r => JobRow.failedNow_id ω.now _ _ _ r) hrow
        (by simpa using hother claim id' hact)
  | heartbeat claim id' =>
      obtain rfl := sends_heartbeat.1 ha
      apply find_update_of_not (JobRow.heardNow_id ω.now) hrow
      have hne : row.id ≠ id' := by
        rintro rfl
        rw [hid] at hact
        rw [hact row hrow] at hended
        cases hended
      simpa using hne
  | reclaimAbandoned staleSeconds =>
      rcases sends_reclaimAbandoned ha with rfl | rfl
      · exact find_update_of_not (JobRow.requeuedNow_id ω.now 5) hrow
          (by simp [isStale, hclaimed])
      · exact find_update_of_not (JobRow.abandonedNow_id ω.now) hrow
          (by simp [isStale, hclaimed])

/-- A change of status is a claim, the sweep, or the end of the last claim by its holder. -/
theorem status_changed (h : OwnershipInv t log) (hact : ActsInTime t log ℓ)
    (ha : ℓ.program.Sends a) (i : Nat) (hrow : t.find id = some row) {row' : JobRow}
    (hrow' : (execJob ω a t).2.find id = some row') (hne : row'.status ≠ row.status) :
    claims id ⟨i, ℓ, a, (execJob ω a t).1, ω⟩ = true ∨
      reclaims id ⟨i, ℓ, a, (execJob ω a t).1, ω⟩ = true ∨
      ∃ claim, finishes claim id ⟨i, ℓ, a, (execJob ω a t).1, ω⟩ = true ∧
        lastClaimant id log = some claim ∧ isLive claim id log = true := by
  have hid := (Keyed.find_eq_some.1 hrow).2
  -- an update that does not meet the row changes nothing
  have hmeets : ∀ {p : JobRow → Bool} {f : JobRow → JobRow} (hf : ∀ r, (f r).id = r.id),
      (t.update p f hf).find id = some row' → p row = true := by
    intro p f hf hfind
    by_contra hp
    rw [find_update_of_not hf hrow (by simpa using hp), Option.some.injEq] at hfind
    rw [hfind] at hne
    exact hne rfl
  cases ℓ with
  | enqueueJob input =>
      obtain rfl := sends_enqueueJob ha
      rw [find_execJob_insert hrow, Option.some.injEq] at hrow'
      rw [hrow'] at hne
      exact absurd rfl hne
  | claimJob jobTypes =>
      obtain rfl := sends_claimJob.1 ha
      rcases execJob_claim (ω := ω) (t := t) jobTypes with heq | ⟨taken, _, _, heq⟩
      · rw [heq, hrow, Option.some.injEq] at hrow'
        rw [hrow'] at hne
        exact absurd rfl hne
      · rw [heq] at hrow' ⊢
        have hsame := of_decide_eq_true (hmeets (JobRow.claimedNow_id ω.now) hrow')
        left
        simp [claims, claimedJob, ← hsame, hid]
  | completeJob claim id' =>
      obtain rfl := sends_completeJob.1 ha
      have hsame := of_decide_eq_true (hmeets (JobRow.succeededNow_id ω.now) hrow')
      obtain rfl : id = id' := hid.symm.trans hsame
      exact .inr (.inr ⟨claim, by simp [finishes], (h.live claim id hact).1, hact⟩)
  | failJob claim id' attempts failureCode =>
      obtain rfl := sends_failJob.1 ha
      have hsame := of_decide_eq_true (hmeets (fun r => JobRow.failedNow_id ω.now _ _ _ r) hrow')
      obtain rfl : id = id' := hid.symm.trans hsame
      exact .inr (.inr ⟨claim, by simp [finishes], (h.live claim id hact).1, hact⟩)
  | heartbeat claim id' =>
      obtain rfl := sends_heartbeat.1 ha
      simp only [execJob, Keyed.find_update, hrow, Option.map_some, Option.some.injEq] at hrow'
      rw [← hrow'] at hne
      split at hne
      · exact absurd rfl hne
      · exact absurd rfl hne
  | reclaimAbandoned staleSeconds =>
      rcases sends_reclaimAbandoned ha with rfl | rfl
      · have hp := hmeets (JobRow.requeuedNow_id ω.now 5) hrow'
        refine .inr (.inl (List.contains_iff_mem.2 (Keyed.mem_touched.2 ⟨row, hrow, hp⟩)))
      · have hp := hmeets (JobRow.abandonedNow_id ω.now) hrow'
        refine .inr (.inl (List.contains_iff_mem.2 (Keyed.mem_touched.2 ⟨row, hrow, hp⟩)))

end Step

theorem ended_stays_of_reachable
    {c c' : Config JobTable JobSurroundings JobStatement JobStatement.Answer JobOperation JobResult}
    (h : jobSystem.Reachable liveRules.Allows (Config.init emptyQueue) c)
    (h' : jobSystem.Reachable liveRules.Allows c c') {id : String} {row : JobRow}
    (hrow : c.state.find id = some row) (hended : row.status.isEnded = true) :
    c'.state.find id = some row := by
  induction h' with
  | refl => exact hrow
  | step hreach hallow hstep ih =>
      have hfrom := h.trans hreach
      rcases action_of_step hfrom hallow hstep with
        ⟨hstate, -⟩ | ⟨i, ω, ℓ, a, hact, ha, hstate, -⟩
      · rw [hstate]
        exact ih
      · rw [hstate]
        exact ended_stays (ownershipInv_of_reachable hfrom) hact ha ih hended

/-- **Job ownership.**  While workers complete and fail live claims only, and keep no ended
job alive: a job that has ended stays as it is in every later configuration, and whenever the
status of a job changes, that is a claim, the sweep, or the holder of the job's last claim
ending it. -/
theorem job_ownership
    (c : Config JobTable JobSurroundings JobStatement JobStatement.Answer JobOperation JobResult)
    (h : jobSystem.Reachable liveRules.Allows (Config.init emptyQueue) c) :
    (∀ c' id row, jobSystem.Reachable liveRules.Allows c c' → c.state.find id = some row →
      row.status.isEnded = true → c'.state.find id = some row) ∧
    (∀ c' m id row row', liveRules.Allows c m → jobSystem.step c m = some c' →
      c.state.find id = some row → c'.state.find id = some row' → row'.status ≠ row.status →
      ∃ e, c'.log = c.log ++ [e] ∧
        (claims id e = true ∨ reclaims id e = true ∨
          ∃ claim, finishes claim id e = true ∧ lastClaimant id c.log = some claim ∧
            isLive claim id c.log = true)) := by
  constructor
  · intro c' id row h' hrow hended
    exact ended_stays_of_reachable h h' hrow hended
  · intro c' m id row row' hallow hstep hrow hrow' hne
    rcases action_of_step h hallow hstep with ⟨hstate, -⟩ | ⟨i, ω, ℓ, a, hact, ha, hstate, hlog⟩
    · rw [hstate, hrow, Option.some.injEq] at hrow'
      rw [hrow'] at hne
      exact absurd rfl hne
    · rw [hstate] at hrow'
      exact ⟨_, hlog, status_changed (ownershipInv_of_reachable h) hact ha i hrow hrow' hne⟩

/-! ## A worker that resumes -/

instance (t : JobTable) (log : List JobEntry) : ∀ ℓ, Decidable (ActsInTime t log ℓ)
  | .completeJob claim id => inferInstanceAs (Decidable (isLive claim id log = true))
  | .failJob claim id _ _ => inferInstanceAs (Decidable (isLive claim id log = true))
  | .heartbeat _ id =>
      inferInstanceAs (Decidable (∀ row ∈ t.find id, row.status.isEnded = false))
  | .enqueueJob _ => isTrue trivial
  | .claimJob _ => isTrue trivial
  | .reclaimAbandoned _ => isTrue trivial

instance : ∀ t log ℓ, Decidable (liveRules.call t log ℓ) :=
  fun t log ℓ => inferInstanceAs (Decidable (claimRules.call t log ℓ))

instance (t : JobTable) (log : List JobEntry) (i : Nat) (ℓ : JobOperation) (a : JobStatement) :
    Decidable (liveRules.run t log i ℓ a) := inferInstanceAs (Decidable (ActsInTime t log ℓ))

instance (t : JobTable) (log : List JobEntry) (i : Nat) : Decidable (liveRules.fail t log i) :=
  isTrue trivial

/-- A worker stalls, the sweep takes its job back, and a second worker completes it. -/
def successorMoves : List (Move JobOperation JobSurroundings) :=
  [.call (.enqueueJob sampleJob), .run 0 (atSecond 0),
    .call (.claimJob ["RECONCILE"]), .run 1 (atSecond 1),
    .call (.reclaimAbandoned 300), .run 2 (atSecond 400), .run 2 (atSecond 400),
    .call (.claimJob ["RECONCILE"]), .run 3 (atSecond 410),
    .call (.completeJob 3 "job-1"), .run 4 (atSecond 420)]

/-- Another sweep leaves the completed job alone. -/
theorem job_ownership_successor :
    ∃ c c' row, jobSystem.Reachable liveRules.Allows (Config.init emptyQueue) c ∧
      jobSystem.Reachable liveRules.Allows c c' ∧ c'.log.length = c.log.length + 2 ∧
      c.state.find "job-1" = some row ∧ row.status = .succeeded ∧
      c'.state.find "job-1" = some row := by
  obtain ⟨c, hc, row, hrow, hstatus, c', hc', hlen⟩ : ∃ c,
      jobSystem.replay liveRules.Allows (Config.init emptyQueue) successorMoves = some c ∧
      ∃ row, c.state.find "job-1" = some row ∧ row.status = .succeeded ∧
        ∃ c', jobSystem.replay liveRules.Allows c
          [.call (.reclaimAbandoned 300), .run 5 (atSecond 900), .run 5 (atSecond 900)] =
            some c' ∧ c'.log.length = c.log.length + 2 :=
    ⟨_, rfl, _, rfl, rfl, _, rfl, rfl⟩
  have h := System.reachable_of_replay successorMoves hc
  have h' := System.reachable_of_replay _ hc'
  refine ⟨c, c', row, h, h', hlen, hrow, hstatus, ?_⟩
  exact (job_ownership c h).1 c' "job-1" row h' hrow (by rw [hstatus]; rfl)

/-- The stalled worker resumes and fails the job its successor has completed. -/
theorem stalled_worker_requeues :
    ∃ c c' row, jobSystem.Reachable claimRules.Allows (Config.init emptyQueue) c ∧
      jobSystem.Reachable claimRules.Allows c c' ∧
      c.state.find "job-1" = some row ∧ row.status = .succeeded ∧
      lastClaimant "job-1" c.log = some 3 ∧
      ∃ e row', c'.log = c.log ++ [e] ∧ finishes 1 "job-1" e = true ∧
        c'.state.find "job-1" = some row' ∧ row'.status = .pending := by
  obtain ⟨c, hc, row, hrow, hstatus, hlast, c', hc', e, row', hlog, hfin, hrow', hpending⟩ : ∃ c,
      jobSystem.replay claimRules.Allows (Config.init emptyQueue) successorMoves = some c ∧
      ∃ row, c.state.find "job-1" = some row ∧ row.status = .succeeded ∧
        lastClaimant "job-1" c.log = some 3 ∧
        ∃ c', jobSystem.replay claimRules.Allows c
          [.call (.failJob 1 "job-1" 1 "TRANSIENT_ERROR"), .run 5 (atSecond 430)] = some c' ∧
          ∃ e row', c'.log = c.log ++ [e] ∧ finishes 1 "job-1" e = true ∧
            c'.state.find "job-1" = some row' ∧ row'.status = .pending :=
    ⟨_, rfl, _, rfl, rfl, rfl, _, rfl, _, _, rfl, rfl, rfl, rfl⟩
  exact ⟨c, c', row, System.reachable_of_replay _ hc, System.reachable_of_replay _ hc', hrow,
    hstatus, hlast, e, row', hlog, hfin, hrow', hpending⟩

end SettlementOps
