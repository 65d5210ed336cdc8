import SettlementOps.Runs.CompletedRun

/-!
# Retrying a run

A failed run is retried by calling it again.  The guard against a second case of a payment is
keyed on the run, whose id the call generates afresh, and a case is committed before its audit
event is appended.

* `SafelyReconciled` — a payment has at most one residual case, and each has its audit event.
* `retryRules`, `CompletedOnce` — calls over one import, all of which fail but one.
* `NothingToRepeat` — no failed call has created a case and no exception has one already.
* `retry_safe_iff` — the captured payments are safely reconciled exactly then.
-/

namespace SettlementOps

open Interleave Relational

/-! ## The property -/

def RunDatabase.casesOf (db : RunDatabase) (paymentId : PaymentId) : List CaseRow :=
  db.cases.filter fun r => r.paymentId = some paymentId

/-- An audit event of the creation of a residual case. -/
def isExceptionCreated (caseId : CaseId) (r : IngestionRow) : Bool :=
  r.entityType = "reconciliation_case" ∧ r.entityId = caseId ∧
    r.eventType = "reconciliation_exception_created"

/-- At most one residual case, and one audit event for each. -/
structure SafelyReconciled (db : RunDatabase) (paymentId : PaymentId) : Prop where
  one : (db.casesOf paymentId).length ≤ 1
  audited : ∀ row ∈ db.casesOf paymentId,
    db.auditEvents.countP (isExceptionCreated row.id) = 1

/-- All captured payments of the import are safely reconciled. -/
def RetrySafe (scope : MerchantScope) (importId : String) (db : RunDatabase) : Prop :=
  ∀ p ∈ db.records.capturedOf scope importId, SafelyReconciled db p.id

/-! ## The calls -/

section Retry

variable (orders : ListingOrders) (scope : MerchantScope) (input : RunReconciliationInput)

/-- A call of the use case for the merchant with the given input. -/
def CallOf (ℓ : RunOperation) : Prop := ∃ call ∈ ℓ.call, scopeOf call.1 = scope ∧ call.2 = input

instance (ℓ : RunOperation) : Decidable (CallOf scope input ℓ) :=
  inferInstanceAs (Decidable (∃ call ∈ _, _ ∧ _))

/-- A case gets an id that no audit event is about yet. -/
def NewCaseId (db : RunDatabase) : RunStatement → Prop
  | .insertCase _ residual => ∀ event ∈ db.auditEvents, event.entityId ≠ residual.id
  | _ => True

instance (db : RunDatabase) : ∀ a, Decidable (NewCaseId db a)
  | .insertCase _ residual =>
      inferInstanceAs (Decidable (∀ event ∈ db.auditEvents, event.entityId ≠ residual.id))
  | .nextId => inferInstanceAs (Decidable True)
  | .insertRun _ _ => inferInstanceAs (Decidable True)
  | .listPaymentIdsForImport _ _ => inferInstanceAs (Decidable True)
  | .listCapturedPaymentIds _ _ => inferInstanceAs (Decidable True)
  | .loadUnit _ _ => inferInstanceAs (Decidable True)
  | .selectCase _ _ _ => inferInstanceAs (Decidable True)
  | .insertAuditEvent _ _ _ => inferInstanceAs (Decidable True)
  | .completeRun _ _ _ => inferInstanceAs (Decidable True)
  | .selectRun _ _ => inferInstanceAs (Decidable True)
  | .importing _ => inferInstanceAs (Decidable True)

/-- Only such calls are made, and the ids they generate are new. -/
def retryRules :
    Rules RunDatabase ImportSurroundings RunStatement RunStatement.Answer RunOperation where
  call _ _ ℓ := CallOf scope input ℓ
  run db _ _ _ a := NewCaseId db a

instance (db : RunDatabase) (log : List ExecutedRun) (ℓ : RunOperation) :
    Decidable ((retryRules scope input).call db log ℓ) :=
  inferInstanceAs (Decidable (CallOf scope input ℓ))

instance (db : RunDatabase) (log : List ExecutedRun) (i : Nat) (ℓ : RunOperation)
    (a : RunStatement) : Decidable ((retryRules scope input).run db log i ℓ a) :=
  inferInstanceAs (Decidable (NewCaseId db a))

instance (db : RunDatabase) (log : List ExecutedRun) (i : Nat) :
    Decidable ((retryRules scope input).fail db log i) := .isTrue trivial

/-- Of all calls, one has completed and the others have failed. -/
structure CompletedOnce (c : RunConfig) (i : Nat) : Prop where
  settled : c.settled = true
  completed : ∃ ℓ summary, c.returned i = some (ℓ, .completed summary)
  others : ∀ j ℓ summary, c.returned j = some (ℓ, .completed summary) → j = i

/-- The payments of the slice of a call that do not reconcile. -/
def exceptionsOf (records : RecordStore) (importId : String) (maxPayments : Nat) :
    List PaymentId :=
  (((orders.forImport.sort (records.capturedOf scope importId)).map (·.id)).take
    maxPayments).filter fun p => (SettlementOps.loadUnit records scope p).any fun unit =>
      (reconcileUnit unit).outcome = .exception

/-- The initial database is safe, no exception of the slice has a case in it, and a call other
than the completed one fails before it commits a case. -/
structure NothingToRepeat (importId : String) (maxPayments : Nat) (db₀ : RunDatabase)
    (c : RunConfig) (i : Nat) : Prop where
  initial : RetrySafe scope importId db₀
  noCase : ∀ p ∈ exceptionsOf orders scope db₀.records importId maxPayments, db₀.casesOf p = []
  failedEarly : ∀ e ∈ c.log, e.pid ≠ i → createdCase e = none

/-! ## What the calls were given -/

/-- What calls over one import find, and what their audit events are about. -/
structure RetryFacts (importId : String) (db₀ db : RunDatabase) (log : List ExecutedRun) :
    Prop where
  records : db.records = db₀.records
  kept : ∀ event ∈ db₀.auditEvents, event ∈ db.auditEvents
  listed : ∀ e ∈ log, ∀ ids, listedPayments e = some (scope, some importId, ids) →
    ids = (orders.forImport.sort (db₀.records.capturedOf scope importId)).map (·.id)
  loaded : ∀ e ∈ log, ∀ p unit, loadedUnit e = some (scope, p, unit) →
    unit = SettlementOps.loadUnit db₀.records scope p
  fresh : ∀ e ∈ log, ∀ row, createdCase e = some row →
    ∀ event ∈ db₀.auditEvents, event.entityId ≠ row.id
  events : ∀ e ∈ log, ∀ event, appendedEvent e = some event →
    auditedCase e = some event.entityId ∧ isExceptionCreated event.entityId event = true

variable {orders scope input} {importId : String} {maxPayments : Nat} {db₀ db : RunDatabase}
  {log : List ExecutedRun} {c : RunConfig}

theorem RetryFacts.step (h : RetryFacts orders scope importId db₀ db log) (i : Nat)
    (ℓ : RunOperation) {a : RunStatement} (ha : a.OfRun) (ω : ImportSurroundings)
    (hnew : NewCaseId db a) :
    RetryFacts orders scope importId db₀ (execRun orders ω a db).2
      (log ++ [executedRun orders i ℓ a ω db]) where
  records := by
    rcases execRun_records orders ω db a with hsame | ⟨_, _, _, rfl, -⟩
    · rw [hsame]
      exact h.records
    · exact ha.elim
  kept := by
    intro event hevent
    rw [execRun_auditEvents i ℓ a]
    exact List.mem_append_left _ (h.kept event hevent)
  listed := by
    intro e he ids hids
    rcases List.mem_append.1 he with he | he
    · exact h.listed e he ids hids
    · rw [List.mem_singleton.1 he] at hids
      rw [← h.records]
      exact listed_executed hids
  loaded := by
    intro e he p unit hunit
    rcases List.mem_append.1 he with he | he
    · exact h.loaded e he p unit hunit
    · rw [List.mem_singleton.1 he] at hunit
      rw [← h.records]
      exact loaded_executed hunit
  fresh := by
    intro e he row hrow event hevent
    rcases List.mem_append.1 he with he | he
    · exact h.fresh e he row hrow event hevent
    · rw [List.mem_singleton.1 he] at hrow
      obtain ⟨scope', residual, rfl, hid⟩ := created_executed hrow
      rw [hid]
      exact hnew event (h.kept event hevent)
  events := by
    intro e he event hevent
    rcases List.mem_append.1 he with he | he
    · exact h.events e he event hevent
    · rw [List.mem_singleton.1 he] at hevent ⊢
      obtain ⟨⟨ctx, caseId, verdict, hevent'⟩, haudited⟩ := appended_executed ha hevent
      obtain ⟨event, id, scope', createdAt⟩ := event
      obtain rfl := hevent'
      exact ⟨haudited, by simp [isExceptionCreated, exceptionCreatedEvent]⟩

/-- The cases of a payment that calls created. -/
def createdFor (log : List ExecutedRun) (p : PaymentId) : List CaseRow :=
  (log.filterMap createdCase).filter fun r => r.paymentId = some p

/-- An audited case has its audit row. -/
theorem appended_of_audited {e : ExecutedRun} {caseId : CaseId}
    (h : auditedCase e = some caseId) :
    ∃ event, appendedEvent e = some event ∧ event.entityId = caseId := by
  obtain ⟨pid, ℓ, a, answer, ω⟩ := e
  cases a with
  | insertAuditEvent scope id event =>
      match answer, h with
      | some (), h =>
          cases h
          exact ⟨_, rfl, rfl⟩
  | _ => cases h

section Reachable

variable (h : (runSystem orders).Reachable (retryRules scope ⟨some importId, maxPayments⟩).Allows
  (Config.init db₀) c)

include h

theorem callOf_of_mem {e : ExecutedRun} (he : e ∈ c.log) :
    CallOf scope ⟨some importId, maxPayments⟩ e.label := by
  obtain ⟨code, hthread⟩ := h.thread_of_mem he
  obtain ⟨s, log, hcall⟩ := call_of_thread h hthread
  exact hcall

theorem facts_of_reachable : RetryFacts orders scope importId db₀ c.state c.log := by
  have hinv := inv_of_actions (I := fun db log =>
    (∀ e ∈ log, CallOf scope ⟨some importId, maxPayments⟩ e.label) →
      RetryFacts orders scope importId db₀ db log)
    (fun _ => ⟨rfl, fun _ he => he, by simp, by simp, by simp, by simp⟩) ?_ h
  · exact hinv fun e he => callOf_of_mem h he
  · intro db log i ℓ a ω hfacts hrun hsends hlabels
    obtain ⟨call, hcall, -⟩ : CallOf scope ⟨some importId, maxPayments⟩ ℓ :=
      hlabels _ (List.mem_append_right _ (List.mem_singleton_self _))
    have hbefore := hfacts fun e he => hlabels e (List.mem_append_left _ he)
    exact hbefore.step i ℓ (only_program hcall a hsends) ω hrun

/-- What the completed call has done. -/
theorem progress_of_completed {i : Nat} {ℓ : RunOperation} {summary : ReconciliationRunSummary}
    (hret : c.returned i = some (ℓ, .completed summary)) :
    ∃ run ids, ids = (orders.forImport.sort (db₀.records.capturedOf scope importId)).map (·.id) ∧
      Progress i scope ⟨some importId, maxPayments⟩ run ids (ids.take maxPayments) [] c.log := by
  obtain ⟨s, log, ⟨ctx, input⟩, hcall, rfl, rfl⟩ :=
    call_of_thread h (Config.returned_eq_some.1 hret)
  obtain ⟨run, ids, -, hprogress⟩ := completedRun_of_returned h hret hcall
  refine ⟨run, ids, ?_, hprogress⟩
  obtain ⟨e, he, -, hids⟩ := hprogress.listed
  exact (facts_of_reachable h).listed e he ids hids

/-- The completed call leaves a case of its run for every exception of the slice. -/
theorem case_of_exception (hdb₀ : db₀.WellFormed) {i : Nat} {run : ReconciliationRunSummary}
    {ids : List PaymentId}
    (hids : ids = (orders.forImport.sort (db₀.records.capturedOf scope importId)).map (·.id))
    (hprogress : Progress i scope ⟨some importId, maxPayments⟩ run ids (ids.take maxPayments) []
      c.log) {p : PaymentId} (hp : p ∈ exceptionsOf orders scope db₀.records importId maxPayments) :
    ∃ row ∈ c.state.cases, row.runId = some run.id ∧ row.paymentId = some p := by
  obtain ⟨hslice, hexception⟩ := List.mem_filter.1 hp
  rw [← hids] at hslice
  cases hunit : SettlementOps.loadUnit db₀.records scope p with
  | none =>
      rw [hunit] at hexception
      cases hexception
  | some unit =>
      rw [hunit] at hexception
      have hloaded : ∀ found, Did i c.log loadedUnit (scope, p, found) → found = some unit := by
        rintro found ⟨e, he, -, hfound⟩
        exact ((facts_of_reachable h).loaded e he p found hfound).trans hunit
      exact hprogress.case_of_exception (history_of_reachable hdb₀ h) hslice hloaded
        (by simpa using hexception)

/-- A created case is that of an exception of the slice, for the run of its call. -/
theorem created_of_exception {e : ExecutedRun} (he : e ∈ c.log) {row : CaseRow}
    (hrow : createdCase e = some row) :
    ∃ p ∈ exceptionsOf orders scope db₀.records importId maxPayments, row.paymentId = some p ∧
      ∃ run, Did e.pid c.log startedRun run ∧ row.runId = some run.id := by
  have hfacts := facts_of_reachable h
  have htraced := traced_of_reachable h
  obtain ⟨⟨ctx, input⟩, hcall, hscope, rfl⟩ := callOf_of_mem h he
  rw [Option.mem_def] at hcall
  obtain ⟨ctx', input', run, p, unit, hcall', hstarted, hrun, hp, hunit, hout⟩ :=
    htraced.created e he row hrow
  rw [hcall] at hcall'
  cases hcall'
  refine ⟨p, ?_, hp, run, hstarted, hrun⟩
  obtain ⟨e', he', hpid, hloaded⟩ := hunit
  obtain ⟨ctx', input', ids, hcall', hscope', hlisted, hmem⟩ :=
    htraced.loaded e' he' _ p _ hloaded
  obtain ⟨⟨ctx'', input''⟩, hcall'', -, rfl⟩ := callOf_of_mem h he'
  rw [Option.mem_def] at hcall''
  rw [hcall''] at hcall'
  cases hcall'
  obtain ⟨e'', he'', -, hids⟩ := hlisted
  rw [hscope] at hids hloaded
  refine List.mem_filter.2 ⟨?_, ?_⟩
  · rw [← hfacts.listed e'' he'' ids hids]
    exact hmem
  · rw [← hfacts.loaded e' he' p _ hloaded]
    simp [hout]

/-- The audit events of a case: the initial ones and those the calls wrote. -/
theorem countP_exceptionCreated (hdb₀ : db₀.WellFormed) (caseId : CaseId) :
    c.state.auditEvents.countP (isExceptionCreated caseId) =
      db₀.auditEvents.countP (isExceptionCreated caseId) +
        (c.log.filterMap auditedCase).count caseId := by
  have hfacts := facts_of_reachable h
  rw [(history_of_reachable hdb₀ h).auditEvents, List.countP_append, List.countP_filterMap,
    List.count, List.countP_filterMap]
  congr 1
  refine List.countP_congr fun e he => ?_
  cases hevent : appendedEvent e with
  | none =>
      cases hcase : auditedCase e with
      | none => simp
      | some caseId' =>
          obtain ⟨event, hsome, -⟩ := appended_of_audited hcase
          rw [hevent] at hsome
          cases hsome
  | some event =>
      obtain ⟨hcase, hcreated⟩ := hfacts.events e he event hevent
      simp only [isExceptionCreated, decide_eq_true_eq, true_and] at hcreated
      simp [hcase, isExceptionCreated, hcreated.1, hcreated.2]

/-- A case of the initial database gets no audit event from the calls. -/
theorem count_audited_initial (hdb₀ : db₀.WellFormed) {row : CaseRow} (hrow : row ∈ db₀.cases) :
    (c.log.filterMap auditedCase).count row.id = 0 := by
  have hhistory := history_of_reachable hdb₀ h
  rw [List.count_eq_zero]
  intro hmem
  obtain ⟨e, he, hcase⟩ := List.mem_filterMap.1 hmem
  obtain ⟨e', he', -, hid⟩ := (traced_of_reachable h).audited e he row.id hcase
  obtain ⟨row', hrow', hid⟩ := Option.map_eq_some_iff.1 hid
  have hnodup : (c.state.cases.map (·.id)).Nodup := hhistory.wellFormed.cases
  rw [hhistory.cases, List.map_append, List.nodup_append] at hnodup
  exact hnodup.2.2 _ (List.mem_map_of_mem hrow) _
    (List.mem_map_of_mem (List.mem_filterMap.2 ⟨e', he', hrow'⟩)) hid.symm

/-- A case of the completed call gets one, if it is the only call that created any. -/
theorem count_audited_created (hdb₀ : db₀.WellFormed) {i : Nat}
    {run : ReconciliationRunSummary} {ids done : List PaymentId}
    (hprogress : Progress i scope ⟨some importId, maxPayments⟩ run ids done [] c.log)
    (halone : ∀ e ∈ c.log, e.pid ≠ i → createdCase e = none) {e : ExecutedRun} (he : e ∈ c.log)
    {row : CaseRow} (hrow : createdCase e = some row) :
    (c.log.filterMap auditedCase).count row.id = 1 := by
  have hhistory := history_of_reachable hdb₀ h
  -- every audit event is the completed call's, and those are its created cases
  have hown : (c.log.filterMap auditedCase) = (own i c.log).filterMap auditedCase := by
    unfold own
    rw [List.filterMap_filter]
    refine List.filterMap_congr fun x hx => ?_
    split
    · rfl
    · rename_i hpid
      cases hcase : auditedCase x with
      | none => rfl
      | some caseId =>
          obtain ⟨e', he', hpid', hid⟩ := (traced_of_reachable h).audited x hx caseId hcase
          have hnone := halone e' he' (by rw [hpid']; simpa using hpid)
          simp [createdId, hnone] at hid
  have hids : (c.log.filterMap createdId).Nodup := by
    have hnodup : (c.state.cases.map (·.id)).Nodup := hhistory.wellFormed.cases
    rw [hhistory.cases, List.map_append, List.nodup_append, List.map_filterMap] at hnodup
    exact hnodup.2.1
  have hpid : e.pid = i := by
    by_contra hne
    rw [halone e he hne] at hrow
    cases hrow
  have haudited := hprogress.audited
  rw [List.append_nil] at haudited
  rw [hown, ← haudited]
  refine List.count_eq_one_of_mem (hids.sublist (List.filter_sublist.filterMap _)) ?_
  refine List.mem_filterMap.2 ⟨e, List.mem_filter.2 ⟨he, by simpa using hpid⟩, ?_⟩
  rw [createdId, hrow]
  rfl

theorem casesOf_eq (hdb₀ : db₀.WellFormed) (p : PaymentId) :
    c.state.casesOf p = db₀.casesOf p ++ createdFor c.log p := by
  unfold RunDatabase.casesOf createdFor
  rw [(history_of_reachable hdb₀ h).cases, List.filter_append]

omit h in
/-- Two cases of a payment are the same one if it has only one. -/
theorem eq_of_casesOf (db : RunDatabase) {p : PaymentId} (hone : (db.casesOf p).length ≤ 1)
    {row row' : CaseRow} (hrow : row ∈ db.cases) (hp : row.paymentId = some p)
    (hrow' : row' ∈ db.cases) (hp' : row'.paymentId = some p) : row = row' := by
  have hmem : row ∈ db.casesOf p := List.mem_filter.2 ⟨hrow, by simpa using hp⟩
  have hmem' : row' ∈ db.casesOf p := List.mem_filter.2 ⟨hrow', by simpa using hp'⟩
  rcases hcases : db.casesOf p with _ | ⟨x, _ | ⟨y, rest⟩⟩
  · rw [hcases] at hmem
    cases hmem
  · rw [hcases, List.mem_singleton] at hmem hmem'
    rw [hmem, hmem']
  · rw [hcases] at hone
    simp at hone

omit h in
theorem captured_of_exception {records : RecordStore} {p : PaymentId}
    (hp : p ∈ exceptionsOf orders scope records importId maxPayments) :
    ∃ row ∈ records.capturedOf scope importId, row.id = p := by
  obtain ⟨row, hrow, hid⟩ := List.mem_map.1 (List.mem_of_mem_take (List.mem_of_mem_filter hp))
  exact ⟨row, (orders.forImport.perm _).mem_iff.1 hrow, hid⟩

/-- A safe end leaves nothing to repeat. -/
theorem nothingToRepeat_of_safe (hdb₀ : db₀.WellFormed) {i : Nat} (honce : CompletedOnce c i)
    (hsafe : RetrySafe scope importId c.state) :
    NothingToRepeat orders scope importId maxPayments db₀ c i := by
  have hfacts := facts_of_reachable h
  have hhistory := history_of_reachable hdb₀ h
  obtain ⟨ℓ, summary, hret⟩ := honce.completed
  obtain ⟨run, ids, hids, hprogress⟩ := progress_of_completed h hret
  have hsafe' : RetrySafe scope importId c.state := hsafe
  unfold RetrySafe at hsafe
  rw [hfacts.records] at hsafe
  have hcases : ∀ row ∈ db₀.cases, row ∈ c.state.cases := by
    intro row hrow
    rw [hhistory.cases]
    exact List.mem_append_left _ hrow
  refine ⟨?_, ?_, ?_⟩
  · intro p hp
    obtain ⟨hone, haudited⟩ := hsafe p hp
    constructor
    · rw [casesOf_eq h hdb₀, List.length_append] at hone
      omega
    · intro row hrow
      have hone := haudited row (by rw [casesOf_eq h hdb₀]; exact List.mem_append_left _ hrow)
      rw [countP_exceptionCreated h hdb₀,
        count_audited_initial h hdb₀ (List.mem_of_mem_filter hrow)] at hone
      exact hone
  · intro p hp
    obtain ⟨payment, hpayment, hid⟩ := captured_of_exception hp
    rw [List.eq_nil_iff_forall_not_mem]
    intro row hrow
    obtain ⟨hmem, hpay⟩ := List.mem_filter.1 hrow
    obtain ⟨row', hrow', hrun', hp'⟩ := case_of_exception h hdb₀ hids hprogress hp
    have heq : row = row' := by
      refine eq_of_casesOf c.state (p := p) ?_ (hcases row hmem) (by simpa using hpay) hrow' hp'
      rw [← hid]
      exact (hsafe payment hpayment).one
    obtain ⟨r, hr, hrid⟩ := hdb₀.caseRun row hmem run.id (by rw [heq]; exact hrun')
    exact hhistory.started_new hprogress.started r hr hrid
  · intro e he hne
    cases hcreated : createdCase e with
    | none => rfl
    | some row =>
        obtain ⟨p, hp, hpay, run', hstarted, hrun⟩ := created_of_exception h he hcreated
        obtain ⟨payment, hpayment, hid⟩ := captured_of_exception hp
        obtain ⟨row', hrow', hrun', hp'⟩ := case_of_exception h hdb₀ hids hprogress hp
        have hrow : row ∈ c.state.cases := by
          rw [hhistory.cases]
          exact List.mem_append_right _ (List.mem_filterMap.2 ⟨e, he, hcreated⟩)
        have heq : row = row' := by
          refine eq_of_casesOf c.state (p := p) ?_ hrow hpay hrow' hp'
          rw [← hid]
          exact (hsafe payment hpayment).one
        refine absurd (hhistory.pid_eq hstarted hprogress.started ?_) hne
        rw [heq, hrun', Option.some.injEq] at hrun
        exact hrun.symm

/-- Where nothing is repeated, the end is safe. -/
theorem safe_of_nothingToRepeat (hdb₀ : db₀.WellFormed) {i : Nat} (honce : CompletedOnce c i)
    (hnothing : NothingToRepeat orders scope importId maxPayments db₀ c i) :
    RetrySafe scope importId c.state := by
  have hfacts := facts_of_reachable h
  have hhistory := history_of_reachable hdb₀ h
  have htraced := traced_of_reachable h
  obtain ⟨ℓ, summary, hret⟩ := honce.completed
  obtain ⟨run, ids, hids, hprogress⟩ := progress_of_completed h hret
  -- a created case is the completed call's, of a payment that had none
  have hcreated : ∀ e ∈ c.log, ∀ row, createdCase e = some row →
      row.runId = some run.id ∧ ∀ p, row.paymentId = some p → db₀.casesOf p = [] := by
    intro e he row hrow
    obtain ⟨p, hp, hpay, run', hstarted, hrun⟩ := created_of_exception h he hrow
    have hpid : e.pid = i := by
      by_contra hne
      rw [hnothing.failedEarly e he hne] at hrow
      cases hrow
    rw [hpid] at hstarted
    rw [htraced.once i run' run hstarted hprogress.started] at hrun
    refine ⟨hrun, fun q hq => ?_⟩
    rw [hpay, Option.some.injEq] at hq
    rw [← hq]
    exact hnothing.noCase p hp
  intro p hp
  rw [hfacts.records] at hp
  obtain ⟨hone, haudited⟩ := hnothing.initial p hp
  constructor
  · rw [casesOf_eq h hdb₀, List.length_append]
    rcases hnew : createdFor c.log p.id with _ | ⟨row, rest⟩
    · exact hone
    · have hrows : ∀ r ∈ row :: rest, ∃ e ∈ c.log, createdCase e = some r ∧
          r.paymentId = some p.id := by
        intro r hr
        rw [← hnew] at hr
        obtain ⟨hr, hpay⟩ := List.mem_filter.1 hr
        obtain ⟨e, he, hcase⟩ := List.mem_filterMap.1 hr
        exact ⟨e, he, hcase, by simpa using hpay⟩
      obtain ⟨e, he, hcase, hpay⟩ := hrows row List.mem_cons_self
      rw [(hcreated e he row hcase).2 p.id hpay]
      have hle : (row :: rest).length ≤ 1 := by
        refine length_le_one_of_runPayment (run.id, p.id) ?_ ?_
        · have hunique := hhistory.wellFormed.runPayment
          rw [hhistory.cases, List.filterMap_append, List.nodup_append] at hunique
          rw [← hnew]
          exact hunique.2.1.sublist (List.filter_sublist.filterMap _)
        · intro r hr
          obtain ⟨e, he, hcase, hpay⟩ := hrows r hr
          rw [CaseRow.runPayment, (hcreated e he r hcase).1, hpay]
          rfl
      simpa using hle
  · intro row hrow
    rw [countP_exceptionCreated h hdb₀]
    rw [casesOf_eq h hdb₀] at hrow
    rcases List.mem_append.1 hrow with hrow | hrow
    · rw [haudited row hrow, count_audited_initial h hdb₀ (List.mem_of_mem_filter hrow)]
    · obtain ⟨e, he, hcase⟩ := List.mem_filterMap.1 (List.mem_of_mem_filter hrow)
      rw [count_audited_created h hdb₀ hprogress hnothing.failedEarly he hcase]
      have hnone : db₀.auditEvents.countP (isExceptionCreated row.id) = 0 := by
        rw [List.countP_eq_zero]
        intro event hevent hcond
        simp only [isExceptionCreated, decide_eq_true_eq] at hcond
        exact hfacts.fresh e he row hcase event hevent hcond.2.1
      omega

end Reachable

end Retry

/-- **When a run may be retried.**  After any number of failed calls and a completed one, the
captured payments of the import are safely reconciled exactly when they were at first, no
exception of the slice had a case, and no failed call had committed one. -/
theorem retry_safe_iff (orders : ListingOrders) (scope : MerchantScope) (importId : String)
    (maxPayments : Nat) (db₀ : RunDatabase) (hdb₀ : db₀.WellFormed) (c : RunConfig)
    (h : (runSystem orders).Reachable (retryRules scope ⟨some importId, maxPayments⟩).Allows
      (Config.init db₀) c) (i : Nat) (honce : CompletedOnce c i) :
    RetrySafe scope importId c.state ↔
      NothingToRepeat orders scope importId maxPayments db₀ c i :=
  ⟨nothingToRepeat_of_safe h hdb₀ honce, safe_of_nothingToRepeat h hdb₀ honce⟩

/-! ## A retry after a lost call -/

/-- One captured payment that was never settled. -/
def unsettledDatabase : RunDatabase where
  imports := [sampleImportRow]
  records := (insertMany ⟨"m-1"⟩ "import-1" [.payment sampleUnit.payment] {}).2

theorem unsettledDatabase_wellFormed : unsettledDatabase.WellFormed :=
  { RunDatabase.wellFormed_of_records (insertMany_wellFormed wellFormed_empty _ _ _) with }

def sampleRun : RunOperation :=
  .runReconciliation runOperator ⟨some "import-1", MAX_PAYMENTS_PER_RUN⟩

/-- The next statement of a call, with the id that is generated meanwhile. -/
def runMove (i : Nat) (uuid : String) : Move RunOperation ImportSurroundings :=
  .run i ⟨⟨0⟩, uuid, fun _ => ""⟩

/-- A call that is not disturbed, on one payment that does not reconcile. -/
def completeMoves (i : Nat) (runId caseId eventId : String) :
    List (Move RunOperation ImportSurroundings) :=
  .call sampleRun :: [runId, "", "", "", caseId, "", eventId, "", "", ""].map (runMove i)

/-- The first call is lost right after it has started its run. -/
def startedMoves : List (Move RunOperation ImportSurroundings) :=
  [.call sampleRun, runMove 0 "run-1", runMove 0 "", .fail 0] ++
    completeMoves 1 "run-2" "case-2" "event-2"

/-- The first call is lost between its case and the audit event. -/
def createdMoves : List (Move RunOperation ImportSurroundings) :=
  [.call sampleRun] ++ ["run-1", "", "", "", "case-1", ""].map (runMove 0) ++ [.fail 0] ++
    completeMoves 1 "run-2" "case-2" "event-2"

/-- Of two calls the first is lost. -/
theorem completedOnce_of_lost {c : RunConfig} {ℓ : RunOperation}
    {summary : ReconciliationRunSummary} (hsettled : c.settled = true)
    (hlost : c.returned 0 = none) (hlength : c.threads.length = 2)
    (hret : c.returned 1 = some (ℓ, .completed summary)) : CompletedOnce c 1 := by
  refine ⟨hsettled, ⟨ℓ, summary, hret⟩, ?_⟩
  intro j ℓ' summary' hj
  have hlt := (List.getElem?_eq_some_iff.1 (Config.returned_eq_some.1 hj)).1
  rw [hlength] at hlt
  match j, hlt with
  | 0, _ =>
      rw [hlost] at hj
      cases hj
  | 1, _ => rfl

theorem unsettledDatabase_safe : RetrySafe ⟨"m-1"⟩ "import-1" unsettledDatabase := by
  intro p _
  exact ⟨Nat.zero_le 1, fun row hrow => by cases hrow⟩

/-- A retry after a call that had only started its run is safe. -/
theorem retry_after_start :
    ∃ c, (runSystem storedOrders).Reachable
        (retryRules ⟨"m-1"⟩ ⟨some "import-1", MAX_PAYMENTS_PER_RUN⟩).Allows
        (Config.init unsettledDatabase) c ∧ CompletedOnce c 1 ∧
      c.state.cases.length = 1 ∧ RetrySafe ⟨"m-1"⟩ "import-1" c.state := by
  obtain ⟨c, hc, summary, hsettled, hlost, hlength, hret, hcases, hearly⟩ :
      ∃ c, (runSystem storedOrders).replay
          (retryRules ⟨"m-1"⟩ ⟨some "import-1", MAX_PAYMENTS_PER_RUN⟩).Allows
          (Config.init unsettledDatabase) startedMoves = some c ∧
        ∃ summary, c.settled = true ∧ c.returned 0 = none ∧ c.threads.length = 2 ∧
          c.returned 1 = some (sampleRun, .completed summary) ∧ c.state.cases.length = 1 ∧
          c.log.all (fun e => e.pid == 1 || (createdCase e).isNone) = true :=
    ⟨_, rfl, _, rfl, rfl, rfl, rfl, rfl, rfl⟩
  have hreach := System.reachable_of_replay startedMoves hc
  have honce := completedOnce_of_lost hsettled hlost hlength hret
  refine ⟨c, hreach, honce, hcases, ?_⟩
  refine (retry_safe_iff storedOrders _ _ _ _ unsettledDatabase_wellFormed c hreach 1 honce).2
    ⟨unsettledDatabase_safe, fun _ _ => rfl, ?_⟩
  intro e he hne
  have hcond := List.all_eq_true.1 hearly e he
  simpa [hne] using hcond

/-- After a call that was lost between its case and the audit event, the retry creates a second
case of the payment, and the first stays without its event. -/
theorem retry_after_case :
    RetrySafe ⟨"m-1"⟩ "import-1" unsettledDatabase ∧
    ∃ c, (runSystem storedOrders).Reachable
        (retryRules ⟨"m-1"⟩ ⟨some "import-1", MAX_PAYMENTS_PER_RUN⟩).Allows
        (Config.init unsettledDatabase) c ∧ CompletedOnce c 1 ∧
      (c.state.casesOf "pay-1").map (·.id) = ["case-1", "case-2"] ∧
      c.state.auditEvents.map (·.entityId) = ["case-2"] ∧
      ¬ RetrySafe ⟨"m-1"⟩ "import-1" c.state := by
  refine ⟨unsettledDatabase_safe, ?_⟩
  obtain ⟨c, hc, summary, hsettled, hlost, hlength, hret, hcases, hevents, hpayment⟩ :
      ∃ c, (runSystem storedOrders).replay
          (retryRules ⟨"m-1"⟩ ⟨some "import-1", MAX_PAYMENTS_PER_RUN⟩).Allows
          (Config.init unsettledDatabase) createdMoves = some c ∧
        ∃ summary, c.settled = true ∧ c.returned 0 = none ∧ c.threads.length = 2 ∧
          c.returned 1 = some (sampleRun, .completed summary) ∧
          (c.state.casesOf "pay-1").map (·.id) = ["case-1", "case-2"] ∧
          c.state.auditEvents.map (·.entityId) = ["case-2"] ∧
          samplePaymentRow ∈ c.state.records.capturedOf ⟨"m-1"⟩ "import-1" :=
    ⟨_, rfl, _, rfl, rfl, rfl, rfl, by decide, by decide, by decide⟩
  refine ⟨c, System.reachable_of_replay createdMoves hc,
    completedOnce_of_lost hsettled hlost hlength hret, hcases, hevents, ?_⟩
  intro hsafe
  have hone : (c.state.casesOf "pay-1").length ≤ 1 := (hsafe samplePaymentRow hpayment).one
  rw [← List.length_map (·.id), hcases] at hone
  exact absurd hone (by decide)

end SettlementOps
