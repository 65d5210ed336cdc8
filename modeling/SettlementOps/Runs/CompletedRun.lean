import SettlementOps.Interleave.Outline
import SettlementOps.Runs.RunReconciliation

/-!
# What a run has done

The log of the statements, read back: which run a call started, which payments it was given,
which units it loaded, which cases it created and which of them it audited.

* `RunHistory` — the tables, as the log made them of the initial ones.
* `Traced` — a call loads only payments of its slice, creates cases only for exceptions among
  them, and audits only its own cases.
* `CompletedRun` — a completed call has evaluated its whole slice and audited every case it
  created.
* `runOutline` — every call keeps the first and ends in the second.
-/

namespace SettlementOps

open Interleave Relational

abbrev RunConfig :=
  Config RunDatabase ImportSurroundings RunStatement RunStatement.Answer RunOperation RunReply

/-! ## Reading the log -/

def listedPayments : ExecutedRun → Option (MerchantScope × Option String × List PaymentId)
  | ⟨_, _, .listPaymentIdsForImport scope importId, ids, _⟩ => some (scope, some importId, ids)
  | ⟨_, _, .listCapturedPaymentIds scope _, ids, _⟩ => some (scope, none, ids)
  | _ => none

def loadedUnit : ExecutedRun → Option (MerchantScope × PaymentId × Option ReconciliationUnit)
  | ⟨_, _, .loadUnit scope paymentId, unit, _⟩ => some (scope, paymentId, unit)
  | _ => none

/-- The run and payment a case is known to exist for. -/
def reportedCase : ExecutedRun → Option (String × PaymentId)
  | ⟨_, _, .insertCase _ input, some (some _), _⟩ => some (input.runId, input.paymentId)
  | ⟨_, _, .selectCase _ runId paymentId, some _, _⟩ => some (runId, paymentId)
  | _ => none

def createdId (e : ExecutedRun) : Option CaseId := (createdCase e).map (·.id)

/-- The case a call wrote an audit event for. -/
def auditedCase : ExecutedRun → Option CaseId
  | ⟨_, _, .insertAuditEvent _ _ event, some (), _⟩ => some event.entityId
  | _ => none

section Executed

variable {orders : ListingOrders} {db : RunDatabase} {i : Nat} {ℓ : RunOperation}
  {a : RunStatement} {ω : ImportSurroundings} {scope : MerchantScope}

/-- An import is listed as its stored captured payments. -/
theorem listed_executed {importId : String} {ids : List PaymentId}
    (h : listedPayments (executedRun orders i ℓ a ω db) = some (scope, some importId, ids)) :
    ids = (orders.forImport.sort (db.records.capturedOf scope importId)).map (·.id) := by
  cases a with
  | listPaymentIdsForImport scope' importId' =>
      cases h
      rfl
  | _ => cases h

/-- A unit is loaded from the stored records. -/
theorem loaded_executed {p : PaymentId} {unit : Option ReconciliationUnit}
    (h : loadedUnit (executedRun orders i ℓ a ω db) = some (scope, p, unit)) :
    unit = SettlementOps.loadUnit db.records scope p := by
  cases a with
  | loadUnit scope' paymentId =>
      cases h
      rfl
  | _ => cases h

/-- A case is created with the id its insert was given. -/
theorem created_executed {row : CaseRow}
    (h : createdCase (executedRun orders i ℓ a ω db) = some row) :
    ∃ scope residual, a = .insertCase scope residual ∧ row.id = residual.id := by
  unfold executedRun at h
  cases a with
  | insertCase scope residual =>
      revert h
      rcases (execRun orders ω (.insertCase scope residual) db).1 with _ | _ | caseId
      · intro h
        cases h
      · intro h
        cases h
      · intro h
        cases h
        exact ⟨scope, residual, rfl, rfl⟩
  | _ => cases h

/-- An audit row of a run is the event its insert was given. -/
theorem appended_executed (ha : a.OfRun) {row : IngestionRow}
    (h : appendedEvent (executedRun orders i ℓ a ω db) = some row) :
    (∃ ctx caseId verdict, row.toIngestionEvent = exceptionCreatedEvent ctx caseId verdict) ∧
      auditedCase (executedRun orders i ℓ a ω db) = some row.entityId := by
  unfold executedRun at h ⊢
  cases a with
  | insertAuditEvent scope id event =>
      obtain ⟨ctx, caseId, verdict, rfl⟩ := ha
      revert h
      rcases (execRun orders ω (.insertAuditEvent scope id
        (exceptionCreatedEvent ctx caseId verdict)) db).1 with _ | ⟨⟨⟩⟩
      · intro h
        cases h
      · intro h
        cases h
        exact ⟨⟨ctx, caseId, verdict, rfl⟩, rfl⟩
  | importing b => exact ha.elim
  | _ => cases h

end Executed

/-! ## The tables -/

/-- The tables are the initial ones and what the log added to them. -/
structure RunHistory (db₀ db : RunDatabase) (log : List ExecutedRun) : Prop where
  wellFormed : db.WellFormed
  cases : db.cases = db₀.cases ++ log.filterMap createdCase
  auditEvents : db.auditEvents = db₀.auditEvents ++ log.filterMap appendedEvent
  runIds : db.runs.map (·.id) = db₀.runs.map (·.id) ++ (log.filterMap startedRun).map (·.id)
  reported : ∀ e ∈ log, ∀ key, reportedCase e = some key →
    ∃ row ∈ db.cases, row.runPayment = some key

section History

variable {orders : ListingOrders} {db₀ db : RunDatabase} {log : List ExecutedRun}

theorem RunHistory.init (h : db₀.WellFormed) : RunHistory db₀ db₀ [] where
  wellFormed := h
  cases := by simp
  auditEvents := by simp
  runIds := by simp
  reported := by simp

/-- A case that is reported exists. -/
theorem reported_executed {i : Nat} {ℓ : RunOperation} {a : RunStatement}
    {ω : ImportSurroundings} {key : String × PaymentId}
    (h : reportedCase (executedRun orders i ℓ a ω db) = some key) :
    ∃ row ∈ (execRun orders ω a db).2.cases, row.runPayment = some key := by
  cases a with
  | insertCase scope input =>
      rcases insertCase_cases orders ω db scope input with
        ⟨hanswer, -⟩ | ⟨hanswer, -⟩ | ⟨hanswer, hcases, -⟩
      · simp [executedRun, hanswer, reportedCase] at h
      · simp [executedRun, hanswer, reportedCase] at h
      · simp only [executedRun, hanswer, reportedCase, Option.some.injEq] at h
        refine ⟨residualRow ω.now scope input, by rw [hcases]; simp, ?_⟩
        rw [← h]
        rfl
  | selectCase scope runId paymentId =>
      cases hfind : db.cases.find? fun r =>
          decide (r.scope = scope ∧ r.runId = some runId ∧ r.paymentId = some paymentId) with
      | none =>
          simp only [executedRun, execRun, hfind, Option.map_none, reportedCase] at h
          cases h
      | some row =>
          have hrow := List.find?_some hfind
          simp only [decide_eq_true_eq] at hrow
          simp only [executedRun, execRun, hfind, Option.map_some, reportedCase,
            Option.some.injEq] at h
          refine ⟨row, List.mem_of_find?_eq_some hfind, ?_⟩
          rw [← h, CaseRow.runPayment, hrow.2.1, hrow.2.2]
          rfl
  | _ => simp [executedRun, reportedCase] at h

/-- Every statement writes the history on. -/
theorem RunHistory.step (h : RunHistory db₀ db log) (i : Nat) (ℓ : RunOperation)
    (a : RunStatement) (ω : ImportSurroundings) :
    RunHistory db₀ (execRun orders ω a db).2 (log ++ [executedRun orders i ℓ a ω db]) where
  wellFormed := execRun_wellFormed h.wellFormed
  cases := by
    rw [execRun_cases i ℓ a, h.cases, List.filterMap_append, List.append_assoc]
    cases hcase : createdCase (executedRun orders i ℓ a ω db) <;> simp [hcase]
  auditEvents := by
    rw [execRun_auditEvents i ℓ a, h.auditEvents, List.filterMap_append, List.append_assoc]
    cases hevent : appendedEvent (executedRun orders i ℓ a ω db) <;> simp [hevent]
  runIds := by
    rw [execRun_runIds i ℓ a, h.runIds, List.filterMap_append, List.map_append,
      List.append_assoc]
    cases hrun : startedRun (executedRun orders i ℓ a ω db) <;> simp [hrun]
  reported := by
    intro e he key hkey
    rcases List.mem_append.1 he with he | he
    · obtain ⟨row, hrow, hrk⟩ := h.reported e he key hkey
      refine ⟨row, ?_, hrk⟩
      rw [execRun_cases i ℓ a]
      exact List.mem_append_left _ hrow
    · rw [List.mem_singleton.1 he] at hkey
      exact reported_executed hkey

/-- **The tables of a reachable configuration** are what the log made of the initial ones. -/
theorem history_of_reachable (hdb₀ : db₀.WellFormed)
    {G : Rules RunDatabase ImportSurroundings RunStatement RunStatement.Answer RunOperation}
    {c : RunConfig}
    (h : (runSystem orders).Reachable G.Allows (Config.init db₀) c) :
    RunHistory db₀ c.state c.log :=
  inv_of_actions (RunHistory.init hdb₀) (fun _ _ i ℓ a ω hinv _ _ => hinv.step i ℓ a ω) h

/-- Two calls do not start the same run. -/
theorem RunHistory.pid_eq (h : RunHistory db₀ db log) {i j : Nat}
    {run run' : ReconciliationRunSummary} (hi : Did i log startedRun run)
    (hj : Did j log startedRun run') (hid : run.id = run'.id) : i = j := by
  have hnodup : (db.runs.map (·.id)).Nodup := h.wellFormed.runs
  rw [h.runIds, List.map_filterMap] at hnodup
  obtain ⟨e, he, rfl, hrun⟩ := hi
  obtain ⟨e', he', rfl, hrun'⟩ := hj
  have heq : e = e' := eq_of_filterMap_nodup (List.nodup_append.1 hnodup).2.1 he he'
    (x := run'.id) (by rw [hrun, Option.map_some, hid]) (by rw [hrun', Option.map_some])
  rw [heq]

/-- A started run is none of the initial ones. -/
theorem RunHistory.started_new (h : RunHistory db₀ db log) {i : Nat}
    {run : ReconciliationRunSummary} (hi : Did i log startedRun run) :
    ∀ r ∈ db₀.runs, r.id ≠ run.id := by
  have hnodup : (db.runs.map (·.id)).Nodup := h.wellFormed.runs
  rw [h.runIds] at hnodup
  obtain ⟨e, he, -, hrun⟩ := hi
  intro r hr
  exact (List.nodup_append.1 hnodup).2.2 _ (List.mem_map_of_mem hr) _
    (List.mem_map_of_mem (List.mem_filterMap.2 ⟨e, he, hrun⟩))

/-- The case of a run that a call started was created by that call. -/
theorem RunHistory.created_of_case (h : RunHistory db₀ db log) (hdb₀ : db₀.WellFormed) {i : Nat}
    {run : ReconciliationRunSummary} (hi : Did i log startedRun run) {row : CaseRow}
    (hrow : row ∈ db.cases) (hrun : row.runId = some run.id) :
    ∃ e ∈ log, createdCase e = some row := by
  rw [h.cases] at hrow
  rcases List.mem_append.1 hrow with hrow | hrow
  · obtain ⟨r, hr, hid⟩ := hdb₀.caseRun row hrow run.id hrun
    exact absurd hid (h.started_new hi r hr)
  · exact List.mem_filterMap.1 hrow

end History

/-! ## The log of a call -/

/-- Whatever a call did to a payment, the payment is one of its slice. -/
structure Traced (log : List ExecutedRun) : Prop where
  once : ∀ i run run', Did i log startedRun run → Did i log startedRun run' → run = run'
  loaded : ∀ e ∈ log, ∀ scope paymentId unit, loadedUnit e = some (scope, paymentId, unit) →
    ∃ ctx input ids, e.label.call = some (ctx, input) ∧ scope = scopeOf ctx ∧
      Did e.pid log listedPayments (scope, input.importId, ids) ∧
      paymentId ∈ ids.take input.maxPayments
  created : ∀ e ∈ log, ∀ row, createdCase e = some row →
    ∃ ctx input run paymentId unit, e.label.call = some (ctx, input) ∧
      Did e.pid log startedRun run ∧ row.runId = some run.id ∧ row.paymentId = some paymentId ∧
      Did e.pid log loadedUnit (scopeOf ctx, paymentId, some unit) ∧
      (reconcileUnit unit).outcome = .exception
  audited : ∀ e ∈ log, ∀ caseId, auditedCase e = some caseId → Did e.pid log createdId caseId

/-- What a call has made of a payment: it has no unit, it reconciles, or it has a case. -/
def Evaluated (i : Nat) (log : List ExecutedRun) (scope : MerchantScope) (runId : String)
    (paymentId : PaymentId) : Prop :=
  Did i log loadedUnit (scope, paymentId, none) ∨
    ∃ unit, Did i log loadedUnit (scope, paymentId, some unit) ∧
      ((reconcileUnit unit).outcome = .reconciled ∨
        (reconcileUnit unit).outcome = .exception ∧ Did i log reportedCase (runId, paymentId))

/-- A call on its way through its slice: the payments done, and the created cases whose audit
event is still owed. -/
structure Progress (i : Nat) (scope : MerchantScope) (input : RunReconciliationInput)
    (run : ReconciliationRunSummary) (ids done : List PaymentId) (owed : List CaseId)
    (log : List ExecutedRun) : Prop where
  started : Did i log startedRun run
  listed : Did i log listedPayments (scope, input.importId, ids)
  evaluated : ∀ p ∈ done, Evaluated i log scope run.id p
  audited : (own i log).filterMap createdId = (own i log).filterMap auditedCase ++ owed

/-- A completed call has evaluated its whole slice and audited every case it created. -/
def CompletedRun (i : Nat) (scope : MerchantScope) (input : RunReconciliationInput)
    (summary : ReconciliationRunSummary) (log : List ExecutedRun) : Prop :=
  ∃ run ids, summary.id = run.id ∧
    Progress i scope input run ids (ids.take input.maxPayments) [] log

/-- An exception that a call has done has a case of its run. -/
theorem Progress.case_of_exception {i : Nat} {scope : MerchantScope}
    {input : RunReconciliationInput} {run : ReconciliationRunSummary} {ids done : List PaymentId}
    {owed : List CaseId} {db₀ db : RunDatabase} {log : List ExecutedRun}
    (h : Progress i scope input run ids done owed log) (hhistory : RunHistory db₀ db log)
    {p : PaymentId} (hp : p ∈ done) {unit : ReconciliationUnit}
    (hloaded : ∀ found, Did i log loadedUnit (scope, p, found) → found = some unit)
    (hout : (reconcileUnit unit).outcome = .exception) :
    ∃ row ∈ db.cases, row.runId = some run.id ∧ row.paymentId = some p := by
  rcases h.evaluated p hp with hnone | ⟨unit', hsome, hout' | ⟨-, hreported⟩⟩
  · cases hloaded none hnone
  · cases hloaded (some unit') hsome
    rw [hout] at hout'
    cases hout'
  · obtain ⟨e, he, -, hkey⟩ := hreported
    obtain ⟨row, hrow, hkey⟩ := hhistory.reported e he _ hkey
    obtain ⟨runId, hrunId, hpayment⟩ := Option.bind_eq_some_iff.1 hkey
    obtain ⟨q, hq, heq⟩ := Option.map_eq_some_iff.1 hpayment
    cases heq
    exact ⟨row, hrow, hrunId, hq⟩

/-- The index on run and payment allows one case of them. -/
theorem length_le_one_of_runPayment {rows : List CaseRow} (key : String × PaymentId)
    (hunique : (rows.filterMap CaseRow.runPayment).Nodup)
    (hkey : ∀ row ∈ rows, row.runPayment = some key) : rows.length ≤ 1 := by
  have hall : rows.filterMap CaseRow.runPayment = List.replicate rows.length key := by
    rw [List.filterMap_congr hkey, List.filterMap_eq_map', List.map_const']
  rw [hall, List.nodup_replicate] at hunique
  exact hunique

/-! ## A call, statement by statement -/

theorem traced_nil : Traced [] := ⟨by simp [Did], by simp, by simp, by simp⟩

/-- The last statement did it, or an earlier one. -/
theorem did_concat {β : Type} {f : ExecutedRun → Option β} {x : β} {i : Nat}
    {log : List ExecutedRun} {e : ExecutedRun} (h : Did i (log ++ [e]) f x) :
    Did i log f x ∨ e.pid = i ∧ f e = some x := by
  obtain ⟨e', he', hpid, hx⟩ := h
  rcases List.mem_append.1 he' with he' | he'
  · exact .inl ⟨e', he', hpid, hx⟩
  · rw [List.mem_singleton.1 he'] at hpid hx
    exact .inr ⟨hpid, hx⟩

/-- One more statement, with what it has to account for. -/
theorem Traced.concat {log : List ExecutedRun} {e : ExecutedRun} (h : Traced log)
    (hstarted : ∀ run, startedRun e = some run → ∀ run', ¬ Did e.pid log startedRun run')
    (hloaded : ∀ scope paymentId unit, loadedUnit e = some (scope, paymentId, unit) →
      ∃ ctx input ids, e.label.call = some (ctx, input) ∧ scope = scopeOf ctx ∧
        Did e.pid log listedPayments (scope, input.importId, ids) ∧
        paymentId ∈ ids.take input.maxPayments)
    (hcreated : ∀ row, createdCase e = some row →
      ∃ ctx input run paymentId unit, e.label.call = some (ctx, input) ∧
        Did e.pid log startedRun run ∧ row.runId = some run.id ∧
        row.paymentId = some paymentId ∧
        Did e.pid log loadedUnit (scopeOf ctx, paymentId, some unit) ∧
        (reconcileUnit unit).outcome = .exception)
    (haudited : ∀ caseId, auditedCase e = some caseId → Did e.pid log createdId caseId) :
    Traced (log ++ [e]) where
  once := by
    intro i run run' hrun hrun'
    rcases did_concat hrun with hold | ⟨rfl, hlast⟩ <;>
      rcases did_concat hrun' with hold' | ⟨hpid, hlast'⟩
    · exact h.once i run run' hold hold'
    · subst hpid
      exact absurd hold (hstarted run' hlast' run)
    · exact absurd hold' (hstarted run hlast run')
    · rw [hlast] at hlast'
      exact Option.some.inj hlast'
  loaded := by
    intro x hx scope paymentId unit hunit
    rcases List.mem_append.1 hx with hx | hx
    · obtain ⟨ctx, input, ids, hcall, hscope, hlisted, hmem⟩ :=
        h.loaded x hx scope paymentId unit hunit
      exact ⟨ctx, input, ids, hcall, hscope, hlisted.append _, hmem⟩
    · rw [List.mem_singleton] at hx
      subst hx
      obtain ⟨ctx, input, ids, hcall, hscope, hlisted, hmem⟩ := hloaded scope paymentId unit hunit
      exact ⟨ctx, input, ids, hcall, hscope, hlisted.append _, hmem⟩
  created := by
    intro x hx row hrow
    rcases List.mem_append.1 hx with hx | hx
    · obtain ⟨ctx, input, run, p, unit, hcall, hrun, hid, hp, hunit, hout⟩ := h.created x hx row hrow
      exact ⟨ctx, input, run, p, unit, hcall, hrun.append _, hid, hp, hunit.append _, hout⟩
    · rw [List.mem_singleton] at hx
      subst hx
      obtain ⟨ctx, input, run, p, unit, hcall, hrun, hid, hp, hunit, hout⟩ := hcreated row hrow
      exact ⟨ctx, input, run, p, unit, hcall, hrun.append _, hid, hp, hunit.append _, hout⟩
  audited := by
    intro x hx caseId hcase
    rcases List.mem_append.1 hx with hx | hx
    · exact (h.audited x hx caseId hcase).append _
    · rw [List.mem_singleton] at hx
      subst hx
      exact (haudited caseId hcase).append _

/-- A statement that starts no run, loads no unit, creates no case and audits none. -/
structure QuietRun (e : ExecutedRun) : Prop where
  started : startedRun e = none
  loaded : loadedUnit e = none
  created : createdCase e = none
  audited : auditedCase e = none

theorem Traced.quiet {log : List ExecutedRun} {e : ExecutedRun} (h : Traced log) (he : QuietRun e) :
    Traced (log ++ [e]) := by
  refine h.concat ?_ ?_ ?_ ?_
  · intro run hrun
    rw [he.started] at hrun
    cases hrun
  · intro scope paymentId unit hunit
    rw [he.loaded] at hunit
    cases hunit
  · intro row hrow
    rw [he.created] at hrow
    cases hrow
  · intro caseId hcase
    rw [he.audited] at hcase
    cases hcase

/-- What a call knows, whatever others do and whatever it does besides starting a run and
creating and auditing cases. -/
structure Stable (i : Nat) (K : List ExecutedRun → Prop) : Prop where
  others : ∀ {log log'}, Others i log log' → K log → K log'
  own : ∀ {log e}, e.pid = i → startedRun e = none → createdCase e = none →
    auditedCase e = none → K log → K (log ++ [e])

theorem stable_did {β : Type} (i : Nat) (f : ExecutedRun → Option β) (x : β) :
    Stable i fun log => Did i log f x where
  others hothers h := h.mono fun _ he => hothers.mem he
  own _ _ _ _ h := h.append _

/-- The cases of a call whose audit event is owed. -/
def Owes (i : Nat) (owed : List CaseId) (log : List ExecutedRun) : Prop :=
  (own i log).filterMap createdId = (own i log).filterMap auditedCase ++ owed

theorem Owes.concat {i : Nat} {owed : List CaseId} {log : List ExecutedRun} {e : ExecutedRun}
    (h : Owes i owed log) (hcreated : createdCase e = none) (haudited : auditedCase e = none) :
    Owes i owed (log ++ [e]) := by
  unfold Owes at h ⊢
  rw [own_append, List.filterMap_append, List.filterMap_append, h]
  have hnone : ∀ x ∈ own i [e], createdId x = none ∧ auditedCase x = none := by
    intro x hx
    rw [List.mem_singleton.1 (List.mem_of_mem_filter hx)]
    exact ⟨by simp [createdId, hcreated], haudited⟩
  rw [List.filterMap_eq_nil_iff.2 fun x hx => (hnone x hx).1,
    List.filterMap_eq_nil_iff.2 fun x hx => (hnone x hx).2, List.append_nil, List.append_nil]

theorem stable_owes (i : Nat) (owed : List CaseId) : Stable i (Owes i owed) where
  others hothers h := by
    unfold Owes at h ⊢
    rw [hothers.own_eq]
    exact h
  own _ _ hcreated haudited h := h.concat hcreated haudited

theorem Stable.and {i : Nat} {K K' : List ExecutedRun → Prop} (h : Stable i K)
    (h' : Stable i K') : Stable i fun log => K log ∧ K' log where
  others hothers hK := ⟨h.others hothers hK.1, h'.others hothers hK.2⟩
  own hpid hstarted hcreated haudited hK :=
    ⟨h.own hpid hstarted hcreated haudited hK.1, h'.own hpid hstarted hcreated haudited hK.2⟩

/-- A call that has not started its run. -/
theorem stable_notStarted (i : Nat) : Stable i fun log => ∀ run, ¬ Did i log startedRun run where
  others := by
    rintro log _ ⟨added, rfl, hadded⟩ h run ⟨e, he, hpid, hrun⟩
    rcases List.mem_append.1 he with he | he
    · exact h run ⟨e, he, hpid, hrun⟩
    · exact hadded e he hpid
  own := by
    intro log e _ hstarted _ _ h run hrun
    rcases did_concat hrun with hrun | ⟨-, hrun⟩
    · exact h run hrun
    · rw [hstarted] at hrun
      cases hrun

theorem Evaluated.mono {i : Nat} {log log' : List ExecutedRun} {scope : MerchantScope}
    {runId : String} {p : PaymentId} (h : Evaluated i log scope runId p)
    (hlog : ∀ e ∈ log, e ∈ log') : Evaluated i log' scope runId p := by
  rcases h with h | ⟨unit, hunit, h | ⟨hout, h⟩⟩
  · exact .inl (h.mono hlog)
  · exact .inr ⟨unit, hunit.mono hlog, .inl h⟩
  · exact .inr ⟨unit, hunit.mono hlog, .inr ⟨hout, h.mono hlog⟩⟩

section Call

variable {i : Nat} {scope : MerchantScope} {input : RunReconciliationInput}
  {run : ReconciliationRunSummary} {ids done : List PaymentId} {owed : List CaseId}
  {log : List ExecutedRun}

theorem Progress.stable : Stable i (Progress i scope input run ids done owed) where
  others hothers h := {
    started := (stable_did ..).others hothers h.started
    listed := (stable_did ..).others hothers h.listed
    evaluated := fun p hp => (h.evaluated p hp).mono fun _ he => hothers.mem he
    audited := (stable_owes i owed).others hothers h.audited }
  own hpid hstarted hcreated haudited h := {
    started := h.started.append _
    listed := h.listed.append _
    evaluated := fun p hp => (h.evaluated p hp).mono fun _ he => List.mem_append_left _ he
    audited := (stable_owes i owed).own hpid hstarted hcreated haudited h.audited }

/-- One more payment is done. -/
theorem Progress.next (h : Progress i scope input run ids done owed log) {p : PaymentId}
    (hp : Evaluated i log scope run.id p) :
    Progress i scope input run ids (done ++ [p]) owed log where
  started := h.started
  listed := h.listed
  evaluated := by
    intro q hq
    rcases List.mem_append.1 hq with hq | hq
    · exact h.evaluated q hq
    · rw [List.mem_singleton.1 hq]
      exact hp
  audited := h.audited

variable {orders : ListingOrders}
  {G : Rules RunDatabase ImportSurroundings RunStatement RunStatement.Answer RunOperation}
  {ℓ : RunOperation} {ctx : RequestContext} {db : RunDatabase}

/-- What a statement leaves of a call's knowledge, with its answer. -/
def Answered (orders : ListingOrders) (i : Nat) (ℓ : RunOperation) (a : RunStatement)
    (K : List ExecutedRun → Prop) (answer : a.Answer) (log : List ExecutedRun) : Prop :=
  K log ∧ ∃ ω db, answer = (execRun orders ω a db).1 ∧ executedRun orders i ℓ a ω db ∈ log

theorem Answered.did {a : RunStatement} {K : List ExecutedRun → Prop} {answer : a.Answer}
    (h : Answered orders i ℓ a K answer log) {β : Type} {f : ExecutedRun → Option β} {x : β}
    (hf : ∀ ω, f ⟨i, ℓ, a, answer, ω⟩ = some x) : Did i log f x := by
  obtain ⟨-, ω, db, rfl, hmem⟩ := h
  exact ⟨_, hmem, rfl, hf ω⟩

/-- A quiet statement keeps what a call knows. -/
theorem keeps_quietRun {a : RunStatement} {K : List ExecutedRun → Prop} (hK : Stable i K)
    (hquiet : ∀ ω db, QuietRun (executedRun orders i ℓ a ω db)) (h : K log) :
    Keeps (execRun orders) G (fun _ log => Traced log) i ℓ
      (fun answer _ log => Answered orders i ℓ a K answer log) (runQuery a) db log := by
  refine keeps_perform ?_
  intro s log' ω hothers hinv _
  have hq := hquiet ω s
  have hown := hK.own rfl hq.started hq.created hq.audited (hK.others hothers h)
  refine ⟨hinv.quiet hq, hown, ω, s, rfl, ?_⟩
  exact List.mem_append_right _ (List.mem_singleton_self _)

theorem keeps_loadUnit (hcall : ℓ.call = some (ctx, input)) {p : PaymentId}
    (hp : p ∈ ids.take input.maxPayments)
    (h : Progress i (scopeOf ctx) input run ids done owed log) :
    Keeps (execRun orders) G (fun _ log => Traced log) i ℓ
      (fun unit _ log => Progress i (scopeOf ctx) input run ids done owed log ∧
        Did i log loadedUnit (scopeOf ctx, p, unit))
      (runQuery (.loadUnit (scopeOf ctx) p)) db log := by
  refine keeps_perform ?_
  intro s log' ω hothers hinv _
  have h' := Progress.stable.others hothers h
  constructor
  · refine hinv.concat ?_ ?_ ?_ ?_
    · intro run hrun
      cases hrun
    · rintro scope paymentId unit hunit
      cases hunit
      exact ⟨ctx, input, ids, hcall, rfl, h'.listed, hp⟩
    · intro row hrow
      cases hrow
    · intro caseId hcase
      cases hcase
  · exact ⟨Progress.stable.own rfl rfl rfl rfl h', _,
      List.mem_append_right _ (List.mem_singleton_self _), rfl, rfl⟩

/-- The case of an exception is created, or met; a new one is owed its audit event. -/
theorem keeps_insertCase (hcall : ℓ.call = some (ctx, input)) {residual : NewResidual}
    (hrun : residual.runId = run.id) {unit : ReconciliationUnit}
    (hloaded : Did i log loadedUnit (scopeOf ctx, residual.paymentId, some unit))
    (hout : (reconcileUnit unit).outcome = .exception)
    (h : Progress i (scopeOf ctx) input run ids done [] log) :
    Keeps (execRun orders) G (fun _ log => Traced log) i ℓ
      (fun answer _ log => match answer with
        | none => True
        | some none => Progress i (scopeOf ctx) input run ids done [] log ∧
            Did i log loadedUnit (scopeOf ctx, residual.paymentId, some unit)
        | some (some caseId) => Progress i (scopeOf ctx) input run ids done [caseId] log ∧
            Did i log loadedUnit (scopeOf ctx, residual.paymentId, some unit) ∧
            Did i log reportedCase (run.id, residual.paymentId))
      (runQuery (.insertCase (scopeOf ctx) residual)) db log := by
  refine keeps_perform ?_
  intro s log' ω hothers hinv _
  have h' := Progress.stable.others hothers h
  have hloaded' := hloaded.mono fun _ he => hothers.mem he
  rcases insertCase_cases orders ω s (scopeOf ctx) residual with
    ⟨hanswer, -⟩ | ⟨hanswer, -⟩ | ⟨hanswer, -⟩
  · rw [hanswer]
    exact ⟨hinv.quiet ⟨rfl, rfl, rfl, rfl⟩, Progress.stable.own rfl rfl rfl rfl h',
      hloaded'.append _⟩
  · rw [hanswer]
    exact ⟨hinv.quiet ⟨rfl, rfl, rfl, rfl⟩, trivial⟩
  · rw [hanswer]
    constructor
    · refine hinv.concat ?_ ?_ ?_ ?_
      · intro run hrun
        cases hrun
      · intro scope paymentId unit hunit
        cases hunit
      · intro row hrow
        cases hrow
        refine ⟨ctx, input, run, residual.paymentId, unit, hcall, h'.started, ?_, rfl, hloaded',
          hout⟩
        rw [← hrun]
        rfl
      · intro caseId hcase
        cases hcase
    · refine ⟨⟨h'.started.append _, h'.listed.append _, ?_, ?_⟩, hloaded'.append _, ?_⟩
      · exact fun p hp => (h'.evaluated p hp).mono fun _ he => List.mem_append_left _ he
      · have haudited := h'.audited
        rw [List.append_nil] at haudited
        rw [own_append, own_singleton_self, List.filterMap_append, List.filterMap_append, haudited,
          List.append_assoc]
        rfl
      · refine ⟨_, List.mem_append_right _ (List.mem_singleton_self _), rfl, ?_⟩
        rw [← hrun]
        rfl

/-- An audit event pays for the case that was created last. -/
theorem keeps_insertAuditEvent {eventId : String} {event : IngestionEvent}
    (h : Progress i (scopeOf ctx) input run ids done [event.entityId] log) :
    Keeps (execRun orders) G (fun _ log => Traced log) i ℓ
      (fun answer _ log => answer = some () →
        Progress i (scopeOf ctx) input run ids done [] log)
      (runQuery (.insertAuditEvent (scopeOf ctx) eventId event)) db log := by
  refine keeps_perform ?_
  intro s log' ω hothers hinv _
  have h' := Progress.stable.others hothers h
  have hcreated : Did i log' createdId event.entityId := by
    have hmem : event.entityId ∈ (own i log').filterMap createdId := by
      rw [h'.audited]
      exact List.mem_append_right _ (List.mem_singleton_self _)
    obtain ⟨e, he, hid⟩ := List.mem_filterMap.1 hmem
    obtain ⟨hmem, hpid⟩ := List.mem_filter.1 he
    exact ⟨e, hmem, by simpa using hpid, hid⟩
  cases hanswer : (execRun orders ω (.insertAuditEvent (scopeOf ctx) eventId event) s).1 with
  | none =>
      refine ⟨hinv.quiet ⟨rfl, rfl, rfl, rfl⟩, ?_⟩
      intro hsome
      cases hsome
  | some u =>
      refine ⟨hinv.concat ?_ ?_ ?_ ?_, fun _ => ⟨h'.started.append _, h'.listed.append _, ?_, ?_⟩⟩
      · intro run hrun
        cases hrun
      · intro scope paymentId unit hunit
        cases hunit
      · intro row hrow
        cases hrow
      · intro caseId hcase
        cases hcase
        exact hcreated
      · exact fun p hp => (h'.evaluated p hp).mono fun _ he => List.mem_append_left _ he
      · rw [own_append, own_singleton_self, List.filterMap_append, List.filterMap_append, h'.audited,
          List.append_nil, List.append_assoc]
        rfl

/-- The cases a created residual owes an audit event for. -/
def owedFor : CaseId × Bool → List CaseId
  | (_, false) => []
  | (caseId, true) => [caseId]

/-- The residual case of an exception is recorded and audited. -/
theorem keeps_recordResidual (hcall : ℓ.call = some (ctx, input)) {p : PaymentId}
    {unit : ReconciliationUnit} (hloaded : Did i log loadedUnit (scopeOf ctx, p, some unit))
    (hout : (reconcileUnit unit).outcome = .exception)
    (h : Progress i (scopeOf ctx) input run ids done [] log) (counts : RunCounts) :
    Keeps (execRun orders) G (fun _ log => Traced log) i ℓ
      (fun out _ log => ∀ counts' ∈ out, Progress i (scopeOf ctx) input run ids (done ++ [p]) [] log)
      (recordResidual ctx run.id p (reconcileUnit unit) counts) db log := by
  have hdone {owed : List CaseId} {log : List ExecutedRun}
      (h : Progress i (scopeOf ctx) input run ids done owed log)
      (hunit : Did i log loadedUnit (scopeOf ctx, p, some unit))
      (hreported : Did i log reportedCase (run.id, p)) :
      Progress i (scopeOf ctx) input run ids (done ++ [p]) owed log :=
    h.next (.inr ⟨unit, hunit, .inr ⟨hout, hreported⟩⟩)
  refine keeps_then (keeps_quietRun (Progress.stable.and (stable_did ..))
    (fun _ _ => ⟨rfl, rfl, rfl, rfl⟩) ⟨h, hloaded⟩) ?_
  rintro id s log ⟨⟨h, hloaded⟩, -⟩
  refine keeps_then (M := fun out _ log => ∀ x ∈ out,
    Progress i (scopeOf ctx) input run ids (done ++ [p]) (owedFor x) log) ?_ ?_
  · refine keeps_then (keeps_insertCase hcall rfl hloaded hout h) ?_
    rintro (_ | _ | caseId) s log hanswer
    · rintro x ⟨⟩
    · refine keeps_then (keeps_quietRun (Progress.stable.and (stable_did ..))
        (fun _ _ => ⟨rfl, rfl, rfl, rfl⟩) hanswer) ?_
      intro found s log hfound
      cases found with
      | none => rintro x ⟨⟩
      | some caseId =>
          rintro x ⟨⟩
          exact hdone hfound.1.1 hfound.1.2 (hfound.did fun _ => rfl)
    · rintro x ⟨⟩
      exact hdone hanswer.1 hanswer.2.1 hanswer.2.2
  · rintro (_ | ⟨caseId, created⟩) s log hknown
    · rintro counts' ⟨⟩
    · have h := hknown _ rfl
      cases created with
      | false =>
        intro counts' _
        exact h
      | true =>
        refine keeps_then (keeps_quietRun Progress.stable (fun _ _ => ⟨rfl, rfl, rfl, rfl⟩) h) ?_
        rintro eventId s log ⟨h, -⟩
        refine keeps_then (keeps_insertAuditEvent h) ?_
        intro answer s log hpaid
        cases answer with
        | none =>
            intro counts' hcounts
            cases hcounts
        | some u =>
            intro counts' _
            exact hpaid rfl

theorem keeps_evaluatePayment (hcall : ℓ.call = some (ctx, input)) {p : PaymentId}
    (hp : p ∈ ids.take input.maxPayments)
    (h : Progress i (scopeOf ctx) input run ids done [] log) (counts : RunCounts) :
    Keeps (execRun orders) G (fun _ log => Traced log) i ℓ
      (fun out _ log => ∀ counts' ∈ out, Progress i (scopeOf ctx) input run ids (done ++ [p]) [] log)
      (evaluatePayment ctx run.id counts p) db log := by
  refine keeps_then (keeps_loadUnit hcall hp h) ?_
  rintro answer s log ⟨h, hloaded⟩
  cases answer with
  | none =>
      intro counts' _
      exact h.next (.inl hloaded)
  | some unit =>
      dsimp only
      cases hout : (reconcileUnit unit).outcome with
      | reconciled =>
          intro counts' _
          exact h.next (.inr ⟨unit, hloaded, .inl hout⟩)
      | exception => exact keeps_recordResidual hcall hloaded hout h _

theorem keeps_listPayments (scope : MerchantScope) (input : RunReconciliationInput)
    {K : List ExecutedRun → Prop} (hK : Stable i K) (h : K log) :
    Keeps (execRun orders) G (fun _ log => Traced log) i ℓ
      (fun ids _ log => K log ∧ Did i log listedPayments (scope, input.importId, ids))
      (listPayments scope input) db log := by
  unfold listPayments
  cases input.importId with
  | none =>
      refine Keeps.mono ?_ _ (keeps_quietRun hK (fun _ _ => ⟨rfl, rfl, rfl, rfl⟩) h)
      exact fun ids s log hids => ⟨hids.1, hids.did fun _ => rfl⟩
  | some importId =>
      refine Keeps.mono ?_ _ (keeps_quietRun hK (fun _ _ => ⟨rfl, rfl, rfl, rfl⟩) h)
      exact fun ids s log hids => ⟨hids.1, hids.did fun _ => rfl⟩

/-- A call starts its run. -/
theorem keeps_insertRun (start : RunStart)
    (h : (∀ run, ¬ Did i log startedRun run) ∧ Owes i [] log) :
    Keeps (execRun orders) G (fun _ log => Traced log) i ℓ
      (fun answer _ log => ∀ run ∈ answer, Did i log startedRun run ∧ Owes i [] log)
      (runQuery (.insertRun scope start)) db log := by
  refine keeps_perform ?_
  intro s log' ω hothers hinv _
  have h' := ((stable_notStarted i).and (stable_owes i [])).others hothers h
  constructor
  · refine hinv.concat (fun _ _ run' => h'.1 run') ?_ ?_ ?_
    · intro scope paymentId unit hunit
      cases hunit
    · intro row hrow
      cases hrow
    · intro caseId hcase
      cases hcase
  · intro run hrun
    refine ⟨⟨_, List.mem_append_right _ (List.mem_singleton_self _), rfl, ?_⟩, ?_⟩
    · rw [Option.mem_def] at hrun
      rw [hrun]
      rfl
    · exact h'.2.concat rfl rfl

/-- A run is found under its own id. -/
theorem selectRun_id {ω : ImportSurroundings} {id : String} {found : ReconciliationRunSummary}
    (h : (execRun orders ω (.selectRun scope id) db).1 = some found) : found.id = id := by
  obtain ⟨row, hrow, rfl⟩ := Option.map_eq_some_iff.1 h
  have hid := List.find?_some hrow
  simp only [decide_eq_true_eq] at hid
  exact hid.1

/-- **A run, from its start to its summary.** -/
theorem keeps_runReconciliation (hcall : ℓ.call = some (ctx, input)) (hown : own i log = []) :
    Keeps (execRun orders) G (fun _ log => Traced log) i ℓ
      (fun out _ log => ∀ summary ∈ out, CompletedRun i (scopeOf ctx) input summary log)
      (runReconciliation ctx input) db log := by
  have howes : Owes i [] log := by
    unfold Owes
    rw [hown]
    rfl
  have hnone : ∀ run, ¬ Did i log startedRun run := by
    rintro run ⟨e, he, hpid, -⟩
    have hmem : e ∈ own i log := List.mem_filter.2 ⟨he, by simpa using hpid⟩
    rw [hown] at hmem
    cases hmem
  refine keeps_then (keeps_quietRun ((stable_notStarted i).and (stable_owes i []))
    (fun _ _ => ⟨rfl, rfl, rfl, rfl⟩) ⟨hnone, howes⟩) ?_
  rintro id s log ⟨hbefore, -⟩
  refine keeps_then (keeps_insertRun _ hbefore) ?_
  intro answer s log hstarted
  cases answer with
  | none =>
      intro summary hsummary
      cases hsummary
  | some run =>
      refine keeps_then (keeps_listPayments (scopeOf ctx) input
        ((stable_did i startedRun run).and (stable_owes i []))
        (hstarted run rfl)) ?_
      rintro ids s log ⟨⟨hrun, howes⟩, hlisted⟩
      have hbegin : Progress i (scopeOf ctx) input run ids [] [] log :=
        ⟨hrun, hlisted, by simp, howes⟩
      refine keeps_then (keeps_loop (J := fun done _ _ log =>
        Progress i (scopeOf ctx) input run ids done [] log) (ids.take input.maxPayments)
        (fun p hp done counts s log h => keeps_evaluatePayment hcall hp h counts) hbegin) ?_
      intro out s log hout
      cases out with
      | none =>
          intro summary hsummary
          cases hsummary
      | some counts =>
          have hdone := hout counts rfl
          rw [List.nil_append] at hdone
          refine keeps_then
            (keeps_quietRun Progress.stable (fun _ _ => ⟨rfl, rfl, rfl, rfl⟩) hdone) ?_
          rintro - s log ⟨hdone, -⟩
          refine keeps_then
            (keeps_quietRun Progress.stable (fun _ _ => ⟨rfl, rfl, rfl, rfl⟩) hdone) ?_
          rintro final s log ⟨hdone, ω, db, hfinal, -⟩ summary hsummary
          refine ⟨run, ids, ?_, hdone⟩
          cases hsummary
          cases hfound : final with
          | none => rfl
          | some found => exact selectRun_id (hfinal.symm.trans hfound)

end Call

/-! ## All calls -/

section Outline

variable (orders : ListingOrders)
  (G : Rules RunDatabase ImportSurroundings RunStatement RunStatement.Answer RunOperation)
  (db₀ : RunDatabase)

/-- Every call keeps the log traced, and a completed run has done all it should. -/
def runOutline : Outline (runSystem orders) G db₀ where
  inv _ log := Traced log
  post i ℓ reply _ log := ∀ ctx input summary, ℓ.call = some (ctx, input) →
    reply = .completed summary → CompletedRun i (scopeOf ctx) input summary log
  init := traced_nil
  start := by
    intro s log i ℓ _ _ hown
    have hreply {input : RunReconciliationInput} {ctx : RequestContext}
        {out : Option ReconciliationRunSummary} {log : List ExecutedRun}
        (h : ∀ summary ∈ out, CompletedRun i (scopeOf ctx) input summary log)
        {summary : ReconciliationRunSummary} (hout : replyOf out = .completed summary) :
        CompletedRun i (scopeOf ctx) input summary log := by
      cases out with
      | none => cases hout
      | some found =>
          cases hout
          exact h _ rfl
    cases ℓ with
    | importing a =>
        refine keeps_then (keeps_quietRun (K := fun _ => True)
          ⟨fun _ _ => trivial, fun _ _ _ _ _ => trivial⟩
          (fun _ _ => ⟨rfl, rfl, rfl, rfl⟩) trivial) ?_
        intro _ s log _ ctx input summary hcall
        cases hcall
    | runReconciliation ctx input =>
        refine keeps_then (keeps_runReconciliation rfl hown) ?_
        intro out s log hout ctx' input' summary hcall hsummary
        cases hcall
        exact hreply hout hsummary
    | reconciliationRuns ctx importId =>
        show Keeps _ _ _ _ _ _ (reconciliationRunsRoute ctx importId) s log
        unfold reconciliationRunsRoute
        split
        · intro ctx' input' summary _ hsummary
          cases hsummary
        · refine keeps_then (keeps_runReconciliation rfl hown) ?_
          intro out s log hout ctx' input' summary hcall hsummary
          cases hcall
          exact hreply hout hsummary

variable {orders G db₀} {c : RunConfig}

theorem traced_of_reachable (h : (runSystem orders).Reachable G.Allows (Config.init db₀) c) :
    Traced c.log :=
  (runOutline orders G db₀).inv_of_reachable h

/-- **What a run has done once it is completed**, whatever has happened since. -/
theorem completedRun_of_returned (h : (runSystem orders).Reachable G.Allows (Config.init db₀) c)
    {i : Nat} {ℓ : RunOperation} {summary : ReconciliationRunSummary}
    (hret : c.returned i = some (ℓ, .completed summary)) {ctx : RequestContext}
    {input : RunReconciliationInput} (hcall : ℓ.call = some (ctx, input)) :
    CompletedRun i (scopeOf ctx) input summary c.log := by
  obtain ⟨s, log₀, hpost, hothers⟩ := (runOutline orders G db₀).returned h hret
  obtain ⟨run, ids, hid, hprogress⟩ := hpost ctx input summary hcall rfl
  exact ⟨run, ids, hid, Progress.stable.others hothers hprogress⟩

section Returned

variable (h : (runSystem orders).Reachable G.Allows (Config.init db₀) c) {i : Nat}
  {ℓ : RunOperation} {reply : RunReply} (hret : c.returned i = some (ℓ, reply))
  {ctx : RequestContext} {input : RunReconciliationInput} (hcall : ℓ.call = some (ctx, input))
include h hret

theorem label_of_returned {e : ExecutedRun} (he : e ∈ c.log) (hpid : e.pid = i) : e.label = ℓ := by
  obtain ⟨code, hthread⟩ := h.thread_of_mem he
  rw [Config.returned_eq_some, ← hpid, hthread, Option.some.injEq, Thread.mk.injEq] at hret
  exact hret.1

include hcall

/-- What a call loaded is of its slice. -/
theorem loaded_of_returned {scope : MerchantScope} {p : PaymentId}
    {unit : Option ReconciliationUnit} (hloaded : Did i c.log loadedUnit (scope, p, unit)) :
    ∃ ids, Did i c.log listedPayments (scope, input.importId, ids) ∧
      p ∈ ids.take input.maxPayments := by
  obtain ⟨e, he, rfl, hunit⟩ := hloaded
  obtain ⟨ctx', input', ids, hcall', -, hlisted, hmem⟩ :=
    (traced_of_reachable h).loaded e he scope p unit hunit
  rw [label_of_returned h hret he rfl, hcall, Option.some.injEq, Prod.mk.injEq] at hcall'
  obtain ⟨-, rfl⟩ := hcall'
  exact ⟨ids, hlisted, hmem⟩

end Returned

/-- **A case of a completed run** was created by the call, of an exception among the payments it
loaded. -/
theorem case_of_completed (hdb₀ : db₀.WellFormed)
    (h : (runSystem orders).Reachable G.Allows (Config.init db₀) c) {i : Nat} {ℓ : RunOperation}
    {summary : ReconciliationRunSummary} (hret : c.returned i = some (ℓ, .completed summary))
    {ctx : RequestContext} {input : RunReconciliationInput} (hcall : ℓ.call = some (ctx, input))
    {row : CaseRow} (hrow : row ∈ c.state.cases) (hrun : row.runId = some summary.id) :
    ∃ p unit, row.paymentId = some p ∧ Did i c.log loadedUnit (scopeOf ctx, p, some unit) ∧
      (reconcileUnit unit).outcome = .exception := by
  have hhistory := history_of_reachable hdb₀ h
  obtain ⟨run, ids, hid, hprogress⟩ := completedRun_of_returned h hret hcall
  rw [hid] at hrun
  obtain ⟨e, he, hcreated⟩ := hhistory.created_of_case hdb₀ hprogress.started hrow hrun
  obtain ⟨ctx', input', run', p, unit, hcall', hstarted, hrun', hp, hunit, hout⟩ :=
    (traced_of_reachable h).created e he row hcreated
  have hpid : e.pid = i := by
    refine hhistory.pid_eq hstarted hprogress.started ?_
    rw [hrun, Option.some.injEq] at hrun'
    exact hrun'.symm
  rw [label_of_returned h hret he hpid, hcall, Option.some.injEq, Prod.mk.injEq] at hcall'
  obtain ⟨rfl, -⟩ := hcall'
  rw [hpid] at hunit
  exact ⟨p, unit, hp, hunit, hout⟩

end Outline

end SettlementOps
