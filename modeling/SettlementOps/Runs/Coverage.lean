import SettlementOps.Interleave.Sequential
import SettlementOps.Runs.CompletedRun
import SettlementOps.Store.Rows

/-!
# Run coverage

The contract accepts imports of `MAX_IMPORT_RECORDS` records, a run over an import requested
through the API evaluates the first `MAX_PAYMENTS_PER_RUN` of its captured payments, and
every run lists them in the same order.  So what the first run leaves out, every run does.

* `EvaluatedBy`, `Covered` — a run evaluated a payment; every captured payment of the import is
  evaluated by a completed run.
* `importStored` — no batch of the import is written once a run over it has listed its payments.
* `covered_iff` — once a run is completed the import is covered exactly when it has no more
  captured payments than one run evaluates.
* `bulkImport_not_covered` — an import of one payment more.
* `lateImport_not_covered` — a batch that is written after the run.
-/

namespace SettlementOps

open Interleave Relational

section Coverage

variable (scope : MerchantScope) (importId : String)

/-- The rules that no batch of the merchant's import is written once a run over it has listed its
payments. -/
def importStored :
    Rules RunDatabase ImportSurroundings RunStatement RunStatement.Answer RunOperation where
  run _ log _ _ a := ∀ records, a = .importing (.insertMany scope importId records) →
    ∀ e ∈ log, ∀ ids, listedPayments e ≠ some (scope, some importId, ids)

/-- A request for a run over the merchant's import has been answered with the run. -/
def CompletedOver (c : RunConfig) (i : Nat) (summary : ReconciliationRunSummary) : Prop :=
  ∃ ctx, scopeOf ctx = scope ∧
    c.returned i = some (.reconciliationRuns ctx (some importId), .completed summary)

/-- The run counted the payment as reconciled, or a residual case of the run exists for it. -/
def EvaluatedBy (c : RunConfig) (i : Nat) (summary : ReconciliationRunSummary)
    (paymentId : PaymentId) : Prop :=
  (∃ unit, Did i c.log loadedUnit (scope, paymentId, some unit) ∧
      (reconcileUnit unit).outcome = .reconciled) ∨
    ∃ row ∈ c.state.cases, row.runPayment = some (summary.id, paymentId)

/-- Every captured payment of the import is evaluated by a completed run. -/
def Covered (c : RunConfig) : Prop :=
  ∀ p ∈ c.state.records.capturedOf scope importId,
    ∃ i summary, CompletedOver scope importId c i summary ∧ EvaluatedBy scope c i summary p.id

/-! ## What the runs are given -/

variable {scope importId}

/-- A batch of another import adds no payment of the import. -/
theorem capturedOf_insertMany {scope' : MerchantScope} {importId' : String}
    {records : List FinancialRecord} (h : scope' = scope → importId' ≠ importId)
    (store : RecordStore) :
    (insertMany scope' importId' records store).2.capturedOf scope importId =
      store.capturedOf scope importId := by
  cases hins : insertMany scope' importId' records store with
  | mk counts after =>
      cases counts with
      | none =>
          rw [insertMany_failed hins]
      | some counts =>
          obtain ⟨added, hadded, hfrom⟩ := insertMany_rows hins .payment
          have hrows : after.payments.map StoredRow.payment =
              store.payments.map StoredRow.payment ++ added := hadded
          obtain ⟨payments, new, hafter, hold, hnew⟩ := List.map_eq_append_iff.1 hrows
          have hpayments : payments = store.payments :=
            List.map_injective_iff.2 (fun _ _ => StoredRow.payment.inj) hold
          have hother : ∀ p ∈ new, p.merchantId = scope'.merchantId ∧
              p.importId = some importId' := by
            intro p hp
            obtain ⟨r, -, hr⟩ := hfrom (.payment p) (hnew ▸ List.mem_map_of_mem hp)
            have hbase : p.toRowBase = rowBase scope'.merchantId importId' r.base := row_base hr
            rw [hbase]
            exact ⟨rfl, rfl⟩
          unfold RecordStore.capturedOf
          dsimp only
          rw [hafter, hpayments, List.filter_append]
          have hnil : new.filter (fun p => decide (p.merchantId = scope.merchantId ∧
              p.importId = some importId ∧ p.status = .captured)) = [] := by
            refine List.filter_eq_nil_iff.2 fun p hp hcond => ?_
            simp only [decide_eq_true_eq] at hcond
            obtain ⟨hmerchant, himport⟩ := hother p hp
            rw [hmerchant, himport, Option.some.injEq] at hcond
            exact h (congrArg MerchantScope.mk hcond.1) hcond.2.1
          rw [hnil, List.append_nil]

/-- What the runs over the import were given: all its captured payments, and a unit of each. -/
structure Given (orders : ListingOrders) (scope : MerchantScope) (importId : String)
    (db : RunDatabase) (log : List ExecutedRun) : Prop where
  wellFormed : db.WellFormed
  listed : ∀ e ∈ log, ∀ ids, listedPayments e = some (scope, some importId, ids) →
    ids = (orders.forImport.sort (db.records.capturedOf scope importId)).map (·.id)
  loaded : ∀ e ∈ log, ∀ ctx input, e.label.call = some (ctx, input) → scopeOf ctx = scope →
    input.importId = some importId → ∀ p ∈ db.records.capturedOf scope importId, ∀ unit,
      loadedUnit e = some (scope, p.id, unit) → unit ≠ none

variable {orders : ListingOrders} {db : RunDatabase}
  {log : List ExecutedRun}

/-- A captured payment of the import has a unit. -/
theorem loadUnit_captured (h : db.WellFormed) {p : PaymentRow}
    (hp : p ∈ db.records.capturedOf scope importId) :
    SettlementOps.loadUnit db.records scope p.id ≠ none := by
  obtain ⟨hmem, hcond⟩ := List.mem_filter.1 hp
  simp only [decide_eq_true_eq] at hcond
  obtain ⟨unit, hunit, -⟩ := loadUnit_eq h.records hmem
  have hscope : (⟨p.merchantId⟩ : MerchantScope) = scope := by
    rw [hcond.1]
  rw [← hscope, hunit]
  simp

/-- A run over the import that has loaded a unit has listed the payments before. -/
theorem listed_of_loaded (htraced : Traced log) {e : ExecutedRun} (he : e ∈ log)
    {ctx : RequestContext} {input : RunReconciliationInput}
    (hcall : e.label.call = some (ctx, input)) (himport : input.importId = some importId)
    {p : PaymentId} {unit : Option ReconciliationUnit}
    (hunit : loadedUnit e = some (scope, p, unit)) :
    ∃ e' ∈ log, ∃ ids, listedPayments e' = some (scope, some importId, ids) := by
  obtain ⟨ctx', input', ids, hcall', -, ⟨e', he', -, hids⟩, -⟩ :=
    htraced.loaded e he scope p unit hunit
  rw [hcall, Option.some.injEq, Prod.mk.injEq] at hcall'
  obtain ⟨-, rfl⟩ := hcall'
  rw [himport] at hids
  exact ⟨e', he', ids, hids⟩

/-- A statement leaves the captured payments of the import as they are, or no run has listed
them. -/
theorem capturedOf_execRun (ω : ImportSurroundings) {a : RunStatement}
    (hbatch : ∀ records, a = .importing (.insertMany scope importId records) →
      ∀ e ∈ log, ∀ ids, listedPayments e ≠ some (scope, some importId, ids)) :
    (execRun orders ω a db).2.records.capturedOf scope importId =
        db.records.capturedOf scope importId ∨
      ∀ e ∈ log, ∀ ids, listedPayments e ≠ some (scope, some importId, ids) := by
  rcases execRun_records orders ω db a with hsame | ⟨scope', importId', records, rfl, hrecords⟩
  · left
    rw [hsame]
  · by_cases himport : scope' = scope ∧ importId' = importId
    · obtain ⟨rfl, rfl⟩ := himport
      exact .inr (hbatch records rfl)
    · left
      rw [hrecords]
      exact capturedOf_insertMany (fun hscope hid => himport ⟨hscope, hid⟩) db.records

theorem Given.step (h : Given orders scope importId db log) (htraced : Traced log) (i : Nat)
    (ℓ : RunOperation) {a : RunStatement}
    (hbatch : ∀ records, a = .importing (.insertMany scope importId records) →
      ∀ e ∈ log, ∀ ids, listedPayments e ≠ some (scope, some importId, ids))
    (ω : ImportSurroundings) :
    Given orders scope importId (execRun orders ω a db).2
      (log ++ [executedRun orders i ℓ a ω db]) where
  wellFormed := execRun_wellFormed h.wellFormed
  listed := by
    intro e he ids hids
    rcases List.mem_append.1 he with he | he
    · rcases capturedOf_execRun ω hbatch with hsame | hnone
      · rw [hsame]
        exact h.listed e he ids hids
      · exact absurd hids (hnone e he ids)
    · rw [List.mem_singleton.1 he] at hids
      rw [listed_executed hids]
      have hsame : (execRun orders ω a db).2.records = db.records := by
        cases a with
        | listPaymentIdsForImport scope' importId' => rfl
        | _ => cases hids
      rw [hsame]
  loaded := by
    intro e he ctx input hcall hscope himport p hp unit hunit
    rcases List.mem_append.1 he with he | he
    · rcases capturedOf_execRun ω hbatch with hsame | hnone
      · rw [hsame] at hp
        exact h.loaded e he ctx input hcall hscope himport p hp unit hunit
      · obtain ⟨e', he', ids, hids⟩ := listed_of_loaded htraced he hcall himport hunit
        exact absurd hids (hnone e' he' ids)
    · rw [List.mem_singleton.1 he] at hunit
      have hsame : (execRun orders ω a db).2.records = db.records := by
        cases a with
        | loadUnit scope' paymentId => rfl
        | _ => cases hunit
      rw [hsame] at hp
      rw [loaded_executed hunit]
      exact loadUnit_captured h.wellFormed hp

variable {db₀ : RunDatabase} {c : RunConfig}

theorem given_of_reachable (hdb₀ : db₀.WellFormed)
    (h : (runSystem orders).Reachable (importStored scope importId).Allows (Config.init db₀) c) :
    Given orders scope importId c.state c.log := by
  induction h with
  | refl => exact ⟨hdb₀, by simp [Config.init], by simp [Config.init]⟩
  | step hreach hallow hstep ih =>
      rcases action_of_step hreach hallow hstep with
        ⟨hstate, hlog⟩ | ⟨i, ω, ℓ, a, hrun, -, hstate, hlog⟩
      · rw [hstate, hlog]
        exact ih
      · rw [hstate, hlog]
        exact ih.step (traced_of_reachable hreach) i ℓ hrun ω

/-! ## The slice of every run -/

/-- The payments every run over the import evaluates. -/
def sliceOf (orders : ListingOrders) (payments : List PaymentRow) : List PaymentId :=
  ((orders.forImport.sort payments).map (·.id)).take MAX_PAYMENTS_PER_RUN

/-- A run evaluates all of its slice. -/
theorem evaluatedBy_of_mem_slice (hdb₀ : db₀.WellFormed)
    (h : (runSystem orders).Reachable (importStored scope importId).Allows (Config.init db₀) c)
    {i : Nat} {summary : ReconciliationRunSummary}
    (hcompleted : CompletedOver scope importId c i summary) {p : PaymentRow}
    (hp : p ∈ c.state.records.capturedOf scope importId)
    (hslice : p.id ∈ sliceOf orders (c.state.records.capturedOf scope importId)) :
    EvaluatedBy scope c i summary p.id := by
  have hgiven := given_of_reachable hdb₀ h
  obtain ⟨ctx, hscope, hret⟩ := hcompleted
  obtain ⟨run, ids, hid, hprogress⟩ := completedRun_of_returned h hret rfl
  rw [hscope] at hprogress
  have hids : ids =
      (orders.forImport.sort (c.state.records.capturedOf scope importId)).map (·.id) := by
    obtain ⟨e, he, -, hlisted⟩ := hprogress.listed
    exact hgiven.listed e he ids hlisted
  have hmem : p.id ∈ ids.take MAX_PAYMENTS_PER_RUN := by
    rw [hids]
    exact hslice
  rcases hprogress.evaluated p.id hmem with hnone | ⟨unit, hunit, hout | ⟨-, hreported⟩⟩
  · obtain ⟨e, he, hpid, hloaded⟩ := hnone
    have hcall : e.label.call = some (ctx, ⟨some importId, MAX_PAYMENTS_PER_RUN⟩) := by
      rw [label_of_returned h hret he hpid]
      rfl
    exact absurd rfl (hgiven.loaded e he ctx _ hcall hscope rfl p hp none hloaded)
  · exact .inl ⟨unit, hunit, hout⟩
  · obtain ⟨e, he, -, hkey⟩ := hreported
    rw [← hid] at hkey
    exact .inr ((history_of_reachable hdb₀ h).reported e he _ hkey)

/-- A run evaluates nothing else. -/
theorem mem_slice_of_evaluatedBy (hdb₀ : db₀.WellFormed)
    (h : (runSystem orders).Reachable (importStored scope importId).Allows (Config.init db₀) c)
    {i : Nat} {summary : ReconciliationRunSummary}
    (hcompleted : CompletedOver scope importId c i summary) {p : PaymentId}
    (hevaluated : EvaluatedBy scope c i summary p) :
    p ∈ sliceOf orders (c.state.records.capturedOf scope importId) := by
  have hgiven := given_of_reachable hdb₀ h
  obtain ⟨ctx, hscope, hret⟩ := hcompleted
  -- what the run loaded is of its slice
  have hslice : ∀ p unit, Did i c.log loadedUnit (scope, p, unit) →
      p ∈ sliceOf orders (c.state.records.capturedOf scope importId) := by
    intro p unit hloaded
    obtain ⟨ids, ⟨e, he, -, hids⟩, hmem⟩ := loaded_of_returned h hret rfl hloaded
    rw [hgiven.listed e he ids hids] at hmem
    exact hmem
  rcases hevaluated with ⟨unit, hunit, -⟩ | ⟨row, hrow, hkey⟩
  · exact hslice p _ hunit
  · -- the case of the run was created by the run
    obtain ⟨runId, hrunId, hpayment⟩ := Option.bind_eq_some_iff.1 hkey
    obtain ⟨p', hp', heq⟩ := Option.map_eq_some_iff.1 hpayment
    cases heq
    obtain ⟨q, unit, hq, hunit, -⟩ := case_of_completed hdb₀ h hret rfl hrow hrunId
    rw [hp', Option.some.injEq] at hq
    subst hq
    rw [hscope] at hunit
    exact hslice p _ hunit

/-- A covered import has no more captured payments than one run evaluates. -/
theorem length_le_of_covered (hdb₀ : db₀.WellFormed)
    (h : (runSystem orders).Reachable (importStored scope importId).Allows (Config.init db₀) c)
    (hcovered : Covered scope importId c) :
    (c.state.records.capturedOf scope importId).length ≤ MAX_PAYMENTS_PER_RUN := by
  have hwf := (given_of_reachable hdb₀ h).wellFormed
  have hnodup : ((c.state.records.capturedOf scope importId).map (·.id)).Nodup := by
    have hpk : (c.state.records.payments.map (·.id)).Nodup := hwf.records.payments.pk
    exact hpk.sublist (List.filter_sublist.map _)
  have hsubset : (c.state.records.capturedOf scope importId).map (·.id) ⊆
      sliceOf orders (c.state.records.capturedOf scope importId) := by
    intro p hp
    obtain ⟨row, hrow, rfl⟩ := List.mem_map.1 hp
    obtain ⟨i, summary, hcompleted, hevaluated⟩ := hcovered row hrow
    exact mem_slice_of_evaluatedBy hdb₀ h hcompleted hevaluated
  calc (c.state.records.capturedOf scope importId).length
      = ((c.state.records.capturedOf scope importId).map (·.id)).length := by
        rw [List.length_map]
    _ ≤ (sliceOf orders (c.state.records.capturedOf scope importId)).length :=
        (hnodup.subperm hsubset).length_le
    _ ≤ MAX_PAYMENTS_PER_RUN := List.length_take_le _ _

/-- **When an import is covered.**  However many runs over it are completed, every captured
payment of the import is evaluated by one of them exactly when the import has no more captured
payments than one run evaluates. -/
theorem covered_iff (orders : ListingOrders) (db₀ : RunDatabase) (hdb₀ : db₀.WellFormed)
    (scope : MerchantScope) (importId : String) (c : RunConfig)
    (h : (runSystem orders).Reachable (importStored scope importId).Allows (Config.init db₀) c)
    (hcompleted : ∃ i summary, CompletedOver scope importId c i summary) :
    Covered scope importId c ↔
      (c.state.records.capturedOf scope importId).length ≤ MAX_PAYMENTS_PER_RUN := by
  constructor
  · exact length_le_of_covered hdb₀ h
  · intro hlength p hp
    obtain ⟨i, summary, hcompleted⟩ := hcompleted
    refine ⟨i, summary, hcompleted, evaluatedBy_of_mem_slice hdb₀ h hcompleted hp ?_⟩
    unfold sliceOf
    rw [List.take_of_length_le]
    · exact List.mem_map_of_mem ((orders.forImport.perm _).mem_iff.2 hp)
    · rw [List.length_map, (orders.forImport.perm _).length_eq]
      exact hlength

end Coverage

/-! ## A run that nothing disturbs -/

/-- An id longer than all given ones. -/
def freshId (ids : List String) : String := String.ofList ('x' :: (ids.map String.toList).flatten)

theorem freshId_notMem (ids : List String) : freshId ids ∉ ids := by
  intro h
  have hle : (freshId ids).toList.length ≤ (ids.map String.toList).flatten.length :=
    (List.sublist_flatten_of_mem (List.mem_map_of_mem h)).length_le
  rw [freshId, String.toList_ofList, List.length_cons] at hle
  omega

/-- The ids a database holds. -/
def RunDatabase.ids (db : RunDatabase) : List String :=
  db.runs.map (·.id) ++ db.cases.map (·.id) ++ db.auditEvents.map (·.id)

/-- Surroundings that generate a new id. -/
def freshSurroundings (db : RunDatabase) : ImportSurroundings := ⟨⟨0⟩, freshId db.ids, fun _ => ""⟩

/-- The database in the middle of the only run there is. -/
structure Running (scope : MerchantScope) (records : RecordStore) (runId : String) (k : Nat)
    (db : RunDatabase) : Prop where
  records : db.records = records
  run : ∃ r ∈ db.runs, r.id = runId
  cases : ∀ row ∈ db.cases, row.scope = scope ∧ ∃ j < k, row.caseNumber = caseNumberFor runId j

section Undisturbed

variable {orders : ListingOrders} {ctx : RequestContext} {records : RecordStore}
  {runId : String} {db : RunDatabase}

theorem Running.mono {scope : MerchantScope} {k k' : Nat} (h : Running scope records runId k db)
    (hk : k ≤ k') : Running scope records runId k' db where
  records := h.records
  run := h.run
  cases := by
    intro row hrow
    obtain ⟨hscope, j, hj, hnumber⟩ := h.cases row hrow
    exact ⟨hscope, j, Nat.lt_of_lt_of_le hj hk, hnumber⟩

/-- What the insert of a case leaves behind: the new case, or the one the payment has. -/
def InsertedOrMet (scope : MerchantScope) (records : RecordStore) (runId : String) (k : Nat)
    (p : PaymentId) (db : RunDatabase) : Option (Option CaseId) → RunDatabase → Prop
  | none, _ => False
  | some none, db' => db' = db ∧ ∃ r ∈ db.cases, r.runPayment = some (runId, p)
  | some (some _), db' => Running scope records runId (k + 1) db'

/-- A case with a new id and the next number is inserted, or the payment has one. -/
theorem wp_createResidual {p : PaymentId} (hp : ∃ r ∈ records.payments, r.id = p)
    (verdict : ReconciliationVerdict) {k : Nat} {id : CaseId} (hid : id ∉ db.ids)
    (h : Running (scopeOf ctx) records runId k db) :
    Wp (chosen (execRun orders) freshSurroundings)
      (fun out db => ∃ x, out = some x ∧ Running (scopeOf ctx) records runId (k + 1) db)
      (createResidual (scopeOf ctx) ⟨id, caseNumberFor runId k, runId, p, verdict⟩) db := by
  have hrejects : db.rejects (residualRow (freshSurroundings db).now (scopeOf ctx)
      ⟨id, caseNumberFor runId k, runId, p, verdict⟩) = false := by
    simp only [RunDatabase.rejects, residualRow, CaseRow.number, Option.all_some,
      Bool.or_eq_false_iff, Bool.not_eq_false', List.any_eq_true, List.any_eq_false,
      decide_eq_true_eq, not_or, Prod.mk.injEq, not_and]
    refine ⟨⟨?_, h.run⟩, by rw [h.records]; exact hp⟩
    intro row hrow
    obtain ⟨-, j, hj, hnumber⟩ := h.cases row hrow
    refine ⟨?_, ?_⟩
    · rintro rfl
      refine hid ?_
      simp only [RunDatabase.ids, List.mem_append, List.mem_map]
      exact .inl (.inr ⟨row, hrow, rfl⟩)
    · intro _ heq
      rw [hnumber] at heq
      have hjk := caseNumberFor_injective heq
      omega
  refine wp_then (M := InsertedOrMet (scopeOf ctx) records runId k p db) (wp_chosen ?_) ?_
  · rcases insertCase_cases orders (freshSurroundings db) db (scopeOf ctx)
      ⟨id, caseNumberFor runId k, runId, p, verdict⟩ with
      ⟨hanswer, hdb, hmet⟩ | ⟨-, -, hbad⟩ | ⟨hanswer, hcases, himports, hruns, -⟩
    · rw [hanswer, hdb]
      exact ⟨rfl, hmet⟩
    · rw [hrejects] at hbad
      cases hbad
    · rw [hanswer]
      refine ⟨?_, ?_, ?_⟩
      · rw [himports]
        exact h.records
      · rw [hruns]
        exact h.run
      · rw [hcases]
        intro row hrow
        rcases List.mem_append.1 hrow with hrow | hrow
        · exact (h.mono (Nat.le_succ k)).cases row hrow
        · rw [List.mem_singleton.1 hrow]
          exact ⟨rfl, k, Nat.lt_succ_self k, rfl⟩
  · rintro (_ | _ | caseId) db' hanswer
    · cases hanswer
    · obtain ⟨rfl, row, hrow, hkey⟩ := hanswer
      refine wp_then (M := fun found db'' => found ≠ none ∧ db'' = db') (wp_chosen ?_) ?_
      · refine ⟨?_, rfl⟩
        obtain ⟨r, hr, hpayment⟩ := Option.bind_eq_some_iff.1 hkey
        obtain ⟨q, hq, heq⟩ := Option.map_eq_some_iff.1 hpayment
        cases heq
        simp only [execRun, ne_eq, Option.map_eq_none_iff, List.find?_eq_none, not_forall,
          decide_eq_true_eq, not_not]
        exact ⟨row, hrow, (h.cases row hrow).1, hr, hq⟩
      · rintro found db'' ⟨hfound, rfl⟩
        cases found with
        | none => exact absurd rfl hfound
        | some caseId => exact ⟨(caseId, false), rfl, h.mono (Nat.le_succ k)⟩
    · exact ⟨(caseId, true), rfl, hanswer⟩

theorem freshSurroundings_notMem (db : RunDatabase) : (freshSurroundings db).uuid ∉ db.ids :=
  freshId_notMem db.ids

theorem wp_recordResidual {p : PaymentId} (hp : ∃ r ∈ records.payments, r.id = p)
    (verdict : ReconciliationVerdict) (counts : RunCounts)
    (h : Running (scopeOf ctx) records runId counts.residual db) :
    Wp (chosen (execRun orders) freshSurroundings)
      (fun out db => ∃ counts', out = some counts' ∧
        Running (scopeOf ctx) records runId counts'.residual db)
      (recordResidual ctx runId p verdict counts) db := by
  refine wp_then (M := fun id db' => id ∉ db'.ids ∧ db' = db)
    (wp_chosen ⟨freshSurroundings_notMem db, rfl⟩) ?_
  rintro id db' ⟨hid, rfl⟩
  refine wp_then (wp_createResidual hp verdict hid h) ?_
  rintro _ db₁ ⟨⟨caseId, created⟩, rfl, h₁⟩
  cases created with
  | false => exact ⟨_, rfl, h₁⟩
  | true =>
      refine wp_then (M := fun id db' => id ∉ db'.ids ∧ db' = db₁)
        (wp_chosen ⟨freshSurroundings_notMem db₁, rfl⟩) ?_
      rintro eventId db₂ ⟨hevent, rfl⟩
      have hfree : db₂.auditEvents.any (fun r => decide (r.id = eventId)) = false := by
        simp only [List.any_eq_false, decide_eq_true_eq]
        rintro r hr rfl
        refine hevent ?_
        simp only [RunDatabase.ids, List.mem_append, List.mem_map]
        exact .inr ⟨r, hr, rfl⟩
      refine wp_then (M := fun answer db' => answer = some () ∧
        Running (scopeOf ctx) records runId (counts.residual + 1) db') (wp_chosen ?_) ?_
      · simp only [execRun, hfree]
        exact ⟨rfl, h₁.records, h₁.run, h₁.cases⟩
      · rintro _ db₃ ⟨rfl, h₃⟩
        exact ⟨_, rfl, h₃⟩

theorem wp_evaluatePayment {p : PaymentId} (hp : ∃ r ∈ records.payments, r.id = p)
    (counts : RunCounts) (h : Running (scopeOf ctx) records runId counts.residual db) :
    Wp (chosen (execRun orders) freshSurroundings)
      (fun out db => ∃ counts', out = some counts' ∧
        Running (scopeOf ctx) records runId counts'.residual db)
      (evaluatePayment ctx runId counts p) db := by
  refine wp_then (M := fun _ => Running (scopeOf ctx) records runId counts.residual)
    (wp_chosen h) ?_
  intro answer db h
  cases answer with
  | none => exact ⟨_, rfl, h⟩
  | some unit =>
      dsimp only
      cases (reconcileUnit unit).outcome with
      | reconciled => exact ⟨_, rfl, h⟩
      | exception => exact wp_recordResidual hp _ _ h

/-- What the run knows of the database once it is created and its payments are listed. -/
theorem wp_runReconciliation (hcases : db.cases = []) {importId : String}
    (himport : db.imports.any (fun r => r.id = importId) = true) (maxPayments : Nat) :
    Wp (chosen (execRun orders) freshSurroundings)
      (fun out db' => (∃ summary, out = some summary) ∧ db'.records = db.records)
      (runReconciliation ctx ⟨some importId, maxPayments⟩) db := by
  refine wp_then (M := fun id db' => id ∉ db'.ids ∧ db' = db)
    (wp_chosen ⟨freshSurroundings_notMem db, rfl⟩) ?_
  rintro id db' ⟨hid, rfl⟩
  refine wp_then (M := fun answer db₁ => ∃ run, answer = some run ∧
    Running (scopeOf ctx) db'.records run.id 0 db₁) (wp_chosen ?_) ?_
  · have hfree : db'.runs.any (fun r => decide (r.id = id)) = false := by
      simp only [List.any_eq_false, decide_eq_true_eq]
      rintro r hr rfl
      refine hid ?_
      simp only [RunDatabase.ids, List.mem_append, List.mem_map]
      exact .inl (.inl ⟨r, hr, rfl⟩)
    simp only [execRun, hfree, himport, Option.all_some]
    refine ⟨_, rfl, rfl, ⟨_, List.mem_append_right _ (List.mem_singleton_self _), rfl⟩, ?_⟩
    intro row hrow
    rw [hcases] at hrow
    cases hrow
  · rintro _ db₁ ⟨run, rfl, h₁⟩
    refine wp_then (M := fun ids db₂ => (∀ p ∈ ids, ∃ r ∈ db'.records.payments, r.id = p) ∧
      Running (scopeOf ctx) db'.records run.id 0 db₂) (wp_chosen ⟨?_, h₁⟩) ?_
    · intro p hp
      obtain ⟨r, hr, rfl⟩ := List.mem_map.1 hp
      have hmem := (orders.forImport.perm _).mem_iff.1 hr
      rw [h₁.records] at hmem
      exact ⟨r, List.mem_of_mem_filter hmem, rfl⟩
    · rintro ids db₂ ⟨hids, h₂⟩
      refine wp_then (wp_loop (J := fun _ counts db =>
        Running (scopeOf ctx) db'.records run.id counts.residual db) _
        (fun p hp _ counts db h =>
          wp_evaluatePayment (hids p (List.mem_of_mem_take hp)) counts h) [] h₂) ?_
      rintro _ db₃ ⟨counts, rfl, h₃⟩
      refine wp_then (M := fun _ db₄ => db₄.records = db'.records) (wp_chosen h₃.records) ?_
      intro _ db₄ h₄
      refine wp_then (M := fun _ db₅ => db₅.records = db'.records) (wp_chosen h₄) ?_
      intro final db₅ h₅
      exact ⟨⟨_, rfl⟩, h₅⟩

/-- A call that completes alone completes where the rules leave it alone. -/
theorem exists_completed_call
    {G : Rules RunDatabase ImportSurroundings RunStatement RunStatement.Answer RunOperation}
    {ℓ : RunOperation} {input : RunReconciliationInput} (hcall : ℓ.call = some (ctx, input))
    (hcalled : ∀ s log, G.call s log ℓ)
    (hrun : ∀ a, a.OfRun → ∀ s log, G.run s log 0 ℓ a)
    (hwp : Wp (chosen (execRun orders) freshSurroundings)
      (fun reply db' => (∃ summary, reply = .completed summary) ∧ db'.records = db.records)
      ℓ.program db) :
    ∃ c summary, (runSystem orders).Reachable G.Allows (Config.init db) c ∧
      c.returned 0 = some (ℓ, .completed summary) ∧ c.state.records = db.records := by
  -- the request is made, and runs alone from there
  let called : RunConfig := ⟨db, [⟨ℓ, some ℓ.program⟩], []⟩
  have hreached : (runSystem orders).Reachable G.Allows (Config.init db) called :=
    .step .refl (m := .call ℓ) (hcalled db []) rfl
  obtain ⟨c, _, hreach, hret, ⟨summary, rfl⟩, hrecords⟩ :=
    exists_return (S := runSystem orders) (c := called) _
      (fun a ha => hrun a (only_program hcall a ha)) rfl hwp
  exact ⟨c, summary, hreached.trans hreach, hret, hrecords⟩

/-- **A run over a stored import completes**, where no case is in its way. -/
theorem exists_completed (orders : ListingOrders) (db : RunDatabase) (hcases : db.cases = [])
    (importId : String) (himport : db.imports.any (fun r => r.id = importId) = true)
    (ctx : RequestContext) (hrole : hasAtLeast ctx .operator = true) :
    ∃ c i summary, (runSystem orders).Reachable (importStored (scopeOf ctx) importId).Allows
        (Config.init db) c ∧
      CompletedOver (scopeOf ctx) importId c i summary ∧ c.state.records = db.records := by
  have hwp : Wp (chosen (execRun orders) freshSurroundings)
      (fun reply db' => (∃ summary, reply = .completed summary) ∧ db'.records = db.records)
      (RunOperation.reconciliationRuns ctx (some importId)).program db := by
    show Wp _ _ (reconciliationRunsRoute ctx (some importId)) db
    unfold reconciliationRunsRoute
    rw [if_neg (by simp [hrole])]
    refine wp_then (wp_runReconciliation hcases himport _) ?_
    rintro _ db' ⟨⟨summary, rfl⟩, hrecords⟩
    exact ⟨⟨summary, rfl⟩, hrecords⟩
  obtain ⟨c, summary, hreach, hret, hrecords⟩ := exists_completed_call
    (G := importStored (scopeOf ctx) importId) rfl (fun _ _ => trivial)
    (fun a ha _ _ records heq => by
      subst heq
      exact ha.elim) hwp
  exact ⟨c, 0, summary, hreach, ⟨ctx, rfl, hret⟩, hrecords⟩

end Undisturbed

/-! ## An import of one payment too many -/

/-- Card payments of one import, all captured at the same moment. -/
def bulkPayment (k : Nat) : FinancialRecord :=
  .payment { sampleUnit.payment with
    toRecordBase := sampleBase ("pay-" ++ toString k)
    paymentId := "pay-" ++ toString k }

def bulkImport (n : Nat) : List FinancialRecord := (List.range n).map bulkPayment

def bulkRow (k : Nat) : PaymentRow :=
  { samplePaymentRow with
    id := "pay-" ++ toString k
    sourceRecordId := "pay-" ++ toString k }

/-- The import, stored. -/
def bulkDatabase (n : Nat) : RunDatabase where
  imports := [sampleImportRow]
  records := (insertMany ⟨"m-1"⟩ "import-1" (bulkImport n) {}).2

theorem bulkImport_ids_nodup (n : Nat) :
    ((bulkImport n).map fun r => r.base.id).Nodup := by
  rw [bulkImport, List.map_map]
  refine List.nodup_range.map ?_
  intro j k h
  have happend : "pay-" ++ toString j = "pay-" ++ toString k := h
  rw [String.append_right_inj] at happend
  exact padStart_toString_injective (congrArg (padStart 0) happend)

theorem bulkDatabase_payments (n : Nat) :
    (bulkDatabase n).records.payments = (List.range n).map bulkRow := by
  have hids : FreshIds {} (bulkImport n) :=
    ⟨bulkImport_ids_nodup n, by simp [RecordStore.rowsOf_empty]⟩
  have hkeys : ((bulkImport n).map fun r => (r.kind, r.sourceKey "m-1")).Nodup := by
    refine List.Nodup.of_map (fun key => key.2.sourceRecordId) ?_
    have hids := bulkImport_ids_nodup n
    rw [bulkImport, List.map_map] at hids
    rw [bulkImport, List.map_map, List.map_map]
    exact hids
  obtain ⟨counts, after, hins⟩ := insertMany_commits hids ⟨"m-1"⟩ "import-1"
  have hnew : NewKeys "m-1" {} (bulkImport n) := by simp [NewKeys, RecordStore.rowsOf_empty]
  have hrows := insertMany_rows_of_new hkeys hnew hins .payment
  have hafter : (bulkDatabase n).records = after := by
    unfold bulkDatabase
    dsimp only
    rw [hins]
  have hkind : (bulkImport n).filter (fun r => r.kind = .payment) = bulkImport n := by
    rw [List.filter_eq_self]
    intro r hr
    obtain ⟨k, -, rfl⟩ := List.mem_map.1 hr
    rfl
  rw [hkind, bulkImport, List.filterMap_map] at hrows
  have hmap : after.payments.map StoredRow.payment =
      ((List.range n).map bulkRow).map StoredRow.payment := by
    refine Eq.trans hrows ?_
    rw [List.map_map, ← List.filterMap_eq_map]
    rfl
  rw [hafter]
  exact List.map_injective_iff.2 (fun _ _ => StoredRow.payment.inj) hmap

theorem bulkDatabase_captured (n : Nat) :
    ((bulkDatabase n).records.capturedOf ⟨"m-1"⟩ "import-1").length = n := by
  unfold RecordStore.capturedOf
  rw [bulkDatabase_payments, List.filter_eq_self.2, List.length_map, List.length_range]
  intro p hp
  obtain ⟨k, -, rfl⟩ := List.mem_map.1 hp
  rfl

theorem bulkDatabase_wellFormed (n : Nat) : (bulkDatabase n).WellFormed :=
  { RunDatabase.wellFormed_of_records (insertMany_wellFormed wellFormed_empty _ _ _) with }

theorem exists_completed_bulk (n : Nat) :
    ∃ c, (runSystem storedOrders).Reachable (importStored ⟨"m-1"⟩ "import-1").Allows
        (Config.init (bulkDatabase n)) c ∧
      (∃ i summary, CompletedOver ⟨"m-1"⟩ "import-1" c i summary) ∧
      (c.state.records.capturedOf ⟨"m-1"⟩ "import-1").length = n := by
  obtain ⟨c, i, summary, hreach, hcompleted, hrecords⟩ :=
    exists_completed storedOrders (bulkDatabase n) rfl "import-1" rfl runOperator rfl
  refine ⟨c, hreach, ⟨i, summary, hcompleted⟩, ?_⟩
  rw [hrecords]
  exact bulkDatabase_captured n

/-- An import of a single payment is covered once a run over it is completed. -/
theorem single_payment_covered :
    ∃ c, (∃ i summary, CompletedOver ⟨"m-1"⟩ "import-1" c i summary) ∧
      Covered ⟨"m-1"⟩ "import-1" c := by
  obtain ⟨c, hreach, hcompleted, hlength⟩ := exists_completed_bulk 1
  refine ⟨c, hcompleted, ?_⟩
  refine (covered_iff storedOrders (bulkDatabase 1) (bulkDatabase_wellFormed 1) _ _ c hreach
    hcompleted).2 ?_
  rw [hlength]
  decide

/-- The contract accepts one payment more than a run evaluates; a run over them completes, and
no run has looked at the last. -/
theorem bulkImport_not_covered :
    (bulkImport (MAX_PAYMENTS_PER_RUN + 1)).length ≤ MAX_IMPORT_RECORDS ∧
    ∃ c, (runSystem storedOrders).Reachable (importStored ⟨"m-1"⟩ "import-1").Allows
        (Config.init (bulkDatabase (MAX_PAYMENTS_PER_RUN + 1))) c ∧
      (∃ i summary, CompletedOver ⟨"m-1"⟩ "import-1" c i summary) ∧
      ¬ Covered ⟨"m-1"⟩ "import-1" c := by
  constructor
  · rw [bulkImport, List.length_map, List.length_range]
    decide
  · obtain ⟨c, hreach, hcompleted, hlength⟩ := exists_completed_bulk (MAX_PAYMENTS_PER_RUN + 1)
    refine ⟨c, hreach, hcompleted, fun hcovered => ?_⟩
    have hle := length_le_of_covered (bulkDatabase_wellFormed _) hreach hcovered
    rw [hlength] at hle
    omega

/-! ## An import that arrives late -/

/-- A run over an import is completed before the batch of the import is written. -/
def lateImportMoves : List (Move RunOperation ImportSurroundings) :=
  [.call (.reconciliationRuns runOperator (some "import-1"))] ++
    List.replicate 5 (.run 0 ⟨⟨0⟩, "run-1", fun _ => ""⟩) ++
    [.call (.importing (.insertMany ⟨"m-1"⟩ "import-1" (bulkImport 1))),
      .run 1 ⟨⟨0⟩, "run-1", fun _ => ""⟩]

/-- Its one payment is covered by no run. -/
theorem lateImport_not_covered :
    ∃ c, (runSystem storedOrders).Reachable (fun _ _ => True)
        (Config.init { imports := [sampleImportRow] }) c ∧
      (∃ i summary, CompletedOver ⟨"m-1"⟩ "import-1" c i summary) ∧
      (c.state.records.capturedOf ⟨"m-1"⟩ "import-1").length = 1 ∧
      ¬ Covered ⟨"m-1"⟩ "import-1" c := by
  obtain ⟨c, hc, summary, hret, hlength, hloaded, hcases⟩ :
      ∃ c, (runSystem storedOrders).replay (fun _ _ => True)
        (Config.init { imports := [sampleImportRow] }) lateImportMoves = some c ∧
          ∃ summary, c.returned 0 =
              some (.reconciliationRuns runOperator (some "import-1"), .completed summary) ∧
            (c.state.records.capturedOf ⟨"m-1"⟩ "import-1").length = 1 ∧
            c.log.filterMap loadedUnit = [] ∧ c.state.cases = [] :=
    ⟨_, rfl, _, rfl, rfl, rfl, rfl⟩
  refine ⟨c, System.reachable_of_replay lateImportMoves hc, ⟨0, summary, runOperator, rfl, hret⟩,
    hlength, fun hcovered => ?_⟩
  obtain ⟨p, hp⟩ := List.exists_mem_of_length_pos (hlength ▸ Nat.one_pos)
  obtain ⟨i, summary', -, ⟨unit, ⟨e, he, -, hunit⟩, -⟩ | ⟨row, hrow, -⟩⟩ := hcovered p hp
  · have hmem := List.mem_filterMap.2 ⟨e, he, hunit⟩
    rw [hloaded] at hmem
    cases hmem
  · rw [hcases] at hrow
    cases hrow

end SettlementOps
