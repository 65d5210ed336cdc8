import SettlementOps.Runs.Coverage
import SettlementOps.Runs.Retry
import SettlementOps.Store.Requests

/-!
# Runs beside other imports

A run reads the payments of one import while other imports are written.  As long as these meet no
record of the import, the run finds what it would find of the import alone.

* `SameUnits`, `sameUnits_alone` — the payments of a separated import, in the store of all.
* `besides` — the rules that what is written meets no record of the import.
* `casesOfRun_perm` — the cases of a completed run are the exceptions of its slice.
* `run_isolated` — they are those the import would have alone.
-/

namespace SettlementOps

open Interleave Relational

/-! ## The payments of an import -/

/-- The captured payments of an import are among its own rows. -/
theorem capturedOf_within {history : List ImportBatch} {b : ImportBatch} (hb : b ∈ history)
    (himport : ∀ other ∈ history, other.importId = b.importId → other = b) {store : RecordStore}
    (harrived : Arrived history store) (scope : MerchantScope) :
    store.capturedOf scope b.importId = (store.within b.owns).capturedOf scope b.importId := by
  unfold RecordStore.capturedOf RecordStore.within
  dsimp only
  rw [List.filter_filter]
  refine List.filter_congr fun p hp => ?_
  rw [Bool.eq_iff_iff, Bool.and_eq_true, decide_eq_true_iff]
  refine (and_iff_left_of_imp fun hcaptured => ?_).symm
  obtain ⟨other, hother, r, hr, links, hrow, -⟩ :=
    harrived .payment _ (List.mem_map_of_mem hp)
  have hbase := row_base hrow
  have hid : other.importId = b.importId :=
    Option.some.inj ((congrArg RowBase.importId hbase).symm.trans hcaptured.2.1)
  obtain rfl := himport other hother hid
  exact owns_iff.2 ⟨r, hr, (congrArg RowBase.id hbase).symm⟩

/-- Later batches of other imports add no payment of the import. -/
theorem capturedOf_importBatches {scope : MerchantScope} {importId : String}
    (batches : List ImportBatch) : ∀ {store : RecordStore},
      (∀ b ∈ batches, b.importId ≠ importId) →
        (importBatches batches store).capturedOf scope importId =
          store.capturedOf scope importId := by
  induction batches with
  | nil => exact fun _ => rfl
  | cons b batches ih =>
      intro store hother
      obtain ⟨hb, hbatches⟩ := List.forall_mem_cons.1 hother
      exact (ih hbatches).trans (capturedOf_insertMany (fun _ => hb) store)

/-- An import has the same captured payments, with the same units. -/
structure SameUnits (scope : MerchantScope) (importId : String) (store store' : RecordStore) :
    Prop where
  captured : store'.capturedOf scope importId = store.capturedOf scope importId
  units : ∀ p ∈ store.capturedOf scope importId,
    loadUnit store' scope p.id = loadUnit store scope p.id

/-- The store of an import alone. -/
def ImportBatch.alone (b : ImportBatch) : RecordStore :=
  (insertMany ⟨b.merchantId⟩ b.importId b.records {}).2

/-- **An import that meets no other** has the payments and the units it has alone. -/
theorem sameUnits_alone {b : ImportBatch} {before after : List ImportBatch}
    (hids : DistinctIds (before ++ b :: after)) (hsep : Separated b.owns (before ++ b :: after))
    (himport : ∀ other ∈ before ++ after, other.importId ≠ b.importId) :
    SameUnits ⟨b.merchantId⟩ b.importId b.alone (importBatches (before ++ b :: after) {}) := by
  obtain ⟨harrived, hwithin⟩ := importBatches_within_owns hids hsep
  have halone : (importBatches (before ++ b :: after) {}).within b.owns = b.alone := hwithin
  have hother : ∀ other ∈ before ++ b :: after, other.importId = b.importId → other = b := by
    intro other hother hid
    rcases List.mem_append.1 hother with hother | hother
    · exact absurd hid (himport other (List.mem_append_left _ hother))
    rcases List.mem_cons.1 hother with rfl | hother
    · rfl
    · exact absurd hid (himport other (List.mem_append_right _ hother))
  rw [← halone]
  constructor
  · exact capturedOf_within (List.mem_append_right _ List.mem_cons_self) hother harrived _
  · intro p hp
    have hown := (List.mem_filter.1 (List.mem_of_mem_filter hp)).2
    exact (loadUnit_within (hsep.enclosed harrived) b.merchantId hown).symm

/-! ## What else is written -/

/-- No record of one batch meets one of the other. -/
def ImportBatch.Apart (b b' : ImportBatch) : Prop :=
  b.merchantId = b'.merchantId → ∀ r ∈ b.records, ∀ x ∈ b'.records,
    ¬ r.Meets b.merchantId x ∧ ¬ x.Meets b.merchantId r

/-- A batch stays separated when one is written that it does not meet. -/
theorem Separated.concat {history : List ImportBatch} {b b' : ImportBatch} (hb : b ∈ history)
    (hids : DistinctIds (history ++ [b'])) (hsep : Separated b.owns history) (hapart : b.Apart b') :
    Separated b.owns (history ++ [b']) := by
  obtain ⟨before, after, rfl⟩ := List.append_of_mem hb
  rw [List.append_assoc, List.cons_append] at hids
  have hnot : ∀ c ∈ before ++ (after ++ [b']), ∀ r ∈ c.records, b.owns r.base.id = false := by
    intro c hc r hr
    refine Bool.eq_false_iff.2 fun hown => ?_
    obtain ⟨r', hr', hid⟩ := owns_iff.1 hown
    exact id_ne_of_other hids hc hr hr' hid.symm
  have hnew : ∀ r ∈ b'.records, b.owns r.base.id = false := hnot b'
    (List.mem_append_right _ (List.mem_append_right _ (List.mem_singleton_self _)))
  -- only the batch itself has records of its own
  have hself : ∀ c ∈ before ++ b :: after, ∀ r ∈ c.records, b.owns r.base.id ≠ false → c = b := by
    intro c hc r hr hown
    rcases List.mem_append.1 hc with hc | hc
    · exact absurd (hnot c (List.mem_append_left _ hc) r hr) hown
    rcases List.mem_cons.1 hc with rfl | hc
    · rfl
    · have hmem := List.mem_append_right before (List.mem_append_left [b'] hc)
      exact absurd (hnot c hmem r hr) hown
  intro c hc c' hc' hm r hr x hx hne hmeets
  rcases List.mem_append.1 hc with hold | hlast <;>
    rcases List.mem_append.1 hc' with hold' | hlast'
  · exact hsep c hold c' hold' hm r hr x hx hne hmeets
  · obtain rfl := List.mem_singleton.1 hlast'
    rw [hnew x hx] at hne
    obtain rfl := hself c hold r hr hne
    exact (hapart hm r hr x hx).1 hmeets
  · obtain rfl := List.mem_singleton.1 hlast
    rw [hnew r hr] at hne
    obtain rfl := hself c' hold' x hx hne.symm
    rw [hm] at hmeets
    exact (hapart hm.symm x hx r hr).2 hmeets
  · obtain rfl := List.mem_singleton.1 hlast
    obtain rfl := List.mem_singleton.1 hlast'
    exact hne ((hnew r hr).trans (hnew x hx).symm)

/-- The batch a statement wrote. -/
def writtenBatch : ExecutedRun → Option ImportBatch
  | ⟨_, _, .importing (.insertMany scope importId records), _, _⟩ =>
      some ⟨scope.merchantId, importId, records⟩
  | _ => none

/-- The rules that a batch is written under another import and new ids, and meets no record of the
given one. -/
def besides (history : List ImportBatch) (b : ImportBatch) :
    Rules RunDatabase ImportSurroundings RunStatement RunStatement.Answer RunOperation where
  run _ log _ _ a := ∀ scope importId records,
    a = .importing (.insertMany scope importId records) → importId ≠ b.importId ∧
      DistinctIds (history ++ log.filterMap writtenBatch ++
        [⟨scope.merchantId, importId, records⟩]) ∧
      b.Apart ⟨scope.merchantId, importId, records⟩

/-- The records, as the log made them of the given history. -/
structure Beside (history : List ImportBatch) (b : ImportBatch) (db : RunDatabase)
    (log : List ExecutedRun) : Prop where
  records : db.records = importBatches (history ++ log.filterMap writtenBatch) {}
  distinct : DistinctIds (history ++ log.filterMap writtenBatch)
  other : ∀ c ∈ log.filterMap writtenBatch, c.importId ≠ b.importId
  separated : Separated b.owns history → Separated b.owns (history ++ log.filterMap writtenBatch)

section Beside

variable {orders : ListingOrders} {history : List ImportBatch} {b : ImportBatch}
  {db : RunDatabase} {log : List ExecutedRun}

theorem execRun_written (i : Nat) (ℓ : RunOperation) (a : RunStatement) (ω : ImportSurroundings) :
    (execRun orders ω a db).2.records =
      importBatches (writtenBatch (executedRun orders i ℓ a ω db)).toList db.records := by
  cases a with
  | importing a =>
      cases a with
      | insertMany scope importId records => rfl
      | _ =>
          rcases execRun_records orders ω db (.importing _) with
            hsame | ⟨scope, importId, records, ha, -⟩
          · exact hsame
          · cases ha
  | _ =>
      rcases execRun_records orders ω db _ with hsame | ⟨scope, importId, records, ha, -⟩
      · exact hsame
      · cases ha

theorem written_executed {i : Nat} {ℓ : RunOperation} {a : RunStatement} {ω : ImportSurroundings}
    {c : ImportBatch} (h : writtenBatch (executedRun orders i ℓ a ω db) = some c) :
    ∃ scope importId records, a = .importing (.insertMany scope importId records) ∧
      c = ⟨scope.merchantId, importId, records⟩ := by
  cases a with
  | importing a =>
      cases a with
      | insertMany scope importId records =>
          cases h
          exact ⟨scope, importId, records, rfl, rfl⟩
      | _ => cases h
  | _ => cases h

theorem Beside.step (h : Beside history b db log) (hb : b ∈ history) (i : Nat) (ℓ : RunOperation)
    {a : RunStatement} (hrun : (besides history b).run db log i ℓ a) (ω : ImportSurroundings) :
    Beside history b (execRun orders ω a db).2 (log ++ [executedRun orders i ℓ a ω db]) := by
  have hrecords : (execRun orders ω a db).2.records = _ := execRun_written i ℓ a ω
  rw [h.records, ← importBatches_append, List.append_assoc] at hrecords
  cases hwritten : writtenBatch (executedRun orders i ℓ a ω db) with
  | none =>
      have hlog : (log ++ [executedRun orders i ℓ a ω db]).filterMap writtenBatch =
          log.filterMap writtenBatch := by
        rw [List.filterMap_append, List.filterMap_cons_none hwritten]
        exact List.append_nil _
      rw [hwritten, Option.toList_none, List.append_nil] at hrecords
      constructor <;> rw [hlog]
      · exact hrecords
      · exact h.distinct
      · exact h.other
      · exact h.separated
  | some c =>
      obtain ⟨scope, importId, records, ha, hc⟩ := written_executed hwritten
      obtain ⟨hother, hdistinct, hapart⟩ := hrun scope importId records ha
      rw [← hc] at hdistinct hapart
      have hlog : (log ++ [executedRun orders i ℓ a ω db]).filterMap writtenBatch =
          log.filterMap writtenBatch ++ [c] := by
        rw [List.filterMap_append, List.filterMap_cons_some hwritten]
        rfl
      rw [hwritten, Option.toList_some] at hrecords
      constructor <;> rw [hlog]
      · exact hrecords
      · rwa [← List.append_assoc]
      · refine List.forall_mem_append.2 ⟨h.other, List.forall_mem_singleton.2 ?_⟩
        rw [hc]
        exact hother
      · intro hsep
        rw [← List.append_assoc]
        exact (h.separated hsep).concat (List.mem_append_left _ hb) hdistinct hapart

theorem beside_init (hids : DistinctIds history)
    (hrecords : db.records = importBatches history {}) : Beside history b db [] := by
  constructor <;> rw [List.filterMap_nil]
  · rw [List.append_nil]
    exact hrecords
  · rwa [List.append_nil]
  · exact List.forall_mem_nil _
  · rw [List.append_nil]
    exact id

/-- A separated import keeps the units it has alone. -/
theorem Beside.sameUnits {before after : List ImportBatch}
    (h : Beside (before ++ b :: after) b db log) (hsep : Separated b.owns (before ++ b :: after))
    (himport : ∀ other ∈ before ++ after, other.importId ≠ b.importId) :
    SameUnits ⟨b.merchantId⟩ b.importId b.alone db.records := by
  have hsep' := h.separated hsep
  have hdistinct := h.distinct
  rw [h.records]
  rw [List.append_assoc, List.cons_append] at hsep' hdistinct ⊢
  refine sameUnits_alone hdistinct hsep' ?_
  rw [← List.append_assoc]
  exact List.forall_mem_append.2 ⟨himport, h.other⟩

/-- An import without captured payments stays without. -/
theorem Beside.sameUnits_of_none (h : Beside history b db log) {scope : MerchantScope}
    (hnone : (importBatches history {}).capturedOf scope b.importId = []) :
    SameUnits scope b.importId (importBatches history {}) db.records := by
  constructor
  · rw [h.records, importBatches_append]
    exact capturedOf_importBatches _ h.other
  · rw [hnone]
    exact List.forall_mem_nil _

end Beside

/-! ## What a run reads -/

/-- What has been read of an import is what a store has of it. -/
structure ReadOf (orders : ListingOrders) (scope : MerchantScope) (importId : String)
    (store : RecordStore) (log : List ExecutedRun) : Prop where
  listed : ∀ e ∈ log, ∀ ids, listedPayments e = some (scope, some importId, ids) →
    ids = (orders.forImport.sort (store.capturedOf scope importId)).map (·.id)
  loaded : ∀ e ∈ log, ∀ p ∈ store.capturedOf scope importId, ∀ unit,
    loadedUnit e = some (scope, p.id, unit) → unit = loadUnit store scope p.id

theorem ReadOf.step {orders : ListingOrders} {scope : MerchantScope} {importId : String}
    {store : RecordStore} {db : RunDatabase} {log : List ExecutedRun}
    (h : ReadOf orders scope importId store log) (hsame : SameUnits scope importId store db.records)
    (i : Nat) (ℓ : RunOperation) (a : RunStatement) (ω : ImportSurroundings) :
    ReadOf orders scope importId store (log ++ [executedRun orders i ℓ a ω db]) where
  listed := by
    refine List.forall_mem_append.2 ⟨h.listed, List.forall_mem_singleton.2 fun ids hids => ?_⟩
    rw [← hsame.captured]
    exact listed_executed hids
  loaded := by
    refine List.forall_mem_append.2 ⟨h.loaded, List.forall_mem_singleton.2 ?_⟩
    intro p hp unit hunit
    rw [← hsame.units p hp]
    exact loaded_executed hunit

/-- **What the runs read of an import** while others are written beside it. -/
theorem readOf_of_reachable {orders : ListingOrders} {history : List ImportBatch} {b : ImportBatch}
    {store : RecordStore} {db₀ : RunDatabase} {c : RunConfig} (hb : b ∈ history)
    (hids : DistinctIds history) (hrecords : db₀.records = importBatches history {})
    (hsame : ∀ {db log}, Beside history b db log →
      SameUnits ⟨b.merchantId⟩ b.importId store db.records)
    (h : (runSystem orders).Reachable (besides history b).Allows (Config.init db₀) c) :
    Beside history b c.state c.log ∧ ReadOf orders ⟨b.merchantId⟩ b.importId store c.log := by
  refine inv_of_actions (I := fun db log => Beside history b db log ∧
    ReadOf orders ⟨b.merchantId⟩ b.importId store log) ?_ ?_ h
  · exact ⟨beside_init hids hrecords, ⟨List.forall_mem_nil _, List.forall_mem_nil _⟩⟩
  · rintro db log i ℓ a ω ⟨hbeside, hread⟩ hrun -
    exact ⟨hbeside.step hb i ℓ hrun ω, hread.step (hsame hbeside) i ℓ a ω⟩

/-! ## The cases of a run -/

/-- The cases of a run. -/
def RunDatabase.casesOfRun (db : RunDatabase) (runId : String) : List CaseRow :=
  db.cases.filter fun row => row.runId = some runId

theorem mem_casesOfRun {db : RunDatabase} {runId : String} {row : CaseRow} :
    row ∈ db.casesOfRun runId ↔ row ∈ db.cases ∧ row.runId = some runId := by
  rw [RunDatabase.casesOfRun, List.mem_filter, decide_eq_true_iff]

section Slice

variable {orders : ListingOrders} {scope : MerchantScope} {importId : String} {store : RecordStore}
  {maxPayments : Nat}

theorem exceptionsOf_eq_nil (hnone : store.capturedOf scope importId = []) :
    exceptionsOf orders scope store importId maxPayments = [] := by
  unfold exceptionsOf
  rw [hnone, (orders.forImport.perm []).eq_nil, List.map_nil, List.take_nil, List.filter_nil]

theorem exceptionsOf_singleton {p : PaymentRow} {unit : ReconciliationUnit}
    (hmax : 0 < maxPayments) (hone : store.capturedOf scope importId = [p])
    (hunit : loadUnit store scope p.id = some unit) :
    exceptionsOf orders scope store importId maxPayments =
      if (reconcileUnit unit).outcome = .exception then [p.id] else [] := by
  unfold exceptionsOf
  rw [hone, List.perm_singleton.1 (orders.forImport.perm [p]), List.map_singleton,
    List.take_of_length_le hmax, List.filter_singleton, hunit, Option.any_some]
  exact Bool.cond_decide _ _ _

end Slice

section Completed

variable {orders : ListingOrders} {db₀ : RunDatabase} (hdb₀ : db₀.WellFormed)
  {G : Rules RunDatabase ImportSurroundings RunStatement RunStatement.Answer RunOperation}
  {c : RunConfig} (h : (runSystem orders).Reachable G.Allows (Config.init db₀) c)
  {ctx : RequestContext} {importId : String} {store : RecordStore}
  (hread : ReadOf orders (scopeOf ctx) importId store c.log)
  {i : Nat} {ℓ : RunOperation} {summary : ReconciliationRunSummary}
  (hret : c.returned i = some (ℓ, .completed summary)) {maxPayments : Nat}
  (hcall : ℓ.call = some (ctx, ⟨some importId, maxPayments⟩))
include hdb₀ h hread hret hcall

/-- A case of the run is of an exception of its slice. -/
theorem exception_of_case {row : CaseRow} (hrow : row ∈ c.state.casesOfRun summary.id) :
    ∃ p ∈ exceptionsOf orders (scopeOf ctx) store importId maxPayments, row.paymentId = some p := by
  obtain ⟨hmem, hrun⟩ := mem_casesOfRun.1 hrow
  obtain ⟨id, unit, hpayment, hloaded, hout⟩ := case_of_completed hdb₀ h hret hcall hmem hrun
  obtain ⟨ids, ⟨e, he, -, hids⟩, hslice⟩ := loaded_of_returned h hret hcall hloaded
  rw [hread.listed e he ids hids] at hslice
  obtain ⟨p, hp, rfl⟩ := List.mem_map.1 (List.mem_of_mem_take hslice)
  obtain ⟨e', he', -, hunit⟩ := hloaded
  have hcaptured := (orders.forImport.perm _).mem_iff.1 hp
  refine ⟨p.id, List.mem_filter.2 ⟨hslice, ?_⟩, hpayment⟩
  rw [← hread.loaded e' he' p hcaptured _ hunit]
  exact decide_eq_true hout

/-- An exception of the slice has a case. -/
theorem case_of_slice {p : PaymentId}
    (hp : p ∈ exceptionsOf orders (scopeOf ctx) store importId maxPayments) :
    ∃ row ∈ c.state.casesOfRun summary.id, row.paymentId = some p := by
  obtain ⟨row, hrow, rfl⟩ := captured_of_exception hp
  obtain ⟨hslice, hexception⟩ := List.mem_filter.1 hp
  obtain ⟨unit, hunit, hout⟩ := (Option.any_eq_true _ _).1 hexception
  obtain ⟨run, ids, hid, hprogress⟩ := completedRun_of_returned h hret hcall
  obtain ⟨e, he, -, hids⟩ := hprogress.listed
  rw [← hread.listed e he ids hids] at hslice
  have hloaded : ∀ found, Did i c.log loadedUnit (scopeOf ctx, row.id, found) →
      found = some unit := by
    rintro found ⟨e, he, -, hfound⟩
    exact (hread.loaded e he row hrow found hfound).trans hunit
  obtain ⟨case, hcase, hrun, hpayment⟩ := hprogress.case_of_exception
    (history_of_reachable hdb₀ h) hslice hloaded (of_decide_eq_true hout)
  exact ⟨case, mem_casesOfRun.2 ⟨hcase, hid ▸ hrun⟩, hpayment⟩

/-- **The cases of a completed run** are the exceptions of its slice, each once. -/
theorem casesOfRun_perm (hstore : WellFormed store) :
    ((c.state.casesOfRun summary.id).map (·.paymentId)).Perm
      ((exceptionsOf orders (scopeOf ctx) store importId maxPayments).map some) := by
  have hcases : ((c.state.casesOfRun summary.id).map (·.paymentId)).Nodup := by
    have hsub : ((c.state.casesOfRun summary.id).filterMap CaseRow.runPayment).Sublist
        (c.state.cases.filterMap CaseRow.runPayment) := List.filter_sublist.filterMap _
    have hkeys := (history_of_reachable hdb₀ h).wellFormed.runPayment.sublist hsub
    refine List.pairwise_map.2 ((List.pairwise_filterMap.1 hkeys).imp_of_mem ?_)
    intro row row' hrow hrow' hne heq
    obtain ⟨p, -, hp⟩ := exception_of_case hdb₀ h hread hret hcall hrow
    have hkey : ∀ r ∈ c.state.casesOfRun summary.id, r.paymentId = some p →
        r.runPayment = some (summary.id, p) := by
      intro r hr hrp
      rw [CaseRow.runPayment, (mem_casesOfRun.1 hr).2, hrp]
      rfl
    exact hne _ (hkey row hrow hp) _ (hkey row' hrow' (heq ▸ hp)) rfl
  have hexceptions : ((exceptionsOf orders (scopeOf ctx) store importId maxPayments).map
      some).Nodup := by
    have hpk : (store.payments.map (·.id)).Nodup := hstore.payments.pk
    have hcaptured : ((store.capturedOf (scopeOf ctx) importId).map (·.id)).Nodup :=
      hpk.sublist (List.filter_sublist.map _)
    have hsorted := (((orders.forImport.perm _).map (·.id)).nodup_iff).2 hcaptured
    exact ((hsorted.sublist (List.take_sublist _ _)).filter _).map (Option.some_injective _)
  refine (List.perm_ext_iff_of_nodup hcases hexceptions).2 fun id => ?_
  constructor
  · intro hid
    obtain ⟨row, hrow, rfl⟩ := List.mem_map.1 hid
    obtain ⟨p, hp, hpayment⟩ := exception_of_case hdb₀ h hread hret hcall hrow
    exact List.mem_map.2 ⟨p, hp, hpayment.symm⟩
  · intro hid
    obtain ⟨p, hp, rfl⟩ := List.mem_map.1 hid
    obtain ⟨row, hrow, hpayment⟩ := case_of_slice hdb₀ h hread hret hcall hp
    exact List.mem_map.2 ⟨row, hrow, hpayment⟩

end Completed

/-! ## Runs are isolated -/

/-- **A run beside other imports.**  However the calls interleave, and whatever is written that
meets no record of the import, a completed run leaves a case for exactly the payments that would be
exceptions of its slice if the import were alone. -/
theorem run_isolated {orders : ListingOrders} {before after : List ImportBatch} {b : ImportBatch}
    (hids : DistinctIds (before ++ b :: after)) (hsep : Separated b.owns (before ++ b :: after))
    (himport : ∀ other ∈ before ++ after, other.importId ≠ b.importId) {db₀ : RunDatabase}
    (hdb₀ : db₀.WellFormed) (hrecords : db₀.records = importBatches (before ++ b :: after) {})
    {c : RunConfig} (h : (runSystem orders).Reachable (besides (before ++ b :: after) b).Allows
      (Config.init db₀) c)
    {i : Nat} {ℓ : RunOperation} {summary : ReconciliationRunSummary}
    (hret : c.returned i = some (ℓ, .completed summary)) {ctx : RequestContext}
    {maxPayments : Nat} (hcall : ℓ.call = some (ctx, ⟨some b.importId, maxPayments⟩))
    (hscope : scopeOf ctx = ⟨b.merchantId⟩) :
    ((c.state.casesOfRun summary.id).map (·.paymentId)).Perm
      ((exceptionsOf orders ⟨b.merchantId⟩ b.alone b.importId maxPayments).map some) := by
  obtain ⟨-, hread⟩ := readOf_of_reachable (List.mem_append_right _ List.mem_cons_self) hids
    hrecords (fun hbeside => hbeside.sameUnits hsep himport) h
  rw [← hscope] at hread ⊢
  exact casesOfRun_perm hdb₀ h hread hret hcall (insertMany_wellFormed wellFormed_empty _ _ _)

/-- A run over a stored import completes, where no case is in its way and nothing is written. -/
theorem exists_completed_beside (orders : ListingOrders) (db : RunDatabase) (hcases : db.cases = [])
    (importId : String) (himport : db.imports.any (fun r => r.id = importId) = true)
    (ctx : RequestContext) (maxPayments : Nat) (history : List ImportBatch) (b : ImportBatch) :
    ∃ c summary, (runSystem orders).Reachable (besides history b).Allows (Config.init db) c ∧
      c.returned 0 =
        some (.runReconciliation ctx ⟨some importId, maxPayments⟩, .completed summary) := by
  have hwp : Wp (chosen (execRun orders) freshSurroundings)
      (fun reply db' => (∃ summary, reply = .completed summary) ∧ db'.records = db.records)
      (RunOperation.runReconciliation ctx ⟨some importId, maxPayments⟩).program db := by
    refine wp_then (wp_runReconciliation hcases himport maxPayments) ?_
    rintro _ _ ⟨⟨summary, rfl⟩, hrecords⟩
    exact ⟨⟨summary, rfl⟩, hrecords⟩
  obtain ⟨c, summary, hreach, hret, -⟩ := exists_completed_call (G := besides history b) rfl
    (fun _ _ => trivial)
    (by
      rintro a ha s log scope importId records rfl
      exact ha.elim) hwp
  exact ⟨c, summary, hreach, hret⟩

/-- A merchant's import of the other payment, beside the import of the sample payment. -/
theorem run_isolated_neighbour :
    ∃ c : RunConfig, ∃ summary,
      c.returned 0 = some (.runReconciliation runOperator ⟨some "import-1", 100⟩,
        .completed summary) ∧
      (c.state.casesOfRun summary.id).map (·.paymentId) = [some "pay-2"] := by
  let b : ImportBatch := ⟨"m-1", "import-1", neighbourRecords⟩
  let other : ImportBatch := ⟨"m-1", "import-2", sampleImport⟩
  obtain ⟨records, hrecords⟩ : ∃ records, records = importBatches ([] ++ b :: [other]) {} :=
    ⟨_, rfl⟩
  let db : RunDatabase := { imports := [sampleImportRow], records := records }
  have hwell : WellFormed records := by
    rw [hrecords]
    exact importBatches_wellFormed _ wellFormed_empty
  have hdb : db.WellFormed := { RunDatabase.wellFormed_of_records hwell with }
  obtain ⟨c, summary, hreach, hret⟩ := exists_completed_beside storedOrders db rfl
    "import-1" rfl runOperator 100 ([] ++ b :: [other]) b
  have hcases := run_isolated (by decide) (by decide) (by decide) hdb hrecords hreach hret rfl rfl
  have hexceptions : exceptionsOf storedOrders ⟨"m-1"⟩ b.alone "import-1" 100 = ["pay-2"] := by
    decide +kernel
  rw [hexceptions] at hcases
  exact ⟨c, summary, hret, List.perm_singleton.1 hcases⟩

end SettlementOps
