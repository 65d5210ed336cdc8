import Mathlib.Data.List.Flatten
import Mathlib.Logic.Equiv.Fintype
import SettlementOps.Import.Normalizer
import SettlementOps.Store.Histories

/-!
# Imports of other merchants

What the store holds for a merchant, and what the merchant's imports are told, is decided by
the merchant's own batches: a merchant has a store of its own inside the shared one.

* `FinancialRecord.anonymous` — what a record is but for what is generated at its ingestion.
* `ownInsert`, `ownBatch`, `ownHistory` — the merchant's own store.
* `importBatches_view` — the shared store is, for each merchant, the merchant's own.
* `tenants_noninterference` — two histories with the same batches of a merchant.
-/

namespace SettlementOps

open Relational

/-! ## Records up to what is generated -/

/-- A record with its generated id replaced, and without what else is generated or comes with
the request context: the scope and the time of ingestion. -/
def FinancialRecord.anonymous (id : String) (r : FinancialRecord) : FinancialRecord :=
  r.withBase ⟨id, ⟨""⟩, { r.base.lineage with ingestedAt := ⟨0⟩ }⟩

/-- What a record says, whatever id was generated for it. -/
def FinancialRecord.content (r : FinancialRecord) : FinancialRecord := r.anonymous ""

@[simp] theorem anonymous_kind (id : String) (r : FinancialRecord) :
    (r.anonymous id).kind = r.kind :=
  withBase_kind _ _

theorem anonymous_content (id : String) (r : FinancialRecord) :
    r.content.anonymous id = r.anonymous id := by
  cases r <;> rfl

/-- The row of a record under another id is the row of the record with that id. -/
theorem row_renamed (m : MerchantId) (importId importId' : String) (links : Links)
    (f : String → String) (r : FinancialRecord) :
    (r.row m importId links).map (·.renamed f) =
      ((r.anonymous (f r.base.id)).row m importId' fun k n => (links k n).map f).map
        (·.renamed id) := by
  have hbind (o : Option String) (k : RecordKind) :
      (o.bind (links k)).map f = o.bind fun n => (links k n).map f := by
    rw [Option.map_bind]
    rfl
  cases r <;>
    simp only [FinancialRecord.row, FinancialRecord.anonymous, FinancialRecord.withBase,
      Option.map_some, Option.map_map, Function.comp_def, StoredRow.renamed, OrderRow.renamed,
      PaymentRow.renamed, FeeLineRow.renamed, TaxLineRow.renamed, RefundRow.renamed,
      AdjustmentRow.renamed, SettlementRow.renamed, SettlementLineRow.renamed,
      BankCreditRow.renamed, LedgerEntryRow.renamed, hbind, Option.map_id_fun, id] <;>
    rfl

/-! ## The merchant's own store -/

section Own

variable (m : MerchantId)

/-- Insert one record: the row joins the merchant's rows unless its identity is there. -/
def ownInsert (own : RecordStore) (r : FinancialRecord) : Nat × RecordStore :=
  match (r.row m "" (own.links m)).map (·.renamed id) with
  | none => (0, own)
  | some row =>
      if (own.rowsOf row.kind).any (fun x => x.key = row.key) then (0, own) else (1, own.push row)

def ownStep (st : Nat × RecordStore) (r : FinancialRecord) : Nat × RecordStore :=
  ((st.1 + (ownInsert m st.2 r).1, (ownInsert m st.2 r).2))

/-- The number of rows a batch adds and the store. -/
def ownBatch (own : RecordStore) (records : List FinancialRecord) : Nat × RecordStore :=
  (inInsertOrder records).foldl (ownStep m) (0, own)

/-- What the merchant's imports are told, and the store. -/
def ownHistory : List (List FinancialRecord) → RecordStore → List InsertCounts × RecordStore
  | [], own => ([], own)
  | records :: rest, own =>
      let out := ownBatch m own records
      let tail := ownHistory rest out.2
      (⟨out.1, records.length - out.1⟩ :: tail.1, tail.2)

end Own

/-- What the imports of a merchant are told. -/
def reportsTo (m : MerchantId) : List ImportBatch → RecordStore → List (Option InsertCounts)
  | [], _ => []
  | b :: rest, store =>
      let out := insertMany ⟨b.merchantId⟩ b.importId b.records store
      if b.merchantId = m then out.1 :: reportsTo m rest out.2 else reportsTo m rest out.2

/-! ## The shared store and the merchant's own -/

section View

variable {m : MerchantId} {f : String → String} {store store' : RecordStore}

/-- A row of the merchant joins the merchant's rows. -/
theorem push_view_own {row : StoredRow} (hm : row.base.merchantId = m) :
    (store.push row).view m f = (store.view m f).push (row.renamed f) := by
  refine RecordStore.ext_rowsOf fun k => ?_
  rw [rowsOf_view, RecordStore.rowsOf_push, RecordStore.rowsOf_push, renamed_kind, rowsOf_view]
  split
  · rw [List.filter_append, List.map_append]
    simp [hm]
  · rfl

/-- A row of another merchant does not. -/
theorem push_view_other {row : StoredRow} (hm : row.base.merchantId ≠ m) :
    (store.push row).view m f = store.view m f := by
  refine RecordStore.ext_rowsOf fun k => ?_
  rw [rowsOf_view, RecordStore.rowsOf_push, rowsOf_view]
  split
  · rw [List.filter_append]
    simp [hm]
  · rfl

/-- A reference of the merchant finds the merchant's row. -/
theorem links_view (store : RecordStore) (m : MerchantId) (f : String → String) (k : RecordKind)
    (n : String) : (store.view m f).links m k n = (store.links m k n).map f := by
  unfold RecordStore.links
  rw [rowsOf_view, List.find?_map, List.find?_filter, Option.map_map, Option.map_map]
  simp only [Function.comp_def, renamed_id, renamed_merchantId, renamed_sourceRecordId,
    decide_eq_true_eq, and_self_left]

/-- **An insert of the merchant** is one into the merchant's own store. -/
theorem insertRecord_view {importId : String} {r : FinancialRecord} {n : Nat}
    (h : insertRecord m importId r store = some (n, store')) :
    ownInsert m (store.view m f) (r.anonymous (f r.base.id)) = (n, store'.view m f) := by
  have hrow : ((r.anonymous (f r.base.id)).row m "" ((store.view m f).links m)).map (·.renamed id) =
      (r.row m importId (store.links m)).map (·.renamed f) := by
    rw [row_renamed m importId "" (store.links m) f r]
    congr 2
    funext k n
    exact links_view store m f k n
  unfold ownInsert
  rw [hrow]
  rcases insertRecord_cases h with ⟨rfl, rfl, hkey⟩ | ⟨rfl, row, hr, rfl, hnew⟩
  · cases hr : r.row m importId (store'.links m) with
    | none => rfl
    | some row =>
        obtain ⟨x, hx, hxkey⟩ := hkey row hr
        have hxm : x.base.merchantId = m := by
          rw [← x.key_merchantId, hxkey, row.key_merchantId, row_base hr]
          rfl
        dsimp only [Option.map_some]
        rw [if_pos]
        refine List.any_eq_true.2 ⟨x.renamed f, ?_, by simp [hxkey]⟩
        rw [renamed_kind, row_kind hr, rowsOf_view]
        exact List.mem_map_of_mem (List.mem_filter.2 ⟨hx, decide_eq_true hxm⟩)
  · have hm : row.base.merchantId = m := by
      rw [row_base hr]
      rfl
    rw [hr]
    dsimp only [Option.map_some]
    rw [if_neg, push_view_own hm]
    simp only [List.any_eq_true, decide_eq_true_eq, not_exists, not_and, renamed_kind,
      renamed_key, rowsOf_view, row_kind hr]
    intro x hx hxkey
    obtain ⟨y, hy, rfl⟩ := List.mem_map.1 hx
    rw [renamed_key] at hxkey
    exact (hnew y (List.mem_filter.1 hy).1).1 hxkey

/-- An insert of another merchant changes nothing. -/
theorem insertRecord_view_other {m' : MerchantId} (hm : m' ≠ m) {importId : String}
    {r : FinancialRecord} {n : Nat} (h : insertRecord m' importId r store = some (n, store')) :
    store'.view m f = store.view m f := by
  rcases insertRecord_cases h with ⟨-, rfl, -⟩ | ⟨-, row, hr, rfl, -⟩
  · rfl
  · refine push_view_other ?_
    rw [row_base hr]
    exact hm

theorem foldlM_view {importId : String} (records : List FinancialRecord) :
    ∀ {n n' : Nat} {store store' : RecordStore},
      records.foldlM (insertStep m importId) (n, store) = some (n', store') →
      (records.map fun r => r.anonymous (f r.base.id)).foldl (ownStep m) (n, store.view m f) =
        (n', store'.view m f) := by
  induction records with
  | nil =>
      intro n n' store store' h
      simp only [List.foldlM_nil] at h
      cases h
      rfl
  | cons r records ih =>
      intro n n' store store' h
      rw [List.foldlM_cons] at h
      obtain ⟨⟨n₁, store₁⟩, hstep, hfold⟩ := Option.bind_eq_some_iff.1 h
      obtain ⟨⟨_, _⟩, hins, heq⟩ := Option.map_eq_some_iff.1 hstep
      cases heq
      rw [List.map_cons, List.foldl_cons, ownStep, insertRecord_view hins]
      exact ih hfold

theorem foldlM_view_other {m' : MerchantId} (hm : m' ≠ m) {importId : String}
    (records : List FinancialRecord) :
    ∀ {n n' : Nat} {store store' : RecordStore},
      records.foldlM (insertStep m' importId) (n, store) = some (n', store') →
      store'.view m f = store.view m f := by
  induction records with
  | nil =>
      intro n n' store store' h
      simp only [List.foldlM_nil] at h
      cases h
      rfl
  | cons r records ih =>
      intro n n' store store' h
      rw [List.foldlM_cons] at h
      obtain ⟨⟨n₁, store₁⟩, hstep, hfold⟩ := Option.bind_eq_some_iff.1 h
      obtain ⟨⟨_, _⟩, hins, heq⟩ := Option.map_eq_some_iff.1 hstep
      cases heq
      rw [ih hfold, insertRecord_view_other hm hins]

theorem inInsertOrder_map {g : FinancialRecord → FinancialRecord}
    (hg : ∀ r, (g r).kind = r.kind) (records : List FinancialRecord) :
    inInsertOrder (records.map g) = (inInsertOrder records).map g := by
  simp only [inInsertOrder, List.map_flatMap, List.filter_map, Function.comp_def, hg]

/-- **A batch of the merchant** is one of the merchant's own store. -/
theorem insertMany_view {importId : String} {records : List FinancialRecord}
    {counts : InsertCounts}
    (h : insertMany ⟨m⟩ importId records store = (some counts, store')) :
    ∃ n : Nat, counts = ⟨n, records.length - n⟩ ∧
      ownBatch m (store.view m f) (records.map fun r => r.anonymous (f r.base.id)) =
        (n, store'.view m f) := by
  obtain ⟨n, hfold, hcounts⟩ := insertMany_foldlM h
  refine ⟨n, hcounts, ?_⟩
  unfold ownBatch
  rw [inInsertOrder_map fun r => anonymous_kind _ r]
  exact foldlM_view _ hfold

theorem insertMany_view_other {m' : MerchantId} (hm : m' ≠ m) {importId : String}
    {records : List FinancialRecord} {counts : InsertCounts}
    (h : insertMany ⟨m'⟩ importId records store = (some counts, store')) :
    store'.view m f = store.view m f := by
  obtain ⟨n, hfold, -⟩ := insertMany_foldlM h
  exact foldlM_view_other hm _ hfold

end View

/-- The merchant's batches of a history, under other ids. -/
def ownBatches (m : MerchantId) (f : String → String) (history : List ImportBatch) :
    List (List FinancialRecord) :=
  (history.filter fun b => b.merchantId = m).map fun b =>
    b.records.map fun r => r.anonymous (f r.base.id)

/-- **The shared store is, for each merchant, the merchant's own.** -/
theorem importBatches_view (m : MerchantId) (f : String → String) (history : List ImportBatch) :
    ∀ {store : RecordStore}, DistinctIds history → UnusedIds store history →
      ∃ counts, reportsTo m history store = counts.map some ∧
        ownHistory m (ownBatches m f history) (store.view m f) =
          (counts, (importBatches history store).view m f) := by
  induction history with
  | nil => exact fun _ _ => ⟨[], rfl, rfl⟩
  | cons b history ih =>
      intro store hids hunused
      obtain ⟨counts, store', hins⟩ :=
        insertMany_commits (hids.freshIds hunused) ⟨b.merchantId⟩ b.importId
      obtain ⟨rest, hreports, hown⟩ := ih hids.tail (hunused.insertMany hids hins)
      have hstore : importBatches (b :: history) store = importBatches history store' := by
        unfold importBatches
        rw [List.foldl_cons, hins]
      rw [hstore, reportsTo, hins]
      by_cases hm : b.merchantId = m
      · subst hm
        obtain ⟨n, rfl, hbatch⟩ := insertMany_view (f := f) hins
        refine ⟨_ :: rest, by rw [if_pos rfl, hreports]; rfl, ?_⟩
        rw [ownBatches, List.filter_cons, if_pos (by simp), List.map_cons, ownHistory, hbatch,
          ← ownBatches, hown, List.length_map]
      · refine ⟨rest, by rw [if_neg hm, hreports], ?_⟩
        rw [ownBatches, List.filter_cons, if_neg (by simpa using hm), ← ownBatches,
          ← insertMany_view_other hm hins, hown]

/-! ## Two histories -/

/-- The merchant's batches of a history, up to what is generated. -/
def ownContents (m : MerchantId) (history : List ImportBatch) : List (List FinancialRecord) :=
  (history.filter fun b => b.merchantId = m).map fun b => b.records.map (·.content)

/-- The ids generated for the merchant's records. -/
def ownIds (m : MerchantId) (history : List ImportBatch) : List String :=
  ((history.filter fun b => b.merchantId = m).flatMap (·.records)).map (·.base.id)

theorem DistinctIds.ownIds {history : List ImportBatch} (h : DistinctIds history)
    (m : MerchantId) : (ownIds m history).Nodup :=
  h.sublist ((List.filter_sublist.flatMap _).map _)

/-- Two lists of distinct values of the same length are renamings of each other. -/
theorem exists_perm_map_eq {α : Type} {xs ys : List α} (hx : xs.Nodup) (hy : ys.Nodup)
    (hlen : xs.length = ys.length) : ∃ f : Equiv.Perm α, xs.map f = ys := by
  obtain ⟨f, hf⟩ := Equiv.Perm.exists_extending_pair (fun i : Fin xs.length => xs.get i)
    (fun i => ys.get (i.cast hlen)) (List.nodup_iff_injective_get.1 hx)
    ((List.nodup_iff_injective_get.1 hy).comp (Fin.cast_injective hlen))
  refine ⟨f, List.ext_get (by simp [hlen]) fun i hi hi' => ?_⟩
  simpa using hf ⟨i, by simpa using hi⟩

/-- Batches with the same contents whose ids correspond are the same up to the ids. -/
theorem anonymous_eq {f : String → String} :
    ∀ {xs ys : List FinancialRecord}, xs.map (·.content) = ys.map (·.content) →
      xs.map (fun r => f r.base.id) = ys.map (fun r => r.base.id) →
      xs.map (fun r => r.anonymous (f r.base.id)) = ys.map fun r => r.anonymous r.base.id := by
  intro xs ys hcontent hid
  have hzip (zs : List FinancialRecord) (g : FinancialRecord → String) :
      zs.map (fun r => r.anonymous (g r)) =
        List.zipWith (fun c id => c.anonymous id) (zs.map (·.content)) (zs.map g) := by
    rw [List.zipWith_map, List.zipWith_self]
    simp only [anonymous_content]
  rw [hzip xs, hzip ys, hcontent, hid]

theorem batches_anonymous_eq {f : String → String} :
    ∀ {xs ys : List (List FinancialRecord)},
      xs.map (·.map (·.content)) = ys.map (·.map (·.content)) →
      xs.flatten.map (fun r => f r.base.id) = ys.flatten.map (fun r => r.base.id) →
      xs.map (·.map fun r => r.anonymous (f r.base.id)) =
        ys.map (·.map fun r => r.anonymous r.base.id) := by
  intro xs
  induction xs with
  | nil =>
      intro ys hcontent _
      rw [List.map_nil, eq_comm, List.map_eq_nil_iff] at hcontent
      subst hcontent
      rfl
  | cons x xs ih =>
      intro ys hcontent hid
      cases ys with
      | nil => cases hcontent
      | cons y ys =>
          rw [List.map_cons, List.map_cons, List.cons.injEq] at hcontent
          have hlen : x.length = y.length := by
            simpa using congrArg List.length hcontent.1
          rw [List.flatten_cons, List.flatten_cons, List.map_append, List.map_append] at hid
          obtain ⟨hx, hxs⟩ := List.append_inj hid (by simp [hlen])
          rw [List.map_cons, List.map_cons, anonymous_eq hcontent.1 hx, ih hcontent.2 hxs]

/-- **Noninterference.**  In two histories with the same batches of a merchant in the same
order, whatever else they contain, the merchant's imports are told the same, and the units of
the merchant's payments are the same up to the ids generated for the merchant's records. -/
theorem tenants_noninterference (m : MerchantId) (history₁ history₂ : List ImportBatch)
    (hids₁ : DistinctIds history₁) (hids₂ : DistinctIds history₂)
    (hsame : ownContents m history₁ = ownContents m history₂) :
    reportsTo m history₁ {} = reportsTo m history₂ {} ∧
      ∃ f : Equiv.Perm String, (ownIds m history₁).map f = ownIds m history₂ ∧
        ∀ paymentId, loadUnit (importBatches history₂ {}) ⟨m⟩ (f paymentId) =
          (loadUnit (importBatches history₁ {}) ⟨m⟩ paymentId).map (·.renamed f) := by
  have hcontent : ((history₁.filter fun b => b.merchantId = m).map (·.records)).map
        (·.map (·.content)) =
      ((history₂.filter fun b => b.merchantId = m).map (·.records)).map (·.map (·.content)) := by
    rw [List.map_map, List.map_map]
    exact hsame
  have hlen : (ownIds m history₁).length = (ownIds m history₂).length := by
    have hflat := congrArg (fun contents => contents.flatten.length) hcontent
    simpa only [ownIds, List.flatMap_def, List.length_map, ← List.map_flatten] using hflat
  obtain ⟨f, hf⟩ := exists_perm_map_eq (hids₁.ownIds m) (hids₂.ownIds m) hlen
  have hbatches : ownBatches m f history₁ = ownBatches m id history₂ := by
    rw [ownIds, ownIds, List.map_map, List.flatMap_def, List.flatMap_def] at hf
    have hanonymous := batches_anonymous_eq hcontent hf
    rw [List.map_map, List.map_map] at hanonymous
    exact hanonymous
  obtain ⟨counts₁, hreports₁, hview₁⟩ :=
    importBatches_view m f history₁ hids₁ (unusedIds_empty history₁)
  obtain ⟨counts₂, hreports₂, hview₂⟩ :=
    importBatches_view m id history₂ hids₂ (unusedIds_empty history₂)
  have hempty : RecordStore.view {} m f = RecordStore.view {} m id := rfl
  rw [hbatches, hempty, hview₂, Prod.mk.injEq] at hview₁
  obtain ⟨rfl, hview⟩ := hview₁
  refine ⟨hreports₁.trans hreports₂.symm, f, hf, fun paymentId => ?_⟩
  have hload₁ := loadUnit_view (importBatches_wellFormed history₁ wellFormed_empty)
    (importBatches_ownReferences history₁ hids₁ (unusedIds_empty _) ownReferences_empty)
    f.injective m paymentId
  have hload₂ := loadUnit_view (importBatches_wellFormed history₂ wellFormed_empty)
    (importBatches_ownReferences history₂ hids₂ (unusedIds_empty _) ownReferences_empty)
    Function.injective_id m (f paymentId)
  rw [← hload₁, ← hview, ← id_eq (f paymentId), hload₂, funext ReconciliationUnit.renamed_id,
    Option.map_id', id_eq]

/-! ## Two merchants with the same source ids -/

/-- The records of the sample import under other generated ids. -/
def sampleImportWith (ids : List String) : List FinancialRecord :=
  List.zipWith (fun id r => r.withBase { r.base with id := id }) ids sampleImport

/-- The sample import of one merchant. -/
def aloneHistory : List ImportBatch := [⟨"m-1", "import-1", sampleImport⟩]

/-- The same import after one of another merchant that has the same source ids, references and
UTR. -/
def sharedHistory : List ImportBatch :=
  [⟨"m-2", "import-1", sampleImportWith ["a-1", "a-2", "a-3", "a-4", "a-5", "a-6"]⟩,
    ⟨"m-1", "import-2", sampleImportWith ["b-1", "b-2", "b-3", "b-4", "b-5", "b-6"]⟩]

/-- The other merchant's import makes no difference. -/
theorem sharedHistory_sampleUnit :
    reportsTo "m-1" aloneHistory {} = reportsTo "m-1" sharedHistory {} ∧
      ∃ f : Equiv.Perm String, (ownIds "m-1" aloneHistory).map f = ownIds "m-1" sharedHistory ∧
        ∀ paymentId, loadUnit (importBatches sharedHistory {}) ⟨"m-1"⟩ (f paymentId) =
          (loadUnit (importBatches aloneHistory {}) ⟨"m-1"⟩ paymentId).map (·.renamed f) :=
  tenants_noninterference "m-1" aloneHistory sharedHistory (by decide) (by decide) (by decide)

end SettlementOps
