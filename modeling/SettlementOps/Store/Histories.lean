import SettlementOps.Store.ImportedDuplicates
import SettlementOps.Store.Renaming

/-!
# Histories of imports

Batches of any merchants, written one after another.  The ids of the records are generated,
each once, so no batch fails; and what a row refers to is a row of its own merchant.

* `DistinctIds` — the ids of a history.
* `importBatches_commits` — every batch of a history is committed.
* `importBatches_ownReferences` — references stay within a merchant.
* `loadUnit_view` — a unit of such a store is loaded from the merchant's view of it.
-/

namespace SettlementOps

open Relational

/-- Every record of a history has an id of its own. -/
def DistinctIds (history : List ImportBatch) : Prop :=
  ((history.flatMap (·.records)).map (·.base.id)).Nodup

instance (history : List ImportBatch) : Decidable (DistinctIds history) :=
  inferInstanceAs (Decidable (List.Nodup _))

/-- The ids of records to come are not in use. -/
def UnusedIds (store : RecordStore) (history : List ImportBatch) : Prop :=
  ∀ b ∈ history, ∀ r ∈ b.records, ∀ k, ∀ row ∈ store.rowsOf k, row.base.id ≠ r.base.id

theorem unusedIds_empty (history : List ImportBatch) : UnusedIds {} history := by
  intro b _ r _ k row hrow
  cases k <;> cases hrow

section History

variable {b : ImportBatch} {history : List ImportBatch} {store : RecordStore}

theorem DistinctIds.tail (h : DistinctIds (b :: history)) : DistinctIds history := by
  unfold DistinctIds at *
  rw [List.flatMap_cons, List.map_append] at h
  exact (List.nodup_append.1 h).2.1

theorem DistinctIds.freshIds (h : DistinctIds (b :: history))
    (hunused : UnusedIds store (b :: history)) : FreshIds store b.records := by
  unfold DistinctIds at h
  rw [List.flatMap_cons, List.map_append] at h
  exact ⟨(List.nodup_append.1 h).1, fun r hr => hunused b List.mem_cons_self r hr r.kind⟩

/-- A batch uses the ids of its own records only. -/
theorem UnusedIds.insertMany (h : DistinctIds (b :: history))
    (hunused : UnusedIds store (b :: history)) {scope : MerchantScope} {importId : String}
    {counts : InsertCounts} {store' : RecordStore}
    (hins : SettlementOps.insertMany scope importId b.records store = (some counts, store')) :
    UnusedIds store' history := by
  intro b' hb' r' hr' k row hrow
  obtain ⟨added, hadded, hfrom⟩ := insertMany_rows hins k
  rw [hadded] at hrow
  rcases List.mem_append.1 hrow with hrow | hrow
  · exact hunused b' (List.mem_cons_of_mem _ hb') r' hr' k row hrow
  · obtain ⟨r, hr, hrr⟩ := hfrom row hrow
    unfold DistinctIds at h
    rw [List.flatMap_cons, List.map_append] at h
    rw [row_base hrr]
    exact (List.nodup_append.1 h).2.2 _ (List.mem_map_of_mem hr) _
      (List.mem_map_of_mem (List.mem_flatMap.2 ⟨b', hb', hr'⟩))

end History

/-- **Every batch of a history is committed**, so that what a step preserves a history does. -/
theorem importBatches_commits {P : RecordStore → Prop}
    (hstep : ∀ store scope importId records counts store', P store →
      insertMany scope importId records store = (some counts, store') → P store') :
    ∀ (history : List ImportBatch) {store : RecordStore}, DistinctIds history →
      UnusedIds store history → P store → P (importBatches history store) := by
  intro history
  induction history with
  | nil => exact fun _ _ hP => hP
  | cons b history ih =>
      intro store hids hunused hP
      obtain ⟨counts, store', hins⟩ :=
        insertMany_commits (hids.freshIds hunused) ⟨b.merchantId⟩ b.importId
      have hrest := ih hids.tail (hunused.insertMany hids hins) (hstep _ _ _ _ _ _ hP hins)
      unfold importBatches at *
      rw [List.foldl_cons, hins]
      exact hrest

/-! ## References within a merchant -/

theorem ownReferences_empty : OwnReferences {} := by
  intro k row hrow
  cases k <;> cases hrow

/-- A reference resolves to a row of the merchant. -/
theorem links_eq_some {store : RecordStore} {m : MerchantId} {k : RecordKind} {n id : String}
    (h : store.links m k n = some id) :
    ∃ row ∈ store.rowsOf k, row.base.id = id ∧ row.base.merchantId = m ∧
      row.base.sourceRecordId = n := by
  obtain ⟨row, hrow, hid⟩ := Option.map_eq_some_iff.1 h
  have hmatch := List.find?_some hrow
  simp only [decide_eq_true_eq] at hmatch
  exact ⟨row, List.mem_of_find?_eq_some hrow, hid, hmatch.1, hmatch.2⟩

theorem insertMany_ownReferences {scope : MerchantScope} {importId : String}
    {records : List FinancialRecord} {counts : InsertCounts} {store store' : RecordStore}
    (hown : OwnReferences store)
    (h : insertMany scope importId records store = (some counts, store')) :
    OwnReferences store' := by
  intro k row hrow k' id hid
  obtain ⟨added, hadded, hfrom⟩ := insertMany_rows h k
  rw [hadded] at hrow
  rcases List.mem_append.1 hrow with hrow | hrow
  · obtain ⟨parent, hparent, hpid, hm⟩ := hown k row hrow k' id hid
    obtain ⟨added', hadded', -⟩ := insertMany_rows h k'
    exact ⟨parent, hadded' ▸ List.mem_append_left _ hparent, hpid, hm⟩
  · obtain ⟨r, -, hrr⟩ := hfrom row hrow
    rw [Option.mem_def, row_linkTo hrr] at hid
    obtain ⟨n, -, hlink⟩ := Option.bind_eq_some_iff.1 hid
    obtain ⟨parent, hparent, hpid, hm, -⟩ := links_eq_some hlink
    refine ⟨parent, hparent, hpid, hm.trans ?_⟩
    rw [row_base hrr]
    rfl

/-- **References stay within a merchant.** -/
theorem importBatches_ownReferences (history : List ImportBatch) {store : RecordStore}
    (hids : DistinctIds history) (hunused : UnusedIds store history)
    (hown : OwnReferences store) : OwnReferences (importBatches history store) :=
  importBatches_commits (fun _ _ _ _ _ _ h hins => insertMany_ownReferences h hins) history
    hids hunused hown

/-! ## Loading from a merchant's view -/

theorem loadUnit_eq_none {store : RecordStore} {m : MerchantId} {paymentId : String}
    (h : ∀ p ∈ store.payments, ¬ (p.id = paymentId ∧ p.merchantId = m)) :
    loadUnit store ⟨m⟩ paymentId = none := by
  have hfind : store.payments.find? (fun p => p.id = paymentId ∧ p.merchantId = m) = none := by
    simpa using h
  unfold loadUnit
  dsimp only
  rw [hfind]

/-- **A unit is loaded from the merchant's view of the store**, under the view's ids. -/
theorem loadUnit_view {store : RecordStore} (hwf : WellFormed store) (hown : OwnReferences store)
    {f : String → String} (hf : Function.Injective f) (m : MerchantId) (paymentId : String) :
    loadUnit (store.view m f) ⟨m⟩ (f paymentId) =
      (loadUnit store ⟨m⟩ paymentId).map (·.renamed f) := by
  rw [RecordStore.view, loadUnit_renamed hf]
  congr 1
  by_cases h : ∃ p ∈ store.payments, p.id = paymentId ∧ p.merchantId = m
  · obtain ⟨p, hp, rfl, rfl⟩ := h
    exact loadUnit_only hwf hown hp
  · have hnone : ∀ p ∈ store.payments, ¬ (p.id = paymentId ∧ p.merchantId = m) :=
      fun p hp hpm => h ⟨p, hp, hpm⟩
    rw [loadUnit_eq_none hnone, loadUnit_eq_none]
    intro p hp
    exact hnone p (List.mem_filter.1 hp).1

end SettlementOps
