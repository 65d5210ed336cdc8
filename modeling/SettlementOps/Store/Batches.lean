import SettlementOps.Store.Tenants

/-!
# Splitting an import

A reference is resolved when its row is inserted and never again: to the record it names if
that record came in the same batch or an earlier one, and to nothing otherwise.  So the records
of a merchant may be split into batches exactly when no record comes in an earlier batch than
one it refers to.

* `setLinks` — what references resolve to once some records have arrived.
* `splitRows`, `importBatches_rows` — the rows a sequence of batches stores.
* `ParentsFirst` — no record comes before one it refers to.
* `split_import_iff` — when a split import stores what one batch would have stored.
-/

namespace SettlementOps

open Relational

/-! ## What has arrived -/

/-- What references resolve to once some records have arrived. -/
def setLinks (arrived : List FinancialRecord) : Links := fun k n =>
  (arrived.find? fun r => r.kind = k ∧ r.base.lineage.sourceRecordId = n).map (·.base.id)

theorem setLinks_append (xs ys : List FinancialRecord) (k : RecordKind) (n : String) :
    setLinks (xs ++ ys) k n = (setLinks xs k n).or (setLinks ys k n) := by
  unfold setLinks
  rw [List.find?_append, Option.map_or]

/-- The kinds of record that others refer to. -/
def parentKinds : List RecordKind := [.order, .payment, .settlement, .feeLine]

theorem references_parentKinds {r : FinancialRecord} {k : RecordKind} {n : String}
    (h : r.references k = some n) : k ∈ parentKinds := by
  cases r <;> cases k <;> first | decide | cases h

theorem requiredParent_parentKinds {r : FinancialRecord} (h : r.kind ∈ parentKinds) :
    r.requiredParent = none := by
  cases r <;> first | rfl | simp [FinancialRecord.kind, parentKinds] at h

section Rows

variable {m : MerchantId} {importId : String}

/-- What the rows of records that require no parent resolve. -/
theorem find?_filterMap_row {links : Links} {n : String} :
    ∀ {records : List FinancialRecord}, (∀ r ∈ records, r.requiredParent = none) →
      ((records.filterMap fun r => r.row m importId links).find? fun row =>
          row.base.merchantId = m ∧ row.base.sourceRecordId = n).map (·.base.id) =
        (records.find? fun r => r.base.lineage.sourceRecordId = n).map (·.base.id) := by
  intro records
  induction records with
  | nil => exact fun _ => rfl
  | cons r records ih =>
      intro hfree
      obtain ⟨hr, hrest⟩ := List.forall_mem_cons.1 hfree
      obtain ⟨row, hrow⟩ := row_isSome hr m importId links
      rw [List.filterMap_cons, hrow]
      dsimp only
      rw [List.find?_cons, List.find?_cons, row_base hrow]
      by_cases hn : r.base.lineage.sourceRecordId = n
      · simp [rowBase, hn, row_base hrow]
      · simpa [rowBase, hn] using ih hrest

/-- The store resolves references of the merchant as the records that have arrived do. -/
def ResolvesAs (m : MerchantId) (store : RecordStore) (arrived : List FinancialRecord) : Prop :=
  ∀ k ∈ parentKinds, ∀ n, store.links m k n = setLinks arrived k n

theorem row_eq_of_resolvesAs {store : RecordStore} {arrived : List FinancialRecord}
    (h : ResolvesAs m store arrived) (r : FinancialRecord) :
    r.row m importId (store.links m) = r.row m importId (setLinks arrived) := by
  refine row_congr fun k => ?_
  cases hk : r.references k with
  | none => rfl
  | some n => exact h k (references_parentKinds hk) n

/-- The rows a sequence of batches adds. -/
def splitRows (m : MerchantId) : List FinancialRecord → List ImportBatch → RecordKind →
    List StoredRow
  | _, [], _ => []
  | arrived, b :: rest, k =>
      ((b.records.filter fun r => r.kind = k).filterMap
          fun r => r.row m b.importId (setLinks (arrived ++ b.records))) ++
        splitRows m (arrived ++ b.records) rest k

/-- A batch resolves its own records too. -/
theorem ResolvesAs.insertMany {store store' : RecordStore} {arrived records : List FinancialRecord}
    (hresolves : ResolvesAs m store arrived)
    (hrows : ∀ k, store'.rowsOf k = store.rowsOf k ++
      (records.filter fun r => r.kind = k).filterMap fun r => r.row m importId (store'.links m)) :
    ResolvesAs m store' (arrived ++ records) := by
  intro k hk n
  have hfree : ∀ r ∈ records.filter (fun r => r.kind = k), r.requiredParent = none := by
    intro r hr
    refine requiredParent_parentKinds ?_
    have hrk := (List.mem_filter.1 hr).2
    simp only [decide_eq_true_eq] at hrk
    rwa [hrk]
  have hnew : (((records.filter fun r => r.kind = k).filterMap fun r =>
        r.row m importId (store'.links m)).find? fun row =>
          row.base.merchantId = m ∧ row.base.sourceRecordId = n).map (·.base.id) =
      setLinks records k n := by
    rw [find?_filterMap_row hfree, List.find?_filter]
    simp only [setLinks, decide_eq_true_eq]
  calc store'.links m k n
      = ((store'.rowsOf k).find? fun row =>
          row.base.merchantId = m ∧ row.base.sourceRecordId = n).map (·.base.id) := rfl
    _ = (store.links m k n).or (setLinks records k n) := by
        rw [hrows k, List.find?_append, Option.map_or, hnew]
        rfl
    _ = setLinks (arrived ++ records) k n := by
        rw [setLinks_append, ← hresolves k hk n]

end Rows

/-! ## What a sequence of batches stores -/

/-- The merchant's rows come from records that have arrived. -/
def RowsFrom (m : MerchantId) (store : RecordStore) (arrived : List FinancialRecord) : Prop :=
  ∀ k, ∀ row ∈ store.rowsOf k, row.base.merchantId = m →
    ∃ r ∈ arrived, r.kind = k ∧ r.base.lineage.sourceRecordId = row.base.sourceRecordId

section Sequence

variable {m : MerchantId}

theorem sourceKey_distinct {records : List FinancialRecord}
    (h : (records.map (·.asParent)).Nodup) :
    (records.map fun r => (r.kind, r.sourceKey m)).Nodup := by
  refine List.Nodup.of_map (fun x : RecordKind × SourceKey => (x.1, x.2.sourceRecordId)) ?_
  rw [List.map_map]
  exact h

/-- Records whose source ids have not arrived have new identities. -/
theorem RowsFrom.newKeys {store : RecordStore} {arrived records : List FinancialRecord}
    (h : RowsFrom m store arrived)
    (hdistinct : ((arrived ++ records).map (·.asParent)).Nodup) : NewKeys m store records := by
  intro r hr row hrow hkey
  have hm : row.base.merchantId = m := by
    rw [← row.key_merchantId, hkey]
    rfl
  obtain ⟨x, hx, hkind, hsource⟩ := h r.kind row hrow hm
  rw [List.map_append, List.nodup_append] at hdistinct
  refine hdistinct.2.2 _ (List.mem_map_of_mem hx) _ (List.mem_map_of_mem hr) (Prod.ext hkind ?_)
  rw [FinancialRecord.asParent, hsource, ← row.key_sourceRecordId, hkey]
  rfl

/-- **What a sequence of batches stores**: each record's row, resolved by what has arrived. -/
theorem importBatches_rows :
    ∀ {batches : List ImportBatch} {arrived : List FinancialRecord} {store : RecordStore},
      (∀ b ∈ batches, b.merchantId = m) → DistinctIds batches → UnusedIds store batches →
      ((arrived ++ batches.flatMap (·.records)).map (·.asParent)).Nodup →
      ResolvesAs m store arrived → RowsFrom m store arrived →
      ∀ k, (importBatches batches store).rowsOf k =
        store.rowsOf k ++ splitRows m arrived batches k := by
  intro batches
  induction batches with
  | nil =>
      intro arrived store _ _ _ _ _ _ k
      simp [importBatches, splitRows]
  | cons b batches ih =>
      intro arrived store hm hids hunused hdistinct hresolves hfrom k
      obtain ⟨rfl, hm⟩ := List.forall_mem_cons.1 hm
      rw [List.flatMap_cons, ← List.append_assoc] at hdistinct
      have hearlier : ((arrived ++ b.records).map (·.asParent)).Nodup := by
        rw [List.map_append] at hdistinct
        exact (List.nodup_append.1 hdistinct).1
      have hrecords : (b.records.map (·.asParent)).Nodup := by
        rw [List.map_append] at hearlier
        exact (List.nodup_append.1 hearlier).2.1
      obtain ⟨counts, store', hins⟩ :=
        insertMany_commits (hids.freshIds hunused) ⟨b.merchantId⟩ b.importId
      have hrows := insertMany_rows_of_new (sourceKey_distinct hrecords)
        (hfrom.newKeys hearlier) hins
      have hresolves' := hresolves.insertMany hrows
      have hfrom' : RowsFrom b.merchantId store' (arrived ++ b.records) := by
        intro k row hrow hmerchant
        rw [hrows k] at hrow
        rcases List.mem_append.1 hrow with hrow | hrow
        · obtain ⟨r, hr, hrr⟩ := hfrom k row hrow hmerchant
          exact ⟨r, List.mem_append_left _ hr, hrr⟩
        · obtain ⟨r, hr, hrr⟩ := List.mem_filterMap.1 hrow
          obtain ⟨hr, hkind⟩ := List.mem_filter.1 hr
          refine ⟨r, List.mem_append_right _ hr, of_decide_eq_true hkind, ?_⟩
          rw [row_base hrr]
          rfl
      have hstore : importBatches (b :: batches) store = importBatches batches store' := by
        unfold importBatches
        rw [List.foldl_cons, hins]
      rw [hstore, ih hm hids.tail (hunused.insertMany hids hins) hdistinct hresolves' hfrom' k,
        hrows k, splitRows, List.append_assoc]
      simp only [row_eq_of_resolvesAs hresolves']

end Sequence

/-! ## Parents first -/

/-- No record comes in an earlier batch than one it refers to. -/
def ParentsFirst (batches : List ImportBatch) : Prop :=
  batches.Pairwise fun b b' => ∀ r ∈ b.records, ∀ x ∈ b'.records,
    r.references x.kind ≠ some x.base.lineage.sourceRecordId

instance (batches : List ImportBatch) : Decidable (ParentsFirst batches) :=
  inferInstanceAs (Decidable (List.Pairwise _ _))

section ParentsFirst

variable {m : MerchantId}

theorem setLinks_eq_none {records : List FinancialRecord} {k : RecordKind} {n : String} :
    setLinks records k n = none ↔
      ∀ x ∈ records, x.kind = k → x.base.lineage.sourceRecordId ≠ n := by
  simp [setLinks, List.find?_eq_none]

/-- Records that come later are not referred to, so they change no reference. -/
theorem row_setLinks_append {r : FinancialRecord} {arrived later : List FinancialRecord}
    (h : ∀ x ∈ later, r.references x.kind ≠ some x.base.lineage.sourceRecordId)
    (importId : String) :
    r.row m importId (setLinks (arrived ++ later)) = r.row m importId (setLinks arrived) := by
  refine row_congr fun k => ?_
  cases hk : r.references k with
  | none => rfl
  | some n =>
      have hnone : setLinks later k n = none := by
        refine setLinks_eq_none.2 fun x hx hkind hn => h x hx ?_
        rw [hkind, hk, hn]
      rw [Option.bind_some, Option.bind_some, setLinks_append, hnone, Option.or_none]

/-- With parents first every row is resolved as if all records had arrived. -/
theorem splitRows_of_parentsFirst :
    ∀ {batches : List ImportBatch} {arrived : List FinancialRecord}, ParentsFirst batches →
      ∀ k, splitRows m arrived batches k = batches.flatMap fun b =>
        (b.records.filter fun r => r.kind = k).filterMap fun r =>
          r.row m b.importId (setLinks (arrived ++ batches.flatMap (·.records))) := by
  intro batches
  induction batches with
  | nil => exact fun _ _ => rfl
  | cons b batches ih =>
      intro arrived hfirst k
      obtain ⟨hb, hrest⟩ := List.pairwise_cons.1 hfirst
      rw [splitRows, List.flatMap_cons, List.flatMap_cons, ih hrest k]
      simp only [← List.append_assoc]
      congr 1
      refine List.filterMap_congr fun r hr => ?_
      refine (row_setLinks_append (fun x hx => ?_) _).symm
      obtain ⟨b', hb', hx⟩ := List.mem_flatMap.1 hx
      exact hb b' hb' r (List.mem_filter.1 hr).1 x hx

end ParentsFirst

/-! ## The merchant's rows when all references are resolved -/

/-- The rows of records that resolve each other's references. -/
def fullRows (m : MerchantId) (records : List FinancialRecord) (k : RecordKind) :
    List StoredRow :=
  (records.filter fun r => r.kind = k).filterMap fun r =>
    (r.row m "" (setLinks records)).map (·.renamed id)

theorem anonymous_sourceRecordId (id : String) (r : FinancialRecord) :
    (r.anonymous id).base.lineage.sourceRecordId = r.base.lineage.sourceRecordId := by
  cases r <;> rfl

theorem anonymous_id (id : String) (r : FinancialRecord) : (r.anonymous id).base.id = id := by
  cases r <;> rfl

theorem setLinks_anonymous (f : String → String) (records : List FinancialRecord)
    (k : RecordKind) (n : String) :
    setLinks (records.map fun r => r.anonymous (f r.base.id)) k n =
      (setLinks records k n).map f := by
  simp only [setLinks, List.find?_map, Option.map_map, Function.comp_def, anonymous_kind,
    anonymous_sourceRecordId, anonymous_id]

/-- Renaming the rows of records is to write the rows of renamed records. -/
theorem fullRows_anonymous (m : MerchantId) (f : String → String) (batches : List ImportBatch)
    (k : RecordKind) :
    (batches.flatMap fun b => (b.records.filter fun r => r.kind = k).filterMap fun r =>
        r.row m b.importId (setLinks (batches.flatMap (·.records)))).map (·.renamed f) =
      fullRows m ((batches.flatMap (·.records)).map fun r => r.anonymous (f r.base.id)) k := by
  have hrow (b : ImportBatch) (r : FinancialRecord) :
      (r.row m b.importId (setLinks (batches.flatMap (·.records)))).map (·.renamed f) =
        ((r.anonymous (f r.base.id)).row m "" (setLinks ((batches.flatMap (·.records)).map
          fun r => r.anonymous (f r.base.id)))).map (·.renamed id) := by
    rw [row_renamed m b.importId "" _ f r]
    congr 2
    funext k n
    exact (setLinks_anonymous f _ k n).symm
  rw [fullRows]
  generalize setLinks ((batches.flatMap (·.records)).map fun r => r.anonymous (f r.base.id)) =
    links at hrow ⊢
  generalize setLinks (batches.flatMap (·.records)) = links₀ at hrow ⊢
  rw [List.map_flatMap, List.map_flatMap, List.filter_flatMap, List.filterMap_flatMap]
  congr 1
  funext b
  rw [List.map_filterMap, List.filter_map, List.filterMap_map]
  simp only [hrow, Function.comp_def, anonymous_kind]

/-- Rows do not depend on the order of records with distinct source ids. -/
theorem fullRows_perm {m : MerchantId} {xs ys : List FinancialRecord} (h : xs.Perm ys)
    (hdistinct : (xs.map (·.asParent)).Nodup) (k : RecordKind) :
    (fullRows m xs k).Perm (fullRows m ys k) := by
  have hlinks : setLinks xs = setLinks ys := by
    funext k n
    unfold setLinks
    congr 1
    have hunique : ∀ a ∈ xs, ∀ b ∈ xs,
        decide (a.kind = k ∧ a.base.lineage.sourceRecordId = n) = true →
          decide (b.kind = k ∧ b.base.lineage.sourceRecordId = n) = true → a = b := by
      intro a ha b hb hpa hpb
      simp only [decide_eq_true_eq] at hpa hpb
      exact List.inj_on_of_nodup_map hdistinct ha hb
        (Prod.ext (hpa.1.trans hpb.1.symm) (hpa.2.trans hpb.2.symm))
    refine Option.ext fun r => ?_
    rw [find?_eq_some_iff_of_unique hunique, find?_eq_some_iff_of_unique, h.mem_iff]
    intro a ha b hb
    exact hunique a (h.mem_iff.2 ha) b (h.mem_iff.2 hb)
  unfold fullRows
  rw [hlinks]
  exact (h.filter _).filterMap _

/-! ## The merchant's rows after a sequence of batches -/

/-- The store holds no row of the merchant. -/
def NoRows (m : MerchantId) (store : RecordStore) : Prop :=
  ∀ k, ∀ row ∈ store.rowsOf k, row.base.merchantId ≠ m

theorem NoRows.resolves {m : MerchantId} {store : RecordStore} (h : NoRows m store) :
    ResolvesAs m store [] := by
  intro k _ n
  have hfind : (store.rowsOf k).find? (fun row =>
      row.base.merchantId = m ∧ row.base.sourceRecordId = n) = none := by
    simp only [List.find?_eq_none, decide_eq_true_eq]
    exact fun row hrow hmatch => h k row hrow hmatch.1
  unfold RecordStore.links
  rw [hfind]
  rfl

theorem splitRows_merchant {m : MerchantId} {k : RecordKind} {row : StoredRow} :
    ∀ {batches : List ImportBatch} {arrived : List FinancialRecord},
      row ∈ splitRows m arrived batches k → row.base.merchantId = m := by
  intro batches
  induction batches with
  | nil => exact fun h => absurd h List.not_mem_nil
  | cons b batches ih =>
      intro arrived h
      rcases List.mem_append.1 h with h | h
      · obtain ⟨r, -, hr⟩ := List.mem_filterMap.1 h
        rw [row_base hr]
        rfl
      · exact ih h

section View

variable {m : MerchantId} {store : RecordStore} {batches : List ImportBatch}

/-- The merchant's rows after a sequence of batches are those the batches add. -/
theorem importBatches_view_rows (hnone : NoRows m store) (hm : ∀ b ∈ batches, b.merchantId = m)
    (hids : DistinctIds batches) (hunused : UnusedIds store batches)
    (hdistinct : ((batches.flatMap (·.records)).map (·.asParent)).Nodup) (f : String → String)
    (k : RecordKind) :
    ((importBatches batches store).view m f).rowsOf k =
      (splitRows m [] batches k).map (·.renamed f) := by
  have hbefore : (store.rowsOf k).filter (fun row => row.base.merchantId = m) = [] := by
    simpa using fun row hrow => hnone k row hrow
  have hown : (splitRows m [] batches k).filter (fun row => row.base.merchantId = m) =
      splitRows m [] batches k := by
    simpa using fun row hrow => splitRows_merchant hrow
  rw [rowsOf_view, importBatches_rows hm hids hunused (by simpa using hdistinct) hnone.resolves
    (fun k row hrow hmerchant => absurd hmerchant (hnone k row hrow)) k, List.filter_append,
    hbefore, hown, List.nil_append]

/-- With parents first they are the rows of records that resolve each other's references. -/
theorem importBatches_view_of_parentsFirst (hnone : NoRows m store)
    (hm : ∀ b ∈ batches, b.merchantId = m) (hids : DistinctIds batches)
    (hunused : UnusedIds store batches)
    (hdistinct : ((batches.flatMap (·.records)).map (·.asParent)).Nodup)
    (hfirst : ParentsFirst batches) (f : String → String) (k : RecordKind) :
    ((importBatches batches store).view m f).rowsOf k =
      fullRows m ((batches.flatMap (·.records)).map fun r => r.anonymous (f r.base.id)) k := by
  rw [importBatches_view_rows hnone hm hids hunused hdistinct, splitRows_of_parentsFirst hfirst,
    ← fullRows_anonymous]
  rfl

end View

/-! ## Complete rows -/

/-- Every record has a row in which all its references are resolved. -/
def Complete (rows : RecordKind → List StoredRow) (records : List FinancialRecord) : Prop :=
  ∀ r ∈ records, ∀ k, ∀ n ∈ r.references k, ∃ row ∈ rows r.kind,
    row.base.sourceRecordId = r.base.lineage.sourceRecordId ∧ row.linkTo k ≠ none

theorem mem_splitRows_source {m : MerchantId} {k : RecordKind} {row : StoredRow} :
    ∀ {batches : List ImportBatch} {arrived : List FinancialRecord},
      row ∈ splitRows m arrived batches k →
      (k, row.base.sourceRecordId) ∈ (batches.flatMap (·.records)).map (·.asParent) := by
  intro batches
  induction batches with
  | nil => exact fun h => absurd h List.not_mem_nil
  | cons b batches ih =>
      intro arrived h
      rw [List.flatMap_cons, List.map_append]
      rcases List.mem_append.1 h with h | h
      · obtain ⟨r, hr, hrow⟩ := List.mem_filterMap.1 h
        obtain ⟨hr, hk⟩ := List.mem_filter.1 hr
        refine List.mem_append_left _ (List.mem_map.2 ⟨r, hr, ?_⟩)
        rw [row_base hrow]
        exact Prod.ext (of_decide_eq_true hk) rfl
      · exact List.mem_append_right _ (ih h)

/-- **Rows are complete only with parents first.** -/
theorem parentsFirst_of_complete {m : MerchantId} :
    ∀ {batches : List ImportBatch} {arrived : List FinancialRecord},
      ((arrived ++ batches.flatMap (·.records)).map (·.asParent)).Nodup →
      Complete (splitRows m arrived batches) (batches.flatMap (·.records)) →
      ParentsFirst batches := by
  intro batches
  induction batches with
  | nil => exact fun _ _ => List.Pairwise.nil
  | cons b batches ih =>
      intro arrived hdistinct hcomplete
      rw [List.flatMap_cons, ← List.append_assoc] at hdistinct
      have hparts := hdistinct
      rw [List.map_append, List.nodup_append] at hparts
      obtain ⟨hearlier, -, hapart⟩ := hparts
      have hrecords : (b.records.map (·.asParent)).Nodup := by
        rw [List.map_append] at hearlier
        exact (List.nodup_append.1 hearlier).2.1
      have hlater {r : FinancialRecord} (hr : r ∈ b.records) {x : FinancialRecord}
          (hx : x ∈ batches.flatMap (·.records)) : r.asParent ≠ x.asParent :=
        hapart _ (List.mem_map_of_mem (List.mem_append_right _ hr)) _ (List.mem_map_of_mem hx)
      refine List.pairwise_cons.2 ⟨fun b' hb' r hr x hx href => ?_, ih hdistinct ?_⟩
      · -- The row of the record is one of its own batch, which the parent comes after.
        have hx : x ∈ batches.flatMap (·.records) := List.mem_flatMap.2 ⟨b', hb', hx⟩
        obtain ⟨row, hrow, hsource, hlink⟩ := hcomplete r
          (List.mem_flatMap.2 ⟨b, List.mem_cons_self, hr⟩) x.kind _ href
        rcases List.mem_append.1 hrow with hrow | hrow
        · obtain ⟨r', hr', hrr⟩ := List.mem_filterMap.1 hrow
          obtain ⟨hr', hkind⟩ := List.mem_filter.1 hr'
          have hsame : r' = r := by
            refine List.inj_on_of_nodup_map hrecords hr' hr
              (Prod.ext (of_decide_eq_true hkind) ?_)
            rw [row_base hrr] at hsource
            exact hsource
          subst hsame
          rw [row_linkTo hrr, href, Option.bind_some] at hlink
          refine hlink (setLinks_eq_none.2 fun y hy hykind hysource => ?_)
          exact hapart _ (List.mem_map_of_mem hy) _ (List.mem_map_of_mem hx)
            (Prod.ext hykind hysource)
        · obtain ⟨y, hy, hyr⟩ := List.mem_map.1 (mem_splitRows_source hrow)
          rw [hsource] at hyr
          exact hlater hr hy hyr.symm
      · intro r hr k n hn
        obtain ⟨row, hrow, hsource, hlink⟩ := hcomplete r
          (by rw [List.flatMap_cons]; exact List.mem_append_right _ hr) k n hn
        rcases List.mem_append.1 hrow with hrow | hrow
        · obtain ⟨r', hr', hrr⟩ := List.mem_filterMap.1 hrow
          obtain ⟨hr', hkind⟩ := List.mem_filter.1 hr'
          rw [row_base hrr] at hsource
          exact absurd (Prod.ext (of_decide_eq_true hkind) hsource) (hlater hr' hr)
        · exact ⟨row, hrow, hsource, hlink⟩

/-! ## A split import and the import of one batch -/

/-- The same records of a merchant, in one batch and in several: their source ids are distinct,
every reference is to one of them, and the ids of their rows are generated. -/
structure SplitOf (m : MerchantId) (store : RecordStore) (whole : ImportBatch)
    (batches : List ImportBatch) : Prop where
  wholeMerchant : whole.merchantId = m
  merchant : ∀ b ∈ batches, b.merchantId = m
  contents : ((batches.flatMap (·.records)).map (·.content)).Perm (whole.records.map (·.content))
  distinct : (whole.records.map (·.asParent)).Nodup
  resolvable : ∀ r ∈ whole.records, ∀ k, ∀ n ∈ r.references k,
    ∃ x ∈ whole.records, x.kind = k ∧ x.base.lineage.sourceRecordId = n
  wholeIds : DistinctIds [whole]
  ids : DistinctIds batches
  wholeUnused : UnusedIds store [whole]
  unused : UnusedIds store batches

/-- Two stores hold the same for a merchant, up to the order of the rows, the ids of the
imports and a renaming of the other generated ids: the same records, and the same units. -/
structure SameImport (m : MerchantId) (f : String → String) (store store' : RecordStore) :
    Prop where
  records : SameRows (store.view m id) (store'.view m f)
  units : ∀ paymentId, Option.Rel SameUnit (loadUnit store ⟨m⟩ (f paymentId))
    ((loadUnit store' ⟨m⟩ paymentId).map (·.renamed f))

/-- **The same records make the same units.** -/
theorem SameImport.of_records {m : MerchantId} {f : String → String} {store store' : RecordStore}
    (hf : Function.Injective f) (hwf : WellFormed store) (hown : OwnReferences store)
    (hwf' : WellFormed store') (hown' : OwnReferences store')
    (h : SameRows (store.view m id) (store'.view m f)) : SameImport m f store store' where
  records := h
  units paymentId := by
    have hload := loadUnit_view hwf hown Function.injective_id m (f paymentId)
    rw [funext ReconciliationUnit.renamed_id, Option.map_id', id_eq] at hload
    rw [← loadUnit_view hwf' hown' hf, ← hload]
    refine loadUnit_sameRows h ?_ m (f paymentId)
    have hpk : Unique (fun p : PaymentRow => p.id) store.payments := hwf.payments.pk
    unfold Relational.Unique RecordStore.view RecordStore.renamed RecordStore.only at *
    rw [List.map_map]
    exact hpk.sublist (List.filter_sublist.map _)

/-- A permutation of the images comes from one of the values. -/
theorem exists_perm_of_map_perm {α β : Type} {g : α → β} {ys zs : List β} (h : ys.Perm zs) :
    ∀ {xs : List α}, xs.map g = ys → ∃ xs' : List α, xs'.Perm xs ∧ xs'.map g = zs := by
  induction h with
  | nil =>
      intro xs hxs
      exact ⟨xs, .refl _, hxs⟩
  | cons y _ ih =>
      intro xs hxs
      obtain ⟨x, xs, rfl, rfl, hrest⟩ := List.map_eq_cons_iff.1 hxs
      obtain ⟨xs', hperm, hmap⟩ := ih hrest
      exact ⟨x :: xs', hperm.cons x, by rw [List.map_cons, hmap]⟩
  | swap y y' _ =>
      intro xs hxs
      obtain ⟨x', xs, rfl, rfl, hrest⟩ := List.map_eq_cons_iff.1 hxs
      obtain ⟨x, xs, rfl, rfl, htail⟩ := List.map_eq_cons_iff.1 hrest
      exact ⟨x :: x' :: xs, .swap _ _ _, by rw [List.map_cons, List.map_cons, htail]⟩
  | trans _ _ ih ih' =>
      intro xs hxs
      obtain ⟨xs', hperm, hmap⟩ := ih hxs
      obtain ⟨xs'', hperm', hmap'⟩ := ih' hmap
      exact ⟨xs'', hperm'.trans hperm, hmap'⟩

section Split

variable {m : MerchantId} {store : RecordStore} {whole : ImportBatch}
  {batches : List ImportBatch}

theorem content_asParent (r : FinancialRecord) : r.content.asParent = r.asParent := by
  cases r <;> rfl

theorem content_references (r : FinancialRecord) (k : RecordKind) :
    r.content.references k = r.references k := by
  cases r <;> cases k <;> rfl

theorem SplitOf.distinct_batches (h : SplitOf m store whole batches) :
    ((batches.flatMap (·.records)).map (·.asParent)).Nodup := by
  have hmap (rs : List FinancialRecord) :
      rs.map (·.asParent) = (rs.map (·.content)).map (·.asParent) := by
    rw [List.map_map]
    exact List.map_congr_left fun r _ => (content_asParent r).symm
  have hdistinct := h.distinct
  rw [hmap] at hdistinct ⊢
  exact (h.contents.map _).nodup_iff.2 hdistinct

/-- The ids of the rows of one batch correspond to those of the split import. -/
theorem SplitOf.exists_renaming (h : SplitOf m store whole batches) :
    ∃ f : Equiv.Perm String,
      ((batches.flatMap (·.records)).map fun r => r.anonymous r.base.id).Perm
        (whole.records.map fun r => r.anonymous (f r.base.id)) := by
  obtain ⟨records, hperm, hcontent⟩ := exists_perm_of_map_perm h.contents rfl
  have hids : (records.map (·.base.id)).Nodup := (hperm.map _).nodup_iff.2 h.ids
  have hwhole : (whole.records.map (·.base.id)).Nodup := by
    simpa [DistinctIds] using h.wholeIds
  obtain ⟨f, hf⟩ := exists_perm_map_eq hwhole hids
    (by simpa using (congrArg List.length hcontent).symm)
  rw [List.map_map] at hf
  refine ⟨f, (hperm.map _).symm.trans ?_⟩
  rw [anonymous_eq hcontent.symm hf]

/-- The rows of one batch are complete. -/
theorem SplitOf.complete_whole (h : SplitOf m store whole batches) :
    Complete (splitRows m [] [whole]) whole.records := by
  intro r hr k n hn
  have hsome : ∀ k, ∀ n ∈ r.references k, setLinks whole.records k n ≠ none := by
    intro k n hn hnone
    obtain ⟨x, hx, hkind, hsource⟩ := h.resolvable r hr k n hn
    exact setLinks_eq_none.1 hnone x hx hkind hsource
  obtain ⟨row, hrow⟩ := row_isSome_of_resolved hsome m whole.importId
  refine ⟨row, ?_, ?_, ?_⟩
  · refine List.mem_append_left _ (List.mem_filterMap.2 ⟨r, ?_, hrow⟩)
    exact List.mem_filter.2 ⟨hr, by simp⟩
  · rw [row_base hrow]
    rfl
  · rw [row_linkTo hrow, hn]
    exact hsome k n hn

/-- Rows that are the same up to renaming are complete together. -/
theorem SplitOf.complete_batches (h : SplitOf m store whole batches) {f : String → String}
    (hrows : ∀ k, ((splitRows m [] batches k).map (·.renamed id)).Perm
      ((splitRows m [] [whole] k).map (·.renamed f))) :
    Complete (splitRows m [] batches) (batches.flatMap (·.records)) := by
  intro r hr k n hn
  obtain ⟨r', hr', hcontent⟩ : ∃ r' ∈ whole.records, r'.content = r.content :=
    List.mem_map.1 (h.contents.mem_iff.1 (List.mem_map_of_mem hr))
  have hsame : r'.asParent = r.asParent := by
    rw [← content_asParent r', hcontent, content_asParent]
  have hn' : r'.references k = some n := by
    rw [← content_references r', hcontent, content_references]
    exact hn
  obtain ⟨row', hrow', hsource', hlink'⟩ := h.complete_whole r' hr' k n hn'
  rw [show r'.kind = r.kind from congrArg Prod.fst hsame] at hrow'
  obtain ⟨row, hrow, hrename⟩ := List.mem_map.1
    ((hrows r.kind).mem_iff.2 (List.mem_map_of_mem hrow'))
  refine ⟨row, hrow, ?_, fun hnone => hlink' ?_⟩
  · rw [← renamed_sourceRecordId id row, hrename, renamed_sourceRecordId, hsource']
    exact congrArg Prod.snd hsame
  · have hlink := renamed_linkTo id row k
    rw [hrename, renamed_linkTo, hnone, Option.map_none, Option.map_eq_none_iff] at hlink
    exact hlink

end Split

/-- **When an import may be split.**  The records of a merchant in several batches leave the
same records, links and units as in one batch, up to generated ids, exactly when no record
comes in an earlier batch than one it refers to. -/
theorem split_import_iff (m : MerchantId) (store : RecordStore) (whole : ImportBatch)
    (batches : List ImportBatch) (hwf : WellFormed store) (hown : OwnReferences store)
    (hnone : NoRows m store) (h : SplitOf m store whole batches) :
    (∃ f : Equiv.Perm String,
        SameImport m f (importBatches batches store) (importBatches [whole] store)) ↔
      ParentsFirst batches := by
  have hwholeMerchant : ∀ b ∈ [whole], b.merchantId = m := by
    simpa using h.wholeMerchant
  have hwholeDistinct : (([whole].flatMap (·.records)).map (·.asParent)).Nodup := by
    simpa using h.distinct
  constructor
  · rintro ⟨f, hsame⟩
    have hrows (k : RecordKind) := hsame.records k
    simp only [importBatches_view_rows hnone h.merchant h.ids h.unused h.distinct_batches,
      importBatches_view_rows hnone hwholeMerchant h.wholeIds h.wholeUnused hwholeDistinct] at hrows
    exact parentsFirst_of_complete (by simpa using h.distinct_batches) (h.complete_batches hrows)
  · intro hfirst
    obtain ⟨f, hf⟩ := h.exists_renaming
    refine ⟨f, SameImport.of_records f.injective
      (importBatches_wellFormed _ hwf) (importBatches_ownReferences _ h.ids h.unused hown)
      (importBatches_wellFormed _ hwf)
      (importBatches_ownReferences _ h.wholeIds h.wholeUnused hown) fun k => ?_⟩
    rw [importBatches_view_of_parentsFirst hnone h.merchant h.ids h.unused h.distinct_batches
        hfirst,
      importBatches_view_of_parentsFirst hnone hwholeMerchant h.wholeIds h.wholeUnused
        hwholeDistinct (List.pairwise_singleton _ _)]
    have hwhole : [whole].flatMap (·.records) = whole.records := by simp
    rw [hwhole]
    refine fullRows_perm hf ?_ k
    rw [List.map_map]
    simpa only [Function.comp_def, FinancialRecord.asParent, anonymous_kind,
      anonymous_sourceRecordId, id] using h.distinct_batches

/-! ## A fee that comes before its payment -/

theorem noRows_empty (m : MerchantId) : NoRows m {} := by
  intro k row hrow
  cases k <;> cases hrow

/-- The sample import in one batch. -/
def wholeImport : ImportBatch := ⟨"m-1", "import-1", sampleImport⟩

/-- The sample import split after the payment. -/
def paymentFirst : List ImportBatch :=
  [⟨"m-1", "import-2", sampleImport.take 1⟩, ⟨"m-1", "import-3", sampleImport.drop 1⟩]

/-- The payment of the sample import resubmitted after the other records. -/
def paymentLast : List ImportBatch :=
  [⟨"m-1", "import-2", sampleImport.drop 1⟩, ⟨"m-1", "import-3", sampleImport.take 1⟩]

theorem paymentFirst_splitOf : SplitOf "m-1" {} wholeImport paymentFirst where
  wholeMerchant := rfl
  merchant := by decide
  contents := .refl _
  distinct := by decide
  resolvable := by
    have hkinds : ∀ r ∈ wholeImport.records, ∀ k ∈ INSERT_ORDER, ∀ n ∈ r.references k,
        ∃ x ∈ wholeImport.records, x.kind = k ∧ x.base.lineage.sourceRecordId = n := by
      decide
    exact fun r hr k => hkinds r hr k (by cases k <;> decide)
  wholeIds := by decide
  ids := by decide
  wholeUnused := unusedIds_empty _
  unused := unusedIds_empty _

theorem paymentLast_splitOf : SplitOf "m-1" {} wholeImport paymentLast :=
  { paymentFirst_splitOf with
    merchant := by decide
    contents := by decide
    ids := by decide
    unused := unusedIds_empty _ }

/-- With the payment first the import may be split. -/
theorem paymentFirst_same : ∃ f : Equiv.Perm String,
    SameImport "m-1" f (importBatches paymentFirst {}) (importBatches [wholeImport] {}) :=
  (split_import_iff "m-1" {} wholeImport paymentFirst wellFormed_empty ownReferences_empty
    (noRows_empty _) paymentFirst_splitOf).2 (by decide)

/-- With the payment last the fee is linked to no payment, and the line is not either. -/
theorem paymentLast_unlinked :
    SplitOf "m-1" {} wholeImport paymentLast ∧
      (importBatches paymentLast {}).feeLines.map (·.paymentId) = [none] ∧
      (importBatches [wholeImport] {}).feeLines.map (·.paymentId) = [some "pay-1"] ∧
      ¬ ∃ f : Equiv.Perm String,
        SameImport "m-1" f (importBatches paymentLast {}) (importBatches [wholeImport] {}) := by
  refine ⟨paymentLast_splitOf, rfl, rfl, ?_⟩
  rintro ⟨f, hsame⟩
  have hlinks := (hsame.records .feeLine).map fun row : StoredRow => row.linkTo .payment
  have hsingle : [none] = [some (f "pay-1")] := List.perm_singleton.1 hlinks
  cases hsingle

end SettlementOps
