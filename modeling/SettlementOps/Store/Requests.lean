import SettlementOps.Store.ImportedUnit
import SettlementOps.Store.Isolation

/-!
# Requests with numbered ids

Requests that are imported one after another, each under ids drawn for its number.

* `mem_requestRecords` — a record of a request.
* `Numbered` — the ids of a sequence of requests are distinct.
* `Numbered.separated` — a request that meets no other is separated from them.
* `importRequest_payment` — the payment of a request about one payment, and its unit.
-/

namespace SettlementOps

variable {parseDate : String → Option Date}

/-- A record of a request is one of its records, normalized under the id drawn for it. -/
theorem mem_requestRecords {ctx : RequestContext} {recordId : Nat → String} {ingestedAt : Date}
    {dtos : List FinancialRecordDto} {x : FinancialRecord}
    (h : x ∈ requestRecords parseDate ctx recordId ingestedAt dtos) :
    ∃ dto ∈ dtos, ∃ j, normalizeRecord parseDate ctx ⟨dto, j, recordId j, ingestedAt⟩ = .ok x ∧
      x.base.id = recordId j := by
  unfold requestRecords normalizedOf normalizeRecords at h
  rw [List.filterMap_map] at h
  obtain ⟨⟨dto, j⟩, hmem, hx⟩ := List.mem_filterMap.1 h
  have hok : normalizeRecord parseDate ctx ⟨dto, j, recordId j, ingestedAt⟩ = .ok x := by
    simp only [Function.comp_apply] at hx
    cases hn : normalizeRecord parseDate ctx ⟨dto, j, recordId j, ingestedAt⟩ with
    | error e =>
        rw [hn] at hx
        cases hx
    | ok x' =>
        rw [hn] at hx
        exact congrArg _ (Option.some.inj hx)
  obtain ⟨observedAt, hbase, -⟩ := normalizeRecord_again hok ctx _ rfl rfl
  refine ⟨dto, List.fst_mem_of_mem_zipIdx hmem, j, hok, ?_⟩
  rw [hbase]
  rfl

/-! ## Numbered requests -/

section Numbered

variable {α : Type} {recordId : Nat → Nat → String} {batchOf : α × Nat → ImportBatch}

/-- The records of a batch have distinct ids, drawn for its number. -/
structure Numbered (recordId : Nat → Nat → String) (batchOf : α × Nat → ImportBatch) : Prop where
  drawn : ∀ entry, ∀ r ∈ (batchOf entry).records, ∃ j, r.base.id = recordId entry.2 j
  distinct : ∀ entry, ((batchOf entry).records.map (·.base.id)).Nodup

theorem numbered_of_requests (hids : Function.Injective2 recordId)
    (hrequest : ∀ entry, ∃ ctx ingestedAt dtos, (batchOf entry).records =
      requestRecords parseDate ctx (recordId entry.2) ingestedAt dtos) :
    Numbered recordId batchOf where
  drawn entry r hr := by
    obtain ⟨ctx, ingestedAt, dtos, hrecords⟩ := hrequest entry
    rw [hrecords] at hr
    obtain ⟨-, -, j, -, hj⟩ := mem_requestRecords hr
    exact ⟨j, hj⟩
  distinct entry := by
    obtain ⟨ctx, ingestedAt, dtos, hrecords⟩ := hrequest entry
    rw [hrecords]
    exact requestRecords_ids (fun _ _ heq => (hids heq).2) ctx ingestedAt dtos

variable (hnumbered : Numbered recordId batchOf) (hids : Function.Injective2 recordId)
  {entries : List (α × Nat)} (hnodup : (entries.map Prod.snd).Nodup)
include hnumbered hids

/-- Records with one id are of one number. -/
theorem Numbered.same {a b : α × Nat} {x y : FinancialRecord} (hx : x ∈ (batchOf a).records)
    (hy : y ∈ (batchOf b).records) (h : x.base.id = y.base.id) : a.2 = b.2 := by
  obtain ⟨j, hj⟩ := hnumbered.drawn a x hx
  obtain ⟨j', hj'⟩ := hnumbered.drawn b y hy
  rw [hj, hj'] at h
  exact (hids h).1

include hnodup

theorem Numbered.distinctIds : DistinctIds (entries.map batchOf) := by
  unfold DistinctIds
  rw [List.flatMap_map, List.map_flatMap, List.nodup_flatMap]
  refine ⟨fun entry _ => hnumbered.distinct entry, ?_⟩
  refine (List.pairwise_map.1 hnodup).imp fun {a b} hne => List.disjoint_left.2 ?_
  intro id hid hid'
  obtain ⟨x, hx, rfl⟩ := List.mem_map.1 hid
  obtain ⟨y, hy, hxy⟩ := List.mem_map.1 hid'
  exact hne (hnumbered.same hids hx hy hxy.symm)

/-- **A request is separated** from the others when it meets none of them. -/
theorem Numbered.separated {entry : α × Nat} (hentry : entry ∈ entries)
    (hmeets : ∀ a ∈ entries, ∀ b ∈ entries, (batchOf a).merchantId = (batchOf b).merchantId →
      ∀ x ∈ (batchOf a).records, ∀ y ∈ (batchOf b).records, x.Meets (batchOf a).merchantId y →
        (a = entry ↔ b = entry)) :
    Separated (batchOf entry).owns (entries.map batchOf) := by
  intro b hb b' hb' hm x hx y hy hown hxy
  obtain ⟨a, ha, rfl⟩ := List.mem_map.1 hb
  obtain ⟨a', ha', rfl⟩ := List.mem_map.1 hb'
  have howns : ∀ c ∈ entries, ∀ z ∈ (batchOf c).records,
      ((batchOf entry).owns z.base.id = true ↔ c = entry) := by
    intro c hc z hz
    constructor
    · intro hzown
      obtain ⟨w, hw, hid⟩ := owns_iff.1 hzown
      exact List.inj_on_of_nodup_map hnodup hc hentry (hnumbered.same hids hz hw hid.symm)
    · rintro rfl
      exact owns_iff.2 ⟨z, hz, rfl⟩
  refine hown ?_
  rw [Bool.eq_iff_iff, howns a ha x hx, howns a' ha' y hy]
  exact hmeets a ha a' ha' hm x hx y hy hxy

end Numbered

/-! ## First come -/

section FirstCome

variable {before after : List ImportBatch} {b : ImportBatch}

/-- What has arrived of any history. -/
theorem arrived_importBatches {history : List ImportBatch} (hids : DistinctIds history) :
    Arrived history (importBatches history {}) := by
  have hsep : Separated (fun _ => false) history := fun _ _ _ _ _ _ _ _ _ hown => absurd rfl hown
  exact (importBatches_within hsep history (fun _ h => h) hids (unusedIds_empty _)
    (arrived_empty _)).1

/-- Batches add rows of their own records. -/
theorem importBatches_added (batches : List ImportBatch) (k : RecordKind) :
    ∀ {store : RecordStore}, DistinctIds batches → UnusedIds store batches →
      ∃ added, (importBatches batches store).rowsOf k = store.rowsOf k ++ added ∧
        ∀ row ∈ added, ∃ b ∈ batches, ∃ r ∈ b.records, ∃ links,
          r.row b.merchantId b.importId links = some row := by
  induction batches with
  | nil => exact fun _ _ => ⟨[], (List.append_nil _).symm, List.forall_mem_nil _⟩
  | cons b batches ih =>
      intro store hids hunused
      obtain ⟨counts, store', hins⟩ :=
        insertMany_commits (hids.freshIds hunused) ⟨b.merchantId⟩ b.importId
      obtain ⟨added, hadded, hfrom⟩ := insertMany_rows hins k
      obtain ⟨later, hlater, hlaterFrom⟩ := ih hids.tail (hunused.insertMany hids hins)
      refine ⟨added ++ later, ?_, List.forall_mem_append.2 ⟨fun row hrow => ?_, fun row hrow => ?_⟩⟩
      · rw [← List.append_assoc, ← hadded, ← hlater]
        unfold importBatches
        rw [List.foldl_cons, hins]
      · obtain ⟨r, hr, hrr⟩ := hfrom row hrow
        exact ⟨b, List.mem_cons_self, r, hr, _, hrr⟩
      · obtain ⟨b', hb', hrest⟩ := hlaterFrom row hrow
        exact ⟨b', List.mem_cons_of_mem _ hb', hrest⟩

theorem importBatches_append (xs ys : List ImportBatch) (store : RecordStore) :
    importBatches (xs ++ ys) store = importBatches ys (importBatches xs store) :=
  List.foldl_append

/-- A record that needs no other is stored under its identity once it has been imported. -/
theorem exists_row_of_imported {history : List ImportBatch} (hids : DistinctIds history)
    (hb : b ∈ history) {r : FinancialRecord} (hr : r ∈ b.records)
    (hparent : r.requiredParent = none) :
    ∃ row ∈ (importBatches history {}).rowsOf r.kind, row.key = r.sourceKey b.merchantId := by
  obtain ⟨before, after, rfl⟩ := List.append_of_mem hb
  obtain ⟨hrest, hunused⟩ := UnusedIds.importBatches before hids (unusedIds_empty _)
  obtain ⟨counts, store', hins⟩ :=
    insertMany_commits (hrest.freshIds hunused) ⟨b.merchantId⟩ b.importId
  have hheld : store'.Held b.merchantId r := (insertMany_inserted hins).held r hr fun p hp => by
    rw [hparent] at hp
    cases hp
  unfold RecordStore.Held at hheld
  rw [keys_eq] at hheld
  obtain ⟨row, hrow, hkey⟩ := List.mem_map.1 hheld
  obtain ⟨added, hadded, -⟩ :=
    importBatches_added after r.kind hrest.tail (hunused.insertMany hrest hins)
  refine ⟨row, ?_, hkey⟩
  rw [importBatches_append, importBatches, List.foldl_cons, hins, ← importBatches, hadded]
  exact List.mem_append_left _ hrow

/-- The records of the other imports have other ids. -/
theorem id_ne_of_other (hids : DistinctIds (before ++ b :: after)) {other : ImportBatch}
    (hother : other ∈ before ++ after) {x r : FinancialRecord} (hx : x ∈ other.records)
    (hr : r ∈ b.records) : x.base.id ≠ r.base.id := by
  intro heq
  have hmem : x ∈ (other.within b.owns).records :=
    List.mem_filter.2 ⟨hx, owns_iff.2 ⟨r, hr, heq.symm⟩⟩
  rw [within_owns_other hids other hother] at hmem
  cases hmem

/-- **First come.**  A record that comes again under an identity that is taken is not stored. -/
theorem not_stored_again (hids : DistinctIds (before ++ b :: after)) {b' : ImportBatch}
    (hb' : b' ∈ before) {r r' : FinancialRecord} (hr : r ∈ b.records) (hr' : r' ∈ b'.records)
    (hkind : r'.kind = r.kind) (hparent : r'.requiredParent = none)
    (hkey : r'.sourceKey b'.merchantId = r.sourceKey b.merchantId) :
    ∀ row ∈ (importBatches (before ++ b :: after) {}).rowsOf r.kind, row.base.id ≠ r.base.id := by
  intro row hrow hid
  have hbefore : DistinctIds before := by
    unfold DistinctIds at *
    rw [List.flatMap_append, List.map_append] at hids
    exact (List.nodup_append.1 hids).1
  have hwell := importBatches_wellFormed (before ++ b :: after) wellFormed_empty
  obtain ⟨hrest, hunused⟩ := UnusedIds.importBatches before hids (unusedIds_empty _)
  -- the row of the first import is still there
  obtain ⟨first, hfirst, hfirstKey⟩ := exists_row_of_imported hbefore hb' hr' hparent
  rw [hkind] at hfirst
  obtain ⟨b₁, hb₁, x₁, hx₁, links₁, hrow₁, -⟩ := arrived_importBatches hbefore _ _ hfirst
  have hstays : first ∈ (importBatches (before ++ b :: after) {}).rowsOf r.kind := by
    obtain ⟨added, hadded, -⟩ := importBatches_added (b :: after) r.kind hrest hunused
    rw [importBatches_append, hadded]
    exact List.mem_append_left _ hfirst
  -- the other row is that of the record, under the same identity
  obtain ⟨b₂, hb₂, x₂, hx₂, links₂, hrow₂, -⟩ := arrived_importBatches hids _ _ hrow
  have hid₂ : x₂.base.id = r.base.id := by
    rw [← hid, row_base hrow₂]
    rfl
  have hsame : row = first := by
    refine List.inj_on_of_nodup_map (hwell.rowsOf r.kind).1 hrow hstays ?_
    rcases List.mem_append.1 hb₂ with hb₂ | hb₂
    · exact absurd hid₂ (id_ne_of_other hids (List.mem_append_left _ hb₂) hx₂ hr)
    rcases List.mem_cons.1 hb₂ with rfl | hb₂
    · have hnodup := (hrest.freshIds hunused).1
      obtain rfl := List.inj_on_of_nodup_map hnodup hx₂ hr hid₂
      rw [row_key hrow₂, hfirstKey, hkey]
    · exact absurd hid₂ (id_ne_of_other hids (List.mem_append_right _ hb₂) hx₂ hr)
  refine id_ne_of_other hids (List.mem_append_left _ hb₁) hx₁ hr ?_
  rw [← hid, hsame, row_base hrow₁]
  rfl

end FirstCome

/-! ## The payment of a request -/

/-- **The payment of a request about one payment** is its only row, and has the unit that was
delivered. -/
theorem importRequest_payment {recordId : Nat → String} (hrecordId : Function.Injective recordId)
    (ctx : RequestContext) (ingestedAt : Date) (importId : String)
    {dtos : List FinancialRecordDto} {p : PaymentRecord}
    (hdistinct : ((contentsOf parseDate dtos).map (·.asParent)).Nodup)
    (habout : AboutPayment (deliveryOf (contentsOf parseDate dtos)) p) :
    ∃ row unit, (importRequest parseDate ctx recordId ingestedAt importId dtos).payments = [row] ∧
      row.importId = some importId ∧ row.merchantId = ctx.tenantId ∧ row.status = p.status ∧
      loadUnit (importRequest parseDate ctx recordId ingestedAt importId dtos) (scopeOf ctx)
        row.id = some unit ∧
      DeliveredUnit (deliveryOf (contentsOf parseDate dtos)) p unit := by
  have hids : ((requestRecords parseDate ctx recordId ingestedAt dtos).map (·.base.id)).Nodup :=
    requestRecords_ids hrecordId ctx ingestedAt dtos
  have hcontents : (requestRecords parseDate ctx recordId ingestedAt dtos).map (·.content) =
      contentsOf parseDate dtos := requestRecords_contents ctx recordId ingestedAt dtos
  unfold importRequest
  generalize requestRecords parseDate ctx recordId ingestedAt dtos = records at *
  rw [← hcontents] at hdistinct habout ⊢
  rw [deliveryOf_content] at habout ⊢
  have hdistinct' : (records.map (·.asParent)).Nodup := by
    rw [List.map_map] at hdistinct
    simpa only [Function.comp_def, content_asParent] using hdistinct
  obtain ⟨p', rfl, habout'⟩ := aboutPayment_of_content habout
  obtain ⟨unit, hload, hunit⟩ :=
    loadUnit_delivery hids hdistinct' habout' ctx.tenantId importId
  have hstored := insertMany_stored hids hdistinct' ctx.tenantId importId
  have hpayments : (insertMany (scopeOf ctx) importId records {}).2.payments =
      (deliveryOf records).payments.filterMap fun x =>
        ((FinancialRecord.payment x).row ctx.tenantId importId (setLinks records)).bind
          StoredRow.asPayment := by
    rw [deliveryOf, List.filterMap_filterMap]
    exact hstored.table selects_payment rfl
  rw [habout'.payment] at hpayments
  exact ⟨_, unit, hpayments, rfl, rfl, rfl, hload, deliveredUnit_content hunit⟩

end SettlementOps
