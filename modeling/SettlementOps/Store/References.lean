import SettlementOps.Store.Rows
import SettlementOps.Store.UnitLoader

/-!
# What a reference is resolved to

A record names the payment or the settlement it belongs to by the `payment_id` or the
`settlement_id` of that record, and the writer looks for the name among the source record
ids.  A reference is therefore right only where the two ids find the same record.

* `arrivals`, `parents` — the payments and settlements a batch can refer to.
* `LinkedTo` — a row is linked to the record that declared the id its own record names.
* `references_linked_iff` — it is, exactly where the name and the source record id agree.
-/

namespace SettlementOps

open Relational

/-- The id a payment or a settlement declares. -/
def FinancialRecord.businessId : FinancialRecord → Option String
  | .payment r => some r.paymentId
  | .settlement r => some r.settlementId
  | _ => none

/-- The id the record of a row declared: for the rows of a batch its records tell, for the rows
before it `stored` does, since a row does not keep the id. -/
def declaredId (stored : RecordKind → String → String) (records : List FinancialRecord)
    (kind : RecordKind) (id : String) : String :=
  ((records.find? fun r => r.kind = kind ∧ r.base.id = id).bind (·.businessId)).getD
    (stored kind id)

/-- The kinds of record that are named by their business id. -/
def namedKinds : List RecordKind := [.payment, .settlement]

/-- A record as it arrives: the id of its row and its source identity. -/
structure Arrival where
  id : String
  key : SourceKey
  deriving DecidableEq, Repr

/-- The merchant's stored rows of a kind, as they arrived. -/
def storedArrivals (m : MerchantId) (store : RecordStore) (kind : RecordKind) : List Arrival :=
  ((store.rowsOf kind).filter fun row => row.base.merchantId = m).map
    fun row => ⟨row.base.id, row.key⟩

/-- The records of a kind in the order they arrived: the merchant's stored rows, then the
batch. -/
def arrivals (m : MerchantId) (before : RecordStore) (records : List FinancialRecord)
    (kind : RecordKind) : List Arrival :=
  storedArrivals m before kind ++
    (records.filter fun r => r.kind = kind).map fun r => ⟨r.base.id, r.sourceKey m⟩

/-- Of the records of one source identity the first to arrive is the one that is stored. -/
def parents (m : MerchantId) (before : RecordStore) (records : List FinancialRecord)
    (kind : RecordKind) : List Arrival :=
  keepFirst Arrival.key (arrivals m before records kind)

section Links

variable (declared : RecordKind → String → String) (m : MerchantId)

/-- A link is to the merchant's stored record that declared the id that is named, and to none
if there is none. -/
def LinkedTo (store : RecordStore) (kind : RecordKind) (named link : Option String) : Prop :=
  ∀ id, link = some id ↔ ∃ n ∈ named, ∃ row ∈ store.rowsOf kind,
    row.base.merchantId = m ∧ row.base.id = id ∧ declared kind id = n

/-- Every payment and settlement a record names is the one its row is linked to. -/
def LinksDeclared (store : RecordStore) (r : FinancialRecord) (row : StoredRow) : Prop :=
  ∀ kind ∈ namedKinds, LinkedTo declared m store kind (r.names kind) (row.linkTo kind)

/-- A name finds the same parent as a source record id as it does as a business id.  What the
writer does not resolve names no parent. -/
def NamesAgree (parents : RecordKind → List Arrival) (r : FinancialRecord) : Prop :=
  ∀ kind ∈ namedKinds, ∀ n ∈ r.names kind,
    ((parents kind).find? fun a => declared kind a.id = n) =
      if r.references kind = none then none
      else (parents kind).find? fun a => a.key.sourceRecordId = n

instance (parents : RecordKind → List Arrival) (r : FinancialRecord) :
    Decidable (NamesAgree declared parents r) :=
  inferInstanceAs (Decidable (∀ kind ∈ namedKinds, ∀ n ∈ r.names kind, _))

end Links

/-! ## The parents are what the batch leaves in the store -/

section Parents

variable {m : MerchantId} {importId : String} {kind : RecordKind}

/-- A payment or a settlement requires no parent. -/
theorem requiredParent_eq_none {r : FinancialRecord} (hkind : r.kind ∈ namedKinds) :
    r.requiredParent = none := by
  cases r <;> first | rfl | simp [FinancialRecord.kind, namedKinds] at hkind

/-- An insert of another kind changes none of the arrivals, one of the kind is a new arrival
or comes too late. -/
theorem insertRecord_storedArrivals (hkind : kind ∈ namedKinds) {r : FinancialRecord}
    {store store' : RecordStore} {n : Nat}
    (h : insertRecord m importId r store = some (n, store')) :
    storedArrivals m store' kind =
      if r.kind = kind then
        keepNew Arrival.key (storedArrivals m store kind) ⟨r.base.id, r.sourceKey m⟩
      else storedArrivals m store kind := by
  by_cases hr : r.kind = kind
  · subst hr
    rw [if_pos rfl]
    obtain ⟨row, hrow⟩ := row_isSome (requiredParent_eq_none hkind) m importId (store.links m)
    have hbase := row_base hrow
    rcases insertRecord_cases h with ⟨-, rfl, hkey⟩ | ⟨-, row', hrow', rfl, hnew⟩
    · obtain ⟨x, hx, hxkey⟩ := hkey row hrow
      rw [keepNew, if_pos]
      refine List.any_eq_true.2 ⟨⟨x.base.id, x.key⟩, List.mem_map.2 ⟨x, ?_, rfl⟩, ?_⟩
      · refine List.mem_filter.2 ⟨hx, ?_⟩
        rw [← x.key_merchantId, hxkey, row.key_merchantId, hbase]
        simp [rowBase]
      · simp [hxkey, row_key hrow]
    · rw [hrow, Option.some.injEq] at hrow'
      subst hrow'
      rw [keepNew, if_neg]
      · unfold storedArrivals
        rw [RecordStore.rowsOf_push, if_pos (row_kind hrow).symm, List.filter_append,
          List.map_append]
        simp [hbase, rowBase, row_key hrow]
      · simp only [List.any_eq_true, decide_eq_true_eq, not_exists, not_and]
        intro a ha hkey
        obtain ⟨x, hx, rfl⟩ := List.mem_map.1 ha
        exact (hnew x (List.mem_filter.1 hx).1).1 (hkey.trans (row_key hrow).symm)
  · rw [if_neg hr]
    rcases insertRecord_cases h with ⟨-, rfl, -⟩ | ⟨-, row, hrow, rfl, -⟩
    · rfl
    · unfold storedArrivals
      rw [RecordStore.rowsOf_push, if_neg fun hk => hr (by rw [hk, row_kind hrow])]

theorem foldlM_storedArrivals (hkind : kind ∈ namedKinds) (records : List FinancialRecord) :
    ∀ {n n' : Nat} {store store' : RecordStore},
      records.foldlM (insertStep m importId) (n, store) = some (n', store') →
      storedArrivals m store' kind =
        ((records.filter fun r => r.kind = kind).map
          fun r => (⟨r.base.id, r.sourceKey m⟩ : Arrival)).foldl (keepNew Arrival.key)
            (storedArrivals m store kind) := by
  induction records with
  | nil =>
      intro n n' store store' h
      simp only [List.foldlM_nil] at h
      cases h
      rfl
  | cons r records ih =>
      intro n n' store store' h
      rw [List.foldlM_cons] at h
      obtain ⟨⟨n₁, store₁⟩, hstep, hfold⟩ := Option.bind_eq_some_iff.1 h
      obtain ⟨⟨_, _⟩, hins, heq⟩ := Option.map_eq_some_iff.1 hstep
      cases heq
      rw [ih hfold, insertRecord_storedArrivals hkind hins, List.filter_cons]
      by_cases hr : r.kind = kind
      · simp [hr]
      · simp [hr]

theorem storedArrivals_unique_key {store : RecordStore} (h : WellFormed store) :
    Unique Arrival.key (storedArrivals m store kind) := by
  have hkey := (h.rowsOf kind).1
  unfold Relational.Unique storedArrivals at *
  rw [List.map_map]
  exact hkey.sublist (List.filter_sublist.map _)

theorem storedArrivals_unique_id {store : RecordStore} (h : WellFormed store) :
    Unique Arrival.id (storedArrivals m store kind) := by
  have hid := (h.rowsOf kind).2
  unfold Relational.Unique storedArrivals at *
  rw [List.map_map]
  exact hid.sublist (List.filter_sublist.map _)

/-- **The parents are stored.**  After a batch the merchant's payments and settlements are
the first of each source identity to have arrived. -/
theorem insertMany_storedArrivals {before after : RecordStore} {records : List FinancialRecord}
    {counts : InsertCounts} (hkind : kind ∈ namedKinds) (hwf : WellFormed before)
    (h : insertMany ⟨m⟩ importId records before = (some counts, after)) :
    storedArrivals m after kind = parents m before records kind := by
  obtain ⟨n, hfold, -⟩ := insertMany_foldlM h
  rw [foldlM_storedArrivals hkind _ hfold, filter_inInsertOrder, parents, arrivals,
    keepFirst_append, keepFirst_of_unique (storedArrivals_unique_key hwf)]

end Parents

/-! ## What a link finds -/

/-- An accepted record's row is the only one with its id. -/
theorem insertMany_row {m : MerchantId} {importId : String} {records : List FinancialRecord}
    {before after : RecordStore} {counts : InsertCounts} (hids : FreshIds before records)
    (h : insertMany ⟨m⟩ importId records before = (some counts, after))
    {r : FinancialRecord} (hr : r ∈ records) {row : StoredRow} (hrow : row ∈ after.rowsOf r.kind)
    (hid : row.base.id = r.base.id) : r.row m importId (after.links m) = some row := by
  obtain ⟨added, hadded, hfrom⟩ := insertMany_rows h r.kind
  rw [hadded] at hrow
  rcases List.mem_append.1 hrow with hold | hnew
  · exact absurd hid (hids.fresh r hr row hold)
  · obtain ⟨x, hx, hxx⟩ := hfrom row hnew
    have hxid : x.base.id = r.base.id := by
      rw [← hid, row_base hxx]
      rfl
    rwa [List.inj_on_of_nodup_map hids.distinct hx hr hxid] at hxx

section Links

variable {declared : RecordKind → String → String} {m : MerchantId} {kind : RecordKind}

/-- A source record id finds the first parent that carries it. -/
theorem links_eq_storedArrivals (store : RecordStore) (n : String) :
    store.links m kind n =
      ((storedArrivals m store kind).find? fun a => a.key.sourceRecordId = n).map (·.id) := by
  unfold RecordStore.links storedArrivals
  rw [List.find?_map, List.find?_filter, Option.map_map]
  simp only [Function.comp_def, decide_eq_true_eq, StoredRow.key_sourceRecordId]

/-- The parent that declared an id, if no two parents declared the same. -/
def declaredParent (declared : RecordKind → String → String) (kind : RecordKind)
    (parents : List Arrival) (n : String) : Option Arrival :=
  parents.find? fun a => declared kind a.id = n

/-- A link is right when it is to the parent that declared the id. -/
theorem linkedTo_iff {store : RecordStore} {named link : Option String}
    (hunique : ∀ a ∈ storedArrivals m store kind, ∀ b ∈ storedArrivals m store kind,
      declared kind a.id = declared kind b.id → a = b) :
    LinkedTo declared m store kind named link ↔
      link = named.bind fun n =>
        (declaredParent declared kind (storedArrivals m store kind) n).map (·.id) := by
  have hmem (n id : String) :
      (∃ row ∈ store.rowsOf kind,
          row.base.merchantId = m ∧ row.base.id = id ∧ declared kind id = n) ↔
        (declaredParent declared kind (storedArrivals m store kind) n).map (·.id) = some id := by
    have hfind (a : Arrival) :
        declaredParent declared kind (storedArrivals m store kind) n = some a ↔
          a ∈ storedArrivals m store kind ∧ decide (declared kind a.id = n) = true :=
      find?_eq_some_iff_of_unique fun a ha b hb hpa hpb => hunique a ha b hb
        ((of_decide_eq_true hpa).trans (of_decide_eq_true hpb).symm)
    rw [Option.map_eq_some_iff]
    constructor
    · rintro ⟨row, hrow, hm, rfl, hn⟩
      refine ⟨⟨row.base.id, row.key⟩, (hfind _).2 ⟨?_, decide_eq_true hn⟩, rfl⟩
      exact List.mem_map.2 ⟨row, List.mem_filter.2 ⟨hrow, decide_eq_true hm⟩, rfl⟩
    · rintro ⟨a, ha, rfl⟩
      obtain ⟨hstored, hn⟩ := (hfind a).1 ha
      obtain ⟨row, hrow, rfl⟩ := List.mem_map.1 hstored
      obtain ⟨hrow, hm⟩ := List.mem_filter.1 hrow
      exact ⟨row, hrow, of_decide_eq_true hm, rfl, of_decide_eq_true hn⟩
  unfold LinkedTo
  simp only [hmem]
  constructor
  · intro h
    refine Option.ext fun id => ?_
    rw [h id, Option.bind_eq_some_iff]
    rfl
  · rintro rfl id
    rw [Option.bind_eq_some_iff]
    rfl

/-- The writer resolves a reference to the record it names, or does not resolve it. -/
theorem references_eq (r : FinancialRecord) (k : RecordKind) :
    r.references k = none ∨ r.references k = r.names k := by
  cases r <;> cases k <;> first | exact .inr rfl | exact .inl rfl

end Links

/-- **When a reference is linked to the record that declared it.**  The payments and
settlements an accepted record names are the ones its row is linked to exactly when, among
the merchant's stored payments and settlements, each name is found as a source record id
where it is found as a business id; for the settlement a fee names, exactly when no
settlement declared it. -/
theorem references_linked_iff (stored : RecordKind → String → String) (m : MerchantId)
    (importId : String) (records : List FinancialRecord) (before after : RecordStore)
    (counts : InsertCounts) (hwf : WellFormed before) (hids : FreshIds before records)
    (hunique : ∀ kind ∈ namedKinds, ∀ a ∈ arrivals m before records kind,
      ∀ b ∈ arrivals m before records kind,
        declaredId stored records kind a.id = declaredId stored records kind b.id →
          a.key = b.key)
    (h : insertMany ⟨m⟩ importId records before = (some counts, after))
    (r : FinancialRecord) (hr : r ∈ records) (row : StoredRow) (hrow : row ∈ after.rowsOf r.kind)
    (hid : row.base.id = r.base.id) :
    LinksDeclared (declaredId stored records) m after r row ↔
      NamesAgree (declaredId stored records) (parents m before records) r := by
  -- Which ids the records declared does not matter.
  generalize declaredId stored records = declared at hunique ⊢
  have hrr := insertMany_row hids h hr hrow hid
  have hwfAfter : WellFormed after := by
    have hkeep := insertMany_wellFormed hwf ⟨m⟩ importId records
    rwa [h] at hkeep
  unfold LinksDeclared NamesAgree
  refine forall₂_congr fun kind hkind => ?_
  have hstored : storedArrivals m after kind = parents m before records kind :=
    insertMany_storedArrivals hkind hwf h
  have hparent : ∀ a ∈ parents m before records kind, ∀ b ∈ parents m before records kind,
      declared kind a.id = declared kind b.id → a = b := by
    intro a ha b hb hab
    have hkey := hunique kind hkind a (mem_of_mem_keepFirst ha) b (mem_of_mem_keepFirst hb) hab
    exact (keepFirst_unique _).eq ha hb hkey
  have hparentId : Relational.Unique Arrival.id (parents m before records kind) := by
    rw [← hstored]
    exact storedArrivals_unique_id hwfAfter
  rw [linkedTo_iff (by rwa [hstored]), row_linkTo hrr, hstored]
  cases hn : r.names kind with
  | none =>
      have hnone : r.references kind = none := by
        rcases references_eq r kind with href | href
        · exact href
        · rw [href, hn]
      simp [hnone]
  | some n =>
      simp only [Option.bind_some, Option.mem_def, Option.some.injEq, forall_eq']
      rcases references_eq r kind with href | href
      · rw [href, if_pos rfl, declaredParent, Option.bind_none, eq_comm, Option.map_eq_none_iff]
      · rw [href, hn, if_neg (by simp), Option.bind_some, links_eq_storedArrivals, hstored,
          declaredParent]
        constructor
        · intro hmap
          exact hparentId.find?_eq hmap.symm
        · intro hfind
          rw [hfind]

/-! ## A refund of another payment -/

/-- A payment whose business id is not its source record id. -/
def numberedPayment (id sourceRecordId paymentId : String) : FinancialRecord :=
  .payment { sampleUnit.payment with
    id := id
    lineage := ⟨"gateway", sourceRecordId, ⟨0⟩, ⟨0⟩, "v1"⟩
    paymentId := paymentId }

def namingRefund : FinancialRecord :=
  .refund { sampleBase "ref-1" with
    refundId := "ref-1"
    paymentId := "pay-1"
    amount := ⟨50_000, "INR"⟩
    status := .processed
    createdAt := ⟨1_770_026_400_000⟩
    settledAt := none }

/-- The source record id of the second payment is the business id of the first, whose refund
the batch carries. -/
def numberedApart : List FinancialRecord :=
  [numberedPayment "row-1" "txn-7" "pay-1", numberedPayment "row-2" "pay-1" "pay-2", namingRefund]

/-- The store after the import of the payments and the refund. -/
def numberedStore : RecordStore := (insertMany ⟨"m-1"⟩ "import-1" numberedApart {}).2

/-- The refund of the first payment is linked to the second. -/
theorem refund_of_another_payment :
    WellFormed {} ∧ FreshIds {} numberedApart ∧
    (∀ kind ∈ namedKinds, ∀ a ∈ arrivals "m-1" {} numberedApart kind,
      ∀ b ∈ arrivals "m-1" {} numberedApart kind,
        declaredId (fun _ id => id) numberedApart kind a.id =
          declaredId (fun _ id => id) numberedApart kind b.id → a.key = b.key) ∧
    insertMany ⟨"m-1"⟩ "import-1" numberedApart {} = (some ⟨3, 0⟩, numberedStore) ∧
    ∃ row ∈ numberedStore.rowsOf .refund, row.base.id = namingRefund.base.id ∧
      row.linkTo .payment = some "row-2" ∧
      ¬ LinksDeclared (declaredId (fun _ id => id) numberedApart) "m-1" numberedStore
        namingRefund row := by
  refine ⟨wellFormed_empty, ⟨by decide, by decide⟩, by decide, rfl, _, List.mem_singleton_self _,
    rfl, rfl, fun hlinks => ?_⟩
  obtain ⟨n, hn, row, -, -, -, hdeclared⟩ := (hlinks .payment (by decide) "row-2").1 rfl
  cases hn
  exact absurd hdeclared (by decide)

/-- In the sample import the ids are the same, and the line is linked to the payment and to
the settlement it names. -/
theorem line_linked_sampleStore :
    ∃ row ∈ sampleStore.rowsOf .settlementLine, row.base.id = "line-1" ∧
      ∀ line ∈ sampleUnit.settlementLines,
        LinksDeclared (declaredId (fun _ id => id) sampleImport) "m-1" sampleStore
          (.settlementLine line) row := by
  refine ⟨_, List.mem_singleton_self _, rfl, fun line hline => ?_⟩
  cases List.mem_singleton.1 hline
  exact (references_linked_iff (fun _ id => id) "m-1" "import-1" sampleImport {} sampleStore
    ⟨6, 0⟩ wellFormed_empty ⟨by decide, by decide⟩ (by decide) rfl _ (by decide) _
    (List.mem_singleton_self _) rfl).2 (by decide)

end SettlementOps
