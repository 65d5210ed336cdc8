import SettlementOps.Store.Schema

/-!
# The record writer

Duplicate rejection is left to the source-uniqueness constraints (`ON CONFLICT DO NOTHING`),
and the accepted/duplicate split is derived from the row counts.  References between records
arrive as source record ids and are resolved when a row is inserted: an optional parent that
is not there leaves a null, and a refund or a settlement line without its parent inserts no
row at all.

* `insertOrder` … `insertLedgerEntry`, `insertRecord` — the inserters.
* `insertRecords`, `insertMany` — a batch in dependency order, in one transaction.
* `insertRecord_keys` — all that one insert does to the identities the store holds.
* `insertMany_inserted` — after a batch each of its records is held or lacks its parent.
* `insertMany_wellFormed` — the constraints survive.
-/

namespace SettlementOps

open Relational

/-! ## Inserting one record -/

section Inserters

variable (merchantId : MerchantId) (importId : String)

/-- The row a reference by source record id finds. -/
def findSource {ρ : Type} (base : ρ → RowBase) (rows : List ρ) (sourceRecordId : Option String) :
    Option ρ :=
  sourceRecordId.bind fun ref =>
    rows.find? fun row =>
      (base row).merchantId = merchantId ∧ (base row).sourceRecordId = ref

/-- The columns every row takes from its record and its import. -/
def rowBase (r : RecordBase) : RowBase := ⟨r.id, merchantId, r.lineage.sourceRecordId, some importId⟩

def sourcedRow (r : RecordBase) : SourcedRow :=
  ⟨rowBase merchantId importId r, r.lineage.sourceSystem⟩

/-- A `DATE` column keeps the day of an instant. -/
def dateColumn (d : Date) : Date := ⟨Calendar.dayNumber d * Calendar.msPerDay⟩

def insertOrder (r : OrderRecord) : RecordStore → Option (Nat × RecordStore) :=
  ordersTable.insert {
    toSourcedRow := sourcedRow merchantId importId r.toRecordBase
    customerReference := r.customerReference
    amount := r.amount
    status := r.status
    createdAt := r.createdAt }

def insertPayment (r : PaymentRecord) (store : RecordStore) : Option (Nat × RecordStore) :=
  paymentsTable.insert {
    toSourcedRow := sourcedRow merchantId importId r.toRecordBase
    orderId := (findSource merchantId (fun o : OrderRow => o.toRowBase) store.orders
      r.orderId).map (·.id)
    amount := r.amount
    paymentMethod := r.paymentMethod
    status := r.status
    authorizedAt := r.authorizedAt
    capturedAt := r.capturedAt } store

def insertSettlement (r : SettlementRecord) : RecordStore → Option (Nat × RecordStore) :=
  settlementsTable.insert {
    toSourcedRow := sourcedRow merchantId importId r.toRecordBase
    grossAmountMinor := r.grossAmount.amountMinor
    netAmountMinor := r.netAmount.amountMinor
    currency := r.grossAmount.currency
    settlementAt := r.settlementAt
    status := r.status
    utr := r.utr }

/-- The row is selected from the settlement: without one there is none to insert. -/
def insertSettlementLine (r : SettlementLineRecord) (store : RecordStore) :
    Option (Nat × RecordStore) :=
  match findSource merchantId (fun s : SettlementRow => s.toRowBase) store.settlements
      (some r.settlementId) with
  | none => some (0, store)
  | some s =>
      settlementLinesTable.insert {
        toRowBase := rowBase merchantId importId r.toRecordBase
        settlementId := s.id
        paymentId := (findSource merchantId (fun p : PaymentRow => p.toRowBase) store.payments
          r.paymentId).map (·.id)
        lineType := r.lineType
        amount := r.amount } store

/-- The settlement a fee names is not written. -/
def insertFeeLine (r : FeeLineRecord) (store : RecordStore) : Option (Nat × RecordStore) :=
  feeLinesTable.insert {
    toRowBase := rowBase merchantId importId r.toRecordBase
    paymentId := (findSource merchantId (fun p : PaymentRow => p.toRowBase) store.payments
      r.paymentId).map (·.id)
    settlementId := none
    feeType := r.feeType
    amount := r.amount
    effectiveDate := dateColumn r.effectiveDate } store

def insertTaxLine (r : TaxLineRecord) (store : RecordStore) : Option (Nat × RecordStore) :=
  taxLinesTable.insert {
    toRowBase := rowBase merchantId importId r.toRecordBase
    feeLineId := (findSource merchantId (fun f : FeeLineRow => f.toRowBase) store.feeLines
      r.feeLineId).map (·.id)
    taxType := r.taxType
    amount := r.amount
    period := r.period } store

/-- The row is selected from the payment: without one there is none to insert. -/
def insertRefund (r : RefundRecord) (store : RecordStore) : Option (Nat × RecordStore) :=
  match findSource merchantId (fun p : PaymentRow => p.toRowBase) store.payments
      (some r.paymentId) with
  | none => some (0, store)
  | some p =>
      refundsTable.insert {
        toSourcedRow := sourcedRow merchantId importId r.toRecordBase
        paymentId := p.id
        amount := r.amount
        status := r.status
        createdAt := r.createdAt
        settledAt := r.settledAt } store

def insertAdjustment (r : AdjustmentRecord) (store : RecordStore) :
    Option (Nat × RecordStore) :=
  adjustmentsTable.insert {
    toRowBase := rowBase merchantId importId r.toRecordBase
    settlementId := (findSource merchantId (fun s : SettlementRow => s.toRowBase)
      store.settlements r.settlementId).map (·.id)
    reference := r.reference
    amount := r.amount
    effectiveAt := r.effectiveAt
    reasonCode := r.reasonCode } store

def insertBankCredit (r : BankCreditRecord) : RecordStore → Option (Nat × RecordStore) :=
  bankCreditsTable.insert {
    toSourcedRow := sourcedRow merchantId importId r.toRecordBase
    utr := r.utr
    amount := r.amount
    creditedAt := r.creditedAt
    bankReference := r.bankReference }

def insertLedgerEntry (r : LedgerEntryRecord) : RecordStore → Option (Nat × RecordStore) :=
  ledgerEntriesTable.insert {
    toRowBase := rowBase merchantId importId r.toRecordBase
    referenceType := r.referenceType
    referenceId := r.referenceId
    amount := r.amount
    entryType := r.entryType
    postedAt := r.postedAt
    status := r.status }

/-- The inserter of a record's kind: the number of rows inserted and the store, or a failed
statement. -/
def insertRecord : FinancialRecord → RecordStore → Option (Nat × RecordStore)
  | .order r => insertOrder merchantId importId r
  | .payment r => insertPayment merchantId importId r
  | .settlement r => insertSettlement merchantId importId r
  | .settlementLine r => insertSettlementLine merchantId importId r
  | .feeLine r => insertFeeLine merchantId importId r
  | .taxLine r => insertTaxLine merchantId importId r
  | .refund r => insertRefund merchantId importId r
  | .adjustment r => insertAdjustment merchantId importId r
  | .bankCredit r => insertBankCredit merchantId importId r
  | .ledgerEntry r => insertLedgerEntry merchantId importId r

/-! ## Inserting a batch -/

/-- Insert order matters: a single batch may carry a whole lifecycle. -/
def INSERT_ORDER : List RecordKind :=
  [.order, .payment, .settlement, .feeLine, .taxLine, .refund, .adjustment, .settlementLine,
    .bankCredit, .ledgerEntry]

/-- The records of a batch in the order they are inserted. -/
def inInsertOrder (records : List FinancialRecord) : List FinancialRecord :=
  INSERT_ORDER.flatMap fun kind => records.filter fun r => r.kind = kind

structure InsertCounts where
  accepted : Int
  duplicates : Int
  deriving DecidableEq, Repr

/-- One round of the loop. -/
def insertStep (st : Nat × RecordStore) (record : FinancialRecord) :
    Option (Nat × RecordStore) :=
  (insertRecord merchantId importId record st.2).map fun out => (st.1 + out.1, out.2)

def insertRecords (records : List FinancialRecord) (store : RecordStore) :
    Option (InsertCounts × RecordStore) :=
  ((inInsertOrder records).foldlM (insertStep merchantId importId) (0, store)).map
    fun out => (⟨out.1, records.length - out.1⟩, out.2)

end Inserters

/-- One transaction: a failed statement leaves the store as it was. -/
def insertMany (scope : MerchantScope) (importId : String) (records : List FinancialRecord)
    (store : RecordStore) : Option InsertCounts × RecordStore :=
  if records.length = 0 then (some ⟨0, 0⟩, store)
  else
    match insertRecords scope.merchantId importId records store with
    | some (counts, store') => (some counts, store')
    | none => (none, store)

/-! ## What an insert does to the identities a store holds -/

/-- The tables that keep the source system of a record. -/
def keepsSourceSystem : RecordKind → Bool
  | .order | .payment | .settlement | .refund | .bankCredit => true
  | _ => false

/-- The identity a record is stored under. -/
def FinancialRecord.sourceKey (merchantId : MerchantId) (r : FinancialRecord) : SourceKey where
  merchantId := merchantId
  sourceSystem := if keepsSourceSystem r.kind then some r.base.lineage.sourceSystem else none
  sourceRecordId := r.base.lineage.sourceRecordId

/-- The reference other records have to a record: its kind and source record id. -/
def FinancialRecord.asParent (r : FinancialRecord) : RecordKind × String :=
  (r.kind, r.base.lineage.sourceRecordId)

/-- The record without which the record is not inserted: its kind and source record id. -/
def FinancialRecord.requiredParent : FinancialRecord → Option (RecordKind × String)
  | .refund r => some (.payment, r.paymentId)
  | .settlementLine r => some (.settlement, r.settlementId)
  | _ => none

namespace RecordStore

/-- A row stands in the store under the record's identity. -/
def Held (store : RecordStore) (merchantId : MerchantId) (r : FinancialRecord) : Prop :=
  r.sourceKey merchantId ∈ store.keys r.kind

instance (store : RecordStore) (merchantId : MerchantId) (r : FinancialRecord) :
    Decidable (store.Held merchantId r) :=
  inferInstanceAs (Decidable (_ ∈ _))

/-- Some row of a kind has a source record id. -/
def HasSource (store : RecordStore) (merchantId : MerchantId) (p : RecordKind × String) : Prop :=
  ∃ k ∈ store.keys p.1, k.merchantId = merchantId ∧ k.sourceRecordId = p.2

instance (store : RecordStore) (merchantId : MerchantId) (p : RecordKind × String) :
    Decidable (store.HasSource merchantId p) :=
  inferInstanceAs (Decidable (∃ k ∈ _, _))

/-- The record a record requires is stored. -/
def ParentStored (store : RecordStore) (merchantId : MerchantId) (r : FinancialRecord) : Prop :=
  ∀ p ∈ r.requiredParent, store.HasSource merchantId p

instance (store : RecordStore) (merchantId : MerchantId) (r : FinancialRecord) :
    Decidable (store.ParentStored merchantId r) :=
  inferInstanceAs (Decidable (∀ p ∈ r.requiredParent, _))

end RecordStore

theorem findSource_eq_none {ρ : Type} {merchantId : MerchantId} {base : ρ → RowBase}
    {rows : List ρ} {ref : String} (h : findSource merchantId base rows (some ref) = none) :
    ∀ row ∈ rows, ¬ ((base row).merchantId = merchantId ∧ (base row).sourceRecordId = ref) := by
  simpa [findSource] using h

theorem mem_of_findSource {ρ : Type} {merchantId : MerchantId} {base : ρ → RowBase}
    {rows : List ρ} {ref : Option String} {row : ρ}
    (h : findSource merchantId base rows ref = some row) : row ∈ rows := by
  obtain ⟨s, -, hfind⟩ := Option.bind_eq_some_iff.1 h
  exact List.mem_of_find?_eq_some hfind

section InsertRecord

variable {merchantId : MerchantId} {importId : String} {r : FinancialRecord}
  {store store' : RecordStore} {n : Nat}

/-- **All that one insert does**: it adds the record's identity, or it adds nothing because
the identity is there or the parent is not. -/
theorem insertRecord_keys (h : insertRecord merchantId importId r store = some (n, store')) :
    (n = 0 ∧ store' = store ∧
        (store.Held merchantId r ∨ ¬ store.ParentStored merchantId r)) ∨
      (n = 1 ∧ ∀ k, store'.keys k =
        if k = r.kind then store.keys k ++ [r.sourceKey merchantId] else store.keys k) := by
  have held {ρ : Type} {T : Table RecordStore ρ SourceKey} {row : ρ} (hT : HoldsKind T r.kind)
      (hkey : T.key row = r.sourceKey merchantId) (hins : T.insert row store = some (n, store')) :
      (n = 0 ∧ store' = store ∧
          (store.Held merchantId r ∨ ¬ store.ParentStored merchantId r)) ∨
        (n = 1 ∧ ∀ k, store'.keys k =
          if k = r.kind then store.keys k ++ [r.sourceKey merchantId] else store.keys k) := by
    rw [← hkey]
    rcases hT.insert_keys hins with ⟨hn, hstore, hmem⟩ | hnew
    · exact .inl ⟨hn, hstore, .inl (by rw [RecordStore.Held, ← hkey]; exact hmem)⟩
    · exact .inr hnew
  cases r with
  | order r => exact held holdsKind_orders rfl h
  | payment r => exact held holdsKind_payments rfl h
  | settlement r => exact held holdsKind_settlements rfl h
  | feeLine r => exact held holdsKind_feeLines rfl h
  | taxLine r => exact held holdsKind_taxLines rfl h
  | adjustment r => exact held holdsKind_adjustments rfl h
  | bankCredit r => exact held holdsKind_bankCredits rfl h
  | ledgerEntry r => exact held holdsKind_ledgerEntries rfl h
  | settlementLine r =>
      simp only [insertRecord, insertSettlementLine] at h
      split at h
      · rename_i hnone
        cases h
        refine .inl ⟨rfl, rfl, .inr fun hparent => ?_⟩
        obtain ⟨k, hk, hm, hid⟩ := hparent _ rfl
        obtain ⟨row, hrow, rfl⟩ := List.mem_map.1 hk
        exact findSource_eq_none hnone row hrow ⟨hm, hid⟩
      · exact held holdsKind_settlementLines rfl h
  | refund r =>
      simp only [insertRecord, insertRefund] at h
      split at h
      · rename_i hnone
        cases h
        refine .inl ⟨rfl, rfl, .inr fun hparent => ?_⟩
        obtain ⟨k, hk, hm, hid⟩ := hparent _ rfl
        obtain ⟨row, hrow, rfl⟩ := List.mem_map.1 hk
        exact findSource_eq_none hnone row hrow ⟨hm, hid⟩
      · exact held holdsKind_refunds rfl h

/-- Identities stay. -/
theorem insertRecord_subset (h : insertRecord merchantId importId r store = some (n, store'))
    {kind : RecordKind} {k : SourceKey} (hk : k ∈ store.keys kind) : k ∈ store'.keys kind := by
  rcases insertRecord_keys h with ⟨-, rfl, -⟩ | ⟨-, hkeys⟩
  · exact hk
  · rw [hkeys]
    split
    · exact List.mem_append_left _ hk
    · exact hk

/-- After its insert a record is held or lacks its parent. -/
theorem insertRecord_held (h : insertRecord merchantId importId r store = some (n, store')) :
    store'.ParentStored merchantId r → store'.Held merchantId r := by
  rcases insertRecord_keys h with ⟨-, rfl, hheld | hparent⟩ | ⟨-, hkeys⟩
  · exact fun _ => hheld
  · exact fun hstored => absurd hstored hparent
  · intro _
    rw [RecordStore.Held, hkeys, if_pos rfl]
    simp

/-- The only reference an insert makes resolvable is one to its own record. -/
theorem insertRecord_hasSource
    (h : insertRecord merchantId importId r store = some (n, store')) {merchantId' : MerchantId}
    {p : RecordKind × String} (hp : store'.HasSource merchantId' p) :
    store.HasSource merchantId' p ∨ merchantId' = merchantId ∧ p = r.asParent := by
  rcases insertRecord_keys h with ⟨-, rfl, -⟩ | ⟨-, hkeys⟩
  · exact .inl hp
  · obtain ⟨k, hk, hm, hid⟩ := hp
    rw [hkeys] at hk
    split at hk
    · rename_i hkind
      rcases List.mem_append.1 hk with hk | hk
      · exact .inl ⟨k, hk, hm, hid⟩
      · rw [List.mem_singleton] at hk
        subst hk
        exact .inr ⟨hm.symm, Prod.ext hkind hid.symm⟩
    · exact .inl ⟨k, hk, hm, hid⟩

end InsertRecord

theorem RecordStore.Held.mono {store store' : RecordStore} {merchantId : MerchantId}
    {r : FinancialRecord} (hsub : ∀ kind, ∀ k ∈ store.keys kind, k ∈ store'.keys kind)
    (h : store.Held merchantId r) : store'.Held merchantId r :=
  hsub _ _ h

/-! ## What a batch does -/

theorem mem_inInsertOrder {records : List FinancialRecord} {r : FinancialRecord} :
    r ∈ inInsertOrder records ↔ r ∈ records := by
  simp only [inInsertOrder, List.mem_flatMap, List.mem_filter, decide_eq_true_eq]
  constructor
  · rintro ⟨kind, -, hr, -⟩
    exact hr
  · intro hr
    refine ⟨r.kind, ?_, hr, rfl⟩
    cases r.kind <;> decide

/-- The kind of the record a record of a kind requires. -/
def parentKind : RecordKind → Option RecordKind
  | .refund => some .payment
  | .settlementLine => some .settlement
  | _ => none

theorem requiredParent_kind {r : FinancialRecord} {p : RecordKind × String}
    (h : r.requiredParent = some p) : parentKind r.kind = some p.1 := by
  cases r <;> cases h <;> rfl

/-- A relation of each kind to the ones inserted later holds along a batch. -/
theorem inInsertOrder_pairwise_of {R : RecordKind → RecordKind → Prop}
    (horder : INSERT_ORDER.Pairwise R) (hself : ∀ k ∈ INSERT_ORDER, R k k)
    (records : List FinancialRecord) :
    (inInsertOrder records).Pairwise fun r x => R r.kind x.kind := by
  have hkind {k k' : RecordKind} (hk : R k k') :
      ∀ r ∈ records.filter (fun r => r.kind = k), ∀ x ∈ records.filter (fun r => r.kind = k'),
        R r.kind x.kind := by
    intro r hr x hx
    have hrk : r.kind = k := by simpa using (List.mem_filter.1 hr).2
    have hxk : x.kind = k' := by simpa using (List.mem_filter.1 hx).2
    rw [hrk, hxk]
    exact hk
  unfold inInsertOrder
  rw [List.pairwise_flatMap]
  refine ⟨fun k hk => ?_, horder.imp hkind⟩
  refine List.Pairwise.imp_of_mem (R := fun _ _ => True) ?_
    (List.pairwise_of_forall fun _ _ => trivial)
  intro r x hr hx _
  exact hkind (hself k hk) r hr x hx

/-- Parents come first: no record is followed by one it requires. -/
theorem inInsertOrder_pairwise (records : List FinancialRecord) :
    (inInsertOrder records).Pairwise fun r x => r.requiredParent ≠ some x.asParent := by
  have horder : INSERT_ORDER.Pairwise fun k k' => parentKind k ≠ some k' := by decide
  refine (inInsertOrder_pairwise_of horder (by decide) records).imp fun hkind hparent => ?_
  exact hkind (requiredParent_kind hparent)

section Batch

variable {merchantId : MerchantId} {importId : String} {records : List FinancialRecord}
  {store store' : RecordStore}

/-- What a run of the loop has done. -/
structure Inserted (merchantId : MerchantId) (records : List FinancialRecord)
    (store store' : RecordStore) : Prop where
  subset : ∀ kind, ∀ k ∈ store.keys kind, k ∈ store'.keys kind
  hasSource : ∀ m p, store'.HasSource m p →
    store.HasSource m p ∨ m = merchantId ∧ ∃ x ∈ records, p = x.asParent
  held : ∀ r ∈ records, store'.ParentStored merchantId r → store'.Held merchantId r

theorem inserted_nil (merchantId : MerchantId) (store : RecordStore) :
    Inserted merchantId [] store store where
  subset _ _ hk := hk
  hasSource _ _ hp := .inl hp
  held _ hr := absurd hr List.not_mem_nil

/-- One insert before the others, none of which is its record's parent. -/
theorem Inserted.cons {r : FinancialRecord} {n : Nat} {store₁ : RecordStore}
    (hr : insertRecord merchantId importId r store = some (n, store₁))
    (hlast : ∀ x ∈ records, r.requiredParent ≠ some x.asParent)
    (h : Inserted merchantId records store₁ store') :
    Inserted merchantId (r :: records) store store' where
  subset kind k hk := h.subset kind k (insertRecord_subset hr hk)
  hasSource m p hp := by
    rcases h.hasSource m p hp with hp | ⟨hm, x, hx, hpx⟩
    · rcases insertRecord_hasSource hr hp with hp | ⟨hm, hpr⟩
      · exact .inl hp
      · exact .inr ⟨hm, r, List.mem_cons_self, hpr⟩
    · exact .inr ⟨hm, x, List.mem_cons_of_mem _ hx, hpx⟩
  held x hx := by
    rcases List.mem_cons.1 hx with rfl | hx
    · intro hstored
      have hbefore : store₁.ParentStored merchantId x := by
        intro p hp
        rcases h.hasSource merchantId p (hstored p hp) with hsource | ⟨-, y, hy, rfl⟩
        · exact hsource
        · exact absurd hp (hlast y hy)
      exact (insertRecord_held hr hbefore).mono h.subset
    · exact h.held x hx

theorem foldlM_inserted (hpairs : records.Pairwise fun r x => r.requiredParent ≠ some x.asParent) :
    ∀ {k k' : Nat} {store store' : RecordStore},
      records.foldlM (insertStep merchantId importId) (k, store) = some (k', store') →
      Inserted merchantId records store store' := by
  induction records with
  | nil =>
      intro k k' store store' h
      simp only [List.foldlM_nil] at h
      cases h
      exact inserted_nil _ _
  | cons r records ih =>
      intro k k' store store' h
      obtain ⟨hlast, hrest⟩ := List.pairwise_cons.1 hpairs
      rw [List.foldlM_cons] at h
      obtain ⟨⟨k₁, store₁⟩, hstep, hfold⟩ := Option.bind_eq_some_iff.1 h
      obtain ⟨⟨n, store₁'⟩, hins, heq⟩ := Option.map_eq_some_iff.1 hstep
      cases heq
      exact Inserted.cons hins hlast (ih hrest hfold)

/-- **A committed batch holds each of its records whose parent is stored.** -/
theorem insertMany_inserted {scope : MerchantScope} {counts : InsertCounts}
    (h : insertMany scope importId records store = (some counts, store')) :
    Inserted scope.merchantId records store store' := by
  unfold insertMany at h
  split at h
  · rename_i hnil
    cases h
    rw [List.length_eq_zero_iff.1 hnil]
    exact inserted_nil _ _
  split at h
  · rename_i counts' store₁ hins
    cases h
    obtain ⟨⟨k, store₂⟩, hfold, heq⟩ := Option.map_eq_some_iff.1 hins
    cases heq
    have hall := foldlM_inserted (inInsertOrder_pairwise records) hfold
    refine ⟨hall.subset, fun m p hp => ?_, fun r hr => hall.held r (mem_inInsertOrder.2 hr)⟩
    rcases hall.hasSource m p hp with hp | ⟨hm, x, hx, hpx⟩
    · exact .inl hp
    · exact .inr ⟨hm, x, mem_inInsertOrder.1 hx, hpx⟩
  · cases h

/-- A failed batch leaves the store as it was. -/
theorem insertMany_failed {scope : MerchantScope}
    (h : insertMany scope importId records store = (none, store')) : store' = store := by
  unfold insertMany at h
  split at h
  · cases h
  split at h
  · cases h
  · cases h
    rfl

end Batch

/-! ## The constraints survive -/

section WellFormed

variable {merchantId : MerchantId} {importId : String} {store store' : RecordStore} {n : Nat}

/-- What a resolved reference points to is there. -/
theorem findSource_references {ρ : Type} {base : ρ → RowBase} {rows : List ρ}
    {ref : Option String} {k : String} {pk : ρ → String}
    (h : k ∈ (findSource merchantId base rows ref).map pk) : ∃ row ∈ rows, pk row = k := by
  obtain ⟨row, hrow, hk⟩ := Option.map_eq_some_iff.1 (Option.mem_def.1 h)
  exact ⟨row, mem_of_findSource hrow, hk⟩

/-- An insert adds rows to its table and touches no other. -/
theorem insert_subset {ρ : Type} {T : Table RecordStore ρ SourceKey} {kind : RecordKind}
    {row : ρ} (hT : HoldsKind T kind) (h : T.insert row store = some (n, store')) :
    ∀ r ∈ T.rows store, r ∈ T.rows store' := by
  obtain ⟨table, hins, rfl⟩ := Table.insert_eq_some.1 h
  rw [hT.rows_set]
  exact insertNew_subset hins

/-- An insert keeps a foreign key of its table whose target it does not touch. -/
theorem insert_references {ρ β : Type} {T : Table RecordStore ρ SourceKey} {kind : RecordKind}
    {row : ρ} {fk : ρ → Option String} {okey : β → String} {ys : List β}
    (hT : HoldsKind T kind) (h : T.insert row store = some (n, store'))
    (hfk : References fk okey (T.rows store) ys)
    (hrow : ∀ k ∈ fk row, ∃ y ∈ ys, okey y = k) : References fk okey (T.rows store') ys := by
  obtain ⟨table, hins, rfl⟩ := Table.insert_eq_some.1 h
  rw [hT.rows_set]
  exact insertNew_references hins hfk hrow

theorem insertRecord_wellFormed (hstore : WellFormed store) (r : FinancialRecord)
    (h : insertRecord merchantId importId r store = some (n, store')) : WellFormed store' := by
  cases r with
  | order r =>
      have hkeyed := holdsKind_orders.insert_keyed hstore.orders h
      have hsub := insert_subset holdsKind_orders h
      obtain ⟨table, -, rfl⟩ := Table.insert_eq_some.1 h
      exact { hstore with orders := hkeyed, paymentOrder := hstore.paymentOrder.grow hsub }
  | payment r =>
      have hkeyed := holdsKind_payments.insert_keyed hstore.payments h
      have hsub := insert_subset holdsKind_payments h
      have hfk := insert_references holdsKind_payments h hstore.paymentOrder
        fun k hk => findSource_references hk
      obtain ⟨table, -, rfl⟩ := Table.insert_eq_some.1 h
      exact { hstore with
        payments := hkeyed
        paymentOrder := hfk
        linePayment := hstore.linePayment.grow hsub
        feePayment := hstore.feePayment.grow hsub
        refundPayment := hstore.refundPayment.grow hsub }
  | settlement r =>
      have hkeyed := holdsKind_settlements.insert_keyed hstore.settlements h
      have hsub := insert_subset holdsKind_settlements h
      obtain ⟨table, -, rfl⟩ := Table.insert_eq_some.1 h
      exact { hstore with
        settlements := hkeyed
        lineSettlement := hstore.lineSettlement.grow hsub
        feeSettlement := hstore.feeSettlement.grow hsub
        adjustmentSettlement := hstore.adjustmentSettlement.grow hsub }
  | settlementLine r =>
      simp only [insertRecord, insertSettlementLine] at h
      split at h
      · cases h
        exact hstore
      · rename_i s hs
        have hkeyed := holdsKind_settlementLines.insert_keyed hstore.settlementLines h
        have hsettlement := insert_references holdsKind_settlementLines h hstore.lineSettlement
          fun k hk => ⟨s, mem_of_findSource hs, Option.some.inj hk⟩
        have hpayment := insert_references holdsKind_settlementLines h hstore.linePayment
          fun k hk => findSource_references hk
        obtain ⟨table, -, rfl⟩ := Table.insert_eq_some.1 h
        exact { hstore with
          settlementLines := hkeyed
          lineSettlement := hsettlement
          linePayment := hpayment }
  | feeLine r =>
      have hkeyed := holdsKind_feeLines.insert_keyed hstore.feeLines h
      have hsub := insert_subset holdsKind_feeLines h
      have hfk := insert_references holdsKind_feeLines h hstore.feePayment
        fun k hk => findSource_references hk
      have hsettlement := insert_references holdsKind_feeLines h hstore.feeSettlement
        fun k hk => by cases hk
      obtain ⟨table, -, rfl⟩ := Table.insert_eq_some.1 h
      exact { hstore with
        feeLines := hkeyed
        feePayment := hfk
        feeSettlement := hsettlement
        taxFee := hstore.taxFee.grow hsub }
  | taxLine r =>
      have hkeyed := holdsKind_taxLines.insert_keyed hstore.taxLines h
      have hfk := insert_references holdsKind_taxLines h hstore.taxFee
        fun k hk => findSource_references hk
      obtain ⟨table, -, rfl⟩ := Table.insert_eq_some.1 h
      exact { hstore with taxLines := hkeyed, taxFee := hfk }
  | refund r =>
      simp only [insertRecord, insertRefund] at h
      split at h
      · cases h
        exact hstore
      · rename_i p hp
        have hkeyed := holdsKind_refunds.insert_keyed hstore.refunds h
        have hfk := insert_references holdsKind_refunds h hstore.refundPayment
          fun k hk => ⟨p, mem_of_findSource hp, Option.some.inj hk⟩
        obtain ⟨table, -, rfl⟩ := Table.insert_eq_some.1 h
        exact { hstore with refunds := hkeyed, refundPayment := hfk }
  | adjustment r =>
      have hkeyed := holdsKind_adjustments.insert_keyed hstore.adjustments h
      have hfk := insert_references holdsKind_adjustments h hstore.adjustmentSettlement
        fun k hk => findSource_references hk
      obtain ⟨table, -, rfl⟩ := Table.insert_eq_some.1 h
      exact { hstore with adjustments := hkeyed, adjustmentSettlement := hfk }
  | bankCredit r =>
      have hkeyed := holdsKind_bankCredits.insert_keyed hstore.bankCredits h
      obtain ⟨table, -, rfl⟩ := Table.insert_eq_some.1 h
      exact { hstore with bankCredits := hkeyed }
  | ledgerEntry r =>
      have hkeyed := holdsKind_ledgerEntries.insert_keyed hstore.ledgerEntries h
      obtain ⟨table, -, rfl⟩ := Table.insert_eq_some.1 h
      exact { hstore with ledgerEntries := hkeyed }

theorem foldlM_wellFormed (records : List FinancialRecord) :
    ∀ {k k' : Nat} {store store' : RecordStore}, WellFormed store →
      records.foldlM (insertStep merchantId importId) (k, store) = some (k', store') →
      WellFormed store' := by
  induction records with
  | nil =>
      intro k k' store store' hstore h
      simp only [List.foldlM_nil] at h
      cases h
      exact hstore
  | cons r records ih =>
      intro k k' store store' hstore h
      rw [List.foldlM_cons] at h
      obtain ⟨⟨k₁, store₁⟩, hstep, hfold⟩ := Option.bind_eq_some_iff.1 h
      obtain ⟨⟨n, store₁'⟩, hins, heq⟩ := Option.map_eq_some_iff.1 hstep
      cases heq
      exact ih (insertRecord_wellFormed hstore r hins) hfold

/-- **The constraints of the schema survive every batch.** -/
theorem insertMany_wellFormed (hstore : WellFormed store) (scope : MerchantScope)
    (importId : String) (records : List FinancialRecord) :
    WellFormed (insertMany scope importId records store).2 := by
  unfold insertMany
  split
  · exact hstore
  split
  · rename_i counts store₁ hins
    obtain ⟨⟨k, store₂⟩, hfold, heq⟩ := Option.map_eq_some_iff.1 hins
    cases heq
    exact foldlM_wellFormed _ hstore hfold
  · exact hstore

end WellFormed

end SettlementOps
