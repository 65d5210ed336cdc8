import SettlementOps.Store.RecordWriter

/-!
# Rows of any kind

A record is written as one row of its kind, whose references are resolved against the store
the row is inserted into.  Here the ten inserters are one: a row of any kind, and its insert
into the table of that kind.

* `StoredRow`, `RecordStore.rowsOf` — the rows of a store, by kind.
* `FinancialRecord.row` — the row of a record, once its references are resolved.
* `insertRecord_eq` — every inserter inserts that row.
* `StoredRow.insert_eq` — an insert finds its identity, fails, or adds its row.
* `insertMany_rows` — every row a batch adds resolves its references as the store after the
  batch does.
-/

namespace SettlementOps

open Relational

inductive StoredRow
  | order (row : OrderRow)
  | payment (row : PaymentRow)
  | feeLine (row : FeeLineRow)
  | taxLine (row : TaxLineRow)
  | refund (row : RefundRow)
  | adjustment (row : AdjustmentRow)
  | settlement (row : SettlementRow)
  | settlementLine (row : SettlementLineRow)
  | bankCredit (row : BankCreditRow)
  | ledgerEntry (row : LedgerEntryRow)
  deriving DecidableEq, Repr

namespace StoredRow

def kind : StoredRow → RecordKind
  | order _ => .order
  | payment _ => .payment
  | feeLine _ => .feeLine
  | taxLine _ => .taxLine
  | refund _ => .refund
  | adjustment _ => .adjustment
  | settlement _ => .settlement
  | settlementLine _ => .settlementLine
  | bankCredit _ => .bankCredit
  | ledgerEntry _ => .ledgerEntry

def base : StoredRow → RowBase
  | order row => row.toRowBase
  | payment row => row.toRowBase
  | feeLine row => row.toRowBase
  | taxLine row => row.toRowBase
  | refund row => row.toRowBase
  | adjustment row => row.toRowBase
  | settlement row => row.toRowBase
  | settlementLine row => row.toRowBase
  | bankCredit row => row.toRowBase
  | ledgerEntry row => row.toRowBase

/-- The identity the source-uniqueness constraint of its table is about. -/
def key : StoredRow → SourceKey
  | order row => row.sourceKey
  | payment row => row.sourceKey
  | feeLine row => row.lineKey
  | taxLine row => row.lineKey
  | refund row => row.sourceKey
  | adjustment row => row.lineKey
  | settlement row => row.sourceKey
  | settlementLine row => row.lineKey
  | bankCredit row => row.sourceKey
  | ledgerEntry row => row.lineKey

/-- The row of another kind a row refers to. -/
def linkTo : StoredRow → RecordKind → Option String
  | payment row, .order => row.orderId
  | feeLine row, .payment => row.paymentId
  | feeLine row, .settlement => row.settlementId
  | taxLine row, .feeLine => row.feeLineId
  | refund row, .payment => some row.paymentId
  | adjustment row, .settlement => row.settlementId
  | settlementLine row, .settlement => some row.settlementId
  | settlementLine row, .payment => row.paymentId
  | _, _ => none

/-- Insert a row into the table of its kind. -/
def insert : StoredRow → RecordStore → Option (Nat × RecordStore)
  | order row => ordersTable.insert row
  | payment row => paymentsTable.insert row
  | feeLine row => feeLinesTable.insert row
  | taxLine row => taxLinesTable.insert row
  | refund row => refundsTable.insert row
  | adjustment row => adjustmentsTable.insert row
  | settlement row => settlementsTable.insert row
  | settlementLine row => settlementLinesTable.insert row
  | bankCredit row => bankCreditsTable.insert row
  | ledgerEntry row => ledgerEntriesTable.insert row

theorem key_merchantId (row : StoredRow) : row.key.merchantId = row.base.merchantId := by
  cases row <;> rfl

theorem key_sourceRecordId (row : StoredRow) :
    row.key.sourceRecordId = row.base.sourceRecordId := by
  cases row <;> rfl

end StoredRow

namespace RecordStore

/-- The rows of one kind. -/
def rowsOf (store : RecordStore) : RecordKind → List StoredRow
  | .order => store.orders.map .order
  | .payment => store.payments.map .payment
  | .feeLine => store.feeLines.map .feeLine
  | .taxLine => store.taxLines.map .taxLine
  | .refund => store.refunds.map .refund
  | .adjustment => store.adjustments.map .adjustment
  | .settlement => store.settlements.map .settlement
  | .settlementLine => store.settlementLines.map .settlementLine
  | .bankCredit => store.bankCredits.map .bankCredit
  | .ledgerEntry => store.ledgerEntries.map .ledgerEntry

/-- Add a row to the table of its kind. -/
def push (store : RecordStore) : StoredRow → RecordStore
  | .order row => { store with orders := store.orders ++ [row] }
  | .payment row => { store with payments := store.payments ++ [row] }
  | .feeLine row => { store with feeLines := store.feeLines ++ [row] }
  | .taxLine row => { store with taxLines := store.taxLines ++ [row] }
  | .refund row => { store with refunds := store.refunds ++ [row] }
  | .adjustment row => { store with adjustments := store.adjustments ++ [row] }
  | .settlement row => { store with settlements := store.settlements ++ [row] }
  | .settlementLine row => { store with settlementLines := store.settlementLines ++ [row] }
  | .bankCredit row => { store with bankCredits := store.bankCredits ++ [row] }
  | .ledgerEntry row => { store with ledgerEntries := store.ledgerEntries ++ [row] }

theorem rowsOf_push (store : RecordStore) (row : StoredRow) (k : RecordKind) :
    (store.push row).rowsOf k =
      if k = row.kind then store.rowsOf k ++ [row] else store.rowsOf k := by
  cases row <;> cases k <;> simp [push, rowsOf, StoredRow.kind]

theorem rowsOf_empty (k : RecordKind) : ({} : RecordStore).rowsOf k = [] := by
  cases k <;> rfl

/-- A store is its rows. -/
theorem ext_rowsOf {store store' : RecordStore} (h : ∀ k, store.rowsOf k = store'.rowsOf k) :
    store = store' := by
  have inj {ρ : Type} {wrap : ρ → StoredRow} (hwrap : Function.Injective wrap)
      {xs ys : List ρ} (hmap : xs.map wrap = ys.map wrap) : xs = ys :=
    List.map_injective_iff.2 hwrap hmap
  cases store
  cases store'
  congr
  · exact inj (fun _ _ => StoredRow.order.inj) (h .order)
  · exact inj (fun _ _ => StoredRow.payment.inj) (h .payment)
  · exact inj (fun _ _ => StoredRow.settlement.inj) (h .settlement)
  · exact inj (fun _ _ => StoredRow.settlementLine.inj) (h .settlementLine)
  · exact inj (fun _ _ => StoredRow.feeLine.inj) (h .feeLine)
  · exact inj (fun _ _ => StoredRow.taxLine.inj) (h .taxLine)
  · exact inj (fun _ _ => StoredRow.refund.inj) (h .refund)
  · exact inj (fun _ _ => StoredRow.adjustment.inj) (h .adjustment)
  · exact inj (fun _ _ => StoredRow.bankCredit.inj) (h .bankCredit)
  · exact inj (fun _ _ => StoredRow.ledgerEntry.inj) (h .ledgerEntry)

end RecordStore

/-- The identities and the ids of the rows of a kind are unique. -/
theorem WellFormed.rowsOf {store : RecordStore} (h : WellFormed store) (k : RecordKind) :
    Unique StoredRow.key (store.rowsOf k) ∧ Unique (fun row => row.base.id) (store.rowsOf k) := by
  have unique {ρ : Type} {T : Table RecordStore ρ SourceKey} {rows : List ρ}
      (hrows : Keyed T rows) (wrap : ρ → StoredRow) (hkey : ∀ r, T.key r = (wrap r).key)
      (hpk : ∀ r, T.pk r = (wrap r).base.id) :
      Unique StoredRow.key (rows.map wrap) ∧ Unique (fun row => row.base.id) (rows.map wrap) := by
    have hpkeyed := hrows.pk
    have hsource := hrows.source
    rw [funext hpk] at hpkeyed
    rw [funext hkey] at hsource
    unfold Relational.Unique at *
    rw [List.map_map, List.map_map]
    exact ⟨hsource, hpkeyed⟩
  cases k with
  | order => exact unique h.orders .order (fun _ => rfl) fun _ => rfl
  | payment => exact unique h.payments .payment (fun _ => rfl) fun _ => rfl
  | feeLine => exact unique h.feeLines .feeLine (fun _ => rfl) fun _ => rfl
  | taxLine => exact unique h.taxLines .taxLine (fun _ => rfl) fun _ => rfl
  | refund => exact unique h.refunds .refund (fun _ => rfl) fun _ => rfl
  | adjustment => exact unique h.adjustments .adjustment (fun _ => rfl) fun _ => rfl
  | settlement => exact unique h.settlements .settlement (fun _ => rfl) fun _ => rfl
  | settlementLine => exact unique h.settlementLines .settlementLine (fun _ => rfl) fun _ => rfl
  | bankCredit => exact unique h.bankCredits .bankCredit (fun _ => rfl) fun _ => rfl
  | ledgerEntry => exact unique h.ledgerEntries .ledgerEntry (fun _ => rfl) fun _ => rfl

/-- **An insert** finds its identity there, fails on the primary key, or adds its row. -/
theorem StoredRow.insert_eq (row : StoredRow) (store : RecordStore) :
    row.insert store =
      if (store.rowsOf row.kind).any (fun r => r.key = row.key) then some (0, store)
      else if (store.rowsOf row.kind).any (fun r => r.base.id = row.base.id) then none
      else some (1, store.push row) := by
  have insert {ρ : Type} {T : Table RecordStore ρ SourceKey} {kind : RecordKind}
      (hT : HoldsKind T kind) (wrap : ρ → StoredRow) (x : ρ)
      (hrows : store.rowsOf kind = (T.rows store).map wrap)
      (hkey : ∀ r, T.key r = (wrap r).key) (hpk : ∀ r, T.pk r = (wrap r).base.id)
      (hpush : store.push (wrap x) = T.set (T.rows store ++ [x]) store) :
      T.insert x store =
        if (store.rowsOf kind).any (fun r => r.key = (wrap x).key) then some (0, store)
        else if (store.rowsOf kind).any (fun r => r.base.id = (wrap x).base.id) then none
        else some (1, store.push (wrap x)) := by
    simp only [Table.insert, insertNew, hrows, List.any_map, Function.comp_def, hkey, hpk]
    split
    · simp [hT.set_rows]
    split
    · rfl
    · simp [hpush]
  cases row with
  | order x => exact insert holdsKind_orders .order x rfl (fun _ => rfl) (fun _ => rfl) rfl
  | payment x => exact insert holdsKind_payments .payment x rfl (fun _ => rfl) (fun _ => rfl) rfl
  | feeLine x => exact insert holdsKind_feeLines .feeLine x rfl (fun _ => rfl) (fun _ => rfl) rfl
  | taxLine x => exact insert holdsKind_taxLines .taxLine x rfl (fun _ => rfl) (fun _ => rfl) rfl
  | refund x => exact insert holdsKind_refunds .refund x rfl (fun _ => rfl) (fun _ => rfl) rfl
  | adjustment x =>
      exact insert holdsKind_adjustments .adjustment x rfl (fun _ => rfl) (fun _ => rfl) rfl
  | settlement x =>
      exact insert holdsKind_settlements .settlement x rfl (fun _ => rfl) (fun _ => rfl) rfl
  | settlementLine x =>
      exact insert holdsKind_settlementLines .settlementLine x rfl (fun _ => rfl) (fun _ => rfl) rfl
  | bankCredit x =>
      exact insert holdsKind_bankCredits .bankCredit x rfl (fun _ => rfl) (fun _ => rfl) rfl
  | ledgerEntry x =>
      exact insert holdsKind_ledgerEntries .ledgerEntry x rfl (fun _ => rfl) (fun _ => rfl) rfl

theorem StoredRow.insert_cases {row : StoredRow} {store store' : RecordStore} {n : Nat}
    (h : row.insert store = some (n, store')) :
    (n = 0 ∧ store' = store ∧ ∃ r ∈ store.rowsOf row.kind, r.key = row.key) ∨
      (n = 1 ∧ store' = store.push row ∧
        ∀ r ∈ store.rowsOf row.kind, r.key ≠ row.key ∧ r.base.id ≠ row.base.id) := by
  rw [StoredRow.insert_eq] at h
  split at h
  · rename_i hkey
    cases h
    exact .inl ⟨rfl, rfl, by simpa using hkey⟩
  rename_i hkey
  split at h
  · cases h
  rename_i hid
  cases h
  refine .inr ⟨rfl, rfl, fun r hr => ⟨?_, ?_⟩⟩
  · simp only [List.any_eq_true, decide_eq_true_eq, not_exists, not_and] at hkey
    exact hkey r hr
  · simp only [List.any_eq_true, decide_eq_true_eq, not_exists, not_and] at hid
    exact hid r hr

/-! ## The row of a record -/

/-- What the references of a record resolve to. -/
abbrev Links := RecordKind → String → Option String

/-- The row a reference by source record id resolves to. -/
def RecordStore.links (store : RecordStore) (m : MerchantId) : Links := fun kind ref =>
  ((store.rowsOf kind).find? fun row =>
    row.base.merchantId = m ∧ row.base.sourceRecordId = ref).map (·.base.id)

namespace FinancialRecord

/-- The ids of records of another kind a record names. -/
def names : FinancialRecord → RecordKind → Option String
  | payment r, .order => r.orderId
  | feeLine r, .payment => r.paymentId
  | feeLine r, .settlement => r.settlementId
  | taxLine r, .feeLine => r.feeLineId
  | refund r, .payment => some r.paymentId
  | adjustment r, .settlement => r.settlementId
  | settlementLine r, .settlement => some r.settlementId
  | settlementLine r, .payment => r.paymentId
  | _, _ => none

/-- The references the writer resolves: all that are named, but the settlement of a fee. -/
def references : FinancialRecord → RecordKind → Option String
  | feeLine _, .settlement => none
  | r, k => r.names k

/-- The row of a record, if it does not lack a parent it requires. -/
def row (m : MerchantId) (importId : String) (links : Links) : FinancialRecord → Option StoredRow
  | order r => some <| .order {
      toSourcedRow := sourcedRow m importId r.toRecordBase
      customerReference := r.customerReference
      amount := r.amount
      status := r.status
      createdAt := r.createdAt }
  | payment r => some <| .payment {
      toSourcedRow := sourcedRow m importId r.toRecordBase
      orderId := r.orderId.bind (links .order)
      amount := r.amount
      paymentMethod := r.paymentMethod
      status := r.status
      authorizedAt := r.authorizedAt
      capturedAt := r.capturedAt }
  | settlement r => some <| .settlement {
      toSourcedRow := sourcedRow m importId r.toRecordBase
      grossAmountMinor := r.grossAmount.amountMinor
      netAmountMinor := r.netAmount.amountMinor
      currency := r.grossAmount.currency
      settlementAt := r.settlementAt
      status := r.status
      utr := r.utr }
  | settlementLine r => (links .settlement r.settlementId).map fun s => .settlementLine {
      toRowBase := rowBase m importId r.toRecordBase
      settlementId := s
      paymentId := r.paymentId.bind (links .payment)
      lineType := r.lineType
      amount := r.amount }
  | feeLine r => some <| .feeLine {
      toRowBase := rowBase m importId r.toRecordBase
      paymentId := r.paymentId.bind (links .payment)
      settlementId := none
      feeType := r.feeType
      amount := r.amount
      effectiveDate := dateColumn r.effectiveDate }
  | taxLine r => some <| .taxLine {
      toRowBase := rowBase m importId r.toRecordBase
      feeLineId := r.feeLineId.bind (links .feeLine)
      taxType := r.taxType
      amount := r.amount
      period := r.period }
  | refund r => (links .payment r.paymentId).map fun p => .refund {
      toSourcedRow := sourcedRow m importId r.toRecordBase
      paymentId := p
      amount := r.amount
      status := r.status
      createdAt := r.createdAt
      settledAt := r.settledAt }
  | adjustment r => some <| .adjustment {
      toRowBase := rowBase m importId r.toRecordBase
      settlementId := r.settlementId.bind (links .settlement)
      reference := r.reference
      amount := r.amount
      effectiveAt := r.effectiveAt
      reasonCode := r.reasonCode }
  | bankCredit r => some <| .bankCredit {
      toSourcedRow := sourcedRow m importId r.toRecordBase
      utr := r.utr
      amount := r.amount
      creditedAt := r.creditedAt
      bankReference := r.bankReference }
  | ledgerEntry r => some <| .ledgerEntry {
      toRowBase := rowBase m importId r.toRecordBase
      referenceType := r.referenceType
      referenceId := r.referenceId
      amount := r.amount
      entryType := r.entryType
      postedAt := r.postedAt
      status := r.status }

end FinancialRecord

section Row

variable {m : MerchantId} {importId : String} {links links' : Links} {r : FinancialRecord}
  {row : StoredRow}

theorem row_kind (h : r.row m importId links = some row) : row.kind = r.kind := by
  cases r <;> simp only [FinancialRecord.row, Option.map_eq_some_iff, Option.some.injEq] at h
  case settlementLine => obtain ⟨_, -, rfl⟩ := h; rfl
  case refund => obtain ⟨_, -, rfl⟩ := h; rfl
  all_goals cases h; rfl

theorem row_base (h : r.row m importId links = some row) :
    row.base = rowBase m importId r.base := by
  cases r <;> simp only [FinancialRecord.row, Option.map_eq_some_iff, Option.some.injEq] at h
  case settlementLine => obtain ⟨_, -, rfl⟩ := h; rfl
  case refund => obtain ⟨_, -, rfl⟩ := h; rfl
  all_goals cases h; rfl

theorem row_key (h : r.row m importId links = some row) : row.key = r.sourceKey m := by
  cases r <;> simp only [FinancialRecord.row, Option.map_eq_some_iff, Option.some.injEq] at h
  case settlementLine => obtain ⟨_, -, rfl⟩ := h; rfl
  case refund => obtain ⟨_, -, rfl⟩ := h; rfl
  all_goals cases h; rfl

/-- A record that requires no parent has a row. -/
theorem row_isSome (h : r.requiredParent = none) (m : MerchantId) (importId : String)
    (links : Links) : ∃ row, r.row m importId links = some row := by
  cases r <;> first | exact ⟨_, rfl⟩ | cases h

/-- A record all of whose references are resolved has a row. -/
theorem row_isSome_of_resolved (h : ∀ k, ∀ n ∈ r.references k, links k n ≠ none)
    (m : MerchantId) (importId : String) : ∃ row, r.row m importId links = some row := by
  cases r with
  | refund r =>
      obtain ⟨p, hp⟩ := Option.ne_none_iff_exists'.1 (h .payment r.paymentId rfl)
      simp only [FinancialRecord.row, hp, Option.map_some]
      exact ⟨_, rfl⟩
  | settlementLine r =>
      obtain ⟨s, hs⟩ := Option.ne_none_iff_exists'.1 (h .settlement r.settlementId rfl)
      simp only [FinancialRecord.row, hs, Option.map_some]
      exact ⟨_, rfl⟩
  | _ => exact ⟨_, rfl⟩

/-- A row refers to what the references of its record resolve to. -/
theorem row_linkTo (h : r.row m importId links = some row) (k : RecordKind) :
    row.linkTo k = (r.references k).bind (links k) := by
  cases r <;> simp only [FinancialRecord.row, Option.map_eq_some_iff, Option.some.injEq] at h
  case settlementLine =>
    obtain ⟨s, hs, rfl⟩ := h
    cases k <;> first | rfl | exact hs.symm
  case refund =>
    obtain ⟨p, hp, rfl⟩ := h
    cases k <;> first | rfl | exact hp.symm
  all_goals cases h; cases k <;> rfl

/-- The row of a record depends on nothing but what its references resolve to. -/
theorem row_congr (h : ∀ k, (r.references k).bind (links k) = (r.references k).bind (links' k)) :
    r.row m importId links = r.row m importId links' := by
  cases r with
  | payment r =>
      have horder : r.orderId.bind (links .order) = r.orderId.bind (links' .order) := h .order
      simp only [FinancialRecord.row, horder]
  | feeLine r =>
      have hpayment : r.paymentId.bind (links .payment) = r.paymentId.bind (links' .payment) :=
        h .payment
      simp only [FinancialRecord.row, hpayment]
  | taxLine r =>
      have hfee : r.feeLineId.bind (links .feeLine) = r.feeLineId.bind (links' .feeLine) :=
        h .feeLine
      simp only [FinancialRecord.row, hfee]
  | refund r =>
      have hpayment : links .payment r.paymentId = links' .payment r.paymentId := h .payment
      simp only [FinancialRecord.row, hpayment]
  | adjustment r =>
      have hsettlement :
          r.settlementId.bind (links .settlement) = r.settlementId.bind (links' .settlement) :=
        h .settlement
      simp only [FinancialRecord.row, hsettlement]
  | settlementLine r =>
      have hsettlement : links .settlement r.settlementId = links' .settlement r.settlementId :=
        h .settlement
      have hpayment : r.paymentId.bind (links .payment) = r.paymentId.bind (links' .payment) :=
        h .payment
      simp only [FinancialRecord.row, hsettlement, hpayment]
  | order | settlement | bankCredit | ledgerEntry => rfl

end Row

/-- A reference finds the row it resolves to. -/
theorem links_eq {ρ : Type} {store : RecordStore} {kind : RecordKind} {rows : List ρ}
    (wrap : ρ → StoredRow) (base : ρ → RowBase) (hrows : store.rowsOf kind = rows.map wrap)
    (hbase : ∀ x, (wrap x).base = base x) (m : MerchantId) (ref : Option String) :
    (findSource m base rows ref).map (fun x => (base x).id) = ref.bind (store.links m kind) := by
  cases ref with
  | none => rfl
  | some ref =>
      simp only [findSource, RecordStore.links, Option.bind_some, hrows, List.find?_map,
        Option.map_map, Function.comp_def, hbase]

/-- **Every inserter** inserts the row of the record, unless a parent it requires is not
there. -/
theorem insertRecord_eq (m : MerchantId) (importId : String) (r : FinancialRecord)
    (store : RecordStore) :
    insertRecord m importId r store =
      match r.row m importId (store.links m) with
      | none => some (0, store)
      | some row => row.insert store := by
  have horder := links_eq StoredRow.order (fun o => o.toRowBase)
    (rfl : store.rowsOf .order = _) (fun _ => rfl) m
  have hpayment := links_eq StoredRow.payment (fun p => p.toRowBase)
    (rfl : store.rowsOf .payment = _) (fun _ => rfl) m
  have hsettlement := links_eq StoredRow.settlement (fun s => s.toRowBase)
    (rfl : store.rowsOf .settlement = _) (fun _ => rfl) m
  have hfee := links_eq StoredRow.feeLine (fun f => f.toRowBase)
    (rfl : store.rowsOf .feeLine = _) (fun _ => rfl) m
  cases r with
  | payment r =>
      simp only [insertRecord, insertPayment, FinancialRecord.row, ← horder]
      rfl
  | settlementLine r =>
      have hs := hsettlement (some r.settlementId)
      rw [Option.bind_some] at hs
      simp only [insertRecord, insertSettlementLine, FinancialRecord.row, ← hpayment, ← hs]
      cases findSource m _ store.settlements (some r.settlementId) <;> rfl
  | feeLine r =>
      simp only [insertRecord, insertFeeLine, FinancialRecord.row, ← hpayment]
      rfl
  | taxLine r =>
      simp only [insertRecord, insertTaxLine, FinancialRecord.row, ← hfee]
      rfl
  | refund r =>
      have hp := hpayment (some r.paymentId)
      rw [Option.bind_some] at hp
      simp only [insertRecord, insertRefund, FinancialRecord.row, ← hp]
      cases findSource m _ store.payments (some r.paymentId) <;> rfl
  | adjustment r =>
      simp only [insertRecord, insertAdjustment, FinancialRecord.row, ← hsettlement]
      rfl
  | order | settlement | bankCredit | ledgerEntry => rfl

/-! ## What a batch adds -/

/-- The ids a batch's rows get are new. -/
structure FreshIds (before : RecordStore) (records : List FinancialRecord) : Prop where
  distinct : (records.map (·.base.id)).Nodup
  fresh : ∀ r ∈ records, ∀ row ∈ before.rowsOf r.kind, row.base.id ≠ r.base.id

/-- All that one insert does: nothing, or it adds the row of its record. -/
theorem insertRecord_cases {m : MerchantId} {importId : String} {r : FinancialRecord}
    {store store' : RecordStore} {n : Nat}
    (h : insertRecord m importId r store = some (n, store')) :
    (n = 0 ∧ store' = store ∧ ∀ row ∈ r.row m importId (store.links m),
        ∃ x ∈ store.rowsOf r.kind, x.key = row.key) ∨
      (n = 1 ∧ ∃ row, r.row m importId (store.links m) = some row ∧ store' = store.push row ∧
        ∀ x ∈ store.rowsOf r.kind, x.key ≠ row.key ∧ x.base.id ≠ row.base.id) := by
  rw [insertRecord_eq] at h
  cases hrow : r.row m importId (store.links m) with
  | none =>
      rw [hrow] at h
      cases h
      exact .inl ⟨rfl, rfl, by simp⟩
  | some row =>
      rw [hrow] at h
      rw [← row_kind hrow]
      rcases StoredRow.insert_cases h with ⟨hn, hstore, hkey⟩ | ⟨hn, hstore, hnew⟩
      · exact .inl ⟨hn, hstore, fun x hx => by cases hx; exact hkey⟩
      · exact .inr ⟨hn, row, rfl, hstore, hnew⟩

/-- The identity of a record among the records of all kinds. -/
def FinancialRecord.identity (m : MerchantId) (r : FinancialRecord) : RecordKind × SourceKey :=
  (r.kind, r.sourceKey m)

/-- The identities of a kind are those of its rows. -/
theorem keys_eq (store : RecordStore) (k : RecordKind) :
    store.keys k = (store.rowsOf k).map (·.key) := by
  cases k <;>
    simp [RecordStore.keys, RecordStore.rowsOf, StoredRow.key, Function.comp_def]

/-- A record is held when a row has its identity. -/
theorem held_iff_exists_row {store : RecordStore} {m : MerchantId} {r : FinancialRecord} :
    store.Held m r ↔ ∃ row ∈ store.rowsOf r.kind, row.key = r.sourceKey m := by
  rw [RecordStore.Held, keys_eq, List.mem_map]

/-- A record whose row shares its identity with none is not held. -/
theorem not_held_of_row {store : RecordStore} {m : MerchantId} {importId : String} {links : Links}
    {r : FinancialRecord} {row : StoredRow} (hrow : r.row m importId links = some row)
    (hnew : ∀ x ∈ store.rowsOf r.kind, x.key ≠ row.key) : ¬ store.Held m r := by
  rw [held_iff_exists_row, ← row_key hrow]
  exact fun ⟨x, hx, hkey⟩ => hnew x hx hkey

/-- A reference resolves to a row when there is one with its source record id. -/
theorem links_ne_none_iff {store : RecordStore} {m : MerchantId} {k : RecordKind} {n : String} :
    store.links m k n ≠ none ↔ store.HasSource m (k, n) := by
  simp [RecordStore.links, RecordStore.HasSource, keys_eq, StoredRow.key_merchantId,
    StoredRow.key_sourceRecordId]

/-- A record has a row when the parent it requires is stored. -/
theorem exists_row_iff {m : MerchantId} {importId : String} {r : FinancialRecord}
    {store : RecordStore} :
    (∃ row, r.row m importId (store.links m) = some row) ↔ store.ParentStored m r := by
  unfold RecordStore.ParentStored
  cases r with
  | refund r =>
      have hparent : store.links m .payment r.paymentId ≠ none ↔
          store.HasSource m (.payment, r.paymentId) := links_ne_none_iff
      simp [FinancialRecord.row, FinancialRecord.requiredParent, ← hparent,
        Option.ne_none_iff_exists', exists_comm]
  | settlementLine r =>
      have hparent : store.links m .settlement r.settlementId ≠ none ↔
          store.HasSource m (.settlement, r.settlementId) := links_ne_none_iff
      simp [FinancialRecord.row, FinancialRecord.requiredParent, ← hparent,
        Option.ne_none_iff_exists', exists_comm]
  | _ => simp [FinancialRecord.row, FinancialRecord.requiredParent]

/-- **An insert affects one row**, unless the identity is there or the parent is not. -/
theorem insertRecord_count {m : MerchantId} {importId : String} {r : FinancialRecord}
    {store store' : RecordStore} {n : Nat}
    (h : insertRecord m importId r store = some (n, store')) :
    n = if store.ParentStored m r ∧ ¬ store.Held m r then 1 else 0 := by
  rcases insertRecord_keys h with ⟨rfl, -, hheld | hparent⟩ | ⟨hn, -⟩
  · rw [if_neg fun h => h.2 hheld]
  · rw [if_neg fun h => hparent h.1]
  · rcases insertRecord_cases h with ⟨rfl, -, -⟩ | ⟨-, row, hrow, -, hnew⟩
    · cases hn
    · have hheld := not_held_of_row hrow fun x hx => (hnew x hx).1
      rw [if_pos ⟨exists_row_iff.1 ⟨row, hrow⟩, hheld⟩, hn]

/-- The kinds of the records a record of a kind refers to. -/
def referenceKinds : RecordKind → List RecordKind
  | .payment => [.order]
  | .feeLine => [.payment]
  | .taxLine => [.feeLine]
  | .refund => [.payment]
  | .adjustment => [.settlement]
  | .settlementLine => [.settlement, .payment]
  | _ => []

theorem references_eq_none {r : FinancialRecord} {k : RecordKind}
    (h : k ∉ referenceKinds r.kind) : r.references k = none := by
  cases r <;> cases k <;> first | rfl | simp [FinancialRecord.kind, referenceKinds] at h

/-- What a record refers to is inserted before it. -/
theorem inInsertOrder_references (records : List FinancialRecord) :
    (inInsertOrder records).Pairwise fun r x => r.references x.kind = none := by
  have horder : INSERT_ORDER.Pairwise fun k k' => k' ∉ referenceKinds k := by decide
  exact (inInsertOrder_pairwise_of horder (by decide) records).imp references_eq_none

/-- Records of one kind stay in the order they came in. -/
theorem filter_inInsertOrder (records : List FinancialRecord) (k : RecordKind) :
    ((inInsertOrder records).filter fun r => r.kind = k) = records.filter fun r => r.kind = k := by
  have hfilter (k' : RecordKind) :
      ((records.filter fun r => r.kind = k').filter fun r => r.kind = k) =
        if k' = k then records.filter fun r => r.kind = k else [] := by
    rw [List.filter_filter]
    split
    · rename_i heq
      subst heq
      simp
    · rename_i hne
      refine List.filter_eq_nil_iff.2 fun r _ h => hne ?_
      simp only [Bool.and_eq_true, decide_eq_true_eq] at h
      exact h.2.symm.trans h.1
  simp only [inInsertOrder, List.filter_flatMap, hfilter, INSERT_ORDER]
  cases k <;> simp

theorem inInsertOrder_perm (records : List FinancialRecord) :
    (inInsertOrder records).Perm records := by
  refine List.perm_iff_count.2 fun a => ?_
  have hcount (k : RecordKind) : (records.filter fun r => r.kind = k).count a =
      if a.kind = k then records.count a else 0 := by
    split
    · rename_i hk
      exact List.count_filter (by simpa using hk)
    · rename_i hk
      exact List.count_eq_zero.2 fun ha => hk (by simpa using (List.mem_filter.1 ha).2)
  simp only [inInsertOrder, INSERT_ORDER, List.flatMap_cons, List.flatMap_nil, List.count_append,
    List.count_nil, hcount]
  cases a.kind <;> simp

theorem references_self (r : FinancialRecord) : r.references r.kind = none := by
  cases r <;> rfl

section Batch

variable {m : MerchantId} {importId : String} {records : List FinancialRecord}
  {store store' : RecordStore}

/-- What the rows of a kind resolve is decided by the rows of that kind. -/
theorem links_congr {k : RecordKind} (h : store'.rowsOf k = store.rowsOf k) :
    store'.links m k = store.links m k := by
  unfold RecordStore.links
  rw [h]

/-- An insert of another kind does not change what a reference resolves to. -/
theorem insertRecord_links {r : FinancialRecord} {n : Nat}
    (h : insertRecord m importId r store = some (n, store')) {k : RecordKind} (hk : k ≠ r.kind) :
    store'.links m k = store.links m k := by
  rcases insertRecord_cases h with ⟨-, rfl, -⟩ | ⟨-, row, hrow, rfl, -⟩
  · rfl
  · refine links_congr ?_
    rw [RecordStore.rowsOf_push, if_neg (by rw [row_kind hrow]; exact hk)]

/-- What a record refers to no longer changes once only others are inserted. -/
theorem foldlM_row {r : FinancialRecord} (importId' : String) :
    ∀ {records : List FinancialRecord} {n n' : Nat} {store store' : RecordStore},
      (∀ x ∈ records, r.references x.kind = none) →
      records.foldlM (insertStep m importId) (n, store) = some (n', store') →
      r.row m importId' (store'.links m) = r.row m importId' (store.links m) := by
  intro records
  induction records with
  | nil =>
      intro n n' store store' _ h
      simp only [List.foldlM_nil] at h
      cases h
      rfl
  | cons x records ih =>
      intro n n' store store' hothers h
      rw [List.foldlM_cons] at h
      obtain ⟨⟨n₁, store₁⟩, hstep, hfold⟩ := Option.bind_eq_some_iff.1 h
      obtain ⟨⟨_, _⟩, hins, heq⟩ := Option.map_eq_some_iff.1 hstep
      cases heq
      rw [ih (fun y hy => hothers y (List.mem_cons_of_mem _ hy)) hfold]
      refine row_congr fun k => ?_
      cases hk : r.references k with
      | none => rfl
      | some ref =>
          have hne : k ≠ x.kind := by
            rintro rfl
            rw [hothers x List.mem_cons_self] at hk
            cases hk
          rw [insertRecord_links hins hne]

/-- The loop adds rows, and what each of them refers to no longer changes. -/
theorem foldlM_rows (hpairs : records.Pairwise fun r x => r.references x.kind = none) :
    ∀ {n n' : Nat} {store store' : RecordStore},
      records.foldlM (insertStep m importId) (n, store) = some (n', store') →
      ∀ k, ∃ added, store'.rowsOf k = store.rowsOf k ++ added ∧
        ∀ row ∈ added, ∃ r ∈ records, r.row m importId (store'.links m) = some row := by
  induction records with
  | nil =>
      intro n n' store store' h k
      simp only [List.foldlM_nil] at h
      cases h
      exact ⟨[], by simp, by simp⟩
  | cons r records ih =>
      intro n n' store store' h k
      obtain ⟨hlast, hrest⟩ := List.pairwise_cons.1 hpairs
      have hothers : ∀ x ∈ r :: records, r.references x.kind = none :=
        List.forall_mem_cons.2 ⟨references_self r, hlast⟩
      have hfinal := foldlM_row importId hothers h
      rw [List.foldlM_cons] at h
      obtain ⟨⟨n₁, store₁⟩, hstep, hfold⟩ := Option.bind_eq_some_iff.1 h
      obtain ⟨⟨_, _⟩, hins, heq⟩ := Option.map_eq_some_iff.1 hstep
      cases heq
      obtain ⟨added, hadded, hfrom⟩ := ih hrest hfold k
      have hlater : ∀ x ∈ added, ∃ y ∈ r :: records,
          y.row m importId (store'.links m) = some x := by
        intro x hx
        obtain ⟨y, hy, hyx⟩ := hfrom x hx
        exact ⟨y, List.mem_cons_of_mem _ hy, hyx⟩
      rcases insertRecord_cases hins with ⟨-, rfl, -⟩ | ⟨-, row, hrow, rfl, -⟩
      · exact ⟨added, hadded, hlater⟩
      · rw [RecordStore.rowsOf_push] at hadded
        split at hadded
        · refine ⟨row :: added, by rw [hadded, List.append_assoc]; rfl, ?_⟩
          exact List.forall_mem_cons.2 ⟨⟨r, List.mem_cons_self, hfinal.trans hrow⟩, hlater⟩
        · exact ⟨added, hadded, hlater⟩

/-- No row has the identity of a record. -/
def NewKeys (m : MerchantId) (store : RecordStore) (records : List FinancialRecord) : Prop :=
  ∀ r ∈ records, ∀ row ∈ store.rowsOf r.kind, row.key ≠ r.sourceKey m

/-- An insert makes no other identity held. -/
theorem insertRecord_held_iff {r x : FinancialRecord} {n : Nat}
    (h : insertRecord m importId r store = some (n, store'))
    (hx : (r.kind, r.sourceKey m) ≠ (x.kind, x.sourceKey m)) :
    store'.Held m x ↔ store.Held m x := by
  rcases insertRecord_keys h with ⟨-, rfl, -⟩ | ⟨-, hkeys⟩
  · rfl
  · unfold RecordStore.Held
    rw [hkeys]
    split
    · rename_i hkind
      rw [List.mem_append, List.mem_singleton, or_iff_left]
      exact fun hkey => hx (Prod.ext hkind.symm hkey.symm)
    · rfl

/-- Of records with distinct identities every new one adds its row, unless it lacks a parent. -/
theorem foldlM_rows_of_distinct (hpairs : records.Pairwise fun r x => r.references x.kind = none)
    (hdistinct : (records.map fun r => (r.kind, r.sourceKey m)).Nodup) :
    ∀ {n n' : Nat} {store store' : RecordStore},
      records.foldlM (insertStep m importId) (n, store) = some (n', store') →
      ∀ k, store'.rowsOf k = store.rowsOf k ++
        (records.filter fun r => r.kind = k ∧ ¬ store.Held m r).filterMap
          fun r => r.row m importId (store'.links m) := by
  induction records with
  | nil =>
      intro n n' store store' h k
      simp only [List.foldlM_nil] at h
      cases h
      simp
  | cons r records ih =>
      intro n n' store store' h k
      obtain ⟨hlast, hrest⟩ := List.pairwise_cons.1 hpairs
      obtain ⟨hr, hdistinct⟩ := List.nodup_cons.1 hdistinct
      have hothers : ∀ x ∈ r :: records, r.references x.kind = none :=
        List.forall_mem_cons.2 ⟨references_self r, hlast⟩
      have hfinal := foldlM_row importId hothers h
      rw [List.foldlM_cons] at h
      obtain ⟨_, hstep, hfold⟩ := Option.bind_eq_some_iff.1 h
      obtain ⟨⟨_, store₁⟩, hins, heq⟩ := Option.map_eq_some_iff.1 hstep
      cases heq
      dsimp only at hins
      have hheld : (records.filter fun x => x.kind = k ∧ ¬ store₁.Held m x) =
          records.filter fun x => x.kind = k ∧ ¬ store.Held m x := by
        refine List.filter_congr fun x hx => ?_
        exact decide_eq_decide.2 (and_congr_right' (not_congr
          (insertRecord_held_iff hins fun hsame => hr (List.mem_map.2 ⟨x, hx, hsame.symm⟩))))
      rw [ih hrest hdistinct hfold k, hheld, List.filter_cons]
      rcases insertRecord_cases hins with ⟨-, rfl, hkey⟩ | ⟨-, row, hrow, rfl, hnew⟩
      · split
        · rename_i hk
          have hnone : r.row m importId (store₁.links m) = none := by
            refine Option.eq_none_iff_forall_ne_some.2 fun row hrow => ?_
            obtain ⟨x, hx, hxkey⟩ := hkey row hrow
            exact (of_decide_eq_true hk).2
              (held_iff_exists_row.2 ⟨x, hx, hxkey.trans (row_key hrow)⟩)
          rw [List.filterMap_cons, hfinal, hnone]
        · rfl
      · have hr' := not_held_of_row hrow fun x hx => (hnew x hx).1
        rw [RecordStore.rowsOf_push, row_kind hrow]
        by_cases hk : k = r.kind
        · subst hk
          rw [if_pos rfl, if_pos (by simpa using hr'), List.filterMap_cons, hfinal, hrow,
            List.append_assoc]
          rfl
        · rw [if_neg hk, if_neg (by simpa using fun h => absurd h.symm hk)]

/-- A committed batch is a run of the loop over its records. -/
theorem insertMany_foldlM {scope : MerchantScope} {counts : InsertCounts}
    (h : insertMany scope importId records store = (some counts, store')) :
    ∃ n, (inInsertOrder records).foldlM (insertStep scope.merchantId importId) (0, store) =
        some (n, store') ∧ counts = ⟨n, records.length - n⟩ := by
  unfold insertMany at h
  split at h
  · rename_i hnil
    cases h
    rw [List.length_eq_zero_iff] at hnil
    subst hnil
    exact ⟨0, rfl, rfl⟩
  split at h
  · rename_i hins
    cases h
    obtain ⟨⟨n, _⟩, hfold, heq⟩ := Option.map_eq_some_iff.1 hins
    cases heq
    exact ⟨n, hfold, rfl⟩
  · cases h

/-- **Every row a batch adds** resolves its references as the store after the batch does. -/
theorem insertMany_rows {scope : MerchantScope} {counts : InsertCounts}
    (h : insertMany scope importId records store = (some counts, store')) (k : RecordKind) :
    ∃ added, store'.rowsOf k = store.rowsOf k ++ added ∧ ∀ row ∈ added, ∃ r ∈ records,
      r.row scope.merchantId importId (store'.links scope.merchantId) = some row := by
  obtain ⟨n, hfold, -⟩ := insertMany_foldlM h
  obtain ⟨added, hadded, hfrom⟩ := foldlM_rows (inInsertOrder_references records) hfold k
  refine ⟨added, hadded, fun row hrow => ?_⟩
  obtain ⟨r, hr, hrr⟩ := hfrom row hrow
  exact ⟨r, mem_inInsertOrder.1 hr, hrr⟩

/-- Of a batch with distinct identities every new record adds its row, unless it lacks a
parent. -/
theorem inInsertOrder_rows {n : Nat}
    (hdistinct : (records.map fun r => (r.kind, r.sourceKey m)).Nodup)
    (h : (inInsertOrder records).foldlM (insertStep m importId) (0, store) = some (n, store'))
    (k : RecordKind) :
    store'.rowsOf k = store.rowsOf k ++
      (records.filter fun r => r.kind = k ∧ ¬ store.Held m r).filterMap
        fun r => r.row m importId (store'.links m) := by
  have hfilter (rs : List FinancialRecord) :
      (rs.filter fun r => r.kind = k ∧ ¬ store.Held m r) =
        (rs.filter fun r => r.kind = k).filter fun r => ¬ store.Held m r := by
    rw [List.filter_filter]
    exact List.filter_congr fun r _ => by simp [Bool.and_comm]
  rw [foldlM_rows_of_distinct (inInsertOrder_references records)
    (((inInsertOrder_perm records).map _).nodup_iff.2 hdistinct) h k, hfilter,
    filter_inInsertOrder, ← hfilter]

/-- Of records with new identities a batch adds every row, unless it lacks a parent. -/
theorem insertMany_rows_of_new {scope : MerchantScope} {counts : InsertCounts}
    (hdistinct : (records.map fun r => (r.kind, r.sourceKey scope.merchantId)).Nodup)
    (hnew : NewKeys scope.merchantId store records)
    (h : insertMany scope importId records store = (some counts, store')) (k : RecordKind) :
    store'.rowsOf k = store.rowsOf k ++ (records.filter fun r => r.kind = k).filterMap
      fun r => r.row scope.merchantId importId (store'.links scope.merchantId) := by
  obtain ⟨n, hfold, -⟩ := insertMany_foldlM h
  rw [inInsertOrder_rows hdistinct hfold k]
  congr 2
  refine List.filter_congr fun r hr => ?_
  have hheld : ¬ store.Held scope.merchantId r := by
    rw [held_iff_exists_row]
    exact fun ⟨row, hrow, hkey⟩ => hnew r hr row hrow hkey
  simp [hheld]

/-- What an insert adds has the id of its record. -/
theorem insertRecord_ids {r : FinancialRecord} {n : Nat}
    (h : insertRecord m importId r store = some (n, store')) {k : RecordKind} {row : StoredRow}
    (hrow : row ∈ store'.rowsOf k) : row ∈ store.rowsOf k ∨ row.base.id = r.base.id := by
  rcases insertRecord_cases h with ⟨-, rfl, -⟩ | ⟨-, x, hx, rfl, -⟩
  · exact .inl hrow
  · rw [RecordStore.rowsOf_push] at hrow
    split at hrow
    · rcases List.mem_append.1 hrow with hrow | hrow
      · exact .inl hrow
      · rw [List.mem_singleton.1 hrow, row_base hx]
        exact .inr rfl
    · exact .inl hrow

/-- No statement fails on rows with new ids. -/
theorem foldlM_commits : ∀ {n : Nat} {store : RecordStore}, FreshIds store records →
    ∃ out, records.foldlM (insertStep m importId) (n, store) = some out := by
  induction records with
  | nil => exact fun _ => ⟨_, rfl⟩
  | cons r records ih =>
      intro n store hids
      obtain ⟨hnew, hdistinct⟩ := List.nodup_cons.1 hids.distinct
      obtain ⟨⟨n', store'⟩, hins⟩ : ∃ out, insertRecord m importId r store = some out := by
        rw [insertRecord_eq]
        cases hrow : r.row m importId (store.links m) with
        | none => exact ⟨_, rfl⟩
        | some row =>
            dsimp only
            rw [StoredRow.insert_eq]
            split
            · exact ⟨_, rfl⟩
            · rw [if_neg]
              · exact ⟨_, rfl⟩
              · simp only [List.any_eq_true, decide_eq_true_eq, not_exists, not_and]
                rw [row_kind hrow, row_base hrow]
                exact hids.fresh r List.mem_cons_self
      rw [List.foldlM_cons, insertStep, hins]
      refine ih ⟨hdistinct, fun x hx row hrow hid => ?_⟩
      rcases insertRecord_ids hins hrow with hrow | hrow
      · exact hids.fresh x (List.mem_cons_of_mem _ hx) row hrow hid
      · exact hnew (List.mem_map.2 ⟨x, hx, hid.symm.trans hrow⟩)

theorem FreshIds.inInsertOrder (hids : FreshIds store records) :
    FreshIds store (inInsertOrder records) :=
  ⟨((inInsertOrder_perm records).map _).nodup_iff.2 hids.distinct,
    fun r hr => hids.fresh r (mem_inInsertOrder.1 hr)⟩

/-- A batch of rows with new ids is inserted. -/
theorem insertRecords_commits (m : MerchantId) (importId : String) (hids : FreshIds store records) :
    ∃ counts after, insertRecords m importId records store = some (counts, after) := by
  obtain ⟨out, hout⟩ : ∃ out, (inInsertOrder records).foldlM (insertStep m importId) (0, store) =
      some out := foldlM_commits hids.inInsertOrder
  exact ⟨_, _, congrArg (Option.map _) hout⟩

/-- **A batch of rows with new ids is committed.** -/
theorem insertMany_commits (hids : FreshIds store records) (scope : MerchantScope)
    (importId : String) :
    ∃ counts after, insertMany scope importId records store = (some counts, after) := by
  obtain ⟨counts, after, hins⟩ := insertRecords_commits scope.merchantId importId hids
  unfold insertMany
  rw [hins]
  split
  · exact ⟨_, _, rfl⟩
  · exact ⟨_, _, rfl⟩

end Batch

end SettlementOps
