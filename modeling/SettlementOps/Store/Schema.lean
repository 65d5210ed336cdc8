import SettlementOps.Records
import SettlementOps.Relational.Table

/-!
# The tables of financial records

The rows of the ten record tables, with the columns the writer fills and the unit loader
reads, and the constraints of the schema: primary keys, the source-uniqueness constraints
and the foreign keys between the tables.

Five tables keep the source system of a record and are unique by merchant, source system and
source record id; the other five do not, and are unique by merchant and source record id.

* `RecordStore` — the tables.
* `WellFormed` — the constraints.
* `RecordStore.keys` — the source identities the tables hold a row for.
-/

namespace SettlementOps

open Relational

/-- The identity a source-uniqueness constraint is about. -/
structure SourceKey where
  merchantId : MerchantId
  sourceSystem : Option String
  sourceRecordId : String
  deriving DecidableEq, Repr

/-- The columns every table has. -/
structure RowBase where
  id : String
  merchantId : MerchantId
  sourceRecordId : String
  importId : Option String
  deriving DecidableEq, Repr

/-- The columns of a table that keeps the source system. -/
structure SourcedRow extends RowBase where
  sourceSystem : String
  deriving DecidableEq, Repr

def RowBase.lineKey (row : RowBase) : SourceKey := ⟨row.merchantId, none, row.sourceRecordId⟩

def SourcedRow.sourceKey (row : SourcedRow) : SourceKey :=
  ⟨row.merchantId, some row.sourceSystem, row.sourceRecordId⟩

structure OrderRow extends SourcedRow where
  customerReference : Option String
  amount : Money
  status : OrderStatus
  createdAt : Date
  deriving DecidableEq, Repr

structure PaymentRow extends SourcedRow where
  orderId : Option String
  amount : Money
  paymentMethod : PaymentMethod
  status : PaymentStatus
  authorizedAt : Option Date
  capturedAt : Option Date
  deriving DecidableEq, Repr

/-- One currency column serves both amounts. -/
structure SettlementRow extends SourcedRow where
  grossAmountMinor : Int
  netAmountMinor : Int
  currency : Currency
  settlementAt : Date
  status : SettlementStatus
  utr : Option String
  deriving DecidableEq, Repr

structure SettlementLineRow extends RowBase where
  settlementId : String
  paymentId : Option String
  lineType : LineType
  amount : Money
  deriving DecidableEq, Repr

structure FeeLineRow extends RowBase where
  paymentId : Option String
  settlementId : Option String
  feeType : String
  amount : Money
  effectiveDate : Date
  deriving DecidableEq, Repr

structure TaxLineRow extends RowBase where
  feeLineId : Option String
  taxType : String
  amount : Money
  period : String
  deriving DecidableEq, Repr

structure RefundRow extends SourcedRow where
  paymentId : String
  amount : Money
  status : RefundStatus
  createdAt : Date
  settledAt : Option Date
  deriving DecidableEq, Repr

structure AdjustmentRow extends RowBase where
  settlementId : Option String
  reference : String
  amount : Money
  effectiveAt : Date
  reasonCode : String
  deriving DecidableEq, Repr

structure BankCreditRow extends SourcedRow where
  utr : String
  amount : Money
  creditedAt : Date
  bankReference : String
  deriving DecidableEq, Repr

structure LedgerEntryRow extends RowBase where
  referenceType : String
  referenceId : String
  amount : Money
  entryType : EntryType
  postedAt : Date
  status : String
  deriving DecidableEq, Repr

structure RecordStore where
  orders : List OrderRow := []
  payments : List PaymentRow := []
  settlements : List SettlementRow := []
  settlementLines : List SettlementLineRow := []
  feeLines : List FeeLineRow := []
  taxLines : List TaxLineRow := []
  refunds : List RefundRow := []
  adjustments : List AdjustmentRow := []
  bankCredits : List BankCreditRow := []
  ledgerEntries : List LedgerEntryRow := []
  deriving DecidableEq, Repr

/-! ## The tables -/

def ordersTable : Table RecordStore OrderRow SourceKey where
  rows := (·.orders)
  set rows store := { store with orders := rows }
  pk := (·.id)
  key := (·.sourceKey)

def paymentsTable : Table RecordStore PaymentRow SourceKey where
  rows := (·.payments)
  set rows store := { store with payments := rows }
  pk := (·.id)
  key := (·.sourceKey)

def settlementsTable : Table RecordStore SettlementRow SourceKey where
  rows := (·.settlements)
  set rows store := { store with settlements := rows }
  pk := (·.id)
  key := (·.sourceKey)

def settlementLinesTable : Table RecordStore SettlementLineRow SourceKey where
  rows := (·.settlementLines)
  set rows store := { store with settlementLines := rows }
  pk := (·.id)
  key := (·.lineKey)

def feeLinesTable : Table RecordStore FeeLineRow SourceKey where
  rows := (·.feeLines)
  set rows store := { store with feeLines := rows }
  pk := (·.id)
  key := (·.lineKey)

def taxLinesTable : Table RecordStore TaxLineRow SourceKey where
  rows := (·.taxLines)
  set rows store := { store with taxLines := rows }
  pk := (·.id)
  key := (·.lineKey)

def refundsTable : Table RecordStore RefundRow SourceKey where
  rows := (·.refunds)
  set rows store := { store with refunds := rows }
  pk := (·.id)
  key := (·.sourceKey)

def adjustmentsTable : Table RecordStore AdjustmentRow SourceKey where
  rows := (·.adjustments)
  set rows store := { store with adjustments := rows }
  pk := (·.id)
  key := (·.lineKey)

def bankCreditsTable : Table RecordStore BankCreditRow SourceKey where
  rows := (·.bankCredits)
  set rows store := { store with bankCredits := rows }
  pk := (·.id)
  key := (·.sourceKey)

def ledgerEntriesTable : Table RecordStore LedgerEntryRow SourceKey where
  rows := (·.ledgerEntries)
  set rows store := { store with ledgerEntries := rows }
  pk := (·.id)
  key := (·.lineKey)

/-! ## The constraints -/

/-- A table obeys its primary key and its source-uniqueness constraint. -/
structure Keyed {ρ : Type} (T : Table RecordStore ρ SourceKey) (rows : List ρ) : Prop where
  pk : Unique T.pk rows
  source : Unique T.key rows

/-- The uniqueness and foreign key constraints of the schema. -/
structure WellFormed (store : RecordStore) : Prop where
  orders : Keyed ordersTable store.orders
  payments : Keyed paymentsTable store.payments
  settlements : Keyed settlementsTable store.settlements
  settlementLines : Keyed settlementLinesTable store.settlementLines
  feeLines : Keyed feeLinesTable store.feeLines
  taxLines : Keyed taxLinesTable store.taxLines
  refunds : Keyed refundsTable store.refunds
  adjustments : Keyed adjustmentsTable store.adjustments
  bankCredits : Keyed bankCreditsTable store.bankCredits
  ledgerEntries : Keyed ledgerEntriesTable store.ledgerEntries
  paymentOrder : References (·.orderId) (·.id) store.payments store.orders
  lineSettlement :
    References (fun l => some l.settlementId) (·.id) store.settlementLines store.settlements
  linePayment : References (·.paymentId) (·.id) store.settlementLines store.payments
  feePayment : References (·.paymentId) (·.id) store.feeLines store.payments
  feeSettlement : References (·.settlementId) (·.id) store.feeLines store.settlements
  taxFee : References (·.feeLineId) (·.id) store.taxLines store.feeLines
  refundPayment : References (fun r => some r.paymentId) (·.id) store.refunds store.payments
  adjustmentSettlement :
    References (·.settlementId) (·.id) store.adjustments store.settlements

theorem keyed_nil {ρ : Type} (T : Table RecordStore ρ SourceKey) : Keyed T [] :=
  ⟨unique_nil _, unique_nil _⟩

theorem wellFormed_empty : WellFormed {} where
  orders := keyed_nil _
  payments := keyed_nil _
  settlements := keyed_nil _
  settlementLines := keyed_nil _
  feeLines := keyed_nil _
  taxLines := keyed_nil _
  refunds := keyed_nil _
  adjustments := keyed_nil _
  bankCredits := keyed_nil _
  ledgerEntries := keyed_nil _
  paymentOrder := references_nil _ _ _
  lineSettlement := references_nil _ _ _
  linePayment := references_nil _ _ _
  feePayment := references_nil _ _ _
  feeSettlement := references_nil _ _ _
  taxFee := references_nil _ _ _
  refundPayment := references_nil _ _ _
  adjustmentSettlement := references_nil _ _ _

/-! ## The identities a store holds -/

/-- The source identities a store holds a row of some kind for. -/
def RecordStore.keys (store : RecordStore) : RecordKind → List SourceKey
  | .order => store.orders.map (·.sourceKey)
  | .payment => store.payments.map (·.sourceKey)
  | .feeLine => store.feeLines.map (·.lineKey)
  | .taxLine => store.taxLines.map (·.lineKey)
  | .refund => store.refunds.map (·.sourceKey)
  | .adjustment => store.adjustments.map (·.lineKey)
  | .settlement => store.settlements.map (·.sourceKey)
  | .settlementLine => store.settlementLines.map (·.lineKey)
  | .bankCredit => store.bankCredits.map (·.sourceKey)
  | .ledgerEntry => store.ledgerEntries.map (·.lineKey)

/-- A table holds the records of one kind. -/
structure HoldsKind {ρ : Type} (T : Table RecordStore ρ SourceKey) (kind : RecordKind) :
    Prop where
  set_rows : ∀ store, T.set (T.rows store) store = store
  rows_set : ∀ rows store, T.rows (T.set rows store) = rows
  keys : ∀ store, store.keys kind = (T.rows store).map T.key
  other : ∀ rows store k, k ≠ kind → (T.set rows store).keys k = store.keys k

theorem holdsKind_orders : HoldsKind ordersTable .order :=
  ⟨fun _ => rfl, fun _ _ => rfl, fun _ => rfl, fun _ _ k hk => by cases k <;> trivial⟩

theorem holdsKind_payments : HoldsKind paymentsTable .payment :=
  ⟨fun _ => rfl, fun _ _ => rfl, fun _ => rfl, fun _ _ k hk => by cases k <;> trivial⟩

theorem holdsKind_settlements : HoldsKind settlementsTable .settlement :=
  ⟨fun _ => rfl, fun _ _ => rfl, fun _ => rfl, fun _ _ k hk => by cases k <;> trivial⟩

theorem holdsKind_settlementLines : HoldsKind settlementLinesTable .settlementLine :=
  ⟨fun _ => rfl, fun _ _ => rfl, fun _ => rfl, fun _ _ k hk => by cases k <;> trivial⟩

theorem holdsKind_feeLines : HoldsKind feeLinesTable .feeLine :=
  ⟨fun _ => rfl, fun _ _ => rfl, fun _ => rfl, fun _ _ k hk => by cases k <;> trivial⟩

theorem holdsKind_taxLines : HoldsKind taxLinesTable .taxLine :=
  ⟨fun _ => rfl, fun _ _ => rfl, fun _ => rfl, fun _ _ k hk => by cases k <;> trivial⟩

theorem holdsKind_refunds : HoldsKind refundsTable .refund :=
  ⟨fun _ => rfl, fun _ _ => rfl, fun _ => rfl, fun _ _ k hk => by cases k <;> trivial⟩

theorem holdsKind_adjustments : HoldsKind adjustmentsTable .adjustment :=
  ⟨fun _ => rfl, fun _ _ => rfl, fun _ => rfl, fun _ _ k hk => by cases k <;> trivial⟩

theorem holdsKind_bankCredits : HoldsKind bankCreditsTable .bankCredit :=
  ⟨fun _ => rfl, fun _ _ => rfl, fun _ => rfl, fun _ _ k hk => by cases k <;> trivial⟩

theorem holdsKind_ledgerEntries : HoldsKind ledgerEntriesTable .ledgerEntry :=
  ⟨fun _ => rfl, fun _ _ => rfl, fun _ => rfl, fun _ _ k hk => by cases k <;> trivial⟩

section Insert

variable {ρ : Type} {T : Table RecordStore ρ SourceKey} {kind : RecordKind} {row : ρ}
  {store store' : RecordStore} {n : Nat}

/-- An insert adds its own identity, or finds it there and adds nothing. -/
theorem HoldsKind.insert_keys (hT : HoldsKind T kind)
    (h : T.insert row store = some (n, store')) :
    (n = 0 ∧ store' = store ∧ T.key row ∈ store.keys kind) ∨
      (n = 1 ∧ ∀ k, store'.keys k =
        if k = kind then store.keys k ++ [T.key row] else store.keys k) := by
  obtain ⟨table, hins, rfl⟩ := Table.insert_eq_some.1 h
  rcases insertNew_cases hins with ⟨rfl, rfl, r, hr, hkey⟩ | ⟨rfl, rfl, -, -⟩
  · refine .inl ⟨rfl, hT.set_rows store, ?_⟩
    rw [hT.keys, ← hkey]
    exact List.mem_map_of_mem hr
  · refine .inr ⟨rfl, fun k => ?_⟩
    by_cases hk : k = kind
    · subst hk
      rw [if_pos rfl, hT.keys, hT.keys, hT.rows_set, List.map_append]
      rfl
    · rw [if_neg hk, hT.other _ _ k hk]

/-- An insert keeps the constraints of its own table. -/
theorem HoldsKind.insert_keyed (hT : HoldsKind T kind) (hrows : Keyed T (T.rows store))
    (h : T.insert row store = some (n, store')) : Keyed T (T.rows store') := by
  obtain ⟨table, hins, rfl⟩ := Table.insert_eq_some.1 h
  rw [hT.rows_set]
  exact ⟨insertNew_unique_pk hins hrows.pk, insertNew_unique_key hins hrows.source⟩

end Insert

end SettlementOps
