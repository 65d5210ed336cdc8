import SettlementOps.Reconciliation.DuplicateDetection
import SettlementOps.Store.UnitLoader

/-!
# Duplicates from the import to the verdict

The detector is to run before the matcher, on records with the lineage they were imported
with.  The store keeps no observation times, the unit loader passes no groups on, and
nothing else runs the detector, so no stored payment is ever reported for a duplicate.

* `ImportBatch`, `importBatches` — a store filled by imports.
* `linkedImports` — the imported records whose rows are linked to a payment.
* `duplicates_reported_iff` — duplicates among them are reported only when there are none.
-/

namespace SettlementOps

/-- The records of one import of a merchant. -/
structure ImportBatch where
  merchantId : MerchantId
  importId : String
  records : List FinancialRecord
  deriving DecidableEq, Repr

/-- Write the batches one after another. -/
def importBatches (batches : List ImportBatch) (store : RecordStore) : RecordStore :=
  batches.foldl (fun s b => (insertMany ⟨b.merchantId⟩ b.importId b.records s).2) store

theorem importBatches_wellFormed (batches : List ImportBatch) :
    ∀ {store : RecordStore}, WellFormed store → WellFormed (importBatches batches store) := by
  induction batches with
  | nil =>
      intro store h
      exact h
  | cons b batches ih =>
      intro store h
      exact ih (insertMany_wellFormed h _ _ _)

/-- The ids of the rows linked to a payment, by the kind of their records. -/
def RecordStore.linkedIds (store : RecordStore) (m : MerchantId) (paymentId : String) :
    RecordKind → List String
  | .payment => [paymentId]
  | .feeLine => (store.linkedFees m paymentId).map (·.id)
  | .taxLine => (store.linkedTaxes m paymentId).map (·.id)
  | .refund => (store.linkedRefunds m paymentId).map (·.id)
  | .adjustment => (store.linkedAdjustments m paymentId).map (·.id)
  | .settlement => (store.linkedSettlements m paymentId).map (·.id)
  | .settlementLine => (store.linkedLines m paymentId).map (·.id)
  | .bankCredit => (store.linkedCredits m paymentId).map (·.id)
  | .order => []
  | .ledgerEntry => []

/-- The imported records whose rows are linked to a payment, with the lineage they were
imported with.  A record rejected by a source-uniqueness constraint has no row. -/
def linkedImports (batches : List ImportBatch) (store : RecordStore) (p : PaymentRow) :
    List FinancialRecord :=
  (batches.flatMap (·.records)).filter fun r =>
    r.base.id ∈ store.linkedIds p.merchantId p.id r.kind

/-- The verdict on the loaded unit of a payment is an exception for a duplicate. -/
def DuplicateReported (store : RecordStore) (p : PaymentRow) : Prop :=
  ∃ unit, loadUnit store ⟨p.merchantId⟩ p.id = some unit ∧
    (reconcileUnit unit).outcome = .exception ∧
    .duplicateSourceRecord ∈ (reconcileUnit unit).reasons

/-- No payment of a store is reported for a duplicate. -/
theorem not_duplicateReported {store : RecordStore} (h : WellFormed store) {p : PaymentRow}
    (hp : p ∈ store.payments) : ¬ DuplicateReported store p := by
  rintro ⟨unit, hload, -, hreason⟩
  obtain ⟨unit', hload', hunit⟩ := loadUnit_eq h hp
  rw [hload, Option.some.injEq] at hload'
  subst hload'
  exact (duplicate_reported_iff unit).1 hreason hunit.duplicates

/-- **When duplicate detection is effective end to end.**  Duplicates among the imported
records linked to a payment lead to an exception for a duplicate exactly when there are
none. -/
theorem duplicates_reported_iff (batches : List ImportBatch) (p : PaymentRow)
    (hp : p ∈ (importBatches batches {}).payments) :
    (detectDuplicates (linkedImports batches (importBatches batches {}) p) ≠ [] →
        DuplicateReported (importBatches batches {}) p) ↔
      detectDuplicates (linkedImports batches (importBatches batches {}) p) = [] := by
  have hnone := not_duplicateReported (importBatches_wellFormed batches wellFormed_empty) hp
  constructor
  · intro h
    by_contra hne
    exact hnone (h hne)
  · intro h hne
    exact absurd h hne

/-! ## A refund delivered twice -/

/-- A refund of 500.00 of the sample payment, observed at a time. -/
def sampleRefund (id : String) (observedAt : Date) : RefundRecord where
  id := id
  scope := ⟨"m-1"⟩
  lineage := ⟨"gateway", id, observedAt, ⟨0⟩, "v1"⟩
  refundId := id
  paymentId := "pay-1"
  amount := ⟨50_000, "INR"⟩
  status := .processed
  createdAt := ⟨1_770_026_400_000⟩
  settledAt := none

/-- The sample import, and a refund that arrives twice, thirty seconds apart, under two
source ids. -/
def redelivered : List ImportBatch :=
  [⟨"m-1", "import-1", sampleImport⟩,
    ⟨"m-1", "import-2", [.refund (sampleRefund "ref-1" ⟨1_770_030_000_000⟩),
      .refund (sampleRefund "ref-2" ⟨1_770_030_030_000⟩)]⟩]

/-- Both refunds are in the loaded unit, the detector would group them, and the verdict does
not report them. -/
theorem redelivered_unreported :
    samplePaymentRow ∈ (importBatches redelivered {}).payments ∧
    (detectDuplicates (linkedImports redelivered (importBatches redelivered {})
      samplePaymentRow)).map (·.ids) = [["ref-1", "ref-2"]] ∧
    (∃ unit, loadUnit (importBatches redelivered {}) ⟨"m-1"⟩ "pay-1" = some unit ∧
      unit.refunds.map (·.id) = ["ref-1", "ref-2"]) ∧
    ¬ DuplicateReported (importBatches redelivered {}) samplePaymentRow := by
  have hp : samplePaymentRow ∈ (importBatches redelivered {}).payments := by decide
  exact ⟨hp, by decide, ⟨_, rfl, rfl⟩,
    not_duplicateReported (importBatches_wellFormed _ wellFormed_empty) hp⟩

/-- One import without duplicates, of which there is nothing to report. -/
theorem duplicates_reported_sampleImport :
    samplePaymentRow ∈ (importBatches [⟨"m-1", "import-1", sampleImport⟩] {}).payments ∧
    ((detectDuplicates (linkedImports [⟨"m-1", "import-1", sampleImport⟩]
        (importBatches [⟨"m-1", "import-1", sampleImport⟩] {}) samplePaymentRow) ≠ [] →
          DuplicateReported (importBatches [⟨"m-1", "import-1", sampleImport⟩] {})
            samplePaymentRow) ↔
      detectDuplicates (linkedImports [⟨"m-1", "import-1", sampleImport⟩]
        (importBatches [⟨"m-1", "import-1", sampleImport⟩] {}) samplePaymentRow) = []) ∧
    detectDuplicates (linkedImports [⟨"m-1", "import-1", sampleImport⟩]
      (importBatches [⟨"m-1", "import-1", sampleImport⟩] {}) samplePaymentRow) = [] :=
  ⟨by decide,
    duplicates_reported_iff [⟨"m-1", "import-1", sampleImport⟩] samplePaymentRow (by decide),
    by decide⟩

end SettlementOps
