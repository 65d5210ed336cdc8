import Mathlib.Data.List.Dedup
import SettlementOps.Reconciliation.Matcher
import SettlementOps.Store.RecordWriter

/-!
# The unit loader

The reconciliation unit of a payment is read by seven queries.  Every one of them filters on
the merchant of the scope.  The query for the adjustments joins the settlement lines without
a `DISTINCT`, so an adjustment comes back once for every line the payment has in its
settlement.

* `loadUnit` — the unit of a payment.
* `RecordStore.linkedFees` … `RecordStore.linkedCredits` — the merchant's rows linked to the
  payment.
* `UnitComplete` — each linked row occurs exactly once and nothing else does.
* `loadUnit_complete_iff` — the unit is complete exactly when no adjustment's settlement has
  two lines of the payment.
-/

namespace SettlementOps

open Relational

/-! ## Rows as records -/

/-- Lineage timestamps are not read back. -/
def lineageOf (sourceSystem : Option String) (sourceRecordId : String) : SourceLineage where
  sourceSystem := sourceSystem.getD "internal"
  sourceRecordId := sourceRecordId
  observedAt := ⟨0⟩
  ingestedAt := ⟨0⟩
  schemaVersion := "v1"

section Records

variable (scope : MerchantScope) (paymentId : PaymentId)

def lineBase (row : RowBase) : RecordBase := ⟨row.id, scope, lineageOf none row.sourceRecordId⟩

def sourcedBase (row : SourcedRow) : RecordBase :=
  ⟨row.id, scope, lineageOf (some row.sourceSystem) row.sourceRecordId⟩

def paymentRecord (p : PaymentRow) : PaymentRecord where
  toRecordBase := sourcedBase scope p.toSourcedRow
  paymentId := p.id
  orderId := none
  amount := p.amount
  paymentMethod := p.paymentMethod
  status := p.status
  authorizedAt := p.authorizedAt
  capturedAt := p.capturedAt

def feeLineRecord (r : FeeLineRow) : FeeLineRecord where
  toRecordBase := lineBase scope r.toRowBase
  paymentId := some paymentId
  settlementId := none
  feeType := r.feeType
  amount := r.amount
  effectiveDate := r.effectiveDate

def taxLineRecord (r : TaxLineRow) : TaxLineRecord where
  toRecordBase := lineBase scope r.toRowBase
  feeLineId := r.feeLineId
  taxType := r.taxType
  amount := r.amount
  period := r.period

def refundRecord (r : RefundRow) : RefundRecord where
  toRecordBase := sourcedBase scope r.toSourcedRow
  refundId := r.id
  paymentId := paymentId
  amount := r.amount
  status := r.status
  createdAt := r.createdAt
  settledAt := r.settledAt

def adjustmentRecord (r : AdjustmentRow) : AdjustmentRecord where
  toRecordBase := lineBase scope r.toRowBase
  settlementId := none
  reference := r.reference
  amount := r.amount
  effectiveAt := r.effectiveAt
  reasonCode := r.reasonCode

def settlementRecord (r : SettlementRow) : SettlementRecord where
  toRecordBase := sourcedBase scope r.toSourcedRow
  settlementId := r.id
  settlementBatchId := none
  grossAmount := ⟨r.grossAmountMinor, r.currency⟩
  netAmount := ⟨r.netAmountMinor, r.currency⟩
  settlementAt := r.settlementAt
  status := r.status
  utr := r.utr

def settlementLineRecord (r : SettlementLineRow) : SettlementLineRecord where
  toRecordBase := lineBase scope r.toRowBase
  settlementId := r.settlementId
  paymentId := some paymentId
  refundId := none
  lineType := r.lineType
  amount := r.amount

def bankCreditRecord (r : BankCreditRow) : BankCreditRecord where
  toRecordBase := sourcedBase scope r.toSourcedRow
  utr := r.utr
  amount := r.amount
  creditedAt := r.creditedAt
  bankReference := r.bankReference

end Records

/-! ## The queries -/

section Queries

variable (store : RecordStore) (m : MerchantId) (paymentId : String)

def feesQuery : List FeeLineRow :=
  store.feeLines.filter fun f => f.merchantId = m ∧ f.paymentId = some paymentId

def taxesQuery : List TaxLineRow :=
  ((join (fun t f => decide (t.feeLineId = some f.id)) store.taxLines store.feeLines).filter
    fun p => decide (p.1.merchantId = m ∧ p.2.paymentId = some paymentId)).map Prod.fst

def refundsQuery : List RefundRow :=
  store.refunds.filter fun r => r.merchantId = m ∧ r.paymentId = paymentId

/-- The join that has no `DISTINCT`. -/
def adjustmentsQuery : List AdjustmentRow :=
  ((join (fun a l => decide (a.settlementId = some l.settlementId)) store.adjustments
      store.settlementLines).filter
    fun p => decide (p.1.merchantId = m ∧ p.2.paymentId = some paymentId)).map Prod.fst

def linesQuery : List SettlementLineRow :=
  store.settlementLines.filter fun l => l.merchantId = m ∧ l.paymentId = some paymentId

/-- The rows the query for settlements selects, before `DISTINCT`. -/
def settlementsQuery : List SettlementRow :=
  ((join (fun s l => decide (l.settlementId = s.id)) store.settlements
      store.settlementLines).filter
    fun p => decide (p.1.merchantId = m ∧ p.2.paymentId = some paymentId)).map Prod.fst

/-- The rows the query for bank credits selects, before `DISTINCT`. -/
def creditsQuery : List BankCreditRow :=
  ((join (fun bs l => decide (l.settlementId = bs.2.id))
      (join (fun b s => decide (s.utr = some b.utr ∧ s.merchantId = b.merchantId))
        store.bankCredits store.settlements) store.settlementLines).filter
    fun p => decide (p.1.1.merchantId = m ∧ p.2.paymentId = some paymentId)).map
      fun p => p.1.1

end Queries

/-- The reconciliation unit of a payment of the merchant.  The columns a `DISTINCT` query
selects are those of the records it is turned into. -/
def loadUnit (store : RecordStore) (scope : MerchantScope) (paymentId : PaymentId) :
    Option ReconciliationUnit :=
  let m := scope.merchantId
  match store.payments.find? fun p => p.id = paymentId ∧ p.merchantId = m with
  | none => none
  | some p =>
      some {
        payment := paymentRecord scope p
        fees := (feesQuery store m p.id).map (feeLineRecord scope p.id)
        taxes := (taxesQuery store m p.id).map (taxLineRecord scope)
        refunds := (refundsQuery store m p.id).map (refundRecord scope p.id)
        adjustments := (adjustmentsQuery store m p.id).map (adjustmentRecord scope)
        settlements := ((settlementsQuery store m p.id).map (settlementRecord scope)).dedup
        settlementLines := (linesQuery store m p.id).map (settlementLineRecord scope p.id)
        bankCredits := ((creditsQuery store m p.id).map (bankCreditRecord scope)).dedup
        duplicates := [] }

/-! ## The linked rows -/

namespace RecordStore

variable (store : RecordStore) (m : MerchantId) (paymentId : String)

/-- The lines of a settlement that reference the payment. -/
def linesOf (settlementId : String) : List SettlementLineRow :=
  store.settlementLines.filter fun l =>
    l.settlementId = settlementId ∧ l.paymentId = some paymentId

/-- A settlement one of whose lines references the payment. -/
def settles (settlementId : String) : Bool := !(store.linesOf paymentId settlementId).isEmpty

/-- A fee is linked by the payment it names, as a line is. -/
def linkedFees : List FeeLineRow :=
  store.feeLines.filter fun f => f.merchantId = m ∧ f.paymentId = some paymentId

/-- A tax is linked through its fee. -/
def linkedTaxes : List TaxLineRow :=
  store.taxLines.filter fun t =>
    t.merchantId = m ∧
      ∃ f ∈ store.feeLines, t.feeLineId = some f.id ∧ f.paymentId = some paymentId

def linkedRefunds : List RefundRow :=
  store.refunds.filter fun r => r.merchantId = m ∧ r.paymentId = paymentId

def linkedLines : List SettlementLineRow :=
  store.settlementLines.filter fun l => l.merchantId = m ∧ l.paymentId = some paymentId

def linkedSettlements : List SettlementRow :=
  store.settlements.filter fun s => s.merchantId = m ∧ store.settles paymentId s.id

def linkedAdjustments : List AdjustmentRow :=
  store.adjustments.filter fun a =>
    a.merchantId = m ∧ ∃ s ∈ a.settlementId, store.settles paymentId s

/-- A bank credit is linked through a settlement with its UTR. -/
def linkedCredits : List BankCreditRow :=
  store.bankCredits.filter fun b =>
    b.merchantId = m ∧
      ∃ s ∈ store.settlements,
        s.utr = some b.utr ∧ s.merchantId = b.merchantId ∧ store.settles paymentId s.id

end RecordStore

/-- A unit holds each of the merchant's rows linked to the payment exactly once and nothing
else, so that every linked amount counts once in the expected net. -/
structure UnitComplete (store : RecordStore) (p : PaymentRow) (unit : ReconciliationUnit) :
    Prop where
  payment : unit.payment = paymentRecord ⟨p.merchantId⟩ p
  fees : unit.fees.Perm
    ((store.linkedFees p.merchantId p.id).map (feeLineRecord ⟨p.merchantId⟩ p.id))
  taxes : unit.taxes.Perm
    ((store.linkedTaxes p.merchantId p.id).map (taxLineRecord ⟨p.merchantId⟩))
  refunds : unit.refunds.Perm
    ((store.linkedRefunds p.merchantId p.id).map (refundRecord ⟨p.merchantId⟩ p.id))
  adjustments : unit.adjustments.Perm
    ((store.linkedAdjustments p.merchantId p.id).map (adjustmentRecord ⟨p.merchantId⟩))
  settlements : unit.settlements.Perm
    ((store.linkedSettlements p.merchantId p.id).map (settlementRecord ⟨p.merchantId⟩))
  settlementLines : unit.settlementLines.Perm
    ((store.linkedLines p.merchantId p.id).map (settlementLineRecord ⟨p.merchantId⟩ p.id))
  bankCredits : unit.bankCredits.Perm
    ((store.linkedCredits p.merchantId p.id).map (bankCreditRecord ⟨p.merchantId⟩))
  net : unit.expectedNetInput.net =
    p.amount.amountMinor - Money.total ((store.linkedFees p.merchantId p.id).map (·.amount)) -
      Money.total ((store.linkedTaxes p.merchantId p.id).map (·.amount)) -
      Money.total ((store.linkedRefunds p.merchantId p.id).map (·.amount)) +
      Money.total ((store.linkedAdjustments p.merchantId p.id).map (·.amount))

/-! ## Each query and the linked rows -/

section Complete

variable {store : RecordStore} {m : MerchantId} {paymentId : String}

theorem settles_iff {settlementId : String} :
    store.settles paymentId settlementId = true ↔
      ∃ l ∈ store.settlementLines, l.settlementId = settlementId ∧
        l.paymentId = some paymentId := by
  unfold RecordStore.settles RecordStore.linesOf
  simp only [Bool.not_eq_true', List.isEmpty_eq_false_iff, ne_eq, List.filter_eq_nil_iff,
    decide_eq_true_eq, not_forall, exists_prop, not_not]

/-- A tax has one fee, so it comes back at most once. -/
theorem taxesQuery_eq (h : WellFormed store) :
    taxesQuery store m paymentId = store.linkedTaxes m paymentId := by
  unfold taxesQuery RecordStore.linkedTaxes
  refine (map_fst_join_of_le_one _
    (fun (t : TaxLineRow) (f : FeeLineRow) =>
      decide (t.merchantId = m ∧ f.paymentId = some paymentId)) ?_).trans ?_
  · intro t _
    refine countP_le_one_of_unique (k := t.feeLineId.getD "") h.feeLines.pk fun f _ hf => ?_
    have hid : t.feeLineId = some f.id := by
      simp only [Bool.and_eq_true, decide_eq_true_eq] at hf
      exact hf.1
    rw [hid]
    rfl
  · apply List.filter_congr
    intro t _
    rw [Bool.eq_iff_iff]
    simp only [List.any_eq_true, Bool.and_eq_true, decide_eq_true_eq]
    constructor
    · rintro ⟨f, hf, hid, hm, hp⟩
      exact ⟨hm, f, hf, hid, hp⟩
    · rintro ⟨hm, f, hf, hid, hp⟩
      exact ⟨f, hf, hid, hm, hp⟩

/-- An adjustment comes back once for every line of the payment in its settlement. -/
theorem countP_adjustment {a : AdjustmentRow} (hm : a.merchantId = m) :
    (store.settlementLines.countP fun l => decide (a.settlementId = some l.settlementId) &&
        decide (a.merchantId = m ∧ l.paymentId = some paymentId)) =
      (a.settlementId.map fun s => (store.linesOf paymentId s).length).getD 0 := by
  cases hs : a.settlementId with
  | none => simp
  | some s =>
      simp only [Option.map_some, Option.getD_some, RecordStore.linesOf,
        ← List.countP_eq_length_filter]
      apply List.countP_congr
      intro l _
      simp [hm, eq_comm (a := s)]

theorem adjustmentsQuery_filter :
    (store.adjustments.filter fun a => store.settlementLines.any fun l =>
      decide (a.settlementId = some l.settlementId) &&
        decide (a.merchantId = m ∧ l.paymentId = some paymentId)) =
      store.linkedAdjustments m paymentId := by
  apply List.filter_congr
  intro a _
  rw [Bool.eq_iff_iff]
  simp only [List.any_eq_true, Bool.and_eq_true, decide_eq_true_eq, settles_iff]
  constructor
  · rintro ⟨l, hl, hs, hm, hp⟩
    exact ⟨hm, l.settlementId, hs, l, hl, rfl, hp⟩
  · rintro ⟨hm, s, hs, l, hl, rfl, hp⟩
    exact ⟨l, hl, hs, hm, hp⟩

theorem mem_settlementsQuery (s : SettlementRow) :
    s ∈ settlementsQuery store m paymentId ↔
      s ∈ store.settlements ∧
        decide (s.merchantId = m ∧ store.settles paymentId s.id = true) = true := by
  unfold settlementsQuery
  simp only [List.mem_map, List.mem_filter, mem_join, decide_eq_true_eq, Prod.exists,
    settles_iff]
  constructor
  · rintro ⟨s', l, ⟨⟨hs, hl, hid⟩, hm, hp⟩, rfl⟩
    exact ⟨hs, hm, l, hl, hid, hp⟩
  · rintro ⟨hs, hm, l, hl, hid, hp⟩
    exact ⟨s, l, ⟨⟨hs, hl, hid⟩, hm, hp⟩, rfl⟩

theorem mem_creditsQuery (b : BankCreditRow) :
    b ∈ creditsQuery store m paymentId ↔
      b ∈ store.bankCredits ∧ decide (b.merchantId = m ∧ ∃ s ∈ store.settlements,
        s.utr = some b.utr ∧ s.merchantId = b.merchantId ∧
          store.settles paymentId s.id = true) = true := by
  unfold creditsQuery
  simp only [List.mem_map, List.mem_filter, mem_join, decide_eq_true_eq, Prod.exists,
    settles_iff]
  constructor
  · rintro ⟨b', s, l, ⟨⟨⟨hb, hs, hutr, hsm⟩, hl, hid⟩, hm, hp⟩, rfl⟩
    exact ⟨hb, hm, s, hs, hutr, hsm, l, hl, hid, hp⟩
  · rintro ⟨hb, hm, s, hs, hutr, hsm, l, hl, hid, hp⟩
    exact ⟨b, s, l, ⟨⟨⟨hb, hs, hutr, hsm⟩, hl, hid⟩, hm, hp⟩, rfl⟩

/-- Records that carry the primary key of their row are as distinct as the rows. -/
theorem nodup_map_records {ρ τ : Type} {rows : List ρ} {pk : ρ → String} {f : ρ → τ}
    (id : τ → String) (h : Unique pk rows) (hid : ∀ r, id (f r) = pk r) :
    (rows.map f).Nodup := by
  refine List.Nodup.of_map id ?_
  rw [List.map_map]
  have hcomp : id ∘ f = pk := funext hid
  rw [hcomp]
  exact h

/-- What the loaded unit holds: the linked rows, but for the adjustments, of which it holds
what the query returned. -/
structure LoadedUnit (store : RecordStore) (p : PaymentRow) (unit : ReconciliationUnit) :
    Prop where
  payment : unit.payment = paymentRecord ⟨p.merchantId⟩ p
  fees : unit.fees =
    (store.linkedFees p.merchantId p.id).map (feeLineRecord ⟨p.merchantId⟩ p.id)
  taxes : unit.taxes =
    (store.linkedTaxes p.merchantId p.id).map (taxLineRecord ⟨p.merchantId⟩)
  refunds : unit.refunds =
    (store.linkedRefunds p.merchantId p.id).map (refundRecord ⟨p.merchantId⟩ p.id)
  adjustments : unit.adjustments =
    (adjustmentsQuery store p.merchantId p.id).map (adjustmentRecord ⟨p.merchantId⟩)
  settlements : unit.settlements.Perm
    ((store.linkedSettlements p.merchantId p.id).map (settlementRecord ⟨p.merchantId⟩))
  settlementLines : unit.settlementLines =
    (store.linkedLines p.merchantId p.id).map (settlementLineRecord ⟨p.merchantId⟩ p.id)
  bankCredits : unit.bankCredits.Perm
    ((store.linkedCredits p.merchantId p.id).map (bankCreditRecord ⟨p.merchantId⟩))
  duplicates : unit.duplicates = []

/-- Every stored payment has a unit. -/
theorem loadUnit_eq (h : WellFormed store) {p : PaymentRow} (hp : p ∈ store.payments) :
    ∃ unit, loadUnit store ⟨p.merchantId⟩ p.id = some unit ∧ LoadedUnit store p unit := by
  have hfind : store.payments.find? (fun r => r.id = p.id ∧ r.merchantId = p.merchantId) =
      some p := by
    cases hf : store.payments.find? (fun r => r.id = p.id ∧ r.merchantId = p.merchantId) with
    | none => simpa using List.find?_eq_none.1 hf p hp
    | some r =>
        have hid : r.id = p.id ∧ r.merchantId = p.merchantId := by
          simpa using List.find?_some hf
        exact congrArg some (h.payments.pk.eq (List.mem_of_find?_eq_some hf) hp hid.1)
  have hsettlements : (store.settlements.map (settlementRecord ⟨p.merchantId⟩)).Nodup :=
    nodup_map_records (fun r => r.id) h.settlements.pk fun _ => rfl
  have hcredits : (store.bankCredits.map (bankCreditRecord ⟨p.merchantId⟩)).Nodup :=
    nodup_map_records (fun r => r.id) h.bankCredits.pk fun _ => rfl
  unfold loadUnit
  dsimp only
  rw [hfind]
  exact ⟨_, rfl, {
    payment := rfl
    fees := rfl
    taxes := by
      dsimp only
      rw [taxesQuery_eq h]
    refunds := rfl
    adjustments := rfl
    settlements := dedup_map_perm hsettlements mem_settlementsQuery
    settlementLines := rfl
    bankCredits := dedup_map_perm hcredits mem_creditsQuery
    duplicates := rfl }⟩

/-- The adjustments come back once each when none has two lines of the payment. -/
theorem adjustmentsQuery_eq
    (hcond : ∀ a ∈ store.adjustments, a.merchantId = m → ∀ s ∈ a.settlementId,
      (store.linesOf paymentId s).length ≤ 1) :
    adjustmentsQuery store m paymentId = store.linkedAdjustments m paymentId := by
  rw [← adjustmentsQuery_filter]
  refine map_fst_join_of_le_one _ (fun (a : AdjustmentRow) (l : SettlementLineRow) =>
    decide (a.merchantId = m ∧ l.paymentId = some paymentId)) fun a ha => ?_
  by_cases hm : a.merchantId = m
  · rw [countP_adjustment hm]
    cases hs : a.settlementId with
    | none => simp
    | some s => exact hcond a ha hm s hs
  · simp [hm]

/-- No more adjustments come back than are linked only if none has two lines. -/
theorem lines_le_one_of_length_le
    (hlen : (adjustmentsQuery store m paymentId).length ≤
      (store.linkedAdjustments m paymentId).length) :
    ∀ a ∈ store.adjustments, a.merchantId = m → ∀ s ∈ a.settlementId,
      (store.linesOf paymentId s).length ≤ 1 := by
  intro a ha hm s hs
  rw [← adjustmentsQuery_filter] at hlen
  have hle := countP_le_one_of_length_le _ (fun (a : AdjustmentRow) (l : SettlementLineRow) =>
    decide (a.merchantId = m ∧ l.paymentId = some paymentId)) hlen a ha
  rw [countP_adjustment hm, hs] at hle
  exact hle

end Complete

/-- **When the unit of a payment is complete.**  Each of the merchant's rows linked to the
payment occurs exactly once in the loaded unit, and nothing else does, exactly when no
adjustment of the merchant has two lines of the payment in its settlement. -/
theorem loadUnit_complete_iff (store : RecordStore) (h : WellFormed store) (p : PaymentRow)
    (hp : p ∈ store.payments) :
    (∃ unit, loadUnit store ⟨p.merchantId⟩ p.id = some unit ∧ UnitComplete store p unit) ↔
      ∀ a ∈ store.adjustments, a.merchantId = p.merchantId → ∀ s ∈ a.settlementId,
        (store.linesOf p.id s).length ≤ 1 := by
  obtain ⟨unit, hload, hunit⟩ := loadUnit_eq h hp
  constructor
  · rintro ⟨unit', hload', hcomplete⟩
    rw [hload, Option.some.injEq] at hload'
    subst hload'
    refine lines_le_one_of_length_le ?_
    have hlen := hcomplete.adjustments.length_eq
    rw [hunit.adjustments, List.length_map, List.length_map] at hlen
    exact hlen.le
  · intro hcond
    have hadjustments := hunit.adjustments
    rw [adjustmentsQuery_eq hcond] at hadjustments
    refine ⟨unit, hload, {
      payment := hunit.payment
      fees := by rw [hunit.fees]
      taxes := by rw [hunit.taxes]
      refunds := by rw [hunit.refunds]
      adjustments := by rw [hadjustments]
      settlements := hunit.settlements
      settlementLines := by rw [hunit.settlementLines]
      bankCredits := hunit.bankCredits
      net := ?_ }⟩
    simp only [ExpectedNetInput.net, ReconciliationUnit.expectedNetInput, hunit.payment,
      hunit.fees, hunit.taxes, hunit.refunds, hadjustments, List.map_map]
    rfl

/-! ## A payment with two lines in one settlement -/

/-- The records of the sample unit, delivered in one import. -/
def sampleImport : List FinancialRecord :=
  [.payment sampleUnit.payment] ++ sampleUnit.fees.map .feeLine ++ sampleUnit.taxes.map .taxLine ++
    sampleUnit.settlements.map .settlement ++ sampleUnit.settlementLines.map .settlementLine ++
    sampleUnit.bankCredits.map .bankCredit

def sampleStore : RecordStore := (insertMany ⟨"m-1"⟩ "import-1" sampleImport {}).2

def samplePaymentRow : PaymentRow where
  id := "pay-1"
  merchantId := "m-1"
  sourceRecordId := "pay-1"
  importId := some "import-1"
  sourceSystem := "gateway"
  orderId := none
  amount := ⟨1_000_000, "INR"⟩
  paymentMethod := .card
  status := .captured
  authorizedAt := none
  capturedAt := some ⟨1_770_026_400_000⟩

theorem sampleStore_wellFormed : WellFormed sampleStore :=
  insertMany_wellFormed wellFormed_empty _ _ _

def sampleAdjustment : FinancialRecord :=
  .adjustment { sampleBase "adj-1" with
    settlementId := some "set-1"
    reference := "ADJ-1"
    amount := ⟨-5_000, "INR"⟩
    effectiveAt := ⟨1_770_163_200_000⟩
    reasonCode := "CHARGEBACK" }

/-- An adjustment of the settlement, in which the payment has its one line. -/
def singleLineStore : RecordStore :=
  (insertMany ⟨"m-1"⟩ "import-2" [sampleAdjustment] sampleStore).2

/-- The unit is complete, the adjustment in it once. -/
theorem loadUnit_complete_singleLineStore :
    (singleLineStore.linesOf "pay-1" "set-1").length = 1 ∧
    ∃ unit, loadUnit singleLineStore ⟨"m-1"⟩ "pay-1" = some unit ∧
      unit.adjustments.map (·.amount.amountMinor) = [-5_000] ∧
      UnitComplete singleLineStore samplePaymentRow unit := by
  have hstore : WellFormed singleLineStore := insertMany_wellFormed sampleStore_wellFormed _ _ _
  obtain ⟨unit, hload, hcomplete⟩ :=
    (loadUnit_complete_iff singleLineStore hstore samplePaymentRow (by decide)).2 (by decide)
  obtain ⟨unit', hload', hamounts⟩ :
      ∃ unit, loadUnit singleLineStore ⟨"m-1"⟩ "pay-1" = some unit ∧
        unit.adjustments.map (·.amount.amountMinor) = [-5_000] := ⟨_, rfl, by decide⟩
  obtain rfl : unit' = unit := Option.some.inj (hload'.symm.trans hload)
  exact ⟨by decide, unit', hload', hamounts, hcomplete⟩

/-- An adjustment of the settlement, and its own line beside that of the payment. -/
def adjustedStore : RecordStore :=
  (insertMany ⟨"m-1"⟩ "import-2"
    [.settlementLine { sampleBase "line-2" with
        settlementId := "set-1"
        paymentId := some "pay-1"
        refundId := none
        lineType := .adjustment
        amount := ⟨-5_000, "INR"⟩ },
      sampleAdjustment] sampleStore).2

/-- One adjustment of -50.00 is loaded twice and lowers the expected net by 100.00. -/
theorem adjustment_loaded_twice :
    WellFormed adjustedStore ∧ samplePaymentRow ∈ adjustedStore.payments ∧
    (adjustedStore.linkedAdjustments "m-1" "pay-1").map (·.amount.amountMinor) = [-5_000] ∧
    (∃ unit, loadUnit adjustedStore ⟨"m-1"⟩ "pay-1" = some unit ∧
      unit.adjustments.map (·.amount.amountMinor) = [-5_000, -5_000] ∧
      unit.expectedNetInput.net = 1_000_000 - 25_000 - 4_500 - 0 - 10_000) ∧
    ¬ ∃ unit, loadUnit adjustedStore ⟨"m-1"⟩ "pay-1" = some unit ∧
      UnitComplete adjustedStore samplePaymentRow unit := by
  have hstore : WellFormed adjustedStore := insertMany_wellFormed sampleStore_wellFormed _ _ _
  obtain ⟨unit, hload, hamounts, hnet, hlen⟩ :
      ∃ unit, loadUnit adjustedStore ⟨"m-1"⟩ "pay-1" = some unit ∧
        unit.adjustments.map (·.amount.amountMinor) = [-5_000, -5_000] ∧
        unit.expectedNetInput.net = 1_000_000 - 25_000 - 4_500 - 0 - 10_000 ∧
        unit.adjustments.length ≠ (adjustedStore.linkedAdjustments "m-1" "pay-1").length :=
    ⟨_, rfl, by decide, by decide, by decide⟩
  refine ⟨hstore, by decide, by decide, ⟨unit, hload, hamounts, hnet⟩, ?_⟩
  rintro ⟨unit', hload', hcomplete⟩
  rw [hload, Option.some.injEq] at hload'
  subst hload'
  refine hlen ?_
  rw [hcomplete.adjustments.length_eq, List.length_map]
  rfl

end SettlementOps
