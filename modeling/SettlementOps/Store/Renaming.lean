import SettlementOps.Store.Rows
import SettlementOps.Store.UnitLoader

/-!
# A merchant's view of the store

What a store holds for a merchant, up to the ids that were generated for it: the merchant's
rows with their ids renamed, links included, and the ids of the imports left out.

* `RecordStore.only`, `RecordStore.renamed` — the merchant's rows, and rows under other ids.
* `ReconciliationUnit.renamed` — a unit under other ids.
* `loadUnit_only` — a unit is loaded from the rows of its merchant alone.
* `loadUnit_renamed` — renaming the rows renames the unit.
-/

namespace SettlementOps

open Relational

/-! ## Rows under other ids -/

section Renamed

variable (f : String → String)

def OrderRow.renamed (row : OrderRow) : OrderRow := { row with id := f row.id, importId := none }

def PaymentRow.renamed (row : PaymentRow) : PaymentRow :=
  { row with id := f row.id, importId := none, orderId := row.orderId.map f }

def SettlementRow.renamed (row : SettlementRow) : SettlementRow :=
  { row with id := f row.id, importId := none }

def SettlementLineRow.renamed (row : SettlementLineRow) : SettlementLineRow :=
  { row with
    id := f row.id
    importId := none
    settlementId := f row.settlementId
    paymentId := row.paymentId.map f }

def FeeLineRow.renamed (row : FeeLineRow) : FeeLineRow :=
  { row with
    id := f row.id
    importId := none
    paymentId := row.paymentId.map f
    settlementId := row.settlementId.map f }

def TaxLineRow.renamed (row : TaxLineRow) : TaxLineRow :=
  { row with id := f row.id, importId := none, feeLineId := row.feeLineId.map f }

def RefundRow.renamed (row : RefundRow) : RefundRow :=
  { row with id := f row.id, importId := none, paymentId := f row.paymentId }

def AdjustmentRow.renamed (row : AdjustmentRow) : AdjustmentRow :=
  { row with id := f row.id, importId := none, settlementId := row.settlementId.map f }

def BankCreditRow.renamed (row : BankCreditRow) : BankCreditRow :=
  { row with id := f row.id, importId := none }

def LedgerEntryRow.renamed (row : LedgerEntryRow) : LedgerEntryRow :=
  { row with id := f row.id, importId := none }

def StoredRow.renamed : StoredRow → StoredRow
  | order row => order (row.renamed f)
  | payment row => payment (row.renamed f)
  | feeLine row => feeLine (row.renamed f)
  | taxLine row => taxLine (row.renamed f)
  | refund row => refund (row.renamed f)
  | adjustment row => adjustment (row.renamed f)
  | settlement row => settlement (row.renamed f)
  | settlementLine row => settlementLine (row.renamed f)
  | bankCredit row => bankCredit (row.renamed f)
  | ledgerEntry row => ledgerEntry (row.renamed f)

/-- Every row under another id. -/
def RecordStore.renamed (store : RecordStore) : RecordStore where
  orders := store.orders.map (·.renamed f)
  payments := store.payments.map (·.renamed f)
  settlements := store.settlements.map (·.renamed f)
  settlementLines := store.settlementLines.map (·.renamed f)
  feeLines := store.feeLines.map (·.renamed f)
  taxLines := store.taxLines.map (·.renamed f)
  refunds := store.refunds.map (·.renamed f)
  adjustments := store.adjustments.map (·.renamed f)
  bankCredits := store.bankCredits.map (·.renamed f)
  ledgerEntries := store.ledgerEntries.map (·.renamed f)

theorem rowsOf_renamed (store : RecordStore) (k : RecordKind) :
    (store.renamed f).rowsOf k = (store.rowsOf k).map (·.renamed f) := by
  cases k <;> simp only [RecordStore.rowsOf, RecordStore.renamed, List.map_map] <;> rfl

@[simp] theorem renamed_kind (row : StoredRow) : (row.renamed f).kind = row.kind := by
  cases row <;> rfl

@[simp] theorem renamed_key (row : StoredRow) : (row.renamed f).key = row.key := by
  cases row <;> rfl

@[simp] theorem renamed_id (row : StoredRow) : (row.renamed f).base.id = f row.base.id := by
  cases row <;> rfl

@[simp] theorem renamed_merchantId (row : StoredRow) :
    (row.renamed f).base.merchantId = row.base.merchantId := by
  cases row <;> rfl

@[simp] theorem renamed_sourceRecordId (row : StoredRow) :
    (row.renamed f).base.sourceRecordId = row.base.sourceRecordId := by
  cases row <;> rfl

@[simp] theorem renamed_linkTo (row : StoredRow) (k : RecordKind) :
    (row.renamed f).linkTo k = (row.linkTo k).map f := by
  cases row <;> cases k <;> rfl

end Renamed

/-! ## The merchant's rows -/

/-- The rows of one merchant. -/
def RecordStore.only (store : RecordStore) (m : MerchantId) : RecordStore where
  orders := store.orders.filter (·.merchantId = m)
  payments := store.payments.filter (·.merchantId = m)
  settlements := store.settlements.filter (·.merchantId = m)
  settlementLines := store.settlementLines.filter (·.merchantId = m)
  feeLines := store.feeLines.filter (·.merchantId = m)
  taxLines := store.taxLines.filter (·.merchantId = m)
  refunds := store.refunds.filter (·.merchantId = m)
  adjustments := store.adjustments.filter (·.merchantId = m)
  bankCredits := store.bankCredits.filter (·.merchantId = m)
  ledgerEntries := store.ledgerEntries.filter (·.merchantId = m)

theorem rowsOf_only (store : RecordStore) (m : MerchantId) (k : RecordKind) :
    (store.only m).rowsOf k = (store.rowsOf k).filter fun row => row.base.merchantId = m := by
  cases k <;> simp only [RecordStore.rowsOf, RecordStore.only, List.filter_map] <;> rfl

/-- What the store holds for a merchant, under other ids. -/
def RecordStore.view (store : RecordStore) (m : MerchantId) (f : String → String) :
    RecordStore :=
  (store.only m).renamed f

theorem rowsOf_view (store : RecordStore) (m : MerchantId) (f : String → String)
    (k : RecordKind) :
    (store.view m f).rowsOf k =
      ((store.rowsOf k).filter fun row => row.base.merchantId = m).map (·.renamed f) := by
  rw [RecordStore.view, rowsOf_renamed, rowsOf_only]

/-- A row refers to rows of its own merchant. -/
def OwnReferences (store : RecordStore) : Prop :=
  ∀ k, ∀ row ∈ store.rowsOf k, ∀ k', ∀ id ∈ row.linkTo k',
    ∃ parent ∈ store.rowsOf k', parent.base.id = id ∧
      parent.base.merchantId = row.base.merchantId

/-! ## Units under other ids -/

section Units

variable (f : String → String)

def PaymentRecord.renamed (r : PaymentRecord) : PaymentRecord :=
  { r with id := f r.id, paymentId := f r.paymentId, orderId := r.orderId.map f }

def FeeLineRecord.renamed (r : FeeLineRecord) : FeeLineRecord :=
  { r with
    id := f r.id
    paymentId := r.paymentId.map f
    settlementId := r.settlementId.map f }

def TaxLineRecord.renamed (r : TaxLineRecord) : TaxLineRecord :=
  { r with id := f r.id, feeLineId := r.feeLineId.map f }

def RefundRecord.renamed (r : RefundRecord) : RefundRecord :=
  { r with id := f r.id, refundId := f r.refundId, paymentId := f r.paymentId }

def AdjustmentRecord.renamed (r : AdjustmentRecord) : AdjustmentRecord :=
  { r with id := f r.id, settlementId := r.settlementId.map f }

def SettlementRecord.renamed (r : SettlementRecord) : SettlementRecord :=
  { r with id := f r.id, settlementId := f r.settlementId }

def SettlementLineRecord.renamed (r : SettlementLineRecord) : SettlementLineRecord :=
  { r with
    id := f r.id
    settlementId := f r.settlementId
    paymentId := r.paymentId.map f
    refundId := r.refundId.map f }

def BankCreditRecord.renamed (r : BankCreditRecord) : BankCreditRecord :=
  { r with id := f r.id }

end Units

/-- The unit with every generated id renamed. -/
def ReconciliationUnit.renamed (f : String → String) (unit : ReconciliationUnit) :
    ReconciliationUnit where
  payment := unit.payment.renamed f
  fees := unit.fees.map (·.renamed f)
  taxes := unit.taxes.map (·.renamed f)
  refunds := unit.refunds.map (·.renamed f)
  adjustments := unit.adjustments.map (·.renamed f)
  settlements := unit.settlements.map (·.renamed f)
  settlementLines := unit.settlementLines.map (·.renamed f)
  bankCredits := unit.bankCredits.map (·.renamed f)
  duplicates := unit.duplicates.map fun group => { group with ids := group.ids.map f }

theorem ReconciliationUnit.renamed_id (unit : ReconciliationUnit) : unit.renamed id = unit := by
  have hmap {ρ : Type} {g : ρ → ρ} (hg : ∀ r, g r = r) (rs : List ρ) : rs.map g = rs := by
    rw [funext hg, List.map_id']
  have hid (o : Option String) : o.map id = o := Option.map_id_fun ▸ rfl
  obtain ⟨payment, fees, taxes, refunds, adjustments, settlements, lines, credits, groups⟩ := unit
  simp only [ReconciliationUnit.renamed, PaymentRecord.renamed, ReconciliationUnit.mk.injEq]
  refine ⟨by rw [hid]; rfl, hmap (fun r => ?_) _, hmap (fun r => ?_) _, hmap (fun _ => rfl) _,
    hmap (fun r => ?_) _, hmap (fun _ => rfl) _, hmap (fun r => ?_) _, hmap (fun _ => rfl) _,
    hmap (fun g => ?_) _⟩
  · rw [FeeLineRecord.renamed, hid, hid]
    rfl
  · rw [TaxLineRecord.renamed, hid]
    rfl
  · rw [AdjustmentRecord.renamed, hid]
    rfl
  · rw [SettlementLineRecord.renamed, hid, hid]
    rfl
  · rw [List.map_id]

/-! ## Loading under other ids -/

section LoadRenamed

variable {f : String → String} (hf : Function.Injective f) (store : RecordStore) (m : MerchantId)
  (paymentId : String)

include hf

theorem map_eq_some_iff {o : Option String} {s : String} : o.map f = some (f s) ↔ o = some s := by
  cases o with
  | none => simp
  | some x => simp [hf.eq_iff]

theorem feesQuery_renamed :
    feesQuery (store.renamed f) m (f paymentId) =
      (feesQuery store m paymentId).map (·.renamed f) := by
  simp only [feesQuery, RecordStore.renamed, List.filter_map, Function.comp_def,
    FeeLineRow.renamed, map_eq_some_iff hf]

theorem taxesQuery_renamed :
    taxesQuery (store.renamed f) m (f paymentId) =
      (taxesQuery store m paymentId).map (·.renamed f) := by
  have hon (t : TaxLineRow) (x : FeeLineRow) :
      decide ((t.renamed f).feeLineId = some (x.renamed f).id) =
        decide (t.feeLineId = some x.id) := by
    simp only [TaxLineRow.renamed, FeeLineRow.renamed, map_eq_some_iff hf]
  unfold taxesQuery RecordStore.renamed
  dsimp only
  rw [join_map (fun t f => decide (t.feeLineId = some f.id)) hon, List.filter_map,
    List.map_map, List.map_map]
  simp only [Function.comp_def, Prod.map, FeeLineRow.renamed, map_eq_some_iff hf]
  rfl

theorem refundsQuery_renamed :
    refundsQuery (store.renamed f) m (f paymentId) =
      (refundsQuery store m paymentId).map (·.renamed f) := by
  simp only [refundsQuery, RecordStore.renamed, List.filter_map, Function.comp_def,
    RefundRow.renamed, hf.eq_iff]

theorem adjustmentsQuery_renamed :
    adjustmentsQuery (store.renamed f) m (f paymentId) =
      (adjustmentsQuery store m paymentId).map (·.renamed f) := by
  have hon (a : AdjustmentRow) (l : SettlementLineRow) :
      decide ((a.renamed f).settlementId = some (l.renamed f).settlementId) =
        decide (a.settlementId = some l.settlementId) := by
    simp only [AdjustmentRow.renamed, SettlementLineRow.renamed, map_eq_some_iff hf]
  unfold adjustmentsQuery RecordStore.renamed
  dsimp only
  rw [join_map (fun a l => decide (a.settlementId = some l.settlementId)) hon,
    List.filter_map, List.map_map, List.map_map]
  simp only [Function.comp_def, Prod.map, SettlementLineRow.renamed, map_eq_some_iff hf]
  rfl

theorem linesQuery_renamed :
    linesQuery (store.renamed f) m (f paymentId) =
      (linesQuery store m paymentId).map (·.renamed f) := by
  simp only [linesQuery, RecordStore.renamed, List.filter_map, Function.comp_def,
    SettlementLineRow.renamed, map_eq_some_iff hf]

theorem settlementsQuery_renamed :
    settlementsQuery (store.renamed f) m (f paymentId) =
      (settlementsQuery store m paymentId).map (·.renamed f) := by
  have hon (s : SettlementRow) (l : SettlementLineRow) :
      decide ((l.renamed f).settlementId = (s.renamed f).id) = decide (l.settlementId = s.id) := by
    simp only [SettlementRow.renamed, SettlementLineRow.renamed, hf.eq_iff]
  unfold settlementsQuery RecordStore.renamed
  dsimp only
  rw [join_map (fun s l => decide (l.settlementId = s.id)) hon, List.filter_map,
    List.map_map, List.map_map]
  simp only [Function.comp_def, Prod.map, SettlementLineRow.renamed, map_eq_some_iff hf]
  rfl

theorem creditsQuery_renamed :
    creditsQuery (store.renamed f) m (f paymentId) =
      (creditsQuery store m paymentId).map (·.renamed f) := by
  have hon (b : BankCreditRow) (s : SettlementRow) :
      decide ((s.renamed f).utr = some (b.renamed f).utr ∧
          (s.renamed f).merchantId = (b.renamed f).merchantId) =
        decide (s.utr = some b.utr ∧ s.merchantId = b.merchantId) := rfl
  have hline (bs : BankCreditRow × SettlementRow) (l : SettlementLineRow) :
      decide ((l.renamed f).settlementId =
          (Prod.map (BankCreditRow.renamed f) (SettlementRow.renamed f) bs).2.id) =
        decide (l.settlementId = bs.2.id) := by
    simp only [Prod.map, SettlementRow.renamed, SettlementLineRow.renamed, hf.eq_iff]
  unfold creditsQuery RecordStore.renamed
  dsimp only
  rw [join_map (fun b s => decide (s.utr = some b.utr ∧ s.merchantId = b.merchantId)) hon,
    join_map (fun bs l => decide (l.settlementId = bs.2.id)) hline, List.filter_map,
    List.map_map, List.map_map]
  simp only [Function.comp_def, Prod.map, SettlementLineRow.renamed, map_eq_some_iff hf]
  rfl

theorem settlementRecord_renamed_injective : Function.Injective (SettlementRecord.renamed f) := by
  rintro ⟨⟨_, _, _⟩, _, _, _, _, _, _, _⟩ ⟨⟨_, _, _⟩, _, _, _, _, _, _, _⟩ h
  simp only [SettlementRecord.renamed, SettlementRecord.mk.injEq, RecordBase.mk.injEq,
    hf.eq_iff] at h ⊢
  exact h

theorem bankCreditRecord_renamed_injective : Function.Injective (BankCreditRecord.renamed f) := by
  rintro ⟨⟨_, _, _⟩, _, _, _, _⟩ ⟨⟨_, _, _⟩, _, _, _, _⟩ h
  simp only [BankCreditRecord.renamed, BankCreditRecord.mk.injEq, RecordBase.mk.injEq,
    hf.eq_iff] at h ⊢
  exact h

/-- **Renaming the rows renames the unit.** -/
theorem loadUnit_renamed :
    loadUnit (store.renamed f) ⟨m⟩ (f paymentId) =
      (loadUnit store ⟨m⟩ paymentId).map (·.renamed f) := by
  have hfind : (store.renamed f).payments.find? (fun p => p.id = f paymentId ∧ p.merchantId = m) =
      (store.payments.find? fun p => p.id = paymentId ∧ p.merchantId = m).map (·.renamed f) := by
    simp only [RecordStore.renamed, List.find?_map, Function.comp_def, PaymentRow.renamed,
      hf.eq_iff]
  unfold loadUnit
  dsimp only
  rw [hfind]
  cases store.payments.find? fun p => p.id = paymentId ∧ p.merchantId = m with
  | none => rfl
  | some p =>
      have hid : (p.renamed f).id = f p.id := rfl
      simp only [Option.map_some, hid, feesQuery_renamed hf, taxesQuery_renamed hf,
        refundsQuery_renamed hf, adjustmentsQuery_renamed hf, linesQuery_renamed hf,
        settlementsQuery_renamed hf, creditsQuery_renamed hf, ReconciliationUnit.renamed,
        ← List.dedup_map_of_injective (settlementRecord_renamed_injective hf),
        ← List.dedup_map_of_injective (bankCreditRecord_renamed_injective hf), List.map_map]
      rfl

end LoadRenamed

/-! ## Loading from the merchant's rows alone -/

section LoadOnly

variable {store : RecordStore} (hwf : WellFormed store) (hown : OwnReferences store)
  {p : PaymentRow} (hp : p ∈ store.payments)

include hwf hown hp

theorem line_merchant {l : SettlementLineRow} (hl : l ∈ store.settlementLines)
    (hlink : l.paymentId = some p.id) : l.merchantId = p.merchantId := by
  obtain ⟨parent, hparent, hid, hm⟩ := hown .settlementLine (.settlementLine l)
    (List.mem_map_of_mem hl) .payment p.id hlink
  obtain ⟨x, hx, rfl⟩ := List.mem_map.1 hparent
  rw [hwf.payments.pk.eq hx hp hid] at hm
  exact hm.symm

theorem fee_merchant {x : FeeLineRow} (hx : x ∈ store.feeLines)
    (hlink : x.paymentId = some p.id) : x.merchantId = p.merchantId := by
  obtain ⟨parent, hparent, hid, hm⟩ := hown .feeLine (.feeLine x)
    (List.mem_map_of_mem hx) .payment p.id hlink
  obtain ⟨y, hy, rfl⟩ := List.mem_map.1 hparent
  rw [hwf.payments.pk.eq hy hp hid] at hm
  exact hm.symm

theorem taxesQuery_only : taxesQuery (store.only p.merchantId) p.merchantId p.id =
    taxesQuery store p.merchantId p.id := by
  unfold taxesQuery RecordStore.only
  dsimp only
  rw [filter_join_filter]
  intro t _ x hx _ hcond
  simp only [decide_eq_true_eq] at *
  exact ⟨hcond.1, fee_merchant hwf hown hp hx hcond.2⟩

theorem adjustmentsQuery_only : adjustmentsQuery (store.only p.merchantId) p.merchantId p.id =
    adjustmentsQuery store p.merchantId p.id := by
  unfold adjustmentsQuery RecordStore.only
  dsimp only
  rw [filter_join_filter]
  intro a _ l hl _ hcond
  simp only [decide_eq_true_eq] at *
  exact ⟨hcond.1, line_merchant hwf hown hp hl hcond.2⟩

theorem settlementsQuery_only : settlementsQuery (store.only p.merchantId) p.merchantId p.id =
    settlementsQuery store p.merchantId p.id := by
  unfold settlementsQuery RecordStore.only
  dsimp only
  rw [filter_join_filter]
  intro s _ l hl _ hcond
  simp only [decide_eq_true_eq] at *
  exact ⟨hcond.1, line_merchant hwf hown hp hl hcond.2⟩

theorem creditsQuery_only : creditsQuery (store.only p.merchantId) p.merchantId p.id =
    creditsQuery store p.merchantId p.id := by
  unfold creditsQuery RecordStore.only
  dsimp only
  rw [join_filter, filter_join_filter]
  intro bs hbs l hl _ hcond
  obtain ⟨-, -, hon⟩ := mem_join.1 hbs
  simp only [decide_eq_true_eq, Bool.and_eq_true] at *
  exact ⟨⟨hcond.1, hon.2.trans hcond.1⟩, line_merchant hwf hown hp hl hcond.2⟩

/-- **A unit is loaded from the rows of its merchant alone.** -/
theorem loadUnit_only :
    loadUnit (store.only p.merchantId) ⟨p.merchantId⟩ p.id =
      loadUnit store ⟨p.merchantId⟩ p.id := by
  have hfind : (store.only p.merchantId).payments.find?
        (fun r => r.id = p.id ∧ r.merchantId = p.merchantId) =
      store.payments.find? fun r => r.id = p.id ∧ r.merchantId = p.merchantId := by
    rw [← List.head?_filter, ← List.head?_filter]
    refine congrArg List.head? (filter_filter_of_imp fun r hr => ?_)
    simp only [decide_eq_true_eq] at hr ⊢
    exact hr.2
  have hfees : feesQuery (store.only p.merchantId) p.merchantId p.id =
      feesQuery store p.merchantId p.id := by
    refine filter_filter_of_imp fun r hr => ?_
    simp only [decide_eq_true_eq] at hr ⊢
    exact hr.1
  have hrefunds : refundsQuery (store.only p.merchantId) p.merchantId p.id =
      refundsQuery store p.merchantId p.id := by
    refine filter_filter_of_imp fun r hr => ?_
    simp only [decide_eq_true_eq] at hr ⊢
    exact hr.1
  have hlines : linesQuery (store.only p.merchantId) p.merchantId p.id =
      linesQuery store p.merchantId p.id := by
    refine filter_filter_of_imp fun r hr => ?_
    simp only [decide_eq_true_eq] at hr ⊢
    exact hr.1
  unfold loadUnit
  dsimp only
  rw [hfind]
  cases hpay : store.payments.find? fun r => r.id = p.id ∧ r.merchantId = p.merchantId with
  | none => rfl
  | some r =>
      have hid : r.id = p.id := by
        have hr := List.find?_some hpay
        simp only [decide_eq_true_eq] at hr
        exact hr.1
      dsimp only
      rw [hid, hfees, taxesQuery_only hwf hown hp, hrefunds, adjustmentsQuery_only hwf hown hp,
        settlementsQuery_only hwf hown hp, hlines, creditsQuery_only hwf hown hp]

end LoadOnly

/-! ## Loading up to the order of rows -/

/-- Two units hold the same records, in any order. -/
structure SameUnit (unit unit' : ReconciliationUnit) : Prop where
  payment : unit.payment = unit'.payment
  fees : unit.fees.Perm unit'.fees
  taxes : unit.taxes.Perm unit'.taxes
  refunds : unit.refunds.Perm unit'.refunds
  adjustments : unit.adjustments.Perm unit'.adjustments
  settlements : unit.settlements.Perm unit'.settlements
  settlementLines : unit.settlementLines.Perm unit'.settlementLines
  bankCredits : unit.bankCredits.Perm unit'.bankCredits
  duplicates : unit.duplicates.Perm unit'.duplicates

/-- Two stores hold the same rows, in any order. -/
def SameRows (store store' : RecordStore) : Prop :=
  ∀ k, (store.rowsOf k).Perm (store'.rowsOf k)

/-- **The order of the rows does not matter to a unit.** -/
theorem loadUnit_sameRows {store store' : RecordStore} (hrows : SameRows store store')
    (hpayments : Unique (fun p : PaymentRow => p.id) store.payments) (m : MerchantId)
    (paymentId : String) :
    Option.Rel SameUnit (loadUnit store ⟨m⟩ paymentId) (loadUnit store' ⟨m⟩ paymentId) := by
  have perm {ρ : Type} {wrap : ρ → StoredRow} (hwrap : Function.Injective wrap) {xs ys : List ρ}
      (h : (xs.map wrap).Perm (ys.map wrap)) : xs.Perm ys := (List.map_perm_map_iff hwrap).1 h
  have hpay := perm (fun _ _ => StoredRow.payment.inj) (hrows .payment)
  have hfee := perm (fun _ _ => StoredRow.feeLine.inj) (hrows .feeLine)
  have htax := perm (fun _ _ => StoredRow.taxLine.inj) (hrows .taxLine)
  have hrefund := perm (fun _ _ => StoredRow.refund.inj) (hrows .refund)
  have hadjustment := perm (fun _ _ => StoredRow.adjustment.inj) (hrows .adjustment)
  have hsettlement := perm (fun _ _ => StoredRow.settlement.inj) (hrows .settlement)
  have hline := perm (fun _ _ => StoredRow.settlementLine.inj) (hrows .settlementLine)
  have hcredit := perm (fun _ _ => StoredRow.bankCredit.inj) (hrows .bankCredit)
  have hfind : store'.payments.find? (fun p => p.id = paymentId ∧ p.merchantId = m) =
      store.payments.find? fun p => p.id = paymentId ∧ p.merchantId = m := by
    have hunique : ∀ a ∈ store.payments, ∀ b ∈ store.payments,
        decide (a.id = paymentId ∧ a.merchantId = m) = true →
          decide (b.id = paymentId ∧ b.merchantId = m) = true → a = b := by
      intro a ha b hb hpa hpb
      simp only [decide_eq_true_eq] at hpa hpb
      exact hpayments.eq ha hb (hpa.1.trans hpb.1.symm)
    refine Option.ext fun p => ?_
    rw [find?_eq_some_iff_of_unique hunique, find?_eq_some_iff_of_unique, hpay.mem_iff]
    intro a ha b hb
    exact hunique a (hpay.mem_iff.2 ha) b (hpay.mem_iff.2 hb)
  unfold loadUnit
  dsimp only
  rw [hfind]
  cases store.payments.find? fun p => p.id = paymentId ∧ p.merchantId = m with
  | none => exact .none
  | some p =>
      refine .some {
        payment := rfl
        fees := (hfee.filter _).map _
        taxes := (((join_perm _ htax hfee).filter _).map _).map _
        refunds := (hrefund.filter _).map _
        adjustments := (((join_perm _ hadjustment hline).filter _).map _).map _
        settlements := ((((join_perm _ hsettlement hline).filter _).map _).map _).dedup
        settlementLines := (hline.filter _).map _
        bankCredits := ((((join_perm _ (join_perm _ hcredit hsettlement) hline).filter _).map
          _).map _).dedup
        duplicates := .refl _ }

end SettlementOps
