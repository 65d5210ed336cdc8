import SettlementOps.Store.Batches
import SettlementOps.Store.UnitLoader

/-!
# One delivery about one payment

A batch whose records all bear on one payment, imported into a store that holds nothing, and
the unit of that payment.  The unit knows the records by the ids of their rows; what it says
of amounts and times is what was delivered.

* `AboutPayment` — every reference of the batch leads to its payment.
* `DeliveredUnit` — the amounts and times of a unit are those delivered.
* `loadUnit_delivery` — the loaded unit is a delivered one.
-/

namespace SettlementOps

open Relational

/-! ## The records of one kind -/

namespace FinancialRecord

def asPayment : FinancialRecord → Option PaymentRecord
  | payment r => some r
  | _ => none

def asFeeLine : FinancialRecord → Option FeeLineRecord
  | feeLine r => some r
  | _ => none

def asTaxLine : FinancialRecord → Option TaxLineRecord
  | taxLine r => some r
  | _ => none

def asRefund : FinancialRecord → Option RefundRecord
  | refund r => some r
  | _ => none

def asAdjustment : FinancialRecord → Option AdjustmentRecord
  | adjustment r => some r
  | _ => none

def asSettlement : FinancialRecord → Option SettlementRecord
  | settlement r => some r
  | _ => none

def asSettlementLine : FinancialRecord → Option SettlementLineRecord
  | settlementLine r => some r
  | _ => none

def asBankCredit : FinancialRecord → Option BankCreditRecord
  | bankCredit r => some r
  | _ => none

end FinancialRecord

namespace StoredRow

def asPayment : StoredRow → Option PaymentRow
  | payment row => some row
  | _ => none

def asFeeLine : StoredRow → Option FeeLineRow
  | feeLine row => some row
  | _ => none

def asTaxLine : StoredRow → Option TaxLineRow
  | taxLine row => some row
  | _ => none

def asRefund : StoredRow → Option RefundRow
  | refund row => some row
  | _ => none

def asAdjustment : StoredRow → Option AdjustmentRow
  | adjustment row => some row
  | _ => none

def asSettlement : StoredRow → Option SettlementRow
  | settlement row => some row
  | _ => none

def asSettlementLine : StoredRow → Option SettlementLineRow
  | settlementLine row => some row
  | _ => none

def asBankCredit : StoredRow → Option BankCreditRow
  | bankCredit row => some row
  | _ => none

end StoredRow

/-- The records of a batch that bear on a reconciliation, by kind. -/
structure Delivery where
  payments : List PaymentRecord
  fees : List FeeLineRecord
  taxes : List TaxLineRecord
  refunds : List RefundRecord
  adjustments : List AdjustmentRecord
  settlements : List SettlementRecord
  lines : List SettlementLineRecord
  credits : List BankCreditRecord

def deliveryOf (records : List FinancialRecord) : Delivery where
  payments := records.filterMap (·.asPayment)
  fees := records.filterMap (·.asFeeLine)
  taxes := records.filterMap (·.asTaxLine)
  refunds := records.filterMap (·.asRefund)
  adjustments := records.filterMap (·.asAdjustment)
  settlements := records.filterMap (·.asSettlement)
  lines := records.filterMap (·.asSettlementLine)
  credits := records.filterMap (·.asBankCredit)

/-- The source record id other records refer to a record by. -/
def RecordBase.source (r : RecordBase) : String := r.lineage.sourceRecordId

/-- Every reference of the delivery leads to its payment: each settlement has one line of the
payment, and an adjustment belongs to one of the settlements or to none at all. -/
structure AboutPayment (d : Delivery) (p : PaymentRecord) : Prop where
  payment : d.payments = [p]
  fees : ∀ f ∈ d.fees, f.paymentId = some p.source
  taxes : ∀ t ∈ d.taxes, ∃ f ∈ d.fees, t.feeLineId = some f.source
  refunds : ∀ r ∈ d.refunds, r.paymentId = p.source
  lines : ∀ l ∈ d.lines,
    l.paymentId = some p.source ∧ ∃ s ∈ d.settlements, l.settlementId = s.source
  oneLine : (d.lines.map (·.settlementId)).Nodup
  settlements : ∀ s ∈ d.settlements, ∃ l ∈ d.lines, l.settlementId = s.source
  adjustments : ∀ a ∈ d.adjustments, ∀ id ∈ a.settlementId, ∃ s ∈ d.settlements, id = s.source
  credits : ∀ b ∈ d.credits, ∃ s ∈ d.settlements, s.utr = some b.utr

/-- The amounts and times of the unit are those delivered.  The net of a settlement is stored
under the currency of its gross, and an adjustment of no settlement is not loaded. -/
structure DeliveredUnit (d : Delivery) (p : PaymentRecord) (unit : ReconciliationUnit) : Prop where
  amount : unit.payment.amount = p.amount
  method : unit.payment.paymentMethod = p.paymentMethod
  status : unit.payment.status = p.status
  authorizedAt : unit.payment.authorizedAt = p.authorizedAt
  capturedAt : unit.payment.capturedAt = p.capturedAt
  fees : unit.fees.map (·.amount) = d.fees.map (·.amount)
  taxes : unit.taxes.map (·.amount) = d.taxes.map (·.amount)
  refunds : unit.refunds.map (fun r => (r.amount, r.createdAt, r.settledAt)) =
    d.refunds.map fun r => (r.amount, r.createdAt, r.settledAt)
  adjustments : unit.adjustments.map (fun a => (a.amount, a.effectiveAt)) =
    (d.adjustments.filter (·.settlementId.isSome)).map fun a => (a.amount, a.effectiveAt)
  settlements : (unit.settlements.map fun s => (s.netAmount, s.settlementAt, s.utr)).Perm
    (d.settlements.map fun s =>
      (⟨s.netAmount.amountMinor, s.grossAmount.currency⟩, s.settlementAt, s.utr))
  settlementIds : (unit.settlements.map (·.settlementId)).Nodup
  lines : unit.lines.map (·.amount) = d.lines.map (·.amount)
  allLines : unit.lines = unit.settlementLines
  lineSettlements : (unit.lines.map (·.settlementId)).Nodup
  credits : (unit.bankCredits.map fun b => (b.utr, b.amount, b.creditedAt)).Perm
    (d.credits.map fun b => (b.utr, b.amount, b.creditedAt))
  duplicates : unit.duplicates = []

/-! ## The tables after the delivery -/

section Tables

variable {m : MerchantId} {importId : String} {records : List FinancialRecord}
  {store : RecordStore}

/-- A record that other records refer to is found by its source record id. -/
theorem setLinks_eq (hdistinct : (records.map (·.asParent)).Nodup) {r : FinancialRecord}
    (hr : r ∈ records) : setLinks records r.kind r.base.source = some r.base.id := by
  have hfind : records.find? (fun x =>
      decide (x.kind = r.kind ∧ x.base.lineage.sourceRecordId = r.base.source)) = some r := by
    refine (find?_eq_some_iff_of_unique fun x hx y hy hpx hpy => ?_).2 ⟨hr, ?_⟩
    · simp only [decide_eq_true_eq] at hpx hpy
      refine List.inj_on_of_nodup_map hdistinct hx hy (Prod.ext ?_ ?_)
      · exact hpx.1.trans hpy.1.symm
      · exact hpx.2.trans hpy.2.symm
    · simp [RecordBase.source]
  unfold setLinks
  rw [hfind]
  rfl

/-- What a delivery leaves in a store that held nothing. -/
structure Stored (m : MerchantId) (importId : String) (records : List FinancialRecord)
    (store : RecordStore) : Prop where
  wellFormed : WellFormed store
  rows : ∀ k, store.rowsOf k = (records.filter fun r => r.kind = k).filterMap fun r =>
    r.row m importId (setLinks records)

theorem insertMany_stored (hids : (records.map (·.base.id)).Nodup)
    (hdistinct : (records.map (·.asParent)).Nodup) (m : MerchantId) (importId : String) :
    Stored m importId records (insertMany ⟨m⟩ importId records {}).2 := by
  have hempty : ∀ k, ({} : RecordStore).rowsOf k = [] := RecordStore.rowsOf_empty
  have hfresh : FreshIds {} records := ⟨hids, fun r _ row hrow => by
    rw [hempty] at hrow
    cases hrow⟩
  have hnew : NewKeys m {} records := fun r _ row hrow => by
    rw [hempty] at hrow
    cases hrow
  obtain ⟨counts, after, hins⟩ := insertMany_commits hfresh ⟨m⟩ importId
  have hrows := insertMany_rows_of_new (sourceKey_distinct hdistinct) hnew hins
  have hnothing : ResolvesAs m {} [] := fun k _ n => by
    unfold RecordStore.links
    rw [hempty]
    rfl
  have hresolves := hnothing.insertMany hrows
  refine ⟨insertMany_wellFormed wellFormed_empty _ _ _, fun k => ?_⟩
  rw [hins]
  dsimp only
  rw [hrows k, hempty, List.nil_append]
  exact List.filterMap_congr fun r _ => row_eq_of_resolvesAs hresolves r

/-- The rows and the records of one kind, as constructors and as projections. -/
structure Selects {ρ R : Type} (k : RecordKind) (wrap : ρ → StoredRow)
    (proj : StoredRow → Option ρ) (mk : R → FinancialRecord) (as : FinancialRecord → Option R) :
    Prop where
  proj_wrap : ∀ x, proj (wrap x) = some x
  as_mk : ∀ {r x}, as r = some x ↔ r = mk x
  mk_kind : ∀ x, (mk x).kind = k
  of_kind : ∀ {r}, r.kind = k → ∃ x, r = mk x

theorem selects_payment :
    Selects .payment .payment StoredRow.asPayment .payment FinancialRecord.asPayment where
  proj_wrap _ := rfl
  as_mk {r x} := by cases r <;> simp [FinancialRecord.asPayment]
  mk_kind _ := rfl
  of_kind {r} h := by cases r <;> first | exact ⟨_, rfl⟩ | cases h

theorem selects_feeLine :
    Selects .feeLine .feeLine StoredRow.asFeeLine .feeLine FinancialRecord.asFeeLine where
  proj_wrap _ := rfl
  as_mk {r x} := by cases r <;> simp [FinancialRecord.asFeeLine]
  mk_kind _ := rfl
  of_kind {r} h := by cases r <;> first | exact ⟨_, rfl⟩ | cases h

theorem selects_taxLine :
    Selects .taxLine .taxLine StoredRow.asTaxLine .taxLine FinancialRecord.asTaxLine where
  proj_wrap _ := rfl
  as_mk {r x} := by cases r <;> simp [FinancialRecord.asTaxLine]
  mk_kind _ := rfl
  of_kind {r} h := by cases r <;> first | exact ⟨_, rfl⟩ | cases h

theorem selects_refund :
    Selects .refund .refund StoredRow.asRefund .refund FinancialRecord.asRefund where
  proj_wrap _ := rfl
  as_mk {r x} := by cases r <;> simp [FinancialRecord.asRefund]
  mk_kind _ := rfl
  of_kind {r} h := by cases r <;> first | exact ⟨_, rfl⟩ | cases h

theorem selects_adjustment :
    Selects .adjustment .adjustment StoredRow.asAdjustment .adjustment
      FinancialRecord.asAdjustment where
  proj_wrap _ := rfl
  as_mk {r x} := by cases r <;> simp [FinancialRecord.asAdjustment]
  mk_kind _ := rfl
  of_kind {r} h := by cases r <;> first | exact ⟨_, rfl⟩ | cases h

theorem selects_settlement :
    Selects .settlement .settlement StoredRow.asSettlement .settlement
      FinancialRecord.asSettlement where
  proj_wrap _ := rfl
  as_mk {r x} := by cases r <;> simp [FinancialRecord.asSettlement]
  mk_kind _ := rfl
  of_kind {r} h := by cases r <;> first | exact ⟨_, rfl⟩ | cases h

theorem selects_settlementLine :
    Selects .settlementLine .settlementLine StoredRow.asSettlementLine .settlementLine
      FinancialRecord.asSettlementLine where
  proj_wrap _ := rfl
  as_mk {r x} := by cases r <;> simp [FinancialRecord.asSettlementLine]
  mk_kind _ := rfl
  of_kind {r} h := by cases r <;> first | exact ⟨_, rfl⟩ | cases h

theorem selects_bankCredit :
    Selects .bankCredit .bankCredit StoredRow.asBankCredit .bankCredit
      FinancialRecord.asBankCredit where
  proj_wrap _ := rfl
  as_mk {r x} := by cases r <;> simp [FinancialRecord.asBankCredit]
  mk_kind _ := rfl
  of_kind {r} h := by cases r <;> first | exact ⟨_, rfl⟩ | cases h

section Selects

variable {ρ R : Type} {k : RecordKind} {rows : List ρ} {wrap : ρ → StoredRow}
  {proj : StoredRow → Option ρ} {mk : R → FinancialRecord} {as : FinancialRecord → Option R}

theorem Selects.mem_iff (h : Selects k wrap proj mk as) {x : R} :
    x ∈ records.filterMap as ↔ mk x ∈ records := by
  rw [List.mem_filterMap]
  constructor
  · rintro ⟨r, hr, hx⟩
    rwa [h.as_mk.1 hx] at hr
  · exact fun hx => ⟨_, hx, h.as_mk.2 rfl⟩

/-- A table as the rows of the records of its kind. -/
theorem Stored.table (h : Stored m importId records store) (hsel : Selects k wrap proj mk as)
    (hwrap : store.rowsOf k = rows.map wrap) :
    rows = records.filterMap fun r => (as r).bind fun x =>
      ((mk x).row m importId (setLinks records)).bind proj := by
  calc rows = (rows.map wrap).filterMap proj := by
        rw [List.filterMap_map]
        simp only [Function.comp_def, hsel.proj_wrap, List.filterMap_some]
    _ = _ := by
        rw [← hwrap, h.rows, List.filterMap_filterMap, List.filterMap_filter]
        refine List.filterMap_congr fun r _ => ?_
        cases hx : as r with
        | some x =>
            obtain rfl := hsel.as_mk.1 hx
            simp [hsel.mk_kind]
        | none =>
            have hk : r.kind ≠ k := fun hk => by
              obtain ⟨x, rfl⟩ := hsel.of_kind hk
              rw [hsel.as_mk.2 rfl] at hx
              cases hx
            simp [hk]

theorem Stored.mem_row (h : Stored m importId records store) (hsel : Selects k wrap proj mk as)
    (hwrap : store.rowsOf k = rows.map wrap) {x : R} (hx : x ∈ records.filterMap as) {row : ρ}
    (hrow : (mk x).row m importId (setLinks records) = some (wrap row)) : row ∈ rows := by
  rw [h.table hsel hwrap]
  refine List.mem_filterMap.2 ⟨mk x, hsel.mem_iff.1 hx, ?_⟩
  rw [hsel.as_mk.2 rfl, Option.bind_some, hrow]
  exact hsel.proj_wrap row

/-- The rows of a table that pass a filter, as records of the delivery. -/
theorem Stored.map_filter {γ : Type} {q : ρ → Bool} {g : ρ → γ} {content : R → γ}
    (h : Stored m importId records store) (hsel : Selects k wrap proj mk as)
    (hwrap : store.rowsOf k = rows.map wrap) (keep : R → Bool)
    (hrow : ∀ x, mk x ∈ records →
      ((((mk x).row m importId (setLinks records)).bind proj).filter q).map g =
        if keep x then some (content x) else none) :
    (rows.filter q).map g = ((records.filterMap as).filter keep).map content := by
  rw [h.table hsel hwrap, List.filter_filterMap, List.filter_filterMap, List.map_filterMap,
    List.map_filterMap]
  refine List.filterMap_congr fun r hr => ?_
  cases hx : as r with
  | none => rfl
  | some x =>
      obtain rfl := hsel.as_mk.1 hx
      rw [Option.bind_some, hrow x hr]
      simp only [Option.filter_some]
      split <;> rfl

theorem Stored.map_filter_all {γ : Type} {q : ρ → Bool} {g : ρ → γ} {content : R → γ}
    (h : Stored m importId records store) (hsel : Selects k wrap proj mk as)
    (hwrap : store.rowsOf k = rows.map wrap)
    (hrow : ∀ x, mk x ∈ records →
      ((((mk x).row m importId (setLinks records)).bind proj).filter q).map g =
        some (content x)) :
    (rows.filter q).map g = (records.filterMap as).map content := by
  have hall := h.map_filter hsel hwrap (fun _ => true) hrow
  rwa [List.filter_true] at hall

theorem Selects.filter_kind (h : Selects k wrap proj mk as) :
    records.filter (fun r => r.kind = k) = (records.filterMap as).map mk := by
  rw [List.map_filterMap, ← List.filterMap_eq_filter]
  refine List.filterMap_congr fun r _ => ?_
  by_cases hk : r.kind = k
  · obtain ⟨x, rfl⟩ := h.of_kind hk
    rw [h.as_mk.2 rfl, Option.guard, if_pos (decide_eq_true hk)]
    rfl
  · have hnone : as r = none := by
      by_contra hsome
      obtain ⟨x, hx⟩ := Option.ne_none_iff_exists'.1 hsome
      rw [h.as_mk.1 hx] at hk
      exact hk (h.mk_kind x)
    rw [hnone, Option.guard, if_neg (by simpa using hk)]
    rfl

end Selects

/-- No two records of a kind have one source record id. -/
structure Delivery.DistinctSources (d : Delivery) : Prop where
  payments : (d.payments.map (·.source)).Nodup
  fees : (d.fees.map (·.source)).Nodup
  taxes : (d.taxes.map (·.source)).Nodup
  refunds : (d.refunds.map (·.source)).Nodup
  adjustments : (d.adjustments.map (·.source)).Nodup
  settlements : (d.settlements.map (·.source)).Nodup
  lines : (d.lines.map (·.source)).Nodup
  credits : (d.credits.map (·.source)).Nodup

/-- Records are told apart by kind and source record id when they are within each kind. -/
theorem nodup_asParent_of_kinds
    (h : ∀ k, ((records.filter fun r => r.kind = k).map (·.base.source)).Nodup) :
    (records.map (·.asParent)).Nodup := by
  induction records with
  | nil => exact List.nodup_nil
  | cons r rest ih =>
      refine List.nodup_cons.2 ⟨fun hin => ?_, ih fun k => ?_⟩
      · obtain ⟨r', hr', heq⟩ := List.mem_map.1 hin
        have hsame := h r.kind
        rw [List.filter_cons_of_pos (by simp), List.map_cons, List.nodup_cons] at hsame
        refine hsame.1 (List.mem_map.2 ⟨r', List.mem_filter.2 ⟨hr', ?_⟩, congrArg Prod.snd heq⟩)
        exact decide_eq_true (congrArg Prod.fst heq)
      · exact (h k).sublist (((List.sublist_cons_self r rest).filter _).map _)

theorem Delivery.DistinctSources.nodup (h : (deliveryOf records).DistinctSources)
    (hkind : ∀ r ∈ records, r.kind ≠ .order ∧ r.kind ≠ .ledgerEntry) :
    (records.map (·.asParent)).Nodup := by
  refine nodup_asParent_of_kinds fun k => ?_
  cases k with
  | order =>
      rw [List.filter_eq_nil_iff.2 fun r hr => by simpa using (hkind r hr).1]
      exact List.nodup_nil
  | ledgerEntry =>
      rw [List.filter_eq_nil_iff.2 fun r hr => by simpa using (hkind r hr).2]
      exact List.nodup_nil
  | payment =>
      rw [selects_payment.filter_kind, List.map_map]
      exact h.payments
  | feeLine =>
      rw [selects_feeLine.filter_kind, List.map_map]
      exact h.fees
  | taxLine =>
      rw [selects_taxLine.filter_kind, List.map_map]
      exact h.taxes
  | refund =>
      rw [selects_refund.filter_kind, List.map_map]
      exact h.refunds
  | adjustment =>
      rw [selects_adjustment.filter_kind, List.map_map]
      exact h.adjustments
  | settlement =>
      rw [selects_settlement.filter_kind, List.map_map]
      exact h.settlements
  | settlementLine =>
      rw [selects_settlementLine.filter_kind, List.map_map]
      exact h.lines
  | bankCredit =>
      rw [selects_bankCredit.filter_kind, List.map_map]
      exact h.credits

end Tables

/-! ## The unit of the payment -/

section Unit

variable {m : MerchantId} {importId : String} {records : List FinancialRecord}
  {store : RecordStore} {p : PaymentRecord}

/-- What the references of the delivery resolve to. -/
structure Resolved (records : List FinancialRecord) (p : PaymentRecord) : Prop where
  payment : setLinks records .payment p.source = some p.id
  fee : ∀ f ∈ (deliveryOf records).fees, setLinks records .feeLine f.source = some f.id
  settlement : ∀ s ∈ (deliveryOf records).settlements,
    setLinks records .settlement s.source = some s.id

theorem AboutPayment.resolved (h : AboutPayment (deliveryOf records) p)
    (hdistinct : (records.map (·.asParent)).Nodup) : Resolved records p where
  payment := by
    have hp : p ∈ (deliveryOf records).payments := by
      rw [h.payment]
      exact List.mem_cons_self
    exact setLinks_eq hdistinct (selects_payment.mem_iff.1 hp)
  fee f hf := setLinks_eq hdistinct (selects_feeLine.mem_iff.1 hf)
  settlement s hs := setLinks_eq hdistinct (selects_settlement.mem_iff.1 hs)

/-- The row of a line of the payment. -/
theorem lineRow_eq (m : MerchantId) (importId : String) (h : AboutPayment (deliveryOf records) p)
    (hr : Resolved records p) {l : SettlementLineRecord} (hl : l ∈ (deliveryOf records).lines) :
    ∃ s ∈ (deliveryOf records).settlements, l.settlementId = s.source ∧
      (FinancialRecord.settlementLine l).row m importId (setLinks records) =
        some (.settlementLine {
          toRowBase := rowBase m importId l.toRecordBase
          settlementId := s.id
          paymentId := some p.id
          lineType := l.lineType
          amount := l.amount }) := by
  obtain ⟨hpay, s, hs, hid⟩ := h.lines l hl
  refine ⟨s, hs, hid, ?_⟩
  simp only [FinancialRecord.row, hid, hr.settlement s hs, hpay, Option.bind_some, hr.payment,
    Option.map_some]

/-- The settlement of a line of the payment settles it. -/
theorem Stored.settles (hstored : Stored m importId records store)
    (h : AboutPayment (deliveryOf records) p) (hr : Resolved records p)
    {s : SettlementRecord} (hs : s ∈ (deliveryOf records).settlements)
    (hsource : ∀ x ∈ (deliveryOf records).settlements, x.source = s.source → x = s) :
    store.settles p.id s.id = true := by
  obtain ⟨l, hl, hid⟩ := h.settlements s hs
  obtain ⟨x, hx, hxid, hrow⟩ := lineRow_eq m importId h hr hl
  obtain rfl := hsource x hx (hxid.symm.trans hid)
  exact settles_iff.2 ⟨_, hstored.mem_row selects_settlementLine rfl hl hrow, rfl, rfl⟩

/-! ## The linked rows of the payment -/

/-- The delivery is about one payment and each reference finds its record. -/
structure Received (m : MerchantId) (importId : String) (records : List FinancialRecord)
    (store : RecordStore) (p : PaymentRecord) : Prop where
  stored : Stored m importId records store
  about : AboutPayment (deliveryOf records) p
  distinct : (records.map (·.asParent)).Nodup
  ids : (records.map (·.base.id)).Nodup

namespace Received

variable (h : Received m importId records store p)
include h

theorem resolved : Resolved records p := h.about.resolved h.distinct

theorem linkedFees :
    (store.linkedFees m p.id).map (·.amount) = (deliveryOf records).fees.map (·.amount) := by
  refine h.stored.map_filter_all selects_feeLine rfl fun f hf => ?_
  have hpay : f.paymentId = some p.source := h.about.fees f (selects_feeLine.mem_iff.2 hf)
  simp [FinancialRecord.row, StoredRow.asFeeLine, hpay, h.resolved.payment, rowBase]

theorem linkedTaxes :
    (store.linkedTaxes m p.id).map (·.amount) = (deliveryOf records).taxes.map (·.amount) := by
  refine h.stored.map_filter_all selects_taxLine rfl fun t ht => ?_
  obtain ⟨f, hf, hfee⟩ := h.about.taxes t (selects_taxLine.mem_iff.2 ht)
  have hpay : f.paymentId = some p.source := h.about.fees f hf
  have hrow : ∃ row ∈ store.feeLines, f.id = row.id ∧ row.paymentId = some p.id :=
    ⟨_, h.stored.mem_row selects_feeLine rfl hf rfl, rfl, by
      rw [hpay, Option.bind_some, h.resolved.payment]⟩
  simp [FinancialRecord.row, StoredRow.asTaxLine, hfee, h.resolved.fee f hf, rowBase, hrow]

theorem linkedRefunds :
    (store.linkedRefunds m p.id).map (fun r => (r.amount, r.createdAt, r.settledAt)) =
      (deliveryOf records).refunds.map fun r => (r.amount, r.createdAt, r.settledAt) := by
  refine h.stored.map_filter_all selects_refund rfl fun r hr => ?_
  have hpay : r.paymentId = p.source := h.about.refunds r (selects_refund.mem_iff.2 hr)
  simp [FinancialRecord.row, StoredRow.asRefund, hpay, h.resolved.payment, rowBase, sourcedRow]

/-- The delivery has one settlement of a source record id. -/
theorem settlement_unique {s s' : SettlementRecord}
    (hs : s ∈ (deliveryOf records).settlements) (hs' : s' ∈ (deliveryOf records).settlements)
    (heq : s.source = s'.source) : s = s' := by
  have hmem := selects_settlement.mem_iff.1 hs
  have hmem' := selects_settlement.mem_iff.1 hs'
  have := List.inj_on_of_nodup_map h.distinct hmem hmem' (Prod.ext rfl heq)
  exact FinancialRecord.settlement.inj this

theorem settles {s : SettlementRecord} (hs : s ∈ (deliveryOf records).settlements) :
    store.settles p.id s.id = true :=
  h.stored.settles h.about h.resolved hs fun _ hx heq => h.settlement_unique hx hs heq

/-- Every line is one of the payment. -/
theorem linkedLines :
    (store.linkedLines m p.id).map (·.amount) = (deliveryOf records).lines.map (·.amount) := by
  refine h.stored.map_filter_all selects_settlementLine rfl fun l hl => ?_
  obtain ⟨s, -, -, hrow⟩ := lineRow_eq m importId h.about h.resolved
    (selects_settlementLine.mem_iff.2 hl)
  rw [hrow]
  simp [StoredRow.asSettlementLine, rowBase]

/-- The row id of the settlement a line names. -/
theorem linkedLines_settlementId :
    (store.linkedLines m p.id).map (·.settlementId) =
      (deliveryOf records).lines.map fun l =>
        (setLinks records .settlement l.settlementId).getD "" := by
  refine h.stored.map_filter_all selects_settlementLine rfl fun l hl => ?_
  obtain ⟨s, hs, hid, hrow⟩ := lineRow_eq m importId h.about h.resolved
    (selects_settlementLine.mem_iff.2 hl)
  rw [hrow, hid, h.resolved.settlement s hs]
  simp [StoredRow.asSettlementLine, rowBase]

theorem linkedSettlements {γ : Type} (g : Money → Date → Option String → γ) :
    (store.linkedSettlements m p.id).map
        (fun s => g ⟨s.netAmountMinor, s.currency⟩ s.settlementAt s.utr) =
      (deliveryOf records).settlements.map fun s =>
        g ⟨s.netAmount.amountMinor, s.grossAmount.currency⟩ s.settlementAt s.utr := by
  refine h.stored.map_filter_all selects_settlement rfl fun s hs => ?_
  have hsettles := h.settles (selects_settlement.mem_iff.2 hs)
  simp [FinancialRecord.row, StoredRow.asSettlement, rowBase, sourcedRow, hsettles]

/-- An adjustment of no settlement is linked to no payment. -/
theorem linkedAdjustments :
    (store.linkedAdjustments m p.id).map (fun a => (a.amount, a.effectiveAt)) =
      ((deliveryOf records).adjustments.filter (·.settlementId.isSome)).map
        fun a => (a.amount, a.effectiveAt) := by
  refine h.stored.map_filter selects_adjustment rfl _ fun a ha => ?_
  cases hid : a.settlementId with
  | none => simp [FinancialRecord.row, StoredRow.asAdjustment, hid, rowBase]
  | some id =>
      obtain ⟨s, hs, rfl⟩ :=
        h.about.adjustments a (selects_adjustment.mem_iff.2 ha) id (by rw [hid]; rfl)
      simp [FinancialRecord.row, StoredRow.asAdjustment, hid, rowBase,
        h.resolved.settlement s hs, h.settles hs]

theorem linkedCredits :
    (store.linkedCredits m p.id).map (fun b => (b.utr, b.amount, b.creditedAt)) =
      (deliveryOf records).credits.map fun b => (b.utr, b.amount, b.creditedAt) := by
  refine h.stored.map_filter_all selects_bankCredit rfl fun b hb => ?_
  obtain ⟨s, hs, hutr⟩ := h.about.credits b (selects_bankCredit.mem_iff.2 hb)
  have hrow : ∃ row ∈ store.settlements, row.utr = some b.utr ∧ row.merchantId = m ∧
      store.settles p.id row.id = true :=
    ⟨_, h.stored.mem_row selects_settlement rfl hs rfl, hutr, rfl, h.settles hs⟩
  simp [FinancialRecord.row, StoredRow.asBankCredit, rowBase, sourcedRow, hrow]

/-- No two lines of the payment are in one settlement. -/
theorem linkedLines_nodup : ((store.linkedLines m p.id).map (·.settlementId)).Nodup := by
  rw [h.linkedLines_settlementId]
  have hline : ∀ l ∈ (deliveryOf records).lines, ∃ s ∈ (deliveryOf records).settlements,
      l.settlementId = s.source ∧
        (setLinks records .settlement l.settlementId).getD "" = s.id := by
    intro l hl
    obtain ⟨-, s, hs, hid⟩ := h.about.lines l hl
    exact ⟨s, hs, hid, by rw [hid, h.resolved.settlement s hs]; rfl⟩
  have hnodup : (deliveryOf records).lines.Nodup := List.Nodup.of_map _ h.about.oneLine
  refine hnodup.map_on fun l hl l' hl' heq => ?_
  obtain ⟨s, hs, hid, hrow⟩ := hline l hl
  obtain ⟨s', hs', hid', hrow'⟩ := hline l' hl'
  -- rows of one id are rows of one settlement, which has one line
  have hrecord : FinancialRecord.settlement s = .settlement s' :=
    List.inj_on_of_nodup_map h.ids (selects_settlement.mem_iff.1 hs)
      (selects_settlement.mem_iff.1 hs') (hrow.symm.trans (heq.trans hrow'))
  obtain rfl := FinancialRecord.settlement.inj hrecord
  exact List.inj_on_of_nodup_map h.about.oneLine hl hl' (hid.trans hid'.symm)

theorem linesOf_le_one (settlementId : String) :
    (store.linesOf p.id settlementId).length ≤ 1 := by
  have hmerchant : ∀ l ∈ store.settlementLines, l.merchantId = m := by
    intro l hl
    rw [h.stored.table selects_settlementLine rfl] at hl
    obtain ⟨r, -, hr⟩ := List.mem_filterMap.1 hl
    obtain ⟨x, -, hx⟩ := Option.bind_eq_some_iff.1 hr
    obtain ⟨row, hrow, hproj⟩ := Option.bind_eq_some_iff.1 hx
    have hbase := row_base hrow
    cases row <;> cases hproj
    exact congrArg RowBase.merchantId hbase
  have hlines : store.linesOf p.id settlementId =
      (store.linkedLines m p.id).filter fun l => l.settlementId = settlementId := by
    unfold RecordStore.linesOf RecordStore.linkedLines
    rw [List.filter_filter]
    refine List.filter_congr fun l hl => ?_
    simp [hmerchant l hl]
  rw [hlines, ← List.countP_eq_length_filter]
  exact countP_le_one_of_unique (k := settlementId) h.linkedLines_nodup
    fun l _ hl => of_decide_eq_true hl

end Received

/-- **The unit of a delivery about one payment** has the amounts and times delivered. -/
theorem loadUnit_delivery (hids : (records.map (·.base.id)).Nodup)
    (hdistinct : (records.map (·.asParent)).Nodup)
    (habout : AboutPayment (deliveryOf records) p) (m : MerchantId) (importId : String) :
    ∃ unit, loadUnit (insertMany ⟨m⟩ importId records {}).2 ⟨m⟩ p.id = some unit ∧
      DeliveredUnit (deliveryOf records) p unit := by
  have h : Received m importId records (insertMany ⟨m⟩ importId records {}).2 p :=
    ⟨insertMany_stored hids hdistinct m importId, habout, hdistinct, hids⟩
  generalize (insertMany ⟨m⟩ importId records {}).2 = store at h ⊢
  have hp : p ∈ (deliveryOf records).payments := by
    rw [habout.payment]
    exact List.mem_cons_self
  obtain ⟨row, hrow, hm, hid, hamount, hmethod, hstatus, hauthorized, hcaptured⟩ :
      ∃ row ∈ store.payments, row.merchantId = m ∧ row.id = p.id ∧ row.amount = p.amount ∧
        row.paymentMethod = p.paymentMethod ∧ row.status = p.status ∧
        row.authorizedAt = p.authorizedAt ∧ row.capturedAt = p.capturedAt :=
    ⟨_, h.stored.mem_row selects_payment rfl hp rfl, rfl, rfl, rfl, rfl, rfl, rfl, rfl⟩
  obtain ⟨unit, hload, hunit⟩ := loadUnit_eq h.stored.wellFormed hrow
  rw [hm, hid] at hload
  have hall : unit.lines = unit.settlementLines := by
    unfold ReconciliationUnit.lines
    rw [hunit.settlementLines, hunit.payment]
    refine List.filter_eq_self.2 fun l hl => ?_
    obtain ⟨line, -, rfl⟩ := List.mem_map.1 hl
    exact beq_self_eq_true _
  refine ⟨unit, hload, {
    amount := by rw [hunit.payment, ← hamount]; rfl
    method := by rw [hunit.payment, ← hmethod]; rfl
    status := by rw [hunit.payment, ← hstatus]; rfl
    authorizedAt := by rw [hunit.payment, ← hauthorized]; rfl
    capturedAt := by rw [hunit.payment, ← hcaptured]; rfl
    fees := by
      rw [hunit.fees, hm, hid, List.map_map]
      exact h.linkedFees
    taxes := by
      rw [hunit.taxes, hm, hid, List.map_map]
      exact h.linkedTaxes
    refunds := by
      rw [hunit.refunds, hm, hid, List.map_map]
      exact h.linkedRefunds
    adjustments := by
      rw [hunit.adjustments, hm, hid, adjustmentsQuery_eq fun _ _ _ s _ => h.linesOf_le_one s,
        List.map_map]
      exact h.linkedAdjustments
    settlements := by
      refine (hunit.settlements.map _).trans (List.Perm.of_eq ?_)
      rw [hm, hid, List.map_map]
      exact h.linkedSettlements fun net settledAt utr => (net, settledAt, utr)
    settlementIds := by
      refine ((hunit.settlements.map _).nodup_iff).2 ?_
      rw [List.map_map]
      exact h.stored.wellFormed.settlements.pk.sublist (List.filter_sublist.map _)
    lines := by
      rw [hall, hunit.settlementLines, hm, hid, List.map_map]
      exact h.linkedLines
    allLines := hall
    lineSettlements := by
      rw [hall, hunit.settlementLines, hm, hid, List.map_map]
      exact h.linkedLines_nodup
    credits := by
      refine (hunit.bankCredits.map _).trans (List.Perm.of_eq ?_)
      rw [hm, hid, List.map_map]
      exact h.linkedCredits
    duplicates := hunit.duplicates }⟩

end Unit

end SettlementOps
