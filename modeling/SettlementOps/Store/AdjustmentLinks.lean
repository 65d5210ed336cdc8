import SettlementOps.Store.UnitLoader
import SettlementOps.Systems.SystemB
import SettlementOps.Tools.Handlers

/-!
# The settlement an adjustment is stored with

The writer stores which settlement an adjustment belongs to, and the loader's query joins on it.
The record it is loaded into has no settlement.

* `LinksKept` — what the record, the tool and System B's rule would say of a stored link.
* `adjustment_links_iff` — they say it exactly of the payments that have no adjustment.
-/

namespace SettlementOps

/-- The loader as the tools use it. -/
def unitOf (store : RecordStore) : UnitLoader := fun ctx => loadUnit store ctx.scope ctx.paymentId

/-- The adjustments a result of `search_related_adjustments` shows. -/
def shownAdjustments (result : ToolResult) : List Row :=
  match result.data.field? "adjustments" with
  | some (.rows items) => items
  | _ => []

/-- The link of every adjustment of a unit is that of its row: in the record, in what the tool
shows of it, and in what the rule of System B takes it for. -/
structure LinksKept (store : RecordStore) (ctx : ToolContext) (unit : ReconciliationUnit) :
    Prop where
  carried : ∀ a ∈ unit.adjustments, ∀ row ∈ store.adjustments, row.id = a.id →
    a.settlementId = row.settlementId
  shown : ∀ (i : Nat) a entry, unit.adjustments[i]? = some a →
    (shownAdjustments (searchRelatedAdjustments (unitOf store) ctx))[i]? = some entry →
    ∀ row ∈ store.adjustments, row.id = a.id →
      (entry.lookup "allocated_to_settlement" = some (.bool true) ↔ row.settlementId ≠ none)
  ruled : ∀ varianceMinor, ∀ a ∈ unit.adjustments, SystemB.unallocated varianceMinor a = true →
    ∀ row ∈ store.adjustments, row.id = a.id → row.settlementId = none

theorem id_of_find {store : RecordStore} {m : MerchantId} {paymentId : String} {p : PaymentRow}
    (h : (store.payments.find? fun p => p.id = paymentId ∧ p.merchantId = m) = some p) :
    p.id = paymentId := by
  have hp := List.find?_some h
  rw [decide_eq_true_eq] at hp
  exact hp.1

/-- An adjustment is loaded exactly when it is linked, and none is loaded with its link. -/
theorem adjustments_of_loadUnit {store : RecordStore} {scope : MerchantScope}
    {paymentId : String} {unit : ReconciliationUnit}
    (h : loadUnit store scope paymentId = some unit) :
    unit.adjustments =
      (adjustmentsQuery store scope.merchantId paymentId).map (adjustmentRecord scope) := by
  unfold loadUnit at h
  dsimp only at h
  split at h
  · cases h
  · rename_i p hp
    rw [id_of_find hp] at h
    cases h
    rfl

theorem loadUnit_eq_none_iff {store : RecordStore} {scope : MerchantScope} {paymentId : String} :
    loadUnit store scope paymentId = none ↔
      ∀ p ∈ store.payments, ¬ (p.id = paymentId ∧ p.merchantId = scope.merchantId) := by
  unfold loadUnit
  dsimp only
  split
  · rename_i hnone
    rw [List.find?_eq_none] at hnone
    exact iff_of_true rfl fun p hp hmatch => hnone p hp (decide_eq_true hmatch)
  · rename_i p hfound
    have hmatch := List.find?_some hfound
    rw [decide_eq_true_eq] at hmatch
    exact iff_of_false (Option.some_ne_none _) fun hno =>
      hno p (List.mem_of_find?_eq_some hfound) hmatch

theorem mem_adjustmentsQuery {store : RecordStore} {m : MerchantId} {paymentId : String}
    {row : AdjustmentRow} :
    row ∈ adjustmentsQuery store m paymentId ↔ row ∈ store.linkedAdjustments m paymentId := by
  rw [← adjustmentsQuery_filter]
  unfold adjustmentsQuery
  simp only [List.mem_map, List.mem_filter, Relational.mem_join, List.any_eq_true, Prod.exists,
    Bool.and_eq_true, decide_eq_true_eq]
  constructor
  · rintro ⟨a, l, ⟨⟨ha, hl, hon⟩, hwhere⟩, rfl⟩
    exact ⟨ha, l, hl, hon, hwhere⟩
  · rintro ⟨ha, l, hl, hon, hwhere⟩
    exact ⟨row, l, ⟨⟨ha, hl, hon⟩, hwhere⟩, rfl⟩

theorem linked_adjustment {store : RecordStore} {m : MerchantId} {paymentId : String}
    {row : AdjustmentRow} (h : row ∈ store.linkedAdjustments m paymentId) :
    row ∈ store.adjustments ∧ row.settlementId ≠ none := by
  obtain ⟨hmem, hlinked⟩ := List.mem_filter.1 h
  rw [decide_eq_true_eq] at hlinked
  obtain ⟨-, s, hs, -⟩ := hlinked
  exact ⟨hmem, fun hnone => by rw [hnone] at hs; cases hs⟩

/-- **No link survives the loader.**  What is said of the adjustments of a payment is what is
stored of them exactly when the merchant has no such payment, or no adjustment of the merchant
belongs to a settlement with a line of the payment. -/
theorem adjustment_links_iff (store : RecordStore) (ctx : ToolContext) :
    (∀ unit, loadUnit store ctx.scope ctx.paymentId = some unit → LinksKept store ctx unit) ↔
      (∀ p ∈ store.payments,
        ¬ (p.id = ctx.paymentId ∧ p.merchantId = ctx.scope.merchantId)) ∨
        store.linkedAdjustments ctx.scope.merchantId ctx.paymentId = [] := by
  rw [← loadUnit_eq_none_iff]
  constructor
  · intro hkept
    cases hload : loadUnit store ctx.scope ctx.paymentId with
    | none => exact .inl rfl
    | some unit =>
        refine .inr (List.eq_nil_iff_forall_not_mem.2 fun row hrow => ?_)
        obtain ⟨hmem, hlink⟩ := linked_adjustment hrow
        have hloaded : adjustmentRecord ctx.scope row ∈ unit.adjustments := by
          rw [adjustments_of_loadUnit hload]
          exact List.mem_map_of_mem (mem_adjustmentsQuery.2 hrow)
        exact hlink ((hkept unit hload).carried _ hloaded row hmem rfl).symm
  · rintro hnothing unit hload
    have hnil : unit.adjustments = [] := by
      rcases hnothing with hnone | hnil
      · rw [hload] at hnone
        cases hnone
      · rw [adjustments_of_loadUnit hload, List.map_eq_nil_iff]
        refine List.eq_nil_iff_forall_not_mem.2 fun row hrow => ?_
        rw [mem_adjustmentsQuery, hnil] at hrow
        exact List.not_mem_nil hrow
    exact {
      carried := fun a ha => by
        rw [hnil] at ha
        exact absurd ha List.not_mem_nil
      shown := fun i a entry ha => by
        rw [hnil] at ha
        cases ha
      ruled := fun varianceMinor a ha => by
        rw [hnil] at ha
        exact absurd ha List.not_mem_nil }

/-- The sample store with an adjustment of -50.00 on the settlement. -/
def allocatedStore : RecordStore :=
  (insertMany ⟨"m-1"⟩ "import-2"
    [.adjustment { sampleBase "adj-1" with
        settlementId := some "set-1"
        reference := "ADJ-1"
        amount := ⟨-5_000, "INR"⟩
        effectiveAt := ⟨1_770_112_800_000⟩
        reasonCode := "CHARGEBACK" }] sampleStore).2

/-- The adjustment of `allocatedStore` is stored with its settlement; it is loaded without one,
shown as not allocated, and is the unallocated adjustment that leaves System B without a
cause. -/
theorem allocated_shown_unallocated :
    allocatedStore.adjustments.map (·.settlementId) = [some "set-1"] ∧
      (∃ unit, loadUnit allocatedStore ⟨"m-1"⟩ "pay-1" = some unit ∧
        unit.adjustments.map (·.settlementId) = [none] ∧ variance unit = some (-5_000) ∧
        unit.adjustments.any (SystemB.unallocated (-5_000)) = true ∧
        SystemB.decide unit (-5_000) = none) ∧
      (shownAdjustments (searchRelatedAdjustments (unitOf allocatedStore)
        ⟨⟨"m-1"⟩, "pay-1"⟩)).map (·.lookup "allocated_to_settlement") = [some (.bool false)] ∧
      ¬ ∀ unit, loadUnit allocatedStore ⟨"m-1"⟩ "pay-1" = some unit →
        LinksKept allocatedStore ⟨⟨"m-1"⟩, "pay-1"⟩ unit := by
  obtain ⟨unit, hload, hlinks, hvariance, hrule, hcause, hrows⟩ :
      ∃ unit, loadUnit allocatedStore ⟨"m-1"⟩ "pay-1" = some unit ∧
        unit.adjustments.map (·.settlementId) = [none] ∧ variance unit = some (-5_000) ∧
        unit.adjustments.any (SystemB.unallocated (-5_000)) = true ∧
        SystemB.decide unit (-5_000) = none ∧
        ∀ a ∈ unit.adjustments, ∃ row ∈ allocatedStore.adjustments,
          row.id = a.id ∧ row.settlementId ≠ none :=
    ⟨_, rfl, by decide, by decide, by decide, by decide, by decide⟩
  refine ⟨by decide, ⟨unit, hload, hlinks, hvariance, hrule, hcause⟩, by decide, fun hkept => ?_⟩
  obtain ⟨a, ha, hunallocated⟩ := List.any_eq_true.1 hrule
  obtain ⟨row, hrow, hid, hlink⟩ := hrows a ha
  exact hlink ((hkept unit hload).ruled _ a ha hunallocated row hrow hid)

end SettlementOps
