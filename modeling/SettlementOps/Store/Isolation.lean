import Mathlib.Data.List.Find
import SettlementOps.Store.Histories

/-!
# Imports that have nothing to do with each other

The records of a merchant meet in the store in three ways only: two have one identity, one refers
to the other by its source record id, or a bank credit carries the UTR of a settlement.  Records
that meet the rest in none of them are stored and loaded as if the rest had never been imported,
in whatever batches and whatever order all of them come.

* `FinancialRecord.Meets`, `Separated` — a part of a history that nothing else meets.
* `importBatches_within` — the rows of the part are what importing the part alone stores.
* `Enclosed`, `loadUnit_within` — its units are loaded from the rows of the part.
* `unit_isolated` — its units and its reports are those of the part alone.
* `importBatches_within_owns` — the rows of one import that nothing else meets.
-/

namespace SettlementOps

open Relational

/-! ## Parts of a history -/

/-- A bank credit that carries the UTR of a settlement. -/
def FinancialRecord.pays : FinancialRecord → FinancialRecord → Bool
  | .bankCredit b, .settlement s => s.utr = some b.utr
  | _, _ => false

/-- One record of a merchant bears on how another is stored or loaded. -/
def FinancialRecord.Meets (m : MerchantId) (r x : FinancialRecord) : Prop :=
  r.identity m = x.identity m ∨ r.references x.kind = some x.base.lineage.sourceRecordId ∨
    r.pays x = true

instance (m : MerchantId) (r x : FinancialRecord) : Decidable (r.Meets m x) :=
  inferInstanceAs (Decidable (_ ∨ _ ∨ _))

/-- No record of the part meets one of the same merchant outside it, nor the other way round. -/
def Separated (own : String → Bool) (history : List ImportBatch) : Prop :=
  ∀ b ∈ history, ∀ b' ∈ history, b.merchantId = b'.merchantId →
    ∀ r ∈ b.records, ∀ x ∈ b'.records, own r.base.id ≠ own x.base.id → ¬ r.Meets b.merchantId x

instance (own : String → Bool) (history : List ImportBatch) : Decidable (Separated own history) :=
  inferInstanceAs (Decidable (∀ b ∈ history, ∀ b' ∈ history, _ → ∀ r ∈ _, ∀ x ∈ _, _ → _))

/-- The records of a batch that are in the part. -/
def ImportBatch.within (own : String → Bool) (b : ImportBatch) : ImportBatch :=
  { b with records := b.records.filter fun r => own r.base.id }

/-- The rows of the part. -/
def RecordStore.within (own : String → Bool) (store : RecordStore) : RecordStore where
  orders := store.orders.filter fun row => own row.id
  payments := store.payments.filter fun row => own row.id
  settlements := store.settlements.filter fun row => own row.id
  settlementLines := store.settlementLines.filter fun row => own row.id
  feeLines := store.feeLines.filter fun row => own row.id
  taxLines := store.taxLines.filter fun row => own row.id
  refunds := store.refunds.filter fun row => own row.id
  adjustments := store.adjustments.filter fun row => own row.id
  bankCredits := store.bankCredits.filter fun row => own row.id
  ledgerEntries := store.ledgerEntries.filter fun row => own row.id

theorem rowsOf_within (own : String → Bool) (store : RecordStore) (k : RecordKind) :
    (store.within own).rowsOf k = (store.rowsOf k).filter fun row => own row.base.id := by
  cases k <;> simp only [RecordStore.rowsOf, RecordStore.within, List.filter_map] <;> rfl

@[simp] theorem within_empty (own : String → Bool) : ({} : RecordStore).within own = {} := rfl

section Push

variable {own : String → Bool} {store : RecordStore} {row : StoredRow}

/-- A row of the part joins its rows. -/
theorem push_within_own (h : own row.base.id = true) :
    (store.push row).within own = (store.within own).push row := by
  refine RecordStore.ext_rowsOf fun k => ?_
  rw [rowsOf_within, RecordStore.rowsOf_push, RecordStore.rowsOf_push, rowsOf_within]
  split
  · rw [List.filter_append]
    simp [h]
  · rfl

/-- Any other row does not. -/
theorem push_within_other (h : own row.base.id = false) :
    (store.push row).within own = store.within own := by
  refine RecordStore.ext_rowsOf fun k => ?_
  rw [rowsOf_within, RecordStore.rowsOf_push, rowsOf_within]
  split
  · rw [List.filter_append]
    simp [h]
  · rfl

end Push

/-! ## Where rows come from -/

section Arrived

variable {history : List ImportBatch} {store store' : RecordStore}

/-- References of the merchant resolve to records of the history. -/
def LinksInto (history : List ImportBatch) (m : MerchantId) (links : Links) : Prop :=
  ∀ k n id, links k n = some id → ∃ b ∈ history, b.merchantId = m ∧
    ∃ x ∈ b.records, x.kind = k ∧ x.base.lineage.sourceRecordId = n ∧ x.base.id = id

/-- Every row is the row of a record of the history, resolved to others of them. -/
def Arrived (history : List ImportBatch) (store : RecordStore) : Prop :=
  ∀ k, ∀ row ∈ store.rowsOf k, ∃ b ∈ history, ∃ r ∈ b.records, ∃ links,
    r.row b.merchantId b.importId links = some row ∧ r.kind = k ∧
      LinksInto history b.merchantId links

theorem arrived_empty (history : List ImportBatch) : Arrived history {} := by
  intro k row hrow
  rw [RecordStore.rowsOf_empty] at hrow
  cases hrow

theorem Arrived.links (h : Arrived history store) (m : MerchantId) :
    LinksInto history m (store.links m) := by
  intro k n id hlink
  obtain ⟨row, hrow, rfl, hm, hn⟩ := links_eq_some hlink
  obtain ⟨b, hb, r, hr, links, hrr, hk, -⟩ := h k row hrow
  rw [row_base hrr] at hm hn ⊢
  exact ⟨b, hb, hm, r, hr, hk, hn, rfl⟩

theorem Arrived.insertRecord {b : ImportBatch} (h : Arrived history store) (hb : b ∈ history)
    {r : FinancialRecord} (hr : r ∈ b.records) {n : Nat}
    (hins : SettlementOps.insertRecord b.merchantId b.importId r store = some (n, store')) :
    Arrived history store' := by
  rcases insertRecord_cases hins with ⟨-, rfl, -⟩ | ⟨-, row, hrow, rfl, -⟩
  · exact h
  · intro k x hx
    rw [RecordStore.rowsOf_push] at hx
    split at hx
    · rename_i hk
      rcases List.mem_append.1 hx with hx | hx
      · exact h k x hx
      · rw [List.mem_singleton.1 hx]
        exact ⟨b, hb, r, hr, _, hrow, by rw [hk, row_kind hrow], h.links _⟩
    · exact h k x hx

end Arrived

/-! ## One insert -/

section Insert

variable {own : String → Bool} {history : List ImportBatch} {store store' : RecordStore}
  {b : ImportBatch} {r : FinancialRecord}

/-- What has arrived and meets a record of the part is in the part. -/
theorem Separated.own_of_row (hsep : Separated own history) (harrived : Arrived history store)
    (hb : b ∈ history) (hr : r ∈ b.records) (hown : own r.base.id = true) {k : RecordKind}
    {row : StoredRow} (hrow : row ∈ store.rowsOf k) (hm : row.base.merchantId = b.merchantId)
    (hmeets : ∀ x : FinancialRecord, x.kind = k →
      x.base.lineage.sourceRecordId = row.base.sourceRecordId → row.key = x.sourceKey b.merchantId →
        r.Meets b.merchantId x) : own row.base.id = true := by
  obtain ⟨b', hb', x, hx, links, hxr, hk, -⟩ := harrived k row hrow
  have hm' : b'.merchantId = b.merchantId := by
    rw [← hm, row_base hxr]
    rfl
  have hid : row.base.id = x.base.id := by
    rw [row_base hxr]
    rfl
  rw [hid]
  by_contra hother
  refine hsep b hb b' hb' hm'.symm r hr x hx ?_ (hmeets x hk ?_ ?_)
  · rw [hown]
    exact fun h => hother h.symm
  · rw [row_base hxr]
    rfl
  · rw [row_key hxr, hm']

/-- A record of the part refers to rows of the part. -/
theorem Separated.row_eq (hsep : Separated own history) (harrived : Arrived history store)
    (hb : b ∈ history) (hr : r ∈ b.records) (hown : own r.base.id = true) :
    r.row b.merchantId b.importId ((store.within own).links b.merchantId) =
      r.row b.merchantId b.importId (store.links b.merchantId) := by
  refine row_congr fun k => ?_
  cases hk : r.references k with
  | none => rfl
  | some n =>
      rw [Option.bind_some, Option.bind_some]
      unfold RecordStore.links
      rw [rowsOf_within, List.find?_filter]
      congr 1
      refine List.find?_congr fun row hrow => ?_
      rw [Bool.eq_iff_iff, decide_eq_true_iff, decide_eq_true_iff]
      refine and_iff_right_of_imp fun ⟨hm, hn⟩ => ?_
      refine hsep.own_of_row harrived hb hr hown hrow hm fun x hx hsource _ => .inr (.inl ?_)
      rw [hx, hk, hsource, hn]

/-- **An insert of the part** is one among the rows of the part. -/
theorem insertRecord_within (hsep : Separated own history) (harrived : Arrived history store)
    (hb : b ∈ history) (hr : r ∈ b.records) (hown : own r.base.id = true) {n : Nat}
    (h : insertRecord b.merchantId b.importId r store = some (n, store')) :
    insertRecord b.merchantId b.importId r (store.within own) = some (n, store'.within own) := by
  rw [insertRecord_eq, hsep.row_eq harrived hb hr hown]
  rcases insertRecord_cases h with ⟨rfl, rfl, hkey⟩ | ⟨rfl, row, hrow, rfl, hnew⟩
  · cases hrow : r.row b.merchantId b.importId (store'.links b.merchantId) with
    | none => rfl
    | some row =>
        obtain ⟨x, hx, hxkey⟩ := hkey row hrow
        have hm : x.base.merchantId = b.merchantId := by
          rw [← x.key_merchantId, hxkey, row.key_merchantId, row_base hrow]
          rfl
        have hxown : own x.base.id = true := by
          refine hsep.own_of_row harrived hb hr hown hx hm fun y hy _ hykey => .inl ?_
          rw [FinancialRecord.identity, FinancialRecord.identity, hy, ← hykey, hxkey, row_key hrow]
        dsimp only
        rw [StoredRow.insert_eq, if_pos]
        refine List.any_eq_true.2 ⟨x, ?_, decide_eq_true hxkey⟩
        rw [rowsOf_within, row_kind hrow]
        exact List.mem_filter.2 ⟨hx, hxown⟩
  · have hrowown : own row.base.id = true := by
      rw [row_base hrow]
      exact hown
    rw [hrow]
    dsimp only
    rw [StoredRow.insert_eq, if_neg, if_neg, push_within_own hrowown]
    all_goals
      simp only [List.any_eq_true, decide_eq_true_eq, not_exists, not_and, rowsOf_within,
        row_kind hrow]
    · exact fun x hx => (hnew x (List.mem_filter.1 hx).1).2
    · exact fun x hx => (hnew x (List.mem_filter.1 hx).1).1

/-- An insert of anything else changes nothing there. -/
theorem insertRecord_within_other {m : MerchantId} {importId : String}
    (hown : own r.base.id = false) {n : Nat}
    (h : insertRecord m importId r store = some (n, store')) :
    store'.within own = store.within own := by
  rcases insertRecord_cases h with ⟨-, rfl, -⟩ | ⟨-, row, hrow, rfl, -⟩
  · rfl
  · refine push_within_other ?_
    rw [row_base hrow]
    exact hown

end Insert

/-! ## A batch and a history -/

section Batches

variable {own : String → Bool} {history : List ImportBatch} {b : ImportBatch}

theorem foldlM_within (hsep : Separated own history) (hb : b ∈ history)
    (records : List FinancialRecord) : (∀ r ∈ records, r ∈ b.records) →
    ∀ {n n' : Nat} (j : Nat) {store store' : RecordStore}, Arrived history store →
      records.foldlM (insertStep b.merchantId b.importId) (n, store) = some (n', store') →
      Arrived history store' ∧ ∃ j', (records.filter fun r => own r.base.id).foldlM
          (insertStep b.merchantId b.importId) (j, store.within own) =
            some (j', store'.within own) ∧
        ((∀ r ∈ records, own r.base.id = true) → j' + n = n' + j) := by
  induction records with
  | nil =>
      intro _ n n' j store store' harrived h
      simp only [List.foldlM_nil] at h
      cases h
      exact ⟨harrived, j, rfl, fun _ => Nat.add_comm j n⟩
  | cons r records ih =>
      intro hmem n n' j store store' harrived h
      obtain ⟨hr, hmem⟩ := List.forall_mem_cons.1 hmem
      rw [List.foldlM_cons] at h
      obtain ⟨⟨n₁, store₁⟩, hstep, hfold⟩ := Option.bind_eq_some_iff.1 h
      obtain ⟨⟨i, _⟩, hins, heq⟩ := Option.map_eq_some_iff.1 hstep
      cases heq
      have harrived₁ := harrived.insertRecord hb hr hins
      cases hown : own r.base.id with
      | true =>
          obtain ⟨harrived', j', hj', hcount⟩ := ih hmem (j + i) harrived₁ hfold
          refine ⟨harrived', j', ?_, fun hall => ?_⟩
          · rw [List.filter_cons, if_pos hown, List.foldlM_cons, insertStep,
              insertRecord_within hsep harrived hb hr hown hins]
            exact hj'
          · have := hcount (List.forall_mem_cons.1 hall).2
            dsimp only at this
            omega
      | false =>
          obtain ⟨harrived', j', hj', -⟩ := ih hmem j harrived₁ hfold
          refine ⟨harrived', j', ?_, fun hall => ?_⟩
          · rw [List.filter_cons, if_neg (by simp [hown]), ← insertRecord_within_other hown hins]
            exact hj'
          · have := (List.forall_mem_cons.1 hall).1
            rw [hown] at this
            cases this

theorem inInsertOrder_filter (p : FinancialRecord → Bool) (records : List FinancialRecord) :
    inInsertOrder (records.filter p) = (inInsertOrder records).filter p := by
  unfold inInsertOrder
  rw [List.filter_flatMap]
  simp only [List.filter_filter, Bool.and_comm]

/-- A run of the loop is a committed batch. -/
theorem insertMany_of_foldlM {scope : MerchantScope} {importId : String}
    {records : List FinancialRecord} {store store' : RecordStore} {n : Nat}
    (h : (inInsertOrder records).foldlM (insertStep scope.merchantId importId) (0, store) =
      some (n, store')) :
    insertMany scope importId records store = (some ⟨n, records.length - n⟩, store') := by
  unfold insertMany insertRecords
  rw [h]
  split
  · rename_i hnil
    rw [List.length_eq_zero_iff] at hnil
    subst hnil
    cases h
    rfl
  · rfl

/-- **A batch adds to the rows of the part** what its records of the part alone add, and one that
is wholly of the part is told the same. -/
theorem insertMany_within (hsep : Separated own history) (hb : b ∈ history)
    {store store' : RecordStore} (harrived : Arrived history store) {counts : InsertCounts}
    (h : insertMany ⟨b.merchantId⟩ b.importId b.records store = (some counts, store')) :
    Arrived history store' ∧ ∃ counts',
      insertMany ⟨b.merchantId⟩ b.importId (b.within own).records (store.within own) =
        (some counts', store'.within own) ∧
      ((∀ r ∈ b.records, own r.base.id = true) → counts' = counts) := by
  obtain ⟨n, hfold, rfl⟩ := insertMany_foldlM h
  obtain ⟨harrived', n', hfold', hcount⟩ := foldlM_within hsep hb _
    (fun r hr => mem_inInsertOrder.1 hr) 0 harrived hfold
  refine ⟨harrived', ⟨n', (b.within own).records.length - n'⟩, ?_, fun hall => ?_⟩
  · refine insertMany_of_foldlM ?_
    rw [ImportBatch.within, inInsertOrder_filter]
    exact hfold'
  · have hn : n' = n := hcount fun r hr => hall r (mem_inInsertOrder.1 hr)
    rw [ImportBatch.within, List.filter_eq_self.2 hall, hn]

/-- **The rows of the part** are what importing the part alone stores. -/
theorem importBatches_within (hsep : Separated own history) (batches : List ImportBatch) :
    (∀ b ∈ batches, b ∈ history) → ∀ {store : RecordStore}, DistinctIds batches →
      UnusedIds store batches → Arrived history store →
      Arrived history (importBatches batches store) ∧
        (importBatches batches store).within own =
          importBatches (batches.map (·.within own)) (store.within own) := by
  induction batches with
  | nil => exact fun _ _ _ _ harrived => ⟨harrived, rfl⟩
  | cons b batches ih =>
      intro hmem store hids hunused harrived
      obtain ⟨hb, hmem⟩ := List.forall_mem_cons.1 hmem
      obtain ⟨counts, store', hins⟩ :=
        insertMany_commits (hids.freshIds hunused) ⟨b.merchantId⟩ b.importId
      obtain ⟨harrived', counts', hwithin, -⟩ := insertMany_within hsep hb harrived hins
      have hstore : importBatches (b :: batches) store = importBatches batches store' := by
        unfold importBatches
        rw [List.foldl_cons, hins]
      have hpart : importBatches ((b :: batches).map (·.within own)) (store.within own) =
          importBatches (batches.map (·.within own)) (store'.within own) := by
        unfold importBatches
        rw [List.map_cons, List.foldl_cons]
        dsimp only [ImportBatch.within] at hwithin ⊢
        rw [hwithin]
      rw [hstore, hpart]
      exact ih hmem hids.tail (hunused.insertMany hids hins) harrived'

end Batches

/-! ## Loading from the rows of the part -/

/-- Rows that are linked, by a reference or by a UTR, are in one part. -/
structure Enclosed (own : String → Bool) (store : RecordStore) : Prop where
  links : ∀ k, ∀ row ∈ store.rowsOf k, ∀ k', ∀ id ∈ row.linkTo k', own id = own row.base.id
  credits : ∀ b ∈ store.bankCredits, ∀ s ∈ store.settlements, s.utr = some b.utr →
    s.merchantId = b.merchantId → own b.id = own s.id

section Load

variable {own : String → Bool} {history : List ImportBatch} {store : RecordStore}

/-- The rows of a separated history are enclosed. -/
theorem Separated.enclosed (hsep : Separated own history) (harrived : Arrived history store) :
    Enclosed own store where
  links k row hrow k' id hid := by
    obtain ⟨b, hb, r, hr, links, hrr, -, hlinks⟩ := harrived k row hrow
    rw [Option.mem_def, row_linkTo hrr] at hid
    obtain ⟨n, hn, hlink⟩ := Option.bind_eq_some_iff.1 hid
    obtain ⟨b', hb', hm, x, hx, hkind, hsource, rfl⟩ := hlinks k' n id hlink
    rw [row_base hrr]
    by_contra hne
    refine hsep b hb b' hb' hm.symm r hr x hx (fun h => hne h.symm) (.inr (.inl ?_))
    rw [hkind, hn, hsource]
  credits credit hcredit settlement hsettlement hutr hm := by
    obtain ⟨b, hb, r, hr, links, hrr, hk, -⟩ := harrived .bankCredit _
      (List.mem_map_of_mem hcredit)
    obtain ⟨b', hb', x, hx, links', hxr, hk', -⟩ := harrived .settlement _
      (List.mem_map_of_mem hsettlement)
    cases r <;> cases hk
    cases x <;> cases hk'
    cases hrr
    cases hxr
    by_contra hne
    exact hsep b hb b' hb' hm.symm _ hr _ hx hne (.inr (.inr (decide_eq_true hutr)))

section Queries

variable (h : Enclosed own store) (m : MerchantId) {paymentId : String}
  (hown : own paymentId = true)
include h

theorem line_settlement_own {l : SettlementLineRow} (hl : l ∈ store.settlementLines) :
    own l.settlementId = own l.id :=
  h.links .settlementLine (.settlementLine l) (List.mem_map_of_mem hl) .settlement _ rfl

include hown

theorem line_own {l : SettlementLineRow} (hl : l ∈ store.settlementLines)
    (hlink : l.paymentId = some paymentId) : own l.id = true :=
  (h.links .settlementLine (.settlementLine l) (List.mem_map_of_mem hl) .payment _ hlink).symm.trans
    hown

theorem fee_own {f : FeeLineRow} (hf : f ∈ store.feeLines)
    (hlink : f.paymentId = some paymentId) : own f.id = true :=
  (h.links .feeLine (.feeLine f) (List.mem_map_of_mem hf) .payment _ hlink).symm.trans hown

theorem refund_own {r : RefundRow} (hr : r ∈ store.refunds) (hlink : r.paymentId = paymentId) :
    own r.id = true :=
  (h.links .refund (.refund r) (List.mem_map_of_mem hr) .payment _ (congrArg some hlink)).symm.trans
    hown

theorem feesQuery_within :
    feesQuery (store.within own) m paymentId = feesQuery store m paymentId := by
  unfold feesQuery RecordStore.within
  dsimp only
  rw [List.filter_filter]
  refine List.filter_congr fun f hf => ?_
  rw [Bool.eq_iff_iff, Bool.and_eq_true, decide_eq_true_iff]
  exact and_iff_left_of_imp fun hcond => fee_own h hown hf hcond.2

theorem linesQuery_within :
    linesQuery (store.within own) m paymentId = linesQuery store m paymentId := by
  unfold linesQuery RecordStore.within
  dsimp only
  rw [List.filter_filter]
  refine List.filter_congr fun l hl => ?_
  rw [Bool.eq_iff_iff, Bool.and_eq_true, decide_eq_true_iff]
  exact and_iff_left_of_imp fun hcond => line_own h hown hl hcond.2

theorem refundsQuery_within :
    refundsQuery (store.within own) m paymentId = refundsQuery store m paymentId := by
  unfold refundsQuery RecordStore.within
  dsimp only
  rw [List.filter_filter]
  refine List.filter_congr fun r hr => ?_
  rw [Bool.eq_iff_iff, Bool.and_eq_true, decide_eq_true_iff]
  exact and_iff_left_of_imp fun hcond => refund_own h hown hr hcond.2

theorem taxesQuery_within :
    taxesQuery (store.within own) m paymentId = taxesQuery store m paymentId := by
  unfold taxesQuery RecordStore.within
  dsimp only
  rw [filter_join_filter]
  intro t ht f hf hon hcond
  have hfown := fee_own h hown hf (of_decide_eq_true hcond).2
  exact ⟨(h.links .taxLine (.taxLine t) (List.mem_map_of_mem ht) .feeLine _
    (of_decide_eq_true hon)).symm.trans hfown, hfown⟩

theorem adjustmentsQuery_within :
    adjustmentsQuery (store.within own) m paymentId = adjustmentsQuery store m paymentId := by
  unfold adjustmentsQuery RecordStore.within
  dsimp only
  rw [filter_join_filter]
  intro a ha l hl hon hcond
  have hlown := line_own h hown hl (of_decide_eq_true hcond).2
  have haown : own l.settlementId = own a.id :=
    h.links .adjustment (.adjustment a) (List.mem_map_of_mem ha) .settlement _
      (of_decide_eq_true hon)
  exact ⟨haown.symm.trans ((line_settlement_own h hl).trans hlown), hlown⟩

theorem settlementsQuery_within :
    settlementsQuery (store.within own) m paymentId = settlementsQuery store m paymentId := by
  unfold settlementsQuery RecordStore.within
  dsimp only
  rw [filter_join_filter]
  intro s _ l hl hon hcond
  have hlown := line_own h hown hl (of_decide_eq_true hcond).2
  refine ⟨?_, hlown⟩
  rw [← of_decide_eq_true hon, line_settlement_own h hl, hlown]

theorem creditsQuery_within :
    creditsQuery (store.within own) m paymentId = creditsQuery store m paymentId := by
  unfold creditsQuery RecordStore.within
  dsimp only
  rw [join_filter, filter_join_filter]
  intro bs hbs l hl hon hcond
  obtain ⟨hb, hs, hutr⟩ := mem_join.1 hbs
  obtain ⟨hutr, hm⟩ := of_decide_eq_true hutr
  have hlown := line_own h hown hl (of_decide_eq_true hcond).2
  have hsown : own bs.2.id = true := by
    rw [← of_decide_eq_true hon, line_settlement_own h hl, hlown]
  exact ⟨Bool.and_eq_true_iff.2 ⟨(h.credits bs.1 hb bs.2 hs hutr hm).trans hsown, hsown⟩, hlown⟩

/-- **A unit is loaded from the rows of its part alone.** -/
theorem loadUnit_within :
    loadUnit (store.within own) ⟨m⟩ paymentId = loadUnit store ⟨m⟩ paymentId := by
  have hfind : (store.within own).payments.find? (fun p => p.id = paymentId ∧ p.merchantId = m) =
      store.payments.find? fun p => p.id = paymentId ∧ p.merchantId = m := by
    rw [← List.head?_filter, ← List.head?_filter]
    refine congrArg List.head? (filter_filter_of_imp fun p hp => ?_)
    rwa [(of_decide_eq_true hp).1]
  unfold loadUnit
  dsimp only
  rw [hfind]
  cases hpay : store.payments.find? fun p => p.id = paymentId ∧ p.merchantId = m with
  | none => rfl
  | some p =>
      have hid : p.id = paymentId := by
        have hp := List.find?_some hpay
        simp only [decide_eq_true_eq] at hp
        exact hp.1
      dsimp only
      rw [hid, feesQuery_within h m hown, taxesQuery_within h m hown,
        refundsQuery_within h m hown, adjustmentsQuery_within h m hown,
        settlementsQuery_within h m hown, linesQuery_within h m hown,
        creditsQuery_within h m hown]

end Queries

end Load

/-! ## One import -/

/-- The records of one import. -/
def ImportBatch.owns (b : ImportBatch) (id : String) : Bool :=
  b.records.any fun r => r.base.id = id

theorem owns_iff {b : ImportBatch} {id : String} :
    b.owns id = true ↔ ∃ r ∈ b.records, r.base.id = id := by
  simp only [ImportBatch.owns, List.any_eq_true, decide_eq_true_eq]

theorem within_owns (b : ImportBatch) : b.within b.owns = b := by
  have hall : b.records.filter (fun r => b.owns r.base.id) = b.records :=
    List.filter_eq_self.2 fun r hr => owns_iff.2 ⟨r, hr, rfl⟩
  rw [ImportBatch.within, hall]

/-- The other imports of a history have no record of it. -/
theorem within_owns_other {before after : List ImportBatch} {b : ImportBatch}
    (hids : DistinctIds (before ++ b :: after)) :
    ∀ other ∈ before ++ after, (other.within b.owns).records = [] := by
  unfold DistinctIds at hids
  rw [List.flatMap_append, List.flatMap_cons, List.map_append, List.map_append] at hids
  obtain ⟨-, hrest, hbefore⟩ := List.nodup_append.1 hids
  obtain ⟨-, -, hafter⟩ := List.nodup_append.1 hrest
  intro other hother
  refine List.filter_eq_nil_iff.2 fun x hx hown => ?_
  obtain ⟨r, hr, hid⟩ := owns_iff.1 hown
  have hr' := List.mem_map_of_mem (f := fun r : FinancialRecord => r.base.id) hr
  rcases List.mem_append.1 hother with hother | hother
  · exact hbefore _ (List.mem_map_of_mem (List.mem_flatMap.2 ⟨other, hother, hx⟩)) _
      (List.mem_append_left _ hr') hid.symm
  · exact hafter _ hr' _ (List.mem_map_of_mem (List.mem_flatMap.2 ⟨other, hother, hx⟩)) hid

theorem importBatches_of_empty (batches : List ImportBatch) (hempty : ∀ b ∈ batches, b.records = [])
    (store : RecordStore) : importBatches batches store = store := by
  induction batches with
  | nil => rfl
  | cons b batches ih =>
      obtain ⟨hb, hrest⟩ := List.forall_mem_cons.1 hempty
      have hnone : (insertMany ⟨b.merchantId⟩ b.importId b.records store).2 = store := by
        rw [hb]
        rfl
      unfold importBatches at *
      rw [List.foldl_cons, hnone]
      exact ih hrest

/-- **The rows of an import** that nothing else meets are those it leaves on its own. -/
theorem importBatches_within_owns {before after : List ImportBatch} {b : ImportBatch}
    (hids : DistinctIds (before ++ b :: after)) (hsep : Separated b.owns (before ++ b :: after)) :
    Arrived (before ++ b :: after) (importBatches (before ++ b :: after) {}) ∧
      (importBatches (before ++ b :: after) {}).within b.owns =
        (insertMany ⟨b.merchantId⟩ b.importId b.records {}).2 := by
  obtain ⟨harrived, hwithin⟩ := importBatches_within hsep _ (fun _ hb => hb) hids
    (unusedIds_empty _) (arrived_empty _)
  refine ⟨harrived, hwithin.trans ?_⟩
  have hnone : ∀ {others : List ImportBatch}, (∀ other ∈ others, other ∈ before ++ after) →
      ∀ store, importBatches (others.map (·.within b.owns)) store = store := by
    intro others hothers store
    refine importBatches_of_empty _ (fun other hother => ?_) store
    obtain ⟨x, hx, rfl⟩ := List.mem_map.1 hother
    exact within_owns_other hids x (hothers x hx)
  have hrun : ∀ (xs ys : List ImportBatch) (store : RecordStore),
      importBatches (xs ++ ys) store = importBatches ys (importBatches xs store) :=
    fun xs ys store => List.foldl_append
  rw [within_empty, List.map_append, List.map_cons, within_owns, hrun,
    hnone fun _ h => List.mem_append_left _ h]
  exact hnone (fun _ h => List.mem_append_right _ h) _

/-! ## The part alone -/

/-- Batches leave the ids of those to come unused. -/
theorem UnusedIds.importBatches (before : List ImportBatch) :
    ∀ {rest : List ImportBatch} {store : RecordStore}, DistinctIds (before ++ rest) →
      UnusedIds store (before ++ rest) →
      DistinctIds rest ∧ UnusedIds (SettlementOps.importBatches before store) rest := by
  induction before with
  | nil => exact fun hids hunused => ⟨hids, hunused⟩
  | cons b before ih =>
      intro rest store hids hunused
      obtain ⟨counts, store', hins⟩ :=
        insertMany_commits (DistinctIds.freshIds hids hunused) ⟨b.merchantId⟩ b.importId
      unfold SettlementOps.importBatches
      rw [List.foldl_cons, hins]
      exact ih (DistinctIds.tail hids) (UnusedIds.insertMany hids hunused hins)

/-- **Isolation.**  Where no record of a part meets one outside it, the part's payments have the
units, and its imports the reports, they have when the part alone is imported, whatever else the
history holds and however the two are interleaved. -/
theorem unit_isolated {own : String → Bool} {history : List ImportBatch}
    (hids : DistinctIds history) (hsep : Separated own history) :
    (∀ m paymentId, own paymentId = true →
      loadUnit (importBatches history {}) ⟨m⟩ paymentId =
        loadUnit (importBatches (history.map (·.within own)) {}) ⟨m⟩ paymentId) ∧
    ∀ before b after, history = before ++ b :: after →
      (∀ r ∈ b.records, own r.base.id = true) →
      (insertMany ⟨b.merchantId⟩ b.importId b.records (importBatches before {})).1 =
        (insertMany ⟨b.merchantId⟩ b.importId b.records
          (importBatches (before.map (·.within own)) {})).1 := by
  constructor
  · intro m paymentId hown
    obtain ⟨harrived, hwithin⟩ := importBatches_within hsep history (fun _ hb => hb) hids
      (unusedIds_empty history) (arrived_empty history)
    rw [← loadUnit_within (hsep.enclosed harrived) m hown, hwithin, within_empty]
  · rintro before b after rfl hall
    have hbefore : DistinctIds before := by
      unfold DistinctIds at *
      rw [List.flatMap_append, List.map_append] at hids
      exact (List.nodup_append.1 hids).1
    obtain ⟨harrived, hwithin⟩ := importBatches_within hsep before
      (fun _ hb => List.mem_append_left _ hb) hbefore (unusedIds_empty before)
      (arrived_empty (before ++ b :: after))
    obtain ⟨hrest, hunused⟩ := UnusedIds.importBatches before hids (unusedIds_empty _)
    rw [within_empty] at hwithin
    rw [← hwithin]
    generalize importBatches before {} = store at *
    obtain ⟨counts, store', hins⟩ :=
      insertMany_commits (hrest.freshIds hunused) ⟨b.merchantId⟩ b.importId
    obtain ⟨-, counts', hpart, hsame⟩ := insertMany_within hsep
      (List.mem_append_right _ List.mem_cons_self) harrived hins
    rw [ImportBatch.within, List.filter_eq_self.2 hall, hsame hall] at hpart
    rw [hins, hpart]

/-- Another payment of the merchant, with a settlement and a line of its own. -/
def neighbourRecords : List FinancialRecord :=
  [.payment { sampleUnit.payment with toRecordBase := sampleBase "pay-2" },
    .settlement { sampleBase "set-2" with
      settlementId := "set-2"
      settlementBatchId := none
      grossAmount := ⟨1_000_000, "INR"⟩
      netAmount := ⟨970_500, "INR"⟩
      settlementAt := ⟨1_770_163_200_000⟩
      status := .processed
      utr := some "UTR002" },
    .settlementLine { sampleBase "line-2" with
      settlementId := "set-2"
      paymentId := some "pay-2"
      refundId := none
      lineType := .payment
      amount := ⟨970_500, "INR"⟩ }]

/-- The records of the sample payment and of the other one, mixed over two imports. -/
def mixedHistory : List ImportBatch :=
  [⟨"m-1", "import-1", neighbourRecords.take 2 ++ sampleImport.take 3⟩,
    ⟨"m-1", "import-2", sampleImport.drop 3 ++ neighbourRecords.drop 2⟩]

def isSample (id : String) : Bool := sampleImport.any fun r => r.base.id = id

/-- The other payment makes no difference to the sample payment. -/
theorem unit_isolated_mixed :
    loadUnit (importBatches mixedHistory {}) ⟨"m-1"⟩ "pay-1" =
      loadUnit (importBatches (mixedHistory.map (·.within isSample)) {}) ⟨"m-1"⟩ "pay-1" :=
  (unit_isolated (by decide) (by decide)).1 "m-1" "pay-1" (by decide)

end SettlementOps
