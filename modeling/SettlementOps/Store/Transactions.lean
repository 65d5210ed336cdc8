import SettlementOps.Store.Rows

/-!
# The transaction of a batch

The inserts of a batch are the statements of one transaction, at the isolation level
READ COMMITTED: each sees what is committed when it is executed, and the rows its own
transaction has written.  Nobody else sees these before the commit, so the transaction carries
them, and the store changes with the commit alone.

Of two open transactions that insert one key the database makes the second wait for the first.
Here the second insert is executed after the wait; executed before, its transaction cannot
commit once the first has.

* `RecordStore.overlay`, `RecordStore.since` — rows over those of a store.
* `BatchTransaction`, `BatchTransaction.insert`, `BatchTransaction.commit` — the statements.
* `insert_cases` — all that a statement does to the identities a transaction has written.
* `transaction_eq_insertRecords` — while nobody else commits, they come to `insertRecords`.
-/

namespace SettlementOps

open Relational

namespace RecordStore

/-- The rows of a store and, after them, written ones. -/
def overlay (store written : RecordStore) : RecordStore where
  orders := store.orders ++ written.orders
  payments := store.payments ++ written.payments
  settlements := store.settlements ++ written.settlements
  settlementLines := store.settlementLines ++ written.settlementLines
  feeLines := store.feeLines ++ written.feeLines
  taxLines := store.taxLines ++ written.taxLines
  refunds := store.refunds ++ written.refunds
  adjustments := store.adjustments ++ written.adjustments
  bankCredits := store.bankCredits ++ written.bankCredits
  ledgerEntries := store.ledgerEntries ++ written.ledgerEntries

/-- The rows after those of a store. -/
def since (seen store : RecordStore) : RecordStore where
  orders := seen.orders.drop store.orders.length
  payments := seen.payments.drop store.payments.length
  settlements := seen.settlements.drop store.settlements.length
  settlementLines := seen.settlementLines.drop store.settlementLines.length
  feeLines := seen.feeLines.drop store.feeLines.length
  taxLines := seen.taxLines.drop store.taxLines.length
  refunds := seen.refunds.drop store.refunds.length
  adjustments := seen.adjustments.drop store.adjustments.length
  bankCredits := seen.bankCredits.drop store.bankCredits.length
  ledgerEntries := seen.ledgerEntries.drop store.ledgerEntries.length

/-- The primary keys of a table. -/
def ids (store : RecordStore) : RecordKind → List String
  | .order => store.orders.map (·.id)
  | .payment => store.payments.map (·.id)
  | .feeLine => store.feeLines.map (·.id)
  | .taxLine => store.taxLines.map (·.id)
  | .refund => store.refunds.map (·.id)
  | .adjustment => store.adjustments.map (·.id)
  | .settlement => store.settlements.map (·.id)
  | .settlementLine => store.settlementLines.map (·.id)
  | .bankCredit => store.bankCredits.map (·.id)
  | .ledgerEntry => store.ledgerEntries.map (·.id)

@[simp] theorem keys_overlay (store written : RecordStore) (kind : RecordKind) :
    (store.overlay written).keys kind = store.keys kind ++ written.keys kind := by
  cases kind <;> exact List.map_append

theorem keys_since (seen store : RecordStore) (kind : RecordKind) :
    (seen.since store).keys kind = (seen.keys kind).drop (store.keys kind).length := by
  cases kind <;> simp [keys, since, List.map_drop]

@[simp] theorem since_overlay (store written : RecordStore) :
    (store.overlay written).since store = written := by
  simp [overlay, since]

@[simp] theorem overlay_empty (store : RecordStore) : store.overlay {} = store := by
  simp [overlay]

theorem hasSource_overlay {store written : RecordStore} {m : MerchantId}
    {p : RecordKind × String} :
    (store.overlay written).HasSource m p ↔ store.HasSource m p ∨ written.HasSource m p := by
  simp only [HasSource, keys_overlay, List.mem_append, or_and_right, exists_or]

theorem held_overlay {store written : RecordStore} {m : MerchantId} {r : FinancialRecord} :
    (store.overlay written).Held m r ↔ store.Held m r ∨ written.Held m r := by
  simp only [Held, keys_overlay, List.mem_append]

/-- No written row has the source identity or the primary key of a row of the store. -/
def Apart (store written : RecordStore) : Prop :=
  ∀ kind ∈ INSERT_ORDER, (∀ k ∈ written.keys kind, k ∉ store.keys kind) ∧
    ∀ id ∈ written.ids kind, id ∉ store.ids kind

instance (store written : RecordStore) : Decidable (store.Apart written) :=
  inferInstanceAs (Decidable (∀ kind ∈ INSERT_ORDER, _ ∧ _))

theorem apart_empty (store : RecordStore) : store.Apart {} := by
  intro kind _
  cases kind <;> exact ⟨nofun, nofun⟩

end RecordStore

/-! ## The statements -/

/-- A transaction: the records its inserts were given, and what has come of them. -/
structure BatchTransaction where
  records : List FinancialRecord := []
  accepted : Nat := 0
  written : RecordStore := {}
  deriving DecidableEq, Repr

namespace BatchTransaction

variable (merchantId : MerchantId) (importId : String)

/-- One insert, over a committed store. -/
def insert (record : FinancialRecord) (tx : BatchTransaction) (store : RecordStore) :
    Option BatchTransaction :=
  (insertRecord merchantId importId record (store.overlay tx.written)).map fun out => {
    records := tx.records ++ [record]
    accepted := tx.accepted + out.1
    written := out.2.since store }

/-- The inserts of some records, one after the other, while the store stays as it is. -/
def insertAll (records : List FinancialRecord) (tx : BatchTransaction) (store : RecordStore) :
    Option BatchTransaction :=
  records.foldlM (fun (tx : BatchTransaction) r => tx.insert merchantId importId r store) tx

/-- The counts of a batch. -/
def counts (tx : BatchTransaction) : InsertCounts := ⟨tx.accepted, tx.records.length - tx.accepted⟩

/-- The store with what the transaction has written, unless another transaction has taken a key
of it: there the database had made the insert wait. -/
def commit (tx : BatchTransaction) (store : RecordStore) : Option RecordStore :=
  if store.Apart tx.written then some (store.overlay tx.written) else none

variable {merchantId importId} {r : FinancialRecord} {tx tx' : BatchTransaction}
  {store : RecordStore}

/-- **All that a statement does**: it adds the record's identity to what is written, or it adds
nothing because the identity is there or the parent is not. -/
theorem insert_cases (h : tx.insert merchantId importId r store = some tx') :
    tx'.records = tx.records ++ [r] ∧
      ((∀ k, tx'.written.keys k = tx.written.keys k) ∧
          ((store.overlay tx.written).Held merchantId r ∨
            ¬ (store.overlay tx.written).ParentStored merchantId r) ∨
        ∀ k, tx'.written.keys k =
          if k = r.kind then tx.written.keys k ++ [r.sourceKey merchantId]
          else tx.written.keys k) := by
  obtain ⟨⟨n, seen⟩, hins, rfl⟩ := Option.map_eq_some_iff.1 h
  refine ⟨rfl, ?_⟩
  dsimp only
  rcases insertRecord_keys hins with ⟨-, rfl, hwhy⟩ | ⟨-, hkeys⟩
  · exact .inl ⟨fun k => by rw [RecordStore.since_overlay], hwhy⟩
  · refine .inr fun k => ?_
    rw [RecordStore.keys_since, hkeys]
    split
    · rw [RecordStore.keys_overlay, List.append_assoc, List.drop_left]
    · rw [RecordStore.keys_overlay, List.drop_left]

theorem insert_subset (h : tx.insert merchantId importId r store = some tx') {kind : RecordKind}
    {k : SourceKey} (hk : k ∈ tx.written.keys kind) : k ∈ tx'.written.keys kind := by
  rcases (insert_cases h).2 with ⟨hsame, -⟩ | hnew
  · rw [hsame]
    exact hk
  · rw [hnew]
    split
    · exact List.mem_append_left _ hk
    · exact hk

/-- The only reference a statement makes resolvable is one to its own record. -/
theorem insert_hasSource (h : tx.insert merchantId importId r store = some tx') {m : MerchantId}
    {p : RecordKind × String} (hp : tx'.written.HasSource m p) :
    tx.written.HasSource m p ∨ m = merchantId ∧ p = r.asParent := by
  obtain ⟨k, hk, hm, hid⟩ := hp
  rcases (insert_cases h).2 with ⟨hsame, -⟩ | hnew
  · rw [hsame] at hk
    exact .inl ⟨k, hk, hm, hid⟩
  · rw [hnew] at hk
    split at hk
    · rename_i hkind
      rcases List.mem_append.1 hk with hk | hk
      · exact .inl ⟨k, hk, hm, hid⟩
      · rw [List.mem_singleton] at hk
        subst hk
        exact .inr ⟨hm.symm, Prod.ext hkind hid.symm⟩
    · exact .inl ⟨k, hk, hm, hid⟩

/-- After its statement a record is written or committed, or its transaction has not written its
parent. -/
theorem insert_outcome (h : tx.insert merchantId importId r store = some tx') :
    tx'.written.Held merchantId r ∨ store.Held merchantId r ∨
      ∃ p ∈ r.requiredParent, ¬ tx.written.HasSource merchantId p := by
  rcases (insert_cases h).2 with ⟨hsame, hheld | horphan⟩ | hnew
  · rcases RecordStore.held_overlay.1 hheld with hheld | hheld
    · exact .inr (.inl hheld)
    · left
      rw [RecordStore.Held, hsame]
      exact hheld
  · right
    right
    by_contra hall
    refine horphan fun p hp => RecordStore.hasSource_overlay.2 (.inr ?_)
    by_contra hmissing
    exact hall ⟨p, hp, hmissing⟩
  · left
    rw [RecordStore.Held, hnew, if_pos rfl]
    simp

end BatchTransaction

/-! ## An undisturbed transaction -/

/-- What is written to a table comes after what is committed. -/
structure Overlays {ρ : Type} (T : Table RecordStore ρ SourceKey) (kind : RecordKind) : Prop
    extends HoldsKind T kind where
  rows : ∀ store written : RecordStore,
    T.rows (store.overlay written) = T.rows store ++ T.rows written
  set : ∀ (store written : RecordStore) rows,
    T.set (T.rows store ++ rows) (store.overlay written) = store.overlay (T.set rows written)
  ids : ∀ store : RecordStore, store.ids kind = (T.rows store).map T.pk
  otherIds : ∀ rows store k, k ≠ kind → (T.set rows store).ids k = store.ids k

theorem overlays_orders : Overlays ordersTable .order :=
  ⟨holdsKind_orders, fun _ _ => rfl, fun _ _ _ => rfl, fun _ => rfl,
    fun _ _ k hk => by cases k <;> trivial⟩

theorem overlays_payments : Overlays paymentsTable .payment :=
  ⟨holdsKind_payments, fun _ _ => rfl, fun _ _ _ => rfl, fun _ => rfl,
    fun _ _ k hk => by cases k <;> trivial⟩

theorem overlays_settlements : Overlays settlementsTable .settlement :=
  ⟨holdsKind_settlements, fun _ _ => rfl, fun _ _ _ => rfl, fun _ => rfl,
    fun _ _ k hk => by cases k <;> trivial⟩

theorem overlays_settlementLines : Overlays settlementLinesTable .settlementLine :=
  ⟨holdsKind_settlementLines, fun _ _ => rfl, fun _ _ _ => rfl, fun _ => rfl,
    fun _ _ k hk => by cases k <;> trivial⟩

theorem overlays_feeLines : Overlays feeLinesTable .feeLine :=
  ⟨holdsKind_feeLines, fun _ _ => rfl, fun _ _ _ => rfl, fun _ => rfl,
    fun _ _ k hk => by cases k <;> trivial⟩

theorem overlays_taxLines : Overlays taxLinesTable .taxLine :=
  ⟨holdsKind_taxLines, fun _ _ => rfl, fun _ _ _ => rfl, fun _ => rfl,
    fun _ _ k hk => by cases k <;> trivial⟩

theorem overlays_refunds : Overlays refundsTable .refund :=
  ⟨holdsKind_refunds, fun _ _ => rfl, fun _ _ _ => rfl, fun _ => rfl,
    fun _ _ k hk => by cases k <;> trivial⟩

theorem overlays_adjustments : Overlays adjustmentsTable .adjustment :=
  ⟨holdsKind_adjustments, fun _ _ => rfl, fun _ _ _ => rfl, fun _ => rfl,
    fun _ _ k hk => by cases k <;> trivial⟩

theorem overlays_bankCredits : Overlays bankCreditsTable .bankCredit :=
  ⟨holdsKind_bankCredits, fun _ _ => rfl, fun _ _ _ => rfl, fun _ => rfl,
    fun _ _ k hk => by cases k <;> trivial⟩

theorem overlays_ledgerEntries : Overlays ledgerEntriesTable .ledgerEntry :=
  ⟨holdsKind_ledgerEntries, fun _ _ => rfl, fun _ _ _ => rfl, fun _ => rfl,
    fun _ _ k hk => by cases k <;> trivial⟩

section Undisturbed

variable {merchantId : MerchantId} {importId : String} {store written seen : RecordStore} {n : Nat}

/-- An insert over a store writes after it, and nothing that clashes with it. -/
theorem Overlays.insert {ρ : Type} {T : Table RecordStore ρ SourceKey} {kind : RecordKind}
    {row : ρ} (hT : Overlays T kind) (hapart : store.Apart written)
    (h : T.insert row (store.overlay written) = some (n, seen)) :
    ∃ written', seen = store.overlay written' ∧ store.Apart written' := by
  obtain ⟨table, hins, rfl⟩ := Table.insert_eq_some.1 h
  rw [hT.rows] at hins
  rcases insertNew_cases hins with ⟨-, rfl, -⟩ | ⟨-, rfl, hkey, hpk⟩
  · exact ⟨_, hT.set store written _, by rwa [hT.set_rows]⟩
  · rw [List.append_assoc]
    refine ⟨_, hT.set store written _, fun k hk => ?_⟩
    obtain ⟨hkeys, hids⟩ := hapart k hk
    by_cases hkind : k = kind
    · subst hkind
      rw [hT.keys, hT.keys] at hkeys
      rw [hT.ids, hT.ids] at hids
      rw [hT.keys, hT.keys, hT.ids, hT.ids, hT.rows_set]
      simp only [List.map_append, List.map_cons, List.map_nil, List.mem_append,
        List.mem_singleton]
      refine ⟨?_, ?_⟩
      · rintro key (hold | rfl)
        · exact hkeys key hold
        · intro hmem
          obtain ⟨r, hr, hsame⟩ := List.mem_map.1 hmem
          exact hkey r (List.mem_append_left _ hr) hsame
      · rintro id (hold | rfl)
        · exact hids id hold
        · intro hmem
          obtain ⟨r, hr, hsame⟩ := List.mem_map.1 hmem
          exact hpk r (List.mem_append_left _ hr) hsame
    · rw [hT.other _ _ k hkind, hT.otherIds _ _ k hkind]
      exact ⟨hkeys, hids⟩

theorem insertRecord_overlay {r : FinancialRecord} (hapart : store.Apart written)
    (h : insertRecord merchantId importId r (store.overlay written) = some (n, seen)) :
    ∃ written', seen = store.overlay written' ∧ store.Apart written' := by
  cases r with
  | order r => exact overlays_orders.insert hapart h
  | payment r => exact overlays_payments.insert hapart h
  | settlement r => exact overlays_settlements.insert hapart h
  | feeLine r => exact overlays_feeLines.insert hapart h
  | taxLine r => exact overlays_taxLines.insert hapart h
  | adjustment r => exact overlays_adjustments.insert hapart h
  | bankCredit r => exact overlays_bankCredits.insert hapart h
  | ledgerEntry r => exact overlays_ledgerEntries.insert hapart h
  | settlementLine r =>
      simp only [insertRecord, insertSettlementLine] at h
      split at h
      · cases h
        exact ⟨written, rfl, hapart⟩
      · exact overlays_settlementLines.insert hapart h
  | refund r =>
      simp only [insertRecord, insertRefund] at h
      split at h
      · cases h
        exact ⟨written, rfl, hapart⟩
      · exact overlays_refunds.insert hapart h

/-- The loop of the inserts is the loop over the store, with what is written over it. -/
theorem insertAll_commit (records : List FinancialRecord) :
    ∀ tx : BatchTransaction, store.Apart tx.written →
      (tx.insertAll merchantId importId records store).bind
          (fun tx' => (tx'.commit store).map fun store' => (tx'.counts, store')) =
        (records.foldlM (insertStep merchantId importId)
          (tx.accepted, store.overlay tx.written)).map fun out =>
            (⟨out.1, (tx.records.length + records.length : Nat) - out.1⟩, out.2) := by
  induction records with
  | nil =>
      intro tx hapart
      simp [BatchTransaction.insertAll, BatchTransaction.commit, BatchTransaction.counts, hapart]
  | cons r records ih =>
      intro tx hapart
      rw [BatchTransaction.insertAll, List.foldlM_cons, List.foldlM_cons]
      cases hins : insertRecord merchantId importId r (store.overlay tx.written) with
      | none => simp [BatchTransaction.insert, insertStep, hins]
      | some out =>
          obtain ⟨written', hseen, hapart'⟩ := insertRecord_overlay hapart hins
          have hrest := ih ⟨tx.records ++ [r], tx.accepted + out.1, written'⟩ hapart'
          have hlength : (tx.records ++ [r]).length + records.length =
              tx.records.length + (r :: records).length := by
            simp only [List.length_append, List.length_cons, List.length_nil]
            omega
          rw [hlength] at hrest
          simpa [BatchTransaction.insertAll, BatchTransaction.insert, insertStep, hins, hseen]
            using hrest

/-- **While nobody else commits, the statements of a batch come to `insertRecords`.** -/
theorem transaction_eq_insertRecords (records : List FinancialRecord) (store : RecordStore) :
    (BatchTransaction.insertAll merchantId importId (inInsertOrder records) {} store).bind
        (fun tx => (tx.commit store).map fun store' => (tx.counts, store')) =
      insertRecords merchantId importId records store := by
  rw [insertAll_commit _ _ (RecordStore.apart_empty store), insertRecords,
    RecordStore.overlay_empty]
  simp [(inInsertOrder_perm records).length_eq]

end Undisturbed

end SettlementOps
