import SettlementOps.Relational.Batch
import SettlementOps.Store.Rows
import SettlementOps.Store.UnitLoader

/-!
# The order of a batch

A batch is inserted kind by kind, parents before children, and no record refers to one of its
own kind.  So two records of one kind may be inserted in either order: what each resolves is
the same, and when their identities differ neither is in the other's way.  What the later
kinds resolve is the same too, unless a reference matches both.

* `OneParent` — each reference of a batch matches one source identity at most.
* `SameTables` — the same rows in some order, and the same for every reference of the batch.
* `insertStep_comm` — two records of one kind commute.
* `insertRecords_perm` — a batch stores the same in every order, all references resolved.
-/

namespace SettlementOps

open Relational

/-- A source identity a reference of a batch matches: one stored or in the batch. -/
def Matches (m : MerchantId) (store : RecordStore) (records : List FinancialRecord)
    (k : RecordKind) (n : String) (key : SourceKey) : Prop :=
  (key ∈ store.keys k ∨ ∃ x ∈ records, x.kind = k ∧ x.sourceKey m = key) ∧
    key.merchantId = m ∧ key.sourceRecordId = n

/-- Each reference of a batch matches one source identity at most. -/
def OneParent (m : MerchantId) (store : RecordStore) (records : List FinancialRecord) : Prop :=
  ∀ r ∈ records, ∀ k, ∀ n ∈ r.references k, ∀ a b,
    Matches m store records k n a → Matches m store records k n b → a = b

/-- The same rows in some order, and the same for every reference of a batch. -/
structure SameTables (m : MerchantId) (records : List FinancialRecord)
    (store store' : RecordStore) : Prop where
  rows : ∀ k, (store.rowsOf k).Perm (store'.rowsOf k)
  links : ∀ r ∈ records, ∀ k, ∀ n ∈ r.references k, store.links m k n = store'.links m k n

section Insert

variable {m : MerchantId} {importId : String} {records : List FinancialRecord}

theorem SameTables.refl (store : RecordStore) : SameTables m records store store :=
  ⟨fun _ => .refl _, fun _ _ _ _ _ => rfl⟩

theorem SameTables.trans {store store' store'' : RecordStore}
    (h : SameTables m records store store') (h' : SameTables m records store' store'') :
    SameTables m records store store'' :=
  ⟨fun k => (h.rows k).trans (h'.rows k),
    fun r hr k n hn => (h.links r hr k n hn).trans (h'.links r hr k n hn)⟩

/-- What a reference to a row resolves to. -/
def StoredRow.link (m : MerchantId) (row : StoredRow) (k : RecordKind) (n : String) :
    Option String :=
  if k = row.kind ∧ row.base.merchantId = m ∧ row.base.sourceRecordId = n then some row.base.id
  else none

/-- A reference resolves to a row that was there, or else to the one that is added. -/
theorem links_push (store : RecordStore) (row : StoredRow) (k : RecordKind) (n : String) :
    (store.push row).links m k n = (store.links m k n).or (row.link m k n) := by
  unfold RecordStore.links StoredRow.link
  rw [RecordStore.rowsOf_push]
  by_cases hk : k = row.kind
  · rw [if_pos hk, List.find?_append, Option.map_or]
    by_cases hrow : row.base.merchantId = m ∧ row.base.sourceRecordId = n
    · simp [hk, hrow]
    · simp [hk, hrow]
  · simp [hk]

/-- The same row may be added to the same tables. -/
theorem SameTables.push {store store' : RecordStore} (h : SameTables m records store store')
    (row : StoredRow) : SameTables m records (store.push row) (store'.push row) where
  rows k := by
    rw [RecordStore.rowsOf_push, RecordStore.rowsOf_push]
    split
    · exact (h.rows k).append_right _
    · exact h.rows k
  links r hr k n hn := by
    rw [links_push, links_push, h.links r hr k n hn]

/-- Rows of one kind may be added in either order when no reference matches both. -/
theorem sameTables_push_push (store : RecordStore) {a b : StoredRow} (hkind : a.kind = b.kind)
    (hone : ∀ r ∈ records, ∀ k, ∀ n ∈ r.references k,
      a.link m k n = none ∨ b.link m k n = none) :
    SameTables m records ((store.push a).push b) ((store.push b).push a) where
  rows k := by
    simp only [RecordStore.rowsOf_push, hkind]
    split
    · simpa using (List.Perm.swap b a []).append_left _
    · exact .refl _
  links r hr k n hn := by
    rw [links_push, links_push, links_push, links_push]
    rcases hone r hr k n hn with hnone | hnone
    · rw [hnone, Option.or_none, Option.or_none]
    · rw [hnone, Option.or_none, Option.or_none]

/-- Two runs that have inserted as many rows into the same tables. -/
def SameRun (m : MerchantId) (records : List FinancialRecord) (st st' : Nat × RecordStore) :
    Prop :=
  st.1 = st'.1 ∧ SameTables m records st.2 st'.2

theorem SameRun.refl (st : Nat × RecordStore) : SameRun m records st st := ⟨rfl, .refl _⟩

theorem SameRun.trans {st st' st'' : Nat × RecordStore} (h : SameRun m records st st')
    (h' : SameRun m records st' st'') : SameRun m records st st'' :=
  ⟨h.1.trans h'.1, h.2.trans h'.2⟩

/-! ## Inserting rows -/

/-- The identity of a row is there. -/
def RecordStore.hasKey (store : RecordStore) (row : StoredRow) : Bool :=
  (store.rowsOf row.kind).any fun r => r.key = row.key

/-- The id of a row is taken. -/
def RecordStore.hasId (store : RecordStore) (row : StoredRow) : Bool :=
  (store.rowsOf row.kind).any fun r => r.base.id = row.base.id

theorem hasKey_push (store : RecordStore) {a b : StoredRow} (hkind : a.kind = b.kind)
    (hkey : a.key ≠ b.key) : (store.push a).hasKey b = store.hasKey b := by
  simp [RecordStore.hasKey, RecordStore.rowsOf_push, hkind, hkey]

theorem hasId_push (store : RecordStore) {a b : StoredRow} (hkind : a.kind = b.kind) :
    (store.push a).hasId b = (store.hasId b || decide (a.base.id = b.base.id)) := by
  simp [RecordStore.hasId, RecordStore.rowsOf_push, hkind]

/-- One round of the loop, once the row of its record is known. -/
def insertRow (st : Nat × RecordStore) (row : StoredRow) : Option (Nat × RecordStore) :=
  if st.2.hasKey row then some st
  else if st.2.hasId row then none
  else some (st.1 + 1, st.2.push row)

/-- A round inserts the row of its record, if there is one. -/
theorem insertStep_eq (m : MerchantId) (importId : String) (st : Nat × RecordStore)
    (r : FinancialRecord) :
    insertStep m importId st r =
      (r.row m importId (st.2.links m)).elim (some st) (insertRow st) := by
  unfold insertStep
  rw [insertRecord_eq]
  cases r.row m importId (st.2.links m) with
  | none => rfl
  | some row =>
      dsimp only [Option.elim]
      rw [StoredRow.insert_eq]
      unfold insertRow RecordStore.hasKey RecordStore.hasId
      split
      · rfl
      split
      · rfl
      · rfl

/-- The same row does the same to the same tables. -/
theorem SameRun.insertRow {st st' : Nat × RecordStore} (h : SameRun m records st st')
    (row : StoredRow) :
    Option.Rel (SameRun m records) (insertRow st row) (insertRow st' row) := by
  obtain ⟨hn, htables⟩ := h
  have hkey : st.2.hasKey row = st'.2.hasKey row := (htables.rows _).any_eq
  have hid : st.2.hasId row = st'.2.hasId row := (htables.rows _).any_eq
  unfold SettlementOps.insertRow
  rw [hkey, hid]
  split
  · exact .some ⟨hn, htables⟩
  split
  · exact .none
  · exact .some ⟨congrArg (· + 1) hn, htables.push row⟩

/-- A row whose identity is there adds nothing, before another row and after it. -/
theorem insertRow_bind_of_hasKey (st : Nat × RecordStore) {a b : StoredRow}
    (hkind : a.kind = b.kind) (hkey : a.key ≠ b.key) (ha : st.2.hasKey a) :
    ((insertRow st a).bind fun st => insertRow st b) = insertRow st b ∧
      ((insertRow st b).bind fun st => insertRow st a) = insertRow st b := by
  have hfirst : insertRow st a = some st := if_pos ha
  refine ⟨by rw [hfirst, Option.bind_some], ?_⟩
  have hlater : insertRow (st.1 + 1, st.2.push b) a = some (st.1 + 1, st.2.push b) :=
    if_pos (by rw [hasKey_push st.2 hkind.symm hkey.symm, ha])
  rw [insertRow]
  split
  · exact hfirst
  split
  · rfl
  · exact hlater

/-- Of two new rows an id that is taken, or that they share, fails the batch. -/
theorem insertRow_bind_of_new (st : Nat × RecordStore) {a b : StoredRow}
    (hkind : a.kind = b.kind) (hkey : a.key ≠ b.key) (ha : ¬ st.2.hasKey a)
    (hb : ¬ st.2.hasKey b) :
    ((insertRow st a).bind fun st => insertRow st b) =
      if st.2.hasId a ∨ st.2.hasId b ∨ a.base.id = b.base.id then none
      else some (st.1 + 1 + 1, (st.2.push a).push b) := by
  rw [insertRow, if_neg ha]
  by_cases hid : st.2.hasId a
  · rw [if_pos hid, if_pos (.inl hid)]
    rfl
  · rw [if_neg hid, Option.bind_some, insertRow, hasKey_push st.2 hkind hkey, if_neg hb,
      hasId_push st.2 hkind]
    simp [hid]

/-- **Two rows of one kind** may be inserted in either order. -/
theorem insertRow_comm (st : Nat × RecordStore) {a b : StoredRow} (hkind : a.kind = b.kind)
    (hkey : a.key ≠ b.key)
    (hone : ∀ r ∈ records, ∀ k, ∀ n ∈ r.references k,
      a.link m k n = none ∨ b.link m k n = none) :
    Option.Rel (SameRun m records) ((insertRow st a).bind fun st => insertRow st b)
      ((insertRow st b).bind fun st => insertRow st a) := by
  by_cases ha : st.2.hasKey a
  · obtain ⟨hab, hba⟩ := insertRow_bind_of_hasKey st hkind hkey ha
    rw [hab, hba]
    exact rel_refl SameRun.refl _
  by_cases hb : st.2.hasKey b
  · obtain ⟨hba, hab⟩ := insertRow_bind_of_hasKey st hkind.symm hkey.symm hb
    rw [hab, hba]
    exact rel_refl SameRun.refl _
  rw [insertRow_bind_of_new st hkind hkey ha hb,
    insertRow_bind_of_new st hkind.symm hkey.symm hb ha]
  by_cases hid : st.2.hasId a ∨ st.2.hasId b ∨ a.base.id = b.base.id
  · rw [if_pos hid, if_pos (by rw [eq_comm (a := b.base.id)]; tauto)]
    exact .none
  · rw [if_neg hid, if_neg (by rw [eq_comm (a := b.base.id)]; tauto)]
    exact .some ⟨rfl, sameTables_push_push st.2 hkind hone⟩

/-! ## Inserting records -/

theorem SameRun.insertStep {st st' : Nat × RecordStore} (h : SameRun m records st st')
    {r : FinancialRecord} (hr : r ∈ records) :
    Option.Rel (SameRun m records) (insertStep m importId st r) (insertStep m importId st' r) := by
  have hrow : r.row m importId (st.2.links m) = r.row m importId (st'.2.links m) := by
    refine row_congr fun k => ?_
    cases hk : r.references k with
    | none => rfl
    | some n => exact h.2.links r hr k n hk
  rw [insertStep_eq, insertStep_eq, hrow]
  cases r.row m importId (st'.2.links m) with
  | none => exact .some h
  | some row => exact h.insertRow row

/-- What a record resolves does not change when another of its kind is inserted. -/
theorem insertStep_bind (st : Nat × RecordStore) {r x : FinancialRecord} (hkind : r.kind = x.kind) :
    ((insertStep m importId st r).bind fun st => insertStep m importId st x) =
      ((r.row m importId (st.2.links m)).elim (some st) (insertRow st)).bind fun st' =>
        (x.row m importId (st.2.links m)).elim (some st') (insertRow st') := by
  rw [← insertStep_eq]
  refine Option.bind_congr fun st' hstep => ?_
  obtain ⟨⟨_, store'⟩, hins, rfl⟩ := Option.map_eq_some_iff.1 hstep
  rw [insertStep_eq]
  congr 1
  refine row_congr fun k => ?_
  cases hk : x.references k with
  | none => rfl
  | some n =>
      have hne : k ≠ r.kind := by
        rintro rfl
        rw [hkind, references_self] at hk
        cases hk
      rw [insertRecord_links hins hne]

/-- A reference that resolves to the row of a record matches the record. -/
theorem matches_of_link {store : RecordStore} {links : Links} {r : FinancialRecord}
    {row : StoredRow} {k : RecordKind} {n : String} (hr : r ∈ records)
    (hrow : r.row m importId links = some row) (h : row.link m k n ≠ none) :
    Matches m store records k n (r.sourceKey m) := by
  obtain ⟨⟨hk, -, hn⟩, -⟩ := ite_ne_right_iff.1 h
  rw [row_base hrow] at hn
  exact ⟨.inr ⟨r, hr, (row_kind hrow).symm.trans hk.symm, rfl⟩, rfl, hn⟩

/-- **Two records of one kind** may be inserted in either order. -/
theorem insertStep_comm {store : RecordStore} (hparent : OneParent m store records)
    {r x : FinancialRecord} (hr : r ∈ records) (hx : x ∈ records) (hkind : r.kind = x.kind)
    (hid : r.identity m ≠ x.identity m) (st : Nat × RecordStore) :
    Option.Rel (SameRun m records)
      ((insertStep m importId st r).bind fun st => insertStep m importId st x)
      ((insertStep m importId st x).bind fun st => insertStep m importId st r) := by
  have hkey : r.sourceKey m ≠ x.sourceKey m := fun h => hid (Prod.ext hkind h)
  rw [insertStep_bind st hkind, insertStep_bind st hkind.symm]
  cases ha : r.row m importId (st.2.links m) with
  | none => simpa using rel_refl SameRun.refl _
  | some a =>
      cases hb : x.row m importId (st.2.links m) with
      | none => simpa using rel_refl SameRun.refl _
      | some b =>
          refine insertRow_comm st ?_ ?_ fun y hy k n hn => ?_
          · rw [row_kind ha, row_kind hb, hkind]
          · rw [row_key ha, row_key hb]
            exact hkey
          · by_contra hboth
            rw [not_or] at hboth
            exact hkey (hparent y hy k n hn _ _ (matches_of_link hr ha hboth.1)
              (matches_of_link hx hb hboth.2))

end Insert

/-! ## The batch -/

/-- Two outcomes of a batch with the same counts and the same rows, in some order. -/
structure SameOutcome (out out' : InsertCounts × RecordStore) : Prop where
  counts : out.1 = out'.1
  rows : ∀ k, (out.2.rowsOf k).Perm (out'.2.rowsOf k)

section Batch

variable {m : MerchantId} {importId : String} {records records' : List FinancialRecord}
  {store : RecordStore}

/-- The passes over some kinds insert the same in every order of the batch. -/
theorem foldlM_kinds (hperm : records.Perm records')
    (hdistinct : (records.map (·.identity m)).Nodup) (hparent : OneParent m store records)
    (kinds : List RecordKind) :
    ∀ {st st' : Nat × RecordStore}, SameRun m records st st' →
      Option.Rel (SameRun m records)
        ((kinds.flatMap fun k => records.filter fun r => r.kind = k).foldlM
          (insertStep m importId) st)
        ((kinds.flatMap fun k => records'.filter fun r => r.kind = k).foldlM
          (insertStep m importId) st') := by
  induction kinds with
  | nil => exact fun h => .some h
  | cons k kinds ih =>
      intro st st' h
      rw [List.flatMap_cons, List.flatMap_cons, List.foldlM_append, List.foldlM_append]
      refine rel_bind (foldlM_perm (P := fun r => r ∈ records ∧ r.kind = k)
        (fun hr _ _ h => h.insertStep hr.1) .refl (fun _ _ _ => .trans) ?_ (hperm.filter _) ?_ h) ih
      · intro r x hr hx hne
        refine insertStep_comm hparent hr.1 hx.1 (hr.2.trans hx.2.symm) fun hid => hne ?_
        exact List.inj_on_of_nodup_map hdistinct hr.1 hx.1 hid
      · intro r hr
        simpa using hr

/-- A batch and any other order of it have one outcome. -/
theorem insertRecords_rel (hperm : records.Perm records')
    (hdistinct : (records.map (·.identity m)).Nodup) (hparent : OneParent m store records) :
    Option.Rel SameOutcome (insertRecords m importId records store)
      (insertRecords m importId records' store) := by
  refine rel_map (foldlM_kinds hperm hdistinct hparent INSERT_ORDER (.refl _)) ?_
  rintro ⟨n, after⟩ ⟨_, after'⟩ ⟨rfl, htables⟩
  exact ⟨by rw [hperm.length_eq], htables.rows⟩

end Batch

/-- **The order of a batch does not matter.**  When the source identities of the records are
distinct, each reference matches one at most and the generated ids are new, a batch and any
other order of it are both inserted, with the same counts and the same rows, links included;
for every pass inserts the parents of the later ones, and each new record has the row in which
its references are resolved as the store after the batch resolves them. -/
theorem insertRecords_perm (m : MerchantId) (importId : String) (store : RecordStore)
    (records records' : List FinancialRecord) (hperm : records.Perm records')
    (hids : FreshIds store records) (hdistinct : (records.map (·.identity m)).Nodup)
    (hparent : OneParent m store records) :
    ∃ counts after after', insertRecords m importId records store = some (counts, after) ∧
      insertRecords m importId records' store = some (counts, after') ∧
      ∀ k, (after.rowsOf k).Perm (after'.rowsOf k) ∧
        after.rowsOf k = store.rowsOf k ++
          (records.filter fun r => r.kind = k ∧ ¬ store.Held m r).filterMap
            fun r => r.row m importId (after.links m) := by
  obtain ⟨counts, after, hout⟩ := insertRecords_commits m importId hids
  have hrel : Option.Rel SameOutcome (insertRecords m importId records store)
      (insertRecords m importId records' store) := insertRecords_rel hperm hdistinct hparent
  rw [hout] at hrel
  cases hout' : insertRecords m importId records' store with
  | none =>
      rw [hout'] at hrel
      cases hrel
  | some out' =>
      rw [hout'] at hrel
      cases hrel with
      | some hsame =>
          obtain ⟨counts', after'⟩ := out'
          obtain rfl : counts = counts' := hsame.counts
          refine ⟨counts, after, after', hout, rfl, fun k => ⟨hsame.rows k, ?_⟩⟩
          obtain ⟨⟨n, _⟩, hfold, heq⟩ := Option.map_eq_some_iff.1 hout
          cases heq
          exact inInsertOrder_rows hdistinct hfold k

/-- A reference into a batch with distinct source ids, and into no store, has one parent. -/
theorem oneParent_of_nodup {m : MerchantId} {records : List FinancialRecord}
    (h : (records.map (·.asParent)).Nodup) : OneParent m {} records := by
  intro r _ k n _ a b ⟨ha, _, han⟩ ⟨hb, _, hbn⟩
  have hempty : ({} : RecordStore).keys k = [] := by cases k <;> rfl
  rw [hempty] at ha hb
  obtain ⟨x, hx, hxk, rfl⟩ := ha.resolve_left List.not_mem_nil
  obtain ⟨y, hy, hyk, rfl⟩ := hb.resolve_left List.not_mem_nil
  have hsame : x.asParent = y.asParent := Prod.ext (hxk.trans hyk.symm) (han.trans hbn.symm)
  rw [List.inj_on_of_nodup_map h hx hy hsame]

/-- The sample import is stored in full, also when it comes children first. -/
theorem insertRecords_perm_sampleImport :
    ∃ after, insertRecords "m-1" "import-1" sampleImport {} = some (⟨6, 0⟩, sampleStore) ∧
      insertRecords "m-1" "import-1" sampleImport.reverse {} = some (⟨6, 0⟩, after) ∧
      (∀ k, (sampleStore.rowsOf k).Perm (after.rowsOf k)) ∧
      sampleStore.payments = [samplePaymentRow] ∧
      sampleStore.settlementLines.map (fun l => (l.settlementId, l.paymentId)) =
        [("set-1", some "pay-1")] := by
  have hstored : insertRecords "m-1" "import-1" sampleImport {} =
      some (⟨6, 0⟩, sampleStore) := by decide
  obtain ⟨counts, after, after', h, h', hrows⟩ :=
    insertRecords_perm "m-1" "import-1" {} sampleImport sampleImport.reverse
      (List.reverse_perm _).symm ⟨by decide, by decide⟩ (by decide)
      (oneParent_of_nodup (by decide))
  rw [hstored, Option.some.injEq, Prod.mk.injEq] at h
  obtain ⟨rfl, rfl⟩ := h
  exact ⟨after', hstored, h', fun k => (hrows k).1, by decide, by decide⟩

end SettlementOps
