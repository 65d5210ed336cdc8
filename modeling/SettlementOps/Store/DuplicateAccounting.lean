import SettlementOps.Relational.Batch
import SettlementOps.Store.Rows
import SettlementOps.Store.UnitLoader

/-!
# Duplicate accounting

The duplicates of a batch are the records whose insert affected no row.  An insert affects no
row when the source identity is there, and also when the row is selected from a parent that is
not: a refund of no payment and a line of no settlement are lost and counted as duplicates.

* `Repeats` — the identity of a record is stored or came earlier in the batch.
* `rowsAffected` — what the insert of a record affects at its place in the batch.
* `DuplicatesAccounted` — the duplicates are the repeats, and every record is held.
* `duplicates_accounted_iff` — they are, when no new record lacks the parent it requires.
-/

namespace SettlementOps

open Relational

/-- The identities a store holds a row for. -/
def RecordStore.holds (store : RecordStore) (x : RecordKind × SourceKey) : Bool :=
  x.2 ∈ store.keys x.1

/-- The identity of a record is stored or came earlier in the batch. -/
def Repeats (m : MerchantId) (before : RecordStore) (earlier : List FinancialRecord)
    (r : FinancialRecord) : Prop :=
  before.Held m r ∨ r.identity m ∈ earlier.map (·.identity m)

/-- The records inserted before a record of a kind that comes after `earlier` in the batch. -/
def insertedBefore (records earlier : List FinancialRecord) (kind : RecordKind) :
    List FinancialRecord :=
  ((INSERT_ORDER.takeWhile (· ≠ kind)).flatMap fun k => records.filter fun r => r.kind = k) ++
    earlier.filter fun r => r.kind = kind

/-- The rows the insert of a record affects, at its place in the batch. -/
def rowsAffected (m : MerchantId) (importId : String) (before : RecordStore)
    (records earlier : List FinancialRecord) (r : FinancialRecord) : Option Nat :=
  ((insertedBefore records earlier r.kind).foldlM (insertStep m importId) (0, before)).bind
    fun st => (insertRecord m importId r st.2).map (·.1)

/-- The records counted as duplicates are those that repeat an identity, and every record of
the batch is held; so none was lost for want of its parent. -/
structure DuplicatesAccounted (m : MerchantId) (importId : String) (before : RecordStore)
    (records : List FinancialRecord) (counts : InsertCounts) (after : RecordStore) : Prop where
  exactly : ∀ earlier r later, records = earlier ++ r :: later →
    (rowsAffected m importId before records earlier r = some 0 ↔ Repeats m before earlier r)
  counted : counts.duplicates = countRepeats before.holds (records.map (·.identity m))
  held : ∀ r ∈ records, after.Held m r

/-! ## The place of a record -/

section Place

variable {m : MerchantId} {before : RecordStore} {records earlier later : List FinancialRecord}
  {r : FinancialRecord}

/-- What a record repeats is of its own kind. -/
theorem repeats_congr {earlier' : List FinancialRecord}
    (h : (earlier.filter fun x => x.kind = r.kind) = earlier'.filter fun x => x.kind = r.kind) :
    Repeats m before earlier r ↔ Repeats m before earlier' r := by
  have hfilter (xs : List FinancialRecord) : r.identity m ∈ xs.map (·.identity m) ↔
      r.identity m ∈ (xs.filter fun x => x.kind = r.kind).map (·.identity m) := by
    simp only [List.mem_map, List.mem_filter, decide_eq_true_eq]
    constructor
    · rintro ⟨x, hx, hid⟩
      exact ⟨x, ⟨hx, congrArg Prod.fst hid⟩, hid⟩
    · rintro ⟨x, ⟨hx, -⟩, hid⟩
      exact ⟨x, hx, hid⟩
  rw [Repeats, Repeats, hfilter earlier, hfilter earlier', h]

theorem insertOrder_split (kind : RecordKind) : ∃ rest,
    INSERT_ORDER = INSERT_ORDER.takeWhile (· ≠ kind) ++ kind :: rest := by
  cases kind <;> exact ⟨_, rfl⟩

/-- A record of the batch is inserted after those of the kinds before its own and those of its
kind that came earlier. -/
theorem inInsertOrder_place (h : records = earlier ++ r :: later) : ∃ rest,
    inInsertOrder records = insertedBefore records earlier r.kind ++ r :: rest := by
  obtain ⟨kinds, hkinds⟩ := insertOrder_split r.kind
  have hkind : (records.filter fun x => x.kind = r.kind) =
      (earlier.filter fun x => x.kind = r.kind) ++
        r :: later.filter fun x => x.kind = r.kind := by
    rw [h, List.filter_append, List.filter_cons_of_pos (by simp)]
  have hflat : inInsertOrder records = _ := congrArg
    (fun ks => ks.flatMap fun k => records.filter fun x => x.kind = k) hkinds
  rw [List.flatMap_append, List.flatMap_cons, hkind, List.append_assoc, List.cons_append,
    ← List.append_assoc] at hflat
  exact ⟨_, hflat⟩

theorem filter_insertedBefore (records earlier : List FinancialRecord) (kind : RecordKind) :
    ((insertedBefore records earlier kind).filter fun x => x.kind = kind) =
      earlier.filter fun x => x.kind = kind := by
  unfold insertedBefore
  rw [List.filter_append, List.filter_filter, List.filter_eq_nil_iff.2]
  · simp
  · intro x hx
    obtain ⟨k, hk, hx⟩ := List.mem_flatMap.1 hx
    have hne := List.all_eq_true.1 List.all_takeWhile k hk
    simp only [List.mem_filter, decide_eq_true_eq] at hx hne ⊢
    rw [hx.2]
    exact hne

/-- What is inserted at a place came at one in the batch. -/
theorem place_of_inInsertOrder {first rest : List FinancialRecord}
    (h : inInsertOrder records = first ++ r :: rest) : ∃ earlier later,
    records = earlier ++ r :: later ∧
      (first.filter fun x => x.kind = r.kind) = earlier.filter fun x => x.kind = r.kind := by
  have hkind := filter_inInsertOrder records r.kind
  rw [h, List.filter_append, List.filter_cons_of_pos (by simp)] at hkind
  obtain ⟨xs, ys, rfl, hxs, hys⟩ := List.filter_eq_append_iff.1 hkind.symm
  obtain ⟨zs, later, rfl, hzs, -, -⟩ := List.filter_eq_cons_iff.1 hys
  refine ⟨xs ++ zs, later, by rw [List.append_assoc], ?_⟩
  rw [List.filter_append, hxs, List.filter_eq_nil_iff.2 hzs, List.append_nil]

end Place

/-! ## A batch whose new records have their parents -/

section Run

variable {m : MerchantId} {importId : String}

theorem held_iff {store : RecordStore} {r : FinancialRecord} :
    store.Held m r ↔ store.holds (r.identity m) = true :=
  decide_eq_true_iff.symm

theorem hasSource_iff {store : RecordStore} {p : RecordKind × String} :
    store.HasSource m p ↔
      ∃ k, store.holds (p.1, k) = true ∧ k.merchantId = m ∧ k.sourceRecordId = p.2 := by
  simp [RecordStore.HasSource, RecordStore.holds]

/-- No new record of a batch is inserted before the parent it requires. -/
def Backed (m : MerchantId) (before : RecordStore) (records : List FinancialRecord) : Prop :=
  ∀ first r rest, records = first ++ r :: rest → ¬ Repeats m before first r →
    ∀ p ∈ r.requiredParent, before.HasSource m p ∨ ∃ x ∈ first, x.asParent = p

/-- An insert that lacks no parent leaves its record held, and is counted when it is new. -/
theorem insertRecord_backed {r : FinancialRecord} {store store' : RecordStore} {n : Nat}
    (h : insertRecord m importId r store = some (n, store'))
    (hparent : ¬ store.Held m r → store.ParentStored m r) :
    n + (store.holds (r.identity m)).toNat = 1 ∧
      store'.holds = fun x => store.holds x || x = r.identity m := by
  rcases insertRecord_keys h with ⟨rfl, rfl, hstored⟩ | ⟨rfl, hkeys⟩
  · have hheld : store'.holds (r.identity m) = true :=
      held_iff.1 (hstored.elim id fun hnot => by_contra fun h => hnot (hparent h))
    refine ⟨by rw [hheld]; rfl, funext fun x => ?_⟩
    by_cases hx : x = r.identity m
    · rw [hx, hheld, Bool.true_or]
    · rw [decide_eq_false hx, Bool.or_false]
  · have hnew := insertRecord_count h
    have hheld : store.holds (r.identity m) = false := by
      rw [← Bool.not_eq_true, ← held_iff]
      intro hheld
      rw [if_neg fun h => h.2 hheld] at hnew
      cases hnew
    refine ⟨by rw [hheld]; rfl, funext fun x => ?_⟩
    simp only [RecordStore.holds, hkeys, FinancialRecord.identity, Prod.ext_iff]
    by_cases hkind : x.1 = r.kind
    · rw [if_pos hkind]
      simp [hkind]
    · rw [if_neg hkind]
      simp [hkind]

/-- The run after the first record of a backed batch is one of a backed batch. -/
theorem Backed.tail {r : FinancialRecord} {records : List FinancialRecord}
    {store store' : RecordStore} (h : Backed m store (r :: records))
    (hholds : store'.holds = fun x => store.holds x || x = r.identity m) :
    Backed m store' records := by
  intro first x rest hsplit hnew p hp
  have hholds (y : RecordKind × SourceKey) :
      store'.holds y = (store.holds y || decide (y = r.identity m)) := congrFun hholds y
  have hold : ¬ Repeats m store (r :: first) x := by
    rintro (hheld | hmem)
    · exact hnew (.inl (held_iff.2 (by rw [hholds, held_iff.1 hheld, Bool.true_or])))
    · rcases List.mem_cons.1 hmem with hid | hmem
      · exact hnew (.inl (held_iff.2 (by simp [hholds, hid])))
      · exact hnew (.inr hmem)
  have hsource : store'.HasSource m p ↔ store.HasSource m p ∨ r.asParent = p := by
    rw [hasSource_iff, hasSource_iff]
    simp only [hholds, Bool.or_eq_true, decide_eq_true_eq, FinancialRecord.identity, Prod.mk.injEq]
    constructor
    · rintro ⟨k, hk | ⟨hkind, rfl⟩, hm, hid⟩
      · exact .inl ⟨k, hk, hm, hid⟩
      · exact .inr (Prod.ext hkind.symm hid)
    · rintro (⟨k, hk, hm, hid⟩ | rfl)
      · exact ⟨k, .inl hk, hm, hid⟩
      · exact ⟨r.sourceKey m, .inr ⟨rfl, rfl⟩, rfl, rfl⟩
  rcases h (r :: first) x rest (by rw [hsplit]; rfl) hold p hp with hstored | ⟨y, hy, hyp⟩
  · exact .inl (hsource.2 (.inl hstored))
  · rcases List.mem_cons.1 hy with rfl | hy
    · exact .inl (hsource.2 (.inr hyp))
    · exact .inr ⟨y, hy, hyp⟩

/-- **A run of a backed batch** counts all but the repeats and holds every record. -/
theorem foldlM_backed {records : List FinancialRecord} :
    ∀ {n n' : Nat} {store store' : RecordStore}, Backed m store records →
      records.foldlM (insertStep m importId) (n, store) = some (n', store') →
      n' + countRepeats store.holds (records.map (·.identity m)) = n + records.length ∧
        ∀ x, store'.holds x = true ↔
          store.holds x = true ∨ x ∈ records.map (·.identity m) := by
  induction records with
  | nil =>
      intro n n' store store' _ h
      simp only [List.foldlM_nil] at h
      cases h
      exact ⟨rfl, by simp⟩
  | cons r records ih =>
      intro n n' store store' hbacked h
      rw [List.foldlM_cons] at h
      obtain ⟨⟨n₁, store₁⟩, hstep, hfold⟩ := Option.bind_eq_some_iff.1 h
      obtain ⟨⟨k, _⟩, hins, heq⟩ := Option.map_eq_some_iff.1 hstep
      cases heq
      dsimp only at hins
      have hparent : ¬ store.Held m r → store.ParentStored m r := by
        intro hnew p hp
        have hfirst := hbacked [] r records rfl
          (not_or.2 ⟨hnew, List.not_mem_nil⟩) p hp
        exact hfirst.elim id fun ⟨_, hx, _⟩ => absurd hx List.not_mem_nil
      obtain ⟨hcount, hholds⟩ := insertRecord_backed hins hparent
      obtain ⟨hcounts, hmem⟩ := ih (hbacked.tail hholds) hfold
      rw [hholds] at hcounts hmem
      refine ⟨?_, fun x => ?_⟩
      · rw [List.map_cons, countRepeats, List.length_cons]
        omega
      · rw [hmem x, List.map_cons, List.mem_cons, Bool.or_eq_true, decide_eq_true_eq, or_assoc]

end Run

/-! ## Duplicates of a batch -/

/-- Every record that is no repeat requires no parent, or one that is stored or in the batch. -/
def ParentsPresent (m : MerchantId) (before : RecordStore) (records : List FinancialRecord) :
    Prop :=
  ∀ earlier r later, records = earlier ++ r :: later → ¬ Repeats m before earlier r →
    ∀ p ∈ r.requiredParent, before.HasSource m p ∨ ∃ x ∈ records, x.asParent = p

section Batch

variable {m : MerchantId} {importId : String} {before after : RecordStore}
  {records : List FinancialRecord}

/-- The batch is inserted parents first. -/
theorem ParentsPresent.backed (h : ParentsPresent m before records) :
    Backed m before (inInsertOrder records) := by
  intro first r rest hplace hnew p hp
  obtain ⟨earlier, later, hsplit, hkind⟩ := place_of_inInsertOrder hplace
  rw [repeats_congr hkind] at hnew
  refine (h earlier r later hsplit hnew p hp).imp id ?_
  rintro ⟨x, hx, rfl⟩
  rw [← mem_inInsertOrder, hplace] at hx
  have hpairs := inInsertOrder_pairwise records
  rw [hplace, List.pairwise_append, List.pairwise_cons] at hpairs
  rcases List.mem_append.1 hx with hx | hx
  · exact ⟨x, hx, rfl⟩
  rcases List.mem_cons.1 hx with rfl | hx
  · have hself : parentKind x.kind = some x.kind := requiredParent_kind hp
    cases hkind : x.kind <;> rw [hkind] at hself <;> cases hself
  · exact absurd hp (hpairs.2.1.1 x hx)

/-- A committed batch has inserted each of its records at its place. -/
theorem exists_place {earlier later : List FinancialRecord} {r : FinancialRecord} {n : Nat}
    (hfold : (inInsertOrder records).foldlM (insertStep m importId) (0, before) =
      some (n, after))
    (hsplit : records = earlier ++ r :: later) :
    ∃ n₁ store k store', (insertedBefore records earlier r.kind).foldlM
        (insertStep m importId) (0, before) = some (n₁, store) ∧
      insertRecord m importId r store = some (k, store') := by
  obtain ⟨rest, hplace⟩ := inInsertOrder_place hsplit
  rw [hplace, List.foldlM_append] at hfold
  obtain ⟨⟨n₁, store⟩, hfirst, hrest⟩ := Option.bind_eq_some_iff.1 hfold
  rw [List.foldlM_cons] at hrest
  obtain ⟨_, hstep, _⟩ := Option.bind_eq_some_iff.1 hrest
  obtain ⟨⟨k, store'⟩, hins, -⟩ := Option.map_eq_some_iff.1 hstep
  exact ⟨n₁, store, k, store', hfirst, hins⟩

theorem rowsAffected_eq {earlier : List FinancialRecord} {r : FinancialRecord} {n k : Nat}
    {store store' : RecordStore}
    (hfirst : (insertedBefore records earlier r.kind).foldlM (insertStep m importId) (0, before) =
      some (n, store))
    (hins : insertRecord m importId r store = some (k, store')) :
    rowsAffected m importId before records earlier r = some k := by
  unfold rowsAffected
  rw [hfirst, Option.bind_some, hins]
  rfl

/-- A record that affects a row requires no parent, or one that is stored or in the batch. -/
theorem parentsPresent_of_exactly {n : Nat}
    (hfold : (inInsertOrder records).foldlM (insertStep m importId) (0, before) =
      some (n, after))
    (h : ∀ earlier r later, records = earlier ++ r :: later →
      rowsAffected m importId before records earlier r = some 0 → Repeats m before earlier r) :
    ParentsPresent m before records := by
  intro earlier r later hsplit hnew p hp
  obtain ⟨n₁, store, k, store', hfirst, hins⟩ := exists_place hfold hsplit
  have hk : k ≠ 0 := by
    rintro rfl
    exact hnew (h earlier r later hsplit (rowsAffected_eq hfirst hins))
  have hstored : store.ParentStored m r := by
    rw [insertRecord_count hins] at hk
    exact (ite_ne_right_iff.1 hk).1.1
  obtain ⟨rest, hplace⟩ := inInsertOrder_place hsplit
  have hpairs := inInsertOrder_pairwise records
  rw [hplace] at hpairs
  have hrun := foldlM_inserted (hpairs.sublist (List.sublist_append_left _ _)) hfirst
  rcases hrun.hasSource m p (hstored p hp) with hbefore | ⟨-, x, hx, rfl⟩
  · exact .inl hbefore
  · refine .inr ⟨x, ?_, rfl⟩
    rw [← mem_inInsertOrder, hplace]
    exact List.mem_append_left _ hx

/-- At the place of a record in a backed batch an insert affects no row when it is a repeat. -/
theorem rowsAffected_eq_zero_iff {n : Nat} (hbacked : Backed m before (inInsertOrder records))
    (hfold : (inInsertOrder records).foldlM (insertStep m importId) (0, before) =
      some (n, after))
    {earlier later : List FinancialRecord} {r : FinancialRecord}
    (hsplit : records = earlier ++ r :: later) :
    rowsAffected m importId before records earlier r = some 0 ↔ Repeats m before earlier r := by
  obtain ⟨n₁, store, k, store', hfirst, hins⟩ := exists_place hfold hsplit
  obtain ⟨rest, hplace⟩ := inInsertOrder_place hsplit
  rw [hplace] at hbacked
  have hprefix : Backed m before (insertedBefore records earlier r.kind) := by
    intro first x later' hfirst'
    exact hbacked first x (later' ++ r :: rest) (by rw [hfirst', List.append_assoc]; rfl)
  obtain ⟨-, hholds⟩ := foldlM_backed hprefix hfirst
  have hrepeats : Repeats m before earlier r ↔ store.Held m r := by
    rw [← repeats_congr (filter_insertedBefore records earlier r.kind), Repeats, held_iff,
      held_iff, hholds]
  have hparent : ¬ store.Held m r → store.ParentStored m r := by
    intro hnew p hp
    rw [← hrepeats, ← repeats_congr (filter_insertedBefore records earlier r.kind)] at hnew
    rcases hbacked _ r rest rfl hnew p hp with hstored | ⟨x, hx, rfl⟩
    · obtain ⟨key, hkey, hm, hid⟩ := hasSource_iff.1 hstored
      exact hasSource_iff.2 ⟨key, (hholds _).2 (.inl hkey), hm, hid⟩
    · exact hasSource_iff.2
        ⟨x.sourceKey m, (hholds _).2 (.inr (List.mem_map.2 ⟨x, hx, rfl⟩)), rfl, rfl⟩
  rw [rowsAffected_eq hfirst hins, hrepeats, Option.some.injEq, insertRecord_count hins]
  by_cases hheld : store.Held m r
  · simp [hheld]
  · simp [hheld, hparent hheld]

end Batch

/-- **When duplicates are accounted.**  The records of a batch that are counted as duplicates
are those that repeat an identity, and every record is held, exactly when each of the others
requires no parent, or one that is stored or in the batch. -/
theorem duplicates_accounted_iff (m : MerchantId) (importId : String) (before : RecordStore)
    (records : List FinancialRecord) (counts : InsertCounts) (after : RecordStore)
    (h : insertRecords m importId records before = some (counts, after)) :
    DuplicatesAccounted m importId before records counts after ↔
      ParentsPresent m before records := by
  obtain ⟨⟨n, _⟩, hfold, heq⟩ := Option.map_eq_some_iff.1 h
  cases heq
  constructor
  · intro haccounted
    exact parentsPresent_of_exactly hfold fun earlier r later hsplit =>
      (haccounted.exactly earlier r later hsplit).1
  · intro hpresent
    obtain ⟨hcount, hholds⟩ := foldlM_backed hpresent.backed hfold
    have hperm := inInsertOrder_perm records
    rw [countRepeats_perm (hperm.map _), hperm.length_eq] at hcount
    refine ⟨fun earlier r later => rowsAffected_eq_zero_iff hpresent.backed hfold, ?_, ?_⟩
    · dsimp only
      omega
    · intro r hr
      exact held_iff.2 ((hholds _).2 (.inr (List.mem_map.2 ⟨r, mem_inInsertOrder.2 hr, rfl⟩)))

/-- All records of the sample import are new, and all have their parents with them. -/
theorem duplicates_accounted_sampleImport :
    DuplicatesAccounted "m-1" "import-1" {} sampleImport ⟨6, 0⟩ sampleStore := by
  refine (duplicates_accounted_iff "m-1" "import-1" {} sampleImport ⟨6, 0⟩ sampleStore rfl).2 ?_
  intro earlier r later hsplit _
  have hparents : ∀ r ∈ sampleImport, ∀ p ∈ r.requiredParent,
      ∃ x ∈ sampleImport, x.asParent = p := by decide
  exact fun p hp => .inr (hparents r (by rw [hsplit]; simp) p hp)

/-- A line of a settlement that has not arrived. -/
def strayLine : List FinancialRecord :=
  [.settlementLine { sampleBase "line-9" with
    settlementId := "set-9"
    paymentId := some "pay-1"
    refundId := none
    lineType := .payment
    amount := ⟨970_500, "INR"⟩ }]

/-- The line repeats nothing, is not stored, and is counted as a duplicate. -/
theorem stray_line_counted :
    insertRecords "m-1" "import-2" strayLine sampleStore = some (⟨0, 1⟩, sampleStore) ∧
      countRepeats sampleStore.holds (strayLine.map (·.identity "m-1")) = 0 ∧
      (∀ r ∈ strayLine, ¬ sampleStore.Held "m-1" r) ∧
      ¬ DuplicatesAccounted "m-1" "import-2" sampleStore strayLine ⟨0, 1⟩ sampleStore := by
  have hrepeats : countRepeats sampleStore.holds (strayLine.map (·.identity "m-1")) = 0 := by
    decide
  refine ⟨rfl, hrepeats, by decide, fun haccounted => ?_⟩
  have hcounted := haccounted.counted
  rw [hrepeats] at hcounted
  cases hcounted

end SettlementOps
