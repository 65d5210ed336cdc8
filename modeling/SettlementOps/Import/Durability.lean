import SettlementOps.Import.SubmitImport
import SettlementOps.Interleave.Outline

/-!
# Import durability

An accepted import is to be in the record store.  The import row is written before the
records and a replay is decided by that row alone, so a replay of a key whose records were
never committed is accepted all the same; and a record whose parent is not stored is dropped
for good, so it is still missing once another batch has brought the parent.

* `BodyHeld` — every record of a body that normalizes and whose parent is stored is held.
* `importRules` — the import read for a taken key is of the same request, committed; no batch
  brings the parent of a dropped record without the record, neither after the batch that dropped
  it nor while that one is in progress.
* `Carried` — what a call knows of its own transaction.
* `import_durable` — under the rules every accepted body is held at the moment it is accepted.
* `replay_accepted_without_records` — a failure between the import row and the records.
-/

namespace SettlementOps

open Interleave

section Durability

variable {Body : Type} (P : Readers Body)

/-- Every record of a call's body that normalizes and whose parent is stored is held. -/
def BodyHeld (ℓ : ImportCall Body) (store : RecordStore) : Prop :=
  ∀ request, P.safeParse ℓ.input.body = .ok request →
    ∀ dto index, (dto, index) ∈ request.records.zipIdx → ∀ recordId ingestedAt r,
      normalizeRecord P.parseDate ℓ.ctx ⟨dto, index, recordId, ingestedAt⟩ = .ok r →
      store.ParentStored ℓ.ctx.tenantId r → store.Held ℓ.ctx.tenantId r

/-! ## The conditions -/

/-- Two records are one to the store: the same kind, identity and parent. -/
def SameRecord (m : MerchantId) (x r : FinancialRecord) : Prop :=
  x.kind = r.kind ∧ x.sourceKey m = r.sourceKey m ∧ x.requiredParent = r.requiredParent

instance (m : MerchantId) (x r : FinancialRecord) : Decidable (SameRecord m x r) :=
  inferInstanceAs (Decidable (_ ∧ _ ∧ _))

/-- No record of the call's body normalizes. -/
def NothingToStore (ℓ : ImportCall Body) : Prop :=
  ∀ request ∈ (P.safeParse ℓ.input.body).toOption,
    normalizedOf (normalizeRecords P.parseDate ℓ.ctx request.records (fun _ => "") ⟨0⟩) = []

instance (ℓ : ImportCall Body) : Decidable (NothingToStore P ℓ) :=
  inferInstanceAs (Decidable (∀ request ∈ (P.safeParse ℓ.input.body).toOption, _ = []))

/-- A call of the merchant with the same key and the same request has committed its batch, or
there is none to commit. -/
def Delivered (log : List (ExecutedImport Body)) (ℓ : ImportCall Body) : Prop :=
  NothingToStore P ℓ ∨
    ∃ e ∈ log, (committed e).isSome = true ∧ e.label.ctx.tenantId = ℓ.ctx.tenantId ∧
      e.label.input.idempotencyKey = ℓ.input.idempotencyKey ∧
      P.safeParse e.label.input.body = P.safeParse ℓ.input.body

instance (log : List (ExecutedImport Body)) (ℓ : ImportCall Body) :
    Decidable (Delivered P log ℓ) :=
  inferInstanceAs (Decidable (_ ∨ ∃ e ∈ _, _))

/-- A batch that brings the missing parent of a record the store does not hold carries that
record. -/
def Adopts (store : RecordStore) (m : MerchantId) (records : List FinancialRecord)
    (r : FinancialRecord) : Prop :=
  ¬ store.Held m r → ∀ p ∈ r.requiredParent, ¬ store.HasSource m p →
    (∃ x ∈ records, p = x.asParent) → ∃ x ∈ records, SameRecord m x r

instance (store : RecordStore) (m : MerchantId) (records : List FinancialRecord)
    (r : FinancialRecord) : Decidable (Adopts store m records r) :=
  inferInstanceAs (Decidable (_ → ∀ p ∈ _, _))

/-- It does so for every record an earlier batch of the merchant has dropped. -/
def AdoptsDropped (db : ImportDatabase) (log : List (ExecutedImport Body))
    (scope : MerchantScope) (records : List FinancialRecord) : Prop :=
  ∀ e ∈ log, ∀ batch ∈ committed e, batch.1 = scope.merchantId →
    ∀ r ∈ batch.2, Adopts db.records scope.merchantId records r

instance (db : ImportDatabase) (log : List (ExecutedImport Body)) (scope : MerchantScope)
    (records : List FinancialRecord) : Decidable (AdoptsDropped db log scope records) :=
  inferInstanceAs (Decidable (∀ e ∈ _, ∀ batch ∈ _, _ → ∀ r ∈ _, _))

/-- No other batch has brought the parent of a record that this one dropped while it was in
progress. -/
def NoParentArrived (store : RecordStore) (m : MerchantId) (tx : BatchTransaction) : Prop :=
  ∀ r ∈ tx.records, ¬ (store.overlay tx.written).Held m r →
    ∀ p ∈ r.requiredParent, ¬ store.HasSource m p

instance (store : RecordStore) (m : MerchantId) (tx : BatchTransaction) :
    Decidable (NoParentArrived store m tx) :=
  inferInstanceAs (Decidable (∀ r ∈ _, _ → ∀ p ∈ _, _))

/-- What a statement is assumed to meet. -/
def ImportStep (db : ImportDatabase) (log : List (ExecutedImport Body)) (ℓ : ImportCall Body) :
    SubmitStatement → Prop
  -- the import of a taken key is read
  | .call (.selectImport _ _) => Delivered P log ℓ
  | .commit scope tx =>
      AdoptsDropped db log scope tx.records ∧ NoParentArrived db.records scope.merchantId tx
  | _ => True

instance (db : ImportDatabase) (log : List (ExecutedImport Body)) (ℓ : ImportCall Body) :
    ∀ a, Decidable (ImportStep P db log ℓ a)
  | .call (.selectImport _ _) => inferInstanceAs (Decidable (Delivered P log ℓ))
  | .call (.insertImport _ _) => .isTrue trivial
  | .call .now => .isTrue trivial
  | .call .nextIds => .isTrue trivial
  | .call (.insertMany _ _ _) => .isTrue trivial
  | .call (.completeImport _ _ _) => .isTrue trivial
  | .call (.insertAuditEvent _ _) => .isTrue trivial
  | .call (.selectImportById _ _) => .isTrue trivial
  | .begin => .isTrue trivial
  | .insertRecord _ _ _ _ => .isTrue trivial
  | .commit scope tx => inferInstanceAs (Decidable
      (AdoptsDropped db log scope tx.records ∧ NoParentArrived db.records scope.merchantId tx))
  | .rollback => .isTrue trivial

/-- The conditions on a run. -/
def importRules : Rules ImportDatabase ImportSurroundings SubmitStatement
    SubmitStatement.Answer (ImportCall Body) where
  run db log _ ℓ a := ImportStep P db log ℓ a

instance (db : ImportDatabase) (log : List (ExecutedImport Body)) (ℓ : ImportCall Body) :
    Decidable ((importRules P).call db log ℓ) := .isTrue trivial

instance (db : ImportDatabase) (log : List (ExecutedImport Body)) (i : Nat)
    (ℓ : ImportCall Body) (a : SubmitStatement) : Decidable ((importRules P).run db log i ℓ a) :=
  inferInstanceAs (Decidable (ImportStep P db log ℓ a))

instance (db : ImportDatabase) (log : List (ExecutedImport Body)) (i : Nat) :
    Decidable ((importRules P).fail db log i) := .isTrue trivial

/-! ## The invariant -/

/-- A batch is what its call's request normalizes to. -/
def NormalizedFrom (ℓ : ImportCall Body) (m : MerchantId) (records : List FinancialRecord) :
    Prop :=
  m = ℓ.ctx.tenantId ∧ ∃ request recordId ingestedAt,
    P.safeParse ℓ.input.body = .ok request ∧
      records = inInsertOrder (normalizedOf
        (normalizeRecords P.parseDate ℓ.ctx request.records recordId ingestedAt))

/-- What remains true of an insert: its record is written or committed, or its transaction had
not written the parent. -/
def Met (store : RecordStore) :
    MerchantId × FinancialRecord × BatchTransaction × BatchTransaction → Prop
  | (m, r, tx, tx') => tx'.written.Held m r ∨ store.Held m r ∨
      ∃ p ∈ r.requiredParent, ¬ tx.written.HasSource m p

/-- Every committed batch is what its call's request normalizes to, and the store holds each
of its records whose parent is stored. -/
structure ImportInv (db : ImportDatabase) (log : List (ExecutedImport Body)) : Prop where
  normalized : ∀ e ∈ log, ∀ m records, committed e = some (m, records) →
    NormalizedFrom P e.label m records
  held : ∀ e ∈ log, ∀ m records, committed e = some (m, records) → ∀ r ∈ records,
    db.records.ParentStored m r → db.records.Held m r
  met : ∀ e ∈ log, ∀ x, inserted e = some x → Met db.records x

variable {P}

theorem SameRecord.held {m : MerchantId} {x r : FinancialRecord} (h : SameRecord m x r)
    {store : RecordStore} (hx : store.Held m x) : store.Held m r := by
  show r.sourceKey m ∈ store.keys r.kind
  rw [← h.1, ← h.2.1]
  exact hx

theorem SameRecord.parentStored {m : MerchantId} {x r : FinancialRecord}
    (h : SameRecord m x r) {store : RecordStore} (hr : store.ParentStored m r) :
    store.ParentStored m x := by
  intro p hp
  rw [h.2.2] at hp
  exact hr p hp

/-- A batch leaves the earlier ones held. -/
theorem held_of_inserted {m m' : MerchantId} {records : List FinancialRecord}
    {store store' : RecordStore} (h : Inserted m' records store store') {r : FinancialRecord}
    (hbefore : store.ParentStored m r → store.Held m r)
    (hadopts : m = m' → Adopts store m records r)
    (hparent : store'.ParentStored m r) : store'.Held m r := by
  by_cases hheld : store.Held m r
  · exact hheld.mono h.subset
  · have hmissing : ¬ store.ParentStored m r := fun hp => hheld (hbefore hp)
    obtain ⟨p, hp, hsource⟩ : ∃ p ∈ r.requiredParent, ¬ store.HasSource m p := by
      by_contra hnone
      apply hmissing
      intro p hp
      by_contra hsource
      exact hnone ⟨p, hp, hsource⟩
    rcases h.hasSource m p (hparent p hp) with hbad | ⟨hm, hbrought⟩
    · exact absurd hbad hsource
    · obtain ⟨x, hx, hsame⟩ := hadopts hm hheld p hp hsource hbrought
      subst hm
      exact hsame.held (h.held x hx (hsame.parentStored hparent))

/-- A statement that commits nothing keeps the invariant. -/
theorem ImportInv.grow {db db' : ImportDatabase} {log : List (ExecutedImport Body)}
    {e : ExecutedImport Body} (h : ImportInv P db log) (hrecords : db'.records = db.records)
    (hnone : committed e = none) (hmet : ∀ x, inserted e = some x → Met db.records x) :
    ImportInv P db' (log ++ [e]) := by
  refine ⟨fun e' he m records hcommitted => ?_, fun e' he m records hcommitted => ?_,
    fun e' he x hx => ?_⟩ <;> rcases List.mem_append.1 he with he | he
  · exact h.normalized e' he m records hcommitted
  · rw [List.mem_singleton.1 he, hnone] at hcommitted
    cases hcommitted
  · rw [hrecords]
    exact h.held e' he m records hcommitted
  · rw [List.mem_singleton.1 he, hnone] at hcommitted
    cases hcommitted
  · rw [hrecords]
    exact h.met e' he x hx
  · rw [List.mem_singleton.1 he] at hx
    rw [hrecords]
    exact hmet x hx

/-- A commit does, when its batch carries the dropped records whose parents it brings. -/
theorem ImportInv.commit {db db' : ImportDatabase} {log : List (ExecutedImport Body)}
    {e : ExecutedImport Body} {scope : MerchantScope} {records : List FinancialRecord}
    (h : ImportInv P db log) (hadopts : AdoptsDropped db log scope records)
    (hinserted : Inserted scope.merchantId records db.records db'.records)
    (hcommitted : committed e = some (scope.merchantId, records)) (hnone : inserted e = none)
    (hnormalized : NormalizedFrom P e.label scope.merchantId records) :
    ImportInv P db' (log ++ [e]) := by
  refine ⟨fun e' he m batch hbatch => ?_, fun e' he m batch hbatch r hr => ?_,
    fun e' he x hx => ?_⟩ <;> rcases List.mem_append.1 he with he | he
  · exact h.normalized e' he m batch hbatch
  · rw [List.mem_singleton.1 he] at hbatch ⊢
    rw [hcommitted] at hbatch
    cases hbatch
    exact hnormalized
  · refine held_of_inserted hinserted (h.held e' he m batch hbatch r hr) ?_
    intro hm
    subst hm
    exact hadopts e' he (scope.merchantId, batch) hbatch rfl r hr
  · rw [List.mem_singleton.1 he, hcommitted] at hbatch
    cases hbatch
    exact hinserted.held r hr
  · obtain ⟨m, r, tx, tx'⟩ := x
    rcases h.met e' he _ hx with hheld | hheld | horphan
    · exact .inl hheld
    · exact .inr (.inl (hheld.mono hinserted.subset))
    · exact .inr (.inr horphan)
  · rw [List.mem_singleton.1 he, hnone] at hx
    cases hx

theorem withBase_requiredParent (b : RecordBase) (r : FinancialRecord) :
    (r.withBase b).requiredParent = r.requiredParent := by
  cases r <;> rfl

/-- A record normalized again is the same record to the store. -/
theorem sameRecord_withBase {m : MerchantId} {r : FinancialRecord} {b : RecordBase}
    (hsystem : b.lineage.sourceSystem = r.base.lineage.sourceSystem)
    (hid : b.lineage.sourceRecordId = r.base.lineage.sourceRecordId) :
    SameRecord m (r.withBase b) r := by
  refine ⟨withBase_kind b r, ?_, withBase_requiredParent b r⟩
  simp only [FinancialRecord.sourceKey, withBase_kind, withBase_base, hsystem, hid]

/-- What normalizes once is in every batch of the same request. -/
theorem exists_sameRecord {ℓ : ImportCall Body} {request : ImportRequestDto}
    {dto : FinancialRecordDto} {index : Nat} (hmem : (dto, index) ∈ request.records.zipIdx)
    {recordId : String} {ingestedAt : Date} {r : FinancialRecord}
    (hr : normalizeRecord P.parseDate ℓ.ctx ⟨dto, index, recordId, ingestedAt⟩ = .ok r)
    (ctx : RequestContext) (recordId' : Nat → String) (ingestedAt' : Date) (m : MerchantId) :
    ∃ x ∈ normalizedOf
        (normalizeRecords P.parseDate ctx request.records recordId' ingestedAt'),
      SameRecord m x r := by
  obtain ⟨observedAt, hbase, hagain⟩ := normalizeRecord_again hr ctx
    ⟨dto, index, recordId' index, ingestedAt'⟩ rfl rfl
  refine ⟨_, List.mem_filterMap.2 ⟨(index, _), List.mem_map.2 ⟨(dto, index), hmem, rfl⟩, ?_⟩,
    sameRecord_withBase (b := normalizedBase ctx ⟨dto, index, recordId' index, ingestedAt'⟩
      observedAt) (by rw [hbase]; rfl) (by rw [hbase]; rfl)⟩
  dsimp only
  rw [hagain]
  rfl

/-- An empty batch has nothing to store. -/
theorem nothingToStore_of_nil {ℓ : ImportCall Body} {request : ImportRequestDto}
    (hparse : P.safeParse ℓ.input.body = .ok request) {recordId : Nat → String}
    {ingestedAt : Date} (hnil : normalizedOf
      (normalizeRecords P.parseDate ℓ.ctx request.records recordId ingestedAt) = []) :
    NothingToStore P ℓ := by
  intro request' hrequest
  rw [hparse] at hrequest
  cases hrequest
  refine List.eq_nil_iff_forall_not_mem.2 fun x hx => ?_
  obtain ⟨⟨index, result⟩, hentry, hok⟩ := List.mem_filterMap.1 hx
  obtain ⟨⟨dto, index'⟩, hmem, heq⟩ := List.mem_map.1 hentry
  cases heq
  cases hnormalized : normalizeRecord P.parseDate ℓ.ctx ⟨dto, index', "", ⟨0⟩⟩ with
  | error error =>
      rw [hnormalized] at hok
      cases hok
  | ok r =>
      obtain ⟨y, hy, -⟩ := exists_sameRecord hmem hnormalized ℓ.ctx recordId ingestedAt
        ℓ.ctx.tenantId
      rw [hnil] at hy
      cases hy

/-- A delivered body is held. -/
theorem ImportInv.bodyHeld {db : ImportDatabase} {log : List (ExecutedImport Body)}
    {ℓ : ImportCall Body} (h : ImportInv P db log) (hdelivered : Delivered P log ℓ) :
    BodyHeld P ℓ db.records := by
  intro request hparse dto index hmem recordId ingestedAt r hr hparent
  rcases hdelivered with hnothing | ⟨e, he, hsome, htenant, -, hbody⟩
  · have hnil := hnothing request (by rw [hparse]; rfl)
    obtain ⟨x, hx, -⟩ := exists_sameRecord hmem hr ℓ.ctx (fun _ => "") ⟨0⟩ ℓ.ctx.tenantId
    rw [hnil] at hx
    cases hx
  · obtain ⟨⟨m, records⟩, hcommitted⟩ := Option.isSome_iff_exists.1 hsome
    obtain ⟨rfl, request₀, recordId₀, ingestedAt₀, hparse₀, hrecords⟩ :=
      h.normalized e he m records hcommitted
    rw [← hbody, hparse₀, Except.ok.injEq] at hparse
    subst hparse
    rw [← htenant] at hparent ⊢
    obtain ⟨x, hx, hsame⟩ := exists_sameRecord hmem hr e.label.ctx recordId₀ ingestedAt₀
      e.label.ctx.tenantId
    refine hsame.held (h.held e he _ records hcommitted x ?_ (hsame.parentStored hparent))
    rw [hrecords, mem_inInsertOrder]
    exact hx

/-! ## A transaction, insert by insert -/

theorem requiredParent_ne_asParent (r : FinancialRecord) : r.requiredParent ≠ some r.asParent := by
  cases r <;> simp [FinancialRecord.requiredParent, FinancialRecord.asParent,
    FinancialRecord.kind]

/-- What a call knows of its transaction once the records `done` are inserted: their inserts are
in the log, and none had a parent written after it. -/
structure Carried (log : List (ExecutedImport Body)) (m : MerchantId) (tx : BatchTransaction)
    (done : List FinancialRecord) : Prop where
  records : tx.records = done
  sources : ∀ m' p, tx.written.HasSource m' p → m' = m ∧ ∃ x ∈ done, p = x.asParent
  executed : ∀ r ∈ done, ∃ e ∈ log, ∃ before after, inserted e = some (m, r, before, after) ∧
    (∀ kind, ∀ k ∈ after.written.keys kind, k ∈ tx.written.keys kind) ∧
    ∀ p ∈ r.requiredParent, tx.written.HasSource m p → before.written.HasSource m p

namespace Carried

variable {log : List (ExecutedImport Body)} {m : MerchantId} {tx tx' : BatchTransaction}
  {done : List FinancialRecord} {r : FinancialRecord} {store : RecordStore} {importId : String}

theorem begun (log : List (ExecutedImport Body)) (m : MerchantId) : Carried log m {} [] where
  records := rfl
  sources m' p hp := by
    obtain ⟨k, hk, -⟩ := hp
    cases hkind : p.1 <;> rw [hkind] at hk <;> cases hk
  executed r hr := absurd hr List.not_mem_nil

theorem append (h : Carried log m tx done) (added : List (ExecutedImport Body)) :
    Carried (log ++ added) m tx done where
  records := h.records
  sources := h.sources
  executed r hr := by
    obtain ⟨e, he, hrest⟩ := h.executed r hr
    exact ⟨e, List.mem_append_left _ he, hrest⟩

/-- One more insert, of a record no earlier one requires. -/
theorem insert (h : Carried log m tx done) (hins : tx.insert m importId r store = some tx')
    (hparents : ∀ y ∈ done, y.requiredParent ≠ some r.asParent) {e : ExecutedImport Body}
    (he : inserted e = some (m, r, tx, tx')) : Carried (log ++ [e]) m tx' (done ++ [r]) where
  records := by rw [(BatchTransaction.insert_cases hins).1, h.records]
  sources m' p hp := by
    rcases BatchTransaction.insert_hasSource hins hp with hp | ⟨rfl, rfl⟩
    · obtain ⟨hm, x, hx, hpx⟩ := h.sources m' p hp
      exact ⟨hm, x, List.mem_append_left _ hx, hpx⟩
    · exact ⟨rfl, r, List.mem_append_right _ (List.mem_singleton_self r), rfl⟩
  executed y hy := by
    have hnew : ∀ p ∈ y.requiredParent, y.requiredParent ≠ some r.asParent →
        tx'.written.HasSource m p → tx.written.HasSource m p := by
      intro p hp hne hsource
      rcases BatchTransaction.insert_hasSource hins hsource with hsource | ⟨-, rfl⟩
      · exact hsource
      · exact absurd hp hne
    rcases List.mem_append.1 hy with hy | hy
    · obtain ⟨e', he', before, after, hinserted, hkeys, hsources⟩ := h.executed y hy
      refine ⟨e', List.mem_append_left _ he', before, after, hinserted, fun kind k hk => ?_,
        fun p hp hsource => ?_⟩
      · exact BatchTransaction.insert_subset hins (hkeys kind k hk)
      · exact hsources p hp (hnew p hp (hparents y hy) hsource)
    · rw [List.mem_singleton] at hy
      subst hy
      refine ⟨e, List.mem_append_right _ (List.mem_singleton_self e), tx, tx', he,
        fun _ _ hk => hk, fun p hp hsource => ?_⟩
      exact hnew p hp (requiredParent_ne_asParent y) hsource

/-- **What a commit has done**, when no parent arrived while the batch was in progress. -/
theorem inserted_of_commit {db : ImportDatabase} (h : Carried log m tx done)
    (hinv : ImportInv P db log) (harrived : NoParentArrived db.records m tx) :
    Inserted m tx.records db.records (db.records.overlay tx.written) where
  subset kind k hk := by
    rw [RecordStore.keys_overlay]
    exact List.mem_append_left _ hk
  hasSource m' p hp := by
    rw [h.records]
    exact (RecordStore.hasSource_overlay.1 hp).imp_right (h.sources m' p)
  held r hr hparent := by
    by_contra hnot
    rw [RecordStore.held_overlay, not_or] at hnot
    rw [h.records] at hr
    obtain ⟨e, he, before, after, hinserted, hkeys, hsources⟩ := h.executed r hr
    rcases hinv.met e he _ hinserted with hheld | hheld | ⟨p, hp, hmissing⟩
    · exact hnot.2 (hkeys _ _ hheld)
    · exact hnot.1 hheld
    · -- the parent its insert did not find was neither written later nor has it arrived
      rcases RecordStore.hasSource_overlay.1 (hparent p hp) with hsource | hsource
      · refine harrived r (by rw [h.records]; exact hr) ?_ p hp hsource
        rw [RecordStore.held_overlay, not_or]
        exact hnot
      · exact hmissing (hsources p hp hsource)

end Carried

/-! ## A call, statement by statement -/

section Call

variable {i : Nat} {ℓ : ImportCall Body} {db : ImportDatabase}
  {log : List (ExecutedImport Body)}

theorem Delivered.append (h : Delivered P log ℓ) (added : List (ExecutedImport Body)) :
    Delivered P (log ++ added) ℓ := by
  rcases h with hnothing | ⟨e, he, hrest⟩
  · exact .inl hnothing
  · exact .inr ⟨e, List.mem_append_left _ he, hrest⟩

/-- A quiet statement keeps the invariant. -/
theorem ImportInv.quiet (h : ImportInv P db log) {a : SubmitStatement} (ha : a.Quiet)
    (ω : ImportSurroundings) :
    ImportInv P (execSubmit ω a db).2 (log ++ [executedImport i ℓ a ω db]) := by
  have hnothing : committed (executedImport i ℓ a ω db) = none ∧
      inserted (executedImport i ℓ a ω db) = none := by
    cases a with
    | insertRecord scope importId record tx => exact ha.elim
    | commit scope tx => exact ha.elim
    | _ => exact ⟨rfl, rfl⟩
  refine h.grow (quiet_records ha ω db) hnothing.1 fun x hx => ?_
  rw [hnothing.2] at hx
  cases hx

/-- It keeps what a call knows as well. -/
theorem keeps_quiet_import {K : List (ExecutedImport Body) → Prop}
    (hK : ∀ log added, K log → K (log ++ added)) {a : SubmitStatement} (ha : a.Quiet)
    (h : K log) :
    Keeps execSubmit (importRules P) (ImportInv P) i ℓ (fun _ s log => ImportInv P s log ∧ K log)
      (importQuery a) db log := by
  intro s log' ω hothers hinv _
  obtain ⟨added, rfl, -⟩ := hothers
  have hinv' := hinv.quiet (i := i) (ℓ := ℓ) ha ω
  exact ⟨hinv', hinv', hK _ _ (hK _ _ h)⟩

/-- The import of a taken key is a delivered one. -/
theorem keeps_selectImport (scope : MerchantScope) (idempotencyKey : String) :
    Keeps execSubmit (importRules P) (ImportInv P) i ℓ
      (fun _ s log => ImportInv P s log ∧ Delivered P log ℓ)
      (importQuery (.call (.selectImport scope idempotencyKey))) db log := by
  intro s log' ω _ hinv hrun
  have hinv' := hinv.quiet (i := i) (ℓ := ℓ)
    (a := .call (.selectImport scope idempotencyKey)) trivial ω
  have hdelivered : Delivered P log' ℓ := hrun
  exact ⟨hinv', hinv', hdelivered.append _⟩

/-- One insert of a batch. -/
theorem keeps_insertRecord {tx : BatchTransaction} {done : List FinancialRecord}
    {r : FinancialRecord} (hparents : ∀ y ∈ done, y.requiredParent ≠ some r.asParent)
    (importId : String) (h : Carried log ℓ.ctx.tenantId tx done) :
    Keeps execSubmit (importRules P) (ImportInv P) i ℓ
      (fun out _ log => ∀ tx' ∈ out, Carried log ℓ.ctx.tenantId tx' (done ++ [r]))
      (importQuery (.insertRecord (scopeOf ℓ.ctx) importId r tx)) db log := by
  intro s log' ω hothers hinv _
  obtain ⟨added, rfl, -⟩ := hothers
  have hrecorded : ∀ tx', tx.insert ℓ.ctx.tenantId importId r s.records = some tx' →
      inserted (executedImport i ℓ (.insertRecord (scopeOf ℓ.ctx) importId r tx) ω s) =
        some (ℓ.ctx.tenantId, r, tx, tx') := by
    intro tx' htx
    have hanswer : (execSubmit ω (.insertRecord (scopeOf ℓ.ctx) importId r tx) s).1 = some tx' :=
      htx
    simp only [executedImport, hanswer, inserted]
    rfl
  refine ⟨hinv.grow rfl rfl fun x hx => ?_, fun tx' htx => ?_⟩
  · cases htx : tx.insert ℓ.ctx.tenantId importId r s.records with
    | none =>
        have hanswer : (execSubmit ω (.insertRecord (scopeOf ℓ.ctx) importId r tx) s).1 = none :=
          htx
        simp only [hanswer, inserted] at hx
        cases hx
    | some tx' =>
        have hx' := (hrecorded tx' htx).symm.trans hx
        cases hx'
        exact BatchTransaction.insert_outcome htx
  · exact (h.append added).insert htx hparents (hrecorded tx' htx)

/-- A commit delivers its own call. -/
theorem keeps_commit {records : List FinancialRecord} {tx : BatchTransaction}
    (hnormalized : NormalizedFrom P ℓ ℓ.ctx.tenantId records)
    (h : Carried log ℓ.ctx.tenantId tx records) :
    Keeps execSubmit (importRules P) (ImportInv P) i ℓ
      (fun answer _ log => answer.isSome = true → Delivered P log ℓ)
      (importQuery (.commit (scopeOf ℓ.ctx) tx)) db log := by
  intro s log' ω hothers hinv hrun
  obtain ⟨added, rfl, -⟩ := hothers
  obtain ⟨hadopts, harrived⟩ : AdoptsDropped s (log ++ added) (scopeOf ℓ.ctx) tx.records ∧
      NoParentArrived s.records ℓ.ctx.tenantId tx := hrun
  have hinserted := (h.append added).inserted_of_commit hinv harrived
  have hnone : inserted (executedImport i ℓ (.commit (scopeOf ℓ.ctx) tx) ω s) = none := rfl
  rcases commit_cases ω (scopeOf ℓ.ctx) tx s with ⟨hanswer, hsame⟩ | ⟨hanswer, hrecords⟩
  · have hnothing : committed (executedImport i ℓ (.commit (scopeOf ℓ.ctx) tx) ω s) = none := by
      simp only [executedImport, hanswer, committed]
    refine ⟨hinv.grow (by rw [hsame]) hnothing fun x hx => ?_, fun hsome => ?_⟩
    · exact absurd (hnone.symm.trans hx) (Option.some_ne_none x).symm
    · rw [hanswer] at hsome
      cases hsome
  · have hcommitted : committed (executedImport i ℓ (.commit (scopeOf ℓ.ctx) tx) ω s) =
        some (ℓ.ctx.tenantId, tx.records) := by
      simp only [executedImport, hanswer, committed]
      rfl
    rw [← hrecords] at hinserted
    refine ⟨hinv.commit hadopts hinserted hcommitted hnone ?_, fun _ => .inr
      ⟨_, List.mem_append_right _ (List.mem_singleton_self _), ?_, rfl, rfl, rfl⟩⟩
    · rw [h.records]
      exact hnormalized
    · exact Option.isSome_iff_exists.2 ⟨_, hcommitted⟩

/-- A batch that is answered with its counts delivers its call. -/
theorem keeps_insertBatch {request : ImportRequestDto}
    (hparse : P.safeParse ℓ.input.body = .ok request) (recordId : Nat → String)
    (ingestedAt : Date) (importId : String) :
    Keeps execSubmit (importRules P) (ImportInv P) i ℓ
      (fun answer _ log => answer.isSome = true → Delivered P log ℓ)
      (insertBatch (scopeOf ℓ.ctx) importId (normalizedOf
        (normalizeRecords P.parseDate ℓ.ctx request.records recordId ingestedAt))) db log := by
  obtain ⟨records, hrecords⟩ : ∃ records, records = normalizedOf
    (normalizeRecords P.parseDate ℓ.ctx request.records recordId ingestedAt) := ⟨_, rfl⟩
  have hnormalized : NormalizedFrom P ℓ ℓ.ctx.tenantId (inInsertOrder records) :=
    ⟨rfl, request, recordId, ingestedAt, hparse, by rw [hrecords]⟩
  rw [← hrecords]
  unfold insertBatch
  split
  · rename_i hnil
    intro _
    rw [hrecords] at hnil
    exact .inl (nothingToStore_of_nil hparse (List.length_eq_zero_iff.1 hnil))
  · have failed : ∀ {s log}, Keeps execSubmit (importRules P) (ImportInv P) i ℓ
        (fun (answer : Option InsertCounts) _ log => answer.isSome = true → Delivered P log ℓ)
        (importQuery .rollback >>= fun _ => pure none) s log := by
      intro s log
      refine keeps_then (keeps_quiet_import (K := fun _ => True) (fun _ _ _ => trivial)
        (a := .rollback) trivial trivial) ?_
      intro _ s log _ hsome
      cases hsome
    refine keeps_then (M := fun tx _ log => tx = {}) ?_ ?_
    · intro s log' ω _ hinv _
      exact ⟨hinv.quiet (a := .begin) trivial ω, rfl⟩
    rintro tx s log rfl
    refine keeps_then (keeps_loop_ordered (J := fun done tx _ log =>
      Carried log ℓ.ctx.tenantId tx done) (inInsertOrder records) [] ?_
      (Carried.begun log ℓ.ctx.tenantId)) ?_
    · intro before r after hsplit tx s log hcarried
      -- what a record requires is inserted before it
      have horder := inInsertOrder_pairwise records
      rw [List.nil_append] at hsplit
      rw [hsplit, List.pairwise_append] at horder
      exact keeps_insertRecord (fun y hy => horder.2.2 y hy r List.mem_cons_self) importId hcarried
    · intro out s log hout
      cases out with
      | none => exact failed
      | some tx =>
          refine keeps_then (keeps_commit hnormalized (hout tx rfl)) ?_
          intro answer s log hdelivered
          cases answer with
          | none => exact failed
          | some counts => exact fun _ => hdelivered rfl

/-- An import that is not created is a delivered one. -/
theorem keeps_createOrGet (scope : MerchantScope) (input : ImportStart) :
    Keeps execSubmit (importRules P) (ImportInv P) i ℓ
      (fun out s _ => match out with
        | .ok (_, false) => BodyHeld P ℓ s.records
        | _ => True)
      (createOrGet scope input) db log := by
  refine keeps_then (keeps_quiet_import (K := fun _ => True) (fun _ _ _ => trivial)
    (a := .call (.insertImport scope input)) trivial trivial) ?_
  intro answer s log _
  match answer with
  | none => exact trivial
  | some (some summary) => exact trivial
  | some none =>
      refine keeps_then (keeps_selectImport scope input.idempotencyKey) ?_
      intro found s log hknown
      cases found with
      | none => exact trivial
      | some summary => exact hknown.1.bodyHeld hknown.2

/-- What an accepted call has brought about. -/
def Accepted (P : Readers Body) (ℓ : ImportCall Body) (result : SubmitImportResult)
    (store : RecordStore) : Prop :=
  match result with
  | .accepted _ _ => BodyHeld P ℓ store
  | _ => True

theorem keeps_ingest {request : ImportRequestDto}
    (hparse : P.safeParse ℓ.input.body = .ok request) (summary : ImportSummary) :
    Keeps execSubmit (importRules P) (ImportInv P) i ℓ
      (fun result s _ => Accepted P ℓ result s.records)
      (ingest P ℓ.ctx request summary) db log := by
  have delivered : ∀ log added, Delivered P log ℓ → Delivered P (log ++ added) ℓ :=
    fun _ added h => h.append added
  refine keeps_then (keeps_quiet_import (K := fun _ => True) (fun _ _ _ => trivial)
    (a := .call .now) trivial trivial) ?_
  intro ingestedAt s log _
  refine keeps_then (keeps_quiet_import (K := fun _ => True) (fun _ _ _ => trivial)
    (a := .call .nextIds) trivial trivial) ?_
  intro recordId s log _
  refine keeps_then (keeps_insertBatch hparse recordId ingestedAt summary.id) ?_
  intro answer s log hdelivered
  cases answer with
  | none => exact trivial
  | some inserted =>
      refine keeps_then (keeps_quiet_import delivered (a := .call (.completeImport _ _ _)) trivial
        (hdelivered rfl)) ?_
      intro _ s log hknown
      refine keeps_then (keeps_quiet_import delivered (a := .call (.insertAuditEvent _ _)) trivial
        hknown.2) ?_
      intro _ s log hknown
      refine keeps_then (keeps_quiet_import delivered (a := .call (.selectImportById _ _)) trivial
        hknown.2) ?_
      intro final s log hknown
      exact hknown.1.bodyHeld hknown.2

theorem keeps_submitImport :
    Keeps execSubmit (importRules P) (ImportInv P) i ℓ
      (fun result s _ => Accepted P ℓ result s.records)
      (submitImport P ℓ.ctx ℓ.input) db log := by
  unfold submitImport
  cases hparse : P.safeParse ℓ.input.body with
  | error issues => exact trivial
  | ok request =>
      refine keeps_then (keeps_createOrGet _ _) ?_
      intro out s log hout
      match out, hout with
      | .error message, _ => exact trivial
      | .ok (summary, false), hheld => exact hheld
      | .ok (summary, true), _ => exact keeps_ingest hparse summary

end Call

end Durability

/-! ## Every run -/

/-- All calls, from any database. -/
def importOutline {Body : Type} (P : Readers Body) (db : ImportDatabase) :
    Outline (importSystem P) (importRules P) db where
  inv := ImportInv P
  post _ ℓ result s _ := Accepted P ℓ result s.records
  init := ⟨by simp, by simp, by simp⟩
  start _ _ _ _ _ _ _ := keeps_submitImport

/-- **When an accepted import is durable.**  In a run in which the import read for a taken key
is of the same request, already committed, and no batch brings the parent of a dropped record
without the record, neither after the batch that dropped it nor while that one is in progress,
every record of an accepted body that normalizes and whose parent is stored is in the store at
the moment the call returns. -/
theorem import_durable {Body : Type} (P : Readers Body) (db : ImportDatabase)
    {c c' : Config ImportDatabase ImportSurroundings SubmitStatement SubmitStatement.Answer
      (ImportCall Body) SubmitImportResult}
    {m : Move (ImportCall Body) ImportSurroundings}
    (h : (importSystem P).Reachable (importRules P).Allows (Config.init db) c)
    (hallow : (importRules P).Allows c m) (hstep : (importSystem P).step c m = some c')
    {i : Nat} {ℓ : ImportCall Body} {summary : ImportSummary} {replayed : Bool}
    (hret : c'.returned i = some (ℓ, .accepted summary replayed))
    (hnew : c.returned i ≠ some (ℓ, .accepted summary replayed)) :
    BodyHeld P ℓ c'.state.records :=
  (importOutline P db).post_of_return h hallow hstep hret hnew

/-! ## One payment, imported twice under one key -/

/-- Requests that are checked already, with one time. -/
def sampleReaders : Readers ImportRequestDto where
  safeParse := .ok
  parseDate text := if text = "2026-02-02T10:00:00Z" then some ⟨1_770_026_400_000⟩ else none

def samplePaymentDto : PaymentDto where
  lineage := ⟨"gateway", "pay-1", "2026-02-02T10:00:00Z", "v1"⟩
  paymentId := "pay-1"
  orderId := none
  amount := ⟨1_000_000, "INR"⟩
  paymentMethod := .card
  status := .captured
  authorizedAt := none
  capturedAt := some "2026-02-02T10:00:00Z"

def sampleImportCall : ImportCall ImportRequestDto where
  ctx := ⟨"user-1", "m-1", [.operator], "correlation-1"⟩
  input := ⟨⟨"gateway", [.payment samplePaymentDto]⟩, "key-1"⟩

def sampleSurroundings : ImportSurroundings := ⟨⟨0⟩, "import-1", fun _ => "record-1"⟩

/-- The payment the request normalizes to. -/
def samplePayment : FinancialRecord :=
  .payment {
    id := "record-1"
    scope := ⟨"m-1"⟩
    lineage := ⟨"gateway", "pay-1", ⟨1_770_026_400_000⟩, ⟨0⟩, "v1"⟩
    paymentId := "pay-1"
    orderId := none
    amount := ⟨1_000_000, "INR"⟩
    paymentMethod := .card
    status := .captured
    authorizedAt := none
    capturedAt := some ⟨1_770_026_400_000⟩ }

/-- The database fails after the import row is written; the client tries again. -/
def lostImportMoves : List (Move (ImportCall ImportRequestDto) ImportSurroundings) :=
  [.call sampleImportCall, .run 0 sampleSurroundings, .fail 0, .call sampleImportCall,
    .run 1 sampleSurroundings, .run 1 sampleSurroundings]

/-- The second attempt is accepted as a replay, and nothing is stored. -/
theorem replay_accepted_without_records :
    ∃ c, (importSystem sampleReaders).Reachable (fun _ _ => True) (Config.init {}) c ∧
      (∃ summary, c.returned 1 = some (sampleImportCall, .accepted summary true)) ∧
      c.state.records = {} ∧ ¬ BodyHeld sampleReaders sampleImportCall c.state.records := by
  obtain ⟨c, hc, summary, hret, hrecords⟩ :
      ∃ c, (importSystem sampleReaders).replay (fun _ _ => True) (Config.init {})
        lostImportMoves = some c ∧
          ∃ summary, c.returned 1 = some (sampleImportCall, .accepted summary true) ∧
            c.state.records = {} :=
    ⟨_, rfl, _, rfl, rfl⟩
  refine ⟨c, System.reachable_of_replay lostImportMoves hc, ⟨summary, hret⟩, hrecords, ?_⟩
  intro hheld
  have hpayment := hheld _ rfl (.payment samplePaymentDto) 0 (by simp [sampleImportCall])
    "record-1" ⟨0⟩ samplePayment rfl (fun _ hp => by cases hp)
  rw [hrecords] at hpayment
  exact absurd hpayment (by decide)

/-- The first call returns, and a second one begins under the same key. -/
def replayedImportMoves : List (Move (ImportCall ImportRequestDto) ImportSurroundings) :=
  [.call sampleImportCall] ++ List.replicate 9 (.run 0 sampleSurroundings) ++
    [.call sampleImportCall, .run 1 sampleSurroundings]

/-- The replay of a committed import is accepted with its records in the store. -/
theorem import_durable_replayed :
    ∃ c, (importSystem sampleReaders).Reachable (importRules sampleReaders).Allows
        (Config.init {}) c ∧
      (∃ summary, c.returned 1 = some (sampleImportCall, .accepted summary true)) ∧
      c.state.records.payments.length = 1 ∧
      BodyHeld sampleReaders sampleImportCall c.state.records := by
  obtain ⟨c, hc, c', hstep, summary, hallow, hret, hnew, hlen⟩ :
      ∃ c, (importSystem sampleReaders).replay (importRules sampleReaders).Allows
        (Config.init {}) replayedImportMoves = some c ∧
          ∃ c', (importSystem sampleReaders).step c (.run 1 sampleSurroundings) = some c' ∧
            ∃ summary, (importRules sampleReaders).Allows c (.run 1 sampleSurroundings) ∧
              c'.returned 1 = some (sampleImportCall, .accepted summary true) ∧
              c.returned 1 = none ∧ c'.state.records.payments.length = 1 :=
    ⟨_, rfl, _, rfl, _, by decide, rfl, rfl, rfl⟩
  have hreach := System.reachable_of_replay replayedImportMoves hc
  have hheld := import_durable sampleReaders {} hreach hallow hstep hret (by simp [hnew])
  exact ⟨c', .step hreach hallow hstep, ⟨summary, hret⟩, hlen, hheld⟩

/-! ## A refund and its payment, imported side by side -/

def refundImportCall : ImportCall ImportRequestDto where
  ctx := ⟨"user-1", "m-1", [.operator], "correlation-2"⟩
  input := ⟨⟨"gateway", [.refund {
    lineage := ⟨"gateway", "refund-1", "2026-02-02T10:00:00Z", "v1"⟩
    refundId := "refund-1"
    paymentId := "pay-1"
    amount := ⟨1_000, "INR"⟩
    status := .processed
    createdAt := "2026-02-02T10:00:00Z"
    settledAt := none }]⟩, "key-2"⟩

/-- The refund its request normalizes to. -/
def importedRefund : FinancialRecord :=
  .refund {
    id := "record-2"
    scope := ⟨"m-1"⟩
    lineage := ⟨"gateway", "refund-1", ⟨1_770_026_400_000⟩, ⟨0⟩, "v1"⟩
    refundId := "refund-1"
    paymentId := "pay-1"
    amount := ⟨1_000, "INR"⟩
    status := .processed
    createdAt := ⟨1_770_026_400_000⟩
    settledAt := none }

def refundSurroundings : ImportSurroundings := ⟨⟨0⟩, "import-2", fun _ => "record-2"⟩

/-- Between the insert of the refund and its commit the payment is imported. -/
def overlappingMoves : List (Move (ImportCall ImportRequestDto) ImportSurroundings) :=
  [.call refundImportCall] ++ List.replicate 5 (.run 0 refundSurroundings) ++
    [.call sampleImportCall] ++ List.replicate 9 (.run 1 sampleSurroundings) ++
      List.replicate 4 (.run 0 refundSurroundings)

/-- The refund is accepted, its payment is stored and it is not. -/
theorem overlap_accepted_without_refund :
    ∃ c, (importSystem sampleReaders).Reachable (fun _ _ => True) (Config.init {}) c ∧
      (∃ summary, c.returned 0 = some (refundImportCall, .accepted summary false)) ∧
      c.state.records.Held "m-1" samplePayment ∧ c.state.records.refunds = [] ∧
      ¬ BodyHeld sampleReaders refundImportCall c.state.records := by
  obtain ⟨c, hc, summary, hret, hpayment, hrefunds⟩ :
      ∃ c, (importSystem sampleReaders).replay (fun _ _ => True) (Config.init {})
        overlappingMoves = some c ∧
          ∃ summary, c.returned 0 = some (refundImportCall, .accepted summary false) ∧
            c.state.records.Held "m-1" samplePayment ∧ c.state.records.refunds = [] :=
    ⟨_, rfl, _, rfl, by decide, rfl⟩
  refine ⟨c, System.reachable_of_replay overlappingMoves hc, ⟨summary, hret⟩, hpayment, hrefunds,
    ?_⟩
  intro hheld
  have hrefund := hheld _ rfl _ 0 (List.mem_singleton_self _) "record-2" ⟨0⟩ importedRefund rfl
    (fun p hp => ?_)
  · have hkeys : c.state.records.keys .refund = [] := by
      rw [RecordStore.keys, hrefunds, List.map_nil]
    have hmem : importedRefund.sourceKey "m-1" ∈ c.state.records.keys .refund := hrefund
    rw [hkeys] at hmem
    cases hmem
  · cases hp
    exact ⟨_, hpayment, rfl, rfl⟩

end SettlementOps
