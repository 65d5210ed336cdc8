import SettlementOps.Import.Normalizer
import SettlementOps.Store.Delivery
import SettlementOps.Store.Tenants

/-!
# From a request to the unit of its payment

A request is normalized, inserted into a store that holds nothing, and the payment it is about
is loaded.  What the unit says depends on the contents of the request only, not on the ids and
times generated at its ingestion.

* `importRequest` — normalize and insert.
* `dtoContent` — what a record of a request says.
* `loadImported_delivered` — the unit has the amounts and times of the contents.
-/

namespace SettlementOps

/-! ## Importing and loading -/

section Import

variable (parseDate : String → Option Date) (ctx : RequestContext) (recordId : Nat → String)
  (ingestedAt : Date) (importId : String)

/-- The records of a request that normalize. -/
def requestRecords (dtos : List FinancialRecordDto) : List FinancialRecord :=
  normalizedOf (normalizeRecords parseDate ctx dtos recordId ingestedAt)

/-- The store after the request was the first to be imported. -/
def importRequest (dtos : List FinancialRecordDto) : RecordStore :=
  (insertMany (scopeOf ctx) importId (requestRecords parseDate ctx recordId ingestedAt dtos) {}).2

/-- The unit of the payment that was imported under a source record id. -/
def loadImported (dtos : List FinancialRecordDto) (paymentId : String) :
    Option ReconciliationUnit :=
  let store := importRequest parseDate ctx recordId ingestedAt importId dtos
  (findSource ctx.tenantId (fun p : PaymentRow => p.toRowBase) store.payments
    (some paymentId)).bind fun p => loadUnit store (scopeOf ctx) p.id

end Import

/-! ## The contents of a request -/

section Contents

variable {parseDate : String → Option Date}

/-- What a record of a request says, if it normalizes. -/
def dtoContent (parseDate : String → Option Date) (dto : FinancialRecordDto) :
    Option FinancialRecord :=
  (normalizeRecord parseDate ⟨"", "", [], ""⟩ ⟨dto, 0, "", ⟨0⟩⟩).toOption

theorem toOption_bind {ε α β : Type} (x : Except ε α) (f : α → Except ε β) :
    (x >>= f).toOption = x.toOption.bind fun a => (f a).toOption := by
  cases x <;> rfl

theorem toOption_map {ε α β : Type} (x : Except ε α) (f : α → β) :
    (f <$> x).toOption = x.toOption.map f := by
  cases x <;> rfl

/-- The index of a record tells only errors apart. -/
theorem toMoney_index (dto : MoneyDto) (i j : Nat) :
    (toMoney dto i).toOption = (toMoney dto j).toOption := by
  unfold toMoney
  split <;> rfl

theorem toDate_index (value field : String) (i j : Nat) :
    (toDate parseDate value field i).toOption = (toDate parseDate value field j).toOption := by
  unfold toDate
  split <;> rfl

theorem optionalDate_index (value : Option String) (field : String) (i j : Nat) :
    (optionalDate parseDate value field i).toOption =
      (optionalDate parseDate value field j).toOption := by
  unfold optionalDate toDate
  split
  · rfl
  · split <;> rfl

theorem normalizeKind_index (common : RecordBase) (dto : FinancialRecordDto) (i j : Nat) :
    (normalizeKind parseDate common i dto).toOption =
      (normalizeKind parseDate common j dto).toOption := by
  cases dto <;>
    simp only [normalizeKind, toOption_bind, toMoney_index _ i j, toDate_index _ _ i j,
      optionalDate_index _ _ i j]

/-- Wherever a record is imported, it says what the request says. -/
theorem normalizeRecord_content (ctx : RequestContext) (input : NormalizationInput) :
    (normalizeRecord parseDate ctx input).toOption.map (·.content) =
      dtoContent parseDate input.dto := by
  have hkind : ∀ observedAt,
      (normalizeKind parseDate (normalizedBase ctx input observedAt) input.index
          input.dto).toOption.map (·.content) =
        (normalizeKind parseDate
          (normalizedBase ⟨"", "", [], ""⟩ ⟨input.dto, 0, "", ⟨0⟩⟩ observedAt) 0
          input.dto).toOption := by
    intro observedAt
    generalize hblank : normalizedBase ⟨"", "", [], ""⟩ ⟨input.dto, 0, "", ⟨0⟩⟩ observedAt = blank
    have hwith : normalizeKind parseDate blank input.index input.dto = (·.withBase blank) <$>
        normalizeKind parseDate (normalizedBase ctx input observedAt) input.index input.dto :=
      normalizeKind_withBase _
    rw [normalizeKind_index blank _ 0 input.index, hwith, toOption_map]
    cases hr : normalizeKind parseDate (normalizedBase ctx input observedAt) input.index
        input.dto with
    | error e => rfl
    | ok r =>
        rw [← hblank]
        simp only [Except.toOption, Option.map_some, FinancialRecord.content,
          FinancialRecord.anonymous, normalizeKind_base hr]
        rfl
  unfold dtoContent normalizeRecord
  rw [toOption_bind, toOption_bind, toDate_index _ _ input.index 0, Option.map_bind]
  exact congrArg _ (funext hkind)

theorem normalizeKind_kind {common : RecordBase} {i : Nat} {dto : FinancialRecordDto}
    {r : FinancialRecord} (h : normalizeKind parseDate common i dto = .ok r) :
    r.kind = dto.kind := by
  cases dto with
  | taxLine _ | settlementLine _ =>
      obtain ⟨_, -, h⟩ := bind_eq_ok_iff.1 h
      cases h
      rfl
  | order _ | feeLine _ | adjustment _ | bankCredit _ | ledgerEntry _ =>
      obtain ⟨_, -, h⟩ := bind_eq_ok_iff.1 h
      obtain ⟨_, -, h⟩ := bind_eq_ok_iff.1 h
      cases h
      rfl
  | payment _ | refund _ | settlement _ =>
      obtain ⟨_, -, h⟩ := bind_eq_ok_iff.1 h
      obtain ⟨_, -, h⟩ := bind_eq_ok_iff.1 h
      obtain ⟨_, -, h⟩ := bind_eq_ok_iff.1 h
      cases h
      rfl

/-- A record keeps its kind and its source record id. -/
theorem dtoContent_asParent {dto : FinancialRecordDto} {r : FinancialRecord}
    (h : dtoContent parseDate dto = some r) :
    r.asParent = (dto.kind, dto.lineage.sourceRecordId) := by
  have hok : normalizeRecord parseDate ⟨"", "", [], ""⟩ ⟨dto, 0, "", ⟨0⟩⟩ = .ok r := by
    unfold dtoContent at h
    cases hn : normalizeRecord parseDate ⟨"", "", [], ""⟩ ⟨dto, 0, "", ⟨0⟩⟩ with
    | error e =>
        rw [hn] at h
        cases h
    | ok r' =>
        rw [hn] at h
        exact congrArg _ (Option.some.inj h)
  obtain ⟨observedAt, -, hkind⟩ := bind_eq_ok_iff.1 hok
  rw [FinancialRecord.asParent, normalizeKind_kind hkind, normalizeKind_base hkind]
  rfl

/-- The contents of a request, in its order. -/
def contentsOf (parseDate : String → Option Date) (dtos : List FinancialRecordDto) :
    List FinancialRecord :=
  dtos.filterMap (dtoContent parseDate)

theorem requestRecords_contents (ctx : RequestContext) (recordId : Nat → String)
    (ingestedAt : Date) (dtos : List FinancialRecordDto) :
    (requestRecords parseDate ctx recordId ingestedAt dtos).map (·.content) =
      contentsOf parseDate dtos := by
  unfold requestRecords normalizedOf normalizeRecords contentsOf
  rw [List.filterMap_map, List.map_filterMap]
  simp only [Function.comp_def, normalizeRecord_content]
  conv_rhs => rw [← List.zipIdx_map_fst 0 dtos, List.filterMap_map]
  rfl

/-- The ids of the records are those drawn for them. -/
theorem requestRecords_ids {recordId : Nat → String} (hrecordId : Function.Injective recordId)
    (ctx : RequestContext) (ingestedAt : Date) (dtos : List FinancialRecordDto) :
    ((requestRecords parseDate ctx recordId ingestedAt dtos).map (·.base.id)).Nodup := by
  have hindex : (dtos.zipIdx.map Prod.snd).Nodup := by
    rw [List.zipIdx_map_snd]
    exact List.nodup_range'
  unfold requestRecords normalizedOf normalizeRecords
  rw [List.filterMap_map, List.map_filterMap]
  have hid : ∀ entry : FinancialRecordDto × Nat, ∀ id,
      (normalizeRecord parseDate ctx
        ⟨entry.1, entry.2, recordId entry.2, ingestedAt⟩).toOption.map (·.base.id) = some id →
      id = recordId entry.2 := by
    intro entry id h
    obtain ⟨r, hr, rfl⟩ := Option.map_eq_some_iff.1 h
    have hok : normalizeRecord parseDate ctx
        ⟨entry.1, entry.2, recordId entry.2, ingestedAt⟩ = .ok r := by
      cases hn : normalizeRecord parseDate ctx
          ⟨entry.1, entry.2, recordId entry.2, ingestedAt⟩ with
      | error e =>
          rw [hn] at hr
          cases hr
      | ok r' =>
          rw [hn] at hr
          exact congrArg _ (Option.some.inj hr)
    obtain ⟨observedAt, hbase, -⟩ := normalizeRecord_again hok ctx _ rfl rfl
    rw [hbase]
    rfl
  refine List.pairwise_filterMap.2 ((List.pairwise_map.1 hindex).imp ?_)
  intro a b hne id ha id' hb heq
  rw [hid a id ha, hid b id' hb] at heq
  exact hne (hrecordId heq)

/-! ## What the unit says -/

/-- What is left of the base of a record. -/
def RecordBase.content (b : RecordBase) : RecordBase :=
  ⟨"", ⟨""⟩, { b.lineage with ingestedAt := ⟨0⟩ }⟩

/-- The contents of a delivery. -/
def Delivery.content (d : Delivery) : Delivery where
  payments := d.payments.map fun r => { r with toRecordBase := r.toRecordBase.content }
  fees := d.fees.map fun r => { r with toRecordBase := r.toRecordBase.content }
  taxes := d.taxes.map fun r => { r with toRecordBase := r.toRecordBase.content }
  refunds := d.refunds.map fun r => { r with toRecordBase := r.toRecordBase.content }
  adjustments := d.adjustments.map fun r => { r with toRecordBase := r.toRecordBase.content }
  settlements := d.settlements.map fun r => { r with toRecordBase := r.toRecordBase.content }
  lines := d.lines.map fun r => { r with toRecordBase := r.toRecordBase.content }
  credits := d.credits.map fun r => { r with toRecordBase := r.toRecordBase.content }

theorem deliveryOf_content (records : List FinancialRecord) :
    deliveryOf (records.map (·.content)) = (deliveryOf records).content := by
  simp only [deliveryOf, Delivery.content, List.filterMap_map, List.map_filterMap,
    Delivery.mk.injEq]
  refine ⟨?_, ?_, ?_, ?_, ?_, ?_, ?_, ?_⟩ <;>
    exact List.filterMap_congr fun r _ => by cases r <;> rfl

/-- References are contents, so what they lead to is. -/
theorem aboutPayment_of_content {d : Delivery} {p : PaymentRecord}
    (h : AboutPayment d.content p) :
    ∃ p' : PaymentRecord, p = { p' with toRecordBase := p'.toRecordBase.content } ∧
      AboutPayment d p' := by
  obtain ⟨p', hpayments, rfl⟩ := List.map_eq_singleton_iff.1 h.payment
  have hsettlement : ∀ id, (∃ s ∈ d.content.settlements, id = s.source) →
      ∃ s ∈ d.settlements, id = s.source := by
    rintro id ⟨s, hs, rfl⟩
    obtain ⟨s', hs', rfl⟩ := List.mem_map.1 hs
    exact ⟨s', hs', rfl⟩
  refine ⟨p', rfl, {
    payment := hpayments
    fees := fun f hf => ?_
    taxes := fun t ht => ?_
    refunds := fun r hr => ?_
    lines := fun l hl => ?_
    oneLine := ?_
    settlements := fun s hs => ?_
    adjustments := fun a ha id hid =>
      hsettlement id (h.adjustments _ (List.mem_map_of_mem ha) id hid)
    credits := fun b hb => ?_ }⟩
  · have hpay := h.fees _ (List.mem_map.2 ⟨f, hf, rfl⟩)
    exact hpay
  · obtain ⟨f, hf, hid⟩ := h.taxes _ (List.mem_map_of_mem ht)
    obtain ⟨f', hf', rfl⟩ := List.mem_map.1 hf
    exact ⟨f', hf', hid⟩
  · have hpay := h.refunds _ (List.mem_map.2 ⟨r, hr, rfl⟩)
    exact hpay
  · obtain ⟨hpay, hs⟩ := h.lines _ (List.mem_map_of_mem hl)
    exact ⟨hpay, hsettlement _ hs⟩
  · have hone := h.oneLine
    rw [Delivery.content, List.map_map] at hone
    exact hone
  · obtain ⟨l, hl, hid⟩ := h.settlements _ (List.mem_map_of_mem hs)
    obtain ⟨l', hl', rfl⟩ := List.mem_map.1 hl
    exact ⟨l', hl', hid⟩
  · obtain ⟨s, hs, hutr⟩ := h.credits _ (List.mem_map_of_mem hb)
    obtain ⟨s', hs', rfl⟩ := List.mem_map.1 hs
    exact ⟨s', hs', hutr⟩

theorem deliveredUnit_content {d : Delivery} {p : PaymentRecord} {unit : ReconciliationUnit}
    (h : DeliveredUnit d p unit) :
    DeliveredUnit d.content { p with toRecordBase := p.toRecordBase.content } unit where
  amount := h.amount
  method := h.method
  status := h.status
  authorizedAt := h.authorizedAt
  capturedAt := h.capturedAt
  fees := by
    rw [h.fees, Delivery.content, List.map_map]
    rfl
  taxes := by
    rw [h.taxes, Delivery.content, List.map_map]
    rfl
  refunds := by
    rw [h.refunds, Delivery.content, List.map_map]
    rfl
  adjustments := by
    rw [h.adjustments, Delivery.content, List.filter_map, List.map_map]
    rfl
  settlements := by
    rw [Delivery.content, List.map_map]
    exact h.settlements
  settlementIds := h.settlementIds
  lines := by
    rw [h.lines, Delivery.content, List.map_map]
    rfl
  allLines := h.allLines
  lineSettlements := h.lineSettlements
  credits := by
    rw [Delivery.content, List.map_map]
    exact h.credits
  duplicates := h.duplicates

/-- **The unit of an imported payment** has the amounts and times the request says, whatever
ids it is stored under. -/
theorem loadImported_delivered {recordId : Nat → String}
    (hrecordId : Function.Injective recordId) (ctx : RequestContext) (ingestedAt : Date)
    (importId : String) {dtos : List FinancialRecordDto} {p : PaymentRecord}
    (hdistinct : ((contentsOf parseDate dtos).map (·.asParent)).Nodup)
    (habout : AboutPayment (deliveryOf (contentsOf parseDate dtos)) p) :
    ∃ unit, loadImported parseDate ctx recordId ingestedAt importId dtos p.source = some unit ∧
      DeliveredUnit (deliveryOf (contentsOf parseDate dtos)) p unit := by
  have hids : ((requestRecords parseDate ctx recordId ingestedAt dtos).map (·.base.id)).Nodup :=
    requestRecords_ids hrecordId ctx ingestedAt dtos
  have hcontents : (requestRecords parseDate ctx recordId ingestedAt dtos).map (·.content) =
      contentsOf parseDate dtos := requestRecords_contents ctx recordId ingestedAt dtos
  generalize hrecords : requestRecords parseDate ctx recordId ingestedAt dtos = records at *
  rw [← hcontents] at hdistinct habout ⊢
  rw [deliveryOf_content] at habout ⊢
  have hdistinct' : (records.map (·.asParent)).Nodup := by
    rw [List.map_map] at hdistinct
    simpa only [Function.comp_def, content_asParent] using hdistinct
  obtain ⟨p', rfl, habout'⟩ := aboutPayment_of_content habout
  obtain ⟨unit, hload, hunit⟩ :=
    loadUnit_delivery hids hdistinct' habout' ctx.tenantId importId
  refine ⟨unit, ?_, deliveredUnit_content hunit⟩
  have hstored := insertMany_stored hids hdistinct' ctx.tenantId importId
  -- the only row of a payment is its row
  have hpayments : (insertMany (scopeOf ctx) importId records {}).2.payments =
      (deliveryOf records).payments.filterMap fun x =>
        ((FinancialRecord.payment x).row ctx.tenantId importId (setLinks records)).bind
          StoredRow.asPayment := by
    rw [deliveryOf, List.filterMap_filterMap]
    exact hstored.table selects_payment rfl
  rw [habout'.payment] at hpayments
  unfold loadImported importRequest
  dsimp only
  rw [hrecords, hpayments]
  simp [findSource, FinancialRecord.row, StoredRow.asPayment, sourcedRow, rowBase,
    RecordBase.source, RecordBase.content]
  exact hload

end Contents

end SettlementOps
