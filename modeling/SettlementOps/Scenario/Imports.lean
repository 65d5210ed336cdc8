import SettlementOps.Generator.Identifiers
import SettlementOps.Runs.Beside
import SettlementOps.Scenario.Verdicts

/-!
# Scenarios in a shared store

Scenarios are instantiated one after another for the merchants of one store.  All identifiers of an
instantiation come from its seed, whatever the scenario.

* `scenario_found` — what is found of a scenario, whatever else has been imported.
* `Ends`, `OfSeed`, `not_meets_of_suffix_ne` — the identifiers of different suffixes.
* `Clashes` — instantiations of a merchant with one suffix.
* `scenario_instantiated` — the first of them, and no later one, has a payment to reconcile.
-/

namespace SettlementOps.Scenario

open Generator

/-! ## Instantiations -/

/-- A scenario that is instantiated: by whom, with which seed, under which import and when. -/
structure Instantiation where
  ctx : RequestContext
  definition : ScenarioDefinition
  seed : Int
  importId : String
  ingestedAt : Date

/-- The import of an instantiation. -/
def Instantiation.batch (parseDate : String → Option Date) (recordId : Nat → String)
    (x : Instantiation) : ImportBatch where
  merchantId := x.ctx.tenantId
  importId := x.importId
  records := requestRecords parseDate x.ctx recordId x.ingestedAt
    (generateScenarioBatch x.definition x.seed).records

section Found

variable {parseDate : String → Option Date}

/-- The payment of an instantiation that is imported alone. -/
theorem batch_payment (hreads : ReadsISO parseDate) {recordId : Nat → String}
    (hrecordId : Function.Injective recordId) (x : Instantiation) :
    ∃ row unit, (insertMany (scopeOf x.ctx) x.importId (x.batch parseDate recordId).records
        {}).2.payments = [row] ∧
      row.importId = some x.importId ∧ row.merchantId = x.ctx.tenantId ∧ row.status = .captured ∧
      loadUnit (insertMany (scopeOf x.ctx) x.importId (x.batch parseDate recordId).records {}).2
        (scopeOf x.ctx) row.id = some unit ∧
      DeliveredUnit (x.definition.delivery (refs x.seed))
        (paymentContent (refs x.seed) x.definition.grossMinor x.definition.paymentMethod
          CAPTURED_AT) unit := by
  have habout := delivery_aboutPayment x.definition (refs x.seed)
  rw [← delivery_eq hreads] at habout
  obtain ⟨row, unit, hpayments, himport, hmerchant, hstatus, hload, hunit⟩ :=
    importRequest_payment hrecordId x.ctx x.ingestedAt x.importId
      (contents_nodup hreads x.definition (refs x.seed)) habout
  rw [delivery_eq hreads] at hunit
  exact ⟨row, unit, hpayments, himport, hmerchant, hstatus, hload, hunit⟩

theorem batch_captured (hreads : ReadsISO parseDate) {recordId : Nat → String}
    (hrecordId : Function.Injective recordId) (x : Instantiation) :
    ∃ row unit, (x.batch parseDate recordId).alone.capturedOf (scopeOf x.ctx) x.importId = [row] ∧
      loadUnit (x.batch parseDate recordId).alone (scopeOf x.ctx) row.id = some unit ∧
      DeliveredUnit (x.definition.delivery (refs x.seed))
        (paymentContent (refs x.seed) x.definition.grossMinor x.definition.paymentMethod
          CAPTURED_AT) unit := by
  obtain ⟨row, unit, hpayments, hrowImport, hmerchant, hstatus, hload, hunit⟩ :=
    batch_payment hreads hrecordId x
  refine ⟨row, unit, ?_, hload, hunit⟩
  have halone : (x.batch parseDate recordId).alone.payments = [row] := hpayments
  unfold RecordStore.capturedOf
  rw [halone]
  have hkept : row.merchantId = x.ctx.tenantId ∧ row.importId = some x.importId ∧
      row.status = .captured := ⟨hmerchant, hrowImport, hstatus⟩
  exact List.filter_cons_of_pos (decide_eq_true hkept)

/-- The payment of an import that meets no other, in the store of all of them. -/
theorem captured_delivered (hreads : ReadsISO parseDate) {recordId : Nat → String}
    (hrecordId : Function.Injective recordId) {x : Instantiation} {before after : List ImportBatch}
    (hids : DistinctIds (before ++ x.batch parseDate recordId :: after))
    (hsep : Separated (x.batch parseDate recordId).owns
      (before ++ x.batch parseDate recordId :: after))
    (himport : ∀ other ∈ before ++ after, other.importId ≠ x.importId) :
    ∃ row unit, (importBatches (before ++ x.batch parseDate recordId :: after) {}).capturedOf
        (scopeOf x.ctx) x.importId = [row] ∧
      loadUnit (importBatches (before ++ x.batch parseDate recordId :: after) {})
        (scopeOf x.ctx) row.id = some unit ∧
      DeliveredUnit (x.definition.delivery (refs x.seed))
        (paymentContent (refs x.seed) x.definition.grossMinor x.definition.paymentMethod
          CAPTURED_AT) unit := by
  obtain ⟨row, unit, hcaptured, hload, hunit⟩ := batch_captured hreads hrecordId x
  have hsame := sameUnits_alone hids hsep himport
  refine ⟨row, unit, hsame.captured.trans hcaptured, ?_, hunit⟩
  rw [← hload]
  exact hsame.units row (hcaptured ▸ List.mem_singleton_self row)

/-- **What is found of a scenario.**  Whatever else has been imported, as long as it meets no
record of the scenario, the import has one payment to reconcile, and the verdict and the gate say
of it what the scenario was designed for. -/
theorem scenario_found (hreads : ReadsISO parseDate) {recordId : Nat → String}
    (hrecordId : Function.Injective recordId) {x : Instantiation}
    (hdef : x.definition ∈ SCENARIOS) {before after : List ImportBatch}
    (hids : DistinctIds (before ++ x.batch parseDate recordId :: after))
    (hsep : Separated (x.batch parseDate recordId).owns
      (before ++ x.batch parseDate recordId :: after))
    (himport : ∀ other ∈ before ++ after, other.importId ≠ x.importId) :
    ∃ row unit, (importBatches (before ++ x.batch parseDate recordId :: after) {}).capturedOf
        (scopeOf x.ctx) x.importId = [row] ∧
      loadUnit (importBatches (before ++ x.batch parseDate recordId :: after) {})
        (scopeOf x.ctx) row.id = some unit ∧ Found x.definition unit := by
  obtain ⟨row, unit, hcaptured, hload, hunit⟩ :=
    captured_delivered hreads hrecordId hids hsep himport
  exact ⟨row, unit, hcaptured, hload, found_of_delivered hdef hunit⟩

end Found

/-! ## Identifiers -/

theorem plain_suffix (seed : Int) : Plain (suffix seed) := by
  have hzero : '0' ∈ suffixChars := by decide
  have hminus : '-' ∈ suffixChars := by decide
  have hdigits : ∀ c ∈ toBase36 seed.natAbs, c ∈ suffixChars := by
    intro c hc
    unfold toBase36 at hc
    split at hc
    · rw [List.mem_singleton.1 hc]
      exact hzero
    · obtain ⟨d, hd, rfl⟩ := List.mem_map.1 (List.mem_reverse.1 hc)
      exact base36Digit_mem (Nat.digits_lt_base (by decide) hd)
  have htext : ∀ c ∈ (seedText seed).toList, c ∈ suffixChars := by
    rw [seedText, String.toList_ofList]
    refine List.forall_mem_append.2 ⟨?_, hdigits⟩
    split
    · exact List.forall_mem_singleton.2 hminus
    · exact List.forall_mem_nil _
  intro c hc
  unfold suffix at hc
  rw [String.toList_ofList] at hc
  have hpadded := List.mem_of_mem_drop hc
  rw [padStart, String.toList_ofList, List.leftpad] at hpadded
  rcases List.mem_append.1 hpadded with hpad | hc
  · rw [(List.mem_replicate.1 hpad).2]
    exact hzero
  · exact htext c hc

/-- An identifier that ends with a suffix, or with `_b` after it. -/
def Ends (suffix id : String) : Prop :=
  ∃ word, id = word ++ suffix ∨ id = word ++ suffix ++ "_b"

/-- A suffix has no underscore, so an identifier that ends with one does not end with `_b`. -/
theorem not_ends_b {s word text : String} (hs : Plain s) (hlen : 2 ≤ s.length) :
    word ++ s ≠ text ++ "_b" := by
  intro heq
  have hlist := congrArg String.toList heq
  rw [String.toList_append, String.toList_append] at hlist
  rw [← String.length_toList] at hlen
  have hlast : s.toList.drop (s.toList.length - 2) = "_b".toList := by
    rw [← List.take_append_drop (s.toList.length - 2) s.toList, ← List.append_assoc] at hlist
    refine List.append_inj_right' hlist ?_
    rw [List.length_drop]
    exact Nat.sub_sub_self hlen
  have hmem : '_' ∈ s.toList.drop (s.toList.length - 2) := by
    rw [hlast]
    decide
  have hunderscore := hs '_' (List.mem_of_mem_drop hmem)
  exact absurd hunderscore (by decide)

/-- An identifier ends with one suffix of a length. -/
theorem ends_unique {s t id : String} (hs : Plain s) (ht : Plain t) (hlen : s.length = t.length)
    (htwo : 2 ≤ s.length) (h : Ends s id) (h' : Ends t id) : s = t := by
  have hcancel : ∀ {w w' : String}, w ++ s = w' ++ t → s = t := fun heq => by
    have hlist := congrArg String.toList heq
    rw [String.toList_append, String.toList_append] at hlist
    exact String.toList_injective (List.append_inj_right' hlist hlen)
  obtain ⟨w, hw⟩ := h
  obtain ⟨w', hw'⟩ := h'
  rcases hw with rfl | rfl <;> rcases hw' with hw' | hw'
  · exact hcancel hw'
  · exact absurd hw' (not_ends_b hs htwo)
  · exact absurd hw'.symm (not_ends_b ht (hlen ▸ htwo))
  · exact hcancel ((String.append_left_inj _).1 hw')

/-- A record that mentions only what ends with its suffix. -/
structure OfSeed (suffix : String) (dto : FinancialRecordDto) : Prop where
  mentions : ∀ id ∈ dto.mentions, Ends suffix id
  utrs : ∀ utr ∈ dto.utrs, ∃ tail, utr = (refsOf suffix).utr ++ tail
  readable : Readable dto

theorem refs_eq (seed : Int) : refs seed = refsOf (suffix seed) := rfl

section Records

variable (definition : ScenarioDefinition) (suffix : String)

theorem ends_word (word : String) : Ends suffix (word ++ suffix) := ⟨word, .inl rfl⟩

theorem ends_second (word : String) : Ends suffix (word ++ suffix ++ "_b") := ⟨word, .inr rfl⟩

theorem ofSeed_payment : OfSeed suffix (paymentRecord definition (refsOf suffix)) where
  mentions := List.forall_mem_singleton.2 (ends_word suffix "pay_")
  utrs := List.forall_mem_nil _
  readable := ⟨by simp [FinancialRecordDto.times, paymentRecord, lineage],
    List.forall_mem_singleton.2 rfl⟩

theorem ofSeed_fees (fee tax : Int) :
    ∀ dto ∈ feeRecords (refsOf suffix) fee tax CAPTURED_AT, OfSeed suffix dto := by
  refine List.forall_mem_cons.2 ⟨⟨?_, List.forall_mem_nil _, ?_⟩,
    List.forall_mem_singleton.2 ⟨?_, List.forall_mem_nil _, ?_⟩⟩
  · exact List.forall_mem_cons.2
      ⟨ends_word suffix "fee_", List.forall_mem_singleton.2 (ends_word suffix "pay_")⟩
  · exact (ofCase_feeLine suffix fee CAPTURED_AT).readable
  · exact List.forall_mem_cons.2
      ⟨ends_word suffix "tax_", List.forall_mem_singleton.2 (ends_word suffix "fee_")⟩
  · exact (ofCase_taxLine suffix tax CAPTURED_AT).readable

theorem ofSeed_settlement (grossMinor netMinor : Int) {id utr : String} (hid : Ends suffix id)
    (hutr : ∃ tail, utr = (refsOf suffix).utr ++ tail) :
    OfSeed suffix
      (.settlement (settlementRecord (refsOf suffix) grossMinor netMinor id utr)) where
  mentions := List.forall_mem_cons.2 ⟨hid, List.forall_mem_singleton.2 hid⟩
  utrs := List.forall_mem_singleton.2 hutr
  readable := ⟨by simp [FinancialRecordDto.times, settlementRecord, lineage],
    List.forall_mem_cons.2 ⟨rfl, List.forall_mem_singleton.2 rfl⟩⟩

theorem ofSeed_settlementLine (amountMinor : Int) {settlementId id : String}
    (hsettlement : Ends suffix settlementId) (hid : Ends suffix id) :
    OfSeed suffix
      (.settlementLine (settlementLine (refsOf suffix) amountMinor settlementId id)) where
  mentions := List.forall_mem_cons.2 ⟨hid, List.forall_mem_cons.2
    ⟨hsettlement, List.forall_mem_singleton.2 (ends_word suffix "pay_")⟩⟩
  utrs := List.forall_mem_nil _
  readable := ⟨by simp [FinancialRecordDto.times, settlementLine, lineage],
    List.forall_mem_singleton.2 rfl⟩

theorem ofSeed_bankCredit (amountMinor : Int) {utr : String} (id : Option String)
    (creditedAt : Date) (hutr : ∃ tail, utr = (refsOf suffix).utr ++ tail)
    (hid : Ends suffix (id.getD ("bc_" ++ suffix))) :
    OfSeed suffix
      (.bankCredit (bankCredit (refsOf suffix) amountMinor utr id creditedAt)) where
  mentions := List.forall_mem_singleton.2 hid
  utrs := List.forall_mem_singleton.2 hutr
  readable := ⟨by simp [FinancialRecordDto.times, bankCredit, lineage],
    List.forall_mem_singleton.2 rfl⟩

theorem ofSeed_refund (amountMinor : Int) :
    OfSeed suffix (.refund (refundRecord (refsOf suffix) amountMinor)) where
  mentions := List.forall_mem_cons.2
    ⟨ends_word suffix "ref_", List.forall_mem_singleton.2 (ends_word suffix "pay_")⟩
  utrs := List.forall_mem_nil _
  readable := ⟨by simp [FinancialRecordDto.times, refundRecord, lineage],
    List.forall_mem_singleton.2 rfl⟩

theorem ofSeed_adjustment (reference : String) (amountMinor : Int) (effectiveAt : Date)
    (reasonCode : String) {id : String} (hid : Ends suffix id) :
    OfSeed suffix (.adjustment
      (adjustment (refsOf suffix) reference amountMinor effectiveAt reasonCode id)) where
  mentions := List.forall_mem_cons.2
    ⟨hid, List.forall_mem_singleton.2 (ends_word suffix "set_")⟩
  utrs := List.forall_mem_nil _
  readable := ⟨by simp [FinancialRecordDto.times, adjustment, lineage],
    List.forall_mem_singleton.2 rfl⟩

theorem settledAtOnce_ofSeed (net : Int) :
    ∀ dto ∈ settledAtOnce definition (refsOf suffix) net, OfSeed suffix dto := by
  have hutr : ∃ tail, (refsOf suffix).utr = (refsOf suffix).utr ++ tail :=
    ⟨"", String.append_empty.symm⟩
  refine List.forall_mem_cons.2 ⟨?_, List.forall_mem_cons.2 ⟨?_, List.forall_mem_singleton.2 ?_⟩⟩
  · exact ofSeed_settlement suffix _ _ (ends_word suffix "set_") hutr
  · exact ofSeed_settlementLine suffix _ (ends_word suffix "set_") (ends_word suffix "sl_")
  · exact ofSeed_bankCredit suffix _ none _ hutr (ends_word suffix "bc_")

/-- **All records of a scenario** mention only what ends with its suffix. -/
theorem scenarioRecords_ofSeed :
    ∀ dto ∈ scenarioRecords definition (refsOf suffix), OfSeed suffix dto := by
  have hutr : ∃ tail, (refsOf suffix).utr = (refsOf suffix).utr ++ tail :=
    ⟨"", String.append_empty.symm⟩
  have hsecondUtr : ∃ tail, (refsOf suffix).utr ++ "B" = (refsOf suffix).utr ++ tail :=
    ⟨"B", rfl⟩
  unfold scenarioRecords
  rw [feeAndTax_eq]
  have hfees := ofSeed_fees suffix
  refine List.forall_mem_cons.2 ⟨ofSeed_payment definition suffix, ?_⟩
  split
  · exact List.forall_mem_append.2 ⟨hfees _ _, settledAtOnce_ofSeed definition suffix _⟩
  · exact settledAtOnce_ofSeed definition suffix _
  · refine List.forall_mem_append.2 ⟨hfees _ _, ?_⟩
    simp only [List.forall_mem_cons]
    refine ⟨?_, ?_, ?_, ?_, ?_, ?_, List.forall_mem_nil _⟩
    · exact ofSeed_settlement suffix _ _ (ends_word suffix "set_") hutr
    · exact ofSeed_settlement suffix _ _ (ends_second suffix "set_") hsecondUtr
    · exact ofSeed_settlementLine suffix _ (ends_word suffix "set_") (ends_word suffix "sl_")
    · exact ofSeed_settlementLine suffix _ (ends_second suffix "set_") (ends_second suffix "sl_")
    · exact ofSeed_bankCredit suffix _ none _ hutr (ends_word suffix "bc_")
    · refine ofSeed_bankCredit suffix _ (some (suffix ++ "_b")) _ hsecondUtr ⟨"", .inr ?_⟩
      rw [String.empty_append]
      rfl
  · exact List.forall_mem_append.2 ⟨hfees _ _, List.forall_mem_cons.2
      ⟨ofSeed_refund suffix _, settledAtOnce_ofSeed definition suffix _⟩⟩
  · refine List.forall_mem_append.2 ⟨List.forall_mem_append.2
      ⟨hfees _ _, settledAtOnce_ofSeed definition suffix _⟩, ?_⟩
    exact List.forall_mem_cons.2
      ⟨ofSeed_adjustment suffix _ _ _ _ (ends_word suffix "adj_a_"), List.forall_mem_singleton.2
        (ofSeed_adjustment suffix _ _ _ _ (ends_word suffix "adj_b_"))⟩
  · exact List.forall_mem_append.2 ⟨List.forall_mem_append.2
      ⟨hfees _ _, settledAtOnce_ofSeed definition suffix _⟩, List.forall_mem_singleton.2
        (ofSeed_adjustment suffix _ _ _ _ (ends_word suffix "adj_late_"))⟩

/-- The only payment is the payment of the scenario. -/
theorem scenarioRecords_payment (r : Refs) : ∀ dto ∈ scenarioRecords definition r,
    dto.kind = .payment → dto = paymentRecord definition r := by
  obtain ⟨id, grossMinor, paymentMethod, expectedCause, expectsException⟩ := definition
  unfold scenarioRecords
  rw [feeAndTax_eq]
  cases id <;> simp [feeRecords, settledAtOnce, FinancialRecordDto.kind]

end Records

/-! ## One instantiation after another -/

/-- The records of an instantiation that are rejected. -/
def Instantiation.errors (parseDate : String → Option Date) (recordId : Nat → String)
    (x : Instantiation) : List ValidationError :=
  validationErrorsOf (normalizeRecords parseDate x.ctx
    (generateScenarioBatch x.definition x.seed).records recordId x.ingestedAt)

/-- Two instantiations for one merchant under one suffix. -/
def Instantiation.Clashes (x y : Instantiation) : Prop :=
  x.ctx.tenantId = y.ctx.tenantId ∧ suffix x.seed = suffix y.seed

instance (x y : Instantiation) : Decidable (x.Clashes y) := inferInstanceAs (Decidable (_ ∧ _))

/-- The imports of instantiations, numbered in their order. -/
def scenarioImports (parseDate : String → Option Date) (recordId : Nat → Nat → String)
    (xs : List Instantiation) : List ImportBatch :=
  xs.zipIdx.map fun entry => entry.1.batch parseDate (recordId entry.2)

section Sequence

variable {parseDate : String → Option Date} {recordId : Nat → String}

theorem errors_eq_nil (hreads : ReadsISO parseDate) (x : Instantiation) :
    x.errors parseDate recordId = [] := by
  unfold Instantiation.errors validationErrorsOf normalizeRecords
  rw [List.filterMap_map, List.filterMap_eq_nil_iff]
  rintro ⟨dto, j⟩ hdto
  have hseed := scenarioRecords_ofSeed x.definition (suffix x.seed) dto
    (List.fst_mem_of_mem_zipIdx hdto)
  obtain ⟨r, hr⟩ := hseed.readable.normalizes hreads x.ctx j (recordId j) x.ingestedAt
  rw [Function.comp_apply, hr]

/-- **Instantiations with different suffixes do not meet.** -/
theorem not_meets_of_suffix_ne {recordId' : Nat → String} {x y : Instantiation}
    (hne : suffix x.seed ≠ suffix y.seed) {r r' : FinancialRecord}
    (hr : r ∈ (x.batch parseDate recordId).records)
    (hr' : r' ∈ (y.batch parseDate recordId').records) (m : MerchantId) : ¬ r.Meets m r' := by
  obtain ⟨dto, hdto, j, hnormal, -⟩ := mem_requestRecords hr
  obtain ⟨dto', hdto', j', hnormal', -⟩ := mem_requestRecords hr'
  have hx := scenarioRecords_ofSeed x.definition (suffix x.seed) dto hdto
  have hy := scenarioRecords_ofSeed y.definition (suffix y.seed) dto' hdto'
  have hlen : (suffix x.seed).length = (suffix y.seed).length :=
    (length_suffix x.seed).trans (length_suffix y.seed).symm
  have htwo : 2 ≤ (suffix x.seed).length := by
    rw [length_suffix]
    decide
  refine not_meets_of_disjoint hnormal hnormal' (fun id hid hid' => ?_) (fun utr hutr hutr' => ?_) m
  · exact hne (ends_unique (plain_suffix _) (plain_suffix _) hlen htwo (hx.mentions id hid)
      (hy.mentions id hid'))
  · obtain ⟨a, ha⟩ := hx.utrs utr hutr
    obtain ⟨b, hb⟩ := hy.utrs utr hutr'
    exact hne (utr_unique (plain_suffix _) (plain_suffix _) hlen (ha.symm.trans hb))

/-- The identity of the payment depends on the seed alone. -/
theorem payment_key {x : Instantiation} {r : FinancialRecord}
    (hr : r ∈ (x.batch parseDate recordId).records) (hkind : r.kind = .payment) (m : MerchantId) :
    r.sourceKey m = ⟨m, some "gateway", "pay_" ++ suffix x.seed⟩ ∧ r.requiredParent = none := by
  obtain ⟨dto, hdto, j, hnormal, -⟩ := mem_requestRecords hr
  obtain ⟨observedAt, -, hnormalKind⟩ := bind_eq_ok_iff.1 hnormal
  have hdtoKind : dto.kind = .payment := (normalizeKind_kind hnormalKind).symm.trans hkind
  obtain rfl := scenarioRecords_payment x.definition (refs x.seed) dto hdto hdtoKind
  constructor
  · rw [FinancialRecord.sourceKey, hkind, normalizeKind_base hnormalKind]
    rfl
  · cases r <;> cases hkind
    rfl

theorem exists_payment (hreads : ReadsISO parseDate) (hrecordId : Function.Injective recordId)
    (x : Instantiation) : ∃ r ∈ (x.batch parseDate recordId).records, r.kind = .payment := by
  obtain ⟨row, -, hpayments, -⟩ := batch_payment hreads hrecordId x
  have hids : DistinctIds [x.batch parseDate recordId] := by
    unfold DistinctIds
    rw [List.flatMap_singleton]
    exact requestRecords_ids hrecordId _ _ _
  have hrow : StoredRow.payment row ∈
      (importBatches [x.batch parseDate recordId] {}).rowsOf .payment := by
    refine List.mem_map_of_mem ?_
    change row ∈ (insertMany (scopeOf x.ctx) x.importId _ {}).2.payments
    rw [hpayments]
    exact List.mem_singleton_self row
  obtain ⟨b, hb, r, hr, -, -, hkind, -⟩ := arrived_importBatches hids .payment _ hrow
  obtain rfl := List.mem_singleton.1 hb
  exact ⟨r, hr, hkind⟩

end Sequence

section Imports

variable {parseDate : String → Option Date} {recordId : Nat → Nat → String}
  (hids : Function.Injective2 recordId) {before after : List Instantiation} {x : Instantiation}

theorem scenarioImports_append_singleton (before : List Instantiation) (x : Instantiation) :
    scenarioImports parseDate recordId (before ++ [x]) =
      scenarioImports parseDate recordId before ++
        [x.batch parseDate (recordId before.length)] := by
  unfold scenarioImports
  rw [List.zipIdx_append, List.map_append, Nat.zero_add]
  rfl

theorem mem_scenarioImports {xs : List Instantiation} {b : ImportBatch}
    (hb : b ∈ scenarioImports parseDate recordId xs) :
    ∃ y ∈ xs, ∃ n, b = y.batch parseDate (recordId n) := by
  obtain ⟨entry, hentry, rfl⟩ := List.mem_map.1 hb
  exact ⟨entry.1, List.fst_mem_of_mem_zipIdx hentry, entry.2, rfl⟩

variable (parseDate recordId) in
theorem exists_batch {xs : List Instantiation} (hx : x ∈ xs) :
    ∃ n, x.batch parseDate (recordId n) ∈ scenarioImports parseDate recordId xs := by
  rw [← List.zipIdx_map_fst 0 xs] at hx
  obtain ⟨entry, hentry, rfl⟩ := List.mem_map.1 hx
  exact ⟨entry.2, List.mem_map_of_mem hentry⟩

variable (parseDate recordId) in
/-- The imports before an instantiation, its own and those after it, under other imports. -/
theorem scenarioImports_split (himports : ((before ++ x :: after).map (·.importId)).Nodup) :
    ∃ later, scenarioImports parseDate recordId (before ++ x :: after) =
        scenarioImports parseDate recordId before ++
          x.batch parseDate (recordId before.length) :: later ∧
      ∀ b ∈ scenarioImports parseDate recordId before ++ later, b.importId ≠ x.importId := by
  rw [List.map_append, List.map_cons, List.nodup_append, List.nodup_cons] at himports
  obtain ⟨-, ⟨hafter, -⟩, hbefore⟩ := himports
  refine ⟨(after.zipIdx (before.length + 1)).map fun entry =>
    entry.1.batch parseDate (recordId entry.2), ?_, List.forall_mem_append.2
      ⟨fun b hb => ?_, fun b hb heq => ?_⟩⟩
  · unfold scenarioImports
    rw [List.zipIdx_append, List.map_append, List.zipIdx_cons, List.map_cons, Nat.zero_add]
  · obtain ⟨y, hy, n, rfl⟩ := mem_scenarioImports hb
    exact hbefore _ (List.mem_map_of_mem hy) _ List.mem_cons_self
  · obtain ⟨entry, hentry, rfl⟩ := List.mem_map.1 hb
    refine hafter ?_
    rw [← heq]
    exact List.mem_map_of_mem (List.fst_mem_of_mem_zipIdx hentry)

include hids

theorem numbered_batch : Numbered recordId fun entry : Instantiation × Nat =>
    entry.1.batch parseDate (recordId entry.2) :=
  numbered_of_requests hids fun _ => ⟨_, _, _, rfl⟩

theorem scenarioImports_distinctIds (xs : List Instantiation) :
    DistinctIds (scenarioImports parseDate recordId xs) := by
  refine (numbered_batch hids).distinctIds hids ?_
  rw [List.zipIdx_map_snd]
  exact List.nodup_range'

/-- **An instantiation is separated** from those it does not clash with. -/
theorem scenarioImports_separated (hapart : ∀ y ∈ before ++ after, ¬ y.Clashes x) :
    Separated (x.batch parseDate (recordId before.length)).owns
      (scenarioImports parseDate recordId (before ++ x :: after)) := by
  have hentry : (x, before.length) ∈ (before ++ x :: after).zipIdx := by
    rw [List.zipIdx_append, List.zipIdx_cons, Nat.zero_add]
    exact List.mem_append_right _ List.mem_cons_self
  have hother : ∀ b ∈ (before ++ x :: after).zipIdx, b.1.Clashes x → b = (x, before.length) := by
    intro b hb hclash
    rw [List.zipIdx_append, List.zipIdx_cons, Nat.zero_add] at hb
    rcases List.mem_append.1 hb with hb | hb
    · have hmem := List.mem_append_left after (List.fst_mem_of_mem_zipIdx hb)
      exact absurd hclash (hapart _ hmem)
    rcases List.mem_cons.1 hb with rfl | hb
    · rfl
    · have hmem := List.mem_append_right before (List.fst_mem_of_mem_zipIdx hb)
      exact absurd hclash (hapart _ hmem)
  have hnodup : ((before ++ x :: after).zipIdx.map Prod.snd).Nodup := by
    rw [List.zipIdx_map_snd]
    exact List.nodup_range'
  have hnumbered : Numbered recordId fun entry : Instantiation × Nat =>
      entry.1.batch parseDate (recordId entry.2) := numbered_batch hids
  have hsep := hnumbered.separated hids hnodup hentry
  refine hsep ?_
  intro a ha b hb hm r hr r' hr' hmeets
  have hsuffix : suffix a.1.seed = suffix b.1.seed := by
    by_contra hne
    exact not_meets_of_suffix_ne hne hr hr' _ hmeets
  constructor
  · rintro rfl
    exact hother b hb ⟨hm.symm, hsuffix.symm⟩
  · rintro rfl
    exact hother a ha ⟨hm, hsuffix⟩

end Imports

section Instantiated

variable {parseDate : String → Option Date} (hreads : ReadsISO parseDate)
  {recordId : Nat → Nat → String} (hids : Function.Injective2 recordId)
  {before after : List Instantiation} {x : Instantiation}
  (himports : ((before ++ x :: after).map (·.importId)).Nodup)
include hreads hids himports

/-- Nothing is captured by an instantiation that clashes with an earlier one. -/
theorem captured_eq_nil (hclash : ∃ y ∈ before, y.Clashes x) :
    (importBatches (scenarioImports parseDate recordId (before ++ x :: after)) {}).capturedOf
      (scopeOf x.ctx) x.importId = [] := by
  obtain ⟨y, hy, hmerchant, hsuffix⟩ := hclash
  obtain ⟨later, hsplit, hother⟩ := scenarioImports_split parseDate recordId himports
  have hdistinct : DistinctIds (scenarioImports parseDate recordId (before ++ x :: after)) :=
    scenarioImports_distinctIds hids _
  rw [hsplit] at hdistinct ⊢
  refine List.filter_eq_nil_iff.2 fun p hp hcond => ?_
  obtain ⟨-, hcaptured, -⟩ := of_decide_eq_true hcond
  -- the payment would be a record of the instantiation itself
  obtain ⟨b, hb, r, hr, links, hrow, hkind, -⟩ :=
    arrived_importBatches hdistinct .payment _ (List.mem_map_of_mem hp)
  have hbase : p.toRowBase = rowBase b.merchantId b.importId r.base := row_base hrow
  have himport : b.importId = x.importId :=
    Option.some.inj ((congrArg RowBase.importId hbase).symm.trans hcaptured)
  obtain rfl : b = x.batch parseDate (recordId before.length) := by
    rcases List.mem_append.1 hb with hb | hb
    · exact absurd himport (hother b (List.mem_append_left _ hb))
    rcases List.mem_cons.1 hb with rfl | hb
    · rfl
    · exact absurd himport (hother b (List.mem_append_right _ hb))
  -- which comes under the identity of the earlier payment
  obtain ⟨n, hn⟩ := exists_batch parseDate recordId hy
  obtain ⟨r', hr', hkind'⟩ := exists_payment hreads (fun _ _ heq => (hids heq).2) y
  obtain ⟨hkey, -⟩ := payment_key hr hkind x.ctx.tenantId
  obtain ⟨hkey', hparent⟩ := payment_key hr' hkind' y.ctx.tenantId
  have hsame : r'.sourceKey y.ctx.tenantId = r.sourceKey x.ctx.tenantId := by
    rw [hkey, hkey', hmerchant, hsuffix]
  have hsameKind : r'.kind = r.kind := hkind'.trans hkind.symm
  refine not_stored_again hdistinct hn hr hr' hsameKind hparent hsame (.payment p) ?_
    (congrArg RowBase.id hbase)
  rw [hkind]
  exact List.mem_map_of_mem hp

/-- The first instantiation under its suffix has one captured payment, whatever comes later. -/
theorem captured_eq_singleton (hfirst : ∀ y ∈ before, ¬ y.Clashes x) :
    ∃ row, (importBatches (scenarioImports parseDate recordId (before ++ x :: after))
      {}).capturedOf (scopeOf x.ctx) x.importId = [row] := by
  obtain ⟨later, hsplit, hother⟩ := scenarioImports_split parseDate recordId himports
  obtain ⟨hbefore, hlater⟩ := List.forall_mem_append.1 hother
  -- up to the instantiation itself, nothing clashes with it
  have hdistinct : DistinctIds (scenarioImports parseDate recordId (before ++ [x])) :=
    scenarioImports_distinctIds hids _
  have hsep : Separated (x.batch parseDate (recordId before.length)).owns
      (scenarioImports parseDate recordId (before ++ [x])) :=
    scenarioImports_separated hids (by rwa [List.append_nil])
  rw [scenarioImports_append_singleton] at hdistinct hsep
  obtain ⟨row, -, hcaptured, -⟩ := captured_delivered hreads (fun _ _ heq => (hids heq).2)
    hdistinct hsep (by rwa [List.append_nil])
  refine ⟨row, ?_⟩
  rw [hsplit, List.append_cons, importBatches_append, capturedOf_importBatches later hlater,
    hcaptured]

/-- An instantiation that clashes with no other is found, in the store of all of them. -/
theorem instantiation_found (hdef : x.definition ∈ SCENARIOS)
    (hapart : ∀ y ∈ before ++ after, ¬ y.Clashes x) :
    ∃ row unit, (importBatches (scenarioImports parseDate recordId (before ++ x :: after))
        {}).capturedOf (scopeOf x.ctx) x.importId = [row] ∧
      loadUnit (importBatches (scenarioImports parseDate recordId (before ++ x :: after)) {})
        (scopeOf x.ctx) row.id = some unit ∧ Found x.definition unit := by
  obtain ⟨later, hsplit, hother⟩ := scenarioImports_split parseDate recordId himports
  have hdistinct : DistinctIds (scenarioImports parseDate recordId (before ++ x :: after)) :=
    scenarioImports_distinctIds hids _
  have hsep : Separated (x.batch parseDate (recordId before.length)).owns
      (scenarioImports parseDate recordId (before ++ x :: after)) :=
    scenarioImports_separated hids hapart
  rw [hsplit] at hdistinct hsep ⊢
  exact scenario_found hreads (fun _ _ heq => (hids heq).2) hdef hdistinct hsep hother

/-- **Instantiating scenarios.**  No record of an instantiation is rejected.  One that clashes with
an earlier one has nothing to reconcile; any other has one payment, and as long as none clashes with
it the verdict and the gate say of that payment what is to be found of the scenario. -/
theorem scenario_instantiated (hdef : x.definition ∈ SCENARIOS) :
    let store := importBatches (scenarioImports parseDate recordId (before ++ x :: after)) {}
    x.errors parseDate (recordId before.length) = [] ∧
      ((∃ y ∈ before, y.Clashes x) → store.capturedOf (scopeOf x.ctx) x.importId = []) ∧
      ((∀ y ∈ before, ¬ y.Clashes x) →
        ∃ row, store.capturedOf (scopeOf x.ctx) x.importId = [row] ∧
          ((∀ y ∈ after, ¬ y.Clashes x) →
            ∃ unit, loadUnit store (scopeOf x.ctx) row.id = some unit ∧
              Found x.definition unit)) := by
  intro store
  refine ⟨errors_eq_nil hreads x, captured_eq_nil hreads hids himports, fun hfirst => ?_⟩
  obtain ⟨row, hrow⟩ := captured_eq_singleton hreads hids himports hfirst
  refine ⟨row, hrow, fun hlast => ?_⟩
  obtain ⟨row', unit, hrow', hload, hfound⟩ := instantiation_found hreads hids himports hdef
    (List.forall_mem_append.2 ⟨hfirst, hlast⟩)
  obtain rfl : row = row' := (List.cons.inj (hrow.symm.trans hrow')).1
  exact ⟨unit, hload, hfound⟩

end Instantiated

/-- A scenario of the catalog that is shown to a merchant, always with one seed. -/
def shown (tenantId : MerchantId) (definition : ScenarioDefinition) (importId : String) :
    Instantiation :=
  ⟨⟨"u-1", tenantId, [], "c-1"⟩, definition, 7, importId, ⟨0⟩⟩

/-- A second scenario of a merchant with the same seed leaves nothing to reconcile, the same of
another merchant is found. -/
theorem scenario_instantiated_again :
    let split : ScenarioDefinition := ⟨.splitSettlement, 1_000_000, .card, "UTR_SPLIT", true⟩
    let refunded : ScenarioDefinition :=
      ⟨.refundNetting, 1_000_000, .netbanking, "REFUND_NETTING", true⟩
    let xs := [shown "m-1" split "i-1", shown "m-1" refunded "i-2", shown "m-2" refunded "i-3"]
    let store := importBatches
      (scenarioImports parseISOString (fun i j => toString (Nat.pair i j)) xs) {}
    store.capturedOf ⟨"m-1"⟩ "i-2" = [] ∧
      ∃ row unit, store.capturedOf ⟨"m-2"⟩ "i-3" = [row] ∧
        loadUnit store ⟨"m-2"⟩ row.id = some unit ∧ Found refunded unit := by
  intro split refunded xs store
  have hids : Function.Injective2 fun i j => toString (Nat.pair i j) :=
    fun _ _ _ _ h => Nat.pair_eq_pair.1 (toString_injective h)
  have hdef : refunded ∈ SCENARIOS := by decide
  have hagain := @scenario_instantiated _ readsISO_parseISOString _ hids
    [shown "m-1" split "i-1"] [shown "m-2" refunded "i-3"] (shown "m-1" refunded "i-2")
    (by decide) hdef
  have helsewhere := @scenario_instantiated _ readsISO_parseISOString _ hids
    [shown "m-1" split "i-1", shown "m-1" refunded "i-2"] [] (shown "m-2" refunded "i-3")
    (by decide) hdef
  obtain ⟨row, hrow, hlast⟩ := helsewhere.2.2 (by decide)
  obtain ⟨unit, hload, hfound⟩ := hlast (List.forall_mem_nil _)
  exact ⟨hagain.2.1 ⟨_, List.mem_singleton_self _, by decide⟩, row, unit, hrow, hload, hfound⟩

end SettlementOps.Scenario
