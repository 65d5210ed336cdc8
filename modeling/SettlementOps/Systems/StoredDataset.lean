import SettlementOps.Generator.Allocation
import SettlementOps.Generator.Identifiers
import SettlementOps.Store.Requests
import SettlementOps.Systems.Benchmark

/-!
# The benchmark on a whole dataset

A dataset is stored case by case, each as one import for the merchant of its slug.  The benchmark
then finds in the shared store, for each case, the unit it would find had the case alone been
imported: cases of one merchant share nothing that is stored or loaded by.

* `caseImport`, `storeDataset` — the imports of a dataset and the store they leave.
* `dataset_stored` — no record is rejected, every case is found as if it were alone, and the
  deterministic treatments score on it accordingly.
-/

namespace SettlementOps.Generator

open Random

/-! ## Storing a dataset -/

/-- What is minted while a dataset is stored: the id of each merchant, and by case the caller, the
import, its time and the ids of its records. -/
structure Minted where
  merchantIds : String → MerchantId
  userId : Nat → String
  correlationId : Nat → String
  importId : Nat → String
  ingestedAt : Nat → Date
  recordId : Nat → Nat → String

section Storing

variable (parseDate : String → Option Date) (ids : Minted)

/-- The caller of the import of a case. -/
def contextFor (entry : GeneratedCase × Nat) : RequestContext where
  userId := ids.userId entry.2
  tenantId := ids.merchantIds entry.1.blueprint.merchantSlug
  roles := [.operator, .approver]
  correlationId := ids.correlationId entry.2

/-- The import of a case, numbered in the order of the dataset. -/
def caseImport (entry : GeneratedCase × Nat) : ImportBatch where
  merchantId := (contextFor ids entry).tenantId
  importId := ids.importId entry.2
  records := requestRecords parseDate (contextFor ids entry) (ids.recordId entry.2)
    (ids.ingestedAt entry.2) entry.1.visibleRecords

/-- The rows of the import of a case that are rejected. -/
def caseErrors (entry : GeneratedCase × Nat) : List ValidationError :=
  validationErrorsOf (normalizeRecords parseDate (contextFor ids entry) entry.1.visibleRecords
    (ids.recordId entry.2) (ids.ingestedAt entry.2))

/-- The cases of a dataset in order, with their numbers. -/
def GenerationResult.entries (r : GenerationResult) : List (GeneratedCase × Nat) :=
  (r.splits.flatMap (·.cases)).zipIdx

/-- The store a dataset leaves.  The reconciliation that follows each import writes no records. -/
def storeDataset (r : GenerationResult) : RecordStore :=
  importBatches (r.entries.map (caseImport parseDate ids)) {}

/-- The store of a case that was imported alone. -/
def storeCase (entry : GeneratedCase × Nat) : RecordStore :=
  importRequest parseDate (contextFor ids entry) (ids.recordId entry.2) (ids.ingestedAt entry.2)
    (ids.importId entry.2) entry.1.visibleRecords

end Storing

/-! ## The records of the imports -/

section Records

variable {parseDate : String → Option Date} {ids : Minted} {streams : Streams}
  {r : GenerationResult} {entry entry' : GeneratedCase × Nat}

/-- Every case of a dataset is rendered for its number. -/
theorem rendered_of_mem (h : generateFrom streams = .ok r) (hentry : entry ∈ r.entries) :
    entry.2 < 410 ∧ ∃ split slug plan, Rendered (entry.2 + 1) split slug plan entry.1 := by
  obtain ⟨hlaw, -⟩ := datasetLaw h
  have hlen := hlaw.length_all
  have hrendered := hlaw.rendered
  obtain ⟨c, i⟩ := entry
  obtain ⟨hi, hc⟩ := List.mem_zipIdx' hentry
  refine ⟨hlen ▸ hi, ?_⟩
  have hat := (List.forall₂_iff_get.1 hrendered).2 i (by simpa using hi) hi
  rw [List.get_eq_getElem, List.getElem_range, List.get_eq_getElem, ← hc] at hat
  exact hat

theorem ofCase_of_mem (h : generateFrom streams = .ok r) (hentry : entry ∈ r.entries) :
    ∀ dto ∈ entry.1.visibleRecords, OfCase (suffixFor (entry.2 + 1)) dto := by
  obtain ⟨-, split, slug, plan, hrendered⟩ := rendered_of_mem h hentry
  obtain ⟨tape, -, hrecords⟩ := hrendered.rendered
  rw [hrecords]
  exact renderCase_ofCase _ _ _ _ tape

theorem suffix_inj (h : generateFrom streams = .ok r) (hentry : entry ∈ r.entries)
    (hentry' : entry' ∈ r.entries) (hsuffix : suffixFor (entry.2 + 1) = suffixFor (entry'.2 + 1)) :
    entry.2 = entry'.2 := by
  have hlt := (rendered_of_mem h hentry).1
  have hlt' := (rendered_of_mem h hentry').1
  have hsame := suffixFor_inj (by omega) (by omega) hsuffix
  omega

theorem eq_of_index (hentry : entry ∈ r.entries) (hentry' : entry' ∈ r.entries)
    (hindex : entry.2 = entry'.2) : entry = entry' := by
  obtain ⟨c, i⟩ := entry
  obtain ⟨c', i'⟩ := entry'
  obtain rfl : i = i' := hindex
  obtain ⟨-, hc⟩ := List.mem_zipIdx' hentry
  obtain ⟨-, hc'⟩ := List.mem_zipIdx' hentry'
  rw [hc, hc']

/-- Two records of the dataset that meet are of one case. -/
theorem same_case (h : generateFrom streams = .ok r) (hentry : entry ∈ r.entries)
    (hentry' : entry' ∈ r.entries) {x y : FinancialRecord}
    (hx : x ∈ (caseImport parseDate ids entry).records)
    (hy : y ∈ (caseImport parseDate ids entry').records) {m : MerchantId}
    (hmeets : x.Meets m y) : entry = entry' := by
  obtain ⟨dto, hdto, j, hnx, -⟩ := mem_requestRecords hx
  obtain ⟨dto', hdto', j', hny, -⟩ := mem_requestRecords hy
  refine eq_of_index hentry hentry' ?_
  by_contra hne
  exact not_meets_of_suffix_ne hnx hny (plain_suffixFor _) (plain_suffixFor _)
    ((length_suffixFor _).trans (length_suffixFor _).symm)
    (fun hsuffix => hne (suffix_inj h hentry hentry' hsuffix))
    (ofCase_of_mem h hentry dto hdto) (ofCase_of_mem h hentry' dto' hdto') m hmeets

/-- No record of a dataset is rejected. -/
theorem caseErrors_eq_nil (hreads : ReadsISO parseDate) (h : generateFrom streams = .ok r)
    (hentry : entry ∈ r.entries) : caseErrors parseDate ids entry = [] := by
  unfold caseErrors validationErrorsOf normalizeRecords
  rw [List.filterMap_map, List.filterMap_eq_nil_iff]
  rintro ⟨dto, j⟩ hdto
  have hcase := ofCase_of_mem h hentry dto (List.fst_mem_of_mem_zipIdx hdto)
  obtain ⟨x, hx⟩ := hcase.readable.normalizes hreads (contextFor ids entry) j
    (ids.recordId entry.2 j) (ids.ingestedAt entry.2)
  rw [Function.comp_apply, hx]

end Records

/-! ## A case among the others -/

section Among

variable {parseDate : String → Option Date} {ids : Minted}
  (hids : Function.Injective2 ids.recordId) {streams : Streams} {r : GenerationResult}
  (h : generateFrom streams = .ok r) {entry : GeneratedCase × Nat}

include hids

theorem numbered_caseImport : Numbered ids.recordId (caseImport parseDate ids) :=
  numbered_of_requests hids fun _ => ⟨_, _, _, rfl⟩

omit hids in
theorem entries_nodup (r : GenerationResult) : (r.entries.map Prod.snd).Nodup := by
  rw [GenerationResult.entries, List.zipIdx_map_snd]
  exact List.nodup_range'

include h

variable (parseDate)

/-- **The cases of a dataset are separated.** -/
theorem separated_entries (hentry : entry ∈ r.entries) :
    Separated (caseImport parseDate ids entry).owns
      (r.entries.map (caseImport parseDate ids)) := by
  refine (numbered_caseImport hids).separated hids (entries_nodup r) hentry ?_
  intro a ha b hb _ x hx y hy hmeets
  rw [same_case h ha hb hx hy hmeets]

/-- **The rows of a case** are those it has when it alone is imported. -/
theorem storeDataset_within (hentry : entry ∈ r.entries) :
    Arrived (r.entries.map (caseImport parseDate ids)) (storeDataset parseDate ids r) ∧
      (storeDataset parseDate ids r).within (caseImport parseDate ids entry).owns =
        storeCase parseDate ids entry := by
  have hdistinct : DistinctIds (r.entries.map (caseImport parseDate ids)) :=
    (numbered_caseImport hids).distinctIds hids (entries_nodup r)
  have hsep := separated_entries parseDate hids h hentry
  obtain ⟨before, after, hsplit⟩ := List.append_of_mem hentry
  unfold storeDataset
  rw [hsplit, List.map_append, List.map_cons] at hdistinct hsep ⊢
  exact importBatches_within_owns hdistinct hsep

omit hids in
/-- A row that is stored under the source record id of a case's payment is one of the case. -/
theorem owns_payment (hentry : entry ∈ r.entries) {store : RecordStore}
    (harrived : Arrived (r.entries.map (caseImport parseDate ids)) store) {p : PaymentRow}
    (hp : p ∈ store.payments) (hsource : p.sourceRecordId = entry.1.blueprint.paymentId) :
    (caseImport parseDate ids entry).owns p.id = true := by
  obtain ⟨-, split, slug, plan, hrendered⟩ := rendered_of_mem h hentry
  obtain ⟨b, hb, x, hx, links, hrow, -, -⟩ := harrived .payment _ (List.mem_map_of_mem hp)
  obtain ⟨other, hother, rfl⟩ := List.mem_map.1 hb
  obtain ⟨dto, hdto, j, hnormal, -⟩ := mem_requestRecords hx
  have hbase := row_base hrow
  have hxsource : x.base.lineage.sourceRecordId = (refsFor (entry.2 + 1)).payment :=
    (congrArg RowBase.sourceRecordId hbase).symm.trans (hsource.trans hrendered.paymentId)
  have hbears := (ofCase_of_mem h hother dto hdto).mentions _ (normalizeRecord_mentions hnormal).1
  rw [hxsource] at hbears
  have hsuffix := bears_unique hbears (bears_payment _)
    ((length_suffixFor _).trans (length_suffixFor _).symm)
  obtain rfl := eq_of_index hother hentry (suffix_inj h hother hentry hsuffix)
  exact owns_iff.2 ⟨x, hx, (congrArg RowBase.id hbase).symm⟩

/-- **A case is found among its own rows.** -/
theorem benchmarkCase_within (hentry : entry ∈ r.entries) (m : MerchantId) :
    benchmarkCase (storeDataset parseDate ids r) m entry.1.blueprint.paymentId =
      benchmarkCase (storeCase parseDate ids entry) m entry.1.blueprint.paymentId := by
  obtain ⟨harrived, hwithin⟩ := storeDataset_within parseDate hids h hentry
  have hencl := (separated_entries parseDate hids h hentry).enclosed harrived
  rw [← hwithin]
  generalize storeDataset parseDate ids r = store at harrived hencl
  have hown := fun p hp => owns_payment parseDate (p := p) h hentry harrived hp
  have hfind : findSource m (fun p : PaymentRow => p.toRowBase)
        (store.within (caseImport parseDate ids entry).owns).payments
        (some entry.1.blueprint.paymentId) =
      findSource m (fun p : PaymentRow => p.toRowBase) store.payments
        (some entry.1.blueprint.paymentId) := by
    unfold findSource
    rw [Option.bind_some, Option.bind_some, RecordStore.within, List.find?_filter]
    refine List.find?_congr fun p hp => ?_
    rw [Bool.eq_iff_iff, decide_eq_true_iff, decide_eq_true_iff]
    exact and_iff_right_of_imp fun hmatch => hown p hp hmatch.2
  unfold benchmarkCase
  rw [hfind]
  refine Option.bind_congr fun p hp => ?_
  have hsource : p.sourceRecordId = entry.1.blueprint.paymentId := by
    have hmatch := List.find?_some hp
    simp only [decide_eq_true_eq] at hmatch
    exact hmatch.2
  rw [loadUnit_within hencl m (hown p (mem_of_findSource hp) hsource)]

end Among

/-! ## The results -/

/-- What the benchmark finds of a case, and how the deterministic treatments score on it, given
the plan and the draws the case was rendered from. -/
structure Benchmarked (parseDate : String → Option Date) (store : RecordStore) (m : MerchantId)
    (c : GeneratedCase) (plan : CasePlan) (draw : CaseDraw) (toolCtx : ToolContext)
    (unit : ReconciliationUnit) : Prop where
  found : benchmarkCase store m c.blueprint.paymentId = some (toolCtx, unit)
  baseline : score (runSystemA unit) c.blueprint = plan.baselineScore draw
  workflow : ∀ now, score (runSystemB unit (benchmarkRegistry parseDate now store) toolCtx)
    c.blueprint = plan.workflowScore draw (Rival unit (plan.discrepancy draw))

/-- **A dataset in one store.**  No record of a dataset is rejected; the benchmark finds each case
as if it alone had been imported, even where one merchant had all of them; and the treatments score
on it as on the case alone. -/
theorem dataset_stored {parseDate : String → Option Date} (hreads : ReadsISO parseDate)
    {ids : Minted} (hids : Function.Injective2 ids.recordId) {streams : Streams}
    {r : GenerationResult} (h : generateFrom streams = .ok r) :
    ∀ entry ∈ r.entries, caseErrors parseDate ids entry = [] ∧
      (∀ m, benchmarkCase (storeDataset parseDate ids r) m entry.1.blueprint.paymentId =
        benchmarkCase (storeCase parseDate ids entry) m entry.1.blueprint.paymentId) ∧
      ∃ split slug plan draw toolCtx unit,
        entry.1.blueprint = blueprintOf (entry.2 + 1) split slug plan draw ∧
          Benchmarked parseDate (storeDataset parseDate ids r)
            (contextFor ids entry).tenantId entry.1 plan draw toolCtx unit := by
  intro entry hentry
  have halone := benchmarkCase_within parseDate hids h hentry
  refine ⟨caseErrors_eq_nil hreads h hentry, halone, ?_⟩
  obtain ⟨-, split, slug, plan, hrendered⟩ := rendered_of_mem h hentry
  obtain ⟨tape, hblueprint, hrecords⟩ := hrendered.rendered
  obtain ⟨toolCtx, unit, noise, hcase, hdrawn, hrange, hu⟩ := benchmarkCase_rendered hreads
    (fun _ _ heq => (hids heq).2 : Function.Injective (ids.recordId entry.2))
    (contextFor ids entry) (ids.ingestedAt entry.2) (ids.importId entry.2) (entry.2 + 1) split slug
    plan tape rfl
  rw [← hblueprint, ← hrecords] at hcase
  rw [← hblueprint] at hdrawn
  refine ⟨split, slug, plan, _, toolCtx, unit, hdrawn, ?_⟩
  have hfound := (halone (contextFor ids entry).tenantId).trans hcase
  generalize result (drawCase split) tape = draw at hdrawn hrange hu
  refine ⟨hfound, ?_, fun now => ?_⟩
  · rw [hdrawn]
    exact score_runSystemA hu hrange
  · rw [hdrawn]
    exact score_runSystemB parseDate now (benchmarkCase_eq_some hfound) hu hrange

/-- Ids that number the cases and their records. -/
def numbered : Minted where
  merchantIds slug := slug
  userId _ := "operator-1"
  correlationId i := toString i
  importId i := "import-" ++ toString i
  ingestedAt _ := ⟨1_788_134_400_000⟩
  recordId i j := toString (Nat.pair i j)

theorem numbered_injective : Function.Injective2 numbered.recordId := fun _ _ _ _ h =>
  Nat.pair_eq_pair.1 (toString_injective h)

/-- The dataset of the root seed in one store. -/
theorem dataset_stored_root : ∃ r, generateDataset = .ok r ∧ ∀ entry ∈ r.entries,
    caseErrors parseISOString numbered entry = [] ∧
      (∀ m, benchmarkCase (storeDataset parseISOString numbered r) m entry.1.blueprint.paymentId =
        benchmarkCase (storeCase parseISOString numbered entry) m entry.1.blueprint.paymentId) ∧
      ∃ split slug plan draw toolCtx unit,
        entry.1.blueprint = blueprintOf (entry.2 + 1) split slug plan draw ∧
          Benchmarked parseISOString (storeDataset parseISOString numbered r)
            (contextFor numbered entry).tenantId entry.1 plan draw toolCtx unit := by
  obtain ⟨r, hr⟩ := generateDataset_root
  exact ⟨r, hr, dataset_stored readsISO_parseISOString numbered_injective hr⟩

end SettlementOps.Generator
