import SettlementOps.Generator.DatasetLaw

/-!
# The allocation of a dataset

Results about every dataset that is generated, for any source of randomness.

* `dataset_disjoint` — splits share no merchant and no payment.
* `dataset_labels` — what a label says about development.
* `dataset_allocation`, `allocationReport_silent_iff` — how far labels fall short of the plan.
* `split_independent` — a split is a matter of its own seed and development's.
-/

namespace SettlementOps.Generator

open Random Relational

/-! ## The numbers of the cases -/

/-- Below `36 ^ 7` no two ordinals have one suffix. -/
theorem suffixFor_inj {m n : Nat} (hm : m < 36 ^ 7) (hn : n < 36 ^ 7)
    (h : suffixFor m = suffixFor n) : m = n := by
  have hdigits := String.ofList_injective h
  rw [List.map_inj_left] at hdigits
  have hmod : m % 36 ^ 7 = n % 36 ^ 7 := mod_pow_eq_of_digits 7 fun i hi =>
    base36Digit_inj (Nat.mod_lt _ (by decide)) (Nat.mod_lt _ (by decide))
      (hdigits i (List.mem_reverse.2 (List.mem_range.2 hi)))
  rwa [Nat.mod_eq_of_lt hm, Nat.mod_eq_of_lt hn] at hmod

theorem payment_inj {m n : Nat} (hm : m < 36 ^ 7) (hn : n < 36 ^ 7)
    (h : (refsFor m).payment = (refsFor n).payment) : m = n :=
  suffixFor_inj hm hn ((String.append_right_inj _).1 h)

theorem merchantSlug_injective : Function.Injective merchantSlug := fun _ _ h =>
  padStart_toString_injective ((String.append_right_inj _).1 h)

/-! ## Splits share nothing -/

namespace DatasetLaw

variable {streams : Streams} {observed : List ObservedCase} {r : GenerationResult}

theorem length_cases (h : DatasetLaw streams observed r) {s : GeneratedSplit} (hs : s ∈ r.splits) :
    s.cases.length = (planFor s.split).cases := by
  obtain ⟨ordinal, hdealt⟩ := (h.law s hs).dealt
  exact length_of_dealt hdealt

/-- The 410 cases. -/
theorem length_all (h : DatasetLaw streams observed r) :
    (r.splits.flatMap (·.cases)).length = 410 := by
  have hlengths : r.splits.map (fun s => s.cases.length) =
      (r.splits.map (·.split)).map fun split => (planFor split).cases := by
    rw [List.map_map]
    exact List.map_congr_left fun s hs => h.length_cases hs
  rw [List.length_flatMap, hlengths, h.splits]
  decide

theorem nodup_merchants (h : DatasetLaw streams observed r) :
    (r.splits.flatMap (·.merchants)).Nodup := by
  obtain ⟨n, hmerchants⟩ := h.merchants
  rw [hmerchants]
  exact List.nodup_range.map fun i j hij => Nat.succ_injective (merchantSlug_injective hij)

theorem nodup_payments (h : DatasetLaw streams observed r) :
    ((r.splits.flatMap (·.cases)).map (·.blueprint.paymentId)).Nodup := by
  rw [h.payments, h.length_all]
  refine List.nodup_range.map_on fun i hi j hj hij => ?_
  rw [List.mem_range] at hi hj
  exact Nat.succ_injective (payment_inj (by omega) (by omega) hij)

/-- Every merchant of a split has ten of its cases. -/
theorem count_slug (h : DatasetLaw streams observed r) {s : GeneratedSplit} (hs : s ∈ r.splits)
    {m : String} (hm : m ∈ s.merchants) :
    (s.cases.map (·.blueprint.merchantSlug)).count m = 10 := by
  obtain ⟨ordinal, hdealt⟩ := (h.law s hs).dealt
  have hnodup : s.merchants.Nodup := (List.nodup_flatMap.1 h.nodup_merchants).1 s hs
  rw [hdealt.slugs, h.length_cases hs, cases_eq_rounds, ← (h.law s hs).merchants,
    map_merchantAt_rounds, List.count_flatten, List.map_replicate, List.sum_replicate,
    List.count_eq_one_of_mem hnodup hm]
  rfl

theorem slug_mem (h : DatasetLaw streams observed r) {s : GeneratedSplit} (hs : s ∈ r.splits)
    {c : GeneratedCase} (hc : c ∈ s.cases) : c.blueprint.merchantSlug ∈ s.merchants := by
  obtain ⟨ordinal, hdealt⟩ := (h.law s hs).dealt
  have hslug := List.mem_map_of_mem (f := (·.blueprint.merchantSlug)) hc
  rw [hdealt.slugs, h.length_cases hs, cases_eq_rounds, ← (h.law s hs).merchants,
    map_merchantAt_rounds, List.mem_flatten] at hslug
  obtain ⟨round, hround, hmem⟩ := hslug
  rwa [List.eq_of_mem_replicate hround] at hmem

theorem split_of_mem (h : DatasetLaw streams observed r) {s : GeneratedSplit} (hs : s ∈ r.splits)
    {c : GeneratedCase} (hc : c ∈ s.cases) : c.blueprint.split = s.split := by
  obtain ⟨ordinal, hdealt⟩ := (h.law s hs).dealt
  exact hdealt.split_eq c hc

end DatasetLaw

/-! ## The dataset of the root seed -/

theorem rest_shuffleFrom {α : Type} (i : Nat) : ∀ (copy : List α) (tape : Tape UInt32),
    rest (shuffleFrom i copy) tape = fun n => tape (n + i) := by
  induction i with
  | zero => exact fun _ _ => rfl
  | succ i ih =>
      intro copy tape
      rw [shuffleFrom, rest_bind, ih]
      rfl

/-- A run over a list starts with the run over its front. -/
theorem result_mapM_append {α β : Type} (f : α → Rng β) (front back : List α)
    (tape : Tape UInt32) : result (front.mapM f) tape <+: result ((front ++ back).mapM f) tape := by
  rw [List.mapM_append]
  exact List.prefix_append _ _

/-- The first cases of development: its strata are all the same. -/
theorem developmentCases_initial (streams : Streams) :
    result ((List.range 13).mapM fun i => drawUntilLanded .development none (1 + i)
      (merchantAt (merchantsAfter 0 .development) i) .seen 24)
      (fun n => streams.tape .development (n + 119)) <+: developmentCases streams := by
  have hlen : (planFor .development).strata.length = 120 := strata_length .development
  have hstrata : ∀ tape, result (strataFor .development) tape = List.replicate 120 .seen := by
    intro tape
    have hperm := Rng.shuffle_perm (planFor .development).strata tape
    refine List.eq_replicate_iff.2 ⟨hperm.length_eq.trans hlen, fun target htarget => ?_⟩
    exact strata_development (hperm.mem_iff.1 htarget)
  have hrest : ∀ tape, rest (strataFor .development) tape = fun n => tape (n + 119) := by
    intro tape
    rw [strataFor, Rng.shuffle, hlen]
    exact rest_shuffleFrom 119 _ tape
  have hsplit : (List.replicate 120 NoveltyStratum.seen).zipIdx =
      ((List.range 13).map fun i => (NoveltyStratum.seen, i)) ++
        (List.replicate 120 NoveltyStratum.seen).zipIdx.drop 13 := by
    decide
  rw [developmentCases, generateCases, result_bind, hstrata, hrest, hsplit]
  have hfront := result_mapM_append (fun p : NoveltyStratum × Nat =>
      drawUntilLanded .development none (1 + p.2)
        (merchantAt (merchantsAfter 0 .development) p.2) p.1 24)
    ((List.range 13).map fun i => (NoveltyStratum.seen, i))
    ((List.replicate 120 NoveltyStratum.seen).zipIdx.drop 13)
    (fun n => streams.tape .development (n + 119))
  rwa [List.mapM_map] at hfront

/-- The first thirteen cases of the root seed are adequate already. -/
theorem adequate_root :
    Adequate (observedOf (developmentCases (rootStreams GENERATOR_ROOT_SEED))) := by
  have hfirst : (result ((List.range 13).mapM fun i => drawUntilLanded .development none (1 + i)
      (merchantAt (merchantsAfter 0 .development) i) .seen 24)
      (fun n => (rootStreams GENERATOR_ROOT_SEED).tape .development (n + 119))).map
        (·.blueprint.trueCauses) =
      [[.timingLag], [.utrSplit], [.mdrFee, .timingLag], [.utrSplit], [.refundNetting],
        [.utrSplit], [.roundingDrift], [.timingLag], [.roundingDrift],
        [.refundNetting, .timingLag], [.utrSplit], [.refundNetting], [.mdrFee]] := by
    decide +kernel
  have hshown : ∀ causes ∈ [[CauseCode.timingLag], [.utrSplit], [.mdrFee, .timingLag],
      [.refundNetting], [.roundingDrift], [.mdrFee]],
      ∃ o ∈ observedOf (developmentCases (rootStreams GENERATOR_ROOT_SEED)),
        o.causes = causes := by
    intro causes hcauses
    have hmem : causes ∈ (result ((List.range 13).mapM fun i => drawUntilLanded .development none
        (1 + i) (merchantAt (merchantsAfter 0 .development) i) .seen 24)
        (fun n => (rootStreams GENERATOR_ROOT_SEED).tape .development (n + 119))).map
          (·.blueprint.trueCauses) := by
      rw [hfirst]
      revert causes
      decide
    obtain ⟨c, hc, rfl⟩ := List.mem_map.1 hmem
    exact ⟨_, List.mem_map_of_mem ((developmentCases_initial _).mem hc), rfl⟩
  constructor
  · intro cause hcause
    refine hshown [cause] ?_
    revert cause
    decide
  · obtain ⟨o, ho, hcauses⟩ := hshown [.mdrFee, .timingLag] (by decide)
    exact ⟨o, ho, by rw [hcauses]; rfl⟩

theorem generateDataset_root : ∃ r, generateDataset = .ok r := by
  obtain ⟨r, hr, -⟩ := generateFrom_adequate adequate_root
  exact ⟨r, hr⟩

/-! ## Results -/

/-- **Splits share nothing.**  A dataset has the five splits in order, as large as planned; each
merchant has ten cases of the one split it is in, and no two cases are about one payment. -/
theorem dataset_disjoint {streams : Streams} {r : GenerationResult}
    (h : generateFrom streams = .ok r) :
    r.splits.map (·.split) = ORDERED_SPLITS ∧
      (∀ s ∈ r.splits, s.cases.length = (planFor s.split).cases ∧
        s.merchants.length = (planFor s.split).merchants ∧
        (∀ m ∈ s.merchants, (s.cases.map (·.blueprint.merchantSlug)).count m = 10) ∧
        ∀ c ∈ s.cases, c.blueprint.split = s.split ∧ c.blueprint.merchantSlug ∈ s.merchants) ∧
      (r.splits.flatMap (·.merchants)).Nodup ∧
      ((r.splits.flatMap (·.cases)).map (·.blueprint.paymentId)).Nodup := by
  have hlaw := (datasetLaw h).1
  refine ⟨hlaw.splits, fun s hs => ⟨hlaw.length_cases hs, (hlaw.law s hs).merchants,
    fun m hm => hlaw.count_slug hs hm, fun c hc => ⟨hlaw.split_of_mem hs hc, hlaw.slug_mem hs hc⟩⟩,
    hlaw.nodup_merchants, hlaw.nodup_payments⟩

theorem dataset_disjoint_root : ∃ r, generateDataset = .ok r ∧
    r.splits.map (·.split) = ORDERED_SPLITS ∧
      (∀ s ∈ r.splits, s.cases.length = (planFor s.split).cases ∧
        s.merchants.length = (planFor s.split).merchants ∧
        (∀ m ∈ s.merchants, (s.cases.map (·.blueprint.merchantSlug)).count m = 10) ∧
        ∀ c ∈ s.cases, c.blueprint.split = s.split ∧ c.blueprint.merchantSlug ∈ s.merchants) ∧
      (r.splits.flatMap (·.merchants)).Nodup ∧
      ((r.splits.flatMap (·.cases)).map (·.blueprint.paymentId)).Nodup := by
  obtain ⟨r, hr⟩ := generateDataset_root
  exact ⟨r, hr, dataset_disjoint hr⟩

/-- **When there is a dataset**: exactly when development shows every cause alone and some
pairing.  The later splits never fail. -/
theorem generateFrom_ok_iff (streams : Streams) :
    (∃ r, generateFrom streams = .ok r) ↔
      (∀ cause ∈ SINGLE_CAUSES,
        ∃ c ∈ developmentCases streams, c.blueprint.trueCauses = [cause]) ∧
      ∃ c ∈ developmentCases streams, c.blueprint.trueCauses.length = 2 := by
  have hadequate : Adequate (observedOf (developmentCases streams)) ↔
      (∀ cause ∈ SINGLE_CAUSES,
        ∃ c ∈ developmentCases streams, c.blueprint.trueCauses = [cause]) ∧
      ∃ c ∈ developmentCases streams, c.blueprint.trueCauses.length = 2 := by
    have hobserved : ∀ P : List CauseCode → Prop,
        (∃ o ∈ observedOf (developmentCases streams), P o.causes) ↔
          ∃ c ∈ developmentCases streams, P c.blueprint.trueCauses := by
      intro P
      simp only [observedOf, List.mem_map, exists_exists_and_eq_and]
    constructor
    · intro h
      exact ⟨fun cause hcause => (hobserved (· = [cause])).1 (h.alone cause hcause),
        (hobserved (·.length = 2)).1 h.pairing⟩
    · rintro ⟨halone, hpairing⟩
      exact ⟨fun cause hcause => (hobserved (· = [cause])).2 (halone cause hcause),
        (hobserved (·.length = 2)).2 hpairing⟩
  rw [← hadequate]
  constructor
  · rintro ⟨r, hr⟩
    exact (datasetLaw hr).2
  · intro h
    obtain ⟨r, hr, -⟩ := generateFrom_adequate h
    exact ⟨r, hr⟩

/-! ## Labels -/

/-- The cases of a split of the dataset. -/
def GenerationResult.casesOf (r : GenerationResult) (split : Split) : List GeneratedCase :=
  ((r.splits.find? fun s => s.split = split).map (·.cases)).getD []

theorem DatasetLaw.find {streams : Streams} {observed : List ObservedCase} {r : GenerationResult}
    (h : DatasetLaw streams observed r) (split : Split) :
    ∃ s ∈ r.splits, s.split = split ∧ r.splits.find? (fun s => s.split = split) = some s := by
  have hmem : split ∈ r.splits.map (·.split) := by
    rw [h.splits]
    cases split <;> decide
  obtain ⟨s, hs, hsplit⟩ := List.mem_map.1 hmem
  cases hfind : r.splits.find? fun s => s.split = split with
  | none =>
      have hnone := List.find?_eq_none.1 hfind s hs
      rw [decide_eq_true_eq] at hnone
      exact absurd hsplit hnone
  | some found =>
      have hfound := List.find?_some hfind
      rw [decide_eq_true_eq] at hfound
      exact ⟨found, List.mem_of_find?_eq_some hfind, hfound, rfl⟩

theorem DatasetLaw.observed_development {streams : Streams} {observed : List ObservedCase}
    {r : GenerationResult} (h : DatasetLaw streams observed r) :
    observedOf (r.casesOf .development) = observed := by
  obtain ⟨s, hs, hsplit, hfind⟩ := h.find .development
  rw [GenerationResult.casesOf, hfind]
  exact h.development s hs hsplit

/-- What the label of a case outside development says, as a matter of the causes and buckets that
development shows. -/
structure HonestLabel (shown : Multiset (Multiset CauseCode × ConfigurationBucket))
    (c : GeneratedCase) : Prop where
  seen : c.noveltyStratum = .seen ↔ (c.causes, c.blueprint.bucket) ∈ shown
  novelConfiguration : c.noveltyStratum = .novelConfiguration ↔
    c.causes ∈ shown.map Prod.fst ∧ (c.causes, c.blueprint.bucket) ∉ shown
  novelCombination : c.noveltyStratum = .novelCombination ↔
    Multiset.card c.causes = 2 ∧ c.causes ∉ shown.map Prod.fst
  compoundUnseen : c.noveltyStratum = .compoundUnseen ↔ Multiset.card c.causes = 3
  unprovable : (c.noveltyStratum = .ambiguous ∨ c.noveltyStratum = .adversarial) ↔
    c.causes = {CauseCode.ambiguous}
  /-- A novel combination is of causes that are not novel. -/
  alone : c.noveltyStratum = .novelCombination →
    ∀ cause ∈ c.causes, {cause} ∈ shown.map Prod.fst

theorem DevelopmentObserved.of_mem_fst {observed : List ObservedCase}
    (h : DevelopmentObserved observed) {causes : Multiset CauseCode}
    (hcauses : causes ∈ (configurations observed).map Prod.fst) :
    Multiset.card causes ≤ 2 ∧ CauseCode.ambiguous ∉ causes := by
  obtain ⟨pair, hpair, rfl⟩ := Multiset.mem_map.1 hcauses
  obtain ⟨o, ho, rfl⟩ := List.mem_map.1 (Multiset.mem_coe.1 hpair)
  exact ⟨(h.causes o ho).length_le.2, (h.causes o ho).ne_ambiguous⟩

theorem Drawn.honestLabel {observed : List ObservedCase} (h : DevelopmentObserved observed)
    {target : NoveltyStratum} {c : GeneratedCase} (hdrawn : Drawn observed target c) :
    HonestLabel (configurations observed) c := by
  have hfst : (c.causes, c.blueprint.bucket) ∈ configurations observed →
      c.causes ∈ (configurations observed).map Prod.fst := Multiset.mem_map_of_mem Prod.fst
  cases hdrawn with
  | unprovable htarget hcauses hlabel =>
      have hone : c.causes = {CauseCode.ambiguous} := by rw [GeneratedCase.causes, hcauses]; rfl
      have hnew : c.causes ∉ (configurations observed).map Prod.fst := fun hmem =>
        (h.of_mem_fst hmem).2 (by rw [hone]; exact Multiset.mem_singleton_self _)
      have hpair := mt hfst hnew
      rw [← hlabel] at htarget
      have hcard : Multiset.card c.causes = 1 := by rw [hone]; rfl
      constructor
      case unprovable => exact iff_of_true htarget hone
      all_goals rcases htarget with hlabel | hlabel <;>
        simp [hlabel, hnew, hpair, hcard, -Multiset.mem_map]
  | compound htarget hcauses hlabel =>
      have hcard : Multiset.card c.causes = 3 := hcauses
      have hnew : c.causes ∉ (configurations observed).map Prod.fst := fun hmem => by
        have := (h.of_mem_fst hmem).1
        omega
      have hpair := mt hfst hnew
      have hone : c.causes ≠ {CauseCode.ambiguous} := by
        rintro hone
        rw [hone] at hcard
        cases hcard
      constructor <;> simp [hlabel, hnew, hone, hcard, hpair, -Multiset.mem_map]
  | combination htarget hcauses halone hnew hlabel =>
      have hcard : Multiset.card c.causes = 2 := hcauses
      have hpair := mt hfst hnew
      have hone : c.causes ≠ {CauseCode.ambiguous} := by
        rintro hone
        rw [hone] at hcard
        cases hcard
      have hsingles : ∀ cause ∈ c.causes, {cause} ∈ (configurations observed).map Prod.fst := by
        intro cause hcause
        obtain ⟨o, ho, hcauses⟩ := halone cause hcause
        rw [← Multiset.coe_singleton, configurations, mem_fst_configurations_iff]
        exact ⟨o, ho, by rw [hcauses]⟩
      constructor
      case alone => exact fun _ => hsingles
      all_goals simp [hlabel, hnew, hpair, hone, hcard, -Multiset.mem_map]
  | known htarget hcauses hlabel =>
      have hcard := (h.of_mem_fst hcauses).1
      have hthree : Multiset.card c.causes ≠ 3 := by omega
      have hone : c.causes ≠ {CauseCode.ambiguous} := by
        rintro hone
        refine (h.of_mem_fst hcauses).2 ?_
        rw [hone]
        exact Multiset.mem_singleton_self _
      by_cases hpair : (c.causes, c.blueprint.bucket) ∈ configurations observed
      · rw [if_pos hpair] at hlabel
        constructor <;> simp [hlabel, hcauses, hpair, hone, hthree, -Multiset.mem_map]
      · rw [if_neg hpair] at hlabel
        constructor <;> simp [hlabel, hcauses, hpair, hone, hthree, -Multiset.mem_map]

/-- **What the labels say.**  Development is labelled as seen and has single causes and the four
fixed pairings only; outside it a label says what development shows of the case and no more. -/
theorem dataset_labels {streams : Streams} {r : GenerationResult}
    (h : generateFrom streams = .ok r) :
    ∀ s ∈ r.splits, ∀ c ∈ s.cases,
      (s.split = .development →
        c.noveltyStratum = .seen ∧ DevelopmentCauses c.blueprint.trueCauses) ∧
      (s.split ≠ .development →
        HonestLabel (configurations (observedOf (r.casesOf .development))) c) := by
  intro s hs c hc
  obtain ⟨hlaw, hadequate⟩ := datasetLaw h
  have hobserved := developmentObserved streams hadequate
  rw [hlaw.observed_development]
  obtain ⟨ordinal, hdealt⟩ := (hlaw.law s hs).dealt
  obtain ⟨strata, -, hcases⟩ := hdealt.strata
  obtain ⟨target, -, hcase⟩ := exists_of_forall₂ hcases c hc
  constructor
  · intro hsplit
    rw [CaseOf, if_pos hsplit] at hcase
    exact ⟨hcase.seen, hcase.causes⟩
  · intro hsplit
    rw [CaseOf, if_neg hsplit] at hcase
    exact hcase.honestLabel hobserved

theorem dataset_labels_root : ∃ r, generateDataset = .ok r ∧
    ∀ s ∈ r.splits, ∀ c ∈ s.cases,
      (s.split = .development →
        c.noveltyStratum = .seen ∧ DevelopmentCauses c.blueprint.trueCauses) ∧
      (s.split ≠ .development →
        HonestLabel (configurations (observedOf (r.casesOf .development))) c) := by
  obtain ⟨r, hr⟩ := generateDataset_root
  exact ⟨r, hr, dataset_labels hr⟩

/-! ## The allocation -/

section Counting

variable {α β : Type} {R : α → β → Prop} {p : α → Bool} {q : β → Bool} {l : List α} {out : List β}

/-- What is drawn for each element is counted with it. -/
theorem countP_le_of_forall₂ (h : List.Forall₂ R l out)
    (hR : ∀ a b, R a b → q b = true → p a = true) : out.countP q ≤ l.countP p := by
  induction h with
  | nil => exact le_rfl
  | cons hab _ ih =>
      rw [List.countP_cons, List.countP_cons]
      refine Nat.add_le_add ih ?_
      split
      · rename_i hq
        rw [if_pos (hR _ _ hab hq)]
      · exact Nat.zero_le _

theorem countP_eq_of_forall₂ (h : List.Forall₂ R l out)
    (hR : ∀ a b, R a b → (q b = true ↔ p a = true)) : out.countP q = l.countP p := by
  refine le_antisymm (countP_le_of_forall₂ h fun a b hab => (hR a b hab).1) ?_
  exact countP_le_of_forall₂ h.flip fun b a hab => (hR a b hab).2

end Counting

/-- The cases of a list that are labelled as a stratum. -/
def countOf (cases : List GeneratedCase) (stratum : NoveltyStratum) : Nat :=
  cases.countP fun c => c.noveltyStratum = stratum

/-- The label of a drawn case is the stratum it was drawn for, or tells that its causes are not
new: that happens to the draws for what is seen or combined anew. -/
theorem Drawn.label_iff {observed : List ObservedCase} {target : NoveltyStratum}
    {c : GeneratedCase} (h : Drawn observed target c) :
    (c.noveltyStratum = .ambiguous ↔ target = .ambiguous) ∧
    (c.noveltyStratum = .adversarial ↔ target = .adversarial) ∧
    (c.noveltyStratum = .compoundUnseen ↔ target = .compoundUnseen) ∧
    (c.noveltyStratum = .novelCombination → target = .novelCombination) := by
  cases h with
  | unprovable htarget hcauses hlabel =>
      rw [hlabel]
      exact ⟨Iff.rfl, Iff.rfl, Iff.rfl, id⟩
  | compound htarget hcauses hlabel => simp [hlabel, htarget]
  | combination htarget hcauses halone hnew hlabel => simp [hlabel, htarget]
  | known htarget hcauses hlabel =>
      rw [hlabel]
      rcases htarget with rfl | rfl | rfl <;> split <;> simp

/-- How far the labels of a split may fall short of its plan. -/
structure Allocated (plan : SplitPlan) (cases : List GeneratedCase) : Prop where
  ambiguous : countOf cases .ambiguous = plan.novelty .ambiguous
  adversarial : countOf cases .adversarial = plan.novelty .adversarial
  compoundUnseen : countOf cases .compoundUnseen = plan.novelty .compoundUnseen
  novelCombination : countOf cases .novelCombination ≤ plan.novelty .novelCombination
  rest : countOf cases .seen + countOf cases .novelConfiguration +
    countOf cases .novelCombination =
      plan.novelty .seen + plan.novelty .novelConfiguration + plan.novelty .novelCombination

theorem countP_strata (split : Split) {strata : List NoveltyStratum}
    (hperm : strata.Perm (planFor split).strata) (target : NoveltyStratum) :
    strata.countP (fun t => t = target) = (planFor split).novelty target := by
  have hcount : strata.count target = strata.countP fun t => t = target := by
    rw [List.count]
    exact List.countP_congr fun t _ => by simp
  rw [← hcount, hperm.count_eq, count_strata]

/-- Every case has one of the six labels. -/
theorem length_eq_counts (cases : List GeneratedCase) :
    cases.length = countOf cases .seen + countOf cases .novelConfiguration +
      countOf cases .novelCombination + countOf cases .compoundUnseen +
      countOf cases .ambiguous + countOf cases .adversarial := by
  unfold countOf
  induction cases with
  | nil => rfl
  | cons c cases ih =>
      simp only [List.length_cons, List.countP_cons, decide_eq_true_eq, ih]
      cases c.noveltyStratum <;> simp <;> omega

/-- **How the labels are allocated.**  Outside development the plan is met exactly for the
ambiguous, the adversarial and the compound cases; a novel combination that was not found is seen
or newly configured instead. -/
theorem dataset_allocation {streams : Streams} {r : GenerationResult}
    (h : generateFrom streams = .ok r) :
    ∀ s ∈ r.splits, s.split ≠ .development → Allocated (planFor s.split) s.cases := by
  intro s hs hsplit
  obtain ⟨hlaw, -⟩ := datasetLaw h
  obtain ⟨ordinal, hdealt⟩ := (hlaw.law s hs).dealt
  obtain ⟨strata, hperm, hcases⟩ := hdealt.strata
  have hlabel : ∀ target c, CaseOf (observedOf (developmentCases streams)) s.split target c →
      _ := fun target c hc => Drawn.label_iff (by rwa [CaseOf, if_neg hsplit] at hc)
  have hambiguous : countOf s.cases .ambiguous = (planFor s.split).novelty .ambiguous := by
    rw [← countP_strata s.split hperm]
    exact countP_eq_of_forall₂ hcases fun target c hc => by simpa using (hlabel target c hc).1
  have hadversarial : countOf s.cases .adversarial = (planFor s.split).novelty .adversarial := by
    rw [← countP_strata s.split hperm]
    exact countP_eq_of_forall₂ hcases fun target c hc => by simpa using (hlabel target c hc).2.1
  have hcompound :
      countOf s.cases .compoundUnseen = (planFor s.split).novelty .compoundUnseen := by
    rw [← countP_strata s.split hperm]
    exact countP_eq_of_forall₂ hcases fun target c hc => by
      simpa using (hlabel target c hc).2.2.1
  have hcombination :
      countOf s.cases .novelCombination ≤ (planFor s.split).novelty .novelCombination := by
    rw [← countP_strata s.split hperm]
    exact countP_le_of_forall₂ hcases fun target c hc => by
      simpa using (hlabel target c hc).2.2.2
  refine ⟨hambiguous, hadversarial, hcompound, hcombination, ?_⟩
  have hlength := length_of_dealt hdealt
  have hplanned : (planFor s.split).cases = (planFor s.split).novelty .seen +
      (planFor s.split).novelty .novelConfiguration +
      (planFor s.split).novelty .novelCombination + (planFor s.split).novelty .compoundUnseen +
      (planFor s.split).novelty .ambiguous + (planFor s.split).novelty .adversarial := by
    cases s.split <;> rfl
  have hcounts := length_eq_counts s.cases
  omega

theorem dataset_allocation_root : ∃ r, generateDataset = .ok r ∧
    ∀ s ∈ r.splits, s.split ≠ .development → Allocated (planFor s.split) s.cases := by
  obtain ⟨r, hr⟩ := generateDataset_root
  exact ⟨r, hr, dataset_allocation hr⟩

/-- **The report is silent** exactly when the test split has enough compound cases among the seen
and the challenge has none that is seen: no split is ever missing or of another size. -/
theorem allocationReport_silent_iff {streams : Streams} {r : GenerationResult}
    (h : generateFrom streams = .ok r) :
    SPLIT_PLAN.flatMap (planWarning r) = [] ∧
    ((allocationReport r).warnings = [] ↔
      MIN_COMPOUND_CASES_IN_SEEN ≤ ((r.casesOf .primaryTest).countP fun c =>
        c.noveltyStratum = .seen ∧ c.blueprint.trueCauses.length > 1) ∧
      countOf (r.casesOf .challenge) .seen = 0) := by
  obtain ⟨hlaw, -⟩ := datasetLaw h
  have hplans : SPLIT_PLAN.flatMap (planWarning r) = [] := by
    rw [List.flatMap_eq_nil_iff]
    intro plan hplan
    have hself : planFor plan.split = plan := by
      simp only [SPLIT_PLAN, List.mem_cons, List.not_mem_nil, or_false] at hplan
      rcases hplan with rfl | rfl | rfl | rfl | rfl <;> rfl
    obtain ⟨s, hs, hsplit, hfind⟩ := hlaw.find plan.split
    rw [planWarning, hfind]
    dsimp only
    rw [hlaw.length_cases hs, hsplit, hself]
    simp
  refine ⟨hplans, ?_⟩
  obtain ⟨primary, -, -, hprimary⟩ := hlaw.find .primaryTest
  obtain ⟨challenge, -, -, hchallenge⟩ := hlaw.find .challenge
  unfold allocationReport GenerationResult.casesOf countOf
  simp only [hplans, hprimary, hchallenge, Option.map_some, Option.getD_some, List.append_nil,
    List.countP_eq_length_filter]
  rw [List.append_eq_nil_iff]
  refine and_congr ?_ ?_
  · split
    · rename_i hfew
      exact iff_of_false (List.cons_ne_nil _ _) (by omega)
    · rename_i henough
      exact iff_of_true rfl (by omega)
  · split
    · rename_i hsome
      exact iff_of_false (List.cons_ne_nil _ _) (by omega)
    · rename_i hnone
      exact iff_of_true rfl (by omega)

theorem allocationReport_silent_root : ∃ r, generateDataset = .ok r ∧
    SPLIT_PLAN.flatMap (planWarning r) = [] ∧
    ((allocationReport r).warnings = [] ↔
      MIN_COMPOUND_CASES_IN_SEEN ≤ ((r.casesOf .primaryTest).countP fun c =>
        c.noveltyStratum = .seen ∧ c.blueprint.trueCauses.length > 1) ∧
      countOf (r.casesOf .challenge) .seen = 0) := by
  obtain ⟨r, hr⟩ := generateDataset_root
  exact ⟨r, hr, allocationReport_silent_iff hr⟩

/-! ## Splits do not perturb each other -/

theorem generateCases_length (split : Split) (registry : Option BuiltRegistry) (ordinal : Nat)
    (merchants : List String) :
    Always (generateCases split registry ordinal merchants)
      (·.length = (planFor split).cases) :=
  (generateCases_always ordinal merchants fun _ _ _ => Always.true).imp fun _ h => length_of_dealt h

/-- A split of two runs: the same cases if it draws from the same words. -/
structure SameSplit (streams streams' : Streams) (s s' : GeneratedSplit) : Prop where
  split : s.split = s'.split
  merchants : s.merchants = s'.merchants
  cases : streams.tape s.split = streams'.tape s.split → s.cases = s'.cases

/-- Two runs after the same splits. -/
structure Lockstep (streams streams' : Streams) (state state' : GenerationState) : Prop where
  ordinal : state.ordinal = state'.ordinal
  merchantIndex : state.merchantIndex = state'.merchantIndex
  registry : state.registry = state'.registry
  splits : List.Forall₂ (SameSplit streams streams') state.splits state'.splits

section Lockstep

variable {streams streams' : Streams} {state state' : GenerationState}

/-- **One more split** keeps two runs in step: how many cases it has is planned, whatever they
are. -/
theorem Lockstep.generateSplit (h : Lockstep streams streams' state state') {split : Split}
    (hsplit : split ≠ .development) :
    ∃ next next', generateSplit streams state split = .ok next ∧
      generateSplit streams' state' split = .ok next' ∧ Lockstep streams streams' next next' := by
  refine ⟨_, _, generateSplit_later streams hsplit state,
    generateSplit_later streams' hsplit state',
    ?_⟩
  constructor
  · dsimp only
    rw [generateCases_length, generateCases_length, h.ordinal]
  · exact congrArg (· + (planFor split).merchants) h.merchantIndex
  · exact h.registry
  · refine List.rel_append h.splits (.cons ⟨rfl, ?_, fun htape => ?_⟩ .nil)
    · exact congrArg (merchantsAfter · split) h.merchantIndex
    · dsimp only at htape ⊢
      rw [h.ordinal, h.merchantIndex, h.registry, htape]

theorem Lockstep.foldlM (splits : List Split) : ∀ {state state' : GenerationState},
    Lockstep streams streams' state state' → .development ∉ splits →
    ∃ final final', splits.foldlM (Generator.generateSplit streams) state = .ok final ∧
      splits.foldlM (Generator.generateSplit streams') state' = .ok final' ∧
      Lockstep streams streams' final final' := by
  induction splits with
  | nil => exact fun h _ => ⟨_, _, rfl, rfl, h⟩
  | cons split splits ih =>
      intro state state' h hnone
      have hsplit : split ≠ .development := fun heq => hnone (heq ▸ List.mem_cons_self)
      obtain ⟨next, next', hstep, hstep', hnext⟩ := h.generateSplit hsplit
      obtain ⟨final, final', hrun, hrun', hfinal⟩ :=
        ih hnext fun hmem => hnone (List.mem_cons_of_mem _ hmem)
      refine ⟨final, final', ?_, ?_, hfinal⟩
      · rw [List.foldlM_cons, hstep]
        exact hrun
      · rw [List.foldlM_cons, hstep']
        exact hrun'

/-- The same split of two runs is found in the same place. -/
theorem find?_of_forall₂ (split : Split) {l l' : List GeneratedSplit}
    (h : List.Forall₂ (SameSplit streams streams') l l')
    (hsome : (l.find? fun s => s.split = split) ≠ none) :
    ∃ s s', (l.find? fun s => s.split = split) = some s ∧
      (l'.find? fun s => s.split = split) = some s' ∧ s.split = split ∧
      SameSplit streams streams' s s' := by
  induction h with
  | nil => exact absurd rfl hsome
  | @cons s s' l l' hab _ ih =>
      by_cases hsplit : s.split = split
      · have hsplit' : s'.split = split := hab.split ▸ hsplit
        refine ⟨s, s', ?_, ?_, hsplit, hab⟩
        · rw [List.find?_cons_of_pos (by simpa using hsplit)]
        · rw [List.find?_cons_of_pos (by simpa using hsplit')]
      · have hsplit' : s'.split ≠ split := fun h => hsplit (hab.split ▸ h)
        have hskip : ∀ (t : GeneratedSplit) (ts : List GeneratedSplit), t.split ≠ split →
            (t :: ts).find? (fun s => s.split = split) = ts.find? fun s => s.split = split :=
          fun t ts ht => List.find?_cons_of_neg (by simpa using ht)
        rw [hskip s l hsplit] at hsome ⊢
        rw [hskip s' l' hsplit']
        exact ih hsome

end Lockstep

theorem lockstep_development {streams streams' : Streams}
    (hdevelopment : streams.tape .development = streams'.tape .development) :
    developmentCases streams = developmentCases streams' ∧
      Lockstep streams streams' (afterDevelopment streams) (afterDevelopment streams') := by
  have hcases : developmentCases streams = developmentCases streams' := by
    rw [developmentCases, developmentCases, hdevelopment]
  refine ⟨hcases, ?_⟩
  unfold afterDevelopment
  rw [hcases]
  exact ⟨rfl, rfl, rfl, .cons ⟨rfl, rfl, fun _ => rfl⟩ .nil⟩

/-- **Regenerating one split perturbs no other.**  Two runs that draw the same words for
development succeed together and have one registry, and any split they draw from the same words
comes out the same, whatever becomes of the others. -/
theorem split_independent {streams streams' : Streams}
    (hdevelopment : streams.tape .development = streams'.tape .development) {r : GenerationResult}
    (h : generateFrom streams = .ok r) :
    ∃ r', generateFrom streams' = .ok r' ∧ r'.registry = r.registry ∧
      ∀ split, streams.tape split = streams'.tape split → r'.casesOf split = r.casesOf split := by
  obtain ⟨hlaw, hadequate⟩ := datasetLaw h
  obtain ⟨hcases, hstep⟩ := lockstep_development hdevelopment
  have hadequate' : Adequate (observedOf (developmentCases streams')) := hcases ▸ hadequate
  obtain ⟨final, final', hrun, hrun', hfinal⟩ := hstep.foldlM laterSplits (by decide)
  obtain ⟨last, hlast, hgenerated⟩ := later_generated hadequate
  rw [hrun] at hlast
  cases hlast
  have hr := generateFrom_eq hadequate hrun hgenerated.registry
  rw [h] at hr
  cases hr
  refine ⟨_, generateFrom_eq hadequate' hrun' (hfinal.registry.symm.trans hgenerated.registry),
    rfl, fun split htape => ?_⟩
  obtain ⟨s, -, -, hfind⟩ := hlaw.find split
  obtain ⟨s, s', hs, hs', hsplit, hsame⟩ :=
    find?_of_forall₂ split hfinal.splits (by rw [hfind]; nofun)
  unfold GenerationResult.casesOf
  dsimp only
  rw [hs, hs']
  exact (hsame.cases (hsplit.symm ▸ htape)).symm

/-- The root seed, with the words of the challenge drawn from another. -/
theorem split_independent_root :
    let streams : Streams := { rootStreams GENERATOR_ROOT_SEED with
      tape := fun split => if split = .challenge then createRng 1 else
        (rootStreams GENERATOR_ROOT_SEED).tape split }
    ∃ r, generateDataset = .ok r ∧ ∃ r', generateFrom streams = .ok r' ∧
      r'.registry = r.registry ∧
      ∀ split, (rootStreams GENERATOR_ROOT_SEED).tape split = streams.tape split →
        r'.casesOf split = r.casesOf split := by
  intro streams
  have htape : (rootStreams GENERATOR_ROOT_SEED).tape .development = streams.tape .development := by
    dsimp only [streams]
    rw [if_neg (by decide)]
  obtain ⟨r, hr⟩ := generateDataset_root
  exact ⟨r, hr, split_independent htape hr⟩

end SettlementOps.Generator
