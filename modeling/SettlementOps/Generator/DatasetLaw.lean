import Mathlib.Data.List.NodupEquivFin
import SettlementOps.Generator.Dataset
import SettlementOps.Generator.RenderedCases
import SettlementOps.Generator.Shuffle

/-!
# What a dataset contains

Whatever the randomness, a dataset that is generated at all has the planned shape, and its labels
say what development contains.

* `planView_buildRegistry` — the plans read the causes back off the texts of the registry.
* `Drawn` — what a case drawn for a stratum outside development is, and how it is labelled.
* `generateCases_development`, `generateCases_later` — the cases of a split.
-/

namespace SettlementOps.Generator

open Random Relational

/-! ## The registry as the plans read it -/

theorem isCauseCode_code (cause : CauseCode) : isCauseCode cause.code = some cause := by
  cases cause <;> decide

/-- No code has a comma, so the text of a tuple splits into its codes. -/
theorem splitOn_tupleText {causes : List CauseCode} (hnil : causes ≠ []) :
    (tupleText causes).toList.splitOn ',' = causes.map (·.code.toList) := by
  have hcomma : ∀ text ∈ causes.map (·.code.toList), ',' ∉ text := by
    intro text htext
    obtain ⟨cause, -, rfl⟩ := List.mem_map.1 htext
    cases cause <;> decide
  have hsep : ",".toList = [','] := rfl
  rw [tupleText, String.toList_intercalate, hsep, List.map_map]
  exact List.splitOn_intercalate ',' hcomma (by simpa using hnil)

/-- A tuple is read back off its text. -/
theorem tupleText_decoded (causes : List CauseCode) :
    (((tupleText causes).toList.splitOn ',').filterMap fun text =>
      isCauseCode (String.ofList text)) = causes := by
  by_cases hnil : causes = []
  · subst hnil
    decide
  have hread : (fun cause : CauseCode => isCauseCode (String.ofList cause.code.toList)) =
      some := by
    funext cause
    rw [String.ofList_toList, isCauseCode_code]
  rw [splitOn_tupleText hnil, List.filterMap_map]
  exact (congrArg (List.filterMap · causes) hread).trans List.filterMap_some

/-- **The plans read the registry**: its texts stand for the causes they are written of. -/
theorem planView_buildRegistry (observed : List ObservedCase) :
    (buildRegistry observed).planView = planRegistry observed := by
  obtain ⟨htuples, hsingles⟩ := buildRegistry_plans observed
  unfold BuiltRegistry.planView
  rw [htuples, hsingles, List.map_map, List.filterMap_map]
  have hdecode : (fun tuple : String => (tuple.toList.splitOn ',').filterMap fun text =>
      isCauseCode (String.ofList text)) ∘ tupleText = id := funext tupleText_decoded
  have hread : isCauseCode ∘ (·.code) = some := funext isCauseCode_code
  rw [hdecode, hread, List.map_id, List.filterMap_some]

/-! ## The plans of a stratum -/

/-- What development is made of: a single cause, or one of the four fixed pairings. -/
def DevelopmentCauses (causes : List CauseCode) : Prop :=
  (∃ cause ∈ SINGLE_CAUSES, causes = [cause]) ∨ causes ∈ DEVELOPMENT_PAIRS

theorem DevelopmentCauses.length_le {causes : List CauseCode} (h : DevelopmentCauses causes) :
    1 ≤ causes.length ∧ causes.length ≤ 2 := by
  rcases h with ⟨cause, -, rfl⟩ | hpair
  · exact ⟨le_rfl, Nat.le_succ 1⟩
  · revert causes
    decide

theorem DevelopmentCauses.ne_ambiguous {causes : List CauseCode} (h : DevelopmentCauses causes) :
    CauseCode.ambiguous ∉ causes := by
  rcases h with ⟨cause, hcause, rfl⟩ | hpair
  · rintro hmem
    rw [List.mem_singleton] at hmem
    subst hmem
    exact absurd hcause (by decide)
  · revert causes
    decide

/-- The causes of a case are sorted already. -/
theorem DevelopmentCauses.sorted {causes : List CauseCode} (h : DevelopmentCauses causes) :
    sortedCauses causes = causes := by
  rcases h with ⟨cause, -, rfl⟩ | hpair
  · rfl
  · revert causes
    decide

theorem developmentPlan_always :
    Always developmentPlan fun plan =>
      ∃ causes, DevelopmentCauses causes ∧ plan = planOf causes := by
  refine Always.true.bind fun pairing _ => ?_
  split
  · refine (Rng.pick_mem _ _).bind fun pair hpair => Always.pure ⟨pair, .inr hpair, ?_⟩
    rw [DevelopmentCauses.sorted (.inr hpair)]
  · exact (Rng.pick_mem _ _).bind fun cause hcause =>
      Always.pure ⟨[cause], .inl ⟨cause, hcause, rfl⟩, rfl⟩

theorem sortedCauses_idem (causes : List CauseCode) :
    sortedCauses (sortedCauses causes) = sortedCauses causes :=
  sortedCauses_eq_iff.2 (List.perm_insertionSort (fun a b : CauseCode => a.code ≤ b.code) causes)

/-- Some distinct causes off the front of the shuffled list, in order. -/
theorem shuffled_take (n : Nat) (hn : n ≤ 5) :
    Always (Rng.shuffle SINGLE_CAUSES) fun causes =>
      (sortedCauses (causes.take n)).length = n ∧ (sortedCauses (causes.take n)).Nodup := by
  refine (Rng.shuffle_perm SINGLE_CAUSES).imp fun causes hperm => ?_
  have hlen : causes.length = 5 := hperm.length_eq
  have hnodup : (causes.take n).Nodup :=
    (hperm.nodup_iff.2 (by decide)).sublist (List.take_sublist n causes)
  have hsorted := List.perm_insertionSort (fun a b : CauseCode => a.code ≤ b.code) (causes.take n)
  refine ⟨?_, hsorted.nodup_iff.2 hnodup⟩
  rw [sortedCauses, List.length_insertionSort, List.length_take, hlen, Nat.min_eq_left hn]

section Known

variable (known : CombinationRegistry)

/-- Development never shows three causes, so the first triple drawn is new. -/
theorem compoundPlan_always (hpairs : ∀ tuple ∈ known.tuples, tuple.length ≤ 2) (attempts : Nat) :
    Always (compoundPlan (some known) (attempts + 1)) fun plan =>
      ∃ causes, causes.length = 3 ∧ plan = planOf causes := by
  refine (shuffled_take 3 (by decide)).bind fun causes hcauses => ?_
  have hnew : sortedCauses (causes.take 3) ∉ known.tuples := by
    intro hmem
    have := hpairs _ hmem
    omega
  dsimp only
  rw [if_pos hnew]
  exact Always.pure ⟨_, hcauses.1, rfl⟩

/-- A pairing the registry does not know, of causes it knows alone. -/
structure NovelPair (causes : List CauseCode) : Prop where
  two : causes.length = 2
  nodup : causes.Nodup
  alone : ∀ cause ∈ causes, cause ∈ known.singles
  unknown : sortedCauses causes ∉ known.tuples

theorem combinationPlan_always (attempts : Nat) :
    Always (combinationPlan (some known) attempts) fun plan =>
      ∃ causes, (NovelPair known causes ∨ ∃ cause ∈ SINGLE_CAUSES, causes = [cause]) ∧
        plan = planOf causes := by
  induction attempts with
  | zero =>
      exact (Rng.pick_mem _ _).bind fun cause hcause =>
        Always.pure ⟨[cause], .inr ⟨cause, hcause, rfl⟩, rfl⟩
  | succ attempts ih =>
      refine (shuffled_take 2 (by decide)).bind fun causes hcauses => ?_
      dsimp only
      split
      · rename_i h
        have hunknown := h.2
        rw [← sortedCauses_idem] at hunknown
        exact Always.pure ⟨_, .inl ⟨hcauses.1, hcauses.2, h.1, hunknown⟩, rfl⟩
      · exact ih

theorem seenPlan_always (hsome : known.tuples ≠ []) :
    Always (seenPlan (some known)) fun plan =>
      ∃ tuple ∈ known.tuples, plan = planOf (sortedCauses tuple) := by
  unfold seenPlan
  dsimp only
  rw [dif_neg hsome]
  exact (Rng.pick_mem _ _).bind fun tuple htuple => Always.pure ⟨tuple, htuple, rfl⟩

end Known

/-! ## One case -/

/-- The number, the merchant and the plan a case was rendered for. -/
structure Rendered (ordinal : Nat) (split : Split) (slug : String) (plan : CasePlan)
    (c : GeneratedCase) : Prop where
  rendered : ∃ tape, c.blueprint = (result (renderCase ordinal split slug plan) tape).blueprint ∧
    c.visibleRecords = (result (renderCase ordinal split slug plan) tape).visibleRecords

namespace Rendered

variable {ordinal : Nat} {split : Split} {slug : String} {plan : CasePlan} {c : GeneratedCase}

/-- The identity of a case is a matter of its plan and its draws. -/
theorem blueprint (h : Rendered ordinal split slug plan c) : ∃ draw : CaseDraw,
    draw.InRange split ∧ c.blueprint = blueprintOf ordinal split slug plan draw := by
  obtain ⟨tape, hblueprint, -⟩ := h.rendered
  refine ⟨_, drawCase_always split tape, ?_⟩
  rw [hblueprint, renderCase_result ordinal split slug plan tape rfl]

theorem paymentId (h : Rendered ordinal split slug plan c) :
    c.blueprint.paymentId = (refsFor ordinal).payment := by
  obtain ⟨draw, -, hblueprint⟩ := h.blueprint
  rw [hblueprint]
  rfl

theorem merchantSlug (h : Rendered ordinal split slug plan c) :
    c.blueprint.merchantSlug = slug := by
  obtain ⟨draw, -, hblueprint⟩ := h.blueprint
  rw [hblueprint]
  rfl

theorem split_eq (h : Rendered ordinal split slug plan c) : c.blueprint.split = split := by
  obtain ⟨draw, -, hblueprint⟩ := h.blueprint
  rw [hblueprint]
  rfl

theorem trueCauses (h : Rendered ordinal split slug plan c) :
    c.blueprint.trueCauses =
      if plan.causes.length > 1 then sortedCauses plan.causes else plan.causes := by
  obtain ⟨draw, -, hblueprint⟩ := h.blueprint
  rw [hblueprint]
  rfl

/-- However a plan writes its causes, the case has them sorted. -/
theorem trueCauses_sorted (h : Rendered ordinal split slug plan c) :
    c.blueprint.trueCauses = sortedCauses plan.causes := by
  rw [h.trueCauses]
  split
  · rfl
  · rename_i hlen
    rcases hcauses : plan.causes with _ | ⟨cause, _ | ⟨second, rest⟩⟩
    · rfl
    · rfl
    · rw [hcauses] at hlen
      exact absurd (Nat.le_add_left 2 rest.length) hlen

end Rendered

/-- One attempt renders a case of its plan and labels it by lookup. -/
theorem drawAttempt_always {split : Split} {registry : Option BuiltRegistry} {ordinal : Nat}
    {slug : String} {target : NoveltyStratum} {Q : CasePlan → Prop}
    (hplan : Always (planForStratum target (registry.map BuiltRegistry.planView)) Q) :
    Always (drawAttempt split registry ordinal slug target) fun c =>
      ∃ plan, Q plan ∧ Rendered ordinal split slug plan c ∧
        c.noveltyStratum = labelFor split registry target plan
          ⟨c.blueprint, c.visibleRecords, c.blueprint.bucket⟩ := by
  refine hplan.bind fun plan hQ => ?_
  have hrender : Always (renderCase ordinal split slug plan) fun rendered =>
      rendered.bucket = rendered.blueprint.bucket ∧
        ∃ tape, rendered = result (renderCase ordinal split slug plan) tape := by
    refine fun tape => ⟨?_, tape, rfl⟩
    rw [renderCase_result ordinal split slug plan tape rfl]
  refine hrender.bind fun rendered hrendered => Always.pure ?_
  obtain ⟨hbucket, tape, hrendered⟩ := hrendered
  refine ⟨plan, hQ, ⟨tape, congrArg RenderedCase.blueprint hrendered,
    congrArg RenderedCase.visibleRecords hrendered⟩, ?_⟩
  dsimp only
  rw [← hbucket]

/-- What holds of every attempt holds of the case that is kept. -/
theorem drawUntilLanded_always {split : Split} {registry : Option BuiltRegistry} {ordinal : Nat}
    {slug : String} {target : NoveltyStratum} {P : GeneratedCase → Prop}
    (hattempt : Always (drawAttempt split registry ordinal slug target) P) (more : Nat) :
    Always (drawUntilLanded split registry ordinal slug target more) P := by
  induction more with
  | zero => exact hattempt
  | succ more ih =>
      refine hattempt.bind fun c hc => ?_
      split
      · exact Always.pure hc
      · exact ih

/-- A case of development. -/
structure DrawnInDevelopment (c : GeneratedCase) : Prop where
  causes : DevelopmentCauses c.blueprint.trueCauses
  seen : c.noveltyStratum = .seen

theorem drawUntilLanded_development (ordinal : Nat) (slug : String) (more : Nat) :
    Always (drawUntilLanded .development none ordinal slug .seen more) fun c =>
      DrawnInDevelopment c ∧ ∃ plan, Rendered ordinal .development slug plan c := by
  have hplan : Always (planForStratum .seen ((none : Option BuiltRegistry).map
      BuiltRegistry.planView)) fun plan =>
        ∃ causes, DevelopmentCauses causes ∧ plan = planOf causes := developmentPlan_always
  refine drawUntilLanded_always ((drawAttempt_always hplan).imp ?_) more
  rintro c ⟨plan, ⟨causes, hcauses, rfl⟩, hrendered, hlabel⟩
  refine ⟨⟨?_, hlabel⟩, _, hrendered⟩
  have htrue : c.blueprint.trueCauses = sortedCauses causes := hrendered.trueCauses_sorted
  rw [htrue, hcauses.sorted]
  exact hcauses

/-! ## A case outside development -/

/-- Development as the later splits meet it: every cause alone, and only what it may contain. -/
structure DevelopmentObserved (observed : List ObservedCase) : Prop where
  causes : ∀ c ∈ observed, DevelopmentCauses c.causes
  alone : ∀ cause ∈ SINGLE_CAUSES, ∃ c ∈ observed, c.causes = [cause]

/-- The configurations of development, by causes and bucket. -/
def configurations (observed : List ObservedCase) :
    Multiset (Multiset CauseCode × ConfigurationBucket) :=
  (observed.map ObservedCase.configuration : Multiset _)

/-- The causes a case has, as a multiset. -/
def GeneratedCase.causes (c : GeneratedCase) : Multiset CauseCode := c.blueprint.trueCauses

/-- The cases drawn for a stratum once development is fixed. -/
inductive Drawn (observed : List ObservedCase) (target : NoveltyStratum) (c : GeneratedCase) : Prop
  /-- A case whose cause cannot be proved is labelled by its plan. -/
  | unprovable (htarget : target = .ambiguous ∨ target = .adversarial)
      (hcauses : c.blueprint.trueCauses = [.ambiguous]) (hlabel : c.noveltyStratum = target)
  /-- Three causes at once are never seen in development. -/
  | compound (htarget : target = .compoundUnseen) (hcauses : c.blueprint.trueCauses.length = 3)
      (hlabel : c.noveltyStratum = .compoundUnseen)
  /-- Two causes each seen alone, never together. -/
  | combination (htarget : target = .novelCombination)
      (hcauses : c.blueprint.trueCauses.length = 2)
      (halone : ∀ cause ∈ c.blueprint.trueCauses, ∃ o ∈ observed, o.causes = [cause])
      (hnew : c.causes ∉ (configurations observed).map Prod.fst)
      (hlabel : c.noveltyStratum = .novelCombination)
  /-- Causes development shows: only the configuration may be new. -/
  | known (htarget : target = .seen ∨ target = .novelConfiguration ∨ target = .novelCombination)
      (hcauses : c.causes ∈ (configurations observed).map Prod.fst)
      (hlabel : c.noveltyStratum =
        if (c.causes, c.blueprint.bucket) ∈ configurations observed then .seen
        else .novelConfiguration)

section Later

variable {observed : List ObservedCase}

theorem mem_singles_iff {cause : CauseCode} :
    cause ∈ (planRegistry observed).singles ↔ ∃ o ∈ observed, o.causes = [cause] := by
  unfold planRegistry
  dsimp only
  rw [List.mem_eraseDups, List.mem_filterMap]
  refine exists_congr fun o => and_congr_right fun _ => ?_
  rcases hcauses : o.causes with _ | ⟨first, _ | ⟨second, rest⟩⟩ <;>
    simp [ObservedCase.single, hcauses]

theorem mem_tuples_iff {causes : List CauseCode} :
    causes ∈ (planRegistry observed).tuples ↔ ∃ o ∈ observed, sortedCauses o.causes = causes := by
  unfold planRegistry
  dsimp only
  rw [List.mem_eraseDups, List.mem_map]

theorem mem_fst_configurations {causes : List CauseCode} :
    (causes : Multiset CauseCode) ∈ (configurations observed).map Prod.fst ↔
      sortedCauses causes ∈ (planRegistry observed).tuples := by
  rw [configurations, mem_fst_configurations_iff, mem_tuples_iff]
  simp only [Multiset.coe_eq_coe, sortedCauses_eq_iff]

/-- Outside development a case that its plan does not name is labelled by lookup alone. -/
theorem labelFor_later {split : Split} (hsplit : split ≠ .development) (target : NoveltyStratum)
    (causes : List CauseCode) (c : GeneratedCase) :
    labelFor split (some (buildRegistry observed)) target (planOf causes)
        ⟨c.blueprint, c.visibleRecords, c.blueprint.bucket⟩ =
      noveltyOf (configurations observed) c.causes c.blueprint.bucket := by
  unfold labelFor
  rw [if_neg hsplit]
  exact classifyNovelty_eq observed c.blueprint.trueCauses c.blueprint.bucket

/-- A case whose causes development shows is seen or newly configured. -/
theorem Drawn.of_known {target : NoveltyStratum} {c : GeneratedCase}
    (htarget : target = .seen ∨ target = .novelConfiguration ∨ target = .novelCombination)
    (hcauses : c.causes ∈ (configurations observed).map Prod.fst)
    (hlabel : c.noveltyStratum =
      noveltyOf (configurations observed) c.causes c.blueprint.bucket) :
    Drawn observed target c := by
  refine .known htarget hcauses ?_
  rw [hlabel, noveltyOf, if_pos hcauses]

variable (h : DevelopmentObserved observed)
include h

theorem DevelopmentObserved.tuples_length :
    ∀ tuple ∈ (planRegistry observed).tuples, tuple.length ≤ 2 := by
  intro tuple htuple
  obtain ⟨o, ho, rfl⟩ := mem_tuples_iff.1 htuple
  rw [(h.causes o ho).sorted]
  exact (h.causes o ho).length_le.2

theorem DevelopmentObserved.tuples_ne_nil : (planRegistry observed).tuples ≠ [] := by
  obtain ⟨o, ho, -⟩ := h.alone .mdrFee (by decide)
  exact List.ne_nil_of_mem (mem_tuples_iff.2 ⟨o, ho, rfl⟩)

theorem DevelopmentObserved.known_single {cause : CauseCode} (hcause : cause ∈ SINGLE_CAUSES) :
    (([cause] : List CauseCode) : Multiset CauseCode) ∈ (configurations observed).map Prod.fst := by
  obtain ⟨o, ho, hcauses⟩ := h.alone cause hcause
  rw [mem_fst_configurations, mem_tuples_iff]
  exact ⟨o, ho, by rw [hcauses]⟩

theorem DevelopmentObserved.fresh {causes : List CauseCode} (hthree : 3 ≤ causes.length) :
    (causes : Multiset CauseCode) ∉ (configurations observed).map Prod.fst := by
  intro hmem
  have hlen := h.tuples_length _ (mem_fst_configurations.1 hmem)
  rw [sortedCauses, List.length_insertionSort] at hlen
  omega

/-- What a plan for a stratum is, given development. -/
def PlannedFor (observed : List ObservedCase) : NoveltyStratum → CasePlan → Prop
  | .adversarial, plan => plan = ⟨[.ambiguous], true, false⟩
  | .ambiguous, plan => plan = ⟨[.ambiguous], false, true⟩
  | .compoundUnseen, plan => ∃ causes, causes.length = 3 ∧ plan = planOf causes
  | .novelCombination, plan => ∃ causes, (NovelPair (planRegistry observed) causes ∨
      ∃ cause ∈ SINGLE_CAUSES, causes = [cause]) ∧ plan = planOf causes
  | .novelConfiguration, plan | .seen, plan =>
      ∃ tuple ∈ (planRegistry observed).tuples, plan = planOf (sortedCauses tuple)

theorem planForStratum_always (target : NoveltyStratum) :
    Always (planForStratum target ((some (buildRegistry observed)).map BuiltRegistry.planView))
      (PlannedFor observed target) := by
  have hview : (some (buildRegistry observed)).map BuiltRegistry.planView =
      some (planRegistry observed) := congrArg some (planView_buildRegistry observed)
  rw [hview]
  cases target with
  | adversarial => exact Always.pure rfl
  | ambiguous => exact Always.pure rfl
  | compoundUnseen => exact compoundPlan_always _ h.tuples_length 39
  | novelCombination => exact combinationPlan_always _ 60
  | novelConfiguration => exact seenPlan_always _ h.tuples_ne_nil
  | seen => exact seenPlan_always _ h.tuples_ne_nil

/-- A case of a plan for its stratum is labelled as the stratum or as what it turned out to be. -/
theorem Drawn.of_planned {split : Split} (hsplit : split ≠ .development) {ordinal : Nat}
    {slug : String} {target : NoveltyStratum} {plan : CasePlan} {c : GeneratedCase}
    (hplan : PlannedFor observed target plan) (hrendered : Rendered ordinal split slug plan c)
    (hlabel : c.noveltyStratum = labelFor split (some (buildRegistry observed)) target plan
      ⟨c.blueprint, c.visibleRecords, c.blueprint.bucket⟩) : Drawn observed target c := by
  have htrue := hrendered.trueCauses_sorted
  -- causes development shows leave only the configuration open
  have hshown : ∀ causes, target = .seen ∨ target = .novelConfiguration ∨
      target = .novelCombination → sortedCauses causes ∈ (planRegistry observed).tuples →
      plan = planOf causes → Drawn observed target c := by
    rintro causes htarget htuple rfl
    refine Drawn.of_known htarget ?_ (hlabel.trans (labelFor_later hsplit target causes c))
    rw [GeneratedCase.causes, htrue, mem_fst_configurations, sortedCauses_idem]
    exact htuple
  have hpicked : ∀ tuple ∈ (planRegistry observed).tuples,
      sortedCauses (sortedCauses tuple) ∈ (planRegistry observed).tuples := by
    intro tuple htuple
    obtain ⟨o, ho, rfl⟩ := mem_tuples_iff.1 htuple
    rwa [sortedCauses_idem, sortedCauses_idem]
  cases target with
  | adversarial =>
      cases hplan
      refine .unprovable (.inr rfl) htrue (hlabel.trans ?_)
      rw [labelFor, if_neg hsplit]
      rfl
  | ambiguous =>
      cases hplan
      refine .unprovable (.inl rfl) htrue (hlabel.trans ?_)
      rw [labelFor, if_neg hsplit]
      rfl
  | compoundUnseen =>
      obtain ⟨causes, hthree, rfl⟩ := hplan
      have hlength : c.blueprint.trueCauses.length = 3 := by
        rw [htrue, sortedCauses, List.length_insertionSort]
        exact hthree
      have hnew : c.causes ∉ (configurations observed).map Prod.fst := h.fresh hlength.ge
      refine .compound rfl hlength ?_
      rw [hlabel, labelFor_later hsplit]
      exact (noveltyOf_iff _ _ _).2.2.1.2 ⟨hnew, hlength.ge⟩
  | novelCombination =>
      obtain ⟨causes, hpair | ⟨cause, hcause, rfl⟩, rfl⟩ := hplan
      · have hperm := List.perm_insertionSort (fun a b : CauseCode => a.code ≤ b.code) causes
        have hlength : c.blueprint.trueCauses.length = 2 := by
          rw [htrue]
          exact hperm.length_eq.trans hpair.two
        have hnew : c.causes ∉ (configurations observed).map Prod.fst := by
          rw [GeneratedCase.causes, htrue, mem_fst_configurations, sortedCauses_idem]
          exact hpair.unknown
        refine .combination rfl hlength ?_ hnew ?_
        · intro cause hcause
          rw [htrue] at hcause
          exact mem_singles_iff.1 (hpair.alone cause (hperm.mem_iff.1 hcause))
        · rw [hlabel, labelFor_later hsplit]
          exact (noveltyOf_iff _ _ _).2.2.2.2 ⟨hnew, by
            have hcard : Multiset.card c.causes = 2 := hlength
            omega⟩
      · exact hshown [cause] (.inr (.inr rfl))
          (mem_fst_configurations.1 (h.known_single hcause)) rfl
  | novelConfiguration =>
      obtain ⟨tuple, htuple, rfl⟩ := hplan
      exact hshown _ (.inr (.inl rfl)) (hpicked tuple htuple) rfl
  | seen =>
      obtain ⟨tuple, htuple, rfl⟩ := hplan
      exact hshown _ (.inl rfl) (hpicked tuple htuple) rfl

/-- **A case drawn outside development** is of its stratum or honestly labelled. -/
theorem drawUntilLanded_later {split : Split} (hsplit : split ≠ .development) (ordinal : Nat)
    (slug : String) (target : NoveltyStratum) (more : Nat) :
    Always (drawUntilLanded split (some (buildRegistry observed)) ordinal slug target more)
      fun c => Drawn observed target c ∧ ∃ plan, Rendered ordinal split slug plan c := by
  refine drawUntilLanded_always ?_ more
  refine (drawAttempt_always (planForStratum_always h target)).imp ?_
  rintro c ⟨plan, hplan, hrendered, hlabel⟩
  exact ⟨Drawn.of_planned h hsplit hplan hrendered hlabel, plan, hrendered⟩

end Later

/-! ## The cases of a split -/

/-- Whatever the stratum, a case is rendered for its number and merchant. -/
theorem drawUntilLanded_rendered (split : Split) (registry : Option BuiltRegistry) (ordinal : Nat)
    (slug : String) (target : NoveltyStratum) (more : Nat) :
    Always (drawUntilLanded split registry ordinal slug target more) fun c =>
      ∃ plan, Rendered ordinal split slug plan c := by
  refine drawUntilLanded_always ((drawAttempt_always Always.true).imp ?_) more
  rintro c ⟨plan, -, hrendered, -⟩
  exact ⟨plan, hrendered⟩

/-- The cases of a split: one for each stratum of its plan, numbered in order and dealt to the
merchants in turn. -/
structure Dealt (split : Split) (ordinal : Nat) (merchants : List String)
    (P : NoveltyStratum → GeneratedCase → Prop) (cases : List GeneratedCase) : Prop where
  strata : ∃ strata : List NoveltyStratum, strata.Perm (planFor split).strata ∧
    List.Forall₂ P strata cases
  payments : cases.map (·.blueprint.paymentId) =
    (List.range cases.length).map fun i => (refsFor (ordinal + i)).payment
  slugs : cases.map (·.blueprint.merchantSlug) =
    (List.range cases.length).map (merchantAt merchants)
  split_eq : ∀ c ∈ cases, c.blueprint.split = split
  rendered : List.Forall₂
    (fun i c => ∃ plan, Rendered (ordinal + i) split (merchantAt merchants i) plan c)
    (List.range cases.length) cases

theorem map_eq_of_forall₂ {α β γ : Type} {R : α → β → Prop} {f : α → γ} {g : β → γ} {l : List α}
    {out : List β} (h : List.Forall₂ R l out) (hR : ∀ a b, R a b → g b = f a) :
    out.map g = l.map f := by
  induction h with
  | nil => rfl
  | cons hab _ ih => rw [List.map_cons, List.map_cons, hR _ _ hab, ih]

theorem map_zipIdx_snd {α β : Type} (l : List α) (f : Nat → β) :
    l.zipIdx.map (fun p => f p.2) = (List.range l.length).map f := by
  rw [List.range_eq_range', ← List.zipIdx_map_snd 0 l, List.map_map]
  rfl

theorem generateCases_always {split : Split} {registry : Option BuiltRegistry}
    {P : NoveltyStratum → GeneratedCase → Prop} (ordinal : Nat) (merchants : List String)
    (hdraw : ∀ ordinal slug target,
      Always (drawUntilLanded split registry ordinal slug target 24) (P target)) :
    Always (generateCases split registry ordinal merchants) (Dealt split ordinal merchants P) := by
  refine (Rng.shuffle_perm (planFor split).strata).bind fun strata hperm => ?_
  have hone : ∀ p : NoveltyStratum × Nat,
      Always (drawUntilLanded split registry (ordinal + p.2) (merchantAt merchants p.2) p.1 24)
        fun c => P p.1 c ∧
          ∃ plan, Rendered (ordinal + p.2) split (merchantAt merchants p.2) plan c :=
    fun p tape => ⟨hdraw _ _ _ tape, drawUntilLanded_rendered _ _ _ _ _ _ tape⟩
  refine (Always.mapM hone strata.zipIdx).imp fun cases hcases => ?_
  have hlen : cases.length = strata.length := by
    rw [← hcases.length_eq, List.length_zipIdx]
  refine ⟨⟨strata, hperm, ?_⟩, ?_, ?_, ?_, ?_⟩
  · have hstrata : List.Forall₂ (fun (p : NoveltyStratum × Nat) c => P p.1 c) strata.zipIdx cases :=
      hcases.imp fun _ _ h => h.1
    rwa [← List.forall₂_map_left_iff, List.zipIdx_map_fst] at hstrata
  · rw [hlen, ← map_zipIdx_snd]
    exact map_eq_of_forall₂ hcases fun p c ⟨_, plan, hrendered⟩ => hrendered.paymentId
  · rw [hlen, ← map_zipIdx_snd]
    exact map_eq_of_forall₂ hcases fun p c ⟨_, plan, hrendered⟩ => hrendered.merchantSlug
  · have hsplit : cases.map (·.blueprint.split) = strata.zipIdx.map fun _ => split :=
      map_eq_of_forall₂ hcases fun p c ⟨_, plan, hrendered⟩ => hrendered.split_eq
    intro c hc
    have hmem := List.mem_map_of_mem (f := (·.blueprint.split)) hc
    rw [hsplit, List.mem_map] at hmem
    obtain ⟨-, -, heq⟩ := hmem
    exact heq.symm
  · rw [hlen, ← List.map_id (List.range _), ← map_zipIdx_snd, List.forall₂_map_left_iff]
    exact hcases.imp fun _ _ h => h.2

/-! ### Dealing to merchants -/

/-- Dealt in turn for whole rounds, every merchant comes up once a round. -/
theorem map_merchantAt_rounds (merchants : List String) (rounds : Nat) :
    (List.range (rounds * merchants.length)).map (merchantAt merchants) =
      (List.replicate rounds merchants).flatten := by
  induction rounds with
  | zero => simp
  | succ rounds ih =>
      have hround : (List.range merchants.length).map
          (fun i => merchantAt merchants (rounds * merchants.length + i)) = merchants := by
        refine List.ext_getElem (by simp) fun i hi hi' => ?_
        rw [List.getElem_map, List.getElem_range, merchantAt, Nat.mul_comm,
          Nat.mul_add_mod, Nat.mod_eq_of_lt hi', List.getElem?_eq_getElem hi']
        rfl
      rw [Nat.succ_mul, List.range_add, List.map_append, List.map_map, ih, List.replicate_succ',
        List.flatten_append, List.flatten_singleton]
      exact congrArg _ hround

/-! ## The frozen allocation -/

/-- The strata of a plan are as many as planned, each. -/
theorem count_strata (plan : SplitPlan) (target : NoveltyStratum) :
    plan.strata.count target = plan.novelty target := by
  unfold SplitPlan.strata NOVELTY_STRATA
  cases target <;>
    simp [List.count_replicate]

theorem strata_length (split : Split) :
    (planFor split).strata.length = (planFor split).cases := by
  have hsum : (planFor split).strata.length =
      (NOVELTY_STRATA.map (planFor split).novelty).sum := by
    simp [SplitPlan.strata, List.length_flatMap]
  rw [hsum]
  cases split <;> rfl

theorem cases_eq_rounds (split : Split) :
    (planFor split).cases = 10 * (planFor split).merchants := by
  cases split <;> decide

theorem strata_development {target : NoveltyStratum} (h : target ∈ (planFor .development).strata) :
    target = .seen := by
  have hcount := List.count_pos_iff.2 h
  rw [count_strata] at hcount
  revert target
  decide

/-! ## The registry of development -/

/-- Development is adequate when it shows each cause alone and some pairing. -/
structure Adequate (observed : List ObservedCase) : Prop where
  alone : ∀ cause ∈ SINGLE_CAUSES, ∃ o ∈ observed, o.causes = [cause]
  pairing : ∃ o ∈ observed, o.causes.length = 2

theorem splitOn_tupleText_length (causes : List CauseCode) :
    ((tupleText causes).toList.splitOn ',').length = 2 ↔ causes.length = 2 := by
  by_cases hnil : causes = []
  · subst hnil
    decide
  · have hlen := congrArg List.length (splitOn_tupleText hnil)
    rw [List.length_map] at hlen
    rw [hlen]

/-- **The registry is adequate** exactly when development is. -/
theorem assertRegistryAdequate_iff (observed : List ObservedCase) :
    assertRegistryAdequate (buildRegistry observed) SINGLE_CAUSES = .ok () ↔
      Adequate observed := by
  obtain ⟨htuples, hsingles⟩ := buildRegistry_plans observed
  have halone : ((SINGLE_CAUSES.filter fun cause =>
      cause.code ∉ (buildRegistry observed).singles.rows).length > 0) ↔
        ¬ ∀ cause ∈ SINGLE_CAUSES, ∃ o ∈ observed, o.causes = [cause] := by
    rw [gt_iff_lt, List.length_pos_iff_exists_mem]
    push Not
    refine exists_congr fun cause => ?_
    rw [List.mem_filter, decide_eq_true_eq, hsingles,
      List.mem_map_of_injective (fun _ _ => code_inj), mem_singles_iff]
    push Not
    exact Iff.rfl
  have hpairing : (((buildRegistry observed).tuples.rows.filter fun t =>
      (t.toList.splitOn ',').length = 2).length = 0) ↔
        ¬ ∃ o ∈ observed, o.causes.length = 2 := by
    have hlength : ∀ causes, (sortedCauses causes).length = causes.length :=
      fun causes => List.length_insertionSort _ causes
    rw [List.length_eq_zero_iff, List.filter_eq_nil_iff, htuples]
    simp only [List.mem_map, forall_exists_index, and_imp, forall_apply_eq_imp_iff₂,
      mem_tuples_iff, decide_eq_true_eq, splitOn_tupleText_length, hlength, not_exists, not_and]
  unfold assertRegistryAdequate
  dsimp only
  split
  · rename_i hmissing
    refine ⟨nofun, fun h => absurd h.alone (halone.1 hmissing)⟩
  · rename_i hmissing
    rw [halone, not_not] at hmissing
    split
    · rename_i hnone
      exact ⟨nofun, fun h => absurd h.pairing (hpairing.1 hnone)⟩
    · rename_i hsome
      rw [hpairing, not_not] at hsome
      exact ⟨fun _ => ⟨hmissing, hsome⟩, fun _ => rfl⟩

/-! ## The splits in order -/

/-- The merchants a split takes after so many. -/
def merchantsAfter (start : Nat) (split : Split) : List String :=
  (List.range (planFor split).merchants).map fun i => merchantSlug (start + i + 1)

/-- The cases development comes to. -/
def developmentCases (streams : Streams) : List GeneratedCase :=
  result (generateCases .development none 1 (merchantsAfter 0 .development))
    (streams.tape .development)

/-- What a case of a split is, given development. -/
def CaseOf (observed : List ObservedCase) (split : Split) (target : NoveltyStratum)
    (c : GeneratedCase) : Prop :=
  if split = .development then DrawnInDevelopment c else Drawn observed target c

/-- A generated split, given development. -/
structure SplitLaw (observed : List ObservedCase) (s : GeneratedSplit) : Prop where
  merchants : s.merchants.length = (planFor s.split).merchants
  dealt : ∃ ordinal, Dealt s.split ordinal s.merchants (CaseOf observed s.split) s.cases

/-- The splits generated so far. -/
structure Generated (streams : Streams) (observed : List ObservedCase) (done : List Split)
    (state : GenerationState) : Prop where
  registry : state.registry = some (buildRegistry observed)
  splits : state.splits.map (·.split) = done
  seeds : ∀ s ∈ state.splits, s.seed = streams.seed s.split
  merchants : state.splits.flatMap (·.merchants) =
    (List.range state.merchantIndex).map fun i => merchantSlug (i + 1)
  ordinal : state.ordinal = (state.splits.flatMap (·.cases)).length + 1
  payments : (state.splits.flatMap (·.cases)).map (·.blueprint.paymentId) =
    (List.range (state.splits.flatMap (·.cases)).length).map fun i => (refsFor (i + 1)).payment
  rendered : List.Forall₂ (fun i c => ∃ split slug plan, Rendered (i + 1) split slug plan c)
    (List.range (state.splits.flatMap (·.cases)).length) (state.splits.flatMap (·.cases))
  law : ∀ s ∈ state.splits, SplitLaw observed s
  development : ∀ s ∈ state.splits, s.split = .development → observedOf s.cases = observed

theorem generated_empty (streams : Streams) (observed : List ObservedCase) :
    Generated streams observed [] ⟨1, 0, some (buildRegistry observed), []⟩ where
  registry := rfl
  splits := rfl
  seeds := nofun
  merchants := rfl
  ordinal := rfl
  payments := rfl
  rendered := .nil
  law := nofun
  development := nofun

theorem developmentCases_dealt (streams : Streams) :
    Dealt .development 1 (merchantsAfter 0 .development)
      (CaseOf (observedOf (developmentCases streams)) .development) (developmentCases streams) := by
  have hdealt := generateCases_always (P := fun target c => target = .seen → DrawnInDevelopment c)
    1 (merchantsAfter 0 .development) (fun ordinal slug target tape htarget => by
      subst htarget
      exact (drawUntilLanded_development ordinal slug 24 tape).1)
    (streams.tape .development)
  obtain ⟨strata, hperm, hcases⟩ := hdealt.strata
  have hseen : ∀ target ∈ strata, target = .seen :=
    fun target htarget => strata_development (hperm.mem_iff.1 htarget)
  refine { hdealt with strata := ⟨strata, hperm, ?_⟩ }
  refine ((List.forall₂_and_left _ _).2 ⟨hseen, hcases⟩).imp ?_
  rintro target c ⟨htarget, hc⟩
  rw [CaseOf, if_pos rfl]
  exact hc htarget

theorem developmentObserved (streams : Streams)
    (hadequate : Adequate (observedOf (developmentCases streams))) :
    DevelopmentObserved (observedOf (developmentCases streams)) where
  causes := by
    intro o ho
    obtain ⟨c, hc, rfl⟩ := List.mem_map.1 ho
    obtain ⟨strata, -, hcases⟩ := (developmentCases_dealt streams).strata
    obtain ⟨target, -, hdrawn⟩ := exists_of_forall₂ hcases c hc
    rw [CaseOf, if_pos rfl] at hdrawn
    exact hdrawn.causes
  alone := hadequate.alone

/-- What development leaves, if it is adequate. -/
def afterDevelopment (streams : Streams) : GenerationState where
  ordinal := 1 + (developmentCases streams).length
  merchantIndex := 0 + (planFor .development).merchants
  registry := some (buildRegistry (observedOf (developmentCases streams)))
  splits := [] ++ [⟨.development, streams.seed .development, merchantsAfter 0 .development,
    developmentCases streams⟩]

/-- **Development** is generated first, and refused unless it is adequate. -/
theorem generateSplit_development (streams : Streams) :
    generateSplit streams ⟨1, 0, none, []⟩ .development = (do
      assertRegistryAdequate (buildRegistry (observedOf (developmentCases streams))) SINGLE_CAUSES
      return afterDevelopment streams) := by
  unfold generateSplit
  dsimp only
  rw [if_pos rfl]
  simp only [pure_bind]
  rfl

/-- A later split is generated from the frozen registry. -/
theorem generateSplit_later (streams : Streams) {split : Split} (hsplit : split ≠ .development)
    (state : GenerationState) :
    generateSplit streams state split =
      .ok {
        ordinal := state.ordinal + (result (generateCases split state.registry state.ordinal
          (merchantsAfter state.merchantIndex split)) (streams.tape split)).length
        merchantIndex := state.merchantIndex + (planFor split).merchants
        registry := state.registry
        splits := state.splits ++ [⟨split, streams.seed split,
          merchantsAfter state.merchantIndex split,
          result (generateCases split state.registry state.ordinal
            (merchantsAfter state.merchantIndex split)) (streams.tape split)⟩] } := by
  unfold generateSplit
  dsimp only
  rw [if_neg hsplit]
  rfl

theorem length_of_dealt {split : Split} {ordinal : Nat} {merchants : List String}
    {P : NoveltyStratum → GeneratedCase → Prop} {cases : List GeneratedCase}
    (h : Dealt split ordinal merchants P cases) : cases.length = (planFor split).cases := by
  obtain ⟨strata, hperm, hcases⟩ := h.strata
  rw [← hcases.length_eq, hperm.length_eq, strata_length]

/-- One more split: its merchants and its payments go on where the others stopped. -/
theorem Generated.append {streams : Streams} {observed : List ObservedCase} {done : List Split}
    {state : GenerationState} (h : Generated streams observed done state) (split : Split)
    {cases : List GeneratedCase}
    (hdealt : Dealt split state.ordinal (merchantsAfter state.merchantIndex split)
      (CaseOf observed split) cases)
    (hdevelopment : split = .development → observedOf cases = observed) :
    Generated streams observed (done ++ [split]) {
      ordinal := state.ordinal + cases.length
      merchantIndex := state.merchantIndex + (planFor split).merchants
      registry := state.registry
      splits := state.splits ++ [⟨split, streams.seed split,
        merchantsAfter state.merchantIndex split, cases⟩] } where
  registry := h.registry
  splits := by rw [List.map_append, h.splits, List.map_singleton]
  seeds := by
    intro s hs
    rcases List.mem_append.1 hs with hs | hs
    · exact h.seeds s hs
    · rw [List.mem_singleton.1 hs]
  merchants := by
    rw [List.flatMap_append, h.merchants, List.range_add, List.map_append, List.map_map,
      List.flatMap_singleton]
    rfl
  ordinal := by
    rw [List.flatMap_append, List.flatMap_singleton, List.length_append]
    have := h.ordinal
    dsimp only
    omega
  payments := by
    rw [List.flatMap_append, List.flatMap_singleton, List.map_append, h.payments,
      List.length_append, List.range_add, List.map_append, List.map_map, hdealt.payments]
    congr 1
    refine List.map_congr_left fun i _ => ?_
    rw [h.ordinal, Function.comp_apply]
    congr 2
    omega
  rendered := by
    rw [List.flatMap_append, List.flatMap_singleton, List.length_append, List.range_add]
    refine List.rel_append h.rendered ?_
    rw [List.forall₂_map_left_iff]
    refine hdealt.rendered.imp fun i c hc => ?_
    obtain ⟨plan, hplan⟩ := hc
    have hordinal := h.ordinal
    have hsame : state.ordinal + i = (state.splits.flatMap (·.cases)).length + i + 1 := by omega
    rw [hsame] at hplan
    exact ⟨split, _, plan, hplan⟩
  law := by
    intro s hs
    rcases List.mem_append.1 hs with hs | hs
    · exact h.law s hs
    · rw [List.mem_singleton.1 hs]
      exact ⟨by simp [merchantsAfter], state.ordinal, hdealt⟩
  development := by
    intro s hs
    rcases List.mem_append.1 hs with hs | hs
    · exact h.development s hs
    · rw [List.mem_singleton.1 hs]
      exact hdevelopment

/-- **A later split** is generated and keeps the law of those before it. -/
theorem Generated.generateSplit {streams : Streams} {observed : List ObservedCase}
    (hobserved : DevelopmentObserved observed) {done : List Split} {state : GenerationState}
    (h : Generated streams observed done state) {split : Split} (hsplit : split ≠ .development) :
    ∃ state', generateSplit streams state split = .ok state' ∧
      Generated streams observed (done ++ [split]) state' := by
  refine ⟨_, generateSplit_later streams hsplit state,
    h.append split ?_ fun hdevelopment => absurd hdevelopment hsplit⟩
  rw [h.registry]
  refine generateCases_always state.ordinal (merchantsAfter state.merchantIndex split)
    (fun ordinal slug target => ?_) (streams.tape split)
  refine (drawUntilLanded_later hobserved hsplit ordinal slug target 24).imp fun c hc => ?_
  rw [CaseOf, if_neg hsplit]
  exact hc.1

/-- **The later splits**, one after the other. -/
theorem Generated.foldlM {streams : Streams} {observed : List ObservedCase}
    (hobserved : DevelopmentObserved observed) (splits : List Split) :
    ∀ {done : List Split} {state : GenerationState}, Generated streams observed done state →
      .development ∉ splits → ∃ state', splits.foldlM (Generator.generateSplit streams) state =
        .ok state' ∧ Generated streams observed (done ++ splits) state' := by
  induction splits with
  | nil =>
      intro done state h _
      exact ⟨state, rfl, by rwa [List.append_nil]⟩
  | cons split splits ih =>
      intro done state h hnone
      have hsplit : split ≠ .development := fun heq => hnone (heq ▸ List.mem_cons_self)
      obtain ⟨state', hstep, hstate'⟩ := h.generateSplit hobserved hsplit
      obtain ⟨final, hrun, hfinal⟩ := ih hstate' fun hmem => hnone (List.mem_cons_of_mem _ hmem)
      refine ⟨final, ?_, by rwa [List.append_assoc] at hfinal⟩
      rw [List.foldlM_cons, hstep]
      exact hrun

/-! ## The dataset -/

/-- A dataset, given development. -/
structure DatasetLaw (streams : Streams) (observed : List ObservedCase) (r : GenerationResult) :
    Prop where
  registry : r.registry = buildRegistry observed
  splits : r.splits.map (·.split) = ORDERED_SPLITS
  seeds : ∀ s ∈ r.splits, s.seed = streams.seed s.split
  merchants : ∃ n, r.splits.flatMap (·.merchants) =
    (List.range n).map fun i => merchantSlug (i + 1)
  payments : (r.splits.flatMap (·.cases)).map (·.blueprint.paymentId) =
    (List.range (r.splits.flatMap (·.cases)).length).map fun i => (refsFor (i + 1)).payment
  rendered : List.Forall₂ (fun i c => ∃ split slug plan, Rendered (i + 1) split slug plan c)
    (List.range (r.splits.flatMap (·.cases)).length) (r.splits.flatMap (·.cases))
  law : ∀ s ∈ r.splits, SplitLaw observed s
  development : ∀ s ∈ r.splits, s.split = .development → observedOf s.cases = observed

/-- **Inadequate development** is refused with the text that says what it lacks. -/
theorem generateFrom_inadequate {streams : Streams} {e : String}
    (h : assertRegistryAdequate (buildRegistry (observedOf (developmentCases streams)))
      SINGLE_CAUSES = .error e) : generateFrom streams = .error e := by
  unfold generateFrom ORDERED_SPLITS
  rw [List.foldlM_cons, generateSplit_development, h]
  rfl

/-- The splits after development. -/
def laterSplits : List Split := [.validation, .showcase, .primaryTest, .challenge]

/-- What the later splits come to is the dataset. -/
theorem generateFrom_eq {streams : Streams} {final : GenerationState} {registry : BuiltRegistry}
    (h : Adequate (observedOf (developmentCases streams)))
    (hlater : laterSplits.foldlM (generateSplit streams) (afterDevelopment streams) = .ok final)
    (hregistry : final.registry = some registry) :
    generateFrom streams = .ok ⟨final.splits, registry⟩ := by
  have hassert : assertRegistryAdequate (buildRegistry (observedOf (developmentCases streams)))
      SINGLE_CAUSES = pure () := (assertRegistryAdequate_iff _).2 h
  have hrun : ORDERED_SPLITS.foldlM (generateSplit streams) ⟨1, 0, none, []⟩ = pure final := by
    rw [ORDERED_SPLITS, List.foldlM_cons, generateSplit_development, hassert, pure_bind, pure_bind]
    exact hlater
  unfold generateFrom
  rw [hrun, pure_bind, hregistry]
  rfl

theorem later_generated {streams : Streams}
    (h : Adequate (observedOf (developmentCases streams))) :
    ∃ final, laterSplits.foldlM (generateSplit streams) (afterDevelopment streams) = .ok final ∧
      Generated streams (observedOf (developmentCases streams)) ORDERED_SPLITS final := by
  have hfirst : Generated streams (observedOf (developmentCases streams)) [.development]
      (afterDevelopment streams) :=
    (generated_empty streams _).append .development (developmentCases_dealt streams) fun _ => rfl
  exact hfirst.foldlM (developmentObserved streams h) laterSplits (by decide)

/-- **Adequate development** is followed by the later splits, which never fail. -/
theorem generateFrom_adequate {streams : Streams}
    (h : Adequate (observedOf (developmentCases streams))) :
    ∃ r, generateFrom streams = .ok r ∧
      DatasetLaw streams (observedOf (developmentCases streams)) r := by
  obtain ⟨final, hlater, hfinal⟩ := later_generated h
  refine ⟨_, generateFrom_eq h hlater hfinal.registry, ?_⟩
  generalize observedOf (developmentCases streams) = observed at hfinal ⊢
  exact ⟨rfl, hfinal.splits, hfinal.seeds, ⟨_, hfinal.merchants⟩, hfinal.payments,
    hfinal.rendered, hfinal.law, hfinal.development⟩

/-- Every dataset that comes out obeys the law. -/
theorem datasetLaw {streams : Streams} {r : GenerationResult} (h : generateFrom streams = .ok r) :
    DatasetLaw streams (observedOf (developmentCases streams)) r ∧
      Adequate (observedOf (developmentCases streams)) := by
  cases hassert : assertRegistryAdequate
      (buildRegistry (observedOf (developmentCases streams))) SINGLE_CAUSES with
  | error e =>
      rw [generateFrom_inadequate hassert] at h
      cases h
  | ok _ =>
      have hadequate := (assertRegistryAdequate_iff _).1 hassert
      obtain ⟨r', hr', hlaw⟩ := generateFrom_adequate hadequate
      rw [hr'] at h
      cases h
      exact ⟨hlaw, hadequate⟩

end SettlementOps.Generator
