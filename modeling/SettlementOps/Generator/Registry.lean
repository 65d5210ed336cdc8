import Mathlib.Data.Multiset.MapFold
import Mathlib.Data.String.Basic
import SettlementOps.Generator.Plans
import SettlementOps.Relational.Entries
import SettlementOps.Text.Joined

/-!
# The combination registry

The registry is built from the development split and frozen; every later case gets its novelty
by lookup.  It keeps causes and buckets as joined texts.

* `buildRegistry`, `classifyNovelty` — the registry, and the lookup.
* `causeTupleKey_eq_iff`, `bucketKey_inj` — the texts tell what they are written of apart.
* `Registers` — what the registry holds of the cases observed so far.
* `novelty_exact` — the novelty of a case is a matter of its causes and bucket alone.
-/

namespace SettlementOps.Generator

open Relational

/-- What the registry observes of a case. -/
structure ObservedCase where
  causes : List CauseCode
  bucket : ConfigurationBucket
  deriving DecidableEq, Repr

structure RegistryEntry where
  causeTuple : String
  bucket : ConfigurationBucket
  deriving DecidableEq, Repr

/-- The registry as it is built. -/
structure BuiltRegistry where
  /-- Cause tuples that appeared in development. -/
  tuples : Distinct String
  /-- Individual causes that appeared as single-cause cases. -/
  singles : Distinct String
  /-- The configuration buckets seen with each tuple. -/
  buckets : Entries String (Distinct String)
  entries : List RegistryEntry

def BuiltRegistry.empty : BuiltRegistry := ⟨.empty id, .empty id, .empty Prod.fst, []⟩

def BuiltRegistry.observe (registry : BuiltRegistry) (item : ObservedCase) : BuiltRegistry :=
  let tuple := causeTupleKey item.causes
  let key := bucketKey item.bucket
  { tuples := registry.tuples.add tuple
    singles :=
      match item.causes with
      | [cause] => registry.singles.add cause.code
      | _ => registry.singles
    buckets := registry.buckets.alter tuple fun existing => (existing.getD (.empty id)).add key
    entries := registry.entries ++ [⟨tuple, item.bucket⟩] }

def buildRegistry (observed : List ObservedCase) : BuiltRegistry :=
  observed.foldl BuiltRegistry.observe .empty

structure NoveltyFlags where
  adversarial : Bool
  ambiguous : Bool
  deriving DecidableEq, Repr

/-- Applied strictly in order. -/
def classifyNovelty (registry : BuiltRegistry) (causes : List CauseCode)
    (bucket : ConfigurationBucket) (flags : NoveltyFlags) : NoveltyStratum :=
  if flags.adversarial then .adversarial
  else if flags.ambiguous then .ambiguous
  else
    let tuple := causeTupleKey causes
    let knownTuple := decide (tuple ∈ registry.tuples.rows)
    if causes.length ≥ 3 && !knownTuple then .compoundUnseen
    else if !knownTuple then .novelCombination
    else
      match registry.buckets.get tuple with
      | none => .novelConfiguration
      | some seenBuckets =>
          if bucketKey bucket ∈ seenBuckets.rows then .seen else .novelConfiguration

/-! ## The keys -/

theorem code_le_antisymm {a b : CauseCode} (hab : a.code ≤ b.code) (hba : b.code ≤ a.code) :
    a = b := by
  have hcode := le_antisymm hab hba
  revert hcode
  cases a <;> cases b <;> decide

theorem code_inj {a b : CauseCode} (h : a.code = b.code) : a = b :=
  code_le_antisymm h.le h.ge

/-- Sorting forgets the order and nothing else. -/
theorem sortedCauses_eq_iff {causes causes' : List CauseCode} :
    sortedCauses causes = sortedCauses causes' ↔ causes.Perm causes' := by
  constructor
  · intro h
    have hperm := List.perm_insertionSort (fun a b : CauseCode => a.code ≤ b.code) causes
    have hperm' := List.perm_insertionSort (fun a b : CauseCode => a.code ≤ b.code) causes'
    rw [sortedCauses, sortedCauses] at h
    rw [h] at hperm
    exact hperm.symm.trans hperm'
  · intro h
    refine List.Perm.eq_of_pairwise (fun a b _ _ => code_le_antisymm)
      (List.pairwise_insertionSort _ _) (List.pairwise_insertionSort _ _) ?_
    exact ((List.perm_insertionSort _ _).trans h).trans (List.perm_insertionSort _ _).symm

/-- The text of a tuple of sorted causes. -/
def tupleText (causes : List CauseCode) : String := ",".intercalate (causes.map (·.code))

theorem tupleText_injective : Function.Injective tupleText := by
  intro causes causes' h
  have hcodes : ∀ cs : List CauseCode, ∀ text ∈ cs.map (·.code),
      text ≠ "" ∧ ',' ∉ text.toList := by
    intro cs text htext
    obtain ⟨cause, -, rfl⟩ := List.mem_map.1 htext
    cases cause <;> decide
  have hjoined := Text.joined_inj (hcodes causes) (hcodes causes') h
  exact List.map_injective_iff.2 (fun _ _ => code_inj) hjoined

/-- **Two tuples have one key exactly when they are one multiset of causes.** -/
theorem causeTupleKey_eq_iff {causes causes' : List CauseCode} :
    causeTupleKey causes = causeTupleKey causes' ↔
      (causes : Multiset CauseCode) = causes' := by
  rw [Multiset.coe_eq_coe, ← sortedCauses_eq_iff]
  constructor
  · exact fun h => tupleText_injective h
  · intro h
    rw [causeTupleKey, causeTupleKey, h]

/-- The texts a bucket's key joins. -/
def ConfigurationBucket.codes (b : ConfigurationBucket) : List String :=
  [b.amountBand.code, b.timingBand.code, b.lineCountBand.code, b.paymentMethod.code]

theorem bucketKey_eq (b : ConfigurationBucket) :
    bucketKey b = (String.singleton '|').intercalate b.codes := by
  have hbar : String.singleton '|' = "|" := rfl
  simp only [bucketKey, ConfigurationBucket.codes, hbar, String.intercalate_cons_cons,
    String.intercalate_singleton, String.append_assoc]

theorem amountBand_code_inj {a b : AmountBand} (h : a.code = b.code) : a = b := by
  revert h
  cases a <;> cases b <;> decide

theorem timingBand_code_inj {a b : TimingBand} (h : a.code = b.code) : a = b := by
  revert h
  cases a <;> cases b <;> decide

theorem lineCountBand_code_inj {a b : LineCountBand} (h : a.code = b.code) : a = b := by
  revert h
  cases a <;> cases b <;> decide

theorem paymentMethod_code_inj {a b : PaymentMethod} (h : a.code = b.code) : a = b := by
  revert h
  cases a <;> cases b <;> decide

/-- **Two buckets have one key only if they are one bucket.** -/
theorem bucketKey_inj {b b' : ConfigurationBucket} (h : bucketKey b = bucketKey b') : b = b' := by
  have hcodes : ∀ b : ConfigurationBucket, ∀ text ∈ b.codes, text ≠ "" ∧ '|' ∉ text.toList := by
    rintro ⟨amountBand, timingBand, lineCountBand, paymentMethod⟩ text htext
    simp only [ConfigurationBucket.codes, List.mem_cons, List.not_mem_nil, or_false] at htext
    rcases htext with rfl | rfl | rfl | rfl
    · cases amountBand <;> decide
    · cases timingBand <;> decide
    · cases lineCountBand <;> decide
    · cases paymentMethod <;> decide
  rw [bucketKey_eq, bucketKey_eq] at h
  have hjoined := Text.joined_inj (hcodes b) (hcodes b') h
  simp only [ConfigurationBucket.codes, List.cons.injEq, and_true] at hjoined
  obtain ⟨hamount, htiming, hlines, hmethod⟩ := hjoined
  cases b
  cases b'
  rw [ConfigurationBucket.mk.injEq]
  exact ⟨amountBand_code_inj hamount, timingBand_code_inj htiming, lineCountBand_code_inj hlines,
    paymentMethod_code_inj hmethod⟩

/-! ## What the registry holds -/

/-- The cause of a single-cause case. -/
def ObservedCase.single (c : ObservedCase) : Option CauseCode :=
  match c.causes with
  | [cause] => some cause
  | _ => none

/-- The registry holds what was observed so far. -/
structure Registers (observed : List ObservedCase) (registry : BuiltRegistry) : Prop where
  tuples : registry.tuples.rows = (observed.map fun c => causeTupleKey c.causes).eraseDups
  singles : registry.singles.rows = ((observed.filterMap (·.single)).map (·.code)).eraseDups
  buckets : ∀ tuple key, (∃ seen ∈ registry.buckets.get tuple, key ∈ seen.rows) ↔
    ∃ c ∈ observed, causeTupleKey c.causes = tuple ∧ bucketKey c.bucket = key
  entries : registry.entries = observed.map fun c => ⟨causeTupleKey c.causes, c.bucket⟩

theorem registers_empty : Registers [] .empty where
  tuples := rfl
  singles := rfl
  buckets tuple key := by
    simp [BuiltRegistry.empty, Entries.get_empty]
  entries := rfl

/-- **Observing a case** registers it. -/
theorem Registers.observe {observed : List ObservedCase} {registry : BuiltRegistry}
    (h : Registers observed registry) (item : ObservedCase) :
    Registers (observed ++ [item]) (registry.observe item) where
  tuples := by
    rw [List.map_append, List.map_singleton]
    exact Distinct.rows_add_eraseDups h.tuples _
  singles := by
    rw [List.filterMap_append, List.map_append]
    unfold BuiltRegistry.observe
    dsimp only
    rcases hcauses : item.causes with _ | ⟨cause, _ | ⟨second, rest⟩⟩
    · simp [ObservedCase.single, hcauses, h.singles]
    · have hsingle : ([item].filterMap (·.single)).map (·.code) = [cause.code] := by
        simp [ObservedCase.single, hcauses]
      rw [hsingle]
      exact Distinct.rows_add_eraseDups h.singles _
    · simp [ObservedCase.single, hcauses, h.singles]
  buckets tuple key := by
    have hseen : key ∈ ((registry.buckets.get tuple).getD (.empty id)).rows ↔
        ∃ seen ∈ registry.buckets.get tuple, key ∈ seen.rows := by
      cases registry.buckets.get tuple <;> simp [Keyed.empty]
    have hone : ∀ P : ObservedCase → Prop, (∃ c ∈ observed ++ [item], P c) ↔
        (∃ c ∈ observed, P c) ∨ P item := by
      intro P
      simp only [List.mem_append, List.mem_singleton, or_and_right, exists_or, exists_eq_left]
    rw [hone, ← h.buckets]
    unfold BuiltRegistry.observe
    dsimp only
    rw [Entries.get_alter]
    by_cases htuple : causeTupleKey item.causes = tuple
    · subst htuple
      simp only [if_true, Option.mem_def, Option.some.injEq, exists_eq_left', Distinct.mem_add,
        true_and]
      exact or_congr_left hseen
    · simp only [htuple, if_false, false_and, or_false]
  entries := by
    rw [List.map_append, List.map_singleton, ← h.entries]
    rfl

/-- **The registry of a list of cases** holds what was observed in all of them. -/
theorem registers_buildRegistry (observed : List ObservedCase) :
    Registers observed (buildRegistry observed) := by
  induction observed using List.reverseRecOn with
  | nil => exact registers_empty
  | append_singleton observed item ih =>
      rw [buildRegistry, List.foldl_append]
      exact ih.observe item

/-! ## The plans' view of the registry -/

/-- What the plans read of the registry of these cases. -/
def planRegistry (observed : List ObservedCase) : CombinationRegistry where
  tuples := (observed.map fun c => sortedCauses c.causes).eraseDups
  singles := (observed.filterMap (·.single)).eraseDups

/-- The plans read the registry as it is built: its texts, in its order. -/
theorem buildRegistry_plans (observed : List ObservedCase) :
    (buildRegistry observed).tuples.rows = (planRegistry observed).tuples.map tupleText ∧
      (buildRegistry observed).singles.rows = (planRegistry observed).singles.map (·.code) := by
  have h := registers_buildRegistry observed
  constructor
  · rw [h.tuples]
    dsimp only [planRegistry]
    rw [← eraseDups_map tupleText_injective, List.map_map]
    rfl
  · rw [h.singles]
    exact eraseDups_map (fun _ _ => code_inj) _

/-! ## Novelty -/

/-- A case as a multiset of causes and a bucket. -/
def ObservedCase.configuration (c : ObservedCase) : Multiset CauseCode × ConfigurationBucket :=
  (c.causes, c.bucket)

/-- The novelty of a case, as a matter of what was observed and not of how it is written. -/
def noveltyOf (observed : Multiset (Multiset CauseCode × ConfigurationBucket))
    (causes : Multiset CauseCode) (bucket : ConfigurationBucket) : NoveltyStratum :=
  if (causes, bucket) ∈ observed then .seen
  else if causes ∈ observed.map Prod.fst then .novelConfiguration
  else if 3 ≤ Multiset.card causes then .compoundUnseen
  else .novelCombination

/-- What each stratum means. -/
theorem noveltyOf_iff (observed : Multiset (Multiset CauseCode × ConfigurationBucket))
    (causes : Multiset CauseCode) (bucket : ConfigurationBucket) :
    (noveltyOf observed causes bucket = .seen ↔ (causes, bucket) ∈ observed) ∧
    (noveltyOf observed causes bucket = .novelConfiguration ↔
      causes ∈ observed.map Prod.fst ∧ (causes, bucket) ∉ observed) ∧
    (noveltyOf observed causes bucket = .compoundUnseen ↔
      causes ∉ observed.map Prod.fst ∧ 3 ≤ Multiset.card causes) ∧
    (noveltyOf observed causes bucket = .novelCombination ↔
      causes ∉ observed.map Prod.fst ∧ Multiset.card causes < 3) := by
  unfold noveltyOf
  by_cases hsame : (causes, bucket) ∈ observed
  · have htuple : causes ∈ observed.map Prod.fst := Multiset.mem_map_of_mem Prod.fst hsame
    simp [hsame, htuple]
  · rw [if_neg hsame]
    by_cases htuple : causes ∈ observed.map Prod.fst
    · rw [if_pos htuple]
      simp only [hsame, htuple, reduceCtorEq, not_true_eq_false, not_false_eq_true, and_self,
        false_and]
    · rw [if_neg htuple]
      by_cases hthree : 3 ≤ Multiset.card causes
      · simp [hsame, htuple, hthree]
      · simp [hsame, htuple, hthree, Nat.lt_of_not_le hthree]

section

variable {observed : List ObservedCase} {causes : List CauseCode} {bucket : ConfigurationBucket}

theorem mem_configurations_iff :
    ((causes : Multiset CauseCode), bucket) ∈
        (observed.map ObservedCase.configuration : Multiset _) ↔
      ∃ c ∈ observed, (c.causes : Multiset CauseCode) = causes ∧ c.bucket = bucket := by
  simp only [Multiset.mem_coe, List.mem_map, ObservedCase.configuration, Prod.mk.injEq]

theorem mem_fst_configurations_iff :
    (causes : Multiset CauseCode) ∈
        (observed.map ObservedCase.configuration :
          Multiset (Multiset CauseCode × ConfigurationBucket)).map Prod.fst ↔
      ∃ c ∈ observed, (c.causes : Multiset CauseCode) = causes := by
  simp only [Multiset.map_coe, Multiset.mem_coe, List.map_map, List.mem_map, Function.comp_apply,
    ObservedCase.configuration]

/-- **The lookup refines the novelty of the case**: no key is mistaken for another. -/
theorem classifyNovelty_eq (observed : List ObservedCase) (causes : List CauseCode)
    (bucket : ConfigurationBucket) :
    classifyNovelty (buildRegistry observed) causes bucket ⟨false, false⟩ =
      noveltyOf (observed.map ObservedCase.configuration : Multiset _) causes bucket := by
  have h := registers_buildRegistry observed
  have hknown : causeTupleKey causes ∈ (buildRegistry observed).tuples.rows ↔
      ∃ c ∈ observed, (c.causes : Multiset CauseCode) = causes := by
    rw [h.tuples, List.mem_eraseDups, List.mem_map]
    simp only [causeTupleKey_eq_iff]
  have hbucket : (∃ seen ∈ (buildRegistry observed).buckets.get (causeTupleKey causes),
      bucketKey bucket ∈ seen.rows) ↔
        ∃ c ∈ observed, (c.causes : Multiset CauseCode) = causes ∧ c.bucket = bucket := by
    rw [h.buckets]
    simp only [causeTupleKey_eq_iff]
    constructor
    · rintro ⟨c, hc, hcauses, hkey⟩
      exact ⟨c, hc, hcauses, bucketKey_inj hkey⟩
    · rintro ⟨c, hc, hcauses, rfl⟩
      exact ⟨c, hc, hcauses, rfl⟩
  unfold classifyNovelty noveltyOf
  simp only [Bool.false_eq_true, if_false]
  by_cases htuple : ∃ c ∈ observed, (c.causes : Multiset CauseCode) = causes
  · have hin := hknown.2 htuple
    by_cases hsame :
        ∃ c ∈ observed, (c.causes : Multiset CauseCode) = causes ∧ c.bucket = bucket
    · obtain ⟨seen, hget, hkey⟩ := hbucket.2 hsame
      rw [if_pos (mem_configurations_iff.2 hsame)]
      simp [hin, Option.mem_def.1 hget, hkey]
    · rw [if_neg (mt mem_configurations_iff.1 hsame), if_pos (mem_fst_configurations_iff.2 htuple)]
      cases hget : (buildRegistry observed).buckets.get (causeTupleKey causes) with
      | none => simp [hin]
      | some seen =>
          have hkey : bucketKey bucket ∉ seen.rows := fun hkey =>
            hsame (hbucket.1 ⟨seen, hget, hkey⟩)
          simp [hin, hkey]
  · have hsame :
        ¬ ∃ c ∈ observed, (c.causes : Multiset CauseCode) = causes ∧ c.bucket = bucket := by
      rintro ⟨c, hc, hcauses, -⟩
      exact htuple ⟨c, hc, hcauses⟩
    rw [if_neg (mt mem_configurations_iff.1 hsame),
      if_neg (mt mem_fst_configurations_iff.1 htuple), Multiset.coe_card]
    simp [mt hknown.1 htuple]

end

/-- The novelty of a case that is neither adversarial nor ambiguous. -/
def plainNovelty (development : List ObservedCase) (causes : List CauseCode)
    (bucket : ConfigurationBucket) : NoveltyStratum :=
  classifyNovelty (buildRegistry development) causes bucket
    { adversarial := false, ambiguous := false }

/-- **The novelty of a case is exact.**  It is seen if a development case has its causes, as a
multiset, and its bucket; a novel configuration if its causes occur in development but not with
its bucket; and else compound from three causes on.  No order matters. -/
theorem novelty_exact (development : List ObservedCase) (causes : List CauseCode)
    (bucket : ConfigurationBucket) :
    (plainNovelty development causes bucket = .seen ↔
      ∃ c ∈ development, (c.causes : Multiset CauseCode) = causes ∧ c.bucket = bucket) ∧
    (plainNovelty development causes bucket = .novelConfiguration ↔
      (∃ c ∈ development, (c.causes : Multiset CauseCode) = causes) ∧
        ∀ c ∈ development, (c.causes : Multiset CauseCode) = causes → c.bucket ≠ bucket) ∧
    (plainNovelty development causes bucket = .compoundUnseen ↔
      (∀ c ∈ development, (c.causes : Multiset CauseCode) ≠ causes) ∧ 3 ≤ causes.length) ∧
    (plainNovelty development causes bucket = .novelCombination ↔
      (∀ c ∈ development, (c.causes : Multiset CauseCode) ≠ causes) ∧ causes.length < 3) ∧
    ∀ (development' : List ObservedCase) (causes' : List CauseCode),
      (development'.map ObservedCase.configuration).Perm
        (development.map ObservedCase.configuration) → causes'.Perm causes →
      plainNovelty development' causes' bucket = plainNovelty development causes bucket := by
  have horder : ∀ (development' : List ObservedCase) (causes' : List CauseCode),
      (development'.map ObservedCase.configuration).Perm
        (development.map ObservedCase.configuration) → causes'.Perm causes →
      plainNovelty development' causes' bucket = plainNovelty development causes bucket := by
    intro development' causes' hdevelopment hcauses
    rw [plainNovelty, plainNovelty, classifyNovelty_eq, classifyNovelty_eq,
      Multiset.coe_eq_coe.2 hdevelopment, Multiset.coe_eq_coe.2 hcauses]
  obtain ⟨hseen, hconfiguration, hcompound, hcombination⟩ := noveltyOf_iff
    (development.map ObservedCase.configuration : Multiset _) causes bucket
  rw [mem_fst_configurations_iff] at hconfiguration hcompound hcombination
  rw [mem_configurations_iff] at hseen hconfiguration
  rw [← classifyNovelty_eq] at hseen hconfiguration hcompound hcombination
  push Not at hconfiguration hcompound hcombination
  exact ⟨hseen, hconfiguration, hcompound, hcombination, horder⟩

def sampleBucket : ConfigurationBucket where
  amountBand := .upTo10k
  timingBand := .withinWindow
  lineCountBand := .one
  paymentMethod := .card

/-- A pair of causes and a single one. -/
def sampleDevelopment : List ObservedCase :=
  [⟨[.mdrFee, .timingLag], sampleBucket⟩, ⟨[.roundingDrift], sampleBucket⟩]

theorem novelty_exact_reordered :
    plainNovelty sampleDevelopment [.timingLag, .mdrFee] sampleBucket = .seen ∧
      plainNovelty sampleDevelopment.reverse [.mdrFee, .timingLag] sampleBucket = .seen := by
  obtain ⟨hseen, -, -, -, horder⟩ :=
    novelty_exact sampleDevelopment [.timingLag, .mdrFee] sampleBucket
  have hpair : plainNovelty sampleDevelopment [.timingLag, .mdrFee] sampleBucket = .seen :=
    hseen.2 ⟨⟨[.mdrFee, .timingLag], sampleBucket⟩, List.mem_cons_self,
      Multiset.coe_eq_coe.2 (List.Perm.swap _ _ _), rfl⟩
  refine ⟨hpair, ?_⟩
  rw [horder sampleDevelopment.reverse [.mdrFee, .timingLag]
    ((List.reverse_perm sampleDevelopment).map _) (List.Perm.swap _ _ _)]
  exact hpair

end SettlementOps.Generator
