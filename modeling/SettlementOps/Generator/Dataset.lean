import SettlementOps.Agent.Gateway
import SettlementOps.Generator.Registry
import SettlementOps.Runs.RunReconciliation

/-!
# The dataset generator

Splits are produced development first, because `SEEN` is defined by what development contains.
The registry is then frozen and every later split is labelled by lookup.

* `SPLIT_PLAN`, `planFor` — how many cases and merchants a split has, and of which novelty.
* `drawUntilLanded`, `generateCases` — the cases of a split.
* `generateSplit`, `generateDataset` — the five splits and the registry.
* `allocationReport` — what must hold before the dataset is usable.
-/

namespace SettlementOps.Generator

open Random Relational

/-! ## The frozen allocation -/

def Split.code : Split → String
  | .development => "development"
  | .validation => "validation"
  | .showcase => "showcase"
  | .primaryTest => "primary_test"
  | .challenge => "challenge"

def NOVELTY_STRATA : List NoveltyStratum :=
  [.seen, .novelCombination, .novelConfiguration, .compoundUnseen, .ambiguous, .adversarial]

structure SplitPlan where
  split : Split
  /-- Residual cases the split must contain. -/
  cases : Nat
  /-- Merchants are disjoint across splits. -/
  merchants : Nat
  novelty : NoveltyStratum → Nat

/-- 410 residual cases over 41 disjoint merchants. -/
def SPLIT_PLAN : List SplitPlan :=
  [ { split := .development
      cases := 120
      merchants := 12
      novelty := fun
        | .seen => 120
        | .novelCombination => 0
        | .novelConfiguration => 0
        | .compoundUnseen => 0
        | .ambiguous => 0
        | .adversarial => 0 },
    { split := .validation
      cases := 60
      merchants := 6
      novelty := fun
        | .seen => 42
        | .novelCombination => 12
        | .novelConfiguration => 6
        | .compoundUnseen => 0
        | .ambiguous => 0
        | .adversarial => 0 },
    { split := .showcase
      cases := 50
      merchants := 5
      novelty := fun
        | .seen => 20
        | .novelCombination => 12
        | .novelConfiguration => 6
        | .compoundUnseen => 6
        | .ambiguous => 4
        | .adversarial => 2 },
    { split := .primaryTest
      cases := 120
      merchants := 12
      novelty := fun
        | .seen => 48
        | .novelCombination => 30
        | .novelConfiguration => 12
        | .compoundUnseen => 12
        | .ambiguous => 12
        | .adversarial => 6 },
    { split := .challenge
      cases := 60
      merchants := 6
      -- no SEEN cases at all: that is the split's purpose
      novelty := fun
        | .seen => 0
        | .novelCombination => 21
        | .novelConfiguration => 6
        | .compoundUnseen => 21
        | .ambiguous => 9
        | .adversarial => 3 } ]

/-- Compound-cause floor inside SEEN. -/
def MIN_COMPOUND_CASES_IN_SEEN : Nat := 8

theorem planFor_isSome (split : Split) :
    (SPLIT_PLAN.find? fun p => p.split = split).isSome = true := by
  cases split <;> decide

/-- Every split has a plan, so the source never throws here. -/
def planFor (split : Split) : SplitPlan :=
  (SPLIT_PLAN.find? fun p => p.split = split).get (planFor_isSome split)

/-! ## The cases of a split -/

structure GeneratedCase where
  blueprint : CaseBlueprint
  noveltyStratum : NoveltyStratum
  visibleRecords : List FinancialRecordDto
  deriving DecidableEq, Repr

structure GeneratedSplit where
  split : Split
  seed : UInt32
  merchants : List String
  cases : List GeneratedCase
  deriving DecidableEq, Repr

/-- Per-split seed derived from the root. -/
def deriveSeed (rootSeed : UInt32) (label : String) : UInt32 :=
  label.toList.foldl (fun hash c => (hash ^^^ c.val) * 0x01000193 + 0x9e3779b9) rootSeed

def merchantSlug (index : Nat) : String := "merchant-" ++ padStart 3 (toString index)

/-- The strata of a plan in a flat list, before they are shuffled. -/
def SplitPlan.strata (plan : SplitPlan) : List NoveltyStratum :=
  NOVELTY_STRATA.flatMap fun stratum => List.replicate (plan.novelty stratum) stratum

def strataFor (split : Split) : Rng (List NoveltyStratum) := Rng.shuffle (planFor split).strata

/-- The texts of the registry as the plans read them: `tuple.split(',')`, and the causes with
their codes. -/
def BuiltRegistry.planView (registry : BuiltRegistry) : CombinationRegistry where
  tuples := registry.tuples.rows.map fun tuple =>
    (tuple.toList.splitOn ',').filterMap fun text => isCauseCode (String.ofList text)
  singles := registry.singles.rows.filterMap isCauseCode

/-- The label a rendered case receives. -/
def labelFor (split : Split) (registry : Option BuiltRegistry) (target : NoveltyStratum)
    (plan : CasePlan) (rendered : RenderedCase) : NoveltyStratum :=
  if split = .development then .seen
  else
    match registry with
    | none => target
    | some known =>
        classifyNovelty known rendered.blueprint.trueCauses rendered.bucket
          ⟨plan.adversarial, plan.ambiguous⟩

/-- One attempt at a case. -/
def drawAttempt (split : Split) (registry : Option BuiltRegistry) (ordinal : Nat) (slug : String)
    (target : NoveltyStratum) : Rng GeneratedCase := do
  let plan ← planForStratum target (registry.map BuiltRegistry.planView)
  let rendered ← renderCase ordinal split slug plan
  return ⟨rendered.blueprint, labelFor split registry target plan rendered,
    rendered.visibleRecords⟩

/-- Draw until the case lands in the intended stratum, with so many more attempts after this
one.  Retrying changes which case is kept, never what a case is called. -/
def drawUntilLanded (split : Split) (registry : Option BuiltRegistry) (ordinal : Nat)
    (slug : String) (target : NoveltyStratum) : Nat → Rng GeneratedCase
  | 0 => drawAttempt split registry ordinal slug target
  | more + 1 => do
      let drawn ← drawAttempt split registry ordinal slug target
      if drawn.noveltyStratum = target then return drawn
      else drawUntilLanded split registry ordinal slug target more

/-- The merchant of the case at an index of the split. -/
def merchantAt (merchants : List String) (i : Nat) : String :=
  merchants[i % merchants.length]?.getD (merchants.head?.getD "merchant-001")

/-- The cases of a split, numbered from `ordinal` on. -/
def generateCases (split : Split) (registry : Option BuiltRegistry) (ordinal : Nat)
    (merchants : List String) : Rng (List GeneratedCase) := do
  let strata ← strataFor split
  strata.zipIdx.mapM fun (target, i) =>
    drawUntilLanded split registry (ordinal + i) (merchantAt merchants i) target 24

/-! ## The dataset -/

/-- The randomness of a dataset: the seed of each split and the stream of words it starts. -/
structure Streams where
  seed : Split → UInt32
  tape : Split → Tape UInt32

/-- The whole dataset is one number. -/
def rootStreams (rootSeed : UInt32) : Streams where
  seed split := deriveSeed rootSeed split.code
  tape split := createRng (deriveSeed rootSeed split.code)

structure GenerationResult where
  splits : List GeneratedSplit
  registry : BuiltRegistry

def observedOf (cases : List GeneratedCase) : List ObservedCase :=
  cases.map fun c => ⟨c.blueprint.trueCauses, c.blueprint.bucket⟩

/-- Every cause seen alone, and some combination: else a novel combination would measure unseen
causes. -/
def assertRegistryAdequate (registry : BuiltRegistry) (requiredSingles : List CauseCode) :
    Except String Unit :=
  let missing := requiredSingles.filter fun cause => cause.code ∉ registry.singles.rows
  if missing.length > 0 then
    .error ("registry inadequate: " ++ ", ".intercalate (missing.map (·.code)) ++
      " never appeared as a single-cause case in development, so NOVEL_COMBINATION would be " ++
      "measuring unseen causes instead")
  else
    let pairs := registry.tuples.rows.filter fun t => (t.toList.splitOn ',').length = 2
    if pairs.length = 0 then
      .error ("registry inadequate: development contains no multi-cause tuple, so no SEEN " ++
        "case can carry a compound combination and the compound/novelty confound cannot be broken")
    else .ok ()

/-- What the loop over the splits carries. -/
structure GenerationState where
  ordinal : Nat
  merchantIndex : Nat
  registry : Option BuiltRegistry
  splits : List GeneratedSplit

/-- One split. -/
def generateSplit (streams : Streams) (state : GenerationState) (split : Split) :
    Except String GenerationState := do
  let plan := planFor split
  let merchants :=
    (List.range plan.merchants).map fun i => merchantSlug (state.merchantIndex + i + 1)
  let cases := result (generateCases split state.registry state.ordinal merchants)
    (streams.tape split)
  let registry ←
    if split = .development then do
      let registry := buildRegistry (observedOf cases)
      assertRegistryAdequate registry SINGLE_CAUSES
      pure (some registry)
    else pure state.registry
  return {
    ordinal := state.ordinal + cases.length
    merchantIndex := state.merchantIndex + plan.merchants
    registry
    splits := state.splits ++ [⟨split, streams.seed split, merchants, cases⟩] }

/-- Development first. -/
def ORDERED_SPLITS : List Split := [.development, .validation, .showcase, .primaryTest, .challenge]

def generateFrom (streams : Streams) : Except String GenerationResult := do
  let final ← ORDERED_SPLITS.foldlM (generateSplit streams) ⟨1, 0, none, []⟩
  match final.registry with
  | none => .error "registry was never built"
  | some registry => return ⟨final.splits, registry⟩

def GENERATOR_ROOT_SEED : UInt32 := 20260831

def generateDataset (rootSeed : UInt32 := GENERATOR_ROOT_SEED) : Except String GenerationResult :=
  generateFrom (rootStreams rootSeed)

/-! ## Allocation checks -/

structure AllocationReport where
  warnings : List String
  compoundInSeen : Nat
  deriving DecidableEq, Repr

/-- The warning about one plan, if any. -/
def planWarning (result : GenerationResult) (plan : SplitPlan) : List String :=
  match result.splits.find? fun s => s.split = plan.split with
  | none => ["split " ++ plan.split.code ++ " was not generated"]
  | some generated =>
      if generated.cases.length ≠ plan.cases then
        ["split " ++ plan.split.code ++ ": generated " ++ toString generated.cases.length ++
          " cases, planned " ++ toString plan.cases]
      else []

/-- Deviations are reported, never silently absorbed. -/
def allocationReport (result : GenerationResult) : AllocationReport :=
  let compoundInSeen :=
    match result.splits.find? fun s => s.split = .primaryTest with
    | none => 0
    | some primary => (primary.cases.filter fun c =>
        c.noveltyStratum = .seen ∧ c.blueprint.trueCauses.length > 1).length
  let floor :=
    if compoundInSeen < MIN_COMPOUND_CASES_IN_SEEN then
      ["compound-in-SEEN floor not met: " ++ toString compoundInSeen ++ " < " ++
        toString MIN_COMPOUND_CASES_IN_SEEN ++ "; the within-class comparison that separates " ++
        "novelty from difficulty is not possible"]
    else []
  let challenge :=
    match result.splits.find? fun s => s.split = .challenge with
    | none => []
    | some challenge =>
        let seen := (challenge.cases.filter fun c => c.noveltyStratum = .seen).length
        if seen > 0 then
          ["challenge split contains " ++ toString seen ++ " SEEN cases; it must contain none"]
        else []
  { warnings := floor ++ SPLIT_PLAN.flatMap (planWarning result) ++ challenge
    compoundInSeen }

end SettlementOps.Generator
