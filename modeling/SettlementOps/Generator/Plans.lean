import SettlementOps.Generator.CaseBuilder

/-!
# The plans of the dataset

What each novelty stratum requires of the selection of causes.

* `planForStratum` — the plan drawn for a stratum.
-/

namespace SettlementOps.Generator

open Random

inductive NoveltyStratum
  | seen
  | novelCombination
  | novelConfiguration
  | compoundUnseen
  | ambiguous
  | adversarial
  deriving DecidableEq, Repr

/-- What the plans read of the registry.  A tuple is kept as its sorted causes: its text joins
their codes, none of which has a comma. -/
structure CombinationRegistry where
  /-- Cause tuples that appeared in development. -/
  tuples : List (List CauseCode)
  /-- Individual causes that appeared as single-cause cases. -/
  singles : List CauseCode
  deriving DecidableEq, Repr

/-- Only four of the ten possible pairings appear in development. -/
def DEVELOPMENT_PAIRS : List (List CauseCode) :=
  [ [.mdrFee, .timingLag],
    [.mdrFee, .roundingDrift],
    [.refundNetting, .timingLag],
    [.roundingDrift, .utrSplit] ]

def SINGLE_CAUSES : List CauseCode :=
  [.mdrFee, .utrSplit, .refundNetting, .timingLag, .roundingDrift]

def planOf (causes : List CauseCode) : CasePlan := ⟨causes, false, false⟩

/-- Three or more interacting causes, strictly more than development ever showed. -/
def compoundPlan (registry : Option CombinationRegistry) : Nat → Rng CasePlan
  | 0 => do
      let causes ← Rng.shuffle SINGLE_CAUSES
      return planOf (sortedCauses (causes.take 4))
  | attempts + 1 => do
      let causes ← Rng.shuffle SINGLE_CAUSES
      let triple := sortedCauses (causes.take 3)
      match registry with
      | none => return planOf triple
      | some known =>
          if triple ∉ known.tuples then return planOf triple
          else compoundPlan registry attempts

/-- A pairing of causes development knows individually but never put together. -/
def combinationPlan (registry : Option CombinationRegistry) : Nat → Rng CasePlan
  | 0 => do
      let cause ← Rng.pick SINGLE_CAUSES (by decide)
      return planOf [cause]
  | attempts + 1 => do
      let causes ← Rng.shuffle SINGLE_CAUSES
      let pair := sortedCauses (causes.take 2)
      match registry with
      | none => return planOf pair
      | some known =>
          if (∀ cause ∈ pair, cause ∈ known.singles) ∧ pair ∉ known.tuples then return planOf pair
          else combinationPlan registry attempts

/-- Development: singles, plus a minority drawn from the four fixed pairings. -/
def developmentPlan : Rng CasePlan := do
  if ← Rng.bool quarter then
    let pair ← Rng.pick DEVELOPMENT_PAIRS (by decide)
    return planOf (sortedCauses pair)
  else
    let cause ← Rng.pick SINGLE_CAUSES (by decide)
    return planOf [cause]

/-- A tuple the registry knows, so that the only question left is the bucket. -/
def seenPlan : Option CombinationRegistry → Rng CasePlan
  | none => developmentPlan
  | some known =>
      if h : known.tuples = [] then developmentPlan
      else do
        let tuple ← Rng.pick known.tuples h
        return planOf (sortedCauses tuple)

def planForStratum (stratum : NoveltyStratum) (registry : Option CombinationRegistry) :
    Rng CasePlan :=
  match stratum with
  | .adversarial => return ⟨[.ambiguous], true, false⟩
  | .ambiguous => return ⟨[.ambiguous], false, true⟩
  | .compoundUnseen => compoundPlan registry 40
  | .novelCombination => combinationPlan registry 60
  | .novelConfiguration => seenPlan registry
  | .seen => seenPlan registry

end SettlementOps.Generator
