import Mathlib.Data.List.Sort
import SettlementOps.Generator.Noise

/-!
# Case construction

One clean lifecycle, then each cause applied as a transform of it, then its records with their
noise.

* `CasePlan`, `drawCase` — what is decided and what is drawn for a case.
* `renderCase` — the case: its hidden blueprint and its visible records.
-/

namespace SettlementOps.Generator

open Calendar Random

inductive Split
  | development
  | validation
  | showcase
  | primaryTest
  | challenge
  deriving DecidableEq, Repr

/-! ## Configuration buckets -/

inductive AmountBand
  | below1k
  | upTo10k
  | upTo100k
  | above100k
  deriving DecidableEq, Repr

/-- The text a band is written as. -/
def AmountBand.code : AmountBand → String
  | .below1k => "<1k"
  | .upTo10k => "1k-10k"
  | .upTo100k => "10k-100k"
  | .above100k => ">100k"

inductive TimingBand
  | withinWindow
  | oneCycleLate
  | moreThanOneCycleLate
  deriving DecidableEq, Repr

def TimingBand.code : TimingBand → String
  | .withinWindow => "within_window"
  | .oneCycleLate => "one_cycle_late"
  | .moreThanOneCycleLate => "more_than_one_cycle_late"

inductive LineCountBand
  | one
  | upToFour
  | fiveOrMore
  deriving DecidableEq, Repr

def LineCountBand.code : LineCountBand → String
  | .one => "1"
  | .upToFour => "2-4"
  | .fiveOrMore => "5+"

structure ConfigurationBucket where
  amountBand : AmountBand
  timingBand : TimingBand
  lineCountBand : LineCountBand
  paymentMethod : PaymentMethod
  deriving DecidableEq, Repr

/-- Bands are on the gross amount in minor units. -/
def amountBandOf (grossMinor : Int) : AmountBand :=
  if grossMinor < 100_000 then .below1k
  else if grossMinor < 1_000_000 then .upTo10k
  else if grossMinor < 10_000_000 then .upTo100k
  else .above100k

/-- Cycles late, relative to the expected settlement date. -/
def timingBandOf (cyclesLate : Int) : TimingBand :=
  if cyclesLate ≤ 0 then .withinWindow
  else if cyclesLate ≤ 1 then .oneCycleLate
  else .moreThanOneCycleLate

def lineCountBandOf (lines : Nat) : LineCountBand :=
  if lines ≤ 1 then .one else if lines ≤ 4 then .upToFour else .fiveOrMore

def bucketKey (b : ConfigurationBucket) : String :=
  b.amountBand.code ++ "|" ++ b.timingBand.code ++ "|" ++ b.lineCountBand.code ++ "|" ++
    b.paymentMethod.code

/-- Causes in the order of their codes. -/
def sortedCauses (causes : List CauseCode) : List CauseCode :=
  causes.insertionSort fun a b => a.code ≤ b.code

/-- Causes are sorted, so that two orders are one tuple. -/
def causeTupleKey (causes : List CauseCode) : String :=
  ",".intercalate ((sortedCauses causes).map (·.code))

/-! ## What is drawn -/

structure CasePlan where
  causes : List CauseCode
  adversarial : Bool
  ambiguous : Bool
  deriving DecidableEq, Repr

def AMOUNT_CHOICES : List Int :=
  [45_000, 90_000, 250_000, 600_000, 1_000_000, 2_500_000, 7_500_000, 15_000_000]

def METHOD_CHOICES : List PaymentMethod := [.card, .netbanking, .upi, .wallet]

/-- Development does not cover the whole configuration space. -/
def DEVELOPMENT_METHODS : List PaymentMethod := [.card, .netbanking]

def methodsOf (split : Split) : List PaymentMethod :=
  if split = .development then DEVELOPMENT_METHODS else METHOD_CHOICES

theorem methodsOf_ne_nil (split : Split) : methodsOf split ≠ [] := by
  cases split <;> decide

/-- The simulated period: from 2026-01-01T00:00:00.000Z to 2026-06-30T23:59:59.999Z. -/
def PERIOD_START : Date := ⟨1_767_225_600_000⟩
def PERIOD_END : Date := ⟨1_782_863_999_999⟩

example : toISOString PERIOD_START = "2026-01-01T00:00:00.000Z" ∧
    toISOString PERIOD_END = "2026-06-30T23:59:59.999Z" := by decide

/-- The double closest to a whole number, ties to even: it keeps 53 significant bits. -/
def toDouble (n : Nat) : Nat :=
  let unit := 2 ^ (n.log2 - 52)
  let q := n / unit
  let r := n % unit
  if unit < 2 * r ∨ (2 * r = unit ∧ q % 2 = 1) then (q + 1) * unit else q * unit

/-- `Math.floor(next() * length)`: the product is rounded to a double before it is floored. -/
def scaled (length : Nat) : Rng Nat := do
  let k ← word
  return toDouble (k.toNat * length) / 2 ^ 32

/-- Weekday captures only; after twenty weekends, the start of the period. -/
def drawCaptureDateFrom : Nat → Rng Date
  | 0 => return PERIOD_START
  | attempts + 1 => do
      let offset ← scaled (PERIOD_END.getTime - PERIOD_START.getTime).toNat
      let drawn : Date := ⟨PERIOD_START.getTime + offset⟩
      let hours ← Rng.int 0 8
      let minutes ← Rng.int 0 59
      let capturedAt : Date :=
        ⟨dayNumber drawn * msPerDay + (4 + hours) * msPerHour + minutes * msPerMinute⟩
      let day := utcDay capturedAt
      if day ≠ 0 ∧ day ≠ 6 then return capturedAt
      else drawCaptureDateFrom attempts

def drawCaptureDate : Rng Date := drawCaptureDateFrom 20

/-- What is drawn for a case before any cause is applied. -/
structure CaseDraw where
  grossMinor : Int
  method : PaymentMethod
  capturedAt : Date
  variant : Nat
  jitterDays : Nat
  varianceScaleBps : Nat
  deriving DecidableEq, Repr

/-- The draws of a case, in the order the source makes them. -/
def drawCase (split : Split) : Rng CaseDraw := do
  let grossMinor ← Rng.pick AMOUNT_CHOICES (by decide)
  let method ← Rng.pick (methodsOf split) (methodsOf_ne_nil split)
  let capturedAt ← drawCaptureDate
  let variant ← Rng.int 0 7
  let jitterDays ← Rng.int 0 1
  let varianceScaleBps ← Rng.int 20 900
  return { grossMinor, method, capturedAt, variant, jitterDays, varianceScaleBps }

/-! ## The case -/

structure Injection where
  variant : Nat
  components : List JsonObject
  compound : Bool
  deriving DecidableEq, Repr

/-- What the oracle knows and no runtime component may see. -/
structure CaseBlueprint where
  paymentId : String
  merchantSlug : String
  split : Split
  trueCauses : List CauseCode
  trueCauseTuple : String
  trueDisposition : Disposition
  bucket : ConfigurationBucket
  grossMinor : Int
  paymentMethod : PaymentMethod
  capturedAt : Date
  /-- Whether the baseline is expected to leave this as a residual. -/
  expectedResidual : Bool
  discrepancyMinor : Int
  injection : Injection
  deriving DecidableEq, Repr

structure RenderedCase where
  blueprint : CaseBlueprint
  visibleRecords : List FinancialRecordDto
  bucket : ConfigurationBucket
  deriving DecidableEq, Repr

namespace CasePlan

/-- The transforms of a plan, in order. -/
def transforms (plan : CasePlan) : List Transform :=
  if plan.adversarial then [ADVERSARIAL_TRANSFORM] else plan.causes.map TRANSFORMS

/-- The lifecycle of a case after its transforms, with their results. -/
def damaged (plan : CasePlan) (refs : Refs) (draw : CaseDraw) :
    Lifecycle × List TransformResult :=
  applyTransforms ⟨draw.variant, draw.varianceScaleBps⟩ refs plan.transforms
    (cleanLifecycle refs draw.grossMinor draw.method draw.capturedAt draw.jitterDays)

end CasePlan

/-- `Math.max(0, Math.round(late / cycle))` for a cycle of two days. -/
def cyclesLate (settledAt expected : Date) : Int :=
  max 0 ((2 * (settledAt.getTime - expected.getTime) + 172_800_000) / 345_600_000)

/-- The blueprint of a case.  A case is to be resolved only if every component of it can be
proved. -/
def blueprintOf (ordinal : Nat) (split : Split) (merchantSlug : String) (plan : CasePlan)
    (draw : CaseDraw) : CaseBlueprint :=
  let refs := refsFor ordinal
  let life := (plan.damaged refs draw).1
  let results := (plan.damaged refs draw).2
  let allProvable := results.all fun result => result.disposition == .resolve
  let causes := if plan.causes.length > 1 then sortedCauses plan.causes else plan.causes
  { paymentId := refs.payment
    merchantSlug
    split
    trueCauses := causes
    trueCauseTuple := causeTupleKey causes
    trueDisposition := if allProvable then .resolve else .escalate
    bucket := {
      amountBand := amountBandOf draw.grossMinor
      timingBand := timingBandOf (cyclesLate life.settledAt (expectedSettlementFor draw.capturedAt))
      lineCountBand := lineCountBandOf (if life.split then 2 else 1)
      paymentMethod := draw.method }
    grossMinor := draw.grossMinor
    paymentMethod := draw.method
    capturedAt := draw.capturedAt
    expectedResidual := true
    discrepancyMinor :=
      life.unexplainedMinor + if life.feeRecordsPresent then 0 else life.feeMinor + life.taxMinor
    injection := {
      variant := draw.variant
      components := results.map (·.detail)
      compound := causes.length > 1 } }

/-- Render one case. -/
def renderCase (ordinal : Nat) (split : Split) (merchantSlug : String) (plan : CasePlan) :
    Rng RenderedCase := do
  let draw ← drawCase split
  let refs := refsFor ordinal
  let life := (plan.damaged refs draw).1
  let visibleRecords ← withNoise (emit life ++ emitAdjustments life) refs draw.capturedAt
    draw.grossMinor
  let blueprint := blueprintOf ordinal split merchantSlug plan draw
  return { blueprint, visibleRecords, bucket := blueprint.bucket }

end SettlementOps.Generator
