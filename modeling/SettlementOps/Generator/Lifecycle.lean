import SettlementOps.Generator.Render
import SettlementOps.Text.CodeUnits

/-!
# The case lifecycle

One clean, fully reconciling lifecycle of a payment, which the causes of a case damage, and the
records it implies.

* `cleanLifecycle` — the lifecycle before any damage.
* `emit`, `emitAdjustments` — its records.
-/

namespace SettlementOps.Generator

structure LifecycleRefund where
  minor : Int
  createdAt : Date
  settledAt : Date
  deriving DecidableEq, Repr

structure ImpossibleAdjustment where
  minor : Int
  effectiveAt : Date
  reference : String
  deriving DecidableEq, Repr

structure Lifecycle where
  refs : Refs
  grossMinor : Int
  method : PaymentMethod
  capturedAt : Date
  feeMinor : Int
  taxMinor : Int
  /-- Whether fee and tax records accompany the settlement. -/
  feeRecordsPresent : Bool
  settledAt : Date
  /-- Net actually paid out, before splitting. -/
  netMinor : Int
  /-- Extra deduction the settlement made that the records do not explain. -/
  unexplainedMinor : Int
  split : Bool
  splitCreditLateHours : Int
  refund : Option LifecycleRefund
  unallocatedAdjustmentMinor : Option Int
  impossibleAdjustment : Option ImpossibleAdjustment
  deriving DecidableEq, Repr

def cleanLifecycle (refs : Refs) (grossMinor : Int) (method : PaymentMethod) (capturedAt : Date)
    (jitterDays : Int) : Lifecycle :=
  let scheduled := scheduledFeeAndTax grossMinor method capturedAt
  { refs
    grossMinor
    method
    capturedAt
    feeMinor := scheduled.fee
    taxMinor := scheduled.tax
    feeRecordsPresent := true
    settledAt := plusDays (expectedSettlementFor capturedAt) jitterDays
    netMinor := grossMinor - scheduled.fee - scheduled.tax
    unexplainedMinor := 0
    split := false
    splitCreditLateHours := 30
    refund := none
    unallocatedAdjustmentMinor := none
    impossibleAdjustment := none }

/-! ## The records -/

namespace Lifecycle

/-- The second settlement of a split has identifiers of its own. -/
def secondId (life : Lifecycle) : String := life.refs.settlement ++ "b"

def secondUtr (life : Lifecycle) : String := life.refs.utr ++ "B"

/-- Settlement, line and bank credit of a payment that was settled at once. -/
def singleRecords (life : Lifecycle) (net : Int) : List FinancialRecordDto :=
  let r := life.refs
  [ .settlement (settlementRecord r life.grossMinor net life.settledAt),
    .settlementLine (settlementLine r net life.settledAt),
    .bankCredit (bankCreditRecord r net (plusHours life.settledAt 6)) ]

/-- Settlement, line and bank credit of each of two legs. -/
def splitRecords (life : Lifecycle) (legA legB : Int) : List FinancialRecordDto :=
  let r := life.refs
  let grossA := life.grossMinor.tdiv 2
  [ .settlement (settlementRecord r grossA legA life.settledAt),
    .settlement (settlementRecord r (life.grossMinor - grossA) legB life.settledAt life.secondId
      life.secondUtr),
    .settlementLine (settlementLine r legA life.settledAt),
    .settlementLine (settlementLine r legB life.settledAt life.secondId
      ("sl_" ++ r.suffix ++ "b")),
    .bankCredit (bankCreditRecord r legA (plusHours life.settledAt 6)),
    -- present and correct, but outside the expected lag
    .bankCredit (bankCreditRecord r legB (plusHours life.settledAt life.splitCreditLateHours)
      life.secondUtr (some ("bc_" ++ r.suffix ++ "b"))) ]

end Lifecycle

/-- The records a lifecycle implies. -/
def emit (life : Lifecycle) : List FinancialRecordDto :=
  let r := life.refs
  let net := life.netMinor - life.unexplainedMinor
  [paymentRecord r life.grossMinor life.method life.capturedAt] ++
    (if life.feeRecordsPresent then feeRecords r life.feeMinor life.taxMinor life.capturedAt
    else []) ++
    (if life.split then
      let legA := net.tdiv 2
      life.splitRecords legA (net - legA)
    else life.singleRecords net) ++
    life.refund.toList.map fun refund =>
      .refund (refundRecord r refund.minor refund.createdAt (some refund.settledAt))

def unallocatedAdjustment (life : Lifecycle) (minor : Int) : AdjustmentDto where
  settlementId := none
  reference := "ADJ-" ++ life.refs.suffix ++ "-UNALLOCATED"
  amount := money minor
  reasonCode := "PARTIAL_CORRECTION"
  effectiveAt := iso (plusDays life.settledAt (-1))
  lineage := lineage "ops" ("adju_" ++ life.refs.suffix) (plusDays life.settledAt (-1))

def impossibleAdjustment (life : Lifecycle) (adjustment : ImpossibleAdjustment) :
    AdjustmentDto where
  settlementId := some life.refs.settlement
  reference := Text.slice adjustment.reference 128
  amount := money adjustment.minor
  reasonCode := "MANUAL_CORRECTION"
  effectiveAt := iso adjustment.effectiveAt
  lineage := lineage "ops" ("adji_" ++ life.refs.suffix) adjustment.effectiveAt

/-- Records that are not part of the lifecycle but bear on the case. -/
def emitAdjustments (life : Lifecycle) : List FinancialRecordDto :=
  (life.unallocatedAdjustmentMinor.toList.map fun minor =>
    .adjustment (unallocatedAdjustment life minor)) ++
  (life.impossibleAdjustment.toList.map fun adjustment =>
    .adjustment (impossibleAdjustment life adjustment))

end SettlementOps.Generator
