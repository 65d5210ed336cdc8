import SettlementOps.Generator.Defects
import SettlementOps.Generator.Rng
import SettlementOps.Import.IsoTimes

/-!
# Benign noise

Records that bear on nothing, routine adjustments that are allocated and reflected in the net,
and fees reported in two lines.  All of it is drawn independently of the causes of a case.

* `noiseRecords` — ledger entries and orders.
* `applyAccountedAdjustments`, `applyOneAdjustment` — routine adjustments.
* `splitFeeLines` — the fee and its tax as two lines each.
-/

namespace SettlementOps

namespace FinancialRecordDto

def asFeeLine : FinancialRecordDto → Option FeeLineDto
  | feeLine dto => some dto
  | _ => none

def asTaxLine : FinancialRecordDto → Option TaxLineDto
  | taxLine dto => some dto
  | _ => none

def asSettlement : FinancialRecordDto → Option SettlementDto
  | settlement dto => some dto
  | _ => none

def asSettlementLine : FinancialRecordDto → Option SettlementLineDto
  | settlementLine dto => some dto
  | _ => none

end FinancialRecordDto

namespace Generator

open Calendar Random

/-- One record that means nothing for a reconciliation. -/
def noiseRecord (r : Refs) (capturedAt : Date) (grossMinor : Int) (i : Nat) :
    Rng FinancialRecordDto := do
  if ← Rng.bool half then
    return .ledgerEntry {
      referenceType := "PAYMENT"
      referenceId := r.payment
      amount := money grossMinor
      entryType := if i % 2 = 0 then .credit else .debit
      postedAt := iso ⟨capturedAt.getTime + i * 3_600_000⟩
      status := "POSTED"
      lineage := lineage "ledger" ("led_" ++ r.suffix ++ "_" ++ toString i) capturedAt }
  else
    return .order {
      orderId := "ord_" ++ r.suffix ++ "_" ++ toString i
      customerReference := none
      amount := money grossMinor
      status := .paid
      createdAt := iso ⟨capturedAt.getTime - 7_200_000⟩
      lineage := lineage "gateway" ("ord_" ++ r.suffix ++ "_" ++ toString i) capturedAt }

def noiseRecords (r : Refs) (capturedAt : Date) (grossMinor : Int) :
    Rng (List FinancialRecordDto) := do
  let count ← Rng.int 0 8
  (List.range count).mapM (noiseRecord r capturedAt grossMinor)

/-! ## Routine adjustments -/

/-- What a routine adjustment of `delta` changes in a record: the net of the settlement, the
amount of its line and the bank credits under its UTR.  The records of a case differ in their
source record ids, so a record that equals the settlement found is that record. -/
def adjustRecord (settlement : SettlementDto) (line : SettlementLineDto) (delta : Int)
    (rec : FinancialRecordDto) : FinancialRecordDto :=
  if rec = .settlement settlement then
    .settlement { settlement with
      netAmount := money (settlement.netAmount.amountMinor + delta) }
  else if rec = .settlementLine line then
    .settlementLine { line with amount := money (line.amount.amountMinor + delta) }
  else
    match rec with
    | .bankCredit credit =>
        if some credit.utr = settlement.utr then
          .bankCredit { credit with amount := money (credit.amount.amountMinor + delta) }
        else rec
    | _ => rec

/-- `Date.parse` of a text that is an ISO text. -/
def timeOf (text : String) : Date := (parseISOString text).getD ⟨0⟩

def routineAdjustment (r : Refs) (settlementId : String) (index : Nat) (delta : Int)
    (settledAt : Date) : AdjustmentDto :=
  let effectiveAt : Date := ⟨settledAt.getTime - 43_200_000⟩
  { settlementId := some settlementId
    reference := "ADJ-" ++ r.suffix ++ "-ROUTINE-" ++ toString index
    amount := money delta
    reasonCode := "ROUTINE_ALLOCATION"
    effectiveAt := iso effectiveAt
    lineage := lineage "ops" ("adjr_" ++ r.suffix ++ "_" ++ toString index) effectiveAt }

/-- Scaled to the net of the first settlement, either way. -/
def applyOneAdjustment (records : List FinancialRecordDto) (r : Refs) (index : Nat) :
    Rng (List FinancialRecordDto) :=
  match records.findSome? (·.asSettlement), records.findSome? (·.asSettlementLine) with
  | some settlement, some line => do
      let scale ← Rng.int 0 900
      let magnitude : Int := (settlement.netAmount.amountMinor.natAbs * scale / 10_000 : Nat)
      let positive ← Rng.bool half
      let delta := if positive then magnitude else -magnitude
      if delta = 0 then return records
      else
        return records.map (adjustRecord settlement line delta) ++
          [.adjustment (routineAdjustment r settlement.settlementId index delta
            (timeOf settlement.settlementAt))]
  | _, _ => return records

/-- The loop of the routine adjustments. -/
def applyAdjustments (records : List FinancialRecordDto) (r : Refs) (count : Nat) :
    Rng (List FinancialRecordDto) :=
  (List.range count).foldlM (fun current i => applyOneAdjustment current r i) records

def applyAccountedAdjustments (records : List FinancialRecordDto) (r : Refs) :
    Rng (List FinancialRecordDto) := do
  let count ← Rng.int 0 3
  applyAdjustments records r count

/-! ## Fees in two lines -/

def feeParts (r : Refs) (fee : FeeLineDto) : List FinancialRecordDto :=
  let feeMinor := fee.amount.amountMinor
  let partA := feeMinor / 2
  [ .feeLine { fee with amount := money partA },
    .feeLine { fee with
      feeType := "SCHEME"
      amount := money (feeMinor - partA)
      lineage := { fee.lineage with sourceRecordId := "fee_" ++ r.suffix ++ "_b" } } ]

def taxParts (r : Refs) (tax : TaxLineDto) : List FinancialRecordDto :=
  let taxMinor := tax.amount.amountMinor
  let taxA := taxMinor / 2
  [ .taxLine { tax with amount := money taxA },
    .taxLine { tax with
      amount := money (taxMinor - taxA)
      lineage := { tax.lineage with sourceRecordId := "tax_" ++ r.suffix ++ "_b" } } ]

def splitFeeLines (records : List FinancialRecordDto) (r : Refs) :
    Rng (List FinancialRecordDto) := do
  let splits ← Rng.bool twoFifths
  if !splits then return records
  else
    match records.findSome? (·.asFeeLine) with
    | none => return records
    | some fee =>
        if fee.amount.amountMinor < 2 then return records
        else
          match records.findSome? (·.asTaxLine) with
          | none =>
              return records.filter (fun rec => rec != .feeLine fee) ++ feeParts r fee
          | some tax =>
              return records.filter (fun rec => rec != .feeLine fee && rec != .taxLine tax) ++
                feeParts r fee ++ taxParts r tax

/-- The noise of a case, added to its records in the order the source adds it. -/
def withNoise (records : List FinancialRecordDto) (r : Refs) (capturedAt : Date)
    (grossMinor : Int) : Rng (List FinancialRecordDto) := do
  let adjusted ← applyAccountedAdjustments records r
  let feesSplit ← splitFeeLines adjusted r
  let noise ← noiseRecords r capturedAt grossMinor
  return feesSplit ++ noise

/-- The same with a given number of routine adjustments, which the source draws. -/
def withAdjustments (records : List FinancialRecordDto) (r : Refs) (capturedAt : Date)
    (grossMinor : Int) (count : Nat) : Rng (List FinancialRecordDto) := do
  let adjusted ← applyAdjustments records r count
  let feesSplit ← splitFeeLines adjusted r
  let noise ← noiseRecords r capturedAt grossMinor
  return feesSplit ++ noise

theorem withNoise_eq (records : List FinancialRecordDto) (r : Refs) (capturedAt : Date)
    (grossMinor : Int) : withNoise records r capturedAt grossMinor =
      Rng.int 0 3 >>= withAdjustments records r capturedAt grossMinor := by
  unfold withNoise applyAccountedAdjustments
  rw [bind_assoc]
  rfl

end Generator

end SettlementOps
