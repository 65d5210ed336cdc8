import SettlementOps.Generator.VisibleRecords
import SettlementOps.Store.ImportedUnit

/-!
# The contents of a case's records

What the records of a case say once they are normalized, and the unit of their payment.

* `paymentContent` … `adjustmentContent` — one function a kind of record.
* `delivery_eq` — what a case with noise delivers, kind by kind.
* `CaseUnit`, `loadCase` — the unit of the payment has the amounts and times of its lifecycle.
-/

namespace SettlementOps.Generator

open Calendar

/-- An amount as it is normalized. -/
def inr (minor : Int) : Money := ⟨minor, "INR"⟩

@[simp] theorem inr_amountMinor (minor : Int) : (inr minor).amountMinor = minor := rfl

/-- The base of what a record says. -/
def contentBase (system id : String) (observedAt : Date) : RecordBase :=
  ⟨"", ⟨""⟩, ⟨system, id, observedAt, ⟨0⟩, "v1"⟩⟩

section Contents

variable (r : Refs)

def paymentContent (grossMinor : Int) (method : PaymentMethod) (capturedAt : Date) :
    PaymentRecord where
  toRecordBase := contentBase "gateway" r.payment capturedAt
  paymentId := r.payment
  orderId := none
  amount := inr grossMinor
  paymentMethod := method
  status := .captured
  authorizedAt := some ⟨capturedAt.getTime - msPerHour⟩
  capturedAt := some capturedAt

def feeContent (id feeType : String) (fee : Int) (capturedAt : Date) : FeeLineRecord where
  toRecordBase := contentBase "gateway" id capturedAt
  paymentId := some r.payment
  settlementId := none
  feeType
  amount := inr fee
  effectiveDate := capturedAt

def taxContent (id : String) (tax : Int) (capturedAt : Date) : TaxLineRecord where
  toRecordBase := contentBase "gateway" id capturedAt
  feeLineId := some ("fee_" ++ r.suffix)
  taxType := "GST"
  amount := inr tax
  period := (taxLine r tax capturedAt).period

def settlementContent (grossMinor netMinor : Int) (settledAt : Date) (id utr : String) :
    SettlementRecord where
  toRecordBase := contentBase "gateway" id settledAt
  settlementId := id
  settlementBatchId := none
  grossAmount := inr grossMinor
  netAmount := inr netMinor
  settlementAt := settledAt
  status := .processed
  utr := some utr

def lineContent (amountMinor : Int) (settledAt : Date) (settlementId id : String) :
    SettlementLineRecord where
  toRecordBase := contentBase "gateway" id settledAt
  settlementId
  paymentId := some r.payment
  refundId := none
  lineType := .payment
  amount := inr amountMinor

def creditContent (amountMinor : Int) (creditedAt : Date) (utr id reference : String) :
    BankCreditRecord where
  toRecordBase := contentBase "bank" id creditedAt
  utr
  amount := inr amountMinor
  creditedAt
  bankReference := reference

def refundContent (amountMinor : Int) (createdAt settledAt : Date) : RefundRecord where
  toRecordBase := contentBase "gateway" ("rfnd_" ++ r.suffix) createdAt
  refundId := "rfnd_" ++ r.suffix
  paymentId := r.payment
  amount := inr amountMinor
  status := .processed
  createdAt
  settledAt := some settledAt

end Contents

def adjustmentContent (settlementId : Option String) (reference reason id : String)
    (minor : Int) (effectiveAt : Date) : AdjustmentRecord where
  toRecordBase := contentBase "ops" id effectiveAt
  settlementId
  reference
  amount := inr minor
  effectiveAt
  reasonCode := reason

/-! ## Normalizing -/

section Normalizing

variable {parseDate : String → Option Date}

theorem toMoney_money (minor : Int) (i : Nat) : toMoney (money minor) i = .ok (inr minor) := by
  unfold toMoney
  exact if_pos (show isCurrency "INR" = true by decide)

variable (h : ReadsISO parseDate)
include h

theorem toDate_iso (t : Date) (field : String) (i : Nat) :
    toDate parseDate (iso t) field i = .ok t := by
  unfold toDate iso
  rw [h t]

theorem optionalDate_iso (t : Date) (field : String) (i : Nat) :
    optionalDate parseDate (some (iso t)) field i = .ok (some t) := by
  unfold optionalDate
  dsimp only
  rw [toDate_iso h]
  rfl

theorem dtoContent_lineage (system id : String) (t : Date) {dto : FinancialRecordDto}
    (hlineage : dto.lineage = lineage system id t) :
    dtoContent parseDate dto =
      (normalizeKind parseDate (contentBase system id t) 0 dto).toOption := by
  unfold dtoContent normalizeRecord normalizedBase
  rw [hlineage]
  dsimp only [lineage]
  rw [toDate_iso h]
  rfl

theorem dtoContent_payment (r : Refs) (grossMinor : Int) (method : PaymentMethod)
    (capturedAt : Date) :
    dtoContent parseDate (paymentRecord r grossMinor method capturedAt) =
      some (.payment (paymentContent r grossMinor method capturedAt)) := by
  rw [dtoContent_lineage h "gateway" r.payment capturedAt rfl]
  simp only [paymentRecord, normalizeKind, toMoney_money, optionalDate_iso h]
  rfl

theorem dtoContent_feeLine (r : Refs) (id feeType : String) (fee : Int) (capturedAt : Date) :
    dtoContent parseDate (.feeLine { feeLine r fee capturedAt with
        feeType, lineage := lineage "gateway" id capturedAt }) =
      some (.feeLine (feeContent r id feeType fee capturedAt)) := by
  rw [dtoContent_lineage h "gateway" id capturedAt rfl]
  simp only [feeLine, normalizeKind, toMoney_money, toDate_iso h]
  rfl

theorem dtoContent_taxLine (r : Refs) (id : String) (tax : Int) (capturedAt : Date) :
    dtoContent parseDate (.taxLine { taxLine r tax capturedAt with
        lineage := lineage "gateway" id capturedAt }) =
      some (.taxLine (taxContent r id tax capturedAt)) := by
  rw [dtoContent_lineage h "gateway" id capturedAt rfl]
  simp only [taxLine, normalizeKind, toMoney_money]
  rfl

theorem dtoContent_settlement (r : Refs) (grossMinor netMinor : Int) (settledAt : Date)
    (id utr : String) :
    dtoContent parseDate
        (.settlement (settlementRecord r grossMinor netMinor settledAt id utr)) =
      some (.settlement (settlementContent grossMinor netMinor settledAt id utr)) := by
  rw [dtoContent_lineage h "gateway" id settledAt rfl]
  simp only [settlementRecord, normalizeKind, toMoney_money, toDate_iso h]
  rfl

theorem dtoContent_settlementLine (r : Refs) (amountMinor : Int) (settledAt : Date)
    (settlementId id : String) :
    dtoContent parseDate
        (.settlementLine (settlementLine r amountMinor settledAt settlementId id)) =
      some (.settlementLine (lineContent r amountMinor settledAt settlementId id)) := by
  rw [dtoContent_lineage h "gateway" id settledAt rfl]
  simp only [settlementLine, normalizeKind, toMoney_money]
  rfl

theorem dtoContent_bankCredit (r : Refs) (amountMinor : Int) (creditedAt : Date) (utr : String)
    (id : Option String) :
    dtoContent parseDate (.bankCredit (bankCreditRecord r amountMinor creditedAt utr id)) =
      some (.bankCredit (creditContent amountMinor creditedAt utr (id.getD ("bc_" ++ r.suffix))
        ("REF_" ++ id.getD r.suffix))) := by
  rw [dtoContent_lineage h "bank" (id.getD ("bc_" ++ r.suffix)) creditedAt rfl]
  simp only [bankCreditRecord, normalizeKind, toMoney_money, toDate_iso h]
  rfl

theorem dtoContent_refund (r : Refs) (amountMinor : Int) (createdAt settledAt : Date) :
    dtoContent parseDate (.refund (refundRecord r amountMinor createdAt (some settledAt))) =
      some (.refund (refundContent r amountMinor createdAt settledAt)) := by
  rw [dtoContent_lineage h "gateway" ("rfnd_" ++ r.suffix) createdAt rfl]
  simp only [refundRecord, normalizeKind, toMoney_money, toDate_iso h, Option.map_some,
    optionalDate_iso h]
  rfl

theorem dtoContent_adjustment (settlementId : Option String) (reference reason id : String)
    (minor : Int) (effectiveAt : Date) :
    dtoContent parseDate (.adjustment {
        settlementId
        reference
        amount := money minor
        reasonCode := reason
        effectiveAt := iso effectiveAt
        lineage := lineage "ops" id effectiveAt }) =
      some (.adjustment (adjustmentContent settlementId reference reason id minor effectiveAt)) := by
  rw [dtoContent_lineage h "ops" id effectiveAt rfl]
  simp only [normalizeKind, toMoney_money, toDate_iso h]
  rfl

end Normalizing

/-! ## What a case delivers -/

/-- One leg of a settlement: what was paid out under which identifiers, and when the bank
credited it. -/
structure Leg where
  grossMinor : Int
  netMinor : Int
  id : String
  utr : String
  lineId : String
  creditId : String
  reference : String
  creditedAt : Date
  deriving DecidableEq, Repr

namespace Lifecycle

def legs (life : Lifecycle) (delta : Int) : List Leg :=
  let r := life.refs
  if life.split then
    [ ⟨life.grossMinor.tdiv 2, life.paidOut.tdiv 2 + delta, r.settlement, r.utr,
        "sl_" ++ r.suffix, "bc_" ++ r.suffix, "REF_" ++ r.suffix, plusHours life.settledAt 6⟩,
      ⟨life.grossMinor - life.grossMinor.tdiv 2, life.paidOut - life.paidOut.tdiv 2,
        life.secondId, life.secondUtr, "sl_" ++ r.suffix ++ "b", "bc_" ++ r.suffix ++ "b",
        "REF_" ++ ("bc_" ++ r.suffix ++ "b"),
        plusHours life.settledAt life.splitCreditLateHours⟩ ]
  else
    [ ⟨life.grossMinor, life.paidOut + delta, r.settlement, r.utr, "sl_" ++ r.suffix,
        "bc_" ++ r.suffix, "REF_" ++ r.suffix, plusHours life.settledAt 6⟩ ]

def feeContents (life : Lifecycle) (feesSplit : Bool) : List FeeLineRecord :=
  let fee := feeContent life.refs
  let id := "fee_" ++ life.refs.suffix
  if !life.feeRecordsPresent then []
  else if feesSplit then
    [fee id "MDR" (life.feeMinor / 2) life.capturedAt,
      fee (id ++ "_b") "SCHEME" (life.feeMinor - life.feeMinor / 2) life.capturedAt]
  else [fee id "MDR" life.feeMinor life.capturedAt]

def taxContents (life : Lifecycle) (feesSplit : Bool) : List TaxLineRecord :=
  let tax := taxContent life.refs
  let id := "tax_" ++ life.refs.suffix
  if !life.feeRecordsPresent then []
  else if feesSplit then
    [tax id (life.taxMinor / 2) life.capturedAt,
      tax (id ++ "_b") (life.taxMinor - life.taxMinor / 2) life.capturedAt]
  else [tax id life.taxMinor life.capturedAt]

def refundContents (life : Lifecycle) : List RefundRecord :=
  life.refund.toList.map fun refund =>
    refundContent life.refs refund.minor refund.createdAt refund.settledAt

def unallocatedContents (life : Lifecycle) : List AdjustmentRecord :=
  life.unallocatedAdjustmentMinor.toList.map fun minor =>
    adjustmentContent none ("ADJ-" ++ life.refs.suffix ++ "-UNALLOCATED") "PARTIAL_CORRECTION"
      ("adju_" ++ life.refs.suffix) minor (plusDays life.settledAt (-1))

def impossibleContents (life : Lifecycle) : List AdjustmentRecord :=
  life.impossibleAdjustment.toList.map fun adjustment =>
    adjustmentContent (some life.refs.settlement) (Text.slice adjustment.reference 128)
      "MANUAL_CORRECTION" ("adji_" ++ life.refs.suffix) adjustment.minor adjustment.effectiveAt

/-- Half a day before the settlement. -/
def routineAt (life : Lifecycle) : Date := ⟨life.settledAt.getTime - 43_200_000⟩

def routineContents (life : Lifecycle) (routine : List (Nat × Int)) : List AdjustmentRecord :=
  routine.map fun entry =>
    adjustmentContent (some life.refs.settlement)
      ("ADJ-" ++ life.refs.suffix ++ "-ROUTINE-" ++ toString entry.1) "ROUTINE_ALLOCATION"
      ("adjr_" ++ life.refs.suffix ++ "_" ++ toString entry.1) entry.2 life.routineAt

/-- What the records of a lifecycle deliver with their noise. -/
def delivery (life : Lifecycle) (noise : Noise) : Delivery where
  payments := [paymentContent life.refs life.grossMinor life.method life.capturedAt]
  fees := life.feeContents noise.feesSplit
  taxes := life.taxContents noise.feesSplit
  refunds := life.refundContents
  adjustments := life.unallocatedContents ++ life.impossibleContents ++
    life.routineContents noise.routine
  settlements := (life.legs (routineTotal noise.routine)).map fun leg =>
    settlementContent leg.grossMinor leg.netMinor life.settledAt leg.id leg.utr
  lines := (life.legs (routineTotal noise.routine)).map fun leg =>
    lineContent life.refs leg.netMinor life.settledAt leg.id leg.lineId
  credits := (life.legs (routineTotal noise.routine)).map fun leg =>
    creditContent leg.netMinor leg.creditedAt leg.utr leg.creditId leg.reference

end Lifecycle

section Delivery

variable {parseDate : String → Option Date} {life : Lifecycle}

/-- Orders and ledger entries bear on no payment. -/
theorem deliveryOf_append_others {records others : List FinancialRecord}
    (h : ∀ r ∈ others, r.kind = .order ∨ r.kind = .ledgerEntry) :
    deliveryOf (records ++ others) = deliveryOf records := by
  have hnone : ∀ {ρ : Type} (as : FinancialRecord → Option ρ),
      (∀ x, as (.order x) = none) → (∀ x, as (.ledgerEntry x) = none) →
      (records ++ others).filterMap as = records.filterMap as := by
    intro ρ as horder hledger
    rw [List.filterMap_append, List.append_right_eq_self, List.filterMap_eq_nil_iff]
    intro r hr
    rcases h r hr with hkind | hkind <;> cases r <;> cases hkind
    · exact horder _
    · exact hledger _
  unfold deliveryOf
  rw [hnone _ (fun _ => rfl) fun _ => rfl, hnone _ (fun _ => rfl) fun _ => rfl,
    hnone _ (fun _ => rfl) fun _ => rfl, hnone _ (fun _ => rfl) fun _ => rfl,
    hnone _ (fun _ => rfl) fun _ => rfl, hnone _ (fun _ => rfl) fun _ => rfl,
    hnone _ (fun _ => rfl) fun _ => rfl, hnone _ (fun _ => rfl) fun _ => rfl]

theorem contentsOf_append (a b : List FinancialRecordDto) :
    contentsOf parseDate (a ++ b) = contentsOf parseDate a ++ contentsOf parseDate b :=
  List.filterMap_append

theorem contentsOf_pair {a b : FinancialRecordDto} {x y : FinancialRecord}
    (ha : dtoContent parseDate a = some x) (hb : dtoContent parseDate b = some y) :
    contentsOf parseDate [a, b] = [x, y] := by
  simp only [contentsOf, List.filterMap_cons, ha, hb, List.filterMap_nil]

variable (h : ReadsISO parseDate)
include h

theorem contents_settled (delta : Int) :
    contentsOf parseDate (life.settledRecords delta) =
      (life.legs delta).map (fun leg => .settlement
        (settlementContent leg.grossMinor leg.netMinor life.settledAt leg.id leg.utr)) ++
      (life.legs delta).map (fun leg => .settlementLine
        (lineContent life.refs leg.netMinor life.settledAt leg.id leg.lineId)) ++
      (life.legs delta).map (fun leg => .bankCredit
        (creditContent leg.netMinor leg.creditedAt leg.utr leg.creditId leg.reference)) := by
  unfold Lifecycle.settledRecords Lifecycle.legs contentsOf
  cases life.split with
  | false =>
      simp only [Bool.false_eq_true, if_false, Lifecycle.singleRecords, List.filterMap_cons,
        dtoContent_settlement h, dtoContent_settlementLine h, dtoContent_bankCredit h]
      rfl
  | true =>
      simp only [if_true, Lifecycle.splitRecords, List.filterMap_cons,
        dtoContent_settlement h, dtoContent_settlementLine h, dtoContent_bankCredit h]
      rfl

theorem contents_refund :
    contentsOf parseDate life.refundRecords = life.refundContents.map .refund := by
  unfold contentsOf Lifecycle.refundRecords Lifecycle.refundContents
  simp only [List.filterMap_map, Function.comp_def, dtoContent_refund h, List.map_map,
    List.filterMap_eq_map']

theorem contents_adjustments :
    contentsOf parseDate (emitAdjustments life) =
      (life.unallocatedContents ++ life.impossibleContents).map .adjustment := by
  unfold contentsOf emitAdjustments Lifecycle.unallocatedContents Lifecycle.impossibleContents
  simp only [List.filterMap_append, List.filterMap_map, Function.comp_def, unallocatedAdjustment,
    impossibleAdjustment, dtoContent_adjustment h, List.map_append, List.map_map,
    List.filterMap_eq_map']

theorem contents_routine (routine : List (Nat × Int)) :
    contentsOf parseDate (life.routineRecords routine) =
      (life.routineContents routine).map .adjustment := by
  unfold contentsOf Lifecycle.routineRecords Lifecycle.routineContents
  simp only [List.filterMap_map, Function.comp_def, routineAdjustment, dtoContent_adjustment h,
    List.map_map, List.filterMap_eq_map']
  rfl

theorem contents_payment :
    contentsOf parseDate [paymentRecord life.refs life.grossMinor life.method life.capturedAt] =
      [.payment (paymentContent life.refs life.grossMinor life.method life.capturedAt)] := by
  simp only [contentsOf, List.filterMap_cons, dtoContent_payment h, List.filterMap_nil]

/-- Fees and taxes in one line each. -/
theorem contents_fees :
    contentsOf parseDate (if life.feeRecordsPresent then
        [.feeLine life.feeRecord, .taxLine life.taxRecord] else []) =
      (life.feeContents false).map .feeLine ++ (life.taxContents false).map .taxLine := by
  unfold Lifecycle.feeContents Lifecycle.taxContents
  cases life.feeRecordsPresent with
  | false => rfl
  | true => exact contentsOf_pair (dtoContent_feeLine h ..) (dtoContent_taxLine h ..)

/-- Fees and taxes in two lines each. -/
theorem contents_feeParts (hpresent : life.feeRecordsPresent = true) :
    contentsOf parseDate (feeParts life.refs life.feeRecord ++ taxParts life.refs life.taxRecord) =
      (life.feeContents true).map .feeLine ++ (life.taxContents true).map .taxLine := by
  have hfees : contentsOf parseDate (feeParts life.refs life.feeRecord) = _ :=
    contentsOf_pair (dtoContent_feeLine h ..) (dtoContent_feeLine h ..)
  have htaxes : contentsOf parseDate (taxParts life.refs life.taxRecord) = _ :=
    contentsOf_pair (dtoContent_taxLine h ..) (dtoContent_taxLine h ..)
  rw [contentsOf_append, hfees, htaxes, Lifecycle.feeContents, Lifecycle.taxContents, hpresent]
  rfl

/-- The records of each kind, in the order they are emitted. -/
theorem contents_adjusted (routine : List (Nat × Int)) :
    contentsOf parseDate (life.adjustedRecords routine) =
      (life.legs (routineTotal routine)).map (fun leg => .settlement
        (settlementContent leg.grossMinor leg.netMinor life.settledAt leg.id leg.utr)) ++
      (life.legs (routineTotal routine)).map (fun leg => .settlementLine
        (lineContent life.refs leg.netMinor life.settledAt leg.id leg.lineId)) ++
      (life.legs (routineTotal routine)).map (fun leg => .bankCredit
        (creditContent leg.netMinor leg.creditedAt leg.utr leg.creditId leg.reference)) ++
      life.refundContents.map .refund ++
      (life.unallocatedContents ++ life.impossibleContents ++
        life.routineContents routine).map .adjustment := by
  simp only [Lifecycle.adjustedRecords, contentsOf_append, contents_settled h,
    contents_refund h, contents_adjustments h, contents_routine h, List.map_append,
    List.append_assoc]

theorem withFees_delivery (noise : Noise) :
    deliveryOf (contentsOf parseDate (life.withFees noise.routine noise.feesSplit)) =
      life.delivery noise := by
  -- the fees come before or after the rest
  have hcontents : contentsOf parseDate (life.withFees noise.routine noise.feesSplit) =
        contentsOf parseDate
            [paymentRecord life.refs life.grossMinor life.method life.capturedAt] ++
          contentsOf parseDate (life.adjustedRecords noise.routine) ++
          ((life.feeContents noise.feesSplit).map .feeLine ++
            (life.taxContents noise.feesSplit).map .taxLine) ∨
      contentsOf parseDate (life.withFees noise.routine noise.feesSplit) =
        contentsOf parseDate
            [paymentRecord life.refs life.grossMinor life.method life.capturedAt] ++
          ((life.feeContents noise.feesSplit).map .feeLine ++
            (life.taxContents noise.feesSplit).map .taxLine) ++
          contentsOf parseDate (life.adjustedRecords noise.routine) := by
    unfold Lifecycle.withFees
    by_cases hsplit : (noise.feesSplit && life.feeRecordsPresent) = true
    · obtain ⟨htwo, hpresent⟩ := Bool.and_eq_true_iff.1 hsplit
      left
      rw [if_pos hsplit, List.append_assoc, contentsOf_append, contentsOf_append,
        contents_feeParts h hpresent, htwo]
    · have hone : life.feeContents noise.feesSplit = life.feeContents false ∧
          life.taxContents noise.feesSplit = life.taxContents false := by
        unfold Lifecycle.feeContents Lifecycle.taxContents
        cases hpresent : life.feeRecordsPresent <;> simp_all
      right
      rw [if_neg hsplit, Lifecycle.withRoutine, contentsOf_append, contentsOf_append,
        contents_fees h, hone.1, hone.2]
  rcases hcontents with hcontents | hcontents <;>
    rw [hcontents, contents_payment h, contents_adjusted h] <;>
    simp [deliveryOf, Lifecycle.delivery, FinancialRecord.asPayment, FinancialRecord.asFeeLine,
      FinancialRecord.asTaxLine, FinancialRecord.asRefund, FinancialRecord.asAdjustment,
      FinancialRecord.asSettlement, FinancialRecord.asSettlementLine,
      FinancialRecord.asBankCredit, List.filterMap_append, List.filterMap_map]

/-- **What a case with noise delivers.** -/
theorem delivery_eq (noise : Noise) :
    deliveryOf (contentsOf parseDate (noisyRecords life noise)) = life.delivery noise := by
  have hothers : ∀ r ∈ contentsOf parseDate noise.others,
      r.kind = .order ∨ r.kind = .ledgerEntry := by
    intro r hr
    obtain ⟨dto, hdto, hr⟩ := List.mem_filterMap.1 hr
    have hkind : r.kind = dto.kind := congrArg Prod.fst (dtoContent_asParent hr)
    rw [hkind]
    exact noise.othersKind dto hdto
  rw [noisyRecords, contentsOf_append, deliveryOf_append_others hothers, withFees_delivery h]

end Delivery

/-! ## One payment, distinct records -/

section About

variable (life : Lifecycle) (noise : Noise)

theorem legs_nodup (delta : Int) :
    ((life.legs delta).map (·.id)).Nodup ∧ ((life.legs delta).map (·.lineId)).Nodup ∧
      ((life.legs delta).map (·.creditId)).Nodup := by
  unfold Lifecycle.legs
  have hid := append_ne_self (s := life.refs.settlement) (t := "b") (by decide)
  have hline := append_ne_self (s := "sl_" ++ life.refs.suffix) (t := "b") (by decide)
  have hcredit := append_ne_self (s := "bc_" ++ life.refs.suffix) (t := "b") (by decide)
  split
  · refine ⟨?_, ?_, ?_⟩ <;> simp [hid.symm, hline.symm, hcredit.symm, Lifecycle.secondId]
  · simp

/-- Adjustments of different origins begin differently. -/
theorem adjustments_nodup :
    ((life.unallocatedContents ++ life.impossibleContents ++
      life.routineContents noise.routine).map (·.source)).Nodup := by
  have hui : ∀ a b : String, "adju_" ++ a ≠ "adji_" ++ b := fun a b heq => by
    simpa using congrArg String.toList heq
  have hur : ∀ a b : String, "adju_" ++ a ≠ "adjr_" ++ b := fun a b heq => by
    simpa using congrArg String.toList heq
  have hir : ∀ a b : String, "adji_" ++ a ≠ "adjr_" ++ b := fun a b heq => by
    simpa using congrArg String.toList heq
  have hroutine : ((life.routineContents noise.routine).map (·.source)).Nodup := by
    rw [Lifecycle.routineContents, List.map_map]
    refine (List.pairwise_map.1 noise.distinct).map _ fun a b hne heq => hne ?_
    exact toString_injective ((String.append_right_inj _).1 heq)
  have hsource : ∀ x ∈ (life.routineContents noise.routine).map (·.source),
      ∃ b, x = "adjr_" ++ b := by
    intro x hx
    rw [Lifecycle.routineContents, List.map_map] at hx
    obtain ⟨entry, -, rfl⟩ := List.mem_map.1 hx
    exact ⟨life.refs.suffix ++ "_" ++ toString entry.1, by
      simp [RecordBase.source, adjustmentContent, contentBase, String.append_assoc]⟩
  have hu : ∀ x ∈ life.unallocatedContents.map (·.source), x = "adju_" ++ life.refs.suffix := by
    simp [Lifecycle.unallocatedContents, RecordBase.source, adjustmentContent, contentBase]
  have hi : ∀ x ∈ life.impossibleContents.map (·.source), x = "adji_" ++ life.refs.suffix := by
    simp [Lifecycle.impossibleContents, RecordBase.source, adjustmentContent, contentBase]
  rw [List.map_append, List.map_append]
  refine List.nodup_append.2 ⟨List.nodup_append.2 ⟨?_, ?_, ?_⟩, hroutine, ?_⟩
  · rw [Lifecycle.unallocatedContents]
    cases life.unallocatedAdjustmentMinor <;> simp
  · rw [Lifecycle.impossibleContents]
    cases life.impossibleAdjustment <;> simp
  · intro x hx y hy
    rw [hu x hx, hi y hy]
    exact hui _ _
  · intro x hx y hy
    obtain ⟨b, rfl⟩ := hsource y hy
    rcases List.mem_append.1 hx with hx | hx
    · rw [hu x hx]
      exact hur _ _
    · rw [hi x hx]
      exact hir _ _

theorem delivery_distinctSources : (life.delivery noise).DistinctSources where
  payments := List.nodup_singleton _
  fees := by
    have hid := append_ne_self (s := "fee_" ++ life.refs.suffix) (t := "_b") (by decide)
    simp only [Lifecycle.delivery, Lifecycle.feeContents]
    split
    · exact List.nodup_nil
    · split <;> simp [RecordBase.source, feeContent, contentBase, hid.symm]
  taxes := by
    have hid := append_ne_self (s := "tax_" ++ life.refs.suffix) (t := "_b") (by decide)
    simp only [Lifecycle.delivery, Lifecycle.taxContents]
    split
    · exact List.nodup_nil
    · split <;> simp [RecordBase.source, taxContent, contentBase, hid.symm]
  refunds := by
    simp only [Lifecycle.delivery, Lifecycle.refundContents]
    cases life.refund <;> simp
  adjustments := adjustments_nodup life noise
  settlements := by
    rw [Lifecycle.delivery, List.map_map]
    exact (legs_nodup life _).1
  lines := by
    rw [Lifecycle.delivery, List.map_map]
    exact (legs_nodup life _).2.1
  credits := by
    rw [Lifecycle.delivery, List.map_map]
    exact (legs_nodup life _).2.2

/-- Every reference leads to the payment of the case. -/
theorem delivery_aboutPayment :
    AboutPayment (life.delivery noise)
      (paymentContent life.refs life.grossMinor life.method life.capturedAt) where
  payment := rfl
  fees := by
    simp only [Lifecycle.delivery, Lifecycle.feeContents]
    split
    · simp
    · split <;> simp [RecordBase.source, feeContent, paymentContent, contentBase]
  taxes := by
    simp only [Lifecycle.delivery, Lifecycle.feeContents, Lifecycle.taxContents]
    split
    · simp
    · split <;> simp [RecordBase.source, feeContent, taxContent, contentBase]
  refunds := by
    simp [Lifecycle.delivery, Lifecycle.refundContents, refundContent, paymentContent,
      RecordBase.source, contentBase]
  lines := by
    intro l hl
    obtain ⟨leg, hleg, rfl⟩ := List.mem_map.1 hl
    exact ⟨rfl, _, List.mem_map_of_mem hleg, rfl⟩
  oneLine := by
    rw [Lifecycle.delivery, List.map_map]
    exact (legs_nodup life _).1
  settlements := by
    intro s hs
    obtain ⟨leg, hleg, rfl⟩ := List.mem_map.1 hs
    exact ⟨_, List.mem_map_of_mem hleg, rfl⟩
  adjustments := by
    have hfirst : ∃ s ∈ (life.delivery noise).settlements, life.refs.settlement = s.source := by
      obtain ⟨leg, hleg, hid⟩ : ∃ leg ∈ life.legs (routineTotal noise.routine),
          leg.id = life.refs.settlement := by
        unfold Lifecycle.legs
        split <;> exact ⟨_, List.mem_cons_self, rfl⟩
      exact ⟨_, List.mem_map_of_mem hleg, hid.symm⟩
    intro a ha id hid
    have hnamed : a.settlementId = none ∨ a.settlementId = some life.refs.settlement := by
      simp only [Lifecycle.delivery, List.mem_append] at ha
      rcases ha with (ha | ha) | ha <;> obtain ⟨x, -, rfl⟩ := List.mem_map.1 ha
      · exact .inl rfl
      · exact .inr rfl
      · exact .inr rfl
    rcases hnamed with hnone | hsome
    · rw [hnone] at hid
      cases hid
    · rw [hsome] at hid
      cases hid
      exact hfirst
  credits := by
    intro b hb
    obtain ⟨leg, hleg, rfl⟩ := List.mem_map.1 hb
    exact ⟨_, List.mem_map_of_mem hleg, rfl⟩

theorem contents_nodup {parseDate : String → Option Date} (h : ReadsISO parseDate) :
    ((contentsOf parseDate (noisyRecords life noise)).map (·.asParent)).Nodup := by
  have hparent : ∀ {dtos : List FinancialRecordDto}, ∀ r ∈ contentsOf parseDate dtos,
      ∃ dto ∈ dtos, r.asParent = (dto.kind, dto.lineage.sourceRecordId) := by
    intro dtos r hr
    obtain ⟨dto, hdto, hr⟩ := List.mem_filterMap.1 hr
    exact ⟨dto, hdto, dtoContent_asParent hr⟩
  have hown : ∀ r ∈ contentsOf parseDate (life.withFees noise.routine noise.feesSplit),
      r.kind ≠ .order ∧ r.kind ≠ .ledgerEntry := by
    intro r hr
    obtain ⟨dto, hdto, hr⟩ := hparent r hr
    have hkind : r.kind = dto.kind := congrArg Prod.fst hr
    rw [hkind]
    exact withFees_kind hdto
  rw [noisyRecords, contentsOf_append, List.map_append]
  refine List.nodup_append.2 ⟨?_, ?_, ?_⟩
  · refine Delivery.DistinctSources.nodup ?_ hown
    rw [withFees_delivery h]
    exact delivery_distinctSources life noise
  · rw [contentsOf, List.map_filterMap]
    refine List.pairwise_filterMap.2 ((List.pairwise_map.1 noise.othersDistinct).imp ?_)
    intro dto dto' hne x hx x' hx'
    obtain ⟨r, hr, rfl⟩ := Option.map_eq_some_iff.1 hx
    obtain ⟨r', hr', rfl⟩ := Option.map_eq_some_iff.1 hx'
    rw [dtoContent_asParent hr, dtoContent_asParent hr']
    exact hne
  · intro x hx y hy
    obtain ⟨r, hr, rfl⟩ := List.mem_map.1 hx
    obtain ⟨r', hr', rfl⟩ := List.mem_map.1 hy
    obtain ⟨dto, hdto, hr'⟩ := hparent r' hr'
    rw [hr']
    intro heq
    have hkind : r.kind = dto.kind := congrArg Prod.fst heq
    rcases noise.othersKind dto hdto with horder | hledger
    · exact (hown r hr).1 (hkind.trans horder)
    · exact (hown r hr).2 (hkind.trans hledger)

end About

/-! ## The unit of a case -/

/-- An amount in one part, or in two. -/
def halves (split : Bool) (minor : Int) : List Int :=
  if split then [minor / 2, minor - minor / 2] else [minor]

/-- What the unit of a case says: the amounts and times of its lifecycle, with its noise. -/
structure CaseUnit (life : Lifecycle) (noise : Noise) (unit : ReconciliationUnit) : Prop where
  amount : unit.payment.amount = inr life.grossMinor
  method : unit.payment.paymentMethod = life.method
  status : unit.payment.status = .captured
  authorizedAt : unit.payment.authorizedAt = some ⟨life.capturedAt.getTime - msPerHour⟩
  capturedAt : unit.payment.capturedAt = some life.capturedAt
  fees : unit.fees.map (·.amount) =
    if life.feeRecordsPresent then (halves noise.feesSplit life.feeMinor).map inr else []
  taxes : unit.taxes.map (·.amount) =
    if life.feeRecordsPresent then (halves noise.feesSplit life.taxMinor).map inr else []
  refunds : unit.refunds.map (fun r => (r.amount, r.createdAt, r.settledAt)) =
    life.refund.toList.map fun r => (inr r.minor, r.createdAt, some r.settledAt)
  adjustments : unit.adjustments.map (fun a => (a.amount, a.effectiveAt)) =
    life.impossibleAdjustment.toList.map (fun a => (inr a.minor, a.effectiveAt)) ++
      noise.routine.map fun entry => (inr entry.2, life.routineAt)
  settlements : (unit.settlements.map fun s => (s.netAmount, s.settlementAt, s.utr)).Perm
    ((life.legs (routineTotal noise.routine)).map fun leg =>
      (inr leg.netMinor, life.settledAt, some leg.utr))
  settlementIds : (unit.settlements.map (·.settlementId)).Nodup
  lines : unit.lines.map (·.amount) =
    (life.legs (routineTotal noise.routine)).map fun leg => inr leg.netMinor
  allLines : unit.lines = unit.settlementLines
  lineSettlements : (unit.lines.map (·.settlementId)).Nodup
  credits : (unit.bankCredits.map fun b => (b.utr, b.amount, b.creditedAt)).Perm
    ((life.legs (routineTotal noise.routine)).map fun leg =>
      (leg.utr, inr leg.netMinor, leg.creditedAt))
  duplicates : unit.duplicates = []

theorem caseUnit_of_delivered {life : Lifecycle} {noise : Noise} {unit : ReconciliationUnit}
    (h : DeliveredUnit (life.delivery noise)
      (paymentContent life.refs life.grossMinor life.method life.capturedAt) unit) :
    CaseUnit life noise unit where
  amount := h.amount
  method := h.method
  status := h.status
  authorizedAt := h.authorizedAt
  capturedAt := h.capturedAt
  fees := by
    rw [h.fees, Lifecycle.delivery, Lifecycle.feeContents, halves]
    cases life.feeRecordsPresent <;> cases noise.feesSplit <;> rfl
  taxes := by
    rw [h.taxes, Lifecycle.delivery, Lifecycle.taxContents, halves]
    cases life.feeRecordsPresent <;> cases noise.feesSplit <;> rfl
  refunds := by
    rw [h.refunds, Lifecycle.delivery, Lifecycle.refundContents, List.map_map]
    rfl
  adjustments := by
    rw [h.adjustments, Lifecycle.delivery]
    have hu : life.unallocatedContents.filter (·.settlementId.isSome) = [] := by
      refine List.filter_eq_nil_iff.2 fun a ha => ?_
      obtain ⟨x, -, rfl⟩ := List.mem_map.1 ha
      exact nofun
    have hi : life.impossibleContents.filter (·.settlementId.isSome) =
        life.impossibleContents := by
      refine List.filter_eq_self.2 fun a ha => ?_
      obtain ⟨x, -, rfl⟩ := List.mem_map.1 ha
      rfl
    have hr : (life.routineContents noise.routine).filter (·.settlementId.isSome) =
        life.routineContents noise.routine := by
      refine List.filter_eq_self.2 fun a ha => ?_
      obtain ⟨x, -, rfl⟩ := List.mem_map.1 ha
      rfl
    rw [List.filter_append, List.filter_append, hu, hi, hr, List.nil_append, List.map_append,
      Lifecycle.impossibleContents, Lifecycle.routineContents, List.map_map, List.map_map]
    rfl
  settlements := by
    have hperm := h.settlements
    rwa [Lifecycle.delivery, List.map_map] at hperm
  settlementIds := h.settlementIds
  lines := by
    rw [h.lines, Lifecycle.delivery, List.map_map]
    rfl
  allLines := h.allLines
  lineSettlements := h.lineSettlements
  credits := by
    have hperm := h.credits
    rwa [Lifecycle.delivery, List.map_map] at hperm
  duplicates := h.duplicates

/-- **The unit of a case.**  Whatever noise its records carry, whatever ids they are stored
under, the unit of its payment has the amounts and times of its lifecycle. -/
theorem loadCase {parseDate : String → Option Date} (h : ReadsISO parseDate)
    {recordId : Nat → String} (hrecordId : Function.Injective recordId) (ctx : RequestContext)
    (ingestedAt : Date) (importId : String) (life : Lifecycle) (noise : Noise) :
    ∃ unit, loadImported parseDate ctx recordId ingestedAt importId (noisyRecords life noise)
        life.refs.payment = some unit ∧ CaseUnit life noise unit := by
  have habout := delivery_aboutPayment life noise
  rw [← delivery_eq h] at habout
  obtain ⟨unit, hload, hunit⟩ := loadImported_delivered hrecordId ctx ingestedAt importId
    (contents_nodup life noise h) habout
  rw [delivery_eq h] at hunit
  exact ⟨unit, hload, caseUnit_of_delivered hunit⟩

end SettlementOps.Generator
