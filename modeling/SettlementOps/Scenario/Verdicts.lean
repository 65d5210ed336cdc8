import SettlementOps.Generator.CaseVerdict
import SettlementOps.Scenario.Batches
import SettlementOps.Store.Isolation
import SettlementOps.Systems.Verdicts

/-!
# What a scenario is found to be

The records of a scenario are those of a lifecycle, so its verdict is read off the lifecycle, like
that of a generated case.

* `ReconciliationUnit.retimed` — adjustments dated otherwise, where it makes no difference.
* `ScenarioDefinition.lifecycle`, `delivery_eq` — a scenario as a lifecycle.
* `Finding`, `finding` — what is to be found of each scenario.
* `Found`, `found_of_delivered` — the verdict and the gate say it of its unit.
-/

namespace SettlementOps

open Calendar

/-! ## The times of adjustments -/

namespace ReconciliationUnit

/-- The unit with its adjustments dated otherwise. -/
def retimed (f : Date → Date) (unit : ReconciliationUnit) : ReconciliationUnit :=
  { unit with
    adjustments := unit.adjustments.map fun a => { a with effectiveAt := f a.effectiveAt } }

section Retimed

variable {f : Date → Date} {unit : ReconciliationUnit}

theorem retimed_amounts :
    (unit.retimed f).adjustments.map (·.amount) = unit.adjustments.map (·.amount) := by
  rw [retimed, List.map_map]
  rfl

theorem retimed_expectedNetInput : (unit.retimed f).expectedNetInput = unit.expectedNetInput := by
  unfold expectedNetInput
  rw [retimed_amounts]
  rfl

theorem retimed_unexplained : (unit.retimed f).unexplained = unit.unexplained := by
  unfold unexplained
  rw [retimed_expectedNetInput]
  rfl

/-- No rule of a cause reads when an adjustment was effective. -/
theorem retimed_causeCondition (cause : CauseCode) :
    (unit.retimed f).CauseCondition cause ↔ unit.CauseCondition cause := by
  cases cause <;> simp only [CauseCondition, retimed_unexplained] <;> rfl

theorem retimed_discrepancy :
    (reconcileUnit (unit.retimed f)).discrepancy = (reconcileUnit unit).discrepancy := by
  unfold reconcileUnit breakdownFor
  dsimp only
  rw [retimed_expectedNetInput]
  rfl

variable (hf : ∀ a ∈ unit.adjustments, ∀ s ∈ unit.settlements,
  adjustmentCanExplainSettlement (f a.effectiveAt) s.settlementAt =
    adjustmentCanExplainSettlement a.effectiveAt s.settlementAt)
include hf

theorem retimed_adjustmentsPossible :
    (unit.retimed f).AdjustmentsPossible ↔ unit.AdjustmentsPossible := by
  unfold AdjustmentsPossible
  refine imp_congr_right fun _ => ?_
  rw [retimed]
  simp only [List.forall_mem_map]
  refine forall₂_congr fun a ha => ?_
  exact exists_congr fun s => and_congr_right fun hs => by rw [hf a ha s hs]

/-- No check reads of an adjustment more than its amount and whether it can explain a
settlement. -/
theorem retimed_failures :
    (checksOf (unit.retimed f)).map (·.failure) = (checksOf unit).map (·.failure) := by
  have hcurrency : checkCurrencyConsistency (unit.retimed f) = checkCurrencyConsistency unit := by
    unfold checkCurrencyConsistency comparedAmounts
    rw [retimed_amounts]
    rfl
  have hconservation : checkAmountConservation (unit.retimed f) (breakdownFor (unit.retimed f)) =
      checkAmountConservation unit (breakdownFor unit) := by
    unfold breakdownFor
    rw [retimed_expectedNetInput]
    rfl
  have hadjustments : (checkAdjustmentTiming (unit.retimed f)).failure =
      (checkAdjustmentTiming unit).failure := by
    have hpossible : (checkAdjustmentTiming (unit.retimed f)).failure = none ↔
        (checkAdjustmentTiming unit).failure = none := by
      rw [checkAdjustmentTiming_passes_iff, checkAdjustmentTiming_passes_iff]
      exact retimed_adjustmentsPossible hf
    have htwo := checkAdjustmentTiming_failure (unit.retimed f)
    have htwo' := checkAdjustmentTiming_failure unit
    simp only [List.mem_cons, List.not_mem_nil, or_false] at htwo htwo'
    rcases htwo with h | h <;> rcases htwo' with h' | h' <;> simp_all
  have hbank : (checkBankCredit (unit.retimed f)).failure = (checkBankCredit unit).failure := by
    rw [checkBankCredit_failure, checkBankCredit_failure]
    rfl
  simp only [checksOf, List.map_cons, List.map_nil, hcurrency, hconservation, hadjustments, hbank]
  rfl

end Retimed

end ReconciliationUnit

namespace Scenario

open Generator

/-! ## A scenario as a lifecycle -/

namespace ScenarioDefinition

/-- The lifecycle the records of a scenario tell of. -/
def lifecycle (definition : ScenarioDefinition) (r : Refs) : Lifecycle :=
  let fees := scheduledFeeAndTax definition.grossMinor definition.paymentMethod CAPTURED_AT
  { refs := r
    grossMinor := definition.grossMinor
    method := definition.paymentMethod
    capturedAt := CAPTURED_AT
    feeMinor := fees.fee
    taxMinor := fees.tax
    feeRecordsPresent := definition.id ≠ .feeTaxDiscrepancy
    settledAt := SETTLED_AT
    netMinor := definition.grossMinor - fees.fee - fees.tax
    unexplainedMinor := match definition.id with
      | .ambiguousAdjustment => -50_000
      | .misleadingAdjustment => 50_000
      | _ => 0
    split := definition.id = .splitSettlement
    splitCreditLateHours := 72
    refund :=
      if definition.id = .refundNetting then some ⟨100_000, REFUND_CREATED_AT, REFUND_SETTLED_AT⟩
      else none
    unallocatedAdjustmentMinor := none
    impossibleAdjustment :=
      if definition.id = .misleadingAdjustment then
        some ⟨-50_000, IMPLAUSIBLE_ADJUSTMENT_AT, "ADJ_LATE"⟩
      else none }

/-- The two adjustments that could each account for the shortfall. -/
def noise (definition : ScenarioDefinition) : Noise :=
  { Noise.none with
    routine :=
      if definition.id = .ambiguousAdjustment then [(0, -50_000), (1, -50_000)] else []
    distinct := by split <;> decide
    nonzero := by split <;> decide }

/-- What the settlements pay out. -/
def paid (definition : ScenarioDefinition) : Int :=
  let fees := scheduledFeeAndTax definition.grossMinor definition.paymentMethod CAPTURED_AT
  let cleanNet := definition.grossMinor - fees.fee - fees.tax
  match definition.id with
  | .ambiguousAdjustment | .misleadingAdjustment => cleanNet - 50_000
  | _ => cleanNet

/-- The settlements, and how each was paid out. -/
def legs (definition : ScenarioDefinition) (r : Refs) : List Leg :=
  let net := definition.paid
  if definition.id = .splitSettlement then
    [ ⟨definition.grossMinor.tdiv 2, net.tdiv 2, r.settlement, r.utr, "sl_" ++ r.suffix,
        "bc_" ++ r.suffix, "REF_" ++ r.suffix, CREDITED_AT⟩,
      ⟨definition.grossMinor - definition.grossMinor.tdiv 2, net - net.tdiv 2,
        r.settlement ++ "_b", r.utr ++ "B", "sl_" ++ r.suffix ++ "_b", r.suffix ++ "_b",
        "REF_" ++ (r.suffix ++ "_b"), LATE_CREDIT_AT⟩ ]
  else
    [ ⟨definition.grossMinor, net, r.settlement, r.utr, "sl_" ++ r.suffix, "bc_" ++ r.suffix,
        "REF_" ++ r.suffix, CREDITED_AT⟩ ]

end ScenarioDefinition

def refundContent (r : Refs) (refund : LifecycleRefund) : RefundRecord :=
  { Generator.refundContent r refund.minor refund.createdAt refund.settledAt with
    toRecordBase := contentBase "gateway" ("ref_" ++ r.suffix) refund.createdAt
    refundId := "ref_" ++ r.suffix }

def adjustmentContent (r : Refs) (reference reason id : String) (minor : Int)
    (effectiveAt : Date) : AdjustmentRecord :=
  { Generator.adjustmentContent (some r.settlement) reference reason id minor effectiveAt with
    toRecordBase := contentBase "gateway" id effectiveAt }

namespace ScenarioDefinition

def adjustmentContents (definition : ScenarioDefinition) (r : Refs) : List AdjustmentRecord :=
  match definition.id with
  | .ambiguousAdjustment =>
      [ adjustmentContent r ("ADJ_A_" ++ r.suffix) "CHARGEBACK_PROVISION" ("adj_a_" ++ r.suffix)
          (-50_000) SETTLED_AT,
        adjustmentContent r ("ADJ_B_" ++ r.suffix) "RESERVE_HOLD" ("adj_b_" ++ r.suffix)
          (-50_000) SETTLED_AT ]
  | .misleadingAdjustment =>
      [ adjustmentContent r ("ADJ_LATE_" ++ r.suffix) "MANUAL_CORRECTION"
          ("adj_late_" ++ r.suffix) (-50_000) IMPLAUSIBLE_ADJUSTMENT_AT ]
  | _ => []

/-- What the records of a scenario deliver. -/
def delivery (definition : ScenarioDefinition) (r : Refs) : Delivery where
  payments := [paymentContent r definition.grossMinor definition.paymentMethod CAPTURED_AT]
  fees := (definition.lifecycle r).feeContents false
  taxes := (definition.lifecycle r).taxContents false
  refunds := (definition.lifecycle r).refund.toList.map (refundContent r)
  adjustments := definition.adjustmentContents r
  settlements := (definition.legs r).map fun leg =>
    settlementContent leg.grossMinor leg.netMinor SETTLED_AT leg.id leg.utr
  lines := (definition.legs r).map fun leg =>
    lineContent r leg.netMinor SETTLED_AT leg.id leg.lineId
  credits := (definition.legs r).map fun leg =>
    creditContent leg.netMinor leg.creditedAt leg.utr leg.creditId leg.reference

end ScenarioDefinition

/-- The fee and the tax are the scheduled ones. -/
theorem feeAndTax_eq (definition : ScenarioDefinition) (r : Refs) :
    let fees := scheduledFeeAndTax definition.grossMinor definition.paymentMethod CAPTURED_AT
    feeAndTax definition r =
      ⟨fees.fee, fees.tax, feeRecords r fees.fee fees.tax CAPTURED_AT⟩ := by
  have hschedule : scheduleAt CAPTURED_AT = some feeScheduleV1 := rfl
  have hperiod : ∀ tax, (taxLine r tax CAPTURED_AT).period = "2026-02" := fun _ => by
    simp only [taxLine]
    decide
  unfold feeAndTax scheduledFeeAndTax feeRecords
  rw [hschedule]
  dsimp only
  rw [← hperiod 0]
  rfl

section Contents

variable {parseDate : String → Option Date} (h : ReadsISO parseDate) (r : Refs)
include h

theorem dtoContent_payment (definition : ScenarioDefinition) :
    dtoContent parseDate (paymentRecord definition r) =
      some (.payment
        (paymentContent r definition.grossMinor definition.paymentMethod CAPTURED_AT)) :=
  Generator.dtoContent_payment h r definition.grossMinor definition.paymentMethod CAPTURED_AT

theorem dtoContent_settlement (grossMinor netMinor : Int) (id utr : String) :
    dtoContent parseDate (.settlement (settlementRecord r grossMinor netMinor id utr)) =
      some (.settlement (settlementContent grossMinor netMinor SETTLED_AT id utr)) :=
  Generator.dtoContent_settlement h r grossMinor netMinor SETTLED_AT id utr

theorem dtoContent_settlementLine (amountMinor : Int) (settlementId id : String) :
    dtoContent parseDate (.settlementLine (settlementLine r amountMinor settlementId id)) =
      some (.settlementLine (lineContent r amountMinor SETTLED_AT settlementId id)) :=
  Generator.dtoContent_settlementLine h r amountMinor SETTLED_AT settlementId id

theorem dtoContent_bankCredit (amountMinor : Int) (utr : String) (id : Option String)
    (creditedAt : Date) :
    dtoContent parseDate (.bankCredit (bankCredit r amountMinor utr id creditedAt)) =
      some (.bankCredit (creditContent amountMinor creditedAt utr (id.getD ("bc_" ++ r.suffix))
        ("REF_" ++ id.getD r.suffix))) :=
  Generator.dtoContent_bankCredit h r amountMinor creditedAt utr id

theorem dtoContent_refund (amountMinor : Int) :
    dtoContent parseDate (.refund (refundRecord r amountMinor)) =
      some (.refund
        (refundContent r ⟨amountMinor, REFUND_CREATED_AT, REFUND_SETTLED_AT⟩)) := by
  rw [dtoContent_lineage h "gateway" ("ref_" ++ r.suffix) REFUND_CREATED_AT rfl]
  simp only [refundRecord, normalizeKind, toMoney_money, toDate_iso h, optionalDate_iso h]
  rfl

theorem dtoContent_adjustment (reference : String) (amountMinor : Int) (effectiveAt : Date)
    (reasonCode id : String) :
    dtoContent parseDate
        (.adjustment (adjustment r reference amountMinor effectiveAt reasonCode id)) =
      some (.adjustment
        (adjustmentContent r reference reasonCode id amountMinor effectiveAt)) := by
  rw [dtoContent_lineage h "gateway" id effectiveAt rfl]
  simp only [adjustment, normalizeKind, toMoney_money, toDate_iso h]
  rfl

theorem contents_fees (fee tax : Int) :
    contentsOf parseDate (feeRecords r fee tax CAPTURED_AT) =
      [.feeLine (feeContent r ("fee_" ++ r.suffix) "MDR" fee CAPTURED_AT),
        .taxLine (taxContent r ("tax_" ++ r.suffix) tax CAPTURED_AT)] :=
  contentsOf_pair (dtoContent_feeLine h r ("fee_" ++ r.suffix) "MDR" fee CAPTURED_AT)
    (dtoContent_taxLine h r ("tax_" ++ r.suffix) tax CAPTURED_AT)

theorem contents_settled (definition : ScenarioDefinition) (net : Int) :
    contentsOf parseDate (settledAtOnce definition r net) =
      [.settlement (settlementContent definition.grossMinor net SETTLED_AT r.settlement r.utr),
        .settlementLine (lineContent r net SETTLED_AT r.settlement ("sl_" ++ r.suffix)),
        .bankCredit (creditContent net CREDITED_AT r.utr ("bc_" ++ r.suffix)
          ("REF_" ++ r.suffix))] := by
  simp only [contentsOf, settledAtOnce, List.filterMap_cons, List.filterMap_nil,
    dtoContent_settlement h, dtoContent_settlementLine h, dtoContent_bankCredit h, Option.getD_none]

/-- **What the records of a scenario deliver.** -/
theorem delivery_eq (definition : ScenarioDefinition) :
    deliveryOf (contentsOf parseDate (scenarioRecords definition r)) = definition.delivery r := by
  have hpayment : ∀ rest, contentsOf parseDate (paymentRecord definition r :: rest) =
      .payment (paymentContent r definition.grossMinor definition.paymentMethod CAPTURED_AT) ::
        contentsOf parseDate rest := fun rest => by
    rw [contentsOf, List.filterMap_cons_some (dtoContent_payment h r definition)]
    rfl
  obtain ⟨id, grossMinor, paymentMethod, expectedCause, expectsException⟩ := definition
  unfold scenarioRecords
  rw [hpayment, feeAndTax_eq]
  cases id with
  | cleanSettlement =>
      dsimp only
      rw [contentsOf_append, contents_fees h, contents_settled h]
      rfl
  | feeTaxDiscrepancy =>
      dsimp only
      rw [contents_settled h]
      rfl
  | splitSettlement =>
      dsimp only
      rw [contentsOf_append, contents_fees h]
      simp only [contentsOf, List.filterMap_cons, List.filterMap_nil, dtoContent_settlement h,
        dtoContent_settlementLine h, dtoContent_bankCredit h]
      rfl
  | refundNetting =>
      dsimp only
      rw [contentsOf_append, contents_fees h, contentsOf,
        List.filterMap_cons_some (dtoContent_refund h r 100_000), ← contentsOf, contents_settled h]
      rfl
  | ambiguousAdjustment =>
      dsimp only
      rw [contentsOf_append, contentsOf_append, contents_fees h, contents_settled h,
        contentsOf_pair (dtoContent_adjustment h r _ _ _ _ _)
          (dtoContent_adjustment h r _ _ _ _ _)]
      rfl
  | misleadingAdjustment =>
      dsimp only
      rw [contentsOf_append, contentsOf_append, contents_fees h, contents_settled h, contentsOf,
        List.filterMap_cons_some (dtoContent_adjustment h r _ _ _ _ _)]
      rfl

end Contents

theorem scenarioRecords_kind (definition : ScenarioDefinition) (r : Refs) :
    ∀ dto ∈ scenarioRecords definition r, dto.kind ≠ .order ∧ dto.kind ≠ .ledgerEntry := by
  obtain ⟨id, grossMinor, paymentMethod, expectedCause, expectsException⟩ := definition
  unfold scenarioRecords
  cases id <;>
    simp [paymentRecord, feeAndTax_eq, feeRecords, settledAtOnce, FinancialRecordDto.kind]

section About

variable (definition : ScenarioDefinition) (r : Refs)

theorem legs_nodup : ((definition.legs r).map (·.id)).Nodup ∧
    ((definition.legs r).map (·.lineId)).Nodup ∧ ((definition.legs r).map (·.creditId)).Nodup := by
  have hid := append_ne_self (s := r.settlement) (t := "_b") (by decide)
  have hline := append_ne_self (s := "sl_" ++ r.suffix) (t := "_b") (by decide)
  have hcredit : "bc_" ++ r.suffix ≠ r.suffix ++ "_b" := fun heq => by
    have hlength := congrArg String.length heq
    rw [String.length_append, String.length_append] at hlength
    have hlonger : "bc_".length = "_b".length + 1 := by decide
    omega
  unfold ScenarioDefinition.legs
  dsimp only
  split
  · refine ⟨?_, ?_, ?_⟩ <;> simp [hid.symm, hline.symm, hcredit]
  · simp

theorem delivery_distinctSources : (definition.delivery r).DistinctSources where
  payments := List.nodup_singleton _
  fees := by
    simp only [ScenarioDefinition.delivery, Lifecycle.feeContents]
    split <;> simp
  taxes := by
    simp only [ScenarioDefinition.delivery, Lifecycle.taxContents]
    split <;> simp
  refunds := by
    simp only [ScenarioDefinition.delivery]
    cases (definition.lifecycle r).refund <;> simp
  adjustments := by
    have hab : "adj_a_" ++ r.suffix ≠ "adj_b_" ++ r.suffix := fun heq => by
      simpa using congrArg String.toList heq
    simp only [ScenarioDefinition.delivery, ScenarioDefinition.adjustmentContents]
    split <;> simp [RecordBase.source, adjustmentContent, contentBase, hab]
  settlements := by
    rw [ScenarioDefinition.delivery, List.map_map]
    exact (legs_nodup definition r).1
  lines := by
    rw [ScenarioDefinition.delivery, List.map_map]
    exact (legs_nodup definition r).2.1
  credits := by
    rw [ScenarioDefinition.delivery, List.map_map]
    exact (legs_nodup definition r).2.2

/-- Every reference leads to the payment of the scenario. -/
theorem delivery_aboutPayment :
    AboutPayment (definition.delivery r)
      (paymentContent r definition.grossMinor definition.paymentMethod CAPTURED_AT) where
  payment := rfl
  fees := by
    simp only [ScenarioDefinition.delivery, Lifecycle.feeContents]
    split <;> simp [RecordBase.source, feeContent, paymentContent, contentBase,
      ScenarioDefinition.lifecycle]
  taxes := by
    simp only [ScenarioDefinition.delivery, Lifecycle.feeContents, Lifecycle.taxContents]
    split <;> simp [RecordBase.source, feeContent, taxContent, contentBase,
      ScenarioDefinition.lifecycle]
  refunds := by
    simp [ScenarioDefinition.delivery, refundContent, Generator.refundContent, paymentContent,
      RecordBase.source, contentBase]
  lines := by
    intro l hl
    obtain ⟨leg, hleg, rfl⟩ := List.mem_map.1 hl
    exact ⟨rfl, _, List.mem_map_of_mem hleg, rfl⟩
  oneLine := by
    rw [ScenarioDefinition.delivery, List.map_map]
    exact (legs_nodup definition r).1
  settlements := by
    intro s hs
    obtain ⟨leg, hleg, rfl⟩ := List.mem_map.1 hs
    exact ⟨_, List.mem_map_of_mem hleg, rfl⟩
  adjustments := by
    have hfirst : ∃ s ∈ (definition.delivery r).settlements, r.settlement = s.source := by
      obtain ⟨leg, hleg, hid⟩ : ∃ leg ∈ definition.legs r, leg.id = r.settlement := by
        unfold ScenarioDefinition.legs
        dsimp only
        split <;> exact ⟨_, List.mem_cons_self, rfl⟩
      exact ⟨_, List.mem_map_of_mem hleg, hid.symm⟩
    intro a ha id hid
    have hnamed : a.settlementId = some r.settlement := by
      simp only [ScenarioDefinition.delivery, ScenarioDefinition.adjustmentContents] at ha
      split at ha
      · rcases List.mem_pair.1 ha with rfl | rfl <;> rfl
      · rw [List.mem_singleton.1 ha]
        rfl
      · cases ha
    rw [hnamed] at hid
    cases hid
    exact hfirst
  credits := by
    intro b hb
    obtain ⟨leg, hleg, rfl⟩ := List.mem_map.1 hb
    exact ⟨_, List.mem_map_of_mem hleg, rfl⟩

end About

/-- No two records of a scenario are of one kind and one source record id. -/
theorem contents_nodup {parseDate : String → Option Date} (h : ReadsISO parseDate)
    (definition : ScenarioDefinition) (r : Refs) :
    ((contentsOf parseDate (scenarioRecords definition r)).map (·.asParent)).Nodup := by
  refine Delivery.DistinctSources.nodup ?_ fun rec hrec => ?_
  · rw [delivery_eq h]
    exact delivery_distinctSources definition r
  · obtain ⟨dto, hdto, hrec⟩ := List.mem_filterMap.1 hrec
    have hkind : rec.kind = dto.kind := congrArg Prod.fst (dtoContent_asParent hrec)
    rw [hkind]
    exact scenarioRecords_kind definition r dto hdto

/-! ## The unit of a scenario -/

/-- The time of a routine adjustment, for one that is effective at the settlement. -/
def routineTime (t : Date) : Date :=
  if t = SETTLED_AT then ⟨SETTLED_AT.getTime - 43_200_000⟩ else t

section Unit

variable {definition : ScenarioDefinition} {r : Refs} {unit : ReconciliationUnit}

/-- What counts of a leg for the unit is what the lifecycle says. -/
theorem legs_said (definition : ScenarioDefinition) (r : Refs) :
    (definition.legs r).map (fun leg => (leg.netMinor, leg.utr, leg.creditedAt)) =
      ((definition.lifecycle r).legs (routineTotal definition.noise.routine)).map
        fun leg => (leg.netMinor, leg.utr, leg.creditedAt) := by
  obtain ⟨id, grossMinor, paymentMethod, expectedCause, expectsException⟩ := definition
  have hcredited : CREDITED_AT = plusHours SETTLED_AT 6 := rfl
  have hlate : LATE_CREDIT_AT = plusHours SETTLED_AT 72 := rfl
  unfold ScenarioDefinition.legs Lifecycle.legs
  rw [hcredited, hlate]
  cases id <;>
    simp [ScenarioDefinition.lifecycle, ScenarioDefinition.noise, ScenarioDefinition.paid,
      Lifecycle.paidOut, Lifecycle.secondUtr, routineTotal]
  · omega

theorem legs_map {α : Type} (definition : ScenarioDefinition) (r : Refs)
    (said : Int × String × Date → α) :
    (definition.legs r).map (fun leg => said (leg.netMinor, leg.utr, leg.creditedAt)) =
      ((definition.lifecycle r).legs (routineTotal definition.noise.routine)).map
        fun leg => said (leg.netMinor, leg.utr, leg.creditedAt) := by
  have hsaid := congrArg (List.map said) (legs_said definition r)
  rwa [List.map_map, List.map_map] at hsaid

/-- The unit of a scenario is that of its lifecycle. -/
theorem caseUnit_of_delivered (hu : DeliveredUnit (definition.delivery r)
      (paymentContent r definition.grossMinor definition.paymentMethod CAPTURED_AT) unit) :
    CaseUnit (definition.lifecycle r) definition.noise (unit.retimed routineTime) := by
  refine Generator.caseUnit_of_delivered ?_
  exact {
    amount := hu.amount
    method := hu.method
    status := hu.status
    authorizedAt := hu.authorizedAt
    capturedAt := hu.capturedAt
    fees := hu.fees
    taxes := hu.taxes
    refunds := by
      refine hu.refunds.trans ?_
      simp only [ScenarioDefinition.delivery, Lifecycle.delivery, Lifecycle.refundContents,
        List.map_map]
      rfl
    adjustments := by
      have hat := congrArg (List.map (Prod.map id routineTime)) hu.adjustments
      rw [List.map_map, List.map_map] at hat
      rw [ReconciliationUnit.retimed, List.map_map]
      refine hat.trans ?_
      obtain ⟨id, grossMinor, paymentMethod, expectedCause, expectsException⟩ := definition
      cases id <;> rfl
    settlements := by
      refine hu.settlements.trans (List.Perm.of_eq ?_)
      simp only [ScenarioDefinition.delivery, Lifecycle.delivery, List.map_map]
      exact legs_map definition r fun x => (inr x.1, SETTLED_AT, some x.2.1)
    settlementIds := hu.settlementIds
    lines := by
      refine hu.lines.trans ?_
      simp only [ScenarioDefinition.delivery, Lifecycle.delivery, List.map_map]
      exact legs_map definition r fun x => inr x.1
    allLines := hu.allLines
    lineSettlements := hu.lineSettlements
    credits := by
      refine hu.credits.trans (List.Perm.of_eq ?_)
      simp only [ScenarioDefinition.delivery, Lifecycle.delivery, List.map_map]
      exact legs_map definition r fun x => (x.2.1, inr x.1, x.2.2)
    duplicates := hu.duplicates }

theorem lifecycle_sound (hdef : definition ∈ SCENARIOS) : (definition.lifecycle r).Sound where
  gross := by
    have hgross : ∀ definition ∈ SCENARIOS, 0 ≤ definition.grossMinor := by decide
    exact hgross definition hdef
  fee := rfl
  tax := rfl
  net := rfl
  refund := by
    intro refund hrefund
    simp only [ScenarioDefinition.lifecycle, Option.mem_def,
      Option.ite_none_right_eq_some] at hrefund
    obtain ⟨-, hrefund⟩ := hrefund
    cases hrefund
    decide
  window := by
    change (businessDaysBefore SETTLED_AT ADJUSTMENT_ACCRUAL_WINDOW_BUSINESS_DAYS).isSome = true
    decide

end Unit

/-! ## What is found -/

/-- What a verdict is to say, and the causes a proposal can be resolved with. -/
structure Finding where
  reasons : List ResidualReason
  discrepancyMinor : Int
  causes : List CauseCode

def ScenarioId.finding : ScenarioId → Finding
  | .cleanSettlement => ⟨[], 0, [.mdrFee, .timingLag, .roundingDrift]⟩
  | .feeTaxDiscrepancy => ⟨[.missingFeeRecord, .netAmountMismatch], 29_500, [.mdrFee]⟩
  | .splitSettlement =>
      ⟨[.bankCreditTimingOutsideWindow], 0, [.mdrFee, .utrSplit, .timingLag, .roundingDrift]⟩
  | .refundNetting => ⟨[.netAmountMismatch, .refundOutsideNettingWindow], -100_000, []⟩
  | .ambiguousAdjustment => ⟨[.netAmountMismatch], -50_000, []⟩
  | .misleadingAdjustment => ⟨[.lifecycleInconsistent], 0, []⟩

instance (life : Lifecycle) : (cause : CauseCode) → Decidable (life.Supports cause)
  | .mdrFee => inferInstanceAs (Decidable (_ ∧ _))
  | .utrSplit => inferInstanceAs (Decidable (_ ∧ _))
  | .timingLag => inferInstanceAs (Decidable (_ ≤ _))
  | .roundingDrift => inferInstanceAs (Decidable (_ ≤ _))
  | .refundNetting => inferInstanceAs (Decidable (_ ∧ _))
  | .ambiguous => inferInstanceAs (Decidable False)
  | .compound => inferInstanceAs (Decidable False)

/-- **The lifecycles of the catalog** come to what is to be found, under any identifiers. -/
theorem lifecycle_finding {definition : ScenarioDefinition} (hdef : definition ∈ SCENARIOS)
    (r : Refs) :
    let life := definition.lifecycle r
    (life.failures.filterMap id).eraseDups = definition.id.finding.reasons ∧
      life.discrepancy = definition.id.finding.discrepancyMinor ∧
      ∀ cause, ¬ life.Trapped ∧ life.Supports cause ↔ cause ∈ definition.id.finding.causes := by
  have hcatalog : ∀ definition ∈ SCENARIOS,
      let life := definition.lifecycle ⟨"", "", "", ""⟩
      (life.failures.filterMap id).eraseDups = definition.id.finding.reasons ∧
        life.discrepancy = definition.id.finding.discrepancyMinor ∧
        ∀ cause ∈ CAUSE_CODES,
          (¬ life.Trapped ∧ life.Supports cause ↔ cause ∈ definition.id.finding.causes) := by
    decide +kernel
  obtain ⟨hreasons, hdiscrepancy, hcauses⟩ := hcatalog definition hdef
  exact ⟨hreasons, hdiscrepancy, fun cause => hcauses cause (by cases cause <;> decide)⟩

/-- The verdict and the gate say of a unit what is to be found of a scenario. -/
structure Found (definition : ScenarioDefinition) (unit : ReconciliationUnit) : Prop where
  outcome : (reconcileUnit unit).outcome = .exception ↔ definition.expectsException = true
  reasons : (reconcileUnit unit).reasons = definition.id.finding.reasons
  discrepancy : (reconcileUnit unit).discrepancy = inr definition.id.finding.discrepancyMinor
  causes : ∀ cause, (∃ proposal : Proposal, proposal.cause = cause ∧
      (verify proposal unit).effectiveDisposition = .resolve) ↔
    cause ∈ definition.id.finding.causes

section Found

variable {definition : ScenarioDefinition} {r : Refs} {unit : ReconciliationUnit}

/-- The adjustments of a scenario explain what they would as routine ones. -/
theorem routineTime_explains (hu : DeliveredUnit (definition.delivery r)
      (paymentContent r definition.grossMinor definition.paymentMethod CAPTURED_AT) unit) :
    ∀ a ∈ unit.adjustments, ∀ s ∈ unit.settlements,
      adjustmentCanExplainSettlement (routineTime a.effectiveAt) s.settlementAt =
        adjustmentCanExplainSettlement a.effectiveAt s.settlementAt := by
  intro a _ s hs
  have hat : s.settlementAt = SETTLED_AT := by
    have hmem := hu.settlements.mem_iff.1 (List.mem_map_of_mem hs)
    rw [ScenarioDefinition.delivery, List.map_map] at hmem
    obtain ⟨leg, -, hleg⟩ := List.mem_map.1 hmem
    exact (congrArg (fun x => x.2.1) hleg).symm
  rw [hat, routineTime]
  split
  · rename_i heffective
    rw [heffective]
    decide
  · rfl

theorem found_of_delivered (hdef : definition ∈ SCENARIOS)
    (hu : DeliveredUnit (definition.delivery r)
      (paymentContent r definition.grossMinor definition.paymentMethod CAPTURED_AT) unit) :
    Found definition unit := by
  have hcase := caseUnit_of_delivered hu
  have hsound := lifecycle_sound (r := r) hdef
  have hf := routineTime_explains hu
  obtain ⟨hreasons, hdiscrepancy, hcauses⟩ := lifecycle_finding hdef r
  have hsaid : (reconcileUnit unit).reasons = definition.id.finding.reasons := by
    rw [reasons_eq_failures, ← ReconciliationUnit.retimed_failures hf, hcase.failures_eq hsound,
      hreasons]
  refine ⟨?_, hsaid, ?_, fun cause => ?_⟩
  · have hdesigned : ∀ definition ∈ SCENARIOS,
        definition.id.finding.reasons = [] ↔ definition.expectsException = false := by decide
    have hiff := reconciled_iff_reasons unit
    rw [hsaid, hdesigned definition hdef] at hiff
    cases hexpects : definition.expectsException <;> cases ho : (reconcileUnit unit).outcome <;>
      simp_all
  · rw [← ReconciliationUnit.retimed_discrepancy (f := routineTime), hcase.discrepancy_eq hsound,
      hdiscrepancy]
  · rw [← hcauses cause, ← hcase.adjustmentsPossible_iff hsound,
      ReconciliationUnit.retimed_adjustmentsPossible hf, ← hcase.causeCondition_iff hsound,
      ReconciliationUnit.retimed_causeCondition]
    constructor
    · rintro ⟨proposal, rfl, hresolved⟩
      obtain ⟨-, hsub⟩ := verify_eq_resolve_iff.1 hresolved
      exact ⟨hsub.adjustments, hsub.cause⟩
    · rintro ⟨hpossible, hcause⟩
      have hnet := hcase.sound hsound
      rw [ReconciliationUnit.retimed_expectedNetInput] at hnet
      exact ⟨_, rfl, payment_resolves hnet hpossible hcause⟩

end Found

end Scenario

end SettlementOps
