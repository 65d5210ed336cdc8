import SettlementOps.Tools.Contracts
import SettlementOps.Verification.Gate

/-!
# The evidence tools

Each tool reads the unit of the case under investigation and returns a bounded slice of
it.

* `searchRelatedAdjustments` — the adjustments, and whether each is allocated.
* `calculateExpectedNetAmount` — the arithmetic shown to the agent.
* `unexplained_amounts_agree` — the amount it shows, the amount the verifier judges by
  and the amount the case is filed under are one.
-/

namespace SettlementOps

/-- How a tool reaches a unit; nothing when the payment is not in the merchant's scope. -/
abbrev UnitLoader := ToolContext → Option ReconciliationUnit

def withUnit (loadUnit : UnitLoader) (ctx : ToolContext) (name : ToolName)
    (fn : ReconciliationUnit → ToolResult) : ToolResult :=
  match loadUnit ctx with
  | none => toolError (some name) "no such payment in this merchant scope"
  | some unit => fn unit

def MAX_RECORDS : Nat := 50

/-- No tool shows more than so many records. -/
def cap {α : Type} (items : List α) : List α := items.take MAX_RECORDS

/-- What `search_related_adjustments` shows of an adjustment. -/
def adjustmentEntry (a : AdjustmentRecord) : Row :=
  [ ("reference", .str a.reference),
    ("reason_code", .str a.reasonCode),
    ("amount_minor", .str (toString a.amount.amountMinor)),
    ("effective_at", .str (Calendar.toISOString a.effectiveAt)),
    ("allocated_to_settlement", .bool (a.settlementId != none)) ]

/-- `search_related_adjustments`: adjustments, including whether each is allocated. -/
def searchRelatedAdjustments (loadUnit : UnitLoader) (ctx : ToolContext) : ToolResult :=
  withUnit loadUnit ctx .searchRelatedAdjustments fun unit =>
    let adjustments := (cap unit.adjustments).map adjustmentEntry
    toolOk .searchRelatedAdjustments
      [("adjustments", .rows adjustments)]
      (if adjustments.length = 0 then "no adjustments relate to this settlement"
      else toString adjustments.length ++ " adjustment(s); note whether each is allocated")
      (unit.adjustments.map (·.id))

/-- `calculate_expected_net_amount`: the arithmetic is done here and not by the model. -/
def calculateExpectedNetAmount (loadUnit : UnitLoader) (ctx : ToolContext) : ToolResult :=
  withUnit loadUnit ctx .calculateExpectedNetAmount fun unit =>
    let settled := unit.lines.foldl (fun total l => total + l.amount.amountMinor) 0
    let scheduled : Option ScheduledFee :=
      match unit.payment.scheduleTime with
      | none => none
      | some time => scheduledFeeFor unit.payment.amount unit.payment.paymentMethod time
    match expectedNetFromRecords unit.expectedNetInput with
    | .error _ =>
        toolError (some .calculateExpectedNetAmount) "expected net could not be computed"
    | .ok observed =>
        let variance := observed.expectedNetMinor - settled
        let scheduledVariance := scheduled.map fun s =>
          toString (unit.payment.amount.amountMinor - s.fee.amountMinor - s.tax.amountMinor -
            settled)
        toolOk .calculateExpectedNetAmount
          [ ("expected_net_from_observed_records_minor",
              .str (toString observed.expectedNetMinor)),
            ("settled_total_minor", .str (toString settled)),
            ("variance_minor", .str (toString variance)),
            ("scheduled_fee_minor",
              .str? (scheduled.map fun s => toString s.fee.amountMinor)),
            ("scheduled_tax_minor",
              .str? (scheduled.map fun s => toString s.tax.amountMinor)),
            ("schedule_id", .str? (scheduled.map (·.scheduleId))),
            ("variance_if_scheduled_fee_applied_minor", .str? scheduledVariance) ]
          ("variance " ++ toString variance ++ " minor units against observed records")
          [unit.payment.id]

theorem settled_foldl_eq (unit : ReconciliationUnit) :
    unit.lines.foldl (fun total l => total + l.amount.amountMinor) 0 = unit.settledMinor := by
  rw [foldl_add_eq, zero_add, ReconciliationUnit.settledMinor, Money.total, List.map_map]
  rfl

/-- The tool shows the unexplained amount where there is one. -/
theorem calculateExpectedNetAmount_of_sound {loadUnit : UnitLoader} {ctx : ToolContext}
    {unit : ReconciliationUnit} (hload : loadUnit ctx = some unit)
    (h : unit.expectedNetInput.Sound) :
    (calculateExpectedNetAmount loadUnit ctx).ok = true ∧
      (calculateExpectedNetAmount loadUnit ctx).data.field? "variance_minor" =
        some (.str (toString unit.unexplained)) := by
  obtain ⟨b, hb⟩ := expectedNetFromRecords_ok_iff.2 h
  unfold calculateExpectedNetAmount withUnit
  rw [hload]
  simp only [hb, settled_foldl_eq, expectedNet_eq_net hb]
  exact ⟨rfl, rfl⟩

theorem calculateExpectedNetAmount_of_not_sound {loadUnit : UnitLoader} {ctx : ToolContext}
    {unit : ReconciliationUnit} (hload : loadUnit ctx = some unit)
    (h : ¬ unit.expectedNetInput.Sound) :
    calculateExpectedNetAmount loadUnit ctx =
      toolError (some .calculateExpectedNetAmount) "expected net could not be computed" := by
  obtain ⟨e, he⟩ := expectedNetFromRecords_error_of_not_sound h
  unfold calculateExpectedNetAmount withUnit
  rw [hload]
  simp only [he]

/-- **One unexplained amount.**  In one currency the discrepancy of the baseline, the
variance of the verifier and the `variance_minor` of the tool are the same integer
whenever the expected net exists.  Where it does not, in one currency or several, the
baseline files an exception, the verifier resolves nothing and the tool fails. -/
theorem unexplained_amounts_agree (loadUnit : UnitLoader) (ctx : ToolContext)
    (unit : ReconciliationUnit) (hload : loadUnit ctx = some unit) :
    (unit.SingleCurrency → (∃ b, expectedNetFromRecords unit.expectedNetInput = .ok b) →
      ∃ amount : Int,
        (reconcileUnit unit).discrepancy.amountMinor = amount ∧
        variance unit = some amount ∧
        (calculateExpectedNetAmount loadUnit ctx).ok = true ∧
        (calculateExpectedNetAmount loadUnit ctx).data.field? "variance_minor" =
          some (.str (toString amount))) ∧
    ((¬ ∃ b, expectedNetFromRecords unit.expectedNetInput = .ok b) →
      (reconcileUnit unit).outcome = .exception ∧
        (∀ proposal, (verify proposal unit).effectiveDisposition ≠ .resolve) ∧
        (calculateExpectedNetAmount loadUnit ctx).ok = false ∧
        (calculateExpectedNetAmount loadUnit ctx).error =
          some "expected net could not be computed") := by
  rw [expectedNetFromRecords_ok_iff]
  constructor
  · intro hcur hs
    obtain ⟨hok, hfield⟩ := calculateExpectedNetAmount_of_sound hload hs
    exact ⟨unit.unexplained, by rw [discrepancy_eq_unexplained hs hcur], variance_eq hs, hok,
      hfield⟩
  · intro hs
    refine ⟨exception_of_not_sound hs, fun proposal hp => ?_, ?_, ?_⟩
    · exact hs (expectedNetFromRecords_ok_iff.1 (verify_eq_resolve_iff.1 hp).2.computable)
    · rw [calculateExpectedNetAmount_of_not_sound hload hs]
      rfl
    · rw [calculateExpectedNetAmount_of_not_sound hload hs]
      rfl

/-- The sample unit with its fee in another currency. -/
def foreignFeeUnit : ReconciliationUnit :=
  { sampleUnit with
    fees := sampleUnit.fees.map fun fee => { fee with amount := ⟨fee.amount.amountMinor, "USD"⟩ } }

/-- On the sample unit, loaded for every context, all three amounts are zero; with its fee in
another currency there is none. -/
theorem unexplained_amounts_agree_sampleUnit :
    ((reconcileUnit sampleUnit).discrepancy.amountMinor = 0 ∧
      variance sampleUnit = some 0 ∧
      (calculateExpectedNetAmount (fun _ => some sampleUnit) ⟨⟨"m-1"⟩, "pay-1"⟩).ok = true ∧
      (calculateExpectedNetAmount (fun _ => some sampleUnit) ⟨⟨"m-1"⟩, "pay-1"⟩).data.field?
        "variance_minor" = some (.str "0")) ∧
    (reconcileUnit foreignFeeUnit).outcome = .exception ∧
      (∀ proposal, (verify proposal foreignFeeUnit).effectiveDisposition ≠ .resolve) ∧
      (calculateExpectedNetAmount (fun _ => some foreignFeeUnit) ⟨⟨"m-1"⟩, "pay-1"⟩).ok = false ∧
      (calculateExpectedNetAmount (fun _ => some foreignFeeUnit) ⟨⟨"m-1"⟩, "pay-1"⟩).error =
        some "expected net could not be computed" := by
  have hcurrency : ∀ m ∈ sampleUnit.comparedAmounts, m.currency = "INR" := by decide
  obtain ⟨amount, hdiscrepancy, hvariance, hok, hfield⟩ :=
    (unexplained_amounts_agree (fun _ => some sampleUnit) ⟨⟨"m-1"⟩, "pay-1"⟩ sampleUnit rfl).1
      (fun m hm => hcurrency m hm) ⟨_, rfl⟩
  have hzero : (reconcileUnit sampleUnit).discrepancy.amountMinor = 0 := by decide
  obtain rfl : amount = 0 := hdiscrepancy.symm.trans hzero
  exact ⟨⟨hzero, hvariance, hok, hfield⟩,
    (unexplained_amounts_agree (fun _ => some foreignFeeUnit) ⟨⟨"m-1"⟩, "pay-1"⟩ foreignFeeUnit
      rfl).2 (by rintro ⟨b, hb⟩; cases hb)⟩

end SettlementOps
