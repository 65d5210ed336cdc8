import Mathlib.Data.List.GetD
import Mathlib.Data.Nat.Digits.Lemmas
import SettlementOps.Generator.Render
import SettlementOps.Runs.RunReconciliation

/-!
# The records of a scenario

A scenario and a seed make one import: ordinary records of a payment, with no word of what was
done to them.

* `ScenarioDefinition`, `SCENARIOS` — the catalog.
* `suffix`, `refs` — the identifiers of a seed that a double holds exactly.
* `generateScenarioBatch` — the import of a scenario.
* `suffix_natCast`, `suffix_eq_iff` — the suffix is the last six digits of the seed in base 36.
-/

namespace SettlementOps.Scenario

open Calendar Generator

/-! ## The catalog -/

inductive ScenarioId
  | cleanSettlement
  | feeTaxDiscrepancy
  | splitSettlement
  | refundNetting
  | ambiguousAdjustment
  | misleadingAdjustment
  deriving DecidableEq, Repr

def ScenarioId.code : ScenarioId → String
  | .cleanSettlement => "clean-settlement"
  | .feeTaxDiscrepancy => "fee-tax-discrepancy"
  | .splitSettlement => "split-settlement"
  | .refundNetting => "refund-netting"
  | .ambiguousAdjustment => "ambiguous-adjustment"
  | .misleadingAdjustment => "misleading-adjustment"

structure ScenarioDefinition where
  id : ScenarioId
  /-- Payment gross in minor units. -/
  grossMinor : Int
  paymentMethod : PaymentMethod
  expectedCause : String
  /-- Whether the scenario is designed not to reconcile cleanly. -/
  expectsException : Bool
  deriving DecidableEq, Repr

def SCENARIOS : List ScenarioDefinition :=
  [ ⟨.cleanSettlement, 1_000_000, .card, "NONE", false⟩,
    ⟨.feeTaxDiscrepancy, 1_000_000, .card, "MDR_FEE", true⟩,
    ⟨.splitSettlement, 1_000_000, .card, "UTR_SPLIT", true⟩,
    ⟨.refundNetting, 1_000_000, .netbanking, "REFUND_NETTING", true⟩,
    ⟨.ambiguousAdjustment, 1_000_000, .card, "AMBIGUOUS", true⟩,
    ⟨.misleadingAdjustment, 1_000_000, .card, "AMBIGUOUS", true⟩ ]

def scenarioById (id : String) : Option ScenarioDefinition := SCENARIOS.find? (·.id.code = id)

/-! ## Times -/

/-- `2026-02-02T10:00:00Z` -/
def CAPTURED_AT : Date := ⟨1_770_026_400_000⟩

/-- `2026-02-02T09:00:00Z` -/
def AUTHORIZED_AT : Date := ⟨1_770_022_800_000⟩

def SETTLED_AT : Date := (expectedSettlementDate CAPTURED_AT).get (by decide)

def CREDITED_AT : Date := ⟨SETTLED_AT.getTime + 6 * 3_600_000⟩

/-- Deliberately outside any accrual window. -/
def IMPLAUSIBLE_ADJUSTMENT_AT : Date := ⟨SETTLED_AT.getTime + 30 * 86_400_000⟩

/-- Late enough to fail the lag check. -/
def LATE_CREDIT_AT : Date := ⟨SETTLED_AT.getTime + 3 * 86_400_000⟩

/-- `2026-02-03T12:00:00Z` -/
def REFUND_CREATED_AT : Date := ⟨1_770_120_000_000⟩

/-- `2026-02-20T00:00:00Z` -/
def REFUND_SETTLED_AT : Date := ⟨1_771_545_600_000⟩

example : [CAPTURED_AT, AUTHORIZED_AT, REFUND_CREATED_AT, REFUND_SETTLED_AT].map iso =
    ["2026-02-02T10:00:00.000Z", "2026-02-02T09:00:00.000Z", "2026-02-03T12:00:00.000Z",
      "2026-02-20T00:00:00.000Z"] := by decide

/-! ## Identifiers -/

/-- The digits of a number in base 36. -/
def toBase36 (n : Nat) : List Char :=
  if n = 0 then ['0'] else ((Nat.digits 36 n).map base36Digit).reverse

/-- `seed.toString(36)`, for a seed below `2^53` in magnitude: the text of a larger one has zeros
for the digits a double does not hold. -/
def seedText (seed : Int) : String :=
  String.ofList ((if seed < 0 then ['-'] else []) ++ toBase36 seed.natAbs)

/-- The last six characters of a padded seed. -/
def suffix (seed : Int) : String :=
  let padded := padStart 6 (seedText seed)
  String.ofList (padded.toList.drop (padded.length - 6))

def refs (seed : Int) : Refs :=
  let suffix := suffix seed
  { payment := "pay_" ++ suffix
    settlement := "set_" ++ suffix
    utr := "UTR" ++ String.ofList (suffix.toList.map Char.toUpper)
    suffix }

example : (refs 4242).utr = "UTR00039U" := by decide

theorem length_suffix (seed : Int) : (suffix seed).length = 6 := by
  have hpad : 6 ≤ (padStart 6 (seedText seed)).toList.length := by
    rw [padStart, String.toList_ofList, List.leftpad, List.length_append, List.length_replicate]
    omega
  simp only [suffix, ← String.length_toList, String.toList_ofList, List.length_drop] at *
  omega

/-- The front of a list, filled up. -/
theorem take_append_replicate {α : Type} (l : List α) (n : Nat) (d : α) :
    (l ++ List.replicate (n - l.length) d).take n = (List.range n).map fun i => l.getD i d := by
  refine List.ext_getElem (by simp; omega) fun i hi _ => ?_
  rw [List.getElem_take, List.getElem_map, List.getElem_range]
  by_cases hlt : i < l.length
  · rw [List.getElem_append_left hlt, List.getD_eq_getElem _ _ hlt]
  · rw [List.getElem_append_right (not_lt.1 hlt), List.getElem_replicate,
      List.getD_eq_default _ _ (not_lt.1 hlt)]

/-- The suffix of a natural number has its last six digits. -/
theorem suffix_natCast (n : Nat) : suffix n =
    String.ofList ((List.range 6).reverse.map fun k => base36Digit (n / 36 ^ k % 36)) := by
  have hdigit : ∀ k, ((Nat.digits 36 n).map base36Digit).getD k '0' =
      base36Digit (n / 36 ^ k % 36) := by
    intro k
    rw [← Nat.getD_digits n k (by decide), ← List.getD_map (f := base36Digit)]
    rfl
  by_cases hn : n = 0
  · subst hn
    decide
  · have htext : (seedText n).toList = ((Nat.digits 36 n).map base36Digit).reverse := by
      rw [seedText, toBase36, if_neg (by omega), Int.natAbs_natCast, if_neg hn,
        String.toList_ofList, List.nil_append]
    unfold suffix
    refine congrArg String.ofList ?_
    rw [← String.length_toList, padStart, String.toList_ofList, htext, List.leftpad,
      List.length_reverse]
    generalize (Nat.digits 36 n).map base36Digit = ds at hdigit
    rw [← List.reverse_replicate, ← List.reverse_append, List.length_reverse, List.drop_reverse]
    have hlen : (ds ++ List.replicate (6 - ds.length) '0').length -
        ((ds ++ List.replicate (6 - ds.length) '0').length - 6) = 6 := by
      rw [List.length_append, List.length_replicate]
      omega
    rw [hlen, take_append_replicate, List.map_reverse]
    congr 1
    exact List.map_congr_left fun k _ => hdigit k

/-- **Seeds share a suffix** exactly when they agree in the last six digits. -/
theorem suffix_eq_iff (m n : Nat) : suffix m = suffix n ↔ m % 36 ^ 6 = n % 36 ^ 6 := by
  rw [suffix_natCast, suffix_natCast, String.ofList_inj, List.map_inj_left]
  constructor
  · intro h
    exact mod_pow_eq_of_digits 6 fun i hi =>
      base36Digit_inj (Nat.mod_lt _ (by decide)) (Nat.mod_lt _ (by decide))
        (h i (List.mem_reverse.2 (List.mem_range.2 hi)))
  · intro h k hk
    have hlt := List.mem_range.1 (List.mem_reverse.1 hk)
    have hpow : (36 : Nat) ^ 6 = 36 ^ k * (36 * 36 ^ (5 - k)) := by
      rw [← pow_succ', ← pow_add]
      congr 1
      omega
    have hdigit : ∀ n : Nat, n / 36 ^ k % 36 = n % 36 ^ 6 / 36 ^ k % 36 := by
      intro n
      rw [hpow, Nat.mod_mul_right_div_self, Nat.mod_mul_right_mod]
    rw [hdigit m, hdigit n, h]

/-! ## Records -/

def paymentRecord (definition : ScenarioDefinition) (r : Refs) : FinancialRecordDto :=
  .payment {
    paymentId := r.payment
    orderId := none
    amount := money definition.grossMinor
    paymentMethod := definition.paymentMethod
    status := .captured
    authorizedAt := some (iso AUTHORIZED_AT)
    capturedAt := some (iso CAPTURED_AT)
    lineage := lineage "gateway" r.payment CAPTURED_AT }

def settlementRecord (r : Refs) (grossMinor netMinor : Int) (id : String := r.settlement)
    (utr : String := r.utr) : SettlementDto where
  settlementId := id
  settlementBatchReference := none
  grossAmount := money grossMinor
  netAmount := money netMinor
  settlementAt := iso SETTLED_AT
  status := .processed
  utr := some utr
  lineage := lineage "gateway" id SETTLED_AT

def settlementLine (r : Refs) (amountMinor : Int) (settlementId : String := r.settlement)
    (id : String := "sl_" ++ r.suffix) : SettlementLineDto where
  settlementId
  paymentId := some r.payment
  refundId := none
  lineType := .payment
  amount := money amountMinor
  lineage := lineage "gateway" id SETTLED_AT

def bankCredit (r : Refs) (amountMinor : Int) (utr : String := r.utr) (id : Option String := none)
    (creditedAt : Date := CREDITED_AT) : BankCreditDto where
  utr
  amount := money amountMinor
  creditedAt := iso creditedAt
  bankReference := "REF_" ++ id.getD r.suffix
  lineage := lineage "bank" (id.getD ("bc_" ++ r.suffix)) creditedAt

def adjustment (r : Refs) (reference : String) (amountMinor : Int) (effectiveAt : Date)
    (reasonCode id : String) : AdjustmentDto where
  settlementId := some r.settlement
  reference
  amount := money amountMinor
  effectiveAt := iso effectiveAt
  reasonCode
  lineage := lineage "gateway" id effectiveAt

def refundRecord (r : Refs) (amountMinor : Int) : RefundDto where
  refundId := "ref_" ++ r.suffix
  paymentId := r.payment
  amount := money amountMinor
  status := .processed
  createdAt := iso REFUND_CREATED_AT
  settledAt := some (iso REFUND_SETTLED_AT)
  lineage := lineage "gateway" ("ref_" ++ r.suffix) REFUND_CREATED_AT

structure FeeAndTax where
  fee : Int
  tax : Int
  records : List FinancialRecordDto
  deriving DecidableEq, Repr

def feeAndTax (definition : ScenarioDefinition) (r : Refs) : FeeAndTax :=
  match scheduleAt CAPTURED_AT with
  | none => ⟨0, 0, []⟩
  | some schedule =>
      let fee := applyBasisPoints definition.grossMinor
        (schedule.feeRateBps definition.paymentMethod)
      let tax := applyBasisPoints fee schedule.taxOnFeeBps
      { fee
        tax
        records := [
          .feeLine {
            paymentId := some r.payment
            settlementId := none
            feeType := "MDR"
            amount := money fee
            effectiveDate := iso CAPTURED_AT
            lineage := lineage "gateway" ("fee_" ++ r.suffix) CAPTURED_AT },
          .taxLine {
            feeLineSourceId := some ("fee_" ++ r.suffix)
            taxType := "GST"
            amount := money tax
            period := "2026-02"
            lineage := lineage "gateway" ("tax_" ++ r.suffix) CAPTURED_AT } ] }

/-- Settlement, line and bank credit of a payment that was settled at once. -/
def settledAtOnce (definition : ScenarioDefinition) (r : Refs) (net : Int) :
    List FinancialRecordDto :=
  [ .settlement (settlementRecord r definition.grossMinor net),
    .settlementLine (settlementLine r net),
    .bankCredit (bankCredit r net) ]

/-- The records of a scenario. -/
def scenarioRecords (definition : ScenarioDefinition) (r : Refs) : List FinancialRecordDto :=
  let fees := feeAndTax definition r
  let cleanNet := definition.grossMinor - fees.fee - fees.tax
  let shortfall : Int := 50_000
  paymentRecord definition r ::
    match definition.id with
    | .cleanSettlement => fees.records ++ settledAtOnce definition r cleanNet
    -- the fee and the tax are gone from the net and nothing visible explains it
    | .feeTaxDiscrepancy => settledAtOnce definition r cleanNet
    -- value is conserved across two legs, but the second leg is credited late
    | .splitSettlement =>
        let legA := cleanNet.tdiv 2
        let legB := cleanNet - legA
        let secondId := r.settlement ++ "_b"
        let secondUtr := r.utr ++ "B"
        fees.records ++
          [ .settlement (settlementRecord r (definition.grossMinor.tdiv 2) legA),
            .settlement (settlementRecord r
              (definition.grossMinor - definition.grossMinor.tdiv 2) legB secondId secondUtr),
            .settlementLine (settlementLine r legA),
            .settlementLine (settlementLine r legB secondId ("sl_" ++ r.suffix ++ "_b")),
            .bankCredit (bankCredit r legA),
            .bankCredit (bankCredit r legB secondUtr (some (r.suffix ++ "_b")) LATE_CREDIT_AT) ]
    -- the refund is settled beyond the netting window, and the net does not account for it
    | .refundNetting =>
        fees.records ++ .refund (refundRecord r 100_000) :: settledAtOnce definition r cleanNet
    -- two adjustments of equal magnitude, either of which could account for the shortfall
    | .ambiguousAdjustment =>
        fees.records ++ settledAtOnce definition r (cleanNet - shortfall) ++
          [ .adjustment (adjustment r ("ADJ_A_" ++ r.suffix) (-shortfall) SETTLED_AT
              "CHARGEBACK_PROVISION" ("adj_a_" ++ r.suffix)),
            .adjustment (adjustment r ("ADJ_B_" ++ r.suffix) (-shortfall) SETTLED_AT
              "RESERVE_HOLD" ("adj_b_" ++ r.suffix)) ]
    -- the amount matches the shortfall, but a month after the settlement it would explain
    | .misleadingAdjustment =>
        fees.records ++ settledAtOnce definition r (cleanNet - shortfall) ++
          [ .adjustment (adjustment r ("ADJ_LATE_" ++ r.suffix) (-shortfall)
              IMPLAUSIBLE_ADJUSTMENT_AT "MANUAL_CORRECTION" ("adj_late_" ++ r.suffix)) ]

def generateScenarioBatch (definition : ScenarioDefinition) (seed : Int) : ImportRequestDto where
  sourceType := "scenario:" ++ definition.id.code
  records := scenarioRecords definition (refs seed)

end SettlementOps.Scenario
