import SettlementOps.Auth.RequestContext
import SettlementOps.Import.Contracts

/-!
# Normalization

The only place a checked request becomes domain records.  The merchant scope of a record
comes from the request context, never from the payload.

* `normalizeRecord` — a record, or the first thing wrong with it.
* `normalizeRecords` — the loop over a request: the records and the errors of the others.
* `normalizeRecord_again` — normalizing again changes the id, scope and ingestion time only.
-/

namespace SettlementOps

inductive NormalizationError
  | unsupportedCurrency (value : String) (index : Nat)
  | invalidTimestamp (field : String) (index : Nat)
  deriving DecidableEq, Repr

def NormalizationError.kind : NormalizationError → String
  | .unsupportedCurrency _ _ => "UNSUPPORTED_CURRENCY"
  | .invalidTimestamp _ _ => "INVALID_TIMESTAMP"

def toMoney (dto : MoneyDto) (index : Nat) : Except NormalizationError Money :=
  if isCurrency dto.currency then .ok ⟨dto.amountMinor, dto.currency⟩
  else .error (.unsupportedCurrency dto.currency index)

section Dates

variable (parseDate : String → Option Date)

def toDate (value field : String) (index : Nat) : Except NormalizationError Date :=
  match parseDate value with
  | none => .error (.invalidTimestamp field index)
  | some d => .ok d

def optionalDate (value : Option String) (field : String) (index : Nat) :
    Except NormalizationError (Option Date) :=
  match value with
  | none => .ok none
  | some value => (toDate parseDate value field index).map some

structure NormalizationInput where
  dto : FinancialRecordDto
  index : Nat
  recordId : String
  ingestedAt : Date
  deriving DecidableEq, Repr

/-- The part of a record that does not depend on its kind. -/
def normalizedBase (ctx : RequestContext) (input : NormalizationInput) (observedAt : Date) :
    RecordBase where
  id := input.recordId
  scope := scopeOf ctx
  lineage := {
    sourceSystem := input.dto.lineage.sourceSystem
    sourceRecordId := input.dto.lineage.sourceRecordId
    observedAt := observedAt
    ingestedAt := input.ingestedAt
    schemaVersion := input.dto.lineage.schemaVersion }

/-- The fields of each kind, checked in the order the source checks them. -/
def normalizeKind (common : RecordBase) (index : Nat) :
    FinancialRecordDto → Except NormalizationError FinancialRecord
  | .order dto => do
      let amount ← toMoney dto.amount index
      let createdAt ← toDate parseDate dto.createdAt "created_at" index
      return .order { common with
        orderId := dto.orderId
        customerReference := dto.customerReference
        amount := amount
        status := dto.status
        createdAt := createdAt }
  | .payment dto => do
      let amount ← toMoney dto.amount index
      let authorizedAt ← optionalDate parseDate dto.authorizedAt "authorized_at" index
      let capturedAt ← optionalDate parseDate dto.capturedAt "captured_at" index
      return .payment { common with
        paymentId := dto.paymentId
        orderId := dto.orderId
        amount := amount
        paymentMethod := dto.paymentMethod
        status := dto.status
        authorizedAt := authorizedAt
        capturedAt := capturedAt }
  | .feeLine dto => do
      let amount ← toMoney dto.amount index
      let effectiveDate ← toDate parseDate dto.effectiveDate "effective_date" index
      return .feeLine { common with
        paymentId := dto.paymentId
        settlementId := dto.settlementId
        feeType := dto.feeType
        amount := amount
        effectiveDate := effectiveDate }
  | .taxLine dto => do
      let amount ← toMoney dto.amount index
      return .taxLine { common with
        feeLineId := dto.feeLineSourceId
        taxType := dto.taxType
        amount := amount
        period := dto.period }
  | .refund dto => do
      let amount ← toMoney dto.amount index
      let createdAt ← toDate parseDate dto.createdAt "created_at" index
      let settledAt ← optionalDate parseDate dto.settledAt "settled_at" index
      return .refund { common with
        refundId := dto.refundId
        paymentId := dto.paymentId
        amount := amount
        status := dto.status
        createdAt := createdAt
        settledAt := settledAt }
  | .adjustment dto => do
      let amount ← toMoney dto.amount index
      let effectiveAt ← toDate parseDate dto.effectiveAt "effective_at" index
      return .adjustment { common with
        settlementId := dto.settlementId
        reference := dto.reference
        amount := amount
        effectiveAt := effectiveAt
        reasonCode := dto.reasonCode }
  | .settlement dto => do
      let gross ← toMoney dto.grossAmount index
      let net ← toMoney dto.netAmount index
      let settlementAt ← toDate parseDate dto.settlementAt "settlement_at" index
      return .settlement { common with
        settlementId := dto.settlementId
        settlementBatchId := dto.settlementBatchReference
        grossAmount := gross
        netAmount := net
        settlementAt := settlementAt
        status := dto.status
        utr := dto.utr }
  | .settlementLine dto => do
      let amount ← toMoney dto.amount index
      return .settlementLine { common with
        settlementId := dto.settlementId
        paymentId := dto.paymentId
        refundId := dto.refundId
        lineType := dto.lineType
        amount := amount }
  | .bankCredit dto => do
      let amount ← toMoney dto.amount index
      let creditedAt ← toDate parseDate dto.creditedAt "credited_at" index
      return .bankCredit { common with
        utr := dto.utr
        amount := amount
        creditedAt := creditedAt
        bankReference := dto.bankReference }
  | .ledgerEntry dto => do
      let amount ← toMoney dto.amount index
      let postedAt ← toDate parseDate dto.postedAt "posted_at" index
      return .ledgerEntry { common with
        referenceType := dto.referenceType
        referenceId := dto.referenceId
        amount := amount
        entryType := dto.entryType
        postedAt := postedAt
        status := dto.status }

def normalizeRecord (ctx : RequestContext) (input : NormalizationInput) :
    Except NormalizationError FinancialRecord := do
  let observedAt ← toDate parseDate input.dto.lineage.observedAt "observed_at" input.index
  normalizeKind parseDate (normalizedBase ctx input observedAt) input.index input.dto

/-- The loop over the records of a request, with the id drawn for each. -/
def normalizeRecords (ctx : RequestContext) (dtos : List FinancialRecordDto)
    (recordId : Nat → String) (ingestedAt : Date) :
    List (Nat × Except NormalizationError FinancialRecord) :=
  dtos.zipIdx.map fun entry =>
    (entry.2, normalizeRecord parseDate ctx ⟨entry.1, entry.2, recordId entry.2, ingestedAt⟩)

end Dates

structure ValidationError where
  index : Nat
  error : NormalizationError
  deriving DecidableEq, Repr

/-- The records of a request that normalize. -/
def normalizedOf (results : List (Nat × Except NormalizationError FinancialRecord)) :
    List FinancialRecord :=
  results.filterMap fun entry => entry.2.toOption

/-- The errors of the others. -/
def validationErrorsOf (results : List (Nat × Except NormalizationError FinancialRecord)) :
    List ValidationError :=
  results.filterMap fun entry =>
    match entry.2 with
    | .ok _ => none
    | .error error => some ⟨entry.1, error⟩

/-! ## What a normalized record takes from its request -/

/-- The record with another id, scope and lineage. -/
def FinancialRecord.withBase (b : RecordBase) : FinancialRecord → FinancialRecord
  | .order r => .order { r with toRecordBase := b }
  | .payment r => .payment { r with toRecordBase := b }
  | .feeLine r => .feeLine { r with toRecordBase := b }
  | .taxLine r => .taxLine { r with toRecordBase := b }
  | .refund r => .refund { r with toRecordBase := b }
  | .adjustment r => .adjustment { r with toRecordBase := b }
  | .settlement r => .settlement { r with toRecordBase := b }
  | .settlementLine r => .settlementLine { r with toRecordBase := b }
  | .bankCredit r => .bankCredit { r with toRecordBase := b }
  | .ledgerEntry r => .ledgerEntry { r with toRecordBase := b }

@[simp] theorem withBase_kind (b : RecordBase) (r : FinancialRecord) :
    (r.withBase b).kind = r.kind := by
  cases r <;> rfl

@[simp] theorem withBase_base (b : RecordBase) (r : FinancialRecord) :
    (r.withBase b).base = b := by
  cases r <;> rfl

section Base

variable {parseDate : String → Option Date} {common common' : RecordBase} {index : Nat}

/-- Whether a record normalizes, and into which fields, does not depend on its id, scope and
lineage. -/
theorem normalizeKind_withBase (dto : FinancialRecordDto) :
    normalizeKind parseDate common' index dto =
      (·.withBase common') <$> normalizeKind parseDate common index dto := by
  cases dto <;> simp only [normalizeKind, map_bind, map_pure] <;> rfl

theorem normalizeKind_base {dto : FinancialRecordDto} {r : FinancialRecord}
    (h : normalizeKind parseDate common index dto = .ok r) : r.base = common := by
  have hmap : (·.withBase common) <$> normalizeKind parseDate common index dto = .ok r :=
    (normalizeKind_withBase dto).symm.trans h
  rw [h] at hmap
  have hr : r.withBase common = r := Except.ok.inj hmap
  rw [← hr, withBase_base]

/-- **Normalizing again changes the id, the scope and the ingestion time only.** -/
theorem normalizeRecord_again {ctx : RequestContext} {input : NormalizationInput}
    {r : FinancialRecord} (h : normalizeRecord parseDate ctx input = .ok r)
    (ctx' : RequestContext) (input' : NormalizationInput) (hdto : input'.dto = input.dto)
    (hindex : input'.index = input.index) :
    ∃ observedAt, r.base = normalizedBase ctx input observedAt ∧
      normalizeRecord parseDate ctx' input' =
        .ok (r.withBase (normalizedBase ctx' input' observedAt)) := by
  obtain ⟨observedAt, hobserved, hkind⟩ := bind_eq_ok_iff.1 h
  refine ⟨observedAt, normalizeKind_base hkind, ?_⟩
  refine bind_eq_ok_iff.2 ⟨observedAt, ?_, ?_⟩
  · rw [hdto, hindex]
    exact hobserved
  · have hwith : normalizeKind parseDate (normalizedBase ctx' input' observedAt) input.index
        input.dto = (·.withBase (normalizedBase ctx' input' observedAt)) <$>
          normalizeKind parseDate (normalizedBase ctx input observedAt) input.index input.dto :=
      normalizeKind_withBase _
    rw [hindex, hdto, hwith, hkind]
    rfl

end Base

end SettlementOps
