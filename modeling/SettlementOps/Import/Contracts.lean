import SettlementOps.Records

/-!
# Import requests on the wire

The values the ingestion schema accepts, under the field names of the wire.  Amounts are
integers of minor units with a currency code that is not yet checked, and times are texts
that are not yet read.  The schema check itself and the reading of a time are taken from
their libraries.

* `FinancialRecordDto`, `ImportRequestDto` — a checked request.
* `Readers` — the schema check of a body and the reading of a time.
-/

namespace SettlementOps

structure MoneyDto where
  amountMinor : Int
  currency : String
  deriving DecidableEq, Repr

structure LineageDto where
  sourceSystem : String
  sourceRecordId : String
  observedAt : String
  schemaVersion : String
  deriving DecidableEq, Repr

structure RecordDto where
  lineage : LineageDto
  deriving DecidableEq, Repr

structure OrderDto extends RecordDto where
  orderId : String
  customerReference : Option String
  amount : MoneyDto
  status : OrderStatus
  createdAt : String
  deriving DecidableEq, Repr

structure PaymentDto extends RecordDto where
  paymentId : String
  orderId : Option String
  amount : MoneyDto
  paymentMethod : PaymentMethod
  status : PaymentStatus
  authorizedAt : Option String
  capturedAt : Option String
  deriving DecidableEq, Repr

structure FeeLineDto extends RecordDto where
  paymentId : Option String
  settlementId : Option String
  feeType : String
  amount : MoneyDto
  effectiveDate : String
  deriving DecidableEq, Repr

structure TaxLineDto extends RecordDto where
  feeLineSourceId : Option String
  taxType : String
  amount : MoneyDto
  period : String
  deriving DecidableEq, Repr

structure RefundDto extends RecordDto where
  refundId : String
  paymentId : String
  amount : MoneyDto
  status : RefundStatus
  createdAt : String
  settledAt : Option String
  deriving DecidableEq, Repr

structure AdjustmentDto extends RecordDto where
  settlementId : Option String
  reference : String
  amount : MoneyDto
  effectiveAt : String
  reasonCode : String
  deriving DecidableEq, Repr

structure SettlementDto extends RecordDto where
  settlementId : String
  settlementBatchReference : Option String
  grossAmount : MoneyDto
  netAmount : MoneyDto
  settlementAt : String
  status : SettlementStatus
  utr : Option String
  deriving DecidableEq, Repr

structure SettlementLineDto extends RecordDto where
  settlementId : String
  paymentId : Option String
  refundId : Option String
  lineType : LineType
  amount : MoneyDto
  deriving DecidableEq, Repr

structure BankCreditDto extends RecordDto where
  utr : String
  amount : MoneyDto
  creditedAt : String
  bankReference : String
  deriving DecidableEq, Repr

structure LedgerEntryDto extends RecordDto where
  referenceType : String
  referenceId : String
  amount : MoneyDto
  entryType : EntryType
  postedAt : String
  status : String
  deriving DecidableEq, Repr

inductive FinancialRecordDto
  | order (dto : OrderDto)
  | payment (dto : PaymentDto)
  | feeLine (dto : FeeLineDto)
  | taxLine (dto : TaxLineDto)
  | refund (dto : RefundDto)
  | adjustment (dto : AdjustmentDto)
  | settlement (dto : SettlementDto)
  | settlementLine (dto : SettlementLineDto)
  | bankCredit (dto : BankCreditDto)
  | ledgerEntry (dto : LedgerEntryDto)
  deriving DecidableEq, Repr

namespace FinancialRecordDto

def kind : FinancialRecordDto → RecordKind
  | order _ => .order
  | payment _ => .payment
  | feeLine _ => .feeLine
  | taxLine _ => .taxLine
  | refund _ => .refund
  | adjustment _ => .adjustment
  | settlement _ => .settlement
  | settlementLine _ => .settlementLine
  | bankCredit _ => .bankCredit
  | ledgerEntry _ => .ledgerEntry

def lineage : FinancialRecordDto → LineageDto
  | order dto => dto.lineage
  | payment dto => dto.lineage
  | feeLine dto => dto.lineage
  | taxLine dto => dto.lineage
  | refund dto => dto.lineage
  | adjustment dto => dto.lineage
  | settlement dto => dto.lineage
  | settlementLine dto => dto.lineage
  | bankCredit dto => dto.lineage
  | ledgerEntry dto => dto.lineage

end FinancialRecordDto

def MAX_IMPORT_RECORDS : Nat := 10_000

structure ImportRequestDto where
  sourceType : String
  records : List FinancialRecordDto
  deriving DecidableEq, Repr

/-- What the boundary relies on: the schema check of a body, with its issues, and the reading
of a time, which may fail. -/
structure Readers (Body : Type) where
  safeParse : Body → Except (List String) ImportRequestDto
  parseDate : String → Option Date

end SettlementOps
