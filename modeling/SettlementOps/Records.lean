import SettlementOps.Policy.FeeSchedule

/-!
# Canonical financial records

Every amount-bearing field is a `Money`, and every record carries its merchant scope and
its source lineage.  Identifiers are the strings the source brands; the brands have no
run-time content.

* `SourceLineage`, `duplicateKey` — where a record was imported from.
* `OrderRecord` … `LedgerEntryRecord` — the ten kinds of record.
* `FinancialRecord` — a record of any kind.
-/

namespace SettlementOps

abbrev MerchantId := String
abbrev OrderId := String
abbrev PaymentId := String
abbrev RefundId := String
abbrev SettlementId := String

structure MerchantScope where
  merchantId : MerchantId
  deriving DecidableEq, Repr

/-- Where and when a record was observed. -/
structure SourceLineage where
  sourceSystem : String
  sourceRecordId : String
  observedAt : Date
  ingestedAt : Date
  schemaVersion : String
  deriving DecidableEq, Repr

/-- What every record has; this is also the identity duplicates are judged by. -/
structure RecordBase where
  id : String
  scope : MerchantScope
  lineage : SourceLineage
  deriving DecidableEq, Repr

/-- Duplicate identity key: merchant, source system and source record id. -/
def duplicateKey (r : RecordBase) : String :=
  r.scope.merchantId ++ "::" ++ r.lineage.sourceSystem ++ "::" ++ r.lineage.sourceRecordId

inductive OrderStatus
  | created
  | paid
  | cancelled
  deriving DecidableEq, Repr

inductive PaymentStatus
  | authorized
  | captured
  | failed
  | refunded
  deriving DecidableEq, Repr

inductive RefundStatus
  | created
  | processed
  | failed
  deriving DecidableEq, Repr

inductive SettlementStatus
  | pending
  | processed
  | failed
  deriving DecidableEq, Repr

inductive LineType
  | payment
  | refund
  | adjustment
  | fee
  | tax
  deriving DecidableEq, Repr

inductive EntryType
  | debit
  | credit
  deriving DecidableEq, Repr

/-- The codes the statuses are written as. -/
def PaymentStatus.code : PaymentStatus → String
  | .authorized => "AUTHORIZED"
  | .captured => "CAPTURED"
  | .failed => "FAILED"
  | .refunded => "REFUNDED"

def RefundStatus.code : RefundStatus → String
  | .created => "CREATED"
  | .processed => "PROCESSED"
  | .failed => "FAILED"

def SettlementStatus.code : SettlementStatus → String
  | .pending => "PENDING"
  | .processed => "PROCESSED"
  | .failed => "FAILED"

def LineType.code : LineType → String
  | .payment => "PAYMENT"
  | .refund => "REFUND"
  | .adjustment => "ADJUSTMENT"
  | .fee => "FEE"
  | .tax => "TAX"

structure OrderRecord extends RecordBase where
  orderId : OrderId
  customerReference : Option String
  amount : Money
  status : OrderStatus
  createdAt : Date
  deriving DecidableEq, Repr

structure PaymentRecord extends RecordBase where
  paymentId : PaymentId
  orderId : Option OrderId
  amount : Money
  paymentMethod : PaymentMethod
  status : PaymentStatus
  authorizedAt : Option Date
  capturedAt : Option Date
  deriving DecidableEq, Repr

structure FeeLineRecord extends RecordBase where
  paymentId : Option PaymentId
  settlementId : Option SettlementId
  feeType : String
  amount : Money
  effectiveDate : Date
  deriving DecidableEq, Repr

structure TaxLineRecord extends RecordBase where
  feeLineId : Option String
  taxType : String
  amount : Money
  period : String
  deriving DecidableEq, Repr

structure RefundRecord extends RecordBase where
  refundId : RefundId
  paymentId : PaymentId
  amount : Money
  status : RefundStatus
  createdAt : Date
  settledAt : Option Date
  deriving DecidableEq, Repr

/-- The amount of an adjustment is signed: it may raise or lower the expected net. -/
structure AdjustmentRecord extends RecordBase where
  settlementId : Option SettlementId
  reference : String
  amount : Money
  effectiveAt : Date
  reasonCode : String
  deriving DecidableEq, Repr

structure SettlementRecord extends RecordBase where
  settlementId : SettlementId
  settlementBatchId : Option String
  grossAmount : Money
  netAmount : Money
  settlementAt : Date
  status : SettlementStatus
  utr : Option String
  deriving DecidableEq, Repr

structure SettlementLineRecord extends RecordBase where
  settlementId : SettlementId
  paymentId : Option PaymentId
  refundId : Option RefundId
  lineType : LineType
  amount : Money
  deriving DecidableEq, Repr

structure BankCreditRecord extends RecordBase where
  utr : String
  amount : Money
  creditedAt : Date
  bankReference : String
  deriving DecidableEq, Repr

structure LedgerEntryRecord extends RecordBase where
  referenceType : String
  referenceId : String
  amount : Money
  entryType : EntryType
  postedAt : Date
  status : String
  deriving DecidableEq, Repr

inductive RecordKind
  | order
  | payment
  | feeLine
  | taxLine
  | refund
  | adjustment
  | settlement
  | settlementLine
  | bankCredit
  | ledgerEntry
  deriving DecidableEq, Repr

/-- A record of any kind. -/
inductive FinancialRecord
  | order (r : OrderRecord)
  | payment (r : PaymentRecord)
  | feeLine (r : FeeLineRecord)
  | taxLine (r : TaxLineRecord)
  | refund (r : RefundRecord)
  | adjustment (r : AdjustmentRecord)
  | settlement (r : SettlementRecord)
  | settlementLine (r : SettlementLineRecord)
  | bankCredit (r : BankCreditRecord)
  | ledgerEntry (r : LedgerEntryRecord)
  deriving DecidableEq, Repr

namespace FinancialRecord

def kind : FinancialRecord → RecordKind
  | order _ => .order
  | payment _ => .payment
  | feeLine _ => .feeLine
  | taxLine _ => .taxLine
  | refund _ => .refund
  | adjustment _ => .adjustment
  | settlement _ => .settlement
  | settlementLine _ => .settlementLine
  | bankCredit _ => .bankCredit
  | ledgerEntry _ => .ledgerEntry

/-- The id, scope and lineage of a record (`identityOf`). -/
def base : FinancialRecord → RecordBase
  | order r => r.toRecordBase
  | payment r => r.toRecordBase
  | feeLine r => r.toRecordBase
  | taxLine r => r.toRecordBase
  | refund r => r.toRecordBase
  | adjustment r => r.toRecordBase
  | settlement r => r.toRecordBase
  | settlementLine r => r.toRecordBase
  | bankCredit r => r.toRecordBase
  | ledgerEntry r => r.toRecordBase

end FinancialRecord

end SettlementOps
