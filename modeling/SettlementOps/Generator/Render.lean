import SettlementOps.Import.Contracts
import SettlementOps.Policy.SettlementCycle

/-!
# Visible-record rendering

A decided case as ordinary import records, the same shape any external source would send.
Identifiers are derived from a counter and say nothing about the case.

* `Refs`, `refsFor` — the identifiers of a case.
* `paymentRecord` … `refundRecord` — one function a kind of record.
-/

namespace SettlementOps.Generator

open Calendar

def iso (t : Date) : String := toISOString t

def money (minor : Int) : MoneyDto := ⟨minor, "INR"⟩

def lineage (system id : String) (observedAt : Date) : LineageDto :=
  ⟨system, id, iso observedAt, "v1"⟩

structure Refs where
  payment : String
  settlement : String
  utr : String
  suffix : String
  deriving DecidableEq, Repr

/-- The digit of a base 36 numeral. -/
def base36Digit (n : Nat) : Char :=
  if n < 10 then Char.ofNat (48 + n) else Char.ofNat (87 + n)

theorem base36Digit_inj {m n : Nat} (hm : m < 36) (hn : n < 36)
    (h : base36Digit m = base36Digit n) : m = n := by
  have hall : ∀ m : Fin 36, ∀ n : Fin 36, base36Digit m = base36Digit n → m = n := by decide
  exact congrArg Fin.val (hall ⟨m, hm⟩ ⟨n, hn⟩ h)

/-- Numbers with the same digits are the same up to that many digits. -/
theorem mod_pow_eq_of_digits {m n : Nat} (k : Nat)
    (h : ∀ i < k, m / 36 ^ i % 36 = n / 36 ^ i % 36) : m % 36 ^ k = n % 36 ^ k := by
  induction k with
  | zero => simp only [pow_zero, Nat.mod_one]
  | succ k ih =>
      rw [Nat.mod_pow_succ, Nat.mod_pow_succ, ih fun i hi => h i (Nat.lt_succ_of_lt hi),
        h k (Nat.lt_succ_self k)]

/-- Opaque, sequential suffix: the last seven digits of the ordinal in base 36, padded. -/
def suffixFor (ordinal : Nat) : String :=
  String.ofList ((List.range 7).reverse.map fun k => base36Digit (ordinal / 36 ^ k % 36))

def refsFor (ordinal : Nat) : Refs :=
  let suffix := suffixFor ordinal
  { payment := "pay_" ++ suffix
    settlement := "set_" ++ suffix
    utr := "UTR" ++ String.ofList (suffix.toList.map Char.toUpper)
    suffix }

example : (refsFor 46_655).payment = "pay_0000zzz" := by decide

structure FeeAndTax where
  fee : Int
  tax : Int
  scheduleId : String
  deriving DecidableEq, Repr

def scheduledFeeAndTax (grossMinor : Int) (method : PaymentMethod) (capturedAt : Date) :
    FeeAndTax :=
  match scheduleAt capturedAt with
  | none => ⟨0, 0, "none"⟩
  | some schedule =>
      let fee := applyBasisPoints grossMinor (schedule.feeRateBps method)
      let tax := applyBasisPoints fee schedule.taxOnFeeBps
      ⟨fee, tax, schedule.id⟩

def plusDays (t : Date) (days : Int) : Date := ⟨t.getTime + days * msPerDay⟩

def plusHours (t : Date) (hours : Int) : Date := ⟨t.getTime + hours * msPerHour⟩

/-- The settlement date of a capture of the generator's; those have one. -/
def expectedSettlementFor (capturedAt : Date) : Date := settlementInstant capturedAt

def paymentRecord (r : Refs) (grossMinor : Int) (method : PaymentMethod) (capturedAt : Date) :
    FinancialRecordDto :=
  .payment {
    paymentId := r.payment
    orderId := none
    amount := money grossMinor
    paymentMethod := method
    status := .captured
    authorizedAt := some (iso ⟨capturedAt.getTime - msPerHour⟩)
    capturedAt := some (iso capturedAt)
    lineage := lineage "gateway" r.payment capturedAt }

def feeLine (r : Refs) (fee : Int) (capturedAt : Date) : FeeLineDto where
  paymentId := some r.payment
  settlementId := none
  feeType := "MDR"
  amount := money fee
  effectiveDate := iso capturedAt
  lineage := lineage "gateway" ("fee_" ++ r.suffix) capturedAt

def taxLine (r : Refs) (tax : Int) (capturedAt : Date) : TaxLineDto where
  feeLineSourceId := some ("fee_" ++ r.suffix)
  taxType := "GST"
  amount := money tax
  period := toString (utcFullYear capturedAt) ++ "-" ++ pad 2 (utcMonth capturedAt + 1)
  lineage := lineage "gateway" ("tax_" ++ r.suffix) capturedAt

def feeRecords (r : Refs) (fee tax : Int) (capturedAt : Date) : List FinancialRecordDto :=
  [.feeLine (feeLine r fee capturedAt), .taxLine (taxLine r tax capturedAt)]

def settlementRecord (r : Refs) (grossMinor netMinor : Int) (settledAt : Date)
    (id : String := r.settlement) (utr : String := r.utr) : SettlementDto where
  settlementId := id
  settlementBatchReference := none
  grossAmount := money grossMinor
  netAmount := money netMinor
  settlementAt := iso settledAt
  status := .processed
  utr := some utr
  lineage := lineage "gateway" id settledAt

def settlementLine (r : Refs) (amountMinor : Int) (settledAt : Date)
    (settlementId : String := r.settlement) (id : String := "sl_" ++ r.suffix)
    (lineType : LineType := .payment) : SettlementLineDto where
  settlementId := settlementId
  paymentId := some r.payment
  refundId := none
  lineType := lineType
  amount := money amountMinor
  lineage := lineage "gateway" id settledAt

def bankCreditRecord (r : Refs) (amountMinor : Int) (creditedAt : Date)
    (utr : String := r.utr) (id : Option String := none) : BankCreditDto where
  utr := utr
  amount := money amountMinor
  creditedAt := iso creditedAt
  bankReference := "REF_" ++ id.getD r.suffix
  lineage := lineage "bank" (id.getD ("bc_" ++ r.suffix)) creditedAt

def refundRecord (r : Refs) (amountMinor : Int) (createdAt : Date) (settledAt : Option Date)
    (id : String := "rfnd_" ++ r.suffix) : RefundDto where
  refundId := id
  paymentId := r.payment
  amount := money amountMinor
  status := .processed
  createdAt := iso createdAt
  settledAt := settledAt.map iso
  lineage := lineage "gateway" id createdAt

end SettlementOps.Generator
