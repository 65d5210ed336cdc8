import SettlementOps.Tools.TaxMapping

/-!
# The tools that list records

* `ToolArguments`, `validateArguments` — what a model may supply, checked before any tool runs.
* `getSettlementBreakup`, `getFeeTaxLines`, `getBankCredit`, `getRefunds` — the tools.
* `ListTool`, `ListTool.run` — these four and `search_related_adjustments`.
-/

namespace SettlementOps

/-- Arguments a model may supply: no merchant id, no query, no path. -/
structure ToolArguments where
  paymentId : Option String := none
  settlementId : Option String := none
  utr : Option String := none
  effectiveDate : Option String := none
  amountMinor : Option String := none
  windowDays : Option Rat := none
  deriving DecidableEq, Repr

/-- `/^[A-Za-z0-9_-]{1,64}$/` -/
def isIdentifier (value : String) : Bool :=
  value.toList.all (fun c => c.isAlphanum || c == '_' || c == '-') &&
    decide (1 ≤ value.toList.length ∧ value.toList.length ≤ 64)

/-- `/^-?\d{1,18}$/` -/
def isMinorUnits (value : String) : Bool :=
  let digits : List Char :=
    match value.toList with
    | '-' :: digits => digits
    | digits => digits
  digits.all Char.isDigit && decide (1 ≤ digits.length ∧ digits.length ≤ 18)

/-- Runs before any handler; `parseDate` is how the platform reads a date. -/
def validateArguments (parseDate : String → Option Date) (args : ToolArguments) :
    Except String ToolArguments :=
  if !args.paymentId.all isIdentifier then .error "payment_id is not a valid identifier"
  else if !args.settlementId.all isIdentifier then
    .error "settlement_id is not a valid identifier"
  else if !args.utr.all isIdentifier then .error "utr is not a valid identifier"
  else if !args.effectiveDate.all (fun date => (parseDate date).isSome) then
    .error "effective_date is not an ISO-8601 date"
  else if !args.amountMinor.all isMinorUnits then
    .error "amount_minor must be an integer string in minor units"
  else if args.windowDays.any (fun days => decide (days < 1 ∨ days > 30)) then
    .error "window_days must be between 1 and 30"
  else .ok args

/-! ## What is shown of a record -/

/-- A text that may be missing. -/
def Scalar.str? : Option String → Scalar
  | none => .null
  | some s => .str s

def settlementEntry (s : SettlementRecord) : Row :=
  [ ("settlement_id", .str s.settlementId),
    ("utr", .str? s.utr),
    ("gross_minor", .str (toString s.grossAmount.amountMinor)),
    ("net_minor", .str (toString s.netAmount.amountMinor)),
    ("settlement_at", .str (Calendar.toISOString s.settlementAt)),
    ("status", .str s.status.code) ]

def settlementLineEntry (l : SettlementLineRecord) : Row :=
  [ ("settlement_id", .str l.settlementId),
    ("line_type", .str l.lineType.code),
    ("amount_minor", .str (toString l.amount.amountMinor)) ]

def feeEntry (f : FeeLineRecord) : Row :=
  [ ("fee_type", .str f.feeType),
    ("amount_minor", .str (toString f.amount.amountMinor)),
    ("effective_date", .str (Calendar.toISOString f.effectiveDate)) ]

def taxEntry (t : TaxLineRecord) : Row :=
  [ ("tax_type", .str t.taxType),
    ("amount_minor", .str (toString t.amount.amountMinor)),
    ("period", .str t.period) ]

def bankCreditEntry (b : BankCreditRecord) : Row :=
  [ ("utr", .str b.utr),
    ("amount_minor", .str (toString b.amount.amountMinor)),
    ("credited_at", .str (Calendar.toISOString b.creditedAt)) ]

def refundEntry (r : RefundRecord) : Row :=
  [ ("amount_minor", .str (toString r.amount.amountMinor)),
    ("status", .str r.status.code),
    ("created_at", .str (Calendar.toISOString r.createdAt)),
    ("settled_at", .str? (r.settledAt.map Calendar.toISOString)) ]

/-! ## The tools -/

def getSettlementBreakup (loadUnit : UnitLoader) (ctx : ToolContext) : ToolResult :=
  withUnit loadUnit ctx .getSettlementBreakup fun unit =>
    let settlements := (cap unit.settlements).map settlementEntry
    let lines := (cap unit.settlementLines).map settlementLineEntry
    let settledTotal := unit.lines.foldl (fun total l => total + l.amount.amountMinor) 0
    toolOk .getSettlementBreakup
      [ ("payment_gross_minor", .str (toString unit.payment.amount.amountMinor)),
        ("captured_at", .str? (unit.payment.capturedAt.map Calendar.toISOString)),
        ("payment_method", .str unit.payment.paymentMethod.code),
        ("settlements", .rows settlements),
        ("settlement_lines", .rows lines),
        ("settled_total_minor", .str (toString settledTotal)) ]
      (toString settlements.length ++ " settlement(s), " ++ toString lines.length ++
        " line(s), settled total " ++ toString settledTotal)
      (unit.payment.id :: unit.settlements.map (·.id))

def getFeeTaxLines (loadUnit : UnitLoader) (ctx : ToolContext) : ToolResult :=
  withUnit loadUnit ctx .getFeeTaxLines fun unit =>
    let fees := (cap unit.fees).map feeEntry
    let taxes := (cap unit.taxes).map taxEntry
    let feeTotal := unit.feeTotal
    let taxTotal := unit.taxTotal
    toolOk .getFeeTaxLines
      [ ("fee_lines", .rows fees),
        ("tax_lines", .rows taxes),
        ("fee_total_minor", .str (toString feeTotal)),
        ("tax_total_minor", .str (toString taxTotal)) ]
      (if fees.length = 0 then "no fee record accompanies this payment"
      else toString fees.length ++ " fee line(s) totalling " ++ toString feeTotal ++ ", " ++
        toString taxes.length ++ " tax line(s) totalling " ++ toString taxTotal)
      (unit.fees.map (·.id) ++ unit.taxes.map (·.id))

/-- The credits `get_bank_credit` shows. -/
def creditsShown (args : ToolArguments) (unit : ReconciliationUnit) : List BankCreditRecord :=
  cap (match args.utr with
    | none => unit.bankCredits
    | some utr => unit.bankCredits.filter fun b => b.utr == utr)

def getBankCredit (loadUnit : UnitLoader) (ctx : ToolContext) (args : ToolArguments) :
    ToolResult :=
  withUnit loadUnit ctx .getBankCredit fun unit =>
    let credits := (creditsShown args unit).map bankCreditEntry
    -- added up from the amounts just written out
    let total := (creditsShown args unit).foldl (fun sum c => sum + c.amount.amountMinor) 0
    toolOk .getBankCredit
      [ ("bank_credits", .rows credits),
        ("credited_total_minor", .str (toString total)) ]
      (if credits.length = 0 then "no bank credit found for this settlement"
      else toString credits.length ++ " credit(s) totalling " ++ toString total)
      (unit.bankCredits.map (·.id))

def getRefunds (loadUnit : UnitLoader) (ctx : ToolContext) : ToolResult :=
  withUnit loadUnit ctx .getRefunds fun unit =>
    let refunds := (cap unit.refunds).map refundEntry
    toolOk .getRefunds
      [("refunds", .rows refunds)]
      (if refunds.length = 0 then "no refunds against this payment"
      else toString refunds.length ++ " refund(s)")
      (unit.refunds.map (·.id))

/-- The tools that list records. -/
inductive ListTool
  | settlementBreakup
  | feeTaxLines
  | bankCredit
  | refunds
  | relatedAdjustments
  deriving DecidableEq, Repr

def ListTool.run (loadUnit : UnitLoader) (ctx : ToolContext) (args : ToolArguments) :
    ListTool → ToolResult
  | settlementBreakup => getSettlementBreakup loadUnit ctx
  | feeTaxLines => getFeeTaxLines loadUnit ctx
  | bankCredit => getBankCredit loadUnit ctx args
  | refunds => getRefunds loadUnit ctx
  | relatedAdjustments => searchRelatedAdjustments loadUnit ctx

end SettlementOps
