import SettlementOps.Json
import SettlementOps.Records

/-!
# The contract of the evidence tools

* `ToolName` — the closed list of tools.
* `ToolResult`, `toolOk`, `toolError` — what a tool answers with.
* `ToolContext` — a tool sees the unit of the case and nothing else.
-/

namespace SettlementOps

inductive ToolName
  | getSettlementBreakup
  | getFeeTaxLines
  | getLedgerEntries
  | getBankCredit
  | searchRelatedAdjustments
  | getRefunds
  | getFeeSchedule
  | calculateExpectedNetAmount
  | validateTaxLineMapping
  deriving DecidableEq, Repr

/-- The name a tool is called by. -/
def ToolName.code : ToolName → String
  | .getSettlementBreakup => "get_settlement_breakup"
  | .getFeeTaxLines => "get_fee_tax_lines"
  | .getLedgerEntries => "get_ledger_entries"
  | .getBankCredit => "get_bank_credit"
  | .searchRelatedAdjustments => "search_related_adjustments"
  | .getRefunds => "get_refunds"
  | .getFeeSchedule => "get_fee_schedule"
  | .calculateExpectedNetAmount => "calculate_expected_net_amount"
  | .validateTaxLineMapping => "validate_tax_line_mapping"

/-- What a tool answers with.  A rejected call to an unknown tool has no name. -/
structure ToolResult where
  ok : Bool
  name : Option ToolName
  data : JsonObject
  summary : String
  recordIds : List String
  error : Option String := none
  deriving DecidableEq, Repr

def toolOk (name : ToolName) (data : JsonObject) (summary : String) (recordIds : List String) :
    ToolResult :=
  { ok := true, name := some name, data, summary, recordIds }

def toolError (name : Option ToolName) (error : String) : ToolResult where
  ok := false
  name := name
  data := []
  summary :=
    match name with
    | none => "tool rejected: " ++ error
    | some name => name.code ++ " failed: " ++ error
  recordIds := []
  error := some error

structure ToolContext where
  scope : MerchantScope
  paymentId : String
  deriving DecidableEq, Repr

end SettlementOps
