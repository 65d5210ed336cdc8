import Mathlib.Data.List.Flatten
import Mathlib.Data.List.Perm.Subperm
import SettlementOps.Tools.ListTools

/-!
# Where the tools' evidence comes from

A tool that lists records also names them, for the verifier's check that a resolution rests on
what was retrieved.  It shows the first fifty of them, of one reference if one was asked for; the
names and most totals are taken before that cut.

* `Evidence`, `ListTool.evidence` — the records behind each part of a tool's answer.
* `Evidence.Provenance` — what is named was shown, and every figure is computed over it.
* `ListTool.Covers` — nothing was cut.
* `toolProvenance_iff` — the one exactly when the other.
-/

namespace SettlementOps

/-- What is shown of a record; orders, payments and ledger entries are never listed. -/
def FinancialRecord.entry : FinancialRecord → Row
  | settlement s => settlementEntry s
  | settlementLine l => settlementLineEntry l
  | feeLine f => feeEntry f
  | taxLine t => taxEntry t
  | bankCredit b => bankCreditEntry b
  | refund r => refundEntry r
  | adjustment a => adjustmentEntry a
  | order _ | payment _ | ledgerEntry _ => []

/-- What a record adds to a total; a settlement is not added up by any tool. -/
def FinancialRecord.addend : FinancialRecord → Int
  | order r => r.amount.amountMinor
  | payment r => r.amount.amountMinor
  | feeLine r => r.amount.amountMinor
  | taxLine r => r.amount.amountMinor
  | refund r => r.amount.amountMinor
  | adjustment r => r.amount.amountMinor
  | settlement _ => 0
  | settlementLine r => r.amount.amountMinor
  | bankCredit r => r.amount.amountMinor
  | ledgerEntry r => r.amount.amountMinor

def FinancialRecord.ofKind (kind : RecordKind) (r : FinancialRecord) : Bool :=
  decide (r.kind = kind)

/-- The record is a settlement line of the payment. -/
def FinancialRecord.lineOf (payment : PaymentRecord) : FinancialRecord → Bool
  | settlementLine l => l.paymentId == some payment.paymentId
  | _ => false

/-- A total is also a field of the data; a count is in the summary alone. -/
inductive Measure
  | count
  | total (field : String)
  deriving DecidableEq, Repr

/-- A number in a tool's answer. -/
structure Figure where
  measure : Measure
  /-- The records it speaks of. -/
  concerns : FinancialRecord → Bool
  /-- The records it is computed over. -/
  records : List FinancialRecord

def Figure.value (f : Figure) : Int :=
  match f.measure with
  | .count => f.records.length
  | .total _ => (f.records.map FinancialRecord.addend).sum

/-- The records behind a tool's answer. -/
structure Evidence where
  /-- In the order of the record ids. -/
  cited : List FinancialRecord
  /-- The lists of the data, each under its key. -/
  sections : List (String × List FinancialRecord)
  figures : List Figure
  summary : String

def Evidence.shown (ev : Evidence) : List FinancialRecord := ev.sections.flatMap (·.2)

/-- The answer is made of the evidence. -/
structure Evidence.Presents (ev : Evidence) (result : ToolResult) : Prop where
  recordIds : result.recordIds = ev.cited.map (·.base.id)
  sections : ∀ s ∈ ev.sections, result.data.field? s.1 = some (.rows (s.2.map (·.entry)))
  totals : ∀ f ∈ ev.figures, ∀ field, f.measure = .total field →
    result.data.field? field = some (.str (toString f.value))
  summary : result.summary = ev.summary

/-- Every record named is the payment or is shown, and every figure is computed over the records
it speaks of that are shown. -/
structure Evidence.Provenance (ev : Evidence) (payment : PaymentRecord) : Prop where
  cited : ev.cited.Subperm (.payment payment :: ev.shown)
  figures : ∀ f ∈ ev.figures, f.records = ev.shown.filter f.concerns

namespace ListTool

open FinancialRecord in
/-- The records behind each tool's answer. -/
def evidence (args : ToolArguments) (unit : ReconciliationUnit) : ListTool → Evidence
  | settlementBreakup =>
      let settlements : Figure :=
        ⟨.count, ofKind .settlement, (cap unit.settlements).map settlement⟩
      let lines : Figure :=
        ⟨.count, ofKind .settlementLine, (cap unit.settlementLines).map settlementLine⟩
      let settled : Figure :=
        ⟨.total "settled_total_minor", lineOf unit.payment, unit.lines.map settlementLine⟩
      { cited := payment unit.payment :: unit.settlements.map settlement
        sections := [("settlements", (cap unit.settlements).map settlement),
          ("settlement_lines", (cap unit.settlementLines).map settlementLine)]
        figures := [settlements, lines, settled]
        summary := toString settlements.value ++ " settlement(s), " ++ toString lines.value ++
          " line(s), settled total " ++ toString settled.value }
  | feeTaxLines =>
      let fees : Figure := ⟨.count, ofKind .feeLine, (cap unit.fees).map feeLine⟩
      let taxes : Figure := ⟨.count, ofKind .taxLine, (cap unit.taxes).map taxLine⟩
      let feeTotal : Figure :=
        ⟨.total "fee_total_minor", ofKind .feeLine, unit.fees.map feeLine⟩
      let taxTotal : Figure :=
        ⟨.total "tax_total_minor", ofKind .taxLine, unit.taxes.map taxLine⟩
      { cited := unit.fees.map feeLine ++ unit.taxes.map taxLine
        sections := [("fee_lines", (cap unit.fees).map feeLine),
          ("tax_lines", (cap unit.taxes).map taxLine)]
        figures := [fees, taxes, feeTotal, taxTotal]
        summary :=
          if fees.value = 0 then "no fee record accompanies this payment"
          else toString fees.value ++ " fee line(s) totalling " ++ toString feeTotal.value ++
            ", " ++ toString taxes.value ++ " tax line(s) totalling " ++
            toString taxTotal.value }
  | bankCredit =>
      let credits : Figure :=
        ⟨.count, ofKind .bankCredit, (creditsShown args unit).map FinancialRecord.bankCredit⟩
      let total : Figure :=
        ⟨.total "credited_total_minor", ofKind .bankCredit,
          (creditsShown args unit).map FinancialRecord.bankCredit⟩
      { cited := unit.bankCredits.map FinancialRecord.bankCredit
        sections :=
          [("bank_credits", (creditsShown args unit).map FinancialRecord.bankCredit)]
        figures := [credits, total]
        summary :=
          if credits.value = 0 then "no bank credit found for this settlement"
          else toString credits.value ++ " credit(s) totalling " ++ toString total.value }
  | refunds =>
      let refunds : Figure := ⟨.count, ofKind .refund, (cap unit.refunds).map refund⟩
      { cited := unit.refunds.map refund
        sections := [("refunds", (cap unit.refunds).map refund)]
        figures := [refunds]
        summary :=
          if refunds.value = 0 then "no refunds against this payment"
          else toString refunds.value ++ " refund(s)" }
  | relatedAdjustments =>
      let adjustments : Figure :=
        ⟨.count, ofKind .adjustment, (cap unit.adjustments).map adjustment⟩
      { cited := unit.adjustments.map adjustment
        sections := [("adjustments", (cap unit.adjustments).map adjustment)]
        figures := [adjustments]
        summary :=
          if adjustments.value = 0 then "no adjustments relate to this settlement"
          else toString adjustments.value ++ " adjustment(s); note whether each is allocated" }

/-- Nothing the tool names or adds up is cut from what it shows. -/
def Covers (args : ToolArguments) (unit : ReconciliationUnit) : ListTool → Prop
  | settlementBreakup => unit.settlements.length ≤ MAX_RECORDS ∧
      ∀ l ∈ unit.settlementLines.drop MAX_RECORDS, l.paymentId ≠ some unit.payment.paymentId
  | feeTaxLines => unit.fees.length ≤ MAX_RECORDS ∧ unit.taxes.length ≤ MAX_RECORDS
  | bankCredit => unit.bankCredits.length ≤ MAX_RECORDS ∧
      ∀ utr ∈ args.utr, ∀ b ∈ unit.bankCredits, b.utr = utr
  | refunds => unit.refunds.length ≤ MAX_RECORDS
  | relatedAdjustments => unit.adjustments.length ≤ MAX_RECORDS

end ListTool

/-! ## The answers are made of the evidence -/

theorem count_value {α : Type} (concerns : FinancialRecord → Bool) (f : α → FinancialRecord)
    (l : List α) : Figure.value ⟨.count, concerns, l.map f⟩ = (l.length : Int) := by
  rw [Figure.value, List.length_map]

theorem total_value {α : Type} (field : String) (concerns : FinancialRecord → Bool)
    (f : α → FinancialRecord) (l : List α) : Figure.value ⟨.total field, concerns, l.map f⟩ =
      l.foldl (fun total a => total + (f a).addend) 0 := by
  rw [Figure.value, foldl_add_eq, zero_add, List.map_map]
  rfl

theorem toString_natCast (n : Nat) : toString (n : Int) = toString n := rfl

theorem evidence_presents {loadUnit : UnitLoader} {ctx : ToolContext} {unit : ReconciliationUnit}
    (hload : loadUnit ctx = some unit) (tool : ListTool) (args : ToolArguments) :
    (tool.evidence args unit).Presents (tool.run loadUnit ctx args) := by
  cases tool <;>
    simp only [ListTool.run, getSettlementBreakup, getFeeTaxLines, getBankCredit, getRefunds,
      searchRelatedAdjustments, withUnit, hload, toolOk, ListTool.evidence,
      ReconciliationUnit.feeTotal, ReconciliationUnit.taxTotal] <;>
    constructor
  case settlementBreakup.recordIds | feeTaxLines.recordIds | bankCredit.recordIds |
      refunds.recordIds | relatedAdjustments.recordIds =>
    simp only [List.map_cons, List.map_append, List.map_map]
    rfl
  case settlementBreakup.sections | feeTaxLines.sections | bankCredit.sections |
      refunds.sections | relatedAdjustments.sections =>
    simp [JsonObject.field?, FinancialRecord.entry]
  case settlementBreakup.totals | feeTaxLines.totals | bankCredit.totals | refunds.totals |
      relatedAdjustments.totals =>
    simp [JsonObject.field?, total_value, FinancialRecord.addend]
  case settlementBreakup.summary | feeTaxLines.summary | bankCredit.summary |
      refunds.summary | relatedAdjustments.summary =>
    simp only [count_value, total_value, toString_natCast, Int.natCast_eq_zero, List.length_map,
      FinancialRecord.addend]

/-! ## Nothing cut -/

theorem cap_eq_self_iff {α : Type} {l : List α} : cap l = l ↔ l.length ≤ MAX_RECORDS :=
  List.take_eq_self_iff l

/-- Of a kind, no more is named than is shown. -/
theorem length_le_of_cited {ev : Evidence} {payment : PaymentRecord} (kind : RecordKind)
    (h : ev.Provenance payment) :
    (ev.cited.filter (FinancialRecord.ofKind kind)).length ≤
      ((FinancialRecord.payment payment :: ev.shown).filter
        (FinancialRecord.ofKind kind)).length :=
  (h.cited.filter _).length_le

theorem cap_sublist {α : Type} (l : List α) : (cap l).Sublist l := List.take_sublist _ _

theorem length_le_cap_iff {α : Type} {l : List α} :
    l.length ≤ (cap l).length ↔ l.length ≤ MAX_RECORDS := by
  rw [cap, List.length_take]
  omega

/-- A selection loses nothing to the cut when nothing selected is cut. -/
theorem filter_eq_filter_cap_iff {α : Type} (p : α → Bool) {l : List α} :
    l.filter p = (cap l).filter p ↔ ∀ a ∈ l.drop MAX_RECORDS, p a = false := by
  conv_lhs => lhs; rw [← List.take_append_drop MAX_RECORDS l, List.filter_append]
  rw [cap, List.append_right_eq_self, List.filter_eq_nil_iff]
  simp only [Bool.not_eq_true]

theorem creditsShown_eq_iff {args : ToolArguments} {unit : ReconciliationUnit} :
    unit.bankCredits.length ≤ (creditsShown args unit).length ↔
      unit.bankCredits.length ≤ MAX_RECORDS ∧
        ∀ utr ∈ args.utr, ∀ b ∈ unit.bankCredits, b.utr = utr := by
  unfold creditsShown cap
  cases args.utr with
  | none =>
      simp only [List.length_take, Option.mem_def, reduceCtorEq, false_implies, implies_true,
        and_true]
      omega
  | some utr =>
      have hle := List.length_filter_le (fun b => b.utr == utr) unit.bankCredits
      have hall := List.length_filter_eq_length_iff (p := fun b : BankCreditRecord => b.utr == utr)
        (l := unit.bankCredits)
      simp only [beq_iff_eq] at hall
      simp only [List.length_take, Option.mem_def, Option.some.injEq, forall_eq', ← hall]
      omega

open FinancialRecord

section

variable {args : ToolArguments} {unit : ReconciliationUnit}

theorem settlementBreakup_provenance_iff :
    (ListTool.settlementBreakup.evidence args unit).Provenance unit.payment ↔
      ListTool.settlementBreakup.Covers args unit := by
  have hinj : Function.Injective settlementLine := fun _ _ h => settlementLine.inj h
  have hsettled : unit.lines.map settlementLine =
      ((cap unit.settlementLines).filter fun l => l.paymentId == some unit.payment.paymentId).map
        settlementLine ↔
      ∀ l ∈ unit.settlementLines.drop MAX_RECORDS,
        l.paymentId ≠ some unit.payment.paymentId := by
    rw [(List.map_injective_iff.2 hinj).eq_iff, ReconciliationUnit.lines,
      filter_eq_filter_cap_iff]
    simp only [beq_eq_false_iff_ne]
  rw [ListTool.Covers, ← hsettled]
  constructor
  · intro h
    have hlen : unit.settlements.length ≤ (cap unit.settlements).length := by
      simpa [ListTool.evidence, Evidence.shown, List.filter_map, Function.comp_def, ofKind, kind]
        using length_le_of_cited .settlement h
    have hlines : unit.lines.map settlementLine =
        ((cap unit.settlementLines).filter
          fun l => l.paymentId == some unit.payment.paymentId).map settlementLine := by
      simpa [ListTool.evidence, Evidence.shown, List.filter_map, Function.comp_def, ofKind, kind,
        lineOf] using h.figures
    exact ⟨length_le_cap_iff.1 hlen, hlines⟩
  · rintro ⟨hlen, hlines⟩
    constructor
    · simp only [ListTool.evidence, Evidence.shown, List.flatMap_cons, List.flatMap_nil,
        List.append_nil, cap_eq_self_iff.2 hlen]
      exact (List.sublist_append_left _ _).cons_cons (payment unit.payment) |>.subperm
    · simp [ListTool.evidence, Evidence.shown, List.filter_map, Function.comp_def, ofKind, kind,
        lineOf, hlines]

theorem feeTaxLines_provenance_iff :
    (ListTool.feeTaxLines.evidence args unit).Provenance unit.payment ↔
      ListTool.feeTaxLines.Covers args unit := by
  constructor
  · intro h
    have hfees : unit.fees.length ≤ (cap unit.fees).length := by
      simpa [ListTool.evidence, Evidence.shown, List.filter_map, Function.comp_def, ofKind, kind]
        using length_le_of_cited .feeLine h
    have htaxes : unit.taxes.length ≤ (cap unit.taxes).length := by
      simpa [ListTool.evidence, Evidence.shown, List.filter_map, Function.comp_def, ofKind, kind]
        using length_le_of_cited .taxLine h
    exact ⟨length_le_cap_iff.1 hfees, length_le_cap_iff.1 htaxes⟩
  · rintro ⟨hfees, htaxes⟩
    constructor
    · simp [ListTool.evidence, Evidence.shown, cap_eq_self_iff.2 hfees, cap_eq_self_iff.2 htaxes]
      exact (List.sublist_cons_self _ _).subperm
    · simp [ListTool.evidence, Evidence.shown, List.filter_map, Function.comp_def, ofKind, kind,
        cap_eq_self_iff.2 hfees, cap_eq_self_iff.2 htaxes]

/-- A tool that lists records of one kind, some of those it names. -/
theorem provenance_iff_of_kind {α : Type} {f : α → FinancialRecord} {own : RecordKind}
    (hf : ∀ a, (f a).kind = own) (hown : own ≠ .payment) {named listed : List α}
    (hsub : listed.Sublist named) {ev : Evidence} {payment : PaymentRecord}
    (hcited : ev.cited = named.map f) (hshown : ev.shown = listed.map f)
    (hfigures : ∀ fig ∈ ev.figures, fig.concerns = ofKind own ∧ fig.records = listed.map f) :
    ev.Provenance payment ↔ named.length ≤ listed.length := by
  have hof : ∀ l : List α, (l.map f).filter (ofKind own) = l.map f := by
    intro l
    rw [List.filter_map]
    simp [Function.comp_def, ofKind, hf]
  have hpay : ofKind own (.payment payment) = false := decide_eq_false hown.symm
  constructor
  · intro h
    have hlen := length_le_of_cited own h
    rwa [hcited, hshown, List.filter_cons_of_neg (by rw [hpay]; exact Bool.false_ne_true), hof,
      hof, List.length_map, List.length_map] at hlen
  · intro hle
    have heq : listed = named := hsub.eq_of_length_le hle
    subst heq
    constructor
    · rw [hcited, hshown]
      exact (List.sublist_cons_self _ _).subperm
    · intro fig hfig
      obtain ⟨hconcerns, hrecords⟩ := hfigures fig hfig
      rw [hconcerns, hrecords, hshown, hof]

theorem creditsShown_sublist : (creditsShown args unit).Sublist unit.bankCredits := by
  refine (cap_sublist _).trans ?_
  cases args.utr with
  | none => exact .refl _
  | some utr => exact List.filter_sublist

theorem bankCredit_provenance_iff :
    (ListTool.bankCredit.evidence args unit).Provenance unit.payment ↔
      ListTool.bankCredit.Covers args unit := by
  rw [ListTool.Covers, ← creditsShown_eq_iff]
  refine provenance_iff_of_kind (f := bankCredit) (fun _ => rfl) (by decide)
    creditsShown_sublist rfl ?_ ?_
  · simp [ListTool.evidence, Evidence.shown]
  · simp [ListTool.evidence]

theorem refunds_provenance_iff :
    (ListTool.refunds.evidence args unit).Provenance unit.payment ↔
      ListTool.refunds.Covers args unit := by
  rw [ListTool.Covers, ← length_le_cap_iff]
  refine provenance_iff_of_kind (f := refund) (fun _ => rfl) (by decide)
    (cap_sublist _) rfl ?_ ?_
  · simp [ListTool.evidence, Evidence.shown]
  · simp [ListTool.evidence]

theorem relatedAdjustments_provenance_iff :
    (ListTool.relatedAdjustments.evidence args unit).Provenance unit.payment ↔
      ListTool.relatedAdjustments.Covers args unit := by
  rw [ListTool.Covers, ← length_le_cap_iff]
  refine provenance_iff_of_kind (f := adjustment) (fun _ => rfl) (by decide)
    (cap_sublist _) rfl ?_ ?_
  · simp [ListTool.evidence, Evidence.shown]
  · simp [ListTool.evidence]

theorem evidence_provenance_iff (tool : ListTool) :
    (tool.evidence args unit).Provenance unit.payment ↔ tool.Covers args unit := by
  cases tool with
  | settlementBreakup => exact settlementBreakup_provenance_iff
  | feeTaxLines => exact feeTaxLines_provenance_iff
  | bankCredit => exact bankCredit_provenance_iff
  | refunds => exact refunds_provenance_iff
  | relatedAdjustments => exact relatedAdjustments_provenance_iff

end

/-! ## Named by id -/

/-- The records of a kind the unit has. -/
def ReconciliationUnit.recordsOf (unit : ReconciliationUnit) : RecordKind → List FinancialRecord
  | .payment => [.payment unit.payment]
  | .feeLine => unit.fees.map feeLine
  | .taxLine => unit.taxes.map taxLine
  | .refund => unit.refunds.map refund
  | .adjustment => unit.adjustments.map adjustment
  | .settlement => unit.settlements.map settlement
  | .settlementLine => unit.settlementLines.map settlementLine
  | .bankCredit => unit.bankCredits.map bankCredit
  | .order | .ledgerEntry => []

/-- The kinds of record a unit has, in the order their ids are known to the verifier. -/
def unitKinds : List RecordKind :=
  [.payment, .feeLine, .taxLine, .refund, .adjustment, .settlement, .settlementLine, .bankCredit]

theorem recordIds_eq (unit : ReconciliationUnit) :
    unit.recordIds = (unitKinds.flatMap unit.recordsOf).map (·.base.id) := by
  simp only [unitKinds, List.flatMap_cons, List.flatMap_nil, List.append_nil,
    ReconciliationUnit.recordsOf, List.map_append, List.map_map, List.map_cons,
    ReconciliationUnit.recordIds, List.append_assoc, List.cons_append, List.nil_append]
  rfl

/-- The kinds of record a tool names. -/
def ListTool.citedKinds : ListTool → List RecordKind
  | settlementBreakup => [.payment, .settlement]
  | feeTaxLines => [.feeLine, .taxLine]
  | bankCredit => [.bankCredit]
  | refunds => [.refund]
  | relatedAdjustments => [.adjustment]

theorem cited_sublist (tool : ListTool) (args : ToolArguments) (unit : ReconciliationUnit) :
    (tool.evidence args unit).cited.Sublist (unitKinds.flatMap unit.recordsOf) := by
  have hcited : (tool.evidence args unit).cited = tool.citedKinds.flatMap unit.recordsOf := by
    cases tool <;>
      simp [ListTool.evidence, ListTool.citedKinds, ReconciliationUnit.recordsOf]
  have hkinds : tool.citedKinds.Sublist unitKinds := by
    cases tool <;> decide
  rw [hcited]
  exact hkinds.flatMap unit.recordsOf

theorem shown_subset (tool : ListTool) (args : ToolArguments) (unit : ReconciliationUnit) :
    (tool.evidence args unit).shown ⊆ unitKinds.flatMap unit.recordsOf := by
  have hof : ∀ {α : Type} (f : α → FinancialRecord) {listed named : List α} (kind : RecordKind),
      unit.recordsOf kind = named.map f → kind ∈ unitKinds → listed.Sublist named →
        listed.map f ⊆ unitKinds.flatMap unit.recordsOf := by
    intro α f listed named kind heq hkind hsub r hr
    refine List.mem_flatMap.2 ⟨kind, hkind, ?_⟩
    rw [heq]
    exact (hsub.map f).subset hr
  cases tool with
  | settlementBreakup =>
      simp only [ListTool.evidence, Evidence.shown, List.flatMap_cons, List.flatMap_nil,
        List.append_nil, List.append_subset]
      exact ⟨hof settlement .settlement rfl (by decide) (cap_sublist _),
        hof settlementLine .settlementLine rfl (by decide) (cap_sublist _)⟩
  | feeTaxLines =>
      simp only [ListTool.evidence, Evidence.shown, List.flatMap_cons, List.flatMap_nil,
        List.append_nil, List.append_subset]
      exact ⟨hof feeLine .feeLine rfl (by decide) (cap_sublist _),
        hof taxLine .taxLine rfl (by decide) (cap_sublist _)⟩
  | bankCredit =>
      simp only [ListTool.evidence, Evidence.shown, List.flatMap_singleton]
      exact hof bankCredit .bankCredit rfl (by decide) creditsShown_sublist
  | refunds =>
      simp only [ListTool.evidence, Evidence.shown, List.flatMap_singleton]
      exact hof refund .refund rfl (by decide) (cap_sublist _)
  | relatedAdjustments =>
      simp only [ListTool.evidence, Evidence.shown, List.flatMap_singleton]
      exact hof adjustment .adjustment rfl (by decide) (cap_sublist _)

/-- Where the ids of a unit are distinct, naming by id what is shown is naming the records. -/
theorem cited_subperm_iff {loadUnit : UnitLoader} {ctx : ToolContext} {unit : ReconciliationUnit}
    (hload : loadUnit ctx = some unit) (hids : unit.recordIds.Nodup) (tool : ListTool)
    (args : ToolArguments) :
    (tool.evidence args unit).cited.Subperm
        (.payment unit.payment :: (tool.evidence args unit).shown) ↔
      ∀ id ∈ (tool.run loadUnit ctx args).recordIds,
        id = unit.payment.id ∨ ∃ r ∈ (tool.evidence args unit).shown, r.base.id = id := by
  rw [recordIds_eq] at hids
  have hinj := List.inj_on_of_nodup_map hids
  have hsub := cited_sublist tool args unit
  have hpay : FinancialRecord.payment unit.payment ∈ unitKinds.flatMap unit.recordsOf := by
    simp [unitKinds, ReconciliationUnit.recordsOf]
  rw [(evidence_presents hload tool args).recordIds]
  constructor
  · intro h id hid
    obtain ⟨r, hr, rfl⟩ := List.mem_map.1 hid
    rcases List.mem_cons.1 (h.subset hr) with rfl | hshown
    · exact .inl rfl
    · exact .inr ⟨r, hshown, rfl⟩
  · intro h
    refine List.subperm_of_subset (hsub.nodup (List.Nodup.of_map _ hids)) ?_
    intro r hr
    rcases h r.base.id (List.mem_map_of_mem hr) with hid | ⟨r', hr', hid⟩
    · rw [hinj (hsub.subset hr) hpay hid]
      exact List.mem_cons_self
    · rw [← hinj (shown_subset tool args unit hr') (hsub.subset hr) hid]
      exact List.mem_cons_of_mem _ hr'

/-! ## What the verifier takes for retrieved -/

/-- A claimed resolution that is not refused for its retrieval cites nothing else of the unit. -/
theorem mem_retrieved_of_verify {proposal : Proposal} {unit : ReconciliationUnit}
    {retrieved : List String} (hresolve : proposal.disposition = .resolve)
    (hretrieved : proposal.retrievedRecordIds = some retrieved)
    (hverify : .evidenceNotRetrieved ∉ (verify proposal unit).failures) {id : String}
    (hid : id ∈ proposal.evidenceRecordIds) (hknown : id ∈ unit.recordIds) : id ∈ retrieved := by
  by_contra hnot
  refine hverify ?_
  have hun : id ∈ proposal.evidenceRecordIds.filter fun id =>
      unit.recordIds.contains id && !retrieved.contains id := by
    rw [List.mem_filter]
    simpa [hid, hknown] using hnot
  have hfound : .evidenceNotRetrieved ∈ (retrievalFindings proposal unit).failures := by
    unfold retrievalFindings
    rw [hretrieved]
    dsimp only
    rw [if_pos (List.length_pos_of_mem hun)]
    exact List.mem_singleton_self _
  unfold verify
  rw [if_neg (not_not.2 hresolve)]
  simp only [resolutionFindings, Findings.append_failures, List.mem_append]
  exact .inl (.inl (.inr hfound))

/-- What a tool names is the payment or was shown. -/
theorem shown_of_covers {loadUnit : UnitLoader} {ctx : ToolContext} {unit : ReconciliationUnit}
    (hload : loadUnit ctx = some unit) {tool : ListTool} {args : ToolArguments}
    (hcovers : tool.Covers args unit) {id : String}
    (hid : id ∈ (tool.run loadUnit ctx args).recordIds) :
    id = unit.payment.id ∨ ∃ r ∈ (tool.evidence args unit).shown, r.base.id = id := by
  rw [(evidence_presents hload tool args).recordIds] at hid
  obtain ⟨r, hr, rfl⟩ := List.mem_map.1 hid
  have hsub := ((evidence_provenance_iff tool).2 hcovers).cited.subset hr
  rcases List.mem_cons.1 hsub with rfl | hshown
  · exact .inl rfl
  · exact .inr ⟨r, hshown, rfl⟩

/-- **The tools name what they show** exactly when nothing is cut: no list longer than fifty, no
line of the payment after the fiftieth, no credit left out by the reference asked for.  (Naming is
judged record by record, which for distinct ids is id by id.)  Then an id the verifier takes for
retrieved is the payment's or that of a record shown. -/
theorem toolProvenance_iff (loadUnit : UnitLoader) (ctx : ToolContext)
    (unit : ReconciliationUnit) (hload : loadUnit ctx = some unit) :
    (∀ (tool : ListTool) (args : ToolArguments),
      (tool.evidence args unit).Presents (tool.run loadUnit ctx args) ∧
        ((tool.evidence args unit).Provenance unit.payment ↔ tool.Covers args unit) ∧
        (unit.recordIds.Nodup →
          ((tool.evidence args unit).cited.Subperm
              (.payment unit.payment :: (tool.evidence args unit).shown) ↔
            ∀ id ∈ (tool.run loadUnit ctx args).recordIds, id = unit.payment.id ∨
              ∃ r ∈ (tool.evidence args unit).shown, r.base.id = id))) ∧
    ∀ calls : List (ListTool × ToolArguments), (∀ call ∈ calls, call.1.Covers call.2 unit) →
      ∀ (proposal : Proposal) (retrieved : List String), proposal.disposition = .resolve →
        proposal.retrievedRecordIds = some retrieved →
        (∀ id ∈ retrieved, ∃ call ∈ calls, id ∈ (call.1.run loadUnit ctx call.2).recordIds) →
        .evidenceNotRetrieved ∉ (verify proposal unit).failures →
        ∀ id ∈ proposal.evidenceRecordIds, id ∈ unit.recordIds →
          id = unit.payment.id ∨
            ∃ call ∈ calls, ∃ r ∈ (call.1.evidence call.2 unit).shown, r.base.id = id := by
  constructor
  · intro tool args
    exact ⟨evidence_presents hload tool args, evidence_provenance_iff tool,
      fun hids => cited_subperm_iff hload hids tool args⟩
  · intro calls hcovers proposal retrieved hresolve hretrieved hfrom hverify id hid hknown
    have hmem := mem_retrieved_of_verify hresolve hretrieved hverify hid hknown
    obtain ⟨call, hcall, hnamed⟩ := hfrom id hmem
    rcases shown_of_covers hload (hcovers call hcall) hnamed with hpay | ⟨r, hr, hbase⟩
    · exact .inl hpay
    · exact .inr ⟨call, hcall, r, hr, hbase⟩

/-- On the sample unit, the credit asked for by its own reference. -/
theorem toolProvenance_sampleUnit :
    (ListTool.bankCredit.evidence { utr := some "UTR001" } sampleUnit).Provenance
      sampleUnit.payment := by
  have hcovers : ListTool.bankCredit.Covers { utr := some "UTR001" } sampleUnit := by
    unfold ListTool.Covers
    decide
  exact ((toolProvenance_iff (fun _ => some sampleUnit) ⟨⟨"m-1"⟩, "pay-1"⟩ sampleUnit rfl).1
    .bankCredit { utr := some "UTR001" }).2.1.2 hcovers

/-- Asked for the credits of another reference, the tool shows none and names the one there is;
a resolution that cites it is not refused for its retrieval. -/
theorem otherReference_named :
    validateArguments (fun _ => none) { utr := some "UTR999" } =
        .ok { utr := some "UTR999" } ∧
      getBankCredit (fun _ => some sampleUnit) ⟨⟨"m-1"⟩, "pay-1"⟩ { utr := some "UTR999" } =
        toolOk .getBankCredit [("bank_credits", .rows []), ("credited_total_minor", .str "0")]
          "no bank credit found for this settlement" ["credit-1"] ∧
      "credit-1" ≠ sampleUnit.payment.id ∧
      ¬ (ListTool.bankCredit.evidence { utr := some "UTR999" } sampleUnit).Provenance
        sampleUnit.payment ∧
      .evidenceNotRetrieved ∉ (verify ⟨.timingLag, .resolve, ["credit-1"], "",
        some ["credit-1"]⟩ sampleUnit).failures := by
  refine ⟨by decide, by decide, by decide, fun h => ?_, by decide⟩
  exact absurd h.cited (by decide)

end SettlementOps
