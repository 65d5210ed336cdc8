import SettlementOps.Agent.Gateway
import SettlementOps.Tools.Provenance
import SettlementOps.Text.CodeUnits

/-!
# The tool registry

The allowlist is the registry: a name that is not in it cannot be called.  Arguments are checked
before any tool runs, and a tool that throws becomes an answer that says so.

* `getLedgerEntries`, `getFeeSchedule` — the tools that read no evidence.
* `handler`, `invokeTool` — a tool by its name, and dispatch.
* `registry_contract` — when a call succeeds, and what any call can show.
-/

namespace SettlementOps

/-- `get_ledger_entries`: the matcher does not consume them, so they prove nothing. -/
def getLedgerEntries (loadUnit : UnitLoader) (ctx : ToolContext) : ToolResult :=
  withUnit loadUnit ctx .getLedgerEntries fun unit =>
    toolOk .getLedgerEntries
      [ ("ledger_entries", .rows []),
        ("note", .str "ledger entries are not evidence for reconciliation") ]
      "no ledger evidence is admissible for reconciliation"
      [unit.payment.id]

def feeRateEntry (s : FeeScheduleVersion) : Row :=
  [ ("CARD", .num (s.feeRateBps .card)),
    ("NETBANKING", .num (s.feeRateBps .netbanking)),
    ("UPI", .num (s.feeRateBps .upi)),
    ("WALLET", .num (s.feeRateBps .wallet)) ]

def scheduleEntry (s : FeeScheduleVersion) : Row :=
  [ ("id", .str s.id),
    ("effective_from", .str (Calendar.toISOString s.effectiveFrom)) ]

/-- The instant `get_fee_schedule` is asked about; an invalid date is after no schedule. -/
def scheduleInstant (parseDate : String → Option Date) (now : Date) (args : ToolArguments) :
    Option Date :=
  match args.effectiveDate with
  | none => some now
  | some text => parseDate text

/-- `get_fee_schedule`: it reads no unit. -/
def getFeeSchedule (parseDate : String → Option Date) (now : Date) (args : ToolArguments) :
    ToolResult :=
  match (scheduleInstant parseDate now args).bind fun t => (scheduleAt t).map fun s => (t, s) with
  | none => toolError (some .getFeeSchedule) "no fee schedule is in force at that date"
  | some (t, schedule) =>
      toolOk .getFeeSchedule
        [ ("schedule_id", .str schedule.id),
          ("effective_from", .str (Calendar.toISOString schedule.effectiveFrom)),
          ("fee_rate_bps", .row (feeRateEntry schedule)),
          ("tax_on_fee_bps", .num schedule.taxOnFeeBps),
          ("all_versions", .rows (FEE_SCHEDULES.map scheduleEntry)) ]
        ("schedule " ++ schedule.id ++ " applies at " ++ Calendar.toISOString t)
        []

/-- The handler of a tool. -/
def handler (parseDate : String → Option Date) (now : Date) (loadUnit : UnitLoader)
    (ctx : ToolContext) (args : ToolArguments) : ToolName → ToolResult
  | .getSettlementBreakup => getSettlementBreakup loadUnit ctx
  | .getFeeTaxLines => getFeeTaxLines loadUnit ctx
  | .getLedgerEntries => getLedgerEntries loadUnit ctx
  | .getBankCredit => getBankCredit loadUnit ctx args
  | .searchRelatedAdjustments => searchRelatedAdjustments loadUnit ctx
  | .getRefunds => getRefunds loadUnit ctx
  | .getFeeSchedule => getFeeSchedule parseDate now args
  | .calculateExpectedNetAmount => calculateExpectedNetAmount loadUnit ctx
  | .validateTaxLineMapping => validateTaxLineMapping loadUnit now ctx

/-- How the registry reaches a unit: the load may throw, with or without a message. -/
abbrev ThrowingLoader := ToolContext → Except (Option String) (Option ReconciliationUnit)

/-- A tool whose load may throw; `get_fee_schedule` does not load. -/
def runTool (parseDate : String → Option Date) (now : Date) (loadUnit : ThrowingLoader)
    (ctx : ToolContext) (args : ToolArguments) (name : ToolName) : ToolResult :=
  if name = .getFeeSchedule then getFeeSchedule parseDate now args
  else
    match loadUnit ctx with
    | .error message => toolError (some name) (message.getD "tool execution failed")
    | .ok unit => handler parseDate now (fun _ => unit) ctx args name

/-- `invoke`.  A rejection does not list the allowlist back. -/
def invokeTool (parseDate : String → Option Date) (now : Date) (loadUnit : ThrowingLoader)
    (ctx : ToolContext) (name : String) (args : ToolArguments) : ToolResult :=
  match isToolName name with
  | none => toolError none ("unknown tool: " ++ Text.slice name 40)
  | some tool =>
      match validateArguments parseDate args with
      | .error e => toolError (some tool) e
      | .ok args => runTool parseDate now loadUnit ctx args tool

/-! ## What a call shows -/

/-- What any answer of the registry comes to, given the unit of the case. -/
structure Confined (unit : Option ReconciliationUnit) (result : ToolResult) : Prop where
  /-- Every id is one of a record of the case. -/
  ids : ∀ id ∈ result.recordIds, ∃ u ∈ unit, id ∈ u.recordIds
  /-- No list is longer than the cap. -/
  bounded : ∀ field rows, (field, Json.rows rows) ∈ result.data → rows.length ≤ MAX_RECORDS
  /-- A failure shows nothing but its text. -/
  failed : result.ok = false → result.data = [] ∧ result.recordIds = [] ∧ result.error ≠ none
  succeeded : result.ok = true → result.error = none

theorem confined_toolError (unit : Option ReconciliationUnit) (name : Option ToolName)
    (error : String) : Confined unit (toolError name error) where
  ids := nofun
  bounded := nofun
  failed _ := ⟨rfl, rfl, Option.some_ne_none _⟩
  succeeded := nofun

theorem confined_toolOk {unit : Option ReconciliationUnit} {name : ToolName} {data : JsonObject}
    {summary : String} {recordIds : List String}
    (hids : ∀ id ∈ recordIds, ∃ u ∈ unit, id ∈ u.recordIds)
    (hbounded : ∀ field rows, (field, Json.rows rows) ∈ data → rows.length ≤ MAX_RECORDS) :
    Confined unit (toolOk name data summary recordIds) where
  ids := hids
  bounded := hbounded
  failed := nofun
  succeeded _ := rfl

theorem length_cap_le {α : Type} (l : List α) : (cap l).length ≤ MAX_RECORDS := by
  rw [cap, List.length_take]
  exact Nat.min_le_left _ _

/-- A tool that reads the unit is confined to it. -/
theorem confined_withUnit {unit : Option ReconciliationUnit} (ctx : ToolContext) (name : ToolName)
    {fn : ReconciliationUnit → ToolResult} (hfn : ∀ u ∈ unit, Confined unit (fn u)) :
    Confined unit (withUnit (fun _ => unit) ctx name fn) := by
  unfold withUnit
  cases hunit : unit with
  | none => exact confined_toolError _ _ _
  | some u =>
      subst hunit
      exact hfn u rfl

theorem mem_recordIds_payment (u : ReconciliationUnit) : u.payment.id ∈ u.recordIds := by
  simp [ReconciliationUnit.recordIds]

@[simp] theorem str?_ne_rows (text : Option String) (rows : List Row) :
    Json.rows rows ≠ Json.str? text := by
  cases text <;> nofun

@[simp] theorem bool?_ne_rows (value : Option Bool) (rows : List Row) :
    Json.rows rows ≠ (value.map Json.bool).getD .null := by
  cases value <;> nofun

/-- The tools that list records are confined: what they name is of the unit, what they show is
cut. -/
theorem confined_list (tool : ListTool) (unit : Option ReconciliationUnit) (ctx : ToolContext)
    (args : ToolArguments) : Confined unit (tool.run (fun _ => unit) ctx args) := by
  cases hunit : unit with
  | none => cases tool <;> exact confined_toolError _ _ _
  | some u =>
      have hload : (fun _ : ToolContext => some u) ctx = some u := rfl
      have hids : ∀ id ∈ (tool.run (fun _ => some u) ctx args).recordIds,
          ∃ u' ∈ some u, id ∈ u'.recordIds := by
        intro id hid
        rw [(evidence_presents hload tool args).recordIds] at hid
        refine ⟨u, rfl, ?_⟩
        rw [recordIds_eq]
        exact ((cited_sublist tool args u).map _).subset hid
      have hlist : ∀ {α : Type} (l : List α) (entry : α → Row),
          ((cap l).map entry).length ≤ MAX_RECORDS := by
        intro α l entry
        rw [List.length_map]
        exact length_cap_le l
      cases tool <;> refine confined_toolOk hids fun field rows hrows => ?_ <;>
        simp only [List.mem_cons, List.not_mem_nil, or_false, Prod.mk.injEq, Json.str,
          Json.rows.injEq, reduceCtorEq, and_false, false_or, str?_ne_rows] at hrows
      case settlementBreakup =>
        rcases hrows with ⟨-, rfl⟩ | ⟨-, rfl⟩ <;> exact hlist _ _
      case feeTaxLines =>
        rcases hrows with ⟨-, rfl⟩ | ⟨-, rfl⟩ <;> exact hlist _ _
      all_goals
        obtain ⟨-, rfl⟩ := hrows
        exact hlist _ _

theorem confined_getFeeSchedule (parseDate : String → Option Date) (now : Date)
    (unit : Option ReconciliationUnit) (args : ToolArguments) :
    Confined unit (getFeeSchedule parseDate now args) := by
  unfold getFeeSchedule
  split
  · exact confined_toolError _ _ _
  · refine confined_toolOk (fun id hid => absurd hid List.not_mem_nil) ?_
    intro field rows hrows
    simp only [List.mem_cons, List.not_mem_nil, or_false, Prod.mk.injEq, Json.str, Json.num,
      Json.rows.injEq, reduceCtorEq, and_false, false_or] at hrows
    rw [hrows.2]
    decide

/-- **Every tool is confined** to the unit of the case. -/
theorem confined_handler (parseDate : String → Option Date) (now : Date)
    (unit : Option ReconciliationUnit) (ctx : ToolContext) (args : ToolArguments)
    (name : ToolName) : Confined unit (handler parseDate now (fun _ => unit) ctx args name) := by
  cases name with
  | getSettlementBreakup => exact confined_list .settlementBreakup unit ctx args
  | getFeeTaxLines => exact confined_list .feeTaxLines unit ctx args
  | getBankCredit => exact confined_list .bankCredit unit ctx args
  | searchRelatedAdjustments => exact confined_list .relatedAdjustments unit ctx args
  | getRefunds => exact confined_list .refunds unit ctx args
  | getFeeSchedule => exact confined_getFeeSchedule parseDate now unit args
  | getLedgerEntries =>
      refine confined_withUnit ctx .getLedgerEntries fun u hu =>
        confined_toolOk (fun id hid => ?_) ?_
      · rw [List.mem_singleton.1 hid]
        exact ⟨u, hu, mem_recordIds_payment u⟩
      · intro field rows hrows
        simp only [List.mem_cons, List.not_mem_nil, or_false, Prod.mk.injEq, Json.str,
          Json.rows.injEq, reduceCtorEq, and_false] at hrows
        rw [hrows.2]
        exact Nat.zero_le _
  | calculateExpectedNetAmount =>
      refine confined_withUnit ctx .calculateExpectedNetAmount fun u hu => ?_
      dsimp only
      split
      · exact confined_toolError _ _ _
      · refine confined_toolOk (fun id hid => ?_) ?_
        · rw [List.mem_singleton.1 hid]
          exact ⟨u, hu, mem_recordIds_payment u⟩
        · intro field rows hrows
          simp only [List.mem_cons, List.not_mem_nil, or_false, Prod.mk.injEq, Json.str,
            reduceCtorEq, and_false, str?_ne_rows] at hrows
  | validateTaxLineMapping =>
      refine confined_withUnit ctx .validateTaxLineMapping fun u hu =>
        confined_toolOk (fun id hid => ?_) ?_
      · refine ⟨u, hu, ?_⟩
        simp only [List.mem_append] at hid
        simp only [ReconciliationUnit.recordIds, List.mem_append, List.mem_cons]
        tauto
      · intro field rows hrows
        simp only [List.mem_cons, List.not_mem_nil, or_false, Prod.mk.injEq, Json.str,
          reduceCtorEq, and_false, str?_ne_rows, bool?_ne_rows] at hrows

/-! ## When a call succeeds -/

/-- What a tool needs beyond arguments that are in order. -/
def Answerable (parseDate : String → Option Date) (now : Date) (loadUnit : ThrowingLoader)
    (ctx : ToolContext) (args : ToolArguments) : ToolName → Prop
  | .getFeeSchedule =>
      ∃ t schedule, scheduleInstant parseDate now args = some t ∧ scheduleAt t = some schedule
  | .calculateExpectedNetAmount =>
      ∃ unit, loadUnit ctx = .ok (some unit) ∧ unit.expectedNetInput.Sound
  | _ => ∃ unit, loadUnit ctx = .ok (some unit)

theorem getFeeSchedule_ok_iff (parseDate : String → Option Date) (now : Date)
    (args : ToolArguments) :
    (getFeeSchedule parseDate now args).ok = true ↔
      ∃ t schedule, scheduleInstant parseDate now args = some t ∧
        scheduleAt t = some schedule := by
  unfold getFeeSchedule
  cases hinstant : scheduleInstant parseDate now args with
  | none => simp [toolError]
  | some t =>
      cases hschedule : scheduleAt t with
      | none => simp [toolError, hschedule]
      | some schedule => simp [toolOk, hschedule]

theorem handler_none (parseDate : String → Option Date) (now : Date) (ctx : ToolContext)
    (args : ToolArguments) {name : ToolName} (hname : name ≠ .getFeeSchedule) :
    handler parseDate now (fun _ => none) ctx args name =
      toolError (some name) "no such payment in this merchant scope" := by
  cases name with
  | getFeeSchedule => exact absurd rfl hname
  | _ => rfl

/-- With a unit every tool succeeds, but for the arithmetic over records that do not add up. -/
theorem handler_ok_iff (parseDate : String → Option Date) (now : Date) (unit : ReconciliationUnit)
    (ctx : ToolContext) (args : ToolArguments) {name : ToolName}
    (hname : name ≠ .getFeeSchedule) :
    (handler parseDate now (fun _ => some unit) ctx args name).ok = true ↔
      (name = .calculateExpectedNetAmount → unit.expectedNetInput.Sound) := by
  cases name with
  | getFeeSchedule => exact absurd rfl hname
  | calculateExpectedNetAmount =>
      refine ⟨fun hok _ => ?_, fun h => (calculateExpectedNetAmount_of_sound rfl (h rfl)).1⟩
      by_contra hnot
      let load : UnitLoader := fun _ => some unit
      have hfail := calculateExpectedNetAmount_of_not_sound (rfl : load ctx = some unit) hnot
      rw [handler, hfail] at hok
      exact Bool.noConfusion hok
  | _ => exact ⟨fun _ h => ToolName.noConfusion h, fun _ => rfl⟩

theorem runTool_ok_iff (parseDate : String → Option Date) (now : Date)
    (loadUnit : ThrowingLoader) (ctx : ToolContext) (args : ToolArguments) (name : ToolName) :
    (runTool parseDate now loadUnit ctx args name).ok = true ↔
      Answerable parseDate now loadUnit ctx args name := by
  by_cases hname : name = .getFeeSchedule
  · subst hname
    rw [runTool, if_pos rfl, getFeeSchedule_ok_iff]
    rfl
  rw [runTool, if_neg hname]
  cases hload : loadUnit ctx with
  | error message =>
      refine ⟨fun h => Bool.noConfusion h, fun h => ?_⟩
      cases name <;> simp [Answerable, hload] at h hname
  | ok loaded =>
      cases loaded with
      | none =>
          dsimp only
          rw [handler_none parseDate now ctx args hname]
          refine ⟨fun h => Bool.noConfusion h, fun h => ?_⟩
          cases name <;> simp [Answerable, hload] at h hname
      | some unit =>
          dsimp only
          rw [handler_ok_iff parseDate now unit ctx args hname]
          cases name <;> simp [Answerable, hload] at hname ⊢

theorem handler_name (parseDate : String → Option Date) (now : Date) (loadUnit : UnitLoader)
    (ctx : ToolContext) (args : ToolArguments) (name : ToolName) :
    (handler parseDate now loadUnit ctx args name).name = some name := by
  cases name with
  | getFeeSchedule =>
      unfold handler getFeeSchedule
      dsimp only
      split <;> rfl
  | calculateExpectedNetAmount =>
      unfold handler calculateExpectedNetAmount withUnit
      dsimp only
      split
      · rfl
      · split <;> rfl
  | _ =>
      cases hload : loadUnit ctx <;>
        simp [handler, getSettlementBreakup, getFeeTaxLines, getLedgerEntries, getBankCredit,
          searchRelatedAdjustments, getRefunds, validateTaxLineMapping, withUnit, hload, toolOk,
          toolError]

/-- What a call proves does not depend on the arguments. -/
theorem handler_recordIds (parseDate : String → Option Date) (now : Date) (loadUnit : UnitLoader)
    (ctx : ToolContext) (args args' : ToolArguments) (name : ToolName) :
    (handler parseDate now loadUnit ctx args name).recordIds =
      (handler parseDate now loadUnit ctx args' name).recordIds := by
  cases name with
  | getFeeSchedule =>
      have hnil : ∀ a, (getFeeSchedule parseDate now a).recordIds = [] := by
        intro a
        unfold getFeeSchedule
        split <;> rfl
      exact (hnil args).trans (hnil args').symm
  | getBankCredit =>
      cases hload : loadUnit ctx <;>
        simp [handler, getBankCredit, withUnit, hload, toolOk, toolError]
  | _ => rfl

/-! ## The contract -/

/-- The unit a call can see. -/
def ThrowingLoader.unit (loadUnit : ThrowingLoader) (ctx : ToolContext) :
    Option ReconciliationUnit :=
  match loadUnit ctx with
  | .ok unit => unit
  | .error _ => none

theorem confined_runTool (parseDate : String → Option Date) (now : Date)
    (loadUnit : ThrowingLoader) (ctx : ToolContext) (args : ToolArguments) (name : ToolName) :
    Confined (loadUnit.unit ctx) (runTool parseDate now loadUnit ctx args name) := by
  unfold runTool
  split
  · exact confined_getFeeSchedule parseDate now _ args
  · unfold ThrowingLoader.unit
    cases loadUnit ctx with
    | error message => exact confined_toolError _ _ _
    | ok unit => exact confined_handler parseDate now unit ctx args name

theorem confined_invokeTool (parseDate : String → Option Date) (now : Date)
    (loadUnit : ThrowingLoader) (ctx : ToolContext) (name : String) (args : ToolArguments) :
    Confined (loadUnit.unit ctx) (invokeTool parseDate now loadUnit ctx name args) := by
  unfold invokeTool
  split
  · exact confined_toolError _ _ _
  · split
    · exact confined_toolError _ _ _
    · exact confined_runTool parseDate now loadUnit ctx _ _

theorem runTool_name (parseDate : String → Option Date) (now : Date) (loadUnit : ThrowingLoader)
    (ctx : ToolContext) (args : ToolArguments) (name : ToolName) :
    (runTool parseDate now loadUnit ctx args name).name = some name := by
  unfold runTool
  split
  case isTrue h =>
    subst h
    exact handler_name parseDate now (fun _ => none) ctx args .getFeeSchedule
  case isFalse =>
    split
    · rfl
    · exact handler_name parseDate now _ ctx args name

theorem runTool_recordIds (parseDate : String → Option Date) (now : Date)
    (loadUnit : ThrowingLoader) (ctx : ToolContext) (args args' : ToolArguments)
    (name : ToolName) :
    (runTool parseDate now loadUnit ctx args name).recordIds =
      (runTool parseDate now loadUnit ctx args' name).recordIds := by
  unfold runTool
  split
  case isTrue =>
    exact handler_recordIds parseDate now (fun _ => none) ctx args args' .getFeeSchedule
  case isFalse =>
    split
    · rfl
    · exact handler_recordIds parseDate now _ ctx args args' name

theorem validateArguments_ok {parseDate : String → Option Date} {args args' : ToolArguments}
    (h : validateArguments parseDate args = .ok args') : args' = args := by
  unfold validateArguments at h
  repeat' split at h
  all_goals cases h
  rfl

/-- The arguments are in order. -/
def ValidArguments (parseDate : String → Option Date) (args : ToolArguments) : Prop :=
  validateArguments parseDate args = .ok args

/-- **The registry is a boundary.**  Whatever name and arguments the model supplies, and whatever
the load does: the answer names records of the case alone, shows lists that are cut, and, where
it is a failure, nothing but its text.  It succeeds exactly when the name is on the list, the
arguments are in order and the tool has what it needs.  It carries the name that was called only
if that is a tool, and the arguments do not change what a call proves. -/
theorem registry_contract (parseDate : String → Option Date) (now : Date)
    (loadUnit : ThrowingLoader) (ctx : ToolContext) (name : String) (args : ToolArguments) :
    let result := invokeTool parseDate now loadUnit ctx name args
    Confined (loadUnit.unit ctx) result ∧
    (result.ok = true ↔ ∃ tool, isToolName name = some tool ∧ ValidArguments parseDate args ∧
      Answerable parseDate now loadUnit ctx args tool) ∧
    result.name = isToolName name ∧
    (isToolName name = none →
      result.error = some ("unknown tool: " ++ Text.slice name 40)) ∧
    ∀ args', ValidArguments parseDate args → ValidArguments parseDate args' →
      (invokeTool parseDate now loadUnit ctx name args').recordIds = result.recordIds := by
  intro result
  have hconfined : Confined (loadUnit.unit ctx) result :=
    confined_invokeTool parseDate now loadUnit ctx name args
  refine ⟨hconfined, ?_⟩
  cases htool : isToolName name with
  | none =>
      have hresult : ∀ a, invokeTool parseDate now loadUnit ctx name a =
          toolError none ("unknown tool: " ++ Text.slice name 40) := by
        intro a
        unfold invokeTool
        rw [htool]
      have h : result = _ := hresult args
      rw [h]
      refine ⟨⟨fun h => Bool.noConfusion h, nofun⟩, rfl, fun _ => rfl, fun args' _ _ => ?_⟩
      rw [hresult args']
  | some tool =>
      have hinvoke : ∀ a, invokeTool parseDate now loadUnit ctx name a =
          match validateArguments parseDate a with
          | .error e => toolError (some tool) e
          | .ok a => runTool parseDate now loadUnit ctx a tool := by
        intro a
        unfold invokeTool
        rw [htool]
      have hvalid : ∀ a, ValidArguments parseDate a →
          invokeTool parseDate now loadUnit ctx name a =
            runTool parseDate now loadUnit ctx a tool := by
        intro a ha
        rw [hinvoke, show validateArguments parseDate a = .ok a from ha]
      cases hargs : validateArguments parseDate args with
      | error e =>
          have hnot : ¬ ValidArguments parseDate args := by
            intro h
            rw [ValidArguments, hargs] at h
            cases h
          have h : result = toolError (some tool) e := by
            show invokeTool parseDate now loadUnit ctx name args = _
            rw [hinvoke, hargs]
          rw [h]
          exact ⟨⟨fun h => Bool.noConfusion h, fun ⟨_, _, h, _⟩ => absurd h hnot⟩, rfl, nofun,
            fun args' h => absurd h hnot⟩
      | ok args₁ =>
          have hval : ValidArguments parseDate args := by
            rw [ValidArguments, hargs, validateArguments_ok hargs]
          have h : result = runTool parseDate now loadUnit ctx args tool := hvalid args hval
          rw [h]
          refine ⟨?_, runTool_name parseDate now loadUnit ctx args tool, nofun,
            fun args' _ hval' => ?_⟩
          · rw [runTool_ok_iff]
            constructor
            · intro hanswer
              exact ⟨tool, rfl, hval, hanswer⟩
            · rintro ⟨tool', heq, -, hanswer⟩
              rw [Option.some.inj heq]
              exact hanswer
          · rw [hvalid args' hval', runTool_recordIds]

end SettlementOps
