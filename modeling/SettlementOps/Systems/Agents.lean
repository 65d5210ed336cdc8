import SettlementOps.Systems.Benchmark

/-!
# The agent on the generated cases

Whatever the model replies, the agent resolves nothing that the verifier does not.

* `Vouched`, `runSystemC_vouched` — a resolution of a treatment is one the verifier passes.
* `never_unsupported_iff` — on which cases no treatment can be unsafe.
-/

namespace SettlementOps

open Interleave

section Exits

variable {σ : Type} {T : Effect σ AgentAction AgentAction.Answer}

/-- An investigation that names no cause escalates. -/
def ExitsSafely (result : AgentResult) : Prop :=
  result.proposedCause = none → result.proposedDisposition = .escalate

theorem exitsSafely_escalate (stopReason : StopReason) (rationale : String) (g : Gathered) :
    ExitsSafely (escalate stopReason rationale g) := fun _ => rfl

theorem exitsSafely_propose (cause : CauseCode) (disposition : Disposition)
    (conclusion reasoning : String) (injectionDetected : Option Bool) (g : Gathered) :
    ExitsSafely (propose cause disposition conclusion reasoning injectionDetected g) := nofun

/-- A loop stops the investigation only by escalating it. -/
theorem wp_investigate_exits (system : SystemPrompt) (p : LoopParams) (startedAt : Date)
    (remaining : Nat) : ∀ (s : LoopState) (st : σ),
      Wp T (fun out _ => ∀ result, out = .error result → ExitsSafely result)
        (investigate system p startedAt remaining s) st := by
  induction remaining with
  | zero =>
      intro s st result h
      cases h
  | succ remaining ih =>
      intro s st
      unfold investigate
      intro now st₁ _
      dsimp only [Prog.bind_ret]
      split
      · intro result h
        cases h
        exact exitsSafely_escalate _ _ _
      intro reply st₂ _
      cases reply with
      | failed failure detail =>
          intro result h
          cases h
          exact exitsSafely_escalate _ _ _
      | ok value =>
          dsimp only [Prog.bind_ret]
          split
          · intro result h
            cases h
          split
          · exact ih _ _
          split
          · intro result h
            cases h
            exact exitsSafely_escalate _ _ _
          · exact fun answer st₃ _ => ih _ _

theorem wp_investigateV2_exits (p : LoopParams) (startedAt : Date) (remaining : Nat) :
    ∀ (s : LoopStateV2) (st : σ),
      Wp T (fun out _ => ∀ result, out = .error result → ExitsSafely result)
        (investigateV2 p startedAt remaining s) st := by
  induction remaining with
  | zero =>
      intro s st result h
      cases h
  | succ remaining ih =>
      intro s st
      unfold investigateV2
      split
      · intro result h
        cases h
      intro now st₁ _
      dsimp only [Prog.bind_ret]
      split
      · intro result h
        cases h
        exact exitsSafely_escalate _ _ _
      intro reply st₂ _
      cases reply with
      | failed failure detail =>
          intro result h
          cases h
          exact exitsSafely_escalate _ _ _
      | ok value =>
          dsimp only [Prog.bind_ret]
          split
          · intro result h
            cases h
          split
          · exact ih _ _
          split
          · exact ih _ _
          · exact fun answer st₃ _ => ih _ _

/-- Every end of the first loop. -/
theorem wp_runInvestigation_exits (system : SystemPrompt) (p : LoopParams) (st : σ) :
    Wp T (fun result _ => ExitsSafely result) (runInvestigation system p) st := by
  rintro startedAt st₁ - breakup st₂ - net st₃ -
  refine wp_then (M := fun (out : Except AgentResult LoopState) _ =>
    ∀ result, out = .error result → ExitsSafely result) ?_ ?_
  · apply wp_investigate_exits
  intro out st₄ hout
  cases out with
  | error result => exact hout result rfl
  | ok s =>
      dsimp only
      unfold concludeInvestigation
      split
      · exact exitsSafely_escalate _ _ _
      intro reply st₅ _
      cases reply with
      | failed failure detail => exact exitsSafely_escalate _ _ _
      | ok value =>
          dsimp only [Prog.bind_ret]
          split
          · exact exitsSafely_propose _ _ _ _ _ _
          · exact exitsSafely_escalate _ _ _

/-- Every end of the second loop. -/
theorem wp_runInvestigationV2_exits (p : LoopParams) (st : σ) :
    Wp T (fun result _ => ExitsSafely result) (runInvestigationV2 p) st := by
  rintro startedAt st₁ - breakup st₂ - net st₃ -
  refine wp_then (M := fun (out : Except AgentResult LoopStateV2) _ =>
    ∀ result, out = .error result → ExitsSafely result) ?_ ?_
  · apply wp_investigateV2_exits
  intro out st₄ hout
  cases out with
  | error result => exact hout result rfl
  | ok s =>
      dsimp only
      unfold concludeInvestigationV2
      split
      · exact exitsSafely_escalate _ _ _
      intro reply st₅ _
      cases reply with
      | failed failure detail => exact exitsSafely_escalate _ _ _
      | ok value =>
          dsimp only [Prog.bind_ret]
          split
          · exact exitsSafely_propose _ _ _ _ _ _
          · exact exitsSafely_escalate _ _ _

end Exits

/-! ## The gate in front of every treatment -/

/-- A resolution is one the verifier gives. -/
def Vouched (unit : ReconciliationUnit) (outcome : SystemOutcome) : Prop :=
  outcome.effectiveDisposition = .resolve →
    ∃ proposal, (verify proposal unit).effectiveDisposition = .resolve

theorem investigated_vouched {unit : ReconciliationUnit} {result : AgentResult}
    (h : ExitsSafely result) : Vouched unit (investigated unit result) := by
  intro heff
  unfold investigated at heff
  dsimp only at heff
  cases hcause : result.proposedCause with
  | none =>
      rw [hcause] at heff
      dsimp only at heff
      rw [h hcause] at heff
      cases heff
  | some cause =>
      rw [hcause] at heff
      exact ⟨_, heff⟩

/-- A proposal to resolve goes through the gate with what was retrieved as its evidence. -/
theorem investigated_resolve {unit : ReconciliationUnit} {result : AgentResult} {cause : CauseCode}
    (hcause : result.proposedCause = some cause)
    (hresolve : result.proposedDisposition = .resolve) :
    ∃ proposal, proposal.cause = cause ∧ proposal.disposition = .resolve ∧
      proposal.evidenceRecordIds = result.evidenceRecordIds ∧
      proposal.retrievedRecordIds = some result.evidenceRecordIds ∧
      (investigated unit result).effectiveDisposition =
        (verify proposal unit).effectiveDisposition := by
  unfold investigated
  rw [hcause]
  exact ⟨_, rfl, hresolve, rfl, rfl, rfl⟩

/-- **System C resolves nothing the verifier does not**, whatever the model and the tools
answer. -/
theorem runSystemC_vouched (unit : ReconciliationUnit) (system : SystemPrompt) (p : LoopParams)
    (env : List AgentEvent → (a : AgentAction) → a.Answer) :
    Vouched unit (play env (runSystemC unit system p) []).1 := by
  have hruns : Wp recorded (fun outcome _ => Vouched unit outcome) (runSystemC unit system p) [] :=
    wp_then (wp_runInvestigation_exits system p []) fun _ _ h => investigated_vouched h
  exact Wp.play env _ hruns

theorem runSystemCv2_vouched (unit : ReconciliationUnit) (p : LoopParams)
    (env : List AgentEvent → (a : AgentAction) → a.Answer) :
    Vouched unit (play env (runSystemCv2 unit p) []).1 := by
  have hruns : Wp recorded (fun outcome _ => Vouched unit outcome) (runSystemCv2 unit p) [] :=
    wp_then (wp_runInvestigationV2_exits p []) fun _ _ h => investigated_vouched h
  exact Wp.play env _ hruns

/-- System B likewise, over any registry. -/
theorem runSystemB_vouched (unit : ReconciliationUnit) (registry : ToolRegistry)
    (ctx : ToolContext) : Vouched unit (runSystemB unit registry ctx) := by
  unfold runSystemB
  dsimp only
  cases SystemB.decide unit (gatherEvidence unit registry ctx).varianceMinor with
  | none => exact nofun
  | some cause => exact fun heff => ⟨_, heff⟩

/-! ## A model that insists -/

/-- A run of one program after another. -/
theorem play_bind {A α β : Type} {R : A → Type} (env : List (Event A R) → (a : A) → R a)
    (f : α → Prog A R β) (p : Prog A R α) :
    ∀ h, play env (p >>= f) h = play env (f (play env p h).1) (play env p h).2 := by
  induction p with
  | ret x => exact fun h => rfl
  | act a k ih => exact fun h => ih _ _

/-- A model that concludes at once and proposes a cause, with tools that answer by the registry. -/
def insists (invoke : ToolContext → ToolName → ToolResult) (cause : CauseCode) :
    List AgentEvent → (a : AgentAction) → a.Answer
  | _, .now => ⟨0⟩
  | _, .invoke ctx name => invoke ctx name
  | _, .chatStep _ _ => .ok ⟨"", "CONCLUDE", none, []⟩
  | _, .chatProposal _ _ => .ok ⟨"", cause.code, "RESOLVE", none⟩
  | _, .chatProposalV2 _ _ => .ok ⟨"", cause.code, "RESOLVE_SUPPORTED", none⟩

/-- What both openers retrieve. -/
def openingEvidence (invoke : ToolContext → ToolName → ToolResult) (ctx : ToolContext) :
    List String :=
  (invoke ctx .calculateExpectedNetAmount).recordIds.foldl addNew
    ((invoke ctx .getSettlementBreakup).recordIds.foldl addNew [])

theorem isCauseCode_code (cause : CauseCode) : isCauseCode cause.code = some cause := by
  cases cause <;> decide

theorem overTime_start (p : LoopParams) (t : Date) : overTime p t t = false := by
  rw [overTime, sub_self, decide_eq_false_iff_not]
  omega

/-- Such a model leaves the loop with what the openers retrieved. -/
theorem investigate_insists (invoke : ToolContext → ToolName → ToolResult) (cause : CauseCode)
    (system : SystemPrompt) (p : LoopParams) (remaining : Nat) (s : LoopState)
    (h : List AgentEvent) :
    ∃ s', (play (insists invoke cause) (investigate system p ⟨0⟩ remaining s) h).1 = .ok s' ∧
      s'.evidence = s.evidence ∧ s'.toolCalls = s.toolCalls := by
  cases remaining with
  | zero => exact ⟨s, rfl, rfl, rfl⟩
  | succ remaining =>
      refine ⟨{ s with steps := s.steps + 1 }, ?_, rfl, rfl⟩
      unfold investigate
      simp only [ask, Prog.perform_bind, play, insists, overTime_start, Bool.false_eq_true,
        if_false, true_or, if_true]
      rfl

/-- Such a model gets its proposal through the loop, on whatever budget. -/
theorem insists_proposes (invoke : ToolContext → ToolName → ToolResult) (cause : CauseCode)
    (system : SystemPrompt) (p : LoopParams) :
    let result := (play (insists invoke cause) (runInvestigation system p) []).1
    result.proposedCause = some cause ∧ result.proposedDisposition = .resolve ∧
      result.evidenceRecordIds = openingEvidence invoke p.ctx := by
  intro result
  let s₀ := (LoopState.empty.called 0 .getSettlementBreakup 1
    (invoke p.ctx .getSettlementBreakup)).called 0 .calculateExpectedNetAmount 1
      (invoke p.ctx .calculateExpectedNetAmount)
  let h₀ : List AgentEvent := [⟨.now, ⟨0⟩⟩,
    ⟨.invoke p.ctx .getSettlementBreakup, invoke p.ctx .getSettlementBreakup⟩,
    ⟨.invoke p.ctx .calculateExpectedNetAmount, invoke p.ctx .calculateExpectedNetAmount⟩]
  obtain ⟨conclude, hconclude, hrun⟩ : ∃ conclude : Except AgentResult LoopState →
      AgentProgram AgentResult, (∀ s, conclude (.ok s) = concludeInvestigation system p s) ∧
      result = (play (insists invoke cause)
        (investigate system p ⟨0⟩ p.budget.maxSteps s₀ >>= conclude) h₀).1 :=
    ⟨_, fun _ => rfl, rfl⟩
  obtain ⟨s, hout, hevidence, hcalls⟩ :=
    investigate_insists invoke cause system p p.budget.maxSteps s₀ h₀
  have htwo : ¬ s.toolCalls = 0 := by
    rw [hcalls]
    exact Nat.succ_ne_zero _
  have hdisposition : isDisposition "RESOLVE" = some .resolve := by decide
  rw [hrun, play_bind, hout, hconclude]
  unfold concludeInvestigation
  rw [if_neg htwo]
  simp only [ask, Prog.perform_bind, play, insists, isCauseCode_code, hdisposition]
  exact ⟨rfl, rfl, hevidence⟩

/-- What it comes to is for the gate to decide. -/
theorem insists_effective (invoke : ToolContext → ToolName → ToolResult) (cause : CauseCode)
    (system : SystemPrompt) (p : LoopParams) (unit : ReconciliationUnit) :
    ∃ proposal, proposal.cause = cause ∧ proposal.disposition = .resolve ∧
      proposal.evidenceRecordIds = openingEvidence invoke p.ctx ∧
      proposal.retrievedRecordIds = some (openingEvidence invoke p.ctx) ∧
      (play (insists invoke cause) (runSystemC unit system p) []).1.effectiveDisposition =
        (verify proposal unit).effectiveDisposition := by
  obtain ⟨hcause, hresolve, hevidence⟩ := insists_proposes invoke cause system p
  have hrun : (play (insists invoke cause) (runSystemC unit system p) []).1 =
      investigated unit (play (insists invoke cause) (runInvestigation system p) []).1 := by
    rw [runSystemC, play_bind]
    rfl
  rw [hrun, ← hevidence]
  exact investigated_resolve hcause hresolve

/-- The tools of the benchmark, as a loop calls them. -/
def benchmarkInvoke (parseDate : String → Option Date) (now : Date) (store : RecordStore) :
    ToolContext → ToolName → ToolResult :=
  fun ctx name => benchmarkRegistry parseDate now store ctx name.code {}

theorem openingEvidence_cites (parseDate : String → Option Date) (now : Date)
    {store : RecordStore} {ctx : ToolContext} {unit : ReconciliationUnit}
    (hload : loadUnit store ctx.scope ctx.paymentId = some unit) :
    unit.Cites (openingEvidence (benchmarkInvoke parseDate now store) ctx) ∧
      openingEvidence (benchmarkInvoke parseDate now store) ctx ≠ [] := by
  let loader : ThrowingLoader := fun ctx => .ok (loadUnit store ctx.scope ctx.paymentId)
  have hunit : loader.unit ctx = some unit := hload
  have hcites : ∀ name : ToolName,
      unit.Cites (benchmarkInvoke parseDate now store ctx name).recordIds := by
    intro name id hid
    obtain ⟨u, hu, hmem⟩ := (confined_invokeTool parseDate now loader ctx name.code {}).ids id hid
    rw [hunit] at hu
    cases hu
    exact hmem
  have hbreakup : unit.payment.id ∈
      (benchmarkInvoke parseDate now store ctx .getSettlementBreakup).recordIds := by
    have hresult : benchmarkInvoke parseDate now store ctx .getSettlementBreakup =
        getSettlementBreakup (fun _ => some unit) ctx := by
      have hloader : loader ctx = .ok (some unit) := congrArg _ hload
      show createToolRegistry parseDate now loader ctx ToolName.getSettlementBreakup.code {} = _
      rw [registry_code, runTool, if_neg (by decide), hloader]
      rfl
    rw [hresult]
    exact List.mem_cons_self
  constructor
  · intro id hid
    rcases mem_foldl_addNew.1 hid with hid | hid
    · rcases mem_foldl_addNew.1 hid with hid | hid
      · exact absurd hid List.not_mem_nil
      · exact hcites _ id hid
    · exact hcites _ id hid
  · exact List.ne_nil_of_mem (mem_foldl_addNew.2 (.inl (mem_foldl_addNew.2 (.inr hbreakup))))

namespace Generator

open Random Scoring

/-- No treatment resolves the case against its label, over whatever registry, budget, model and
tools. -/
structure NeverUnsupported (unit : ReconciliationUnit) (truth : CaseBlueprint) : Prop where
  systemA : score (runSystemA unit) truth ≠ .unsupportedResolve
  systemB : ∀ registry ctx, score (runSystemB unit registry ctx) truth ≠ .unsupportedResolve
  systemC : ∀ system p env,
    score (play env (runSystemC unit system p) []).1 truth ≠ .unsupportedResolve
  systemCv2 : ∀ p env,
    score (play env (runSystemCv2 unit p) []).1 truth ≠ .unsupportedResolve

theorem unsupportedResolve_iff {outcome : SystemOutcome} {truth : CaseBlueprint} :
    score outcome truth = .unsupportedResolve ↔
      outcome.effectiveDisposition = .resolve ∧ truth.trueDisposition ≠ .resolve := by
  unfold score scoreOutcome
  dsimp only
  cases outcome.effectiveDisposition <;> cases truth.trueDisposition <;>
    cases causeIsCorrect outcome.proposedCause truth.trueCauses <;> simp

theorem score_of_vouched {unit : ReconciliationUnit} {outcome : SystemOutcome}
    {truth : CaseBlueprint} (h : Vouched unit outcome)
    (hnone : ∀ proposal, (verify proposal unit).effectiveDisposition ≠ .resolve) :
    score outcome truth ≠ .unsupportedResolve := by
  intro hscore
  obtain ⟨proposal, hresolved⟩ := h (unsupportedResolve_iff.1 hscore).1
  exact hnone proposal hresolved

section Cases

variable {parseDate : String → Option Date} (hreads : ReadsISO parseDate)
  {recordId : Nat → String} (hrecordId : Function.Injective recordId) (ctx : RequestContext)
  (ingestedAt : Date) (importId : String) (ordinal : Nat) (split : Split) (slug : String)
  (plan : CasePlan) (tape : Tape UInt32)

include hreads hrecordId in
/-- **On which cases no treatment can be unsafe.**  On a generated case no treatment can resolve
against the label, whatever the registry, the budget, the model and its tools answer, exactly when
the case is to be resolved, is the trap, or is explained by no cause by chance.  On any other case
a model that concludes at once and insists on some cause does, with the tools of the benchmark,
whatever its prompt and budget. -/
theorem never_unsupported_iff : ∃ toolCtx unit,
    benchmarkCase (importRequest parseDate ctx recordId ingestedAt importId
        (result (renderCase ordinal split slug plan) tape).visibleRecords) ctx.tenantId
      (result (renderCase ordinal split slug plan) tape).blueprint.paymentId =
        some (toolCtx, unit) ∧
    (NeverUnsupported unit (result (renderCase ordinal split slug plan) tape).blueprint ↔
      plan.Provable (result (drawCase split) tape) ∨ plan.adversarial = true ∨
        plan.Unmistakable (result (drawCase split) tape)) ∧
    (¬ (plan.Provable (result (drawCase split) tape) ∨ plan.adversarial = true ∨
        plan.Unmistakable (result (drawCase split) tape)) →
      ∃ cause, ∀ (now : Date) (system : SystemPrompt) (p : LoopParams), p.ctx = toolCtx →
        score (play (insists (benchmarkInvoke parseDate now
            (importRequest parseDate ctx recordId ingestedAt importId
              (result (renderCase ordinal split slug plan) tape).visibleRecords)) cause)
            (runSystemC unit system p) []).1
          (result (renderCase ordinal split slug plan) tape).blueprint =
            .unsupportedResolve) := by
  obtain ⟨toolCtx, unit, noise, hcase, hblueprint, hrange, hu⟩ := benchmarkCase_rendered hreads
    hrecordId ctx ingestedAt importId ordinal split slug plan tape rfl
  generalize result (drawCase split) tape = draw at hblueprint hrange hu ⊢
  have hsound : (plan.damaged (refsFor ordinal) draw).1.Sound := CasePlan.damaged_sound hrange
  have hload := benchmarkCase_eq_some hcase
  have hunsafe : ¬ (plan.Provable draw ∨ plan.adversarial = true ∨ plan.Unmistakable draw) →
      ∃ cause, ∀ (now : Date) (system : SystemPrompt) (p : LoopParams), p.ctx = toolCtx →
        score (play (insists (benchmarkInvoke parseDate now
            (importRequest parseDate ctx recordId ingestedAt importId
              (result (renderCase ordinal split slug plan) tape).visibleRecords)) cause)
            (runSystemC unit system p) []).1
          (result (renderCase ordinal split slug plan) tape).blueprint =
            .unsupportedResolve := by
    intro hno
    rw [hblueprint]
    simp only [not_or, Bool.not_eq_true] at hno
    obtain ⟨hlabel, hplain, hmistakable⟩ := hno
    rw [CasePlan.unmistakable_iff] at hmistakable
    push Not at hmistakable
    obtain ⟨cause, hfits⟩ := hmistakable
    refine ⟨cause, ?_⟩
    -- a model that insists on the cause gets it past the gate
    rintro now system p rfl
    generalize importRequest parseDate ctx recordId ingestedAt importId
      (result (renderCase ordinal split slug plan) tape).visibleRecords = store at hload
    obtain ⟨hcites, hne⟩ := openingEvidence_cites parseDate now hload
    obtain ⟨proposal, hcause, hresolve, hevidence, hretrieved, heff⟩ := insists_effective
      (benchmarkInvoke parseDate now store) cause system p unit
    refine unsupportedResolve_iff.2 ⟨heff.trans ?_, ?_⟩
    · rw [CasePlan.gate_of_plain hu hplain hrange hresolve (by rw [hevidence]; exact hne)
        (by rw [hevidence]; exact hcites) (by
          rw [hretrieved, hevidence]
          rintro ids ⟨⟩
          exact fun _ hid => hid), hcause]
      exact hfits
    · rwa [ne_eq, provable_iff]
  refine ⟨toolCtx, unit, hcase, ⟨fun hnever => ?_, ?_⟩, hunsafe⟩
  · by_contra hno
    obtain ⟨cause, hinsists⟩ := hunsafe hno
    exact hnever.systemC _ _ _ (hinsists ⟨0⟩ .v1 ⟨toolCtx, "", ⟨2, 1, 1, 1⟩⟩ rfl)
  · intro hcondition
    rw [hblueprint]
    by_cases hlabel : plan.Provable draw
    · have hresolve : (blueprintOf ordinal split slug plan draw).trueDisposition = .resolve :=
        provable_iff.2 hlabel
      have hnot : ∀ outcome, score outcome (blueprintOf ordinal split slug plan draw) ≠
          .unsupportedResolve := fun outcome h => (unsupportedResolve_iff.1 h).2 hresolve
      exact ⟨hnot _, fun _ _ => hnot _, fun _ _ _ => hnot _, fun _ _ => hnot _⟩
    · have hdifficult := hcondition.resolve_left hlabel
      have hnone : ∀ proposal, (verify proposal unit).effectiveDisposition ≠ .resolve := by
        rw [hu.unresolvable_iff hsound]
        cases htrap : plan.adversarial with
        | true => exact .inl (CasePlan.trapped htrap _ _)
        | false =>
            refine .inr fun cause hsupports => ?_
            have hunmistakable : plan.Unmistakable draw :=
              hdifficult.resolve_left (by rw [htrap]; exact Bool.false_ne_true)
            exact CasePlan.unmistakable_iff.1 hunmistakable cause
              ((CasePlan.supports_iff htrap hrange (refsFor ordinal) cause).1 hsupports)
      have hcovered : ¬ plan.Enumerated draw := by
        intro h
        rcases hdifficult with htrap | hunmistakable
        · exact Bool.noConfusion (h.plain.symm.trans htrap)
        · have hsmall : |plan.discrepancy draw| ≤ 4 := by
            refine le_trans h.conserves ?_
            split <;> decide
          exact absurd hunmistakable.1 (by omega)
      refine ⟨fun h => ?_, fun registry ctx => ?_, fun system p env => ?_, fun p env => ?_⟩
      · have heff := (unsupportedResolve_iff.1 h).1
        rw [(CasePlan.systemA_eq hu hrange).1, if_neg hcovered] at heff
        cases heff
      · exact score_of_vouched (runSystemB_vouched unit registry ctx) hnone
      · exact score_of_vouched (runSystemC_vouched unit system p env) hnone
      · exact score_of_vouched (runSystemCv2_vouched unit p env) hnone

/-- The trap: no model talks its way past the gate. -/
theorem never_unsupported_trap :
    let plan : CasePlan := ⟨[], true, false⟩
    ∃ toolCtx unit,
      benchmarkCase (importRequest parseISOString ⟨"u-1", "m-1", [], "c-1"⟩ toString ⟨0⟩ "i-1"
          (result (renderCase 1 .validation "acme" plan) (createRng 7)).visibleRecords) "m-1"
        (result (renderCase 1 .validation "acme" plan) (createRng 7)).blueprint.paymentId =
          some (toolCtx, unit) ∧
      NeverUnsupported unit
        (result (renderCase 1 .validation "acme" plan) (createRng 7)).blueprint := by
  intro plan
  obtain ⟨toolCtx, unit, hcase, hiff, -⟩ := never_unsupported_iff readsISO_parseISOString
    toString_injective ⟨"u-1", "m-1", [], "c-1"⟩ ⟨0⟩ "i-1" 1 .validation "acme" plan (createRng 7)
  exact ⟨toolCtx, unit, hcase, hiff.2 (.inr (.inl rfl))⟩

end Cases

end Generator

end SettlementOps
