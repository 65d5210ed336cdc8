import SettlementOps.Workflow.Approval
import SettlementOps.Workflow.Dispatch
import SettlementOps.Workflow.Statements

/-!
# What a run of the agent reports, and what it leaves behind

A call that runs the agent finishes its investigation, moves the case and reports what became
of it, in that order and in separate statements.  The three agree as long as the payment's
unit loads, the investigation is not finished by another call, and nobody moves the case of a
proposal between the verifier and the transition.

* `OutcomeAgrees` — the property of a call that has returned.
* `agreementRules` — the three conditions.
* `Finished` — an investigation has the status it was last finished with.
* `AgentProgress` — what a call has finished and moved so far.
* `outcome_agrees` — the property, over every run under the conditions.
* `dispatch_disagrees` — a unit that does not load, and a case that is moved in between.
-/

namespace SettlementOps

open Interleave

variable {L : Type}

/-! ## The property -/

/-- The status of an investigation of a merchant. -/
def Database.investigationStatus (db : Database) (scope : MerchantScope) (id : String) :
    Option InvestigationStatus :=
  (db.investigations.find? fun r => r.id = id ∧ r.scope = scope).map (·.status)

/-- The transitions a call has applied. -/
def transitionsOf (i : Nat) (log : List (Executed L)) : List AppliedTransition :=
  (own i log).filterMap applied

/-- The call moved the case of its run to a state. -/
def MovedTo (i : Nat) (run : AgentRun) (toState : CaseState) (log : List (Executed L)) : Prop :=
  ∃ t ∈ transitionsOf i log, t.caseId = run.caseId ∧ t.toState = toState

/-- What a call reports, the row of its investigation and the case agree. -/
structure OutcomeAgrees (i : Nat) (run : AgentRun) (kind : AgentOutcomeKind) (db : Database)
    (log : List (Executed L)) : Prop where
  proposed : kind = .proposed ↔ MovedTo i run .actionProposed log ∧
    db.investigationStatus run.scope run.investigationId = some .succeeded
  escalated : kind = .escalated ↔ MovedTo i run .escalated log ∧
    db.investigationStatus run.scope run.investigationId = some .failed
  otherwise : kind ≠ .proposed → kind ≠ .escalated → transitionsOf i log = [] ∧
    db.investigationStatus run.scope run.investigationId ≠ some .succeeded
  finished : db.investigationStatus run.scope run.investigationId ≠ some .running

/-! ## The conditions -/

/-- The investigation an executed statement finished, and how. -/
def finishOf : Executed L → Option (MerchantScope × String × InvestigationStatus)
  | ⟨_, _, .updateInvestigation scope id status _, _, _⟩ => some (scope, id, status)
  | _ => none

/-- The call has finished an investigation as succeeded: it is to propose an action. -/
def proposes (i : Nat) (log : List (Executed L)) : Bool :=
  ((own i log).filterMap finishOf).any fun f => f.2.2 == .succeeded

/-- The payment of a dispatch has a unit. -/
def WorkflowCall.loads : WorkflowCall → Bool
  | dispatchAgent records ctx input => (loadUnit records (scopeOf ctx) input.paymentId).isSome
  | operation _ => true

/-- A finish meets its investigation running. -/
def meetsRunning (db : Database) : Statement → Bool
  | .updateInvestigation scope id _ _ => db.investigationStatus scope id == some .running
  | _ => true

/-- A call that is to propose an action meets its case as it was when the call was made. -/
def meetsCase (db : Database) (log : List (Executed L)) (i : Nat) (ℓ : WorkflowCall)
    (a : Statement) : Bool :=
  !(proposes i log && a.touchesCase) ||
    ℓ.agentRun.all fun run => db.isAt run.scope run.caseId .investigating run.expectedVersion

def agreementRules : Rules Database Surroundings Statement Statement.Answer WorkflowCall where
  call _ _ ℓ := ℓ.loads = true
  run s log i ℓ a := meetsRunning s a = true ∧ meetsCase s log i ℓ a = true

instance (s : Database) (log : List (Executed WorkflowCall)) (ℓ : WorkflowCall) :
    Decidable (agreementRules.call s log ℓ) :=
  inferInstanceAs (Decidable (ℓ.loads = true))

instance (s : Database) (log : List (Executed WorkflowCall)) (i : Nat) (ℓ : WorkflowCall)
    (a : Statement) : Decidable (agreementRules.run s log i ℓ a) :=
  inferInstanceAs (Decidable (meetsRunning s a = true ∧ meetsCase s log i ℓ a = true))

instance (s : Database) (log : List (Executed WorkflowCall)) (i : Nat) :
    Decidable (agreementRules.fail s log i) := .isTrue trivial

/-! ## Finished investigations -/

section Statements

variable {db : Database} {i : Nat} {ℓ : L} {a : Statement} {ω : Surroundings}
  {scope : MerchantScope} {id : String}

/-- A finish sets the status of its own investigation. -/
theorem exec_updateInvestigation_status (scope' : MerchantScope) (id' : String)
    (status : InvestigationStatus) (failureCode : Option String) :
    (exec ω (.updateInvestigation scope' id' status failureCode) db).2.investigationStatus scope id =
      (db.investigationStatus scope id).map fun st =>
        if id = id' ∧ scope = scope' then status else st := by
  have hkey : (fun r : InvestigationRow => decide (r.id = id ∧ r.scope = scope)) ∘
      (fun r => if r.id = id' ∧ r.scope = scope' then
        { r with status, failureCode, finishedAt := some ω.now } else r) =
      fun r => decide (r.id = id ∧ r.scope = scope) := by
    funext r
    simp only [Function.comp_apply]
    split <;> rfl
  simp only [exec, Database.investigationStatus, List.find?_map, hkey, Option.map_map]
  cases hfound : db.investigations.find? fun r => decide (r.id = id ∧ r.scope = scope) with
  | none => rfl
  | some r =>
      have hr := List.find?_some hfound
      simp only [decide_eq_true_eq] at hr
      obtain ⟨rfl, rfl⟩ := hr
      simp only [Option.map_some, Function.comp_apply, Option.some.injEq]
      split <;> rfl

/-- An investigation keeps its status through a statement that does not finish it. -/
theorem investigationStatus_of_not_finish {status : InvestigationStatus}
    (h : db.investigationStatus scope id = some status)
    (hno : ∀ st, finishOf (executed i ℓ a ω db) ≠ some (scope, id, st)) :
    (exec ω a db).2.investigationStatus scope id = some status := by
  cases a with
  | updateInvestigation scope' id' st failureCode =>
      rw [exec_updateInvestigation_status, h, Option.map_some, if_neg]
      rintro ⟨rfl, rfl⟩
      exact hno st rfl
  | updateCase scope' caseId toState fromState v =>
      simp only [exec]
      split
      · exact h
      split <;> exact h
  | insertInvestigation scope' input =>
      simp only [exec]
      split
      · exact h
      · obtain ⟨r, hr, hstatus⟩ := Option.map_eq_some_iff.1 h
        rw [Database.investigationStatus, List.find?_append, hr]
        simpa using hstatus
  | insertEvidenceRequest scope' input =>
      simp only [exec]
      split <;> exact h
  | _ => exact h

end Statements

/-- An investigation has the status it was finished with, and that is final. -/
def Finished (db : Database) (log : List (Executed L)) : Prop :=
  ∀ e ∈ log, ∀ scope id status, finishOf e = some (scope, id, status) →
    db.investigationStatus scope id = some status ∧ status ≠ .running

section Finished

variable {db : Database} {log : List (Executed L)} {i : Nat} {ℓ : L} {a : Statement}
  {ω : Surroundings}

/-- A statement that finishes nothing. -/
theorem Finished.quiet (h : Finished db log) (hno : finishOf (executed i ℓ a ω db) = none) :
    Finished (exec ω a db).2 (log ++ [executed i ℓ a ω db]) := by
  intro e he scope id status hfinish
  rcases List.mem_append.1 he with he | he
  · obtain ⟨hstatus, hfinal⟩ := h e he scope id status hfinish
    refine ⟨investigationStatus_of_not_finish (i := i) (ℓ := ℓ) hstatus fun st => ?_, hfinal⟩
    rw [hno]
    exact nofun
  · rw [List.mem_singleton.1 he, hno] at hfinish
    cases hfinish

/-- A finish that meets its investigation running. -/
theorem Finished.finish {scope : MerchantScope} {id : String} {status : InvestigationStatus}
    {failureCode : Option String} (h : Finished db log)
    (hmeets : meetsRunning db (.updateInvestigation scope id status failureCode) = true)
    (hfinal : status ≠ .running) :
    Finished (exec ω (.updateInvestigation scope id status failureCode) db).2
      (log ++ [executed i ℓ (.updateInvestigation scope id status failureCode) ω db]) := by
  have hrunning : db.investigationStatus scope id = some .running := eq_of_beq hmeets
  intro e he scope' id' status' hfinish
  rcases List.mem_append.1 he with he | he
  · -- an earlier finish was of another investigation, since this one was still running
    obtain ⟨hstatus, hfinal'⟩ := h e he scope' id' status' hfinish
    refine ⟨investigationStatus_of_not_finish (i := i) (ℓ := ℓ) hstatus fun st hsame => ?_, hfinal'⟩
    cases hsame
    rw [hrunning] at hstatus
    exact hfinal' (Option.some.inj hstatus).symm
  · rw [List.mem_singleton.1 he] at hfinish
    cases hfinish
    rw [exec_updateInvestigation_status, hrunning]
    simp [hfinal]

end Finished

/-! ## What a call has done -/

/-- How the investigation of a call was finished, and where the call moved its case. -/
structure AgentProgress (i : Nat) (run : AgentRun) (status : Option InvestigationStatus)
    (toState : Option CaseState) (log : List (Executed L)) : Prop where
  finished : (own i log).filterMap finishOf =
    (status.map fun st => (run.scope, run.investigationId, st)).toList
  moved : (transitionsOf i log).map (fun t => (t.caseId, t.toState)) =
    (toState.map fun st => (run.caseId, st)).toList

/-- The conclusions of a run: what it reports, how it finished its investigation, and where it
moved its case. -/
inductive Concludes : AgentOutcomeKind → InvestigationStatus → Option CaseState → Prop
  | proposed : Concludes .proposed .succeeded (some .actionProposed)
  | escalated : Concludes .escalated .failed (some .escalated)
  | failed : Concludes .failed .failed none

section Progress

variable {db : Database} {log : List (Executed L)} {i : Nat} {ℓ : L} {a : Statement}
  {ω : Surroundings} {run : AgentRun} {status : Option InvestigationStatus}
  {toState : Option CaseState}

theorem AgentProgress.others {log' : List (Executed L)} (hothers : Others i log log')
    (h : AgentProgress i run status toState log) : AgentProgress i run status toState log' where
  finished := by
    rw [hothers.own_eq]
    exact h.finished
  moved := by
    rw [transitionsOf, hothers.own_eq]
    exact h.moved

/-- A statement that finishes and moves nothing. -/
theorem AgentProgress.quiet (h : AgentProgress i run status toState log)
    (hmove : applied (executed i ℓ a ω db) = none)
    (hfinish : finishOf (executed i ℓ a ω db) = none) :
    AgentProgress i run status toState (log ++ [executed i ℓ a ω db]) where
  finished := by simp [List.filterMap_append, hfinish, h.finished]
  moved := by
    have hmoved := h.moved
    simp only [transitionsOf] at hmoved ⊢
    simp [List.filterMap_append, hmove, hmoved]

/-- A finished investigation and a moved case are what the call reports. -/
theorem outcome_of_progress {kind : AgentOutcomeKind} {st : InvestigationStatus}
    (hfinished : Finished db log) (h : AgentProgress i run (some st) toState log)
    (hconcludes : Concludes kind st toState) : OutcomeAgrees i run kind db log := by
  have hstatus : db.investigationStatus run.scope run.investigationId = some st := by
    have hmem : (run.scope, run.investigationId, st) ∈ (own i log).filterMap finishOf := by
      rw [h.finished]
      exact List.mem_singleton_self _
    obtain ⟨e, he, hfinish⟩ := List.mem_filterMap.1 hmem
    exact (hfinished e (List.mem_filter.1 he).1 _ _ _ hfinish).1
  have hmoved (toState' : CaseState) : MovedTo i run toState' log ↔ toState = some toState' := by
    have hmem : (run.caseId, toState') ∈ (transitionsOf i log).map (fun t => (t.caseId, t.toState)) ↔
        toState = some toState' := by
      rw [h.moved]
      simp
    rw [← hmem]
    simp [MovedTo]
  have hnone : transitionsOf i log = [] ↔ toState = none := by
    rw [← List.map_eq_nil_iff (f := fun t => (t.caseId, t.toState)), h.moved]
    simp
  cases hconcludes <;> constructor <;> simp [hstatus, hmoved, hnone]

end Progress

/-! ## The calls -/

section Calls

variable {db : Database} {log : List (Executed WorkflowCall)} {i : Nat} {ℓ : WorkflowCall}
  {run : AgentRun} {status : Option InvestigationStatus} {toState : Option CaseState}

theorem lasting_progress :
    Lasting (L := WorkflowCall) Finished i ℓ agreementRules
      (AgentProgress i run status toState) where
  others _ _ hothers h := h.others hothers
  idle s log a ω hfinished h _ hidle := by
    have hno : finishOf (executed i ℓ a ω s) = none := by
      cases hidle <;> rfl
    exact ⟨hfinished.quiet hno, h.quiet (hidle.quiet i ℓ).applied hno⟩

/-- A statement that finishes and moves nothing. -/
theorem keeps_aside {a : Statement} (hmove : ∀ ω s, applied (executed i ℓ a ω s) = none)
    (hfinish : ∀ ω s, finishOf (executed i ℓ a ω s) = none)
    (h : AgentProgress i run status toState log) :
    Keeps exec agreementRules Finished i ℓ
      (fun _ _ log => AgentProgress i run status toState log) (query a) db log := by
  refine keeps_perform ?_
  intro s log' ω hothers hfinished _
  exact ⟨hfinished.quiet (hfinish ω s), (h.others hothers).quiet (hmove ω s) (hfinish ω s)⟩

/-- The call finishes its investigation. -/
theorem keeps_finishRow {st : InvestigationStatus} (hfinal : st ≠ .running)
    (failureCode : Option String) (h : AgentProgress i run none none log) :
    Keeps exec agreementRules Finished i ℓ
      (fun _ _ log => AgentProgress i run (some st) none log)
      (InvestigationRepository.finish run.scope run.investigationId st failureCode) db log := by
  refine keeps_perform ?_
  intro s log' ω hothers hfinished hrun
  have h' := h.others hothers
  refine ⟨hfinished.finish hrun.1 hfinal, ?_, ?_⟩
  · show (own i (log' ++ [executed i ℓ _ ω s])).filterMap finishOf = _
    rw [own_append, own_executed, List.filterMap_append, h'.finished]
    rfl
  · exact (h'.moved ▸ by simp [transitionsOf, applied])

/-- An applied transition of the case is what the call moved. -/
theorem appliesFrom_progress (run : AgentRun) (input : TransitionInput)
    (hid : input.caseId = run.caseId) (fromState : CaseState) :
    AppliesFrom (L := WorkflowCall) Finished i ℓ agreementRules (AgentProgress i run status none)
      (fun _ log => AgentProgress i run status (some input.toState) log) run.scope input
      fromState := by
  intro s log ω hfinished h _ hafter
  have hno : finishOf (executed i ℓ (.updateCase run.scope input.caseId input.toState fromState
      input.expectedVersion) ω s) = none := rfl
  have happ : applied (executed i ℓ (.updateCase run.scope input.caseId input.toState fromState
      input.expectedVersion) ω s) =
        some ⟨input.caseId, fromState, input.toState, input.expectedVersion + 1⟩ := by
    simp only [executed, applied, hafter]
  refine ⟨hfinished.quiet hno, ?_, ?_⟩
  · rw [own_append, own_executed, List.filterMap_append, h.finished]
    simp [hno]
  · have hmoved := h.moved
    rw [transitionsOf] at hmoved ⊢
    rw [own_append, own_executed, List.filterMap_append, List.map_append, hmoved]
    rw [List.filterMap_cons, happ]
    simp [hid]

/-- A transition of the case with its event: it is moved, or the call fails. -/
theorem keeps_moveCase (run : AgentRun) {input : TransitionInput} (hid : input.caseId = run.caseId)
    (event : CaseTransitionResult → AuditEvent) (h : AgentProgress i run status none log) :
    Keeps exec agreementRules Finished i ℓ
      (fun out _ log => (∀ r, out = .ok r → AgentProgress i run status (some input.toState) log) ∧
        (∀ failure, out = .error failure → AgentProgress i run status none log))
      (moveAndRecord run.scope input event) db log := by
  refine keeps_then (keeps_transition_when lasting_progress
    (fun fromState _ => appliesFrom_progress run input hid fromState) h) ?_
  intro out s log hout
  cases out with
  | error failure => exact ⟨fun _ hr => (nomatch hr), fun _ _ => hout⟩
  | ok r =>
      refine keeps_then (keeps_aside (fun _ _ => rfl) (fun _ _ => rfl) hout.2) ?_
      intro _ s log h
      exact ⟨fun _ _ => h, fun _ hfailure => (nomatch hfailure)⟩

/-- The call ends with what its run came to. -/
def Concluded (i : Nat) (run : AgentRun) (kind : AgentOutcomeKind)
    (log : List (Executed WorkflowCall)) : Prop :=
  ∃ st toState, AgentProgress i run (some st) toState log ∧ Concludes kind st toState

section Agent

variable {ctx : RequestContext} {input : AiInvestigationInput}

/-- Every escalation fails the investigation, also one that finds its case moved. -/
theorem keeps_escalateWith (reason failureCode : String)
    (h : AgentProgress i (input.agentRun ctx) none none log) :
    Keeps exec agreementRules Finished i ℓ
      (fun out _ log => Concluded i (input.agentRun ctx) out.agentOutcome.kind log)
      (escalateWith ctx input reason failureCode) db log := by
  refine keeps_then (keeps_finishRow (by decide) _ h) ?_
  intro _ s log h
  refine keeps_then (keeps_moveCase (input.agentRun ctx) rfl _ h) ?_
  intro out s log hout
  cases out with
  | error failure => exact ⟨.failed, none, hout.2 failure rfl, .failed⟩
  | ok r => exact ⟨.failed, some .escalated, hout.1 r rfl, .escalated⟩

/-- Once the investigation has succeeded the case is where it was, so it is moved. -/
theorem keeps_moveProposed (hℓ : ℓ.agentRun = some (input.agentRun ctx))
    (event : CaseTransitionResult → AuditEvent)
    (h : AgentProgress i (input.agentRun ctx) (some .succeeded) none log) :
    Keeps exec agreementRules Finished i ℓ
      (fun out _ log => ∃ r, out = .ok r ∧
        AgentProgress i (input.agentRun ctx) (some .succeeded) (some .actionProposed) log)
      (moveAndRecord (scopeOf ctx) input.proposal event) db log := by
  have hpermitted : Permitted .investigating .actionProposed .system none :=
    ⟨by decide, by decide, by decide⟩
  refine keeps_then (keeps_transition_met lasting_progress ?_ hpermitted
    (appliesFrom_progress (input.agentRun ctx) input.proposal rfl .investigating) h) ?_
  · intro s log a h hrun htouches
    have hproposes : proposes i log = true := by
      rw [proposes, h.finished]
      rfl
    have hmeets := hrun.2
    rw [meetsCase, hproposes, htouches, hℓ] at hmeets
    exact hmeets
  · rintro out s log ⟨r, rfl, h⟩
    refine keeps_then (keeps_aside (fun _ _ => rfl) (fun _ _ => rfl) h) ?_
    exact fun _ s log h => ⟨r, rfl, h⟩

/-- A proposal that is finished as succeeded is made. -/
theorem keeps_proposeAction (hℓ : ℓ.agentRun = some (input.agentRun ctx))
    (investigation : InvestigationResult) (proposal : Proposal)
    (h : AgentProgress i (input.agentRun ctx) none none log) :
    Keeps exec agreementRules Finished i ℓ
      (fun out _ log => Concluded i (input.agentRun ctx) out.agentOutcome.kind log)
      (proposeAction ctx input investigation proposal) db log := by
  refine keeps_then (keeps_finishRow (by decide) _ h) ?_
  intro _ s log h
  refine keeps_then (keeps_moveProposed hℓ _ h) ?_
  rintro out s log ⟨r, rfl, h⟩
  exact ⟨.succeeded, some .actionProposed, h, .proposed⟩

theorem keeps_judgeProposal (hℓ : ℓ.agentRun = some (input.agentRun ctx))
    (investigation : InvestigationResult) (proposal : Proposal)
    (h : AgentProgress i (input.agentRun ctx) none none log) :
    Keeps exec agreementRules Finished i ℓ
      (fun out _ log => Concluded i (input.agentRun ctx) out.agentOutcome.kind log)
      (judgeProposal ctx input investigation proposal) db log := by
  refine keeps_then (keeps_aside (fun _ _ => rfl) (fun _ _ => rfl) h) ?_
  intro verification s log h
  refine keeps_then (keeps_aside (fun _ _ => rfl) (fun _ _ => rfl) h) ?_
  intro _ s log h
  split
  · exact keeps_escalateWith _ _ h
  · exact keeps_proposeAction hℓ investigation proposal h

/-- **A run of the agent**, whatever the model, the tools and the verifier make of the case. -/
theorem keeps_agentRun (hℓ : ℓ.agentRun = some (input.agentRun ctx))
    (h : AgentProgress i (input.agentRun ctx) none none log) :
    Keeps exec agreementRules Finished i ℓ
      (fun out _ log => Concluded i (input.agentRun ctx) out.agentOutcome.kind log)
      (runAiInvestigation ctx input) db log := by
  refine keeps_then (keeps_aside (fun _ _ => rfl) (fun _ _ => rfl) h) ?_
  intro investigation s log h
  refine keeps_then (keeps_forEach
    (J := fun _ log => AgentProgress i (input.agentRun ctx) none none log)
    investigation.trace ?_ h) ?_
  · intro entry _ s log h
    exact keeps_aside (fun _ _ => rfl) (fun _ _ => rfl) h
  · intro _ s log h
    cases investigation.proposedCause with
    | none => exact keeps_escalateWith _ _ h
    | some cause => exact keeps_judgeProposal hℓ investigation _ h

end Agent

end Calls

/-! ## Every run -/

/-- A statement of an operation that meets its investigation running. -/
theorem Finished.issued {ℓ : Operation} {a : Statement} (ha : Issues ℓ a) {db : Database}
    {log : List (Executed L)} (h : Finished db log) (hmeets : meetsRunning db a = true) (i : Nat)
    (ℓ' : L) (ω : Surroundings) :
    Finished (exec ω a db).2 (log ++ [executed i ℓ' a ω db]) := by
  cases ha with
  | plain ha => cases a <;> first | exact h.quiet rfl | cases ha
  | move => exact h.quiet rfl
  | finish hstatus => exact h.finish hmeets hstatus
  | ask => exact h.quiet rfl
  | openRequest => exact h.quiet rfl

section Call

variable {db : Database} {log : List (Executed WorkflowCall)} {i : Nat}

/-- A call that has written nothing yet. -/
theorem agentProgress_start (run : AgentRun) (hown : own i log = []) :
    AgentProgress i run none none log where
  finished := by rw [hown]; rfl
  moved := by rw [transitionsOf, hown]; rfl

/-- A dispatch of a payment that has a unit. -/
theorem keeps_dispatch {records : RecordStore} {ctx : RequestContext} {input : DispatchInput}
    {unit : ReconciliationUnit}
    (hunit : loadUnit records (scopeOf ctx) input.paymentId = some unit)
    (hown : own i log = []) :
    Keeps exec agreementRules Finished i (.dispatchAgent records ctx input)
      (fun out _ log => ∀ run, WorkflowCall.agentRun (.dispatchAgent records ctx input) = some run →
        Concluded i run out.kind log)
      (WorkflowCall.program (.dispatchAgent records ctx input)) db log := by
  refine keeps_then (M := fun out _ log =>
    Concluded i ((input.investigation unit).agentRun ctx) out.kind log) ?_ ?_
  · rw [dispatchAgent, hunit]
    refine keeps_then (keeps_agentRun rfl (agentProgress_start _ hown)) ?_
    exact fun _ _ _ h => h
  · rintro out s log h run hrun
    cases hrun
    exact h

/-- A case operation that does not run the agent finishes only what it meets running. -/
theorem keeps_otherCall {op : Operation} (hop : WorkflowCall.agentRun (.operation op) = none) :
    Keeps exec agreementRules Finished i (.operation op)
      (fun out _ log => ∀ run, WorkflowCall.agentRun (.operation op) = some run →
        Concluded i run out.kind log)
      (WorkflowCall.program (.operation op)) db log := by
  refine Keeps.mono ?_ _ (keeps_of_sends _ ?_)
  · intro x s log _ run hrun
    rw [hop] at hrun
    cases hrun
  · intro a ha s log ω hfinished hrun
    have hissues := Prog.only_bind _ (only_issues op) (fun _ => Prog.only_ret _ _) a ha
    exact hfinished.issued hissues hrun.1 i _ ω

theorem keeps_call {ℓ : WorkflowCall} (hloads : ℓ.loads = true) (hown : own i log = []) :
    Keeps exec agreementRules Finished i ℓ
      (fun out _ log => ∀ run, ℓ.agentRun = some run → Concluded i run out.kind log)
      ℓ.program db log := by
  cases ℓ with
  | dispatchAgent records ctx input =>
      obtain ⟨unit, hunit⟩ := Option.isSome_iff_exists.1 hloads
      exact keeps_dispatch hunit hown
  | operation op =>
      cases op with
      | runAiInvestigation ctx input =>
          refine keeps_then (keeps_agentRun rfl (agentProgress_start _ hown)) ?_
          rintro out s log h run ⟨⟩
          exact h
      | _ => exact keeps_otherCall rfl

end Call

def outcomeOutline (db₀ : Database) : Outline workflowSystem agreementRules db₀ where
  inv := Finished
  post i ℓ x _ log := ∀ run, ℓ.agentRun = some run → Concluded i run x.kind log
  init := by
    intro e he
    cases he
  start _ _ _ _ _ hloads hown := keeps_call hloads hown

/-- **Outcome agreement.**  In every run in which each dispatched payment has a unit, an
investigation is finished only while it is running, and a call that has finished its own as
succeeded meets its case still under investigation at the version it was run with: whatever the
model, the tools and the verifier make of the unit, and whatever users do in between, what a
call reports, the row of its investigation and the case agree from its return on. -/
theorem outcome_agrees (db₀ : Database)
    {c : Config Database Surroundings Statement Statement.Answer WorkflowCall WorkflowResult}
    (h : workflowSystem.Reachable agreementRules.Allows (Config.init db₀) c) {i : Nat}
    {ℓ : WorkflowCall} {x : WorkflowResult} (hret : c.returned i = some (ℓ, x)) {run : AgentRun}
    (hrun : ℓ.agentRun = some run) : OutcomeAgrees i run x.kind c.state c.log := by
  obtain ⟨_, log₀, hpost, hothers⟩ := (outcomeOutline db₀).returned h hret
  obtain ⟨st, toState, hprogress, hconcludes⟩ := hpost run hrun
  exact outcome_of_progress ((outcomeOutline db₀).inv_of_reachable h) (hprogress.others hothers)
    hconcludes

/-! ## An operator escalates in between -/

/-- An operator starts an investigation, which the agent is then run for. -/
def startMoves : List (Move WorkflowCall Surroundings) :=
  .call (.operation (.startInvestigation true sampleOperator "case-1" 1)) ::
    List.replicate 4 (.run 0 quietSurroundings)

def sampleAgentCall : WorkflowCall :=
  .operation (.runAiInvestigation sampleOperator ⟨"case-1", "uuid", "pay-1", sampleUnit, 2⟩)

def sampleAgentRun : AgentRun := ⟨⟨"merchant-1"⟩, "case-1", "uuid", 2⟩

/-- Undisturbed, the agent proposes. -/
theorem outcome_agrees_proposed :
    ∃ c cause disposition, workflowSystem.Reachable agreementRules.Allows
        (Config.init sampleDatabase) c ∧
      c.returned 1 = some (sampleAgentCall, .operation (.proposed cause disposition)) ∧
      OutcomeAgrees 1 sampleAgentRun .proposed c.state c.log := by
  obtain ⟨c, hc, hret⟩ : ∃ c, workflowSystem.replay agreementRules.Allows
      (Config.init sampleDatabase)
      (startMoves ++ .call sampleAgentCall :: List.replicate 7 (.run 1 timingLagSurroundings)) =
        some c ∧
      c.returned 1 = some (sampleAgentCall, .operation (.proposed .timingLag .resolve)) :=
    ⟨_, rfl, rfl⟩
  have hreach := System.reachable_of_replay _ hc
  exact ⟨c, _, _, hreach, hret, outcome_agrees sampleDatabase hreach hret rfl⟩

/-- The payment's unit does not load. -/
def unloadableCall : WorkflowCall :=
  .dispatchAgent {} sampleOperator ⟨"case-1", "uuid", "pay-1", 2⟩

/-- The agent has finished its investigation when an operator escalates the case. -/
def overtakenMoves : List (Move WorkflowCall Surroundings) :=
  startMoves ++ .call sampleAgentCall :: List.replicate 4 (.run 1 timingLagSurroundings) ++
    .call (.operation (.escalateCase sampleOperator "case-1" 2 "by hand")) ::
    List.replicate 3 (.run 2 quietSurroundings) ++ [.run 1 quietSurroundings]

/-- A dispatch without a unit reports an escalation of a case that stays under investigation;
and a call whose case is moved in between fails after its investigation has succeeded. -/
theorem dispatch_disagrees :
    (∃ c, workflowSystem.Reachable (fun _ _ => True) (Config.init sampleDatabase) c ∧
      c.returned 1 = some (unloadableCall,
        .agent ⟨.escalated, "the case has no loadable payment unit"⟩) ∧
      (c.state.cases "case-1").map (·.state) = some .investigating ∧
      c.state.investigationStatus ⟨"merchant-1"⟩ "uuid" = some .running ∧
      ¬ OutcomeAgrees 1 sampleAgentRun .escalated c.state c.log) ∧
    ∃ c, workflowSystem.Reachable (fun _ _ => True) (Config.init sampleDatabase) c ∧
      c.returned 1 = some (sampleAgentCall, .operation (.failed (.versionConflict 3))) ∧
      (c.state.cases "case-1").map (·.state) = some .escalated ∧
      c.state.investigationStatus ⟨"merchant-1"⟩ "uuid" = some .succeeded ∧
      ¬ OutcomeAgrees 1 sampleAgentRun .failed c.state c.log := by
  constructor
  · obtain ⟨c, hc, hret, hstate, hstatus⟩ : ∃ c, workflowSystem.replay (fun _ _ => True)
        (Config.init sampleDatabase) (startMoves ++ [.call unloadableCall]) = some c ∧
        c.returned 1 = some (unloadableCall,
          .agent ⟨.escalated, "the case has no loadable payment unit"⟩) ∧
        (c.state.cases "case-1").map (·.state) = some .investigating ∧
        c.state.investigationStatus ⟨"merchant-1"⟩ "uuid" = some .running :=
      ⟨_, rfl, rfl, rfl, rfl⟩
    exact ⟨c, System.reachable_of_replay _ hc, hret, hstate, hstatus,
      fun hagrees => hagrees.finished hstatus⟩
  · obtain ⟨c, hc, hret, hstate, hstatus⟩ : ∃ c, workflowSystem.replay (fun _ _ => True)
        (Config.init sampleDatabase) overtakenMoves = some c ∧
        c.returned 1 = some (sampleAgentCall, .operation (.failed (.versionConflict 3))) ∧
        (c.state.cases "case-1").map (·.state) = some .escalated ∧
        c.state.investigationStatus ⟨"merchant-1"⟩ "uuid" = some .succeeded :=
      ⟨_, rfl, rfl, rfl, rfl⟩
    exact ⟨c, System.reachable_of_replay _ hc, hret, hstate, hstatus,
      fun hagrees => (hagrees.otherwise (by decide) (by decide)).2 hstatus⟩

end SettlementOps
