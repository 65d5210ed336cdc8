import SettlementOps.Reconciliation.Matcher
import SettlementOps.Workflow.CaseHistory
import SettlementOps.Workflow.Discipline

/-!
# No approval without a verified proposal and an approver

From a case in `EXCEPTION`, however many users call the case operations and however their
statements interleave, the case is `APPROVED` or `STAGED` only after the verifier resolved
for it and an approver then approved the version that approver named, both since the case
last entered `INVESTIGATING`.

* `Enters`, `Resolves`, `Approves` — the three kinds of statement the property speaks of.
* `callerRules` — the agent is run with the version an entry into `INVESTIGATING` returned.
* `Obligation` — what has to have happened for the case to be in a state.
* `approval_safety` — the property, over every run.
-/

namespace SettlementOps

open Interleave

/-! ## What the log shows -/

/-- The statement moved the case into `INVESTIGATING`. -/
def Enters {L : Type} (caseId : CaseId) (e : Executed L) : Prop :=
  ∃ t, appliedTo caseId e = some t ∧ t.toState = .investigating

/-- It did so at a given version. -/
def enteredAt {L : Type} (caseId : CaseId) (caseVersion : Int) (e : Executed L) : Bool :=
  match appliedTo caseId e with
  | some t => t.toState == .investigating && t.caseVersion == caseVersion
  | none => false

/-- The verifier's result on the case an investigation is about. -/
def verified : Executed Operation → Option (CaseId × VerificationResult)
  | ⟨_, .runAiInvestigation _ input, .verify _ _, result, _⟩ => some (input.caseId, result)
  | _ => none

/-- A verify call for the case, with effective disposition `RESOLVE`. -/
def Resolves (caseId : CaseId) (e : Executed Operation) : Prop :=
  ∃ result, verified e = some (caseId, result) ∧ result.effectiveDisposition = .resolve

/-- An approval applied for a caller who holds at least the approver role, at exactly the
version the caller named. -/
def Approves (caseId : CaseId) (e : Executed Operation) : Prop :=
  ∃ ctx expectedVersion note fromState,
    e.label = .approveProposal ctx caseId expectedVersion note ∧
      hasAtLeast ctx .approver = true ∧
      applied e = some ⟨caseId, fromState, .approved, expectedVersion + 1⟩

/-- `P` holds of what the log shows since the case last entered `INVESTIGATING`. -/
def SinceEntry (caseId : CaseId) (P : List (Executed Operation) → Prop)
    (log : List (Executed Operation)) : Prop :=
  ∃ before entry since, log = before ++ entry :: since ∧ Enters caseId entry ∧
    (∀ e ∈ since, ¬ Enters caseId e) ∧ P since

def VerifierResolved (caseId : CaseId) (since : List (Executed Operation)) : Prop :=
  ∃ e ∈ since, Resolves caseId e

/-- The verifier resolved, and an approver then approved. -/
def ResolvedThenApproved (caseId : CaseId) (since : List (Executed Operation)) : Prop :=
  ∃ earlier later, since = earlier ++ later ∧ VerifierResolved caseId earlier ∧
    ∃ e ∈ later, Approves caseId e

/-- The agent is run with the version that a transition of its case into `INVESTIGATING`
returned, as the API does. -/
def callerRules : Rules Database Surroundings Statement Statement.Answer Operation where
  call _ log ℓ :=
    match ℓ with
    | .runAiInvestigation _ input =>
        ∃ e ∈ log, enteredAt input.caseId input.expectedVersion e = true
    | _ => True

instance (s : Database) (log : List (Executed Operation)) :
    ∀ ℓ, Decidable (callerRules.call s log ℓ)
  | .runAiInvestigation _ input =>
      inferInstanceAs (Decidable (∃ e ∈ log, enteredAt input.caseId input.expectedVersion e = true))
  | .startInvestigation .. => .isTrue trivial
  | .escalateCase .. => .isTrue trivial
  | .requestEvidence .. => .isTrue trivial
  | .reopenForInvestigation .. => .isTrue trivial
  | .approveProposal .. => .isTrue trivial
  | .rejectProposal .. => .isTrue trivial
  | .stageApprovedAction .. => .isTrue trivial

instance (s : Database) (log : List (Executed Operation)) (i : Nat) (ℓ : Operation)
    (a : Statement) : Decidable (callerRules.run s log i ℓ a) := .isTrue trivial

instance (s : Database) (log : List (Executed Operation)) (i : Nat) :
    Decidable (callerRules.fail s log i) := .isTrue trivial

theorem not_enters {L : Type} {caseId : CaseId} {e : Executed L} {t : AppliedTransition}
    (h : appliedTo caseId e = some t) (hne : t.toState ≠ .investigating) : ¬ Enters caseId e := by
  rintro ⟨t', ht', hto⟩
  rw [h, Option.some.injEq] at ht'
  subst ht'
  exact hne hto

theorem SinceEntry.append {caseId : CaseId} {P Q : List (Executed Operation) → Prop}
    {log : List (Executed Operation)} {e : Executed Operation} (h : SinceEntry caseId P log)
    (he : ¬ Enters caseId e) (hPQ : ∀ since, P since → Q (since ++ [e])) :
    SinceEntry caseId Q (log ++ [e]) := by
  obtain ⟨before, entry, since, rfl, hentry, hsince, hP⟩ := h
  refine ⟨before, entry, since ++ [e], by simp, hentry, ?_, hPQ since hP⟩
  intro e' he'
  rcases List.mem_append.1 he' with he' | he'
  · exact hsince e' he'
  · rw [List.mem_singleton] at he'
    subst he'
    exact he

theorem VerifierResolved.append {caseId : CaseId} {since added : List (Executed Operation)}
    (h : VerifierResolved caseId since) : VerifierResolved caseId (since ++ added) := by
  obtain ⟨e, he, hres⟩ := h
  exact ⟨e, List.mem_append_left _ he, hres⟩

theorem ResolvedThenApproved.append {caseId : CaseId} {since added : List (Executed Operation)}
    (h : ResolvedThenApproved caseId since) : ResolvedThenApproved caseId (since ++ added) := by
  obtain ⟨earlier, later, rfl, hres, e, he, happ⟩ := h
  exact ⟨earlier, later ++ added, by rw [List.append_assoc], hres, e,
    List.mem_append_left _ he, happ⟩

/-- An approval after a resolved verification. -/
theorem VerifierResolved.approve {caseId : CaseId} {since : List (Executed Operation)}
    {e : Executed Operation} (h : VerifierResolved caseId since) (he : Approves caseId e) :
    ResolvedThenApproved caseId (since ++ [e]) :=
  ⟨since, [e], rfl, h, e, List.mem_singleton_self e, he⟩

/-! ## What a state asks for -/

/-- What the log has to show for the case to be in a state. -/
def Obligation (caseId : CaseId) (log : List (Executed Operation)) : CaseState → Prop
  | .actionProposed => SinceEntry caseId (VerifierResolved caseId) log
  | .approvalPending => False
  | .approved => SinceEntry caseId (ResolvedThenApproved caseId) log
  | .staged => SinceEntry caseId (ResolvedThenApproved caseId) log
  | _ => True

theorem Obligation.append {caseId : CaseId} {log : List (Executed Operation)}
    {e : Executed Operation} {state : CaseState} (h : Obligation caseId log state)
    (he : ¬ Enters caseId e) : Obligation caseId (log ++ [e]) state := by
  cases state <;> first
    | trivial
    | exact SinceEntry.append h he fun _ hP => hP.append

structure ApprovalInv (caseId : CaseId) (start : CasePoint) (db : Database)
    (log : List (Executed Operation)) : Prop where
  history : CaseHistory caseId start db log
  obligation : ∀ row, db.cases caseId = some row → Obligation caseId log row.state

section Invariant

variable {caseId : CaseId} {start : CasePoint} {db : Database}
  {log : List (Executed Operation)} {i : Nat} {ℓ : Operation} {a : Statement}
  {ω : Surroundings}

/-- A statement that does not move the case. -/
theorem ApprovalInv.stay (h : ApprovalInv caseId start db log)
    (hto : appliedTo caseId (executed i ℓ a ω db) = none) :
    ApprovalInv caseId start (exec ω a db).2 (log ++ [executed i ℓ a ω db]) := by
  refine ⟨h.history.exec i ℓ a ω, fun row' hrow' => ?_⟩
  have hne : ¬ Enters caseId (executed i ℓ a ω db) := by
    rintro ⟨t, ht, -⟩
    rw [hto] at ht
    cases ht
  rw [cases_of_appliedTo_none hto] at hrow'
  exact (h.obligation row' hrow').append hne

/-- A statement that moves the case has to meet what the state it reaches asks for. -/
theorem ApprovalInv.move (h : ApprovalInv caseId start db log) {t : AppliedTransition}
    (hto : appliedTo caseId (executed i ℓ a ω db) = some t)
    (hmeets : Obligation caseId log t.fromState →
      Obligation caseId (log ++ [executed i ℓ a ω db]) t.toState) :
    ApprovalInv caseId start (exec ω a db).2 (log ++ [executed i ℓ a ω db]) := by
  refine ⟨h.history.exec i ℓ a ω, fun row' hrow' => ?_⟩
  obtain ⟨row, hrow, -⟩ := h.history
  obtain ⟨hfrom, -, row'', hrow'', hpoint⟩ := cases_of_appliedTo hrow hto
  rw [hrow'', Option.some.injEq] at hrow'
  subst hrow'
  have hstate : row''.state = t.toState := congrArg CasePoint.state hpoint
  have hbefore := h.obligation row hrow
  rw [hfrom] at hbefore
  rw [hstate]
  exact hmeets hbefore

/-- An applied update of the case, as its transition. -/
theorem appliedTo_update {scope : MerchantScope} {toState fromState : CaseState} {v after : Int}
    (hafter : (exec ω (.updateCase scope caseId toState fromState v) db).1 = some after) :
    appliedTo caseId (executed i ℓ (.updateCase scope caseId toState fromState v) ω db) =
      some ⟨caseId, fromState, toState, after⟩ := by
  refine appliedTo_eq_some.2 ⟨?_, rfl⟩
  simp only [executed, applied, hafter]

theorem appliedTo_update_ne {scope : MerchantScope} {caseId' : CaseId}
    {toState fromState : CaseState} {v : Int} (hne : caseId' ≠ caseId) :
    appliedTo caseId (executed i ℓ (.updateCase scope caseId' toState fromState v) ω db) =
      none := by
  cases hafter : (exec ω (.updateCase scope caseId' toState fromState v) db).1 with
  | none => exact appliedTo_of_applied_none (by simp only [executed, applied, hafter])
  | some after => simp [appliedTo, executed, applied, hafter, hne]

/-! ## What the table lets happen -/

theorem approved_from {fromState : CaseState} (h : canTransition fromState .approved = true) :
    fromState = .actionProposed ∨ fromState = .approvalPending := by
  cases fromState <;> first
    | exact .inl rfl
    | exact .inr rfl
    | exact absurd h (by decide)

theorem staged_from {fromState : CaseState} (h : canTransition fromState .staged = true) :
    fromState = .approved := by
  cases fromState <;> first
    | rfl
    | exact absurd h (by decide)

/-! ## What the agent's call knows -/

/-- The case was in `INVESTIGATING` at the version the agent was run with, and the verifier
has resolved since. -/
def ResolvedSince (caseId : CaseId) (caseVersion : Int) (log : List (Executed Operation)) :
    Prop :=
  ∃ before entry since, log = before ++ entry :: since ∧
    enteredAt caseId caseVersion entry = true ∧ VerifierResolved caseId since

theorem enteredAt_iff {L : Type} {v : Int} {e : Executed L} :
    enteredAt caseId v e = true ↔
      ∃ t, appliedTo caseId e = some t ∧ t.toState = .investigating ∧ t.caseVersion = v := by
  unfold enteredAt
  cases appliedTo caseId e with
  | none => simp
  | some t => simp

theorem ResolvedSince.append {v : Int} (h : ResolvedSince caseId v log)
    (added : List (Executed Operation)) : ResolvedSince caseId v (log ++ added) := by
  obtain ⟨before, entry, since, rfl, hentry, hres⟩ := h
  exact ⟨before, entry, since ++ added, by simp, hentry, hres.append⟩

/-- **The version guard at work.**  If the row still has the version the agent was run with,
then nothing moved the case since, so the verification is since its last entry. -/
theorem ResolvedSince.sinceEntry {v : Int} {row : ReconciliationCase}
    (h : ResolvedSince caseId v log) (hfollows : Follows start
      (log.filterMap (appliedTo caseId)) row.point) (hversion : row.caseVersion = v) :
    SinceEntry caseId (VerifierResolved caseId) log := by
  obtain ⟨before, entry, since, rfl, hentry, hres⟩ := h
  obtain ⟨t, ht, hto, hv⟩ := enteredAt_iff.1 hentry
  refine ⟨before, entry, since, rfl, ⟨t, ht, hto⟩, ?_, hres⟩
  rw [List.filterMap_append, List.filterMap_cons_some ht] at hfollows
  obtain ⟨mid, -, hlast⟩ := hfollows.split
  have hnil : since.filterMap (appliedTo caseId) = [] :=
    hlast.last (hv.trans hversion.symm)
  rintro e he ⟨t', ht', -⟩
  have hmem : t' ∈ since.filterMap (appliedTo caseId) := List.mem_filterMap.2 ⟨e, he, ht'⟩
  rw [hnil] at hmem
  cases hmem

/-- What a call knows before and after the verifier has resolved for it. -/
def AgentKnows (caseId : CaseId) (P : Int → List (Executed Operation) → Prop) (ℓ : Operation)
    (log : List (Executed Operation)) : Prop :=
  match ℓ with
  | .runAiInvestigation _ input => input.caseId = caseId → P input.expectedVersion log
  | _ => True

theorem AgentKnows.append {P : Int → List (Executed Operation) → Prop}
    (hP : ∀ v log added, P v log → P v (log ++ added)) (h : AgentKnows caseId P ℓ log)
    (added : List (Executed Operation)) : AgentKnows caseId P ℓ (log ++ added) := by
  cases ℓ with
  | runAiInvestigation ctx input => exact fun hid => hP _ _ added (h hid)
  | _ => trivial

theorem steady_agentKnows {P : Int → List (Executed Operation) → Prop}
    (hP : ∀ v log added, P v log → P v (log ++ added)) :
    Steady (ApprovalInv caseId start) i ℓ (AgentKnows caseId P ℓ) := by
  refine ⟨?_, ?_⟩
  · rintro log log' ⟨added, rfl, -⟩ h
    exact h.append hP added
  · intro s log a ω hinv h hquiet
    exact ⟨hinv.stay (appliedTo_of_applied_none hquiet.applied), h.append hP _⟩

/-- The agent's case entered `INVESTIGATING` at the version the agent is run with. -/
def Entered (caseId : CaseId) (v : Int) (log : List (Executed Operation)) : Prop :=
  ∃ e ∈ log, enteredAt caseId v e = true

theorem Entered.append {v : Int} (h : Entered caseId v log) (added : List (Executed Operation)) :
    Entered caseId v (log ++ added) := by
  obtain ⟨e, he, hentry⟩ := h
  exact ⟨e, List.mem_append_left _ he, hentry⟩

theorem ResolvedSince.entered {v : Int} (h : ResolvedSince caseId v log) :
    Entered caseId v log := by
  obtain ⟨before, entry, since, rfl, hentry, -⟩ := h
  exact ⟨entry, by simp, hentry⟩

/-- A verify call that resolves, after the entry. -/
theorem Entered.resolve {v : Int} (h : Entered caseId v log) {e : Executed Operation}
    (he : Resolves caseId e) : ResolvedSince caseId v (log ++ [e]) := by
  obtain ⟨entry, hmem, hentry⟩ := h
  obtain ⟨before, since, rfl⟩ := List.append_of_mem hmem
  exact ⟨before, entry, since ++ [e], by simp, hentry, e, by simp, he⟩

/-! ## Every operation keeps the invariant -/

/-- An applied request meets what the state it reaches asks for. -/
theorem obligation_of_request {input : TransitionInput} (hreq : Requests ℓ input)
    (hid : input.caseId = caseId) {fromState : CaseState}
    (hpermitted : Permitted fromState input.toState input.actor input.outcomeRecorded)
    {e : Executed Operation} (hlabel : e.label = ℓ)
    (happ : applied e = some ⟨caseId, fromState, input.toState, input.expectedVersion + 1⟩)
    (h : Obligation caseId log fromState) : Obligation caseId (log ++ [e]) input.toState := by
  have hnot : input.toState ≠ .investigating → ¬ Enters caseId e :=
    fun hne => not_enters (appliedTo_eq_some.2 ⟨happ, rfl⟩) hne
  cases hreq with
  | @approve ctx caseId' v note hrole =>
      simp only at hid
      subst hid
      rcases approved_from hpermitted.legal with rfl | rfl
      · have happroves : Approves caseId' e := ⟨ctx, v, note, _, hlabel, hrole, happ⟩
        exact SinceEntry.append h (hnot (by simp)) fun _ hP => hP.approve happroves
      · exact h.elim
  | other hto =>
      revert hto hpermitted hnot
      generalize input.toState = toState
      intro hpermitted hnot hto
      simp only [List.mem_cons, List.not_mem_nil, or_false] at hto
      rcases hto with rfl | rfl | rfl | rfl | rfl
      · trivial
      · trivial
      · trivial
      · trivial
      · have hfrom := staged_from hpermitted.legal
        subst hfrom
        exact SinceEntry.append h (hnot (by simp)) fun _ hP => hP.append

/-- What each operation knows of the case between its statements. -/
def approvalDiscipline (caseId : CaseId) (start : CasePoint) (i : Nat) (ℓ : Operation) :
    Discipline callerRules (ApprovalInv caseId start) i ℓ where
  Clear := AgentKnows caseId (Entered caseId) ℓ
  Owes _ _ := AgentKnows caseId (Entered caseId) ℓ
  Resolved := AgentKnows caseId (ResolvedSince caseId) ℓ
  clear := steady_agentKnows fun _ _ added h => h.append added
  owes _ _ := steady_agentKnows fun _ _ added h => h.append added
  resolved := steady_agentKnows fun _ _ added h => h.append added
  clear_of_resolved log h := by
    cases ℓ with
    | runAiInvestigation ctx input => exact fun hid => (h hid).entered
    | _ => trivial
  verified ctx input hℓ s log ω proposal hinv h hresolve := by
    subst hℓ
    intro hid
    refine (h hid).resolve ⟨verify proposal input.unit, ?_, hresolve⟩
    rw [← hid]
    rfl
  request scope input hreq s log ω fromState hinv h hpermitted hafter := by
    refine ⟨?_, h.append (fun _ _ added h => h.append added) _⟩
    by_cases hid : input.caseId = caseId
    · subst hid
      refine hinv.move (appliedTo_update hafter) fun hobl => ?_
      exact obligation_of_request hreq rfl hpermitted rfl
        (appliedTo_eq_some.1 (appliedTo_update hafter)).1 hobl
    · exact hinv.stay (appliedTo_update_ne hid)
  propose ctx input hℓ scope s log ω fromState hinv h hpermitted hafter := by
    subst hℓ
    have hentered : AgentKnows caseId (Entered caseId) (.runAiInvestigation ctx input) log :=
      fun hid => (h hid).entered
    refine ⟨?_, hentered.append (fun _ _ added h => h.append added) _⟩
    by_cases hid : input.caseId = caseId
    · subst hid
      refine hinv.move (appliedTo_update hafter) fun _ => ?_
      obtain ⟨row, hrow, -, -, hversion, -⟩ := exec_updateCase_eq_some.1 hafter
      obtain ⟨row', hrow', hfollows⟩ := hinv.history
      rw [show input.proposal.caseId = input.caseId from rfl] at hrow
      rw [hrow, Option.some.injEq] at hrow'
      subst hrow'
      exact SinceEntry.append ((h rfl).sinceEntry hfollows hversion)
        (not_enters (appliedTo_update hafter) (by simp [AiInvestigationInput.proposal]))
        fun _ hP => hP.append
    · exact hinv.stay (appliedTo_update_ne hid)
  record s log ω scope event r _ hinv h :=
    ⟨hinv.stay (appliedTo_of_applied_none rfl), h.append (fun _ _ added h => h.append added) _⟩
  conflict s log ω scope input r _ _ _ h _ := h.append (fun _ _ added h => h.append added) _

/-- All calls, from a database in which the case is in `EXCEPTION`. -/
def approvalOutline (db : Database) (caseId : CaseId) {row : ReconciliationCase}
    (hrow : db.cases caseId = some row) (hstate : row.state = .exception) :
    Outline caseSystem callerRules db where
  inv := ApprovalInv caseId row.point
  post i ℓ _ _ log := AgentKnows caseId (Entered caseId) ℓ log
  init := by
    refine ⟨⟨row, hrow, rfl⟩, fun row' hrow' => ?_⟩
    rw [hrow, Option.some.injEq] at hrow'
    subst hrow'
    rw [hstate]
    trivial
  start s log i ℓ _ hcall _ := by
    refine keeps_operation ℓ (approvalDiscipline caseId row.point i ℓ) ?_
    cases ℓ with
    | runAiInvestigation ctx input =>
        intro hid
        rw [← hid]
        exact hcall
    | _ => trivial

end Invariant

/-- **Approval safety.**  From a case in `EXCEPTION`, whatever operations any users call and
however they interleave: when the case is `APPROVED` or `STAGED`, the verifier has resolved
for it since it last entered `INVESTIGATING`, and an approver then approved the version the
approver named; and without a call of an approver to approve it, it is neither. -/
theorem approval_safety (db : Database) (caseId : CaseId) {row₀ : ReconciliationCase}
    (hrow₀ : db.cases caseId = some row₀) (hstate : row₀.state = .exception)
    {c : Config Database Surroundings Statement Statement.Answer Operation OperationResult}
    (h : caseSystem.Reachable callerRules.Allows (Config.init db) c)
    {row : ReconciliationCase} (hrow : c.state.cases caseId = some row) :
    (row.state = .approved ∨ row.state = .staged →
      SinceEntry caseId (ResolvedThenApproved caseId) c.log) ∧
    ((∀ e ∈ c.log, ∀ ctx expectedVersion note,
        e.label = .approveProposal ctx caseId expectedVersion note →
          hasAtLeast ctx .approver = false) →
      row.state ≠ .approved ∧ row.state ≠ .staged) := by
  have hinv := (approvalOutline db caseId hrow₀ hstate).inv_of_reachable h
  have hobl := hinv.obligation row hrow
  have hsafe : row.state = .approved ∨ row.state = .staged →
      SinceEntry caseId (ResolvedThenApproved caseId) c.log := by
    rintro (hst | hst)
    · rw [hst] at hobl
      exact hobl
    · rw [hst] at hobl
      exact hobl
  refine ⟨hsafe, fun hnone => ?_⟩
  have hcontra : ¬ SinceEntry caseId (ResolvedThenApproved caseId) c.log := by
    rintro ⟨before, entry, since, hlog, -, -, earlier, later, rfl, -, e, he, happ⟩
    obtain ⟨ctx, v, note, fromState, hlabel, hrole, -⟩ := happ
    have hmem : e ∈ c.log := by
      rw [hlog]
      simp [he]
    rw [hnone e hmem ctx v note hlabel] at hrole
    cases hrole
  exact ⟨fun hst => hcontra (hsafe (.inl hst)), fun hst => hcontra (hsafe (.inr hst))⟩

/-! ## A case that is approved -/

def sampleOperator : RequestContext := ⟨"user-1", "merchant-1", [.operator], "correlation-1"⟩

def sampleApprover : RequestContext := ⟨"user-2", "merchant-1", [.approver], "correlation-2"⟩

/-- The model finds a timing lag and cites the payment. -/
def timingLagSurroundings : Surroundings := { quietSurroundings with
  investigation := {
    proposedCause := some .timingLag
    proposedDisposition := .resolve
    rationale := "late credit"
    evidenceRecordIds := ["pay-1"]
    toolCallCount := 2
    stopReason := .proposalMade
    trace := [] } }

def approvalMoves : List (Move Operation Surroundings) :=
  [.call (.startInvestigation true sampleOperator "case-1" 1)] ++
    List.replicate 4 (.run 0 quietSurroundings) ++
    [.call (.runAiInvestigation sampleOperator
      ⟨"case-1", "uuid", "pay-1", sampleUnit, 2⟩)] ++
    List.replicate 7 (.run 1 timingLagSurroundings) ++
    [.call (.approveProposal sampleApprover "case-1" 3 "verified")] ++
    List.replicate 3 (.run 2 quietSurroundings)

/-- An operator starts the investigation, the agent proposes, an approver approves. -/
theorem approval_safety_approved :
    ∃ c, caseSystem.Reachable callerRules.Allows (Config.init sampleDatabase) c ∧
      (c.state.cases "case-1").map (·.point) = some ⟨.approved, 4⟩ ∧
      SinceEntry "case-1" (ResolvedThenApproved "case-1") c.log := by
  obtain ⟨c, hc, row, hrow, hstate, hpoint⟩ : ∃ c, caseSystem.replay callerRules.Allows
      (Config.init sampleDatabase) approvalMoves = some c ∧
      ∃ row, c.state.cases "case-1" = some row ∧ row.state = .approved ∧
        (c.state.cases "case-1").map (·.point) = some ⟨.approved, 4⟩ :=
    ⟨_, rfl, _, rfl, rfl, rfl⟩
  have hreach := System.reachable_of_replay approvalMoves hc
  have hsafe := approval_safety sampleDatabase "case-1" rfl rfl hreach hrow
  exact ⟨c, hreach, hpoint, hsafe.1 (.inl hstate)⟩

end SettlementOps
