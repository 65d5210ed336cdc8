import SettlementOps.Interleave.Linearization
import SettlementOps.Interleave.Sequential
import SettlementOps.Workflow.Approval

/-!
# Where a proposal can be approved and not rejected

The agent's verified proposal waits in `ACTION_PROPOSED`.  The table lets an approver approve it
there, but has rejection only out of `APPROVAL_PENDING`, to which no operation moves a case.

* `RejectionAvailable` — whoever could approve the case now could reject it instead.
* `rejectionAvailable_iff` — so in every state but `ACTION_PROPOSED`.
* `ProposalInv`, `proposalDiscipline` — a proposed action was verified, in every run.
* `rejection_available` — over every run.
-/

namespace SettlementOps

open Interleave

/-- If a call to approve the case succeeds, made alone, then so does one of the same caller, at
the same version and with a reason, to reject it; and the case is then `REJECTED`. -/
def RejectionAvailable (caseId : CaseId) (db : Database) : Prop :=
  ∀ (ω : Surroundings) (ctx : RequestContext) (v : Int) (note reason : String)
    (approval : CaseTransitionResult),
    (alone exec ω (approveProposal ctx caseId v note) db).1 = .approved approval →
    isBlank reason = false →
      ∃ rejection after,
        alone exec ω (rejectProposal ctx caseId v reason) db = (.rejected rejection, after) ∧
        (after.cases caseId).map (·.state) = some .rejected

/-! ## A decision made alone -/

/-- The database with the row of a case moved. -/
def Database.moving (db : Database) (caseId : CaseId) (row : ReconciliationCase)
    (toState : CaseState) (now : Date) : Database :=
  { db with cases := Function.update db.cases caseId (some (row.moved toState now)) }

section Alone

variable {ω : Surroundings} {db : Database} {scope : MerchantScope} {input : TransitionInput}

theorem alone_query (a : Statement) : alone exec ω (query a) db = exec ω a db := rfl

/-- A transition that runs alone is refused by its check or applied. -/
theorem alone_transition {row : ReconciliationCase}
    (hrow : db.caseOf scope input.caseId = some row) :
    alone exec ω (transition scope input) db =
      match refusal input row.state row.caseVersion with
      | some failure => (.error failure, db)
      | none =>
          (.ok ⟨input.caseId, row.state, input.toState, row.caseVersion + 1⟩,
            db.moving input.caseId row input.toState ω.now) := by
  have hread : exec ω (.selectCase scope input.caseId) db =
      (some (row.state, row.caseVersion), db) := by
    simp only [exec, hrow, Option.map_some]
  rw [transition, alone_bind, alone_query, hread]
  dsimp only
  cases href : refusal input row.state row.caseVersion with
  | some failure => rfl
  | none =>
      obtain ⟨hversion, -⟩ := refusal_eq_none_iff.1 href
      have hwrite : exec ω (.updateCase scope input.caseId input.toState row.state
          input.expectedVersion) db = (some (row.caseVersion + 1),
            db.moving input.caseId row input.toState ω.now) := by
        simp only [exec, hrow, hversion, and_self, if_true, Database.moving]
      dsimp only
      rw [guardedWrite, alone_bind, alone_query, hwrite]
      rfl

theorem alone_transition_notFound (hrow : db.caseOf scope input.caseId = none) :
    alone exec ω (transition scope input) db = (.error .notFound, db) := by
  have hread : exec ω (.selectCase scope input.caseId) db = (none, db) := by
    simp only [exec, hrow, Option.map_none]
  rw [transition, alone_bind, alone_query, hread]
  rfl

/-- The row a transition finds, if the table permits the transition at the version it names. -/
structure Finds (db : Database) (scope : MerchantScope) (input : TransitionInput)
    (row : ReconciliationCase) : Prop where
  found : db.caseOf scope input.caseId = some row
  version : row.caseVersion = input.expectedVersion
  permitted : Permitted row.state input.toState input.actor input.outcomeRecorded

theorem alone_moveAndRecord (event : CaseTransitionResult → AuditEvent)
    {row : ReconciliationCase} (h : Finds db scope input row) :
    ∃ result after, alone exec ω (moveAndRecord scope input event) db = (.ok result, after) ∧
      after.cases input.caseId = some (row.moved input.toState ω.now) := by
  have hpassed : refusal input row.state row.caseVersion = none :=
    refusal_eq_none_iff.2 ⟨h.version, h.permitted⟩
  rw [moveAndRecord, alone_bind, alone_transition h.found, hpassed]
  exact ⟨_, _, rfl, Function.update_self ..⟩

theorem finds_of_moveAndRecord {event : CaseTransitionResult → AuditEvent}
    {result : CaseTransitionResult}
    (h : (alone exec ω (moveAndRecord scope input event) db).1 = .ok result) :
    ∃ row, Finds db scope input row := by
  rw [moveAndRecord, alone_bind] at h
  cases hrow : db.caseOf scope input.caseId with
  | none =>
      rw [alone_transition_notFound hrow] at h
      cases h
  | some row =>
      rw [alone_transition hrow] at h
      cases href : refusal input row.state row.caseVersion with
      | some failure =>
          rw [href] at h
          cases h
      | none =>
          obtain ⟨hversion, hpermitted⟩ := refusal_eq_none_iff.1 href
          exact ⟨row, hrow, hversion, hpermitted⟩

end Alone

/-! ## Approving and rejecting -/

section Decisions

variable {ω : Surroundings} {db : Database} {ctx : RequestContext} {caseId : CaseId} {v : Int}
  {note reason : String}

/-- What a decision of an approver asks for. -/
def decision (caseId : CaseId) (toState : CaseState) (v : Int) : TransitionInput where
  caseId := caseId
  toState := toState
  actor := .approver
  expectedVersion := v

theorem approved_alone_iff :
    (∃ approval, (alone exec ω (approveProposal ctx caseId v note) db).1 = .approved approval) ↔
      hasAtLeast ctx .approver = true ∧
        ∃ row, Finds db (scopeOf ctx) (decision caseId .approved v) row := by
  unfold approveProposal
  cases hrole : hasAtLeast ctx .approver with
  | false => simp [alone]
  | true =>
      simp only [Bool.not_true, Bool.false_eq_true, if_false, alone_bind, true_and]
      constructor
      · rintro ⟨approval, h⟩
        cases hout : (alone exec ω (moveAndRecord (scopeOf ctx) (decision caseId .approved v)
            fun approved => transitionEvent ctx .user approved "proposal_approved"
              [("note", .str (Text.slice note 500))]) db).1 with
        | error failure =>
            rw [decision] at hout
            rw [hout] at h
            cases h
        | ok result => exact finds_of_moveAndRecord hout
      · rintro ⟨row, hfinds⟩
        obtain ⟨result, after, hrun, -⟩ := alone_moveAndRecord (ω := ω)
          (fun approved => transitionEvent ctx .user approved "proposal_approved"
            [("note", .str (Text.slice note 500))]) hfinds
        rw [decision] at hrun
        rw [hrun]
        exact ⟨result, rfl⟩

/-- A rejection that is applied moves the case. -/
theorem rejected_alone {row : ReconciliationCase} (hrole : hasAtLeast ctx .approver = true)
    (hreason : isBlank reason = false)
    (hfinds : Finds db (scopeOf ctx) (decision caseId .rejected v) row) :
    ∃ rejection after,
      alone exec ω (rejectProposal ctx caseId v reason) db = (.rejected rejection, after) ∧
      (after.cases caseId).map (·.state) = some .rejected := by
  obtain ⟨result, after, hrun, hrow⟩ := alone_moveAndRecord (ω := ω)
    (fun rejected => transitionEvent ctx .user rejected "proposal_rejected"
      [("reason", .str (Text.slice reason 500))]) hfinds
  rw [decision] at hrun hrow
  refine ⟨result, after, ?_, by rw [hrow]; rfl⟩
  unfold rejectProposal
  simp only [hrole, hreason, Bool.not_true, Bool.false_eq_true, if_false, alone_bind, hrun]
  rfl

theorem finds_of_rejected {rejection : CaseTransitionResult} {after : Database}
    (h : alone exec ω (rejectProposal ctx caseId v reason) db = (.rejected rejection, after)) :
    ∃ row, Finds db (scopeOf ctx) (decision caseId .rejected v) row := by
  unfold rejectProposal at h
  split at h
  · cases h
  split at h
  · cases h
  rw [alone_bind] at h
  cases hout : (alone exec ω (moveAndRecord (scopeOf ctx) (decision caseId .rejected v)
      fun rejected => transitionEvent ctx .user rejected "proposal_rejected"
        [("reason", .str (Text.slice reason 500))]) db).1 with
  | error failure =>
      rw [decision] at hout
      rw [hout] at h
      cases h
  | ok result => exact finds_of_moveAndRecord hout

theorem permitted_approved_iff {state : CaseState} :
    Permitted state .approved .approver none ↔
      state = .actionProposed ∨ state = .approvalPending := by
  cases state <;> decide

theorem permitted_rejected_iff {state : CaseState} :
    Permitted state .rejected .approver none ↔ state = .approvalPending := by
  cases state <;> decide

/-- **A case can be approved and not rejected in `ACTION_PROPOSED`** and in no other state. -/
theorem rejectionAvailable_iff :
    RejectionAvailable caseId db ↔
      ∀ row, db.cases caseId = some row → row.state ≠ .actionProposed := by
  constructor
  · intro h row hrow hstate
    have hscope : scopeOf ⟨"", row.scope.merchantId, [.approver], ""⟩ = row.scope := rfl
    have hfinds : Finds db row.scope (decision caseId .approved row.caseVersion) row :=
      ⟨Database.caseOf_eq_some.2 ⟨hrow, rfl⟩, rfl, permitted_approved_iff.2 (.inl hstate)⟩
    rw [← hscope] at hfinds
    obtain ⟨approval, happroved⟩ : ∃ approval, (alone exec quietSurroundings (approveProposal
        ⟨"", row.scope.merchantId, [.approver], ""⟩ caseId row.caseVersion "") db).1 =
          .approved approval :=
      approved_alone_iff.2 ⟨rfl, row, hfinds⟩
    obtain ⟨rejection, after, hrejected, -⟩ := h _ _ _ _ "no" _ happroved (by decide)
    obtain ⟨row', hfound⟩ := finds_of_rejected hrejected
    have hrow' : db.cases caseId = some row' := (Database.caseOf_eq_some.1 hfound.found).1
    rw [hrow, Option.some.injEq] at hrow'
    subst hrow'
    have hpending := permitted_rejected_iff.1 hfound.permitted
    rw [hstate] at hpending
    cases hpending
  · intro h ω ctx v note reason approval happroved hreason
    obtain ⟨hrole, row, hfinds⟩ := approved_alone_iff.1 ⟨approval, happroved⟩
    have hrow : db.cases caseId = some row := (Database.caseOf_eq_some.1 hfinds.found).1
    have hpending : row.state = .approvalPending :=
      (permitted_approved_iff.1 hfinds.permitted).resolve_left (h row hrow)
    exact rejected_alone hrole hreason
      ⟨hfinds.found, hfinds.version, permitted_rejected_iff.2 hpending⟩

end Decisions

/-! ## Every run -/

section Run

variable {caseId : CaseId} {db : Database} {log : List (Executed Operation)} {i : Nat}
  {ℓ : Operation} {a : Statement} {ω : Surroundings}

/-- A proposed action was verified, and no case waits for approval. -/
def ProposalInv (caseId : CaseId) (db : Database) (log : List (Executed Operation)) : Prop :=
  ∃ row, db.cases caseId = some row ∧ row.state ≠ .approvalPending ∧
    (row.state = .actionProposed → VerifierResolved caseId log)

theorem ProposalInv.stay (h : ProposalInv caseId db log)
    (hto : appliedTo caseId (executed i ℓ a ω db) = none) :
    ProposalInv caseId (exec ω a db).2 (log ++ [executed i ℓ a ω db]) := by
  obtain ⟨row, hrow, hpending, hproposed⟩ := h
  exact ⟨row, by rw [cases_of_appliedTo_none hto, hrow], hpending,
    fun hstate => (hproposed hstate).append⟩

theorem ProposalInv.move (h : ProposalInv caseId db log) {t : AppliedTransition}
    (hto : appliedTo caseId (executed i ℓ a ω db) = some t) (hpending : t.toState ≠ .approvalPending)
    (hproposed : t.toState = .actionProposed → VerifierResolved caseId log) :
    ProposalInv caseId (exec ω a db).2 (log ++ [executed i ℓ a ω db]) := by
  obtain ⟨row, hrow, -⟩ := h
  obtain ⟨-, -, row', hrow', hpoint⟩ := cases_of_appliedTo hrow hto
  have hstate : row'.state = t.toState := congrArg CasePoint.state hpoint
  refine ⟨row', hrow', by rwa [hstate], fun hst => ?_⟩
  rw [hstate] at hst
  exact (hproposed hst).append

/-- What an agent's call knows once the verifier has resolved for it. -/
def KnowsResolved (caseId : CaseId) (ℓ : Operation) (log : List (Executed Operation)) : Prop :=
  AgentKnows caseId (fun _ log => VerifierResolved caseId log) ℓ log

theorem KnowsResolved.append (h : KnowsResolved caseId ℓ log)
    (added : List (Executed Operation)) : KnowsResolved caseId ℓ (log ++ added) :=
  AgentKnows.append (fun _ _ _ hres => hres.append) h added

theorem steady_of_append {K : List (Executed Operation) → Prop}
    (hK : ∀ log added, K log → K (log ++ added)) :
    Steady (ProposalInv caseId) i ℓ K where
  others := by
    rintro log log' ⟨added, rfl, -⟩ h
    exact hK log added h
  quiet s log a ω hinv h hquiet :=
    ⟨hinv.stay (appliedTo_of_applied_none hquiet.applied), hK log _ h⟩

/-- A request other than a proposal leaves the case neither proposed nor pending. -/
theorem Requests.settles {input : TransitionInput} (h : Requests ℓ input) :
    input.toState ≠ .approvalPending ∧ input.toState ≠ .actionProposed := by
  cases h with
  | approve hrole => exact ⟨by simp, by simp⟩
  | other hto =>
      simp only [List.mem_cons, List.not_mem_nil, or_false] at hto
      rcases hto with hto | hto | hto | hto | hto <;> rw [hto] <;> exact ⟨by simp, by simp⟩

def proposalDiscipline (caseId : CaseId) (i : Nat) (ℓ : Operation) :
    Discipline {} (ProposalInv caseId) i ℓ where
  Clear _ := True
  Owes _ _ _ := True
  Resolved := KnowsResolved caseId ℓ
  clear := steady_of_append fun _ _ _ => trivial
  owes _ _ := steady_of_append fun _ _ _ => trivial
  resolved := steady_of_append fun _ added h => h.append added
  clear_of_resolved _ _ := trivial
  verified ctx input hℓ s log ω proposal _ _ hresolve := by
    subst hℓ
    intro hid
    refine ⟨_, List.mem_append_right _ (List.mem_singleton_self _),
      verify proposal input.unit, ?_, hresolve⟩
    rw [← hid]
    rfl
  request scope input hreq s log ω fromState hinv _ _ hafter := by
    refine ⟨?_, trivial⟩
    obtain ⟨hpending, hproposed⟩ := hreq.settles
    by_cases hid : input.caseId = caseId
    · subst hid
      exact hinv.move (appliedTo_update hafter) hpending fun h => absurd h hproposed
    · exact hinv.stay (appliedTo_update_ne hid)
  propose ctx input hℓ scope s log ω fromState hinv h _ hafter := by
    subst hℓ
    refine ⟨?_, trivial⟩
    by_cases hid : input.caseId = caseId
    · subst hid
      exact hinv.move (appliedTo_update hafter) (by simp [AiInvestigationInput.proposal])
        fun _ => h rfl
    · exact hinv.stay (appliedTo_update_ne hid)
  record _ _ _ _ _ _ _ hinv _ := ⟨hinv.stay (appliedTo_of_applied_none rfl), trivial⟩
  conflict _ _ _ _ _ _ _ _ _ _ _ := trivial

/-- All calls, from a database in which the case is in `EXCEPTION`. -/
def proposalOutline (db : Database) (caseId : CaseId) {row : ReconciliationCase}
    (hrow : db.cases caseId = some row) (hstate : row.state = .exception) :
    Outline caseSystem {} db where
  inv := ProposalInv caseId
  post _ _ _ _ _ := True
  init := by
    refine ⟨row, hrow, by rw [hstate]; decide, fun hproposed => ?_⟩
    rw [hstate] at hproposed
    cases hproposed
  start s log i ℓ _ _ _ := keeps_operation ℓ (proposalDiscipline caseId i ℓ) trivial

end Run

/-- **Rejection is available wherever approval is** in every state a case in `EXCEPTION` can
reach but `ACTION_PROPOSED`; and throughout every run in which no investigation of the case has
its proposal verified. -/
theorem rejection_available (db : Database) (caseId : CaseId) {row₀ : ReconciliationCase}
    (hrow₀ : db.cases caseId = some row₀) (hstate : row₀.state = .exception)
    {c : Config Database Surroundings Statement Statement.Answer Operation OperationResult}
    (h : caseSystem.Reachable (fun _ _ => True) (Config.init db) c) :
    (RejectionAvailable caseId c.state ↔
      ∀ row, c.state.cases caseId = some row → row.state ≠ .actionProposed) ∧
    ((∀ e ∈ c.log, ¬ Resolves caseId e) → RejectionAvailable caseId c.state) := by
  refine ⟨rejectionAvailable_iff, fun hnone => rejectionAvailable_iff.2 ?_⟩
  obtain ⟨row, hrow, -, hproposed⟩ :=
    (proposalOutline db caseId hrow₀ hstate).inv_of_reachable (reachable_unruled h)
  intro row' hrow' hst
  rw [hrow, Option.some.injEq] at hrow'
  subst hrow'
  obtain ⟨e, he, hres⟩ := hproposed hst
  exact hnone e he hres

/-- An operator starts an investigation. -/
def investigationMoves : List (Move Operation Surroundings) :=
  .call (.startInvestigation true sampleOperator "case-1" 1) ::
    List.replicate 4 (.run 0 quietSurroundings)

theorem rejection_available_investigating :
    ∃ c, caseSystem.Reachable (fun _ _ => True) (Config.init sampleDatabase) c ∧
      (c.state.cases "case-1").map (·.point) = some ⟨.investigating, 2⟩ ∧
      RejectionAvailable "case-1" c.state := by
  obtain ⟨c, hc, row, hrow, hpoint⟩ : ∃ c, caseSystem.replay (fun _ _ => True)
      (Config.init sampleDatabase) investigationMoves = some c ∧
      ∃ row, c.state.cases "case-1" = some row ∧ row.point = ⟨.investigating, 2⟩ :=
    ⟨_, rfl, _, rfl, rfl⟩
  have hreach := System.reachable_of_replay investigationMoves hc
  refine ⟨c, hreach, by rw [hrow, Option.map_some, hpoint], ?_⟩
  refine (rejection_available sampleDatabase "case-1" rfl rfl hreach).1.2 ?_
  intro row' hrow' hst
  rw [hrow, Option.some.injEq] at hrow'
  subst hrow'
  have hinvestigating := congrArg CasePoint.state hpoint
  rw [ReconciliationCase.point, hst] at hinvestigating
  cases hinvestigating

/-- The agent's verified proposal can be approved and cannot be rejected. -/
theorem proposed_not_rejectable :
    ∃ c, caseSystem.Reachable (fun _ _ => True) (Config.init sampleDatabase) c ∧
      (alone exec quietSurroundings (approveProposal sampleApprover "case-1" 3 "verified")
        c.state).1 = .approved ⟨"case-1", .actionProposed, .approved, 4⟩ ∧
      (alone exec quietSurroundings (rejectProposal sampleApprover "case-1" 3 "not convinced")
        c.state).1 = .failed (.illegalTransition .actionProposed .rejected) := by
  obtain ⟨c, hc, happrove, hreject⟩ : ∃ c, caseSystem.replay (fun _ _ => True)
      (Config.init sampleDatabase) (investigationMoves ++
        .call (.runAiInvestigation sampleOperator ⟨"case-1", "uuid", "pay-1", sampleUnit, 2⟩) ::
        List.replicate 7 (.run 1 timingLagSurroundings)) = some c ∧
      (alone exec quietSurroundings (approveProposal sampleApprover "case-1" 3 "verified")
        c.state).1 = .approved ⟨"case-1", .actionProposed, .approved, 4⟩ ∧
      (alone exec quietSurroundings (rejectProposal sampleApprover "case-1" 3 "not convinced")
        c.state).1 = .failed (.illegalTransition .actionProposed .rejected) :=
    ⟨_, rfl, rfl, rfl⟩
  exact ⟨c, System.reachable_of_replay _ hc, happrove, hreject⟩

end SettlementOps
