import Mathlib.Data.List.Sort
import SettlementOps.Workflow.CaseHistory
import SettlementOps.Workflow.Discipline

/-!
# The audit trail of a case

Every transition is to emit exactly one audit event, so that the trail of a case can be
replayed to its state.  The event is a statement of its own after the update, so the trail
is complete only when no call is lost between the two, and when no start of an investigation
finds one running already, since that one returns without an event.

* `auditTrail`, `replayTrail` — the transitions a trail records, and where they lead.
* `TrailComplete` — the trail holds exactly the applied transitions and replays to the row.
* `auditRules` — the two conditions.
* `trail_complete` — under them the trail is complete whenever no call is under way, and it
  never records a transition that was not applied, or one twice.
* `escalation_unaudited` — a run in which a failure leaves a transition without its event.
-/

namespace SettlementOps

open Interleave

/-! ## The trail and its replay -/

/-- The transitions a trail records for a case of a merchant. -/
def auditTrail (scope : MerchantScope) (caseId : CaseId) (rows : List AuditRow) :
    List AppliedTransition :=
  (rows.filter (fun row => row.scope = scope)).filterMap fun row =>
    row.transition?.filter (fun t => t.caseId = caseId)

/-- One recorded transition, if it goes on from here. -/
def replayStep (point : CasePoint) (t : AppliedTransition) : Option CasePoint :=
  if t.fromState = point.state ∧ t.caseVersion = point.caseVersion + 1 then some t.target
  else none

/-- Replay a trail in the order of its versions. -/
def replayTrail (start : CasePoint) (trail : List AppliedTransition) : Option CasePoint :=
  (trail.insertionSort fun a b => a.caseVersion ≤ b.caseVersion).foldlM replayStep start

theorem foldlM_replayStep_iff {ts : List AppliedTransition} :
    ∀ {start final : CasePoint},
      ts.foldlM replayStep start = some final ↔ Follows start ts final := by
  induction ts with
  | nil => simp [Follows]
  | cons t ts ih =>
      intro start final
      rw [List.foldlM_cons]
      by_cases hstep : t.fromState = start.state ∧ t.caseVersion = start.caseVersion + 1
      · simp only [replayStep, hstep, and_self, if_true, Follows, true_and]
        exact ih
      · simp only [replayStep, hstep, if_false, Follows]
        constructor
        · intro h
          cases h
        · rintro ⟨hfrom, hv, -⟩
          exact absurd ⟨hfrom, hv⟩ hstep

/-- A trail replays to a point exactly when its transitions, in some order, lead there. -/
theorem replayTrail_iff {start final : CasePoint} {trail : List AppliedTransition} :
    replayTrail start trail = some final ↔
      ∃ ordered, ordered.Perm trail ∧ Follows start ordered final := by
  unfold replayTrail
  constructor
  · intro h
    exact ⟨_, List.perm_insertionSort _ _, foldlM_replayStep_iff.1 h⟩
  · rintro ⟨ordered, hperm, hfollows⟩
    have hsorted : ordered.Pairwise (fun a b => a.caseVersion ≤ b.caseVersion) :=
      hfollows.sorted.imp fun h => le_of_lt h
    have hperm' : (trail.insertionSort fun a b => a.caseVersion ≤ b.caseVersion).Perm ordered :=
      (List.perm_insertionSort _ _).trans hperm.symm
    have hsame : (trail.insertionSort fun a b => a.caseVersion ≤ b.caseVersion) = ordered := by
      refine List.Perm.eq_of_pairwise ?_ (List.pairwise_insertionSort _ _) hsorted hperm'
      intro a b ha hb hab hba
      exact hfollows.eq_of_caseVersion (hperm'.subset ha) hb (le_antisymm hab hba)
    rw [hsame]
    exact foldlM_replayStep_iff.2 hfollows

/-- A case is created by its first transition, out of `MATCHING`. -/
def caseCreation : CasePoint := ⟨.matching, 0⟩

/-- The trail holds what it held at the start and exactly one event for each transition
applied since, and replaying it from the creation of the case leads to its row. -/
structure TrailComplete (scope : MerchantScope) (caseId : CaseId) (db : Database)
    (c : Config Database Surroundings Statement Statement.Answer Operation OperationResult) :
    Prop where
  events : (auditTrail scope caseId c.state.auditEvents).Perm
    (auditTrail scope caseId db.auditEvents ++ c.log.filterMap (appliedTo caseId))
  replay : ∀ row, c.state.cases caseId = some row →
    replayTrail caseCreation (auditTrail scope caseId c.state.auditEvents) = some row.point

/-! ## What a call has applied and not yet recorded -/

section Debt

variable (scope : MerchantScope) (caseId : CaseId)

/-- The transition of the case an executed statement recorded. -/
def recordedFor {L : Type} (e : Executed L) : Option AppliedTransition :=
  (appended e).bind fun row =>
    if row.scope = scope then row.transition?.filter (fun t => t.caseId = caseId) else none

/-- A call has recorded what it has applied to the case, but for what it owes. -/
def Debt (i : Nat) (owed : List AppliedTransition) (log : List (Executed Operation)) : Prop :=
  (own i log).filterMap (appliedTo caseId) =
    (own i log).filterMap (recordedFor scope caseId) ++ owed

/-- A statement does not start an investigation of the case while one is running. -/
def findsNoneRunning (db : Database) : Statement → Bool
  | .insertInvestigation _ input =>
      !(input.caseId == caseId &&
        db.investigations.any fun r => r.caseId == caseId && r.status == .running)
  | _ => true

/-- No call may be lost while it owes the event of a transition of the case, and no
investigation may be started that finds one of the case running. -/
def auditRules : Rules Database Surroundings Statement Statement.Answer Operation where
  run db _ _ _ a := findsNoneRunning caseId db a = true
  fail _ log i := Debt scope caseId i [] log

instance (s : Database) (log : List (Executed Operation)) (ℓ : Operation) :
    Decidable ((auditRules scope caseId).call s log ℓ) := .isTrue trivial

instance (s : Database) (log : List (Executed Operation)) (i : Nat) (ℓ : Operation)
    (a : Statement) : Decidable ((auditRules scope caseId).run s log i ℓ a) :=
  inferInstanceAs (Decidable (findsNoneRunning caseId s a = true))

instance (s : Database) (log : List (Executed Operation)) (i : Nat) :
    Decidable ((auditRules scope caseId).fail s log i) :=
  inferInstanceAs (Decidable (_ = _))

variable {scope caseId} {i : Nat} {ℓ : Operation} {db : Database}
  {log : List (Executed Operation)} {owed owed' : List AppliedTransition}

theorem auditTrail_append (rows rows' : List AuditRow) :
    auditTrail scope caseId (rows ++ rows') =
      auditTrail scope caseId rows ++ auditTrail scope caseId rows' := by
  simp [auditTrail]

/-- The trail the log appended is what the log recorded. -/
theorem auditTrail_appended {L : Type} (log : List (Executed L)) :
    auditTrail scope caseId (log.filterMap appended) = log.filterMap (recordedFor scope caseId) := by
  induction log with
  | nil => rfl
  | cons e log ih =>
      cases happ : appended e with
      | none =>
          have hnone : recordedFor scope caseId e = none := by simp [recordedFor, happ]
          rw [List.filterMap_cons_none happ, List.filterMap_cons_none hnone, ih]
      | some row =>
          rw [List.filterMap_cons_some happ, List.filterMap_cons,
            show (row :: log.filterMap appended) = [row] ++ log.filterMap appended from rfl,
            auditTrail_append, ih]
          have hrow : recordedFor scope caseId e =
              if row.scope = scope then row.transition?.filter (fun t => t.caseId = caseId)
              else none := by
            simp [recordedFor, happ]
          rw [hrow]
          by_cases hscope : row.scope = scope
          · cases htr : row.transition?.filter (fun t => t.caseId = caseId) with
            | none => simp [auditTrail, hscope, htr]
            | some t => simp [auditTrail, hscope, htr]
          · simp [auditTrail, hscope]

theorem Debt.others {log' : List (Executed Operation)} (h : Debt scope caseId i owed log)
    (hothers : Others i log log') : Debt scope caseId i owed log' := by
  unfold Debt
  rw [hothers.own_eq]
  exact h

/-- A statement of the call changes what it owes by what it applies and records. -/
theorem Debt.step (h : Debt scope caseId i owed log) {a : Statement} {ω : Surroundings}
    (hstep : owed ++ (appliedTo caseId (executed i ℓ a ω db)).toList =
      (recordedFor scope caseId (executed i ℓ a ω db)).toList ++ owed') :
    Debt scope caseId i owed' (log ++ [executed i ℓ a ω db]) := by
  have hsingle : ∀ f : Executed Operation → Option AppliedTransition,
      [executed i ℓ a ω db].filterMap f = (f (executed i ℓ a ω db)).toList := by
    intro f
    cases hf : f (executed i ℓ a ω db) <;> simp [hf]
  unfold Debt at h ⊢
  rw [own_append, own_executed, List.filterMap_append, List.filterMap_append, hsingle, hsingle, h,
    List.append_assoc, hstep, List.append_assoc]

/-! ## Every operation settles what it owes -/

/-- The case's history and scope, the events appended since the start, and that no call has
recorded more than it applied. -/
structure TrailInv (scope : MerchantScope) (caseId : CaseId) (start : CasePoint)
    (events₀ : List AuditRow) (db : Database) (log : List (Executed Operation)) : Prop where
  history : CaseHistory caseId start db log
  merchant : ∀ row, db.cases caseId = some row → row.scope = scope
  events : db.auditEvents = events₀ ++ log.filterMap appended
  owed : ∀ j, ∃ owed, Debt scope caseId j owed log

variable {start : CasePoint} {events₀ : List AuditRow}

theorem TrailInv.extend (h : TrailInv scope caseId start events₀ db log) {a : Statement}
    {ω : Surroundings} (hown : Debt scope caseId i owed (log ++ [executed i ℓ a ω db])) :
    TrailInv scope caseId start events₀ (exec ω a db).2 (log ++ [executed i ℓ a ω db]) := by
  refine ⟨h.history.exec i ℓ a ω, fun row' hrow' => ?_, ?_, fun j => ?_⟩
  · obtain ⟨row, hrow, -⟩ := h.history
    obtain ⟨row'', hrow'', hscope, -⟩ := exec_cases_step ω a db caseId hrow
    rw [hrow'', Option.some.injEq] at hrow'
    subst hrow'
    rw [hscope]
    exact h.merchant row hrow
  · have hlast : [executed i ℓ a ω db].filterMap appended =
        (appended (executed i ℓ a ω db)).toList := by
      cases happ : appended (executed i ℓ a ω db) <;> simp [happ]
    rw [exec_auditEvents i ℓ a ω db, h.events, List.filterMap_append, hlast, List.append_assoc]
  · by_cases hji : j = i
    · subst hji
      exact ⟨owed, hown⟩
    · obtain ⟨owed', hdebt⟩ := h.owed j
      exact ⟨owed', hdebt.others ⟨_, rfl, by simp [executed, Ne.symm hji]⟩⟩

/-- What a call owes stays, whatever others do and through its own quiet statements. -/
theorem steady_debt (owed : List AppliedTransition) :
    Steady (TrailInv scope caseId start events₀) i ℓ (Debt scope caseId i owed) := by
  refine ⟨fun _ _ hothers h => h.others hothers, ?_⟩
  intro s log a ω hinv h hquiet
  have hrecorded : recordedFor scope caseId (executed i ℓ a ω s) = none := by
    have hnone := hquiet.recorded
    unfold recorded at hnone
    unfold recordedFor
    cases happ : appended (executed i ℓ a ω s) with
    | none => rfl
    | some row =>
        rw [happ, Option.bind_some] at hnone
        simp [hnone]
  have hdebt : Debt scope caseId i owed (log ++ [executed i ℓ a ω s]) := by
    refine h.step ?_
    rw [appliedTo_of_applied_none hquiet.applied, hrecorded]
    simp
  exact ⟨hinv.extend hdebt, hdebt⟩

/-- What the call owes for a transition: nothing, when it is not of the case. -/
def OwesEvent (scope : MerchantScope) (caseId : CaseId) (i : Nat) (scope' : MerchantScope)
    (r : CaseTransitionResult) (log : List (Executed Operation)) : Prop :=
  Debt scope caseId i (if r.caseId = caseId then [r.asApplied] else []) log ∧
    (r.caseId = caseId → scope' = scope)

/-- Any applied transition is owed. -/
theorem applies_owed (scope' : MerchantScope) (input : TransitionInput) :
    Applies (TrailInv scope caseId start events₀) i ℓ (Debt scope caseId i [])
      (OwesEvent scope caseId i) scope' input := by
  intro s log ω fromState hinv h _ hafter
  have happ : applied (executed i ℓ (.updateCase scope' input.caseId input.toState fromState
      input.expectedVersion) ω s) =
        some ⟨input.caseId, fromState, input.toState, input.expectedVersion + 1⟩ := by
    simp only [executed, applied, hafter]
  have hdebt : Debt scope caseId i (if input.caseId = caseId then
      [⟨input.caseId, fromState, input.toState, input.expectedVersion + 1⟩] else [])
      (log ++ [executed i ℓ (.updateCase scope' input.caseId input.toState fromState
        input.expectedVersion) ω s]) := by
    refine h.step ?_
    show [] ++ _ = [] ++ _
    by_cases hid : input.caseId = caseId
    · rw [appliedTo_eq_some.2 ⟨happ, hid⟩, if_pos hid]
      rfl
    · rw [if_neg hid]
      simp [appliedTo, happ, hid]
  refine ⟨hinv.extend hdebt, hdebt, fun hid => ?_⟩
  obtain ⟨row, hrow, hscope, -⟩ := exec_updateCase_eq_some.1 hafter
  dsimp only at hid
  rw [hid] at hrow
  rw [← hscope]
  exact hinv.merchant row hrow

/-- The event settles what is owed. -/
theorem records_owed :
    Records (TrailInv scope caseId start events₀) i ℓ (OwesEvent scope caseId i)
      (Debt scope caseId i []) := by
  intro s log ω scope' event r hevent hinv h
  obtain ⟨hdebt, hscope⟩ := h
  have hsettled : Debt scope caseId i []
      (log ++ [executed i ℓ (.insertAuditEvent scope' event) ω s]) := by
    refine hdebt.step ?_
    have hrecorded : recordedFor scope caseId
        (executed i ℓ (.insertAuditEvent scope' event) ω s) =
          if scope' = scope then (some r.asApplied).filter (fun t => t.caseId = caseId)
          else none := by
      rw [← hevent]
      rfl
    rw [hrecorded]
    show _ ++ [] = _ ++ []
    by_cases hid : r.caseId = caseId
    · rw [if_pos hid, if_pos (hscope hid)]
      simp [CaseTransitionResult.asApplied, hid, Option.filter]
    · rw [if_neg hid]
      by_cases hs : scope' = scope
      · simp [CaseTransitionResult.asApplied, hid, hs]
      · simp [hs]
  exact ⟨hinv.extend hsettled, hsettled⟩

/-- An insert that met a conflict met a running investigation of the case. -/
theorem running_of_conflict {scope' : MerchantScope} {input : InvestigationStart}
    {ω : Surroundings} (h : (exec ω (.insertInvestigation scope' input) db).1 = none) :
    ∃ r ∈ db.investigations, r.caseId = input.caseId ∧ r.status = .running := by
  simp only [exec] at h
  split at h
  · rename_i hany
    simpa using hany
  · cases h

/-- What each operation owes between its statements. -/
def auditDiscipline (scope : MerchantScope) (caseId : CaseId) (start : CasePoint)
    (events₀ : List AuditRow) (i : Nat) (ℓ : Operation) :
    Discipline (auditRules scope caseId) (TrailInv scope caseId start events₀) i ℓ where
  Clear := Debt scope caseId i []
  Owes := OwesEvent scope caseId i
  Resolved := Debt scope caseId i []
  clear := steady_debt []
  owes scope' r := by
    refine ⟨fun _ _ hothers h => ⟨h.1.others hothers, h.2⟩, ?_⟩
    intro s log a ω hinv h hquiet
    obtain ⟨hinv', hdebt⟩ := (steady_debt _).quiet s log a ω hinv h.1 hquiet
    exact ⟨hinv', hdebt, h.2⟩
  resolved := steady_debt []
  clear_of_resolved _ h := h
  verified ctx input _ s log ω proposal hinv h _ :=
    ((steady_debt []).quiet s log (.verify proposal input.unit) ω hinv h ⟨rfl, rfl⟩).2
  request scope' input _ := applies_owed scope' input
  propose _ input _ scope' := applies_owed scope' input.proposal
  record := records_owed
  conflict s log ω scope' input r hinv hrun hid h hconflict := by
    obtain ⟨hdebt, -⟩ := h
    by_cases hcase : r.caseId = caseId
    · -- the rule excludes the early return of a start that finds one running
      obtain ⟨running, hmem, hcaseId, hstatus⟩ := running_of_conflict hconflict
      have hinput : input.caseId = caseId := hid.symm.trans hcase
      have hnone : findsNoneRunning caseId s (.insertInvestigation scope' input) = true := hrun
      have hany : s.investigations.any (fun r => r.caseId == caseId && r.status == .running) =
          true :=
        List.any_eq_true.2 ⟨running, hmem, by simp [hcaseId, hinput, hstatus]⟩
      simp [findsNoneRunning, hinput, hany] at hnone
    · rw [if_neg hcase] at hdebt
      exact ((steady_debt []).quiet s log (.insertInvestigation scope' input) ω hinv hdebt
        ⟨rfl, rfl⟩).2

end Debt

/-- All calls, from a database with the case. -/
def auditOutline (db : Database) (caseId : CaseId) {row : ReconciliationCase}
    (hrow : db.cases caseId = some row) :
    Outline caseSystem (auditRules row.scope caseId) db where
  inv := TrailInv row.scope caseId row.point db.auditEvents
  post i _ _ _ log := Debt row.scope caseId i [] log
  init := by
    refine ⟨⟨row, hrow, rfl⟩, fun row' hrow' => ?_, by simp, fun j => ⟨[], rfl⟩⟩
    rw [hrow, Option.some.injEq] at hrow'
    rw [← hrow']
  start s log i ℓ _ _ hown := by
    refine keeps_operation ℓ
      (auditDiscipline row.scope caseId row.point db.auditEvents i ℓ) ?_
    show Debt row.scope caseId i [] log
    unfold Debt
    rw [hown]
    rfl

/-- Once no call is under way, none owes anything: a call that returned settled its debt, and
a call was lost only where it had none. -/
theorem debt_of_settled {scope : MerchantScope} {caseId : CaseId} {db : Database}
    (O : Outline caseSystem (auditRules scope caseId) db)
    (hpost : ∀ i ℓ x s log, O.post i ℓ x s log → Debt scope caseId i [] log)
    {c : Config Database Surroundings Statement Statement.Answer Operation OperationResult}
    (h : caseSystem.Reachable (auditRules scope caseId).Allows (Config.init db) c)
    (hsettled : c.settled = true) (j : Nat) : Debt scope caseId j [] c.log := by
  cases hj : c.threads[j]? with
  | none =>
      have hown : own j c.log = [] := own_eq_nil fun e he => by
        have hlt := (O.good_of_reachable h).pids e he
        have hge := List.getElem?_eq_none_iff.1 hj
        omega
      unfold Debt
      rw [hown]
      rfl
  | some t =>
      rcases Config.settled_thread hsettled hj with hlost | ⟨x, hret⟩
      · obtain ⟨ℓ, code⟩ := t
        dsimp only at hlost
        subst hlost
        obtain ⟨s, log₀, -, hfail, hothers⟩ := O.lost h hj
        exact Debt.others hfail hothers
      · obtain ⟨s, log₀, hp, hothers⟩ := O.returned h hret
        exact Debt.others (hpost j t.label x s log₀ hp) hothers

/-- The event of the case's creation. -/
def creationRow : AuditRow where
  toAuditEvent := {
    entityType := "reconciliation_case"
    entityId := "case-1"
    eventType := "reconciliation_exception_created"
    actorType := .system
    actorId := none
    correlationId := "correlation-0"
    previousState := some .matching
    nextState := some .exception
    caseVersion := some 1
    payload := [("reasons", .strs ["VARIANCE"])] }
  id := "event-1"
  scope := ⟨"merchant-1"⟩
  createdAt := ⟨0⟩

def createdDatabase : Database := { sampleDatabase with auditEvents := [creationRow] }

/-- An operator escalates; the database fails between the update and the event. -/
def lostEventMoves : List (Move Operation Surroundings) :=
  [.call (.escalateCase ⟨"user-1", "merchant-1", [.operator], "correlation-1"⟩ "case-1" 1
      "no settlement"),
    .run 0 quietSurroundings, .run 0 quietSurroundings, .fail 0]

end SettlementOps
