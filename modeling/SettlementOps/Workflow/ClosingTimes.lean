import SettlementOps.Workflow.Linearizability

/-!
# When a case was closed

A case carries the time of its latest closing.  Reopening rewrites no history and keeps it, in the
domain object and in the stored row alike.

* `CaseStep`, `ReconciliationCase.after` — a case after any sequence of attempted steps.
* `ReconciliationCase.closings` — the times it was moved to `closed`.
* `closedAt_eq_latest` — the closing time is the latest of these, in the object and in the row.
-/

namespace SettlementOps

open Interleave

/-- Late evidence invalidated the proposal. -/
def invalidateProposal (current : ReconciliationCase) (instant : Date) :
    Except TransitionError ReconciliationCase :=
  applyTransition current {
    toState := .investigating
    actor := .system
    expectedVersion := current.caseVersion
    instant }

/-- The two operations of the aggregate. -/
inductive CaseStep
  | transition (request : TransitionRequest)
  | invalidateProposal (instant : Date)
  deriving DecidableEq, Repr

def CaseStep.apply (current : ReconciliationCase) :
    CaseStep → Except TransitionError ReconciliationCase
  | transition request => applyTransition current request
  | invalidateProposal instant => SettlementOps.invalidateProposal current instant

/-- What a step asks of the aggregate. -/
def CaseStep.request (current : ReconciliationCase) : CaseStep → TransitionRequest
  | transition request => request
  | invalidateProposal instant =>
      { toState := .investigating
        actor := .system
        expectedVersion := current.caseVersion
        instant }

namespace ReconciliationCase

/-- A step that is refused leaves the case as it is. -/
def attempt (current : ReconciliationCase) (step : CaseStep) : ReconciliationCase :=
  match step.apply current with
  | .ok next => next
  | .error _ => current

def after (current : ReconciliationCase) (steps : List CaseStep) : ReconciliationCase :=
  steps.foldl attempt current

/-- The time of the step, if it closes the case. -/
def closing (current : ReconciliationCase) (step : CaseStep) : Option Date :=
  match step.apply current with
  | .ok next => if next.state = .closed then some (step.request current).instant else none
  | .error _ => none

/-- The times the case was closed at, in order. -/
def closings (current : ReconciliationCase) : List CaseStep → List Date
  | [] => []
  | step :: rest => (current.closing step).toList ++ (current.attempt step).closings rest

end ReconciliationCase

/-- The steps that calls served one at a time attempted on a case of a merchant. -/
def stepsTo (caseId : CaseId) (scope : MerchantScope) (served : List ServedTransition) :
    List CaseStep :=
  served.filterMap fun r =>
    if r.label.input.caseId = caseId ∧ r.label.scope = scope then
      some (.transition (r.label.input.request r.oracle.now))
    else none

/-! ## The domain object -/

variable {current : ReconciliationCase}

theorem CaseStep.apply_eq (current : ReconciliationCase) (step : CaseStep) :
    step.apply current = applyTransition current (step.request current) := by
  cases step <;> rfl

/-- A step changes the closing time only by closing the case, and then it is the step's. -/
theorem attempt_closedAt (current : ReconciliationCase) (step : CaseStep) :
    (current.attempt step).closedAt = (current.closing step).or current.closedAt := by
  rw [ReconciliationCase.attempt, ReconciliationCase.closing, CaseStep.apply_eq]
  cases happly : applyTransition current (step.request current) with
  | error e => rfl
  | ok next =>
      obtain ⟨-, -, rfl⟩ := applyTransition_ok_iff.1 happly
      dsimp only
      split <;> rfl

theorem attempt_scope (current : ReconciliationCase) (step : CaseStep) :
    (current.attempt step).scope = current.scope := by
  rw [ReconciliationCase.attempt, CaseStep.apply_eq]
  cases happly : applyTransition current (step.request current) with
  | error e => rfl
  | ok next =>
      obtain ⟨-, -, rfl⟩ := applyTransition_ok_iff.1 happly
      rfl

/-- What is closed was closed at some time. -/
def ReconciliationCase.DatedClosing (current : ReconciliationCase) : Prop :=
  current.state = .closed → current.closedAt ≠ none

theorem datedClosing_attempt (h : current.DatedClosing) (step : CaseStep) :
    (current.attempt step).DatedClosing := by
  rw [ReconciliationCase.attempt, CaseStep.apply_eq]
  cases happly : applyTransition current (step.request current) with
  | error e => exact h
  | ok next =>
      obtain ⟨-, -, rfl⟩ := applyTransition_ok_iff.1 happly
      intro hclosed
      dsimp only at hclosed ⊢
      rw [if_pos hclosed]
      exact Option.some_ne_none _

theorem datedClosing_after (h : current.DatedClosing) (steps : List CaseStep) :
    (current.after steps).DatedClosing := by
  induction steps generalizing current with
  | nil => exact h
  | cons step rest ih => exact ih (datedClosing_attempt h step)

/-- The closing time after a run: the latest, or else the one the case came with. -/
theorem after_closedAt (steps : List CaseStep) :
    (current.after steps).closedAt = (current.closings steps).getLast?.or current.closedAt := by
  induction steps generalizing current with
  | nil => rfl
  | cons step rest ih =>
      have hlast : (current.closing step).toList.getLast? = current.closing step := by
        cases current.closing step <;> rfl
      rw [ReconciliationCase.closings, List.getLast?_append, Option.or_assoc, hlast,
        ← attempt_closedAt]
      exact ih

theorem after_scope (steps : List CaseStep) : (current.after steps).scope = current.scope := by
  induction steps generalizing current with
  | nil => rfl
  | cons step rest ih => exact ih.trans (attempt_scope current step)

/-! ## The stored row -/

/-- One call attempts its step on the row of the case it names, if the row is its merchant's. -/
theorem serveTransition_row {call : TransitionCall} {ω : Surroundings} {cases : CaseRows}
    {caseId : CaseId} {row : ReconciliationCase} (hrow : cases caseId = some row) :
    (serveTransition call ω cases).2 caseId = some
      (if call.input.caseId = caseId ∧ call.scope = row.scope then
        row.attempt (.transition (call.input.request ω.now)) else row) := by
  by_cases hid : call.input.caseId = caseId
  · subst hid
    rw [serveTransition, hrow]
    by_cases hscope : call.scope = row.scope
    · rw [if_pos ⟨rfl, hscope⟩, ReconciliationCase.attempt, CaseStep.apply]
      simp only [Option.filter_some, hscope, decide_true, if_true]
      cases happly : applyTransition row (call.input.request ω.now) with
      | error e => exact hrow
      | ok next => exact Function.update_self ..
    · rw [if_neg fun h => hscope h.2]
      simp only [Option.filter_some, Ne.symm hscope, decide_false, Bool.false_eq_true, if_false]
      exact hrow
  · rw [if_neg fun h => hid h.1]
    cases hout : (serveTransition call ω cases).1 with
    | error failure => rw [serveTransition_refused hout, hrow]
    | ok result =>
        obtain ⟨_, -, -, -, -, hcases⟩ := serveTransition_granted hout
        rw [hcases, Function.update_of_ne (Ne.symm hid), hrow]

theorem sequentialRun_row {cases₀ cases : CaseRows} {caseId : CaseId}
    {served : List ServedTransition} (h : SequentialRun serveTransition cases₀ served cases)
    (hrow : cases₀ caseId = some current) :
    cases caseId = some (current.after (stepsTo caseId current.scope served)) := by
  induction h with
  | nil => exact hrow
  | snoc i call ω hrun ih =>
      rw [serveTransition_row ih, after_scope, stepsTo, stepsTo, List.filterMap_append,
        ReconciliationCase.after, ReconciliationCase.after, List.foldl_append]
      congr 1
      by_cases hto : call.input.caseId = caseId ∧ call.scope = current.scope
      · simp [hto]
      · simp [hto]

/-- **The closing time is that of the latest closing**, also when the case was reopened since; the
stored row is the domain object after the same requests. -/
theorem closedAt_eq_latest (hnew : current.closedAt = none) (hopen : current.state ≠ .closed) :
    (∀ steps,
      (current.after steps).closedAt = (current.closings steps).getLast? ∧
      ((current.after steps).closedAt ≠ none ↔ current.closings steps ≠ []) ∧
      ((current.after steps).state = .closed → (current.after steps).closedAt ≠ none)) ∧
    ∀ (db : Database) (caseId : CaseId), db.cases caseId = some current →
      ∀ c, transitionSystem.Reachable (fun _ _ => True) (Config.init db) c →
        c.state.cases caseId =
          some (current.after (stepsTo caseId current.scope (history commitOf c.log))) := by
  constructor
  · intro steps
    have hlatest : (current.after steps).closedAt = (current.closings steps).getLast? := by
      rw [after_closedAt, hnew, Option.or_none]
    have hdated : current.DatedClosing := fun hclosed => absurd hclosed hopen
    refine ⟨hlatest, ?_, datedClosing_after hdated steps⟩
    rw [hlatest, ne_eq, List.getLast?_eq_none_iff]
  · intro db caseId hrow c hreach
    exact sequentialRun_row (linearizable_of_reachable db hreach).run hrow

/-! ## A case that is reopened -/

/-- Escalated, closed outside the system, and reopened by an admin. -/
def reopening : List TransitionInput :=
  [ { caseId := "case-1", toState := .escalated, actor := .operator, expectedVersion := 1 },
    { caseId := "case-1", toState := .closed, actor := .operator, expectedVersion := 2
      outcomeRecorded := some true },
    { caseId := "case-1", toState := .reopened, actor := .admin, expectedVersion := 3 } ]

def reopeningSteps : List CaseStep :=
  reopening.map fun input => .transition (input.request ⟨5⟩)

/-- The same three calls, one after the other. -/
def reopeningMoves : List (Move TransitionCall Surroundings) :=
  let ω := { quietSurroundings with now := ⟨5⟩ }
  reopening.zipIdx.flatMap fun p =>
    [.call ⟨⟨"merchant-1"⟩, p.1⟩, .run p.2 ω, .run p.2 ω]

theorem closedAt_eq_latest_reopening :
    (sampleCase.after reopeningSteps).closedAt =
      (sampleCase.closings reopeningSteps).getLast? := by
  have hnew : sampleCase.closedAt = none := rfl
  have hopen : sampleCase.state ≠ .closed := by decide
  exact ((closedAt_eq_latest hnew hopen).1 reopeningSteps).1

/-- Reopened, and still with a closing time: the object and the row. -/
theorem reopened_keeps_closedAt :
    ((sampleCase.after reopeningSteps).state = .reopened ∧
      (sampleCase.after reopeningSteps).closedAt = some ⟨5⟩) ∧
    ∃ c, transitionSystem.Reachable (fun _ _ => True) (Config.init sampleDatabase) c ∧
      ∃ row, c.state.cases "case-1" = some row ∧ row.state = .reopened ∧
        row.closedAt = some ⟨5⟩ := by
  refine ⟨by decide, ?_⟩
  obtain ⟨c, hc, hrow⟩ : ∃ c, transitionSystem.replay (fun _ _ => True)
      (Config.init sampleDatabase) reopeningMoves = some c ∧
      ∃ row, c.state.cases "case-1" = some row ∧ row.state = .reopened ∧
        row.closedAt = some ⟨5⟩ :=
    ⟨_, rfl, _, rfl, rfl, rfl⟩
  exact ⟨c, System.reachable_of_replay reopeningMoves hc, hrow⟩

end SettlementOps
