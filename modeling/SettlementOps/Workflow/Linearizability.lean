import SettlementOps.Interleave.Linearization
import SettlementOps.Workflow.Repositories

/-!
# Case transitions are linearizable

Any number of callers run the repository's `transition`, and their reads and writes
interleave freely; a call may also be lost between any two statements.  The results are
those of the domain's `applyTransition` made one call at a time.

* `serveTransition` — one call made alone, by `applyTransition`.
* `commitOf` — the statement a call takes effect at: the read that refuses it, the update
  that applies it, or the read that follows a missed update.
* `Witnessed` — what a read or a missed update says about the row from then on.
* `transitions_linearizable` — the property, with its consequences for versions, for the
  table and for calls that fail.
-/

namespace SettlementOps

open Interleave

/-- The rows of `reconciliation_cases`. -/
abbrev CaseRows := CaseId → Option ReconciliationCase

structure TransitionCall where
  scope : MerchantScope
  input : TransitionInput
  deriving DecidableEq, Repr

/-- Any number of calls to `transition` on one database. -/
def transitionSystem :
    System Database Surroundings Statement Statement.Answer TransitionCall
      TransitionOutcome where
  exec := exec
  prog call := transition call.scope call.input

/-- How the repository reports what the domain refuses. -/
def TransitionFailure.ofError : TransitionError → TransitionFailure
  | .versionConflict _ actual => .versionConflict actual
  | .illegalTransition fromState toState => .illegalTransition fromState toState
  | .actorNotPermitted fromState toState actor => .actorNotPermitted fromState toState actor
  | .outcomeRequired _ _ => .outcomeRequired

def TransitionInput.request (input : TransitionInput) (now : Date) : TransitionRequest where
  toState := input.toState
  actor := input.actor
  expectedVersion := input.expectedVersion
  outcomeRecorded := input.outcomeRecorded
  instant := now

/-- One call made alone.  The case of another merchant is no case. -/
def serveTransition (call : TransitionCall) (ω : Surroundings) (cases : CaseRows) :
    TransitionOutcome × CaseRows :=
  match (cases call.input.caseId).filter (fun row => row.scope = call.scope) with
  | none => (.error .notFound, cases)
  | some row =>
      match applyTransition row (call.input.request ω.now) with
      | .error e => (.error (.ofError e), cases)
      | .ok next =>
          (.ok ⟨call.input.caseId, row.state, next.state, next.caseVersion⟩,
            Function.update cases call.input.caseId (some next))

/-- The outcome a statement settles for its call, if it settles it. -/
def commitOf : Executed TransitionCall → Option TransitionOutcome
  | ⟨_, _, .selectCase _ _, none, _⟩ => some (.error .notFound)
  | ⟨_, call, .selectCase _ _, some (fromState, v), _⟩ =>
      (refusal call.input fromState v).map .error
  | ⟨_, _, .updateCase _ caseId toState fromState _, some v, _⟩ =>
      some (.ok ⟨caseId, fromState, toState, v⟩)
  | ⟨_, _, .selectCaseVersion _ _, latest, _⟩ =>
      some (.error (.versionConflict (latest.getD (-1))))
  | _ => none

/-- A read row has not gone back, and has its state as long as it has its version; the row
of a missed update has gone on. -/
def Witnessed (cases : CaseRows) : Executed TransitionCall → Prop
  | ⟨_, _, .selectCase scope caseId, some (state, v), _⟩ =>
      ∃ row, cases caseId = some row ∧ row.scope = scope ∧ v ≤ row.caseVersion ∧
        (row.caseVersion = v → row.state = state)
  | ⟨_, _, .updateCase scope caseId _ _ v, none, _⟩ =>
      ∃ row, cases caseId = some row ∧ row.scope = scope ∧ v < row.caseVersion
  | _ => True

/-! ## A call made alone -/

/-- The domain's checks are the repository's. -/
theorem applyTransition_eq_refusal (row : ReconciliationCase) (input : TransitionInput)
    (now : Date) :
    (∃ e, applyTransition row (input.request now) = .error e ∧
        refusal input row.state row.caseVersion = some (.ofError e)) ∨
      (applyTransition row (input.request now) = .ok (row.moved input.toState now) ∧
        refusal input row.state row.caseVersion = none) := by
  unfold applyTransition refusal TransitionInput.request
  dsimp only
  split
  · exact .inl ⟨_, rfl, rfl⟩
  split
  · exact .inl ⟨_, rfl, rfl⟩
  split
  · exact .inl ⟨_, rfl, rfl⟩
  split
  · exact .inl ⟨_, rfl, rfl⟩
  · exact .inr ⟨rfl, rfl⟩

theorem serveTransition_notFound {call : TransitionCall} {ω : Surroundings} {db : Database}
    (h : db.caseOf call.scope call.input.caseId = none) :
    serveTransition call ω db.cases = (.error .notFound, db.cases) := by
  unfold Database.caseOf at h
  simp only [serveTransition, h]

/-- A call alone is refused for what the repository's check refuses, or moves the row. -/
theorem serveTransition_found {call : TransitionCall} {ω : Surroundings} {db : Database}
    {row : ReconciliationCase} (h : db.caseOf call.scope call.input.caseId = some row) :
    serveTransition call ω db.cases =
      match refusal call.input row.state row.caseVersion with
      | some failure => (.error failure, db.cases)
      | none =>
          (.ok ⟨call.input.caseId, row.state, call.input.toState, row.caseVersion + 1⟩,
            Function.update db.cases call.input.caseId
              (some (row.moved call.input.toState ω.now))) := by
  unfold Database.caseOf at h
  rcases applyTransition_eq_refusal row call.input ω.now with ⟨e, happly, href⟩ | ⟨happly, href⟩
  · simp only [serveTransition, h, happly, href]
  · simp only [serveTransition, h, happly, href]
    rfl

/-! ## What a statement was evidence of stays so -/

theorem Witnessed.exec {db : Database} {e : Executed TransitionCall}
    (h : Witnessed db.cases e) (ω : Surroundings) (a : Statement) :
    Witnessed (exec ω a db).2.cases e := by
  unfold Witnessed at h ⊢
  split at h
  · obtain ⟨row, hrow, hscope, hle, hsame⟩ := h
    obtain ⟨row', hrow', hscope', hmove⟩ := exec_cases_step ω a db _ hrow
    refine ⟨row', hrow', hscope'.trans hscope, ?_, ?_⟩
    · rcases hmove with rfl | hmove <;> omega
    · rcases hmove with rfl | hmove
      · exact hsame
      · intro heq
        omega
  · obtain ⟨row, hrow, hscope, hlt⟩ := h
    obtain ⟨row', hrow', hscope', hmove⟩ := exec_cases_step ω a db _ hrow
    refine ⟨row', hrow', hscope'.trans hscope, ?_⟩
    rcases hmove with rfl | hmove <;> omega
  · trivial

/-! ## One call among others -/

structure TransitionsInv (cases₀ : CaseRows) (db : Database)
    (log : List (Executed TransitionCall)) : Prop where
  linear : Linear commitOf serveTransition Database.cases cases₀ db log
  evidence : ∀ e ∈ log, Witnessed db.cases e

variable {cases₀ : CaseRows} {db : Database} {log : List (Executed TransitionCall)}

theorem TransitionsInv.extend (h : TransitionsInv cases₀ db log) {i : Nat}
    {call : TransitionCall} {a : Statement} {ω : Surroundings}
    (hlinear : Linear commitOf serveTransition Database.cases cases₀ (exec ω a db).2
      (log ++ [executed i call a ω db]))
    (hnew : Witnessed (exec ω a db).2.cases (executed i call a ω db)) :
    TransitionsInv cases₀ (exec ω a db).2 (log ++ [executed i call a ω db]) := by
  refine ⟨hlinear, fun e he => ?_⟩
  rcases List.mem_append.1 he with he | he
  · exact (h.evidence e he).exec ω a
  · rw [List.mem_singleton] at he
    subst he
    exact hnew

/-- What is known of a call before the statement it takes effect at, and after it. -/
def Unserved (i : Nat) (log : List (Executed TransitionCall)) : Prop :=
  history commitOf (own i log) = []

def Returns (i : Nat) (call : TransitionCall) (outcome : TransitionOutcome) (_ : Database)
    (log : List (Executed TransitionCall)) : Prop :=
  ∃ ω, (⟨i, call, ω, outcome⟩ : Served TransitionCall Surroundings TransitionOutcome) ∈
    history commitOf (own i log)

theorem returns_of_commit (log : List (Executed TransitionCall)) {i : Nat}
    {call : TransitionCall} {a : Statement} {ω : Surroundings} {outcome : TransitionOutcome}
    (h : commitOf (executed i call a ω db) = some outcome) :
    Returns i call outcome (exec ω a db).2 (log ++ [executed i call a ω db]) := by
  refine ⟨ω, mem_history_own.2 ⟨mem_history.2 ⟨executed i call a ω db, ?_, rfl, rfl, rfl, h⟩,
    rfl⟩⟩
  exact List.mem_append_right _ (List.mem_singleton_self _)

/-- The read after a missed update. -/
theorem keeps_reportConflict {i : Nat} {call : TransitionCall} {toState fromState : CaseState}
    (hfree : Unserved i log)
    (hmissed : ∃ e ∈ log, ∃ j call' ω, e = ⟨j, call', .updateCase call.scope call.input.caseId
      toState fromState call.input.expectedVersion, none, ω⟩) :
    Keeps exec {} (TransitionsInv cases₀) i call (Returns i call)
      (reportConflict call.scope call.input) db log := by
  intro s log' ω hothers hinv _
  obtain ⟨e, he, j, call', ω', rfl⟩ := hmissed
  obtain ⟨row, hrow, hscope, hlt⟩ := hinv.evidence _ (hothers.mem he)
  have hcase : s.caseOf call.scope call.input.caseId = some row :=
    Database.caseOf_eq_some.2 ⟨hrow, hscope⟩
  have hcommit : commitOf (executed i call
      (.selectCaseVersion call.scope call.input.caseId) ω s) =
        some (.error (.versionConflict row.caseVersion)) := by
    simp [executed, commitOf, exec, hcase]
  have hrefuse : refusal call.input row.state row.caseVersion =
      some (.versionConflict row.caseVersion) := by
    have hne : row.caseVersion ≠ call.input.expectedVersion := by omega
    simp [refusal, hne]
  have hfresh : history commitOf (own i log') = [] := by
    rw [hothers.own_eq]
    exact hfree
  refine ⟨hinv.extend (hinv.linear.at_commit hcommit ?_ hfresh) trivial, ?_⟩
  · show serveTransition call ω s.cases = _
    rw [serveTransition_found hcase, hrefuse]
    rfl
  · have hlatest : (exec ω (.selectCaseVersion call.scope call.input.caseId) s).1 =
        some row.caseVersion := by
      simp [exec, hcase]
    have hpost := returns_of_commit log' hcommit
    rw [executed, hlatest] at hpost
    rw [hlatest]
    exact hpost

/-- The guarded update of a call whose checks have passed. -/
theorem keeps_guardedWrite {i : Nat} {call : TransitionCall} {fromState : CaseState}
    (hfree : Unserved i log) (hpass : refusal call.input fromState call.input.expectedVersion = none)
    (hread : ∃ e ∈ log, ∃ j call' ω, e = ⟨j, call', .selectCase call.scope call.input.caseId,
      some (fromState, call.input.expectedVersion), ω⟩) :
    Keeps exec {} (TransitionsInv cases₀) i call (Returns i call)
      (guardedWrite call.scope call.input fromState) db log := by
  intro s log' ω hothers hinv _
  obtain ⟨e, he, j, call', ω', rfl⟩ := hread
  obtain ⟨row, hrow, hscope, hle, hsame⟩ := hinv.evidence _ (hothers.mem he)
  have hcase : s.caseOf call.scope call.input.caseId = some row :=
    Database.caseOf_eq_some.2 ⟨hrow, hscope⟩
  have hfresh : history commitOf (own i log') = [] := by
    rw [hothers.own_eq]
    exact hfree
  by_cases hversion : row.caseVersion = call.input.expectedVersion
  · -- the row is as it was read: the update applies
    have hstate : row.state = fromState := hsame hversion
    have hafter : (exec ω (.updateCase call.scope call.input.caseId call.input.toState
        fromState call.input.expectedVersion) s).1 = some (call.input.expectedVersion + 1) :=
      exec_updateCase_eq_some.2 ⟨row, hrow, hscope, hstate, hversion, rfl⟩
    have hcommit : commitOf (executed i call (.updateCase call.scope call.input.caseId
        call.input.toState fromState call.input.expectedVersion) ω s) =
          some (.ok ⟨call.input.caseId, fromState, call.input.toState,
            call.input.expectedVersion + 1⟩) := by
      simp only [executed, commitOf, hafter]
    refine ⟨hinv.extend (hinv.linear.at_commit hcommit ?_ hfresh) ?_, ?_⟩
    · show serveTransition call ω s.cases = _
      rw [serveTransition_found hcase, hstate, hversion, hpass]
      simp [exec, hcase, hstate, hversion]
    · simp only [executed, hafter, Witnessed]
    · have hpost := returns_of_commit log' hcommit
      rw [executed, hafter] at hpost
      rw [hafter]
      exact hpost
  · -- it has gone on: the update misses
    have hlt : call.input.expectedVersion < row.caseVersion := by omega
    have hmiss : (exec ω (.updateCase call.scope call.input.caseId call.input.toState
        fromState call.input.expectedVersion) s) = (none, s) := by
      simp [exec, hcase, hversion]
    have hcommit : commitOf (executed i call (.updateCase call.scope call.input.caseId
        call.input.toState fromState call.input.expectedVersion) ω s) = none := by
      simp only [executed, commitOf, hmiss]
    refine ⟨hinv.extend (hinv.linear.skip hcommit (by rw [hmiss])) ?_, ?_⟩
    · simp only [executed, hmiss, Witnessed]
      exact ⟨row, hrow, hscope, hlt⟩
    · rw [hmiss]
      refine keeps_reportConflict ?_
        ⟨_, List.mem_append_right _ (List.mem_singleton_self _), i, call, ω, rfl⟩
      simp only [Unserved, own_append, history_append, hfresh, own_singleton_self]
      simp [history, served, commitOf]

/-- **One call keeps the log linear, whatever the others do.** -/
theorem keeps_transition {i : Nat} (call : TransitionCall) (hown : own i log = []) :
    Keeps exec {} (TransitionsInv cases₀) i call (Returns i call)
      (transition call.scope call.input) db log := by
  intro s log' ω hothers hinv _
  have hfresh : history commitOf (own i log') = [] := by
    rw [hothers.own_eq, hown]
    rfl
  have hstay : (exec ω (.selectCase call.scope call.input.caseId) s).2 = s := rfl
  cases hcase : s.caseOf call.scope call.input.caseId with
  | none =>
      have hanswer : (exec ω (.selectCase call.scope call.input.caseId) s).1 = none := by
        simp [exec, hcase]
      have hcommit : commitOf (executed i call (.selectCase call.scope call.input.caseId) ω s) =
          some (.error .notFound) := by
        simp only [executed, commitOf, hanswer]
      refine ⟨hinv.extend (hinv.linear.at_commit hcommit ?_ hfresh) ?_, ?_⟩
      · exact serveTransition_notFound hcase
      · simp only [executed, hanswer, Witnessed]
      · have hpost := returns_of_commit log' hcommit
        rw [executed, hanswer] at hpost
        rw [hanswer]
        exact hpost
  | some row =>
      obtain ⟨hrow, hscope⟩ := Database.caseOf_eq_some.1 hcase
      have hanswer : (exec ω (.selectCase call.scope call.input.caseId) s).1 =
          some (row.state, row.caseVersion) := by
        simp [exec, hcase]
      have hnew : Witnessed s.cases
          (executed i call (.selectCase call.scope call.input.caseId) ω s) := by
        simp only [executed, hanswer, Witnessed]
        exact ⟨row, hrow, hscope, le_refl _, fun _ => rfl⟩
      cases href : refusal call.input row.state row.caseVersion with
      | some failure =>
          have hcommit : commitOf (executed i call
              (.selectCase call.scope call.input.caseId) ω s) = some (.error failure) := by
            simp only [executed, commitOf, hanswer, href, Option.map_some]
          refine ⟨hinv.extend (hinv.linear.at_commit hcommit ?_ hfresh) hnew, ?_⟩
          · show serveTransition call ω s.cases = _
            rw [serveTransition_found hcase, href]
            rfl
          · have hpost := returns_of_commit log' hcommit
            rw [executed, hanswer] at hpost
            rw [hanswer]
            simp only [Prog.bind_ret, href]
            exact hpost
      | none =>
          have hcommit : commitOf (executed i call
              (.selectCase call.scope call.input.caseId) ω s) = none := by
            simp only [executed, commitOf, hanswer, href, Option.map_none]
          have hversion : row.caseVersion = call.input.expectedVersion :=
            (refusal_eq_none_iff.1 href).1
          refine ⟨hinv.extend (hinv.linear.skip hcommit rfl) hnew, ?_⟩
          rw [hanswer]
          simp only [Prog.bind_ret, href]
          refine keeps_guardedWrite ?_ (hversion ▸ href)
            ⟨_, List.mem_append_right _ (List.mem_singleton_self _), i, call, ω, ?_⟩
          · simp only [Unserved, own_append, history_append, hfresh, own_singleton_self]
            simp [history, served, commitOf, href]
          · rw [hversion]

/-- Every call to `transition`, seen from inside. -/
def transitionOutline (db : Database) :
    Outline transitionSystem ({} : Rules Database Surroundings Statement Statement.Answer
      TransitionCall) db where
  inv := TransitionsInv db.cases
  post := Returns
  init := ⟨linear_nil db, by simp⟩
  start := fun _ _ _ call _ _ hown => keeps_transition call hown

/-! ## Sequential runs of `applyTransition` -/

/-- A call that is granted names the version of its case and takes it to the next, by a
step the table permits. -/
theorem serveTransition_granted {call : TransitionCall} {ω : Surroundings} {cases : CaseRows}
    {result : CaseTransitionResult} (h : (serveTransition call ω cases).1 = .ok result) :
    ∃ row, cases call.input.caseId = some row ∧
      row.caseVersion = call.input.expectedVersion ∧
      Permitted row.state call.input.toState call.input.actor call.input.outcomeRecorded ∧
      result = ⟨call.input.caseId, row.state, call.input.toState, row.caseVersion + 1⟩ ∧
      (serveTransition call ω cases).2 =
        Function.update cases call.input.caseId (some (row.moved call.input.toState ω.now)) := by
  cases hcase : (⟨cases, [], [], []⟩ : Database).caseOf call.scope call.input.caseId with
  | none =>
      have hserve := serveTransition_notFound (ω := ω) hcase
      dsimp only at hserve
      rw [hserve] at h
      cases h
  | some row =>
      have hserve := serveTransition_found (ω := ω) hcase
      dsimp only at hserve
      rw [hserve] at h ⊢
      cases href : refusal call.input row.state row.caseVersion with
      | some failure =>
          rw [href] at h
          cases h
      | none =>
          rw [href] at h
          cases h
          obtain ⟨hversion, hpermitted⟩ := refusal_eq_none_iff.1 href
          exact ⟨row, (Database.caseOf_eq_some.1 hcase).1, hversion, hpermitted, rfl, rfl⟩

/-- A call that is refused leaves every row as it is. -/
theorem serveTransition_refused {call : TransitionCall} {ω : Surroundings} {cases : CaseRows}
    {failure : TransitionFailure} (h : (serveTransition call ω cases).1 = .error failure) :
    (serveTransition call ω cases).2 = cases := by
  unfold serveTransition at h ⊢
  split
  · rfl
  · rename_i row hrow
    rw [hrow] at h
    dsimp only at h
    split
    · rfl
    · rename_i next happly
      rw [happly] at h
      cases h

abbrev ServedTransition := Served TransitionCall Surroundings TransitionOutcome

/-- The version a granted call used up. -/
def consumed (r : ServedTransition) : Option (CaseId × Int) :=
  match r.outcome with
  | .ok _ => some (r.label.input.caseId, r.label.input.expectedVersion)
  | .error _ => none

/-- In a sequential run no version is used up twice: used versions lie below the current. -/
theorem sequentialRun_consumed {cases₀ cases : CaseRows}
    {served : List ServedTransition}
    (h : SequentialRun serveTransition cases₀ served cases) :
    (served.filterMap consumed).Nodup ∧ ∀ p ∈ served.filterMap consumed,
      ∃ row, cases p.1 = some row ∧ p.2 < row.caseVersion := by
  induction h with
  | nil => simp
  | @snoc served cases i call ω hrun ih =>
      obtain ⟨hnodup, hbelow⟩ := ih
      cases hout : (serveTransition call ω cases).1 with
      | error failure =>
          have hsplit : List.filterMap consumed
              (served ++ [⟨i, call, ω, .error failure⟩]) = List.filterMap consumed served := by
            simp [consumed]
          rw [hsplit, serveTransition_refused hout]
          exact ⟨hnodup, hbelow⟩
      | ok result =>
          obtain ⟨row, hrow, hversion, -, -, hcases⟩ := serveTransition_granted hout
          have hsplit : List.filterMap consumed
              (served ++ [⟨i, call, ω, .ok result⟩]) = List.filterMap consumed served ++
                [(call.input.caseId, call.input.expectedVersion)] := by
            simp [consumed]
          rw [hsplit, hcases]
          refine ⟨List.nodup_append.2 ⟨hnodup, by simp, ?_⟩, ?_⟩
          · rintro p hp q hq rfl
            rw [List.mem_singleton] at hq
            subst hq
            obtain ⟨row', hrow', hlt⟩ := hbelow _ hp
            rw [hrow] at hrow'
            cases hrow'
            omega
          · intro p hp
            by_cases hid : p.1 = call.input.caseId
            · refine ⟨row.moved call.input.toState ω.now, by rw [hid, Function.update_self], ?_⟩
              show p.2 < row.caseVersion + 1
              rcases List.mem_append.1 hp with hp | hp
              · obtain ⟨row', hrow', hlt⟩ := hbelow p hp
                rw [hid, hrow] at hrow'
                cases hrow'
                omega
              · rw [List.mem_singleton] at hp
                subst hp
                omega
            · rw [Function.update_of_ne hid]
              rcases List.mem_append.1 hp with hp | hp
              · exact hbelow p hp
              · rw [List.mem_singleton] at hp
                subst hp
                exact absurd rfl hid

/-- In a sequential run every granted call is a step of the table. -/
theorem sequentialRun_granted {cases₀ cases : CaseRows}
    {served : List ServedTransition}
    (h : SequentialRun serveTransition cases₀ served cases) :
    ∀ r ∈ served, ∀ result, r.outcome = .ok result →
      Permitted result.previousState result.nextState r.label.input.actor
          r.label.input.outcomeRecorded ∧
        result.caseId = r.label.input.caseId ∧ result.nextState = r.label.input.toState ∧
        result.caseVersion = r.label.input.expectedVersion + 1 := by
  induction h with
  | nil => simp
  | snoc i call ω hrun ih =>
      intro r hr result hout
      rcases List.mem_append.1 hr with hr | hr
      · exact ih r hr result hout
      · rw [List.mem_singleton] at hr
        subst hr
        obtain ⟨row, -, hversion, hpermitted, rfl, -⟩ := serveTransition_granted hout
        exact ⟨hpermitted, rfl, rfl, by rw [hversion]⟩

/-! ## The property -/

/-- A statement that changes a case row settles success for its call. -/
theorem commitOf_of_cases_ne (i : Nat) (call : TransitionCall) {a : Statement}
    {ω : Surroundings} {db : Database} (h : (exec ω a db).2.cases ≠ db.cases) :
    ∃ result, commitOf (executed i call a ω db) = some (.ok result) := by
  cases happ : applied (executed i call a ω db) with
  | none => exact absurd (exec_of_not_applied happ) h
  | some t =>
      cases a with
      | updateCase scope caseId toState fromState v =>
          simp only [executed, applied] at happ
          cases hv : (exec ω (.updateCase scope caseId toState fromState v) db).1 with
          | none =>
              rw [hv] at happ
              cases happ
          | some after =>
              refine ⟨⟨caseId, fromState, toState, after⟩, ?_⟩
              simp only [executed, commitOf, hv]
      | _ => cases happ

/-- The log of any run is a sequential run. -/
theorem linearizable_of_reachable (db : Database)
    {c : Config Database Surroundings Statement Statement.Answer TransitionCall
      TransitionOutcome}
    (h : transitionSystem.Reachable (fun _ _ => True) (Config.init db) c) :
    Linearizable transitionSystem commitOf serveTransition Database.cases db c := by
  refine linearizable_of_outline (transitionOutline db) ?_ ?_ h
  · intro s log hinv
    exact hinv.linear
  · intro i call outcome s log hpost
    exact hpost

/-- **Case transitions are linearizable.**  The outcomes of all calls are those of
`applyTransition` made one call at a time; no version is used up twice; every applied
transition is one the table permits for its actor and outcome flag and raises the version
by one; and no step of a call that returns a failure changes a case row. -/
theorem transitions_linearizable (db : Database)
    {c : Config Database Surroundings Statement Statement.Answer TransitionCall
      TransitionOutcome}
    (h : transitionSystem.Reachable (fun _ _ => True) (Config.init db) c) :
    Linearizable transitionSystem commitOf serveTransition Database.cases db c ∧
    ((history commitOf c.log).filterMap consumed).Nodup ∧
    (∀ r ∈ history commitOf c.log, ∀ result, r.outcome = .ok result →
      Permitted result.previousState result.nextState r.label.input.actor
          r.label.input.outcomeRecorded ∧
        result.caseId = r.label.input.caseId ∧ result.nextState = r.label.input.toState ∧
        result.caseVersion = r.label.input.expectedVersion + 1) ∧
    (∀ c₁ c₂ i ω, transitionSystem.step c₁ (.run i ω) = some c₂ →
      transitionSystem.Reachable (fun _ _ => True) c₂ c → c₂.state.cases ≠ c₁.state.cases →
        ∀ call failure, c.returned i ≠ some (call, .error failure)) := by
  have hlinear := linearizable_of_reachable db h
  refine ⟨hlinear, (sequentialRun_consumed hlinear.run).1, sequentialRun_granted hlinear.run, ?_⟩
  intro c₁ c₂ i ω hstep hfrom hne call failure hret
  rcases System.step_cases hstep with ⟨ℓ, hm, -⟩ | ⟨j, ω', ℓ, a, k, hm, -, rfl⟩ | ⟨j, ℓ, p, hm, -⟩
  · cases hm
  · cases hm
    obtain ⟨result, hcommit⟩ := commitOf_of_cases_ne i ℓ hne
    have hmem : executed i ℓ a ω c₁.state ∈ c.log :=
      hfrom.log_prefix.subset (List.mem_append_right _ (List.mem_singleton_self _))
    have hserved : (⟨i, ℓ, ω, .ok result⟩ : Served _ _ _) ∈ history commitOf c.log :=
      mem_history.2 ⟨_, hmem, rfl, rfl, rfl, hcommit⟩
    have heq := hlinear.outcome_eq hserved hret
    cases heq
  · cases hm

/-! ## Two racing callers -/

def raceCall : TransitionCall where
  scope := ⟨"merchant-1"⟩
  input := { caseId := "case-1", toState := .escalated, actor := .operator, expectedVersion := 1 }

/-- Both callers read before either writes. -/
def raceMoves : List (Move TransitionCall Surroundings) :=
  [.call raceCall, .call raceCall, .run 0 quietSurroundings, .run 1 quietSurroundings,
    .run 0 quietSurroundings, .run 1 quietSurroundings, .run 1 quietSurroundings]

/-- The race of the integration test: one caller succeeds, the other learns the version. -/
theorem transitions_linearizable_race :
    ∃ c, transitionSystem.Reachable (fun _ _ => True) (Config.init sampleDatabase) c ∧
      c.returned 0 = some (raceCall, .ok ⟨"case-1", .exception, .escalated, 2⟩) ∧
      c.returned 1 = some (raceCall, .error (.versionConflict 2)) ∧
      ((history commitOf c.log).filterMap consumed).Nodup := by
  obtain ⟨c, hc, h₀, h₁⟩ : ∃ c, transitionSystem.replay (fun _ _ => True)
      (Config.init sampleDatabase) raceMoves = some c ∧
      c.returned 0 = some (raceCall, .ok ⟨"case-1", .exception, .escalated, 2⟩) ∧
      c.returned 1 = some (raceCall, .error (.versionConflict 2)) :=
    ⟨_, rfl, rfl, rfl⟩
  have hreach := System.reachable_of_replay raceMoves hc
  exact ⟨c, hreach, h₀, h₁, (transitions_linearizable sampleDatabase hreach).2.1⟩

end SettlementOps
