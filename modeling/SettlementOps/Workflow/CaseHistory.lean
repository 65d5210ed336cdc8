import SettlementOps.Workflow.Database

/-!
# The history of a case

The transitions applied to a case lead, one after the other, from the state and version it
had to the ones it has, whatever program sent them.

* `Follows` — transitions that lead from one state and version to another.
* `appliedTo`, `CaseHistory` — the transitions a log applied to a case, and that they lead
  to its row, with `CaseHistory.exec`: any statement extends the history.
-/

namespace SettlementOps

open Interleave

variable {L : Type}

/-- A state and the version it was reached at. -/
structure CasePoint where
  state : CaseState
  caseVersion : Int
  deriving DecidableEq, Repr

def ReconciliationCase.point (row : ReconciliationCase) : CasePoint :=
  ⟨row.state, row.caseVersion⟩

def AppliedTransition.target (t : AppliedTransition) : CasePoint := ⟨t.toState, t.caseVersion⟩

/-- Each transition leaves the state the one before it reached, at the next version. -/
def Follows : CasePoint → List AppliedTransition → CasePoint → Prop
  | start, [], final => start = final
  | start, t :: ts, final =>
      t.fromState = start.state ∧ t.caseVersion = start.caseVersion + 1 ∧
        Follows t.target ts final

theorem Follows.snoc {ts : List AppliedTransition} {t : AppliedTransition} :
    ∀ {start mid : CasePoint}, Follows start ts mid → t.fromState = mid.state →
      t.caseVersion = mid.caseVersion + 1 → Follows start (ts ++ [t]) t.target := by
  induction ts with
  | nil =>
      intro start mid h hstate hversion
      cases h
      exact ⟨hstate, hversion, rfl⟩
  | cons t' ts ih =>
      intro start mid h hstate hversion
      obtain ⟨hfrom, hv, hrest⟩ := h
      exact ⟨hfrom, hv, ih hrest hstate hversion⟩

/-- Versions only rise. -/
theorem Follows.le {ts : List AppliedTransition} :
    ∀ {start final : CasePoint}, Follows start ts final →
      start.caseVersion ≤ final.caseVersion := by
  induction ts with
  | nil =>
      intro start final h
      cases h
      exact le_refl _
  | cons t ts ih =>
      intro start final h
      obtain ⟨-, hv, hrest⟩ := h
      have hle := ih hrest
      simp only [AppliedTransition.target] at hle
      omega

/-- Every transition is at a version after the start. -/
theorem Follows.start_lt {ts : List AppliedTransition} :
    ∀ {start final : CasePoint}, Follows start ts final →
      ∀ t ∈ ts, start.caseVersion < t.caseVersion := by
  induction ts with
  | nil => simp
  | cons t' ts ih =>
      intro start final h t ht
      obtain ⟨-, hv, hrest⟩ := h
      rcases List.mem_cons.1 ht with rfl | ht
      · omega
      · have hlt := ih hrest t ht
        simp only [AppliedTransition.target] at hlt
        omega

/-- No two transitions reach the same version. -/
theorem Follows.sorted {ts : List AppliedTransition} :
    ∀ {start final : CasePoint}, Follows start ts final →
      ts.Pairwise (fun a b => a.caseVersion < b.caseVersion) := by
  induction ts with
  | nil => simp
  | cons t ts ih =>
      intro start final h
      obtain ⟨-, hv, hrest⟩ := h
      exact List.pairwise_cons.2 ⟨fun t' ht' => hrest.start_lt t' ht', ih hrest⟩

theorem Follows.eq_of_caseVersion {ts : List AppliedTransition} {start final : CasePoint}
    (h : Follows start ts final) {a b : AppliedTransition} (ha : a ∈ ts) (hb : b ∈ ts)
    (hv : a.caseVersion = b.caseVersion) : a = b := by
  have hnodup : (ts.map (·.caseVersion)).Nodup :=
    (List.pairwise_map.2 h.sorted).imp fun hlt => ne_of_lt hlt
  exact List.inj_on_of_nodup_map hnodup ha hb hv

/-- A path splits where its transitions do. -/
theorem Follows.split {ts ts' : List AppliedTransition} :
    ∀ {start final : CasePoint}, Follows start (ts ++ ts') final →
      ∃ mid, Follows start ts mid ∧ Follows mid ts' final := by
  induction ts with
  | nil =>
      intro start final h
      exact ⟨start, rfl, h⟩
  | cons t ts ih =>
      intro start final h
      obtain ⟨hfrom, hv, hrest⟩ := h
      obtain ⟨mid, hleft, hright⟩ := ih hrest
      exact ⟨mid, ⟨hfrom, hv, hleft⟩, hright⟩

/-- One path after another. -/
theorem Follows.append {ts ts' : List AppliedTransition} :
    ∀ {start mid final : CasePoint}, Follows start ts mid → Follows mid ts' final →
      Follows start (ts ++ ts') final := by
  induction ts with
  | nil =>
      intro start mid final h h'
      cases h
      exact h'
  | cons t ts ih =>
      intro start mid final h h'
      obtain ⟨hfrom, hv, hrest⟩ := h
      exact ⟨hfrom, hv, ih hrest h'⟩

/-- A transition that reached the final version was the last. -/
theorem Follows.last {ts : List AppliedTransition} {t : AppliedTransition}
    {start final : CasePoint} (h : Follows start (t :: ts) final)
    (hv : t.caseVersion = final.caseVersion) : ts = [] := by
  obtain ⟨-, -, hrest⟩ := h
  cases ts with
  | nil => rfl
  | cons t' ts =>
      obtain ⟨-, hv', hrest'⟩ := hrest
      have hle := hrest'.le
      simp only [AppliedTransition.target] at hle hv'
      omega

/-! ## The transitions of a log -/

/-- The transition an executed statement applied to one case. -/
def appliedTo (caseId : CaseId) (e : Executed L) : Option AppliedTransition :=
  (applied e).filter (fun t => t.caseId = caseId)

theorem appliedTo_eq_some {caseId : CaseId} {e : Executed L} {t : AppliedTransition} :
    appliedTo caseId e = some t ↔ applied e = some t ∧ t.caseId = caseId := by
  simp [appliedTo, Option.filter_eq_some_iff]

theorem appliedTo_of_applied_none {caseId : CaseId} {e : Executed L} (h : applied e = none) :
    appliedTo caseId e = none := by
  simp [appliedTo, h]

/-- The row of the case is where the log's transitions lead from its start. -/
def CaseHistory (caseId : CaseId) (start : CasePoint) (db : Database)
    (log : List (Executed L)) : Prop :=
  ∃ row, db.cases caseId = some row ∧
    Follows start (log.filterMap (appliedTo caseId)) row.point

/-- A statement that does not move the case leaves its row. -/
theorem cases_of_appliedTo_none {caseId : CaseId} {db : Database} {i : Nat} {ℓ : L}
    {a : Statement} {ω : Surroundings} (h : appliedTo caseId (executed i ℓ a ω db) = none) :
    (exec ω a db).2.cases caseId = db.cases caseId := by
  cases happ : applied (executed i ℓ a ω db) with
  | none => rw [exec_of_not_applied happ]
  | some t =>
      obtain ⟨_, -, -, -, hcases⟩ := exec_of_applied happ
      have hne : caseId ≠ t.caseId := by
        rintro rfl
        rw [appliedTo_eq_some.2 ⟨happ, rfl⟩] at h
        cases h
      rw [hcases, Function.update_of_ne hne]

/-- A statement that moves the case takes its row where the transition says. -/
theorem cases_of_appliedTo {caseId : CaseId} {db : Database} {row : ReconciliationCase}
    (hrow : db.cases caseId = some row) {i : Nat} {ℓ : L} {a : Statement} {ω : Surroundings}
    {t : AppliedTransition} (h : appliedTo caseId (executed i ℓ a ω db) = some t) :
    row.state = t.fromState ∧ row.caseVersion + 1 = t.caseVersion ∧
      ∃ row', (exec ω a db).2.cases caseId = some row' ∧ row'.point = t.target := by
  obtain ⟨happ, rfl⟩ := appliedTo_eq_some.1 h
  obtain ⟨row', hrow', hstate, hversion, hcases⟩ := exec_of_applied happ
  rw [hrow] at hrow'
  cases hrow'
  refine ⟨hstate, hversion, row.moved t.toState ω.now, by rw [hcases, Function.update_self], ?_⟩
  simp [ReconciliationCase.point, ReconciliationCase.moved, AppliedTransition.target, hversion]

/-- **Any statement extends the history.** -/
theorem CaseHistory.exec {caseId : CaseId} {start : CasePoint} {db : Database}
    {log : List (Executed L)} (h : CaseHistory caseId start db log) (i : Nat) (ℓ : L)
    (a : Statement) (ω : Surroundings) :
    CaseHistory caseId start (exec ω a db).2 (log ++ [executed i ℓ a ω db]) := by
  obtain ⟨row, hrow, hfollows⟩ := h
  cases hto : appliedTo caseId (executed i ℓ a ω db) with
  | none => exact ⟨row, by rw [cases_of_appliedTo_none hto, hrow], by simpa [hto] using hfollows⟩
  | some t =>
      obtain ⟨hstate, hversion, row', hrow', hpoint⟩ := cases_of_appliedTo hrow hto
      refine ⟨row', hrow', ?_⟩
      rw [List.filterMap_append, hpoint]
      simp only [List.filterMap_cons, hto, List.filterMap_nil]
      exact hfollows.snoc hstate.symm hversion.symm

end SettlementOps
