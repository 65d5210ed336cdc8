import SettlementOps.Workflow.Approval
import SettlementOps.Workflow.Statements

/-!
# A case that requests evidence has one open request

The transition and the request row are two statements, and nothing ever closes a request.  So
a case in `REQUESTING_EVIDENCE` has exactly one open request, the one its last call asked for,
only as long as the case does not leave the state again and no call is lost between its
transition and its insert.

* `EvidenceAgrees` — the property of a database and a log.
* `requestRules` — the two conditions.
* `RequestStage` — the case has not been asked about, its request is still to be opened, or it
  is open.
* `evidence_agrees` — under the conditions the property holds whenever no call is under way.
* `reentered_disagrees` — a run in which the case leaves the state and comes back.
-/

namespace SettlementOps

open Interleave

variable {L : Type}

/-- The open evidence requests of a case. -/
def Database.openRequests (db : Database) (caseId : CaseId) : List EvidenceRow :=
  db.evidenceRequests.filter fun r => r.caseId = caseId ∧ r.status = .opened

def Database.stateOf (db : Database) (caseId : CaseId) : Option CaseState :=
  (db.cases caseId).map (·.state)

/-! ## What the log shows -/

/-- The statement moved the case into `REQUESTING_EVIDENCE`. -/
def asksFor (caseId : CaseId) (e : Executed L) : Bool :=
  (appliedTo caseId e).any fun t => t.toState == .requestingEvidence

/-- The request an executed statement opened. -/
def openedRequest : Executed L → Option EvidenceRequestRecord
  | ⟨_, _, .insertEvidenceRequest _ _, answer, _⟩ => answer
  | _ => none

def opensFor (caseId : CaseId) (e : Executed L) : Bool :=
  (openedRequest e).any fun record => record.caseId == caseId

/-- The time a statement read. -/
def clockReading : Executed L → Option Date
  | ⟨_, _, .now, now, _⟩ => some now
  | _ => none

/-- The statement that last moved the case into `REQUESTING_EVIDENCE`. -/
def lastAsked (caseId : CaseId) (log : List (Executed L)) : Option (Executed L) :=
  (log.filter (asksFor caseId)).getLast?

/-- The request carries the detail the call of a statement was given, and expires the days it
was given after the time that call read. -/
def Carries (caseId : CaseId) (log : List (Executed Operation)) (asked : Executed Operation)
    (r : EvidenceRow) : Prop :=
  ∃ ctx expectedVersion detail expiryDays now,
    asked.label = .requestEvidence ctx caseId expectedVersion detail expiryDays ∧
      Did asked.pid log clockReading now ∧ r.detail = detail ∧
      r.expiresAt = ⟨now.getTime + expiryDays * 86_400_000⟩

/-- The case is in `REQUESTING_EVIDENCE` exactly when it has one open request, and that is the
one asked for by the call that last moved it there. -/
structure EvidenceAgrees (caseId : CaseId) (db : Database) (log : List (Executed Operation)) :
    Prop where
  open_iff : db.stateOf caseId = some .requestingEvidence ↔ (db.openRequests caseId).length = 1
  carries : db.stateOf caseId = some .requestingEvidence → ∀ r ∈ db.openRequests caseId,
    ∃ asked, lastAsked caseId log = some asked ∧ Carries caseId log asked r

/-! ## The conditions -/

/-- The statement takes the case out of `REQUESTING_EVIDENCE`. -/
def leavesRequest (caseId : CaseId) (db : Database) : Statement → Bool
  | .updateCase scope id _ fromState expectedVersion =>
      id == caseId && fromState == .requestingEvidence && db.isAt scope id fromState expectedVersion
  | _ => false

/-- The call has moved the case into `REQUESTING_EVIDENCE` and opened no request yet. -/
def owesRequest (caseId : CaseId) (i : Nat) (log : List (Executed L)) : Bool :=
  (own i log).any (asksFor caseId) && !(own i log).any (opensFor caseId)

/-- The case does not leave `REQUESTING_EVIDENCE`, and no call is lost while it owes the
request. -/
def requestRules (caseId : CaseId) :
    Rules Database Surroundings Statement Statement.Answer Operation where
  run s _ _ _ a := leavesRequest caseId s a = false
  fail _ log i := owesRequest caseId i log = false

instance (caseId : CaseId) (s : Database) (log : List (Executed Operation)) (ℓ : Operation) :
    Decidable ((requestRules caseId).call s log ℓ) := .isTrue trivial

instance (caseId : CaseId) (s : Database) (log : List (Executed Operation)) (i : Nat)
    (ℓ : Operation) (a : Statement) : Decidable ((requestRules caseId).run s log i ℓ a) :=
  inferInstanceAs (Decidable (leavesRequest caseId s a = false))

instance (caseId : CaseId) (s : Database) (log : List (Executed Operation)) (i : Nat) :
    Decidable ((requestRules caseId).fail s log i) :=
  inferInstanceAs (Decidable (owesRequest caseId i log = false))

/-! ## What a statement does to the requests -/

section Statements

variable {caseId : CaseId} {db : Database} {i : Nat} {ℓ : L} {a : Statement} {ω : Surroundings}

theorem stateOf_of_appliedTo {t : AppliedTransition}
    (h : appliedTo caseId (executed i ℓ a ω db) = some t) :
    db.stateOf caseId = some t.fromState ∧ (exec ω a db).2.stateOf caseId = some t.toState := by
  obtain ⟨happ, rfl⟩ := appliedTo_eq_some.1 h
  obtain ⟨row, hrow, hstate, -, hcases⟩ := exec_of_applied happ
  constructor
  · rw [Database.stateOf, hrow, Option.map_some, hstate]
  · rw [Database.stateOf, hcases, Function.update_self]
    rfl

/-- An update that leaves the case where it is found is not one that leaves the state. -/
theorem fromState_ne {t : AppliedTransition}
    (h : appliedTo caseId (executed i ℓ a ω db) = some t)
    (hleaves : leavesRequest caseId db a = false) : t.fromState ≠ .requestingEvidence := by
  obtain ⟨happ, rfl⟩ := appliedTo_eq_some.1 h
  cases a with
  | updateCase scope id toState fromState expectedVersion =>
      cases hv : (exec ω (.updateCase scope id toState fromState expectedVersion) db).1 with
      | none => simp [executed, applied, hv] at happ
      | some v =>
          simp only [executed, applied, hv, Option.some.injEq] at happ
          subst happ
          obtain ⟨row, hcase, hscope, hstate, hversion, -⟩ := exec_updateCase_eq_some.1 hv
          have hat := Database.isAt_iff.2 ⟨row, hcase, hscope, hstate, hversion⟩
          rintro rfl
          simp [leavesRequest, hat] at hleaves
  | _ => cases happ

/-- An insert meets an open request of its case, or opens one. -/
theorem insertEvidenceRequest_cases (ω : Surroundings) (scope : MerchantScope)
    (input : EvidenceOpening) (db : Database) :
    (exec ω (.insertEvidenceRequest scope input) db = (none, db) ∧
      db.openRequests input.caseId ≠ []) ∨
    ∃ r : EvidenceRow,
      (exec ω (.insertEvidenceRequest scope input) db).1 = some r.toEvidenceRequestRecord ∧
      (exec ω (.insertEvidenceRequest scope input) db).2.evidenceRequests =
        db.evidenceRequests ++ [r] ∧ db.openRequests input.caseId = [] ∧
      r.caseId = input.caseId ∧ r.status = .opened ∧ r.detail = input.detail ∧
      r.expiresAt = input.expiresAt := by
  simp only [exec]
  split
  · rename_i hmet
    refine .inl ⟨rfl, ?_⟩
    obtain ⟨r, hr, hopen⟩ := List.any_eq_true.1 hmet
    exact List.ne_nil_of_mem (List.mem_filter.2 ⟨hr, hopen⟩)
  · rename_i hfree
    refine .inr ⟨⟨_, scope, input.requestedBy⟩, rfl, rfl, ?_, rfl, rfl, rfl, rfl⟩
    rw [Database.openRequests, List.filter_eq_nil_iff]
    exact List.any_eq_false.1 (Bool.not_eq_true _ ▸ hfree)

/-- Only an update asks for a request. -/
theorem update_of_asksFor (h : asksFor caseId (executed i ℓ a ω db) = true) :
    ∃ scope fromState v, a = .updateCase scope caseId .requestingEvidence fromState v := by
  obtain ⟨t, hto, htarget⟩ := (Option.any_eq_true _ _).1 h
  obtain ⟨happ, rfl⟩ := appliedTo_eq_some.1 hto
  cases a with
  | updateCase scope id toState fromState v =>
      cases hv : (exec ω (.updateCase scope id toState fromState v) db).1 with
      | none => simp [executed, applied, hv] at happ
      | some after =>
          simp only [executed, applied, hv, Option.some.injEq] at happ
          subst happ
          exact ⟨scope, fromState, v, by rw [← eq_of_beq htarget]⟩
  | _ => cases happ

/-- Only an insert opens one. -/
theorem insert_of_opensFor (h : opensFor caseId (executed i ℓ a ω db) = true) :
    ∃ scope input, a = .insertEvidenceRequest scope input ∧ input.caseId = caseId := by
  cases a with
  | insertEvidenceRequest scope input =>
      refine ⟨scope, input, rfl, ?_⟩
      rcases insertEvidenceRequest_cases ω scope input db with
        ⟨hmet, -⟩ | ⟨r, hanswer, -, -, hcase, -⟩
      · simp [opensFor, openedRequest, executed, hmet] at h
      · rw [← hcase]
        simpa [opensFor, openedRequest, executed, hanswer] using h
  | _ => cases h

/-- Whether the case requests evidence changes only by a statement that asks or leaves. -/
theorem stateOf_requesting (hleaves : leavesRequest caseId db a = false)
    (hasks : asksFor caseId (executed i ℓ a ω db) = false) :
    (exec ω a db).2.stateOf caseId = some .requestingEvidence ↔
      db.stateOf caseId = some .requestingEvidence := by
  cases hto : appliedTo caseId (executed i ℓ a ω db) with
  | none => rw [Database.stateOf, Database.stateOf, cases_of_appliedTo_none hto]
  | some t =>
      obtain ⟨hbefore, hafter⟩ := stateOf_of_appliedTo hto
      have hfrom := fromState_ne hto hleaves
      have htarget : t.toState ≠ .requestingEvidence := by
        simpa [asksFor, hto] using hasks
      simp [hbefore, hafter, hfrom, htarget]

/-- The open requests of the case change only by a statement that opens one. -/
theorem openRequests_of_not_opens (h : opensFor caseId (executed i ℓ a ω db) = false) :
    (exec ω a db).2.openRequests caseId = db.openRequests caseId := by
  cases a with
  | updateCase scope id toState fromState expectedVersion =>
      simp only [exec]
      split
      · rfl
      split <;> rfl
  | insertInvestigation scope input =>
      simp only [exec]
      split <;> rfl
  | insertEvidenceRequest scope input =>
      rcases insertEvidenceRequest_cases ω scope input db with
        ⟨hmet, -⟩ | ⟨r, hanswer, hrows, -⟩
      · rw [hmet]
      · have hne : r.caseId ≠ caseId := by
          simpa [opensFor, openedRequest, executed, hanswer] using h
        simp [Database.openRequests, hrows, hne]
  | _ => rfl

end Statements

/-! ## The stages of a case -/

/-- Where a case that never leaves `REQUESTING_EVIDENCE` is with its request. -/
inductive RequestStage (caseId : CaseId) (db : Database) (log : List (Executed Operation)) : Prop
  | unasked (hstate : db.stateOf caseId ≠ some .requestingEvidence)
      (hasked : log.filter (asksFor caseId) = []) (hopen : db.openRequests caseId = [])
  | owed (asked : Executed Operation) (hstate : db.stateOf caseId = some .requestingEvidence)
      (hasked : log.filter (asksFor caseId) = [asked]) (hopen : db.openRequests caseId = [])
      (hlabel : ∃ ctx expectedVersion detail expiryDays,
        asked.label = .requestEvidence ctx caseId expectedVersion detail expiryDays)
      (howes : owesRequest caseId asked.pid log = true)
  | opened (asked : Executed Operation) (r : EvidenceRow)
      (hstate : db.stateOf caseId = some .requestingEvidence)
      (hasked : log.filter (asksFor caseId) = [asked]) (hopen : db.openRequests caseId = [r])
      (hcarries : Carries caseId log asked r) (howes : owesRequest caseId asked.pid log = false)

section Stage

variable {caseId : CaseId} {db : Database} {log : List (Executed Operation)} {i j : Nat}
  {ℓ : Operation} {a : Statement} {ω : Surroundings}

theorem Carries.append {asked : Executed Operation} {r : EvidenceRow}
    (h : Carries caseId log asked r) (added : List (Executed Operation)) :
    Carries caseId (log ++ added) asked r := by
  obtain ⟨ctx, v, detail, expiryDays, now, hlabel, hnow, hdetail, hexpires⟩ := h
  exact ⟨ctx, v, detail, expiryDays, now, hlabel, hnow.append added, hdetail, hexpires⟩

/-- What a call owes changes only by a statement that asks or opens. -/
theorem owesRequest_append {e : Executed Operation} (hasks : asksFor caseId e = false)
    (hopens : opensFor caseId e = false) :
    owesRequest caseId j (log ++ [e]) = owesRequest caseId j log := by
  by_cases hpid : e.pid = j <;> simp [owesRequest, own, hpid, hasks, hopens]

theorem owesRequest_others {log' : List (Executed Operation)} (h : Others i log log') :
    owesRequest caseId i log' = owesRequest caseId i log := by
  rw [owesRequest, h.own_eq, owesRequest]

/-- A statement that neither asks, nor opens, nor leaves. -/
theorem RequestStage.stay (h : RequestStage caseId db log)
    (hleaves : leavesRequest caseId db a = false)
    (hasks : asksFor caseId (executed i ℓ a ω db) = false)
    (hopens : opensFor caseId (executed i ℓ a ω db) = false) :
    RequestStage caseId (exec ω a db).2 (log ++ [executed i ℓ a ω db]) := by
  have hstate := stateOf_requesting hleaves hasks
  have hrequests := openRequests_of_not_opens hopens
  have hlog : (log ++ [executed i ℓ a ω db]).filter (asksFor caseId) =
      log.filter (asksFor caseId) := by
    simp [hasks]
  cases h with
  | unasked hout hasked hopen =>
      exact .unasked (mt hstate.1 hout) (hlog.trans hasked) (hrequests.trans hopen)
  | owed asked hin hasked hopen hlabel howes =>
      exact .owed asked (hstate.2 hin) (hlog.trans hasked) (hrequests.trans hopen) hlabel
        ((owesRequest_append hasks hopens).trans howes)
  | opened asked r hin hasked hopen hcarries howes =>
      exact .opened asked r (hstate.2 hin) (hlog.trans hasked) (hrequests.trans hopen)
        (hcarries.append _) ((owesRequest_append hasks hopens).trans howes)

/-- A statement that asks finds the case not asked about yet. -/
theorem RequestStage.ask {ctx : RequestContext} {expectedVersion : Int} {detail : String}
    {expiryDays : Int} (h : RequestStage caseId db log)
    (hℓ : ℓ = .requestEvidence ctx caseId expectedVersion detail expiryDays)
    (hleaves : leavesRequest caseId db a = false)
    (hasks : asksFor caseId (executed i ℓ a ω db) = true)
    (hopens : opensFor caseId (executed i ℓ a ω db) = false)
    (hnone : (own i log).any (opensFor caseId) = false) :
    RequestStage caseId (exec ω a db).2 (log ++ [executed i ℓ a ω db]) := by
  obtain ⟨t, hto, htarget⟩ := (Option.any_eq_true _ _).1 hasks
  obtain ⟨hbefore, hafter⟩ := stateOf_of_appliedTo hto
  have hout : db.stateOf caseId ≠ some .requestingEvidence := by
    rw [hbefore]
    exact fun heq => fromState_ne hto hleaves (Option.some.inj heq)
  cases h with
  | unasked _ hasked hopen =>
      refine .owed (executed i ℓ a ω db) ?_ ?_ ?_ ⟨ctx, expectedVersion, detail, expiryDays, hℓ⟩ ?_
      · rw [hafter, eq_of_beq htarget]
      · simp [hasked, hasks]
      · rw [openRequests_of_not_opens hopens, hopen]
      · show owesRequest caseId i _ = true
        simp [owesRequest, hnone, hasks, hopens]
  | owed _ hin => exact absurd hin hout
  | opened _ _ hin => exact absurd hin hout

/-- The insert of the call that owes the request opens it. -/
theorem RequestStage.answer {ctx : RequestContext} {expectedVersion : Int} {detail : String}
    {expiryDays : Int} {now : Date} (h : RequestStage caseId db log)
    (hℓ : ℓ = .requestEvidence ctx caseId expectedVersion detail expiryDays)
    (hasked : ∃ e ∈ own i log, asksFor caseId e = true ∧ e.label = ℓ)
    (hnone : (own i log).any (opensFor caseId) = false) (hnow : Did i log clockReading now)
    {scope : MerchantScope} {input : EvidenceOpening} (hid : input.caseId = caseId)
    (hdetail : input.detail = detail)
    (hexpires : input.expiresAt = ⟨now.getTime + expiryDays * 86_400_000⟩) :
    RequestStage caseId (exec ω (.insertEvidenceRequest scope input) db).2
        (log ++ [executed i ℓ (.insertEvidenceRequest scope input) ω db]) ∧
      (own i (log ++ [executed i ℓ (.insertEvidenceRequest scope input) ω db])).any
        (opensFor caseId) = true := by
  obtain ⟨e, he, hasks, hlabel⟩ := hasked
  obtain ⟨hmem, hpid⟩ := List.mem_filter.1 he
  have hfiltered : e ∈ log.filter (asksFor caseId) := List.mem_filter.2 ⟨hmem, hasks⟩
  have hanyAsked : (own i log).any (asksFor caseId) = true := List.any_eq_true.2 ⟨e, he, hasks⟩
  cases h with
  | unasked _ hnever =>
      rw [hnever] at hfiltered
      cases hfiltered
  | opened asked r _ honce _ _ howes =>
      -- the only call that asked has opened its request already
      rw [honce, List.mem_singleton] at hfiltered
      subst hfiltered
      rw [owesRequest, eq_of_beq hpid, hanyAsked, hnone] at howes
      cases howes
  | owed asked hin honce hopen _ _ =>
      rw [honce, List.mem_singleton] at hfiltered
      subst hfiltered
      rcases insertEvidenceRequest_cases ω scope input db with
        ⟨-, hmet⟩ | ⟨r, hanswer, hrows, -, hcase, hstatus, hrdetail, hrexpires⟩
      · rw [hid] at hmet
        exact absurd hopen hmet
      have hopens : opensFor caseId (executed i ℓ (.insertEvidenceRequest scope input) ω db) =
          true := by
        simp [opensFor, openedRequest, executed, hanswer, hcase, hid]
      have hopened : (own i (log ++ [executed i ℓ (.insertEvidenceRequest scope input) ω db])).any
          (opensFor caseId) = true := by
        simp [hopens]
      refine ⟨.opened e r ?_ ?_ ?_ ?_ ?_, hopened⟩
      · exact (stateOf_requesting (i := i) (ℓ := ℓ) rfl rfl).2 hin
      · rw [List.filter_append, honce]
        rfl
      · rw [Database.openRequests] at hopen
        rw [Database.openRequests, hrows, List.filter_append, hopen]
        simp [hcase, hid, hstatus]
      · refine ⟨ctx, expectedVersion, detail, expiryDays, now, hlabel.trans hℓ, ?_, ?_, ?_⟩
        · rw [eq_of_beq hpid]
          exact hnow.append _
        · rw [hrdetail, hdetail]
        · rw [hrexpires, hexpires]
      · rw [owesRequest, eq_of_beq hpid, hopened, Bool.not_true, Bool.and_false]

end Stage

/-! ## The calls -/

section Calls

variable {caseId : CaseId} {db : Database} {log : List (Executed Operation)} {i : Nat}
  {ℓ : Operation} {a : Statement}

/-- A call that does not request evidence of the case does not ask for it. -/
theorem Issues.not_asks (h : Issues ℓ a)
    (hℓ : ∀ ctx expectedVersion detail expiryDays,
      ℓ ≠ .requestEvidence ctx caseId expectedVersion detail expiryDays) (ω : Surroundings) :
    asksFor caseId (executed i ℓ a ω db) = false := by
  rw [← Bool.not_eq_true]
  intro hasks
  obtain ⟨scope, fromState, v, rfl⟩ := update_of_asksFor hasks
  cases h with
  | plain h => cases h
  | move hto => exact hto rfl
  | ask => exact hℓ _ _ _ _ rfl

/-- Nor does it open a request. -/
theorem Issues.not_opens (h : Issues ℓ a)
    (hℓ : ∀ ctx expectedVersion detail expiryDays,
      ℓ ≠ .requestEvidence ctx caseId expectedVersion detail expiryDays) (ω : Surroundings) :
    opensFor caseId (executed i ℓ a ω db) = false := by
  rw [← Bool.not_eq_true]
  intro hopens
  obtain ⟨scope, input, rfl, rfl⟩ := insert_of_opensFor hopens
  cases h with
  | plain h => cases h
  | openRequest => exact hℓ _ _ _ _ rfl

/-- The call has done nothing about the request. -/
def Unasked (caseId : CaseId) (i : Nat) (log : List (Executed Operation)) : Prop :=
  (own i log).any (asksFor caseId) = false ∧ (own i log).any (opensFor caseId) = false

/-- The call has asked, and is to open the request. -/
def Asked (caseId : CaseId) (i : Nat) (ℓ : Operation) (log : List (Executed Operation)) : Prop :=
  (∃ e ∈ own i log, asksFor caseId e = true ∧ e.label = ℓ) ∧
    (own i log).any (opensFor caseId) = false

theorem Unasked.owes (h : Unasked caseId i log) : owesRequest caseId i log = false := by
  rw [owesRequest, h.1, Bool.false_and]

theorem Asked.append {e : Executed Operation} (h : Asked caseId i ℓ log)
    (hopens : opensFor caseId e = false) : Asked caseId i ℓ (log ++ [e]) := by
  obtain ⟨⟨e', he', hasks⟩, hnone⟩ := h
  refine ⟨⟨e', by rw [own_append]; exact List.mem_append_left _ he', hasks⟩, ?_⟩
  rw [own_append, List.any_append, hnone]
  by_cases hpid : e.pid = i <;> simp [own, hpid, hopens]

/-- Knowledge of a call that others do not change, nor do statements that neither ask nor
open. -/
structure Untouched (caseId : CaseId) (i : Nat) (K : List (Executed Operation) → Prop) :
    Prop where
  others : ∀ log log', Others i log log' → K log → K log'
  append : ∀ log e, asksFor caseId e = false → opensFor caseId e = false → K log → K (log ++ [e])

theorem untouched_unasked : Untouched caseId i (Unasked caseId i) where
  others log log' hothers h := by
    rw [Unasked, hothers.own_eq]
    exact h
  append log e hasks hopens h := by
    rw [Unasked, own_append, List.any_append, List.any_append, h.1, h.2]
    by_cases hpid : e.pid = i <;> simp [own, hpid, hasks, hopens]

theorem untouched_asked : Untouched caseId i (Asked caseId i ℓ) where
  others log log' hothers h := by
    rw [Asked, hothers.own_eq]
    exact h
  append _ _ _ hopens h := h.append hopens

theorem untouched_opened :
    Untouched caseId i (fun log => (own i log).any (opensFor caseId) = true) where
  others log log' hothers h := by
    rw [hothers.own_eq]
    exact h
  append log e _ _ h := by
    rw [own_append, List.any_append, h, Bool.true_or]

/-- A statement of a call that neither asks nor opens. -/
theorem Untouched.step {K : List (Executed Operation) → Prop} (hK : Untouched caseId i K)
    {ω : Surroundings} (hstage : RequestStage caseId db log) (h : K log)
    (hrun : (requestRules caseId).run db log i ℓ a)
    (hasks : asksFor caseId (executed i ℓ a ω db) = false)
    (hopens : opensFor caseId (executed i ℓ a ω db) = false) :
    RequestStage caseId (exec ω a db).2 (log ++ [executed i ℓ a ω db]) ∧
      K (log ++ [executed i ℓ a ω db]) :=
  ⟨hstage.stay hrun hasks hopens, hK.append _ _ hasks hopens h⟩

theorem Untouched.lasting {K : List (Executed Operation) → Prop} (hK : Untouched caseId i K) :
    Lasting (RequestStage caseId) i ℓ (requestRules caseId) K where
  others := hK.others
  idle s log a ω hstage h hrun hidle := by
    refine hK.step hstage h hrun ?_ ?_
    · rw [asksFor, appliedTo_of_applied_none (hidle.quiet i ℓ).applied, Option.any_none]
    · cases hidle <;> rfl

section Request

variable {ctx : RequestContext} {expectedVersion : Int} {detail : String} {expiryDays : Int}
  (hℓ : ℓ = .requestEvidence ctx caseId expectedVersion detail expiryDays)

include hℓ

/-- The transition asks for the request, or nothing is asked. -/
theorem keeps_ask (actor : TransitionActor) (h : Unasked caseId i log) :
    Keeps exec (requestRules caseId) (RequestStage caseId) i ℓ
      (fun out _ log => match out with
        | .ok r => r.caseId = caseId ∧ Asked caseId i ℓ log
        | .error _ => Unasked caseId i log)
      (transition (scopeOf ctx)
        { caseId, toState := .requestingEvidence, actor, expectedVersion }) db log := by
  refine keeps_transition_when (M := fun _ log => Asked caseId i ℓ log)
    untouched_unasked.lasting ?_ h
  intro fromState _ s log ω hstage h hrun hafter
  have hasks : asksFor caseId (executed i ℓ (.updateCase (scopeOf ctx) caseId
      .requestingEvidence fromState expectedVersion) ω s) = true := by
    simp [asksFor, appliedTo, executed, applied, hafter]
  refine ⟨hstage.ask hℓ hrun hasks rfl h.2, ⟨_, ?_, hasks, rfl⟩, ?_⟩
  · rw [own_append, own_executed]
    exact List.mem_append_right _ (List.mem_singleton_self _)
  · rw [own_append, own_executed, List.any_append, h.2]
    rfl

/-- The human move asks for the request and records that it did, or nothing is asked. -/
theorem keeps_askHuman (payload : JsonObject) (h : Unasked caseId i log) :
    Keeps exec (requestRules caseId) (RequestStage caseId) i ℓ
      (fun out _ log => (∀ r, out = .ok r → Asked caseId i ℓ log) ∧
        ((∀ r, out ≠ .ok r) → Unasked caseId i log))
      (applyHumanTransition ctx caseId .requestingEvidence expectedVersion "evidence_requested"
        payload) db log := by
  refine keeps_then (M := fun out _ log => (∀ r, out = .ok r → Asked caseId i ℓ log) ∧
    (∀ failure, out = .error failure → Unasked caseId i log)) ?_ ?_
  · refine keeps_then (keeps_ask hℓ _ h) ?_
    intro out s log hout
    cases out with
    | error failure => exact ⟨fun _ hr => (nomatch hr), fun _ _ => hout⟩
    | ok r =>
        refine keeps_then (M := fun _ _ log => Asked caseId i ℓ log) (keeps_perform ?_) ?_
        · intro s log' ω hothers hstage hrun
          exact untouched_asked.step hstage (untouched_asked.others _ _ hothers hout.2) hrun rfl
            rfl
        · intro _ s log h
          exact ⟨fun _ _ => h, fun _ hfailure => (nomatch hfailure)⟩
  · intro out s log hout
    cases out with
    | error failure => exact ⟨fun _ hr => (nomatch hr), fun _ => hout.2 failure rfl⟩
    | ok r => exact ⟨fun _ _ => hout.1 r rfl, fun hne => absurd rfl (hne r)⟩

/-- The call opens the request it asked for before it returns. -/
theorem keeps_requestEvidence (h : Unasked caseId i log) :
    Keeps exec (requestRules caseId) (RequestStage caseId) i ℓ
      (fun _ _ log => owesRequest caseId i log = false)
      (requestEvidence ctx caseId expectedVersion detail expiryDays) db log := by
  unfold requestEvidence
  split
  · exact h.owes
  refine keeps_then (keeps_askHuman hℓ _ h) ?_
  intro out s log hout
  cases out with
  | ok r =>
      refine keeps_then (M := fun now _ log =>
        Asked caseId i ℓ log ∧ Did i log clockReading now) (keeps_perform ?_) ?_
      · intro s log' ω hothers hstage hrun
        have hasked := untouched_asked.others _ _ hothers (hout.1 r rfl)
        obtain ⟨hstage', hasked'⟩ := untouched_asked.step hstage hasked hrun (ω := ω) rfl rfl
        exact ⟨hstage', hasked', did_last (f := clockReading) rfl log'⟩
      · rintro now s log ⟨hasked, hnow⟩
        refine keeps_then (M := fun _ _ log => (own i log).any (opensFor caseId) = true)
          (keeps_then (M := fun _ _ log => (own i log).any (opensFor caseId) = true)
            (keeps_perform ?_) ?_) ?_
        · intro s log' ω hothers hstage _
          obtain ⟨hask, hnone⟩ := untouched_asked.others _ _ hothers hasked
          exact hstage.answer hℓ hask hnone (hnow.mono fun _ he => hothers.mem he) rfl rfl rfl
        · intro answer s log hopened
          cases answer with
          | some row => exact hopened
          | none =>
              refine keeps_then (M := fun _ _ log => (own i log).any (opensFor caseId) = true)
                (keeps_perform ?_) ?_
              · intro s log' ω hothers hstage hrun
                exact untouched_opened.step hstage
                  (untouched_opened.others _ _ hothers hopened) hrun rfl rfl
              · intro found s log hopened
                cases found <;> exact hopened
        · intro opened s log hopened
          have hpaid : owesRequest caseId i log = false := by
            rw [owesRequest, hopened, Bool.not_true, Bool.and_false]
          cases opened <;> exact hpaid
  | _ => exact (hout.2 (by simp)).owes

end Request

end Calls

/-! ## The property -/

/-- From a database in which the case neither requests evidence nor has an open request. -/
def requestOutline (caseId : CaseId) (db₀ : Database)
    (hstate : db₀.stateOf caseId ≠ some .requestingEvidence)
    (hopen : db₀.openRequests caseId = []) :
    Outline caseSystem (requestRules caseId) db₀ where
  inv := RequestStage caseId
  post i ℓ _ _ log := ∀ ctx expectedVersion detail expiryDays,
    ℓ = .requestEvidence ctx caseId expectedVersion detail expiryDays →
      owesRequest caseId i log = false
  init := .unasked hstate rfl hopen
  start s log i ℓ hstage _ hown := by
    by_cases hℓ : ∃ ctx expectedVersion detail expiryDays,
        ℓ = .requestEvidence ctx caseId expectedVersion detail expiryDays
    · obtain ⟨ctx, v, detail, expiryDays, rfl⟩ := hℓ
      have hunasked : Unasked caseId i log := by
        rw [Unasked, hown]
        exact ⟨rfl, rfl⟩
      refine Keeps.mono ?_ _ (keeps_requestEvidence rfl hunasked)
      exact fun _ _ _ h _ _ _ _ _ => h
    · push Not at hℓ
      refine Keeps.mono ?_ _ (keeps_of_sends ℓ.program ?_)
      · exact fun _ _ _ _ ctx v detail expiryDays h => absurd h (hℓ ctx v detail expiryDays)
      · intro a ha s log ω hstage hrun
        have hissues := only_issues ℓ a ha
        exact hstage.stay hrun (hissues.not_asks hℓ ω) (hissues.not_opens hℓ ω)

/-- **The evidence request of a case.**  In every run in which the case does not leave
`REQUESTING_EVIDENCE`, and no call is lost between moving it there and opening the request,
whatever operations users call and however they interleave: once no call is under way the case
is in that state exactly when it has one open request, with the detail and the expiry given to
the call that last moved it there. -/
theorem evidence_agrees (caseId : CaseId) (db₀ : Database)
    (hstate : db₀.stateOf caseId ≠ some .requestingEvidence)
    (hopen : db₀.openRequests caseId = [])
    {c : Config Database Surroundings Statement Statement.Answer Operation OperationResult}
    (h : caseSystem.Reachable (requestRules caseId).Allows (Config.init db₀) c)
    (hsettled : c.settled = true) : EvidenceAgrees caseId c.state c.log := by
  cases (requestOutline caseId db₀ hstate hopen).inv_of_reachable h with
  | unasked hout _ hnone =>
      refine ⟨⟨fun hin => absurd hin hout, fun hone => ?_⟩, fun hin => absurd hin hout⟩
      rw [hnone] at hone
      cases hone
  | opened asked r hin honce hone hcarries _ =>
      refine ⟨⟨fun _ => by rw [hone]; rfl, fun _ => hin⟩, fun _ r' hr' => ?_⟩
      rw [hone, List.mem_singleton] at hr'
      subst hr'
      exact ⟨asked, by rw [lastAsked, honce]; rfl, hcarries⟩
  | owed asked _ honce _ hlabel howes =>
      -- the call that asked has returned or is lost, and neither leaves the request owed
      have hmem : asked ∈ c.log := by
        have hfiltered : asked ∈ c.log.filter (asksFor caseId) := by
          rw [honce]
          exact List.mem_singleton_self _
        exact (List.mem_filter.1 hfiltered).1
      obtain ⟨code, hthread⟩ := h.thread_of_mem hmem
      obtain ⟨ctx, v, detail, expiryDays, hlabel⟩ := hlabel
      rcases Config.settled_thread hsettled hthread with hlost | ⟨x, hret⟩
      · cases hlost
        obtain ⟨_, log₀, -, hfail, hothers⟩ :=
          (requestOutline caseId db₀ hstate hopen).lost h hthread
        rw [owesRequest_others hothers] at howes
        exact absurd (howes.symm.trans hfail) (by decide)
      · obtain ⟨_, log₀, hpost, hothers⟩ :=
          (requestOutline caseId db₀ hstate hopen).returned h hret
        rw [owesRequest_others hothers, hpost ctx v detail expiryDays hlabel] at howes
        cases howes

/-! ## Nothing closes a request -/

/-- With a request of the case open, no statement opens or closes one. -/
theorem exec_openRequests_of_open {caseId : CaseId} {db : Database} {r : EvidenceRow}
    (hopen : db.openRequests caseId = [r]) (a : Statement) (ω : Surroundings) :
    (exec ω a db).2.openRequests caseId = [r] := by
  refine (openRequests_of_not_opens (i := 0) (ℓ := ()) ?_).trans hopen
  rw [← Bool.not_eq_true]
  intro hopens
  obtain ⟨scope, input, rfl, rfl⟩ := insert_of_opensFor hopens
  rcases insertEvidenceRequest_cases ω scope input db with ⟨hmet, -⟩ | ⟨_, -, -, hnone, -⟩
  · simp [opensFor, openedRequest, executed, hmet] at hopens
  · rw [hnone] at hopen
    cases hopen

section Run

variable {caseId : CaseId} {r : EvidenceRow}
  {c c' : Config Database Surroundings Statement Statement.Answer Operation OperationResult}
  {P : Config Database Surroundings Statement Statement.Answer Operation OperationResult →
    Move Operation Surroundings → Prop}
  (h : caseSystem.Reachable P c c') (hopen : c.state.openRequests caseId = [r])

include h hopen

/-- A request stays open in every run, whatever happens to its case. -/
theorem request_stays_open : c'.state.openRequests caseId = [r] := by
  induction h with
  | refl => exact hopen
  | step _ _ hstep ih =>
      rcases System.step_cases hstep with ⟨ℓ, rfl, rfl⟩ | ⟨i, ω, ℓ, a, k, rfl, hi, rfl⟩ |
        ⟨i, ℓ, p, rfl, hi, rfl⟩
      · exact ih
      · exact exec_openRequests_of_open ih a ω
      · exact ih

/-- So from then on the property holds only while the case is in `REQUESTING_EVIDENCE`, and for
a call that asked for just that request. -/
theorem evidence_agrees_iff_of_open :
    EvidenceAgrees caseId c'.state c'.log ↔
      c'.state.stateOf caseId = some .requestingEvidence ∧
        ∃ asked, lastAsked caseId c'.log = some asked ∧ Carries caseId c'.log asked r := by
  have hopen' := request_stays_open h hopen
  constructor
  · intro hagrees
    have hin : c'.state.stateOf caseId = some .requestingEvidence := by
      rw [hagrees.open_iff, hopen']
      rfl
    exact ⟨hin, hagrees.carries hin r (by rw [hopen']; exact List.mem_singleton_self r)⟩
  · rintro ⟨hin, hasked⟩
    refine ⟨⟨fun _ => by rw [hopen']; rfl, fun _ => hin⟩, fun _ r' hr' => ?_⟩
    rw [hopen', List.mem_singleton] at hr'
    rw [hr']
    exact hasked

end Run

/-! ## A case that is asked about twice -/

/-- Surroundings that generate a given id. -/
def generating (uuid : String) : Surroundings := { quietSurroundings with uuid }

/-- An operator starts an investigation at a version, and the agent proposes an action. -/
def proposalMoves (i : Nat) (version : Int) (investigationId : String) :
    List (Move Operation Surroundings) :=
  [.call (.startInvestigation true sampleOperator "case-1" version),
    .run i quietSurroundings, .run i quietSurroundings, .run i (generating investigationId),
    .run i (generating (investigationId ++ "/started")),
    .call (.runAiInvestigation sampleOperator
      ⟨"case-1", investigationId, "pay-1", sampleUnit, version + 1⟩),
    .run (i + 1) timingLagSurroundings, .run (i + 1) quietSurroundings,
    .run (i + 1) (generating (investigationId ++ "/verified")),
    .run (i + 1) quietSurroundings, .run (i + 1) quietSurroundings, .run (i + 1) quietSurroundings,
    .run (i + 1) (generating (investigationId ++ "/proposed"))]

/-- An operator requests evidence at a version, through the API. -/
def requestMoves (i : Nat) (version : Int) (detail requestId : String) :
    List (Move Operation Surroundings) :=
  [.call (.requestEvidence sampleOperator "case-1" version detail EVIDENCE_REQUEST_EXPIRY_DAYS),
    .run i quietSurroundings, .run i quietSurroundings, .run i (generating (requestId ++ "/asked")),
    .run i quietSurroundings, .run i (generating requestId)]

/-- One request from a proposed action. -/
theorem evidence_agrees_requested :
    ∃ c, caseSystem.Reachable (requestRules "case-1").Allows (Config.init sampleDatabase) c ∧
      c.state.stateOf "case-1" = some .requestingEvidence ∧
      EvidenceAgrees "case-1" c.state c.log := by
  obtain ⟨c, hc, hsettled, hstate⟩ : ∃ c, caseSystem.replay (requestRules "case-1").Allows
      (Config.init sampleDatabase)
      (proposalMoves 0 1 "investigation-1" ++ requestMoves 2 3 "the invoice" "request-1") =
        some c ∧ c.settled = true ∧ c.state.stateOf "case-1" = some .requestingEvidence :=
    ⟨_, rfl, rfl, rfl⟩
  have hreach := System.reachable_of_replay _ hc
  exact ⟨c, hreach, hstate,
    evidence_agrees "case-1" sampleDatabase (by decide) (by decide) hreach hsettled⟩

/-- The case is investigated again, and evidence is requested a second time: the second call
opens nothing, since the first request is still open. -/
def reenteredMoves : List (Move Operation Surroundings) :=
  proposalMoves 0 1 "investigation-1" ++ requestMoves 2 3 "the invoice" "request-1" ++
    proposalMoves 3 4 "investigation-2" ++
    requestMoves 5 6 "the bank statement" "request-2" ++ [.run 5 quietSurroundings]

/-- The case is in `REQUESTING_EVIDENCE` for the second call, and its open request is the
first one's. -/
theorem reentered_disagrees :
    ∃ c, caseSystem.Reachable (fun _ _ => True) (Config.init sampleDatabase) c ∧
      c.settled = true ∧ c.state.stateOf "case-1" = some .requestingEvidence ∧
      (c.state.openRequests "case-1").map (·.detail) = ["the invoice"] ∧
      (lastAsked "case-1" c.log).map (·.label) =
        some (.requestEvidence sampleOperator "case-1" 6 "the bank statement"
          EVIDENCE_REQUEST_EXPIRY_DAYS) ∧
      ¬ EvidenceAgrees "case-1" c.state c.log := by
  obtain ⟨c, hc, hsettled, hstate, hopen, hasked⟩ :
      ∃ c, caseSystem.replay (fun _ _ => True) (Config.init sampleDatabase) reenteredMoves =
        some c ∧ c.settled = true ∧ c.state.stateOf "case-1" = some .requestingEvidence ∧
        (c.state.openRequests "case-1").map (·.detail) = ["the invoice"] ∧
        (lastAsked "case-1" c.log).map (·.label) =
          some (.requestEvidence sampleOperator "case-1" 6 "the bank statement"
            EVIDENCE_REQUEST_EXPIRY_DAYS) :=
    ⟨_, rfl, rfl, rfl, rfl, rfl⟩
  refine ⟨c, System.reachable_of_replay _ hc, hsettled, hstate, hopen, hasked, fun hagrees => ?_⟩
  obtain ⟨r, hr, hdetail⟩ := List.mem_map.1
    (show "the invoice" ∈ (c.state.openRequests "case-1").map (·.detail) by simp [hopen])
  obtain ⟨asked, hlast, ctx, v, detail, expiryDays, now, hlabel, -, hcarried, -⟩ :=
    hagrees.carries hstate r hr
  rw [hlast, Option.map_some, hlabel, Option.some.injEq] at hasked
  cases hasked
  rw [hdetail] at hcarried
  exact absurd hcarried (by decide)

end SettlementOps
