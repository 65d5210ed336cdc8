import SettlementOps.Generator.Labels
import SettlementOps.Systems.Treatments

/-!
# What the baseline cites, and what the gate and System A make of it

* `evidence_inScope`, `evidence_ne_nil` — the baseline cites records of the unit alone, and some.
* `verify_resolve_or_escalate`, `verify_cited_iff` — the gate on a proposal that resolves.
* `runSystemA_effective` — what System A resolves, on any unit.
-/

namespace SettlementOps

/-! ## What the baseline cites -/

/-- Ids of records of the unit. -/
def ReconciliationUnit.Cites (unit : ReconciliationUnit) (ids : List String) : Prop :=
  ∀ id ∈ ids, id ∈ unit.recordIds

section Cited

variable {unit : ReconciliationUnit}

theorem mem_recordIds {id : String} : id ∈ unit.recordIds ↔ id = unit.payment.id ∨
    (∃ f ∈ unit.fees, f.id = id) ∨ (∃ t ∈ unit.taxes, t.id = id) ∨
    (∃ r ∈ unit.refunds, r.id = id) ∨ (∃ a ∈ unit.adjustments, a.id = id) ∨
    (∃ s ∈ unit.settlements, s.id = id) ∨ (∃ l ∈ unit.settlementLines, l.id = id) ∨
    ∃ b ∈ unit.bankCredits, b.id = id := by
  simp only [ReconciliationUnit.recordIds, List.mem_cons, List.mem_append, List.mem_map, or_assoc]

theorem cites_payment : unit.Cites [unit.payment.id] := fun _ h =>
  mem_recordIds.2 (.inl (List.mem_singleton.1 h))

theorem cites_fees : unit.Cites (unit.fees.map (·.id)) := fun _ h =>
  mem_recordIds.2 (.inr (.inl (List.mem_map.1 h)))

theorem cites_refunds {l : List RefundRecord} (h : l ⊆ unit.refunds) :
    unit.Cites (l.map (·.id)) := by
  intro id hid
  obtain ⟨r, hr, hsame⟩ := List.mem_map.1 hid
  exact mem_recordIds.2 (.inr (.inr (.inr (.inl ⟨r, h hr, hsame⟩))))

theorem cites_adjustments {l : List AdjustmentRecord} (h : l ⊆ unit.adjustments) :
    unit.Cites (l.map (·.id)) := by
  intro id hid
  obtain ⟨a, ha, hsame⟩ := List.mem_map.1 hid
  exact mem_recordIds.2 (.inr (.inr (.inr (.inr (.inl ⟨a, h ha, hsame⟩)))))

theorem cites_settlements {l : List SettlementRecord} (h : l ⊆ unit.settlements) :
    unit.Cites (l.map (·.id)) := by
  intro id hid
  obtain ⟨s, hs, hsame⟩ := List.mem_map.1 hid
  exact mem_recordIds.2 (.inr (.inr (.inr (.inr (.inr (.inl ⟨s, h hs, hsame⟩))))))

theorem cites_lines : unit.Cites (unit.lines.map (·.id)) := by
  intro id hid
  obtain ⟨l, hl, hsame⟩ := List.mem_map.1 hid
  exact mem_recordIds.2
    (.inr (.inr (.inr (.inr (.inr (.inr (.inl ⟨l, List.mem_of_mem_filter hl, hsame⟩)))))))

theorem cites_nil : unit.Cites [] := nofun

theorem cites_append {ids ids' : List String} (h : unit.Cites ids) (h' : unit.Cites ids') :
    unit.Cites (ids ++ ids') := fun id hid =>
  (List.mem_append.1 hid).elim (h id) (h' id)

theorem cites_matchCredits : ∀ {settlements : List SettlementRecord} {credited : List String},
    settlements ⊆ unit.settlements → unit.Cites credited →
      unit.Cites (matchCredits unit settlements credited).sourceRecordIds := by
  intro settlements
  induction settlements with
  | nil =>
      intro credited _ hcredited
      exact hcredited
  | cons s rest ih =>
      intro credited hsub hcredited
      have hs : unit.Cites [s.id] := fun id hid =>
        cites_settlements (List.cons_subset.2 ⟨hsub List.mem_cons_self, List.nil_subset _⟩) id hid
      unfold matchCredits
      cases hfind : unit.bankCredits.find? (fun b => some b.utr == s.utr) with
      | none => exact hs
      | some b =>
          have hb : unit.Cites [b.id] := fun id hid => mem_recordIds.2
            (.inr (.inr (.inr (.inr (.inr (.inr (.inr ⟨b, List.mem_of_find?_eq_some hfind,
              (List.mem_singleton.1 hid).symm⟩)))))))
          dsimp only
          split
          · exact cites_append hs hb
          split
          · exact cites_append hs hb
          · exact ih (fun x hx => hsub (List.mem_cons_of_mem _ hx)) (cites_append hcredited hb)

/-- Every check cites records of the unit; a duplicate is cited by the ids of its group. -/
theorem cites_checks (hduplicates : unit.duplicates = []) :
    ∀ c ∈ checksOf unit, unit.Cites c.sourceRecordIds := by
  simp only [checksOf, List.mem_cons, List.not_mem_nil, or_false, forall_eq_or_imp, forall_eq]
  refine ⟨?_, ?_, ?_, ?_, ?_, ?_, ?_, ?_, ?_, ?_⟩
  · unfold checkCurrencyConsistency
    dsimp only
    split
    · exact cites_payment
    · exact cites_nil
  · unfold checkLifecycleConsistency
    dsimp only
    split
    · exact cites_payment
    split
    · exact cites_payment
    split
    · split
      · exact cites_refunds fun _ h => h
      · exact cites_payment
    · exact cites_payment
  · unfold checkNoDuplicates
    rw [hduplicates]
    exact cites_payment
  · unfold checkFeeAgainstSchedule
    dsimp only
    split
    · exact cites_payment
    split
    · exact cites_payment
    split
    · exact cites_payment
    split
    · exact cites_fees
    split <;> exact cites_fees
  · unfold checkSettlementPresence
    dsimp only
    split
    · exact cites_payment
    split <;> exact cites_lines
  · unfold checkAmountConservation
    dsimp only
    split
    · exact cites_payment
    split
    · exact cites_payment
    split
    · exact cites_payment
    split <;> exact cites_lines
  · unfold checkSettlementTiming
    dsimp only
    split
    · exact cites_payment
    split
    · exact cites_payment
    split
    · exact cites_settlements fun _ h => h
    · exact cites_settlements fun _ h => List.mem_of_mem_filter h
  · unfold checkRefundNettingWindow
    dsimp only
    split
    · exact cites_refunds fun _ h => h
    · exact cites_refunds fun _ h => List.mem_of_mem_filter h
  · unfold checkAdjustmentTiming
    dsimp only
    split
    · exact cites_nil
    split
    · exact cites_adjustments fun _ h => h
    · exact cites_adjustments fun _ h => List.mem_of_mem_filter h
  · unfold checkBankCredit
    dsimp only
    split
    · exact cites_nil
    · exact cites_matchCredits (fun _ h => List.mem_of_mem_filter h) cites_nil

theorem evidence_inScope (hduplicates : unit.duplicates = []) :
    unit.Cites (reconcileUnit unit).evidenceRecordIds := by
  intro id hid
  rw [reconcileUnit] at hid
  dsimp only at hid
  rw [List.mem_eraseDups, List.mem_cons, List.mem_flatMap] at hid
  rcases hid with rfl | ⟨c, hc, hid⟩
  · exact cites_payment _ (List.mem_singleton_self _)
  · exact cites_checks hduplicates c hc id hid

theorem evidence_ne_nil : (reconcileUnit unit).evidenceRecordIds ≠ [] := by
  have hmem : unit.payment.id ∈ (reconcileUnit unit).evidenceRecordIds := by
    rw [reconcileUnit]
    dsimp only
    rw [List.mem_eraseDups]
    exact List.mem_cons_self
  exact List.ne_nil_of_mem hmem

end Cited

/-- The reasons of a verdict are those its checks fail for, each once and in order. -/
theorem reasons_eq_failures (unit : ReconciliationUnit) :
    (reconcileUnit unit).reasons =
      (((checksOf unit).map (·.failure)).filterMap id).eraseDups := by
  have hreasons : ∀ checks : List ReconciliationCheck,
      (checks.filter fun c => c.status == .fail).flatMap (fun c => c.reason.toList) =
        (checks.map (·.failure)).filterMap id := by
    intro checks
    induction checks with
    | nil => rfl
    | cons c checks ih =>
        rw [List.map_cons, List.filterMap_cons, List.filter_cons, ReconciliationCheck.failure]
        by_cases hstatus : c.status = .fail
        · rw [if_pos (beq_iff_eq.2 hstatus), if_pos hstatus, List.flatMap_cons, ih]
          cases c.reason <;> rfl
        · rw [if_neg fun h => hstatus (beq_iff_eq.1 h), if_neg hstatus, ih]
          rfl
  rw [reconcileUnit]
  dsimp only
  rw [hreasons]

theorem reconciled_iff_reasons (unit : ReconciliationUnit) :
    (reconcileUnit unit).outcome = .reconciled ↔ (reconcileUnit unit).reasons = [] := by
  rw [reconciled_iff_no_reason, List.eq_nil_iff_forall_not_mem]

/-! ## The gate -/

section Gate

variable {unit : ReconciliationUnit}

theorem verify_resolve_or_escalate {proposal : Proposal} (h : proposal.disposition = .resolve) :
    (verify proposal unit).effectiveDisposition = .resolve ∨
      (verify proposal unit).effectiveDisposition = .escalate := by
  rcases verify_of_resolve unit h with ⟨-, -, heff, -⟩ | ⟨-, -, heff, -⟩
  · exact .inl heff
  · exact .inr heff

/-- A proposal that cites records of the unit alone resolves by what the records say. -/
theorem verify_cited_iff {proposal : Proposal} (h : proposal.disposition = .resolve)
    (hne : proposal.evidenceRecordIds ≠ []) (hcites : unit.Cites proposal.evidenceRecordIds)
    (hretrieved : ∀ ids ∈ proposal.retrievedRecordIds, proposal.evidenceRecordIds ⊆ ids) :
    (verify proposal unit).effectiveDisposition = .resolve ↔
      unit.AdjustmentsPossible ∧ unit.expectedNetInput.Sound ∧
        unit.CauseCondition proposal.cause := by
  rw [verify_eq_resolve_iff, ← expectedNetFromRecords_ok_iff]
  constructor
  · rintro ⟨-, hsub⟩
    exact ⟨hsub.adjustments, hsub.computable, hsub.cause⟩
  · rintro ⟨hadjustments, hcomputable, hcause⟩
    exact ⟨h, {
      notAmbiguous := fun hamb => by
        rw [hamb] at hcause
        exact hcause
      notCompound := fun hcomp => by
        rw [hcomp] at hcause
        exact hcause
      cites := hne
      inScope := hcites
      retrieved := fun ids hids _ hid => hretrieved ids hids hid
      adjustments := hadjustments
      computable := hcomputable
      cause := hcause }⟩

end Gate

/-! ## System A on any unit -/

section SystemA

variable {unit : ReconciliationUnit}

theorem runSystemA_reconciled (h : (reconcileUnit unit).outcome = .reconciled) :
    (runSystemA unit).effectiveDisposition = .resolve ∧ (runSystemA unit).proposedCause = none := by
  unfold runSystemA
  dsimp only
  rw [if_pos h]
  exact ⟨rfl, rfl⟩

theorem runSystemA_uncovered (h : (reconcileUnit unit).outcome ≠ .reconciled)
    (hcause : singleCause (reconcileUnit unit).reasons = none) :
    (runSystemA unit).effectiveDisposition = .escalate := by
  unfold runSystemA
  dsimp only
  rw [if_neg h, hcause]

theorem runSystemA_enumerated (h : (reconcileUnit unit).outcome ≠ .reconciled) {cause : CauseCode}
    (hcause : singleCause (reconcileUnit unit).reasons = some cause) :
    (runSystemA unit).proposedCause = some cause ∧
      ∃ proposal, proposal.cause = cause ∧ proposal.disposition = .resolve ∧
        proposal.evidenceRecordIds = (reconcileUnit unit).evidenceRecordIds ∧
        proposal.retrievedRecordIds = none ∧
        (runSystemA unit).effectiveDisposition = (verify proposal unit).effectiveDisposition := by
  unfold runSystemA
  dsimp only
  rw [if_neg h, hcause]
  exact ⟨rfl, _, rfl, rfl, rfl, rfl, rfl⟩

/-- The baseline resolves or escalates. -/
theorem runSystemA_effective (unit : ReconciliationUnit) :
    (runSystemA unit).effectiveDisposition = .resolve ∨
      (runSystemA unit).effectiveDisposition = .escalate := by
  by_cases h : (reconcileUnit unit).outcome = .reconciled
  · exact .inl (runSystemA_reconciled h).1
  cases hcause : singleCause (reconcileUnit unit).reasons with
  | none => exact .inr (runSystemA_uncovered h hcause)
  | some cause =>
      obtain ⟨-, proposal, -, hresolve, -, -, heff⟩ := runSystemA_enumerated h hcause
      rw [heff]
      exact verify_resolve_or_escalate hresolve

end SystemA

end SettlementOps
