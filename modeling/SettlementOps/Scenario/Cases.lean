import SettlementOps.Scenario.Imports

/-!
# The cases of a scenario

A scenario that has been imported is reconciled by a run of its own, and the cases of that run are
linked to it.

* `Instantiation.run` — the run of a scenario.
* `scenario_cases` — it leaves the case the scenario was designed for, or none.
-/

namespace SettlementOps.Scenario

open Interleave Generator

/-- The run that follows the import of a scenario. -/
def Instantiation.run (x : Instantiation) : RunOperation :=
  .runReconciliation x.ctx ⟨some x.importId, 100⟩

/-- **The cases of a scenario.**  Whatever meets none of its records is written while scenarios are
run, one that clashes with an earlier one is left without a case; one that clashes with no other has
a case, of its payment, when it is designed not to reconcile, and none otherwise. -/
theorem scenario_cases {parseDate : String → Option Date} (hreads : ReadsISO parseDate)
    {recordId : Nat → Nat → String} (hids : Function.Injective2 recordId)
    {before after : List Instantiation} {x : Instantiation}
    (himports : ((before ++ x :: after).map (·.importId)).Nodup) (hdef : x.definition ∈ SCENARIOS)
    {orders : ListingOrders} {db₀ : RunDatabase} (hdb₀ : db₀.WellFormed)
    (hrecords : db₀.records =
      importBatches (scenarioImports parseDate recordId (before ++ x :: after)) {})
    {c : RunConfig} (h : (runSystem orders).Reachable
      (besides (scenarioImports parseDate recordId (before ++ x :: after))
        (x.batch parseDate (recordId before.length))).Allows (Config.init db₀) c)
    {i : Nat} {summary : ReconciliationRunSummary}
    (hret : c.returned i = some (x.run, .completed summary)) :
    ((∃ y ∈ before, y.Clashes x) → c.state.casesOfRun summary.id = []) ∧
      ((∀ y ∈ before ++ after, ¬ y.Clashes x) →
        ∃ p, c.state.records.capturedOf (scopeOf x.ctx) x.importId = [p] ∧
          (c.state.casesOfRun summary.id).map (·.paymentId) =
            if x.definition.expectsException then [some p.id] else []) := by
  obtain ⟨later, hsplit, hother⟩ := scenarioImports_split parseDate recordId himports
  have hdistinct : DistinctIds (scenarioImports parseDate recordId (before ++ x :: after)) :=
    scenarioImports_distinctIds hids _
  constructor
  · intro hclash
    have hnone := captured_eq_nil hreads hids himports hclash
    rw [hsplit] at hdistinct hrecords h hnone
    have hread : ReadOf orders (scopeOf x.ctx) x.importId _ c.log :=
      (readOf_of_reachable (List.mem_append_right _ List.mem_cons_self) hdistinct hrecords
        (fun hbeside => hbeside.sameUnits_of_none hnone) h).2
    have hwell := importBatches_wellFormed (scenarioImports parseDate recordId before ++
      x.batch parseDate (recordId before.length) :: later) wellFormed_empty
    have hcases := casesOfRun_perm hdb₀ h hread hret rfl hwell
    rw [exceptionsOf_eq_nil hnone] at hcases
    exact List.map_eq_nil_iff.1 hcases.eq_nil
  · intro hapart
    have hsep : Separated (x.batch parseDate (recordId before.length)).owns
        (scenarioImports parseDate recordId (before ++ x :: after)) :=
      scenarioImports_separated hids hapart
    have hrecordId : Function.Injective (recordId before.length) := fun _ _ heq => (hids heq).2
    obtain ⟨p, unit, hcaptured, hload, hunit⟩ := batch_captured hreads hrecordId x
    rw [hsplit] at hdistinct hrecords h hsep
    obtain ⟨hbeside, hread⟩ : _ ∧ ReadOf orders (scopeOf x.ctx) x.importId _ c.log :=
      readOf_of_reachable (List.mem_append_right _ List.mem_cons_self) hdistinct hrecords
        (fun hbeside => hbeside.sameUnits hsep hother) h
    refine ⟨p, (hbeside.sameUnits hsep hother).captured.trans hcaptured, ?_⟩
    have hcases := casesOfRun_perm hdb₀ h hread hret rfl
      (insertMany_wellFormed wellFormed_empty _ _ _)
    rw [exceptionsOf_singleton (by decide) hcaptured hload] at hcases
    simp only [(found_of_delivered hdef hunit).outcome] at hcases
    cases hexpects : x.definition.expectsException with
    | false =>
        rw [hexpects] at hcases
        exact hcases.eq_nil
    | true =>
        rw [hexpects] at hcases
        exact List.perm_singleton.1 hcases

/-- A run over an imported scenario completes, and leaves its case. -/
theorem scenario_cases_split :
    let split : ScenarioDefinition := ⟨.splitSettlement, 1_000_000, .card, "UTR_SPLIT", true⟩
    let x := shown "m-1" split "import-1"
    ∃ c : RunConfig, ∃ summary p, c.returned 0 = some (x.run, .completed summary) ∧
      c.state.records.capturedOf ⟨"m-1"⟩ "import-1" = [p] ∧
      (c.state.casesOfRun summary.id).map (·.paymentId) = [some p.id] := by
  intro split x
  let recordId : Nat → Nat → String := fun i j => toString (Nat.pair i j)
  have hids : Function.Injective2 recordId :=
    fun _ _ _ _ h => Nat.pair_eq_pair.1 (toString_injective h)
  obtain ⟨records, hrecords⟩ : ∃ records, records =
      importBatches (scenarioImports parseISOString recordId [x]) {} := ⟨_, rfl⟩
  let db : RunDatabase := { imports := [sampleImportRow], records := records }
  have hwell : WellFormed records := by
    rw [hrecords]
    exact importBatches_wellFormed _ wellFormed_empty
  have hdb : db.WellFormed := { RunDatabase.wellFormed_of_records hwell with }
  obtain ⟨c, summary, hreach, hret⟩ := exists_completed_beside storedOrders db rfl "import-1" rfl
    x.ctx 100 (scenarioImports parseISOString recordId [x]) (x.batch parseISOString (recordId 0))
  obtain ⟨-, hapart⟩ := @scenario_cases _ readsISO_parseISOString _ hids [] [] x (by decide)
    (by decide) _ _ hdb hrecords _ hreach _ _ hret
  obtain ⟨p, hcaptured, hcases⟩ := hapart (List.forall_mem_nil _)
  exact ⟨c, summary, p, hret, hcaptured, hcases⟩

end SettlementOps.Scenario
