import SettlementOps.Reconciliation.Matcher
import SettlementOps.Relational.Arrangement

/-!
# One bank credit, one settlement

The bank check looks up the first credit of each settlement's UTR and never strikes it off.

* `BankLegsConserved` — every settlement with a UTR has a bank credit for itself.
* `CreditsSuffice` — no UTR is carried by more settlements than it has such credits.
* `bankLegs_conserved_iff` — a reconciled unit has the first exactly when it has the second.
-/

namespace SettlementOps

namespace ReconciliationUnit

/-- The bank credits can be assigned to the settlements with a UTR, none of them twice, each of
its settlement's UTR, currency and amount. -/
def BankLegsConserved (unit : ReconciliationUnit) : Prop :=
  ∃ assign : Fin unit.utrSettlements.length → Fin unit.bankCredits.length,
    Function.Injective assign ∧
      ∀ i, some unit.bankCredits[assign i].utr = unit.utrSettlements[i].utr ∧
        unit.bankCredits[assign i].amount = unit.utrSettlements[i].netAmount

/-- A UTR is carried by no more settlements than it has credits of their amount. -/
def CreditsSuffice (unit : ReconciliationUnit) : Prop :=
  ∀ s ∈ unit.utrSettlements, unit.settlements.countP (fun t => t.utr = s.utr) ≤
    unit.bankCredits.countP fun b => some b.utr = s.utr ∧ b.amount = s.netAmount

end ReconciliationUnit

/-! ## What the bank check has seen -/

/-- Every settlement with a UTR of a reconciled unit was matched with a credit of its amount,
within the expected lag. -/
theorem leg_of_reconciled {unit : ReconciliationUnit}
    (h : (reconcileUnit unit).outcome = .reconciled) {s : SettlementRecord}
    (hs : s ∈ unit.utrSettlements) :
    ∃ credit, unit.creditFor s = some credit ∧ credit.amount = s.netAmount ∧
      bankCreditWithinExpectedLag s.settlementAt credit.creditedAt = true := by
  have hpass := failure_eq_none_of_reconciled h (c := checkBankCredit unit) (by simp [checksOf])
  rw [checkBankCredit_failure, List.findSome?_eq_none_iff] at hpass
  have hnone := hpass s hs
  unfold ReconciliationUnit.legDefect at hnone
  cases hcredit : unit.creditFor s with
  | none => simp [hcredit] at hnone
  | some credit =>
      refine ⟨credit, rfl, ?_⟩
      simp only [hcredit] at hnone
      split at hnone
      · cases hnone
      · rename_i hagree
        split at hnone
        · cases hnone
        · rename_i hlag
          exact ⟨creditAgrees_iff.1 (by simpa using hagree), by simpa using hlag⟩

theorem creditFor_of_reconciled {unit : ReconciliationUnit}
    (h : (reconcileUnit unit).outcome = .reconciled) {s : SettlementRecord}
    (hs : s ∈ unit.utrSettlements) :
    ∃ credit, unit.creditFor s = some credit ∧ credit.amount = s.netAmount := by
  obtain ⟨credit, hcredit, hamount, -⟩ := leg_of_reconciled h hs
  exact ⟨credit, hcredit, hamount⟩

/-- The settlements of one UTR were matched with one credit, so they have one amount. -/
theorem netAmount_eq_of_utr_eq {unit : ReconciliationUnit}
    (h : (reconcileUnit unit).outcome = .reconciled) {s t : SettlementRecord}
    (hs : s ∈ unit.utrSettlements) (ht : t ∈ unit.utrSettlements) (hutr : t.utr = s.utr) :
    t.netAmount = s.netAmount := by
  obtain ⟨credit, hcredit, hamount⟩ := creditFor_of_reconciled h hs
  obtain ⟨credit', hcredit', hamount'⟩ := creditFor_of_reconciled h ht
  have hsame : unit.creditFor t = unit.creditFor s := by
    unfold ReconciliationUnit.creditFor
    rw [hutr]
  rw [hsame, hcredit, Option.some.injEq] at hcredit'
  subst hcredit'
  exact hamount'.symm.trans hamount

/-- The settlements of a UTR are those of its UTR and amount. -/
theorem countP_utr_eq {unit : ReconciliationUnit}
    (h : (reconcileUnit unit).outcome = .reconciled) {s : SettlementRecord}
    (hs : s ∈ unit.utrSettlements) :
    unit.utrSettlements.countP (fun t => (t.utr, t.netAmount) = (s.utr, s.netAmount)) =
      unit.settlements.countP (fun t => t.utr = s.utr) := by
  have hsome : s.utr ≠ none := by simpa using (List.mem_filter.1 hs).2
  calc unit.utrSettlements.countP (fun t => (t.utr, t.netAmount) = (s.utr, s.netAmount))
      = unit.utrSettlements.countP (fun t => t.utr = s.utr) := by
        refine List.countP_congr fun t ht => ?_
        simp only [Prod.mk.injEq, decide_eq_true_eq, and_iff_left_iff_imp]
        exact fun hutr => netAmount_eq_of_utr_eq h hs ht hutr
    _ = unit.settlements.countP (fun t => t.utr = s.utr) := by
        unfold ReconciliationUnit.utrSettlements
        rw [List.countP_filter]
        refine List.countP_congr fun t _ => ?_
        simp only [Bool.and_eq_true, decide_eq_true_eq, bne_iff_ne, ne_eq, and_iff_left_iff_imp]
        rintro hutr hnone
        exact hsome (hutr.symm.trans hnone)

/-- **The bank leg.**  The arrivals a reconciled verdict counts can be told apart, one credit for
each settlement, exactly when every UTR has as many credits of the amount as settlements carry
it. -/
theorem bankLegs_conserved_iff {unit : ReconciliationUnit}
    (h : (reconcileUnit unit).outcome = .reconciled) :
    unit.BankLegsConserved ↔ unit.CreditsSuffice := by
  have hassign : unit.BankLegsConserved ↔
      ∀ k, unit.utrSettlements.countP (fun t => (t.utr, t.netAmount) = k) ≤
        unit.bankCredits.countP (fun b => (some b.utr, b.amount) = k) := by
    rw [← Relational.exists_assignment_iff]
    simp only [ReconciliationUnit.BankLegsConserved, Prod.mk.injEq]
  rw [hassign]
  constructor
  · intro hcount s hs
    have hkey := hcount (s.utr, s.netAmount)
    rw [countP_utr_eq h hs] at hkey
    simpa only [Prod.mk.injEq] using hkey
  · intro hsuffice k
    by_cases hany : ∃ s ∈ unit.utrSettlements, (s.utr, s.netAmount) = k
    · obtain ⟨s, hs, rfl⟩ := hany
      rw [countP_utr_eq h hs]
      simpa only [Prod.mk.injEq] using hsuffice s hs
    · have hzero : unit.utrSettlements.countP (fun t => (t.utr, t.netAmount) = k) = 0 := by
        rw [List.countP_eq_zero]
        intro t ht hk
        exact hany ⟨t, ht, by simpa using hk⟩
      rw [hzero]
      exact Nat.zero_le _

/-- The one settlement of the sample unit has its credit. -/
theorem bankLegs_conserved_sampleUnit :
    (reconcileUnit sampleUnit).outcome = .reconciled ∧
      (sampleUnit.BankLegsConserved ↔ sampleUnit.CreditsSuffice) ∧ sampleUnit.CreditsSuffice := by
  have h : (reconcileUnit sampleUnit).outcome = .reconciled := by decide
  refine ⟨h, bankLegs_conserved_iff h, ?_⟩
  intro s hs
  revert s
  decide

/-- The sample payment settled in two halves under one UTR, with the credit of one half. -/
def halfCreditedUnit : ReconciliationUnit :=
  let half : Money := ⟨485_250, "INR"⟩
  let leg (id : String) : SettlementRecord :=
    { sampleBase id with
      settlementId := id
      settlementBatchId := none
      grossAmount := ⟨500_000, "INR"⟩
      netAmount := half
      settlementAt := ⟨1_770_163_200_000⟩
      status := .processed
      utr := some "UTR001" }
  let line (id settlementId : String) : SettlementLineRecord :=
    { sampleBase id with
      settlementId
      paymentId := some "pay-1"
      refundId := none
      lineType := .payment
      amount := half }
  { sampleUnit with
    settlements := [leg "set-1", leg "set-2"]
    settlementLines := [line "line-1" "set-1", line "line-2" "set-2"]
    bankCredits := sampleUnit.bankCredits.map fun b => { b with amount := half } }

/-- `halfCreditedUnit` reconciles: its one bank credit counts as the arrival of both halves. -/
theorem halfCreditedUnit_reconciled :
    (reconcileUnit halfCreditedUnit).outcome = .reconciled ∧
      ¬ halfCreditedUnit.BankLegsConserved := by
  refine ⟨by decide, ?_⟩
  rintro ⟨assign, hinj, -⟩
  -- there is one place to assign, and two halves
  have hone : ∀ i j : Fin halfCreditedUnit.bankCredits.length, i = j := by decide
  have hsame : (⟨0, by decide⟩ : Fin halfCreditedUnit.utrSettlements.length) = ⟨1, by decide⟩ :=
    hinj (hone _ _)
  cases hsame

end SettlementOps
