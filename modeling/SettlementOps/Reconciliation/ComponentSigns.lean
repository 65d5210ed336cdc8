import SettlementOps.Reconciliation.Matcher

/-!
# The signs of the components

Gross, fee, tax and refund are magnitudes.  The breakdown is where this is enforced, so it
holds of the totals.

* `reconciled_components` — the components of a reconciled unit, and what this leaves to its
  records.
* `offsetRefundsUnit_reconciled` — two records of opposite sign in one component.
-/

namespace SettlementOps

/-- The components of a unit that are magnitudes, by record. -/
def ReconciliationUnit.magnitudes (unit : ReconciliationUnit) : List (List Money) :=
  [[unit.payment.amount], unit.fees.map (·.amount), unit.taxes.map (·.amount),
    unit.refunds.map (·.amount)]

theorem total_erase {m : Money} {values : List Money} (h : m ∈ values) :
    Money.total values = m.amountMinor + Money.total (values.erase m) := by
  rw [Money.total, ((List.perm_cons_erase h).map Money.amountMinor).sum_eq, List.map_cons,
    List.sum_cons, Money.total]

/-- **The components of a reconciled unit are not negative**, so a negative record is outweighed
by the others of its component, and a record alone in its component is not negative. -/
theorem reconciled_components {unit : ReconciliationUnit}
    (h : (reconcileUnit unit).outcome = .reconciled) :
    ∀ component ∈ unit.magnitudes, 0 ≤ Money.total component ∧
      (∀ m ∈ component, -Money.total (component.erase m) ≤ m.amountMinor) ∧
        ∀ m, component = [m] → 0 ≤ m.amountMinor := by
  have hs := sound_of_reconciled h
  intro component hcomponent
  have hnonneg : 0 ≤ Money.total component := by
    simp only [ReconciliationUnit.magnitudes, List.mem_cons, List.not_mem_nil, or_false]
      at hcomponent
    rcases hcomponent with rfl | rfl | rfl | rfl
    · have hgross : 0 ≤ unit.payment.amount.amountMinor := hs.gross
      simpa [Money.total] using hgross
    · exact hs.fees
    · exact hs.taxes
    · exact hs.refunds
  refine ⟨hnonneg, fun m hm => ?_, fun m hone => ?_⟩
  · rw [total_erase hm] at hnonneg
    omega
  · rw [hone] at hnonneg
    simpa [Money.total] using hnonneg

theorem reconciled_components_sampleUnit :
    0 ≤ Money.total (sampleUnit.fees.map (·.amount)) ∧
      0 ≤ Money.total (sampleUnit.refunds.map (·.amount)) := by
  have h : (reconcileUnit sampleUnit).outcome = .reconciled := by decide
  have hcomponents := reconciled_components h
  exact ⟨(hcomponents _ (by simp [ReconciliationUnit.magnitudes])).1,
    (hcomponents _ (by simp [ReconciliationUnit.magnitudes])).1⟩

/-- The sample payment with a refund of 10.00 and one of -10.00. -/
def offsetRefundsUnit : ReconciliationUnit :=
  let refund (id : String) (minor : Int) : RefundRecord :=
    { sampleBase id with
      refundId := id
      paymentId := "pay-1"
      amount := ⟨minor, "INR"⟩
      status := .processed
      createdAt := ⟨1_770_026_400_000⟩
      settledAt := none }
  { sampleUnit with refunds := [refund "refund-1" 1_000, refund "refund-2" (-1_000)] }

/-- The two refunds of `offsetRefundsUnit` cancel in their total, and it reconciles. -/
theorem offsetRefundsUnit_reconciled :
    (reconcileUnit offsetRefundsUnit).outcome = .reconciled ∧
      ∃ r ∈ offsetRefundsUnit.refunds, r.amount.amountMinor < 0 :=
  ⟨by decide, by decide⟩

end SettlementOps
