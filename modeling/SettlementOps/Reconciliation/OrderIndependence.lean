import SettlementOps.Reconciliation.Matcher
import SettlementOps.Relational.Arrangement

/-!
# The baseline and the order of its records

The queries that fill a unit name no order.  Nine of the ten checks do not see it; the bank
check matches a settlement with the first credit of its UTR and reports the first settlement it
finds something wrong with.

* `Reordering`, `SameVerdict` — a unit in another order, and what must not depend on it.
* `sameVerdict_iff_bank` — only the bank check can tell two orders apart.
* `OrderFree` — the units on which the bank check cannot either.
* `order_independent_iff` — the verdict is independent of the order on exactly these.
-/

namespace SettlementOps

/-- The same records, each list in any order. -/
structure Reordering (unit unit' : ReconciliationUnit) : Prop where
  payment : unit'.payment = unit.payment
  fees : unit'.fees.Perm unit.fees
  taxes : unit'.taxes.Perm unit.taxes
  refunds : unit'.refunds.Perm unit.refunds
  adjustments : unit'.adjustments.Perm unit.adjustments
  settlements : unit'.settlements.Perm unit.settlements
  settlementLines : unit'.settlementLines.Perm unit.settlementLines
  bankCredits : unit'.bankCredits.Perm unit.bankCredits
  duplicates : unit'.duplicates.Perm unit.duplicates

/-- The same outcome, the same set of reasons and the same discrepancy. -/
structure SameVerdict (unit unit' : ReconciliationUnit) : Prop where
  outcome : (reconcileUnit unit').outcome = (reconcileUnit unit).outcome
  reasons : ∀ r, r ∈ (reconcileUnit unit').reasons ↔ r ∈ (reconcileUnit unit).reasons
  discrepancy : (reconcileUnit unit').discrepancy = (reconcileUnit unit).discrepancy

/-! ## Totals -/

theorem total_perm {l l' : List Money} (h : l.Perm l') : Money.total l = Money.total l' :=
  (h.map _).sum_eq

/-- A sum is the same in every order, or there is none in any. -/
theorem sum_perm {l l' : List Money} (h : l.Perm l') :
    Money.sum l = Money.sum l' ∨
      (∃ e, Money.sum l = .error e) ∧ ∃ e, Money.sum l' = .error e := by
  have hok : ∀ {a b : List Money} {m : Money}, a.Perm b → Money.sum a = .ok m →
      Money.sum b = .ok m := by
    intro a b m hab ha
    obtain ⟨hne, hcur, htotal⟩ := Money.sum_ok_iff.1 ha
    refine Money.sum_ok_iff.2 ⟨fun hnil => hne ?_, fun x hx => hcur x (hab.mem_iff.2 hx), ?_⟩
    · rw [hnil] at hab
      exact hab.eq_nil
    · rw [htotal, total_perm hab]
  cases hl : Money.sum l with
  | ok m => exact .inl (hok h hl).symm
  | error e =>
      cases hl' : Money.sum l' with
      | ok m =>
          rw [hok h.symm hl'] at hl
          cases hl
      | error e' => exact .inr ⟨⟨e, rfl⟩, e', rfl⟩

theorem totalOf_perm {l l' : List Money} (h : l.Perm l') (c : Currency) :
    totalOf l c = totalOf l' c := by
  unfold totalOf
  rw [h.length_eq]
  rcases sum_perm h with heq | ⟨⟨e, he⟩, e', he'⟩
  · rw [heq]
  · rw [he, he']

/-! ## The checks that do not see the order -/

namespace Reordering

variable {unit unit' : ReconciliationUnit} (h : Reordering unit unit')
include h

theorem lines : unit'.lines.Perm unit.lines := by
  unfold ReconciliationUnit.lines
  rw [h.payment]
  exact h.settlementLines.filter _

theorem utrSettlements : unit'.utrSettlements.Perm unit.utrSettlements :=
  h.settlements.filter _

theorem comparedAmounts : unit'.comparedAmounts.Perm unit.comparedAmounts :=
  ((((((h.fees.map _).append (h.taxes.map _)).append (h.refunds.map _)).append
    (h.adjustments.map _)).append (h.settlementLines.map _)).append (h.bankCredits.map _))

theorem singleCurrency : unit'.SingleCurrency ↔ unit.SingleCurrency := by
  unfold ReconciliationUnit.SingleCurrency
  rw [h.payment]
  exact ⟨fun hall m hm => hall m (h.comparedAmounts.mem_iff.2 hm),
    fun hall m hm => hall m (h.comparedAmounts.mem_iff.1 hm)⟩

theorem currencyConsistency :
    (checkCurrencyConsistency unit').failure = (checkCurrencyConsistency unit).failure := by
  rcases checkCurrencyConsistency_failure unit with ⟨hc, hf⟩ | ⟨hc, hf⟩ <;>
    rcases checkCurrencyConsistency_failure unit' with ⟨hc', hf'⟩ | ⟨hc', hf'⟩ <;>
    rw [hf, hf']
  · exact absurd (h.singleCurrency.2 hc) hc'
  · exact absurd (h.singleCurrency.1 hc') hc

theorem lifecycleConsistency :
    (checkLifecycleConsistency unit').failure = (checkLifecycleConsistency unit).failure := by
  unfold checkLifecycleConsistency
  dsimp only
  rw [h.payment]
  split
  · rfl
  split
  · rfl
  rcases sum_perm (h.refunds.map (·.amount)) with heq | ⟨⟨e, he⟩, e', he'⟩
  · rw [heq]
    split
    · split <;> rfl
    · rfl
  · rw [he, he']

theorem noDuplicates : (checkNoDuplicates unit').failure = (checkNoDuplicates unit).failure := by
  rw [checkNoDuplicates_failure, checkNoDuplicates_failure]
  have hnil : unit'.duplicates = [] ↔ unit.duplicates = [] := by
    rw [← List.length_eq_zero_iff, h.duplicates.length_eq, List.length_eq_zero_iff]
  simp only [hnil]

theorem feeAgainstSchedule :
    (checkFeeAgainstSchedule unit').failure = (checkFeeAgainstSchedule unit).failure := by
  unfold checkFeeAgainstSchedule
  dsimp only
  rw [h.payment, h.fees.length_eq]
  split
  · rfl
  split
  · rfl
  split
  · rfl
  rcases sum_perm (h.fees.map (·.amount)) with heq | ⟨⟨e, he⟩, e', he'⟩
  · rw [heq]
    split
    · rfl
    · split <;> rfl
  · rw [he, he']
    dsimp only
    split
    · rfl
    · split <;> rfl

theorem settlementPresence :
    (checkSettlementPresence unit').failure = (checkSettlementPresence unit).failure := by
  rw [checkSettlementPresence_failure, checkSettlementPresence_failure]
  have hnil : unit'.lines = [] ↔ unit.lines = [] := by
    rw [← List.length_eq_zero_iff, h.lines.length_eq, List.length_eq_zero_iff]
  simp only [hnil]

theorem breakdown : breakdownFor unit' = breakdownFor unit := by
  have hsame : expectedNetFromRecords unit'.expectedNetInput =
      expectedNetFromRecords unit.expectedNetInput := by
    simp only [expectedNetFromRecords, ReconciliationUnit.expectedNetInput, h.payment,
      totalOf_perm (h.fees.map _), totalOf_perm (h.taxes.map _), totalOf_perm (h.refunds.map _),
      totalOf_perm (h.adjustments.map _)]
  unfold breakdownFor
  rw [hsame]

theorem distinctSettlements_eq :
    distinctSettlements unit'.lines = distinctSettlements unit.lines :=
  Relational.length_eraseDups_perm (h.lines.map _)

theorem settledTotal : settledTotalFor unit' = settledTotalFor unit := by
  unfold settledTotalFor
  rw [h.payment]
  rcases sum_perm (h.lines.map (·.amount)) with heq | ⟨⟨e, he⟩, e', he'⟩
  · rw [heq]
  · rw [he, he']

theorem amountConservation :
    (checkAmountConservation unit' (breakdownFor unit')).discrepancy =
        (checkAmountConservation unit (breakdownFor unit)).discrepancy ∧
      (checkAmountConservation unit' (breakdownFor unit')).check.failure =
        (checkAmountConservation unit (breakdownFor unit)).check.failure := by
  unfold checkAmountConservation
  dsimp only
  rw [h.breakdown, h.payment, h.lines.length_eq, h.settledTotal, h.distinctSettlements_eq]
  split
  · exact ⟨rfl, rfl⟩
  split
  · exact ⟨rfl, rfl⟩
  split
  · exact ⟨rfl, rfl⟩
  split <;> exact ⟨rfl, rfl⟩

theorem settlementTiming :
    (checkSettlementTiming unit').failure = (checkSettlementTiming unit).failure := by
  unfold checkSettlementTiming
  dsimp only
  rw [h.payment, h.settlements.length_eq]
  split
  · rfl
  split
  · rfl
  rw [(h.settlements.filter _).length_eq]
  split <;> rfl

theorem refundNettingWindow :
    (checkRefundNettingWindow unit').failure = (checkRefundNettingWindow unit).failure := by
  unfold checkRefundNettingWindow
  dsimp only
  rw [(h.refunds.filter _).length_eq]
  split <;> rfl

theorem impossibleAdjustments :
    unit'.impossibleAdjustments.Perm unit.impossibleAdjustments := by
  have hall : ∀ p : SettlementRecord → Bool, unit'.settlements.all p = unit.settlements.all p :=
    fun p => h.settlements.all_eq
  unfold ReconciliationUnit.impossibleAdjustments
  simp only [hall]
  exact h.adjustments.filter _

theorem adjustmentTiming :
    (checkAdjustmentTiming unit').failure = (checkAdjustmentTiming unit).failure := by
  unfold checkAdjustmentTiming
  dsimp only
  rw [h.adjustments.length_eq, h.settlements.length_eq, h.impossibleAdjustments.length_eq]
  split
  · rfl
  split <;> rfl

end Reordering

/-! ## What remains: the bank check -/

/-- The reasons of the bank check, which no other check gives. -/
def bankReasons : List ResidualReason :=
  [.missingBankCredit, .bankCreditAmountMismatch, .bankCreditTimingOutsideWindow]

/-- A check that fails says why. -/
def ReconciliationCheck.Reasoned (c : ReconciliationCheck) : Prop :=
  c.status = .fail → c.reason ≠ none

@[simp] theorem reasoned_pass (name : String) (ids : List String) (detail : Option String) :
    (pass name ids detail).Reasoned := by
  intro h
  cases h

@[simp] theorem reasoned_fail (name : String) (reason : ResidualReason)
    (expected observed detail : Option String) (ids : List String) :
    (fail name reason expected observed detail ids).Reasoned := by
  intro _ h
  cases h

theorem reasoned_matchCredits (unit : ReconciliationUnit) (settlements : List SettlementRecord) :
    ∀ credited, (matchCredits unit settlements credited).Reasoned := by
  induction settlements with
  | nil =>
      intro credited
      exact reasoned_pass _ _ _
  | cons s rest ih =>
      intro credited
      rw [matchCredits]
      split
      · exact reasoned_fail _ _ _ _ _ _
      split
      · exact reasoned_fail _ _ _ _ _ _
      split
      · exact reasoned_fail _ _ _ _ _ _
      · exact ih _

theorem reasoned_of_mem {unit : ReconciliationUnit} {c : ReconciliationCheck}
    (hc : c ∈ checksOf unit) : c.Reasoned := by
  simp only [checksOf, List.mem_cons, List.not_mem_nil, or_false] at hc
  rcases hc with rfl | rfl | rfl | rfl | rfl | rfl | rfl | rfl | rfl | rfl
  · unfold checkCurrencyConsistency
    dsimp only
    split <;> simp
  · unfold checkLifecycleConsistency
    dsimp only
    split
    · simp
    split
    · simp
    split
    · split <;> simp
    · simp
  · unfold checkNoDuplicates
    split <;> simp
  · unfold checkFeeAgainstSchedule
    dsimp only
    split
    · simp
    split
    · simp
    split
    · simp
    split
    · simp
    split <;> simp
  · unfold checkSettlementPresence
    dsimp only
    split
    · simp
    split <;> simp
  · unfold checkAmountConservation
    dsimp only
    split
    · simp
    split
    · simp
    split
    · simp
    split <;> simp
  · unfold checkSettlementTiming
    dsimp only
    split
    · simp
    split
    · simp
    split <;> simp
  · unfold checkRefundNettingWindow
    dsimp only
    split <;> simp
  · unfold checkAdjustmentTiming
    dsimp only
    split
    · simp
    split <;> simp
  · unfold checkBankCredit
    dsimp only
    split
    · simp
    · exact reasoned_matchCredits _ _ _

/-- A unit reconciles when no reason is given. -/
theorem reconciled_iff_no_reason {unit : ReconciliationUnit} :
    (reconcileUnit unit).outcome = .reconciled ↔ ∀ r, r ∉ (reconcileUnit unit).reasons := by
  constructor
  · intro h r hr
    obtain ⟨c, hc, hfail⟩ := mem_reasons_iff.1 hr
    rw [failure_eq_none_of_reconciled h hc] at hfail
    cases hfail
  · intro hno
    refine reconciled_iff.2 fun c hc hstatus => ?_
    obtain ⟨r, hr⟩ := Option.ne_none_iff_exists'.1 (reasoned_of_mem hc hstatus)
    have hfail : c.failure = some r := by
      rw [ReconciliationCheck.failure, if_pos hstatus, hr]
    exact hno r (mem_reasons_iff.2 ⟨c, hc, hfail⟩)

/-- The other nine checks. -/
def unorderedChecks (unit : ReconciliationUnit) : List ReconciliationCheck :=
  [ checkCurrencyConsistency unit,
    checkLifecycleConsistency unit,
    checkNoDuplicates unit,
    checkFeeAgainstSchedule unit,
    checkSettlementPresence unit,
    (checkAmountConservation unit (breakdownFor unit)).check,
    checkSettlementTiming unit,
    checkRefundNettingWindow unit,
    checkAdjustmentTiming unit ]

theorem checksOf_eq (unit : ReconciliationUnit) :
    checksOf unit = unorderedChecks unit ++ [checkBankCredit unit] := rfl

/-- What the other nine checks report does not depend on the order. -/
theorem Reordering.unordered {unit unit' : ReconciliationUnit} (h : Reordering unit unit') :
    (unorderedChecks unit').map (·.failure) = (unorderedChecks unit).map (·.failure) := by
  simp only [unorderedChecks, List.map_cons, List.map_nil, h.currencyConsistency,
    h.lifecycleConsistency, h.noDuplicates, h.feeAgainstSchedule, h.settlementPresence,
    h.amountConservation.2, h.settlementTiming, h.refundNettingWindow, h.adjustmentTiming]

theorem bankFailure_bankReason {unit : ReconciliationUnit} {r : ResidualReason}
    (h : (checkBankCredit unit).failure = some r) : r ∈ bankReasons := by
  have hmem := checkBankCredit_failure_mem unit
  simpa [h, bankReasons] using hmem

/-- A reason of the bank check is given exactly when the bank check gives it. -/
theorem bankReason_mem_iff {unit : ReconciliationUnit} {r : ResidualReason}
    (hr : r ∈ bankReasons) :
    r ∈ (reconcileUnit unit).reasons ↔ (checkBankCredit unit).failure = some r := by
  refine reason_mem_iff_of_only (by simp [checksOf]) ?_
  simp only [bankReasons, List.mem_cons, List.not_mem_nil, or_false] at hr
  rcases hr with rfl | rfl | rfl <;> simp [reasonsOfChecks]

/-- **Only the bank check can tell two orders apart.** -/
theorem sameVerdict_iff_bank {unit unit' : ReconciliationUnit} (h : Reordering unit unit') :
    SameVerdict unit unit' ↔
      (checkBankCredit unit').failure = (checkBankCredit unit).failure := by
  constructor
  · intro hsame
    refine Option.ext fun r => ?_
    constructor
    · intro hr
      have hbank := bankFailure_bankReason hr
      exact (bankReason_mem_iff hbank).1 ((hsame.reasons r).1 ((bankReason_mem_iff hbank).2 hr))
    · intro hr
      have hbank := bankFailure_bankReason hr
      exact (bankReason_mem_iff hbank).1 ((hsame.reasons r).2 ((bankReason_mem_iff hbank).2 hr))
  · intro hbank
    have hreasons : ∀ r, r ∈ (reconcileUnit unit').reasons ↔ r ∈ (reconcileUnit unit).reasons := by
      have hfailures : (checksOf unit').map (·.failure) = (checksOf unit).map (·.failure) := by
        rw [checksOf_eq, checksOf_eq, List.map_append, List.map_append, h.unordered]
        simp only [List.map_cons, List.map_nil, hbank]
      intro r
      rw [mem_reasons_iff, mem_reasons_iff]
      have hmem : some r ∈ (checksOf unit').map (·.failure) ↔
          some r ∈ (checksOf unit).map (·.failure) := by rw [hfailures]
      simpa only [List.mem_map] using hmem
    refine ⟨?_, hreasons, h.amountConservation.1⟩
    have hiff : (reconcileUnit unit').outcome = .reconciled ↔
        (reconcileUnit unit).outcome = .reconciled := by
      simp only [reconciled_iff_no_reason, hreasons]
    cases ho : (reconcileUnit unit).outcome with
    | reconciled => exact hiff.2 ho
    | exception =>
        cases ho' : (reconcileUnit unit').outcome with
        | exception => rfl
        | reconciled =>
            rw [hiff.1 ho'] at ho
            cases ho

/-! ## One leg and one credit -/

/-- What is wrong with a settlement if this is the credit it is matched with. -/
def pairDefect (s : SettlementRecord) (credit : BankCreditRecord) : Option ResidualReason :=
  if !creditAgrees credit.amount s.netAmount then some .bankCreditAmountMismatch
  else if !bankCreditWithinExpectedLag s.settlementAt credit.creditedAt then
    some .bankCreditTimingOutsideWindow
  else none

theorem legDefect_of_none {unit : ReconciliationUnit} {s : SettlementRecord}
    (h : unit.creditFor s = none) : unit.legDefect s = some .missingBankCredit := by
  unfold ReconciliationUnit.legDefect
  rw [h]

theorem legDefect_of_some {unit : ReconciliationUnit} {s : SettlementRecord}
    {credit : BankCreditRecord} (h : unit.creditFor s = some credit) :
    unit.legDefect s = pairDefect s credit := by
  unfold ReconciliationUnit.legDefect
  rw [h]
  rfl

/-! ## The units whose verdict no order changes -/

namespace ReconciliationUnit

/-- What may be found wrong with a settlement, in one order of the credits or another. -/
def PossibleDefect (unit : ReconciliationUnit) (s : SettlementRecord) (r : ResidualReason) :
    Prop :=
  (unit.creditFor s = none ∧ r = .missingBankCredit) ∨
    ∃ b ∈ unit.bankCredits, some b.utr = s.utr ∧ pairDefect s b = some r

/-- Whichever credit of its UTR a settlement is matched with, nothing is wrong; or one and the
same thing is, and some UTR has no credit that suits all its settlements. -/
def OrderFree (unit : ReconciliationUnit) : Prop :=
  (∀ s ∈ unit.utrSettlements, ∀ r, ¬ unit.PossibleDefect s r) ∨
    ∃ r, (∀ s ∈ unit.utrSettlements, ∀ r', unit.PossibleDefect s r' → r' = r) ∧
      ∃ s ∈ unit.utrSettlements, ∀ b ∈ unit.bankCredits, some b.utr = s.utr →
        ∃ t ∈ unit.utrSettlements, t.utr = s.utr ∧ pairDefect t b ≠ none

end ReconciliationUnit

section Orders

variable {unit unit' : ReconciliationUnit}

theorem Reordering.creditFor_eq_none (h : Reordering unit unit') {s : SettlementRecord} :
    unit'.creditFor s = none ↔ unit.creditFor s = none := by
  unfold ReconciliationUnit.creditFor
  rw [List.find?_eq_none, List.find?_eq_none]
  exact ⟨fun hall b hb => hall b (h.bankCredits.mem_iff.2 hb),
    fun hall b hb => hall b (h.bankCredits.mem_iff.1 hb)⟩

/-- What is found in one order was possible. -/
theorem Reordering.possible (h : Reordering unit unit') {s : SettlementRecord}
    {r : ResidualReason} (hr : unit'.legDefect s = some r) : unit.PossibleDefect s r := by
  cases hcredit : unit'.creditFor s with
  | none =>
      rw [legDefect_of_none hcredit] at hr
      cases hr
      exact .inl ⟨h.creditFor_eq_none.1 hcredit, rfl⟩
  | some b =>
      rw [legDefect_of_some hcredit] at hr
      obtain ⟨hb, hutr⟩ := mem_of_creditFor hcredit
      exact .inr ⟨b, h.bankCredits.mem_iff.1 hb, hutr, hr⟩

/-- The unit with its settlements and its bank credits in other orders. -/
theorem reordering_of_perm {settlements : List SettlementRecord}
    {bankCredits : List BankCreditRecord} (hs : settlements.Perm unit.settlements)
    (hb : bankCredits.Perm unit.bankCredits) :
    Reordering unit { unit with settlements, bankCredits } where
  payment := rfl
  fees := .refl _
  taxes := .refl _
  refunds := .refl _
  adjustments := .refl _
  settlements := hs
  settlementLines := .refl _
  bankCredits := hb
  duplicates := .refl _

/-- What is possible is found in some order: the settlement first, and its credit first. -/
theorem exists_reordering_of_possible {s : SettlementRecord} (hs : s ∈ unit.utrSettlements)
    {r : ResidualReason} (hr : unit.PossibleDefect s r) :
    ∃ unit', Reordering unit unit' ∧ (checkBankCredit unit').failure = some r := by
  obtain ⟨hmem, hutr⟩ := List.mem_filter.1 hs
  obtain ⟨rest, hrest⟩ := Relational.exists_perm_cons hmem
  obtain ⟨credits, hcredits, hfound⟩ : ∃ credits : List BankCreditRecord,
      credits.Perm unit.bankCredits ∧
        ReconciliationUnit.legDefect
          { unit with settlements := s :: rest, bankCredits := credits } s = some r := by
    rcases hr with ⟨hnone, rfl⟩ | ⟨b, hb, hbutr, hdefect⟩
    · exact ⟨unit.bankCredits, .refl _, legDefect_of_none hnone⟩
    · obtain ⟨credits, hperm, hfind⟩ := Relational.exists_perm_find?
        (p := fun b => some b.utr == s.utr) hb (by simpa using hbutr)
      refine ⟨credits, hperm, ?_⟩
      rw [← hdefect]
      exact legDefect_of_some hfind
  refine ⟨_, reordering_of_perm hrest hcredits, ?_⟩
  have hutrs : ReconciliationUnit.utrSettlements
      { unit with settlements := s :: rest, bankCredits := credits } =
      s :: rest.filter (fun s => s.utr != none) := List.filter_cons_of_pos hutr
  rw [checkBankCredit_failure, hutrs, List.findSome?_cons, hfound]

/-- A credit for every UTR that suits all its settlements is, in some order, the first. -/
theorem exists_reordering_of_suited (h : ∀ s ∈ unit.utrSettlements, ∃ b ∈ unit.bankCredits,
      some b.utr = s.utr ∧ ∀ t ∈ unit.utrSettlements, t.utr = s.utr → pairDefect t b = none) :
    ∃ unit', Reordering unit unit' ∧ (checkBankCredit unit').failure = none := by
  classical
  by_cases hnone : unit.utrSettlements = []
  · refine ⟨unit, reordering_of_perm (.refl _) (.refl _), ?_⟩
    rw [checkBankCredit_failure, hnone]
    rfl
  obtain ⟨s₀, hs₀⟩ := List.exists_mem_of_ne_nil _ hnone
  obtain ⟨b₀, -⟩ := h s₀ hs₀
  -- the credit chosen for a UTR
  have hchoice : ∀ utr : Option String, ∃ b : BankCreditRecord,
      (∃ s ∈ unit.utrSettlements, s.utr = utr) → b ∈ unit.bankCredits ∧ some b.utr = utr ∧
        ∀ t ∈ unit.utrSettlements, t.utr = utr → pairDefect t b = none := by
    intro utr
    by_cases hany : ∃ s ∈ unit.utrSettlements, s.utr = utr
    · obtain ⟨s, hs, rfl⟩ := hany
      obtain ⟨b, hb, hutr, hall⟩ := h s hs
      exact ⟨b, fun _ => ⟨hb, hutr, hall⟩⟩
    · exact ⟨b₀, fun hs => absurd hs hany⟩
  choose pick hpick using hchoice
  obtain ⟨credits, hperm, hfirst⟩ :=
    Relational.exists_perm_choice (fun b : BankCreditRecord => some b.utr) pick unit.bankCredits
  refine ⟨_, reordering_of_perm (.refl _) hperm, ?_⟩
  rw [checkBankCredit_failure, List.findSome?_eq_none_iff]
  intro s hs
  obtain ⟨hb, hutr, hall⟩ := hpick s.utr ⟨s, hs, rfl⟩
  have hfound : ReconciliationUnit.creditFor { unit with bankCredits := credits } s =
      some (pick s.utr) := hfirst s.utr hb hutr
  rw [legDefect_of_some hfound]
  exact hall s hs rfl

/-- Where nothing can be wrong, the bank check passes in every order. -/
theorem Reordering.passes (h : Reordering unit unit')
    (hnone : ∀ s ∈ unit.utrSettlements, ∀ r, ¬ unit.PossibleDefect s r) :
    (checkBankCredit unit').failure = none := by
  rw [checkBankCredit_failure, List.findSome?_eq_none_iff]
  intro s hs
  cases hr : unit'.legDefect s with
  | none => rfl
  | some r => exact absurd (h.possible hr) (hnone s (h.utrSettlements.mem_iff.1 hs) r)

/-- Where one thing only can be wrong, and no credit suits some UTR, it is reported in every
order. -/
theorem Reordering.fails (h : Reordering unit unit') {r : ResidualReason}
    (honly : ∀ s ∈ unit.utrSettlements, ∀ r', unit.PossibleDefect s r' → r' = r)
    (hnever : ∃ s ∈ unit.utrSettlements, ∀ b ∈ unit.bankCredits, some b.utr = s.utr →
      ∃ t ∈ unit.utrSettlements, t.utr = s.utr ∧ pairDefect t b ≠ none) :
    (checkBankCredit unit').failure = some r := by
  rw [checkBankCredit_failure]
  have hsome : unit'.utrSettlements.findSome? unit'.legDefect ≠ none := by
    rw [ne_eq, List.findSome?_eq_none_iff]
    intro hall
    obtain ⟨s, hs, hunsuited⟩ := hnever
    cases hcredit : unit'.creditFor s with
    | none =>
        have hfine := hall s (h.utrSettlements.mem_iff.2 hs)
        rw [legDefect_of_none hcredit] at hfine
        cases hfine
    | some b =>
        obtain ⟨hb, hutr⟩ := mem_of_creditFor hcredit
        obtain ⟨t, ht, htutr, hdefect⟩ := hunsuited b (h.bankCredits.mem_iff.1 hb) hutr
        have hsame : unit'.creditFor t = some b := by
          rw [← hcredit]
          unfold ReconciliationUnit.creditFor
          rw [htutr]
        have hfine := hall t (h.utrSettlements.mem_iff.2 ht)
        rw [legDefect_of_some hsame] at hfine
        exact hdefect hfine
  obtain ⟨r', hr'⟩ := Option.ne_none_iff_exists'.1 hsome
  obtain ⟨s, hs, hdefect⟩ := List.exists_of_findSome?_eq_some hr'
  rw [hr', honly s (h.utrSettlements.mem_iff.1 hs) r' (h.possible hdefect)]

end Orders

/-- **Order independence.**  Every order of a unit's records has the same verdict exactly when
the credits of each UTR are interchangeable to the bank check, or when it fails in every order
for one reason. -/
theorem order_independent_iff (unit : ReconciliationUnit) :
    (∀ unit', Reordering unit unit' → SameVerdict unit unit') ↔ unit.OrderFree := by
  constructor
  · intro hall
    have hbank : ∀ unit', Reordering unit unit' →
        (checkBankCredit unit').failure = (checkBankCredit unit).failure :=
      fun unit' h => (sameVerdict_iff_bank h).1 (hall unit' h)
    cases hfail : (checkBankCredit unit).failure with
    | none =>
        refine .inl fun s hs r hr => ?_
        obtain ⟨unit', h, hfound⟩ := exists_reordering_of_possible hs hr
        rw [hbank unit' h, hfail] at hfound
        cases hfound
    | some r =>
        refine .inr ⟨r, fun s hs r' hr' => ?_, ?_⟩
        · obtain ⟨unit', h, hfound⟩ := exists_reordering_of_possible hs hr'
          rw [hbank unit' h, hfail, Option.some.injEq] at hfound
          exact hfound.symm
        · by_contra hsuited
          push Not at hsuited
          obtain ⟨unit', h, hpasses⟩ := exists_reordering_of_suited hsuited
          rw [hbank unit' h, hfail] at hpasses
          cases hpasses
  · intro hfree unit' h
    rw [sameVerdict_iff_bank h]
    have hself : Reordering unit unit := reordering_of_perm (.refl _) (.refl _)
    rcases hfree with hnone | ⟨r, honly, hnever⟩
    · rw [h.passes hnone, hself.passes hnone]
    · rw [h.fails honly hnever, hself.fails honly hnever]

/-- The sample unit with a second credit of its UTR, of another amount. -/
def twiceCreditedUnit : ReconciliationUnit :=
  { sampleUnit with
    bankCredits := sampleUnit.bankCredits ++ sampleUnit.bankCredits.map fun b =>
      { b with id := "credit-2", amount := ⟨970_400, "INR"⟩ } }

/-- With the credits of `twiceCreditedUnit` the other way round, a reconciled payment is an
exception. -/
theorem twiceCreditedUnit_depends :
    Reordering twiceCreditedUnit
        { twiceCreditedUnit with bankCredits := twiceCreditedUnit.bankCredits.reverse } ∧
      (reconcileUnit twiceCreditedUnit).outcome = .reconciled ∧
      (reconcileUnit { twiceCreditedUnit with
        bankCredits := twiceCreditedUnit.bankCredits.reverse }).outcome = .exception :=
  ⟨reordering_of_perm (.refl _) (List.reverse_perm _), by decide, by decide⟩

end SettlementOps
