import SettlementOps.Reconciliation.DuplicateDetection

/-!
# The reconciliation unit and its expected net

* `ReconciliationUnit` — one payment with every record that bears on its settlement.
* `expectedNetFromRecords` — the one financial calculation of the system.
* `expectedNetFromRecords_ok_iff` — it succeeds exactly when every amount is in the
  currency of the gross amount and no total but the adjustments' is negative, and the
  expected net is then the signed total.
-/

namespace SettlementOps

structure ReconciliationUnit where
  payment : PaymentRecord
  fees : List FeeLineRecord
  taxes : List TaxLineRecord
  refunds : List RefundRecord
  adjustments : List AdjustmentRecord
  settlements : List SettlementRecord
  settlementLines : List SettlementLineRecord
  bankCredits : List BankCreditRecord
  duplicates : List DuplicateGroup
  deriving DecidableEq, Repr

structure ExpectedNetInput where
  gross : Money
  fees : List Money
  taxes : List Money
  refunds : List Money
  adjustments : List Money
  deriving DecidableEq, Repr

inductive ExpectedNetError
  | currencyInconsistent
  | negativeComponent (component : String)
  deriving DecidableEq, Repr

/-- The code an error is reported as. -/
def ExpectedNetError.kind : ExpectedNetError → String
  | .currencyInconsistent => "CURRENCY_INCONSISTENT"
  | .negativeComponent _ => "NEGATIVE_COMPONENT"

/-- The total of amounts that must all be in `currency`; nothing adds up to zero. -/
def totalOf (values : List Money) (currency : Currency) : Except ExpectedNetError Money :=
  if values.length = 0 then .ok (Money.zero currency)
  else
    match Money.sum values with
    | .error _ => .error .currencyInconsistent
    | .ok total =>
        if total.currency ≠ currency then .error .currencyInconsistent else .ok total

/-- Expected net from observed records.  No rate is assumed; the records are summed. -/
def expectedNetFromRecords (input : ExpectedNetInput) :
    Except ExpectedNetError AmountBreakdown := do
  let currency := input.gross.currency
  let fee ← totalOf input.fees currency
  let tax ← totalOf input.taxes currency
  let refund ← totalOf input.refunds currency
  let adjustment ← totalOf input.adjustments currency
  match buildBreakdown ⟨input.gross, fee, tax, refund, adjustment⟩ with
  | .error e => .error (.negativeComponent e.kind)
  | .ok b => .ok b

/-- The amounts of a unit the expected net is computed from. -/
def ReconciliationUnit.expectedNetInput (unit : ReconciliationUnit) : ExpectedNetInput where
  gross := unit.payment.amount
  fees := unit.fees.map (·.amount)
  taxes := unit.taxes.map (·.amount)
  refunds := unit.refunds.map (·.amount)
  adjustments := unit.adjustments.map (·.amount)

/-- Every amount of an input that is added to or taken from the gross amount. -/
def ExpectedNetInput.parts (input : ExpectedNetInput) : List Money :=
  input.fees ++ input.taxes ++ input.refunds ++ input.adjustments

/-- The signed total `gross - fees - taxes - refunds + adjustments`. -/
def ExpectedNetInput.net (input : ExpectedNetInput) : Int :=
  input.gross.amountMinor - Money.total input.fees - Money.total input.taxes -
    Money.total input.refunds + Money.total input.adjustments

/-- **A total exists in one currency only**, and is then the sum of the amounts. -/
theorem totalOf_ok_iff {values : List Money} {c : Currency} {m : Money} :
    totalOf values c = .ok m ↔
      (∀ x ∈ values, x.currency = c) ∧ m = ⟨Money.total values, c⟩ := by
  unfold totalOf
  by_cases hnil : values = []
  · subst hnil
    simp only [List.length_nil, if_true, List.not_mem_nil, false_implies, implies_true,
      true_and, Money.total_nil]
    exact ⟨fun h => (Except.ok.inj h).symm, fun h => by rw [h]; rfl⟩
  · rw [if_neg (by simpa using hnil)]
    cases hsum : Money.sum values with
    | error e =>
        constructor
        · intro h
          cases h
        · rintro ⟨hall, -⟩
          rw [Money.sum_of_currency hnil hall] at hsum
          cases hsum
    | ok total =>
        obtain ⟨-, hcur, htot⟩ := Money.sum_ok_iff.1 hsum
        by_cases hc : total.currency = c
        · simp only [ne_eq, hc, not_true_eq_false, if_false]
          constructor
          · intro h
            cases h
            refine ⟨fun x hx => (hcur x hx).trans hc, ?_⟩
            rw [← htot, ← hc]
          · rintro ⟨-, rfl⟩
            rw [← htot, ← hc]
        · simp only [ne_eq, hc, not_false_eq_true, if_true]
          constructor
          · intro h
            cases h
          · rintro ⟨hall, -⟩
            obtain ⟨x, hx⟩ := List.exists_mem_of_ne_nil _ hnil
            exact absurd ((hcur x hx).symm.trans (hall x hx)) hc

/-- The amounts the calculation accepts: one currency, and totals of the right sign. -/
structure ExpectedNetInput.Sound (input : ExpectedNetInput) : Prop where
  currency : ∀ x ∈ input.parts, x.currency = input.gross.currency
  gross : 0 ≤ input.gross.amountMinor
  fees : 0 ≤ Money.total input.fees
  taxes : 0 ≤ Money.total input.taxes
  refunds : 0 ≤ Money.total input.refunds

theorem ExpectedNetInput.forall_parts {input : ExpectedNetInput} {p : Money → Prop} :
    (∀ x ∈ input.parts, p x) ↔
      (∀ x ∈ input.fees, p x) ∧ (∀ x ∈ input.taxes, p x) ∧ (∀ x ∈ input.refunds, p x) ∧
        ∀ x ∈ input.adjustments, p x := by
  simp only [parts, List.mem_append, or_imp, forall_and, and_assoc]

/-- What the calculation does once all four totals exist. -/
theorem expectedNetFromRecords_of_currency {input : ExpectedNetInput}
    (h : ∀ x ∈ input.parts, x.currency = input.gross.currency) :
    expectedNetFromRecords input =
      match buildBreakdown ⟨input.gross, ⟨Money.total input.fees, input.gross.currency⟩,
        ⟨Money.total input.taxes, input.gross.currency⟩,
        ⟨Money.total input.refunds, input.gross.currency⟩,
        ⟨Money.total input.adjustments, input.gross.currency⟩⟩ with
      | .error e => .error (.negativeComponent e.kind)
      | .ok b => .ok b := by
  obtain ⟨hf, ht, hr, ha⟩ := ExpectedNetInput.forall_parts.1 h
  dsimp only [expectedNetFromRecords]
  rw [totalOf_ok_iff.2 ⟨hf, rfl⟩, totalOf_ok_iff.2 ⟨ht, rfl⟩, totalOf_ok_iff.2 ⟨hr, rfl⟩,
    totalOf_ok_iff.2 ⟨ha, rfl⟩]
  rfl

/-- A calculation that succeeds saw one currency only. -/
theorem currency_of_expectedNetFromRecords {input : ExpectedNetInput} {b : AmountBreakdown}
    (h : expectedNetFromRecords input = .ok b) :
    ∀ x ∈ input.parts, x.currency = input.gross.currency := by
  dsimp only [expectedNetFromRecords] at h
  obtain ⟨fee, hf, h⟩ := bind_eq_ok_iff.1 h
  obtain ⟨tax, ht, h⟩ := bind_eq_ok_iff.1 h
  obtain ⟨refund, hr, h⟩ := bind_eq_ok_iff.1 h
  obtain ⟨adjustment, ha, -⟩ := bind_eq_ok_iff.1 h
  exact ExpectedNetInput.forall_parts.2 ⟨(totalOf_ok_iff.1 hf).1, (totalOf_ok_iff.1 ht).1,
    (totalOf_ok_iff.1 hr).1, (totalOf_ok_iff.1 ha).1⟩

/-- **When the expected net exists, and what it is.** -/
theorem expectedNetFromRecords_ok_iff {input : ExpectedNetInput} :
    (∃ b, expectedNetFromRecords input = .ok b) ↔ input.Sound := by
  constructor
  · rintro ⟨b, h⟩
    have hcur := currency_of_expectedNetFromRecords h
    rw [expectedNetFromRecords_of_currency hcur] at h
    split at h
    · cases h
    · rename_i b' hb
      obtain ⟨hg, hf, ht, hr⟩ := buildBreakdown_ok_iff.1 ⟨b', hb⟩
      exact ⟨hcur, hg, hf, ht, hr⟩
  · rintro ⟨hcur, hg, hf, ht, hr⟩
    rw [expectedNetFromRecords_of_currency hcur]
    have hbuilt : ∃ b, buildBreakdown ⟨input.gross,
        ⟨Money.total input.fees, input.gross.currency⟩,
        ⟨Money.total input.taxes, input.gross.currency⟩,
        ⟨Money.total input.refunds, input.gross.currency⟩,
        ⟨Money.total input.adjustments, input.gross.currency⟩⟩ = .ok b :=
      buildBreakdown_ok_iff.2 ⟨hg, hf, ht, hr⟩
    obtain ⟨b, hb⟩ := hbuilt
    exact ⟨b, by rw [hb]⟩

/-- The expected net is the signed total. -/
theorem expectedNet_eq_net {input : ExpectedNetInput} {b : AmountBreakdown}
    (h : expectedNetFromRecords input = .ok b) : b.expectedNetMinor = input.net := by
  rw [expectedNetFromRecords_of_currency (currency_of_expectedNetFromRecords h)] at h
  split at h
  · cases h
  · rename_i b' hb
    cases h
    exact buildBreakdown_expectedNet hb

/-- The calculation either succeeds or names its error. -/
theorem expectedNetFromRecords_error_of_not_sound {input : ExpectedNetInput}
    (h : ¬ input.Sound) : ∃ e, expectedNetFromRecords input = .error e := by
  cases hr : expectedNetFromRecords input with
  | error e => exact ⟨e, rfl⟩
  | ok b => exact absurd (expectedNetFromRecords_ok_iff.1 ⟨b, hr⟩) h

end SettlementOps
