import Mathlib.Algebra.BigOperators.Group.List.Basic
import Mathlib.Algebra.Ring.Int.Defs

/-!
# Money: integer minor units with a currency

Amounts are integers of minor units and never mix currencies: every operation on two
amounts checks that their currencies agree.

* `add`, `subtract`, `sum` — the checked operations.
* `sum_ok_iff` — `sum` succeeds exactly on a nonempty list in one currency, and is
  then the total.
* `buildBreakdown` — the canonical calculation
  `expected net = gross - fee - tax - refund + adjustment`.

A currency is the code a record carries.  The supported codes are a list, but a stored
code reaches this arithmetic by a cast, so nothing here assumes a supported one.
-/

namespace SettlementOps

/-- A sequence of two fallible steps succeeds when both do. -/
theorem bind_eq_ok_iff {ε α β : Type} {x : Except ε α} {f : α → Except ε β} {b : β} :
    (x >>= f) = .ok b ↔ ∃ a, x = .ok a ∧ f a = .ok b := by
  cases x with
  | error e =>
      constructor
      · intro h
        cases h
      · rintro ⟨a, h, -⟩
        cases h
  | ok a =>
      constructor
      · exact fun h => ⟨a, rfl, h⟩
      · rintro ⟨a', h, hf⟩
        cases h
        exact hf

/-- A currency code. -/
abbrev Currency := String

def SUPPORTED_CURRENCIES : List Currency := ["INR"]

def isCurrency (value : String) : Bool := SUPPORTED_CURRENCIES.contains value

/-- An amount in minor units of a currency. -/
structure Money where
  amountMinor : Int
  currency : Currency
  deriving DecidableEq, Repr

inductive MoneyError
  | currencyMismatch (left right : Currency)
  | notAnInteger (value : String)
  | emptySum
  deriving DecidableEq, Repr

namespace Money

def zero (currency : Currency) : Money := ⟨0, currency⟩

def sameCurrency (a b : Money) : Except MoneyError Unit :=
  if a.currency = b.currency then .ok () else .error (.currencyMismatch a.currency b.currency)

def add (a b : Money) : Except MoneyError Money := do
  sameCurrency a b
  return ⟨a.amountMinor + b.amountMinor, a.currency⟩

def subtract (a b : Money) : Except MoneyError Money := do
  sameCurrency a b
  return ⟨a.amountMinor - b.amountMinor, a.currency⟩

/-- Amounts are equal when both the currency and the minor units are. -/
def equals (a b : Money) : Bool := a.currency == b.currency && a.amountMinor == b.amountMinor

/-- The sum of a nonempty list in one currency. -/
def sum : List Money → Except MoneyError Money
  | [] => .error .emptySum
  | head :: rest => rest.foldlM add head

/-- The minor units of a list added up, whatever the currencies. -/
def total (values : List Money) : Int := (values.map amountMinor).sum

@[simp] theorem zero_amountMinor (c : Currency) : (zero c).amountMinor = 0 := rfl
@[simp] theorem zero_currency (c : Currency) : (zero c).currency = c := rfl
@[simp] theorem total_nil : total [] = 0 := rfl
@[simp] theorem total_cons (m : Money) (ms : List Money) :
    total (m :: ms) = m.amountMinor + total ms := by
  simp [total]

/-! ## Checked addition and subtraction -/

theorem add_of_currency_eq {a b : Money} (h : a.currency = b.currency) :
    add a b = .ok ⟨a.amountMinor + b.amountMinor, a.currency⟩ := by
  simp only [add, sameCurrency, if_pos h]
  rfl

theorem add_of_currency_ne {a b : Money} (h : a.currency ≠ b.currency) :
    add a b = .error (.currencyMismatch a.currency b.currency) := by
  simp only [add, sameCurrency, if_neg h]
  rfl

theorem subtract_of_currency_eq {a b : Money} (h : a.currency = b.currency) :
    subtract a b = .ok ⟨a.amountMinor - b.amountMinor, a.currency⟩ := by
  simp only [subtract, sameCurrency, if_pos h]
  rfl

theorem subtract_of_currency_ne {a b : Money} (h : a.currency ≠ b.currency) :
    subtract a b = .error (.currencyMismatch a.currency b.currency) := by
  simp only [subtract, sameCurrency, if_neg h]
  rfl

/-! ## Sums -/

theorem foldlM_add_ok_iff (rest : List Money) :
    ∀ (acc m : Money), rest.foldlM add acc = .ok m ↔
      (∀ x ∈ rest, x.currency = acc.currency) ∧
        m = ⟨acc.amountMinor + total rest, acc.currency⟩ := by
  induction rest with
  | nil =>
      intro acc m
      simp only [List.foldlM_nil, List.not_mem_nil, false_implies, implies_true, true_and,
        total_nil, add_zero]
      exact ⟨fun h => (Except.ok.inj h).symm, fun h => by rw [h]; rfl⟩
  | cons x rest ih =>
      intro acc m
      rw [List.foldlM_cons]
      by_cases hx : acc.currency = x.currency
      · rw [add_of_currency_eq hx]
        change rest.foldlM add ⟨acc.amountMinor + x.amountMinor, acc.currency⟩ = .ok m ↔ _
        rw [ih, List.forall_mem_cons, total_cons, ← add_assoc]
        simp [hx.symm]
      · rw [add_of_currency_ne hx]
        constructor
        · intro h
          cases h
        · rintro ⟨hall, -⟩
          exact absurd (hall x List.mem_cons_self).symm hx

/-- **A sum is a total in one currency.**  It fails on the empty list and as soon as
two currencies meet. -/
theorem sum_ok_iff {values : List Money} {m : Money} :
    sum values = .ok m ↔
      values ≠ [] ∧ (∀ x ∈ values, x.currency = m.currency) ∧ m.amountMinor = total values := by
  cases values with
  | nil => simp [sum]
  | cons head rest =>
      rw [sum, foldlM_add_ok_iff, List.forall_mem_cons, total_cons]
      constructor
      · rintro ⟨hall, rfl⟩
        exact ⟨by simp, ⟨rfl, hall⟩, rfl⟩
      · rintro ⟨-, ⟨hhead, hall⟩, hm⟩
        refine ⟨fun x hx => (hall x hx).trans hhead.symm, ?_⟩
        cases m
        simp_all

/-- A nonempty list in one currency has a sum. -/
theorem sum_of_currency {values : List Money} {c : Currency} (hne : values ≠ [])
    (hall : ∀ x ∈ values, x.currency = c) : sum values = .ok ⟨total values, c⟩ :=
  sum_ok_iff.2 ⟨hne, hall, rfl⟩

end Money

/-! ## The canonical financial calculation -/

structure AmountBreakdown where
  grossMinor : Int
  feeMinor : Int
  taxMinor : Int
  refundMinor : Int
  adjustmentMinor : Int
  expectedNetMinor : Int
  currency : Currency
  deriving DecidableEq, Repr

structure BreakdownInput where
  gross : Money
  fee : Money
  tax : Money
  refund : Money
  adjustment : Money
  deriving DecidableEq, Repr

inductive BreakdownError
  | negativeComponent (component : String) (value : String)
  | doesNotReconcile (computed declared : String)
  deriving DecidableEq, Repr

/-- The discriminating name of an error. -/
def BreakdownError.kind : BreakdownError → String
  | .negativeComponent .. => "NEGATIVE_COMPONENT"
  | .doesNotReconcile .. => "DOES_NOT_RECONCILE"

/-- The components that must not be negative, in the order they are checked. -/
def BreakdownInput.nonNegative (input : BreakdownInput) : List (String × Money) :=
  [("gross", input.gross), ("fee", input.fee), ("tax", input.tax), ("refund", input.refund)]

/-- Builds a breakdown and computes the expected net. -/
def buildBreakdown (input : BreakdownInput) : Except BreakdownError AmountBreakdown :=
  match input.nonNegative.find? (fun p => p.2.amountMinor < 0) with
  | some (key, component) => .error (.negativeComponent key (toString component.amountMinor))
  | none =>
      .ok {
        grossMinor := input.gross.amountMinor
        feeMinor := input.fee.amountMinor
        taxMinor := input.tax.amountMinor
        refundMinor := input.refund.amountMinor
        adjustmentMinor := input.adjustment.amountMinor
        expectedNetMinor := input.gross.amountMinor - input.fee.amountMinor -
          input.tax.amountMinor - input.refund.amountMinor + input.adjustment.amountMinor
        currency := input.gross.currency }

/-- The re-check of a breakdown against the sign convention. -/
def reconciles (b : AmountBreakdown) : Bool :=
  b.grossMinor - b.feeMinor - b.taxMinor - b.refundMinor + b.adjustmentMinor ==
    b.expectedNetMinor

/-- A breakdown is built exactly when gross, fee, tax and refund are not negative. -/
theorem buildBreakdown_ok_iff {input : BreakdownInput} :
    (∃ b, buildBreakdown input = .ok b) ↔
      0 ≤ input.gross.amountMinor ∧ 0 ≤ input.fee.amountMinor ∧
        0 ≤ input.tax.amountMinor ∧ 0 ≤ input.refund.amountMinor := by
  unfold buildBreakdown
  cases h : input.nonNegative.find? (fun p => p.2.amountMinor < 0) with
  | none =>
      have hall := List.find?_eq_none.1 h
      simpa [BreakdownInput.nonNegative] using hall
  | some p =>
      have hp := List.find?_some h
      have hmem := List.mem_of_find?_eq_some h
      simp only [BreakdownInput.nonNegative, List.mem_cons, List.not_mem_nil, or_false] at hmem
      simp only [decide_eq_true_eq] at hp
      rcases hmem with rfl | rfl | rfl | rfl <;> simp at hp ⊢ <;> omega

/-- **Every breakdown that is built reconciles.** -/
theorem buildBreakdown_reconciles {input : BreakdownInput} {b : AmountBreakdown}
    (h : buildBreakdown input = .ok b) : reconciles b = true := by
  unfold buildBreakdown at h
  split at h
  · cases h
  · cases h
    simp [reconciles]

/-- What a built breakdown says about its input. -/
theorem buildBreakdown_expectedNet {input : BreakdownInput} {b : AmountBreakdown}
    (h : buildBreakdown input = .ok b) :
    b.expectedNetMinor = input.gross.amountMinor - input.fee.amountMinor -
      input.tax.amountMinor - input.refund.amountMinor + input.adjustment.amountMinor := by
  unfold buildBreakdown at h
  split at h
  · cases h
  · cases h
    rfl

/-- The only way to be refused a breakdown is a negative component. -/
theorem buildBreakdown_error_kind {input : BreakdownInput} {e : BreakdownError}
    (h : buildBreakdown input = .error e) : e.kind = "NEGATIVE_COMPONENT" := by
  unfold buildBreakdown at h
  split at h
  · cases h
    rfl
  · cases h

end SettlementOps
