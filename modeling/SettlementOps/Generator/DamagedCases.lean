import Mathlib.Tactic.Ring
import SettlementOps.Generator.CaseVerdict
import SettlementOps.Generator.Plans

/-!
# What the causes of a case do to it

Each cause leaves its mark on the lifecycle, once or as often as it is named.

* `Damage` — the marks a list of causes leaves, with a lemma a cause.
* `applyTransforms_damage` — the transforms of a case leave these.
* `Emittable.priced` — no transform touches the payment, its fee or its tax.
-/

namespace SettlementOps.Generator

open Calendar Random

theorem daysBetween_plusDays (t : Date) (days : Int) :
    daysBetween (plusDays t days) t = days.natAbs := by
  rw [daysBetween, plusDays]
  dsimp only
  rw [add_sub_cancel_left, Int.mul_ediv_cancel _ (by decide)]

/-- Whether the fee records go missing. -/
def withholds (causes : List CauseCode) : Bool :=
  causes.contains .mdrFee || causes.contains .compound

/-- How late a settlement is for each time it is delayed. -/
def lagOf (input : TransformInput) : Int := (2 + input.variant % 4 : Nat)

/-- Every other refund settles within the netting window. -/
def netsInTime (input : TransformInput) : Bool := input.variant % 2 == 0

/-- What a list of causes makes of a lifecycle. -/
structure Damage (input : TransformInput) (causes : List CauseCode) (life out : Lifecycle) :
    Prop where
  refs : out.refs = life.refs
  grossMinor : out.grossMinor = life.grossMinor
  method : out.method = life.method
  capturedAt : out.capturedAt = life.capturedAt
  feeMinor : out.feeMinor = life.feeMinor
  taxMinor : out.taxMinor = life.taxMinor
  netMinor : out.netMinor = life.netMinor
  impossibleAdjustment : out.impossibleAdjustment = life.impossibleAdjustment
  feeRecordsPresent : out.feeRecordsPresent = (life.feeRecordsPresent && !withholds causes)
  split : out.split = (life.split || causes.contains .utrSplit)
  credited : (life.split = true → 24 < life.splitCreditLateHours) →
    out.split = true → 24 < out.splitCreditLateHours
  settledAt : out.settledAt =
    plusDays life.settledAt (causes.count .timingLag * lagOf input)
  unexplained : out.unexplainedMinor = life.unexplainedMinor +
    causes.count .roundingDrift * driftOf input +
    causes.count .ambiguous * varianceOf life.grossMinor input
  refund : out.refund.map (·.minor) =
    if .refundNetting ∈ causes then some (varianceOf life.grossMinor input)
    else life.refund.map (·.minor)
  refundWindow : (∀ r ∈ life.refund,
      daysBetween r.settledAt r.createdAt = if netsInTime input then 2 else 9) →
    ∀ r ∈ out.refund, daysBetween r.settledAt r.createdAt = if netsInTime input then 2 else 9

namespace Damage

variable {input : TransformInput} {causes : List CauseCode} {life out : Lifecycle}

theorem nil (input : TransformInput) (life : Lifecycle) : Damage input [] life life where
  refs := rfl
  grossMinor := rfl
  method := rfl
  capturedAt := rfl
  feeMinor := rfl
  taxMinor := rfl
  netMinor := rfl
  impossibleAdjustment := rfl
  feeRecordsPresent := by simp [withholds]
  split := by simp
  credited := id
  settledAt := by simp [plusDays]
  unexplained := by simp
  refund := by simp
  refundWindow := id

/-- The marks of two lists add up. -/
theorem trans {causes' : List CauseCode} {mid : Lifecycle} (h : Damage input causes life mid)
    (h' : Damage input causes' mid out) : Damage input (causes ++ causes') life out where
  refs := h'.refs.trans h.refs
  grossMinor := h'.grossMinor.trans h.grossMinor
  method := h'.method.trans h.method
  capturedAt := h'.capturedAt.trans h.capturedAt
  feeMinor := h'.feeMinor.trans h.feeMinor
  taxMinor := h'.taxMinor.trans h.taxMinor
  netMinor := h'.netMinor.trans h.netMinor
  impossibleAdjustment := h'.impossibleAdjustment.trans h.impossibleAdjustment
  feeRecordsPresent := by
    rw [h'.feeRecordsPresent, h.feeRecordsPresent, Bool.and_assoc, ← Bool.not_or]
    simp only [withholds, List.contains_append]
    ac_rfl
  split := by
    rw [h'.split, h.split]
    simp [Bool.or_assoc]
  credited := fun hlife => h'.credited (h.credited hlife)
  settledAt := by
    rw [h'.settledAt, h.settledAt, List.count_append]
    simp only [plusDays, Date.mk.injEq, Nat.cast_add]
    ring
  unexplained := by
    rw [h'.unexplained, h.unexplained, h.grossMinor, List.count_append, List.count_append]
    push_cast
    ring
  refund := by
    rw [h'.refund, h.refund, h.grossMinor]
    simp only [List.mem_append]
    by_cases h₁ : CauseCode.refundNetting ∈ causes <;>
      by_cases h₂ : CauseCode.refundNetting ∈ causes' <;> simp [h₁, h₂]
  refundWindow := fun hlife => h'.refundWindow (h.refundWindow hlife)

/-- What one transform makes of a lifecycle. -/
theorem single (c : CauseCode) (life : Lifecycle) (input : TransformInput) (r : Refs) :
    Damage input [c] life (TRANSFORMS c life input r).1 where
  refs := by cases c <;> rfl
  grossMinor := by cases c <;> rfl
  method := by cases c <;> rfl
  capturedAt := by cases c <;> rfl
  feeMinor := by cases c <;> rfl
  taxMinor := by cases c <;> rfl
  netMinor := by cases c <;> rfl
  impossibleAdjustment := by cases c <;> rfl
  feeRecordsPresent := by
    cases c <;> simp [TRANSFORMS, mdrFee, utrSplit, refundNetting, timingLag, roundingDrift,
      ambiguous, withholds]
  split := by
    cases c <;> simp [TRANSFORMS, mdrFee, utrSplit, refundNetting, timingLag, roundingDrift,
      ambiguous]
  credited := by
    intro hlife hsplit
    cases c with
    | utrSplit =>
        simp only [TRANSFORMS, utrSplit]
        omega
    | mdrFee | refundNetting | timingLag | roundingDrift | ambiguous | compound =>
        exact hlife hsplit
  settledAt := by
    cases c <;> simp [TRANSFORMS, mdrFee, utrSplit, refundNetting, timingLag, roundingDrift,
      ambiguous, plusDays, lagOf]
  unexplained := by
    cases c <;> simp [TRANSFORMS, mdrFee, utrSplit, refundNetting, timingLag, roundingDrift,
      ambiguous]
  refund := by
    cases c <;> simp [TRANSFORMS, mdrFee, utrSplit, refundNetting, timingLag, roundingDrift,
      ambiguous]
  refundWindow := by
    intro hlife
    cases c with
    | refundNetting =>
        simp only [TRANSFORMS, refundNetting, Option.mem_some_iff]
        rintro _ rfl
        dsimp only
        by_cases hinTime : netsInTime input = true
        · have heven : (input.variant % 2 == 0) = true := hinTime
          rw [if_pos heven, if_pos hinTime, daysBetween_plusDays]
          rfl
        · have hodd : ¬ (input.variant % 2 == 0) = true := hinTime
          rw [if_neg hodd, if_neg hinTime, daysBetween_plusDays]
          rfl
    | mdrFee | utrSplit | timingLag | roundingDrift | ambiguous | compound =>
        exact hlife

end Damage

/-- **The transforms of a case leave the marks of its causes.** -/
theorem applyTransforms_damage (input : TransformInput) (r : Refs) (causes : List CauseCode) :
    ∀ life, Damage input causes life
      (applyTransforms input r (causes.map TRANSFORMS) life).1 := by
  induction causes with
  | nil => exact Damage.nil input
  | cons c causes ih => exact fun life => (Damage.single c life input r).trans (ih _)

/-! ## Emitted lifecycles -/

theorem varianceOf_pos {grossMinor : Int} (h : 0 ≤ grossMinor) (input : TransformInput) :
    0 < varianceOf grossMinor input := by
  have hproduct : 0 ≤ grossMinor * (input.varianceScaleBps : Int) := by positivity
  have hquotient := Int.tdiv_nonneg hproduct (show (0 : Int) ≤ 10_000 by decide)
  unfold varianceOf
  omega

theorem Damage.priced {input : TransformInput} {causes : List CauseCode} {life out : Lifecycle}
    (h : Damage input causes life out) (hs : life.Priced) : out.Priced where
  gross := by
    rw [h.grossMinor]
    exact hs.gross
  fee := by
    rw [h.feeMinor, h.grossMinor, h.method, h.capturedAt]
    exact hs.fee
  tax := by
    rw [h.taxMinor, h.grossMinor, h.method, h.capturedAt]
    exact hs.tax
  net := by
    rw [h.netMinor, h.grossMinor, h.feeMinor, h.taxMinor]
    exact hs.net
  refund := by
    intro r hr
    have hminor := h.refund
    rw [Option.mem_def.1 hr, Option.map_some] at hminor
    split at hminor
    · rw [Option.some.inj hminor]
      exact (varianceOf_pos hs.gross input).le
    · obtain ⟨r', hr', hsame⟩ := Option.map_eq_some_iff.1 hminor.symm
      rw [← hsame]
      exact hs.refund r' hr'

namespace Lifecycle

theorem cleanLifecycle_priced {refs : Refs} {grossMinor : Int} (h : 0 ≤ grossMinor)
    (method : PaymentMethod) (capturedAt : Date) (jitterDays : Int) :
    (cleanLifecycle refs grossMinor method capturedAt jitterDays).Priced where
  gross := h
  fee := rfl
  tax := rfl
  net := rfl
  refund := nofun

namespace Emittable

variable {refs : Refs} {grossMinor : Int} {method : PaymentMethod} {capturedAt : Date}
  {jitterDays : Int} {life : Lifecycle}

/-- No transform touches the identifiers of the payment. -/
theorem refs_eq (h : Emittable refs grossMinor method capturedAt jitterDays life) :
    life.refs = refs := by
  induction h with
  | clean => rfl
  | cause _ c input r ih => exact (Damage.single c _ input r).refs.trans ih
  | trap _ _ _ ih => exact ih

/-- No transform touches the payment, its fee or its tax. -/
theorem priced (h : Emittable refs grossMinor method capturedAt jitterDays life)
    (hgross : 0 ≤ grossMinor) : life.Priced := by
  induction h with
  | clean => exact cleanLifecycle_priced hgross method capturedAt jitterDays
  | cause _ c input r ih => exact (Damage.single c _ input r).priced ih
  | trap _ _ _ ih => exact ⟨ih.gross, ih.fee, ih.tax, ih.net, ih.refund⟩

/-- Transforms only delay a settlement. -/
theorem le_settledAt (h : Emittable refs grossMinor method capturedAt jitterDays life) :
    (plusDays (expectedSettlementFor capturedAt) jitterDays).getTime ≤ life.settledAt.getTime := by
  induction h with
  | clean => exact le_rfl
  | cause _ c input r ih =>
      have hlag : 0 ≤ lagOf input := by
        unfold lagOf
        omega
      have hdelay : 0 ≤ ([c].count .timingLag * lagOf input) * msPerDay :=
        mul_nonneg (mul_nonneg (Int.natCast_nonneg _) hlag) (by decide)
      rw [(Damage.single c _ input r).settledAt]
      exact ih.trans (le_add_of_nonneg_right hdelay)
  | trap _ _ _ ih => exact ih

/-- The transforms of causes take an emitted lifecycle to another. -/
theorem applyTransforms (input : TransformInput) (r : Refs) (causes : List CauseCode)
    (h : Emittable refs grossMinor method capturedAt jitterDays life) :
    Emittable refs grossMinor method capturedAt jitterDays
      (Generator.applyTransforms input r (causes.map TRANSFORMS) life).1 := by
  induction causes generalizing life with
  | nil => exact h
  | cons c causes ih => exact ih (h.cause c input r)

end Emittable

end Lifecycle

end SettlementOps.Generator
