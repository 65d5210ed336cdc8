import SettlementOps.Generator.DamagedCases

/-!
# The unit of a rendered case

What is drawn stays in its range, so that the checks on a rendered case come to conditions on its
plan and its draws.

* `CaseDraw.InRange`, `drawCase_always` — the range of the draws.
* `CasePlan.discrepancy` — the discrepancy of a case from its plan and its draws.
* `loadRendered` — importing the visible records of a case and loading its payment.
-/

namespace SettlementOps.Generator

open Calendar Random

/-! ## What is drawn -/

structure CaseDraw.InRange (split : Split) (draw : CaseDraw) : Prop where
  grossMinor : draw.grossMinor ∈ AMOUNT_CHOICES
  method : draw.method ∈ methodsOf split
  capturedAt : PERIOD_START.getTime ≤ draw.capturedAt.getTime ∧
    draw.capturedAt.getTime ≤ PERIOD_END.getTime
  variant : draw.variant ≤ 7
  jitterDays : draw.jitterDays ≤ 1
  varianceScaleBps : 20 ≤ draw.varianceScaleBps ∧ draw.varianceScaleBps ≤ 900

/-- Rounding to a double adds less than the unit of its last place. -/
theorem toDouble_le {n k : Nat} (h : n < 2 ^ (52 + k)) : toDouble n ≤ n + 2 ^ k := by
  have hunit : 2 ^ (n.log2 - 52) ≤ 2 ^ k := by
    refine Nat.pow_le_pow_right (by decide) ?_
    by_cases hn : n = 0
    · rw [hn]
      exact Nat.zero_le _
    · have hlog := (Nat.log2_lt hn).2 h
      omega
  have hle := Nat.div_mul_le_self n (2 ^ (n.log2 - 52))
  unfold toDouble
  dsimp only
  split
  · rw [Nat.add_mul, Nat.one_mul]
    omega
  · omega

/-- A scaled draw is no more than the length it is scaled to. -/
theorem scaled_le {length : Nat} (hlow : 2 ^ 14 ≤ length) (hhigh : length < 2 ^ 34) :
    Always (scaled length) fun offset => offset ≤ length := by
  intro tape
  change toDouble ((tape 0).toNat * length) / 2 ^ 32 ≤ length
  have hk : (tape 0).toNat + 1 ≤ 2 ^ 32 := (tape 0).toNat_lt
  have hproduct : ((tape 0).toNat + 1) * length ≤ 2 ^ 32 * length :=
    Nat.mul_le_mul_right _ hk
  rw [Nat.add_mul, Nat.one_mul] at hproduct
  have hrounded : toDouble ((tape 0).toNat * length) ≤ (tape 0).toNat * length + 2 ^ 14 :=
    toDouble_le (by omega)
  rw [Nat.div_le_iff_le_mul_add_pred (by decide)]
  omega

/-- Captures fall into the period: it is of whole days, and a capture is on the day of an instant
of the period. -/
theorem drawCaptureDateFrom_always (attempts : Nat) :
    Always (drawCaptureDateFrom attempts) fun t =>
      PERIOD_START.getTime ≤ t.getTime ∧ t.getTime ≤ PERIOD_END.getTime := by
  induction attempts with
  | zero => exact Always.pure ⟨le_rfl, by decide⟩
  | succ attempts ih =>
      refine (scaled_le (by decide) (by decide)).bind fun offset hoffset =>
        (Rng.int_bounds 0 8).bind fun hours hhours =>
          (Rng.int_bounds 0 59).bind fun minutes hminutes => ?_
      dsimp only
      split
      · refine Always.pure (P := fun t : Date =>
          PERIOD_START.getTime ≤ t.getTime ∧ t.getTime ≤ PERIOD_END.getTime) ?_
        have hday : msPerDay = 86_400_000 := rfl
        have hhour : msPerHour = 3_600_000 := rfl
        have hminute : msPerMinute = 60_000 := rfl
        have hstart : PERIOD_START.getTime = 20_454 * 86_400_000 := rfl
        have hend : PERIOD_END.getTime = 20_635 * 86_400_000 - 1 := rfl
        rw [hstart, hend] at hoffset
        rw [dayNumber, hday, hhour, hminute, hstart, hend]
        dsimp only
        omega
      · exact ih

theorem drawCase_always (split : Split) : Always (drawCase split) (CaseDraw.InRange split) := by
  refine (Rng.pick_mem _ _).bind fun grossMinor hgross => ?_
  refine (Rng.pick_mem _ _).bind fun method hmethod => ?_
  refine (drawCaptureDateFrom_always 20).bind fun capturedAt hcaptured => ?_
  refine (Rng.int_bounds 0 7).bind fun variant hvariant => ?_
  refine (Rng.int_bounds 0 1).bind fun jitterDays hjitter => ?_
  refine (Rng.int_bounds 20 900).bind fun bps hbps => ?_
  have hv : variant ≤ 7 := by omega
  have hj : jitterDays ≤ 1 := by omega
  exact Always.pure ⟨hgross, hmethod, hcaptured, hv, hj, by omega⟩

namespace CaseDraw

/-- What the transforms of the causes are given. -/
def input (draw : CaseDraw) : TransformInput := ⟨draw.variant, draw.varianceScaleBps⟩

/-- The magnitude of what a cause injects. -/
def variance (draw : CaseDraw) : Int := varianceOf draw.grossMinor draw.input

/-- Fee and tax of the schedule. -/
def withheld (draw : CaseDraw) : Int :=
  (scheduledFeeAndTax draw.grossMinor draw.method draw.capturedAt).fee +
    (scheduledFeeAndTax draw.grossMinor draw.method draw.capturedAt).tax

variable {split : Split} {draw : CaseDraw}

namespace InRange

variable (h : draw.InRange split)
include h

theorem gross_le : 45_000 ≤ draw.grossMinor := by
  have hgross := h.grossMinor
  revert hgross
  generalize draw.grossMinor = grossMinor
  revert grossMinor
  decide

theorem variance_pos : 0 < draw.variance :=
  varianceOf_pos (by have := h.gross_le; omega) draw.input

theorem variance_le : draw.variance ≤ draw.grossMinor := by
  have hgross := h.gross_le
  have hscale : (draw.varianceScaleBps : Int) ≤ 900 := by exact_mod_cast h.varianceScaleBps.2
  have hproduct : draw.grossMinor * (draw.varianceScaleBps : Int) ≤ draw.grossMinor * 900 :=
    Int.mul_le_mul_of_nonneg_left hscale (by omega)
  have hnonneg : 0 ≤ draw.grossMinor * (draw.varianceScaleBps : Int) := by positivity
  unfold variance varianceOf input
  dsimp only
  rw [Int.tdiv_eq_ediv_of_nonneg hnonneg]
  omega

/-- A schedule is in force throughout the period. -/
theorem schedule_isSome : (scheduleAt draw.capturedAt).isSome = true := by
  have hcaptured := h.capturedAt.1
  have hfrom : feeScheduleV1.effectiveFrom = PERIOD_START := rfl
  rw [scheduleAt_eq, hfrom, if_neg (not_lt.2 hcaptured)]
  split <;> rfl

/-- Its settlement date is a date. -/
theorem expectedSettlementDate_eq : expectedSettlementDate draw.capturedAt =
    some (expectedSettlementFor draw.capturedAt) := by
  have hstart : PERIOD_START.getTime = 1_767_225_600_000 := rfl
  have hend : PERIOD_END.getTime = 1_782_863_999_999 := rfl
  have hday : msPerDay = 86_400_000 := rfl
  have hmax : MAX_TIME = 8_640_000_000_000_000 := rfl
  have hcaptured := h.capturedAt
  have hsettled := settlementInstant_bounds draw.capturedAt
  rw [hstart, hend] at hcaptured
  rw [hday] at hsettled
  have hvalid : draw.capturedAt.Valid := by
    rw [Date.Valid, hmax]
    omega
  have hdate : (settlementInstant draw.capturedAt).Valid := by
    rw [Date.Valid, hmax]
    omega
  rw [SettlementOps.expectedSettlementDate_eq hvalid, newDate_of_valid hdate]
  rfl

end InRange

end CaseDraw

/-! ## What a plan does to a payment -/

namespace CasePlan

/-- Fee and tax, where the plan makes their records go missing. -/
def withheld (plan : CasePlan) (draw : CaseDraw) : Int :=
  if withholds plan.causes then draw.withheld else 0

/-- What rounding takes, once for each time it is named. -/
def drift (plan : CasePlan) (draw : CaseDraw) : Int :=
  plan.causes.count .roundingDrift * driftOf draw.input

/-- The expected net of a case less what was settled.  What is withheld, lost to rounding or
unexplained is missing from the settlement; a refund that was not netted is missing from the
expectation. -/
def discrepancy (plan : CasePlan) (draw : CaseDraw) : Int :=
  plan.withheld draw + plan.drift draw + plan.causes.count .ambiguous * draw.variance -
    if .refundNetting ∈ plan.causes then draw.variance else 0

/-- Before the transforms. -/
def clean (refs : Refs) (draw : CaseDraw) : Lifecycle :=
  cleanLifecycle refs draw.grossMinor draw.method draw.capturedAt draw.jitterDays

variable {plan : CasePlan} {refs : Refs} {draw : CaseDraw} {split : Split}

theorem damaged_emittable (plan : CasePlan) (refs : Refs) (draw : CaseDraw) :
    Lifecycle.Emittable refs draw.grossMinor draw.method draw.capturedAt draw.jitterDays
      (plan.damaged refs draw).1 := by
  unfold damaged transforms
  split
  · exact Lifecycle.Emittable.clean.trap draw.input refs
  · exact Lifecycle.Emittable.clean.applyTransforms draw.input refs plan.causes

/-- The settlements of the period are far from the first of all dates. -/
theorem damaged_sound (h : draw.InRange split) : (plan.damaged refs draw).1.Sound where
  toPriced := (plan.damaged_emittable refs draw).priced (by have := h.gross_le; omega)
  window := by
    have hsettled := (plan.damaged_emittable refs draw).le_settledAt
    have hexpected := (settlementInstant_bounds draw.capturedAt).1
    have hcaptured := h.capturedAt.1
    have hstart : PERIOD_START.getTime = 1_767_225_600_000 := rfl
    have hmax : MAX_TIME = 8_640_000_000_000_000 := rfl
    have hday : msPerDay = 86_400_000 := rfl
    have htwo : ADJUSTMENT_ACCRUAL_WINDOW_BUSINESS_DAYS = 2 := rfl
    refine businessDaysBefore_isSome ?_
    rw [hstart] at hcaptured
    rw [plusDays, expectedSettlementFor, hday] at hsettled
    rw [hday] at hexpected
    rw [hmax, hday, htwo]
    dsimp only at hsettled
    omega

section Causes

variable (hplain : plan.adversarial = false)
include hplain

theorem damage (refs : Refs) (draw : CaseDraw) :
    Damage draw.input plan.causes (clean refs draw) (plan.damaged refs draw).1 := by
  have htransforms : plan.transforms = plan.causes.map TRANSFORMS := by
    rw [transforms, hplain]
    rfl
  rw [damaged, htransforms]
  exact applyTransforms_damage draw.input refs plan.causes _

theorem feeRecordsPresent_eq :
    (plan.damaged refs draw).1.feeRecordsPresent = !withholds plan.causes := by
  rw [(damage hplain refs draw).feeRecordsPresent]
  rfl

theorem unrecorded_eq : (plan.damaged refs draw).1.unrecorded = plan.withheld draw := by
  have h := damage hplain refs draw
  rw [Lifecycle.unrecorded, feeRecordsPresent_eq hplain, h.feeMinor, h.taxMinor, withheld]
  cases withholds plan.causes <;> rfl

theorem unexplained_eq : (plan.damaged refs draw).1.unexplainedMinor =
    plan.drift draw + plan.causes.count .ambiguous * draw.variance := by
  rw [(damage hplain refs draw).unexplained, drift]
  simp [clean, cleanLifecycle, CaseDraw.variance]

theorem refunded_eq : (plan.damaged refs draw).1.refunded =
    if .refundNetting ∈ plan.causes then draw.variance else 0 := by
  rw [Lifecycle.refunded, (damage hplain refs draw).refund]
  split <;> rfl

theorem trapped_iff : ¬ (plan.damaged refs draw).1.Trapped := by
  rintro ⟨a, ha, -⟩
  rw [(damage hplain refs draw).impossibleAdjustment] at ha
  cases ha

theorem discrepancy_eq : (plan.damaged refs draw).1.discrepancy = plan.discrepancy draw := by
  have hadjusted : (plan.damaged refs draw).1.adjusted = 0 := by
    rw [Lifecycle.adjusted, (damage hplain refs draw).impossibleAdjustment]
    rfl
  rw [Lifecycle.discrepancy, unexplained_eq hplain, unrecorded_eq hplain, refunded_eq hplain,
    hadjusted, discrepancy]
  omega

theorem split_eq :
    (plan.damaged refs draw).1.split = plan.causes.contains .utrSplit := by
  rw [(damage hplain refs draw).split]
  rfl

theorem refund_ne_none_iff :
    (plan.damaged refs draw).1.refund ≠ none ↔ .refundNetting ∈ plan.causes := by
  have hminor := (damage hplain refs draw).refund
  rw [← not_iff_not, not_not, ← Option.map_eq_none_iff (f := (·.minor)), hminor]
  split
  · rename_i h
    simp [h]
  · rename_i h
    simp [h, clean, cleanLifecycle]

/-- A refund beyond the window is one of an odd variant. -/
theorem refundLate_iff : (plan.damaged refs draw).1.RefundLate ↔
    .refundNetting ∈ plan.causes ∧ netsInTime draw.input = false := by
  have hwindow := (damage hplain refs draw).refundWindow nofun
  have hcycles : 2 * REFUND_NETTING_MAX_CYCLES = 4 := rfl
  have hrefund : (plan.damaged refs draw).1.refund ≠ none ↔ .refundNetting ∈ plan.causes :=
    refund_ne_none_iff hplain
  rw [← hrefund, Lifecycle.RefundLate, hcycles]
  constructor
  · rintro ⟨r, hr, hlate⟩
    rw [hwindow r hr] at hlate
    rw [Option.mem_def.1 hr]
    cases hinTime : netsInTime draw.input with
    | true => simp [hinTime] at hlate
    | false => exact ⟨nofun, rfl⟩
  · rintro ⟨hsome, hlate⟩
    obtain ⟨r, hr⟩ := Option.ne_none_iff_exists'.1 hsome
    refine ⟨r, hr, ?_⟩
    rw [hwindow r hr, hlate]
    decide

theorem creditLate_iff :
    (plan.damaged refs draw).1.CreditLate ↔ .utrSplit ∈ plan.causes := by
  have hsplit : (plan.damaged refs draw).1.split = true ↔ .utrSplit ∈ plan.causes := by
    rw [split_eq hplain, List.contains_iff_mem]
  rw [Lifecycle.CreditLate, hsplit]
  refine ⟨And.left, fun h => ⟨h, fun hintime => ?_⟩⟩
  have hlate := (damage hplain refs draw).credited nofun (hsplit.2 h)
  omega

/-- A settlement is late by the delays of its plan: what else it is late is tolerated. -/
theorem settledLate_iff (h : draw.InRange split) :
    (plan.damaged refs draw).1.SettledLate ↔ .timingLag ∈ plan.causes := by
  have hdamage := damage hplain refs draw
  have hsettled : (plan.damaged refs draw).1.settledAt = plusDays (expectedSettlementFor
      draw.capturedAt) (draw.jitterDays + plan.causes.count .timingLag * lagOf draw.input) := by
    rw [hdamage.settledAt]
    simp only [clean, cleanLifecycle, plusDays, Date.mk.injEq]
    ring
  have hlag : 2 ≤ lagOf draw.input := by
    unfold lagOf
    omega
  have hjitter := h.jitterDays
  have htolerance : SETTLEMENT_DATE_MATCH_TOLERANCE_DAYS = 1 := rfl
  have hcaptured : (plan.damaged refs draw).1.capturedAt = draw.capturedAt := hdamage.capturedAt
  have hlate : (plan.damaged refs draw).1.SettledLate ↔ (1 : Int) < (daysBetween
      (plan.damaged refs draw).1.settledAt (expectedSettlementFor draw.capturedAt)) := by
    simp only [Lifecycle.SettledLate, hcaptured, h.expectedSettlementDate_eq, Option.mem_def,
      Option.some.injEq, exists_eq_left', htolerance]
  rw [hlate, hsettled, daysBetween_plusDays]
  by_cases hmem : .timingLag ∈ plan.causes
  · have hcount : 1 ≤ (plan.causes.count .timingLag : Int) := by
      exact_mod_cast List.one_le_count_iff.2 hmem
    have hdelay : lagOf draw.input ≤ plan.causes.count .timingLag * lagOf draw.input :=
      le_mul_of_one_le_left (by omega) hcount
    simp only [hmem, iff_true]
    omega
  · rw [List.count_eq_zero_of_not_mem hmem]
    simp only [hmem, iff_false]
    omega

theorem feeMissing_iff (h : draw.InRange split) : (plan.damaged refs draw).1.FeeMissing ↔
    withholds plan.causes = true ∧
      (scheduledFeeAndTax draw.grossMinor draw.method draw.capturedAt).fee ≠ 0 := by
  have hdamage := damage hplain refs draw
  have hcaptured : (plan.damaged refs draw).1.capturedAt = draw.capturedAt := hdamage.capturedAt
  have hfee : (plan.damaged refs draw).1.feeMinor =
      (scheduledFeeAndTax draw.grossMinor draw.method draw.capturedAt).fee := hdamage.feeMinor
  have hsome : (scheduleAt draw.capturedAt).isNone = false := by
    rw [Option.isNone_eq_false_iff]
    exact h.schedule_isSome
  rw [Lifecycle.FeeMissing, hcaptured, hfee, hsome, feeRecordsPresent_eq hplain]
  simp

theorem refunded_le (h : draw.InRange split) :
    (plan.damaged refs draw).1.refunded ≤ (plan.damaged refs draw).1.grossMinor := by
  have hgross : (plan.damaged refs draw).1.grossMinor = draw.grossMinor :=
    (damage hplain refs draw).grossMinor
  have hle := h.gross_le
  have hvariance := h.variance_le
  rw [refunded_eq hplain, hgross]
  split <;> omega

end Causes

/-! ### The trap -/

section Trap

variable (htrap : plan.adversarial = true)
include htrap

theorem damaged_trap (refs : Refs) (draw : CaseDraw) : (plan.damaged refs draw).1 =
    (ADVERSARIAL_TRANSFORM (clean refs draw) draw.input refs).1 := by
  rw [damaged, transforms, if_pos htrap]
  rfl

/-- The adjustment of the trap takes effect a month after the settlement. -/
theorem trapped (refs : Refs) (draw : CaseDraw) : (plan.damaged refs draw).1.Trapped := by
  rw [damaged_trap htrap]
  refine ⟨_, rfl, ?_⟩
  have hday : msPerDay = 86_400_000 := rfl
  unfold adjustmentCanExplainSettlement
  rw [if_pos]
  simp only [ADVERSARIAL_TRANSFORM, Generator.adversarial, plusDays, hday]
  omega

/-- The adjustment makes up for what is unexplained. -/
theorem discrepancy_trap (refs : Refs) (draw : CaseDraw) :
    (plan.damaged refs draw).1.discrepancy = 0 ∧
      (plan.damaged refs draw).1.unexplainedMinor = draw.variance ∧
      (plan.damaged refs draw).1.unrecorded = 0 := by
  rw [damaged_trap htrap]
  simp [ADVERSARIAL_TRANSFORM, Generator.adversarial, Lifecycle.discrepancy, Lifecycle.unrecorded,
    Lifecycle.refunded, Lifecycle.adjusted, clean, cleanLifecycle, CaseDraw.variance]

end Trap

/-! ### The label -/

/-- Whether a cause leaves behind what proves it. -/
def provable (input : TransformInput) : CauseCode → Bool
  | .ambiguous => false
  | .refundNetting => netsInTime input
  | .mdrFee | .utrSplit | .timingLag | .roundingDrift | .compound => true

theorem applyTransforms_provable (input : TransformInput) (r : Refs) (causes : List CauseCode) :
    ∀ life, ((applyTransforms input r (causes.map TRANSFORMS) life).2.all
      fun result => result.disposition == .resolve) = causes.all (provable input) := by
  induction causes with
  | nil => exact fun _ => rfl
  | cons c causes ih =>
      intro life
      have hone : ((TRANSFORMS c life input r).2.disposition == .resolve) = provable input c := by
        cases c with
        | refundNetting =>
            change ((if netsInTime input = true then Disposition.resolve else .escalate) ==
              Disposition.resolve) = netsInTime input
            cases netsInTime input <;> rfl
        | mdrFee | utrSplit | timingLag | roundingDrift | ambiguous | compound => rfl
      rw [List.all_cons, ← ih, ← hone]
      rfl

/-- **A case is to be resolved** when it is no trap and every cause of it can be proved. -/
theorem trueDisposition_eq (plan : CasePlan) (ordinal : Nat) (split : Split) (slug : String)
    (draw : CaseDraw) :
    (blueprintOf ordinal split slug plan draw).trueDisposition =
      if plan.adversarial = false ∧ (∀ c ∈ plan.causes, provable draw.input c = true) then .resolve
      else .escalate := by
  have hall : (plan.damaged (refsFor ordinal) draw).2.all
      (fun result => result.disposition == .resolve) =
        decide (plan.adversarial = false ∧ ∀ c ∈ plan.causes, provable draw.input c = true) := by
    unfold damaged transforms
    cases hadversarial : plan.adversarial with
    | true => rfl
    | false =>
        rw [if_neg nofun]
        refine (applyTransforms_provable draw.input _ plan.causes _).trans ?_
        rw [Bool.eq_iff_iff, List.all_eq_true, decide_eq_true_eq]
        exact ⟨fun h => ⟨rfl, h⟩, And.right⟩
  unfold blueprintOf
  dsimp only
  rw [hall]
  simp only [decide_eq_true_eq]

end CasePlan

/-! ## Loading a rendered case -/

theorem renderCase_result (ordinal : Nat) (split : Split) (slug : String) (plan : CasePlan)
    (tape : Tape UInt32) {draw : CaseDraw} (hdraw : result (drawCase split) tape = draw) :
    result (renderCase ordinal split slug plan) tape =
      { blueprint := blueprintOf ordinal split slug plan draw
        visibleRecords := result (withNoise
          (emit (plan.damaged (refsFor ordinal) draw).1 ++
            emitAdjustments (plan.damaged (refsFor ordinal) draw).1)
          (refsFor ordinal) draw.capturedAt draw.grossMinor) (rest (drawCase split) tape)
        bucket := (blueprintOf ordinal split slug plan draw).bucket } := by
  rw [renderCase, result_bind, hdraw, result_bind, result_pure]

/-- **The unit of a rendered case**, from its visible records alone, is one of its damaged
lifecycle. -/
theorem loadRendered {parseDate : String → Option Date} (hreads : ReadsISO parseDate)
    {recordId : Nat → String} (hrecordId : Function.Injective recordId) (ctx : RequestContext)
    (ingestedAt : Date) (importId : String) (ordinal : Nat) (split : Split) (slug : String)
    (plan : CasePlan) (tape : Tape UInt32) {draw : CaseDraw}
    (hdraw : result (drawCase split) tape = draw) :
    ∃ unit noise, loadImported parseDate ctx recordId ingestedAt importId
        (result (renderCase ordinal split slug plan) tape).visibleRecords
        (result (renderCase ordinal split slug plan) tape).blueprint.paymentId = some unit ∧
      (result (renderCase ordinal split slug plan) tape).blueprint =
        blueprintOf ordinal split slug plan draw ∧
      draw.InRange split ∧
      CaseUnit (plan.damaged (refsFor ordinal) draw).1 noise unit := by
  have hrefs := (plan.damaged_emittable (refsFor ordinal) draw).refs_eq
  obtain ⟨noise, hnoise⟩ := withNoise_always (plan.damaged (refsFor ordinal) draw).1
    draw.capturedAt draw.grossMinor (rest (drawCase split) tape)
  rw [hrefs] at hnoise
  obtain ⟨unit, hload, hunit⟩ := loadCase hreads hrecordId ctx ingestedAt importId
    (plan.damaged (refsFor ordinal) draw).1 noise
  rw [← hnoise, hrefs] at hload
  have hrange : draw.InRange split := by
    rw [← hdraw]
    exact drawCase_always split tape
  rw [renderCase_result ordinal split slug plan tape hdraw]
  exact ⟨unit, noise, hload, rfl, hrange, hunit⟩

end SettlementOps.Generator
