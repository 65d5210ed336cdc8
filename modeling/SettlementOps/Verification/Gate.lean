import SettlementOps.Reconciliation.Matcher
import SettlementOps.Verification.Verifier

/-!
# What the verification gate lets through

* `CauseCondition` — the arithmetic or lifecycle fact each cause rests on.
* `Substantiated` — everything a resolution needs.
* `verify_resolve_iff` — the gate resolves exactly the substantiated proposals and
  escalates every other resolution with a failure on record.
* `resolve_agrees_with_baseline_iff` — on which units the gate never resolves what the
  baseline reports as an evidence defect.
-/

namespace SettlementOps

namespace ReconciliationUnit

/-- The condition under which the evidence of a unit supports a cause. -/
def CauseCondition (unit : ReconciliationUnit) : CauseCode → Prop
  | .mdrFee =>
      ∃ time scheduled, unit.payment.scheduleTime = some time ∧
        scheduledFeeFor unit.payment.amount unit.payment.paymentMethod time = some scheduled ∧
        |(|unit.unexplained| - |scheduled.fee.amountMinor + scheduled.tax.amountMinor -
          Money.total (unit.fees.map (·.amount)) - Money.total (unit.taxes.map (·.amount))|)| ≤
            roundingToleranceFor 2
  | .utrSplit =>
      (∃ s ∈ unit.settlements, ∃ s' ∈ unit.settlements, s.settlementId ≠ s'.settlementId) ∧
        (∀ s ∈ unit.settlements, s.utr ≠ none →
          ∃ b ∈ unit.bankCredits, some b.utr = s.utr) ∧
        |unit.unexplained| ≤ roundingToleranceFor unit.settlementLines.length
  | .timingLag =>
      |unit.unexplained| ≤ roundingToleranceFor (max 1 unit.settlementLines.length) ∧
        unit.payment.capturedAt ≠ none ∧ unit.settlements ≠ []
  | .roundingDrift => |unit.unexplained| ≤ 100
  | .refundNetting =>
      unit.refunds ≠ [] ∧ ∀ r ∈ unit.refunds, ∀ settledAt, r.settledAt = some settledAt →
        daysBetween settledAt r.createdAt ≤ 2 * REFUND_NETTING_MAX_CYCLES
  | .ambiguous => False
  | .compound => False

/-- Every adjustment can have affected some settlement, if there is a settlement. -/
def AdjustmentsPossible (unit : ReconciliationUnit) : Prop :=
  unit.settlements ≠ [] → ∀ a ∈ unit.adjustments, ∃ s ∈ unit.settlements,
    adjustmentCanExplainSettlement a.effectiveAt s.settlementAt = true

end ReconciliationUnit

/-- Everything a resolution has to bring. -/
structure Substantiated (proposal : Proposal) (unit : ReconciliationUnit) : Prop where
  notAmbiguous : proposal.cause ≠ .ambiguous
  notCompound : proposal.cause ≠ .compound
  cites : proposal.evidenceRecordIds ≠ []
  inScope : ∀ id ∈ proposal.evidenceRecordIds, id ∈ unit.recordIds
  retrieved : ∀ ids, proposal.retrievedRecordIds = some ids →
    ∀ id ∈ proposal.evidenceRecordIds, id ∈ ids
  adjustments : unit.AdjustmentsPossible
  computable : ∃ b, expectedNetFromRecords unit.expectedNetInput = .ok b
  cause : unit.CauseCondition proposal.cause

/-! ## The verifier's arithmetic -/

theorem magnitude_eq (v : Int) : magnitude v = |v| := magnitude_eq_abs v

theorem foldl_add_eq {α : Type} (f : α → Int) (l : List α) :
    ∀ init, l.foldl (fun total x => total + f x) init = init + (l.map f).sum := by
  induction l with
  | nil =>
      intro init
      simp
  | cons x l ih =>
      intro init
      rw [List.foldl_cons, ih, List.map_cons, List.sum_cons, add_assoc]

/-- The verifier's variance is the unexplained amount, where there is one. -/
theorem variance_eq {unit : ReconciliationUnit} (h : unit.expectedNetInput.Sound) :
    variance unit = some unit.unexplained := by
  obtain ⟨b, hb⟩ := expectedNetFromRecords_ok_iff.2 h
  unfold variance
  rw [hb]
  simp only [foldl_add_eq, zero_add, expectedNet_eq_net hb, ReconciliationUnit.unexplained,
    ReconciliationUnit.settledMinor, Money.total, List.map_map, Function.comp_def]

theorem variance_eq_none {unit : ReconciliationUnit} (h : ¬ unit.expectedNetInput.Sound) :
    variance unit = none := by
  obtain ⟨e, he⟩ := expectedNetFromRecords_error_of_not_sound h
  unfold variance
  rw [he]

theorem unrecordedWithholding_eq (unit : ReconciliationUnit) (scheduled : ScheduledFee) :
    unrecordedWithholding unit scheduled =
      scheduled.fee.amountMinor + scheduled.tax.amountMinor -
        Money.total (unit.fees.map (·.amount)) - Money.total (unit.taxes.map (·.amount)) := by
  simp only [unrecordedWithholding, foldl_add_eq, zero_add, Money.total, List.map_map,
    Function.comp_def]

theorem two_le_length_eraseDups_iff {α : Type} [DecidableEq α] (l : List α) :
    2 ≤ l.eraseDups.length ↔ ∃ a ∈ l, ∃ b ∈ l, a ≠ b := by
  cases l with
  | nil => simp
  | cons a as =>
      rw [List.eraseDups_cons, List.length_cons]
      constructor
      · intro h
        have hne : (as.filter (fun b => !b == a)).eraseDups ≠ [] := by
          intro hnil
          rw [hnil] at h
          simp at h
        obtain ⟨b, hb⟩ := List.exists_mem_of_ne_nil _ hne
        obtain ⟨hmem, hba⟩ := List.mem_filter.1 (List.mem_eraseDups.1 hb)
        exact ⟨a, List.mem_cons_self, b, List.mem_cons_of_mem _ hmem,
          fun hab => by simp [hab] at hba⟩
      · rintro ⟨b, hb, c, hc, hbc⟩
        -- one of the two differs from the head, and survives the first round
        obtain ⟨d, hd, hda⟩ : ∃ d ∈ as, d ≠ a := by
          by_cases hba : b = a
          · subst hba
            rcases List.mem_cons.1 hc with rfl | hc
            · exact absurd rfl hbc
            · exact ⟨c, hc, fun h => hbc h.symm⟩
          · rcases List.mem_cons.1 hb with rfl | hb
            · exact absurd rfl hba
            · exact ⟨b, hb, hba⟩
        have hmem : d ∈ (as.filter (fun b => !b == a)).eraseDups :=
          List.mem_eraseDups.2 (List.mem_filter.2 ⟨hd, by simpa using hda⟩)
        have := List.length_pos_of_mem hmem
        omega

/-! ## The rule of each cause -/

/-- A rule that names no failure supports its cause. -/
def CauseSupport.Decisive (s : CauseSupport) : Prop := s.supported = true ∨ s.failure ≠ none

theorem supportMdrFee_spec (unit : ReconciliationUnit) :
    (supportMdrFee unit unit.unexplained).Decisive ∧
      ((supportMdrFee unit unit.unexplained).supported = true ↔
        unit.CauseCondition .mdrFee) := by
  unfold supportMdrFee
  simp only [ReconciliationUnit.CauseCondition]
  cases ht : unit.payment.scheduleTime with
  | none => simp [CauseSupport.Decisive]
  | some time =>
      dsimp only
      cases hs : scheduledFeeFor unit.payment.amount unit.payment.paymentMethod time with
      | none => simp [CauseSupport.Decisive, hs]
      | some scheduled =>
          simp only [magnitude_eq, unrecordedWithholding_eq, Option.some.injEq]
          split
          · rename_i hw
            refine ⟨.inl rfl, ⟨fun _ => ⟨time, scheduled, rfl, hs, ?_⟩, fun _ => rfl⟩⟩
            exact withinRoundingTolerance_iff.1 hw
          · rename_i hw
            refine ⟨.inr (by simp), ⟨fun h => (nomatch h), ?_⟩⟩
            rintro ⟨_, s, rfl, hs', hcond⟩
            rw [hs] at hs'
            cases hs'
            exact absurd (withinRoundingTolerance_iff.2 hcond) hw

theorem supportUtrSplit_spec (unit : ReconciliationUnit) :
    (supportUtrSplit unit unit.unexplained).Decisive ∧
      ((supportUtrSplit unit unit.unexplained).supported = true ↔
        unit.CauseCondition .utrSplit) := by
  have hlegs : (2 ≤ (unit.settlements.map (·.settlementId)).eraseDups.length) ↔
      ∃ s ∈ unit.settlements, ∃ s' ∈ unit.settlements, s.settlementId ≠ s'.settlementId := by
    rw [two_le_length_eraseDups_iff]
    simp only [List.mem_map, exists_exists_and_eq_and]
  unfold supportUtrSplit
  dsimp only
  split
  · rename_i h
    refine ⟨.inr (by simp), ⟨fun h => (nomatch h), fun hc => ?_⟩⟩
    have := hlegs.2 hc.1
    omega
  rename_i h
  split
  · rename_i hmissing
    refine ⟨.inr (by simp), ⟨fun h => (nomatch h), fun hc => ?_⟩⟩
    obtain ⟨s, hs⟩ := List.exists_mem_of_length_pos hmissing
    obtain ⟨hmem, hcond⟩ := List.mem_filter.1 hs
    simp only [Bool.and_eq_true, bne_iff_ne, ne_eq, Bool.not_eq_true', List.any_eq_false,
      beq_iff_eq] at hcond
    obtain ⟨b, hb, hutr⟩ := hc.2.1 s hmem hcond.1
    exact absurd hutr (hcond.2 b hb)
  rename_i hmissing
  have hcredited : ∀ s ∈ unit.settlements, s.utr ≠ none →
      ∃ b ∈ unit.bankCredits, some b.utr = s.utr := by
    intro s hs hutr
    by_contra hno
    refine hmissing (List.length_pos_of_mem (List.mem_filter.2 ⟨hs, ?_⟩))
    simp only [Bool.and_eq_true, bne_iff_ne, ne_eq, hutr, not_false_eq_true, true_and,
      Bool.not_eq_true', List.any_eq_false, beq_iff_eq]
    exact fun b hb hbu => hno ⟨b, hb, hbu⟩
  split
  · rename_i hw
    exact ⟨.inl rfl, ⟨fun _ => ⟨hlegs.1 (by omega), hcredited,
      withinRoundingTolerance_iff.1 hw⟩, fun _ => rfl⟩⟩
  · rename_i hw
    exact ⟨.inr (by simp), ⟨fun h => (nomatch h), fun hc =>
      absurd (withinRoundingTolerance_iff.2 hc.2.2) hw⟩⟩

theorem supportTimingLag_spec (unit : ReconciliationUnit) :
    (supportTimingLag unit unit.unexplained).Decisive ∧
      ((supportTimingLag unit unit.unexplained).supported = true ↔
        unit.CauseCondition .timingLag) := by
  unfold supportTimingLag
  split
  · rename_i hw
    refine ⟨.inr (by simp), ⟨fun h => (nomatch h), fun hc => ?_⟩⟩
    rw [withinRoundingTolerance_iff.2 hc.1] at hw
    cases hw
  rename_i hw
  have hwithin : withinRoundingTolerance unit.unexplained (max 1 unit.settlementLines.length) =
      true := by simpa using hw
  split
  · rename_i hno
    refine ⟨.inr (by simp), ⟨fun h => (nomatch h), fun hc => ?_⟩⟩
    rcases hno with hno | hno
    · exact absurd hno hc.2.1
    · exact absurd (List.length_eq_zero_iff.1 hno) hc.2.2
  · rename_i hno
    rw [not_or] at hno
    exact ⟨.inl rfl, ⟨fun _ => ⟨withinRoundingTolerance_iff.1 hwithin, hno.1,
      fun h => hno.2 (by rw [h]; rfl)⟩, fun _ => rfl⟩⟩

theorem supportRoundingDrift_spec (unit : ReconciliationUnit) :
    (supportRoundingDrift unit.unexplained).Decisive ∧
      ((supportRoundingDrift unit.unexplained).supported = true ↔
        unit.CauseCondition .roundingDrift) := by
  have hcap : ROUNDING_TOLERANCE_ABSOLUTE_CAP_MINOR = 100 := rfl
  unfold supportRoundingDrift
  rw [magnitude_eq]
  split
  · rename_i h
    refine ⟨.inr (by simp), ⟨fun h => (nomatch h), fun hc => ?_⟩⟩
    have hle : |unit.unexplained| ≤ 100 := hc
    omega
  · rename_i h
    refine ⟨.inl rfl, ⟨fun _ => ?_, fun _ => rfl⟩⟩
    change |unit.unexplained| ≤ 100
    omega

theorem supportRefundNetting_spec (unit : ReconciliationUnit) :
    (supportRefundNetting unit).Decisive ∧
      ((supportRefundNetting unit).supported = true ↔ unit.CauseCondition .refundNetting) := by
  unfold supportRefundNetting
  split
  · rename_i h
    exact ⟨.inr (by simp), ⟨fun h => (nomatch h), fun hc =>
      absurd (List.length_eq_zero_iff.1 h) hc.1⟩⟩
  rename_i hne
  dsimp only
  split
  · rename_i hlate
    refine ⟨.inr (by simp), ⟨fun h => (nomatch h), fun hc => ?_⟩⟩
    obtain ⟨r, hr⟩ := List.exists_mem_of_length_pos hlate
    obtain ⟨hmem, hrl⟩ := List.mem_filter.1 hr
    obtain ⟨t, ht, hdays⟩ := late_iff.1 hrl
    exact absurd (hc.2 r hmem t ht) (by omega)
  · rename_i hlate
    refine ⟨.inl rfl, ⟨fun _ => ⟨fun h => hne (by rw [h]; rfl), fun r hr t ht => ?_⟩,
      fun _ => rfl⟩⟩
    by_contra hdays
    exact hlate (List.length_pos_of_mem (List.mem_filter.2
      ⟨hr, late_iff.2 ⟨t, ht, by omega⟩⟩))

/-- **The rule of a cause is its condition.**  On a unit whose expected net exists every
rule either supports its cause or names a failure, and, ambiguity apart, it supports the
cause exactly when its condition holds. -/
theorem causeSupported_spec {unit : ReconciliationUnit} (h : unit.expectedNetInput.Sound)
    {cause : CauseCode} (hc : cause ≠ .ambiguous) :
    (causeSupported cause unit).Decisive ∧
      ((causeSupported cause unit).supported = true ↔ unit.CauseCondition cause) := by
  unfold causeSupported
  rw [variance_eq h]
  cases cause with
  | mdrFee => exact supportMdrFee_spec unit
  | utrSplit => exact supportUtrSplit_spec unit
  | refundNetting => exact supportRefundNetting_spec unit
  | timingLag => exact supportTimingLag_spec unit
  | roundingDrift => exact supportRoundingDrift_spec unit
  | ambiguous => exact absurd rfl hc
  | compound => exact ⟨.inr (by simp), ⟨fun h => (nomatch h), fun h => h.elim⟩⟩

/-! ## The parts of the pass -/

@[simp] theorem Findings.append_failures (a b : Findings) :
    (a.append b).failures = a.failures ++ b.failures := rfl

theorem policyFindings_eq_nil_iff {proposal : Proposal} (h : proposal.disposition = .resolve) :
    (policyFindings proposal).failures = [] ↔ proposal.cause ≠ .ambiguous := by
  have hperm : isDispositionPermitted proposal.cause proposal.disposition =
      canEverResolve proposal.cause := by
    rw [h]
    rfl
  unfold policyFindings
  rw [hperm, ← canEverResolve_iff]
  cases canEverResolve proposal.cause <;> simp

theorem scopeFindings_eq_nil_iff {proposal : Proposal} {unit : ReconciliationUnit} :
    (scopeFindings proposal unit).failures = [] ↔
      proposal.evidenceRecordIds ≠ [] ∧ ∀ id ∈ proposal.evidenceRecordIds, id ∈ unit.recordIds := by
  have hforeign : ¬ (proposal.evidenceRecordIds.filter
        (fun id => !unit.recordIds.contains id)).length > 0 ↔
      ∀ id ∈ proposal.evidenceRecordIds, id ∈ unit.recordIds := by
    rw [gt_iff_lt, List.length_pos_iff, ne_eq, not_not, List.filter_eq_nil_iff]
    simp
  simp only [scopeFindings, Findings.append_failures, List.append_eq_nil_iff,
    List.length_eq_zero_iff]
  refine and_congr ?_ ?_
  · split <;> simp_all
  · rw [← hforeign]
    split <;> simp_all

theorem retrievalFindings_eq_nil_iff {proposal : Proposal} {unit : ReconciliationUnit}
    (h : ∀ id ∈ proposal.evidenceRecordIds, id ∈ unit.recordIds) :
    (retrievalFindings proposal unit).failures = [] ↔
      ∀ ids, proposal.retrievedRecordIds = some ids →
        ∀ id ∈ proposal.evidenceRecordIds, id ∈ ids := by
  unfold retrievalFindings
  cases hr : proposal.retrievedRecordIds with
  | none => simp
  | some retrieved =>
      have hun : ¬ (proposal.evidenceRecordIds.filter fun id =>
            unit.recordIds.contains id && !retrieved.contains id).length > 0 ↔
          ∀ id ∈ proposal.evidenceRecordIds, id ∈ retrieved := by
        rw [gt_iff_lt, List.length_pos_iff, ne_eq, not_not, List.filter_eq_nil_iff]
        simp only [List.contains_eq_mem, Bool.and_eq_true, decide_eq_true_eq,
          Bool.not_eq_true', decide_eq_false_iff_not, not_and, not_not]
        exact ⟨fun hall id hid => hall id hid (h id hid), fun hall id hid _ => hall id hid⟩
      simp only [Option.some.injEq, forall_eq']
      rw [← hun]
      split
      · rename_i hpos
        exact ⟨fun hf => (nomatch hf), fun hn => absurd hpos hn⟩
      · rename_i hpos
        exact ⟨fun _ => hpos, fun _ => rfl⟩

theorem adjustmentFindings_eq_nil_iff {unit : ReconciliationUnit} :
    (adjustmentFindings unit).failures = [] ↔ unit.AdjustmentsPossible := by
  unfold adjustmentFindings ReconciliationUnit.AdjustmentsPossible
  rw [← impossibleAdjustments_eq_nil_iff]
  dsimp only
  split
  · rename_i hpos
    obtain ⟨hi, hs⟩ := hpos
    exact ⟨fun hf => (nomatch hf), fun himp =>
      absurd (himp (List.length_pos_iff.1 hs)) (List.length_pos_iff.1 hi)⟩
  · rename_i hno
    refine ⟨fun _ hs => ?_, fun _ => rfl⟩
    by_contra hi
    exact hno ⟨List.length_pos_iff.2 hi, List.length_pos_iff.2 hs⟩

theorem causeFindings_eq_nil_iff {proposal : Proposal} {unit : ReconciliationUnit}
    (hc : proposal.cause ≠ .ambiguous) :
    (causeFindings proposal unit).failures = [] ↔
      unit.expectedNetInput.Sound ∧ unit.CauseCondition proposal.cause := by
  unfold causeFindings
  by_cases hs : unit.expectedNetInput.Sound
  · obtain ⟨hdec, hiff⟩ := causeSupported_spec hs hc
    dsimp only
    by_cases hsup : (causeSupported proposal.cause unit).supported = true
    · simp [hsup, hs, hiff.1 hsup]
    · -- an unsupported cause always names its failure
      have hfail : (causeSupported proposal.cause unit).failure ≠ none :=
        hdec.resolve_left hsup
      have hcond : ¬ unit.CauseCondition proposal.cause := fun h => hsup (hiff.2 h)
      simp [hsup, hfail, hcond]
  · have hsup : causeSupported proposal.cause unit =
        ⟨false, some .arithmeticUnsupported, "variance not computable"⟩ := by
      unfold causeSupported
      rw [variance_eq_none hs]
    rw [hsup]
    simp [hs]

/-! ## The gate -/

/-- A resolution has no failure exactly when it is substantiated. -/
theorem resolutionFindings_eq_nil_iff {proposal : Proposal} {unit : ReconciliationUnit}
    (h : proposal.disposition = .resolve) :
    (resolutionFindings proposal unit).failures = [] ↔ Substantiated proposal unit := by
  simp only [resolutionFindings, Findings.append_failures, List.append_eq_nil_iff]
  constructor
  · rintro ⟨⟨⟨⟨hp, hs⟩, hr⟩, ha⟩, hc⟩
    have hamb := (policyFindings_eq_nil_iff h).1 hp
    obtain ⟨hcites, hscope⟩ := scopeFindings_eq_nil_iff.1 hs
    obtain ⟨hsound, hcond⟩ := (causeFindings_eq_nil_iff hamb).1 hc
    exact {
      notAmbiguous := hamb
      notCompound := fun hcomp => by
        rw [hcomp] at hcond
        exact hcond
      cites := hcites
      inScope := hscope
      retrieved := (retrievalFindings_eq_nil_iff hscope).1 hr
      adjustments := adjustmentFindings_eq_nil_iff.1 ha
      computable := expectedNetFromRecords_ok_iff.2 hsound
      cause := hcond }
  · intro hsub
    exact ⟨⟨⟨⟨(policyFindings_eq_nil_iff h).2 hsub.notAmbiguous,
      scopeFindings_eq_nil_iff.2 ⟨hsub.cites, hsub.inScope⟩⟩,
      (retrievalFindings_eq_nil_iff hsub.inScope).2 hsub.retrieved⟩,
      adjustmentFindings_eq_nil_iff.2 hsub.adjustments⟩,
      (causeFindings_eq_nil_iff hsub.notAmbiguous).2
        ⟨expectedNetFromRecords_ok_iff.1 hsub.computable, hsub.cause⟩⟩

/-- What the pass makes of a claimed resolution. -/
theorem verify_of_resolve {proposal : Proposal} (unit : ReconciliationUnit)
    (h : proposal.disposition = .resolve) :
    (Substantiated proposal unit ∧ (verify proposal unit).passed = true ∧
        (verify proposal unit).effectiveDisposition = .resolve ∧
        (verify proposal unit).failures = []) ∨
      (¬ Substantiated proposal unit ∧ (verify proposal unit).passed = false ∧
        (verify proposal unit).effectiveDisposition = .escalate ∧
        (verify proposal unit).failures ≠ []) := by
  unfold verify
  rw [if_neg (not_not.2 h), ← resolutionFindings_eq_nil_iff h]
  by_cases hf : (resolutionFindings proposal unit).failures = []
  · exact .inl ⟨hf, by simp [hf], by simp [hf], hf⟩
  · exact .inr ⟨hf, by simp [hf], by simp [hf], hf⟩

/-- The gate resolves a proposal exactly when it claims a resolution it substantiates. -/
theorem verify_eq_resolve_iff {proposal : Proposal} {unit : ReconciliationUnit} :
    (verify proposal unit).effectiveDisposition = .resolve ↔
      proposal.disposition = .resolve ∧ Substantiated proposal unit := by
  by_cases h : proposal.disposition = .resolve
  · rcases verify_of_resolve unit h with ⟨hsub, -, heff, -⟩ | ⟨hsub, -, heff, -⟩
    · simp [h, hsub, heff]
    · simp [hsub, heff]
  · have heff : (verify proposal unit).effectiveDisposition = proposal.disposition := by
      unfold verify
      rw [if_pos h]
    simp [h, heff]

/-- **The gate lets no unsupported resolution through.**  A resolution takes effect
exactly when it was proposed and is substantiated, and has then passed without a failure;
every other proposed resolution is escalated with a failure on record. -/
theorem verify_resolve_iff (proposal : Proposal) (unit : ReconciliationUnit) :
    ((verify proposal unit).effectiveDisposition = .resolve ↔
      proposal.disposition = .resolve ∧ (verify proposal unit).passed = true ∧
        (verify proposal unit).failures = [] ∧ Substantiated proposal unit) ∧
    (proposal.disposition = .resolve →
      ¬ ((verify proposal unit).passed = true ∧ (verify proposal unit).failures = [] ∧
        Substantiated proposal unit) →
      (verify proposal unit).effectiveDisposition = .escalate ∧
        (verify proposal unit).failures ≠ []) := by
  constructor
  · rw [verify_eq_resolve_iff]
    constructor
    · rintro ⟨h, hsub⟩
      rcases verify_of_resolve unit h with ⟨-, hpass, -, hfail⟩ | ⟨hno, -⟩
      · exact ⟨h, hpass, hfail, hsub⟩
      · exact absurd hsub hno
    · rintro ⟨h, -, -, hsub⟩
      exact ⟨h, hsub⟩
  · intro h hno
    rcases verify_of_resolve unit h with ⟨hsub, hpass, -, hfail⟩ | ⟨-, -, heff, hfail⟩
    · exact absurd ⟨hpass, hfail, hsub⟩ hno
    · exact ⟨heff, hfail⟩

/-! ## The gate against the baseline -/

/-- The reasons that say the evidence itself is defective. -/
def integrityReasons : List ResidualReason :=
  [.duplicateSourceRecord, .currencyInconsistent, .missingBankCredit, .bankCreditAmountMismatch]

namespace ReconciliationUnit

/-- The bank credit of a settlement is there and is its net amount. -/
def LegAgrees (unit : ReconciliationUnit) (s : SettlementRecord) : Prop :=
  ∃ credit, unit.creditFor s = some credit ∧ credit.amount = s.netAmount

/-- The bank credit of a settlement agrees and arrived within the expected lag. -/
def LegSound (unit : ReconciliationUnit) (s : SettlementRecord) : Prop :=
  ∃ credit, unit.creditFor s = some credit ∧ credit.amount = s.netAmount ∧
    bankCreditWithinExpectedLag s.settlementAt credit.creditedAt = true

/-- Up to the first late credit, every settlement with a UTR has a bank credit of its net
amount. -/
def BankLegsAgree (unit : ReconciliationUnit) : Prop :=
  ∀ pre s post, unit.utrSettlements = pre ++ s :: post →
    (∀ t ∈ pre, unit.LegSound t) → unit.LegAgrees s

theorem legDefect_spec (unit : ReconciliationUnit) (s : SettlementRecord) :
    (unit.legDefect s = none ∧ unit.LegSound s ∧ unit.LegAgrees s) ∨
      (unit.legDefect s = some .bankCreditTimingOutsideWindow ∧ ¬ unit.LegSound s ∧
        unit.LegAgrees s) ∨
      (∃ r ∈ integrityReasons, unit.legDefect s = some r ∧ ¬ unit.LegAgrees s) := by
  unfold legDefect LegSound LegAgrees
  cases hc : unit.creditFor s with
  | none => exact .inr (.inr ⟨.missingBankCredit, by decide, rfl, by simp⟩)
  | some credit =>
      simp only [Bool.not_eq_true', Option.some.injEq, exists_eq_left']
      by_cases ha : credit.amount = s.netAmount
      · have hagree : creditAgrees s.netAmount s.netAmount = true := creditAgrees_iff.2 rfl
        by_cases hl : bankCreditWithinExpectedLag s.settlementAt credit.creditedAt = true
        · exact .inl (by simp [hagree, hl, ha])
        · exact .inr (.inl (by simp [hagree, hl, ha]))
      · have hagree : creditAgrees credit.amount s.netAmount = false := by
          rw [Bool.eq_false_iff, ne_eq, creditAgrees_iff]
          exact ha
        exact .inr (.inr ⟨.bankCreditAmountMismatch, by decide, by simp [hagree], ha⟩)

/-- The first thing the bank check finds is no defect of the evidence exactly when the
legs agree up to the first late one. -/
theorem findSome_legDefect_iff (unit : ReconciliationUnit) (l : List SettlementRecord) :
    (∀ r ∈ integrityReasons, l.findSome? unit.legDefect ≠ some r) ↔
      ∀ pre s post, l = pre ++ s :: post → (∀ t ∈ pre, unit.LegSound t) → unit.LegAgrees s := by
  induction l with
  | nil => simp
  | cons a rest ih =>
      have hsplit : (∀ pre s post, a :: rest = pre ++ s :: post →
            (∀ t ∈ pre, unit.LegSound t) → unit.LegAgrees s) ↔
          unit.LegAgrees a ∧ (unit.LegSound a → ∀ pre s post, rest = pre ++ s :: post →
            (∀ t ∈ pre, unit.LegSound t) → unit.LegAgrees s) := by
        constructor
        · intro h
          refine ⟨h [] a rest rfl (by simp), fun ha pre s post hrest hpre => ?_⟩
          exact h (a :: pre) s post (by rw [hrest]; rfl) (List.forall_mem_cons.2 ⟨ha, hpre⟩)
        · rintro ⟨ha, hrest⟩ pre s post heq hpre
          cases pre with
          | nil =>
              cases heq
              exact ha
          | cons b pre =>
              cases heq
              obtain ⟨hb, hpre⟩ := List.forall_mem_cons.1 hpre
              exact hrest hb pre s post rfl hpre
      rw [hsplit, List.findSome?_cons, ← ih]
      rcases unit.legDefect_spec a with ⟨hd, hs, ha⟩ | ⟨hd, hs, ha⟩ | ⟨r, hr, hd, ha⟩
      · simp [hd, hs, ha]
      · simp [hd, hs, ha, integrityReasons]
      · simp only [hd, ha, false_and, iff_false, not_forall]
        exact ⟨r, hr, fun h => h rfl⟩

theorem bankLegsAgree_iff {unit : ReconciliationUnit} :
    unit.BankLegsAgree ↔
      ∀ r ∈ integrityReasons, (checkBankCredit unit).failure ≠ some r := by
  rw [checkBankCredit_failure]
  exact (unit.findSome_legDefect_iff unit.utrSettlements).symm

/-- Nothing is wrong with the evidence: no duplicates, one currency, and bank legs that
agree. -/
def EvidenceIntact (unit : ReconciliationUnit) : Prop :=
  unit.duplicates = [] ∧ unit.SingleCurrency ∧ unit.BankLegsAgree

/-- No cause of the taxonomy can be substantiated on the unit. -/
def NothingResolvable (unit : ReconciliationUnit) : Prop :=
  ¬ unit.expectedNetInput.Sound ∨ ¬ unit.AdjustmentsPossible ∨
    (100 < |unit.unexplained| ∧ ¬ unit.CauseCondition .mdrFee ∧
      ¬ unit.CauseCondition .refundNetting)

end ReconciliationUnit

/-- The baseline reports a defect of the evidence. -/
def ReportsIntegrityDefect (unit : ReconciliationUnit) : Prop :=
  ∃ r ∈ integrityReasons, r ∈ (reconcileUnit unit).reasons

/-- No check reports a defect of evidence that is intact. -/
theorem not_reportsIntegrityDefect {unit : ReconciliationUnit}
    (hs : unit.expectedNetInput.Sound) (hintact : unit.EvidenceIntact) :
    ¬ ReportsIntegrityDefect unit := by
  rintro ⟨r, hr, hmem⟩
  obtain ⟨hdup, hcur, hbank⟩ := hintact
  -- A check none of whose reasons is about the evidence has not reported this one.
  have hother {c : ReconciliationCheck} {failures : List (Option ResidualReason)}
      (hfailure : c.failure ∈ failures) (hown : ∀ r ∈ integrityReasons, some r ∉ failures) :
      c.failure ≠ some r := by
    intro hfail
    rw [hfail] at hfailure
    exact hown r hr hfailure
  obtain ⟨c, hc, hfail⟩ := mem_reasons_iff.1 hmem
  simp only [checksOf, List.mem_cons, List.not_mem_nil, or_false] at hc
  rcases hc with rfl | rfl | rfl | rfl | rfl | rfl | rfl | rfl | rfl | rfl
  · rcases checkCurrencyConsistency_failure unit with ⟨-, h⟩ | ⟨h, -⟩
    · rw [h] at hfail
      cases hfail
    · exact h hcur
  · exact hother (checkLifecycleConsistency_failure unit) (by decide) hfail
  · rw [checkNoDuplicates_failure, if_pos hdup] at hfail
    cases hfail
  · have h := checkFeeAgainstSchedule_failure unit
    have hne := checkFeeAgainstSchedule_currency hcur
    rw [hfail] at h hne
    revert hr h hne
    cases r <;> decide
  · rw [checkSettlementPresence_failure] at hfail
    split at hfail
    · cases hfail
      revert hr
      decide
    · cases hfail
  · by_cases hl : unit.lines = []
    · rw [conservation_of_no_lines hs hl] at hfail
      cases hfail
      revert hr
      decide
    · rw [(conservation_of_lines hs hcur hl).2] at hfail
      split at hfail
      · cases hfail
      · cases hfail
        revert hr
        split <;> decide
  · exact hother (checkSettlementTiming_failure unit) (by decide) hfail
  · exact hother (checkRefundNettingWindow_failure unit) (by decide) hfail
  · exact hother (checkAdjustmentTiming_failure unit) (by decide) hfail
  · exact ReconciliationUnit.bankLegsAgree_iff.1 hbank r hr hfail

/-- Each kind of defect fails the check that looks for it. -/
theorem reportsIntegrityDefect_of_not_intact {unit : ReconciliationUnit}
    (hno : ¬ unit.EvidenceIntact) : ReportsIntegrityDefect unit := by
  by_cases hdup : unit.duplicates = []
  · by_cases hcur : unit.SingleCurrency
    · have hbank : ¬ unit.BankLegsAgree := fun h => hno ⟨hdup, hcur, h⟩
      rw [ReconciliationUnit.bankLegsAgree_iff] at hbank
      push Not at hbank
      obtain ⟨r, hr, hfail⟩ := hbank
      exact ⟨r, hr, (exception_of_failure (by simp [checksOf]) hfail).2⟩
    · rcases checkCurrencyConsistency_failure unit with ⟨h, -⟩ | ⟨-, h⟩
      · exact absurd h hcur
      · exact ⟨_, by decide, (exception_of_failure (by simp [checksOf]) h).2⟩
  · have h := checkNoDuplicates_failure unit
    rw [if_neg hdup] at h
    exact ⟨_, by decide, (exception_of_failure (by simp [checksOf]) h).2⟩

/-- Where the expected net exists, the baseline reports a defect of the evidence exactly
when there is one. -/
theorem reportsIntegrityDefect_iff {unit : ReconciliationUnit}
    (hs : unit.expectedNetInput.Sound) :
    ReportsIntegrityDefect unit ↔ ¬ unit.EvidenceIntact :=
  ⟨fun hreports hintact => not_reportsIntegrityDefect hs hintact hreports,
    reportsIntegrityDefect_of_not_intact⟩

/-- A cause whose condition holds, on a unit that stands in no cause's way, is resolved on the
payment alone. -/
theorem payment_resolves {unit : ReconciliationUnit} {cause : CauseCode}
    (hs : unit.expectedNetInput.Sound) (ha : unit.AdjustmentsPossible)
    (hc : unit.CauseCondition cause) :
    (verify ⟨cause, .resolve, [unit.payment.id], "", none⟩ unit).effectiveDisposition =
      .resolve := by
  refine verify_eq_resolve_iff.2 ⟨rfl, ?_⟩
  exact {
    notAmbiguous := fun h => by
      dsimp only at h
      rw [h] at hc
      exact hc
    notCompound := fun h => by
      dsimp only at h
      rw [h] at hc
      exact hc
    cites := by simp
    inScope := by simp [ReconciliationUnit.recordIds]
    retrieved := by simp
    adjustments := ha
    computable := expectedNetFromRecords_ok_iff.2 hs
    cause := hc }

/-- What holds of a unit whenever some proposal of a cause is resolved on it. -/
theorem forall_resolved_iff {unit : ReconciliationUnit} {cause : CauseCode} {p : Prop} :
    (∀ proposal : Proposal, proposal.cause = cause →
        (verify proposal unit).effectiveDisposition = .resolve → p) ↔
      (unit.expectedNetInput.Sound → unit.AdjustmentsPossible → unit.CauseCondition cause →
        p) := by
  constructor
  · intro hall hs ha hc
    exact hall _ rfl (payment_resolves hs ha hc)
  · intro h proposal hcause hresolved
    obtain ⟨-, hsub⟩ := verify_eq_resolve_iff.1 hresolved
    have hcondition := hsub.cause
    rw [hcause] at hcondition
    exact h (expectedNetFromRecords_ok_iff.1 hsub.computable) hsub.adjustments hcondition

theorem exists_resolved {unit : ReconciliationUnit} {cause : CauseCode}
    (hs : unit.expectedNetInput.Sound) (ha : unit.AdjustmentsPossible)
    (hc : unit.CauseCondition cause) :
    ∃ proposal, (verify proposal unit).effectiveDisposition = .resolve :=
  ⟨_, payment_resolves hs ha hc⟩

/-- Conserved legs and agreeing amounts are variances within the rounding ceiling. -/
theorem unexplained_le_of_condition {unit : ReconciliationUnit} {cause : CauseCode}
    (h : unit.CauseCondition cause) (hm : cause ≠ .mdrFee) (hr : cause ≠ .refundNetting) :
    |unit.unexplained| ≤ 100 := by
  cases cause with
  | mdrFee => exact absurd rfl hm
  | utrSplit => exact h.2.2.trans (roundingToleranceFor_le_cap _)
  | refundNetting => exact absurd rfl hr
  | timingLag => exact h.1.trans (roundingToleranceFor_le_cap _)
  | roundingDrift => exact h
  | ambiguous => exact h.elim
  | compound => exact h.elim

/-- On which units no proposal at all is resolved. -/
theorem forall_not_resolved_iff {unit : ReconciliationUnit} :
    (∀ proposal, (verify proposal unit).effectiveDisposition ≠ .resolve) ↔
      unit.NothingResolvable := by
  constructor
  · intro hall
    by_contra hno
    simp only [ReconciliationUnit.NothingResolvable, not_or, not_not, not_and] at hno
    obtain ⟨hs, ha, hcauses⟩ := hno
    have hcond : ∃ cause, unit.CauseCondition cause := by
      by_cases hsmall : 100 < |unit.unexplained|
      · by_cases hm : unit.CauseCondition .mdrFee
        · exact ⟨_, hm⟩
        · exact ⟨_, hcauses hsmall hm⟩
      · exact ⟨.roundingDrift, not_lt.1 hsmall⟩
    obtain ⟨cause, hc⟩ := hcond
    obtain ⟨proposal, hp⟩ := exists_resolved hs ha hc
    exact hall proposal hp
  · intro hnothing proposal hp
    obtain ⟨-, hsub⟩ := verify_eq_resolve_iff.1 hp
    rcases hnothing with hs | ha | ⟨hbig, hm, hr⟩
    · exact hs (expectedNetFromRecords_ok_iff.1 hsub.computable)
    · exact ha hsub.adjustments
    · have hcause := hsub.cause
      by_cases hmdr : proposal.cause = .mdrFee
      · rw [hmdr] at hcause
        exact hm hcause
      · by_cases href : proposal.cause = .refundNetting
        · rw [href] at hcause
          exact hr hcause
        · exact absurd (unexplained_le_of_condition hcause hmdr href) (not_le.2 hbig)

/-- **When the gate agrees with the baseline on the evidence.**  That nothing is resolved
on a unit whose evidence the baseline reports as defective holds exactly when the
evidence is intact or no cause can be substantiated anyway: the gate itself looks at
neither duplicates nor the currencies of lines and credits, and at bank credits only to
see a split settlement credited. -/
theorem resolve_agrees_with_baseline_iff (unit : ReconciliationUnit) :
    (ReportsIntegrityDefect unit →
      ∀ proposal, (verify proposal unit).effectiveDisposition ≠ .resolve) ↔
      unit.EvidenceIntact ∨ unit.NothingResolvable := by
  rw [forall_not_resolved_iff]
  by_cases hs : unit.expectedNetInput.Sound
  · rw [reportsIntegrityDefect_iff hs]
    tauto
  · have hnothing : unit.NothingResolvable := .inl hs
    exact ⟨fun _ => .inr hnothing, fun _ _ => hnothing⟩

/-- The sample unit with its bank credit lost. -/
def uncreditedUnit : ReconciliationUnit := { sampleUnit with bankCredits := [] }

/-- The baseline reports the missing bank credit of `uncreditedUnit`, and the gate
resolves it as rounding drift of nothing. -/
theorem uncreditedUnit_resolved :
    ¬ (ReportsIntegrityDefect uncreditedUnit →
      ∀ proposal, (verify proposal uncreditedUnit).effectiveDisposition ≠ .resolve) := by
  intro h
  have hreported : ReportsIntegrityDefect uncreditedUnit :=
    ⟨.missingBankCredit, by decide, by decide⟩
  exact h hreported ⟨.roundingDrift, .resolve, ["pay-1"], "", none⟩ (by decide)

end SettlementOps
