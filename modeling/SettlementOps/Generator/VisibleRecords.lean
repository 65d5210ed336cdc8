import SettlementOps.Generator.CaseBuilder

/-!
# The records of a case with their noise

Whatever is drawn, the noise of a case comes to some routine adjustments of its first
settlement, fees in one line or two, and records that bear on nothing.

* `Noise`, `noisyRecords` — the noise, and the records of a lifecycle with it.
* `withNoise_always` — what is drawn is such a noise.
-/

namespace SettlementOps.Generator

open Random

/-- What the noise of a case came to. -/
structure Noise where
  /-- The routine adjustments, by index. -/
  routine : List (Nat × Int)
  distinct : (routine.map Prod.fst).Nodup
  nonzero : ∀ entry ∈ routine, entry.2 ≠ 0
  feesSplit : Bool
  others : List FinancialRecordDto
  othersKind : ∀ x ∈ others, x.kind = .order ∨ x.kind = .ledgerEntry
  othersDistinct : (others.map fun x => (x.kind, x.lineage.sourceRecordId)).Nodup

/-- No noise at all. -/
def Noise.none : Noise := ⟨[], by simp, by simp, false, [], by simp, by simp⟩

/-- What the routine adjustments add up to. -/
def routineTotal (routine : List (Nat × Int)) : Int := (routine.map Prod.snd).sum

namespace Lifecycle

/-- What the settlements pay out for the payment. -/
def paidOut (life : Lifecycle) : Int := life.netMinor - life.unexplainedMinor

/-- The settlements, where the first of them is routinely adjusted by `delta`. -/
def settledRecords (life : Lifecycle) (delta : Int) : List FinancialRecordDto :=
  if life.split then
    life.splitRecords (life.paidOut.tdiv 2 + delta) (life.paidOut - life.paidOut.tdiv 2)
  else life.singleRecords (life.paidOut + delta)

def refundRecords (life : Lifecycle) : List FinancialRecordDto :=
  life.refund.toList.map fun refund =>
    .refund (refundRecord life.refs refund.minor refund.createdAt (some refund.settledAt))

def routineRecords (life : Lifecycle) (routine : List (Nat × Int)) : List FinancialRecordDto :=
  routine.map fun entry =>
    .adjustment (routineAdjustment life.refs life.refs.settlement entry.1 entry.2 life.settledAt)

def feeRecord (life : Lifecycle) : FeeLineDto := feeLine life.refs life.feeMinor life.capturedAt

def taxRecord (life : Lifecycle) : TaxLineDto := taxLine life.refs life.taxMinor life.capturedAt

/-- Everything but the fees and what bears on nothing. -/
def adjustedRecords (life : Lifecycle) (routine : List (Nat × Int)) : List FinancialRecordDto :=
  life.settledRecords (routineTotal routine) ++ life.refundRecords ++ emitAdjustments life ++
    life.routineRecords routine

/-- The records of a lifecycle with routine adjustments. -/
def withRoutine (life : Lifecycle) (routine : List (Nat × Int)) : List FinancialRecordDto :=
  [paymentRecord life.refs life.grossMinor life.method life.capturedAt] ++
    (if life.feeRecordsPresent then [.feeLine life.feeRecord, .taxLine life.taxRecord] else []) ++
    life.adjustedRecords routine

/-- The fees of the records come in two lines where they are split. -/
def withFees (life : Lifecycle) (routine : List (Nat × Int)) (feesSplit : Bool) :
    List FinancialRecordDto :=
  if feesSplit && life.feeRecordsPresent then
    [paymentRecord life.refs life.grossMinor life.method life.capturedAt] ++
      life.adjustedRecords routine ++ feeParts life.refs life.feeRecord ++
      taxParts life.refs life.taxRecord
  else life.withRoutine routine

end Lifecycle

/-- The records of a lifecycle with noise. -/
def noisyRecords (life : Lifecycle) (noise : Noise) : List FinancialRecordDto :=
  life.withFees noise.routine noise.feesSplit ++ noise.others

theorem withRoutine_nil (life : Lifecycle) :
    life.withRoutine [] = emit life ++ emitAdjustments life := by
  simp only [Lifecycle.withRoutine, Lifecycle.adjustedRecords, Lifecycle.settledRecords, emit,
    Lifecycle.routineRecords, Lifecycle.refundRecords, routineTotal, List.map_nil, List.sum_nil,
    add_zero, List.append_nil, Lifecycle.paidOut, List.append_assoc]
  rfl

theorem timeOf_iso (t : Date) : timeOf (iso t) = t := by
  unfold timeOf iso
  rw [readsISO_parseISOString t]
  rfl

/-! ## The kinds of the records -/

section Kinds

variable {life : Lifecycle} {routine : List (Nat × Int)} {rec : FinancialRecordDto}

theorem settledRecords_kind {delta : Int} (h : rec ∈ life.settledRecords delta) :
    rec.kind ∈ [.settlement, .settlementLine, .bankCredit] := by
  revert h
  unfold Lifecycle.settledRecords
  split <;>
    simp only [Lifecycle.splitRecords, Lifecycle.singleRecords, List.mem_cons, List.not_mem_nil,
      or_false]
  · rintro (rfl | rfl | rfl | rfl | rfl | rfl) <;> simp [FinancialRecordDto.kind]
  · rintro (rfl | rfl | rfl) <;> simp [FinancialRecordDto.kind]

theorem refundRecords_kind (h : rec ∈ life.refundRecords) : rec.kind = .refund := by
  obtain ⟨refund, -, rfl⟩ := List.mem_map.1 h
  rfl

theorem emitAdjustments_kind (h : rec ∈ emitAdjustments life) : rec.kind = .adjustment := by
  rcases List.mem_append.1 h with h | h <;>
  · obtain ⟨adjustment, -, rfl⟩ := List.mem_map.1 h
    rfl

theorem routineRecords_kind (h : rec ∈ life.routineRecords routine) : rec.kind = .adjustment := by
  obtain ⟨entry, -, rfl⟩ := List.mem_map.1 h
  rfl

theorem adjustedRecords_kind (h : rec ∈ life.adjustedRecords routine) :
    rec.kind ∉ [.order, .ledgerEntry, .payment, .feeLine, .taxLine] := by
  simp only [Lifecycle.adjustedRecords, List.mem_append] at h
  rcases h with ((h | h) | h) | h
  · have hkind := settledRecords_kind h
    revert hkind
    cases rec.kind <;> decide
  · rw [refundRecords_kind h]
    decide
  · rw [emitAdjustments_kind h]
    decide
  · rw [routineRecords_kind h]
    decide

end Kinds

/-! ## Routine adjustments -/

namespace Lifecycle

/-- The settlement a routine adjustment is booked on: the only one, or the first of two. -/
def firstSettlement (life : Lifecycle) (delta : Int) : SettlementDto :=
  if life.split then
    settlementRecord life.refs (life.grossMinor.tdiv 2) (life.paidOut.tdiv 2 + delta)
      life.settledAt
  else settlementRecord life.refs life.grossMinor (life.paidOut + delta) life.settledAt

def firstLine (life : Lifecycle) (delta : Int) : SettlementLineDto :=
  settlementLine life.refs (life.firstSettlement delta).netAmount.amountMinor life.settledAt

end Lifecycle

section Routine

variable {life : Lifecycle} {routine : List (Nat × Int)}

theorem append_ne_self {s t : String} (h : t ≠ "") : s ++ t ≠ s := by
  intro heq
  have := congrArg String.length heq
  rw [String.length_append] at this
  refine h (String.length_eq_zero_iff.1 ?_)
  omega

theorem firstSettlement_found (life : Lifecycle) (routine : List (Nat × Int)) :
    (life.withRoutine routine).findSome? (·.asSettlement) =
      some (life.firstSettlement (routineTotal routine)) := by
  simp only [Lifecycle.withRoutine, Lifecycle.adjustedRecords, Lifecycle.settledRecords,
    Lifecycle.firstSettlement, paymentRecord]
  cases life.feeRecordsPresent <;> cases life.split <;> rfl

theorem firstLine_found (life : Lifecycle) (routine : List (Nat × Int)) :
    (life.withRoutine routine).findSome? (·.asSettlementLine) =
      some (life.firstLine (routineTotal routine)) := by
  simp only [Lifecycle.withRoutine, Lifecycle.adjustedRecords, Lifecycle.settledRecords,
    Lifecycle.firstLine, Lifecycle.firstSettlement, paymentRecord]
  cases life.feeRecordsPresent <;> cases life.split <;> rfl

/-- The settlement, its line and its credit move together; a second leg stays as it is. -/
theorem settledRecords_adjust (life : Lifecycle) (total delta : Int) :
    (life.settledRecords total).map
        (adjustRecord (life.firstSettlement total) (life.firstLine total) delta) =
      life.settledRecords (total + delta) := by
  have hid : life.secondId ≠ life.refs.settlement := append_ne_self (by decide)
  have hutr : life.secondUtr ≠ life.refs.utr := append_ne_self (by decide)
  unfold Lifecycle.settledRecords Lifecycle.firstLine Lifecycle.firstSettlement
  cases hsplit : life.split with
  | false =>
      simp [Lifecycle.singleRecords, adjustRecord, settlementRecord, settlementLine,
        bankCreditRecord, money, add_assoc]
  | true =>
      simp [Lifecycle.splitRecords, adjustRecord, settlementRecord, settlementLine,
        bankCreditRecord, money, add_assoc, hid, hutr]

/-- Only settlements, their lines and bank credits are adjusted. -/
theorem adjustRecord_other {settlement : SettlementDto} {line : SettlementLineDto} {delta : Int}
    {l : List FinancialRecordDto}
    (h : ∀ rec ∈ l, rec.kind ∉ [.settlement, .settlementLine, .bankCredit]) :
    l.map (adjustRecord settlement line delta) = l := by
  have hsame : ∀ rec ∈ l, adjustRecord settlement line delta rec = id rec := by
    intro rec hrec
    have hkind := h rec hrec
    cases rec <;> simp_all [adjustRecord, FinancialRecordDto.kind]
  rw [List.map_congr_left hsame, List.map_id]

theorem withRoutine_adjust (life : Lifecycle) (routine : List (Nat × Int)) (i : Nat)
    (delta : Int) :
    (life.withRoutine routine).map (adjustRecord (life.firstSettlement (routineTotal routine))
        (life.firstLine (routineTotal routine)) delta) ++
      [.adjustment (routineAdjustment life.refs life.refs.settlement i delta life.settledAt)] =
    life.withRoutine (routine ++ [(i, delta)]) := by
  have htotal : routineTotal (routine ++ [(i, delta)]) = routineTotal routine + delta := by
    simp [routineTotal]
  simp only [Lifecycle.withRoutine, Lifecycle.adjustedRecords, List.map_append,
    settledRecords_adjust, htotal]
  rw [adjustRecord_other (l := [paymentRecord _ _ _ _]), adjustRecord_other (l := ite _ _ _),
    adjustRecord_other (l := life.refundRecords), adjustRecord_other (l := emitAdjustments life),
    adjustRecord_other (l := life.routineRecords routine)]
  · simp [Lifecycle.routineRecords, List.append_assoc]
  · intro rec hrec
    rw [routineRecords_kind hrec]
    decide
  · intro rec hrec
    rw [emitAdjustments_kind hrec]
    decide
  · intro rec hrec
    rw [refundRecords_kind hrec]
    decide
  · split <;> simp [FinancialRecordDto.kind]
  · simp [paymentRecord, FinancialRecordDto.kind]

/-- One routine adjustment, or none when it comes to nothing. -/
theorem applyOneAdjustment_always (life : Lifecycle) (routine : List (Nat × Int)) (i : Nat) :
    Always (applyOneAdjustment (life.withRoutine routine) life.refs i) fun records =>
      records = life.withRoutine routine ∨
        ∃ delta, delta ≠ 0 ∧ records = life.withRoutine (routine ++ [(i, delta)]) := by
  unfold applyOneAdjustment
  rw [firstSettlement_found, firstLine_found]
  refine Always.true.bind fun scale _ => Always.true.bind fun positive _ => ?_
  dsimp only
  generalize (if positive = true then (_ : Int) else _) = delta
  split
  · exact Always.pure (Or.inl rfl)
  · rename_i hdelta
    refine Always.pure (Or.inr ⟨delta, hdelta, ?_⟩)
    have hid : ∀ total, (life.firstSettlement total).settlementId = life.refs.settlement := by
      intro total
      unfold Lifecycle.firstSettlement
      split <;> rfl
    have htime : ∀ total, timeOf (life.firstSettlement total).settlementAt = life.settledAt := by
      intro total
      unfold Lifecycle.firstSettlement
      split <;> exact timeOf_iso _
    rw [hid, htime, withRoutine_adjust]

/-- Every routine adjustment has an index of its own, and comes to something. -/
theorem applyAdjustments_always (life : Lifecycle) (count : Nat) :
    Always (applyAdjustments (life.withRoutine []) life.refs count) fun records =>
      ∃ routine : List (Nat × Int), (routine.map Prod.fst).Nodup ∧
        (∀ entry ∈ routine, entry.2 ≠ 0) ∧ records = life.withRoutine routine := by
  have hnone : ∃ routine : List (Nat × Int), (routine.map Prod.fst).Sublist [] ∧
      (∀ entry ∈ routine, entry.2 ≠ 0) ∧ life.withRoutine [] = life.withRoutine routine :=
    ⟨[], List.Sublist.slnil, nofun, rfl⟩
  refine (Always.foldlM (fun done records => ∃ routine : List (Nat × Int),
    (routine.map Prod.fst).Sublist done ∧ (∀ entry ∈ routine, entry.2 ≠ 0) ∧
      records = life.withRoutine routine)
    (fun done i records hrecords => ?_) hnone).imp fun records h => ?_
  · obtain ⟨routine, hsub, hnonzero, rfl⟩ := hrecords
    refine (applyOneAdjustment_always life routine i).imp fun records' h => ?_
    rcases h with rfl | ⟨delta, hdelta, rfl⟩
    · exact ⟨routine, hsub.trans (List.sublist_append_left _ _), hnonzero, rfl⟩
    · refine ⟨_, ?_, fun entry hentry => ?_, rfl⟩
      · rw [List.map_append]
        exact hsub.append (List.Sublist.refl _)
      · rcases List.mem_append.1 hentry with hentry | hentry
        · exact hnonzero entry hentry
        · rw [List.mem_singleton.1 hentry]
          exact hdelta
  · obtain ⟨routine, hsub, hnonzero, rfl⟩ := h
    exact ⟨routine, hsub.nodup List.nodup_range, hnonzero, rfl⟩

end Routine

/-! ## Fees in two lines -/

section Fees

variable {life : Lifecycle} {routine : List (Nat × Int)}

/-- Without its fee and its tax. -/
theorem withRoutine_filter (hpresent : life.feeRecordsPresent = true) :
    (life.withRoutine routine).filter (fun rec =>
        rec != .feeLine life.feeRecord && rec != .taxLine life.taxRecord) =
      [paymentRecord life.refs life.grossMinor life.method life.capturedAt] ++
        life.adjustedRecords routine := by
  have hadjusted : (life.adjustedRecords routine).filter (fun rec =>
      rec != .feeLine life.feeRecord && rec != .taxLine life.taxRecord) =
        life.adjustedRecords routine := by
    refine List.filter_eq_self.2 fun rec hrec => ?_
    have hkind := adjustedRecords_kind hrec
    cases rec <;> simp_all [FinancialRecordDto.kind]
  unfold Lifecycle.withRoutine
  rw [List.filter_append, hadjusted, if_pos hpresent]
  simp [paymentRecord]

theorem withRoutine_asFeeLine :
    (life.withRoutine routine).findSome? (·.asFeeLine) =
      if life.feeRecordsPresent then some life.feeRecord else none := by
  have hadjusted : (life.adjustedRecords routine).findSome? (·.asFeeLine) = none := by
    refine List.findSome?_eq_none_iff.2 fun rec hrec => ?_
    have hkind := adjustedRecords_kind hrec
    cases rec <;> simp_all [FinancialRecordDto.kind, FinancialRecordDto.asFeeLine]
  unfold Lifecycle.withRoutine
  rw [List.findSome?_append, hadjusted]
  cases life.feeRecordsPresent <;> rfl

theorem withRoutine_asTaxLine (hpresent : life.feeRecordsPresent = true) :
    (life.withRoutine routine).findSome? (·.asTaxLine) = some life.taxRecord := by
  unfold Lifecycle.withRoutine
  rw [if_pos hpresent]
  rfl

/-- The fees stay in one line, or come in two. -/
theorem splitFeeLines_always (life : Lifecycle) (routine : List (Nat × Int)) :
    Always (splitFeeLines (life.withRoutine routine) life.refs) fun records =>
      ∃ feesSplit, records = life.withFees routine feesSplit := by
  have hkept : ∃ feesSplit, life.withRoutine routine = life.withFees routine feesSplit :=
    ⟨false, rfl⟩
  refine Always.true.bind fun splits _ => ?_
  split
  · exact Always.pure hkept
  rw [withRoutine_asFeeLine]
  by_cases hpresent : life.feeRecordsPresent = true
  · rw [if_pos hpresent, withRoutine_asTaxLine hpresent]
    dsimp only
    split
    · exact Always.pure hkept
    · refine Always.pure (P := fun records => ∃ feesSplit,
        records = life.withFees routine feesSplit) ⟨true, ?_⟩
      rw [withRoutine_filter hpresent, Lifecycle.withFees, hpresent]
      rfl
  · rw [if_neg hpresent]
    exact Always.pure hkept

/-- What bears on nothing is not of the lifecycle. -/
theorem withFees_kind {feesSplit : Bool} {rec : FinancialRecordDto}
    (h : rec ∈ life.withFees routine feesSplit) :
    rec.kind ≠ .order ∧ rec.kind ≠ .ledgerEntry := by
  have hrest : ∀ {rec}, rec ∈ life.adjustedRecords routine →
      rec.kind ≠ .order ∧ rec.kind ≠ .ledgerEntry := by
    intro rec hrec
    have hkind := adjustedRecords_kind hrec
    revert hkind
    cases rec.kind <;> decide
  unfold Lifecycle.withFees at h
  split at h
  · simp only [List.mem_append, List.mem_singleton] at h
    rcases h with ((rfl | h) | h) | h
    · exact ⟨nofun, nofun⟩
    · exact hrest h
    · simp only [feeParts, List.mem_cons, List.not_mem_nil, or_false] at h
      rcases h with rfl | rfl <;> exact ⟨nofun, nofun⟩
    · simp only [taxParts, List.mem_cons, List.not_mem_nil, or_false] at h
      rcases h with rfl | rfl <;> exact ⟨nofun, nofun⟩
  · simp only [Lifecycle.withRoutine, List.mem_append, List.mem_singleton] at h
    rcases h with (rfl | h) | h
    · exact ⟨nofun, nofun⟩
    · split at h
      · simp only [List.mem_cons, List.not_mem_nil, or_false] at h
        rcases h with rfl | rfl <;> exact ⟨nofun, nofun⟩
      · cases h
    · exact hrest h

end Fees

/-! ## The noise of a case -/

/-- What is drawn is drawn for some element. -/
theorem exists_of_forall₂ {α β : Type} {R : α → β → Prop} {l : List α} {out : List β}
    (h : List.Forall₂ R l out) : ∀ b ∈ out, ∃ a ∈ l, R a b := by
  induction h with
  | nil => simp
  | cons hab _ ih =>
      intro b hb
      rcases List.mem_cons.1 hb with rfl | hb
      · exact ⟨_, List.mem_cons_self, hab⟩
      · obtain ⟨a, ha, hR⟩ := ih b hb
        exact ⟨a, List.mem_cons_of_mem _ ha, hR⟩

/-- What is drawn for each element of a list without repetition differs where its key tells
the element. -/
theorem nodup_of_forall₂ {α β κ : Type} {R : α → β → Prop} {key : β → κ}
    (hR : ∀ {a a' b b'}, R a b → R a' b' → key b = key b' → a = a') {l : List α} {out : List β}
    (h : List.Forall₂ R l out) (hl : l.Nodup) : (out.map key).Nodup := by
  induction h with
  | nil => exact List.nodup_nil
  | cons hab htail ih =>
      obtain ⟨hnew, hrest⟩ := List.nodup_cons.1 hl
      refine List.nodup_cons.2 ⟨fun hin => ?_, ih hrest⟩
      obtain ⟨b, hb, hkey⟩ := List.mem_map.1 hin
      obtain ⟨a, ha, hab'⟩ := exists_of_forall₂ htail b hb
      rw [hR hab hab' hkey.symm] at hnew
      exact hnew ha

/-- Records that bear on nothing are told apart by their index. -/
theorem noiseRecords_always (r : Refs) (capturedAt : Date) (grossMinor : Int) :
    Always (noiseRecords r capturedAt grossMinor) fun records =>
      (∀ x ∈ records, x.kind = .order ∨ x.kind = .ledgerEntry) ∧
        (records.map fun x => (x.kind, x.lineage.sourceRecordId)).Nodup := by
  refine Always.true.bind fun count _ => ?_
  have hone : ∀ i, Always (noiseRecord r capturedAt grossMinor i) fun x =>
      (x.kind, x.lineage.sourceRecordId) ∈
        [(.order, "ord_" ++ r.suffix ++ "_" ++ toString i),
          (.ledgerEntry, "led_" ++ r.suffix ++ "_" ++ toString i)] := by
    intro i
    refine Always.true.bind fun ledger _ => ?_
    split
    · exact Always.pure (by simp [FinancialRecordDto.kind, FinancialRecordDto.lineage, lineage])
    · exact Always.pure (by simp [FinancialRecordDto.kind, FinancialRecordDto.lineage, lineage])
  refine (Always.mapM hone (List.range count)).imp fun records h => ⟨?_, ?_⟩
  · intro x hx
    obtain ⟨i, -, hi⟩ := exists_of_forall₂ h x hx
    simp only [List.mem_cons, Prod.mk.injEq, List.not_mem_nil, or_false] at hi
    exact hi.imp And.left And.left
  · refine nodup_of_forall₂ (fun {i j x y} hx hy hkey => ?_) h List.nodup_range
    rw [← hkey] at hy
    simp only [List.mem_cons, List.not_mem_nil, or_false] at hx hy
    rcases hx with hx | hx <;> rw [hx] at hy <;> rcases hy with hy | hy
    · exact toString_injective ((String.append_right_inj _).1 (congrArg Prod.snd hy))
    · cases congrArg Prod.fst hy
    · cases congrArg Prod.fst hy
    · exact toString_injective ((String.append_right_inj _).1 (congrArg Prod.snd hy))

/-- **The noise of a case** is that of one payment whose records stay as they should be. -/
theorem withAdjustments_always (life : Lifecycle) (capturedAt : Date) (grossMinor : Int)
    (count : Nat) :
    Always (withAdjustments (emit life ++ emitAdjustments life) life.refs capturedAt grossMinor
      count) fun records => ∃ noise, records = noisyRecords life noise := by
  rw [← withRoutine_nil]
  refine (applyAdjustments_always life count).bind fun adjusted hadjusted => ?_
  obtain ⟨routine, hdistinct, hnonzero, rfl⟩ := hadjusted
  refine (splitFeeLines_always life routine).bind fun split hsplit => ?_
  obtain ⟨feesSplit, rfl⟩ := hsplit
  refine (noiseRecords_always life.refs capturedAt grossMinor).bind fun others hothers => ?_
  exact Always.pure ⟨⟨routine, hdistinct, hnonzero, feesSplit, others, hothers.1, hothers.2⟩, rfl⟩

theorem withNoise_always (life : Lifecycle) (capturedAt : Date) (grossMinor : Int) :
    Always (withNoise (emit life ++ emitAdjustments life) life.refs capturedAt grossMinor)
      fun records => ∃ noise, records = noisyRecords life noise := by
  rw [withNoise_eq]
  exact Always.true.bind fun count _ => withAdjustments_always life capturedAt grossMinor count

end SettlementOps.Generator
