import SettlementOps.Generator.RenderedCases
import SettlementOps.Store.Isolation

/-!
# The identifiers of a case

Every source record id a case mentions has the suffix of the case after its first underscore, and
every UTR has it after its first three letters.  So records of two cases do not meet, whatever
their causes and whatever their noise.

* `Bears`, `bears_unique` — an identifier has one suffix.
* `refsOf` — the identifiers of a suffix; `Plain` suffixes are told apart by them.
* `OfCase` — a record that only mentions the suffix of its case, and that normalizes.
* `renderCase_ofCase` — all visible records of a case are such.
* `not_meets_of_suffix_ne` — records of cases with different suffixes do not meet.
-/

namespace SettlementOps

namespace FinancialRecordDto

/-- The source record ids a record is stored or resolved by. -/
def mentions : FinancialRecordDto → List String
  | order dto => [dto.lineage.sourceRecordId]
  | payment dto => dto.lineage.sourceRecordId :: dto.orderId.toList
  | feeLine dto => dto.lineage.sourceRecordId :: dto.paymentId.toList
  | taxLine dto => dto.lineage.sourceRecordId :: dto.feeLineSourceId.toList
  | refund dto => [dto.lineage.sourceRecordId, dto.paymentId]
  | adjustment dto => dto.lineage.sourceRecordId :: dto.settlementId.toList
  | settlement dto => [dto.lineage.sourceRecordId, dto.settlementId]
  | settlementLine dto =>
      dto.lineage.sourceRecordId :: dto.settlementId :: dto.paymentId.toList
  | bankCredit dto => [dto.lineage.sourceRecordId]
  | ledgerEntry dto => [dto.lineage.sourceRecordId]

def utrs : FinancialRecordDto → List String
  | settlement dto => dto.utr.toList
  | bankCredit dto => [dto.utr]
  | _ => []

/-- The texts a record gives as times. -/
def times : FinancialRecordDto → List String
  | order dto => [dto.lineage.observedAt, dto.createdAt]
  | payment dto => dto.lineage.observedAt :: dto.authorizedAt.toList ++ dto.capturedAt.toList
  | feeLine dto => [dto.lineage.observedAt, dto.effectiveDate]
  | taxLine dto => [dto.lineage.observedAt]
  | refund dto => dto.lineage.observedAt :: dto.createdAt :: dto.settledAt.toList
  | adjustment dto => [dto.lineage.observedAt, dto.effectiveAt]
  | settlement dto => [dto.lineage.observedAt, dto.settlementAt]
  | settlementLine dto => [dto.lineage.observedAt]
  | bankCredit dto => [dto.lineage.observedAt, dto.creditedAt]
  | ledgerEntry dto => [dto.lineage.observedAt, dto.postedAt]

def amounts : FinancialRecordDto → List MoneyDto
  | order dto => [dto.amount]
  | payment dto => [dto.amount]
  | feeLine dto => [dto.amount]
  | taxLine dto => [dto.amount]
  | refund dto => [dto.amount]
  | adjustment dto => [dto.amount]
  | settlement dto => [dto.grossAmount, dto.netAmount]
  | settlementLine dto => [dto.amount]
  | bankCredit dto => [dto.amount]
  | ledgerEntry dto => [dto.amount]

end FinancialRecordDto

def FinancialRecord.utrs : FinancialRecord → List String
  | settlement r => r.utr.toList
  | bankCredit r => [r.utr]
  | _ => []

/-- A bank credit that pays a settlement has its UTR. -/
theorem utr_of_pays {r x : FinancialRecord} (h : r.pays x = true) :
    ∃ utr ∈ r.utrs, utr ∈ x.utrs := by
  cases r <;> cases x <;> try cases h
  rename_i b s
  exact ⟨b.utr, List.mem_cons_self, Option.mem_toList.2 (of_decide_eq_true h)⟩

/-! ## What a normalized record mentions -/

section Normalized

variable {parseDate : String → Option Date} {common : RecordBase} {index : Nat}
  {dto : FinancialRecordDto} {r : FinancialRecord}

/-- A record refers to what its request mentions and carries its UTR. -/
theorem normalizeKind_mentions (h : normalizeKind parseDate common index dto = .ok r) :
    (∀ k n, r.references k = some n → n ∈ dto.mentions) ∧ r.utrs = dto.utrs := by
  cases dto with
  | taxLine _ | settlementLine _ =>
      obtain ⟨_, -, h⟩ := bind_eq_ok_iff.1 h
      cases h
      refine ⟨fun k n hk => ?_, rfl⟩
      cases k <;> simp_all [FinancialRecord.references, FinancialRecord.names,
        FinancialRecordDto.mentions]
  | order _ | feeLine _ | adjustment _ | bankCredit _ | ledgerEntry _ =>
      obtain ⟨_, -, h⟩ := bind_eq_ok_iff.1 h
      obtain ⟨_, -, h⟩ := bind_eq_ok_iff.1 h
      cases h
      refine ⟨fun k n hk => ?_, rfl⟩
      cases k <;> simp_all [FinancialRecord.references, FinancialRecord.names,
        FinancialRecordDto.mentions]
  | payment _ | refund _ | settlement _ =>
      obtain ⟨_, -, h⟩ := bind_eq_ok_iff.1 h
      obtain ⟨_, -, h⟩ := bind_eq_ok_iff.1 h
      obtain ⟨_, -, h⟩ := bind_eq_ok_iff.1 h
      cases h
      refine ⟨fun k n hk => ?_, rfl⟩
      cases k <;> simp_all [FinancialRecord.references, FinancialRecord.names,
        FinancialRecordDto.mentions]

theorem source_mem_mentions (dto : FinancialRecordDto) :
    dto.lineage.sourceRecordId ∈ dto.mentions := by
  cases dto <;> exact List.mem_cons_self

end Normalized

namespace Generator

open Random

/-! ## Suffixes -/

/-- An identifier that has a suffix after its first underscore. -/
def Bears (suffix id : String) : Prop :=
  ∃ word tail, id = word ++ suffix ++ tail ∧ word.toList.dropWhile (· ≠ '_') = ['_']

theorem Bears.append {suffix id : String} (h : Bears suffix id) (t : String) :
    Bears suffix (id ++ t) := by
  obtain ⟨word, tail, rfl, hword⟩ := h
  exact ⟨word, tail ++ t, by rw [String.append_assoc], hword⟩

theorem bears_word {word : String} (h : word.toList.dropWhile (· ≠ '_') = ['_'])
    (suffix : String) : Bears suffix (word ++ suffix) :=
  ⟨word, "", by rw [String.append_empty], h⟩

/-- An identifier has one suffix of a length. -/
theorem bears_unique {s t id : String} (hs : Bears s id) (ht : Bears t id)
    (hlen : s.length = t.length) : s = t := by
  obtain ⟨word, tail, rfl, hword⟩ := hs
  obtain ⟨word', tail', heq, hword'⟩ := ht
  have hdrop : ∀ word text : String, word.toList.dropWhile (· ≠ '_') = ['_'] →
      ((word ++ text).toList.dropWhile (· ≠ '_')) = '_' :: text.toList := by
    intro word text h
    rw [String.toList_append, List.dropWhile_append, h]
    rfl
  have hrest : s.toList ++ tail.toList = t.toList ++ tail'.toList := by
    have hafter := congrArg (fun id : String => id.toList.dropWhile (· ≠ '_')) heq
    rw [String.append_assoc, String.append_assoc, hdrop _ _ hword, hdrop _ _ hword',
      List.cons.injEq, String.toList_append, String.toList_append] at hafter
    exact hafter.2
  exact String.toList_injective (List.append_inj_left hrest hlen)

theorem length_suffixFor (ordinal : Nat) : (suffixFor ordinal).length = 7 := by
  simp [suffixFor, String.length]

/-- The digits in base 36, and a minus sign. -/
def suffixChars : List Char := "0123456789abcdefghijklmnopqrstuvwxyz-".toList

/-- A suffix of such characters. -/
def Plain (suffix : String) : Prop := ∀ c ∈ suffix.toList, c ∈ suffixChars

theorem base36Digit_mem {n : Nat} (h : n < 36) : base36Digit n ∈ suffixChars := by
  have hall : ∀ n : Fin 36, base36Digit n ∈ suffixChars := by decide
  exact hall ⟨n, h⟩

theorem plain_suffixFor (ordinal : Nat) : Plain (suffixFor ordinal) := by
  intro c hc
  unfold suffixFor at hc
  rw [String.toList_ofList] at hc
  obtain ⟨k, -, rfl⟩ := List.mem_map.1 hc
  exact base36Digit_mem (Nat.mod_lt _ (by decide))

/-- Such characters are told apart in capitals too. -/
theorem toUpper_inj_of_mem :
    ∀ a ∈ suffixChars, ∀ b ∈ suffixChars, a.toUpper = b.toUpper → a = b := by
  have hnodup : (suffixChars.map Char.toUpper).Nodup := by decide
  exact fun _ ha _ hb h => List.inj_on_of_nodup_map hnodup ha hb h

theorem Plain.toUpper_inj {s t : String} (hs : Plain s) (ht : Plain t)
    (h : s.toList.map Char.toUpper = t.toList.map Char.toUpper) : s = t := by
  refine String.toList_injective ?_
  unfold Plain at hs ht
  generalize s.toList = xs at hs h
  generalize t.toList = ys at ht h
  induction xs generalizing ys with
  | nil => exact (List.map_eq_nil_iff.1 h.symm).symm
  | cons x xs ih =>
      cases ys with
      | nil => cases h
      | cons y ys =>
          obtain ⟨hx, hs⟩ := List.forall_mem_cons.1 hs
          obtain ⟨hy, ht⟩ := List.forall_mem_cons.1 ht
          rw [List.map_cons, List.map_cons, List.cons.injEq] at h
          rw [toUpper_inj_of_mem x hx y hy h.1, ih hs ys ht h.2]

/-- The identifiers of a suffix. -/
def refsOf (suffix : String) : Refs where
  payment := "pay_" ++ suffix
  settlement := "set_" ++ suffix
  utr := "UTR" ++ String.ofList (suffix.toList.map Char.toUpper)
  suffix

theorem refsFor_eq (ordinal : Nat) : refsFor ordinal = refsOf (suffixFor ordinal) := rfl

/-- A UTR tells the suffix it was made of. -/
theorem utr_unique {s t a b : String} (hs : Plain s) (ht : Plain t) (hlen : s.length = t.length)
    (h : (refsOf s).utr ++ a = (refsOf t).utr ++ b) : s = t := by
  have hlist := congrArg String.toList h
  simp only [refsOf, String.toList_append, String.toList_ofList, List.append_assoc,
    List.append_cancel_left_eq] at hlist
  refine hs.toUpper_inj ht (List.append_inj_left hlist ?_)
  rw [List.length_map, List.length_map]
  exact hlen

/-! ## The records of a case -/

/-- A record whose times and amounts normalize. -/
structure Readable (dto : FinancialRecordDto) : Prop where
  times : ∀ text ∈ dto.times, ∃ t, text = iso t
  amounts : ∀ amount ∈ dto.amounts, amount.currency = "INR"

/-- A record that mentions no other case, and whose times and amounts normalize. -/
structure OfCase (suffix : String) (dto : FinancialRecordDto) : Prop where
  mentions : ∀ id ∈ dto.mentions, Bears suffix id
  utrs : ∀ utr ∈ dto.utrs, ∃ tail, utr = (refsOf suffix).utr ++ tail
  times : ∀ text ∈ dto.times, ∃ t, text = iso t
  amounts : ∀ amount ∈ dto.amounts, amount.currency = "INR"

theorem OfCase.readable {suffix : String} {dto : FinancialRecordDto} (h : OfCase suffix dto) :
    Readable dto := ⟨h.times, h.amounts⟩

/-- The words of the generator's identifiers end with their underscore. -/
theorem bears_words (suffix : String) : ∀ word ∈ ["pay_", "set_", "fee_", "tax_", "sl_", "bc_",
    "rfnd_", "adju_", "adji_", "adjr_", "led_", "ord_"], Bears suffix (word ++ suffix) := by
  intro word hword
  refine bears_word ?_ suffix
  revert word
  decide

section Records

variable (suffix : String)

theorem bears_payment : Bears suffix (refsOf suffix).payment :=
  bears_words _ "pay_" (by decide)

theorem bears_settlement : Bears suffix (refsOf suffix).settlement :=
  bears_words _ "set_" (by decide)

theorem ofCase_payment (grossMinor : Int) (method : PaymentMethod) (capturedAt : Date) :
    OfCase suffix (paymentRecord (refsOf suffix) grossMinor method capturedAt) where
  mentions := List.forall_mem_singleton.2 (bears_payment suffix)
  utrs := List.forall_mem_nil _
  times := by simp [paymentRecord, FinancialRecordDto.times, lineage]
  amounts := List.forall_mem_singleton.2 rfl

theorem ofCase_feeLine (fee : Int) (capturedAt : Date) :
    OfCase suffix (.feeLine (feeLine (refsOf suffix) fee capturedAt)) where
  mentions := List.forall_mem_cons.2 ⟨bears_words _ "fee_" (by decide),
    List.forall_mem_singleton.2 (bears_payment suffix)⟩
  utrs := List.forall_mem_nil _
  times := by simp [FinancialRecordDto.times, feeLine, lineage]
  amounts := List.forall_mem_singleton.2 rfl

theorem ofCase_taxLine (tax : Int) (capturedAt : Date) :
    OfCase suffix (.taxLine (taxLine (refsOf suffix) tax capturedAt)) where
  mentions := List.forall_mem_cons.2 ⟨bears_words _ "tax_" (by decide),
    List.forall_mem_singleton.2 (bears_words _ "fee_" (by decide))⟩
  utrs := List.forall_mem_nil _
  times := by simp [FinancialRecordDto.times, taxLine, lineage]
  amounts := List.forall_mem_singleton.2 rfl

theorem ofCase_settlement (grossMinor netMinor : Int) (settledAt : Date) {id utr : String}
    (hid : Bears suffix id) (hutr : ∃ tail, utr = (refsOf suffix).utr ++ tail) :
    OfCase suffix
      (.settlement (settlementRecord (refsOf suffix) grossMinor netMinor settledAt id utr)) where
  mentions := List.forall_mem_cons.2 ⟨hid, List.forall_mem_singleton.2 hid⟩
  utrs := List.forall_mem_singleton.2 hutr
  times := by simp [FinancialRecordDto.times, settlementRecord, lineage]
  amounts := List.forall_mem_cons.2 ⟨rfl, List.forall_mem_singleton.2 rfl⟩

theorem ofCase_settlementLine (amountMinor : Int) (settledAt : Date) {settlementId id : String}
    (hsettlement : Bears suffix settlementId) (hid : Bears suffix id) :
    OfCase suffix (.settlementLine
      (settlementLine (refsOf suffix) amountMinor settledAt settlementId id)) where
  mentions := List.forall_mem_cons.2 ⟨hid, List.forall_mem_cons.2 ⟨hsettlement,
    List.forall_mem_singleton.2 (bears_payment suffix)⟩⟩
  utrs := List.forall_mem_nil _
  times := by simp [FinancialRecordDto.times, settlementLine, lineage]
  amounts := List.forall_mem_singleton.2 rfl

theorem ofCase_bankCredit (amountMinor : Int) (creditedAt : Date) {utr : String}
    (id : Option String) (hutr : ∃ tail, utr = (refsOf suffix).utr ++ tail)
    (hid : Bears suffix (id.getD ("bc_" ++ suffix))) :
    OfCase suffix
      (.bankCredit (bankCreditRecord (refsOf suffix) amountMinor creditedAt utr id)) where
  mentions := List.forall_mem_singleton.2 hid
  utrs := List.forall_mem_singleton.2 hutr
  times := by simp [FinancialRecordDto.times, bankCreditRecord, lineage]
  amounts := List.forall_mem_singleton.2 rfl

theorem ofCase_refund (amountMinor : Int) (createdAt settledAt : Date) :
    OfCase suffix
      (.refund (refundRecord (refsOf suffix) amountMinor createdAt (some settledAt))) where
  mentions := List.forall_mem_cons.2 ⟨bears_words _ "rfnd_" (by decide),
    List.forall_mem_singleton.2 (bears_payment suffix)⟩
  utrs := List.forall_mem_nil _
  times := by simp [FinancialRecordDto.times, refundRecord, lineage]
  amounts := List.forall_mem_singleton.2 rfl

end Records

section Emitted

variable {suffix : String} {life : Lifecycle} (hrefs : life.refs = refsOf suffix)
include hrefs

theorem emit_ofCase : ∀ rec ∈ emit life, OfCase suffix rec := by
  obtain ⟨refs⟩ := life
  obtain rfl : refs = refsOf suffix := hrefs
  have hutr : ∃ tail, (refsOf suffix).utr = (refsOf suffix).utr ++ tail :=
    ⟨"", String.append_empty.symm⟩
  have hsecondUtr : ∃ tail, (refsOf suffix).utr ++ "B" = (refsOf suffix).utr ++ tail :=
    ⟨"B", rfl⟩
  have hset := bears_settlement suffix
  have hline : Bears suffix ("sl_" ++ suffix) :=
    bears_words _ "sl_" (by decide)
  have hcredit : Bears suffix ("bc_" ++ suffix) :=
    bears_words _ "bc_" (by decide)
  intro rec hrec
  unfold emit at hrec
  simp only [List.mem_append, List.mem_singleton] at hrec
  rcases hrec with ((rfl | hrec) | hrec) | hrec
  · exact ofCase_payment suffix _ _ _
  · split at hrec
    · simp only [feeRecords, List.mem_cons, List.not_mem_nil, or_false] at hrec
      rcases hrec with rfl | rfl
      · exact ofCase_feeLine suffix _ _
      · exact ofCase_taxLine suffix _ _
    · cases hrec
  · split at hrec
    · simp only [Lifecycle.splitRecords, List.mem_cons, List.not_mem_nil, or_false] at hrec
      rcases hrec with rfl | rfl | rfl | rfl | rfl | rfl
      · exact ofCase_settlement suffix _ _ _ hset hutr
      · exact ofCase_settlement suffix _ _ _ (hset.append "b") hsecondUtr
      · exact ofCase_settlementLine suffix _ _ hset hline
      · exact ofCase_settlementLine suffix _ _ (hset.append "b") (hline.append "b")
      · exact ofCase_bankCredit suffix _ _ none hutr hcredit
      · exact ofCase_bankCredit suffix _ _ (some _) hsecondUtr (hcredit.append "b")
    · simp only [Lifecycle.singleRecords, List.mem_cons, List.not_mem_nil, or_false] at hrec
      rcases hrec with rfl | rfl | rfl
      · exact ofCase_settlement suffix _ _ _ hset hutr
      · exact ofCase_settlementLine suffix _ _ hset hline
      · exact ofCase_bankCredit suffix _ _ none hutr hcredit
  · obtain ⟨refund, -, rfl⟩ := List.mem_map.1 hrec
    exact ofCase_refund suffix _ _ _

theorem emitAdjustments_ofCase : ∀ rec ∈ emitAdjustments life, OfCase suffix rec := by
  obtain ⟨refs⟩ := life
  obtain rfl : refs = refsOf suffix := hrefs
  intro rec hrec
  unfold emitAdjustments at hrec
  rcases List.mem_append.1 hrec with hrec | hrec
  · obtain ⟨minor, -, rfl⟩ := List.mem_map.1 hrec
    refine ⟨List.forall_mem_singleton.2 ?_, List.forall_mem_nil _, ?_,
      List.forall_mem_singleton.2 rfl⟩
    · exact bears_words _ "adju_" (by decide)
    · simp [FinancialRecordDto.times, unallocatedAdjustment, lineage]
  · obtain ⟨adjustment, -, rfl⟩ := List.mem_map.1 hrec
    refine ⟨List.forall_mem_cons.2 ⟨?_, List.forall_mem_singleton.2 (bears_settlement suffix)⟩,
      List.forall_mem_nil _, ?_, List.forall_mem_singleton.2 rfl⟩
    · exact bears_words _ "adji_" (by decide)
    · simp [FinancialRecordDto.times, impossibleAdjustment, lineage]

end Emitted

/-! ## Noise -/

section Noise

variable {suffix : String} {records : List FinancialRecordDto}

theorem adjustRecord_ofCase (settlement : SettlementDto) (line : SettlementLineDto) (delta : Int)
    {rec : FinancialRecordDto} (h : OfCase suffix rec) :
    OfCase suffix (adjustRecord settlement line delta rec) := by
  unfold adjustRecord
  split
  · rename_i heq
    subst heq
    exact ⟨h.mentions, h.utrs, h.times, List.forall_mem_cons.2
      ⟨h.amounts _ List.mem_cons_self, List.forall_mem_singleton.2 rfl⟩⟩
  split
  · rename_i heq
    subst heq
    exact ⟨h.mentions, h.utrs, h.times, List.forall_mem_singleton.2 rfl⟩
  split
  · split
    · exact ⟨h.mentions, h.utrs, h.times, List.forall_mem_singleton.2 rfl⟩
    · exact h
  · exact h

theorem routineAdjustment_ofCase {settlementId : String}
    (hid : Bears suffix settlementId) (index : Nat) (delta : Int) (settledAt : Date) :
    OfCase suffix
      (.adjustment (routineAdjustment (refsOf suffix) settlementId index delta settledAt)) where
  mentions := List.forall_mem_cons.2
    ⟨((bears_words _ "adjr_" (by decide)).append "_").append (toString index),
      List.forall_mem_singleton.2 hid⟩
  utrs := List.forall_mem_nil _
  times := by simp [FinancialRecordDto.times, routineAdjustment, lineage]
  amounts := List.forall_mem_singleton.2 rfl

theorem applyOneAdjustment_ofCase (hrecords : ∀ rec ∈ records, OfCase suffix rec) (index : Nat) :
    Always (applyOneAdjustment records (refsOf suffix) index) fun out =>
      ∀ rec ∈ out, OfCase suffix rec := by
  unfold applyOneAdjustment
  cases hsettlement : records.findSome? (·.asSettlement) with
  | none => exact Always.pure hrecords
  | some settlement =>
      cases hline : records.findSome? (·.asSettlementLine) with
      | none => exact Always.pure hrecords
      | some line =>
          obtain ⟨found, hfound, has⟩ := List.exists_of_findSome?_eq_some hsettlement
          have hid : Bears suffix settlement.settlementId := by
            cases found <;> cases has
            exact (hrecords _ hfound).mentions _ (List.mem_cons_of_mem _ List.mem_cons_self)
          refine Always.true.bind fun scale _ => Always.true.bind fun positive _ => ?_
          dsimp only
          generalize (if positive = true then (_ : Int) else _) = delta
          split
          · exact Always.pure hrecords
          · refine Always.pure fun rec hrec => ?_
            rcases List.mem_append.1 hrec with hrec | hrec
            · obtain ⟨original, horiginal, rfl⟩ := List.mem_map.1 hrec
              exact adjustRecord_ofCase _ _ _ (hrecords _ horiginal)
            · rw [List.mem_singleton.1 hrec]
              exact routineAdjustment_ofCase hid _ _ _

theorem applyAccountedAdjustments_ofCase (hrecords : ∀ rec ∈ records, OfCase suffix rec) :
    Always (applyAccountedAdjustments records (refsOf suffix)) fun out =>
      ∀ rec ∈ out, OfCase suffix rec := by
  refine Always.true.bind fun count _ => ?_
  exact @Always.foldlM _ _ _ _ (fun _ current => ∀ rec ∈ current, OfCase suffix rec) _
    (fun _ i _ hcurrent => applyOneAdjustment_ofCase hcurrent i) [] _ hrecords

theorem feeParts_ofCase {fee : FeeLineDto} (h : OfCase suffix (.feeLine fee)) :
    ∀ rec ∈ feeParts (refsOf suffix) fee, OfCase suffix rec := by
  refine List.forall_mem_cons.2 ⟨⟨h.mentions, List.forall_mem_nil _, h.times,
      List.forall_mem_singleton.2 rfl⟩,
    List.forall_mem_singleton.2 ⟨List.forall_mem_cons.2 ⟨?_, ?_⟩, List.forall_mem_nil _, h.times,
      List.forall_mem_singleton.2 rfl⟩⟩
  · exact (bears_words _ "fee_" (by decide)).append "_b"
  · exact (List.forall_mem_cons.1 h.mentions).2

theorem taxParts_ofCase {tax : TaxLineDto} (h : OfCase suffix (.taxLine tax)) :
    ∀ rec ∈ taxParts (refsOf suffix) tax, OfCase suffix rec := by
  refine List.forall_mem_cons.2 ⟨⟨h.mentions, List.forall_mem_nil _, h.times,
      List.forall_mem_singleton.2 rfl⟩,
    List.forall_mem_singleton.2 ⟨List.forall_mem_cons.2 ⟨?_, ?_⟩, List.forall_mem_nil _, h.times,
      List.forall_mem_singleton.2 rfl⟩⟩
  · exact (bears_words _ "tax_" (by decide)).append "_b"
  · exact (List.forall_mem_cons.1 h.mentions).2

theorem splitFeeLines_ofCase (hrecords : ∀ rec ∈ records, OfCase suffix rec) :
    Always (splitFeeLines records (refsOf suffix)) fun out =>
      ∀ rec ∈ out, OfCase suffix rec := by
  have hfiltered : ∀ p : FinancialRecordDto → Bool, ∀ rec ∈ records.filter p, OfCase suffix rec :=
    fun p rec hrec => hrecords rec (List.mem_filter.1 hrec).1
  refine Always.true.bind fun splits _ => ?_
  split
  · exact Always.pure hrecords
  cases hfee : records.findSome? (·.asFeeLine) with
  | none => exact Always.pure hrecords
  | some fee =>
      obtain ⟨found, hfound, has⟩ := List.exists_of_findSome?_eq_some hfee
      have hfeeParts : ∀ rec ∈ feeParts (refsOf suffix) fee, OfCase suffix rec := by
        cases found <;> cases has
        exact feeParts_ofCase (hrecords _ hfound)
      dsimp only
      split
      · exact Always.pure hrecords
      cases htax : records.findSome? (·.asTaxLine) with
      | none => exact Always.pure (List.forall_mem_append.2 ⟨hfiltered _, hfeeParts⟩)
      | some tax =>
          obtain ⟨found, hfound, has⟩ := List.exists_of_findSome?_eq_some htax
          have htaxParts : ∀ rec ∈ taxParts (refsOf suffix) tax, OfCase suffix rec := by
            cases found <;> cases has
            exact taxParts_ofCase (hrecords _ hfound)
          exact Always.pure (List.forall_mem_append.2
            ⟨List.forall_mem_append.2 ⟨hfiltered _, hfeeParts⟩, htaxParts⟩)

theorem noiseRecord_ofCase (suffix : String) (capturedAt : Date) (grossMinor : Int) (i : Nat) :
    Always (noiseRecord (refsOf suffix) capturedAt grossMinor i) (OfCase suffix) := by
  refine Always.true.bind fun ledger _ => ?_
  split
  · refine Always.pure ⟨List.forall_mem_singleton.2 ?_, List.forall_mem_nil _, ?_,
      List.forall_mem_singleton.2 rfl⟩
    · exact ((bears_words _ "led_" (by decide)).append "_").append (toString i)
    · simp [FinancialRecordDto.times, lineage]
  · refine Always.pure ⟨List.forall_mem_singleton.2 ?_, List.forall_mem_nil _, ?_,
      List.forall_mem_singleton.2 rfl⟩
    · exact ((bears_words _ "ord_" (by decide)).append "_").append (toString i)
    · simp [FinancialRecordDto.times, lineage]

/-- Noise mentions no other case. -/
theorem withNoise_ofCase (hrecords : ∀ rec ∈ records, OfCase suffix rec) (capturedAt : Date)
    (grossMinor : Int) :
    Always (withNoise records (refsOf suffix) capturedAt grossMinor) fun out =>
      ∀ rec ∈ out, OfCase suffix rec := by
  refine (applyAccountedAdjustments_ofCase hrecords).bind fun adjusted hadjusted => ?_
  refine (splitFeeLines_ofCase hadjusted).bind fun feesSplit hfees => ?_
  have hnoise : Always (noiseRecords (refsOf suffix) capturedAt grossMinor) fun noise =>
      ∀ rec ∈ noise, OfCase suffix rec := by
    refine Always.true.bind fun count _ => ?_
    refine (Always.mapM (noiseRecord_ofCase suffix capturedAt grossMinor) _).imp ?_
    intro noise hnoise rec hrec
    obtain ⟨i, -, hi⟩ := exists_of_forall₂ hnoise rec hrec
    exact hi
  exact hnoise.bind fun noise hnoise => Always.pure (List.forall_mem_append.2 ⟨hfees, hnoise⟩)

end Noise

/-! ## Normalized records of a case -/

section Normalizes

variable {parseDate : String → Option Date} (hreads : ReadsISO parseDate)
  {dto : FinancialRecordDto} (h : Readable dto)
include hreads h

/-- Such a record is never rejected. -/
theorem Readable.normalizes (ctx : RequestContext) (index : Nat) (recordId : String)
    (ingestedAt : Date) :
    ∃ r, normalizeRecord parseDate ctx ⟨dto, index, recordId, ingestedAt⟩ = .ok r := by
  have hdate : ∀ text ∈ dto.times, ∀ field, ∃ t, toDate parseDate text field index = .ok t := by
    intro text htext field
    obtain ⟨t, rfl⟩ := h.times text htext
    exact ⟨t, toDate_iso hreads t field index⟩
  have hoptional : ∀ text : Option String, (∀ value ∈ text.toList, value ∈ dto.times) →
      ∀ field, ∃ t, optionalDate parseDate text field index = .ok t := by
    intro text htext field
    cases text with
    | none => exact ⟨none, rfl⟩
    | some value =>
        obtain ⟨t, rfl⟩ := h.times value (htext value List.mem_cons_self)
        exact ⟨some t, optionalDate_iso hreads t field index⟩
  have hmoney : ∀ amount ∈ dto.amounts, ∃ m, toMoney amount index = .ok m := by
    intro amount hamount
    have hinr : amount = money amount.amountMinor := by
      rw [money, ← h.amounts amount hamount]
    rw [hinr]
    exact ⟨_, toMoney_money _ index⟩
  have hobserved : dto.lineage.observedAt ∈ dto.times := by
    cases dto <;> exact List.mem_cons_self
  obtain ⟨observedAt, hobserved⟩ := hdate _ hobserved "observed_at"
  have hkind : ∀ common, ∃ r, normalizeKind parseDate common index dto = .ok r := by
    intro common
    cases dto with
    | order dto | feeLine dto | adjustment dto | bankCredit dto | ledgerEntry dto =>
        obtain ⟨amount, hamount⟩ := hmoney dto.amount List.mem_cons_self
        simp only [normalizeKind, hamount]
        obtain ⟨t, ht⟩ := hdate _ (List.mem_cons_of_mem _ List.mem_cons_self) _
        exact ⟨_, bind_eq_ok_iff.2 ⟨amount, rfl, bind_eq_ok_iff.2 ⟨t, ht, rfl⟩⟩⟩
    | taxLine dto | settlementLine dto =>
        obtain ⟨amount, hamount⟩ := hmoney dto.amount List.mem_cons_self
        exact ⟨_, bind_eq_ok_iff.2 ⟨amount, hamount, rfl⟩⟩
    | payment dto =>
        obtain ⟨amount, hamount⟩ := hmoney dto.amount List.mem_cons_self
        obtain ⟨authorizedAt, hauthorized⟩ := hoptional dto.authorizedAt (fun value hvalue =>
          List.mem_cons_of_mem _ (List.mem_append_left _ hvalue)) "authorized_at"
        obtain ⟨capturedAt, hcaptured⟩ := hoptional dto.capturedAt (fun value hvalue =>
          List.mem_cons_of_mem _ (List.mem_append_right _ hvalue)) "captured_at"
        exact ⟨_, bind_eq_ok_iff.2 ⟨amount, hamount, bind_eq_ok_iff.2
          ⟨authorizedAt, hauthorized, bind_eq_ok_iff.2 ⟨capturedAt, hcaptured, rfl⟩⟩⟩⟩
    | refund dto =>
        obtain ⟨amount, hamount⟩ := hmoney dto.amount List.mem_cons_self
        obtain ⟨createdAt, hcreated⟩ :=
          hdate dto.createdAt (List.mem_cons_of_mem _ List.mem_cons_self) "created_at"
        obtain ⟨settledAt, hsettled⟩ := hoptional dto.settledAt (fun value hvalue =>
          List.mem_cons_of_mem _ (List.mem_cons_of_mem _ hvalue)) "settled_at"
        exact ⟨_, bind_eq_ok_iff.2 ⟨amount, hamount, bind_eq_ok_iff.2
          ⟨createdAt, hcreated, bind_eq_ok_iff.2 ⟨settledAt, hsettled, rfl⟩⟩⟩⟩
    | settlement dto =>
        obtain ⟨gross, hgross⟩ := hmoney dto.grossAmount List.mem_cons_self
        obtain ⟨net, hnet⟩ := hmoney dto.netAmount (List.mem_cons_of_mem _ List.mem_cons_self)
        obtain ⟨settledAt, hsettled⟩ :=
          hdate dto.settlementAt (List.mem_cons_of_mem _ List.mem_cons_self) "settlement_at"
        exact ⟨_, bind_eq_ok_iff.2 ⟨gross, hgross, bind_eq_ok_iff.2
          ⟨net, hnet, bind_eq_ok_iff.2 ⟨settledAt, hsettled, rfl⟩⟩⟩⟩
  obtain ⟨r, hr⟩ := hkind _
  exact ⟨r, bind_eq_ok_iff.2 ⟨observedAt, hobserved, hr⟩⟩

end Normalizes

/-- What a normalized record takes from its request. -/
theorem normalizeRecord_mentions {parseDate : String → Option Date} {ctx : RequestContext}
    {input : NormalizationInput} {r : FinancialRecord}
    (h : normalizeRecord parseDate ctx input = .ok r) :
    r.base.lineage.sourceRecordId ∈ input.dto.mentions ∧
      (∀ k n, r.references k = some n → n ∈ input.dto.mentions) ∧ r.utrs = input.dto.utrs := by
  obtain ⟨observedAt, -, hkind⟩ := bind_eq_ok_iff.1 h
  refine ⟨?_, normalizeKind_mentions hkind⟩
  rw [normalizeKind_base hkind]
  exact source_mem_mentions input.dto

/-- Records that mention nothing in common do not meet. -/
theorem not_meets_of_disjoint {parseDate : String → Option Date} {ctx ctx' : RequestContext}
    {input input' : NormalizationInput} {r x : FinancialRecord}
    (hr : normalizeRecord parseDate ctx input = .ok r)
    (hx : normalizeRecord parseDate ctx' input' = .ok x)
    (hmentions : ∀ id ∈ input.dto.mentions, id ∉ input'.dto.mentions)
    (hutrs : ∀ utr ∈ input.dto.utrs, utr ∉ input'.dto.utrs) (merchantId : MerchantId) :
    ¬ r.Meets merchantId x := by
  obtain ⟨hsource, hreferences, hcarries⟩ := normalizeRecord_mentions hr
  obtain ⟨hsource', -, hcarries'⟩ := normalizeRecord_mentions hx
  rintro (hid | href | hpays)
  · have hsame : r.base.lineage.sourceRecordId = x.base.lineage.sourceRecordId :=
      congrArg (fun id : RecordKind × SourceKey => id.2.sourceRecordId) hid
    rw [← hsame] at hsource'
    exact hmentions _ hsource hsource'
  · exact hmentions _ (hreferences _ _ href) hsource'
  · obtain ⟨utr, hutr, hutr'⟩ := utr_of_pays hpays
    rw [hcarries] at hutr
    rw [hcarries'] at hutr'
    exact hutrs utr hutr hutr'

/-- **Records of two cases do not meet**, whichever merchant they are imported for. -/
theorem not_meets_of_suffix_ne {parseDate : String → Option Date} {ctx ctx' : RequestContext}
    {input input' : NormalizationInput} {r x : FinancialRecord}
    (hr : normalizeRecord parseDate ctx input = .ok r)
    (hx : normalizeRecord parseDate ctx' input' = .ok x) {s t : String} (hs : Plain s)
    (ht : Plain t) (hlen : s.length = t.length) (hne : s ≠ t) (h : OfCase s input.dto)
    (h' : OfCase t input'.dto) (merchantId : MerchantId) : ¬ r.Meets merchantId x := by
  refine not_meets_of_disjoint hr hx (fun id hid hid' => ?_) (fun utr hutr hutr' => ?_) merchantId
  · exact hne (bears_unique (h.mentions id hid) (h'.mentions id hid') hlen)
  · obtain ⟨a, ha⟩ := h.utrs utr hutr
    obtain ⟨b, hb⟩ := h'.utrs utr hutr'
    exact hne (utr_unique hs ht hlen (ha.symm.trans hb))

/-- **A case mentions no other case.** -/
theorem renderCase_ofCase (ordinal : Nat) (split : Split) (slug : String) (plan : CasePlan) :
    Always (renderCase ordinal split slug plan) fun rendered =>
      ∀ rec ∈ rendered.visibleRecords, OfCase (suffixFor ordinal) rec := by
  intro tape
  have hrefs := (plan.damaged_emittable (refsFor ordinal) (result (drawCase split) tape)).refs_eq
  rw [renderCase_result ordinal split slug plan tape rfl]
  rw [refsFor_eq] at hrefs ⊢
  exact withNoise_ofCase (List.forall_mem_append.2 ⟨emit_ofCase hrefs,
    emitAdjustments_ofCase hrefs⟩) _ _ _

end Generator

end SettlementOps
