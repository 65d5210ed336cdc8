import SettlementOps.Reconciliation.Grouping
import SettlementOps.Reconciliation.Matcher
import SettlementOps.Text.Joined

/-!
# Exact duplicates as classes

`findExactDuplicates` groups by a text that joins merchant, source system and source record id
with `::`.  The groups are the classes of records with one identity exactly where the text
tells the identities apart.

* `SameIdentity` — same merchant, source system and source record id.
* `ExactDuplicates` — the reported groups are the classes with more than one record.
* `exactDuplicates_iff` — exactly when they are.
* `joinedTextSeparates_of_colonFree` — it does where merchants and source systems have no colon.
-/

namespace SettlementOps

/-- Same merchant, same source system and same source record id. -/
def SameIdentity (a b : FinancialRecord) : Prop :=
  a.base.scope.merchantId = b.base.scope.merchantId ∧
    a.base.lineage.sourceSystem = b.base.lineage.sourceSystem ∧
    a.base.lineage.sourceRecordId = b.base.lineage.sourceRecordId

instance (a b : FinancialRecord) : Decidable (SameIdentity a b) :=
  inferInstanceAs (Decidable (a.base.scope.merchantId = b.base.scope.merchantId ∧
    a.base.lineage.sourceSystem = b.base.lineage.sourceSystem ∧
    a.base.lineage.sourceRecordId = b.base.lineage.sourceRecordId))

theorem SameIdentity.refl (a : FinancialRecord) : SameIdentity a a := ⟨rfl, rfl, rfl⟩

theorem SameIdentity.symm {a b : FinancialRecord} (h : SameIdentity a b) : SameIdentity b a :=
  ⟨h.1.symm, h.2.1.symm, h.2.2.symm⟩

theorem SameIdentity.trans {a b c : FinancialRecord} (h : SameIdentity a b)
    (h' : SameIdentity b c) : SameIdentity a c :=
  ⟨h.1.trans h'.1, h.2.1.trans h'.2.1, h.2.2.trans h'.2.2⟩

/-- One identity is written one way. -/
theorem SameIdentity.duplicateKey_eq {a b : FinancialRecord} (h : SameIdentity a b) :
    duplicateKey a.base = duplicateKey b.base := by
  unfold duplicateKey
  rw [h.1, h.2.1, h.2.2]

/-- The entries of a list a group of exact duplicates stands for. -/
def DuplicateGroup.exactMembers (g : DuplicateGroup) (records : List FinancialRecord) :
    List FinancialRecord :=
  records.filter fun r => duplicateKey r.base = g.key

/-- The groups are reported by the ids of their entries, and are the keys that several entries
have. -/
theorem mem_findExactDuplicates_iff {records : List FinancialRecord} {g : DuplicateGroup} :
    g ∈ findExactDuplicates records ↔
      g = ⟨g.key, (g.exactMembers records).map (·.base.id), .exactSourceId⟩ ∧
        1 < (g.exactMembers records).length := by
  have hmembers : ∀ k : String, records.filter (fun r => some (duplicateKey r.base) = some k) =
      records.filter fun r => duplicateKey r.base = k := by
    intro k
    simp
  unfold findExactDuplicates
  simp only [List.mem_map, List.mem_filter, decide_eq_true_eq, gt_iff_lt]
  constructor
  · rintro ⟨⟨k, vs⟩, ⟨hg, hlen⟩, rfl⟩
    obtain ⟨rfl, -⟩ := mem_groupByKey_iff.1 hg
    rw [hmembers] at hlen
    exact ⟨by simp only [DuplicateGroup.exactMembers, hmembers], hlen⟩
  · rintro ⟨hg, hlen⟩
    obtain ⟨r, hr⟩ := List.exists_mem_of_length_pos (Nat.lt_of_succ_lt hlen)
    obtain ⟨hrecord, hkey⟩ := List.mem_filter.1 hr
    refine ⟨(g.key, g.exactMembers records), ⟨mem_groupByKey_iff.2 ⟨?_, r, hrecord, ?_⟩, hlen⟩,
      hg.symm⟩
    · rw [hmembers]
      rfl
    · rw [of_decide_eq_true hkey]

/-- The entries that share the text of one of them are reported, if there are several. -/
theorem exists_group {records : List FinancialRecord} {r : FinancialRecord}
    (hlen : 1 < (records.filter fun c => duplicateKey c.base = duplicateKey r.base).length) :
    ∃ g ∈ findExactDuplicates records, g.exactMembers records =
      records.filter fun c => duplicateKey c.base = duplicateKey r.base := by
  obtain ⟨g, hg⟩ : ∃ g : DuplicateGroup, g = ⟨duplicateKey r.base,
    (records.filter fun c => duplicateKey c.base = duplicateKey r.base).map (·.base.id),
      .exactSourceId⟩ := ⟨_, rfl⟩
  have hmembers : g.exactMembers records =
      records.filter fun c => duplicateKey c.base = duplicateKey r.base := by
    rw [hg]
    rfl
  refine ⟨g, mem_findExactDuplicates_iff.2 ⟨?_, ?_⟩, hmembers⟩
  · rw [hmembers, hg]
  · rw [hmembers]
    exact hlen

/-- No two groups have one key. -/
theorem findExactDuplicates_keys (records : List FinancialRecord) :
    ((findExactDuplicates records).map (·.key)).Nodup := by
  have hkeys := (groups_groupByKey (fun r : FinancialRecord => some (duplicateKey r.base))
    records).keys
  unfold findExactDuplicates
  rw [List.map_map]
  exact hkeys.sublist (List.filter_sublist.map _)

/-- The groups are exactly the classes of several entries, and no entry is in two. -/
structure ExactDuplicates (records : List FinancialRecord) : Prop where
  ids : ∀ g ∈ findExactDuplicates records, g.ids = (g.exactMembers records).map (·.base.id)
  classes : ∀ members,
    (∃ g ∈ findExactDuplicates records, g.exactMembers records = members) ↔
      (∃ r ∈ records, members = records.filter (SameIdentity r)) ∧ 1 < members.length
  atMostOne : (findExactDuplicates records).Pairwise fun g g' =>
    List.Disjoint (g.exactMembers records) (g'.exactMembers records)

/-- Joined with `::`, the three fields of different identities of the list read differently. -/
def JoinedTextSeparates (records : List FinancialRecord) : Prop :=
  ∀ a ∈ records, ∀ b ∈ records,
    a.base.scope.merchantId ++ "::" ++ a.base.lineage.sourceSystem ++ "::" ++
        a.base.lineage.sourceRecordId =
      b.base.scope.merchantId ++ "::" ++ b.base.lineage.sourceSystem ++ "::" ++
        b.base.lineage.sourceRecordId →
    SameIdentity a b

/-- The entries with one text are then those with one identity. -/
theorem JoinedTextSeparates.filter_eq {records : List FinancialRecord}
    (h : JoinedTextSeparates records) {r : FinancialRecord} (hr : r ∈ records) {k : String}
    (hk : duplicateKey r.base = k) :
    records.filter (fun c => duplicateKey c.base = k) = records.filter (SameIdentity r) := by
  subst hk
  refine List.filter_congr fun c hc => decide_eq_decide.2 ⟨fun hkey => ?_, fun hsame => ?_⟩
  · exact h r hr c hc hkey.symm
  · exact hsame.symm.duplicateKey_eq

theorem one_lt_length_of_ne {α : Type} {l : List α} {a b : α} (ha : a ∈ l) (hb : b ∈ l)
    (hne : a ≠ b) : 1 < l.length := by
  rcases l with _ | ⟨x, _ | ⟨y, rest⟩⟩
  · cases ha
  · rw [List.mem_singleton] at ha hb
    exact absurd (ha.trans hb.symm) hne
  · simp

/-- **Exact duplicates are classes exactly where the joined text tells identities apart.** -/
theorem exactDuplicates_iff (records : List FinancialRecord) :
    ExactDuplicates records ↔ JoinedTextSeparates records := by
  constructor
  · intro h a ha b hb hkey
    by_contra hne
    have hab : a ≠ b := by
      rintro rfl
      exact hne (SameIdentity.refl a)
    -- the two are reported as one group, which is no class
    have hain : a ∈ records.filter fun c => duplicateKey c.base = duplicateKey b.base :=
      List.mem_filter.2 ⟨ha, decide_eq_true hkey⟩
    have hbin : b ∈ records.filter fun c => duplicateKey c.base = duplicateKey b.base :=
      List.mem_filter.2 ⟨hb, decide_eq_true rfl⟩
    obtain ⟨⟨r, -, hclass⟩, -⟩ := (h.classes _).1
      (exists_group (one_lt_length_of_ne hain hbin hab))
    rw [hclass] at hain hbin
    have hra := of_decide_eq_true (List.mem_filter.1 hain).2
    have hrb := of_decide_eq_true (List.mem_filter.1 hbin).2
    exact hne (hra.symm.trans hrb)
  · intro h
    refine ⟨fun g hg => ?_, fun members => ?_, ?_⟩
    · exact congrArg DuplicateGroup.ids (mem_findExactDuplicates_iff.1 hg).1
    · constructor
      · rintro ⟨g, hg, rfl⟩
        obtain ⟨-, hlen⟩ := mem_findExactDuplicates_iff.1 hg
        obtain ⟨r, hr⟩ := List.exists_mem_of_length_pos (Nat.lt_of_succ_lt hlen)
        obtain ⟨hrecord, hkey⟩ := List.mem_filter.1 hr
        exact ⟨⟨r, hrecord, h.filter_eq hrecord (of_decide_eq_true hkey)⟩, hlen⟩
      · rintro ⟨⟨r, hr, rfl⟩, hlen⟩
        rw [← h.filter_eq hr rfl] at hlen ⊢
        exact exists_group hlen
    · refine (List.pairwise_map.1 (findExactDuplicates_keys records)).imp ?_
      intro g g' hne r hr hr'
      have hkey := of_decide_eq_true (List.mem_filter.1 hr).2
      have hkey' := of_decide_eq_true (List.mem_filter.1 hr').2
      exact hne (hkey.symm.trans hkey')

/-! ## Where no colon is written -/

theorem toList_joined (a b c : String) :
    (a ++ "::" ++ b ++ "::" ++ c).toList =
      a.toList ++ ':' :: ':' :: (b.toList ++ ':' :: ':' :: c.toList) := by
  simp [String.toList_append]

/-- **Merchants and source systems without a colon** are told apart, whatever the record ids. -/
theorem joinedTextSeparates_of_colonFree {records : List FinancialRecord}
    (hfree : ∀ r ∈ records, ':' ∉ r.base.scope.merchantId.toList ∧
      ':' ∉ r.base.lineage.sourceSystem.toList) :
    JoinedTextSeparates records := by
  intro a ha b hb hkey
  have hlists := congrArg String.toList hkey
  rw [toList_joined, toList_joined] at hlists
  obtain ⟨hmerchant, hafter⟩ := Text.append_sep_inj (hfree a ha).1 (hfree b hb).1 hlists
  obtain ⟨hsystem, hid⟩ := Text.append_sep_inj (hfree a ha).2 (hfree b hb).2
    (List.cons.inj hafter).2
  exact ⟨String.toList_inj.1 hmerchant, String.toList_inj.1 hsystem,
    String.toList_inj.1 (List.cons.inj hid).2⟩

/-- A payment delivered by a source system under a record id. -/
def deliveredAs (id sourceSystem sourceRecordId : String) : FinancialRecord :=
  .payment { sampleUnit.payment with
    id
    lineage := ⟨sourceSystem, sourceRecordId, ⟨0⟩, ⟨0⟩, "v1"⟩ }

/-- Record `b::c` of the system `a` and record `c` of the system `a::b` of one merchant are
reported as one record delivered twice. -/
theorem joinedIds_reported :
    findExactDuplicates [deliveredAs "r-1" "a" "b::c", deliveredAs "r-2" "a::b" "c"] =
        [⟨"m-1::a::b::c", ["r-1", "r-2"], .exactSourceId⟩] ∧
      ¬ SameIdentity (deliveredAs "r-1" "a" "b::c") (deliveredAs "r-2" "a::b" "c") ∧
      ¬ ExactDuplicates [deliveredAs "r-1" "a" "b::c", deliveredAs "r-2" "a::b" "c"] := by
  have hreported : findExactDuplicates
      [deliveredAs "r-1" "a" "b::c", deliveredAs "r-2" "a::b" "c"] =
        [⟨"m-1::a::b::c", ["r-1", "r-2"], .exactSourceId⟩] := by decide
  have hdifferent : ¬ SameIdentity (deliveredAs "r-1" "a" "b::c")
      (deliveredAs "r-2" "a::b" "c") := by decide
  refine ⟨hreported, hdifferent, fun h => ?_⟩
  obtain ⟨⟨r, hr, hclass⟩, -⟩ := (h.classes _).1
    ⟨_, hreported ▸ List.mem_singleton_self _, rfl⟩
  rcases List.mem_cons.1 hr with rfl | hr
  · exact absurd hclass (by decide)
  · rw [List.mem_singleton] at hr
    subst hr
    exact absurd hclass (by decide)

end SettlementOps
