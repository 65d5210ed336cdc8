import SettlementOps.Reconciliation.ExactDuplicates

/-!
# Near duplicates and the window of the first

`findNearDuplicates` sorts the records of one key by time and keeps those within the window of
the earliest.  Records near each other but not near the earliest are never reported.

* `clusterMembers`, `cluster_eq` — the records the clustering loop keeps.
* `NearEachOther` — one key, and at most the window apart.
* `NearDuplicates` — every two records near each other are reported together, and every group is
  of one key and of one window.
* `nearDuplicates_iff` — exactly when that holds.
-/

namespace SettlementOps

def nearWindowMs : Int := NEAR_DUPLICATE_WINDOW_SECONDS * 1000

/-- The candidates within the window of all the others: of the earliest. -/
def clusterMembers (candidates : List FinancialRecord) : List FinancialRecord :=
  (candidates.insertionSort (fun a b => observedTime a ≤ observedTime b)).filter fun r =>
    ∀ r' ∈ candidates, observedTime r - observedTime r' ≤ nearWindowMs

theorem mem_clusterMembers {candidates : List FinancialRecord} {r : FinancialRecord} :
    r ∈ clusterMembers candidates ↔
      r ∈ candidates ∧ ∀ r' ∈ candidates, observedTime r - observedTime r' ≤ nearWindowMs := by
  rw [clusterMembers, List.mem_filter, List.mem_insertionSort, decide_eq_true_eq]

/-- Sorting moves the records, and keeps as many. -/
theorem clusterMembers_perm (candidates : List FinancialRecord) :
    (clusterMembers candidates).Perm (candidates.filter fun r =>
      ∀ r' ∈ candidates, observedTime r - observedTime r' ≤ nearWindowMs) :=
  (List.perm_insertionSort _ candidates).filter _

/-- The loop after its first record. -/
theorem foldl_clusterStep (windowMs anchor : Int) (rest : List FinancialRecord) :
    ∀ ids, rest.foldl (clusterStep windowMs) (some anchor, ids) =
      (some anchor, ids ++ (rest.filter fun r =>
        observedTime r - anchor ≤ windowMs).map (·.base.id)) := by
  induction rest with
  | nil =>
      intro ids
      simp
  | cons r rest ih =>
      intro ids
      rw [List.foldl_cons, List.filter_cons]
      by_cases hr : observedTime r - anchor ≤ windowMs
      · rw [if_pos (decide_eq_true hr), clusterStep]
        dsimp only
        rw [if_pos hr, ih, List.map_cons, List.append_assoc, List.singleton_append]
      · rw [if_neg (by simpa using hr), clusterStep]
        dsimp only
        rw [if_neg hr, ih]

/-- **The loop keeps the records within the window of the earliest.** -/
theorem cluster_eq (candidates : List FinancialRecord) :
    cluster candidates = (clusterMembers candidates).map (·.base.id) := by
  have hmem : ∀ r, r ∈ candidates.insertionSort (fun a b => observedTime a ≤ observedTime b) ↔
      r ∈ candidates := fun r => List.mem_insertionSort _
  have hsorted : (candidates.insertionSort
      (fun a b => observedTime a ≤ observedTime b)).Pairwise
        (fun a b => observedTime a ≤ observedTime b) :=
    List.pairwise_insertionSort _ candidates
  unfold cluster clusterMembers
  dsimp only
  change (List.foldl (clusterStep nearWindowMs) (none, []) _).2 = _
  revert hmem hsorted
  generalize candidates.insertionSort (fun a b => observedTime a ≤ observedTime b) = sorted
  intro hmem hsorted
  cases sorted with
  | nil => rfl
  | cons first rest =>
      obtain ⟨hfirst, -⟩ := List.pairwise_cons.1 hsorted
      -- within the window of the first is within the window of all
      have hall : ∀ r ∈ first :: rest,
          ((∀ r' ∈ candidates, observedTime r - observedTime r' ≤ nearWindowMs) ↔
            observedTime r - observedTime first ≤ nearWindowMs) := by
        intro r _
        constructor
        · exact fun h => h first ((hmem first).1 List.mem_cons_self)
        · intro h r' hr'
          rcases List.mem_cons.1 ((hmem r').2 hr') with rfl | hin
          · exact h
          · have hle := hfirst r' hin
            omega
      have hwindow : observedTime first - observedTime first ≤ nearWindowMs := by
        rw [sub_self]
        decide
      rw [List.filter_congr fun r hr => decide_eq_decide.2 (hall r hr), List.filter_cons,
        if_pos (decide_eq_true hwindow), List.foldl_cons]
      change (List.foldl (clusterStep nearWindowMs)
        (some (observedTime first), [] ++ [first.base.id]) rest).2 = _
      rw [foldl_clusterStep]
      rfl

/-! ## What is reported -/

/-- The entries of a list a group of near duplicates stands for. -/
def DuplicateGroup.nearMembers (g : DuplicateGroup) (records : List FinancialRecord) :
    List FinancialRecord :=
  clusterMembers (records.filter fun r => nearKey r = some g.key)

theorem mem_nearMembers {g : DuplicateGroup} {records : List FinancialRecord}
    {r : FinancialRecord} :
    r ∈ g.nearMembers records ↔ r ∈ records ∧ nearKey r = some g.key ∧
      ∀ r' ∈ records, nearKey r' = some g.key →
        observedTime r - observedTime r' ≤ nearWindowMs := by
  simp only [DuplicateGroup.nearMembers, mem_clusterMembers, List.mem_filter, decide_eq_true_eq,
    and_imp, and_assoc]

/-- The groups are reported by the ids of their entries, and are the keys with several entries
in the window of the earliest. -/
theorem mem_findNearDuplicates_iff {records : List FinancialRecord} {g : DuplicateGroup} :
    g ∈ findNearDuplicates records ↔
      g = ⟨g.key, (g.nearMembers records).map (·.base.id), .nearDuplicate⟩ ∧
        1 < (g.nearMembers records).length := by
  have hlength : ∀ candidates : List FinancialRecord,
      (clusterMembers candidates).length ≤ candidates.length := fun candidates => by
    rw [(clusterMembers_perm candidates).length_eq]
    exact List.length_filter_le _ _
  unfold findNearDuplicates
  rw [List.mem_filterMap]
  constructor
  · rintro ⟨⟨k, vs⟩, hg, hentry⟩
    obtain ⟨rfl, -⟩ := mem_groupByKey_iff.1 hg
    dsimp only at hentry
    rw [cluster_eq, List.length_map] at hentry
    split at hentry
    · cases hentry
    split at hentry
    · rename_i hlen
      cases hentry
      exact ⟨rfl, hlen⟩
    · cases hentry
  · rintro ⟨hg, hlen⟩
    obtain ⟨r, hr⟩ := List.exists_mem_of_length_pos (Nat.lt_of_succ_lt hlen)
    obtain ⟨hrecord, hkey, -⟩ := mem_nearMembers.1 hr
    refine ⟨(g.key, records.filter fun r => nearKey r = some g.key),
      mem_groupByKey_iff.2 ⟨rfl, r, hrecord, hkey⟩, ?_⟩
    have hcandidates : ¬ (records.filter fun r => nearKey r = some g.key).length < 2 :=
      not_lt.2 (le_trans hlen (hlength _))
    rw [if_neg hcandidates, cluster_eq]
    dsimp only
    rw [List.length_map]
    exact (if_pos hlen).trans (congrArg some hg.symm)

/-- One key, and observed at most the window apart. -/
def NearEachOther (a b : FinancialRecord) : Prop :=
  ∃ k, nearKey a = some k ∧ nearKey b = some k ∧
    |observedTime a - observedTime b| ≤ nearWindowMs

/-- Any two entries near each other are reported in one group, and every group is of one key
and within the window of its earliest entry. -/
structure NearDuplicates (records : List FinancialRecord) : Prop where
  ids : ∀ g ∈ findNearDuplicates records, g.ids = (g.nearMembers records).map (·.base.id)
  sound : ∀ g ∈ findNearDuplicates records, ∀ r ∈ g.nearMembers records,
    nearKey r = some g.key ∧ ∀ r' ∈ g.nearMembers records,
      observedTime r - observedTime r' ≤ nearWindowMs
  complete : records.Pairwise fun a b => NearEachOther a b →
    ∃ g ∈ findNearDuplicates records, a ∈ g.nearMembers records ∧ b ∈ g.nearMembers records

/-- Entries near each other are near every earlier entry of their key as well. -/
def FirstWindowCovers (records : List FinancialRecord) : Prop :=
  records.Pairwise fun a b => NearEachOther a b → ∀ r ∈ records, nearKey r = nearKey a →
    observedTime a - observedTime r ≤ nearWindowMs ∧
      observedTime b - observedTime r ≤ nearWindowMs

/-- Both entries of a pair are kept, also when they are equal. -/
theorem pair_sublist_filter {α : Type} {p : α → Bool} {a b : α} {l : List α}
    (h : [a, b].Sublist l) (ha : p a = true) (hb : p b = true) : [a, b].Sublist (l.filter p) := by
  have hfilter := h.filter p
  rw [List.filter_cons_of_pos ha, List.filter_cons_of_pos hb, List.filter_nil] at hfilter
  exact hfilter

/-- Two entries that the window of the first covers are reported together. -/
theorem reported_of_covered {records : List FinancialRecord} {a b : FinancialRecord} {k : String}
    (hpair : [a, b].Sublist records) (ha : nearKey a = some k) (hb : nearKey b = some k)
    (hcovered : ∀ r ∈ records, nearKey r = some k →
      observedTime a - observedTime r ≤ nearWindowMs ∧
        observedTime b - observedTime r ≤ nearWindowMs) :
    ∃ g ∈ findNearDuplicates records, a ∈ g.nearMembers records ∧
      b ∈ g.nearMembers records := by
  obtain ⟨g, hg, hkey⟩ : ∃ g : DuplicateGroup, g = ⟨g.key,
      (g.nearMembers records).map (·.base.id), .nearDuplicate⟩ ∧ g.key = k :=
    ⟨⟨k, (clusterMembers (records.filter fun r => nearKey r = some k)).map (·.base.id),
      .nearDuplicate⟩, rfl, rfl⟩
  subst hkey
  have hin : ∀ c, c = a ∨ c = b → c ∈ g.nearMembers records := by
    rintro c (rfl | rfl)
    · exact mem_nearMembers.2 ⟨hpair.subset (by simp), ha, fun r hr hk => (hcovered r hr hk).1⟩
    · exact mem_nearMembers.2 ⟨hpair.subset (by simp), hb, fun r hr hk => (hcovered r hr hk).2⟩
  have hlen : 1 < (g.nearMembers records).length := by
    have hkeys : [a, b].Sublist (records.filter fun r => nearKey r = some g.key) :=
      pair_sublist_filter hpair (decide_eq_true ha) (decide_eq_true hb)
    rw [DuplicateGroup.nearMembers, (clusterMembers_perm _).length_eq]
    exact (pair_sublist_filter hkeys
      (decide_eq_true (mem_clusterMembers.1 (hin a (.inl rfl))).2)
      (decide_eq_true (mem_clusterMembers.1 (hin b (.inr rfl))).2)).length_le
  exact ⟨g, mem_findNearDuplicates_iff.2 ⟨hg, hlen⟩, hin a (.inl rfl), hin b (.inr rfl)⟩

/-- **Near duplicates are found exactly where the window of the first covers all pairs.** -/
theorem nearDuplicates_iff (records : List FinancialRecord) :
    NearDuplicates records ↔ FirstWindowCovers records := by
  constructor
  · intro h
    refine h.complete.imp ?_
    intro a b hreported hnear r hr hkey
    obtain ⟨g, -, ha, hb⟩ := hreported hnear
    obtain ⟨-, hka, hwa⟩ := mem_nearMembers.1 ha
    obtain ⟨-, -, hwb⟩ := mem_nearMembers.1 hb
    rw [hka] at hkey
    exact ⟨hwa r hr hkey, hwb r hr hkey⟩
  · intro h
    refine ⟨fun g hg => ?_, fun g _ r hr => ?_, ?_⟩
    · exact congrArg DuplicateGroup.ids (mem_findNearDuplicates_iff.1 hg).1
    · obtain ⟨-, hkey, hwindow⟩ := mem_nearMembers.1 hr
      refine ⟨hkey, fun r' hr' => ?_⟩
      obtain ⟨hrecord', hkey', -⟩ := mem_nearMembers.1 hr'
      exact hwindow r' hrecord' hkey'
    · refine List.pairwise_iff_forall_sublist.2 fun {a b} hpair hnear => ?_
      have hcovered := List.pairwise_iff_forall_sublist.1 h hpair hnear
      obtain ⟨k, ha, hb, -⟩ := hnear
      rw [ha] at hcovered
      exact reported_of_covered hpair ha hb hcovered

/-- A payment observed at an instant. -/
def observedAt (id : String) (seconds : Int) : FinancialRecord :=
  .payment { sampleUnit.payment with
    id
    lineage := ⟨"gateway", id, ⟨seconds * 1000⟩, ⟨seconds * 1000⟩, "v1"⟩ }

/-- Of three deliveries, the last two half a minute apart, none is reported. -/
theorem laterPair_unreported :
    findNearDuplicates [observedAt "a" 0, observedAt "b" 100, observedAt "c" 130] = [] ∧
      NearEachOther (observedAt "b" 100) (observedAt "c" 130) ∧
      ¬ NearDuplicates [observedAt "a" 0, observedAt "b" 100, observedAt "c" 130] := by
  have hnone : findNearDuplicates [observedAt "a" 0, observedAt "b" 100, observedAt "c" 130] =
      [] := by decide
  have hnear : NearEachOther (observedAt "b" 100) (observedAt "c" 130) :=
    ⟨"PAYMENT::pay-1::1000000", by decide, by decide, by decide⟩
  refine ⟨hnone, hnear, fun h => ?_⟩
  obtain ⟨-, hrest⟩ := List.pairwise_cons.1 h.complete
  obtain ⟨hpair, -⟩ := List.pairwise_cons.1 hrest
  obtain ⟨g, hg, -⟩ := hpair _ List.mem_cons_self hnear
  rw [hnone] at hg
  cases hg

end SettlementOps
