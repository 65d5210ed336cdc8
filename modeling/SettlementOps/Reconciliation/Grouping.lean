import SettlementOps.Reconciliation.DuplicateDetection

/-!
# Grouping a list by a key

What the grouping loop of the duplicate detectors leaves, over any values and keys: one group a
key, and in it exactly the values of that key, in their order.

* `pushGroup_of_mem`, `pushGroup_of_not_mem` — one round of the loop.
* `Groups` — the invariant of the loop, kept by `Groups.push` and `Groups.skip`.
* `groups_groupByKey`, `mem_groupByKey_iff` — what the loop ends with.
-/

namespace SettlementOps

variable {α κ : Type} [DecidableEq κ]

theorem pushGroup_of_not_mem {k : κ} {v : α} {groups : List (κ × List α)}
    (h : k ∉ groups.map (·.1)) : pushGroup k v groups = groups ++ [(k, [v])] := by
  induction groups with
  | nil => rfl
  | cons g rest ih =>
      rw [List.map_cons, List.mem_cons, not_or] at h
      rw [pushGroup, if_neg (Ne.symm h.1), ih h.2, List.cons_append]

theorem pushGroup_of_mem {k : κ} {v : α} {groups : List (κ × List α)}
    (hkeys : (groups.map (·.1)).Nodup) (h : k ∈ groups.map (·.1)) :
    pushGroup k v groups =
      groups.map fun g => (g.1, if g.1 = k then g.2 ++ [v] else g.2) := by
  induction groups with
  | nil => cases h
  | cons g rest ih =>
      rw [List.map_cons, List.nodup_cons] at hkeys
      rw [pushGroup, List.map_cons]
      by_cases hk : g.1 = k
      · -- no group after this one has the key
        have hrest : rest.map (fun g => (g.1, if g.1 = k then g.2 ++ [v] else g.2)) = rest := by
          conv_rhs => rw [← List.map_id rest]
          refine List.map_congr_left fun g' hg' => ?_
          have hne : g'.1 ≠ k := by
            rintro rfl
            exact hkeys.1 (hk ▸ List.mem_map_of_mem hg')
          simp [hne]
        rw [if_pos hk, if_pos hk, hrest]
      · rw [List.map_cons, List.mem_cons] at h
        rw [if_neg hk, if_neg hk, ih hkeys.2 (h.resolve_left (Ne.symm hk))]

/-- The groups of the values seen so far. -/
structure Groups (key : α → Option κ) (seen : List α) (groups : List (κ × List α)) : Prop where
  keys : (groups.map (·.1)).Nodup
  members : ∀ g ∈ groups, g.2 = seen.filter (fun v => key v = some g.1)
  covers : ∀ k, k ∈ groups.map (·.1) ↔ ∃ v ∈ seen, key v = some k

theorem filter_snoc (key : α → Option κ) (seen : List α) (v : α) (k : κ) :
    (seen ++ [v]).filter (fun w => key w = some k) =
      seen.filter (fun w => key w = some k) ++ if key v = some k then [v] else [] := by
  rw [List.filter_append]
  by_cases hv : key v = some k <;> simp [hv]

omit [DecidableEq κ] in
theorem exists_snoc_iff (key : α → Option κ) (seen : List α) (v : α) (k : κ) :
    (∃ w ∈ seen ++ [v], key w = some k) ↔ (∃ w ∈ seen, key w = some k) ∨ key v = some k := by
  simp only [List.mem_append, List.mem_singleton, or_and_right, exists_or, exists_eq_left]

section

variable {key : α → Option κ} {seen : List α} {groups : List (κ × List α)} {v : α} {k : κ}

theorem Groups.skip (h : Groups key seen groups) (hv : key v = none) :
    Groups key (seen ++ [v]) groups where
  keys := h.keys
  members g hg := by
    rw [filter_snoc, h.members g hg]
    simp [hv]
  covers k := by
    rw [exists_snoc_iff, h.covers k]
    simp [hv]

/-- A value of a key there is a group for. -/
theorem Groups.push_known (h : Groups key seen groups) (hv : key v = some k)
    (hmem : k ∈ groups.map (·.1)) : Groups key (seen ++ [v]) (pushGroup k v groups) := by
  have hpush := pushGroup_of_mem (v := v) h.keys hmem
  have hkeys : (pushGroup k v groups).map (·.1) = groups.map (·.1) := by
    rw [hpush, List.map_map]
    rfl
  refine ⟨hkeys ▸ h.keys, ?_, fun k' => ?_⟩
  · intro g hg
    rw [hpush] at hg
    obtain ⟨g', hg', rfl⟩ := List.mem_map.1 hg
    rw [filter_snoc, ← h.members g' hg']
    by_cases hk : g'.1 = k
    · rw [if_pos hk, if_pos (hv.trans (congrArg some hk.symm))]
    · have hne : key v ≠ some g'.1 := fun hkey => hk (Option.some.inj (hkey.symm.trans hv))
      rw [if_neg hk, if_neg hne, List.append_nil]
  · rw [hkeys, exists_snoc_iff, h.covers k', hv, Option.some.injEq]
    constructor
    · exact Or.inl
    · rintro (hseen | rfl)
      · exact hseen
      · exact (h.covers k).1 hmem

/-- The first value of a key. -/
theorem Groups.push_first (h : Groups key seen groups) (hv : key v = some k)
    (hmem : k ∉ groups.map (·.1)) : Groups key (seen ++ [v]) (pushGroup k v groups) := by
  have hpush := pushGroup_of_not_mem (v := v) hmem
  have hkeys : (pushGroup k v groups).map (·.1) = groups.map (·.1) ++ [k] := by
    rw [hpush, List.map_append]
    rfl
  refine ⟨?_, ?_, fun k' => ?_⟩
  · rw [hkeys]
    exact h.keys.append (List.nodup_singleton k) (List.disjoint_singleton.2 hmem)
  · intro g hg
    rw [hpush] at hg
    rw [filter_snoc]
    rcases List.mem_append.1 hg with hold | hnew
    · have hne : key v ≠ some g.1 := by
        intro hkey
        rw [hv, Option.some.injEq] at hkey
        exact hmem (hkey ▸ List.mem_map_of_mem hold)
      rw [if_neg hne, List.append_nil, h.members g hold]
    · rw [List.mem_singleton] at hnew
      subst hnew
      have hnone : seen.filter (fun w => key w = some k) = [] := by
        rw [List.filter_eq_nil_iff]
        intro w hw hkey
        exact hmem ((h.covers k).2 ⟨w, hw, of_decide_eq_true hkey⟩)
      rw [if_pos hv, hnone, List.nil_append]
  · rw [hkeys, List.mem_append, List.mem_singleton, exists_snoc_iff, h.covers k', hv,
      Option.some.injEq, eq_comm]

theorem Groups.push (h : Groups key seen groups) (hv : key v = some k) :
    Groups key (seen ++ [v]) (pushGroup k v groups) := by
  by_cases hmem : k ∈ groups.map (·.1)
  · exact h.push_known hv hmem
  · exact h.push_first hv hmem

end

theorem groups_foldl {key : α → Option κ} (values : List α) :
    ∀ {seen : List α} {groups : List (κ × List α)}, Groups key seen groups →
      Groups key (seen ++ values) (values.foldl
        (fun byKey v =>
          match key v with
          | none => byKey
          | some k => pushGroup k v byKey)
        groups) := by
  induction values with
  | nil =>
      intro seen groups h
      rw [List.append_nil]
      exact h
  | cons v values ih =>
      intro seen groups h
      rw [List.foldl_cons, ← List.singleton_append, ← List.append_assoc]
      cases hv : key v with
      | none => exact ih (h.skip hv)
      | some k => exact ih (h.push hv)

/-- **The loop groups the list by the key.** -/
theorem groups_groupByKey (key : α → Option κ) (values : List α) :
    Groups key values (groupByKey key values) := by
  have hempty : Groups key [] ([] : List (κ × List α)) :=
    ⟨List.nodup_nil, fun _ h => absurd h List.not_mem_nil, fun _ => by simp⟩
  exact groups_foldl values hempty

/-- The groups are the values of each key that occurs. -/
theorem mem_groupByKey_iff {key : α → Option κ} {values : List α} {k : κ} {vs : List α} :
    (k, vs) ∈ groupByKey key values ↔
      vs = values.filter (fun v => key v = some k) ∧ ∃ v ∈ values, key v = some k := by
  have h := groups_groupByKey key values
  constructor
  · intro hg
    exact ⟨h.members _ hg, (h.covers k).1 (List.mem_map_of_mem hg)⟩
  · rintro ⟨rfl, hcovers⟩
    obtain ⟨g, hg, rfl⟩ := List.mem_map.1 ((h.covers k).2 hcovers)
    rw [← h.members g hg]
    exact hg

end SettlementOps
