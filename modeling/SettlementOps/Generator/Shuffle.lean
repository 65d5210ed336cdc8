import Mathlib.Data.List.Nodup
import SettlementOps.Generator.Rng

/-!
# Every order comes out of the shuffle once

The shuffle draws an index for each position, from the last down to the second.

* `shuffleIndices`, `shuffleBy` — the indices alone, and what the shuffle does with them.
* `shuffle_eq` — the shuffle is the one after the other.
* `Rng.shuffle_perm` — what comes out is a permutation.
* `shuffle_bijective` — of distinct items each permutation comes out for one choice of indices.
-/

namespace SettlementOps.Generator

open Random

/-- The indices drawn for positions `i` down to `1`. -/
def shuffleIndices : Nat → Rng (List Nat)
  | 0 => pure []
  | i + 1 => do
      let j ← Rng.int 0 (i + 1)
      let js ← shuffleIndices i
      return j :: js

/-- The swaps of a choice of indices. -/
def shuffleBy {α : Type} : Nat → List Nat → List α → List α
  | i + 1, j :: js, copy => shuffleBy i js (swap copy (i + 1) j)
  | _, _, copy => copy

/-- An index for each position from `i` down to `1`, none above its position. -/
def IndicesFor : Nat → List Nat → Prop
  | 0, js => js = []
  | i + 1, js => ∃ j rest, js = j :: rest ∧ j ≤ i + 1 ∧ IndicesFor i rest

theorem shuffleIndices_always (i : Nat) : Always (shuffleIndices i) (IndicesFor i) := by
  induction i with
  | zero => exact Always.pure rfl
  | succ i ih =>
      refine (Rng.int_bounds 0 (i + 1)).bind fun j hj => ih.bind fun js hjs => ?_
      exact Always.pure ⟨j, js, rfl, by omega, hjs⟩

theorem shuffleFrom_eq {α : Type} (i : Nat) : ∀ (copy : List α) (tape : Tape UInt32),
    result (shuffleFrom i copy) tape = shuffleBy i (result (shuffleIndices i) tape) copy := by
  induction i with
  | zero => exact fun _ _ => rfl
  | succ i ih => exact fun copy tape => ih _ _

/-! ## One swap -/

section Swap

variable {α : Type} {copy : List α} {i j : Nat}

theorem swap_perm (copy : List α) (i j : Nat) : (swap copy i j).Perm copy := by
  unfold swap
  split
  · rename_i a b ha hb
    obtain ⟨hi, rfl⟩ := List.getElem?_eq_some_iff.1 ha
    obtain ⟨hj, rfl⟩ := List.getElem?_eq_some_iff.1 hb
    exact List.set_set_perm hi hj
  · exact List.Perm.refl copy

theorem swap_eq (hi : i < copy.length) (hj : j < copy.length) :
    swap copy i j = (copy.set i copy[j]).set j copy[i] := by
  unfold swap
  rw [List.getElem?_eq_getElem hi, List.getElem?_eq_getElem hj]

/-- The first position gets what was at the second. -/
theorem getElem?_swap_left (hi : i < copy.length) (hj : j < copy.length) :
    (swap copy i j)[i]? = copy[j]? := by
  rw [swap_eq hi hj]
  by_cases hij : j = i
  · subst hij
    simp [hj]
  · rw [List.getElem?_set_ne hij, List.getElem?_set_self hi, List.getElem?_eq_getElem hj]

theorem getElem?_swap_of_ne {k : Nat} (hki : k ≠ i) (hkj : k ≠ j) :
    (swap copy i j)[k]? = copy[k]? := by
  unfold swap
  split
  · rw [List.getElem?_set_ne (Ne.symm hkj), List.getElem?_set_ne (Ne.symm hki)]
  · rfl

end Swap

/-! ## The shuffle -/

section Shuffle

variable {α : Type}

theorem shuffleBy_perm (i : Nat) : ∀ (js : List Nat) (copy : List α),
    (shuffleBy i js copy).Perm copy := by
  induction i with
  | zero => exact fun _ copy => List.Perm.refl copy
  | succ i ih =>
      intro js copy
      cases js with
      | nil => exact List.Perm.refl copy
      | cons j js => exact (ih js _).trans (swap_perm copy (i + 1) j)

/-- Positions above the ones still drawn stay as they are. -/
theorem getElem?_shuffleBy (i : Nat) : ∀ {js : List Nat} {copy : List α} {k : Nat},
    IndicesFor i js → i < k → (shuffleBy i js copy)[k]? = copy[k]? := by
  induction i with
  | zero => exact fun _ _ => rfl
  | succ i ih =>
      rintro js copy k ⟨j, rest, rfl, hj, hrest⟩ hk
      rw [shuffleBy, ih hrest (by omega), getElem?_swap_of_ne (by omega) (by omega)]

theorem shuffle_eq (items : List α) (tape : Tape UInt32) :
    result (Rng.shuffle items) tape =
      shuffleBy (items.length - 1) (result (shuffleIndices (items.length - 1)) tape) items :=
  shuffleFrom_eq _ items tape

theorem Rng.shuffle_perm (items : List α) : Always (Rng.shuffle items) (·.Perm items) := by
  intro tape
  rw [shuffle_eq]
  exact shuffleBy_perm _ _ items

/-- Two permutations that agree from the second position on are one. -/
theorem eq_of_perm_of_tail {p copy : List α} (hperm : p.Perm copy)
    (htail : ∀ k, 0 < k → p[k]? = copy[k]?) : p = copy := by
  cases p with
  | nil => exact (List.perm_nil.1 hperm.symm).symm
  | cons a p =>
      cases copy with
      | nil => exact List.perm_nil.1 hperm
      | cons b copy =>
          have hrest : p = copy := List.ext_getElem? fun k => htail (k + 1) (Nat.succ_pos k)
          subst hrest
          have hone : [a].Perm [b] := (List.perm_append_right_iff p).1 hperm
          rw [List.singleton_perm_singleton.1 hone]

/-- Of distinct items, what is left to arrange below a position is arranged by one choice of
indices: the last of them has to fetch what belongs there. -/
theorem existsUnique_indices (i : Nat) : ∀ {copy p : List α}, copy.Nodup → i < copy.length →
    p.Perm copy → (∀ k, i < k → p[k]? = copy[k]?) →
    ∃! js, IndicesFor i js ∧ shuffleBy i js copy = p := by
  induction i with
  | zero =>
      intro copy p _ _ hperm htail
      refine ⟨[], ⟨rfl, (eq_of_perm_of_tail hperm htail).symm⟩, ?_⟩
      rintro js ⟨hjs, -⟩
      exact hjs
  | succ i ih =>
      intro copy p hnodup hi hperm htail
      have hlen := hperm.length_eq
      have hip : i + 1 < p.length := by omega
      -- where the item of this position is now
      obtain ⟨j, hj, hpj⟩ := List.getElem_of_mem (hperm.subset (List.getElem_mem hip))
      have hle : j ≤ i + 1 := by
        by_contra hlt
        have hsame : p[j]? = p[i + 1]? := by
          rw [htail j (by omega), List.getElem?_eq_getElem hj, hpj, List.getElem?_eq_getElem hip]
        have hjp : j < p.length := by omega
        have heq := (List.getElem?_inj hjp (hperm.nodup_iff.2 hnodup)).1 hsame
        omega
      have hswap : ∀ k, i < k → p[k]? = (swap copy (i + 1) j)[k]? := by
        intro k hk
        by_cases hki : k = i + 1
        · subst hki
          rw [getElem?_swap_left hi hj, List.getElem?_eq_getElem hip, List.getElem?_eq_getElem hj,
            hpj]
        · rw [getElem?_swap_of_ne hki (by omega), htail k (by omega)]
      have hlen' := (swap_perm copy (i + 1) j).length_eq
      obtain ⟨js, ⟨hjs, hresult⟩, hunique⟩ :=
        ih ((swap_perm copy (i + 1) j).nodup_iff.2 hnodup) (by omega)
          (hperm.trans (swap_perm copy (i + 1) j).symm) hswap
      refine ⟨j :: js, ⟨⟨j, js, rfl, hle, hjs⟩, hresult⟩, ?_⟩
      rintro js' ⟨⟨j', rest, rfl, hle', hrest⟩, hresult'⟩
      -- another choice fetches the same item
      have hfetched : p[i + 1]? = copy[j']? := by
        rw [← hresult', shuffleBy, getElem?_shuffleBy i hrest (by omega),
          getElem?_swap_left hi (by omega)]
      rw [List.getElem?_eq_getElem hip, ← hpj, ← List.getElem?_eq_getElem hj] at hfetched
      have hjj := (List.getElem?_inj hj hnodup).1 hfetched
      subst hjj
      rw [hunique rest ⟨hrest, hresult'⟩]

/-- **The shuffle is a bijection.**  What comes out is what the drawn indices make of the items,
and of distinct items each permutation is made by one choice of indices: no order is favoured. -/
theorem shuffle_bijective (items : List α) (hnodup : items.Nodup) :
    (∀ tape, IndicesFor (items.length - 1) (result (shuffleIndices (items.length - 1)) tape) ∧
      result (Rng.shuffle items) tape =
        shuffleBy (items.length - 1) (result (shuffleIndices (items.length - 1)) tape) items) ∧
    (∀ js, (shuffleBy (items.length - 1) js items).Perm items) ∧
    ∀ p, p.Perm items →
      ∃! js, IndicesFor (items.length - 1) js ∧ shuffleBy (items.length - 1) js items = p := by
  refine ⟨fun tape => ⟨shuffleIndices_always _ tape, shuffle_eq items tape⟩,
    fun js => shuffleBy_perm _ js items, fun p hperm => ?_⟩
  cases items with
  | nil =>
      refine ⟨[], ⟨rfl, (List.perm_nil.1 hperm).symm⟩, ?_⟩
      rintro js ⟨hjs, -⟩
      exact hjs
  | cons a items =>
      refine existsUnique_indices _ hnodup (by simp) hperm fun k hk => ?_
      have hlen := hperm.length_eq
      rw [List.length_cons] at hlen hk
      rw [List.getElem?_eq_none (by omega), List.getElem?_eq_none (by rw [List.length_cons]; omega)]

end Shuffle

/-- Three items come out reversed for one choice of indices. -/
theorem shuffle_bijective_reverse :
    ∃! js, IndicesFor 2 js ∧ shuffleBy 2 js ["a", "b", "c"] = ["c", "b", "a"] :=
  (shuffle_bijective ["a", "b", "c"] (by decide)).2.2 _ (List.reverse_perm ["a", "b", "c"])

end SettlementOps.Generator
