import Mathlib.Data.List.MinMax
import SettlementOps.Relational.Keyed

/-!
# Maps, sets and tallies in insertion order

Tables of entries under their keys that remember the order the keys came in, with what a loop
that fills one leaves in it.

* `Entries`, `Entries.get`, `Entries.alter` — a map, the value of a key, and setting it.
* `Distinct`, `Distinct.add` — a set.
* `eraseDups_concat`, `eraseDups_map` — the first occurrences in a list.
* `tally`, `tally_rows` — counting values: each one once, in order of first occurrence.
* `foldl_best_eq_argmax` — looking for the largest, ties to the first.
-/

namespace Relational

variable {κ ν : Type}

/-- A map that keeps its keys in the order they were first set in. -/
abbrev Entries (κ ν : Type) := Keyed (Prod.fst : κ × ν → κ)

/-- A set that keeps its elements in the order they were first added in. -/
abbrev Distinct (κ : Type) := Keyed (id : κ → κ)

variable [DecidableEq κ]

namespace Keyed

/-- An insert is refused exactly when the key is taken. -/
theorem insert_eq_none_iff {ρ : Type} {key : ρ → κ} {t : Keyed key} {row : ρ} :
    t.insert row = none ↔ ∃ r ∈ t.rows, key r = key row := by
  unfold insert
  split
  · rename_i hnew
    simp only [reduceCtorEq, false_iff, not_exists, not_and]
    exact hnew
  · rename_i htaken
    push Not at htaken
    simp only [htaken]

theorem insert_rows {ρ : Type} {key : ρ → κ} {t t' : Keyed key} {row : ρ}
    (h : t.insert row = some t') : t'.rows = t.rows ++ [row] := by
  unfold insert at h
  split at h
  · cases h
    rfl
  · cases h

end Keyed

namespace Entries

variable (m : Entries κ ν) (k : κ) (f : Option ν → ν)

def get : Option ν := (m.find k).map Prod.snd

/-- Set the value of a key, given the one it has: in its place, or else at the end. -/
def alter : Entries κ ν :=
  match m.insert (k, f none) with
  | some added => added
  | none => m.update (fun e => e.1 = k) (fun e => (e.1, f (some e.2))) fun _ => rfl

theorem rows_alter : (m.alter k f).rows =
    if k ∈ m.rows.map Prod.fst then
      m.rows.map fun e => if e.1 = k then (e.1, f (some e.2)) else e
    else m.rows ++ [(k, f none)] := by
  have hkey : k ∈ m.rows.map Prod.fst ↔ ∃ e ∈ m.rows, e.1 = k := List.mem_map
  unfold alter
  cases hins : m.insert (k, f none) with
  | some added =>
      have hfree : ¬ ∃ e ∈ m.rows, e.1 = k := by
        intro htaken
        have hnone : m.insert (k, f none) = none := Keyed.insert_eq_none_iff.2 htaken
        rw [hins] at hnone
        exact Option.some_ne_none _ hnone
      rw [if_neg (mt hkey.1 hfree)]
      exact Keyed.insert_rows hins
  | none =>
      rw [if_pos (hkey.2 (Keyed.insert_eq_none_iff.1 hins))]
      simp only [Keyed.update, decide_eq_true_eq]

/-- **Setting one key** leaves the others as they are. -/
theorem get_alter (k' : κ) :
    (m.alter k f).get k' = if k = k' then some (f (m.get k)) else m.get k' := by
  unfold alter
  cases hins : m.insert (k, f none) with
  | some added =>
      obtain ⟨hfree, hfind⟩ := Keyed.find_insert hins k'
      rw [show m.get k = none from congrArg (Option.map Prod.snd) hfree]
      dsimp only
      rw [get, hfind]
      split <;> rfl
  | none =>
      obtain ⟨e, hmem, hkey⟩ := Keyed.insert_eq_none_iff.1 hins
      have hfound : m.find k = some e := Keyed.find_eq_some.2 ⟨hmem, hkey⟩
      dsimp only
      rw [get, Keyed.find_update]
      by_cases hk : k = k'
      · subst hk
        simp [get, hfound, hkey]
      · rw [if_neg hk]
        refine congrArg (Option.map Prod.snd) ?_
        cases hother : m.find k' with
        | none => rfl
        | some e' =>
            have hne : ¬ e'.1 = k := fun h => hk (h.symm.trans (Keyed.find_eq_some.1 hother).2)
            rw [Option.map_some, if_neg (by simpa using hne)]

theorem get_empty : get (Keyed.empty Prod.fst : Entries κ ν) k = none := rfl

end Entries

namespace Distinct

/-- Add an element, unless it is there. -/
def add (s : Distinct κ) (x : κ) : Distinct κ := (s.insert x).getD s

theorem rows_add (s : Distinct κ) (x : κ) :
    (s.add x).rows = if x ∈ s.rows then s.rows else s.rows ++ [x] := by
  unfold add
  cases hins : s.insert x with
  | some added =>
      have hfree : x ∉ s.rows := by
        intro hx
        rw [Keyed.insert_eq_none_iff.2 ⟨x, hx, rfl⟩] at hins
        cases hins
      rw [Option.getD_some, Keyed.insert_rows hins, if_neg hfree]
  | none =>
      obtain ⟨r, hr, rfl⟩ := Keyed.insert_eq_none_iff.1 hins
      exact (if_pos hr).symm

theorem mem_add {s : Distinct κ} {x y : κ} : y ∈ (s.add x).rows ↔ y ∈ s.rows ∨ x = y := by
  rw [rows_add]
  split
  · rename_i hx
    refine (or_iff_left_of_imp ?_).symm
    rintro rfl
    exact hx
  · rw [List.mem_append, List.mem_singleton, eq_comm]

end Distinct

/-! ## First occurrences -/

section

variable {α β : Type} [BEq α] [LawfulBEq α] [BEq β] [LawfulBEq β]

/-- One more element occurs first unless it occurred before. -/
theorem eraseDups_concat (xs : List α) (x : α) :
    (xs ++ [x]).eraseDups = if x ∈ xs then xs.eraseDups else xs.eraseDups ++ [x] := by
  rw [List.eraseDups_append]
  by_cases hx : x ∈ xs
  · simp [List.removeAll, hx]
  · simp [List.removeAll, hx, List.eraseDups_cons]

theorem eraseDups_map {f : α → β} (hf : Function.Injective f) (xs : List α) :
    (xs.map f).eraseDups = xs.eraseDups.map f := by
  induction xs using List.reverseRecOn with
  | nil => rfl
  | append_singleton xs x ih =>
      have hmem : f x ∈ xs.map f ↔ x ∈ xs := List.mem_map_of_injective hf
      rw [List.map_append, List.map_singleton, eraseDups_concat, eraseDups_concat, ih]
      by_cases hx : x ∈ xs
      · rw [if_pos hx, if_pos (hmem.2 hx)]
      · rw [if_neg hx, if_neg (mt hmem.1 hx), List.map_append, List.map_singleton]

end

/-- A set of the first occurrences grows with the list. -/
theorem Distinct.rows_add_eraseDups {s : Distinct κ} {xs : List κ} (h : s.rows = xs.eraseDups)
    (x : κ) : (s.add x).rows = (xs ++ [x]).eraseDups := by
  have hmem : x ∈ s.rows ↔ x ∈ xs := by rw [h, List.mem_eraseDups]
  rw [Distinct.rows_add, eraseDups_concat]
  by_cases hx : x ∈ xs
  · rw [if_pos hx, if_pos (hmem.2 hx), h]
  · rw [if_neg hx, if_neg (mt hmem.1 hx), h]

/-! ## Counting -/

/-- One more of a value. -/
def tally (counts : Entries κ ℕ) (x : κ) : Entries κ ℕ := counts.alter x fun n => n.getD 0 + 1

/-- **What a counting loop leaves**: each value once, in order of first occurrence, with the
number of its occurrences. -/
theorem tally_rows (xs : List κ) :
    (xs.foldl tally (Keyed.empty Prod.fst)).rows = xs.eraseDups.map fun x => (x, xs.count x) := by
  induction xs using List.reverseRecOn with
  | nil => rfl
  | append_singleton xs x ih =>
      have hkeys : (xs.eraseDups.map fun x => (x, xs.count x)).map Prod.fst = xs.eraseDups := by
        rw [List.map_map]
        exact List.map_id _
      rw [List.foldl_append, List.foldl_cons, List.foldl_nil, tally, Entries.rows_alter, ih, hkeys,
        eraseDups_concat]
      by_cases hx : x ∈ xs
      · rw [if_pos hx, if_pos (List.mem_eraseDups.2 hx), List.map_map]
        refine List.map_congr_left fun y _ => ?_
        by_cases hy : y = x
        · simp [hy]
        · simp [hy, Ne.symm hy]
      · rw [if_neg hx, if_neg (mt List.mem_eraseDups.1 hx), List.map_append]
        congr 1
        · refine List.map_congr_left fun y hy => ?_
          have hne : x ≠ y := by
            rintro rfl
            exact hx (List.mem_eraseDups.1 hy)
          simp [hne]
        · simp [List.count_eq_zero_of_not_mem hx]

/-- The count of a value, nothing being none. -/
theorem getD_get_tally (xs : List κ) (x : κ) :
    ((xs.foldl tally (Keyed.empty Prod.fst)).get x).getD 0 = xs.count x := by
  induction xs using List.reverseRecOn with
  | nil => rfl
  | append_singleton xs y ih =>
      rw [List.foldl_append, List.foldl_cons, List.foldl_nil, tally, Entries.get_alter]
      by_cases hy : y = x
      · subst hy
        rw [if_pos rfl, Option.getD_some, ih, List.count_append, List.count_singleton_self]
      · rw [if_neg hy, ih, List.count_append, List.count_singleton, if_neg (by simpa using hy),
          Nat.add_zero]

/-- **Looking for the largest**: a loop that starts below every value and takes what is strictly
larger ends with the first of the largest. -/
theorem foldl_best_eq_argmax {α : Type} (f : α → ℕ) (init : α) (xs : List α) :
    (xs.foldl (fun (best : α × ℤ) x => if (f x : ℤ) > best.2 then (x, (f x : ℤ)) else best)
      (init, -1)).1 = (xs.argmax f).getD init := by
  -- what the loop knows of the best so far
  have hloop : ∀ (xs : List α) (best : Option α),
      xs.foldl (fun (best : α × ℤ) x => if (f x : ℤ) > best.2 then (x, (f x : ℤ)) else best)
          (best.elim (init, -1) fun a => (a, (f a : ℤ))) =
        (xs.foldl (List.argAux fun b c => f c < f b) best).elim (init, -1)
          fun a => (a, (f a : ℤ)) := by
    intro xs
    induction xs with
    | nil => exact fun _ => rfl
    | cons x xs ih =>
        intro best
        rw [List.foldl_cons, List.foldl_cons, ← ih]
        congr 1
        cases best with
        | none =>
            have hstart : (-1 : ℤ) < f x := by omega
            simp [List.argAux, hstart]
        | some a =>
            by_cases hlt : f a < f x
            · simp [List.argAux, hlt]
            · simp [List.argAux, hlt]
  have hbest := hloop xs none
  rw [Option.elim_none] at hbest
  rw [hbest, List.argmax]
  cases xs.foldl (List.argAux fun b c => f c < f b) none <;> rfl

end Relational
