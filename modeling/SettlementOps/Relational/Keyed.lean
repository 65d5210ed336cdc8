import SettlementOps.Relational.Table

/-!
# Tables under a primary key

A table that carries its primary key: no two rows share it, whatever is inserted or
updated.

* `Keyed`, `Keyed.find` — the table, and the row of a key.
* `Keyed.update`, `Keyed.touched` — `UPDATE … WHERE`, and the keys of the rows it changes.
* `Keyed.insert` — `INSERT`, which fails on a key that is there.
-/

namespace Relational

variable {ρ κ : Type}

/-- The rows of a table, no two of them with one key. -/
structure Keyed (key : ρ → κ) where
  rows : List ρ
  unique : Unique key rows

namespace Keyed

variable {key : ρ → κ} (t : Keyed key)

/-- The table without rows. -/
def empty (key : ρ → κ) : Keyed key := ⟨[], unique_nil key⟩

/-- Change the rows that meet a condition; a change keeps the key. -/
def update (p : ρ → Bool) (f : ρ → ρ) (hf : ∀ r, key (f r) = key r) : Keyed key where
  rows := t.rows.map fun r => if p r then f r else r
  unique := by
    have hkeys : (t.rows.map fun r => if p r then f r else r).map key = t.rows.map key := by
      rw [List.map_map]
      apply List.map_congr_left
      intro r _
      simp only [Function.comp_apply]
      split
      · exact hf r
      · rfl
    unfold Unique
    rw [hkeys]
    exact t.unique

/-- The keys of the rows that meet a condition. -/
def touched (p : ρ → Bool) : List κ := (t.rows.filter p).map key

variable [DecidableEq κ]

/-- The row of a key. -/
def find (k : κ) : Option ρ := t.rows.find? fun r => key r = k

/-- Add a row, unless its key is taken. -/
def insert (row : ρ) : Option (Keyed key) :=
  if h : ∀ r ∈ t.rows, key r ≠ key row then some ⟨t.rows ++ [row], t.unique.concat h⟩ else none

variable {t}

theorem find_eq_some {k : κ} {r : ρ} : t.find k = some r ↔ r ∈ t.rows ∧ key r = k := by
  constructor
  · intro h
    exact ⟨List.mem_of_find?_eq_some h, by simpa using List.find?_some h⟩
  · rintro ⟨hmem, hkey⟩
    cases hfind : t.find k with
    | none =>
        have hne := List.find?_eq_none.1 hfind r hmem
        simp [hkey] at hne
    | some r' =>
        have hmem' := List.mem_of_find?_eq_some hfind
        have hkey' : key r' = k := by simpa using List.find?_some hfind
        rw [t.unique.eq hmem' hmem (hkey'.trans hkey.symm)]

@[simp] theorem find_empty (k : κ) : (empty key).find k = none := rfl

/-- An update changes the row of a key when the row meets the condition. -/
@[simp] theorem find_update (p : ρ → Bool) (f : ρ → ρ) (hf : ∀ r, key (f r) = key r) (k : κ) :
    (t.update p f hf).find k = (t.find k).map fun r => if p r then f r else r := by
  have hkey : ∀ r, key (if p r then f r else r) = key r := by
    intro r
    split
    · exact hf r
    · rfl
  unfold find update
  simp only [List.find?_map, Function.comp_def, hkey]

theorem mem_touched {p : ρ → Bool} {k : κ} :
    k ∈ t.touched p ↔ ∃ r, t.find k = some r ∧ p r = true := by
  simp only [touched, List.mem_map, List.mem_filter, find_eq_some]
  constructor
  · rintro ⟨r, ⟨hmem, hp⟩, hkey⟩
    exact ⟨r, ⟨hmem, hkey⟩, hp⟩
  · rintro ⟨r, ⟨hmem, hkey⟩, hp⟩
    exact ⟨r, ⟨hmem, hp⟩, hkey⟩

/-- An insert adds its own row, under a key that was free. -/
theorem find_insert {row : ρ} {t' : Keyed key} (h : t.insert row = some t') (k : κ) :
    t.find (key row) = none ∧ t'.find k = if key row = k then some row else t.find k := by
  unfold insert at h
  split at h
  · rename_i hnew
    rw [Option.some.injEq] at h
    subst h
    have hfree : t.find (key row) = none :=
      List.find?_eq_none.2 fun r hr => by simpa using hnew r hr
    refine ⟨hfree, ?_⟩
    unfold find
    rw [List.find?_append]
    by_cases hk : key row = k
    · subst hk
      have hfree' : t.rows.find? (fun r => key r = key row) = none := hfree
      simp [hfree']
    · simp [hk]
  · cases h

end Keyed

end Relational
