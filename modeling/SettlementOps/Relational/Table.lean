import Mathlib.Algebra.Ring.Nat
import Mathlib.Data.List.Dedup
import Mathlib.Data.List.Perm.Basic
import Mathlib.Data.List.Sort

/-!
# Tables as lists of rows

The part of SQL a store of keyed rows needs, with its multiset semantics: a query may
return a row several times, and the order of rows means nothing.

* `Unique`, `References` — a key no two rows share, and a foreign key.
* `insertNew`, `Table.insert` — `INSERT … ON CONFLICT (key) DO NOTHING` under a primary key.
* `keepFirst` — the first row of every key.
* `OrderBy` — the order rows are returned in.
* `join` — the inner join, one pair for every match.
* `map_fst_join_of_le_one`, `countP_le_one_of_length_le` — the rows of one side come out of a
  join exactly once when, and only when, each has at most one match.
* `dedup_map_perm` — `SELECT DISTINCT` over a keyed table.
-/

namespace Relational

variable {α β ρ ι κ : Type}

/-- No two rows share a key. -/
def Unique (key : ρ → κ) (table : List ρ) : Prop := (table.map key).Nodup

theorem Unique.nodup {key : ρ → κ} {table : List ρ} (h : Unique key table) : table.Nodup :=
  List.Nodup.of_map key h

/-- Rows of a table with the same key are the same row. -/
theorem Unique.eq {key : ρ → κ} {table : List ρ} (h : Unique key table) {a b : ρ}
    (ha : a ∈ table) (hb : b ∈ table) (hkey : key a = key b) : a = b :=
  List.inj_on_of_nodup_map h ha hb hkey

theorem unique_nil (key : ρ → κ) : Unique key [] := List.nodup_nil

theorem Unique.concat {key : ρ → κ} {table : List ρ} (h : Unique key table) {row : ρ}
    (hnew : ∀ r ∈ table, key r ≠ key row) : Unique key (table ++ [row]) := by
  unfold Unique at h ⊢
  rw [List.map_append, List.nodup_append]
  refine ⟨h, by simp, ?_⟩
  intro k hk k' hk' heq
  obtain ⟨r, hr, rfl⟩ := List.mem_map.1 hk
  simp only [List.map_cons, List.map_nil, List.mem_singleton] at hk'
  exact hnew r hr (heq.trans hk')

/-- A foreign key: what a row references is the key of a row of the other table. -/
def References (fk : α → Option κ) (key : β → κ) (xs : List α) (ys : List β) : Prop :=
  ∀ x ∈ xs, ∀ k ∈ fk x, ∃ y ∈ ys, key y = k

theorem references_nil (fk : α → Option κ) (key : β → κ) (ys : List β) :
    References fk key [] ys := by
  intro x hx
  cases hx

/-- A foreign key survives when the referenced table grows. -/
theorem References.grow {fk : α → Option κ} {key : β → κ} {xs : List α} {ys ys' : List β}
    (h : References fk key xs ys) (hys : ∀ y ∈ ys, y ∈ ys') : References fk key xs ys' := by
  intro x hx k hk
  obtain ⟨y, hy, hkey⟩ := h x hx k hk
  exact ⟨y, hys y hy, hkey⟩

/-! ## Inserting -/

section Insert

variable [DecidableEq ι] [DecidableEq κ] (pk : ρ → ι) (key : ρ → κ)

/-- `INSERT … ON CONFLICT (key) DO NOTHING`: the number of rows inserted and the table.  A
conflict on the primary key alone is an error. -/
def insertNew (row : ρ) (table : List ρ) : Option (Nat × List ρ) :=
  if table.any (fun r => key r = key row) then some (0, table)
  else if table.any (fun r => pk r = pk row) then none
  else some (1, table ++ [row])

variable {pk key} {row : ρ} {table table' : List ρ} {n : Nat}

/-- The two outcomes of an insert that is no error. -/
theorem insertNew_cases (h : insertNew pk key row table = some (n, table')) :
    (n = 0 ∧ table' = table ∧ ∃ r ∈ table, key r = key row) ∨
      (n = 1 ∧ table' = table ++ [row] ∧ (∀ r ∈ table, key r ≠ key row) ∧
        ∀ r ∈ table, pk r ≠ pk row) := by
  unfold insertNew at h
  split at h
  · rename_i hany
    cases h
    exact .inl ⟨rfl, rfl, by simpa using hany⟩
  rename_i hkey
  split at h
  · cases h
  rename_i hpk
  cases h
  refine .inr ⟨rfl, rfl, ?_, ?_⟩
  · simpa using hkey
  · simpa using hpk

/-- Rows stay. -/
theorem insertNew_subset (h : insertNew pk key row table = some (n, table')) :
    ∀ r ∈ table, r ∈ table' := by
  intro r hr
  rcases insertNew_cases h with ⟨-, rfl, -⟩ | ⟨-, rfl, -⟩
  · exact hr
  · exact List.mem_append_left _ hr

/-- The only row an insert adds is its own. -/
theorem insertNew_mem (h : insertNew pk key row table = some (n, table')) :
    ∀ r ∈ table', r ∈ table ∨ r = row := by
  intro r hr
  rcases insertNew_cases h with ⟨-, rfl, -⟩ | ⟨-, rfl, -⟩
  · exact .inl hr
  · simpa using hr

theorem insertNew_unique_pk (h : insertNew pk key row table = some (n, table'))
    (hpk : Unique pk table) : Unique pk table' := by
  rcases insertNew_cases h with ⟨-, rfl, -⟩ | ⟨-, rfl, -, hnew⟩
  · exact hpk
  · exact hpk.concat hnew

theorem insertNew_unique_key (h : insertNew pk key row table = some (n, table'))
    (hkey : Unique key table) : Unique key table' := by
  rcases insertNew_cases h with ⟨-, rfl, -⟩ | ⟨-, rfl, hnew, -⟩
  · exact hkey
  · exact hkey.concat hnew

/-- A foreign key survives an insert whose own reference is there. -/
theorem insertNew_references {fk : ρ → Option ι} {okey : β → ι} {ys : List β}
    (h : insertNew pk key row table = some (n, table')) (hfk : References fk okey table ys)
    (hrow : ∀ k ∈ fk row, ∃ y ∈ ys, okey y = k) : References fk okey table' ys := by
  intro r hr
  rcases insertNew_mem h r hr with hr | rfl
  · exact hfk r hr
  · exact hrow

end Insert

/-- A table of a store, with its primary key and the key its inserts may meet a conflict on. -/
structure Table (σ ρ κ : Type) where
  rows : σ → List ρ
  set : List ρ → σ → σ
  pk : ρ → String
  key : ρ → κ

/-- Insert one row: the number of rows inserted and the store. -/
def Table.insert [DecidableEq κ] {σ : Type} (T : Table σ ρ κ) (row : ρ) (s : σ) :
    Option (Nat × σ) :=
  (insertNew T.pk T.key row (T.rows s)).map fun out => (out.1, T.set out.2 s)

theorem Table.insert_eq_some [DecidableEq κ] {σ : Type} {T : Table σ ρ κ} {row : ρ} {s s' : σ}
    {n : Nat} : T.insert row s = some (n, s') ↔
      ∃ table, insertNew T.pk T.key row (T.rows s) = some (n, table) ∧ s' = T.set table s := by
  simp only [Table.insert, Option.map_eq_some_iff, Prod.mk.injEq, Prod.exists]
  constructor
  · rintro ⟨n', table, h, rfl, rfl⟩
    exact ⟨table, h, rfl⟩
  · rintro ⟨table, h, rfl⟩
    exact ⟨n, table, h, rfl, rfl⟩

/-! ## The first row of every key -/

section KeepFirst

variable [DecidableEq κ] (key : ρ → κ)

/-- A row joins those before it unless one of them has its key. -/
def keepNew (rows : List ρ) (row : ρ) : List ρ :=
  if rows.any (fun r => key r = key row) then rows else rows ++ [row]

/-- The first row of every key, in the order the rows come. -/
def keepFirst (rows : List ρ) : List ρ := rows.foldl (keepNew key) []

theorem keepFirst_append (xs ys : List ρ) :
    keepFirst key (xs ++ ys) = ys.foldl (keepNew key) (keepFirst key xs) :=
  List.foldl_append

variable {key}

theorem keepNew_unique {rows : List ρ} (h : Unique key rows) (row : ρ) :
    Unique key (keepNew key rows row) := by
  unfold keepNew
  split
  · exact h
  · rename_i hany
    refine h.concat fun r hr hkey => hany ?_
    simpa using ⟨r, hr, hkey⟩

theorem foldl_keepNew_unique (ys : List ρ) :
    ∀ {rows : List ρ}, Unique key rows → Unique key (ys.foldl (keepNew key) rows) := by
  induction ys with
  | nil =>
      intro rows h
      exact h
  | cons y ys ih =>
      intro rows h
      exact ih (keepNew_unique h y)

theorem keepFirst_unique (rows : List ρ) : Unique key (keepFirst key rows) :=
  foldl_keepNew_unique rows (unique_nil key)

/-- Rows of distinct keys are all kept. -/
theorem foldl_keepNew_of_unique (ys : List ρ) :
    ∀ {rows : List ρ}, Unique key (rows ++ ys) → ys.foldl (keepNew key) rows = rows ++ ys := by
  induction ys with
  | nil =>
      intro rows _
      simp
  | cons y ys ih =>
      intro rows h
      have hnew : keepNew key rows y = rows ++ [y] := by
        unfold keepNew
        rw [if_neg]
        simp only [List.any_eq_true, decide_eq_true_eq, not_exists, not_and]
        intro r hr hkey
        unfold Unique at h
        rw [List.map_append, List.nodup_append] at h
        exact h.2.2 _ (List.mem_map_of_mem hr) (key y) (by simp) hkey
      rw [List.foldl_cons, hnew, ih (by simpa using h), List.append_assoc]
      rfl

theorem keepFirst_of_unique {rows : List ρ} (h : Unique key rows) : keepFirst key rows = rows :=
  foldl_keepNew_of_unique rows (by simpa using h)

theorem mem_foldl_keepNew {row : ρ} (ys : List ρ) :
    ∀ {rows : List ρ}, row ∈ ys.foldl (keepNew key) rows → row ∈ rows ∨ row ∈ ys := by
  induction ys with
  | nil =>
      intro rows h
      exact .inl h
  | cons y ys ih =>
      intro rows h
      rcases ih h with h | h
      · unfold keepNew at h
        split at h
        · exact .inl h
        · rcases List.mem_append.1 h with h | h
          · exact .inl h
          · exact .inr (by simp [List.mem_singleton.1 h])
      · exact .inr (List.mem_cons_of_mem _ h)

/-- Only rows that come are kept. -/
theorem mem_of_mem_keepFirst {rows : List ρ} {row : ρ} (h : row ∈ keepFirst key rows) :
    row ∈ rows := by
  rcases mem_foldl_keepNew rows h with h | h
  · cases h
  · exact h

end KeepFirst

/-- The row a property that no two rows share finds. -/
theorem find?_eq_some_iff_of_unique {rows : List ρ} {p : ρ → Bool} {row : ρ}
    (h : ∀ a ∈ rows, ∀ b ∈ rows, p a = true → p b = true → a = b) :
    rows.find? p = some row ↔ row ∈ rows ∧ p row = true := by
  constructor
  · intro hfind
    exact ⟨List.mem_of_find?_eq_some hfind, List.find?_some hfind⟩
  · rintro ⟨hrow, hp⟩
    cases hfind : rows.find? p with
    | none => exact absurd hp (by simpa using List.find?_eq_none.1 hfind row hrow)
    | some r =>
        rw [h r (List.mem_of_find?_eq_some hfind) row hrow (List.find?_some hfind) hp]

/-- Two searches that find the same key find the same row. -/
theorem Unique.find?_eq {key : ρ → κ} {table : List ρ} (h : Unique key table)
    {p q : ρ → Bool} (hkey : (table.find? p).map key = (table.find? q).map key) :
    table.find? p = table.find? q := by
  cases hp : table.find? p with
  | none =>
      rw [hp] at hkey
      exact (Option.map_eq_none_iff.1 hkey.symm).symm
  | some a =>
      rw [hp] at hkey
      obtain ⟨b, hb, hab⟩ := Option.map_eq_some_iff.1 hkey.symm
      rw [hb, h.eq (List.mem_of_find?_eq_some hb) (List.mem_of_find?_eq_some hp) hab]

/-! ## The order of rows -/

/-- `ORDER BY`: the selected rows in the order of their keys, and rows whose keys tie in an
order of the database's own. -/
structure OrderBy {ρ : Type} (le : ρ → ρ → Bool) where
  sort : List ρ → List ρ
  perm : ∀ rows, (sort rows).Perm rows
  sorted : ∀ rows, (sort rows).Pairwise fun a b => le a b = true

/-- The order that leaves rows whose keys tie as they are stored. -/
def OrderBy.stored {le : ρ → ρ → Bool} (htrans : ∀ a b c, le a b → le b c → le a c)
    (htotal : ∀ a b, le a b || le b a) : OrderBy le where
  sort rows := rows.insertionSort fun a b => le a b = true
  perm rows := List.perm_insertionSort _ rows
  sorted rows :=
    have : IsTrans ρ fun a b => le a b = true := ⟨htrans⟩
    have : Std.Total fun a b => le a b = true := ⟨fun a b => by simpa using htotal a b⟩
    List.pairwise_insertionSort _ rows

/-! ## Joins -/

/-- The inner join: a pair for every match. -/
def join (on : α → β → Bool) (xs : List α) (ys : List β) : List (α × β) :=
  xs.flatMap fun x => (ys.filter (on x)).map (x, ·)

theorem mem_join {on : α → β → Bool} {xs : List α} {ys : List β} {p : α × β} :
    p ∈ join on xs ys ↔ p.1 ∈ xs ∧ p.2 ∈ ys ∧ on p.1 p.2 = true := by
  obtain ⟨x, y⟩ := p
  simp only [join, List.mem_flatMap, List.mem_map, List.mem_filter, Prod.mk.injEq]
  constructor
  · rintro ⟨x', hx, y', ⟨hy, hon⟩, rfl, rfl⟩
    exact ⟨hx, hy, hon⟩
  · rintro ⟨hx, hy, hon⟩
    exact ⟨x, hx, y, ⟨hy, hon⟩, rfl, rfl⟩

theorem join_cons (on : α → β → Bool) (x : α) (xs : List α) (ys : List β) :
    join on (x :: xs) ys = (ys.filter (on x)).map (x, ·) ++ join on xs ys := rfl

/-- A join of renamed rows is the renamed join. -/
theorem join_map {α' β' : Type} (on : α → β → Bool) {on' : α' → β' → Bool} {f : α → α'}
    {g : β → β'} (h : ∀ x y, on' (f x) (g y) = on x y) (xs : List α) (ys : List β) :
    join on' (xs.map f) (ys.map g) = (join on xs ys).map (Prod.map f g) := by
  induction xs with
  | nil => rfl
  | cons x xs ih =>
      rw [List.map_cons, join_cons, join_cons, ih, List.map_append]
      congr 1
      rw [List.filter_map, List.map_map, List.map_map]
      have hon : on' (f x) ∘ g = on x := funext (h x)
      rw [hon]
      rfl

/-- Rows that no pair of a condition has may be left out of a join. -/
theorem filter_join_filter {on : α → β → Bool} {cond : α × β → Bool} {p : α → Bool}
    {q : β → Bool} {xs : List α} {ys : List β}
    (h : ∀ x ∈ xs, ∀ y ∈ ys, on x y = true → cond (x, y) = true → p x = true ∧ q y = true) :
    (join on (xs.filter p) (ys.filter q)).filter cond = (join on xs ys).filter cond := by
  induction xs with
  | nil => rfl
  | cons x xs ih =>
      have ih' := ih fun x' hx' => h x' (List.mem_cons_of_mem _ hx')
      have hx := h x List.mem_cons_self
      rw [join_cons, List.filter_append, ← ih', List.filter_cons]
      have hrow : ((ys.filter (on x)).map (x, ·)).filter cond =
          if p x then (((ys.filter q).filter (on x)).map (x, ·)).filter cond else [] := by
        split
        · rw [List.filter_map, List.filter_map, List.filter_filter, List.filter_filter,
            List.filter_filter]
          congr 1
          refine List.filter_congr fun y hy => ?_
          rw [Bool.eq_iff_iff]
          simp only [Function.comp_apply, Bool.and_eq_true]
          constructor
          · rintro ⟨hcond, hon⟩
            exact ⟨⟨hcond, hon⟩, (hx y hy hon hcond).2⟩
          · rintro ⟨⟨hcond, hon⟩, -⟩
            exact ⟨hcond, hon⟩
        · rename_i hp
          refine List.filter_eq_nil_iff.2 fun pair hpair hcond => hp ?_
          obtain ⟨y, hy, rfl⟩ := List.mem_map.1 hpair
          obtain ⟨hy, hon⟩ := List.mem_filter.1 hy
          exact (hx y hy hon hcond).1
      rw [hrow]
      split
      · rw [join_cons, List.filter_append]
      · rfl

/-- A join of filtered tables is a filtered join. -/
theorem join_filter (on : α → β → Bool) (p : α → Bool) (q : β → Bool) (xs : List α)
    (ys : List β) :
    join on (xs.filter p) (ys.filter q) = (join on xs ys).filter fun xy => p xy.1 && q xy.2 := by
  rw [← filter_join_filter (p := p) (q := q)]
  · refine (List.filter_eq_self.2 fun xy hxy => ?_).symm
    obtain ⟨hx, hy, -⟩ := mem_join.1 hxy
    exact Bool.and_eq_true_iff.2 ⟨(List.mem_filter.1 hx).2, (List.mem_filter.1 hy).2⟩
  · intro x _ y _ _ hcond
    exact Bool.and_eq_true_iff.1 hcond

/-- A filter that another one implies may be left out. -/
theorem filter_filter_of_imp {p q : ρ → Bool} {rows : List ρ}
    (h : ∀ r, q r = true → p r = true) : (rows.filter p).filter q = rows.filter q := by
  rw [List.filter_filter]
  refine List.filter_congr fun r _ => ?_
  rw [Bool.eq_iff_iff, Bool.and_eq_true]
  exact ⟨And.left, fun hq => ⟨hq, h r hq⟩⟩

/-- A join of permuted tables is a permuted join. -/
theorem join_perm (on : α → β → Bool) {xs xs' : List α} {ys ys' : List β} (hx : xs.Perm xs')
    (hy : ys.Perm ys') : (join on xs ys).Perm (join on xs' ys') :=
  hx.flatMap fun _ _ => (hy.filter _).map _

/-- The rows of the left side, once for each match that passes the condition. -/
theorem map_fst_filter_join (on : α → β → Bool) (cond : α → β → Bool) (xs : List α)
    (ys : List β) :
    ((join on xs ys).filter (fun p => cond p.1 p.2)).map Prod.fst =
      xs.flatMap fun x => List.replicate (ys.countP fun y => on x y && cond x y) x := by
  induction xs with
  | nil => rfl
  | cons x xs ih =>
      rw [join_cons, List.filter_append, List.map_append, ih, List.flatMap_cons]
      congr 1
      rw [List.filter_map, List.map_map]
      have hconst : ((fun p : α × β => p.1) ∘ fun y => (x, y)) = fun _ => x := rfl
      show List.map ((fun p : α × β => p.1) ∘ fun y => (x, y)) _ = _
      rw [hconst, List.map_const', List.filter_filter, List.countP_eq_length_filter]
      have hfilter : (ys.filter fun y => ((fun p : α × β => cond p.1 p.2) ∘ (x, ·)) y && on x y) =
          ys.filter fun y => on x y && cond x y := by
        apply List.filter_congr
        intro y _
        simp [Bool.and_comm]
      rw [hfilter]

/-- The number of rows a join returns. -/
theorem length_flatMap_replicate (f : α → Nat) (xs : List α) :
    (xs.flatMap fun x => List.replicate (f x) x).length = (xs.map f).sum := by
  induction xs with
  | nil => rfl
  | cons x xs ih => simp [List.flatMap_cons, ih]

theorem flatMap_replicate_of_le_one {f : α → Nat} :
    ∀ {xs : List α}, (∀ x ∈ xs, f x ≤ 1) →
      (xs.flatMap fun x => List.replicate (f x) x) = xs.filter fun x => 0 < f x := by
  intro xs
  induction xs with
  | nil => simp
  | cons x xs ih =>
      intro h
      have hx := h x List.mem_cons_self
      rw [List.flatMap_cons, ih fun y hy => h y (List.mem_cons_of_mem _ hy), List.filter_cons]
      by_cases hpos : 0 < f x
      · have hone : f x = 1 := by omega
        simp [hone]
      · have hzero : f x = 0 := by omega
        simp [hzero]

/-- Too many copies of one row are too many rows in all. -/
theorem length_filter_lt {f : α → Nat} :
    ∀ {xs : List α}, (∃ x ∈ xs, 1 < f x) →
      (xs.filter fun x => 0 < f x).length < (xs.map f).sum := by
  have hle : ∀ ys : List α, (ys.filter fun x => 0 < f x).length ≤ (ys.map f).sum := by
    intro ys
    induction ys with
    | nil => simp
    | cons y ys ih =>
        rw [List.filter_cons, List.map_cons, List.sum_cons]
        split
        · rename_i hpos
          have hpos' : 0 < f y := by simpa using hpos
          rw [List.length_cons]
          omega
        · omega
  intro xs
  induction xs with
  | nil => simp
  | cons x xs ih =>
      rintro ⟨y, hy, hlt⟩
      rw [List.filter_cons, List.map_cons, List.sum_cons]
      have hrest := hle xs
      rcases List.mem_cons.1 hy with rfl | hy
      · rw [if_pos (by simpa using Nat.lt_trans Nat.zero_lt_one hlt), List.length_cons]
        omega
      · have hlt' := ih ⟨y, hy, hlt⟩
        split
        · rename_i hpos
          have hpos' : 0 < f x := by simpa using hpos
          rw [List.length_cons]
          omega
        · omega

theorem filter_any_eq (on cond : α → β → Bool) (xs : List α) (ys : List β) :
    (xs.filter fun x => ys.any fun y => on x y && cond x y) =
      xs.filter fun x => 0 < ys.countP fun y => on x y && cond x y := by
  apply List.filter_congr
  intro x _
  rw [Bool.eq_iff_iff]
  simp [List.countP_pos_iff]

/-- When each row has at most one match, a join returns the rows that have one, once each. -/
theorem map_fst_join_of_le_one (on cond : α → β → Bool) {xs : List α} {ys : List β}
    (h : ∀ x ∈ xs, (ys.countP fun y => on x y && cond x y) ≤ 1) :
    ((join on xs ys).filter fun p => cond p.1 p.2).map Prod.fst =
      xs.filter fun x => ys.any fun y => on x y && cond x y := by
  rw [map_fst_filter_join, filter_any_eq, flatMap_replicate_of_le_one h]

/-- **A join returns no more rows than have a match only if each has at most one.** -/
theorem countP_le_one_of_length_le (on cond : α → β → Bool) {xs : List α} {ys : List β}
    (h : (((join on xs ys).filter fun p => cond p.1 p.2).map Prod.fst).length ≤
      (xs.filter fun x => ys.any fun y => on x y && cond x y).length) :
    ∀ x ∈ xs, (ys.countP fun y => on x y && cond x y) ≤ 1 := by
  intro x hx
  by_contra hgt
  have hlt := length_filter_lt (f := fun x => ys.countP fun y => on x y && cond x y)
    ⟨x, hx, by omega⟩
  rw [map_fst_filter_join, filter_any_eq, length_flatMap_replicate] at h
  omega

/-- At most one match for a reference to a key. -/
theorem countP_le_one_of_unique [DecidableEq κ] {key : β → κ} {ys : List β}
    (h : Unique key ys) {p : β → Bool} {k : κ} (hp : ∀ y ∈ ys, p y = true → key y = k) :
    ys.countP p ≤ 1 := by
  rw [List.countP_eq_length_filter]
  have hnodup : (ys.filter p).Nodup := h.nodup.filter _
  match hf : ys.filter p with
  | [] => simp
  | [_] => simp
  | a :: b :: rest =>
      have ha : a ∈ ys.filter p := by simp [hf]
      have hb : b ∈ ys.filter p := by simp [hf]
      obtain ⟨hay, hpa⟩ := List.mem_filter.1 ha
      obtain ⟨hby, hpb⟩ := List.mem_filter.1 hb
      have hab : a = b := h.eq hay hby ((hp a hay hpa).trans (hp b hby hpb).symm)
      rw [hf, hab] at hnodup
      simp at hnodup

/-- `SELECT DISTINCT` of columns that tell the rows of a table apart: each row that is selected
at all comes out once. -/
theorem dedup_map_perm [DecidableEq α] {f : ρ → α} {rows table : List ρ} {p : ρ → Bool}
    (htable : (table.map f).Nodup) (hmem : ∀ r, r ∈ rows ↔ r ∈ table ∧ p r = true) :
    (rows.map f).dedup.Perm ((table.filter p).map f) := by
  have hnodup : ((table.filter p).map f).Nodup :=
    htable.sublist (List.filter_sublist.map f)
  refine (List.perm_ext_iff_of_nodup (List.nodup_dedup _) hnodup).2 fun x => ?_
  simp only [List.mem_dedup, List.mem_map, List.mem_filter, hmem]

end Relational
