import Mathlib.Data.List.Perm.Basic

/-!
# Batches in any order

What a loop over a batch does when the rows of the batch come in another order.

* `countRepeats_perm` — as many rows repeat a key in every order.
* `foldlM_related` — a run of steps that respect a relation keeps it.
* `foldlM_perm` — a run of steps that also commute is the same in every order.
-/

namespace Relational

variable {α σ τ κ : Type}

/-! ## Repeats -/

section Repeats

variable [DecidableEq κ]

/-- How many rows of a batch have a key that is known or came earlier in the batch. -/
def countRepeats (known : κ → Bool) : List κ → Nat
  | [] => 0
  | k :: ks => (known k).toNat + countRepeats (fun k' => known k' || k' = k) ks

/-- Which row of a key is the repeat depends on the order, how many are does not. -/
theorem countRepeats_perm {ks ks' : List κ} (h : ks.Perm ks') :
    ∀ known, countRepeats known ks = countRepeats known ks' := by
  induction h with
  | nil => exact fun _ => rfl
  | cons k _ ih =>
      intro known
      rw [countRepeats, countRepeats, ih]
  | swap k k' ks =>
      intro known
      have hknown : (fun x => (known x || decide (x = k')) || decide (x = k)) =
          fun x => (known x || decide (x = k)) || decide (x = k') := by
        funext x
        rw [Bool.or_assoc, Bool.or_assoc, Bool.or_comm (decide (x = k'))]
      simp only [countRepeats, hknown]
      by_cases hk : k = k'
      · rw [hk]
      · simp only [hk, Ne.symm hk, decide_false, Bool.or_false]
        omega
  | trans _ _ ih ih' =>
      intro known
      rw [ih, ih']

end Repeats

/-! ## Runs that commute -/

section Related

variable {R : σ → σ → Prop} {S : τ → τ → Prop}

theorem rel_refl (hrefl : ∀ s, R s s) (x : Option σ) : Option.Rel R x x := by
  cases x with
  | some s => exact .some (hrefl s)
  | none => exact .none

theorem rel_bind {x y : Option σ} {g g' : σ → Option τ} (h : Option.Rel R x y)
    (hg : ∀ {a b}, R a b → Option.Rel S (g a) (g' b)) : Option.Rel S (x.bind g) (y.bind g') := by
  cases h with
  | some h => exact hg h
  | none => exact .none

theorem rel_map {x y : Option σ} {g g' : σ → τ} (h : Option.Rel R x y)
    (hg : ∀ {a b}, R a b → S (g a) (g' b)) : Option.Rel S (x.map g) (y.map g') := by
  cases h with
  | some h => exact .some (hg h)
  | none => exact .none

theorem rel_trans (htrans : ∀ a b c, R a b → R b c → R a c) {x y z : Option σ}
    (h : Option.Rel R x y) (h' : Option.Rel R y z) : Option.Rel R x z := by
  cases h with
  | some h => cases h' with | some h' => exact .some (htrans _ _ _ h h')
  | none => exact h'

variable {f : σ → α → Option σ} {P : α → Prop}
  (hf : ∀ {x}, P x → ∀ {s s'}, R s s' → Option.Rel R (f s x) (f s' x))
include hf

theorem foldlM_related {xs : List α} (hxs : ∀ x ∈ xs, P x) :
    ∀ {s s'}, R s s' → Option.Rel R (xs.foldlM f s) (xs.foldlM f s') := by
  induction xs with
  | nil => exact fun h => .some h
  | cons x xs ih =>
      obtain ⟨hx, hxs⟩ := List.forall_mem_cons.1 hxs
      exact fun h => rel_bind (hf hx h) (ih hxs)

/-- **A run of steps that commute** leaves the same in every order. -/
theorem foldlM_perm (hrefl : ∀ s, R s s) (htrans : ∀ a b c, R a b → R b c → R a c)
    (hcomm : ∀ {x y}, P x → P y → x ≠ y → ∀ s,
      Option.Rel R ((f s x).bind fun s => f s y) ((f s y).bind fun s => f s x))
    {xs ys : List α} (h : xs.Perm ys) :
    (∀ x ∈ xs, P x) → ∀ {s s'}, R s s' → Option.Rel R (xs.foldlM f s) (ys.foldlM f s') := by
  induction h with
  | nil => exact fun _ _ _ h => .some h
  | cons x _ ih =>
      intro hxs s s' h
      obtain ⟨hx, hxs⟩ := List.forall_mem_cons.1 hxs
      exact rel_bind (hf hx h) (ih hxs)
  | swap x y xs =>
      intro hxs s s' h
      obtain ⟨hy, hxs⟩ := List.forall_mem_cons.1 hxs
      obtain ⟨hx, hxs⟩ := List.forall_mem_cons.1 hxs
      -- The first two steps in either order, then the others.
      have hsplit (a b : α) (s : σ) : (a :: b :: xs).foldlM f s =
          ((f s a).bind fun s => f s b).bind (xs.foldlM f) := by
        rw [List.foldlM_cons, Option.bind_assoc]
        rfl
      rw [hsplit, hsplit]
      refine rel_bind ?_ (foldlM_related hf hxs)
      by_cases hxy : x = y
      · subst hxy
        exact rel_bind (hf hx h) (hf hx)
      · exact rel_trans htrans (hcomm hy hx (Ne.symm hxy) s) (rel_bind (hf hx h) (hf hy))
  | trans hperm _ ih ih' =>
      intro hxs s s' h
      exact rel_trans htrans (ih hxs h)
        (ih' (fun x hx => hxs x (hperm.mem_iff.2 hx)) (hrefl s'))

end Related

end Relational
