import Mathlib.Data.List.Basic
import Mathlib.Data.List.FinRange
import Mathlib.Data.List.NodupEquivFin
import Mathlib.Data.List.Perm.Subperm

/-!
# Rows in no particular order

What a search over rows can find when their order is anyone's choice, and when rows of one
kind can each be given a row of another for itself.

* `exists_perm_cons`, `exists_perm_find?` — whatever qualifies comes first in some order.
* `exists_perm_choice` — one order in which every search by a key finds its chosen row.
* `length_eraseDups_perm` — there are as many distinct rows in every order.
* `exists_assignment_iff` — an injective assignment along keys exists exactly when no key is
  asked for more often than it is there.
-/

namespace Relational

variable {α β κ : Type}

/-! ## Searches -/

/-- Any row comes first in some order. -/
theorem exists_perm_cons {l : List α} {a : α} (h : a ∈ l) : ∃ rest, (a :: rest).Perm l := by
  obtain ⟨before, after, rfl⟩ := List.append_of_mem h
  exact ⟨before ++ after, List.perm_middle.symm⟩

theorem exists_perm_find? {p : α → Bool} {l : List α} {a : α} (h : a ∈ l) (hp : p a = true) :
    ∃ l' : List α, l'.Perm l ∧ l'.find? p = some a := by
  obtain ⟨rest, hperm⟩ := exists_perm_cons h
  exact ⟨_, hperm, List.find?_cons_of_pos hp⟩

/-- **One order serves every key.**  The chosen rows are put before the others. -/
theorem exists_perm_choice [DecidableEq α] [BEq κ] [LawfulBEq κ] (key : α → κ) (pick : κ → α)
    (l : List α) :
    ∃ l' : List α, l'.Perm l ∧ ∀ k, pick k ∈ l → key (pick k) = k →
      l'.find? (fun a => key a == k) = some (pick k) := by
  refine ⟨l.filter (fun a => pick (key a) = a) ++ l.filter (fun a => ¬ pick (key a) = a), ?_, ?_⟩
  · simpa using List.filter_append_perm (fun a => decide (pick (key a) = a)) l
  · intro k hmem hkey
    rw [List.find?_append]
    have hchosen : (l.filter fun a => pick (key a) = a).find? (fun a => key a == k) =
        some (pick k) := by
      cases hfind : (l.filter fun a => pick (key a) = a).find? (fun a => key a == k) with
      | none =>
          have hpick : pick k ∈ l.filter fun a => pick (key a) = a :=
            List.mem_filter.2 ⟨hmem, by simp [hkey]⟩
          exact absurd (List.find?_eq_none.1 hfind _ hpick) (by simp [hkey])
      | some a =>
          have ha := (List.mem_filter.1 (List.mem_of_find?_eq_some hfind)).2
          have hk : key a = k := by simpa using List.find?_some hfind
          rw [hk, decide_eq_true_eq] at ha
          rw [ha]
    rw [hchosen]
    rfl

/-! ## Distinct rows -/

theorem nodup_eraseDups [BEq α] [LawfulBEq α] (l : List α) : l.eraseDups.Nodup := by
  -- the tail keeps only the rows unlike the head, and is shorter
  induction hlen : l.length using Nat.strong_induction_on generalizing l with
  | _ n ih =>
      cases l with
      | nil => exact List.nodup_nil
      | cons a as =>
          rw [List.eraseDups_cons, List.nodup_cons]
          have hlt : (as.filter fun b => !b == a).length < n := by
            have hle := List.length_filter_le (fun b => !b == a) as
            rw [List.length_cons] at hlen
            omega
          refine ⟨?_, ih _ hlt _ rfl⟩
          rw [List.mem_eraseDups]
          simp

/-- How many distinct rows there are does not depend on their order. -/
theorem length_eraseDups_perm [BEq α] [LawfulBEq α] {l l' : List α} (h : l.Perm l') :
    l.eraseDups.length = l'.eraseDups.length := by
  refine ((List.perm_ext_iff_of_nodup (nodup_eraseDups l) (nodup_eraseDups l')).2 ?_).length_eq
  intro a
  rw [List.mem_eraseDups, List.mem_eraseDups, h.mem_iff]

theorem length_eraseDups_of_nodup [BEq α] [LawfulBEq α] {l : List α} (h : l.Nodup) :
    l.eraseDups.length = l.length :=
  ((List.perm_ext_iff_of_nodup (nodup_eraseDups l) h).2 fun _ => List.mem_eraseDups).length_eq

/-! ## Assignments -/

/-- Rows picked at distinct places are among the rows, each as often as it is picked at most. -/
theorem ofFn_subperm {n m : Nat} {f : Fin n → Fin m} (hf : Function.Injective f)
    (g : Fin m → κ) : (List.ofFn (g ∘ f)).Subperm (List.ofFn g) := by
  have hplaces : (List.ofFn f).Subperm (List.finRange m) :=
    List.Nodup.subperm (List.nodup_ofFn.2 hf) fun i _ => List.mem_finRange i
  obtain ⟨places, hperm, hsublist⟩ := hplaces
  refine ⟨places.map g, ?_, ?_⟩
  · rw [← List.map_ofFn]
    exact hperm.map g
  · rw [List.ofFn_eq_map]
    exact hsublist.map g

/-- **Assignments along keys.**  Every row of `xs` can be given a row of `ys` of its key for
itself exactly when no key stands more often in `xs` than in `ys`. -/
theorem exists_assignment_iff [DecidableEq κ] (kx : α → κ) (ky : β → κ) (xs : List α)
    (ys : List β) :
    (∃ f : Fin xs.length → Fin ys.length, Function.Injective f ∧
        ∀ i, ky ys[f i] = kx xs[i]) ↔
      ∀ k, xs.countP (fun x => kx x = k) ≤ ys.countP (fun y => ky y = k) := by
  have hcount : (∀ k, xs.countP (fun x => kx x = k) ≤ ys.countP (fun y => ky y = k)) ↔
      (xs.map kx).Subperm (ys.map ky) := by
    rw [List.subperm_iff_count]
    simp only [List.count, List.countP_map, Function.comp_def, beq_eq_decide]
  rw [hcount]
  constructor
  · rintro ⟨f, hf, hkey⟩
    have h := ofFn_subperm hf fun j => ky ys[j]
    have hxs : (fun j : Fin ys.length => ky ys[j]) ∘ f = fun i => kx xs[i] := funext hkey
    rw [hxs] at h
    simpa only [Fin.getElem_fin, List.ofFn_getElem_eq_map] using h
  · intro h
    refine ⟨fun i => (h.idxInj (i.cast (List.length_map _).symm)).cast (List.length_map _), ?_, ?_⟩
    · intro i j hij
      have h' := h.idxInj_injective (Fin.cast_injective _ hij)
      exact Fin.cast_injective _ h'
    · intro i
      have h' := h.getElem_idxInj_eq_getElem (i := i.cast (List.length_map _).symm)
      rw [List.getElem_map, List.getElem_map] at h'
      exact h'

end Relational
