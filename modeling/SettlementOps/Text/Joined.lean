import Mathlib.Data.List.Basic

/-!
# Texts joined by a separator

A list of texts can be read off their joined text when none of them is empty or contains the
separator.

* `append_sep_inj` — the first part, up to the first separator.
* `intercalate_inj` — all parts, for lists of any symbols.
* `joined_inj` — for strings.
-/

namespace SettlementOps
namespace Text

/-- Two lists are told apart up to their first separator. -/
theorem append_sep_inj {α : Type} {sep : α} : ∀ {p p' rest rest' : List α}, sep ∉ p → sep ∉ p' →
    p ++ sep :: rest = p' ++ sep :: rest' → p = p' ∧ rest = rest' := by
  intro p
  induction p with
  | nil =>
      intro p' rest rest' _ hp' h
      cases p' with
      | nil => exact ⟨rfl, (List.cons.inj h).2⟩
      | cons c p' =>
          obtain ⟨rfl, -⟩ := List.cons.inj h
          exact absurd List.mem_cons_self hp'
  | cons c p ih =>
      intro p' rest rest' hp hp' h
      cases p' with
      | nil =>
          obtain ⟨rfl, -⟩ := List.cons.inj h
          exact absurd List.mem_cons_self hp
      | cons c' p' =>
          obtain ⟨rfl, htail⟩ := List.cons.inj h
          obtain ⟨rfl, hrest⟩ := ih (fun hc => hp (List.mem_cons_of_mem _ hc))
            (fun hc => hp' (List.mem_cons_of_mem _ hc)) htail
          exact ⟨rfl, hrest⟩

/-- The parts of a joined list are those between the separators. -/
theorem intercalate_inj {α : Type} [DecidableEq α] {sep : α} {xs ys : List (List α)}
    (hxs : ∀ x ∈ xs, x ≠ [] ∧ sep ∉ x) (hys : ∀ y ∈ ys, y ≠ [] ∧ sep ∉ y)
    (h : [sep].intercalate xs = [sep].intercalate ys) : xs = ys := by
  -- parts that are not empty leave something of themselves
  have hempty : ∀ zs : List (List α), (∀ z ∈ zs, z ≠ [] ∧ sep ∉ z) →
      [sep].intercalate zs = [] → zs = [] := by
    intro zs hzs hnil
    cases zs with
    | nil => rfl
    | cons z zs =>
        have hz := (hzs z List.mem_cons_self).1
        cases zs with
        | nil =>
            rw [List.intercalate_singleton] at hnil
            exact absurd hnil hz
        | cons z' zs =>
            rw [List.intercalate_cons_cons] at hnil
            simp [hz] at hnil
  by_cases hnil : xs = []
  · subst hnil
    exact (hempty ys hys h.symm).symm
  · have hnil' : ys ≠ [] := by
      rintro rfl
      exact hnil (hempty xs hxs h)
    have hsplit := congrArg (List.splitOn sep) h
    rwa [List.splitOn_intercalate sep (fun x hx => (hxs x hx).2) hnil,
      List.splitOn_intercalate sep (fun y hy => (hys y hy).2) hnil'] at hsplit

/-- **Joined strings** are told apart. -/
theorem joined_inj {sep : Char} {xs ys : List String}
    (hxs : ∀ x ∈ xs, x ≠ "" ∧ sep ∉ x.toList) (hys : ∀ y ∈ ys, y ≠ "" ∧ sep ∉ y.toList)
    (h : (String.singleton sep).intercalate xs = (String.singleton sep).intercalate ys) :
    xs = ys := by
  have hparts : ∀ zs : List String, (∀ z ∈ zs, z ≠ "" ∧ sep ∉ z.toList) →
      ∀ z ∈ zs.map String.toList, z ≠ [] ∧ sep ∉ z := by
    intro zs hzs z hz
    obtain ⟨w, hw, rfl⟩ := List.mem_map.1 hz
    exact ⟨by simpa using (hzs w hw).1, (hzs w hw).2⟩
  have hlists := congrArg String.toList h
  rw [String.toList_intercalate, String.toList_intercalate, String.toList_singleton] at hlists
  have hsame := intercalate_inj (hparts xs hxs) (hparts ys hys) hlists
  exact List.map_injective_iff.2 (fun _ _ => String.toList_inj.1) hsame

end Text
end SettlementOps
