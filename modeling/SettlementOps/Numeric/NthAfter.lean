import Mathlib.Order.Interval.Finset.Basic
import Mathlib.Data.Finset.Card

/-!
# The n-th element after and before a point

Of a locally finite order, the elements with a property, counted from a point in either
direction.

* `IsNthAfter`, `IsNthBefore` — the n-th such element strictly after, or before, a point.
* `IsNthAfter.le_of_le`, `IsNthBefore.unique` — counting is monotone, so there is only one.
* `card_filter_insert`, `card_filter_Ico_add` — counting one element more, at either end.
* `IsNthAfter.before`, `IsNthAfter.before_lt` — counting forth and back again.
-/

namespace SettlementOps
namespace Numeric

/-- A new element is counted if it has the property. -/
theorem card_filter_insert {β : Type*} [DecidableEq β] {p : β → Prop} [DecidablePred p] {a : β}
    {s : Finset β} (h : a ∉ s) :
    ((insert a s).filter p).card = (if p a then 1 else 0) + (s.filter p).card := by
  rw [Finset.filter_insert]
  by_cases ha : p a
  · have hnot : a ∉ s.filter p := fun hmem => h (Finset.mem_filter.1 hmem).1
    rw [if_pos ha, if_pos ha, Finset.card_insert_of_notMem hnot, add_comm]
  · rw [if_neg ha, if_neg ha, zero_add]

variable {α : Type*} [LinearOrder α] [LocallyFiniteOrder α]

/-- `b` is the `n`-th element with the property after `a`. -/
structure IsNthAfter (p : α → Prop) [DecidablePred p] (n : ℕ) (a b : α) : Prop where
  holds : p b
  lt : a < b
  count : ((Finset.Ioc a b).filter p).card = n

/-- `a` is the `n`-th element with the property before `b`. -/
structure IsNthBefore (p : α → Prop) [DecidablePred p] (n : ℕ) (b a : α) : Prop where
  holds : p a
  lt : a < b
  count : ((Finset.Ico a b).filter p).card = n

variable {p : α → Prop} [DecidablePred p] {n : ℕ} {a a' b b' c : α}

/-- **Counting is monotone**: from a later start the `n`-th element is no earlier. -/
theorem IsNthAfter.le_of_le (h : IsNthAfter p n a b) (h' : IsNthAfter p n a' b')
    (hle : a ≤ a') : b ≤ b' := by
  by_contra hlt
  have hlt' : b' < b := not_le.1 hlt
  have hsub : (Finset.Ioc a' b').filter p ⊂ (Finset.Ioc a b).filter p := by
    refine Finset.ssubset_iff_of_subset ?_ |>.2 ⟨b, ?_, ?_⟩
    · exact Finset.filter_subset_filter p (Finset.Ioc_subset_Ioc hle hlt'.le)
    · exact Finset.mem_filter.2 ⟨Finset.mem_Ioc.2 ⟨h.lt, le_rfl⟩, h.holds⟩
    · exact fun hmem => hlt (Finset.mem_Ioc.1 (Finset.mem_filter.1 hmem).1).2
  have hcard := Finset.card_lt_card hsub
  rw [h.count, h'.count] at hcard
  exact lt_irrefl n hcard

theorem IsNthBefore.unique (h : IsNthBefore p n b a) (h' : IsNthBefore p n b a') : a = a' := by
  -- the nearer of two candidates would be counted once less
  have hle : ∀ {x y : α}, IsNthBefore p n b x → IsNthBefore p n b y → x ≤ y := by
    intro x y hx hy
    by_contra hlt
    have hlt' : y < x := not_le.1 hlt
    have hsub : (Finset.Ico x b).filter p ⊂ (Finset.Ico y b).filter p := by
      refine Finset.ssubset_iff_of_subset ?_ |>.2 ⟨y, ?_, ?_⟩
      · exact Finset.filter_subset_filter p (Finset.Ico_subset_Ico hlt'.le le_rfl)
      · exact Finset.mem_filter.2 ⟨Finset.mem_Ico.2 ⟨le_rfl, hy.lt⟩, hy.holds⟩
      · exact fun hmem => hlt (Finset.mem_Ico.1 (Finset.mem_filter.1 hmem).1).1
    have hcard := Finset.card_lt_card hsub
    rw [hx.count, hy.count] at hcard
    exact lt_irrefl n hcard
  exact le_antisymm (hle h h') (hle h' h)

/-- Exchanging the ends of an interval: the last element against the first. -/
theorem card_filter_Ico_add (hab : a < b) :
    ((Finset.Ico a b).filter p).card + (if p b then 1 else 0) =
      ((Finset.Ioc a b).filter p).card + (if p a then 1 else 0) := by
  have hleft := card_filter_insert (p := p) (Finset.left_notMem_Ioo (a := a) (b := b))
  have hright := card_filter_insert (p := p) (Finset.right_notMem_Ioo (a := a) (b := b))
  rw [← Finset.Ioo_insert_left hab, ← Finset.Ioo_insert_right hab, hleft, hright]
  omega

/-- **Back again**: where the start has the property, it is counted back to. -/
theorem IsNthAfter.before (h : IsNthAfter p n a b) (ha : p a) : IsNthBefore p n b a := by
  have hends := card_filter_Ico_add (p := p) h.lt
  rw [if_pos h.holds, if_pos ha, h.count] at hends
  exact ⟨ha, h.lt, Nat.add_right_cancel hends⟩

/-- Where it does not, counting back overshoots it. -/
theorem IsNthAfter.before_lt (h : IsNthAfter p n a b) (hc : IsNthBefore p n b c)
    (ha : ¬ p a) : c < a := by
  have hends := card_filter_Ico_add (p := p) h.lt
  rw [if_pos h.holds, if_neg ha, h.count, add_zero] at hends
  by_contra hle
  have hcard := Finset.card_le_card
    (Finset.filter_subset_filter p (Finset.Ico_subset_Ico (not_lt.1 hle) (le_refl b)))
  rw [hc.count] at hcard
  omega

end Numeric
end SettlementOps
