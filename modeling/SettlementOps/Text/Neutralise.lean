import Mathlib.Data.List.Basic
import Mathlib.Data.List.Infix

/-!
# Replacing delimiters in one pass

Texts over any alphabet, compared after folding each character.  A single pass that replaces
every delimiter, left to right, leaves none behind when the replacement starts and ends with
characters that no delimiter has; nor does cutting the result short.

* `occurrences` — how often a pattern occurs, overlaps included.
* `occurrences_append_cons` — a character the pattern does not have splits the count.
* `replaceAll` — the pass.
* `occurrences_replaceFrom` — nothing is left, and nothing is made.
-/

namespace SettlementOps
namespace Text

variable {α β : Type*} [DecidableEq β] (fold : α → β)

/-- The pattern is read at the front of the text. -/
def BeginsWith (p : List β) (text : List α) : Prop := p <+: text.map fold

instance (p : List β) (text : List α) : Decidable (BeginsWith fold p text) :=
  inferInstanceAs (Decidable (p <+: text.map fold))

/-- How many positions of the text the pattern is read at. -/
def occurrences (p : List β) : List α → ℕ
  | [] => 0
  | c :: rest => (if BeginsWith fold p (c :: rest) then 1 else 0) + occurrences p rest

/-- Replaces every pattern, from left to right; `skip` characters are still to be passed over. -/
def replaceFrom (patterns : List (List β)) (filler : List α) : ℕ → List α → List α
  | _, [] => []
  | skip + 1, _ :: rest => replaceFrom patterns filler skip rest
  | 0, c :: rest =>
      match patterns.find? fun p => BeginsWith fold p (c :: rest) with
      | none => c :: replaceFrom patterns filler 0 rest
      | some p => filler ++ replaceFrom patterns filler (p.length - 1) rest

def replaceAll (patterns : List (List β)) (filler text : List α) : List α :=
  replaceFrom fold patterns filler 0 text

variable {fold} {p : List β}

@[simp] theorem occurrences_nil : occurrences fold p [] = 0 := rfl

theorem occurrences_cons (c : α) (rest : List α) :
    occurrences fold p (c :: rest) =
      (if BeginsWith fold p (c :: rest) then 1 else 0) + occurrences fold p rest := rfl

/-! ## Counting -/

omit [DecidableEq β] in
/-- A pattern is not read across a character it does not have. -/
theorem prefix_append_cons_iff {s : β} (hs : s ∉ p) (x y : List β) :
    p <+: x ++ s :: y ↔ p <+: x := by
  induction x generalizing p with
  | nil =>
      cases p with
      | nil => simp
      | cons b p =>
          simp only [List.nil_append, List.cons_prefix_cons, List.prefix_nil, reduceCtorEq,
            iff_false, not_and]
          rintro rfl
          exact absurd List.mem_cons_self hs
  | cons a x ih =>
      cases p with
      | nil => simp
      | cons b p =>
          rw [List.cons_append, List.cons_prefix_cons, List.cons_prefix_cons,
            ih fun h => hs (List.mem_cons_of_mem b h)]

/-- **A foreign character splits the count.** -/
theorem occurrences_append_cons {s : α} (hs : fold s ∉ p) (hp : p ≠ []) (x y : List α) :
    occurrences fold p (x ++ s :: y) = occurrences fold p x + occurrences fold p y := by
  induction x with
  | nil =>
      have hnot : ¬ BeginsWith fold p (s :: y) := by
        intro h
        have hnil := (prefix_append_cons_iff hs [] (y.map fold)).1 h
        exact hp (List.prefix_nil.1 hnil)
      rw [List.nil_append, occurrences_cons, if_neg hnot, occurrences_nil]
  | cons c x ih =>
      have hiff : BeginsWith fold p (c :: (x ++ s :: y)) ↔ BeginsWith fold p (c :: x) := by
        unfold BeginsWith
        rw [← List.cons_append, List.map_append, List.map_cons]
        exact prefix_append_cons_iff hs ((c :: x).map fold) (y.map fold)
      rw [List.cons_append, occurrences_cons, occurrences_cons, ih, Nat.add_assoc]
      simp only [hiff]

/-- A text that ends with a foreign character. -/
theorem occurrences_append_of_last {x : List α} {s : α} (hlast : x.getLast? = some s)
    (hs : fold s ∉ p) (hp : p ≠ []) (y : List α) :
    occurrences fold p (x ++ y) = occurrences fold p x + occurrences fold p y := by
  obtain ⟨x', rfl⟩ := List.getLast?_eq_some_iff.1 hlast
  rw [List.append_assoc, List.singleton_append, occurrences_append_cons hs hp,
    occurrences_append_cons hs hp, occurrences_nil, Nat.add_zero]

/-- A text that begins with one. -/
theorem occurrences_append_of_head {y : List α} {s : α} (hhead : y.head? = some s)
    (hs : fold s ∉ p) (hp : p ≠ []) (x : List α) :
    occurrences fold p (x ++ y) = occurrences fold p x + occurrences fold p y := by
  obtain ⟨y', rfl⟩ := List.head?_eq_some_iff.1 hhead
  have hy := occurrences_append_cons hs hp [] y'
  rw [List.nil_append] at hy
  rw [occurrences_append_cons hs hp, hy, occurrences_nil, Nat.zero_add]

/-- Cutting a text short loses occurrences and makes none. -/
theorem occurrences_take_le (p : List β) (text : List α) :
    ∀ n, occurrences fold p (text.take n) ≤ occurrences fold p text := by
  induction text with
  | nil => simp
  | cons c rest ih =>
      intro n
      cases n with
      | zero => simp
      | succ n =>
          have hle := ih n
          have hread : BeginsWith fold p (c :: rest.take n) → BeginsWith fold p (c :: rest) := by
            intro h
            refine h.trans ?_
            rw [List.map_cons, List.map_cons]
            exact List.cons_prefix_cons.2 ⟨rfl, (List.take_prefix n rest).map fold⟩
          rw [List.take_succ_cons, occurrences_cons, occurrences_cons]
          split
          · rename_i h
            rw [if_pos (hread h)]
            omega
          · omega

/-! ## The pass -/

variable {patterns : List (List β)} {filler : List α}

/-- What is read of the result without the filler's first character is read of the text. -/
theorem beginsWith_of_replaceFrom {f : α} {fs : List α} (hf : fold f ∉ p) (text : List α) :
    BeginsWith fold p (replaceFrom fold patterns (f :: fs) 0 text) →
      BeginsWith fold p text := by
  induction text generalizing p with
  | nil => exact id
  | cons c rest ih =>
      intro h
      rw [replaceFrom] at h
      cases p with
      | nil => exact List.nil_prefix
      | cons b p =>
          split at h
          · obtain ⟨hb, hrest⟩ := List.cons_prefix_cons.1 h
            exact List.cons_prefix_cons.2 ⟨hb, ih (fun hm => hf (List.mem_cons_of_mem b hm)) hrest⟩
          · obtain ⟨rfl, -⟩ := List.cons_prefix_cons.1 h
            exact absurd List.mem_cons_self hf

/-- **No pattern is left**, nor put together from what is left around the fillers. -/
theorem occurrences_replaceFrom {f l : α} {fs : List α} (hmem : p ∈ patterns) (hp : p ≠ [])
    (hfirst : fold f ∉ p) (hlast : (f :: fs).getLast? = some l) (hl : fold l ∉ p)
    (hfiller : occurrences fold p (f :: fs) = 0) (text : List α) :
    ∀ skip, occurrences fold p (replaceFrom fold patterns (f :: fs) skip text) = 0 := by
  induction text with
  | nil =>
      intro skip
      cases skip <;> rfl
  | cons c rest ih =>
      intro skip
      cases skip with
      | succ skip => exact ih skip
      | zero =>
          rw [replaceFrom]
          cases hfind : patterns.find? fun p => BeginsWith fold p (c :: rest) with
          | some q =>
              dsimp only
              rw [occurrences_append_of_last hlast hl hp, hfiller, ih]
          | none =>
              have hnone := List.find?_eq_none.1 hfind p hmem
              have hnot : ¬ BeginsWith fold p
                  (c :: replaceFrom fold patterns (f :: fs) 0 rest) := by
                intro h
                refine hnone (decide_eq_true ?_)
                cases p with
                | nil => exact absurd rfl hp
                | cons b p =>
                    obtain ⟨hb, hafter⟩ := List.cons_prefix_cons.1 h
                    exact List.cons_prefix_cons.2 ⟨hb, beginsWith_of_replaceFrom
                      (fun hm => hfirst (List.mem_cons_of_mem b hm)) rest hafter⟩
              dsimp only
              rw [occurrences_cons, if_neg hnot, Nat.zero_add, ih]

end Text
end SettlementOps
