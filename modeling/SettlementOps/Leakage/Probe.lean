import Mathlib.Algebra.BigOperators.Group.List.Basic
import Mathlib.Algebra.Field.Rat
import SettlementOps.Relational.Entries

/-!
# The leakage probe

The question is whether a visible feature predicts the hidden label of a case it was not fitted
on.  Five folds: the majority label of each cell is fitted on four and scored on the fifth.

* `trainFold`, `FoldCounts.predict`, `crossValidatedBalancedAccuracy` — the probe.
* `trainingRows`, `trainFold_eq` — what a fold is fitted on.
* `predict_eq` — the prediction is the most frequent label of the cell in training.
* `probe_heldOut` — no prediction depends on a label of its own fold.
-/

namespace SettlementOps.Leakage

open Relational

def FOLDS : Nat := 5

abbrev Counts := Entries String Nat

def noCounts : Counts := .empty Prod.fst

/-- The counts of one fold's training rows. -/
structure FoldCounts (κ : Type) where
  byCell : Entries κ Counts
  global : Counts

section Probe

variable {κ : Type} [DecidableEq κ] [Zero κ]

def cellAt (cells : List κ) (i : Nat) : κ := cells.getD i 0

def labelAt (labels : List String) (i : Nat) : String := labels.getD i ""

omit [Zero κ] in
/-- One row of the training loop. -/
def FoldCounts.train (fitted : FoldCounts κ) (cell : κ) (label : String) : FoldCounts κ where
  byCell := fitted.byCell.alter cell fun counts => tally (counts.getD noCounts) label
  global := tally fitted.global label

/-- The training loop of a fold: it skips what the fold holds out. -/
def trainFold (cells : List κ) (labels : List String) (fold : Nat) : FoldCounts κ :=
  (List.range cells.length).foldl
    (fun fitted i =>
      if i % FOLDS = fold then fitted
      else fitted.train (cellAt cells i) (labelAt labels i))
    ⟨.empty Prod.fst, noCounts⟩

/-- The label counted most, the first of several; of all labels when no counts are given. -/
def FoldCounts.majority (fitted : FoldCounts κ) (counts : Option Counts) : String :=
  ((counts.getD fitted.global).rows.foldl
    (fun (best : String × Int) entry =>
      if (entry.2 : Int) > best.2 then (entry.1, (entry.2 : Int)) else best)
    ("", -1)).1

def FoldCounts.predict (fitted : FoldCounts κ) (cell : κ) : String :=
  let fallback := fitted.majority none
  match fitted.byCell.get cell with
  | none => fallback
  | some counts => fitted.majority (some counts)

/-- The scored items, by label: all of them, and those predicted right. -/
structure Scored where
  total : Counts
  correct : Counts

def Scored.item (scored : Scored) (label predicted : String) : Scored where
  total := tally scored.total label
  correct := if predicted = label then tally scored.correct label else scored.correct

/-- One fold: fit, then score what was held out. -/
def scoreFold (cells : List κ) (labels : List String) (scored : Scored) (fold : Nat) : Scored :=
  let fitted := trainFold cells labels fold
  (List.range cells.length).foldl
    (fun scored i =>
      if i % FOLDS ≠ fold then scored
      else scored.item (labelAt labels i) (fitted.predict (cellAt cells i)))
    scored

/-- The mean over the labels of the share predicted right.  The source divides in floating
point; here the quotients are exact. -/
def Scored.balancedAccuracy (scored : Scored) : Rat :=
  let sum := scored.total.rows.foldl
    (fun (sum : Rat) entry => sum + ((scored.correct.get entry.1).getD 0 : Nat) / (entry.2 : Rat)) 0
  if scored.total.rows.length = 0 then 0 else sum / scored.total.rows.length

def crossValidatedBalancedAccuracy (cells : List κ) (labels : List String) : Rat :=
  ((List.range FOLDS).foldl (scoreFold cells labels) ⟨noCounts, noCounts⟩).balancedAccuracy

/-! ## What a fold is fitted on -/

/-- The rows a fold is fitted on. -/
def trainingRows (cells : List κ) (labels : List String) (fold : Nat) : List (κ × String) :=
  ((List.range cells.length).filter fun i => i % FOLDS ≠ fold).map fun i =>
    (cellAt cells i, labelAt labels i)

theorem trainFold_eq (cells : List κ) (labels : List String) (fold : Nat) :
    trainFold cells labels fold = (trainingRows cells labels fold).foldl
      (fun fitted row => fitted.train row.1 row.2) ⟨.empty Prod.fst, noCounts⟩ := by
  rw [trainFold, trainingRows, List.foldl_map, List.foldl_filter]
  congr 1
  funext fitted i
  by_cases hheld : i % FOLDS = fold
  · simp [hheld]
  · simp [hheld]

/-- The counts hold the rows they were fitted on. -/
structure Fits (rows : List (κ × String)) (fitted : FoldCounts κ) : Prop where
  global : fitted.global = (rows.map Prod.snd).foldl tally noCounts
  byCell : ∀ cell, fitted.byCell.get cell =
    if cell ∈ rows.map Prod.fst then
      some (((rows.filter fun row => row.1 = cell).map Prod.snd).foldl tally noCounts)
    else none

omit [Zero κ] in
theorem Fits.train {rows : List (κ × String)} {fitted : FoldCounts κ} (h : Fits rows fitted)
    (row : κ × String) : Fits (rows ++ [row]) (fitted.train row.1 row.2) where
  global := by
    rw [List.map_append, List.foldl_append, ← h.global]
    rfl
  byCell cell := by
    show (fitted.byCell.alter row.1 _).get cell = _
    rw [Entries.get_alter, h.byCell, h.byCell, List.map_append, List.filter_append,
      List.map_append, List.foldl_append]
    by_cases hcell : row.1 = cell
    · subst hcell
      have hone : ([row].filter fun r => r.1 = row.1) = [row] := by simp
      have hin : row.1 ∈ rows.map Prod.fst ++ [row].map Prod.fst :=
        List.mem_append_right _ List.mem_cons_self
      rw [if_pos rfl, if_pos hin, hone]
      by_cases hseen : row.1 ∈ rows.map Prod.fst
      · rw [if_pos hseen]
        rfl
      · have hnone : (rows.filter fun r => r.1 = row.1) = [] :=
          List.filter_eq_nil_iff.2 fun r hr hkey =>
            hseen (List.mem_map.2 ⟨r, hr, of_decide_eq_true hkey⟩)
        rw [if_neg hseen, hnone]
        rfl
    · have hnone : ([row].filter fun r => r.1 = cell) = [] := by simp [hcell]
      have hin : cell ∈ rows.map Prod.fst ++ [row].map Prod.fst ↔ cell ∈ rows.map Prod.fst := by
        simp [Ne.symm hcell]
      rw [if_neg hcell, hnone]
      by_cases hseen : cell ∈ rows.map Prod.fst
      · rw [if_pos hseen, if_pos (hin.2 hseen)]
        rfl
      · rw [if_neg hseen, if_neg (mt hin.1 hseen)]

omit [Zero κ] in
theorem fits_foldl (rows : List (κ × String)) :
    Fits rows (rows.foldl (fun fitted row => fitted.train row.1 row.2)
      ⟨.empty Prod.fst, noCounts⟩) := by
  induction rows using List.reverseRecOn with
  | nil => exact ⟨rfl, fun _ => rfl⟩
  | append_singleton rows row ih =>
      rw [List.foldl_append]
      exact ih.train row

/-! ## What is predicted -/

/-- The most frequent label, the first of several. -/
def firstMost (labels : List String) : String :=
  (labels.eraseDups.argmax fun label => labels.count label).getD ""

omit [DecidableEq κ] [Zero κ] in
theorem majority_tally (fitted : FoldCounts κ) (labels : List String) :
    fitted.majority (some (labels.foldl tally noCounts)) = firstMost labels := by
  rw [FoldCounts.majority, Option.getD_some, noCounts, tally_rows, List.foldl_map]
  exact foldl_best_eq_argmax (fun label => labels.count label) "" labels.eraseDups

/-- The labels that vote on a cell: those of the cell, or all where the cell is unseen. -/
def votes (rows : List (κ × String)) (cell : κ) : List String :=
  if cell ∈ rows.map Prod.fst then (rows.filter fun row => row.1 = cell).map Prod.snd
  else rows.map Prod.snd

omit [Zero κ] in
theorem Fits.predict_eq {rows : List (κ × String)} {fitted : FoldCounts κ} (h : Fits rows fitted)
    (cell : κ) : fitted.predict cell = firstMost (votes rows cell) := by
  have hglobal : fitted.majority none = firstMost (rows.map Prod.snd) := by
    rw [← majority_tally fitted, ← h.global]
    rfl
  unfold FoldCounts.predict votes
  rw [h.byCell cell]
  by_cases hseen : cell ∈ rows.map Prod.fst
  · rw [if_pos hseen, if_pos hseen]
    exact majority_tally fitted _
  · rw [if_neg hseen, if_neg hseen]
    exact hglobal

/-- The label predicted for an item, by the fold that holds it out. -/
def predicted (cells : List κ) (labels : List String) (i : Nat) : String :=
  (trainFold cells labels (i % FOLDS)).predict (cellAt cells i)

/-- **The prediction is the most frequent label of the cell in training**, or of all training
rows where the cell is unseen. -/
theorem predict_eq (cells : List κ) (labels : List String) (i : Nat) :
    predicted cells labels i =
      firstMost (votes (trainingRows cells labels (i % FOLDS)) (cellAt cells i)) := by
  rw [predicted, trainFold_eq]
  exact (fits_foldl _).predict_eq (cellAt cells i)

/-! ## What is scored -/

/-- The scored items in the order they are scored, each with its label and the one predicted. -/
def outcomes (cells : List κ) (labels : List String) : List (String × String) :=
  (List.range FOLDS).flatMap fun fold =>
    ((List.range cells.length).filter fun i => i % FOLDS = fold).map fun i =>
      (labelAt labels i, predicted cells labels i)

/-- Of the items of a label, the share predicted right. -/
def classRecall (items : List (String × String)) (label : String) : Rat :=
  ((items.filter fun item => item.2 = item.1).map Prod.fst).count label /
    ((items.map Prod.fst).count label : Rat)

/-- The mean of it over the labels. -/
def meanRecall (items : List (String × String)) : Rat :=
  let classes := (items.map Prod.fst).eraseDups
  (classes.map (classRecall items)).sum / classes.length

theorem scoreFold_eq (cells : List κ) (labels : List String) (scored : Scored) (fold : Nat) :
    scoreFold cells labels scored fold =
      (((List.range cells.length).filter fun i => i % FOLDS = fold).map fun i =>
        (labelAt labels i, predicted cells labels i)).foldl
          (fun scored item => scored.item item.1 item.2) scored := by
  rw [scoreFold, List.foldl_map, List.foldl_filter]
  dsimp only
  congr 1
  funext scored i
  by_cases hheld : i % FOLDS = fold
  · simp [hheld, predicted]
  · simp [hheld]

theorem foldl_scoreFold (cells : List κ) (labels : List String) :
    (List.range FOLDS).foldl (scoreFold cells labels) ⟨noCounts, noCounts⟩ =
      (outcomes cells labels).foldl (fun scored item => scored.item item.1 item.2)
        ⟨noCounts, noCounts⟩ := by
  rw [outcomes, List.flatMap, List.foldl_flatten, List.foldl_map]
  congr 1
  funext scored fold
  exact scoreFold_eq cells labels scored fold

/-- The counts of the scored items. -/
theorem foldl_item (items : List (String × String)) :
    items.foldl (fun scored item => Scored.item scored item.1 item.2) ⟨noCounts, noCounts⟩ =
      ⟨(items.map Prod.fst).foldl tally noCounts,
        ((items.filter fun item => item.2 = item.1).map Prod.fst).foldl tally noCounts⟩ := by
  induction items using List.reverseRecOn with
  | nil => rfl
  | append_singleton items item ih =>
      rw [List.foldl_append, ih, List.map_append, List.foldl_append, List.filter_append,
        List.map_append, List.foldl_append]
      by_cases hright : item.2 = item.1
      · simp [Scored.item, hright]
      · simp [Scored.item, hright]

theorem balancedAccuracy_eq (items : List (String × String)) :
    (items.foldl (fun scored item => Scored.item scored item.1 item.2)
      ⟨noCounts, noCounts⟩).balancedAccuracy = meanRecall items := by
  rw [foldl_item]
  have hsum : ∀ classes : List String,
      classes.foldl (fun sum label => sum + classRecall items label) 0 =
        (classes.map (classRecall items)).sum := by
    intro classes
    rw [List.sum_eq_foldl, List.foldl_map]
  unfold Scored.balancedAccuracy meanRecall
  dsimp only [noCounts]
  simp only [tally_rows, List.length_map, getD_get_tally]
  rw [List.foldl_map, ← hsum]
  by_cases hnone : (items.map Prod.fst).eraseDups.length = 0
  · rw [if_pos hnone, hnone, Nat.cast_zero, div_zero]
  · rw [if_neg hnone]
    rfl

/-! ## No peeking -/

/-- The two label vectors agree on every item that the fold does not hold out. -/
def AgreeOutside (size fold : Nat) (labels labels' : List String) : Prop :=
  ∀ i < size, i % FOLDS ≠ fold → labelAt labels i = labelAt labels' i

omit [DecidableEq κ] in
/-- A fold is fitted on nothing it holds out. -/
theorem trainingRows_congr {cells : List κ} {fold : Nat} {labels labels' : List String}
    (hagree : AgreeOutside cells.length fold labels labels') :
    trainingRows cells labels fold = trainingRows cells labels' fold := by
  refine List.map_congr_left fun i hi => ?_
  obtain ⟨hrange, hfold⟩ := List.mem_filter.1 hi
  rw [hagree i (List.mem_range.1 hrange) (of_decide_eq_true hfold)]

/-- **The probe does not peek.**  Labels that agree outside a fold give every item of the fold the
same prediction, so the score compares labels with predictions that were fitted without them. -/
theorem probe_heldOut (cells : List κ) (fold : Nat) (labels labels' : List String)
    (hagree : AgreeOutside cells.length fold labels labels') :
    (∀ i, i % FOLDS = fold → predicted cells labels i = predicted cells labels' i) ∧
      (∀ i, predicted cells labels i =
        firstMost (votes (trainingRows cells labels (i % FOLDS)) (cellAt cells i))) ∧
      crossValidatedBalancedAccuracy cells labels = meanRecall (outcomes cells labels) := by
  refine ⟨?_, predict_eq cells labels, ?_⟩
  · rintro i rfl
    rw [predict_eq, predict_eq, trainingRows_congr hagree]
  · rw [crossValidatedBalancedAccuracy, foldl_scoreFold, balancedAccuracy_eq]

/-- The held-out labels of the first fold change, its predictions do not: the tied cell predicts
the label seen first, the unseen cell the most frequent label. -/
theorem probe_heldOut_tie :
    (predicted [1, 1, 1, 2, 2, 3] ["C", "B", "A", "C", "C", "B"] 0 = "B" ∧
      predicted [1, 1, 1, 2, 2, 3] ["A", "B", "A", "C", "C", "A"] 0 = "B") ∧
      predicted [1, 1, 1, 2, 2, 3] ["C", "B", "A", "C", "C", "B"] 5 = "C" ∧
        predicted [1, 1, 1, 2, 2, 3] ["A", "B", "A", "C", "C", "A"] 5 = "C" := by
  have hagree : AgreeOutside 6 0 ["C", "B", "A", "C", "C", "B"] ["A", "B", "A", "C", "C", "A"] := by
    unfold AgreeOutside
    decide
  have hheld := (probe_heldOut [1, 1, 1, 2, 2, 3] 0 _ _ hagree).1
  have htie : predicted [1, 1, 1, 2, 2, 3] ["A", "B", "A", "C", "C", "A"] 0 = "B" := by decide
  have hunseen : predicted [1, 1, 1, 2, 2, 3] ["A", "B", "A", "C", "C", "A"] 5 = "C" := by decide
  exact ⟨⟨(hheld 0 rfl).trans htie, htie⟩, (hheld 5 rfl).trans hunseen, hunseen⟩

end Probe

end SettlementOps.Leakage
