import Mathlib.Data.List.Sort
import SettlementOps.Records

/-!
# Duplicate detection

Two independent detectors over a list of records of any kind.

* `findExactDuplicates` — the same merchant, source system and source record id.
* `findNearDuplicates` — the same payment, amount and kind, observed within
  `NEAR_DUPLICATE_WINDOW_SECONDS` of the earliest such record.
* `detectDuplicates` — both, exact groups first.
-/

namespace SettlementOps

inductive DuplicateDetection
  | exactSourceId
  | nearDuplicate
  deriving DecidableEq, Repr

/-- The code a detection is written as. -/
def DuplicateDetection.code : DuplicateDetection → String
  | .exactSourceId => "EXACT_SOURCE_ID"
  | .nearDuplicate => "NEAR_DUPLICATE"

structure DuplicateGroup where
  key : String
  ids : List String
  detection : DuplicateDetection
  deriving DecidableEq, Repr

section Grouping

variable {α κ : Type} [DecidableEq κ]

/-- Appends a value under its key; a new key goes last, as in a `Map`. -/
def pushGroup (k : κ) (v : α) : List (κ × List α) → List (κ × List α)
  | [] => [(k, [v])]
  | (k', vs) :: rest => if k' = k then (k', vs ++ [v]) :: rest else (k', vs) :: pushGroup k v rest

/-- The values of a list under their keys, in order of first appearance.  A value
without a key is skipped. -/
def groupByKey (key : α → Option κ) (values : List α) : List (κ × List α) :=
  values.foldl
    (fun byKey v =>
      match key v with
      | none => byKey
      | some k => pushGroup k v byKey)
    []

end Grouping

/-- Groups of records delivered more than once under one source identity. -/
def findExactDuplicates (records : List FinancialRecord) : List DuplicateGroup :=
  ((groupByKey (fun r => some (duplicateKey r.base)) records).filter
      (fun entry => entry.2.length > 1)).map
    fun entry => ⟨entry.1, entry.2.map (·.base.id), .exactSourceId⟩

/-- The key near duplicates share.  Only refunds and payments have one. -/
def nearKey : FinancialRecord → Option String
  | .refund r => some ("REFUND::" ++ r.paymentId ++ "::" ++ toString r.amount.amountMinor)
  | .payment r => some ("PAYMENT::" ++ r.paymentId ++ "::" ++ toString r.amount.amountMinor)
  | _ => none

def observedTime (r : FinancialRecord) : Int := r.base.lineage.observedAt.getTime

/-- One round of the clustering loop: the first record is the anchor, and a later one
joins when it is within the window of the anchor. -/
def clusterStep (windowMs : Int) (st : Option Int × List String) (record : FinancialRecord) :
    Option Int × List String :=
  let t := observedTime record
  match st.1 with
  | none => (some t, st.2 ++ [record.base.id])
  | some anchor =>
      if t - anchor ≤ windowMs then (some anchor, st.2 ++ [record.base.id]) else st

/-- The ids of the candidates within the window of the earliest one. -/
def cluster (candidates : List FinancialRecord) : List String :=
  let windowMs := NEAR_DUPLICATE_WINDOW_SECONDS * 1000
  let sorted := candidates.insertionSort (fun a b => observedTime a ≤ observedTime b)
  (sorted.foldl (clusterStep windowMs) (none, [])).2

/-- Groups of records that look like one event delivered again. -/
def findNearDuplicates (records : List FinancialRecord) : List DuplicateGroup :=
  (groupByKey nearKey records).filterMap fun entry =>
    if entry.2.length < 2 then none
    else
      let ids := cluster entry.2
      if ids.length > 1 then some ⟨entry.1, ids, .nearDuplicate⟩ else none

def detectDuplicates (records : List FinancialRecord) : List DuplicateGroup :=
  findExactDuplicates records ++ findNearDuplicates records

end SettlementOps
