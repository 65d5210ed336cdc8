import SettlementOps.Reconciliation.Checks

/-!
# The deterministic verifier

A proposal names a cause, a disposition and the records it rests on; the verifier
decides the effective disposition, in one pass and for good.

* `causeSupported` — one rule for each cause of the closed taxonomy.
* `verify` — the whole pass: policy, provenance, adjustment timing and the cause's rule,
  with the failures accumulated.
-/

namespace SettlementOps

/-! ## The cause taxonomy and its policy -/

inductive CauseCode
  | mdrFee
  | utrSplit
  | refundNetting
  | timingLag
  | roundingDrift
  | ambiguous
  | compound
  deriving DecidableEq, Repr

/-- The code a cause is written as. -/
def CauseCode.code : CauseCode → String
  | .mdrFee => "MDR_FEE"
  | .utrSplit => "UTR_SPLIT"
  | .refundNetting => "REFUND_NETTING"
  | .timingLag => "TIMING_LAG"
  | .roundingDrift => "ROUNDING_DRIFT"
  | .ambiguous => "AMBIGUOUS"
  | .compound => "COMPOUND"

inductive Disposition
  | resolve
  | requestEvidence
  | escalate
  deriving DecidableEq, Repr

def Disposition.code : Disposition → String
  | .resolve => "RESOLVE"
  | .requestEvidence => "REQUEST_EVIDENCE"
  | .escalate => "ESCALATE"

def allDispositions : List Disposition := [.resolve, .requestEvidence, .escalate]

/-- The dispositions a cause permits. -/
def CAUSE_DISPOSITION_POLICY : CauseCode → List Disposition
  | .mdrFee => allDispositions
  | .utrSplit => allDispositions
  | .refundNetting => allDispositions
  | .timingLag => allDispositions
  | .roundingDrift => [.resolve, .escalate]
  | .ambiguous => [.escalate]
  | .compound => allDispositions

def isDispositionPermitted (cause : CauseCode) (disposition : Disposition) : Bool :=
  (CAUSE_DISPOSITION_POLICY cause).contains disposition

def canEverResolve (cause : CauseCode) : Bool :=
  (CAUSE_DISPOSITION_POLICY cause).contains .resolve

/-- Only ambiguity is barred from resolving by the policy. -/
theorem canEverResolve_iff {cause : CauseCode} :
    canEverResolve cause = true ↔ cause ≠ .ambiguous := by
  cases cause <;> decide

/-! ## Proposals and results -/

structure Proposal where
  cause : CauseCode
  disposition : Disposition
  evidenceRecordIds : List String
  rationale : String
  /-- What the tools of this investigation returned; missing without an investigation. -/
  retrievedRecordIds : Option (List String)
  deriving DecidableEq, Repr

inductive VerifierFailure
  | causeNotPermittedToResolve
  | dispositionNotPermittedForCause
  | evidenceMissing
  | evidenceNotInScope
  | evidenceNotRetrieved
  | arithmeticUnsupported
  | causeNotSupportedByEvidence
  | timingImpossible
  | roundingExceedsCap
  | refundOutsideWindow
  deriving DecidableEq, Repr

def VerifierFailure.code : VerifierFailure → String
  | .causeNotPermittedToResolve => "CAUSE_NOT_PERMITTED_TO_RESOLVE"
  | .dispositionNotPermittedForCause => "DISPOSITION_NOT_PERMITTED_FOR_CAUSE"
  | .evidenceMissing => "EVIDENCE_MISSING"
  | .evidenceNotInScope => "EVIDENCE_NOT_IN_SCOPE"
  | .evidenceNotRetrieved => "EVIDENCE_NOT_RETRIEVED"
  | .arithmeticUnsupported => "ARITHMETIC_UNSUPPORTED"
  | .causeNotSupportedByEvidence => "CAUSE_NOT_SUPPORTED_BY_EVIDENCE"
  | .timingImpossible => "TIMING_IMPOSSIBLE"
  | .roundingExceedsCap => "ROUNDING_EXCEEDS_CAP"
  | .refundOutsideWindow => "REFUND_OUTSIDE_WINDOW"

structure VerificationResult where
  passed : Bool
  effectiveDisposition : Disposition
  failures : List VerifierFailure
  detail : List String
  deriving DecidableEq, Repr

/-! ## The rule of each cause -/

/-- The expected net less what was settled, if the expected net can be computed. -/
def variance (unit : ReconciliationUnit) : Option Int :=
  match expectedNetFromRecords unit.expectedNetInput with
  | .error _ => none
  | .ok observed =>
      let settled := unit.lines.foldl (fun total l => total + l.amount.amountMinor) 0
      some (observed.expectedNetMinor - settled)

def magnitude (value : Int) : Int := if value < 0 then -value else value

structure CauseSupport where
  supported : Bool
  failure : Option VerifierFailure := none
  detail : String
  deriving DecidableEq, Repr

/-- What the schedule asks to withhold less what is recorded as withheld. -/
def unrecordedWithholding (unit : ReconciliationUnit) (scheduled : ScheduledFee) : Int :=
  let withheld := scheduled.fee.amountMinor + scheduled.tax.amountMinor
  let observedFee := unit.fees.foldl (fun total f => total + f.amount.amountMinor) 0
  let observedTax := unit.taxes.foldl (fun total t => total + t.amount.amountMinor) 0
  withheld - observedFee - observedTax

/-- The variance must be what the published schedule says was withheld. -/
def supportMdrFee (unit : ReconciliationUnit) (delta : Int) : CauseSupport :=
  match unit.payment.scheduleTime with
  | none => ⟨false, some .arithmeticUnsupported, "no capture date"⟩
  | some time =>
      match scheduledFeeFor unit.payment.amount unit.payment.paymentMethod time with
      | none => ⟨false, some .arithmeticUnsupported, "no schedule in force"⟩
      | some scheduled =>
          let unrecorded := unrecordedWithholding unit scheduled
          if withinRoundingTolerance (magnitude delta - magnitude unrecorded) 2 then
            ⟨true, none, "variance " ++ toString delta ++ " matches unrecorded fee+tax " ++
              toString unrecorded⟩
          else
            ⟨false, some .causeNotSupportedByEvidence, "variance " ++ toString delta ++
              " does not match unrecorded fee+tax " ++ toString unrecorded⟩

/-- Value must be conserved across the legs and every leg must have a credit. -/
def supportUtrSplit (unit : ReconciliationUnit) (delta : Int) : CauseSupport :=
  let legs := (unit.settlements.map (·.settlementId)).eraseDups
  if legs.length < 2 then
    ⟨false, some .causeNotSupportedByEvidence, "only one settlement leg exists"⟩
  else
    let missing := unit.settlements.filter fun s =>
      s.utr != none && !unit.bankCredits.any (fun b => some b.utr == s.utr)
    if missing.length > 0 then
      ⟨false, some .evidenceMissing,
        toString missing.length ++ " settlement leg(s) have no bank credit"⟩
    else if withinRoundingTolerance delta unit.settlementLines.length then
      ⟨true, none, "value conserved across legs and every leg is credited"⟩
    else
      ⟨false, some .arithmeticUnsupported,
        "legs do not conserve value: variance " ++ toString delta⟩

/-- Lateness only explains a case whose amounts already agree. -/
def supportTimingLag (unit : ReconciliationUnit) (delta : Int) : CauseSupport :=
  if !withinRoundingTolerance delta (max 1 unit.settlementLines.length) then
    ⟨false, some .causeNotSupportedByEvidence, "amounts do not agree (variance " ++
      toString delta ++ "); lateness cannot explain money"⟩
  else if unit.payment.capturedAt = none ∨ unit.settlements.length = 0 then
    ⟨false, some .evidenceMissing, "no settlement or capture"⟩
  else ⟨true, none, "amounts agree; only the arrival time differs"⟩

/-- Bounded by the absolute ceiling, always. -/
def supportRoundingDrift (delta : Int) : CauseSupport :=
  if magnitude delta > ROUNDING_TOLERANCE_ABSOLUTE_CAP_MINOR then
    ⟨false, some .roundingExceedsCap, "variance " ++ toString delta ++ " exceeds the " ++
      toString ROUNDING_TOLERANCE_ABSOLUTE_CAP_MINOR ++ " cap rounding may explain"⟩
  else ⟨true, none, "variance " ++ toString delta ++ " is within the rounding ceiling"⟩

/-- A refund must exist and none may settle beyond the netting window. -/
def supportRefundNetting (unit : ReconciliationUnit) : CauseSupport :=
  if unit.refunds.length = 0 then ⟨false, some .evidenceMissing, "no refund exists"⟩
  else
    let late := unit.refunds.filter (·.late)
    if late.length > 0 then
      ⟨false, some .refundOutsideWindow, toString late.length ++
        " refund(s) settled beyond " ++ toString REFUND_NETTING_MAX_CYCLES ++ " cycles"⟩
    else ⟨true, none, "refund settles inside the netting window"⟩

/-- Whether the evidence supports the cause: one rule per cause. -/
def causeSupported (cause : CauseCode) (unit : ReconciliationUnit) : CauseSupport :=
  match variance unit with
  | none => ⟨false, some .arithmeticUnsupported, "variance not computable"⟩
  | some delta =>
      match cause with
      | .mdrFee => supportMdrFee unit delta
      | .utrSplit => supportUtrSplit unit delta
      | .timingLag => supportTimingLag unit delta
      | .roundingDrift => supportRoundingDrift delta
      | .refundNetting => supportRefundNetting unit
      | .ambiguous => ⟨true, none, "ambiguity acknowledged"⟩
      | .compound =>
          ⟨false, some .causeNotSupportedByEvidence,
            "COMPOUND is not independently verifiable; the components must be proven"⟩

/-! ## The pass -/

/-- The ids of the records of the unit. -/
def ReconciliationUnit.recordIds (unit : ReconciliationUnit) : List String :=
  unit.payment.id :: unit.fees.map (·.id) ++ unit.taxes.map (·.id) ++
    unit.refunds.map (·.id) ++ unit.adjustments.map (·.id) ++ unit.settlements.map (·.id) ++
    unit.settlementLines.map (·.id) ++ unit.bankCredits.map (·.id)

/-- What one part of the pass pushes: failures and lines of detail. -/
structure Findings where
  failures : List VerifierFailure := []
  detail : List String := []
  deriving DecidableEq, Repr

def Findings.append (a b : Findings) : Findings :=
  ⟨a.failures ++ b.failures, a.detail ++ b.detail⟩

/-- The policy of the cause. -/
def policyFindings (proposal : Proposal) : Findings :=
  Findings.append
    (if canEverResolve proposal.cause then {}
    else ⟨[.causeNotPermittedToResolve], [proposal.cause.code ++
      " can never resolve; this is definitional, not a threshold"]⟩)
    (if isDispositionPermitted proposal.cause proposal.disposition then {}
    else ⟨[.dispositionNotPermittedForCause], []⟩)

/-- Every cited record must exist in the unit, and there must be one. -/
def scopeFindings (proposal : Proposal) (unit : ReconciliationUnit) : Findings :=
  let foreign := proposal.evidenceRecordIds.filter (fun id => !unit.recordIds.contains id)
  Findings.append
    (if proposal.evidenceRecordIds.length = 0 then
      ⟨[.evidenceMissing], ["a resolution must cite the records that support it"]⟩
    else {})
    (if foreign.length > 0 then
      ⟨[.evidenceNotInScope],
        [toString foreign.length ++ " cited record(s) are not part of this case"]⟩
    else {})

/-- Every cited record must have been returned by a tool, when tools were used. -/
def retrievalFindings (proposal : Proposal) (unit : ReconciliationUnit) : Findings :=
  match proposal.retrievedRecordIds with
  | none => {}
  | some retrieved =>
      let unretrieved := proposal.evidenceRecordIds.filter fun id =>
        unit.recordIds.contains id && !retrieved.contains id
      if unretrieved.length > 0 then
        ⟨[.evidenceNotRetrieved], [toString unretrieved.length ++
          " cited record(s) exist but were never returned by a tool in this investigation"]⟩
      else {}

/-- An adjustment that could not have affected a settlement is never support. -/
def adjustmentFindings (unit : ReconciliationUnit) : Findings :=
  let impossible := unit.impossibleAdjustments
  if impossible.length > 0 ∧ unit.settlements.length > 0 then
    ⟨[.timingImpossible], [toString impossible.length ++
      " adjustment(s) take effect after the settlement they would explain"]⟩
  else {}

/-- The rule of the proposed cause. -/
def causeFindings (proposal : Proposal) (unit : ReconciliationUnit) : Findings :=
  let support := causeSupported proposal.cause unit
  ⟨if !support.supported then support.failure.toList else [], [support.detail]⟩

/-- Everything a claimed resolution is checked for, in order. -/
def resolutionFindings (proposal : Proposal) (unit : ReconciliationUnit) : Findings :=
  ((((policyFindings proposal).append (scopeFindings proposal unit)).append
    (retrievalFindings proposal unit)).append (adjustmentFindings unit)).append
    (causeFindings proposal unit)

/-- Verify a proposal.  A rejected resolution becomes an escalation, never an error. -/
def verify (proposal : Proposal) (unit : ReconciliationUnit) : VerificationResult :=
  if proposal.disposition ≠ .resolve then
    { passed := true
      effectiveDisposition := proposal.disposition
      failures := []
      detail := ["no resolution claimed; nothing to substantiate"] }
  else
    let findings := resolutionFindings proposal unit
    let passed : Bool := findings.failures.length = 0
    { passed
      effectiveDisposition := if passed then .resolve else .escalate
      failures := findings.failures
      detail := findings.detail }

end SettlementOps
