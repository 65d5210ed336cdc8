import SettlementOps.Agent.Exhaustion
import SettlementOps.Agent.LoopSafety
import SettlementOps.Agent.Prompts
import SettlementOps.Generator.Allocation
import SettlementOps.Generator.Baseline
import SettlementOps.Generator.Labels
import SettlementOps.Generator.Neutrality
import SettlementOps.Generator.Registry
import SettlementOps.Import.Durability
import SettlementOps.Jobs.Attempts
import SettlementOps.Jobs.Ownership
import SettlementOps.Leakage.Probe
import SettlementOps.Policy.CalendarLaw
import SettlementOps.Policy.RoundingDrift
import SettlementOps.Reconciliation.BankLegs
import SettlementOps.Reconciliation.Chronology
import SettlementOps.Reconciliation.ComponentSigns
import SettlementOps.Reconciliation.ExactDuplicates
import SettlementOps.Reconciliation.NearDuplicates
import SettlementOps.Reconciliation.OrderIndependence
import SettlementOps.Reconciliation.ScheduleAdherence
import SettlementOps.Reconciliation.Statuses
import SettlementOps.Runs.Coverage
import SettlementOps.Runs.Retry
import SettlementOps.Scenario.Cases
import SettlementOps.Store.AdjustmentLinks
import SettlementOps.Store.BatchOrder
import SettlementOps.Store.Batches
import SettlementOps.Store.DuplicateAccounting
import SettlementOps.Store.ImportedDuplicates
import SettlementOps.Store.References
import SettlementOps.Systems.Agents
import SettlementOps.Systems.StoredDataset
import SettlementOps.Tools.Provenance
import SettlementOps.Verification.Gate
import SettlementOps.Verification.RefundNetting
import SettlementOps.Verification.TimingLag
import SettlementOps.Verification.Withholding
import SettlementOps.Workflow.AgentOutcome
import SettlementOps.Workflow.AuditTrail
import SettlementOps.Workflow.ClosingTimes
import SettlementOps.Workflow.EvidenceRequests
import SettlementOps.Workflow.Rejection
