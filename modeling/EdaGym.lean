import EdaGym.Specs.Decimals
import EdaGym.Run.RecoveryPossible
import EdaGym.Runtime.Advance
import EdaGym.Participants.LineReading
import EdaGym.Providers.CallClosing
import EdaGym.Providers.BudgetThreads
import EdaGym.Projections.ParetoFront
import EdaGym.Artifacts.CanonicalValues
import EdaGym.Artifacts.CollectionSafety
import EdaGym.Artifacts.ChunkScanning
import EdaGym.Artifacts.EnvelopeBytes
import EdaGym.Security.MarkerMatching
import EdaGym.Security.CanaryEscape
import EdaGym.Executors.SlurmOnce
import EdaGym.Executors.BrokerFence
import EdaGym.Guest.AgentRuns
import EdaGym.Drivers.QualificationOutcome
import EdaGym.Policy.AuditHistory
import EdaGym.Participants.CalibrationExclusive
import EdaGym.Resolution.Measurements
import EdaGym.Reporting.BackendCoverage
import EdaGym.Executors.LicenseRuns
import EdaGym.Executors.AssetIdentity
import EdaGym.Drivers.LicensedQualification
import EdaGym.Participants.Conversation
import EdaGym.Reporting.SpendTotals
import EdaGym.Evaluation.ScoringLaws
import EdaGym.Runtime.ExecutionArtifacts
import EdaGym.Evaluation.StageOrder
import EdaGym.Artifacts.Durability
import EdaGym.Runtime.Evaluations
import EdaGym.Providers.ReportedSchedule
