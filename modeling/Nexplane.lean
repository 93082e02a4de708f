import Nexplane.AgentJobRuns
import Nexplane.ConcurrentApproval
import Nexplane.ExecutionRaces
import Nexplane.Lib.Py
import Nexplane.World
import Nexplane.StepLoop
import Nexplane.StepRollback
import Nexplane.CredentialRotation
import Nexplane.CertificateRotation
import Nexplane.CertificateRollback
import Nexplane.CredentialFanout
import Nexplane.K8sUpgrade
import Nexplane.Activities
import Nexplane.RollbackExecutor
import Nexplane.Workflow
import Nexplane.Resume
import Nexplane.ResumeRouting
import Nexplane.FanoutRuns
import Nexplane.WorkflowRecords
import Nexplane.RollbackRecords
import Nexplane.PartialRollback
import Nexplane.SoftFailure
import Nexplane.ExecutionStarts
import Nexplane.ChangeIp
import Nexplane.DeadManSwitch
import Nexplane.DeadManRecovery
import Nexplane.UndoConnector
import Nexplane.ExecutorRollback
import Nexplane.FanOut
import Nexplane.FanOutExecution
import Nexplane.FanOutRollback
import Nexplane.RollbackReports
import Nexplane.InventoryRollback
import Nexplane.ExecutionGates
import Nexplane.Lib.Saga
import Nexplane.Lib.Stamps
import Nexplane.UndoInverse
import Nexplane.RollbackStack
import Nexplane.FiloRollback
import Nexplane.ImageTransfer
import Nexplane.RollbackStatuses
import Nexplane.ExecutorStatuses
import Nexplane.WorkflowOutcomes
import Nexplane.WorkflowEnds
import Nexplane.Lib.Sorting
import Nexplane.ProjectRollbackSteps
import Nexplane.AgentJobLifecycle
import Nexplane.ProjectRollback
import Nexplane.RollbackDriver
import Nexplane.RollbackProgress
import Nexplane.SettledRollback
import Nexplane.ProjectRollbacks
import Nexplane.Lib.Text
import Nexplane.TunnelFrames
import Nexplane.TunnelManager
import Nexplane.TunnelRegistry
import Nexplane.Lib.Lists
import Nexplane.TunnelAccounting
import Nexplane.TunnelSession
import Nexplane.AgentCleanup
import Nexplane.AgentStreams
import Nexplane.TunnelAgreement
import Nexplane.AllowlistAgreement
import Nexplane.TunnelTokens
import Nexplane.JobSigning
import Nexplane.RotationRuns
import Nexplane.CertificateRuns
import Nexplane.ChangePlans
import Nexplane.ProjectDependencies
import Nexplane.RunbookStorage
import Nexplane.RunbookRuns
import Nexplane.TenantWindows
import Nexplane.DriftSurfaces
import Nexplane.DriftRemediation
import Nexplane.DriftAnchors
import Nexplane.DriftDismissals
import Nexplane.RecurringJobs
import Nexplane.RunbookTicks
import Nexplane.LoadedData
import Nexplane.PatchCampaigns
import Nexplane.CampaignControl
import Nexplane.CampaignOutcomes
import Nexplane.SlaJobOrder
import Nexplane.VulnerabilityFindings
import Nexplane.FindingLifecycle
import Nexplane.WebhookIngest
import Nexplane.IdentitySync
import Nexplane.IdentityCorrelation
import Nexplane.SoakSessions
import Nexplane.SoakProposals
import Nexplane.ReviewCampaigns
import Nexplane.ReviewLaws
import Nexplane.ReviewRevocations
import Nexplane.NotificationRouting
import Nexplane.WindowPolicy
import Nexplane.TunnelSync
import Nexplane.KernelUpgrade
import Nexplane.RollbackClassification
import Nexplane.Lib.JsonReading
import Nexplane.MessageInjectivity
import Nexplane.SessionShutdown
import Nexplane.StreamPayloads
import Nexplane.Lib.LossyUtf8
import Nexplane.Lib.StreamReader
import Nexplane.SocksFrontEnd
import Nexplane.AssetGraph
import Nexplane.RiskOrder
import Nexplane.ProjectCycles
import Nexplane.FiloUndo
import Nexplane.CertificateUndo
import Nexplane.NodeUpgrade
import Nexplane.Lib.JsonReorder
import Nexplane.FanoutPushes
import Nexplane.DriftNormalization
import Nexplane.DriftNormalization
import Nexplane.Lib.Directives
import Nexplane.SshdMeaning
import Nexplane.AuthorizedKeys
import Nexplane.ReferenceBackups
import Nexplane.PreStateStore
import Nexplane.IdentityResolution
import Nexplane.ReferenceUpdates
import Nexplane.StepResolution
import Nexplane.FindingRegressions
import Nexplane.Lib.Codecs
import Nexplane.ReferenceScan
import Nexplane.AssetIngest
import Nexplane.InterfaceSnapshots
import Nexplane.AddressRollback
import Nexplane.HostEffects
import Nexplane.InterfaceFiles
import Nexplane.SnapshotRestore
import Nexplane.SnapshotRestore
import Nexplane.Lib.Globs
import Nexplane.AppArmorProfiles
import Nexplane.LsmPolicies
import Nexplane.AvcLines
import Nexplane.SelinuxModules
import Nexplane.Lib.Deltas
import Nexplane.PolicyDeltas
import Nexplane.ProfileDeltas
import Nexplane.Lib.UnitOfWork
import Nexplane.ReviewCollection
import Nexplane.NotificationPreview
import Nexplane.FreezeWindows
import Nexplane.UpgradeRestores
