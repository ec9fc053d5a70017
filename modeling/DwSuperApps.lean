import DwSuperApps.Guarantees.LiveReadiness
import DwSuperApps.Guarantees.LiveFrames
import DwSuperApps.Guarantees.ReducerParity
import DwSuperApps.Guarantees.ManifestOrder
import DwSuperApps.Guarantees.CoordinatorProjection
import DwSuperApps.Guarantees.TerminalOnce
import DwSuperApps.Guarantees.ObserverGaps
import DwSuperApps.Guarantees.ReplayCursor
import DwSuperApps.Guarantees.LeaseReplay
import DwSuperApps.Guarantees.LeaseReferences
import DwSuperApps.Guarantees.EventReplay
import DwSuperApps.Guarantees.RecoveryFrame
import DwSuperApps.Guarantees.RecoveryRouting
import DwSuperApps.Guarantees.FencingSafety
import DwSuperApps.Guarantees.RunIsolation
import DwSuperApps.Guarantees.MailboxDelivery
import DwSuperApps.Guarantees.WakeupFinality
import DwSuperApps.Guarantees.DispatchReconcile
import DwSuperApps.Guarantees.CoordinatorSteps
import DwSuperApps.Guarantees.StageOrder
import DwSuperApps.Guarantees.AttemptHistory
import DwSuperApps.Guarantees.JoinReady
import DwSuperApps.Guarantees.CompletionOrder
import DwSuperApps.Guarantees.SynthesisCompletion
import DwSuperApps.Guarantees.WakeupProjection
import DwSuperApps.Guarantees.PlanCursor
import DwSuperApps.Guarantees.StepActivations
import DwSuperApps.Guarantees.MixerInputs
import DwSuperApps.Guarantees.RecoveryBindings
import DwSuperApps.Guarantees.TerminalRaces
import DwSuperApps.Guarantees.FindingGroups
import DwSuperApps.Guarantees.SeverityAgreement
import DwSuperApps.Guarantees.DispatchOnce
import DwSuperApps.Guarantees.ClosingSafety
import DwSuperApps.Guarantees.TerminalCarries
import DwSuperApps.Guarantees.SingleRoot
import DwSuperApps.Guarantees.RaceOrder
import DwSuperApps.Guarantees.LeaseFrame
import DwSuperApps.Guarantees.GrantInterleaving
import DwSuperApps.Guarantees.ProducerCursor
import DwSuperApps.Guarantees.ExecutorBootstrap
import DwSuperApps.Guarantees.BoundaryOrder
import DwSuperApps.Guarantees.ChunkJoin
import DwSuperApps.Guarantees.ChunkGreedy
import DwSuperApps.Guarantees.VersionOrder
import DwSuperApps.Guarantees.PlanGraph
import DwSuperApps.Guarantees.SecretScan
import DwSuperApps.Guarantees.ProviderChoice
import DwSuperApps.Guarantees.StateAdvancing
import DwSuperApps.Guarantees.BlueprintRoutes
import DwSuperApps.Guarantees.OwnStep
import DwSuperApps.Guarantees.PlanRoundTrip
import DwSuperApps.Guarantees.RetryEvidence
import DwSuperApps.Guarantees.PlanSwitch
import DwSuperApps.Guarantees.DispatchKeys
import DwSuperApps.Guarantees.AdapterChoice
import DwSuperApps.Source.ExecutionContracting
import DwSuperApps.Guarantees.ContractActions
import DwSuperApps.Lib.Transactions
import DwSuperApps.Source.ExternalAction
import DwSuperApps.Guarantees.ActionFinality
import DwSuperApps.Source.ChildContract
import DwSuperApps.Guarantees.SourceGrammar
import DwSuperApps.Lib.Occurrence
import DwSuperApps.Source.Communication
import DwSuperApps.Guarantees.PeerMessages
import DwSuperApps.Source.Monitoring
import DwSuperApps.Guarantees.ReplyMonitoring
import DwSuperApps.Source.RequestCompiler
import DwSuperApps.Guarantees.RetryChains
import DwSuperApps.Source.CertificationStability
import DwSuperApps.Guarantees.StabilityStreaks
import DwSuperApps.Source.ControlActions
import DwSuperApps.Guarantees.ControlRuns
import DwSuperApps.Guarantees.PackageDetection
import DwSuperApps.Guarantees.PackLimits
import DwSuperApps.Guarantees.InstallSafety
import DwSuperApps.Guarantees.PilotRuns
