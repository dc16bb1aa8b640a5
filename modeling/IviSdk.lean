import IviSdk.FallibleCodecs
import IviSdk.ModelRoundTrips
import IviSdk.TrailerValues
import IviSdk.CallOutcomes
import IviSdk.LoggedFailures
import IviSdk.FailedChecks
import IviSdk.RequestContents
import IviSdk.Interaction
import IviSdk.CompletionQueues
import IviSdk.QueueTimings
import IviSdk.Streams
import IviSdk.ManagerWorld
import IviSdk.StreamClients
import IviSdk.ClientManager
import IviSdk.CallbackRules
import IviSdk.PollRules
import IviSdk.ManagerRuns
import IviSdk.FinishFlags
import IviSdk.RecoveryBounds
import IviSdk.CountedLoops
import IviSdk.RecoveryLoop
import IviSdk.FailureReports
import IviSdk.QueueWiring
import IviSdk.QueueOwnership
import IviSdk.ShutdownOrder
import IviSdk.RequestLedger
import IviSdk.UpdateOrder
import IviSdk.EnumWidths
import IviSdk.LiveStreams
import IviSdk.DefinedRuns
import IviSdk.FinishProtocol
import IviSdk.FinishMoves
import IviSdk.RecoveryFinishes
import IviSdk.Teardown
import IviSdk.PairedPrograms
import IviSdk.PairedRuns
import IviSdk.ConfirmModes
import IviSdk.BuildVariants
import IviSdk.StepRules
import IviSdk.OperationLedger
import IviSdk.Traces
import IviSdk.SubscriptionProtocol
import IviSdk.SilentSubscriptions
import IviSdk.ManualRecovery
import IviSdk.StreamHealing
import IviSdk.Interleavings
import IviSdk.ThreadSeparation
import IviSdk.AsyncResults
import IviSdk.Connections
import IviSdk.PollProgress
