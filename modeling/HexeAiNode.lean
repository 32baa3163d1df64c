import HexeAiNode.Governance.ExecutionGovernance
import HexeAiNode.Governance.PromptConstraints
import HexeAiNode.Governance.ProviderSelectionPolicy
import HexeAiNode.Governance.ProviderRestrictions
import HexeAiNode.Governance.ProviderResolver
import HexeAiNode.Library.ReservationLedger
import HexeAiNode.Budget.State
import HexeAiNode.Budget.Manager
import HexeAiNode.Budget.LedgerConsistency
import HexeAiNode.Budget.HeldReservations
import HexeAiNode.Execution.ProviderExecutionRouter
import HexeAiNode.Execution.TaskExecutionResult
import HexeAiNode.Execution.TaskExecutionService
import HexeAiNode.Execution.Confinement
import HexeAiNode.Execution.ReservationSettlement
import HexeAiNode.Access.RouteScopes
import HexeAiNode.Access.Authorization
import HexeAiNode.Library.Heapq
import HexeAiNode.Library.Run
import HexeAiNode.Python.Datetime
import HexeAiNode.Queue.Jobs
import HexeAiNode.Queue.Service
import HexeAiNode.Queue.Machine
import HexeAiNode.Queue.Blocks
import HexeAiNode.Queue.Agreement
import HexeAiNode.Queue.Edits
import HexeAiNode.Queue.SingleEntry
import HexeAiNode.Queue.Recovery
import HexeAiNode.Queue.Records
import HexeAiNode.Queue.Retention
import HexeAiNode.Queue.PopOrder
import HexeAiNode.Queue.PoisonJobs
import HexeAiNode.Queue.Replay
import HexeAiNode.Queue.Wakeup
import HexeAiNode.Queue.Slots
import HexeAiNode.Idempotency.Store
import HexeAiNode.Idempotency.Effects
import HexeAiNode.Idempotency.SingleFlight
import HexeAiNode.Idempotency.Waiters
import HexeAiNode.Budget.Operations
import HexeAiNode.Budget.Persistence
import HexeAiNode.Budget.MatchingGrants
import HexeAiNode.Budget.ProviderLimit
import HexeAiNode.Budget.BothLedgers
import HexeAiNode.Budget.PeriodWindow
import HexeAiNode.Execution.ProviderSpend
import HexeAiNode.Queue.Boundary
import HexeAiNode.Queue.Lanes
import HexeAiNode.Budget.Flush
import HexeAiNode.FamilyMemory.CopyAgreement
import HexeAiNode.FamilyMemory.Release
import HexeAiNode.Execution.AssistantReasoning
import HexeAiNode.Execution.RequestRecovery
import HexeAiNode.Idempotency.Vacancy
import HexeAiNode.Queue.RequestRestart
import HexeAiNode.Runtime.DirectExecution
import HexeAiNode.Runtime.Submissions
import HexeAiNode.Prompts.Registration
import HexeAiNode.Execution.AssistantAnswers
import HexeAiNode.Execution.ModelConfinement
import HexeAiNode.Prompts.NormalForm
import HexeAiNode.Runtime.InternalScheduler
import HexeAiNode.Runtime.LeaseExecution
import HexeAiNode.Execution.GovernedPrompt
import HexeAiNode.Pricing.Entries
import HexeAiNode.Pricing.Files
import HexeAiNode.Pricing.Sync
import HexeAiNode.Budget.Conflicts
import HexeAiNode.Execution.DefaultProvider
import HexeAiNode.Execution.Retries
import HexeAiNode.Governance.ProviderOrder
import HexeAiNode.Governance.ResolutionCase
import HexeAiNode.Queue.Diagnostics
import HexeAiNode.Queue.SecondPass
import HexeAiNode.Queue.WaitBudget
import HexeAiNode.Execution.ExecutionGateway
import HexeAiNode.Execution.VersionLaw
import HexeAiNode.Runtime.CriticalWork
import HexeAiNode.Runtime.LocalOnlyQueueing
import HexeAiNode.Budget.BoundedOverspend
import HexeAiNode.Execution.SimultaneousRendering
import HexeAiNode.Runtime.LastResort
import HexeAiNode.Runtime.SafeEvents
import HexeAiNode.Runtime.RollingMaxima
import HexeAiNode.Prompts.PromptRoutes
import HexeAiNode.Usage.UsageSummary
import HexeAiNode.Usage.HistoricalSeed
import HexeAiNode.Onboarding.Startup
