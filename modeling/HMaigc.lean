import HMaigc.Credit.Reconciliation
import HMaigc.Repository.Reconciliation
import HMaigc.Sql.Moves
import HMaigc.Sql.Versioned
import HMaigc.Sql.Claim
import HMaigc.Sql.Contract
import HMaigc.Sql.Serial
import HMaigc.Credit.Conservation
import HMaigc.Credit.Release
import HMaigc.Task.Outbox
import HMaigc.Sql.Unique
import HMaigc.Repository.Task
import HMaigc.Repository.Payment
import HMaigc.Ops.Monotonicity
import HMaigc.Ops.Resume
import HMaigc.Credit.Replay
import HMaigc.Team.Seats
import HMaigc.Membership.Periods
import HMaigc.Credit.Stock
import HMaigc.Task.Lease
import HMaigc.Task.Dispatch
import HMaigc.Payment.Binding
import HMaigc.Task.Finalization
import HMaigc.Sql.FirstWins
import HMaigc.Task.Limits
import HMaigc.Resource.Deletion
import HMaigc.Payment.Facts
import HMaigc.Agent.Run
import HMaigc.Billing.Order
import HMaigc.Credit.Settlement
import HMaigc.Canvas.Client
import HMaigc.Canvas.Invariants
import HMaigc.Credit.Grants
import HMaigc.Credit.MemberLimit
import HMaigc.Repository.AgentTree
import HMaigc.Task.Disposal
import HMaigc.Semver.Precedence
import HMaigc.Ops.Version
import HMaigc.Ops.Run
import HMaigc.Ops.Ownership
import HMaigc.Ops.Cancellation
import HMaigc.Ops.Conclusion
import HMaigc.Canvas.Access
import HMaigc.Canvas.History
import HMaigc.Graph.Topological
import HMaigc.Graph.Cycle
import HMaigc.Agent.ProductionGraph
import HMaigc.Agent.ProductionProgress
import HMaigc.Repository.ProductionGraph
import HMaigc.Agent.StageHistory
import HMaigc.Agent.Answers
import HMaigc.Provider.Stream
import HMaigc.Payment.Amount
import HMaigc.Task.Envelope
import HMaigc.Canvas.Deletion
import HMaigc.LocalAgent.Session
import HMaigc.LocalAgent.Contracts
import HMaigc.LocalAgent.Consume
import HMaigc.LocalAgent.Turns
import HMaigc.LocalAgent.Threads
import HMaigc.LocalAgent.Bridge
import HMaigc.LocalAgent.Answering
import HMaigc.Billing.ProviderTaskID
import HMaigc.Agent.ArtifactHistory
import HMaigc.Project.Revision
import HMaigc.Project.Workflow
import HMaigc.Resource.UploadQuota
import HMaigc.Provider.Activation
import HMaigc.Agent.IdempotencyKey
import HMaigc.Canvas.TeamRoundTrip
import HMaigc.Ops.ProjectionRun
import HMaigc.Agent.TimelineRun
import HMaigc.Coordination.Slots
