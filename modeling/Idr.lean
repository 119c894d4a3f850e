import Idr.Lib.Except
import Idr.Lib.Steps
import Idr.Protocol.Reference
import Idr.Protocol.Json
import Idr.Protocol.Canonical
import Idr.Protocol.Utf
import Idr.Protocol.Map
import Idr.Protocol.Tree
import Idr.Protocol.Parse
import Idr.Protocol.RoundTrip
import Idr.Protocol.Limits
import Idr.Protocol.Languages
import Idr.Lib.SortedSet
import Idr.Protocol.Production
import Idr.Protocol.Agreement
import Idr.Protocol.Determines
import Idr.Protocol.Deserialize
import Idr.TrustChain.Types
import Idr.TrustChain.Command
import Idr.TrustChain.ProofTarget
import Idr.TrustChain.Reservation
import Idr.TrustChain.Guards
import Idr.TrustChain.Payload
import Idr.TrustChain.Issue
import Idr.TrustChain.Evaluate
import Idr.TrustChain.Closure
import Idr.TrustChain.Run
import Idr.TrustChain.Lifecycle
import Idr.TrustChain.Records
import Idr.TrustChain.HumanModel
import Idr.TrustChain.InFlight
import Idr.TrustChain.Provenance
import Idr.TrustChain.Dependencies
import Idr.TrustChain.Identity
import Idr.TrustChain.Basis
import Idr.TrustChain.Stored
import Idr.Store.ExecutionGuard
import Idr.Store.LineageGuard
import Idr.TrustChain.ClosedRuns
import Idr.Lib.Table
import Idr.Lib.Reach
import Idr.Lib.HashChain
import Idr.Authority.Rows
import Idr.Authority.Attestation
import Idr.Store.AttestedBoundary
import Idr.Authority.Proofs
import Idr.Authority.Persist
import Idr.Authority.Reads
import Idr.Authority.Transact
import Idr.Authority.Writes
import Idr.Authority.Commit
import Idr.Authority.Refinement
import Idr.Authority.Lineage
import Idr.Authority.ExactlyOnce
import Idr.Authority.IdempotencyScope
import Idr.Authority.Withdrawal
import Idr.Authority.CurrentLineage
import Idr.Authority.ProofBinding
import Idr.Authority.Promotion
import Idr.Authority.ResponseSend
import Idr.Authority.Revocation
import Idr.Authority.ExecutionRows
import Idr.HumanCentered.Intent
import Idr.HumanCentered.Turn
import Idr.HumanCentered.Action
import Idr.HumanCentered.Receipt
import Idr.HumanCentered.Contract
import Idr.FileStore.Snapshot
import Idr.FileStore.Validate
import Idr.FileStore.Operations
import Idr.FileStore.Currency
import Idr.HumanCentered.Proof
import Idr.HumanCentered.Schedule
import Idr.HumanCentered.TrustRoot
import Idr.TrustChain.TurnGraph
import Idr.Orchestrator.Step
import Idr.AegisLife.ExportApproval
import Idr.AegisLife.HostProjection
import Idr.AegisLife.Intake
import Idr.AegisLife.Observation
import Idr.Authority.Outbox
import Idr.Authority.EffectiveAssertions
import Idr.Authority.Audit
