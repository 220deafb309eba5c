import AgentSphere.A2a.CallBudget
import AgentSphere.A2a.EventStream
import AgentSphere.A2a.Resumption
import AgentSphere.A2a.Revocation
import AgentSphere.A2a.TaskRuns
import AgentSphere.ActionIr.Canonical
import AgentSphere.ActionIr.Parsing
import AgentSphere.ActionIr.Secrets
import AgentSphere.Anomaly.Arrivals
import AgentSphere.Anomaly.Evasion
import AgentSphere.Approval.Duties
import AgentSphere.Approval.Issuance
import AgentSphere.Audit.Batches
import AgentSphere.Audit.Export
import AgentSphere.Audit.Ingest
import AgentSphere.Audit.Queries
import AgentSphere.Audit.Retention
import AgentSphere.Audit.Retries
import AgentSphere.Boundary.Exchange
import AgentSphere.Boundary.Failures
import AgentSphere.Contracts.Serde
import AgentSphere.DataGovernance.Dlp
import AgentSphere.DataGovernance.Export
import AgentSphere.DataGovernance.Policy
import AgentSphere.DomainPacks.Coding
import AgentSphere.DomainPacks.Setpoints
import AgentSphere.Evidence.Artifacts
import AgentSphere.Evidence.Evaluation
import AgentSphere.Execution.IngressDigest
import AgentSphere.Execution.Outcome
import AgentSphere.Gateway.EventStream
import AgentSphere.Gateway.Idempotency
import AgentSphere.Gateway.RateLimit
import AgentSphere.Gateway.Trace
import AgentSphere.Identity.Credentials
import AgentSphere.Identity.Tokens
import AgentSphere.IncidentRelease.Detections
import AgentSphere.IncidentRelease.Incidents
import AgentSphere.IncidentRelease.ReleaseGate
import AgentSphere.IncidentRelease.Snapshots
import AgentSphere.Industrial.Addresses
import AgentSphere.Industrial.Convergence
import AgentSphere.Industrial.Journal
import AgentSphere.Industrial.Stops
import AgentSphere.Ledger.Agreement
import AgentSphere.Ledger.Compensation
import AgentSphere.Ledger.CompensationRuns
import AgentSphere.Ledger.Outbox
import AgentSphere.Ledger.Sessions
import AgentSphere.Lib.Alone
import AgentSphere.Lib.HashChain
import AgentSphere.Lib.Lookups
import AgentSphere.Lib.ServerSentEvents
import AgentSphere.Lib.Versions
import AgentSphere.Mcp.Grants
import AgentSphere.Mcp.Refresh
import AgentSphere.Models.Accounting
import AgentSphere.Models.Billing
import AgentSphere.Models.Streaming
import AgentSphere.Orchestrator.Bindings
import AgentSphere.Orchestrator.Commands
import AgentSphere.Orchestrator.Creation
import AgentSphere.Orchestrator.Events
import AgentSphere.Orchestrator.EvidenceDigest
import AgentSphere.Orchestrator.Leases
import AgentSphere.Orchestrator.Replay
import AgentSphere.Packs.Artifacts
import AgentSphere.Packs.Installations
import AgentSphere.Packs.Manifests
import AgentSphere.PolicyAdministration.Simulation
import AgentSphere.PolicyPep.Consumption
import AgentSphere.PolicyPep.Verifiable
import AgentSphere.Posture.Assets
import AgentSphere.Posture.Relationships
import AgentSphere.Registry.Resolution
import AgentSphere.Registry.Semver
import AgentSphere.Sandbox.Artifacts
import AgentSphere.Sandbox.Budgets
import AgentSphere.Sandbox.Leases
import AgentSphere.Sandbox.Supervisor
import AgentSphere.ToolProxy.Authorization
import AgentSphere.ToolProxy.Calls
import AgentSphere.ToolProxy.PeerIdentity
import AgentSphere.ToolProxy.Redaction
import AgentSphere.ToolProxy.Runs
import AgentSphere.ToolProxy.Targets
