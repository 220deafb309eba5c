import AgentSphere.Contracts.Basic

/-!
# Sandboxes

The errors of sandbox control and the handles that name an execution.
-/

namespace AgentSphere.Sandbox

/-- The errors of controlling, leasing and collecting executions, of their budgets and of exporting
artifacts. -/
inductive SandboxError where
  | credentialInjectionFailed
  | leaseConflict
  | artifactDenied
  | artifactDlpDenied
  | resourceLimitInvalid
  | collectFailed
  | killFailed
  | cleanupIncomplete
  | orphaned
  | panicked
  deriving DecidableEq, Repr

structure ExecutionHandle where
  sandboxId : String
  executionId : ExecutionId
  actionHash : ActionHash
  deriving DecidableEq, Repr

end AgentSphere.Sandbox
