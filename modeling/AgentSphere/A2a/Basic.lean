import AgentSphere.Contracts.Basic

/-!
# Remote agents

What delegation, remote tasks and the event stream share.
-/

namespace AgentSphere.A2a

def a2aSchemaVersion : String := "agenttrust.a2a-agui.v1"

inductive A2aError where
  | configurationInvalid
  | agentCardInvalid
  | scopeExceeded
  | tokenInvalid
  | revoked
  | budgetExceeded
  | eventInvalid
  | capacityExceeded
  | resumeExpired
  | uiCannotAuthorize
  | persistenceUnavailable
  | taskInvalid
  | taskTransitionInvalid
  | protocolInvalid
  | remoteRejected
  | remoteOutcomeUnknown
  /-- No error of the source: an instant beyond the range of the clock ends the call. -/
  | panicked
  deriving DecidableEq, Repr

/-- `checked_add` of one to a number of 64 bits. -/
def checkedSucc (n : Nat) : Option Nat := if n + 1 < 2 ^ 64 then some (n + 1) else none

theorem checkedSucc_eq_some {n m : Nat} (h : checkedSucc n = some m) : m = n + 1 := by
  unfold checkedSucc at h
  split at h
  · exact (Option.some.inj h).symm
  · cases h

end AgentSphere.A2a
