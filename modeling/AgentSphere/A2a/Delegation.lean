import AgentSphere.A2a.Basic
import AgentSphere.Lib.Ports
import AgentSphere.Orchestrator.Leases
import Mathlib.Data.Finset.Basic

/-!
# Delegation

`DelegationLimiter` signs tokens: a root within an authorization lease, and children within their
parents. It counts the calls that are left for each token, and a child's calls are taken from those
of its parent. Tokens are revoked one by one, by their task or by the epoch of their tenant.

The limiter works on its own memory. Every access is made under a lock, and that is one call here;
between two accesses of one operation any others may happen.

Who presents a token presents one that was handed out, or one whose signature is not good. A drawn
identifier has never been drawn before.
-/

namespace AgentSphere.A2a

open Concurrency Attempt

structure DelegationEnvelope where
  schemaVersion : SchemaVersion
  parentAgent : AgentInstanceId
  childAgent : AgentInstanceId
  delegatedTools : Finset ToolRef
  delegatedResources : Finset String
  budgetCeilingMicrounits : Nat
  expiry : DateTime
  deriving DecidableEq

def DelegationEnvelope.isWithin (envelope : DelegationEnvelope)
    (parent : Orchestrator.AuthorizationLease) : Prop :=
  envelope.delegatedTools ⊆ parent.allowedTools.toFinset ∧
    (∀ resource ∈ envelope.delegatedResources, resource ∈ parent.allowedResources) ∧
    envelope.expiry ≤ parent.validUntil

instance (envelope : DelegationEnvelope) (parent : Orchestrator.AuthorizationLease) :
    Decidable (envelope.isWithin parent) :=
  inferInstanceAs (Decidable (_ ∧ _ ∧ _))

structure DelegationToken where
  schemaVersion : SchemaVersion
  tokenId : String
  tenantId : TenantId
  rootTaskId : TaskId
  parentTaskId : TaskId
  parentStepId : StepId
  envelope : DelegationEnvelope
  depth : Nat
  maximumDepth : Nat
  remainingCalls : Nat
  parentTokenId : Option String
  revocationEpoch : Nat
  issuer : String
  keyId : String
  signature : String
  deriving DecidableEq

structure TokenCodec (Bytes : Type) where
  /-- `serde_jcs::to_vec` of a token. -/
  tokenJcs : DelegationToken → Option Bytes
  sign : Bytes → String
  /-- Whether a text reads as a signature of the bytes. -/
  verifies : Bytes → String → Bool

structure DelegationLimiter where
  issuer : String
  keyId : String
  named : issuer ≠ "" ∧ keyId ≠ ""

def DelegationLimiter.new (issuer keyId : String) : Except A2aError DelegationLimiter :=
  if named : issuer ≠ "" ∧ keyId ≠ "" then .ok ⟨issuer, keyId, named⟩
  else .error .configurationInvalid

-- Memory

structure DelegationState where
  revokedTokens : Finset String
  revokedTasks : Finset TaskId
  remainingCalls : BTreeMap String Nat
  epochByTenant : BTreeMap TenantId Nat

namespace DelegationState

def empty : DelegationState := ⟨∅, ∅, ∅, ∅⟩

def currentEpoch (state : DelegationState) (tenantId : TenantId) : Nat :=
  state.epochByTenant[tenantId]?.getD 0

/-- The end of `sign_token`. -/
def insertCounter (state : DelegationState) (token : DelegationToken) : DelegationState :=
  { state with remainingCalls := state.remainingCalls.insert token.tokenId token.remainingCalls }

/-- What `verify` looks up. -/
def isRevoked (state : DelegationState) (token : DelegationToken) : Bool :=
  token.tokenId ∈ state.revokedTokens || token.rootTaskId ∈ state.revokedTasks ||
    token.revocationEpoch < state.currentEpoch token.tenantId

/-- The end of `issue_child`: the calls of a child are taken from those of its parent. -/
def reserve (state : DelegationState) (parentTokenId : String) (token : DelegationToken) :
    Except A2aError Unit × DelegationState :=
  match state.remainingCalls[parentTokenId]? with
  | none => (.error .revoked, state)
  | some remaining =>
    if remaining < token.remainingCalls then
      (.error .budgetExceeded,
        { state with remainingCalls := state.remainingCalls.erase token.tokenId })
    else
      (.ok (), { state with
        remainingCalls :=
          state.remainingCalls.insert parentTokenId (remaining - token.remainingCalls) })

/-- The end of `consume_call`. -/
def consume (state : DelegationState) (token : DelegationToken) :
    Except A2aError Nat × DelegationState :=
  match state.remainingCalls[token.tokenId]? with
  | none => (.error .revoked, state)
  | some remaining =>
    if remaining = 0 then (.error .budgetExceeded, state)
    else
      (.ok (remaining - 1),
        { state with remainingCalls := state.remainingCalls.insert token.tokenId (remaining - 1) })

def revokeToken (state : DelegationState) (tokenId : String) : DelegationState :=
  { state with revokedTokens := insert tokenId state.revokedTokens }

def revokeRootTask (state : DelegationState) (taskId : TaskId) : DelegationState :=
  { state with revokedTasks := insert taskId state.revokedTasks }

def nextEpoch (state : DelegationState) (tenant : TenantId) : Nat :=
  (state.currentEpoch tenant + 1) % 2 ^ 64

def bumpTenantEpoch (state : DelegationState) (tenant : TenantId) : DelegationState :=
  { state with epochByTenant := state.epochByTenant.insert tenant (state.nextEpoch tenant) }

end DelegationState

-- Operations

inductive Warrant where
  | lease (lease : Orchestrator.AuthorizationLease)
  | parent (token : DelegationToken)

inductive LimiterCall where
  | present
  | utcNow
  | newUuid
  | currentEpoch (tenantId : TenantId)
  | insertCounter (warrant : Warrant) (token : DelegationToken)
  | isRevoked (token : DelegationToken)
  | reserve (parentTokenId : String) (token : DelegationToken)
  | consume (token : DelegationToken)
  | revokeToken (tokenId : String)
  | revokeRootTask (taskId : TaskId)
  | bumpTenantEpoch (tenant : TenantId)

abbrev LimiterCall.Answer : LimiterCall → Type
  | .present => DelegationToken
  | .utcNow => DateTime
  | .newUuid => String
  | .currentEpoch _ => Nat
  | .isRevoked _ => Bool
  | .reserve .. => Except A2aError Unit
  | .consume _ => Except A2aError Nat
  | .bumpTenantEpoch _ => Nat
  | .insertCounter .. | .revokeToken _ | .revokeRootTask _ => Unit

abbrev Limiting := Attempt A2aError LimiterCall LimiterCall.Answer

namespace DelegationLimiter

variable {Bytes : Type} (codec : TokenCodec Bytes) (limiter : DelegationLimiter)

def signed (token : DelegationToken) : Except A2aError DelegationToken :=
  match codec.tokenJcs { token with signature := "" } with
  | some bytes => .ok { token with signature := codec.sign bytes }
  | none => .error .tokenInvalid

def checkSignature (token : DelegationToken) : Except A2aError Unit :=
  match codec.tokenJcs { token with signature := "" } with
  | some bytes => require (codec.verifies bytes token.signature = true) .tokenInvalid
  | none => .error .tokenInvalid

/-- The token that `sign_token` puts together. -/
def unsignedToken (tokenId : String) (epoch : Nat) (tenantId : TenantId)
    (rootTaskId parentTaskId : TaskId) (parentStepId : StepId) (envelope : DelegationEnvelope)
    (depth maximumDepth remainingCalls : Nat) (parentTokenId : Option String) :
    DelegationToken where
  schemaVersion := a2aSchemaVersion
  tokenId := tokenId
  tenantId := tenantId
  rootTaskId := rootTaskId
  parentTaskId := parentTaskId
  parentStepId := parentStepId
  envelope := envelope
  depth := depth
  maximumDepth := maximumDepth
  remainingCalls := remainingCalls
  parentTokenId := parentTokenId
  revocationEpoch := epoch
  issuer := limiter.issuer
  keyId := limiter.keyId
  signature := ""

def signToken (warrant : Warrant) (tenantId : TenantId) (rootTaskId parentTaskId : TaskId)
    (parentStepId : StepId) (envelope : DelegationEnvelope)
    (depth maximumDepth remainingCalls : Nat) (parentTokenId : Option String) :
    Limiting DelegationToken := do
  let epoch ← ask (.currentEpoch tenantId)
  let tokenId ← ask .newUuid
  let token ← Attempt.ofExcept
    (signed codec (limiter.unsignedToken tokenId epoch tenantId rootTaskId
    parentTaskId parentStepId envelope depth maximumDepth remainingCalls parentTokenId))
  let _ ← ask (.insertCounter warrant token)
  pure token

def issueRoot (tenantId : TenantId) (rootTaskId : TaskId) (parentStepId : StepId)
    (envelope : DelegationEnvelope) (parentLease : Orchestrator.AuthorizationLease)
    (maximumDepth maximumCalls : Nat) : Limiting DelegationToken := do
  ensure (maximumDepth ≠ 0 ∧ maximumCalls ≠ 0 ∧ envelope.isWithin parentLease ∧
    envelope.parentAgent ≠ envelope.childAgent) .scopeExceeded
  limiter.signToken codec (.lease parentLease) tenantId rootTaskId rootTaskId parentStepId envelope
    1 maximumDepth maximumCalls none

def verify (token : DelegationToken) (now : DateTime) : Limiting Unit := do
  ensure (token.issuer = limiter.issuer ∧ token.keyId = limiter.keyId ∧ token.depth ≠ 0 ∧
    token.depth ≤ token.maximumDepth ∧ now < token.envelope.expiry) .tokenInvalid
  let revoked ← ask (.isRevoked token)
  ensure (revoked = false) .revoked
  Attempt.ofExcept (checkSignature codec token)

def childEnvelope (parent : DelegationToken) (childAgent : AgentInstanceId) (tools : Finset ToolRef)
    (resources : Finset String) (budgetCeilingMicrounits : Nat) (expiry : DateTime) :
    DelegationEnvelope where
  schemaVersion := parent.envelope.schemaVersion
  parentAgent := parent.envelope.childAgent
  childAgent := childAgent
  delegatedTools := tools
  delegatedResources := resources
  budgetCeilingMicrounits := budgetCeilingMicrounits
  expiry := expiry

def issueChild (parent : DelegationToken) (childAgent : AgentInstanceId) (tools : Finset ToolRef)
    (resources : Finset String) (budgetCeilingMicrounits : Nat) (expiry : DateTime)
    (maximumCalls : Nat) : Limiting DelegationToken := do
  let now ← ask .utcNow
  limiter.verify codec parent now
  ensure (parent.depth < parent.maximumDepth ∧ maximumCalls ≠ 0 ∧
    maximumCalls ≤ parent.remainingCalls ∧ tools ⊆ parent.envelope.delegatedTools ∧
    resources ⊆ parent.envelope.delegatedResources ∧
    budgetCeilingMicrounits ≤ parent.envelope.budgetCeilingMicrounits ∧
    expiry ≤ parent.envelope.expiry) .scopeExceeded
  let token ← limiter.signToken codec (.parent parent) parent.tenantId parent.rootTaskId
    parent.parentTaskId parent.parentStepId
    (childEnvelope parent childAgent tools resources budgetCeilingMicrounits expiry)
    (parent.depth + 1) parent.maximumDepth maximumCalls (some parent.tokenId)
  port (.reserve parent.tokenId token) id
  pure token

def consumeCall (token : DelegationToken) (now : DateTime) : Limiting Nat := do
  limiter.verify codec token now
  port (.consume token) id

end DelegationLimiter

-- Runs

/-- The memory of a limiter, and the identifiers that were drawn, the tokens that were signed and
those that were handed out so far. -/
structure Delegations where
  state : DelegationState
  drawn : Finset String
  signed : Finset DelegationToken
  issued : Finset DelegationToken

def Delegations.initial : Delegations := ⟨.empty, ∅, ∅, ∅⟩

def Delegations.draw (shared : Delegations) (tokenId : String) : Delegations :=
  { shared with drawn := insert tokenId shared.drawn }

def Delegations.sign (shared : Delegations) (warrant : Warrant) (token : DelegationToken) :
    Delegations where
  state := shared.state.insertCounter token
  drawn := shared.drawn
  signed := insert token shared.signed
  issued :=
    match warrant with
    | .lease _ => insert token shared.issued
    | .parent _ => shared.issued

def Delegations.reserve (shared : Delegations) (parentTokenId : String)
    (token : DelegationToken) : Delegations where
  state := (shared.state.reserve parentTokenId token).2
  drawn := shared.drawn
  signed := shared.signed
  issued :=
    match (shared.state.reserve parentTokenId token).1 with
    | .ok _ => insert token shared.issued
    | .error _ => shared.issued

def Delegations.serve {Bytes : Type} (codec : TokenCodec Bytes) (shared : Delegations) :
    (call : LimiterCall) → call.Answer → Delegations → Prop
  | .present, token, shared' =>
    (DelegationLimiter.checkSignature codec token = .ok () → token ∈ shared.issued) ∧
      shared' = shared
  | .utcNow, _, shared' => shared' = shared
  | .newUuid, tokenId, shared' =>
    tokenId ∉ shared.drawn ∧ shared' = shared.draw tokenId
  | .currentEpoch tenantId, epoch, shared' =>
    epoch = shared.state.currentEpoch tenantId ∧ shared' = shared
  | .insertCounter warrant token, _, shared' => shared' = shared.sign warrant token
  | .isRevoked token, revoked, shared' =>
    revoked = shared.state.isRevoked token ∧ shared' = shared
  | .reserve parentTokenId token, answer, shared' =>
    answer = (shared.state.reserve parentTokenId token).1 ∧
      shared' = shared.reserve parentTokenId token
  | .consume token, answer, shared' =>
    answer = (shared.state.consume token).1 ∧
      shared' = { shared with state := (shared.state.consume token).2 }
  | .revokeToken tokenId, _, shared' =>
    shared' = { shared with state := shared.state.revokeToken tokenId }
  | .revokeRootTask taskId, _, shared' =>
    shared' = { shared with state := shared.state.revokeRootTask taskId }
  | .bumpTenantEpoch tenant, epoch, shared' =>
    epoch = shared.state.nextEpoch tenant ∧
      shared' = { shared with state := shared.state.bumpTenantEpoch tenant }

inductive Reply where
  | token (token : DelegationToken)
  | verified
  | remaining (calls : Nat)
  | revoked
  | epoch (epoch : Nat)

abbrev LimiterEvent := Event Delegations LimiterCall LimiterCall.Answer

abbrev LimiterEntry := Entry LimiterCall LimiterCall.Answer

abbrev LimiterConfig := Config Delegations LimiterCall LimiterCall.Answer (Except A2aError Reply)

/-- The threads: the operations with any arguments. The instant that `verify` and `consume_call`
are given is the caller's. -/
inductive Caller {Bytes : Type} (codec : TokenCodec Bytes) (limiter : DelegationLimiter) :
    Program LimiterCall LimiterCall.Answer (Except A2aError Reply) → Prop where
  | issueRoot (tenantId : TenantId) (rootTaskId : TaskId) (parentStepId : StepId)
      (envelope : DelegationEnvelope) (parentLease : Orchestrator.AuthorizationLease)
      (maximumDepth maximumCalls : Nat) :
      Caller codec limiter (do
        let token ← limiter.issueRoot codec tenantId rootTaskId parentStepId envelope parentLease
          maximumDepth maximumCalls
        pure (.token token) : Limiting Reply).run
  | issueChild (childAgent : AgentInstanceId) (tools : Finset ToolRef) (resources : Finset String)
      (budgetCeilingMicrounits : Nat) (expiry : DateTime) (maximumCalls : Nat) :
      Caller codec limiter (do
        let parent ← ask .present
        let token ← limiter.issueChild codec parent childAgent tools resources
          budgetCeilingMicrounits expiry maximumCalls
        pure (.token token) : Limiting Reply).run
  | verify (now : DateTime) :
      Caller codec limiter (do
        let token ← ask .present
        limiter.verify codec token now
        pure .verified : Limiting Reply).run
  | consumeCall (now : DateTime) :
      Caller codec limiter (do
        let token ← ask .present
        let calls ← limiter.consumeCall codec token now
        pure (.remaining calls) : Limiting Reply).run
  | revokeToken (tokenId : String) :
      Caller codec limiter (do
        let _ ← ask (.revokeToken tokenId)
        pure .revoked : Limiting Reply).run
  | revokeRootTask (taskId : TaskId) :
      Caller codec limiter (do
        let _ ← ask (.revokeRootTask taskId)
        pure .revoked : Limiting Reply).run
  | bumpTenantEpoch (tenant : TenantId) :
      Caller codec limiter (do
        let epoch ← ask (.bumpTenantEpoch tenant)
        pure (.epoch epoch) : Limiting Reply).run

def delegations {Bytes : Type} (codec : TokenCodec Bytes) (limiter : DelegationLimiter) :
    System Delegations LimiterCall LimiterCall.Answer (Except A2aError Reply) where
  Serve := Delegations.serve codec
  Internal _ _ := False
  Start := Caller codec limiter

end AgentSphere.A2a
