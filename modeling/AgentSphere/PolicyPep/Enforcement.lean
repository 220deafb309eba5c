import AgentSphere.ActionIr.Normalization
import AgentSphere.Contracts.Authorization
import AgentSphere.Lib.History

/-!
# The policy enforcement point

`PolicyEnforcementPoint::enforce` as a program over the calls it makes: to the registry, to the
policy decision point, to the approval kernel and to the handler of runtime obligations. The local
guards come first, then the decision, then the approval, then the obligations, and only the
pre-execution stage ends with an authorization.

The approval kernel is shared by all requests; `verifyAndConsume` is its one operation, from one
set of used approvals to the next.
-/

namespace AgentSphere.PolicyPep

open Concurrency

def policySchemaVersion : String := "agenttrust.policy.v1"

structure ExecutionAuthorizationContext where
  ledgerExecutionId : ExecutionId
  ledgerEventId : String
  ledgerEventDigest : String
  fenceDigest : String
  targetProfile : String
  preapprovalDigest : String
  approvalConsumptionRef : Option String
  approvalReceiptDigest : Option String
  workloadCredentialId : String
  workloadCredentialClaimsDigest : String
  workloadCredentialAudience : String
  workloadCredentialRevocationEpoch : Nat

structure EnforcementRequest where
  stage : EnforcementStage
  action : CanonicalAction
  actionHash : ActionHash
  tool : ResolvedToolSnapshot
  policyInput : PolicyInput
  approval : Option MinimalApprovalGrant
  idempotencyKey : Option String
  executionContext : Option ExecutionAuthorizationContext
  identityUsesDevVerifier : Bool
  resourceStateFresh : Bool
  now : DateTime

structure EnforcementReceipt where
  obligationKind : String
  receiptHash : String
  enforcedAt : DateTime
  deriving DecidableEq

structure EnforcementContext where
  actionHash : ActionHash
  stage : EnforcementStage
  now : DateTime

inductive PolicyError where
  | localGuardDenied
  | pdpUnavailable
  | decisionInvalid
  | inputHashMismatch
  | unknownObligation
  | obligationFailed
  | approvalRequired
  | approvalMismatch
  | resourceStateStale
  | registryRevoked
  | executionAuthInvalid
  | failClosed
  /-- Not an error of the source: an instant beyond the range of `chrono` panics. -/
  | panicked
  deriving DecidableEq, Repr

inductive EnforcementOutcome where
  | denied (decision : PolicyDecision)
  | preApprovalPassed (decision : PolicyDecision) (receipts : List EnforcementReceipt)
  | approvalRequired (decision : PolicyDecision)
  | executionAuthorized (decision : PolicyDecision) (authorization : ExecutionAuthorization)
      (receipts : List EnforcementReceipt)
  | pauseRequired (decision : PolicyDecision) (receipts : List EnforcementReceipt)
  | killRequired (decision : PolicyDecision) (receipts : List EnforcementReceipt)

namespace MinimalApprovalKernel

def matchesRequest (grant : MinimalApprovalGrant) (request : EnforcementRequest)
    (policyVersion : PolicyVersion) : Bool :=
  request.now < grant.expiresAt && grant.actionHash = request.actionHash &&
    grant.resourceVersion = request.action.currentStateVersion.getD "" &&
    grant.policyVersion = policyVersion && grant.taskId = request.action.taskId &&
    grant.stepId = request.action.stepId

/-- `verify_and_consume`, with the approvals that were used before and after it. -/
def verifyAndConsume (used : BTreeSet String) (grant : MinimalApprovalGrant)
    (request : EnforcementRequest) (policyVersion : PolicyVersion) :
    Except PolicyError Unit × BTreeSet String :=
  if !matchesRequest grant request policyVersion then (.error .approvalMismatch, used)
  else if grant.singleUse then
    if used.contains grant.approvalId then (.error .approvalMismatch, used)
    else (.ok (), used.insert grant.approvalId)
  else (.ok (), used)

end MinimalApprovalKernel

-- Calls

inductive PolicyCall where
  | isRevoked (tool : ToolRef) (digest : String)
  | validateArguments (tool : ResolvedToolSnapshot) (arguments : StrictJsonObject)
  | evaluate (input : PolicyInput) (stage : EnforcementStage)
  | verifyAndConsume (grant : MinimalApprovalGrant) (request : EnforcementRequest)
      (policyVersion : PolicyVersion)
  | handle (obligation : Obligation) (context : EnforcementContext)
  | newUuid

abbrev PolicyCall.Answer : PolicyCall → Type
  | .isRevoked .. => Option Bool
  | .validateArguments .. => Bool
  | .evaluate .. => Except PolicyError PolicyDecision
  | .verifyAndConsume .. => Except PolicyError Unit
  | .handle .. => Except PolicyError EnforcementReceipt
  | .newUuid => Uuid

abbrev PolicyEntry := Entry PolicyCall PolicyCall.Answer

/-- The registry, the decision point and the handler answer anything; the kernel answers what it
does from some set of used approvals. -/
def Served (entry : PolicyEntry) : Prop :=
  match entry with
  | ⟨.verifyAndConsume grant request policyVersion, answer⟩ =>
    ∃ used, answer =
      (MinimalApprovalKernel.verifyAndConsume used grant request policyVersion).1
  | _ => True

abbrev Enforcing := Attempt PolicyError PolicyCall PolicyCall.Answer

def ask (call : PolicyCall) : Enforcing call.Answer := ExceptT.lift (Program.call call)

def port {α : Type} (call : PolicyCall) (read : call.Answer → Except PolicyError α) :
    Enforcing α := do
  let answer ← ask call
  Attempt.ofExcept (read answer)

-- Decisions and obligations

inductive PolicyDocument where
  | policyInput (input : PolicyInput)
  | decision (decision : PolicyDecision)
  | arguments (arguments : StrictJsonObject)

structure PolicyEnforcementPoint (Bytes : Type) where
  issuer : String
  keyId : String
  activePolicyBundleDigest : String
  /-- Whether there is a handler for runtime obligations. -/
  hasRuntimeHandler : Bool
  canon : ActionIr.Canon Bytes ActionHash
  authorizations : AuthorizationCodec Bytes
  /-- `serde_jcs::to_vec` of a document. -/
  jcs : PolicyDocument → Option Bytes
  asBytes : String → Bytes

def validatePolicyDecision (decision : PolicyDecision) (inputHash : String) (now : DateTime)
    (activeBundleDigest : String) : Except PolicyError Unit :=
  require (decision.schemaVersion = policySchemaVersion ∧ decision.inputHash = inputHash ∧
    decision.evaluatedAt ≤ now ∧ now < decision.expiresAt ∧
    decision.policyBundleHash = activeBundleDigest) .decisionInvalid

def approvalRequired (tool : ResolvedToolSnapshot) (decision : PolicyDecision) : Bool :=
  decision.decision = .requireApproval ||
    (decision.obligations.any fun obligation =>
      match obligation with
      | .requireApproval _ => true
      | _ => false) ||
    tool.approvalProfile ≠ "none"

def obligationName : Obligation → String
  | .requireApproval _ => "REQUIRE_APPROVAL"
  | .useSandboxProfile _ => "USE_SANDBOX_PROFILE"
  | .useNetworkProfile _ => "USE_NETWORK_PROFILE"
  | .useFilesystemProfile _ => "USE_FILESYSTEM_PROFILE"
  | .useCredentialProfile _ => "USE_CREDENTIAL_PROFILE"
  | .maxExecutionTime _ => "MAX_EXECUTION_TIME"
  | .maxResultBytes _ => "MAX_RESULT_BYTES"
  | .redactFields _ => "REDACT_FIELDS"
  | .requireFreshResourceState => "REQUIRE_FRESH_RESOURCE_STATE"
  | .requireResourceVersion => "REQUIRE_RESOURCE_VERSION"
  | .requireSimulation => "REQUIRE_SIMULATION"
  | .pauseTask => "PAUSE_TASK"
  | .killTask => "KILL_TASK"
  | .emitSecurityAlert _ => "EMIT_SECURITY_ALERT"
  | .setRetryLimit _ => "SET_RETRY_LIMIT"
  | .requireEvaluator _ => "REQUIRE_EVALUATOR"

def isRuntime : Obligation → Bool
  | .pauseTask | .killTask | .emitSecurityAlert _ => true
  | _ => false

def stateVersion (request : EnforcementRequest) : String :=
  request.action.currentStateVersion.getD ""

def unmet (request : EnforcementRequest) : Obligation → Option PolicyError
  | .requireSimulation =>
    if request.action.environment.simulation then none else some .obligationFailed
  | .requireFreshResourceState =>
    if request.resourceStateFresh then none else some .resourceStateStale
  | .requireResourceVersion =>
    if (stateVersion request).isEmpty then some .resourceStateStale else none
  | _ => none

/-- The name `{:?}` prints. -/
def stageDebug : EnforcementStage → String
  | .preApproval => "PreApproval"
  | .preExecution => "PreExecution"
  | .continuous => "Continuous"

structure ObligationConfig where
  sandboxProfile : String
  networkProfile : String
  credentialProfile : String
  maxExecutionMs : Nat
  maxResultBytes : Nat

namespace ObligationConfig

def ofTool (tool : ResolvedToolSnapshot) : ObligationConfig where
  sandboxProfile := tool.executorProfile
  networkProfile := tool.networkProfileRef
  credentialProfile := tool.credentialProfile
  maxExecutionMs := tool.limits.timeoutMs
  maxResultBytes := tool.limits.maxResultBytes

def apply (config : ObligationConfig) : Obligation → ObligationConfig
  | .useSandboxProfile profile => { config with sandboxProfile := profile }
  | .useNetworkProfile profile => { config with networkProfile := profile }
  | .useCredentialProfile profile => { config with credentialProfile := profile }
  | .maxExecutionTime milliseconds =>
    { config with maxExecutionMs := min config.maxExecutionMs milliseconds }
  | .maxResultBytes bytes => { config with maxResultBytes := min config.maxResultBytes bytes }
  | _ => config

def fromObligations (obligations : List Obligation) (tool : ResolvedToolSnapshot) :
    ObligationConfig :=
  obligations.foldl apply (ofTool tool)

end ObligationConfig

namespace PolicyEnforcementPoint

variable {Bytes : Type} (self : PolicyEnforcementPoint Bytes)

def documentHash (document : PolicyDocument) (error : PolicyError) : Except PolicyError String :=
  match self.jcs document with
  | some bytes => .ok (self.canon.sha256Hex bytes)
  | none => .error error

def policyInputHash (input : PolicyInput) : Except PolicyError String :=
  self.documentHash (.policyInput input) .decisionInvalid

def receipt (kind : String) (context : EnforcementContext) : EnforcementReceipt where
  obligationKind := kind
  receiptHash := self.canon.sha256Hex
    (self.asBytes (kind ++ ":" ++ context.actionHash ++ ":" ++ stageDebug context.stage))
  enforcedAt := context.now

-- Local guards

def contextOk (context : ExecutionAuthorizationContext) : Bool :=
  isUuid context.ledgerExecutionId && isUuid context.ledgerEventId &&
    isDigest context.ledgerEventDigest && isDigest context.fenceDigest &&
    isDigest context.preapprovalDigest && boundedNonempty context.targetProfile 256 &&
    isUuid context.workloadCredentialId && isDigest context.workloadCredentialClaimsDigest &&
    context.workloadCredentialAudience = "tool-proxy" &&
    context.approvalReceiptDigest.all isDigest &&
    context.approvalConsumptionRef.all (boundedNonempty · 2048)

def requestGuard (request : EnforcementRequest) : Except PolicyError Unit := do
  require ((request.stage = .preExecution) ↔ request.executionContext.isSome)
    PolicyError.localGuardDenied
  require (request.executionContext.all contextOk) PolicyError.executionAuthInvalid
  require (request.stage = .preExecution → request.idempotencyKey.any validIdempotencyKey)
    PolicyError.localGuardDenied
  let hash ← (ActionIr.hash self.canon request.action).mapError
    fun _ => PolicyError.localGuardDenied
  require (hash = request.actionHash) PolicyError.inputHashMismatch
  require (request.action.environment.tenantId = request.action.agent.tenantId ∧
    request.action.resource.tenantId = request.action.environment.tenantId)
    PolicyError.localGuardDenied
  require (¬ (eqIgnoreAsciiCase request.action.environment.deployment "production" ∧
    request.identityUsesDevVerifier)) PolicyError.localGuardDenied

def toolGuard (request : EnforcementRequest) : Except PolicyError Unit := do
  require (request.tool.effectClass ≠ .pure → !(request.idempotencyKey.getD "").isEmpty)
    PolicyError.localGuardDenied
  require (RiskLevel.high.rank ≤ request.tool.riskLevel.rank →
    request.resourceStateFresh ∧ !(stateVersion request).isEmpty) PolicyError.resourceStateStale
  require (¬ (request.tool.effectClass = .irreversible ∧ request.tool.approvalProfile = "none"))
    PolicyError.localGuardDenied
  require (!request.action.credentialRefs.any fun reference => reference.profile = "inline")
    PolicyError.localGuardDenied

def notRevoked : Option Bool → Except PolicyError Unit
  | some false => .ok ()
  | _ => .error .registryRevoked

def localHardGuard (request : EnforcementRequest) : Enforcing Unit := do
  Attempt.ofExcept (self.requestGuard request)
  port (.isRevoked request.action.tool request.tool.implementation.digest) notRevoked
  port (.validateArguments request.tool request.action.arguments)
    fun valid => require (valid = true) PolicyError.localGuardDenied
  Attempt.ofExcept (toolGuard request)

-- Enforcement

def contextOf (request : EnforcementRequest) : EnforcementContext where
  actionHash := request.actionHash
  stage := request.stage
  now := request.now

/-- One obligation of `enforce_obligations`. -/
def enforceObligation (request : EnforcementRequest) (obligation : Obligation) :
    Enforcing EnforcementReceipt := do
  if isRuntime obligation then
    Attempt.ensure (self.hasRuntimeHandler = true) .obligationFailed
    port (.handle obligation (contextOf request)) id
  else
    match unmet request obligation with
    | some error => throw error
    | none => pure (self.receipt (obligationName obligation) (contextOf request))

def enforceObligations (request : EnforcementRequest) :
    List Obligation → Enforcing (List EnforcementReceipt)
  | [] => pure []
  | obligation :: obligations => do
    let receipt ← self.enforceObligation request obligation
    let receipts ← enforceObligations request obligations
    pure (receipt :: receipts)

def approvalBound (request : EnforcementRequest) (context : ExecutionAuthorizationContext) :
    Bool :=
  request.approval.isSome =
      (context.approvalConsumptionRef.isSome && context.approvalReceiptDigest.isSome) &&
    context.approvalConsumptionRef.isSome = context.approvalReceiptDigest.isSome

def draftAuthorization (request : EnforcementRequest) (decision : PolicyDecision)
    (context : ExecutionAuthorizationContext) (idempotencyKey authorizationId argumentsHash
      decisionDigest : String) (expiresAt : DateTime) : ExecutionAuthorization :=
  let obligations := ObligationConfig.fromObligations decision.obligations request.tool
  { schemaVersion := executionAuthorizationSchemaVersion
    authorizationId
    tenantId := request.action.environment.tenantId
    taskId := request.action.taskId
    stepId := request.action.stepId
    agentInstanceId := request.action.agent.agentInstanceId
    actionHash := request.actionHash
    toolId := request.tool.toolId
    toolVersion := request.tool.toolVersion
    toolSnapshotHash := request.tool.snapshotHash
    implementationDigest := request.tool.implementation.digest
    executorProfile := request.tool.executorProfile
    operation := request.action.intent.operation
    resource := request.action.resource.locator
    canonicalArgumentsHash := argumentsHash
    targetProfile := context.targetProfile
    environment := request.action.environment.deployment
    idempotencyKey
    ledgerExecutionId := context.ledgerExecutionId
    ledgerEventId := context.ledgerEventId
    ledgerEventDigest := context.ledgerEventDigest
    fenceDigest := context.fenceDigest
    policyDecisionId := decision.decisionId
    policyDecisionDigest := decisionDigest
    policyVersion := decision.policyVersion
    policyBundleHash := decision.policyBundleHash
    policyInputHash := decision.inputHash
    authorizationEvidenceRef := ""
    authorizationEvidenceDigest := ""
    preapprovalDigest := context.preapprovalDigest
    approvalIds := request.approval.toList.map (·.approvalId)
    approvalConsumptionRef := context.approvalConsumptionRef
    approvalReceiptDigest := context.approvalReceiptDigest
    resourceVersion := request.action.resourceVersion
    sandboxProfile := obligations.sandboxProfile
    networkProfile := obligations.networkProfile
    credentialProfile := obligations.credentialProfile
    workloadCredentialId := context.workloadCredentialId
    workloadCredentialClaimsDigest := context.workloadCredentialClaimsDigest
    workloadCredentialAudience := context.workloadCredentialAudience
    workloadCredentialRevocationEpoch := context.workloadCredentialRevocationEpoch
    maxExecutionMs := min obligations.maxExecutionMs request.tool.limits.timeoutMs
    maxResultBytes := min obligations.maxResultBytes request.tool.limits.maxResultBytes
    issuedAt := request.now
    expiresAt
    singleUse := true
    issuer := self.issuer
    keyId := self.keyId
    keyUsage := pepExecutionAuthorizationKeyUsage
    signature := "" }

/-- `now + 60 s`. -/
def expiryOf (request : EnforcementRequest) : Except PolicyError DateTime :=
  match request.now.add (60 * 1000000000) with
  | some expiresAt => .ok expiresAt
  | none => .error .panicked

def authorizationContext (request : EnforcementRequest) :
    Except PolicyError (ExecutionAuthorizationContext × String) := do
  let some context := request.executionContext
    | throw PolicyError.executionAuthInvalid
  let some idempotencyKey := request.idempotencyKey.filter (!·.isEmpty)
    | throw PolicyError.executionAuthInvalid
  require (approvalBound request context) PolicyError.executionAuthInvalid
  pure (context, idempotencyKey)

def issueExecutionAuthorization (request : EnforcementRequest) (decision : PolicyDecision) :
    Enforcing ExecutionAuthorization := do
  let (context, idempotencyKey) ← Attempt.ofExcept (authorizationContext request)
  let expiresAt ← Attempt.ofExcept (expiryOf request)
  let authorizationId ← ask .newUuid
  let argumentsHash ← Attempt.ofExcept
    (self.documentHash (.arguments request.action.arguments) .executionAuthInvalid)
  let decisionDigest ← Attempt.ofExcept
    (self.documentHash (.decision decision) .executionAuthInvalid)
  let draft := self.draftAuthorization request decision context idempotencyKey
    authorizationId.toStr argumentsHash decisionDigest expiresAt
  let bound ← Attempt.ofExcept
    ((draft.bindEvidence self.authorizations).mapError fun _ => .executionAuthInvalid)
  Attempt.ofExcept ((bound.sign self.authorizations).mapError fun _ => .executionAuthInvalid)

def consumeApproval (request : EnforcementRequest) (decision : PolicyDecision) : Enforcing Unit :=
  if approvalRequired request.tool decision then
    match request.approval with
    | none => throw .approvalRequired
    | some grant => port (.verifyAndConsume grant request decision.policyVersion) id
  else pure ()

def enforceExecution (request : EnforcementRequest) (decision : PolicyDecision) :
    Enforcing EnforcementOutcome := do
  consumeApproval request decision
  Attempt.ensure (decision.decision = .allow ∨ decision.decision = .requireApproval) .failClosed
  let receipts ← self.enforceObligations request decision.obligations
  let authorization ← self.issueExecutionAuthorization request decision
  pure (.executionAuthorized decision authorization receipts)

def enforceStage (request : EnforcementRequest) (decision : PolicyDecision) :
    Enforcing EnforcementOutcome :=
  match request.stage with
  | .preApproval =>
    if approvalRequired request.tool decision then pure (.approvalRequired decision)
    else do
      let receipts ← self.enforceObligations request decision.obligations
      pure (.preApprovalPassed decision receipts)
  | .continuous => do
    let receipts ← self.enforceObligations request decision.obligations
    match decision.decision with
    | .pause => pure (.pauseRequired decision receipts)
    | .kill => pure (.killRequired decision receipts)
    | .allow => pure (.preApprovalPassed decision receipts)
    | _ => throw .failClosed
  | .preExecution => self.enforceExecution request decision

def enforce (request : EnforcementRequest) : Enforcing EnforcementOutcome := do
  self.localHardGuard request
  let inputHash ← Attempt.ofExcept (self.policyInputHash request.policyInput)
  let decision ← port (.evaluate request.policyInput request.stage) id
  Attempt.ofExcept
    (validatePolicyDecision decision inputHash request.now self.activePolicyBundleDigest)
  if decision.decision = .deny then
    pure (.denied decision)
  else
    self.enforceStage request decision

end PolicyEnforcementPoint

end AgentSphere.PolicyPep
