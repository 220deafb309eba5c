import AgentSphere.Contracts.Basic

/-!
# Contracts of the execution path

The records that the execution service, the policy enforcement point, the approval authority,
the credential broker, the tool proxy and the evidence authority exchange. Maps of JSON values
are lists in key order. What is compared as a whole derives its equality.
-/

namespace AgentSphere

inductive RiskLevel where
  | low
  | medium
  | high
  | critical
  deriving DecidableEq

namespace RiskLevel

def rank : RiskLevel → Nat
  | low => 0
  | medium => 1
  | high => 2
  | critical => 3

def max (a b : RiskLevel) : RiskLevel := if a.rank ≤ b.rank then b else a

end RiskLevel

inductive Decision where
  | allow
  | deny
  | requireApproval
  | pause
  | kill
  deriving DecidableEq

inductive EnforcementStage where
  | preApproval
  | preExecution
  | continuous
  deriving DecidableEq

inductive DataClassification where
  | publicData
  | internal
  | confidential
  | restricted
  | regulated

abbrev StrictJsonObject := List (String × Value)

-- Actions and tools

structure AgentIdentity where
  schemaVersion : SchemaVersion
  agentType : String
  agentInstanceId : AgentInstanceId
  organizationId : String
  tenantId : TenantId
  ownerSubject : String
  modelProvider : String
  modelId : String
  agentVersion : String
  deploymentEnvironment : String
  trustLevel : String
  authContextRef : String
  issuedAt : DateTime
  expiresAt : DateTime

structure Intent where
  goalHash : String
  operation : String
  justificationCode : String
  safeSummary : Option String

structure TypedPayload where
  typeId : String
  schemaVersion : String
  data : StrictJsonObject

structure ResourceSelector where
  scheme : String
  tenantId : TenantId
  locator : String
  version : Option ResourceVersion

structure ExecutionEnvironment where
  tenantId : TenantId
  deployment : String
  region : String
  zone : Option String
  simulation : Bool

structure RiskContext where
  declaredRisk : RiskLevel
  trajectoryRiskRef : Option String
  scopeDelta : Nat
  automationAllowed : Bool

structure DataContext where
  classification : DataClassification
  jurisdiction : String
  exportConstraints : List String

structure ExpectedOutcome where
  metric : String
  operator : String
  target : Value

structure CredentialRef where
  profile : String
  resourcePrefix : String
  operations : List String

structure CanonicalAction where
  schemaVersion : SchemaVersion
  actionId : ActionId
  taskId : TaskId
  stepId : StepId
  agent : AgentIdentity
  intent : Intent
  tool : ToolRef
  payload : TypedPayload
  resource : ResourceSelector
  environment : ExecutionEnvironment
  currentStateVersion : Option String
  risk : RiskContext
  data : DataContext
  expectedOutcome : ExpectedOutcome
  credentialRefs : List CredentialRef
  requestedAt : DateTime
  extensions : List (String × Value)

namespace CanonicalAction

def arguments (action : CanonicalAction) : StrictJsonObject := action.payload.data

/-- The admitted plan, `extensions.x-plan-hash`, if it is a string. -/
def planHash (action : CanonicalAction) : Option String :=
  (action.extensions.lookup "x-plan-hash").bind Value.asStr

def resourceVersion (action : CanonicalAction) : String :=
  ((action.currentStateVersion).or action.resource.version).getD "unversioned-read"

end CanonicalAction

structure CompensationBinding where
  tool : ToolRef
  preconditionKind : String
  deriving DecidableEq

structure ToolLimits where
  timeoutMs : Nat
  maxResultBytes : Nat
  deriving DecidableEq

inductive ImplementationKind where
  | wasmComponent
  | ociContainer
  | internalService
  | httpProxy
  | mcpServer
  | industrialGateway
  deriving DecidableEq

structure ToolImplementation where
  kind : ImplementationKind
  digest : String
  executorId : String
  deriving DecidableEq

structure ResolvedToolSnapshot where
  schemaVersion : String
  toolId : ToolId
  toolVersion : ToolVersion
  schemaHash : String
  manifestHash : String
  effectClass : EffectClass
  riskLevel : RiskLevel
  executorProfile : String
  credentialProfile : String
  approvalProfile : String
  compensation : Option CompensationBinding
  limits : ToolLimits
  networkProfileRef : String
  filesystemProfileRef : String
  implementation : ToolImplementation
  registryRevision : Nat
  resolvedAt : DateTime
  snapshotHash : String
  inputSchema : Value
  outputSchema : Value
  deriving DecidableEq

structure RegistryPolicySnapshot where
  snapshotHash : String
  toolId : String
  toolVersion : String
  risk : RiskLevel
  effect : EffectClass
  implementationDigest : String

def ResolvedToolSnapshot.policySnapshot (tool : ResolvedToolSnapshot) :
    RegistryPolicySnapshot where
  snapshotHash := tool.snapshotHash
  toolId := tool.toolId
  toolVersion := tool.toolVersion
  risk := tool.riskLevel
  effect := tool.effectClass
  implementationDigest := tool.implementation.digest

structure RuntimeContext where
  identitySubject : String
  priorApprovals : List String
  budgetRemainingMicrounits : Nat

structure TrajectoryRiskSnapshot where
  version : String
  accumulatedResources : List String
  anomalyScoreMillionths : Nat

structure PolicyInput where
  subject : AgentIdentity
  intent : Intent
  tool : RegistryPolicySnapshot
  arguments : StrictJsonObject
  resource : ResourceSelector
  environment : ExecutionEnvironment
  currentStateVersion : Option String
  executionPlanHash : Option String
  dataClassification : DataClassification
  trajectoryRisk : TrajectoryRiskSnapshot
  registrySnapshotHash : String
  runtime : RuntimeContext

/-- `to_policy_input`; it fails when the action and the snapshot name different tools. -/
def toPolicyInput (action : CanonicalAction) (registry : RegistryPolicySnapshot)
    (runtime : RuntimeContext) (trajectory : TrajectoryRiskSnapshot) : Option PolicyInput :=
  if action.tool.toolId ≠ registry.toolId ∨ action.tool.toolVersion ≠ registry.toolVersion then
    none
  else
    some
      { subject := action.agent, intent := action.intent, tool := registry
        arguments := action.payload.data, resource := action.resource
        environment := action.environment, currentStateVersion := action.currentStateVersion
        executionPlanHash := action.planHash, dataClassification := action.data.classification
        trajectoryRisk := trajectory, registrySnapshotHash := registry.snapshotHash, runtime }

-- Policy decisions, facts and approvals

inductive Obligation where
  | requireApproval (dual : Bool)
  | useSandboxProfile (profile : String)
  | useNetworkProfile (profile : String)
  | useFilesystemProfile (profile : String)
  | useCredentialProfile (profile : String)
  | maxExecutionTime (milliseconds : Nat)
  | maxResultBytes (bytes : Nat)
  | redactFields (fields : List String)
  | requireFreshResourceState
  | requireResourceVersion
  | requireSimulation
  | pauseTask
  | killTask
  | emitSecurityAlert (code : String)
  | setRetryLimit (count : Nat)
  | requireEvaluator (evaluator : String)

structure PolicyDecision where
  schemaVersion : SchemaVersion
  decisionId : String
  decision : Decision
  reasonCodes : List String
  policyVersion : PolicyVersion
  policyBundleHash : String
  inputHash : String
  evaluatedAt : DateTime
  expiresAt : DateTime
  obligations : List Obligation
  riskSummary : RiskLevel

inductive AuthoritativeFactKind where
  | identity
  | resourceState
  | budget
  | trajectoryRisk
  | registry
  | environment
  deriving DecidableEq

inductive AuthoritativeFactStatus where
  | verified
  | unknown
  | stale
  | error
  deriving DecidableEq

structure AuthoritativeFactRef where
  kind : AuthoritativeFactKind
  status : AuthoritativeFactStatus
  uri : String
  digest : String
  version : String
  observedAt : DateTime
  validUntil : DateTime

structure AuthoritativeFactSnapshot where
  schemaVersion : SchemaVersion
  tenantId : TenantId
  actionHash : ActionHash
  identitySubject : Option String
  identityUsesDevVerifier : Option Bool
  identityRevocationEpoch : Option Nat
  resourceStateVersion : Option ResourceVersion
  resourceStateFresh : Option Bool
  budgetRemainingMicrounits : Option Nat
  trajectoryRiskVersion : Option String
  accumulatedResources : Option (List String)
  anomalyScoreMillionths : Option Nat
  factRefs : List AuthoritativeFactRef
  capturedAt : DateTime
  expiresAt : DateTime
  snapshotDigest : String

def boundedNonempty (value : String) (maximum : Nat) : Bool :=
  !value.isEmpty && value.utf8ByteSize ≤ maximum

namespace AuthoritativeFactSnapshot

def factRefsOk (snapshot : AuthoritativeFactSnapshot) : Bool :=
  decide (snapshot.factRefs.map (·.kind)).Nodup &&
    snapshot.factRefs.all fun fact =>
      !fact.uri.isEmpty && fact.uri.utf8ByteSize ≤ 2048 && isDigest fact.digest &&
        !fact.version.isEmpty && fact.version.utf8ByteSize ≤ 256 &&
        fact.observedAt ≤ snapshot.capturedAt && snapshot.expiresAt ≤ fact.validUntil

/-- `validate_integrity`, given the canonical digest of the snapshot without its own digest. -/
def validateIntegrity (snapshot : AuthoritativeFactSnapshot) (canonicalDigest : Option String)
    (now : DateTime) : Bool :=
  snapshot.schemaVersion = "agenttrust.authoritative-fact-snapshot.v1" &&
    (Uuid.parseStr snapshot.tenantId).isSome && isDigest snapshot.actionHash &&
    isDigest snapshot.snapshotDigest && canonicalDigest = some snapshot.snapshotDigest &&
    snapshot.capturedAt ≤ now && now < snapshot.expiresAt &&
    !snapshot.factRefs.isEmpty && snapshot.factRefs.length ≤ 64 &&
    snapshot.identitySubject.all (boundedNonempty · 512) &&
    snapshot.resourceStateVersion.all (boundedNonempty · 256) &&
    snapshot.trajectoryRiskVersion.all (boundedNonempty · 256) &&
    snapshot.accumulatedResources.all (fun resources =>
      resources.length ≤ 4096 && resources.all (boundedNonempty · 2048)) &&
    snapshot.anomalyScoreMillionths.all (· ≤ 1000000) && snapshot.factRefsOk

def requireVerified (snapshot : AuthoritativeFactSnapshot) : Bool :=
  [.identity, .resourceState, .budget, .trajectoryRisk, .registry, .environment].all
      (fun kind => snapshot.factRefs.any fun fact => fact.status = .verified && fact.kind = kind) &&
    snapshot.identitySubject.any (!·.isEmpty) && snapshot.identityUsesDevVerifier.isSome &&
    snapshot.identityRevocationEpoch.isSome && snapshot.resourceStateVersion.any (!·.isEmpty) &&
    snapshot.resourceStateFresh.isSome && snapshot.budgetRemainingMicrounits.isSome &&
    snapshot.trajectoryRiskVersion.any (!·.isEmpty) && snapshot.accumulatedResources.isSome &&
    snapshot.anomalyScoreMillionths.isSome

end AuthoritativeFactSnapshot

structure SignedPreApprovalOutcome where
  schemaVersion : SchemaVersion
  tenantId : TenantId
  taskId : TaskId
  stepId : StepId
  actionHash : ActionHash
  toolId : ToolId
  toolVersion : ToolVersion
  toolSnapshotHash : String
  stage : EnforcementStage
  idempotencyKey : IdempotencyKey
  requestDigest : String
  factSnapshot : AuthoritativeFactSnapshot
  factSnapshotDigest : String
  executionPlanDigest : Option String
  approvalRequired : Bool
  decision : PolicyDecision
  issuedAt : DateTime
  expiresAt : DateTime
  issuer : String
  keyId : String
  keyUsage : String
  signature : String

structure PreApprovalRequest where
  schemaVersion : String
  action : CanonicalAction
  actionHash : ActionHash
  tool : ResolvedToolSnapshot
  idempotencyKey : String
  requestedAt : DateTime

structure MinimalApprovalGrant where
  schemaVersion : SchemaVersion
  approvalId : ApprovalId
  taskId : TaskId
  stepId : StepId
  actionHash : ActionHash
  resourceVersion : ResourceVersion
  policyVersion : PolicyVersion
  approverSubject : String
  approverRoles : List String
  expiresAt : DateTime
  singleUse : Bool
  deriving DecidableEq

structure EnterpriseApprovalGrant where
  schemaVersion : SchemaVersion
  grantId : ApprovalId
  caseId : String
  tenantId : TenantId
  taskId : TaskId
  stepId : StepId
  actionHash : ActionHash
  planHash : String
  parameterHash : String
  resource : String
  resourceVersion : ResourceVersion
  policyVersion : PolicyVersion
  environment : String
  maximumRisk : RiskLevel
  approverSubjects : List String
  issuedAt : DateTime
  expiresAt : DateTime
  maximumUses : Nat
  breakGlass : Bool
  issuer : String
  keyId : String
  signature : String
  deriving DecidableEq

structure ApprovalGrantRequest where
  schemaVersion : String
  tenantId : String
  taskId : String
  stepId : String
  actionHash : String
  planHash : String
  parameterHash : String
  resource : String
  resourceVersion : String
  policyVersion : String
  environment : String
  maximumRisk : RiskLevel

structure ApprovalGrantReceipt where
  schemaVersion : String
  grant : EnterpriseApprovalGrant
  consumedAt : DateTime
  remainingUses : Nat
  consumptionRef : String

structure FinalAuthorizationRequest where
  schemaVersion : String
  stage : EnforcementStage
  action : CanonicalAction
  actionHash : ActionHash
  tool : ResolvedToolSnapshot
  policyInput : PolicyInput
  preapproval : SignedPreApprovalOutcome
  approval : Option MinimalApprovalGrant
  approvalConsumptionRef : Option String
  approvalReceiptDigest : Option String
  ledgerExecutionId : ExecutionId
  ledgerEventId : String
  ledgerEventDigest : String
  fenceDigest : String
  idempotencyKey : String
  requestedAt : DateTime

-- Authorizations and credentials

structure ExecutionAuthorization where
  schemaVersion : SchemaVersion
  authorizationId : String
  tenantId : TenantId
  taskId : TaskId
  stepId : StepId
  agentInstanceId : AgentInstanceId
  actionHash : ActionHash
  toolId : ToolId
  toolVersion : ToolVersion
  toolSnapshotHash : String
  implementationDigest : String
  executorProfile : String
  operation : String
  resource : String
  canonicalArgumentsHash : String
  targetProfile : String
  environment : String
  idempotencyKey : IdempotencyKey
  ledgerExecutionId : ExecutionId
  ledgerEventId : String
  ledgerEventDigest : String
  fenceDigest : String
  policyDecisionId : String
  policyDecisionDigest : String
  policyVersion : PolicyVersion
  policyBundleHash : String
  policyInputHash : String
  authorizationEvidenceRef : String
  authorizationEvidenceDigest : String
  preapprovalDigest : String
  approvalIds : List ApprovalId
  approvalConsumptionRef : Option String
  approvalReceiptDigest : Option String
  resourceVersion : ResourceVersion
  sandboxProfile : String
  networkProfile : String
  credentialProfile : String
  workloadCredentialId : String
  workloadCredentialClaimsDigest : String
  workloadCredentialAudience : String
  workloadCredentialRevocationEpoch : Nat
  maxExecutionMs : Nat
  maxResultBytes : Nat
  issuedAt : DateTime
  expiresAt : DateTime
  singleUse : Bool
  issuer : String
  keyId : String
  keyUsage : String
  signature : String

structure WorkloadCredentialClaims where
  schemaVersion : String
  idempotencyKey : IdempotencyKey
  credentialId : String
  tenantId : TenantId
  agentInstanceId : AgentInstanceId
  taskId : TaskId
  stepId : StepId
  actionHash : ActionHash
  policyDecisionId : String
  toolId : ToolId
  credentialProfile : String
  operation : String
  resource : String
  targetProfile : String
  audience : String
  revocationEpoch : Nat
  issuedAt : DateTime
  expiresAt : DateTime
  maxUses : Nat

structure SignedWorkloadCredentialBindingReceipt where
  schemaVersion : String
  credentialHandleSha256 : String
  claims : WorkloadCredentialClaims
  claimsDigest : String
  issuer : String
  keyId : String
  keyUsage : String
  signature : String

structure SignedWorkloadCredentialConsumptionReceipt where
  schemaVersion : String
  idempotencyKey : IdempotencyKey
  consumptionId : String
  credentialId : String
  tenantId : TenantId
  actionHash : ActionHash
  audience : String
  revocationEpoch : Nat
  claimsDigest : String
  scopeDigest : String
  consumedAt : DateTime
  remainingUses : Nat
  issuer : String
  keyId : String
  keyUsage : String
  signature : String

structure PreExecutionAuthorization where
  schemaVersion : String
  authorization : ExecutionAuthorization
  tool : ResolvedToolSnapshot
  workloadCredential : String
  credentialBindingReceipt : SignedWorkloadCredentialBindingReceipt
  targetProfile : String
  approval : Option MinimalApprovalGrant

-- Tool calls and evidence

structure AuthorizedToolRequest where
  authorization : ExecutionAuthorization
  tool : ResolvedToolSnapshot
  tenantId : TenantId
  ledgerExecutionId : ExecutionId
  ledgerEventId : String
  ledgerEventDigest : String
  fenceDigest : String
  idempotencyKey : IdempotencyKey
  workloadCredential : String
  credentialBindingReceipt : SignedWorkloadCredentialBindingReceipt
  operation : String
  resource : String
  resourceVersion : ResourceVersion
  targetProfile : String
  environment : String
  arguments : StrictJsonObject
  traceId : String

structure SanitizedToolResult where
  schemaVersion : String
  value : Value
  artifactRef : Option String
  redactedPaths : List String
  untrustedContent : Bool
  resultHash : String
  credentialConsumptionReceipt : SignedWorkloadCredentialConsumptionReceipt

inductive EvidenceEventType where
  | taskCreated
  | planGenerated
  | policyEvaluated
  | approvalDecision
  | approvalReviewPrepared
  | credentialIssued
  | toolPrepared
  | toolExecuted
  | compensation
  | evaluation
  | securityAlert
  | stateTransition
  | auditQuery
  | auditExport
  | legalHold
  | retentionDeletion
  deriving DecidableEq

structure EvidenceEventDraft where
  schemaVersion : String
  tenantId : TenantId
  taskId : TaskId
  eventType : EvidenceEventType
  actorSubject : String
  sourceService : String
  traceId : String
  spanId : String
  payloadHash : String
  safeSummary : String
  artifactRefs : List ArtifactRef
  occurredAt : DateTime
  deriving DecidableEq

structure SignedEvidenceEvent where
  schemaVersion : String
  eventId : String
  sequence : Nat
  previousHash : String
  eventHash : String
  keyId : String
  signature : String
  draft : EvidenceEventDraft

structure ExecutionEvidenceRequest where
  schemaVersion : String
  tenantId : TenantId
  taskId : TaskId
  stepId : StepId
  executionId : ExecutionId
  fenceDigest : String
  actionHash : ActionHash
  authorizationId : String
  authorizationDigest : String
  idempotencyKey : IdempotencyKey
  result : SanitizedToolResult
  event : EvidenceEventDraft

structure ExecutionEvidenceReceipt where
  schemaVersion : String
  tenantId : TenantId
  taskId : TaskId
  stepId : StepId
  executionId : ExecutionId
  actionHash : ActionHash
  authorizationId : String
  authorizationDigest : String
  fenceDigest : String
  idempotencyKey : IdempotencyKey
  requestDigest : String
  resultHash : String
  chainHead : String
  evidenceRef : String
  event : SignedEvidenceEvent
  persistedAt : DateTime
  issuer : String
  keyId : String
  keyUsage : String
  signature : String

def ExecutionEvidenceReceipt.expectedEvidenceRef (receipt : ExecutionEvidenceReceipt) : String :=
  "evidence://" ++ receipt.tenantId ++ "/" ++ receipt.taskId ++ "/" ++
    toString receipt.event.sequence ++ "/" ++ receipt.event.eventHash

end AgentSphere
