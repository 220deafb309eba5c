import AgentSphere.Contracts.Authority
import AgentSphere.Lib.Program
import AgentSphere.Ledger.Recovery

/-!
# Checks of the execution service

What the execution coordinator accepts from its callers and from its ports. Each validator
follows its source condition by condition; a condition that can itself fail, because a value has
no canonical JSON, stands where the source evaluates it.
-/

namespace AgentSphere.Execution

open Concurrency Ledger

def executionRequestSchema : String := "agenttrust.execution-request.v1"
def executionOutcomeSchema : String := "agenttrust.execution-outcome.v1"
def policySchemaVersion : String := "agenttrust.policy.v1"
def proxySchemaVersion : String := "agenttrust.proxy.v1"
def evidenceSchemaVersion : String := "agenttrust.evidence.v1"

structure ActionMaterializationRef where
  schemaVersion : String
  tenantId : String
  actionId : String
  payloadHash : String
  store : String
  uri : String
  deriving DecidableEq, Repr

structure ExecutionRequest where
  schemaVersion : String
  tenantId : String
  taskId : String
  actionId : String
  ingressDigest : String
  idempotencyKey : String
  actionMaterialization : ActionMaterializationRef
  deriving DecidableEq, Repr

structure ExecutionOutcome where
  schemaVersion : String
  tenantId : String
  taskId : String
  actionId : String
  ingressDigest : String
  idempotencyKey : String
  ledgerExecutionId : String
  fenceDigest : String
  status : ExecutionStatus
  outcomeDigest : String
  evidenceRefs : List String
  actionMaterialization : ActionMaterializationRef
  deriving DecidableEq, Repr

structure MaterializedAction where
  action : CanonicalAction
  actionHash : ActionHash
  ownerSubject : String
  traceId : String

structure PreApprovalOutcome where
  schemaVersion : String
  signedOutcome : SignedPreApprovalOutcome
  compensationPlan : Option CompensationPlan

inductive ExecutionError where
  | configuration
  | requestInvalid
  | materializationInvalid
  | authorizationDenied
  | dependencyUnavailable
  | dependencyResponseInvalid
  | activationUnavailable
  | evidenceInvalid
  | actionIr (code : String)
  | registry (code : String)
  | ledger (error : LedgerError)
  | evidence (code : String)
  deriving DecidableEq, Repr

/-- The fields that are hashed into `outcome_digest`. -/
structure OutcomeMaterial where
  executionId : String
  status : ExecutionStatus
  resultRef : Option String
  evidenceRefs : List String
  lastErrorCode : Option String
  fenceDigest : String
  deriving DecidableEq, Repr

inductive Document where
  | fence (fence : ExecutionFence)
  | arguments (arguments : StrictJsonObject)
  | approvalReceipt (receipt : ApprovalGrantReceipt)
  | compensationPlan (plan : CompensationPlan)
  | preApprovalRequest (request : PreApprovalRequest)
  | signedPreApproval (outcome : SignedPreApprovalOutcome)
  | factSnapshot (snapshot : AuthoritativeFactSnapshot)
  | policyInput (input : PolicyInput)
  | authorization (authorization : ExecutionAuthorization)
  | value (value : Value)
  | evidenceRequest (request : ExecutionEvidenceRequest)
  | outcome (material : OutcomeMaterial)
  | ledgerEvent (material : LedgerEventDigestMaterial)

/-- The two ways of hashing: `hex_digest` of a text, and of the canonical JSON of a document. -/
structure Codec where
  hexDigest : String → String
  /-- Nothing if `serde_jcs::to_vec` fails. -/
  digest? : Document → Option String

namespace Codec

variable (codec : Codec)

/-- `canonical_request_digest`, and with it `fence_digest`. -/
def digest (document : Document) : Except ExecutionError String :=
  match codec.digest? document with
  | some digest => .ok digest
  | none => .error .materializationInvalid

/-- The digest behind `status_event_fact`. -/
def eventDigest : EventDigest := fun material => codec.digest? (.ledgerEvent material)

def Total : Prop := ∀ document, (codec.digest? document).isSome

variable {codec} in
theorem Total.digest (h : codec.Total) (document : Document) :
    ∃ digest, codec.digest document = .ok digest := by
  obtain ⟨digest, hdigest⟩ := Option.isSome_iff_exists.mp (h document)
  exact ⟨digest, by simp [Codec.digest, hdigest]⟩

end Codec

structure ExecutionCoordinator where
  codec : Codec
  /-- `validate_schema_instance` on an input; an error is the code of a `RegistryError`. -/
  validateSchemaInstance : Value → Value → Except String Unit
  sourceService : String

def validateRequest (request : ExecutionRequest) : Except ExecutionError Unit :=
  if request.schemaVersion ≠ executionRequestSchema
      ∨ !isUuid request.tenantId ∨ !isUuid request.taskId ∨ !isUuid request.actionId
      ∨ !isDigest request.ingressDigest
      ∨ request.idempotencyKey.isEmpty ∨ request.idempotencyKey.utf8ByteSize > 128
      ∨ !isToken request.idempotencyKey
      ∨ request.actionMaterialization.schemaVersion ≠ "agenttrust.action-materialization-ref.v1"
      ∨ request.actionMaterialization.tenantId ≠ request.tenantId
      ∨ request.actionMaterialization.actionId ≠ request.actionId
      ∨ !isDigest request.actionMaterialization.payloadHash
      ∨ request.actionMaterialization.store ≠ "ORCHESTRATOR_INGRESS_POSTGRESQL"
      ∨ request.actionMaterialization.uri ≠
          "orchestrator-ingress://" ++ request.tenantId ++ "/" ++ request.actionId then
    .error .requestInvalid
  else
    .ok ()

-- The policy enforcement point

def policyInputOf (action : CanonicalAction) (tool : ResolvedToolSnapshot)
    (facts : AuthoritativeFactSnapshot) (priorApprovals : List String) :
    Except ExecutionError PolicyInput :=
  match facts.identitySubject, facts.budgetRemainingMicrounits, facts.trajectoryRiskVersion,
      facts.accumulatedResources, facts.anomalyScoreMillionths with
  | some identitySubject, some budgetRemainingMicrounits, some version,
      some accumulatedResources, some anomalyScoreMillionths =>
    match toPolicyInput action tool.policySnapshot
        { identitySubject, priorApprovals, budgetRemainingMicrounits }
        { version, accumulatedResources, anomalyScoreMillionths } with
    | some input => .ok input
    | none => .error (.actionIr "ACTION_IR_POLICY_INPUT_FAILED")
  | _, _, _, _, _ => .error .authorizationDenied

def approvalRequiredBy (tool : ResolvedToolSnapshot) (decision : PolicyDecision) : Bool :=
  tool.approvalProfile ≠ "none" || decision.decision = .requireApproval ||
    decision.obligations.any fun obligation =>
      match obligation with
      | .requireApproval _ => true
      | _ => false

/-- `canonical_digest` of a fact snapshot: its own digest is left out. -/
def snapshotDigest (codec : Codec) (facts : AuthoritativeFactSnapshot) : Option String :=
  codec.digest? (.factSnapshot { facts with snapshotDigest := "" })

/-- `validate_preapproval`, with the instant at which it reads the clock. -/
def validatePreapproval (codec : Codec) (value : PreApprovalOutcome)
    (request : PreApprovalRequest) (materialized : MaterializedAction)
    (tool : ResolvedToolSnapshot) (now : DateTime) : Except ExecutionError Unit := do
  let signed := value.signedOutcome
  let facts := signed.factSnapshot
  if signed.decision.decision ∈ [.deny, .pause, .kill] then
    throw .authorizationDenied
  if !facts.requireVerified then
    throw .authorizationDenied
  let input ← policyInputOf materialized.action tool facts []
  let some expectedInputHash := codec.digest? (.policyInput input)
    | throw .dependencyResponseInvalid
  let expectedPlanDigest ← match value.compensationPlan with
    | some plan => some <$> codec.digest (.compensationPlan plan)
    | none => pure none
  if value.schemaVersion ≠ "agenttrust.pre-approval-envelope.v1"
      ∨ request.schemaVersion ≠ "agenttrust.pre-approval-request.v1"
      ∨ signed.stage ≠ .preApproval
      ∨ signed.tenantId ≠ materialized.action.environment.tenantId
      ∨ signed.taskId ≠ materialized.action.taskId
      ∨ signed.stepId ≠ materialized.action.stepId
      ∨ signed.actionHash ≠ request.actionHash
      ∨ signed.toolId ≠ tool.toolId
      ∨ signed.toolVersion ≠ tool.toolVersion
      ∨ signed.toolSnapshotHash ≠ tool.snapshotHash
      ∨ signed.idempotencyKey ≠ request.idempotencyKey then
    throw .dependencyResponseInvalid
  let requestDigest ← codec.digest (.preApprovalRequest request)
  if signed.requestDigest ≠ requestDigest
      ∨ signed.factSnapshotDigest ≠ facts.snapshotDigest
      ∨ signed.executionPlanDigest ≠ expectedPlanDigest
      ∨ signed.approvalRequired ≠ approvalRequiredBy tool signed.decision
      ∨ signed.decision.schemaVersion ≠ policySchemaVersion
      ∨ signed.schemaVersion ≠ "agenttrust.pre-approval-outcome.v1"
      ∨ signed.keyUsage ≠ "PEP_PRE_APPROVAL"
      ∨ signed.signature.isEmpty
      ∨ signed.decision.inputHash ≠ expectedInputHash
      ∨ (signed.decision.decision ≠ .allow ∧ signed.decision.decision ≠ .requireApproval)
      ∨ signed.decision.decisionId.isEmpty
      ∨ signed.decision.policyVersion.isEmpty
      ∨ !isDigest signed.decision.policyBundleHash
      ∨ facts.identitySubject ≠ some materialized.ownerSubject
      ∨ facts.resourceStateVersion ≠ some materialized.action.resourceVersion
      ∨ (eqIgnoreAsciiCase materialized.action.environment.deployment "production" ∧
          facts.identityUsesDevVerifier ≠ some false)
      ∨ now < signed.decision.evaluatedAt
      ∨ now ≥ signed.decision.expiresAt then
    throw .dependencyResponseInvalid

/-- The part of `validate_authorization` that concerns the credential. -/
def credentialOk (codec : Codec) (value : PreExecutionAuthorization) : Bool :=
  let authorization := value.authorization
  let credential := value.credentialBindingReceipt
  let claims := credential.claims
  isDigest authorization.workloadCredentialClaimsDigest &&
    authorization.workloadCredentialAudience = "tool-proxy" &&
    credential.schemaVersion = "agenttrust.credential-binding-receipt.v1" &&
    credential.keyUsage = "WORKLOAD_CREDENTIAL_BINDING" &&
    !credential.signature.isEmpty &&
    credential.credentialHandleSha256 = codec.hexDigest value.workloadCredential &&
    credential.claimsDigest = authorization.workloadCredentialClaimsDigest &&
    claims.credentialId = authorization.workloadCredentialId &&
    claims.tenantId = authorization.tenantId &&
    claims.agentInstanceId = authorization.agentInstanceId &&
    claims.taskId = authorization.taskId &&
    claims.stepId = authorization.stepId &&
    claims.actionHash = authorization.actionHash &&
    claims.policyDecisionId = authorization.policyDecisionId &&
    claims.toolId = authorization.toolId &&
    claims.credentialProfile = authorization.credentialProfile &&
    claims.operation = authorization.operation &&
    claims.resource = authorization.resource &&
    claims.targetProfile = authorization.targetProfile &&
    claims.audience = authorization.workloadCredentialAudience &&
    claims.revocationEpoch = authorization.workloadCredentialRevocationEpoch &&
    authorization.expiresAt ≤ claims.expiresAt &&
    claims.maxUses = 1

def validateAuthorization (codec : Codec) (value : PreExecutionAuthorization)
    (request : FinalAuthorizationRequest) (materialized : MaterializedAction)
    (tool : ResolvedToolSnapshot) : Except ExecutionError Unit := do
  let some expectedPolicyInputHash := codec.digest? (.policyInput request.policyInput)
    | throw .authorizationDenied
  let authorization := value.authorization
  if value.schemaVersion ≠ "agenttrust.pre-execution-authorization.v1"
      ∨ authorization.schemaVersion ≠ "agenttrust.execution-authorization.v2"
      ∨ authorization.keyUsage ≠ "PEP_EXECUTION_AUTHORIZATION"
      ∨ authorization.tenantId ≠ materialized.action.environment.tenantId
      ∨ authorization.taskId ≠ materialized.action.taskId
      ∨ authorization.stepId ≠ materialized.action.stepId
      ∨ authorization.agentInstanceId ≠ materialized.action.agent.agentInstanceId
      ∨ authorization.actionHash ≠ materialized.actionHash
      ∨ authorization.toolId ≠ tool.toolId
      ∨ authorization.toolVersion ≠ tool.toolVersion
      ∨ authorization.toolSnapshotHash ≠ tool.snapshotHash
      ∨ authorization.implementationDigest ≠ tool.implementation.digest
      ∨ authorization.executorProfile ≠ tool.executorProfile
      ∨ authorization.operation ≠ materialized.action.intent.operation
      ∨ authorization.resource ≠ materialized.action.resource.locator then
    throw .authorizationDenied
  let argumentsHash ← codec.digest (.arguments materialized.action.arguments)
  if authorization.canonicalArgumentsHash ≠ argumentsHash
      ∨ authorization.targetProfile ≠ value.targetProfile
      ∨ authorization.environment ≠ materialized.action.environment.deployment
      ∨ authorization.idempotencyKey ≠ request.idempotencyKey
      ∨ authorization.ledgerExecutionId ≠ request.ledgerExecutionId
      ∨ authorization.ledgerEventId ≠ request.ledgerEventId
      ∨ authorization.ledgerEventDigest ≠ request.ledgerEventDigest
      ∨ authorization.fenceDigest ≠ request.fenceDigest
      ∨ authorization.policyVersion ≠ request.preapproval.decision.policyVersion
      ∨ authorization.policyBundleHash ≠ request.preapproval.decision.policyBundleHash
      ∨ authorization.policyInputHash ≠ expectedPolicyInputHash then
    throw .authorizationDenied
  let preapprovalDigest ← codec.digest (.signedPreApproval request.preapproval)
  if authorization.preapprovalDigest ≠ preapprovalDigest
      ∨ authorization.approvalIds ≠ (request.approval.map (·.approvalId)).toList
      ∨ authorization.approvalConsumptionRef ≠ request.approvalConsumptionRef
      ∨ authorization.approvalReceiptDigest ≠ request.approvalReceiptDigest
      ∨ authorization.resourceVersion ≠ materialized.action.resourceVersion
      ∨ authorization.sandboxProfile.isEmpty
      ∨ authorization.networkProfile ≠ tool.networkProfileRef
      ∨ authorization.credentialProfile ≠ tool.credentialProfile
      ∨ !credentialOk codec value
      ∨ authorization.maxExecutionMs = 0
      ∨ authorization.maxExecutionMs > tool.limits.timeoutMs
      ∨ authorization.maxResultBytes = 0
      ∨ authorization.maxResultBytes > tool.limits.maxResultBytes
      ∨ !authorization.singleUse
      ∨ value.tool ≠ tool
      ∨ value.approval ≠ request.approval
      ∨ value.workloadCredential.isEmpty
      ∨ value.targetProfile.isEmpty then
    throw .authorizationDenied

theorem validateAuthorization_actionHash {codec : Codec} {value : PreExecutionAuthorization}
    {request : FinalAuthorizationRequest} {materialized : MaterializedAction}
    {tool : ResolvedToolSnapshot}
    (h : validateAuthorization codec value request materialized tool = .ok ()) :
    value.authorization.actionHash = materialized.actionHash := by
  by_contra hother
  unfold validateAuthorization at h
  split at h
  · simp only at h
    split_ifs at h with hshape
    · cases h
    · exact hshape (by simp [hother])
  · cases h

-- Results, evidence and outcomes

def consumptionMatches (receipt : SignedWorkloadCredentialConsumptionReceipt)
    (authorization : ExecutionAuthorization) (tenantId : TenantId) (actionHash : ActionHash) :
    Bool :=
  receipt.schemaVersion = "agenttrust.credential-consumption-receipt.v1" &&
    receipt.keyUsage = "WORKLOAD_CREDENTIAL_CONSUMPTION" &&
    receipt.idempotencyKey = "credential-consume:" ++ authorization.authorizationId &&
    receipt.credentialId = authorization.workloadCredentialId &&
    receipt.tenantId = tenantId &&
    receipt.actionHash = actionHash &&
    receipt.audience = authorization.workloadCredentialAudience &&
    receipt.revocationEpoch = authorization.workloadCredentialRevocationEpoch &&
    receipt.claimsDigest = authorization.workloadCredentialClaimsDigest &&
    isUuid receipt.consumptionId && isDigest receipt.scopeDigest &&
    receipt.remainingUses = 0 && !receipt.issuer.isEmpty && !receipt.keyId.isEmpty &&
    !receipt.signature.isEmpty

def toolResultValid (codec : Codec) (result : SanitizedToolResult)
    (authorization : ExecutionAuthorization) (tenantId : TenantId) (actionHash : ActionHash) :
    Except ExecutionError Bool :=
  if result.schemaVersion ≠ proxySchemaVersion ∨ !isDigest result.resultHash then
    .ok false
  else
    (codec.digest (.value result.value)).map fun valueHash =>
      valueHash = result.resultHash &&
        consumptionMatches result.credentialConsumptionReceipt authorization tenantId actionHash

def validateEvidence (codec : Codec) (value : ExecutionEvidenceReceipt)
    (request : ExecutionEvidenceRequest) : Except ExecutionError Unit := do
  if value.schemaVersion ≠ "agenttrust.execution-evidence-receipt.v1"
      ∨ value.keyUsage ≠ "EVIDENCE_EXECUTION_RECEIPT"
      ∨ value.tenantId ≠ request.tenantId
      ∨ value.taskId ≠ request.taskId
      ∨ value.stepId ≠ request.stepId
      ∨ value.executionId ≠ request.executionId
      ∨ value.actionHash ≠ request.actionHash
      ∨ value.authorizationId ≠ request.authorizationId
      ∨ value.authorizationDigest ≠ request.authorizationDigest
      ∨ value.fenceDigest ≠ request.fenceDigest
      ∨ value.idempotencyKey ≠ request.idempotencyKey then
    throw .evidenceInvalid
  let requestDigest ← codec.digest (.evidenceRequest request)
  if value.requestDigest ≠ requestDigest
      ∨ value.resultHash ≠ request.result.resultHash
      ∨ value.chainHead ≠ value.event.eventHash
      ∨ value.evidenceRef ≠ value.expectedEvidenceRef
      ∨ value.evidenceRef.utf8ByteSize > 2048
      ∨ value.event.schemaVersion ≠ evidenceSchemaVersion
      ∨ !isUuid value.event.eventId
      ∨ value.event.sequence = 0
      ∨ !isDigest value.event.previousHash
      ∨ value.event.draft ≠ request.event
      ∨ !isDigest value.event.eventHash
      ∨ value.event.signature.isEmpty then
    throw .evidenceInvalid

/-- `outcome_from_record`. -/
def outcomeOfRecord (codec : Codec) (request : ExecutionRequest) (record : ExecutionRecord)
    (fenceDigest ledgerRef : String) : Except ExecutionError ExecutionOutcome := do
  let evidenceRefs := ledgerRef ::
    (record.evidenceRef.filter (fun reference => reference ≠ ledgerRef)).toList
  let outcomeDigest ← codec.digest <| .outcome
    { executionId := record.executionId, status := record.status, resultRef := record.resultRef
      evidenceRefs, lastErrorCode := record.lastErrorCode, fenceDigest }
  pure
    { schemaVersion := executionOutcomeSchema, tenantId := request.tenantId
      taskId := request.taskId, actionId := request.actionId
      ingressDigest := request.ingressDigest, idempotencyKey := request.idempotencyKey
      ledgerExecutionId := record.executionId, fenceDigest, status := record.status
      outcomeDigest, evidenceRefs, actionMaterialization := request.actionMaterialization }

end AgentSphere.Execution
