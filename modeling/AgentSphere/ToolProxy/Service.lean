import AgentSphere.Lib.History
import AgentSphere.Registry.Manifest
import AgentSphere.ToolProxy.Store

/-!
# The tool proxy

`ProductionToolProxyService::execute` as a program over the calls it awaits: the row of the
request is prepared, everything that can be checked without a side effect is checked, the row is
marked, and only then the connector runs. Ports other than the store may answer anything.

`ProxyAuthorizationVerifier::verify` and the response filter read nothing but configuration; they
are taken as ports, too. The audit event that `run_prepared` returns beside its result goes to the
audit trail only and is left out.
-/

namespace AgentSphere.ToolProxy

open Concurrency

def maxTargetLeaseMs : Nat := 900000

def workloadCredentialConsumptionRequestSchemaVersion : String :=
  "agenttrust.credential-consumption-request.v1"

inductive ProxyError where
  | authorizationInvalid
  | authorizationReplayed
  | registryRevoked
  | registryUnavailable
  | argumentInvalid
  | outputInvalid
  | credentialScopeDenied
  | credentialAuthorityUnavailable
  | credentialAuthorityConfigurationInvalid
  | credentialReceiptInvalid
  | secretProviderUnavailable
  | secretProviderConfigurationInvalid
  | connectorInvalid
  | connectorFailed
  | targetDenied
  | ssrfDenied
  | pathTraversal
  | responseTooLarge
  | timeout
  | auditFailed
  deriving DecidableEq, Repr

def ProxyError.code : ProxyError → String
  | .authorizationInvalid => "PROXY_AUTHORIZATION_INVALID"
  | .authorizationReplayed => "PROXY_AUTHORIZATION_REPLAYED"
  | .registryRevoked => "PROXY_REGISTRY_REVOKED"
  | .registryUnavailable => "PROXY_REGISTRY_UNAVAILABLE"
  | .argumentInvalid => "PROXY_ARGUMENT_INVALID"
  | .outputInvalid => "PROXY_OUTPUT_INVALID"
  | .credentialScopeDenied => "PROXY_CREDENTIAL_SCOPE_DENIED"
  | .credentialAuthorityUnavailable => "PROXY_CREDENTIAL_AUTHORITY_UNAVAILABLE"
  | .credentialAuthorityConfigurationInvalid =>
    "PROXY_CREDENTIAL_AUTHORITY_CONFIGURATION_INVALID"
  | .credentialReceiptInvalid => "PROXY_CREDENTIAL_RECEIPT_INVALID"
  | .secretProviderUnavailable => "PROXY_SECRET_PROVIDER_UNAVAILABLE"
  | .secretProviderConfigurationInvalid => "PROXY_SECRET_PROVIDER_CONFIGURATION_INVALID"
  | .connectorInvalid => "PROXY_CONNECTOR_INVALID"
  | .connectorFailed => "PROXY_CONNECTOR_FAILED"
  | .targetDenied => "PROXY_TARGET_DENIED"
  | .ssrfDenied => "PROXY_SSRF_DENIED"
  | .pathTraversal => "PROXY_PATH_TRAVERSAL"
  | .responseTooLarge => "PROXY_RESPONSE_TOO_LARGE"
  | .timeout => "PROXY_TIMEOUT"
  | .auditFailed => "PROXY_AUDIT_FAILED"

/-- `deterministic_pre_side_effect` -/
def ProxyError.deterministic : ProxyError → Bool
  | .authorizationInvalid | .authorizationReplayed | .registryRevoked | .argumentInvalid
  | .credentialScopeDenied | .credentialReceiptInvalid | .connectorInvalid | .targetDenied
  | .ssrfDenied | .pathTraversal => true
  | _ => false

structure ConnectorContext where
  tenantId : TenantId
  actionHash : ActionHash
  authorizationId : String
  authorizationDigest : String
  policyDecisionId : String
  policyDecisionDigest : String
  authorizationEvidenceRef : String
  authorizationEvidenceDigest : String
  ledgerExecutionId : ExecutionId
  ledgerEventId : String
  ledgerEventDigest : String
  fenceDigest : String
  idempotencyKey : IdempotencyKey
  credentialProfile : String
  operation : String
  resource : String
  resourceVersion : ResourceVersion
  targetProfile : String
  traceId : String
  maxResponseBytes : Nat
  deadline : DateTime

structure RawToolResult where
  value : Value
  artifactRef : Option String

structure SecretLease where
  leaseId : String
  profile : String
  tenantId : TenantId
  target : String
  expiresAt : DateTime

structure WorkloadCredentialConsumptionRequest where
  schemaVersion : String
  idempotencyKey : IdempotencyKey
  credentialHandle : String
  bindingReceipt : SignedWorkloadCredentialBindingReceipt
  tenantId : TenantId
  agentInstanceId : AgentInstanceId
  taskId : TaskId
  stepId : StepId
  actionHash : ActionHash
  policyDecisionId : String
  toolId : ToolId
  credentialProfile : String
  operation : String
  resource : String
  targetProfile : String
  audience : String
  revocationEpoch : Nat
  claimsDigest : String

structure PreparedToolExecution where
  request : AuthorizedToolRequest
  context : ConnectorContext
  timeout : Nat
  credentialConsumptionReceipt : SignedWorkloadCredentialConsumptionReceipt

-- Calls

inductive ProxyCall where
  | utcNow
  | verifyAuthorization (request : AuthorizedToolRequest) (now : DateTime)
  | resolveExact (tenantId : TenantId) (tool : ToolRef)
  | isRevoked (tool : ToolRef) (digest : String)
  | validateArguments (tool : ResolvedToolSnapshot) (arguments : StrictJsonObject)
  | validateRequest (profile : String) (context : ConnectorContext) (arguments : StrictJsonObject)
  | consume (request : WorkloadCredentialConsumptionRequest) (now : DateTime)
  | lease (profile : String) (tenantId : TenantId) (target : String) (ttl : Nat)
  | revoke (leaseId : String)
  /-- `connector.execute`, cut off when its time is over. -/
  | connectorExecute (profile : String) (context : ConnectorContext)
      (arguments : StrictJsonObject) (lease : SecretLease) (remaining : Nat)
  | connectorVerify (profile : String) (context : ConnectorContext) (raw : RawToolResult)
  | filter (value : Value) (lease : SecretLease)
  | validateOutput (tool : ResolvedToolSnapshot) (value : Value)
  | store (call : StoreCall)

abbrev ProxyCall.Answer : ProxyCall → Type
  | .utcNow => DateTime
  | .verifyAuthorization .. | .validateRequest .. | .revoke _ | .connectorVerify .. =>
    Except ProxyError Unit
  | .resolveExact .. => Except Registry.RegistryError ResolvedToolSnapshot
  | .isRevoked .. => Except Registry.RegistryError Bool
  | .validateArguments .. | .validateOutput .. => Except Registry.RegistryError Unit
  | .consume .. => Except ProxyError SignedWorkloadCredentialConsumptionReceipt
  | .lease .. => Except ProxyError SecretLease
  | .connectorExecute .. => Except ProxyError RawToolResult
  | .filter .. => Except ProxyError (Value × List String × Bool)
  | .store call => Except ProductionProxyError call.Result

abbrev ProxyEntry := Entry ProxyCall ProxyCall.Answer

abbrev Proxying (ε : Type) := Attempt ε ProxyCall ProxyCall.Answer

namespace Proxying

variable {ε α : Type}

def ask (call : ProxyCall) : Proxying ε call.Answer := ExceptT.lift (Program.call call)

def port (call : ProxyCall) (read : call.Answer → Except ε α) : Proxying ε α := do
  let answer ← ask call
  Attempt.ofExcept (read answer)

def transaction (call : StoreCall) : Proxying ProductionProxyError call.Result :=
  port (.store call) id

def computed (value : Option α) (e : ε) : Proxying ε α :=
  Attempt.ofExcept (match value with
    | some a => .ok a
    | none => .error e)

end Proxying

open Proxying

/-- One replica, with the `ToolProxy` it owns. -/
structure ProductionToolProxyService where
  codec : ProxyCodec
  connectors : List String
  executionOwner : String

namespace ProductionToolProxyService

def registryRefusal : Registry.RegistryError → ProxyError
  | .toolNotFound | .toolRevoked | .versionNotActive => .registryRevoked
  | _ => .registryUnavailable

def contextFor (request : AuthorizedToolRequest) (authorizationDigest : String)
    (deadline : DateTime) : ConnectorContext where
  tenantId := request.tenantId
  actionHash := request.authorization.actionHash
  authorizationId := request.authorization.authorizationId
  authorizationDigest := authorizationDigest
  policyDecisionId := request.authorization.policyDecisionId
  policyDecisionDigest := request.authorization.policyDecisionDigest
  authorizationEvidenceRef := request.authorization.authorizationEvidenceRef
  authorizationEvidenceDigest := request.authorization.authorizationEvidenceDigest
  ledgerExecutionId := request.ledgerExecutionId
  ledgerEventId := request.ledgerEventId
  ledgerEventDigest := request.ledgerEventDigest
  fenceDigest := request.fenceDigest
  idempotencyKey := request.idempotencyKey
  credentialProfile := request.tool.credentialProfile
  operation := request.operation
  resource := request.resource
  resourceVersion := request.resourceVersion
  targetProfile := request.targetProfile
  traceId := request.traceId
  maxResponseBytes := min (min request.authorization.maxResultBytes
    request.tool.limits.maxResultBytes) maxProxyResponseBytes
  deadline := deadline

def credentialRequestFor (request : AuthorizedToolRequest) :
    WorkloadCredentialConsumptionRequest where
  schemaVersion := workloadCredentialConsumptionRequestSchemaVersion
  idempotencyKey := "credential-consume:" ++ request.authorization.authorizationId
  credentialHandle := request.workloadCredential
  bindingReceipt := request.credentialBindingReceipt
  tenantId := request.tenantId
  agentInstanceId := request.authorization.agentInstanceId
  taskId := request.authorization.taskId
  stepId := request.authorization.stepId
  actionHash := request.authorization.actionHash
  policyDecisionId := request.authorization.policyDecisionId
  toolId := request.authorization.toolId
  credentialProfile := request.authorization.credentialProfile
  operation := request.operation
  resource := request.resource
  targetProfile := request.targetProfile
  audience := request.authorization.workloadCredentialAudience
  revocationEpoch := request.authorization.workloadCredentialRevocationEpoch
  claimsDigest := request.authorization.workloadCredentialClaimsDigest

variable (service : ProductionToolProxyService)

def preflight (request : AuthorizedToolRequest) : Proxying ProxyError PreparedToolExecution := do
  let checkedAt ← ask .utcNow
  port (.verifyAuthorization request checkedAt) id
  let tool : ToolRef := ⟨request.tool.toolId, request.tool.toolVersion⟩
  let resolved ← port (.resolveExact request.tenantId tool) (Except.mapError registryRefusal)
  Attempt.ensure (resolved.snapshotHash = request.tool.snapshotHash) .authorizationInvalid
  let revoked ← port (.isRevoked tool request.tool.implementation.digest)
    (Except.mapError fun _ => .registryUnavailable)
  Attempt.ensure (revoked = false) .registryRevoked
  port (.validateArguments request.tool request.arguments)
    (Except.mapError fun _ => .argumentInvalid)
  Attempt.ensure (request.tool.executorProfile ∈ service.connectors) .connectorInvalid
  let remaining := request.authorization.expiresAt - checkedAt
  Attempt.ensure (0 ≤ remaining) .authorizationInvalid
  let allowedMs := min (min request.authorization.maxExecutionMs request.tool.limits.timeoutMs)
    maxTargetLeaseMs
  let timeout := min (allowedMs * 1000000) remaining.toNat
  Attempt.ensure (timeout ≠ 0) .authorizationInvalid
  let authorizationDigest ← computed (service.codec.authorizationDigest request.authorization)
    .authorizationInvalid
  let context := contextFor request authorizationDigest (checkedAt + timeout)
  port (.validateRequest request.tool.executorProfile context request.arguments) id
  let consumedAt ← ask .utcNow
  let receipt ← port (.consume (credentialRequestFor request) consumedAt) id
  let _ ← computed (service.codec.receiptDigest receipt) .credentialReceiptInvalid
  pure ⟨request, context, timeout, receipt⟩

/-- `revoke_secret_lease`: the second answer counts if the first is an error. -/
def revokeSecretLease (leaseId : String) : Proxying ProxyError (Except ProxyError Unit) := do
  match ← ask (.revoke leaseId) with
  | .ok _ => pure (.ok ())
  | .error _ => ask (.revoke leaseId)

def giveUp {α : Type} (leaseId : String) (e : ProxyError) : Proxying ProxyError α := do
  let _ ← revokeSecretLease leaseId
  throw e

def sanitize (prepared : PreparedToolExecution) (context : ConnectorContext) (lease : SecretLease)
    (raw : RawToolResult) : Proxying ProxyError SanitizedToolResult := do
  let request := prepared.request
  port (.connectorVerify request.tool.executorProfile context raw) id
  let rawSize ← computed (service.codec.valueSize raw.value) .outputInvalid
  Attempt.ensure (rawSize ≤ context.maxResponseBytes) .responseTooLarge
  Attempt.ensure (raw.artifactRef.all validateArtifactRef = true) .outputInvalid
  let (value, redactedPaths, untrustedContent) ← port (.filter raw.value lease) id
  port (.validateOutput request.tool value) (Except.mapError fun _ => .outputInvalid)
  let resultHash ← computed (service.codec.valueHash value) .outputInvalid
  let result : SanitizedToolResult := {
    schemaVersion := proxySchemaVersion
    value := value
    artifactRef := raw.artifactRef
    redactedPaths := redactedPaths
    untrustedContent := untrustedContent
    resultHash := resultHash
    credentialConsumptionReceipt := prepared.credentialConsumptionReceipt }
  let resultSize ← computed (service.codec.resultSize result) .outputInvalid
  Attempt.ensure (resultSize ≤ maxProxyResponseBytes) .responseTooLarge
  pure result

def connect (prepared : PreparedToolExecution) (context : ConnectorContext) (lease : SecretLease)
    (remaining : Nat) : Proxying ProxyError SanitizedToolResult := do
  let request := prepared.request
  let execution ← ask (.connectorExecute request.tool.executorProfile context request.arguments
    lease remaining)
  let revoked ← revokeSecretLease lease.leaseId
  let raw ← Attempt.ofExcept execution
  Attempt.ofExcept revoked
  service.sanitize prepared context lease raw

/-- `run_prepared`: it is entered only after the row was marked. -/
def runPrepared (prepared : PreparedToolExecution) : Proxying ProxyError SanitizedToolResult := do
  let request := prepared.request
  let checkedAt ← ask .utcNow
  port (.verifyAuthorization request checkedAt) id
  let authorizationRemaining := request.authorization.expiresAt - checkedAt
  Attempt.ensure (0 ≤ authorizationRemaining) .authorizationInvalid
  let executionTimeout := min prepared.timeout authorizationRemaining.toNat
  Attempt.ensure (executionTimeout ≠ 0) .authorizationInvalid
  let context := { prepared.context with deadline := checkedAt + executionTimeout }
  let lease ← port (.lease request.tool.credentialProfile request.tenantId request.targetProfile
    executionTimeout) id
  if lease.profile ≠ request.tool.credentialProfile ∨ lease.tenantId ≠ request.tenantId ∨
      lease.target ≠ request.targetProfile ∨ lease.expiresAt < context.deadline then
    giveUp lease.leaseId .credentialScopeDenied
  else
    let now ← ask .utcNow
    if context.deadline ≤ now then giveUp lease.leaseId .timeout
    else service.connect prepared context lease (context.deadline - now).toNat

end ProductionToolProxyService

inductive ProductionExecutionOutcome where
  | succeeded (result : SanitizedToolResult)
  | failed (code : String)
  | unknown

namespace ProductionToolProxyService

variable (service : ProductionToolProxyService)

def finish (request : AuthorizedToolRequest) (prepared : PreparedToolExecution) :
    Proxying ProductionProxyError ProductionExecutionOutcome := do
  match ← ExceptT.lift (service.runPrepared prepared).run with
  | .ok result =>
    transaction (.succeed (rowKey request) service.executionOwner result)
    pure (.succeeded result)
  | .error e =>
    transaction (.markUnknown (rowKey request) service.executionOwner e.code)
    pure .unknown

def attempt (request : AuthorizedToolRequest) :
    Proxying ProductionProxyError ProductionExecutionOutcome := do
  match ← ExceptT.lift (service.preflight request).run with
  | .ok prepared =>
    transaction (.markExecuting (rowKey request) service.executionOwner
      (prepared.timeout + 30000000000))
    service.finish request prepared
  | .error e =>
    if e.deterministic then
      transaction (.markFailed (rowKey request) e.code)
      pure (.failed e.code)
    else throw (.dependency e.code)

def execute (request : AuthorizedToolRequest) :
    Proxying ProductionProxyError ProductionExecutionOutcome := do
  match ← transaction (.prepare request) with
  | .replaySucceeded result => pure (.succeeded result)
  | .replayFailed code => pure (.failed code)
  | .unknown => pure .unknown
  | .new | .retryPrepared => service.attempt request

end ProductionToolProxyService

def recoverExpiredExecuting (tenants : List TenantId) : Proxying ProductionProxyError Nat :=
  tenants.foldlM (fun recovered tenant => transaction (.recover tenant recovered)) 0

-- One store, many replicas

def serve (codec : ProxyCodec) (store : Store) :
    (call : ProxyCall) → call.Answer → Store → Prop
  | .store call, answer, store' => ∃ ambient, call.serve codec ambient store = (answer, store')
  | _, _, store' => store' = store

abbrev ThreadResult := Option (Except ProductionProxyError ProductionExecutionOutcome)

abbrev ProxyEvent := Event Store ProxyCall ProxyCall.Answer

abbrev ProxyConfig := Config Store ProxyCall ProxyCall.Answer ThreadResult

inductive Caller (codec : ProxyCodec) :
    Program ProxyCall ProxyCall.Answer ThreadResult → Prop where
  | execution (service : ProductionToolProxyService) (shared : service.codec = codec)
      (request : AuthorizedToolRequest) :
      Caller codec ((service.execute request).run >>= fun result => .done (some result))
  | sweep (tenants : List TenantId) :
      Caller codec ((recoverExpiredExecuting tenants).run >>= fun _ => .done none)

def system (codec : ProxyCodec) : System Store ProxyCall ProxyCall.Answer ThreadResult where
  Serve := serve codec
  Internal _ _ := False
  Start := Caller codec

end AgentSphere.ToolProxy
