import AgentSphere.Contracts.Authority
import AgentSphere.Models.Budget
import Mathlib.Data.Finset.Card

/-!
# Requests to models

What the gateway checks before it calls a model and after that: the request, the prompt, the plan of
the route planner, the decisions of the data policy and the response.

A text is searched for its ASCII markers byte by byte; bytes that are no text leave the ASCII ones
around them as they are. The two digests are parameters.
-/

namespace AgentSphere.Models

def modelSchemaVersion : String := "agenttrust.model.v1"

inductive DeploymentKind where
  | publicApi
  | vpc
  | onPrem
  | local
  deriving DecidableEq, Repr

/-- The name that `{:?}` gives. -/
def DeploymentKind.name : DeploymentKind → String
  | .publicApi => "PublicApi"
  | .vpc => "Vpc"
  | .onPrem => "OnPrem"
  | .local => "Local"

inductive ModelCapability where
  | generate
  | stream
  | embeddings
  | toolCalling
  | structuredOutput
  deriving DecidableEq, Repr

structure ProviderProfile where
  providerId : String
  modelId : String
  modelVersion : String
  jurisdiction : String
  deployment : DeploymentKind
  capabilities : Finset ModelCapability
  approvedTenants : Finset TenantId
  maximumContextBytes : Nat
  maximumOutputBytes : Nat
  costMicrounitsPerToken : Nat

def ProviderProfile.key (profile : ProviderProfile) : String :=
  profile.providerId ++ ":" ++ profile.modelId ++ ":" ++ profile.modelVersion

structure ModelRequestEnvelope where
  schemaVersion : String
  tenantId : TenantId
  taskId : TaskId
  taskType : String
  classification : DataClassification
  sourceJurisdiction : String
  deploymentProfile : String
  requiredCapabilities : Finset ModelCapability
  allowedProviderIds : Finset String
  maximumLatencyMs : Nat
  maximumCostMicrounits : Nat
  maximumOutputBytes : Nat
  prompt : ByteArray
  idempotencyKey : String

structure RouteCandidate where
  providerKey : String
  scoreMillionths : Nat
  reasons : List String

structure ProviderRequest where
  requestHash : String
  prompt : ByteArray
  maximumOutputBytes : Nat
  idempotencyKey : String

structure ProviderResponse where
  providerRequestId : String
  output : ByteArray
  inputTokens : Nat
  outputTokens : Nat
  finishReason : String

structure ModelStreamChunk where
  schemaVersion : String
  sequence : Nat
  bytes : ByteArray
  finishReason : Option String

structure ProviderStreamResponse where
  providerRequestId : String
  chunks : List ModelStreamChunk
  inputTokens : Nat
  outputTokens : Nat

structure DataPolicyRequest where
  schemaVersion : SchemaVersion
  tenantId : TenantId
  classification : DataClassification
  sourceJurisdiction : String
  destinationJurisdiction : String
  destinationKind : String
  deploymentProfile : String
  containsSecret : Bool
  crossDomainApprovalId : Option ApprovalId

structure DataPolicyDecision where
  schemaVersion : SchemaVersion
  allowed : Bool
  policyVersion : PolicyVersion
  reasonCodes : List String
  requiredTransformations : List String
  maximumRetentionSeconds : Nat

structure ModelEvidence where
  requestHash : String
  providerKey : String
  providerRequestId : String
  routeReasons : List String
  dataPolicyVersion : PolicyVersion
  dataPolicyDecisionDigest : String
  inputTokens : Nat
  outputTokens : Nat
  costMicrounits : Nat
  outputHash : String
  createdAt : DateTime

structure ModelGatewayResult where
  output : ByteArray
  untrustedContent : Bool
  evidence : ModelEvidence

structure ModelStreamGatewayResult where
  chunks : List ModelStreamChunk
  untrustedContent : Bool
  evidence : ModelEvidence

structure GatewayDigests where
  sha256Hex : ByteArray → String
  decisionDigest : DataPolicyDecision → Option String

def HasLength (text : String) (maximum : Nat) : Prop :=
  text ≠ "" ∧ text.utf8ByteSize ≤ maximum

instance (text : String) (maximum : Nat) : Decidable (HasLength text maximum) :=
  inferInstanceAs (Decidable (_ ∧ _))

def validateRequest (request : ModelRequestEnvelope) : Except ModelError Unit :=
  require (request.schemaVersion = modelSchemaVersion ∧ HasLength request.taskType 128 ∧
    HasLength request.sourceJurisdiction 128 ∧ HasLength request.deploymentProfile 128 ∧
    request.allowedProviderIds ≠ ∅ ∧ request.allowedProviderIds.card ≤ 100 ∧
    (∀ provider ∈ request.allowedProviderIds, HasLength provider 128) ∧
    request.requiredCapabilities ≠ ∅ ∧ request.requiredCapabilities.card ≤ 16 ∧
    request.maximumLatencyMs ≠ 0 ∧ request.maximumLatencyMs ≤ 300000 ∧
    request.maximumCostMicrounits ≠ 0 ∧ request.maximumCostMicrounits ≤ 9223372036854775807 ∧
    request.maximumOutputBytes ≠ 0 ∧ request.maximumOutputBytes ≤ 32 * 1024 * 1024 ∧
    request.prompt.size ≠ 0 ∧ request.prompt.size ≤ 4 * 1024 * 1024 ∧
    request.prompt.IsValidUTF8 ∧ HasLength request.idempotencyKey 128 ∧
    isPathToken request.idempotencyKey = true) .requestInvalid

-- Guards

def secretMarkers : List String :=
  ["password=", "api_key=", "authorization: bearer", "-----begin private key-----"]

/-- `u8::to_ascii_lowercase`. -/
def asciiLower (byte : UInt8) : UInt8 :=
  if 65 ≤ byte ∧ byte ≤ 90 then byte + 32 else byte

def containsSecret (text : ByteArray) : Bool :=
  secretMarkers.any fun marker =>
    (text.data.toList.map asciiLower).tails.any fun rest =>
      marker.toUTF8.data.toList.isPrefixOf rest

def inspectText (digests : GatewayDigests) (text : ByteArray) (maximumBytes : Nat)
    (wrongSize : ModelError) : Except ModelError String := do
  require (text.size ≠ 0 ∧ text.size ≤ maximumBytes) wrongSize
  require (containsSecret text = false) .secretDetected
  return digests.sha256Hex text

def PromptDataGuard.inspect (digests : GatewayDigests) (prompt : ByteArray) (maximumBytes : Nat) :
    Except ModelError String :=
  inspectText digests prompt maximumBytes .promptDenied

def ResponseDataGuard.inspect (digests : GatewayDigests) (response : ByteArray)
    (maximumBytes : Nat) : Except ModelError String :=
  inspectText digests response maximumBytes .responseTooLarge

-- Candidates and routes

def Eligible (request : ModelRequestEnvelope) (provider : ProviderProfile) : Prop :=
  request.tenantId ∈ provider.approvedTenants ∧
    provider.providerId ∈ request.allowedProviderIds ∧
    request.requiredCapabilities ⊆ provider.capabilities ∧
    request.prompt.size ≤ provider.maximumContextBytes

instance (request : ModelRequestEnvelope) (provider : ProviderProfile) :
    Decidable (Eligible request provider) :=
  inferInstanceAs (Decidable (_ ∧ _ ∧ _ ∧ _))

def dataPolicyRequest (request : ModelRequestEnvelope) (provider : ProviderProfile) :
    DataPolicyRequest where
  schemaVersion := "agenttrust.contracts.v1"
  tenantId := request.tenantId
  classification := request.classification
  sourceJurisdiction := request.sourceJurisdiction
  destinationJurisdiction := provider.jurisdiction
  destinationKind := "model:" ++ provider.deployment.name
  deploymentProfile := request.deploymentProfile
  containsSecret := false
  crossDomainApprovalId := none

def validateDataPolicyDecision (decision : DataPolicyDecision) : Except ModelError Unit :=
  require (HasLength decision.schemaVersion 128 ∧ HasLength decision.policyVersion 256 ∧
    decision.reasonCodes ≠ [] ∧ decision.reasonCodes.length ≤ 64 ∧
    (∀ reason ∈ decision.reasonCodes, HasLength reason 256) ∧
    decision.requiredTransformations.length ≤ 64 ∧
    (∀ transformation ∈ decision.requiredTransformations, HasLength transformation 128) ∧
    decision.maximumRetentionSeconds ≠ 0 ∧ decision.maximumRetentionSeconds ≤ 315576000)
    .dataPolicyDenied

def ValidRoute (candidates : List ProviderProfile) (route : RouteCandidate) : Prop :=
  route.providerKey ∈ candidates.map (·.key) ∧ HasLength route.providerKey 768 ∧
    route.scoreMillionths ≤ 1000000 ∧ route.reasons ≠ [] ∧ route.reasons.length ≤ 32 ∧
    ∀ reason ∈ route.reasons, HasLength reason 256

instance (candidates : List ProviderProfile) (route : RouteCandidate) :
    Decidable (ValidRoute candidates route) :=
  inferInstanceAs (Decidable (_ ∧ _ ∧ _ ∧ _ ∧ _ ∧ _))

def validateRoutePlan (candidates : List ProviderProfile) (ranked : List RouteCandidate) :
    Except ModelError Unit :=
  require (candidates ≠ [] ∧ ranked ≠ [] ∧ ranked.length ≤ candidates.length ∧
    (∀ route ∈ ranked, ValidRoute candidates route) ∧ (ranked.map (·.providerKey)).Nodup)
    .routePlanInvalid

-- Responses

def ProviderResponse.tokens (response : ProviderResponse) : Nat :=
  saturatingAdd response.inputTokens response.outputTokens

def ProviderStreamResponse.tokens (response : ProviderStreamResponse) : Nat :=
  saturatingAdd response.inputTokens response.outputTokens

def ProviderProfile.cost (provider : ProviderProfile) (tokens : Nat) : Nat :=
  saturatingMul tokens provider.costMicrounitsPerToken

def ProviderResponse.Valid (response : ProviderResponse) : Prop :=
  response.tokens ≠ 0 ∧ HasLength response.providerRequestId 512 ∧
    HasLength response.finishReason 64 ∧ response.output.IsValidUTF8

instance (response : ProviderResponse) : Decidable response.Valid :=
  inferInstanceAs (Decidable (_ ∧ _ ∧ _ ∧ _))

def ModelStreamChunk.Valid (chunk : ModelStreamChunk) (expectedSequence : Nat)
    (finalChunk : Bool) : Prop :=
  chunk.schemaVersion = modelSchemaVersion ∧ chunk.sequence = expectedSequence ∧
    chunk.bytes.size ≠ 0 ∧ chunk.bytes.size ≤ 1048576 ∧ chunk.bytes.IsValidUTF8 ∧
    chunk.finishReason.isSome = finalChunk ∧ ∀ reason ∈ chunk.finishReason, HasLength reason 64

instance (chunk : ModelStreamChunk) (expectedSequence : Nat) (finalChunk : Bool) :
    Decidable (chunk.Valid expectedSequence finalChunk) :=
  inferInstanceAs (Decidable (_ ∧ _ ∧ _ ∧ _ ∧ _ ∧ _ ∧ _))

def checkChunks (maximumBytes : Nat) :
    List ModelStreamChunk → Nat → ByteArray → Except ModelError ByteArray
  | [], _, output => .ok output
  | chunk :: chunks, expectedSequence, output => do
    require (chunk.Valid expectedSequence chunks.isEmpty) .streamInvalid
    let output := output ++ chunk.bytes
    require (output.size ≤ maximumBytes) .responseTooLarge
    checkChunks maximumBytes chunks (expectedSequence + 1) output

end AgentSphere.Models
