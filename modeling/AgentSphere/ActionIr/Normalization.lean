import AgentSphere.Contracts.Authority

/-!
# Normalization and hashing of actions

`normalize` turns a draft into a canonical action: codes are trimmed and brought to one case,
the locator is reduced to its segments, the instant to milliseconds, and the result is validated.
`hash` is the SHA-256 of the canonical JSON of what an action asks for; its own identifier and
the instant of the request are left out.
-/

namespace AgentSphere.ActionIr

def actionSchemaVersion : String := "agenttrust.action.v1"

structure ActionDraft where
  schemaVersion : SchemaVersion
  actionId : ActionId
  taskId : TaskId
  stepId : StepId
  agent : AgentIdentity
  intent : Intent
  tool : ToolRef
  payload : TypedPayload
  resource : ResourceSelector
  environment : ExecutionEnvironment
  currentStateVersion : Option String
  risk : RiskContext
  data : DataContext
  expectedOutcome : ExpectedOutcome
  credentialRefs : List CredentialRef
  requestedAt : DateTime
  extensions : List (String × Value)

inductive ActionIrError where
  | normalizationFailed
  | semanticInvalid (fieldPath reasonCode : String)
  | secretInline (fieldPath : String)
  | canonicalizationFailed
  deriving DecidableEq, Repr

structure Url where
  username : String
  password : Option String
  text : String

structure Canon (Bytes Digest : Type) where
  nfc : String → String
  /-- `Url::parse`. -/
  parseUrl : String → Option Url
  rfc3339 : DateTime → String
  /-- `serde_jcs::to_vec`. -/
  jcs : Value → Option Bytes
  sha256Hex : Bytes → Digest

structure PayloadTypeRegistry where
  versions : List (String × String)

namespace PayloadTypeRegistry

def contains (registry : PayloadTypeRegistry) (typeId version : String) : Bool :=
  registry.versions.contains (typeId, version)

def withDefaults : PayloadTypeRegistry where
  versions :=
    [("coding.patch.v1", "1"), ("coding.command.v1", "1"), ("industrial.read.v1", "1"),
      ("industrial.setpoint.v1", "1"), ("enterprise.control.mutation.v1", "1")]

end PayloadTypeRegistry

structure NormalizationContext where
  allowedResourceSchemes : List String
  payloadTypes : PayloadTypeRegistry

def NormalizationContext.default : NormalizationContext where
  allowedResourceSchemes := ["repo", "file", "database", "opcua", "mqtt", "http"]
  payloadTypes := .withDefaults

structure ValidationContext where
  requireCurrentStateForWrites : Bool

def ValidationContext.default : ValidationContext where
  requireCurrentStateForWrites := true

structure ValidationFinding where
  fieldPath : String
  reasonCode : String
  deriving DecidableEq, Repr

structure ValidationReport where
  valid : Bool
  findings : List ValidationFinding

-- Validation

def findingIf (condition : Prop) [Decidable condition] (fieldPath reasonCode : String) :
    List ValidationFinding :=
  if condition then [{ fieldPath, reasonCode }] else []

def startsWith (value start : String) : Bool := start.toList.isPrefixOf value.toList

def isWrite (action : CanonicalAction) : Bool :=
  !(["read", "get", "list", "search", "inspect"].contains
    (toAsciiLowercase action.intent.operation))

/-- `CoreActionValidator::validate`. -/
def coreFindings (action : CanonicalAction) (ctx : ValidationContext) : List ValidationFinding :=
  findingIf (action.agent.tenantId ≠ action.environment.tenantId ∨
      action.resource.tenantId ≠ action.environment.tenantId)
    "$.environment.tenant_id" "TENANT_MISMATCH" ++
  findingIf (eqIgnoreAsciiCase action.environment.deployment "production" ∧
      action.environment.simulation)
    "$.environment.simulation" "PRODUCTION_SIMULATION_CONFLICT" ++
  findingIf (isBlank action.expectedOutcome.metric ∨ action.expectedOutcome.target = .null)
    "$.expected_outcome" "EXPECTED_OUTCOME_NOT_MACHINE_EVALUABLE" ++
  findingIf (action.risk.declaredRisk = .critical ∧ action.risk.automationAllowed)
    "$.risk.automation_allowed" "CRITICAL_AUTO_EXECUTION_DENIED" ++
  findingIf (isWrite action ∧ ctx.requireCurrentStateForWrites ∧
      (action.currentStateVersion.getD "").isEmpty)
    "$.current_state_version" "RESOURCE_VERSION_REQUIRED" ++
  findingIf (action.currentStateVersion.any fun version =>
      version.utf8ByteSize > 128 || version.toList.any isControl)
    "$.current_state_version" "RESOURCE_VERSION_INVALID" ++
  findingIf (action.extensions.length > 32) "$.extensions" "TOO_MANY_EXTENSIONS" ++
  findingIf (isWrite action ∧ !action.planHash.any isDigest)
    "$.extensions.x-plan-hash" "EXECUTION_PLAN_HASH_REQUIRED" ++
  action.credentialRefs.zipIdx.flatMap fun (credential, index) =>
    findingIf (!startsWith action.resource.locator credential.resourcePrefix)
      ("$.credential_refs[" ++ toString index ++ "]") "CREDENTIAL_SCOPE_EXCEEDED"

def validate (action : CanonicalAction) (ctx : ValidationContext) : ValidationReport where
  valid := (coreFindings action ctx).isEmpty
  findings := coreFindings action ctx

-- Normalization

def validateExact (tool : ToolRef) : Bool :=
  !(tool.toolVersion.isEmpty || eqIgnoreAsciiCase tool.toolVersion "latest" ||
    tool.toolVersion.toList.contains '*')

/-- `str::split` at `/`. -/
def splitSlash (value : String) : List String := (value.toList.splitOn '/').map String.ofList

/-- `join` with `/`. -/
def joinSlash (segments : List String) : String :=
  String.ofList (['/'].intercalate (segments.map String.toList))

def collectSegments : List String → Except ActionIrError (List String)
  | [] => .ok []
  | segment :: rest =>
    if segment = "" ∨ segment = "." then collectSegments rest
    else if segment = ".." then .error (.semanticInvalid "$.resource.locator" "PATH_TRAVERSAL")
    else do
      let segments ← collectSegments rest
      pure (segment :: segments)

def sensitiveKeys : List String := ["password", "token", "secret", "private_key", "api_key"]

mutual

def rejectSensitiveKeys : Value → String → Except ActionIrError Unit
  | .object members, path => rejectSensitiveMembers members path
  | .array items, path => rejectSensitiveItems items path 0
  | .null, _ | .bool _, _ | .number _, _ | .string _, _ => .ok ()

def rejectSensitiveMembers : List (String × Value) → String → Except ActionIrError Unit
  | [], _ => .ok ()
  | (key, child) :: members, path =>
    if sensitiveKeys.contains (toAsciiLowercase key) then
      .error (.secretInline (path ++ "." ++ key))
    else do
      rejectSensitiveKeys child (path ++ "." ++ key)
      rejectSensitiveMembers members path

def rejectSensitiveItems : List Value → String → Nat → Except ActionIrError Unit
  | [], _, _ => .ok ()
  | child :: items, path, index => do
    rejectSensitiveKeys child (path ++ "[" ++ toString index ++ "]")
    rejectSensitiveItems items path (index + 1)

end

def nanosecond (instant : DateTime) : Int := instant % 1000000000

/-- The instant in whole milliseconds; `with_nanosecond` takes every such number. -/
def truncateMillis (instant : DateTime) : DateTime :=
  instant - nanosecond instant + nanosecond instant / 1000000 * 1000000

variable {Bytes Digest : Type}

def normalizeLocator (canon : Canon Bytes Digest) (scheme locator : String) :
    Except ActionIrError String :=
  let nfc := canon.nfc locator
  if nfc.toList.contains (Char.ofNat 0) then
    .error (.semanticInvalid "$.resource.locator" "NUL_BYTE")
  else if scheme = "http" then
    match canon.parseUrl nfc with
    | none => .error (.semanticInvalid "$.resource.locator" "URL_INVALID")
    | some url =>
      if !url.username.isEmpty || url.password.isSome then
        .error (.semanticInvalid "$.resource.locator" "URL_CREDENTIALS_DENIED")
      else .ok url.text
  else do
    let segments ← collectSegments (splitSlash nfc)
    pure (joinSlash segments)

def canonicalAction (draft : ActionDraft) (locator : String) : CanonicalAction where
  schemaVersion := draft.schemaVersion
  actionId := draft.actionId
  taskId := draft.taskId
  stepId := draft.stepId
  agent := draft.agent
  intent :=
    { draft.intent with
      operation := toAsciiLowercase (trim draft.intent.operation)
      justificationCode := toAsciiUppercase (trim draft.intent.justificationCode) }
  tool := draft.tool
  payload := { draft.payload with typeId := toAsciiLowercase (trim draft.payload.typeId) }
  resource :=
    { draft.resource with
      scheme := toAsciiLowercase (trim draft.resource.scheme), locator }
  environment := draft.environment
  currentStateVersion := draft.currentStateVersion
  risk := draft.risk
  data := draft.data
  expectedOutcome := draft.expectedOutcome
  credentialRefs := draft.credentialRefs
  requestedAt := truncateMillis draft.requestedAt
  extensions := draft.extensions

def requireValid (report : ValidationReport) : Except ActionIrError Unit :=
  if report.valid then .ok ()
  else
    match report.findings with
    | [] => .error .normalizationFailed
    | first :: _ => .error (.semanticInvalid first.fieldPath first.reasonCode)

def normalize (canon : Canon Bytes Digest) (draft : ActionDraft) (ctx : NormalizationContext) :
    Except ActionIrError CanonicalAction := do
  require (validateExact draft.tool)
    (ActionIrError.semanticInvalid "$.tool.tool_version" "VERSION_REQUIRED")
  let scheme := toAsciiLowercase (trim draft.resource.scheme)
  require (scheme ∈ ctx.allowedResourceSchemes)
    (.semanticInvalid "$.resource.scheme" "UNKNOWN_RESOURCE_SCHEME")
  -- the payload type is looked up as it is written, before it is trimmed
  require (ctx.payloadTypes.contains draft.payload.typeId draft.payload.schemaVersion)
    (.semanticInvalid "$.payload" "UNKNOWN_PAYLOAD_TYPE")
  let locator ← normalizeLocator canon scheme draft.resource.locator
  rejectSensitiveKeys (.object draft.payload.data) "$.payload.data"
  require (draft.extensions.all fun member => startsWith member.1 "x-")
    (.semanticInvalid "$.extensions" "EXTENSION_NAMESPACE_REQUIRED")
  let action := canonicalAction draft locator
  requireValid (validate action .default)
  pure action

def asDraft (action : CanonicalAction) : ActionDraft where
  schemaVersion := action.schemaVersion
  actionId := action.actionId
  taskId := action.taskId
  stepId := action.stepId
  agent := action.agent
  intent := action.intent
  tool := action.tool
  payload := action.payload
  resource := action.resource
  environment := action.environment
  currentStateVersion := action.currentStateVersion
  risk := action.risk
  data := action.data
  expectedOutcome := action.expectedOutcome
  credentialRefs := action.credentialRefs
  requestedAt := action.requestedAt
  extensions := action.extensions

-- The hash

/-- An optional text is a string or `null`. -/
def textOrNull : Option String → Value
  | none => .null
  | some text => .string text

def texts (items : List String) : Value := .array (items.map .string)

def riskValue : RiskLevel → Value
  | .low => .string "LOW"
  | .medium => .string "MEDIUM"
  | .high => .string "HIGH"
  | .critical => .string "CRITICAL"

def classificationValue : DataClassification → Value
  | .publicData => .string "PUBLIC"
  | .internal => .string "INTERNAL"
  | .confidential => .string "CONFIDENTIAL"
  | .restricted => .string "RESTRICTED"
  | .regulated => .string "REGULATED"

def agentValue (rfc3339 : DateTime → String) (agent : AgentIdentity) : Value :=
  .object
    [("schema_version", .string agent.schemaVersion), ("agent_type", .string agent.agentType),
      ("agent_instance_id", .string agent.agentInstanceId),
      ("organization_id", .string agent.organizationId), ("tenant_id", .string agent.tenantId),
      ("owner_subject", .string agent.ownerSubject),
      ("model_provider", .string agent.modelProvider), ("model_id", .string agent.modelId),
      ("agent_version", .string agent.agentVersion),
      ("deployment_environment", .string agent.deploymentEnvironment),
      ("trust_level", .string agent.trustLevel),
      ("auth_context_ref", .string agent.authContextRef),
      ("issued_at", .string (rfc3339 agent.issuedAt)),
      ("expires_at", .string (rfc3339 agent.expiresAt))]

def intentValue (intent : Intent) : Value :=
  .object
    [("goal_hash", .string intent.goalHash), ("operation", .string intent.operation),
      ("justification_code", .string intent.justificationCode),
      ("safe_summary", textOrNull intent.safeSummary)]

def toolValue (tool : ToolRef) : Value :=
  .object [("tool_id", .string tool.toolId), ("tool_version", .string tool.toolVersion)]

def payloadValue (payload : TypedPayload) : Value :=
  .object
    [("type_id", .string payload.typeId), ("schema_version", .string payload.schemaVersion),
      ("data", .object payload.data)]

def resourceValue (resource : ResourceSelector) : Value :=
  .object
    [("scheme", .string resource.scheme), ("tenant_id", .string resource.tenantId),
      ("locator", .string resource.locator), ("version", textOrNull resource.version)]

def environmentValue (environment : ExecutionEnvironment) : Value :=
  .object
    [("tenant_id", .string environment.tenantId), ("deployment", .string environment.deployment),
      ("region", .string environment.region), ("zone", textOrNull environment.zone),
      ("simulation", .bool environment.simulation)]

def riskContextValue (risk : RiskContext) : Value :=
  .object
    [("declared_risk", riskValue risk.declaredRisk),
      ("trajectory_risk_ref", textOrNull risk.trajectoryRiskRef),
      ("scope_delta", .number ⟨risk.scopeDelta.repr⟩),
      ("automation_allowed", .bool risk.automationAllowed)]

def dataContextValue (data : DataContext) : Value :=
  .object
    [("classification", classificationValue data.classification),
      ("jurisdiction", .string data.jurisdiction),
      ("export_constraints", texts data.exportConstraints)]

def expectedOutcomeValue (outcome : ExpectedOutcome) : Value :=
  .object
    [("metric", .string outcome.metric), ("operator", .string outcome.operator),
      ("target", outcome.target)]

def credentialRefValue (reference : CredentialRef) : Value :=
  .object
    [("profile", .string reference.profile), ("resource_prefix", .string reference.resourcePrefix),
      ("operations", texts reference.operations)]

/-- `ActionHashMaterial`, in JSON. -/
def hashMaterial (canon : Canon Bytes Digest) (action : CanonicalAction) : Value :=
  .object
    [("schema_version", .string action.schemaVersion), ("task_id", .string action.taskId),
      ("step_id", .string action.stepId), ("agent", agentValue canon.rfc3339 action.agent),
      ("intent", intentValue action.intent), ("tool", toolValue action.tool),
      ("payload", payloadValue action.payload), ("resource", resourceValue action.resource),
      ("environment", environmentValue action.environment),
      ("current_state_version", textOrNull action.currentStateVersion),
      ("risk", riskContextValue action.risk), ("data", dataContextValue action.data),
      ("expected_outcome", expectedOutcomeValue action.expectedOutcome),
      ("credential_refs", .array (action.credentialRefs.map credentialRefValue)),
      ("extensions", .object action.extensions)]

def canonicalBytes (canon : Canon Bytes Digest) (action : CanonicalAction) :
    Except ActionIrError Bytes :=
  match canon.jcs (hashMaterial canon action) with
  | some bytes => .ok bytes
  | none => .error .canonicalizationFailed

def hash (canon : Canon Bytes Digest) (action : CanonicalAction) : Except ActionIrError Digest := do
  let bytes ← canonicalBytes canon action
  pure (canon.sha256Hex bytes)

end AgentSphere.ActionIr
