import AgentSphere.ActionIr.Normalization
import AgentSphere.ActionIr.Parsing
import AgentSphere.Lib.History
import AgentSphere.Lib.Ports
import AgentSphere.Mcp.Registry

/-!
# Calls of tools

`McpSecurityProxy::call_tool` as a program over the calls it awaits: the tool is looked up, the
arguments are read and compared with the authorized action, the authorization is verified and used
up, and only then the transport is called. What it answers is looked at before it is passed on.

The transport, the durable store, the clock and the permits may answer anything. The registry, the
keys and the authorizations already used are shared by all calls; operators change the first two
while calls are under way.
-/

namespace AgentSphere.Mcp

open Concurrency Attempt

structure McpCallRequest where
  schemaVersion : String
  callId : String
  traceId : String
  tenantId : TenantId
  serverId : String
  toolName : String
  actionHash : ActionHash
  canonicalAction : Option CanonicalAction
  authorization : ExecutionAuthorization
  credentialHandle : String
  argumentsJson : JsonText
  maximumResultBytes : Nat

structure RawMcpResult where
  value : Value
  observedEffect : EffectClass

structure SanitizedMcpResult where
  schemaVersion : String
  value : Value
  untrustedContent : Bool
  contentProvenance : String
  resultHash : String

structure McpCallEvidence where
  schemaVersion : String
  callId : String
  tenantId : TenantId
  serverId : String
  toolName : String
  actionHash : ActionHash
  snapshotHash : Option String
  resultHash : Option String
  outcome : String
  traceId : String
  occurredAt : DateTime

structure CallCodec (Bytes VerifyingKey : Type) where
  registry : McpCodec Bytes VerifyingKey
  authorization : VerifyingKey → AuthorizationCodec Bytes
  canon : ActionIr.Canon Bytes ActionHash
  /-- `Value::to_string`. -/
  render : Value → String
  resultHash : Value → Option String

-- Checks

def callLimits : ActionIr.ParseLimits where
  maxBodyBytes := 256 * 1024
  maxDepth := 24
  maxArrayItems := 512
  maxStringBytes := 32 * 1024
  maxObjectKeys := 128
  maxNumberChars := 64

def maliciousMarkers : List String :=
  ["ignore previous instructions", "reveal your secret", "bypass approval", "call another tool",
    "authorization: bearer", "-----begin private key-----"]

section Checks

variable {Bytes VerifyingKey : Type} (codec : CallCodec Bytes VerifyingKey)

def scan (value : Value) : Except McpError Unit :=
  if maliciousMarkers.any (containsText (toAsciiLowercase (codec.render value))) then
    .error .maliciousContent
  else .ok ()

def validateActionBinding (request : McpCallRequest) (snapshot : ToolSchemaSnapshot)
    (arguments : Value) (action : CanonicalAction) : Except McpError Unit := do
  let computedActionHash ← (ActionIr.hash codec.canon action).mapError fun _ => .argumentsInvalid
  require (computedActionHash = request.actionHash ∧
    action.agent.tenantId = request.tenantId ∧
    action.tool.toolId = snapshot.namespacedToolId ∧
    action.tool.toolVersion = snapshot.serverVersion ∧
    Value.object action.arguments = arguments) .authorizationDenied

def checkBinding (durable : Bool) (request : McpCallRequest) (snapshot : ToolSchemaSnapshot)
    (arguments : Value) : Except McpError Unit :=
  match request.canonicalAction with
  | some action => validateActionBinding codec request snapshot arguments action
  | none => require (durable = false) .authorizationDenied

end Checks

-- Calls

inductive McpCall (VerifyingKey : Type) where
  | approvedTool (tenantId : TenantId) (serverId toolName : String)
  | tryAcquire (tenantId : TenantId) (serverId : String)
  | utcNow
  | authorizationKey (keyId : String)
  | consumeAuthorization (tenantId : TenantId) (authorizationId : String)
      (actionHash : ActionHash) (snapshotHash : String)
  /-- The authorization is used in this process; the answer is whether it was not so before. -/
  | markUsed (authorizationId : String)
  /-- `transport.call_tool` with the tenant, the server, the tool and the credential handle of a
  request. -/
  | transport (request : McpCallRequest) (arguments : Value)
  | quarantine (tenantId : TenantId) (serverId : String)
  | recordCall (evidence : McpCallEvidence)
  | operate (operation : Operation VerifyingKey)
  | addKey (keyId issuer : String) (key : VerifyingKey)

abbrev McpCall.Answer {VerifyingKey : Type} : McpCall VerifyingKey → Type
  | .approvedTool .. => Except McpError ToolSchemaSnapshot
  | .tryAcquire .. | .markUsed _ => Bool
  | .utcNow => DateTime
  | .authorizationKey _ => Option (String × VerifyingKey)
  | .consumeAuthorization .. => Except McpError Bool
  | .transport .. => Except McpError RawMcpResult
  | .quarantine .. | .recordCall _ | .operate _ => Except McpError Unit
  | .addKey .. => Unit

abbrev Calling (VerifyingKey : Type) := Attempt McpError (McpCall VerifyingKey) McpCall.Answer

structure McpSecurityProxy where
  durable : Bool
  authorizationDurable : Bool

namespace McpSecurityProxy

variable {Bytes VerifyingKey : Type} (codec : CallCodec Bytes VerifyingKey)
  (proxy : McpSecurityProxy)

/-- `verify_and_consume`: the durable store is asked first. -/
def verifyAndConsume (auth : ExecutionAuthorization) (actionHash : ActionHash)
    (snapshotHash : String) (now : DateTime) : Calling VerifyingKey Unit := do
  let found ← ask (.authorizationKey auth.keyId)
  let (issuer, key) ← computed found .authorizationDenied
  ensure (issuer = auth.issuer ∧ auth.actionHash = actionHash ∧
    auth.toolSnapshotHash = snapshotHash ∧ auth.singleUse = true) .authorizationDenied
  Attempt.ofExcept
    ((auth.verify (codec.authorization key) now).mapError fun _ => .authorizationDenied)
  if proxy.authorizationDurable then
    let fresh ← port (.consumeAuthorization auth.tenantId auth.authorizationId actionHash
      snapshotHash) id
    ensure (fresh = true) .authorizationReplayed
  let unused ← ask (.markUsed auth.authorizationId)
  ensure (unused = true) .authorizationReplayed

def turnOff {α : Type} (request : McpCallRequest) (e : McpError) : Calling VerifyingKey α := do
  port (.quarantine request.tenantId request.serverId) id
  throw e

def judge (request : McpCallRequest) (snapshot : ToolSchemaSnapshot) (raw : RawMcpResult) :
    Calling VerifyingKey SanitizedMcpResult := do
  if raw.observedEffect ≠ snapshot.declaredEffect then turnOff request .behaviorMismatch
  else
    ensure ((codec.render raw.value).utf8ByteSize ≤ request.maximumResultBytes) .resultTooLarge
    let output ← computed (codec.registry.validatorFor snapshot.outputSchema) .schemaInvalid
    ensure (output raw.value = true) .resultInvalid
    if (scan codec raw.value).isOk = false then turnOff request .maliciousContent
    else
      let resultHash ← computed (codec.resultHash raw.value) .resultInvalid
      pure {
        schemaVersion := mcpSchemaVersion
        value := raw.value
        untrustedContent := true
        contentProvenance := "mcp:" ++ request.serverId ++ ":" ++ request.toolName ++ ":" ++
          snapshot.snapshotHash
        resultHash := resultHash }

def callToolInner (request : McpCallRequest) : Calling VerifyingKey SanitizedMcpResult := do
  ensure (request.schemaVersion = mcpSchemaVersion ∧ request.maximumResultBytes ≠ 0 ∧
    request.callId ≠ "" ∧ request.traceId ≠ "" ∧
    request.authorization.tenantId = request.tenantId) .argumentsInvalid
  let snapshot ← port (.approvedTool request.tenantId request.serverId request.toolName) id
  let arguments ← Attempt.ofExcept
    ((ActionIr.parseStrictJson callLimits request.argumentsJson).mapError
    fun _ => .argumentsInvalid)
  let validator ← computed (codec.registry.validatorFor snapshot.inputSchema) .schemaInvalid
  ensure (validator arguments = true) .argumentsInvalid
  Attempt.ofExcept (checkBinding codec proxy.durable request snapshot arguments)
  let permitted ← ask (.tryAcquire request.tenantId request.serverId)
  ensure (permitted = true) .capacityExceeded
  let now ← ask .utcNow
  proxy.verifyAndConsume codec request.authorization request.actionHash snapshot.snapshotHash now
  let raw ← port (.transport request arguments) id
  judge codec request snapshot raw

def evidenceOf (request : McpCallRequest) (tool : Except McpError ToolSchemaSnapshot)
    (result : Except McpError SanitizedMcpResult) (occurredAt : DateTime) : McpCallEvidence where
  schemaVersion := mcpSchemaVersion
  callId := request.callId
  tenantId := request.tenantId
  serverId := request.serverId
  toolName := request.toolName
  actionHash := request.actionHash
  snapshotHash := tool.toOption.map ToolSchemaSnapshot.snapshotHash
  resultHash := result.toOption.map SanitizedMcpResult.resultHash
  outcome := match result with
    | .ok _ => "SUCCEEDED"
    | .error e => e.code
  traceId := request.traceId
  occurredAt := occurredAt

/-- `call_tool`: with a durable store, a call that could not be recorded has failed. -/
def callTool (request : McpCallRequest) : Calling VerifyingKey SanitizedMcpResult := do
  let result ← ExceptT.lift (proxy.callToolInner codec request).run
  if proxy.durable then
    let tool ← ask (.approvedTool request.tenantId request.serverId request.toolName)
    let occurredAt ← ask .utcNow
    port (.recordCall (evidenceOf request tool result occurredAt)) id
  Attempt.ofExcept result

end McpSecurityProxy

-- One proxy, many calls

structure ProxyState (VerifyingKey : Type) where
  registry : McpRegistry VerifyingKey
  /-- The keys that sign authorizations, each with its issuer. -/
  keys : BTreeMap String (String × VerifyingKey)
  used : BTreeSet String

section Shared

variable {Bytes VerifyingKey : Type}

/-- How a call is answered. The registry, the keys and the used authorizations each have a lock of
their own; everything else may answer anything. -/
def serve (codec : CallCodec Bytes VerifyingKey) (proxy : McpSecurityProxy)
    (state : ProxyState VerifyingKey) :
    (call : McpCall VerifyingKey) → call.Answer → ProxyState VerifyingKey → Prop
  | .approvedTool tenantId serverId toolName, answer, state' =>
    answer = state.registry.approvedTool tenantId serverId toolName ∧ state' = state
  | .authorizationKey keyId, answer, state' => answer = state.keys[keyId]? ∧ state' = state
  | .markUsed authorizationId, answer, state' =>
    answer = !state.used.contains authorizationId ∧
      state' = { state with used := state.used.insert authorizationId }
  | .quarantine tenantId serverId, answer, state' =>
    ∃ store : StoreAnswer, store.isSome = proxy.durable ∧ ∃ registry,
      state.registry.perform codec.registry store (.quarantine tenantId serverId) =
        (registry, answer) ∧
      state' = { state with registry := registry }
  | .operate operation, answer, state' =>
    ∃ store : StoreAnswer, store.isSome = proxy.durable ∧ ∃ registry,
      state.registry.perform codec.registry store operation = (registry, answer) ∧
      state' = { state with registry := registry }
  | .addKey keyId issuer key, _, state' =>
    state' = { state with keys := state.keys.insert keyId (issuer, key) }
  | .tryAcquire .., _, state' | .utcNow, _, state' | .consumeAuthorization .., _, state'
  | .transport .., _, state' | .recordCall _, _, state' => state' = state

abbrev ThreadResult := Option (McpCallRequest × Except McpError SanitizedMcpResult)

abbrev McpEvent (VerifyingKey : Type) :=
  Event (ProxyState VerifyingKey) (McpCall VerifyingKey) McpCall.Answer

abbrev McpEntry (VerifyingKey : Type) := Entry (McpCall VerifyingKey) McpCall.Answer

abbrev McpConfig (VerifyingKey : Type) :=
  Config (ProxyState VerifyingKey) (McpCall VerifyingKey) McpCall.Answer ThreadResult

inductive Caller (codec : CallCodec Bytes VerifyingKey) (proxy : McpSecurityProxy)
    (Admits : McpCallRequest → Prop) :
    Program (McpCall VerifyingKey) McpCall.Answer ThreadResult → Prop where
  | callTool (request : McpCallRequest) (admitted : Admits request) :
      Caller codec proxy Admits
        ((proxy.callTool codec request).run >>= fun result => .done (some (request, result)))
  | operate (operation : Operation VerifyingKey) :
      Caller codec proxy Admits (.perform (.operate operation) fun _ => .done none)
  | addKey (keyId issuer : String) (key : VerifyingKey) :
      Caller codec proxy Admits (.perform (.addKey keyId issuer key) fun _ => .done none)

def system (codec : CallCodec Bytes VerifyingKey) (proxy : McpSecurityProxy)
    (Admits : McpCallRequest → Prop) :
    System (ProxyState VerifyingKey) (McpCall VerifyingKey) McpCall.Answer ThreadResult where
  Serve := serve codec proxy
  Internal _ _ := False
  Start := Caller codec proxy Admits

end Shared

end AgentSphere.Mcp
