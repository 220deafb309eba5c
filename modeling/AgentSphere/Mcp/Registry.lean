import AgentSphere.Contracts.Authorization
import AgentSphere.Contracts.Endpoint
import AgentSphere.Lib.Transition

/-!
# Registered tool servers

The registry of a proxy for tool servers. A server is registered with a signed manifest, approved
with snapshots of the schemas of its tools, and frozen, revoked or quarantined afterwards. Every
operation that changes a record holds the lock over all of them, so that a run is a sequence of
operations. A durable store may refuse an operation after its checks; nothing is changed then.

Canonical JSON, SHA-256, Ed25519, URLs and JSON schemas are parameters (`McpCodec`). Sets are lists
of their members, each listed once.
-/

namespace AgentSphere.Mcp

open Concurrency

def mcpSchemaVersion : String := "agenttrust.mcp.v1"

inductive McpServerStatus where
  | pending
  | approved
  | frozen
  | revoked
  | quarantined
  deriving DecidableEq, Repr

inductive McpPermission where
  | toolsList
  | toolsCall
  | resourcesRead
  | network
  | filesystemRead
  | filesystemWrite
  deriving DecidableEq, Repr

structure McpServerManifest where
  schemaVersion : String
  tenantId : TenantId
  serverId : String
  version : String
  publisherId : String
  transport : String
  endpoint : String
  implementationDigest : String
  sbomDigest : String
  permissions : List McpPermission
  networkEndpoints : List String
  trustTier : String
  signerKeyId : String
  signature : String
  deriving DecidableEq

structure ToolSchemaSnapshot where
  schemaVersion : String
  tenantId : TenantId
  serverId : String
  serverVersion : String
  toolName : String
  namespacedToolId : String
  inputSchema : Value
  outputSchema : Value
  declaredEffect : EffectClass
  schemaHash : String
  snapshotHash : String
  deriving DecidableEq

inductive McpError where
  | configurationInvalid
  | manifestInvalid
  | signatureInvalid
  | versionConflict
  | lifecycleInvalid
  | schemaInvalid
  | serverUnavailable
  | toolUnavailable
  | authorizationDenied
  | authorizationReplayed
  | argumentsInvalid
  | resultInvalid
  | resultTooLarge
  | maliciousContent
  | behaviorMismatch
  | capacityExceeded
  | protocolInvalid
  | remoteRejected
  | persistenceUnavailable
  deriving DecidableEq, Repr

def McpError.code : McpError → String
  | .configurationInvalid => "MCP_CONFIGURATION_INVALID"
  | .manifestInvalid => "MCP_MANIFEST_INVALID"
  | .signatureInvalid => "MCP_SIGNATURE_INVALID"
  | .versionConflict => "MCP_VERSION_CONFLICT"
  | .lifecycleInvalid => "MCP_LIFECYCLE_INVALID"
  | .schemaInvalid => "MCP_SCHEMA_INVALID"
  | .serverUnavailable => "MCP_SERVER_UNAVAILABLE"
  | .toolUnavailable => "MCP_TOOL_UNAVAILABLE"
  | .authorizationDenied => "MCP_AUTHORIZATION_DENIED"
  | .authorizationReplayed => "MCP_AUTHORIZATION_REPLAYED"
  | .argumentsInvalid => "MCP_ARGUMENTS_INVALID"
  | .resultInvalid => "MCP_RESULT_INVALID"
  | .resultTooLarge => "MCP_RESULT_TOO_LARGE"
  | .maliciousContent => "MCP_MALICIOUS_CONTENT"
  | .behaviorMismatch => "MCP_BEHAVIOR_MISMATCH"
  | .capacityExceeded => "MCP_CAPACITY_EXCEEDED"
  | .protocolInvalid => "MCP_PROTOCOL_INVALID"
  | .remoteRejected => "MCP_REMOTE_REJECTED"
  | .persistenceUnavailable => "MCP_PERSISTENCE_UNAVAILABLE"

structure McpCodec (Bytes VerifyingKey : Type) where
  /-- `Url::parse`. -/
  parseUrl : String → Option EndpointUrl
  /-- `jsonschema::meta::is_valid`. -/
  isSchema : Value → Bool
  /-- `jsonschema::validator_for`, and what the validator accepts. -/
  validatorFor : Value → Option (Value → Bool)
  /-- The SHA-256 of the canonical JSON of the two schemas of a tool. -/
  schemaHash : Value × Value → Option String
  /-- The SHA-256 of the canonical JSON of a snapshot. -/
  snapshotHash : ToolSchemaSnapshot → Option String
  /-- The SHA-256 of the canonical JSON of a manifest. -/
  manifestHash : McpServerManifest → Option String
  /-- `serde_jcs::to_vec` of a manifest. -/
  manifestJcs : McpServerManifest → Option Bytes
  isSignature : String → Bool
  /-- `Verifier::verify` of some bytes and a signature. -/
  verifies : VerifyingKey → Bytes → String → Bool

section Checks

variable {Bytes VerifyingKey : Type} (codec : McpCodec Bytes VerifyingKey)

/-- `valid_digest`: a digest after `sha256:`. -/
def validDigest (value : String) : Bool :=
  "sha256:".toList.isPrefixOf value.toList && isDigest (String.ofList (value.toList.drop 7))

def isServerIdChar (c : Char) : Bool := c.isAlphanum || c == '.' || c == '_' || c == '-'

def validateManifest (manifest : McpServerManifest) : Except McpError Unit := do
  require (manifest.schemaVersion = mcpSchemaVersion ∧
    manifest.serverId ≠ "" ∧ manifest.serverId.utf8ByteSize ≤ 256 ∧
    manifest.serverId.toList.all isServerIdChar = true ∧
    manifest.version ≠ "" ∧ manifest.version.utf8ByteSize ≤ 128 ∧
    manifest.publisherId ≠ "" ∧ manifest.publisherId.utf8ByteSize ≤ 256 ∧
    manifest.signerKeyId ≠ "" ∧ manifest.signerKeyId.utf8ByteSize ≤ 128 ∧
    manifest.signature.utf8ByteSize = 86 ∧
    validDigest manifest.implementationDigest = true ∧ validDigest manifest.sbomDigest = true ∧
    manifest.transport ∈ ["stdio", "https"] ∧
    manifest.permissions ≠ [] ∧ manifest.permissions.length ≤ 32 ∧
    .toolsList ∈ manifest.permissions ∧ .toolsCall ∈ manifest.permissions ∧
    manifest.trustTier = "untrusted" ∧ manifest.networkEndpoints.length ≤ 256 ∧
    (.network ∈ manifest.permissions ↔ manifest.networkEndpoints ≠ []) ∧
    manifest.networkEndpoints.all (secureEndpoint codec.parseUrl) = true)
    .manifestInvalid
  if manifest.transport = "https" then
    require (secureEndpoint codec.parseUrl manifest.endpoint = true) .manifestInvalid
  else require (validDigest manifest.endpoint = true) .manifestInvalid

mutual

def schemaHasRemoteRef : Value → Bool
  | .object members => membersHaveRemoteRef members
  | .array items => itemsHaveRemoteRef items
  | .null | .bool _ | .number _ | .string _ => false

def itemsHaveRemoteRef : List Value → Bool
  | [] => false
  | item :: items => schemaHasRemoteRef item || itemsHaveRemoteRef items

def membersHaveRemoteRef : List (String × Value) → Bool
  | [] => false
  | (key, value) :: members =>
    (key == "$ref" && value.asStr.any fun reference =>
        reference.startsWith "http:" || reference.startsWith "https:" ||
          reference.startsWith "file:") ||
      schemaHasRemoteRef value || membersHaveRemoteRef members

end

def validateSchema (schema : Value) : Except McpError Unit := do
  require (codec.isSchema schema = true ∧ schemaHasRemoteRef schema = false) .schemaInvalid
  require ((codec.validatorFor schema).isSome = true) .schemaInvalid

def namespacedId (serverId toolName : String) : String := "mcp." ++ serverId ++ "." ++ toolName

def isObject : Value → Bool
  | .object _ => true
  | _ => false

def validateToolSnapshot (snapshot : ToolSchemaSnapshot) : Except McpError Unit := do
  require (snapshot.schemaVersion = mcpSchemaVersion ∧
    snapshot.serverId ≠ "" ∧ snapshot.serverId.utf8ByteSize ≤ 256 ∧
    snapshot.toolName ≠ "" ∧ snapshot.toolName.utf8ByteSize ≤ 256 ∧
    snapshot.serverVersion ≠ "" ∧ snapshot.serverVersion.utf8ByteSize ≤ 128 ∧
    snapshot.namespacedToolId = namespacedId snapshot.serverId snapshot.toolName ∧
    isObject snapshot.inputSchema = true ∧ isObject snapshot.outputSchema = true) .schemaInvalid
  validateSchema codec snapshot.inputSchema
  validateSchema codec snapshot.outputSchema
  match codec.schemaHash (snapshot.inputSchema, snapshot.outputSchema),
      codec.snapshotHash { snapshot with snapshotHash := "" } with
  | some schemaHash, some snapshotHash =>
    require (snapshot.schemaHash = schemaHash ∧ snapshot.snapshotHash = snapshotHash) .schemaInvalid
  | _, _ => .error .schemaInvalid

def ToolSchemaSnapshot.build (tenantId : TenantId) (serverId serverVersion toolName : String)
    (inputSchema outputSchema : Value) (declaredEffect : EffectClass) :
    Except McpError ToolSchemaSnapshot := do
  validateSchema codec inputSchema
  validateSchema codec outputSchema
  match codec.schemaHash (inputSchema, outputSchema) with
  | none => .error .schemaInvalid
  | some schemaHash =>
    let unsigned : ToolSchemaSnapshot := {
      schemaVersion := mcpSchemaVersion
      tenantId := tenantId
      serverId := serverId
      serverVersion := serverVersion
      toolName := toolName
      namespacedToolId := namespacedId serverId toolName
      inputSchema := inputSchema
      outputSchema := outputSchema
      declaredEffect := declaredEffect
      schemaHash := schemaHash
      snapshotHash := "" }
    match codec.snapshotHash unsigned with
    | none => .error .schemaInvalid
    | some snapshotHash =>
      let snapshot := { unsigned with snapshotHash := snapshotHash }
      validateToolSnapshot codec snapshot
      pure snapshot

end Checks

-- The registry

structure ServerRecord where
  manifest : McpServerManifest
  status : McpServerStatus
  tools : BTreeMap String ToolSchemaSnapshot
  approvedDigest : Option String

abbrev ServerKey := TenantId × String

structure McpRegistry (VerifyingKey : Type) where
  /-- The keys of publishers; a key without a publisher is good for all of them. -/
  publisherKeys : BTreeMap String (String × VerifyingKey)
  servers : BTreeMap ServerKey ServerRecord

inductive Operation (VerifyingKey : Type) where
  | addPublisherKey (keyId : String) (key : VerifyingKey)
  | addPublisherKeyFor (keyId publisherId : String) (key : VerifyingKey)
  | register (manifest : McpServerManifest)
  | approve (tenantId : TenantId) (serverId : String) (tools : List ToolSchemaSnapshot)
  | refresh (tenantId : TenantId) (serverId implementationDigest : String)
      (tools : List ToolSchemaSnapshot)
  | revoke (tenantId : TenantId) (serverId : String)
  | quarantine (tenantId : TenantId) (serverId : String)

abbrev StoreAnswer := Option (Except McpError Unit)

namespace StoreAnswer

def persist : StoreAnswer → Except McpError Unit
  | none => .ok ()
  | some answer => answer

end StoreAnswer

namespace McpRegistry

variable {Bytes VerifyingKey : Type}

def empty : McpRegistry VerifyingKey := ⟨∅, ∅⟩

variable (codec : McpCodec Bytes VerifyingKey) (store : StoreAnswer)
  (registry : McpRegistry VerifyingKey)

def addPublisherKeyFor (keyId publisherId : String) (key : VerifyingKey) :
    Except McpError (McpRegistry VerifyingKey) :=
  if keyId = "" ∨ publisherId = "" then .error .configurationInvalid
  else .ok { registry with
    publisherKeys := registry.publisherKeys.insert keyId (publisherId, key) }

/-- The checks of `register` before the lock is taken. -/
def checkSigned (manifest : McpServerManifest) : Except McpError Unit := do
  validateManifest codec manifest
  match registry.publisherKeys[manifest.signerKeyId]? with
  | none => .error .signatureInvalid
  | some (publisher, key) =>
    require (publisher = manifest.publisherId ∨ (publisher = "" ∧ store.isSome = false))
      .signatureInvalid
    require (codec.isSignature manifest.signature = true) .signatureInvalid
    match codec.manifestJcs { manifest with signature := "" } with
    | none => .error .manifestInvalid
    | some bytes => require (codec.verifies key bytes manifest.signature = true) .signatureInvalid

def register (manifest : McpServerManifest) : Except McpError (McpRegistry VerifyingKey) := do
  checkSigned codec store registry manifest
  require ((codec.manifestHash manifest).isSome = true) .manifestInvalid
  require (registry.servers.contains (manifest.tenantId, manifest.serverId) = false)
    .versionConflict
  store.persist
  pure { registry with
    servers := registry.servers.insert (manifest.tenantId, manifest.serverId)
      ⟨manifest, .pending, ∅, none⟩ }

def record (tenantId : TenantId) (serverId : String) : Except McpError ServerRecord :=
  match registry.servers[(tenantId, serverId)]? with
  | some record => .ok record
  | none => .error .serverUnavailable

def belongs (tenantId : TenantId) (serverId version : String) (tool : ToolSchemaSnapshot) : Bool :=
  tool.tenantId = tenantId && tool.serverId = serverId && tool.serverVersion = version &&
    (validateToolSnapshot codec tool).isOk

def toolsByName (tools : List ToolSchemaSnapshot) : BTreeMap String ToolSchemaSnapshot :=
  tools.foldl (fun byName tool => byName.insert tool.toolName tool) ∅

def approve (tenantId : TenantId) (serverId : String) (tools : List ToolSchemaSnapshot) :
    Except McpError (McpRegistry VerifyingKey) := do
  let record ← registry.record tenantId serverId
  require (record.status = .pending ∨ record.status = .frozen) .lifecycleInvalid
  require (tools ≠ [] ∧
    tools.all (belongs codec tenantId serverId record.manifest.version) = true) .schemaInvalid
  require (tools.map ToolSchemaSnapshot.toolName).Nodup .schemaInvalid
  store.persist
  pure { registry with
    servers := registry.servers.insert (tenantId, serverId)
      { record with
        tools := toolsByName tools
        approvedDigest := some record.manifest.implementationDigest
        status := .approved } }

def drifted (record : ServerRecord) (tenantId : TenantId) (serverId implementationDigest : String)
    (tools : List ToolSchemaSnapshot) : Bool :=
  tools.any (fun tool => !belongs codec tenantId serverId record.manifest.version tool) ||
    record.approvedDigest ≠ some implementationDigest || tools.length ≠ record.tools.size ||
    tools.any fun tool =>
      (record.tools[tool.toolName]?).all fun approved => approved.snapshotHash ≠ tool.snapshotHash

def writeStatus (tenantId : TenantId) (serverId : String) (record : ServerRecord)
    (status : McpServerStatus) : Except McpError (McpRegistry VerifyingKey) := do
  store.persist
  pure { registry with
    servers := registry.servers.insert (tenantId, serverId) { record with status := status } }

/-- `refresh`, which also says whether the server has changed. -/
def refresh (tenantId : TenantId) (serverId implementationDigest : String)
    (tools : List ToolSchemaSnapshot) : Except McpError (McpRegistry VerifyingKey × Bool) := do
  let record ← registry.record tenantId serverId
  if drifted codec record tenantId serverId implementationDigest tools then
    let frozen ← writeStatus store registry tenantId serverId record .frozen
    pure (frozen, true)
  else pure (registry, false)

def setStatus (tenantId : TenantId) (serverId : String) (status : McpServerStatus) :
    Except McpError (McpRegistry VerifyingKey) := do
  let record ← registry.record tenantId serverId
  writeStatus store registry tenantId serverId record status

def attempt : Operation VerifyingKey → Except McpError (McpRegistry VerifyingKey)
  | .addPublisherKey keyId key =>
    .ok { registry with publisherKeys := registry.publisherKeys.insert keyId ("", key) }
  | .addPublisherKeyFor keyId publisherId key => registry.addPublisherKeyFor keyId publisherId key
  | .register manifest => registry.register codec store manifest
  | .approve tenantId serverId tools => registry.approve codec store tenantId serverId tools
  | .refresh tenantId serverId implementationDigest tools =>
    (registry.refresh codec store tenantId serverId implementationDigest tools).map Prod.fst
  | .revoke tenantId serverId => registry.setStatus store tenantId serverId .revoked
  | .quarantine tenantId serverId => registry.setStatus store tenantId serverId .quarantined

def perform (operation : Operation VerifyingKey) :
    McpRegistry VerifyingKey × Except McpError Unit :=
  match registry.attempt codec store operation with
  | .ok changed => (changed, .ok ())
  | .error e => (registry, .error e)

def approvedTool (tenantId : TenantId) (serverId toolName : String) :
    Except McpError ToolSchemaSnapshot := do
  let record ← registry.record tenantId serverId
  require (record.status = .approved) .serverUnavailable
  require (.toolsCall ∈ record.manifest.permissions) .toolUnavailable
  match record.tools[toolName]? with
  | some tool => .ok tool
  | none => .error .toolUnavailable

end McpRegistry

section Step

open McpRegistry

variable {Bytes VerifyingKey : Type}

inductive RecordStep (codec : McpCodec Bytes VerifyingKey) (tenantId : TenantId)
    (serverId : String) :
    Option ServerRecord → Operation VerifyingKey → Option ServerRecord → Prop where
  | same (record : Option ServerRecord) (operation : Operation VerifyingKey) :
      RecordStep codec tenantId serverId record operation record
  | registered (manifest : McpServerManifest) (tenant : manifest.tenantId = tenantId)
      (server : manifest.serverId = serverId) (valid : validateManifest codec manifest = .ok ()) :
      RecordStep codec tenantId serverId none (.register manifest)
        (some ⟨manifest, .pending, ∅, none⟩)
  | approved (record : ServerRecord) (tools : List ToolSchemaSnapshot)
      (admitted : record.status = .pending ∨ record.status = .frozen)
      (own : tools.all (belongs codec tenantId serverId record.manifest.version) = true) :
      RecordStep codec tenantId serverId (some record) (.approve tenantId serverId tools)
        (some { record with
          tools := toolsByName tools
          approvedDigest := some record.manifest.implementationDigest
          status := .approved })
  | frozen (record : ServerRecord) (digest : String) (tools : List ToolSchemaSnapshot)
      (drift : drifted codec record tenantId serverId digest tools = true) :
      RecordStep codec tenantId serverId (some record) (.refresh tenantId serverId digest tools)
        (some { record with status := .frozen })
  | revoked (record : ServerRecord) :
      RecordStep codec tenantId serverId (some record) (.revoke tenantId serverId)
        (some { record with status := .revoked })
  | quarantined (record : ServerRecord) :
      RecordStep codec tenantId serverId (some record) (.quarantine tenantId serverId)
        (some { record with status := .quarantined })

variable {codec : McpCodec Bytes VerifyingKey} {store : StoreAnswer}
  {registry changed : McpRegistry VerifyingKey} {tenantId : TenantId} {serverId : String}
  {operation : Operation VerifyingKey}

theorem record_eq_ok {record : ServerRecord} :
    registry.record tenantId serverId = .ok record ↔
      registry.servers[(tenantId, serverId)]? = some record := by
  unfold McpRegistry.record
  split
  · next found hfound => simp [hfound]
  · next hnone => simp [hnone]

theorem RecordStep.written {tenant : TenantId} {server : String} {before : Option ServerRecord}
    {record : ServerRecord} (hbefore : registry.servers[(tenant, server)]? = before)
    (hstep : RecordStep codec tenant server before operation (some record))
    (tenantId : TenantId) (serverId : String) :
    RecordStep codec tenantId serverId registry.servers[(tenantId, serverId)]? operation
      (registry.servers.insert (tenant, server) record)[(tenantId, serverId)]? := by
  rw [BTreeMap.getElem?_insert_ite]
  by_cases hkey : (tenant, server) = (tenantId, serverId)
  · obtain ⟨rfl, rfl⟩ := Prod.mk.inj hkey
    rw [if_pos rfl, hbefore]
    exact hstep
  · rw [if_neg hkey]
    exact .same ..

theorem register_record {manifest : McpServerManifest}
    (h : registry.register codec store manifest = .ok changed) (tenantId : TenantId)
    (serverId : String) :
    RecordStep codec tenantId serverId registry.servers[(tenantId, serverId)]?
      (.register manifest) changed.servers[(tenantId, serverId)]? := by
  obtain ⟨_, hsigned, h⟩ := except_bind_eq_ok.mp h
  obtain ⟨_, -, h⟩ := except_bind_eq_ok.mp h
  obtain ⟨_, hfresh, h⟩ := except_bind_eq_ok.mp h
  obtain ⟨_, -, h⟩ := except_bind_eq_ok.mp h
  cases h
  obtain ⟨_, hvalid, -⟩ := except_bind_eq_ok.mp hsigned
  have hnone : registry.servers[(manifest.tenantId, manifest.serverId)]? = none := by
    have hcontains := require_eq_ok.mp hfresh
    rw [Std.ExtTreeMap.getElem?_eq_none]
    rw [← Std.ExtTreeMap.contains_iff_mem, hcontains]
    exact nofun
  exact .written hnone (.registered manifest rfl rfl hvalid) tenantId serverId

theorem approve_record {tenant : TenantId} {server : String} {tools : List ToolSchemaSnapshot}
    (h : registry.approve codec store tenant server tools = .ok changed) (tenantId : TenantId)
    (serverId : String) :
    RecordStep codec tenantId serverId registry.servers[(tenantId, serverId)]?
      (.approve tenant server tools) changed.servers[(tenantId, serverId)]? := by
  obtain ⟨record, hrecord, h⟩ := except_bind_eq_ok.mp h
  obtain ⟨_, hadmitted, h⟩ := except_bind_eq_ok.mp h
  obtain ⟨_, hown, h⟩ := except_bind_eq_ok.mp h
  obtain ⟨_, -, h⟩ := except_bind_eq_ok.mp h
  obtain ⟨_, -, h⟩ := except_bind_eq_ok.mp h
  cases h
  exact .written (record_eq_ok.mp hrecord)
    (.approved record tools (require_eq_ok.mp hadmitted) (require_eq_ok.mp hown).2)
    tenantId serverId

theorem writeStatus_record {tenant : TenantId} {server : String} {record : ServerRecord}
    {status : McpServerStatus}
    (h : registry.writeStatus store tenant server record status = .ok changed)
    (hrecord : registry.servers[(tenant, server)]? = some record)
    (hstep : RecordStep codec tenant server (some record) operation
      (some { record with status := status }))
    (tenantId : TenantId) (serverId : String) :
    RecordStep codec tenantId serverId registry.servers[(tenantId, serverId)]? operation
      changed.servers[(tenantId, serverId)]? := by
  obtain ⟨_, -, h⟩ := except_bind_eq_ok.mp h
  cases h
  exact .written hrecord hstep tenantId serverId

theorem refresh_record {tenant : TenantId} {server digest : String}
    {tools : List ToolSchemaSnapshot} {drift : Bool}
    (h : registry.refresh codec store tenant server digest tools = .ok (changed, drift))
    (tenantId : TenantId) (serverId : String) :
    RecordStep codec tenantId serverId registry.servers[(tenantId, serverId)]?
      (.refresh tenant server digest tools) changed.servers[(tenantId, serverId)]? := by
  obtain ⟨record, hrecord, h⟩ := except_bind_eq_ok.mp h
  have hrecord := record_eq_ok.mp hrecord
  split at h
  · next hdrift =>
    obtain ⟨frozen, hfrozen, h⟩ := except_bind_eq_ok.mp h
    cases h
    exact writeStatus_record hfrozen hrecord (.frozen record digest tools hdrift) tenantId serverId
  · cases h
    exact .same ..

/-- **Step lemma**: an operation takes the record of each server at most one step. -/
theorem perform_record (codec : McpCodec Bytes VerifyingKey) (store : StoreAnswer)
    (registry : McpRegistry VerifyingKey) (operation : Operation VerifyingKey)
    (tenantId : TenantId) (serverId : String) :
    RecordStep codec tenantId serverId registry.servers[(tenantId, serverId)]? operation
      (registry.perform codec store operation).1.servers[(tenantId, serverId)]? := by
  unfold perform
  split
  · next changed hchanged =>
    cases operation with
    | addPublisherKey keyId key =>
      cases hchanged
      exact .same ..
    | addPublisherKeyFor keyId publisherId key =>
      have hadded : registry.addPublisherKeyFor keyId publisherId key = .ok changed := hchanged
      unfold addPublisherKeyFor at hadded
      split at hadded
      · cases hadded
      · cases hadded
        exact .same ..
    | register manifest => exact register_record hchanged tenantId serverId
    | approve tenant server tools => exact approve_record hchanged tenantId serverId
    | refresh tenant server digest tools =>
      have hrefreshed : (registry.refresh codec store tenant server digest tools).map Prod.fst =
        .ok changed := hchanged
      cases hrefresh : registry.refresh codec store tenant server digest tools with
      | error e =>
        rw [hrefresh] at hrefreshed
        cases hrefreshed
      | ok result =>
        obtain ⟨frozen, drift⟩ := result
        rw [hrefresh] at hrefreshed
        cases hrefreshed
        exact refresh_record hrefresh tenantId serverId
    | revoke tenant server =>
      obtain ⟨record, hrecord, h⟩ := except_bind_eq_ok.mp hchanged
      exact writeStatus_record h (record_eq_ok.mp hrecord) (.revoked record) tenantId serverId
    | quarantine tenant server =>
      obtain ⟨record, hrecord, h⟩ := except_bind_eq_ok.mp hchanged
      exact writeStatus_record h (record_eq_ok.mp hrecord) (.quarantined record) tenantId serverId
  · exact .same ..

theorem approvedTool_eq_ok {toolName : String} {tool : ToolSchemaSnapshot} :
    registry.approvedTool tenantId serverId toolName = .ok tool ↔
      ∃ record, registry.servers[(tenantId, serverId)]? = some record ∧
        record.status = .approved ∧ .toolsCall ∈ record.manifest.permissions ∧
        record.tools[toolName]? = some tool := by
  constructor
  · intro h
    obtain ⟨record, hrecord, h⟩ := except_bind_eq_ok.mp h
    obtain ⟨_, hstatus, h⟩ := except_bind_eq_ok.mp h
    obtain ⟨_, hpermitted, h⟩ := except_bind_eq_ok.mp h
    refine ⟨record, record_eq_ok.mp hrecord, require_eq_ok.mp hstatus,
      require_eq_ok.mp hpermitted, ?_⟩
    split at h
    · next found hfound =>
      cases h
      exact hfound
    · cases h
  · rintro ⟨record, hrecord, hstatus, hpermitted, htool⟩
    unfold approvedTool
    rw [record_eq_ok.mpr hrecord]
    simp [require, hstatus, hpermitted, htool, bind, Except.bind]

end Step

-- Runs

abbrev RegistryStep (VerifyingKey : Type) := StoreAnswer × Operation VerifyingKey

section Runs

open McpRegistry

variable {Bytes VerifyingKey : Type}

def run (codec : McpCodec Bytes VerifyingKey) (steps : List (RegistryStep VerifyingKey)) :
    McpRegistry VerifyingKey :=
  steps.foldl (fun registry step => (registry.perform codec step.1 step.2).1) .empty

def Closed (record : Option ServerRecord) : Prop :=
  ∃ closed, record = some closed ∧ (closed.status = .revoked ∨ closed.status = .quarantined)

def SparesClosed (codec : McpCodec Bytes VerifyingKey) (registry : McpRegistry VerifyingKey) :
    Operation VerifyingKey → Prop
  | .refresh tenantId serverId digest tools =>
    ∀ record, registry.servers[(tenantId, serverId)]? = some record →
      (record.status = .revoked ∨ record.status = .quarantined) →
        drifted codec record tenantId serverId digest tools = false
  | _ => True

variable {codec : McpCodec Bytes VerifyingKey} {steps past rest : List (RegistryStep VerifyingKey)}
  {tenantId : TenantId} {serverId : String}

theorem run_concat (step : RegistryStep VerifyingKey) :
    run codec (steps ++ [step]) = ((run codec steps).perform codec step.1 step.2).1 := by
  rw [run, List.foldl_append]
  rfl

theorem run_record (codec : McpCodec Bytes VerifyingKey) (steps : List (RegistryStep VerifyingKey))
    (step : RegistryStep VerifyingKey) (tenantId : TenantId) (serverId : String) :
    RecordStep codec tenantId serverId (run codec steps).servers[(tenantId, serverId)]? step.2
      (run codec (steps ++ [step])).servers[(tenantId, serverId)]? := by
  rw [run_concat]
  exact perform_record codec step.1 _ step.2 tenantId serverId

theorem RecordStep.manifest {before after : Option ServerRecord}
    {operation : Operation VerifyingKey}
    (h : RecordStep codec tenantId serverId before operation after) {record : ServerRecord}
    (hrecord : before = some record) :
    ∃ record', after = some record' ∧ record'.manifest = record.manifest := by
  cases h with
  | same => exact ⟨record, hrecord, rfl⟩
  | registered => cases hrecord
  | approved | frozen | revoked | quarantined =>
    cases hrecord
    exact ⟨_, rfl, rfl⟩

theorem RecordStep.closed {before after : Option ServerRecord} {operation : Operation VerifyingKey}
    (h : RecordStep codec tenantId serverId before operation after) (hclosed : Closed before)
    (hspares : ∀ digest tools record, operation = .refresh tenantId serverId digest tools →
      before = some record → (record.status = .revoked ∨ record.status = .quarantined) →
        drifted codec record tenantId serverId digest tools = false) : Closed after := by
  obtain ⟨closed, rfl, hstatus⟩ := hclosed
  cases h with
  | same => exact ⟨closed, rfl, hstatus⟩
  | approved _ tools admitted =>
    obtain hstatus | hstatus := hstatus <;> obtain hadmitted | hadmitted := admitted <;>
      cases hstatus.symm.trans hadmitted
  | frozen _ digest tools drift =>
    rw [hspares digest tools closed rfl rfl hstatus] at drift
    cases drift
  | revoked => exact ⟨_, rfl, .inl rfl⟩
  | quarantined => exact ⟨_, rfl, .inr rfl⟩

theorem manifest_of_run {record : ServerRecord}
    (hrecord : (run codec past).servers[(tenantId, serverId)]? = some record) :
    ∃ record', (run codec (past ++ rest)).servers[(tenantId, serverId)]? = some record' ∧
      record'.manifest = record.manifest := by
  induction rest using List.reverseRecOn with
  | nil => exact ⟨record, by simpa using hrecord, rfl⟩
  | append_singleton rest step ih =>
    obtain ⟨record₁, hrecord₁, hmanifest₁⟩ := ih
    obtain ⟨record₂, hrecord₂, hmanifest₂⟩ :=
      (run_record codec (past ++ rest) step tenantId serverId).manifest hrecord₁
    exact ⟨record₂, by rwa [← List.append_assoc], hmanifest₂.trans hmanifest₁⟩

theorem closed_of_run
    (hspares : ∀ before step after, past ++ rest = before ++ step :: after →
      SparesClosed codec (run codec before) step.2)
    (hclosed : Closed (run codec past).servers[(tenantId, serverId)]?) :
    Closed (run codec (past ++ rest)).servers[(tenantId, serverId)]? := by
  induction rest using List.reverseRecOn with
  | nil => simpa using hclosed
  | append_singleton rest step ih =>
    have hbefore := ih fun before other after hsplit =>
      hspares before other (after ++ [step]) (by rw [← List.append_assoc, hsplit]; simp)
    rw [← List.append_assoc]
    refine (run_record codec _ step tenantId serverId).closed hbefore ?_
    intro digest tools record hrefresh hrecord hstatus
    have hmeets := hspares (past ++ rest) step [] (by simp)
    rw [hrefresh] at hmeets
    exact hmeets record hrecord hstatus

theorem mem_of_toolsByName {tools : List ToolSchemaSnapshot} {toolName : String}
    {tool : ToolSchemaSnapshot} (h : (toolsByName tools)[toolName]? = some tool) :
    tool ∈ tools ∧ tool.toolName = toolName := by
  induction tools using List.reverseRecOn with
  | nil => simp [toolsByName] at h
  | append_singleton tools last ih =>
    rw [toolsByName, List.foldl_append, List.foldl_cons, List.foldl_nil,
      BTreeMap.getElem?_insert_ite] at h
    split at h
    · next hname =>
      cases h
      exact ⟨by simp, hname⟩
    · obtain ⟨hmem, hname⟩ := ih h
      exact ⟨List.mem_append_left _ hmem, hname⟩

structure ApprovedBy (codec : McpCodec Bytes VerifyingKey)
    (steps : List (RegistryStep VerifyingKey)) (tenantId : TenantId) (serverId : String)
    (tools : List ToolSchemaSnapshot) (record : ServerRecord) : Prop where
  own : ∀ tool ∈ tools, belongs codec tenantId serverId record.manifest.version tool = true
  toolsKept : record.tools = toolsByName tools
  last : ∃ past answer rest, steps = past ++ (answer, .approve tenantId serverId tools) :: rest ∧
    ((run codec past).perform codec answer (.approve tenantId serverId tools)).2 = .ok () ∧
    ∀ since, since <+: rest →
      (run codec (past ++ (answer, .approve tenantId serverId tools) :: since)).servers[
        (tenantId, serverId)]? = some record

theorem ApprovedBy.concat {tools : List ToolSchemaSnapshot} {record : ServerRecord}
    (h : ApprovedBy codec steps tenantId serverId tools record) {step : RegistryStep VerifyingKey}
    (hsame : (run codec (steps ++ [step])).servers[(tenantId, serverId)]? = some record) :
    ApprovedBy codec (steps ++ [step]) tenantId serverId tools record := by
  obtain ⟨hown, htools, past, answer, rest, rfl, hok, hsince⟩ := h
  refine ⟨hown, htools, past, answer, rest ++ [step], by simp, hok, fun since hpre => ?_⟩
  rcases List.prefix_concat_iff.mp hpre with rfl | hpre
  · simpa using hsame
  · exact hsince since hpre

theorem perform_changed (codec : McpCodec Bytes VerifyingKey) (store : StoreAnswer)
    (registry : McpRegistry VerifyingKey) (operation : Operation VerifyingKey)
    {tenantId : TenantId} {serverId : String}
    (h : (registry.perform codec store operation).1.servers[(tenantId, serverId)]? ≠
      registry.servers[(tenantId, serverId)]?) :
    (registry.perform codec store operation).2 = .ok () := by
  unfold perform at h ⊢
  split
  · rfl
  · next hrefused => simp [hrefused] at h

theorem approvedBy_of_run {record : ServerRecord}
    (hrecord : (run codec steps).servers[(tenantId, serverId)]? = some record)
    (hstatus : record.status = .approved) :
    ∃ tools, ApprovedBy codec steps tenantId serverId tools record := by
  induction steps using List.reverseRecOn generalizing record with
  | nil => simp [run, McpRegistry.empty] at hrecord
  | append_singleton steps step ih =>
    have hstep := run_record codec steps step tenantId serverId
    obtain ⟨answer, operation⟩ := step
    have hchanged : (run codec (steps ++ [(answer, operation)])).servers[(tenantId, serverId)]? ≠
        (run codec steps).servers[(tenantId, serverId)]? →
        ((run codec steps).perform codec answer operation).2 = .ok () := by
      rw [run_concat]
      exact perform_changed codec answer _ operation
    generalize hbefore : (run codec steps).servers[(tenantId, serverId)]? = before at hstep hchanged
    rw [hrecord] at hstep
    cases hstep with
    | same =>
      obtain ⟨tools, hby⟩ := ih hbefore hstatus
      exact ⟨tools, hby.concat hrecord⟩
    | registered | frozen | revoked | quarantined => cases hstatus
    | approved old tools admitted own =>
      refine ⟨tools, by simpa using own, rfl, steps, answer, [], rfl, ?_, ?_⟩
      · refine hchanged ?_
        rw [hrecord]
        intro hsame
        have hstatus := congrArg ServerRecord.status (Option.some.inj hsame)
        obtain hadmitted | hadmitted := admitted <;> simp [hadmitted] at hstatus
      · intro since hpre
        obtain rfl := List.prefix_nil.mp hpre
        exact hrecord

/-- **The lifecycle of servers**: in a run that spares servers taken out of use, such a server is
never used again; a tool is one of the last approval of its server; manifests stay. -/
theorem servers_follow_lifecycle
    (hspares : ∀ before step after, steps = before ++ step :: after →
      SparesClosed codec (run codec before) step.2) :
    (∀ past rest (tenantId : TenantId) (serverId : String), steps = past ++ rest →
      Closed (run codec past).servers[(tenantId, serverId)]? →
        ∀ toolName tool, (run codec steps).approvedTool tenantId serverId toolName ≠ .ok tool) ∧
    (∀ tenantId serverId toolName tool,
      (run codec steps).approvedTool tenantId serverId toolName = .ok tool →
        ∃ record tools, (run codec steps).servers[(tenantId, serverId)]? = some record ∧
          ApprovedBy codec steps tenantId serverId tools record ∧ tool ∈ tools) ∧
    (∀ past rest (tenantId : TenantId) (serverId : String) (record : ServerRecord),
      steps = past ++ rest →
      (run codec past).servers[(tenantId, serverId)]? = some record →
        ∃ record' : ServerRecord,
          (run codec steps).servers[(tenantId, serverId)]? = some record' ∧
          record'.manifest = record.manifest) := by
  refine ⟨?_, ?_, ?_⟩
  · rintro past rest tenantId serverId rfl hclosed toolName tool htool
    obtain ⟨closed, hfound, hstatus⟩ := closed_of_run hspares hclosed
    obtain ⟨record, hrecord, happroved, -⟩ := approvedTool_eq_ok.mp htool
    obtain rfl := Option.some.inj (hfound.symm.trans hrecord)
    simp [happroved] at hstatus
  · intro tenantId serverId toolName tool htool
    obtain ⟨record, hrecord, happroved, -, hfound⟩ := approvedTool_eq_ok.mp htool
    obtain ⟨tools, hby⟩ := approvedBy_of_run hrecord happroved
    rw [hby.toolsKept] at hfound
    exact ⟨record, tools, hrecord, hby, (mem_of_toolsByName hfound).1⟩
  · rintro past rest tenantId serverId record rfl hrecord
    exact manifest_of_run hrecord

end Runs

-- A sample server

def sampleMcpCodec : McpCodec String String where
  parseUrl _ := none
  isSchema _ := true
  validatorFor _ := some fun _ => true
  schemaHash _ := some (sampleHash '1')
  snapshotHash _ := some (sampleHash '2')
  manifestHash _ := some (sampleHash '3')
  manifestJcs manifest := some manifest.serverId
  isSignature _ := true
  verifies _ _ _ := true

def sampleServer (serverId : String) : McpServerManifest where
  schemaVersion := mcpSchemaVersion
  tenantId := "tenant"
  serverId := serverId
  version := "1.0.0"
  publisherId := "publisher"
  transport := "stdio"
  endpoint := "sha256:" ++ sampleHash 'c'
  implementationDigest := "sha256:" ++ sampleHash 'd'
  sbomDigest := "sha256:" ++ sampleHash 'e'
  permissions := [.toolsList, .toolsCall]
  networkEndpoints := []
  trustTier := "untrusted"
  signerKeyId := "publisher-key"
  signature := String.ofList (List.replicate 86 'A')

def sampleSnapshot (serverId toolName : String) : ToolSchemaSnapshot where
  schemaVersion := mcpSchemaVersion
  tenantId := "tenant"
  serverId := serverId
  serverVersion := "1.0.0"
  toolName := toolName
  namespacedToolId := namespacedId serverId toolName
  inputSchema := .object [("type", .string "object")]
  outputSchema := .object [("type", .string "object")]
  declaredEffect := .pure
  schemaHash := sampleHash '1'
  snapshotHash := sampleHash '2'

def registeringSteps : List (RegistryStep String) :=
  [(none, .addPublisherKey "publisher-key" "key"), (none, .register (sampleServer "server"))]

def sampleRegistered : McpRegistry String :=
  ⟨(∅ : BTreeMap _ _).insert "publisher-key" ("", "key"),
    (∅ : BTreeMap _ _).insert ("tenant", "server") ⟨sampleServer "server", .pending, ∅, none⟩⟩

theorem validDigest_sampleHash {c : Char} (h : (c.isDigit || ('a' ≤ c && c ≤ 'f')) = true)
    (hsize : c.utf8Size = 1) : validDigest ("sha256:" ++ sampleHash c) = true := by
  rw [validDigest, Bool.and_eq_true, String.toList_append]
  refine ⟨by simp, ?_⟩
  have hdrop : ("sha256:".toList ++ (sampleHash c).toList).drop 7 = (sampleHash c).toList := by
    simp
  rw [hdrop, String.ofList_toList]
  exact isDigest_sampleHash h hsize

theorem sampleServer_valid {Bytes VerifyingKey : Type} (codec : McpCodec Bytes VerifyingKey) :
    validateManifest codec (sampleServer "server") = .ok () := by
  have hsignature : (String.ofList (List.replicate 86 'A')).utf8ByteSize = 86 := by
    rw [Uuid.utf8ByteSize_ofList] <;> simp [show 'A'.utf8Size = 1 from rfl]
  refine except_bind_eq_ok.mpr ⟨(), require_eq_ok.mpr ?_, ?_⟩
  · have hname : (sampleServer "server").serverId ≠ "" ∧
        (sampleServer "server").serverId.utf8ByteSize ≤ 256 ∧
        (sampleServer "server").serverId.toList.all isServerIdChar = true ∧
        (sampleServer "server").version ≠ "" ∧
        (sampleServer "server").version.utf8ByteSize ≤ 128 ∧
        (sampleServer "server").publisherId ≠ "" ∧
        (sampleServer "server").publisherId.utf8ByteSize ≤ 256 ∧
        (sampleServer "server").signerKeyId ≠ "" ∧
        (sampleServer "server").signerKeyId.utf8ByteSize ≤ 128 := by decide
    obtain ⟨h1, h2, h3, h4, h5, h6, h7, h8, h9⟩ := hname
    refine ⟨rfl, h1, h2, h3, h4, h5, h6, h7, h8, h9, hsignature,
      validDigest_sampleHash (c := 'd') (by decide) rfl,
      validDigest_sampleHash (c := 'e') (by decide) rfl, ?_⟩
    exact ⟨by decide, nofun, by decide, by decide, by decide, rfl, by decide, by decide, rfl⟩
  · rw [if_neg (by decide)]
    exact require_eq_ok.mpr (validDigest_sampleHash (c := 'c') (by decide) rfl)

theorem register_sampleServer {codec : McpCodec String String} {registry : McpRegistry String}
    (hkey : registry.publisherKeys["publisher-key"]? = some ("", "key"))
    (hfresh : registry.servers.contains (("tenant", "server") : ServerKey) = false)
    (hsignature : codec.isSignature = sampleMcpCodec.isSignature)
    (hverifies : codec.verifies = sampleMcpCodec.verifies)
    (hjcs : codec.manifestJcs = sampleMcpCodec.manifestJcs)
    (hhash : codec.manifestHash = sampleMcpCodec.manifestHash) :
    registry.register codec none (sampleServer "server") = .ok { registry with
      servers := registry.servers.insert ("tenant", "server")
        ⟨sampleServer "server", .pending, ∅, none⟩ } := by
  have hsigned : registry.checkSigned codec none (sampleServer "server") = .ok () := by
    refine except_bind_eq_ok.mpr ⟨(), sampleServer_valid codec, ?_⟩
    rw [show (sampleServer "server").signerKeyId = "publisher-key" from rfl, hkey]
    refine except_bind_eq_ok.mpr ⟨(), require_eq_ok.mpr (.inr ⟨rfl, rfl⟩), ?_⟩
    refine except_bind_eq_ok.mpr ⟨(), require_eq_ok.mpr (by rw [hsignature]; rfl), ?_⟩
    rw [hjcs]
    exact require_eq_ok.mpr (by rw [hverifies]; rfl)
  refine except_bind_eq_ok.mpr ⟨(), hsigned, ?_⟩
  refine except_bind_eq_ok.mpr ⟨(), require_eq_ok.mpr (by rw [hhash]; rfl), ?_⟩
  exact except_bind_eq_ok.mpr ⟨(), require_eq_ok.mpr hfresh, rfl⟩

theorem perform_register_sampleServer {codec : McpCodec String String}
    (hregister : McpRegistry.register codec none
      ⟨(∅ : BTreeMap _ _).insert "publisher-key" ("", "key"), ∅⟩ (sampleServer "server") =
        .ok sampleRegistered) :
    (McpRegistry.perform codec none ⟨(∅ : BTreeMap _ _).insert "publisher-key" ("", "key"), ∅⟩
      (.register (sampleServer "server"))).1 = sampleRegistered := by
  have hattempt : McpRegistry.attempt codec none
      ⟨(∅ : BTreeMap _ _).insert "publisher-key" ("", "key"), ∅⟩
      (.register (sampleServer "server")) = .ok sampleRegistered := hregister
  rw [McpRegistry.perform, hattempt]

theorem run_registeringSteps (codec : McpCodec String String)
    (hsignature : codec.isSignature = sampleMcpCodec.isSignature)
    (hverifies : codec.verifies = sampleMcpCodec.verifies)
    (hjcs : codec.manifestJcs = sampleMcpCodec.manifestJcs)
    (hhash : codec.manifestHash = sampleMcpCodec.manifestHash)
    (steps : List (RegistryStep String)) :
    run codec (registeringSteps ++ steps) =
      steps.foldl (fun registry step => (registry.perform codec step.1 step.2).1)
        sampleRegistered := by
  have hkey : run codec [(none, .addPublisherKey "publisher-key" "key")] =
      ⟨(∅ : BTreeMap _ _).insert "publisher-key" ("", "key"), ∅⟩ := rfl
  have hsplit : registeringSteps = [(none, .addPublisherKey "publisher-key" "key")] ++
      [(none, .register (sampleServer "server"))] := rfl
  have hregistered : run codec registeringSteps = sampleRegistered := by
    rw [hsplit, run_concat, hkey]
    exact perform_register_sampleServer
      (register_sampleServer (by simp) (by simp) hsignature hverifies hjcs hhash)
  rw [run, List.foldl_append, ← hregistered]
  rfl

def revokedSteps : List (RegistryStep String) :=
  [(none, .addPublisherKey "publisher-key" "key"), (none, .register (sampleServer "server")),
    (none, .approve "tenant" "server" [sampleSnapshot "server" "read"]),
    (none, .revoke "tenant" "server")]

def thawingSteps : List (RegistryStep String) :=
  [(none, .refresh "tenant" "server" ("sha256:" ++ sampleHash 'd') []),
    (none, .approve "tenant" "server" [sampleSnapshot "server" "read"])]

theorem revokedSteps_closed :
    Closed (run sampleMcpCodec revokedSteps).servers[("tenant", "server")]? := by
  have hsplit : revokedSteps = registeringSteps ++
      [(none, .approve "tenant" "server" [sampleSnapshot "server" "read"]),
        (none, .revoke "tenant" "server")] := rfl
  have hstatus : (run sampleMcpCodec revokedSteps).servers[("tenant", "server")]?.map
      ServerRecord.status = some .revoked := by
    rw [hsplit, run_registeringSteps sampleMcpCodec rfl rfl rfl rfl]
    decide
  obtain ⟨record, hrecord, hrevoked⟩ := Option.map_eq_some_iff.mp hstatus
  exact ⟨record, hrecord, .inl hrevoked⟩

/-- **Counterexample**: a revoked server is frozen when it has changed, and can then be approved. -/
theorem revoked_server_approved :
    Closed (run sampleMcpCodec revokedSteps).servers[("tenant", "server")]? ∧
      (run sampleMcpCodec (revokedSteps ++ thawingSteps)).approvedTool "tenant" "server" "read" =
        .ok (sampleSnapshot "server" "read") := by
  have hsplit : revokedSteps ++ thawingSteps = registeringSteps ++
      ([(none, .approve "tenant" "server" [sampleSnapshot "server" "read"]),
        (none, .revoke "tenant" "server")] ++ thawingSteps) := rfl
  refine ⟨revokedSteps_closed, ?_⟩
  rw [hsplit, run_registeringSteps sampleMcpCodec rfl rfl rfl rfl]
  decide

theorem sparesClosed_of_forall {Bytes VerifyingKey : Type} {codec : McpCodec Bytes VerifyingKey}
    {steps : List (RegistryStep VerifyingKey)}
    (h : ∀ step ∈ steps, ∀ tenantId serverId digest tools,
      step.2 ≠ .refresh tenantId serverId digest tools)
    (before : List (RegistryStep VerifyingKey)) (step : RegistryStep VerifyingKey)
    (after : List (RegistryStep VerifyingKey)) (hsplit : steps = before ++ step :: after) :
    SparesClosed codec (run codec before) step.2 := by
  have hstep := h step (by simp [hsplit])
  cases hoperation : step.2 with
  | refresh tenantId serverId digest tools =>
    exact absurd hoperation (hstep tenantId serverId digest tools)
  | _ => trivial

theorem servers_follow_lifecycle_sample :
    (run sampleMcpCodec (revokedSteps ++ [(none, .approve "tenant" "server"
      [sampleSnapshot "server" "read"])])).approvedTool "tenant" "server" "read" ≠
        .ok (sampleSnapshot "server" "read") :=
  (servers_follow_lifecycle (sparesClosed_of_forall (by simp [revokedSteps]))).1 revokedSteps _ _ _
    rfl revokedSteps_closed _ _

end AgentSphere.Mcp
