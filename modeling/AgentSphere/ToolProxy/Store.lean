import AgentSphere.Contracts.Authority
import AgentSphere.Lib.Program

/-!
# The invocations of the tool proxy

One row for each tenant and idempotency key. Every transaction of the store takes the advisory
lock of its row first, so that it happens at one moment; it may also be rolled back, and it may be
committed although the caller is told that the store is unavailable. Constraints of the table that
refuse an insertion or an update roll the transaction back, too.

The rows of the audit trail and of the outbox are written in the same transactions and are left
out, as are the instants `created_at`, `updated_at` and `completed_at`.
-/

namespace AgentSphere.ToolProxy

open Concurrency

def proxySchemaVersion : String := "agenttrust.proxy.v1"
def maxProxyResponseBytes : Nat := 1048576
def maxProxyRedactions : Nat := 4096

inductive InvocationState where
  | prepared
  | executing
  | succeeded
  | failed
  | unknown
  deriving DecidableEq, Repr

inductive ProductionProxyError where
  | storeUnavailable
  | idempotencyConflict
  | stateConflict
  | registryTrustInvalid
  | dependency (reason : String)
  deriving DecidableEq, Repr

/-- A row of `tool_proxy_invocations`. -/
structure Invocation where
  requestDigest : String
  authorizationId : String
  authorizationDigest : String
  ledgerExecutionId : ExecutionId
  ledgerEventId : String
  ledgerEventDigest : String
  fenceDigest : String
  actionHash : ActionHash
  traceId : String
  toolId : ToolId
  toolVersion : ToolVersion
  toolSnapshotHash : String
  registryRevision : Nat
  credentialClaimsDigest : String
  targetProfileHash : String
  executionOwner : Option String := none
  executionLeaseUntil : Option DateTime := none
  state : InvocationState := .prepared
  safeResult : Option SanitizedToolResult := none
  safeResultDigest : Option String := none
  stableError : Option String := none
  credentialConsumptionId : Option String := none
  credentialConsumptionReceiptDigest : Option String := none

abbrev Store := BTreeMap (TenantId × IdempotencyKey) Invocation

def rowKey (request : AuthorizedToolRequest) : TenantId × IdempotencyKey :=
  (request.tenantId, request.idempotencyKey)

inductive PrepareOutcome where
  | new
  | retryPrepared
  | replaySucceeded (result : SanitizedToolResult)
  | replayFailed (code : String)
  | unknown

structure ProxyCodec where
  /-- `canonical_digest` of a request, of an authorization, of a result and of a receipt. -/
  requestDigest : AuthorizedToolRequest → Option String
  authorizationDigest : ExecutionAuthorization → Option String
  resultDigest : SanitizedToolResult → Option String
  receiptDigest : SignedWorkloadCredentialConsumptionReceipt → Option String
  /-- The SHA-256 of the canonical JSON of a value, and the length of that JSON. -/
  valueHash : Value → Option String
  valueSize : Value → Option Nat
  resultSize : SanitizedToolResult → Option Nat
  sha256 : String → String
  /-- What is read back from a column of type `jsonb`. -/
  reread : SanitizedToolResult → Option SanitizedToolResult

-- Checks

def available {α : Type} (value : Option α) : Except ProductionProxyError α :=
  match value with
  | some a => .ok a
  | none => .error .storeUnavailable

def isCanonicalUuid (value : String) : Bool := (Uuid.parseStr value).map Uuid.toStr == some value

def parseUuid (value : String) : Except ProductionProxyError Unit :=
  require (isCanonicalUuid value = true) .storeUnavailable

def validateErrorCode (code : String) : Except ProductionProxyError Unit :=
  require (code ≠ "" ∧ code.utf8ByteSize ≤ 128 ∧ code.toList.all isAsciiGraphic = true ∧
    code.startsWith "PROXY_" = true) .storeUnavailable

def validateArtifactRef (reference : String) : Bool :=
  reference.startsWith "artifact://sha256/" && isDigest ((reference.drop 18).toString)

def isStorableToken (value : String) : Bool :=
  !value.isEmpty && value.utf8ByteSize ≤ 128 && isPathToken value

def validatePersistenceIdentity (request : AuthorizedToolRequest) :
    Except ProductionProxyError Unit := do
  parseUuid request.tenantId
  parseUuid request.ledgerExecutionId
  parseUuid request.ledgerEventId
  parseUuid request.authorization.authorizationId
  require (isStorableToken request.idempotencyKey = true ∧ isDigest request.fenceDigest = true ∧
    isDigest request.ledgerEventDigest = true ∧ isDigest request.authorization.actionHash = true ∧
    isDigest request.tool.snapshotHash = true ∧
    isDigest request.authorization.workloadCredentialClaimsDigest = true ∧
    request.tool.registryRevision ≠ 0 ∧ request.tool.registryRevision < 2 ^ 63 ∧
    isStorableToken request.traceId = true ∧
    request.tool.toolId ≠ "" ∧ request.tool.toolId.utf8ByteSize ≤ 256 ∧
    request.tool.toolVersion ≠ "" ∧ request.tool.toolVersion.utf8ByteSize ≤ 256)
    .idempotencyConflict

def isRedactedPath (path : String) : Bool :=
  !path.isEmpty && path.utf8ByteSize ≤ 2048 && path.startsWith "$" && !path.toList.any isControl

def validateReplayedResult (codec : ProxyCodec) (result : SanitizedToolResult)
    (storedResultDigest storedConsumptionId storedReceiptDigest : String) :
    Except ProductionProxyError Unit := do
  let valueHash ← available (codec.valueHash result.value)
  let resultDigest ← available (codec.resultDigest result)
  let receiptDigest ← available (codec.receiptDigest result.credentialConsumptionReceipt)
  let resultSize ← available (codec.resultSize result)
  require (result.schemaVersion = proxySchemaVersion ∧ isDigest storedResultDigest = true ∧
    isDigest storedReceiptDigest = true ∧ isDigest result.resultHash = true ∧
    result.resultHash = valueHash ∧ resultDigest = storedResultDigest ∧
    result.credentialConsumptionReceipt.consumptionId = storedConsumptionId ∧
    receiptDigest = storedReceiptDigest ∧ result.redactedPaths.length ≤ maxProxyRedactions ∧
    result.redactedPaths.all isRedactedPath = true ∧ resultSize ≤ maxProxyResponseBytes)
    .storeUnavailable
  require (result.artifactRef.all validateArtifactRef = true) .storeUnavailable

namespace Invocation

def For (codec : ProxyCodec) (row : Invocation) (request : AuthorizedToolRequest) : Prop :=
  codec.requestDigest request = some row.requestDigest ∧
    row.authorizationId = request.authorization.authorizationId ∧
    codec.authorizationDigest request.authorization = some row.authorizationDigest ∧
    row.ledgerExecutionId = request.ledgerExecutionId ∧
    row.ledgerEventId = request.ledgerEventId ∧
    row.ledgerEventDigest = request.ledgerEventDigest ∧ row.fenceDigest = request.fenceDigest

instance (codec : ProxyCodec) (row : Invocation) (request : AuthorizedToolRequest) :
    Decidable (row.For codec request) :=
  inferInstanceAs (Decidable (_ ∧ _))

def storedResult (codec : ProxyCodec) (row : Invocation) :
    Except ProductionProxyError SanitizedToolResult := do
  let result ← available (row.safeResult.bind codec.reread)
  let resultDigest ← available row.safeResultDigest
  let consumptionId ← available row.credentialConsumptionId
  let receiptDigest ← available row.credentialConsumptionReceiptDigest
  validateReplayedResult codec result resultDigest consumptionId receiptDigest
  pure result

/-- What `prepare` makes of a row that is there already. -/
def replay (codec : ProxyCodec) (row : Invocation) : Except ProductionProxyError PrepareOutcome :=
  match row.state with
  | .prepared => .ok .retryPrepared
  | .executing | .unknown => .ok .unknown
  | .succeeded => do
    let result ← row.storedResult codec
    pure (.replaySucceeded result)
  | .failed => do
    let code ← available row.stableError
    validateErrorCode code
    pure (.replayFailed code)

def preparedFor (codec : ProxyCodec) (request : AuthorizedToolRequest)
    (requestDigest authorizationDigest : String) : Invocation where
  requestDigest := requestDigest
  authorizationId := request.authorization.authorizationId
  authorizationDigest := authorizationDigest
  ledgerExecutionId := request.ledgerExecutionId
  ledgerEventId := request.ledgerEventId
  ledgerEventDigest := request.ledgerEventDigest
  fenceDigest := request.fenceDigest
  actionHash := request.authorization.actionHash
  traceId := request.traceId
  toolId := request.tool.toolId
  toolVersion := request.tool.toolVersion
  toolSnapshotHash := request.tool.snapshotHash
  registryRevision := request.tool.registryRevision
  credentialClaimsDigest := request.authorization.workloadCredentialClaimsDigest
  targetProfileHash := codec.sha256 request.targetProfile

end Invocation

def prepare (codec : ProxyCodec) (request : AuthorizedToolRequest) (store : Store) :
    Except ProductionProxyError (PrepareOutcome × Store) := do
  validatePersistenceIdentity request
  let requestDigest ← available (codec.requestDigest request)
  let authorizationDigest ← available (codec.authorizationDigest request.authorization)
  match store[rowKey request]? with
  | some row =>
    require (row.For codec request) .idempotencyConflict
    let outcome ← row.replay codec
    pure (outcome, store)
  | none =>
    let row := Invocation.preparedFor codec request requestDigest authorizationDigest
    pure (.new, store.insert (rowKey request) row)

/-- `UPDATE .. WHERE ..` of one row: it must be there and meet the condition. -/
def update (key : TenantId × IdempotencyKey) (condition : Invocation → Bool)
    (change : Invocation → Invocation) (store : Store) :
    Except ProductionProxyError (Unit × Store) :=
  match store[key]? with
  | some row =>
    if condition row then .ok ((), store.insert key (change row)) else .error .stateConflict
  | none => .error .stateConflict

/-- `lease_for` and `now` are in nanoseconds; the lease is granted in whole milliseconds. -/
def markExecuting (key : TenantId × IdempotencyKey) (executionOwner : String) (leaseFor : Nat)
    (now : DateTime) (store : Store) : Except ProductionProxyError (Unit × Store) := do
  parseUuid executionOwner
  require (5000000000 ≤ leaseFor ∧ leaseFor ≤ 3600000000000) .storeUnavailable
  parseUuid key.1
  update key
    (fun row => row.state = .prepared ∧ row.executionOwner = none ∧ row.executionLeaseUntil = none)
    (fun row => { row with
      state := .executing, executionOwner := some executionOwner,
      executionLeaseUntil := some (now + leaseFor / 1000000 * 1000000) }) store

/-- `transition_terminal`: with an owner the row must be its own, without one it must have none. -/
def transitionTerminal (key : TenantId × IdempotencyKey) (expected next : InvocationState)
    (executionOwner : Option String) (stableError : String) (store : Store) :
    Except ProductionProxyError (Unit × Store) := do
  parseUuid key.1
  match executionOwner with
  | some owner =>
    parseUuid owner
    update key (fun row => row.state = expected ∧ row.executionOwner = some owner)
      (fun row => { row with
        state := next, stableError := some stableError, executionLeaseUntil := none }) store
  | none =>
    update key
      (fun row => row.state = expected ∧ row.executionOwner = none ∧
        row.executionLeaseUntil = none)
      (fun row => { row with state := next, stableError := some stableError }) store

def markFailed (key : TenantId × IdempotencyKey) (code : String) (store : Store) :
    Except ProductionProxyError (Unit × Store) := do
  validateErrorCode code
  transitionTerminal key .prepared .failed none code store

def markUnknown (key : TenantId × IdempotencyKey) (executionOwner code : String) (store : Store) :
    Except ProductionProxyError (Unit × Store) := do
  validateErrorCode code
  transitionTerminal key .executing .unknown (some executionOwner) code store

def succeed (codec : ProxyCodec) (key : TenantId × IdempotencyKey) (executionOwner : String)
    (result : SanitizedToolResult) (store : Store) :
    Except ProductionProxyError (Unit × Store) := do
  let resultDigest ← available (codec.resultDigest result)
  let receiptDigest ← available (codec.receiptDigest result.credentialConsumptionReceipt)
  parseUuid key.1
  parseUuid result.credentialConsumptionReceipt.consumptionId
  parseUuid executionOwner
  update key (fun row => row.state = .executing ∧ row.executionOwner = some executionOwner)
    (fun row => { row with
      state := .succeeded, safeResult := some result, safeResultDigest := some resultDigest,
      credentialConsumptionId := some result.credentialConsumptionReceipt.consumptionId,
      credentialConsumptionReceiptDigest := some receiptDigest,
      executionLeaseUntil := none }) store

def expired (now : DateTime) (row : Invocation) : Bool :=
  row.state = .executing && row.executionLeaseUntil.any fun deadline => deadline ≤ now

def recoverRow (now : DateTime) (recovered : Nat) (store : Store)
    (key : TenantId × IdempotencyKey) (row : Invocation) :
    Except ProductionProxyError (Nat × Store) := do
  let owner ← available row.executionOwner
  match update key (fun row => expired now row ∧ row.executionOwner = some owner)
      (fun row => { row with
        state := .unknown, stableError := some "PROXY_CRASH_RECOVERY_UNKNOWN",
        executionLeaseUntil := none }) store with
  | .ok (_, store') => pure (min (recovered + 1) (2 ^ 64 - 1), store')
  | .error _ => pure (recovered, store)

def sweptRows (now : DateTime) (locked : IdempotencyKey → Bool) (tenant : TenantId)
    (store : Store) : List ((TenantId × IdempotencyKey) × Invocation) :=
  ((store.toList.filter fun entry =>
      entry.1.1 == tenant && expired now entry.2 && !locked entry.1.2).insertionSort
    fun a b => a.2.executionLeaseUntil.getD 0 ≤ b.2.executionLeaseUntil.getD 0).take 100

/-- One tenant in `recover_expired_executing`. -/
def recoverTenant (tenant : TenantId) (now : DateTime) (locked : IdempotencyKey → Bool)
    (recovered : Nat) (store : Store) : Except ProductionProxyError (Nat × Store) := do
  parseUuid tenant
  (sweptRows now locked tenant store).foldlM
    (fun (counted : Nat × Store) entry => recoverRow now counted.1 counted.2 entry.1 entry.2)
    (recovered, store)

-- Calls

inductive StoreCall where
  | prepare (request : AuthorizedToolRequest)
  | markExecuting (key : TenantId × IdempotencyKey) (executionOwner : String) (leaseFor : Nat)
  | markFailed (key : TenantId × IdempotencyKey) (code : String)
  | markUnknown (key : TenantId × IdempotencyKey) (executionOwner code : String)
  | succeed (key : TenantId × IdempotencyKey) (executionOwner : String)
      (result : SanitizedToolResult)
  | recover (tenant : TenantId) (recovered : Nat)

abbrev StoreCall.Result : StoreCall → Type
  | .prepare _ => PrepareOutcome
  | .recover .. => Nat
  | .markExecuting .. | .markFailed .. | .markUnknown .. | .succeed .. => Unit

inductive Fault where
  | none
  | rolledBack
  /-- It is committed, but the caller does not learn of it. -/
  | unacknowledged
  deriving DecidableEq, Repr

structure Ambient where
  now : DateTime
  locked : IdempotencyKey → Bool
  fault : Fault

def StoreCall.transact (codec : ProxyCodec) (ambient : Ambient) :
    (call : StoreCall) → Store → Except ProductionProxyError (call.Result × Store)
  | .prepare request, store => ToolProxy.prepare codec request store
  | .markExecuting key owner leaseFor, store =>
    ToolProxy.markExecuting key owner leaseFor ambient.now store
  | .markFailed key code, store => ToolProxy.markFailed key code store
  | .markUnknown key owner code, store => ToolProxy.markUnknown key owner code store
  | .succeed key owner result, store => ToolProxy.succeed codec key owner result store
  | .recover tenant recovered, store =>
    recoverTenant tenant ambient.now ambient.locked recovered store

def StoreCall.serve (codec : ProxyCodec) (ambient : Ambient) (call : StoreCall) (store : Store) :
    Except ProductionProxyError call.Result × Store :=
  match ambient.fault, call.transact codec ambient store with
  | .rolledBack, _ => (.error .storeUnavailable, store)
  | _, .error e => (.error e, store)
  | .none, .ok (result, store') => (.ok result, store')
  | .unacknowledged, .ok (_, store') => (.error .storeUnavailable, store')

end AgentSphere.ToolProxy
