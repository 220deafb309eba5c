import AgentSphere.Industrial.Policy
import AgentSphere.Lib.Ports

/-!
# The edge gateway

`IndustrialGateway` as programs over the calls it awaits. A write is prepared under an
authorization and committed later: `prepare_write` compares the target with the limits of the
channel and of the local policy, `commit` looks at the policy again, uses up the authorization and
lets the adapter compare and set. The gateway keeps a journal of what it is about to do and of
what has come of it.

Every access to shared data is a call of its own, since each holds its lock for that access only.
The clock, the adapter, the store of used authorizations and the journal may answer anything,
except that the journal reloads only what was recorded as prepared. Canonical JSON, SHA-256 and
Ed25519 are parameters (`IndustrialCodec`).
-/

namespace AgentSphere.Industrial

open Concurrency Attempt

-- Authorizations and records

structure EdgeAuthorization where
  schemaVersion : SchemaVersion
  authorizationId : String
  tenantId : TenantId
  actionHash : ActionHash
  argumentsDigest : String
  resourceKey : String
  purpose : String
  expectedResourceVersion : String
  approvalIds : List ApprovalId
  centralPolicyVersion : String
  maximumRisk : RiskLevel
  issuedAt : DateTime
  expiresAt : DateTime
  issuer : String
  keyId : String
  keyUsage : String
  signature : String
  deriving DecidableEq

structure EdgeClockHealth where
  synchronized : Bool
  absoluteOffsetMs : Nat
  measuredAt : DateTime
  sourceDigest : String

structure PreparedIndustrialAction where
  schemaVersion : String
  preparationId : String
  tenantId : TenantId
  actionHash : ActionHash
  resourceKey : String
  before : TelemetrySample
  targetValue : Value
  engineeringUnit : String
  authorizationId : String
  centralPolicyVersion : String
  localPolicyVersion : String
  preparedAt : DateTime
  clockHealthDigest : String
  journalDigest : String
  expiresAt : DateTime
  deriving DecidableEq

structure IndustrialCommitReceipt where
  schemaVersion : String
  preparationId : String
  tenantId : TenantId
  actionHash : ActionHash
  authorizationId : String
  centralPolicyVersion : String
  localPolicyVersion : String
  before : TelemetrySample
  after : TelemetrySample
  convergence : IndustrialConvergenceEvidence
  verified : Bool
  dispatchJournalDigest : String
  journalDigest : String
  committedAt : DateTime

structure SafeStopRecord where
  schemaVersion : String
  recordId : String
  tenantId : TenantId
  authorizationId : String
  actionHash : ActionHash
  resourceKey : String
  reasonCode : String
  requestedBy : String
  requestedAt : DateTime
  localJournalHash : String
  intentJournalDigest : String
  completionJournalDigest : String

structure IndustrialCodec (Bytes VerifyingKey : Type) where
  /-- `Value::as_f64`. -/
  asF64 : Value → Option ℚ
  /-- `serde_jcs::to_vec` of an authorization. -/
  jcs : EdgeAuthorization → Option Bytes
  isSignature : String → Bool
  /-- `Verifier::verify` of some bytes and a signature. -/
  verifies : VerifyingKey → Bytes → String → Bool
  /-- The digest of the word `WRITE`, a resource, its version, a target and a unit. -/
  writeDigest : String → String → Value → String → Option String
  /-- The digest of the word `SAFE_STOP`, a resource and its version. -/
  safeStopDigest : String → String → Option String
  centralDigest : CentralSafetyEnvelope → Option String
  clockDigest : EdgeClockHealth → Option String
  /-- The digest of a request to stop and of the hash before it. -/
  safeStopHash : TenantId → String → String → String → DateTime → String → Option String

section Checks

variable {Bytes VerifyingKey : Type} (codec : IndustrialCodec Bytes VerifyingKey)

/-- `EdgeAuthorizationVerifier::verify` with the key that was found. -/
def EdgeAuthorization.verify (auth : EdgeAuthorization) (found : Option (String × VerifyingKey))
    (now : DateTime) : Except IndustrialError Unit :=
  match found with
  | none => .error .authorizationInvalid
  | some (issuer, key) => do
    require (issuer = auth.issuer ∧ auth.schemaVersion = industrialSchemaVersion ∧
      auth.authorizationId ≠ "" ∧ isUuid auth.authorizationId = true ∧
      auth.resourceKey ≠ "" ∧ auth.resourceKey.utf8ByteSize ≤ 1280 ∧
      auth.purpose ∈ ["WRITE", "SAFE_STOP"] ∧ isDigest auth.argumentsDigest = true ∧
      auth.expectedResourceVersion ≠ "" ∧ auth.expectedResourceVersion.utf8ByteSize ≤ 256 ∧
      auth.centralPolicyVersion ≠ "" ∧ auth.centralPolicyVersion.utf8ByteSize ≤ 256 ∧
      auth.keyUsage = "INDUSTRIAL_EDGE_AUTHORIZATION" ∧ isDigest auth.actionHash = true ∧
      auth.approvalIds ≠ [] ∧ auth.approvalIds.length ≤ 128 ∧ auth.approvalIds.Nodup ∧
      auth.issuedAt ≤ now ∧ now < auth.expiresAt ∧
      auth.expiresAt ≤ auth.issuedAt + milliseconds 900000) .authorizationInvalid
    require (codec.isSignature auth.signature = true) .authorizationInvalid
    match codec.jcs { auth with signature := "" } with
    | none => .error .authorizationInvalid
    | some bytes => require (codec.verifies key bytes auth.signature = true) .authorizationInvalid

def writeArgumentsDigest (resourceKey expectedResourceVersion : String) (targetValue : Value)
    (engineeringUnit : String) : Except IndustrialError String := do
  require (resourceKey ≠ "" ∧ expectedResourceVersion ≠ "" ∧ engineeringUnit ≠ "" ∧
    (codec.asF64 targetValue).isSome = true) .valueInvalid
  match codec.writeDigest resourceKey expectedResourceVersion targetValue engineeringUnit with
  | some digest => .ok digest
  | none => .error .valueInvalid

def safeStopArgumentsDigest (resourceKey expectedResourceVersion : String) :
    Except IndustrialError String := do
  require (resourceKey ≠ "" ∧ expectedResourceVersion ≠ "") .authorizationInvalid
  match codec.safeStopDigest resourceKey expectedResourceVersion with
  | some digest => .ok digest
  | none => .error .authorizationInvalid

/-- What `prepare_write` asks of the channel it has found. -/
def Admissible (policy : LocalSafetyPolicy) (auth : EdgeAuthorization) (engineeringUnit : String)
    (channel : AssetChannel) : Prop :=
  channel.writable = true ∧ channel.criticality.rank ≤ auth.maximumRisk.rank ∧
    engineeringUnit = channel.engineeringUnit ∧
    channel.resource.protocol ∈ policy.allowedProtocols

instance (policy : LocalSafetyPolicy) (auth : EdgeAuthorization) (engineeringUnit : String)
    (channel : AssetChannel) : Decidable (Admissible policy auth engineeringUnit channel) :=
  inferInstanceAs (Decidable (_ ∧ _ ∧ _ ∧ _))

def WithinLimits (policy : LocalSafetyPolicy) (channel : AssetChannel) (current target : ℚ) :
    Prop :=
  max channel.minimum policy.absoluteMinimum ≤ target ∧
    target ≤ min channel.maximum policy.absoluteMaximum ∧
    |target - current| ≤ min channel.maximumDeltaPerWrite policy.maximumDelta

instance (policy : LocalSafetyPolicy) (channel : AssetChannel) (current target : ℚ) :
    Decidable (WithinLimits policy channel current target) :=
  inferInstanceAs (Decidable (_ ∧ _ ∧ _))

def journaled (answer : Except IndustrialError String) : Except IndustrialError String := do
  let digest ← answer
  require (isDigest digest = true) .journalFailed
  pure digest

end Checks

-- Calls

inductive Use where
  | read
  | prepare (auth : EdgeAuthorization) (engineeringUnit : String)
  | dispatch (auth : EdgeAuthorization)
  | stop (auth : EdgeAuthorization)

inductive GatewayCall (VerifyingKey : Type) where
  | utcNow
  | newUuid
  | addKey (keyId issuer : String) (key : VerifyingKey)
  | verifierKey (keyId : String)
  /-- `consume_once` of the durable store. -/
  | consumeOnce (auth : EdgeAuthorization)
  /-- The authorization is used in this process; the answer is whether it was not so before. -/
  | markUsed (authorizationId : String)
  | readCentral
  | writeCentral (next : CentralSafetyEnvelope)
  | readConnected
  | writeConnected (connected : Bool)
  | clockHealth
  | containsChannel (tenantId : TenantId) (key : String)
  | insertChannel (channel : AssetChannel)
  | resolve (use : Use) (tenantId : TenantId) (key : String)
  | adapterRead (channel : AssetChannel)
  | insertPrepared (action : PreparedIndustrialAction)
  | findPrepared (preparationId : String)
  | removePrepared (preparationId : String)
  | loadPrepared (tenantId : TenantId) (preparationId : String)
  | recordPrepared (action : PreparedIndustrialAction)
  | recordDispatching (action : PreparedIndustrialAction) (auth : EdgeAuthorization)
  /-- `compare_and_set` with the version and the value read before and the target of an action. -/
  | compareAndSet (channel : AssetChannel) (action : PreparedIndustrialAction)
  | observeAfterWrite (channel : AssetChannel) (maximumSamples : Nat)
  | recordNoop (action : PreparedIndustrialAction) (stableError : String)
  | recordUnknown (action : PreparedIndustrialAction) (stableError : String)
  | recordCommit (receipt : IndustrialCommitReceipt)
  | priorSafeStop (tenantId : TenantId)
  | recordSafeStopIntent (record : SafeStopRecord)
  /-- `safe_stop`, for a record. -/
  | safeStop (channel : AssetChannel) (record : SafeStopRecord)
  | recordSafeStopCompleted (record : SafeStopRecord)
  | recordSafeStopUnknown (record : SafeStopRecord) (stableError : String)
  | pushSafeStop (record : SafeStopRecord)

abbrev GatewayCall.Answer {VerifyingKey : Type} : GatewayCall VerifyingKey → Type
  | .utcNow => DateTime
  | .newUuid => String
  | .verifierKey _ => Option (String × VerifyingKey)
  | .consumeOnce _ => Except IndustrialError Bool
  | .markUsed _ | .readConnected | .containsChannel .. => Bool
  | .readCentral => CentralSafetyEnvelope
  | .clockHealth => Except IndustrialError EdgeClockHealth
  | .resolve .. => Except IndustrialError AssetChannel
  | .adapterRead _ | .compareAndSet .. => Except IndustrialError TelemetrySample
  | .findPrepared _ => Option PreparedIndustrialAction
  | .loadPrepared .. => Except IndustrialError (Option PreparedIndustrialAction)
  | .observeAfterWrite .. => Except IndustrialError (List TelemetrySample)
  | .recordPrepared _ | .recordDispatching .. | .recordCommit _ | .recordSafeStopIntent _
  | .recordSafeStopCompleted _ => Except IndustrialError String
  | .recordNoop .. | .recordUnknown .. | .safeStop .. | .recordSafeStopUnknown .. =>
    Except IndustrialError Unit
  | .priorSafeStop _ => Option String
  | .addKey .. | .writeCentral _ | .writeConnected _ | .insertChannel _ | .insertPrepared _
  | .removePrepared _ | .pushSafeStop _ => Unit

abbrev Gatewaying (VerifyingKey : Type) :=
  Attempt IndustrialError (GatewayCall VerifyingKey) GatewayCall.Answer

/-- A gateway as it is built: its local policy, the ports it has, and a valid policy for the
samples after a write. -/
structure IndustrialGateway where
  localPolicy : LocalSafetyPolicy
  durableReplay : Bool
  journal : Bool
  clock : Bool
  convergencePolicy : IndustrialConvergencePolicy
  convergenceValid : convergencePolicy.validate false = .ok ()

def developmentConvergence : IndustrialConvergencePolicy where
  tolerance := 0
  minimumGoodSamples := 1
  maximumSamples := 1
  maximumOvershoot := 0
  maximumOscillations := 0
  maximumClockOffsetMs := 1000
  clockHealthTtlMs := 60000

namespace IndustrialGateway

variable {Bytes VerifyingKey : Type} (codec : IndustrialCodec Bytes VerifyingKey)
  (gateway : IndustrialGateway)

def validateClock (now : DateTime) : Gatewaying VerifyingKey String :=
  if gateway.clock then do
    let health ← port .clockHealth id
    ensure (health.synchronized = true ∧
      health.absoluteOffsetMs ≤ gateway.convergencePolicy.maximumClockOffsetMs ∧
      health.measuredAt ≤ now ∧
      now ≤ health.measuredAt + milliseconds gateway.convergencePolicy.clockHealthTtlMs ∧
      isDigest health.sourceDigest = true) .clockUnhealthy
    computed (codec.clockDigest health) .clockUnhealthy
  else pure "development-clock-unverified"

def verify (auth : EdgeAuthorization) (now : DateTime) : Gatewaying VerifyingKey Unit := do
  let found ← ask (.verifierKey auth.keyId)
  Attempt.ofExcept (auth.verify codec found now)

/-- `verify_and_consume`: the durable store is asked first. -/
def verifyAndConsume (auth : EdgeAuthorization) (now : DateTime) :
    Gatewaying VerifyingKey Unit := do
  verify codec auth now
  if gateway.durableReplay then
    let fresh ← port (.consumeOnce auth) id
    ensure (fresh = true) .authorizationReplayed
  let unused ← ask (.markUsed auth.authorizationId)
  ensure (unused = true) .authorizationReplayed

-- Preparation

/-- The action that `prepare_write` prepares. -/
def preparedAction (auth : EdgeAuthorization) (targetValue : Value) (engineeringUnit : String)
    (now : DateTime) (clockHealthDigest centralPolicyVersion : String)
    (before : TelemetrySample) (preparationId : String) : PreparedIndustrialAction where
  schemaVersion := industrialSchemaVersion
  preparationId := preparationId
  tenantId := auth.tenantId
  actionHash := auth.actionHash
  resourceKey := auth.resourceKey
  before := before
  targetValue := targetValue
  engineeringUnit := engineeringUnit
  authorizationId := auth.authorizationId
  centralPolicyVersion := centralPolicyVersion
  localPolicyVersion := gateway.localPolicy.policyVersion
  preparedAt := now
  clockHealthDigest := clockHealthDigest
  journalDigest := ""
  expiresAt := auth.expiresAt

def keepPrepared (action : PreparedIndustrialAction) :
    Gatewaying VerifyingKey PreparedIndustrialAction := do
  let journalDigest ← if gateway.journal then port (.recordPrepared action) journaled else pure ""
  let _ ← ask (.insertPrepared { action with journalDigest := journalDigest })
  pure { action with journalDigest := journalDigest }

def prepareWrite (auth : EdgeAuthorization) (targetValue : Value) (engineeringUnit : String) :
    Gatewaying VerifyingKey PreparedIndustrialAction := do
  let now ← ask .utcNow
  verify codec auth now
  let envelope ← ask .readCentral
  Attempt.ofExcept (gateway.localPolicy.verifyNotLooser envelope now)
  let clockHealthDigest ← gateway.validateClock codec now
  let central ← ask .readCentral
  let connected ← ask .readConnected
  ensure (connected = true ∧ gateway.localPolicy.writeEnabled = true ∧ auth.purpose = "WRITE")
    .writeDenied
  let digest ← Attempt.ofExcept (writeArgumentsDigest codec auth.resourceKey
    auth.expectedResourceVersion targetValue engineeringUnit)
  ensure (auth.argumentsDigest = digest ∧ auth.approvalIds ≠ [] ∧
    auth.schemaVersion = industrialSchemaVersion ∧
    auth.centralPolicyVersion = CentralSafetyEnvelope.policyVersion central) .writeDenied
  let channel ← port (.resolve (.prepare auth engineeringUnit) auth.tenantId auth.resourceKey) id
  ensure (Admissible gateway.localPolicy auth engineeringUnit channel) .writeDenied
  let before ← port (.adapterRead channel) id
  let readAt ← ask .utcNow
  Attempt.ofExcept (validateFreshGood before channel.freshnessMs readAt)
  ensure (before.resourceKey = auth.resourceKey ∧
    before.engineeringUnit = channel.engineeringUnit) .telemetryUnavailable
  ensure (before.resourceVersion = auth.expectedResourceVersion) .resourceVersionChanged
  let current ← computed (codec.asF64 before.value) .valueInvalid
  let target ← computed (codec.asF64 targetValue) .valueInvalid
  ensure (WithinLimits gateway.localPolicy channel current target) .valueInvalid
  let preparationId ← ask .newUuid
  gateway.keepPrepared (gateway.preparedAction auth targetValue engineeringUnit now
    clockHealthDigest (CentralSafetyEnvelope.policyVersion central) before preparationId)

-- Commit

def outcomeUnknown {α : Type} (action : PreparedIndustrialAction) (stableError : String) :
    Gatewaying VerifyingKey α := do
  if gateway.journal then port (.recordUnknown action stableError) id
  throw .outcomeUnknown

def receiptOf (action : PreparedIndustrialAction) (after : TelemetrySample)
    (convergence : IndustrialConvergenceEvidence) (dispatchJournalDigest : String)
    (committedAt : DateTime) : IndustrialCommitReceipt where
  schemaVersion := industrialSchemaVersion
  preparationId := action.preparationId
  tenantId := action.tenantId
  actionHash := action.actionHash
  authorizationId := action.authorizationId
  centralPolicyVersion := action.centralPolicyVersion
  localPolicyVersion := action.localPolicyVersion
  before := action.before
  after := after
  convergence := convergence
  verified := true
  dispatchJournalDigest := dispatchJournalDigest
  journalDigest := ""
  committedAt := committedAt

def confirm (action : PreparedIndustrialAction) (channel : AssetChannel)
    (dispatchJournalDigest : String) (after : TelemetrySample) (samples : List TelemetrySample) :
    Gatewaying VerifyingKey IndustrialCommitReceipt := do
  let target ← computed (codec.asF64 action.targetValue) .valueInvalid
  let now ← ask .utcNow
  match verifyConvergence codec.asF64 gateway.convergencePolicy (after :: samples) target
      action.engineeringUnit action.resourceKey channel.freshnessMs now with
  | .error _ => gateway.outcomeUnknown action "INDUSTRIAL_CONVERGENCE_NOT_PROVEN"
  | .ok convergence =>
    if convergence.converged = true ∧ after.resourceVersion ≠ action.before.resourceVersion then
      let committedAt ← ask .utcNow
      if gateway.journal then
        let journalDigest ← port (.recordCommit (receiptOf action after convergence
          dispatchJournalDigest committedAt)) journaled
        pure { receiptOf action after convergence dispatchJournalDigest committedAt with
          journalDigest := journalDigest }
      else pure (receiptOf action after convergence dispatchJournalDigest committedAt)
    else gateway.outcomeUnknown action "INDUSTRIAL_WRITE_VERIFICATION_NOT_PROVEN"

def confirmObserved (action : PreparedIndustrialAction) (channel : AssetChannel)
    (dispatchJournalDigest : String) (after : TelemetrySample)
    (observed : Except IndustrialError (List TelemetrySample)) :
    Gatewaying VerifyingKey IndustrialCommitReceipt :=
  match observed with
  | .ok samples => gateway.confirm codec action channel dispatchJournalDigest after samples
  | .error _ => gateway.outcomeUnknown action "INDUSTRIAL_CONVERGENCE_OBSERVATION_UNAVAILABLE"

def observeWrite (action : PreparedIndustrialAction) (channel : AssetChannel)
    (dispatchJournalDigest : String) (after : TelemetrySample) :
    Gatewaying VerifyingKey IndustrialCommitReceipt := do
  let now ← ask .utcNow
  if (validateFreshGood after channel.freshnessMs now).isOk = false then
    gateway.outcomeUnknown action "INDUSTRIAL_POST_WRITE_TELEMETRY_INVALID"
  else if 1 < gateway.convergencePolicy.minimumGoodSamples then
    let observed ← ask (.observeAfterWrite channel (gateway.convergencePolicy.maximumSamples - 1))
    gateway.confirmObserved codec action channel dispatchJournalDigest after observed
  else gateway.confirm codec action channel dispatchJournalDigest after []

def settle (action : PreparedIndustrialAction) (channel : AssetChannel)
    (dispatchJournalDigest : String) (answer : Except IndustrialError TelemetrySample) :
    Gatewaying VerifyingKey IndustrialCommitReceipt :=
  match answer with
  | .ok after => gateway.observeWrite codec action channel dispatchJournalDigest after
  | .error .resourceVersionChanged => do
    if gateway.journal then
      port (.recordNoop action "INDUSTRIAL_RESOURCE_VERSION_CHANGED") id
    throw .resourceVersionChanged
  | .error e => gateway.outcomeUnknown action e.code

def foundOrLoaded (auth : EdgeAuthorization) (preparationId : String)
    (found : Option PreparedIndustrialAction) : Gatewaying VerifyingKey PreparedIndustrialAction :=
  match found with
  | some action => pure action
  | none =>
    if gateway.journal then do
      let loaded ← port (.loadPrepared auth.tenantId preparationId) id
      computed loaded .preparationNotFound
    else throw .preparationNotFound

def findAction (auth : EdgeAuthorization) (preparationId : String) :
    Gatewaying VerifyingKey PreparedIndustrialAction := do
  let found ← ask (.findPrepared preparationId)
  gateway.foundOrLoaded auth preparationId found

def commit (auth : EdgeAuthorization) (preparationId : String) :
    Gatewaying VerifyingKey IndustrialCommitReceipt := do
  let connected ← ask .readConnected
  ensure (connected = true) .disconnectedFailClosed
  let envelope ← ask .readCentral
  let policyAt ← ask .utcNow
  Attempt.ofExcept (gateway.localPolicy.verifyNotLooser envelope policyAt)
  let clockAt ← ask .utcNow
  let _ ← gateway.validateClock codec clockAt
  let action ← gateway.findAction auth preparationId
  ensure (action.authorizationId = auth.authorizationId ∧ action.actionHash = auth.actionHash ∧
    action.tenantId = auth.tenantId ∧ action.centralPolicyVersion = auth.centralPolicyVersion)
    .authorizationInvalid
  let central ← ask .readCentral
  ensure (action.centralPolicyVersion = CentralSafetyEnvelope.policyVersion central ∧
    action.localPolicyVersion = gateway.localPolicy.policyVersion) .authorizationInvalid
  let expiryAt ← ask .utcNow
  ensure (expiryAt < action.expiresAt) .authorizationInvalid
  let now ← ask .utcNow
  gateway.verifyAndConsume codec auth now
  let channel ← port (.resolve (.dispatch auth) auth.tenantId action.resourceKey) id
  let dispatchJournalDigest ←
    if gateway.journal then port (.recordDispatching action auth) journaled else pure ""
  let _ ← ask (.removePrepared preparationId)
  let answer ← ask (.compareAndSet channel action)
  gateway.settle codec action channel dispatchJournalDigest answer

-- Stops and changes

def stopRequestOk (requestedBy reasonCode : String) : Bool :=
  requestedBy != "" && requestedBy.utf8ByteSize ≤ 256 && reasonCode != "" &&
    reasonCode.utf8ByteSize ≤ 128 &&
    reasonCode.toList.all fun c => c.isUpper || c.isDigit || c == '_'

def completeStop (record : SafeStopRecord) (completed : Except IndustrialError String) :
    Gatewaying VerifyingKey SafeStopRecord :=
  match completed with
  | .ok digest => do
    let _ ← ask (.pushSafeStop { record with completionJournalDigest := digest })
    pure { record with completionJournalDigest := digest }
  | .error _ => do
    port (.recordSafeStopUnknown record "INDUSTRIAL_SAFE_STOP_COMPLETION_EVIDENCE_UNKNOWN") id
    throw .outcomeUnknown

def settleStop (record : SafeStopRecord) (stopped : Except IndustrialError Unit) :
    Gatewaying VerifyingKey SafeStopRecord :=
  match stopped with
  | .ok _ =>
    if gateway.journal then do
      let answer ← ask (.recordSafeStopCompleted record)
      completeStop record (journaled answer)
    else completeStop record (.ok record.completionJournalDigest)
  | .error e => do
    if gateway.journal then port (.recordSafeStopUnknown record e.code) id
    throw .outcomeUnknown

def requestSafeStop (auth : EdgeAuthorization) (requestedBy reasonCode : String) :
    Gatewaying VerifyingKey SafeStopRecord := do
  ensure (stopRequestOk requestedBy reasonCode = true) .requestInvalid
  ensure (auth.purpose = "SAFE_STOP") .authorizationInvalid
  let digest ← Attempt.ofExcept (safeStopArgumentsDigest codec auth.resourceKey
    auth.expectedResourceVersion)
  ensure (auth.argumentsDigest = digest) .authorizationInvalid
  let central ← ask .readCentral
  ensure (auth.centralPolicyVersion = CentralSafetyEnvelope.policyVersion central)
    .authorizationInvalid
  let now ← ask .utcNow
  gateway.verifyAndConsume codec auth now
  let channel ← port (.resolve (.stop auth) auth.tenantId auth.resourceKey) id
  let prior ← ask (.priorSafeStop auth.tenantId)
  let requestedAt ← ask .utcNow
  let localJournalHash ← computed (codec.safeStopHash auth.tenantId auth.resourceKey requestedBy
    reasonCode requestedAt (Option.getD prior (String.ofList (List.replicate 64 '0'))))
    .journalFailed
  let recordId ← ask .newUuid
  let record : SafeStopRecord := {
    schemaVersion := industrialSchemaVersion
    recordId := recordId
    tenantId := auth.tenantId
    authorizationId := auth.authorizationId
    actionHash := auth.actionHash
    resourceKey := auth.resourceKey
    reasonCode := reasonCode
    requestedBy := requestedBy
    requestedAt := requestedAt
    localJournalHash := localJournalHash
    intentJournalDigest := ""
    completionJournalDigest := "" }
  let intent ← if gateway.journal then port (.recordSafeStopIntent record) journaled else pure ""
  let intended := { record with intentJournalDigest := intent }
  let stopped ← ask (.safeStop channel intended)
  gateway.settleStop intended stopped

def updateCentralPolicy (next : CentralSafetyEnvelope) (now : DateTime) :
    Gatewaying VerifyingKey Unit := do
  Attempt.ofExcept (gateway.localPolicy.verifyNotLooser next now)
  let current ← ask .readCentral
  Attempt.ofExcept (checkVersion codec.centralDigest current next)
  ask (GatewayCall.writeCentral next : GatewayCall VerifyingKey)

end IndustrialGateway

def register {VerifyingKey : Type} (channel : AssetChannel) : Gatewaying VerifyingKey Unit := do
  Attempt.ofExcept (validateChannel channel)
  let known ← ask (.containsChannel channel.resource.tenantId channel.resource.key)
  ensure (known = false) .assetConflict
  ask (GatewayCall.insertChannel channel : GatewayCall VerifyingKey)

def read {VerifyingKey : Type} (tenantId : TenantId) (resourceKey : String) :
    Gatewaying VerifyingKey TelemetrySample := do
  let channel ← port (.resolve .read tenantId resourceKey) id
  port (.adapterRead channel) id

-- One gateway, many operations

structure GatewayState (VerifyingKey : Type) where
  channels : BTreeMap (TenantId × String) AssetChannel
  /-- The keys that sign authorizations, each with its issuer. -/
  keys : BTreeMap String (String × VerifyingKey)
  used : BTreeSet String
  central : CentralSafetyEnvelope
  connected : Bool
  prepared : BTreeMap String PreparedIndustrialAction
  safeStopRecords : List SafeStopRecord
  recorded : List PreparedIndustrialAction

section Shared

variable {Bytes VerifyingKey : Type}

def GatewayState.resolve (state : GatewayState VerifyingKey) (tenantId : TenantId) (key : String) :
    Except IndustrialError AssetChannel :=
  match state.channels[(tenantId, key)]? with
  | some channel => .ok channel
  | none => .error .assetNotFound

def Reloads (state : GatewayState VerifyingKey) (tenantId : TenantId) (preparationId : String)
    (action : PreparedIndustrialAction) : Prop :=
  action.tenantId = tenantId ∧ action.preparationId = preparationId ∧
    ∃ entry ∈ state.recorded, action = { entry with journalDigest := action.journalDigest }

def serve (state : GatewayState VerifyingKey) :
    (call : GatewayCall VerifyingKey) → call.Answer → GatewayState VerifyingKey → Prop
  | .addKey keyId issuer key, _, state' =>
    state' = { state with keys := state.keys.insert keyId (issuer, key) }
  | .verifierKey keyId, answer, state' => answer = state.keys[keyId]? ∧ state' = state
  | .markUsed authorizationId, answer, state' =>
    answer = !state.used.contains authorizationId ∧
      state' = { state with used := state.used.insert authorizationId }
  | .readCentral, answer, state' => answer = state.central ∧ state' = state
  | .writeCentral next, _, state' => state' = { state with central := next }
  | .readConnected, answer, state' => answer = state.connected ∧ state' = state
  | .writeConnected connected, _, state' => state' = { state with connected := connected }
  | .containsChannel tenantId key, answer, state' =>
    answer = state.channels.contains (tenantId, key) ∧ state' = state
  | .insertChannel channel, _, state' =>
    state' = { state with
      channels := state.channels.insert (channel.resource.tenantId, channel.resource.key) channel }
  | .resolve _ tenantId key, answer, state' => answer = state.resolve tenantId key ∧ state' = state
  | .insertPrepared action, _, state' =>
    state' = { state with prepared := state.prepared.insert action.preparationId action }
  | .findPrepared preparationId, answer, state' =>
    answer = state.prepared[preparationId]? ∧ state' = state
  | .removePrepared preparationId, _, state' =>
    state' = { state with prepared := state.prepared.erase preparationId }
  | .loadPrepared tenantId preparationId, answer, state' =>
    (∀ action, answer = .ok (some action) → Reloads state tenantId preparationId action) ∧
      state' = state
  | .recordPrepared action, _, state' =>
    state' = state ∨ state' = { state with recorded := action :: state.recorded }
  | .priorSafeStop tenantId, answer, state' =>
    answer = (state.safeStopRecords.reverse.find? fun record => record.tenantId = tenantId).map
      SafeStopRecord.localJournalHash ∧ state' = state
  | .pushSafeStop record, _, state' =>
    state' = { state with safeStopRecords := state.safeStopRecords ++ [record] }
  | .utcNow, _, state' | .newUuid, _, state' | .consumeOnce _, _, state' | .clockHealth, _, state'
  | .adapterRead _, _, state' | .recordDispatching .., _, state' | .compareAndSet .., _, state'
  | .observeAfterWrite .., _, state' | .recordNoop .., _, state' | .recordUnknown .., _, state'
  | .recordCommit _, _, state' | .recordSafeStopIntent _, _, state' | .safeStop .., _, state'
  | .recordSafeStopCompleted _, _, state' | .recordSafeStopUnknown .., _, state' => state' = state

abbrev ThreadResult :=
  Option (EdgeAuthorization × String × Except IndustrialError IndustrialCommitReceipt)

abbrev GatewayEvent (VerifyingKey : Type) :=
  Event (GatewayState VerifyingKey) (GatewayCall VerifyingKey) GatewayCall.Answer

abbrev GatewayEntry (VerifyingKey : Type) := Entry (GatewayCall VerifyingKey) GatewayCall.Answer

abbrev GatewayConfig (VerifyingKey : Type) :=
  Config (GatewayState VerifyingKey) (GatewayCall VerifyingKey) GatewayCall.Answer ThreadResult

def finished {VerifyingKey α : Type} (operation : Gatewaying VerifyingKey α) :
    Program (GatewayCall VerifyingKey) GatewayCall.Answer ThreadResult :=
  operation.run >>= fun _ => .done none

inductive Operator (codec : IndustrialCodec Bytes VerifyingKey) (gateway : IndustrialGateway) :
    Program (GatewayCall VerifyingKey) GatewayCall.Answer ThreadResult → Prop where
  | prepareWrite (auth : EdgeAuthorization) (targetValue : Value) (engineeringUnit : String) :
      Operator codec gateway
        (finished (gateway.prepareWrite codec auth targetValue engineeringUnit))
  | commit (auth : EdgeAuthorization) (preparationId : String) :
      Operator codec gateway ((gateway.commit codec auth preparationId).run >>= fun result =>
        .done (some (auth, preparationId, result)))
  | requestSafeStop (auth : EdgeAuthorization) (requestedBy reasonCode : String) :
      Operator codec gateway (finished (gateway.requestSafeStop codec auth requestedBy reasonCode))
  | updateCentralPolicy (next : CentralSafetyEnvelope) (now : DateTime) :
      Operator codec gateway (finished (gateway.updateCentralPolicy codec next now))
  | setConnected (connected : Bool) :
      Operator codec gateway (finished (ask (.writeConnected connected)))
  | register (channel : AssetChannel) : Operator codec gateway (finished (register channel))
  | read (tenantId : TenantId) (resourceKey : String) :
      Operator codec gateway (finished (read tenantId resourceKey))
  | addKey (keyId issuer : String) (key : VerifyingKey) :
      Operator codec gateway (finished (ask (.addKey keyId issuer key)))

def system (codec : IndustrialCodec Bytes VerifyingKey) (gateway : IndustrialGateway) :
    System (GatewayState VerifyingKey) (GatewayCall VerifyingKey) GatewayCall.Answer
      ThreadResult where
  Serve := serve
  Internal _ _ := False
  Start := Operator codec gateway

end Shared

end AgentSphere.Industrial
