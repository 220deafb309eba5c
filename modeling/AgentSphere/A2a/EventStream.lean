import AgentSphere.A2a.Basic
import AgentSphere.Lib.Machine

/-!
# Event streams

`AgUiStreamAdapter` keeps the events of every task in memory, numbered and signed. A reader resumes
a stream with a signed token that names the last number it has seen, or starts from a snapshot that
carries such a token. The side that reads checks everything again that the side that writes has
checked, each check with a reading of the clock of its own.

Publishing is the only call that changes the streams, and it holds their lock; the others take what
they need from the streams at one moment.
-/

namespace AgentSphere.A2a

open Concurrency Machine

def aguiSnapshotSchemaVersion : String := "agenttrust.agui-safe-snapshot.v1"

inductive AgUiEventKind where
  | planUpdated
  | toolRequested
  | approvalRequired
  | approvalRecorded
  | executionStatus
  | artifactAvailable
  | evaluationUpdated
  | incident
  deriving DecidableEq, Repr

structure AgUiEventEnvelope where
  schemaVersion : String
  eventId : String
  tenantId : TenantId
  taskId : TaskId
  sequence : Nat
  kind : AgUiEventKind
  traceId : String
  safePayload : Value
  occurredAt : DateTime
  backendSignature : String
  deriving DecidableEq

structure ResumeToken where
  schemaVersion : String
  tenantId : TenantId
  taskId : TaskId
  afterSequence : Nat
  expiresAt : DateTime
  signature : String
  deriving DecidableEq

structure AgUiSafeSnapshot where
  schemaVersion : String
  tenantId : TenantId
  taskId : TaskId
  sequence : Nat
  safeState : Value
  nextResumeToken : String
  generatedAt : DateTime
  backendSignature : String
  deriving DecidableEq

structure StreamCodec (Bytes : Type) where
  jcsSize : Value → Option Nat
  /-- `serde_jcs::to_vec` of an event. -/
  eventJcs : AgUiEventEnvelope → Option Bytes
  tokenJcs : ResumeToken → Option Bytes
  snapshotJcs : AgUiSafeSnapshot → Option Bytes
  sign : Bytes → String
  /-- Whether a text reads as a signature of the bytes. -/
  verifies : Bytes → String → Bool
  /-- `URL_SAFE_NO_PAD.encode`. -/
  encode : Bytes → String
  decode : String → Option Bytes
  /-- `serde_json::from_slice` of a token. -/
  parseToken : Bytes → Option ResumeToken
  toRfc3339 : DateTime → String
  parsesRfc3339 : String → Bool

/-- The adapter without a durable store; `new` refuses a maximum of zero. -/
structure AgUiStreamAdapter where
  maximumEventsPerTask : Nat
  somePlace : 0 < maximumEventsPerTask
  /-- It is a `usize`. -/
  fits : maximumEventsPerTask < 2 ^ 64

abbrev Streams := BTreeMap (TenantId × TaskId) (List AgUiEventEnvelope)

def eventsOf (streams : Streams) (key : TenantId × TaskId) : List AgUiEventEnvelope :=
  streams.getD key []

-- What is let out

def secretNames : List String :=
  ["authorization", "bearer", "credential", "cookie", "password", "private_key", "secret",
    "api_key", "access_token", "refresh_token", "session_token"]

mutual

def safePayloadAllowed (value : Value) (depth : Nat) : Bool :=
  if 16 < depth ∨ (depth = 0 ∧ ¬value matches .object _) then false
  else
    match value with
    | .object members => safeMembersAllowed members depth
    | .array values => values.length ≤ 1024 && safeItemsAllowed values depth
    | .string value => value.utf8ByteSize ≤ 16384
    | .number _ | .bool _ | .null => true

def safeMembersAllowed (members : List (String × Value)) (depth : Nat) : Bool :=
  match members with
  | [] => true
  | (key, value) :: members =>
    key.utf8ByteSize ≤ 128 && toAsciiLowercase key ∉ secretNames &&
      safePayloadAllowed value (depth + 1) && safeMembersAllowed members depth

def safeItemsAllowed (values : List Value) (depth : Nat) : Bool :=
  match values with
  | [] => true
  | value :: values => safePayloadAllowed value (depth + 1) && safeItemsAllowed values depth

end

def validStatus (status : String) : Bool :=
  status ≠ "" && status.utf8ByteSize ≤ 64 &&
    status.toList.all fun c => c.isUpper || c.isDigit || c = '_'

section Adapter

variable {Bytes : Type} (codec : StreamCodec Bytes)

def safeSnapshotState : Value → Bool
  | .object members =>
    !members.isEmpty &&
      members.all (fun member => member.1 ∈ ["status", "evidence_digest", "occurred_at"]) &&
      ((members.lookup "status").bind Value.asStr).any validStatus &&
      (members.lookup "evidence_digest").all (fun value => value.asStr.any isDigest) &&
      (members.lookup "occurred_at").all fun value => value.asStr.any codec.parsesRfc3339
  | _ => false

-- Instants and signatures

def fiveMinutes : Int := 300000000000

def twentyFourHours : Int := 86400000000000

def checkTime (time now : DateTime) : Except A2aError Unit :=
  match now.add fiveMinutes with
  | some limit => require (time ≤ limit) .eventInvalid
  | none => .error .panicked

def checkExpiry (expiresAt now : DateTime) : Except A2aError Unit := do
  require (now < expiresAt) .eventInvalid
  match now.add twentyFourHours with
  | some limit => require (expiresAt ≤ limit) .eventInvalid
  | none => .error .panicked

def signBytes (bytes : Option Bytes) : Except A2aError String :=
  match bytes with
  | some bytes => .ok (codec.sign bytes)
  | none => .error .eventInvalid

def checkSignature (bytes : Option Bytes) (signature : String) : Except A2aError Unit :=
  match bytes with
  | some bytes => require (codec.verifies bytes signature = true) .eventInvalid
  | none => .error .eventInvalid

def eventBytes (event : AgUiEventEnvelope) : Option Bytes :=
  codec.eventJcs { event with backendSignature := "" }

def resumeBytes (token : ResumeToken) : Option Bytes :=
  codec.tokenJcs { token with signature := "" }

def snapshotBytes (snapshot : AgUiSafeSnapshot) : Option Bytes :=
  codec.snapshotJcs { snapshot with backendSignature := "" }

-- The calls

variable (adapter : AgUiStreamAdapter)

/-- `publish_backend` of an event, with the identifier it draws and the time it reads. -/
structure PublishCall where
  tenantId : TenantId
  taskId : TaskId
  kind : AgUiEventKind
  traceId : String
  safePayload : Value
  eventId : Uuid
  now : DateTime

def PublishCall.key (call : PublishCall) : TenantId × TaskId := (call.tenantId, call.taskId)

def PublishCall.unsignedEvent (call : PublishCall) (sequence : Nat) : AgUiEventEnvelope where
  schemaVersion := a2aSchemaVersion
  eventId := call.eventId.toStr
  tenantId := call.tenantId
  taskId := call.taskId
  sequence := sequence
  kind := call.kind
  traceId := call.traceId
  safePayload := call.safePayload
  occurredAt := call.now
  backendSignature := ""

def publishBackend (streams : Streams) (call : PublishCall) :
    Except A2aError AgUiEventEnvelope × Streams :=
  if call.traceId ≠ "" ∧ call.traceId.utf8ByteSize ≤ 256 ∧
      safePayloadAllowed call.safePayload 0 = true ∧
      (codec.jcsSize call.safePayload).any (· ≤ 65536) = true then
    let stream := eventsOf streams call.key
    -- the entry is there from now on, also if nothing is published
    let streams := streams.insert call.key stream
    if adapter.maximumEventsPerTask ≤ stream.length then (.error .capacityExceeded, streams)
    else
      let event := call.unsignedEvent (stream.length + 1)
      match signBytes codec (eventBytes codec event) with
      | .ok signature =>
        let event := { event with backendSignature := signature }
        (.ok event, streams.insert call.key (stream ++ [event]))
      | .error e => (.error e, streams)
  else (.error .eventInvalid, streams)

def resumeToken (tenantId : TenantId) (taskId : TaskId) (afterSequence : Nat)
    (expiresAt now : DateTime) : Except A2aError ResumeToken := do
  checkExpiry expiresAt now
  let token : ResumeToken := ⟨a2aSchemaVersion, tenantId, taskId, afterSequence, expiresAt, ""⟩
  let signature ← signBytes codec (resumeBytes codec token)
  pure { token with signature := signature }

def verifyEvent (event : AgUiEventEnvelope) (now : DateTime) : Except A2aError Unit := do
  require (event.schemaVersion = a2aSchemaVersion ∧ event.sequence ≠ 0 ∧ event.eventId ≠ "" ∧
    isUuid event.eventId = true ∧ event.traceId ≠ "" ∧ event.traceId.utf8ByteSize ≤ 256 ∧
    safePayloadAllowed event.safePayload 0 = true) .eventInvalid
  checkTime event.occurredAt now
  checkSignature codec (eventBytes codec event) event.backendSignature

def verifyLatest (latest : Option AgUiEventEnvelope) (now : DateTime) : Except A2aError Unit :=
  match latest with
  | some event => verifyEvent codec event now
  | none => .ok ()

/-- The loop of `resume`, with the readings of the clock that are to come. -/
def checkEvents (token : ResumeToken) (prior : Nat) (clock : Nat → DateTime) :
    List AgUiEventEnvelope → Except A2aError Unit
  | [] => .ok ()
  | event :: events => do
    verifyEvent codec event (clock 0)
    require (event.tenantId = token.tenantId ∧ event.taskId = token.taskId ∧
      prior < event.sequence) .eventInvalid
    checkEvents token event.sequence (fun i => clock (i + 1)) events

def resume (streams : Streams) (token : ResumeToken) (now : DateTime) (clock : Nat → DateTime) :
    Except A2aError (List AgUiEventEnvelope) := do
  require (token.schemaVersion = a2aSchemaVersion ∧ now < token.expiresAt) .resumeExpired
  checkSignature codec (resumeBytes codec token) token.signature
  let events := (eventsOf streams (token.tenantId, token.taskId)).filter fun event =>
    token.afterSequence < event.sequence
  require (events.length ≤ adapter.maximumEventsPerTask) .capacityExceeded
  checkEvents codec token token.afterSequence clock events
  pure events

/-- `safe_snapshot` of a task, with its three readings of the clock. -/
structure SnapshotCall where
  tenantId : TenantId
  taskId : TaskId
  status : String
  evidenceDigest : Option String
  tokenExpiresAt : DateTime
  now : DateTime
  verifiedAt : DateTime
  issuedAt : DateTime

def SnapshotCall.key (call : SnapshotCall) : TenantId × TaskId := (call.tenantId, call.taskId)

def SnapshotCall.safeState (call : SnapshotCall) (latest : Option AgUiEventEnvelope) : Value :=
  .object <|
    (call.evidenceDigest.map fun digest => ("evidence_digest", Value.string digest)).toList ++
    (latest.map fun event =>
      ("occurred_at", Value.string (codec.toRfc3339 event.occurredAt))).toList ++
    [("status", Value.string call.status)]

def safeSnapshot (streams : Streams) (call : SnapshotCall) :
    Except A2aError AgUiSafeSnapshot := do
  require (validStatus call.status = true ∧ call.evidenceDigest.all isDigest = true) .eventInvalid
  checkExpiry call.tokenExpiresAt call.now
  let latest := (eventsOf streams call.key).getLast?
  verifyLatest codec latest call.verifiedAt
  let sequence := latest.elim 0 (·.sequence)
  let resume ← resumeToken codec call.tenantId call.taskId sequence call.tokenExpiresAt
    call.issuedAt
  match codec.tokenJcs resume with
  | none => .error .eventInvalid
  | some tokenBytes => do
    let snapshot : AgUiSafeSnapshot := ⟨aguiSnapshotSchemaVersion, call.tenantId, call.taskId,
      sequence, call.safeState codec latest, codec.encode tokenBytes, call.now, ""⟩
    let signature ← signBytes codec (snapshotBytes codec snapshot)
    pure { snapshot with backendSignature := signature }

def readToken (text : String) : Option ResumeToken := (codec.decode text).bind codec.parseToken

def verifySnapshot (snapshot : AgUiSafeSnapshot) (now : DateTime) : Except A2aError Unit := do
  require (snapshot.schemaVersion = aguiSnapshotSchemaVersion) .eventInvalid
  checkTime snapshot.generatedAt now
  require (safeSnapshotState codec snapshot.safeState = true) .eventInvalid
  checkSignature codec (snapshotBytes codec snapshot) snapshot.backendSignature
  match readToken codec snapshot.nextResumeToken with
  | none => .error .eventInvalid
  | some token => do
    require (token.schemaVersion = a2aSchemaVersion ∧ token.tenantId = snapshot.tenantId ∧
      token.taskId = snapshot.taskId ∧ token.afterSequence = snapshot.sequence ∧
      snapshot.generatedAt < token.expiresAt) .eventInvalid
    checkSignature codec (resumeBytes codec token) token.signature

end Adapter

end AgentSphere.A2a
