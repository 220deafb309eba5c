import AgentSphere.A2a.Basic
import AgentSphere.Contracts.Endpoint
import AgentSphere.Contracts.Json
import AgentSphere.Lib.Ports
import AgentSphere.Orchestrator.Runtime

/-!
# Tasks of remote agents

`A2aTaskAdapter` keeps the record of a task that a remote agent works on. Every change is a load, a
decision and a conditional write, with an exchange with the agent in front of it in some cases; the
calls are programs over a store that other clients change in between.

The store inserts a record only where there is none and replaces one only if it has the expected
revision. It may fail at any call; a write that has failed may have been made all the same. The
agent answers anything.
-/

namespace AgentSphere.A2a

open Concurrency Attempt Orchestrator

inductive A2aTaskState where
  | submitted
  | working
  | inputRequired
  | authRequired
  | verifying
  | completed
  | cancelling
  | cancelled
  | rejected
  | failed
  deriving DecidableEq, Repr

structure A2aTaskRecord where
  schemaVersion : String
  tenantId : TenantId
  taskId : TaskId
  remoteTaskId : String
  agentId : String
  agentCardHash : String
  agentEndpoint : String
  protocolVersion : String
  state : A2aTaskState
  remoteStatus : String
  evaluationStatus : Option EvaluationStatus
  revision : Nat
  updatedAt : DateTime
  backendSignature : String
  deriving DecidableEq

structure AgentCardSnapshot where
  protocolVersion : String
  agentId : String
  endpoint : String
  cardHash : String
  verified : Bool

structure A2aJsonRpcRequest where
  jsonrpc : String
  id : String
  method : String
  params : Value

structure A2aJsonRpcError where
  code : Int
  message : String
  data : Option Value

structure A2aJsonRpcResponse where
  jsonrpc : String
  id : String
  result : Option Value
  error : Option A2aJsonRpcError

structure RemoteA2aTask where
  taskId : String
  status : String

structure TaskCodec (Bytes : Type) where
  /-- `serde_jcs::to_vec` of a record. -/
  taskJcs : A2aTaskRecord → Option Bytes
  sign : Bytes → String
  /-- Whether a text reads as a signature of the bytes. -/
  verifies : Bytes → String → Bool
  parseUrl : String → Option EndpointUrl
  jcsSize : Value → Option Nat

-- Decisions

def A2aTaskState.terminal : A2aTaskState → Bool
  | .completed | .cancelled | .rejected | .failed => true
  | _ => false

def validTaskTransition (source target : A2aTaskState) : Bool :=
  match source with
  -- every state may follow
  | .submitted => true
  | .working =>
    target ∈ [.working, .inputRequired, .authRequired, .verifying, .completed, .cancelling,
      .cancelled, .rejected, .failed]
  | .inputRequired | .authRequired =>
    target ∈ [.working, .inputRequired, .authRequired, .verifying, .completed, .cancelling,
      .cancelled, .rejected, .failed]
  | .verifying => target ∈ [.verifying, .completed, .cancelling, .cancelled, .rejected, .failed]
  | .cancelling => target ∈ [.cancelling, .verifying, .completed, .cancelled, .rejected, .failed]
  | .completed | .cancelled | .rejected | .failed => false

/-- The statuses that `transition` knows. -/
def knownStatuses : List String :=
  ["submitted", "working", "input-required", "auth-required", "completed", "canceled", "rejected",
    "failed"]

def stateOf (remoteStatus : String) (evaluation : Option EvaluationStatus) :
    Option A2aTaskState :=
  match remoteStatus with
  | "submitted" => some .submitted
  | "working" => some .working
  | "input-required" => some .inputRequired
  | "auth-required" => some .authRequired
  | "completed" => some (if evaluation = some .pass then .completed else .verifying)
  | "canceled" => some .cancelled
  | "rejected" => some .rejected
  | "failed" => some .failed
  | _ => none

def nextState (current : A2aTaskState) (remoteStatus : String)
    (evaluation : Option EvaluationStatus) : Option A2aTaskState :=
  if current = .cancelling ∧
      remoteStatus ∈ ["submitted", "working", "input-required", "auth-required"] then
    some .cancelling
  else stateOf remoteStatus evaluation

/-- `monotonic_update_time`: one microsecond later if the clock stands or goes back. -/
def monotonicUpdateTime (now previous : DateTime) : Option DateTime :=
  if previous < now then some now else previous.add 1000

-- Calls

inductive TaskCall where
  | load (tenantId : TenantId) (taskId : TaskId)
  | insert (record : A2aTaskRecord)
  | compareAndSet (expectedRevision : Nat) (record : A2aTaskRecord)
  | utcNow
  | newUuid
  | exchange (endpoint : String) (request : A2aJsonRpcRequest)

abbrev TaskCall.Answer : TaskCall → Type
  | .load .. => Except A2aError A2aTaskRecord
  | .insert _ | .compareAndSet .. => Except A2aError Unit
  | .utcNow => DateTime
  | .newUuid => String
  | .exchange .. => Except A2aError A2aJsonRpcResponse

abbrev Tasking := Attempt A2aError TaskCall TaskCall.Answer

/-- `Value::get` of a member. -/
def getMember (value : Value) (key : String) : Option Value :=
  match value with
  | .object members => members.lookup key
  | _ => none

inductive A2aWireOperation where
  | send
  | get
  | cancel

def wireMethod (version : String) (operation : A2aWireOperation) : Except A2aError String :=
  match version, operation with
  | "0.3.0", .send => .ok "message/send"
  | "0.3.0", .get => .ok "tasks/get"
  | "0.3.0", .cancel => .ok "tasks/cancel"
  | "1.0", .send => .ok "SendMessage"
  | "1.0", .get => .ok "GetTask"
  | "1.0", .cancel => .ok "CancelTask"
  | _, _ => .error .protocolInvalid

def normalizeRemoteState (state : String) : Option String :=
  match state with
  | "submitted" | "TASK_STATE_SUBMITTED" => some "submitted"
  | "working" | "TASK_STATE_WORKING" => some "working"
  | "input-required" | "TASK_STATE_INPUT_REQUIRED" => some "input-required"
  | "auth-required" | "TASK_STATE_AUTH_REQUIRED" => some "auth-required"
  | "completed" | "TASK_STATE_COMPLETED" => some "completed"
  | "canceled" | "cancelled" | "TASK_STATE_CANCELED" => some "canceled"
  | "rejected" | "TASK_STATE_REJECTED" => some "rejected"
  | "failed" | "TASK_STATE_FAILED" => some "failed"
  | _ => none

def parseRemoteTask (value : Value) : Except A2aError RemoteA2aTask :=
  let taskId := ((getMember value "id").bind Value.asStr).filter fun id =>
    !id.isEmpty && id.utf8ByteSize ≤ 512
  let state := ((getMember value "status").bind (getMember · "state")).bind Value.asStr
  match taskId, state.bind normalizeRemoteState with
  | some taskId, some status => .ok ⟨taskId, status⟩
  | _, _ => .error .protocolInvalid

section Client

variable {Bytes : Type} (codec : TaskCodec Bytes)

def exchangeTask (endpoint method : String) (params : Value) : Tasking RemoteA2aTask := do
  ensure (secureEndpoint codec.parseUrl endpoint = true) .protocolInvalid
  let id ← ask .newUuid
  let response ← port (.exchange endpoint ⟨"2.0", id, method, params⟩) (fun answer => answer)
  ensure (response.jsonrpc = "2.0" ∧ response.id = id ∧
    response.result.isSome ≠ response.error.isSome) .protocolInvalid
  let result ← computed response.result .remoteRejected
  Attempt.ofExcept (parseRemoteTask result)

def sendMessage (card : AgentCardSnapshot) (params : Value) : Tasking RemoteA2aTask := do
  ensure (card.verified = true ∧ params matches .object _) .protocolInvalid
  let size ← computed (codec.jcsSize params) .protocolInvalid
  ensure (size ≤ 1048576) .protocolInvalid
  let method ← Attempt.ofExcept (wireMethod card.protocolVersion .send)
  exchangeTask codec card.endpoint method params

/-- `status` and `cancel` of the client. -/
def askRemote (operation : A2aWireOperation) (record : A2aTaskRecord) : Tasking RemoteA2aTask := do
  let method ← Attempt.ofExcept (wireMethod record.protocolVersion operation)
  exchangeTask codec record.agentEndpoint method (.object [("id", .string record.remoteTaskId)])

end Client

section Adapter

variable {Bytes : Type} (codec : TaskCodec Bytes)

def signTask (record : A2aTaskRecord) : Except A2aError A2aTaskRecord :=
  match codec.taskJcs { record with backendSignature := "" } with
  | some bytes => .ok { record with backendSignature := codec.sign bytes }
  | none => .error .taskInvalid

def verifyTask (record : A2aTaskRecord) : Except A2aError Unit := do
  require (record.schemaVersion = a2aSchemaVersion ∧ record.revision ≠ 0 ∧
    record.remoteTaskId ≠ "" ∧ record.remoteTaskId.utf8ByteSize ≤ 512 ∧
    record.agentId ≠ "" ∧ record.agentId.utf8ByteSize ≤ 256 ∧
    isDigest record.agentCardHash = true ∧
    secureEndpoint codec.parseUrl record.agentEndpoint = true ∧
    record.protocolVersion ∈ ["0.3.0", "1.0"]) .taskInvalid
  match codec.taskJcs { record with backendSignature := "" } with
  | some bytes => require (codec.verifies bytes record.backendSignature = true) .taskInvalid
  | none => .error .taskInvalid

def submittedRecord (tenantId : TenantId) (taskId : TaskId) (remoteTaskId : String)
    (card : AgentCardSnapshot) (now : DateTime) : A2aTaskRecord where
  schemaVersion := a2aSchemaVersion
  tenantId := tenantId
  taskId := taskId
  remoteTaskId := remoteTaskId
  agentId := card.agentId
  agentCardHash := card.cardHash
  agentEndpoint := card.endpoint
  protocolVersion := card.protocolVersion
  state := .submitted
  remoteStatus := "submitted"
  evaluationStatus := none
  revision := 1
  updatedAt := now
  backendSignature := ""

def submit (tenantId : TenantId) (taskId : TaskId) (remoteTaskId : String)
    (card : AgentCardSnapshot) : Tasking A2aTaskRecord := do
  ensure (remoteTaskId ≠ "" ∧ remoteTaskId.utf8ByteSize ≤ 512 ∧ card.verified = true ∧
    isDigest card.cardHash = true) .taskInvalid
  let now ← ask .utcNow
  let record ← Attempt.ofExcept (signTask codec (submittedRecord tenantId taskId remoteTaskId card
    now))
  port (.insert record) id
  pure record

def status (tenantId : TenantId) (taskId : TaskId) : Tasking A2aTaskRecord := do
  let record ← port (.load tenantId taskId) id
  Attempt.ofExcept (verifyTask codec record)
  pure record

/-- The common end of `cancel` and `transition`: the changed record is the next revision. -/
def replace (current next : A2aTaskRecord) : Tasking A2aTaskRecord := do
  let revision ← computed (checkedSucc current.revision) .taskTransitionInvalid
  let now ← ask .utcNow
  let updatedAt ← computed (monotonicUpdateTime now current.updatedAt) .panicked
  let record ← Attempt.ofExcept (signTask codec { next with
    revision := revision, updatedAt := updatedAt, backendSignature := "" })
  port (.compareAndSet current.revision record) id
  pure record

def cancel (tenantId : TenantId) (taskId : TaskId) : Tasking A2aTaskRecord := do
  let current ← status codec tenantId taskId
  ensure (current.state.terminal = false ∧ current.state ≠ .cancelling) .taskTransitionInvalid
  replace codec current { current with state := .cancelling }

def transition (tenantId : TenantId) (taskId : TaskId) (remoteStatus : String)
    (evaluation : Option EvaluationStatus) : Tasking A2aTaskRecord := do
  let current ← status codec tenantId taskId
  ensure (current.state.terminal = false ∧ remoteStatus ∈ knownStatuses) .taskTransitionInvalid
  let state ← computed (nextState current.state remoteStatus evaluation) .taskTransitionInvalid
  ensure (validTaskTransition current.state state = true) .taskTransitionInvalid
  replace codec current { current with
    state := state, remoteStatus := remoteStatus, evaluationStatus := evaluation }

def recordRemoteStatus (tenantId : TenantId) (taskId : TaskId) (remoteStatus : String)
    (evaluation : Option EvaluationStatus) : Tasking A2aTaskRecord :=
  transition codec tenantId taskId remoteStatus evaluation

def submitRemote (tenantId : TenantId) (taskId : TaskId) (card : AgentCardSnapshot)
    (params : Value) : Tasking A2aTaskRecord := do
  let remote ← sendMessage codec card params
  let record ← submit codec tenantId taskId remote.taskId card
  if remote.status = "submitted" then pure record
  else transition codec record.tenantId record.taskId remote.status none

/-- `cancel_remote`: the task is cancelling before the agent hears of it. -/
def cancelRemote (tenantId : TenantId) (taskId : TaskId) : Tasking A2aTaskRecord := do
  let cancelling ← cancel codec tenantId taskId
  let remote ← askRemote codec .cancel cancelling
  ensure (remote.taskId = cancelling.remoteTaskId) .protocolInvalid
  transition codec tenantId taskId remote.status none

def refreshRemote (tenantId : TenantId) (taskId : TaskId) (evaluation : Option EvaluationStatus) :
    Tasking A2aTaskRecord := do
  let current ← status codec tenantId taskId
  let remote ← askRemote codec .get current
  ensure (remote.taskId = current.remoteTaskId) .protocolInvalid
  transition codec tenantId taskId remote.status evaluation

end Adapter

-- One store, many clients

abbrev TaskStore := BTreeMap (TenantId × TaskId) A2aTaskRecord

def A2aTaskRecord.key (record : A2aTaskRecord) : TenantId × TaskId :=
  (record.tenantId, record.taskId)

def serve (store : TaskStore) : (call : TaskCall) → call.Answer → TaskStore → Prop
  | .load tenantId taskId, answer, store' =>
    (∀ record, answer = .ok record → store[(tenantId, taskId)]? = some record) ∧ store' = store
  | .insert record, answer, store' =>
    (store[record.key]? = none ∧ store' = store.insert record.key record) ∨
      ((∃ e, answer = .error e) ∧ store' = store)
  | .compareAndSet expectedRevision record, answer, store' =>
    (∃ current, store[record.key]? = some current ∧ current.revision = expectedRevision ∧
      store' = store.insert record.key record) ∨
      ((∃ e, answer = .error e) ∧ store' = store)
  | .utcNow, _, store' | .newUuid, _, store' | .exchange .., _, store' => store' = store

abbrev TaskResult := Except A2aError A2aTaskRecord

abbrev TaskEvent := Event TaskStore TaskCall TaskCall.Answer

abbrev TaskEntry := Entry TaskCall TaskCall.Answer

abbrev TaskConfig := Config TaskStore TaskCall TaskCall.Answer TaskResult

inductive Client {Bytes : Type} (codec : TaskCodec Bytes) :
    Program TaskCall TaskCall.Answer TaskResult → Prop where
  | submit (tenantId : TenantId) (taskId : TaskId) (remoteTaskId : String)
      (card : AgentCardSnapshot) :
      Client codec (submit codec tenantId taskId remoteTaskId card).run
  | submitRemote (tenantId : TenantId) (taskId : TaskId) (card : AgentCardSnapshot)
      (params : Value) : Client codec (submitRemote codec tenantId taskId card params).run
  | status (tenantId : TenantId) (taskId : TaskId) :
      Client codec (status codec tenantId taskId).run
  | cancel (tenantId : TenantId) (taskId : TaskId) :
      Client codec (cancel codec tenantId taskId).run
  | cancelRemote (tenantId : TenantId) (taskId : TaskId) :
      Client codec (cancelRemote codec tenantId taskId).run
  | refreshRemote (tenantId : TenantId) (taskId : TaskId)
      (evaluation : Option EvaluationStatus) :
      Client codec (refreshRemote codec tenantId taskId evaluation).run
  | recordRemoteStatus (tenantId : TenantId) (taskId : TaskId) (remoteStatus : String)
      (evaluation : Option EvaluationStatus) :
      Client codec (recordRemoteStatus codec tenantId taskId remoteStatus evaluation).run

def system {Bytes : Type} (codec : TaskCodec Bytes) :
    System TaskStore TaskCall TaskCall.Answer TaskResult where
  Serve := serve
  Internal _ _ := False
  Start := Client codec

end AgentSphere.A2a
