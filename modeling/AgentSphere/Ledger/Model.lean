import AgentSphere.Contracts.Basic

/-!
# The transaction ledger

Idempotency reservations, fencing and the status of each execution. `LedgerCall` lists the
operations of the `ExecutionLedger` trait; `InMemoryExecutionLedger.perform` is the
implementation that keeps everything behind one lock, so that each call is one step. What the
source reads from the clock and from the identifier generator comes in as `Ambient`.
-/

namespace AgentSphere.Ledger

def ledgerSchemaVersion : String := "agenttrust.ledger.v1"

structure CompensationStep where
  stepId : String
  tool : ToolRef
  argumentsHash : String
  requiredCurrentVersion : Option ResourceVersion
  expectedCurrentValue : Option Value
  deriving DecidableEq, Repr

structure CompensationPlan where
  planId : String
  forwardActionHash : ActionHash
  steps : List CompensationStep
  createdAt : DateTime
  deriving DecidableEq, Repr

structure ExecutionIntent where
  schemaVersion : String
  tenantId : TenantId
  taskId : TaskId
  stepId : StepId
  actionHash : ActionHash
  idempotencyKey : IdempotencyKey
  tool : ToolRef
  effectClass : EffectClass
  resourceVersion : Option ResourceVersion
  canonicalArgumentsHash : String
  compensationPlan : Option CompensationPlan
  requestedAt : DateTime
  deriving DecidableEq, Repr

structure ExecutionFence where
  tenantId : TenantId
  executionId : ExecutionId
  token : Nat
  deriving DecidableEq, Repr

structure Reservation where
  executionId : ExecutionId
  fence : ExecutionFence
  existing : Bool
  status : ExecutionStatus
  deriving DecidableEq, Repr

structure ManualRecoveryCase where
  caseId : String
  impactScope : String
  lastKnownState : String
  recommendedActions : List String
  evidenceRefs : List String
  openedAt : DateTime
  deriving DecidableEq, Repr

structure ExecutionRecord where
  intent : ExecutionIntent
  executionId : ExecutionId
  fenceToken : Nat
  status : ExecutionStatus
  attempt : Nat
  externalOperationId : Option String
  resultRef : Option String
  evidenceRef : Option String
  lastErrorCode : Option String
  createdAt : DateTime
  updatedAt : DateTime
  manualRecovery : Option ManualRecoveryCase
  deriving DecidableEq, Repr

structure OutboxEvent where
  eventId : String
  executionId : ExecutionId
  eventType : String
  payload : Value
  createdAt : DateTime
  publishedAt : Option DateTime
  deriving DecidableEq, Repr

structure LedgerEventFact where
  eventId : String
  eventRef : String
  eventDigest : String
  deriving DecidableEq, Repr

inductive LedgerError where
  | intentInvalid
  | idempotencyConflict
  | compensationRequired
  | compensationPreconditionFailed
  | compensationFailed
  | staleFence
  | transitionInvalid
  | notFound
  | storeFailure
  deriving DecidableEq, Repr

/-- The operations of the `ExecutionLedger` trait. -/
inductive LedgerCall where
  | reserve (intent : ExecutionIntent)
  | markStarted (fence : ExecutionFence) (externalOperationId : Option String)
  | markSucceeded (fence : ExecutionFence) (resultRef evidenceRef : String)
  | markFailed (fence : ExecutionFence) (errorCode : String)
  | markUnknown (fence : ExecutionFence) (errorCode : String)
  | markManualRecovery (fence : ExecutionFence) (case : ManualRecoveryCase)
  | get (tenantId : TenantId) (executionId : ExecutionId)
  | statusEventFact (tenantId : TenantId) (executionId : ExecutionId)
  | staleNonTerminal (tenantId : TenantId) (before : DateTime)
  deriving DecidableEq, Repr

abbrev LedgerCall.Answer : LedgerCall → Type
  | .reserve _ => Except LedgerError Reservation
  | .markStarted .. | .markSucceeded .. | .markFailed .. | .markUnknown ..
  | .markManualRecovery .. => Except LedgerError Unit
  | .get .. => Except LedgerError ExecutionRecord
  | .statusEventFact .. => Except LedgerError LedgerEventFact
  | .staleNonTerminal .. => Except LedgerError (List ExecutionRecord)

structure Ambient where
  now : DateTime
  eventCreatedAt : DateTime
  executionUuid : Uuid
  eventUuid : Uuid

namespace ExecutionIntent

def key (intent : ExecutionIntent) : TenantId × IdempotencyKey :=
  (intent.tenantId, intent.idempotencyKey)

end ExecutionIntent

namespace ExecutionRecord

def key (record : ExecutionRecord) : TenantId × IdempotencyKey := record.intent.key

def fence (record : ExecutionRecord) : ExecutionFence where
  tenantId := record.intent.tenantId
  executionId := record.executionId
  token := record.fenceToken

end ExecutionRecord

def validateIntent (intent : ExecutionIntent) : Except LedgerError Unit :=
  if intent.schemaVersion ≠ ledgerSchemaVersion ∨ intent.idempotencyKey.isEmpty
      ∨ intent.idempotencyKey.utf8ByteSize > 128
      ∨ ¬ intent.idempotencyKey.toList.all
          (fun c => c.isAlphanum || c == ':' || c == '-' || c == '_' || c == '.') then
    .error .intentInvalid
  else if [intent.tenantId, intent.taskId, intent.stepId].any
      (fun value => (Uuid.parseStr value).isNone) then
    .error .intentInvalid
  else if intent.effectClass = .compensatable ∧ intent.compensationPlan.isNone then
    .error .compensationRequired
  else if intent.effectClass ≠ .pure ∧ intent.resourceVersion.isNone then
    .error .intentInvalid
  else
    .ok ()

theorem validateIntent_ok {intent : ExecutionIntent} (h : validateIntent intent = .ok ()) :
    intent.schemaVersion = ledgerSchemaVersion ∧ intent.idempotencyKey.isEmpty = false ∧
      intent.idempotencyKey.utf8ByteSize ≤ 128 ∧ (Uuid.parseStr intent.tenantId).isSome ∧
      (Uuid.parseStr intent.taskId).isSome ∧ (Uuid.parseStr intent.stepId).isSome := by
  unfold validateIntent at h
  split_ifs at h with hshape hids hplan hversion
  push Not at hshape
  simp only [List.any_cons, List.any_nil, Bool.or_false, Bool.or_eq_true, not_or,
    Option.isNone_iff_eq_none, ← ne_eq, Option.ne_none_iff_isSome] at hids
  have hsize := hshape.2.2.1
  exact ⟨hshape.1, by simpa using hshape.2.1, by omega, hids.1, hids.2.1,
    hids.2.2⟩

/-- The fields that are hashed into a `LedgerEventFact`. -/
structure LedgerEventDigestMaterial where
  schemaVersion : String
  tenantId : TenantId
  eventId : String
  executionId : ExecutionId
  eventType : String
  payload : Value
  createdAt : DateTime
  deriving DecidableEq, Repr

abbrev EventDigest := LedgerEventDigestMaterial → Option String

def ledgerEventFact (digest : EventDigest) (tenantId : TenantId) (event : OutboxEvent) :
    Except LedgerError LedgerEventFact :=
  match Uuid.parseStr event.eventId with
  | none => .error .storeFailure
  | some eventId =>
    if eventId.toStr ≠ event.eventId then .error .storeFailure
    else
      match digest
          { schemaVersion := "agenttrust.ledger-event-fact.v1"
            tenantId, eventId := event.eventId, executionId := event.executionId
            eventType := event.eventType, payload := event.payload
            createdAt := event.createdAt } with
      | none => .error .storeFailure
      | some eventDigest =>
        .ok { eventId := event.eventId, eventRef := "ledger-event:" ++ event.eventId, eventDigest }

structure InMemoryExecutionLedger where
  byExecution : BTreeMap ExecutionId ExecutionRecord
  byIdempotency : BTreeMap (TenantId × IdempotencyKey) ExecutionId
  outbox : List OutboxEvent
  nextFence : Nat

namespace InMemoryExecutionLedger

variable (ledger : InMemoryExecutionLedger) (ambient : Ambient)

def default : InMemoryExecutionLedger where
  byExecution := ∅
  byIdempotency := ∅
  outbox := []
  nextFence := 1

/-- The event a transition to `next` appends. -/
def transitionEvent (executionId : ExecutionId) (next : ExecutionStatus) : OutboxEvent where
  eventId := ambient.eventUuid.toStr
  executionId := executionId
  eventType := "EXECUTION_" ++ next.debug
  payload := .object [("status", .string next.debug)]
  createdAt := ambient.eventCreatedAt
  publishedAt := none

def put (executionId : ExecutionId) (record : ExecutionRecord) (event : OutboxEvent) :
    InMemoryExecutionLedger :=
  { ledger with
    byExecution := ledger.byExecution.insert executionId record
    outbox := ledger.outbox ++ [event] }

/-- `transition`: the fenced status update behind every `mark` call. -/
def transition (fence : ExecutionFence) (allowed : List ExecutionStatus)
    (next : ExecutionStatus) (update : ExecutionRecord → ExecutionRecord) :
    Except LedgerError Unit × InMemoryExecutionLedger :=
  match ledger.byExecution[fence.executionId]? with
  | none => (.error .notFound, ledger)
  | some record =>
    if record.intent.tenantId ≠ fence.tenantId ∨ record.fenceToken ≠ fence.token then
      (.error .staleFence, ledger)
    else if record.status ∉ allowed then
      (.error .transitionInvalid, ledger)
    else
      (.ok (), ledger.put fence.executionId
        (update { record with status := next, updatedAt := ambient.now })
        (transitionEvent ambient fence.executionId next))

def preparedRecord (intent : ExecutionIntent) : ExecutionRecord where
  intent := intent
  executionId := ambient.executionUuid.toStr
  fenceToken := ledger.nextFence
  status := .prepared
  attempt := 0
  externalOperationId := none
  resultRef := none
  evidenceRef := none
  lastErrorCode := none
  createdAt := ambient.now
  updatedAt := ambient.now
  manualRecovery := none

def insertPrepared (intent : ExecutionIntent) : InMemoryExecutionLedger where
  byExecution :=
    ledger.byExecution.insert ambient.executionUuid.toStr (ledger.preparedRecord ambient intent)
  byIdempotency := ledger.byIdempotency.insert intent.key ambient.executionUuid.toStr
  outbox := ledger.outbox ++
    [{ eventId := ambient.eventUuid.toStr
       executionId := ambient.executionUuid.toStr
       eventType := "EXECUTION_RESERVED"
       payload := .null
       createdAt := ambient.now
       publishedAt := none }]
  nextFence := (ledger.nextFence + 1) % 2 ^ 64

def reservationOf (executionId : ExecutionId) (record : ExecutionRecord) (existing : Bool) :
    Reservation where
  executionId := executionId
  fence :=
    { tenantId := record.intent.tenantId, executionId := executionId
      token := record.fenceToken }
  existing := existing
  status := record.status

def reserve (intent : ExecutionIntent) :
    Except LedgerError Reservation × InMemoryExecutionLedger :=
  match validateIntent intent with
  | .error e => (.error e, ledger)
  | .ok () =>
    match ledger.byIdempotency[intent.key]? with
    | some executionId =>
      match ledger.byExecution[executionId]? with
      | none => (.error .storeFailure, ledger)
      | some existing =>
        if existing.intent.actionHash ≠ intent.actionHash then
          (.error .idempotencyConflict, ledger)
        else
          (.ok (reservationOf executionId existing true), ledger)
    | none =>
      (.ok (reservationOf ambient.executionUuid.toStr (ledger.preparedRecord ambient intent) false),
        ledger.insertPrepared ambient intent)

/-- `mark_started`. The attempt counter is a 32-bit word. -/
def markStarted (fence : ExecutionFence) (operation : Option String) :
    Except LedgerError Unit × InMemoryExecutionLedger :=
  ledger.transition ambient fence [.prepared] .running fun record =>
    { record with
      attempt := (record.attempt + 1) % 2 ^ 32
      externalOperationId := operation }

def markSucceeded (fence : ExecutionFence) (result evidence : String) :
    Except LedgerError Unit × InMemoryExecutionLedger :=
  ledger.transition ambient fence [.running, .unknown] .succeeded fun record =>
    { record with resultRef := some result, evidenceRef := some evidence }

def markFailed (fence : ExecutionFence) (error : String) :
    Except LedgerError Unit × InMemoryExecutionLedger :=
  ledger.transition ambient fence [.prepared, .running] .failed fun record =>
    { record with lastErrorCode := some error }

def markUnknown (fence : ExecutionFence) (error : String) :
    Except LedgerError Unit × InMemoryExecutionLedger :=
  ledger.transition ambient fence [.running] .unknown fun record =>
    { record with lastErrorCode := some error }

def markManualRecovery (fence : ExecutionFence) (case : ManualRecoveryCase) :
    Except LedgerError Unit × InMemoryExecutionLedger :=
  ledger.transition ambient fence [.running, .unknown, .compensationFailed] .unknown
    fun record => { record with manualRecovery := some case }

def get (tenantId : TenantId) (executionId : ExecutionId) :
    Except LedgerError ExecutionRecord :=
  match ledger.byExecution[executionId]? with
  | none => .error .notFound
  | some record => if record.intent.tenantId ≠ tenantId then .error .notFound else .ok record

def latestEvent (executionId : ExecutionId) : Option OutboxEvent :=
  ledger.outbox.reverse.find? (fun event => event.executionId == executionId)

def statusEventFact (digest : EventDigest) (tenantId : TenantId) (executionId : ExecutionId) :
    Except LedgerError LedgerEventFact :=
  match ledger.byExecution[executionId]? with
  | none => .error .notFound
  | some record =>
    if record.intent.tenantId ≠ tenantId then .error .notFound
    else
      match ledger.latestEvent executionId with
      | none => .error .notFound
      | some event => ledgerEventFact digest tenantId event

def staleNonTerminal (tenantId : TenantId) (before : DateTime) : List ExecutionRecord :=
  ledger.byExecution.values.filter fun record =>
    record.intent.tenantId = tenantId ∧ record.updatedAt ≤ before
      ∧ (record.status = .running ∨ record.status = .unknown)

def perform (digest : EventDigest) : (call : LedgerCall) → call.Answer × InMemoryExecutionLedger
  | .reserve intent => ledger.reserve ambient intent
  | .markStarted fence operation => ledger.markStarted ambient fence operation
  | .markSucceeded fence result evidence => ledger.markSucceeded ambient fence result evidence
  | .markFailed fence error => ledger.markFailed ambient fence error
  | .markUnknown fence error => ledger.markUnknown ambient fence error
  | .markManualRecovery fence case => ledger.markManualRecovery ambient fence case
  | .get tenantId executionId => (ledger.get tenantId executionId, ledger)
  | .statusEventFact tenantId executionId =>
    (ledger.statusEventFact digest tenantId executionId, ledger)
  | .staleNonTerminal tenantId before => (.ok (ledger.staleNonTerminal tenantId before), ledger)

end InMemoryExecutionLedger

end AgentSphere.Ledger
