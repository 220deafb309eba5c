import AgentSphere.Execution.Validation
import AgentSphere.Lib.History

/-!
# The execution coordinator

`ExecutionCoordinator::execute` as a program over the calls it awaits. The ports may answer
anything; the ledger is the only dependency whose calls have a meaning of their own. The body is
cut at its writes to the ledger: `prepare` makes none, `reserve` the first, `start` the second,
and each exit after that settles the record.
-/

namespace AgentSphere.Execution

open Concurrency Ledger

inductive ExecutionCall where
  | requireActive
  | utcNow
  | newUuid
  | materialize (request : ExecutionRequest)
  | resolve (tenantId : TenantId) (tool : ToolRef)
  | preapprove (request : PreApprovalRequest)
  | consume (request : ApprovalGrantRequest)
  | verifyApproval (request : ApprovalGrantRequest) (receipt : ApprovalGrantReceipt)
  | authorize (request : FinalAuthorizationRequest)
  | toolExecute (request : AuthorizedToolRequest) (idempotencyKey fenceDigest : String)
  | appendEvidence (request : ExecutionEvidenceRequest)
  | verifyEvidence (receipt : ExecutionEvidenceReceipt)
  | resolveStale (record : ExecutionRecord)
  | ledger (call : LedgerCall)

abbrev ExecutionCall.Answer : ExecutionCall → Type
  | .requireActive => Bool
  | .utcNow => DateTime
  | .newUuid => Uuid
  | .materialize _ => Except ExecutionError MaterializedAction
  | .resolve .. => Except ExecutionError ResolvedToolSnapshot
  | .preapprove _ => Except ExecutionError PreApprovalOutcome
  | .consume _ => Except ExecutionError ApprovalGrantReceipt
  | .verifyApproval .. => Except ExecutionError MinimalApprovalGrant
  | .authorize _ => Except ExecutionError PreExecutionAuthorization
  | .toolExecute .. => Except ExecutionError SanitizedToolResult
  | .appendEvidence _ => Except ExecutionError ExecutionEvidenceReceipt
  | .verifyEvidence _ => Except ExecutionError Unit
  | .resolveStale _ => Except LedgerError RecoveryDecision
  | .ledger call => call.Answer

abbrev Coordination := Attempt ExecutionError ExecutionCall ExecutionCall.Answer

abbrev ExecutionEntry := Entry ExecutionCall ExecutionCall.Answer

namespace Coordination

def ask (call : ExecutionCall) : Coordination call.Answer := ExceptT.lift (Program.call call)

def port {α : Type} (call : ExecutionCall) (read : call.Answer → Except ExecutionError α) :
    Coordination α := do
  let answer ← ask call
  Attempt.ofExcept (read answer)

def materialize (request : ExecutionRequest) : Coordination MaterializedAction :=
  port (.materialize request) id

def resolve (tenantId : TenantId) (tool : ToolRef) : Coordination ResolvedToolSnapshot :=
  port (.resolve tenantId tool) id

def preapprove (request : PreApprovalRequest) : Coordination PreApprovalOutcome :=
  port (.preapprove request) id

def consume (request : ApprovalGrantRequest) : Coordination ApprovalGrantReceipt :=
  port (.consume request) id

def verifyApproval (request : ApprovalGrantRequest) (receipt : ApprovalGrantReceipt) :
    Coordination MinimalApprovalGrant :=
  port (.verifyApproval request receipt) id

def reserve (intent : ExecutionIntent) : Coordination Reservation :=
  port (.ledger (.reserve intent)) (Except.mapError .ledger)

def markFailed (fence : ExecutionFence) (errorCode : String) : Coordination Unit :=
  port (.ledger (.markFailed fence errorCode)) (Except.mapError .ledger)

def markUnknown (fence : ExecutionFence) (errorCode : String) : Coordination Unit :=
  port (.ledger (.markUnknown fence errorCode)) (Except.mapError .ledger)

def markSucceeded (fence : ExecutionFence) (resultRef evidenceRef : String) : Coordination Unit :=
  port (.ledger (.markSucceeded fence resultRef evidenceRef)) (Except.mapError .ledger)

def get (tenantId : TenantId) (executionId : ExecutionId) : Coordination ExecutionRecord :=
  port (.ledger (.get tenantId executionId)) (Except.mapError .ledger)

def statusEventFact (tenantId : TenantId) (executionId : ExecutionId) :
    Coordination LedgerEventFact :=
  port (.ledger (.statusEventFact tenantId executionId)) (Except.mapError .ledger)

def requireActivation : Coordination Unit := do
  let active ← ask .requireActive
  Attempt.ensure (active = true) .activationUnavailable

end Coordination

structure Approval where
  grant : Option MinimalApprovalGrant
  consumptionRef : Option String
  receiptDigest : Option String

structure Prepared where
  request : ExecutionRequest
  materialized : MaterializedAction
  tool : ResolvedToolSnapshot
  preapprovalRequest : PreApprovalRequest
  preapproval : PreApprovalOutcome
  approval : Approval
  intent : ExecutionIntent

structure Reserved extends Prepared where
  reservation : Reservation
  fenceDigest : String

namespace Reserved

abbrev fence (reserved : Reserved) : ExecutionFence := reserved.reservation.fence

end Reserved

def compensationValid (plan : Option CompensationPlan) (actionHash : ActionHash) : Bool :=
  plan.any fun plan => plan.forwardActionHash = actionHash && !plan.steps.isEmpty

def approvalRequestFor (codec : Codec) (request : ExecutionRequest)
    (materialized : MaterializedAction) (tool : ResolvedToolSnapshot)
    (signed : SignedPreApprovalOutcome) : Except ExecutionError ApprovalGrantRequest := do
  let some planHash := materialized.action.planHash.filter isDigest
    | throw .authorizationDenied
  let parameterHash ← codec.digest (.arguments materialized.action.arguments)
  let some resourceVersion := materialized.action.currentStateVersion
    | throw .authorizationDenied
  pure
    { schemaVersion := "agenttrust.approval-grant-request.v1", tenantId := request.tenantId
      taskId := materialized.action.taskId, stepId := materialized.action.stepId
      actionHash := materialized.actionHash, planHash, parameterHash
      resource := materialized.action.resource.locator, resourceVersion
      policyVersion := signed.decision.policyVersion
      environment := materialized.action.environment.deployment
      maximumRisk := RiskLevel.max
        (RiskLevel.max materialized.action.risk.declaredRisk tool.riskLevel)
        signed.decision.riskSummary }

def intentFor (codec : Codec) (request : ExecutionRequest) (materialized : MaterializedAction)
    (tool : ResolvedToolSnapshot) (plan : Option CompensationPlan) :
    Except ExecutionError ExecutionIntent := do
  if !isUuid request.taskId then
    throw .requestInvalid
  let canonicalArgumentsHash ← codec.digest (.arguments materialized.action.arguments)
  pure
    { schemaVersion := ledgerSchemaVersion, tenantId := request.tenantId
      taskId := request.taskId, stepId := materialized.action.stepId
      actionHash := materialized.actionHash, idempotencyKey := request.idempotencyKey
      tool := materialized.action.tool, effectClass := tool.effectClass
      resourceVersion := materialized.action.currentStateVersion, canonicalArgumentsHash
      compensationPlan := plan, requestedAt := materialized.action.requestedAt }

namespace ExecutionCoordinator

variable (self : ExecutionCoordinator)

-- Before the reservation

def obtainApproval (request : ExecutionRequest) (materialized : MaterializedAction)
    (tool : ResolvedToolSnapshot) (signed : SignedPreApprovalOutcome) : Coordination Approval :=
  if !signed.approvalRequired then
    pure { grant := none, consumptionRef := none, receiptDigest := none }
  else do
    let approvalRequest ←
      Attempt.ofExcept (approvalRequestFor self.codec request materialized tool signed)
    let receipt ← Coordination.consume approvalRequest
    let grant ← Coordination.verifyApproval approvalRequest receipt
    let receiptDigest ← Attempt.ofExcept (self.codec.digest (.approvalReceipt receipt))
    pure
      { grant := some grant, consumptionRef := some receipt.consumptionRef
        receiptDigest := some receiptDigest }

def prepare (request : ExecutionRequest) : Coordination Prepared := do
  Coordination.requireActivation
  Attempt.ofExcept (validateRequest request)
  let materialized ← Coordination.materialize request
  Attempt.ensure (isUuid request.tenantId) .requestInvalid
  let tool ← Coordination.resolve request.tenantId materialized.action.tool
  Attempt.ofExcept ((self.validateSchemaInstance tool.inputSchema
    (.object materialized.action.payload.data)).mapError .registry)
  let requestedAt ← Coordination.ask .utcNow
  let preapprovalRequest : PreApprovalRequest :=
    { schemaVersion := "agenttrust.pre-approval-request.v1", action := materialized.action
      actionHash := materialized.actionHash, tool, idempotencyKey := request.idempotencyKey
      requestedAt }
  let preapproval ← Coordination.preapprove preapprovalRequest
  let now ← Coordination.ask .utcNow
  Attempt.ofExcept
    (validatePreapproval self.codec preapproval preapprovalRequest materialized tool now)
  let approval ← self.obtainApproval request materialized tool preapproval.signedOutcome
  Attempt.ensure
    (if tool.effectClass = .compensatable then
      compensationValid preapproval.compensationPlan materialized.actionHash
    else preapproval.compensationPlan.isNone)
    .authorizationDenied
  let intent ← Attempt.ofExcept
    (intentFor self.codec request materialized tool preapproval.compensationPlan)
  pure { request, materialized, tool, preapprovalRequest, preapproval, approval, intent }

-- Settling the record

/-- `outcome_from_record`: the outcome names the latest event of the record. -/
def outcomeFromRecord (request : ExecutionRequest) (record : ExecutionRecord)
    (fenceDigest : String) : Coordination ExecutionOutcome := do
  let fact ← Coordination.statusEventFact record.intent.tenantId record.executionId
  Attempt.ofExcept (outcomeOfRecord self.codec request record fenceDigest fact.eventRef)

def currentOutcome (reserved : Reserved) : Coordination ExecutionOutcome := do
  let record ← Coordination.get reserved.request.tenantId reserved.reservation.executionId
  self.outcomeFromRecord reserved.request record reserved.fenceDigest

def settleFailed (reserved : Reserved) (errorCode : String) : Coordination ExecutionOutcome := do
  Coordination.markFailed reserved.fence errorCode
  self.currentOutcome reserved

def settleUnknown (reserved : Reserved) (errorCode : String) : Coordination ExecutionOutcome := do
  Coordination.markUnknown reserved.fence errorCode
  self.currentOutcome reserved

def activationLost (reserved : Reserved) : Coordination ExecutionOutcome := do
  Coordination.markFailed reserved.fence "EXECUTION_PRODUCTION_ACTIVATION_INVALID"
  throw .activationUnavailable

-- After the tool has answered

def evidenceRequestFor (reserved : Reserved) (authorization : ExecutionAuthorization)
    (authorizationDigest : String) (result : SanitizedToolResult) (occurredAt : DateTime) :
    ExecutionEvidenceRequest where
  schemaVersion := "agenttrust.execution-evidence-request.v1"
  tenantId := reserved.request.tenantId
  taskId := reserved.materialized.action.taskId
  stepId := reserved.materialized.action.stepId
  executionId := reserved.reservation.executionId
  fenceDigest := reserved.fenceDigest
  actionHash := reserved.materialized.actionHash
  authorizationId := authorization.authorizationId
  authorizationDigest := authorizationDigest
  idempotencyKey := reserved.request.idempotencyKey
  result := result
  event :=
    { schemaVersion := evidenceSchemaVersion, tenantId := reserved.request.tenantId
      taskId := reserved.materialized.action.taskId, eventType := .toolExecuted
      actorSubject := reserved.materialized.ownerSubject, sourceService := self.sourceService
      traceId := reserved.materialized.traceId, spanId := reserved.reservation.executionId
      payloadHash := result.resultHash
      safeSummary := "tool execution " ++ reserved.reservation.executionId
      artifactRefs := result.artifactRef.toList, occurredAt }

def recordEvidence (reserved : Reserved) (result : SanitizedToolResult)
    (evidenceRequest : ExecutionEvidenceRequest) (evidence : ExecutionEvidenceReceipt) :
    Coordination ExecutionOutcome :=
  match validateEvidence self.codec evidence evidenceRequest with
  | .error _ => self.settleUnknown reserved "EXECUTION_EVIDENCE_INVALID"
  | .ok () => do
    match ← Coordination.ask (.verifyEvidence evidence) with
    | .error _ => self.settleUnknown reserved "EXECUTION_EVIDENCE_INVALID"
    | .ok () =>
      Coordination.markSucceeded reserved.fence result.resultHash evidence.evidenceRef
      self.currentOutcome reserved

def recordResult (reserved : Reserved) (authorization : ExecutionAuthorization)
    (authorizationDigest : String) (result : SanitizedToolResult) :
    Coordination ExecutionOutcome := do
  let valid ← Attempt.ofExcept (toolResultValid self.codec result authorization
    reserved.request.tenantId reserved.materialized.actionHash)
  if !valid then
    self.settleUnknown reserved "EXECUTION_TOOL_RESULT_INVALID"
  else
    let occurredAt ← Coordination.ask .utcNow
    let evidenceRequest :=
      self.evidenceRequestFor reserved authorization authorizationDigest result occurredAt
    match ← Coordination.ask (.appendEvidence evidenceRequest) with
    | .error _ => self.settleUnknown reserved "EXECUTION_EVIDENCE_UNKNOWN"
    | .ok evidence => self.recordEvidence reserved result evidenceRequest evidence

-- From the reservation to the tool

def toolRequestFor (reserved : Reserved) (ledgerEvent : LedgerEventFact)
    (authorized : PreExecutionAuthorization) : AuthorizedToolRequest where
  authorization := authorized.authorization
  tool := authorized.tool
  tenantId := reserved.request.tenantId
  ledgerExecutionId := reserved.reservation.executionId
  ledgerEventId := ledgerEvent.eventId
  ledgerEventDigest := ledgerEvent.eventDigest
  fenceDigest := reserved.fenceDigest
  idempotencyKey := reserved.request.idempotencyKey
  workloadCredential := authorized.workloadCredential
  credentialBindingReceipt := authorized.credentialBindingReceipt
  operation := reserved.materialized.action.intent.operation
  resource := reserved.materialized.action.resource.locator
  resourceVersion := reserved.materialized.action.resourceVersion
  targetProfile := authorized.targetProfile
  environment := reserved.materialized.action.environment.deployment
  arguments := reserved.materialized.action.payload.data
  traceId := reserved.materialized.traceId

def invokeTool (reserved : Reserved) (ledgerEvent : LedgerEventFact)
    (authorized : PreExecutionAuthorization) (authorizationDigest : String) :
    Coordination ExecutionOutcome := do
  match ← Coordination.ask (.toolExecute (toolRequestFor reserved ledgerEvent authorized)
    reserved.request.idempotencyKey reserved.fenceDigest) with
  | .ok result => self.recordResult reserved authorized.authorization authorizationDigest result
  | .error .authorizationDenied => self.settleFailed reserved "EXECUTION_TOOL_REJECTED"
  | .error _ => self.settleUnknown reserved "EXECUTION_OUTCOME_UNKNOWN"

/-- The release is checked on both sides of `mark_started`. -/
def start (reserved : Reserved) (ledgerEvent : LedgerEventFact)
    (authorized : PreExecutionAuthorization) : Coordination ExecutionOutcome := do
  let authorizationDigest ←
    Attempt.ofExcept (self.codec.digest (.authorization authorized.authorization))
  match ← Coordination.ask .requireActive with
  | false => activationLost reserved
  | true =>
    match ← Coordination.ask (.ledger (.markStarted reserved.fence none)) with
    | .error .staleFence => self.currentOutcome reserved
    | .error .transitionInvalid => self.currentOutcome reserved
    | .error e => throw (.ledger e)
    | .ok () =>
      match ← Coordination.ask .requireActive with
      | false => activationLost reserved
      | true => self.invokeTool reserved ledgerEvent authorized authorizationDigest

def finalRequestFor (reserved : Reserved) (policyInput : PolicyInput)
    (ledgerEvent : LedgerEventFact) (requestedAt : DateTime) : FinalAuthorizationRequest where
  schemaVersion := "agenttrust.final-authorization-request.v1"
  stage := .preExecution
  action := reserved.materialized.action
  actionHash := reserved.materialized.actionHash
  tool := reserved.tool
  policyInput := policyInput
  preapproval := reserved.preapproval.signedOutcome
  approval := reserved.approval.grant
  approvalConsumptionRef := reserved.approval.consumptionRef
  approvalReceiptDigest := reserved.approval.receiptDigest
  ledgerExecutionId := reserved.reservation.executionId
  ledgerEventId := ledgerEvent.eventId
  ledgerEventDigest := ledgerEvent.eventDigest
  fenceDigest := reserved.fenceDigest
  idempotencyKey := reserved.request.idempotencyKey
  requestedAt := requestedAt

def factsCurrent (signed : SignedPreApprovalOutcome) (now : DateTime) : Bool :=
  signed.issuedAt ≤ now && now < signed.expiresAt &&
    signed.factSnapshot.validateIntegrity (snapshotDigest self.codec signed.factSnapshot) now &&
    signed.factSnapshot.requireVerified

def authorizeFinally (reserved : Reserved) : Coordination ExecutionOutcome := do
  let policyInput ← Attempt.ofExcept (policyInputOf reserved.materialized.action reserved.tool
    reserved.preapproval.signedOutcome.factSnapshot
    (reserved.approval.grant.map (·.approvalId)).toList)
  let ledgerEvent ←
    Coordination.statusEventFact reserved.request.tenantId reserved.reservation.executionId
  let requestedAt ← Coordination.ask .utcNow
  let finalRequest := finalRequestFor reserved policyInput ledgerEvent requestedAt
  match ← Coordination.ask (.authorize finalRequest) with
  | .ok authorized =>
    match validateAuthorization self.codec authorized finalRequest reserved.materialized
        reserved.tool with
    | .ok () => self.start reserved ledgerEvent authorized
    | .error _ => self.settleFailed reserved "EXECUTION_AUTHORIZATION_RESPONSE_INVALID"
  | .error .authorizationDenied => self.settleFailed reserved "EXECUTION_AUTHORIZATION_DENIED"
  | .error .dependencyResponseInvalid =>
    self.settleFailed reserved "EXECUTION_AUTHORIZATION_RESPONSE_INVALID"
  | .error e => throw e

/-- A record in `Prepared` goes on to the final authorization. -/
def continuePrepared (reserved : Reserved) : Coordination ExecutionOutcome := do
  let now ← Coordination.ask .utcNow
  if !self.factsCurrent reserved.preapproval.signedOutcome now then
    self.settleFailed reserved "EXECUTION_AUTHORITATIVE_FACTS_EXPIRED"
  else
    self.authorizeFinally reserved

/-- Reserve; a record that has left `Prepared` is reported and never run again. -/
def reserveAndRun (prepared : Prepared) : Coordination ExecutionOutcome := do
  Coordination.requireActivation
  let reservation ← Coordination.reserve prepared.intent
  let fenceDigest ← Attempt.ofExcept (self.codec.digest (.fence reservation.fence))
  let reserved : Reserved := { prepared with reservation, fenceDigest }
  if reservation.existing then
    let record ← Coordination.get prepared.request.tenantId reservation.executionId
    if record.status ≠ .prepared then
      self.outcomeFromRecord prepared.request record fenceDigest
    else
      self.continuePrepared reserved
  else
    self.continuePrepared reserved

def execute (request : ExecutionRequest) : Coordination ExecutionOutcome := do
  let prepared ← self.prepare request
  self.reserveAndRun prepared

end ExecutionCoordinator

-- One ledger, many coordinators and scanners

def serve (digest : EventDigest) (ledger : InMemoryExecutionLedger) :
    (call : ExecutionCall) → call.Answer → InMemoryExecutionLedger → Prop
  | .ledger call, answer, ledger' =>
    ∃ ambient : Ambient, ambient.Fresh ledger ∧
      ledger.perform ambient digest call = (answer, ledger')
  | _, _, ledger' => ledger' = ledger

def scanCall : ScanCall → ExecutionCall
  | .ledger call => .ledger call
  | .resolve record => .resolveStale record
  | .newUuid => .newUuid
  | .utcNow => .utcNow

def scanAnswer : (call : ScanCall) → (scanCall call).Answer → call.Answer
  | .ledger _, answer => answer
  | .resolve _, answer => answer
  | .newUuid, answer => answer
  | .utcNow, answer => answer

abbrev ThreadResult := Option (Except ExecutionError ExecutionOutcome)

abbrev ExecutionEvent := Event InMemoryExecutionLedger ExecutionCall ExecutionCall.Answer

abbrev ExecutionConfig :=
  Config InMemoryExecutionLedger ExecutionCall ExecutionCall.Answer ThreadResult

inductive Caller (self : ExecutionCoordinator) :
    Program ExecutionCall ExecutionCall.Answer ThreadResult → Prop where
  | execution (request : ExecutionRequest) :
      Caller self ((self.execute request).run >>= fun result => .done (some result))
  | scanner (tenantId : TenantId) (before : DateTime) :
      Caller self (((reconcile tenantId before).run.embed scanCall scanAnswer) >>=
        fun _ => .done none)

def system (self : ExecutionCoordinator) :
    System InMemoryExecutionLedger ExecutionCall ExecutionCall.Answer ThreadResult where
  Serve := serve self.codec.eventDigest
  Internal _ _ := False
  Start := Caller self

end AgentSphere.Execution
