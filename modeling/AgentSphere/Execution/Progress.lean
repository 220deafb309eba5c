import AgentSphere.Execution.Threads

/-!
# An execution that is let through

The validators are met together: when the answers of the ports pass them, an execution goes
through to the tool proxy, and from there to a result with evidence. These are the runs that the
results about all runs are not vacuous on.
-/

namespace AgentSphere.Execution

open Concurrency Ledger

section Rules

variable {α β : Type} {entries : List ExecutionEntry}
  {q : Program ExecutionCall ExecutionCall.Answer (Except ExecutionError β)}

theorem resumes_ask {call : ExecutionCall} {f : call.Answer → Coordination β} {answer : call.Answer}
    (h : Resumes (f answer).run entries q) :
    Resumes (Coordination.ask call >>= f).run (⟨call, answer⟩ :: entries) q :=
  .perform h

theorem resumes_ofExcept {r : Except ExecutionError α} {f : α → Coordination β} {a : α}
    (hr : r = .ok a) (h : Resumes (f a).run entries q) :
    Resumes (Attempt.ofExcept r >>= f).run entries q := by
  rw [hr]
  exact h

theorem resumes_ensure {condition : Prop} [Decidable condition] {e : ExecutionError}
    {f : Unit → Coordination β} (hcondition : condition) (h : Resumes (f ()).run entries q) :
    Resumes (Attempt.ensure condition e >>= f).run entries q :=
  .ensure_bind hcondition h

theorem resumes_port {call : ExecutionCall} {read : call.Answer → Except ExecutionError α}
    {f : α → Coordination β} {a : α} {answer : call.Answer} (hread : read answer = .ok a)
    (h : Resumes (f a).run entries q) :
    Resumes (Coordination.port call read >>= f).run (⟨call, answer⟩ :: entries) q :=
  .port_bind hread h

theorem resumes_requireActivation {f : Unit → Coordination β}
    (h : Resumes (f ()).run entries q) :
    Resumes (Coordination.requireActivation >>= f).run (⟨.requireActive, true⟩ :: entries) q := by
  have hactive : Resumes Coordination.requireActivation.run [⟨.requireActive, true⟩]
      (.done (.ok ())) := .perform (.refl _)
  exact hactive.attempt_bind h

theorem resumes_outcomeFromRecord {coordinator : ExecutionCoordinator} {request : ExecutionRequest}
    {record : ExecutionRecord} {fenceDigest : String} {fact : LedgerEventFact}
    {outcome : ExecutionOutcome}
    (h : outcomeOfRecord coordinator.codec request record fenceDigest fact.eventRef = .ok outcome) :
    Resumes (coordinator.outcomeFromRecord request record fenceDigest).run
      [⟨.ledger (.statusEventFact record.intent.tenantId record.executionId), .ok fact⟩]
      (.done (.ok outcome)) := by
  unfold ExecutionCoordinator.outcomeFromRecord
  refine resumes_port rfl ?_
  rw [h]
  exact .refl _

end Rules

-- Up to the reservation

def preapprovalRequestFor (request : ExecutionRequest) (materialized : MaterializedAction)
    (tool : ResolvedToolSnapshot) (requestedAt : DateTime) : PreApprovalRequest where
  schemaVersion := "agenttrust.pre-approval-request.v1"
  action := materialized.action
  actionHash := materialized.actionHash
  tool := tool
  idempotencyKey := request.idempotencyKey
  requestedAt := requestedAt

structure Preparation (coordinator : ExecutionCoordinator) where
  request : ExecutionRequest
  materialized : MaterializedAction
  tool : ResolvedToolSnapshot
  requestedAt : DateTime
  preapproval : PreApprovalOutcome
  decidedAt : DateTime
  intent : ExecutionIntent
  requestValid : validateRequest request = .ok ()
  schemaValid : coordinator.validateSchemaInstance tool.inputSchema
    (.object materialized.action.payload.data) = .ok ()
  preapproved : validatePreapproval coordinator.codec preapproval
    (preapprovalRequestFor request materialized tool requestedAt) materialized tool decidedAt =
      .ok ()
  unapproved : preapproval.signedOutcome.approvalRequired = false
  compensable : (if tool.effectClass = .compensatable then
      compensationValid preapproval.compensationPlan materialized.actionHash
    else preapproval.compensationPlan.isNone) = true
  intended : intentFor coordinator.codec request materialized tool preapproval.compensationPlan =
    .ok intent

namespace Preparation

variable {coordinator : ExecutionCoordinator} (c : Preparation coordinator)

/-- What `prepare` returns. -/
def prepared : Prepared where
  request := c.request
  materialized := c.materialized
  tool := c.tool
  preapprovalRequest := preapprovalRequestFor c.request c.materialized c.tool c.requestedAt
  preapproval := c.preapproval
  approval := { grant := none, consumptionRef := none, receiptDigest := none }
  intent := c.intent

/-- The calls of `prepare`. -/
def entries : List ExecutionEntry :=
  [⟨.requireActive, true⟩, ⟨.materialize c.request, .ok c.materialized⟩,
    ⟨.resolve c.request.tenantId c.materialized.action.tool, .ok c.tool⟩,
    ⟨.utcNow, c.requestedAt⟩,
    ⟨.preapprove (preapprovalRequestFor c.request c.materialized c.tool c.requestedAt),
      .ok c.preapproval⟩,
    ⟨.utcNow, c.decidedAt⟩]

theorem resumes_prepare :
    Resumes (coordinator.prepare c.request).run c.entries (.done (.ok c.prepared)) := by
  have huuid : isUuid c.request.tenantId = true := by
    by_contra hother
    have hvalid := c.requestValid
    rw [validateRequest, if_pos (by simp [hother])] at hvalid
    cases hvalid
  have happroval : Resumes (coordinator.obtainApproval c.request c.materialized c.tool
      c.preapproval.signedOutcome).run [] (.done (.ok c.prepared.approval)) := by
    unfold ExecutionCoordinator.obtainApproval
    rw [if_pos (by simp [c.unapproved])]
    exact .refl _
  unfold ExecutionCoordinator.prepare
  refine resumes_requireActivation ?_
  refine resumes_ofExcept c.requestValid ?_
  refine resumes_port rfl ?_
  refine resumes_ensure huuid ?_
  refine resumes_port rfl ?_
  refine resumes_ofExcept (by rw [c.schemaValid]; rfl) ?_
  refine resumes_ask ?_
  refine resumes_port rfl ?_
  refine resumes_ask ?_
  refine resumes_ofExcept c.preapproved ?_
  refine happroval.attempt_bind ?_
  refine resumes_ensure c.compensable ?_
  refine resumes_ofExcept c.intended ?_
  exact .refl _

theorem reports_existing {reservation : Reservation} (record : ExecutionRecord)
    (hexisting : reservation.existing = true) {fenceDigest : String}
    (hfenced : coordinator.codec.digest (.fence reservation.fence) = .ok fenceDigest)
    (hleft : record.status ≠ .prepared) :
    Resumes (coordinator.execute c.request).run
      (c.entries ++ [⟨.requireActive, true⟩, ⟨.ledger (.reserve c.intent), .ok reservation⟩,
        ⟨.ledger (.get c.request.tenantId reservation.executionId), .ok record⟩])
      (coordinator.outcomeFromRecord c.request record fenceDigest).run := by
  refine c.resumes_prepare.attempt_bind ?_
  unfold ExecutionCoordinator.reserveAndRun
  refine resumes_requireActivation ?_
  refine resumes_port rfl ?_
  refine resumes_ofExcept hfenced ?_
  rw [if_pos hexisting]
  refine resumes_port rfl ?_
  rw [if_pos hleft]
  exact .refl _

end Preparation

-- Up to the tool proxy

structure Clearance (coordinator : ExecutionCoordinator) extends Preparation coordinator where
  reservation : Reservation
  fenceDigest : String
  policyInput : PolicyInput
  checkedAt : DateTime
  ledgerEvent : LedgerEventFact
  authorizedAt : DateTime
  authorized : PreExecutionAuthorization
  authorizationDigest : String
  first : reservation.existing = false
  fenced : coordinator.codec.digest (.fence reservation.fence) = .ok fenceDigest
  current : coordinator.factsCurrent preapproval.signedOutcome checkedAt = true
  input : policyInputOf materialized.action tool preapproval.signedOutcome.factSnapshot [] =
    .ok policyInput
  accepted : validateAuthorization coordinator.codec authorized
    (ExecutionCoordinator.finalRequestFor
      { toPrepared := toPreparation.prepared, reservation, fenceDigest } policyInput ledgerEvent
      authorizedAt) materialized tool = .ok ()
  digested : coordinator.codec.digest (.authorization authorized.authorization) =
    .ok authorizationDigest

namespace Clearance

variable {coordinator : ExecutionCoordinator} (c : Clearance coordinator)

def reserved : Reserved :=
  { toPrepared := c.prepared, reservation := c.reservation, fenceDigest := c.fenceDigest }

def starting : List ExecutionEntry :=
  [⟨.requireActive, true⟩, ⟨.ledger (.reserve c.intent), .ok c.reservation⟩,
    ⟨.utcNow, c.checkedAt⟩,
    ⟨.ledger (.statusEventFact c.request.tenantId c.reservation.executionId), .ok c.ledgerEvent⟩,
    ⟨.utcNow, c.authorizedAt⟩,
    ⟨.authorize (ExecutionCoordinator.finalRequestFor c.reserved c.policyInput c.ledgerEvent
      c.authorizedAt), .ok c.authorized⟩,
    ⟨.requireActive, true⟩, ⟨.ledger (.markStarted c.reservation.fence none), .ok ()⟩,
    ⟨.requireActive, true⟩]

/-- **Progress**: the execution comes to the tool proxy. -/
theorem reaches_tool :
    Resumes (coordinator.execute c.request).run (c.entries ++ c.starting)
      (coordinator.invokeTool c.reserved c.ledgerEvent c.authorized c.authorizationDigest).run := by
  refine c.resumes_prepare.attempt_bind ?_
  unfold ExecutionCoordinator.reserveAndRun
  refine resumes_requireActivation ?_
  refine resumes_port rfl ?_
  refine resumes_ofExcept c.fenced ?_
  rw [if_neg (by simp [c.first])]
  unfold ExecutionCoordinator.continuePrepared
  refine resumes_ask ?_
  rw [if_neg (by simp [Preparation.prepared, c.current])]
  unfold ExecutionCoordinator.authorizeFinally
  refine resumes_ofExcept c.input ?_
  refine resumes_port rfl ?_
  refine resumes_ask ?_
  refine resumes_ask ?_
  have haccepted : validateAuthorization coordinator.codec c.authorized
      (ExecutionCoordinator.finalRequestFor c.reserved c.policyInput c.ledgerEvent c.authorizedAt)
      c.prepared.materialized c.prepared.tool = .ok () := c.accepted
  rw [reserved] at haccepted
  simp only [haccepted]
  unfold ExecutionCoordinator.start
  refine resumes_ofExcept c.digested ?_
  refine resumes_ask ?_
  refine resumes_ask ?_
  refine resumes_ask ?_
  exact .refl _

theorem loses_outcome {e : ExecutionError} (hother : e ≠ .authorizationDenied) :
    Resumes (coordinator.invokeTool c.reserved c.ledgerEvent c.authorized
        c.authorizationDigest).run
      [toolEntry c.reserved c.ledgerEvent c.authorized (.error e),
        ⟨.ledger (.markUnknown c.reservation.fence "EXECUTION_OUTCOME_UNKNOWN"), .ok ()⟩]
      (coordinator.currentOutcome c.reserved).run := by
  unfold ExecutionCoordinator.invokeTool
  refine resumes_ask ?_
  split
  · next heq => cases heq
  · next heq => exact absurd (Except.error.inj heq) hother
  · refine resumes_port rfl ?_
    exact .refl _

/-- **Success**: a valid result with verified evidence is reported. -/
theorem succeeds {result : SanitizedToolResult} {occurredAt : DateTime}
    {evidence : ExecutionEvidenceReceipt} {record : ExecutionRecord} {fact : LedgerEventFact}
    {outcome : ExecutionOutcome}
    (hvalid : toolResultValid coordinator.codec result c.authorized.authorization
      c.request.tenantId c.materialized.actionHash = .ok true)
    (hproven : validateEvidence coordinator.codec evidence (coordinator.evidenceRequestFor
      c.reserved c.authorized.authorization c.authorizationDigest result occurredAt) = .ok ())
    (houtcome : outcomeOfRecord coordinator.codec c.request record c.fenceDigest fact.eventRef =
      .ok outcome) :
    Resumes (coordinator.execute c.request).run
      (c.entries ++ c.starting ++ [toolEntry c.reserved c.ledgerEvent c.authorized (.ok result),
        ⟨.utcNow, occurredAt⟩,
        ⟨.appendEvidence (coordinator.evidenceRequestFor c.reserved c.authorized.authorization
          c.authorizationDigest result occurredAt), .ok evidence⟩,
        ⟨.verifyEvidence evidence, .ok ()⟩,
        ⟨.ledger (.markSucceeded c.reservation.fence result.resultHash evidence.evidenceRef),
          .ok ()⟩,
        ⟨.ledger (.get c.request.tenantId c.reservation.executionId), .ok record⟩,
        ⟨.ledger (.statusEventFact record.intent.tenantId record.executionId), .ok fact⟩])
      (.done (.ok outcome)) := by
  refine c.reaches_tool.trans ?_
  unfold ExecutionCoordinator.invokeTool
  refine resumes_ask ?_
  unfold ExecutionCoordinator.recordResult
  refine resumes_ofExcept hvalid ?_
  refine resumes_ask ?_
  refine resumes_ask ?_
  unfold ExecutionCoordinator.recordEvidence
  simp only [hproven]
  refine resumes_ask ?_
  refine resumes_port rfl ?_
  refine resumes_port rfl ?_
  exact resumes_outcomeFromRecord houtcome

end Clearance

-- A sample execution

def sampleActionHash : String :=
  "054490ec5cf633a149051a20fb0d28373cc43efaf22b16d311a61b2b731e1957"

def sampleClaimsDigest : String :=
  "2e215e90c17545732bf9ba893e07ba22207d72eb08ac26c9bf103233f9568a81"

def sampleCodec : Codec where
  hexDigest text :=
    if text = "workload-credential-1" then
      "f6531b93ac52b8015dfd85ec934ad387234a1740c76bb0335445f790cf426bfb"
    else sampleHash '0'
  digest? document := some <|
    match document with
    | .fence _ => "9ade6f9a4e6d4d045f7717ed5628676543ffc30078169972a79b99696c916737"
    | .arguments _ => "959fe8a1c308b7312bdce063c32551198f463d9da6219525afe878bc46ddf61e"
    | .preApprovalRequest _ =>
      "fa1e1762fbd11a6641f5eafbfa5126f11d27f4aa0de6670dfba73ef322308596"
    | .signedPreApproval _ => "e3a70fa30721700fbcdb94456524c5dfa409a136470c3532e4db99ca6caeab2f"
    | .factSnapshot _ => "1b7d1f41c7ad7769dda47c21e2d142cc9afac52d9838f4bb0fcc516d45ffeca8"
    | .policyInput _ => "3ce4ef8d4ec8b409ca4083eb8b51ba29075efef630f11e087a2d176f762708e9"
    | .authorization _ => "b5ff5b53411733bec8e8d722c5a7f24adb4085ea86b98ce8287bdee926208fa4"
    | .value _ => "0a5b35adfe39f04ecb860bd74d534eb3b9be941ade1dd025c59fb204a62b3d1f"
    | .evidenceRequest _ => "b031c2aabf71d646115ac95f00214d4d9f4b1830197fb0708c81bed7ae2347c4"
    | .outcome material =>
      match material.status with
      | .succeeded => "c14a6df7c95d3f70d87d1dbb9dccc966c7e601f0f9d68e0a0b171baa99dffdc8"
      | .failed => "2429c270947b2930348175832db7b6fce0a0ea6247b405b2328902b4887ad70f"
      | _ => "250ff3beab7ab1df579acc061fcddb04d29c7f43b93ce0c231e727048d0b8c47"
    | .ledgerEvent material =>
      if material.eventType = "EXECUTION_RESERVED" then
        "0ad7e16ca99a5cc091f5ff736fc6527ffc38626f7df39d057ca483b176829d9b"
      else if material.eventType = "EXECUTION_Succeeded" then
        "fab6c469d20eb363ad1c2f7d5370e822e1956700d7107d60aaf5edac497c3698"
      else if material.eventType = "EXECUTION_Failed" then
        "6dda3f0615ecc474a28cd5b5deac9e68e4a23b637fe9d5ba8c935af4232642b2"
      else
        "7cf713b5d9dd79e32ff8d2a28fd9779a3551c63d1f19cadcc369901640f1ce57"
    | .approvalReceipt _ | .compensationPlan _ => sampleHash '0'

theorem sampleCodec_total : sampleCodec.Total := fun _ => rfl

def sampleCoordinator : ExecutionCoordinator where
  codec := sampleCodec
  validateSchemaInstance _ _ := .ok ()
  sourceService := "execution-service"

def sampleRequest : ExecutionRequest where
  schemaVersion := executionRequestSchema
  tenantId := (sampleUuid 1).toStr
  taskId := (sampleUuid 2).toStr
  actionId := (sampleUuid 4).toStr
  ingressDigest := sampleHash '1'
  idempotencyKey := "task:1"
  actionMaterialization :=
    { schemaVersion := "agenttrust.action-materialization-ref.v1"
      tenantId := (sampleUuid 1).toStr, actionId := (sampleUuid 4).toStr
      payloadHash := sampleHash '1', store := "ORCHESTRATOR_INGRESS_POSTGRESQL"
      uri := "orchestrator-ingress://" ++ (sampleUuid 1).toStr ++ "/" ++ (sampleUuid 4).toStr }

def sampleAction : CanonicalAction where
  schemaVersion := "agenttrust.action.v1"
  actionId := (sampleUuid 4).toStr
  taskId := (sampleUuid 2).toStr
  stepId := (sampleUuid 3).toStr
  agent :=
    { schemaVersion := "agenttrust.contracts.v1", agentType := "coding"
      agentInstanceId := (sampleUuid 5).toStr, organizationId := "org-1"
      tenantId := (sampleUuid 1).toStr, ownerSubject := "user:1", modelProvider := "approved"
      modelId := "model-v1", agentVersion := "1.0.0", deploymentEnvironment := "staging"
      trustLevel := "verified", authContextRef := "auth:1", issuedAt := 0, expiresAt := 100 }
  intent :=
    { goalHash := sampleHash '2', operation := "run", justificationCode := "user_request"
      safeSummary := none }
  tool := { toolId := "coding.run-tests", toolVersion := "1.0.0" }
  payload :=
    { typeId := "coding.command.v1", schemaVersion := "1", data := [("suite", .string "unit")] }
  resource :=
    { scheme := "repo", tenantId := (sampleUuid 1).toStr, locator := "org/repository"
      version := none }
  environment :=
    { tenantId := (sampleUuid 1).toStr, deployment := "staging", region := "cn-north-1"
      zone := none, simulation := false }
  currentStateVersion := some "v1"
  risk :=
    { declaredRisk := .low, trajectoryRiskRef := none, scopeDelta := 0, automationAllowed := true }
  data := { classification := .internal, jurisdiction := "CN", exportConstraints := [] }
  expectedOutcome := { metric := "failures", operator := "eq", target := .number ⟨"0"⟩ }
  credentialRefs := []
  requestedAt := 0
  extensions := []

def sampleMaterialized : MaterializedAction where
  action := sampleAction
  actionHash := sampleActionHash
  ownerSubject := "user:1"
  traceId := "trace-1"

def sampleTool : ResolvedToolSnapshot where
  schemaVersion := "agenttrust.registry.v1"
  toolId := "coding.run-tests"
  toolVersion := "1.0.0"
  schemaHash := sampleHash '3'
  manifestHash := sampleHash '4'
  effectClass := .idempotent
  riskLevel := .low
  executorProfile := "sandbox"
  credentialProfile := "repo"
  approvalProfile := "none"
  compensation := none
  limits := { timeoutMs := 1000, maxResultBytes := 4096 }
  networkProfileRef := "isolated"
  filesystemProfileRef := "workspace"
  implementation :=
    { kind := .ociContainer, digest := sampleHash '5', executorId := "executor-1" }
  registryRevision := 1
  resolvedAt := 1
  snapshotHash := sampleHash '6'
  inputSchema := .object [("type", .string "object")]
  outputSchema := .object [("type", .string "object")]

def sampleFacts : AuthoritativeFactSnapshot where
  schemaVersion := "agenttrust.authoritative-fact-snapshot.v1"
  tenantId := (sampleUuid 1).toStr
  actionHash := sampleActionHash
  identitySubject := some "user:1"
  identityUsesDevVerifier := some false
  identityRevocationEpoch := some 0
  resourceStateVersion := some "v1"
  resourceStateFresh := some true
  budgetRemainingMicrounits := some 1000
  trajectoryRiskVersion := some "1"
  accumulatedResources := some []
  anomalyScoreMillionths := some 0
  factRefs :=
    [.identity, .resourceState, .budget, .trajectoryRisk, .registry, .environment].map fun kind =>
      { kind, status := .verified, uri := "fact://authority", digest := sampleHash '7'
        version := "1", observedAt := 2, validUntil := 100 }
  capturedAt := 2
  expiresAt := 100
  snapshotDigest := "1b7d1f41c7ad7769dda47c21e2d142cc9afac52d9838f4bb0fcc516d45ffeca8"

def samplePreapproval : PreApprovalOutcome where
  schemaVersion := "agenttrust.pre-approval-envelope.v1"
  signedOutcome :=
    { schemaVersion := "agenttrust.pre-approval-outcome.v1", tenantId := (sampleUuid 1).toStr
      taskId := (sampleUuid 2).toStr, stepId := (sampleUuid 3).toStr
      actionHash := sampleActionHash, toolId := "coding.run-tests", toolVersion := "1.0.0"
      toolSnapshotHash := sampleHash '6', stage := .preApproval, idempotencyKey := "task:1"
      requestDigest := "fa1e1762fbd11a6641f5eafbfa5126f11d27f4aa0de6670dfba73ef322308596"
      factSnapshot := sampleFacts, factSnapshotDigest := sampleFacts.snapshotDigest
      executionPlanDigest := none, approvalRequired := false
      decision :=
        { schemaVersion := policySchemaVersion, decisionId := "decision-1", decision := .allow
          reasonCodes := [], policyVersion := "1", policyBundleHash := sampleHash '8'
          inputHash := "3ce4ef8d4ec8b409ca4083eb8b51ba29075efef630f11e087a2d176f762708e9"
          evaluatedAt := 2, expiresAt := 100, obligations := [], riskSummary := .low }
      issuedAt := 2, expiresAt := 100, issuer := "pep", keyId := "pep-1"
      keyUsage := "PEP_PRE_APPROVAL", signature := "c2ln" }
  compensationPlan := none

def sampleExecution : ExecutionIntent where
  schemaVersion := ledgerSchemaVersion
  tenantId := (sampleUuid 1).toStr
  taskId := (sampleUuid 2).toStr
  stepId := (sampleUuid 3).toStr
  actionHash := sampleActionHash
  idempotencyKey := "task:1"
  tool := { toolId := "coding.run-tests", toolVersion := "1.0.0" }
  effectClass := .idempotent
  resourceVersion := some "v1"
  canonicalArgumentsHash := "959fe8a1c308b7312bdce063c32551198f463d9da6219525afe878bc46ddf61e"
  compensationPlan := none
  requestedAt := 0

def sampleReservedEvent : LedgerEventFact where
  eventId := (sampleUuid 10).toStr
  eventRef := "ledger-event:" ++ (sampleUuid 10).toStr
  eventDigest := "0ad7e16ca99a5cc091f5ff736fc6527ffc38626f7df39d057ca483b176829d9b"

def sampleAuthorized : PreExecutionAuthorization where
  schemaVersion := "agenttrust.pre-execution-authorization.v1"
  authorization :=
    { schemaVersion := "agenttrust.execution-authorization.v2"
      authorizationId := (sampleUuid 6).toStr, tenantId := (sampleUuid 1).toStr
      taskId := (sampleUuid 2).toStr, stepId := (sampleUuid 3).toStr
      agentInstanceId := (sampleUuid 5).toStr, actionHash := sampleActionHash
      toolId := "coding.run-tests", toolVersion := "1.0.0", toolSnapshotHash := sampleHash '6'
      implementationDigest := sampleHash '5', executorProfile := "sandbox", operation := "run"
      resource := "org/repository"
      canonicalArgumentsHash := "959fe8a1c308b7312bdce063c32551198f463d9da6219525afe878bc46ddf61e"
      targetProfile := "repository", environment := "staging", idempotencyKey := "task:1"
      ledgerExecutionId := (sampleUuid 10).toStr, ledgerEventId := (sampleUuid 10).toStr
      ledgerEventDigest := sampleReservedEvent.eventDigest
      fenceDigest := "9ade6f9a4e6d4d045f7717ed5628676543ffc30078169972a79b99696c916737"
      policyDecisionId := "decision-1", policyDecisionDigest := sampleHash '9'
      policyVersion := "1", policyBundleHash := sampleHash '8'
      policyInputHash := "3ce4ef8d4ec8b409ca4083eb8b51ba29075efef630f11e087a2d176f762708e9"
      authorizationEvidenceRef := "evidence://authorization"
      authorizationEvidenceDigest := sampleHash 'a'
      preapprovalDigest := "e3a70fa30721700fbcdb94456524c5dfa409a136470c3532e4db99ca6caeab2f"
      approvalIds := [], approvalConsumptionRef := none, approvalReceiptDigest := none
      resourceVersion := "v1", sandboxProfile := "sandbox", networkProfile := "isolated"
      credentialProfile := "repo", workloadCredentialId := (sampleUuid 7).toStr
      workloadCredentialClaimsDigest := sampleClaimsDigest
      workloadCredentialAudience := "tool-proxy", workloadCredentialRevocationEpoch := 0
      maxExecutionMs := 1000, maxResultBytes := 4096, issuedAt := 7, expiresAt := 90
      singleUse := true, issuer := "pep", keyId := "pep-2"
      keyUsage := "PEP_EXECUTION_AUTHORIZATION", signature := "c2ln" }
  tool := sampleTool
  workloadCredential := "workload-credential-1"
  credentialBindingReceipt :=
    { schemaVersion := "agenttrust.credential-binding-receipt.v1"
      credentialHandleSha256 := "f6531b93ac52b8015dfd85ec934ad387234a1740c76bb0335445f790cf426bfb"
      claims :=
        { schemaVersion := "agenttrust.workload-credential-claims.v1", idempotencyKey := "task:1"
          credentialId := (sampleUuid 7).toStr, tenantId := (sampleUuid 1).toStr
          agentInstanceId := (sampleUuid 5).toStr, taskId := (sampleUuid 2).toStr
          stepId := (sampleUuid 3).toStr, actionHash := sampleActionHash
          policyDecisionId := "decision-1", toolId := "coding.run-tests"
          credentialProfile := "repo", operation := "run", resource := "org/repository"
          targetProfile := "repository", audience := "tool-proxy", revocationEpoch := 0
          issuedAt := 7, expiresAt := 90, maxUses := 1 }
      claimsDigest := sampleClaimsDigest, issuer := "broker", keyId := "broker-1"
      keyUsage := "WORKLOAD_CREDENTIAL_BINDING", signature := "c2ln" }
  targetProfile := "repository"
  approval := none

def samplePolicyInput : PolicyInput where
  subject := sampleAction.agent
  intent := sampleAction.intent
  tool := sampleTool.policySnapshot
  arguments := sampleAction.payload.data
  resource := sampleAction.resource
  environment := sampleAction.environment
  currentStateVersion := some "v1"
  executionPlanHash := none
  dataClassification := .internal
  trajectoryRisk := { version := "1", accumulatedResources := [], anomalyScoreMillionths := 0 }
  registrySnapshotHash := sampleHash '6'
  runtime :=
    { identitySubject := "user:1", priorApprovals := [], budgetRemainingMicrounits := 1000 }

theorem validateRequest_sampleRequest : validateRequest sampleRequest = .ok () := by
  have hdigest := isDigest_sampleHash (c := '1') (by decide) (by decide)
  have hkey : "task:1".utf8ByteSize ≤ 128 ∧ isToken "task:1" = true := by decide
  rw [validateRequest, if_neg]
  simp [sampleRequest, isUuid_toStr, hdigest, hkey.1, hkey.2]

theorem requireVerified_sampleFacts : sampleFacts.requireVerified = true := by decide

theorem policyInputOf_sampleFacts :
    policyInputOf sampleMaterialized.action sampleTool sampleFacts [] = .ok samplePolicyInput := rfl

theorem validatePreapproval_samplePreapproval :
    validatePreapproval sampleCodec samplePreapproval
      (preapprovalRequestFor sampleRequest sampleMaterialized sampleTool 1) sampleMaterialized
      sampleTool 3 = .ok () := by
  have hbundle := isDigest_sampleHash (c := '8') (by decide) (by decide)
  have hfacts : samplePreapproval.signedOutcome.factSnapshot = sampleFacts := rfl
  simp only [validatePreapproval, hfacts, policyInputOf_sampleFacts, requireVerified_sampleFacts]
  simp [samplePreapproval, preapprovalRequestFor, sampleCodec, Codec.digest, sampleMaterialized,
    sampleAction, sampleTool, sampleRequest, sampleFacts, hbundle, approvalRequiredBy,
    CanonicalAction.resourceVersion, bind, Except.bind, pure, Except.pure]

theorem intentFor_sampleRequest :
    intentFor sampleCodec sampleRequest sampleMaterialized sampleTool none =
      .ok sampleExecution := by
  simp [intentFor, sampleRequest, isUuid_toStr, sampleMaterialized, sampleAction, sampleTool,
    sampleExecution, sampleCodec, Codec.digest, bind, Except.bind, pure, Except.pure]

theorem validateIntent_sampleExecution : validateIntent sampleExecution = .ok () := by
  have hkey : "task:1".utf8ByteSize ≤ 128 := by decide
  simp [validateIntent, sampleExecution, hkey, Uuid.parseStr_toStr]

theorem factsCurrent_samplePreapproval :
    sampleCoordinator.factsCurrent samplePreapproval.signedOutcome 5 = true := by
  have hhash : isDigest sampleActionHash = true := by decide
  have hsnapshot : isDigest sampleFacts.snapshotDigest = true := by decide
  have hfacts : samplePreapproval.signedOutcome.factSnapshot = sampleFacts := rfl
  have hrefs : sampleFacts.factRefsOk = true := by
    have hdigest := isDigest_sampleHash (c := '7') (by decide) (by decide)
    have hsizes : "fact://authority".utf8ByteSize ≤ 2048 ∧ "1".utf8ByteSize ≤ 256 := by decide
    simp [AuthoritativeFactSnapshot.factRefsOk, sampleFacts, hdigest, hsizes.1, hsizes.2]
  have huuid : (Uuid.parseStr sampleFacts.tenantId).isSome = true := isUuid_toStr _
  have hbounded : boundedNonempty "user:1" 512 = true ∧ boundedNonempty "v1" 256 = true ∧
      boundedNonempty "1" 256 = true := by decide
  simp only [ExecutionCoordinator.factsCurrent, hfacts, requireVerified_sampleFacts,
    AuthoritativeFactSnapshot.validateIntegrity, huuid, hsnapshot, hrefs]
  simp [samplePreapproval, sampleFacts, hhash, hbounded, snapshotDigest, sampleCoordinator,
    sampleCodec]

def samplePreparation : Preparation sampleCoordinator where
  request := sampleRequest
  materialized := sampleMaterialized
  tool := sampleTool
  requestedAt := 1
  preapproval := samplePreapproval
  decidedAt := 3
  intent := sampleExecution
  requestValid := validateRequest_sampleRequest
  schemaValid := rfl
  preapproved := validatePreapproval_samplePreapproval
  unapproved := rfl
  compensable := rfl
  intended := intentFor_sampleRequest

def sampleReservation : Reservation where
  executionId := sampleFence.executionId
  fence := sampleFence
  existing := false
  status := .prepared

theorem validateAuthorization_sampleAuthorized :
    validateAuthorization sampleCodec sampleAuthorized
      (ExecutionCoordinator.finalRequestFor
        { toPrepared := samplePreparation.prepared, reservation := sampleReservation
          fenceDigest := sampleAuthorized.authorization.fenceDigest }
        samplePolicyInput sampleReservedEvent 6) sampleMaterialized sampleTool = .ok () := by
  have hclaims : isDigest sampleClaimsDigest = true := by decide
  have hcredential : credentialOk sampleCodec sampleAuthorized = true := by
    simp [credentialOk, sampleAuthorized, hclaims, sampleCodec]
  simp only [validateAuthorization, hcredential]
  simp [sampleAuthorized, ExecutionCoordinator.finalRequestFor, sampleCodec, Codec.digest,
    samplePreparation, Preparation.prepared, sampleMaterialized, sampleAction, sampleTool,
    sampleReservedEvent, sampleReservation, sampleFence, sampleRequest, samplePreapproval,
    CanonicalAction.resourceVersion, bind, Except.bind, pure, Except.pure]

def sampleClearance : Clearance sampleCoordinator where
  toPreparation := samplePreparation
  reservation := sampleReservation
  fenceDigest := sampleAuthorized.authorization.fenceDigest
  policyInput := samplePolicyInput
  checkedAt := 5
  ledgerEvent := sampleReservedEvent
  authorizedAt := 6
  authorized := sampleAuthorized
  authorizationDigest := "b5ff5b53411733bec8e8d722c5a7f24adb4085ea86b98ce8287bdee926208fa4"
  first := rfl
  fenced := rfl
  current := factsCurrent_samplePreapproval
  input := policyInputOf_sampleFacts
  accepted := validateAuthorization_sampleAuthorized
  digested := rfl

-- The sample execution on an empty ledger

def samplePrepared : ExecutionRecord :=
  InMemoryExecutionLedger.default.preparedRecord (sampleAmbient 10 4) sampleExecution

def sampleRunning : ExecutionRecord :=
  { samplePrepared with status := .running, attempt := 1, updatedAt := 8 }

def sampleReservedLedger : InMemoryExecutionLedger :=
  InMemoryExecutionLedger.default.insertPrepared (sampleAmbient 10 4) sampleExecution

def sampleRunningLedger : InMemoryExecutionLedger :=
  sampleReservedLedger.put sampleFence.executionId sampleRunning
    (InMemoryExecutionLedger.transitionEvent (sampleAmbient 11 8) sampleFence.executionId .running)

structure SampleLedger (ledger : InMemoryExecutionLedger) (record : ExecutionRecord)
    (event : OutboxEvent) : Prop where
  byExecution : ledger.byExecution =
    InMemoryExecutionLedger.default.byExecution.insert sampleFence.executionId record
  byIdempotency : ledger.byIdempotency[sampleExecution.key]? = some sampleFence.executionId
  latest : ledger.latestEvent sampleFence.executionId = some event
  intent : record.intent = sampleExecution
  fenceToken : record.fenceToken = sampleFence.token

namespace SampleLedger

variable {ledger : InMemoryExecutionLedger} {record : ExecutionRecord} {event : OutboxEvent}

theorem found (h : SampleLedger ledger record event) :
    ledger.byExecution[sampleFence.executionId]? = some record := by
  rw [h.byExecution, BTreeMap.getElem?_insert_ite, if_pos rfl]

theorem fresh (h : SampleLedger ledger record event) {d : Fin 16} (hd : d ≠ 10) (now : DateTime) :
    (sampleAmbient d now).Fresh ledger := by
  have hne : sampleFence.executionId ≠ (sampleAmbient d now).executionUuid.toStr :=
    sampleUuid_toStr_ne hd.symm
  rw [Ambient.Fresh, h.byExecution, BTreeMap.getElem?_insert_ite, if_neg hne]
  simp [InMemoryExecutionLedger.default]

theorem serve_get (h : SampleLedger ledger record event) (digest : EventDigest) :
    serve digest ledger (.ledger (.get sampleRequest.tenantId sampleFence.executionId))
      (.ok record) ledger := by
  refine ⟨sampleAmbient 15 0, h.fresh (by decide) 0, ?_⟩
  have htenant : record.intent.tenantId = sampleRequest.tenantId := by rw [h.intent]; rfl
  simp [InMemoryExecutionLedger.perform, InMemoryExecutionLedger.get, h.found, htenant]

theorem serve_fact (h : SampleLedger ledger record event) (digest : EventDigest) (eventUuid : Uuid)
    {eventDigest : String} (huuid : event.eventId = eventUuid.toStr)
    (hdigest : digest
      { schemaVersion := "agenttrust.ledger-event-fact.v1", tenantId := record.intent.tenantId
        eventId := event.eventId, executionId := event.executionId, eventType := event.eventType
        payload := event.payload, createdAt := event.createdAt } = some eventDigest) :
    serve digest ledger
      (.ledger (.statusEventFact record.intent.tenantId sampleFence.executionId))
      (.ok { eventId := event.eventId, eventRef := "ledger-event:" ++ event.eventId, eventDigest })
      ledger := by
  refine ⟨sampleAmbient 15 0, h.fresh (by decide) 0, ?_⟩
  rw [InMemoryExecutionLedger.perform,
    InMemoryExecutionLedger.statusEventFact_of_latest h.found h.latest huuid hdigest]

theorem transition (h : SampleLedger ledger record event) (ambient : Ambient)
    {allowed : List ExecutionStatus} {next : ExecutionStatus}
    {update : ExecutionRecord → ExecutionRecord} (hstatus : record.status ∈ allowed) :
    ledger.transition ambient sampleFence allowed next update =
      (.ok (), ledger.put sampleFence.executionId
        (update { record with status := next, updatedAt := ambient.now })
        (InMemoryExecutionLedger.transitionEvent ambient sampleFence.executionId next)) := by
  refine InMemoryExecutionLedger.transition_of_fence h.found ?_ h.fenceToken hstatus
  rw [h.intent]
  rfl

theorem put (h : SampleLedger ledger record event) {record' : ExecutionRecord}
    (hintent : record'.intent = sampleExecution) (htoken : record'.fenceToken = sampleFence.token)
    {event' : OutboxEvent} (hevent : event'.executionId = sampleFence.executionId) :
    SampleLedger (ledger.put sampleFence.executionId record' event') record' event' where
  byExecution := by
    ext executionId
    simp only [InMemoryExecutionLedger.put_byExecution, h.byExecution,
      BTreeMap.getElem?_insert_ite]
    split_ifs <;> rfl
  byIdempotency := h.byIdempotency
  latest := by
    simp [InMemoryExecutionLedger.latestEvent, InMemoryExecutionLedger.put, hevent]
  intent := hintent
  fenceToken := htoken

theorem serve_reserve (h : SampleLedger ledger record event) (digest : EventDigest) :
    serve digest ledger (.ledger (.reserve sampleExecution))
      (.ok (InMemoryExecutionLedger.reservationOf sampleFence.executionId record true))
      ledger := by
  refine ⟨sampleAmbient 15 0, h.fresh (by decide) 0, ?_⟩
  simp only [InMemoryExecutionLedger.perform, InMemoryExecutionLedger.reserve,
    validateIntent_sampleExecution, h.byIdempotency, h.found, h.intent, ne_eq, not_true_eq_false,
    if_false]

end SampleLedger

theorem sampleReservedLedger_holds : SampleLedger sampleReservedLedger samplePrepared
    { eventId := (sampleUuid 10).toStr, executionId := sampleFence.executionId
      eventType := "EXECUTION_RESERVED", payload := .null, createdAt := 4
      publishedAt := none } where
  byExecution := rfl
  byIdempotency := by
    simp [sampleReservedLedger, sampleFence, sampleAmbient]
  latest := by
    simp [InMemoryExecutionLedger.latestEvent, sampleReservedLedger,
      InMemoryExecutionLedger.insertPrepared, InMemoryExecutionLedger.default, sampleFence,
      sampleAmbient]
  intent := rfl
  fenceToken := rfl

theorem sampleRunningLedger_holds : SampleLedger sampleRunningLedger sampleRunning
    (InMemoryExecutionLedger.transitionEvent (sampleAmbient 11 8) sampleFence.executionId
      .running) :=
  sampleReservedLedger_holds.put rfl rfl rfl

theorem serve_reserve_sample :
    serve sampleCodec.eventDigest .default (.ledger (.reserve sampleExecution))
      (.ok sampleReservation) sampleReservedLedger := by
  refine ⟨sampleAmbient 10 4, by simp [Ambient.Fresh, InMemoryExecutionLedger.default], ?_⟩
  have habsent : InMemoryExecutionLedger.default.byIdempotency[sampleExecution.key]? = none := by
    simp [InMemoryExecutionLedger.default]
  simp only [InMemoryExecutionLedger.perform, InMemoryExecutionLedger.reserve,
    validateIntent_sampleExecution, habsent]
  rfl

theorem serve_start_sample :
    serve sampleCodec.eventDigest sampleReservedLedger
      (.ledger (.markStarted sampleReservation.fence none)) (.ok ()) sampleRunningLedger := by
  refine ⟨sampleAmbient 11 8, sampleReservedLedger_holds.fresh (by decide) 8, ?_⟩
  show sampleReservedLedger.markStarted (sampleAmbient 11 8) sampleFence none = _
  rw [InMemoryExecutionLedger.markStarted, sampleReservedLedger_holds.transition _ (by decide)]
  rfl

theorem serves_sampleClearance :
    (system sampleCoordinator).Serves .default
      (sampleClearance.entries ++ sampleClearance.starting) sampleRunningLedger := by
  have hreserve := serve_reserve_sample
  have hfact := sampleReservedLedger_holds.serve_fact sampleCodec.eventDigest (sampleUuid 10)
    rfl rfl
  have hstart := serve_start_sample
  exact .cons rfl <| .cons rfl <| .cons rfl <| .cons rfl <| .cons rfl <| .cons rfl <|
    .cons rfl <| .cons hreserve <| .cons rfl <| .cons hfact <| .cons rfl <| .cons rfl <|
    .cons rfl <| .cons hstart <| .cons rfl <| .nil _

end AgentSphere.Execution
