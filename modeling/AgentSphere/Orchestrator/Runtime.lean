import AgentSphere.Contracts.Basic

/-!
# Authoritative transitions of a task

The pure part of the orchestrator: which requests are well formed, which commands a status
admits, and how an accepted command changes the state of a task. Facts about the outside world
arrive as `ResolvedTransitionFacts`; hashes are the hexadecimal SHA-256 functions of a `Hasher`.
-/

namespace AgentSphere.Orchestrator

def transitionRequestSchemaVersion : String := "agenttrust.transition-request.v1"
def runtimeStateSchemaVersion : String := "agenttrust.orchestrator-state.v1"
def runtimeCommandSchemaVersion : String := "agenttrust.orchestrator-command.v1"
def contractSchemaVersion : String := "agenttrust.contracts.v1"
def maxRuntimeEvents : Nat := 1024
def maxRoutineCommands : Nat := 10000
def maxProcessedCommands : Nat := 10257

inductive TaskStatus where
  | created
  | planned
  | policyChecked
  | approvalPending
  | approved
  | running
  | pauseRequested
  | paused
  | cancelRequested
  | cancelling
  | killRequested
  | killed
  | verifying
  | completed
  | denied
  | failed
  | evaluationFailed
  | compensating
  | rolledBack
  | needsHuman
  | manualRecoveryRequired
  deriving DecidableEq, Repr

inductive EvaluationStatus where
  | pass
  | fail
  | needsHuman
  | rolledBack
  | manualRecoveryRequired
  deriving DecidableEq, Repr

structure EvaluationResult where
  schemaVersion : SchemaVersion
  status : EvaluationStatus
  scoreMillionths : Nat
  hardGateResults : BTreeMap String Bool
  findings : List String
  evidenceRefs : List ArtifactRef
  evaluatorId : String
  evaluatorVersion : String
  evaluatedAt : DateTime

/-- `StateTransitionGuard::allows`. -/
def stateTransitionGuardAllows (source target : TaskStatus) (evaluation : Option EvaluationResult)
    (hasSideEffects compensationVerified : Bool) : Bool :=
  match source, target with
  | .created, .planned | .planned, .policyChecked | .policyChecked, .approvalPending
  | .policyChecked, .approved | .approvalPending, .approved | .approved, .running
  | .running, .verifying | .running, .pauseRequested | .pauseRequested, .paused
  | .paused, .running | .running, .cancelRequested | .cancelRequested, .cancelling
  | .running, .killRequested | .paused, .killRequested | .killRequested, .killed
  | _, .denied | _, .needsHuman | _, .manualRecoveryRequired => true
  | .verifying, .completed =>
    evaluation.any fun e => e.status == .pass && e.hardGateResults.values.all (·)
  | .running, .failed => !hasSideEffects
  | .running, .compensating | .failed, .compensating => hasSideEffects
  | .compensating, .rolledBack => compensationVerified
  | _, _ => false

inductive RuntimeCommandType where
  | start
  | pause
  | resume
  | cancel
  | kill
  | checkpoint
  | verify
  | complete
  | needsHuman
  deriving DecidableEq, Repr

structure RuntimeWorkflowCommand where
  schemaVersion : String
  commandId : String
  requestIdempotencyKey : String
  tenantId : String
  taskId : String
  commandType : RuntimeCommandType
  expectedStateVersion : Nat
  payloadDigest : String
  requestedBy : String
  requestedAt : DateTime
  deriving DecidableEq, Repr

structure RuntimeTransitionEvent where
  schemaVersion : String
  eventId : String
  commandId : String
  source : TaskStatus
  target : TaskStatus
  recoveryCursor : Nat
  evidenceDigest : String
  occurredAt : DateTime
  deriving DecidableEq, Repr

structure RuntimeExecutionRecord where
  ledgerExecutionId : String
  fenceDigest : String
  outcomeDigest : String
  status : ExecutionStatus
  evidenceRefs : BTreeSet String

structure ActionMaterializationRef where
  schemaVersion : String
  tenantId : String
  actionId : String
  payloadHash : String
  store : String
  uri : String
  deriving DecidableEq, Repr

structure RuntimeWorkflowState where
  schemaVersion : String
  tenantId : String
  taskId : String
  actionId : String
  status : TaskStatus
  recoveryCursor : Nat
  terminal : Bool
  evidenceRefs : BTreeSet String
  ingressDigest : String
  actionMaterialization : ActionMaterializationRef
  hasSideEffects : Bool
  execution : Option RuntimeExecutionRecord
  processedCommands : BTreeSet String
  processedCommandFingerprints : BTreeMap String String
  processedIdempotencyKeys : BTreeMap String String
  events : List RuntimeTransitionEvent

structure RuntimeTransitionRequest where
  schemaVersion : String
  current : RuntimeWorkflowState
  command : RuntimeWorkflowCommand

structure ResolvedTransitionFacts where
  evidenceRefs : BTreeSet String
  ledgerStatus : Option ExecutionStatus
  evaluation : Option EvaluationResult
  compensationVerified : Bool
  credentialRevoked : Bool
  supervisorAcknowledged : Bool
  execution : Option RuntimeExecutionRecord

inductive FactResolutionError where
  | configuration
  | unavailable
  | denied
  | responseInvalid
  deriving DecidableEq, Repr

inductive RuntimeTransitionError where
  | requestInvalid
  | factsInvalid
  | concurrentCommand
  | idempotencyConflict
  | terminalTask
  | transitionDenied
  | authorizationInvalid
  | containmentIncomplete
  | completionEvidenceMissing
  | capacityExceeded
  | factResolution (error : FactResolutionError)
  deriving DecidableEq, Repr

structure Hasher where
  text : String → String
  object : List (String × String) → String

-- Requests

def commandTypeName : RuntimeCommandType → String
  | .start => "START"
  | .pause => "PAUSE"
  | .resume => "RESUME"
  | .cancel => "CANCEL"
  | .kill => "KILL"
  | .checkpoint => "CHECKPOINT"
  | .verify => "VERIFY"
  | .complete => "COMPLETE"
  | .needsHuman => "NEEDS_HUMAN"

def runtimeCommandPayloadDigest (hash : Hasher) (commandType : RuntimeCommandType) : String :=
  hash.text ("\x7b\"command_type\":\"" ++ commandTypeName commandType ++ "\"\x7d")

def canonicalCommand (command : RuntimeWorkflowCommand) : List (String × String) :=
  [("command_id", command.commandId),
    ("command_type", commandTypeName command.commandType),
    ("expected_state_version", toString command.expectedStateVersion),
    ("payload_digest", command.payloadDigest),
    ("request_idempotency_key", command.requestIdempotencyKey),
    ("requested_by", command.requestedBy),
    ("schema_version", command.schemaVersion),
    ("task_id", command.taskId),
    ("tenant_id", command.tenantId)]

def runtimeCommandFingerprint (hash : Hasher) (command : RuntimeWorkflowCommand) : String :=
  hash.object (canonicalCommand command)

def fiveMinutes : Int := 300000000000

/-- What `validate_request` asks of an execution record. -/
def executionRecordOk (execution : RuntimeExecutionRecord) : Bool :=
  !execution.ledgerExecutionId.isEmpty && execution.ledgerExecutionId.utf8ByteSize ≤ 256 &&
    isToken execution.ledgerExecutionId && isDigest execution.fenceDigest &&
    isDigest execution.outcomeDigest && !execution.evidenceRefs.isEmpty &&
    execution.evidenceRefs.toList.all (!·.isEmpty)

/-- The checks of `validate_request` that read only the state. -/
def stateOk (state : RuntimeWorkflowState) : Bool :=
  state.schemaVersion = runtimeStateSchemaVersion &&
    !state.tenantId.isEmpty && !state.taskId.isEmpty && !state.actionId.isEmpty &&
    isDigest state.ingressDigest &&
    state.actionMaterialization.schemaVersion = "agenttrust.action-materialization-ref.v1" &&
    state.actionMaterialization.tenantId = state.tenantId &&
    state.actionMaterialization.actionId = state.actionId &&
    isDigest state.actionMaterialization.payloadHash &&
    state.actionMaterialization.store = "ORCHESTRATOR_INGRESS_POSTGRESQL" &&
    state.actionMaterialization.uri =
      "orchestrator-ingress://" ++ state.tenantId ++ "/" ++ state.actionId &&
    state.events.length ≤ maxRuntimeEvents &&
    state.processedCommands.size ≤ maxProcessedCommands &&
    state.processedCommandFingerprints.size ≤ maxProcessedCommands &&
    state.processedIdempotencyKeys.size ≤ maxProcessedCommands &&
    state.processedCommands.size = state.processedCommandFingerprints.size &&
    state.execution.all executionRecordOk &&
    state.processedCommands.toList.all (state.processedCommandFingerprints.contains ·)

/-- The checks of `validate_request` that read only the command and the clock. -/
def commandOk (hash : Hasher) (now : DateTime) (command : RuntimeWorkflowCommand) : Bool :=
  command.schemaVersion = runtimeCommandSchemaVersion &&
    !command.commandId.isEmpty && command.commandId.utf8ByteSize ≤ 256 &&
    !command.requestIdempotencyKey.isEmpty && command.requestIdempotencyKey.utf8ByteSize ≤ 256 &&
    isToken command.commandId && isToken command.requestIdempotencyKey &&
    !command.requestedBy.isEmpty && command.requestedBy.utf8ByteSize ≤ 512 &&
    isDigest command.payloadDigest &&
    command.payloadDigest = runtimeCommandPayloadDigest hash command.commandType &&
    command.requestedAt ≤ now + fiveMinutes

/-- `validate_request`. Every failed check gives the same error, so their order does not show. -/
def validateRequest (hash : Hasher) (now : DateTime) (request : RuntimeTransitionRequest) :
    Except RuntimeTransitionError Unit :=
  if request.schemaVersion = transitionRequestSchemaVersion ∧ stateOk request.current ∧
      commandOk hash now request.command ∧ request.current.tenantId = request.command.tenantId ∧
      request.current.taskId = request.command.taskId then
    .ok ()
  else
    .error .requestInvalid

-- Transitions

/-- `transition_path`: the statuses a command passes through, the last one being its result. -/
def transitionPath (source : TaskStatus) (command : RuntimeCommandType) :
    Except RuntimeTransitionError (List TaskStatus) :=
  match source, command with
  | .created, .start => .ok [.planned, .policyChecked, .approved, .running]
  | .paused, .resume => .ok [.running]
  | .running, .pause => .ok [.pauseRequested, .paused]
  | .running, .cancel => .ok [.cancelRequested, .cancelling]
  | .running, .kill | .paused, .kill => .ok [.killRequested, .killed]
  | .running, .verify => .ok [.verifying]
  | .verifying, .complete => .ok [.completed]
  | .running, .needsHuman | .verifying, .needsHuman => .ok [.needsHuman]
  | .running, .checkpoint | .paused, .checkpoint => .ok []
  | _, _ => .error .transitionDenied

def lifecycleControl : RuntimeCommandType → Bool
  | .pause | .resume | .cancel | .verify | .complete | .needsHuman => true
  | _ => false

def preflightTransition (current : RuntimeWorkflowState) (command : RuntimeWorkflowCommand) :
    Except RuntimeTransitionError Unit :=
  match transitionPath current.status command.commandType with
  | .error e => .error e
  | .ok _ =>
    let processed := current.processedCommands.size
    if (command.commandType ≠ .kill ∧ processed ≥ maxProcessedCommands - 1) ∨
        (lifecycleControl command.commandType = false ∧ command.commandType ≠ .kill ∧
          processed ≥ maxRoutineCommands) ∨
        current.processedCommands.size ≥ maxProcessedCommands ∨
        current.processedCommandFingerprints.size ≥ maxProcessedCommands ∨
        current.processedIdempotencyKeys.size ≥ maxProcessedCommands then
      .error .capacityExceeded
    else
      .ok ()

def ResolvedTransitionFacts.validate (facts : ResolvedTransitionFacts) :
    Except RuntimeTransitionError Unit :=
  if facts.evidenceRefs.isEmpty ∨
      facts.evidenceRefs.toList.any (fun reference =>
        reference.isEmpty || reference.utf8ByteSize > 2048) then
    .error .factsInvalid
  else
    .ok ()

def walk (facts : ResolvedTransitionFacts) (hasSideEffects : Bool) :
    TaskStatus → List TaskStatus → Except RuntimeTransitionError TaskStatus
  | previous, [] => .ok previous
  | previous, next :: path =>
    let evaluation := if next = .completed then facts.evaluation else none
    if stateTransitionGuardAllows previous next evaluation hasSideEffects
        facts.compensationVerified then
      walk facts hasSideEffects next path
    else
      .error .transitionDenied

def checkFacts (commandType : RuntimeCommandType) (hasSideEffects : Bool)
    (facts : ResolvedTransitionFacts) : Except RuntimeTransitionError Unit := do
  if (commandType = .start ∨ commandType = .resume) ∧ facts.credentialRevoked then
    throw .authorizationInvalid
  if commandType = .kill ∧ (¬ facts.credentialRevoked ∨ ¬ facts.supervisorAcknowledged) then
    throw .containmentIncomplete
  if commandType = .complete then
    match facts.evaluation with
    | none => throw .completionEvidenceMissing
    | some evaluation =>
      if evaluation.status ≠ .pass ∨ evaluation.hardGateResults.isEmpty ∨
          ¬ evaluation.hardGateResults.values.all (·) ∨
          (hasSideEffects ∧ facts.ledgerStatus ≠ some .succeeded) then
        throw .completionEvidenceMissing
  if commandType = .needsHuman ∧
      ¬ (facts.ledgerStatus = some .failed ∨ facts.ledgerStatus = some .timedOut ∨
        facts.ledgerStatus = some .cancelled ∨ facts.ledgerStatus = some .compensated ∨
        facts.ledgerStatus = some .compensationFailed ∨ facts.ledgerStatus = some .unknown) then
    throw .transitionDenied

def isTerminal : TaskStatus → Bool
  | .completed | .killed | .failed | .rolledBack | .denied => true
  | _ => false

def digestEvidence (hash : Hasher) (values : BTreeSet String) : String :=
  hash.text (values.toList.foldl (fun text value => text ++ value ++ "\n") "")

def extend (values more : BTreeSet String) : BTreeSet String :=
  more.toList.foldl (·.insert ·) values

def trimEvents (events : List RuntimeTransitionEvent) : List RuntimeTransitionEvent :=
  if events.length ≥ maxRuntimeEvents then events.tail else events

/-- The state after an accepted command that ends in `target`. -/
def acceptCommand (hash : Hasher) (current : RuntimeWorkflowState)
    (command : RuntimeWorkflowCommand) (facts : ResolvedTransitionFacts) (target : TaskStatus)
    (eventId : Uuid) (now : DateTime) : RuntimeWorkflowState :=
  let evidenceRefs := extend current.evidenceRefs facts.evidenceRefs
  let recoveryCursor := min (current.recoveryCursor + 1) (2 ^ 64 - 1)
  let fingerprint := runtimeCommandFingerprint hash command
  { current with
    status := target
    execution := facts.execution.or current.execution
    evidenceRefs
    recoveryCursor
    processedCommands := current.processedCommands.insert command.commandId
    processedCommandFingerprints :=
      current.processedCommandFingerprints.insert command.commandId fingerprint
    processedIdempotencyKeys :=
      current.processedIdempotencyKeys.insert command.requestIdempotencyKey fingerprint
    terminal := isTerminal target
    events := trimEvents current.events ++
      [{ schemaVersion := runtimeStateSchemaVersion, eventId := eventId.toStr
         commandId := command.commandId, source := current.status, target, recoveryCursor
         evidenceDigest := digestEvidence hash evidenceRefs, occurredAt := now }] }

/-- `apply_resolved_transition`, given the identifier and the time of the event. -/
def applyResolvedTransition (hash : Hasher) (current : RuntimeWorkflowState)
    (command : RuntimeWorkflowCommand) (facts : ResolvedTransitionFacts) (eventId : Uuid)
    (now : DateTime) : Except RuntimeTransitionError RuntimeWorkflowState := do
  facts.validate
  let path ← transitionPath current.status command.commandType
  let target ← walk facts current.hasSideEffects current.status path
  checkFacts command.commandType current.hasSideEffects facts
  return acceptCommand hash current command facts target eventId now

end AgentSphere.Orchestrator
