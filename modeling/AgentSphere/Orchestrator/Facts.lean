import AgentSphere.Orchestrator.Runtime
import AgentSphere.Lib.Program

/-!
# Facts and the transition engine

The engine asks authoritative services for facts before it accepts a command. Each service is a
port that may answer anything; every answer is checked against the state and the command before
it counts.
-/

namespace AgentSphere.Orchestrator

open Concurrency

def factSchemaVersion : String := "agenttrust.authoritative-fact.v1"

inductive FactKind where
  | policyCheckpoint
  | approval
  | credentialLease
  | executionLedger
  | evaluator
  | evidence
  | runtimeSupervisor
  deriving DecidableEq, Repr

/-- The name `{:?}` prints. -/
def FactKind.debug : FactKind → String
  | .policyCheckpoint => "PolicyCheckpoint"
  | .approval => "Approval"
  | .credentialLease => "CredentialLease"
  | .executionLedger => "ExecutionLedger"
  | .evaluator => "Evaluator"
  | .evidence => "Evidence"
  | .runtimeSupervisor => "RuntimeSupervisor"

inductive FactDecision where
  | verified
  | granted
  | active
  | revoked
  | pass
  | contained
  deriving DecidableEq, Repr

structure AuthoritativeFact where
  schemaVersion : String
  factKind : FactKind
  tenantId : String
  taskId : String
  actionId : String
  commandId : String
  recoveryCursor : Nat
  payloadDigest : String
  decision : FactDecision
  immutableDigest : String
  evidenceRefs : BTreeSet String
  validUntil : DateTime
  attributes : BTreeMap String String

/-- The calls of `ProductionFactResolver` to its ports. -/
inductive FactPort where
  | policyVerify
  | approvalVerify
  | credentialVerify
  | credentialRevoke
  | ledgerVerify
  | evaluatorVerify
  | evidenceVerify
  | supervisorContain
  deriving DecidableEq, Repr

inductive EngineCall where
  | utcNow
  | newUuid
  | port (port : FactPort) (state : RuntimeWorkflowState) (command : RuntimeWorkflowCommand)

abbrev EngineCall.Answer : EngineCall → Type
  | .utcNow => DateTime
  | .newUuid => Uuid
  | .port .. => Except FactResolutionError AuthoritativeFact

abbrev Resolver := Attempt FactResolutionError EngineCall EngineCall.Answer
abbrev Engine := Attempt RuntimeTransitionError EngineCall EngineCall.Answer

def utcNow {ε : Type} : Attempt ε EngineCall EngineCall.Answer DateTime :=
  ExceptT.lift (Program.call EngineCall.utcNow)

def newUuid {ε : Type} : Attempt ε EngineCall EngineCall.Answer Uuid :=
  ExceptT.lift (Program.call EngineCall.newUuid)

def ask (port : FactPort) (state : RuntimeWorkflowState) (command : RuntimeWorkflowCommand) :
    Resolver AuthoritativeFact :=
  ExceptT.mk (Program.call (EngineCall.port port state command))

section Rules

variable {M : Type} {mon : Monitor EngineCall EngineCall.Answer M} {m : M}

theorem ensures_utcNow {ε : Type} {Post : Except ε DateTime → M → Prop} :
    mon.Ensures Post utcNow.run m ↔
      mon.Allowed m .utcNow ∧
        ∀ now, mon.Possible m .utcNow now → Post (.ok now) (mon.next m .utcNow now) :=
  Iff.rfl

theorem ensures_newUuid {ε : Type} {Post : Except ε Uuid → M → Prop} :
    mon.Ensures Post newUuid.run m ↔
      mon.Allowed m .newUuid ∧
        ∀ u, mon.Possible m .newUuid u → Post (.ok u) (mon.next m .newUuid u) :=
  Iff.rfl

theorem ensures_ask {port : FactPort} {state : RuntimeWorkflowState}
    {command : RuntimeWorkflowCommand}
    {Post : Except FactResolutionError AuthoritativeFact → M → Prop} :
    mon.Ensures Post (ask port state command).run m ↔
      mon.Allowed m (.port port state command) ∧
        ∀ answer, mon.Possible m (.port port state command) answer →
          Post answer (mon.next m (.port port state command) answer) :=
  Iff.rfl

end Rules

def AuthoritativeFact.validate (fact : AuthoritativeFact) (state : RuntimeWorkflowState)
    (command : RuntimeWorkflowCommand) (kind : FactKind) (decisions : List FactDecision)
    (now : DateTime) : Except FactResolutionError Unit :=
  if fact.schemaVersion ≠ factSchemaVersion ∨ fact.factKind ≠ kind ∨
      fact.tenantId ≠ state.tenantId ∨ fact.taskId ≠ state.taskId ∨
      fact.actionId ≠ state.actionId ∨ fact.commandId ≠ command.commandId ∨
      fact.recoveryCursor ≠ state.recoveryCursor ∨ fact.payloadDigest ≠ command.payloadDigest ∨
      fact.decision ∉ decisions ∨ ¬ isDigest fact.immutableDigest ∨
      fact.evidenceRefs.isEmpty ∨ fact.evidenceRefs.toList.any (·.isEmpty) ∨
      fact.validUntil ≤ now then
    .error .denied
  else
    .ok ()

def AuthoritativeFact.appendEvidence (fact : AuthoritativeFact) (target : BTreeSet String) :
    BTreeSet String :=
  (extend target fact.evidenceRefs).insert
    ("fact:" ++ fact.factKind.debug ++ ":" ++ fact.immutableDigest)

def verified (port : FactPort) (state : RuntimeWorkflowState) (command : RuntimeWorkflowCommand)
    (kind : FactKind) (decision : FactDecision) : Resolver AuthoritativeFact := do
  let fact ← ask port state command
  let now ← utcNow
  Attempt.ofExcept (fact.validate state command kind [decision] now)
  return fact

def parseExecutionStatus (value : String) : Except FactResolutionError ExecutionStatus :=
  match value with
  | "PREPARED" => .ok .prepared
  | "RUNNING" => .ok .running
  | "SUCCEEDED" => .ok .succeeded
  | "FAILED" => .ok .failed
  | "TIMED_OUT" => .ok .timedOut
  | "CANCELLED" => .ok .cancelled
  | "KILLED" => .ok .killed
  | "COMPENSATING" => .ok .compensating
  | "COMPENSATED" => .ok .compensated
  | "COMPENSATION_FAILED" => .ok .compensationFailed
  | "UNKNOWN" => .ok .unknown
  | _ => .error .responseInvalid

/-- `str::parse::<u32>`: an optional plus sign and decimal digits. -/
def parseU32 (value : String) : Option Nat :=
  let digits := match value.toList with
    | '+' :: rest => rest
    | cs => cs
  if digits.isEmpty ∨ ¬ digits.all Char.isDigit then none
  else
    let n := digits.foldl (fun n c => 10 * n + (c.toNat - '0'.toNat)) 0
    if n < 2 ^ 32 then some n else none

def factAttribute (fact : AuthoritativeFact) (name : String) (check : String → Bool) :
    Except FactResolutionError String :=
  match fact.attributes[name]?.filter check with
  | some value => .ok value
  | none => .error .responseInvalid

def executionOf (ledger : AuthoritativeFact) :
    Except FactResolutionError RuntimeExecutionRecord := do
  let status ← parseExecutionStatus (← factAttribute ledger "execution_status" fun _ => true)
  let ledgerExecutionId ← factAttribute ledger "ledger_execution_id" fun value =>
    !value.isEmpty && value.utf8ByteSize ≤ 256 && isToken value
  let fenceDigest ← factAttribute ledger "fence_digest" isDigest
  let outcomeDigest ← factAttribute ledger "outcome_digest" isDigest
  return { ledgerExecutionId, fenceDigest, outcomeDigest, status
           evidenceRefs := ledger.evidenceRefs }

def passedEvaluation (evidenceRefs : BTreeSet String) (evaluatorId evaluatorVersion : String)
    (scoreMillionths : Nat) (now : DateTime) : EvaluationResult where
  schemaVersion := contractSchemaVersion
  status := .pass
  scoreMillionths := scoreMillionths
  hardGateResults := (∅ : BTreeMap String Bool).insert "authoritative-evidence" true
  findings := []
  evidenceRefs := evidenceRefs.toList
  evaluatorId := evaluatorId
  evaluatorVersion := evaluatorVersion
  evaluatedAt := now

def evaluationOf (evaluator : AuthoritativeFact) (evidenceRefs : BTreeSet String)
    (now : DateTime) : Except FactResolutionError EvaluationResult := do
  if evaluator.attributes["hard_gates_passed"]? ≠ some "true" then
    throw .denied
  match parseU32 (← factAttribute evaluator "score_millionths" fun _ => true) with
  | none => throw .responseInvalid
  | some score =>
    if score > 1000000 then
      throw .responseInvalid
    let evaluatorId ← factAttribute evaluator "evaluator_id" (!·.isEmpty)
    let evaluatorVersion ← factAttribute evaluator "evaluator_version" (!·.isEmpty)
    return passedEvaluation evidenceRefs evaluatorId evaluatorVersion score now

def resolveKill (state : RuntimeWorkflowState) (command : RuntimeWorkflowCommand) :
    Resolver ResolvedTransitionFacts := do
  let supervisor ← verified .supervisorContain state command .runtimeSupervisor .contained
  let credential ← verified .credentialRevoke state command .credentialLease .revoked
  return { evidenceRefs := credential.appendEvidence (supervisor.appendEvidence ∅)
           ledgerStatus := none, evaluation := none, compensationVerified := false
           credentialRevoked := true, supervisorAcknowledged := true, execution := none }

def resolvePolicy (state : RuntimeWorkflowState) (command : RuntimeWorkflowCommand)
    (evidenceRefs : BTreeSet String) : Resolver (BTreeSet String) := do
  match command.commandType with
  | .start | .resume | .checkpoint | .verify =>
    let policy ← verified .policyVerify state command .policyCheckpoint .verified
    let credential ← verified .credentialVerify state command .credentialLease .active
    return credential.appendEvidence (policy.appendEvidence evidenceRefs)
  | _ => return evidenceRefs

def resolveApproval (state : RuntimeWorkflowState) (command : RuntimeWorkflowCommand)
    (evidenceRefs : BTreeSet String) : Resolver (BTreeSet String) := do
  match command.commandType with
  | .start =>
    let approval ← verified .approvalVerify state command .approval .granted
    return approval.appendEvidence evidenceRefs
  | _ => return evidenceRefs

def resolveLedger (state : RuntimeWorkflowState) (command : RuntimeWorkflowCommand)
    (evidenceRefs : BTreeSet String) :
    Resolver (BTreeSet String × Option RuntimeExecutionRecord) := do
  match command.commandType with
  | .cancel | .kill | .verify | .complete | .needsHuman =>
    let ledger ← verified .ledgerVerify state command .executionLedger .verified
    let execution ← Attempt.ofExcept (executionOf ledger)
    return (ledger.appendEvidence evidenceRefs, some execution)
  | _ => return (evidenceRefs, none)

def resolveEvaluation (state : RuntimeWorkflowState) (command : RuntimeWorkflowCommand)
    (evidenceRefs : BTreeSet String) :
    Resolver (BTreeSet String × Option EvaluationResult) := do
  match command.commandType with
  | .verify | .complete =>
    let evaluator ← verified .evaluatorVerify state command .evaluator .pass
    let evidenceRefs := evaluator.appendEvidence evidenceRefs
    let now ← utcNow
    let evaluation ← Attempt.ofExcept (evaluationOf evaluator evidenceRefs now)
    return (evidenceRefs, some evaluation)
  | _ => return (evidenceRefs, none)

def resolve (state : RuntimeWorkflowState) (command : RuntimeWorkflowCommand) :
    Resolver ResolvedTransitionFacts := do
  if command.commandType = .kill then
    resolveKill state command
  else
    let evidence ← verified .evidenceVerify state command .evidence .verified
    let evidenceRefs := evidence.appendEvidence ∅
    let evidenceRefs ← resolvePolicy state command evidenceRefs
    let evidenceRefs ← resolveApproval state command evidenceRefs
    let (evidenceRefs, execution) ← resolveLedger state command evidenceRefs
    let (evidenceRefs, evaluation) ← resolveEvaluation state command evidenceRefs
    return { evidenceRefs, ledgerStatus := execution.map (·.status), evaluation
             compensationVerified := evidence.attributes["compensation_verified"]? = some "true"
             credentialRevoked := false, supervisorAcknowledged := false, execution }

def replay (hash : Hasher) (current : RuntimeWorkflowState) (command : RuntimeWorkflowCommand) :
    Option (Except RuntimeTransitionError RuntimeWorkflowState) :=
  let fingerprint := runtimeCommandFingerprint hash command
  if current.processedCommands.contains command.commandId then
    if current.processedCommandFingerprints[command.commandId]? = some fingerprint then
      some (.ok current)
    else
      some (.error .idempotencyConflict)
  else
    match current.processedIdempotencyKeys[command.requestIdempotencyKey]? with
    | some existing =>
      if existing = fingerprint then some (.ok current) else some (.error .idempotencyConflict)
    | none => none

def checkCurrent (current : RuntimeWorkflowState) (command : RuntimeWorkflowCommand) :
    Except RuntimeTransitionError Unit := do
  if command.expectedStateVersion ≠ current.recoveryCursor then
    throw .concurrentCommand
  if current.terminal then
    throw .terminalTask
  preflightTransition current command

/-- What `apply` does with a validated request. -/
def applyValidated (hash : Hasher) (request : RuntimeTransitionRequest) :
    Engine RuntimeWorkflowState := do
  match replay hash request.current request.command with
  | some answer => Attempt.ofExcept answer
  | none =>
    Attempt.ofExcept (checkCurrent request.current request.command)
    let facts ← ExceptT.adapt .factResolution (resolve request.current request.command)
    let eventId ← newUuid
    let occurredAt ← utcNow
    Attempt.ofExcept
      (applyResolvedTransition hash request.current request.command facts eventId occurredAt)

def apply (hash : Hasher) (request : RuntimeTransitionRequest) :
    Engine RuntimeWorkflowState := do
  let now ← utcNow
  Attempt.ofExcept (validateRequest hash now request)
  applyValidated hash request

end AgentSphere.Orchestrator
