import AgentSphere.Contracts.Authority
import AgentSphere.Lib.History

/-!
# The enterprise approval service

Approval cases, the decisions of approvers, signed grants and their consumption. The state is
behind one lock, which every operation holds from its first look at the state to its return, so
that an operation is one step; the directory of approvers has a lock of its own, so that it may
change while an operation runs. `verify_and_consume` is the only operation that reads it more
than once, and takes the directory of each of its reads.
-/

namespace AgentSphere.Approval

open Concurrency

def approvalSchemaVersion : String := "agenttrust.enterprise-approval.v1"
def approvalCaseSchemaVersion : String := "agenttrust.enterprise-approval-case.v2"

inductive ApprovalType where
  | action
  | scope
  | escalation
  | dual
  | emergency
  deriving DecidableEq, Repr

inductive ApprovalStatus where
  | pending
  | approved
  | rejected
  | revoked
  | expired
  | consumed
  | postReviewRequired
  deriving DecidableEq, Repr

inductive ApprovalError where
  | policyInvalid
  | requestInvalid
  | caseNotFound
  | approverNotEligible
  | duplicateApprover
  | lifecycleInvalid
  | expired
  | revoked
  | grantInvalid
  | grantReplayed
  | bindingChanged
  | approverRoleChanged
  | breakGlassDenied
  deriving DecidableEq, Repr

structure ApprovalPolicy where
  policyId : String
  policyVersion : String
  approvalType : ApprovalType
  minimumApprovers : Nat
  requiredRoles : List String
  prohibitRequester : Bool
  prohibitAgentOwner : Bool
  requireResourceOwner : Bool
  maximumTtlSeconds : Nat
  maximumUses : Nat
  maximumRisk : RiskLevel

structure CodingApprovalReviewDetails where
  diffArtifactRef : String
  commandSummary : String
  networkScope : String
  rollbackSummary : String

structure IndustrialApprovalReviewDetails where
  currentValue : String
  targetValue : String
  allowedRange : String
  interlockSummary : String
  physicalImpact : String

inductive ApprovalReviewContext where
  | coding (details : CodingApprovalReviewDetails)
  | industrial (details : IndustrialApprovalReviewDetails)

/-- A request for an approval; of its review evidence only the document is kept, which the
keyring reads. -/
structure ApprovalRequest where
  tenantId : TenantId
  taskId : TaskId
  stepId : StepId
  actionHash : ActionHash
  planHash : String
  parameterHash : String
  resource : String
  resourceVersion : ResourceVersion
  policyVersion : PolicyVersion
  environment : String
  risk : RiskLevel
  reviewContext : ApprovalReviewContext
  reviewEvidence : Value
  requesterSubject : String
  agentOwnerSubject : String
  justification : String
  requestedTtlSeconds : Nat
  requestedUses : Nat

/-- The texts of `decision`: `APPROVE`, `REJECT` and `POST_REVIEWED`. -/
inductive DecisionKind where
  | approve
  | reject
  | postReviewed
  deriving DecidableEq, Repr

structure ApprovalDecisionRecord where
  approverSubject : String
  roles : List String
  decision : DecisionKind
  reason : String
  decidedAt : DateTime
  strongAuth : Bool

structure ApprovalCase where
  schemaVersion : String
  caseId : String
  request : ApprovalRequest
  policy : ApprovalPolicy
  status : ApprovalStatus
  decisions : List ApprovalDecisionRecord
  createdAt : DateTime
  expiresAt : DateTime
  postReviewDueAt : Option DateTime

structure ApproverIdentity where
  tenantId : TenantId
  subject : String
  roles : List String
  ownedResources : List String
  delegatedUntil : Option DateTime
  strongAuth : Bool
  active : Bool

abbrev ApproverDirectory := BTreeMap (TenantId × String) ApproverIdentity

namespace ApproverDirectory

def upsert (directory : ApproverDirectory) (identity : ApproverIdentity) : ApproverDirectory :=
  directory.insert (identity.tenantId, identity.subject) identity

def resolve (directory : ApproverDirectory) (tenant : TenantId) (subject : String) :
    Except ApprovalError ApproverIdentity :=
  match directory[(tenant, subject)]?.filter (·.active) with
  | some identity => .ok identity
  | none => .error .approverNotEligible

end ApproverDirectory

structure ApprovalExecutionBinding where
  tenantId : TenantId
  taskId : TaskId
  stepId : StepId
  actionHash : ActionHash
  planHash : String
  parameterHash : String
  resource : String
  resourceVersion : ResourceVersion
  policyVersion : PolicyVersion
  environment : String
  risk : RiskLevel

/-- `ApprovalExecutionBinding::matches`. -/
def ApprovalExecutionBinding.matchesGrant (binding : ApprovalExecutionBinding)
    (grant : EnterpriseApprovalGrant) : Bool :=
  binding.tenantId = grant.tenantId && binding.taskId = grant.taskId &&
    binding.stepId = grant.stepId && binding.actionHash = grant.actionHash &&
    binding.planHash = grant.planHash && binding.parameterHash = grant.parameterHash &&
    binding.resource = grant.resource && binding.resourceVersion = grant.resourceVersion &&
    binding.policyVersion = grant.policyVersion && binding.environment = grant.environment &&
    binding.risk.rank ≤ grant.maximumRisk.rank

-- Checks of a request

def secretMarkers : List String :=
  ["authorization:", "bearer ", "password", "passwd", "client_secret", "api_key", "api-key",
    "apikey", "x-api-key", "private key", "-----begin", "cookie:", "set-cookie", "credential://",
    "vault-kv://", "secret://", "token=", "token:"]

def approvalReviewBounded (value : String) (maximum : Nat) : Bool :=
  !isBlank value && value.utf8ByteSize ≤ maximum && !value.toList.any isControl &&
    !secretMarkers.any (containsText (toAsciiLowercase value))

def isFragmentChar (c : Char) : Bool := c.isAlphanum || c == '-' || c == '_'

/-- `approval_review_text`: no long fragment of letters and digits. -/
def approvalReviewText (value : String) (maximum : Nat) : Bool :=
  approvalReviewBounded value maximum &&
    !(value.toList.splitOnP (fun c => !isFragmentChar c)).any fun fragment =>
      32 ≤ fragment.length && fragment.any Char.isAlpha && fragment.any Char.isDigit

def approvalReviewArtifactRef (value : String) : Bool :=
  ("artifact://sha256/".toList.isPrefixOf value.toList) &&
    isDigest (String.ofList (value.toList.drop "artifact://sha256/".toList.length))

namespace ApprovalReviewContext

def valid : ApprovalReviewContext → Bool
  | .coding details =>
    approvalReviewArtifactRef details.diffArtifactRef &&
      approvalReviewText details.commandSummary 2048 &&
      approvalReviewText details.networkScope 1024 &&
      approvalReviewText details.rollbackSummary 2048
  | .industrial details =>
    approvalReviewText details.currentValue 512 && approvalReviewText details.targetValue 512 &&
      approvalReviewText details.allowedRange 512 &&
      approvalReviewText details.interlockSummary 2048 &&
      approvalReviewText details.physicalImpact 2048

def isIndustrial : ApprovalReviewContext → Bool
  | .coding _ => false
  | .industrial _ => true

end ApprovalReviewContext

def requestIsIndustrial (request : ApprovalRequest) : Bool :=
  (["opcua:", "opc.tcp:", "mqtt:", "modbus:", "plc:", "scada:", "plant/",
      "urn:agenttrust:industrial:"].any fun start =>
    start.toList.isPrefixOf (toAsciiLowercase request.resource).toList) ||
    request.environment = "industrial" || request.environment = "physical-production"

def validApprovalHumanText (value : String) : Bool :=
  !isBlank value && !value.toList.any (fun c => c.toNat = 0) && value.utf8ByteSize ≤ 4096

def validatePolicy (policy : ApprovalPolicy) : Except ApprovalError Unit :=
  if policy.policyId.isEmpty ∨ policy.policyVersion.isEmpty ∨ policy.minimumApprovers = 0
      ∨ policy.maximumTtlSeconds = 0 ∨ policy.maximumUses = 0
      ∨ (policy.approvalType = .dual ∧ policy.minimumApprovers < 2) then
    .error .policyInvalid
  else
    .ok ()

def validateRequest (request : ApprovalRequest) (policy : ApprovalPolicy) :
    Except ApprovalError Unit :=
  if request.actionHash.utf8ByteSize ≠ 64 ∨ request.planHash.utf8ByteSize ≠ 64
      ∨ request.parameterHash.utf8ByteSize ≠ 64 ∨ request.resource.isEmpty
      ∨ !request.reviewContext.valid
      ∨ requestIsIndustrial request ≠ request.reviewContext.isIndustrial
      ∨ request.requesterSubject.isEmpty ∨ request.agentOwnerSubject.isEmpty
      ∨ !validApprovalHumanText request.justification
      ∨ request.requestedTtlSeconds = 0
      ∨ request.requestedTtlSeconds > policy.maximumTtlSeconds
      ∨ request.requestedUses = 0
      ∨ request.requestedUses > policy.maximumUses
      ∨ request.risk.rank > policy.maximumRisk.rank then
    .error .requestInvalid
  else
    .ok ()

def SoDEngine.validate (case : ApprovalCase) (approver : ApproverIdentity) (now : DateTime) :
    Except ApprovalError Unit :=
  if approver.tenantId ≠ case.request.tenantId ∨ !approver.active ∨ !approver.strongAuth
      ∨ approver.delegatedUntil.any (· ≤ now)
      ∨ (!case.policy.requiredRoles.isEmpty ∧
          !case.policy.requiredRoles.any (fun role => approver.roles.contains role))
      ∨ (case.policy.prohibitRequester ∧ approver.subject = case.request.requesterSubject)
      ∨ (case.policy.prohibitAgentOwner ∧ approver.subject = case.request.agentOwnerSubject)
      ∨ (case.policy.requireResourceOwner ∧
          !approver.ownedResources.contains case.request.resource) then
    .error .approverNotEligible
  else
    .ok ()

-- Operations

structure ApprovalState where
  cases : BTreeMap String ApprovalCase
  grants : BTreeMap String EnterpriseApprovalGrant
  remainingUses : BTreeMap String Nat
  revokedGrants : List String
  uiIntents : List String

namespace ApprovalState

def default : ApprovalState where
  cases := ∅
  grants := ∅
  remainingUses := ∅
  revokedGrants := []
  uiIntents := []

def putCase (state : ApprovalState) (caseId : String) (case : ApprovalCase) : ApprovalState :=
  { state with cases := state.cases.insert caseId case }

def putGrant (state : ApprovalState) (grant : EnterpriseApprovalGrant) : ApprovalState :=
  { state with
    remainingUses := state.remainingUses.insert grant.grantId grant.maximumUses
    grants := state.grants.insert grant.grantId grant }

def revokeGrants (state : ApprovalState) (p : EnterpriseApprovalGrant → Bool) : ApprovalState :=
  { state with
    revokedGrants := state.revokedGrants ++ (state.grants.toList.filter fun entry => p entry.2).map
      fun entry => entry.2.grantId }

end ApprovalState

structure Ambient where
  caseUuid : Uuid
  grantUuid : Uuid

structure EnterpriseApprovalService where
  issuer : String
  keyId : String
  /-- The signature over the canonical JSON of an unsigned grant. -/
  sign : EnterpriseApprovalGrant → String
  /-- Whether the signature of a grant is one of this service's key. -/
  verifies : EnterpriseApprovalGrant → Bool
  /-- `verify_request` of the keyring for review evidence. -/
  verifyRequest : ApprovalRequest → DateTime → Except ApprovalError Unit

def ApprovalCase.decide (case : ApprovalCase) (approver : ApproverIdentity)
    (decision : DecisionKind) (reason : String) (now : DateTime) : ApprovalCase :=
  { case with
    decisions := case.decisions ++
      [{ approverSubject := approver.subject, roles := approver.roles, decision, reason
         decidedAt := now, strongAuth := approver.strongAuth }] }

def ApprovalCase.approvers (case : ApprovalCase) : List String :=
  (case.decisions.filter (·.decision = .approve)).map (·.approverSubject)

def ApprovalCase.approvals (case : ApprovalCase) : Nat := case.approvers.dedup.length % 2 ^ 32

def eligible (directory : ApproverDirectory) (case : ApprovalCase) (subject : String)
    (now : DateTime) : Except ApprovalError ApproverIdentity := do
  let approver ← directory.resolve case.request.tenantId subject
  SoDEngine.validate case approver now
  pure approver

namespace EnterpriseApprovalService

variable (service : EnterpriseApprovalService)

def makeGrant (ambient : Ambient) (case : ApprovalCase) (now : DateTime) :
    EnterpriseApprovalGrant where
  schemaVersion := approvalSchemaVersion
  grantId := ambient.grantUuid.toStr
  caseId := case.caseId
  tenantId := case.request.tenantId
  taskId := case.request.taskId
  stepId := case.request.stepId
  actionHash := case.request.actionHash
  planHash := case.request.planHash
  parameterHash := case.request.parameterHash
  resource := case.request.resource
  resourceVersion := case.request.resourceVersion
  policyVersion := case.request.policyVersion
  environment := case.request.environment
  maximumRisk := case.policy.maximumRisk
  approverSubjects := case.approvers
  issuedAt := now
  expiresAt := case.expiresAt
  maximumUses := min case.request.requestedUses case.policy.maximumUses
  breakGlass := case.policy.approvalType = .emergency
  issuer := service.issuer
  keyId := service.keyId
  signature := ""

def signedGrant (ambient : Ambient) (case : ApprovalCase) (now : DateTime) :
    EnterpriseApprovalGrant :=
  let grant := service.makeGrant ambient case now
  { grant with signature := service.sign grant }

def openCase (ambient : Ambient) (request : ApprovalRequest) (policy : ApprovalPolicy)
    (now : DateTime) : Option (Except ApprovalError ApprovalCase) :=
  let checked : Except ApprovalError Unit := do
    validatePolicy policy
    validateRequest request policy
    service.verifyRequest request now
  match checked with
  | .error e => some (.error e)
  | .ok () =>
    let ttl := min request.requestedTtlSeconds policy.maximumTtlSeconds
    if policy.approvalType = .emergency ∧
        (ttl > 300 ∨ request.risk.rank > policy.maximumRisk.rank) then
      some (.error .breakGlassDenied)
    else do
      let postReviewDueAt ← if policy.approvalType = .emergency then
          (DateTime.add now 86400000000000).map some
        else some none
      let lifetime ← durationSeconds (asI64 ttl)
      let expiresAt ← DateTime.add now lifetime
      some <| .ok
        { schemaVersion := approvalCaseSchemaVersion, caseId := ambient.caseUuid.toStr, request
          policy
          status := if policy.approvalType = .emergency then .postReviewRequired else .pending
          decisions := [], createdAt := now, expiresAt, postReviewDueAt }

def request (ambient : Ambient) (state : ApprovalState) (request : ApprovalRequest)
    (policy : ApprovalPolicy) (now : DateTime) :
    Option (Except ApprovalError ApprovalCase) × ApprovalState :=
  match service.openCase ambient request policy now with
  | some (.ok case) => (some (.ok case), state.putCase case.caseId case)
  | answer => (answer, state)

def submitUiIntent (state : ApprovalState) (caseId userSessionId : String) :
    Except ApprovalError Unit × ApprovalState :=
  if state.cases[caseId]?.isNone ∨ userSessionId.isEmpty then
    (.error .caseNotFound, state)
  else
    (.ok (), { state with uiIntents := (caseId ++ ":" ++ userSessionId) :: state.uiIntents })

def approve (ambient : Ambient) (directory : ApproverDirectory) (state : ApprovalState)
    (caseId approverSubject reason : String) (now : DateTime) :
    Except ApprovalError (Option EnterpriseApprovalGrant) × ApprovalState :=
  match state.cases[caseId]? with
  | none => (.error .caseNotFound, state)
  | some case =>
    if now ≥ case.expiresAt then
      (.error .expired, state.putCase caseId { case with status := .expired })
    else if case.status ≠ .pending ∧ case.status ≠ .postReviewRequired then
      (.error .lifecycleInvalid, state)
    else
      match eligible directory case approverSubject now with
      | .error e => (.error e, state)
      | .ok approver =>
        if case.decisions.any (fun decision => decision.approverSubject = approver.subject) then
          (.error .duplicateApprover, state)
        else
          let decided := case.decide approver .approve reason now
          if decided.approvals < case.policy.minimumApprovers then
            (.ok none, state.putCase caseId decided)
          else
            let granted : ApprovalCase :=
              { decided with
                status := if case.policy.approvalType = .emergency then .postReviewRequired
                  else .approved }
            let grant := service.signedGrant ambient granted now
            (.ok (some grant), (state.putCase caseId granted).putGrant grant)

def reject (directory : ApproverDirectory) (state : ApprovalState)
    (caseId approverSubject reason : String) (now : DateTime) :
    Except ApprovalError Unit × ApprovalState :=
  match state.cases[caseId]? with
  | none => (.error .caseNotFound, state)
  | some case =>
    match eligible directory case approverSubject now with
    | .error e => (.error e, state)
    | .ok approver =>
      (.ok (), state.putCase caseId
        { case.decide approver .reject reason now with status := .rejected })

def revokeCase (state : ApprovalState) (caseId : String) :
    Except ApprovalError Unit × ApprovalState :=
  match state.cases[caseId]? with
  | none => (.error .caseNotFound, state)
  | some case =>
    (.ok (), (state.putCase caseId { case with status := .revoked }).revokeGrants
      fun grant => grant.caseId = caseId)

def revokeTask (state : ApprovalState) (taskId : TaskId) : ApprovalState :=
  state.revokeGrants fun grant => grant.taskId = taskId

def auditEmergency (directory : ApproverDirectory) (state : ApprovalState)
    (caseId reviewerSubject reason : String) (now : DateTime) :
    Except ApprovalError Unit × ApprovalState :=
  match state.cases[caseId]? with
  | none => (.error .caseNotFound, state)
  | some case =>
    if case.policy.approvalType ≠ .emergency ∨ case.status ≠ .postReviewRequired
        ∨ case.postReviewDueAt.any (· < now) then
      (.error .lifecycleInvalid, state)
    else
      match eligible directory case reviewerSubject now with
      | .error e => (.error e, state)
      | .ok reviewer =>
        (.ok (), state.putCase caseId
          { case.decide reviewer .postReviewed reason now with status := .approved })

def verifyGrantSignature (grant : EnterpriseApprovalGrant) (now : DateTime) :
    Except ApprovalError Unit :=
  if grant.schemaVersion ≠ approvalSchemaVersion ∨ grant.issuer ≠ service.issuer
      ∨ grant.keyId ≠ service.keyId ∨ now < grant.issuedAt ∨ now ≥ grant.expiresAt
      ∨ grant.maximumUses = 0 ∨ !service.verifies grant then
    .error .grantInvalid
  else
    .ok ()

/-- The approvers of a grant are looked up one after the other, each in the directory of its
moment. -/
def recheck (case : ApprovalCase) (tenantId : TenantId) (now : DateTime) :
    List String → (Nat → ApproverDirectory) → Except ApprovalError Unit
  | [], _ => .ok ()
  | subject :: rest, directories => do
    let current ← (directories 0).resolve tenantId subject
    (SoDEngine.validate case current now).mapError fun _ => .approverRoleChanged
    recheck case tenantId now rest fun i => directories (i + 1)

def verifyAndConsume (directories : Nat → ApproverDirectory) (state : ApprovalState)
    (grant : EnterpriseApprovalGrant) (binding : ApprovalExecutionBinding) (now : DateTime) :
    Except ApprovalError Nat × ApprovalState :=
  match service.verifyGrantSignature grant now with
  | .error e => (.error e, state)
  | .ok () =>
    if !binding.matchesGrant grant then
      (.error .bindingChanged, state)
    else if grant.grantId ∈ state.revokedGrants then
      (.error .revoked, state)
    else if state.grants[grant.grantId]? ≠ some grant then
      (.error .grantInvalid, state)
    else
      match state.cases[grant.caseId]? with
      | none => (.error .caseNotFound, state)
      | some case =>
        if case.status ∈ [.rejected, .revoked, .expired] then
          (.error .revoked, state)
        else
          match recheck case grant.tenantId now grant.approverSubjects directories with
          | .error e => (.error e, state)
          | .ok () =>
            match state.remainingUses[grant.grantId]? with
            | none => (.error .grantInvalid, state)
            | some 0 => (.error .grantReplayed, state)
            | some (remaining + 1) =>
              let used : ApprovalState :=
                { state with
                  remainingUses := state.remainingUses.insert grant.grantId remaining }
              (.ok remaining,
                if remaining = 0 ∧ grant.breakGlass = false then
                  used.putCase grant.caseId { case with status := .consumed }
                else used)

end EnterpriseApprovalService

inductive Operation where
  | request (request : ApprovalRequest) (policy : ApprovalPolicy) (now : DateTime)
  | submitUiIntent (caseId userSessionId : String)
  | approve (caseId approverSubject reason : String) (now : DateTime)
  | reject (caseId approverSubject reason : String) (now : DateTime)
  | revokeCase (caseId : String)
  | revokeTask (taskId : TaskId)
  | auditEmergency (caseId reviewerSubject reason : String) (now : DateTime)
  | verifyAndConsume (grant : EnterpriseApprovalGrant) (binding : ApprovalExecutionBinding)
      (now : DateTime)

abbrev Operation.Answer : Operation → Type
  | .request .. => Option (Except ApprovalError ApprovalCase)
  | .submitUiIntent .. | .reject .. | .revokeCase _ | .auditEmergency .. =>
    Except ApprovalError Unit
  | .approve .. => Except ApprovalError (Option EnterpriseApprovalGrant)
  | .revokeTask _ => Unit
  | .verifyAndConsume .. => Except ApprovalError Nat

def EnterpriseApprovalService.perform (service : EnterpriseApprovalService) (ambient : Ambient)
    (directories : Nat → ApproverDirectory) (state : ApprovalState) :
    (operation : Operation) → operation.Answer × ApprovalState
  | .request request policy now => service.request ambient state request policy now
  | .submitUiIntent caseId userSessionId => submitUiIntent state caseId userSessionId
  | .approve caseId approverSubject reason now =>
    service.approve ambient (directories 0) state caseId approverSubject reason now
  | .reject caseId approverSubject reason now =>
    reject (directories 0) state caseId approverSubject reason now
  | .revokeCase caseId => revokeCase state caseId
  | .revokeTask taskId => ((), revokeTask state taskId)
  | .auditEmergency caseId reviewerSubject reason now =>
    auditEmergency (directories 0) state caseId reviewerSubject reason now
  | .verifyAndConsume grant binding now =>
    service.verifyAndConsume directories state grant binding now

-- One service, many clients

structure Approvals where
  state : ApprovalState
  directory : ApproverDirectory

def Approvals.default : Approvals := ⟨.default, ∅⟩

def Upserts : ApproverDirectory → ApproverDirectory → Prop :=
  Relation.ReflTransGen fun directory directory' =>
    ∃ identity, directory' = directory.upsert identity

structure During (first : ApproverDirectory) (directories : Nat → ApproverDirectory)
    (last : ApproverDirectory) : Prop where
  start : Upserts first (directories 0)
  next : ∀ i, Upserts (directories i) (directories (i + 1))
  stop : ∀ i, Upserts (directories i) last

def Ambient.Fresh (ambient : Ambient) (state : ApprovalState) : Prop :=
  state.cases[ambient.caseUuid.toStr]? = none ∧ state.grants[ambient.grantUuid.toStr]? = none

def serve (service : EnterpriseApprovalService) (shared : Approvals) (operation : Operation)
    (answer : operation.Answer) (shared' : Approvals) : Prop :=
  ∃ ambient directories, ambient.Fresh shared.state ∧
    During shared.directory directories shared'.directory ∧
    service.perform ambient directories shared.state operation = (answer, shared'.state)

abbrev ApprovalEvent := Event Approvals Operation Operation.Answer

abbrev ApprovalConfig := Config Approvals Operation Operation.Answer Unit

def system (service : EnterpriseApprovalService) :
    System Approvals Operation Operation.Answer Unit where
  Serve := serve service
  Internal shared shared' :=
    shared'.state = shared.state ∧ Upserts shared.directory shared'.directory
  Start _ := True

end AgentSphere.Approval
