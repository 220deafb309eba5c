import AgentSphere.Approval.Changes

/-!
# Sessions

The run in which one client calls the service, one operation after the other, and nobody else
changes the directory. It can be evaluated, and it is one of the runs of `system`.
-/

namespace AgentSphere.Approval

open Concurrency

def session (service : EnterpriseApprovalService) (directory : ApproverDirectory) :
    ApprovalState → List (Ambient × Operation) → List ApprovalEvent
  | _, [] => []
  | state, (ambient, operation) :: rest =>
    let result := service.perform ambient (fun _ => directory) state operation
    ⟨0, operation, result.1, ⟨state, directory⟩, ⟨result.2, directory⟩⟩ ::
      session service directory result.2 rest

def sessionEnd (service : EnterpriseApprovalService) (directory : ApproverDirectory) :
    ApprovalState → List (Ambient × Operation) → ApprovalState
  | state, [] => state
  | state, (ambient, operation) :: rest =>
    sessionEnd service directory
      (service.perform ambient (fun _ => directory) state operation).2 rest

def sessionFresh (service : EnterpriseApprovalService) (directory : ApproverDirectory) :
    ApprovalState → List (Ambient × Operation) → Bool
  | _, [] => true
  | state, (ambient, operation) :: rest =>
    state.cases[ambient.caseUuid.toStr]?.isNone && state.grants[ambient.grantUuid.toStr]?.isNone &&
      sessionFresh service directory
        (service.perform ambient (fun _ => directory) state operation).2 rest

def client : List (Ambient × Operation) → Program Operation Operation.Answer Unit
  | [] => .done ()
  | (_, operation) :: rest => .perform operation fun _ => client rest

def directoryOf (identities : List ApproverIdentity) : ApproverDirectory :=
  identities.foldl .upsert ∅

theorem upserts_foldl (directory : ApproverDirectory) (identities : List ApproverIdentity) :
    Upserts directory (identities.foldl .upsert directory) := by
  induction identities generalizing directory with
  | nil => exact .refl
  | cons identity rest ih => exact .head ⟨identity, rfl⟩ (ih _)

theorem during_const (directory : ApproverDirectory) :
    During directory (fun _ => directory) directory :=
  ⟨.refl, fun _ => .refl, fun _ => .refl⟩

section Session

variable {service : EnterpriseApprovalService}

theorem session_runs {directory : ApproverDirectory} {operations : List (Ambient × Operation)}
    {state : ApprovalState} {trace : List ApprovalEvent}
    (hfresh : sessionFresh service directory state operations = true)
    (hreach :
      (system service).Reachable .default ⟨⟨state, directory⟩, [client operations], trace⟩) :
    ∃ threads, (system service).Reachable .default
      ⟨⟨sessionEnd service directory state operations, directory⟩, threads,
        trace ++ session service directory state operations⟩ := by
  induction operations generalizing state trace with
  | nil => exact ⟨_, by simpa [session, sessionEnd] using hreach⟩
  | cons first rest ih =>
    obtain ⟨ambient, operation⟩ := first
    simp only [sessionFresh, Bool.and_eq_true, Option.isNone_iff_eq_none] at hfresh
    obtain ⟨⟨hcase, hgrant⟩, hrest⟩ := hfresh
    have hserve : serve service ⟨state, directory⟩ operation
        (service.perform ambient (fun _ => directory) state operation).1
        ⟨(service.perform ambient (fun _ => directory) state operation).2, directory⟩ :=
      ⟨ambient, fun _ => directory, ⟨hcase, hgrant⟩, during_const directory, rfl⟩
    have hnext := hreach.tail (.advance 0 operation _ _ _ rfl hserve)
    obtain ⟨threads, hend⟩ := ih hrest hnext
    exact ⟨threads, by simpa [session, sessionEnd] using hend⟩

/-- **Sessions are runs**: the events of a session are the trace of a run. -/
theorem reachable_session (service : EnterpriseApprovalService)
    (identities : List ApproverIdentity)
    (operations : List (Ambient × Operation))
    (hfresh : sessionFresh service (directoryOf identities) .default operations = true) :
    ∃ threads, (system service).Reachable .default
      ⟨⟨sessionEnd service (directoryOf identities) .default operations, directoryOf identities⟩,
        threads, session service (directoryOf identities) .default operations⟩ := by
  have hdirectory : (system service).Reachable .default
      ⟨⟨.default, directoryOf identities⟩, [], []⟩ :=
    .single (.internal _ ⟨rfl, upserts_foldl ∅ identities⟩)
  have hclient := hdirectory.tail (.start (client operations) trivial)
  exact session_runs hfresh hclient

end Session

-- Sample data

def sampleApprover (subject : String) : ApproverIdentity where
  tenantId := "11111111-1111-4111-8111-111111111111"
  subject := subject
  roles := ["release-manager"]
  ownedResources := ["artifact/release"]
  delegatedUntil := none
  strongAuth := true
  active := true

def sampleDirectory : ApproverDirectory :=
  directoryOf [sampleApprover "alice", sampleApprover "bob"]

def sampleDigest : String := "0123456789abcdef0123456789abcdef0123456789abcdef0123456789abcdef"

def sampleRequest : ApprovalRequest where
  tenantId := "11111111-1111-4111-8111-111111111111"
  taskId := "22222222-2222-4222-8222-222222222222"
  stepId := "33333333-3333-4333-8333-333333333333"
  actionHash := sampleDigest
  planHash := sampleDigest
  parameterHash := sampleDigest
  resource := "artifact/release"
  resourceVersion := "v1"
  policyVersion := "policy-v1"
  environment := "production"
  risk := .critical
  reviewContext := .coding
    { diffArtifactRef := "artifact://sha256/" ++ sampleDigest
      commandSummary := "publish the release"
      networkScope := "release registry"
      rollbackSummary := "restore the last release" }
  reviewEvidence := .string sampleDigest
  requesterSubject := "carol"
  agentOwnerSubject := "dave"
  justification := "security release"
  requestedTtlSeconds := 300
  requestedUses := 2

def samplePolicy (approvalType : ApprovalType) : ApprovalPolicy where
  policyId := "release"
  policyVersion := "v1"
  approvalType := approvalType
  minimumApprovers := 1
  requiredRoles := ["release-manager"]
  prohibitRequester := true
  prohibitAgentOwner := true
  requireResourceOwner := true
  maximumTtlSeconds := 600
  maximumUses := 3
  maximumRisk := .critical

def sampleService : EnterpriseApprovalService where
  issuer := "enterprise-approval"
  keyId := "approval-key-1"
  sign _ := "c2lnbmF0dXJl"
  verifies grant := grant.signature = "c2lnbmF0dXJl"
  verifyRequest request _ :=
    match request.reviewEvidence with
    | .string digest => if digest = request.actionHash then .ok () else .error .requestInvalid
    | _ => .error .requestInvalid

def sampleIds (case grant : Fin 16) : Ambient := ⟨sampleUuid case, sampleUuid grant⟩

theorem validateRequest_sample (approvalType : ApprovalType) :
    validateRequest sampleRequest (samplePolicy approvalType) = .ok () :=
  -- the type of approval plays no part
  show validateRequest sampleRequest (samplePolicy .action) = .ok () by decide +kernel

def sampleCase (approvalType : ApprovalType) : ApprovalCase where
  schemaVersion := approvalCaseSchemaVersion
  caseId := (sampleUuid 1).toStr
  request := sampleRequest
  policy := samplePolicy approvalType
  status := if approvalType = .emergency then .postReviewRequired else .pending
  decisions := []
  createdAt := 0
  expiresAt := 300000000000
  postReviewDueAt := if approvalType = .emergency then some 86400000000000 else none

def sampleOpen (approvalType : ApprovalType) : ApprovalState :=
  ApprovalState.default.putCase (sampleUuid 1).toStr (sampleCase approvalType)

theorem perform_sample {approvalType : ApprovalType} (htype : approvalType ≠ .dual)
    (grant : Uuid) (directories : Nat → ApproverDirectory) :
    sampleService.perform ⟨sampleUuid 1, grant⟩ directories .default
        (.request sampleRequest (samplePolicy approvalType) 0) =
      (some (.ok (sampleCase approvalType)), sampleOpen approvalType) := by
  have hpolicy : validatePolicy (samplePolicy approvalType) = .ok () := by
    revert htype
    cases approvalType <;> decide
  have hopens : sampleService.openCase ⟨sampleUuid 1, grant⟩ sampleRequest
      (samplePolicy approvalType) 0 = some (.ok (sampleCase approvalType)) := by
    simp only [EnterpriseApprovalService.openCase, hpolicy, validateRequest_sample]
    cases approvalType <;> rfl
  simp only [EnterpriseApprovalService.perform, EnterpriseApprovalService.request, hopens]
  rfl

def sampleOpening (approvalType : ApprovalType) : ApprovalEvent where
  thread := 0
  call := .request sampleRequest (samplePolicy approvalType) 0
  answer := some (.ok (sampleCase approvalType))
  before := ⟨.default, sampleDirectory⟩
  after := ⟨sampleOpen approvalType, sampleDirectory⟩

def sampleSession (approvalType : ApprovalType) (operations : List (Ambient × Operation)) :
    List ApprovalEvent :=
  sampleOpening approvalType ::
    session sampleService sampleDirectory (sampleOpen approvalType) operations

def sampleEnd (approvalType : ApprovalType) (operations : List (Ambient × Operation)) :
    ApprovalState :=
  sessionEnd sampleService sampleDirectory (sampleOpen approvalType) operations

def sampleRun (approvalType : ApprovalType) (operations : List (Ambient × Operation))
    (threads : List (Program Operation Operation.Answer Unit)) : ApprovalConfig :=
  ⟨⟨sampleEnd approvalType operations, sampleDirectory⟩, threads,
    sampleSession approvalType operations⟩

theorem reachable_sample (approvalType : ApprovalType) (htype : approvalType ≠ .dual)
    (operations : List (Ambient × Operation))
    (hfresh : sessionFresh sampleService sampleDirectory (sampleOpen approvalType) operations =
      true) :
    ∃ threads, (system sampleService).Reachable .default
      (sampleRun approvalType operations threads) := by
  have hreach := reachable_session sampleService
    [sampleApprover "alice", sampleApprover "bob"]
    ((⟨sampleUuid 1, sampleUuid 2⟩, .request sampleRequest (samplePolicy approvalType) 0) ::
      operations)
  simp only [session, sessionEnd, sessionFresh, perform_sample htype] at hreach
  exact hreach hfresh

def sampleBinding : ApprovalExecutionBinding where
  tenantId := sampleRequest.tenantId
  taskId := sampleRequest.taskId
  stepId := sampleRequest.stepId
  actionHash := sampleRequest.actionHash
  planHash := sampleRequest.planHash
  parameterHash := sampleRequest.parameterHash
  resource := sampleRequest.resource
  resourceVersion := sampleRequest.resourceVersion
  policyVersion := sampleRequest.policyVersion
  environment := sampleRequest.environment
  risk := sampleRequest.risk

def sampleGrant (approvalType : ApprovalType) (grant : Fin 16) (subjects : List String)
    (now : DateTime) : EnterpriseApprovalGrant where
  schemaVersion := approvalSchemaVersion
  grantId := (sampleUuid grant).toStr
  caseId := (sampleUuid 1).toStr
  tenantId := sampleRequest.tenantId
  taskId := sampleRequest.taskId
  stepId := sampleRequest.stepId
  actionHash := sampleRequest.actionHash
  planHash := sampleRequest.planHash
  parameterHash := sampleRequest.parameterHash
  resource := sampleRequest.resource
  resourceVersion := sampleRequest.resourceVersion
  policyVersion := sampleRequest.policyVersion
  environment := sampleRequest.environment
  maximumRisk := .critical
  approverSubjects := subjects
  issuedAt := now
  expiresAt := 300000000000
  maximumUses := 2
  breakGlass := approvalType = .emergency
  issuer := sampleService.issuer
  keyId := sampleService.keyId
  signature := "c2lnbmF0dXJl"

def sampleUse (approvalType : ApprovalType) : List (Ambient × Operation) :=
  [(sampleIds 3 4, .approve (sampleUuid 1).toStr "alice" "reviewed" 1),
    (sampleIds 5 6, .verifyAndConsume (sampleGrant approvalType 4 ["alice"] 1) sampleBinding 2)]

end AgentSphere.Approval
