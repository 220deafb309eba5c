import AgentSphere.PolicyPep.Verifiable
import AgentSphere.ToolProxy.Service

/-!
# Whether a grant of the enforcement point is executable

`ProxyAuthorizationVerifier::verify` compares an authorization with the request that presents it.
The enforcement point writes into the authorization what its obligations make of the tool; the
verifier compares with the tool as it is. Of the profiles an obligation may set, only that of the
credential is among what is compared, so that a grant passes exactly if the credential profile in
force is the tool's own.
-/

namespace AgentSphere.ToolProxy

open Concurrency PolicyPep

-- The verifier

structure ProxyAuthorizationVerifier (Bytes VerifyingKey : Type) where
  keys : BTreeMap String (String × VerifyingKey)
  codec : VerifyingKey → AuthorizationCodec Bytes
  /-- `serde_jcs::to_vec` of the arguments. -/
  jcs : StrictJsonObject → Option Bytes
  sha256Hex : Bytes → String
  asBytes : String → Bytes

def validateRequestEnvelope (request : AuthorizedToolRequest) : Except ProxyError Unit :=
  require (isStorableToken request.traceId = true ∧ request.arguments.length ≤ 1024 ∧
    isCanonicalUuid request.ledgerEventId = true ∧ isDigest request.ledgerEventDigest = true ∧
    request.authorization.maxResultBytes ≠ 0 ∧ request.tool.limits.maxResultBytes ≠ 0)
    .authorizationInvalid

def scopeAgrees (a : ExecutionAuthorization) (request : AuthorizedToolRequest) : Bool :=
  a.tenantId = request.tenantId && a.ledgerExecutionId = request.ledgerExecutionId &&
    a.ledgerEventId = request.ledgerEventId &&
    a.ledgerEventDigest = request.ledgerEventDigest && a.fenceDigest = request.fenceDigest &&
    a.idempotencyKey = request.idempotencyKey && a.toolId = request.tool.toolId &&
    a.toolVersion = request.tool.toolVersion && a.toolSnapshotHash = request.tool.snapshotHash &&
    a.implementationDigest = request.tool.implementation.digest &&
    a.executorProfile = request.tool.executorProfile &&
    a.credentialProfile = request.tool.credentialProfile && a.operation = request.operation &&
    a.resource = request.resource && a.resourceVersion = request.resourceVersion &&
    a.targetProfile = request.targetProfile && a.environment = request.environment

def claimsAgree (claims : WorkloadCredentialClaims) (a : ExecutionAuthorization)
    (request : AuthorizedToolRequest) : Bool :=
  claims.credentialId = a.workloadCredentialId && claims.tenantId = request.tenantId &&
    claims.agentInstanceId = a.agentInstanceId && claims.taskId = a.taskId &&
    claims.stepId = a.stepId && claims.actionHash = a.actionHash &&
    claims.policyDecisionId = a.policyDecisionId && claims.toolId = a.toolId &&
    claims.credentialProfile = a.credentialProfile && claims.operation = request.operation &&
    claims.resource = request.resource && claims.targetProfile = request.targetProfile &&
    claims.audience = a.workloadCredentialAudience &&
    claims.revocationEpoch = a.workloadCredentialRevocationEpoch &&
    a.workloadCredentialAudience = "tool-proxy"

namespace ProxyAuthorizationVerifier

variable {Bytes VerifyingKey : Type} (self : ProxyAuthorizationVerifier Bytes VerifyingKey)

def receiptAgrees (request : AuthorizedToolRequest) : Bool :=
  request.credentialBindingReceipt.credentialHandleSha256 =
      self.sha256Hex (self.asBytes request.workloadCredential) &&
    request.credentialBindingReceipt.claimsDigest =
      request.authorization.workloadCredentialClaimsDigest &&
    claimsAgree request.credentialBindingReceipt.claims request.authorization request

/-- The field comparison of `verify`; it answers the key the authorization is verified with. -/
def compareFields (request : AuthorizedToolRequest) : Except ProxyError VerifyingKey :=
  match self.keys[request.authorization.keyId]?, self.jcs request.arguments with
  | some (issuer, key), some arguments => do
    require (issuer = request.authorization.issuer ∧
      scopeAgrees request.authorization request = true ∧ self.receiptAgrees request = true ∧
      request.authorization.canonicalArgumentsHash = self.sha256Hex arguments)
      ProxyError.authorizationInvalid
    pure key
  | _, _ => .error .authorizationInvalid

def verify (request : AuthorizedToolRequest) (now : DateTime) : Except ProxyError Unit := do
  validateRequestEnvelope request
  let key ← self.compareFields request
  (request.authorization.verify (self.codec key) now).mapError
    fun _ => ProxyError.authorizationInvalid

end ProxyAuthorizationVerifier

structure Trusts {Bytes VerifyingKey : Type}
    (verifier : ProxyAuthorizationVerifier Bytes VerifyingKey)
    (pep : PolicyEnforcementPoint Bytes) : Prop where
  key : ∃ key, verifier.keys[pep.keyId]? = some (pep.issuer, key)
  jcs : ∀ arguments, verifier.jcs arguments = pep.jcs (.arguments arguments)
  sha256Hex : verifier.sha256Hex = pep.canon.sha256Hex

-- Presenting a grant

structure ClaimsOf (claims : WorkloadCredentialClaims) (a : ExecutionAuthorization) : Prop where
  credentialId : claims.credentialId = a.workloadCredentialId
  tenantId : claims.tenantId = a.tenantId
  agentInstanceId : claims.agentInstanceId = a.agentInstanceId
  taskId : claims.taskId = a.taskId
  stepId : claims.stepId = a.stepId
  actionHash : claims.actionHash = a.actionHash
  policyDecisionId : claims.policyDecisionId = a.policyDecisionId
  toolId : claims.toolId = a.toolId
  credentialProfile : claims.credentialProfile = a.credentialProfile
  operation : claims.operation = a.operation
  resource : claims.resource = a.resource
  targetProfile : claims.targetProfile = a.targetProfile
  audience : claims.audience = "tool-proxy"
  revocationEpoch : claims.revocationEpoch = a.workloadCredentialRevocationEpoch

structure Repeats (request : EnforcementRequest) (context : ExecutionAuthorizationContext)
    (authorization : ExecutionAuthorization) (toolRequest : AuthorizedToolRequest) : Prop where
  enforced : request.executionContext = some context
  presented : toolRequest.authorization = authorization
  tool : toolRequest.tool = request.tool
  tenantId : toolRequest.tenantId = request.action.environment.tenantId
  ledgerExecutionId : toolRequest.ledgerExecutionId = context.ledgerExecutionId
  ledgerEventId : toolRequest.ledgerEventId = context.ledgerEventId
  ledgerEventDigest : toolRequest.ledgerEventDigest = context.ledgerEventDigest
  fenceDigest : toolRequest.fenceDigest = context.fenceDigest
  idempotencyKey : request.idempotencyKey = some toolRequest.idempotencyKey
  operation : toolRequest.operation = request.action.intent.operation
  resource : toolRequest.resource = request.action.resource.locator
  resourceVersion : toolRequest.resourceVersion = request.action.resourceVersion
  targetProfile : toolRequest.targetProfile = context.targetProfile
  environment : toolRequest.environment = request.action.environment.deployment
  arguments : toolRequest.arguments = request.action.arguments
  claims : ClaimsOf toolRequest.credentialBindingReceipt.claims authorization
  claimsDigest : toolRequest.credentialBindingReceipt.claimsDigest =
    authorization.workloadCredentialClaimsDigest

section Agreement

variable {Bytes VerifyingKey : Type} {verifier : ProxyAuthorizationVerifier Bytes VerifyingKey}
  {pep : PolicyEnforcementPoint Bytes} {request : EnforcementRequest}
  {entries : List PolicyEntry} {decision : PolicyDecision}
  {context : ExecutionAuthorizationContext} {authorization : ExecutionAuthorization}
  {receipts : List EnforcementReceipt} {toolRequest : AuthorizedToolRequest}

theorem ClaimsOf.claimsAgree {claims : WorkloadCredentialClaims} {a : ExecutionAuthorization}
    (h : ClaimsOf claims a) (haudience : a.workloadCredentialAudience = "tool-proxy")
    (htenant : a.tenantId = toolRequest.tenantId) (hoperation : a.operation = toolRequest.operation)
    (hresource : a.resource = toolRequest.resource)
    (htarget : a.targetProfile = toolRequest.targetProfile) :
    ToolProxy.claimsAgree claims a toolRequest = true := by
  simp [ToolProxy.claimsAgree, h.credentialId, h.tenantId, h.agentInstanceId, h.taskId, h.stepId,
    h.actionHash, h.policyDecisionId, h.toolId, h.credentialProfile, h.operation, h.resource,
    h.targetProfile, h.audience, h.revocationEpoch, haudience, htenant, hoperation, hresource,
    htarget]

theorem compareFields_eq_ok {key found : VerifyingKey} {issuer : String} {arguments : Bytes}
    (hkey : verifier.keys[toolRequest.authorization.keyId]? = some (issuer, key))
    (hjcs : verifier.jcs toolRequest.arguments = some arguments) :
    verifier.compareFields toolRequest = .ok found ↔
      (issuer = toolRequest.authorization.issuer ∧
        scopeAgrees toolRequest.authorization toolRequest = true ∧
        verifier.receiptAgrees toolRequest = true ∧
        toolRequest.authorization.canonicalArgumentsHash = verifier.sha256Hex arguments) ∧
      key = found := by
  unfold ProxyAuthorizationVerifier.compareFields
  rw [hkey, hjcs]
  simp only [except_bind_eq_ok, require_eq_ok]
  constructor
  · rintro ⟨-, hagrees, hfound⟩
    exact ⟨hagrees, Except.ok.inj hfound⟩
  · rintro ⟨hagrees, rfl⟩
    exact ⟨(), hagrees, rfl⟩

/-- The scope of an issued authorization agrees with a request that repeats it, but for the
credential profile. -/
theorem scopeAgrees_iff (i : Issuance pep request decision authorization)
    (h : Repeats request context authorization toolRequest) :
    scopeAgrees toolRequest.authorization toolRequest = true ↔
      profileInForce credentialProfile? decision.obligations request.tool.credentialProfile =
        request.tool.credentialProfile := by
  obtain ⟨hcontext, hkey, -⟩ := authorizationContext_ok i.context_eq
  have hsame : i.context = context := Option.some.inj (hcontext.symm.trans h.enforced)
  have hkeys : i.idempotencyKey = toolRequest.idempotencyKey :=
    Option.some.inj (hkey.symm.trans h.idempotencyKey)
  have hscope : scopeAgrees toolRequest.authorization toolRequest =
      scopeAgrees i.draft toolRequest := by
    rw [h.presented, ← i.withoutEvidence_eq]
    rfl
  rw [hscope]
  simp [scopeAgrees, Issuance.draft, PolicyEnforcementPoint.draftAuthorization, h.tool, h.tenantId,
    h.ledgerExecutionId, h.ledgerEventId, h.ledgerEventDigest, h.fenceDigest, hkeys, hsame,
    h.operation, h.resource, h.resourceVersion, h.targetProfile, h.environment,
    ObligationConfig.credentialProfile_eq]

theorem receiptAgrees_of_issued (h : Passage pep request entries decision authorization receipts)
    (hrepeats : Repeats request context authorization toolRequest)
    (hhandle : toolRequest.credentialBindingReceipt.credentialHandleSha256 =
      verifier.sha256Hex (verifier.asBytes toolRequest.workloadCredential)) :
    verifier.receiptAgrees toolRequest = true := by
  obtain ⟨i⟩ := h.issuance
  obtain ⟨hcontext, -, -⟩ := authorizationContext_ok i.context_eq
  have hsame : i.context = context := Option.some.inj (hcontext.symm.trans hrepeats.enforced)
  have hcontextOk : PolicyEnforcementPoint.contextOk i.context = true := by
    simpa [hcontext] using (guarded_of_ok h.requestGuard).context
  have haudience : authorization.workloadCredentialAudience = "tool-proxy" := by
    rw [show authorization.workloadCredentialAudience = i.context.workloadCredentialAudience from
      congrArg (·.workloadCredentialAudience) i.withoutEvidence_eq]
    simp only [PolicyEnforcementPoint.contextOk, Bool.and_eq_true, decide_eq_true_eq] at hcontextOk
    exact hcontextOk.1.1.2
  have hclaims : claimsAgree toolRequest.credentialBindingReceipt.claims authorization toolRequest =
      true := hrepeats.claims.claimsAgree haudience
    (congrArg (·.tenantId) i.withoutEvidence_eq |>.trans hrepeats.tenantId.symm)
    (congrArg (·.operation) i.withoutEvidence_eq |>.trans hrepeats.operation.symm)
    (congrArg (·.resource) i.withoutEvidence_eq |>.trans hrepeats.resource.symm)
    ((congrArg (·.targetProfile) i.withoutEvidence_eq).trans
      ((congrArg (·.targetProfile) hsame).trans hrepeats.targetProfile.symm))
  simp [ProxyAuthorizationVerifier.receiptAgrees, hrepeats.presented, hhandle,
    hrepeats.claimsDigest, hclaims]

theorem documentHash_eq_ok {document : PolicyDocument} {error : PolicyError} {digest : String} :
    pep.documentHash document error = .ok digest ↔
      ∃ bytes, pep.jcs document = some bytes ∧ pep.canon.sha256Hex bytes = digest := by
  unfold PolicyEnforcementPoint.documentHash
  cases pep.jcs document with
  | none => simp
  | some bytes => simp

/-- The profile in force is the tool's own exactly if the last obligation that sets one, if there
is any, sets that one. -/
theorem profileInForce_eq_iff {profile? : Obligation → Option String}
    {obligations : List Obligation} {ofTool : String} :
    profileInForce profile? obligations ofTool = ofTool ↔
      ∀ profile ∈ (obligations.filterMap profile?).getLast?, profile = ofTool := by
  unfold profileInForce
  cases (obligations.filterMap profile?).getLast? with
  | none => simp
  | some profile => simp

/-- **A grant is executable exactly if the last obligation that sets a credential profile, if there
is any, sets the tool's own.** -/
theorem grant_executable_iff (htrusts : Trusts verifier pep)
    (hrun : Resumes (pep.enforce request).run entries
      (.done (.ok (.executionAuthorized decision authorization receipts))))
    (hrepeats : Repeats request context authorization toolRequest)
    (hhandle : toolRequest.credentialBindingReceipt.credentialHandleSha256 =
      verifier.sha256Hex (verifier.asBytes toolRequest.workloadCredential)) :
    (∃ key, verifier.compareFields toolRequest = .ok key) ↔
      ∀ profile ∈ (decision.obligations.filterMap credentialProfile?).getLast?,
        profile = request.tool.credentialProfile := by
  have h := enforce_passage hrun
  obtain ⟨i⟩ := h.issuance
  obtain ⟨key, hkey⟩ := htrusts.key
  have hkeyId : toolRequest.authorization.keyId = pep.keyId := by
    rw [hrepeats.presented]
    exact congrArg (·.keyId) i.withoutEvidence_eq
  have hissuer : toolRequest.authorization.issuer = pep.issuer := by
    rw [hrepeats.presented]
    exact congrArg (·.issuer) i.withoutEvidence_eq
  have harguments : toolRequest.authorization.canonicalArgumentsHash = i.argumentsHash := by
    rw [hrepeats.presented]
    exact congrArg (·.canonicalArgumentsHash) i.withoutEvidence_eq
  obtain ⟨arguments, hjcs, hhash⟩ := documentHash_eq_ok.mp i.arguments_eq
  have hjcs' : verifier.jcs toolRequest.arguments = some arguments := by
    rw [htrusts.jcs, hrepeats.arguments, hjcs]
  have hknown : verifier.keys[toolRequest.authorization.keyId]? = some (pep.issuer, key) := by
    rw [hkeyId, hkey]
  rw [← profileInForce_eq_iff, ← scopeAgrees_iff i hrepeats]
  constructor
  · rintro ⟨found, hfound⟩
    exact ((compareFields_eq_ok hknown hjcs').mp hfound).1.2.1
  · intro hscope
    refine ⟨key, (compareFields_eq_ok hknown hjcs').mpr ⟨⟨hissuer.symm, hscope, ?_, ?_⟩, rfl⟩⟩
    · exact receiptAgrees_of_issued h hrepeats hhandle
    · rw [harguments, ← hhash, htrusts.sha256Hex]

end Agreement

-- A sample grant

def sampleVerifier : ProxyAuthorizationVerifier String Unit where
  keys := (∅ : BTreeMap String (String × Unit)).insert "key-1" ("pep", ())
  codec _ := samplePep.authorizations
  jcs arguments := samplePep.jcs (.arguments arguments)
  sha256Hex := samplePep.canon.sha256Hex
  asBytes := id

theorem sampleVerifier_trusts : Trusts sampleVerifier samplePep where
  key := ⟨(), by simp [sampleVerifier, samplePep]⟩
  jcs _ := rfl
  sha256Hex := rfl

def grantedRequest (context : ExecutionAuthorizationContext) (a : ExecutionAuthorization) :
    AuthorizedToolRequest where
  authorization := a
  tool := sampleTool
  tenantId := sampleAction.environment.tenantId
  ledgerExecutionId := context.ledgerExecutionId
  ledgerEventId := context.ledgerEventId
  ledgerEventDigest := context.ledgerEventDigest
  fenceDigest := context.fenceDigest
  idempotencyKey := "task:1"
  workloadCredential := "handle"
  credentialBindingReceipt :=
    { schemaVersion := "", credentialHandleSha256 := samplePep.canon.sha256Hex "handle"
      claims :=
        { schemaVersion := "", idempotencyKey := "task:1", credentialId := a.workloadCredentialId
          tenantId := a.tenantId, agentInstanceId := a.agentInstanceId, taskId := a.taskId
          stepId := a.stepId, actionHash := a.actionHash, policyDecisionId := a.policyDecisionId
          toolId := a.toolId, credentialProfile := a.credentialProfile, operation := a.operation
          resource := a.resource, targetProfile := a.targetProfile, audience := "tool-proxy"
          revocationEpoch := a.workloadCredentialRevocationEpoch, issuedAt := 0, expiresAt := 0
          maxUses := 1 }
      claimsDigest := a.workloadCredentialClaimsDigest, issuer := "", keyId := "", keyUsage := ""
      signature := "" }
  operation := sampleAction.intent.operation
  resource := sampleAction.resource.locator
  resourceVersion := sampleAction.resourceVersion
  targetProfile := context.targetProfile
  environment := sampleAction.environment.deployment
  arguments := sampleAction.arguments
  traceId := "trace-1"

theorem grantedRequest_repeats {context : ExecutionAuthorizationContext}
    {a : ExecutionAuthorization} (h : (sampleRequest none).executionContext = some context) :
    Repeats (sampleRequest none) context a (grantedRequest context a) := by
  refine ⟨h, rfl, rfl, rfl, rfl, rfl, rfl, rfl, rfl, rfl, rfl, rfl, rfl, rfl, rfl, ?_, rfl⟩
  exact ⟨rfl, rfl, rfl, rfl, rfl, rfl, rfl, rfl, rfl, rfl, rfl, rfl, rfl, rfl⟩

/-- Without obligations the grant is executable. -/
theorem grant_executable_iff_plain :
    ∃ entries decision context authorization receipts,
      Resumes (samplePep.enforce (sampleRequest none)).run entries
        (.done (.ok (.executionAuthorized decision authorization receipts))) ∧
      ((∃ key, sampleVerifier.compareFields (grantedRequest context authorization) = .ok key) ↔
        ∀ profile ∈ (decision.obligations.filterMap credentialProfile?).getLast?,
          profile = (sampleRequest none).tool.credentialProfile) ∧
      ∃ key, sampleVerifier.compareFields (grantedRequest context authorization) = .ok key := by
  have hissued : (sampleAuthorized none []).any (fun (decision, _) =>
      (decision.obligations.filterMap credentialProfile?).isEmpty) = true := by
    decide +kernel
  obtain ⟨⟨decision, authorization⟩, h, hnone⟩ := (Option.any_eq_true _ _).mp hissued
  obtain ⟨entries, receipts, -, hrun⟩ := sampleAuthorized_runs h
  obtain ⟨context, hcontext⟩ : ∃ context, (sampleRequest none).executionContext = some context :=
    ⟨_, rfl⟩
  have hiff := grant_executable_iff sampleVerifier_trusts hrun (grantedRequest_repeats hcontext)
    rfl
  refine ⟨entries, decision, context, authorization, receipts, hrun, hiff, hiff.mpr ?_⟩
  rw [List.isEmpty_iff.mp hnone]
  simp

/-- A decision that asks for another credential profile: the grant is issued with it, and a request
that repeats everything fails the comparison. -/
theorem profile_override_refused :
    ∃ entries decision context authorization receipts toolRequest,
      Resumes (samplePep.enforce (sampleRequest none)).run entries
        (.done (.ok (.executionAuthorized decision authorization receipts))) ∧
      Repeats (sampleRequest none) context authorization toolRequest ∧
      toolRequest.credentialBindingReceipt.credentialHandleSha256 =
        sampleVerifier.sha256Hex (sampleVerifier.asBytes toolRequest.workloadCredential) ∧
      Trusts sampleVerifier samplePep ∧
      sampleVerifier.compareFields toolRequest = .error .authorizationInvalid := by
  have hissued : (sampleAuthorized none [.useCredentialProfile "other"]).any
      (fun (_, authorization) => authorization.credentialProfile = "other" &&
        authorization.keyId = "key-1") = true := by
    decide +kernel
  obtain ⟨⟨decision, authorization⟩, h, hother⟩ := (Option.any_eq_true _ _).mp hissued
  simp only [Bool.and_eq_true, decide_eq_true_eq] at hother
  obtain ⟨entries, receipts, -, hrun⟩ := sampleAuthorized_runs h
  obtain ⟨context, hcontext⟩ : ∃ context, (sampleRequest none).executionContext = some context :=
    ⟨_, rfl⟩
  have hrefused : sampleVerifier.compareFields (grantedRequest context authorization) =
      .error .authorizationInvalid := by
    have hkey : sampleVerifier.keys[authorization.keyId]? = some ("pep", ()) := by
      rw [hother.2]
      exact sampleVerifier_trusts.key.choose_spec
    have hscope : scopeAgrees authorization (grantedRequest context authorization) = false := by
      have hdiffers : authorization.credentialProfile ≠ sampleTool.credentialProfile := by
        rw [hother.1]
        decide
      have htool : (grantedRequest context authorization).tool = sampleTool := rfl
      simp [scopeAgrees, htool, hdiffers]
    have hauthorization : (grantedRequest context authorization).authorization =
        authorization := rfl
    have hjcs : sampleVerifier.jcs (grantedRequest context authorization).arguments =
        some "arguments" := rfl
    unfold ProxyAuthorizationVerifier.compareFields
    rw [hauthorization, hkey, hjcs]
    simp only [hscope, Bool.false_eq_true, false_and, and_false]
    rfl
  exact ⟨entries, decision, context, authorization, receipts, _, hrun,
    grantedRequest_repeats hcontext, rfl, sampleVerifier_trusts, hrefused⟩

end AgentSphere.ToolProxy
