import AgentSphere.PolicyPep.Authorized

/-!
# Whether an issued authorization is accepted

The enforcement point and `ExecutionAuthorization::verify` have their own lists of checks. The
context of a request and everything the enforcement point computes meet those of `verify`; what is
copied from the request, the tool and the decision is not checked before it is signed. An issued
authorization is accepted as long as it lasts exactly if that part is in order.
-/

namespace AgentSphere.PolicyPep

open Concurrency

def profileInForce (profile? : Obligation → Option String) (obligations : List Obligation)
    (ofTool : String) : String :=
  ((obligations.filterMap profile?).getLast?).getD ofTool

def sandboxProfile? : Obligation → Option String
  | .useSandboxProfile profile => some profile
  | _ => none

def networkProfile? : Obligation → Option String
  | .useNetworkProfile profile => some profile
  | _ => none

def credentialProfile? : Obligation → Option String
  | .useCredentialProfile profile => some profile
  | _ => none

/-- What the enforcement point copies into an authorization without looking at it is in order:
identifiers and digests have their form, texts their length, and every limit in force leaves
something. -/
structure Verifiable {Bytes : Type} (pep : PolicyEnforcementPoint Bytes)
    (request : EnforcementRequest) (decision : PolicyDecision) : Prop where
  tenantId : isUuid request.action.environment.tenantId = true
  taskId : isUuid request.action.taskId = true
  stepId : isUuid request.action.stepId = true
  agentInstanceId : isUuid request.action.agent.agentInstanceId = true
  approvalId : request.approval.all (fun grant => isUuid grant.approvalId) = true
  snapshotHash : isDigest request.tool.snapshotHash = true
  implementationDigest : validImplementationDigest request.tool.implementation.digest = true
  bundleDigest : isDigest pep.activePolicyBundleDigest = true
  toolId : boundedNonempty request.tool.toolId 256 = true
  toolVersion : boundedNonempty request.tool.toolVersion 256 = true
  executorProfile : boundedNonempty request.tool.executorProfile 256 = true
  operation : boundedNonempty request.action.intent.operation 256 = true
  locator : boundedNonempty request.action.resource.locator 2048 = true
  deployment : boundedNonempty request.action.environment.deployment 128 = true
  decisionId : boundedNonempty decision.decisionId 256 = true
  policyVersion : boundedNonempty decision.policyVersion 256 = true
  resourceVersion : boundedNonempty request.action.resourceVersion 256 = true
  sandboxProfile : boundedNonempty
    (profileInForce sandboxProfile? decision.obligations request.tool.executorProfile) 256 = true
  networkProfile : boundedNonempty
    (profileInForce networkProfile? decision.obligations request.tool.networkProfileRef) 256 = true
  credentialProfile : boundedNonempty
    (profileInForce credentialProfile? decision.obligations request.tool.credentialProfile)
      256 = true
  someTime : 0 < request.tool.limits.timeoutMs ∧
    ∀ ms, .maxExecutionTime ms ∈ decision.obligations → 0 < ms
  boundedTime : request.tool.limits.timeoutMs ≤ 86400000 ∨
    ∃ ms, .maxExecutionTime ms ∈ decision.obligations ∧ ms ≤ 86400000
  someBytes : 0 < request.tool.limits.maxResultBytes ∧
    ∀ bytes, .maxResultBytes bytes ∈ decision.obligations → 0 < bytes
  boundedBytes : request.tool.limits.maxResultBytes ≤ 1073741824 ∨
    ∃ bytes, .maxResultBytes bytes ∈ decision.obligations ∧ bytes ≤ 1073741824

structure PolicyEnforcementPoint.Sound {Bytes : Type} (pep : PolicyEnforcementPoint Bytes) :
    Prop where
  digest : ∀ bytes, isDigest (pep.canon.sha256Hex bytes) = true
  evidence : ∀ bytes, isDigest (pep.authorizations.sha256Hex bytes) = true
  signature : ∀ bytes, pep.authorizations.verifies bytes (pep.authorizations.sign bytes) = true

namespace ObligationConfig

theorem getD_getLast?_cons {α : Type} (a b : α) (l : List α) :
    ((a :: l).getLast?).getD b = (l.getLast?).getD a := by
  simp [List.getLast?_cons]

theorem profile_foldl {profile? : Obligation → Option String} {profile : ObligationConfig → String}
    (hstep : ∀ config obligation,
      profile (config.apply obligation) = (profile? obligation).getD (profile config))
    (obligations : List Obligation) (config : ObligationConfig) :
    profile (obligations.foldl apply config) =
      profileInForce profile? obligations (profile config) := by
  unfold profileInForce
  induction obligations generalizing config with
  | nil => rfl
  | cons obligation obligations ih =>
    rw [List.foldl_cons, ih, hstep, List.filterMap_cons]
    cases profile? obligation with
    | none => rfl
    | some set => exact (getD_getLast?_cons _ _ _).symm

theorem sandboxProfile_eq (obligations : List Obligation) (tool : ResolvedToolSnapshot) :
    (fromObligations obligations tool).sandboxProfile =
      profileInForce sandboxProfile? obligations tool.executorProfile :=
  profile_foldl (fun config obligation => by cases obligation <;> rfl) obligations (ofTool tool)

theorem networkProfile_eq (obligations : List Obligation) (tool : ResolvedToolSnapshot) :
    (fromObligations obligations tool).networkProfile =
      profileInForce networkProfile? obligations tool.networkProfileRef :=
  profile_foldl (fun config obligation => by cases obligation <;> rfl) obligations (ofTool tool)

theorem credentialProfile_eq (obligations : List Obligation) (tool : ResolvedToolSnapshot) :
    (fromObligations obligations tool).credentialProfile =
      profileInForce credentialProfile? obligations tool.credentialProfile :=
  profile_foldl (fun config obligation => by cases obligation <;> rfl) obligations (ofTool tool)

end ObligationConfig

section Acceptance

variable {Bytes : Type} {pep : PolicyEnforcementPoint Bytes} {request : EnforcementRequest}
  {entries : List PolicyEntry} {decision : PolicyDecision}
  {authorization : ExecutionAuthorization} {receipts : List EnforcementReceipt}

theorem documentHash_isDigest (hsound : pep.Sound) {document : PolicyDocument}
    {error : PolicyError} {digest : String} (h : pep.documentHash document error = .ok digest) :
    isDigest digest = true := by
  unfold PolicyEnforcementPoint.documentHash at h
  split at h
  · obtain rfl := Except.ok.inj h
    exact hsound.digest _
  · cases h

theorem hash_isDigest (hsound : pep.Sound) {action : CanonicalAction} {digest : ActionHash}
    (h : ActionIr.hash pep.canon action = .ok digest) : isDigest digest = true := by
  obtain ⟨bytes, -, hdigest⟩ := except_bind_eq_ok.mp h
  obtain rfl := Except.ok.inj hdigest
  exact hsound.digest bytes

theorem authorizationContext_ok {context : ExecutionAuthorizationContext} {key : String}
    (h : PolicyEnforcementPoint.authorizationContext request = .ok (context, key)) :
    request.executionContext = some context ∧ request.idempotencyKey = some key ∧
      PolicyEnforcementPoint.approvalBound request context = true := by
  unfold PolicyEnforcementPoint.authorizationContext at h
  cases hcontext : request.executionContext with
  | none =>
    rw [hcontext] at h
    cases h
  | some found =>
    cases hkey : request.idempotencyKey.filter (!·.isEmpty) with
    | none =>
      rw [hcontext, hkey] at h
      cases h
    | some text =>
      rw [hcontext, hkey] at h
      simp only [except_bind_eq_ok, require_eq_ok] at h
      obtain ⟨-, hbound, heq⟩ := h
      obtain ⟨rfl, rfl⟩ := Prod.mk.inj (Except.ok.inj heq)
      exact ⟨rfl, (Option.filter_eq_some_iff.mp hkey).1, hbound⟩

theorem expiryOf_ok {expiresAt : DateTime}
    (h : PolicyEnforcementPoint.expiryOf request = .ok expiresAt) :
    expiresAt = request.now + 60000000000 := by
  unfold PolicyEnforcementPoint.expiryOf at h
  split at h
  · rename_i result hadd
    obtain rfl := Except.ok.inj h
    exact DateTime.add_eq_some hadd
  · cases h

theorem approvalsOk_iff {context : ExecutionAuthorizationContext}
    (hcontext : PolicyEnforcementPoint.contextOk context = true)
    (hbound : PolicyEnforcementPoint.approvalBound request context = true)
    {a : ExecutionAuthorization} (hids : a.approvalIds = request.approval.toList.map (·.approvalId))
    (href : a.approvalConsumptionRef = context.approvalConsumptionRef)
    (hdigest : a.approvalReceiptDigest = context.approvalReceiptDigest) :
    a.approvalsOk = true ↔ request.approval.all (fun grant => isUuid grant.approvalId) = true := by
  simp only [PolicyEnforcementPoint.contextOk, Bool.and_eq_true] at hcontext
  obtain ⟨⟨-, hdigestOk⟩, hrefOk⟩ := hcontext
  simp only [PolicyEnforcementPoint.approvalBound, Bool.and_eq_true, decide_eq_true_eq] at hbound
  obtain ⟨hpresent, hboth⟩ := hbound
  unfold ExecutionAuthorization.approvalsOk
  rw [hids, href, hdigest, hdigestOk, hrefOk, ← hpresent, hboth]
  cases request.approval with
  | none => simp
  | some grant => simp

theorem limitsOk_iff (request : EnforcementRequest) (decision : PolicyDecision)
    {a : ExecutionAuthorization}
    (htime : a.maxExecutionMs =
      (decision.obligations.filterMap executionLimit).foldl min request.tool.limits.timeoutMs)
    (hbytes : a.maxResultBytes =
      (decision.obligations.filterMap resultLimit).foldl min request.tool.limits.maxResultBytes) :
    a.limitsOk = true ↔
      (0 < request.tool.limits.timeoutMs ∧
        ∀ ms, .maxExecutionTime ms ∈ decision.obligations → 0 < ms) ∧
      (request.tool.limits.timeoutMs ≤ 86400000 ∨
        ∃ ms, .maxExecutionTime ms ∈ decision.obligations ∧ ms ≤ 86400000) ∧
      (0 < request.tool.limits.maxResultBytes ∧
        ∀ bytes, .maxResultBytes bytes ∈ decision.obligations → 0 < bytes) ∧
      (request.tool.limits.maxResultBytes ≤ 1073741824 ∨
        ∃ bytes, .maxResultBytes bytes ∈ decision.obligations ∧ bytes ≤ 1073741824) := by
  have hsplit : a.limitsOk = true ↔ 1 ≤ a.maxExecutionMs ∧ a.maxExecutionMs ≤ 86400000 ∧
      1 ≤ a.maxResultBytes ∧ a.maxResultBytes ≤ 1073741824 := by
    simp only [ExecutionAuthorization.limitsOk, Bool.and_eq_true, decide_eq_true_eq]
    omega
  rw [hsplit, htime, hbytes, le_foldl_min, le_foldl_min, foldl_min_le, foldl_min_le]
  simp only [mem_executionLimits, mem_resultLimits]
  rfl

theorem Passage.scopeOk_iff (h : Passage pep request entries decision authorization receipts)
    (hsound : pep.Sound) (hissuer : boundedNonempty pep.issuer 256 = true)
    (hkeyId : boundedNonempty pep.keyId 256 = true) :
    authorization.scopeOk = true ↔ Verifiable pep request decision := by
  obtain ⟨i⟩ := h.issuance
  have hscope : authorization.scopeOk = i.draft.scopeOk :=
    have hsame : authorization.scopeOk = authorization.withoutEvidence.scopeOk := rfl
    hsame.trans (congrArg ExecutionAuthorization.scopeOk i.withoutEvidence_eq)
  have hguarded := guarded_of_ok h.requestGuard
  obtain ⟨hcontext, hkey, hbound⟩ := authorizationContext_ok i.context_eq
  have hcontextOk : PolicyEnforcementPoint.contextOk i.context = true := by
    simpa [hcontext] using hguarded.context
  have hkeyOk : validIdempotencyKey i.idempotencyKey = true := by
    simpa [hkey] using hguarded.idempotencyKey h.stage
  obtain ⟨inputHash, hinput, hvalid⟩ := h.valid
  obtain ⟨-, hinputEq, -, -, hbundle⟩ := require_eq_ok.mp hvalid
  have hinputOk : isDigest decision.inputHash = true :=
    hinputEq ▸ documentHash_isDigest hsound hinput
  have happrovals := approvalsOk_iff hcontextOk hbound (a := i.draft) rfl rfl rfl
  have hlimits := limitsOk_iff request decision (a := i.draft)
    (congrArg (·.maxExecutionMs) i.withoutEvidence_eq ▸ i.maxExecutionMs_eq)
    (congrArg (·.maxResultBytes) i.withoutEvidence_eq ▸ i.maxResultBytes_eq)
  simp only [PolicyEnforcementPoint.contextOk, Bool.and_eq_true, decide_eq_true_eq] at hcontextOk
  obtain ⟨⟨⟨⟨⟨⟨⟨⟨⟨⟨hexecutionId, heventId⟩, heventDigest⟩, hfence⟩, hpreapproval⟩, htarget⟩,
    hcredential⟩, hclaims⟩, haudience⟩, -⟩, -⟩ := hcontextOk
  have hconstants : i.draft.constantsOk = true := by
    simp [ExecutionAuthorization.constantsOk, Issuance.draft,
      PolicyEnforcementPoint.draftAuthorization, haudience]
  have hidentifiers : i.draft.identifiersOk = true ↔
      isUuid request.action.environment.tenantId = true ∧ isUuid request.action.taskId = true ∧
      isUuid request.action.stepId = true ∧
      isUuid request.action.agent.agentInstanceId = true := by
    simp [ExecutionAuthorization.identifiersOk, Issuance.draft,
      PolicyEnforcementPoint.draftAuthorization, isUuid_toStr, hexecutionId, heventId,
      hcredential, and_assoc]
  have hdigests : i.draft.digestsOk = true ↔
      isDigest request.tool.snapshotHash = true ∧ isDigest pep.activePolicyBundleDigest = true ∧
      validImplementationDigest request.tool.implementation.digest = true := by
    simp [ExecutionAuthorization.digestsOk, Issuance.draft,
      PolicyEnforcementPoint.draftAuthorization, heventDigest, hfence, hpreapproval, hclaims,
      hash_isDigest hsound hguarded.actionHash, documentHash_isDigest hsound i.arguments_eq,
      documentHash_isDigest hsound i.decision_eq, hinputOk, hbundle, and_assoc]
  have htexts : i.draft.textsOk = true ↔
      boundedNonempty request.tool.toolId 256 = true ∧
      boundedNonempty request.tool.toolVersion 256 = true ∧
      boundedNonempty request.tool.executorProfile 256 = true ∧
      boundedNonempty request.action.intent.operation 256 = true ∧
      boundedNonempty request.action.resource.locator 2048 = true ∧
      boundedNonempty request.action.environment.deployment 128 = true ∧
      boundedNonempty decision.decisionId 256 = true ∧
      boundedNonempty decision.policyVersion 256 = true ∧
      boundedNonempty request.action.resourceVersion 256 = true ∧
      boundedNonempty (profileInForce sandboxProfile? decision.obligations
        request.tool.executorProfile) 256 = true ∧
      boundedNonempty (profileInForce networkProfile? decision.obligations
        request.tool.networkProfileRef) 256 = true ∧
      boundedNonempty (profileInForce credentialProfile? decision.obligations
        request.tool.credentialProfile) 256 = true := by
    simp [ExecutionAuthorization.textsOk, Issuance.draft,
      PolicyEnforcementPoint.draftAuthorization, htarget, hkeyOk, hissuer, hkeyId,
      ObligationConfig.sandboxProfile_eq, ObligationConfig.networkProfile_eq,
      ObligationConfig.credentialProfile_eq, and_assoc]
  have hwindow : i.draft.windowOk = true := by
    have hexpiry := expiryOf_ok i.expiry_eq
    simp only [ExecutionAuthorization.windowOk, Issuance.draft,
      PolicyEnforcementPoint.draftAuthorization, hexpiry, Bool.and_eq_true, decide_eq_true_eq]
    constructor
    · exact Int.lt_add_of_pos_right _ (by decide)
    · have hlength : ∀ t : Int, t + 60000000000 - t ≤ 300 * 1000000000 := by
        intro t
        omega
      exact hlength request.now
  rw [hscope, ExecutionAuthorization.scopeOk]
  simp only [Bool.and_eq_true, hconstants, hidentifiers, hdigests, happrovals, htexts, hlimits,
    hwindow, true_and, and_true]
  constructor
  · rintro ⟨⟨⟨⟨⟨htenant, htask, hstep, hagent⟩, hsnapshot, hactive, himplementation⟩, happroval⟩,
      htool, hversion, hexecutor, hoperation, hlocator, hdeployment, hdecision, hpolicy, hresource,
      hsandbox, hnetwork, hprofile⟩, htime, htimeBound, hbytes, hbytesBound⟩
    exact ⟨htenant, htask, hstep, hagent, happroval, hsnapshot, himplementation, hactive, htool,
      hversion, hexecutor, hoperation, hlocator, hdeployment, hdecision, hpolicy, hresource,
      hsandbox, hnetwork, hprofile, htime, htimeBound, hbytes, hbytesBound⟩
  · intro v
    exact ⟨⟨⟨⟨⟨v.tenantId, v.taskId, v.stepId, v.agentInstanceId⟩, v.snapshotHash, v.bundleDigest,
      v.implementationDigest⟩, v.approvalId⟩, v.toolId, v.toolVersion, v.executorProfile,
      v.operation, v.locator, v.deployment, v.decisionId, v.policyVersion, v.resourceVersion,
      v.sandboxProfile, v.networkProfile, v.credentialProfile⟩, v.someTime, v.boundedTime,
      v.someBytes, v.boundedBytes⟩

theorem Passage.signed (h : Passage pep request entries decision authorization receipts)
    (hsound : pep.Sound) :
    (∃ bytes, pep.authorizations.jcs { authorization with signature := "" } = some bytes ∧
      pep.authorizations.verifies bytes authorization.signature = true) ∧
    (isDigest authorization.authorizationEvidenceDigest = true ∧
      authorization.authorizationEvidenceRef =
        ExecutionAuthorization.evidenceRefFor authorization.tenantId authorization.authorizationId
          authorization.authorizationEvidenceDigest) ∧
    ∃ evidence, pep.authorizations.jcs authorization.withoutEvidence = some evidence ∧
      pep.authorizations.sha256Hex evidence = authorization.authorizationEvidenceDigest := by
  obtain ⟨i⟩ := h.issuance
  obtain ⟨evidence, bytes, hevidence, hbytes, hbound, hsigned⟩ := i.authorization_eq
  have hunsigned : { authorization with signature := "" } = i.bound := by
    have hclear := congrArg (fun a : ExecutionAuthorization => { a with signature := "" }) hsigned
    have hempty := congrArg (fun a : ExecutionAuthorization => { a with signature := "" }) hbound
    exact hclear.trans (hempty.trans hbound.symm)
  have hdigest : authorization.authorizationEvidenceDigest =
      pep.authorizations.sha256Hex evidence := by
    have hsame := congrArg (·.authorizationEvidenceDigest) hsigned
    exact hsame.trans (congrArg (·.authorizationEvidenceDigest) hbound)
  have hreference := (congrArg (·.authorizationEvidenceRef) hsigned).trans
    (congrArg (·.authorizationEvidenceRef) hbound)
  have hsignature := congrArg (·.signature) hsigned
  refine ⟨⟨bytes, hunsigned ▸ hbytes, ?_⟩, ⟨?_, ?_⟩, evidence, ?_, hdigest.symm⟩
  · rw [show authorization.signature = pep.authorizations.sign bytes from hsignature]
    exact hsound.signature bytes
  · rw [hdigest]
    exact hsound.evidence evidence
  · have hdraft : authorization.authorizationEvidenceRef =
        ExecutionAuthorization.evidenceRefFor i.draft.tenantId i.draft.authorizationId
          (pep.authorizations.sha256Hex evidence) := hreference
    rw [hdraft, hdigest, ← i.withoutEvidence_eq]
    rfl
  · rw [i.withoutEvidence_eq]
    exact hevidence

/-- **An issued authorization is accepted as long as it lasts exactly if what was copied into it
is in order.** -/
theorem issued_accepted_iff (hsound : pep.Sound)
    (hissuer : boundedNonempty pep.issuer 256 = true)
    (hkeyId : boundedNonempty pep.keyId 256 = true)
    (hrun : Resumes (pep.enforce request).run entries
      (.done (.ok (.executionAuthorized decision authorization receipts)))) :
    (∀ t, authorization.issuedAt ≤ t → t < authorization.expiresAt →
      authorization.verify pep.authorizations t = .ok ()) ↔
    Verifiable pep request decision := by
  have h := enforce_passage hrun
  rw [← h.scopeOk_iff hsound hissuer hkeyId]
  constructor
  · intro haccepted
    obtain ⟨i⟩ := h.issuance
    have hexpiry : authorization.expiresAt = authorization.issuedAt + 60000000000 := by
      have hissued : authorization.issuedAt = request.now :=
        congrArg (·.issuedAt) i.withoutEvidence_eq
      have hexpires : authorization.expiresAt = i.expiresAt :=
        congrArg (·.expiresAt) i.withoutEvidence_eq
      rw [hissued, hexpires]
      exact expiryOf_ok i.expiry_eq
    have hlasts : authorization.issuedAt < authorization.expiresAt := by
      rw [hexpiry]
      exact Int.lt_add_of_pos_right _ (by decide)
    have hfirst := haccepted authorization.issuedAt (Int.le_refl _) hlasts
    exact (ExecutionAuthorization.verify_eq_ok.mp hfirst).1
  · intro hscope t hfrom huntil
    obtain ⟨hsignature, hreference, hevidence⟩ := h.signed hsound
    exact ExecutionAuthorization.verify_eq_ok.mpr
      ⟨hscope, ⟨hfrom, huntil⟩, hsignature, hreference, hevidence⟩

end Acceptance

theorem samplePep_sound : samplePep.Sound where
  digest bytes := by
    show isDigest (if bytes = "action" then sampleHash 'a' else sampleHash 'd') = true
    split
    · exact isDigest_sampleHash (by decide) (by decide)
    · exact isDigest_sampleHash (by decide) (by decide)
  evidence _ := isDigest_sampleHash (by decide) (by decide)
  signature _ := by simp [samplePep]

theorem sampleRequest_verifiable {decision : PolicyDecision}
    (hid : decision.decisionId = "decision-1") (hversion : decision.policyVersion = "p1")
    (hplain : decision.obligations = []) :
    Verifiable samplePep (sampleRequest none) decision where
  tenantId := by decide +kernel
  taskId := by decide +kernel
  stepId := by decide +kernel
  agentInstanceId := by decide +kernel
  approvalId := rfl
  snapshotHash := isDigest_sampleHash (by decide) (by decide)
  implementationDigest := by decide +kernel
  bundleDigest := isDigest_sampleHash (by decide) (by decide)
  toolId := by decide +kernel
  toolVersion := by decide +kernel
  executorProfile := by decide +kernel
  operation := by decide +kernel
  locator := by decide +kernel
  deployment := by decide +kernel
  decisionId := by rw [hid]; decide +kernel
  policyVersion := by rw [hversion]; decide +kernel
  resourceVersion := by decide +kernel
  sandboxProfile := by rw [hplain]; decide +kernel
  networkProfile := by rw [hplain]; decide +kernel
  credentialProfile := by rw [hplain]; decide +kernel
  someTime := by simp [hplain, sampleRequest, sampleTool]
  boundedTime := .inl (by decide)
  someBytes := by simp [hplain, sampleRequest, sampleTool]
  boundedBytes := .inl (by decide)

/-- The sample request is in order, and so is its authorization. -/
theorem issued_accepted_iff_plain :
    ∃ entries decision authorization receipts,
      Resumes (samplePep.enforce (sampleRequest none)).run entries
        (.done (.ok (.executionAuthorized decision authorization receipts))) ∧
      ((∀ t, authorization.issuedAt ≤ t → t < authorization.expiresAt →
        authorization.verify samplePep.authorizations t = .ok ()) ↔
      Verifiable samplePep (sampleRequest none) decision) ∧
      authorization.verify samplePep.authorizations authorization.issuedAt = .ok () := by
  have hissued : (sampleAuthorized none []).any (fun (decision, authorization) =>
      decision.decisionId = "decision-1" && decision.policyVersion = "p1" &&
        decision.obligations.isEmpty && authorization.issuedAt < authorization.expiresAt) =
      true := by
    decide +kernel
  obtain ⟨⟨decision, authorization⟩, h, hholds⟩ := (Option.any_eq_true _ _).mp hissued
  simp only [Bool.and_eq_true, decide_eq_true_eq, List.isEmpty_iff] at hholds
  obtain ⟨⟨⟨hid, hversion⟩, hplain⟩, hlasts⟩ := hholds
  obtain ⟨entries, receipts, -, hrun⟩ := sampleAuthorized_runs h
  have hiff := issued_accepted_iff samplePep_sound (by decide) (by decide) hrun
  exact ⟨entries, decision, authorization, receipts, hrun, hiff,
    hiff.mpr (sampleRequest_verifiable hid hversion hplain) _ (Int.le_refl _) hlasts⟩

/-- An obligation that leaves no time: the authorization is issued and signed, and no executor
accepts it. -/
theorem zero_limit_issued :
    ∃ entries decision authorization receipts,
      Resumes (samplePep.enforce (sampleRequest none)).run entries
        (.done (.ok (.executionAuthorized decision authorization receipts))) ∧
      .maxExecutionTime 0 ∈ decision.obligations ∧
      authorization.issuedAt < authorization.expiresAt ∧
      authorization.verify samplePep.authorizations authorization.issuedAt =
        .error .scopeExceeded := by
  have hissued : (sampleAuthorized none [.maxExecutionTime 0]).any (fun (decision, authorization) =>
      (decision.obligations.filterMap executionLimit).contains 0 &&
        authorization.issuedAt < authorization.expiresAt) = true := by
    decide +kernel
  obtain ⟨⟨decision, authorization⟩, h, hholds⟩ := (Option.any_eq_true _ _).mp hissued
  obtain ⟨entries, receipts, -, hrun⟩ := sampleAuthorized_runs h
  simp only [Bool.and_eq_true, List.contains_iff_mem, mem_executionLimits, decide_eq_true_eq]
    at hholds
  obtain ⟨hzero, hlasts⟩ := hholds
  have hscope : ¬authorization.scopeOk = true := fun hscope =>
    absurd (((enforce_passage hrun).scopeOk_iff samplePep_sound (by decide) (by decide)).mp
      hscope).someTime.2 fun hsome => Nat.lt_irrefl 0 (hsome 0 hzero)
  exact ⟨entries, decision, authorization, receipts, hrun, hzero, hlasts,
    ExecutionAuthorization.verify_of_not_scopeOk hscope⟩

end AgentSphere.PolicyPep
