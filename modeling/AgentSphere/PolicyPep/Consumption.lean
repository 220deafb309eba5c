import AgentSphere.Lib.Ports
import AgentSphere.PolicyPep.Authorized

/-!
# When an approval is used up

The approval kernel is asked before the kind of the decision is looked at, before the obligations
are enforced and before the authorization is made out. An attempt that fails in one of these has
used the approval up all the same; an attempt that fails earlier, or in the kernel itself, has
not.

The runs considered are those of one request alone: the set of used approvals changes by its own
calls only.
-/

namespace AgentSphere.PolicyPep

open Concurrency

/-- The set of used approvals along the calls of a request. The policy decision point answers as
`pdp` does, the registry and the runtime anything. -/
def kernel (pdp : PolicyInput → EnforcementStage → Except PolicyError PolicyDecision) :
    Monitor PolicyCall PolicyCall.Answer (BTreeSet String) where
  Allowed _ _ := True
  Possible used call answer :=
    match call, answer with
    | .evaluate input stage, answer => answer = pdp input stage
    | .verifyAndConsume grant request policyVersion, answer =>
      answer = (MinimalApprovalKernel.verifyAndConsume used grant request policyVersion).1
    | _, _ => True
  next used call _ :=
    match call with
    | .verifyAndConsume grant request policyVersion =>
      (MinimalApprovalKernel.verifyAndConsume used grant request policyVersion).2
    | _ => used

variable {Bytes : Type} {pep : PolicyEnforcementPoint Bytes} {request : EnforcementRequest}
  {pdp : PolicyInput → EnforcementStage → Except PolicyError PolicyDecision}
  {used used' : BTreeSet String}

-- The kernel

theorem verifyAndConsume_error {grant : MinimalApprovalGrant} {policyVersion : PolicyVersion}
    {e : PolicyError}
    (h : (MinimalApprovalKernel.verifyAndConsume used grant request policyVersion).1 = .error e) :
    (MinimalApprovalKernel.verifyAndConsume used grant request policyVersion).2 = used := by
  unfold MinimalApprovalKernel.verifyAndConsume at h ⊢
  split_ifs at h ⊢
  · rfl
  · rfl

/-- A grant that passes matches the request and is used up if it is for a single use, which was
not made before. -/
theorem verifyAndConsume_ok {grant : MinimalApprovalGrant} {policyVersion : PolicyVersion}
    (h : (MinimalApprovalKernel.verifyAndConsume used grant request policyVersion).1 = .ok ()) :
    MinimalApprovalKernel.matchesRequest grant request policyVersion = true ∧
      ((MinimalApprovalKernel.verifyAndConsume used grant request policyVersion).2 = used ∨
        (grant.singleUse = true ∧ grant.approvalId ∉ used ∧
          (MinimalApprovalKernel.verifyAndConsume used grant request policyVersion).2 =
            used.insert grant.approvalId)) := by
  unfold MinimalApprovalKernel.verifyAndConsume at h ⊢
  split_ifs at h ⊢ with hmatch hsingle hused
  · exact ⟨by simpa using hmatch, .inr ⟨hsingle, by simpa using hused, rfl⟩⟩
  · exact ⟨by simpa using hmatch, .inl rfl⟩

theorem runs_port {α : Type} {call : PolicyCall} {read : call.Answer → Except PolicyError α}
    {r : Except PolicyError α} (h : (kernel pdp).Runs (port call read).run used r used') :
    ∃ answer, (kernel pdp).Possible used call answer ∧ r = read answer ∧
      used' = (kernel pdp).next used call answer := by
  cases h with
  | perform answer possible rest =>
    cases rest with
    | done => exact ⟨answer, possible, rfl, rfl⟩

theorem consumeApproval_error {decision : PolicyDecision} {e : PolicyError}
    (h : (kernel pdp).Runs (PolicyEnforcementPoint.consumeApproval request decision).run used
      (.error e) used') : used' = used := by
  unfold PolicyEnforcementPoint.consumeApproval at h
  split_ifs at h with hrequired
  · cases hgrant : request.approval with
    | none =>
      rw [hgrant] at h
      cases h
      rfl
    | some grant =>
      rw [hgrant] at h
      obtain ⟨answer, hanswer, hread, rfl⟩ := runs_port h
      have hrefused : answer = .error e := hread.symm
      exact verifyAndConsume_error (hanswer.symm.trans hrefused)
  · cases h

theorem consumeApproval_ok_used {decision : PolicyDecision}
    (h : (kernel pdp).Runs (PolicyEnforcementPoint.consumeApproval request decision).run used
      (.ok ()) used') :
    used' = used ∨ approvalRequired request.tool decision = true ∧
      ∃ grant, request.approval = some grant ∧
        MinimalApprovalKernel.matchesRequest grant request decision.policyVersion = true ∧
        grant.singleUse = true ∧ grant.approvalId ∉ used ∧
        used' = used.insert grant.approvalId := by
  unfold PolicyEnforcementPoint.consumeApproval at h
  split_ifs at h with hrequired
  · cases hgrant : request.approval with
    | none =>
      rw [hgrant] at h
      cases h
    | some grant =>
      rw [hgrant] at h
      obtain ⟨answer, hanswer, hread, rfl⟩ := runs_port h
      have hpassed : answer = .ok () := hread.symm
      obtain ⟨hmatch, hsame | ⟨hsingle, hunused, hinserted⟩⟩ :=
        verifyAndConsume_ok (hanswer.symm.trans hpassed)
      · exact .inl hsame
      · exact .inr ⟨hrequired, grant, rfl, hmatch, hsingle, hunused, hinserted⟩
  · cases h
    exact .inl rfl

-- Parts that do not ask the kernel

def Elsewhere (call : PolicyCall) : Prop := isKernel call = false

theorem elsewhere_next {call : PolicyCall} (h : Elsewhere call) (used : BTreeSet String)
    (answer : call.Answer) : (kernel pdp).next used call answer = used := by
  cases call with
  | verifyAndConsume => cases h
  | _ => rfl

theorem unchanged_of_elsewhere {α : Type} {x : Enforcing α} {r : Except PolicyError α}
    (hx : Only Elsewhere x) (h : (kernel pdp).Runs x.run used r used') : used' = used :=
  hx.unchanged (fun m _ a hcall => elsewhere_next hcall m a) h

theorem port_elsewhere {α : Type} {call : PolicyCall} (h : Elsewhere call)
    (read : call.Answer → Except PolicyError α) : Only Elsewhere (port call read) :=
  only_port h read

theorem localHardGuard_elsewhere : Only Elsewhere (pep.localHardGuard request) :=
  only_bind only_ofExcept fun _ => only_bind (port_elsewhere (by rfl) _) fun _ =>
    only_bind (port_elsewhere (by rfl) _) fun _ => only_ofExcept

theorem enforceObligations_elsewhere (obligations : List Obligation) :
    Only Elsewhere (pep.enforceObligations request obligations) := by
  induction obligations with
  | nil => exact only_pure
  | cons obligation obligations ih =>
    refine only_bind ?_ fun _ => only_bind ih fun _ => only_pure
    unfold PolicyEnforcementPoint.enforceObligation
    split_ifs
    · exact only_bind only_ensure fun _ => port_elsewhere (by rfl) _
    · cases unmet request obligation with
      | none => exact only_pure
      | some error => exact only_throw

theorem issueExecutionAuthorization_elsewhere (decision : PolicyDecision) :
    Only Elsewhere (pep.issueExecutionAuthorization request decision) :=
  only_bind only_ofExcept fun _ => only_bind only_ofExcept fun _ =>
    only_bind (only_ask rfl) fun _ => only_bind only_ofExcept fun _ =>
      only_bind only_ofExcept fun _ => only_bind only_ofExcept fun _ => only_ofExcept

theorem enforceStage_elsewhere {decision : PolicyDecision}
    (hstage : request.stage ≠ .preExecution) :
    Only Elsewhere (pep.enforceStage request decision) := by
  unfold PolicyEnforcementPoint.enforceStage
  cases hcase : request.stage with
  | preApproval =>
    dsimp only
    split_ifs
    · exact only_pure
    · exact only_bind (enforceObligations_elsewhere _) fun _ => only_pure
  | continuous =>
    refine only_bind (enforceObligations_elsewhere _) fun _ => ?_
    split
    · exact only_pure
    · exact only_pure
    · exact only_pure
    · exact only_throw
  | preExecution => exact absurd hcase hstage

-- Failed attempts

structure UsedUp (pep : PolicyEnforcementPoint Bytes) (request : EnforcementRequest)
    (pdp : PolicyInput → EnforcementStage → Except PolicyError PolicyDecision)
    (used used' : BTreeSet String) (e : PolicyError) (decision : PolicyDecision)
    (grant : MinimalApprovalGrant) : Prop where
  stage : request.stage = .preExecution
  decided : pdp request.policyInput request.stage = .ok decision
  required : approvalRequired request.tool decision = true
  given : request.approval = some grant
  matched : MinimalApprovalKernel.matchesRequest grant request decision.policyVersion = true
  singleUse : grant.singleUse = true
  unused : grant.approvalId ∉ used
  inserted : used' = used.insert grant.approvalId
  failed : (e = .failClosed ∧ decision.decision ≠ .allow ∧ decision.decision ≠ .requireApproval) ∨
    (kernel pdp).Runs (pep.enforceObligations request decision.obligations).run used'
      (.error e) used' ∨
    (kernel pdp).Runs (pep.issueExecutionAuthorization request decision).run used' (.error e) used'

theorem execution_failed {decision : PolicyDecision} {e : PolicyError}
    (h : (kernel pdp).Runs (do
      Attempt.ensure (decision.decision = .allow ∨ decision.decision = .requireApproval)
        PolicyError.failClosed
      let receipts ← pep.enforceObligations request decision.obligations
      let authorization ← pep.issueExecutionAuthorization request decision
      pure (EnforcementOutcome.executionAuthorized decision authorization receipts) :
        Enforcing EnforcementOutcome).run used (.error e) used') :
    used' = used ∧
      ((e = .failClosed ∧ decision.decision ≠ .allow ∧ decision.decision ≠ .requireApproval) ∨
        (kernel pdp).Runs (pep.enforceObligations request decision.obligations).run used
          (.error e) used ∨
        (kernel pdp).Runs (pep.issueExecutionAuthorization request decision).run used (.error e)
          used) := by
  obtain ⟨e', he, hensure⟩ | ⟨_, m₁, hensure, hthen⟩ := h.of_attempt_bind
  · cases he
    obtain rfl := unchanged_of_elsewhere only_ensure hensure
    unfold Attempt.ensure at hensure
    split_ifs at hensure with hpermitted
    · cases hensure
    · cases hensure
      exact ⟨rfl, .inl ⟨rfl, not_or.mp hpermitted⟩⟩
  obtain rfl := unchanged_of_elsewhere only_ensure hensure
  obtain ⟨e', he, hobligations⟩ | ⟨receipts, m₂, hobligations, hissuing⟩ := hthen.of_attempt_bind
  · cases he
    obtain rfl := unchanged_of_elsewhere (enforceObligations_elsewhere _) hobligations
    exact ⟨rfl, .inr (.inl hobligations)⟩
  obtain rfl := unchanged_of_elsewhere (enforceObligations_elsewhere _) hobligations
  obtain ⟨e', he, hissue⟩ | ⟨authorization, m₃, hissue, hlast⟩ := hissuing.of_attempt_bind
  · cases he
    obtain rfl := unchanged_of_elsewhere (issueExecutionAuthorization_elsewhere _) hissue
    exact ⟨rfl, .inr (.inr hissue)⟩
  · cases hlast

/-- **A failed attempt** leaves the used approvals as they are, or it has used up an approval that
was required before something after it failed. -/
theorem failed_enforcement_used {e : PolicyError}
    (h : (kernel pdp).Runs (pep.enforce request).run used (.error e) used') :
    used' = used ∨ ∃ decision grant, UsedUp pep request pdp used used' e decision grant := by
  unfold PolicyEnforcementPoint.enforce at h
  obtain ⟨_, _, hguard⟩ | ⟨_, m₁, hguard, hinputs⟩ := h.of_attempt_bind
  · exact .inl (unchanged_of_elsewhere localHardGuard_elsewhere hguard)
  obtain rfl := unchanged_of_elsewhere localHardGuard_elsewhere hguard
  obtain ⟨_, _, hinput⟩ | ⟨inputHash, m₂, hinput, hdeciding⟩ := hinputs.of_attempt_bind
  · exact .inl (unchanged_of_elsewhere only_ofExcept hinput)
  obtain rfl := unchanged_of_elsewhere only_ofExcept hinput
  obtain ⟨_, _, hevaluate⟩ | ⟨decision, m₃, hevaluate, hchecking⟩ := hdeciding.of_attempt_bind
  · exact .inl (unchanged_of_elsewhere (port_elsewhere (by rfl) _) hevaluate)
  obtain rfl := unchanged_of_elsewhere (port_elsewhere (by rfl) _) hevaluate
  have hdecided : pdp request.policyInput request.stage = .ok decision := by
    obtain ⟨answer, hanswer, hread, -⟩ := runs_port hevaluate
    exact hanswer.symm.trans hread.symm
  obtain ⟨_, _, hvalid⟩ | ⟨_, m₄, hvalid, hrest⟩ := hchecking.of_attempt_bind
  · exact .inl (unchanged_of_elsewhere only_ofExcept hvalid)
  obtain rfl := unchanged_of_elsewhere only_ofExcept hvalid
  split_ifs at hrest with hdeny
  · cases hrest
  by_cases hstage : request.stage = .preExecution
  · unfold PolicyEnforcementPoint.enforceStage at hrest
    rw [hstage] at hrest
    dsimp only at hrest
    unfold PolicyEnforcementPoint.enforceExecution at hrest
    obtain ⟨_, _, hconsume⟩ | ⟨_, m₅, hconsume, hlast⟩ := hrest.of_attempt_bind
    · exact .inl (consumeApproval_error hconsume)
    obtain ⟨rfl, hfailed⟩ := execution_failed hlast
    obtain hsame | ⟨hrequired, grant, hgrant, hmatch, hsingle, hunused, hinserted⟩ :=
      consumeApproval_ok_used hconsume
    · exact .inl hsame
    · exact .inr ⟨decision, grant, hstage, hdecided, hrequired, hgrant, hmatch, hsingle, hunused,
        hinserted, hfailed⟩
  · exact .inl (unchanged_of_elsewhere (enforceStage_elsewhere hstage) hrest)

def sampleGrant : MinimalApprovalGrant :=
  { sampleStaleGrant with
    taskId := sampleAction.taskId, stepId := sampleAction.stepId, actionHash := sampleHash 'a'
    resourceVersion := "", policyVersion := "p1", expiresAt := 60000000000 }

def samplePdp (_ : PolicyInput) (_ : EnforcementStage) : Except PolicyError PolicyDecision :=
  .ok (sampleDecision [.requireApproval false, .emitSecurityAlert "CODE"])

def sampleAnswers (used : BTreeSet String) : (call : PolicyCall) → call.Answer
  | .evaluate input stage => samplePdp input stage
  | .isRevoked .. => some false
  | .validateArguments .. => true
  | .verifyAndConsume grant request policyVersion =>
    (MinimalApprovalKernel.verifyAndConsume used grant request policyVersion).1
  | .handle .. => .error .obligationFailed
  | .newUuid => sampleUuid 12

theorem sampleAnswers_possible (used : BTreeSet String) (call : PolicyCall) :
    (kernel samplePdp).Possible used call (sampleAnswers used call) := by
  cases call with
  | evaluate => rfl
  | verifyAndConsume => rfl
  | _ => trivial

def refused : Except PolicyError EnforcementOutcome → Option PolicyError
  | .error e => some e
  | .ok _ => none

def samplePlay (approval : Option MinimalApprovalGrant) :
    Except PolicyError EnforcementOutcome × BTreeSet String :=
  (kernel samplePdp).play sampleAnswers (samplePep.enforce (sampleRequest approval)).run ∅

theorem samplePlay_runs {approval : Option MinimalApprovalGrant} {e : PolicyError}
    (h : refused (samplePlay approval).1 = some e) :
    (kernel samplePdp).Runs (samplePep.enforce (sampleRequest approval)).run ∅ (.error e)
      (samplePlay approval).2 := by
  have hruns := Monitor.runs_play sampleAnswers sampleAnswers_possible
    (samplePep.enforce (sampleRequest approval)).run ∅
  have herror : (samplePlay approval).1 = .error e := by
    unfold refused at h
    split at h
    · next heq => rw [heq, Option.some.inj h]
    · cases h
  rwa [samplePlay, ← herror]

/-- Without an approval nothing is used up. -/
theorem failed_enforcement_used_unapproved :
    ∃ used', (kernel samplePdp).Runs (samplePep.enforce (sampleRequest none)).run ∅
      (.error .approvalRequired) used' ∧ used' = ∅ := by
  have hrefused : refused (samplePlay none).1 = some .approvalRequired := by decide +kernel
  have hrun := samplePlay_runs hrefused
  refine ⟨_, hrun, ?_⟩
  obtain hsame | ⟨decision, grant, hused⟩ := failed_enforcement_used hrun
  · exact hsame
  · cases hused.given

/-- The alert fails, and the approval is used up without an authorization. -/
theorem approval_used_without_authorization :
    ∃ used', (kernel samplePdp).Runs (samplePep.enforce (sampleRequest (some sampleGrant))).run ∅
      (.error .obligationFailed) used' ∧ used' ≠ ∅ := by
  have hrefused : refused (samplePlay (some sampleGrant)).1 = some .obligationFailed := by
    decide +kernel
  have hrun := samplePlay_runs hrefused
  refine ⟨_, hrun, fun hempty => ?_⟩
  have hmem : (samplePlay (some sampleGrant)).2.contains sampleGrant.approvalId = true := by
    decide +kernel
  rw [hempty] at hmem
  cases hmem

end AgentSphere.PolicyPep
