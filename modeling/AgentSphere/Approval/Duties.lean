import AgentSphere.Approval.Lifecycle
import Mathlib.Data.List.Dedup

/-!
# Separation of duties

A grant names different approvers, and each of them was eligible when it decided. The review of
an emergency is not held apart from its approval: `audit_emergency` does not ask whether the
reviewer has approved the case.
-/

namespace AgentSphere.Approval

open Concurrency

variable {service : EnterpriseApprovalService} {cfg : ApprovalConfig}

structure MayDecide (request : ApprovalRequest) (policy : ApprovalPolicy)
    (approver : ApproverIdentity) (now : DateTime) : Prop where
  tenant : approver.tenantId = request.tenantId
  active : approver.active = true
  strongAuth : approver.strongAuth = true
  delegation : ∀ delegatedUntil, approver.delegatedUntil = some delegatedUntil →
    now < delegatedUntil
  role : policy.requiredRoles = [] ∨ ∃ role ∈ policy.requiredRoles, role ∈ approver.roles
  requester : policy.prohibitRequester = true → approver.subject ≠ request.requesterSubject
  agentOwner : policy.prohibitAgentOwner = true → approver.subject ≠ request.agentOwnerSubject
  resourceOwner : policy.requireResourceOwner = true → request.resource ∈ approver.ownedResources

theorem validate_ok {case : ApprovalCase} {approver : ApproverIdentity} {now : DateTime}
    (h : SoDEngine.validate case approver now = .ok ()) :
    MayDecide case.request case.policy approver now := by
  unfold SoDEngine.validate at h
  split at h
  · cases h
  · next hpassed =>
    simp only [not_or, not_and, Decidable.not_not, Bool.not_eq_true', Bool.not_eq_true,
      Bool.not_eq_false] at hpassed
    obtain ⟨htenant, hactive, hstrong, hdelegated, hrole, hrequester, howner, hresource⟩ := hpassed
    refine ⟨htenant, hactive, hstrong, ?_, ?_, hrequester, howner, ?_⟩
    · intro delegatedUntil huntil
      rw [huntil] at hdelegated
      exact Int.not_le.mp (by simpa using hdelegated)
    · by_cases hany : case.policy.requiredRoles = []
      · exact .inl hany
      · refine .inr ?_
        simpa using hrole (by simpa using hany)
    · intro hrequired
      simpa using hresource hrequired

/-- The decision to approve a case that is recorded for a subject: when the approval was called,
the approver was in the directory and could decide the case. -/
def Entitled (trace : List ApprovalEvent) (caseId : String) (request : ApprovalRequest)
    (policy : ApprovalPolicy) (subject : String) : Prop :=
  ∃ event ∈ trace, ∃ called reason now approver,
    event.call = .approve caseId called reason now ∧ approver.subject = subject ∧
    InSomeDirectory event (fun directory =>
      directory.resolve request.tenantId called = .ok approver) ∧
    MayDecide request policy approver now

def ApprovalCase.longest (case : ApprovalCase) : Int :=
  (min case.request.requestedTtlSeconds case.policy.maximumTtlSeconds : Nat) * 1000000000

structure DutiesSeparated (cfg : ApprovalConfig) : Prop where
  grants : ∀ grant ∈ issued cfg.trace, ∃ case : ApprovalCase,
    cfg.shared.state.cases[grant.caseId]? = some case ∧ Backs case grant ∧
    case.policy.minimumApprovers ≤ grant.approverSubjects.length ∧
    grant.approverSubjects.Nodup ∧
    (∀ subject ∈ grant.approverSubjects,
      Entitled cfg.trace grant.caseId case.request case.policy subject) ∧
    grant.expiresAt ≤ case.createdAt + case.longest
  reviews : ∀ (caseId : String) (case : ApprovalCase),
    cfg.shared.state.cases[caseId]? = some case → case.policy.approvalType = .emergency →
    ∀ decision ∈ case.decisions, decision.decision = .postReviewed →
      decision.approverSubject ∉ case.approvers

structure ReviewsOwn (directory : ApproverDirectory) (state : ApprovalState)
    (caseId subject : String) (now : DateTime) (case : ApprovalCase)
    (reviewer : ApproverIdentity) : Prop where
  found : state.cases[caseId]? = some case
  emergency : case.policy.approvalType = .emergency
  awaits : case.status = .postReviewRequired
  due : case.postReviewDueAt.any (· < now) = false
  eligible : eligible directory case subject now = .ok reviewer
  own : reviewer.subject ∈ case.approvers

def reviewsOwn (event : ApprovalEvent) : Prop :=
  ∃ caseId subject reason now, event.call = .auditEmergency caseId subject reason now ∧
    InSomeDirectory event fun directory => ∃ case reviewer,
      ReviewsOwn directory event.before.state caseId subject now case reviewer

-- What a case keeps

theorem approvers_decide_approve (case : ApprovalCase) (approver : ApproverIdentity)
    (reason : String) (now : DateTime) :
    (case.decide approver .approve reason now).approvers =
      case.approvers ++ [approver.subject] := by
  simp [ApprovalCase.decide, ApprovalCase.approvers]

theorem approvers_decide_other (case : ApprovalCase) (approver : ApproverIdentity)
    {kind : DecisionKind} (hkind : kind ≠ .approve) (reason : String) (now : DateTime) :
    (case.decide approver kind reason now).approvers = case.approvers := by
  simp [ApprovalCase.decide, ApprovalCase.approvers, hkind]

theorem mem_approvers {case : ApprovalCase} {subject : String} :
    subject ∈ case.approvers ↔
      ∃ decision ∈ case.decisions, decision.decision = .approve ∧
        decision.approverSubject = subject := by
  simp [ApprovalCase.approvers, and_assoc]

theorem Approves.not_mem_approvers {directory : ApproverDirectory} {case : ApprovalCase}
    {subject : String} {approver : ApproverIdentity} {now : DateTime}
    (h : Approves directory case subject approver now) : approver.subject ∉ case.approvers := by
  intro hmem
  obtain ⟨decision, hdecision, -, hsubject⟩ := mem_approvers.mp hmem
  exact h.first decision hdecision hsubject

structure Dutiful (case : ApprovalCase) : Prop where
  lifetime : case.expiresAt ≤ case.createdAt + case.longest
  distinct : case.approvers.Nodup
  apart : ∀ decision ∈ case.decisions, decision.decision = .postReviewed →
    decision.approverSubject ∉ case.approvers

theorem Opens.dutiful {ambient : Ambient} {request : ApprovalRequest} {policy : ApprovalPolicy}
    {now : DateTime} {case : ApprovalCase} (h : Opens ambient request policy now case) :
    Dutiful case where
  lifetime := by
    obtain ⟨lifetime, hlifetime, hexpires⟩ := h.lifetime
    have hle := asI64_le (min request.requestedTtlSeconds policy.maximumTtlSeconds)
    rw [hexpires, h.createdAt, ApprovalCase.longest, h.request_eq, h.policy_eq,
      durationSeconds_eq_some hlifetime]
    exact Int.add_le_add_left (Int.mul_le_mul_of_nonneg_right hle (by decide)) now
  distinct := by simp [ApprovalCase.approvers, h.decisions]
  apart := by simp [h.decisions]

theorem Dutiful.decide_approve {directory : ApproverDirectory} {case : ApprovalCase}
    {subject : String} {approver : ApproverIdentity} {now : DateTime} (reason : String)
    (h : Dutiful case) (happroves : Approves directory case subject approver now) :
    Dutiful (case.decide approver .approve reason now) where
  lifetime := h.lifetime
  distinct := by
    rw [approvers_decide_approve]
    refine List.nodup_append.mpr ⟨h.distinct, by simp, ?_⟩
    rintro other hother _ hnew rfl
    obtain rfl := List.mem_singleton.mp hnew
    exact happroves.not_mem_approvers hother
  apart := by
    intro decision hdecision hreview
    rw [approvers_decide_approve]
    rcases List.mem_append.mp hdecision with hold | hnew
    · simp only [List.mem_append, List.mem_singleton, not_or]
      exact ⟨h.apart decision hold hreview, happroves.first decision hold⟩
    · obtain rfl := List.mem_singleton.mp hnew
      cases hreview

theorem Dutiful.decide_other {case : ApprovalCase} (approver : ApproverIdentity)
    (kind : DecisionKind) (hkind : kind ≠ .approve) (reason : String) (now : DateTime)
    (h : Dutiful case) (hother : kind = .postReviewed → approver.subject ∉ case.approvers) :
    Dutiful (case.decide approver kind reason now) where
  lifetime := h.lifetime
  distinct := by
    rw [approvers_decide_other case approver hkind]
    exact h.distinct
  apart := by
    intro decision hdecision hreview
    rw [approvers_decide_other case approver hkind]
    rcases List.mem_append.mp hdecision with hold | hnew
    · exact h.apart decision hold hreview
    · obtain rfl := List.mem_singleton.mp hnew
      exact hother hreview

theorem Dutiful.withStatus {case : ApprovalCase} (h : Dutiful case) (status : ApprovalStatus) :
    Dutiful { case with status := status } :=
  ⟨h.lifetime, h.distinct, h.apart⟩

theorem Amends.dutiful {directory : ApproverDirectory} {state : ApprovalState} {caseId : String}
    {case case' : ApprovalCase} {operation : Operation}
    (h : Amends directory caseId case operation case') (hfound : state.cases[caseId]? = some case)
    (hdutiful : Dutiful case)
    (hnot : ∀ subject reason now reviewer,
      operation = .auditEmergency caseId subject reason now →
      ¬ ReviewsOwn directory state caseId subject now case reviewer) : Dutiful case' := by
  cases h with
  | expired | revoked | consumed => exact hdutiful.withStatus _
  | approved subject reason now approver approves => exact hdutiful.decide_approve reason approves
  | granted subject reason now approver approves =>
    exact (hdutiful.decide_approve reason approves).withStatus _
  | rejected subject reason now approver eligible =>
    exact (hdutiful.decide_other approver .reject (by decide) reason now nofun).withStatus _
  | reviewed subject reason now reviewer emergency awaits due eligible =>
    refine (hdutiful.decide_other reviewer .postReviewed (by decide) reason now
      fun _ hown => ?_).withStatus _
    exact hnot subject reason now reviewer rfl ⟨hfound, emergency, awaits, due, eligible, hown⟩

theorem Amends.approvers_subset {directory : ApproverDirectory} {caseId : String}
    {case case' : ApprovalCase} {operation : Operation}
    (h : Amends directory caseId case operation case') {subject : String}
    (hmem : subject ∈ case.approvers) : subject ∈ case'.approvers := by
  obtain ⟨decision, hdecision, hkind, hsubject⟩ := mem_approvers.mp hmem
  refine mem_approvers.mpr ⟨decision, ?_, hkind, hsubject⟩
  cases h with
  | expired | revoked | consumed => exact hdecision
  | _ => exact List.mem_append_left _ hdecision

theorem Amends.new_approver {directory : ApproverDirectory} {caseId : String}
    {case case' : ApprovalCase} {operation : Operation}
    (h : Amends directory caseId case operation case') {subject : String}
    (hmem : subject ∈ case'.approvers) :
    subject ∈ case.approvers ∨ ∃ called reason now approver,
      operation = .approve caseId called reason now ∧ approver.subject = subject ∧
      eligible directory case called now = .ok approver := by
  cases h with
  | expired | revoked | consumed => exact .inl hmem
  | approved called reason now approver approves =>
    rw [approvers_decide_approve, List.mem_append, List.mem_singleton] at hmem
    exact hmem.imp_right fun hsubject =>
      ⟨called, reason, now, approver, rfl, hsubject.symm, approves.eligible⟩
  | granted called reason now approver approves =>
    have hmem' : subject ∈ (case.decide approver .approve reason now).approvers := hmem
    rw [approvers_decide_approve, List.mem_append, List.mem_singleton] at hmem'
    exact hmem'.imp_right fun hsubject =>
      ⟨called, reason, now, approver, rfl, hsubject.symm, approves.eligible⟩
  | rejected called reason now approver eligible =>
    have hmem' : subject ∈ (case.decide approver .reject reason now).approvers := hmem
    rw [approvers_decide_other case approver (by decide)] at hmem'
    exact .inl hmem'
  | reviewed called reason now reviewer =>
    have hmem' : subject ∈ (case.decide reviewer .postReviewed reason now).approvers := hmem
    rw [approvers_decide_other case reviewer (by decide)] at hmem'
    exact .inl hmem'

theorem eligible_ok {directory : ApproverDirectory} {case : ApprovalCase} {subject : String}
    {now : DateTime} {approver : ApproverIdentity}
    (h : eligible directory case subject now = .ok approver) :
    directory.resolve case.request.tenantId subject = .ok approver ∧
      MayDecide case.request case.policy approver now := by
  unfold eligible at h
  cases hresolve : directory.resolve case.request.tenantId subject with
  | error e => simp [hresolve, bind, Except.bind] at h
  | ok found =>
    cases hvalid : SoDEngine.validate case found now with
    | error e => simp [hresolve, hvalid, bind, Except.bind] at h
    | ok _ =>
      simp only [hresolve, hvalid, bind, Except.bind, pure, Except.pure, Except.ok.injEq] at h
      subst h
      exact ⟨rfl, validate_ok hvalid⟩

-- Every run

theorem Entitled.mono {trace : List ApprovalEvent} (event : ApprovalEvent) {caseId : String}
    {request : ApprovalRequest} {policy : ApprovalPolicy} {subject : String}
    (h : Entitled trace caseId request policy subject) :
    Entitled (trace ++ [event]) caseId request policy subject := by
  obtain ⟨event, hevent, h⟩ := h
  exact ⟨event, List.mem_append_left _ hevent, h⟩

structure Duties (state : ApprovalState) (trace : List ApprovalEvent) : Prop where
  dutiful : ∀ (caseId : String) (case : ApprovalCase), state.cases[caseId]? = some case →
    Dutiful case
  entitled : ∀ (caseId : String) (case : ApprovalCase), state.cases[caseId]? = some case →
    ∀ subject ∈ case.approvers, Entitled trace caseId case.request case.policy subject
  named : ∀ grant ∈ issued trace, ∃ case : ApprovalCase,
    state.cases[grant.caseId]? = some case ∧
    case.policy.minimumApprovers ≤ grant.approverSubjects.length ∧
    grant.approverSubjects.Nodup ∧ ∀ subject ∈ grant.approverSubjects, subject ∈ case.approvers

namespace Duties

theorem initial : Duties .default [] :=
  ⟨by simp [ApprovalState.default], by simp [ApprovalState.default], by simp [issued]⟩

variable {ambient : Ambient} {directories : Nat → ApproverDirectory}
  {trace : List ApprovalEvent} {event : ApprovalEvent}

theorem keeps_dutiful (h : Duties event.before.state trace)
    (heffect : Effect service ambient directories event.before.state event.call event.answer
      event.after.state)
    (hsome : ∀ P : ApproverDirectory → Prop, P (directories 0) → InSomeDirectory event P)
    (hnot : ¬ reviewsOwn event) {caseId : String} {case : ApprovalCase}
    (hfound : event.after.state.cases[caseId]? = some case) : Dutiful case := by
  rcases heffect.case_origin hfound with ⟨_, _, _, _, _, hopens⟩ | ⟨old, hold, rfl | hamends⟩
  · exact hopens.dutiful
  · exact h.dutiful caseId case hold
  · refine hamends.dutiful hold (h.dutiful caseId old hold) ?_
    intro subject reason now reviewer hoperation hreviews
    exact hnot ⟨caseId, subject, reason, now, hoperation, hsome _ ⟨old, reviewer, hreviews⟩⟩

theorem keeps_entitled (h : Duties event.before.state trace)
    (heffect : Effect service ambient directories event.before.state event.call event.answer
      event.after.state)
    (hsome : ∀ P : ApproverDirectory → Prop, P (directories 0) → InSomeDirectory event P)
    {caseId : String} {case : ApprovalCase}
    (hfound : event.after.state.cases[caseId]? = some case) {subject : String}
    (hsubject : subject ∈ case.approvers) :
    Entitled (trace ++ [event]) caseId case.request case.policy subject := by
  rcases heffect.case_origin hfound with ⟨_, _, _, _, _, hopens⟩ | ⟨old, hold, rfl | hamends⟩
  · simp [ApprovalCase.approvers, hopens.decisions] at hsubject
  · exact (h.entitled caseId case hold subject hsubject).mono event
  · rw [hamends.same.request, hamends.same.policy]
    rcases hamends.new_approver hsubject with hbefore |
      ⟨called, reason, now, approver, hoperation, hname, heligible⟩
    · exact (h.entitled caseId old hold subject hbefore).mono event
    · obtain ⟨hresolve, hmay⟩ := eligible_ok heligible
      exact ⟨event, by simp, called, reason, now, approver, hoperation, hname, hsome _ hresolve,
        hmay⟩

theorem keeps_named {state state' : ApprovalState} {operation : Operation}
    {answer : operation.Answer} (h : Duties state trace) (hbooks : Books state trace)
    (hfresh : ambient.Fresh state)
    (heffect : Effect service ambient directories state operation answer state')
    {grant : EnterpriseApprovalGrant}
    (hgrant : grant ∈ issued trace ++ (issuedGrant operation answer).toList) :
    ∃ case : ApprovalCase, state'.cases[grant.caseId]? = some case ∧
      case.policy.minimumApprovers ≤ grant.approverSubjects.length ∧
      grant.approverSubjects.Nodup ∧
      ∀ subject ∈ grant.approverSubjects, subject ∈ case.approvers := by
  rcases List.mem_append.mp hgrant with hold | hnew
  · obtain ⟨case, hfound, hminimum, hnodup, hsubjects⟩ := h.named grant hold
    obtain ⟨case', hfound', hfate⟩ := heffect.case_fate hfresh hfound
    refine ⟨case', hfound', ?_⟩
    rcases hfate with rfl | hamends
    · exact ⟨hminimum, hnodup, hsubjects⟩
    · rw [hamends.same.policy]
      exact ⟨hminimum, hnodup, fun subject hsubject =>
        hamends.approvers_subset (hsubjects subject hsubject)⟩
  · obtain hissued : issuedGrant operation answer = some grant := by simpa using hnew
    cases heffect with
    | refused _ _ hrefused => simp [(refused_grants hrefused).1] at hissued
    | granted caseId subject reason now case approver found approves enough =>
      obtain rfl := Option.some.inj hissued
      have hid : (case.grantedBy approver reason now).caseId = caseId :=
        hbooks.keyed caseId case found
      have hdistinct : (case.decide approver .approve reason now).approvers.Nodup :=
        ((h.dutiful caseId case found).decide_approve reason approves).distinct
      refine ⟨case.grantedBy approver reason now, ?_, ?_, hdistinct, fun _ hsubject => hsubject⟩
      · simp [EnterpriseApprovalService.signedGrant, EnterpriseApprovalService.makeGrant, hid]
      · -- the count of different approvers is a 32-bit word
        calc case.policy.minimumApprovers
            ≤ (case.decide approver .approve reason now).approvals := enough
          _ ≤ (case.decide approver .approve reason now).approvers.dedup.length := Nat.mod_le _ _
          _ = (case.decide approver .approve reason now).approvers.length := by
            rw [List.dedup_eq_self.mpr hdistinct]
    | _ => cases hissued

end Duties

theorem duties (hreach : (system service).Reachable .default cfg)
    (hnot : ∀ event ∈ cfg.trace, ¬ reviewsOwn event) : Duties cfg.shared.state cfg.trace := by
  have hrun := hreach.always (I := fun shared trace => Books shared.state trace ∧
    ((∀ event ∈ trace, ¬ reviewsOwn event) → Duties shared.state trace)) ?_ ?_
    ⟨.initial, fun _ => .initial⟩
  · exact hrun.1.2 hnot
  · rintro shared trace i operation answer shared' ⟨hbooks, hduties⟩ hserve
    obtain ⟨ambient, directories, hfresh, hsome, heffect⟩ :=
      event_effect ⟨i, operation, answer, shared, shared'⟩ hserve
    refine ⟨hbooks.keeps hfresh heffect i shared shared', fun hnot => ?_⟩
    have hbefore := hduties fun event hevent => hnot event (by simp [hevent])
    have hlast := hnot ⟨i, operation, answer, shared, shared'⟩ (by simp)
    refine ⟨fun caseId case hfound => ?_, fun caseId case hfound subject hsubject => ?_,
      fun grant hgrant => ?_⟩
    · exact hbefore.keeps_dutiful heffect hsome hlast hfound
    · exact hbefore.keeps_entitled heffect hsome hfound hsubject
    · rw [issued_snoc] at hgrant
      exact hbefore.keeps_named hbooks hfresh heffect hgrant
  · rintro shared trace shared' hinv ⟨hstate, -⟩
    rwa [hstate]

/-- **Separation of duties**, in every run in which no emergency is reviewed by one of its
approvers. -/
theorem duties_separated (service : EnterpriseApprovalService) {cfg : ApprovalConfig}
    (hreach : (system service).Reachable .default cfg)
    (hnot : ∀ event ∈ cfg.trace, ¬ reviewsOwn event) : DutiesSeparated cfg where
  grants grant hgrant := by
    have hduties := duties hreach hnot
    obtain ⟨case, hfound, hminimum, hnodup, hsubjects⟩ := hduties.named grant hgrant
    obtain ⟨case', hfound', hbacks⟩ := (books hreach).1.backed grant hgrant
    obtain rfl : case = case' := Option.some.inj (hfound.symm.trans hfound')
    refine ⟨case, hfound, hbacks, hminimum, hnodup, fun subject hsubject => ?_, ?_⟩
    · exact hduties.entitled _ case hfound subject (hsubjects subject hsubject)
    · rw [hbacks.expiresAt]
      exact (hduties.dutiful _ case hfound).lifetime
  reviews caseId case hfound _ := ((duties hreach hnot).dutiful caseId case hfound).apart

/-- The emergency case gets its grant, which is used. -/
theorem duties_separated_sample :
    ∃ threads, (system sampleService).Reachable .default
      (sampleRun .emergency (sampleUse .emergency) threads) ∧
    issued (sampleSession .emergency (sampleUse .emergency)) =
      [sampleGrant .emergency 4 ["alice"] 1] ∧
    DutiesSeparated (sampleRun .emergency (sampleUse .emergency) threads) := by
  obtain ⟨threads, hreach⟩ := reachable_sample .emergency (by decide) (sampleUse .emergency)
    (by decide)
  refine ⟨threads, hreach, by decide, duties_separated sampleService hreach ?_⟩
  refine List.forall_mem_cons.mpr ⟨?_, List.forall_mem_cons.mpr ⟨?_, List.forall_mem_cons.mpr
    ⟨?_, by simp [session]⟩⟩⟩
  all_goals
    rintro ⟨_, _, _, _, hcall, _⟩
    cases hcall

def sampleOwnReview : List (Ambient × Operation) :=
  [(sampleIds 3 4, .approve (sampleUuid 1).toStr "alice" "reviewed" 1),
    (sampleIds 5 6, .auditEmergency (sampleUuid 1).toStr "alice" "reviewed again" 2)]

theorem emergency_reviewed_by_approver :
    ∃ threads, (system sampleService).Reachable .default
      (sampleRun .emergency sampleOwnReview threads) ∧
    ¬ DutiesSeparated (sampleRun .emergency sampleOwnReview threads) := by
  obtain ⟨threads, hreach⟩ := reachable_sample .emergency (by decide) sampleOwnReview
    (by decide)
  refine ⟨threads, hreach, fun hseparated => ?_⟩
  have hown : (sampleEnd .emergency sampleOwnReview).cases[(sampleUuid 1).toStr]?.any
      (fun case => case.policy.approvalType = .emergency ∧ ∃ decision ∈ case.decisions,
        decision.decision = .postReviewed ∧ decision.approverSubject ∈ case.approvers) = true := by
    decide
  obtain ⟨case, hfound, hcase⟩ := (Option.any_eq_true _ _).mp hown
  obtain ⟨hemergency, decision, hdecision, hreview, hmem⟩ := of_decide_eq_true hcase
  exact hseparated.reviews _ case hfound hemergency decision hdecision hreview hmem

end AgentSphere.Approval
