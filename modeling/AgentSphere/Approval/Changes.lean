import AgentSphere.Approval.Service

/-!
# What an operation of the approval service can change

`perform_effect` says once what each operation does and under which guards; the invariants of
the service are case analyses over `Effect`.
-/

namespace AgentSphere.Approval

open Concurrency

namespace ApprovalState

variable (state : ApprovalState)

@[simp] theorem putCase_cases (caseId : String) (case : ApprovalCase) :
    (state.putCase caseId case).cases = state.cases.insert caseId case := rfl

@[simp] theorem putCase_grants (caseId : String) (case : ApprovalCase) :
    (state.putCase caseId case).grants = state.grants := rfl

@[simp] theorem putCase_remainingUses (caseId : String) (case : ApprovalCase) :
    (state.putCase caseId case).remainingUses = state.remainingUses := rfl

@[simp] theorem putCase_revokedGrants (caseId : String) (case : ApprovalCase) :
    (state.putCase caseId case).revokedGrants = state.revokedGrants := rfl

@[simp] theorem putGrant_cases (grant : EnterpriseApprovalGrant) :
    (state.putGrant grant).cases = state.cases := rfl

@[simp] theorem putGrant_grants (grant : EnterpriseApprovalGrant) :
    (state.putGrant grant).grants = state.grants.insert grant.grantId grant := rfl

@[simp] theorem putGrant_remainingUses (grant : EnterpriseApprovalGrant) :
    (state.putGrant grant).remainingUses =
      state.remainingUses.insert grant.grantId grant.maximumUses := rfl

@[simp] theorem putGrant_revokedGrants (grant : EnterpriseApprovalGrant) :
    (state.putGrant grant).revokedGrants = state.revokedGrants := rfl

@[simp] theorem revokeGrants_cases (p : EnterpriseApprovalGrant → Bool) :
    (state.revokeGrants p).cases = state.cases := rfl

@[simp] theorem revokeGrants_grants (p : EnterpriseApprovalGrant → Bool) :
    (state.revokeGrants p).grants = state.grants := rfl

@[simp] theorem revokeGrants_remainingUses (p : EnterpriseApprovalGrant → Bool) :
    (state.revokeGrants p).remainingUses = state.remainingUses := rfl

theorem mem_revokeGrants {p : EnterpriseApprovalGrant → Bool} {grantId : String} :
    grantId ∈ (state.revokeGrants p).revokedGrants ↔
      grantId ∈ state.revokedGrants ∨
        ∃ (key : String) (grant : EnterpriseApprovalGrant), state.grants[key]? = some grant ∧
          p grant = true ∧ grant.grantId = grantId := by
  simp [revokeGrants, Std.ExtTreeMap.mem_toList_iff_getElem?_eq_some, and_assoc]

end ApprovalState

structure Opens (ambient : Ambient) (request : ApprovalRequest) (policy : ApprovalPolicy)
    (now : DateTime) (case : ApprovalCase) : Prop where
  caseId : case.caseId = ambient.caseUuid.toStr
  request_eq : case.request = request
  policy_eq : case.policy = policy
  decisions : case.decisions = []
  createdAt : case.createdAt = now
  lifetime : ∃ lifetime, durationSeconds
      (asI64 (min request.requestedTtlSeconds policy.maximumTtlSeconds)) = some lifetime ∧
    case.expiresAt = now + lifetime
  status : case.status =
    if policy.approvalType = .emergency then .postReviewRequired else .pending

theorem openCase_ok {service : EnterpriseApprovalService} {ambient : Ambient}
    {request : ApprovalRequest} {policy : ApprovalPolicy} {now : DateTime} {case : ApprovalCase}
    (h : service.openCase ambient request policy now = some (.ok case)) :
    Opens ambient request policy now case := by
  simp only [EnterpriseApprovalService.openCase, bind] at h
  split at h
  · cases h
  · split at h
    · cases h
    · -- the two branches differ in the deadline of the review only
      split at h
      all_goals
        simp only [Option.bind_eq_some_iff, Option.some.injEq, Except.ok.injEq] at h
        obtain ⟨due, -, lifetime, hlifetime, expiresAt, hexpires, rfl⟩ := h
        exact ⟨rfl, rfl, rfl, rfl, rfl, ⟨lifetime, hlifetime, DateTime.add_eq_some hexpires⟩,
          by simp [*]⟩

def refused : (operation : Operation) → operation.Answer → Bool
  | .request .., some (.ok _) => false
  | .request .., _ => true
  | .submitUiIntent .., answer | .reject .., answer | .revokeCase _, answer
  | .auditEmergency .., answer => !answer.isOk
  | .approve .., answer => !answer.isOk
  | .revokeTask _, _ => false
  | .verifyAndConsume .., answer => !answer.isOk

structure Approves (directory : ApproverDirectory) (case : ApprovalCase) (subject : String)
    (approver : ApproverIdentity) (now : DateTime) : Prop where
  current : now < case.expiresAt
  undecided : case.status = .pending ∨ case.status = .postReviewRequired
  eligible : eligible directory case subject now = .ok approver
  first : ∀ decision ∈ case.decisions, decision.approverSubject ≠ approver.subject

def ApprovalCase.grantedBy (case : ApprovalCase) (approver : ApproverIdentity) (reason : String)
    (now : DateTime) : ApprovalCase :=
  { case.decide approver .approve reason now with
    status := if case.policy.approvalType = .emergency then .postReviewRequired else .approved }

structure Consumes (service : EnterpriseApprovalService) (directories : Nat → ApproverDirectory)
    (state : ApprovalState) (grant : EnterpriseApprovalGrant) (binding : ApprovalExecutionBinding)
    (now : DateTime) (case : ApprovalCase) : Prop where
  signed : service.verifyGrantSignature grant now = .ok ()
  bound : binding.matchesGrant grant = true
  unrevoked : grant.grantId ∉ state.revokedGrants
  stored : state.grants[grant.grantId]? = some grant
  found : state.cases[grant.caseId]? = some case
  live : case.status ∉ [.rejected, .revoked, .expired]
  rechecked : EnterpriseApprovalService.recheck case grant.tenantId now grant.approverSubjects
    directories = .ok ()

inductive Effect (service : EnterpriseApprovalService) (ambient : Ambient)
    (directories : Nat → ApproverDirectory) (state : ApprovalState) :
    (operation : Operation) → operation.Answer → ApprovalState → Prop where
  | refused (operation : Operation) (answer : operation.Answer)
      (h : refused operation answer = true) :
      Effect service ambient directories state operation answer state
  | intended (caseId userSessionId : String) (intents : List String) :
      Effect service ambient directories state (.submitUiIntent caseId userSessionId) (.ok ())
        { state with uiIntents := intents }
  | opened (request : ApprovalRequest) (policy : ApprovalPolicy) (now : DateTime)
      (case : ApprovalCase)
      (opens : Opens ambient request policy now case) :
      Effect service ambient directories state (.request request policy now) (some (.ok case))
        (state.putCase case.caseId case)
  | expired (caseId subject reason : String) (now : DateTime) (case : ApprovalCase)
      (found : state.cases[caseId]? = some case) (late : case.expiresAt ≤ now) :
      Effect service ambient directories state (.approve caseId subject reason now)
        (.error .expired) (state.putCase caseId { case with status := .expired })
  | approved (caseId subject reason : String) (now : DateTime) (case : ApprovalCase)
      (approver : ApproverIdentity) (found : state.cases[caseId]? = some case)
      (approves : Approves (directories 0) case subject approver now)
      (more : (case.decide approver .approve reason now).approvals <
        case.policy.minimumApprovers) :
      Effect service ambient directories state (.approve caseId subject reason now) (.ok none)
        (state.putCase caseId (case.decide approver .approve reason now))
  | granted (caseId subject reason : String) (now : DateTime) (case : ApprovalCase)
      (approver : ApproverIdentity) (found : state.cases[caseId]? = some case)
      (approves : Approves (directories 0) case subject approver now)
      (enough : case.policy.minimumApprovers ≤
        (case.decide approver .approve reason now).approvals) :
      Effect service ambient directories state (.approve caseId subject reason now)
        (.ok (some (service.signedGrant ambient (case.grantedBy approver reason now) now)))
        ((state.putCase caseId (case.grantedBy approver reason now)).putGrant
          (service.signedGrant ambient (case.grantedBy approver reason now) now))
  | rejected (caseId subject reason : String) (now : DateTime) (case : ApprovalCase)
      (approver : ApproverIdentity) (found : state.cases[caseId]? = some case)
      (eligible : eligible (directories 0) case subject now = .ok approver) :
      Effect service ambient directories state (.reject caseId subject reason now) (.ok ())
        (state.putCase caseId
          { case.decide approver .reject reason now with status := .rejected })
  | revokedCase (caseId : String) (case : ApprovalCase)
      (found : state.cases[caseId]? = some case) :
      Effect service ambient directories state (.revokeCase caseId) (.ok ())
        ((state.putCase caseId { case with status := .revoked }).revokeGrants
          fun grant => grant.caseId = caseId)
  | revokedTask (taskId : TaskId) :
      Effect service ambient directories state (.revokeTask taskId) ()
        (state.revokeGrants fun grant => grant.taskId = taskId)
  | reviewed (caseId subject reason : String) (now : DateTime) (case : ApprovalCase)
      (reviewer : ApproverIdentity) (found : state.cases[caseId]? = some case)
      (emergency : case.policy.approvalType = .emergency)
      (awaits : case.status = .postReviewRequired)
      (due : case.postReviewDueAt.any (· < now) = false)
      (eligible : eligible (directories 0) case subject now = .ok reviewer) :
      Effect service ambient directories state (.auditEmergency caseId subject reason now) (.ok ())
        (state.putCase caseId
          { case.decide reviewer .postReviewed reason now with status := .approved })
  | consumed (grant : EnterpriseApprovalGrant) (binding : ApprovalExecutionBinding)
      (now : DateTime) (case : ApprovalCase) (remaining : Nat)
      (consumes : Consumes service directories state grant binding now case)
      (left : state.remainingUses[grant.grantId]? = some (remaining + 1))
      (state' : ApprovalState) (grants : state'.grants = state.grants)
      (uses : state'.remainingUses = state.remainingUses.insert grant.grantId remaining)
      (revoked : state'.revokedGrants = state.revokedGrants)
      (cases : state'.cases = if remaining = 0 ∧ grant.breakGlass = false then
        state.cases.insert grant.caseId { case with status := .consumed } else state.cases) :
      Effect service ambient directories state (.verifyAndConsume grant binding now)
        (.ok remaining) state'

section Perform

variable {service : EnterpriseApprovalService} {ambient : Ambient}
  {directories : Nat → ApproverDirectory} {state : ApprovalState}

theorem approve_effect (caseId subject reason : String) (now : DateTime) :
    Effect service ambient directories state (.approve caseId subject reason now)
      (service.approve ambient (directories 0) state caseId subject reason now).1
      (service.approve ambient (directories 0) state caseId subject reason now).2 := by
  unfold EnterpriseApprovalService.approve
  split
  · exact .refused _ _ rfl
  · next case hfound =>
    split
    · next hexpired => exact .expired _ _ _ _ _ hfound hexpired
    · next hcurrent =>
      split
      · exact .refused _ _ rfl
      · next hstatus =>
        have hundecided : case.status = .pending ∨ case.status = .postReviewRequired := by
          rwa [not_and_or, not_not, not_not] at hstatus
        split
        · exact .refused _ _ rfl
        · next approver heligible =>
          split
          · exact .refused _ _ rfl
          · next hfirst =>
            have happroves : Approves (directories 0) case subject approver now :=
              ⟨Int.not_le.mp hcurrent, hundecided, heligible, by simpa using hfirst⟩
            by_cases hmore : (case.decide approver .approve reason now).approvals <
                case.policy.minimumApprovers
            · simp only [hmore, if_true]
              exact .approved _ _ _ _ _ _ hfound happroves hmore
            · simp only [hmore, if_false]
              exact .granted _ _ _ _ _ _ hfound happroves (Nat.not_lt.mp hmore)

theorem verifyAndConsume_effect (grant : EnterpriseApprovalGrant)
    (binding : ApprovalExecutionBinding) (now : DateTime) :
    Effect service ambient directories state (.verifyAndConsume grant binding now)
      (service.verifyAndConsume directories state grant binding now).1
      (service.verifyAndConsume directories state grant binding now).2 := by
  unfold EnterpriseApprovalService.verifyAndConsume
  split
  · exact .refused _ _ rfl
  · next hsigned =>
    split_ifs with hbound hrevoked hstored
    · exact .refused _ _ rfl
    · exact .refused _ _ rfl
    · exact .refused _ _ rfl
    · split
      · exact .refused _ _ rfl
      · next case hfound =>
        split_ifs with hlive
        · exact .refused _ _ rfl
        · split
          · exact .refused _ _ rfl
          · next hrechecked =>
            split
            · exact .refused _ _ rfl
            · exact .refused _ _ rfl
            · next remaining hleft =>
              refine .consumed _ _ _ case _
                ⟨hsigned, by simpa using hbound, hrevoked, by simpa using hstored, hfound, hlive,
                  hrechecked⟩ hleft _ ?_ ?_ ?_ ?_
              all_goals split_ifs <;> rfl

/-- **Operations**: what an operation answers and leaves is one of the effects. -/
theorem perform_effect (operation : Operation) :
    Effect service ambient directories state operation
      (service.perform ambient directories state operation).1
      (service.perform ambient directories state operation).2 := by
  cases operation with
  | request request policy now =>
    simp only [EnterpriseApprovalService.perform, EnterpriseApprovalService.request]
    cases hopens : service.openCase ambient request policy now with
    | none => exact .refused _ _ rfl
    | some result =>
      cases result with
      | error e => exact .refused _ _ rfl
      | ok case => exact .opened _ _ _ _ (openCase_ok hopens)
  | submitUiIntent caseId userSessionId =>
    simp only [EnterpriseApprovalService.perform, EnterpriseApprovalService.submitUiIntent]
    split_ifs
    · exact .refused _ _ rfl
    · exact .intended _ _ _
  | approve caseId subject reason now => exact approve_effect caseId subject reason now
  | reject caseId subject reason now =>
    simp only [EnterpriseApprovalService.perform, EnterpriseApprovalService.reject]
    split
    · exact .refused _ _ rfl
    · next case hfound =>
      split
      · exact .refused _ _ rfl
      · next approver heligible => exact .rejected _ _ _ _ _ _ hfound heligible
  | revokeCase caseId =>
    simp only [EnterpriseApprovalService.perform, EnterpriseApprovalService.revokeCase]
    split
    · exact .refused _ _ rfl
    · next case hfound => exact .revokedCase _ _ hfound
  | revokeTask taskId => exact .revokedTask taskId
  | auditEmergency caseId subject reason now =>
    simp only [EnterpriseApprovalService.perform, EnterpriseApprovalService.auditEmergency]
    split
    · exact .refused _ _ rfl
    · next case hfound =>
      split_ifs with hlifecycle
      · exact .refused _ _ rfl
      · split
        · exact .refused _ _ rfl
        · next reviewer heligible =>
          push Not at hlifecycle
          exact .reviewed _ _ _ _ _ _ hfound hlifecycle.1 hlifecycle.2.1
            (Bool.eq_false_iff.mpr hlifecycle.2.2) heligible
  | verifyAndConsume grant binding now => exact verifyAndConsume_effect grant binding now

end Perform

inductive Amends (directory : ApproverDirectory) (caseId : String) (case : ApprovalCase) :
    Operation → ApprovalCase → Prop where
  | expired (subject reason : String) (now : DateTime) (late : case.expiresAt ≤ now) :
      Amends directory caseId case (.approve caseId subject reason now)
        { case with status := .expired }
  | approved (subject reason : String) (now : DateTime) (approver : ApproverIdentity)
      (approves : Approves directory case subject approver now)
      (more : (case.decide approver .approve reason now).approvals <
        case.policy.minimumApprovers) :
      Amends directory caseId case (.approve caseId subject reason now)
        (case.decide approver .approve reason now)
  | granted (subject reason : String) (now : DateTime) (approver : ApproverIdentity)
      (approves : Approves directory case subject approver now)
      (enough : case.policy.minimumApprovers ≤
        (case.decide approver .approve reason now).approvals) :
      Amends directory caseId case (.approve caseId subject reason now)
        (case.grantedBy approver reason now)
  | rejected (subject reason : String) (now : DateTime) (approver : ApproverIdentity)
      (eligible : eligible directory case subject now = .ok approver) :
      Amends directory caseId case (.reject caseId subject reason now)
        { case.decide approver .reject reason now with status := .rejected }
  | revoked :
      Amends directory caseId case (.revokeCase caseId) { case with status := .revoked }
  | reviewed (subject reason : String) (now : DateTime) (reviewer : ApproverIdentity)
      (emergency : case.policy.approvalType = .emergency)
      (awaits : case.status = .postReviewRequired)
      (due : case.postReviewDueAt.any (· < now) = false)
      (eligible : eligible directory case subject now = .ok reviewer) :
      Amends directory caseId case (.auditEmergency caseId subject reason now)
        { case.decide reviewer .postReviewed reason now with status := .approved }
  | consumed (grant : EnterpriseApprovalGrant) (binding : ApprovalExecutionBinding)
      (now : DateTime) (own : grant.caseId = caseId) (uncovered : grant.breakGlass = false)
      (live : case.status ∉ [.rejected, .revoked, .expired]) :
      Amends directory caseId case (.verifyAndConsume grant binding now)
        { case with status := .consumed }

section Cases

variable {service : EnterpriseApprovalService} {ambient : Ambient}
  {directories : Nat → ApproverDirectory} {state state' : ApprovalState}
  {operation : Operation} {answer : operation.Answer}

theorem Effect.cases_change
    (h : Effect service ambient directories state operation answer state') :
    state'.cases = state.cases ∨
    (∃ request policy now case, operation = .request request policy now ∧
      Opens ambient request policy now case ∧
      state'.cases = state.cases.insert case.caseId case) ∨
    ∃ (caseId : String) (case case' : ApprovalCase), state.cases[caseId]? = some case ∧
      Amends (directories 0) caseId case operation case' ∧
      state'.cases = state.cases.insert caseId case' := by
  cases h with
  | refused | intended | revokedTask => exact .inl rfl
  | opened request policy now case opens =>
    exact .inr (.inl ⟨request, policy, now, case, rfl, opens, rfl⟩)
  | expired _ _ _ _ _ found late => exact .inr (.inr ⟨_, _, _, found, .expired _ _ _ late, rfl⟩)
  | approved _ _ _ _ _ _ found approves more =>
    exact .inr (.inr ⟨_, _, _, found, .approved _ _ _ _ approves more, rfl⟩)
  | granted _ _ _ _ _ _ found approves enough =>
    exact .inr (.inr ⟨_, _, _, found, .granted _ _ _ _ approves enough, rfl⟩)
  | rejected _ _ _ _ _ _ found eligible =>
    exact .inr (.inr ⟨_, _, _, found, .rejected _ _ _ _ eligible, rfl⟩)
  | revokedCase _ _ found => exact .inr (.inr ⟨_, _, _, found, .revoked, rfl⟩)
  | reviewed _ _ _ _ _ _ found emergency awaits due eligible =>
    exact .inr (.inr ⟨_, _, _, found, .reviewed _ _ _ _ emergency awaits due eligible, rfl⟩)
  | consumed _ _ _ _ _ consumes _ _ _ _ _ hcases =>
    split at hcases
    · next hlast =>
      exact .inr (.inr ⟨_, _, _, consumes.found, .consumed _ _ _ rfl hlast.2 consumes.live, hcases⟩)
    · exact .inl hcases

theorem Effect.case_origin (h : Effect service ambient directories state operation answer state')
    {caseId : String} {case' : ApprovalCase} (hfound : state'.cases[caseId]? = some case') :
    (∃ request policy now, operation = .request request policy now ∧ caseId = case'.caseId ∧
      Opens ambient request policy now case') ∨
    ∃ case : ApprovalCase, state.cases[caseId]? = some case ∧
      (case' = case ∨ Amends (directories 0) caseId case operation case') := by
  rcases h.cases_change with hcases | ⟨request, policy, now, case, hoperation, hopens, hcases⟩ |
    ⟨changed, case, new, hold, hamends, hcases⟩
  · rw [hcases] at hfound
    exact .inr ⟨case', hfound, .inl rfl⟩
  · rw [hcases, Std.ExtTreeMap.getElem?_insert] at hfound
    split_ifs at hfound with hid
    · obtain rfl := Option.some.inj hfound
      exact .inl
        ⟨request, policy, now, hoperation, by simpa using Eq.symm (by simpa using hid), hopens⟩
    · exact .inr ⟨case', hfound, .inl rfl⟩
  · rw [hcases, Std.ExtTreeMap.getElem?_insert] at hfound
    split_ifs at hfound with hid
    · obtain rfl := Option.some.inj hfound
      obtain rfl : changed = caseId := by simpa using hid
      exact .inr ⟨case, hold, .inr hamends⟩
    · exact .inr ⟨case', hfound, .inl rfl⟩

theorem Effect.case_fate (h : Effect service ambient directories state operation answer state')
    (hfresh : ambient.Fresh state) {caseId : String} {case : ApprovalCase}
    (hfound : state.cases[caseId]? = some case) :
    ∃ case' : ApprovalCase, state'.cases[caseId]? = some case' ∧
      (case' = case ∨ Amends (directories 0) caseId case operation case') := by
  rcases h.cases_change with hcases | ⟨request, policy, now, opened, _, hopens, hcases⟩ |
    ⟨changed, old, new, hold, hamends, hcases⟩
  · exact ⟨case, hcases ▸ hfound, .inl rfl⟩
  · have hid : opened.caseId ≠ caseId := by
      rintro rfl
      rw [hopens.caseId, hfresh.1] at hfound
      cases hfound
    exact ⟨case, by simpa [hcases, hid] using hfound, .inl rfl⟩
  · by_cases hid : changed = caseId
    · subst hid
      obtain rfl : old = case := Option.some.inj (hold.symm.trans hfound)
      exact ⟨new, by simp [hcases], .inr hamends⟩
    · exact ⟨case, by simpa [hcases, hid] using hfound, .inl rfl⟩

end Cases

theorem serve_effect {service : EnterpriseApprovalService} {shared shared' : Approvals}
    {operation : Operation} {answer : operation.Answer}
    (h : serve service shared operation answer shared') :
    ∃ ambient directories, ambient.Fresh shared.state ∧
      During shared.directory directories shared'.directory ∧
      Effect service ambient directories shared.state operation answer shared'.state := by
  obtain ⟨ambient, directories, hfresh, hduring, heq⟩ := h
  have heffect : Effect service ambient directories shared.state operation
      (service.perform ambient directories shared.state operation).1
      (service.perform ambient directories shared.state operation).2 := perform_effect operation
  rw [heq] at heffect
  exact ⟨ambient, directories, hfresh, hduring, heffect⟩

end AgentSphere.Approval
