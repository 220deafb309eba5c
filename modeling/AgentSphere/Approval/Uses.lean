import AgentSphere.Approval.Sessions

/-!
# Grants and their uses

Every grant that was ever issued is stored, and what is left of its uses and the number of its
consumptions add up to the uses it was issued with.
-/

namespace AgentSphere.Approval

open Concurrency

def issuedGrant : (operation : Operation) → operation.Answer → Option EnterpriseApprovalGrant
  | .approve .., .ok grant => grant
  | _, _ => none

def consumedGrant : (operation : Operation) → operation.Answer → Option EnterpriseApprovalGrant
  | .verifyAndConsume grant _ _, .ok _ => some grant
  | _, _ => none

def revokes : (operation : Operation) → operation.Answer → EnterpriseApprovalGrant → Prop
  | .revokeCase caseId, .ok _, grant => grant.caseId = caseId
  | .revokeTask taskId, _, grant => grant.taskId = taskId
  | _, _, _ => False

def issued (trace : List ApprovalEvent) : List EnterpriseApprovalGrant :=
  trace.filterMap fun event => issuedGrant event.call event.answer

def consumptions (grantId : String) (trace : List ApprovalEvent) : Nat :=
  trace.countP fun event =>
    (consumedGrant event.call event.answer).map (·.grantId) = some grantId

theorem issued_snoc (trace : List ApprovalEvent) (event : ApprovalEvent) :
    issued (trace ++ [event]) = issued trace ++ (issuedGrant event.call event.answer).toList := by
  rw [issued, List.filterMap_append, ← issued]
  cases h : issuedGrant event.call event.answer with
  | none => simp [h]
  | some grant => simp [h]

theorem consumptions_snoc (grantId : String) (trace : List ApprovalEvent) (event : ApprovalEvent) :
    consumptions grantId (trace ++ [event]) = consumptions grantId trace +
      if (consumedGrant event.call event.answer).map (·.grantId) = some grantId then 1 else 0 := by
  simp [consumptions, List.countP_append, List.countP_singleton]

theorem refused_grants {operation : Operation} {answer : operation.Answer}
    (h : refused operation answer = true) :
    issuedGrant operation answer = none ∧ consumedGrant operation answer = none := by
  cases operation with
  | approve caseId subject reason now =>
    cases answer with
    | error e => exact ⟨rfl, rfl⟩
    | ok grant => cases h
  | verifyAndConsume grant binding now =>
    cases answer with
    | error e => exact ⟨rfl, rfl⟩
    | ok remaining => cases h
  | _ => exact ⟨rfl, rfl⟩

-- What an operation does to cases, grants and revocations

structure SameCase (case case' : ApprovalCase) : Prop where
  caseId : case'.caseId = case.caseId
  request : case'.request = case.request
  policy : case'.policy = case.policy
  createdAt : case'.createdAt = case.createdAt
  expiresAt : case'.expiresAt = case.expiresAt

theorem SameCase.refl (case : ApprovalCase) : SameCase case case := ⟨rfl, rfl, rfl, rfl, rfl⟩

structure Binds (request : ApprovalRequest) (policy : ApprovalPolicy) (expiresAt : DateTime)
    (grant : EnterpriseApprovalGrant) : Prop where
  tenantId : grant.tenantId = request.tenantId
  taskId : grant.taskId = request.taskId
  stepId : grant.stepId = request.stepId
  actionHash : grant.actionHash = request.actionHash
  planHash : grant.planHash = request.planHash
  parameterHash : grant.parameterHash = request.parameterHash
  resource : grant.resource = request.resource
  resourceVersion : grant.resourceVersion = request.resourceVersion
  policyVersion : grant.policyVersion = request.policyVersion
  environment : grant.environment = request.environment
  maximumRisk : grant.maximumRisk = policy.maximumRisk
  expiresAt : grant.expiresAt = expiresAt
  maximumUses : grant.maximumUses = min request.requestedUses policy.maximumUses
  breakGlass : grant.breakGlass = decide (policy.approvalType = .emergency)

def Backs (case : ApprovalCase) (grant : EnterpriseApprovalGrant) : Prop :=
  Binds case.request case.policy case.expiresAt grant

theorem Backs.same {case case' : ApprovalCase} {grant : EnterpriseApprovalGrant}
    (h : Backs case grant) (hsame : SameCase case case') : Backs case' grant := by
  rw [Backs, hsame.request, hsame.policy, hsame.expiresAt]
  exact h

theorem backs_signedGrant (service : EnterpriseApprovalService) (ambient : Ambient)
    (case : ApprovalCase) (now : DateTime) :
    Backs case (service.signedGrant ambient case now) :=
  ⟨rfl, rfl, rfl, rfl, rfl, rfl, rfl, rfl, rfl, rfl, rfl, rfl, rfl, rfl⟩

section Steps

variable {service : EnterpriseApprovalService} {ambient : Ambient}
  {directories : Nat → ApproverDirectory} {state state' : ApprovalState}
  {operation : Operation} {answer : operation.Answer}

inductive GrantChange (ambient : Ambient) (state state' : ApprovalState) :
    Option EnterpriseApprovalGrant → Option EnterpriseApprovalGrant → Prop where
  | none (grants : state'.grants = state.grants)
      (uses : state'.remainingUses = state.remainingUses) :
      GrantChange ambient state state' none none
  | issues (grant : EnterpriseApprovalGrant) (new : grant.grantId = ambient.grantUuid.toStr)
      (grants : state'.grants = state.grants.insert grant.grantId grant)
      (uses : state'.remainingUses = state.remainingUses.insert grant.grantId grant.maximumUses)
      (caseId : String) (case : ApprovalCase) (found : state'.cases[caseId]? = some case)
      (own : grant.caseId = case.caseId) (backs : Backs case grant) :
      GrantChange ambient state state' (some grant) none
  | consumes (grant : EnterpriseApprovalGrant) (remaining : Nat)
      (stored : state.grants[grant.grantId]? = some grant)
      (left : state.remainingUses[grant.grantId]? = some (remaining + 1))
      (grants : state'.grants = state.grants)
      (uses : state'.remainingUses = state.remainingUses.insert grant.grantId remaining) :
      GrantChange ambient state state' none (some grant)

theorem Effect.grant_change (h : Effect service ambient directories state operation answer state') :
    GrantChange ambient state state' (issuedGrant operation answer)
      (consumedGrant operation answer) := by
  cases h with
  | refused _ _ h =>
    obtain ⟨hissued, hconsumed⟩ := refused_grants h
    rw [hissued, hconsumed]
    exact .none rfl rfl
  | granted caseId subject reason now case approver found approves enough =>
    exact .issues _ rfl rfl rfl caseId (case.grantedBy approver reason now) (by simp) rfl
      (backs_signedGrant service ambient _ now)
  | consumed grant binding now case remaining consumes left _ grants uses revoked cases =>
    exact .consumes grant remaining consumes.stored left grants uses
  | _ => exact .none rfl rfl

theorem Amends.same {directory : ApproverDirectory} {caseId : String} {case case' : ApprovalCase}
    (h : Amends directory caseId case operation case') : SameCase case case' := by
  cases h <;> exact ⟨rfl, rfl, rfl, rfl, rfl⟩

theorem Effect.case_same (h : Effect service ambient directories state operation answer state')
    (hfresh : ambient.Fresh state) {caseId : String} {case : ApprovalCase}
    (hfound : state.cases[caseId]? = some case) :
    ∃ case' : ApprovalCase, state'.cases[caseId]? = some case' ∧ SameCase case case' := by
  obtain ⟨case', hfound', rfl | hamends⟩ := h.case_fate hfresh hfound
  · exact ⟨case', hfound', .refl case'⟩
  · exact ⟨case', hfound', hamends.same⟩

theorem Effect.revocations (h : Effect service ambient directories state operation answer state') :
    (∀ grantId ∈ state.revokedGrants, grantId ∈ state'.revokedGrants) ∧
    ∀ (grantId : String) (grant : EnterpriseApprovalGrant),
      state.grants[grantId]? = some grant → revokes operation answer grant →
        grant.grantId ∈ state'.revokedGrants := by
  cases h with
  | refused _ _ h =>
    refine ⟨fun _ hid => hid, fun grantId grant _ hrevokes => ?_⟩
    cases operation with
    | revokeCase caseId =>
      cases answer with
      | error e => cases hrevokes
      | ok _ => cases h
    | revokeTask taskId => cases h
    | _ => cases hrevokes
  | revokedCase caseId case found =>
    refine ⟨fun grantId hid => ?_, fun grantId grant hstored hrevokes => ?_⟩
    · exact (ApprovalState.mem_revokeGrants _).mpr (.inl hid)
    · exact (ApprovalState.mem_revokeGrants _).mpr
        (.inr ⟨grantId, grant, hstored, decide_eq_true hrevokes, rfl⟩)
  | revokedTask taskId =>
    refine ⟨fun grantId hid => ?_, fun grantId grant hstored hrevokes => ?_⟩
    · exact (ApprovalState.mem_revokeGrants _).mpr (.inl hid)
    · exact (ApprovalState.mem_revokeGrants _).mpr
        (.inr ⟨grantId, grant, hstored, decide_eq_true hrevokes, rfl⟩)
  | consumed _ _ _ _ _ _ _ _ _ _ hrevoked =>
    exact ⟨fun _ hid => hrevoked ▸ hid, fun _ _ _ hrevokes => nomatch hrevokes⟩
  | _ => exact ⟨fun _ hid => hid, fun _ _ _ hrevokes => nomatch hrevokes⟩

end Steps

-- The books of the service

structure Books (state : ApprovalState) (trace : List ApprovalEvent) : Prop where
  keyed : ∀ (caseId : String) (case : ApprovalCase), state.cases[caseId]? = some case →
    case.caseId = caseId
  stored : ∀ (grantId : String) (grant : EnterpriseApprovalGrant),
    state.grants[grantId]? = some grant ↔ grant ∈ issued trace ∧ grant.grantId = grantId
  uses : ∀ grant ∈ issued trace, ∃ remaining : Nat,
    state.remainingUses[grant.grantId]? = some remaining ∧
      remaining + consumptions grant.grantId trace = grant.maximumUses
  unused : ∀ grantId : String, state.grants[grantId]? = none → consumptions grantId trace = 0
  backed : ∀ grant ∈ issued trace, ∃ case : ApprovalCase,
    state.cases[grant.caseId]? = some case ∧ Backs case grant
  revoked : ∀ before event after, trace = before ++ event :: after → ∀ grant ∈ issued before,
    revokes event.call event.answer grant → grant.grantId ∈ state.revokedGrants

namespace Books

theorem initial : Books .default [] where
  keyed := by simp [ApprovalState.default]
  stored := by simp [ApprovalState.default, issued]
  uses := by simp [issued]
  unused := by simp [consumptions]
  backed := by simp [issued]
  revoked := by simp

section Keeps

variable {service : EnterpriseApprovalService} {ambient : Ambient}
  {directories : Nat → ApproverDirectory} {state state' : ApprovalState}
  {operation : Operation} {answer : operation.Answer} {trace : List ApprovalEvent}

theorem keeps_keyed (h : Books state trace)
    (heffect : Effect service ambient directories state operation answer state')
    {caseId : String} {case : ApprovalCase} (hfound : state'.cases[caseId]? = some case) :
    case.caseId = caseId := by
  rcases heffect.case_origin hfound with ⟨_, _, _, _, hid, _⟩ | ⟨old, hold, rfl | hamends⟩
  · exact hid.symm
  · exact h.keyed caseId case hold
  · rw [hamends.same.caseId]
    exact h.keyed caseId old hold

theorem keeps_stored (h : Books state trace) (hfresh : ambient.Fresh state)
    {new used : Option EnterpriseApprovalGrant}
    (hchange : GrantChange ambient state state' new used)
    (grantId : String) (grant : EnterpriseApprovalGrant) :
    state'.grants[grantId]? = some grant ↔
      grant ∈ issued trace ++ new.toList ∧ grant.grantId = grantId := by
  cases hchange with
  | none grants uses => simpa [grants] using h.stored grantId grant
  | consumes _ _ _ _ grants => simpa [grants] using h.stored grantId grant
  | issues new hnew grants uses =>
    by_cases hid : new.grantId = grantId
    · subst hid
      have hunknown : ¬ (grant ∈ issued trace ∧ grant.grantId = new.grantId) := by
        rw [← h.stored, hnew, hfresh.2]
        simp
      simp only [grants, Std.ExtTreeMap.getElem?_insert_self, Option.some.injEq,
        Option.toList_some, List.mem_append, List.mem_singleton]
      constructor
      · rintro rfl
        exact ⟨.inr rfl, rfl⟩
      · rintro ⟨hmem | rfl, hid⟩
        · exact absurd ⟨hmem, hid⟩ hunknown
        · rfl
    · rw [grants, Std.ExtTreeMap.getElem?_insert, if_neg (by simpa using hid), h.stored]
      constructor
      · rintro ⟨hmem, rfl⟩
        exact ⟨List.mem_append_left _ hmem, rfl⟩
      · rintro ⟨hmem, rfl⟩
        rcases List.mem_append.mp hmem with hold | hnew
        · exact ⟨hold, rfl⟩
        · obtain rfl : grant = new := by simpa using hnew
          exact absurd rfl hid

theorem keeps_uses (h : Books state trace) (hfresh : ambient.Fresh state)
    {new used : Option EnterpriseApprovalGrant}
    (hchange : GrantChange ambient state state' new used)
    {grant : EnterpriseApprovalGrant} (hgrant : grant ∈ issued trace ++ new.toList) :
    ∃ remaining : Nat, state'.remainingUses[grant.grantId]? = some remaining ∧
      remaining + (consumptions grant.grantId trace +
        if used.map (·.grantId) = some grant.grantId then 1 else 0) = grant.maximumUses := by
  cases hchange with
  | none grants uses => simpa [uses] using h.uses grant (by simpa using hgrant)
  | issues new hnew grants uses =>
    rcases List.mem_append.mp hgrant with hold | hlast
    · obtain ⟨remaining, hleft, hsum⟩ := h.uses grant hold
      have hid : new.grantId ≠ grant.grantId := by
        intro hid
        have hstored := (h.stored grant.grantId grant).mpr ⟨hold, rfl⟩
        rw [← hid, hnew, hfresh.2] at hstored
        cases hstored
      exact ⟨remaining, by simpa [uses, hid] using hleft, by simpa using hsum⟩
    · obtain rfl : grant = new := by simpa using hlast
      have hnone : consumptions grant.grantId trace = 0 := h.unused _ (hnew ▸ hfresh.2)
      exact ⟨grant.maximumUses, by simp [uses], by simp [hnone]⟩
  | consumes used remaining stored left grants uses =>
    obtain ⟨before, hleft, hsum⟩ := h.uses grant (by simpa using hgrant)
    by_cases hid : used.grantId = grant.grantId
    · rw [← hid, left] at hleft
      obtain rfl : remaining + 1 = before := Option.some.inj hleft
      refine ⟨remaining, by simp [uses, hid], ?_⟩
      simp only [Option.map_some, hid, if_true]
      omega
    · exact ⟨before, by simpa [uses, hid] using hleft, by simpa [hid] using hsum⟩

theorem keeps_unused (h : Books state trace) {new used : Option EnterpriseApprovalGrant}
    (hchange : GrantChange ambient state state' new used) {grantId : String}
    (hnone : state'.grants[grantId]? = none) :
    consumptions grantId trace + (if used.map (·.grantId) = some grantId then 1 else 0) = 0 := by
  cases hchange with
  | none grants uses => simpa using h.unused grantId (grants ▸ hnone)
  | issues new hnew grants uses =>
    rw [grants, Std.ExtTreeMap.getElem?_insert] at hnone
    split_ifs at hnone
    simpa using h.unused grantId hnone
  | consumes used remaining stored left grants uses =>
    rw [grants] at hnone
    have hid : used.grantId ≠ grantId := by
      rintro rfl
      rw [stored] at hnone
      cases hnone
    simpa [hid] using h.unused grantId hnone

theorem keeps_backed (h : Books state trace) (hfresh : ambient.Fresh state)
    (heffect : Effect service ambient directories state operation answer state')
    {grant : EnterpriseApprovalGrant}
    (hgrant : grant ∈ issued trace ++ (issuedGrant operation answer).toList) :
    ∃ case : ApprovalCase, state'.cases[grant.caseId]? = some case ∧ Backs case grant := by
  rcases List.mem_append.mp hgrant with hold | hlast
  · obtain ⟨case, hfound, hbacks⟩ := h.backed grant hold
    obtain ⟨case', hfound', hsame⟩ := heffect.case_same hfresh hfound
    exact ⟨case', hfound', hbacks.same hsame⟩
  · obtain hissued : issuedGrant operation answer = some grant := by simpa using hlast
    have hchange := heffect.grant_change
    rw [hissued] at hchange
    generalize consumedGrant operation answer = used at hchange
    cases hchange with
    | issues _ _ _ _ caseId case found own backs =>
      rw [own, h.keeps_keyed heffect found]
      exact ⟨case, found, backs⟩

theorem keeps_revoked (h : Books state trace)
    (heffect : Effect service ambient directories state operation answer state')
    (i : Nat) (shared shared' : Approvals) {before : List ApprovalEvent} {event : ApprovalEvent}
    {after : List ApprovalEvent}
    (htrace : trace ++ [⟨i, operation, answer, shared, shared'⟩] = before ++ event :: after)
    {grant : EnterpriseApprovalGrant} (hgrant : grant ∈ issued before)
    (hrevokes : revokes event.call event.answer grant) :
    grant.grantId ∈ state'.revokedGrants := by
  rcases List.eq_nil_or_concat after with rfl | ⟨rest, last, rfl⟩
  · obtain ⟨rfl, hevent⟩ := List.append_inj' htrace rfl
    obtain rfl := List.singleton_inj.mp hevent
    exact heffect.revocations.2 _ grant ((h.stored _ grant).mpr ⟨hgrant, rfl⟩) hrevokes
  · rw [List.concat_eq_append, ← List.cons_append, ← List.append_assoc] at htrace
    obtain ⟨htrace, -⟩ := List.append_inj' htrace rfl
    exact heffect.revocations.1 _ (h.revoked before event rest htrace grant hgrant hrevokes)

theorem keeps (h : Books state trace) (hfresh : ambient.Fresh state)
    (heffect : Effect service ambient directories state operation answer state')
    (i : Nat) (shared shared' : Approvals) :
    Books state' (trace ++ [⟨i, operation, answer, shared, shared'⟩]) where
  keyed _ _ hfound := h.keeps_keyed heffect hfound
  stored grantId grant := by
    rw [issued_snoc]
    exact h.keeps_stored hfresh heffect.grant_change grantId grant
  uses grant hgrant := by
    rw [issued_snoc] at hgrant
    rw [consumptions_snoc]
    exact h.keeps_uses hfresh heffect.grant_change hgrant
  unused grantId hnone := by
    rw [consumptions_snoc]
    exact h.keeps_unused heffect.grant_change hnone
  backed grant hgrant := by
    rw [issued_snoc] at hgrant
    exact h.keeps_backed hfresh heffect hgrant
  revoked _ _ _ htrace _ hgrant hrevokes :=
    h.keeps_revoked heffect i shared shared' htrace hgrant hrevokes

end Keeps

end Books

variable {service : EnterpriseApprovalService} {cfg : ApprovalConfig}

/-- **Bookkeeping**: the books are right in every run, before each event and at its end. -/
theorem books (hreach : (system service).Reachable .default cfg) :
    Books cfg.shared.state cfg.trace ∧
    ∀ before event after, cfg.trace = before ++ event :: after →
      Books event.before.state before ∧
      serve service event.before event.call event.answer event.after := by
  refine hreach.always (I := fun shared trace => Books shared.state trace) ?_ ?_ Books.initial
  · intro shared trace i operation answer shared' hbooks hserve
    obtain ⟨ambient, directories, hfresh, _, heffect⟩ := serve_effect hserve
    exact hbooks.keeps hfresh heffect i shared shared'
  · rintro shared trace shared' hbooks ⟨hstate, _⟩
    rwa [hstate]

-- Consumption

theorem Effect.consumes {ambient : Ambient} {directories : Nat → ApproverDirectory}
    {state state' : ApprovalState} {grant : EnterpriseApprovalGrant}
    {binding : ApprovalExecutionBinding} {now : DateTime} {remaining : Nat}
    (h : Effect service ambient directories state (.verifyAndConsume grant binding now)
      (.ok remaining) state') :
    ∃ case, Consumes service directories state grant binding now case := by
  cases h with
  | refused _ _ hrefused => cases hrefused
  | consumed _ _ _ case _ consumes => exact ⟨case, consumes⟩

theorem recheck_ok {case : ApprovalCase} {tenantId : TenantId} {now : DateTime}
    {subjects : List String} {directories : Nat → ApproverDirectory}
    (h : EnterpriseApprovalService.recheck case tenantId now subjects directories = .ok ()) :
    ∀ subject ∈ subjects, ∃ i approver, (directories i).resolve tenantId subject = .ok approver ∧
      SoDEngine.validate case approver now = .ok () := by
  induction subjects generalizing directories with
  | nil => simp
  | cons first rest ih =>
    simp only [EnterpriseApprovalService.recheck, except_bind_eq_ok, except_mapError_eq_ok] at h
    obtain ⟨approver, hresolve, ⟨⟩, hvalid, hrechecked⟩ := h
    intro subject hsubject
    rcases List.mem_cons.mp hsubject with rfl | hrest
    · exact ⟨0, approver, hresolve, hvalid⟩
    · obtain ⟨i, hi⟩ := ih hrechecked subject hrest
      exact ⟨i + 1, hi⟩

theorem Upserts.rfl {directory : ApproverDirectory} : Upserts directory directory :=
  Relation.ReflTransGen.refl

theorem During.between {first last : ApproverDirectory} {directories : Nat → ApproverDirectory}
    (h : During first directories last) (i : Nat) : Upserts first (directories i) := by
  induction i with
  | zero => exact h.start
  | succ i ih => exact Relation.ReflTransGen.trans ih (h.next i)

structure Fits (binding : ApprovalExecutionBinding) (grant : EnterpriseApprovalGrant) : Prop where
  tenantId : binding.tenantId = grant.tenantId
  taskId : binding.taskId = grant.taskId
  stepId : binding.stepId = grant.stepId
  actionHash : binding.actionHash = grant.actionHash
  planHash : binding.planHash = grant.planHash
  parameterHash : binding.parameterHash = grant.parameterHash
  resource : binding.resource = grant.resource
  resourceVersion : binding.resourceVersion = grant.resourceVersion
  policyVersion : binding.policyVersion = grant.policyVersion
  environment : binding.environment = grant.environment
  risk : binding.risk.rank ≤ grant.maximumRisk.rank

theorem matchesGrant_iff {binding : ApprovalExecutionBinding} {grant : EnterpriseApprovalGrant} :
    binding.matchesGrant grant = true ↔ Fits binding grant := by
  simp only [ApprovalExecutionBinding.matchesGrant, Bool.and_eq_true, decide_eq_true_eq]
  constructor
  · rintro ⟨⟨⟨⟨⟨⟨⟨⟨⟨⟨h1, h2⟩, h3⟩, h4⟩, h5⟩, h6⟩, h7⟩, h8⟩, h9⟩, h10⟩, h11⟩
    exact ⟨h1, h2, h3, h4, h5, h6, h7, h8, h9, h10, h11⟩
  · rintro ⟨h1, h2, h3, h4, h5, h6, h7, h8, h9, h10, h11⟩
    exact ⟨⟨⟨⟨⟨⟨⟨⟨⟨⟨h1, h2⟩, h3⟩, h4⟩, h5⟩, h6⟩, h7⟩, h8⟩, h9⟩, h10⟩, h11⟩

structure Justified (before : List ApprovalEvent) (event : ApprovalEvent)
    (grant : EnterpriseApprovalGrant) (binding : ApprovalExecutionBinding) (now : DateTime) :
    Prop where
  stored : event.before.state.grants[grant.grantId]? = some grant
  known : grant ∈ issued before
  started : grant.issuedAt ≤ now
  current : now < grant.expiresAt
  fits : Fits binding grant
  unrevoked : ∀ earlier revocation later, before = earlier ++ revocation :: later →
    grant ∈ issued earlier → ¬ revokes revocation.call revocation.answer grant
  approvers : ∃ case : ApprovalCase, event.before.state.cases[grant.caseId]? = some case ∧
    ∀ subject ∈ grant.approverSubjects, ∃ directory approver,
      Upserts event.before.directory directory ∧ Upserts directory event.after.directory ∧
      directory.resolve grant.tenantId subject = .ok approver ∧
      SoDEngine.validate case approver now = .ok ()

theorem verifyGrantSignature_ok {grant : EnterpriseApprovalGrant} {now : DateTime}
    (h : service.verifyGrantSignature grant now = .ok ()) :
    grant.issuedAt ≤ now ∧ now < grant.expiresAt := by
  unfold EnterpriseApprovalService.verifyGrantSignature at h
  split at h
  · cases h
  · next hpassed =>
    simp only [not_or] at hpassed
    obtain ⟨_, _, _, hstarted, hcurrent, _⟩ := hpassed
    exact ⟨Int.not_lt.mp hstarted, Int.not_le.mp hcurrent⟩

theorem justified_of_consumes {directories : Nat → ApproverDirectory}
    {before : List ApprovalEvent} {event : ApprovalEvent} {grant : EnterpriseApprovalGrant}
    {binding : ApprovalExecutionBinding} {now : DateTime} {case : ApprovalCase}
    (hbooks : Books event.before.state before)
    (hduring : During event.before.directory directories event.after.directory)
    (h : Consumes service directories event.before.state grant binding now case) :
    Justified before event grant binding now where
  stored := h.stored
  known := ((hbooks.stored _ _).mp h.stored).1
  started := (verifyGrantSignature_ok h.signed).1
  current := (verifyGrantSignature_ok h.signed).2
  fits := matchesGrant_iff.mp h.bound
  unrevoked earlier revocation later htrace hknown hrevokes :=
    h.unrevoked (hbooks.revoked earlier revocation later htrace grant hknown hrevokes)
  approvers := by
    refine ⟨case, h.found, fun subject hsubject => ?_⟩
    obtain ⟨i, approver, hresolve, hvalid⟩ := recheck_ok h.rechecked subject hsubject
    exact ⟨directories i, approver, hduring.between i, hduring.stop i, hresolve, hvalid⟩

/-- **Accounting of uses**: in every run the uses left of a grant and its consumptions add up to
those it was issued with. -/
theorem grants_accounted (service : EnterpriseApprovalService) {cfg : ApprovalConfig}
    (hreach : (system service).Reachable .default cfg) :
    (∀ grant ∈ issued cfg.trace, ∃ (remaining : Nat) (case : ApprovalCase),
      cfg.shared.state.remainingUses[grant.grantId]? = some remaining ∧
      remaining + consumptions grant.grantId cfg.trace = grant.maximumUses ∧
      cfg.shared.state.cases[grant.caseId]? = some case ∧
      consumptions grant.grantId cfg.trace ≤
        min case.request.requestedUses case.policy.maximumUses) ∧
    ∀ before event after, cfg.trace = before ++ event :: after →
      ∀ grant binding now remaining,
        event.entry = ⟨.verifyAndConsume grant binding now, .ok remaining⟩ →
        Justified before event grant binding now := by
  obtain ⟨hbooks, hevents⟩ := books hreach
  constructor
  · intro grant hgrant
    obtain ⟨remaining, hleft, hsum⟩ := hbooks.uses grant hgrant
    obtain ⟨case, hfound, hbacks⟩ := hbooks.backed grant hgrant
    refine ⟨remaining, case, hleft, hsum, hfound, ?_⟩
    rw [← hbacks.maximumUses, ← hsum]
    exact Nat.le_add_left _ _
  · rintro before ⟨i, _, _, shared, shared'⟩ after htrace grant binding now remaining hentry
    cases hentry
    obtain ⟨hbefore, hserve⟩ := hevents _ _ _ htrace
    obtain ⟨ambient, directories, _, hduring, heffect⟩ := serve_effect hserve
    obtain ⟨case, hconsumes⟩ := heffect.consumes
    exact justified_of_consumes hbefore hduring hconsumes

/-- The sample grant is used once, and one of its two uses is left. -/
theorem grants_accounted_sample :
    issued (sampleSession .action (sampleUse .action)) = [sampleGrant .action 4 ["alice"] 1] ∧
    consumptions (sampleUuid 4).toStr (sampleSession .action (sampleUse .action)) = 1 ∧
    ∃ remaining : Nat,
      (sampleEnd .action (sampleUse .action)).remainingUses[(sampleUuid 4).toStr]? =
        some remaining ∧
        remaining + 1 = 2 := by
  have hissued : issued (sampleSession .action (sampleUse .action)) =
      [sampleGrant .action 4 ["alice"] 1] := by decide
  have hused : consumptions (sampleUuid 4).toStr (sampleSession .action (sampleUse .action)) =
      1 := by decide
  obtain ⟨threads, hreach⟩ := reachable_sample .action (by decide) (sampleUse .action)
    (by decide)
  obtain ⟨haccounted, -⟩ := grants_accounted sampleService hreach
  obtain ⟨remaining, case, hleft, hsum, -⟩ := haccounted (sampleGrant .action 4 ["alice"] 1)
    (by simp [sampleRun, hissued])
  refine ⟨hissued, hused, remaining, hleft, ?_⟩
  calc remaining + 1 = remaining + consumptions (sampleUuid 4).toStr
        (sampleSession .action (sampleUse .action)) := by rw [hused]
    _ = 2 := hsum

end AgentSphere.Approval
