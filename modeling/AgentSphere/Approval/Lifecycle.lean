import AgentSphere.Approval.Uses

/-!
# The lifecycle of an approval case

A case that has been rejected, revoked or has expired never gives another grant or use. Its
status may still be overwritten: by `approve`, which marks a case as expired before it looks at
its status, and by `reject` and `revoke_case`, which do not look at it. `revoke_task` reaches only
the grants that exist.
-/

namespace AgentSphere.Approval

open Concurrency

namespace ApprovalStatus

def final : ApprovalStatus → Bool
  | .rejected | .revoked | .expired | .consumed => true
  | .pending | .approved | .postReviewRequired => false

def closed : ApprovalStatus → Bool
  | .rejected | .revoked | .expired => true
  | _ => false

end ApprovalStatus

def ApprovalState.status (state : ApprovalState) (caseId : String) : Option ApprovalStatus :=
  state.cases[caseId]?.map (·.status)

def InSomeDirectory (event : ApprovalEvent) (P : ApproverDirectory → Prop) : Prop :=
  ∃ directory, Upserts event.before.directory directory ∧
    Upserts directory event.after.directory ∧ P directory

variable {service : EnterpriseApprovalService} {cfg : ApprovalConfig}

theorem event_effect (event : ApprovalEvent)
    (h : serve service event.before event.call event.answer event.after) :
    ∃ ambient directories, ambient.Fresh event.before.state ∧
      (∀ P : ApproverDirectory → Prop, P (directories 0) → InSomeDirectory event P) ∧
      Effect service ambient directories event.before.state event.call event.answer
        event.after.state := by
  obtain ⟨ambient, directories, hfresh, hduring, heffect⟩ := serve_effect h
  exact ⟨ambient, directories, hfresh, fun P hP => ⟨_, hduring.start, hduring.stop 0, hP⟩, heffect⟩

-- Final statuses

inductive Overwrites (directory : ApproverDirectory) (state : ApprovalState) :
    Operation → Prop where
  | approve (caseId subject reason : String) (now : DateTime) (case : ApprovalCase)
      (found : state.cases[caseId]? = some case) (ended : case.status.final = true)
      (late : case.expiresAt ≤ now) (other : case.status ≠ .expired) :
      Overwrites directory state (.approve caseId subject reason now)
  | reject (caseId subject reason : String) (now : DateTime) (case : ApprovalCase)
      (approver : ApproverIdentity) (found : state.cases[caseId]? = some case)
      (ended : case.status.final = true)
      (eligible : eligible directory case subject now = .ok approver)
      (other : case.status ≠ .rejected) :
      Overwrites directory state (.reject caseId subject reason now)
  | revokeCase (caseId : String) (case : ApprovalCase)
      (found : state.cases[caseId]? = some case) (ended : case.status.final = true)
      (other : case.status ≠ .revoked) :
      Overwrites directory state (.revokeCase caseId)

theorem Amends.keeps_final {directory : ApproverDirectory} {state : ApprovalState}
    {caseId : String} {case case' : ApprovalCase} {operation : Operation}
    (h : Amends directory caseId case operation case') (hfound : state.cases[caseId]? = some case)
    (hfinal : case.status.final = true) (hcareful : ¬ Overwrites directory state operation) :
    case'.status = case.status := by
  cases h with
  | expired subject reason now late =>
    by_contra hother
    exact hcareful (.approve _ _ _ _ case hfound hfinal late (Ne.symm hother))
  | approved _ _ _ _ approves =>
    rcases approves.undecided with hstatus | hstatus <;>
      simp [hstatus, ApprovalStatus.final] at hfinal
  | granted _ _ _ _ approves =>
    rcases approves.undecided with hstatus | hstatus <;>
      simp [hstatus, ApprovalStatus.final] at hfinal
  | rejected subject reason now approver eligible =>
    by_contra hother
    exact hcareful (.reject _ _ _ _ case approver hfound hfinal eligible (Ne.symm hother))
  | revoked =>
    by_contra hother
    exact hcareful (.revokeCase _ case hfound hfinal (Ne.symm hother))
  | reviewed _ _ _ _ _ awaits => simp [awaits, ApprovalStatus.final] at hfinal
  | consumed _ _ _ _ _ live =>
    cases hstatus : case.status <;> simp [hstatus, ApprovalStatus.final] at hfinal live ⊢

theorem Effect.refused_status {ambient : Ambient} {directories : Nat → ApproverDirectory}
    {state state' : ApprovalState} {operation : Operation} {answer : operation.Answer}
    (h : Effect service ambient directories state operation answer state')
    (hrefused : Approval.refused operation answer = true)
    (hcareful : ¬ Overwrites (directories 0) state operation) (caseId : String) :
    state'.status caseId = state.status caseId ∨
    ∃ status ∈ [ApprovalStatus.pending, .postReviewRequired, .approved],
      state.status caseId = some status ∧ state'.status caseId = some .expired := by
  cases h with
  | refused => exact .inl rfl
  | expired changed subject reason now case found late =>
    by_cases hid : changed = caseId
    · subst hid
      by_cases hsame : case.status = .expired
      · exact .inl (by simp [ApprovalState.status, found, hsame])
      · refine .inr ⟨case.status, ?_, by simp [ApprovalState.status, found],
          by simp [ApprovalState.status]⟩
        by_contra hended
        refine hcareful (.approve _ _ _ _ case found ?_ late hsame)
        cases hstatus : case.status <;> simp [hstatus, ApprovalStatus.final] at hended ⊢
    · exact .inl (by simp [ApprovalState.status, hid])
  | _ => cases hrefused

/-- A final status stays in every state of the run, and an operation that is refused changes
nothing but that a case which has not ended expires. -/
structure KeepsFinalStatus (cfg : ApprovalConfig) : Prop where
  final : ∀ before event after, cfg.trace = before ++ event :: after →
    ∀ caseId status, event.after.state.status caseId = some status → status.final = true →
      cfg.shared.state.status caseId = some status
  refused : ∀ event ∈ cfg.trace, refused event.call event.answer = true →
    ∀ caseId, event.after.state.status caseId = event.before.state.status caseId ∨
      ∃ status ∈ [ApprovalStatus.pending, .postReviewRequired, .approved],
        event.before.state.status caseId = some status ∧
        event.after.state.status caseId = some .expired

/-- **Final statuses**: in every run without a call that overwrites one. -/
theorem final_status_kept (service : EnterpriseApprovalService) {cfg : ApprovalConfig}
    (hreach : (system service).Reachable .default cfg)
    (hcareful : ∀ event ∈ cfg.trace,
      ¬ InSomeDirectory event fun directory => Overwrites directory event.before.state event.call) :
    KeepsFinalStatus cfg where
  final before event after htrace caseId status hstatus hfinal := by
    refine (hreach.after (Q := fun shared => shared.state.status caseId = some status)
      (K := fun event => ¬ InSomeDirectory event fun directory =>
        Overwrites directory event.before.state event.call) ?_ ?_ htrace hstatus).1
      fun next hnext => hcareful next (by simp [htrace, hnext])
    · intro event hserve hok hbefore
      obtain ⟨ambient, directories, hfresh, hsome, heffect⟩ := event_effect _ hserve
      obtain ⟨case, hfound, hcase⟩ := Option.map_eq_some_iff.mp hbefore
      obtain ⟨case', hfound', hfate⟩ := heffect.case_fate hfresh hfound
      refine Option.map_eq_some_iff.mpr ⟨case', hfound', ?_⟩
      rcases hfate with rfl | hamends
      · exact hcase
      · rw [← hcase]
        exact hamends.keeps_final hfound (hcase ▸ hfinal) fun hover => hok (hsome _ hover)
    · rintro shared shared' hbefore ⟨hstate, -⟩
      rwa [hstate]
  refused event hevent hrefused caseId := by
    obtain ⟨before, after, htrace⟩ := List.append_of_mem hevent
    obtain ⟨-, hserve⟩ := (books hreach).2 before event after htrace
    obtain ⟨ambient, directories, -, hsome, heffect⟩ := event_effect _ hserve
    exact heffect.refused_status hrefused
      (fun hover => hcareful event hevent (hsome _ hover)) caseId

def sampleRejection (now : DateTime) : List (Ambient × Operation) :=
  [(sampleIds 3 4, .reject (sampleUuid 1).toStr "alice" "not reviewed" 1),
    (sampleIds 5 6, .approve (sampleUuid 1).toStr "bob" "reviewed" now)]

/-- As long as the case has not expired, the rejection stands. -/
theorem final_status_kept_sample :
    (sampleEnd .action (sampleRejection 2)).status (sampleUuid 1).toStr = some .rejected := by
  obtain ⟨threads, hreach⟩ := reachable_sample .action (by decide) (sampleRejection 2)
    (by decide)
  refine (final_status_kept sampleService hreach ?_).final [sampleOpening .action] _ _ rfl
    (sampleUuid 1).toStr .rejected (by decide) rfl
  refine List.forall_mem_cons.mpr ⟨?_, List.forall_mem_cons.mpr ⟨?_, List.forall_mem_cons.mpr
    ⟨?_, by simp [session]⟩⟩⟩
  · rintro ⟨directory, -, -, hover⟩
    cases hover
  · -- the case is pending when it is rejected
    rintro ⟨directory, -, -, hover⟩
    cases hover with
    | reject _ _ _ _ case _ found ended =>
      obtain rfl : sampleCase .action = case := by simpa [sampleOpen] using found
      cases ended
  · -- it has not expired when it is approved
    rintro ⟨directory, -, -, hover⟩
    cases hover with
    | approve _ _ _ _ case found _ late =>
      have hexpires : (sampleEnd .action
          [(sampleIds 3 4, .reject (sampleUuid 1).toStr "alice" "not reviewed" 1)]).cases[
          (sampleUuid 1).toStr]?.map (·.expiresAt) = some 300000000000 := by decide
      obtain hexpires : case.expiresAt = 300000000000 := by
        simpa [sampleEnd, sessionEnd, found] using hexpires
      rw [hexpires] at late
      exact absurd late (by decide)

/-- At the end of its time a rejected case is overwritten by an approval that fails. -/
theorem final_status_overwritten :
    ∃ threads, (system sampleService).Reachable .default
      (sampleRun .action (sampleRejection 300000000000) threads) ∧
    ¬ KeepsFinalStatus (sampleRun .action (sampleRejection 300000000000) threads) := by
  obtain ⟨threads, hreach⟩ := reachable_sample .action (by decide) (sampleRejection 300000000000)
    (by decide)
  refine ⟨threads, hreach, fun hkeeps => ?_⟩
  have hend : (sampleEnd .action (sampleRejection 300000000000)).status (sampleUuid 1).toStr =
      some .rejected :=
    hkeeps.final [sampleOpening .action] _ _ rfl (sampleUuid 1).toStr .rejected
      (by decide) rfl
  exact absurd hend (by decide)

-- Revocation

theorem Amends.keeps_closed {directory : ApproverDirectory} {caseId : String}
    {case case' : ApprovalCase} {operation : Operation}
    (h : Amends directory caseId case operation case') (hclosed : case.status.closed = true) :
    case'.status.closed = true := by
  cases h with
  | expired | rejected | revoked => rfl
  | approved _ _ _ _ approves => exact hclosed
  | granted _ _ _ _ approves =>
    rcases approves.undecided with hstatus | hstatus <;>
      simp [hstatus, ApprovalStatus.closed] at hclosed
  | reviewed _ _ _ _ _ awaits => simp [awaits, ApprovalStatus.closed] at hclosed
  | consumed _ _ _ _ _ live =>
    cases hstatus : case.status <;> simp [hstatus, ApprovalStatus.closed] at hclosed live

/-- The approval of a case that was there in an earlier state, of a task that was revoked there,
and that gives a grant. -/
structure Renews (taskId : TaskId) (earlier : ApprovalState) (directory : ApproverDirectory)
    (state : ApprovalState) (caseId subject reason : String) (now : DateTime) (case : ApprovalCase)
    (approver : ApproverIdentity) : Prop where
  found : state.cases[caseId]? = some case
  ofTask : case.request.taskId = taskId
  known : earlier.cases[caseId]?.isSome = true
  approves : Approves directory case subject approver now
  enough : case.policy.minimumApprovers ≤ (case.decide approver .approve reason now).approvals

def renews (taskId : TaskId) (earlier : ApprovalState) (event : ApprovalEvent) : Prop :=
  ∃ caseId subject reason now, event.call = .approve caseId subject reason now ∧
    InSomeDirectory event fun directory => ∃ case approver,
      Renews taskId earlier directory event.before.state caseId subject reason now case approver

def TaskRevoked (taskId : TaskId) (earlier state : ApprovalState) : Prop :=
  ∀ (grantId : String) (grant : EnterpriseApprovalGrant), state.grants[grantId]? = some grant →
    grant.taskId = taskId → earlier.cases[grant.caseId]?.isSome = true →
      grant.grantId ∈ state.revokedGrants

theorem Effect.grant_origin {ambient : Ambient} {directories : Nat → ApproverDirectory}
    {state state' : ApprovalState} {operation : Operation} {answer : operation.Answer}
    (h : Effect service ambient directories state operation answer state')
    {grantId : String} {grant : EnterpriseApprovalGrant}
    (hstored : state'.grants[grantId]? = some grant) :
    state.grants[grantId]? = some grant ∨
    ∃ caseId subject reason now case approver, operation = .approve caseId subject reason now ∧
      state.cases[caseId]? = some case ∧ Approves (directories 0) case subject approver now ∧
      case.policy.minimumApprovers ≤ (case.decide approver .approve reason now).approvals ∧
      grant = service.signedGrant ambient (case.grantedBy approver reason now) now := by
  cases h with
  | granted caseId subject reason now case approver found approves enough =>
    simp only [ApprovalState.putGrant_grants, ApprovalState.putCase_grants,
      Std.ExtTreeMap.getElem?_insert] at hstored
    split_ifs at hstored
    · obtain rfl := Option.some.inj hstored
      exact .inr ⟨caseId, subject, reason, now, case, approver, rfl, found, approves, enough, rfl⟩
    · exact .inl hstored
  | consumed _ _ _ _ _ _ _ _ grants => exact .inl (grants ▸ hstored)
  | _ => exact .inl hstored

theorem consumption_open {event : ApprovalEvent} {grant : EnterpriseApprovalGrant}
    (hserve : serve service event.before event.call event.answer event.after)
    (hused : consumedGrant event.call event.answer = some grant) :
    event.before.state.grants[grant.grantId]? = some grant ∧
    grant.grantId ∉ event.before.state.revokedGrants ∧
    ∃ case : ApprovalCase, event.before.state.cases[grant.caseId]? = some case ∧
      case.status.closed = false := by
  obtain ⟨ambient, directories, -, -, heffect⟩ := event_effect _ hserve
  obtain ⟨i, operation, answer, shared, shared'⟩ := event
  cases operation with
  | verifyAndConsume presented binding now =>
    cases answer with
    | error e => cases hused
    | ok remaining =>
      obtain rfl : presented = grant := Option.some.inj hused
      obtain ⟨case, hconsumes⟩ := heffect.consumes
      refine ⟨hconsumes.stored, hconsumes.unrevoked, case, hconsumes.found, ?_⟩
      have hlive := hconsumes.live
      cases hstatus : case.status <;> simp [hstatus, ApprovalStatus.closed] at hlive ⊢
  | approve => cases answer <;> cases hused
  | _ => cases hused

theorem revokedCase_closed (hreach : (system service).Reachable .default cfg)
    {before : List ApprovalEvent} {revocation : ApprovalEvent} {between : List ApprovalEvent}
    {last : ApprovalEvent} {after : List ApprovalEvent} {caseId : String}
    (htrace : cfg.trace = before ++ revocation :: (between ++ last :: after))
    (hcall : revocation.entry = ⟨.revokeCase caseId, .ok ()⟩) :
    ∃ case : ApprovalCase, last.before.state.cases[caseId]? = some case ∧
      case.status.closed = true := by
  refine (hreach.after (Q := fun shared => ∃ case : ApprovalCase,
    shared.state.cases[caseId]? = some case ∧ case.status.closed = true) (K := fun _ => True)
    ?_ ?_ htrace ?_).2 between last after rfl fun _ _ => trivial
  · rintro event hserve - ⟨case, hfound, hclosed⟩
    obtain ⟨ambient, directories, hfresh, -, heffect⟩ := event_effect _ hserve
    obtain ⟨case', hfound', rfl | hamends⟩ := heffect.case_fate hfresh hfound
    · exact ⟨case', hfound', hclosed⟩
    · exact ⟨case', hfound', hamends.keeps_closed hclosed⟩
  · rintro shared shared' hclosed ⟨hstate, -⟩
    rwa [hstate]
  · obtain ⟨-, hserve⟩ := (books hreach).2 before revocation _ htrace
    obtain ⟨ambient, directories, -, -, heffect⟩ := event_effect _ hserve
    obtain ⟨i, operation, answer, shared, shared'⟩ := revocation
    cases hcall
    generalize hstate' : shared'.state = state' at heffect ⊢
    cases heffect with
    | refused _ _ hrefused => cases hrefused
    | revokedCase _ case found => exact ⟨{ case with status := .revoked }, by simp, rfl⟩

theorem revokedTask_revoked (hreach : (system service).Reachable .default cfg)
    {before : List ApprovalEvent} {revocation : ApprovalEvent} {between : List ApprovalEvent}
    {last : ApprovalEvent} {after : List ApprovalEvent} {taskId : TaskId}
    (htrace : cfg.trace = before ++ revocation :: (between ++ last :: after))
    (hcall : revocation.entry = ⟨.revokeTask taskId, ()⟩)
    (hkept : ∀ event ∈ between, ¬ renews taskId revocation.before.state event) :
    TaskRevoked taskId revocation.before.state last.before.state := by
  obtain ⟨-, hbooks⟩ := books hreach
  refine (hreach.after (Q := fun shared => TaskRevoked taskId revocation.before.state shared.state)
    (K := fun event => ¬ renews taskId revocation.before.state event ∧
      ∃ before, Books event.before.state before) ?_ ?_ htrace ?_).2 between last after rfl ?_
  · rintro event hserve ⟨hnot, earlier, hearlier⟩ hrevoked grantId grant hstored htask hknown
    obtain ⟨ambient, directories, -, hsome, heffect⟩ := event_effect _ hserve
    rcases heffect.grant_origin hstored with hold |
      ⟨caseId, subject, reason, now, case, approver, hoperation, hfound, happroves, henough, rfl⟩
    · exact heffect.revocations.1 _ (hrevoked grantId grant hold htask hknown)
    · have hid : case.caseId = caseId := hearlier.keyed caseId case hfound
      have hearlier' : revocation.before.state.cases[case.caseId]?.isSome = true := hknown
      rw [hid] at hearlier'
      exact absurd ⟨caseId, subject, reason, now, hoperation,
        hsome _ ⟨case, approver, hfound, htask, hearlier', happroves, henough⟩⟩ hnot
  · rintro shared shared' hrevoked ⟨hstate, -⟩
    rwa [hstate]
  · obtain ⟨-, hserve⟩ := hbooks before revocation _ htrace
    obtain ⟨ambient, directories, -, -, heffect⟩ := event_effect _ hserve
    obtain ⟨i, operation, answer, shared, shared'⟩ := revocation
    cases hcall
    intro grantId grant hstored htask _
    have hbefore : shared.state.grants[grantId]? = some grant := by
      rcases heffect.grant_origin hstored with hold | ⟨_, _, _, _, _, _, hoperation, _⟩
      · exact hold
      · cases hoperation
    exact heffect.revocations.2 grantId grant hbefore htask
  · intro event hevent
    obtain ⟨earlier, later, rfl⟩ := List.append_of_mem hevent
    refine ⟨hkept event hevent, _, (hbooks (before ++ revocation :: earlier) event
      (later ++ last :: after) (by simp [htrace])).1⟩

/-- Nothing is consumed of a revoked case, or of a task for the cases there were when it was
revoked. -/
def RevocationsFinal (cfg : ApprovalConfig) : Prop :=
  ∀ before revocation between consumption after,
    cfg.trace = before ++ revocation :: (between ++ consumption :: after) →
    ∀ grant, consumedGrant consumption.call consumption.answer = some grant →
      (∀ caseId, revocation.entry = ⟨.revokeCase caseId, .ok ()⟩ → grant.caseId ≠ caseId) ∧
      ∀ taskId, revocation.entry = ⟨.revokeTask taskId, ()⟩ → grant.taskId = taskId →
        revocation.before.state.cases[grant.caseId]? = none

/-- **Revocation**: in every run without an approval that renews a revoked task. -/
theorem revocations_final (service : EnterpriseApprovalService) {cfg : ApprovalConfig}
    (hreach : (system service).Reachable .default cfg)
    (hkept : ∀ before revocation after taskId, cfg.trace = before ++ revocation :: after →
      revocation.entry = ⟨.revokeTask taskId, ()⟩ →
        ∀ event ∈ after, ¬ renews taskId revocation.before.state event) :
    RevocationsFinal cfg := by
  intro before revocation between consumption after htrace grant hused
  obtain ⟨-, hserve⟩ := (books hreach).2 (before ++ revocation :: between) consumption after
    (by simp [htrace])
  obtain ⟨hstored, hunrevoked, case, hfound, hopen⟩ := consumption_open hserve hused
  constructor
  · rintro caseId hcall rfl
    obtain ⟨closed, hclosed, hstatus⟩ := revokedCase_closed hreach htrace hcall
    obtain rfl : case = closed := Option.some.inj (hfound.symm.trans hclosed)
    rw [hopen] at hstatus
    cases hstatus
  · intro taskId hcall htask
    have hrevoked := revokedTask_revoked hreach htrace hcall fun event hevent =>
      hkept before revocation _ taskId htrace hcall event (by simp [hevent])
    by_contra hknown
    refine hunrevoked (hrevoked _ grant hstored htask ?_)
    exact Option.isSome_iff_ne_none.mpr hknown

def sampleRenewal (taskId : TaskId) : List (Ambient × Operation) :=
  (sampleIds 7 8, .revokeTask taskId) :: sampleUse .action

def otherTask : TaskId := "44444444-4444-4444-8444-444444444444"

/-- The revocation of another task does not stand in the way of the sample grant. -/
theorem revocations_final_sample :
    ∃ threads, (system sampleService).Reachable .default
      (sampleRun .action (sampleRenewal otherTask) threads) ∧
    consumptions (sampleUuid 4).toStr (sampleSession .action (sampleRenewal otherTask)) = 1 ∧
    RevocationsFinal (sampleRun .action (sampleRenewal otherTask) threads) := by
  obtain ⟨threads, hreach⟩ := reachable_sample .action (by decide) (sampleRenewal otherTask)
    (by decide)
  have hevents : ∀ event ∈ sampleSession .action (sampleRenewal otherTask),
      (∀ taskId, event.entry = ⟨.revokeTask taskId, ()⟩ → taskId = otherTask) ∧
      ∀ earlier, ¬ renews otherTask earlier event := by
    refine List.forall_mem_cons.mpr ⟨⟨?_, ?_⟩, List.forall_mem_cons.mpr ⟨⟨?_, ?_⟩,
      List.forall_mem_cons.mpr ⟨⟨?_, ?_⟩, List.forall_mem_cons.mpr ⟨⟨?_, ?_⟩, by simp [session]⟩⟩⟩⟩
    · intro taskId hcall
      cases hcall
    · rintro earlier ⟨_, _, _, _, hcall, _⟩
      cases hcall
    · rintro taskId hcall
      cases hcall
      rfl
    · rintro earlier ⟨_, _, _, _, hcall, _⟩
      cases hcall
    · intro taskId hcall
      cases hcall
    · rintro earlier ⟨_, _, _, _, hcall, directory, -, -, case, approver, hrenews⟩
      cases hcall
      obtain rfl : sampleCase .action = case := by
        simpa [sampleOpen, EnterpriseApprovalService.perform, EnterpriseApprovalService.revokeTask]
          using hrenews.found
      exact absurd hrenews.ofTask (by decide)
    · intro taskId hcall
      cases hcall
    · rintro earlier ⟨_, _, _, _, hcall, _⟩
      cases hcall
  refine ⟨threads, hreach, by decide, revocations_final sampleService hreach ?_⟩
  intro before revocation after taskId htrace hcall event hevent
  have hmem : ∀ event ∈ revocation :: after,
      event ∈ sampleSession .action (sampleRenewal otherTask) := by
    intro event hevent
    rw [show sampleSession .action (sampleRenewal otherTask) = before ++ revocation :: after from
      htrace]
    exact List.mem_append_right _ hevent
  obtain rfl := (hevents revocation (hmem _ List.mem_cons_self)).1 taskId hcall
  exact (hevents event (hmem _ (List.mem_cons_of_mem _ hevent))).2 _

/-- The case of a revoked task that is still pending can be approved and used. -/
theorem revocation_renewed :
    ∃ threads, (system sampleService).Reachable .default
      (sampleRun .action (sampleRenewal sampleRequest.taskId) threads) ∧
    ¬ RevocationsFinal (sampleRun .action (sampleRenewal sampleRequest.taskId) threads) := by
  obtain ⟨threads, hreach⟩ := reachable_sample .action (by decide)
    (sampleRenewal sampleRequest.taskId) (by decide)
  refine ⟨threads, hreach, fun hfinal => ?_⟩
  obtain ⟨-, htask⟩ := hfinal [sampleOpening .action] _ [_] _ [] rfl
    (sampleGrant .action 4 ["alice"] 1) (by decide)
  have hnone : (sampleOpen .action).cases[(sampleUuid 1).toStr]? = none :=
    htask sampleRequest.taskId rfl rfl
  simp [sampleOpen] at hnone

end AgentSphere.Approval
