import AgentSphere.Orchestrator.Leases

/-!
# Creating a task again

`create` answers a repeated request with the record it already has. It looks for that record
after it has compared the number of tasks with the limit, so that a service that is full refuses
the request it would otherwise answer without storing anything.
-/

namespace AgentSphere.Orchestrator

namespace TaskTransitionService

/-- The hashes of the record have the length that `create` asks for. -/
structure Hashed (record : TaskRuntimeRecord) : Prop where
  goal : record.goalHash.utf8ByteSize = 64
  plan : record.planHash.utf8ByteSize = 64

def TasksHashed (service : TaskTransitionService) : Prop :=
  ∀ (key : TenantId × TaskId) record, service.tasks[key]? = some record → Hashed record

variable {service : TaskTransitionService} {codec : OrchestratorCodec}

theorem TasksHashed.put (h : service.TasksHashed) {key : TenantId × TaskId}
    {record : TaskRuntimeRecord} (hrecord : Hashed record) :
    (service.put key record).TasksHashed := by
  intro key' record' hfound
  rw [put_tasks, BTreeMap.getElem?_insert_ite] at hfound
  split_ifs at hfound with hkey
  · obtain rfl := Option.some.inj hfound
    exact hrecord
  · exact h key' record' hfound

theorem create_hashed {checkedAt now : DateTime} {tenantId : TenantId} {taskId : TaskId}
    {goal : SignedGoal} {plan : PlanManifest} (hashed : service.TasksHashed) :
    (service.create checkedAt now tenantId taskId goal plan).2.TasksHashed := by
  unfold create
  split_ifs with hinvalid hfull
  · exact hashed
  · exact hashed
  · simp only [not_or, not_not] at hinvalid
    obtain ⟨-, hgoal, hplan, -⟩ := hinvalid
    split
    · split_ifs
      · exact hashed
      · exact hashed
    · exact hashed.put ⟨hgoal, hplan⟩

theorem perform_hashed (hok : service.TasksOk) (hashed : service.TasksHashed)
    (operation : Operation) : (service.perform codec operation).TasksHashed := by
  cases operation with
  | create => exact create_hashed hashed
  | attachLease now tenant task lease =>
    obtain ⟨e, heq⟩ | ⟨record, hfound, -, -, -, -, heq⟩ :=
      service.attachLease_cases now tenant task lease
    · rwa [perform, heq]
    · rw [perform, heq]
      have hrecord := hashed _ record hfound
      exact hashed.put ⟨hrecord.goal, hrecord.plan⟩
  | revokeLease tenant task newEpoch =>
    obtain ⟨e, heq⟩ | ⟨record, hfound, -, heq⟩ :=
      service.revokeLease_cases tenant task newEpoch
    · rwa [perform, heq]
    · rw [perform, heq]
      have hrecord := hashed _ record hfound
      exact hashed.put ⟨hrecord.goal, hrecord.plan⟩
  | checkpoint => exact hashed
  | bindExecution now tenant task stepId executionId hasSideEffects =>
    obtain heq | ⟨record, step, hfound, heq⟩ := service.bindExecution_cases now tenant
      task stepId executionId hasSideEffects
    · rwa [perform, heq]
    · rw [perform, heq]
      have hrecord := hashed _ record hfound
      exact hashed.put ⟨hrecord.goal, hrecord.plan⟩
  | restart maximumTasks maximumEvents =>
    intro key record hfound
    rw [perform, restart_tasks hok] at hfound
    exact hashed key record hfound

theorem run_hashed (hok : service.TasksOk) (hashed : service.TasksHashed)
    (operations : List Operation) : (service.run codec operations).TasksHashed := by
  induction operations using List.reverseRecOn with
  | nil => exact hashed
  | append_singleton operations operation ih =>
    rw [run_append]
    exact perform_hashed (run_ok hok operations) ih operation

theorem new_hashed {maximumTasks maximumEvents : Nat}
    (h : new maximumTasks maximumEvents = .ok service) : service.TasksHashed := by
  unfold new at h
  split_ifs at h
  obtain rfl := Except.ok.inj h
  intro key record hfound
  simp at hfound

end TaskTransitionService

open TaskTransitionService

/-- **A repeated request** gets the existing record and changes nothing exactly if the plan is made
for the goal and the service is not full. -/
theorem create_again_iff (codec : OrchestratorCodec) {maximumTasks maximumEvents : Nat}
    {start : TaskTransitionService} (hnew : new maximumTasks maximumEvents = .ok start)
    (operations : List Operation) {service : TaskTransitionService}
    (hservice : service = start.run codec operations) (checkedAt now : DateTime)
    (tenantId : TenantId) (taskId : TaskId) {existing : TaskRuntimeRecord}
    (hfound : service.tasks[(tenantId, taskId)]? = some existing) (goal : SignedGoal)
    (plan : PlanManifest) (hgoal : existing.goalHash = goal.goalHash)
    (hplan : existing.planHash = plan.planHash) (hvalid : checkedAt < plan.validUntil) :
    service.create checkedAt now tenantId taskId goal plan = (.ok existing, service) ↔
      plan.goalHash = goal.goalHash ∧ service.tasks.size < service.maximumTasks := by
  have hashed : Hashed existing := by
    rw [hservice] at hfound
    exact run_hashed (new_ok hnew) (new_hashed hnew) operations _ _ hfound
  have hgoalSize : goal.goalHash.utf8ByteSize = 64 := hgoal ▸ hashed.goal
  have hplanSize : plan.planHash.utf8ByteSize = 64 := hplan ▸ hashed.plan
  unfold create
  constructor
  · intro hanswer
    split_ifs at hanswer with hinvalid hfull
    · cases congrArg Prod.fst hanswer
    · cases congrArg Prod.fst hanswer
    · simp only [not_or, not_not] at hinvalid
      exact ⟨hinvalid.1.symm, Nat.not_le.mp hfull⟩
  · rintro ⟨hsame, hroom⟩
    have hintent : ¬(goal.goalHash ≠ plan.goalHash ∨ goal.goalHash.utf8ByteSize ≠ 64 ∨
        plan.planHash.utf8ByteSize ≠ 64 ∨ plan.validUntil ≤ checkedAt) := by
      simp only [not_or, not_not]
      exact ⟨hsame.symm, hgoalSize, hplanSize, Int.not_le.mpr hvalid⟩
    rw [if_neg hintent, if_neg (Nat.not_le.mpr hroom), hfound]
    exact if_pos ⟨hgoal, hplan⟩

def sampleCreation : Operation :=
  .create 0 0 "tenant" "task" ⟨sampleHash 'a'⟩ samplePlanManifest

theorem create_again_iff_sampleCreation :
    ∃ start service existing, new 2 1 = .ok start ∧
      service = start.run sampleOrchestratorCodec [sampleCreation] ∧
      service.create 1 1 "tenant" "task" ⟨sampleHash 'a'⟩ samplePlanManifest =
        (.ok existing, service) := by
  let start : TaskTransitionService := ⟨2, 1, ∅, []⟩
  let service := start.run sampleOrchestratorCodec [sampleCreation]
  let existing := createdRecord 0 "tenant" "task" ⟨sampleHash 'a'⟩ samplePlanManifest
  have hnew : new 2 1 = .ok start := rfl
  have hservice : service = start.put ("tenant", "task") existing := rfl
  have hfound : service.tasks[(("tenant", "task") : TenantId × TaskId)]? = some existing := by
    rw [hservice, put_tasks, BTreeMap.getElem?_insert_ite, if_pos rfl]
  refine ⟨start, service, existing, hnew, rfl, ?_⟩
  exact (create_again_iff sampleOrchestratorCodec hnew [sampleCreation] rfl 1 1 "tenant" "task"
    hfound ⟨sampleHash 'a'⟩ samplePlanManifest rfl rfl (by decide)).mpr
    ⟨rfl, by decide⟩

/-- A service with room for one task refuses the second request for the task it holds. -/
theorem full_service_refuses_again :
    ∃ start service existing, new 1 1 = .ok start ∧
      service = start.run sampleOrchestratorCodec [sampleCreation] ∧
      service.tasks[(("tenant", "task") : TenantId × TaskId)]? = some existing ∧
      existing.goalHash = sampleHash 'a' ∧ existing.planHash = samplePlanManifest.planHash ∧
      1 < samplePlanManifest.validUntil ∧
      (service.create 1 1 "tenant" "task" ⟨sampleHash 'a'⟩ samplePlanManifest).1 =
        .error .capacityExceeded := by
  let start : TaskTransitionService := ⟨1, 1, ∅, []⟩
  let service := start.run sampleOrchestratorCodec [sampleCreation]
  let existing := createdRecord 0 "tenant" "task" ⟨sampleHash 'a'⟩ samplePlanManifest
  have hservice : service = start.put ("tenant", "task") existing := rfl
  have hfound : service.tasks[(("tenant", "task") : TenantId × TaskId)]? = some existing := by
    rw [hservice, put_tasks, BTreeMap.getElem?_insert_ite, if_pos rfl]
  have hfull : (service.create 1 1 "tenant" "task" ⟨sampleHash 'a'⟩ samplePlanManifest).1 =
      .error .capacityExceeded := by
    have hintent : ¬(sampleHash 'a' ≠ samplePlanManifest.goalHash ∨
        (sampleHash 'a').utf8ByteSize ≠ 64 ∨ samplePlanManifest.planHash.utf8ByteSize ≠ 64 ∨
        samplePlanManifest.validUntil ≤ 1) := by decide
    have hsize : service.maximumTasks ≤ service.tasks.size := by decide
    unfold create
    rw [if_neg hintent, if_pos hsize]
  exact ⟨start, service, existing, rfl, rfl, hfound, rfl, rfl, by decide, hfull⟩

end AgentSphere.Orchestrator
