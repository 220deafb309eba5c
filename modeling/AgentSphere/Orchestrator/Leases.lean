import AgentSphere.Orchestrator.Runtime
import AgentSphere.Lib.Program

/-!
# Continuous authorization

The in-memory task service attaches authorization leases to tasks, revokes them by raising the
epoch of the task and lets a checkpoint pass only under the attached lease. Every operation runs
under one lock, so that a run is a sequence of operations. A restart writes the service out and
reads the document back, with limits of its own.

Transitions between statuses are compiled for tests only and come with the events they leave;
`get` is left out.
-/

namespace AgentSphere.Orchestrator

def orchestratorSchemaVersion : String := "agenttrust.orchestrator.v1"

structure AuthorizationLease where
  schemaVersion : SchemaVersion
  leaseId : String
  taskId : TaskId
  goalHash : String
  planHash : String
  policySnapshot : String
  allowedTools : List ToolRef
  allowedResources : BTreeSet String
  revocationEpoch : Nat
  validUntil : DateTime

structure SignedGoal where
  goalHash : String

structure PlanStep where
  stepId : StepId

structure PlanManifest where
  goalHash : String
  planHash : String
  steps : List PlanStep
  validUntil : DateTime

structure StepRuntimeRecord where
  schemaVersion : String
  stepId : String
  status : TaskStatus
  stableIdempotencyKey : String
  ledgerExecutionId : Option ExecutionId
  attempt : Nat
  updatedAt : DateTime

structure TaskRuntimeRecord where
  schemaVersion : String
  tenantId : TenantId
  taskId : TaskId
  status : TaskStatus
  goalHash : String
  planHash : String
  policySnapshot : Option String
  authorizationLease : Option AuthorizationLease
  authorizationEpoch : Nat
  steps : BTreeMap String StepRuntimeRecord
  hasSideEffects : Bool
  evidenceRefs : BTreeSet String
  processedCommands : BTreeSet String
  lastEvaluation : Option EvaluationResult
  recoveryCursor : Nat
  updatedAt : DateTime

structure AuthorizationCheckpoint where
  schemaVersion : String
  taskId : TaskId
  checkpoint : String
  goalHash : String
  planHash : String
  policySnapshot : String
  leaseId : String
  riskSignalDigest : String
  checkedAt : DateTime

structure WorkflowEvent where
  schemaVersion : String
  eventId : String
  taskId : TaskId
  commandId : String
  source : TaskStatus
  target : TaskStatus
  recoveryCursor : Nat
  evidenceDigest : String
  occurredAt : DateTime

structure OrchestratorSnapshot where
  schemaVersion : String
  tasks : List TaskRuntimeRecord
  events : List WorkflowEvent

inductive OrchestratorError where
  | configurationInvalid
  | intentInvalid
  | capacityExceeded
  | notFound
  | idempotencyConflict
  | authorizationInvalid
  | commandInvalid
  | concurrentCommand
  | transitionDenied
  | completionEvidenceMissing
  | containmentIncomplete
  | persistenceFailed
  deriving DecidableEq, Repr

/-- The JSON codec behind `snapshot` and `restore`: reading may fail, but what is read back is
what was written. -/
structure OrchestratorCodec where
  toVec : OrchestratorSnapshot → Option ByteArray
  fromSlice : ByteArray → Option OrchestratorSnapshot
  fromSlice_toVec : ∀ {snapshot bytes snapshot'}, toVec snapshot = some bytes →
    fromSlice bytes = some snapshot' → snapshot' = snapshot

structure TaskTransitionService where
  maximumTasks : Nat
  maximumEvents : Nat
  tasks : BTreeMap (TenantId × TaskId) TaskRuntimeRecord
  events : List WorkflowEvent

namespace TaskTransitionService

def new (maximumTasks maximumEvents : Nat) : Except OrchestratorError TaskTransitionService :=
  if maximumTasks = 0 ∨ maximumEvents = 0 then .error .configurationInvalid
  else .ok { maximumTasks, maximumEvents, tasks := ∅, events := [] }

variable (service : TaskTransitionService)

def put (key : TenantId × TaskId) (record : TaskRuntimeRecord) : TaskTransitionService :=
  { service with tasks := service.tasks.insert key record }

def createdRecord (now : DateTime) (tenantId : TenantId) (taskId : TaskId) (goal : SignedGoal)
    (plan : PlanManifest) : TaskRuntimeRecord where
  schemaVersion := orchestratorSchemaVersion
  tenantId := tenantId
  taskId := taskId
  status := .created
  goalHash := goal.goalHash
  planHash := plan.planHash
  policySnapshot := none
  authorizationLease := none
  authorizationEpoch := 0
  steps := Std.ExtTreeMap.ofList
    (plan.steps.map fun step => (step.stepId,
      { schemaVersion := orchestratorSchemaVersion, stepId := step.stepId, status := .created
        stableIdempotencyKey := taskId ++ ":" ++ step.stepId, ledgerExecutionId := none
        attempt := 0, updatedAt := now })) compare
  hasSideEffects := false
  evidenceRefs := ∅
  processedCommands := ∅
  lastEvaluation := none
  recoveryCursor := 0
  updatedAt := now

/-- `create`. The clock is read twice: for the check of the plan and for the record. -/
def create (checkedAt now : DateTime) (tenantId : TenantId) (taskId : TaskId) (goal : SignedGoal)
    (plan : PlanManifest) :
    Except OrchestratorError TaskRuntimeRecord × TaskTransitionService :=
  if goal.goalHash ≠ plan.goalHash ∨ goal.goalHash.utf8ByteSize ≠ 64 ∨
      plan.planHash.utf8ByteSize ≠ 64 ∨ plan.validUntil ≤ checkedAt then
    (.error .intentInvalid, service)
  else if service.maximumTasks ≤ service.tasks.size then (.error .capacityExceeded, service)
  else
    match service.tasks[(tenantId, taskId)]? with
    | some existing =>
      if existing.goalHash = goal.goalHash ∧ existing.planHash = plan.planHash then
        (.ok existing, service)
      else (.error .idempotencyConflict, service)
    | none =>
      let record := createdRecord now tenantId taskId goal plan
      (.ok record, service.put (tenantId, taskId) record)

def withLease (record : TaskRuntimeRecord) (lease : AuthorizationLease) : TaskRuntimeRecord :=
  { record with
    policySnapshot := some lease.policySnapshot
    authorizationEpoch := lease.revocationEpoch
    authorizationLease := some lease }

def attachLease (now : DateTime) (tenant : TenantId) (task : TaskId) (lease : AuthorizationLease) :
    Except OrchestratorError Unit × TaskTransitionService :=
  match service.tasks[(tenant, task)]? with
  | none => (.error .notFound, service)
  | some record =>
    if lease.taskId ≠ task ∨ lease.goalHash ≠ record.goalHash ∨ lease.planHash ≠ record.planHash ∨
        lease.validUntil ≤ now ∨ lease.revocationEpoch < record.authorizationEpoch then
      (.error .authorizationInvalid, service)
    else
      (.ok (), service.put (tenant, task) (withLease record lease))

def checkpoint (tenant : TenantId) (task : TaskId) (checkpoint riskSignalDigest : String)
    (now : DateTime) : Except OrchestratorError AuthorizationCheckpoint :=
  match service.tasks[(tenant, task)]? with
  | none => .error .notFound
  | some record =>
    match record.authorizationLease with
    | none => .error .authorizationInvalid
    | some lease =>
      if checkpoint.isEmpty ∨ riskSignalDigest.utf8ByteSize ≠ 64 ∨ lease.validUntil ≤ now ∨
          lease.revocationEpoch < record.authorizationEpoch ∨ lease.goalHash ≠ record.goalHash ∨
          lease.planHash ≠ record.planHash then
        .error .authorizationInvalid
      else
        .ok
          { schemaVersion := orchestratorSchemaVersion, taskId := task, checkpoint
            goalHash := record.goalHash, planHash := record.planHash
            policySnapshot := lease.policySnapshot, leaseId := lease.leaseId, riskSignalDigest
            checkedAt := now }

def withoutLease (record : TaskRuntimeRecord) (newEpoch : Nat) : TaskRuntimeRecord :=
  { record with authorizationEpoch := newEpoch, authorizationLease := none }

def revokeLease (tenant : TenantId) (task : TaskId) (newEpoch : Nat) :
    Except OrchestratorError Unit × TaskTransitionService :=
  match service.tasks[(tenant, task)]? with
  | none => (.error .notFound, service)
  | some record =>
    if newEpoch ≤ record.authorizationEpoch then (.error .authorizationInvalid, service)
    else (.ok (), service.put (tenant, task) (withoutLease record newEpoch))

def withExecution (now : DateTime) (record : TaskRuntimeRecord) (step : StepRuntimeRecord)
    (stepId : String) (executionId : ExecutionId) (hasSideEffects : Bool) : TaskRuntimeRecord :=
  { record with
    steps := record.steps.insert stepId
      { step with
        ledgerExecutionId := some executionId
        attempt := min (step.attempt + 1) (2 ^ 32 - 1)
        updatedAt := now }
    hasSideEffects := record.hasSideEffects || hasSideEffects }

def bindExecution (now : DateTime) (tenant : TenantId) (task : TaskId) (stepId : String)
    (executionId : ExecutionId) (hasSideEffects : Bool) :
    Except OrchestratorError Unit × TaskTransitionService :=
  match service.tasks[(tenant, task)]? with
  | none => (.error .notFound, service)
  | some record =>
    match record.steps[stepId]? with
    | none => (.error .notFound, service)
    | some step =>
      match step.ledgerExecutionId with
      | some existing =>
        if existing = executionId then (.ok (), service) else (.error .idempotencyConflict, service)
      | none =>
        (.ok (), service.put (tenant, task)
          (withExecution now record step stepId executionId hasSideEffects))

def snapshot (codec : OrchestratorCodec) : Except OrchestratorError ByteArray :=
  match codec.toVec
      { schemaVersion := orchestratorSchemaVersion, tasks := service.tasks.toList.map Prod.snd
        events := service.events } with
  | some bytes => .ok bytes
  | none => .error .persistenceFailed

def restore (codec : OrchestratorCodec) (bytes : ByteArray) (maximumTasks maximumEvents : Nat) :
    Except OrchestratorError TaskTransitionService :=
  match codec.fromSlice bytes with
  | none => .error .persistenceFailed
  | some snapshot =>
    if snapshot.schemaVersion ≠ orchestratorSchemaVersion ∨ maximumTasks < snapshot.tasks.length ∨
        maximumEvents < snapshot.events.length then
      .error .persistenceFailed
    else
      .ok
        { maximumTasks, maximumEvents, events := snapshot.events
          tasks := Std.ExtTreeMap.ofList
            (snapshot.tasks.map fun record => ((record.tenantId, record.taskId), record)) compare }

def restart (codec : OrchestratorCodec) (maximumTasks maximumEvents : Nat) :
    Except OrchestratorError Unit × TaskTransitionService :=
  match service.snapshot codec with
  | .error e => (.error e, service)
  | .ok bytes =>
    match restore codec bytes maximumTasks maximumEvents with
    | .error e => (.error e, service)
    | .ok restored => (.ok (), restored)

inductive Operation where
  | create (checkedAt now : DateTime) (tenantId : TenantId) (taskId : TaskId) (goal : SignedGoal)
      (plan : PlanManifest)
  | attachLease (now : DateTime) (tenant : TenantId) (task : TaskId) (lease : AuthorizationLease)
  | revokeLease (tenant : TenantId) (task : TaskId) (newEpoch : Nat)
  | checkpoint (tenant : TenantId) (task : TaskId) (checkpoint riskSignalDigest : String)
      (now : DateTime)
  | bindExecution (now : DateTime) (tenant : TenantId) (task : TaskId) (stepId : String)
      (executionId : ExecutionId) (hasSideEffects : Bool)
  | restart (maximumTasks maximumEvents : Nat)

def perform (codec : OrchestratorCodec) : Operation → TaskTransitionService
  | .create checkedAt now tenantId taskId goal plan =>
    (service.create checkedAt now tenantId taskId goal plan).2
  | .attachLease now tenant task lease => (service.attachLease now tenant task lease).2
  | .revokeLease tenant task newEpoch => (service.revokeLease tenant task newEpoch).2
  | .checkpoint .. => service
  | .bindExecution now tenant task stepId executionId hasSideEffects =>
    (service.bindExecution now tenant task stepId executionId hasSideEffects).2
  | .restart maximumTasks maximumEvents => (service.restart codec maximumTasks maximumEvents).2

def run (codec : OrchestratorCodec) (operations : List Operation) : TaskTransitionService :=
  operations.foldl (fun service operation => service.perform codec operation) service

-- One operation

structure RecordOk (key : TenantId × TaskId) (record : TaskRuntimeRecord) : Prop where
  key : (record.tenantId, record.taskId) = key
  lease : ∀ lease, record.authorizationLease = some lease →
    lease.revocationEpoch = record.authorizationEpoch ∧ lease.taskId = record.taskId ∧
      lease.goalHash = record.goalHash ∧ lease.planHash = record.planHash

def TasksOk : Prop :=
  ∀ (key : TenantId × TaskId) record, service.tasks[key]? = some record → RecordOk key record

variable {service} {codec : OrchestratorCodec}

@[simp] theorem put_tasks (key : TenantId × TaskId) (record : TaskRuntimeRecord) :
    (service.put key record).tasks = service.tasks.insert key record := rfl

theorem TasksOk.put (h : service.TasksOk) {key : TenantId × TaskId} {record : TaskRuntimeRecord}
    (hrecord : RecordOk key record) : (service.put key record).TasksOk := by
  intro key' record' hfound
  rw [put_tasks, BTreeMap.getElem?_insert_ite] at hfound
  split_ifs at hfound with hkey
  · obtain rfl := Option.some.inj hfound
    exact hkey ▸ hrecord
  · exact h key' record' hfound

theorem attachLease_cases (service : TaskTransitionService) (now : DateTime) (tenant : TenantId)
    (task : TaskId) (lease : AuthorizationLease) :
    (∃ e, service.attachLease now tenant task lease = (.error e, service)) ∨
    ∃ record, service.tasks[(tenant, task)]? = some record ∧ lease.taskId = task ∧
      lease.goalHash = record.goalHash ∧ lease.planHash = record.planHash ∧
      record.authorizationEpoch ≤ lease.revocationEpoch ∧
      service.attachLease now tenant task lease =
        (.ok (), service.put (tenant, task) (withLease record lease)) := by
  unfold attachLease
  cases hfound : service.tasks[(tenant, task)]? with
  | none => exact .inl ⟨_, rfl⟩
  | some record =>
    simp only
    split_ifs with hrefused
    · exact .inl ⟨_, rfl⟩
    · simp only [not_or, not_not, not_lt] at hrefused
      obtain ⟨htask, hgoal, hplan, -, hepoch⟩ := hrefused
      exact .inr ⟨record, rfl, htask, hgoal, hplan, hepoch, rfl⟩

theorem revokeLease_cases (service : TaskTransitionService) (tenant : TenantId) (task : TaskId)
    (newEpoch : Nat) :
    (∃ e, service.revokeLease tenant task newEpoch = (.error e, service)) ∨
    ∃ record, service.tasks[(tenant, task)]? = some record ∧
      record.authorizationEpoch < newEpoch ∧
      service.revokeLease tenant task newEpoch =
        (.ok (), service.put (tenant, task) (withoutLease record newEpoch)) := by
  unfold revokeLease
  cases hfound : service.tasks[(tenant, task)]? with
  | none => exact .inl ⟨_, rfl⟩
  | some record =>
    simp only
    split_ifs with hold
    · exact .inl ⟨_, rfl⟩
    · exact .inr ⟨record, rfl, by omega, rfl⟩

theorem create_cases (service : TaskTransitionService) (checkedAt now : DateTime)
    (tenantId : TenantId) (taskId : TaskId) (goal : SignedGoal) (plan : PlanManifest) :
    (service.create checkedAt now tenantId taskId goal plan).2 = service ∨
    (service.tasks[(tenantId, taskId)]? = none ∧
      (service.create checkedAt now tenantId taskId goal plan).2 =
        service.put (tenantId, taskId) (createdRecord now tenantId taskId goal plan)) := by
  unfold create
  split_ifs
  · exact .inl rfl
  · exact .inl rfl
  · cases hfound : service.tasks[(tenantId, taskId)]? with
    | none => exact .inr ⟨rfl, rfl⟩
    | some existing =>
      simp only
      split_ifs
      · exact .inl rfl
      · exact .inl rfl

theorem bindExecution_cases (service : TaskTransitionService) (now : DateTime)
    (tenant : TenantId) (task : TaskId) (stepId : String) (executionId : ExecutionId)
    (hasSideEffects : Bool) :
    (service.bindExecution now tenant task stepId executionId hasSideEffects).2 = service ∨
    ∃ record step, service.tasks[(tenant, task)]? = some record ∧
      (service.bindExecution now tenant task stepId executionId hasSideEffects).2 =
        service.put (tenant, task)
          (withExecution now record step stepId executionId hasSideEffects) := by
  unfold bindExecution
  cases hfound : service.tasks[(tenant, task)]? with
  | none => exact .inl rfl
  | some record =>
    simp only
    cases record.steps[stepId]? with
    | none => exact .inl rfl
    | some step =>
      simp only
      cases step.ledgerExecutionId with
      | some existing =>
        simp only
        split_ifs
        · exact .inl rfl
        · exact .inl rfl
      | none => exact .inr ⟨record, step, rfl, rfl⟩

theorem restart_tasks (hok : service.TasksOk) (maximumTasks maximumEvents : Nat) :
    (service.restart codec maximumTasks maximumEvents).2.tasks = service.tasks := by
  unfold restart snapshot
  split
  · rfl
  · rename_i bytes hbytes
    split
    · rfl
    · rename_i restored hrestored
      split at hbytes
      · rename_i written hwritten
        obtain rfl := Except.ok.inj hbytes
        unfold restore at hrestored
        split at hrestored
        · cases hrestored
        · rename_i read hread
          split_ifs at hrestored
          obtain rfl := Except.ok.inj hrestored
          obtain rfl := codec.fromSlice_toVec hwritten hread
          -- each record stands under the key it is restored under
          have hentries : (service.tasks.toList.map Prod.snd).map
              (fun record => ((record.tenantId, record.taskId), record)) =
              service.tasks.toList := by
            rw [List.map_map]
            refine (List.map_congr_left fun entry hentry => ?_).trans (List.map_id _)
            have hfound := Std.ExtTreeMap.mem_toList_iff_getElem?_eq_some.mp hentry
            exact Prod.ext (hok entry.1 entry.2 hfound).key rfl
          show Std.ExtTreeMap.ofList ((service.tasks.toList.map Prod.snd).map _) compare = _
          rw [hentries, BTreeMap.ofList_toList]
      · cases hbytes

variable (codec) in
/-- **One operation and one task**: the epoch does not go down, and a lease the task did not have
comes from `attach_lease`. -/
theorem perform_record (hok : service.TasksOk) (operation : Operation)
    {key : TenantId × TaskId} {record : TaskRuntimeRecord}
    (hfound : service.tasks[key]? = some record) :
    ∃ record', (service.perform codec operation).tasks[key]? = some record' ∧
      record.authorizationEpoch ≤ record'.authorizationEpoch ∧
      (record'.authorizationLease = record.authorizationLease ∨
        record'.authorizationLease = none ∨
        ∃ now lease, operation = .attachLease now key.1 key.2 lease ∧
          (service.attachLease now key.1 key.2 lease).1 = .ok () ∧
          record' = withLease record lease) := by
  have hsame : ∀ service' : TaskTransitionService, service'.tasks = service.tasks →
      ∃ record', service'.tasks[key]? = some record' ∧
        record.authorizationEpoch ≤ record'.authorizationEpoch ∧
        (record'.authorizationLease = record.authorizationLease ∨
          record'.authorizationLease = none ∨
          ∃ now lease, operation = .attachLease now key.1 key.2 lease ∧
            (service.attachLease now key.1 key.2 lease).1 = .ok () ∧
            record' = withLease record lease) := by
    intro service' htasks
    exact ⟨record, by rw [htasks, hfound], Nat.le_refl _, .inl rfl⟩
  have hother : ∀ key' record', key' ≠ key →
      (service.put key' record').tasks[key]? = some record := by
    intro key' record' hne
    rw [put_tasks, BTreeMap.getElem?_insert_ite, if_neg hne, hfound]
  have hself : ∀ record', (service.put key record').tasks[key]? = some record' := by
    intro record'
    rw [put_tasks, BTreeMap.getElem?_insert_ite, if_pos rfl]
  cases operation with
  | create checkedAt now tenantId taskId goal plan =>
    obtain heq | ⟨habsent, heq⟩ := service.create_cases checkedAt now tenantId taskId
      goal plan
    · exact hsame _ (congrArg (·.tasks) heq)
    · have hne : (tenantId, taskId) ≠ key := by
        rintro rfl
        rw [habsent] at hfound
        cases hfound
      rw [perform, heq, hother _ _ hne]
      exact ⟨record, rfl, Nat.le_refl _, .inl rfl⟩
  | attachLease now tenant task lease =>
    obtain ⟨e, heq⟩ | ⟨old, hold, -, -, -, hepoch, heq⟩ :=
      service.attachLease_cases now tenant task lease
    · exact hsame _ (congrArg (·.2.tasks) heq)
    · rw [perform, heq]
      by_cases hkey : (tenant, task) = key
      · subst hkey
        rw [hfound] at hold
        obtain rfl := Option.some.inj hold
        refine ⟨_, hself _, hepoch, .inr (.inr ⟨now, lease, rfl, ?_, rfl⟩)⟩
        exact congrArg (·.1) heq
      · exact ⟨record, hother _ _ hkey, Nat.le_refl _, .inl rfl⟩
  | revokeLease tenant task newEpoch =>
    obtain ⟨e, heq⟩ | ⟨old, hold, hepoch, heq⟩ :=
      service.revokeLease_cases tenant task newEpoch
    · exact hsame _ (congrArg (·.2.tasks) heq)
    · rw [perform, heq]
      by_cases hkey : (tenant, task) = key
      · subst hkey
        rw [hfound] at hold
        obtain rfl := Option.some.inj hold
        exact ⟨_, hself _, Nat.le_of_lt hepoch, .inr (.inl rfl)⟩
      · exact ⟨record, hother _ _ hkey, Nat.le_refl _, .inl rfl⟩
  | checkpoint tenant task checkpoint riskSignalDigest now => exact hsame _ rfl
  | bindExecution now tenant task stepId executionId hasSideEffects =>
    obtain heq | ⟨old, step, hold, heq⟩ := service.bindExecution_cases now tenant task
      stepId executionId hasSideEffects
    · exact hsame _ (congrArg (·.tasks) heq)
    · rw [perform, heq]
      by_cases hkey : (tenant, task) = key
      · subst hkey
        rw [hfound] at hold
        obtain rfl := Option.some.inj hold
        exact ⟨_, hself _, Nat.le_refl _, .inl rfl⟩
      · exact ⟨record, hother _ _ hkey, Nat.le_refl _, .inl rfl⟩
  | restart maximumTasks maximumEvents => exact hsame _ (restart_tasks hok _ _)

theorem perform_ok (hok : service.TasksOk) (operation : Operation) :
    (service.perform codec operation).TasksOk := by
  cases operation with
  | create checkedAt now tenantId taskId goal plan =>
    obtain heq | ⟨-, heq⟩ := service.create_cases checkedAt now tenantId taskId goal plan
    · rwa [perform, heq]
    · rw [perform, heq]
      exact hok.put ⟨rfl, fun lease hlease => nomatch hlease⟩
  | attachLease now tenant task lease =>
    obtain ⟨e, heq⟩ | ⟨record, hfound, htask, hgoal, hplan, -, heq⟩ :=
      service.attachLease_cases now tenant task lease
    · rwa [perform, heq]
    · rw [perform, heq]
      have hkey := (hok _ record hfound).key
      refine hok.put ⟨hkey, ?_⟩
      rintro attached hattached
      obtain rfl : lease = attached := Option.some.inj hattached
      exact ⟨rfl, htask.trans (congrArg Prod.snd hkey).symm, hgoal, hplan⟩
  | revokeLease tenant task newEpoch =>
    obtain ⟨e, heq⟩ | ⟨record, hfound, -, heq⟩ :=
      service.revokeLease_cases tenant task newEpoch
    · rwa [perform, heq]
    · rw [perform, heq]
      exact hok.put ⟨(hok _ record hfound).key, fun lease hlease => nomatch hlease⟩
  | checkpoint => exact hok
  | bindExecution now tenant task stepId executionId hasSideEffects =>
    obtain heq | ⟨record, step, hfound, heq⟩ := service.bindExecution_cases now tenant
      task stepId executionId hasSideEffects
    · rwa [perform, heq]
    · rw [perform, heq]
      have hrecord := hok _ record hfound
      exact hok.put ⟨hrecord.key, hrecord.lease⟩
  | restart maximumTasks maximumEvents =>
    intro key record hfound
    rw [perform, restart_tasks hok] at hfound
    exact hok key record hfound

-- Runs

theorem run_append (operations : List Operation) (operation : Operation) :
    service.run codec (operations ++ [operation]) =
      (service.run codec operations).perform codec operation := by
  simp [run, List.foldl_append]

theorem run_ok (hok : service.TasksOk) (operations : List Operation) :
    (service.run codec operations).TasksOk := by
  induction operations using List.reverseRecOn with
  | nil => exact hok
  | append_singleton operations operation ih =>
    rw [run_append]
    exact perform_ok ih operation

variable (codec) in
theorem run_record (hok : service.TasksOk) (operations : List Operation)
    {key : TenantId × TaskId} {record : TaskRuntimeRecord}
    (hfound : service.tasks[key]? = some record) :
    ∃ record', (service.run codec operations).tasks[key]? = some record' ∧
      record.authorizationEpoch ≤ record'.authorizationEpoch := by
  induction operations using List.reverseRecOn with
  | nil => exact ⟨record, hfound, Nat.le_refl _⟩
  | append_singleton operations operation ih =>
    obtain ⟨record', hfound', hepoch⟩ := ih
    obtain ⟨record'', hfound'', hepoch', -⟩ :=
      perform_record codec (run_ok hok operations) operation hfound'
    rw [run_append]
    exact ⟨record'', hfound'', Nat.le_trans hepoch hepoch'⟩

theorem new_ok {maximumTasks maximumEvents : Nat}
    (h : new maximumTasks maximumEvents = .ok service) : service.TasksOk := by
  unfold new at h
  split_ifs at h
  obtain rfl := Except.ok.inj h
  intro key record hfound
  simp at hfound

end TaskTransitionService

open TaskTransitionService

def sampleOrchestratorCodec : OrchestratorCodec where
  toVec _ := none
  fromSlice _ := none
  fromSlice_toVec := by simp

def samplePlanManifest : PlanManifest where
  goalHash := sampleHash 'a'
  planHash := sampleHash 'b'
  steps := [⟨"step"⟩]
  validUntil := 100

def sampleLease (revocationEpoch : Nat) : AuthorizationLease where
  schemaVersion := contractSchemaVersion
  leaseId := "lease"
  taskId := "task"
  goalHash := sampleHash 'a'
  planHash := sampleHash 'b'
  policySnapshot := "policy:v1"
  allowedTools := []
  allowedResources := ∅
  revocationEpoch := revocationEpoch
  validUntil := 100

end AgentSphere.Orchestrator
