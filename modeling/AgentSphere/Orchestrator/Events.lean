import AgentSphere.Orchestrator.Bindings

/-!
# Events of a task

A command that moves a task leaves an event in a log that all tasks share. `events_for` asks for
the task of a tenant and then selects the events by the task alone, so that a task whose id
another tenant uses too is shown the events of both.
-/

namespace AgentSphere.Orchestrator

open Concurrency Machine

inductive WorkflowCommandKind where
  | plan (planHash : String)
  | policyCheck (policySnapshot : String)
  | waitForApproval
  | approve (approvalId : String)
  | start
  | pause
  | resume
  | cancel
  | beginCancelling
  | kill
  | confirmKilled
  | verify
  | complete
  | fail
  | beginCompensation
  | confirmRolledBack
  | needsHuman (reasonCode : String)

structure WorkflowCommand where
  schemaVersion : String
  commandId : String
  tenantId : TenantId
  taskId : TaskId
  expectedRecoveryCursor : Nat
  kind : WorkflowCommandKind
  requestedBy : String
  requestedAt : DateTime

structure WorkflowFacts where
  schemaVersion : String
  ledgerStatus : Option ExecutionStatus
  evaluation : Option EvaluationResult
  compensationVerified : Bool
  evidenceRefs : BTreeSet String
  credentialRevoked : Bool
  supervisorAcknowledged : Bool

def validateCommand (command : WorkflowCommand) (facts : WorkflowFacts) :
    Except OrchestratorError Unit :=
  if command.schemaVersion ≠ orchestratorSchemaVersion ∨
      facts.schemaVersion ≠ orchestratorSchemaVersion ∨ command.commandId.isEmpty ∨
      command.requestedBy.isEmpty then
    .error .commandInvalid
  else .ok ()

def targetStatus : WorkflowCommandKind → TaskStatus
  | .plan _ => .planned
  | .policyCheck _ => .policyChecked
  | .waitForApproval => .approvalPending
  | .approve _ => .approved
  | .start | .resume => .running
  | .pause => .pauseRequested
  | .cancel => .cancelRequested
  | .beginCancelling => .cancelling
  | .kill => .killRequested
  | .confirmKilled => .killed
  | .verify => .verifying
  | .complete => .completed
  | .fail => .failed
  | .beginCompensation => .compensating
  | .confirmRolledBack => .rolledBack
  | .needsHuman _ => .needsHuman

def requiresAuthorization (status : TaskStatus) : Bool :=
  status = .approved ∨ status = .running ∨ status = .verifying

def digestStrings (hash : Hasher) (values : BTreeSet String) : String :=
  hash.text ("\n".intercalate values.toList)

/-- The lease check of `request_transition`. -/
def leaseAdmits (record : TaskRuntimeRecord) (now : DateTime) : Bool :=
  record.authorizationLease.any fun lease =>
    now < lease.validUntil ∧ record.authorizationEpoch ≤ lease.revocationEpoch ∧
      lease.planHash = record.planHash

/-- The checks of `request_transition` on the record and the facts. -/
def checkTransition (now : DateTime) (record : TaskRuntimeRecord) (target : TaskStatus)
    (facts : WorkflowFacts) : Except OrchestratorError Unit :=
  if requiresAuthorization target ∧ ¬leaseAdmits record now then .error .authorizationInvalid
  else if target = .completed ∧ (facts.evidenceRefs.isEmpty ∨
      (record.hasSideEffects ∧ facts.ledgerStatus ≠ some .succeeded)) then
    .error .completionEvidenceMissing
  else if target = .killed ∧ (¬facts.credentialRevoked ∨ ¬facts.supervisorAcknowledged) then
    .error .containmentIncomplete
  else if ¬stateTransitionGuardAllows record.status target facts.evaluation record.hasSideEffects
      facts.compensationVerified then
    .error .transitionDenied
  else .ok ()

def applyKind (record : TaskRuntimeRecord) :
    WorkflowCommandKind → Except OrchestratorError TaskRuntimeRecord
  | .plan planHash =>
    if planHash ≠ record.planHash then
      .ok
        { record with
          planHash := planHash
          authorizationLease := none
          authorizationEpoch := min (record.authorizationEpoch + 1) (2 ^ 64 - 1) }
    else .ok record
  | .policyCheck policySnapshot =>
    if policySnapshot.isEmpty then .error .authorizationInvalid
    else .ok { record with policySnapshot := some policySnapshot }
  | _ => .ok record

def withTransition (now : DateTime) (record : TaskRuntimeRecord) (command : WorkflowCommand)
    (facts : WorkflowFacts) : TaskRuntimeRecord :=
  { record with
    status := targetStatus command.kind
    evidenceRefs := record.evidenceRefs ∪ facts.evidenceRefs
    lastEvaluation := facts.evaluation
    processedCommands := record.processedCommands.insert command.commandId
    recoveryCursor := min (record.recoveryCursor + 1) (2 ^ 64 - 1)
    updatedAt := now }

def transitionEvent (hash : Hasher) (eventId : Uuid) (source : TaskStatus)
    (record : TaskRuntimeRecord) (command : WorkflowCommand) : WorkflowEvent where
  schemaVersion := orchestratorSchemaVersion
  eventId := eventId.toStr
  taskId := record.taskId
  commandId := command.commandId
  source := source
  target := targetStatus command.kind
  recoveryCursor := record.recoveryCursor
  evidenceDigest := digestStrings hash record.evidenceRefs
  occurredAt := record.updatedAt

namespace TaskTransitionService

variable (service : TaskTransitionService) (hash : Hasher) (codec : OrchestratorCodec)

/-- `request_transition`. The clock is read twice: for the lease and for the record. -/
def requestTransition (checkedAt now : DateTime) (eventId : Uuid) (command : WorkflowCommand)
    (facts : WorkflowFacts) : Except OrchestratorError TaskRuntimeRecord × TaskTransitionService :=
  match validateCommand command facts with
  | .error e => (.error e, service)
  | .ok () =>
    match service.tasks[(command.tenantId, command.taskId)]? with
    | none => (.error .notFound, service)
    | some record =>
      if command.commandId ∈ record.processedCommands then (.ok record, service)
      else if command.expectedRecoveryCursor ≠ record.recoveryCursor then
        (.error .concurrentCommand, service)
      else if service.maximumEvents ≤ service.events.length then
        (.error .capacityExceeded, service)
      else
        match checkTransition checkedAt record (targetStatus command.kind) facts with
        | .error e => (.error e, service)
        | .ok () =>
          match applyKind record command.kind with
          | .error e => (.error e, service)
          | .ok applied =>
            let moved := withTransition now applied command facts
            let event := transitionEvent hash eventId record.status moved command
            (.ok moved, { service.put (command.tenantId, command.taskId) moved with
              events := service.events ++ [event] })

def eventsFor (tenant : TenantId) (task : TaskId) (afterRecoveryCursor limit : Nat) :
    Except OrchestratorError (List WorkflowEvent) :=
  if limit = 0 ∨ service.maximumEvents < limit then .error .configurationInvalid
  else if (tenant, task) ∉ service.tasks then .error .notFound
  else
    .ok ((service.events.filter fun event =>
      event.taskId = task ∧ afterRecoveryCursor < event.recoveryCursor).take limit)

end TaskTransitionService

open TaskTransitionService

inductive TaskOperation where
  | operation (operation : Operation)
  | requestTransition (checkedAt now : DateTime) (eventId : Uuid) (command : WorkflowCommand)
      (facts : WorkflowFacts)

def serveTask (hash : Hasher) (codec : OrchestratorCodec) (service : TaskTransitionService) :
    TaskOperation → Except OrchestratorError Unit × TaskTransitionService
  | .operation operation => service.serve codec operation
  | .requestTransition checkedAt now eventId command facts =>
    ((service.requestTransition hash checkedAt now eventId command facts).1.map fun _ => (),
      (service.requestTransition hash checkedAt now eventId command facts).2)

abbrev TaskEvent := Served TaskTransitionService TaskOperation (Except OrchestratorError Unit)

def appended (hash : Hasher) (served : TaskEvent) : List ((TenantId × TaskId) × WorkflowEvent) :=
  match served.call with
  | .operation _ => []
  | .requestTransition checkedAt now eventId command facts =>
    ((served.before.requestTransition hash checkedAt now eventId command facts).2.events.drop
      served.before.events.length).map fun event => ((command.tenantId, command.taskId), event)

def logOf (hash : Hasher) (calls : List TaskEvent) : List ((TenantId × TaskId) × WorkflowEvent) :=
  calls.flatMap (appended hash)

def produced (hash : Hasher) (key : TenantId × TaskId) (calls : List TaskEvent) :
    List WorkflowEvent :=
  ((logOf hash calls).filter (·.1 = key)).map (·.2)

namespace TaskTransitionService

variable {service : TaskTransitionService} {hash : Hasher} {codec : OrchestratorCodec}
  {key : TenantId × TaskId} {record applied : TaskRuntimeRecord}

theorem requestTransition_cases (service : TaskTransitionService) (hash : Hasher)
    (checkedAt now : DateTime) (eventId : Uuid) (command : WorkflowCommand)
    (facts : WorkflowFacts) :
    (∃ answer, service.requestTransition hash checkedAt now eventId command facts =
      (answer, service)) ∨
    ∃ record applied, service.tasks[(command.tenantId, command.taskId)]? = some record ∧
      service.events.length < service.maximumEvents ∧
      applyKind record command.kind = .ok applied ∧
      service.requestTransition hash checkedAt now eventId command facts =
        (.ok (withTransition now applied command facts),
          { service.put (command.tenantId, command.taskId)
              (withTransition now applied command facts) with
            events := service.events ++ [transitionEvent hash eventId record.status
              (withTransition now applied command facts) command] }) := by
  unfold requestTransition
  cases validateCommand command facts with
  | error e => exact .inl ⟨_, rfl⟩
  | ok =>
    cases hfound : service.tasks[(command.tenantId, command.taskId)]? with
    | none => exact .inl ⟨_, rfl⟩
    | some record =>
      simp only
      split_ifs with hprocessed hcursor hfull
      · exact .inl ⟨_, rfl⟩
      · exact .inl ⟨_, rfl⟩
      · exact .inl ⟨_, rfl⟩
      · cases checkTransition checkedAt record (targetStatus command.kind) facts with
        | error e => exact .inl ⟨_, rfl⟩
        | ok =>
          cases happlied : applyKind record command.kind with
          | error e => exact .inl ⟨_, rfl⟩
          | ok applied => exact .inr ⟨record, applied, rfl, by omega, happlied, rfl⟩

theorem applyKind_ok {kind : WorkflowCommandKind} (key : TenantId × TaskId)
    (h : applyKind record kind = .ok applied) :
    applied.recoveryCursor = record.recoveryCursor ∧
      (RecordOk key record → RecordOk key applied) := by
  have hsame : applied = record → applied.recoveryCursor = record.recoveryCursor ∧
      (RecordOk key record → RecordOk key applied) := by
    rintro rfl
    exact ⟨rfl, id⟩
  cases kind with
  | plan planHash =>
    simp only [applyKind] at h
    split_ifs at h
    · obtain rfl := Except.ok.inj h
      refine ⟨rfl, fun hrecord => ⟨hrecord.key, ?_⟩⟩
      intro lease hlease
      cases hlease
    · exact hsame (Except.ok.inj h).symm
  | policyCheck policySnapshot =>
    simp only [applyKind] at h
    split_ifs at h
    obtain rfl := Except.ok.inj h
    exact ⟨rfl, fun hrecord => ⟨hrecord.key, hrecord.lease⟩⟩
  | _ => exact hsame (Except.ok.inj h).symm

theorem restart_log (service : TaskTransitionService) (codec : OrchestratorCodec)
    (maximumTasks maximumEvents : Nat) :
    (service.restart codec maximumTasks maximumEvents).2.events = service.events ∧
      (service.events.length ≤ service.maximumEvents → service.events.length ≤
        (service.restart codec maximumTasks maximumEvents).2.maximumEvents) := by
  unfold restart snapshot
  cases hwritten : codec.toVec
      { schemaVersion := orchestratorSchemaVersion, tasks := service.tasks.toList.map Prod.snd
        events := service.events } with
  | none => exact ⟨rfl, id⟩
  | some bytes =>
    simp only [restore]
    cases hread : codec.fromSlice bytes with
    | none => exact ⟨rfl, id⟩
    | some snapshot =>
      obtain rfl := codec.fromSlice_toVec hwritten hread
      simp only
      split_ifs with hrefused
      · exact ⟨rfl, id⟩
      · simp only [not_or, not_lt] at hrefused
        exact ⟨rfl, fun _ => hrefused.2.2⟩

theorem perform_log (service : TaskTransitionService) (codec : OrchestratorCodec)
    (operation : Operation) :
    (service.perform codec operation).events = service.events ∧
      (service.events.length ≤ service.maximumEvents → service.events.length ≤
        (service.perform codec operation).maximumEvents) := by
  cases operation with
  | create checkedAt now tenantId taskId goal plan =>
    obtain heq | ⟨-, heq⟩ := service.create_cases checkedAt now tenantId taskId goal plan
    · rw [perform, heq]
      exact ⟨rfl, id⟩
    · rw [perform, heq]
      exact ⟨rfl, id⟩
  | attachLease now tenant task lease =>
    obtain ⟨e, heq⟩ | ⟨record, -, -, -, -, -, heq⟩ :=
      service.attachLease_cases now tenant task lease
    · rw [perform, heq]
      exact ⟨rfl, id⟩
    · rw [perform, heq]
      exact ⟨rfl, id⟩
  | revokeLease tenant task newEpoch =>
    obtain ⟨e, heq⟩ | ⟨record, -, -, heq⟩ := service.revokeLease_cases tenant task newEpoch
    · rw [perform, heq]
      exact ⟨rfl, id⟩
    · rw [perform, heq]
      exact ⟨rfl, id⟩
  | checkpoint => exact ⟨rfl, id⟩
  | bindExecution now tenant task stepId executionId hasSideEffects =>
    obtain heq | ⟨record, step, -, heq⟩ := service.bindExecution_cases now tenant task stepId
      executionId hasSideEffects
    · rw [perform, heq]
      exact ⟨rfl, id⟩
    · rw [perform, heq]
      exact ⟨rfl, id⟩
  | restart maximumTasks maximumEvents => exact service.restart_log codec maximumTasks maximumEvents

theorem perform_cursor (hok : service.TasksOk) (operation : Operation)
    (key : TenantId × TaskId) :
    ((service.perform codec operation).tasks[key]?.map (·.recoveryCursor)) =
        (service.tasks[key]?.map (·.recoveryCursor)) ∨
      (service.tasks[key]? = none ∧
        ((service.perform codec operation).tasks[key]?.map (·.recoveryCursor)) = some 0) := by
  obtain ⟨hagree, -⟩ | ⟨habsent, now, goal, plan, hcreated, -⟩ |
    ⟨now, stepId, executionId, hasSideEffects, record, step, -, -, hfound, -, hrest⟩ :=
      serve_cases codec hok operation key
  · left
    unfold AgreeOn at hagree
    cases hfound : service.tasks[key]? with
    | none =>
      cases hafter : (service.perform codec operation).tasks[key]? with
      | none => rfl
      | some record => rw [hfound, hafter] at hagree; nomatch hagree
    | some record =>
      cases hafter : (service.perform codec operation).tasks[key]? with
      | none => rw [hfound, hafter] at hagree; nomatch hagree
      | some record' =>
        rw [hfound, hafter] at hagree
        obtain ⟨hsame⟩ := hagree
        exact congrArg some hsame.recoveryCursor
  · exact .inr ⟨habsent, by rw [hcreated]; rfl⟩
  · left
    obtain ⟨-, heq⟩ | ⟨-, heq⟩ := hrest
    · rw [heq]
    · rw [heq, hfound]
      rfl

end TaskTransitionService

-- Runs

variable {service : TaskTransitionService} {hash : Hasher} {codec : OrchestratorCodec}
  {calls : List TaskEvent}

/-- The log is what the commands appended. Every entry has the id of the task its command named and
a cursor that the record of that task has reached, and the entries of one task come in the order
of their cursors. -/
structure Logged (hash : Hasher) (calls : List TaskEvent) (service : TaskTransitionService) :
    Prop where
  tasks : service.TasksOk
  cursor : ∀ (key : TenantId × TaskId) record, service.tasks[key]? = some record →
    record.recoveryCursor ≤ 2 ^ 64 - 1
  events : service.events = (logOf hash calls).map (·.2)
  full : service.events.length ≤ service.maximumEvents
  entry : ∀ entry ∈ logOf hash calls, entry.2.taskId = entry.1.2 ∧ 0 < entry.2.recoveryCursor ∧
    ∃ record, service.tasks[entry.1]? = some record ∧
      entry.2.recoveryCursor ≤ record.recoveryCursor
  ordered : (logOf hash calls).Pairwise fun entry later =>
    entry.1 = later.1 → entry.2.recoveryCursor ≤ later.2.recoveryCursor

theorem logOf_snoc (served : TaskEvent) :
    logOf hash (calls ++ [served]) = logOf hash calls ++ appended hash served := by
  simp [logOf]

theorem Logged.of_tasks (h : Logged hash calls service) {service' : TaskTransitionService}
    (hok : service'.TasksOk) (hevents : service'.events = service.events)
    (hfull : service'.events.length ≤ service'.maximumEvents)
    (hcursor : ∀ key : TenantId × TaskId,
      (service'.tasks[key]?.map (·.recoveryCursor)) = (service.tasks[key]?.map (·.recoveryCursor)) ∨
        (service.tasks[key]? = none ∧ (service'.tasks[key]?.map (·.recoveryCursor)) = some 0)) :
    Logged hash calls service' := by
  refine ⟨hok, ?_, hevents.trans h.events, hfull, ?_, h.ordered⟩
  · intro key record hfound
    obtain hsame | ⟨-, hzero⟩ := hcursor key
    · rw [hfound, Option.map_some, eq_comm, Option.map_eq_some_iff] at hsame
      obtain ⟨old, hold, hreached⟩ := hsame
      exact hreached ▸ h.cursor key old hold
    · rw [hfound, Option.map_some] at hzero
      rw [Option.some.inj hzero]
      exact Nat.zero_le _
  · intro entry hentry
    obtain ⟨htask, hpos, old, hold, hreached⟩ := h.entry entry hentry
    obtain hsame | ⟨habsent, -⟩ := hcursor entry.1
    · rw [hold, Option.map_some, Option.map_eq_some_iff] at hsame
      obtain ⟨record, hfound, heq⟩ := hsame
      exact ⟨htask, hpos, record, hfound, heq ▸ hreached⟩
    · exact nomatch habsent.symm.trans hold

theorem Logged.move (h : Logged hash calls service) {served : TaskEvent}
    {key : TenantId × TaskId} {record moved : TaskRuntimeRecord} {event : WorkflowEvent}
    (hfound : service.tasks[key]? = some record)
    (hroom : service.events.length < service.maximumEvents) (hmoved : RecordOk key moved)
    (htask : event.taskId = moved.taskId)
    (hcursor : event.recoveryCursor = moved.recoveryCursor)
    (hnext : moved.recoveryCursor = min (record.recoveryCursor + 1) (2 ^ 64 - 1))
    (happended : appended hash served = [(key, event)]) :
    Logged hash (calls ++ [served])
      { service.put key moved with events := service.events ++ [event] } := by
  have hreached := h.cursor key record hfound
  refine ⟨h.tasks.put hmoved, ?_, ?_, ?_, ?_, ?_⟩
  · intro key' record' hfound'
    rw [put_tasks, BTreeMap.getElem?_insert_ite] at hfound'
    split_ifs at hfound'
    · obtain rfl := Option.some.inj hfound'
      omega
    · exact h.cursor key' record' hfound'
  · rw [logOf_snoc, happended, List.map_append, ← h.events]
    rfl
  · rw [List.length_append]
    exact hroom
  · rw [logOf_snoc, happended]
    intro entry hentry
    rw [put_tasks, BTreeMap.getElem?_insert_ite]
    obtain hentry | hentry := List.mem_append.mp hentry
    · obtain ⟨hid, hpos, old, hold, hle⟩ := h.entry entry hentry
      refine ⟨hid, hpos, ?_⟩
      by_cases hkey : key = entry.1
      · rw [if_pos hkey]
        rw [← hkey, hfound] at hold
        obtain rfl := Option.some.inj hold
        exact ⟨moved, rfl, by omega⟩
      · rw [if_neg hkey]
        exact ⟨old, hold, hle⟩
    · obtain rfl := List.mem_singleton.mp hentry
      refine ⟨htask.trans (congrArg Prod.snd hmoved.key), by show 0 < event.recoveryCursor; omega,
        moved, if_pos rfl, hcursor.le⟩
  · rw [logOf_snoc, happended, List.pairwise_append]
    refine ⟨h.ordered, List.pairwise_singleton _ _, ?_⟩
    rintro entry hentry later hlater hkey
    obtain rfl := List.mem_singleton.mp hlater
    obtain ⟨-, -, old, hold, hle⟩ := h.entry entry hentry
    rw [hkey, hfound] at hold
    obtain rfl := Option.some.inj hold
    show entry.2.recoveryCursor ≤ event.recoveryCursor
    omega

theorem Logged.serve (h : Logged hash calls service) (call : TaskOperation) :
    Logged hash (calls ++ [Machine.serve (serveTask hash codec) service call])
      (serveTask hash codec service call).2 := by
  cases call with
  | operation operation =>
    have hlog := service.perform_log codec operation
    have hnothing : logOf hash (calls ++
        [Machine.serve (serveTask hash codec) service (.operation operation)]) =
        logOf hash calls := by
      rw [logOf_snoc]
      exact List.append_nil _
    have hnext : Logged hash calls (service.perform codec operation) :=
      h.of_tasks (perform_ok h.tasks operation) hlog.1 (hlog.1 ▸ hlog.2 h.full)
        (perform_cursor h.tasks operation)
    exact ⟨hnext.tasks, hnext.cursor, by rw [hnothing]; exact hnext.events, hnext.full,
      by rw [hnothing]; exact hnext.entry, by rw [hnothing]; exact hnext.ordered⟩
  | requestTransition checkedAt now eventId command facts =>
    obtain ⟨answer, heq⟩ | ⟨record, applied, hfound, hroom, happlied, heq⟩ :=
      service.requestTransition_cases hash checkedAt now eventId command facts
    · have hnothing : appended hash (Machine.serve (serveTask hash codec) service
          (.requestTransition checkedAt now eventId command facts)) = [] := by
        simp [appended, heq]
      have hlog : logOf hash (calls ++ [Machine.serve (serveTask hash codec) service
          (.requestTransition checkedAt now eventId command facts)]) = logOf hash calls := by
        rw [logOf_snoc, hnothing, List.append_nil]
      rw [serveTask, heq]
      exact ⟨h.tasks, h.cursor, by rw [hlog]; exact h.events, h.full,
        by rw [hlog]; exact h.entry, by rw [hlog]; exact h.ordered⟩
    · obtain ⟨hcursor, hok⟩ := applyKind_ok (command.tenantId, command.taskId) happlied
      have hrecord := hok (h.tasks _ record hfound)
      rw [serveTask, heq]
      have hmoved : RecordOk (command.tenantId, command.taskId)
          (withTransition now applied command facts) := ⟨hrecord.key, hrecord.lease⟩
      refine h.move hfound hroom hmoved rfl rfl ?_ ?_
      · rw [← hcursor]
        rfl
      · simp [appended, heq]

theorem new_logged {maximumTasks maximumEvents : Nat} {start : TaskTransitionService}
    (hnew : new maximumTasks maximumEvents = .ok start) : Logged hash [] start := by
  have hok := new_ok hnew
  unfold new at hnew
  split_ifs at hnew
  obtain rfl := Except.ok.inj hnew
  refine ⟨hok, fun key record hfound => ?_, rfl, Nat.zero_le _, fun entry hentry => ?_, .nil⟩
  · simp at hfound
  · exact absurd hentry List.not_mem_nil

theorem logged_of_run {maximumTasks maximumEvents : Nat} {start : TaskTransitionService}
    (hnew : new maximumTasks maximumEvents = .ok start) (calls : List TaskOperation) :
    Logged hash (trace (serveTask hash codec) start calls)
      (after (serveTask hash codec) start calls) :=
  Meets.invariant (new_logged hnew) (fun _ _ call h _ => h.serve call) Meets.true

-- Reads

theorem produced_eq_nil_iff {key : TenantId × TaskId} :
    produced hash key calls = [] ↔ ∀ entry ∈ logOf hash calls, entry.1 ≠ key := by
  simp [produced, List.filter_eq_nil_iff]

theorem filter_produced {key : TenantId × TaskId} (cursor : Nat) :
    (produced hash key calls).filter (cursor < ·.recoveryCursor) =
      ((logOf hash calls).filter fun entry =>
        entry.1 = key ∧ cursor < entry.2.recoveryCursor).map (·.2) := by
  rw [produced, List.filter_map, List.filter_filter]
  congr 1
  refine List.filter_congr fun entry _ => ?_
  simp [Bool.and_comm]

namespace Logged

theorem filter_events (h : Logged hash calls service) (task : TaskId) (cursor : Nat) :
    (service.events.filter fun event => event.taskId = task ∧ cursor < event.recoveryCursor) =
      ((logOf hash calls).filter fun entry =>
        entry.1.2 = task ∧ cursor < entry.2.recoveryCursor).map (·.2) := by
  rw [h.events, List.filter_map]
  congr 1
  refine List.filter_congr fun entry hentry => ?_
  simp [(h.entry entry hentry).1]

theorem produced_ordered (h : Logged hash calls service) (key : TenantId × TaskId) :
    (produced hash key calls).Pairwise fun event later =>
      event.recoveryCursor ≤ later.recoveryCursor := by
  rw [produced, List.pairwise_map]
  refine (h.ordered.sublist List.filter_sublist).imp_of_mem ?_
  intro entry later hentry hlater hle
  obtain ⟨-, hkey⟩ := List.mem_filter.mp hentry
  obtain ⟨-, hkey'⟩ := List.mem_filter.mp hlater
  exact hle ((of_decide_eq_true hkey).trans (of_decide_eq_true hkey').symm)

theorem filter_of_own (h : Logged hash calls service) {tenant : TenantId} {task : TaskId}
    (hown : ∀ other, other ≠ tenant → produced hash (other, task) calls = []) (cursor : Nat) :
    (service.events.filter fun event => event.taskId = task ∧ cursor < event.recoveryCursor) =
      (produced hash (tenant, task) calls).filter (cursor < ·.recoveryCursor) := by
  rw [h.filter_events, filter_produced]
  congr 1
  refine List.filter_congr fun entry hentry => ?_
  have hkey : entry.1.2 = task ↔ entry.1 = (tenant, task) := by
    constructor
    · rintro rfl
      by_contra hne
      have hother : entry.1.1 ≠ tenant := fun heq => hne (Prod.ext heq rfl)
      exact produced_eq_nil_iff.mp (hown _ hother) entry hentry rfl
    · exact fun heq => congrArg Prod.snd heq
  simp [hkey]

theorem own_of_length (h : Logged hash calls service) {tenant : TenantId} {task : TaskId}
    (hlength : (service.events.filter fun event =>
        event.taskId = task ∧ 0 < event.recoveryCursor).length =
      ((produced hash (tenant, task) calls).filter (0 < ·.recoveryCursor)).length)
    {other : TenantId} (hother : other ≠ tenant) : produced hash (other, task) calls = [] := by
  rw [h.filter_events, filter_produced, List.length_map, List.length_map] at hlength
  have hsub : ((logOf hash calls).filter fun entry =>
        entry.1 = (tenant, task) ∧ 0 < entry.2.recoveryCursor).Sublist
      ((logOf hash calls).filter fun entry =>
        entry.1.2 = task ∧ 0 < entry.2.recoveryCursor) := by
    refine List.monotone_filter_right _ fun entry hentry => ?_
    obtain ⟨hkey, hpos⟩ := of_decide_eq_true hentry
    exact decide_eq_true ⟨congrArg Prod.snd hkey, hpos⟩
  have hsame := hsub.eq_of_length hlength.symm
  refine produced_eq_nil_iff.mpr fun entry hentry hkey => ?_
  have hmem : entry ∈ (logOf hash calls).filter fun entry =>
      entry.1.2 = task ∧ 0 < entry.2.recoveryCursor :=
    List.mem_filter.mpr ⟨hentry, decide_eq_true
      ⟨congrArg Prod.snd hkey, (h.entry entry hentry).2.1⟩⟩
  rw [← hsame] at hmem
  obtain ⟨hown, -⟩ := of_decide_eq_true (List.mem_filter.mp hmem).2
  exact hother (congrArg Prod.fst (hkey.symm.trans hown))

end Logged

def ReadsOwn (hash : Hasher) (calls : List TaskEvent) (service : TaskTransitionService)
    (tenant : TenantId) (task : TaskId) : Prop :=
  ∀ cursor limit, 0 < limit → limit ≤ service.maximumEvents →
    ∃ events, service.eventsFor tenant task cursor limit = .ok events ∧
      events = ((produced hash (tenant, task) calls).filter
        (cursor < ·.recoveryCursor)).take limit ∧
      events.Pairwise fun event later => event.recoveryCursor ≤ later.recoveryCursor

theorem eventsFor_eq_ok {tenant : TenantId} {task : TaskId} {cursor limit : Nat}
    (hpos : 0 < limit) (hle : limit ≤ service.maximumEvents)
    (htask : (tenant, task) ∈ service.tasks) :
    service.eventsFor tenant task cursor limit =
      .ok ((service.events.filter fun event =>
        event.taskId = task ∧ cursor < event.recoveryCursor).take limit) := by
  unfold eventsFor
  rw [if_neg (by omega), if_neg (not_not.mpr htask)]

/-- **Reads of a task.** After any calls on a new service, every read of a task gives exactly its
own events exactly if no command for a task of another tenant with the same id left an event. -/
theorem events_for_iff (hash : Hasher) (codec : OrchestratorCodec)
    {maximumTasks maximumEvents : Nat} {start : TaskTransitionService}
    (hnew : new maximumTasks maximumEvents = .ok start) (calls : List TaskOperation)
    {service : TaskTransitionService}
    (hservice : service = after (serveTask hash codec) start calls) {tenant : TenantId}
    {task : TaskId} (htask : (tenant, task) ∈ service.tasks) :
    ReadsOwn hash (trace (serveTask hash codec) start calls) service tenant task ↔
      ∀ other, other ≠ tenant →
        produced hash (other, task) (trace (serveTask hash codec) start calls) = [] := by
  have hlogged : Logged hash (trace (serveTask hash codec) start calls) service :=
    hservice ▸ logged_of_run hnew calls
  constructor
  · intro h other hother
    by_cases hempty : service.maximumEvents = 0
    · have hnone : logOf hash (trace (serveTask hash codec) start calls) = [] := by
        have hfull := hlogged.full
        rw [hempty, hlogged.events, List.length_map] at hfull
        exact List.length_eq_zero_iff.mp (by omega)
      rw [produced, hnone]
      rfl
    · obtain ⟨events, hread, hown, -⟩ := h 0 service.maximumEvents (by omega) le_rfl
      rw [eventsFor_eq_ok (by omega) le_rfl htask] at hread
      have hshort : (service.events.filter fun event =>
          event.taskId = task ∧ 0 < event.recoveryCursor).length ≤ service.maximumEvents :=
        (List.length_filter_le _ _).trans hlogged.full
      have hshort' : ((produced hash (tenant, task)
          (trace (serveTask hash codec) start calls)).filter
            (0 < ·.recoveryCursor)).length ≤ service.maximumEvents := by
        have hfull := hlogged.full
        rw [hlogged.events, List.length_map] at hfull
        rw [filter_produced, List.length_map]
        exact (List.length_filter_le _ _).trans hfull
      have hlength := congrArg List.length ((Except.ok.inj hread).trans hown)
      rw [List.take_of_length_le hshort, List.take_of_length_le hshort'] at hlength
      exact hlogged.own_of_length hlength hother
  · intro h cursor limit hpos hle
    refine ⟨_, eventsFor_eq_ok hpos hle htask, by rw [hlogged.filter_of_own h], ?_⟩
    rw [hlogged.filter_of_own h]
    exact ((hlogged.produced_ordered _).sublist List.filter_sublist).sublist
      (List.take_sublist _ _)

def sampleEventHasher : Hasher where
  text _ := "e3b0c44298fc1c149afbf4c8996fb92427ae41e4649b934ca495991b7852b855"
  object _ := ""

def sampleCreationOf (tenantId : TenantId) : TaskOperation :=
  .operation (.create 0 0 tenantId "task" ⟨sampleHash 'a'⟩ samplePlanManifest)

def samplePlanning (tenantId : TenantId) : TaskOperation :=
  .requestTransition 1 1 (sampleUuid 1)
    { schemaVersion := orchestratorSchemaVersion, commandId := "command", tenantId
      taskId := "task", expectedRecoveryCursor := 0, kind := .plan (sampleHash 'b')
      requestedBy := "user", requestedAt := 1 }
    { schemaVersion := orchestratorSchemaVersion, ledgerStatus := none, evaluation := none
      compensationVerified := false, evidenceRefs := ∅, credentialRevoked := false
      supervisorAcknowledged := false }

/-- A tenant that has given its task the id of another tenant's task reads the events of that
task. -/
theorem shared_task_id_leaks : ∃ start, new 10 100 = .ok start ∧
    ¬ReadsOwn sampleEventHasher
      (trace (serveTask sampleEventHasher sampleOrchestratorCodec) start
        [sampleCreationOf "tenant", sampleCreationOf "other", samplePlanning "tenant"])
      (after (serveTask sampleEventHasher sampleOrchestratorCodec) start
        [sampleCreationOf "tenant", sampleCreationOf "other", samplePlanning "tenant"])
      "other" "task" := by
  let start : TaskTransitionService := ⟨10, 100, ∅, []⟩
  refine ⟨start, rfl, fun h => ?_⟩
  obtain ⟨events, hread, hown, -⟩ := h 0 1 one_pos (by decide)
  have hone : ((after (serveTask sampleEventHasher sampleOrchestratorCodec) start
      [sampleCreationOf "tenant", sampleCreationOf "other", samplePlanning "tenant"]).eventsFor
        "other" "task" 0 1).map List.length = .ok 1 := by decide
  have hnone : (produced sampleEventHasher ("other", "task")
      (trace (serveTask sampleEventHasher sampleOrchestratorCodec) start
        [sampleCreationOf "tenant", sampleCreationOf "other", samplePlanning "tenant"])).length =
      0 := by decide
  rw [hread, hown, List.length_eq_zero_iff.mp hnone] at hone
  exact absurd hone (by decide)

/-- A tenant with the only task under the id reads its own events. -/
theorem events_for_iff_samplePlanning : ∃ start, new 10 100 = .ok start ∧
    ReadsOwn sampleEventHasher
      (trace (serveTask sampleEventHasher sampleOrchestratorCodec) start
        [sampleCreationOf "tenant", samplePlanning "tenant"])
      (after (serveTask sampleEventHasher sampleOrchestratorCodec) start
        [sampleCreationOf "tenant", samplePlanning "tenant"]) "tenant" "task" := by
  let start : TaskTransitionService := ⟨10, 100, ∅, []⟩
  have hnew : new 10 100 = .ok start := rfl
  refine ⟨start, hnew, (events_for_iff sampleEventHasher sampleOrchestratorCodec hnew _ rfl
    (by decide)).mpr fun other hother => produced_eq_nil_iff.mpr ?_⟩
  have hkeys : ∀ entry ∈ logOf sampleEventHasher
      (trace (serveTask sampleEventHasher sampleOrchestratorCodec) start
        [sampleCreationOf "tenant", samplePlanning "tenant"]), entry.1.1 = "tenant" := by
    decide
  intro entry hentry hkey
  exact hother ((congrArg Prod.fst hkey).symm.trans (hkeys entry hentry))

end AgentSphere.Orchestrator
