import AgentSphere.Lib.Machine
import AgentSphere.Orchestrator.Creation

/-!
# Bindings of steps

`bind_execution` gives a step its execution and marks the task if the execution has side effects.
A call that repeats the binding is accepted and returns before the mark is set.
-/

namespace AgentSphere.Orchestrator

open Concurrency Machine

namespace TaskTransitionService

variable (service : TaskTransitionService) (codec : OrchestratorCodec)

def answer : Operation → Except OrchestratorError Unit
  | .create checkedAt now tenantId taskId goal plan =>
    (service.create checkedAt now tenantId taskId goal plan).1.map fun _ => ()
  | .attachLease now tenant task lease => (service.attachLease now tenant task lease).1
  | .revokeLease tenant task newEpoch => (service.revokeLease tenant task newEpoch).1
  | .checkpoint tenant task checkpoint riskSignalDigest now =>
    (service.checkpoint tenant task checkpoint riskSignalDigest now).map fun _ => ()
  | .bindExecution now tenant task stepId executionId hasSideEffects =>
    (service.bindExecution now tenant task stepId executionId hasSideEffects).1
  | .restart maximumTasks maximumEvents => (service.restart codec maximumTasks maximumEvents).1

def serve (operation : Operation) : Except OrchestratorError Unit × TaskTransitionService :=
  (service.answer codec operation, service.perform codec operation)

def boundTo (key : TenantId × TaskId) (stepId : String) : Option ExecutionId := do
  let record ← service.tasks[key]?
  let step ← record.steps[stepId]?
  step.ledgerExecutionId

end TaskTransitionService

open TaskTransitionService

abbrev OperationEvent := Served TaskTransitionService Operation (Except OrchestratorError Unit)

/-- An accepted `bind_execution` for the task that was given side effects. -/
def BindsSideEffects (key : TenantId × TaskId) (event : OperationEvent) : Prop :=
  ∃ now stepId executionId,
    event.call = .bindExecution now key.1 key.2 stepId executionId true ∧ event.answer = .ok ()

/-- What the operations so far say about the bindings of a task: a step that was bound is bound to
the same execution, its attempt is 1 exactly if it is bound, and the task is marked exactly if an
accepted binding had side effects. -/
structure BindingsHold (key : TenantId × TaskId) (events : List OperationEvent)
    (service : TaskTransitionService) : Prop where
  bound : ∀ event ∈ events, ∀ stepId executionId,
    event.before.boundTo key stepId = some executionId →
      service.boundTo key stepId = some executionId
  attempt : ∀ record (stepId : String) (step : StepRuntimeRecord),
    service.tasks[key]? = some record → record.steps[stepId]? = some step →
      (step.attempt = 1 ↔ step.ledgerExecutionId.isSome)
  marked : ∀ record, service.tasks[key]? = some record →
    (record.hasSideEffects = true ↔ ∃ event ∈ events, BindsSideEffects key event)

def RepeatsMark (key : TenantId × TaskId) (service : TaskTransitionService)
    (operation : Operation) : Prop :=
  ∀ now stepId executionId record,
    operation = .bindExecution now key.1 key.2 stepId executionId true →
    service.tasks[key]? = some record → service.boundTo key stepId = some executionId →
    record.hasSideEffects = true

namespace TaskTransitionService

variable {service : TaskTransitionService} {codec : OrchestratorCodec}
  {key : TenantId × TaskId} {record : TaskRuntimeRecord} {stepId : String}

theorem boundTo_of_found (hfound : service.tasks[key]? = some record) :
    service.boundTo key stepId = record.steps[stepId]?.bind (·.ledgerExecutionId) := by
  simp [boundTo, hfound]

theorem boundTo_of_absent (habsent : service.tasks[key]? = none) :
    service.boundTo key stepId = none := by
  simp [boundTo, habsent]

structure SameBindings (record record' : TaskRuntimeRecord) : Prop where
  steps : record'.steps = record.steps
  hasSideEffects : record'.hasSideEffects = record.hasSideEffects
  recoveryCursor : record'.recoveryCursor = record.recoveryCursor

def AgreeOn (key : TenantId × TaskId) (service service' : TaskTransitionService) : Prop :=
  Option.Rel SameBindings service.tasks[key]? service'.tasks[key]?

theorem AgreeOn.of_tasks {service' : TaskTransitionService}
    (h : service'.tasks[key]? = service.tasks[key]?) : AgreeOn key service service' := by
  unfold AgreeOn
  rw [h]
  cases service.tasks[key]? with
  | none => exact .none
  | some record => exact .some ⟨rfl, rfl, rfl⟩

theorem AgreeOn.put {key' : TenantId × TaskId} {record' : TaskRuntimeRecord}
    (hfound : service.tasks[key']? = some record) (hsame : SameBindings record record') :
    AgreeOn key service (service.put key' record') := by
  by_cases hkey : key' = key
  · subst hkey
    unfold AgreeOn
    rw [hfound, put_tasks, BTreeMap.getElem?_insert_ite, if_pos rfl]
    exact .some hsame
  · apply AgreeOn.of_tasks
    rw [put_tasks, BTreeMap.getElem?_insert_ite, if_neg hkey]

theorem AgreeOn.put_of_ne {key' : TenantId × TaskId} {record' : TaskRuntimeRecord}
    (hkey : key' ≠ key) : AgreeOn key service (service.put key' record') := by
  apply AgreeOn.of_tasks
  rw [put_tasks, BTreeMap.getElem?_insert_ite, if_neg hkey]

/-- How a call to `bind_execution` ends. -/
theorem bindExecution_answer (service : TaskTransitionService) (now : DateTime) (tenant : TenantId)
    (task : TaskId) (stepId : String) (executionId : ExecutionId) (hasSideEffects : Bool) :
    (∃ e, service.bindExecution now tenant task stepId executionId hasSideEffects =
      (.error e, service)) ∨
    ∃ record step, service.tasks[(tenant, task)]? = some record ∧
      record.steps[stepId]? = some step ∧
      ((step.ledgerExecutionId = some executionId ∧
          service.bindExecution now tenant task stepId executionId hasSideEffects =
            (.ok (), service)) ∨
        (step.ledgerExecutionId = none ∧
          service.bindExecution now tenant task stepId executionId hasSideEffects =
            (.ok (), service.put (tenant, task)
              (withExecution now record step stepId executionId hasSideEffects)))) := by
  unfold bindExecution
  cases hfound : service.tasks[(tenant, task)]? with
  | none => exact .inl ⟨_, rfl⟩
  | some record =>
    cases hstep : record.steps[stepId]? with
    | none => exact .inl ⟨.notFound, by simp [hstep]⟩
    | some step =>
      cases hid : step.ledgerExecutionId with
      | none => exact .inr ⟨record, step, rfl, hstep, .inr ⟨hid, by simp [hstep, hid]⟩⟩
      | some existing =>
        by_cases hsame : existing = executionId
        · refine .inr ⟨record, step, rfl, hstep, .inl ⟨by rw [hid, hsame], ?_⟩⟩
          simp [hstep, hid, hsame]
        · exact .inl ⟨.idempotencyConflict, by simp [hstep, hid, hsame]⟩

variable (codec) in
/-- **One operation and the bindings of one task**: they stay as they are and no binding of the
task is accepted, or the task is new, or a step of it is bound, again or for the first time. -/
theorem serve_cases (hok : service.TasksOk) (operation : Operation) (key : TenantId × TaskId) :
    (AgreeOn key service (service.perform codec operation) ∧
      ∀ now stepId executionId hasSideEffects,
        operation = .bindExecution now key.1 key.2 stepId executionId hasSideEffects →
        service.answer codec operation ≠ .ok ()) ∨
    (service.tasks[key]? = none ∧ ∃ now goal plan,
      (service.perform codec operation).tasks[key]? =
        some (createdRecord now key.1 key.2 goal plan) ∧
      ∀ now' stepId executionId hasSideEffects,
        operation ≠ .bindExecution now' key.1 key.2 stepId executionId hasSideEffects) ∨
    ∃ now stepId executionId hasSideEffects record step,
      operation = .bindExecution now key.1 key.2 stepId executionId hasSideEffects ∧
      service.answer codec operation = .ok () ∧ service.tasks[key]? = some record ∧
      record.steps[stepId]? = some step ∧
      ((step.ledgerExecutionId = some executionId ∧ service.perform codec operation = service) ∨
        (step.ledgerExecutionId = none ∧ (service.perform codec operation).tasks[key]? =
          some (withExecution now record step stepId executionId hasSideEffects))) := by
  cases operation with
  | create checkedAt now tenantId taskId goal plan =>
    obtain heq | ⟨habsent, heq⟩ := service.create_cases checkedAt now tenantId taskId goal plan
    · exact .inl ⟨.of_tasks (by rw [perform, heq]), by rintro _ _ _ _ ⟨⟩⟩
    · rw [perform, heq]
      by_cases hkey : (tenantId, taskId) = key
      · subst hkey
        refine .inr (.inl ⟨habsent, now, goal, plan, ?_, by rintro _ _ _ _ ⟨⟩⟩)
        rw [put_tasks, BTreeMap.getElem?_insert_ite, if_pos rfl]
      · exact .inl ⟨.put_of_ne hkey, by rintro _ _ _ _ ⟨⟩⟩
  | attachLease now tenant task lease =>
    obtain ⟨e, heq⟩ | ⟨record, hfound, -, -, -, -, heq⟩ :=
      service.attachLease_cases now tenant task lease
    · exact .inl ⟨.of_tasks (by rw [perform, heq]), by rintro _ _ _ _ ⟨⟩⟩
    · rw [perform, heq]
      exact .inl ⟨.put hfound ⟨rfl, rfl, rfl⟩, by rintro _ _ _ _ ⟨⟩⟩
  | revokeLease tenant task newEpoch =>
    obtain ⟨e, heq⟩ | ⟨record, hfound, -, heq⟩ := service.revokeLease_cases tenant task newEpoch
    · exact .inl ⟨.of_tasks (by rw [perform, heq]), by rintro _ _ _ _ ⟨⟩⟩
    · rw [perform, heq]
      exact .inl ⟨.put hfound ⟨rfl, rfl, rfl⟩, by rintro _ _ _ _ ⟨⟩⟩
  | checkpoint => exact .inl ⟨.of_tasks rfl, by rintro _ _ _ _ ⟨⟩⟩
  | bindExecution now tenant task stepId executionId hasSideEffects =>
    rw [perform, answer]
    obtain ⟨e, heq⟩ | ⟨record, step, hfound, hstep, hrest⟩ :=
      service.bindExecution_answer now tenant task stepId executionId hasSideEffects
    · rw [heq]
      exact .inl ⟨.of_tasks rfl, fun _ _ _ _ _ hanswer => by cases hanswer⟩
    · by_cases hkey : (tenant, task) = key
      · subst hkey
        refine .inr (.inr ⟨now, stepId, executionId, hasSideEffects, record, step, rfl, ?_, hfound,
          hstep, ?_⟩)
        · obtain ⟨-, heq⟩ | ⟨-, heq⟩ := hrest
          · rw [heq]
          · rw [heq]
        · obtain ⟨hid, heq⟩ | ⟨hid, heq⟩ := hrest
          · exact .inl ⟨hid, by rw [heq]⟩
          · refine .inr ⟨hid, ?_⟩
            rw [heq, put_tasks, BTreeMap.getElem?_insert_ite, if_pos rfl]
      · refine .inl ⟨?_, ?_⟩
        · obtain ⟨-, heq⟩ | ⟨-, heq⟩ := hrest
          · rw [heq]
            exact .of_tasks rfl
          · rw [heq]
            exact .put_of_ne hkey
        · rintro now' stepId' executionId' hasSideEffects' hcall
          obtain ⟨-, htenant, htask, -⟩ := Operation.bindExecution.inj hcall
          exact absurd (Prod.ext htenant htask) hkey
  | restart maximumTasks maximumEvents =>
    exact .inl ⟨.of_tasks (by rw [perform, restart_tasks hok]), by rintro _ _ _ _ ⟨⟩⟩

theorem mem_of_ofList {V : Type} {entries : List (String × V)} {k : String} {v : V}
    (h : (Std.ExtTreeMap.ofList entries compare)[k]? = some v) : (k, v) ∈ entries := by
  induction entries using List.reverseRecOn with
  | nil => simp at h
  | append_singleton entries last ih =>
    rw [Std.ExtTreeMap.ofList_eq_insertMany_empty, Std.ExtTreeMap.insertMany_append,
      ← Std.ExtTreeMap.ofList_eq_insertMany_empty, Std.ExtTreeMap.insertMany_list_singleton,
      BTreeMap.getElem?_insert_ite] at h
    split_ifs at h with hlast
    · obtain rfl := Option.some.inj h
      exact List.mem_append_right _ (by simp [← hlast])
    · exact List.mem_append_left _ (ih h)

theorem createdRecord_step {now : DateTime} {tenantId : TenantId} {taskId : TaskId}
    {goal : SignedGoal} {plan : PlanManifest} {step : StepRuntimeRecord}
    (h : (createdRecord now tenantId taskId goal plan).steps[stepId]? = some step) :
    step.ledgerExecutionId = none ∧ step.attempt = 0 := by
  obtain ⟨planned, -, hplanned⟩ := List.mem_map.mp (mem_of_ofList h)
  obtain ⟨-, rfl⟩ := Prod.mk.inj hplanned
  exact ⟨rfl, rfl⟩

end TaskTransitionService

-- Runs

/-- What every operation keeps: the records stand under their keys, and each step is bound with
attempt 1 or not bound with attempt 0. -/
structure Counted (service : TaskTransitionService) : Prop where
  tasks : service.TasksOk
  attempt : ∀ (key : TenantId × TaskId) record (stepId : String) (step : StepRuntimeRecord),
    service.tasks[key]? = some record → record.steps[stepId]? = some step →
    step.attempt = if step.ledgerExecutionId.isSome then 1 else 0

variable {service : TaskTransitionService} {codec : OrchestratorCodec}
  {key : TenantId × TaskId} {events : List OperationEvent}

theorem withExecution_step {now : DateTime} {record : TaskRuntimeRecord}
    {step found : StepRuntimeRecord} {stepId stepId' : String} {executionId : ExecutionId}
    {hasSideEffects : Bool}
    (h : (withExecution now record step stepId executionId hasSideEffects).steps[stepId']? =
      some found) :
    (stepId' = stepId ∧ found.ledgerExecutionId = some executionId ∧
      found.attempt = min (step.attempt + 1) (2 ^ 32 - 1)) ∨
    (stepId' ≠ stepId ∧ record.steps[stepId']? = some found) := by
  rw [withExecution, BTreeMap.getElem?_insert_ite] at h
  split_ifs at h with hstep
  · obtain rfl := Option.some.inj h
    exact .inl ⟨hstep.symm, rfl, rfl⟩
  · exact .inr ⟨Ne.symm hstep, h⟩

variable (codec) in
theorem Counted.serve (h : Counted service) (operation : Operation) :
    Counted (service.perform codec operation) := by
  refine ⟨perform_ok h.tasks operation, fun key record stepId step hfound hstep => ?_⟩
  obtain ⟨hagree, -⟩ | ⟨-, now, goal, plan, hcreated, -⟩ |
    ⟨now, boundStep, executionId, hasSideEffects, old, oldStep, -, -, hold, holdStep, hrest⟩ :=
      serve_cases codec h.tasks operation key
  · unfold AgreeOn at hagree
    rw [hfound] at hagree
    cases hold : service.tasks[key]? with
    | none => rw [hold] at hagree; nomatch hagree
    | some old =>
      rw [hold] at hagree
      obtain ⟨hsame⟩ := hagree
      exact h.attempt key old stepId step hold (hsame.steps ▸ hstep)
  · obtain rfl := Option.some.inj (hcreated.symm.trans hfound)
    obtain ⟨hid, hattempt⟩ := createdRecord_step hstep
    simp [hid, hattempt]
  · obtain ⟨-, heq⟩ | ⟨hid, heq⟩ := hrest
    · exact h.attempt key record stepId step (heq ▸ hfound) hstep
    · obtain rfl := Option.some.inj (heq.symm.trans hfound)
      obtain ⟨-, hbound, hattempt⟩ | ⟨-, hother⟩ := withExecution_step hstep
      · have hzero := h.attempt key old boundStep oldStep hold holdStep
        rw [hid] at hzero
        simp [hbound, hattempt, hzero]
      · exact h.attempt key old stepId step hold hother

theorem boundTo_serve (hok : service.TasksOk) {operation : Operation} {stepId : String}
    {executionId : ExecutionId} (hbound : service.boundTo key stepId = some executionId) :
    (service.perform codec operation).boundTo key stepId = some executionId := by
  obtain ⟨hagree, -⟩ | ⟨habsent, -⟩ |
    ⟨now, boundStep, bound, hasSideEffects, old, oldStep, -, -, hold, holdStep, hrest⟩ :=
      serve_cases codec hok operation key
  · unfold AgreeOn at hagree
    cases hold : service.tasks[key]? with
    | none =>
      rw [boundTo_of_absent hold] at hbound
      nomatch hbound
    | some old =>
      rw [hold] at hagree
      cases hfound : (service.perform codec operation).tasks[key]? with
      | none => rw [hfound] at hagree; nomatch hagree
      | some record =>
        rw [hfound] at hagree
        obtain ⟨hsame⟩ := hagree
        rw [boundTo_of_found hfound, hsame.steps, ← boundTo_of_found hold, hbound]
  · rw [boundTo_of_absent habsent] at hbound
    nomatch hbound
  · obtain ⟨-, heq⟩ | ⟨hid, heq⟩ := hrest
    · rw [heq, hbound]
    · rw [boundTo_of_found hold] at hbound
      rw [boundTo_of_found heq, withExecution, BTreeMap.getElem?_insert_ite]
      split_ifs with hstep
      · rw [← hstep, holdStep, Option.bind_some, hid] at hbound
        nomatch hbound
      · exact hbound

theorem bindExecution_of_boundTo {now : DateTime} {stepId : String} {executionId : ExecutionId}
    {hasSideEffects : Bool} (hbound : service.boundTo key stepId = some executionId) :
    service.bindExecution now key.1 key.2 stepId executionId hasSideEffects =
      (.ok (), service) := by
  cases hfound : service.tasks[key]? with
  | none =>
    rw [boundTo_of_absent hfound] at hbound
    nomatch hbound
  | some record =>
    rw [boundTo_of_found hfound, Option.bind_eq_some_iff] at hbound
    obtain ⟨step, hstep, hid⟩ := hbound
    simp [bindExecution, hfound, hstep, hid]

def Unbound (key : TenantId × TaskId) (events : List OperationEvent)
    (service : TaskTransitionService) : Prop :=
  service.tasks[key]? = none → ∀ event ∈ events, ¬BindsSideEffects key event

theorem exists_snoc {event : OperationEvent} :
    (∃ e ∈ events ++ [event], BindsSideEffects key e) ↔
      (∃ e ∈ events, BindsSideEffects key e) ∨ BindsSideEffects key event := by
  simp [or_and_right, exists_or]

theorem Unbound.serve (hok : service.TasksOk) (h : Unbound key events service)
    (operation : Operation) :
    Unbound key (events ++ [Machine.serve (TaskTransitionService.serve · codec) service operation])
      (service.perform codec operation) := by
  intro habsent event hevent hbinds
  have hnow : service.tasks[key]? = none ∧ ∀ now stepId executionId hasSideEffects,
      operation = .bindExecution now key.1 key.2 stepId executionId hasSideEffects →
      service.answer codec operation ≠ .ok () := by
    obtain ⟨hagree, hrefused⟩ | ⟨-, now, goal, plan, hcreated, -⟩ |
      ⟨now, stepId, executionId, hasSideEffects, record, step, -, -, hfound, -, hrest⟩ :=
        serve_cases codec hok operation key
    · unfold AgreeOn at hagree
      rw [habsent] at hagree
      cases hfound : service.tasks[key]? with
      | none => exact ⟨rfl, hrefused⟩
      | some record => rw [hfound] at hagree; nomatch hagree
    · exact nomatch hcreated.symm.trans habsent
    · obtain ⟨-, heq⟩ | ⟨-, heq⟩ := hrest
      · rw [heq] at habsent
        exact nomatch hfound.symm.trans habsent
      · exact nomatch heq.symm.trans habsent
  obtain hevent | hevent := List.mem_append.mp hevent
  · exact h hnow.1 event hevent hbinds
  · obtain rfl := List.mem_singleton.mp hevent
    obtain ⟨now, stepId, executionId, hcall, hanswer⟩ := hbinds
    exact hnow.2 now stepId executionId true hcall hanswer

variable (codec) in
/-- The mark is what the accepted calls ask for after one more operation exactly if that operation
does not repeat a binding of an unmarked task. -/
theorem marked_serve_iff (hok : service.TasksOk) (hunbound : Unbound key events service)
    (hmarked : ∀ record, service.tasks[key]? = some record →
      (record.hasSideEffects = true ↔ ∃ event ∈ events, BindsSideEffects key event))
    (operation : Operation) :
    (∀ record, (service.perform codec operation).tasks[key]? = some record →
      (record.hasSideEffects = true ↔ ∃ event ∈ events ++
        [Machine.serve (TaskTransitionService.serve · codec) service operation],
          BindsSideEffects key event)) ↔ RepeatsMark key service operation := by
  simp only [exists_snoc]
  obtain ⟨hagree, hrefused⟩ | ⟨habsent, now, goal, plan, hcreated, hother⟩ |
    ⟨now, stepId, executionId, hasSideEffects, record, step, hcall, hanswer, hfound, hstep,
      hrest⟩ := serve_cases codec hok operation key
  · have hnone : ¬BindsSideEffects key
        (Machine.serve (TaskTransitionService.serve · codec) service operation) := by
      rintro ⟨now, stepId, executionId, hcall, hanswer⟩
      exact hrefused now stepId executionId true hcall hanswer
    refine iff_of_true ?_ ?_
    · intro record hrecord
      unfold AgreeOn at hagree
      rw [hrecord] at hagree
      cases hold : service.tasks[key]? with
      | none => rw [hold] at hagree; nomatch hagree
      | some old =>
        rw [hold] at hagree
        obtain ⟨hsame⟩ := hagree
        rw [hsame.hasSideEffects, hmarked old hold, or_iff_left hnone]
    · rintro now stepId executionId record rfl - hbound
      refine absurd ?_ (hrefused now stepId executionId true rfl)
      rw [answer, bindExecution_of_boundTo hbound]
  · refine iff_of_true ?_ ?_
    · intro record hrecord
      obtain rfl := Option.some.inj (hcreated.symm.trans hrecord)
      refine iff_of_false Bool.false_ne_true ?_
      rintro (⟨event, hevent, hbinds⟩ | ⟨now', stepId, executionId, hcall, -⟩)
      · exact hunbound habsent event hevent hbinds
      · exact hother now' stepId executionId true hcall
    · rintro now' stepId executionId record - hrecord
      exact nomatch habsent.symm.trans hrecord
  · have hlast : BindsSideEffects key
        (Machine.serve (TaskTransitionService.serve · codec) service operation) ↔
        hasSideEffects = true := by
      constructor
      · rintro ⟨now', stepId', executionId', hcall', -⟩
        obtain ⟨-, -, -, -, -, hflag⟩ := Operation.bindExecution.inj (hcall.symm.trans hcall')
        exact hflag
      · rintro rfl
        exact ⟨now, stepId, executionId, hcall, hanswer⟩
    rw [hlast]
    obtain ⟨hid, heq⟩ | ⟨hid, heq⟩ := hrest
    · -- the binding is repeated
      have hbound : service.boundTo key stepId = some executionId := by
        rw [boundTo_of_found hfound, hstep, Option.bind_some, hid]
      constructor
      · rintro h now' stepId' executionId' record' hcall' hrecord -
        obtain ⟨-, -, -, -, -, hflag⟩ := Operation.bindExecution.inj (hcall.symm.trans hcall')
        exact (h record' (by rw [heq, hrecord])).mpr (.inr hflag)
      · intro h record' hrecord
        rw [heq] at hrecord
        rw [← hmarked record' hrecord]
        refine ⟨.inl, ?_⟩
        rintro (hflag | rfl)
        · exact hflag
        · exact h now stepId executionId record' hcall hrecord hbound
    · -- the step is bound for the first time
      refine iff_of_true ?_ ?_
      · intro record' hrecord
        obtain rfl := Option.some.inj (heq.symm.trans hrecord)
        rw [← hmarked record hfound]
        simp [withExecution]
      · rintro now' stepId' executionId' record' hcall' - hbound
        obtain ⟨-, -, -, rfl, -⟩ := Operation.bindExecution.inj (hcall.symm.trans hcall')
        rw [boundTo_of_found hfound, hstep, Option.bind_some, hid] at hbound
        nomatch hbound

/-- **Bindings of a task** hold in every state of a run exactly if no call with side effects repeats
a binding while the task is not marked. -/
theorem bindings_hold_iff (codec : OrchestratorCodec) {maximumTasks maximumEvents : Nat}
    {start : TaskTransitionService} (hnew : new maximumTasks maximumEvents = .ok start)
    (key : TenantId × TaskId) (operations : List Operation) :
    (∀ early, early <+: operations →
      BindingsHold key (trace (TaskTransitionService.serve · codec) start early)
        (after (TaskTransitionService.serve · codec) start early)) ↔
    Meets (fun _ => RepeatsMark key)
      (trace (TaskTransitionService.serve · codec) start operations) := by
  have hempty : start.tasks[key]? = none := by
    unfold new at hnew
    split_ifs at hnew
    obtain rfl := Except.ok.inj hnew
    simp
  refine Meets.throughout_iff
    (I := fun events service => Counted service ∧ Unbound key events service) ?_ ?_ ?_ ?_ Meets.true
  · refine ⟨nofun, fun record stepId step hrecord => ?_, fun record hrecord => ?_⟩
    · exact nomatch hempty.symm.trans hrecord
    · exact nomatch hempty.symm.trans hrecord
  · refine ⟨⟨new_ok hnew, fun key' record stepId step hrecord => ?_⟩, fun _ => nofun⟩
    unfold new at hnew
    split_ifs at hnew
    obtain rfl := Except.ok.inj hnew
    simp at hrecord
  · rintro events service operation ⟨hcounted, hunbound⟩ -
    exact ⟨hcounted.serve codec operation, hunbound.serve hcounted.tasks operation⟩
  · rintro events service operation ⟨hcounted, hunbound⟩ ⟨hbound, -, hmarked⟩ -
    rw [← marked_serve_iff codec hcounted.tasks hunbound hmarked operation]
    refine ⟨fun h => h.marked, fun h => ⟨?_, ?_, h⟩⟩
    · intro event hevent stepId executionId hfirst
      obtain hevent | hevent := List.mem_append.mp hevent
      · exact boundTo_serve hcounted.tasks (hbound event hevent stepId executionId hfirst)
      · obtain rfl := List.mem_singleton.mp hevent
        exact boundTo_serve hcounted.tasks hfirst
    · intro record stepId step hrecord hstep
      rw [(hcounted.serve codec operation).attempt key record stepId step hrecord hstep]
      cases step.ledgerExecutionId with
      | none => simp
      | some executionId => simp

def sampleBinding (hasSideEffects : Bool) : Operation :=
  .bindExecution 1 "tenant" "task" "step" "execution" hasSideEffects

/-- A binding with side effects that comes after the same without leaves the task unmarked. -/
theorem sampleBinding_repeated : ∃ start, new 10 100 = .ok start ∧
    ¬BindingsHold ("tenant", "task")
      (trace (TaskTransitionService.serve · sampleOrchestratorCodec) start
        [sampleCreation, sampleBinding false, sampleBinding true])
      (after (TaskTransitionService.serve · sampleOrchestratorCodec) start
        [sampleCreation, sampleBinding false, sampleBinding true]) := by
  let start : TaskTransitionService := ⟨10, 100, ∅, []⟩
  let unmarked := after (TaskTransitionService.serve · sampleOrchestratorCodec) start
    [sampleCreation, sampleBinding false]
  refine ⟨start, rfl, fun h => ?_⟩
  have hanswer : unmarked.answer sampleOrchestratorCodec (sampleBinding true) = .ok () := by
    decide
  have hrecord : ((unmarked.perform sampleOrchestratorCodec (sampleBinding true)).tasks[
      (("tenant", "task") : TenantId × TaskId)]?.map (·.hasSideEffects)) = some false := by
    decide
  obtain ⟨record, hfound, hunmarked⟩ := Option.map_eq_some_iff.mp hrecord
  refine Bool.false_ne_true (hunmarked.symm.trans ((h.marked record hfound).mpr ?_))
  exact ⟨_, List.mem_of_getElem? (i := 2) rfl, 1, "step", "execution", rfl, hanswer⟩

/-- A single binding with side effects marks the task. -/
theorem bindings_hold_sampleBinding : ∃ start, new 10 100 = .ok start ∧
    ∀ early, early <+: [sampleCreation, sampleBinding true] →
      BindingsHold ("tenant", "task")
        (trace (TaskTransitionService.serve · sampleOrchestratorCodec) start early)
        (after (TaskTransitionService.serve · sampleOrchestratorCodec) start early) := by
  let start : TaskTransitionService := ⟨10, 100, ∅, []⟩
  have hnew : new 10 100 = .ok start := rfl
  refine ⟨start, hnew, (bindings_hold_iff sampleOrchestratorCodec hnew _ _).mpr ?_⟩
  refine Meets.of_forall fun event hevent => ?_
  obtain rfl | hevent := List.mem_cons.mp hevent
  · exact fun now stepId executionId record hcall => nomatch hcall
  · obtain rfl := List.mem_singleton.mp hevent
    intro now stepId executionId record hcall hfound hbound
    have hnone : (after (TaskTransitionService.serve · sampleOrchestratorCodec) start
        [sampleCreation]).boundTo ("tenant", "task") "step" = none := by decide
    obtain ⟨-, -, -, rfl, -⟩ := Operation.bindExecution.inj hcall
    exact nomatch hnone.symm.trans hbound

end AgentSphere.Orchestrator
