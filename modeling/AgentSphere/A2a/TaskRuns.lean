import AgentSphere.A2a.Tasks
import AgentSphere.Lib.Versions

/-!
# The life of a remote task

Any number of clients submit, poll and cancel tasks on one store. A record is only written over the
very record that was decided about, since its revision tells it from all others; so each change is
one of the transitions, and what holds of a transition holds along the whole run.
-/

namespace AgentSphere.A2a

open Concurrency Attempt Orchestrator

-- One transition

def A2aTaskState.underWay : A2aTaskState → Bool
  | .submitted | .working | .inputRequired | .authRequired => true
  | _ => false

def A2aTaskRecord.Sound (record : A2aTaskRecord) : Prop :=
  record.state = .completed →
    record.remoteStatus = "completed" ∧ record.evaluationStatus = some .pass

structure Decided (current next : A2aTaskRecord) : Prop where
  key : next.key = current.key
  left : current.state.terminal = false
  closing : current.state.underWay = false → next.state.underWay = false
  sound : next.Sound

structure Moves (current next : A2aTaskRecord) : Prop extends Decided current next where
  revision : next.revision = current.revision + 1
  later : current.updatedAt < next.updatedAt

structure Submitted (record : A2aTaskRecord) : Prop where
  state : record.state = .submitted
  revision : record.revision = 1

theorem validTaskTransition_closing {source target : A2aTaskState}
    (h : validTaskTransition source target = true) (hsource : source.underWay = false) :
    target.underWay = false := by
  revert h hsource
  cases source <;> cases target <;> decide

theorem stateOf_eq_completed {remoteStatus : String} {evaluation : Option EvaluationStatus}
    (h : stateOf remoteStatus evaluation = some .completed) :
    remoteStatus = "completed" ∧ evaluation = some .pass := by
  unfold stateOf at h
  split at h
  case h_5 =>
    split at h
    · next hpass => exact ⟨rfl, hpass⟩
    · cases h
  all_goals cases h

theorem nextState_eq_completed {current : A2aTaskState} {remoteStatus : String}
    {evaluation : Option EvaluationStatus}
    (h : nextState current remoteStatus evaluation = some .completed) :
    remoteStatus = "completed" ∧ evaluation = some .pass := by
  unfold nextState at h
  split at h
  · cases h
  · exact stateOf_eq_completed h

theorem monotonicUpdateTime_lt {now previous updatedAt : DateTime}
    (h : monotonicUpdateTime now previous = some updatedAt) : previous < updatedAt := by
  unfold monotonicUpdateTime at h
  split at h
  · next hlater =>
    obtain rfl := Option.some.inj h
    exact hlater
  · rw [DateTime.add_eq_some h]
    exact Int.lt_add_of_pos_right previous (by decide)

-- What clients write

def MayWrite (entries : List TaskEntry) : TaskCall → Prop
  | .insert record => Submitted record
  | .compareAndSet expectedRevision record => ∃ current tenantId taskId,
    ⟨.load tenantId taskId, .ok current⟩ ∈ entries ∧ expectedRevision = current.revision ∧
      Moves current record
  | _ => True

def conduct : Monitor TaskCall TaskCall.Answer (List TaskEntry) :=
  recording MayWrite fun _ _ => True

section Conduct

variable {Bytes : Type} {codec : TaskCodec Bytes} {entries : List TaskEntry}

theorem signTask_eq_ok {record signed : A2aTaskRecord} (h : signTask codec record = .ok signed) :
    ∃ signature, signed = { record with backendSignature := signature } := by
  unfold signTask at h
  split at h
  · next bytes _ => exact ⟨codec.sign bytes, (Except.ok.inj h).symm⟩
  · cases h

theorem conduct_status (tenantId : TenantId) (taskId : TaskId) :
    conduct.Ensures (fun result entries' => ∀ record, result = .ok record →
      ⟨.load tenantId taskId, .ok record⟩ ∈ entries')
      (status codec tenantId taskId).run entries := by
  unfold status
  refine Monitor.port_bind trivial (fun answer record hanswer => ?_) fun _ _ _ => nofun
  obtain rfl : answer = .ok record := hanswer
  refine Monitor.ofExcept_bind (fun _ _ => ?_) fun _ _ => nofun
  rintro _ ⟨⟩
  exact List.mem_concat_self

theorem conduct_replace {tenantId : TenantId} {taskId : TaskId} {current next : A2aTaskRecord}
    (hloaded : ⟨.load tenantId taskId, .ok current⟩ ∈ entries) (hdecided : Decided current next) :
    conduct.Ensures (fun _ _ => True) (replace codec current next).run entries := by
  unfold replace
  refine Monitor.computed_bind (fun revision hrevision => ?_) trivial
  refine Monitor.ask_bind trivial fun now => ?_
  refine Monitor.computed_bind (fun updatedAt hupdatedAt => ?_) trivial
  refine Monitor.ofExcept_bind (fun record hsigned => ?_) fun _ _ => trivial
  obtain ⟨signature, rfl⟩ := signTask_eq_ok hsigned
  refine Monitor.port_bind ⟨current, tenantId, taskId, ?_, rfl, ?_⟩ (fun _ _ _ => trivial)
    fun _ _ _ => trivial
  · exact List.mem_append_left _ hloaded
  · exact {
      key := hdecided.key
      left := hdecided.left
      closing := hdecided.closing
      sound := hdecided.sound
      revision := checkedSucc_eq_some hrevision
      later := monotonicUpdateTime_lt hupdatedAt }

theorem conduct_cancel (tenantId : TenantId) (taskId : TaskId) :
    conduct.Ensures (fun _ _ => True) (cancel codec tenantId taskId).run entries := by
  unfold cancel
  rw [Monitor.ensures_attempt_bind]
  refine (conduct_status tenantId taskId).mono fun result entries' hstatus => ?_
  cases result with
  | error e => trivial
  | ok current =>
    refine Monitor.ensure_bind (fun hopen => ?_) fun _ => trivial
    exact conduct_replace (hstatus current rfl) ⟨rfl, hopen.1, fun _ => rfl, nofun⟩

theorem conduct_transition (tenantId : TenantId) (taskId : TaskId) (remoteStatus : String)
    (evaluation : Option EvaluationStatus) :
    conduct.Ensures (fun _ _ => True)
      (transition codec tenantId taskId remoteStatus evaluation).run entries := by
  unfold transition
  rw [Monitor.ensures_attempt_bind]
  refine (conduct_status tenantId taskId).mono fun result entries' hstatus => ?_
  cases result with
  | error e => trivial
  | ok current =>
    refine Monitor.ensure_bind (fun hopen => ?_) fun _ => trivial
    refine Monitor.computed_bind (fun state hstate => ?_) trivial
    refine Monitor.ensure_bind (fun hvalid => ?_) fun _ => trivial
    refine conduct_replace (hstatus current rfl) ⟨rfl, hopen.1, ?_, ?_⟩
    · exact validTaskTransition_closing hvalid
    · rintro rfl
      exact nextState_eq_completed hstate

theorem conduct_submit (tenantId : TenantId) (taskId : TaskId) (remoteTaskId : String)
    (card : AgentCardSnapshot) :
    conduct.Ensures (fun _ _ => True) (submit codec tenantId taskId remoteTaskId card).run
      entries := by
  unfold submit
  refine Monitor.ensure_bind (fun _ => ?_) fun _ => trivial
  refine Monitor.ask_bind trivial fun now => ?_
  refine Monitor.ofExcept_bind (fun record hsigned => ?_) fun _ _ => trivial
  obtain ⟨signature, rfl⟩ := signTask_eq_ok hsigned
  exact Monitor.port_bind ⟨rfl, rfl⟩ (fun _ _ _ => trivial) fun _ _ _ => trivial

theorem conduct_exchangeTask (endpoint method : String) (params : Value) :
    conduct.Ensures (fun _ _ => True) (exchangeTask codec endpoint method params).run entries := by
  unfold exchangeTask
  refine Monitor.ensure_bind (fun _ => ?_) fun _ => trivial
  refine Monitor.ask_bind trivial fun id => ?_
  refine Monitor.port_bind trivial (fun _ response _ => ?_) fun _ _ _ => trivial
  refine Monitor.ensure_bind (fun _ => ?_) fun _ => trivial
  exact Monitor.computed_bind (fun result _ => trivial) trivial

theorem conduct_askRemote (operation : A2aWireOperation) (record : A2aTaskRecord) :
    conduct.Ensures (fun _ _ => True) (askRemote codec operation record).run entries := by
  unfold askRemote
  exact Monitor.ofExcept_bind (fun method _ => conduct_exchangeTask _ method _) fun _ _ => trivial

theorem conduct_sendMessage (card : AgentCardSnapshot) (params : Value) :
    conduct.Ensures (fun _ _ => True) (sendMessage codec card params).run entries := by
  unfold sendMessage
  refine Monitor.ensure_bind (fun _ => ?_) fun _ => trivial
  refine Monitor.computed_bind (fun size _ => ?_) trivial
  refine Monitor.ensure_bind (fun _ => ?_) fun _ => trivial
  exact Monitor.ofExcept_bind (fun method _ => conduct_exchangeTask _ method _) fun _ _ => trivial

theorem conduct_bind {α β : Type} {x : Tasking α} {f : α → Tasking β}
    (hx : conduct.Ensures (fun _ _ => True) x.run entries)
    (hf : ∀ a entries', conduct.Ensures (fun _ _ => True) (f a).run entries') :
    conduct.Ensures (fun _ _ => True) (x >>= f).run entries := by
  rw [Monitor.ensures_attempt_bind]
  refine hx.mono fun result entries' _ => ?_
  cases result with
  | error e => trivial
  | ok a => exact hf a entries'

/-- **Conduct**: what a client writes was decided about a record it has loaded. -/
theorem conduct_client {p : Program TaskCall TaskCall.Answer TaskResult} (h : Client codec p) :
    conduct.Ensures (fun _ _ => True) p entries := by
  cases h with
  | submit => exact conduct_submit ..
  | status => exact (conduct_status ..).mono fun _ _ _ => trivial
  | cancel => exact conduct_cancel ..
  | recordRemoteStatus => exact conduct_transition ..
  | submitRemote tenantId taskId card params =>
    refine conduct_bind (conduct_sendMessage ..) fun remote entries' => ?_
    refine conduct_bind (conduct_submit ..) fun record entries' => ?_
    split
    · trivial
    · exact conduct_transition ..
  | cancelRemote =>
    refine conduct_bind (conduct_cancel ..) fun cancelling entries' => ?_
    refine conduct_bind (conduct_askRemote ..) fun remote entries' => ?_
    exact Monitor.ensure_bind (fun _ => conduct_transition ..) fun _ => trivial
  | refreshRemote =>
    refine conduct_bind ((conduct_status ..).mono fun _ _ _ => trivial) fun current entries' => ?_
    refine conduct_bind (conduct_askRemote ..) fun remote entries' => ?_
    exact Monitor.ensure_bind (fun _ => conduct_transition ..) fun _ => trivial

end Conduct

-- What an event does to a record

inductive TaskStep : Option A2aTaskRecord → Option A2aTaskRecord → Prop where
  | same (record : Option A2aTaskRecord) : TaskStep record record
  | submitted (record : A2aTaskRecord) (first : Submitted record) : TaskStep none (some record)
  | moved (current next : A2aTaskRecord) (moves : Moves current next) :
      TaskStep (some current) (some next)

theorem serve_cases {store store' : TaskStore} {call : TaskCall} {answer : call.Answer}
    (h : serve store call answer store') (key : TenantId × TaskId) :
    store'[key]? = store[key]? ∨
    (∃ record, call = .insert record ∧ record.key = key ∧ store[key]? = none ∧
      store'[key]? = some record) ∨
    ∃ expectedRevision record old, call = .compareAndSet expectedRevision record ∧
      record.key = key ∧ store[key]? = some old ∧ old.revision = expectedRevision ∧
      store'[key]? = some record := by
  cases call with
  | insert record =>
    obtain ⟨habsent, rfl⟩ | ⟨-, rfl⟩ := h
    · by_cases hkey : record.key = key
      · subst hkey
        exact .inr (.inl ⟨record, rfl, rfl, habsent, by simp⟩)
      · exact .inl (by simp [hkey])
    · exact .inl rfl
  | compareAndSet expectedRevision record =>
    obtain ⟨old, hold, hexpected, rfl⟩ | ⟨-, rfl⟩ := h
    · by_cases hkey : record.key = key
      · subst hkey
        exact .inr (.inr ⟨expectedRevision, record, old, rfl, rfl, hold, hexpected, by simp⟩)
      · exact .inl (by simp [hkey])
    · exact .inl rfl
  | load =>
    obtain ⟨-, rfl⟩ := h
    exact .inl rfl
  | utcNow | newUuid | exchange =>
    obtain rfl := h
    exact .inl rfl

section Events

variable {Bytes : Type} {codec : TaskCodec Bytes} {cfg : TaskConfig}
  {before later : List TaskEvent} {event : TaskEvent}

def Placed (store : TaskStore) : Prop :=
  ∀ (key : TenantId × TaskId) (record : A2aTaskRecord), store[key]? = some record →
    record.key = key

theorem placed_always (hreach : (system codec).Reachable ∅ cfg) :
    Placed cfg.shared ∧ ∀ before event after, cfg.trace = before ++ event :: after →
      Placed event.before ∧ serve event.before event.call event.answer event.after := by
  refine hreach.always (I := fun store _ => Placed store) ?_ (by rintro _ _ _ _ ⟨⟩)
    (by simp [Placed])
  intro store trace i call answer store' hplaced hserve key found hfound
  rcases serve_cases hserve key with
    hsame | ⟨record, -, hkey, -, hafter⟩ | ⟨_, record, _, -, hkey, -, -, hafter⟩
  · exact hplaced key found (hsame.symm.trans hfound)
  · obtain rfl := Option.some.inj (hafter.symm.trans hfound)
    exact hkey
  · obtain rfl := Option.some.inj (hafter.symm.trans hfound)
    exact hkey

theorem served (hreach : (system codec).Reachable ∅ cfg) (event : TaskEvent)
    (hevent : event ∈ cfg.trace) :
    Placed event.before ∧ serve event.before event.call event.answer event.after := by
  obtain ⟨before, after, htrace⟩ := List.append_of_mem hevent
  exact (placed_always hreach).2 before event after htrace

theorem mayWrite_of_called (hreach : (system codec).Reachable ∅ cfg)
    (htrace : cfg.trace = before ++ event :: later) :
    MayWrite (history event.thread before) event.call := by
  obtain ⟨p, resume, hclient, hresumes⟩ := hreach.called htrace
  have hconduct : conduct.Ensures (fun _ _ => True) p [] := conduct_client hclient
  have hrest := hconduct.resumes hresumes fun _ _ => trivial
  rw [List.nil_append] at hrest
  exact hrest.1

theorem loaded_from (hreach : (system codec).Reachable ∅ cfg)
    (htrace : cfg.trace = before ++ event :: later) {tenantId : TenantId} {taskId : TaskId}
    {current : A2aTaskRecord}
    (hloaded : ⟨.load tenantId taskId, .ok current⟩ ∈ history event.thread before) :
    ∃ earlier load between, before = earlier ++ load :: between ∧
      load.thread = event.thread ∧ load.after[current.key]? = some current := by
  obtain ⟨load, hload, hthread, hentry⟩ := mem_history.mp hloaded
  obtain ⟨earlier, between, rfl⟩ := List.append_of_mem hload
  obtain ⟨hplaced, hserve⟩ := served hreach load (by simp [htrace])
  obtain ⟨hfound, hsame⟩ := Event.of_entry hentry
    (fun call answer => serve load.before call answer load.after) hserve
  have hcurrent := hfound current rfl
  refine ⟨earlier, load, between, rfl, hthread, ?_⟩
  rw [hsame, hplaced _ _ hcurrent]
  exact hcurrent

theorem revision_step (hreach : (system codec).Reachable ∅ cfg)
    (htrace : cfg.trace = before ++ event :: later) (key : TenantId × TaskId) :
    CellStep A2aTaskRecord.revision event.before[key]? event.after[key]? := by
  have hmay := mayWrite_of_called hreach htrace
  rcases serve_cases (served hreach event (by simp [htrace])).2 key with
    hsame | ⟨record, hcall, -, hbefore, hafter⟩ |
      ⟨_, record, old, hcall, -, hbefore, hexpected, hafter⟩
  · rw [hsame]
    exact .same _
  · rw [hcall] at hmay
    rw [hbefore, hafter]
    exact .created record hmay.revision
  · rw [hcall] at hmay
    obtain ⟨current, -, -, -, hrevision, hmoves⟩ := hmay
    rw [hbefore, hafter]
    refine .replaced old record ?_
    rw [hmoves.revision, ← hrevision, hexpected]

theorem versioned (codec : TaskCodec Bytes) (key : TenantId × TaskId) :
    Versioned (system codec) ∅ (fun store : TaskStore => store[key]?) A2aTaskRecord.revision where
  step := by
    intro cfg hreach event hevent
    obtain ⟨before, after, htrace⟩ := List.append_of_mem hevent
    exact revision_step hreach htrace key
  internal := by
    rintro _ _ ⟨⟩

/-- **No lost change**: a record is written over the very record that was loaded for it. -/
theorem written_over_loaded (hreach : (system codec).Reachable ∅ cfg)
    (htrace : cfg.trace = before ++ event :: later) {expectedRevision : Nat}
    {record old : A2aTaskRecord} (hcall : event.call = .compareAndSet expectedRevision record)
    (hold : event.before[record.key]? = some old) (hexpected : old.revision = expectedRevision) :
    Moves old record ∧ ∃ load ∈ before, load.thread = event.thread ∧
      load.after[record.key]? = some old := by
  have hmay := mayWrite_of_called hreach htrace
  rw [hcall] at hmay
  obtain ⟨current, tenantId, taskId, hloaded, hrevision, hmoves⟩ := hmay
  obtain ⟨earlier, load, between, rfl, hthread, hcurrent⟩ := loaded_from hreach htrace hloaded
  rw [← hmoves.key] at hcurrent
  obtain rfl : old = current :=
    (versioned codec record.key).eq_of_version_eq hreach (by simpa using htrace) hcurrent hold
      (hexpected.trans hrevision)
  exact ⟨hmoves, load, by simp, hthread, hcurrent⟩

/-- **Step lemma**: an event leaves a record alone, submits it or takes it one transition on. -/
theorem serve_moves (hreach : (system codec).Reachable ∅ cfg)
    (htrace : cfg.trace = before ++ event :: later) (key : TenantId × TaskId) :
    TaskStep event.before[key]? event.after[key]? := by
  have hmay := mayWrite_of_called hreach htrace
  rcases serve_cases (served hreach event (by simp [htrace])).2 key with
    hsame | ⟨record, hcall, -, hbefore, hafter⟩ |
      ⟨_, record, old, hcall, rfl, hbefore, hexpected, hafter⟩
  · rw [hsame]
    exact .same _
  · rw [hcall] at hmay
    rw [hbefore, hafter]
    exact .submitted record hmay
  · rw [hbefore, hafter]
    exact .moved old record (written_over_loaded hreach htrace hcall hbefore hexpected).1

end Events

-- Runs

structure Evolves (old new : A2aTaskRecord) : Prop where
  terminal : old.state.terminal = true → new = old
  closing : old.state.underWay = false → new.state.underWay = false
  later : new = old ∨ old.revision < new.revision ∧ old.updatedAt < new.updatedAt

theorem Evolves.refl (record : A2aTaskRecord) : Evolves record record :=
  ⟨fun _ => rfl, id, .inl rfl⟩

theorem Evolves.trans (old mid new : A2aTaskRecord) (h : Evolves old mid) (h' : Evolves mid new) :
    Evolves old new where
  terminal hold := by
    obtain rfl := h.terminal hold
    exact h'.terminal hold
  closing hold := h'.closing (h.closing hold)
  later := by
    obtain rfl | ⟨hrevision, htime⟩ := h.later
    · exact h'.later
    · obtain rfl | ⟨hrevision', htime'⟩ := h'.later
      · exact .inr ⟨hrevision, htime⟩
      · exact .inr ⟨hrevision.trans hrevision', htime.trans htime'⟩

theorem Moves.evolves {current next : A2aTaskRecord} (h : Moves current next) :
    Evolves current next where
  terminal hterminal := by
    rw [h.left] at hterminal
    cases hterminal
  closing := h.closing
  later := .inr ⟨by rw [h.revision]; omega, h.later⟩

section Runs

variable {Bytes : Type} {codec : TaskCodec Bytes} {cfg : TaskConfig}

theorem sound_of_run (hreach : (system codec).Reachable ∅ cfg) (key : TenantId × TaskId)
    {record : A2aTaskRecord} (hrecord : cfg.shared[key]? = some record) : record.Sound := by
  refine (versioned codec key).holds (P := A2aTaskRecord.Sound) (by simp) hreach ?_ hrecord
  intro event hevent v hafter hchanged
  obtain ⟨before, later, htrace⟩ := List.append_of_mem hevent
  have hstep := serve_moves hreach htrace key
  generalize event.before[key]? = old at hstep hchanged
  rw [hafter] at hstep hchanged
  cases hstep with
  | same => exact absurd rfl hchanged
  | submitted _ hfirst =>
    intro hcompleted
    rw [hfirst.state] at hcompleted
    cases hcompleted
  | moved _ _ hmoves => exact hmoves.sound

/-- **Tasks**: in any interleaving of clients each event takes a record through at most one
transition, and a change that has succeeded is never lost. -/
theorem tasks_lose_no_change (hreach : (system codec).Reachable ∅ cfg) (key : TenantId × TaskId) :
    (∀ before event later, cfg.trace = before ++ event :: later →
      TaskStep event.before[key]? event.after[key]?) ∧
    ((cfg.shared[key]?).map A2aTaskRecord.revision).getD 0 =
      cfg.trace.countP (fun event => event.after[key]? ≠ event.before[key]?) ∧
    (∀ before event later expectedRevision record,
      cfg.trace = before ++ event :: later →
      event.entry = ⟨.compareAndSet expectedRevision record, .ok ()⟩ → record.key = key →
        event.after[key]? = some record ∧ ∃ old, event.before[key]? = some old ∧
          Moves old record ∧ ∃ load ∈ before, load.thread = event.thread ∧
            load.after[key]? = some old) ∧
    (∀ before event later old, cfg.trace = before ++ event :: later →
      event.after[key]? = some old →
        ∃ new, cfg.shared[key]? = some new ∧ Evolves old new) ∧
    ∀ record, cfg.shared[key]? = some record → record.Sound := by
  refine ⟨?_, ?_, ?_, ?_, fun record => sound_of_run hreach key⟩
  · intro before event later htrace
    exact serve_moves hreach htrace key
  · exact (versioned codec key).version_eq_countP (by simp) hreach
  · rintro before event later expectedRevision record htrace hentry rfl
    obtain ⟨-, hserve⟩ := served hreach event (by simp [htrace])
    obtain ⟨old, hold, hexpected, hafter⟩ | ⟨⟨e, herror⟩, -⟩ := Event.of_entry hentry
      (fun call answer => serve event.before call answer event.after) hserve
    · refine ⟨?_, old, hold, ?_⟩
      · rw [hafter, BTreeMap.getElem?_insert_ite, if_pos rfl]
      · exact written_over_loaded hreach htrace (congrArg Sigma.fst hentry) hold hexpected
    · cases herror
  · intro before event later old htrace hold
    refine ((versioned codec key).related Evolves.refl Evolves.trans hreach htrace ?_ hold).1
    intro next hnext v v' hv hv'
    obtain ⟨earlier, rest, hsplit⟩ := List.append_of_mem
      (show next ∈ cfg.trace by simp [htrace, hnext])
    have hstep := serve_moves hreach hsplit key
    rw [hv, hv'] at hstep
    cases hstep with
    | same => exact .inl rfl
    | moved _ _ hmoves => exact .inr hmoves.evolves

end Runs

-- A sample task

def sampleTaskCodec : TaskCodec String where
  taskJcs record := some record.taskId
  sign bytes := bytes
  verifies bytes signature := bytes == signature
  parseUrl url := some ⟨"https", "", none, none, some url⟩
  jcsSize _ := some 2

def sampleCard : AgentCardSnapshot where
  protocolVersion := "1.0"
  agentId := "agent"
  endpoint := "https://agent.example"
  cardHash := sampleHash 'a'
  verified := true

def sampleSubmitted : A2aTaskRecord :=
  { submittedRecord "tenant" "task" "remote" sampleCard 5 with backendSignature := "task" }

/-- The record once the task was reported as completed and has passed its evaluation, with a clock
that has not moved. -/
def sampleCompleted : A2aTaskRecord :=
  { sampleSubmitted with
    state := .completed
    remoteStatus := "completed"
    evaluationStatus := some .pass
    revision := 2
    updatedAt := 1005 }

theorem sample_run : ∃ cfg : TaskConfig, (system sampleTaskCodec).Reachable ∅ cfg ∧
    cfg.shared[(("tenant", "task") : TenantId × TaskId)]? = some sampleCompleted := by
  let submittedStore : TaskStore := (∅ : TaskStore).insert ("tenant", "task") sampleSubmitted
  have hsubmit : Resumes (submit sampleTaskCodec "tenant" "task" "remote" sampleCard).run
      [⟨.utcNow, (5 : DateTime)⟩, ⟨.insert sampleSubmitted, .ok ()⟩]
      (.done (.ok sampleSubmitted)) := by
    refine .ensure_bind (by decide) ?_
    refine .ask_bind ?_
    refine .ofExcept_bind rfl ?_
    exact .port_bind rfl (.refl _)
  have hverify : verifyTask sampleTaskCodec sampleSubmitted = .ok () := by decide +kernel
  have hstatus : Resumes (status sampleTaskCodec "tenant" "task").run
      [⟨.load "tenant" "task", .ok sampleSubmitted⟩] (.done (.ok sampleSubmitted)) :=
    .port_bind rfl (.ofExcept_bind hverify (.refl _))
  have hreplace : Resumes (replace sampleTaskCodec sampleSubmitted { sampleSubmitted with
        state := .completed, remoteStatus := "completed", evaluationStatus := some .pass }).run
      [⟨.utcNow, (5 : DateTime)⟩, ⟨.compareAndSet 1 sampleCompleted, .ok ()⟩]
      (.done (.ok sampleCompleted)) := by
    refine .computed_bind (a := 2) (by decide) ?_
    refine .ask_bind ?_
    refine .computed_bind (a := 1005) (by decide) ?_
    refine .ofExcept_bind rfl ?_
    exact .port_bind rfl (.refl _)
  have htransition : Resumes (transition sampleTaskCodec "tenant" "task" "completed"
      (some .pass)).run [⟨.load "tenant" "task", .ok sampleSubmitted⟩, ⟨.utcNow, (5 : DateTime)⟩,
        ⟨.compareAndSet 1 sampleCompleted, .ok ()⟩] (.done (.ok sampleCompleted)) := by
    refine hstatus.attempt_bind ?_
    refine .ensure_bind (by decide) ?_
    refine .computed_bind (a := .completed) (by decide) ?_
    exact .ensure_bind (by decide) hreplace
  have hstart : (system sampleTaskCodec).Reachable ∅
      ⟨∅, [(submit sampleTaskCodec "tenant" "task" "remote" sampleCard).run,
        (transition sampleTaskCodec "tenant" "task" "completed" (some .pass)).run], []⟩ :=
    .tail (.tail .refl (.start _ (.submit ..))) (.start _ (.recordRemoteStatus ..))
  have hinserted : (system sampleTaskCodec).Serves (∅ : TaskStore)
      [⟨.utcNow, (5 : DateTime)⟩, ⟨.insert sampleSubmitted, .ok ()⟩] submittedStore :=
    .through ∅ rfl (.cons (.inl ⟨by simp, rfl⟩) (.nil _))
  obtain ⟨first, -, -, hfirst⟩ := hstart.run 0 rfl hsubmit hinserted
  have hfound : submittedStore[(("tenant", "task") : TenantId × TaskId)]? =
      some sampleSubmitted := by simp [submittedStore]
  have hreplaced : (system sampleTaskCodec).Serves submittedStore
      [⟨.load "tenant" "task", .ok sampleSubmitted⟩, ⟨.utcNow, (5 : DateTime)⟩,
        ⟨.compareAndSet 1 sampleCompleted, .ok ()⟩]
      (submittedStore.insert ("tenant", "task") sampleCompleted) := by
    refine .through submittedStore ⟨?_, rfl⟩ ?_
    · rintro _ ⟨⟩
      exact hfound
    refine .through submittedStore rfl ?_
    exact .cons (.inl ⟨sampleSubmitted, hfound, rfl, rfl⟩) (.nil _)
  obtain ⟨second, -, -, hsecond⟩ := hfirst.run 1 rfl htransition hreplaced
  exact ⟨_, hsecond, by simp⟩

/-- The result at a concrete run: two changes have succeeded, and the task is sound. -/
theorem tasks_lose_no_change_sample : ∃ cfg : TaskConfig,
    cfg.shared[(("tenant", "task") : TenantId × TaskId)]? = some sampleCompleted ∧
    (cfg.trace.countP fun event => event.after[(("tenant", "task") : TenantId × TaskId)]? ≠
      event.before[(("tenant", "task") : TenantId × TaskId)]?) = 2 ∧ sampleCompleted.Sound := by
  obtain ⟨cfg, hreach, hcompleted⟩ := sample_run
  obtain ⟨-, hcount, -, -, hsound⟩ := tasks_lose_no_change hreach ("tenant", "task")
  refine ⟨cfg, hcompleted, ?_, hsound _ hcompleted⟩
  rw [← hcount, hcompleted]
  rfl

end AgentSphere.A2a
