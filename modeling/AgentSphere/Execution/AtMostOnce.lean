import AgentSphere.Execution.Progress
import Mathlib.Data.List.Pairwise

/-!
# At most one side effect

However many executions run for one tenant and idempotency key, and wherever they are dropped,
the tool proxy is invoked once at most: every invocation is preceded by a start of the record
in the same thread, and no record is started twice.
-/

namespace AgentSphere.Execution

open Concurrency Ledger

def invokedKey : ExecutionCall → Option (TenantId × IdempotencyKey)
  | .toolExecute request idempotencyKey _ => some (request.tenantId, idempotencyKey)
  | _ => none

theorem invokedKey_eq_some {call : ExecutionCall} {key : TenantId × IdempotencyKey}
    (h : invokedKey call = some key) :
    ∃ request fenceDigest, call = .toolExecute request key.2 fenceDigest ∧
      request.tenantId = key.1 := by
  cases call with
  | toolExecute request idempotencyKey fenceDigest =>
    obtain rfl := Option.some.inj h
    exact ⟨request, fenceDigest, rfl, rfl⟩
  | _ => cases h

/-- How often the tool proxy was invoked for a key: the invocations that were answered and
those that still wait for an answer, which may never come. -/
def invocations (key : TenantId × IdempotencyKey) (cfg : ExecutionConfig) : Nat :=
  cfg.trace.countP (fun event => invokedKey event.call = some key) +
    cfg.threads.countP (fun thread => thread.pending.bind invokedKey = some key)

/-- Thread `i` itself moved the record of the key from `Prepared` to `Running`. -/
def StartedBy (i : Nat) (key : TenantId × IdempotencyKey) (trace : List ExecutionEvent) : Prop :=
  ∃ event ∈ trace, event.thread = i ∧ ∃ fence record record',
    event.entry = ⟨.ledger (.markStarted fence none), .ok ()⟩ ∧
    event.before.byIdempotency[key]? = some fence.executionId ∧
    event.before.byExecution[fence.executionId]? = some record ∧
    record.key = key ∧ record.status = .prepared ∧
    event.after.byExecution[fence.executionId]? = some record' ∧ record'.status = .running

theorem StartedBy.append {i : Nat} {key : TenantId × IdempotencyKey}
    {trace : List ExecutionEvent} (h : StartedBy i key trace) (rest : List ExecutionEvent) :
    StartedBy i key (trace ++ rest) := by
  obtain ⟨event, hmem, hstarted⟩ := h
  exact ⟨event, List.mem_append_left rest hmem, hstarted⟩

theorem intentFor_key {codec : Codec} {request : ExecutionRequest}
    {materialized : MaterializedAction} {tool : ResolvedToolSnapshot}
    {plan : Option CompensationPlan} {intent : ExecutionIntent}
    (h : intentFor codec request materialized tool plan = .ok intent) :
    intent.key = (request.tenantId, request.idempotencyKey) := by
  unfold intentFor at h
  simp only at h
  split_ifs at h with huuid
  · cases h
  · obtain ⟨argumentsHash, -, h⟩ := except_bind_eq_ok.mp h
    cases h
    rfl

section Runs

variable {coordinator : ExecutionCoordinator} {cfg : ExecutionConfig}

theorem traced_always (hreach : (system coordinator).Reachable .default cfg) :
    Traced cfg.shared cfg.trace ∧
    ∀ before event after, cfg.trace = before ++ event :: after →
      Traced event.before before ∧
        serve coordinator.codec.eventDigest event.before event.call event.answer event.after := by
  refine hreach.always (fun _ _ _ _ _ _ hinv hserve => hinv.serve hserve) ?_ traced_default
  rintro _ _ _ _ ⟨⟩

theorem startedBy_of_licensed (hreach : (system coordinator).Reachable .default cfg)
    {before rest : List ExecutionEvent} (htrace : cfg.trace = before ++ rest) {i : Nat}
    {reserved : Reserved} {ledgerEvent : LedgerEventFact} {authorized : PreExecutionAuthorization}
    (hlicensed : Licensed coordinator reserved ledgerEvent authorized (history i before)) :
    StartedBy i (reserved.request.tenantId, reserved.request.idempotencyKey) before := by
  have hmem : startedEntry reserved ∈ history i before := by
    refine List.mem_of_mem_filter (p := fun entry => isEffect entry.1) ?_
    rw [← effects, hlicensed.effects]
    simp
  obtain ⟨start, hstart, rfl, hentry⟩ := mem_history.mp hmem
  obtain ⟨earlier, later, rfl⟩ := List.append_of_mem hstart
  -- the reservation stands before the start, since it is the only other effect
  have hreserved : reservedEntry reserved ∈ history start.thread earlier := by
    have heffects := hlicensed.effects
    rw [history_append, history_cons_self, hentry, effects_append] at heffects
    cases hfirst : effects (history start.thread earlier) with
    | nil =>
      rw [hfirst] at heffects
      cases heffects
    | cons first more =>
      rw [hfirst, List.cons_append] at heffects
      obtain rfl := (List.cons.inj heffects).1
      exact List.mem_of_mem_filter (p := fun entry => isEffect entry.1)
        (by rw [← effects, hfirst]; exact List.mem_cons_self)
  obtain ⟨reservation, hreservation, -, hreservedEntry⟩ := mem_history.mp hreserved
  obtain ⟨htraced, hserve⟩ := (traced_always hreach).2 earlier start (later ++ rest)
    (by rw [htrace, List.append_assoc, List.cons_append])
  obtain ⟨hkey, hfence⟩ := htraced.reserved reservation hreservation _ _ hreservedEntry
  rw [intentFor_key hlicensed.checked.prepared.intent, ← hfence] at hkey
  obtain ⟨record, hrecord, hrecordKey⟩ := htraced.record_of_key hkey
  obtain ⟨i, call, answer, ledger, ledger'⟩ := start
  obtain ⟨rfl, hanswer⟩ := Sigma.mk.inj hentry
  obtain rfl := eq_of_heq hanswer
  obtain ⟨found, record', hfound, hprepared, hfound', hrunning⟩ := serve_markStarted hserve
  obtain rfl : record = found := Option.some.inj (hrecord.symm.trans hfound)
  exact ⟨_, by simp, rfl, reserved.fence, record, record', rfl, hkey, hfound, hrecordKey,
    hprepared, hfound', hrunning⟩

theorem StartedBy.unique {ledger : InMemoryExecutionLedger} {trace : List ExecutionEvent}
    (htraced : Traced ledger trace) {key : TenantId × IdempotencyKey} {i j : Nat}
    (hi : StartedBy i key trace) (hj : StartedBy j key trace) : i = j := by
  obtain ⟨event, hevent, rfl, fence, -, -, hentry, hkey, -⟩ := hi
  obtain ⟨event', hevent', rfl, fence', -, -, hentry', hkey', -⟩ := hj
  by_contra hthreads
  have hne : event ≠ event' := fun h => hthreads (congrArg Event.thread h)
  have hsame : fence.executionId = fence'.executionId :=
    Option.some.inj ((htraced.kept event hevent key _ hkey).symm.trans
      (htraced.kept event' hevent' key _ hkey'))
  have hsymm : Std.Symm fun event event' : ExecutionEvent => ∀ fence operation fence' operation',
      event.entry = ⟨.ledger (.markStarted fence operation), .ok ()⟩ →
      event'.entry = ⟨.ledger (.markStarted fence' operation'), .ok ()⟩ →
      fence.executionId ≠ fence'.executionId :=
    ⟨fun _ _ h fence operation fence' operation' hentry hentry' =>
      (h fence' operation' fence operation hentry' hentry).symm⟩
  exact htraced.once.forall hevent hevent' hne fence none fence' none hentry hentry' hsame

theorem startedBy_of_waiting (hreach : (system coordinator).Reachable .default cfg)
    {before rest : List ExecutionEvent} (htrace : cfg.trace = before ++ rest) {i : Nat}
    {p : Program ExecutionCall ExecutionCall.Answer ThreadResult} (hcaller : Caller coordinator p)
    {call : ExecutionCall}
    {resume : call.Answer → Program ExecutionCall ExecutionCall.Answer ThreadResult}
    (hresumes : Resumes p (history i before) (.perform call resume))
    {key : TenantId × IdempotencyKey} (hkey : invokedKey call = some key) :
    StartedBy i key before ∧
      ∀ event ∈ before, event.thread = i → invokedKey event.call = none := by
  obtain ⟨request, fenceDigest, rfl, htenant⟩ := invokedKey_eq_some hkey
  obtain ⟨reserved, ledgerEvent, authorized, hlicensed, htool⟩ := hcaller.licensed hresumes
  obtain ⟨rfl, hidempotency, -⟩ := ExecutionCall.toolExecute.inj htool
  refine ⟨?_, ?_⟩
  · have hstarted := startedBy_of_licensed hreach htrace hlicensed
    rwa [← hidempotency, show reserved.request.tenantId = key.1 from htenant] at hstarted
  · rintro event hevent rfl
    by_contra hinvoked
    obtain ⟨key', hkey'⟩ := Option.ne_none_iff_exists'.mp hinvoked
    obtain ⟨request', fenceDigest', hcall, -⟩ := invokedKey_eq_some hkey'
    have hmem : event.entry ∈ effects (history event.thread before) := by
      refine mem_effects (mem_history.mpr ⟨event, hevent, rfl, rfl⟩) ?_
      simp [Event.entry, hcall, isEffect]
    rw [hlicensed.effects] at hmem
    obtain hentry | hentry : event.entry = _ ∨ event.entry = _ := by simpa using hmem
    · have hreserve : event.call = .ledger (.reserve reserved.intent) := congrArg Sigma.fst hentry
      exact nomatch hcall.symm.trans hreserve
    · have hstart : event.call = .ledger (.markStarted reserved.fence none) :=
        congrArg Sigma.fst hentry
      exact nomatch hcall.symm.trans hstart

theorem pending_startedBy (hreach : (system coordinator).Reachable .default cfg)
    {key : TenantId × IdempotencyKey} {i : Nat}
    {thread : Program ExecutionCall ExecutionCall.Answer ThreadResult}
    (hthread : cfg.threads[i]? = some thread)
    (hpending : thread.pending.bind invokedKey = some key) :
    StartedBy i key cfg.trace ∧
      ∀ event ∈ cfg.trace, event.thread = i → invokedKey event.call = none := by
  cases thread with
  | done result => cases hpending
  | perform call resume =>
    obtain ⟨p, hcaller, hresumes⟩ := hreach.resumes.2 i _ hthread
    exact startedBy_of_waiting hreach (List.append_nil _).symm hcaller hresumes hpending

theorem event_startedBy (hreach : (system coordinator).Reachable .default cfg)
    {key : TenantId × IdempotencyKey} {before after : List ExecutionEvent} {event : ExecutionEvent}
    (htrace : cfg.trace = before ++ event :: after) (hinvoked : invokedKey event.call = some key) :
    StartedBy event.thread key before := by
  obtain ⟨p, resume, hcaller, hresumes⟩ := hreach.called htrace
  exact (startedBy_of_waiting hreach htrace hcaller hresumes hinvoked).1

theorem invocations_le_one (hreach : (system coordinator).Reachable .default cfg)
    (key : TenantId × IdempotencyKey) : invocations key cfg ≤ 1 := by
  refine hreach.made_le_one (f := invokedKey) (fun i trace => StartedBy i key trace)
    (fun _ _ rest h => h.append rest) ?_ ?_ ?_
  · rintro i trace ⟨event, hevent, hthread, -⟩
    exact ⟨event, hevent, hthread⟩
  · intro cfg hreach i j hi hj
    exact hi.unique (traced_always hreach).1 hj
  · intro cfg hreach before rest htrace i p call resume hcaller hresumes hkey
    obtain ⟨hstarted, hnever⟩ := startedBy_of_waiting hreach htrace hcaller hresumes hkey
    refine ⟨hstarted, fun event hevent hthread => ?_⟩
    rw [hnever event hevent hthread]
    nofun

/-- **At most once**: over the whole run the tool proxy is invoked at most once for a tenant and
idempotency key, and only by a thread that moved the record itself. -/
theorem tool_invoked_at_most_once (hreach : (system coordinator).Reachable .default cfg)
    (key : TenantId × IdempotencyKey) :
    invocations key cfg ≤ 1 ∧
    (∀ before event after, cfg.trace = before ++ event :: after →
      invokedKey event.call = some key → StartedBy event.thread key before) ∧
    ∀ i thread, cfg.threads[i]? = some thread → thread.pending.bind invokedKey = some key →
      StartedBy i key cfg.trace :=
  ⟨invocations_le_one hreach key,
    fun _ _ _ htrace hinvoked => event_startedBy hreach htrace hinvoked,
    fun _ _ hthread hpending => (pending_startedBy hreach hthread hpending).1⟩

end Runs

-- Two executions of the sample request

def sampleUnknown : ExecutionRecord :=
  { sampleRunning with
    status := .unknown, updatedAt := 11, lastErrorCode := some "EXECUTION_OUTCOME_UNKNOWN" }

def sampleUnknownLedger : InMemoryExecutionLedger :=
  sampleRunningLedger.put sampleFence.executionId sampleUnknown
    (InMemoryExecutionLedger.transitionEvent (sampleAmbient 12 11) sampleFence.executionId .unknown)

theorem sampleUnknownLedger_holds : SampleLedger sampleUnknownLedger sampleUnknown
    (InMemoryExecutionLedger.transitionEvent (sampleAmbient 12 11) sampleFence.executionId
      .unknown) :=
  sampleRunningLedger_holds.put rfl rfl rfl

/-- What the second execution is told: it read the record while it was running, and the latest
event when it was not. -/
def sampleTorn : ExecutionOutcome where
  schemaVersion := executionOutcomeSchema
  tenantId := sampleRequest.tenantId
  taskId := sampleRequest.taskId
  actionId := sampleRequest.actionId
  ingressDigest := sampleRequest.ingressDigest
  idempotencyKey := sampleRequest.idempotencyKey
  ledgerExecutionId := sampleFence.executionId
  fenceDigest := sampleClearance.fenceDigest
  status := .running
  outcomeDigest := "250ff3beab7ab1df579acc061fcddb04d29c7f43b93ce0c231e727048d0b8c47"
  evidenceRefs := ["ledger-event:" ++ (sampleUuid 12).toStr]
  actionMaterialization := sampleRequest.actionMaterialization

/-- The first execution calls the tool proxy, the second reads the record, the first gets no
answer and gives the record up, and the second reads its latest event. -/
theorem sample_torn_run : ∃ cfg, (system sampleCoordinator).Reachable .default cfg ∧
    cfg.shared = sampleUnknownLedger ∧
    cfg.threads[1]? = some (.done (some (.ok sampleTorn))) ∧
    ∃ event ∈ cfg.trace, invokedKey event.call = some sampleExecution.key := by
  let finish : Except ExecutionError ExecutionOutcome →
    Program ExecutionCall ExecutionCall.Answer ThreadResult := fun result => .done (some result)
  have hcaller :
      Caller sampleCoordinator ((sampleCoordinator.execute sampleRequest).run >>= finish) :=
    .execution sampleRequest
  have hboth : (system sampleCoordinator).Reachable .default
      ⟨.default, [(sampleCoordinator.execute sampleRequest).run >>= finish,
        (sampleCoordinator.execute sampleRequest).run >>= finish], []⟩ :=
    .tail (.tail .refl (.start _ hcaller)) (.start _ hcaller)
  obtain ⟨first, -, -, hfirst⟩ := hboth.run 0 rfl
    (sampleClearance.reaches_tool.bind_left finish) serves_sampleClearance
  -- the second execution finds the record running
  obtain ⟨second, -, -, hsecond⟩ := hfirst.run 1 rfl
    ((samplePreparation.reports_existing sampleRunning rfl rfl (by decide)).bind_left finish)
    (.cons rfl <| .cons rfl <| .cons rfl <| .cons rfl <| .cons rfl <| .cons rfl <| .cons rfl <|
      .cons (sampleRunningLedger_holds.serve_reserve _) <|
      .cons (sampleRunningLedger_holds.serve_get _) <| .nil _)
  -- the first one hears nothing from the tool proxy
  have hlost : serve sampleCodec.eventDigest sampleRunningLedger
      (.ledger (.markUnknown sampleFence "EXECUTION_OUTCOME_UNKNOWN")) (.ok ())
      sampleUnknownLedger := by
    refine ⟨sampleAmbient 12 11, sampleRunningLedger_holds.fresh (by decide) 11, ?_⟩
    show sampleRunningLedger.markUnknown (sampleAmbient 12 11) sampleFence _ = _
    rw [InMemoryExecutionLedger.markUnknown, sampleRunningLedger_holds.transition _ (by decide)]
    rfl
  obtain ⟨third, -, hthird, hlater⟩ := hsecond.run 0 rfl
    ((sampleClearance.loses_outcome (e := .dependencyUnavailable) (by simp)).bind_left finish)
    (.cons rfl <| .cons hlost <| .nil _)
  have htorn : outcomeOfRecord sampleCodec sampleRequest sampleRunning sampleClearance.fenceDigest
      ("ledger-event:" ++ (sampleUuid 12).toStr) = .ok sampleTorn := rfl
  obtain ⟨last, -, -, hlast⟩ := hlater.run 1 rfl
    ((resumes_outcomeFromRecord htorn).bind_left finish)
    (.cons (sampleUnknownLedger_holds.serve_fact _ (sampleUuid 12) rfl rfl) <| .nil _)
  refine ⟨_, hlast, rfl, rfl, ?_⟩
  obtain ⟨event, rest, rfl, hentry, -⟩ := List.map_eq_cons_iff.mp hthird
  have hcall : event.call = toolCall sampleClearance.reserved sampleClearance.ledgerEvent
      sampleClearance.authorized := congrArg Sigma.fst hentry
  exact ⟨event, by simp, by rw [hcall]; rfl⟩

/-- Of the two sample executions one invokes the tool proxy, once. -/
theorem tool_invoked_at_most_once_sample : ∃ cfg,
    (system sampleCoordinator).Reachable .default cfg ∧
    invocations sampleExecution.key cfg = 1 ∧
    ∃ before event after, cfg.trace = before ++ event :: after ∧
      StartedBy event.thread sampleExecution.key before := by
  obtain ⟨cfg, hreach, -, -, event, hevent, hinvoked⟩ := sample_torn_run
  obtain ⟨hbound, hevents, -⟩ := tool_invoked_at_most_once hreach sampleExecution.key
  obtain ⟨before, after, htrace⟩ := List.append_of_mem hevent
  have hpos : 0 < cfg.trace.countP fun event => invokedKey event.call = some sampleExecution.key :=
    List.countP_pos_iff.mpr ⟨event, hevent, by simpa using hinvoked⟩
  refine ⟨cfg, hreach, ?_, before, event, after, htrace, hevents before event after htrace hinvoked⟩
  unfold invocations at hbound ⊢
  omega

end AgentSphere.Execution
