import AgentSphere.Boundary.Exchange
import AgentSphere.Lib.Alone
import AgentSphere.ToolProxy.Calls

/-!
# Failed records

An execution fails its record if the tool proxy denies the request. The handler answers with the
status of a conflict when the request or its row is not as it should be, which a coordinator takes
for a denial; but it does so, too, when the connector has run and the outcome is unknown. And the
ledger fails a running record for everyone who holds its fence: another execution of the same key
that has come too late, or a scanner.
-/

namespace AgentSphere.Boundary

open Concurrency Relation Execution Ledger

-- Starts and failures of a record

def StartOf (executionId : ExecutionId) (event : ExecutionEvent) : Prop :=
  ∃ fence operation, event.entry = ⟨.ledger (.markStarted fence operation), .ok ()⟩ ∧
    fence.executionId = executionId

def FailureOf (executionId : ExecutionId) (event : ExecutionEvent) : Prop :=
  ∃ fence code, event.entry = ⟨.ledger (.markFailed fence code), .ok ()⟩ ∧
    fence.executionId = executionId

def Keyed (ledger : InMemoryExecutionLedger) : Prop :=
  ∀ (executionId : ExecutionId) (record : ExecutionRecord),
    ledger.byExecution[executionId]? = some record →
      ledger.byIdempotency[record.key]? = some executionId

/-- The record has left `Prepared`. -/
def Left (executionId : ExecutionId) (ledger : InMemoryExecutionLedger) : Prop :=
  ∃ record, ledger.byExecution[executionId]? = some record ∧ record.status ≠ .prepared

section Ledger

variable {ledger ledger' : InMemoryExecutionLedger} {digest : EventDigest}
  {executionId : ExecutionId}

theorem serve_markFailed {fence : ExecutionFence} {code : String}
    (h : Execution.serve digest ledger (.ledger (.markFailed fence code)) (.ok ()) ledger') :
    ∃ record record', ledger.byExecution[fence.executionId]? = some record ∧
      (record.status = .prepared ∨ record.status = .running) ∧
      ledger'.byExecution[fence.executionId]? = some record' ∧ record'.status = .failed := by
  obtain ⟨ambient, -, heq⟩ := h
  rw [InMemoryExecutionLedger.perform, InMemoryExecutionLedger.markFailed] at heq
  obtain ⟨record, hfound, hstatus, rfl⟩ := InMemoryExecutionLedger.transition_ok heq
  exact ⟨record, _, hfound, by simpa using hstatus,
    InMemoryExecutionLedger.put_getElem?_self .., rfl⟩

theorem Keyed.change {ambient : Ambient} (h : Keyed ledger)
    (hchange : InMemoryExecutionLedger.Change ambient ledger ledger') : Keyed ledger' := by
  cases hchange with
  | none => exact h
  | reserved intent valid absent =>
    intro id record hfound
    by_cases hid : ambient.executionUuid.toStr = id
    · subst hid
      obtain rfl : ledger.preparedRecord ambient intent = record := by simpa using hfound
      simp
    · have hold := h id record (by simpa [hid] using hfound)
      have hkey : intent.key ≠ record.key := by
        intro hkey
        rw [hkey, hold] at absent
        cases absent
      simpa [hkey] using hold
  | @moved movedId old new found move =>
    intro id record hfound
    by_cases hid : movedId = id
    · subst hid
      obtain rfl : new = record := by simpa using hfound
      rw [move.key_eq]
      exact h movedId old found
    · exact h id record (by simpa [hid] using hfound)

theorem Left.serve {call : ExecutionCall} {answer : call.Answer}
    (hserve : Execution.serve digest ledger call answer ledger') (h : Left executionId ledger) :
    Left executionId ledger' := by
  obtain ⟨record, hfound, hstatus⟩ := h
  obtain rfl | ⟨ambient, hfresh, hchange⟩ := serve_change hserve
  · exact ⟨record, hfound, hstatus⟩
  · obtain ⟨record', hfound', -, hleft⟩ := change_record hchange hfresh hfound
    exact ⟨record', hfound', hleft hstatus⟩

theorem write_failed {before : Option Reading} {entry : ExecutionEntry} {reading : Reading}
    (h : write executionId before entry = some reading) (hfailed : reading.1 = .failed) :
    before = some reading ∨ ∃ fence code,
      entry = ⟨.ledger (.markFailed fence code), .ok ()⟩ ∧ fence.executionId = executionId := by
  unfold write at h
  split at h
  case h_4 fence code answer =>
    split_ifs at h with hid
    · exact .inr ⟨fence, code, rfl, hid⟩
    · exact .inl h
  case h_7 => exact .inl h
  all_goals
    split_ifs at h
    · first
        | cases h
          cases hfailed
        | obtain ⟨r, -, rfl⟩ := Option.map_eq_some_iff.mp h
          cases hfailed
    · exact .inl h

end Ledger

section Records

variable {coordinator : ExecutionCoordinator} {cfg : ExecutionConfig} {executionId : ExecutionId}
  {before after : List ExecutionEvent} {mark : ExecutionEvent} {record : ExecutionRecord}

theorem keyed_always (hreach : (system coordinator).Reachable .default cfg) :
    Keyed cfg.shared ∧ ∀ before event after, cfg.trace = before ++ event :: after →
      Keyed event.before ∧
        Execution.serve coordinator.codec.eventDigest event.before event.call event.answer
          event.after := by
  refine hreach.always (I := fun ledger _ => Keyed ledger) ?_ ?_ ?_
  · intro ledger trace i call answer ledger' hkeyed hserve
    obtain rfl | ⟨ambient, -, hchange⟩ := serve_change hserve
    · exact hkeyed
    · exact hkeyed.change hchange
  · rintro _ _ _ _ ⟨⟩
  · simp [Keyed, InMemoryExecutionLedger.default]

theorem StartOf.served (hreach : (system coordinator).Reachable .default cfg)
    (hevent : mark ∈ cfg.trace) (h : StartOf executionId mark) :
    (∃ record, mark.before.byExecution[executionId]? = some record ∧ record.status = .prepared) ∧
      Left executionId mark.after := by
  obtain ⟨fence, operation, hentry, rfl⟩ := h
  obtain ⟨record, record', hfound, hprepared, hfound', hrunning⟩ := serve_markStarted
    (Event.of_entry hentry (fun call answer => Execution.serve coordinator.codec.eventDigest
      mark.before call answer mark.after) (hreach.served mark hevent))
  exact ⟨⟨record, hfound, hprepared⟩, record', hfound', by simp [hrunning]⟩

theorem FailureOf.served (hreach : (system coordinator).Reachable .default cfg)
    (hevent : mark ∈ cfg.trace) (h : FailureOf executionId mark) :
    (∃ record, mark.before.byExecution[executionId]? = some record ∧
      (record.status = .prepared ∨ record.status = .running)) ∧ Left executionId mark.after := by
  obtain ⟨fence, code, hentry, rfl⟩ := h
  obtain ⟨record, record', hfound, hstatus, hfound', hfailed⟩ := serve_markFailed
    (Event.of_entry hentry (fun call answer => Execution.serve coordinator.codec.eventDigest
      mark.before call answer mark.after) (hreach.served mark hevent))
  exact ⟨⟨record, hfound, hstatus⟩, record', hfound', by simp [hfailed]⟩

/-- A record that has left `Prepared` does not come back. -/
theorem left_later (hreach : (system coordinator).Reachable .default cfg)
    {event last : ExecutionEvent} {between rest : List ExecutionEvent}
    (htrace : cfg.trace = before ++ event :: (between ++ last :: rest))
    (h : Left executionId event.after) : Left executionId last.before := by
  refine (hreach.after (Q := Left executionId) (K := fun _ => True)
    (fun _ hserve _ hleft => hleft.serve hserve) ?_ htrace h).2 between last rest rfl
    fun _ _ => trivial
  rintro _ _ _ ⟨⟩

theorem StartOf.unique (hreach : (system coordinator).Reachable .default cfg)
    {start start' : ExecutionEvent} (hstart : start ∈ cfg.trace) (hstart' : start' ∈ cfg.trace)
    (h : StartOf executionId start) (h' : StartOf executionId start') : start = start' := by
  obtain ⟨fence, operation, hentry, rfl⟩ := h
  obtain ⟨fence', operation', hentry', hsame⟩ := h'
  by_contra hne
  have hsymm : Std.Symm fun event event' : ExecutionEvent => ∀ fence operation fence' operation',
      event.entry = ⟨.ledger (.markStarted fence operation), .ok ()⟩ →
      event'.entry = ⟨.ledger (.markStarted fence' operation'), .ok ()⟩ →
      fence.executionId ≠ fence'.executionId :=
    ⟨fun _ _ h fence operation fence' operation' hentry hentry' =>
      (h fence' operation' fence operation hentry' hentry).symm⟩
  exact (traced_always hreach).1.once.forall hstart hstart' hne fence operation fence' operation'
    hentry hentry' hsame.symm

theorem marked_of_failed (hreach : (system coordinator).Reachable .default cfg)
    (hfound : cfg.shared.byExecution[executionId]? = some record)
    (hfailed : record.status = .failed) :
    ∃ mark ∈ cfg.trace, FailureOf executionId mark ∧
      ∃ found, mark.before.byExecution[executionId]? = some found ∧ found.key = record.key := by
  refine (hreach.always (I := fun ledger trace => ∀ (executionId : ExecutionId) record,
    ledger.byExecution[executionId]? = some record → record.status = .failed →
      ∃ mark ∈ trace, FailureOf executionId mark ∧
        ∃ found, mark.before.byExecution[executionId]? = some found ∧ found.key = record.key)
    ?_ ?_ ?_).1 executionId record hfound hfailed
  · intro ledger trace i call answer ledger' hinv hserve id record hfound hfailed
    have hkept : ∀ old, ledger.byExecution[id]? = some old → old.key = record.key := by
      intro old hold
      obtain rfl | ⟨ambient, hfresh, hchange⟩ := serve_change hserve
      · rw [Option.some.inj (hold.symm.trans hfound)]
      · obtain ⟨record', hfound', hkey, -⟩ := change_record hchange hfresh hold
        obtain rfl := Option.some.inj (hfound.symm.trans hfound')
        exact hkey.symm
    have hwrite : write id (reading ledger id) ⟨call, answer⟩ = reading ledger' id :=
      (reading_serve hserve).symm
    rw [reading_of_found hfound] at hwrite
    obtain hbefore | ⟨fence, code, hentry, rfl⟩ := write_failed hwrite hfailed
    · -- it had failed before
      obtain ⟨old, hold, hreading⟩ := Option.map_eq_some_iff.mp hbefore
      obtain ⟨mark, hmark, hfails, found, hfound₀, hkey⟩ :=
        hinv id old hold ((congrArg Prod.fst hreading).trans hfailed)
      exact ⟨mark, List.mem_append_left _ hmark, hfails, found, hfound₀,
        hkey.trans (hkept old hold)⟩
    · obtain ⟨rfl, hanswer⟩ := Sigma.mk.inj hentry
      obtain rfl := eq_of_heq hanswer
      obtain ⟨found, -, hfound₀, -⟩ := serve_markFailed hserve
      exact ⟨⟨i, _, _, ledger, ledger'⟩, by simp, ⟨fence, code, rfl, rfl⟩, found, hfound₀,
        hkept found hfound₀⟩
  · rintro _ _ _ _ ⟨⟩
  · simp [InMemoryExecutionLedger.default]

/-- A record that a thread has started, now or later, was running when it was failed: the thread
had started it before. -/
theorem started_before (hreach : (system coordinator).Reachable .default cfg)
    (htrace : cfg.trace = before ++ mark :: after) (hmark : FailureOf executionId mark)
    (hfound : mark.before.byExecution[executionId]? = some record) {i : Nat}
    (hstarted : StartedBy i record.key cfg.trace) :
    record.status = .running ∧ ∃ start ∈ before, start.thread = i ∧ StartOf executionId start := by
  have hmem : mark ∈ cfg.trace := by simp [htrace]
  obtain ⟨start, hstart, hthread, fence, -, -, hentry, hindex, -⟩ := hstarted
  have hindexed := ((keyed_always hreach).2 before mark after htrace).1 executionId record hfound
  have hkept := (traced_always hreach).1.kept
  obtain rfl : fence.executionId = executionId := Option.some.inj
    ((hkept start hstart _ _ hindex).symm.trans (hkept mark hmem _ _ hindexed))
  have hof : StartOf fence.executionId start := ⟨fence, none, hentry, rfl⟩
  obtain ⟨⟨prepared, hprepared, hstatus⟩, hleft⟩ := hof.served hreach hstart
  obtain ⟨⟨found, hfound', hfailable⟩, hfailed⟩ := hmark.served hreach hmem
  obtain rfl := Option.some.inj (hfound.symm.trans hfound')
  rw [htrace] at hstart
  obtain hbefore | hrest := List.mem_append.mp hstart
  · refine ⟨hfailable.resolve_left ?_, start, hbefore, hthread, hof⟩
    obtain ⟨first, between, rfl⟩ := List.append_of_mem hbefore
    have hsplit : cfg.trace = first ++ start :: (between ++ mark :: after) := by
      rw [htrace, List.append_assoc, List.cons_append]
    obtain ⟨later, hlater, hne⟩ := left_later hreach hsplit hleft
    obtain rfl := Option.some.inj (hfound.symm.trans hlater)
    exact hne
  · obtain rfl | hafter := List.mem_cons.mp hrest
    · obtain ⟨fence', code, hfails, -⟩ := hmark
      exact nomatch congrArg Sigma.fst (hentry.symm.trans hfails)
    · -- it was failed while it was prepared, and is not started after that
      obtain ⟨between, rest, rfl⟩ := List.append_of_mem hafter
      obtain ⟨later, hlater, hne⟩ := left_later hreach htrace hfailed
      obtain rfl := Option.some.inj (hprepared.symm.trans hlater)
      exact absurd hstatus hne

end Records

section Sent

variable {coordinator : ExecutionCoordinator} {cfg : ExecutionConfig} {i : Nat}
  {request : AuthorizedToolRequest}

theorem Posted.conduct (h : Posted cfg i request)
    (hreach : (system coordinator).Reachable .default cfg) :
    ∃ p q, cfg.threads[i]? = some q ∧ Resumes p (history i cfg.trace) q ∧
      (recording (MayCall coordinator) fun _ _ => True).Ensures
        (fun (_ : ThreadResult) _ => True) p [] := by
  obtain ⟨q, hthread⟩ : ∃ q, cfg.threads[i]? = some q := by
    obtain ⟨key, fenceDigest, resume, hthread⟩ | ⟨event, hevent, rfl, -⟩ := h
    · exact ⟨_, hthread⟩
    · exact ⟨_, List.getElem?_eq_getElem (hreach.resumes.1 event hevent)⟩
  obtain ⟨p, hcaller, hresumes⟩ := hreach.resumes.2 i q hthread
  refine ⟨p, q, hthread, hresumes, ?_⟩
  obtain hexecution | hscanner := hcaller.conduct
  · exact hexecution.mono fun _ _ _ => trivial
  · -- a scanner does not call the tool proxy
    exfalso
    obtain ⟨key, fenceDigest, resume, hwaits⟩ | ⟨event, hevent, rfl, key, fenceDigest, hcall⟩ := h
    · obtain rfl := Option.some.inj (hthread.symm.trans hwaits)
      obtain ⟨scan, hscan⟩ := (hscanner.resumes hresumes fun _ _ => trivial).1
      cases scan <;> cases hscan
    · obtain ⟨before, after, htrace⟩ := List.append_of_mem hevent
      rw [htrace, history_append, history_cons_self] at hresumes
      obtain ⟨resume, hcalled, -⟩ := hresumes.split
      obtain ⟨scan, hscan⟩ := (hscanner.resumes hcalled fun _ _ => trivial).1
      rw [hcall] at hscan
      cases scan <;> cases hscan

theorem Posted.mayCall (h : Posted cfg i request)
    (hreach : (system coordinator).Reachable .default cfg) :
    (∀ before event after, cfg.trace = before ++ event :: after → event.thread = i →
      MayCall coordinator (history i before) event.call) ∧
    ∀ call resume, cfg.threads[i]? = some (.perform call resume) →
      MayCall coordinator (history i cfg.trace) call := by
  obtain ⟨p, q, hthread, hresumes, hconduct⟩ := h.conduct hreach
  refine ⟨?_, fun call resume hwaits => ?_⟩
  · rintro before event after htrace rfl
    rw [htrace, history_append, history_cons_self] at hresumes
    obtain ⟨resume, hcalled, -⟩ := hresumes.split
    exact (hconduct.resumes hcalled fun _ _ => trivial).1
  · obtain rfl := Option.some.inj (hthread.symm.trans hwaits)
    exact (hconduct.resumes hresumes fun _ _ => trivial).1

theorem not_mayCall_of_failed {entries : List ExecutionEntry} {fence : ExecutionFence}
    {code : String} {answer : Except LedgerError Unit} {key fenceDigest : String}
    (hmem : ⟨.ledger (.markFailed fence code), answer⟩ ∈ entries) :
    ¬MayCall coordinator entries (.toolExecute request key fenceDigest) := by
  rintro ⟨reserved, ledgerEvent, authorized, hlicensed, -⟩
  have heffect := mem_effects hmem rfl
  rw [hlicensed.effects] at heffect
  simp at heffect

theorem Posted.called_before (h : Posted cfg i request)
    (hreach : (system coordinator).Reachable .default cfg) {before after : List ExecutionEvent}
    {mark : ExecutionEvent} (htrace : cfg.trace = before ++ mark :: after) (hown : mark.thread = i)
    {fence : ExecutionFence} {code : String}
    (hfails : mark.entry = ⟨.ledger (.markFailed fence code), .ok ()⟩) :
    ∃ event ∈ before, event.thread = i ∧
      ∃ key fenceDigest, event.call = .toolExecute request key fenceDigest := by
  obtain ⟨hevents, hwaiting⟩ := h.mayCall hreach
  have hmarked : ∀ rest, (⟨.ledger (.markFailed fence code), .ok ()⟩ : ExecutionEntry) ∈
      history i (before ++ mark :: rest) :=
    fun rest => mem_history.mpr ⟨mark, by simp, hown, hfails⟩
  obtain ⟨key, fenceDigest, resume, hwaits⟩ | ⟨event, hevent, hthread, key, fenceDigest, hcall⟩ :=
    h
  · have hmay := hwaiting _ _ hwaits
    rw [htrace] at hmay
    exact absurd hmay (not_mayCall_of_failed (hmarked after))
  · rw [htrace] at hevent
    obtain hearlier | hrest := List.mem_append.mp hevent
    · exact ⟨event, hearlier, hthread, key, fenceDigest, hcall⟩
    · obtain rfl | hlater := List.mem_cons.mp hrest
      · exact nomatch hcall.symm.trans (congrArg Sigma.fst hfails)
      · obtain ⟨between, rest, rfl⟩ := List.append_of_mem hlater
        have hmay := hevents (before ++ mark :: between) event rest
          (by rw [htrace, List.append_assoc, List.cons_append]) hthread
        rw [hcall] at hmay
        exact absurd hmay (not_mayCall_of_failed (hmarked between))

/-- **Denials**: an execution that has called the tool proxy fails a record only if it was
denied. -/
theorem Posted.denied (h : Posted cfg i request)
    (hreach : (system coordinator).Reachable .default cfg) {before after : List ExecutionEvent}
    {mark : ExecutionEvent} (htrace : cfg.trace = before ++ mark :: after) (hown : mark.thread = i)
    {executionId : ExecutionId} (hmark : FailureOf executionId mark) :
    ∃ event ∈ before, event.thread = i ∧ ∃ request key fenceDigest,
      event.entry = ⟨.toolExecute request key fenceDigest, .error .authorizationDenied⟩ := by
  obtain ⟨fence, code, hfails, -⟩ := hmark
  have hcalled := (h.mayCall hreach).1 before mark after htrace hown
  rw [show mark.call = .ledger (.markFailed fence code) from congrArg Sigma.fst hfails] at hcalled
  obtain ⟨reserved, -, hfailing⟩ := hcalled
  obtain ⟨event, hevent, hthread, key, fenceDigest, hcall⟩ :=
    h.called_before hreach htrace hown hfails
  have hmem : event.entry ∈ effects (history i before) := by
    refine mem_effects (mem_history.mpr ⟨event, hevent, hthread, rfl⟩) ?_
    simp [Event.entry, hcall, isEffect]
  have hother : ∀ {call : LedgerCall} {answer : call.Answer},
      event.entry ≠ ⟨.ledger call, answer⟩ := by
    intro call answer hentry
    cases hcall.symm.trans (congrArg Sigma.fst hentry)
  generalize effects (history i before) = done at hfailing hmem
  cases hfailing with
  | reserved => exact absurd (List.mem_singleton.mp hmem) hother
  | started =>
    obtain hentry | hentry : event.entry = _ ∨ event.entry = _ := by simpa using hmem
    · exact absurd hentry hother
    · exact absurd hentry hother
  | denied ledgerEvent authorized =>
    obtain hentry | hentry | hentry : event.entry = _ ∨ event.entry = _ ∨ event.entry = _ := by
      simpa using hmem
    · exact absurd hentry hother
    · exact absurd hentry hother
    · exact ⟨event, hevent, hthread, _, _, _, hentry⟩

end Sent

-- Connectors that do not run

def Connected (d : Deployment) (j : Nat) (key : TenantId × IdempotencyKey) : Prop :=
  (∃ event ∈ d.proxy.trace, event.thread = j ∧ ToolProxy.connectorKey event.call = some key) ∨
  ∃ thread, d.proxy.threads[j]? = some thread ∧
    thread.pending.bind ToolProxy.connectorKey = some key

def Silent (d : Deployment) (key : TenantId × IdempotencyKey) : Prop := ∀ j, ¬Connected d j key

def Unreached (d : Deployment) (i : Nat) : Prop :=
  (∃ status, d.requests i = some (.refused status)) ∨
  ∃ j result, d.requests i = some (.handled j) ∧
    d.proxy.threads[j]? = some (.done (some result)) ∧
    ToolProxy.Unconnected (history j d.proxy.trace)

section Deployments

variable {coordinator : ExecutionCoordinator} {codec : ToolProxy.ProxyCodec} {d d' : Deployment}
  {i j : Nat} {key : TenantId × IdempotencyKey}

theorem Connected.handled (h : Reachable coordinator codec d) (hconnected : Connected d j key) :
    ∃ i request, d.requests i = some (.handled j) ∧ Posted d.execution i request ∧
      ToolProxy.rowKey request = key := by
  obtain ⟨event, hevent, rfl, hkey⟩ | ⟨thread, hthread, hpending⟩ := hconnected
  · exact connected_by h hevent hkey
  · cases thread with
    | done result => cases hpending
    | perform call resume =>
      exact (h.linked.assigned j _ hthread).connects h (List.append_nil _).symm
        (fun p₀ hresumes => ⟨resume, hresumes⟩) hpending

theorem Unreached.silent (hunreached : Unreached d i) (h : Reachable coordinator codec d)
    {request : AuthorizedToolRequest} (hposted : Posted d.execution i request) :
    Silent d (ToolProxy.rowKey request) := by
  intro j hconnected
  obtain ⟨k, request', hhandled, hposted', hkey⟩ := hconnected.handled h
  obtain rfl := hposted'.unique hposted h.execution hkey
  obtain ⟨status, hrefused⟩ | ⟨j', result, hhandled', hdone, hquiet⟩ := hunreached
  · exact nomatch hhandled.symm.trans hrefused
  · obtain rfl := Exchange.handled.inj (Option.some.inj (hhandled.symm.trans hhandled'))
    obtain ⟨event, hevent, rfl, hcall⟩ | ⟨thread, hthread, hpending⟩ := hconnected
    · have hnone := hquiet event.entry (mem_history.mpr ⟨event, hevent, rfl, rfl⟩)
      exact nomatch hcall.symm.trans hnone
    · obtain rfl := Option.some.inj (hdone.symm.trans hthread)
      cases hpending

theorem Step.done (hstep : Step coordinator codec d d') {result : ToolProxy.ThreadResult}
    (h : d.proxy.threads[j]? = some (.done result)) :
    d'.proxy.threads[j]? = some (.done result) ∧
      history j d'.proxy.trace = history j d.proxy.trace := by
  obtain ⟨hj, -⟩ := List.getElem?_eq_some_iff.mp h
  cases hstep with
  | coordinate step delivered => exact ⟨h, rfl⟩
  | proceed step same =>
    obtain hsame | ⟨call, resume, answer, store, hcall, -⟩ := step.thread h
    · exact hsame
    · cases hcall
  | sweep tenants => exact ⟨(List.getElem?_append_left hj).trans h, rfl⟩
  | handle service shared posted first => exact ⟨(List.getElem?_append_left hj).trans h, rfl⟩
  | refuse refusal posted first => exact ⟨h, rfl⟩

theorem Unreached.step (hstep : Step coordinator codec d d') (h : Unreached d i) :
    Unreached d' i := by
  obtain ⟨status, hrefused⟩ | ⟨j, result, hhandled, hdone, hquiet⟩ := h
  · exact .inl ⟨status, hstep.requests hrefused⟩
  · obtain ⟨hdone', hhistory⟩ := hstep.done hdone
    exact .inr ⟨j, result, hstep.requests hhandled, hdone', hhistory ▸ hquiet⟩

theorem concluded_of_handler (h : Reachable coordinator codec d)
    {result : Except ToolProxy.ProductionProxyError ToolProxy.ProductionExecutionOutcome}
    (hdone : d.proxy.threads[j]? = some (.done (some result))) :
    ToolProxy.Concluded result (history j d.proxy.trace) := by
  have hpossible := ToolProxy.possible_history h.proxy (List.append_nil _).symm j
  obtain ⟨i, service, request, -, -, hresumes⟩ | ⟨tenants, hresumes⟩ :=
    h.linked.assigned j _ hdone
  · exact ToolProxy.concluded_of_execution hresumes hpossible
  · -- a sweep returns nothing
    obtain ⟨swept, first, second, -, -, hlast⟩ := hresumes.of_bind
    cases hlast

/-- **Answers**: a thread is denied when its request was not handled, when it has failed before
the connector, or with the status of a conflict. -/
theorem Delivered.denied (h : Reachable coordinator codec d)
    (hdelivered : Delivered d i (.error .authorizationDenied))
    (hconflict : ∀ j result, d.requests i = some (.handled j) →
      d.proxy.threads[j]? = some (.done (some result)) → responseOf result = .error 409 →
        ToolProxy.Unconnected (history j d.proxy.trace)) : Unreached d i := by
  generalize hanswer : (.error .authorizationDenied : Except ExecutionError SanitizedToolResult) =
    answer at hdelivered
  cases hdelivered with
  | @answered j result handled done =>
    refine .inr ⟨j, result, handled, done, ?_⟩
    obtain ⟨htrusted, hfailed⟩ := concluded_of_handler h done
    rcases result with e | outcome
    · cases e with
      | idempotencyConflict | stateConflict => exact hconflict j _ handled done rfl
      | registryTrustInvalid => exact absurd rfl htrusted
      | storeUnavailable | dependency => cases hanswer
    · cases outcome with
      | succeeded result => cases hanswer
      | failed code => exact hfailed code rfl
      | unknown => exact hconflict j _ handled done rfl
  | @refused status refused => exact .inl ⟨status, refused⟩
  | @lost e transport =>
    obtain rfl := Except.error.inj hanswer
    simp [transportErrors] at transport

-- Steps that tell the truth

def DeniedAt (event : ExecutionEvent) : Prop :=
  ∃ request key fenceDigest,
    event.entry = ⟨.toolExecute request key fenceDigest, .error .authorizationDenied⟩

/-- A step that does not take an unknown outcome for a denial and does not fail a record that
somebody else has started. -/
structure Meets (d d' : Deployment) : Prop where
  /-- The status of a conflict is answered only if the handler has not called the connector. -/
  conflict : ∀ event, d'.execution.trace = d.execution.trace ++ [event] → DeniedAt event →
    ∀ j result, d.requests event.thread = some (.handled j) →
      d.proxy.threads[j]? = some (.done (some result)) → responseOf result = .error 409 →
        ToolProxy.Unconnected (history j d.proxy.trace)
  /-- A running record is failed only by the execution that has started it. -/
  own : ∀ event, d'.execution.trace = d.execution.trace ++ [event] →
    ∀ executionId record, FailureOf executionId event →
      event.before.byExecution[executionId]? = some record → record.status = .running →
        ∃ start ∈ d.execution.trace, start.thread = event.thread ∧ StartOf executionId start

structure Guarded (d : Deployment) : Prop where
  denied : ∀ event ∈ d.execution.trace, DeniedAt event → Unreached d event.thread
  own : ∀ before event after, d.execution.trace = before ++ event :: after →
    ∀ executionId record, FailureOf executionId event →
      event.before.byExecution[executionId]? = some record → record.status = .running →
        ∃ start ∈ before, start.thread = event.thread ∧ StartOf executionId start

structure FailedTruthful (d : Deployment) : Prop where
  marks : ∀ event ∈ d.execution.trace, ∀ executionId record, FailureOf executionId event →
    event.before.byExecution[executionId]? = some record → Silent d record.key
  records : ∀ (executionId : ExecutionId) record,
    d.execution.shared.byExecution[executionId]? = some record → record.status = .failed →
      Silent d record.key

theorem Step.event (hstep : Step coordinator codec d d') :
    d'.execution.trace = d.execution.trace ∨
    ∃ event, d'.execution.trace = d.execution.trace ++ [event] ∧
      (DeniedAt event → Delivered d event.thread (.error .authorizationDenied)) := by
  cases hstep with
  | @coordinate cfg step delivered =>
    cases step with
    | start p starts => exact .inl rfl
    | advance i call resume answer ledger suspended served =>
      refine .inr ⟨_, rfl, ?_⟩
      rintro ⟨request, key, fenceDigest, hentry⟩
      obtain ⟨rfl, hanswer⟩ := Sigma.mk.inj hentry
      obtain rfl := eq_of_heq hanswer
      exact delivered i request key fenceDigest _ _ _ rfl
    | internal ledger moves => exact .inl rfl
  | proceed step same => exact .inl rfl
  | sweep tenants => exact .inl rfl
  | handle service shared posted first => exact .inl rfl
  | refuse refusal posted first => exact .inl rfl

/-- **Step lemma**. -/
theorem Guarded.step (hguarded : Guarded d) (h : Reachable coordinator codec d)
    (hstep : Step coordinator codec d d') (hmeets : Meets d d') : Guarded d' := by
  obtain hsame | ⟨last, htrace, hdelivered⟩ := hstep.event
  · refine ⟨fun event hevent hdenied => ?_, fun before event after htrace => ?_⟩
    · exact (hguarded.denied event (hsame ▸ hevent) hdenied).step hstep
    · exact hguarded.own before event after (hsame ▸ htrace)
  · refine ⟨fun event hevent hdenied => ?_, fun before event after hsplit => ?_⟩
    · rw [htrace] at hevent
      obtain hold | hnew := List.mem_append.mp hevent
      · exact (hguarded.denied event hold hdenied).step hstep
      · obtain rfl := List.mem_singleton.mp hnew
        exact ((hdelivered hdenied).denied h (hmeets.conflict event htrace hdenied)).step hstep
    · rw [htrace] at hsplit
      rcases List.eq_nil_or_concat after with rfl | ⟨rest, final, rfl⟩
      · obtain ⟨rfl, hlast⟩ := List.append_inj' hsplit rfl
        obtain rfl := List.singleton_inj.mp hlast
        exact hmeets.own last htrace
      · rw [List.concat_eq_append, ← List.cons_append, ← List.append_assoc] at hsplit
        obtain ⟨hbefore, -⟩ := List.append_inj' hsplit rfl
        exact hguarded.own before event rest hbefore

variable (coordinator codec) in
def Careful (d : Deployment) : Prop :=
  ReflTransGen (fun d d' => Step coordinator codec d d' ∧ Meets d d') .initial d

theorem Careful.reachable (h : Careful coordinator codec d) : Reachable coordinator codec d :=
  ReflTransGen.mono (fun _ _ hstep => hstep.1) _ _ h

/-- **Run lemma**. -/
theorem Careful.guarded (h : Careful coordinator codec d) : Guarded d := by
  induction h with
  | refl => constructor <;> simp [Deployment.initial, System.initial]
  | tail hbefore hstep ih => exact ih.step (Careful.reachable hbefore) hstep.1 hstep.2

theorem silent_of_failure (h : Reachable coordinator codec d) (hguarded : Guarded d)
    {mark : ExecutionEvent} (hmem : mark ∈ d.execution.trace) {executionId : ExecutionId}
    {record : ExecutionRecord} (hmark : FailureOf executionId mark)
    (hfound : mark.before.byExecution[executionId]? = some record) : Silent d record.key := by
  intro j hconnected
  obtain ⟨before, after, htrace⟩ := List.append_of_mem hmem
  obtain ⟨i, request, hhandled, hposted, hkey⟩ := hconnected.handled h
  -- the thread whose request was handled has started the record and fails it
  obtain ⟨hrunning, start, hstart, hstarter, hstarts⟩ :=
    started_before h.execution htrace hmark hfound (hkey ▸ hposted.startedBy h.execution)
  obtain ⟨start', hstart', hown, hstarts'⟩ :=
    hguarded.own before mark after htrace executionId record hmark hfound hrunning
  obtain rfl := hstarts.unique h.execution (by simp [htrace, hstart]) (by simp [htrace, hstart'])
    hstarts'
  obtain ⟨event, hevent, hthread, hdenied⟩ :=
    hposted.denied h.execution htrace (hown.symm.trans hstarter) hmark
  have hunreached := hguarded.denied event (by simp [htrace, hevent]) hdenied
  rw [hthread] at hunreached
  exact hunreached.silent h hposted j (hkey ▸ hconnected)

/-- **Failed records**: if every step meets the condition, no connector is called for the key of a
record that was failed, before or after. -/
theorem failed_truthful (h : Careful coordinator codec d) : FailedTruthful d := by
  have hreach := h.reachable
  have hguarded := h.guarded
  refine ⟨fun event hevent executionId record hmark hfound => ?_, ?_⟩
  · exact silent_of_failure hreach hguarded hevent hmark hfound
  · intro executionId record hfound hfailed
    obtain ⟨mark, hmem, hmark, found, hmarked, hkey⟩ :=
      marked_of_failed hreach.execution hfound hfailed
    rw [← hkey]
    exact silent_of_failure hreach hguarded hmem hmark hmarked

-- Runs of one side

def harmless : ExecutionCall → Bool
  | .toolExecute .. | .ledger (.markFailed ..) => false
  | _ => true

theorem Meets.of_events (h : ∀ event, d'.execution.trace = d.execution.trace ++ [event] →
    harmless event.call = true) : Meets d d' where
  conflict event htrace := by
    rintro ⟨request, key, fenceDigest, hentry⟩
    have hcall : event.call = .toolExecute request key fenceDigest := congrArg Sigma.fst hentry
    have hharmless := h event htrace
    rw [hcall] at hharmless
    cases hharmless
  own event htrace executionId record := by
    rintro ⟨fence, code, hentry, -⟩
    have hcall : event.call = .ledger (.markFailed fence code) := congrArg Sigma.fst hentry
    have hharmless := h event htrace
    rw [hcall] at hharmless
    cases hharmless

theorem Meets.of_execution (h : d'.execution = d.execution) : Meets d d' :=
  .of_events fun event htrace => by simp [h] at htrace

theorem Careful.started (h : Careful coordinator codec d)
    {p : Program ExecutionCall ExecutionCall.Answer ThreadResult} (hcaller : Caller coordinator p) :
    Careful coordinator codec { d with
      execution := { d.execution with threads := d.execution.threads ++ [p] } } := by
  refine ReflTransGen.tail h ⟨.coordinate (.start p hcaller) ?_, .of_events ?_⟩
  · intro i request key fenceDigest answer ledger ledger' htrace
    simp at htrace
  · intro event htrace
    simp at htrace

theorem Careful.coordinates (h : Careful coordinator codec d)
    {p q : Program ExecutionCall ExecutionCall.Answer ThreadResult} {entries : List ExecutionEntry}
    {ledger : InMemoryExecutionLedger} (hthread : d.execution.threads[i]? = some p)
    (hresumes : Resumes p entries q)
    (hserves : (system coordinator).Serves d.execution.shared entries ledger)
    (hharmless : ∀ entry ∈ entries, harmless entry.1 = true) :
    ∃ events, (∀ event ∈ events, event.thread = i) ∧ events.map Event.entry = entries ∧
      Careful coordinator codec { d with
        execution := ⟨ledger, d.execution.threads.set i q, d.execution.trace ++ events⟩ } := by
  obtain ⟨events, hown, hentries, hsteps⟩ := System.Serves.steps
    (R := fun cfg cfg' => Step coordinator codec { d with execution := cfg }
      { d with execution := cfg' } ∧ Meets { d with execution := cfg } { d with execution := cfg' })
    (fun cfg call resume answer ledger hmem hsuspended hserved => by
      have hcall := hharmless _ hmem
      refine ⟨.coordinate (.advance i call resume answer ledger hsuspended hserved) ?_,
        .of_events ?_⟩
      · intro j request key fenceDigest other before after htrace
        obtain ⟨-, rfl, -⟩ := Event.mk.inj (List.singleton_inj.mp (List.append_cancel_left htrace))
        cases hcall
      · intro event htrace
        rw [← List.singleton_inj.mp (List.append_cancel_left htrace)]
        exact hcall)
    hthread hresumes hserves
  exact ⟨events, hown, hentries, ReflTransGen.trans h
    (hsteps.lift (fun cfg => { d with execution := cfg }) fun _ _ hstep => hstep)⟩

theorem Careful.proceeds (h : Careful coordinator codec d)
    {p q : Program ToolProxy.ProxyCall ToolProxy.ProxyCall.Answer ToolProxy.ThreadResult}
    {entries : List ToolProxy.ProxyEntry} {store : ToolProxy.Store}
    (hthread : d.proxy.threads[j]? = some p) (hresumes : Resumes p entries q)
    (hserves : (ToolProxy.system codec).Serves d.proxy.shared entries store) :
    ∃ events, (∀ event ∈ events, event.thread = j) ∧ events.map Event.entry = entries ∧
      Careful coordinator codec { d with
        proxy := ⟨store, d.proxy.threads.set j q, d.proxy.trace ++ events⟩ } := by
  obtain ⟨events, hown, hentries, hsteps⟩ := System.Serves.steps
    (R := fun cfg cfg' => Step coordinator codec { d with proxy := cfg } { d with proxy := cfg' } ∧
      Meets { d with proxy := cfg } { d with proxy := cfg' })
    (fun cfg call resume answer store _ hsuspended hserved =>
      ⟨.proceed (.advance j call resume answer store hsuspended hserved) List.length_set,
        .of_execution rfl⟩)
    hthread hresumes hserves
  exact ⟨events, hown, hentries, ReflTransGen.trans h
    (hsteps.lift (fun cfg => { d with proxy := cfg }) fun _ _ hstep => hstep)⟩

end Deployments

section Sample

open ToolProxy (sampleToolRequest sampleProxyCodec sampleService)

def sampleFailed : ExecutionRecord :=
  { sampleRunning with
    status := .failed, updatedAt := 11, lastErrorCode := some "EXECUTION_TOOL_REJECTED" }

def sampleFailedLedger : InMemoryExecutionLedger :=
  sampleRunningLedger.put sampleFence.executionId sampleFailed
    (InMemoryExecutionLedger.transitionEvent (sampleAmbient 12 11) sampleFence.executionId .failed)

theorem serve_rejected_sample :
    (system sampleCoordinator).Serve sampleRunningLedger
      (.ledger (.markFailed sampleFence "EXECUTION_TOOL_REJECTED")) (.ok ())
      sampleFailedLedger := by
  refine ⟨sampleAmbient 12 11, sampleRunningLedger_holds.fresh (by decide) 11, ?_⟩
  show sampleRunningLedger.markFailed (sampleAmbient 12 11) sampleFence _ = _
  rw [InMemoryExecutionLedger.markFailed, sampleRunningLedger_holds.transition _ (by decide)]
  rfl

abbrev sampleCalling : Program ExecutionCall ExecutionCall.Answer ThreadResult :=
  (sampleCoordinator.invokeTool sampleClearance.reserved sampleClearance.ledgerEvent
    sampleClearance.authorized sampleClearance.authorizationDigest).run >>=
    fun result => .done (some result)

theorem sampleCalling_eq : ∃ resume resume',
    sampleCalling =
      .perform (.toolExecute sampleToolRequest "task:1" sampleClearance.fenceDigest) resume ∧
    resume (.error .authorizationDenied) =
      .perform (.ledger (.markFailed sampleFence "EXECUTION_TOOL_REJECTED")) resume' :=
  ⟨_, _, rfl, rfl⟩

abbrev sampleWaiting (events : List ExecutionEvent) : Deployment :=
  ⟨⟨sampleRunningLedger, [sampleCalling], events⟩, System.initial ∅, fun _ => none⟩

theorem sample_waiting : ∃ events,
    Careful sampleCoordinator sampleProxyCodec (sampleWaiting events) ∧
    ∃ start ∈ events, start.thread = 0 ∧ StartOf sampleFence.executionId start := by
  have hstart : Careful sampleCoordinator sampleProxyCodec .initial := .refl
  obtain ⟨events, hown, hentries, hcareful⟩ :=
    (hstart.started (.execution sampleRequest)).coordinates (i := 0) rfl
      (sampleClearance.reaches_tool.bind_left fun result => .done (some result))
      serves_sampleClearance (by decide)
  refine ⟨events, hcareful, ?_⟩
  have hmem : (⟨.ledger (.markStarted sampleFence none), .ok ()⟩ : ExecutionEntry) ∈
      events.map Event.entry := by
    rw [hentries]
    exact List.mem_append_right _ (by simp [Clearance.starting]; rfl)
  obtain ⟨start, hmem, hentry⟩ := List.mem_map.mp hmem
  exact ⟨start, hmem, hown start hmem, sampleFence, none, hentry, rfl⟩

abbrev sampleDenial : ExecutionEvent :=
  ⟨0, .toolExecute sampleToolRequest "task:1" sampleClearance.fenceDigest,
    .error .authorizationDenied, sampleRunningLedger, sampleRunningLedger⟩

abbrev sampleMark : ExecutionEvent :=
  ⟨0, .ledger (.markFailed sampleFence "EXECUTION_TOOL_REJECTED"), .ok (), sampleRunningLedger,
    sampleFailedLedger⟩

theorem sample_fails {events : List ExecutionEvent} {d : Deployment}
    (hexecution : d.execution = (sampleWaiting events).execution)
    (hdelivered : Delivered d 0 (.error .authorizationDenied)) :
    ∃ next last, Step sampleCoordinator sampleProxyCodec d
        { d with execution := ⟨sampleRunningLedger, [next], events ++ [sampleDenial]⟩ } ∧
      Step sampleCoordinator sampleProxyCodec
        { d with execution := ⟨sampleRunningLedger, [next], events ++ [sampleDenial]⟩ }
        { d with execution :=
          ⟨sampleFailedLedger, [last], events ++ [sampleDenial] ++ [sampleMark]⟩ } := by
  obtain ⟨resume, resume', hcalls, hrejected⟩ := sampleCalling_eq
  obtain ⟨execution, proxy, requests⟩ := d
  obtain rfl : execution = _ := hexecution
  let denied : ExecutionConfig :=
    ⟨sampleRunningLedger, [resume (.error .authorizationDenied)], events ++ [sampleDenial]⟩
  have hdeny : (system sampleCoordinator).Step (sampleWaiting events).execution denied :=
    .advance 0 _ resume _ _ (congrArg some hcalls) rfl
  have hmark : (system sampleCoordinator).Step denied
      ⟨sampleFailedLedger, [resume' (.ok ())], events ++ [sampleDenial] ++ [sampleMark]⟩ :=
    .advance 0 _ resume' _ _ (congrArg some hrejected) serve_rejected_sample
  refine ⟨resume (.error .authorizationDenied), resume' (.ok ()), .coordinate hdeny ?_,
    .coordinate hmark ?_⟩
  · intro i request key fenceDigest answer ledger ledger' htrace
    obtain ⟨rfl, hcall, hanswer, -⟩ :=
      Event.mk.inj (List.singleton_inj.mp (List.append_cancel_left htrace))
    obtain ⟨rfl, rfl, rfl⟩ := ExecutionCall.toolExecute.inj hcall
    obtain rfl := eq_of_heq hanswer
    exact hdelivered
  · intro i request key fenceDigest answer ledger ledger' htrace
    obtain ⟨-, hcall, -⟩ := Event.mk.inj (List.singleton_inj.mp (List.append_cancel_left htrace))
    cases hcall

def sampleServe (store : ToolProxy.Store) :
    (call : ToolProxy.ProxyCall) → call.Answer × ToolProxy.Store
  | .store call => call.serve sampleProxyCodec ToolProxy.calm store
  | .connectorExecute .. => (.error .timeout, store)
  | call => (ToolProxy.Calls.sampleOracle call, store)

theorem sampleServe_serves (store : ToolProxy.Store) (call : ToolProxy.ProxyCall) :
    (ToolProxy.system sampleProxyCodec).Serve store call (sampleServe store call).1
      (sampleServe store call).2 := by
  cases call with
  | store call => exact ⟨ToolProxy.calm, rfl⟩
  | _ => rfl

abbrev sampleHandling := executing sampleService sampleToolRequest

def isUnknown : Option (Except ProxyError ToolProxy.ProductionExecutionOutcome) → Bool
  | some (.ok .unknown) => true
  | _ => false

theorem eq_of_isUnknown {answer : Option (Except ProxyError ToolProxy.ProductionExecutionOutcome)}
    (h : isUnknown answer = true) : answer = some (.ok .unknown) := by
  unfold isUnknown at h
  split at h
  · rfl
  · cases h

/-- The handler of the sample request calls the connector, does not know the outcome and leaves its
row unknown. -/
theorem sampleHandling_ends : (sampleHandling.alone sampleServe ∅).1 = some (.ok .unknown) ∧
    (sampleHandling.alone sampleServe ∅).2[sampleFailed.key]?.map (·.state) = some .unknown ∧
    ∃ entry ∈ sampleHandling.entriesAlone sampleServe ∅,
      ToolProxy.connectorKey entry.1 = some sampleFailed.key := by
  -- the handler is run once for all three
  have hrun : (isUnknown (sampleHandling.alone sampleServe ∅).1 &&
      decide ((sampleHandling.alone sampleServe ∅).2[sampleFailed.key]?.map (·.state) =
        some .unknown) &&
      (sampleHandling.entriesAlone sampleServe ∅).any (fun entry =>
        ToolProxy.connectorKey entry.1 = some sampleFailed.key)) = true := by
    decide +kernel
  rw [Bool.and_eq_true, Bool.and_eq_true] at hrun
  obtain ⟨⟨hunknown, hrow⟩, hany⟩ := hrun
  obtain ⟨entry, hmem, hkey⟩ := List.any_eq_true.mp hany
  exact ⟨eq_of_isUnknown hunknown, of_decide_eq_true hrow, entry, hmem, of_decide_eq_true hkey⟩

theorem sample_unknown : ∃ d events, Careful sampleCoordinator sampleProxyCodec d ∧
    d.execution = (sampleWaiting events).execution ∧ d.requests 0 = some (.handled 0) ∧
    d.proxy.threads[0]? = some (.done (some (.ok .unknown))) ∧ Connected d 0 sampleFailed.key ∧
    d.proxy.shared[sampleFailed.key]?.map (·.state) = some .unknown := by
  obtain ⟨events, hcareful, -⟩ := sample_waiting
  obtain ⟨resume, -, hcalls, -⟩ := sampleCalling_eq
  have hposted : Posted (sampleWaiting events).execution 0 sampleToolRequest :=
    .inl ⟨_, _, resume, congrArg some hcalls⟩
  have hhandled : Careful sampleCoordinator sampleProxyCodec
      (((sampleWaiting events).arrive 0 (.handled 0)).join sampleHandling) :=
    ReflTransGen.tail hcareful ⟨.handle sampleService rfl hposted rfl, .of_execution rfl⟩
  have hresumes : Resumes sampleHandling (sampleHandling.entriesAlone sampleServe ∅)
      (.done (sampleHandling.alone sampleServe ∅).1) := resumes_alone _
  have hserves : (ToolProxy.system sampleProxyCodec).Serves ∅
      (sampleHandling.entriesAlone sampleServe ∅) (sampleHandling.alone sampleServe ∅).2 :=
    System.serves_alone (fun store call (_ : True) => sampleServe_serves store call)
      (Program.enabled_of_ready (fun _ _ => trivial) _)
  obtain ⟨calls, hown, hentries, hanswered⟩ := hhandled.proceeds (j := 0) rfl hresumes hserves
  obtain ⟨hresult, hrow, entry, hmem, hkey⟩ := sampleHandling_ends
  rw [hresult] at hanswered
  refine ⟨_, events, hanswered, rfl, rfl, rfl, .inl ?_, hrow⟩
  rw [← hentries] at hmem
  obtain ⟨event, hevent, rfl⟩ := List.mem_map.mp hmem
  exact ⟨event, hevent, hown event hevent, hkey⟩

/-- **Counterexample**: the connector has run, its row is unknown, and the record is failed. -/
theorem conflict_fails_record : ∃ d, Reachable sampleCoordinator sampleProxyCodec d ∧
    (∃ events, d.execution.trace = events ++ [sampleDenial] ++ [sampleMark]) ∧
    d.execution.shared.byExecution[sampleFence.executionId]? = some sampleFailed ∧
    Connected d 0 sampleFailed.key ∧
    d.proxy.shared[sampleFailed.key]?.map (·.state) = some .unknown ∧ ¬FailedTruthful d := by
  obtain ⟨d, events, hcareful, hexecution, hhandled, hdone, hconnected, hunknown⟩ := sample_unknown
  obtain ⟨next, last, hdeny, hmark⟩ := sample_fails hexecution (.answered hhandled hdone)
  have hfound : sampleFailedLedger.byExecution[sampleFence.executionId]? = some sampleFailed :=
    InMemoryExecutionLedger.put_getElem?_self ..
  refine ⟨_, (hcareful.reachable.tail hdeny).tail hmark, ⟨events, rfl⟩, hfound, hconnected,
    hunknown, fun htruthful => ?_⟩
  exact htruthful.records _ _ hfound rfl 0 hconnected

/-- The sample execution is refused before its request is handled: its record is failed, and no
connector has run. -/
theorem failed_truthful_refused : ∃ d, FailedTruthful d ∧
    d.execution.shared.byExecution[sampleFence.executionId]? = some sampleFailed ∧
    Silent d sampleFailed.key := by
  obtain ⟨events, hcareful, start, hstart, hown, hstarts⟩ := sample_waiting
  obtain ⟨resume, -, hcalls, -⟩ := sampleCalling_eq
  have hposted : Posted (sampleWaiting events).execution 0 sampleToolRequest :=
    .inl ⟨_, _, resume, congrArg some hcalls⟩
  have hrefused : Careful sampleCoordinator sampleProxyCodec
      ((sampleWaiting events).arrive 0 (.refused 403)) :=
    ReflTransGen.tail hcareful
      ⟨.refuse (by decide) hposted rfl, .of_execution rfl⟩
  have hdelivered : Delivered ((sampleWaiting events).arrive 0 (.refused 403)) 0
      (readResponse (.error 403)) := .refused rfl
  obtain ⟨next, last, hdeny, hmark⟩ :=
    sample_fails (d := (sampleWaiting events).arrive 0 (.refused 403)) rfl hdelivered
  have hlast : Careful sampleCoordinator sampleProxyCodec
      { (sampleWaiting events).arrive 0 (.refused 403) with
        execution := ⟨sampleFailedLedger, [last], events ++ [sampleDenial] ++ [sampleMark]⟩ } := by
    refine ReflTransGen.tail (ReflTransGen.tail hrefused ⟨hdeny, ?_, ?_⟩) ⟨hmark, ?_, ?_⟩
    · rintro event htrace - j result hhandled
      obtain rfl := List.singleton_inj.mp (List.append_cancel_left htrace)
      cases hhandled
    · rintro event htrace executionId record ⟨fence, code, hentry, -⟩
      obtain rfl := List.singleton_inj.mp (List.append_cancel_left htrace)
      cases hentry
    · rintro event htrace ⟨request, key, fenceDigest, hentry⟩
      obtain rfl := List.singleton_inj.mp (List.append_cancel_left htrace)
      cases hentry
    · rintro event htrace executionId record ⟨fence, code, hentry, rfl⟩ - -
      obtain rfl := List.singleton_inj.mp (List.append_cancel_left htrace)
      cases hentry
      exact ⟨start, List.mem_append_left _ hstart, hown, hstarts⟩
  have htruthful := failed_truthful hlast
  have hfound : sampleFailedLedger.byExecution[sampleFence.executionId]? = some sampleFailed :=
    InMemoryExecutionLedger.put_getElem?_self ..
  exact ⟨_, htruthful, hfound, htruthful.records _ _ hfound rfl⟩

end Sample

end AgentSphere.Boundary
