import AgentSphere.Execution.Settlement

/-!
# What a returned outcome describes

An outcome is put together from two reads of the ledger: the record, and then its latest event.
As long as nobody moves the record to another status between the two, the outcome describes the
ledger at the moment of the second read.
-/

namespace AgentSphere.Execution

open Concurrency Ledger

-- Events and statuses

def EventRecords (event : OutboxEvent) (executionId : ExecutionId) (status : ExecutionStatus) :
    Prop :=
  event.executionId = executionId ∧
    (event.eventType, event.payload) =
      if status = .prepared then ("EXECUTION_RESERVED", .null)
      else ("EXECUTION_" ++ status.debug, .object [("status", .string status.debug)])

instance (event : OutboxEvent) (executionId : ExecutionId) (status : ExecutionStatus) :
    Decidable (EventRecords event executionId status) :=
  inferInstanceAs (Decidable (_ ∧ _))

def Recorded (ledger : InMemoryExecutionLedger) : Prop :=
  ∀ (executionId : ExecutionId) (record : ExecutionRecord),
    ledger.byExecution[executionId]? = some record → record.executionId = executionId ∧
      ∃ event, ledger.latestEvent executionId = some event ∧
        EventRecords event executionId record.status

theorem latestEvent_append (ledger ledger' : InMemoryExecutionLedger) {event : OutboxEvent}
    (h : ledger'.outbox = ledger.outbox ++ [event])
    (executionId : ExecutionId) :
    ledger'.latestEvent executionId =
      if event.executionId = executionId then some event else ledger.latestEvent executionId := by
  rw [InMemoryExecutionLedger.latestEvent, h, List.reverse_append, List.reverse_singleton,
    List.singleton_append, List.find?_cons]
  by_cases hid : event.executionId = executionId
  · simp [hid]
  · have hother : (event.executionId == executionId) = false := by simpa using hid
    rw [hother, if_neg hid]
    rfl

theorem recorded_default : Recorded .default := by
  intro executionId record hfound
  simp [InMemoryExecutionLedger.default] at hfound

/-- A move leads to a status other than `Prepared`. -/
theorem move_ne_prepared {record record' : ExecutionRecord} (h : Move record record') :
    record'.status ≠ .prepared := by
  cases h <;> simp

/-- **Step lemma**: each change appends the event of the status it leads to. -/
theorem Recorded.change {ledger ledger' : InMemoryExecutionLedger} {ambient : Ambient}
    (h : Recorded ledger) (hchange : InMemoryExecutionLedger.Change ambient ledger ledger') :
    Recorded ledger' := by
  cases hchange with
  | none => exact h
  | reserved intent valid absent =>
    intro executionId record hfound
    rw [latestEvent_append ledger (ledger.insertPrepared ambient intent) rfl]
    by_cases hid : ambient.executionUuid.toStr = executionId
    · subst hid
      obtain rfl : ledger.preparedRecord ambient intent = record := by simpa using hfound
      exact ⟨rfl, _, if_pos rfl, rfl, rfl⟩
    · obtain ⟨hown, hlatest⟩ := h executionId record (by simpa [hid] using hfound)
      exact ⟨hown, by simpa [hid] using hlatest⟩
  | @moved movedId old new found move =>
    intro executionId record hfound
    rw [latestEvent_append ledger _ rfl]
    by_cases hid : movedId = executionId
    · subst hid
      obtain rfl : new = record := by simpa using hfound
      refine ⟨move.executionId_eq.trans (h movedId old found).1, _, if_pos rfl, rfl, ?_⟩
      rw [if_neg (move_ne_prepared move)]
      rfl
    · obtain ⟨hown, hlatest⟩ := h executionId record (by simpa [hid] using hfound)
      refine ⟨hown, ?_⟩
      simpa [hid, InMemoryExecutionLedger.transitionEvent] using hlatest

theorem recorded_always {coordinator : ExecutionCoordinator} {cfg : ExecutionConfig}
    (hreach : (system coordinator).Reachable .default cfg) :
    Recorded cfg.shared ∧
    ∀ before event after, cfg.trace = before ++ event :: after →
      Recorded event.before ∧
        serve coordinator.codec.eventDigest event.before event.call event.answer event.after := by
  refine hreach.always (I := fun ledger _ => Recorded ledger) ?_ ?_ recorded_default
  · intro ledger trace i call answer ledger' hrecorded hserve
    obtain rfl | ⟨ambient, -, hchange⟩ := serve_change hserve
    · exact hrecorded
    · exact hrecorded.change hchange
  · rintro _ _ _ _ ⟨⟩

-- The two reads of an outcome

def statusOf (ledger : InMemoryExecutionLedger) (executionId : ExecutionId) :
    Option ExecutionStatus :=
  ledger.byExecution[executionId]?.map (·.status)

def told (ledger : InMemoryExecutionLedger) (executionId : ExecutionId) :
    Option (ExecutionStatus × Option String × Option String × Option String) :=
  ledger.byExecution[executionId]?.map fun record =>
    (record.status, record.resultRef, record.evidenceRef, record.lastErrorCode)

section Reads

variable {ledger ledger' : InMemoryExecutionLedger} {digest : EventDigest}
  {tenantId : TenantId} {executionId : ExecutionId}

theorem serve_get {record : ExecutionRecord}
    (h : serve digest ledger (.ledger (.get tenantId executionId)) (.ok record) ledger') :
    ledger' = ledger ∧ ledger.byExecution[executionId]? = some record := by
  obtain ⟨ambient, -, heq⟩ := h
  obtain ⟨hanswer, rfl⟩ := Prod.mk.inj heq
  refine ⟨rfl, ?_⟩
  unfold InMemoryExecutionLedger.get at hanswer
  cases hfound : ledger.byExecution[executionId]? with
  | none => simp [hfound] at hanswer
  | some stored =>
    rw [hfound] at hanswer
    simp only at hanswer
    split_ifs at hanswer with htenant
    rw [Except.ok.inj hanswer]

theorem serve_statusEventFact {fact : LedgerEventFact}
    (h : serve digest ledger (.ledger (.statusEventFact tenantId executionId)) (.ok fact) ledger') :
    ∃ event, ledger.latestEvent executionId = some event ∧
      fact.eventRef = "ledger-event:" ++ event.eventId := by
  obtain ⟨ambient, -, heq⟩ := h
  obtain ⟨hanswer, rfl⟩ := Prod.mk.inj heq
  unfold InMemoryExecutionLedger.statusEventFact at hanswer
  split at hanswer
  · cases hanswer
  · split_ifs at hanswer with htenant
    split at hanswer
    · cases hanswer
    · next event hlatest =>
      refine ⟨event, hlatest, ?_⟩
      unfold ledgerEventFact at hanswer
      split at hanswer
      · cases hanswer
      · split_ifs at hanswer with hcanonical
        split at hanswer
        · cases hanswer
        · rw [← Except.ok.inj hanswer]

theorem told_of_statusOf {call : ExecutionCall} {answer : call.Answer}
    (h : serve digest ledger call answer ledger')
    (hstatus : statusOf ledger' executionId = statusOf ledger executionId) :
    told ledger' executionId = told ledger executionId := by
  obtain rfl | ⟨ambient, hfresh, hchange⟩ := serve_change h
  · rfl
  · cases hchange with
    | none => rfl
    | reserved intent valid absent =>
      by_cases hid : ambient.executionUuid.toStr = executionId
      · subst hid
        rw [statusOf, statusOf, hfresh] at hstatus
        simp at hstatus
      · simp [told, hid]
    | @moved movedId old new found move =>
      by_cases hid : movedId = executionId
      · subst hid
        have hsame : new.status = old.status := by simpa [statusOf, found] using hstatus
        simp only [told, InMemoryExecutionLedger.put_getElem?_self, found, Option.map_some]
        -- only a manual recovery of an unknown record keeps its status
        cases move with
        | started now operation source => simp [source] at hsame
        | succeeded now result evidence source => rcases source with h | h <;> simp [h] at hsame
        | failed now error source => rcases source with h | h <;> simp [h] at hsame
        | unknown now error source => simp [source] at hsame
        | manualRecovery now case source => simp [← hsame]
      · simp [told, hid]

end Reads

/-- The outcome tells the status, the result and the error of the record in one state of the
ledger, and its first evidence reference is the event that recorded that status. -/
def Describes (codec : Codec) (outcome : ExecutionOutcome) (ledger : InMemoryExecutionLedger) :
    Prop :=
  ∃ record event, ledger.byExecution[outcome.ledgerExecutionId]? = some record ∧
    ledger.latestEvent outcome.ledgerExecutionId = some event ∧
    outcome.status = record.status ∧
    outcome.evidenceRefs.head? = some ("ledger-event:" ++ event.eventId) ∧
    EventRecords event outcome.ledgerExecutionId outcome.status ∧
    codec.digest (.outcome
      { executionId := record.executionId, status := record.status, resultRef := record.resultRef
        evidenceRefs := outcome.evidenceRefs, lastErrorCode := record.lastErrorCode
        fenceDigest := outcome.fenceDigest }) = .ok outcome.outcomeDigest

/-- Between the two reads of an outcome, a `get` and the `status_event_fact` that its thread
calls next, no event moves the execution to another status. -/
def Untorn (trace : List ExecutionEvent) : Prop :=
  ∀ before get between fact after, trace = before ++ get :: between ++ fact :: after →
    get.thread = fact.thread → (∀ event ∈ between, event.thread ≠ get.thread) →
    ∀ tenantId executionId tenantId' executionId',
      get.call = .ledger (.get tenantId executionId) →
      fact.call = .ledger (.statusEventFact tenantId' executionId') →
      ∀ event ∈ between, statusOf event.after executionId = statusOf event.before executionId

/-- **One moment**: in a run whose reads are untorn, every returned outcome describes the ledger
at one event of the run. -/
theorem outcome_describes_one_moment {coordinator : ExecutionCoordinator} {cfg : ExecutionConfig}
    (hreach : (system coordinator).Reachable .default cfg) (huntorn : Untorn cfg.trace)
    {i : Nat} {outcome : ExecutionOutcome}
    (hdone : cfg.threads[i]? = some (.done (some (.ok outcome)))) :
    ∃ event ∈ cfg.trace, Describes coordinator.codec outcome event.before := by
  obtain ⟨p, hcaller, hresumes⟩ := hreach.resumes.2 i _ hdone
  obtain ⟨request, entries, tenantId, executionId, record, fact, fenceDigest, hhistory, houtcome⟩ :=
    (hcaller.ended hresumes).2 outcome rfl
  -- the two reads, and the events between them
  obtain ⟨first, rest, htrace, -, hrest⟩ := history_eq_append hhistory
  obtain ⟨quiet, getEvent, later, rfl, -, hget, hgetEntry, hlater⟩ := history_eq_cons hrest
  obtain ⟨between, factEvent, last, rfl, hbetween, hfact, hfactEntry, -⟩ := history_eq_cons hlater
  have hsplit : cfg.trace = (first ++ quiet) ++ getEvent :: between ++ factEvent :: last := by
    simp [htrace]
  have halways := (recorded_always hreach).2
  have hserved : ∀ event ∈ between, serve coordinator.codec.eventDigest event.before event.call
      event.answer event.after := by
    intro event hevent
    obtain ⟨left, right, rfl⟩ := List.append_of_mem hevent
    exact (halways ((first ++ quiet) ++ getEvent :: left) event (right ++ factEvent :: last)
      (by simp [htrace])).2
  obtain ⟨hrecordedGet, hserveGet⟩ := halways (first ++ quiet) getEvent
    (between ++ factEvent :: last) (by simp [htrace])
  obtain ⟨hrecordedFact, hserveFact⟩ := halways _ factEvent last hsplit
  obtain ⟨hkept, hfound⟩ := serve_get (Event.of_entry hgetEntry (fun call answer =>
    serve coordinator.codec.eventDigest getEvent.before call answer getEvent.after) hserveGet)
  obtain ⟨event, hlatest, hreference⟩ := serve_statusEventFact (Event.of_entry hfactEntry
    (fun call answer => serve coordinator.codec.eventDigest factEvent.before call answer
      factEvent.after) hserveFact)
  obtain rfl : record.executionId = executionId := (hrecordedGet executionId record hfound).1
  -- nothing that is told about the record changes between the reads
  have huntold : told factEvent.before record.executionId =
      told getEvent.after record.executionId := by
    refine (hreach.unchanged (fun ledger => told ledger record.executionId) ?_).2 _ getEvent
      between factEvent last hsplit ?_
    · rintro _ _ ⟨⟩
    · intro event hevent
      refine told_of_statusOf (hserved event hevent) ?_
      exact huntorn _ getEvent between factEvent last hsplit (hget.trans hfact.symm)
        (fun event hevent => by rw [hget]; exact hbetween event hevent) _ _ _ _
        (congrArg Sigma.fst hgetEntry) (congrArg Sigma.fst hfactEntry) event hevent
  rw [hkept, told, told, hfound, Option.map_some, Option.map_eq_some_iff] at huntold
  obtain ⟨record', hfound', htold⟩ := huntold
  obtain ⟨hstatus, hresult, hevidence, herror⟩ : record'.status = record.status ∧
      record'.resultRef = record.resultRef ∧ record'.evidenceRef = record.evidenceRef ∧
      record'.lastErrorCode = record.lastErrorCode := by
    simpa using htold
  obtain ⟨hown, event', hlatest', hrecords⟩ := hrecordedFact record.executionId record' hfound'
  obtain rfl : event = event' := Option.some.inj (hlatest.symm.trans hlatest')
  -- the outcome is made from the record and the reference
  obtain ⟨outcomeDigest, hdigest, hmade⟩ := except_bind_eq_ok.mp houtcome
  cases hmade
  refine ⟨factEvent, by simp [htrace], record', event, hfound', hlatest, hstatus.symm, ?_, ?_, ?_⟩
  · exact congrArg some hreference
  · rw [hstatus] at hrecords
    exact hrecords
  · rw [hown, hstatus, hresult, herror]
    exact hdigest

/-- The sample execution is alone, so its reads are untorn. -/
theorem outcome_describes_one_moment_sample : ∃ cfg,
    (system sampleCoordinator).Reachable .default cfg ∧ Untorn cfg.trace ∧
    cfg.threads[0]? = some (.done (some (.ok sampleOutcome))) ∧
    ∃ event ∈ cfg.trace, Describes sampleCodec sampleOutcome event.before := by
  obtain ⟨cfg, hreach, -, hdone, hown, -⟩ := sample_succeeded_run
  have huntorn : Untorn cfg.trace := by
    intro before get between fact after htrace _ hothers _ _ _ _ _ _ event hevent
    have hget : get.thread = 0 := hown get (by simp [htrace])
    have hsame : event.thread = 0 := hown event (by simp [htrace, hevent])
    exact absurd (hsame.trans hget.symm) (hothers event hevent)
  exact ⟨cfg, hreach, huntorn, hdone, outcome_describes_one_moment hreach huntorn hdone⟩

-- Torn reads

theorem serve_outbox {digest : EventDigest} {ledger ledger' : InMemoryExecutionLedger}
    {call : ExecutionCall} {answer : call.Answer} (h : serve digest ledger call answer ledger') :
    ledger.outbox <+: ledger'.outbox := by
  obtain rfl | ⟨ambient, -, hchange⟩ := serve_change h
  · exact List.prefix_refl _
  · cases hchange with
    | none => exact List.prefix_refl _
    | reserved intent valid absent => exact List.prefix_append _ _
    | moved found move => exact List.prefix_append _ _

theorem outbox_kept {coordinator : ExecutionCoordinator} {cfg : ExecutionConfig}
    (hreach : (system coordinator).Reachable .default cfg) :
    ∀ event ∈ cfg.trace, event.before.outbox <+: cfg.shared.outbox := by
  refine (hreach.always (I := fun ledger trace => ∀ event ∈ trace,
    event.before.outbox <+: ledger.outbox) ?_ ?_ (by simp)).1
  · intro ledger trace i call answer ledger' hinv hserve event hevent
    rcases List.mem_append.mp hevent with hold | hnew
    · exact (hinv event hold).trans (serve_outbox hserve)
    · obtain rfl := List.mem_singleton.mp hnew
      exact serve_outbox hserve
  · rintro _ _ _ _ ⟨⟩

theorem sampleTorn_undescribed {ledger : InMemoryExecutionLedger}
    (h : ledger.outbox <+: sampleUnknownLedger.outbox) :
    ¬ Describes sampleCodec sampleTorn ledger := by
  rintro ⟨record, event, -, hlatest, -, hreference, hrecords, -⟩
  have hmem : event ∈ sampleUnknownLedger.outbox :=
    h.subset (List.mem_reverse.mp (List.mem_of_find?_eq_some hlatest))
  have hid : event.eventId = (sampleUuid 12).toStr := by
    have heq : "ledger-event:" ++ (sampleUuid 12).toStr = "ledger-event:" ++ event.eventId :=
      Option.some.inj hreference
    exact ((String.append_right_inj _).mp heq).symm
  have hevents : event.eventId = (sampleUuid 10).toStr ∨ event.eventId = (sampleUuid 11).toStr ∨
      event.eventType = "EXECUTION_Unknown" := by
    simp only [sampleUnknownLedger, sampleRunningLedger, sampleReservedLedger,
      InMemoryExecutionLedger.put, InMemoryExecutionLedger.insertPrepared,
      InMemoryExecutionLedger.default, List.nil_append, List.cons_append, List.mem_cons,
      List.not_mem_nil, or_false] at hmem
    rcases hmem with rfl | rfl | rfl
    · exact .inl rfl
    · exact .inr (.inl rfl)
    · exact .inr (.inr rfl)
  rcases hevents with hfirst | hsecond | hunknown
  · exact sampleUuid_toStr_ne (by decide) (hfirst.symm.trans hid)
  · exact sampleUuid_toStr_ne (by decide) (hsecond.symm.trans hid)
  · have hrunning : event.eventType = "EXECUTION_Running" := (Prod.mk.inj hrecords.2).1
    exact absurd (hunknown.symm.trans hrunning) (by decide)

/-- A duplicate that reads the record while it runs, and its latest event after that, returns
what no moment of the run shows. -/
theorem outcome_torn :
    ¬ ∀ (coordinator : ExecutionCoordinator) (cfg : ExecutionConfig),
      (system coordinator).Reachable .default cfg →
      ∀ (i : Nat) (outcome : ExecutionOutcome),
        cfg.threads[i]? = some (.done (some (.ok outcome))) →
        (∃ event ∈ cfg.trace, Describes coordinator.codec outcome event.before) ∨
          Describes coordinator.codec outcome cfg.shared := by
  intro h
  obtain ⟨cfg, hreach, hshared, hdone, -⟩ := sample_torn_run
  rcases h sampleCoordinator cfg hreach 1 sampleTorn hdone with ⟨event, hevent, hdescribes⟩ | hlast
  · have hkept := outbox_kept hreach event hevent
    rw [hshared] at hkept
    exact sampleTorn_undescribed hkept hdescribes
  · rw [hshared] at hlast
    exact sampleTorn_undescribed (List.prefix_refl _) hlast

end AgentSphere.Execution
