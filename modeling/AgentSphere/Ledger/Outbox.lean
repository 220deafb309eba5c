import AgentSphere.Ledger.Recovery

/-!
# The outbox of the ledger

Every reservation and every successful transition appends one event, under the lock that
changes the record. So the events of an execution tell its history, and the latest of them,
which `status_event_fact` hands to the Tool Proxy, tells its status.
-/

namespace AgentSphere.Ledger

open Concurrency

namespace LedgerCall

/-- What a `mark` call has done, by its answer. -/
def moved (answer : Except LedgerError Unit) (fence : ExecutionFence) (next : ExecutionStatus) :
    Option (ExecutionId × ExecutionStatus) :=
  match answer with
  | .ok () => some (fence.executionId, next)
  | .error _ => none

def transitioned : (call : LedgerCall) → call.Answer → Option (ExecutionId × ExecutionStatus)
  | .markStarted fence _, answer => moved answer fence .running
  | .markSucceeded fence _ _, answer => moved answer fence .succeeded
  | .markFailed fence _, answer => moved answer fence .failed
  | .markUnknown fence _, answer => moved answer fence .unknown
  | .markManualRecovery fence _, answer => moved answer fence .unknown
  | _, _ => none

def failed : (call : LedgerCall) → call.Answer → Bool
  | .reserve _, answer => !answer.isOk
  | .markStarted .., answer | .markSucceeded .., answer | .markFailed .., answer
  | .markUnknown .., answer | .markManualRecovery .., answer => !answer.isOk
  | .get .., answer => !answer.isOk
  | .statusEventFact .., answer => !answer.isOk
  | .staleNonTerminal .., answer => !answer.isOk

end LedgerCall

def movedBy (event : Event InMemoryExecutionLedger ScanCall ScanCall.Answer) :
    Option (ExecutionId × ExecutionStatus) :=
  match event with
  | ⟨_, .ledger call, answer, _, _⟩ => call.transitioned answer
  | _ => none

def transitionsOf (trace : List (Event InMemoryExecutionLedger ScanCall ScanCall.Answer))
    (executionId : ExecutionId) : List ExecutionStatus :=
  ((trace.filterMap movedBy).filter fun moved => moved.1 == executionId).map Prod.snd

def refusedBy (event : Event InMemoryExecutionLedger ScanCall ScanCall.Answer) : Bool :=
  match event with
  | ⟨_, .ledger call, answer, _, _⟩ => call.failed answer
  | _ => false

def reservedEntry : String × Value := ("EXECUTION_RESERVED", .null)

def transitionEntry (status : ExecutionStatus) : String × Value :=
  ("EXECUTION_" ++ status.debug, .object [("status", .string status.debug)])

theorem transitionEntry_ne_reserved (status : ExecutionStatus) :
    (transitionEntry status).1 ≠ reservedEntry.1 := by
  cases status <;> decide

namespace InMemoryExecutionLedger

def eventsOf (ledger : InMemoryExecutionLedger) (executionId : ExecutionId) : List OutboxEvent :=
  ledger.outbox.filter fun event => event.executionId == executionId

def entriesOf (ledger : InMemoryExecutionLedger) (executionId : ExecutionId) :
    List (String × Value) :=
  (ledger.eventsOf executionId).map fun event => (event.eventType, event.payload)

variable {ledger ledger' : InMemoryExecutionLedger} {ambient : Ambient}

theorem latestEvent_eq_getLast? (executionId : ExecutionId) :
    ledger.latestEvent executionId = (ledger.eventsOf executionId).getLast? := by
  rw [latestEvent, eventsOf, ← List.head?_reverse, ← List.filter_reverse, List.head?_filter]

theorem eventsOf_append {executionId executionId' : ExecutionId} {event : OutboxEvent}
    (houtbox : ledger'.outbox = ledger.outbox ++ [event])
    (hevent : event.executionId = executionId') :
    ledger'.eventsOf executionId =
      ledger.eventsOf executionId ++ if executionId' = executionId then [event] else [] := by
  rw [eventsOf, eventsOf, houtbox, List.filter_append, List.filter_singleton, hevent]
  by_cases h : executionId' = executionId
  · simp [h]
  · rw [if_neg h, beq_eq_false_iff_ne.mpr h, cond_false]

inductive Reports (ambient : Ambient) (ledger : InMemoryExecutionLedger) :
    InMemoryExecutionLedger → Option (ExecutionId × ExecutionStatus) → Prop where
  | none : Reports ambient ledger ledger none
  | reserved (intent : ExecutionIntent) :
      Reports ambient ledger (ledger.insertPrepared ambient intent) none
  | moved {executionId : ExecutionId} {record record' : ExecutionRecord}
      (found : ledger.byExecution[executionId]? = some record) :
      Reports ambient ledger
        (ledger.put executionId record' (transitionEvent ambient executionId record'.status))
        (some (executionId, record'.status))

/-- A `transition` reports its status exactly if it succeeds. -/
theorem transition_reports {fence : ExecutionFence} {allowed : List ExecutionStatus}
    {next : ExecutionStatus} {update : ExecutionRecord → ExecutionRecord}
    (hnext : ∀ record, (update record).status = record.status) :
    Reports ambient ledger (ledger.transition ambient fence allowed next update).2
      (LedgerCall.moved (ledger.transition ambient fence allowed next update).1 fence next) := by
  obtain ⟨-, e, heq⟩ | ⟨record, hfound, -, -, -, heq⟩ :=
    transition_cases ledger ambient fence allowed next update
  · rw [heq]
    exact .none
  · rw [heq]
    have hmoved := @Reports.moved ambient ledger fence.executionId record
      (update { record with status := next, updatedAt := ambient.now }) hfound
    rwa [hnext] at hmoved

variable (ledger ambient) in
/-- **Inversion**: one call, its event and its answer. -/
theorem perform_reports (digest : EventDigest) (call : LedgerCall) :
    Reports ambient ledger (ledger.perform ambient digest call).2
      (call.transitioned (ledger.perform ambient digest call).1) := by
  cases call with
  | reserve intent =>
    obtain ⟨e, heq⟩ | ⟨_, _, _, _, _, _, heq⟩ | ⟨_, _, heq⟩ := reserve_cases ledger ambient intent
    · simp only [perform, heq]
      exact .none
    · simp only [perform, heq]
      exact .none
    · simp only [perform, heq]
      exact .reserved intent
  | markStarted fence operation => exact transition_reports fun _ => rfl
  | markSucceeded fence result evidence => exact transition_reports fun _ => rfl
  | markFailed fence error => exact transition_reports fun _ => rfl
  | markUnknown fence error => exact transition_reports fun _ => rfl
  | markManualRecovery fence case => exact transition_reports fun _ => rfl
  | get => exact .none
  | statusEventFact => exact .none
  | staleNonTerminal => exact .none

variable (ledger ambient) in
theorem perform_failed (digest : EventDigest) (call : LedgerCall)
    (hfailed : call.failed (ledger.perform ambient digest call).1 = true) :
    (ledger.perform ambient digest call).2 = ledger := by
  have hmark : ∀ fence allowed next update,
      (!(ledger.transition ambient fence allowed next update).1.isOk) = true →
      (ledger.transition ambient fence allowed next update).2 = ledger := by
    intro fence allowed next update hfailed
    obtain ⟨-, e, heq⟩ | ⟨record, -, -, -, -, heq⟩ :=
      transition_cases ledger ambient fence allowed next update
    · rw [heq]
    · rw [heq] at hfailed
      cases hfailed
  cases call with
  | reserve intent =>
    obtain ⟨e, heq⟩ | ⟨_, _, _, _, _, _, heq⟩ | ⟨_, _, heq⟩ := reserve_cases ledger ambient intent
    · simp only [perform, heq]
    · simp only [perform, heq]
    · simp only [perform, heq] at hfailed
      cases hfailed
  | markStarted fence operation => exact hmark _ _ _ _ hfailed
  | markSucceeded fence result evidence => exact hmark _ _ _ _ hfailed
  | markFailed fence error => exact hmark _ _ _ _ hfailed
  | markUnknown fence error => exact hmark _ _ _ _ hfailed
  | markManualRecovery fence case => exact hmark _ _ _ _ hfailed
  | get => rfl
  | statusEventFact => rfl
  | staleNonTerminal => rfl

structure LoggedRecord (ledger : InMemoryExecutionLedger) (executionId : ExecutionId)
    (transitions : List ExecutionStatus) (record : ExecutionRecord) : Prop where
  entries : ledger.entriesOf executionId = reservedEntry :: transitions.map transitionEntry
  status : record.status = transitions.getLast?.getD .prepared

structure Logged (ledger : InMemoryExecutionLedger)
    (trace : List (Event InMemoryExecutionLedger ScanCall ScanCall.Answer)) : Prop where
  recorded : ∀ (executionId : ExecutionId) record,
    ledger.byExecution[executionId]? = some record →
    LoggedRecord ledger executionId (transitionsOf trace executionId) record
  unrecorded : ∀ executionId : ExecutionId, ledger.byExecution[executionId]? = none →
    ledger.eventsOf executionId = [] ∧ transitionsOf trace executionId = []
  eventIds : ∀ event ∈ ledger.outbox, ∃ eventUuid : Uuid, event.eventId = eventUuid.toStr

variable {trace : List (Event InMemoryExecutionLedger ScanCall ScanCall.Answer)}
  {event : Event InMemoryExecutionLedger ScanCall ScanCall.Answer}

theorem transitionsOf_append (executionId : ExecutionId) :
    transitionsOf (trace ++ [event]) executionId = transitionsOf trace executionId ++
      ((movedBy event).toList.filter fun moved => moved.1 == executionId).map Prod.snd := by
  rw [transitionsOf, transitionsOf, List.filterMap_append, List.filter_append, List.map_append]
  cases h : movedBy event <;> simp [h]

theorem transitionsOf_append_none (h : movedBy event = none) (executionId : ExecutionId) :
    transitionsOf (trace ++ [event]) executionId = transitionsOf trace executionId := by
  simp [transitionsOf_append, h]

theorem transitionsOf_append_some {executionId : ExecutionId} {status : ExecutionStatus}
    (h : movedBy event = some (executionId, status)) (executionId' : ExecutionId) :
    transitionsOf (trace ++ [event]) executionId' = transitionsOf trace executionId' ++
      if executionId = executionId' then [status] else [] := by
  by_cases hid : executionId = executionId'
  · simp [transitionsOf_append, h, hid]
  · simp [transitionsOf_append, h, hid]

theorem logged_default : Logged default [] where
  recorded executionId record hfound := by simp [default] at hfound
  unrecorded executionId _ := ⟨rfl, rfl⟩
  eventIds event hevent := nomatch hevent

theorem Logged.reserved (h : Logged ledger trace) (hfresh : ambient.Fresh ledger)
    (intent : ExecutionIntent) (hmoved : movedBy event = none) :
    Logged (ledger.insertPrepared ambient intent) (trace ++ [event]) := by
  have hevents : ∀ executionId, (ledger.insertPrepared ambient intent).eventsOf executionId = _ :=
    fun executionId => eventsOf_append rfl rfl
  refine ⟨?_, ?_, ?_⟩
  · intro executionId record hfound
    rw [transitionsOf_append_none hmoved]
    by_cases hid : ambient.executionUuid.toStr = executionId
    · subst hid
      obtain rfl := by simpa using hfound
      obtain ⟨hnone, htransitions⟩ := h.unrecorded _ hfresh
      refine ⟨?_, ?_⟩
      · simp [entriesOf, hevents, hnone, htransitions, reservedEntry]
      · simp [htransitions, preparedRecord]
    · have hold : ledger.byExecution[executionId]? = some record := by simpa [hid] using hfound
      obtain ⟨hentries, hstatus⟩ := h.recorded executionId record hold
      refine ⟨?_, hstatus⟩
      simpa [entriesOf, hevents, hid] using hentries
  · intro executionId hnone
    have hid : ambient.executionUuid.toStr ≠ executionId := by
      rintro rfl
      simp at hnone
    obtain ⟨hold, htransitions⟩ := h.unrecorded executionId (by simpa [hid] using hnone)
    rw [transitionsOf_append_none hmoved]
    exact ⟨by simp [hevents, hid, hold], htransitions⟩
  · intro other hother
    rcases List.mem_append.mp hother with hother | hother
    · exact h.eventIds other hother
    · obtain rfl := List.mem_singleton.mp hother
      exact ⟨ambient.eventUuid, rfl⟩

theorem Logged.moved (h : Logged ledger trace) {executionId : ExecutionId}
    {record record' : ExecutionRecord} (hfound : ledger.byExecution[executionId]? = some record)
    (hmoved : movedBy event = some (executionId, record'.status)) :
    Logged (ledger.put executionId record' (transitionEvent ambient executionId record'.status))
      (trace ++ [event]) := by
  have hevents : ∀ executionId', (ledger.put executionId record'
      (transitionEvent ambient executionId record'.status)).eventsOf executionId' =
        ledger.eventsOf executionId' ++ if executionId = executionId'
          then [transitionEvent ambient executionId record'.status] else [] :=
    fun executionId' => eventsOf_append rfl rfl
  refine ⟨?_, ?_, ?_⟩
  · intro executionId' other hother
    rw [transitionsOf_append_some hmoved]
    by_cases hid : executionId = executionId'
    · subst hid
      obtain rfl : record' = other := by simpa using hother
      obtain ⟨hentries, -⟩ := h.recorded executionId record hfound
      refine ⟨?_, by simp⟩
      rw [entriesOf] at hentries
      rw [entriesOf, hevents, if_pos rfl, List.map_append, hentries, if_pos rfl, List.map_append]
      rfl
    · have hold : ledger.byExecution[executionId']? = some other := by simpa [hid] using hother
      obtain ⟨hentries, hstatus⟩ := h.recorded executionId' other hold
      refine ⟨?_, by simpa [hid] using hstatus⟩
      simpa [entriesOf, hevents, hid] using hentries
  · intro executionId' hnone
    have hid : executionId ≠ executionId' := by
      rintro rfl
      simp at hnone
    obtain ⟨hold, htransitions⟩ := h.unrecorded executionId' (by simpa [hid] using hnone)
    rw [transitionsOf_append_some hmoved]
    exact ⟨by simp [hevents, hid, hold], by simp [htransitions, hid]⟩
  · intro other hother
    rcases List.mem_append.mp hother with hother | hother
    · exact h.eventIds other hother
    · obtain rfl := List.mem_singleton.mp hother
      exact ⟨ambient.eventUuid, rfl⟩

theorem Logged.unmoved (h : Logged ledger trace) (hmoved : movedBy event = none) :
    Logged ledger (trace ++ [event]) where
  recorded executionId record hfound := by
    rw [transitionsOf_append_none hmoved]
    exact h.recorded executionId record hfound
  unrecorded executionId hnone := by
    rw [transitionsOf_append_none hmoved]
    exact h.unrecorded executionId hnone
  eventIds := h.eventIds

theorem Logged.restarted {codec : SnapshotCodec} (h : Logged ledger trace)
    (hrestart : Restart codec ledger ledger') : Logged ledger' trace := by
  have houtbox : ledger'.outbox = ledger.outbox := hrestart.cases.1
  have hevents : ∀ executionId, ledger'.eventsOf executionId = ledger.eventsOf executionId := by
    intro executionId
    rw [eventsOf, eventsOf, houtbox]
  refine ⟨?_, ?_, ?_⟩
  · intro executionId record' hfound
    obtain ⟨record, hrecord, hsame⟩ := hrestart.record_before hfound
    obtain ⟨hentries, hstatus⟩ := h.recorded executionId record hrecord
    refine ⟨?_, ?_⟩
    · rw [entriesOf, hevents]
      exact hentries
    · exact (congrArg (·.status) hsame : record'.status = record.status).trans hstatus
  · intro executionId hnone
    rw [hevents]
    refine h.unrecorded executionId ?_
    have hsame := hrestart.cases.2.1 executionId
    simpa [hnone] using hsame.symm
  · rw [houtbox]
    exact h.eventIds

end InMemoryExecutionLedger

open InMemoryExecutionLedger

variable {digest : EventDigest} {codec : SnapshotCodec}
  {cfg cfg' : Config InMemoryExecutionLedger ScanCall ScanCall.Answer Unit}

theorem InMemoryExecutionLedger.Logged.step (h : Logged cfg.shared cfg.trace)
    (hstep : (system digest codec).Step cfg cfg') : Logged cfg'.shared cfg'.trace := by
  cases hstep with
  | start p starts => exact h
  | internal ledger' moves => exact h.restarted moves
  | advance i call resume answer ledger' suspended served =>
    cases call with
    | ledger call =>
      obtain ⟨ambient, hfresh, heq⟩ := served
      have hreports := perform_reports cfg.shared ambient digest call
      rw [heq] at hreports
      generalize hmoved : call.transitioned answer = moved at hreports
      cases hreports with
      | none => exact h.unmoved hmoved
      | reserved intent => exact h.reserved hfresh intent hmoved
      | moved found => exact h.moved found hmoved
    | resolve record =>
      obtain rfl : ledger' = cfg.shared := served
      exact h.unmoved rfl
    | newUuid =>
      obtain rfl : ledger' = cfg.shared := served
      exact h.unmoved rfl
    | utcNow =>
      obtain rfl : ledger' = cfg.shared := served
      exact h.unmoved rfl

theorem Evolves.outbox_prefix {ledger ledger' : InMemoryExecutionLedger}
    (h : Evolves codec ledger ledger') : ledger.outbox <+: ledger'.outbox := by
  cases h with
  | same => exact List.prefix_refl _
  | changed ambient fresh change =>
    cases change with
    | none => exact List.prefix_refl _
    | reserved intent valid absent => exact List.prefix_append _ _
    | moved found move => exact List.prefix_append _ _
  | restarted restart => exact restart.cases.1 ▸ List.prefix_refl _

def FailuresSilent (trace : List (Event InMemoryExecutionLedger ScanCall ScanCall.Answer)) : Prop :=
  ∀ event ∈ trace, refusedBy event = true → event.after.outbox = event.before.outbox

theorem failuresSilent_nil : FailuresSilent [] := by
  intro event hevent
  cases hevent

theorem FailuresSilent.step (h : FailuresSilent cfg.trace)
    (hstep : (system digest codec).Step cfg cfg') : FailuresSilent cfg'.trace := by
  cases hstep with
  | start p starts => exact h
  | internal ledger' moves => exact h
  | advance i call resume answer ledger' suspended served =>
    intro event hevent hrefused
    rcases List.mem_append.mp hevent with hevent | hevent
    · exact h event hevent hrefused
    · obtain rfl := List.mem_singleton.mp hevent
      cases call with
      | ledger call =>
        obtain ⟨ambient, hfresh, heq⟩ := served
        have hfailed := perform_failed cfg.shared ambient digest call
        rw [heq] at hfailed
        exact congrArg (·.outbox) (hfailed hrefused)
      | resolve record => cases hrefused
      | newUuid => cases hrefused
      | utcNow => cases hrefused

/-- The latest event of an execution is its reservation exactly while the record is prepared, and
from then on names its status. -/
theorem InMemoryExecutionLedger.LoggedRecord.latest {ledger : InMemoryExecutionLedger}
    {executionId : ExecutionId} {transitions : List ExecutionStatus} {record : ExecutionRecord}
    (h : LoggedRecord ledger executionId transitions record)
    (hprepared : .prepared ∉ transitions) :
    ∃ event, ledger.latestEvent executionId = some event ∧
      (event.eventType = "EXECUTION_RESERVED" ↔ record.status = .prepared) ∧
      (record.status ≠ .prepared →
        (event.eventType, event.payload) = transitionEntry record.status) := by
  have hlast : (ledger.eventsOf executionId).getLast?.map
      (fun event => (event.eventType, event.payload)) =
      some ((transitions.getLast?.map transitionEntry).getD reservedEntry) := by
    rw [← List.getLast?_map, ← entriesOf, h.entries, List.getLast?_cons, List.getLast?_map]
  obtain ⟨event, hevent, hentry⟩ := Option.map_eq_some_iff.mp hlast
  refine ⟨event, by rw [latestEvent_eq_getLast?, hevent], ?_⟩
  have hstatus := h.status
  cases hlasts : transitions.getLast? with
  | none =>
    rw [hlasts] at hentry hstatus
    have htype : event.eventType = "EXECUTION_RESERVED" := congrArg Prod.fst hentry
    exact ⟨⟨fun _ => hstatus, fun _ => htype⟩, fun hne => absurd hstatus hne⟩
  | some status =>
    rw [hlasts] at hentry hstatus
    obtain rfl : record.status = status := hstatus
    have hne : record.status ≠ .prepared := by
      intro heq
      exact hprepared (heq ▸ List.mem_of_getLast? hlasts)
    have htype : event.eventType ≠ "EXECUTION_RESERVED" := by
      rw [show event.eventType = (transitionEntry record.status).1 from congrArg Prod.fst hentry]
      exact transitionEntry_ne_reserved record.status
    exact ⟨⟨fun h => absurd h htype, fun h => absurd h hne⟩, fun _ => hentry⟩

theorem prepared_not_mem_transitionsOf
    (trace : List (Event InMemoryExecutionLedger ScanCall ScanCall.Answer))
    (executionId : ExecutionId) : .prepared ∉ transitionsOf trace executionId := by
  intro hmem
  obtain ⟨⟨id, status⟩, hmoved, hstatus⟩ := List.mem_map.mp hmem
  obtain ⟨event, -, hevent⟩ := List.mem_filterMap.mp (List.mem_filter.mp hmoved).1
  obtain rfl : status = .prepared := hstatus
  obtain ⟨thread, call, answer, before, after⟩ := event
  have hdone : ∀ (answer : Except LedgerError Unit) fence next, next ≠ .prepared →
      LedgerCall.moved answer fence next ≠ some (id, .prepared) := by
    intro answer fence next hnext h
    cases answer with
    | error e => cases h
    | ok => exact hnext (congrArg Prod.snd (Option.some.inj h))
  cases call with
  | ledger call =>
    cases call with
    | markStarted fence operation => exact hdone answer fence _ (by decide) hevent
    | markSucceeded fence result evidence => exact hdone answer fence _ (by decide) hevent
    | markFailed fence error => exact hdone answer fence _ (by decide) hevent
    | markUnknown fence error => exact hdone answer fence _ (by decide) hevent
    | markManualRecovery fence case => exact hdone answer fence _ (by decide) hevent
    | _ => cases hevent
  | _ => cases hevent

/-- **The outbox tells the history**: in every run no event is taken back, and those of an execution
are its reservation and its successful transitions, in their order. -/
theorem outbox_tells_history (digest : EventDigest) (codec : SnapshotCodec)
    {cfg : Config InMemoryExecutionLedger ScanCall ScanCall.Answer Unit}
    (hreach : (system digest codec).Reachable .default cfg) :
    (∀ cfg', (system digest codec).Steps cfg cfg' → cfg.shared.outbox <+: cfg'.shared.outbox) ∧
    (∀ (executionId : ExecutionId) record, cfg.shared.byExecution[executionId]? = some record →
      cfg.shared.entriesOf executionId =
        ("EXECUTION_RESERVED", Value.null) ::
          (transitionsOf cfg.trace executionId).map transitionEntry ∧
      ∃ event ∈ cfg.shared.outbox, event.executionId = executionId ∧
        (event.eventType = "EXECUTION_RESERVED" ↔ record.status = .prepared) ∧
        (record.status ≠ .prepared →
          (event.eventType, event.payload) = transitionEntry record.status) ∧
        cfg.shared.statusEventFact digest record.intent.tenantId executionId =
          ledgerEventFact digest record.intent.tenantId event ∧
        ((∀ material, (digest material).isSome) →
          ∃ fact, ledgerEventFact digest record.intent.tenantId event = .ok fact ∧
            fact.eventId = event.eventId)) ∧
    (∀ executionId : ExecutionId, cfg.shared.byExecution[executionId]? = none →
      cfg.shared.entriesOf executionId = []) ∧
    (∀ entry ∈ cfg.trace, refusedBy entry = true → entry.after.outbox = entry.before.outbox) := by
  have hlogged : Logged cfg.shared cfg.trace :=
    invariant_of_steps (P := fun c => Logged c.shared c.trace) (fun _ _ h hstep => h.step hstep)
      logged_default hreach
  have hsilent : FailuresSilent cfg.trace :=
    invariant_of_steps (P := fun c => FailuresSilent c.trace) (fun _ _ h hstep => h.step hstep)
      failuresSilent_nil hreach
  refine ⟨?_, ?_, ?_, hsilent⟩
  · intro cfg' hsteps
    exact relates_of_steps (P := fun _ => True)
      (R := fun c c' => c.shared.outbox <+: c'.shared.outbox) (fun _ => List.prefix_refl _)
      (fun _ _ _ => List.IsPrefix.trans)
      (fun _ _ _ hstep => ⟨trivial, Evolves.outbox_prefix (step_evolves hstep)⟩) trivial hsteps
  · intro executionId record hfound
    have hrecord := hlogged.recorded executionId record hfound
    obtain ⟨event, hlatest, htype, hnames⟩ :=
      hrecord.latest (prepared_not_mem_transitionsOf cfg.trace executionId)
    have hmem : event ∈ cfg.shared.eventsOf executionId := by
      rw [latestEvent_eq_getLast?] at hlatest
      exact List.mem_of_getLast? hlatest
    obtain ⟨hevent, hid⟩ := List.mem_filter.mp hmem
    refine ⟨hrecord.entries, event, hevent, by simpa using hid, htype, hnames, ?_, ?_⟩
    · simp [statusEventFact, hfound, hlatest]
    · intro hdigest
      obtain ⟨eventUuid, huuid⟩ := hlogged.eventIds event hevent
      obtain ⟨eventDigest, hsome⟩ := Option.isSome_iff_exists.mp (hdigest _)
      have hfact := statusEventFact_of_latest hfound hlatest huuid hsome
      rw [statusEventFact, hfound] at hfact
      simp only [hlatest, ne_eq, not_true_eq_false, if_false] at hfact
      exact ⟨_, hfact, rfl⟩
  · intro executionId hnone
    rw [entriesOf, (hlogged.unrecorded executionId hnone).1, List.map_nil]

/-- The three calls of the sample run leave three events, the last of them for the loss. -/
theorem outbox_tells_history_sampleLost :
    transitionsOf sampleLost.trace sampleFence.executionId = [.running, .unknown] ∧
    sampleLost.shared.entriesOf sampleFence.executionId =
      ("EXECUTION_RESERVED", Value.null) ::
        [ExecutionStatus.running, .unknown].map transitionEntry := by
  have htransitions : transitionsOf sampleLost.trace sampleFence.executionId =
      [.running, .unknown] := by decide
  have hfound : (sampleLost.shared.byExecution[sampleFence.executionId]?).isSome := by decide
  obtain ⟨record, hrecord⟩ := Option.isSome_iff_exists.mp hfound
  have hentries := ((outbox_tells_history sampleDigest sampleCodec sampleLost_reachable).2.1 _ _
    hrecord).1
  rw [htransitions] at hentries
  exact ⟨htransitions, hentries⟩

end AgentSphere.Ledger
