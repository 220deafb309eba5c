import AgentSphere.Ledger.Model

/-!
# What a ledger call can change

Every call leaves the ledger as it is, stores one new record, or moves one record along one of
the five `mark` transitions. `InMemoryExecutionLedger.perform_change` says so once; each
invariant of the ledger is then a case analysis over `Change` and `Move`.
-/

namespace AgentSphere.Ledger

/-- What a successful `mark` call does to the record it addresses. -/
inductive Move (record : ExecutionRecord) : ExecutionRecord → Prop where
  | started (now : DateTime) (operation : Option String) (source : record.status = .prepared) :
      Move record
        { record with
          status := .running, updatedAt := now
          attempt := (record.attempt + 1) % 2 ^ 32, externalOperationId := operation }
  | succeeded (now : DateTime) (result evidence : String)
      (source : record.status = .running ∨ record.status = .unknown) :
      Move record
        { record with
          status := .succeeded, updatedAt := now
          resultRef := some result, evidenceRef := some evidence }
  | failed (now : DateTime) (error : String)
      (source : record.status = .prepared ∨ record.status = .running) :
      Move record { record with status := .failed, updatedAt := now, lastErrorCode := some error }
  | unknown (now : DateTime) (error : String) (source : record.status = .running) :
      Move record { record with status := .unknown, updatedAt := now, lastErrorCode := some error }
  | manualRecovery (now : DateTime) (case : ManualRecoveryCase)
      (source : record.status = .running ∨ record.status = .unknown ∨
        record.status = .compensationFailed) :
      Move record
        { record with status := .unknown, updatedAt := now, manualRecovery := some case }

namespace Move

variable {record record' : ExecutionRecord}

@[simp] theorem intent_eq (h : Move record record') : record'.intent = record.intent := by
  cases h <;> rfl

@[simp] theorem executionId_eq (h : Move record record') :
    record'.executionId = record.executionId := by
  cases h <;> rfl

@[simp] theorem fenceToken_eq (h : Move record record') :
    record'.fenceToken = record.fenceToken := by
  cases h <;> rfl

@[simp] theorem key_eq (h : Move record record') : record'.key = record.key := by
  rw [ExecutionRecord.key, ExecutionRecord.key, h.intent_eq]

end Move

namespace InMemoryExecutionLedger

inductive Change (ambient : Ambient) (ledger : InMemoryExecutionLedger) :
    InMemoryExecutionLedger → Prop where
  | none : Change ambient ledger ledger
  | reserved (intent : ExecutionIntent) (valid : validateIntent intent = .ok ())
      (absent : ledger.byIdempotency[intent.key]? = none) :
      Change ambient ledger (ledger.insertPrepared ambient intent)
  | moved {executionId : ExecutionId} {record record' : ExecutionRecord}
      (found : ledger.byExecution[executionId]? = some record) (move : Move record record') :
      Change ambient ledger
        (ledger.put executionId record' (transitionEvent ambient executionId record'.status))

variable {ledger : InMemoryExecutionLedger} {ambient : Ambient}

section Frame

variable (ledger ambient) (executionId executionId' : ExecutionId) (record : ExecutionRecord)
  (event : OutboxEvent) (intent : ExecutionIntent)

@[simp] theorem put_byExecution :
    (ledger.put executionId record event).byExecution =
      ledger.byExecution.insert executionId record := rfl

theorem put_getElem?_self :
    (ledger.put executionId record event).byExecution[executionId]? = some record := by
  simp

@[simp] theorem put_byIdempotency :
    (ledger.put executionId record event).byIdempotency = ledger.byIdempotency := rfl

@[simp] theorem put_nextFence :
    (ledger.put executionId record event).nextFence = ledger.nextFence := rfl

@[simp] theorem put_outbox :
    (ledger.put executionId record event).outbox = ledger.outbox ++ [event] := rfl

@[simp] theorem insertPrepared_byExecution :
    (ledger.insertPrepared ambient intent).byExecution =
      ledger.byExecution.insert ambient.executionUuid.toStr
        (ledger.preparedRecord ambient intent) := rfl

@[simp] theorem insertPrepared_byIdempotency :
    (ledger.insertPrepared ambient intent).byIdempotency =
      ledger.byIdempotency.insert intent.key ambient.executionUuid.toStr := rfl

@[simp] theorem insertPrepared_nextFence :
    (ledger.insertPrepared ambient intent).nextFence = (ledger.nextFence + 1) % 2 ^ 64 := rfl

@[simp] theorem preparedRecord_key :
    (ledger.preparedRecord ambient intent).key = intent.key := rfl

end Frame

variable (ledger ambient) in
/-- A `transition` finds its record under the fence in an allowed status and stores the update;
otherwise it fails and changes nothing. -/
theorem transition_cases (fence : ExecutionFence) (allowed : List ExecutionStatus)
    (next : ExecutionStatus) (update : ExecutionRecord → ExecutionRecord) :
    ((∀ record, ledger.byExecution[fence.executionId]? = some record →
        record.intent.tenantId = fence.tenantId → record.fenceToken = fence.token →
        record.status ∉ allowed) ∧
      ∃ e, ledger.transition ambient fence allowed next update = (.error e, ledger)) ∨
    ∃ record, ledger.byExecution[fence.executionId]? = some record ∧
      record.intent.tenantId = fence.tenantId ∧ record.fenceToken = fence.token ∧
      record.status ∈ allowed ∧
      ledger.transition ambient fence allowed next update =
        (.ok (), ledger.put fence.executionId
          (update { record with status := next, updatedAt := ambient.now })
          (transitionEvent ambient fence.executionId next)) := by
  unfold transition
  cases hrec : ledger.byExecution[fence.executionId]? with
  | none => exact .inl ⟨by simp, _, rfl⟩
  | some record =>
    simp only
    split_ifs with hfence hstatus
    · refine .inl ⟨?_, _, rfl⟩
      rintro _ ⟨⟩ htenant htoken
      exact absurd hfence (by simp [htenant, htoken])
    · push Not at hfence
      exact .inr ⟨record, rfl, hfence.1, hfence.2, hstatus, rfl⟩
    · refine .inl ⟨?_, _, rfl⟩
      rintro _ ⟨⟩ - -
      exact hstatus

/-- A `transition` that succeeds has stored its update. -/
theorem transition_ok {fence : ExecutionFence} {allowed : List ExecutionStatus}
    {next : ExecutionStatus} {update : ExecutionRecord → ExecutionRecord}
    {ledger' : InMemoryExecutionLedger}
    (h : ledger.transition ambient fence allowed next update = (.ok (), ledger')) :
    ∃ record, ledger.byExecution[fence.executionId]? = some record ∧ record.status ∈ allowed ∧
      ledger' = ledger.put fence.executionId
        (update { record with status := next, updatedAt := ambient.now })
        (transitionEvent ambient fence.executionId next) := by
  obtain ⟨-, e, heq⟩ | ⟨record, hfound, -, -, hstatus, heq⟩ :=
    transition_cases ledger ambient fence allowed next update
  · exact nomatch heq.symm.trans h
  · exact ⟨record, hfound, hstatus, (Prod.mk.inj (heq.symm.trans h)).2.symm⟩

/-- A `transition` with the right fence goes through. -/
theorem transition_of_fence {fence : ExecutionFence} {allowed : List ExecutionStatus}
    {next : ExecutionStatus} {update : ExecutionRecord → ExecutionRecord}
    {record : ExecutionRecord} (hfound : ledger.byExecution[fence.executionId]? = some record)
    (htenant : record.intent.tenantId = fence.tenantId) (htoken : record.fenceToken = fence.token)
    (hstatus : record.status ∈ allowed) :
    ledger.transition ambient fence allowed next update =
      (.ok (), ledger.put fence.executionId
        (update { record with status := next, updatedAt := ambient.now })
        (transitionEvent ambient fence.executionId next)) := by
  simp [transition, hfound, htenant, htoken, hstatus]

theorem statusEventFact_of_latest {digest : EventDigest} {executionId : ExecutionId}
    {record : ExecutionRecord} {event : OutboxEvent} {eventUuid : Uuid} {eventDigest : String}
    (hfound : ledger.byExecution[executionId]? = some record)
    (hlatest : ledger.latestEvent executionId = some event)
    (huuid : event.eventId = eventUuid.toStr)
    (hdigest : digest
      { schemaVersion := "agenttrust.ledger-event-fact.v1", tenantId := record.intent.tenantId
        eventId := event.eventId, executionId := event.executionId, eventType := event.eventType
        payload := event.payload, createdAt := event.createdAt } = some eventDigest) :
    ledger.statusEventFact digest record.intent.tenantId executionId =
      .ok
        { eventId := event.eventId, eventRef := "ledger-event:" ++ event.eventId
          eventDigest } := by
  have hcanonical : Uuid.parseStr event.eventId = some eventUuid := by
    rw [huuid, Uuid.parseStr_toStr]
  simp [statusEventFact, hfound, hlatest, ledgerEventFact, hcanonical, huuid.symm, hdigest]

/-- A `transition` that fails has changed nothing. -/
theorem transition_error {fence : ExecutionFence} {allowed : List ExecutionStatus}
    {next : ExecutionStatus} {update : ExecutionRecord → ExecutionRecord} {e : LedgerError}
    {ledger' : InMemoryExecutionLedger}
    (h : ledger.transition ambient fence allowed next update = (.error e, ledger')) :
    ledger' = ledger := by
  obtain ⟨-, e', heq⟩ | ⟨record, -, -, -, -, heq⟩ :=
    transition_cases ledger ambient fence allowed next update
  · exact (Prod.mk.inj (heq.symm.trans h)).2.symm
  · exact nomatch heq.symm.trans h

/-- A `transition` is a change when the update it makes is a move. -/
theorem transition_change {fence : ExecutionFence} {allowed : List ExecutionStatus}
    {next : ExecutionStatus} {update : ExecutionRecord → ExecutionRecord}
    (hnext : ∀ record, (update record).status = record.status)
    (hmove : ∀ record, record.status ∈ allowed →
      Move record (update { record with status := next, updatedAt := ambient.now })) :
    Change ambient ledger (ledger.transition ambient fence allowed next update).2 := by
  obtain ⟨-, e, heq⟩ | ⟨record, hfound, -, -, hstatus, heq⟩ :=
    transition_cases ledger ambient fence allowed next update
  · rw [heq]
    exact .none
  · rw [heq]
    have hchange : Change ambient ledger _ := .moved hfound (hmove record hstatus)
    rwa [hnext] at hchange

variable (ledger ambient) in
/-- `reserve` answers for the stored record, refuses, or stores a new one. -/
theorem reserve_cases (intent : ExecutionIntent) :
    (∃ e, ledger.reserve ambient intent = (.error e, ledger)) ∨
    (∃ executionId record, validateIntent intent = .ok () ∧
      ledger.byIdempotency[intent.key]? = some executionId ∧
      ledger.byExecution[executionId]? = some record ∧
      record.intent.actionHash = intent.actionHash ∧
      ledger.reserve ambient intent = (.ok (reservationOf executionId record true), ledger)) ∨
    (validateIntent intent = .ok () ∧ ledger.byIdempotency[intent.key]? = none ∧
      ledger.reserve ambient intent =
        (.ok (reservationOf ambient.executionUuid.toStr
            (ledger.preparedRecord ambient intent) false),
          ledger.insertPrepared ambient intent)) := by
  unfold reserve
  cases hvalid : validateIntent intent with
  | error e => exact .inl ⟨e, rfl⟩
  | ok =>
    cases hkey : ledger.byIdempotency[intent.key]? with
    | none => exact .inr (.inr ⟨rfl, rfl, rfl⟩)
    | some executionId =>
      cases hrec : ledger.byExecution[executionId]? with
      | none => exact .inl ⟨.storeFailure, by simp [hrec]⟩
      | some record =>
        by_cases hhash : record.intent.actionHash = intent.actionHash
        · exact .inr (.inl ⟨executionId, record, rfl, rfl, hrec, hhash, by simp [hrec, hhash]⟩)
        · exact .inl ⟨.idempotencyConflict, by simp [hrec, hhash]⟩

variable (ledger ambient) in
theorem transition_byIdempotency (fence : ExecutionFence) (allowed : List ExecutionStatus)
    (next : ExecutionStatus) (update : ExecutionRecord → ExecutionRecord) :
    (ledger.transition ambient fence allowed next update).2.byIdempotency =
      ledger.byIdempotency := by
  obtain ⟨-, e, heq⟩ | ⟨record, -, -, -, -, heq⟩ :=
    transition_cases ledger ambient fence allowed next update
  · rw [heq]
  · rw [heq, put_byIdempotency]

variable (ledger ambient) in
/-- Only `reserve` touches the idempotency index. -/
theorem perform_byIdempotency (digest : EventDigest) {call : LedgerCall}
    (hcall : ∀ intent, call ≠ .reserve intent) :
    (ledger.perform ambient digest call).2.byIdempotency = ledger.byIdempotency := by
  cases call with
  | reserve intent => exact absurd rfl (hcall intent)
  | markStarted => exact transition_byIdempotency ..
  | markSucceeded => exact transition_byIdempotency ..
  | markFailed => exact transition_byIdempotency ..
  | markUnknown => exact transition_byIdempotency ..
  | markManualRecovery => exact transition_byIdempotency ..
  | get => rfl
  | statusEventFact => rfl
  | staleNonTerminal => rfl

variable (ledger ambient) in
/-- **Inversion**: one call makes one change. -/
theorem perform_change (digest : EventDigest) (call : LedgerCall) :
    Change ambient ledger (ledger.perform ambient digest call).2 := by
  cases call with
  | reserve intent =>
    obtain ⟨e, heq⟩ | ⟨_, _, _, _, _, _, heq⟩ | ⟨hvalid, habsent, heq⟩ :=
      reserve_cases ledger ambient intent
    · simp only [perform, heq]
      exact .none
    · simp only [perform, heq]
      exact .none
    · simp only [perform, heq]
      exact .reserved intent hvalid habsent
  | markStarted fence operation =>
    exact transition_change (fun _ => rfl) fun record h => .started _ _ (by simpa using h)
  | markSucceeded fence result evidence =>
    exact transition_change (fun _ => rfl) fun record h => .succeeded _ _ _ (by simpa using h)
  | markFailed fence error =>
    exact transition_change (fun _ => rfl) fun record h => .failed _ _ (by simpa using h)
  | markUnknown fence error =>
    exact transition_change (fun _ => rfl) fun record h => .unknown _ _ (by simpa using h)
  | markManualRecovery fence case =>
    exact transition_change (fun _ => rfl) fun record h => .manualRecovery _ _ (by simpa using h)
  | get => exact .none
  | statusEventFact => exact .none
  | staleNonTerminal => exact .none

end InMemoryExecutionLedger

end AgentSphere.Ledger
