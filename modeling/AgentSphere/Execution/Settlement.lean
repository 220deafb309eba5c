import AgentSphere.Execution.AtMostOnce

/-!
# What an execution leaves behind

An execution that makes a new reservation and is alone on its record leaves the record in the
one status that is true: succeeded exactly with a verified result and verified evidence of it,
unknown whenever the tool proxy answered anything else but a denial, and never running.
-/

namespace AgentSphere.Execution

open Concurrency Ledger

-- What one thread writes to a record

abbrev Reading := ExecutionStatus × Option String × Option String

def reading (ledger : InMemoryExecutionLedger) (executionId : ExecutionId) : Option Reading :=
  ledger.byExecution[executionId]?.map fun record =>
    (record.status, record.resultRef, record.evidenceRef)

def write (executionId : ExecutionId) (before : Option Reading) : ExecutionEntry → Option Reading
  | ⟨.ledger (.reserve _), .ok reservation⟩ =>
    if reservation.executionId = executionId ∧ reservation.existing = false then
      some (.prepared, none, none)
    else before
  | ⟨.ledger (.markStarted fence _), .ok _⟩ =>
    if fence.executionId = executionId then before.map fun r => (.running, r.2) else before
  | ⟨.ledger (.markSucceeded fence resultRef evidenceRef), .ok _⟩ =>
    if fence.executionId = executionId then
      before.map fun _ => (.succeeded, some resultRef, some evidenceRef)
    else before
  | ⟨.ledger (.markFailed fence _), .ok _⟩ =>
    if fence.executionId = executionId then before.map fun r => (.failed, r.2) else before
  | ⟨.ledger (.markUnknown fence _), .ok _⟩ =>
    if fence.executionId = executionId then before.map fun r => (.unknown, r.2) else before
  | ⟨.ledger (.markManualRecovery fence _), .ok _⟩ =>
    if fence.executionId = executionId then before.map fun r => (.unknown, r.2) else before
  | _ => before

def written (executionId : ExecutionId) (entries : List ExecutionEntry) : Option Reading :=
  entries.foldl (write executionId) none

theorem foldl_write_effects (executionId : ExecutionId) (entries : List ExecutionEntry)
    (before : Option Reading) :
    (effects entries).foldl (write executionId) before =
      entries.foldl (write executionId) before := by
  induction entries generalizing before with
  | nil => rfl
  | cons entry rest ih =>
    obtain ⟨call, answer⟩ := entry
    by_cases heffect : isEffect call = true
    · rw [effects_cons, if_pos heffect, List.foldl_cons, List.foldl_cons]
      exact ih _
    · have hsame : write executionId before ⟨call, answer⟩ = before := by
        cases call with
        | ledger ledgerCall => cases ledgerCall <;> first | rfl | exact absurd rfl heffect
        | _ => rfl
      rw [effects_cons, if_neg heffect, List.foldl_cons, hsame]
      exact ih _

section Serve

variable {ledger ledger' : InMemoryExecutionLedger} {digest : EventDigest} {ambient : Ambient}
  {executionId : ExecutionId}

/-- A successful `transition` writes its status to its record and to no other. -/
theorem reading_put {fence : ExecutionFence} {record record' : ExecutionRecord}
    {event : OutboxEvent} (hfound : ledger.byExecution[fence.executionId]? = some record) :
    reading (ledger.put fence.executionId record' event) executionId =
      if fence.executionId = executionId then
        (reading ledger executionId).map fun _ =>
          (record'.status, record'.resultRef, record'.evidenceRef)
      else reading ledger executionId := by
  by_cases hid : fence.executionId = executionId
  · subst hid
    simp [reading, hfound]
  · simp [reading, hid]

theorem reading_of_found {record : ExecutionRecord}
    (hfound : ledger.byExecution[executionId]? = some record) :
    reading ledger executionId = some (record.status, record.resultRef, record.evidenceRef) := by
  simp [reading, hfound]

/-- A `mark` call writes what it says. -/
theorem reading_transition {fence : ExecutionFence} {allowed : List ExecutionStatus}
    {next : ExecutionStatus} {update : ExecutionRecord → ExecutionRecord}
    {answer : Except LedgerError Unit} {f : Reading → Reading}
    (h : ledger.transition ambient fence allowed next update = (answer, ledger'))
    (hupdate : ∀ record : ExecutionRecord, f (record.status, record.resultRef, record.evidenceRef) =
      ((update { record with status := next, updatedAt := ambient.now }).status,
        (update { record with status := next, updatedAt := ambient.now }).resultRef,
        (update { record with status := next, updatedAt := ambient.now }).evidenceRef)) :
    reading ledger' executionId =
      match answer with
      | .ok _ =>
        if fence.executionId = executionId then (reading ledger executionId).map f
        else reading ledger executionId
      | .error _ => reading ledger executionId := by
  cases answer with
  | error e =>
    obtain rfl := InMemoryExecutionLedger.transition_error h
    rfl
  | ok _ =>
    obtain ⟨record, hfound, -, rfl⟩ := InMemoryExecutionLedger.transition_ok h
    simp only [reading_put hfound]
    by_cases hid : fence.executionId = executionId
    · subst hid
      simp only [if_true, reading_of_found hfound, Option.map_some, hupdate]
    · simp only [if_neg hid]

theorem reading_reserve {intent : ExecutionIntent} {answer : Except LedgerError Reservation}
    (h : ledger.reserve ambient intent = (answer, ledger')) :
    reading ledger' executionId =
      write executionId (reading ledger executionId) ⟨.ledger (.reserve intent), answer⟩ := by
  obtain ⟨e, hcase⟩ | ⟨id, record, -, -, -, -, hcase⟩ | ⟨-, -, hcase⟩ :=
    InMemoryExecutionLedger.reserve_cases ledger ambient intent
  · obtain ⟨rfl, rfl⟩ := Prod.mk.inj (hcase.symm.trans h)
    rfl
  · obtain ⟨rfl, rfl⟩ := Prod.mk.inj (hcase.symm.trans h)
    exact (if_neg fun hnew => nomatch hnew.2).symm
  · obtain ⟨rfl, rfl⟩ := Prod.mk.inj (hcase.symm.trans h)
    by_cases hid : ambient.executionUuid.toStr = executionId
    · refine Eq.trans ?_ (if_pos ⟨hid, rfl⟩).symm
      simp [reading, hid, InMemoryExecutionLedger.preparedRecord]
    · refine Eq.trans ?_ (if_neg fun hnew => hid hnew.1).symm
      simp [reading, hid]

/-- **Step lemma**: a served call writes what its entry says. -/
theorem reading_serve {call : ExecutionCall} {answer : call.Answer}
    (h : serve digest ledger call answer ledger') :
    reading ledger' executionId =
      write executionId (reading ledger executionId) ⟨call, answer⟩ := by
  cases call with
  | ledger call =>
    obtain ⟨ambient, -, heq⟩ := h
    cases call with
    | reserve intent => exact reading_reserve heq
    | markStarted fence operation =>
      rw [InMemoryExecutionLedger.perform, InMemoryExecutionLedger.markStarted] at heq
      rw [reading_transition (f := fun r => (.running, r.2)) heq fun _ => rfl]
      cases answer <;> rfl
    | markSucceeded fence resultRef evidenceRef =>
      rw [InMemoryExecutionLedger.perform, InMemoryExecutionLedger.markSucceeded] at heq
      rw [reading_transition (f := fun _ => (.succeeded, some resultRef, some evidenceRef)) heq
        fun _ => rfl]
      cases answer <;> rfl
    | markFailed fence errorCode =>
      rw [InMemoryExecutionLedger.perform, InMemoryExecutionLedger.markFailed] at heq
      rw [reading_transition (f := fun r => (.failed, r.2)) heq fun _ => rfl]
      cases answer <;> rfl
    | markUnknown fence errorCode =>
      rw [InMemoryExecutionLedger.perform, InMemoryExecutionLedger.markUnknown] at heq
      rw [reading_transition (f := fun r => (.unknown, r.2)) heq fun _ => rfl]
      cases answer <;> rfl
    | markManualRecovery fence case =>
      rw [InMemoryExecutionLedger.perform, InMemoryExecutionLedger.markManualRecovery] at heq
      rw [reading_transition (f := fun r => (.unknown, r.2)) heq fun _ => rfl]
      cases answer <;> rfl
    | get tenantId id =>
      obtain ⟨-, rfl⟩ := Prod.mk.inj heq
      rfl
    | statusEventFact tenantId id =>
      obtain ⟨-, rfl⟩ := Prod.mk.inj heq
      rfl
    | staleNonTerminal tenantId before =>
      obtain ⟨-, rfl⟩ := Prod.mk.inj heq
      rfl
  | _ =>
    obtain rfl := serve_other (by simp) h
    rfl

end Serve

/-- **Run lemma**: a record that no other thread touches holds what its thread has written. -/
theorem reading_eq_written {coordinator : ExecutionCoordinator} {cfg : ExecutionConfig}
    (hreach : (system coordinator).Reachable .default cfg) {i : Nat} {executionId : ExecutionId}
    (halone : ∀ event ∈ cfg.trace, event.thread ≠ i →
      event.after.byExecution[executionId]? = event.before.byExecution[executionId]?) :
    reading cfg.shared executionId = written executionId (history i cfg.trace) := by
  refine (hreach.always (I := fun ledger trace => (∀ event ∈ trace, event.thread ≠ i →
      event.after.byExecution[executionId]? = event.before.byExecution[executionId]?) →
      reading ledger executionId = written executionId (history i trace)) ?_ ?_ ?_).1 halone
  · intro ledger trace j call answer ledger' hinv hserve halone
    have hbefore := hinv fun event hevent => halone event (List.mem_append_left _ hevent)
    rw [history_snoc]
    by_cases hthread : j = i
    · rw [if_pos hthread, written, List.foldl_append, ← written, ← hbefore]
      exact reading_serve hserve
    · have hsame : ledger'.byExecution[executionId]? = ledger.byExecution[executionId]? :=
        halone ⟨j, call, answer, ledger, ledger'⟩ (by simp) hthread
      rw [if_neg hthread, ← hbefore, reading, reading, hsame]
  · rintro _ _ _ _ ⟨⟩
  · intro _
    simp [reading, written, InMemoryExecutionLedger.default]

-- What each course writes

def ledgerSucceeded : (call : LedgerCall) → call.Answer → Bool
  | .reserve _, answer => answer.isOk
  | .markStarted .., answer | .markSucceeded .., answer | .markFailed .., answer
  | .markUnknown .., answer | .markManualRecovery .., answer => answer.isOk
  | .get .., answer => answer.isOk
  | .statusEventFact .., answer => answer.isOk
  | .staleNonTerminal .., answer => answer.isOk

def LedgerOk : ExecutionEntry → Prop
  | ⟨.ledger call, answer⟩ => ledgerSucceeded call answer = true
  | _ => True

/-- The history holds a result that hashes to its own hash, a receipt that the credential of
its authorization was consumed, and evidence of exactly that execution, authorization, fence
and result that was validated and verified. -/
structure Proven (coordinator : ExecutionCoordinator) (entries : List ExecutionEntry)
    (reservation : Reservation) (result : SanitizedToolResult)
    (evidence : ExecutionEvidenceReceipt) : Prop where
  acted : ∃ request idempotencyKey fenceDigest evidenceRequest,
    ⟨.toolExecute request idempotencyKey fenceDigest, .ok result⟩ ∈ entries ∧
    coordinator.codec.digest (.value result.value) = .ok result.resultHash ∧
    consumptionMatches result.credentialConsumptionReceipt request.authorization
      request.tenantId request.authorization.actionHash = true ∧
    ⟨.appendEvidence evidenceRequest, .ok evidence⟩ ∈ entries ∧
    evidenceRequest.executionId = reservation.executionId ∧
    evidenceRequest.authorizationId = request.authorization.authorizationId ∧
    coordinator.codec.digest (.authorization request.authorization) =
      .ok evidenceRequest.authorizationDigest ∧
    coordinator.codec.digest (.fence reservation.fence) = .ok evidenceRequest.fenceDigest ∧
    evidenceRequest.result = result ∧
    validateEvidence coordinator.codec evidence evidenceRequest = .ok ()
  confirmed : ⟨.verifyEvidence evidence, .ok ()⟩ ∈ entries

def acted : ExecutionEntry → Bool
  | ⟨.toolExecute .., .error .authorizationDenied⟩ => false
  | ⟨.toolExecute .., _⟩ => true
  | _ => false

def verified : ExecutionEntry → Bool
  | ⟨.verifyEvidence _, .ok _⟩ => true
  | _ => false

theorem acted_of_ne {request : AuthorizedToolRequest} {key fenceDigest : String}
    {answer : Except ExecutionError SanitizedToolResult}
    (h : answer ≠ .error .authorizationDenied) :
    acted ⟨.toolExecute request key fenceDigest, answer⟩ = true := by
  cases answer with
  | ok result => rfl
  | error e =>
    cases e with
    | authorizationDenied => exact absurd rfl h
    | _ => rfl

theorem any_effects {f : ExecutionEntry → Bool}
    (hf : ∀ entry, f entry = true → isEffect entry.1 = true) (entries : List ExecutionEntry) :
    (effects entries).any f = entries.any f := by
  rw [Bool.eq_iff_iff, List.any_eq_true, List.any_eq_true]
  constructor
  · rintro ⟨entry, hmem, hentry⟩
    exact ⟨entry, List.mem_of_mem_filter hmem, hentry⟩
  · rintro ⟨entry, hmem, hentry⟩
    exact ⟨entry, mem_effects hmem (hf entry hentry), hentry⟩

theorem isEffect_of_acted (entry : ExecutionEntry) (h : acted entry = true) :
    isEffect entry.1 = true := by
  obtain ⟨call, answer⟩ := entry
  cases call with
  | toolExecute request idempotencyKey fenceDigest => rfl
  | _ => cases h

theorem isEffect_of_verified (entry : ExecutionEntry) (h : verified entry = true) :
    isEffect entry.1 = true := by
  obtain ⟨call, answer⟩ := entry
  cases call with
  | verifyEvidence receipt => rfl
  | _ => cases h

theorem Proven.any_verified {coordinator : ExecutionCoordinator} {entries : List ExecutionEntry}
    {reservation : Reservation} {result : SanitizedToolResult}
    {evidence : ExecutionEvidenceReceipt}
    (h : Proven coordinator entries reservation result evidence) : entries.any verified = true :=
  List.any_eq_true.mpr ⟨_, h.confirmed, rfl⟩

inductive Settled (coordinator : ExecutionCoordinator) (entries : List ExecutionEntry)
    (reservation : Reservation) : Option Reading → Prop where
  | unacted (status : ExecutionStatus) (settled : status = .prepared ∨ status = .failed)
      (unacted : entries.any acted = false) (unverified : entries.any verified = false) :
      Settled coordinator entries reservation (some (status, none, none))
  | unknown (unverified : entries.any verified = false) :
      Settled coordinator entries reservation (some (.unknown, none, none))
  | succeeded (result : SanitizedToolResult) (evidence : ExecutionEvidenceReceipt)
      (proven : Proven coordinator entries reservation result evidence)
      (only : ∀ result' evidence', Proven coordinator entries reservation result' evidence' →
        result' = result ∧ evidence' = evidence) :
      Settled coordinator entries reservation
        (some (.succeeded, some result.resultHash, some evidence.evidenceRef))

section Courses

variable {coordinator : ExecutionCoordinator} {entries : List ExecutionEntry}
  {intent : ExecutionIntent} {reservation : Reservation}

theorem mem_of_effects {entry : ExecutionEntry} {list : List ExecutionEntry}
    (heffects : effects entries = list) (hmem : entry ∈ entries)
    (heffect : isEffect entry.1 = true) : entry ∈ list := by
  rw [← heffects]
  exact mem_effects hmem heffect

theorem ok_of_effects {list : List ExecutionEntry} (hok : ∀ entry ∈ entries, LedgerOk entry)
    (heffects : effects entries = list) (call : LedgerCall) (answer : call.Answer)
    (hmem : ⟨.ledger call, answer⟩ ∈ list) : ledgerSucceeded call answer = true := by
  rw [← heffects] at hmem
  exact hok _ (List.mem_of_mem_filter hmem)

section Before

variable {reserved : Reserved} {before : List ExecutionEntry}

theorem Failing.reservation_eq (h : Failing reserved before)
    (hmem : ⟨.ledger (.reserve intent), .ok reservation⟩ ∈ before) :
    reservation = reserved.reservation := by
  have hboth : intent = reserved.intent ∧ reservation = reserved.reservation := by
    cases h <;> simpa using hmem
  exact hboth.2

theorem Uncertain.reservation_eq (h : Uncertain reserved before)
    (hmem : ⟨.ledger (.reserve intent), .ok reservation⟩ ∈ before) :
    reservation = reserved.reservation := by
  have hboth : intent = reserved.intent ∧ reservation = reserved.reservation := by
    cases h <;> simpa using hmem
  exact hboth.2

theorem Failing.reading (h : Failing reserved before)
    (hfirst : reserved.reservation.existing = false)
    (hfence : reserved.fence.executionId = reserved.reservation.executionId) :
    ∃ status, before.foldl (write reserved.reservation.executionId) none =
      some (status, none, none) := by
  cases h <;> simp [write, hfirst, hfence]

theorem Uncertain.reading (h : Uncertain reserved before)
    (hfirst : reserved.reservation.existing = false)
    (hfence : reserved.fence.executionId = reserved.reservation.executionId) :
    before.foldl (write reserved.reservation.executionId) none = some (.running, none, none) := by
  cases h <;> simp [write, hfirst, hfence]

end Before

theorem toolResultValid_ok {codec : Codec} {result : SanitizedToolResult}
    {authorization : ExecutionAuthorization} {tenantId : TenantId} {actionHash : ActionHash}
    (h : toolResultValid codec result authorization tenantId actionHash = .ok true) :
    codec.digest (.value result.value) = .ok result.resultHash ∧
      consumptionMatches result.credentialConsumptionReceipt authorization tenantId actionHash =
        true := by
  unfold toolResultValid at h
  split_ifs at h with hshape
  · cases h
  · cases hvalue : codec.digest (.value result.value) with
    | error e =>
      rw [hvalue] at h
      cases h
    | ok valueHash =>
      rw [hvalue] at h
      obtain ⟨hhash, hconsumed⟩ : valueHash = result.resultHash ∧ _ := by
        simpa [Except.map] using h
      exact ⟨by rw [hhash], hconsumed⟩

/-- **Courses**: if the ledger never fails and every value has a canonical form, the course of
an execution decides what it leaves. -/
theorem Course.settled (hcourse : Course coordinator (effects entries))
    (htotal : coordinator.codec.Total) (hok : ∀ entry ∈ entries, LedgerOk entry)
    (hnew : ⟨.ledger (.reserve intent), .ok reservation⟩ ∈ entries)
    (hfirst : reservation.existing = false)
    (hfence : reservation.fence.executionId = reservation.executionId) :
    Settled coordinator entries reservation (written reservation.executionId entries) := by
  have hnew := mem_effects hnew rfl
  have hacted := any_effects isEffect_of_acted entries
  have hverified := any_effects isEffect_of_verified entries
  rw [written, ← foldl_write_effects]
  generalize heffects : effects entries = list at hcourse hnew hacted hverified ⊢
  cases hcourse with
  | unreserved => cases hnew
  | refused intent e =>
    cases List.mem_singleton.mp hnew
  | left reserved =>
    obtain ⟨rfl, rfl⟩ : _ ∧ reservation = reserved.reservation := by simpa using hnew
    simp only [List.foldl_cons, List.foldl_nil, write, hfirst, and_self, if_true]
    exact .unacted _ (.inl rfl) hacted.symm hverified.symm
  | outrun reserved e =>
    cases ok_of_effects hok heffects (.markStarted reserved.fence none) (.error e) (by simp)
  | @failed reserved before failing code answer =>
    have hbefore : ⟨.ledger (.reserve intent), .ok reservation⟩ ∈ before := by simpa using hnew
    obtain rfl := failing.reservation_eq hbefore
    obtain ⟨status, hstatus⟩ := failing.reading hfirst hfence
    cases answer with
    | error e =>
      cases ok_of_effects hok heffects (.markFailed reserved.fence code) (.error e) (by simp)
    | ok _ =>
      rw [List.foldl_append, hstatus, List.foldl_cons, List.foldl_nil]
      simp only [write, hfence, if_true, Option.map_some]
      refine .unacted _ (.inr rfl) (hacted.symm.trans ?_) (hverified.symm.trans ?_)
      · cases failing <;> rfl
      · cases failing <;> rfl
  | @unknown reserved before uncertain code answer =>
    have hbefore : ⟨.ledger (.reserve intent), .ok reservation⟩ ∈ before := by simpa using hnew
    obtain rfl := uncertain.reservation_eq hbefore
    have hrunning := uncertain.reading hfirst hfence
    cases answer with
    | error e =>
      cases ok_of_effects hok heffects (.markUnknown reserved.fence code) (.error e) (by simp)
    | ok _ =>
      rw [List.foldl_append, hrunning, List.foldl_cons, List.foldl_nil]
      simp only [write, hfence, if_true, Option.map_some]
      refine .unknown (hverified.symm.trans ?_)
      cases uncertain <;> rfl
  | succeeded reserved ledgerEvent authorized result authorizationDigest occurredAt evidence answer
      fenced accepted digest valid proven =>
    obtain ⟨rfl, rfl⟩ : _ ∧ reservation = reserved.reservation := by simpa using hnew
    cases answer with
    | error e =>
      cases ok_of_effects hok heffects (.markSucceeded reserved.fence result.resultHash
        evidence.evidenceRef) (.error e) (by simp)
    | ok _ =>
      simp only [List.foldl_cons, List.foldl_nil, write, hfirst, hfence, and_self, if_true,
        Option.map_some]
      have hmem : ∀ entry, entry ∈ effects entries → entry ∈ entries := fun entry hentry =>
        List.mem_of_mem_filter hentry
      rw [heffects] at hmem
      have htool := hmem (toolEntry reserved ledgerEvent authorized (.ok result)) (by simp)
      have happend := hmem ⟨.appendEvidence (coordinator.evidenceRequestFor reserved
        authorized.authorization authorizationDigest result occurredAt), .ok evidence⟩ (by simp)
      have hverify := hmem ⟨.verifyEvidence evidence, .ok ()⟩ (by simp)
      obtain ⟨hvalue, hconsumed⟩ := toolResultValid_ok valid
      rw [← accepted] at hconsumed
      refine .succeeded result evidence ⟨⟨_, _, _, _, htool, hvalue, hconsumed, happend, rfl, rfl,
        digest, fenced, rfl, proven⟩, hverify⟩ ?_
      intro result' evidence' hproven
      obtain ⟨request, key, fenceDigest, -, hacted', -⟩ := hproven.acted
      have hresult : result' = result := by
        have hmem' := mem_of_effects heffects hacted' rfl
        simp only [List.mem_cons, List.not_mem_nil, or_false, reduceCtorEq, Sigma.mk.injEq,
          ExecutionCall.toolExecute.injEq, false_and, false_or] at hmem'
        exact Except.ok.inj (eq_of_heq hmem'.2)
      have hevidence : evidence' = evidence := by
        simpa using mem_of_effects heffects hproven.confirmed rfl
      exact ⟨hresult, hevidence⟩
  | uncanonical reserved ledgerEvent authorized result partially => exact absurd htotal partially

end Courses

-- When the execution returns

/-- **Settlement**: an execution that made a new reservation, was alone on its record and met no
failing ledger operation leaves the record in the status that is true. -/
theorem settled_truthfully {coordinator : ExecutionCoordinator} {cfg : ExecutionConfig}
    (htotal : coordinator.codec.Total) (hreach : (system coordinator).Reachable .default cfg)
    {i : Nat} {result : Except ExecutionError ExecutionOutcome}
    (hdone : cfg.threads[i]? = some (.done (some result)))
    {intent : ExecutionIntent} {reservation : Reservation}
    (hnew : ⟨.ledger (.reserve intent), .ok reservation⟩ ∈ history i cfg.trace)
    (hfirst : reservation.existing = false)
    (halone : ∀ event ∈ cfg.trace, event.thread ≠ i →
      event.after.byExecution[reservation.executionId]? =
        event.before.byExecution[reservation.executionId]?)
    (hledger : ∀ entry ∈ history i cfg.trace, LedgerOk entry) :
    ∃ record, cfg.shared.byExecution[reservation.executionId]? = some record ∧
      record.status ≠ .running ∧
      (record.status = .succeeded ↔
        ∃ toolResult evidence,
          Proven coordinator (history i cfg.trace) reservation toolResult evidence) ∧
      (∀ toolResult evidence,
        Proven coordinator (history i cfg.trace) reservation toolResult evidence →
          record.resultRef = some toolResult.resultHash ∧
            record.evidenceRef = some evidence.evidenceRef) ∧
      (∀ request key fenceDigest answer,
        ⟨.toolExecute request key fenceDigest, answer⟩ ∈ history i cfg.trace →
        answer ≠ .error .authorizationDenied →
        (¬ ∃ toolResult evidence,
          Proven coordinator (history i cfg.trace) reservation toolResult evidence) →
        record.status = .unknown) ∧
      ∀ before request key fenceDigest answer after,
        history i cfg.trace = before ++ ⟨.toolExecute request key fenceDigest, answer⟩ :: after →
        ∃ reserved ledgerEvent authorized,
          Licensed coordinator reserved ledgerEvent authorized before ∧
          .toolExecute request key fenceDigest = toolCall reserved ledgerEvent authorized := by
  obtain ⟨p, hcaller, hresumes⟩ := hreach.resumes.2 i _ hdone
  obtain ⟨event, hevent, -, hentry⟩ := mem_history.mp hnew
  have hfence := ((traced_always hreach).1.reserved event hevent intent reservation hentry).2
  have hsettled := (hcaller.ended hresumes).1.settled htotal hledger hnew hfirst hfence
  rw [← reading_eq_written hreach halone] at hsettled
  generalize hread : reading cfg.shared reservation.executionId = read at hsettled
  have hlicensed : ∀ before request key fenceDigest answer after,
      history i cfg.trace = before ++ ⟨.toolExecute request key fenceDigest, answer⟩ :: after →
      ∃ reserved ledgerEvent authorized,
        Licensed coordinator reserved ledgerEvent authorized before ∧
        .toolExecute request key fenceDigest = toolCall reserved ledgerEvent authorized := by
    intro before request key fenceDigest answer after hhistory
    rw [hhistory] at hresumes
    obtain ⟨resume, hwaiting, -⟩ := hresumes.split
    exact hcaller.licensed hwaiting
  have hunproven : (history i cfg.trace).any verified = false →
      ¬ ∃ toolResult evidence,
        Proven coordinator (history i cfg.trace) reservation toolResult evidence := by
    rintro hunverified ⟨toolResult, evidence, hproven⟩
    exact nomatch hunverified.symm.trans hproven.any_verified
  cases hsettled with
  | unacted status settled unacted unverified =>
    obtain ⟨record, hfound, hrecord⟩ := Option.map_eq_some_iff.mp hread
    obtain ⟨rfl, -⟩ := Prod.mk.inj hrecord
    have hnone := hunproven unverified
    refine ⟨record, hfound, ?_, ?_, ?_, ?_, hlicensed⟩
    · rcases settled with h | h <;> simp [h]
    · rcases settled with h | h <;> simp [h, hnone]
    · exact fun toolResult evidence hproven => absurd ⟨toolResult, evidence, hproven⟩ hnone
    · intro request key fenceDigest answer hmem hanswer _
      have hacted : (history i cfg.trace).any acted = true :=
        List.any_eq_true.mpr ⟨_, hmem, acted_of_ne hanswer⟩
      exact nomatch hacted.symm.trans unacted
  | unknown unverified =>
    obtain ⟨record, hfound, hrecord⟩ := Option.map_eq_some_iff.mp hread
    obtain ⟨hstatus, -⟩ := Prod.mk.inj hrecord
    have hnone := hunproven unverified
    refine ⟨record, hfound, by simp [hstatus], by simp [hstatus, hnone], ?_, ?_, hlicensed⟩
    · exact fun toolResult evidence hproven => absurd ⟨toolResult, evidence, hproven⟩ hnone
    · exact fun _ _ _ _ _ _ _ => hstatus
  | succeeded toolResult evidence proven only =>
    obtain ⟨record, hfound, hrecord⟩ := Option.map_eq_some_iff.mp hread
    obtain ⟨hstatus, hrefs⟩ := Prod.mk.inj hrecord
    obtain ⟨hresultRef, hevidenceRef⟩ := Prod.mk.inj hrefs
    have hsome : ∃ toolResult evidence,
        Proven coordinator (history i cfg.trace) reservation toolResult evidence :=
      ⟨toolResult, evidence, proven⟩
    refine ⟨record, hfound, by simp [hstatus], by simp [hstatus, hsome], ?_, ?_, hlicensed⟩
    · intro toolResult' evidence' hproven
      obtain ⟨rfl, rfl⟩ := only toolResult' evidence' hproven
      exact ⟨hresultRef, hevidenceRef⟩
    · exact fun _ _ _ _ _ _ hnone => absurd hsome hnone

-- The sample execution to its end

def sampleResult : SanitizedToolResult where
  schemaVersion := proxySchemaVersion
  value := .object [("passed", .number ⟨"12"⟩)]
  artifactRef := none
  redactedPaths := []
  untrustedContent := false
  resultHash := "0a5b35adfe39f04ecb860bd74d534eb3b9be941ade1dd025c59fb204a62b3d1f"
  credentialConsumptionReceipt :=
    { schemaVersion := "agenttrust.credential-consumption-receipt.v1"
      idempotencyKey := "credential-consume:" ++ (sampleUuid 6).toStr
      consumptionId := (sampleUuid 8).toStr, credentialId := (sampleUuid 7).toStr
      tenantId := (sampleUuid 1).toStr, actionHash := sampleActionHash, audience := "tool-proxy"
      revocationEpoch := 0, claimsDigest := sampleClaimsDigest, scopeDigest := sampleHash 'b'
      consumedAt := 9, remainingUses := 0, issuer := "broker", keyId := "broker-1"
      keyUsage := "WORKLOAD_CREDENTIAL_CONSUMPTION", signature := "c2ln" }

def sampleEvidenceRequest : ExecutionEvidenceRequest :=
  sampleCoordinator.evidenceRequestFor sampleClearance.reserved sampleAuthorized.authorization
    sampleClearance.authorizationDigest sampleResult 10

def sampleEvidence : ExecutionEvidenceReceipt where
  schemaVersion := "agenttrust.execution-evidence-receipt.v1"
  tenantId := (sampleUuid 1).toStr
  taskId := (sampleUuid 2).toStr
  stepId := (sampleUuid 3).toStr
  executionId := sampleFence.executionId
  actionHash := sampleActionHash
  authorizationId := (sampleUuid 6).toStr
  authorizationDigest := sampleClearance.authorizationDigest
  fenceDigest := sampleClearance.fenceDigest
  idempotencyKey := "task:1"
  requestDigest := "b031c2aabf71d646115ac95f00214d4d9f4b1830197fb0708c81bed7ae2347c4"
  resultHash := sampleResult.resultHash
  chainHead := sampleHash 'd'
  evidenceRef := "evidence://" ++ (sampleUuid 1).toStr ++ "/" ++ (sampleUuid 2).toStr ++ "/" ++
    "1" ++ "/" ++ sampleHash 'd'
  event :=
    { schemaVersion := evidenceSchemaVersion, eventId := (sampleUuid 9).toStr, sequence := 1
      previousHash := sampleHash '0', eventHash := sampleHash 'd', keyId := "evidence-1"
      signature := "c2ln", draft := sampleEvidenceRequest.event }
  persistedAt := 10
  issuer := "evidence"
  keyId := "evidence-1"
  keyUsage := "EVIDENCE_EXECUTION_RECEIPT"
  signature := "c2ln"

def sampleSucceeded : ExecutionRecord :=
  { sampleRunning with
    status := .succeeded, updatedAt := 11, resultRef := some sampleResult.resultHash
    evidenceRef := some sampleEvidence.evidenceRef }

def sampleSucceededLedger : InMemoryExecutionLedger :=
  sampleRunningLedger.put sampleFence.executionId sampleSucceeded
    (InMemoryExecutionLedger.transitionEvent (sampleAmbient 12 11) sampleFence.executionId
      .succeeded)

theorem sampleSucceededLedger_holds : SampleLedger sampleSucceededLedger sampleSucceeded
    (InMemoryExecutionLedger.transitionEvent (sampleAmbient 12 11) sampleFence.executionId
      .succeeded) :=
  sampleRunningLedger_holds.put rfl rfl rfl

theorem toolResultValid_sampleResult :
    toolResultValid sampleCodec sampleResult sampleAuthorized.authorization sampleRequest.tenantId
      sampleMaterialized.actionHash = .ok true := by
  have hhash : isDigest sampleResult.resultHash = true := by decide
  have hscope := isDigest_sampleHash (c := 'b') (by decide) (by decide)
  have hconsumed : consumptionMatches sampleResult.credentialConsumptionReceipt
      sampleAuthorized.authorization sampleRequest.tenantId sampleMaterialized.actionHash =
        true := by
    simp [consumptionMatches, sampleResult, sampleAuthorized, sampleRequest, sampleMaterialized,
      isUuid_toStr, hscope]
  have hschema : sampleResult.schemaVersion = proxySchemaVersion := rfl
  rw [toolResultValid, if_neg (by simp [hhash, hschema]), hconsumed]
  rfl

theorem validateEvidence_sampleEvidence :
    validateEvidence sampleCodec sampleEvidence sampleEvidenceRequest = .ok () := by
  have hprevious := isDigest_sampleHash (c := '0') (by decide) (by decide)
  have hhash := isDigest_sampleHash (c := 'd') (by decide) (by decide)
  have hexpected : sampleEvidence.evidenceRef = sampleEvidence.expectedEvidenceRef := rfl
  have hsize : sampleEvidence.evidenceRef.utf8ByteSize ≤ 2048 := by
    have hends : "evidence://".utf8ByteSize = 11 ∧ "/".utf8ByteSize = 1 ∧ "1".utf8ByteSize = 1 := by
      decide
    simp only [sampleEvidence, String.utf8ByteSize_append, Uuid.utf8ByteSize_toStr,
      utf8ByteSize_sampleHash (c := 'd') (by decide), hends]
    omega
  simp only [validateEvidence, hexpected.symm, Nat.not_lt.mpr hsize]
  simp [sampleEvidence, sampleEvidenceRequest, ExecutionCoordinator.evidenceRequestFor,
    sampleClearance, Clearance.reserved, samplePreparation, Preparation.prepared, sampleRequest,
    sampleMaterialized, sampleAction, sampleReservation, sampleAuthorized, sampleResult,
    sampleCodec, Codec.digest, isUuid_toStr, hprevious, hhash, bind, Except.bind, pure, Except.pure]

def sampleOutcome : ExecutionOutcome where
  schemaVersion := executionOutcomeSchema
  tenantId := sampleRequest.tenantId
  taskId := sampleRequest.taskId
  actionId := sampleRequest.actionId
  ingressDigest := sampleRequest.ingressDigest
  idempotencyKey := sampleRequest.idempotencyKey
  ledgerExecutionId := sampleFence.executionId
  fenceDigest := sampleClearance.fenceDigest
  status := .succeeded
  outcomeDigest := "c14a6df7c95d3f70d87d1dbb9dccc966c7e601f0f9d68e0a0b171baa99dffdc8"
  evidenceRefs := ["ledger-event:" ++ (sampleUuid 12).toStr, sampleEvidence.evidenceRef]
  actionMaterialization := sampleRequest.actionMaterialization

def sampleSucceededEvent : LedgerEventFact where
  eventId := (sampleUuid 12).toStr
  eventRef := "ledger-event:" ++ (sampleUuid 12).toStr
  eventDigest := "fab6c469d20eb363ad1c2f7d5370e822e1956700d7107d60aaf5edac497c3698"

theorem outcomeOfRecord_sampleSucceeded :
    outcomeOfRecord sampleCodec sampleRequest sampleSucceeded sampleClearance.fenceDigest
      sampleSucceededEvent.eventRef = .ok sampleOutcome := by
  have hother : sampleEvidence.evidenceRef ≠ sampleSucceededEvent.eventRef := by
    intro heq
    have hhead := congrArg (fun reference => reference.toList.head?) heq
    simp [sampleEvidence, sampleSucceededEvent] at hhead
  have hrefs : (sampleSucceeded.evidenceRef.filter fun reference =>
      reference ≠ sampleSucceededEvent.eventRef) = some sampleEvidence.evidenceRef := by
    simp [sampleSucceeded, hother]
  rw [outcomeOfRecord, hrefs]
  rfl

theorem sample_succeeded_run : ∃ cfg, (system sampleCoordinator).Reachable .default cfg ∧
    cfg.shared = sampleSucceededLedger ∧
    cfg.threads[0]? = some (.done (some (.ok sampleOutcome))) ∧
    (∀ event ∈ cfg.trace, event.thread = 0) ∧
    ⟨.ledger (.reserve sampleExecution), .ok sampleReservation⟩ ∈ history 0 cfg.trace ∧
    ∀ entry ∈ history 0 cfg.trace, LedgerOk entry := by
  let finish : Except ExecutionError ExecutionOutcome →
    Program ExecutionCall ExecutionCall.Answer ThreadResult := fun result => .done (some result)
  have hone : (system sampleCoordinator).Reachable .default
      ⟨.default, [(sampleCoordinator.execute sampleRequest).run >>= finish], []⟩ :=
    .tail .refl (.start _ (.execution sampleRequest))
  have hsettled : serve sampleCodec.eventDigest sampleRunningLedger
      (.ledger (.markSucceeded sampleFence sampleResult.resultHash sampleEvidence.evidenceRef))
      (.ok ()) sampleSucceededLedger := by
    refine ⟨sampleAmbient 12 11, sampleRunningLedger_holds.fresh (by decide) 11, ?_⟩
    show sampleRunningLedger.markSucceeded (sampleAmbient 12 11) sampleFence _ _ = _
    rw [InMemoryExecutionLedger.markSucceeded, sampleRunningLedger_holds.transition _ (by decide)]
    rfl
  obtain ⟨events, hown, hentries, hreach⟩ := hone.run 0 rfl
    ((sampleClearance.succeeds toolResultValid_sampleResult validateEvidence_sampleEvidence
      outcomeOfRecord_sampleSucceeded).bind_left finish)
    (serves_sampleClearance.append <| .cons rfl <| .cons rfl <| .cons rfl <| .cons rfl <|
      .cons hsettled <| .cons (sampleSucceededLedger_holds.serve_get _) <|
      .cons (sampleSucceededLedger_holds.serve_fact _ (sampleUuid 12) rfl rfl) <| .nil _)
  have hhistory := history_own hown
  rw [hentries] at hhistory
  refine ⟨_, hreach, rfl, rfl, hown, ?_, ?_⟩
  · rw [List.nil_append, hhistory]
    simp [Clearance.starting, sampleClearance, samplePreparation]
  · rw [List.nil_append, hhistory]
    simp [Preparation.entries, Clearance.starting, LedgerOk, ledgerSucceeded, Except.isOk,
      Except.toBool]

/-- The sample execution succeeds, with the references of its result and evidence. -/
theorem settled_truthfully_sample : ∃ cfg, (system sampleCoordinator).Reachable .default cfg ∧
    ∃ record, cfg.shared.byExecution[sampleFence.executionId]? = some record ∧
      record.status = .succeeded ∧ record.resultRef = some sampleResult.resultHash ∧
      ∃ toolResult evidence, Proven sampleCoordinator (history 0 cfg.trace) sampleReservation
        toolResult evidence := by
  obtain ⟨cfg, hreach, hshared, hdone, hown, hnew, hledger⟩ := sample_succeeded_run
  have halone : ∀ event ∈ cfg.trace, event.thread ≠ 0 →
      event.after.byExecution[sampleReservation.executionId]? =
        event.before.byExecution[sampleReservation.executionId]? :=
    fun event hevent hother => absurd (hown event hevent) hother
  obtain ⟨record, hfound, -, hsucceeded, -⟩ := settled_truthfully sampleCodec_total hreach hdone
    hnew rfl halone hledger
  obtain rfl : sampleSucceeded = record := by
    rw [hshared] at hfound
    exact Option.some.inj (sampleSucceededLedger_holds.found.symm.trans hfound)
  exact ⟨cfg, hreach, sampleSucceeded, hfound, rfl, rfl, hsucceeded.mp rfl⟩

end AgentSphere.Execution
