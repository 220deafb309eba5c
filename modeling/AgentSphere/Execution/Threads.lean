import AgentSphere.Execution.Conduct
import AgentSphere.Ledger.Changes

/-!
# Threads and ledger of the whole system

The two views that the results about interleavings combine: what a thread of a reachable
configuration has done, by its history, and what the events of all threads have left in the
ledger.
-/

namespace AgentSphere.Execution

open Concurrency Ledger

-- One thread

def scanning : Monitor ExecutionCall ExecutionCall.Answer (List ExecutionEntry) :=
  recording (fun _ call => ∃ scan, call = scanCall scan) fun _ _ => True

theorem scanning_embed {α : Type} {Post : α → List ExecutionEntry → Prop}
    (p : Program ScanCall ScanCall.Answer α) (hpost : ∀ a entries, Post a entries)
    (entries : List ExecutionEntry) :
    scanning.Ensures Post (p.embed scanCall scanAnswer) entries := by
  induction p generalizing entries with
  | done a => exact hpost a entries
  | perform call resume ih => exact ⟨⟨call, rfl⟩, fun answer _ => ih _ _⟩

theorem Caller.conduct {coordinator : ExecutionCoordinator}
    {p : Program ExecutionCall ExecutionCall.Answer ThreadResult} (h : Caller coordinator p) :
    (conduct coordinator).Ensures
      (fun thread entries => ∀ result, thread = some result → Ended coordinator result entries)
      p [] ∨
    scanning.Ensures (fun thread _ => thread = none) p [] := by
  cases h with
  | execution request =>
    left
    rw [Monitor.ensures_bind]
    refine (conduct_execute request).mono fun result entries hended => ?_
    rintro _ ⟨⟩
    exact hended
  | scanner tenantId before =>
    right
    rw [Monitor.ensures_bind]
    exact scanning_embed _ (fun _ _ => rfl) []

section Thread

variable {coordinator : ExecutionCoordinator} {entries : List ExecutionEntry}
  {p : Program ExecutionCall ExecutionCall.Answer ThreadResult}

theorem Caller.mayCall (h : Caller coordinator p) {call : ExecutionCall}
    {resume : call.Answer → Program ExecutionCall ExecutionCall.Answer ThreadResult}
    (hresumes : Resumes p entries (.perform call resume)) :
    MayCall coordinator entries call ∨ ∃ scan, call = scanCall scan := by
  rcases h.conduct with hexecution | hscanner
  · have hrest := hexecution.resumes hresumes fun _ _ => trivial
    rw [List.nil_append] at hrest
    exact .inl hrest.1
  · exact .inr (hscanner.resumes hresumes fun _ _ => trivial).1

theorem Caller.licensed (h : Caller coordinator p) {request : AuthorizedToolRequest}
    {key fenceDigest : String} {resume : Except ExecutionError SanitizedToolResult →
      Program ExecutionCall ExecutionCall.Answer ThreadResult}
    (hresumes : Resumes p entries (.perform (.toolExecute request key fenceDigest) resume)) :
    ∃ reserved ledgerEvent authorized,
      Licensed coordinator reserved ledgerEvent authorized entries ∧
      .toolExecute request key fenceDigest = toolCall reserved ledgerEvent authorized := by
  rcases h.mayCall hresumes with hlicensed | ⟨scan, hscan⟩
  · exact hlicensed
  · cases scan <;> cases hscan

theorem Caller.ended (h : Caller coordinator p) {result : Except ExecutionError ExecutionOutcome}
    (hresumes : Resumes p entries (.done (some result))) : Ended coordinator result entries := by
  rcases h.conduct with hexecution | hscanner
  · have hrest := hexecution.resumes hresumes fun _ _ => trivial
    rw [List.nil_append] at hrest
    exact hrest result rfl
  · exact nomatch hscanner.resumes hresumes fun _ _ => trivial

end Thread

section Calls

variable {ledger ledger' : InMemoryExecutionLedger} {digest : EventDigest}

theorem serve_other {call : ExecutionCall} {answer : call.Answer}
    (hcall : ∀ ledgerCall, call ≠ .ledger ledgerCall)
    (h : serve digest ledger call answer ledger') : ledger' = ledger := by
  cases call with
  | ledger ledgerCall => exact absurd rfl (hcall ledgerCall)
  | _ => exact h

theorem serve_change {call : ExecutionCall} {answer : call.Answer}
    (h : serve digest ledger call answer ledger') :
    ledger' = ledger ∨ ∃ ambient : Ambient, ambient.Fresh ledger ∧
      InMemoryExecutionLedger.Change ambient ledger ledger' := by
  by_cases hcall : ∃ ledgerCall, call = .ledger ledgerCall
  · obtain ⟨ledgerCall, rfl⟩ := hcall
    obtain ⟨ambient, hfresh, heq⟩ := h
    have hchange := InMemoryExecutionLedger.perform_change ledger ambient digest ledgerCall
    rw [heq] at hchange
    exact .inr ⟨ambient, hfresh, hchange⟩
  · exact .inl (serve_other (fun ledgerCall hledger => hcall ⟨ledgerCall, hledger⟩) h)

theorem serve_reserve {intent : ExecutionIntent} {reservation : Reservation}
    (h : serve digest ledger (.ledger (.reserve intent)) (.ok reservation) ledger') :
    ledger'.byIdempotency[intent.key]? = some reservation.executionId ∧
      reservation.fence.executionId = reservation.executionId := by
  obtain ⟨ambient, -, heq⟩ := h
  obtain ⟨e, hcase⟩ | ⟨executionId, record, -, hkey, -, -, hcase⟩ | ⟨-, -, hcase⟩ :=
    InMemoryExecutionLedger.reserve_cases ledger ambient intent
  · exact nomatch hcase.symm.trans heq
  · obtain ⟨hanswer, rfl⟩ := Prod.mk.inj (hcase.symm.trans heq)
    obtain rfl := Except.ok.inj hanswer
    exact ⟨hkey, rfl⟩
  · obtain ⟨hanswer, rfl⟩ := Prod.mk.inj (hcase.symm.trans heq)
    obtain rfl := Except.ok.inj hanswer
    exact ⟨by simp [InMemoryExecutionLedger.reservationOf], rfl⟩

/-- A successful start moves the record from `Prepared` to `Running`. -/
theorem serve_markStarted {fence : ExecutionFence} {operation : Option String}
    (h : serve digest ledger (.ledger (.markStarted fence operation)) (.ok ()) ledger') :
    ∃ record record', ledger.byExecution[fence.executionId]? = some record ∧
      record.status = .prepared ∧ ledger'.byExecution[fence.executionId]? = some record' ∧
      record'.status = .running := by
  obtain ⟨ambient, -, heq⟩ := h
  rw [InMemoryExecutionLedger.perform, InMemoryExecutionLedger.markStarted] at heq
  obtain ⟨record, hfound, hstatus, rfl⟩ := InMemoryExecutionLedger.transition_ok heq
  exact ⟨record, _, hfound, List.mem_singleton.mp hstatus,
    InMemoryExecutionLedger.put_getElem?_self .., rfl⟩

end Calls

section Memory

variable {ledger ledger' : InMemoryExecutionLedger} {ambient : Ambient}
  {key : TenantId × IdempotencyKey} {executionId : ExecutionId}

theorem change_key (h : InMemoryExecutionLedger.Change ambient ledger ledger')
    (hkey : ledger.byIdempotency[key]? = some executionId) :
    ledger'.byIdempotency[key]? = some executionId := by
  cases h with
  | none => exact hkey
  | reserved intent valid absent =>
    have hne : intent.key ≠ key := by
      rintro rfl
      rw [absent] at hkey
      cases hkey
    simpa [hne] using hkey
  | moved found move => exact hkey

/-- A record stays, with its key, and never goes back to `Prepared`. -/
theorem change_record (h : InMemoryExecutionLedger.Change ambient ledger ledger')
    (hfresh : ambient.Fresh ledger) {record : ExecutionRecord}
    (hfound : ledger.byExecution[executionId]? = some record) :
    ∃ record', ledger'.byExecution[executionId]? = some record' ∧ record'.key = record.key ∧
      (record.status ≠ .prepared → record'.status ≠ .prepared) := by
  cases h with
  | none => exact ⟨record, hfound, rfl, id⟩
  | reserved intent valid absent =>
    have hne : ambient.executionUuid.toStr ≠ executionId := by
      rintro rfl
      rw [Ambient.Fresh, hfound] at hfresh
      cases hfresh
    exact ⟨record, by simp [hne, hfound], rfl, id⟩
  | @moved movedId old new found move =>
    by_cases hid : movedId = executionId
    · subst hid
      obtain rfl : old = record := by simpa [hfound] using found.symm
      refine ⟨new, by simp, move.key_eq, fun _ => ?_⟩
      cases move <;> simp
    · exact ⟨record, by simp [hid, hfound], rfl, id⟩

end Memory

structure Traced (ledger : InMemoryExecutionLedger) (trace : List ExecutionEvent) : Prop where
  record_of_key : ∀ {key : TenantId × IdempotencyKey} {executionId : ExecutionId},
    ledger.byIdempotency[key]? = some executionId →
    ∃ record, ledger.byExecution[executionId]? = some record ∧ record.key = key
  kept : ∀ event ∈ trace, ∀ (key : TenantId × IdempotencyKey) (executionId : ExecutionId),
    event.before.byIdempotency[key]? = some executionId →
    ledger.byIdempotency[key]? = some executionId
  reserved : ∀ event ∈ trace, ∀ intent reservation,
    event.entry = ⟨.ledger (.reserve intent), .ok reservation⟩ →
    ledger.byIdempotency[intent.key]? = some reservation.executionId ∧
      reservation.fence.executionId = reservation.executionId
  /-- A started record has left `Prepared` for good. -/
  started : ∀ event ∈ trace, ∀ fence operation,
    event.entry = ⟨.ledger (.markStarted fence operation), .ok ()⟩ →
    ∃ record, ledger.byExecution[fence.executionId]? = some record ∧ record.status ≠ .prepared
  once : trace.Pairwise fun event event' => ∀ fence operation fence' operation',
    event.entry = ⟨.ledger (.markStarted fence operation), .ok ()⟩ →
    event'.entry = ⟨.ledger (.markStarted fence' operation'), .ok ()⟩ →
    fence.executionId ≠ fence'.executionId

theorem traced_default : Traced .default [] := by
  constructor <;> simp [InMemoryExecutionLedger.default]

/-- **Step lemma**: one served call keeps the memory. -/
theorem Traced.serve {digest : EventDigest} {ledger ledger' : InMemoryExecutionLedger}
    {trace : List ExecutionEvent} (h : Traced ledger trace) {i : Nat} {call : ExecutionCall}
    {answer : call.Answer} (hserve : serve digest ledger call answer ledger') :
    Traced ledger' (trace ++ [⟨i, call, answer, ledger, ledger'⟩]) := by
  have hkey : ∀ {key : TenantId × IdempotencyKey} {executionId : ExecutionId},
      ledger.byIdempotency[key]? = some executionId →
      ledger'.byIdempotency[key]? = some executionId := by
    intro key executionId hfound
    obtain rfl | ⟨ambient, -, hchange⟩ := serve_change hserve
    · exact hfound
    · exact change_key hchange hfound
  have hrecord : ∀ {executionId : ExecutionId} {record : ExecutionRecord},
      ledger.byExecution[executionId]? = some record →
      ∃ record', ledger'.byExecution[executionId]? = some record' ∧ record'.key = record.key ∧
        (record.status ≠ .prepared → record'.status ≠ .prepared) := by
    intro executionId record hfound
    obtain rfl | ⟨ambient, hfresh, hchange⟩ := serve_change hserve
    · exact ⟨record, hfound, rfl, id⟩
    · exact change_record hchange hfresh hfound
  refine ⟨?_, ?_, ?_, ?_, ?_⟩
  · intro key executionId hfound
    obtain rfl | ⟨ambient, hfresh, hchange⟩ := serve_change hserve
    · exact h.record_of_key hfound
    · by_cases hbefore : ledger.byIdempotency[key]? = some executionId
      · obtain ⟨record, hold, hkeyed⟩ := h.record_of_key hbefore
        obtain ⟨record', hnew, hsame, -⟩ := change_record hchange hfresh hold
        exact ⟨record', hnew, hsame.trans hkeyed⟩
      · cases hchange with
        | none => exact absurd hfound hbefore
        | reserved intent valid absent =>
          by_cases hintent : intent.key = key
          · subst hintent
            obtain rfl : ambient.executionUuid.toStr = executionId := by simpa using hfound
            exact ⟨ledger.preparedRecord ambient intent, by simp, rfl⟩
          · exact absurd (by simpa [hintent] using hfound) hbefore
        | moved found move => exact absurd hfound hbefore
  · intro event hevent key executionId hfound
    obtain hold | hnew := List.mem_append.mp hevent
    · exact hkey (h.kept event hold key executionId hfound)
    · obtain rfl := List.mem_singleton.mp hnew
      exact hkey hfound
  · intro event hevent intent reservation hentry
    obtain hold | hnew := List.mem_append.mp hevent
    · obtain ⟨hfound, hfence⟩ := h.reserved event hold intent reservation hentry
      exact ⟨hkey hfound, hfence⟩
    · obtain rfl := List.mem_singleton.mp hnew
      obtain ⟨rfl, hanswer⟩ := Sigma.mk.inj hentry
      obtain rfl := eq_of_heq hanswer
      exact serve_reserve hserve
  · intro event hevent fence operation hentry
    obtain hold | hnew := List.mem_append.mp hevent
    · obtain ⟨record, hfound, hstatus⟩ := h.started event hold fence operation hentry
      obtain ⟨record', hfound', -, hstatus'⟩ := hrecord hfound
      exact ⟨record', hfound', hstatus' hstatus⟩
    · obtain rfl := List.mem_singleton.mp hnew
      obtain ⟨rfl, hanswer⟩ := Sigma.mk.inj hentry
      obtain rfl := eq_of_heq hanswer
      obtain ⟨record, record', -, -, hfound', hrunning⟩ := serve_markStarted hserve
      exact ⟨record', hfound', by simp [hrunning]⟩
  · refine List.pairwise_append.mpr ⟨h.once, List.pairwise_singleton .., ?_⟩
    intro event hevent new hnew fence operation fence' operation' hentry hentry'
    obtain rfl := List.mem_singleton.mp hnew
    obtain ⟨rfl, hanswer⟩ := Sigma.mk.inj hentry'
    obtain rfl := eq_of_heq hanswer
    -- the earlier start has moved the record on, the new one finds it prepared
    intro hsame
    obtain ⟨record, hfound, hstatus⟩ := h.started event hevent fence operation hentry
    obtain ⟨record', -, hfound', hprepared, -⟩ := serve_markStarted hserve
    rw [hsame, hfound'] at hfound
    obtain rfl := Option.some.inj hfound
    exact hstatus hprepared

end AgentSphere.Execution
