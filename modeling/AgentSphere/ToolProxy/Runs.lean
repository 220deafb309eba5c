import AgentSphere.Execution.Progress
import AgentSphere.ToolProxy.Invocations
import Mathlib.Data.List.Pairwise

/-!
# The life of an invocation

Runs of any number of replicas and sweeps on one store. A row belongs to the request it was
prepared for, it is marked once, and a settled row stays as it is. Since the connector runs only
after the execution itself has marked the row, it runs once at most.
-/

namespace AgentSphere.ToolProxy

open Concurrency

-- What the rows remember

def enteredKey : ProxyEntry → Option (TenantId × IdempotencyKey)
  | ⟨.store (.markExecuting key _ _), .ok _⟩ => some key
  | _ => none

theorem enteredKey_eq_some {entry : ProxyEntry} {key : TenantId × IdempotencyKey}
    (h : enteredKey entry = some key) :
    ∃ owner leaseFor, entry = ⟨.store (.markExecuting key owner leaseFor), .ok ()⟩ := by
  unfold enteredKey at h
  split at h
  · cases h
    exact ⟨_, _, rfl⟩
  · cases h

def Created (trace : List ProxyEvent) (request : AuthorizedToolRequest) : Prop :=
  ∃ event ∈ trace, event.call = .store (.prepare request) ∧
    event.before[rowKey request]? = none ∧ event.after[rowKey request]? ≠ none

structure Settling (codec : ProxyCodec) (store : Store) (trace : List ProxyEvent) : Prop where
  possible : ∀ event ∈ trace, Possible event.call event.answer
  /-- A row belongs to the request it was written for. -/
  written : ∀ request, Created trace request → validatePersistenceIdentity request = .ok () ∧
    ∃ row, store[rowKey request]? = some row ∧ row.For codec request
  stable : ∀ (key : TenantId × IdempotencyKey) (row : Invocation), store[key]? = some row →
    row.state = .failed → ∃ code, row.stableError = some code ∧ validateErrorCode code = .ok ()
  marked : ∀ event ∈ trace, ∀ key, enteredKey event.entry = some key →
    ∃ row, store[key]? = some row ∧ row.state ≠ .prepared
  once : trace.Pairwise fun event event' => ∀ key, enteredKey event.entry = some key →
    enteredKey event'.entry ≠ some key

section Memory

variable {codec : ProxyCodec} {store store' : Store} {trace : List ProxyEvent}

theorem settling_empty : Settling codec ∅ [] where
  possible := by simp
  written := by simp [Created]
  stable := by simp
  marked := by simp
  once := .nil

theorem RowStep.stable {key : TenantId × IdempotencyKey} {before after : Option Invocation}
    (h : RowStep codec key before after)
    (hbefore : ∀ row, before = some row → row.state = .failed →
      ∃ code, row.stableError = some code ∧ validateErrorCode code = .ok ())
    {row : Invocation} (hafter : after = some row) (hstate : row.state = .failed) :
    ∃ code, row.stableError = some code ∧ validateErrorCode code = .ok () := by
  cases h with
  | same => exact hbefore row hafter hstate
  | prepared request row' own written state =>
    cases hafter
    rw [state] at hstate
    cases hstate
  | failed row' state code valid =>
    cases hafter
    exact ⟨code, rfl, valid⟩
  | executing | succeeded | unknown =>
    cases hafter
    cases hstate

theorem serve_prepare_created {request : AuthorizedToolRequest}
    {answer : Except ProductionProxyError PrepareOutcome}
    (h : serve codec store (.store (.prepare request)) answer store')
    (habsent : store[rowKey request]? = none) (hpresent : store'[rowKey request]? ≠ none) :
    validatePersistenceIdentity request = .ok () ∧
      ∃ row, store'[rowKey request]? = some row ∧ row.For codec request := by
  obtain ⟨ambient, hserve⟩ := h
  rcases storeCall_serve_cases hserve with rfl | ⟨outcome, htransact⟩
  · exact absurd habsent hpresent
  · refine ⟨prepare_valid htransact, ?_⟩
    obtain ⟨row, hfound, -⟩ | ⟨-, -, row, hfor, -, rfl⟩ := prepare_cases htransact
    · rw [habsent] at hfound
      cases hfound
    · exact ⟨row, insert_self .., hfor⟩

/-- **Step lemma**: one served call keeps the memory. -/
theorem Settling.serve (h : Settling codec store trace) {i : Nat} {call : ProxyCall}
    {answer : call.Answer} (hserve : serve codec store call answer store') :
    Settling codec store' (trace ++ [⟨i, call, answer, store, store'⟩]) := by
  have hrow : ∀ {key : TenantId × IdempotencyKey} {row : Invocation}, store[key]? = some row →
      ∃ row', store'[key]? = some row' ∧ (∀ request, row.For codec request →
        row'.For codec request) ∧ (row.state ≠ .prepared → row'.state ≠ .prepared) := by
    intro key row hfound
    have hstep := serve_rows hserve key
    rw [hfound] at hstep
    exact hstep.kept
  refine ⟨?_, ?_, ?_, ?_, ?_⟩
  · intro event hevent
    obtain hold | hnew := List.mem_append.mp hevent
    · exact h.possible event hold
    · obtain rfl := List.mem_singleton.mp hnew
      exact serve_possible hserve
  · rintro request ⟨event, hevent, hcall, habsent, hpresent⟩
    obtain hold | hnew := List.mem_append.mp hevent
    · obtain ⟨hvalid, row, hfound, hfor⟩ :=
        h.written request ⟨event, hold, hcall, habsent, hpresent⟩
      obtain ⟨row', hfound', hkept, -⟩ := hrow hfound
      exact ⟨hvalid, row', hfound', hkept request hfor⟩
    · obtain rfl := List.mem_singleton.mp hnew
      obtain rfl : call = .store (.prepare request) := hcall
      exact serve_prepare_created hserve habsent hpresent
  · intro key row hfound hstate
    exact (serve_rows hserve key).stable (h.stable key) hfound hstate
  · intro event hevent key hentered
    obtain hold | hnew := List.mem_append.mp hevent
    · obtain ⟨row, hfound, hstate⟩ := h.marked event hold key hentered
      obtain ⟨row', hfound', -, hleft⟩ := hrow hfound
      exact ⟨row', hfound', hleft hstate⟩
    · obtain rfl := List.mem_singleton.mp hnew
      obtain ⟨owner, leaseFor, hentry⟩ := enteredKey_eq_some hentered
      obtain ⟨rfl, hanswer⟩ := Sigma.mk.inj hentry
      obtain rfl := eq_of_heq hanswer
      obtain ⟨-, row', hfound', hexecuting⟩ := serve_markExecuting hserve
      exact ⟨row', hfound', by simp [hexecuting]⟩
  · refine List.pairwise_append.mpr ⟨h.once, List.pairwise_singleton .., ?_⟩
    intro event hevent new hnew key hentered hentered'
    obtain rfl := List.mem_singleton.mp hnew
    obtain ⟨owner, leaseFor, hentry⟩ := enteredKey_eq_some hentered'
    obtain ⟨rfl, hanswer⟩ := Sigma.mk.inj hentry
    obtain rfl := eq_of_heq hanswer
    -- the earlier mark has moved the row on, the new one finds it prepared
    obtain ⟨row, hfound, hstate⟩ := h.marked event hevent key hentered
    obtain ⟨⟨row', hfound', hprepared⟩, -⟩ := serve_markExecuting hserve
    rw [hfound] at hfound'
    cases hfound'
    exact hstate hprepared

end Memory

-- Runs

/-- Thread `i` itself has marked the row of the key. -/
def MarkedBy (i : Nat) (key : TenantId × IdempotencyKey) (trace : List ProxyEvent) : Prop :=
  ∃ event ∈ trace, event.thread = i ∧ enteredKey event.entry = some key

section Runs

variable {codec : ProxyCodec} {cfg : ProxyConfig} {key : TenantId × IdempotencyKey}

theorem settling_always (hreach : (system codec).Reachable ∅ cfg) :
    Settling codec cfg.shared cfg.trace ∧
    ∀ before event after, cfg.trace = before ++ event :: after →
      Settling codec event.before before ∧
        serve codec event.before event.call event.answer event.after := by
  refine hreach.always (fun _ _ _ _ _ _ hinv hserve => hinv.serve hserve) ?_ settling_empty
  rintro _ _ _ _ ⟨⟩

theorem possible_history (hreach : (system codec).Reachable ∅ cfg)
    {before rest : List ProxyEvent} (htrace : cfg.trace = before ++ rest) (i : Nat) :
    ∀ entry ∈ history i before, Possible entry.1 entry.2 := by
  intro entry hentry
  obtain ⟨event, hevent, -, rfl⟩ := mem_history.mp hentry
  exact (settling_always hreach).1.possible event (by simp [htrace, hevent])

theorem MarkedBy.unique {store : Store} {trace : List ProxyEvent}
    (hsettling : Settling codec store trace) {i j : Nat} (hi : MarkedBy i key trace)
    (hj : MarkedBy j key trace) : i = j := by
  obtain ⟨event, hevent, rfl, hentered⟩ := hi
  obtain ⟨event', hevent', rfl, hentered'⟩ := hj
  by_contra hthreads
  have hne : event ≠ event' := fun h => hthreads (congrArg Event.thread h)
  have hsymm : Std.Symm fun event event' : ProxyEvent => ∀ key,
      enteredKey event.entry = some key → enteredKey event'.entry ≠ some key :=
    ⟨fun _ _ h key hentered hentered' => h key hentered' hentered⟩
  exact hsettling.once.forall hevent hevent' hne key hentered hentered'

theorem markedBy_of_waiting (hreach : (system codec).Reachable ∅ cfg)
    {before rest : List ProxyEvent} (htrace : cfg.trace = before ++ rest) {i : Nat}
    {p : Program ProxyCall ProxyCall.Answer ThreadResult} (hcaller : Caller codec p)
    {call : ProxyCall} {resume : call.Answer → Program ProxyCall ProxyCall.Answer ThreadResult}
    (hresumes : Resumes p (history i before) (.perform call resume))
    (hkey : connectorKey call = some key) :
    MarkedBy i key before ∧
      ∀ event ∈ before, event.thread = i → connectorKey event.call ≠ some key := by
  have hmay := hcaller.mayCall hresumes (possible_history hreach htrace i)
  cases call with
  | connectorExecute profile context arguments lease remaining =>
    rcases hmay with ⟨request, hcontext, outcome, owner, leaseFor, heffects⟩ | ⟨_, _, hcall⟩
    · obtain rfl : rowKey request = key := hcontext.symm.trans (Option.some.inj hkey)
      refine ⟨?_, ?_⟩
      · have hmem : markedEntry request owner leaseFor ∈ history i before := by
          refine List.mem_of_mem_filter (p := fun entry => isEffect entry.1) ?_
          rw [← effects, heffects]
          simp
        obtain ⟨event, hevent, hthread, hentry⟩ := mem_history.mp hmem
        exact ⟨event, hevent, hthread, by rw [hentry]; rfl⟩
      · intro event hevent hthread hconnector
        have hmem : event.entry ∈ effects (history i before) := by
          refine List.mem_filter.mpr ⟨mem_history.mpr ⟨event, hevent, hthread, rfl⟩, ?_⟩
          show isEffect event.call = true
          by_contra hquiet
          rw [connectorKey_eq_none (by simpa using hquiet)] at hconnector
          cases hconnector
        rw [heffects] at hmem
        obtain hentry | hentry : event.entry = _ ∨ event.entry = _ := by simpa using hmem
        · have hcall : event.call = .store (.prepare request) := congrArg Sigma.fst hentry
          rw [hcall] at hconnector
          cases hconnector
        · have hcall : event.call = .store (.markExecuting (rowKey request) owner leaseFor) :=
            congrArg Sigma.fst hentry
          rw [hcall] at hconnector
          cases hconnector
    · cases hcall
  | _ => cases hkey

/-- **At most once**: over the whole run a connector is called at most once for a tenant and
idempotency key. -/
theorem connector_at_most_once (hreach : (system codec).Reachable ∅ cfg)
    (key : TenantId × IdempotencyKey) : cfg.made connectorKey key ≤ 1 := by
  refine hreach.made_le_one (fun i trace => MarkedBy i key trace) ?_ ?_ ?_ ?_
  · rintro i trace rest ⟨event, hevent, hmarked⟩
    exact ⟨event, List.mem_append_left rest hevent, hmarked⟩
  · rintro i trace ⟨event, hevent, hthread, -⟩
    exact ⟨event, hevent, hthread⟩
  · intro cfg hreach i j hi hj
    exact hi.unique (settling_always hreach).1 hj
  · intro cfg hreach before rest htrace i p call resume hcaller hresumes hkey
    exact markedBy_of_waiting hreach htrace hcaller hresumes hkey

theorem entered_at_most_once (hreach : (system codec).Reachable ∅ cfg)
    (key : TenantId × IdempotencyKey) :
    cfg.trace.countP (fun event => enteredKey event.entry = some key) ≤ 1 := by
  have honce := (settling_always hreach).1.once
  generalize cfg.trace = trace at honce
  induction honce with
  | nil => simp
  | @cons event trace hlater _ ih =>
    rw [List.countP_cons]
    split
    · rename_i hentered
      have hnone : trace.countP (fun event => enteredKey event.entry = some key) = 0 := by
        refine List.countP_eq_zero.mpr fun later hmem => ?_
        simpa using hlater later hmem key (by simpa using hentered)
      omega
    · simpa using ih

theorem settled_stays (hreach : (system codec).Reachable ∅ cfg) {event : ProxyEvent}
    (hevent : event ∈ cfg.trace) {row : Invocation} (hfound : event.after[key]? = some row)
    (hprepared : row.state ≠ .prepared) (hexecuting : row.state ≠ .executing) :
    cfg.shared[key]? = some row := by
  obtain ⟨before, after, htrace⟩ := List.append_of_mem hevent
  refine (hreach.after (Q := fun store => store[key]? = some row) (K := fun _ => True) ?_ ?_ htrace
    hfound).1 fun _ _ => trivial
  · intro next hserve _ hrow
    have hstep := serve_rows hserve key
    rw [hrow] at hstep
    exact hstep.settled hprepared hexecuting
  · rintro store store' _ ⟨⟩

end Runs

-- Later callers

def firstResult : Except ProductionProxyError PrepareOutcome →
    Option (Except ProductionProxyError ProductionExecutionOutcome)
  | .error e => some (.error e)
  | .ok (.replaySucceeded result) => some (.ok (.succeeded result))
  | .ok (.replayFailed code) => some (.ok (.failed code))
  | .ok .unknown => some (.ok .unknown)
  | .ok .new | .ok .retryPrepared => none

def Replayed (codec : ProxyCodec) (row : Invocation) :
    Except ProductionProxyError ProductionExecutionOutcome → Prop
  | .ok (.succeeded result) => row.state = .succeeded ∧ row.storedResult codec = .ok result
  | .ok (.failed code) => row.state = .failed ∧ row.stableError = some code
  | .ok .unknown => row.state = .executing ∨ row.state = .unknown
  | .error e => e = .storeUnavailable

section Callers

variable {codec : ProxyCodec} {cfg : ProxyConfig}

theorem ends_at_once (hreach : (system codec).Reachable ∅ cfg) {before after : List ProxyEvent}
    {event : ProxyEvent} (htrace : cfg.trace = before ++ event :: after)
    {request : AuthorizedToolRequest} {answer : Except ProductionProxyError PrepareOutcome}
    (hentry : event.entry = ⟨.store (.prepare request), answer⟩)
    {result : Except ProductionProxyError ProductionExecutionOutcome}
    (hresult : firstResult answer = some result) :
    cfg.threads[event.thread]? = some (.done (some result)) ∧
      history event.thread cfg.trace = [event.entry] := by
  obtain ⟨hthreads, hresumes⟩ := hreach.resumes
  have hlt := hthreads event (by simp [htrace])
  have hthread := List.getElem?_eq_getElem hlt
  obtain ⟨p, hcaller, hall⟩ := hresumes event.thread _ hthread
  rw [htrace, history_append, history_cons_self, hentry] at hall ⊢
  obtain ⟨resume, hfirst, hrest⟩ := hall.split
  obtain ⟨hempty, service, -, rfl⟩ := Caller.prepares hcaller hfirst
    (possible_history hreach htrace event.thread)
  rw [hempty] at hfirst ⊢
  cases hfirst
  generalize cfg.threads[event.thread] = thread at hthread hrest
  have hdone : history event.thread after = [] ∧ thread = .done (some result) := by
    rcases answer with e | outcome
    · cases hresult
      exact hrest.of_done
    · cases outcome with
      | new | retryPrepared => cases hresult
      | _ =>
        cases hresult
        exact hrest.of_done
  obtain ⟨hafter, rfl⟩ := hdone
  exact ⟨hthread, by simp [hafter]⟩

theorem replay_settled {row : Invocation} (hstate : row.state ≠ .prepared)
    (hstable : row.state = .failed →
      ∃ code, row.stableError = some code ∧ validateErrorCode code = .ok ()) :
    ∃ result, firstResult (row.replay codec) = some result ∧ Replayed codec row result ∧
      ∀ e, result = .error e → row.state = .succeeded ∧ row.storedResult codec = .error e := by
  cases hrow : row.state with
  | prepared => exact absurd hrow hstate
  | executing | unknown =>
    refine ⟨.ok .unknown, ?_, ?_, nofun⟩
    · simp [Invocation.replay, hrow, firstResult]
    · simp [Replayed, hrow]
  | succeeded =>
    have hfails := fails_storedResult (P := (· = .storeUnavailable)) rfl codec row
    cases hstored : row.storedResult codec with
    | ok result =>
      refine ⟨.ok (.succeeded result), ?_, ⟨hrow, hstored⟩, nofun⟩
      simp [Invocation.replay, hrow, hstored, firstResult, bind, Except.bind, pure, Except.pure]
    | error e =>
      rw [hstored] at hfails
      refine ⟨.error e, ?_, ?_, ?_⟩
      · simp [Invocation.replay, hrow, hstored, firstResult, bind, Except.bind]
      · cases hfails with
        | error kind => exact kind
      · rintro _ ⟨⟩
        exact ⟨rfl, rfl⟩
  | failed =>
    obtain ⟨code, hcode, hvalid⟩ := hstable hrow
    refine ⟨.ok (.failed code), ?_, ⟨hrow, hcode⟩, nofun⟩
    simp [Invocation.replay, hrow, hcode, hvalid, available, firstResult, bind, Except.bind, pure,
      Except.pure]

theorem serve_prepare_found {store store' : Store} {request : AuthorizedToolRequest}
    {answer : Except ProductionProxyError PrepareOutcome} {row : Invocation}
    (hserve : serve codec store (.store (.prepare request)) answer store')
    (hvalid : validatePersistenceIdentity request = .ok ()) (hfor : row.For codec request)
    (hfound : store[rowKey request]? = some row) :
    store' = store ∧ (answer = row.replay codec ∨ answer = .error .storeUnavailable) := by
  obtain ⟨ambient, hserve⟩ := hserve
  have htransact : (StoreCall.prepare request).transact codec ambient store =
      (row.replay codec).map fun outcome => (outcome, store) := prepare_found hvalid hfor hfound
  constructor
  · rcases storeCall_serve_cases hserve with hsame | ⟨outcome, hok⟩
    · exact hsame
    · rw [htransact] at hok
      cases hreplay : row.replay codec with
      | error e =>
        rw [hreplay] at hok
        cases hok
      | ok outcome =>
        rw [hreplay] at hok
        cases hok
        rfl
  · rcases storeCall_serve_answer hserve with hown | hdown
    · left
      rw [hown, htransact]
      cases row.replay codec with
      | error e => rfl
      | ok outcome => rfl
    · exact .inr hdown

theorem serve_prepare_conflict {store store' : Store} {request : AuthorizedToolRequest}
    {answer : Except ProductionProxyError PrepareOutcome} {row : Invocation}
    (hserve : serve codec store (.store (.prepare request)) answer store')
    (hnot : ¬row.For codec request) (hfound : store[rowKey request]? = some row) :
    store' = store ∧ ∃ e, answer = .error e ∧ (e = .idempotencyConflict ∨ e = .storeUnavailable) ∧
      (Identified codec request → answer = (prepare codec request store).map Prod.fst →
        e = .idempotencyConflict) := by
  obtain ⟨ambient, hserve⟩ := hserve
  obtain ⟨e, hprepare⟩ := prepare_conflict hnot hfound
  have htransact : (StoreCall.prepare request).transact codec ambient store = .error e := hprepare
  have hfails := fails_prepare (P := fun e => e = .idempotencyConflict ∨ e = .storeUnavailable)
    (.inr rfl) (.inl rfl) codec request store
  have hidentified : Identified codec request → e = .idempotencyConflict := by
    intro hidentified
    have hkind := fails_prepare_identified (P := (· = .idempotencyConflict)) rfl hidentified hnot
      hfound
    rw [hprepare] at hkind
    cases hkind with
    | error kind => exact kind
  rw [hprepare] at hfails ⊢
  constructor
  · rcases storeCall_serve_cases hserve with hsame | ⟨outcome, hok⟩
    · exact hsame
    · rw [htransact] at hok
      cases hok
  · rcases storeCall_serve_answer hserve with hown | hdown
    · rw [htransact] at hown
      refine ⟨e, hown, ?_, fun h _ => hidentified h⟩
      cases hfails with
      | error kind => exact kind
    · refine ⟨_, hdown, .inr rfl, fun h hown => ?_⟩
      rw [hdown] at hown
      cases hown
      exact hidentified h

theorem settling_at (hreach : (system codec).Reachable ∅ cfg) {before after : List ProxyEvent}
    {event : ProxyEvent} (htrace : cfg.trace = before ++ event :: after)
    {request : AuthorizedToolRequest} {answer : Except ProductionProxyError PrepareOutcome}
    (hentry : event.entry = ⟨.store (.prepare request), answer⟩) :
    Settling codec event.before before ∧
      serve codec event.before (.store (.prepare request)) answer event.after := by
  obtain ⟨hsettling, hserve⟩ := (settling_always hreach).2 before event after htrace
  exact ⟨hsettling, Event.of_entry hentry
    (fun call answer => serve codec event.before call answer event.after) hserve⟩

/-- **The life of an invocation**: rows only move forward, settled rows stay, an execution is
entered once at most, and who comes later is answered from the row or refused. -/
theorem invocations_settle (hreach : (system codec).Reachable ∅ cfg) :
    (∀ event ∈ cfg.trace, ∀ key : TenantId × IdempotencyKey,
      Moves event.before[key]? event.after[key]?) ∧
    (∀ event ∈ cfg.trace, ∀ (key : TenantId × IdempotencyKey) (row : Invocation),
      event.after[key]? = some row → row.state ≠ .prepared → row.state ≠ .executing →
        cfg.shared[key]? = some row) ∧
    (∀ key : TenantId × IdempotencyKey,
      cfg.trace.countP (fun event => enteredKey event.entry = some key) ≤ 1 ∧
        cfg.made connectorKey key ≤ 1) ∧
    (∀ before event after request answer row, cfg.trace = before ++ event :: after →
      event.entry = ⟨.store (.prepare request), answer⟩ → Created before request →
      event.before[rowKey request]? = some row → row.state ≠ .prepared →
        ∃ result, cfg.threads[event.thread]? = some (.done (some result)) ∧
          history event.thread cfg.trace = [event.entry] ∧ Replayed codec row result ∧
          (answer = (prepare codec request event.before).map Prod.fst → ∀ e, result = .error e →
            row.state = .succeeded ∧ row.storedResult codec = .error e)) ∧
    (∀ before event after request other answer, cfg.trace = before ++ event :: after →
      event.entry = ⟨.store (.prepare other), answer⟩ → Created before request →
      rowKey other = rowKey request → other ≠ request →
      (codec.requestDigest other = codec.requestDigest request → other = request) →
        event.after = event.before ∧ history event.thread cfg.trace = [event.entry] ∧
        ∃ e, cfg.threads[event.thread]? = some (.done (some (.error e))) ∧
          (e = .idempotencyConflict ∨ e = .storeUnavailable) ∧
          (Identified codec other → answer = (prepare codec other event.before).map Prod.fst →
            e = .idempotencyConflict)) := by
  have hserved : ∀ event ∈ cfg.trace,
      serve codec event.before event.call event.answer event.after := by
    intro event hevent
    obtain ⟨before, after, htrace⟩ := List.append_of_mem hevent
    exact ((settling_always hreach).2 before event after htrace).2
  refine ⟨fun event hevent key => (serve_rows (hserved event hevent) key).moves,
    fun event hevent key row => settled_stays hreach hevent,
    fun key => ⟨entered_at_most_once hreach key, connector_at_most_once hreach key⟩, ?_, ?_⟩
  · intro before event after request answer row htrace hentry hcreated hfound hstate
    obtain ⟨hsettling, hserve⟩ := settling_at hreach htrace hentry
    obtain ⟨hvalid, row', hfound', hfor⟩ := hsettling.written request hcreated
    obtain rfl : row = row' := Option.some.inj (hfound.symm.trans hfound')
    obtain ⟨result, hfirst, hreplayed, herror⟩ :=
      replay_settled hstate (hsettling.stable _ row hfound)
    obtain ⟨-, rfl | rfl⟩ := serve_prepare_found hserve hvalid hfor hfound
    · obtain ⟨hdone, hhistory⟩ := ends_at_once hreach htrace hentry hfirst
      exact ⟨result, hdone, hhistory, hreplayed, fun _ => herror⟩
    · obtain ⟨hdone, hhistory⟩ := ends_at_once hreach htrace hentry rfl
      refine ⟨_, hdone, hhistory, rfl, ?_⟩
      rintro hown e ⟨⟩
      rw [prepare_found hvalid hfor hfound] at hown
      refine herror _ ?_
      cases hreplay : row.replay codec with
      | error e =>
        rw [hreplay] at hown hfirst
        cases hown
        exact (Option.some.inj hfirst).symm
      | ok outcome =>
        rw [hreplay] at hown
        cases hown
  · intro before event after request other answer htrace hentry hcreated hkey hother hcollision
    obtain ⟨hsettling, hserve⟩ := settling_at hreach htrace hentry
    obtain ⟨-, row, hfound, hfor⟩ := hsettling.written request hcreated
    have hnot : ¬row.For codec other := fun h =>
      hother (hcollision (h.1.trans hfor.1.symm))
    obtain ⟨hsame, e, rfl, hkind, hconflict⟩ :=
      serve_prepare_conflict hserve hnot (hkey ▸ hfound)
    obtain ⟨hdone, hhistory⟩ := ends_at_once hreach htrace hentry rfl
    exact ⟨hsame, hhistory, e, hdone, hkind, hconflict⟩

end Callers

open Execution

-- A sample run

def sampleToolRequest : AuthorizedToolRequest where
  authorization := sampleAuthorized.authorization
  tool := sampleTool
  tenantId := (sampleUuid 1).toStr
  ledgerExecutionId := (sampleUuid 10).toStr
  ledgerEventId := (sampleUuid 10).toStr
  ledgerEventDigest := sampleReservedEvent.eventDigest
  fenceDigest := sampleAuthorized.authorization.fenceDigest
  idempotencyKey := "task:1"
  workloadCredential := "workload-credential-1"
  credentialBindingReceipt := sampleAuthorized.credentialBindingReceipt
  operation := "run"
  resource := "org/repository"
  resourceVersion := "v1"
  targetProfile := "repository"
  environment := "staging"
  arguments := [("suite", .string "unit")]
  traceId := "trace-1"

def misnamedToolRequest : AuthorizedToolRequest :=
  { sampleToolRequest with ledgerEventId := "event-1" }

def sampleProxyCodec : ProxyCodec where
  requestDigest request :=
    some (sampleHash (if request.ledgerEventId = "event-1" then 'd' else 'c'))
  authorizationDigest _ := some (sampleHash 'b')
  resultDigest _ := some (sampleHash '1')
  receiptDigest _ := some (sampleHash '2')
  valueHash _ := some (sampleHash '3')
  valueSize _ := some 2
  resultSize _ := some 900
  sha256 _ := sampleHash '4'
  reread := some

def sampleService : ProductionToolProxyService where
  codec := sampleProxyCodec
  connectors := ["sandbox"]
  executionOwner := (sampleUuid 11).toStr

def sampleRow : Invocation :=
  Invocation.preparedFor sampleProxyCodec sampleToolRequest (sampleHash 'c') (sampleHash 'b')

def sampleEntries : List ProxyEntry :=
  [⟨.store (.prepare sampleToolRequest), .ok .new⟩, ⟨.utcNow, (5 : DateTime)⟩,
    ⟨.verifyAuthorization sampleToolRequest 5, .error .authorizationInvalid⟩,
    ⟨.store (.markFailed (rowKey sampleToolRequest) "PROXY_AUTHORIZATION_INVALID"), .ok ()⟩]

def sampleFailedRow : Invocation :=
  { sampleRow with state := .failed, stableError := some "PROXY_AUTHORIZATION_INVALID" }

def samplePreparedStore : Store := (∅ : Store).insert (rowKey sampleToolRequest) sampleRow
def sampleStore : Store := samplePreparedStore.insert (rowKey sampleToolRequest) sampleFailedRow

theorem sampleToolRequest_valid : validatePersistenceIdentity sampleToolRequest = .ok () := by
  decide +kernel

theorem sampleCode_valid : validateErrorCode "PROXY_AUTHORIZATION_INVALID" = .ok () := by
  decide +kernel

theorem sample_prepare : prepare sampleProxyCodec sampleToolRequest ∅ =
    .ok (.new, samplePreparedStore) := by
  unfold prepare
  rw [sampleToolRequest_valid]
  simp only [Std.ExtTreeMap.getElem?_empty]
  rfl

theorem sample_markFailed : markFailed (rowKey sampleToolRequest) "PROXY_AUTHORIZATION_INVALID"
    samplePreparedStore = .ok ((), sampleStore) := by
  have htenant : parseUuid (rowKey sampleToolRequest).1 = .ok () := by decide +kernel
  unfold markFailed transitionTerminal
  rw [sampleCode_valid, htenant]
  simp only [update, samplePreparedStore, insert_self]
  rfl

abbrev executionOf (request : AuthorizedToolRequest) :
    Program ProxyCall ProxyCall.Answer ThreadResult :=
  (sampleService.execute request).run >>= fun result => .done (some result)

def calm : Ambient := { now := 0, locked := fun _ => false, fault := .none }

theorem serve_of_transact {codec : ProxyCodec} {store store' : Store} {call : StoreCall}
    {result : call.Result} (h : call.transact codec calm store = .ok (result, store')) :
    serve codec store (.store call) (.ok result) store' := by
  refine ⟨calm, ?_⟩
  unfold StoreCall.serve
  rw [h]
  rfl

theorem sample_execution : Resumes (executionOf sampleToolRequest)
    [⟨.store (.prepare sampleToolRequest), .ok .new⟩, ⟨.utcNow, (5 : DateTime)⟩,
      ⟨.verifyAuthorization sampleToolRequest 5, .error .authorizationInvalid⟩,
      ⟨.store (.markFailed (rowKey sampleToolRequest) "PROXY_AUTHORIZATION_INVALID"), .ok ()⟩]
    (.done (some (.ok (.failed "PROXY_AUTHORIZATION_INVALID")))) :=
  .perform (.perform (.perform (.perform (.refl _))))

theorem sample_follower {request : AuthorizedToolRequest}
    {answer : Except ProductionProxyError PrepareOutcome}
    {result : Except ProductionProxyError ProductionExecutionOutcome}
    (hserve : serve sampleProxyCodec sampleStore (.store (.prepare request)) answer sampleStore)
    (hresumes : Resumes (executionOf request) [⟨.store (.prepare request), answer⟩]
      (.done (some result))) :
    ∃ (cfg : ProxyConfig) (before : List ProxyEvent),
      (system sampleProxyCodec).Reachable ∅ cfg ∧
      cfg.trace = before ++ [⟨1, .store (.prepare request), answer, sampleStore, sampleStore⟩] ∧
      Created before sampleToolRequest ∧ cfg.threads[1]? = some (.done (some result)) := by
  have hprepare : (system sampleProxyCodec).Serve ∅ (.store (.prepare sampleToolRequest))
      (.ok .new) samplePreparedStore := serve_of_transact sample_prepare
  have hmark : (system sampleProxyCodec).Serve samplePreparedStore
      (.store (.markFailed (rowKey sampleToolRequest) "PROXY_AUTHORIZATION_INVALID")) (.ok ())
      sampleStore := serve_of_transact sample_markFailed
  have hstart : (system sampleProxyCodec).Reachable ∅
      ⟨∅, [executionOf sampleToolRequest, executionOf request], []⟩ :=
    .tail (.tail .refl (.start _ (.execution sampleService rfl sampleToolRequest)))
      (.start _ (.execution sampleService rfl request))
  obtain ⟨events, -, hfirst⟩ := hstart.run_first 0 rfl sample_execution hprepare
    (.cons rfl (.cons rfl (.cons hmark (.nil _))))
  obtain ⟨rest, hrest, hreach⟩ := hfirst.run_first 1 rfl hresumes hserve (.nil _)
  obtain rfl := List.map_eq_nil_iff.mp hrest
  refine ⟨_, _, hreach, rfl, ⟨_, List.mem_cons_self, rfl, ?_, ?_⟩, rfl⟩
  · exact Std.ExtTreeMap.getElem?_empty
  · show samplePreparedStore[rowKey sampleToolRequest]? ≠ none
    rw [samplePreparedStore, insert_self]
    exact nofun

theorem sampleStore_row : sampleStore[rowKey sampleToolRequest]? = some sampleFailedRow :=
  insert_self ..

theorem sample_prepare_misnamed :
    prepare sampleProxyCodec misnamedToolRequest sampleStore = .error .storeUnavailable := by
  have hinvalid : validatePersistenceIdentity misnamedToolRequest = .error .storeUnavailable := by
    decide +kernel
  unfold prepare
  rw [hinvalid]
  rfl

theorem sample_prepare_again :
    prepare sampleProxyCodec sampleToolRequest sampleStore =
      .ok (.replayFailed "PROXY_AUTHORIZATION_INVALID", sampleStore) := by
  have hreplay : sampleFailedRow.replay sampleProxyCodec =
      .ok (.replayFailed "PROXY_AUTHORIZATION_INVALID") := by
    show (validateErrorCode "PROXY_AUTHORIZATION_INVALID" >>= fun _ => pure _) = _
    rw [sampleCode_valid]
    rfl
  have hfor : sampleFailedRow.For sampleProxyCodec sampleToolRequest :=
    ⟨rfl, rfl, rfl, rfl, rfl, rfl, rfl⟩
  rw [prepare_found sampleToolRequest_valid hfor sampleStore_row, hreplay]
  rfl

/-- **Counterexample**: a request that differs from the first one only in a malformed ledger event
is told that the store is unavailable, though nothing is wrong with it. -/
theorem misnamed_not_conflict :
    ∃ (cfg : ProxyConfig) (before : List ProxyEvent) (event : ProxyEvent),
      (system sampleProxyCodec).Reachable ∅ cfg ∧ cfg.trace = before ++ [event] ∧
      Created before sampleToolRequest ∧
      event.entry = ⟨.store (.prepare misnamedToolRequest), .error .storeUnavailable⟩ ∧
      prepare sampleProxyCodec misnamedToolRequest event.before = .error .storeUnavailable ∧
      rowKey misnamedToolRequest = rowKey sampleToolRequest ∧
      misnamedToolRequest ≠ sampleToolRequest ∧
      sampleProxyCodec.requestDigest misnamedToolRequest ≠
        sampleProxyCodec.requestDigest sampleToolRequest ∧
      cfg.threads[event.thread]? = some (.done (some (.error .storeUnavailable))) := by
  have hserve : serve sampleProxyCodec sampleStore (.store (.prepare misnamedToolRequest))
      (.error .storeUnavailable) sampleStore := by
    refine ⟨calm, ?_⟩
    unfold StoreCall.serve
    simp only [StoreCall.transact, sample_prepare_misnamed]
    rfl
  obtain ⟨cfg, before, hreach, htrace, hcreated, hdone⟩ :=
    sample_follower hserve (.perform (.refl _))
  have hdigests : sampleProxyCodec.requestDigest misnamedToolRequest ≠
      sampleProxyCodec.requestDigest sampleToolRequest := by decide +kernel
  exact ⟨cfg, before, _, hreach, htrace, hcreated, rfl, sample_prepare_misnamed, rfl,
    fun hsame => hdigests (congrArg _ hsame), hdigests, hdone⟩

/-- The bound and the answers at a concrete run: the second execution of a request whose row has
failed is told so. -/
theorem invocations_settle_sample :
    ∃ (cfg : ProxyConfig) (before : List ProxyEvent) (event : ProxyEvent),
      cfg.trace = before ++ [event] ∧ (∀ key, cfg.made connectorKey key ≤ 1) ∧
      ∃ result, cfg.threads[event.thread]? = some (.done (some result)) ∧
        Replayed sampleProxyCodec sampleFailedRow result := by
  have hserve : serve sampleProxyCodec sampleStore (.store (.prepare sampleToolRequest))
      (.ok (.replayFailed "PROXY_AUTHORIZATION_INVALID")) sampleStore :=
    serve_of_transact sample_prepare_again
  obtain ⟨cfg, before, hreach, htrace, hcreated, -⟩ :=
    sample_follower hserve (.perform (.refl _))
  obtain ⟨-, -, honce, hlater, -⟩ := invocations_settle hreach
  obtain ⟨result, hdone, -, hreplayed, -⟩ := hlater before _ [] sampleToolRequest _ sampleFailedRow
    htrace rfl hcreated sampleStore_row nofun
  exact ⟨cfg, before, _, htrace, fun key => (honce key).2, result, hdone, hreplayed⟩

end AgentSphere.ToolProxy
