import AgentSphere.Execution.AtMostOnce
import AgentSphere.Execution.Settlement
import AgentSphere.ToolProxy.Runs

/-!
# Between the coordinator and the tool proxy

A coordinator calls the tool proxy with a POST request, and a handler of the proxy executes the
request and answers with a status, from which the coordinator makes an answer of the port. The
request and the response may be lost or late: the coordinator may give up before its request is
handled, or while it is.

A deployment is a run of coordinators on one ledger beside a run of the proxy on its store. Every
execution of the proxy handles the request of one thread of a coordinator, and a thread that waits
for the tool proxy is answered with the response of its handler, unless that is lost.
-/

namespace AgentSphere.Boundary

open Concurrency Relation Execution Ledger

-- Responses

inductive Response where
  | result (result : SanitizedToolResult)
  | error (status : Nat)

/-- `error_response`. -/
def errorStatus : ToolProxy.ProductionProxyError → Nat
  | .idempotencyConflict | .stateConflict => 409
  | .registryTrustInvalid => 403
  | .storeUnavailable | .dependency _ => 503

def responseOf :
    Except ToolProxy.ProductionProxyError ToolProxy.ProductionExecutionOutcome → Response
  | .ok (.succeeded result) => .result result
  | .ok (.failed _) => .error 422
  | .ok .unknown => .error 409
  | .error e => .error (errorStatus e)

/-- What the handler answers if it does not call the service: the body is not a request, or too
large, too many requests are handled, the peer is not authorized, or its headers do not fit. -/
def refusalStatuses : List Nat := [400, 413, 503, 403, 409]

/-- `HttpExecutionPort::post`. -/
def readResponse : Response → Except ExecutionError SanitizedToolResult
  | .result result => .ok result
  | .error status =>
    if status ∈ [401, 403, 409, 422] then .error .authorizationDenied
    else .error .dependencyUnavailable

def transportErrors : List ExecutionError :=
  [.configuration, .dependencyUnavailable, .dependencyResponseInvalid]

-- Deployments

inductive Exchange where
  | handled (handler : Nat)
  | refused (status : Nat)
  deriving DecidableEq

structure Deployment where
  execution : ExecutionConfig
  proxy : ToolProxy.ProxyConfig
  /-- The requests that have arrived, by the threads that have sent them. -/
  requests : Nat → Option Exchange

def Posted (cfg : ExecutionConfig) (i : Nat) (request : AuthorizedToolRequest) : Prop :=
  (∃ key fenceDigest resume,
    cfg.threads[i]? = some (.perform (.toolExecute request key fenceDigest) resume)) ∨
  ∃ event ∈ cfg.trace, event.thread = i ∧
    ∃ key fenceDigest, event.call = .toolExecute request key fenceDigest

inductive Delivered (d : Deployment) (i : Nat) :
    Except ExecutionError SanitizedToolResult → Prop where
  | answered {j : Nat}
      {result : Except ToolProxy.ProductionProxyError ToolProxy.ProductionExecutionOutcome}
      (handled : d.requests i = some (.handled j))
      (done : d.proxy.threads[j]? = some (.done (some result))) :
      Delivered d i (readResponse (responseOf result))
  | refused {status : Nat} (refused : d.requests i = some (.refused status)) :
      Delivered d i (readResponse (.error status))
  | lost {e : ExecutionError} (transport : e ∈ transportErrors) : Delivered d i (.error e)

abbrev executing (service : ToolProxy.ProductionToolProxyService)
    (request : AuthorizedToolRequest) :
    Program ToolProxy.ProxyCall ToolProxy.ProxyCall.Answer ToolProxy.ThreadResult :=
  (service.execute request).run >>= fun result => .done (some result)

abbrev sweeping (tenants : List TenantId) :
    Program ToolProxy.ProxyCall ToolProxy.ProxyCall.Answer ToolProxy.ThreadResult :=
  (ToolProxy.recoverExpiredExecuting tenants).run >>= fun _ => .done none

def Deployment.join (d : Deployment)
    (p : Program ToolProxy.ProxyCall ToolProxy.ProxyCall.Answer ToolProxy.ThreadResult) :
    Deployment :=
  { d with proxy := { d.proxy with threads := d.proxy.threads ++ [p] } }

def Deployment.arrive (d : Deployment) (i : Nat) (exchange : Exchange) : Deployment :=
  { d with requests := Function.update d.requests i (some exchange) }

section Runs

variable (coordinator : ExecutionCoordinator) (codec : ToolProxy.ProxyCodec)

inductive Step : Deployment → Deployment → Prop where
  /-- A coordinator or a scanner moves; what the tool proxy answers was delivered. -/
  | coordinate {d : Deployment} {cfg : ExecutionConfig}
      (step : (system coordinator).Step d.execution cfg)
      (delivered : ∀ i request key fenceDigest answer ledger ledger',
        cfg.trace = d.execution.trace ++
          [⟨i, .toolExecute request key fenceDigest, answer, ledger, ledger'⟩] →
        Delivered d i answer) :
      Step d { d with execution := cfg }
  | proceed {d : Deployment} {cfg : ToolProxy.ProxyConfig}
      (step : (ToolProxy.system codec).Step d.proxy cfg)
      (same : cfg.threads.length = d.proxy.threads.length) :
      Step d { d with proxy := cfg }
  | sweep {d : Deployment} (tenants : List TenantId) : Step d (d.join (sweeping tenants))
  /-- The request of a thread arrives, and a replica executes it. -/
  | handle {d : Deployment} {i : Nat} {request : AuthorizedToolRequest}
      (service : ToolProxy.ProductionToolProxyService) (shared : service.codec = codec)
      (posted : Posted d.execution i request) (first : d.requests i = none) :
      Step d ((d.arrive i (.handled d.proxy.threads.length)).join (executing service request))
  | refuse {d : Deployment} {i : Nat} {request : AuthorizedToolRequest} {status : Nat}
      (refusal : status ∈ refusalStatuses) (posted : Posted d.execution i request)
      (first : d.requests i = none) :
      Step d (d.arrive i (.refused status))

def Deployment.initial : Deployment :=
  ⟨System.initial .default, System.initial ∅, fun _ => none⟩

def Reachable (d : Deployment) : Prop :=
  ReflTransGen (Step coordinator codec) .initial d

variable {coordinator codec} {d d' : Deployment}

-- Each side alone

theorem Reachable.execution (h : Reachable coordinator codec d) :
    (system coordinator).Reachable .default d.execution := by
  induction h with
  | refl => exact .refl
  | tail _ hstep ih =>
    cases hstep with
    | coordinate step delivered => exact ih.tail step
    | proceed step same => exact ih
    | sweep tenants => exact ih
    | handle service shared posted first => exact ih
    | refuse refusal posted first => exact ih

theorem Reachable.proxy (h : Reachable coordinator codec d) :
    (ToolProxy.system codec).Reachable ∅ d.proxy := by
  induction h with
  | refl => exact .refl
  | tail _ hstep ih =>
    cases hstep with
    | coordinate step delivered => exact ih
    | proceed step same => exact ih.tail step
    | sweep tenants => exact ih.tail (.start _ (.sweep tenants))
    | handle service shared posted first => exact ih.tail (.start _ (.execution service shared _))
    | refuse refusal posted first => exact ih

-- Who handles what

theorem Posted.step {cfg cfg' : ExecutionConfig} (hstep : (system coordinator).Step cfg cfg')
    {i : Nat} {request : AuthorizedToolRequest} (h : Posted cfg i request) :
    Posted cfg' i request := by
  obtain ⟨key, fenceDigest, resume, hthread⟩ | ⟨event, hevent, hown⟩ := h
  · obtain ⟨hsame, -⟩ | ⟨call, k, answer, ledger, hcall, -, htrace⟩ := hstep.thread hthread
    · exact .inl ⟨key, fenceDigest, resume, hsame⟩
    · refine .inr ⟨_, htrace ▸ List.mem_append_right _ (List.mem_singleton_self _), rfl,
        key, fenceDigest, ?_⟩
      exact (Program.perform.inj hcall).1.symm
  · exact .inr ⟨event, hstep.trace_subset hevent, hown⟩

def Assigned (d : Deployment) (j : Nat)
    (p : Program ToolProxy.ProxyCall ToolProxy.ProxyCall.Answer ToolProxy.ThreadResult) : Prop :=
  (∃ i service request, d.requests i = some (.handled j) ∧ Posted d.execution i request ∧
    Resumes (executing service request) (history j d.proxy.trace) p) ∨
  ∃ tenants, Resumes (sweeping tenants) (history j d.proxy.trace) p

theorem Assigned.mono {j : Nat}
    {p q : Program ToolProxy.ProxyCall ToolProxy.ProxyCall.Answer ToolProxy.ThreadResult}
    (h : Assigned d j p)
    (hrequests : ∀ i exchange, d.requests i = some exchange → d'.requests i = some exchange)
    (hposted : ∀ i request, Posted d.execution i request → Posted d'.execution i request)
    (hresumes : ∀ p₀, Resumes p₀ (history j d.proxy.trace) p →
      Resumes p₀ (history j d'.proxy.trace) q) : Assigned d' j q := by
  obtain ⟨i, service, request, hhandled, hsent, hgone⟩ | ⟨tenants, hgone⟩ := h
  · exact .inl ⟨i, service, request, hrequests _ _ hhandled, hposted _ _ hsent, hresumes _ hgone⟩
  · exact .inr ⟨tenants, hresumes _ hgone⟩

theorem arrive_requests {i k : Nat} {exchange other : Exchange} (first : d.requests i = none)
    (h : d.requests k = some other) : (d.arrive i exchange).requests k = some other := by
  have hne : k ≠ i := by
    rintro rfl
    rw [first] at h
    cases h
  exact (Function.update_of_ne hne _ _).trans h

theorem Step.requests (hstep : Step coordinator codec d d') {i : Nat} {exchange : Exchange}
    (h : d.requests i = some exchange) : d'.requests i = some exchange := by
  cases hstep with
  | coordinate step delivered => exact h
  | proceed step same => exact h
  | sweep tenants => exact h
  | handle service shared posted first => exact arrive_requests first h
  | refuse refusal posted first => exact arrive_requests first h

structure Linked (d : Deployment) : Prop where
  assigned : ∀ j p, d.proxy.threads[j]? = some p → Assigned d j p
  handlers : ∀ i j, d.requests i = some (.handled j) → j < d.proxy.threads.length

theorem history_join (hbound : ∀ event ∈ d.proxy.trace, event.thread < d.proxy.threads.length) :
    history d.proxy.threads.length d.proxy.trace = [] := by
  rw [history, List.map_eq_nil_iff, List.filter_eq_nil_iff]
  intro event hevent
  have hlt := hbound event hevent
  simp only [decide_eq_true_eq]
  omega

theorem Linked.join (h : Linked d)
    {p : Program ToolProxy.ProxyCall ToolProxy.ProxyCall.Answer ToolProxy.ThreadResult}
    (hexecution : d'.execution = d.execution)
    (hthreads : d'.proxy.threads = d.proxy.threads ++ [p]) (htrace : d'.proxy.trace = d.proxy.trace)
    (hrequests : ∀ i exchange, d.requests i = some exchange → d'.requests i = some exchange)
    (hhandlers : ∀ i j, d'.requests i = some (.handled j) →
      d.requests i = some (.handled j) ∨ j = d.proxy.threads.length)
    (hnew : Assigned d' d.proxy.threads.length p) : Linked d' where
  assigned j q hq := by
    rw [hthreads] at hq
    obtain hold | hlast := Nat.lt_or_ge j d.proxy.threads.length
    · rw [List.getElem?_append_left hold] at hq
      exact (h.assigned j q hq).mono hrequests (fun _ _ h => hexecution ▸ h)
        fun _ h => htrace ▸ h
    · obtain rfl : j = d.proxy.threads.length := by
        obtain ⟨hlt, -⟩ := List.getElem?_eq_some_iff.mp hq
        simp only [List.length_append, List.length_singleton] at hlt
        omega
      obtain rfl : p = q := by simpa using hq
      exact hnew
  handlers i j hhandled := by
    rw [hthreads, List.length_append, List.length_singleton]
    obtain hold | rfl := hhandlers i j hhandled
    · exact Nat.lt_succ_of_lt (h.handlers i j hold)
    · exact Nat.lt_succ_self _

theorem Linked.refuse (h : Linked d) {i status : Nat} (first : d.requests i = none) :
    Linked (d.arrive i (.refused status)) where
  assigned j p hp :=
    (h.assigned j p hp).mono (fun _ _ h => arrive_requests first h) (fun _ _ h => h) fun _ h => h
  handlers k j hhandled := by
    by_cases hk : k = i
    · subst hk
      have hsame : (d.arrive k (.refused status)).requests k = some (.refused status) :=
        Function.update_self ..
      exact nomatch hsame.symm.trans hhandled
    · exact h.handlers k j ((Function.update_of_ne hk _ _).symm.trans hhandled)

/-- **Requests**: in any deployment, whatever a thread of the proxy does, it does for the thread of
a coordinator that has sent the request, unless it sweeps. -/
theorem Reachable.linked (h : Reachable coordinator codec d) : Linked d := by
  induction h with
  | refl => exact ⟨by simp [Deployment.initial, System.initial], nofun⟩
  | @tail d d' hbefore hstep ih =>
    have hbound := (Reachable.proxy hbefore).resumes.1
    cases hstep with
    | coordinate step delivered =>
      refine ⟨fun j p hp => ?_, ih.handlers⟩
      exact (ih.assigned j p hp).mono (fun _ _ h => h) (fun _ _ h => h.step step) fun _ h => h
    | @proceed cfg step same =>
      refine ⟨fun j q hq => ?_, fun i j hhandled => same ▸ ih.handlers i j hhandled⟩
      obtain ⟨hj, -⟩ := List.getElem?_eq_some_iff.mp hq
      obtain ⟨p, hthread⟩ : ∃ p, d.proxy.threads[j]? = some p :=
        ⟨_, List.getElem?_eq_getElem (same ▸ hj)⟩
      refine (ih.assigned j p hthread).mono (fun _ _ h => h) (fun _ _ h => h) fun p₀ hresumes => ?_
      obtain ⟨q', hq', hgone⟩ := step.resumes hthread hresumes
      obtain rfl := Option.some.inj (hq.symm.trans hq')
      exact hgone
    | sweep tenants =>
      refine ih.join rfl rfl rfl (fun _ _ h => h) (fun _ _ h => .inl h) (.inr ⟨tenants, ?_⟩)
      show Resumes _ (history _ d.proxy.trace) _
      rw [history_join hbound]
      exact .refl _
    | @handle i request service shared posted first =>
      refine ih.join rfl rfl rfl (fun _ _ h => arrive_requests first h) (fun k j hhandled => ?_)
        (.inl ⟨i, service, request, Function.update_self .., posted, ?_⟩)
      · by_cases hk : k = i
        · subst hk
          have hsame : (d.arrive k (.handled d.proxy.threads.length)).requests k =
              some (.handled d.proxy.threads.length) := Function.update_self ..
          obtain rfl := Exchange.handled.inj (Option.some.inj (hsame.symm.trans hhandled))
          exact .inr rfl
        · exact .inl ((Function.update_of_ne hk _ _).symm.trans hhandled)
      · show Resumes _ (history _ d.proxy.trace) _
        rw [history_join hbound]
        exact .refl _
    | refuse refusal posted first => exact ih.refuse first

-- Keys

theorem invokedKey_of_waiting
    {p : Program ExecutionCall ExecutionCall.Answer ThreadResult} (hcaller : Caller coordinator p)
    {entries : List ExecutionEntry} {request : AuthorizedToolRequest} {key fenceDigest : String}
    {resume : Except ExecutionError SanitizedToolResult →
      Program ExecutionCall ExecutionCall.Answer ThreadResult}
    (hresumes : Resumes p entries (.perform (.toolExecute request key fenceDigest) resume)) :
    invokedKey (.toolExecute request key fenceDigest) = some (ToolProxy.rowKey request) := by
  obtain ⟨reserved, ledgerEvent, authorized, -, hcall⟩ := hcaller.licensed hresumes
  obtain ⟨rfl, rfl, -⟩ := ExecutionCall.toolExecute.inj hcall
  rfl

variable {cfg : ExecutionConfig} {i k : Nat} {request request' : AuthorizedToolRequest}

theorem Posted.startedBy (h : Posted cfg i request)
    (hreach : (system coordinator).Reachable .default cfg) :
    StartedBy i (ToolProxy.rowKey request) cfg.trace := by
  obtain ⟨key, fenceDigest, resume, hthread⟩ | ⟨event, hevent, rfl, key, fenceDigest, hcall⟩ := h
  · obtain ⟨p, hcaller, hresumes⟩ := hreach.resumes.2 i _ hthread
    exact (pending_startedBy hreach hthread (invokedKey_of_waiting hcaller hresumes)).1
  · obtain ⟨before, after, htrace⟩ := List.append_of_mem hevent
    obtain ⟨i, call, answer, ledger, ledger'⟩ := event
    obtain rfl : call = .toolExecute request key fenceDigest := hcall
    obtain ⟨p, resume, hcaller, hresumes⟩ := hreach.called htrace
    rw [htrace]
    exact (event_startedBy hreach htrace (invokedKey_of_waiting hcaller hresumes)).append _

theorem Posted.unique (h : Posted cfg i request) (h' : Posted cfg k request')
    (hreach : (system coordinator).Reachable .default cfg)
    (hkey : ToolProxy.rowKey request = ToolProxy.rowKey request') : i = k :=
  (h.startedBy hreach).unique (traced_always hreach).1 (hkey ▸ h'.startedBy hreach)

theorem Assigned.connects (h : Reachable coordinator codec d) {j : Nat}
    {p : Program ToolProxy.ProxyCall ToolProxy.ProxyCall.Answer ToolProxy.ThreadResult}
    (hassigned : Assigned d j p) {before rest : List ToolProxy.ProxyEvent}
    (htrace : d.proxy.trace = before ++ rest) {call : ToolProxy.ProxyCall}
    (hcomes : ∀ p₀, Resumes p₀ (history j d.proxy.trace) p →
      ∃ resume, Resumes p₀ (history j before) (.perform call resume))
    {key : TenantId × IdempotencyKey} (hkey : ToolProxy.connectorKey call = some key) :
    ∃ i request, d.requests i = some (.handled j) ∧ Posted d.execution i request ∧
      ToolProxy.rowKey request = key := by
  obtain ⟨i, service, request, hhandled, hposted, hresumes⟩ | ⟨tenants, hresumes⟩ := hassigned
  · obtain ⟨resume, hcalled⟩ := hcomes _ hresumes
    have hmay := ToolProxy.mayCall_of_execution hcalled
      (ToolProxy.possible_history h.proxy htrace j)
    refine ⟨i, request, hhandled, hposted, ?_⟩
    cases call with
    | connectorExecute profile context arguments lease remaining =>
      exact hmay.1.symm.trans (Option.some.inj hkey)
    | _ => cases hkey
  · obtain ⟨resume, hcalled⟩ := hcomes _ hresumes
    obtain ⟨tenant, recovered, rfl⟩ := ToolProxy.isRecovery_of_sweep hcalled
    cases hkey

theorem connected_by (h : Reachable coordinator codec d) {event : ToolProxy.ProxyEvent}
    (hevent : event ∈ d.proxy.trace) {key : TenantId × IdempotencyKey}
    (hkey : ToolProxy.connectorKey event.call = some key) :
    ∃ i request, d.requests i = some (.handled event.thread) ∧ Posted d.execution i request ∧
      ToolProxy.rowKey request = key := by
  obtain ⟨before, after, htrace⟩ := List.append_of_mem hevent
  obtain ⟨p, hthread⟩ : ∃ p, d.proxy.threads[event.thread]? = some p :=
    ⟨_, List.getElem?_eq_getElem (h.proxy.resumes.1 event hevent)⟩
  refine (h.linked.assigned _ _ hthread).connects h htrace (fun p₀ hresumes => ?_) hkey
  rw [htrace, history_append, history_cons_self] at hresumes
  obtain ⟨resume, hcalled, -⟩ := hresumes.split
  exact ⟨resume, hcalled⟩

end Runs

end AgentSphere.Boundary
