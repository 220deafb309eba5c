import AgentSphere.Lib.Ports
import AgentSphere.ToolProxy.Service

/-!
# What one execution does

The calls of an execution, whatever its ports answer. The row is prepared first; the row is marked
only after that, and the connector runs only after the row was marked, and only once. An execution
that reports a failure has not called the connector.
-/

namespace AgentSphere.ToolProxy

open Concurrency Proxying

def isEffect : ProxyCall → Bool
  | .store _ | .connectorExecute .. => true
  | _ => false

def effects (entries : List ProxyEntry) : List ProxyEntry :=
  entries.filter fun entry => isEffect entry.1

theorem effects_append (entries entries' : List ProxyEntry) :
    effects (entries ++ entries') = effects entries ++ effects entries' :=
  List.filter_append ..

theorem effects_quiet {entries : List ProxyEntry}
    (h : ∀ entry ∈ entries, isEffect entry.1 = false) :
    effects entries = [] := by
  rw [effects, List.filter_eq_nil_iff]
  intro entry hentry
  simp [h entry hentry]

theorem effects_snoc (entries : List ProxyEntry) {call : ProxyCall} (answer : call.Answer)
    (h : isEffect call = true) :
    effects (entries ++ [⟨call, answer⟩]) = effects entries ++ [⟨call, answer⟩] := by
  simp [effects, h]

theorem effects_snoc_other (entries : List ProxyEntry) {call : ProxyCall} (answer : call.Answer)
    (h : isEffect call = false) : effects (entries ++ [⟨call, answer⟩]) = effects entries := by
  simp [effects, h]

def connectorKey : ProxyCall → Option (TenantId × IdempotencyKey)
  | .connectorExecute _ context _ _ _ => some (context.tenantId, context.idempotencyKey)
  | _ => none

def Unconnected (entries : List ProxyEntry) : Prop :=
  ∀ entry ∈ entries, connectorKey entry.1 = none

theorem connectorKey_eq_none {call : ProxyCall} (h : isEffect call = false) :
    connectorKey call = none := by
  cases call <;> first | rfl | cases h

theorem unconnected_iff {entries : List ProxyEntry} :
    Unconnected entries ↔ Unconnected (effects entries) := by
  constructor
  · exact fun h entry hentry => h entry (List.mem_of_mem_filter hentry)
  · intro h entry hentry
    cases heffect : isEffect entry.1 with
    | true => exact h entry (List.mem_filter.mpr ⟨hentry, heffect⟩)
    | false => exact connectorKey_eq_none heffect

abbrev preparedEntry (request : AuthorizedToolRequest) (outcome : PrepareOutcome) : ProxyEntry :=
  ⟨.store (.prepare request), .ok outcome⟩

/-- The row of the request was marked: `run_prepared` is entered. -/
abbrev markedEntry (request : AuthorizedToolRequest) (owner : String) (leaseFor : Nat) :
    ProxyEntry :=
  ⟨.store (.markExecuting (rowKey request) owner leaseFor), .ok ()⟩

def MayCall (request : AuthorizedToolRequest) (entries : List ProxyEntry) : ProxyCall → Prop
  | .store (.prepare request') => entries = [] ∧ request' = request
  | .store (.markExecuting key _ _) =>
    key = rowKey request ∧ ∃ outcome, effects entries = [preparedEntry request outcome]
  | .connectorExecute _ context _ _ _ =>
    (context.tenantId, context.idempotencyKey) = rowKey request ∧ ∃ outcome owner leaseFor,
      effects entries = [preparedEntry request outcome, markedEntry request owner leaseFor]
  | .store (.recover ..) => False
  | _ => True

def Possible : (call : ProxyCall) → call.Answer → Prop
  | .store _, .error e => e ≠ .registryTrustInvalid
  | _, _ => True

def conduct (request : AuthorizedToolRequest) :
    Monitor ProxyCall ProxyCall.Answer (List ProxyEntry) :=
  recording (MayCall request) Possible

def Concluded (result : Except ProductionProxyError ProductionExecutionOutcome)
    (entries : List ProxyEntry) : Prop :=
  result ≠ .error .registryTrustInvalid ∧
    ∀ code, result = .ok (.failed code) → Unconnected entries

section Rules

variable {ε α β M : Type} {mon : Monitor ProxyCall ProxyCall.Answer M} {m : M}
  {Post : Except ε β → M → Prop}

theorem ask_bind {call : ProxyCall} {f : call.Answer → Proxying ε β} (hmay : mon.Allowed m call)
    (hrest : ∀ answer, mon.Ensures Post (f answer).run (mon.next m call answer)) :
    mon.Ensures Post (ask call >>= f).run m :=
  Monitor.ask_bind hmay hrest

theorem ofExcept_bind {r : Except ε α} {f : α → Proxying ε β}
    (hok : ∀ a, r = .ok a → mon.Ensures Post (f a).run m)
    (herror : ∀ e, Post (.error e) m) :
    mon.Ensures Post (Attempt.ofExcept r >>= f).run m :=
  Monitor.ofExcept_bind hok fun e _ => herror e

theorem port_bind {call : ProxyCall} {read : call.Answer → Except ε α} {f : α → Proxying ε β}
    (hmay : mon.Allowed m call)
    (hok : ∀ answer a, read answer = .ok a →
      mon.Ensures Post (f a).run (mon.next m call answer))
    (herror : ∀ answer e, Post (.error e) (mon.next m call answer)) :
    mon.Ensures Post (port call read >>= f).run m :=
  Monitor.port_bind hmay hok fun answer e _ => herror answer e

theorem ensure_bind {condition : Prop} [Decidable condition] {e : ε} {f : Unit → Proxying ε β}
    (hok : condition → mon.Ensures Post (f ()).run m) (herror : Post (.error e) m) :
    mon.Ensures Post (Attempt.ensure condition e >>= f).run m :=
  Monitor.ensure_bind hok fun _ => herror

theorem lift_bind {p : Program ProxyCall ProxyCall.Answer α} {f : α → Proxying ε β}
    (h : mon.Ensures (fun a m' => mon.Ensures Post (f a).run m') p m) :
    mon.Ensures Post (ExceptT.lift p >>= f).run m :=
  Monitor.lift_bind h

end Rules

-- Parts without effects

def quietly : Monitor ProxyCall ProxyCall.Answer Unit := only fun call => isEffect call = false

section Quiet

variable {service : ProductionToolProxyService}

def PreparedFor (request : AuthorizedToolRequest)
    (result : Except ProxyError PreparedToolExecution) : Prop :=
  ∀ prepared, result = .ok prepared → prepared.request = request ∧
    (prepared.context.tenantId, prepared.context.idempotencyKey) = rowKey request

theorem PreparedFor.error {request : AuthorizedToolRequest} {e : ProxyError} :
    PreparedFor request (.error e) :=
  fun _ h => nomatch h

theorem quietly_preflight (request : AuthorizedToolRequest) :
    quietly.Ensures (fun result _ => PreparedFor request result)
      (service.preflight request).run () := by
  unfold ProductionToolProxyService.preflight
  refine ask_bind rfl fun checkedAt => ?_
  refine port_bind rfl (fun _ _ _ => ?_) fun _ _ => .error
  refine port_bind rfl (fun _ resolved _ => ?_) fun _ _ => .error
  refine ensure_bind (fun _ => ?_) .error
  refine port_bind rfl (fun _ revoked _ => ?_) fun _ _ => .error
  refine ensure_bind (fun _ => ?_) .error
  refine port_bind rfl (fun _ _ _ => ?_) fun _ _ => .error
  refine ensure_bind (fun _ => ?_) .error
  refine ensure_bind (fun _ => ?_) .error
  refine ensure_bind (fun _ => ?_) .error
  refine ofExcept_bind (fun authorizationDigest _ => ?_) fun _ => .error
  refine port_bind rfl (fun _ _ _ => ?_) fun _ _ => .error
  refine ask_bind rfl fun consumedAt => ?_
  refine port_bind rfl (fun _ receipt _ => ?_) fun _ _ => .error
  refine ofExcept_bind (fun _ _ => ?_) fun _ => .error
  rintro prepared ⟨⟩
  exact ⟨rfl, rfl⟩

theorem quietly_revoke {β : Type} {f : Except ProxyError Unit → Proxying ProxyError β}
    {Post : Except ProxyError β → Unit → Prop} (leaseId : String)
    (hrest : ∀ revoked, quietly.Ensures Post (f revoked).run ()) :
    quietly.Ensures Post (ProductionToolProxyService.revokeSecretLease leaseId >>= f).run () := by
  rw [Monitor.ensures_attempt_bind, ProductionToolProxyService.revokeSecretLease]
  refine ask_bind rfl fun first => ?_
  cases first with
  | ok _ => exact hrest (.ok ())
  | error e => exact ⟨rfl, fun second _ => hrest second⟩

theorem quietly_sanitize (prepared : PreparedToolExecution) (context : ConnectorContext)
    (lease : SecretLease) (raw : RawToolResult) :
    quietly.Ensures (fun _ _ => True) (service.sanitize prepared context lease raw).run () := by
  unfold ProductionToolProxyService.sanitize
  refine port_bind rfl (fun _ _ _ => ?_) fun _ _ => trivial
  refine ofExcept_bind (fun rawSize _ => ?_) fun _ => trivial
  refine ensure_bind (fun _ => ?_) trivial
  refine ensure_bind (fun _ => ?_) trivial
  refine port_bind rfl (fun _ filtered _ => ?_) fun _ _ => trivial
  refine port_bind rfl (fun _ _ _ => ?_) fun _ _ => trivial
  refine ofExcept_bind (fun resultHash _ => ?_) fun _ => trivial
  refine ofExcept_bind (fun resultSize _ => ?_) fun _ => trivial
  exact ensure_bind (fun _ => trivial) trivial

end Quiet

section Execution

variable {service : ProductionToolProxyService} {request : AuthorizedToolRequest}
  {entries : List ProxyEntry}

theorem conduct_of_quietly {α : Type} {Q : α → Prop} {p : Program ProxyCall ProxyCall.Answer α}
    (h : quietly.Ensures (fun a _ => Q a) p ()) :
    (conduct request).Ensures (fun a entries' => Q a ∧ effects entries' = effects entries)
      p entries := by
  refine (h.recorded ?_ entries).mono fun a entries' hmore => ?_
  · intro entries call hquiet
    cases call <;> trivial
  · obtain ⟨hresult, more, rfl, hcalls⟩ := hmore
    refine ⟨hresult, ?_⟩
    rw [effects_append, effects_quiet hcalls, List.append_nil]

theorem quiet_ask_bind {ε β : Type} {call : ProxyCall} {f : call.Answer → Proxying ε β}
    {Post : Except ε β → List ProxyEntry → Prop} (hquiet : isEffect call = false)
    (hrest : ∀ answer entries', effects entries' = effects entries →
      (conduct request).Ensures Post (f answer).run entries') :
    (conduct request).Ensures Post (ask call >>= f).run entries := by
  refine ask_bind ?_ fun answer => hrest answer _ (effects_snoc_other _ _ hquiet)
  show MayCall request entries call
  cases call <;> trivial

theorem quiet_port_bind {ε α β : Type} {call : ProxyCall} {read : call.Answer → Except ε α}
    {f : α → Proxying ε β} {Post : Except ε β → List ProxyEntry → Prop}
    (hquiet : isEffect call = false)
    (hok : ∀ a entries', effects entries' = effects entries →
      (conduct request).Ensures Post (f a).run entries')
    (herror : ∀ e entries', Post (.error e) entries') :
    (conduct request).Ensures Post (port call read >>= f).run entries := by
  rw [Monitor.ensures_attempt_bind, port]
  refine quiet_ask_bind hquiet fun answer entries' heffects => ?_
  rw [Monitor.ensures_ofExcept]
  cases read answer with
  | ok a => exact hok a entries' heffects
  | error e => exact herror e entries'

theorem conduct_giveUp {α : Type} (leaseId : String) (e : ProxyError) :
    (conduct request).Ensures (fun _ _ => True)
      (ProductionToolProxyService.giveUp leaseId e : Proxying ProxyError α).run entries := by
  have hquiet : quietly.Ensures (fun _ _ => True)
      (ProductionToolProxyService.giveUp leaseId e : Proxying ProxyError α).run () :=
    quietly_revoke leaseId fun _ => trivial
  exact (conduct_of_quietly hquiet).mono fun _ _ _ => trivial

theorem conduct_connect {prepared : PreparedToolExecution} {context : ConnectorContext}
    {lease : SecretLease} {remaining : Nat} {outcome : PrepareOutcome} {owner : String}
    {leaseFor : Nat} (hkey : (context.tenantId, context.idempotencyKey) = rowKey request)
    (heffects : effects entries =
      [preparedEntry request outcome, markedEntry request owner leaseFor]) :
    (conduct request).Ensures (fun _ _ => True)
      (service.connect prepared context lease remaining).run entries := by
  unfold ProductionToolProxyService.connect
  refine ask_bind ⟨hkey, outcome, owner, leaseFor, heffects⟩ fun execution => ?_
  refine (conduct_of_quietly (Q := fun _ => True) ?_).mono fun _ _ _ => trivial
  refine quietly_revoke _ fun revoked => ?_
  refine ofExcept_bind (fun raw _ => ?_) fun _ => trivial
  refine ofExcept_bind (fun _ _ => ?_) fun _ => trivial
  exact quietly_sanitize ..

theorem conduct_runPrepared {prepared : PreparedToolExecution} {outcome : PrepareOutcome}
    {owner : String} {leaseFor : Nat}
    (hkey : (prepared.context.tenantId, prepared.context.idempotencyKey) = rowKey request)
    (heffects : effects entries =
      [preparedEntry request outcome, markedEntry request owner leaseFor]) :
    (conduct request).Ensures (fun _ _ => True) (service.runPrepared prepared).run entries := by
  unfold ProductionToolProxyService.runPrepared
  refine quiet_ask_bind rfl fun checkedAt entries₁ h₁ => ?_
  refine quiet_port_bind rfl (fun _ entries₂ h₂ => ?_) fun _ _ => trivial
  refine ensure_bind (fun _ => ?_) trivial
  refine ensure_bind (fun _ => ?_) trivial
  refine quiet_port_bind rfl (fun lease entries₃ h₃ => ?_) fun _ _ => trivial
  split
  · exact conduct_giveUp _ _
  · refine quiet_ask_bind rfl fun now entries₄ h₄ => ?_
    split
    · exact conduct_giveUp _ _
    · have hsame : effects entries₄ =
          [preparedEntry request outcome, markedEntry request owner leaseFor] := by
        rw [h₄, h₃, h₂, h₁, heffects]
      exact conduct_connect hkey hsame

theorem Concluded.error {e : ProductionProxyError} (h : e ≠ .registryTrustInvalid) :
    Concluded (.error e) entries :=
  ⟨fun heq => h (Except.error.inj heq), fun _ hok => nomatch hok⟩

theorem transaction_bind {β : Type} {call : StoreCall}
    {f : call.Result → Proxying ProductionProxyError β}
    {Post : Except ProductionProxyError β → List ProxyEntry → Prop}
    (hmay : MayCall request entries (.store call))
    (hok : ∀ result, (conduct request).Ensures Post (f result).run
      (entries ++ [⟨.store call, .ok result⟩]))
    (herror : ∀ e, e ≠ .registryTrustInvalid →
      Post (.error e) (entries ++ [⟨.store call, .error e⟩])) :
    (conduct request).Ensures Post (transaction call >>= f).run entries := by
  rw [Monitor.ensures_attempt_bind]
  refine ⟨hmay, fun answer hpossible => ?_⟩
  cases answer with
  | ok result => exact hok result
  | error e => exact herror e hpossible

theorem conduct_finish {prepared : PreparedToolExecution} {outcome : PrepareOutcome}
    {owner : String} {leaseFor : Nat}
    (hkey : (prepared.context.tenantId, prepared.context.idempotencyKey) = rowKey request)
    (heffects : effects entries =
      [preparedEntry request outcome, markedEntry request owner leaseFor]) :
    (conduct request).Ensures Concluded (service.finish request prepared).run entries := by
  unfold ProductionToolProxyService.finish
  refine lift_bind ((conduct_runPrepared hkey heffects).mono fun result entries' _ => ?_)
  cases result with
  | ok result => exact transaction_bind trivial (fun _ => ⟨nofun, nofun⟩) fun e => .error
  | error e => exact transaction_bind trivial (fun _ => ⟨nofun, nofun⟩) fun e => .error

theorem conduct_attempt {outcome : PrepareOutcome}
    (heffects : effects entries = [preparedEntry request outcome]) :
    (conduct request).Ensures Concluded (service.attempt request).run entries := by
  unfold ProductionToolProxyService.attempt
  refine lift_bind ((conduct_of_quietly (quietly_preflight request)).mono ?_)
  rintro result entries' ⟨hprepared, hquiet⟩
  rw [heffects] at hquiet
  cases result with
  | ok prepared =>
    refine transaction_bind ⟨rfl, outcome, hquiet⟩ (fun _ => ?_) fun e => .error
    have hmarked : effects (entries' ++ [markedEntry request service.executionOwner
        (prepared.timeout + 30000000000)]) = [preparedEntry request outcome,
          markedEntry request service.executionOwner (prepared.timeout + 30000000000)] := by
      rw [effects_snoc _ _ rfl, hquiet]
      rfl
    exact conduct_finish (hprepared prepared rfl).2 hmarked
  | error e =>
    dsimp only
    split
    · refine transaction_bind trivial (fun _ => ⟨nofun, fun code _ => ?_⟩) fun e => .error
      -- the connector would be among the effects
      rw [unconnected_iff, effects_snoc _ _ rfl, hquiet]
      simp [Unconnected, connectorKey]
    · exact .error (by simp)

/-- **Conduct**: whatever its ports answer, an execution calls only what it may, and when it
reports a failure no connector ran. -/
theorem conduct_execute (service : ProductionToolProxyService) (request : AuthorizedToolRequest) :
    (conduct request).Ensures Concluded (service.execute request).run [] := by
  unfold ProductionToolProxyService.execute
  refine transaction_bind ⟨rfl, rfl⟩ (fun outcome => ?_) fun e => .error
  cases outcome with
  | replaySucceeded result => exact ⟨nofun, nofun⟩
  | replayFailed code => exact ⟨nofun, fun _ _ => by simp [Unconnected, connectorKey]⟩
  | unknown => exact ⟨nofun, nofun⟩
  | new => exact conduct_attempt rfl
  | retryPrepared => exact conduct_attempt rfl

end Execution

section Threads

variable {codec : ProxyCodec} {p : Program ProxyCall ProxyCall.Answer ThreadResult}
  {entries : List ProxyEntry}

def IsRecovery (call : ProxyCall) : Prop :=
  ∃ tenant recovered, call = .store (.recover tenant recovered)

theorem only_recoverExpiredExecuting (tenants : List TenantId) :
    (only IsRecovery).Ensures (fun _ _ => True) (recoverExpiredExecuting tenants).run ⟨⟩ := by
  unfold recoverExpiredExecuting
  generalize 0 = recovered
  induction tenants generalizing recovered with
  | nil => trivial
  | cons tenant tenants ih =>
    rw [List.foldlM_cons]
    exact port_bind ⟨tenant, recovered, rfl⟩ (fun _ recovered' _ => ih recovered')
      fun _ _ => trivial

theorem mayCall_of_execution {service : ProductionToolProxyService}
    {request : AuthorizedToolRequest} {call : ProxyCall}
    {resume : call.Answer → Program ProxyCall ProxyCall.Answer ThreadResult}
    (hresumes : Resumes ((service.execute request).run >>= fun result => .done (some result))
      entries (.perform call resume))
    (hpossible : ∀ entry ∈ entries, Possible entry.1 entry.2) : MayCall request entries call := by
  have hconduct : (conduct request).Ensures (fun _ _ => True)
      ((service.execute request).run >>= fun result => .done (some result)) [] :=
    Monitor.ensures_bind.mpr ((conduct_execute service request).mono fun _ _ _ => trivial)
  have hrest := hconduct.resumes hresumes hpossible
  rw [List.nil_append] at hrest
  exact hrest.1

theorem concluded_of_execution {service : ProductionToolProxyService}
    {request : AuthorizedToolRequest}
    {result : Except ProductionProxyError ProductionExecutionOutcome}
    (hresumes : Resumes ((service.execute request).run >>= fun result => .done (some result))
      entries (.done (some result)))
    (hpossible : ∀ entry ∈ entries, Possible entry.1 entry.2) : Concluded result entries := by
  have hconduct : (conduct request).Ensures
      (fun thread entries => ∀ result, thread = some result → Concluded result entries)
      ((service.execute request).run >>= fun result => .done (some result)) [] := by
    refine Monitor.ensures_bind.mpr
      ((conduct_execute service request).mono fun result entries hconcluded => ?_)
    rintro _ ⟨⟩
    exact hconcluded
  have hrest := hconduct.resumes hresumes hpossible
  rw [List.nil_append] at hrest
  exact hrest result rfl

theorem isRecovery_of_sweep {tenants : List TenantId} {call : ProxyCall}
    {resume : call.Answer → Program ProxyCall ProxyCall.Answer ThreadResult}
    (hresumes : Resumes ((recoverExpiredExecuting tenants).run >>= fun _ => .done none)
      entries (.perform call resume)) : IsRecovery call := by
  let finish : Except ProductionProxyError Nat →
    Program ProxyCall ProxyCall.Answer ThreadResult := fun _ => .done none
  have hsweep : (only IsRecovery).Ensures (fun _ _ => True)
      ((recoverExpiredExecuting tenants).run >>= finish) ⟨⟩ :=
    Monitor.ensures_bind.mpr ((only_recoverExpiredExecuting tenants).mono fun _ _ _ => trivial)
  have hrecorded : (recording (fun _ => IsRecovery) fun _ _ => True).Ensures _ _ [] :=
    hsweep.recorded (Q := fun _ => True) (fun _ _ h => h) []
  exact (hrecorded.resumes hresumes fun _ _ => trivial).1

theorem Caller.mayCall (h : Caller codec p) {call : ProxyCall}
    {resume : call.Answer → Program ProxyCall ProxyCall.Answer ThreadResult}
    (hresumes : Resumes p entries (.perform call resume))
    (hpossible : ∀ entry ∈ entries, Possible entry.1 entry.2) :
    (∃ request, MayCall request entries call) ∨ IsRecovery call := by
  cases h with
  | execution service shared request =>
    exact .inl ⟨request, mayCall_of_execution hresumes hpossible⟩
  | sweep tenants => exact .inr (isRecovery_of_sweep hresumes)

theorem Caller.prepares (h : Caller codec p) {request : AuthorizedToolRequest}
    {resume : Except ProductionProxyError PrepareOutcome →
      Program ProxyCall ProxyCall.Answer ThreadResult}
    (hresumes : Resumes p entries (.perform (.store (.prepare request)) resume))
    (hpossible : ∀ entry ∈ entries, Possible entry.1 entry.2) :
    entries = [] ∧ ∃ service : ProductionToolProxyService, service.codec = codec ∧
      p = ((service.execute request).run >>= fun result => .done (some result)) := by
  rcases h.mayCall hresumes hpossible with ⟨request', rfl, rfl⟩ | ⟨tenant, recovered, hcall⟩
  · refine ⟨rfl, ?_⟩
    cases h with
    | execution service shared request' =>
      cases hresumes
      exact ⟨service, shared, rfl⟩
    | sweep tenants =>
      cases tenants with
      | nil => cases hresumes
      | cons tenant tenants => cases hresumes
  · cases hcall

end Threads

end AgentSphere.ToolProxy
