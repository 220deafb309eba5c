import AgentSphere.Execution.Progress
import AgentSphere.Lib.Claims
import AgentSphere.Mcp.Naming

/-!
# What a call of a tool is granted

Runs of any number of calls and operators on one proxy. The transport is called for a request only
after everything in it was compared with an approved tool, with the action it names and with an
authorization that verifies, and only by the one call that has used up that authorization. The
status of the server is looked at once, before all this; whether the server is still in use when
the transport is called is another matter.
-/

namespace AgentSphere.Mcp

open Concurrency Attempt McpSecurityProxy

section Conduct

variable {Bytes VerifyingKey : Type}

structure Verified (codec : CallCodec Bytes VerifyingKey) (proxy : McpSecurityProxy)
    (auth : ExecutionAuthorization) (actionHash : ActionHash) (snapshotHash : String)
    (entries : List (McpEntry VerifyingKey)) : Prop where
  scope : auth.actionHash = actionHash ∧ auth.toolSnapshotHash = snapshotHash ∧
    auth.singleUse = true
  verified : ∃ key now, ⟨.authorizationKey auth.keyId, some (auth.issuer, key)⟩ ∈ entries ∧
    ⟨.utcNow, now⟩ ∈ entries ∧ auth.verify (codec.authorization key) now = .ok ()
  consumed : proxy.authorizationDurable = true →
    ⟨.consumeAuthorization auth.tenantId auth.authorizationId actionHash snapshotHash,
      .ok true⟩ ∈ entries
  claimed : ⟨.markUsed auth.authorizationId, true⟩ ∈ entries

structure Cleared (codec : CallCodec Bytes VerifyingKey) (proxy : McpSecurityProxy)
    (request : McpCallRequest) (arguments : Value) (snapshot : ToolSchemaSnapshot)
    (entries : List (McpEntry VerifyingKey)) : Prop where
  tenant : request.authorization.tenantId = request.tenantId
  lookedUp : ⟨.approvedTool request.tenantId request.serverId request.toolName,
    .ok snapshot⟩ ∈ entries
  parsed : ActionIr.parseStrictJson callLimits request.argumentsJson = .ok arguments
  admitted : ∃ validator, codec.registry.validatorFor snapshot.inputSchema = some validator ∧
    validator arguments = true
  bound : checkBinding codec proxy.durable request snapshot arguments = .ok ()
  authorized : Verified codec proxy request.authorization request.actionHash
    snapshot.snapshotHash entries

def grantOf : McpCall VerifyingKey → Option String
  | .transport request _ => some request.authorization.authorizationId
  | _ => none

def MayCall (codec : CallCodec Bytes VerifyingKey) (proxy : McpSecurityProxy)
    (request : McpCallRequest) (entries : List (McpEntry VerifyingKey)) :
    McpCall VerifyingKey → Prop
  | .transport request' arguments => request' = request ∧
    (∃ snapshot, Cleared codec proxy request arguments snapshot entries) ∧
    ∀ entry ∈ entries, grantOf entry.1 = none
  | _ => True

def conduct (codec : CallCodec Bytes VerifyingKey) (proxy : McpSecurityProxy)
    (request : McpCallRequest) :
    Monitor (McpCall VerifyingKey) McpCall.Answer (List (McpEntry VerifyingKey)) :=
  recording (MayCall codec proxy request) fun _ _ => True

def FitsRequest (codec : CallCodec Bytes VerifyingKey) (request : McpCallRequest)
    (result : Except McpError SanitizedMcpResult) : Prop :=
  ∀ answer, result = .ok answer →
    (codec.render answer.value).utf8ByteSize ≤ request.maximumResultBytes

variable {codec : CallCodec Bytes VerifyingKey} {proxy : McpSecurityProxy}
  {request : McpCallRequest} {entries : List (McpEntry VerifyingKey)}

theorem FitsRequest.error {e : McpError} : FitsRequest codec request (.error e) :=
  fun _ h => nomatch h

theorem conduct_turnOff {α : Type} (e : McpError) {Q : Except McpError α → Prop}
    (h : ∀ e, Q (.error e)) :
    (conduct codec proxy request).Ensures (fun result _ => Q result)
      (turnOff request e : Calling VerifyingKey α).run entries :=
  Monitor.port_bind trivial (fun _ _ _ => h e) fun _ e' _ => h e'

theorem conduct_judge (snapshot : ToolSchemaSnapshot) (raw : RawMcpResult) :
    (conduct codec proxy request).Ensures (fun result _ => FitsRequest codec request result)
      (judge codec request snapshot raw).run entries := by
  unfold judge
  split
  · exact conduct_turnOff _ fun _ => .error
  · refine Monitor.ensure_bind (fun hsize => ?_) fun _ => .error
    refine Monitor.computed_bind (fun output _ => ?_) .error
    refine Monitor.ensure_bind (fun _ => ?_) fun _ => .error
    split
    · exact conduct_turnOff _ fun _ => .error
    · refine Monitor.computed_bind (fun resultHash _ => ?_) .error
      rintro answer ⟨⟩
      exact hsize

def Quiet (entries : List (McpEntry VerifyingKey)) : Prop :=
  ∀ entry ∈ entries, grantOf entry.1 = none

theorem Quiet.snoc (h : Quiet entries) {call : McpCall VerifyingKey} (answer : call.Answer)
    (hcall : grantOf call = none) : Quiet (entries ++ [⟨call, answer⟩]) := by
  intro entry hentry
  obtain hold | hnew := List.mem_append.mp hentry
  · exact h entry hold
  · obtain rfl := List.mem_singleton.mp hnew
    exact hcall

theorem conduct_verifyAndConsume (auth : ExecutionAuthorization) (actionHash : ActionHash)
    (snapshotHash : String) (now : DateTime) (hnow : ⟨.utcNow, now⟩ ∈ entries)
    (hquiet : Quiet entries) :
    (conduct codec proxy request).Ensures
      (fun result entries' => result = .ok () →
        entries <+: entries' ∧ Quiet entries' ∧
        Verified codec proxy auth actionHash snapshotHash entries')
      (proxy.verifyAndConsume codec auth actionHash snapshotHash now).run entries := by
  unfold verifyAndConsume
  refine Monitor.ask_bind trivial fun found => ?_
  refine Monitor.computed_bind (fun holder hfound => ?_) nofun
  obtain ⟨issuer, key⟩ := holder
  subst hfound
  refine Monitor.ensure_bind (fun hscope => ?_) fun _ => nofun
  obtain ⟨rfl, hscope⟩ := hscope
  refine Monitor.ofExcept_bind (fun _ hverify => ?_) fun _ _ => nofun
  rw [except_mapError_eq_ok] at hverify
  -- the store is asked only if there is one
  have hclaim : ∀ entries', entries <+: entries' → Quiet entries' →
      ⟨.authorizationKey auth.keyId, some (auth.issuer, key)⟩ ∈ entries' →
      (proxy.authorizationDurable = true → ⟨.consumeAuthorization auth.tenantId
        auth.authorizationId actionHash snapshotHash, .ok true⟩ ∈ entries') →
      (conduct codec proxy request).Ensures
        (fun result entries' => result = .ok () →
          entries <+: entries' ∧ Quiet entries' ∧
          Verified codec proxy auth actionHash snapshotHash entries')
        (do
          let unused ← ask (.markUsed auth.authorizationId)
          ensure (unused = true) .authorizationReplayed : Calling VerifyingKey Unit).run
        entries' := by
    intro entries' hpre hquiet' hkey hconsumed
    refine Monitor.ask_bind trivial fun unused => ?_
    rw [Monitor.ensures_ensure]
    refine ⟨?_, fun _ => nofun⟩
    rintro rfl -
    have hmore : ∀ {entry : McpEntry VerifyingKey}, entry ∈ entries' →
        entry ∈ entries' ++ [⟨.markUsed auth.authorizationId, true⟩] :=
      fun h => List.mem_append_left _ h
    refine ⟨hpre.trans (List.prefix_append _ _), hquiet'.snoc _ rfl, ?_⟩
    exact {
      scope := hscope
      verified := ⟨key, now, hmore hkey, hmore (hpre.subset hnow), hverify⟩
      consumed := fun durable => hmore (hconsumed durable)
      claimed := List.mem_concat_self }
  split
  · refine Monitor.port_bind trivial (fun answer fresh hfresh => ?_) fun _ _ _ => nofun
    refine Monitor.ensure_bind (fun hfresh' => ?_) fun _ => nofun
    obtain rfl : answer = .ok true := by rw [← hfresh']; exact hfresh
    refine hclaim _ ?_ ?_ ?_ ?_
    · exact (List.prefix_append _ _).trans (List.prefix_append _ _)
    · exact (hquiet.snoc _ rfl).snoc _ rfl
    · exact List.mem_append_left _ List.mem_concat_self
    · exact fun _ => List.mem_concat_self
  · next hvolatile =>
    exact hclaim _ (List.prefix_append _ _) (hquiet.snoc _ rfl) List.mem_concat_self
      fun durable => absurd durable hvolatile

theorem conduct_callToolInner (hquiet : Quiet entries) :
    (conduct codec proxy request).Ensures (fun result _ => FitsRequest codec request result)
      (proxy.callToolInner codec request).run entries := by
  unfold callToolInner
  refine Monitor.ensure_bind (fun hrequest => ?_) fun _ => .error
  refine Monitor.port_bind trivial (fun answer snapshot hsnapshot => ?_) fun _ _ _ => .error
  obtain rfl : answer = .ok snapshot := hsnapshot
  refine Monitor.ofExcept_bind (fun arguments hparsed => ?_) fun _ _ => .error
  rw [except_mapError_eq_ok] at hparsed
  refine Monitor.computed_bind (fun validator hvalidator => ?_) .error
  refine Monitor.ensure_bind (fun hadmitted => ?_) fun _ => .error
  refine Monitor.ofExcept_bind (fun _ hbound => ?_) fun _ _ => .error
  refine Monitor.ask_bind trivial fun permitted => ?_
  refine Monitor.ensure_bind (fun _ => ?_) fun _ => .error
  refine Monitor.ask_bind trivial fun now => ?_
  rw [Monitor.ensures_attempt_bind]
  refine (conduct_verifyAndConsume request.authorization request.actionHash
    snapshot.snapshotHash now List.mem_concat_self
    (((hquiet.snoc _ rfl).snoc _ rfl).snoc _ rfl)).mono fun result entries' hverified => ?_
  cases result with
  | error e => exact .error
  | ok _ =>
    obtain ⟨hpre, hquiet', hauthorized⟩ := hverified rfl
    have hlookedUp : ⟨.approvedTool request.tenantId request.serverId request.toolName,
        .ok snapshot⟩ ∈ entries' :=
      hpre.subset (List.mem_append_left _ (List.mem_append_left _ List.mem_concat_self))
    have hcleared : Cleared codec proxy request arguments snapshot entries' :=
      ⟨hrequest.2.2.2.2, hlookedUp, hparsed, ⟨validator, hvalidator, hadmitted⟩, hbound,
        hauthorized⟩
    refine Monitor.port_bind ⟨rfl, ⟨snapshot, hcleared⟩, hquiet'⟩ (fun _ raw _ => ?_)
      fun _ _ _ => .error
    exact conduct_judge snapshot raw

/-- **Conduct**: whatever is answered, a call of a tool calls the transport at most once, for what
it has cleared, and its result is not larger than it may be. -/
theorem conduct_callTool (codec : CallCodec Bytes VerifyingKey) (proxy : McpSecurityProxy)
    (request : McpCallRequest) :
    (conduct codec proxy request).Ensures (fun result _ => FitsRequest codec request result)
      (proxy.callTool codec request).run [] := by
  unfold callTool
  refine Monitor.lift_bind ((conduct_callToolInner (by simp [Quiet])).mono
    fun result entries hfits => ?_)
  split
  · refine Monitor.ask_bind trivial fun tool => ?_
    refine Monitor.ask_bind trivial fun occurredAt => ?_
    refine Monitor.port_bind trivial (fun _ _ _ => ?_) fun _ _ _ => .error
    exact Monitor.ensures_ofExcept.mpr hfits
  · exact Monitor.ensures_ofExcept.mpr hfits

end Conduct

section Threads

variable {Bytes VerifyingKey : Type} {codec : CallCodec Bytes VerifyingKey}
  {proxy : McpSecurityProxy} {Admits : McpCallRequest → Prop}
  {p : Program (McpCall VerifyingKey) McpCall.Answer ThreadResult}
  {entries : List (McpEntry VerifyingKey)}

theorem Caller.transport (h : Caller codec proxy Admits p) {request : McpCallRequest}
    {arguments : Value} {resume : Except McpError RawMcpResult →
      Program (McpCall VerifyingKey) McpCall.Answer ThreadResult}
    (hresumes : Resumes p entries (.perform (.transport request arguments) resume)) :
    Admits request ∧ MayCall codec proxy request entries (.transport request arguments) := by
  cases h with
  | callTool request' admitted =>
    have hconduct : (conduct codec proxy request').Ensures (fun _ _ => True)
        ((proxy.callTool codec request').run >>= fun result => .done (some (request', result)))
        [] :=
      Monitor.ensures_bind.mpr ((conduct_callTool codec proxy request').mono fun _ _ _ => trivial)
    have hrest := hconduct.resumes hresumes fun _ _ => trivial
    rw [List.nil_append] at hrest
    have hmay : MayCall codec proxy request' entries (.transport request arguments) := hrest.1
    obtain rfl : request = request' := hmay.1
    exact ⟨admitted, hmay⟩
  | operate operation =>
    cases hresumes with
    | perform rest => cases rest
  | addKey keyId issuer key =>
    cases hresumes with
    | perform rest => cases rest

theorem Caller.result (h : Caller codec proxy Admits p) {request : McpCallRequest}
    {result : Except McpError SanitizedMcpResult}
    (hresumes : Resumes p entries (.done (some (request, result)))) :
    Admits request ∧ FitsRequest codec request result := by
  cases h with
  | callTool request' admitted =>
    have hconduct : (conduct codec proxy request').Ensures
        (fun finished _ => finished = some (request, result) →
          Admits request ∧ FitsRequest codec request result)
        ((proxy.callTool codec request').run >>= fun result => .done (some (request', result)))
        [] := by
      refine Monitor.ensures_bind.mpr ((conduct_callTool codec proxy request').mono
        fun result' _ hfits => ?_)
      rintro ⟨⟩
      exact ⟨admitted, hfits⟩
    have hrest := hconduct.resumes hresumes fun _ _ => trivial
    exact hrest rfl
  | operate operation =>
    cases hresumes with
    | perform rest => cases rest
  | addKey keyId issuer key =>
    cases hresumes with
    | perform rest => cases rest

end Threads

section Runs

variable {Bytes VerifyingKey : Type} {codec : CallCodec Bytes VerifyingKey}
  {proxy : McpSecurityProxy} {Admits : McpCallRequest → Prop} {state : ProxyState VerifyingKey}
  {cfg : McpConfig VerifyingKey} {before after : List (McpEvent VerifyingKey)}
  {event : McpEvent VerifyingKey} {request : McpCallRequest} {arguments : Value}

def wonGrant : McpEntry VerifyingKey → Option String
  | ⟨.markUsed authorizationId, true⟩ => some authorizationId
  | _ => none

theorem wonGrant_eq_some {entry : McpEntry VerifyingKey} {authorizationId : String} :
    wonGrant entry = some authorizationId ↔ entry = ⟨.markUsed authorizationId, true⟩ := by
  constructor
  · intro h
    unfold wonGrant at h
    split at h
    · cases h
      rfl
    · cases h
  · rintro rfl
    rfl

theorem claims (codec : CallCodec Bytes VerifyingKey) (proxy : McpSecurityProxy)
    (Admits : McpCallRequest → Prop) :
    Claims (system codec proxy Admits) wonGrant fun state => {key | key ∈ state.used} where
  fresh := by
    intro state call answer state' key hserve hwon
    obtain ⟨rfl, hanswer⟩ := Sigma.mk.inj (wonGrant_eq_some.mp hwon)
    obtain rfl := eq_of_heq hanswer
    obtain ⟨hunused, -⟩ := hserve
    have hfalse : state.used.contains key = false := by simpa using hunused.symm
    intro hused
    rw [Set.mem_ofPred_eq, Std.ExtTreeSet.mem_iff_contains, hfalse] at hused
    cases hused
  kept := by
    intro state call answer state' key hserve hwon
    obtain ⟨rfl, -⟩ := Sigma.mk.inj (wonGrant_eq_some.mp hwon)
    obtain ⟨-, rfl⟩ := hserve
    show key ∈ state.used.insert key
    simp
  grows := by
    intro state call answer state' key hserve hused
    cases call with
    | markUsed authorizationId =>
      obtain ⟨-, rfl⟩ := hserve
      exact Std.ExtTreeSet.mem_insert.mpr (.inr hused)
    | approvedTool | authorizationKey =>
      obtain ⟨-, rfl⟩ := hserve
      exact hused
    | quarantine | operate =>
      obtain ⟨_, -, _, -, rfl⟩ := hserve
      exact hused
    | tryAcquire | utcNow | consumeAuthorization | transport | recordCall | addKey =>
      obtain rfl := hserve
      exact hused
  stays := by
    rintro _ _ _ ⟨⟩

/-- **At most once**: over the whole run the transport is called at most once for an
authorization. -/
theorem transport_at_most_once (hreach : (system codec proxy Admits).Reachable state cfg)
    (authorizationId : String) : cfg.made grantOf authorizationId ≤ 1 := by
  refine (claims codec proxy Admits).made_le_one (f := grantOf) ?_ hreach
  intro p hcaller entries call resume hresumes hgrant
  cases call with
  | transport request arguments =>
    obtain ⟨-, -, ⟨snapshot, hcleared⟩, hquiet⟩ := Caller.transport hcaller hresumes
    obtain rfl : request.authorization.authorizationId = authorizationId := Option.some.inj hgrant
    refine ⟨⟨_, hcleared.authorized.claimed, rfl⟩, fun entry hentry hspent => ?_⟩
    rw [hquiet entry hentry] at hspent
    cases hspent
  | _ => cases hgrant

/-- Between the look-up of a tool by a call and its call of the transport, nothing changes the
record of the server. -/
def Undisturbed (trace : List (McpEvent VerifyingKey)) : Prop :=
  ∀ earlier lookup between call later, trace = earlier ++ lookup :: between ++ call :: later →
    lookup.thread = call.thread → ∀ request arguments,
    lookup.call = .approvedTool request.tenantId request.serverId request.toolName →
    call.call = .transport request arguments →
      ∀ event ∈ between, event.after.registry.servers[(request.tenantId, request.serverId)]? =
        event.before.registry.servers[(request.tenantId, request.serverId)]?

structure Granted (codec : CallCodec Bytes VerifyingKey) (before : List (McpEvent VerifyingKey))
    (event : McpEvent VerifyingKey) (request : McpCallRequest) (arguments : Value)
    (record : ServerRecord) (snapshot : ToolSchemaSnapshot) : Prop where
  registered :
    event.before.registry.servers[(request.tenantId, request.serverId)]? = some record
  approved : record.status = .approved
  listed : record.tools[request.toolName]? = some snapshot
  parsed : ActionIr.parseStrictJson callLimits request.argumentsJson = .ok arguments
  admitted : ∃ validator, codec.registry.validatorFor snapshot.inputSchema = some validator ∧
    validator arguments = true
  bound : ∃ action, request.canonicalAction = some action ∧
    Value.object action.arguments = arguments ∧
    ActionIr.hash codec.canon action = .ok request.actionHash ∧
    request.authorization.actionHash = request.actionHash
  verified : request.authorization.tenantId = request.tenantId ∧
    request.authorization.toolSnapshotHash = snapshot.snapshotHash ∧
    ∃ key now, (∃ found ∈ before, found.thread = event.thread ∧
        found.before.keys[request.authorization.keyId]? =
          some (request.authorization.issuer, key)) ∧
      (∃ tick ∈ before, tick.thread = event.thread ∧ tick.entry = ⟨.utcNow, now⟩) ∧
      request.authorization.verify (codec.authorization key) now = .ok ()
  firstUse : ∃ earlier claim later, before = earlier ++ claim :: later ∧
    claim.thread = event.thread ∧
    claim.entry = ⟨.markUsed request.authorization.authorizationId, true⟩ ∧
    request.authorization.authorizationId ∉ claim.before.used ∧
    ∀ other ∈ earlier, other.entry ≠ ⟨.markUsed request.authorization.authorizationId, true⟩

theorem served (hreach : (system codec proxy Admits).Reachable state cfg)
    (event : McpEvent VerifyingKey) (hevent : event ∈ cfg.trace) :
    serve codec proxy event.before event.call event.answer event.after := by
  obtain ⟨before, after, htrace⟩ := List.append_of_mem hevent
  exact ((claims codec proxy Admits).always hreach).2 before event after htrace |>.2

def changesRegistry : McpCall VerifyingKey → Bool
  | .quarantine .. | .operate _ => true
  | _ => false

theorem serve_registry {call : McpCall VerifyingKey} {answer : call.Answer}
    {state' : ProxyState VerifyingKey} (h : serve codec proxy state call answer state')
    (hcall : changesRegistry call = false) : state'.registry = state.registry := by
  cases call with
  | quarantine | operate => cases hcall
  | markUsed | approvedTool | authorizationKey =>
    obtain ⟨-, rfl⟩ := h
    rfl
  | tryAcquire | utcNow | consumeAuthorization | transport | recordCall | addKey =>
    obtain rfl := h
    rfl

theorem approved_of_lookedUp (hreach : (system codec proxy Admits).Reachable state cfg)
    (hundisturbed : Undisturbed cfg.trace) (htrace : cfg.trace = before ++ event :: after)
    (hcall : event.call = .transport request arguments) {snapshot : ToolSchemaSnapshot}
    (hlookedUp : ⟨.approvedTool request.tenantId request.serverId request.toolName,
      .ok snapshot⟩ ∈ history event.thread before) :
    ∃ record, event.before.registry.servers[(request.tenantId, request.serverId)]? =
      some record ∧ record.status = .approved ∧
      record.tools[request.toolName]? = some snapshot := by
  obtain ⟨lookup, hlookup, hthread, hentry⟩ := mem_history.mp hlookedUp
  obtain ⟨earlier, between, rfl⟩ := List.append_of_mem hlookup
  have hserved := served hreach lookup (by simp [htrace])
  obtain ⟨hfound, hsame⟩ := Event.of_entry hentry
    (fun call answer => serve codec proxy lookup.before call answer lookup.after) hserved
  obtain ⟨record, hrecord, happroved, -, hlisted⟩ := approvedTool_eq_ok.mp hfound.symm
  refine ⟨record, ?_, happroved, hlisted⟩
  have hunchanged := (hreach.unchanged
    (fun state => state.registry.servers[(request.tenantId, request.serverId)]?)
    (by rintro _ _ ⟨⟩)).2 earlier lookup between event after (by simpa using htrace)
    (hundisturbed earlier lookup between event after (by simpa using htrace) hthread request
      arguments (congrArg Sigma.fst hentry) hcall)
  rw [hunchanged, hsame, hrecord]

theorem granted_of_called (hreach : (system codec proxy Admits).Reachable state cfg)
    (hdurable : proxy.durable = true) (hundisturbed : Undisturbed cfg.trace)
    (htrace : cfg.trace = before ++ event :: after)
    (hcall : event.call = .transport request arguments) :
    ∃ record snapshot, Granted codec before event request arguments record snapshot := by
  obtain ⟨p, resume, hcaller, hresumes⟩ := hreach.called htrace
  have hmay : MayCall codec proxy request (history event.thread before)
      (.transport request arguments) := by
    obtain ⟨i, call, answer, s, s'⟩ := event
    obtain rfl : call = .transport request arguments := hcall
    exact (Caller.transport hcaller hresumes).2
  obtain ⟨-, ⟨snapshot, hcleared⟩, -⟩ := hmay
  obtain ⟨record, hregistered, happroved, hlisted⟩ :=
    approved_of_lookedUp hreach hundisturbed htrace hcall hcleared.lookedUp
  have hauthorized := hcleared.authorized
  refine ⟨record, snapshot, hregistered, happroved, hlisted, hcleared.parsed, hcleared.admitted,
    ?_, ⟨hcleared.tenant, hauthorized.scope.2.1, ?_⟩, ?_⟩
  · have hbound := hcleared.bound
    unfold checkBinding at hbound
    split at hbound
    · next action haction =>
      obtain ⟨hhash, -, -, -, harguments⟩ := validateActionBinding_eq_ok.mp hbound
      exact ⟨action, haction, harguments, hhash, hauthorized.scope.1⟩
    · rw [require_eq_ok, hdurable] at hbound
      cases hbound
  · obtain ⟨key, now, hkey, hnow, hverify⟩ := hauthorized.verified
    obtain ⟨found, hfound, hthread, hentry⟩ := mem_history.mp hkey
    have hserved := served hreach found (by simp [htrace, hfound])
    obtain ⟨hholder, -⟩ := Event.of_entry hentry
      (fun call answer => serve codec proxy found.before call answer found.after) hserved
    exact ⟨key, now, ⟨found, hfound, hthread, hholder.symm⟩, mem_history.mp hnow, hverify⟩
  · obtain ⟨claim, hclaim, hthread, hentry⟩ := mem_history.mp hauthorized.claimed
    obtain ⟨earlier, later, rfl⟩ := List.append_of_mem hclaim
    have hsplit : cfg.trace = earlier ++ claim :: (later ++ event :: after) := by
      simpa using htrace
    obtain ⟨hunused, hfirst⟩ := (claims codec proxy Admits).first hreach hsplit
      (wonGrant_eq_some.mpr hentry)
    refine ⟨earlier, claim, later, rfl, hthread, hentry, hunused, fun other hother hsame => ?_⟩
    exact hfirst other hother (wonGrant_eq_some.mpr hsame)

def WithinGrant (request : McpCallRequest) : Prop :=
  request.maximumResultBytes ≤ request.authorization.maxResultBytes

/-- **Grants**: with a durable store, and requests within what was authorized, the transport is
called only for what was granted, once for each authorization. -/
theorem calls_keep_to_their_grants
    (hreach : (system codec proxy WithinGrant).Reachable state cfg)
    (hdurable : proxy.durable = true) (hundisturbed : Undisturbed cfg.trace) :
    (∀ before event after, cfg.trace = before ++ event :: after → ∀ request arguments,
      event.call = .transport request arguments →
        ∃ record snapshot, Granted codec before event request arguments record snapshot) ∧
    (∀ authorizationId, cfg.made grantOf authorizationId ≤ 1) ∧
    ∀ (i : Nat) (request : McpCallRequest) (answer : SanitizedMcpResult),
      cfg.threads[i]? = some (.done (some (request, .ok answer))) →
        (codec.render answer.value).utf8ByteSize ≤ request.authorization.maxResultBytes := by
  refine ⟨?_, transport_at_most_once hreach, ?_⟩
  · intro before event after htrace request arguments hcall
    exact granted_of_called hreach hdurable hundisturbed htrace hcall
  · intro i request answer hdone
    obtain ⟨p, hcaller, hresumes⟩ := hreach.resumes.2 i _ hdone
    obtain ⟨hwithin, hfits⟩ := Caller.result hcaller hresumes
    exact (hfits answer rfl).trans hwithin

end Runs

-- A sample call

def sampleCallCodec : CallCodec String String where
  registry := sampleMcpCodec
  authorization _ :=
    { jcs := fun _ => some ""
      sha256Hex := fun _ => sampleHash 'a'
      sign := fun _ => ""
      verifies := fun _ _ => true }
  canon :=
    { nfc := id
      parseUrl := fun _ => none
      rfc3339 := fun _ => ""
      jcs := fun _ => some ""
      sha256Hex := fun _ => sampleHash '7' }
  render value := value.asStr.getD "{}"
  resultHash _ := some (sampleHash '9')

def sampleProxy : McpSecurityProxy := ⟨true, true⟩

def sampleGrant : ExecutionAuthorization :=
  { Execution.sampleAuthorized.authorization with
    actionHash := sampleHash '7'
    toolSnapshotHash := sampleHash '2'
    implementationDigest := "sha256:" ++ sampleHash '5'
    authorizationEvidenceRef := ExecutionAuthorization.evidenceRefFor (sampleUuid 1).toStr
      (sampleUuid 6).toStr (sampleHash 'a')
    authorizationEvidenceDigest := sampleHash 'a'
    maxResultBytes := 4 }

def sampleCallAction : CanonicalAction :=
  { Execution.sampleAction with
    tool := ⟨namespacedId "server" "read", "1.0.0"⟩
    payload := { Execution.sampleAction.payload with data := [] } }

def sampleCall (maximumResultBytes : Nat) : McpCallRequest where
  schemaVersion := mcpSchemaVersion
  callId := "call"
  traceId := "trace"
  tenantId := (sampleUuid 1).toStr
  serverId := "server"
  toolName := "read"
  actionHash := sampleHash '7'
  canonicalAction := some sampleCallAction
  authorization := sampleGrant
  credentialHandle := "handle"
  argumentsJson := ⟨2, true, .object [] true, false⟩
  maximumResultBytes := maximumResultBytes

def sampleCallRecord : ServerRecord where
  manifest := sampleServer "server"
  status := .approved
  tools := (∅ : BTreeMap String ToolSchemaSnapshot).insert "read" (sampleSnapshot "server" "read")
  approvedDigest := some ("sha256:" ++ sampleHash 'd')

def sampleProxyState : ProxyState String where
  registry := ⟨∅, (∅ : BTreeMap ServerKey ServerRecord).insert ((sampleUuid 1).toStr, "server")
    sampleCallRecord⟩
  keys := (∅ : BTreeMap String (String × String)).insert "pep-2" ("pep", "key")
  used := ∅

def sampleRaw (text : String) : RawMcpResult := ⟨.string text, .pure⟩

def sampleSanitized (text : String) : SanitizedMcpResult where
  schemaVersion := mcpSchemaVersion
  value := .string text
  untrustedContent := true
  contentProvenance := "mcp:" ++ "server" ++ ":" ++ "read" ++ ":" ++ sampleHash '2'
  resultHash := sampleHash '9'

def sampleCallEntries (request : McpCallRequest) (text : String) : List (McpEntry String) :=
  [⟨.approvedTool request.tenantId "server" "read", .ok (sampleSnapshot "server" "read")⟩,
    ⟨.tryAcquire request.tenantId "server", true⟩, ⟨.utcNow, (10 : DateTime)⟩,
    ⟨.authorizationKey "pep-2", some ("pep", "key")⟩,
    ⟨.consumeAuthorization (sampleUuid 1).toStr (sampleUuid 6).toStr (sampleHash '7')
      (sampleHash '2'), .ok true⟩,
    ⟨.markUsed (sampleUuid 6).toStr, true⟩, ⟨.transport request (.object []), .ok (sampleRaw text)⟩,
    ⟨.approvedTool request.tenantId "server" "read", .ok (sampleSnapshot "server" "read")⟩,
    ⟨.utcNow, (11 : DateTime)⟩,
    ⟨.recordCall (evidenceOf request (.ok (sampleSnapshot "server" "read"))
      (.ok (sampleSanitized text)) 11), .ok ()⟩]

theorem sampleGrant_scopeOk : sampleGrant.scopeOk = true := by
  have hidentifiers : sampleGrant.identifiersOk = true := by
    simp [ExecutionAuthorization.identifiersOk, sampleGrant, Execution.sampleAuthorized,
      isUuid_toStr]
  have hdigests : sampleGrant.digestsOk = true := by
    simp (disch := decide) [ExecutionAuthorization.digestsOk, sampleGrant,
      Execution.sampleAuthorized, isDigest_sampleHash, validImplementationDigest]
    refine ⟨⟨⟨⟨⟨?_, ?_⟩, ?_⟩, ?_⟩, ?_⟩, ?_⟩
    all_goals decide +kernel
  rw [ExecutionAuthorization.scopeOk, hidentifiers, hdigests]
  decide +kernel

theorem sampleGrant_verifies :
    sampleGrant.verify (sampleCallCodec.authorization "key") 10 = .ok () := by
  rw [ExecutionAuthorization.verify_eq_ok]
  exact ⟨sampleGrant_scopeOk, by decide, ⟨"", rfl, rfl⟩,
    ⟨isDigest_sampleHash (by decide) (by decide), rfl⟩, "", rfl, rfl⟩

theorem sampleCall_bound (maximumResultBytes : Nat) :
    checkBinding sampleCallCodec true (sampleCall maximumResultBytes)
      (sampleSnapshot "server" "read") (.object []) = .ok () :=
  validateActionBinding_eq_ok.mpr ⟨rfl, rfl, rfl, rfl, rfl⟩

theorem sampleCall_resumes {maximumResultBytes : Nat} {text : String}
    (hpositive : maximumResultBytes ≠ 0) (hsize : text.utf8ByteSize ≤ maximumResultBytes)
    (hscan : (scan sampleCallCodec (sampleRaw text).value).isOk ≠ false) :
    Resumes (sampleProxy.callTool sampleCallCodec (sampleCall maximumResultBytes)).run
      (sampleCallEntries (sampleCall maximumResultBytes) text)
      (.done (.ok (sampleSanitized text))) := by
  have hjudge : Resumes (judge sampleCallCodec (sampleCall maximumResultBytes)
      (sampleSnapshot "server" "read") (sampleRaw text)).run []
      (.done (.ok (sampleSanitized text))) := by
    unfold judge
    rw [if_neg (by simp [sampleRaw, sampleSnapshot])]
    refine .ensure_bind hsize ?_
    refine .computed_bind rfl ?_
    refine .ensure_bind rfl ?_
    rw [if_neg hscan]
    refine .computed_bind rfl ?_
    exact .refl _
  have hverify : Resumes (sampleProxy.verifyAndConsume sampleCallCodec sampleGrant
      (sampleHash '7') (sampleHash '2') 10).run
      ((sampleCallEntries (sampleCall maximumResultBytes) text).drop 3 |>.take 3)
      (.done (.ok ())) := by
    refine .ask_bind ?_
    refine .computed_bind rfl ?_
    refine .ensure_bind ⟨rfl, rfl, rfl, rfl⟩ ?_
    refine .ofExcept_bind (a := ()) (by rw [sampleGrant_verifies]; rfl) ?_
    refine .port_bind rfl ?_
    refine .ensure_bind rfl ?_
    refine .ask_bind ?_
    exact .refl _
  have hinner : Resumes
      (sampleProxy.callToolInner sampleCallCodec (sampleCall maximumResultBytes)).run
      ((sampleCallEntries (sampleCall maximumResultBytes) text).take 7)
      (.done (.ok (sampleSanitized text))) := by
    refine .ensure_bind ⟨rfl, hpositive, by simp [sampleCall], by simp [sampleCall], rfl⟩ ?_
    refine .port_bind rfl ?_
    refine .ofExcept_bind (a := .object []) (by rfl) ?_
    refine .computed_bind rfl ?_
    refine .ensure_bind rfl ?_
    refine .ofExcept_bind (sampleCall_bound maximumResultBytes) ?_
    refine .ask_bind ?_
    refine .ensure_bind rfl ?_
    refine .ask_bind ?_
    refine hverify.attempt_bind ?_
    refine .port_bind rfl ?_
    exact hjudge
  refine .lift_bind hinner ?_
  refine .ask_bind ?_
  refine .ask_bind ?_
  refine .port_bind rfl ?_
  exact .refl _

theorem sampleCall_approved :
    sampleProxyState.registry.approvedTool (sampleUuid 1).toStr "server" "read" =
      .ok (sampleSnapshot "server" "read") := by
  decide +kernel

theorem sampleCall_runs (Admits : McpCallRequest → Prop) (maximumResultBytes : Nat) (text : String)
    (hadmits : Admits (sampleCall maximumResultBytes)) (hpositive : maximumResultBytes ≠ 0)
    (hsize : text.utf8ByteSize ≤ maximumResultBytes)
    (hscan : (scan sampleCallCodec (sampleRaw text).value).isOk ≠ false) :
    ∃ cfg, (system sampleCallCodec sampleProxy Admits).Reachable sampleProxyState cfg ∧
      cfg.threads[0]? = some (.done (some (sampleCall maximumResultBytes,
        .ok (sampleSanitized text)))) ∧ Undisturbed cfg.trace := by
  let used : ProxyState String :=
    { sampleProxyState with used := sampleProxyState.used.insert (sampleUuid 6).toStr }
  have hserves : (system sampleCallCodec sampleProxy Admits).Serves sampleProxyState
      (sampleCallEntries (sampleCall maximumResultBytes) text) used := by
    have happroved := sampleCall_approved
    have hkey : sampleProxyState.keys["pep-2"]? = some ("pep", "key") := by decide +kernel
    refine .through sampleProxyState ⟨happroved.symm, rfl⟩ ?_
    refine .through sampleProxyState rfl ?_
    refine .through sampleProxyState rfl ?_
    refine .through sampleProxyState ⟨hkey.symm, rfl⟩ ?_
    refine .through sampleProxyState rfl ?_
    refine .through used ⟨by decide +kernel, rfl⟩ ?_
    refine .through used rfl ?_
    refine .through used ⟨happroved.symm, rfl⟩ ?_
    refine .through used rfl ?_
    exact .through used rfl (.nil _)
  have hstart : (system sampleCallCodec sampleProxy Admits).Reachable sampleProxyState
      ⟨sampleProxyState, [(sampleProxy.callTool sampleCallCodec
        (sampleCall maximumResultBytes)).run >>= fun result =>
          .done (some (sampleCall maximumResultBytes, result))], []⟩ :=
    .tail .refl (.start _ (.callTool _ hadmits))
  have hresumes := (sampleCall_resumes hpositive hsize hscan).bind_left fun result =>
    (.done (some (sampleCall maximumResultBytes, result)) :
      Program (McpCall String) McpCall.Answer ThreadResult)
  obtain ⟨events, -, hentries, hreach⟩ := hstart.run 0 rfl hresumes hserves
  refine ⟨_, hreach, rfl, ?_⟩
  -- the sample call never changes the registry
  have hquiet : ∀ event ∈ events, changesRegistry event.call = false := by
    intro event hevent
    have hentry : event.entry ∈ sampleCallEntries (sampleCall maximumResultBytes) text := by
      rw [← hentries]
      exact List.mem_map_of_mem hevent
    have hall : ∀ entry ∈ sampleCallEntries (sampleCall maximumResultBytes) text,
        changesRegistry entry.1 = false := by
      simp [sampleCallEntries, changesRegistry]
    exact hall _ hentry
  intro earlier lookup between call later htrace _ request arguments _ _ event hevent
  have htrace' : events = earlier ++ lookup :: between ++ call :: later := htrace
  have hmem : event ∈ events := by simp [htrace', hevent]
  have hsame := serve_registry (served hreach event hmem) (hquiet event hmem)
  rw [hsame]

/-- **Counterexample**: an authorization for four bytes is used for a result of eight, since the
request says so. -/
theorem larger_result_than_granted :
    ∃ cfg, (system sampleCallCodec sampleProxy fun _ => True).Reachable sampleProxyState cfg ∧
      cfg.threads[0]? = some (.done (some (sampleCall 8, .ok (sampleSanitized "finished")))) ∧
      (sampleCall 8).authorization.maxResultBytes <
        (sampleCallCodec.render (sampleSanitized "finished").value).utf8ByteSize := by
  obtain ⟨cfg, hreach, hdone, -⟩ := sampleCall_runs (fun _ => True) 8 "finished" trivial
    (by decide) (by decide +kernel) (by decide +kernel)
  exact ⟨cfg, hreach, hdone, by decide +kernel⟩

/-- The bounds at a concrete run: a request for four bytes gets four bytes. -/
theorem calls_keep_to_their_grants_sample :
    ∃ cfg : McpConfig String, (∀ authorizationId, cfg.made grantOf authorizationId ≤ 1) ∧
      cfg.threads[0]? = some (.done (some (sampleCall 4, .ok (sampleSanitized "done")))) ∧
      (sampleCallCodec.render (sampleSanitized "done").value).utf8ByteSize ≤ 4 := by
  obtain ⟨cfg, hreach, hdone, hundisturbed⟩ := sampleCall_runs WithinGrant 4 "done"
    (by show 4 ≤ 4; decide) (by decide) (by decide +kernel) (by decide +kernel)
  obtain ⟨-, honce, hsize⟩ := calls_keep_to_their_grants hreach rfl hundisturbed
  exact ⟨cfg, honce, hdone, hsize 0 _ _ hdone⟩

end AgentSphere.Mcp
