import AgentSphere.Industrial.Conduct
import AgentSphere.Lib.Claims

/-!
# What a write is granted

Runs of any operations on one gateway. A write that reaches the adapter was prepared under an
authorization that binds it, and is within the limits that `prepare_write` has compared it with;
`commit` finds the same channel again, since a channel that is registered stays so.
-/

namespace AgentSphere.Industrial

open Concurrency Attempt IndustrialGateway

section Changes

variable {VerifyingKey : Type}

def channelsAfter (state : GatewayState VerifyingKey) :
    GatewayCall VerifyingKey → BTreeMap (TenantId × String) AssetChannel
  | .insertChannel channel =>
    state.channels.insert (channel.resource.tenantId, channel.resource.key) channel
  | _ => state.channels

def keysAfter (state : GatewayState VerifyingKey) :
    GatewayCall VerifyingKey → BTreeMap String (String × VerifyingKey)
  | .addKey keyId issuer key => state.keys.insert keyId (issuer, key)
  | _ => state.keys

def usedAfter (state : GatewayState VerifyingKey) : GatewayCall VerifyingKey → BTreeSet String
  | .markUsed authorizationId => state.used.insert authorizationId
  | _ => state.used

def centralAfterCall (state : GatewayState VerifyingKey) :
    GatewayCall VerifyingKey → CentralSafetyEnvelope
  | .writeCentral next => next
  | _ => state.central

def preparedAfter (state : GatewayState VerifyingKey) :
    GatewayCall VerifyingKey → BTreeMap String PreparedIndustrialAction
  | .insertPrepared action => state.prepared.insert action.preparationId action
  | .removePrepared preparationId => state.prepared.erase preparationId
  | _ => state.prepared

structure Changed (state : GatewayState VerifyingKey) (call : GatewayCall VerifyingKey)
    (state' : GatewayState VerifyingKey) : Prop where
  channels : state'.channels = channelsAfter state call
  keys : state'.keys = keysAfter state call
  used : state'.used = usedAfter state call
  central : state'.central = centralAfterCall state call
  prepared : state'.prepared = preparedAfter state call
  recorded : state'.recorded = state.recorded ∨
    ∃ action, call = .recordPrepared action ∧ state'.recorded = action :: state.recorded

theorem changed_of_serve {state state' : GatewayState VerifyingKey}
    {call : GatewayCall VerifyingKey} {answer : call.Answer}
    (h : serve state call answer state') : Changed state call state' := by
  cases call with
  | recordPrepared action =>
    obtain rfl | rfl := h
    · exact ⟨rfl, rfl, rfl, rfl, rfl, .inl rfl⟩
    · exact ⟨rfl, rfl, rfl, rfl, rfl, .inr ⟨action, rfl, rfl⟩⟩
  | verifierKey | markUsed | readCentral | readConnected | containsChannel | resolve | findPrepared
  | loadPrepared | priorSafeStop =>
    obtain ⟨-, rfl⟩ := h
    exact ⟨rfl, rfl, rfl, rfl, rfl, .inl rfl⟩
  | _ =>
    obtain rfl := h
    exact ⟨rfl, rfl, rfl, rfl, rfl, .inl rfl⟩

end Changes

section Runs

variable {Bytes VerifyingKey : Type} {codec : IndustrialCodec Bytes VerifyingKey}
  {gateway : IndustrialGateway} {state : GatewayState VerifyingKey}
  {cfg : GatewayConfig VerifyingKey} {event : GatewayEvent VerifyingKey}
  {action : PreparedIndustrialAction} {i : Nat}

def wonGrant : GatewayEntry VerifyingKey → Option String
  | ⟨.markUsed authorizationId, true⟩ => some authorizationId
  | _ => none

theorem wonGrant_eq_some {entry : GatewayEntry VerifyingKey} {authorizationId : String} :
    wonGrant entry = some authorizationId ↔ entry = ⟨.markUsed authorizationId, true⟩ := by
  constructor
  · intro h
    unfold wonGrant at h
    split at h
    · cases h
      rfl
    · cases h
  · rintro rfl
    rfl

theorem claims (codec : IndustrialCodec Bytes VerifyingKey) (gateway : IndustrialGateway) :
    Claims (system codec gateway) wonGrant fun state => {key | key ∈ state.used} where
  fresh := by
    intro state call answer state' key hserve hwon
    obtain ⟨rfl, hanswer⟩ := Sigma.mk.inj (wonGrant_eq_some.mp hwon)
    obtain rfl := eq_of_heq hanswer
    obtain ⟨hunused, -⟩ := hserve
    have hfalse : state.used.contains key = false := by simpa using hunused.symm
    intro hused
    rw [Set.mem_ofPred_eq, Std.ExtTreeSet.mem_iff_contains, hfalse] at hused
    cases hused
  kept := by
    intro state call answer state' key hserve hwon
    obtain ⟨rfl, -⟩ := Sigma.mk.inj (wonGrant_eq_some.mp hwon)
    obtain ⟨-, rfl⟩ := hserve
    exact Std.ExtTreeSet.mem_insert_self
  grows := by
    intro state call answer state' key hserve hused
    have hserve : serve state call answer state' := hserve
    rw [Set.mem_ofPred_eq, (changed_of_serve hserve).used]
    cases call with
    | markUsed authorizationId => exact Std.ExtTreeSet.mem_insert.mpr (.inr hused)
    | _ => exact hused
  stays := by
    rintro _ _ _ ⟨⟩

/-- **At most once**: over the whole run there is at most one write or stop for an
authorization. -/
theorem once_per_authorization (hreach : (system codec gateway).Reachable state cfg)
    (authorizationId : String) : cfg.made grantOf authorizationId ≤ 1 := by
  refine (claims codec gateway).made_le_one (f := grantOf) ?_ hreach
  intro p hoperator entries call resume hresumes hgrant
  have hmay := Operator.mayCall hoperator hresumes
  have honce : ∀ {id}, ⟨.markUsed id, true⟩ ∈ entries → Quiet entries → id = authorizationId →
      (∃ entry ∈ entries, wonGrant entry = some authorizationId) ∧
        ∀ entry ∈ entries, grantOf entry.1 ≠ some authorizationId := by
    rintro id hclaimed hquiet rfl
    refine ⟨⟨_, hclaimed, rfl⟩, fun entry hentry hspent => ?_⟩
    rw [hquiet entry hentry] at hspent
    cases hspent
  cases call with
  | compareAndSet channel action => exact honce hmay.1.claimed hmay.2 (Option.some.inj hgrant)
  | safeStop channel record => exact honce hmay.1 hmay.2 (Option.some.inj hgrant)
  | _ => cases hgrant

theorem served (hreach : (system codec gateway).Reachable state cfg)
    (event : GatewayEvent VerifyingKey) (hevent : event ∈ cfg.trace) :
    serve event.before event.call event.answer event.after := by
  obtain ⟨before, after, htrace⟩ := List.append_of_mem hevent
  exact ((claims codec gateway).always hreach).2 before event after htrace |>.2

theorem mayCall_of_mem (hreach : (system codec gateway).Reachable state cfg)
    (hevent : event ∈ cfg.trace) : ∃ before after, cfg.trace = before ++ event :: after ∧
      MayCall codec gateway (history event.thread before) event.call := by
  obtain ⟨before, after, htrace⟩ := List.append_of_mem hevent
  obtain ⟨p, resume, hoperator, hresumes⟩ := hreach.called htrace
  exact ⟨before, after, htrace, Operator.mayCall hoperator hresumes⟩

-- Where actions come from

def Originates (state : GatewayState VerifyingKey) (trace : List (GatewayEvent VerifyingKey))
    (action : PreparedIndustrialAction) : Prop :=
  action ∈ state.recorded ∨
    ∃ event ∈ trace, event.call = .recordPrepared action ∨ event.call = .insertPrepared action

theorem Originates.mono {trace trace' : List (GatewayEvent VerifyingKey)}
    (h : Originates state trace action) (hsubset : trace ⊆ trace') :
    Originates state trace' action := by
  obtain hrecorded | ⟨event, hevent, hcall⟩ := h
  · exact .inl hrecorded
  · exact .inr ⟨event, hsubset hevent, hcall⟩

def Sourced (state s : GatewayState VerifyingKey) (trace : List (GatewayEvent VerifyingKey)) :
    Prop :=
  (∀ action ∈ s.recorded, Originates state trace action) ∧
    ∀ (preparationId : String) action, s.prepared[preparationId]? = some action →
      Originates state trace action

theorem sourced_serve {s s' : GatewayState VerifyingKey}
    {trace : List (GatewayEvent VerifyingKey)} {call : GatewayCall VerifyingKey}
    {answer : call.Answer} (h : Sourced state s trace) (hserve : serve s call answer s') :
    Sourced state s' (trace ++ [⟨i, call, answer, s, s'⟩]) := by
  have hchanged := changed_of_serve hserve
  have hold : ∀ {action}, Originates state trace action →
      Originates state (trace ++ [⟨i, call, answer, s, s'⟩]) action :=
    fun h => h.mono (List.subset_append_left _ _)
  refine ⟨fun action haction => ?_, fun preparationId action haction => ?_⟩
  · obtain hsame | ⟨recorded, rfl, hrecorded⟩ := hchanged.recorded
    · rw [hsame] at haction
      exact hold (h.1 action haction)
    · rw [hrecorded] at haction
      obtain rfl | hmem := List.mem_cons.mp haction
      · exact .inr ⟨_, List.mem_concat_self, .inl rfl⟩
      · exact hold (h.1 action hmem)
  · rw [hchanged.prepared] at haction
    cases call with
    | insertPrepared prepared =>
      rw [preparedAfter, BTreeMap.getElem?_insert_ite] at haction
      split at haction
      · obtain rfl := Option.some.inj haction
        exact .inr ⟨_, List.mem_concat_self, .inr rfl⟩
      · exact hold (h.2 _ action haction)
    | removePrepared id =>
      rw [preparedAfter, Std.ExtTreeMap.getElem?_erase] at haction
      split at haction
      · cases haction
      · exact hold (h.2 _ action haction)
    | _ => exact hold (h.2 _ action haction)

theorem originates_of_loaded (hreach : (system codec gateway).Reachable state cfg)
    (hprepared : state.prepared = ∅) (hloaded : Loaded (history i cfg.trace) action) :
    ∃ source, Originates state cfg.trace source ∧
      action = { source with journalDigest := action.journalDigest } := by
  have hinit : Sourced state state [] := by
    refine ⟨fun action haction => .inl haction, fun preparationId action haction => ?_⟩
    rw [hprepared] at haction
    simp at haction
  obtain ⟨-, hevents⟩ := hreach.always (I := Sourced state)
    (fun s trace i call answer s' hinv hserve => sourced_serve hinv hserve)
    (by rintro _ _ _ _ ⟨⟩) hinit
  obtain ⟨preparationId, hentry⟩ | ⟨tenantId, preparationId, hentry⟩ := hloaded
  · obtain ⟨event, hevent, -, hentry⟩ := mem_history.mp hentry
    obtain ⟨before, after, htrace⟩ := List.append_of_mem hevent
    obtain ⟨⟨-, hsource⟩, hserve⟩ := hevents before event after htrace
    obtain ⟨hfound, -⟩ := Event.of_entry hentry
      (fun call answer => serve event.before call answer event.after) hserve
    refine ⟨action, (hsource _ action hfound.symm).mono ?_, rfl⟩
    rw [htrace]
    exact List.subset_append_left _ _
  · obtain ⟨event, hevent, -, hentry⟩ := mem_history.mp hentry
    obtain ⟨before, after, htrace⟩ := List.append_of_mem hevent
    obtain ⟨⟨hsource, -⟩, hserve⟩ := hevents before event after htrace
    obtain ⟨hreloads, -⟩ := Event.of_entry hentry
      (fun call answer => serve event.before call answer event.after) hserve
    obtain ⟨-, -, source, hmem, hsame⟩ := hreloads action rfl
    refine ⟨source, (hsource source hmem).mono ?_, hsame⟩
    rw [htrace]
    exact List.subset_append_left _ _

theorem vouched_of_event (hreach : (system codec gateway).Reachable state cfg)
    (hevent : event ∈ cfg.trace)
    (hcall : event.call = .recordPrepared action ∨ event.call = .insertPrepared action) :
    ∃ auth channel, Vouched codec gateway (history event.thread cfg.trace) auth channel action := by
  obtain ⟨before, after, htrace, hmay⟩ := mayCall_of_mem hreach hevent
  have hsubset : history event.thread before ⊆ history event.thread cfg.trace := by
    rw [htrace, history_append]
    exact List.subset_append_left _ _
  obtain hcall | hcall := hcall <;>
  · rw [hcall] at hmay
    obtain ⟨auth, channel, hvouched⟩ := hmay
    exact ⟨auth, channel, hvouched.mono hsubset⟩

-- Channels, keys and envelopes

def KeepsChannels (event : GatewayEvent VerifyingKey) : Prop :=
  ∀ channel registered, event.call = .insertChannel channel →
    event.before.channels[(channel.resource.tenantId, channel.resource.key)]? = some registered →
      registered = channel

/-- No channel whose criticality is above the risk of the local policy passes the checks of
`prepare_write`. -/
def RiskWithinLocal (gateway : IndustrialGateway) (event : GatewayEvent VerifyingKey) : Prop :=
  ∀ auth engineeringUnit (tenantId : TenantId) (key : String) channel,
    event.call = .resolve (.prepare auth engineeringUnit) tenantId key →
    event.before.channels[(tenantId, key)]? = some channel →
    Admissible gateway.localPolicy auth engineeringUnit channel →
      channel.criticality.rank ≤ gateway.localPolicy.maximumRisk.rank

def ChannelsKept (state s : GatewayState VerifyingKey) (trace : List (GatewayEvent VerifyingKey)) :
    Prop :=
  (∀ (key : TenantId × String) channel, state.channels[key]? = some channel →
    s.channels[key]? = some channel) ∧
  ∀ event ∈ trace, ∀ use (tenantId : TenantId) (key : String) channel,
    event.entry = ⟨.resolve use tenantId key, .ok channel⟩ →
      s.channels[(tenantId, key)]? = some channel

theorem resolve_eq_ok {tenantId : TenantId} {key : String} {channel : AssetChannel} :
    state.resolve tenantId key = .ok channel ↔ state.channels[(tenantId, key)]? = some channel := by
  unfold GatewayState.resolve
  cases state.channels[(tenantId, key)]? with
  | none => simp
  | some _ => simp

theorem channels_kept {s s' : GatewayState VerifyingKey} {call : GatewayCall VerifyingKey}
    {answer : call.Answer} (hkeeps : KeepsChannels ⟨i, call, answer, s, s'⟩)
    (hserve : serve s call answer s') {key : TenantId × String} {channel : AssetChannel}
    (hchannel : s.channels[key]? = some channel) : s'.channels[key]? = some channel := by
  rw [(changed_of_serve hserve).channels]
  cases call with
  | insertChannel inserted =>
    rw [channelsAfter, BTreeMap.getElem?_insert_ite]
    split
    · next hkey =>
      obtain rfl := hkey
      rw [hkeeps inserted channel rfl hchannel]
    · exact hchannel
  | _ => exact hchannel

/-- **Channels stay**: what was found once is found again. -/
theorem channelsKept_of_reachable (hreach : (system codec gateway).Reachable state cfg)
    (hkeeps : ∀ event ∈ cfg.trace, KeepsChannels event) :
    ChannelsKept state cfg.shared cfg.trace := by
  obtain ⟨hend, -⟩ := hreach.always
    (I := fun s trace => (∀ event ∈ trace, KeepsChannels event) → ChannelsKept state s trace)
    (by
      intro s trace i call answer s' hinv hserve hkeeps
      have hserve : serve s call answer s' := hserve
      obtain ⟨hfirst, hfound⟩ := hinv fun event hevent => hkeeps event (by simp [hevent])
      have hlast := hkeeps ⟨i, call, answer, s, s'⟩ List.mem_concat_self
      refine ⟨fun key channel hchannel => channels_kept hlast hserve (hfirst key channel hchannel),
        fun event hevent use tenantId key channel hentry => ?_⟩
      obtain hold | hnew := List.mem_append.mp hevent
      · exact channels_kept hlast hserve (hfound event hold use tenantId key channel hentry)
      · obtain rfl := List.mem_singleton.mp hnew
        cases hentry
        obtain ⟨hresolved, rfl⟩ := hserve
        exact resolve_eq_ok.mp hresolved.symm)
    (by rintro _ _ _ _ ⟨⟩) (fun _ => ⟨fun _ _ h => h, by simp⟩)
  exact hend hkeeps

def Keyed (s : GatewayState VerifyingKey) : Prop :=
  ∀ (tenantId : TenantId) (key : String) channel, s.channels[(tenantId, key)]? = some channel →
    channel.resource.tenantId = tenantId ∧ channel.resource.key = key

theorem Keyed.serve {s s' : GatewayState VerifyingKey} {call : GatewayCall VerifyingKey}
    {answer : call.Answer} (hkeyed : Keyed s) (hserve : serve s call answer s') : Keyed s' := by
  intro tenantId key channel hchannel
  rw [(changed_of_serve hserve).channels] at hchannel
  cases call with
  | insertChannel inserted =>
    rw [channelsAfter, BTreeMap.getElem?_insert_ite] at hchannel
    split at hchannel
    · next hkey =>
      obtain rfl := Option.some.inj hchannel
      obtain ⟨htenant, hresource⟩ := Prod.mk.inj hkey
      exact ⟨htenant, hresource⟩
    · exact hkeyed tenantId key channel hchannel
  | _ => exact hkeyed tenantId key channel hchannel

theorem keyed_of_reachable (hreach : (system codec gateway).Reachable state cfg)
    (hkeyed : Keyed state) : Keyed cfg.shared :=
  (hreach.always (I := fun s _ => Keyed s) (fun _ _ _ _ _ _ hkeyed hserve => hkeyed.serve hserve)
    (by rintro _ _ _ _ ⟨⟩) hkeyed).1

def KeyKnown (state : GatewayState VerifyingKey) (trace : List (GatewayEvent VerifyingKey))
    (keyId issuer : String) (key : VerifyingKey) : Prop :=
  state.keys[keyId]? = some (issuer, key) ∨ ∃ event ∈ trace, event.call = .addKey keyId issuer key

theorem keyKnown_of_found (hreach : (system codec gateway).Reachable state cfg)
    {keyId issuer : String} {key : VerifyingKey}
    (hfound : KeyFound (history i cfg.trace) keyId issuer key) :
    KeyKnown state cfg.trace keyId issuer key := by
  obtain ⟨-, hevents⟩ := hreach.always (I := fun s trace => ∀ (keyId : String) issuer key,
      s.keys[keyId]? = some (issuer, key) → KeyKnown state trace keyId issuer key)
    (by
      intro s trace i call answer s' hinv hserve keyId issuer key hkey
      have hserve : serve s call answer s' := hserve
      have hold : KeyKnown state trace keyId issuer key →
          KeyKnown state (trace ++ [⟨i, call, answer, s, s'⟩]) keyId issuer key := by
        rintro (hkey | ⟨event, hevent, hcall⟩)
        · exact .inl hkey
        · exact .inr ⟨event, List.mem_append_left _ hevent, hcall⟩
      rw [(changed_of_serve hserve).keys] at hkey
      cases call with
      | addKey keyId' issuer' key' =>
        rw [keysAfter, BTreeMap.getElem?_insert_ite] at hkey
        split at hkey
        · next hsame =>
          obtain rfl := hsame
          obtain ⟨rfl, rfl⟩ := Prod.mk.inj (Option.some.inj hkey)
          exact .inr ⟨_, List.mem_concat_self, rfl⟩
        · exact hold (hinv keyId issuer key hkey)
      | _ => exact hold (hinv keyId issuer key hkey))
    (by rintro _ _ _ _ ⟨⟩) (fun _ _ _ h => .inl h)
  obtain ⟨event, hevent, -, hentry⟩ := mem_history.mp hfound
  obtain ⟨before, after, htrace⟩ := List.append_of_mem hevent
  obtain ⟨hknown, hserve⟩ := hevents before event after htrace
  obtain ⟨hkey, -⟩ := Event.of_entry hentry
    (fun call answer => serve event.before call answer event.after) hserve
  obtain hfirst | ⟨added, hadded, hcall⟩ := hknown keyId issuer key hkey.symm
  · exact .inl hfirst
  · exact .inr ⟨added, by simp [htrace, hadded], hcall⟩

theorem notLooser_of_reachable (hreach : (system codec gateway).Reachable state cfg)
    (hfirst : gateway.localPolicy.NotLooser state.central) :
    gateway.localPolicy.NotLooser cfg.shared.central := by
  obtain ⟨hend, -⟩ := hreach.always (I := fun s trace =>
      (∀ event ∈ trace, ∀ next, event.call = .writeCentral next →
        gateway.localPolicy.NotLooser next) → gateway.localPolicy.NotLooser s.central)
    (by
      intro s trace i call answer s' hinv hserve hwrites
      have hserve : serve s call answer s' := hserve
      rw [(changed_of_serve hserve).central]
      cases call with
      | writeCentral next => exact hwrites _ List.mem_concat_self next rfl
      | _ => exact hinv fun event hevent => hwrites event (by simp [hevent]))
    (by rintro _ _ _ _ ⟨⟩) (fun _ => hfirst)
  refine hend fun event hevent next hcall => ?_
  obtain ⟨before, after, -, hmay⟩ := mayCall_of_mem hreach hevent
  rw [hcall] at hmay
  exact hmay

-- Writes

/-- A gateway that has just been built. What its journal holds from before was prepared for the
channels that are registered, under the same local policy. -/
structure Opened (codec : IndustrialCodec Bytes VerifyingKey) (gateway : IndustrialGateway)
    (state : GatewayState VerifyingKey) : Prop where
  central : ∃ now, gateway.localPolicy.verifyNotLooser state.central now = .ok ()
  prepared : state.prepared = ∅
  keyed : Keyed state
  recorded : ∀ action ∈ state.recorded, ∃ auth channel,
    Granted codec gateway
      (fun keyId issuer key => state.keys[keyId]? = some (issuer, key)) auth channel action ∧
    state.channels[(action.tenantId, action.resourceKey)]? = some channel ∧
    channel.criticality.rank ≤ gateway.localPolicy.maximumRisk.rank

structure Permitted (codec : IndustrialCodec Bytes VerifyingKey) (gateway : IndustrialGateway)
    (state : GatewayState VerifyingKey) (cfg : GatewayConfig VerifyingKey) (i : Nat)
    (auth : EdgeAuthorization) (channel : AssetChannel) (action : PreparedIndustrialAction) :
    Prop where
  granted : Granted codec gateway (KeyKnown state cfg.trace) auth channel action
  unexpired : ∃ now, ⟨.utcNow, now⟩ ∈ history i cfg.trace ∧ now < auth.expiresAt
  resource : channel.resource.tenantId = auth.tenantId ∧ channel.resource.key = auth.resourceKey
  localRisk : channel.criticality.rank ≤ gateway.localPolicy.maximumRisk.rank
  centralRisk : channel.criticality.rank ≤ cfg.shared.central.maximumRisk.rank

theorem granted_of_originates (hreach : (system codec gateway).Reachable state cfg)
    (hopened : Opened codec gateway state) (hkeeps : ∀ event ∈ cfg.trace, KeepsChannels event)
    (hrisk : ∀ event ∈ cfg.trace, RiskWithinLocal gateway event)
    (horigin : Originates state cfg.trace action) :
    ∃ auth channel, Granted codec gateway (KeyKnown state cfg.trace) auth channel action ∧
      cfg.shared.channels[(action.tenantId, action.resourceKey)]? = some channel ∧
      channel.criticality.rank ≤ gateway.localPolicy.maximumRisk.rank := by
  obtain ⟨hfirst, hfound⟩ := channelsKept_of_reachable hreach hkeeps
  obtain hrecorded | ⟨event, hevent, hcall⟩ := horigin
  · obtain ⟨auth, channel, hgranted, hchannel, hlocal⟩ := hopened.recorded action hrecorded
    exact ⟨auth, channel, hgranted.mono fun _ _ _ hkey => .inl hkey, hfirst _ channel hchannel,
      hlocal⟩
  · obtain ⟨auth, channel, hgranted, hresolved⟩ := vouched_of_event hreach hevent hcall
    obtain ⟨lookup, hlookup, -, hentry⟩ := mem_history.mp hresolved
    obtain ⟨hanswer, -⟩ := Event.of_entry hentry
      (fun call answer => serve lookup.before call answer lookup.after)
      (served hreach lookup hlookup)
    have hregistered := hfound lookup hlookup _ _ _ channel hentry
    rw [hgranted.named.1, hgranted.named.2.1]
    refine ⟨auth, channel, hgranted.mono fun _ _ _ => keyKnown_of_found hreach, hregistered, ?_⟩
    exact hrisk lookup hlookup auth channel.engineeringUnit auth.tenantId auth.resourceKey channel
      (congrArg Sigma.fst hentry) (resolve_eq_ok.mp hanswer.symm) hgranted.admissible

/-- **Writes**: whenever a thread is about to write, the write is permitted, and no authorization
leads to two writes or stops. -/
theorem writes_within_limits (hopened : Opened codec gateway state)
    (hreach : (system codec gateway).Reachable state cfg)
    (hkeeps : ∀ event ∈ cfg.trace, KeepsChannels event)
    (hrisk : ∀ event ∈ cfg.trace, RiskWithinLocal gateway event) :
    (∀ (i : Nat) channel action resume,
      cfg.threads[i]? = some (.perform (.compareAndSet channel action) resume) →
        ∃ auth, Permitted codec gateway state cfg i auth channel action) ∧
    ∀ authorizationId, cfg.made grantOf authorizationId ≤ 1 := by
  refine ⟨?_, once_per_authorization hreach⟩
  intro i channel action resume hthread
  obtain ⟨p, hoperator, hresumes⟩ := hreach.resumes.2 i _ hthread
  obtain ⟨hdispatched, -⟩ := Operator.mayCall hoperator hresumes
  obtain ⟨source, horigin, hsame⟩ :=
    originates_of_loaded hreach hopened.prepared hdispatched.loaded
  obtain ⟨auth, channel', hgranted, hregistered, hlocal⟩ :=
    granted_of_originates hreach hopened hkeeps hrisk horigin
  -- the channel found by the commit is the one the action was prepared for
  obtain ⟨-, hfound⟩ := channelsKept_of_reachable hreach hkeeps
  obtain ⟨use, hresolved⟩ := hdispatched.resolved
  obtain ⟨lookup, hlookup, -, hentry⟩ := mem_history.mp hresolved
  have hagain := hfound lookup hlookup _ _ _ channel hentry
  have hnames : action.tenantId = source.tenantId ∧ action.resourceKey = source.resourceKey ∧
      action.expiresAt = source.expiresAt := by
    rw [hsame]
    exact ⟨rfl, rfl, rfl⟩
  rw [hnames.1, hnames.2.1, hregistered] at hagain
  obtain rfl : channel' = channel := Option.some.inj hagain
  obtain ⟨htenant, hresource⟩ :=
    keyed_of_reachable hreach hopened.keyed _ _ channel' hregistered
  obtain ⟨now, hnow, hexpiry⟩ := hdispatched.inTime
  obtain ⟨_, hcentral⟩ := hopened.central
  refine ⟨auth, ?_, ⟨now, hnow, ?_⟩, ⟨?_, ?_⟩, hlocal, ?_⟩
  · rw [hsame]
    exact hgranted.withDigest _
  · rwa [hnames.2.2, hgranted.named.2.2.2] at hexpiry
  · exact htenant.trans hgranted.named.1
  · exact hresource.trans hgranted.named.2.1
  · exact hlocal.trans (notLooser_of_reachable hreach (.of_verify hcentral)).risk

end Runs

-- A sample write

def sampleIndustrialCodec : IndustrialCodec String String where
  asF64
    | .number n => if n.text = "50" then some 50 else if n.text = "55" then some 55 else none
    | _ => none
  jcs auth := some auth.authorizationId
  isSignature _ := true
  verifies key _ signature := signature == "signed by " ++ key
  writeDigest _ _ _ _ := some (sampleHash 'a')
  safeStopDigest _ _ := some (sampleHash 'b')
  centralDigest := sampleDigest
  clockDigest _ := some (sampleHash 'c')
  safeStopHash _ _ _ _ _ _ := some (sampleHash 'd')

def sampleGateway (maximumRisk : RiskLevel) : IndustrialGateway where
  localPolicy := sampleLocal maximumRisk
  durableReplay := false
  journal := true
  clock := false
  convergencePolicy := developmentConvergence
  convergenceValid := by decide

def sampleChannel : AssetChannel where
  resource :=
    { tenantId := "tenant"
      site := "site"
      area := "area"
      line := "line"
      asset := "asset"
      channel := "setpoint"
      protocol := .modbus
      protocolAddress := "holding:100" }
  engineeringUnit := "C"
  minimum := 0
  maximum := 100
  maximumDeltaPerWrite := 10
  writable := true
  criticality := .high
  freshnessMs := 1000
  byteOrder := some "ABCD"
  allowedModbusFunctionCodes := {6, 16}

def sampleSample (value version : String) (sampledAt : DateTime) (sequence : Nat) :
    TelemetrySample where
  resourceKey := "site/area/line/asset/setpoint"
  value := .number ⟨value⟩
  engineeringUnit := "C"
  quality := .good
  resourceVersion := version
  sampledAt := sampledAt
  sequence := sequence

def sampleEdgeAuthorization : EdgeAuthorization where
  schemaVersion := industrialSchemaVersion
  authorizationId := (sampleUuid 1).toStr
  tenantId := "tenant"
  actionHash := sampleHash 'a'
  argumentsDigest := sampleHash 'a'
  resourceKey := "site/area/line/asset/setpoint"
  purpose := "WRITE"
  expectedResourceVersion := "v1"
  approvalIds := [(sampleUuid 2).toStr]
  centralPolicyVersion := "central-1"
  maximumRisk := .high
  issuedAt := 0
  expiresAt := 60000000000
  issuer := "central"
  keyId := "key"
  keyUsage := "INDUSTRIAL_EDGE_AUTHORIZATION"
  signature := "signed by key-1"

def sampleAction (journalDigest : String) : PreparedIndustrialAction where
  schemaVersion := industrialSchemaVersion
  preparationId := "preparation"
  tenantId := "tenant"
  actionHash := sampleHash 'a'
  resourceKey := "site/area/line/asset/setpoint"
  before := sampleSample "50" "v1" 5 1
  targetValue := .number ⟨"55"⟩
  engineeringUnit := "C"
  authorizationId := (sampleUuid 1).toStr
  centralPolicyVersion := "central-1"
  localPolicyVersion := "local-1"
  preparedAt := 10
  clockHealthDigest := "development-clock-unverified"
  journalDigest := journalDigest
  expiresAt := 60000000000

def sampleGatewayState : GatewayState String where
  channels := (∅ : BTreeMap (TenantId × String) AssetChannel).insert
    ("tenant", "site/area/line/asset/setpoint") sampleChannel
  keys := (∅ : BTreeMap String (String × String)).insert "key" ("central", "key-1")
  used := ∅
  central := sampleCentral "central-1" 10
  connected := true
  prepared := ∅
  safeStopRecords := []
  recorded := []

def samplePreparing : List (GatewayEntry String) :=
  [⟨.utcNow, (10 : DateTime)⟩, ⟨.verifierKey "key", some ("central", "key-1")⟩,
    ⟨.readCentral, sampleCentral "central-1" 10⟩, ⟨.readCentral, sampleCentral "central-1" 10⟩,
    ⟨.readConnected, true⟩,
    ⟨.resolve (.prepare sampleEdgeAuthorization "C") "tenant" "site/area/line/asset/setpoint",
      .ok sampleChannel⟩,
    ⟨.adapterRead sampleChannel, .ok (sampleSample "50" "v1" 5 1)⟩, ⟨.utcNow, (11 : DateTime)⟩,
    ⟨.newUuid, "preparation"⟩, ⟨.recordPrepared (sampleAction ""), .ok (sampleHash 'e')⟩,
    ⟨.insertPrepared (sampleAction (sampleHash 'e')), ()⟩]

def sampleCommitting : List (GatewayEntry String) :=
  [⟨.readConnected, true⟩, ⟨.readCentral, sampleCentral "central-1" 10⟩,
    ⟨.utcNow, (12 : DateTime)⟩, ⟨.utcNow, (12 : DateTime)⟩,
    ⟨.findPrepared "preparation", some (sampleAction (sampleHash 'e'))⟩,
    ⟨.readCentral, sampleCentral "central-1" 10⟩, ⟨.utcNow, (13 : DateTime)⟩,
    ⟨.utcNow, (13 : DateTime)⟩, ⟨.verifierKey "key", some ("central", "key-1")⟩,
    ⟨.markUsed (sampleUuid 1).toStr, true⟩,
    ⟨.resolve (.dispatch sampleEdgeAuthorization) "tenant" "site/area/line/asset/setpoint",
      .ok sampleChannel⟩,
    ⟨.recordDispatching (sampleAction (sampleHash 'e')) sampleEdgeAuthorization,
      .ok (sampleHash 'f')⟩,
    ⟨.removePrepared "preparation", ()⟩]

theorem sampleEdgeAuthorization_verifies : ∀ now ∈ ([10, 13] : List DateTime),
    sampleEdgeAuthorization.verify sampleIndustrialCodec (some ("central", "key-1")) now =
      .ok () := by
  decide

theorem sampleVerify_resumes {now : DateTime} (hnow : now ∈ ([10, 13] : List DateTime)) :
    Resumes (verify sampleIndustrialCodec sampleEdgeAuthorization now).run
      [⟨.verifierKey "key", some ("central", "key-1")⟩] (.done (.ok ())) := by
  rw [← sampleEdgeAuthorization_verifies now hnow]
  exact .perform (.refl _)

theorem sampleLocal_within (maximumRisk : RiskLevel) (hrisk : maximumRisk.rank ≤ 2) :
    ∀ now ∈ ([10, 12] : List DateTime), (sampleLocal maximumRisk).verifyNotLooser
      (sampleCentral "central-1" 10) now = .ok () := by
  cases maximumRisk with
  | critical => exact absurd hrisk (by decide)
  | low | medium | high => decide

theorem sampleLimits (maximumRisk : RiskLevel) :
    WithinLimits (sampleLocal maximumRisk) sampleChannel 50 55 := by
  norm_num [WithinLimits, sampleLocal, sampleChannel]

theorem samplePreparing_resumes {maximumRisk : RiskLevel} (hrisk : maximumRisk.rank ≤ 2) :
    Resumes ((sampleGateway maximumRisk).prepareWrite sampleIndustrialCodec
      sampleEdgeAuthorization (.number ⟨"55"⟩) "C").run samplePreparing
      (.done (.ok (sampleAction (sampleHash 'e')))) := by
  refine .ask_bind ?_
  refine (sampleVerify_resumes (by simp)).attempt_bind ?_
  refine .ask_bind ?_
  refine .ofExcept_bind (sampleLocal_within maximumRisk hrisk 10 (by simp)) ?_
  refine .ask_bind ?_
  refine .ask_bind ?_
  refine .ensure_bind ⟨rfl, rfl, rfl⟩ ?_
  refine .ofExcept_bind (a := sampleHash 'a') (by decide) ?_
  refine .ensure_bind ⟨rfl, by decide, rfl, rfl⟩ ?_
  refine .port_bind rfl ?_
  refine .ensure_bind ⟨rfl, by decide, rfl, Finset.mem_singleton_self _⟩ ?_
  refine .port_bind rfl ?_
  refine .ask_bind ?_
  refine .ofExcept_bind (a := ()) (by decide) ?_
  refine .ensure_bind ⟨rfl, rfl⟩ ?_
  refine .ensure_bind rfl ?_
  refine .computed_bind (a := 50) (by decide) ?_
  refine .computed_bind (a := 55) (by decide) ?_
  refine .ensure_bind (sampleLimits maximumRisk) ?_
  refine .ask_bind ?_
  refine .port_bind (a := sampleHash 'e') (by decide) ?_
  refine .ask_bind ?_
  exact .refl _

theorem sampleCommitting_resumes {maximumRisk : RiskLevel} (hrisk : maximumRisk.rank ≤ 2) :
    Resumes ((sampleGateway maximumRisk).commit sampleIndustrialCodec sampleEdgeAuthorization
        "preparation").run sampleCommitting
      (.perform (.compareAndSet sampleChannel (sampleAction (sampleHash 'e'))) fun answer =>
        ((sampleGateway maximumRisk).settle sampleIndustrialCodec (sampleAction (sampleHash 'e'))
          sampleChannel (sampleHash 'f') answer).run) := by
  have hconsume : Resumes ((sampleGateway maximumRisk).verifyAndConsume sampleIndustrialCodec
      sampleEdgeAuthorization 13).run
      [⟨.verifierKey "key", some ("central", "key-1")⟩, ⟨.markUsed (sampleUuid 1).toStr, true⟩]
      (.done (.ok ())) := by
    refine (sampleVerify_resumes (by simp)).attempt_bind ?_
    refine .ask_bind ?_
    exact .refl _
  refine .ask_bind ?_
  refine .ensure_bind rfl ?_
  refine .ask_bind ?_
  refine .ask_bind ?_
  refine .ofExcept_bind (sampleLocal_within maximumRisk hrisk 12 (by simp)) ?_
  refine .ask_bind ?_
  refine .ask_bind ?_
  refine .ensure_bind ⟨rfl, rfl, rfl, rfl⟩ ?_
  refine .ask_bind ?_
  refine .ensure_bind ⟨rfl, rfl⟩ ?_
  refine .ask_bind ?_
  refine .ensure_bind (by decide) ?_
  refine .ask_bind ?_
  refine hconsume.attempt_bind ?_
  refine .port_bind rfl ?_
  refine .port_bind (a := sampleHash 'f') (by decide) ?_
  refine .ask_bind ?_
  exact .refl _

def samplePreparedState : GatewayState String :=
  { sampleGatewayState with
    recorded := [sampleAction ""]
    prepared := sampleGatewayState.prepared.insert "preparation" (sampleAction (sampleHash 'e')) }

def sampleDispatchedState : GatewayState String :=
  { samplePreparedState with
    used := samplePreparedState.used.insert (sampleUuid 1).toStr
    prepared := samplePreparedState.prepared.erase "preparation" }

theorem sampleGatewayState_resolve {state : GatewayState String}
    (hchannels : state.channels = sampleGatewayState.channels) :
    state.resolve "tenant" "site/area/line/asset/setpoint" = .ok sampleChannel := by
  rw [resolve_eq_ok, hchannels]
  decide

theorem samplePreparing_serves (maximumRisk : RiskLevel) :
    (system sampleIndustrialCodec (sampleGateway maximumRisk)).Serves sampleGatewayState
      samplePreparing samplePreparedState := by
  have hkey : sampleGatewayState.keys["key"]? = some ("central", "key-1") := by decide
  let recorded : GatewayState String := { sampleGatewayState with recorded := [sampleAction ""] }
  refine .through sampleGatewayState rfl ?_
  refine .through sampleGatewayState ⟨hkey.symm, rfl⟩ ?_
  refine .through sampleGatewayState ⟨rfl, rfl⟩ ?_
  refine .through sampleGatewayState ⟨rfl, rfl⟩ ?_
  refine .through sampleGatewayState ⟨rfl, rfl⟩ ?_
  refine .through sampleGatewayState ⟨(sampleGatewayState_resolve rfl).symm, rfl⟩ ?_
  refine .through sampleGatewayState rfl ?_
  refine .through sampleGatewayState rfl ?_
  refine .through sampleGatewayState rfl ?_
  refine .through recorded (.inr rfl) ?_
  exact .through samplePreparedState rfl (.nil _)

theorem sampleCommitting_serves (maximumRisk : RiskLevel) :
    (system sampleIndustrialCodec (sampleGateway maximumRisk)).Serves samplePreparedState
      sampleCommitting sampleDispatchedState := by
  have hkey : samplePreparedState.keys["key"]? = some ("central", "key-1") := by decide
  have hfound : samplePreparedState.prepared["preparation"]? =
      some (sampleAction (sampleHash 'e')) := by
    decide
  let used : GatewayState String :=
    { samplePreparedState with used := samplePreparedState.used.insert (sampleUuid 1).toStr }
  refine .through samplePreparedState ⟨rfl, rfl⟩ ?_
  refine .through samplePreparedState ⟨rfl, rfl⟩ ?_
  refine .through samplePreparedState rfl ?_
  refine .through samplePreparedState rfl ?_
  refine .through samplePreparedState ⟨hfound.symm, rfl⟩ ?_
  refine .through samplePreparedState ⟨rfl, rfl⟩ ?_
  refine .through samplePreparedState rfl ?_
  refine .through samplePreparedState rfl ?_
  refine .through samplePreparedState ⟨hkey.symm, rfl⟩ ?_
  refine .through used ⟨by decide, rfl⟩ ?_
  refine .through used ⟨(sampleGatewayState_resolve rfl).symm, rfl⟩ ?_
  refine .through used rfl ?_
  exact .through sampleDispatchedState rfl (.nil _)

theorem sample_about_to_write (maximumRisk : RiskLevel) (hrisk : maximumRisk.rank ≤ 2) :
    ∃ cfg, (system sampleIndustrialCodec (sampleGateway maximumRisk)).Reachable sampleGatewayState
        cfg ∧ cfg.shared = sampleDispatchedState ∧
      cfg.threads[1]? = some (.perform (.compareAndSet sampleChannel
        (sampleAction (sampleHash 'e'))) fun answer =>
          ((sampleGateway maximumRisk).settle sampleIndustrialCodec (sampleAction (sampleHash 'e'))
            sampleChannel (sampleHash 'f') answer).run >>= fun result =>
              .done (some (sampleEdgeAuthorization, "preparation", result))) ∧
      (∀ event ∈ cfg.trace, event.entry ∈ samplePreparing ++ sampleCommitting) ∧
      history 1 cfg.trace = sampleCommitting := by
  let gateway := sampleGateway maximumRisk
  have hfirst : (system sampleIndustrialCodec gateway).Reachable sampleGatewayState
      ⟨sampleGatewayState, [finished (gateway.prepareWrite sampleIndustrialCodec
        sampleEdgeAuthorization (.number ⟨"55"⟩) "C")], []⟩ :=
    .tail .refl (.start _ (.prepareWrite ..))
  obtain ⟨events, hown, hentries, hprepared⟩ := hfirst.run 0 rfl
    ((samplePreparing_resumes hrisk).bind_left _) (samplePreparing_serves maximumRisk)
  have hsecond := hprepared.tail (.start _ (.commit sampleEdgeAuthorization "preparation"))
  obtain ⟨events', hown', hentries', hcommitting⟩ := System.Reachable.run hsecond 1 rfl
    ((sampleCommitting_resumes hrisk).bind_left _) (sampleCommitting_serves maximumRisk)
  refine ⟨_, hcommitting, rfl, rfl, ?_, ?_⟩
  · intro event hevent
    obtain hevent | hevent := List.mem_append.mp hevent
    · exact List.mem_append_left _ (hentries ▸ List.mem_map_of_mem hevent)
    · exact List.mem_append_right _ (hentries' ▸ List.mem_map_of_mem hevent)
  · have hnone : history 1 events = [] := by
      rw [history, List.map_eq_nil_iff, List.filter_eq_nil_iff]
      intro event hevent
      simp [hown event hevent]
    show history 1 ([] ++ events ++ events') = sampleCommitting
    rw [List.nil_append, history_append, hnone, List.nil_append, history_own hown', hentries']

theorem sampleGateway_opened {maximumRisk : RiskLevel} (hrisk : maximumRisk.rank ≤ 2) :
    Opened sampleIndustrialCodec (sampleGateway maximumRisk) sampleGatewayState where
  central := ⟨10, sampleLocal_within maximumRisk hrisk 10 (by simp)⟩
  prepared := rfl
  keyed := by
    intro tenantId key channel hchannel
    rw [show sampleGatewayState.channels = (∅ : BTreeMap (TenantId × String) AssetChannel).insert
      ("tenant", "site/area/line/asset/setpoint") sampleChannel from rfl,
      BTreeMap.getElem?_insert_ite] at hchannel
    split at hchannel
    · next hkey =>
      obtain rfl := Option.some.inj hchannel
      obtain ⟨rfl, rfl⟩ := Prod.mk.inj hkey
      decide
    · simp at hchannel
  recorded := by simp [sampleGatewayState]

/-- **Counterexample**: a channel of high criticality is about to be written under a local policy
for medium risk. -/
theorem write_above_local_risk :
    ∃ cfg, Opened sampleIndustrialCodec (sampleGateway .medium) sampleGatewayState ∧
      (system sampleIndustrialCodec (sampleGateway .medium)).Reachable sampleGatewayState cfg ∧
      ∃ channel action resume,
        cfg.threads[1]? = some (.perform (.compareAndSet channel action) resume) ∧
        (sampleGateway .medium).localPolicy.maximumRisk.rank < channel.criticality.rank := by
  obtain ⟨cfg, hreach, -, hthread, -⟩ := sample_about_to_write .medium (by decide)
  exact ⟨cfg, sampleGateway_opened (by decide), hreach, _, _, _, hthread, by decide⟩

/-- The limits at a concrete run: under a local policy for high risk the write is permitted. -/
theorem writes_within_limits_sample :
    ∃ cfg auth, cfg.shared = sampleDispatchedState ∧
      Permitted sampleIndustrialCodec (sampleGateway .high) sampleGatewayState cfg 1 auth
        sampleChannel (sampleAction (sampleHash 'e')) := by
  obtain ⟨cfg, hreach, hshared, hthread, hentries, -⟩ :=
    sample_about_to_write .high (by decide)
  have hkeeps : ∀ event ∈ cfg.trace, KeepsChannels event := by
    intro event hevent channel registered hcall
    have hnone : ∀ entry ∈ samplePreparing ++ sampleCommitting,
        entry.1 ≠ .insertChannel channel := by
      simp [samplePreparing, sampleCommitting]
    exact absurd hcall (hnone _ (hentries event hevent))
  have hwithin : ∀ event ∈ cfg.trace, RiskWithinLocal (sampleGateway .high) event := by
    intro event hevent auth engineeringUnit tenantId key channel hcall _ hadmissible
    have hsame : ∀ entry ∈ samplePreparing ++ sampleCommitting,
        entry.1 = .resolve (.prepare auth engineeringUnit) tenantId key →
          sampleEdgeAuthorization = auth := by
      simp +contextual [samplePreparing, sampleCommitting]
    obtain rfl := hsame _ (hentries event hevent) hcall
    exact hadmissible.2.1
  obtain ⟨auth, hpermitted⟩ := (writes_within_limits (sampleGateway_opened (by decide)) hreach
    hkeeps hwithin).1 1 _ _ _ hthread
  exact ⟨cfg, auth, hshared, hpermitted⟩

end AgentSphere.Industrial
