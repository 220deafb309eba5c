import AgentSphere.Lib.Ports
import AgentSphere.ToolProxy.Runs

/-!
# One call of a tool

`preflight` followed by `run_prepared`, whatever the registry, the credential authority, the secret
provider, the connector and the clock answer. Everything that was checked is in the history before
the connector runs, and whatever was leased is given back before the call returns.
-/

namespace AgentSphere.ToolProxy.Calls

open Concurrency Proxying

def touches : ProxyCall → Bool
  | .lease .. | .connectorExecute .. => true
  | _ => false

def toolOf (request : AuthorizedToolRequest) : ToolRef :=
  ⟨request.tool.toolId, request.tool.toolVersion⟩

def millis (ms : Nat) : Nat := ms * 1000000

/-- What `preflight` has found out about a request. -/
structure Vetted (request : AuthorizedToolRequest) (entries : List ProxyEntry) : Prop where
  verified : ∃ t, (⟨.verifyAuthorization request t, .ok ()⟩ : ProxyEntry) ∈ entries
  resolved : ∃ snapshot : ResolvedToolSnapshot,
    (⟨.resolveExact request.tenantId (toolOf request), .ok snapshot⟩ : ProxyEntry) ∈ entries ∧
      snapshot.snapshotHash = request.tool.snapshotHash
  notRevoked : (⟨.isRevoked (toolOf request) request.tool.implementation.digest, .ok false⟩ :
    ProxyEntry) ∈ entries
  arguments : (⟨.validateArguments request.tool request.arguments, .ok ()⟩ : ProxyEntry) ∈ entries
  consumed : ∃ t receipt,
    (⟨.consume (ProductionToolProxyService.credentialRequestFor request) t, .ok receipt⟩ :
      ProxyEntry) ∈ entries

/-- What `preflight` hands on stays within the limits of the request. -/
structure Limited (request : AuthorizedToolRequest) (prepared : PreparedToolExecution) :
    Prop where
  sameRequest : prepared.request = request
  executionTime : prepared.timeout ≤ millis request.authorization.maxExecutionMs
  toolTime : prepared.timeout ≤ millis request.tool.limits.timeoutMs
  resultBytes : prepared.context.maxResponseBytes ≤ request.authorization.maxResultBytes
  toolBytes : prepared.context.maxResponseBytes ≤ request.tool.limits.maxResultBytes

/-- A deadline lies within the authorization, and within its time and that of the tool from the
moment the authorization was verified. -/
structure Timely (request : AuthorizedToolRequest) (verifiedAt deadline : DateTime) : Prop where
  authorization : deadline ≤ request.authorization.expiresAt
  executionTime : deadline ≤ verifiedAt + millis request.authorization.maxExecutionMs
  toolTime : deadline ≤ verifiedAt + millis request.tool.limits.timeoutMs

structure LeasedFor (request : AuthorizedToolRequest) (entries : List ProxyEntry)
    (lease : SecretLease) : Prop where
  leased : ∃ ttl,
    (⟨.lease request.tool.credentialProfile request.tenantId request.targetProfile ttl,
    .ok lease⟩ : ProxyEntry) ∈ entries
  profile : lease.profile = request.tool.credentialProfile
  tenantId : lease.tenantId = request.tenantId
  target : lease.target = request.targetProfile

/-- The connector may run: the request was vetted, then its authorization was verified once more,
the secret was leased, and the connector has not run before. -/
def Cleared (request : AuthorizedToolRequest) (entries : List ProxyEntry)
    (context : ConnectorContext) (lease : SecretLease) : Prop :=
  Unconnected entries ∧ LeasedFor request entries lease ∧ context.deadline ≤ lease.expiresAt ∧
    ∃ first second t, entries = first ++ second ∧ Vetted request first ∧
      (⟨.verifyAuthorization request t, .ok ()⟩ : ProxyEntry) ∈ second ∧
      Timely request t context.deadline

def Released (entries : List ProxyEntry) : Prop :=
  ∀ before after profile tenantId target ttl lease,
    entries = before ++ ⟨.lease profile tenantId target ttl, .ok lease⟩ :: after →
      ∃ answer, (⟨.revoke lease.leaseId, answer⟩ : ProxyEntry) ∈ after

/-- A result comes from an answer of the connector of bounded size, and the lease of that call was
given back with success before the answer was looked at. -/
def Delivered (codec : ProxyCodec) (request : AuthorizedToolRequest) (entries : List ProxyEntry)
    (result : SanitizedToolResult) : Prop :=
  ∃ profile context lease remaining raw size,
    List.Sublist
      [⟨.connectorExecute profile context request.arguments lease remaining, .ok raw⟩,
        ⟨.revoke lease.leaseId, .ok ()⟩,
        ⟨.filter raw.value lease,
          .ok (result.value, result.redactedPaths, result.untrustedContent)⟩] entries ∧
    codec.valueSize raw.value = some size ∧ size ≤ request.authorization.maxResultBytes ∧
    size ≤ request.tool.limits.maxResultBytes

def MayTouch (request : AuthorizedToolRequest) (entries : List ProxyEntry) : ProxyCall → Prop
  | .connectorExecute _ context arguments lease _ =>
    arguments = request.arguments ∧ Cleared request entries context lease
  | _ => True

def watch (request : AuthorizedToolRequest) :
    Monitor ProxyCall ProxyCall.Answer (List ProxyEntry) :=
  recording (MayTouch request) fun _ _ => True

-- Before the lease

def Early (entries : List ProxyEntry) : Prop := ∀ entry ∈ entries, touches entry.1 = false

theorem Early.snoc {entries : List ProxyEntry} (h : Early entries) {call : ProxyCall}
    (answer : call.Answer) (hcall : touches call = false) :
    Early (entries ++ [⟨call, answer⟩]) := by
  intro entry hentry
  obtain hold | hnew := List.mem_append.mp hentry
  · exact h entry hold
  · obtain rfl := List.mem_singleton.mp hnew
    exact hcall

theorem Early.append {entries entries' : List ProxyEntry} (h : Early entries)
    (h' : Early entries') : Early (entries ++ entries') := by
  intro entry hentry
  exact (List.mem_append.mp hentry).elim (h entry) (h' entry)

theorem Early.unconnected {entries : List ProxyEntry} (h : Early entries) :
    Unconnected entries := by
  rintro ⟨call, answer⟩ hentry
  have hcall := h _ hentry
  cases call with
  | connectorExecute => cases hcall
  | _ => rfl

theorem Early.released {entries : List ProxyEntry} (h : Early entries) : Released entries := by
  rintro before after profile tenantId target ttl lease rfl
  exact absurd (h _ List.mem_append_cons_self) (by simp [touches])

theorem released_append {entries entries' : List ProxyEntry} (h : Early entries)
    (h' : Released entries') : Released (entries ++ entries') := by
  intro before after profile tenantId target ttl lease hsplit
  obtain ⟨middle, rfl, hafter⟩ | ⟨middle, rfl, hrest⟩ := List.append_eq_append_iff.mp hsplit
  · exact h' middle after profile tenantId target ttl lease hafter
  · cases middle with
    | nil => exact h' [] after profile tenantId target ttl lease hrest.symm
    | cons entry middle =>
      obtain ⟨rfl, -⟩ := List.cons.inj hrest
      exact absurd (h _ List.mem_append_cons_self) (by simp [touches])

theorem released_refused {entries : List ProxyEntry} (h : Early entries) {profile : String}
    {tenantId : TenantId} {target : String} {ttl : Nat} {e : ProxyError} :
    Released (entries ++ [⟨.lease profile tenantId target ttl, .error e⟩]) := by
  refine released_append h fun before after profile' tenantId' target' ttl' lease hsplit => ?_
  cases before with
  | nil =>
    obtain ⟨hhead, -⟩ := List.cons.inj hsplit
    cases hhead
  | cons entry before =>
    obtain ⟨-, hrest⟩ := List.cons.inj hsplit
    simp at hrest

section Rules

variable {request : AuthorizedToolRequest} {entries : List ProxyEntry} {ε α β : Type}
  {Post : Except ε β → List ProxyEntry → Prop}

theorem early_ask_bind {call : ProxyCall} {f : call.Answer → Proxying ε β} (hearly : Early entries)
    (hcall : touches call = false)
    (hrest : ∀ answer, Early (entries ++ [⟨call, answer⟩]) →
      (watch request).Ensures Post (f answer).run (entries ++ [⟨call, answer⟩])) :
    (watch request).Ensures Post (ask call >>= f).run entries := by
  refine ask_bind ?_ fun answer => hrest answer (hearly.snoc answer hcall)
  show MayTouch request entries call
  cases call <;> trivial

theorem early_port_bind {call : ProxyCall} {read : call.Answer → Except ε α}
    {f : α → Proxying ε β} (hearly : Early entries) (hcall : touches call = false)
    (hok : ∀ answer a, read answer = .ok a → Early (entries ++ [⟨call, answer⟩]) →
      (watch request).Ensures Post (f a).run (entries ++ [⟨call, answer⟩]))
    (herror : ∀ e entries', Early entries' → Post (.error e) entries') :
    (watch request).Ensures Post (port call read >>= f).run entries := by
  rw [Monitor.ensures_attempt_bind, port]
  refine early_ask_bind hearly hcall fun answer hearly' => ?_
  rw [Monitor.ensures_ofExcept]
  cases hread : read answer with
  | ok a => exact hok answer a hread hearly'
  | error e => exact herror e _ hearly'

end Rules

section Preflight

variable {service : ProductionToolProxyService} {request : AuthorizedToolRequest}

/-- `preflight` touches nothing, and what it hands on was vetted. -/
def Prepared (request : AuthorizedToolRequest) (result : Except ProxyError PreparedToolExecution)
    (entries : List ProxyEntry) : Prop :=
  Early entries ∧ ∀ prepared, result = .ok prepared →
    Vetted request entries ∧ Limited request prepared

theorem Prepared.error (e : ProxyError) (entries : List ProxyEntry) (h : Early entries) :
    Prepared request (.error e) entries :=
  ⟨h, fun _ hok => nomatch hok⟩

theorem conduct_preflight :
    (watch request).Ensures (Prepared request) (service.preflight request).run [] := by
  have hnone : Early [] := by simp [Early]
  unfold ProductionToolProxyService.preflight
  refine early_ask_bind hnone rfl fun checkedAt h₁ => ?_
  refine early_port_bind h₁ rfl (fun verified _ hverified h₂ => ?_) .error
  obtain rfl : verified = .ok () := hverified
  refine early_port_bind h₂ rfl (fun resolved snapshot hresolved h₃ => ?_) .error
  obtain rfl : resolved = .ok snapshot := except_mapError_eq_ok.mp hresolved
  refine ensure_bind (fun hsnapshot => ?_) (.error _ _ h₃)
  refine early_port_bind h₃ rfl (fun answer revoked hrevoked h₄ => ?_) .error
  obtain rfl : answer = .ok revoked := except_mapError_eq_ok.mp hrevoked
  refine ensure_bind (fun hnot => ?_) (.error _ _ h₄)
  obtain rfl : revoked = false := hnot
  refine early_port_bind h₄ rfl (fun valid _ hvalid h₅ => ?_) .error
  obtain rfl : valid = .ok () := except_mapError_eq_ok.mp hvalid
  refine ensure_bind (fun _ => ?_) (.error _ _ h₅)
  refine ensure_bind (fun _ => ?_) (.error _ _ h₅)
  refine ensure_bind (fun _ => ?_) (.error _ _ h₅)
  refine ofExcept_bind (fun authorizationDigest _ => ?_) fun _ => .error _ _ h₅
  refine early_port_bind h₅ rfl (fun _ _ _ h₆ => ?_) .error
  refine early_ask_bind h₆ rfl fun consumedAt h₇ => ?_
  refine early_port_bind h₇ rfl (fun answer receipt hreceipt h₈ => ?_) .error
  obtain rfl : answer = .ok receipt := hreceipt
  refine ofExcept_bind (fun _ _ => ?_) fun _ => .error _ _ h₈
  refine ⟨h₈, ?_⟩
  rintro prepared ⟨⟩
  refine ⟨⟨⟨checkedAt, by simp⟩, ⟨snapshot, by simp [toolOf], hsnapshot⟩, by simp [toolOf],
    by simp, ⟨consumedAt, receipt, by simp⟩⟩, rfl, ?_, ?_, ?_, ?_⟩
  · dsimp only [millis]
    omega
  · dsimp only [millis]
    omega
  · dsimp only [ProductionToolProxyService.contextFor]
    omega
  · dsimp only [ProductionToolProxyService.contextFor]
    omega

end Preflight

-- After the lease

def isLease : ProxyCall → Bool
  | .lease .. => true
  | _ => false

/-- One lease was obtained, and the calls `after` were made since. -/
def Holding (lease : SecretLease) (after entries : List ProxyEntry) : Prop :=
  ∃ before profile tenantId target ttl, Early before ∧
    entries = before ++ ⟨.lease profile tenantId target ttl, .ok lease⟩ :: after ∧
    ∀ entry ∈ after, isLease entry.1 = false

def Repaid (lease : SecretLease) (entries : List ProxyEntry) : Prop :=
  ∃ after, Holding lease after entries ∧
    ∃ answer, (⟨.revoke lease.leaseId, answer⟩ : ProxyEntry) ∈ after

section Lease

variable {lease : SecretLease} {after entries : List ProxyEntry}

theorem Holding.start {before : List ProxyEntry} {profile : String} {tenantId : TenantId}
    {target : String} {ttl : Nat} (h : Early before) :
    Holding lease [] (before ++ [⟨.lease profile tenantId target ttl, .ok lease⟩]) :=
  ⟨before, profile, tenantId, target, ttl, h, rfl, by simp⟩

theorem Holding.snoc (h : Holding lease after entries) {c : ProxyCall} (answer : c.Answer)
    (hcall : isLease c = false) :
    Holding lease (after ++ [⟨c, answer⟩]) (entries ++ [⟨c, answer⟩]) := by
  obtain ⟨before, profile, tenantId, target, ttl, hearly, rfl, hafter⟩ := h
  refine ⟨before, profile, tenantId, target, ttl, hearly, by simp, fun entry hentry => ?_⟩
  obtain hold | hnew := List.mem_append.mp hentry
  · exact hafter entry hold
  · obtain rfl := List.mem_singleton.mp hnew
    exact hcall

theorem Holding.repaid (h : Holding lease after entries) (answer : Except ProxyError Unit) :
    Repaid lease (entries ++ [⟨.revoke lease.leaseId, answer⟩]) :=
  ⟨after ++ [⟨.revoke lease.leaseId, answer⟩], h.snoc (c := .revoke lease.leaseId) answer rfl,
    answer, by simp⟩

theorem Repaid.snoc (h : Repaid lease entries) {c : ProxyCall} (answer : c.Answer)
    (hcall : isLease c = false) : Repaid lease (entries ++ [⟨c, answer⟩]) := by
  obtain ⟨after, hholding, returned, hreturned⟩ := h
  exact ⟨_, hholding.snoc answer hcall, returned, List.mem_append_left _ hreturned⟩

theorem Repaid.released (h : Repaid lease entries) : Released entries := by
  obtain ⟨after, ⟨before, profile, tenantId, target, ttl, hearly, rfl, hafter⟩, hreturned⟩ := h
  refine released_append hearly
    fun before' after' profile' tenantId' target' ttl' lease' hsplit => ?_
  cases before' with
  | nil =>
    obtain ⟨hhead, rfl⟩ := List.cons.inj hsplit
    cases hhead
    exact hreturned
  | cons entry before' =>
    obtain ⟨-, rfl⟩ := List.cons.inj hsplit
    exact absurd (hafter _ List.mem_append_cons_self) (by simp [isLease])

end Lease

def Settled (codec : ProxyCodec) (request : AuthorizedToolRequest)
    (result : Except ProxyError SanitizedToolResult) (entries : List ProxyEntry) : Prop :=
  Released entries ∧ ∀ value, result = .ok value → Delivered codec request entries value

section Execution

variable {service : ProductionToolProxyService} {request : AuthorizedToolRequest}
  {prepared : PreparedToolExecution} {context : ConnectorContext} {lease : SecretLease}
  {after entries : List ProxyEntry}

theorem Settled.error {codec : ProxyCodec} (e : ProxyError) (entries : List ProxyEntry)
    (h : Released entries) : Settled codec request (.error e) entries :=
  ⟨h, fun _ hok => nomatch hok⟩

theorem revoke_bind {β : Type} {f : Except ProxyError Unit → Proxying ProxyError β}
    {Post : Except ProxyError β → List ProxyEntry → Prop} (h : Holding lease after entries)
    (hrest : ∀ answer entries', Repaid lease entries' →
      List.Sublist (entries ++ [⟨.revoke lease.leaseId, answer⟩]) entries' →
      (watch request).Ensures Post (f answer).run entries') :
    (watch request).Ensures Post
      (ProductionToolProxyService.revokeSecretLease lease.leaseId >>= f).run entries := by
  rw [Monitor.ensures_attempt_bind, ProductionToolProxyService.revokeSecretLease]
  refine ask_bind trivial fun first => ?_
  cases first with
  | ok _ => exact hrest (.ok ()) _ (h.repaid _) (List.Sublist.refl _)
  | error e =>
    refine ⟨trivial, fun second _ => hrest second _ ((h.repaid _).snoc second rfl) ?_⟩
    exact List.Sublist.append (List.sublist_append_left ..) (List.Sublist.refl _)

theorem conduct_giveUp {α : Type} {Post : Except ProxyError α → List ProxyEntry → Prop}
    (h : Holding lease after entries) (e : ProxyError)
    (hpost : ∀ entries', Repaid lease entries' → Post (.error e) entries') :
    (watch request).Ensures Post
      (ProductionToolProxyService.giveUp lease.leaseId e : Proxying ProxyError α).run entries := by
  unfold ProductionToolProxyService.giveUp
  exact revoke_bind h fun _ entries' hrepaid _ => hpost entries' hrepaid

theorem repaid_port_bind {α β : Type} {call : ProxyCall}
    {read : call.Answer → Except ProxyError α} {f : α → Proxying ProxyError β}
    {Post : Except ProxyError β → List ProxyEntry → Prop} (hrepaid : Repaid lease entries)
    (hcall : touches call = false)
    (hok : ∀ answer a, read answer = .ok a → Repaid lease (entries ++ [⟨call, answer⟩]) →
      (watch request).Ensures Post (f a).run (entries ++ [⟨call, answer⟩]))
    (herror : ∀ e entries', Released entries' → Post (.error e) entries') :
    (watch request).Ensures Post (port call read >>= f).run entries := by
  have hlease : isLease call = false := by
    cases call <;> trivial
  refine port_bind ?_ (fun answer a hread => hok answer a hread (hrepaid.snoc answer hlease))
    fun answer e => herror e _ (hrepaid.snoc answer hlease).released
  show MayTouch request entries call
  cases call <;> trivial

theorem conduct_sanitize {raw : RawToolResult} {profile : String} {remaining : Nat}
    (hlimits : Limited request prepared)
    (hbytes : context.maxResponseBytes = prepared.context.maxResponseBytes)
    (hrepaid : Repaid lease entries)
    (hreturned : List.Sublist
      [⟨.connectorExecute profile context request.arguments lease remaining, .ok raw⟩,
        ⟨.revoke lease.leaseId, .ok ()⟩] entries) :
    (watch request).Ensures (Settled service.codec request)
      (service.sanitize prepared context lease raw).run entries := by
  unfold ProductionToolProxyService.sanitize
  refine repaid_port_bind hrepaid rfl (fun _ _ _ h₁ => ?_) .error
  refine ofExcept_bind (fun size hsize => ?_) fun e => .error e _ h₁.released
  refine ensure_bind (fun hsmall => ?_) (.error _ _ h₁.released)
  refine ensure_bind (fun _ => ?_) (.error _ _ h₁.released)
  refine repaid_port_bind h₁ rfl (fun filtered triple hfiltered h₂ => ?_) .error
  obtain rfl : filtered = .ok triple := hfiltered
  obtain ⟨value, redactedPaths, untrustedContent⟩ := triple
  refine repaid_port_bind h₂ rfl (fun _ _ _ h₃ => ?_) .error
  refine ofExcept_bind (fun resultHash _ => ?_) fun e => .error e _ h₃.released
  refine ofExcept_bind (fun resultSize _ => ?_) fun e => .error e _ h₃.released
  refine ensure_bind (fun _ => ?_) (.error _ _ h₃.released)
  refine ⟨h₃.released, ?_⟩
  rintro result ⟨⟩
  have hbounded : context.maxResponseBytes ≤ request.authorization.maxResultBytes ∧
      context.maxResponseBytes ≤ request.tool.limits.maxResultBytes := by
    rw [hbytes]
    exact ⟨hlimits.resultBytes, hlimits.toolBytes⟩
  refine ⟨profile, context, lease, remaining, raw, size, ?_, ?_, hsmall.trans hbounded.1,
    hsmall.trans hbounded.2⟩
  · refine List.Sublist.trans ?_ (List.sublist_append_left ..)
    exact List.Sublist.append (hreturned.trans (List.sublist_append_left ..)) (List.Sublist.refl _)
  · revert hsize
    cases service.codec.valueSize raw.value with
    | none => exact fun h => nomatch h
    | some n => exact fun h => congrArg some (Except.ok.inj h)

theorem conduct_connect {remaining : Nat} (hlimits : Limited request prepared)
    (hbytes : context.maxResponseBytes = prepared.context.maxResponseBytes)
    (hholding : Holding lease after entries) (hcleared : Cleared request entries context lease) :
    (watch request).Ensures (Settled service.codec request)
      (service.connect prepared context lease remaining).run entries := by
  obtain rfl := hlimits.sameRequest
  unfold ProductionToolProxyService.connect
  refine ask_bind ⟨rfl, hcleared⟩ fun execution => ?_
  refine revoke_bind (hholding.snoc (c := .connectorExecute ..) execution rfl)
    fun answer entries' hrepaid hsub => ?_
  refine ofExcept_bind (fun raw hraw => ?_) fun e => .error e _ hrepaid.released
  refine ofExcept_bind (fun _ hrevoked => ?_) fun e => .error e _ hrepaid.released
  subst hraw hrevoked
  have hreturned : List.Sublist
      [⟨.connectorExecute prepared.request.tool.executorProfile context prepared.request.arguments
          lease remaining, .ok raw⟩, ⟨.revoke lease.leaseId, .ok ()⟩] entries' :=
    ((List.sublist_append_right entries _).append (List.Sublist.refl _)).trans hsub
  exact conduct_sanitize hlimits hbytes hrepaid hreturned

/-- The deadline that `run_prepared` sets after its own check. -/
theorem timely_of_limited {checkedAt : DateTime} (hlimits : Limited request prepared)
    (hremaining : 0 ≤ request.authorization.expiresAt - checkedAt) :
    Timely request checkedAt (checkedAt +
      (min prepared.timeout (request.authorization.expiresAt - checkedAt).toNat : Nat)) := by
  have hbounded : ∀ (t last : Int) (timeout ms : Nat), 0 ≤ last - t → timeout ≤ ms →
      t + (min timeout (last - t).toNat : Nat) ≤ last ∧
        t + (min timeout (last - t).toNat : Nat) ≤ t + ms := by
    intro t last timeout ms hlast htimeout
    omega
  have htime := hbounded checkedAt _ _ _ hremaining hlimits.executionTime
  have htool := hbounded checkedAt _ _ _ hremaining hlimits.toolTime
  exact ⟨htime.1, htime.2, htool.2⟩

theorem cleared_of_leased {first : List ProxyEntry} {t now : DateTime} {ttl : Nat}
    (hfirst : Early first) (hvetted : Vetted request first)
    (hscope : lease.profile = request.tool.credentialProfile ∧
      lease.tenantId = request.tenantId ∧ lease.target = request.targetProfile)
    (hlasts : context.deadline ≤ lease.expiresAt) (htimely : Timely request t context.deadline) :
    Cleared request (first ++ [⟨.utcNow, t⟩] ++ [⟨.verifyAuthorization request t, .ok ()⟩] ++
      [⟨.lease request.tool.credentialProfile request.tenantId request.targetProfile ttl,
        .ok lease⟩] ++ [⟨.utcNow, now⟩]) context lease := by
  have hlater : Unconnected [⟨.utcNow, t⟩, ⟨.verifyAuthorization request t, .ok ()⟩,
      ⟨.lease request.tool.credentialProfile request.tenantId request.targetProfile ttl,
        .ok lease⟩, ⟨.utcNow, now⟩] := by
    simp [Unconnected, connectorKey]
  refine ⟨?_, ⟨⟨ttl, by simp⟩, hscope.1, hscope.2.1, hscope.2.2⟩, hlasts, first, _, t,
    by simp only [List.append_assoc]; rfl, hvetted, by simp, htimely⟩
  simp only [List.append_assoc]
  intro entry hentry
  exact (List.mem_append.mp hentry).elim (hfirst.unconnected entry) (hlater entry)

/-- `run_prepared`, after a history in which the request was vetted and nothing was touched. -/
theorem conduct_runPrepared {first : List ProxyEntry} (hfirst : Early first)
    (hvetted : Vetted request first) (hlimits : Limited request prepared) :
    (watch request).Ensures (Settled service.codec request)
      (service.runPrepared prepared).run first := by
  obtain rfl := hlimits.sameRequest
  unfold ProductionToolProxyService.runPrepared
  have hrefused : ∀ e entries', Early entries' →
      Settled service.codec prepared.request (.error e) entries' :=
    fun e entries' hearly => .error e _ hearly.released
  refine early_ask_bind hfirst rfl fun checkedAt h₁ => ?_
  refine early_port_bind h₁ rfl (fun verified _ hverified h₂ => ?_) hrefused
  obtain rfl : verified = .ok () := hverified
  refine ensure_bind (fun hremaining => ?_) (hrefused _ _ h₂)
  refine ensure_bind (fun _ => ?_) (hrefused _ _ h₂)
  refine Monitor.port_bind trivial (fun leased lease hleased => ?_) fun leased e hleased => ?_
  · obtain rfl : leased = .ok lease := hleased
    have hgiven : ∀ e entries', Repaid lease entries' →
        Settled service.codec prepared.request (.error e) entries' :=
      fun e entries' hrepaid => .error e _ hrepaid.released
    split
    · exact conduct_giveUp (.start h₂) _ (hgiven _)
    · rename_i hscope
      simp only [not_or, not_not, not_lt] at hscope
      obtain ⟨hprofile, htenant, htarget, hlasts⟩ := hscope
      refine ask_bind trivial fun now => ?_
      split
      · exact conduct_giveUp ((Holding.start h₂).snoc (c := .utcNow) now rfl) _ (hgiven _)
      · refine conduct_connect hlimits rfl ((Holding.start h₂).snoc (c := .utcNow) now rfl) ?_
        exact cleared_of_leased hfirst hvetted ⟨hprofile, htenant, htarget⟩ hlasts
          (timely_of_limited hlimits hremaining)
  · obtain rfl : leased = .error e := hleased
    exact .error e _ (released_refused h₂)

/-- `preflight`, then `run_prepared`. -/
def perform (service : ProductionToolProxyService) (request : AuthorizedToolRequest) :
    Proxying ProxyError SanitizedToolResult := do
  let prepared ← service.preflight request
  service.runPrepared prepared

theorem conduct_perform :
    (watch request).Ensures (Settled service.codec request) (perform service request).run [] := by
  unfold perform
  refine Monitor.ensures_attempt_bind.mpr (conduct_preflight.mono fun result entries h => ?_)
  obtain ⟨hearly, hprepared⟩ := h
  cases result with
  | error e => exact .error e _ hearly.released
  | ok prepared =>
    obtain ⟨hvetted, hlimits⟩ := hprepared prepared rfl
    exact conduct_runPrepared hearly hvetted hlimits

end Execution

section Histories

variable {service : ProductionToolProxyService} {request : AuthorizedToolRequest}
  {entries : List ProxyEntry} {rest : Program ProxyCall ProxyCall.Answer
    (Except ProxyError SanitizedToolResult)}

def connections (entries : List ProxyEntry) : Nat :=
  entries.countP fun entry => (connectorKey entry.1).isSome

theorem connections_append (entries entries' : List ProxyEntry) :
    connections (entries ++ entries') = connections entries + connections entries' :=
  List.countP_append

theorem Unconnected.connections_eq_zero (h : Unconnected entries) : connections entries = 0 := by
  refine List.countP_eq_zero.mpr fun entry hentry => ?_
  simp [h entry hentry]

theorem watched (h : Resumes (perform service request).run entries rest) :
    (watch request).Ensures (Settled service.codec request) rest entries :=
  Monitor.Ensures.resumes conduct_perform h fun _ _ => trivial

theorem connections_le_one (h : Resumes (perform service request).run entries rest) :
    connections entries ≤ 1 := by
  induction entries using List.reverseRecOn generalizing rest with
  | nil => simp [connections]
  | append_singleton entries entry ih =>
    obtain ⟨call, answer⟩ := entry
    obtain ⟨k, hbefore, -⟩ := h.split
    have hcount := ih hbefore
    cases hcall : connectorKey call with
    | none =>
      have hzero : connections [⟨call, answer⟩] = 0 := by simp [connections, hcall]
      rwa [connections_append, hzero, Nat.add_zero]
    | some key =>
      cases call with
      | connectorExecute =>
        have hzero := Unconnected.connections_eq_zero (watched hbefore).1.2.1
        have hone : connections [⟨_, answer⟩] = 1 := rfl
        rw [connections_append, hzero, hone]
      | _ => cases hcall

/-- **A call is contained**: it runs the connector once at most, and only when everything was
checked; and when it returns, every lease was given back and a result is of bounded size. -/
theorem calls_contained (h : Resumes (perform service request).run entries rest) :
    connections entries ≤ 1 ∧
    (∀ profile context arguments lease remaining,
      rest.pending = some (.connectorExecute profile context arguments lease remaining) →
        arguments = request.arguments ∧ Cleared request entries context lease) ∧
    ∀ result, rest = .done result → Settled service.codec request result entries := by
  refine ⟨connections_le_one h, fun profile context arguments lease remaining hpending => ?_, ?_⟩
  · have hwatched := watched h
    cases rest with
    | done result => cases hpending
    | perform call resume =>
      obtain rfl := Option.some.inj hpending
      exact hwatched.1
  · rintro result rfl
    exact watched h

end Histories

def sampleOracle : (call : ProxyCall) → call.Answer
  | .utcNow => sampleToolRequest.authorization.issuedAt
  | .verifyAuthorization .. | .validateRequest .. | .revoke _ | .connectorVerify .. => .ok ()
  | .resolveExact .. => .ok sampleToolRequest.tool
  | .isRevoked .. => .ok false
  | .validateArguments .. | .validateOutput .. => .ok ()
  | .consume request now => .ok
      { schemaVersion := "agenttrust.credential-consumption.v1"
        idempotencyKey := request.idempotencyKey, consumptionId := (sampleUuid 12).toStr
        credentialId := (sampleUuid 7).toStr, tenantId := request.tenantId
        actionHash := request.actionHash, audience := request.audience
        revocationEpoch := request.revocationEpoch, claimsDigest := request.claimsDigest
        scopeDigest := sampleHash '0', consumedAt := now, remainingUses := 0, issuer := "broker"
        keyId := "broker-1", keyUsage := "WORKLOAD_CREDENTIAL_CONSUMPTION", signature := "c2ln" }
  | .lease profile tenantId target _ => .ok
      ⟨"lease-1", profile, tenantId, target, sampleToolRequest.authorization.expiresAt⟩
  | .connectorExecute .. => .ok ⟨.null, none⟩
  | .filter value _ => .ok (value, [], true)
  | .store _ => .error .storeUnavailable

/-- A call that returns a result. -/
theorem calls_contained_sample :
    ∃ entries result,
      Resumes (perform sampleService sampleToolRequest).run entries (.done (.ok result)) ∧
      connections entries ≤ 1 ∧
      Settled sampleService.codec sampleToolRequest (.ok result) entries := by
  have hanswered : ((perform sampleService sampleToolRequest).run.answered sampleOracle).toBool =
      true := by
    decide
  obtain ⟨entries, -, hresumes⟩ := resumes_answered sampleOracle
    (perform sampleService sampleToolRequest).run
  cases hresult : (perform sampleService sampleToolRequest).run.answered sampleOracle with
  | error e =>
    rw [hresult] at hanswered
    cases hanswered
  | ok result =>
    rw [hresult] at hresumes
    have hcontained := calls_contained hresumes
    exact ⟨entries, result, hresumes, hcontained.1, hcontained.2.2 _ rfl⟩

end AgentSphere.ToolProxy.Calls
