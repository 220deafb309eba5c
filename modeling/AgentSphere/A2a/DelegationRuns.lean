import AgentSphere.A2a.Delegation
import AgentSphere.Lib.Allotment
import AgentSphere.Lib.Claims

/-!
# Runs of a limiter

What the operations of a limiter do, after any answers, and what follows for the tokens of a run.
A token is signed with an identifier of its own, on a lease or on a token that was presented,
checked and handed out before; so the signed tokens are a forest that only grows.
-/

namespace AgentSphere.A2a

open Concurrency Attempt Allotment

def tokenKin : Kinship DelegationToken String where
  key := DelegationToken.tokenId
  parent := DelegationToken.parentTokenId

structure Roots (lease : Orchestrator.AuthorizationLease) (token : DelegationToken) : Prop where
  root : token.parentTokenId = none
  depth : token.depth = 1 ∧ token.depth ≤ token.maximumDepth
  within : token.envelope.isWithin lease

structure Narrows (parent child : DelegationToken) : Prop where
  named : child.parentTokenId = some parent.tokenId
  tenant : child.tenantId = parent.tenantId
  rootTask : child.rootTaskId = parent.rootTaskId
  depth : child.depth = parent.depth + 1 ∧ child.depth ≤ child.maximumDepth
  maximumDepth : child.maximumDepth = parent.maximumDepth
  tools : child.envelope.delegatedTools ⊆ parent.envelope.delegatedTools
  resources : child.envelope.delegatedResources ⊆ parent.envelope.delegatedResources
  budget : child.envelope.budgetCeilingMicrounits ≤ parent.envelope.budgetCeilingMicrounits
  expiry : child.envelope.expiry ≤ parent.envelope.expiry

section Conduct

variable {Bytes : Type}

structure Held (codec : TokenCodec Bytes) (entries : List LimiterEntry) (token : DelegationToken) :
    Prop where
  presented : ⟨.present, token⟩ ∈ entries
  checked : ⟨.isRevoked token, false⟩ ∈ entries
  signed : DelegationLimiter.checkSignature codec token = .ok ()

def Warranted (codec : TokenCodec Bytes) (entries : List LimiterEntry) :
    Warrant → DelegationToken → Prop
  | .lease lease, token => Roots lease token
  | .parent parent, token => Held codec entries parent ∧ Narrows parent token

def LimiterCall.signs : LimiterCall → Bool
  | .insertCounter .. => true
  | _ => false

def LimiterCall.reserves : LimiterCall → Bool
  | .reserve .. => true
  | _ => false

def Untouched (entries : List LimiterEntry) : Prop :=
  ∀ entry ∈ entries, entry.1.signs = false ∧ entry.1.reserves = false

def MayCall (codec : TokenCodec Bytes) (entries : List LimiterEntry) : LimiterCall → Prop
  | .insertCounter warrant token =>
    Warranted codec entries warrant token ∧ ⟨.newUuid, token.tokenId⟩ ∈ entries ∧
      ⟨.currentEpoch token.tenantId, token.revocationEpoch⟩ ∈ entries ∧ Untouched entries
  | .reserve parentTokenId token =>
    (∃ parent, parentTokenId = parent.tokenId ∧
      ⟨.insertCounter (.parent parent) token, ()⟩ ∈ entries) ∧
      ∀ entry ∈ entries, entry.1.reserves = false
  | .consume token => Held codec entries token
  | _ => True

def limiterConduct (codec : TokenCodec Bytes) :
    Monitor LimiterCall LimiterCall.Answer (List LimiterEntry) :=
  recording (MayCall codec) fun _ _ => True

variable {codec : TokenCodec Bytes} {limiter : DelegationLimiter}
  {entries entries' : List LimiterEntry} {call : LimiterCall} {token : DelegationToken}
  {warrant : Warrant}

@[simp] theorem mem_limiterConduct_next {entry : LimiterEntry} {answer : call.Answer} :
    entry ∈ (limiterConduct codec).next entries call answer ↔
      entry ∈ entries ∨ entry = ⟨call, answer⟩ := by
  simp [limiterConduct, recording]

theorem Untouched.next (h : Untouched entries) {answer : call.Answer} (hsigns : call.signs = false)
    (hreserves : call.reserves = false) :
    Untouched ((limiterConduct codec).next entries call answer) := by
  intro entry hentry
  obtain hold | rfl := mem_limiterConduct_next.mp hentry
  · exact h entry hold
  · exact ⟨hsigns, hreserves⟩

theorem Held.mono (h : Held codec entries token) (hsubset : entries ⊆ entries') :
    Held codec entries' token :=
  ⟨hsubset h.presented, hsubset h.checked, h.signed⟩

theorem Warranted.mono (h : Warranted codec entries warrant token) (hsubset : entries ⊆ entries') :
    Warranted codec entries' warrant token := by
  cases warrant with
  | lease lease => exact h
  | parent parent => exact ⟨h.1.mono hsubset, h.2⟩

section Parts

theorem conduct_verify {Post : Except A2aError Unit → List LimiterEntry → Prop} {now : DateTime}
    (herror : ∀ e entries, Post (.error e) entries) (hpresented : ⟨.present, token⟩ ∈ entries)
    (huntouched : Untouched entries)
    (hok : ∀ entries', entries ⊆ entries' → Untouched entries' → Held codec entries' token →
      Post (.ok ()) entries') :
    (limiterConduct codec).Ensures Post (limiter.verify codec token now).run entries := by
  unfold DelegationLimiter.verify
  refine Monitor.ensure_bind (fun _ => ?_) fun _ => herror _ _
  refine Monitor.ask_bind trivial fun revoked => ?_
  refine Monitor.ensure_bind (fun hrevoked => ?_) fun _ => herror _ _
  obtain rfl : revoked = false := hrevoked
  rw [Monitor.ensures_ofExcept]
  cases hsigned : DelegationLimiter.checkSignature codec token with
  | error e => exact herror e _
  | ok _ =>
    refine hok _ ?_ (huntouched.next rfl rfl) ⟨?_, ?_, hsigned⟩
    · exact fun entry hentry => mem_limiterConduct_next.mpr (.inl hentry)
    · exact mem_limiterConduct_next.mpr (.inl hpresented)
    · exact mem_limiterConduct_next.mpr (.inr rfl)

theorem conduct_signToken {Post : Except A2aError DelegationToken → List LimiterEntry → Prop}
    {tenantId : TenantId} {rootTaskId parentTaskId : TaskId} {parentStepId : StepId}
    {envelope : DelegationEnvelope} {depth maximumDepth remainingCalls : Nat}
    {parentTokenId : Option String} (herror : ∀ e entries, Post (.error e) entries)
    (huntouched : Untouched entries)
    (hwarrant : ∀ tokenId epoch signature, Warranted codec entries warrant
      { limiter.unsignedToken tokenId epoch tenantId rootTaskId parentTaskId parentStepId envelope
          depth maximumDepth remainingCalls parentTokenId with signature := signature })
    (hok : ∀ token entries', ⟨.insertCounter warrant token, ()⟩ ∈ entries' →
      (∀ entry ∈ entries', entry.1.reserves = false) → Post (.ok token) entries') :
    (limiterConduct codec).Ensures Post
      (limiter.signToken codec warrant tenantId rootTaskId parentTaskId parentStepId envelope depth
        maximumDepth remainingCalls parentTokenId).run entries := by
  unfold DelegationLimiter.signToken
  refine Monitor.ask_bind trivial fun epoch => ?_
  refine Monitor.ask_bind trivial fun tokenId => ?_
  refine Monitor.ofExcept_bind (fun token hsigned => ?_) fun _ _ => herror _ _
  have hfields : ∃ signature, token = { limiter.unsignedToken tokenId epoch tenantId rootTaskId
      parentTaskId parentStepId envelope depth maximumDepth remainingCalls parentTokenId with
        signature := signature } := by
    unfold DelegationLimiter.signed at hsigned
    split at hsigned
    · exact ⟨_, (Except.ok.inj hsigned).symm⟩
    · cases hsigned
  obtain ⟨signature, rfl⟩ := hfields
  have htouched : Untouched ((limiterConduct codec).next
      ((limiterConduct codec).next entries (.currentEpoch tenantId) epoch) .newUuid tokenId) :=
    (huntouched.next rfl rfl).next rfl rfl
  refine Monitor.ask_bind ⟨?_, ?_, ?_, htouched⟩ fun _ => ?_
  · refine (hwarrant tokenId epoch signature).mono fun entry hentry => ?_
    exact mem_limiterConduct_next.mpr (.inl (mem_limiterConduct_next.mpr (.inl hentry)))
  · exact mem_limiterConduct_next.mpr (.inr rfl)
  · exact mem_limiterConduct_next.mpr (.inl (mem_limiterConduct_next.mpr (.inr rfl)))
  · refine hok _ _ (mem_limiterConduct_next.mpr (.inr rfl)) fun entry hentry => ?_
    obtain hold | rfl := mem_limiterConduct_next.mp hentry
    · exact (htouched entry hold).2
    · rfl

end Parts

theorem untouched_nil : Untouched [] := by simp [Untouched]

theorem conduct_issueRoot (tenantId : TenantId) (rootTaskId : TaskId) (parentStepId : StepId)
    (envelope : DelegationEnvelope) (parentLease : Orchestrator.AuthorizationLease)
    (maximumDepth maximumCalls : Nat) (f : DelegationToken → Reply) :
    (limiterConduct codec).Ensures (fun _ _ => True) (do
      let token ← limiter.issueRoot codec tenantId rootTaskId parentStepId envelope parentLease
        maximumDepth maximumCalls
      pure (f token) : Limiting Reply).run [] := by
  refine Monitor.ensures_attempt_bind.mpr ?_
  unfold DelegationLimiter.issueRoot
  refine Monitor.ensure_bind (fun hscope => ?_) fun _ => trivial
  obtain ⟨hdepth, -, hwithin, -⟩ := hscope
  refine conduct_signToken (fun _ _ => trivial) untouched_nil ?_ fun _ _ _ _ => trivial
  intro tokenId epoch signature
  exact ⟨rfl, ⟨rfl, Nat.one_le_iff_ne_zero.mpr hdepth⟩, hwithin⟩

theorem conduct_issueChild (childAgent : AgentInstanceId) (tools : Finset ToolRef)
    (resources : Finset String) (budgetCeilingMicrounits : Nat) (expiry : DateTime)
    (maximumCalls : Nat) :
    (limiterConduct codec).Ensures (fun _ _ => True) (do
      let parent ← ask .present
      let token ← limiter.issueChild codec parent childAgent tools resources
        budgetCeilingMicrounits expiry maximumCalls
      pure (.token token) : Limiting Reply).run [] := by
  refine Monitor.ask_bind trivial fun parent => ?_
  refine Monitor.ensures_attempt_bind.mpr ?_
  unfold DelegationLimiter.issueChild
  refine Monitor.ask_bind trivial fun now => ?_
  refine Monitor.ensures_attempt_bind.mpr (conduct_verify (fun _ _ => trivial)
    (mem_limiterConduct_next.mpr (.inl (mem_limiterConduct_next.mpr (.inr rfl))))
    ((untouched_nil.next rfl rfl).next rfl rfl) fun entries _ huntouched hheld => ?_)
  refine Monitor.ensure_bind (fun hscope => ?_) fun _ => trivial
  obtain ⟨hdepth, -, -, htools, hresources, hbudget, hexpiry⟩ := hscope
  refine Monitor.ensures_attempt_bind.mpr (conduct_signToken (fun _ _ => trivial) huntouched ?_ ?_)
  · intro tokenId epoch signature
    exact ⟨hheld, rfl, rfl, rfl, ⟨rfl, hdepth⟩, rfl, htools, hresources, hbudget, hexpiry⟩
  · intro token entries' hsigned hreserves
    exact Monitor.port_bind ⟨⟨parent, rfl, hsigned⟩, hreserves⟩ (fun _ _ _ => trivial)
      fun _ _ _ => trivial

theorem Caller.mayCall {p : Program LimiterCall LimiterCall.Answer (Except A2aError Reply)}
    (h : Caller codec limiter p) : (limiterConduct codec).Ensures (fun _ _ => True) p [] := by
  cases h with
  | issueRoot => exact conduct_issueRoot ..
  | issueChild => exact conduct_issueChild ..
  | verify =>
    refine Monitor.ask_bind trivial fun token => ?_
    exact Monitor.ensures_attempt_bind.mpr (conduct_verify (fun _ _ => trivial)
      (mem_limiterConduct_next.mpr (.inr rfl)) (untouched_nil.next rfl rfl)
      fun _ _ _ _ => trivial)
  | consumeCall =>
    refine Monitor.ask_bind trivial fun token => ?_
    refine Monitor.ensures_attempt_bind.mpr ?_
    unfold DelegationLimiter.consumeCall
    refine Monitor.ensures_attempt_bind.mpr (conduct_verify (fun _ _ => trivial)
      (mem_limiterConduct_next.mpr (.inr rfl)) (untouched_nil.next rfl rfl)
      fun entries _ _ hheld => ?_)
    refine Monitor.ensures_attempt_bind.mpr ⟨hheld, fun answer _ => ?_⟩
    cases answer with
    | error e => exact trivial
    | ok calls => exact trivial
  | revokeToken | revokeRootTask | bumpTenantEpoch =>
    exact Monitor.ask_bind trivial fun _ => trivial

end Conduct

-- Lineage

def SignedBy (trace : List LimiterEvent) (i : Nat) (warrant : Warrant) (token : DelegationToken) :
    Prop :=
  ⟨.insertCounter warrant token, ()⟩ ∈ history i trace

def ReservedBy (trace : List LimiterEvent) (i : Nat) (token : DelegationToken) : Prop :=
  ∃ parentTokenId answer, ⟨.reserve parentTokenId token, answer⟩ ∈ history i trace

def Bears (issued : Finset DelegationToken) : Warrant → DelegationToken → Prop
  | .lease lease, token => Roots lease token
  | .parent parent, token => parent ∈ issued ∧ Narrows parent token

structure Lineage (shared : Delegations) (trace : List LimiterEvent) : Prop where
  distinct : ∀ a ∈ shared.signed, ∀ b ∈ shared.signed, a.tokenId = b.tokenId → a = b
  signed : ∀ token ∈ shared.signed, ∃ i warrant, SignedBy trace i warrant token
  drew : ∀ i warrant token, SignedBy trace i warrant token →
    token ∈ shared.signed ∧ ⟨.newUuid, token.tokenId⟩ ∈ history i trace
  borne : ∀ i warrant token, SignedBy trace i warrant token → Bears shared.issued warrant token
  issued : shared.issued ⊆ shared.signed
  roots : ∀ token ∈ shared.signed, token.parentTokenId = none → token ∈ shared.issued
  paid : ∀ child ∈ shared.issued, child.parentTokenId ≠ none → ∃ i, ReservedBy trace i child
  payer : ∀ i child, ReservedBy trace i child → ∃ warrant, SignedBy trace i warrant child

theorem SignedBy.snoc {trace : List LimiterEvent} {i : Nat} {warrant : Warrant}
    {token : DelegationToken} {event : LimiterEvent} (h : SignedBy trace i warrant token) :
    SignedBy (trace ++ [event]) i warrant token :=
  mem_history_snoc.mpr (.inl h)

theorem ReservedBy.snoc {trace : List LimiterEvent} {i : Nat} {token : DelegationToken}
    {event : LimiterEvent} (h : ReservedBy trace i token) :
    ReservedBy (trace ++ [event]) i token := by
  obtain ⟨parentTokenId, answer, hentry⟩ := h
  exact ⟨parentTokenId, answer, mem_history_snoc.mpr (.inl hentry)⟩

theorem Bears.mono {issued issued' : Finset DelegationToken} {warrant : Warrant}
    {token : DelegationToken} (h : Bears issued warrant token) (hsubset : issued ⊆ issued') :
    Bears issued' warrant token := by
  cases warrant with
  | lease lease => exact h
  | parent parent => exact ⟨hsubset h.1, h.2⟩

namespace Lineage

variable {shared shared' : Delegations} {trace : List LimiterEvent} {token child : DelegationToken}

theorem parents (h : Lineage shared trace) (hchild : child ∈ shared.signed) {k : String}
    (hk : child.parentTokenId = some k) :
    ∃ parent ∈ shared.issued, parent.tokenId = k ∧ Narrows parent child := by
  obtain ⟨i, warrant, hsigned⟩ := h.signed child hchild
  have hborne := h.borne i warrant child hsigned
  cases warrant with
  | lease lease =>
    rw [hborne.root] at hk
    cases hk
  | parent parent =>
    obtain ⟨hissued, hnarrows⟩ := hborne
    exact ⟨parent, hissued, Option.some.inj (hnarrows.named.symm.trans hk), hnarrows⟩

theorem forest (h : Lineage shared trace) : tokenKin.Forest shared.signed where
  distinct := h.distinct
  closed child hchild k hk := by
    obtain ⟨parent, hissued, hkey, -⟩ := h.parents hchild hk
    exact ⟨parent, h.issued hissued, hkey⟩

theorem forest_issued (h : Lineage shared trace) : tokenKin.Forest shared.issued where
  distinct a ha b hb := h.distinct a (h.issued ha) b (h.issued hb)
  closed child hchild k hk := by
    obtain ⟨parent, hissued, hkey, -⟩ := h.parents (h.issued hchild) hk
    exact ⟨parent, hissued, hkey⟩

theorem root_lease (h : Lineage shared trace) (htoken : token ∈ shared.signed)
    (hroot : token.parentTokenId = none) :
    ∃ i lease, SignedBy trace i (.lease lease) token ∧ Roots lease token := by
  obtain ⟨i, warrant, hsigned⟩ := h.signed token htoken
  have hborne := h.borne i warrant token hsigned
  cases warrant with
  | lease lease => exact ⟨i, lease, hsigned, hborne⟩
  | parent parent =>
    rw [hborne.2.named] at hroot
    cases hroot

theorem depth (h : Lineage shared trace) (htoken : token ∈ shared.signed) :
    1 ≤ token.depth ∧ token.depth ≤ token.maximumDepth := by
  cases hparent : token.parentTokenId with
  | none =>
    obtain ⟨-, lease, -, hroots⟩ := h.root_lease htoken hparent
    exact ⟨hroots.depth.1.ge, hroots.depth.2⟩
  | some k =>
    obtain ⟨parent, -, -, hnarrows⟩ := h.parents htoken hparent
    refine ⟨?_, hnarrows.depth.2⟩
    rw [hnarrows.depth.1]
    omega

end Lineage

section Steps

variable {Bytes : Type} {codec : TokenCodec Bytes} {limiter : DelegationLimiter}
  {shared shared' : Delegations} {call : LimiterCall} {answer : call.Answer}
  {cfg : LimiterConfig} {trace : List LimiterEvent}

theorem issued_sign (shared : Delegations) (warrant : Warrant) (token : DelegationToken) :
    shared.issued ⊆ (shared.sign warrant token).issued := by
  cases warrant with
  | lease lease => exact Finset.subset_insert _ _
  | parent parent => exact Finset.Subset.refl _

theorem issued_reserve (shared : Delegations) (parentTokenId : String) (token : DelegationToken) :
    shared.issued ⊆ (shared.reserve parentTokenId token).issued := by
  unfold Delegations.reserve
  split
  · exact Finset.subset_insert _ _
  · exact Finset.Subset.refl _

theorem serve_issued (h : shared.serve codec call answer shared') :
    shared.issued ⊆ shared'.issued := by
  cases call with
  | insertCounter warrant token =>
    obtain rfl : shared' = shared.sign warrant token := h
    exact issued_sign shared warrant token
  | reserve parentTokenId token =>
    obtain ⟨-, rfl⟩ := h
    exact issued_reserve shared parentTokenId token
  | utcNow | revokeToken | revokeRootTask =>
    obtain rfl := h
    exact Finset.Subset.refl _
  | present | newUuid | currentEpoch | isRevoked | consume | bumpTenantEpoch =>
    obtain ⟨-, rfl⟩ := h
    exact Finset.Subset.refl _

def drawn : LimiterEntry → Option String
  | ⟨.newUuid, tokenId⟩ => some tokenId
  | _ => none

theorem draws (codec : TokenCodec Bytes) (limiter : DelegationLimiter) :
    Claims (delegations codec limiter) drawn fun shared => (shared.drawn : Set String) := by
  have hserve : ∀ {shared : Delegations} {call : LimiterCall} {answer : call.Answer}
      {shared' : Delegations}, shared.serve codec call answer shared' →
      shared'.drawn = shared.drawn ∧ drawn ⟨call, answer⟩ = none ∨
      ∃ tokenId, drawn ⟨call, answer⟩ = some tokenId ∧ tokenId ∉ shared.drawn ∧
        shared'.drawn = insert tokenId shared.drawn := by
    intro shared call answer shared' h
    cases call with
    | newUuid =>
      obtain ⟨hnew, rfl⟩ := h
      exact .inr ⟨answer, rfl, hnew, rfl⟩
    | utcNow | revokeToken | revokeRootTask | insertCounter =>
      obtain rfl := h
      exact .inl ⟨rfl, rfl⟩
    | present | currentEpoch | isRevoked | reserve | consume | bumpTenantEpoch =>
      obtain ⟨-, rfl⟩ := h
      exact .inl ⟨rfl, rfl⟩
  refine ⟨?_, ?_, ?_, ?_⟩
  · intro shared call answer shared' key h hwon
    obtain ⟨-, hnone⟩ | ⟨tokenId, hdrawn, hnew, -⟩ := hserve h
    · rw [hnone] at hwon
      cases hwon
    · obtain rfl := Option.some.inj (hdrawn.symm.trans hwon)
      exact hnew
  · intro shared call answer shared' key h hwon
    obtain ⟨-, hnone⟩ | ⟨tokenId, hdrawn, -, hafter⟩ := hserve h
    · rw [hnone] at hwon
      cases hwon
    · obtain rfl := Option.some.inj (hdrawn.symm.trans hwon)
      simp [hafter]
  · intro shared call answer shared' key h hkey
    obtain ⟨hsame, -⟩ | ⟨tokenId, -, -, hafter⟩ := hserve h
    · rwa [hsame]
    · rw [hafter]
      exact Finset.mem_insert_of_mem hkey
  · rintro shared shared' key ⟨⟩

theorem drawn_once (hreach : (delegations codec limiter).Reachable .initial cfg) {i j : Nat}
    {tokenId : String} (hi : ⟨.newUuid, tokenId⟩ ∈ history i cfg.trace)
    (hj : ⟨.newUuid, tokenId⟩ ∈ history j cfg.trace) : i = j := by
  obtain ⟨event, hevent, rfl, hentry⟩ := mem_history.mp hi
  obtain ⟨event', hevent', rfl, hentry'⟩ := mem_history.mp hj
  rw [(draws codec limiter).unique hreach hevent hevent' (congrArg drawn hentry)
    (congrArg drawn hentry')]

theorem presented_issued (hreach : (delegations codec limiter).Reachable .initial cfg) {i : Nat}
    {token : DelegationToken} (hpresented : ⟨.present, token⟩ ∈ history i cfg.trace)
    (hsigned : DelegationLimiter.checkSignature codec token = .ok ()) :
    token ∈ cfg.shared.issued := by
  obtain ⟨event, hevent, -, hentry⟩ := mem_history.mp hpresented
  refine (hreach.always (I := fun shared trace => ∀ event ∈ trace,
    event.entry = ⟨.present, token⟩ → token ∈ shared.issued) ?_ ?_ (by simp)).1 event hevent hentry
  · intro shared trace i call answer shared' hinv hserve event hevent hentry
    have hgrows : shared.issued ⊆ shared'.issued :=
      serve_issued (show shared.serve codec call answer shared' from hserve)
    obtain hold | hnew := List.mem_append.mp hevent
    · exact hgrows (hinv event hold hentry)
    · obtain rfl := List.mem_singleton.mp hnew
      cases hentry
      exact hgrows (hserve.1 hsigned)
  · rintro _ _ _ _ ⟨⟩

theorem Lineage.other (h : Lineage shared trace) {i : Nat}
    (hsigned : shared'.signed = shared.signed)
    (hissued : shared'.issued = shared.issued) (hsigns : call.signs = false)
    (hreserves : call.reserves = false) :
    Lineage shared' (trace ++ [⟨i, call, answer, shared, shared'⟩]) := by
  have hold : ∀ {j warrant token}, SignedBy (trace ++ [⟨i, call, answer, shared, shared'⟩]) j
      warrant token → SignedBy trace j warrant token := by
    intro j warrant token hsignedBy
    obtain hsame | ⟨-, hentry⟩ := mem_history_snoc.mp hsignedBy
    · exact hsame
    · cases hentry
      cases hsigns
  refine ⟨?_, ?_, ?_, ?_, ?_, ?_, ?_, ?_⟩
  · rw [hsigned]
    exact h.distinct
  · intro token htoken
    obtain ⟨j, warrant, hsignedBy⟩ := h.signed token (hsigned ▸ htoken)
    exact ⟨j, warrant, mem_history_snoc.mpr (.inl hsignedBy)⟩
  · intro j warrant token hsignedBy
    obtain ⟨hmem, hdrew⟩ := h.drew j warrant token (hold hsignedBy)
    exact ⟨hsigned ▸ hmem, mem_history_snoc.mpr (.inl hdrew)⟩
  · intro j warrant token hsignedBy
    rw [hissued]
    exact h.borne j warrant token (hold hsignedBy)
  · rw [hissued, hsigned]
    exact h.issued
  · rw [hissued, hsigned]
    exact h.roots
  · intro child hchild hparent
    obtain ⟨j, hpaid⟩ := h.paid child (hissued ▸ hchild) hparent
    exact ⟨j, hpaid.snoc⟩
  · rintro j child ⟨parentTokenId, x, hreserve⟩
    obtain hold | ⟨-, hentry⟩ := mem_history_snoc.mp hreserve
    · obtain ⟨warrant, hsignedBy⟩ := h.payer j child ⟨parentTokenId, x, hold⟩
      exact ⟨warrant, hsignedBy.snoc⟩
    · cases hentry
      cases hreserves

theorem Lineage.sign (h : Lineage shared trace) {i : Nat} {warrant : Warrant}
    {token : DelegationToken} (hnew : ∀ a ∈ shared.signed, a.tokenId ≠ token.tokenId)
    (hborne : Bears shared.issued warrant token)
    (hdrew : ⟨.newUuid, token.tokenId⟩ ∈ history i trace) :
    Lineage (shared.sign warrant token)
      (trace ++ [⟨i, .insertCounter warrant token, (), shared, shared.sign warrant token⟩]) := by
  have hgrows := issued_sign shared warrant token
  refine ⟨?_, ?_, ?_, ?_, ?_, ?_, ?_, ?_⟩
  · intro a ha b hb hkey
    obtain rfl | hold := Finset.mem_insert.mp ha
    · obtain rfl | hold' := Finset.mem_insert.mp hb
      · rfl
      · exact absurd hkey.symm (hnew b hold')
    · obtain rfl | hold' := Finset.mem_insert.mp hb
      · exact absurd hkey (hnew a hold)
      · exact h.distinct a hold b hold' hkey
  · intro a ha
    obtain rfl | hold := Finset.mem_insert.mp ha
    · exact ⟨i, warrant, mem_history_snoc.mpr (.inr ⟨rfl, rfl⟩)⟩
    · obtain ⟨j, warrant', hsigned⟩ := h.signed a hold
      exact ⟨j, warrant', hsigned.snoc⟩
  · intro j warrant' a hsigned
    obtain hold | ⟨rfl, hentry⟩ := mem_history_snoc.mp hsigned
    · obtain ⟨hmem, hdrew'⟩ := h.drew j warrant' a hold
      exact ⟨Finset.mem_insert_of_mem hmem, mem_history_snoc.mpr (.inl hdrew')⟩
    · cases hentry
      exact ⟨Finset.mem_insert_self _ _, mem_history_snoc.mpr (.inl hdrew)⟩
  · intro j warrant' a hsigned
    obtain hold | ⟨-, hentry⟩ := mem_history_snoc.mp hsigned
    · exact (h.borne j warrant' a hold).mono hgrows
    · cases hentry
      exact hborne.mono hgrows
  · cases warrant with
    | lease lease => exact Finset.insert_subset_insert token h.issued
    | parent parent => exact h.issued.trans (Finset.subset_insert _ _)
  · intro a ha hroot
    obtain rfl | hold := Finset.mem_insert.mp ha
    · cases warrant with
      | lease lease => exact Finset.mem_insert_self _ _
      | parent parent =>
        rw [hborne.2.named] at hroot
        cases hroot
    · exact hgrows (h.roots a hold hroot)
  · intro child hchild hparent
    have hold : child ∈ shared.issued := by
      cases warrant with
      | parent parent => exact hchild
      | lease lease =>
        obtain rfl | hold := Finset.mem_insert.mp hchild
        · exact absurd hborne.root hparent
        · exact hold
    obtain ⟨j, hpaid⟩ := h.paid child hold hparent
    exact ⟨j, hpaid.snoc⟩
  · rintro j child ⟨parentTokenId, x, hreserve⟩
    obtain hold | ⟨-, hentry⟩ := mem_history_snoc.mp hreserve
    · obtain ⟨warrant', hsignedBy⟩ := h.payer j child ⟨parentTokenId, x, hold⟩
      exact ⟨warrant', hsignedBy.snoc⟩
    · cases hentry

theorem Lineage.reserve (h : Lineage shared trace) {i : Nat} {warrant : Warrant}
    {token : DelegationToken} (parentTokenId : String) (answer : Except A2aError Unit)
    (hsigned : SignedBy trace i warrant token) :
    Lineage (shared.reserve parentTokenId token) (trace ++
      [⟨i, .reserve parentTokenId token, answer, shared, shared.reserve parentTokenId token⟩]) := by
  have hissued : ∀ child, child ∈ (shared.reserve parentTokenId token).issued →
      child ∈ shared.issued ∨ child = token := by
    intro child hchild
    unfold Delegations.reserve at hchild
    split at hchild
    · exact (Finset.mem_insert.mp hchild).symm
    · exact .inl hchild
  have hgrows := issued_reserve shared parentTokenId token
  have hold : ∀ {j warrant' a}, SignedBy (trace ++ [⟨i, .reserve parentTokenId token, answer,
      shared, shared.reserve parentTokenId token⟩]) j warrant' a → SignedBy trace j warrant' a := by
    intro j warrant' a hsignedBy
    obtain hsame | ⟨-, hentry⟩ := mem_history_snoc.mp hsignedBy
    · exact hsame
    · cases hentry
  refine ⟨h.distinct, ?_, ?_, ?_, ?_, ?_, ?_, ?_⟩
  · intro a ha
    obtain ⟨j, warrant', hsigned'⟩ := h.signed a ha
    exact ⟨j, warrant', mem_history_snoc.mpr (.inl hsigned')⟩
  · intro j warrant' a hsignedBy
    obtain ⟨hmem, hdrew⟩ := h.drew j warrant' a (hold hsignedBy)
    exact ⟨hmem, mem_history_snoc.mpr (.inl hdrew)⟩
  · intro j warrant' a hsignedBy
    exact (h.borne j warrant' a (hold hsignedBy)).mono hgrows
  · intro a ha
    obtain hold | rfl := hissued a ha
    · exact h.issued hold
    · exact (h.drew i warrant a hsigned).1
  · exact fun a ha hroot => hgrows (h.roots a ha hroot)
  · intro child hchild hparent
    obtain hold | rfl := hissued child hchild
    · obtain ⟨j, hpaid⟩ := h.paid child hold hparent
      exact ⟨j, hpaid.snoc⟩
    · exact ⟨i, parentTokenId, answer, mem_history_snoc.mpr (.inr ⟨rfl, rfl⟩)⟩
  · rintro j child ⟨k, x, hreserve⟩
    obtain hold | ⟨rfl, hentry⟩ := mem_history_snoc.mp hreserve
    · obtain ⟨warrant', hsignedBy⟩ := h.payer j child ⟨k, x, hold⟩
      exact ⟨warrant', hsignedBy.snoc⟩
    · cases hentry
      exact ⟨warrant, hsigned.snoc⟩

theorem Lineage.signed_once (h : Lineage cfg.shared cfg.trace)
    (hreach : (delegations codec limiter).Reachable .initial cfg) {i j : Nat}
    {warrant warrant' : Warrant} {token token' : DelegationToken}
    (hi : SignedBy cfg.trace i warrant token) (hj : SignedBy cfg.trace j warrant' token')
    (hkey : token.tokenId = token'.tokenId) : i = j := by
  have hdrew := (h.drew i warrant token hi).2
  rw [hkey] at hdrew
  exact drawn_once hreach hdrew (h.drew j warrant' token' hj).2

theorem Lineage.unpaid (h : Lineage cfg.shared cfg.trace)
    (hreach : (delegations codec limiter).Reachable .initial cfg) {i : Nat} {warrant : Warrant}
    {token : DelegationToken} (hsigned : SignedBy cfg.trace i warrant token)
    (hnone : ∀ entry ∈ history i cfg.trace, entry.1.reserves = false) (j : Nat) :
    ¬ ReservedBy cfg.trace j token := by
  intro hreserved
  obtain ⟨warrant', hsigned'⟩ := h.payer j token hreserved
  obtain rfl : i = j := h.signed_once hreach hsigned hsigned' rfl
  obtain ⟨parentTokenId, answer, hentry⟩ := hreserved
  cases hnone _ hentry

theorem Lineage.fresh (h : Lineage cfg.shared cfg.trace)
    (hreach : (delegations codec limiter).Reachable .initial cfg) {i : Nat} {tokenId : String}
    (hdrew : ⟨.newUuid, tokenId⟩ ∈ history i cfg.trace)
    (huntouched : Untouched (history i cfg.trace)) :
    ∀ a ∈ cfg.shared.signed, a.tokenId ≠ tokenId := by
  rintro a ha rfl
  obtain ⟨j, warrant, hsigned⟩ := h.signed a ha
  obtain rfl : i = j := drawn_once hreach hdrew (h.drew j warrant a hsigned).2
  cases (huntouched _ hsigned).1

theorem bears_of_warranted (hreach : (delegations codec limiter).Reachable .initial cfg) {i : Nat}
    {warrant : Warrant} {token : DelegationToken}
    (h : Warranted codec (history i cfg.trace) warrant token) :
    Bears cfg.shared.issued warrant token := by
  cases warrant with
  | lease lease => exact h
  | parent parent => exact ⟨presented_issued hreach h.1.presented h.1.signed, h.2⟩

/-- **Step lemma**: a call that an operation may make keeps the lineage of the tokens. -/
theorem Lineage.step (h : Lineage cfg.shared cfg.trace)
    (hreach : (delegations codec limiter).Reachable .initial cfg) {i : Nat} {call : LimiterCall}
    {answer : call.Answer} (hmay : MayCall codec (history i cfg.trace) call)
    (hserve : cfg.shared.serve codec call answer shared') :
    Lineage shared' (cfg.trace ++ [⟨i, call, answer, cfg.shared, shared'⟩]) := by
  cases call with
  | insertCounter warrant token =>
    obtain rfl := hserve
    obtain ⟨hwarranted, hdrew, -, huntouched⟩ := hmay
    exact h.sign (h.fresh hreach hdrew huntouched)
      (bears_of_warranted hreach hwarranted) hdrew
  | reserve parentTokenId token =>
    obtain ⟨-, rfl⟩ := hserve
    obtain ⟨⟨parent, -, hsigned⟩, -⟩ := hmay
    exact h.reserve parentTokenId answer hsigned
  | utcNow | revokeToken | revokeRootTask =>
    obtain rfl := hserve
    exact h.other rfl rfl rfl rfl
  | present | newUuid | currentEpoch | isRevoked | consume | bumpTenantEpoch =>
    obtain ⟨-, rfl⟩ := hserve
    exact h.other rfl rfl rfl rfl

/-- **Run lemma**: the tokens of a run have their lineage, before each event and at the end. -/
theorem lineage_of_run (hreach : (delegations codec limiter).Reachable .initial cfg) :
    Lineage cfg.shared cfg.trace ∧
    ∀ before event after, cfg.trace = before ++ event :: after →
      Lineage event.before before ∧ MayCall codec (history event.thread before) event.call ∧
        event.before.serve codec event.call event.answer event.after := by
  refine hreach.conducted (fun p (hp : Caller codec limiter p) => hp.mayCall) ?_ ?_ ?_
  · intro cfg i call answer shared' hreach hlineage hmay hserve
    exact hlineage.step hreach hmay hserve
  · rintro _ _ _ _ ⟨⟩
  · refine ⟨?_, ?_, ?_, ?_, ?_, ?_, ?_, ?_⟩ <;>
      simp [Delegations.initial, SignedBy, ReservedBy]

end Steps

-- A sample tree

def sampleTokenCodec : TokenCodec String where
  tokenJcs token := some token.tokenId
  sign bytes := bytes
  verifies bytes signature := bytes == signature

def sampleLimiter : DelegationLimiter := ⟨"issuer", "key", by decide⟩

def sampleEnvelope : DelegationEnvelope where
  schemaVersion := "agenttrust.contracts.v1"
  parentAgent := "planner"
  childAgent := "worker"
  delegatedTools := ∅
  delegatedResources := ∅
  budgetCeilingMicrounits := 100
  expiry := 50

def sampleRoot : DelegationToken :=
  { sampleLimiter.unsignedToken "root" 0 "tenant" "task" "task" "step" sampleEnvelope 1 2 2 none
    with signature := "root" }

def sampleChild : DelegationToken :=
  { sampleLimiter.unsignedToken "child" 0 "tenant" "task" "task" "step"
      (DelegationLimiter.childEnvelope sampleRoot "helper" ∅ ∅ 100 50) 2 2 1
      (some "root") with signature := "child" }

def sampleRooted : Delegations :=
  (Delegations.initial.draw "root").sign (.lease (Orchestrator.sampleLease 0)) sampleRoot

def sampleSigned : Delegations :=
  (sampleRooted.draw "child").sign (.parent sampleRoot) sampleChild

def sampleTree : Delegations :=
  sampleSigned.reserve "root" sampleChild

def sampleRooting : List LimiterEntry :=
  [⟨.currentEpoch "tenant", (0 : Nat)⟩, ⟨.newUuid, "root"⟩,
    ⟨.insertCounter (.lease (Orchestrator.sampleLease 0)) sampleRoot, ()⟩]

def sampleHanding : List LimiterEntry :=
  [⟨.present, sampleRoot⟩, ⟨.utcNow, (5 : DateTime)⟩, ⟨.isRevoked sampleRoot, false⟩,
    ⟨.currentEpoch "tenant", (0 : Nat)⟩, ⟨.newUuid, "child"⟩,
    ⟨.insertCounter (.parent sampleRoot) sampleChild, ()⟩,
    ⟨.reserve "root" sampleChild, .ok ()⟩]

theorem sample_verify {token : DelegationToken} (htoken : token ∈ [sampleRoot, sampleChild]) :
    Resumes (sampleLimiter.verify sampleTokenCodec token 5).run [⟨.isRevoked token, false⟩]
      (.done (.ok ())) := by
  have hchecks : token.issuer = sampleLimiter.issuer ∧ token.keyId = sampleLimiter.keyId ∧
      token.depth ≠ 0 ∧ token.depth ≤ token.maximumDepth ∧ 5 < token.envelope.expiry := by
    revert token
    decide
  have hsigned : DelegationLimiter.checkSignature sampleTokenCodec token = .ok () := by
    revert token
    decide
  refine .ensure_bind hchecks (.ask_bind (.ensure_bind rfl ?_))
  rw [hsigned]
  exact .refl _

theorem sample_tree :
    ∃ cfg : LimiterConfig, (delegations sampleTokenCodec sampleLimiter).Reachable .initial cfg ∧
      cfg.shared = sampleTree ∧ cfg.threads.length = 2 ∧
      cfg.trace.map Event.entry = sampleRooting ++ sampleHanding := by
  have hroot : Resumes (sampleLimiter.issueRoot sampleTokenCodec "tenant" "task" "step"
      sampleEnvelope (Orchestrator.sampleLease 0) 2 2).run sampleRooting
      (.done (.ok sampleRoot)) := by
    refine .ensure_bind (by decide) ?_
    refine .ask_bind (.ask_bind (.ofExcept_bind rfl (.ask_bind (.refl _))))
  have hchild : Resumes (sampleLimiter.issueChild sampleTokenCodec sampleRoot "helper" ∅ ∅
      100 50 1).run sampleHanding.tail (.done (.ok sampleChild)) := by
    refine .ask_bind ((sample_verify (by simp)).attempt_bind ?_)
    refine .ensure_bind (by decide) ?_
    have hsigned : Resumes (sampleLimiter.signToken sampleTokenCodec (.parent sampleRoot) "tenant"
        "task" "task" "step" (DelegationLimiter.childEnvelope sampleRoot "helper" ∅ ∅ 100 50) 2 2 1
        (some "root")).run
        [⟨.currentEpoch "tenant", (0 : Nat)⟩, ⟨.newUuid, "child"⟩,
          ⟨.insertCounter (.parent sampleRoot) sampleChild, ()⟩] (.done (.ok sampleChild)) :=
      .ask_bind (.ask_bind (.ofExcept_bind rfl (.ask_bind (.refl _))))
    exact hsigned.attempt_bind (.port_bind rfl (.refl _))
  let rooting : Program LimiterCall LimiterCall.Answer (Except A2aError Reply) := (do
    let token ← sampleLimiter.issueRoot sampleTokenCodec "tenant" "task" "step" sampleEnvelope
      (Orchestrator.sampleLease 0) 2 2
    pure (.token token) : Limiting Reply).run
  let handing : Program LimiterCall LimiterCall.Answer (Except A2aError Reply) := (do
    let parent ← ask .present
    let token ← sampleLimiter.issueChild sampleTokenCodec parent "helper" ∅ ∅ 100 50 1
    pure (.token token) : Limiting Reply).run
  have hrooting : Resumes rooting sampleRooting (.done (.ok (.token sampleRoot))) :=
    hroot.attempt_bind (.refl _)
  have hhanding : Resumes handing sampleHanding (.done (.ok (.token sampleChild))) :=
    .ask_bind (hchild.attempt_bind (.refl _))
  have hstart : (delegations sampleTokenCodec sampleLimiter).Reachable .initial
      ⟨.initial, [rooting, handing], []⟩ :=
    .tail (.tail .refl (.start _ (.issueRoot ..))) (.start _ (.issueChild ..))
  have hrooted : (delegations sampleTokenCodec sampleLimiter).Serves .initial sampleRooting
      sampleRooted := by
    refine .through .initial ⟨by decide, rfl⟩ ?_
    refine .through (Delegations.initial.draw "root") ⟨by decide, rfl⟩ ?_
    exact .through sampleRooted rfl (.nil _)
  obtain ⟨events, -, hevents, hfirst⟩ := hstart.run 0 rfl hrooting hrooted
  have hhanded : (delegations sampleTokenCodec sampleLimiter).Serves sampleRooted sampleHanding
      sampleTree := by
    refine .through sampleRooted ⟨fun _ => by decide, rfl⟩ ?_
    refine .through sampleRooted rfl ?_
    refine .through sampleRooted ⟨by decide, rfl⟩ ?_
    refine .through sampleRooted ⟨by decide, rfl⟩ ?_
    refine .through (sampleRooted.draw "child") ⟨by decide, rfl⟩ ?_
    refine .through sampleSigned rfl ?_
    exact .through sampleTree ⟨by decide, rfl⟩ (.nil _)
  obtain ⟨events', -, hevents', hsecond⟩ := hfirst.run 1 rfl hhanding hhanded
  exact ⟨_, hsecond, rfl, rfl, by simp [hevents, hevents']⟩

end AgentSphere.A2a
