import AgentSphere.A2a.DelegationRuns

/-!
# Revocation of delegated tokens

A revocation by identifier is recorded for that identifier only, and a check looks at nothing but
the token itself. So a revoked token that has handed calls on leaves its children in force, and so
does a root for a task that is not that of its lease. In runs in which no such token is left, and
no child is signed while its parent is being revoked, revocations reach all descendants.
-/

namespace AgentSphere.A2a

open Concurrency Attempt Allotment

def OnLease (trace : List LimiterEvent) (signed : Finset DelegationToken)
    (lease : Orchestrator.AuthorizationLease) (token : DelegationToken) : Prop :=
  ∃ i, ∃ root ∈ signed, SignedBy trace i (.lease lease) root ∧ tokenKin.Derives signed root token

def Withdrawn (trace : List LimiterEvent) (shared : Delegations) (token : DelegationToken) : Prop :=
  (∃ ancestor ∈ shared.signed, tokenKin.Derives shared.signed ancestor token ∧
    ancestor.tokenId ∈ shared.state.revokedTokens) ∨
  ∃ lease, OnLease trace shared.signed lease token ∧ lease.taskId ∈ shared.state.revokedTasks

/-- A revocation leaves no descendant in force, a child is not signed below what was revoked, and
an epoch is not the last one. -/
def Heeds (trace : List LimiterEvent) (shared : Delegations) : LimiterCall → Prop
  | .revokeToken tokenId => ∀ ancestor ∈ shared.signed, ancestor.tokenId = tokenId →
    ∀ token ∈ shared.signed, tokenKin.Derives shared.signed ancestor token → token ≠ ancestor →
      shared.state.isRevoked token = true
  | .revokeRootTask taskId => ∀ token ∈ shared.signed, ∀ lease,
    OnLease trace shared.signed lease token → lease.taskId = taskId →
      token.rootTaskId = taskId ∨ shared.state.isRevoked token = true
  | .insertCounter (.parent parent) token =>
    Withdrawn trace shared parent → shared.state.isRevoked token = true
  | .insertCounter (.lease lease) token =>
    lease.taskId ∈ shared.state.revokedTasks → shared.state.isRevoked token = true
  | .bumpTenantEpoch tenant => shared.state.currentEpoch tenant + 1 < 2 ^ 64
  | _ => True

structure Refusals (shared : Delegations) (trace : List LimiterEvent) : Prop where
  withdrawn : ∀ token ∈ shared.signed, Withdrawn trace shared token →
    shared.state.isRevoked token = true
  read : ∀ i tenantId epoch, ⟨.currentEpoch tenantId, epoch⟩ ∈ history i trace →
    epoch ≤ shared.state.currentEpoch tenantId
  epochs : ∀ token ∈ shared.signed,
    token.revocationEpoch ≤ shared.state.currentEpoch token.tenantId
  bumped : ∀ bump ∈ trace, ∀ token ∈ bump.before.signed,
    bump.call = .bumpTenantEpoch token.tenantId → shared.state.isRevoked token = true
  tokens : ∀ event ∈ trace, ∀ tokenId, event.call = .revokeToken tokenId →
    tokenId ∈ shared.state.revokedTokens
  tasks : ∀ event ∈ trace, ∀ taskId, event.call = .revokeRootTask taskId →
    taskId ∈ shared.state.revokedTasks

section Checks

variable {state state' : DelegationState} {token : DelegationToken}

theorem isRevoked_iff : state.isRevoked token = true ↔
    token.tokenId ∈ state.revokedTokens ∨ token.rootTaskId ∈ state.revokedTasks ∨
      token.revocationEpoch < state.currentEpoch token.tenantId := by
  simp [DelegationState.isRevoked, or_assoc]

structure Stricter (state state' : DelegationState) : Prop where
  tokens : state.revokedTokens ⊆ state'.revokedTokens
  tasks : state.revokedTasks ⊆ state'.revokedTasks
  epochs : ∀ tenant, state.currentEpoch tenant ≤ state'.currentEpoch tenant

theorem Stricter.isRevoked (h : Stricter state state') (hrevoked : state.isRevoked token = true) :
    state'.isRevoked token = true := by
  rw [isRevoked_iff] at hrevoked ⊢
  obtain htoken | htask | hepoch := hrevoked
  · exact .inl (h.tokens htoken)
  · exact .inr (.inl (h.tasks htask))
  · exact .inr (.inr (hepoch.trans_le (h.epochs token.tenantId)))

theorem Stricter.of_eq (htokens : state'.revokedTokens = state.revokedTokens)
    (htasks : state'.revokedTasks = state.revokedTasks)
    (hepochs : state'.epochByTenant = state.epochByTenant) : Stricter state state' where
  tokens := htokens.ge
  tasks := htasks.ge
  epochs tenant := by
    rw [DelegationState.currentEpoch, DelegationState.currentEpoch, hepochs]

theorem currentEpoch_bump (state : DelegationState) (tenant other : TenantId) :
    (state.bumpTenantEpoch tenant).currentEpoch other =
      if tenant = other then state.nextEpoch tenant else state.currentEpoch other := by
  simp only [DelegationState.currentEpoch, DelegationState.bumpTenantEpoch,
    BTreeMap.getElem?_insert_ite]
  by_cases h : tenant = other
  · simp [h]
  · simp [h]

theorem stricter_bump {tenant : TenantId} (h : state.currentEpoch tenant + 1 < 2 ^ 64) :
    Stricter state (state.bumpTenantEpoch tenant) where
  tokens := Finset.Subset.refl _
  tasks := Finset.Subset.refl _
  epochs other := by
    rw [currentEpoch_bump]
    by_cases hother : tenant = other
    · subst hother
      rw [if_pos rfl, DelegationState.nextEpoch, Nat.mod_eq_of_lt h]
      omega
    · rw [if_neg hother]

end Checks

section Steps

variable {shared shared' : Delegations} {trace : List LimiterEvent} {event : LimiterEvent}
  {token child parent : DelegationToken}

theorem OnLease.of_snoc {signed : Finset DelegationToken} {lease : Orchestrator.AuthorizationLease}
    (h : OnLease (trace ++ [event]) signed lease token) (hcall : event.call.signs = false) :
    OnLease trace signed lease token := by
  obtain ⟨i, root, hroot, hsigned, hderives⟩ := h
  refine ⟨i, root, hroot, ?_, hderives⟩
  obtain hold | ⟨-, hentry⟩ := mem_history_snoc.mp hsigned
  · exact hold
  · have hsame : LimiterCall.insertCounter (.lease lease) root = event.call :=
      congrArg Sigma.fst hentry
    rw [← hsame] at hcall
    cases hcall

theorem Refusals.next (h : Refusals shared trace) (hstricter : Stricter shared.state shared'.state)
    (hsigned : shared'.signed = shared.signed) (hcall : event.call.signs = false)
    (hbefore : event.before = shared)
    (hread : ∀ tenantId epoch, event.entry = ⟨.currentEpoch tenantId, epoch⟩ →
      epoch ≤ shared'.state.currentEpoch tenantId)
    (hbump : ∀ token ∈ shared.signed, event.call = .bumpTenantEpoch token.tenantId →
      shared'.state.isRevoked token = true)
    (htokens : ∀ tokenId, event.call = .revokeToken tokenId →
      tokenId ∈ shared'.state.revokedTokens)
    (htasks : ∀ taskId, event.call = .revokeRootTask taskId → taskId ∈ shared'.state.revokedTasks)
    (hnew : ∀ token ∈ shared.signed, ¬ Withdrawn trace shared token →
      Withdrawn trace { shared with state := shared'.state } token →
        shared'.state.isRevoked token = true) :
    Refusals shared' (trace ++ [event]) where
  withdrawn token htoken hwithdrawn := by
    rw [hsigned] at htoken
    by_cases hold : Withdrawn trace shared token
    · exact hstricter.isRevoked (h.withdrawn token htoken hold)
    · refine hnew token htoken hold ?_
      unfold Withdrawn at hwithdrawn ⊢
      rw [hsigned] at hwithdrawn
      obtain hancestor | ⟨lease, hlease, htask⟩ := hwithdrawn
      · exact .inl hancestor
      · exact .inr ⟨lease, hlease.of_snoc hcall, htask⟩
  read i tenantId epoch hentry := by
    obtain hold | ⟨-, hlast⟩ := mem_history_snoc.mp hentry
    · exact (h.read i tenantId epoch hold).trans (hstricter.epochs tenantId)
    · exact hread tenantId epoch hlast.symm
  epochs token htoken := by
    rw [hsigned] at htoken
    exact (h.epochs token htoken).trans (hstricter.epochs _)
  bumped bump hmem token htoken hcall' := by
    obtain hold | hlast := List.mem_append.mp hmem
    · exact hstricter.isRevoked (h.bumped bump hold token htoken hcall')
    · obtain rfl := List.mem_singleton.mp hlast
      exact hbump token (hbefore ▸ htoken) hcall'
  tokens earlier hmem tokenId hcall' := by
    obtain hold | hlast := List.mem_append.mp hmem
    · exact hstricter.tokens (h.tokens earlier hold tokenId hcall')
    · obtain rfl := List.mem_singleton.mp hlast
      exact htokens tokenId hcall'
  tasks earlier hmem taskId hcall' := by
    obtain hold | hlast := List.mem_append.mp hmem
    · exact hstricter.tasks (h.tasks earlier hold taskId hcall')
    · obtain rfl := List.mem_singleton.mp hlast
      exact htasks taskId hcall'

theorem Refusals.quiet (h : Refusals shared trace) {i : Nat} {call : LimiterCall}
    {answer : call.Answer} (htokens : shared'.state.revokedTokens = shared.state.revokedTokens)
    (htasks : shared'.state.revokedTasks = shared.state.revokedTasks)
    (hepochs : shared'.state.epochByTenant = shared.state.epochByTenant)
    (hsigned : shared'.signed = shared.signed) (hcall : call.signs = false)
    (hrevokes : ∀ tokenId taskId tenant, call ≠ .revokeToken tokenId ∧
      call ≠ .revokeRootTask taskId ∧ call ≠ .bumpTenantEpoch tenant)
    (hread : ∀ tenantId epoch, (⟨call, answer⟩ : LimiterEntry) = ⟨.currentEpoch tenantId, epoch⟩ →
      epoch ≤ shared.state.currentEpoch tenantId) :
    Refusals shared' (trace ++ [⟨i, call, answer, shared, shared'⟩]) := by
  have hstricter : Stricter shared.state shared'.state := .of_eq htokens htasks hepochs
  refine h.next hstricter hsigned hcall rfl ?_ ?_ ?_ ?_ ?_
  · intro tenantId epoch hentry
    exact (hread tenantId epoch hentry).trans (hstricter.epochs tenantId)
  · exact fun token _ hbump => absurd hbump (hrevokes "" "" _).2.2
  · exact fun tokenId hrevoke => absurd hrevoke (hrevokes tokenId "" "").1
  · exact fun taskId hrevoke => absurd hrevoke (hrevokes "" taskId "").2.1
  · intro token _ hold hwithdrawn
    refine absurd ?_ hold
    unfold Withdrawn at hwithdrawn ⊢
    simpa only [htokens, htasks] using hwithdrawn

theorem derives_sign (hlineage : Lineage shared trace) {warrant : Warrant}
    (hnew : ∀ a ∈ shared.signed, a.tokenId ≠ token.tokenId)
    (hborne : Bears shared.issued warrant token) {ancestor descendant : DelegationToken}
    (hancestor : ancestor ∈ insert token shared.signed)
    (hderives : tokenKin.Derives (insert token shared.signed) ancestor descendant) :
    ancestor ∈ shared.signed ∧ descendant ∈ shared.signed ∧
      tokenKin.Derives shared.signed ancestor descendant ∨
    descendant = token ∧ (ancestor = token ∨ ∃ parent, warrant = .parent parent ∧
      ancestor ∈ shared.signed ∧ tokenKin.Derives shared.signed ancestor parent) := by
  have hunsigned : token ∉ shared.signed := fun hmem => hnew token hmem rfl
  have hself : tokenKin.parent token ≠ some (tokenKin.key token) := by
    intro hparent
    cases warrant with
    | lease lease => exact nomatch hborne.root.symm.trans hparent
    | parent parent =>
      have hkey := Option.some.inj (hborne.2.named.symm.trans hparent)
      exact hnew parent (hlineage.issued hborne.1) hkey
  obtain rfl | hold | ⟨rfl, node, hnode, hparent, hold⟩ :=
    Kinship.derives_insert hlineage.forest hnew hself hderives
  · obtain rfl | hmem := Finset.mem_insert.mp hancestor
    · exact .inr ⟨rfl, .inl rfl⟩
    · exact .inl ⟨hmem, hmem, .refl⟩
  · obtain rfl | ⟨hmem, hmem'⟩ := hold.eq_or_mem
    · obtain rfl | hmem := Finset.mem_insert.mp hancestor
      · exact .inr ⟨rfl, .inl rfl⟩
      · exact .inl ⟨hmem, hmem, .refl⟩
    · exact .inl ⟨hmem, hmem', hold⟩
  · refine .inr ⟨rfl, .inr ?_⟩
    have hmem : ancestor ∈ shared.signed := by
      obtain rfl | ⟨hmem, -⟩ := hold.eq_or_mem
      · exact hnode
      · exact hmem
    cases warrant with
    | lease lease => exact nomatch hborne.root.symm.trans hparent
    | parent parent =>
      have hkey := Option.some.inj (hborne.2.named.symm.trans hparent)
      obtain rfl := hlineage.distinct parent (hlineage.issued hborne.1) node hnode hkey
      exact ⟨parent, rfl, hmem, hold⟩

theorem withdrawn_of_sign (hlineage : Lineage shared trace) {i : Nat} {warrant : Warrant}
    (hnew : ∀ a ∈ shared.signed, a.tokenId ≠ token.tokenId)
    (hborne : Bears shared.issued warrant token) {descendant : DelegationToken}
    (hwithdrawn : Withdrawn
      (trace ++ [⟨i, .insertCounter warrant token, (), shared, shared.sign warrant token⟩])
      (shared.sign warrant token) descendant) :
    descendant ∈ shared.signed ∧ Withdrawn trace shared descendant ∨
    descendant = token ∧ (token.tokenId ∈ shared.state.revokedTokens ∨
      (∃ lease, warrant = .lease lease ∧ lease.taskId ∈ shared.state.revokedTasks) ∨
      ∃ parent, warrant = .parent parent ∧ Withdrawn trace shared parent) := by
  obtain ⟨ancestor, hancestor, hderives, hrevoked⟩ |
    ⟨lease, ⟨j, root, hroot, hsigned, hderives⟩, hrevoked⟩ := hwithdrawn
  · obtain ⟨hmem, hmem', hold⟩ | ⟨rfl, rfl | ⟨parent, rfl, hmem, hold⟩⟩ :=
      derives_sign hlineage hnew hborne hancestor hderives
    · exact .inl ⟨hmem', .inl ⟨ancestor, hmem, hold, hrevoked⟩⟩
    · exact .inr ⟨rfl, .inl hrevoked⟩
    · exact .inr ⟨rfl, .inr (.inr ⟨parent, rfl, .inl ⟨ancestor, hmem, hold, hrevoked⟩⟩)⟩
  · have hold : root ∈ shared.signed → SignedBy trace j (.lease lease) root := by
      intro hmem
      obtain hsame | ⟨-, hentry⟩ := mem_history_snoc.mp hsigned
      · exact hsame
      · cases hentry
        exact absurd rfl (hnew token hmem)
    obtain ⟨hmem, hmem', hfrom⟩ | ⟨rfl, rfl | ⟨parent, rfl, hmem, hfrom⟩⟩ :=
      derives_sign hlineage hnew hborne hroot hderives
    · exact .inl ⟨hmem', .inr ⟨lease, ⟨j, root, hmem, hold hmem, hfrom⟩, hrevoked⟩⟩
    · refine .inr ⟨rfl, .inr (.inl ⟨lease, ?_, hrevoked⟩)⟩
      obtain hsame | ⟨-, hentry⟩ := mem_history_snoc.mp hsigned
      · exact absurd rfl (hnew _ (hlineage.drew j _ _ hsame).1)
      · cases hentry
        rfl
    · exact .inr ⟨rfl, .inr (.inr ⟨parent, rfl, .inr ⟨lease, ⟨j, root, hmem, hold hmem, hfrom⟩,
        hrevoked⟩⟩)⟩

theorem Refusals.sign (h : Refusals shared trace) (hlineage : Lineage shared trace) {i : Nat}
    {warrant : Warrant} (hnew : ∀ a ∈ shared.signed, a.tokenId ≠ token.tokenId)
    (hborne : Bears shared.issued warrant token)
    (hepoch : ⟨.currentEpoch token.tenantId, token.revocationEpoch⟩ ∈ history i trace)
    (hheeds : Heeds trace shared (.insertCounter warrant token)) :
    Refusals (shared.sign warrant token)
      (trace ++ [⟨i, .insertCounter warrant token, (), shared, shared.sign warrant token⟩]) where
  withdrawn descendant hdescendant hwithdrawn := by
    obtain ⟨hmem, hold⟩ | ⟨rfl, hself | ⟨lease, rfl, htask⟩ | ⟨parent, rfl, hparent⟩⟩ :=
      withdrawn_of_sign hlineage hnew hborne hwithdrawn
    · exact h.withdrawn descendant hmem hold
    · exact isRevoked_iff.mpr (.inl hself)
    · exact hheeds htask
    · exact hheeds hparent
  read j tenantId epoch hentry := by
    obtain hold | ⟨-, hlast⟩ := mem_history_snoc.mp hentry
    · exact h.read j tenantId epoch hold
    · cases hlast
  epochs a ha := by
    obtain rfl | hold := Finset.mem_insert.mp ha
    · exact h.read i _ _ hepoch
    · exact h.epochs a hold
  bumped bump hmem a ha hcall := by
    obtain hold | hlast := List.mem_append.mp hmem
    · exact h.bumped bump hold a ha hcall
    · obtain rfl := List.mem_singleton.mp hlast
      cases hcall
  tokens earlier hmem tokenId hcall := by
    obtain hold | hlast := List.mem_append.mp hmem
    · exact h.tokens earlier hold tokenId hcall
    · obtain rfl := List.mem_singleton.mp hlast
      cases hcall
  tasks earlier hmem taskId hcall := by
    obtain hold | hlast := List.mem_append.mp hmem
    · exact h.tasks earlier hold taskId hcall
    · obtain rfl := List.mem_singleton.mp hlast
      cases hcall

theorem Refusals.revokeToken (h : Refusals shared trace) {i : Nat} {tokenId : String}
    (hheeds : Heeds trace shared (.revokeToken tokenId)) :
    Refusals { shared with state := shared.state.revokeToken tokenId } (trace ++
      [⟨i, .revokeToken tokenId, (), shared,
        { shared with state := shared.state.revokeToken tokenId }⟩]) := by
  have hstricter : Stricter shared.state (shared.state.revokeToken tokenId) :=
    ⟨Finset.subset_insert _ _, Finset.Subset.refl _, fun _ => le_rfl⟩
  refine h.next hstricter rfl rfl rfl nofun nofun ?_ nofun ?_
  · rintro _ ⟨⟩
    exact Finset.mem_insert_self _ _
  · intro token htoken hold hwithdrawn
    obtain ⟨ancestor, hancestor, hderives, hrevoked⟩ | ⟨lease, hlease, htask⟩ := hwithdrawn
    · obtain hkey | hbefore := Finset.mem_insert.mp hrevoked
      · by_cases hself : token = ancestor
        · subst hself
          exact isRevoked_iff.mpr (.inl hrevoked)
        · exact hstricter.isRevoked (hheeds ancestor hancestor hkey token htoken hderives hself)
      · exact absurd (.inl ⟨ancestor, hancestor, hderives, hbefore⟩) hold
    · exact absurd (.inr ⟨lease, hlease, htask⟩) hold

theorem Refusals.revokeRootTask (h : Refusals shared trace) {i : Nat} {taskId : TaskId}
    (hheeds : Heeds trace shared (.revokeRootTask taskId)) :
    Refusals { shared with state := shared.state.revokeRootTask taskId } (trace ++
      [⟨i, .revokeRootTask taskId, (), shared,
        { shared with state := shared.state.revokeRootTask taskId }⟩]) := by
  have hstricter : Stricter shared.state (shared.state.revokeRootTask taskId) :=
    ⟨Finset.Subset.refl _, Finset.subset_insert _ _, fun _ => le_rfl⟩
  refine h.next hstricter rfl rfl rfl nofun nofun nofun ?_ ?_
  · rintro _ ⟨⟩
    exact Finset.mem_insert_self _ _
  · intro token htoken hold hwithdrawn
    obtain ⟨ancestor, hancestor, hderives, hrevoked⟩ | ⟨lease, hlease, htask⟩ := hwithdrawn
    · exact absurd (.inl ⟨ancestor, hancestor, hderives, hrevoked⟩) hold
    · obtain hkey | hbefore := Finset.mem_insert.mp htask
      · obtain hroot | hrevoked := hheeds token htoken lease hlease hkey
        · exact isRevoked_iff.mpr (.inr (.inl (hroot ▸ Finset.mem_insert_self _ _)))
        · exact hstricter.isRevoked hrevoked
      · exact absurd (.inr ⟨lease, hlease, hbefore⟩) hold

theorem Refusals.bumpTenantEpoch (h : Refusals shared trace) {i : Nat} {tenant : TenantId}
    (hheeds : Heeds trace shared (.bumpTenantEpoch tenant)) :
    Refusals { shared with state := shared.state.bumpTenantEpoch tenant } (trace ++
      [⟨i, .bumpTenantEpoch tenant, shared.state.nextEpoch tenant, shared,
        { shared with state := shared.state.bumpTenantEpoch tenant }⟩]) := by
  refine h.next (stricter_bump hheeds) rfl rfl rfl nofun ?_ nofun nofun ?_
  · rintro token htoken ⟨⟩
    refine isRevoked_iff.mpr (.inr (.inr ?_))
    have hepoch := h.epochs token htoken
    have hless : shared.state.currentEpoch token.tenantId + 1 < 2 ^ 64 := hheeds
    rw [currentEpoch_bump, if_pos rfl, DelegationState.nextEpoch, Nat.mod_eq_of_lt hless]
    omega
  · exact fun token _ hold hwithdrawn => absurd hwithdrawn hold

end Steps

section Runs

variable {Bytes : Type} {codec : TokenCodec Bytes} {limiter : DelegationLimiter}
  {shared' : Delegations} {cfg : LimiterConfig}

/-- **Step lemma**: a call that heeds what was signed keeps everything refused. -/
theorem Refusals.step (h : Refusals cfg.shared cfg.trace)
    (hreach : (delegations codec limiter).Reachable .initial cfg) {i : Nat} {call : LimiterCall}
    {answer : call.Answer} (hmay : MayCall codec (history i cfg.trace) call)
    (hserve : cfg.shared.serve codec call answer shared')
    (hheeds : Heeds cfg.trace cfg.shared call) :
    Refusals shared' (cfg.trace ++ [⟨i, call, answer, cfg.shared, shared'⟩]) := by
  have hlineage := (lineage_of_run hreach).1
  cases call with
  | insertCounter warrant token =>
    obtain rfl := hserve
    obtain ⟨hwarranted, hdrew, hepoch, huntouched⟩ := hmay
    exact h.sign hlineage (hlineage.fresh hreach hdrew huntouched)
      (bears_of_warranted hreach hwarranted) hepoch hheeds
  | revokeToken tokenId =>
    obtain rfl := hserve
    exact h.revokeToken hheeds
  | revokeRootTask taskId =>
    obtain rfl := hserve
    exact h.revokeRootTask hheeds
  | bumpTenantEpoch tenant =>
    obtain ⟨rfl, rfl⟩ := hserve
    exact h.bumpTenantEpoch hheeds
  | currentEpoch tenantId =>
    obtain ⟨rfl, rfl⟩ := hserve
    refine h.quiet rfl rfl rfl rfl rfl (by simp) ?_
    rintro _ _ ⟨⟩
    exact le_rfl
  | reserve parentTokenId token =>
    obtain ⟨-, rfl⟩ := hserve
    have hkept : (cfg.shared.state.reserve parentTokenId token).2.revokedTokens =
          cfg.shared.state.revokedTokens ∧
        (cfg.shared.state.reserve parentTokenId token).2.revokedTasks =
          cfg.shared.state.revokedTasks ∧
        (cfg.shared.state.reserve parentTokenId token).2.epochByTenant =
          cfg.shared.state.epochByTenant := by
      unfold DelegationState.reserve
      split
      · exact ⟨rfl, rfl, rfl⟩
      · split <;> exact ⟨rfl, rfl, rfl⟩
    exact h.quiet hkept.1 hkept.2.1 hkept.2.2 rfl rfl (by simp) nofun
  | consume token =>
    obtain ⟨-, rfl⟩ := hserve
    have hkept : (cfg.shared.state.consume token).2.revokedTokens =
          cfg.shared.state.revokedTokens ∧
        (cfg.shared.state.consume token).2.revokedTasks = cfg.shared.state.revokedTasks ∧
        (cfg.shared.state.consume token).2.epochByTenant = cfg.shared.state.epochByTenant := by
      unfold DelegationState.consume
      split
      · exact ⟨rfl, rfl, rfl⟩
      · split <;> exact ⟨rfl, rfl, rfl⟩
    exact h.quiet hkept.1 hkept.2.1 hkept.2.2 rfl rfl (by simp) nofun
  | utcNow =>
    obtain rfl := hserve
    exact h.quiet rfl rfl rfl rfl rfl (by simp) nofun
  | present | newUuid | isRevoked =>
    obtain ⟨-, rfl⟩ := hserve
    exact h.quiet rfl rfl rfl rfl rfl (by simp) nofun

end Runs

-- Sample runs

def LimiterCall.revokes : LimiterCall → Bool
  | .revokeToken _ | .revokeRootTask _ | .bumpTenantEpoch _ => true
  | _ => false

end AgentSphere.A2a
