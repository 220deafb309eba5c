import AgentSphere.Contracts.Basic
import Mathlib.Data.Finset.Basic

/-!
# Revocation

What `RevocationService` remembers. Credentials, tokens, tasks and agents are revoked for good, and
an epoch is counted for every tenant: whoever carries an older one is refused. Nothing is ever
taken back, so a later state refuses whatever an earlier one has refused.

An epoch is a number of 64 bits, and an increment beyond them panics.
-/

namespace AgentSphere.Identity

inductive IdentityError where
  | tokenInvalid
  | algorithmDenied
  | issuerOrAudience
  | expiredOrNotYetValid
  | unknownKey
  | signatureInvalid
  | trustBundleUnavailable
  | revoked
  | tenantMismatch
  | invalidTtl
  | credentialNotFound
  | credentialScopeInvalid
  | usageExceeded
  | panicked
  deriving DecidableEq, Repr

def identitySchemaVersion : String := "agenttrust.identity.v1"

structure RevocationState where
  minimumEpochByTenant : BTreeMap TenantId Nat
  revokedTokens : Finset String
  revokedCredentials : Finset String
  revokedTasks : Finset TaskId
  revokedAgents : Finset AgentInstanceId
  frozenTasks : Finset TaskId

inductive Revocation where
  | credential (handle : String)
  | token (tokenId : String)
  | task (task : TaskId)
  | agent (agent : AgentInstanceId)
  | freeze (task : TaskId)

namespace RevocationState

def empty : RevocationState := ⟨∅, ∅, ∅, ∅, ∅, ∅⟩

/-- `revoke_credential`, `revoke_token`, `revoke_task`, `revoke_agent` and `freeze_task`. -/
def revoke (state : RevocationState) : Revocation → RevocationState
  | .credential handle =>
    { state with revokedCredentials := insert handle state.revokedCredentials }
  | .token tokenId => { state with revokedTokens := insert tokenId state.revokedTokens }
  | .task task => { state with revokedTasks := insert task state.revokedTasks }
  | .agent agent => { state with revokedAgents := insert agent state.revokedAgents }
  | .freeze task => { state with frozenTasks := insert task state.frozenTasks }

def currentEpoch (state : RevocationState) (tenant : TenantId) : Nat :=
  state.minimumEpochByTenant[tenant]?.getD 0

/-- `bump_tenant_epoch`, if it does not panic. -/
def bumpTenantEpoch (state : RevocationState) (tenant : TenantId) : RevocationState :=
  { state with
    minimumEpochByTenant :=
      state.minimumEpochByTenant.insert tenant (state.currentEpoch tenant + 1) }

def Refuses (state : RevocationState) (tokenId credentialId : Option String) (tenant : TenantId)
    (task : TaskId) (agent : AgentInstanceId) (epoch : Nat) : Prop :=
  epoch < state.currentEpoch tenant ∨ (∃ id ∈ tokenId, id ∈ state.revokedTokens) ∨
    (∃ id ∈ credentialId, id ∈ state.revokedCredentials) ∨ task ∈ state.revokedTasks ∨
    agent ∈ state.revokedAgents

instance (state : RevocationState) (tokenId credentialId : Option String) (tenant : TenantId)
    (task : TaskId) (agent : AgentInstanceId) (epoch : Nat) :
    Decidable (state.Refuses tokenId credentialId tenant task agent epoch) :=
  inferInstanceAs (Decidable (_ ∨ _ ∨ _ ∨ _ ∨ _))

def check (state : RevocationState) (tokenId credentialId : Option String) (tenant : TenantId)
    (task : TaskId) (agent : AgentInstanceId) (epoch : Nat) : Except IdentityError Unit :=
  require (¬state.Refuses tokenId credentialId tenant task agent epoch) .revoked

structure Stricter (state state' : RevocationState) : Prop where
  epochs : ∀ tenant, state.currentEpoch tenant ≤ state'.currentEpoch tenant
  tokens : state.revokedTokens ⊆ state'.revokedTokens
  credentials : state.revokedCredentials ⊆ state'.revokedCredentials
  tasks : state.revokedTasks ⊆ state'.revokedTasks
  agents : state.revokedAgents ⊆ state'.revokedAgents

variable {state state' state'' : RevocationState} {tokenId credentialId : Option String}
  {tenant : TenantId} {task : TaskId} {agent : AgentInstanceId} {epoch : Nat}

theorem currentEpoch_bump (tenant tenant' : TenantId) :
    (state.bumpTenantEpoch tenant).currentEpoch tenant' =
      if tenant = tenant' then state.currentEpoch tenant + 1 else state.currentEpoch tenant' := by
  simp only [currentEpoch, bumpTenantEpoch, BTreeMap.getElem?_insert_ite]
  split
  · rfl
  · rfl

theorem check_eq_ok : state.check tokenId credentialId tenant task agent epoch = .ok () ↔
    ¬state.Refuses tokenId credentialId tenant task agent epoch :=
  require_eq_ok

namespace Stricter

theorem refl (state : RevocationState) : Stricter state state :=
  ⟨fun _ => le_rfl, fun _ h => h, fun _ h => h, fun _ h => h, fun _ h => h⟩

theorem trans (h : Stricter state state') (h' : Stricter state' state'') :
    Stricter state state'' where
  epochs tenant := (h.epochs tenant).trans (h'.epochs tenant)
  tokens := h.tokens.trans h'.tokens
  credentials := h.credentials.trans h'.credentials
  tasks := h.tasks.trans h'.tasks
  agents := h.agents.trans h'.agents

theorem revoke (state : RevocationState) (r : Revocation) : Stricter state (state.revoke r) := by
  have hsame := refl state
  cases r with
  | credential handle => exact { hsame with credentials := Finset.subset_insert handle _ }
  | token tokenId => exact { hsame with tokens := Finset.subset_insert tokenId _ }
  | task task => exact { hsame with tasks := Finset.subset_insert task _ }
  | agent agent => exact { hsame with agents := Finset.subset_insert agent _ }
  | freeze task => exact { hsame with }

theorem bump (state : RevocationState) (tenant : TenantId) :
    Stricter state (state.bumpTenantEpoch tenant) := by
  refine { refl state with epochs := fun tenant' => ?_ }
  rw [currentEpoch_bump]
  split
  · next htenant =>
    subst htenant
    exact Nat.le_succ _
  · exact le_rfl

theorem refuses (h : Stricter state state')
    (hrefuses : state.Refuses tokenId credentialId tenant task agent epoch) :
    state'.Refuses tokenId credentialId tenant task agent epoch := by
  obtain hepoch | ⟨id, hid, htoken⟩ | ⟨id, hid, hcredential⟩ | htask | hagent := hrefuses
  · exact .inl (hepoch.trans_le (h.epochs tenant))
  · exact .inr (.inl ⟨id, hid, h.tokens htoken⟩)
  · exact .inr (.inr (.inl ⟨id, hid, h.credentials hcredential⟩))
  · exact .inr (.inr (.inr (.inl (h.tasks htask))))
  · exact .inr (.inr (.inr (.inr (h.agents hagent))))

end Stricter

end RevocationState

end AgentSphere.Identity
