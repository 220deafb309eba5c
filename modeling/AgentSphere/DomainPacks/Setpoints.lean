import AgentSphere.Industrial.Assets
import AgentSphere.Lib.Program
import Mathlib.Tactic.NormNum

/-!
# Setpoints

A setpoint is prepared against one state of its asset and committed against a later one. The second
gate does not see the asset any more: it goes by what the preparation remembers. Values are exact
rationals. Identifiers are drawn.
-/

namespace AgentSphere.DomainPacks

open Concurrency Industrial

def domainPacksSchemaVersion : String := "agenttrust.domain-risk-packs.v1"

namespace Setpoints

inductive IndustrialError where
  | writeDenied
  | stateUnsafe
  | setpointInvalid
  | commitStale
  | panicked
  deriving DecidableEq, Repr

inductive IndustrialStage where
  | simulator
  | twin
  | readOnly
  | shadow
  | limitedWrite
  deriving DecidableEq, Repr

structure IndustrialAssetModel where
  schemaVersion : String
  tenantId : TenantId
  resourceKey : String
  engineeringUnit : String
  minimum : ℚ
  maximum : ℚ
  maximumDelta : ℚ
  maximumFreshnessMs : Int
  agentControlProhibited : Bool

structure IndustrialState where
  resourceKey : String
  value : ℚ
  resourceVersion : String
  quality : QualityCode
  sampledAt : DateTime
  activeAlarmSeverity : Option RiskLevel
  interlockHealthy : Bool
  maintenanceWindowOpen : Bool

structure SetpointRequest where
  schemaVersion : String
  tenantId : TenantId
  resourceKey : String
  target : ℚ
  engineeringUnit : String
  stage : IndustrialStage
  actionHash : String
  approvalId : Option String
  stageCertificateDigest : Option String

structure SetpointPreparation where
  schemaVersion : String
  preparationId : String
  tenantId : TenantId
  resourceKey : String
  beforeValue : ℚ
  target : ℚ
  expectedResourceVersion : String
  actionHash : String
  approvalId : String
  stage : IndustrialStage
  preparedAt : DateTime
  expiresAt : DateTime

/-- `num_milliseconds` of the time since a sample, which truncates. -/
def ageMs (now sampledAt : DateTime) : Int := (now - sampledAt).tdiv 1000000

def prepare (asset : IndustrialAssetModel) (state : IndustrialState) (request : SetpointRequest)
    (now : DateTime) (preparationId : String) : Except IndustrialError SetpointPreparation := do
  require (asset.schemaVersion = domainPacksSchemaVersion ∧
    request.schemaVersion = domainPacksSchemaVersion ∧
    asset.tenantId = request.tenantId ∧ asset.resourceKey = request.resourceKey ∧
    asset.resourceKey = state.resourceKey ∧ asset.agentControlProhibited = false ∧
    request.engineeringUnit = asset.engineeringUnit ∧ request.actionHash.utf8ByteSize = 64 ∧
    request.stage ∈ [.simulator, .twin, .shadow, .limitedWrite] ∧
    (request.stage = .limitedWrite →
      request.stageCertificateDigest.any (·.utf8ByteSize = 64) = true) ∧
    request.approvalId.any (!·.isEmpty) = true) .writeDenied
  require (state.quality = .good ∧ 0 ≤ ageMs now state.sampledAt ∧
    ageMs now state.sampledAt ≤ asset.maximumFreshnessMs ∧ state.interlockHealthy = true ∧
    state.maintenanceWindowOpen = true ∧
    state.activeAlarmSeverity.any (RiskLevel.high.rank ≤ ·.rank) = false) .stateUnsafe
  require (asset.minimum ≤ request.target ∧ request.target ≤ asset.maximum ∧
    |request.target - state.value| ≤ asset.maximumDelta) .setpointInvalid
  match now.add (120 * 1000000000) with
  | none => .error .panicked
  | some expiresAt => pure {
      schemaVersion := domainPacksSchemaVersion
      preparationId
      tenantId := request.tenantId
      resourceKey := request.resourceKey
      beforeValue := state.value
      target := request.target
      expectedResourceVersion := state.resourceVersion
      actionHash := request.actionHash
      approvalId := request.approvalId.getD ""
      stage := request.stage
      preparedAt := now
      expiresAt }

def authorizeCommit (preparation : SetpointPreparation) (current : IndustrialState)
    (approvalId : String) (now : DateTime) : Except IndustrialError Unit :=
  require (now < preparation.expiresAt ∧ current.resourceKey = preparation.resourceKey ∧
    current.resourceVersion = preparation.expectedResourceVersion ∧
    current.value = preparation.beforeValue ∧ current.quality = .good ∧
    approvalId = preparation.approvalId ∧ current.interlockHealthy = true ∧
    current.activeAlarmSeverity.isSome = false) .commitStale

-- The two gates

@[mk_iff] structure Writable (asset : IndustrialAssetModel) (state : IndustrialState)
    (request : SetpointRequest) : Prop where
  assetSchema : asset.schemaVersion = domainPacksSchemaVersion
  requestSchema : request.schemaVersion = domainPacksSchemaVersion
  tenant : asset.tenantId = request.tenantId
  resource : asset.resourceKey = request.resourceKey
  located : asset.resourceKey = state.resourceKey
  permitted : asset.agentControlProhibited = false
  unit : request.engineeringUnit = asset.engineeringUnit
  action : request.actionHash.utf8ByteSize = 64
  stage : request.stage ∈ [.simulator, .twin, .shadow, .limitedWrite]
  certified : request.stage = .limitedWrite →
    request.stageCertificateDigest.any (·.utf8ByteSize = 64) = true
  approved : request.approvalId.any (!·.isEmpty) = true

@[mk_iff] structure Safe (asset : IndustrialAssetModel) (state : IndustrialState) (now : DateTime) :
    Prop where
  quality : state.quality = .good
  sampled : 0 ≤ ageMs now state.sampledAt
  fresh : ageMs now state.sampledAt ≤ asset.maximumFreshnessMs
  interlock : state.interlockHealthy = true
  window : state.maintenanceWindowOpen = true
  alarm : state.activeAlarmSeverity.any (RiskLevel.high.rank ≤ ·.rank) = false

@[mk_iff] structure Reachable (asset : IndustrialAssetModel) (value target : ℚ) : Prop where
  minimum : asset.minimum ≤ target
  maximum : target ≤ asset.maximum
  delta : |target - value| ≤ asset.maximumDelta

variable {asset : IndustrialAssetModel} {state s₀ s₁ : IndustrialState}
  {request : SetpointRequest} {now t₀ t₁ : DateTime} {preparationId approvalId : String}
  {preparation : SetpointPreparation}

theorem prepare_eq_ok : prepare asset state request now preparationId = .ok preparation ↔
    Writable asset state request ∧ Safe asset state now ∧
      Reachable asset state.value request.target ∧
      ∃ expiresAt, now.add (120 * 1000000000) = some expiresAt ∧
        preparation = {
          schemaVersion := domainPacksSchemaVersion
          preparationId
          tenantId := request.tenantId
          resourceKey := request.resourceKey
          beforeValue := state.value
          target := request.target
          expectedResourceVersion := state.resourceVersion
          actionHash := request.actionHash
          approvalId := request.approvalId.getD ""
          stage := request.stage
          preparedAt := now
          expiresAt } := by
  simp only [prepare, except_bind_eq_ok, require_eq_ok, exists_const, writable_iff, safe_iff,
    reachable_iff]
  refine and_congr_right fun _ => and_congr_right fun _ => and_congr_right fun _ => ?_
  cases now.add (120 * 1000000000) with
  | none => simp
  | some expiresAt => simp [pure, Except.pure, eq_comm]

theorem authorizeCommit_eq_ok : authorizeCommit preparation state approvalId now = .ok () ↔
    now < preparation.expiresAt ∧ state.resourceKey = preparation.resourceKey ∧
      state.resourceVersion = preparation.expectedResourceVersion ∧
      state.value = preparation.beforeValue ∧ state.quality = .good ∧
      approvalId = preparation.approvalId ∧ state.interlockHealthy = true ∧
      state.activeAlarmSeverity.isSome = false := require_eq_ok

/-- **A commit is as strict as a preparation** at its time would be exactly if the maintenance
window is still open and the sample still fresh. -/
theorem commit_as_strict_iff
    (hprepare : prepare asset s₀ request t₀ preparationId = .ok preparation)
    (hcommit : authorizeCommit preparation s₁ approvalId t₁ = .ok ()) (drawn : String) :
    ((∃ again, prepare asset s₁ request t₁ drawn = .ok again) ∧
      s₁.resourceVersion = s₀.resourceVersion ∧ s₁.value = s₀.value ∧
      t₁ < preparation.expiresAt) ↔
    s₁.maintenanceWindowOpen = true ∧ 0 ≤ ageMs t₁ s₁.sampledAt ∧
      ageMs t₁ s₁.sampledAt ≤ asset.maximumFreshnessMs ∧
      (t₁.add (120 * 1000000000)).isSome = true := by
  obtain ⟨hwritable, hsafe, hreachable, expiresAt, -, rfl⟩ := prepare_eq_ok.mp hprepare
  obtain ⟨hbefore, hresource, hversion, hvalue, hquality, -, hlock, halarm⟩ :=
    authorizeCommit_eq_ok.mp hcommit
  constructor
  · rintro ⟨⟨again, hagain⟩, -⟩
    obtain ⟨-, hsafe', -, expiresAt', hexpires, -⟩ := prepare_eq_ok.mp hagain
    exact ⟨hsafe'.window, hsafe'.sampled, hsafe'.fresh, Option.isSome_of_mem hexpires⟩
  · rintro ⟨hwindow, hsampled, hfresh, hsome⟩
    obtain ⟨expiresAt', hexpires⟩ := Option.isSome_iff_exists.mp hsome
    have hquiet : s₁.activeAlarmSeverity = none :=
      Option.isNone_iff_eq_none.mp (Option.isSome_eq_false_iff.mp halarm)
    have hwritable' : Writable asset s₁ request :=
      { hwritable with located := hwritable.resource.trans hresource.symm }
    have hsafe' : Safe asset s₁ t₁ := {
      quality := hquality
      sampled := hsampled
      fresh := hfresh
      interlock := hlock
      window := hwindow
      alarm := by rw [hquiet]; rfl }
    have hreachable' : Reachable asset s₁.value request.target := hvalue ▸ hreachable
    exact ⟨⟨_, prepare_eq_ok.mpr ⟨hwritable', hsafe', hreachable', expiresAt', hexpires, rfl⟩⟩,
      hversion, hvalue, hbefore⟩

-- Samples

def sampleAsset : IndustrialAssetModel where
  schemaVersion := domainPacksSchemaVersion
  tenantId := "tenant-1"
  resourceKey := "line-1/pump-1/pressure"
  engineeringUnit := "bar"
  minimum := 0
  maximum := 10
  maximumDelta := 1
  maximumFreshnessMs := 1000
  agentControlProhibited := false

def sampleState (maintenanceWindowOpen : Bool) : IndustrialState where
  resourceKey := "line-1/pump-1/pressure"
  value := 5
  resourceVersion := "version-1"
  quality := .good
  sampledAt := 0
  activeAlarmSeverity := none
  interlockHealthy := true
  maintenanceWindowOpen

def sampleRequest : SetpointRequest where
  schemaVersion := domainPacksSchemaVersion
  tenantId := "tenant-1"
  resourceKey := "line-1/pump-1/pressure"
  target := 11 / 2
  engineeringUnit := "bar"
  stage := .simulator
  actionHash := sampleHash 'a'
  approvalId := some "approval:1"
  stageCertificateDigest := none

def samplePreparation : SetpointPreparation where
  schemaVersion := domainPacksSchemaVersion
  preparationId := "preparation-1"
  tenantId := "tenant-1"
  resourceKey := "line-1/pump-1/pressure"
  beforeValue := 5
  target := 11 / 2
  expectedResourceVersion := "version-1"
  actionHash := sampleHash 'a'
  approvalId := "approval:1"
  stage := .simulator
  preparedAt := 0
  expiresAt := 120000000000

theorem sample_prepared :
    prepare sampleAsset (sampleState true) sampleRequest 0 "preparation-1" =
      .ok samplePreparation := by
  refine prepare_eq_ok.mpr ⟨⟨rfl, rfl, rfl, rfl, rfl, rfl, rfl, utf8ByteSize_sampleHash rfl,
    by decide, by decide, by decide⟩, ⟨rfl, by decide, by decide, rfl, rfl, rfl⟩, ⟨?_, ?_, ?_⟩,
    _, rfl, rfl⟩
  all_goals norm_num [sampleAsset, sampleState, sampleRequest, abs_le]

theorem sample_committed :
    authorizeCommit samplePreparation (sampleState true) "approval:1" 1000000000 = .ok () := by
  decide

/-- A second after the preparation. -/
theorem commit_as_strict_sample :
    ((∃ again, prepare sampleAsset (sampleState true) sampleRequest 1000000000 "preparation-2" =
        .ok again) ∧
      (sampleState true).resourceVersion = (sampleState true).resourceVersion ∧
      (sampleState true).value = (sampleState true).value ∧
      (1000000000 : Int) < samplePreparation.expiresAt) ↔
    (sampleState true).maintenanceWindowOpen = true ∧
      0 ≤ ageMs 1000000000 (sampleState true).sampledAt ∧
      ageMs 1000000000 (sampleState true).sampledAt ≤ sampleAsset.maximumFreshnessMs ∧
      (DateTime.add 1000000000 (120 * 1000000000)).isSome = true :=
  commit_as_strict_iff sample_prepared sample_committed "preparation-2"

/-- A minute later the maintenance window is closed, and the sample is old: the commit is
authorized. -/
theorem commit_laxer :
    ¬ ∀ (asset : IndustrialAssetModel) (s₀ s₁ : IndustrialState) (request : SetpointRequest)
      (t₀ t₁ : DateTime) (preparationId drawn approvalId : String)
      (preparation : SetpointPreparation), t₀ ≤ t₁ →
      prepare asset s₀ request t₀ preparationId = .ok preparation →
      authorizeCommit preparation s₁ approvalId t₁ = .ok () →
      (∃ again, prepare asset s₁ request t₁ drawn = .ok again) ∧
        s₁.resourceVersion = s₀.resourceVersion ∧ s₁.value = s₀.value ∧
        t₁ < preparation.expiresAt := by
  intro h
  obtain ⟨⟨again, hagain⟩, -⟩ := h sampleAsset (sampleState true) (sampleState false) sampleRequest
    0 60000000000 "preparation-1" "preparation-2" "approval:1" samplePreparation (by decide)
    sample_prepared (by decide)
  have hwindow := (prepare_eq_ok.mp hagain).2.1.window
  cases hwindow

end Setpoints

end AgentSphere.DomainPacks
