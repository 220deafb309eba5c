import AgentSphere.Contracts.Authority
import Mathlib.Algebra.Order.Field.Rat
import Mathlib.Data.FinEnum
import Mathlib.Data.Finset.Basic

/-!
# Industrial assets

The channels of industrial assets, what is read from them, and when a series of samples shows that
a channel has settled at a value.

Numbers are exact rationals, so that the tests for finite numbers are left out. Every instant is
at most a day after a reading of the clock when something is added to it, so that sums of instants
do not overflow.
-/

namespace AgentSphere.Industrial

def industrialSchemaVersion : String := "agenttrust.industrial-edge.v1"

inductive IndustrialError where
  | configurationInvalid
  | requestInvalid
  | assetInvalid
  | assetConflict
  | assetNotFound
  | localPolicyTooPermissive
  | authorizationInvalid
  | authorizationReplayed
  | writeDenied
  | disconnectedFailClosed
  | telemetryUnavailable
  | telemetryStaleOrBad
  | resourceVersionChanged
  | valueInvalid
  | preparationNotFound
  | verificationFailed
  | protocolMappingInvalid
  | protocolSecurityDenied
  | journalFailed
  | clockUnhealthy
  | convergenceFailed
  | outcomeUnknown
  deriving DecidableEq, Repr

def IndustrialError.code : IndustrialError → String
  | .configurationInvalid => "INDUSTRIAL_CONFIGURATION_INVALID"
  | .requestInvalid => "INDUSTRIAL_REQUEST_INVALID"
  | .assetInvalid => "INDUSTRIAL_ASSET_INVALID"
  | .assetConflict => "INDUSTRIAL_ASSET_CONFLICT"
  | .assetNotFound => "INDUSTRIAL_ASSET_NOT_FOUND"
  | .localPolicyTooPermissive => "INDUSTRIAL_LOCAL_POLICY_TOO_PERMISSIVE"
  | .authorizationInvalid => "INDUSTRIAL_AUTHORIZATION_INVALID"
  | .authorizationReplayed => "INDUSTRIAL_AUTHORIZATION_REPLAYED"
  | .writeDenied => "INDUSTRIAL_WRITE_DENIED"
  | .disconnectedFailClosed => "INDUSTRIAL_DISCONNECTED_FAIL_CLOSED"
  | .telemetryUnavailable => "INDUSTRIAL_TELEMETRY_UNAVAILABLE"
  | .telemetryStaleOrBad => "INDUSTRIAL_TELEMETRY_STALE_OR_BAD"
  | .resourceVersionChanged => "INDUSTRIAL_RESOURCE_VERSION_CHANGED"
  | .valueInvalid => "INDUSTRIAL_VALUE_INVALID"
  | .preparationNotFound => "INDUSTRIAL_PREPARATION_NOT_FOUND"
  | .verificationFailed => "INDUSTRIAL_VERIFICATION_FAILED"
  | .protocolMappingInvalid => "INDUSTRIAL_PROTOCOL_MAPPING_INVALID"
  | .protocolSecurityDenied => "INDUSTRIAL_PROTOCOL_SECURITY_DENIED"
  | .journalFailed => "INDUSTRIAL_JOURNAL_FAILED"
  | .clockUnhealthy => "INDUSTRIAL_CLOCK_UNHEALTHY"
  | .convergenceFailed => "INDUSTRIAL_CONVERGENCE_FAILED"
  | .outcomeUnknown => "INDUSTRIAL_OUTCOME_UNKNOWN"

inductive IndustrialProtocol where
  | opcUa
  | mqtt
  | modbus
  deriving DecidableEq, Repr

inductive QualityCode where
  | good
  | uncertain
  | bad
  | stale
  deriving DecidableEq, Repr

structure IndustrialResourceRef where
  tenantId : TenantId
  site : String
  area : String
  line : String
  asset : String
  channel : String
  protocol : IndustrialProtocol
  protocolAddress : String
  deriving DecidableEq

def IndustrialResourceRef.key (resource : IndustrialResourceRef) : String :=
  resource.site ++ "/" ++ resource.area ++ "/" ++ resource.line ++ "/" ++ resource.asset ++ "/" ++
    resource.channel

structure AssetChannel where
  resource : IndustrialResourceRef
  engineeringUnit : String
  minimum : ℚ
  maximum : ℚ
  maximumDeltaPerWrite : ℚ
  writable : Bool
  criticality : RiskLevel
  freshnessMs : Nat
  byteOrder : Option String
  allowedModbusFunctionCodes : Finset UInt8
  deriving DecidableEq

structure TelemetrySample where
  resourceKey : String
  value : Value
  engineeringUnit : String
  quality : QualityCode
  resourceVersion : String
  sampledAt : DateTime
  sequence : Nat
  deriving DecidableEq

-- Channels

def protocolSettingsOk (channel : AssetChannel) : Bool :=
  match channel.resource.protocol with
  | .modbus => channel.byteOrder.any (["ABCD", "BADC", "CDAB", "DCBA"].contains ·) &&
      decide (∀ code ∈ channel.allowedModbusFunctionCodes, code = 6 ∨ code = 16)
  | .opcUa | .mqtt => channel.byteOrder.isNone && channel.allowedModbusFunctionCodes = ∅

def validateChannel (channel : AssetChannel) : Except IndustrialError Unit :=
  require (containsText channel.resource.key ".." = false ∧
    (∀ field ∈ [channel.resource.site, channel.resource.area, channel.resource.line,
        channel.resource.asset, channel.resource.channel, channel.resource.protocolAddress],
      field ≠ "" ∧ field.utf8ByteSize ≤ 1024 ∧
        field.toList.all (fun c => 0x20 ≤ c.toNat && c.toNat ≠ 0x7f) = true) ∧
    channel.engineeringUnit ≠ "" ∧ channel.engineeringUnit.utf8ByteSize ≤ 64 ∧
    channel.minimum < channel.maximum ∧ 0 < channel.maximumDeltaPerWrite ∧
    channel.freshnessMs ≠ 0 ∧ channel.freshnessMs ≤ 86400000 ∧
    protocolSettingsOk channel = true) .assetInvalid

-- Samples

/-- `chrono::Duration::milliseconds`, in nanoseconds. -/
def milliseconds (n : Nat) : Int := n * 1000000

def validateFreshGood (sample : TelemetrySample) (freshnessMs : Nat) (now : DateTime) :
    Except IndustrialError Unit :=
  require (sample.quality = .good ∧ sample.sampledAt ≤ now ∧
    now ≤ sample.sampledAt + milliseconds freshnessMs) .telemetryStaleOrBad

structure IndustrialConvergencePolicy where
  tolerance : ℚ
  minimumGoodSamples : Nat
  maximumSamples : Nat
  maximumOvershoot : ℚ
  maximumOscillations : Nat
  maximumClockOffsetMs : Nat
  clockHealthTtlMs : Nat

/-- `validate` of a policy. -/
def IndustrialConvergencePolicy.validate (policy : IndustrialConvergencePolicy)
    (production : Bool) : Except IndustrialError Unit :=
  require (0 ≤ policy.tolerance ∧ policy.minimumGoodSamples ≠ 0 ∧
    (production = true → 2 ≤ policy.minimumGoodSamples) ∧
    policy.minimumGoodSamples ≤ policy.maximumSamples ∧ policy.maximumSamples ≤ 1024 ∧
    policy.tolerance ≤ policy.maximumOvershoot ∧
    policy.maximumClockOffsetMs ≠ 0 ∧ policy.maximumClockOffsetMs ≤ 60000 ∧
    policy.clockHealthTtlMs ≠ 0 ∧ policy.clockHealthTtlMs ≤ 86400000) .configurationInvalid

structure IndustrialConvergenceEvidence where
  targetValue : ℚ
  sampleCount : Nat
  stableSampleCount : Nat
  maximumObservedError : ℚ
  oscillations : Nat
  firstSequence : Nat
  lastSequence : Nat
  converged : Bool
  deriving DecidableEq

structure Observed where
  maximumError : ℚ
  stable : Nat
  oscillations : Nat
  /-- The side of the target the last sample outside the tolerance was on. -/
  priorSign : Int
  prior : Option (Nat × DateTime)

/-- `saturating_add` of one to a number of 16 bits. -/
def saturatingSucc (n : Nat) : Nat := min (n + 1) 65535

section Convergence

variable (asF64 : Value → Option ℚ) (policy : IndustrialConvergencePolicy)

def observe (target : ℚ) (engineeringUnit resourceKey : String) (freshnessMs : Nat)
    (now : DateTime) (seen : Observed) (sample : TelemetrySample) :
    Except IndustrialError Observed := do
  validateFreshGood sample freshnessMs now
  require (sample.engineeringUnit = engineeringUnit ∧ sample.resourceKey = resourceKey)
    .convergenceFailed
  require (∀ last ∈ seen.prior, last.1 < sample.sequence ∧ last.2 < sample.sampledAt)
    .convergenceFailed
  match asF64 sample.value with
  | none => .error .convergenceFailed
  | some value =>
    let error := |value - target|
    let sign : Int := if 0 ≤ value - target then 1 else -1
    require (error ≤ policy.maximumOvershoot) .convergenceFailed
    if error ≤ policy.tolerance then
      pure { seen with
        maximumError := max seen.maximumError error
        stable := saturatingSucc seen.stable
        prior := some (sample.sequence, sample.sampledAt) }
    else
      pure {
        maximumError := max seen.maximumError error
        stable := 0
        oscillations :=
          if seen.priorSign ≠ 0 ∧ seen.priorSign ≠ sign then saturatingSucc seen.oscillations
          else seen.oscillations
        priorSign := sign
        prior := some (sample.sequence, sample.sampledAt) }

def verifyConvergence (samples : List TelemetrySample) (target : ℚ)
    (engineeringUnit resourceKey : String) (freshnessMs : Nat) (now : DateTime) :
    Except IndustrialError IndustrialConvergenceEvidence := do
  policy.validate false
  require (policy.minimumGoodSamples ≤ samples.length ∧ samples.length ≤ policy.maximumSamples)
    .convergenceFailed
  let seen ← samples.foldlM (observe asF64 policy target engineeringUnit resourceKey freshnessMs
    now) ⟨0, 0, 0, 0, none⟩
  require (policy.minimumGoodSamples ≤ seen.stable ∧
    seen.oscillations ≤ policy.maximumOscillations) .convergenceFailed
  require (samples.length < 65536) .convergenceFailed
  match samples.head?, samples.getLast? with
  | some first, some last => pure {
      targetValue := target
      sampleCount := samples.length
      stableSampleCount := seen.stable
      maximumObservedError := seen.maximumError
      oscillations := seen.oscillations
      firstSequence := first.sequence
      lastSequence := last.sequence
      converged := true }
  | _, _ => .error .convergenceFailed

end Convergence

end AgentSphere.Industrial
