import AgentSphere.DataGovernance.Dlp
import AgentSphere.DataGovernance.Policy

/-!
# Exports of artifacts

Before an artifact leaves, its label is validated, its bytes are scanned and the flow is decided.
The label and the request describe the same data, but nothing compares them: what the label says
about secrets and about the classification is not looked at after its validation.
-/

namespace AgentSphere.DataGovernance

open Concurrency
open Models (DataPolicyRequest DataPolicyDecision)
open Utf8 (asBytes)

structure ArtifactExportGuard {Url : Type} (urls : UrlCrate Url) where
  scanner : DlpScanner
  policy : DataPolicyPortImpl urls

variable {Url : Type} {urls : UrlCrate Url}

def ArtifactExportGuard.inspect (codec : DlpCodec) (self : ArtifactExportGuard urls)
    (bytes : List UInt8) (label : DataLabel) (request : DataPolicyRequest) :
    Except DataError DataPolicyDecision := do
  validateLabel label
  let findings ← self.scanner.scanBytes codec bytes
  require (findings.any (·.blocking) = false) .dlpDenied
  let decision ← self.policy.evaluateChecked request
  require (decision.allowed = true) .flowDenied
  return decision

variable {codec : DlpCodec} {guard : ArtifactExportGuard urls} {bytes : List UInt8}
  {label : DataLabel} {request : DataPolicyRequest} {decision : DataPolicyDecision}

structure ArtifactExportGuard.Passes (codec : DlpCodec) (guard : ArtifactExportGuard urls)
    (bytes : List UInt8) (label : DataLabel) (request : DataPolicyRequest)
    (decision : DataPolicyDecision) : Prop where
  label : validateLabel label = .ok ()
  bytes : ∃ findings, guard.scanner.scanBytes codec bytes = .ok findings ∧
    findings.any (·.blocking) = false
  request : guard.policy.evaluateChecked request = .ok decision
  allowed : decision.allowed = true

theorem inspect_eq_ok :
    guard.inspect codec bytes label request = .ok decision ↔
      guard.Passes codec bytes label request decision := by
  simp only [ArtifactExportGuard.inspect, except_bind_eq_ok, require_eq_ok, Unique.exists_iff]
  constructor
  · rintro ⟨hlabel, findings, hfindings, hnone, found, hfound, hallowed, hdecision⟩
    cases hdecision
    exact ⟨hlabel, ⟨findings, hfindings, hnone⟩, hfound, hallowed⟩
  · rintro ⟨hlabel, ⟨findings, hfindings, hnone⟩, hdecision, hallowed⟩
    exact ⟨hlabel, findings, hfindings, hnone, decision, hdecision, hallowed, rfl⟩

/-- The label carries no secret and no higher classification than the deployment may handle, and the
decision is one on a request that is at least as sensitive as the label. -/
def Protects (policy : DataPolicyPortImpl urls) (label : DataLabel) (request : DataPolicyRequest)
    (decision : DataPolicyDecision) : Prop :=
  label.containsSecret = false ∧
  (∃ deployment, policy.deployments.resolve request.deploymentProfile = .ok deployment ∧
    label.classification ≤ deployment.maximumClassification) ∧
  ∃ request', label.classification ≤ request'.classification ∧
    (label.containsSecret = true → request'.containsSecret = true) ∧
    policy.evaluateChecked request' = .ok decision

theorem retentionFor_injective : Function.Injective retentionFor := by
  intro a b h
  cases a <;> cases b <;> first | rfl | exact absurd h (by decide)

theorem classification_of_decision {policy : DataPolicyPortImpl urls}
    {request' : DataPolicyRequest} (h : policy.evaluateChecked request = .ok decision)
    (h' : policy.evaluateChecked request' = .ok decision) :
    request'.classification = request.classification := by
  obtain ⟨-, deployment, -, url, -, hdecision⟩ := evaluateChecked_eq_ok.mp h
  obtain ⟨-, deployment', -, url', -, hdecision'⟩ := evaluateChecked_eq_ok.mp h'
  have hretention : retentionFor request'.classification = retentionFor request.classification :=
    congrArg DataPolicyDecision.maximumRetentionSeconds (hdecision'.trans hdecision.symm)
  exact retentionFor_injective hretention

theorem allowed_le_maximum {policy : DataPolicyPortImpl urls}
    (h : policy.evaluateChecked request = .ok decision) (hallowed : decision.allowed = true) :
    ∃ deployment, policy.deployments.resolve request.deploymentProfile = .ok deployment ∧
      request.classification ≤ deployment.maximumClassification := by
  obtain ⟨-, deployment, hresolve, url, -, rfl⟩ := evaluateChecked_eq_ok.mp h
  exact ⟨deployment, hresolve, (verdict_allowed_iff.mp hallowed).classification⟩

/-- An accepted export is protected if its label has no secret and the request is at least as
sensitive as the label, and only then. -/
theorem protects_iff (h : guard.Passes codec bytes label request decision) :
    Protects guard.policy label request decision ↔
      label.containsSecret = false ∧ label.classification ≤ request.classification := by
  constructor
  · rintro ⟨hsecret, -, request', hle, -, hdecision⟩
    rw [classification_of_decision h.request hdecision] at hle
    exact ⟨hsecret, hle⟩
  · rintro ⟨hsecret, hle⟩
    obtain ⟨deployment, hresolve, hmaximum⟩ := allowed_le_maximum h.request h.allowed
    refine ⟨hsecret, ⟨deployment, hresolve, hle.trans hmaximum⟩, request, hle, ?_, h.request⟩
    exact fun hcarries => absurd (hsecret.symm.trans hcarries) (by decide)

end AgentSphere.DataGovernance
