import AgentSphere.DataGovernance.Labels
import AgentSphere.Models.Requests

/-!
# Flows of data

Whether data may go to a destination depends on the deployment that sends it. A destination is a
name or a URL, and what the name mentions, together with the mode of the deployment, decides whether
the data leaves it: it may cross the private boundary, it may be an external egress without that,
and it may remain private.
-/

namespace AgentSphere.DataGovernance

open Concurrency
open Models (DataPolicyRequest DataPolicyDecision)

structure UrlCrate (Url : Type) where
  parse : String → Option Url
  scheme : Url → String
  username : Url → String
  password : Url → Option String
  hostStr : Url → Option String
  path : Url → String
  query : Url → Option String
  fragment : Url → Option String
  setPath : Url → String → Url
  setQuery : Url → Option String → Url
  setFragment : Url → Option String → Url
  asStr : Url → String

-- Deployments

inductive DeploymentMode where
  | saas
  | vpc
  | onPrem
  | offline
  | hybrid
  deriving DecidableEq, Repr

structure DeploymentPolicy where
  profileId : String
  mode : DeploymentMode
  allowedExternalEndpoints : Finset String
  telemetryExport : Bool
  updateChannel : String
  maximumClassification : DataClassification
  deriving DecidableEq

/-- A text of letters, digits and `-`, `_` or `.`. -/
def IsProfile (value : String) : Prop :=
  value ≠ "" ∧ value.utf8ByteSize ≤ 128 ∧
    value.toList.all (fun c => c.isAlphanum || c == '-' || c == '_' || c == '.') = true

instance (value : String) : Decidable (IsProfile value) :=
  inferInstanceAs (Decidable (_ ∧ _ ∧ _))

variable {Url : Type} (urls : UrlCrate Url)

def IsEndpoint (endpoint : String) : Bool :=
  (urls.parse endpoint).any fun value =>
    urls.scheme value = "https" ∧ urls.hostStr value ≠ none ∧ urls.username value = "" ∧
      urls.password value = none ∧ urls.path value = "/" ∧ urls.query value = none ∧
      urls.fragment value = none ∧ urls.asStr value = endpoint

namespace DeploymentPolicy

def validate (self : DeploymentPolicy) : Except DataError Unit := do
  require (IsProfile self.profileId ∧ IsProfile self.updateChannel ∧
    self.allowedExternalEndpoints.card ≤ 100 ∧
    ∀ endpoint ∈ self.allowedExternalEndpoints, IsEndpoint urls endpoint = true) .deploymentInvalid
  require (self.mode = .offline → self.allowedExternalEndpoints = ∅ ∧
    self.telemetryExport = false ∧ self.updateChannel = "offline-bundle") .deploymentInvalid

end DeploymentPolicy

structure DeploymentPolicyResolver where
  profiles : BTreeMap String DeploymentPolicy
  registered : ∀ (profileId : String) (profile : DeploymentPolicy),
    profiles[profileId]? = some profile →
      profile.profileId = profileId ∧ profile.validate urls = .ok ()

namespace DeploymentPolicyResolver

variable {urls}

def empty : DeploymentPolicyResolver urls where
  profiles := ∅
  registered := by
    intro profileId profile h
    rw [Std.ExtTreeMap.getElem?_empty] at h
    cases h

def register (self : DeploymentPolicyResolver urls) (profile : DeploymentPolicy) :
    Except DataError (DeploymentPolicyResolver urls) :=
  match hvalid : profile.validate urls with
  | .error e => .error e
  | .ok () => .ok {
      profiles := self.profiles.insert profile.profileId profile
      registered := by
        intro profileId registered h
        rw [BTreeMap.getElem?_insert_ite] at h
        split at h
        · rename_i hid
          cases h
          exact ⟨hid, hvalid⟩
        · exact self.registered profileId registered h }

def resolve (self : DeploymentPolicyResolver urls) (profile : String) :
    Except DataError DeploymentPolicy :=
  match self.profiles[profile]? with
  | some policy => .ok policy
  | none => .error .deploymentInvalid

theorem resolve_eq_ok {self : DeploymentPolicyResolver urls} {profile : String}
    {policy : DeploymentPolicy} :
    self.resolve profile = .ok policy ↔ self.profiles[profile]? = some policy := by
  unfold resolve
  cases self.profiles[profile]? with
  | none => simp
  | some found => simp

theorem resolve_register {self self' : DeploymentPolicyResolver urls} {profile : DeploymentPolicy}
    (h : self.register profile = .ok self') (profileId : String) :
    self'.resolve profileId =
      if profile.profileId = profileId then .ok profile else self.resolve profileId := by
  unfold register at h
  split at h
  · cases h
  · cases h
    simp only [resolve, BTreeMap.getElem?_insert_ite]
    by_cases hid : profile.profileId = profileId
    · simp only [if_pos hid]
    · simp only [if_neg hid]

end DeploymentPolicyResolver

-- Destinations

def Mentions (destination name : String) : Prop :=
  containsText (toAsciiLowercase destination) name = true

theorem mentions_iff {destination name : String} :
    Mentions destination name ↔ name.toList <:+: destination.toList.map Char.toLower := by
  rw [Mentions, containsText_iff, toAsciiLowercase, String.toList_map]

instance (destination name : String) : Decidable (Mentions destination name) :=
  decidable_of_iff' _ mentions_iff

def IsUrl (destination : String) : Prop := Mentions destination "://"

instance (destination : String) : Decidable (IsUrl destination) :=
  inferInstanceAs (Decidable (Mentions _ _))

variable (mode : DeploymentMode) (destination : String)

def namedPrivateBoundaryCrossing : Prop :=
  Mentions destination "public" ∨ Mentions destination "external" ∨ Mentions destination "saas"

def urlIsPrivate : Prop := IsUrl destination ∧ (mode = .vpc ∨ mode = .onPrem)

def urlIsSaas : Prop := IsUrl destination ∧ mode = .saas

def crossesPrivateBoundary : Prop :=
  namedPrivateBoundaryCrossing destination ∨ urlIsSaas mode destination

def externalEgress : Prop :=
  crossesPrivateBoundary mode destination ∨ Mentions destination "internet" ∨
    Mentions destination "cross-region" ∨ (IsUrl destination ∧ ¬urlIsPrivate mode destination)

def privateNames : List String :=
  ["onprem", "on-prem", "private", "vpc", "internal", "offline", "local", "opcua", "mqtt", "modbus"]

def remainsPrivate : Prop :=
  (∃ name ∈ privateNames, Mentions destination name) ∨ urlIsPrivate mode destination

instance : Decidable (namedPrivateBoundaryCrossing destination) :=
  inferInstanceAs (Decidable (_ ∨ _))

instance : Decidable (urlIsPrivate mode destination) := inferInstanceAs (Decidable (_ ∧ _))

instance : Decidable (urlIsSaas mode destination) := inferInstanceAs (Decidable (_ ∧ _))

instance : Decidable (crossesPrivateBoundary mode destination) :=
  inferInstanceAs (Decidable (_ ∨ _))

instance : Decidable (externalEgress mode destination) := inferInstanceAs (Decidable (_ ∨ _))

instance : Decidable (remainsPrivate mode destination) := inferInstanceAs (Decidable (_ ∨ _))

def UrlCrate.origin (url : Url) : String :=
  urls.asStr (urls.setFragment (urls.setQuery (urls.setPath url "/") none) none)

def AllowedUrl (deployment : DeploymentPolicy) (url : Url) : Prop :=
  urls.scheme url = "https" ∧ urls.username url = "" ∧ urls.password url = none ∧
    urls.origin url ∈ deployment.allowedExternalEndpoints

instance (deployment : DeploymentPolicy) (url : Url) : Decidable (AllowedUrl urls deployment url) :=
  inferInstanceAs (Decidable (_ ∧ _ ∧ _ ∧ _))

def destinationUrl : Except DataError (Option Url) :=
  if IsUrl destination then
    match urls.parse destination with
    | some url => .ok (some url)
    | none => .error .deploymentInvalid
  else .ok none

-- Decisions

structure Verdict where
  allowed : Bool
  reasons : List String

def Verdict.denyIf (self : Verdict) (condition : Prop) [Decidable condition] (reason : String) :
    Verdict :=
  if condition then ⟨false, self.reasons ++ [reason]⟩ else self

@[simp] theorem Verdict.denyIf_allowed (self : Verdict) (condition : Prop) [Decidable condition]
    (reason : String) :
    (self.denyIf condition reason).allowed = true ↔ self.allowed = true ∧ ¬condition := by
  unfold denyIf
  by_cases h : condition
  · simp [h]
  · simp [h]

def retentionFor : DataClassification → Nat
  | .publicData => 365 * 24 * 3600
  | .internal => 180 * 24 * 3600
  | .confidential => 90 * 24 * 3600
  | .restricted => 30 * 24 * 3600
  | .regulated => 7 * 24 * 3600

def isCanonicalUuid (value : String) : Bool :=
  (Uuid.parseStr value).any fun uuid => uuid.toStr == value

def ValidRequest (request : DataPolicyRequest) : Prop :=
  request.schemaVersion = "agenttrust.contracts.v1" ∧ isCanonicalUuid request.tenantId = true ∧
    validJurisdiction request.sourceJurisdiction ∧
    validJurisdiction request.destinationJurisdiction ∧
    IsName request.destinationKind 2048 ∧ IsProfile request.deploymentProfile ∧
    ∀ approval ∈ request.crossDomainApprovalId, isCanonicalUuid approval = true

instance (request : DataPolicyRequest) : Decidable (ValidRequest request) :=
  inferInstanceAs (Decidable (_ ∧ _ ∧ _ ∧ _ ∧ _ ∧ _ ∧ _))

structure DataPolicyPortImpl where
  policyVersion : PolicyVersion
  policyVersion_ne : policyVersion ≠ ""
  deployments : DeploymentPolicyResolver urls

def verdict (deployment : DeploymentPolicy) (request : DataPolicyRequest) (url : Option Url) :
    Verdict :=
  let destination := request.destinationKind
  (Verdict.mk true []
    |>.denyIf (request.containsSecret = true) "SECRET_OUTBOUND_DENIED"
    |>.denyIf (deployment.maximumClassification < request.classification)
      "DEPLOYMENT_CLASSIFICATION_LIMIT"
    |>.denyIf ((request.classification = .restricted ∨ request.classification = .regulated) ∧
      Mentions destination "publicapi") "PUBLIC_MODEL_DENIED"
    |>.denyIf (request.sourceJurisdiction ≠ request.destinationJurisdiction ∧
      request.crossDomainApprovalId = none) "CROSS_DOMAIN_APPROVAL_REQUIRED"
    |>.denyIf (¬externalEgress deployment.mode destination ∧
      ¬remainsPrivate deployment.mode destination) "DESTINATION_KIND_UNKNOWN"
    |>.denyIf (∃ value ∈ url, ¬AllowedUrl urls deployment value) "DESTINATION_ENDPOINT_DENIED"
    |>.denyIf (deployment.mode = .offline ∧ externalEgress deployment.mode destination)
      "OFFLINE_EGRESS_DENIED")

variable {urls}

def DataPolicyPortImpl.decision (self : DataPolicyPortImpl urls) (deployment : DeploymentPolicy)
    (request : DataPolicyRequest) (url : Option Url) : DataPolicyDecision :=
  let verdict := verdict urls deployment request url
  { schemaVersion := dataSchemaVersion
    allowed := verdict.allowed
    policyVersion := self.policyVersion
    reasonCodes := if verdict.reasons = [] then ["DATA_FLOW_ALLOWED"] else verdict.reasons
    requiredTransformations :=
      -- a destination outside the deployment is not enough: the private boundary has to be crossed
      if .confidential ≤ request.classification ∧
          crossesPrivateBoundary deployment.mode request.destinationKind then
        ["REDACT_PII", "HASH_TRACE_PAYLOAD"]
      else []
    maximumRetentionSeconds := retentionFor request.classification }

def DataPolicyPortImpl.evaluateChecked (self : DataPolicyPortImpl urls)
    (request : DataPolicyRequest) : Except DataError DataPolicyDecision := do
  require (ValidRequest request) .policyInvalid
  let deployment ← self.deployments.resolve request.deploymentProfile
  let url ← destinationUrl urls request.destinationKind
  return self.decision deployment request url

-- Permitted flows

variable {deployment : DeploymentPolicy} {request : DataPolicyRequest}
  {decision : DataPolicyDecision} {self : DataPolicyPortImpl urls}

@[mk_iff]
structure Permitted (urls : UrlCrate Url) (deployment : DeploymentPolicy)
    (request : DataPolicyRequest) (url : Option Url) : Prop where
  secret : request.containsSecret = false
  classification : request.classification ≤ deployment.maximumClassification
  publicModel : .restricted ≤ request.classification →
    ¬Mentions request.destinationKind "publicapi"
  jurisdiction : request.sourceJurisdiction ≠ request.destinationJurisdiction →
    request.crossDomainApprovalId ≠ none
  known : externalEgress deployment.mode request.destinationKind ∨
    remainsPrivate deployment.mode request.destinationKind
  endpoint : ∀ value ∈ url, AllowedUrl urls deployment value
  offline : deployment.mode = .offline → ¬externalEgress deployment.mode request.destinationKind

theorem restricted_le_iff (classification : DataClassification) :
    .restricted ≤ classification ↔ classification = .restricted ∨ classification = .regulated := by
  cases classification <;> decide

/-- **The verdict is positive exactly if the flow is permitted.** -/
theorem verdict_allowed_iff {url : Option Url} :
    (verdict urls deployment request url).allowed = true ↔
      Permitted urls deployment request url := by
  simp only [verdict, Verdict.denyIf_allowed, permitted_iff, restricted_le_iff]
  simp only [true_and, not_lt, not_and, not_exists, not_not, Bool.not_eq_true, ne_eq, and_assoc,
    or_iff_not_imp_left]

theorem evaluateChecked_eq_ok : self.evaluateChecked request = .ok decision ↔
    ValidRequest request ∧
    ∃ deployment, self.deployments.resolve request.deploymentProfile = .ok deployment ∧
    ∃ url, destinationUrl urls request.destinationKind = .ok url ∧
      self.decision deployment request url = decision := by
  simp only [DataPolicyPortImpl.evaluateChecked, except_bind_eq_ok, require_eq_ok,
    Unique.exists_iff, pure, Except.pure, Except.ok.injEq]

/-- **Less sensitive data may go wherever more sensitive data may go.** -/
theorem Permitted.mono {url : Option Url} (h : Permitted urls deployment request url)
    {classification : DataClassification} (hle : classification ≤ request.classification) :
    Permitted urls deployment { request with classification } url where
  secret := h.secret
  classification := hle.trans h.classification
  publicModel := fun hrestricted => h.publicModel (hrestricted.trans hle)
  jurisdiction := h.jurisdiction
  known := h.known
  endpoint := h.endpoint
  offline := h.offline

theorem destinationUrl_eq_ok {destination : String} {url : Option Url} :
    destinationUrl urls destination = .ok url ↔
      (IsUrl destination → ∃ value, urls.parse destination = some value ∧ url = some value) ∧
      (¬IsUrl destination → url = none) := by
  unfold destinationUrl
  by_cases hurl : IsUrl destination
  · rw [if_pos hurl]
    cases hparse : urls.parse destination with
    | none => simp [hurl]
    | some value => simp [hurl, eq_comm]
  · simp [hurl, eq_comm]

theorem validRequest_classification {classification : DataClassification} :
    ValidRequest { request with classification } ↔ ValidRequest request := Iff.rfl

theorem resolve_registered {deployments : DeploymentPolicyResolver urls} {profileId : String}
    (h : deployments.resolve profileId = .ok deployment) :
    deployment.profileId = profileId ∧ deployment.validate urls = .ok () :=
  deployments.registered _ _ (DeploymentPolicyResolver.resolve_eq_ok.mp h)

theorem evaluateChecked_allowed_iff :
    (∃ decision, self.evaluateChecked request = .ok decision ∧ decision.allowed = true) ↔
      ValidRequest request ∧
      ∃ deployment, self.deployments.resolve request.deploymentProfile = .ok deployment ∧
      ∃ url, destinationUrl urls request.destinationKind = .ok url ∧
        Permitted urls deployment request url := by
  constructor
  · rintro ⟨decision, hdecision, hallowed⟩
    obtain ⟨hvalid, deployment, hresolve, url, hurl, rfl⟩ := evaluateChecked_eq_ok.mp hdecision
    exact ⟨hvalid, deployment, hresolve, url, hurl, verdict_allowed_iff.mp hallowed⟩
  · rintro ⟨hvalid, deployment, hresolve, url, hurl, hpermitted⟩
    exact ⟨_, evaluateChecked_eq_ok.mpr ⟨hvalid, deployment, hresolve, url, hurl, rfl⟩,
      verdict_allowed_iff.mpr hpermitted⟩

/-- **Allowed flows** keep to a valid deployment, transform confidential data before it leaves, and
are allowed for less sensitive data as well. -/
theorem evaluateChecked_allowed (h : self.evaluateChecked request = .ok decision)
    (hallowed : decision.allowed = true) :
    ∃ deployment, self.deployments.resolve request.deploymentProfile = .ok deployment ∧
      deployment.profileId = request.deploymentProfile ∧ deployment.validate urls = .ok () ∧
      (.confidential ≤ request.classification →
        crossesPrivateBoundary deployment.mode request.destinationKind →
          "REDACT_PII" ∈ decision.requiredTransformations ∧
            "HASH_TRACE_PAYLOAD" ∈ decision.requiredTransformations) ∧
      (deployment.mode = .offline → ¬externalEgress deployment.mode request.destinationKind) ∧
      (IsUrl request.destinationKind → ∃ url, urls.parse request.destinationKind = some url ∧
        urls.scheme url = "https" ∧ urls.username url = "" ∧ urls.password url = none ∧
        urls.origin url ∈ deployment.allowedExternalEndpoints) ∧
      ∀ classification ≤ request.classification, ∃ decision',
        self.evaluateChecked { request with classification } = .ok decision' ∧
          decision'.allowed = true := by
  obtain ⟨hvalid, deployment, hresolve, url, hurl, rfl⟩ := evaluateChecked_eq_ok.mp h
  have hpermitted := verdict_allowed_iff.mp hallowed
  obtain ⟨hid, hregistered⟩ := resolve_registered hresolve
  refine ⟨deployment, hresolve, hid, hregistered, ?_, hpermitted.offline, ?_, ?_⟩
  · intro hconfidential hcrosses
    have hrequired : (self.decision deployment request url).requiredTransformations =
        ["REDACT_PII", "HASH_TRACE_PAYLOAD"] := if_pos ⟨hconfidential, hcrosses⟩
    rw [hrequired]
    exact ⟨List.mem_cons_self, List.mem_cons_of_mem _ List.mem_cons_self⟩
  · intro hisUrl
    obtain ⟨value, hparse, rfl⟩ := (destinationUrl_eq_ok.mp hurl).1 hisUrl
    exact ⟨value, hparse, hpermitted.endpoint value rfl⟩
  · intro classification hle
    exact evaluateChecked_allowed_iff.mpr ⟨validRequest_classification.mpr hvalid, deployment,
      hresolve, url, hurl, hpermitted.mono hle⟩

-- Sample deployments

def sampleUrls : UrlCrate (String × String) where
  parse text :=
    if text = "https://approved.saas/" then some ("approved.saas", "/")
    else if text = "https://approved.saas/v1/process" then some ("approved.saas", "/v1/process")
    else none
  scheme _ := "https"
  username _ := ""
  password _ := none
  hostStr url := some url.1
  path url := url.2
  query _ := none
  fragment _ := none
  setPath url path := (url.1, path)
  setQuery url _ := url
  setFragment url _ := url
  asStr url := "https://" ++ url.1 ++ url.2

def sampleDeployment (mode : DeploymentMode) : DeploymentPolicy where
  profileId := "sample"
  mode
  allowedExternalEndpoints := {"https://approved.saas/"}
  telemetryExport := false
  updateChannel := "signed"
  maximumClassification := .regulated

def sampleService (mode : DeploymentMode) (h : mode ≠ .offline) : DataPolicyPortImpl sampleUrls where
  policyVersion := "1"
  policyVersion_ne := by decide
  deployments := {
    profiles := (∅ : BTreeMap String DeploymentPolicy).insert "sample" (sampleDeployment mode)
    registered := by
      intro profileId profile hfound
      rw [BTreeMap.getElem?_insert_ite, Std.ExtTreeMap.getElem?_empty] at hfound
      split at hfound
      · rename_i hid
        cases hfound
        refine ⟨hid, ?_⟩
        cases mode <;> first | decide | exact absurd rfl h
      · cases hfound }

theorem resolve_sampleService {mode : DeploymentMode} (h : mode ≠ .offline) :
    (sampleService mode h).deployments.resolve "sample" = .ok (sampleDeployment mode) := by
  refine DeploymentPolicyResolver.resolve_eq_ok.mpr ?_
  exact (BTreeMap.getElem?_insert_ite _ _ _ _).trans (if_pos rfl)

def sampleRequest (destinationKind : String) : DataPolicyRequest where
  schemaVersion := "agenttrust.contracts.v1"
  tenantId := "00000000-0000-4000-8000-000000000001"
  classification := .confidential
  sourceJurisdiction := "CN"
  destinationJurisdiction := "CN"
  destinationKind
  deploymentProfile := "sample"
  containsSecret := false
  crossDomainApprovalId := none

theorem evaluateChecked_saas :
    (sampleService .saas (by decide)).evaluateChecked
      (sampleRequest "https://approved.saas/v1/process") =
    .ok ((sampleService .saas (by decide)).decision (sampleDeployment .saas)
      (sampleRequest "https://approved.saas/v1/process") (some ("approved.saas", "/v1/process"))) := by
  refine evaluateChecked_eq_ok.mpr ⟨?_, _, resolve_sampleService _, _, ?_, rfl⟩
  · decide
  · exact destinationUrl_eq_ok.mpr ⟨fun _ => ⟨_, by decide, rfl⟩, fun h => absurd (by decide) h⟩

/-- A URL that an application in the cloud may call. -/
theorem evaluateChecked_allowed_saas : ∃ decision,
    (sampleService .saas (by decide)).evaluateChecked
      (sampleRequest "https://approved.saas/v1/process") = .ok decision ∧
    "REDACT_PII" ∈ decision.requiredTransformations := by
  obtain ⟨deployment, hresolve, -, -, htransformed, -⟩ :=
    evaluateChecked_allowed evaluateChecked_saas (by decide)
  have hdeployment := Except.ok.inj ((resolve_sampleService _).symm.trans hresolve)
  subst hdeployment
  exact ⟨_, evaluateChecked_saas, (htransformed (by decide) (by decide)).1⟩

/-- Confidential data goes to the internet as it is, if the destination is not called public,
external or a service. -/
theorem internet_without_transformations : ∃ decision,
    (sampleService .onPrem (by decide)).deployments.resolve "sample" =
      .ok (sampleDeployment .onPrem) ∧
    (sampleService .onPrem (by decide)).evaluateChecked (sampleRequest "internet-gateway") =
      .ok decision ∧
    decision.allowed = true ∧ .confidential ≤ (sampleRequest "internet-gateway").classification ∧
    externalEgress .onPrem "internet-gateway" ∧ decision.requiredTransformations = [] := by
  refine ⟨_, resolve_sampleService _,
    evaluateChecked_eq_ok.mpr ⟨?_, _, resolve_sampleService _, none, ?_, rfl⟩, ?_, ?_, ?_, ?_⟩
  · decide
  · exact destinationUrl_eq_ok.mpr (by decide)
  · decide
  · decide
  · decide
  · decide

end AgentSphere.DataGovernance
