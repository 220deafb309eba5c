import AgentSphere.Evidence.Chain
import AgentSphere.Orchestrator.Runtime

/-!
# Governed evaluation

The evaluator runtime merges eight gates of its own, read off its input, with the checks a domain
plugin returns, and passes only if all of them do. The merge is by name and the plugin's checks
come last, so that a check under the name of a gate takes its place.
-/

namespace AgentSphere.Evidence

open Orchestrator (EvaluationStatus EvaluationResult)

structure EvaluationInput where
  tenantId : TenantId
  taskId : TaskId
  identityValid : Bool
  toolRegistered : Bool
  policyAllowed : Bool
  approvalSatisfied : Bool
  credentialValid : Bool
  traceComplete : Bool
  ledgerTerminalKnown : Bool
  unhandledHighRiskAlerts : Nat
  evidenceRefs : List ArtifactRef
  domainInput : Value

structure DomainEvaluation where
  checks : BTreeMap String Bool
  scoreMillionths : Nat
  findings : List String
  evidenceRefs : List ArtifactRef
  uncertain : Bool

structure EvaluatorManifest where
  evaluatorId : String
  version : String
  implementationDigest : String
  calibrationDatasetRef : String
  maximumRuntimeMs : Nat
  signerKeyId : String
  signature : String

structure DomainEvaluatorPlugin where
  manifest : EvaluatorManifest
  evaluate : Value → Option (Except EvidenceError DomainEvaluation)

def validateManifest (manifest : EvaluatorManifest) : Except EvidenceError Unit :=
  if manifest.evaluatorId.isEmpty ∨ manifest.version.isEmpty ∨
      manifest.calibrationDatasetRef.isEmpty ∨ manifest.maximumRuntimeMs = 0 ∨
      manifest.maximumRuntimeMs > 60000 ∨
      ¬ "sha256:".toList.isPrefixOf manifest.implementationDigest.toList then
    .error .evaluationInvalid
  else .ok ()

def coreGates (input : EvaluationInput) : List (String × Bool) :=
  [("identity_valid", input.identityValid),
    ("tool_registered", input.toolRegistered),
    ("policy_allowed", input.policyAllowed),
    ("approval_satisfied", input.approvalSatisfied),
    ("credential_valid", input.credentialValid),
    ("trace_complete", input.traceComplete),
    ("ledger_terminal_known", input.ledgerTerminalKnown),
    ("no_unhandled_high_risk_alerts", input.unhandledHighRiskAlerts == 0)]

def hardGates (input : EvaluationInput) (domain : DomainEvaluation) : BTreeMap String Bool :=
  (Std.ExtTreeMap.ofList (coreGates input) compare) ∪ domain.checks

def allPass (gates : BTreeMap String Bool) : Bool := gates.toList.all fun gate => gate.2

namespace EvaluatorRuntime

def statusOf (allPass uncertain : Bool) : EvaluationStatus :=
  if allPass && !uncertain then .pass
  else if uncertain then .needsHuman
  else .fail

@[simp] theorem statusOf_eq_pass {allPass uncertain : Bool} :
    statusOf allPass uncertain = .pass ↔ allPass = true ∧ uncertain = false := by
  cases allPass <;> cases uncertain <;> simp [statusOf]

def conclude (manifest : EvaluatorManifest) (input : EvaluationInput) (domain : DomainEvaluation)
    (now : DateTime) : Except EvidenceError EvaluationResult :=
  let gates := hardGates input domain
  let status := statusOf (allPass gates) domain.uncertain
  let evidenceRefs := input.evidenceRefs ++ domain.evidenceRefs
  if evidenceRefs.isEmpty ∧ status = .pass then .error .chainIncomplete
  else
    .ok
      { schemaVersion := "agenttrust.evaluation.v1"
        status
        scoreMillionths := min domain.scoreMillionths 1000000
        hardGateResults := gates
        findings := domain.findings
        evidenceRefs
        evaluatorId := manifest.evaluatorId
        evaluatorVersion := manifest.version
        evaluatedAt := now }

def evaluate (plugin : DomainEvaluatorPlugin) (input : EvaluationInput) (now : DateTime) :
    Except EvidenceError EvaluationResult :=
  match validateManifest plugin.manifest with
  | .error error => .error error
  | .ok () =>
    match plugin.evaluate input.domainInput with
    | none => .error .evaluatorTimeout
    | some (.error error) => .error error
    | some (.ok domain) => conclude plugin.manifest input domain now

end EvaluatorRuntime

def Undisturbed (input : EvaluationInput) (domain : DomainEvaluation) : Prop :=
  ∀ gate ∈ coreGates input, ∀ value, domain.checks[gate.1]? = some value → value = gate.2

/-- There is no evidence for what would pass: every check holds, and so does every gate that no
check takes the place of. -/
def Withheld (input : EvaluationInput) (domain : DomainEvaluation) : Prop :=
  input.evidenceRefs = [] ∧ domain.evidenceRefs = [] ∧ domain.uncertain = false ∧
    (∀ (name : String) value, domain.checks[name]? = some value → value = true) ∧
    ∀ gate ∈ coreGates input, domain.checks[gate.1]? = none → gate.2 = true

/-! ### The merged gates -/

section Gates

variable {input : EvaluationInput} {domain : DomainEvaluation}

theorem allPass_iff {gates : BTreeMap String Bool} :
    allPass gates = true ↔ ∀ (name : String) value, gates[name]? = some value → value = true := by
  rw [allPass, List.all_eq_true]
  constructor
  · intro h name value hvalue
    exact h (name, value) (Std.ExtTreeMap.mem_toList_iff_getElem?_eq_some.mpr hvalue)
  · intro h gate hgate
    exact h gate.1 gate.2 (Std.ExtTreeMap.mem_toList_iff_getElem?_eq_some.mp hgate)

theorem getElem?_hardGates (name : String) :
    (hardGates input domain)[name]? =
      domain.checks[name]?.or (Std.ExtTreeMap.ofList (coreGates input) compare)[name]? :=
  Std.ExtTreeMap.getElem?_union

theorem getElem?_coreGates {gate : String × Bool} (h : gate ∈ coreGates input) :
    (Std.ExtTreeMap.ofList (coreGates input) compare)[gate.1]? = some gate.2 := by
  refine Std.ExtTreeMap.getElem?_ofList_of_mem Std.ReflCmp.compare_self ?_ h
  simp [coreGates]

theorem mem_coreGates {name : String} {value : Bool}
    (h : (Std.ExtTreeMap.ofList (coreGates input) compare)[name]? = some value) :
    (name, value) ∈ coreGates input := by
  by_cases hname : name ∈ (coreGates input).map Prod.fst
  · obtain ⟨gate, hgate, rfl⟩ := List.mem_map.mp hname
    rw [getElem?_coreGates hgate] at h
    obtain rfl := Option.some.inj h
    exact hgate
  · rw [Std.ExtTreeMap.getElem?_ofList_of_contains_eq_false] at h
    · cases h
    · rw [List.contains_eq_mem]
      exact decide_eq_false hname

theorem undisturbed_iff :
    Undisturbed input domain ↔
      ∀ gate ∈ coreGates input, (hardGates input domain)[gate.1]? = some gate.2 := by
  constructor
  · intro h gate hgate
    rw [getElem?_hardGates, getElem?_coreGates hgate]
    cases hcheck : domain.checks[gate.1]? with
    | none => rfl
    | some value => rw [Option.some_or, h gate hgate value hcheck]
  · intro h gate hgate value hvalue
    have hgates := h gate hgate
    rw [getElem?_hardGates, hvalue, Option.some_or] at hgates
    exact Option.some.inj hgates

theorem allPass_hardGates :
    allPass (hardGates input domain) = true ↔
      (∀ (name : String) value, domain.checks[name]? = some value → value = true) ∧
        ∀ gate ∈ coreGates input, domain.checks[gate.1]? = none → gate.2 = true := by
  rw [allPass_iff]
  constructor
  · intro h
    refine ⟨fun name value hvalue => h name value ?_, fun gate hgate hnone => h gate.1 gate.2 ?_⟩
    · rw [getElem?_hardGates, hvalue, Option.some_or]
    · rw [getElem?_hardGates, hnone, getElem?_coreGates hgate, Option.none_or]
  · rintro ⟨hchecks, hcore⟩ name value hvalue
    rw [getElem?_hardGates] at hvalue
    cases hcheck : domain.checks[name]? with
    | none =>
      rw [hcheck, Option.none_or] at hvalue
      exact hcore (name, value) (mem_coreGates hvalue) hcheck
    | some check =>
      rw [hcheck, Option.some_or] at hvalue
      obtain rfl := Option.some.inj hvalue
      exact hchecks name check hcheck

end Gates

/-! ### Evaluations -/

namespace EvaluatorRuntime

variable {manifest : EvaluatorManifest} {input : EvaluationInput} {domain : DomainEvaluation}
  {now : DateTime}

theorem conclude_eq_error {error : EvidenceError} :
    conclude manifest input domain now = .error error ↔
      error = .chainIncomplete ∧ Withheld input domain := by
  unfold conclude Withheld
  rw [← allPass_hardGates]
  simp only [List.isEmpty_iff, List.append_eq_nil_iff, statusOf_eq_pass]
  split
  · next hwithheld =>
    obtain ⟨⟨hinput, hdomain⟩, hall, huncertain⟩ := hwithheld
    simp [hinput, hdomain, hall, huncertain, eq_comm]
  · next hshown =>
    constructor
    · intro h
      cases h
    · rintro ⟨-, hinput, hdomain, huncertain, hall⟩
      exact absurd ⟨⟨hinput, hdomain⟩, hall, huncertain⟩ hshown

theorem conclude_eq_ok {result : EvaluationResult}
    (h : conclude manifest input domain now = .ok result) :
    result.hardGateResults = hardGates input domain ∧
      result.evidenceRefs = input.evidenceRefs ++ domain.evidenceRefs ∧
      (result.status = .pass → allPass (hardGates input domain) = true ∧
        domain.uncertain = false ∧ result.evidenceRefs ≠ []) := by
  unfold conclude at h
  simp only [List.isEmpty_iff, statusOf_eq_pass] at h
  split at h
  · cases h
  · next hshown =>
    cases h
    refine ⟨rfl, rfl, fun hpass => ?_⟩
    obtain ⟨hall, huncertain⟩ := statusOf_eq_pass.mp hpass
    exact ⟨hall, huncertain, fun hnone => hshown ⟨hnone, hall, huncertain⟩⟩

theorem evaluate_eq_ok {plugin : DomainEvaluatorPlugin} {result : EvaluationResult} :
    evaluate plugin input now = .ok result ↔
      validateManifest plugin.manifest = .ok () ∧
        ∃ domain, plugin.evaluate input.domainInput = some (.ok domain) ∧
          conclude plugin.manifest input domain now = .ok result := by
  unfold evaluate
  cases validateManifest plugin.manifest with
  | error error => simp
  | ok _ =>
    cases plugin.evaluate input.domainInput with
    | none => simp
    | some answer =>
      cases answer with
      | error error => simp
      | ok domain => simp

end EvaluatorRuntime

open EvaluatorRuntime

/-- An evaluation passes only if everything does, and reports the gates of its input, exactly if no
check of the plugin takes the place of a gate. -/
theorem gates_reported (plugin : DomainEvaluatorPlugin) (input : EvaluationInput)
    (now : DateTime) :
    (∀ result domain, plugin.evaluate input.domainInput = some (.ok domain) →
      evaluate plugin input now = .ok result →
      (result.status = .pass →
        input.identityValid = true ∧ input.toolRegistered = true ∧ input.policyAllowed = true ∧
        input.approvalSatisfied = true ∧ input.credentialValid = true ∧
        input.traceComplete = true ∧ input.ledgerTerminalKnown = true ∧
        input.unhandledHighRiskAlerts = 0 ∧
        (∀ (name : String) value, domain.checks[name]? = some value → value = true) ∧
        domain.uncertain = false ∧ input.evidenceRefs ++ domain.evidenceRefs ≠ []) ∧
      ∀ gate ∈ coreGates input, result.hardGateResults[gate.1]? = some gate.2) ↔
    (validateManifest plugin.manifest ≠ .ok () ∨
      ∀ domain, plugin.evaluate input.domainInput = some (.ok domain) →
        Undisturbed input domain ∨ Withheld input domain) := by
  constructor
  · intro h
    by_cases hmanifest : validateManifest plugin.manifest = .ok ()
    · refine .inr fun domain hdomain => ?_
      cases hresult : conclude plugin.manifest input domain now with
      | error error => exact .inr (conclude_eq_error.mp hresult).2
      | ok result =>
        have heval := evaluate_eq_ok.mpr ⟨hmanifest, domain, hdomain, hresult⟩
        obtain ⟨-, hgates⟩ := h result domain hdomain heval
        rw [(conclude_eq_ok hresult).1] at hgates
        exact .inl (undisturbed_iff.mpr hgates)
    · exact .inl hmanifest
  · intro h result domain hdomain heval
    obtain ⟨hmanifest, domain', hdomain', hresult⟩ := evaluate_eq_ok.mp heval
    obtain rfl : domain = domain' := by
      rw [hdomain] at hdomain'
      exact Except.ok.inj (Option.some.inj hdomain')
    have hundisturbed : Undisturbed input domain := by
      obtain hrefused | hcondition := h
      · exact absurd hmanifest hrefused
      · refine (hcondition domain hdomain).resolve_right fun hwithheld => ?_
        have herror : conclude plugin.manifest input domain now = .error .chainIncomplete :=
          conclude_eq_error.mpr ⟨rfl, hwithheld⟩
        rw [herror] at hresult
        cases hresult
    obtain ⟨hgates, hrefs, hpass⟩ := conclude_eq_ok hresult
    have hreported := undisturbed_iff.mp hundisturbed
    refine ⟨fun hstatus => ?_, by rw [hgates]; exact hreported⟩
    obtain ⟨hall, huncertain, hevidence⟩ := hpass hstatus
    have hcore : ∀ gate ∈ coreGates input, gate.2 = true := fun gate hgate =>
      allPass_iff.mp hall gate.1 gate.2 (hreported gate hgate)
    rw [hrefs] at hevidence
    simp only [coreGates, List.forall_mem_cons, List.not_mem_nil, false_implies, implies_true,
      and_true, beq_iff_eq] at hcore
    obtain ⟨hidentity, htool, hpolicy, happroval, hcredential, htrace, hledger, halerts⟩ := hcore
    exact ⟨hidentity, htool, hpolicy, happroval, hcredential, htrace, hledger, halerts,
      (allPass_hardGates.mp hall).1, huncertain, hevidence⟩

def samplePlugin : DomainEvaluatorPlugin where
  manifest :=
    { evaluatorId := "coding", version := "1", implementationDigest := "sha256:a"
      calibrationDatasetRef := "dataset:1", maximumRuntimeMs := 1000, signerKeyId := "key"
      signature := "signature" }
  evaluate _ :=
    some (.ok
      { checks := (∅ : BTreeMap String Bool).insert "approval_satisfied" true
        scoreMillionths := 900000, findings := [], evidenceRefs := ["artifact:compile"]
        uncertain := false })

def sampleInput : EvaluationInput where
  tenantId := "tenant-a"
  taskId := "task-a"
  identityValid := true
  toolRegistered := true
  policyAllowed := true
  approvalSatisfied := false
  credentialValid := true
  traceComplete := true
  ledgerTerminalKnown := true
  unhandledHighRiskAlerts := 0
  evidenceRefs := []
  domainInput := .null

theorem missing_approval_passes :
    sampleInput.approvalSatisfied = false ∧
      ((evaluate samplePlugin sampleInput 0).toOption.map fun result =>
        (result.status, result.hardGateResults["approval_satisfied"]?)) =
        some (.pass, some true) := by
  decide

end AgentSphere.Evidence
