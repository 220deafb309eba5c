import AgentSphere.ActionIr.Normalization
import AgentSphere.Anomaly.Normalization
import AgentSphere.Anomaly.Response

/-!
# Detection by rules

`evaluate` goes over the signals of a window. By itself a signal falls under the first rule of a
cascade that fits its kind and the markers in its text, or its resource; then three rules look at
the signals of one kind together. Two of them count these signals. The third counts destinations,
and is quiet as soon as a single one of the transfers is not small: a large transfer to anywhere
hides the small ones.
-/

namespace AgentSphere.Anomaly

open ActionIr (startsWith)

structure Rule where
  id : String
  severity : RiskLevel
  reason : String
  deriving DecidableEq

/-- A detector, as `new` admits it. -/
structure RuleDetector where
  ruleVersion : String
  slowExfiltrationDistinctDomains : Nat
  repeatedSideEffectLimit : Nat
  someVersion : ruleVersion ≠ ""
  twoDomains : 2 ≤ slowExfiltrationDistinctDomains
  twoEffects : 2 ≤ repeatedSideEffectLimit

structure FindingInput where
  ruleId : String
  version : String
  severity : RiskLevel
  deterministic : Bool
  confidence : Nat
  eventIds : BTreeSet String
  reason : String

def finding (state : TrajectoryState) (findingId : String) (input : FindingInput) :
    RiskFinding where
  schemaVersion := anomalySchemaVersion
  findingId
  tenantId := state.tenantId
  taskId := state.taskId
  ruleId := input.ruleId
  ruleVersion := input.version
  severity := input.severity
  deterministic := input.deterministic
  confidenceMillionths := min input.confidence 1000000
  evidenceEventIds := input.eventIds
  safeReason := input.reason

/-- `str::parse::<u64>`. -/
def parseU64 (text : String) : Option Nat :=
  let digits :=
    match text.toList with
    | '+' :: digits => digits
    | digits => digits
  if digits ≠ [] ∧ digits.all Char.isDigit then
    let n := digits.foldl (fun n digit => 10 * n + (digit.toNat - 48)) 0
    if n < 2 ^ 64 then some n else none
  else none

/-- `Value::as_u64`: a number is kept as its text. -/
def asU64 : Value → Option Nat
  | .number n => parseU64 n.text
  | _ => none

-- The rules

def sandboxMarkers : List String :=
  ["setns", "ptrace", "docker.sock", "host namespace", "mount host", "sandbox escape"]

def approvalMarkers : List String := ["bypass", "forge", "self approve", "disable"]

def ruleFor (state : TrajectoryState) (signal : RiskSignal) : Option Rule :=
  let normalized := normalizedSignalText signal
  if signal.kind = .network ∧ (containsText normalized "169.254.169.254" = true ∨
      containsText normalized "metadata.google.internal" = true) then
    some ⟨"RUNTIME_METADATA_SSRF", .critical, "metadata endpoint access"⟩
  else if signal.kind = .file ∧ (containsText normalized "/etc/shadow" = true ∨
      containsText normalized "/var/run/docker.sock" = true ∨
      containsText normalized "../" = true) then
    some ⟨"RUNTIME_HOST_PATH", .critical, "host or traversal path access"⟩
  else if signal.kind = .auditControl ∧ containsText normalized "disable" = true then
    some ⟨"RUNTIME_AUDIT_SUPPRESSION", .critical, "audit suppression attempt"⟩
  else if signal.kind = .credential ∧ (containsText normalized "write" = true ∨
      containsText normalized "copy" = true ∨ containsText normalized "network" = true) then
    some ⟨"RUNTIME_CREDENTIAL_MOVEMENT", .critical, "credential movement"⟩
  else if signal.kind = .process ∧ containsText normalized "unregistered" = true then
    some ⟨"RUNTIME_UNREGISTERED_EXECUTOR", .high, "unregistered executor"⟩
  else if signal.kind = .process ∧ sandboxMarkers.any (containsText normalized) = true then
    some ⟨"RUNTIME_SANDBOX_EVASION", .critical, "sandbox or namespace evasion"⟩
  else if signal.kind = .approval ∧ approvalMarkers.any (containsText normalized) = true then
    some ⟨"RUNTIME_APPROVAL_BYPASS", .critical, "approval control bypass"⟩
  else if signal.kind = .resource ∧ ¬ state.allowedResourcePrefixes.toList.any
      (startsWith signal.resource) = true then
    some ⟨"RUNTIME_SCOPE_EXPANSION", .high, "resource outside signed plan"⟩
  else if signal.kind = .network ∧
      ¬ state.allowedNetworkDestinations.contains signal.resource = true then
    some ⟨"RUNTIME_NETWORK_EXPANSION", .high, "network destination outside plan"⟩
  else none

def evidence (signals : List RiskSignal) : BTreeSet String :=
  Std.ExtTreeSet.ofList (signals.map (·.eventId)) compare

def effectEvents (signals : List RiskSignal) : List RiskSignal :=
  signals.filter fun signal => signal.kind = .tool ∧ signal.action = "SIDE_EFFECT"

def networkSignals (signals : List RiskSignal) : List RiskSignal :=
  signals.filter fun signal => signal.kind = .network

def domains (signals : List RiskSignal) : BTreeSet String :=
  Std.ExtTreeSet.ofList ((networkSignals signals).map (·.resource)) compare

def isSmall (signal : RiskSignal) : Bool := (asU64 signal.value).any fun bytes => bytes ≤ 4096

def policyDenies (signals : List RiskSignal) : List RiskSignal :=
  signals.filter fun signal => signal.kind = .policyDeny

namespace RuleDetector

variable (self : RuleDetector)

def ruleInput (signal : RiskSignal) (rule : Rule) : FindingInput where
  ruleId := rule.id
  version := self.ruleVersion
  severity := rule.severity
  deterministic := true
  confidence := 1000000
  eventIds := evidence [signal]
  reason := rule.reason

def signalInput (state : TrajectoryState) (signal : RiskSignal) : Option FindingInput :=
  (ruleFor state signal).map (self.ruleInput signal)

def repeatedSideEffect (signals : List RiskSignal) : Option FindingInput :=
  if self.repeatedSideEffectLimit ≤ (effectEvents signals).length then
    some
      { ruleId := "RUNTIME_REPEATED_SIDE_EFFECT", version := self.ruleVersion, severity := .high
        deterministic := true, confidence := 1000000, eventIds := evidence (effectEvents signals)
        reason := "repeated side effect pattern" }
  else none

def slowExfiltration (signals : List RiskSignal) : Option FindingInput :=
  if self.slowExfiltrationDistinctDomains ≤ (domains signals).size ∧
      (networkSignals signals).all isSmall then
    some
      { ruleId := "RUNTIME_SLOW_EXFILTRATION", version := self.ruleVersion, severity := .high
        deterministic := true, confidence := 950000, eventIds := evidence (networkSignals signals)
        reason := "small transfers across many destinations" }
  else none

def repeatedPolicyDeny (signals : List RiskSignal) : Option FindingInput :=
  if self.repeatedSideEffectLimit ≤ (policyDenies signals).length then
    some
      { ruleId := "RUNTIME_REPEATED_POLICY_DENY", version := self.ruleVersion, severity := .high
        deterministic := true, confidence := 950000, eventIds := evidence (policyDenies signals)
        reason := "repeated denied behavior" }
  else none

def inputs (state : TrajectoryState) (signals : List RiskSignal) : List FindingInput :=
  signals.filterMap (self.signalInput state) ++ (self.repeatedSideEffect signals).toList ++
    (self.slowExfiltration signals).toList ++ (self.repeatedPolicyDeny signals).toList

/-- `evaluate`; the identifier of each finding is drawn. -/
def evaluate (draw : Nat → String) (state : TrajectoryState) (signals : List RiskSignal) :
    List RiskFinding :=
  (self.inputs state signals).mapIdx fun i input => finding state (draw i) input

end RuleDetector

-- Reported rules

def ruleIds (findings : List RiskFinding) : List String := findings.map (·.ruleId)

def reported (findings : List RiskFinding) : List (String × BTreeSet String) :=
  findings.map fun found => (found.ruleId, found.evidenceEventIds)

section Reported

variable {detector : RuleDetector} {draw draw' draw'' : Nat → String} {state : TrajectoryState}
  {signal : RiskSignal} {signals others more : List RiskSignal} {ruleId : String}

def SlowExfiltration (detector : RuleDetector) (signals : List RiskSignal) : Prop :=
  detector.slowExfiltrationDistinctDomains ≤ (domains signals).size ∧
    ∀ signal ∈ signals, signal.kind = .network → isSmall signal = true

theorem map_evaluate {β : Type} {project : RiskFinding → β} {ofInput : FindingInput → β}
    (h : ∀ id input, project (finding state id input) = ofInput input) :
    (detector.evaluate draw state signals).map project =
      (detector.inputs state signals).map ofInput := by
  rw [RuleDetector.evaluate, List.mapIdx_eq_zipIdx_map, List.map_map]
  have hproject : project ∘ (fun x : FindingInput × Nat => finding state (draw x.2) x.1) =
      ofInput ∘ Prod.fst := by
    funext x
    exact h (draw x.2) x.1
  rw [hproject, ← List.map_map, List.zipIdx_map_fst]

theorem ruleIds_evaluate :
    ruleIds (detector.evaluate draw state signals) =
      (detector.inputs state signals).map (·.ruleId) :=
  map_evaluate fun _ _ => rfl

theorem reported_evaluate :
    reported (detector.evaluate draw state signals) =
      (detector.inputs state signals).map fun input => (input.ruleId, input.eventIds) :=
  map_evaluate fun _ _ => rfl

theorem reported_of_rule {rule : Rule} (hrule : ruleFor state signal = some rule)
    (hsignal : signal ∈ signals) :
    (rule.id, evidence [signal]) ∈ reported (detector.evaluate draw state signals) := by
  have hinput : detector.signalInput state signal = some (detector.ruleInput signal rule) := by
    rw [RuleDetector.signalInput, hrule]
    rfl
  have hmem : detector.ruleInput signal rule ∈ detector.inputs state signals := by
    simp only [RuleDetector.inputs, List.append_assoc]
    exact List.mem_append_left _ (List.mem_filterMap.mpr ⟨signal, hsignal, hinput⟩)
  rw [reported_evaluate]
  exact List.mem_map.mpr ⟨_, hmem, rfl⟩

theorem all_isSmall_iff :
    (networkSignals signals).all isSmall = true ↔
      ∀ signal ∈ signals, signal.kind = .network → isSmall signal = true := by
  simp only [networkSignals, List.all_eq_true, List.mem_filter, decide_eq_true_eq, and_imp]

theorem mem_found {condition : Prop} [Decidable condition] {input : FindingInput} :
    ruleId ∈ (if condition then some input else none).toList.map (·.ruleId) ↔
      condition ∧ ruleId = input.ruleId := by
  by_cases h : condition
  · simp [h]
  · simp [h]

/-- **Which rules are reported.** -/
theorem mem_ruleIds_evaluate :
    ruleId ∈ ruleIds (detector.evaluate draw state signals) ↔
      (∃ signal ∈ signals, ∃ rule, ruleFor state signal = some rule ∧ rule.id = ruleId) ∨
      (detector.repeatedSideEffectLimit ≤ (effectEvents signals).length ∧
        ruleId = "RUNTIME_REPEATED_SIDE_EFFECT") ∨
      (SlowExfiltration detector signals ∧ ruleId = "RUNTIME_SLOW_EXFILTRATION") ∨
      (detector.repeatedSideEffectLimit ≤ (policyDenies signals).length ∧
        ruleId = "RUNTIME_REPEATED_POLICY_DENY") := by
  rw [ruleIds_evaluate, RuleDetector.inputs]
  simp only [List.map_append, List.mem_append, or_assoc]
  refine or_congr ?_ (or_congr ?_ (or_congr ?_ ?_))
  · simp only [List.mem_map, List.mem_filterMap, RuleDetector.signalInput, Option.map_eq_some_iff]
    constructor
    · rintro ⟨input, ⟨signal, hsignal, rule, hrule, rfl⟩, rfl⟩
      exact ⟨signal, hsignal, rule, hrule, rfl⟩
    · rintro ⟨signal, hsignal, rule, hrule, rfl⟩
      exact ⟨_, ⟨signal, hsignal, rule, hrule, rfl⟩, rfl⟩
  · exact mem_found
  · rw [SlowExfiltration, ← all_isSmall_iff]
    exact mem_found
  · exact mem_found

theorem ruleFor_id_ne {rule : Rule} (h : ruleFor state signal = some rule) :
    rule.id ≠ "RUNTIME_SLOW_EXFILTRATION" := by
  rw [ruleFor] at h
  split_ifs at h
  all_goals
    obtain rfl := Option.some.inj h
    decide

theorem slow_mem_iff :
    "RUNTIME_SLOW_EXFILTRATION" ∈ ruleIds (detector.evaluate draw state signals) ↔
      SlowExfiltration detector signals := by
  rw [mem_ruleIds_evaluate]
  constructor
  · rintro (⟨signal, -, rule, hrule, hid⟩ | ⟨-, hid⟩ | ⟨hslow, -⟩ | ⟨-, hid⟩)
    · exact absurd hid (ruleFor_id_ne hrule)
    · exact absurd hid (by decide)
    · exact hslow
    · exact absurd hid (by decide)
  · exact fun hslow => .inr (.inr (.inl ⟨hslow, rfl⟩))

theorem mem_domains {destination : String} :
    destination ∈ domains signals ↔
      ∃ signal ∈ signals, signal.kind = .network ∧ signal.resource = destination := by
  rw [domains, Std.ExtTreeSet.mem_ofList, List.contains_iff_mem, networkSignals]
  simp only [List.mem_map, List.mem_filter, decide_eq_true_eq, and_assoc]

theorem size_le_of_subset {set larger : BTreeSet String} (h : ∀ item ∈ set, item ∈ larger) :
    set.size ≤ larger.size := by
  rw [← Std.ExtTreeSet.length_toList, ← Std.ExtTreeSet.length_toList]
  refine List.Subperm.length_le (List.subperm_of_subset ?_ fun item hitem => ?_)
  · refine Std.ExtTreeSet.distinct_toList.imp fun hne heq => hne ?_
    exact Std.compare_eq_iff_eq.mpr heq
  · exact Std.ExtTreeSet.mem_toList.mpr (h item (Std.ExtTreeSet.mem_toList.mp hitem))

theorem SlowExfiltration.mono (h : SlowExfiltration detector signals) (hsub : signals ⊆ more)
    (hsmall : ∀ signal ∈ more, signal.kind = .network → isSmall signal = true) :
    SlowExfiltration detector more := by
  refine ⟨h.1.trans (size_le_of_subset fun destination hmem => ?_), hsmall⟩
  obtain ⟨signal, hsignal, hdestination⟩ := mem_domains.mp hmem
  exact mem_domains.mpr ⟨signal, hsub hsignal, hdestination⟩

theorem reported_mono (hsub : signals.Sublist more)
    (hslow : SlowExfiltration detector signals → SlowExfiltration detector more)
    (h : ruleId ∈ ruleIds (detector.evaluate draw state signals)) :
    ruleId ∈ ruleIds (detector.evaluate draw' state more) := by
  rw [mem_ruleIds_evaluate] at h ⊢
  obtain ⟨signal, hsignal, hrule⟩ | ⟨hcount, hid⟩ | ⟨hreported, hid⟩ | ⟨hcount, hid⟩ := h
  · exact .inl ⟨signal, hsub.subset hsignal, hrule⟩
  · exact .inr (.inl ⟨hcount.trans (hsub.filter _).length_le, hid⟩)
  · exact .inr (.inr (.inl ⟨hslow hreported, hid⟩))
  · exact .inr (.inr (.inr ⟨hcount.trans (hsub.filter _).length_le, hid⟩))

/-- **When further signals hide no rule**: the small transfers are not reported anyway, since there
are too few destinations or a large transfer among them, or no large transfer is added. -/
theorem detection_monotone_iff (detector : RuleDetector) (draw draw' draw'' : Nat → String)
    (state : TrajectoryState) (signals others : List RiskSignal) :
    (∀ ruleId ∈ ruleIds (detector.evaluate draw state signals),
        ruleId ∈ ruleIds (detector.evaluate draw' state (signals ++ others)) ∧
        ruleId ∈ ruleIds (detector.evaluate draw'' state (others ++ signals))) ↔
      (domains signals).size < detector.slowExfiltrationDistinctDomains ∨
      (∃ signal ∈ signals, signal.kind = .network ∧ isSmall signal = false) ∨
      ∀ signal ∈ others, signal.kind = .network → isSmall signal = true := by
  constructor
  · intro hmono
    by_cases hslow : SlowExfiltration detector signals
    · obtain ⟨hafter, -⟩ := hmono _ (slow_mem_iff.mpr hslow)
      obtain ⟨-, hsmall⟩ := slow_mem_iff.mp hafter
      exact .inr (.inr fun signal hsignal => hsmall signal (List.mem_append_right _ hsignal))
    · by_cases hfew : (domains signals).size < detector.slowExfiltrationDistinctDomains
      · exact .inl hfew
      · refine .inr (.inl ?_)
        by_contra hnone
        refine hslow ⟨Nat.le_of_not_lt hfew, fun signal hsignal hkind => ?_⟩
        by_contra hlarge
        exact hnone ⟨signal, hsignal, hkind, Bool.eq_false_of_not_eq_true hlarge⟩
  · intro hwhen ruleId hreported
    have hslow : ∀ more : List RiskSignal, signals ⊆ more →
        (∀ signal ∈ more, signal ∈ signals ∨ signal ∈ others) →
        SlowExfiltration detector signals → SlowExfiltration detector more := by
      rintro more hsub hmore hslow
      refine hslow.mono hsub fun signal hsignal hkind => ?_
      obtain hfew | ⟨large, hlarge, hnetwork, hsize⟩ | hothers := hwhen
      · exact absurd hslow.1 (Nat.not_le.mpr hfew)
      · rw [hslow.2 large hlarge hnetwork] at hsize
        cases hsize
      · obtain hold | hnew := hmore signal hsignal
        · exact hslow.2 signal hold hkind
        · exact hothers signal hnew hkind
    constructor
    · refine reported_mono (List.sublist_append_left ..) (hslow _ ?_ ?_) hreported
      · exact List.subset_append_left ..
      · exact fun signal => List.mem_append.mp
    · refine reported_mono (List.sublist_append_right ..) (hslow _ ?_ ?_) hreported
      · exact List.subset_append_right ..
      · exact fun signal hsignal => (List.mem_append.mp hsignal).symm

end Reported

-- A large transfer

def transfer (resource bytes : String) : RiskSignal :=
  { sampleSignal with kind := .network, resource, value := .number ⟨bytes⟩ }

def sampleDetector : RuleDetector where
  ruleVersion := "rules:v1"
  slowExfiltrationDistinctDomains := 2
  repeatedSideEffectLimit := 2
  someVersion := by decide
  twoDomains := le_rfl
  twoEffects := le_rfl

/-- Two small transfers to two destinations, and a large one that hides them. -/
theorem large_transfer_hides :
    ¬ ∀ (detector : RuleDetector) (draw draw' draw'' : Nat → String) (state : TrajectoryState)
      (signals others : List RiskSignal),
      ∀ ruleId ∈ ruleIds (detector.evaluate draw state signals),
        ruleId ∈ ruleIds (detector.evaluate draw' state (signals ++ others)) ∧
        ruleId ∈ ruleIds (detector.evaluate draw'' state (others ++ signals)) := by
  intro hmonotone
  have hslow : SlowExfiltration sampleDetector
      [transfer "outside-a.example" "128", transfer "outside-b.example" "128"] := by
    refine ⟨?_, by decide⟩
    have hdomains : (domains
        [transfer "outside-a.example" "128", transfer "outside-b.example" "128"]).toList =
          ["outside-a.example", "outside-b.example"] := by decide
    rw [← Std.ExtTreeSet.length_toList, hdomains]
    exact le_rfl
  obtain ⟨hafter, -⟩ := hmonotone sampleDetector (fun _ => "") (fun _ => "") (fun _ => "")
    (TrajectoryMonitor.fresh sampleStart 0).state
    [transfer "outside-a.example" "128", transfer "outside-b.example" "128"]
    [transfer "outside-a.example" "5000"] _ (slow_mem_iff.mpr hslow)
  obtain ⟨-, hsmall⟩ := slow_mem_iff.mp hafter
  have hlarge := hsmall (transfer "outside-a.example" "5000") (by decide) rfl
  exact absurd hlarge (by decide)

end AgentSphere.Anomaly
