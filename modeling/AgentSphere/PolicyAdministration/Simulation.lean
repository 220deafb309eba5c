import AgentSphere.Contracts.Authorization
import AgentSphere.Contracts.Text
import AgentSphere.Lib.Program

/-!
# Simulated policies

A source that the analyzer does not block is compiled to a bundle. The simulation decides an action
by the most restrictive of the rules which match it. A rule matches up to its ceiling of risk, also
one that forbids, so that an action can leave a prohibition behind as its risk rises.
-/

namespace AgentSphere.PolicyAdministration

open Concurrency

inductive PolicyAdminError where
  | canonicalization
  | sourceDenied
  | bundleInvalid

structure SignedPolicyRule where
  ruleId : String
  subjectPattern : String
  toolPattern : String
  resourcePattern : String
  decision : Decision
  maximumRisk : RiskLevel
  reasonCode : String

structure PolicySource where
  schemaVersion : String
  sourceId : String
  tenantId : TenantId
  version : String
  rules : List SignedPolicyRule
  defaultDecision : Decision
  author : String
  sourceDigest : String
  createdAt : DateTime

structure SignedPolicyBundle where
  schemaVersion : String
  bundleId : String
  tenantId : TenantId
  policyId : String
  sourceRevision : Nat
  version : String
  sourceDigest : String
  bundleDigest : String
  rules : List SignedPolicyRule
  defaultDecision : Decision
  reviewIds : BTreeSet String
  keyId : String
  signature : String
  compiledAt : DateTime

structure PolicyAction where
  actionId : String
  tenantId : TenantId
  agentId : String
  subject : String
  tool : String
  resource : String
  risk : RiskLevel

structure DecisionResult where
  actionId : String
  decision : Decision
  reasonCodes : BTreeSet String

structure PolicyCodec (Bytes SigningKey : Type) where
  /-- `serde_jcs::to_vec` of a source and of a bundle. -/
  sourceJcs : PolicySource → Option Bytes
  bundleJcs : SignedPolicyBundle → Option Bytes
  sha256Hex : Bytes → String
  sign : SigningKey → String → String

structure PolicyCompiler (SigningKey : Type) where
  keyId : String
  signingKey : SigningKey
  keyNamed : keyId.isEmpty = false

-- The analyzer

structure StaticFinding where
  code : String
  ruleIds : BTreeSet String
  blocking : Bool

def findingIf (condition : Bool) (code : String) (ruleIds : List String) : List StaticFinding :=
  if condition then [⟨code, Std.ExtTreeSet.ofList ruleIds compare, true⟩] else []

def SignedPolicyRule.isBare (rule : SignedPolicyRule) : Bool :=
  rule.subjectPattern == "*" && rule.toolPattern == "*" && rule.resourcePattern == "*"

def ruleFindings : List SignedPolicyRule → BTreeSet String → List StaticFinding
  | [], _ => []
  | rule :: rules, ids =>
    findingIf (ids.contains rule.ruleId) "DUPLICATE_RULE_ID" [rule.ruleId] ++
      findingIf (rule.decision == .allow && rule.isBare) "OVERBROAD_ALLOW" [rule.ruleId] ++
      findingIf (rule.ruleId.isEmpty || rule.subjectPattern.isEmpty || rule.toolPattern.isEmpty ||
        rule.resourcePattern.isEmpty || rule.reasonCode.isEmpty) "RULE_FIELD_INVALID"
        [rule.ruleId] ++
      ruleFindings rules (ids.insert rule.ruleId)

def conflicts (left right : SignedPolicyRule) : Bool :=
  left.subjectPattern == right.subjectPattern && left.toolPattern == right.toolPattern &&
    left.resourcePattern == right.resourcePattern && left.maximumRisk == right.maximumRisk &&
    left.decision != right.decision

def conflictFindings : List SignedPolicyRule → List StaticFinding
  | [] => []
  | left :: rules =>
    rules.flatMap (fun right =>
      findingIf (conflicts left right) "CONFLICTING_RULES" [left.ruleId, right.ruleId]) ++
      conflictFindings rules

def analyze (source : PolicySource) : List StaticFinding :=
  findingIf (source.defaultDecision == .allow) "DEFAULT_ALLOW_DENIED" [] ++
    (ruleFindings source.rules ∅ ++ conflictFindings source.rules)

-- The compiler

def policyAdminSchemaVersion : String := "agenttrust.policy-admin.v1"

def signedPolicyBundleSchemaVersion : String := "agenttrust.signed-policy-bundle.v1"

def validReasonCode (code : String) : Bool :=
  3 ≤ code.utf8ByteSize && code.utf8ByteSize ≤ 128 && code.toList.head?.any Char.isUpper &&
    code.toList.all fun c => c.isUpper || c.isDigit || c == '_'

namespace SignedPolicyBundle

/-- `validate_unsigned`. -/
def ValidUnsigned (bundle : SignedPolicyBundle) : Prop :=
  bundle.schemaVersion = signedPolicyBundleSchemaVersion ∧ isUuid bundle.bundleId = true ∧
    isUuid bundle.tenantId = true ∧ boundedNonempty bundle.policyId 256 = true ∧
    bundle.sourceRevision ≠ 0 ∧ boundedNonempty bundle.version 128 = true ∧
    isDigest bundle.sourceDigest = true ∧ bundle.rules.isEmpty = false ∧
    bundle.rules.length ≤ 10000 ∧
    (Std.ExtTreeSet.ofList (bundle.rules.map (·.ruleId)) compare).size = bundle.rules.length ∧
    (bundle.rules.all fun rule => boundedNonempty rule.ruleId 256 &&
      boundedNonempty rule.subjectPattern 1024 && boundedNonempty rule.toolPattern 1024 &&
      boundedNonempty rule.resourcePattern 2048 && validReasonCode rule.reasonCode) = true ∧
    bundle.defaultDecision ≠ .allow ∧ 2 ≤ bundle.reviewIds.size ∧ bundle.reviewIds.size ≤ 64 ∧
    (bundle.reviewIds.toList.all fun value => boundedNonempty value 256) = true ∧
    boundedNonempty bundle.keyId 128 = true ∧ isPathToken bundle.keyId = true

instance (bundle : SignedPolicyBundle) : Decidable bundle.ValidUnsigned :=
  inferInstanceAs (Decidable (_ ∧ _))

variable {Bytes SigningKey : Type}

def computeDigest (codec : PolicyCodec Bytes SigningKey) (bundle : SignedPolicyBundle) :
    Except ContractError String :=
  match codec.bundleJcs { bundle with bundleDigest := "", signature := "" } with
  | none => .error .canonicalization
  | some bytes => .ok (codec.sha256Hex bytes)

def sign (codec : PolicyCodec Bytes SigningKey) (bundle : SignedPolicyBundle) (key : SigningKey) :
    Except ContractError SignedPolicyBundle := do
  require bundle.ValidUnsigned .scopeExceeded
  let digest ← bundle.computeDigest codec
  pure { bundle with bundleDigest := digest, signature := codec.sign key digest }

end SignedPolicyBundle

section Compiler

variable {Bytes SigningKey : Type}

def PolicySource.computeDigest (codec : PolicyCodec Bytes SigningKey) (source : PolicySource) :
    Except PolicyAdminError String :=
  match codec.sourceJcs { source with sourceDigest := "" } with
  | none => .error .canonicalization
  | some bytes => .ok (codec.sha256Hex bytes)

def PolicyCompiler.compileRevision (codec : PolicyCodec Bytes SigningKey)
    (compiler : PolicyCompiler SigningKey) (source : PolicySource) (sourceRevision : Nat)
    (reviewIds : BTreeSet String) (bundleId : String) (compiledAt : DateTime) :
    Except PolicyAdminError SignedPolicyBundle := do
  require (source.schemaVersion = policyAdminSchemaVersion ∧ source.sourceId ≠ "" ∧
    source.author ≠ "" ∧ source.rules.isEmpty = false) .sourceDenied
  let digest ← source.computeDigest codec
  require (source.sourceDigest = digest ∧ sourceRevision ≠ 0 ∧ 2 ≤ reviewIds.size ∧
    (analyze source).all (fun finding => !finding.blocking) = true) .sourceDenied
  let bundle : SignedPolicyBundle :=
    { schemaVersion := signedPolicyBundleSchemaVersion, bundleId, tenantId := source.tenantId,
      policyId := source.sourceId, sourceRevision, version := source.version,
      sourceDigest := source.sourceDigest, bundleDigest := "", rules := source.rules,
      defaultDecision := source.defaultDecision, reviewIds, keyId := compiler.keyId,
      signature := "", compiledAt }
  (bundle.sign codec compiler.signingKey).mapError fun _ => .bundleInvalid

end Compiler

-- The simulation

def patternMatches (pattern value : String) : Bool :=
  pattern == "*" ||
    (pattern.toList.getLast? == some '*' && pattern.toList.dropLast.isPrefixOf value.toList) ||
    pattern == value

def decisionPriority : Decision → Nat
  | .kill => 0
  | .deny => 1
  | .pause => 2
  | .requireApproval => 3
  | .allow => 4

def SignedPolicyRule.applies (rule : SignedPolicyRule) (action : PolicyAction) : Bool :=
  patternMatches rule.subjectPattern action.subject &&
    patternMatches rule.toolPattern action.tool &&
    patternMatches rule.resourcePattern action.resource &&
    action.risk.rank ≤ rule.maximumRisk.rank

/-- The order of `sort_by_key`. -/
def stricter (a b : SignedPolicyRule) : Prop :=
  decisionPriority a.decision ≤ decisionPriority b.decision

instance : DecidableRel stricter :=
  fun a b => inferInstanceAs (Decidable (decisionPriority a.decision ≤ decisionPriority b.decision))

def evaluate (bundle : SignedPolicyBundle) (action : PolicyAction) : DecisionResult :=
  let matched := (bundle.rules.filter (·.applies action)).insertionSort stricter
  { actionId := action.actionId
    decision := (matched.head?.map (·.decision)).getD bundle.defaultDecision
    reasonCodes := Std.ExtTreeSet.ofList (matched.map (·.reasonCode)) compare }

instance : IsTrans SignedPolicyRule stricter := ⟨fun _ _ _ => Nat.le_trans⟩

instance : Std.Total stricter :=
  ⟨fun a b => Nat.le_total (decisionPriority a.decision) (decisionPriority b.decision)⟩

theorem decisionPriority_injective : Function.Injective decisionPriority := by
  intro a b h
  cases a <;> cases b <;> first | rfl | cases h

inductive Decides (bundle : SignedPolicyBundle) (action : PolicyAction) (decision : Decision) : Prop
    where
  | rule (rule : SignedPolicyRule) (hmem : rule ∈ bundle.rules)
    (happlies : rule.applies action = true) (hdecision : rule.decision = decision)
    (hleast : ∀ other ∈ bundle.rules, other.applies action = true →
      decisionPriority decision ≤ decisionPriority other.decision)
  | default (hnone : ∀ rule ∈ bundle.rules, rule.applies action = false)
    (hdecision : decision = bundle.defaultDecision)

section Decisions

variable {bundle : SignedPolicyBundle} {action : PolicyAction} {decision other : Decision}
  {rules : List SignedPolicyRule}

theorem decides_evaluate (bundle : SignedPolicyBundle) (action : PolicyAction) :
    Decides bundle action (evaluate bundle action).decision := by
  have hmem : ∀ rule, rule ∈ (bundle.rules.filter (·.applies action)).insertionSort stricter ↔
      rule ∈ bundle.rules ∧ rule.applies action = true := by
    intro rule
    rw [(List.perm_insertionSort stricter _).mem_iff, List.mem_filter]
  have hsorted := List.pairwise_insertionSort stricter (bundle.rules.filter (·.applies action))
  unfold evaluate
  generalize (bundle.rules.filter (·.applies action)).insertionSort stricter = matched
    at hmem hsorted ⊢
  cases matched with
  | nil =>
    refine .default (fun rule hrule => Bool.eq_false_iff.mpr fun happlies => ?_) rfl
    cases (hmem rule).mpr ⟨hrule, happlies⟩
  | cons first matched =>
    obtain ⟨hrule, happlies⟩ := (hmem first).mp List.mem_cons_self
    refine .rule first hrule happlies rfl fun other hother happlies' => ?_
    rcases List.mem_cons.mp ((hmem other).mpr ⟨hother, happlies'⟩) with rfl | hrest
    · exact le_rfl
    · exact (List.pairwise_cons.mp hsorted).1 other hrest

theorem Decides.unique (h : Decides bundle action decision) (h' : Decides bundle action other) :
    decision = other := by
  cases h with
  | rule rule hmem happlies hdecision hleast =>
    cases h' with
    | rule rule' hmem' happlies' hdecision' hleast' =>
      refine decisionPriority_injective (le_antisymm ?_ ?_)
      · exact hdecision' ▸ hleast rule' hmem' happlies'
      · exact hdecision ▸ hleast' rule hmem happlies
    | default hnone =>
      rw [hnone rule hmem] at happlies
      cases happlies
  | default hnone hdecision =>
    cases h' with
    | rule rule' hmem' happlies' =>
      rw [hnone rule' hmem'] at happlies'
      cases happlies'
    | default hnone' hdecision' => rw [hdecision, hdecision']

theorem decision_perm (hperm : rules.Perm bundle.rules) :
    (evaluate { bundle with rules } action).decision = (evaluate bundle action).decision := by
  have hdecides : Decides bundle action (evaluate { bundle with rules } action).decision := by
    cases decides_evaluate { bundle with rules } action with
    | rule rule hmem happlies hdecision hleast =>
      exact .rule rule (hperm.mem_iff.mp hmem) happlies hdecision fun other hother =>
        hleast other (hperm.mem_iff.mpr hother)
    | default hnone hdecision =>
      exact .default (fun rule hrule => hnone rule (hperm.mem_iff.mpr hrule)) hdecision
  exact hdecides.unique (decides_evaluate bundle action)

theorem applies_raised {rule : SignedPolicyRule} {risk : RiskLevel}
    (hrisk : action.risk.rank ≤ risk.rank) : rule.applies { action with risk } = true ↔
      rule.applies action = true ∧ risk.rank ≤ rule.maximumRisk.rank := by
  simp only [SignedPolicyRule.applies, Bool.and_eq_true, decide_eq_true_eq]
  constructor
  · rintro ⟨hpatterns, hceiling⟩
    exact ⟨⟨hpatterns, hrisk.trans hceiling⟩, hceiling⟩
  · rintro ⟨⟨hpatterns, -⟩, hceiling⟩
    exact ⟨hpatterns, hceiling⟩

theorem decision_raised {risk : RiskLevel} (hrisk : action.risk.rank ≤ risk.rank) :
    decisionPriority (evaluate bundle { action with risk }).decision ≤
      decisionPriority (evaluate bundle action).decision ∨
    (evaluate bundle action).decision ≠ .allow ∧
      (∃ rule ∈ bundle.rules, rule.applies action = true) ∧
      ∀ rule ∈ bundle.rules, rule.applies action = true →
        rule.decision = (evaluate bundle action).decision →
          rule.maximumRisk.rank < risk.rank := by
  have hdecides := decides_evaluate bundle action
  have hraised := decides_evaluate bundle { action with risk }
  generalize (evaluate bundle action).decision = decision at hdecides ⊢
  generalize (evaluate bundle { action with risk }).decision = raised at hraised ⊢
  by_cases hcovered : ∃ rule ∈ bundle.rules, rule.applies action = true ∧
      rule.decision = decision ∧ risk.rank ≤ rule.maximumRisk.rank
  · obtain ⟨rule, hmem, happlies, rfl, hceiling⟩ := hcovered
    have happlies' := (applies_raised hrisk).mpr ⟨happlies, hceiling⟩
    cases hraised with
    | rule rule' hmem' happlies'' hdecision hleast => exact .inl (hleast rule hmem happlies')
    | default hnone =>
      rw [hnone rule hmem] at happlies'
      cases happlies'
  · cases hdecides with
    | rule rule hmem happlies hdecision hleast =>
      by_cases hallow : decision = .allow
      · left
        rw [hallow]
        cases raised <;> decide
      · refine .inr ⟨hallow, ⟨rule, hmem, happlies⟩, fun other hmem' happlies' hdecision' => ?_⟩
        by_contra hceiling
        exact hcovered ⟨other, hmem', happlies', hdecision', Nat.le_of_not_lt hceiling⟩
    | default hnone hdecision =>
      cases hraised with
      | rule rule hmem happlies =>
        have happlies' := ((applies_raised hrisk).mp happlies).1
        rw [hnone rule hmem] at happlies'
        cases happlies'
      | default hnone' hdecision' => exact .inl (by rw [hdecision, hdecision'])

end Decisions

section Compiled

variable {Bytes SigningKey : Type} {codec : PolicyCodec Bytes SigningKey}
  {compiler : PolicyCompiler SigningKey} {source : PolicySource} {sourceRevision : Nat}
  {reviewIds ids : BTreeSet String} {bundleId code : String} {compiledAt : DateTime}
  {bundle : SignedPolicyBundle} {condition : Bool} {ruleIds : List String}
  {rules : List SignedPolicyRule}

theorem findingIf_passes :
    (findingIf condition code ruleIds).all (fun finding => !finding.blocking) = true ↔
      condition = false := by
  unfold findingIf
  cases condition <;> simp

theorem ruleFindings_passes
    (h : (ruleFindings rules ids).all (fun finding => !finding.blocking) = true) :
    ∀ rule ∈ rules, rule.decision = .allow → rule.isBare = false := by
  induction rules generalizing ids with
  | nil => simp
  | cons rule rules ih =>
    simp only [ruleFindings, List.all_append, Bool.and_eq_true, findingIf_passes] at h
    obtain ⟨⟨⟨-, hbare⟩, -⟩, hrest⟩ := h
    refine List.forall_mem_cons.mpr ⟨fun hallow => ?_, ih hrest⟩
    rwa [hallow, beq_self_eq_true, Bool.true_and] at hbare

structure Guarded (bundle : SignedPolicyBundle) : Prop where
  default : bundle.defaultDecision ≠ .allow
  bare : ∀ rule ∈ bundle.rules, rule.decision = .allow → rule.isBare = false

theorem compileRevision_guarded (h : compiler.compileRevision codec source sourceRevision reviewIds
    bundleId compiledAt = .ok bundle) : Guarded bundle := by
  simp only [PolicyCompiler.compileRevision, SignedPolicyBundle.sign, except_bind_eq_ok,
    except_mapError_eq_ok, require_eq_ok] at h
  obtain ⟨-, -, _, -, -, ⟨-, -, -, hpasses⟩, -, -, _, -, heq⟩ := h
  cases heq
  simp only [analyze, List.all_append, Bool.and_eq_true, findingIf_passes] at hpasses
  obtain ⟨hdefault, hrules, -⟩ := hpasses
  exact ⟨beq_eq_false_iff_ne.mp hdefault, ruleFindings_passes hrules⟩

/-- **The simulation of a compiled bundle** decides by the most restrictive rule which matches, in
any order of the rules, allows only what a rule of its own matches, and leaves a prohibition only
above its ceiling. -/
theorem evaluate_compiled (codec : PolicyCodec Bytes SigningKey)
    (compiler : PolicyCompiler SigningKey) (source : PolicySource) (sourceRevision : Nat)
    (reviewIds : BTreeSet String) (bundleId : String) (compiledAt : DateTime)
    (bundle : SignedPolicyBundle) (h : compiler.compileRevision codec source sourceRevision
      reviewIds bundleId compiledAt = .ok bundle) (action : PolicyAction) :
    Decides bundle action (evaluate bundle action).decision ∧
    (∀ rules, rules.Perm bundle.rules →
      (evaluate { bundle with rules } action).decision = (evaluate bundle action).decision) ∧
    ((evaluate bundle action).decision = .allow →
      ∃ rule ∈ bundle.rules, rule.applies action = true ∧ rule.isBare = false) ∧
    ∀ risk : RiskLevel, action.risk.rank ≤ risk.rank →
      decisionPriority (evaluate bundle { action with risk }).decision ≤
        decisionPriority (evaluate bundle action).decision ∨
      (evaluate bundle action).decision ≠ .allow ∧
        (∃ rule ∈ bundle.rules, rule.applies action = true) ∧
        ∀ rule ∈ bundle.rules, rule.applies action = true →
          rule.decision = (evaluate bundle action).decision →
            rule.maximumRisk.rank < risk.rank := by
  have hguarded := compileRevision_guarded h
  refine ⟨decides_evaluate bundle action, fun rules hperm => decision_perm hperm,
    fun hallow => ?_, fun risk hrisk => decision_raised hrisk⟩
  cases decides_evaluate bundle action with
  | rule rule hmem happlies hdecision =>
    exact ⟨rule, hmem, happlies, hguarded.bare rule hmem (hdecision.trans hallow)⟩
  | default hnone hdecision => exact absurd (hdecision.symm.trans hallow) hguarded.default

end Compiled

section Sample

def samplePolicyCodec : PolicyCodec String String where
  sourceJcs source := some source.sourceId
  bundleJcs bundle := some bundle.bundleId
  sha256Hex _ := sampleHash 'a'
  sign key text := key ++ text

def sampleCompiler : PolicyCompiler String := ⟨"key-1", "key", by decide⟩

def sampleRule (ruleId : String) (decision : Decision) (maximumRisk : RiskLevel) :
    SignedPolicyRule where
  ruleId
  subjectPattern := "*"
  toolPattern := "pay"
  resourcePattern := "*"
  decision
  maximumRisk
  reasonCode := "RULE"

def samplePolicySource : PolicySource where
  schemaVersion := policyAdminSchemaVersion
  sourceId := "source-1"
  tenantId := (sampleUuid 1).toStr
  version := "1.0.0"
  rules := [sampleRule "deny" .deny .low, sampleRule "allow" .allow .critical]
  defaultDecision := .deny
  author := "author-1"
  sourceDigest := sampleHash 'a'
  createdAt := 0

def sampleBundle : SignedPolicyBundle where
  schemaVersion := signedPolicyBundleSchemaVersion
  bundleId := (sampleUuid 2).toStr
  tenantId := (sampleUuid 1).toStr
  policyId := "source-1"
  sourceRevision := 1
  version := "1.0.0"
  sourceDigest := sampleHash 'a'
  bundleDigest := sampleHash 'a'
  rules := [sampleRule "deny" .deny .low, sampleRule "allow" .allow .critical]
  defaultDecision := .deny
  reviewIds := {"review-1", "review-2"}
  keyId := "key-1"
  signature := "key" ++ sampleHash 'a'
  compiledAt := 0

theorem sample_compiled : sampleCompiler.compileRevision samplePolicyCodec samplePolicySource 1
    {"review-1", "review-2"} (sampleUuid 2).toStr 0 = .ok sampleBundle := by
  have hdigest : isDigest (sampleHash 'a') = true := isDigest_sampleHash (by decide) rfl
  refine except_bind_eq_ok.mpr ⟨(), require_eq_ok.mpr ⟨rfl, by decide, by decide, rfl⟩,
    except_bind_eq_ok.mpr ⟨sampleHash 'a', rfl, except_bind_eq_ok.mpr
      ⟨(), require_eq_ok.mpr ⟨rfl, by decide, by decide, by decide⟩, except_mapError_eq_ok.mpr
        (except_bind_eq_ok.mpr ⟨(), require_eq_ok.mpr ?_, rfl⟩)⟩⟩⟩
  exact ⟨rfl, isUuid_toStr _, isUuid_toStr _, by decide, by decide, by decide, hdigest, rfl,
    by decide, by decide, by decide, by decide, by decide, by decide, by decide, by decide,
    by decide⟩

def sampleAction (risk : RiskLevel) : PolicyAction where
  actionId := "action-1"
  tenantId := (sampleUuid 1).toStr
  agentId := "agent-1"
  subject := "user-1"
  tool := "pay"
  resource := "account-1"
  risk

theorem applies_sampleRule (ruleId : String) (decision : Decision) (maximumRisk risk : RiskLevel) :
    (sampleRule ruleId decision maximumRisk).applies (sampleAction risk) = true ↔
      risk.rank ≤ maximumRisk.rank := by
  have hself : ∀ value, patternMatches value value = true := by simp [patternMatches]
  have hany : ∀ value, patternMatches "*" value = true := by simp [patternMatches]
  simp only [SignedPolicyRule.applies, sampleRule, sampleAction, hself, hany, Bool.true_and]
  exact decide_eq_true_iff

theorem sample_allowed : (evaluate sampleBundle (sampleAction .critical)).decision = .allow := by
  refine (decides_evaluate _ _).unique (.rule (sampleRule "allow" .allow .critical)
    (by simp [sampleBundle]) ((applies_sampleRule ..).mpr le_rfl) rfl ?_)
  intro other hother happlies
  have hrules : other = sampleRule "deny" .deny .low ∨
      other = sampleRule "allow" .allow .critical := by simpa [sampleBundle] using hother
  rcases hrules with rfl | rfl
  · cases (applies_sampleRule ..).mp happlies
  · exact le_rfl

/-- The payment is allowed only by the rule on payments. -/
theorem evaluate_compiled_sample :
    ∃ rule ∈ sampleBundle.rules, rule.applies (sampleAction .critical) = true ∧
      rule.isBare = false :=
  (evaluate_compiled samplePolicyCodec sampleCompiler samplePolicySource 1
    {"review-1", "review-2"} (sampleUuid 2).toStr 0 sampleBundle sample_compiled
    (sampleAction .critical)).2.2.1 sample_allowed

/-- At a low risk the payment is denied, and at a critical risk it is allowed. -/
theorem prohibition_left :
    ¬ ∀ (source : PolicySource) (reviewIds : BTreeSet String) (bundleId : String)
      (bundle : SignedPolicyBundle) (action : PolicyAction) (risk : RiskLevel),
      sampleCompiler.compileRevision samplePolicyCodec source 1 reviewIds bundleId 0 = .ok bundle →
      action.risk.rank ≤ risk.rank →
      decisionPriority (evaluate bundle { action with risk }).decision ≤
        decisionPriority (evaluate bundle action).decision := by
  intro h
  have hle := h _ _ _ _ (sampleAction .low) .critical sample_compiled (by decide)
  have hdenied : Decides sampleBundle (sampleAction .low) .deny := by
    refine .rule (sampleRule "deny" .deny .low) (by simp [sampleBundle])
      ((applies_sampleRule ..).mpr le_rfl) rfl ?_
    simp [sampleBundle, sampleRule, decisionPriority]
  rw [(decides_evaluate _ _).unique hdenied] at hle
  have hraised : (evaluate sampleBundle { sampleAction .low with risk := .critical }).decision =
      .allow := sample_allowed
  rw [hraised] at hle
  exact absurd hle (by decide)

end Sample

end AgentSphere.PolicyAdministration
