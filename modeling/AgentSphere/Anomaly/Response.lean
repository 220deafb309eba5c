import AgentSphere.Anomaly.Trajectory

/-!
# The response to findings

The aggregate of a task has the worst severity of its findings; the score of a semantic detector
counts only where there are none. The response follows a cascade: what moves a credential is
answered by its revocation, any other critical rule by a kill, and only then the severity decides,
by which a critical one pauses the task and a high one revokes its lease.
-/

namespace AgentSphere.Anomaly

structure RiskFinding where
  schemaVersion : String
  findingId : String
  tenantId : TenantId
  taskId : TaskId
  ruleId : String
  ruleVersion : String
  severity : RiskLevel
  deterministic : Bool
  confidenceMillionths : Nat
  evidenceEventIds : BTreeSet String
  safeReason : String

structure SemanticScore where
  schemaVersion : String
  modelId : String
  modelVersion : String
  scoreMillionths : Nat
  confidenceMillionths : Nat
  goalDrift : Bool
  reasonCodes : BTreeSet String

structure RiskAggregate where
  schemaVersion : String
  aggregateId : String
  tenantId : TenantId
  taskId : TaskId
  severity : RiskLevel
  scoreMillionths : Nat
  deterministicFindings : List RiskFinding
  semanticScore : Option SemanticScore
  detectorDegraded : Bool
  computedAt : DateTime

inductive AuthorizationAdjustment where
  | noChange
  | requireApproval
  | reduceScope
  | pause
  | revokeLease
  | revokeCredential
  | kill
  deriving DecidableEq, Repr

def AuthorizationAdjustment.rank : AuthorizationAdjustment → Nat
  | noChange => 0
  | requireApproval => 1
  | reduceScope => 2
  | pause => 3
  | revokeLease => 4
  | revokeCredential => 5
  | kill => 6

structure ResponseCommand where
  schemaVersion : String
  responseId : String
  tenantId : TenantId
  taskId : TaskId
  adjustment : AuthorizationAdjustment
  newRevocationEpoch : Nat
  reasonCodes : BTreeSet String
  evidenceDigest : String
  recoveryConditions : BTreeSet String
  issuedAt : DateTime
  expiresAt : DateTime
  issuer : String
  keyId : String
  signature : String

def severityForScore (score : Nat) : RiskLevel :=
  if 900000 ≤ score then .critical
  else if 700000 ≤ score then .high
  else if 400000 ≤ score then .medium
  else .low

-- The aggregate

/-- `Iterator::max` of severities. -/
def worst : List RiskLevel → Option RiskLevel
  | [] => none
  | severity :: severities => some ((worst severities).elim severity (RiskLevel.max severity))

def semanticValue (score : Option SemanticScore) : Nat :=
  score.elim 0 fun score => min score.scoreMillionths score.confidenceMillionths

/-- `RiskAggregator::update`; the identifier and the time are drawn. -/
def RiskAggregator.update (state : TrajectoryState) (deterministicFindings : List RiskFinding)
    (semanticScore : Option SemanticScore) (semanticDetectorAvailable : Bool)
    (aggregateId : String) (computedAt : DateTime) : RiskAggregate :=
  let deterministicScore :=
    (deterministicFindings.map (·.confidenceMillionths)).max?.getD 0
  let score := max deterministicScore (semanticValue semanticScore)
  { schemaVersion := anomalySchemaVersion
    aggregateId
    tenantId := state.tenantId
    taskId := state.taskId
    severity := (worst (deterministicFindings.map (·.severity))).getD (severityForScore score)
    scoreMillionths := score
    deterministicFindings
    semanticScore
    detectorDegraded := !semanticDetectorAvailable
    computedAt }

-- The response

structure ResponseCodec (Bytes : Type) where
  /-- `serde_jcs::to_vec` of an aggregate and of a command. -/
  aggregateJcs : RiskAggregate → Option Bytes
  commandJcs : ResponseCommand → Option Bytes
  sha256Hex : Bytes → String
  sign : Bytes → String

structure ContinuousAuthorizationController (Bytes : Type) where
  issuer : String
  keyId : String
  codec : ResponseCodec Bytes

def RiskFinding.isCritical (finding : RiskFinding) : Bool :=
  finding.deterministic && finding.severity = .critical

def credentialMovementRule : String := "RUNTIME_CREDENTIAL_MOVEMENT"

def criticalRules (findings : List RiskFinding) : BTreeSet String :=
  Std.ExtTreeSet.ofList ((findings.filter (·.isCritical)).map (·.ruleId)) compare

/-- The cascade of `adjust`. -/
def adjustmentFor (aggregate : RiskAggregate) : AuthorizationAdjustment :=
  let rules := criticalRules aggregate.deterministicFindings
  if rules.contains credentialMovementRule then .revokeCredential
  else if !rules.isEmpty then .kill
  else if aggregate.severity = .critical then .pause
  else if aggregate.severity = .high then .revokeLease
  else if aggregate.severity = .medium then .requireApproval
  else .noChange

def AuthorizationAdjustment.revokes : AuthorizationAdjustment → Bool
  | .revokeLease | .revokeCredential | .kill => true
  | _ => false

/-- `u64::saturating_add(1)`. -/
def nextEpoch (epoch : Nat) : Nat := min (epoch + 1) (2 ^ 64 - 1)

def recoveryConditionsFor : AuthorizationAdjustment → List String
  | .pause | .revokeLease => ["HUMAN_REVIEW", "NEW_AUTHORIZATION_LEASE"]
  | .revokeCredential => ["HUMAN_REVIEW", "CREDENTIAL_ROTATED", "NEW_AUTHORIZATION_LEASE"]
  | _ => []

def reasonCodesOf (aggregate : RiskAggregate) : BTreeSet String :=
  Std.ExtTreeSet.ofList (aggregate.deterministicFindings.map (·.ruleId) ++
    (aggregate.semanticScore.elim [] fun score => score.reasonCodes.toList)) compare

/-- `adjust`; the identifier and the time are drawn. -/
def ContinuousAuthorizationController.adjust {Bytes : Type}
    (self : ContinuousAuthorizationController Bytes) (aggregate : RiskAggregate)
    (currentEpoch : Nat) (responseId : String) (now : DateTime) :
    Except AnomalyError ResponseCommand :=
  let adjustment := adjustmentFor aggregate
  match self.codec.aggregateJcs aggregate, now.add (300 * 1000000000) with
  | none, _ => .error .canonicalization
  | some _, none => .error .panicked
  | some bytes, some expiresAt =>
    let command : ResponseCommand :=
      { schemaVersion := anomalySchemaVersion
        responseId
        tenantId := aggregate.tenantId
        taskId := aggregate.taskId
        adjustment
        newRevocationEpoch := if adjustment.revokes then nextEpoch currentEpoch else currentEpoch
        reasonCodes := reasonCodesOf aggregate
        evidenceDigest := self.codec.sha256Hex bytes
        recoveryConditions := Std.ExtTreeSet.ofList (recoveryConditionsFor adjustment) compare
        issuedAt := now
        expiresAt
        issuer := self.issuer
        keyId := self.keyId
        signature := "" }
    match self.codec.commandJcs command with
    | none => .error .canonicalization
    | some signed => .ok { command with signature := self.codec.sign signed }

-- Severities

theorem rank_max (a b : RiskLevel) : (a.max b).rank = max a.rank b.rank := by
  unfold RiskLevel.max
  split
  · rename_i h
    exact (Nat.max_eq_right h).symm
  · rename_i h
    exact (Nat.max_eq_left (Nat.le_of_not_le h)).symm

theorem worst_eq_some {severities : List RiskLevel} {severity : RiskLevel}
    (h : worst severities = some severity) :
    severity ∈ severities ∧ ∀ other ∈ severities, other.rank ≤ severity.rank := by
  induction severities generalizing severity with
  | nil => cases h
  | cons first severities ih =>
    obtain rfl := Option.some.inj h
    cases hrest : worst severities with
    | none =>
      cases severities with
      | nil => simp
      | cons => cases hrest
    | some rest =>
      obtain ⟨hmem, hle⟩ := ih hrest
      simp only [Option.elim_some, List.mem_cons, forall_eq_or_imp, rank_max]
      refine ⟨?_, Nat.le_max_left .., fun other hother =>
        (hle other hother).trans (Nat.le_max_right ..)⟩
      unfold RiskLevel.max
      split
      · exact .inr hmem
      · exact .inl rfl

theorem worst_eq_none {severities : List RiskLevel} :
    worst severities = none ↔ severities = [] := by
  cases severities with
  | nil => simp [worst]
  | cons => simp [worst]

def severityOf (findings : List RiskFinding) (score : Option SemanticScore) : RiskLevel :=
  (worst (findings.map (·.severity))).getD (severityForScore (semanticValue score))

@[simp] theorem severity_update (state : TrajectoryState) (findings : List RiskFinding)
    (score : Option SemanticScore) (available : Bool) (id : String) (time : DateTime) :
    (RiskAggregator.update state findings score available id time).severity =
      severityOf findings score := by
  cases findings with
  | nil => simp [RiskAggregator.update, severityOf, worst]
  | cons => rfl

@[simp] theorem findings_update (state : TrajectoryState) (findings : List RiskFinding)
    (score : Option SemanticScore) (available : Bool) (id : String) (time : DateTime) :
    (RiskAggregator.update state findings score available id time).deterministicFindings =
      findings := rfl

section Severity

variable {findings : List RiskFinding} {score : Option SemanticScore}

theorem severityOf_nil :
    severityOf [] score = severityForScore (semanticValue score) := rfl

theorem le_severityOf {finding : RiskFinding} (h : finding ∈ findings) :
    finding.severity.rank ≤ (severityOf findings score).rank := by
  cases hworst : worst (findings.map (·.severity)) with
  | none =>
    have hnil := List.map_eq_nil_iff.1 (worst_eq_none.1 hworst)
    exact absurd h (hnil ▸ List.not_mem_nil)
  | some severity =>
    simp only [severityOf, hworst, Option.getD_some]
    exact (worst_eq_some hworst).2 _ (List.mem_map_of_mem h)

theorem exists_severityOf (score : Option SemanticScore) (h : findings ≠ []) :
    ∃ finding ∈ findings, finding.severity = severityOf findings score := by
  cases hworst : worst (findings.map (·.severity)) with
  | none => exact absurd (List.map_eq_nil_iff.1 (worst_eq_none.1 hworst)) h
  | some severity =>
    simp only [severityOf, hworst, Option.getD_some]
    exact List.mem_map.1 (worst_eq_some hworst).1

theorem le_severityOf_iff (score : Option SemanticScore) (h : findings ≠ [])
    (level : RiskLevel) :
    level.rank ≤ (severityOf findings score).rank ↔
      ∃ finding ∈ findings, level.rank ≤ finding.severity.rank := by
  constructor
  · intro hle
    obtain ⟨finding, hmem, heq⟩ := exists_severityOf score h
    exact ⟨finding, hmem, heq ▸ hle⟩
  · rintro ⟨finding, hmem, hle⟩
    exact hle.trans (le_severityOf hmem)

theorem severityOf_append (h : findings ≠ []) (more : List RiskFinding) :
    (severityOf findings score).rank ≤ (severityOf (findings ++ more) score).rank := by
  obtain ⟨finding, hmem, heq⟩ := exists_severityOf score h
  rw [← heq]
  exact le_severityOf (List.mem_append_left _ hmem)

end Severity

-- The cascade

def Critical (findings : List RiskFinding) : Prop :=
  ∃ finding ∈ findings, finding.isCritical = true

def MovesCredential (findings : List RiskFinding) : Prop :=
  ∃ finding ∈ findings, finding.isCritical = true ∧ finding.ruleId = credentialMovementRule

theorem MovesCredential.critical {findings : List RiskFinding} (h : MovesCredential findings) :
    Critical findings := by
  obtain ⟨finding, hmem, hcritical, -⟩ := h
  exact ⟨finding, hmem, hcritical⟩

theorem Critical.append {findings : List RiskFinding} (h : Critical findings)
    (more : List RiskFinding) : Critical (findings ++ more) := by
  obtain ⟨finding, hmem, hcritical⟩ := h
  exact ⟨finding, List.mem_append_left _ hmem, hcritical⟩

theorem MovesCredential.append {findings : List RiskFinding} (h : MovesCredential findings)
    (more : List RiskFinding) : MovesCredential (findings ++ more) := by
  obtain ⟨finding, hmem, hmoves⟩ := h
  exact ⟨finding, List.mem_append_left _ hmem, hmoves⟩

theorem mem_criticalRules {findings : List RiskFinding} {rule : String} :
    rule ∈ criticalRules findings ↔
      ∃ finding ∈ findings, finding.isCritical = true ∧ finding.ruleId = rule := by
  unfold criticalRules
  rw [Std.ExtTreeSet.mem_ofList]
  simp only [List.contains_eq_mem, List.mem_map, List.mem_filter, decide_eq_true_eq, and_assoc]

theorem isEmpty_criticalRules {findings : List RiskFinding} :
    (criticalRules findings).isEmpty = true ↔ ¬ Critical findings := by
  unfold criticalRules Critical
  rw [Std.ExtTreeSet.isEmpty_iff, Std.ExtTreeSet.ofList_eq_empty_iff, List.map_eq_nil_iff,
    List.filter_eq_nil_iff]
  simp

def responseTo : RiskLevel → AuthorizationAdjustment
  | .critical => .pause
  | .high => .revokeLease
  | .medium => .requireApproval
  | .low => .noChange

section Cascade

variable {aggregate : RiskAggregate}

theorem adjustmentFor_moves (h : MovesCredential aggregate.deterministicFindings) :
    adjustmentFor aggregate = .revokeCredential := by
  have hrule := Std.ExtTreeSet.mem_iff_contains.1 (mem_criticalRules.2 h)
  simp only [adjustmentFor, hrule, if_true]

theorem adjustmentFor_critical (h : Critical aggregate.deterministicFindings)
    (hmoves : ¬ MovesCredential aggregate.deterministicFindings) :
    adjustmentFor aggregate = .kill := by
  have hrule := mt (fun h => mem_criticalRules.1 (Std.ExtTreeSet.mem_iff_contains.2 h)) hmoves
  have hrules := mt isEmpty_criticalRules.1 (not_not.2 h)
  simp only [adjustmentFor, Bool.not_eq_true] at hrule hrules ⊢
  simp [hrule, hrules]

theorem adjustmentFor_severity (h : ¬ Critical aggregate.deterministicFindings) :
    adjustmentFor aggregate = responseTo aggregate.severity := by
  have hmoves := mt MovesCredential.critical h
  have hrule := mt (fun h => mem_criticalRules.1 (Std.ExtTreeSet.mem_iff_contains.2 h)) hmoves
  have hrules := isEmpty_criticalRules.2 h
  simp only [adjustmentFor, Bool.not_eq_true] at hrule ⊢
  cases aggregate.severity <;> simp [hrule, hrules, responseTo]

end Cascade

def Weakens (findings more : List RiskFinding) (score : Option SemanticScore) : Prop :=
  -- a credential movement takes the place of the kill
  (Critical findings ∧ ¬ MovesCredential findings ∧ MovesCredential (findings ++ more)) ∨
  (¬ Critical (findings ++ more) ∧
    -- the pause of a critical severity takes the place of the revocation
    ((severityOf findings score = .high ∧ severityOf (findings ++ more) score = .critical) ∨
    -- the first findings are less severe than the score was
    (findings = [] ∧
      (severityOf (findings ++ more) score).rank < (severityOf findings score).rank ∧
      ¬ (severityOf findings score = .critical ∧
        severityOf (findings ++ more) score = .high))))

theorem responseTo_lt_iff (a b : RiskLevel) :
    (responseTo b).rank < (responseTo a).rank ↔
      (a = .high ∧ b = .critical) ∨ (b.rank < a.rank ∧ ¬ (a = .critical ∧ b = .high)) := by
  cases a <;> cases b <;> decide

/-- The response gets weaker exactly in the cases of `Weakens`. -/
theorem adjustmentFor_lt_iff {before after : RiskAggregate} {more : List RiskFinding}
    {score : Option SemanticScore}
    (hfindings : after.deterministicFindings = before.deterministicFindings ++ more)
    (hbefore : before.severity = severityOf before.deterministicFindings score)
    (hafter : after.severity = severityOf after.deterministicFindings score) :
    (adjustmentFor after).rank < (adjustmentFor before).rank ↔
      Weakens before.deterministicFindings more score := by
  rw [hfindings] at hafter
  unfold Weakens
  by_cases hcritical : Critical before.deterministicFindings
  · have hcritical' := hcritical.append more
    by_cases hmoves : MovesCredential before.deterministicFindings
    · have hmoves' := hmoves.append more
      rw [adjustmentFor_moves hmoves, adjustmentFor_moves (hfindings ▸ hmoves')]
      simp [hmoves, hcritical']
    · rw [adjustmentFor_critical hcritical hmoves]
      by_cases hmoves' : MovesCredential (before.deterministicFindings ++ more)
      · rw [adjustmentFor_moves (hfindings ▸ hmoves')]
        simp [hcritical, hmoves, hmoves', AuthorizationAdjustment.rank]
      · rw [adjustmentFor_critical (hfindings ▸ hcritical') (hfindings ▸ hmoves')]
        simp [hcritical', hmoves']
  · rw [adjustmentFor_severity hcritical, hbefore]
    by_cases hcritical' : Critical (before.deterministicFindings ++ more)
    · have hlow : ∀ severity, (responseTo severity).rank ≤ 4 := by
        intro severity
        cases severity <;> decide
      have hlow := hlow (severityOf before.deterministicFindings score)
      have hhigh : 5 ≤ (adjustmentFor after).rank := by
        by_cases hmoves' : MovesCredential (before.deterministicFindings ++ more)
        · rw [adjustmentFor_moves (hfindings ▸ hmoves')]
          decide
        · rw [adjustmentFor_critical (hfindings ▸ hcritical') (hfindings ▸ hmoves')]
          decide
      simp only [hcritical, hcritical', false_and, not_true_eq_false, or_self, iff_false]
      omega
    · rw [adjustmentFor_severity (hfindings ▸ hcritical'), hafter, responseTo_lt_iff]
      simp only [hcritical, hcritical', false_and, false_or, not_false_eq_true, true_and]
      refine or_congr_right ⟨fun ⟨hlt, hne⟩ => ⟨?_, hlt, hne⟩, fun ⟨_, hlt, hne⟩ => ⟨hlt, hne⟩⟩
      by_contra hnonempty
      exact absurd (severityOf_append hnonempty more) (Nat.not_le_of_lt hlt)

theorem adjust_eq_ok {Bytes : Type} {self : ContinuousAuthorizationController Bytes}
    {aggregate : RiskAggregate} {epoch : Nat} {id : String} {now : DateTime}
    {command : ResponseCommand} (h : self.adjust aggregate epoch id now = .ok command) :
    command.adjustment = adjustmentFor aggregate ∧
      command.newRevocationEpoch =
        if command.adjustment.revokes then nextEpoch epoch else epoch := by
  unfold ContinuousAuthorizationController.adjust at h
  dsimp only at h
  split at h
  · cases h
  · cases h
  · split at h
    · cases h
    · cases h
      exact ⟨rfl, rfl⟩

theorem critical_of_adjustmentFor {aggregate : RiskAggregate}
    (h : adjustmentFor aggregate = .kill ∨ adjustmentFor aggregate = .revokeCredential) :
    Critical aggregate.deterministicFindings := by
  by_contra hcritical
  rw [adjustmentFor_severity hcritical] at h
  cases hseverity : aggregate.severity <;> simp [hseverity, responseTo] at h

-- More evidence

/-- How severity and response change when findings join those of a task. -/
theorem response_of_evidence {Bytes : Type} (self : ContinuousAuthorizationController Bytes)
    (state : TrajectoryState) (findings more : List RiskFinding) (score : Option SemanticScore)
    (available available' : Bool) (id id' : String) (time time' : DateTime) :
    let before := RiskAggregator.update state findings score available id time
    let after := RiskAggregator.update state (findings ++ more) score available' id' time'
    let floor := severityForScore (semanticValue score)
    (before.severity.rank ≤ after.severity.rank ↔
      findings = [] → more = [] ∨ ∃ finding ∈ more, floor.rank ≤ finding.severity.rank) ∧
    (∀ finding ∈ findings ++ more, finding.severity.rank ≤ after.severity.rank) ∧
    (floor.rank ≤ before.severity.rank ↔
      findings = [] ∨ ∃ finding ∈ findings, floor.rank ≤ finding.severity.rank) ∧
    ∀ epoch id now command, self.adjust before epoch id now = .ok command →
      (command.adjustment = .kill ∨ command.adjustment = .revokeCredential →
        ∃ finding ∈ findings, finding.deterministic = true ∧ finding.severity = .critical) ∧
      (epoch < 2 ^ 64 - 1 →
        command.adjustment = .revokeLease ∨ command.adjustment = .revokeCredential ∨
          command.adjustment = .kill → epoch < command.newRevocationEpoch) ∧
      ∀ epoch' id' now' command', self.adjust after epoch' id' now' = .ok command' →
        (command.adjustment.rank ≤ command'.adjustment.rank ↔ ¬ Weakens findings more score) := by
  intro before after floor
  have hbefore : before.severity = severityOf findings score := severity_update ..
  have hafter : after.severity = severityOf (findings ++ more) score := severity_update ..
  rw [hbefore, hafter]
  refine ⟨?_, fun finding hmem => le_severityOf hmem, ?_, ?_⟩
  · cases findings with
    | nil =>
      cases more with
      | nil => simp
      | cons finding more =>
        have hiff := le_severityOf_iff score (List.cons_ne_nil finding more) floor
        simpa [severityOf_nil, floor] using hiff
    | cons finding findings =>
      simpa using severityOf_append (List.cons_ne_nil finding findings) more
  · cases findings with
    | nil => simp [floor, severityOf_nil]
    | cons finding findings =>
      simpa using le_severityOf_iff score (List.cons_ne_nil finding findings) floor
  · intro epoch id now command hcommand
    obtain ⟨hadjustment, hepoch⟩ := adjust_eq_ok hcommand
    refine ⟨fun hkind => ?_, fun hbound hkind => ?_, fun epoch' id' now' command' hcommand' => ?_⟩
    · obtain ⟨finding, hmem, hcritical⟩ := critical_of_adjustmentFor (hadjustment ▸ hkind)
      refine ⟨finding, hmem, ?_⟩
      simpa [RiskFinding.isCritical] using hcritical
    · have hrevokes : command.adjustment.revokes = true := by
        obtain hkind | hkind | hkind := hkind <;> rw [hkind] <;> rfl
      rw [hepoch, if_pos hrevokes]
      unfold nextEpoch
      omega
    · obtain ⟨hadjustment', -⟩ := adjust_eq_ok hcommand'
      rw [hadjustment, hadjustment', ← not_lt]
      exact not_congr (adjustmentFor_lt_iff rfl hbefore hafter)

-- Samples

def sampleState : TrajectoryState where
  schemaVersion := anomalySchemaVersion
  tenantId := "tenant-1"
  taskId := "task-1"
  goalHash := "aaaaaaaaaaaaaaaaaaaaaaaaaaaaaaaaaaaaaaaaaaaaaaaaaaaaaaaaaaaaaaaa"
  planHash := "bbbbbbbbbbbbbbbbbbbbbbbbbbbbbbbbbbbbbbbbbbbbbbbbbbbbbbbbbbbbbbbb"
  allowedResourcePrefixes := ∅
  allowedNetworkDestinations := ∅
  eventCount := 1
  firstSeenAt := 0
  lastSeenAt := 0

def sampleFinding (ruleId : String) (severity : RiskLevel) : RiskFinding where
  schemaVersion := anomalySchemaVersion
  findingId := "finding-1"
  tenantId := "tenant-1"
  taskId := "task-1"
  ruleId
  ruleVersion := "1.0.0"
  severity
  deterministic := true
  confidenceMillionths := 1000000
  evidenceEventIds := ∅
  safeReason := "rule matched"

def sampleScore : SemanticScore where
  schemaVersion := anomalySchemaVersion
  modelId := "semantic"
  modelVersion := "1.0.0"
  scoreMillionths := 1000000
  confidenceMillionths := 1000000
  goalDrift := true
  reasonCodes := ∅

def sampleController : ContinuousAuthorizationController Unit where
  issuer := "response-controller"
  keyId := "response-key"
  codec :=
    { aggregateJcs := fun _ => some ()
      commandJcs := fun _ => some ()
      sha256Hex := fun _ => "digest"
      sign := fun _ => "signature" }

def sampleAggregate (findings : List RiskFinding) (score : Option SemanticScore) :
    RiskAggregate :=
  RiskAggregator.update sampleState findings score true "aggregate-1" 0

def hostPathFinding : RiskFinding := sampleFinding "RUNTIME_HOST_PATH" .critical

theorem adjust_sample (aggregate : RiskAggregate) :
    ∃ command, sampleController.adjust aggregate 1 "response-1" 0 = .ok command ∧
      command.adjustment = adjustmentFor aggregate := by
  have htime : DateTime.add 0 (300 * 1000000000) = some 300000000000 := by decide
  unfold ContinuousAuthorizationController.adjust
  simp only [sampleController, htime]
  exact ⟨_, rfl, rfl⟩

theorem not_moves_sample : ¬ MovesCredential [hostPathFinding] := by
  rintro ⟨finding, hmem, -, hrule⟩
  rw [List.mem_singleton.1 hmem] at hrule
  exact absurd hrule (by decide)

theorem adjustmentFor_sample : adjustmentFor (sampleAggregate [hostPathFinding] none) = .kill :=
  adjustmentFor_critical ⟨hostPathFinding, List.mem_cons_self, by decide⟩ not_moves_sample

theorem response_of_evidence_sample :
    ∃ command command', sampleController.adjust (sampleAggregate [hostPathFinding] none)
        1 "response-1" 0 = .ok command ∧
      sampleController.adjust (sampleAggregate ([hostPathFinding] ++ [hostPathFinding]) none)
        1 "response-1" 0 = .ok command' ∧
      command.adjustment = .kill ∧ 1 < command.newRevocationEpoch ∧
      command.adjustment.rank ≤ command'.adjustment.rank := by
  have hresponse := response_of_evidence sampleController sampleState [hostPathFinding]
    [hostPathFinding] none true true "aggregate-1" "aggregate-1" 0 0
  obtain ⟨command, hcommand, hadjustment⟩ := adjust_sample (sampleAggregate [hostPathFinding] none)
  obtain ⟨command', hcommand', -⟩ :=
    adjust_sample (sampleAggregate ([hostPathFinding] ++ [hostPathFinding]) none)
  obtain ⟨-, hepoch, hrank⟩ := hresponse.2.2.2 1 "response-1" 0 command hcommand
  have hkill : command.adjustment = .kill := hadjustment.trans adjustmentFor_sample
  refine ⟨command, command', hcommand, hcommand', hkill,
    hepoch (by decide) (.inr (.inr hkill)), (hrank 1 _ 0 command' hcommand').2 ?_⟩
  rintro (⟨-, -, finding, hmem, -, hrule⟩ | ⟨hcritical, -⟩)
  · obtain hmem | hmem := List.mem_append.1 hmem
    all_goals
      rw [List.mem_singleton.1 hmem] at hrule
      exact absurd hrule (by decide)
  · exact hcritical ⟨hostPathFinding, List.mem_cons_self, by decide⟩

/-- A credential movement turns a kill into a revocation, and a finding lowers the severity. -/
theorem response_weakened :
    (∃ command command', sampleController.adjust (sampleAggregate [hostPathFinding] none)
        1 "response-1" 0 = .ok command ∧
      sampleController.adjust (sampleAggregate
          ([hostPathFinding] ++ [sampleFinding credentialMovementRule .critical]) none)
        1 "response-1" 0 = .ok command' ∧
      ¬ command.adjustment.rank ≤ command'.adjustment.rank) ∧
    ¬ (sampleAggregate [] (some sampleScore)).severity.rank ≤
      (sampleAggregate ([] ++ [sampleFinding "RUNTIME_REPEATED_SIDE_EFFECT" .high])
        (some sampleScore)).severity.rank := by
  constructor
  · obtain ⟨command, hcommand, hadjustment⟩ :=
      adjust_sample (sampleAggregate [hostPathFinding] none)
    obtain ⟨command', hcommand', hadjustment'⟩ := adjust_sample (sampleAggregate
      ([hostPathFinding] ++ [sampleFinding credentialMovementRule .critical]) none)
    have hrevoke : adjustmentFor (sampleAggregate
        ([hostPathFinding] ++ [sampleFinding credentialMovementRule .critical]) none) =
        .revokeCredential :=
      adjustmentFor_moves ⟨sampleFinding credentialMovementRule .critical,
        List.mem_append_right _ List.mem_cons_self, by decide, rfl⟩
    refine ⟨command, command', hcommand, hcommand', ?_⟩
    rw [hadjustment, hadjustment', adjustmentFor_sample, hrevoke]
    decide
  · unfold sampleAggregate
    rw [severity_update, severity_update]
    decide

end AgentSphere.Anomaly
