import AgentSphere.Anomaly.Detection

/-!
# Encoded markers

A marker within the resource of a signal is found if the resource is encoded in up to three layers
around it. What the detector decodes itself counts among the layers: it takes three off and no more,
so that a marker that is itself encoded in the resource may be out of reach once more layers are put
around it. And a marker that is found only where the action and the resource are joined is lost as
soon as the resource is encoded.
-/

namespace AgentSphere.Anomaly

open Base64 (Engine)
open Utf8 (asBytes)

-- Markers

def markers : SignalKind → List String
  | .network => ["169.254.169.254", "metadata.google.internal"]
  | .file => ["/etc/shadow", "/var/run/docker.sock", "../"]
  | .auditControl => ["disable"]
  | .credential => ["write", "copy", "network"]
  | .process => "unregistered" :: sandboxMarkers
  | .approval => approvalMarkers
  | .tool | .resource | .policyDeny | .telemetry => []

def markerRules : List String :=
  ["RUNTIME_METADATA_SSRF", "RUNTIME_HOST_PATH", "RUNTIME_AUDIT_SUPPRESSION",
    "RUNTIME_CREDENTIAL_MOVEMENT", "RUNTIME_UNREGISTERED_EXECUTOR", "RUNTIME_SANDBOX_EVASION",
    "RUNTIME_APPROVAL_BYPASS"]

section Markers

variable {state : TrajectoryState} {signal : RiskSignal} {marker : String}

/-- **Which signals fall under one of these rules.** -/
theorem markerRule_iff :
    (∃ rule, ruleFor state signal = some rule ∧ rule.id ∈ markerRules) ↔
      ∃ marker ∈ markers signal.kind, containsText (normalizedSignalText signal) marker = true := by
  rw [ruleFor]
  generalize normalizedSignalText signal = normalized
  cases hkind : signal.kind
  all_goals
    simp only [reduceCtorEq, false_and, if_false, true_and, markers, sandboxMarkers,
      approvalMarkers, List.any_cons, List.any_nil, Bool.or_eq_true, Bool.false_eq_true,
      List.mem_cons, List.not_mem_nil, or_false, exists_eq_or_imp, exists_eq_left, exists_false]
  all_goals split_ifs
  all_goals simp_all [markerRules]

theorem ruleFor_eq_none (hnetwork : signal.kind ≠ .network) (hresource : signal.kind ≠ .resource)
    (h : ∀ marker ∈ markers signal.kind, containsText (normalizedSignalText signal) marker = false) :
    ruleFor state signal = none := by
  cases hrule : ruleFor state signal with
  | none => rfl
  | some rule =>
    have hid : rule.id ∈ markerRules := by
      rw [ruleFor] at hrule
      split_ifs at hrule
      all_goals
        obtain rfl := Option.some.inj hrule
        simp_all [markerRules]
    obtain ⟨marker, hmarker, hcontains⟩ := markerRule_iff.mp ⟨rule, hrule, hid⟩
    rw [h marker hmarker] at hcontains
    cases hcontains

end Markers

-- Encodings of the resource

/-- A marker in what is searched of the action, or in what is searched of the resource and of the
value, with so many rounds for the resource. -/
def Within (rounds : Nat) (signal : RiskSignal) (marker : String) : Prop :=
  containsText (" ".intercalate (expand 4 signal.action)) marker = true ∨
    containsText (" ".intercalate
      (expand rounds signal.resource ++ (valueTexts signal).flatMap (expand 4))) marker = true

section Encodings

variable {signal : RiskSignal} {content encoded marker : String} {n : Nat}

theorem contains_of_within (h : Layers content n encoded) (hn : n ≤ 3) (hcontent : Printable content)
    (hsize : encoded.utf8ByteSize ≤ 8192)
    (hwithin : Within (4 - n) { signal with resource := content } marker) :
    containsText (normalizedSignalText { signal with resource := encoded }) marker = true := by
  obtain ⟨outer, houter⟩ := expand_encoded h hn hcontent hsize
  rw [normalized_eq, houter]
  obtain haction | hresource := hwithin
  · exact containsText_intercalate (List.prefix_append ..).isInfix haction
  · rw [valueTexts_resource] at hresource
    refine containsText_intercalate ?_ hresource
    rw [List.append_assoc, ← List.append_assoc]
    exact (List.suffix_append ..).isInfix

/-- **Encodings hide neither the resource nor a marker.** -/
theorem encoded_marker_detected (h : Layers content n encoded) (hn : n ≤ 3)
    (hcontent : Printable content) (hsize : encoded.utf8ByteSize ≤ 8192) :
    (∀ signal : RiskSignal, signal.action = encoded ∨ signal.resource = encoded →
      containsText (normalizedSignalText signal) (toAsciiLowercase content) = true) ∧
    ∀ (signal : RiskSignal) (marker : String), marker ∈ markers signal.kind →
      Within (4 - n) { signal with resource := content } marker →
      ∀ (detector : RuleDetector) (draw : Nat → String) (state : TrajectoryState)
        (signals : List RiskSignal), { signal with resource := encoded } ∈ signals →
        ∃ found ∈ detector.evaluate draw state signals,
          found.ruleId ∈ markerRules ∧ found.evidenceEventIds = evidence [signal] := by
  refine ⟨fun signal hsignal => normalized_contains h hn hcontent hsize hsignal, ?_⟩
  intro signal marker hmarker hwithin detector draw state signals hsignal
  have htext : containsText (normalizedSignalText { signal with resource := encoded }) marker =
      true := contains_of_within h hn hcontent hsize hwithin
  obtain ⟨rule, hrule, hid⟩ : ∃ rule, ruleFor state { signal with resource := encoded } =
      some rule ∧ rule.id ∈ markerRules := markerRule_iff.mpr ⟨marker, hmarker, htext⟩
  obtain ⟨found, hfound, heq⟩ := List.mem_map.mp (reported_of_rule hrule hsignal)
  obtain ⟨hfoundId, hevidence⟩ := Prod.mk.inj heq
  exact ⟨found, hfound, hfoundId ▸ hid, hevidence⟩

end Encodings

theorem layer_standard {text encoded : String}
    (h : asBytes encoded = Engine.encode ⟨.standard, true⟩ (asBytes text)) : Layer text encoded :=
  .base64 List.mem_cons_self h

theorem layer_percent {text encoded rest : String} {byte high low : UInt8}
    (htext : asBytes text = byte :: asBytes rest)
    (hencoded : asBytes encoded = 37 :: high :: low :: asBytes rest)
    (hhigh : hexNibble high = some (byte / 16)) (hlow : hexNibble low = some (byte % 16))
    (hrest : 37 ∉ asBytes rest) (hsome : encoded ≠ text) : Layer text encoded := by
  refine .percent ?_ hsome
  rw [htext, hencoded]
  exact .escaped hhigh hlow (percentEncoded_self fun _ hother => ne_of_mem_of_not_mem hother hrest)

def auditSignal : RiskSignal := { sampleSignal with kind := .auditControl, action := "PUT" }

/-- A marker in percent encoding, and then in base64 of two sorts. -/
theorem three_layers_detected :
    containsText (normalizedSignalText { auditSignal with resource := "SlRZMGFYTmhZbXhs" })
        (toAsciiLowercase "disable") = true ∧
      ∃ found ∈ sampleDetector.evaluate (fun _ => "") (TrajectoryMonitor.fresh sampleStart 0).state
          [{ auditSignal with resource := "SlRZMGFYTmhZbXhs" }],
        found.ruleId ∈ markerRules ∧ found.evidenceEventIds = evidence [auditSignal] := by
  have hpercent : Layer "disable" "%64isable" := by
    have htext : asBytes "disable" = 100 :: asBytes "isable" := by decide
    have hencoded : asBytes "%64isable" = 37 :: 54 :: 52 :: asBytes "isable" := by decide
    exact layer_percent htext hencoded (by decide) (by decide) (by decide) (by decide)
  have hbase64 : Layer "%64isable" "JTY0aXNhYmxl" := layer_standard (by decide)
  have hunpadded : asBytes "SlRZMGFYTmhZbXhs" =
      Engine.encode ⟨.urlSafe, false⟩ (asBytes "JTY0aXNhYmxl") := by decide
  have hlayers : Layers "disable" 3 "SlRZMGFYTmhZbXhs" :=
    ((Layers.none.next hpercent).next hbase64).next
      (.base64 (.tail _ (.tail _ (.head _))) hunpadded)
  have hprintable : Printable "disable" := printable_of_all (by decide)
  obtain ⟨htext, hfound⟩ := encoded_marker_detected hlayers le_rfl hprintable (by decide)
  refine ⟨htext _ (.inr rfl), hfound auditSignal "disable" List.mem_cons_self ?_ _ _ _ _
    List.mem_cons_self⟩
  refine .inr ?_
  have hvalue : valueTexts { auditSignal with resource := "disable" } = [] := rfl
  rw [hvalue, expand_one (by decide), toAsciiLowercase, containsText,
    String.toList_intercalate]
  simp only [List.map_cons, List.map_nil, List.append_nil, List.flatMap_nil, String.toList_map]
  decide

section Hidden

variable {state : TrajectoryState} {signal : RiskSignal}

theorem evaluate_single {detector : RuleDetector} {draw : Nat → String}
    (h : ruleFor state signal = none) : detector.evaluate draw state [signal] = [] := by
  have hinput : detector.signalInput state signal = none := by
    rw [RuleDetector.signalInput, h]
    rfl
  have hone : ∀ p : RiskSignal → Bool, ([signal].filter p).length ≤ 1 :=
    fun p => List.length_filter_le p [signal]
  have heffects : detector.repeatedSideEffect [signal] = none :=
    if_neg (Nat.not_le.mpr ((hone _).trans_lt detector.twoEffects))
  have hdenies : detector.repeatedPolicyDeny [signal] = none :=
    if_neg (Nat.not_le.mpr ((hone _).trans_lt detector.twoEffects))
  have hdomains : (domains [signal]).size ≤ 1 := by
    refine Std.ExtTreeSet.size_ofList_le.trans ?_
    rw [List.length_map]
    exact hone _
  have hslow : detector.slowExfiltration [signal] = none :=
    if_neg fun hslow => Nat.not_le.mpr (hdomains.trans_lt detector.twoDomains) hslow.1
  rw [RuleDetector.evaluate, RuleDetector.inputs, heffects, hslow, hdenies,
    List.filterMap_cons_none hinput]
  rfl

end Hidden

/-- The marker `disable` in base64, with no more layers around it and with three. -/
def encodedMarker : String := "ZGlzYWJsZQ=="

def encodedTwice : String := "WkdsellXSnNaUT09"

def encodedThrice : String := "V2tkc2VsbFhTbk5hVVQwOQ=="

def outOfReach : String := "VjJ0a2MyVnNiRmhUYms1aFZWUXdPUT09"

theorem layer_encodedTwice : Layer encodedMarker encodedTwice := layer_standard (by decide)

theorem layer_encodedThrice : Layer encodedTwice encodedThrice := layer_standard (by decide)

theorem layer_outOfReach : Layer encodedThrice outOfReach := layer_standard (by decide)

theorem printable_encodedMarker : Printable encodedMarker := printable_of_all (by decide)

theorem expand_outOfReach : expand 4 outOfReach =
    [outOfReach, encodedThrice, encodedTwice, encodedMarker].map toAsciiLowercase := by
  have hsecond := layer_encodedTwice.printable printable_encodedMarker
  rw [expand_layer layer_outOfReach (layer_encodedThrice.printable hsecond) (by decide)
      (by decide),
    expand_layer layer_encodedThrice hsecond (by decide) (by decide),
    expand_layer layer_encodedTwice printable_encodedMarker (by decide) (by decide),
    expand_one (by decide)]
  rfl

theorem outOfReach_clear :
    containsText (normalizedSignalText { auditSignal with resource := outOfReach }) "disable" =
      false := by
  have hvalue : valueTexts auditSignal = [] := rfl
  have haction : expand 4 auditSignal.action = [toAsciiLowercase "PUT"] :=
    expand_plain (by decide) (by decide) (by decide) 3
  rw [normalized_eq, hvalue, haction, expand_outOfReach, containsText, String.toList_intercalate]
  simp only [toAsciiLowercase, List.map_cons, List.map_nil, List.cons_append, List.nil_append,
    List.flatMap_nil, String.toList_map]
  decide

/-- **A marker out of reach**: it is found in the resource, but not with three more layers around
it. -/
theorem deep_marker_hidden :
    ¬ ∀ (content encoded : String) (n : Nat), Layers content n encoded → 1 ≤ n → n ≤ 3 →
      Printable content → encoded.utf8ByteSize ≤ 8192 → ∀ (state : TrajectoryState)
      (signal : RiskSignal), (∃ rule, ruleFor state { signal with resource := content } = some rule ∧
        rule.id ∈ markerRules) →
      ∀ (detector : RuleDetector) (draw : Nat → String) (signals : List RiskSignal),
        { signal with resource := encoded } ∈ signals →
        ∃ found ∈ detector.evaluate draw state signals,
          found.evidenceEventIds = evidence [signal] := by
  intro hdetected
  have hlower : toAsciiLowercase "disable" = "disable" := by
    refine String.toList_injective ?_
    rw [toAsciiLowercase, String.toList_map]
    decide
  have hprintable : Printable "disable" := printable_of_all (by decide)
  have hlayer : Layer "disable" encodedMarker := layer_standard (by decide)
  have hcontains : containsText (normalizedSignalText { auditSignal with resource := encodedMarker })
      (toAsciiLowercase "disable") = true :=
    normalized_contains (Layers.none.next hlayer) (by decide) hprintable (by decide)
      (.inr rfl)
  rw [hlower] at hcontains
  have hfires : ∃ rule, ruleFor (TrajectoryMonitor.fresh sampleStart 0).state
      { auditSignal with resource := encodedMarker } = some rule ∧ rule.id ∈ markerRules :=
    markerRule_iff.mpr ⟨"disable", List.mem_cons_self, hcontains⟩
  have hnone : ruleFor (TrajectoryMonitor.fresh sampleStart 0).state
      { auditSignal with resource := outOfReach } = none := by
    refine ruleFor_eq_none (by decide) (by decide) fun marker hmarker => ?_
    obtain rfl := List.mem_singleton.mp hmarker
    exact outOfReach_clear
  obtain ⟨found, hfound, -⟩ := hdetected encodedMarker outOfReach 3
    (((Layers.none.next layer_encodedTwice).next layer_encodedThrice).next layer_outOfReach)
    (by decide) le_rfl printable_encodedMarker (by decide)
    (TrajectoryMonitor.fresh sampleStart 0).state auditSignal hfires sampleDetector (fun _ => "")
    [{ auditSignal with resource := outOfReach }] List.mem_cons_self
  rw [evaluate_single hnone] at hfound
  exact List.not_mem_nil hfound

end AgentSphere.Anomaly
