import AgentSphere.Industrial.Assets
import AgentSphere.Lib.Program
import Mathlib.Data.List.Induction
import Mathlib.Tactic.NormNum

/-!
# Safety policies

The local policy of a gateway and the central envelopes it is kept within. An envelope is replaced
only by one that the local policy is not looser than, and its content may not change under the
same version. The second check knows only the envelope in force: once it has been replaced, its
version may come back with other content.
-/

namespace AgentSphere.Industrial

open Concurrency

structure CentralSafetyEnvelope where
  schemaVersion : String
  policyVersion : String
  allowedProtocols : Finset IndustrialProtocol
  maximumRisk : RiskLevel
  writeEnabled : Bool
  absoluteMinimum : ℚ
  absoluteMaximum : ℚ
  maximumDelta : ℚ
  expiresAt : DateTime
  deriving DecidableEq

structure LocalSafetyPolicy where
  schemaVersion : String
  policyVersion : String
  allowedProtocols : Finset IndustrialProtocol
  maximumRisk : RiskLevel
  writeEnabled : Bool
  absoluteMinimum : ℚ
  absoluteMaximum : ℚ
  maximumDelta : ℚ
  deriving DecidableEq

namespace LocalSafetyPolicy

structure NotLooser (policy : LocalSafetyPolicy) (central : CentralSafetyEnvelope) : Prop where
  protocols : policy.allowedProtocols ⊆ central.allowedProtocols
  risk : policy.maximumRisk.rank ≤ central.maximumRisk.rank
  writes : policy.writeEnabled = true → central.writeEnabled = true
  minimum : central.absoluteMinimum ≤ policy.absoluteMinimum
  maximum : policy.absoluteMaximum ≤ central.absoluteMaximum
  delta : policy.maximumDelta ≤ central.maximumDelta

def verifyNotLooser (policy : LocalSafetyPolicy) (central : CentralSafetyEnvelope)
    (now : DateTime) : Except IndustrialError Unit :=
  require (policy.schemaVersion = industrialSchemaVersion ∧
    central.schemaVersion = industrialSchemaVersion ∧
    policy.policyVersion ≠ "" ∧ central.policyVersion ≠ "" ∧ now < central.expiresAt ∧
    policy.absoluteMinimum < policy.absoluteMaximum ∧
    central.absoluteMinimum < central.absoluteMaximum ∧
    0 < policy.maximumDelta ∧ 0 < central.maximumDelta ∧
    policy.allowedProtocols ⊆ central.allowedProtocols ∧
    policy.maximumRisk.rank ≤ central.maximumRisk.rank ∧
    (policy.writeEnabled = true → central.writeEnabled = true) ∧
    central.absoluteMinimum ≤ policy.absoluteMinimum ∧
    policy.absoluteMaximum ≤ central.absoluteMaximum ∧
    policy.maximumDelta ≤ central.maximumDelta) .localPolicyTooPermissive

/-- What `verify_not_looser` accepts is not looser. -/
theorem NotLooser.of_verify {policy : LocalSafetyPolicy} {central : CentralSafetyEnvelope}
    {now : DateTime} (h : policy.verifyNotLooser central now = .ok ()) :
    policy.NotLooser central := by
  unfold verifyNotLooser at h
  obtain ⟨-, -, -, -, -, -, -, -, -, hprotocols, hrisk, hwrites, hminimum, hmaximum, hdelta⟩ :=
    require_eq_ok.mp h
  exact ⟨hprotocols, hrisk, hwrites, hminimum, hmaximum, hdelta⟩

end LocalSafetyPolicy

section Updates

-- `digest` is the SHA-256 of the canonical JSON of an envelope, in hexadecimal
variable (digest : CentralSafetyEnvelope → Option String) (policy : LocalSafetyPolicy)

def digestOf (central : CentralSafetyEnvelope) : Except IndustrialError String :=
  match digest central with
  | some value => .ok value
  | none => .error .configurationInvalid

def checkVersion (current next : CentralSafetyEnvelope) : Except IndustrialError Unit := do
  let currentDigest ← digestOf digest current
  let nextDigest ← digestOf digest next
  require (next.policyVersion = current.policyVersion → nextDigest = currentDigest)
    .configurationInvalid

/-- The checks of `update_central_policy`. -/
def acceptCentral (current next : CentralSafetyEnvelope) (now : DateTime) :
    Except IndustrialError Unit := do
  policy.verifyNotLooser next now
  checkVersion digest current next

/-- One call of `update_central_policy`. -/
structure CentralUpdate where
  next : CentralSafetyEnvelope
  now : DateTime

def updateCentral (current : CentralSafetyEnvelope) (update : CentralUpdate) :
    CentralSafetyEnvelope :=
  match acceptCentral digest policy current update.next update.now with
  | .ok _ => update.next
  | .error _ => current

def centralAfter (first : CentralSafetyEnvelope) (updates : List CentralUpdate) :
    CentralSafetyEnvelope :=
  updates.foldl (updateCentral digest policy) first

def inForce (first : CentralSafetyEnvelope) (updates : List CentralUpdate) :
    List CentralSafetyEnvelope :=
  updates.scanl (updateCentral digest policy) first

def VersionsFixed (envelopes : List CentralSafetyEnvelope) : Prop :=
  ∀ a ∈ envelopes, ∀ b ∈ envelopes, a.policyVersion = b.policyVersion → a = b

def DistinctDigests (envelopes : List CentralSafetyEnvelope) : Prop :=
  ∀ a ∈ envelopes, ∀ b ∈ envelopes, ∀ value, digest a = some value → digest b = some value → a = b

def NoVersionReturns (first : CentralSafetyEnvelope) (updates : List CentralUpdate) : Prop :=
  ∀ before update after, updates = before ++ update :: after →
    policy.verifyNotLooser update.next update.now = .ok () →
    (digest (centralAfter digest policy first before)).isSome = true →
    (digest update.next).isSome = true →
    update.next.policyVersion ≠ (centralAfter digest policy first before).policyVersion →
    ∀ earlier ∈ inForce digest policy first before,
      earlier.policyVersion = update.next.policyVersion → earlier = update.next

variable {digest : CentralSafetyEnvelope → Option String} {policy : LocalSafetyPolicy}
  {first current next : CentralSafetyEnvelope} {now : DateTime} {update : CentralUpdate}
  {updates : List CentralUpdate}

theorem digestOf_eq_ok {value : String} :
    digestOf digest current = .ok value ↔ digest current = some value := by
  unfold digestOf
  cases digest current with
  | none => simp
  | some _ => simp

theorem checkVersion_eq_ok :
    checkVersion digest current next = .ok () ↔
      ∃ currentDigest nextDigest, digest current = some currentDigest ∧
        digest next = some nextDigest ∧
        (next.policyVersion = current.policyVersion → nextDigest = currentDigest) := by
  unfold checkVersion
  simp only [except_bind_eq_ok, digestOf_eq_ok, require_eq_ok]
  constructor
  · rintro ⟨currentDigest, hcurrent, nextDigest, hnext, hsame⟩
    exact ⟨currentDigest, nextDigest, hcurrent, hnext, hsame⟩
  · rintro ⟨currentDigest, nextDigest, hcurrent, hnext, hsame⟩
    exact ⟨currentDigest, hcurrent, nextDigest, hnext, hsame⟩

theorem acceptCentral_eq_ok :
    acceptCentral digest policy current next now = .ok () ↔
      policy.verifyNotLooser next now = .ok () ∧ checkVersion digest current next = .ok () := by
  unfold acceptCentral
  rw [except_bind_eq_ok]
  constructor
  · rintro ⟨⟨⟩, hpolicy, hversion⟩
    exact ⟨hpolicy, hversion⟩
  · rintro ⟨hpolicy, hversion⟩
    exact ⟨(), hpolicy, hversion⟩

theorem updateCentral_cases (digest : CentralSafetyEnvelope → Option String)
    (policy : LocalSafetyPolicy) (current : CentralSafetyEnvelope) (update : CentralUpdate) :
    (acceptCentral digest policy current update.next update.now = .ok () ∧
      updateCentral digest policy current update = update.next) ∨
    updateCentral digest policy current update = current := by
  unfold updateCentral
  cases acceptCentral digest policy current update.next update.now with
  | ok _ => exact .inl ⟨rfl, rfl⟩
  | error e => exact .inr rfl

theorem inForce_concat :
    inForce digest policy first (updates ++ [update]) = inForce digest policy first updates ++
      [updateCentral digest policy (centralAfter digest policy first updates) update] := by
  rw [inForce, List.scanl_append]
  rfl

theorem centralAfter_mem_inForce :
    centralAfter digest policy first updates ∈ inForce digest policy first updates :=
  List.mem_of_getLast? List.getLast?_scanl

theorem inForce_subset {before after : List CentralUpdate} :
    inForce digest policy first before ⊆ inForce digest policy first (before ++ after) := by
  intro central hcentral
  rw [inForce, List.scanl_append]
  exact List.mem_append_left _ hcentral

theorem inForce_offered :
    inForce digest policy first updates ⊆ first :: updates.map CentralUpdate.next := by
  induction updates using List.reverseRecOn with
  | nil => simp [inForce]
  | append_singleton updates update ih =>
    intro central hcentral
    rw [inForce_concat] at hcentral
    have hold : ∀ {central}, central ∈ inForce digest policy first updates →
        central ∈ first :: (updates ++ [update]).map CentralUpdate.next := by
      intro central hcentral
      rw [List.map_append, ← List.cons_append]
      exact List.mem_append_left _ (ih hcentral)
    rcases List.mem_append.mp hcentral with hbefore | hnew
    · exact hold hbefore
    · obtain rfl := List.mem_singleton.mp hnew
      obtain ⟨-, hnext⟩ | hsame := updateCentral_cases digest policy
        (centralAfter digest policy first updates) update
      · simp [hnext]
      · rw [hsame]
        exact hold centralAfter_mem_inForce

theorem notLooser_of_inForce (hfirst : policy.NotLooser first) :
    ∀ central ∈ inForce digest policy first updates, policy.NotLooser central := by
  induction updates using List.reverseRecOn with
  | nil => simpa [inForce] using hfirst
  | append_singleton updates update ih =>
    intro central hcentral
    rw [inForce_concat] at hcentral
    rcases List.mem_append.mp hcentral with hbefore | hnew
    · exact ih central hbefore
    · obtain rfl := List.mem_singleton.mp hnew
      obtain ⟨haccept, hnext⟩ | hsame := updateCentral_cases digest policy
        (centralAfter digest policy first updates) update
      · rw [hnext]
        exact .of_verify (acceptCentral_eq_ok.mp haccept).1
      · rw [hsame]
        exact ih _ centralAfter_mem_inForce

theorem versionsFixed_concat
    (hdigests : DistinctDigests digest (first :: (updates ++ [update]).map CentralUpdate.next))
    (hreturns : NoVersionReturns digest policy first (updates ++ [update]))
    (hfixed : VersionsFixed (inForce digest policy first updates)) :
    VersionsFixed (inForce digest policy first (updates ++ [update])) := by
  rw [inForce_concat]
  obtain ⟨haccept, hnext⟩ | hsame := updateCentral_cases digest policy
    (centralAfter digest policy first updates) update
  · obtain ⟨hpolicy, hversion⟩ := acceptCentral_eq_ok.mp haccept
    obtain ⟨currentDigest, nextDigest, hcurrent, hoffered, hbound⟩ := checkVersion_eq_ok.mp hversion
    rw [hnext]
    -- an envelope with the version of the new one is the new one
    have hmatch : ∀ earlier ∈ inForce digest policy first updates,
        earlier.policyVersion = update.next.policyVersion → earlier = update.next := by
      intro earlier hearlier hearlierVersion
      by_cases hcontinued : update.next.policyVersion =
          (centralAfter digest policy first updates).policyVersion
      · have hlast : centralAfter digest policy first updates = update.next := by
          refine hdigests _ ?_ _ ?_ nextDigest (by rw [hcurrent, hbound hcontinued]) hoffered
          · exact inForce_offered (inForce_subset centralAfter_mem_inForce)
          · simp
        rw [← hlast]
        exact hfixed earlier hearlier _ centralAfter_mem_inForce
          (hearlierVersion.trans hcontinued)
      · exact hreturns updates update [] rfl hpolicy (by rw [hcurrent]; rfl)
          (by rw [hoffered]; rfl) hcontinued earlier hearlier hearlierVersion
    intro a ha b hb hab
    rcases List.mem_append.mp ha with ha | ha
    · rcases List.mem_append.mp hb with hb | hb
      · exact hfixed a ha b hb hab
      · obtain rfl := List.mem_singleton.mp hb
        exact hmatch a ha hab
    · obtain rfl := List.mem_singleton.mp ha
      rcases List.mem_append.mp hb with hb | hb
      · exact (hmatch b hb hab.symm).symm
      · exact (List.mem_singleton.mp hb).symm
  · -- nothing new is in force
    have hmem : ∀ {central}, central ∈ inForce digest policy first updates ++
        [updateCentral digest policy (centralAfter digest policy first updates) update] →
        central ∈ inForce digest policy first updates := by
      intro central hcentral
      rcases List.mem_append.mp hcentral with hbefore | hnew
      · exact hbefore
      · obtain rfl := List.mem_singleton.mp hnew
        rw [hsame]
        exact centralAfter_mem_inForce
    exact fun a ha b hb => hfixed a (hmem ha) b (hmem hb)

theorem NoVersionReturns.of_append {before after : List CentralUpdate}
    (h : NoVersionReturns digest policy first (before ++ after)) :
    NoVersionReturns digest policy first before := by
  rintro earlier update later rfl
  exact h earlier update (later ++ after) (by simp)

theorem DistinctDigests.mono {envelopes envelopes' : List CentralSafetyEnvelope}
    (h : DistinctDigests digest envelopes) (hsubset : envelopes' ⊆ envelopes) :
    DistinctDigests digest envelopes' :=
  fun a ha b hb => h a (hsubset ha) b (hsubset hb)

/-- **Versions**: all envelopes in force with the same version are the same exactly if no update
brings back a replaced version with other content. -/
theorem versions_fixed_iff
    (hnew : policy.verifyNotLooser first now = .ok ())
    (hdigests : DistinctDigests digest (first :: updates.map CentralUpdate.next)) :
    (VersionsFixed (inForce digest policy first updates) ∧
      ∀ central ∈ inForce digest policy first updates, policy.NotLooser central) ↔
    NoVersionReturns digest policy first updates := by
  constructor
  · rintro ⟨hfixed, -⟩ before update after rfl hpolicy hcurrent hoffered hversion earlier hearlier
      hearlierVersion
    obtain ⟨currentDigest, hcurrent⟩ := Option.isSome_iff_exists.mp hcurrent
    obtain ⟨nextDigest, hoffered⟩ := Option.isSome_iff_exists.mp hoffered
    -- the update is accepted, so that its envelope has been in force too
    have haccept : acceptCentral digest policy (centralAfter digest policy first before)
        update.next update.now = .ok () :=
      acceptCentral_eq_ok.mpr ⟨hpolicy, checkVersion_eq_ok.mpr
        ⟨currentDigest, nextDigest, hcurrent, hoffered, fun hsame => absurd hsame hversion⟩⟩
    have hput : update.next ∈ inForce digest policy first (before ++ [update]) := by
      rw [inForce_concat, updateCentral, haccept]
      exact List.mem_append_right _ List.mem_cons_self
    refine hfixed earlier (inForce_subset hearlier) update.next ?_ hearlierVersion
    have hafter : update.next ∈ inForce digest policy first (before ++ [update] ++ after) :=
      inForce_subset hput
    rwa [List.append_assoc] at hafter
  · intro hreturns
    refine ⟨?_, notLooser_of_inForce (.of_verify hnew)⟩
    induction updates using List.reverseRecOn with
    | nil =>
      intro a ha b hb _
      rw [inForce, List.scanl_nil, List.mem_singleton] at ha hb
      rw [ha, hb]
    | append_singleton updates update ih =>
      refine versionsFixed_concat hdigests hreturns (ih (hdigests.mono ?_) hreturns.of_append)
      rw [List.map_append, ← List.cons_append]
      exact List.subset_append_left _ _

end Updates

-- A sample policy

def sampleLocal (maximumRisk : RiskLevel) : LocalSafetyPolicy where
  schemaVersion := industrialSchemaVersion
  policyVersion := "local-1"
  allowedProtocols := {.modbus}
  maximumRisk := maximumRisk
  writeEnabled := true
  absoluteMinimum := 0
  absoluteMaximum := 100
  maximumDelta := 10

def sampleCentral (policyVersion : String) (maximumDelta : ℚ) : CentralSafetyEnvelope where
  schemaVersion := industrialSchemaVersion
  policyVersion := policyVersion
  allowedProtocols := {.modbus}
  maximumRisk := .high
  writeEnabled := true
  absoluteMinimum := 0
  absoluteMaximum := 100
  maximumDelta := maximumDelta
  expiresAt := 300000000000

def sampleDigest (central : CentralSafetyEnvelope) : Option String :=
  some (central.policyVersion ++ "/" ++ toString central.maximumDelta.num)

def sampleUpdates (maximumDelta : ℚ) : List CentralUpdate :=
  [⟨sampleCentral "central-2" 10, 1⟩, ⟨sampleCentral "central-1" maximumDelta, 2⟩]

theorem sampleUpdates_inForce {maximumDelta : ℚ} (hdelta : 10 ≤ maximumDelta) :
    inForce sampleDigest (sampleLocal .high) (sampleCentral "central-1" 10)
      (sampleUpdates maximumDelta) =
    [sampleCentral "central-1" 10, sampleCentral "central-2" 10,
      sampleCentral "central-1" maximumDelta] := by
  have hfirst : acceptCentral sampleDigest (sampleLocal .high) (sampleCentral "central-1" 10)
      (sampleCentral "central-2" 10) 1 = .ok () := by
    decide
  have hsecond : acceptCentral sampleDigest (sampleLocal .high) (sampleCentral "central-2" 10)
      (sampleCentral "central-1" maximumDelta) 2 = .ok () := by
    refine acceptCentral_eq_ok.mpr ⟨?_, checkVersion_eq_ok.mpr ⟨_, _, rfl, rfl, ?_⟩⟩
    · have hpositive : (0 : ℚ) < maximumDelta := lt_of_lt_of_le (by norm_num) hdelta
      unfold LocalSafetyPolicy.verifyNotLooser
      rw [require_eq_ok]
      simpa [sampleLocal, sampleCentral, hpositive] using hdelta
    · intro hsame
      have hversions : "central-1" = "central-2" := hsame
      exact absurd hversions (by decide)
  simp [inForce, sampleUpdates, updateCentral, hfirst, hsecond]

theorem sampleUpdates_distinct {maximumDelta : ℚ} (hdelta : maximumDelta = 10 ∨ maximumDelta = 11) :
    DistinctDigests sampleDigest
      (sampleCentral "central-1" 10 :: (sampleUpdates maximumDelta).map CentralUpdate.next) := by
  have hdistinct : ∀ a ∈ [sampleCentral "central-1" 10, sampleCentral "central-2" 10,
      sampleCentral "central-1" maximumDelta], ∀ b ∈ [sampleCentral "central-1" 10,
      sampleCentral "central-2" 10, sampleCentral "central-1" maximumDelta],
      sampleDigest a = sampleDigest b → a = b := by
    rcases hdelta with rfl | rfl <;> decide
  intro a ha b hb value hvalue hvalue'
  exact hdistinct a ha b hb (hvalue.trans hvalue'.symm)

/-- **Counterexample**: the first version comes back with another largest step. -/
theorem version_returns :
    (sampleLocal .high).verifyNotLooser (sampleCentral "central-1" 10) 0 = .ok () ∧
    DistinctDigests sampleDigest
      (sampleCentral "central-1" 10 :: (sampleUpdates 11).map CentralUpdate.next) ∧
    ¬VersionsFixed (inForce sampleDigest (sampleLocal .high) (sampleCentral "central-1" 10)
      (sampleUpdates 11)) := by
  refine ⟨by decide, sampleUpdates_distinct (.inr rfl), ?_⟩
  intro hfixed
  rw [sampleUpdates_inForce (by norm_num)] at hfixed
  have hsame : sampleCentral "central-1" 10 = sampleCentral "central-1" 11 :=
    hfixed _ (by simp) _ (by simp) rfl
  exact absurd (congrArg CentralSafetyEnvelope.maximumDelta hsame) (by decide)

/-- The criterion at a concrete sequence: the first version comes back as it was. -/
theorem versions_fixed_sample :
    (VersionsFixed (inForce sampleDigest (sampleLocal .high) (sampleCentral "central-1" 10)
        (sampleUpdates 10)) ∧
      ∀ central ∈ inForce sampleDigest (sampleLocal .high) (sampleCentral "central-1" 10)
        (sampleUpdates 10), (sampleLocal .high).NotLooser central) ↔
    NoVersionReturns sampleDigest (sampleLocal .high) (sampleCentral "central-1" 10)
      (sampleUpdates 10) := by
  have hnew : (sampleLocal .high).verifyNotLooser (sampleCentral "central-1" 10) 0 = .ok () := by
    decide
  exact versions_fixed_iff hnew (sampleUpdates_distinct (.inl rfl))

end AgentSphere.Industrial
