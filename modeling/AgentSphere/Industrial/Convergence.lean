import AgentSphere.Industrial.Assets
import AgentSphere.Lib.Program
import Mathlib.Data.List.Chain
import Mathlib.Data.List.DropRight
import Mathlib.Data.List.Induction
import Mathlib.Order.Bounds.Basic

/-!
# What convergence means

`verify_convergence` goes over the samples once, with six accumulators. Its answer is stated here of
the list of samples as a whole: which series are accepted, how long the last stretch within the
tolerance is, how often the samples outside change sides, and how far off the farthest one is.
-/

namespace AgentSphere.Industrial

open Concurrency

section Series

variable (asF64 : Value → Option ℚ) (policy : IndustrialConvergencePolicy) (target : ℚ)

def deltaOf (sample : TelemetrySample) : ℚ := (asF64 sample.value).getD 0 - target

def errorOf (sample : TelemetrySample) : ℚ := |deltaOf asF64 target sample|

def isWithin (sample : TelemetrySample) : Bool := errorOf asF64 target sample ≤ policy.tolerance

def sideOf (sample : TelemetrySample) : Int := if 0 ≤ deltaOf asF64 target sample then 1 else -1

def sides (samples : List TelemetrySample) : List Int :=
  (samples.filter fun sample => !isWithin asF64 policy target sample).map (sideOf asF64 target)

def changes : List Int → Nat
  | first :: second :: rest => (if first = second then 0 else 1) + changes (second :: rest)
  | _ => 0

def stable (samples : List TelemetrySample) : Nat :=
  (samples.rtakeWhile (isWithin asF64 policy target)).length

def largestError (samples : List TelemetrySample) : ℚ :=
  samples.foldl (fun largest sample => max largest (errorOf asF64 target sample)) 0

structure IsSample (engineeringUnit resourceKey : String) (freshnessMs : Nat) (now : DateTime)
    (sample : TelemetrySample) : Prop where
  good : sample.quality = .good
  fresh : sample.sampledAt ≤ now ∧ now ≤ sample.sampledAt + milliseconds freshnessMs
  unit : sample.engineeringUnit = engineeringUnit
  resource : sample.resourceKey = resourceKey
  number : (asF64 sample.value).isSome = true
  overshoot : errorOf asF64 target sample ≤ policy.maximumOvershoot

def Before (sample later : TelemetrySample) : Prop :=
  sample.sequence < later.sequence ∧ sample.sampledAt < later.sampledAt

structure Settles (engineeringUnit resourceKey : String) (freshnessMs : Nat) (now : DateTime)
    (samples : List TelemetrySample) : Prop where
  enough : policy.minimumGoodSamples ≤ samples.length
  bounded : samples.length ≤ policy.maximumSamples
  each : ∀ sample ∈ samples,
    IsSample asF64 policy target engineeringUnit resourceKey freshnessMs now sample
  ordered : samples.Pairwise Before
  settled : ∀ sample ∈ samples.drop (samples.length - policy.minimumGoodSamples),
    isWithin asF64 policy target sample = true
  oscillations : changes (sides asF64 policy target samples) ≤ policy.maximumOscillations

def summary (samples : List TelemetrySample) : Observed where
  maximumError := largestError asF64 target samples
  stable := stable asF64 policy target samples
  oscillations := changes (sides asF64 policy target samples)
  priorSign := (sides asF64 policy target samples).getLast?.getD 0
  prior := samples.getLast?.map fun sample => (sample.sequence, sample.sampledAt)

/-- The evidence of a series from `first` to `last`. -/
def evidenceOf (samples : List TelemetrySample) (first last : TelemetrySample) :
    IndustrialConvergenceEvidence where
  targetValue := target
  sampleCount := samples.length
  stableSampleCount := stable asF64 policy target samples
  maximumObservedError := largestError asF64 target samples
  oscillations := changes (sides asF64 policy target samples)
  firstSequence := first.sequence
  lastSequence := last.sequence
  converged := true

-- One sample more

variable {asF64 policy target} {samples : List TelemetrySample} {sample : TelemetrySample}

theorem largestError_concat :
    largestError asF64 target (samples ++ [sample]) =
      max (largestError asF64 target samples) (errorOf asF64 target sample) := by
  rw [largestError, List.foldl_append]
  rfl

theorem stable_concat :
    stable asF64 policy target (samples ++ [sample]) =
      if isWithin asF64 policy target sample then stable asF64 policy target samples + 1
      else 0 := by
  rw [stable, List.rtakeWhile_concat]
  split_ifs
  · rw [List.length_append]
    rfl
  · rfl

theorem sides_concat :
    sides asF64 policy target (samples ++ [sample]) =
      if isWithin asF64 policy target sample then sides asF64 policy target samples
      else sides asF64 policy target samples ++ [sideOf asF64 target sample] := by
  rw [sides, List.filter_append, List.filter_singleton]
  cases isWithin asF64 policy target sample with
  | true => simp [sides]
  | false => simp [sides]

theorem sideOf_ne_zero : sideOf asF64 target sample ≠ 0 := by
  unfold sideOf
  split_ifs <;> decide

theorem changes_concat (sides : List Int) (side : Int) :
    changes (sides ++ [side]) =
      changes sides + if ∃ last ∈ sides.getLast?, last ≠ side then 1 else 0 := by
  induction sides with
  | nil => rfl
  | cons first sides ih =>
    cases sides with
    | nil =>
      by_cases h : first = side
      · simp [changes, h]
      · simp [changes, h]
    | cons second sides =>
      rw [List.cons_append, List.cons_append, changes, ← List.cons_append, ih, changes,
        List.getLast?_cons_cons, Nat.add_assoc]

theorem changes_le_length (sides : List Int) : changes sides ≤ sides.length := by
  induction sides using List.reverseRecOn with
  | nil => exact Nat.zero_le _
  | append_singleton sides side ih =>
    rw [changes_concat, List.length_append, List.length_singleton]
    split_ifs <;> omega

theorem stable_le_length : stable asF64 policy target samples ≤ samples.length :=
  (List.rtakeWhile_suffix _ _).length_le

theorem changes_sides_le_length :
    changes (sides asF64 policy target samples) ≤ samples.length := by
  refine (changes_le_length _).trans ?_
  rw [sides, List.length_map]
  exact List.length_filter_le _ _

instance : IsTrans TelemetrySample Before where
  trans _ _ _ h h' := ⟨h.1.trans h'.1, h.2.trans h'.2⟩

theorem pairwise_before_concat :
    (samples ++ [sample]).Pairwise Before ↔
      samples.Pairwise Before ∧ ∀ last ∈ samples.getLast?, Before last sample := by
  rw [← List.isChain_iff_pairwise, ← List.isChain_iff_pairwise, List.isChain_append]
  simp

-- The loop

variable {engineeringUnit resourceKey : String} {freshnessMs : Nat} {now : DateTime}
  {seen : Observed} {side : Int}

theorem saturatingSucc_of_lt {n : Nat} (h : n < 65535) : saturatingSucc n = n + 1 :=
  min_eq_left h

theorem isWithin_iff :
    isWithin asF64 policy target sample = true ↔ errorOf asF64 target sample ≤ policy.tolerance :=
  decide_eq_true_iff

theorem oscillations_concat (hlength : samples.length < 65535) :
    (if (summary asF64 policy target samples).priorSign ≠ 0 ∧
          (summary asF64 policy target samples).priorSign ≠ side then
        saturatingSucc (summary asF64 policy target samples).oscillations
      else (summary asF64 policy target samples).oscillations) =
      changes (sides asF64 policy target samples ++ [side]) := by
  have hbound : changes (sides asF64 policy target samples) < 65535 :=
    changes_sides_le_length.trans_lt hlength
  rw [changes_concat]
  cases hlast : (sides asF64 policy target samples).getLast? with
  | none => simp [summary, hlast]
  | some last =>
    have hne : last ≠ 0 := by
      obtain ⟨sample', -, rfl⟩ := List.mem_map.mp (List.mem_of_getLast? hlast)
      exact sideOf_ne_zero
    by_cases h : last = side
    · simp [summary, hlast, h]
    · simp [summary, hlast, h, hne, saturatingSucc_of_lt hbound]

theorem summary_concat (hlength : samples.length < 65535) :
    summary asF64 policy target (samples ++ [sample]) =
      if errorOf asF64 target sample ≤ policy.tolerance then
        { summary asF64 policy target samples with
          maximumError := max (largestError asF64 target samples) (errorOf asF64 target sample)
          stable := saturatingSucc (stable asF64 policy target samples)
          prior := some (sample.sequence, sample.sampledAt) }
      else
        { maximumError := max (largestError asF64 target samples) (errorOf asF64 target sample)
          stable := 0
          oscillations :=
            changes (sides asF64 policy target samples ++ [sideOf asF64 target sample])
          priorSign := sideOf asF64 target sample
          prior := some (sample.sequence, sample.sampledAt) } := by
  have hstable : saturatingSucc (stable asF64 policy target samples) =
      stable asF64 policy target samples + 1 :=
    saturatingSucc_of_lt (stable_le_length.trans_lt hlength)
  rw [summary, largestError_concat, stable_concat, sides_concat, hstable]
  by_cases h : errorOf asF64 target sample ≤ policy.tolerance
  · simp [isWithin_iff.mpr h, h, summary]
  · have hout : isWithin asF64 policy target sample = false := decide_eq_false h
    simp [hout, h]

theorem observe_iff (hlength : samples.length < 65535) :
    observe asF64 policy target engineeringUnit resourceKey freshnessMs now
        (summary asF64 policy target samples) sample = .ok seen ↔
      IsSample asF64 policy target engineeringUnit resourceKey freshnessMs now sample ∧
        (∀ last ∈ samples.getLast?, Before last sample) ∧
        summary asF64 policy target (samples ++ [sample]) = seen := by
  have hprior : (∀ last ∈ (summary asF64 policy target samples).prior,
      last.1 < sample.sequence ∧ last.2 < sample.sampledAt) ↔
      ∀ last ∈ samples.getLast?, Before last sample := by
    simp [summary, Before]
  cases hvalue : asF64 sample.value with
  | none =>
    constructor
    · intro h
      simp [observe, hvalue, except_bind_eq_ok] at h
    · rintro ⟨h, -, -⟩
      have := h.number
      simp [hvalue] at this
  | some value =>
    have hdelta : value - target = deltaOf asF64 target sample := by
      rw [deltaOf, hvalue]
      rfl
    have hpure {condition : Prop} [Decidable condition] {a b : Observed} :
        (if condition then (pure a : Except IndustrialError Observed) else pure b) = .ok seen ↔
          (if condition then a else b) = seen := by
      split_ifs
      · exact Except.ok.injEq a seen ▸ Iff.rfl
      · exact Except.ok.injEq b seen ▸ Iff.rfl
    rw [summary_concat hlength, ← oscillations_concat hlength]
    simp only [observe, hvalue, except_bind_eq_ok, require_eq_ok, hprior, hdelta,
      exists_and_left, exists_const, validateFreshGood, hpure]
    constructor
    · rintro ⟨⟨hgood, hpast, hfresh⟩, ⟨hunit, hresource⟩, hbefore, hovershoot, hseen⟩
      exact ⟨⟨hgood, ⟨hpast, hfresh⟩, hunit, hresource, by rw [hvalue]; rfl, hovershoot⟩, hbefore,
        hseen⟩
    · rintro ⟨h, hbefore, hseen⟩
      exact ⟨⟨h.good, h.fresh⟩, ⟨h.unit, h.resource⟩, hbefore, h.overshoot, hseen⟩

theorem foldlM_observe_iff (hlength : samples.length < 65536) :
    samples.foldlM (observe asF64 policy target engineeringUnit resourceKey freshnessMs now)
        ⟨0, 0, 0, 0, none⟩ = .ok seen ↔
      (∀ sample ∈ samples,
        IsSample asF64 policy target engineeringUnit resourceKey freshnessMs now sample) ∧
      samples.Pairwise Before ∧ summary asF64 policy target samples = seen := by
  -- from the last sample, which the one before it suffices to order
  induction samples using List.reverseRecOn generalizing seen with
  | nil =>
    refine ⟨fun h => ⟨by simp, .nil, Except.ok.inj h⟩, fun h => congrArg Except.ok h.2.2⟩
  | append_singleton samples sample ih =>
    rw [List.length_append, List.length_singleton] at hlength
    have hshorter : samples.length < 65535 := by omega
    rw [List.foldlM_append, except_bind_eq_ok, pairwise_before_concat, List.forall_mem_append]
    simp only [List.foldlM_cons, List.foldlM_nil, bind_pure]
    constructor
    · rintro ⟨seen', hseen', hstep⟩
      obtain ⟨heach, hordered, rfl⟩ := (ih (by omega)).mp hseen'
      obtain ⟨hsample, hbefore, hseen⟩ := (observe_iff hshorter).mp hstep
      exact ⟨⟨heach, by simpa using hsample⟩, ⟨hordered, hbefore⟩, hseen⟩
    · rintro ⟨⟨heach, hsample⟩, ⟨hordered, hbefore⟩, hseen⟩
      refine ⟨_, (ih (by omega)).mpr ⟨heach, hordered, rfl⟩, (observe_iff hshorter).mpr ?_⟩
      exact ⟨by simpa using hsample, hbefore, hseen⟩

-- What the evidence says

theorem le_length_rtakeWhile_iff {α : Type} {p : α → Bool} {l : List α} {n : Nat} :
    n ≤ (l.rtakeWhile p).length ↔ n ≤ l.length ∧ ∀ a ∈ l.drop (l.length - n), p a = true := by
  induction l using List.reverseRecOn generalizing n with
  | nil => simp
  | append_singleton l a ih =>
    cases n with
    | zero => simp
    | succ n =>
      have hdrop : (l ++ [a]).drop (l.length + 1 - (n + 1)) = l.drop (l.length - n) ++ [a] := by
        rw [Nat.add_sub_add_right, List.drop_append_of_le_length (Nat.sub_le _ _)]
      rw [List.rtakeWhile_concat, List.length_append, List.length_singleton, hdrop,
        List.forall_mem_append]
      by_cases h : p a = true
      · rw [if_pos h, List.length_append, List.length_singleton, Nat.succ_le_succ_iff,
          Nat.succ_le_succ_iff, ih]
        simp [h]
      · rw [if_neg h]
        simp [h]

/-- The last `n` samples are within the tolerance when the last stretch is that long. -/
theorem le_stable_iff {n : Nat} :
    n ≤ stable asF64 policy target samples ↔ n ≤ samples.length ∧
      ∀ sample ∈ samples.drop (samples.length - n), isWithin asF64 policy target sample = true :=
  le_length_rtakeWhile_iff

theorem stable_isGreatest :
    IsGreatest {n | n ≤ samples.length ∧
        ∀ sample ∈ samples.drop (samples.length - n), isWithin asF64 policy target sample = true}
      (stable asF64 policy target samples) :=
  ⟨le_stable_iff.mp le_rfl, fun _ h => le_stable_iff.mpr h⟩

theorem largestError_isGreatest (hne : samples ≠ []) :
    IsGreatest {error | ∃ sample ∈ samples, errorOf asF64 target sample = error}
      (largestError asF64 target samples) := by
  induction samples using List.reverseRecOn with
  | nil => exact absurd rfl hne
  | append_singleton samples sample ih =>
    rw [largestError_concat]
    by_cases h : samples = []
    · subst h
      have hmax : max (largestError asF64 target []) (errorOf asF64 target sample) =
          errorOf asF64 target sample :=
        max_eq_right (abs_nonneg _)
      rw [hmax]
      refine ⟨⟨sample, by simp, rfl⟩, ?_⟩
      rintro error ⟨sample', hmem, rfl⟩
      rw [List.nil_append, List.mem_singleton] at hmem
      rw [hmem]
    · obtain ⟨⟨largest, hlargest, heq⟩, hupper⟩ := ih h
      refine ⟨?_, ?_⟩
      · obtain hmax | hmax := max_choice (largestError asF64 target samples)
          (errorOf asF64 target sample)
        · exact ⟨largest, List.mem_append_left _ hlargest, heq.trans hmax.symm⟩
        · exact ⟨sample, by simp, hmax.symm⟩
      · rintro error ⟨sample', hmem, rfl⟩
        obtain hold | hnew := List.mem_append.mp hmem
        · exact le_max_of_le_left (hupper ⟨sample', hold, rfl⟩)
        · rw [List.mem_singleton.mp hnew]
          exact le_max_right _ _

theorem evidenceOf_eq_ok {evidence : IndustrialConvergenceEvidence} :
    (match samples.head?, samples.getLast? with
      | some first, some last => (pure (evidenceOf asF64 policy target samples first last) :
          Except IndustrialError IndustrialConvergenceEvidence)
      | _, _ => .error .convergenceFailed) = .ok evidence ↔
      ∃ first ∈ samples.head?, ∃ last ∈ samples.getLast?,
        evidenceOf asF64 policy target samples first last = evidence := by
  cases samples.head? with
  | none => simp
  | some first =>
    cases samples.getLast? with
    | none => simp
    | some last => simp [pure, Except.pure]

/-- What `verify_convergence` returns, and when. -/
theorem verifyConvergence_eq_ok (hvalid : policy.validate false = .ok ())
    {evidence : IndustrialConvergenceEvidence} :
    verifyConvergence asF64 policy samples target engineeringUnit resourceKey freshnessMs now =
        .ok evidence ↔
      Settles asF64 policy target engineeringUnit resourceKey freshnessMs now samples ∧
        ∃ first ∈ samples.head?, ∃ last ∈ samples.getLast?,
          evidenceOf asF64 policy target samples first last = evidence := by
  have hmost : policy.maximumSamples ≤ 1024 := (require_eq_ok.mp hvalid).2.2.2.2.1
  simp only [verifyConvergence, except_bind_eq_ok, require_eq_ok, hvalid, exists_and_left,
    exists_const, true_and]
  constructor
  · rintro ⟨⟨henough, hbounded⟩, seen, hseen, ⟨hstable, hoscillations⟩, hlength, hevidence⟩
    obtain ⟨heach, hordered, rfl⟩ := (foldlM_observe_iff hlength).mp hseen
    exact ⟨⟨henough, hbounded, heach, hordered, (le_stable_iff.mp hstable).2, hoscillations⟩,
      evidenceOf_eq_ok.mp hevidence⟩
  · rintro ⟨h, hevidence⟩
    have hlength : samples.length < 65536 := h.bounded.trans_lt (by omega)
    exact ⟨⟨h.enough, h.bounded⟩, _,
      (foldlM_observe_iff hlength).mpr ⟨h.each, h.ordered, rfl⟩,
      ⟨le_stable_iff.mpr ⟨h.enough, h.settled⟩, h.oscillations⟩, hlength,
      evidenceOf_eq_ok.mpr hevidence⟩

/-- `verify_convergence` under a valid policy: which series are accepted, and what the evidence
says of them. -/
theorem verify_convergence_iff (hvalid : policy.validate false = .ok ()) :
    ((∃ evidence, verifyConvergence asF64 policy samples target engineeringUnit resourceKey
        freshnessMs now = .ok evidence) ↔
      Settles asF64 policy target engineeringUnit resourceKey freshnessMs now samples) ∧
    ∀ evidence, verifyConvergence asF64 policy samples target engineeringUnit resourceKey
        freshnessMs now = .ok evidence →
      IsGreatest {n | n ≤ samples.length ∧ ∀ sample ∈ samples.drop (samples.length - n),
          isWithin asF64 policy target sample = true} evidence.stableSampleCount ∧
        IsGreatest {error | ∃ sample ∈ samples, errorOf asF64 target sample = error}
          evidence.maximumObservedError ∧
        evidence.oscillations = changes (sides asF64 policy target samples) ∧
        evidence.sampleCount = samples.length := by
  have hleast : policy.minimumGoodSamples ≠ 0 := (require_eq_ok.mp hvalid).2.1
  have hsome (h : Settles asF64 policy target engineeringUnit resourceKey freshnessMs now samples) :
      samples ≠ [] := by
    rintro rfl
    exact hleast (Nat.le_zero.mp h.enough)
  refine ⟨⟨?_, ?_⟩, ?_⟩
  · rintro ⟨evidence, hevidence⟩
    exact ((verifyConvergence_eq_ok hvalid).mp hevidence).1
  · intro h
    exact ⟨_, (verifyConvergence_eq_ok hvalid).mpr ⟨h, samples.head (hsome h),
      List.head?_eq_some_head (hsome h), samples.getLast (hsome h),
      List.getLast?_eq_some_getLast (hsome h), rfl⟩⟩
  · intro evidence hevidence
    obtain ⟨h, first, -, last, -, rfl⟩ := (verifyConvergence_eq_ok hvalid).mp hevidence
    exact ⟨stable_isGreatest, largestError_isGreatest (hsome h), rfl, rfl⟩

end Series

-- A series that settles

def sampleConvergence : IndustrialConvergencePolicy where
  tolerance := 1
  minimumGoodSamples := 2
  maximumSamples := 4
  maximumOvershoot := 3
  maximumOscillations := 1
  maximumClockOffsetMs := 100
  clockHealthTtlMs := 1000

def sampleAsF64 : Value → Option ℚ
  | .number n =>
    if n.text = "8" then some 8 else if n.text = "10" then some 10
    else if n.text = "11" then some 11 else if n.text = "13" then some 13 else none
  | _ => none

def sampleSeries : List TelemetrySample :=
  [("13", 2), ("8", 3), ("10", 4), ("11", 6)].map fun reading => {
    resourceKey := "site/area/line/asset/setpoint"
    value := .number ⟨reading.1⟩
    engineeringUnit := "C"
    quality := .good
    resourceVersion := "v2"
    sampledAt := reading.2
    sequence := reading.2.toNat }

theorem verify_convergence_iff_sampleSeries :
    Settles sampleAsF64 sampleConvergence 10 "C" "site/area/line/asset/setpoint" 1000 7
        sampleSeries ∧
      IsGreatest {n | n ≤ 4 ∧ ∀ sample ∈ sampleSeries.drop (4 - n),
        isWithin sampleAsF64 sampleConvergence 10 sample = true} 2 ∧
      IsGreatest {error | ∃ sample ∈ sampleSeries, errorOf sampleAsF64 10 sample = error} 3 := by
  have hconverged : verifyConvergence sampleAsF64 sampleConvergence sampleSeries 10 "C"
      "site/area/line/asset/setpoint" 1000 7 = .ok ⟨10, 4, 2, 3, 1, 2, 6, true⟩ := by
    decide +kernel
  obtain ⟨hiff, hevidence⟩ := @verify_convergence_iff sampleAsF64 sampleConvergence 10 sampleSeries
    "C" "site/area/line/asset/setpoint" 1000 7 (by decide)
  obtain ⟨hstable, herror, -⟩ := hevidence _ hconverged
  exact ⟨hiff.mp ⟨_, hconverged⟩, hstable, herror⟩

end AgentSphere.Industrial
