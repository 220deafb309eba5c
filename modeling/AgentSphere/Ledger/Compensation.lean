import AgentSphere.Ledger.Model
import AgentSphere.Lib.Interleaving
import Mathlib.Data.Finset.Insert

/-!
# Compensation

A compensation plan is undone from its last step to its first. The set of completed steps is
looked up and written under a lock, but the version check and the step itself run in between
without it, so that two calls of one coordinator may interleave at each of these points.
-/

namespace AgentSphere.Ledger

open Concurrency

structure CompensationReceipt where
  planId : String
  completedSteps : List String
  alreadyCompletedSteps : List String
  deriving DecidableEq, Repr

namespace CompensationPlan

def key (plan : CompensationPlan) (step : CompensationStep) : String × String :=
  (plan.planId, step.stepId)

def idempotencyKey (plan : CompensationPlan) (step : CompensationStep) : String :=
  "comp:" ++ plan.planId ++ ":" ++ step.stepId

end CompensationPlan

inductive CompensationCall where
  | contains (key : String × String)
  | currentResourceVersion (step : CompensationStep)
  | execute (step : CompensationStep) (compensationIdempotencyKey : String)
  | insert (key : String × String)

abbrev CompensationCall.Answer : CompensationCall → Type
  | .contains _ => Bool
  | .currentResourceVersion _ => Except LedgerError (Option ResourceVersion)
  | .execute .. => Except LedgerError Unit
  | .insert _ => Unit

abbrev Compensate := Attempt LedgerError CompensationCall CompensationCall.Answer

namespace CompensationCoordinator

def completedContains (key : String × String) : Compensate Bool :=
  ExceptT.lift (Program.call (CompensationCall.contains key))

def currentResourceVersion (step : CompensationStep) : Compensate (Option ResourceVersion) :=
  ExceptT.mk (Program.call (CompensationCall.currentResourceVersion step))

def executeStep (step : CompensationStep) (compensationIdempotencyKey : String) :
    Compensate Unit :=
  ExceptT.mk (Program.call (CompensationCall.execute step compensationIdempotencyKey))

def completedInsert (key : String × String) : Compensate Unit :=
  ExceptT.lift (Program.call (CompensationCall.insert key))

def checkVersion (step : CompensationStep) : Compensate Unit := do
  match step.requiredCurrentVersion with
  | none => pure ()
  | some required =>
    let version ← currentResourceVersion step
    Attempt.ensure (version = some required) .compensationPreconditionFailed

/-- The loop of `execute` over the steps that are left. -/
def executeEach (plan : CompensationPlan) :
    List CompensationStep → List String → List String → Compensate CompensationReceipt
  | [], completedSteps, alreadyCompletedSteps =>
    pure { planId := plan.planId, completedSteps, alreadyCompletedSteps }
  | step :: rest, completedSteps, alreadyCompletedSteps => do
    if ← completedContains (plan.key step) then
      executeEach plan rest completedSteps (alreadyCompletedSteps ++ [step.stepId])
    else
      checkVersion step
      executeStep step (plan.idempotencyKey step)
      completedInsert (plan.key step)
      executeEach plan rest (completedSteps ++ [step.stepId]) alreadyCompletedSteps

def execute (plan : CompensationPlan) : Compensate CompensationReceipt :=
  executeEach plan plan.steps.reverse [] []

def serve (completed : Finset (String × String)) :
    (call : CompensationCall) → call.Answer → Finset (String × String) → Prop
  | .contains key, found, completed' => found = decide (key ∈ completed) ∧ completed' = completed
  | .insert key, _, completed' => completed' = insert key completed
  | .currentResourceVersion _, _, completed' => completed' = completed
  | .execute .., _, completed' => completed' = completed

abbrev Outcome := Except LedgerError CompensationReceipt

def system (plan : CompensationPlan) :
    System (Finset (String × String)) CompensationCall CompensationCall.Answer Outcome where
  Serve := serve
  Internal _ _ := False
  Start p := p = (execute plan).run

abbrev Configuration :=
  Config (Finset (String × String)) CompensationCall CompensationCall.Answer Outcome

abbrev CompensationEvent :=
  Event (Finset (String × String)) CompensationCall CompensationCall.Answer

def executed (step : CompensationStep) (event : CompensationEvent) : Bool :=
  match event with
  | ⟨_, .execute other _, .ok (), _, _⟩ => other = step
  | _ => false

def WorksOn (plan : CompensationPlan) (key : String × String) :
    Program CompensationCall CompensationCall.Answer Outcome → Prop
  | .perform (.currentResourceVersion step) _ => plan.key step = key
  | .perform (.execute step _) _ => plan.key step = key
  | .perform (.insert key') _ => key' = key
  | _ => False

def Undisturbed (plan : CompensationPlan) (cfg cfg' : Configuration) : Prop :=
  ∀ event, cfg'.trace = cfg.trace ++ [event] → ∀ key, event.call = .contains key →
    key ∉ cfg.shared → ∀ (j : Nat) p, cfg.threads[j]? = some p → j ≠ event.thread →
      ¬ WorksOn plan key p

-- One execution

inductive Stage where
  | looking
  | working
  | executed
  | stopped
  deriving DecidableEq

structure Progress where
  rest : List CompensationStep
  stage : Stage

def progress (plan : CompensationPlan) :
    Monitor CompensationCall CompensationCall.Answer Progress where
  Allowed m call :=
    ∃ step rest, m.rest = step :: rest ∧
      match m.stage with
      | .looking => call = .contains (plan.key step)
      | .working => call = .currentResourceVersion step ∨
          call = .execute step (plan.idempotencyKey step)
      | .executed => call = .insert (plan.key step)
      | .stopped => False
  Possible _ _ _ := True
  next m call answer :=
    match call, answer with
    | .contains _, true => ⟨m.rest.tail, .looking⟩
    | .contains _, false => ⟨m.rest, .working⟩
    | .currentResourceVersion step, .ok version =>
      ⟨m.rest, if version = step.requiredCurrentVersion then .working else .stopped⟩
    | .currentResourceVersion _, .error _ => ⟨m.rest, .stopped⟩
    | .execute _ _, .ok () => ⟨m.rest, .executed⟩
    | .execute _ _, .error _ => ⟨m.rest, .stopped⟩
    | .insert _, () => ⟨m.rest.tail, .looking⟩

def Ended (_ : Outcome) (m : Progress) : Prop :=
  m.stage = .stopped ∨ m.stage = .looking

theorem ensures_executeEach (plan : CompensationPlan) (rest : List CompensationStep)
    (completedSteps alreadyCompletedSteps : List String) :
    (progress plan).Ensures Ended
      (executeEach plan rest completedSteps alreadyCompletedSteps).run ⟨rest, .looking⟩ := by
  induction rest generalizing completedSteps alreadyCompletedSteps with
  | nil => exact .inr rfl
  | cons step rest ih =>
    rw [executeEach, Monitor.ensures_attempt_bind]
    refine ⟨⟨step, rest, rfl, rfl⟩, fun found _ => ?_⟩
    cases found with
    | true => exact ih _ _
    | false =>
      show (progress plan).Ensures Ended (ExceptT.run (do
        checkVersion step
        executeStep step (plan.idempotencyKey step)
        completedInsert (plan.key step)
        executeEach plan rest (completedSteps ++ [step.stepId]) alreadyCompletedSteps)) _
      rw [Monitor.ensures_attempt_bind]
      have hwork : (progress plan).Ensures Ended (ExceptT.run (do
          executeStep step (plan.idempotencyKey step)
          completedInsert (plan.key step)
          executeEach plan rest (completedSteps ++ [step.stepId]) alreadyCompletedSteps))
          ⟨step :: rest, .working⟩ := by
        rw [Monitor.ensures_attempt_bind]
        refine ⟨⟨step, rest, rfl, .inr rfl⟩, fun answer _ => ?_⟩
        cases answer with
        | error e => exact .inl rfl
        | ok =>
          show (progress plan).Ensures Ended (ExceptT.run (do
            completedInsert (plan.key step)
            executeEach plan rest (completedSteps ++ [step.stepId]) alreadyCompletedSteps)) _
          rw [Monitor.ensures_attempt_bind]
          exact ⟨⟨step, rest, rfl, rfl⟩, fun _ _ => ih _ _⟩
      unfold checkVersion
      cases hrequired : step.requiredCurrentVersion with
      | none => exact hwork
      | some required =>
        show (progress plan).Ensures _ (ExceptT.run (do
          let version ← currentResourceVersion step
          Attempt.ensure (version = some required) .compensationPreconditionFailed)) _
        rw [Monitor.ensures_attempt_bind]
        refine ⟨⟨step, rest, rfl, .inl rfl⟩, fun answer _ => ?_⟩
        cases answer with
        | error e => exact .inl rfl
        | ok version =>
          show (progress plan).Ensures _ (ExceptT.run (Attempt.ensure _ _)) _
          rw [Monitor.ensures_ensure]
          constructor
          · intro hsame
            have hstage : (progress plan).next ⟨step :: rest, .working⟩
                (.currentResourceVersion step) (.ok version) = ⟨step :: rest, .working⟩ := by
              simp [progress, hrequired, hsame]
            exact hstage ▸ hwork
          · intro hother
            left
            simp [progress, hrequired, hother]

theorem ensures_execute (plan : CompensationPlan) :
    (progress plan).Ensures Ended (execute plan).run ⟨plan.steps.reverse, .looking⟩ :=
  ensures_executeEach plan plan.steps.reverse [] []

-- The order of the steps

variable {plan : CompensationPlan}

structure Recorded (plan : CompensationPlan) (completed : Finset (String × String))
    (trace : List CompensationEvent) (ghosts : List Progress) : Prop where
  steps : ∀ (i : Nat) m, ghosts[i]? = some m → ∃ before, plan.steps.reverse = before ++ m.rest ∧
    ∀ step ∈ before, plan.key step ∈ completed
  completed : ∀ step ∈ plan.steps, plan.key step ∈ completed → ∃ event ∈ trace, executed step event
  unrecorded : ∀ (i : Nat) m step rest, ghosts[i]? = some m → m.stage = .executed →
    m.rest = step :: rest → ∃ event ∈ trace, executed step event
  order : ∀ earlier event later step key, trace = earlier ++ event :: later →
    event.call = .execute step key → ∃ before rest, plan.steps.reverse = before ++ step :: rest ∧
      ∀ other ∈ before, plan.key other ∈ event.before ∧ ∃ e ∈ earlier, executed other e

theorem eq_of_key_eq (hdistinct : (plan.steps.map (·.stepId)).Nodup) {step other : CompensationStep}
    (hstep : step ∈ plan.steps) (hother : other ∈ plan.steps)
    (hkey : plan.key step = plan.key other) : step = other :=
  List.inj_on_of_nodup_map hdistinct hstep hother (congrArg Prod.snd hkey)

theorem split_append_singleton {α : Type} {l earlier later : List α} {a b : α}
    (h : l ++ [a] = earlier ++ b :: later) :
    (earlier = l ∧ b = a) ∨ ∃ later', l = earlier ++ b :: later' := by
  rcases List.eq_nil_or_concat later with rfl | ⟨later', c, rfl⟩
  · obtain ⟨hl, ha⟩ := List.append_inj' h rfl
    exact .inl ⟨hl.symm, (List.cons.inj ha).1.symm⟩
  · right
    rw [List.concat_eq_append, ← List.cons_append, ← List.append_assoc] at h
    exact ⟨later', (List.append_inj' h rfl).1⟩

theorem mem_steps_of_reverse {before rest : List CompensationStep} {step : CompensationStep}
    (h : plan.steps.reverse = before ++ step :: rest) : step ∈ plan.steps := by
  rw [← List.mem_reverse, h]
  exact List.mem_append_right _ List.mem_cons_self

namespace Recorded

variable {completed completed' : Finset (String × String)} {trace : List CompensationEvent}
  {ghosts : List Progress} {m m' : Progress} {i : Nat} {call : CompensationCall}
  {answer : call.Answer}

theorem extend (h : Recorded plan completed trace ghosts) {event : CompensationEvent}
    (hgrows : completed ⊆ completed')
    (hsteps : ∃ before, plan.steps.reverse = before ++ m'.rest ∧
      ∀ step ∈ before, plan.key step ∈ completed')
    (hcompleted : ∀ step ∈ plan.steps, plan.key step ∈ completed' → plan.key step ∉ completed →
      ∃ event ∈ trace, executed step event)
    (hunrecorded : ∀ step rest, m'.stage = .executed → m'.rest = step :: rest →
      ∃ other ∈ trace ++ [event], executed step other)
    (horder : ∀ step key, event.call = .execute step key →
      ∃ before rest, plan.steps.reverse = before ++ step :: rest ∧
        ∀ other ∈ before, plan.key other ∈ event.before ∧ ∃ e ∈ trace, executed other e) :
    Recorded plan completed' (trace ++ [event]) (ghosts.set i m') := by
  refine ⟨?_, ?_, ?_, ?_⟩
  · intro j n hj
    rw [List.getElem?_set] at hj
    split_ifs at hj with hij hlt
    · obtain rfl := Option.some.inj hj
      exact hsteps
    · obtain ⟨before, hbefore, hall⟩ := h.steps j n hj
      exact ⟨before, hbefore, fun step hstep => hgrows (hall step hstep)⟩
  · intro step hstep hkey
    by_cases hold : plan.key step ∈ completed
    · obtain ⟨e, he, hexecuted⟩ := h.completed step hstep hold
      exact ⟨e, List.mem_append_left _ he, hexecuted⟩
    · obtain ⟨e, he, hexecuted⟩ := hcompleted step hstep hkey hold
      exact ⟨e, List.mem_append_left _ he, hexecuted⟩
  · intro j n step rest hj hstage hrest
    rw [List.getElem?_set] at hj
    split_ifs at hj with hij hlt
    · obtain rfl := Option.some.inj hj
      exact hunrecorded step rest hstage hrest
    · obtain ⟨e, he, hexecuted⟩ := h.unrecorded j n step rest hj hstage hrest
      exact ⟨e, List.mem_append_left _ he, hexecuted⟩
  · intro earlier e later step key hsplit hcall
    obtain ⟨rfl, rfl⟩ | ⟨later', hold⟩ := split_append_singleton hsplit
    · exact horder step key hcall
    · exact h.order earlier e later' step key hold hcall

theorem serve (hdistinct : (plan.steps.map (·.stepId)).Nodup)
    (h : Recorded plan completed trace ghosts) (hm : ghosts[i]? = some m)
    (hallowed : (progress plan).Allowed m call)
    (hserve : CompensationCoordinator.serve completed call answer completed') :
    Recorded plan completed' (trace ++ [⟨i, call, answer, completed, completed'⟩])
      (ghosts.set i ((progress plan).next m call answer)) := by
  obtain ⟨stepsLeft, stage⟩ := m
  obtain ⟨step, rest, hrest, hcall⟩ := hallowed
  obtain rfl : stepsLeft = step :: rest := hrest
  obtain ⟨before, hbefore, hall⟩ := h.steps i _ hm
  have htail : ∀ done : Finset (String × String), completed ⊆ done → plan.key step ∈ done →
      ∃ before, plan.steps.reverse = before ++ rest ∧ ∀ other ∈ before, plan.key other ∈ done := by
    intro done hgrows hkey
    refine ⟨before ++ [step], by rw [hbefore, List.append_assoc]; rfl, ?_⟩
    intro other hother
    rcases List.mem_append.mp hother with hother | hother
    · exact hgrows (hall other hother)
    · rw [List.mem_singleton.mp hother]
      exact hkey
  cases stage with
  | looking =>
    obtain rfl : call = .contains (plan.key step) := hcall
    obtain ⟨hfound, rfl⟩ := hserve
    cases answer with
    | true =>
      refine h.extend subset_rfl (htail _ subset_rfl (by simpa using hfound)) ?_ ?_ ?_
      · exact fun _ _ hin hout => absurd hin hout
      · exact fun _ _ hstage => nomatch hstage
      · exact fun _ _ hcall => nomatch hcall
    | false =>
      refine h.extend subset_rfl ⟨before, hbefore, hall⟩ ?_ ?_ ?_
      · exact fun _ _ hin hout => absurd hin hout
      · exact fun _ _ hstage => nomatch hstage
      · exact fun _ _ hcall => nomatch hcall
  | working =>
    rcases hcall with rfl | rfl
    · obtain rfl : completed' = completed := hserve
      have hnext : ((progress plan).next ⟨step :: rest, .working⟩ (.currentResourceVersion step)
          answer).rest = step :: rest ∧ ((progress plan).next ⟨step :: rest, .working⟩
          (.currentResourceVersion step) answer).stage ≠ .executed := by
        cases answer with
        | error e => exact ⟨rfl, by simp [progress]⟩
        | ok version =>
          refine ⟨rfl, ?_⟩
          simp only [progress]
          split_ifs
          · simp
          · simp
      refine h.extend subset_rfl ⟨before, by rw [hnext.1]; exact hbefore, hall⟩ ?_ ?_ ?_
      · exact fun _ _ hin hout => absurd hin hout
      · exact fun _ _ hstage => absurd hstage hnext.2
      · exact fun _ _ hcall => nomatch hcall
    · obtain rfl : completed' = completed := hserve
      have horder : ∀ other key, CompensationCall.execute step (plan.idempotencyKey step) =
          .execute other key → ∃ before rest, plan.steps.reverse = before ++ other :: rest ∧
            ∀ later ∈ before, plan.key later ∈ completed' ∧ ∃ e ∈ trace, executed later e := by
        rintro _ _ ⟨⟩
        refine ⟨before, rest, hbefore, fun later hlater => ⟨hall later hlater, ?_⟩⟩
        have hmem : later ∈ plan.steps := by
          rw [← List.mem_reverse, hbefore]
          exact List.mem_append_left _ hlater
        exact h.completed later hmem (hall later hlater)
      cases answer with
      | error e =>
        refine h.extend subset_rfl ⟨before, hbefore, hall⟩ ?_ ?_ horder
        · exact fun _ _ hin hout => absurd hin hout
        · exact fun _ _ hstage => nomatch hstage
      | ok =>
        refine h.extend subset_rfl ⟨before, hbefore, hall⟩ ?_ ?_ horder
        · exact fun _ _ hin hout => absurd hin hout
        · rintro _ _ - ⟨⟩
          exact ⟨_, List.mem_append_right _ List.mem_cons_self, by simp [executed]⟩
  | executed =>
    obtain rfl : call = .insert (plan.key step) := hcall
    obtain rfl : completed' = insert (plan.key step) completed := hserve
    refine h.extend (Finset.subset_insert _ _)
      (htail _ (Finset.subset_insert _ _) (Finset.mem_insert_self _ _)) ?_ ?_ ?_
    · intro other hother hin hout
      have hkey : plan.key other = plan.key step := by
        rcases Finset.mem_insert.mp hin with hkey | hin
        · exact hkey
        · exact absurd hin hout
      obtain rfl := eq_of_key_eq hdistinct hother (mem_steps_of_reverse hbefore) hkey
      exact h.unrecorded i _ other rest hm rfl rfl
    · exact fun _ _ hstage => nomatch hstage
    · exact fun _ _ hcall => nomatch hcall
  | stopped => exact hcall.elim

end Recorded

theorem recorded_nil : Recorded plan ∅ [] [] := by
  constructor
  · intro i m hm
    cases hm
  · intro step _ hkey
    cases hkey
  · intro i m step rest hm
    cases hm
  · intro earlier event later step key hsplit
    cases earlier <;> cases hsplit

theorem Recorded.start {completed : Finset (String × String)} {trace : List CompensationEvent}
    {ghosts : List Progress} (h : Recorded plan completed trace ghosts) :
    Recorded plan completed trace (ghosts ++ [⟨plan.steps.reverse, .looking⟩]) := by
  refine ⟨?_, h.completed, ?_, h.order⟩
  · intro i m hm
    rw [List.getElem?_append] at hm
    split_ifs at hm with hlt
    · exact h.steps i m hm
    · rw [List.getElem?_singleton] at hm
      split_ifs at hm
      obtain rfl := Option.some.inj hm
      exact ⟨[], rfl, fun step hstep => nomatch hstep⟩
  · intro i m step rest hm hstage hrest
    rw [List.getElem?_append] at hm
    split_ifs at hm with hlt
    · exact h.unrecorded i m step rest hm hstage hrest
    · rw [List.getElem?_singleton] at hm
      split_ifs at hm
      obtain rfl := Option.some.inj hm
      cases hstage

theorem recorded_of_reachable (hdistinct : (plan.steps.map (·.stepId)).Nodup)
    {cfg : Configuration} (hreach : (system plan).Reachable ∅ cfg) :
    ∃ ghosts, Recorded plan cfg.shared cfg.trace ghosts := by
  have hinv := System.invariant_of_stepsWhen (system plan) (progress plan) Ended (Recorded plan)
    (by rintro completed trace ghosts p h rfl
        exact ⟨_, ensures_execute plan, h.start⟩)
    (by intro cfg ghosts i m call resume answer completed' h _ _ hm hallowed hserve _
        exact ⟨trivial, h.serve hdistinct hm hallowed hserve⟩)
    (by rintro _ _ _ _ _ ⟨⟩) recorded_nil (System.Steps.always hreach)
  obtain ⟨ghosts, hrecorded, -⟩ := hinv
  exact ⟨ghosts, hrecorded⟩

/-- **A step starts when all later ones are completed**, in every run: they are in the set, and
each of them was executed before. -/
theorem later_steps_completed (hdistinct : (plan.steps.map (·.stepId)).Nodup)
    {cfg : Configuration} (hreach : (system plan).Reachable ∅ cfg)
    {earlier later : List CompensationEvent} {event : CompensationEvent} {step : CompensationStep}
    {key : String} (htrace : cfg.trace = earlier ++ event :: later)
    (hcall : event.call = .execute step key) {front back : List CompensationStep}
    (hsteps : plan.steps = front ++ step :: back) {other : CompensationStep}
    (hother : other ∈ back) :
    plan.key other ∈ event.before ∧ ∃ e ∈ earlier, executed other e := by
  obtain ⟨ghosts, hrecorded⟩ := recorded_of_reachable hdistinct hreach
  obtain ⟨before, rest, hreverse, hall⟩ := hrecorded.order earlier event later step key htrace hcall
  have hnodup : plan.steps.reverse.Nodup :=
    List.nodup_reverse.mpr (List.Nodup.of_map _ hdistinct)
  have hback : plan.steps.reverse = back.reverse ++ step :: front.reverse := by
    rw [hsteps]
    simp
  -- the step stands at one place of the plan, so what comes before it is the same
  have hsame : before = back.reverse := by
    have hfirst :=
      congrArg (List.takeWhile (fun s => decide (s ≠ step))) (hreverse.symm.trans hback)
    have hnot : ∀ l l' : List CompensationStep, plan.steps.reverse = l ++ step :: l' →
        ∀ s ∈ l, decide (s ≠ step) = true := by
      intro l l' hl s hs
      rw [hl, List.nodup_append] at hnodup
      exact decide_eq_true (hnodup.2.2 s hs step List.mem_cons_self)
    rw [List.takeWhile_append_of_pos (hnot _ _ hreverse),
      List.takeWhile_append_of_pos (hnot _ _ hback)] at hfirst
    simpa using hfirst
  exact hall other (by rw [hsame]; exact List.mem_reverse.mpr hother)

-- Steps are executed once

def Progress.On (plan : CompensationPlan) (m : Progress) (key : String × String) : Prop :=
  (m.stage = .working ∨ m.stage = .executed) ∧
    ∃ step rest, m.rest = step :: rest ∧ plan.key step = key

/-- At most one call is at a step, and none if it is completed; a step that was executed is
completed, or about to be. -/
structure Single (plan : CompensationPlan) (completed : Finset (String × String))
    (trace : List CompensationEvent) (ghosts : List Progress) : Prop where
  once : ∀ step, trace.countP (executed step) ≤ 1
  accounted : ∀ step, 0 < trace.countP (executed step) → plan.key step ∈ completed ∨
    ∃ (i : Nat) (m : Progress) (rest : List CompensationStep), ghosts[i]? = some m ∧
      m.stage = .executed ∧ m.rest = step :: rest
  exclusive : ∀ (i j : Nat) m m' key, ghosts[i]? = some m → ghosts[j]? = some m' →
    m.On plan key → m'.On plan key → i = j
  incomplete : ∀ (i : Nat) m key, ghosts[i]? = some m → m.On plan key → key ∉ completed

namespace Single

variable {completed completed' : Finset (String × String)} {trace : List CompensationEvent}
  {ghosts : List Progress} {m m' : Progress} {i : Nat} {event : CompensationEvent}

theorem start (h : Single plan completed trace ghosts) :
    Single plan completed trace (ghosts ++ [⟨plan.steps.reverse, .looking⟩]) := by
  have hold : ∀ (j : Nat) n key, (ghosts ++ [⟨plan.steps.reverse, .looking⟩])[j]? = some n →
      n.On plan key → ghosts[j]? = some n := by
    intro j n key hj hon
    rw [List.getElem?_append] at hj
    split_ifs at hj with hlt
    · exact hj
    · rw [List.getElem?_singleton] at hj
      split_ifs at hj
      obtain rfl := Option.some.inj hj
      rcases hon.1 with hstage | hstage <;> cases hstage
  refine ⟨h.once, ?_, ?_, ?_⟩
  · intro step hcount
    refine (h.accounted step hcount).imp_right ?_
    rintro ⟨j, n, rest, hj, hstage, hrest⟩
    refine ⟨j, n, rest, ?_, hstage, hrest⟩
    rw [List.getElem?_append_left (List.getElem?_eq_some_iff.mp hj).1]
    exact hj
  · intro j k n n' key hj hk hon hon'
    exact h.exclusive j k n n' key (hold j n key hj hon) (hold k n' key hk hon') hon hon'
  · intro j n key hj hon
    exact h.incomplete j n key (hold j n key hj hon) hon

theorem idle (h : Single plan completed trace ghosts) (hm : ghosts[i]? = some m)
    (hevent : ∀ step, executed step event = false) (hstage : m.stage ≠ .executed)
    (hon : ∀ key, m'.On plan key → m.On plan key) :
    Single plan completed (trace ++ [event]) (ghosts.set i m') := by
  have hcount : ∀ step, (trace ++ [event]).countP (executed step) =
      trace.countP (executed step) := by
    intro step
    simp [List.countP_append, hevent step]
  have hold : ∀ (j : Nat) n key, (ghosts.set i m')[j]? = some n → n.On plan key →
      ∃ n', ghosts[j]? = some n' ∧ n'.On plan key := by
    intro j n key hj hn
    rw [List.getElem?_set] at hj
    split_ifs at hj with hij hlt
    · obtain rfl := Option.some.inj hj
      exact ⟨m, hij ▸ hm, hon key hn⟩
    · exact ⟨n, hj, hn⟩
  refine ⟨?_, ?_, ?_, ?_⟩
  · intro step
    rw [hcount]
    exact h.once step
  · intro step hpos
    rw [hcount] at hpos
    refine (h.accounted step hpos).imp_right ?_
    rintro ⟨j, n, rest, hj, hexecuted, hrest⟩
    have hij : i ≠ j := by
      rintro rfl
      rw [hm] at hj
      obtain rfl := Option.some.inj hj
      exact hstage hexecuted
    exact ⟨j, n, rest, by rwa [List.getElem?_set_ne hij], hexecuted, hrest⟩
  · intro j k n n' key hj hk hn hn'
    obtain ⟨o, ho, hone⟩ := hold j n key hj hn
    obtain ⟨o', ho', hone'⟩ := hold k n' key hk hn'
    exact h.exclusive j k o o' key ho ho' hone hone'
  · intro j n key hj hn
    obtain ⟨o, ho, hone⟩ := hold j n key hj hn
    exact h.incomplete j o key ho hone

theorem taken (h : Single plan completed trace ghosts) (hm : ghosts[i]? = some m)
    (hevent : ∀ step, executed step event = false) (hstage : m.stage ≠ .executed)
    {key : String × String} (hon : ∀ other, m'.On plan other → other = key)
    (hkey : key ∉ completed)
    (halone : ∀ (j : Nat) n, ghosts[j]? = some n → j ≠ i → ¬ n.On plan key) :
    Single plan completed (trace ++ [event]) (ghosts.set i m') := by
  have hidle : Single plan completed (trace ++ [event]) (ghosts.set i ⟨m.rest, .stopped⟩) := by
    refine h.idle hm hevent hstage fun other hother => ?_
    rcases hother.1 with hstopped | hstopped <;> cases hstopped
  have hold : ∀ (j : Nat) n, j ≠ i → (ghosts.set i m')[j]? = some n →
      (ghosts.set i ⟨m.rest, .stopped⟩)[j]? = some n ∧ ghosts[j]? = some n := by
    intro j n hij hj
    rw [List.getElem?_set_ne hij.symm] at hj
    rw [List.getElem?_set_ne hij.symm]
    exact ⟨hj, hj⟩
  have hnew : ∀ n, (ghosts.set i m')[i]? = some n → n = m' := by
    intro n hn
    rw [List.getElem?_set_self (List.getElem?_eq_some_iff.mp hm).1] at hn
    exact (Option.some.inj hn).symm
  refine ⟨hidle.once, ?_, ?_, ?_⟩
  · intro step hpos
    refine (hidle.accounted step hpos).imp_right ?_
    rintro ⟨j, n, rest, hj, hexecuted, hrest⟩
    have hij : i ≠ j := by
      rintro rfl
      rw [List.getElem?_set_self (List.getElem?_eq_some_iff.mp hm).1] at hj
      obtain rfl := Option.some.inj hj
      cases hexecuted
    rw [List.getElem?_set_ne hij] at hj
    exact ⟨j, n, rest, by rwa [List.getElem?_set_ne hij], hexecuted, hrest⟩
  · intro j k n n' other hj hk hn hn'
    by_cases hji : j = i
    · subst hji
      obtain rfl := hnew n hj
      by_cases hki : k = j
      · exact hki.symm
      · obtain rfl := hon other hn
        exact absurd hn' (halone k n' (hold k n' hki hk).2 hki)
    · by_cases hki : k = i
      · subst hki
        obtain rfl := hnew n' hk
        obtain rfl := hon other hn'
        exact absurd hn (halone j n (hold j n hji hj).2 hji)
      · exact h.exclusive j k n n' other (hold j n hji hj).2 (hold k n' hki hk).2 hn hn'
  · intro j n other hj hn
    by_cases hji : j = i
    · subst hji
      obtain rfl := hnew n hj
      rw [hon other hn]
      exact hkey
    · exact h.incomplete j n other (hold j n hji hj).2 hn

theorem ran (h : Single plan completed trace ghosts) {step : CompensationStep}
    {rest : List CompensationStep} (hm : ghosts[i]? = some ⟨step :: rest, .working⟩)
    (hevent : ∀ other, executed other event = decide (step = other)) :
    Single plan completed (trace ++ [event]) (ghosts.set i ⟨step :: rest, .executed⟩) := by
  have hon : Progress.On plan ⟨step :: rest, .working⟩ (plan.key step) :=
    ⟨.inl rfl, step, rest, rfl, rfl⟩
  have hzero : trace.countP (executed step) = 0 := by
    by_contra hne
    rcases h.accounted step (Nat.pos_of_ne_zero hne) with hin | ⟨j, n, rest', hj, hstage, hrest⟩
    · exact h.incomplete i _ _ hm hon hin
    · obtain rfl :=
        h.exclusive i j _ n (plan.key step) hm hj hon ⟨.inr hstage, step, rest', hrest, rfl⟩
      rw [hm] at hj
      obtain rfl := Option.some.inj hj
      cases hstage
  have hcount : ∀ other, (trace ++ [event]).countP (executed other) =
      trace.countP (executed other) + if step = other then 1 else 0 := by
    intro other
    rw [List.countP_append, List.countP_singleton, hevent]
    simp
  have hold : ∀ (j : Nat) n key, (ghosts.set i ⟨step :: rest, .executed⟩)[j]? = some n →
      n.On plan key → ∃ n', ghosts[j]? = some n' ∧ n'.On plan key := by
    intro j n key hj hn
    rw [List.getElem?_set] at hj
    split_ifs at hj with hij hlt
    · obtain rfl := Option.some.inj hj
      exact ⟨⟨step :: rest, .working⟩, hij ▸ hm, .inl rfl, hn.2⟩
    · exact ⟨n, hj, hn⟩
  refine ⟨?_, ?_, ?_, ?_⟩
  · intro other
    rw [hcount]
    by_cases hsame : step = other
    · subst hsame
      simp [hzero]
    · simpa [hsame] using h.once other
  · intro other hpos
    by_cases hsame : step = other
    · subst hsame
      refine .inr ⟨i, ⟨step :: rest, .executed⟩, rest, ?_, rfl, rfl⟩
      exact List.getElem?_set_self (List.getElem?_eq_some_iff.mp hm).1
    · rw [hcount, if_neg hsame, Nat.add_zero] at hpos
      refine (h.accounted other hpos).imp_right ?_
      rintro ⟨j, n, rest', hj, hexecuted, hrest⟩
      have hij : i ≠ j := by
        rintro rfl
        rw [hm] at hj
        obtain rfl := Option.some.inj hj
        cases hexecuted
      exact ⟨j, n, rest', by rwa [List.getElem?_set_ne hij], hexecuted, hrest⟩
  · intro j k n n' key hj hk hn hn'
    obtain ⟨o, ho, hone⟩ := hold j n key hj hn
    obtain ⟨o', ho', hone'⟩ := hold k n' key hk hn'
    exact h.exclusive j k o o' key ho ho' hone hone'
  · intro j n key hj hn
    obtain ⟨o, ho, hone⟩ := hold j n key hj hn
    exact h.incomplete j o key ho hone

theorem recorded (h : Single plan completed trace ghosts) {step : CompensationStep}
    {rest : List CompensationStep} (hm : ghosts[i]? = some ⟨step :: rest, .executed⟩)
    (hevent : ∀ other, executed other event = false) :
    Single plan (insert (plan.key step) completed) (trace ++ [event])
      (ghosts.set i ⟨rest, .looking⟩) := by
  have hon : Progress.On plan ⟨step :: rest, .executed⟩ (plan.key step) :=
    ⟨.inr rfl, step, rest, rfl, rfl⟩
  have hcount : ∀ other, (trace ++ [event]).countP (executed other) =
      trace.countP (executed other) := by
    intro other
    simp [List.countP_append, hevent other]
  have hold : ∀ (j : Nat) n key, (ghosts.set i ⟨rest, .looking⟩)[j]? = some n →
      n.On plan key → j ≠ i ∧ ghosts[j]? = some n := by
    intro j n key hj hn
    rw [List.getElem?_set] at hj
    split_ifs at hj with hij hlt
    · obtain rfl := Option.some.inj hj
      rcases hn.1 with hstage | hstage <;> cases hstage
    · exact ⟨Ne.symm hij, hj⟩
  refine ⟨?_, ?_, ?_, ?_⟩
  · intro other
    rw [hcount]
    exact h.once other
  · intro other hpos
    rw [hcount] at hpos
    rcases h.accounted other hpos with hin | ⟨j, n, rest', hj, hexecuted, hrest⟩
    · exact .inl (Finset.mem_insert_of_mem hin)
    · by_cases hij : i = j
      · subst hij
        rw [hm] at hj
        obtain rfl := Option.some.inj hj
        obtain ⟨rfl, -⟩ := List.cons.inj hrest
        exact .inl (Finset.mem_insert_self _ _)
      · exact .inr ⟨j, n, rest', by rwa [List.getElem?_set_ne hij], hexecuted, hrest⟩
  · intro j k n n' key hj hk hn hn'
    exact h.exclusive j k n n' key (hold j n key hj hn).2 (hold k n' key hk hn').2 hn hn'
  · intro j n key hj hn hin
    obtain ⟨hne, hj⟩ := hold j n key hj hn
    rcases Finset.mem_insert.mp hin with rfl | hin
    · exact hne (h.exclusive j i n _ _ hj hm hn hon)
    · exact h.incomplete j n key hj hn hin

theorem serve {call : CompensationCall} {answer : call.Answer}
    (h : Single plan completed trace ghosts) (hm : ghosts[i]? = some m)
    (hallowed : (progress plan).Allowed m call)
    (hserve : CompensationCoordinator.serve completed call answer completed')
    (halone : ∀ key, call = .contains key → key ∉ completed →
      ∀ (j : Nat) n, ghosts[j]? = some n → j ≠ i → ¬ n.On plan key) :
    Single plan completed' (trace ++ [⟨i, call, answer, completed, completed'⟩])
      (ghosts.set i ((progress plan).next m call answer)) := by
  obtain ⟨stepsLeft, stage⟩ := m
  obtain ⟨step, rest, hrest, hcall⟩ := hallowed
  obtain rfl : stepsLeft = step :: rest := hrest
  cases stage with
  | looking =>
    obtain rfl : call = .contains (plan.key step) := hcall
    obtain ⟨hfound, rfl⟩ := hserve
    cases answer with
    | true =>
      refine h.idle hm (fun _ => rfl) (by simp) fun key hkey => ?_
      rcases hkey.1 with hstage | hstage <;> cases hstage
    | false =>
      have hkey : plan.key step ∉ completed' := by simpa using hfound
      refine h.taken hm (fun _ => rfl) (by simp) ?_ hkey (halone _ rfl hkey)
      rintro other ⟨-, step', rest', hsame, rfl⟩
      obtain ⟨rfl, -⟩ := List.cons.inj hsame
      rfl
  | working =>
    rcases hcall with rfl | rfl
    · obtain rfl : completed' = completed := hserve
      have hworking : ∀ stage key, Progress.On plan ⟨step :: rest, stage⟩ key →
          Progress.On plan ⟨step :: rest, .working⟩ key := fun _ _ hkey => ⟨.inl rfl, hkey.2⟩
      cases answer with
      | error e => exact h.idle hm (fun _ => rfl) (by simp) fun key => hworking _ key
      | ok version => exact h.idle hm (fun _ => rfl) (by simp) fun key => hworking _ key
    · obtain rfl : completed' = completed := hserve
      cases answer with
      | error e =>
        refine h.idle hm (fun _ => rfl) (by simp) fun key hkey => ?_
        rcases hkey.1 with hstage | hstage <;> cases hstage
      | ok => exact h.ran hm fun _ => rfl
  | executed =>
    obtain rfl : call = .insert (plan.key step) := hcall
    obtain rfl : completed' = insert (plan.key step) completed := hserve
    exact h.recorded hm fun _ => rfl
  | stopped => exact hcall.elim

end Single

theorem single_nil : Single plan ∅ [] [] := by
  constructor
  · intro step
    exact Nat.zero_le _
  · intro step hpos
    cases hpos
  · intro i j m m' key hi
    cases hi
  · intro i m key hi
    cases hi

theorem worksOn_of_on {p : Program CompensationCall CompensationCall.Answer Outcome} {m : Progress}
    {key : String × String} (hp : (progress plan).Ensures Ended p m) (hon : m.On plan key) :
    WorksOn plan key p := by
  obtain ⟨hstage, step, rest, hrest, rfl⟩ := hon
  cases p with
  | done outcome =>
    rcases hp with hended | hended <;> rcases hstage with hstage | hstage <;>
      exact nomatch hended.symm.trans hstage
  | perform call resume =>
    obtain ⟨⟨step', rest', hrest', hcall⟩, -⟩ := hp
    obtain ⟨rfl, -⟩ := List.cons.inj (hrest.symm.trans hrest')
    rcases hstage with hstage | hstage
    · rw [hstage] at hcall
      rcases hcall with rfl | rfl
      · rfl
      · rfl
    · rw [hstage] at hcall
      obtain rfl : call = .insert (plan.key step) := hcall
      rfl

/-- **Every step is executed at most once, and after all later ones**, in every run in which
nobody finds a step not completed while another call is at it. -/
theorem step_executed_once (hdistinct : (plan.steps.map (·.stepId)).Nodup) {cfg : Configuration}
    (hrun : Relation.ReflTransGen ((system plan).StepWhen (Undisturbed plan))
      (System.initial ∅) cfg) :
    (∀ step, cfg.trace.countP (executed step) ≤ 1) ∧
    (∀ earlier event later step key, cfg.trace = earlier ++ event :: later →
      event.call = .execute step key → ∀ front back, plan.steps = front ++ step :: back →
        ∀ other ∈ back, plan.key other ∈ event.before ∧ ∃ e ∈ earlier, executed other e) := by
  constructor
  · have hinv := System.invariant_of_stepsWhen (system plan) (progress plan) Ended (Single plan)
      (by rintro completed trace ghosts p h rfl
          exact ⟨_, ensures_execute plan, h.start⟩)
      (by intro cfg ghosts i m call resume answer completed' h hghosts _ hm hallowed hserve hmeets
          refine ⟨trivial, h.serve hm hallowed hserve ?_⟩
          intro key hcall hkey j n hj hij hon
          have hthread : ∃ p, cfg.threads[j]? = some p ∧ (progress plan).Ensures Ended p n := by
            have hlt : j < cfg.threads.length := by
              rw [List.Forall₂.length_eq hghosts]
              exact (List.getElem?_eq_some_iff.mp hj).1
            obtain ⟨n', hn', hp⟩ :=
              System.Ghosts.ghost_of_getElem? hghosts (List.getElem?_eq_getElem hlt)
            rw [hj] at hn'
            obtain rfl := Option.some.inj hn'
            exact ⟨_, List.getElem?_eq_getElem hlt, hp⟩
          obtain ⟨p, hp, hensures⟩ := hthread
          exact hmeets _ rfl key hcall hkey j p hp hij (worksOn_of_on hensures hon))
      (by rintro _ _ _ _ _ ⟨⟩) single_nil hrun
    obtain ⟨ghosts, hsingle, -⟩ := hinv
    exact hsingle.once
  · intro earlier event later step key htrace hcall front back hsteps other hother
    have hreach : (system plan).Reachable ∅ cfg :=
      Relation.ReflTransGen.mono (r := (system plan).StepWhen (Undisturbed plan))
        (p := (system plan).Step) (fun _ _ hstep => hstep.1) _ _ hrun
    exact later_steps_completed hdistinct hreach htrace hcall hsteps hother

-- Sample runs

def sampleStep : CompensationStep where
  stepId := "one"
  tool := { toolId := "coding.run-tests", toolVersion := "1.0.0" }
  argumentsHash := "a"
  requiredCurrentVersion := none
  expectedCurrentValue := none

def samplePlan : CompensationPlan where
  planId := "plan"
  forwardActionHash := "hash"
  steps := [sampleStep]
  createdAt := 0

section Advance

variable {cfg : Configuration} {i : Nat}

theorem advance_lookup {key : String × String}
    {resume : Bool → Program CompensationCall CompensationCall.Answer Outcome}
    (hi : cfg.threads[i]? = some (.perform (CompensationCall.contains key) resume))
    (hkey : key ∉ cfg.shared) :
    (system plan).Step cfg ⟨cfg.shared, cfg.threads.set i (resume false),
      cfg.trace ++ [⟨i, .contains key, false, cfg.shared, cfg.shared⟩]⟩ := by
  have hserve : (system plan).Serve cfg.shared (CompensationCall.contains key) false cfg.shared :=
    ⟨by simp [hkey], rfl⟩
  exact @System.Step.advance _ _ _ _ (system plan) cfg i (.contains key) resume false _ hi hserve

theorem advance_execute {step : CompensationStep} {idempotencyKey : String}
    {resume : Except LedgerError Unit → Program CompensationCall CompensationCall.Answer Outcome}
    (hi : cfg.threads[i]? = some (.perform (CompensationCall.execute step idempotencyKey) resume)) :
    (system plan).Step cfg ⟨cfg.shared, cfg.threads.set i (resume (.ok ())),
      cfg.trace ++ [⟨i, .execute step idempotencyKey, .ok (), cfg.shared, cfg.shared⟩]⟩ := by
  have hserve : (system plan).Serve cfg.shared (CompensationCall.execute step idempotencyKey)
      (.ok ()) cfg.shared := rfl
  exact @System.Step.advance _ _ _ _ (system plan) cfg i (.execute step idempotencyKey) resume _ _
    hi hserve

theorem advance_insert {key : String × String}
    {resume : Unit → Program CompensationCall CompensationCall.Answer Outcome}
    (hi : cfg.threads[i]? = some (.perform (CompensationCall.insert key) resume)) :
    (system plan).Step cfg ⟨insert key cfg.shared, cfg.threads.set i (resume ()),
      cfg.trace ++ [⟨i, .insert key, (), cfg.shared, insert key cfg.shared⟩]⟩ := by
  have hserve : (system plan).Serve cfg.shared (CompensationCall.insert key) ()
      (insert key cfg.shared) := rfl
  exact @System.Step.advance _ _ _ _ (system plan) cfg i (.insert key) resume _ _ hi hserve

theorem undisturbed_single
    {threads : List (Program CompensationCall CompensationCall.Answer Outcome)}
    {completed : Finset (String × String)} {call : CompensationCall} {answer : call.Answer}
    (hstep : (system plan).Step cfg
      ⟨completed, threads, cfg.trace ++ [⟨0, call, answer, cfg.shared, completed⟩]⟩)
    (hthreads : cfg.threads.length ≤ 1) :
    (system plan).StepWhen (Undisturbed plan) cfg
      ⟨completed, threads, cfg.trace ++ [⟨0, call, answer, cfg.shared, completed⟩]⟩ := by
  refine ⟨hstep, ?_⟩
  intro event hevent key _ _ j p hj hne
  obtain rfl := (List.cons.inj (List.append_cancel_left hevent)).1
  have hlt := (List.getElem?_eq_some_iff.mp hj).1
  exact absurd hne (by show ¬ j ≠ 0; omega)

end Advance

theorem step_executed_once_sample :
    ∃ cfg : Configuration, Relation.ReflTransGen
        ((system samplePlan).StepWhen (Undisturbed samplePlan)) (System.initial ∅) cfg ∧
      cfg.trace.countP (executed sampleStep) = 1 ∧
      ∀ step, cfg.trace.countP (executed step) ≤ 1 := by
  have hstart : (system samplePlan).StepWhen (Undisturbed samplePlan) (System.initial ∅)
      ⟨∅, [(execute samplePlan).run], []⟩ :=
    ⟨.start _ rfl, fun event hevent => nomatch hevent⟩
  have hrun : Relation.ReflTransGen ((system samplePlan).StepWhen (Undisturbed samplePlan))
      (System.initial ∅) _ :=
    .head hstart <| .head (undisturbed_single (advance_lookup rfl (by decide)) (by decide)) <|
      .head (undisturbed_single (advance_execute rfl) (by decide)) <|
      .single (undisturbed_single (advance_insert rfl) (by decide))
  exact ⟨_, hrun, by decide, (step_executed_once (by decide) hrun).1⟩

/-- Two calls look the step up before either has recorded it: both execute it, and both return
success. -/
theorem step_executed_twice :
    ∃ cfg : Configuration, (system samplePlan).Reachable ∅ cfg ∧ cfg.threads.length = 2 ∧
      (∀ p ∈ cfg.threads, p = .done (.ok
        { planId := "plan", completedSteps := ["one"], alreadyCompletedSteps := [] })) ∧
      cfg.trace.countP (executed sampleStep) = 2 := by
  have hfirst : (system samplePlan).Step (System.initial ∅)
      ⟨∅, [(execute samplePlan).run], []⟩ := .start _ rfl
  have hsecond : (system samplePlan).Step ⟨∅, [(execute samplePlan).run], []⟩
      ⟨∅, [(execute samplePlan).run, (execute samplePlan).run], []⟩ := .start _ rfl
  have hrun : (system samplePlan).Steps (System.initial ∅) _ :=
    .head hfirst <| .head hsecond <| .head (advance_lookup (i := 0) rfl (by decide)) <|
      .head (advance_lookup (i := 1) rfl (by decide)) <| .head (advance_execute (i := 0) rfl) <|
      .head (advance_execute (i := 1) rfl) <| .head (advance_insert (i := 0) rfl) <|
      .single (advance_insert (i := 1) rfl)
  refine ⟨_, hrun, rfl, ?_, by decide⟩
  intro p hp
  rcases List.mem_cons.mp hp with rfl | hp
  · rfl
  · rw [List.mem_singleton.mp hp]
    rfl

end CompensationCoordinator

end AgentSphere.Ledger
