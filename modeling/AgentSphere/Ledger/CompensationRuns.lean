import AgentSphere.Ledger.Compensation
import AgentSphere.Lib.History

/-!
# Compensations one after the other

One caller at a time executes plans on one coordinator, and every execution comes to its end. The
set of completed steps knows a step by the identifiers of its plan and of the step; neither a plan
nor two plans together keep these distinct, and the executor gets the two in one text. So what the
coordinator says about steps holds of their keys in every run, and of the steps themselves in the
runs in which a key is used for one step only.
-/

namespace AgentSphere.Ledger

open Concurrency

namespace CompensationCoordinator

abbrev CompensationEntry := Entry CompensationCall CompensationCall.Answer

structure Undoing where
  plan : CompensationPlan
  entries : List CompensationEntry
  outcome : Outcome

inductive Conducted : List Undoing → Finset (String × String) → Prop where
  | new : Conducted [] ∅
  | undo {undoings : List Undoing} {completed completed' : Finset (String × String)}
      (before : Conducted undoings completed) (undoing : Undoing)
      (resumes : Resumes (execute undoing.plan).run undoing.entries (.done undoing.outcome))
      (serves : (system undoing.plan).Serves completed undoing.entries completed') :
      Conducted (undoings ++ [undoing]) completed'

structure Execution where
  plan : CompensationPlan
  step : CompensationStep
  idempotencyKey : String
  succeeded : Bool

def Execution.key (execution : Execution) : String × String := execution.plan.key execution.step

def executionsOf (plan : CompensationPlan) (entries : List CompensationEntry) : List Execution :=
  entries.filterMap fun entry =>
    match entry with
    | ⟨.execute step idempotencyKey, answer⟩ =>
      some { plan, step, idempotencyKey, succeeded := answer.isOk }
    | _ => none

def executionsIn (undoings : List Undoing) : List Execution :=
  undoings.flatMap fun undoing => executionsOf undoing.plan undoing.entries

-- One execution of a plan

def guardEntries (step : CompensationStep) : List CompensationEntry :=
  match step.requiredCurrentVersion with
  | none => []
  | some required => [⟨.currentResourceVersion step, .ok (some required)⟩]

inductive Walk (plan : CompensationPlan) : List CompensationStep → Finset (String × String) →
    List CompensationEntry → Bool → Finset (String × String) → Prop where
  | nil (completed : Finset (String × String)) : Walk plan [] completed [] true completed
  | skip {step : CompensationStep} {rest : List CompensationStep}
      {completed completed' : Finset (String × String)} {entries : List CompensationEntry}
      {finished : Bool} (found : plan.key step ∈ completed)
      (later : Walk plan rest completed entries finished completed') :
      Walk plan (step :: rest) completed (⟨.contains (plan.key step), true⟩ :: entries) finished
        completed'
  | refused {step : CompensationStep} {rest : List CompensationStep}
      {completed : Finset (String × String)} (absent : plan.key step ∉ completed)
      (answer : Except LedgerError (Option ResourceVersion)) :
      Walk plan (step :: rest) completed
        [⟨.contains (plan.key step), false⟩, ⟨.currentResourceVersion step, answer⟩] false completed
  | failed {step : CompensationStep} {rest : List CompensationStep}
      {completed : Finset (String × String)} (absent : plan.key step ∉ completed)
      (e : LedgerError) :
      Walk plan (step :: rest) completed
        (⟨.contains (plan.key step), false⟩ :: guardEntries step ++
          [⟨.execute step (plan.idempotencyKey step), .error e⟩]) false completed
  | executed {step : CompensationStep} {rest : List CompensationStep}
      {completed completed' : Finset (String × String)} {entries : List CompensationEntry}
      {finished : Bool} (absent : plan.key step ∉ completed)
      (later : Walk plan rest (insert (plan.key step) completed) entries finished completed') :
      Walk plan (step :: rest) completed
        (⟨.contains (plan.key step), false⟩ :: guardEntries step ++
          ⟨.execute step (plan.idempotencyKey step), .ok ()⟩ ::
          ⟨.insert (plan.key step), ()⟩ :: entries) finished completed'

variable {plan : CompensationPlan} {completed completed' : Finset (String × String)}
  {entries : List CompensationEntry}

theorem checkVersion_result {step : CompensationStep} {r : Except LedgerError Unit}
    (h : Resumes (checkVersion step).run entries (.done r)) :
    (∃ e answer, r = .error e ∧ entries = [⟨.currentResourceVersion step, answer⟩]) ∨
      (r = .ok () ∧ entries = guardEntries step) := by
  unfold checkVersion at h
  unfold guardEntries
  cases hrequired : step.requiredCurrentVersion with
  | none =>
    rw [hrequired] at h
    cases h
    exact .inr ⟨rfl, rfl⟩
  | some required =>
    rw [hrequired] at h
    obtain ⟨e, rfl, hread⟩ | ⟨version, first, second, rfl, hread, hensure⟩ := h.of_attempt_result
    · cases hread with
      | perform rest =>
        cases rest
        exact .inl ⟨e, _, rfl, rfl⟩
    · cases hread with
      | perform rest =>
        cases rest
        unfold Attempt.ensure at hensure
        split_ifs at hensure with hsame
        · cases hensure
          subst hsame
          exact .inr ⟨rfl, rfl⟩
        · cases hensure
          exact .inl ⟨_, _, rfl, rfl⟩

theorem serves_guardEntries {step : CompensationStep} {rest : List CompensationEntry}
    (h : (system plan).Serves completed (guardEntries step ++ rest) completed') :
    (system plan).Serves completed rest completed' := by
  unfold guardEntries at h
  split at h
  · exact h
  · cases h with
    | cons served rest =>
      obtain rfl := served
      exact rest

theorem walk_of_absent {step : CompensationStep} {steps : List CompensationStep}
    {completedSteps alreadyCompletedSteps : List String} {outcome : Outcome}
    (habsent : plan.key step ∉ completed)
    (hresumes : Resumes (ExceptT.run (do
      checkVersion step
      executeStep step (plan.idempotencyKey step)
      completedInsert (plan.key step)
      executeEach plan steps (completedSteps ++ [step.stepId]) alreadyCompletedSteps)) entries
      (.done outcome))
    (hserves : (system plan).Serves completed entries completed')
    (hlater : ∀ {entries}, Resumes (executeEach plan steps (completedSteps ++ [step.stepId])
        alreadyCompletedSteps).run entries (.done outcome) →
      (system plan).Serves (insert (plan.key step) completed) entries completed' →
      Walk plan steps (insert (plan.key step) completed) entries outcome.isOk completed') :
    Walk plan (step :: steps) completed (⟨.contains (plan.key step), false⟩ :: entries)
      outcome.isOk completed' := by
  obtain ⟨e, rfl, hguard⟩ | ⟨_, first, second, rfl, hguard, hrun⟩ := hresumes.of_attempt_result
  · obtain ⟨e', answer, -, rfl⟩ | ⟨hnot, -⟩ := checkVersion_result hguard
    · cases hserves with
      | cons served rest =>
        cases rest
        obtain rfl := served
        exact .refused habsent answer
    · cases hnot
  obtain ⟨e', answer, hnot, -⟩ | ⟨-, rfl⟩ := checkVersion_result hguard
  · cases hnot
  have hserves := serves_guardEntries hserves
  obtain ⟨e, rfl, hexecute⟩ | ⟨_, third, fourth, rfl, hexecute, hinsert⟩ := hrun.of_attempt_result
  · cases hexecute with
    | perform rest =>
      cases rest
      cases hserves with
      | cons served rest =>
        cases rest
        obtain rfl := served
        exact .failed habsent e
  cases hexecute with
  | perform rest =>
    cases rest
    cases hserves with
    | cons served hserves =>
      obtain rfl := served.symm
      obtain ⟨e, -, hnot⟩ | ⟨_, fifth, sixth, rfl, hrecord, hrest⟩ := hinsert.of_attempt_result
      · cases hnot with
        | perform rest => cases rest
      cases hrecord with
      | perform rest =>
        cases rest
        cases hserves with
        | cons served hserves =>
          obtain rfl := served
          exact .executed habsent (hlater hrest hserves)

theorem walk_of_resumes {steps : List CompensationStep}
    {completedSteps alreadyCompletedSteps : List String} {outcome : Outcome}
    (hresumes : Resumes (executeEach plan steps completedSteps alreadyCompletedSteps).run entries
      (.done outcome))
    (hserves : (system plan).Serves completed entries completed') :
    Walk plan steps completed entries outcome.isOk completed' := by
  induction steps generalizing completedSteps alreadyCompletedSteps completed entries with
  | nil =>
    cases hresumes
    cases hserves
    exact .nil _
  | cons step steps ih =>
    rw [executeEach] at hresumes
    obtain ⟨e, rfl, hlook⟩ | ⟨found, first, second, rfl, hlook, hafter⟩ :=
      hresumes.of_attempt_result
    · cases hlook with
      | perform rest => cases rest
    cases hlook with
    | perform rest =>
      cases rest
      cases hserves with
      | cons served hserves =>
        obtain ⟨hfound, hsame⟩ := served
        obtain rfl := hsame.symm
        cases found with
        | true => exact .skip (by simpa using hfound) (ih hafter hserves)
        | false =>
          have habsent : plan.key step ∉ completed := by simpa using hfound
          exact walk_of_absent habsent hafter hserves fun hlater hserved => ih hlater hserved

-- What is passed to the executor

@[simp] theorem executionsOf_nil : executionsOf plan [] = [] := rfl

@[simp] theorem executionsOf_contains (key : String × String) (found : Bool) :
    executionsOf plan (⟨.contains key, found⟩ :: entries) = executionsOf plan entries := rfl

@[simp] theorem executionsOf_version (step : CompensationStep)
    (answer : Except LedgerError (Option ResourceVersion)) :
    executionsOf plan (⟨.currentResourceVersion step, answer⟩ :: entries) =
      executionsOf plan entries := rfl

@[simp] theorem executionsOf_ok (step : CompensationStep) (idempotencyKey : String) :
    executionsOf plan (⟨.execute step idempotencyKey, .ok ()⟩ :: entries) =
      ⟨plan, step, idempotencyKey, true⟩ :: executionsOf plan entries := rfl

@[simp] theorem executionsOf_error (step : CompensationStep) (idempotencyKey : String)
    (e : LedgerError) :
    executionsOf plan (⟨.execute step idempotencyKey, .error e⟩ :: entries) =
      ⟨plan, step, idempotencyKey, false⟩ :: executionsOf plan entries := rfl

@[simp] theorem executionsOf_insert (key : String × String) (answer : Unit) :
    executionsOf plan (⟨.insert key, answer⟩ :: entries) = executionsOf plan entries := rfl

@[simp] theorem executionsOf_guardEntries (step : CompensationStep) :
    executionsOf plan (guardEntries step ++ entries) = executionsOf plan entries := by
  unfold guardEntries
  split
  · rfl
  · rfl

theorem plan_of_mem_executionsOf {execution : Execution}
    (h : execution ∈ executionsOf plan entries) : execution.plan = plan := by
  obtain ⟨entry, -, hentry⟩ := List.mem_filterMap.mp h
  split at hentry
  · rw [← Option.some.inj hentry]
  · cases hentry

theorem executionsIn_append (undoings : List Undoing) (undoing : Undoing) :
    executionsIn (undoings ++ [undoing]) =
      executionsIn undoings ++ executionsOf undoing.plan undoing.entries := by
  simp [executionsIn]

def Guarded (entries : List CompensationEntry) : Prop :=
  ∀ first step idempotencyKey answer rest required,
    entries = first ++ ⟨.execute step idempotencyKey, answer⟩ :: rest →
    step.requiredCurrentVersion = some required →
    first.getLast? = some ⟨.currentResourceVersion step, .ok (some required)⟩

theorem guarded_nil : Guarded [] := by
  intro first step key answer rest required hentries
  cases first <;> cases hentries

def isExecute : CompensationCall → Bool
  | .execute .. => true
  | _ => false

theorem Guarded.cons (h : Guarded entries) {entry : CompensationEntry}
    (hentry : isExecute entry.1 = false) : Guarded (entry :: entries) := by
  intro first step key answer rest required hentries hrequired
  cases first with
  | nil =>
    obtain ⟨rfl, -⟩ := List.cons.inj hentries
    cases hentry
  | cons other first =>
    obtain ⟨-, htail⟩ := List.cons.inj hentries
    rw [List.getLast?_cons, h first step key answer rest required htail hrequired]
    rfl

theorem Guarded.execute (h : Guarded entries) (step : CompensationStep) (idempotencyKey : String)
    (answer : Except LedgerError Unit) :
    Guarded (guardEntries step ++ ⟨.execute step idempotencyKey, answer⟩ :: entries) := by
  intro first other key answer' rest required hentries hrequired
  unfold guardEntries at hentries
  split at hentries
  · next hnone =>
    cases first with
    | nil =>
      obtain ⟨hcall, -⟩ := List.cons.inj hentries
      cases hcall
      rw [hnone] at hrequired
      cases hrequired
    | cons entry first =>
      obtain ⟨-, htail⟩ := List.cons.inj hentries
      rw [List.getLast?_cons, h first other key answer' rest required htail hrequired]
      rfl
  · next version hversion =>
    cases first with
    | nil =>
      obtain ⟨hcall, -⟩ := List.cons.inj hentries
      cases hcall
    | cons entry first =>
      obtain ⟨rfl, htail⟩ := List.cons.inj hentries
      cases first with
      | nil =>
        obtain ⟨hcall, -⟩ := List.cons.inj htail
        cases hcall
        rw [hversion] at hrequired
        rw [Option.some.inj hrequired]
        rfl
      | cons entry first =>
        obtain ⟨-, hlater⟩ := List.cons.inj htail
        rw [List.getLast?_cons, List.getLast?_cons,
          h first other key answer' rest required hlater hrequired]
        rfl

theorem Walk.guarded {steps : List CompensationStep} {finished : Bool}
    (h : Walk plan steps completed entries finished completed') : Guarded entries := by
  induction h with
  | nil => exact guarded_nil
  | skip found later ih => exact ih.cons rfl
  | refused absent answer => exact (guarded_nil.cons rfl).cons rfl
  | failed absent e => exact (guarded_nil.execute _ _ _).cons rfl
  | executed absent later ih => exact ((ih.cons rfl).execute _ _ _).cons rfl

-- Keys, in every run

theorem split_append {α : Type} {l m earlier later : List α} {b : α}
    (h : l ++ m = earlier ++ b :: later) :
    (∃ later', l = earlier ++ b :: later') ∨
      ∃ earlier', earlier = l ++ earlier' ∧ m = earlier' ++ b :: later := by
  rcases List.append_eq_append_iff.mp h with ⟨more, rfl, hm⟩ | ⟨more, rfl, hm⟩
  · exact .inr ⟨more, rfl, hm⟩
  · cases more with
    | nil => exact .inr ⟨[], by simp, hm.symm⟩
    | cons c more =>
      obtain ⟨rfl, -⟩ := List.cons.inj hm
      exact .inl ⟨more, rfl⟩

structure Chronicled (completed : Finset (String × String)) (log : List Execution) : Prop where
  completed : ∀ key, key ∈ completed ↔ ∃ e ∈ log, e.succeeded = true ∧ e.key = key
  once : ∀ earlier e later, log = earlier ++ e :: later → ∀ e' ∈ earlier, e'.succeeded = true →
    e'.key ≠ e.key
  lifo : ∀ earlier e later, log = earlier ++ e :: later → ∃ front back,
    e.plan.steps = front ++ e.step :: back ∧
      ∀ other ∈ back, ∃ e' ∈ earlier, e'.succeeded = true ∧ e'.key = e.plan.key other
  idempotencyKey : ∀ e ∈ log, e.idempotencyKey = e.plan.idempotencyKey e.step

theorem chronicled_nil : Chronicled ∅ [] := by
  constructor
  · simp
  · intro earlier e later hsplit
    cases earlier <;> cases hsplit
  · intro earlier e later hsplit
    cases earlier <;> cases hsplit
  · simp

theorem Chronicled.snoc {log : List Execution} (h : Chronicled completed log) {e : Execution}
    {before after : List CompensationStep} (habsent : e.key ∉ completed)
    (hsteps : e.plan.steps.reverse = before ++ e.step :: after)
    (hbefore : ∀ other ∈ before, e.plan.key other ∈ completed)
    (hkey : e.idempotencyKey = e.plan.idempotencyKey e.step) :
    Chronicled (if e.succeeded then insert e.key completed else completed) (log ++ [e]) := by
  refine ⟨?_, ?_, ?_, ?_⟩
  · intro key
    cases hsucceeded : e.succeeded with
    | true =>
      simp only [if_true, Finset.mem_insert, h.completed key, List.mem_append, List.mem_singleton,
        or_and_right, exists_or, exists_eq_left, hsucceeded, true_and]
      exact or_comm.trans (or_congr_right eq_comm)
    | false => simp [h.completed key, hsucceeded, or_and_right, exists_or]
  · intro earlier e' later hsplit other hother hsucceeded
    obtain ⟨rfl, rfl⟩ | ⟨later', hold⟩ := split_append_singleton hsplit
    · exact fun hsame => habsent ((h.completed _).mpr ⟨other, hother, hsucceeded, hsame⟩)
    · exact h.once earlier e' later' hold other hother hsucceeded
  · intro earlier e' later hsplit
    obtain ⟨rfl, rfl⟩ | ⟨later', hold⟩ := split_append_singleton hsplit
    · refine ⟨after.reverse, before.reverse, ?_, ?_⟩
      · rw [← List.reverse_reverse e'.plan.steps, hsteps]
        simp
      · intro other hother
        exact (h.completed _).mp (hbefore other (List.mem_reverse.mp hother))
    · exact h.lifo earlier e' later' hold
  · intro e' he'
    rcases List.mem_append.mp he' with hold | hnew
    · exact h.idempotencyKey e' hold
    · rw [List.mem_singleton.mp hnew]
      exact hkey

/-- One execution of a plan keeps what holds of the keys, and if it finishes every step of the
plan is completed. -/
theorem Walk.chronicled {steps : List CompensationStep} {finished : Bool}
    (h : Walk plan steps completed entries finished completed') {log : List Execution}
    {before : List CompensationStep} (hlog : Chronicled completed log)
    (hsteps : plan.steps.reverse = before ++ steps)
    (hbefore : ∀ step ∈ before, plan.key step ∈ completed) :
    Chronicled completed' (log ++ executionsOf plan entries) ∧
      (finished = true → ∀ step ∈ plan.steps, plan.key step ∈ completed') := by
  induction h generalizing log before with
  | nil completed =>
    refine ⟨by simpa using hlog, fun _ step hstep => hbefore step ?_⟩
    rw [← List.mem_reverse, hsteps, List.append_nil] at hstep
    exact hstep
  | @skip step rest completed completed' entries finished found later ih =>
    have hsteps' : plan.steps.reverse = (before ++ [step]) ++ rest := by simpa using hsteps
    refine ih hlog hsteps' ?_
    intro other hother
    rcases List.mem_append.mp hother with hother | hother
    · exact hbefore other hother
    · rw [List.mem_singleton.mp hother]
      exact found
  | refused absent answer => exact ⟨by simpa using hlog, nofun⟩
  | @failed step rest completed absent e =>
    refine ⟨?_, nofun⟩
    simpa using hlog.snoc (e := ⟨plan, step, plan.idempotencyKey step, false⟩) absent hsteps
      hbefore rfl
  | @executed step rest completed completed' entries finished absent later ih =>
    have hlog' := hlog.snoc (e := ⟨plan, step, plan.idempotencyKey step, true⟩) absent hsteps
      hbefore rfl
    have hsteps' : plan.steps.reverse = (before ++ [step]) ++ rest := by simpa using hsteps
    have hrest := ih hlog' hsteps' ?_
    · simpa using hrest
    · intro other hother
      rcases List.mem_append.mp hother with hother | hother
      · exact Finset.mem_insert_of_mem (hbefore other hother)
      · rw [List.mem_singleton.mp hother]
        exact Finset.mem_insert_self _ _

-- Steps, in the runs in which a key is used for one step

/-- The keys of a plan are used for its steps only: by each for itself, and not before for others,
neither in the set of completed steps nor towards the executor. -/
structure Clear (earlier : List Execution) (plan : CompensationPlan) : Prop where
  distinct : (plan.steps.map (·.stepId)).Nodup
  same : ∀ e ∈ earlier, e.succeeded = true → ∀ step ∈ plan.steps, e.key = plan.key step →
    e.step = step
  idempotencyKey : ∀ e ∈ earlier, ∀ step ∈ plan.steps,
    e.idempotencyKey = plan.idempotencyKey step → e.key = plan.key step

def AllClear (undoings : List Undoing) : Prop :=
  ∀ before undoing after, undoings = before ++ undoing :: after →
    Clear (executionsIn before) undoing.plan

def completes (plan : CompensationPlan) (step : CompensationStep) (e : Execution) : Bool :=
  e.succeeded && e.plan.planId = plan.planId && e.step = step

theorem completes_iff {step : CompensationStep} {e : Execution} :
    completes plan step e = true ↔
      e.succeeded = true ∧ e.plan.planId = plan.planId ∧ e.step = step := by
  simp [completes, and_assoc]

structure Orderly (undoings : List Undoing) : Prop where
  lifo : ∀ earlier e later, executionsIn undoings = earlier ++ e :: later → ∃ front back,
    e.plan.steps = front ++ e.step :: back ∧
      ∀ other ∈ back, ∃ e' ∈ earlier, completes e.plan other e' = true
  once : ∀ earlier e later, executionsIn undoings = earlier ++ e :: later →
    ∀ e' ∈ earlier, completes e.plan e.step e' = false
  guarded : ∀ undoing ∈ undoings, Guarded undoing.entries
  complete : ∀ before undoing after, undoings = before ++ undoing :: after →
    undoing.outcome.isOk = true → ∀ step ∈ undoing.plan.steps,
      (executionsIn (before ++ [undoing])).countP (completes undoing.plan step) = 1
  keys : ∀ e ∈ executionsIn undoings, ∀ e' ∈ executionsIn undoings,
    e.idempotencyKey = e'.idempotencyKey → e.key = e'.key

variable {undoings : List Undoing}

theorem Conducted.chronicled (h : Conducted undoings completed) :
    Chronicled completed (executionsIn undoings) := by
  induction h with
  | new => exact chronicled_nil
  | undo before undoing resumes serves ih =>
    have hwalk := walk_of_resumes resumes serves
    rw [executionsIn_append]
    exact (hwalk.chronicled ih (List.nil_append _).symm fun _ hnone =>
      absurd hnone List.not_mem_nil).1

theorem key_eq_of_idempotencyKey {step other : CompensationStep}
    (h : plan.idempotencyKey step = plan.idempotencyKey other) :
    plan.key step = plan.key other := by
  unfold CompensationPlan.idempotencyKey at h
  have hlist := congrArg String.toList h
  simp only [String.toList_append, List.append_cancel_left_eq, String.toList_inj] at hlist
  rw [CompensationPlan.key, CompensationPlan.key, hlist]

/-- Between plans it does not. -/
example : CompensationPlan.idempotencyKey { samplePlan with planId := "a:b" }
      { sampleStep with stepId := "c" } =
    CompensationPlan.idempotencyKey { samplePlan with planId := "a" }
      { sampleStep with stepId := "b:c" } := by decide

/-- What never comes again after it came comes at most once. -/
theorem countP_le_one {α : Type} {p : α → Bool} {l : List α}
    (h : ∀ earlier a later, l = earlier ++ a :: later → p a = true → ∀ b ∈ earlier, p b = false) :
    l.countP p ≤ 1 := by
  induction l using List.reverseRecOn with
  | nil => exact Nat.zero_le _
  | append_singleton l a ih =>
    rw [List.countP_append, List.countP_singleton]
    split_ifs with hp
    · have hzero : l.countP p = 0 :=
        List.countP_eq_zero.mpr fun b hb => by simp [h l a [] rfl hp b hb]
      omega
    · refine ih fun earlier b later hsplit hpb => ?_
      exact h earlier b (later ++ [a]) (by rw [hsplit, List.append_assoc]; rfl) hpb

theorem countP_completes_le_one {log : List Execution} (h : Chronicled completed log)
    (plan : CompensationPlan) (step : CompensationStep) : log.countP (completes plan step) ≤ 1 := by
  refine countP_le_one fun earlier e later hsplit hcompletes e' he' => ?_
  obtain ⟨-, hplan, hstep⟩ := completes_iff.mp hcompletes
  by_contra hagain
  obtain ⟨hsucceeded', hplan', hstep'⟩ := completes_iff.mp (by simpa using hagain)
  refine h.once earlier e later hsplit e' he' hsucceeded' (Prod.ext ?_ ?_)
  · exact hplan'.trans hplan.symm
  · exact congrArg (·.stepId) (hstep'.trans hstep.symm)

theorem mem_steps_of_mem_executionsOf {before : List Undoing} {undoing : Undoing}
    (hlog : Chronicled completed (executionsIn (before ++ [undoing]))) {e : Execution}
    (he : e ∈ executionsOf undoing.plan undoing.entries) :
    e.step ∈ undoing.plan.steps ∧
      e.idempotencyKey = undoing.plan.idempotencyKey e.step ∧
      e.key = undoing.plan.key e.step := by
  have hown : e.plan = undoing.plan := plan_of_mem_executionsOf he
  have hmem : e ∈ executionsIn (before ++ [undoing]) := by
    rw [executionsIn_append]
    exact List.mem_append_right _ he
  obtain ⟨earlier, later, hsplit⟩ := List.append_of_mem hmem
  obtain ⟨front, back, hsteps, -⟩ := hlog.lifo earlier e later hsplit
  refine ⟨?_, ?_, ?_⟩
  · rw [← hown, hsteps]
    exact List.mem_append_right _ List.mem_cons_self
  · rw [hlog.idempotencyKey e hmem, hown]
  · rw [Execution.key, hown]

theorem step_of_key {before : List Undoing} {undoing : Undoing}
    (hclear : Clear (executionsIn before) undoing.plan)
    (hlog : Chronicled completed (executionsIn (before ++ [undoing])))
    {e : Execution} (he : e ∈ executionsIn (before ++ [undoing])) (hsucceeded : e.succeeded = true)
    {step : CompensationStep} (hstep : step ∈ undoing.plan.steps)
    (hkey : e.key = undoing.plan.key step) : completes undoing.plan step e = true := by
  have hplan : e.plan.planId = undoing.plan.planId := congrArg Prod.fst hkey
  refine completes_iff.mpr ⟨hsucceeded, hplan, ?_⟩
  rw [executionsIn_append] at he
  rcases List.mem_append.mp he with hold | hnew
  · exact hclear.same e hold hsucceeded step hstep hkey
  · obtain ⟨hmem, -, hown⟩ := mem_steps_of_mem_executionsOf hlog hnew
    exact eq_of_key_eq hclear.distinct hmem hstep (hown.symm.trans hkey)

/-- **Compensations are orderly in every run in which every plan is clear**: steps are executed
backwards, once, with the versions they ask for and under keys of their own. -/
theorem compensations_orderly (hrun : Conducted undoings completed)
    (hclear : AllClear undoings) : Orderly undoings := by
  induction hrun with
  | new =>
    constructor
    · intro earlier e later hsplit
      cases earlier <;> cases hsplit
    · intro earlier e later hsplit
      cases earlier <;> cases hsplit
    · simp
    · intro before undoing after hsplit
      cases before <;> cases hsplit
    · simp [executionsIn]
  | @undo undoings completed completed' before undoing resumes serves ih =>
    have hold := ih fun earlier other later hsplit =>
      hclear earlier other (later ++ [undoing]) (by rw [hsplit, List.append_assoc]; rfl)
    have hplan : Clear (executionsIn undoings) undoing.plan := hclear undoings undoing [] rfl
    have hwalk := walk_of_resumes resumes serves
    have hlog := (before.undo undoing resumes serves).chronicled
    have hall := (hwalk.chronicled before.chronicled (List.nil_append _).symm
      fun _ hnone => absurd hnone List.not_mem_nil).2
    refine ⟨?_, ?_, ?_, ?_, ?_⟩
    · intro earlier e later hsplit
      obtain ⟨front, back, hsteps, hback⟩ := hlog.lifo earlier e later hsplit
      rw [executionsIn_append] at hsplit
      obtain ⟨later', hearly⟩ | ⟨earlier', rfl, hlate⟩ := split_append hsplit
      · exact hold.lifo earlier e later' hearly
      · refine ⟨front, back, hsteps, fun other hother => ?_⟩
        obtain ⟨e', he', hsucceeded, hkey⟩ := hback other hother
        have hown : e.plan = undoing.plan :=
          plan_of_mem_executionsOf (hlate ▸ List.mem_append_right _ List.mem_cons_self)
        rw [hown] at hsteps hkey ⊢
        have hmem : other ∈ undoing.plan.steps := by
          rw [hsteps]
          exact List.mem_append_right _ (List.mem_cons_of_mem _ hother)
        refine ⟨e', he', step_of_key hplan hlog ?_ hsucceeded hmem hkey⟩
        rw [executionsIn_append, hsplit]
        exact List.mem_append_left _ he'
    · intro earlier e later hsplit e' he'
      by_contra hagain
      obtain ⟨hsucceeded, hsame, hstep⟩ := completes_iff.mp (by simpa using hagain)
      exact hlog.once earlier e later hsplit e' he' hsucceeded
        (Prod.ext hsame (congrArg (·.stepId) hstep))
    · intro other hother
      rcases List.mem_append.mp hother with hother | hother
      · exact hold.guarded other hother
      · rw [List.mem_singleton.mp hother]
        exact hwalk.guarded
    · intro earlier other later hsplit hok step hstep
      obtain ⟨rfl, rfl⟩ | ⟨later', hearly⟩ := split_append_singleton hsplit
      · obtain ⟨e, he, hsucceeded, hkey⟩ := (hlog.completed _).mp (hall hok step hstep)
        have hcompletes := step_of_key hplan hlog he hsucceeded hstep hkey
        have hpos := List.countP_pos_iff.mpr ⟨e, he, hcompletes⟩
        have hone := countP_completes_le_one hlog other.plan step
        omega
      · exact hold.complete earlier other later' hearly hok step hstep
    · -- a new key is compared with the earlier ones by what is clear, with each other by the plan
      have hnew : ∀ e ∈ executionsIn undoings, ∀ e' ∈ executionsOf undoing.plan undoing.entries,
          e.idempotencyKey = e'.idempotencyKey → e.key = e'.key := by
        intro e he e' he' hkeys
        obtain ⟨hmem, hkey, hown⟩ := mem_steps_of_mem_executionsOf hlog he'
        rw [hown]
        exact hplan.idempotencyKey e he e'.step hmem (hkeys.trans hkey)
      intro e he e' he' hkeys
      rw [executionsIn_append] at he he'
      rcases List.mem_append.mp he with he | he
      · rcases List.mem_append.mp he' with he' | he'
        · exact hold.keys e he e' he' hkeys
        · exact hnew e he e' he' hkeys
      · rcases List.mem_append.mp he' with he' | he'
        · exact (hnew e' he' e he hkeys.symm).symm
        · obtain ⟨-, hkey, hown⟩ := mem_steps_of_mem_executionsOf hlog he
          obtain ⟨-, hkey', hown'⟩ := mem_steps_of_mem_executionsOf hlog he'
          rw [hown, hown']
          exact key_eq_of_idempotencyKey (hkey.symm.trans (hkeys.trans hkey'))

def sampleUndoing : Undoing where
  plan := samplePlan
  entries :=
    [⟨.contains ("plan", "one"), false⟩,
      ⟨.execute sampleStep (samplePlan.idempotencyKey sampleStep), .ok ()⟩,
      ⟨.insert ("plan", "one"), ()⟩]
  outcome := .ok { planId := "plan", completedSteps := ["one"], alreadyCompletedSteps := [] }

theorem compensations_orderly_sample :
    ∃ completed, Conducted [sampleUndoing] completed ∧ Orderly [sampleUndoing] := by
  have hresumes : Resumes (execute samplePlan).run sampleUndoing.entries
      (.done sampleUndoing.outcome) := .perform (.perform (.perform (.refl _)))
  have hserves : (system samplePlan).Serves ∅ sampleUndoing.entries {("plan", "one")} :=
    .cons ⟨by simp, rfl⟩ (.cons rfl (.cons rfl (.nil _)))
  have hrun := Conducted.new.undo sampleUndoing hresumes hserves
  have hclear : Clear [] samplePlan := ⟨by decide, nofun, nofun⟩
  refine ⟨_, hrun, compensations_orderly hrun fun before undoing after hsplit => ?_⟩
  obtain ⟨rfl, rfl⟩ | ⟨later, hnone⟩ := split_append_singleton (l := []) hsplit
  · exact hclear
  · cases before <;> cases hnone

def sampleOtherStep : CompensationStep := { sampleStep with argumentsHash := "b" }

def sampleAmbiguousPlan : CompensationPlan :=
  { samplePlan with steps := [sampleStep, sampleOtherStep] }

def sampleAmbiguousUndoing : Undoing where
  plan := sampleAmbiguousPlan
  entries :=
    [⟨.contains ("plan", "one"), false⟩,
      ⟨.execute sampleOtherStep (sampleAmbiguousPlan.idempotencyKey sampleOtherStep), .ok ()⟩,
      ⟨.insert ("plan", "one"), ()⟩, ⟨.contains ("plan", "one"), true⟩]
  outcome := .ok { planId := "plan", completedSteps := ["one"], alreadyCompletedSteps := ["one"] }

/-- The execution ends well though the first step was never executed. -/
theorem step_taken_for_another :
    ∃ completed, Conducted [sampleAmbiguousUndoing] completed ∧
      sampleAmbiguousUndoing.outcome.isOk = true ∧ sampleStep ∈ sampleAmbiguousPlan.steps ∧
      (executionsIn [sampleAmbiguousUndoing]).countP
        (completes sampleAmbiguousPlan sampleStep) = 0 := by
  have hresumes : Resumes (execute sampleAmbiguousPlan).run sampleAmbiguousUndoing.entries
      (.done sampleAmbiguousUndoing.outcome) := .perform (.perform (.perform (.perform (.refl _))))
  have hserves : (system sampleAmbiguousPlan).Serves ∅ sampleAmbiguousUndoing.entries
      {("plan", "one")} :=
    .cons ⟨by simp, rfl⟩ (.cons rfl (.cons rfl (.cons ⟨by simp, rfl⟩ (.nil _))))
  exact ⟨_, Conducted.new.undo sampleAmbiguousUndoing hresumes hserves, rfl, List.mem_cons_self,
    by decide⟩

end CompensationCoordinator

end AgentSphere.Ledger
