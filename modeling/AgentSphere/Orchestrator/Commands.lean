import AgentSphere.Orchestrator.Runs
import AgentSphere.Lib.History

/-!
# What a command was granted for

Each turn of a run keeps the calls it has made with their answers, so that the facts behind an
accepted command can be read off the run. A completed task has been started, verified and
completed in this order, and a killed one has been contained.
-/

namespace AgentSphere.Orchestrator

open Concurrency Relation

-- Moves

inductive Moves : TaskStatus → RuntimeCommandType → TaskStatus → Prop where
  | start : Moves .created .start .running
  | pause : Moves .running .pause .paused
  | resume : Moves .paused .resume .running
  | cancel : Moves .running .cancel .cancelling
  | killRunning : Moves .running .kill .killed
  | killPaused : Moves .paused .kill .killed
  | verify : Moves .running .verify .verifying
  | complete : Moves .verifying .complete .completed
  | handOverRunning : Moves .running .needsHuman .needsHuman
  | handOverVerifying : Moves .verifying .needsHuman .needsHuman
  | checkpointRunning : Moves .running .checkpoint .running
  | checkpointPaused : Moves .paused .checkpoint .paused

theorem walk_ok {facts : ResolvedTransitionFacts} {hasSideEffects : Bool}
    {source target : TaskStatus}
    {path : List TaskStatus} (h : walk facts hasSideEffects source path = .ok target) :
    target = (source :: path).getLast (by simp) := by
  induction path generalizing source with
  | nil => exact (Except.ok.inj h).symm
  | cons next path ih =>
    rw [walk] at h
    generalize (if next = .completed then facts.evaluation else none) = evaluation at h
    split at h
    · rw [ih h, List.getLast_cons_cons]
    · cases h

theorem moves_of_walk {facts : ResolvedTransitionFacts} {hasSideEffects : Bool}
    {source target : TaskStatus} {commandType : RuntimeCommandType} {path : List TaskStatus}
    (hpath : transitionPath source commandType = .ok path)
    (hwalk : walk facts hasSideEffects source path = .ok target) :
    Moves source commandType target := by
  have htarget := walk_ok hwalk
  unfold transitionPath at hpath
  split at hpath <;> cases hpath
  all_goals
    subst htarget
    constructor

structure Transits (hash : Hasher) (s : RuntimeWorkflowState) (command : RuntimeWorkflowCommand)
    (facts : ResolvedTransitionFacts) (s' : RuntimeWorkflowState) : Prop where
  moves : Moves s.status command.commandType s'.status
  checked : checkFacts command.commandType s.hasSideEffects facts = .ok ()
  sideEffects : s'.hasSideEffects = s.hasSideEffects

theorem transits_of_ok {hash : Hasher} {s s' : RuntimeWorkflowState}
    {command : RuntimeWorkflowCommand} {facts : ResolvedTransitionFacts} {eventId : Uuid}
    {now : DateTime} (h : applyResolvedTransition hash s command facts eventId now = .ok s') :
    Transits hash s command facts s' := by
  unfold applyResolvedTransition at h
  obtain ⟨-, -, h⟩ := except_bind_eq_ok.mp h
  obtain ⟨path, hpath, h⟩ := except_bind_eq_ok.mp h
  obtain ⟨target, hwalk, h⟩ := except_bind_eq_ok.mp h
  obtain ⟨_, hchecked, h⟩ := except_bind_eq_ok.mp h
  obtain rfl := Except.ok.inj h
  exact ⟨moves_of_walk hpath hwalk, hchecked, rfl⟩

-- Turns

abbrev EngineEntry := Entry EngineCall EngineCall.Answer

structure Turn where
  request : RuntimeTransitionRequest
  entries : List EngineEntry
  answer : Except RuntimeTransitionError RuntimeWorkflowState

def Turn.after (turn : Turn) : RuntimeWorkflowState :=
  match turn.answer with
  | .ok s => s
  | .error _ => turn.request.current

inductive Conducted (hash : Hasher) (s₀ : RuntimeWorkflowState) :
    List Turn → RuntimeWorkflowState → Prop where
  | start : Conducted hash s₀ [] s₀
  | turn {turns : List Turn} {s : RuntimeWorkflowState} (before : Conducted hash s₀ turns s)
    (turn : Turn)
      (current : turn.request.current = s)
      (run : Resumes (apply hash turn.request).run turn.entries (.done turn.answer)) :
      Conducted hash s₀ (turns ++ [turn]) turn.after

structure Bound (fact : AuthoritativeFact) (state : RuntimeWorkflowState)
    (command : RuntimeWorkflowCommand) (kind : FactKind) (decision : FactDecision) : Prop where
  factKind : fact.factKind = kind
  tenantId : fact.tenantId = state.tenantId
  taskId : fact.taskId = state.taskId
  actionId : fact.actionId = state.actionId
  commandId : fact.commandId = command.commandId
  recoveryCursor : fact.recoveryCursor = state.recoveryCursor
  payloadDigest : fact.payloadDigest = command.payloadDigest
  decision_eq : fact.decision = decision

def Obtained (entries : List EngineEntry) (state : RuntimeWorkflowState)
    (command : RuntimeWorkflowCommand) (port : FactPort) (kind : FactKind)
    (decision : FactDecision) (P : AuthoritativeFact → Prop) : Prop :=
  ∃ fact, (⟨.port port state command, .ok fact⟩ : EngineEntry) ∈ entries ∧
    Bound fact state command kind decision ∧ P fact

section Resolver

variable {entries : List EngineEntry} {state : RuntimeWorkflowState}
  {command : RuntimeWorkflowCommand}

theorem Obtained.mono {entries' : List EngineEntry} {port : FactPort} {kind : FactKind}
    {decision : FactDecision} {P : AuthoritativeFact → Prop}
    (h : Obtained entries state command port kind decision P) (hsub : entries ⊆ entries') :
    Obtained entries' state command port kind decision P := by
  obtain ⟨fact, hfact, h⟩ := h
  exact ⟨fact, hsub hfact, h⟩

theorem AuthoritativeFact.bound_of_validate {fact : AuthoritativeFact} {kind : FactKind}
    {decision : FactDecision} {now : DateTime}
    (h : fact.validate state command kind [decision] now = .ok ()) :
    Bound fact state command kind decision := by
  unfold AuthoritativeFact.validate at h
  split at h
  · cases h
  · next hchecks =>
    simp only [not_or, Decidable.not_not] at hchecks
    obtain ⟨-, hkind, htenant, htask, haction, hcommand, hcursor, hpayload, hdecision, -⟩ := hchecks
    exact ⟨hkind, htenant, htask, haction, hcommand, hcursor, hpayload, by simpa using hdecision⟩

/-- What `verified` returns was answered by the port, and is bound. -/
theorem verified_ok {port : FactPort} {kind : FactKind} {decision : FactDecision}
    {fact : AuthoritativeFact}
    (h : Resumes (verified port state command kind decision).run entries (.done (.ok fact))) :
    (⟨.port port state command, .ok fact⟩ : EngineEntry) ∈ entries ∧
      Bound fact state command kind decision := by
  unfold verified at h
  obtain ⟨answer, asked, rest, rfl, hasked, h⟩ := h.of_attempt_bind
  obtain ⟨now, timed, rest, rfl, -, h⟩ := h.of_attempt_bind
  obtain ⟨⟨⟩, checked, rest, rfl, hchecked, h⟩ := h.of_attempt_bind
  obtain rfl := h.of_pure
  refine ⟨List.mem_append_left _ ?_, fact.bound_of_validate hchecked.of_ofExcept⟩
  cases hasked with
  | perform hrest =>
    cases hrest
    simp

theorem resolvePolicy_start {evidenceRefs refs : BTreeSet String}
    (htype : command.commandType = .start)
    (h : Resumes (resolvePolicy state command evidenceRefs).run entries (.done (.ok refs))) :
    Obtained entries state command .policyVerify .policyCheckpoint .verified (fun _ => True) ∧
    Obtained entries state command .credentialVerify .credentialLease .active (fun _ => True) := by
  simp only [resolvePolicy, htype] at h
  obtain ⟨policy, first, rest, rfl, hpolicy, h⟩ := h.of_attempt_bind
  obtain ⟨credential, second, rest, rfl, hcredential, h⟩ := h.of_attempt_bind
  obtain ⟨hmem, hbound⟩ := verified_ok hpolicy
  obtain ⟨hmem', hbound'⟩ := verified_ok hcredential
  exact ⟨⟨policy, by simp [hmem], hbound, trivial⟩, ⟨credential, by simp [hmem'], hbound', trivial⟩⟩

theorem resolveApproval_start {evidenceRefs refs : BTreeSet String}
    (htype : command.commandType = .start)
    (h : Resumes (resolveApproval state command evidenceRefs).run entries (.done (.ok refs))) :
    Obtained entries state command .approvalVerify .approval .granted (fun _ => True) := by
  simp only [resolveApproval, htype] at h
  obtain ⟨approval, first, rest, rfl, happroval, h⟩ := h.of_attempt_bind
  obtain ⟨hmem, hbound⟩ := verified_ok happroval
  exact ⟨approval, by simp [hmem], hbound, trivial⟩

def TellsStatus (status : ExecutionStatus) (ledger : AuthoritativeFact) : Prop :=
  ∃ name, ledger.attributes["execution_status"]? = some name ∧
    parseExecutionStatus name = .ok status

theorem factAttribute_some {fact : AuthoritativeFact} {name value : String}
    {check : String → Bool} (h : factAttribute fact name check = .ok value) :
    fact.attributes[name]? = some value := by
  unfold factAttribute at h
  split at h
  · next found hfound =>
    cases h
    exact (Option.filter_eq_some_iff.mp hfound).1
  · cases h

theorem executionOf_status {ledger : AuthoritativeFact} {execution : RuntimeExecutionRecord}
    (h : executionOf ledger = .ok execution) : TellsStatus execution.status ledger := by
  unfold executionOf at h
  obtain ⟨name, hname, h⟩ := except_bind_eq_ok.mp h
  obtain ⟨status, hstatus, h⟩ := except_bind_eq_ok.mp h
  obtain ⟨_, -, h⟩ := except_bind_eq_ok.mp h
  obtain ⟨_, -, h⟩ := except_bind_eq_ok.mp h
  obtain ⟨_, -, h⟩ := except_bind_eq_ok.mp h
  cases h
  exact ⟨name, factAttribute_some hname, hstatus⟩

theorem resolveLedger_complete {evidenceRefs : BTreeSet String}
    {ledger : BTreeSet String × Option RuntimeExecutionRecord}
    (htype : command.commandType = .complete)
    (h : Resumes (resolveLedger state command evidenceRefs).run entries (.done (.ok ledger))) :
    ∃ execution, ledger.2 = some execution ∧
      Obtained entries state command .ledgerVerify .executionLedger .verified
        (TellsStatus execution.status) := by
  simp only [resolveLedger, htype] at h
  obtain ⟨fact, first, rest, rfl, hfact, h⟩ := h.of_attempt_bind
  obtain ⟨execution, second, rest, rfl, hexecution, h⟩ := h.of_attempt_bind
  obtain rfl := h.of_pure
  obtain ⟨hmem, hbound⟩ := verified_ok hfact
  exact ⟨execution, rfl, fact, by simp [hmem], hbound, executionOf_status hexecution.of_ofExcept⟩

theorem evaluationOf_gates {evaluator : AuthoritativeFact} {evidenceRefs : BTreeSet String}
    {now : DateTime} {evaluation : EvaluationResult}
    (h : evaluationOf evaluator evidenceRefs now = .ok evaluation) :
    evaluator.attributes["hard_gates_passed"]? = some "true" := by
  by_contra hgates
  simp only [evaluationOf, hgates, ne_eq, not_false_eq_true, if_true] at h
  cases h

theorem resolveEvaluation_complete {evidenceRefs : BTreeSet String}
    {result : BTreeSet String × Option EvaluationResult}
    (htype : command.commandType = .complete)
    (h : Resumes (resolveEvaluation state command evidenceRefs).run entries (.done (.ok result))) :
    Obtained entries state command .evaluatorVerify .evaluator .pass
      (fun evaluator => evaluator.attributes["hard_gates_passed"]? = some "true") := by
  simp only [resolveEvaluation, htype] at h
  obtain ⟨evaluator, first, rest, rfl, hevaluator, h⟩ := h.of_attempt_bind
  obtain ⟨now, second, rest, rfl, -, h⟩ := h.of_attempt_bind
  obtain ⟨evaluation, third, rest, rfl, hevaluation, h⟩ := h.of_attempt_bind
  obtain ⟨hmem, hbound⟩ := verified_ok hevaluator
  exact ⟨evaluator, by simp [hmem], hbound, evaluationOf_gates hevaluation.of_ofExcept⟩

def Warranted (entries : List EngineEntry) (state : RuntimeWorkflowState)
    (command : RuntimeWorkflowCommand) (facts : ResolvedTransitionFacts) : Prop :=
  match command.commandType with
  | .start =>
    Obtained entries state command .evidenceVerify .evidence .verified (fun _ => True) ∧
    Obtained entries state command .policyVerify .policyCheckpoint .verified (fun _ => True) ∧
    Obtained entries state command .credentialVerify .credentialLease .active (fun _ => True) ∧
    Obtained entries state command .approvalVerify .approval .granted (fun _ => True)
  | .kill =>
    Obtained entries state command .supervisorContain .runtimeSupervisor .contained
      (fun _ => True) ∧
    Obtained entries state command .credentialRevoke .credentialLease .revoked (fun _ => True)
  | .complete =>
    Obtained entries state command .evaluatorVerify .evaluator .pass
      (fun evaluator => evaluator.attributes["hard_gates_passed"]? = some "true") ∧
    ∃ status, facts.ledgerStatus = some status ∧
      Obtained entries state command .ledgerVerify .executionLedger .verified (TellsStatus status)
  | _ => True

theorem Warranted.mono {entries' : List EngineEntry} {facts : ResolvedTransitionFacts}
    (h : Warranted entries state command facts) (hsub : entries ⊆ entries') :
    Warranted entries' state command facts := by
  unfold Warranted at *
  split at h
  · obtain ⟨hevidence, hpolicy, hcredential, happroval⟩ := h
    exact ⟨hevidence.mono hsub, hpolicy.mono hsub, hcredential.mono hsub, happroval.mono hsub⟩
  · exact ⟨h.1.mono hsub, h.2.mono hsub⟩
  · obtain ⟨hevaluator, status, hstatus, hledger⟩ := h
    exact ⟨hevaluator.mono hsub, status, hstatus, hledger.mono hsub⟩
  · trivial

/-- **Spec of `resolve`**: the facts of a command were obtained and are bound to it. -/
theorem resolve_warranted {facts : ResolvedTransitionFacts}
    (h : Resumes (resolve state command).run entries (.done (.ok facts))) :
    Warranted entries state command facts := by
  unfold Warranted
  split
  · next htype =>
    rw [resolve, if_neg (by simp [htype])] at h
    obtain ⟨evidence, first, rest, rfl, hevidence, h⟩ := h.of_attempt_bind
    obtain ⟨_, second, rest, rfl, hpolicy, h⟩ := h.of_attempt_bind
    obtain ⟨_, third, rest, rfl, happroval, h⟩ := h.of_attempt_bind
    obtain ⟨hmem, hbound⟩ := verified_ok hevidence
    obtain ⟨hpolicy, hcredential⟩ := resolvePolicy_start htype hpolicy
    have happroval := resolveApproval_start htype happroval
    exact ⟨⟨evidence, by simp [hmem], hbound, trivial⟩,
      hpolicy.mono fun _ h => by simp [h], hcredential.mono fun _ h => by simp [h],
      happroval.mono fun _ h => by simp [h]⟩
  · next htype =>
    rw [resolve, if_pos htype, resolveKill] at h
    obtain ⟨supervisor, first, rest, rfl, hsupervisor, h⟩ := h.of_attempt_bind
    obtain ⟨credential, second, rest, rfl, hcredential, h⟩ := h.of_attempt_bind
    obtain ⟨hmem, hbound⟩ := verified_ok hsupervisor
    obtain ⟨hmem', hbound'⟩ := verified_ok hcredential
    exact ⟨⟨supervisor, by simp [hmem], hbound, trivial⟩,
      ⟨credential, by simp [hmem'], hbound', trivial⟩⟩
  · next htype =>
    rw [resolve, if_neg (by simp [htype])] at h
    obtain ⟨_, first, rest, rfl, -, h⟩ := h.of_attempt_bind
    obtain ⟨_, second, rest, rfl, -, h⟩ := h.of_attempt_bind
    obtain ⟨_, third, rest, rfl, -, h⟩ := h.of_attempt_bind
    obtain ⟨ledger, fourth, rest, rfl, hledger, h⟩ := h.of_attempt_bind
    obtain ⟨evaluation, fifth, rest, rfl, hevaluation, h⟩ := h.of_attempt_bind
    obtain rfl := h.of_pure
    obtain ⟨execution, hexecution, hledger⟩ := resolveLedger_complete htype hledger
    have hevaluation := resolveEvaluation_complete htype hevaluation
    refine ⟨hevaluation.mono fun _ h => by simp [h], execution.status, ?_,
      hledger.mono fun _ h => by simp [h]⟩
    rw [hexecution]
    rfl
  · trivial

end Resolver

structure Granted (hash : Hasher) (turn : Turn) (s' : RuntimeWorkflowState) : Prop where
  accepts : Accepts hash turn.request.current turn.request.command s'
  moves : Moves turn.request.current.status turn.request.command.commandType s'.status
  warranted : ∃ facts, Warranted turn.entries turn.request.current turn.request.command facts ∧
    checkFacts turn.request.command.commandType turn.request.current.hasSideEffects facts = .ok ()

/-- **Spec of a turn**: a state that is returned was there already, or its command was granted. -/
theorem accepted_facts {hash : Hasher} {turn : Turn} {s' : RuntimeWorkflowState}
    (hrun : Resumes (apply hash turn.request).run turn.entries (.done (.ok s'))) :
    (replay hash turn.request.current turn.request.command ≠ none ∧ s' = turn.request.current) ∨
      Granted hash turn s' := by
  have hanswered := answered_of_runs hrun.runs
  rcases hanswered with ⟨hreplay, hsame⟩ | haccepts
  · exact .inl ⟨by simp [hreplay], hsame⟩
  · refine .inr ?_
    unfold apply at hrun
    obtain ⟨_, timed, rest, hentries, -, hrun⟩ := hrun.of_attempt_bind
    obtain ⟨_, valid, rest', rfl, -, hrun⟩ := hrun.of_attempt_bind
    simp only [applyValidated, haccepts.fresh] at hrun
    obtain ⟨_, admitted, rest, rfl, -, hrun⟩ := hrun.of_attempt_bind
    obtain ⟨facts, resolved, rest', rfl, hresolved, hrun⟩ := hrun.of_attempt_bind
    obtain ⟨eventId, named, rest, rfl, -, hrun⟩ := hrun.of_attempt_bind
    obtain ⟨now, dated, rest', rfl, -, hrun⟩ := hrun.of_attempt_bind
    have htransits := transits_of_ok hrun.of_ofExcept
    refine ⟨haccepts, htransits.moves, facts, ?_, htransits.checked⟩
    refine (resolve_warranted hresolved.of_adapt).mono fun entry hentry => ?_
    simp [hentries, hentry]

-- The life of a task

def Turn.Obtains (turn : Turn) (port : FactPort) (kind : FactKind) (decision : FactDecision)
    (P : AuthoritativeFact → Prop) : Prop :=
  Obtained turn.entries turn.request.current turn.request.command port kind decision P

structure StartTurn (turn : Turn) : Prop where
  command : turn.request.command.commandType = .start
  accepted : ∃ s', turn.answer = .ok s' ∧ s'.status = .running
  evidence : turn.Obtains .evidenceVerify .evidence .verified (fun _ => True)
  policy : turn.Obtains .policyVerify .policyCheckpoint .verified (fun _ => True)
  credential : turn.Obtains .credentialVerify .credentialLease .active (fun _ => True)
  approval : turn.Obtains .approvalVerify .approval .granted (fun _ => True)

structure VerifyTurn (turn : Turn) : Prop where
  command : turn.request.command.commandType = .verify
  accepted : ∃ s', turn.answer = .ok s' ∧ s'.status = .verifying

structure CompleteTurn (turn : Turn) (s : RuntimeWorkflowState) : Prop where
  command : turn.request.command.commandType = .complete
  accepted : turn.answer = .ok s
  evaluator : turn.Obtains .evaluatorVerify .evaluator .pass
    (fun evaluator => evaluator.attributes["hard_gates_passed"]? = some "true")
  ledger : turn.request.current.hasSideEffects = true →
    turn.Obtains .ledgerVerify .executionLedger .verified (TellsStatus .succeeded)

structure KillTurn (turn : Turn) (s : RuntimeWorkflowState) : Prop where
  command : turn.request.command.commandType = .kill
  accepted : turn.answer = .ok s
  supervisor : turn.Obtains .supervisorContain .runtimeSupervisor .contained (fun _ => True)
  credential : turn.Obtains .credentialRevoke .credentialLease .revoked (fun _ => True)

section Granted

variable {hash : Hasher} {turn : Turn} {s' : RuntimeWorkflowState}

theorem Granted.startTurn (h : Granted hash turn s') (hanswer : turn.answer = .ok s')
    (htype : turn.request.command.commandType = .start) : StartTurn turn := by
  obtain ⟨facts, hwarranted, -⟩ := h.warranted
  simp only [Warranted, htype] at hwarranted
  obtain ⟨hevidence, hpolicy, hcredential, happroval⟩ := hwarranted
  have hrunning : s'.status = .running := by
    have hmoves := h.moves
    rw [htype] at hmoves
    generalize turn.request.current.status = source, s'.status = status at hmoves
    cases hmoves
    rfl
  exact ⟨htype, ⟨s', hanswer, hrunning⟩, hevidence, hpolicy, hcredential, happroval⟩

theorem Granted.completeTurn (h : Granted hash turn s') (hanswer : turn.answer = .ok s')
    (htype : turn.request.command.commandType = .complete) : CompleteTurn turn s' := by
  obtain ⟨facts, hwarranted, hchecked⟩ := h.warranted
  simp only [Warranted, htype] at hwarranted
  obtain ⟨hevaluator, status, hstatus, hledger⟩ := hwarranted
  refine ⟨htype, hanswer, hevaluator, fun heffects => ?_⟩
  have hsucceeded : facts.ledgerStatus = some .succeeded := by
    by_contra hother
    simp only [checkFacts, htype, heffects] at hchecked
    cases hevaluation : facts.evaluation <;> simp [hevaluation, hother] at hchecked
  obtain rfl : status = .succeeded := Option.some.inj (hstatus.symm.trans hsucceeded)
  exact hledger

theorem Granted.killTurn (h : Granted hash turn s') (hanswer : turn.answer = .ok s')
    (htype : turn.request.command.commandType = .kill) : KillTurn turn s' := by
  obtain ⟨facts, hwarranted, -⟩ := h.warranted
  simp only [Warranted, htype] at hwarranted
  exact ⟨htype, hanswer, hwarranted.1, hwarranted.2⟩

end Granted

structure Lawful (turns : List Turn) (s : RuntimeWorkflowState) : Prop where
  started : s.status ≠ .created → ∃ turn ∈ turns, StartTurn turn
  verified : s.status = .verifying → ∃ before turn after, turns = before ++ turn :: after ∧
    (∃ start ∈ before, StartTurn start) ∧ VerifyTurn turn
  completed : s.status = .completed → ∃ before turn after, turns = before ++ turn :: after ∧
    (∃ before' verify after', before = before' ++ verify :: after' ∧
      (∃ start ∈ before', StartTurn start) ∧ VerifyTurn verify) ∧
    CompleteTurn turn s ∧ ∀ later ∈ after, later.after = s
  killed : s.status = .killed → ∃ before turn after, turns = before ++ turn :: after ∧
    KillTurn turn s ∧ ∀ later ∈ after, later.after = s

namespace Lawful

variable {hash : Hasher} {turns : List Turn} {s : RuntimeWorkflowState} {turn : Turn}

theorem initial (hfresh : Fresh s) : Lawful [] s := by
  have hcreated := hfresh.created
  constructor <;> intro hstatus <;> simp [hcreated] at hstatus

theorem same (h : Lawful turns s) (hafter : turn.after = s) : Lawful (turns ++ [turn]) s where
  started hstatus := by
    obtain ⟨start, hmem, hstart⟩ := h.started hstatus
    exact ⟨start, List.mem_append_left _ hmem, hstart⟩
  verified hstatus := by
    obtain ⟨before, verify, after, rfl, hverified⟩ := h.verified hstatus
    exact ⟨before, verify, after ++ [turn], by simp, hverified⟩
  completed hstatus := by
    obtain ⟨before, complete, after, rfl, hverified, hcomplete, hlater⟩ := h.completed hstatus
    refine ⟨before, complete, after ++ [turn], by simp, hverified, hcomplete, ?_⟩
    intro later hmem
    rcases List.mem_append.mp hmem with hold | hnew
    · exact hlater later hold
    · exact List.mem_singleton.mp hnew ▸ hafter
  killed hstatus := by
    obtain ⟨before, kill, after, rfl, hkill, hlater⟩ := h.killed hstatus
    refine ⟨before, kill, after ++ [turn], by simp, hkill, ?_⟩
    intro later hmem
    rcases List.mem_append.mp hmem with hold | hnew
    · exact hlater later hold
    · exact List.mem_singleton.mp hnew ▸ hafter

theorem granted {s' : RuntimeWorkflowState} (h : Lawful turns turn.request.current)
    (hanswer : turn.answer = .ok s') (hgranted : Granted hash turn s') :
    Lawful (turns ++ [turn]) s' := by
  have hmoves := hgranted.moves
  generalize hsource : turn.request.current.status = source at hmoves
  generalize htype : turn.request.command.commandType = commandType at hmoves
  generalize htarget : s'.status = target at hmoves
  -- every move but a start begins where the task was started
  have hstarted : ∃ start ∈ turns ++ [turn], StartTurn start := by
    by_cases hcreated : source = .created
    · subst hcreated
      cases hmoves
      exact ⟨turn, by simp, hgranted.startTurn hanswer htype⟩
    · obtain ⟨start, hmem, hstart⟩ := h.started (hsource ▸ hcreated)
      exact ⟨start, List.mem_append_left _ hmem, hstart⟩
  refine ⟨fun _ => hstarted, fun hstatus => ?_, fun hstatus => ?_, fun hstatus => ?_⟩
  · rw [htarget] at hstatus
    subst hstatus
    cases hmoves
    obtain ⟨start, hmem, hstart⟩ := h.started (by simp [hsource])
    exact ⟨turns, turn, [], rfl, ⟨start, hmem, hstart⟩, htype, s', hanswer, htarget⟩
  · rw [htarget] at hstatus
    subst hstatus
    cases hmoves
    exact ⟨turns, turn, [], rfl, h.verified hsource, hgranted.completeTurn hanswer htype, by simp⟩
  · rw [htarget] at hstatus
    subst hstatus
    have hkill : KillTurn turn s' := hgranted.killTurn hanswer (by cases hmoves <;> exact htype)
    exact ⟨turns, turn, [], rfl, hkill, by simp⟩

end Lawful

theorem Turn.after_ok {turn : Turn} {s : RuntimeWorkflowState} (h : turn.answer = .ok s) :
    turn.after = s := by
  rw [Turn.after, h]

theorem lawful {hash : Hasher} {fresh s : RuntimeWorkflowState} {turns : List Turn}
    (hfresh : Fresh fresh) (hrun : Conducted hash fresh turns s) : Lawful turns s := by
  induction hrun with
  | start => exact .initial hfresh
  | @turn turns s before turn current run ih =>
    subst current
    cases hanswer : turn.answer with
    | error e =>
      have hsame : turn.after = turn.request.current := by rw [Turn.after, hanswer]
      rw [hsame]
      exact ih.same hsame
    | ok s' =>
      rw [Turn.after_ok hanswer]
      rw [hanswer] at run
      rcases accepted_facts run with ⟨-, rfl⟩ | hgranted
      · exact ih.same (Turn.after_ok hanswer)
      · exact ih.granted hanswer hgranted

theorem ended_unmoved {hash : Hasher} {s s' : RuntimeWorkflowState} {turns : List Turn}
    (hterminal : isTerminal s.status = true) (hrun : Conducted hash s turns s') : s' = s := by
  induction hrun with
  | start => rfl
  | @turn turns s' before turn current run ih =>
    subst ih
    cases hanswer : turn.answer with
    | error e => rw [Turn.after, hanswer, current]
    | ok next =>
      rw [Turn.after_ok hanswer]
      rw [hanswer] at run
      rcases accepted_facts run with ⟨-, rfl⟩ | hgranted
      · exact current
      · have hmoves := hgranted.moves
        rw [current] at hmoves
        generalize s'.status = source, next.status = target,
          turn.request.command.commandType = commandType at hmoves hterminal
        cases hmoves <;> cases hterminal

/-- **The life of a task**: a completed task was started, verified and completed on facts that
were obtained for these commands, a killed one was contained, and an ended one stays as it is. -/
theorem lifecycle_justified (hash : Hasher) {fresh s : RuntimeWorkflowState} {turns : List Turn}
    (hfresh : Fresh fresh) (hrun : Conducted hash fresh turns s) :
    (s.status = .completed → ∃ before start between verify rest complete after,
      turns = before ++ start :: (between ++ verify :: (rest ++ complete :: after)) ∧
      StartTurn start ∧ VerifyTurn verify ∧ CompleteTurn complete s ∧
      ∀ later ∈ after, later.after = s) ∧
    (s.status = .killed → ∃ before kill after, turns = before ++ kill :: after ∧
      KillTurn kill s ∧ ∀ later ∈ after, later.after = s) ∧
    (isTerminal s.status = true → ∀ turns' s', Conducted hash s turns' s' → s' = s) := by
  have hlawful := lawful hfresh hrun
  refine ⟨fun hstatus => ?_, hlawful.killed, fun hterminal _ _ => ended_unmoved hterminal⟩
  obtain ⟨_, complete, after, rfl, ⟨_, verify, rest, rfl, ⟨start, hmem, hstart⟩, hverify⟩,
    hcomplete, hlater⟩ := hlawful.completed hstatus
  obtain ⟨before, between, rfl⟩ := List.append_of_mem hmem
  exact ⟨before, start, between, verify, rest, complete, after, by simp, hstart, hverify, hcomplete,
    hlater⟩

abbrev recorder : Monitor EngineCall EngineCall.Answer (List EngineEntry) :=
  recording (fun _ _ => True) (fun _ _ => True)

def consult (hash : Hasher) (oracle : (call : EngineCall) → call.Answer)
    (s : RuntimeWorkflowState) (command : RuntimeWorkflowCommand) : Turn :=
  let request : RuntimeTransitionRequest :=
    { schemaVersion := transitionRequestSchemaVersion, current := s, command }
  let result := recorder.eval oracle (apply hash request).run []
  { request, entries := result.2, answer := result.1 }

def consultAll (hash : Hasher) (oracle : (call : EngineCall) → call.Answer) :
    RuntimeWorkflowState → List RuntimeWorkflowCommand → List Turn
  | _, [] => []
  | s, command :: rest =>
    let turn := consult hash oracle s command
    turn :: consultAll hash oracle turn.after rest

def consulted (hash : Hasher) (oracle : (call : EngineCall) → call.Answer) :
    RuntimeWorkflowState → List RuntimeWorkflowCommand → RuntimeWorkflowState
  | s, [] => s
  | s, command :: rest => consulted hash oracle (consult hash oracle s command).after rest

theorem consult_resumes (hash : Hasher) (oracle : (call : EngineCall) → call.Answer)
    (s : RuntimeWorkflowState) (command : RuntimeWorkflowCommand) :
    Resumes (apply hash (consult hash oracle s command).request).run
      (consult hash oracle s command).entries
      (.done (consult hash oracle s command).answer) := by
  obtain ⟨entries, hentries, hresumes⟩ := resumes_eval (fun _ _ => True) (fun _ _ => True) oracle
    (apply hash (consult hash oracle s command).request).run []
  have hsame : (consult hash oracle s command).entries = entries := hentries
  rw [hsame]
  exact hresumes

theorem conducted_consultAll {hash : Hasher} {s₀ s : RuntimeWorkflowState} {turns : List Turn}
    (h : Conducted hash s₀ turns s) (oracle : (call : EngineCall) → call.Answer)
    (commands : List RuntimeWorkflowCommand) :
    Conducted hash s₀ (turns ++ consultAll hash oracle s commands)
      (consulted hash oracle s commands) := by
  induction commands generalizing s turns with
  | nil =>
    show Conducted hash s₀ (turns ++ []) s
    rwa [List.append_nil]
  | cons command rest ih =>
    have hturn := h.turn (consult hash oracle s command) rfl (consult_resumes hash oracle s command)
    have hrest := ih hturn
    rw [List.append_assoc, List.singleton_append] at hrest
    exact hrest

theorem mem_extend {reference : String} {values more : BTreeSet String} :
    reference ∈ extend values more ↔ reference ∈ values ∨ reference ∈ more := by
  have hfold : ∀ (l : List String) (values : BTreeSet String),
      reference ∈ l.foldl (·.insert ·) values ↔ reference ∈ values ∨ reference ∈ l := by
    intro l
    induction l with
    | nil => simp
    | cons a l ih =>
      intro values
      rw [List.foldl_cons, ih, Std.ExtTreeSet.mem_insert, List.mem_cons]
      simp only [Std.compare_eq_iff_eq]
      grind
  rw [extend, hfold, Std.ExtTreeSet.mem_toList]

theorem applyResolvedTransition_accepts {hash : Hasher} {s : RuntimeWorkflowState}
    {command : RuntimeWorkflowCommand} {facts : ResolvedTransitionFacts} {path : List TaskStatus}
    {target : TaskStatus} (eventId : Uuid) (now : DateTime) (hvalid : facts.validate = .ok ())
    (hpath : transitionPath s.status command.commandType = .ok path)
    (hwalk : walk facts s.hasSideEffects s.status path = .ok target)
    (hfacts : checkFacts command.commandType s.hasSideEffects facts = .ok ()) :
    applyResolvedTransition hash s command facts eventId now =
      .ok (acceptCommand hash s command facts target eventId now) := by
  simp only [applyResolvedTransition, hvalid, hpath, hwalk, hfacts, bind, Except.bind]
  rfl

theorem consult_accepts {hash : Hasher} {oracle : (call : EngineCall) → call.Answer}
    {s s' : RuntimeWorkflowState} {command : RuntimeWorkflowCommand}
    {facts : ResolvedTransitionFacts} (hstate : stateOk s = true)
    (hcommand : commandOk hash (oracle .utcNow) command = true)
    (htenant : s.tenantId = command.tenantId) (htask : s.taskId = command.taskId)
    (hnew : replay hash s command = none) (hcheck : checkCurrent s command = .ok ())
    (hfacts : (resolve s command).run.answered oracle = .ok facts)
    (happly : applyResolvedTransition hash s command facts (oracle .newUuid) (oracle .utcNow) =
      .ok s') :
    (consult hash oracle s command).after = s' := by
  let request : RuntimeTransitionRequest :=
    { schemaVersion := transitionRequestSchemaVersion, current := s, command }
  have hvalid : validateRequest hash (oracle .utcNow) request = .ok () :=
    if_pos ⟨rfl, hstate, hcommand, htenant, htask⟩
  have hvalidated : (applyValidated hash request).run.answered oracle = .ok s' := by
    have hfresh : replay hash request.current request.command = none := hnew
    simp only [applyValidated, hfresh]
    refine (Attempt.answered_bind (x := .ofExcept (checkCurrent s command)) hcheck).trans ?_
    refine (Attempt.answered_bind
      (Attempt.answered_adapt RuntimeTransitionError.factResolution hfacts)).trans ?_
    refine (Attempt.answered_bind (a := oracle .newUuid) rfl).trans ?_
    exact (Attempt.answered_bind (a := oracle .utcNow) rfl).trans happly
  have hanswer : (consult hash oracle s command).answer = .ok s' := by
    refine (Monitor.eval_fst _ oracle _ _).trans ?_
    refine (Attempt.answered_bind (a := oracle .utcNow) rfl).trans ?_
    exact (Attempt.answered_bind (x := .ofExcept (validateRequest hash _ request)) hvalid).trans
      hvalidated
  exact Turn.after_ok hanswer

-- Room for a kill

theorem preflight_ok_iff {s : RuntimeWorkflowState} {command : RuntimeWorkflowCommand} :
    preflightTransition s command = .ok () ↔
      (∃ path, transitionPath s.status command.commandType = .ok path) ∧
      (command.commandType ≠ .kill → s.processedCommands.size < maxProcessedCommands - 1) ∧
      (lifecycleControl command.commandType = false → command.commandType ≠ .kill →
        s.processedCommands.size < maxRoutineCommands) ∧
      s.processedCommands.size < maxProcessedCommands ∧
      s.processedCommandFingerprints.size < maxProcessedCommands ∧
      s.processedIdempotencyKeys.size < maxProcessedCommands := by
  unfold preflightTransition
  cases hpath : transitionPath s.status command.commandType with
  | error e => simp
  | ok path =>
    simp only [Except.ok.injEq, exists_eq', true_and]
    split
    · next hfull =>
      simp only [reduceCtorEq, false_iff]
      rintro ⟨hkill, hroutine, hcommands, hfingerprints, hkeys⟩
      rcases hfull with ⟨htype, hsize⟩ | ⟨hcontrol, htype, hsize⟩ | hsize | hsize | hsize
      · exact absurd (hkill htype) (Nat.not_lt.mpr hsize)
      · exact absurd (hroutine hcontrol htype) (Nat.not_lt.mpr hsize)
      · exact absurd hcommands (Nat.not_lt.mpr hsize)
      · exact absurd hfingerprints (Nat.not_lt.mpr hsize)
      · exact absurd hkeys (Nat.not_lt.mpr hsize)
    · next hroom =>
      simp only [not_or, not_and, ge_iff_le, Nat.not_le] at hroom
      exact iff_of_true rfl hroom

theorem preflight_of_checkCurrent {s : RuntimeWorkflowState} {command : RuntimeWorkflowCommand}
    (h : checkCurrent s command = .ok ()) : preflightTransition s command = .ok () := by
  simp only [checkCurrent] at h
  split at h
  · cases h
  split at h
  · cases h
  · exact h

def Reserved (s : RuntimeWorkflowState) : Prop :=
  s.status ≠ .killed → s.processedCommands.size ≤ maxProcessedCommands - 1

theorem Granted.reserved {hash : Hasher} {turn : Turn} {s' : RuntimeWorkflowState}
    (h : Granted hash turn s') (hok : stateOk turn.request.current = true) : Reserved s' := by
  intro halive
  obtain ⟨hsize, -⟩ := h.accepts.sizes hok
  obtain ⟨-, hkill, -⟩ := preflight_ok_iff.mp (preflight_of_checkCurrent h.accepts.admitted)
  have htype : turn.request.command.commandType ≠ .kill := by
    intro htype
    have hmoves := h.moves
    rw [htype] at hmoves
    generalize turn.request.current.status = source, s'.status = target at hmoves halive
    cases hmoves <;> exact halive rfl
  have hroom := hkill htype
  omega

theorem conducted_reserved {hash : Hasher} {fresh s : RuntimeWorkflowState} {turns : List Turn}
    (hfresh : Fresh fresh) (hok : stateOk fresh = true) (hrun : Conducted hash fresh turns s) :
    Coherent s ∧ Reserved s := by
  induction hrun with
  | start =>
    refine ⟨hfresh.coherent hok, fun _ => ?_⟩
    simp [hfresh.processedCommands]
  | @turn turns s before turn current run ih =>
    subst current
    cases hanswer : turn.answer with
    | error e => rwa [Turn.after, hanswer]
    | ok s' =>
      rw [Turn.after_ok hanswer]
      rw [hanswer] at run
      rcases accepted_facts run with ⟨-, rfl⟩ | hgranted
      · exact ih
      · exact ⟨ih.1.accepts hgranted.accepts, hgranted.reserved ih.1.wellFormed⟩

def AcceptedAs (hash : Hasher) (s : RuntimeWorkflowState) (command : RuntimeWorkflowCommand)
    (s' : RuntimeWorkflowState) : Prop :=
  command.commandId ∉ s.processedCommands ∧
    command.requestIdempotencyKey ∉ s.processedIdempotencyKeys ∧
    ∃ turn : Turn, turn.request.current = s ∧ turn.request.command = command ∧
      Resumes (apply hash turn.request).run turn.entries (.done (.ok s'))

theorem AcceptedAs.granted {hash : Hasher} {s s' : RuntimeWorkflowState}
    {command : RuntimeWorkflowCommand} (h : AcceptedAs hash s command s') :
    ∃ turn : Turn, turn.request.current = s ∧ turn.request.command = command ∧
      Granted hash turn s' := by
  obtain ⟨hid, hkey, turn, rfl, rfl, hrun⟩ := h
  rcases accepted_facts hrun with ⟨hknown, -⟩ | hgranted
  · exact absurd (replay_eq_none.mpr ⟨hid, hkey⟩) hknown
  · exact ⟨turn, rfl, rfl, hgranted⟩

/-- **Room for a kill**: in every state of a run a running or paused task may be killed; other
commands are refused in time, and the killed state is within the bounds. -/
theorem kill_never_refused (hash : Hasher) {fresh s : RuntimeWorkflowState} {turns : List Turn}
    (hfresh : Fresh fresh) (hok : stateOk fresh = true) (hrun : Conducted hash fresh turns s) :
    (s.status = .running ∨ s.status = .paused → ∀ command : RuntimeWorkflowCommand,
      command.commandType = .kill → command.commandId ∉ s.processedCommands →
      command.requestIdempotencyKey ∉ s.processedIdempotencyKeys →
      preflightTransition s command = .ok ()) ∧
    (maxProcessedCommands - 1 ≤ s.processedCommands.size → ∀ command s',
      command.commandType ≠ .kill → ¬ AcceptedAs hash s command s') ∧
    (maxRoutineCommands ≤ s.processedCommands.size → ∀ command s',
      command.commandType = .start ∨ command.commandType = .checkpoint →
      ¬ AcceptedAs hash s command s') ∧
    ∀ command s', command.commandType = .kill → AcceptedAs hash s command s' →
      s'.status = .killed ∧ s'.events.length ≤ maxRuntimeEvents ∧
      s'.processedCommands.size ≤ maxProcessedCommands ∧
      s'.processedCommandFingerprints.size = s'.processedCommands.size ∧
      s'.processedIdempotencyKeys.size ≤ maxProcessedCommands ∧ stateOk s' = true := by
  obtain ⟨hcoherent, hreserved⟩ := conducted_reserved hfresh hok hrun
  refine ⟨fun hstatus command htype _ _ => ?_, fun hfull command s' htype haccepted => ?_,
    fun hfull command s' htype haccepted => ?_, fun command s' htype haccepted => ?_⟩
  · have hsize : s.processedCommands.size ≤ maxProcessedCommands - 1 :=
      hreserved (by rcases hstatus with hstatus | hstatus <;> simp [hstatus])
    have hpath : ∃ path, transitionPath s.status command.commandType = .ok path := by
      rcases hstatus with hstatus | hstatus
      · exact ⟨[.killRequested, .killed], by rw [hstatus, htype]; rfl⟩
      · exact ⟨[.killRequested, .killed], by rw [hstatus, htype]; rfl⟩
    have hfingerprints := hcoherent.fingerprints_size
    have hkeys := hcoherent.keys_size
    have hcommands := hcoherent.commands_size
    unfold maxProcessedCommands at *
    refine preflight_ok_iff.mpr ⟨hpath, fun hother => absurd htype hother,
      fun _ hother => absurd htype hother, ?_, ?_, ?_⟩ <;> unfold maxProcessedCommands <;> omega
  · obtain ⟨turn, rfl, rfl, hgranted⟩ := haccepted.granted
    obtain ⟨-, hkill, -⟩ := preflight_ok_iff.mp
      (preflight_of_checkCurrent hgranted.accepts.admitted)
    exact absurd (hkill htype) (Nat.not_lt.mpr hfull)
  · obtain ⟨turn, rfl, rfl, hgranted⟩ := haccepted.granted
    obtain ⟨-, -, hroutine, -⟩ := preflight_ok_iff.mp
      (preflight_of_checkCurrent hgranted.accepts.admitted)
    refine absurd (hroutine ?_ ?_) (Nat.not_lt.mpr hfull)
    · rcases htype with htype | htype <;> rw [htype] <;> rfl
    · rcases htype with htype | htype <;> rw [htype] <;> decide
  · obtain ⟨turn, rfl, rfl, hgranted⟩ := haccepted.granted
    have hnext := hcoherent.accepts hgranted.accepts
    have hstatus : s'.status = .killed := by
      have hmoves := hgranted.moves
      rw [htype] at hmoves
      generalize turn.request.current.status = source, s'.status = target at hmoves
      cases hmoves <;> rfl
    have hroom := hcoherent.room hgranted.accepts
    have hcursor := hgranted.accepts.cursor hroom
    refine ⟨hstatus, ?_, ?_, ?_, ?_, hnext.wellFormed⟩
    · rw [hnext.events_length]
      exact Nat.min_le_right _ _
    · rw [hnext.commands_size]
      omega
    · rw [hnext.fingerprints_size, hnext.commands_size]
    · rw [hnext.keys_size]
      omega

def sampleKill : RuntimeWorkflowCommand :=
  { sampleStart with
    commandId := "command-2", requestIdempotencyKey := "key-2", commandType := .kill
    expectedStateVersion := 1 }

theorem kill_never_refused_sampleStart :
    ∃ turns s, Conducted sampleHasher sampleCreated turns s ∧ s.status = .running ∧
      preflightTransition s sampleKill = .ok () := by
  obtain ⟨s, w, hruns, -⟩ := sampleRequest_returned
  obtain ⟨entries, hresumes⟩ := hruns.resumes
  have hrun : Conducted sampleHasher sampleCreated [⟨sampleRequest, entries, .ok s⟩] s :=
    Conducted.start.turn ⟨sampleRequest, entries, .ok s⟩ rfl hresumes
  have hnew : AcceptedAs sampleHasher sampleCreated sampleStart s :=
    ⟨by simp [sampleCreated], by simp [sampleCreated], ⟨sampleRequest, entries, .ok s⟩, rfl, rfl,
      hresumes⟩
  obtain ⟨turn, hcurrent, hcommand, hgranted⟩ := hnew.granted
  have hstatus : s.status = .running := by
    have hmoves := hgranted.moves
    rw [hcurrent, hcommand] at hmoves
    generalize s.status = target at hmoves
    cases hmoves
    rfl
  obtain ⟨-, -, facts, target, eventId, now, -, haccepted⟩ := hgranted.accepts
  rw [hcurrent, hcommand] at haccepted
  refine ⟨_, s, hrun, hstatus, ?_⟩
  refine (kill_never_refused sampleHasher sampleCreated_fresh sampleCreated_ok hrun).1
    (.inl hstatus) sampleKill rfl ?_ ?_
  · rw [haccepted]
    simp [acceptCommand, sampleCreated, sampleStart, sampleKill]
  · rw [haccepted]
    simp [acceptCommand, sampleCreated, sampleStart, sampleKill]

-- A sample task

def sampleAttributes : FactPort → BTreeMap String String
  | .ledgerVerify => ((((∅ : BTreeMap String String).insert "execution_status" "SUCCEEDED").insert
      "ledger_execution_id" "execution-1").insert "fence_digest" sampleFactDigest).insert
      "outcome_digest" sampleFactDigest
  | .evaluatorVerify => ((((∅ : BTreeMap String String).insert "hard_gates_passed" "true").insert
      "score_millionths" "1000000").insert "evaluator_id" "evaluator").insert
      "evaluator_version" "1"
  | _ => ∅

def sampleSuccess : (call : EngineCall) → call.Answer
  | .utcNow => (0 : Int)
  | .newUuid => zeroUuid
  | .port port state command =>
    .ok { sampleFact port state command with attributes := sampleAttributes port }

def sampleVerifyDigest : String := "5067d442fbd2484a1f4284b307fdae59ef79c4211deac65767c5e8fd0bb38ce3"
def sampleCompleteDigest : String := "d3a56c8132683a6966a449d95d97325cf8553bc965d2fad6987fea9fc45077e8"

def taskHasher : Hasher where
  text value :=
    if value = "\x7b\"command_type\":\"VERIFY\"\x7d" then sampleVerifyDigest
    else if value = "\x7b\"command_type\":\"COMPLETE\"\x7d" then sampleCompleteDigest
    else sampleHasher.text value
  object := sampleHasher.object

def sampleVerify : RuntimeWorkflowCommand :=
  { sampleStart with
    commandId := "command-2", requestIdempotencyKey := "key-2", commandType := .verify
    expectedStateVersion := 1, payloadDigest := sampleVerifyDigest }

def sampleComplete : RuntimeWorkflowCommand :=
  { sampleStart with
    commandId := "command-3", requestIdempotencyKey := "key-3", commandType := .complete
    expectedStateVersion := 2, payloadDigest := sampleCompleteDigest }

def sampleTask : List RuntimeWorkflowCommand := [sampleStart, sampleVerify, sampleComplete]

theorem isDigest_sampleFactDigest : isDigest sampleFactDigest = true := by decide

def successFact (port : FactPort) (s : RuntimeWorkflowState) (command : RuntimeWorkflowCommand) :
    AuthoritativeFact :=
  { sampleFact port s command with attributes := sampleAttributes port }

theorem verified_agrees {port : FactPort} {s : RuntimeWorkflowState}
    {command : RuntimeWorkflowCommand} {kind : FactKind} {decision : FactDecision}
    (h : sampleAgreed port = (kind, decision)) :
    (verified port s command kind decision).run.answered sampleSuccess =
      .ok (successFact port s command) := by
  refine (Attempt.answered_bind (a := successFact port s command) rfl).trans ?_
  refine (Attempt.answered_bind (a := (0 : Int)) rfl).trans ?_
  refine (Attempt.answered_bind (a := ()) ?_).trans rfl
  simp [Program.answered, AuthoritativeFact.validate, successFact, sampleFact, h,
    isDigest_sampleFactDigest]

def agreedRefs : List FactPort → BTreeSet String
  | [] => ∅
  | port :: earlier =>
    (extend (agreedRefs earlier) ((∅ : BTreeSet String).insert "evidence:1")).insert
      ("fact:" ++ (sampleAgreed port).1.debug ++ ":" ++ sampleFactDigest)

def startFacts : ResolvedTransitionFacts where
  evidenceRefs := agreedRefs [.approvalVerify, .credentialVerify, .policyVerify, .evidenceVerify]
  ledgerStatus := none
  evaluation := none
  compensationVerified := false
  credentialRevoked := false
  supervisorAcknowledged := false
  execution := none

def concludedFacts (ports : List FactPort) : ResolvedTransitionFacts where
  evidenceRefs := agreedRefs ports
  ledgerStatus := some .succeeded
  evaluation := some (passedEvaluation (agreedRefs ports) "evaluator" "1" 1000000 0)
  compensationVerified := false
  credentialRevoked := false
  supervisorAcknowledged := false
  execution := some
    { ledgerExecutionId := "execution-1", fenceDigest := sampleFactDigest
      outcomeDigest := sampleFactDigest, status := .succeeded
      evidenceRefs := (∅ : BTreeSet String).insert "evidence:1" }

theorem resolve_sampleStart (s : RuntimeWorkflowState) :
    (resolve s sampleStart).run.answered sampleSuccess = .ok startFacts := by
  refine (Attempt.answered_bind (verified_agrees rfl)).trans ?_
  refine (Attempt.answered_bind (x := resolvePolicy s sampleStart _)
    (a := agreedRefs [.credentialVerify, .policyVerify, .evidenceVerify]) ?_).trans ?_
  · refine (Attempt.answered_bind (verified_agrees rfl)).trans ?_
    exact (Attempt.answered_bind (verified_agrees rfl)).trans rfl
  refine (Attempt.answered_bind (x := resolveApproval s sampleStart _)
    (a := startFacts.evidenceRefs) ?_).trans ?_
  · exact (Attempt.answered_bind (verified_agrees rfl)).trans rfl
  refine (Attempt.answered_bind (x := resolveLedger s sampleStart _) rfl).trans ?_
  refine (Attempt.answered_bind (x := resolveEvaluation s sampleStart _) rfl).trans ?_
  simp [startFacts, Program.answered, successFact, sampleAttributes]

theorem executionOf_successFact (s : RuntimeWorkflowState) (command : RuntimeWorkflowCommand) :
    executionOf (successFact .ledgerVerify s command) = .ok
      { ledgerExecutionId := "execution-1", fenceDigest := sampleFactDigest
        outcomeDigest := sampleFactDigest, status := .succeeded
        evidenceRefs := (∅ : BTreeSet String).insert "evidence:1" } := by
  have hstatus : (sampleAttributes .ledgerVerify)["execution_status"]? = some "SUCCEEDED" := by
    decide
  have hid : (sampleAttributes .ledgerVerify)["ledger_execution_id"]? = some "execution-1" := by
    decide
  have hfence : (sampleAttributes .ledgerVerify)["fence_digest"]? = some sampleFactDigest := by
    decide
  have houtcome : (sampleAttributes .ledgerVerify)["outcome_digest"]? = some sampleFactDigest := by
    decide
  have hbounded : "execution-1".utf8ByteSize ≤ 256 := by decide
  have htoken : isToken "execution-1" = true := by decide
  simp only [executionOf, factAttribute, successFact, hstatus, hid, hfence, houtcome]
  simp [parseExecutionStatus, Option.filter, sampleFact,
    isDigest_sampleFactDigest, hbounded, htoken, bind, Except.bind, pure, Except.pure]

theorem evaluationOf_successFact (s : RuntimeWorkflowState) (command : RuntimeWorkflowCommand)
    (evidenceRefs : BTreeSet String) :
    evaluationOf (successFact .evaluatorVerify s command) evidenceRefs 0 = .ok
      (passedEvaluation evidenceRefs "evaluator" "1" 1000000 0) := by
  have hgates : (sampleAttributes .evaluatorVerify)["hard_gates_passed"]? = some "true" := by
    decide
  have hmillionths : (sampleAttributes .evaluatorVerify)["score_millionths"]? = some "1000000" := by
    decide
  have hid : (sampleAttributes .evaluatorVerify)["evaluator_id"]? = some "evaluator" := by
    decide
  have hversion : (sampleAttributes .evaluatorVerify)["evaluator_version"]? = some "1" := by
    decide
  have hscore : parseU32 "1000000" = some 1000000 := by decide
  simp only [evaluationOf, factAttribute, successFact, hgates, hmillionths, hid, hversion]
  simp [Option.filter, hscore, bind, Except.bind, pure, Except.pure]

theorem resolveLedger_success {command : RuntimeWorkflowCommand} (s : RuntimeWorkflowState)
    (ports : List FactPort)
    (h : command.commandType = .verify ∨ command.commandType = .complete) :
    (resolveLedger s command (agreedRefs ports)).run.answered sampleSuccess =
      .ok (agreedRefs (.ledgerVerify :: ports), (concludedFacts []).execution) := by
  have hrun : (do
      let ledger ← verified .ledgerVerify s command .executionLedger .verified
      let execution ← Attempt.ofExcept (executionOf ledger)
      return (ledger.appendEvidence (agreedRefs ports), some execution) :
        Resolver (BTreeSet String × Option RuntimeExecutionRecord)).run.answered sampleSuccess =
      .ok (agreedRefs (.ledgerVerify :: ports), (concludedFacts []).execution) := by
    refine (Attempt.answered_bind (verified_agrees rfl)).trans ?_
    exact (Attempt.answered_bind (x := .ofExcept (executionOf _))
      (executionOf_successFact s command)).trans rfl
  obtain ⟨_, _, _, _, _, commandType, _, _, _, _⟩ := command
  rcases h with rfl | rfl <;> exact hrun

theorem resolveEvaluation_success {command : RuntimeWorkflowCommand} (s : RuntimeWorkflowState)
    (ports : List FactPort)
    (h : command.commandType = .verify ∨ command.commandType = .complete) :
    (resolveEvaluation s command (agreedRefs ports)).run.answered sampleSuccess =
      .ok (agreedRefs (.evaluatorVerify :: ports),
        (concludedFacts (.evaluatorVerify :: ports)).evaluation) := by
  have hrun : (do
      let evaluator ← verified .evaluatorVerify s command .evaluator .pass
      let evidenceRefs := evaluator.appendEvidence (agreedRefs ports)
      let now ← utcNow
      let evaluation ← Attempt.ofExcept (evaluationOf evaluator evidenceRefs now)
      return (evidenceRefs, some evaluation) :
        Resolver (BTreeSet String × Option EvaluationResult)).run.answered sampleSuccess =
      .ok (agreedRefs (.evaluatorVerify :: ports),
        (concludedFacts (.evaluatorVerify :: ports)).evaluation) := by
    refine (Attempt.answered_bind (verified_agrees rfl)).trans ?_
    refine (Attempt.answered_bind (a := (0 : Int)) rfl).trans ?_
    exact (Attempt.answered_bind (x := .ofExcept (evaluationOf _ _ _))
      (evaluationOf_successFact s command _)).trans rfl
  obtain ⟨_, _, _, _, _, commandType, _, _, _, _⟩ := command
  rcases h with rfl | rfl <;> exact hrun

theorem resolve_sampleVerify (s : RuntimeWorkflowState) :
    (resolve s sampleVerify).run.answered sampleSuccess = .ok (concludedFacts
      [.evaluatorVerify, .ledgerVerify, .credentialVerify, .policyVerify, .evidenceVerify]) := by
  refine (Attempt.answered_bind (verified_agrees rfl)).trans ?_
  refine (Attempt.answered_bind (x := resolvePolicy s sampleVerify _)
    (a := agreedRefs [.credentialVerify, .policyVerify, .evidenceVerify]) ?_).trans ?_
  · refine (Attempt.answered_bind (verified_agrees rfl)).trans ?_
    exact (Attempt.answered_bind (verified_agrees rfl)).trans rfl
  refine (Attempt.answered_bind (x := resolveApproval s sampleVerify _) rfl).trans ?_
  refine (Attempt.answered_bind (resolveLedger_success s _ (.inl rfl))).trans ?_
  refine (Attempt.answered_bind (resolveEvaluation_success s _ (.inl rfl))).trans ?_
  simp [concludedFacts, Program.answered, successFact, sampleAttributes]

theorem resolve_sampleComplete (s : RuntimeWorkflowState) :
    (resolve s sampleComplete).run.answered sampleSuccess = .ok (concludedFacts
      [.evaluatorVerify, .ledgerVerify, .evidenceVerify]) := by
  refine (Attempt.answered_bind (verified_agrees rfl)).trans ?_
  refine (Attempt.answered_bind (x := resolvePolicy s sampleComplete _)
    (a := agreedRefs [.evidenceVerify]) rfl).trans ?_
  refine (Attempt.answered_bind (x := resolveApproval s sampleComplete _) rfl).trans ?_
  refine (Attempt.answered_bind (resolveLedger_success s _ (.inr rfl))).trans ?_
  refine (Attempt.answered_bind (resolveEvaluation_success s _ (.inr rfl))).trans ?_
  simp [concludedFacts, Program.answered, successFact, sampleAttributes]

theorem mem_agreedRefs {reference : String} {ports : List FactPort}
    (h : reference ∈ agreedRefs ports) :
    reference = "evidence:1" ∨ ∃ port, reference =
      "fact:" ++ (sampleAgreed port).1.debug ++ ":" ++ sampleFactDigest := by
  induction ports with
  | nil => simp [agreedRefs] at h
  | cons port earlier ih =>
    rw [agreedRefs, Std.ExtTreeSet.mem_insert, mem_extend] at h
    obtain hfact | hearlier | hevidence := h
    · exact .inr ⟨port, (by simpa using hfact : _ = _).symm⟩
    · exact ih hearlier
    · exact .inl (by simpa using hevidence : _ = _).symm

theorem validate_of_agreed {facts : ResolvedTransitionFacts} {port : FactPort}
    {earlier : List FactPort} (h : facts.evidenceRefs = agreedRefs (port :: earlier)) :
    facts.validate = .ok () := by
  have hsome : (agreedRefs (port :: earlier)).isEmpty = false := by simp [agreedRefs]
  have hbounded : (agreedRefs (port :: earlier)).toList.any
      (fun reference => reference.isEmpty || reference.utf8ByteSize > 2048) = false := by
    rw [List.any_eq_false]
    intro reference hmem
    rcases mem_agreedRefs (Std.ExtTreeSet.mem_toList.mp hmem) with rfl | ⟨port, rfl⟩
    · decide
    · cases port <;> decide
  rw [ResolvedTransitionFacts.validate, h, hsome, hbounded]
  rfl

def sampleStarted : RuntimeWorkflowState :=
  acceptCommand taskHasher sampleCreated sampleStart startFacts .running
    zeroUuid 0

def sampleVerified : RuntimeWorkflowState :=
  acceptCommand taskHasher sampleStarted sampleVerify
    (concludedFacts
      [.evaluatorVerify, .ledgerVerify, .credentialVerify, .policyVerify, .evidenceVerify])
    .verifying zeroUuid 0

theorem sampleStart_accepted :
    (consult taskHasher sampleSuccess sampleCreated sampleStart).after = sampleStarted :=
  consult_accepts sampleCreated_ok (by decide) rfl rfl
    (Option.isNone_iff_eq_none.mp (by decide)) (by decide)
    (resolve_sampleStart _)
    (applyResolvedTransition_accepts _ _ (validate_of_agreed rfl) rfl (by decide)
      (by decide))

theorem sampleVerify_accepted :
    (consult taskHasher sampleSuccess sampleStarted sampleVerify).after = sampleVerified :=
  consult_accepts (by decide) (by decide) rfl rfl
    (Option.isNone_iff_eq_none.mp (by decide)) (by decide)
    (resolve_sampleVerify _)
    (applyResolvedTransition_accepts _ _ (validate_of_agreed rfl) rfl (by decide)
      (by decide))

theorem sampleComplete_accepted :
    (consult taskHasher sampleSuccess sampleVerified sampleComplete).after =
      acceptCommand taskHasher sampleVerified sampleComplete
        (concludedFacts [.evaluatorVerify, .ledgerVerify, .evidenceVerify]) .completed
        zeroUuid 0 :=
  consult_accepts (by decide) (by decide) rfl rfl
    (Option.isNone_iff_eq_none.mp (by decide)) (by decide)
    (resolve_sampleComplete _)
    (applyResolvedTransition_accepts _ _ (validate_of_agreed rfl) rfl (by decide)
      (by decide))

/-- The sample task is started, verified and completed. -/
theorem lifecycle_justified_sampleTask :
    (consulted taskHasher sampleSuccess sampleCreated sampleTask).status = .completed ∧
    ∃ before start between verify rest complete after,
      consultAll taskHasher sampleSuccess sampleCreated sampleTask =
        before ++ start :: (between ++ verify :: (rest ++ complete :: after)) ∧
      StartTurn start ∧ VerifyTurn verify ∧
      CompleteTurn complete (consulted taskHasher sampleSuccess sampleCreated sampleTask) ∧
      ∀ later ∈ after,
        later.after = consulted taskHasher sampleSuccess sampleCreated sampleTask := by
  have hcompleted :
      (consulted taskHasher sampleSuccess sampleCreated sampleTask).status = .completed := by
    show (consult taskHasher sampleSuccess (consult taskHasher sampleSuccess
      (consult taskHasher sampleSuccess sampleCreated sampleStart).after sampleVerify).after
      sampleComplete).after.status = .completed
    rw [sampleStart_accepted, sampleVerify_accepted, sampleComplete_accepted]
    rfl
  have hrun : Conducted taskHasher sampleCreated
      (consultAll taskHasher sampleSuccess sampleCreated sampleTask)
      (consulted taskHasher sampleSuccess sampleCreated sampleTask) :=
    conducted_consultAll .start sampleSuccess sampleTask
  exact ⟨hcompleted, (lifecycle_justified taskHasher sampleCreated_fresh hrun).1 hcompleted⟩

end AgentSphere.Orchestrator
