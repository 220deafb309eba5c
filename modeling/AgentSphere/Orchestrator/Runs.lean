import AgentSphere.Orchestrator.Facts
import AgentSphere.Lib.Transition
import Mathlib.Data.List.Chain
import Mathlib.Data.List.Perm.Subperm

/-!
# Runs of the transition engine

A run feeds each state the engine returns into its next request; a refused request leaves the
state as it was. Whatever the ports answer, the bookkeeping of the state stays coherent: the
three records of processed commands grow together with the recovery cursor, and the events are
a window on one unbroken chain of statuses.
-/

namespace AgentSphere.Orchestrator

open Concurrency Relation

-- What the resolver returns

abbrev anyAnswer : Monitor EngineCall EngineCall.Answer PUnit :=
  Monitor.free EngineCall EngineCall.Answer

/-- What an observer of a run sees: the time, and each question to a port with the identifier of
the command it was asked for. -/
structure Watch where
  now : DateTime
  asked : List (FactPort × String)

def watch : Monitor EngineCall EngineCall.Answer Watch where
  Allowed _ _ := True
  Possible w call answer := match call, answer with
    | .utcNow, now => w.now ≤ now
    | .newUuid, _ => True
    | .port .., _ => True
  next w call answer := match call, answer with
    | .utcNow, now => { w with now }
    | .newUuid, _ => w
    | .port port _ command, _ => { w with asked := w.asked ++ [(port, command.commandId)] }

def Evidenced (fact : AuthoritativeFact) : Prop :=
  fact.evidenceRefs.isEmpty = false ∧ fact.evidenceRefs.toList.all (!·.isEmpty)

theorem AuthoritativeFact.evidenced_of_validate {fact : AuthoritativeFact}
    {state : RuntimeWorkflowState} {command : RuntimeWorkflowCommand} {kind : FactKind}
    {decisions : List FactDecision} {now : DateTime}
    (h : fact.validate state command kind decisions now = .ok ()) : Evidenced fact := by
  unfold AuthoritativeFact.validate at h
  split at h
  · cases h
  · next hchecks =>
    push Not at hchecks
    obtain ⟨-, -, -, -, -, -, -, -, -, -, hempty, hblank, -⟩ := hchecks
    refine ⟨by simpa using hempty, ?_⟩
    rw [List.all_eq_true]
    intro value hvalue
    by_contra hvoid
    exact hblank (List.any_eq_true.mpr ⟨value, hvalue, by simpa using hvoid⟩)

def Concerns (command : RuntimeWorkflowCommand) : EngineCall → Prop
  | .utcNow | .newUuid => True
  | .port _ _ asked => asked = command

section Resolver

variable {M : Type} {mon : Monitor EngineCall EngineCall.Answer M} {I : M → Prop}
  {command : RuntimeWorkflowCommand}

/-- The calls made on behalf of the command are allowed and keep `I`. -/
def Keeps (mon : Monitor EngineCall EngineCall.Answer M) (I : M → Prop)
    (command : RuntimeWorkflowCommand) : Prop :=
  ∀ m call, I m → Concerns command call →
    mon.Allowed m call ∧ ∀ answer, mon.Possible m call answer → I (mon.next m call answer)

/-- A program that keeps `I` and returns only values that satisfy `P`. -/
def Returns {ε α : Type} (mon : Monitor EngineCall EngineCall.Answer M) (I : M → Prop)
    (P : α → Prop) (x : Attempt ε EngineCall EngineCall.Answer α) : Prop :=
  ∀ m, I m → mon.Ensures (fun r m' => I m' ∧ ∀ a, r = .ok a → P a) x.run m

theorem Returns.bind {ε α β : Type} {P : α → Prop} {Q : β → Prop}
    {x : Attempt ε EngineCall EngineCall.Answer α}
    {f : α → Attempt ε EngineCall EngineCall.Answer β} (hx : Returns mon I P x)
    (hf : ∀ a, P a → Returns mon I Q (f a)) : Returns mon I Q (x >>= f) := by
  intro m hm
  rw [Monitor.ensures_attempt_bind]
  refine (hx m hm).mono fun r m' hr => ?_
  cases r with
  | ok a => exact hf a (hr.2 a rfl) m' hr.1
  | error e => exact ⟨hr.1, by rintro a ⟨⟩⟩

theorem Returns.mono {ε α : Type} {P Q : α → Prop}
    {x : Attempt ε EngineCall EngineCall.Answer α} (hx : Returns mon I P x)
    (himp : ∀ a, P a → Q a) : Returns mon I Q x :=
  fun m hm => (hx m hm).mono fun _ _ hr => ⟨hr.1, fun a ha => himp a (hr.2 a ha)⟩

theorem returns_ofExcept {ε α : Type} {P : α → Prop} {r : Except ε α}
    (h : ∀ a, r = .ok a → P a) :
    Returns mon I P (Attempt.ofExcept r : Attempt ε EngineCall EngineCall.Answer α) :=
  fun _ hm => ⟨hm, h⟩

theorem returns_pure {ε α : Type} {P : α → Prop} {a : α} (h : P a) :
    Returns mon I P (pure a : Attempt ε EngineCall EngineCall.Answer α) :=
  returns_ofExcept (by rintro b ⟨⟩; exact h)

theorem returns_utcNow {ε : Type} (hI : Keeps mon I command) :
    Returns mon I (fun _ => True) (utcNow : Attempt ε EngineCall EngineCall.Answer DateTime) := by
  intro m hm
  obtain ⟨hallowed, hnext⟩ := hI m .utcNow hm trivial
  exact ensures_utcNow.mpr ⟨hallowed, fun now hnow => ⟨hnext now hnow, fun _ _ => trivial⟩⟩

theorem returns_newUuid {ε : Type} (hI : Keeps mon I command) :
    Returns mon I (fun _ => True) (newUuid : Attempt ε EngineCall EngineCall.Answer Uuid) := by
  intro m hm
  obtain ⟨hallowed, hnext⟩ := hI m .newUuid hm trivial
  exact ensures_newUuid.mpr ⟨hallowed, fun u hu => ⟨hnext u hu, fun _ _ => trivial⟩⟩

theorem returns_ask (hI : Keeps mon I command) (port : FactPort)
    (state : RuntimeWorkflowState) : Returns mon I (fun _ => True) (ask port state command) := by
  intro m hm
  obtain ⟨hallowed, hnext⟩ := hI m (.port port state command) hm rfl
  exact ensures_ask.mpr ⟨hallowed, fun answer h => ⟨hnext answer h, fun _ _ => trivial⟩⟩

theorem returns_adapt {ε ε' α : Type} {P : α → Prop} {f : ε → ε'}
    {x : Attempt ε EngineCall EngineCall.Answer α} (hx : Returns mon I P x) :
    Returns mon I P (ExceptT.adapt f x) := by
  intro m hm
  rw [Monitor.ensures_adapt]
  refine (hx m hm).mono fun r m' hr => ?_
  cases r with
  | ok a =>
    refine ⟨hr.1, ?_⟩
    rintro b ⟨⟩
    exact hr.2 a rfl
  | error e => exact ⟨hr.1, by rintro a ⟨⟩⟩

theorem returns_verified (hI : Keeps mon I command) (port : FactPort)
    (state : RuntimeWorkflowState) (kind : FactKind) (decision : FactDecision) :
    Returns mon I Evidenced (verified port state command kind decision) := by
  unfold verified
  refine (returns_ask hI port state).bind fun fact _ => ?_
  refine (returns_utcNow hI).bind fun now _ => ?_
  refine (returns_ofExcept fun _ h => h).bind fun _ hvalid => ?_
  exact returns_pure (AuthoritativeFact.evidenced_of_validate hvalid)

theorem factAttribute_ok {fact : AuthoritativeFact} {name value : String}
    {check : String → Bool} (h : factAttribute fact name check = .ok value) :
    check value = true := by
  unfold factAttribute at h
  split at h
  · next found hfound =>
    cases h
    exact (Option.filter_eq_some_iff.mp hfound).2
  · cases h

theorem executionOf_ok {ledger : AuthoritativeFact} {execution : RuntimeExecutionRecord}
    (hledger : Evidenced ledger) (h : executionOf ledger = .ok execution) :
    executionRecordOk execution = true := by
  obtain ⟨hsome, hblank⟩ := hledger
  unfold executionOf at h
  obtain ⟨name, -, h⟩ := except_bind_eq_ok.mp h
  obtain ⟨status, -, h⟩ := except_bind_eq_ok.mp h
  obtain ⟨ledgerExecutionId, hid, h⟩ := except_bind_eq_ok.mp h
  obtain ⟨fenceDigest, hfence, h⟩ := except_bind_eq_ok.mp h
  obtain ⟨outcomeDigest, houtcome, h⟩ := except_bind_eq_ok.mp h
  cases h
  have hid := factAttribute_ok hid
  simp only [executionRecordOk, hid, factAttribute_ok hfence, factAttribute_ok houtcome, hsome,
    hblank, Bool.not_false, Bool.and_self]

theorem returns_resolvePolicy (hI : Keeps mon I command) (state : RuntimeWorkflowState)
    (evidenceRefs : BTreeSet String) :
    Returns mon I (fun _ => True) (resolvePolicy state command evidenceRefs) := by
  unfold resolvePolicy
  split
  case h_5 => exact returns_pure trivial
  all_goals
    refine (returns_verified hI _ _ _ _).bind fun policy _ => ?_
    refine (returns_verified hI _ _ _ _).bind fun credential _ => ?_
    exact returns_pure trivial

theorem returns_resolveApproval (hI : Keeps mon I command) (state : RuntimeWorkflowState)
    (evidenceRefs : BTreeSet String) :
    Returns mon I (fun _ => True) (resolveApproval state command evidenceRefs) := by
  unfold resolveApproval
  split
  · refine (returns_verified hI _ _ _ _).bind fun approval _ => ?_
    exact returns_pure trivial
  · exact returns_pure trivial

theorem returns_resolveLedger (hI : Keeps mon I command) (state : RuntimeWorkflowState)
    (evidenceRefs : BTreeSet String) :
    Returns mon I (fun pair => pair.2.all executionRecordOk = true)
      (resolveLedger state command evidenceRefs) := by
  unfold resolveLedger
  split
  case h_6 => exact returns_pure rfl
  all_goals
    refine (returns_verified hI _ _ _ _).bind fun ledger hledger => ?_
    refine (returns_ofExcept fun _ h => executionOf_ok hledger h).bind fun execution hok => ?_
    exact returns_pure (by simpa using hok)

theorem returns_resolveEvaluation (hI : Keeps mon I command) (state : RuntimeWorkflowState)
    (evidenceRefs : BTreeSet String) :
    Returns mon I (fun _ => True) (resolveEvaluation state command evidenceRefs) := by
  unfold resolveEvaluation
  split
  case h_3 => exact returns_pure trivial
  all_goals
    refine (returns_verified hI _ _ _ _).bind fun evaluator _ => ?_
    refine (returns_utcNow hI).bind fun now _ => ?_
    refine (returns_ofExcept fun _ _ => trivial).bind fun evaluation _ => ?_
    exact returns_pure trivial

theorem returns_resolve (hI : Keeps mon I command) (state : RuntimeWorkflowState) :
    Returns mon I (fun facts => facts.execution.all executionRecordOk = true)
      (resolve state command) := by
  unfold resolve
  split
  · -- a kill observes nothing but containment
    unfold resolveKill
    refine (returns_verified hI _ _ _ _).bind fun supervisor _ => ?_
    refine (returns_verified hI _ _ _ _).bind fun credential _ => ?_
    exact returns_pure rfl
  · refine (returns_verified hI _ _ _ _).bind fun evidence _ => ?_
    refine (returns_resolvePolicy hI _ _).bind fun policyRefs _ => ?_
    refine (returns_resolveApproval hI _ _).bind fun approvalRefs _ => ?_
    refine (returns_resolveLedger hI _ _).bind fun ledger hledger => ?_
    refine (returns_resolveEvaluation hI _ _).bind fun evaluation _ => ?_
    exact returns_pure hledger

end Resolver

-- The two ways to return a state

/-- The command is accepted in `s` and leads to `s'`. -/
structure Accepts (hash : Hasher) (s : RuntimeWorkflowState) (command : RuntimeWorkflowCommand)
    (s' : RuntimeWorkflowState) : Prop where
  fresh : replay hash s command = none
  admitted : checkCurrent s command = .ok ()
  accepted : ∃ facts target eventId now, facts.execution.all executionRecordOk = true ∧
    s' = acceptCommand hash s command facts target eventId now

theorem applyResolvedTransition_ok {hash : Hasher} {s s' : RuntimeWorkflowState}
    {command : RuntimeWorkflowCommand} {facts : ResolvedTransitionFacts} {eventId : Uuid}
    {now : DateTime} (h : applyResolvedTransition hash s command facts eventId now = .ok s') :
    ∃ target, s' = acceptCommand hash s command facts target eventId now := by
  unfold applyResolvedTransition at h
  obtain ⟨-, -, h⟩ := except_bind_eq_ok.mp h
  obtain ⟨path, -, h⟩ := except_bind_eq_ok.mp h
  obtain ⟨target, -, h⟩ := except_bind_eq_ok.mp h
  obtain ⟨-, -, h⟩ := except_bind_eq_ok.mp h
  exact ⟨target, (Except.ok.inj h).symm⟩

theorem replay_ok {hash : Hasher} {s s' : RuntimeWorkflowState}
    {command : RuntimeWorkflowCommand} (h : replay hash s command = some (.ok s')) : s' = s := by
  simp only [replay] at h
  split at h
  · split at h <;> cases h
    rfl
  · split at h
    · split at h <;> cases h
      rfl
    · cases h

def Answered (hash : Hasher) (request : RuntimeTransitionRequest) (s' : RuntimeWorkflowState) :
    Prop :=
  replay hash request.current request.command = some (.ok request.current) ∧
      s' = request.current ∨
    Accepts hash request.current request.command s'

section Apply

variable {M : Type} {mon : Monitor EngineCall EngineCall.Answer M} {I : M → Prop}
  (hash : Hasher) (request : RuntimeTransitionRequest)

theorem returns_applyValidated (hI : Keeps mon I request.command) :
    Returns mon I (Answered hash request) (applyValidated hash request) := by
  unfold applyValidated
  cases hreplay : replay hash request.current request.command with
  | some answer =>
    refine returns_ofExcept fun s' hs' => ?_
    subst hs'
    obtain rfl := replay_ok hreplay
    exact .inl ⟨hreplay, rfl⟩
  | none =>
    refine (returns_ofExcept fun _ h => h).bind fun _ hadmitted => ?_
    refine (returns_adapt (returns_resolve hI _)).bind fun facts hfacts => ?_
    refine (returns_newUuid hI).bind fun eventId _ => ?_
    refine (returns_utcNow hI).bind fun occurredAt _ => ?_
    refine returns_ofExcept fun s' hs' => ?_
    obtain ⟨target, hs'⟩ := applyResolvedTransition_ok hs'
    exact .inr ⟨hreplay, hadmitted, facts, target, eventId, occurredAt, hfacts, hs'⟩

/-- **Spec of `apply`**: it returns the state it was given, for a command that state knows, or
accepts its command; all its calls are made on behalf of the command. -/
theorem returns_apply (hI : Keeps mon I request.command) :
    Returns mon I (Answered hash request) (apply hash request) := by
  unfold apply
  refine (returns_utcNow hI).bind fun now _ => ?_
  refine (returns_ofExcept fun _ _ => trivial).bind fun _ _ => ?_
  exact returns_applyValidated hash request hI

end Apply

theorem answered_of_runs {M : Type} {mon : Monitor EngineCall EngineCall.Answer M} {m m' : M}
    {hash : Hasher} {request : RuntimeTransitionRequest} {s' : RuntimeWorkflowState}
    (hrun : mon.Runs (apply hash request).run m (.ok s') m') : Answered hash request s' := by
  have hfree : Keeps anyAnswer (fun _ => True) request.command :=
    fun _ _ _ _ => ⟨trivial, fun _ _ => trivial⟩
  exact ((returns_apply hash request hfree ⟨⟩ trivial).of_runs hrun.forget).2 s' rfl

-- The bookkeeping of a state

def Follows (earlier later : RuntimeTransitionEvent) : Prop :=
  later.recoveryCursor = earlier.recoveryCursor + 1 ∧ earlier.target = later.source

structure Coherent (s : RuntimeWorkflowState) : Prop where
  commands_size : s.processedCommands.size = s.recoveryCursor
  fingerprints_size : s.processedCommandFingerprints.size = s.recoveryCursor
  keys_size : s.processedIdempotencyKeys.size = s.recoveryCursor
  events_length : s.events.length = min s.recoveryCursor maxRuntimeEvents
  events_chain : s.events.IsChain Follows
  events_last : ∀ event ∈ s.events.getLast?,
    event.recoveryCursor = s.recoveryCursor ∧ event.target = s.status
  wellFormed : stateOk s = true

structure Fresh (s : RuntimeWorkflowState) : Prop where
  created : s.status = .created
  recoveryCursor : s.recoveryCursor = 0
  execution : s.execution = none
  processedCommands : s.processedCommands = ∅
  processedCommandFingerprints : s.processedCommandFingerprints = ∅
  processedIdempotencyKeys : s.processedIdempotencyKeys = ∅
  events : s.events = []

theorem Fresh.coherent {s : RuntimeWorkflowState} (hfresh : Fresh s) (hok : stateOk s = true) :
    Coherent s where
  commands_size := by simp [hfresh.processedCommands, hfresh.recoveryCursor]
  fingerprints_size := by simp [hfresh.processedCommandFingerprints, hfresh.recoveryCursor]
  keys_size := by simp [hfresh.processedIdempotencyKeys, hfresh.recoveryCursor]
  events_length := by simp [hfresh.events, hfresh.recoveryCursor]
  events_chain := by simp [hfresh.events]
  events_last := by simp [hfresh.events]
  wellFormed := hok

theorem replay_eq_none {hash : Hasher} {s : RuntimeWorkflowState}
    {command : RuntimeWorkflowCommand} :
    replay hash s command = none ↔
      command.commandId ∉ s.processedCommands ∧
        command.requestIdempotencyKey ∉ s.processedIdempotencyKeys := by
  by_cases hid : command.commandId ∈ s.processedCommands
  · have hcontains : s.processedCommands.contains command.commandId = true := hid
    simp only [replay, hcontains, if_true, hid, not_true_eq_false, false_and, iff_false]
    split <;> simp
  · have hcontains : s.processedCommands.contains command.commandId = false :=
      Bool.eq_false_iff.mpr hid
    rw [Std.ExtTreeMap.mem_iff_isSome_getElem?]
    cases hkey : s.processedIdempotencyKeys[command.requestIdempotencyKey]? with
    | none => simp [replay, hid, hkey]
    | some existing =>
      simp only [replay, hcontains, hkey, Bool.false_eq_true, if_false, Option.isSome_some,
        not_true_eq_false, and_false, iff_false]
      split <;> simp

theorem checkCurrent_ok {s : RuntimeWorkflowState} {command : RuntimeWorkflowCommand}
    (h : checkCurrent s command = .ok ()) :
    s.terminal = false ∧ s.processedCommands.size < maxProcessedCommands ∧
      s.processedIdempotencyKeys.size < maxProcessedCommands := by
  simp only [checkCurrent] at h
  split at h
  · cases h
  split at h
  · cases h
  · next hterminal =>
    simp only [preflightTransition] at h
    split at h
    · cases h
    split at h
    · cases h
    · next hroom =>
      push Not at hroom
      exact ⟨by simpa using hterminal, hroom.2.2.1, hroom.2.2.2.2⟩

theorem trimEvents_length (events : List RuntimeTransitionEvent) {n : Nat}
    (h : events.length = min n maxRuntimeEvents) :
    (trimEvents events).length + 1 = min (n + 1) maxRuntimeEvents := by
  unfold trimEvents
  unfold maxRuntimeEvents at *
  split
  · rw [List.length_tail]
    omega
  · omega

theorem trimEvents_chain {events : List RuntimeTransitionEvent} (h : events.IsChain Follows) :
    (trimEvents events).IsChain Follows := by
  unfold trimEvents
  split
  · exact h.tail
  · exact h

theorem trimEvents_getLast? {events : List RuntimeTransitionEvent} {event : RuntimeTransitionEvent}
    (h : event ∈ (trimEvents events).getLast?) : event ∈ events.getLast? := by
  unfold trimEvents at h
  split at h
  · cases events with
    | nil => exact h
    | cons first rest =>
      cases rest with
      | nil => cases h
      | cons second rest => simpa using h
  · exact h

/-- The two records of command identifiers have the same size and one contains the other, so
they are the same. -/
theorem commands_iff_of_stateOk {s : RuntimeWorkflowState} (hok : stateOk s = true)
    (commandId : String) :
    commandId ∈ s.processedCommands ↔ commandId ∈ s.processedCommandFingerprints := by
  simp only [stateOk, Bool.and_eq_true, decide_eq_true_eq, and_assoc] at hok
  obtain ⟨-, -, -, -, -, -, -, -, -, -, -, -, -, -, -, hsize, -, hall⟩ := hok
  have hsubset : s.processedCommands.toList ⊆ s.processedCommandFingerprints.keys := by
    intro x hx
    exact Std.ExtTreeMap.mem_keys.mpr (List.all_eq_true.mp hall x hx)
  have hnodup : s.processedCommands.toList.Nodup := by
    simpa [List.Nodup] using s.processedCommands.distinct_toList
  have hperm : s.processedCommands.toList.Perm s.processedCommandFingerprints.keys := by
    refine (List.subperm_of_subset hnodup hsubset).perm_of_length_le ?_
    rw [Std.ExtTreeMap.length_keys, Std.ExtTreeSet.length_toList, hsize]
  rw [← Std.ExtTreeSet.mem_toList, hperm.mem_iff, Std.ExtTreeMap.mem_keys]

section Accept

variable {hash : Hasher} {s s' : RuntimeWorkflowState} {command : RuntimeWorkflowCommand}

theorem Accepts.sizes (h : Accepts hash s command s') (hok : stateOk s = true) :
    s'.processedCommands.size = s.processedCommands.size + 1 ∧
      s'.processedCommandFingerprints.size = s.processedCommandFingerprints.size + 1 ∧
      s'.processedIdempotencyKeys.size = s.processedIdempotencyKeys.size + 1 := by
  obtain ⟨hid, hkey⟩ := replay_eq_none.mp h.fresh
  have hfingerprint : command.commandId ∉ s.processedCommandFingerprints :=
    fun hmem => hid ((commands_iff_of_stateOk hok _).mpr hmem)
  obtain ⟨-, -, facts, target, eventId, now, -, rfl⟩ := h
  exact ⟨(Std.ExtTreeSet.size_insert ..).trans (if_neg hid),
    (Std.ExtTreeMap.size_insert ..).trans (if_neg hfingerprint),
    (Std.ExtTreeMap.size_insert ..).trans (if_neg hkey)⟩

theorem Accepts.identity (h : Accepts hash s command s') :
    s'.schemaVersion = s.schemaVersion ∧ s'.tenantId = s.tenantId ∧ s'.taskId = s.taskId ∧
      s'.actionId = s.actionId ∧ s'.ingressDigest = s.ingressDigest ∧
      s'.actionMaterialization = s.actionMaterialization := by
  obtain ⟨-, -, facts, target, eventId, now, -, rfl⟩ := h
  exact ⟨rfl, rfl, rfl, rfl, rfl, rfl⟩

theorem Accepts.executionOk (h : Accepts hash s command s')
    (hold : s.execution.all executionRecordOk = true) :
    s'.execution.all executionRecordOk = true := by
  obtain ⟨-, -, facts, target, eventId, now, hfacts, rfl⟩ := h
  simp only [acceptCommand]
  cases hexecution : facts.execution with
  | none => exact hold
  | some execution => rwa [hexecution] at hfacts

theorem Accepts.commandsOk (h : Accepts hash s command s') (hok : stateOk s = true) :
    s'.processedCommands.toList.all (s'.processedCommandFingerprints.contains ·) = true := by
  obtain ⟨-, -, facts, target, eventId, now, -, rfl⟩ := h
  rw [List.all_eq_true]
  intro commandId hmem
  rw [Std.ExtTreeSet.mem_toList] at hmem
  simp only [acceptCommand, Std.ExtTreeSet.mem_insert] at hmem
  refine Std.ExtTreeMap.mem_insert.mpr (hmem.imp_right ?_)
  exact (commands_iff_of_stateOk hok commandId).mp

theorem Accepts.events_length (h : Accepts hash s command s') :
    s'.events.length = (trimEvents s.events).length + 1 := by
  obtain ⟨-, -, facts, target, eventId, now, -, rfl⟩ := h
  exact List.length_append

theorem Accepts.stateOk (h : Accepts hash s command s') (hok : stateOk s = true) :
    stateOk s' = true := by
  obtain ⟨hcommands, hfingerprints, hkeys⟩ := h.sizes hok
  obtain ⟨-, hroom, hkeysRoom⟩ := checkCurrent_ok h.admitted
  obtain ⟨hversion, htenant, htask, haction, hingress, hmaterialization⟩ := h.identity
  have hcontains := h.commandsOk hok
  simp only [Orchestrator.stateOk, Bool.and_eq_true, decide_eq_true_eq, and_assoc] at hok ⊢
  rw [hversion, htenant, htask, haction, hingress, hmaterialization]
  obtain ⟨h1, h2, h3, h4, h5, h6, h7, h8, h9, h10, h11, hevents, -, -, -, hsize, hexecution, -⟩ :=
    hok
  have hlength : s'.events.length ≤ maxRuntimeEvents := by
    rw [h.events_length]
    unfold trimEvents maxRuntimeEvents at *
    split
    · rw [List.length_tail]
      omega
    · omega
  exact ⟨h1, h2, h3, h4, h5, h6, h7, h8, h9, h10, h11, hlength, by omega, by omega, by omega,
    by omega, h.executionOk hexecution, hcontains⟩

theorem Accepts.terminal (h : Accepts hash s command s') : s'.terminal = isTerminal s'.status := by
  obtain ⟨-, -, facts, target, eventId, now, -, rfl⟩ := h
  rfl

theorem Accepts.cursor (h : Accepts hash s command s')
    (hroom : s.recoveryCursor < maxProcessedCommands) :
    s'.recoveryCursor = s.recoveryCursor + 1 := by
  obtain ⟨-, -, facts, target, eventId, now, -, rfl⟩ := h
  show min (s.recoveryCursor + 1) (2 ^ 64 - 1) = s.recoveryCursor + 1
  unfold maxProcessedCommands at hroom
  omega

theorem Accepts.events_eq (h : Accepts hash s command s') :
    ∃ event, s'.events = trimEvents s.events ++ [event] ∧ event.source = s.status ∧
      event.target = s'.status ∧ event.recoveryCursor = s'.recoveryCursor := by
  obtain ⟨-, -, facts, target, eventId, now, -, rfl⟩ := h
  exact ⟨_, rfl, rfl, rfl, rfl⟩

end Accept

theorem Coherent.room {hash : Hasher} {s s' : RuntimeWorkflowState}
    {command : RuntimeWorkflowCommand} (hs : Coherent s) (h : Accepts hash s command s') :
    s.recoveryCursor < maxProcessedCommands := by
  rw [← hs.commands_size]
  exact (checkCurrent_ok h.admitted).2.1

/-- **Step lemma**: an accepted command keeps the bookkeeping. -/
theorem Coherent.accepts {hash : Hasher} {s s' : RuntimeWorkflowState}
    {command : RuntimeWorkflowCommand} (hs : Coherent s) (h : Accepts hash s command s') :
    Coherent s' := by
  have hcursor := h.cursor (hs.room h)
  obtain ⟨hcommands, hfingerprints, hkeys⟩ := h.sizes hs.wellFormed
  obtain ⟨event, hevents, hsource, htarget, heventCursor⟩ := h.events_eq
  refine ⟨?_, ?_, ?_, ?_, ?_, ?_, h.stateOk hs.wellFormed⟩
  · rw [hcommands, hcursor, hs.commands_size]
  · rw [hfingerprints, hcursor, hs.fingerprints_size]
  · rw [hkeys, hcursor, hs.keys_size]
  · rw [h.events_length, hcursor]
    exact trimEvents_length s.events hs.events_length
  · rw [hevents]
    refine List.isChain_append.mpr ⟨trimEvents_chain hs.events_chain, by simp, ?_⟩
    intro earlier hearlier later hlater
    obtain ⟨hlast, hstatus⟩ := hs.events_last earlier (trimEvents_getLast? hearlier)
    obtain rfl := Option.some.inj hlater
    exact ⟨by rw [heventCursor, hcursor, hlast], hstatus.trans hsource.symm⟩
  · intro last hlast
    rw [hevents, List.getLast?_concat] at hlast
    obtain rfl := Option.some.inj hlast
    exact ⟨heventCursor, htarget⟩

-- Runs

/-- Some request for `s` returned `s'`, whatever the ports and the clock answered. -/
def Returned (hash : Hasher) (s s' : RuntimeWorkflowState) : Prop :=
  ∃ request : RuntimeTransitionRequest, request.current = s ∧
    anyAnswer.Runs (apply hash request).run ⟨⟩ (.ok s') ⟨⟩

theorem Coherent.cursor_ne_zero {hash : Hasher} {s : RuntimeWorkflowState}
    {command : RuntimeWorkflowCommand} (hs : Coherent s)
    (hreplay : replay hash s command ≠ none) : s.recoveryCursor ≠ 0 := by
  intro hzero
  have hcommands : s.processedCommands = ∅ := by
    rw [Std.ExtTreeSet.eq_empty_iff_size_eq_zero, hs.commands_size, hzero]
  have hkeys : s.processedIdempotencyKeys = ∅ := by
    rw [Std.ExtTreeMap.eq_empty_iff_size_eq_zero, hs.keys_size, hzero]
  exact hreplay (replay_eq_none.mpr ⟨by simp [hcommands], by simp [hkeys]⟩)

structure Kept (s : RuntimeWorkflowState) : Prop where
  coherent : Coherent s
  terminal : s.recoveryCursor ≠ 0 → s.terminal = isTerminal s.status

theorem Fresh.kept {s : RuntimeWorkflowState} (hfresh : Fresh s) (hok : stateOk s = true) :
    Kept s where
  coherent := hfresh.coherent hok
  terminal h := absurd hfresh.recoveryCursor h

/-- **Step lemma**: a request returns a kept state, and one that has processed a command. -/
theorem Kept.returned {hash : Hasher} {s s' : RuntimeWorkflowState} (hs : Kept s)
    (h : Returned hash s s') : Kept s' ∧ s'.recoveryCursor ≠ 0 := by
  obtain ⟨request, rfl, hrun⟩ := h
  obtain ⟨hreplay, rfl⟩ | haccepts := answered_of_runs hrun
  · have hknown : replay hash request.current request.command ≠ none := by simp [hreplay]
    exact ⟨hs, hs.coherent.cursor_ne_zero hknown⟩
  · have hcoherent := hs.coherent.accepts haccepts
    refine ⟨⟨hcoherent, fun _ => haccepts.terminal⟩, ?_⟩
    rw [haccepts.cursor (hs.coherent.room haccepts)]
    omega

theorem isTerminal_iff {status : TaskStatus} :
    isTerminal status = true ↔ status = .completed ∨ status = .killed ∨ status = .failed ∨
      status = .rolledBack ∨ status = .denied := by
  cases status <;> simp [isTerminal]

/-- Every state that a run from a fresh state returns, over any commands and any answers, has
coherent bookkeeping, and the engine would take it as the current state of its next request. -/
theorem returned_state_coherent (hash : Hasher) {fresh current s : RuntimeWorkflowState}
    (hfresh : Fresh fresh) (hok : stateOk fresh = true)
    (hrun : ReflTransGen (Returned hash) fresh current) (hreturned : Returned hash current s) :
    (s.processedCommands.size = s.recoveryCursor ∧
      s.processedCommandFingerprints.size = s.recoveryCursor ∧
      s.processedIdempotencyKeys.size = s.recoveryCursor) ∧
    (∀ commandId, commandId ∈ s.processedCommands ↔
      commandId ∈ s.processedCommandFingerprints) ∧
    s.events.length = min s.recoveryCursor 1024 ∧
    s.events.IsChain (fun earlier later =>
      later.recoveryCursor = earlier.recoveryCursor + 1 ∧ earlier.target = later.source) ∧
    (∃ last, s.events.getLast? = some last ∧ last.recoveryCursor = s.recoveryCursor ∧
      last.target = s.status) ∧
    (s.terminal = true ↔ s.status = .completed ∨ s.status = .killed ∨ s.status = .failed ∨
      s.status = .rolledBack ∨ s.status = .denied) ∧
    stateOk s = true := by
  have hcurrent : Kept current :=
    invariant_of_steps (fun _ _ hs hstep => (hs.returned hstep).1) (hfresh.kept hok) hrun
  obtain ⟨⟨hs, hterminal⟩, hcursor⟩ := hcurrent.returned hreturned
  have hnonempty : s.events ≠ [] := by
    intro hempty
    have hlength := hs.events_length
    rw [hempty, List.length_nil] at hlength
    unfold maxRuntimeEvents at hlength
    omega
  refine ⟨⟨hs.commands_size, hs.fingerprints_size, hs.keys_size⟩,
    commands_iff_of_stateOk hs.wellFormed,
    hs.events_length, hs.events_chain, ?_, ?_, hs.wellFormed⟩
  · have hlast := List.getLast?_eq_some_getLast hnonempty
    exact ⟨_, hlast, hs.events_last _ hlast⟩
  · rw [hterminal hcursor, isTerminal_iff]

-- A sample run

def sampleStartDigest : String := "5d546b00bbcb21197c5dfe08df9b4ed8242f048cd5791d9d47b0e55eaed45408"
def sampleFactDigest : String := "ee8250fb76e094b34b471f13a73dbbe51d1ae142e9df59d7c0d31ec20f0a0a8e"

def sampleCreated : RuntimeWorkflowState where
  schemaVersion := runtimeStateSchemaVersion
  tenantId := "tenant-1"
  taskId := "task-1"
  actionId := "action-1"
  status := .created
  recoveryCursor := 0
  terminal := false
  evidenceRefs := ∅
  ingressDigest := sampleFactDigest
  actionMaterialization :=
    { schemaVersion := "agenttrust.action-materialization-ref.v1", tenantId := "tenant-1"
      actionId := "action-1", payloadHash := sampleFactDigest
      store := "ORCHESTRATOR_INGRESS_POSTGRESQL"
      uri := "orchestrator-ingress://tenant-1/action-1" }
  hasSideEffects := true
  execution := none
  processedCommands := ∅
  processedCommandFingerprints := ∅
  processedIdempotencyKeys := ∅
  events := []

def sampleStart : RuntimeWorkflowCommand where
  schemaVersion := runtimeCommandSchemaVersion
  commandId := "command-1"
  requestIdempotencyKey := "key-1"
  tenantId := "tenant-1"
  taskId := "task-1"
  commandType := .start
  expectedStateVersion := 0
  payloadDigest := sampleStartDigest
  requestedBy := "operator"
  requestedAt := 0

def sampleRequest : RuntimeTransitionRequest where
  schemaVersion := transitionRequestSchemaVersion
  current := sampleCreated
  command := sampleStart

def sampleEncode : List (String × String) → List Char
  | [] => []
  | (key, value) :: members =>
    key.toList.flatMap (['.', ·]) ++ ':' :: (value.toList.flatMap (['.', ·]) ++
      ',' :: sampleEncode members)

def sampleHasher : Hasher where
  text value :=
    if value = "\x7b\"command_type\":\"START\"\x7d" then sampleStartDigest
    else if value = "evidence:1\nfact:Approval:" ++ sampleFactDigest ++ "\nfact:CredentialLease:" ++
        sampleFactDigest ++ "\nfact:Evidence:" ++ sampleFactDigest ++ "\nfact:PolicyCheckpoint:" ++
        sampleFactDigest ++ "\n" then
      "8e32a02912ed6625fa77659c9ba4c150323bea8045fec5ffd0af4b3a4f9f4449"
    else value
  object members :=
    if members = canonicalCommand sampleStart then
      "d2153375c848d2442cca862f1b4dd4ebb752177bb7dd4385e18d44710f5857d0"
    else String.ofList (sampleEncode members)

def sampleAgreed : FactPort → FactKind × FactDecision
  | .policyVerify => (.policyCheckpoint, .verified)
  | .approvalVerify => (.approval, .granted)
  | .credentialVerify => (.credentialLease, .active)
  | .credentialRevoke => (.credentialLease, .revoked)
  | .ledgerVerify => (.executionLedger, .verified)
  | .evaluatorVerify => (.evaluator, .pass)
  | .evidenceVerify => (.evidence, .verified)
  | .supervisorContain => (.runtimeSupervisor, .contained)

def sampleFact (port : FactPort) (state : RuntimeWorkflowState)
    (command : RuntimeWorkflowCommand) : AuthoritativeFact where
  schemaVersion := factSchemaVersion
  factKind := (sampleAgreed port).1
  tenantId := state.tenantId
  taskId := state.taskId
  actionId := state.actionId
  commandId := command.commandId
  recoveryCursor := state.recoveryCursor
  payloadDigest := command.payloadDigest
  decision := (sampleAgreed port).2
  immutableDigest := sampleFactDigest
  evidenceRefs := (∅ : BTreeSet String).insert "evidence:1"
  validUntil := 1
  attributes := ∅

def zeroUuid : Uuid where
  digits := List.replicate 32 0
  length_digits := rfl

def sampleOracle : (call : EngineCall) → call.Answer
  | .utcNow => (0 : Int)
  | .newUuid => zeroUuid
  | .port port state command => .ok (sampleFact port state command)

theorem sampleCreated_fresh : Fresh sampleCreated :=
  ⟨rfl, rfl, rfl, rfl, rfl, rfl, rfl⟩

theorem sampleCreated_ok : stateOk sampleCreated = true := by decide

def sampleRetry : Watch := ⟨0, [(.evidenceVerify, "command-1")]⟩

def sampleAccepted (answer : Except RuntimeTransitionError RuntimeWorkflowState × Watch) : Bool :=
  answer.1.isOk && answer.2.asked.count (.evidenceVerify, "command-1") == 2

theorem sampleOracle_accepted :
    sampleAccepted (watch.eval sampleOracle (apply sampleHasher sampleRequest).run sampleRetry) =
      true := by
  decide

theorem runs_sample {α : Type} (oracle : (call : EngineCall) → call.Answer)
    (hclock : oracle .utcNow = (0 : Int)) (p : Program EngineCall EngineCall.Answer α) {w : Watch}
    (hw : w.now ≤ 0) : watch.Runs p w (watch.eval oracle p w).1 (watch.eval oracle p w).2 := by
  refine Monitor.runs_eval oracle (I := fun w : Watch => w.now ≤ 0) ?_ p hw
  intro w call hw
  cases call with
  | utcNow =>
    show w.now ≤ oracle .utcNow ∧ oracle .utcNow ≤ (0 : Int)
    rw [hclock]
    exact ⟨hw, Int.le_refl 0⟩
  | newUuid => exact ⟨trivial, hw⟩
  | port port s c => exact ⟨trivial, hw⟩

theorem sampleRequest_returned :
    ∃ s w, watch.Runs (apply sampleHasher sampleRequest).run sampleRetry (.ok s) w ∧
      w.asked.count (.evidenceVerify, "command-1") = 2 := by
  have hrun := runs_sample sampleOracle rfl (apply sampleHasher sampleRequest).run
    (w := sampleRetry) (Int.le_refl 0)
  have haccepted := sampleOracle_accepted
  generalize watch.eval sampleOracle (apply sampleHasher sampleRequest).run sampleRetry = answer
    at hrun haccepted
  obtain ⟨r, w⟩ := answer
  cases r with
  | error e => cases haccepted
  | ok s =>
    exact ⟨s, w, hrun, by simpa [sampleAccepted, Except.isOk, Except.toBool] using haccepted⟩

theorem returned_state_coherent_sampleStart :
    ∃ s, Returned sampleHasher sampleCreated s ∧
      s.processedCommands.size = s.recoveryCursor ∧
      s.events.length = min s.recoveryCursor 1024 ∧ stateOk s = true := by
  obtain ⟨s, w, hrun, -⟩ := sampleRequest_returned
  have hs : Returned sampleHasher sampleCreated s := ⟨sampleRequest, rfl, hrun.forget⟩
  obtain ⟨⟨hsize, -⟩, -, hlength, -, -, -, hok⟩ := returned_state_coherent sampleHasher
    sampleCreated_fresh sampleCreated_ok ReflTransGen.refl hs
  exact ⟨s, hs, hsize, hlength, hok⟩

end AgentSphere.Orchestrator
