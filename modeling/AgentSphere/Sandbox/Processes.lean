import AgentSphere.Lib.Machine
import AgentSphere.Sandbox.Basic

/-!
# Control of processes

`LocalProcessSandbox` signals the process groups of its executions, looks at them and collects them.
A process is given by the time at which it exits and the status it exits with. Waiting for a process
that has exited reaps it: until then its identifier is valid, and a signal reaches its group.
-/

namespace AgentSphere.Sandbox

open Concurrency

inductive SandboxState where
  | created
  | preparing
  | ready
  | running
  | pauseRequested
  | paused
  | resumeRequested
  | cancelRequested
  | cancelling
  | killRequested
  | killed
  | succeeded
  | failed
  | timedOut
  | collecting
  | destroying
  | destroyed
  | orphaned
  | manualRecoveryRequired
  deriving DecidableEq, Repr

inductive Signal where
  | sigstop
  | sigcont
  | sigterm
  | sigkill
  deriving DecidableEq, Repr

inductive ExitStatus where
  | exited (code : Int)
  | signaled (signal : Nat)
  deriving DecidableEq, Repr

namespace ExitStatus

def Success (status : ExitStatus) : Prop := status = .exited 0

instance (status : ExitStatus) : Decidable status.Success :=
  inferInstanceAs (Decidable (status = .exited 0))

def code : ExitStatus → Option Int
  | .exited code => some code
  | .signaled _ => none

/-- The state that `inspect` records for an exit. -/
def state (status : ExitStatus) : SandboxState :=
  if status.Success then .succeeded else .failed

end ExitStatus

structure Child where
  pid : Nat
  exitsAt : DateTime
  status : ExitStatus
  received : List Signal
  reaped : Bool
  deriving DecidableEq

namespace Child

def id (child : Child) : Option Nat :=
  if child.reaped then none else some child.pid

/-- `try_wait` finds that the process has exited. -/
def HasExited (child : Child) (now : DateTime) : Prop :=
  child.reaped = true ∨ child.exitsAt ≤ now

instance (child : Child) (now : DateTime) : Decidable (child.HasExited now) :=
  inferInstanceAs (Decidable (_ ∨ _))

def tryWait (child : Child) (now : DateTime) : Option ExitStatus × Child :=
  if child.HasExited now then (some child.status, { child with reaped := true }) else (none, child)

/-- `killpg`, with an identifier that is valid. -/
def killpg (child : Child) (signal : Signal) : Child :=
  { child with received := child.received ++ [signal] }

end Child

structure RunningEntry where
  child : Child
  handle : ExecutionHandle
  state : SandboxState
  timeoutMs : Nat
  credentialRefs : List String
  deriving DecidableEq

structure LocalProcessSandbox where
  /-- Whether there is a `CredentialLifecyclePort`. -/
  credentialLifecycle : Bool
  running : BTreeMap String RunningEntry
  deriving DecidableEq

structure ExecutionSnapshot where
  handle : ExecutionHandle
  state : SandboxState
  processId : Option Nat
  heartbeatAt : DateTime
  deriving DecidableEq, Repr

structure ControlReceipt where
  handle : ExecutionHandle
  requested : SandboxState
  appliedAt : DateTime
  processGroup : Option Nat
  deriving DecidableEq, Repr

inductive ControlOperation where
  | inspect
  | pause
  | resume
  | cancel
  | kill
  deriving DecidableEq, Repr

/-- A call on the sandbox, with what `revoke_all` answers should it be asked. -/
structure ControlCall where
  now : DateTime
  operation : ControlOperation
  handle : ExecutionHandle
  revokeAll : Except SandboxError Unit
  deriving DecidableEq

inductive ControlAnswer where
  | snapshot (snapshot : ExecutionSnapshot)
  | receipt (receipt : ControlReceipt)
  deriving DecidableEq, Repr

namespace LocalProcessSandbox

def put (sandbox : LocalProcessSandbox) (sandboxId : String) (entry : RunningEntry) :
    LocalProcessSandbox :=
  { sandbox with running := sandbox.running.insert sandboxId entry }

def revokeCredentials (sandbox : LocalProcessSandbox) (credentialRefs : List String)
    (revokeAll : Except SandboxError Unit) : Except SandboxError Unit :=
  if credentialRefs = [] then .ok ()
  else if sandbox.credentialLifecycle = false then .error .credentialInjectionFailed
  else revokeAll

def inspect (sandbox : LocalProcessSandbox) (call : ControlCall) :
    Except SandboxError ExecutionSnapshot × LocalProcessSandbox :=
  match sandbox.running[call.handle.sandboxId]? with
  | none => (.error .orphaned, sandbox)
  | some entry =>
    let (exit, child) := entry.child.tryWait call.now
    let entry := { entry with child, state := (exit.map (·.state)).getD entry.state }
    (.ok ⟨entry.handle, entry.state, child.id, call.now⟩, sandbox.put call.handle.sandboxId entry)

def signalEntry (sandbox : LocalProcessSandbox) (call : ControlCall) (signal : Signal)
    (state : SandboxState) : Except SandboxError ControlReceipt × LocalProcessSandbox :=
  match sandbox.running[call.handle.sandboxId]? with
  | none => (.error .orphaned, sandbox)
  | some entry =>
    match entry.child.id with
    | none => (.error .killFailed, sandbox)
    | some pid =>
      (.ok ⟨call.handle, state, call.now, some pid⟩,
        sandbox.put call.handle.sandboxId { entry with child := entry.child.killpg signal, state })

/-- What `pause`, `cancel` and `kill` do: the credentials are revoked before the signal is sent. -/
def revokeAndSignal (sandbox : LocalProcessSandbox) (call : ControlCall) (signal : Signal)
    (state : SandboxState) : Except SandboxError ControlReceipt × LocalProcessSandbox :=
  match sandbox.running[call.handle.sandboxId]? with
  | none => (.error .orphaned, sandbox)
  | some entry =>
    match sandbox.revokeCredentials entry.credentialRefs call.revokeAll with
    | .error error => (.error error, sandbox)
    | .ok () => sandbox.signalEntry call signal state

def pause (sandbox : LocalProcessSandbox) (call : ControlCall) :
    Except SandboxError ControlReceipt × LocalProcessSandbox :=
  sandbox.revokeAndSignal call .sigstop .paused

def resume (sandbox : LocalProcessSandbox) (call : ControlCall) :
    Except SandboxError ControlReceipt × LocalProcessSandbox :=
  sandbox.signalEntry call .sigcont .running

def cancel (sandbox : LocalProcessSandbox) (call : ControlCall) :
    Except SandboxError ControlReceipt × LocalProcessSandbox :=
  sandbox.revokeAndSignal call .sigterm .cancelling

def kill (sandbox : LocalProcessSandbox) (call : ControlCall) :
    Except SandboxError ControlReceipt × LocalProcessSandbox :=
  sandbox.revokeAndSignal call .sigkill .killed

end LocalProcessSandbox

def serveControl (sandbox : LocalProcessSandbox) (call : ControlCall) :
    Except SandboxError ControlAnswer × LocalProcessSandbox :=
  match call.operation with
  | .inspect => (sandbox.inspect call).map (·.map .snapshot) fun next => next
  | .pause => (sandbox.pause call).map (·.map .receipt) fun next => next
  | .resume => (sandbox.resume call).map (·.map .receipt) fun next => next
  | .cancel => (sandbox.cancel call).map (·.map .receipt) fun next => next
  | .kill => (sandbox.kill call).map (·.map .receipt) fun next => next

/-- A call of `collect`, with what the rest of the system answers. -/
structure CollectCall where
  now : DateTime
  handle : ExecutionHandle
  /-- Whether the output of the process could be read. -/
  outputs : Bool
  revokeAll : Except SandboxError Unit
  removed : Bool

structure ExecutionResult where
  executionId : ExecutionId
  status : SandboxState
  exitCode : Option Int
  credentialRefsUsed : List String
  deriving DecidableEq, Repr

/-- The process exits while `collect` waits for it. -/
def RunningEntry.ExitsInTime (entry : RunningEntry) (now : DateTime) : Prop :=
  entry.child.HasExited (now + entry.timeoutMs * 1000000)

instance (entry : RunningEntry) (now : DateTime) : Decidable (entry.ExitsInTime now) :=
  inferInstanceAs (Decidable (Child.HasExited _ _))

def RunningEntry.outcome (entry : RunningEntry) (now : DateTime) : SandboxState × Option Int :=
  if entry.ExitsInTime now then
    (if entry.child.status.Success then .succeeded
      else if entry.state = .killed then .killed else .failed, entry.child.status.code)
  else (.timedOut, none)

def collect (sandbox : LocalProcessSandbox) (call : CollectCall) :
    Except SandboxError ExecutionResult × LocalProcessSandbox :=
  match sandbox.running[call.handle.sandboxId]? with
  | none => (.error .orphaned, sandbox)
  | some entry =>
    let (status, exitCode) := entry.outcome call.now
    let result := do
      require call.outputs .collectFailed
      sandbox.revokeCredentials entry.credentialRefs call.revokeAll
      require call.removed .cleanupIncomplete
      return { executionId := call.handle.executionId, status, exitCode,
               credentialRefsUsed := entry.credentialRefs }
    (result, { sandbox with running := sandbox.running.erase call.handle.sandboxId })

/-- The status that `collect` reports, if it reports one. -/
def reported (sandbox : LocalProcessSandbox) (call : CollectCall) : Option SandboxState :=
  (collect sandbox call).1.toOption.map (·.status)

abbrev ControlEvent := Served LocalProcessSandbox ControlCall (Except SandboxError ControlAnswer)

def ControlEvent.Kills (event : ControlEvent) (sandboxId : String) : Prop :=
  event.call.operation = .kill ∧ event.call.handle.sandboxId = sandboxId ∧
    ∃ answer, event.answer = .ok answer

def withoutInspections (calls : List ControlCall) : List ControlCall :=
  calls.filter fun call => ¬call.operation = .inspect

structure Settled (sandbox : LocalProcessSandbox) (calls : List ControlCall) : Prop where
  /-- A killed execution is not recorded as running, paused or being cancelled. -/
  final : ∀ early late, calls = early ++ late → ∀ sandboxId,
    (∃ event ∈ Machine.trace serveControl sandbox early, ControlEvent.Kills event sandboxId) →
      ∀ entry ∈ (Machine.after serveControl sandbox early).running[sandboxId]?,
        entry.state ≠ .running ∧ entry.state ≠ .paused ∧ entry.state ≠ .cancelling
  unobserved : ∀ early late, calls = early ++ late → ∀ call : CollectCall,
    (∀ earlier ∈ early, earlier.now ≤ call.now) →
      reported (Machine.after serveControl sandbox early) call =
        reported (Machine.after serveControl sandbox (withoutInspections early)) call
  /-- A killed process that fails is reported as killed. -/
  killed : ∀ early late, calls = early ++ late → ∀ call : CollectCall,
    (∀ earlier ∈ early, earlier.now ≤ call.now) →
      (∃ event ∈ Machine.trace serveControl sandbox early,
        ControlEvent.Kills event call.handle.sandboxId) →
      ∀ entry ∈ (Machine.after serveControl sandbox early).running[call.handle.sandboxId]?,
        entry.ExitsInTime call.now → ¬entry.child.status.Success →
          ∀ status ∈ reported (Machine.after serveControl sandbox early) call, status = .killed

def Started (sandbox : LocalProcessSandbox) : Prop :=
  ∀ sandboxId : String, ∀ entry ∈ sandbox.running[sandboxId]?,
    entry.state = .running ∧ entry.child.reaped = false

def Permitted (sandbox : LocalProcessSandbox) (entry : RunningEntry) (call : ControlCall) : Prop :=
  call.operation = .resume ∨
    sandbox.revokeCredentials entry.credentialRefs call.revokeAll = .ok ()

instance (sandbox : LocalProcessSandbox) (entry : RunningEntry) (call : ControlCall) :
    Decidable (Permitted sandbox entry call) :=
  inferInstanceAs (Decidable (_ ∨ _))

/-- No signal overwrites a kill, nor does the failure that an inspection finds, and no kill comes
after such an inspection. -/
structure Undisturbed (sandbox : LocalProcessSandbox) (call : ControlCall) : Prop where
  signal : ∀ entry ∈ sandbox.running[call.handle.sandboxId]?, entry.state = .killed →
    entry.child.reaped = false →
      call.operation = .pause ∨ call.operation = .resume ∨ call.operation = .cancel →
        ¬Permitted sandbox entry call
  inspect : ∀ entry ∈ sandbox.running[call.handle.sandboxId]?, entry.state = .killed →
    call.operation = .inspect → entry.child.HasExited call.now → entry.child.status.Success
  kill : ∀ entry ∈ sandbox.running[call.handle.sandboxId]?, entry.child.reaped = true →
    call.operation = .kill → Permitted sandbox entry call → entry.child.status.Success

variable {sandbox sandbox' : LocalProcessSandbox} {call : ControlCall} {calls : List ControlCall}
  {trace : List ControlEvent} {entry entry' : RunningEntry} {sandboxId : String} {signal : Signal}
  {state : SandboxState}

def ControlOperation.request : ControlOperation → Option (Signal × SandboxState)
  | .inspect => none
  | .pause => some (.sigstop, .paused)
  | .resume => some (.sigcont, .running)
  | .cancel => some (.sigterm, .cancelling)
  | .kill => some (.sigkill, .killed)

def Reaches (sandbox : LocalProcessSandbox) (entry : RunningEntry) (call : ControlCall) : Prop :=
  entry.child.reaped = false ∧ Permitted sandbox entry call

instance (sandbox : LocalProcessSandbox) (entry : RunningEntry) (call : ControlCall) :
    Decidable (Reaches sandbox entry call) :=
  inferInstanceAs (Decidable (_ ∧ _))

def RunningEntry.next (entry : RunningEntry) (sandbox : LocalProcessSandbox)
    (call : ControlCall) : RunningEntry :=
  match call.operation.request with
  | none =>
    if entry.child.HasExited call.now then
      { entry with child := { entry.child with reaped := true }, state := entry.child.status.state }
    else entry
  | some (signal, state) =>
    if Reaches sandbox entry call then { entry with child := entry.child.killpg signal, state }
    else entry

namespace LocalProcessSandbox

@[simp] theorem credentialLifecycle_put :
    (sandbox.put sandboxId entry).credentialLifecycle = sandbox.credentialLifecycle := rfl

theorem running_put (sandboxId' : String) : (sandbox.put sandboxId entry).running[sandboxId']? =
    if sandboxId = sandboxId' then some entry else sandbox.running[sandboxId']? :=
  BTreeMap.getElem?_insert_ite ..

end LocalProcessSandbox

def Signals (sandbox : LocalProcessSandbox) (entry : RunningEntry) (call : ControlCall)
    (signal : Signal) (state : SandboxState)
    (result : Except SandboxError ControlReceipt × LocalProcessSandbox) : Prop :=
  (Reaches sandbox entry call ∧ (∃ receipt, result.1 = .ok receipt) ∧
      result.2 = sandbox.put call.handle.sandboxId
        { entry with child := entry.child.killpg signal, state }) ∨
    (¬Reaches sandbox entry call ∧ (∃ error, result.1 = .error error) ∧ result.2 = sandbox)

theorem signals_signalEntry (hpermitted : Permitted sandbox entry call)
    (hentry : sandbox.running[call.handle.sandboxId]? = some entry) (signal : Signal)
    (state : SandboxState) :
    Signals sandbox entry call signal state (sandbox.signalEntry call signal state) := by
  cases hreaped : entry.child.reaped with
  | true =>
    have hid : entry.child.id = none := by simp [Child.id, hreaped]
    have hout : ¬Reaches sandbox entry call := fun hreaches =>
      absurd (hreaches.1.symm.trans hreaped) (by decide)
    simp only [LocalProcessSandbox.signalEntry, hentry, hid]
    exact .inr ⟨hout, ⟨_, rfl⟩, rfl⟩
  | false =>
    have hid : entry.child.id = some entry.child.pid := by simp [Child.id, hreaped]
    simp only [LocalProcessSandbox.signalEntry, hentry, hid]
    exact .inl ⟨⟨hreaped, hpermitted⟩, ⟨_, rfl⟩, rfl⟩

theorem signals_revokeAndSignal (hresume : call.operation ≠ .resume)
    (hentry : sandbox.running[call.handle.sandboxId]? = some entry) (signal : Signal)
    (state : SandboxState) :
    Signals sandbox entry call signal state (sandbox.revokeAndSignal call signal state) := by
  cases hrevoke : sandbox.revokeCredentials entry.credentialRefs call.revokeAll with
  | error error =>
    have hout : ¬Reaches sandbox entry call := by
      rintro ⟨-, hpermitted | hpermitted⟩
      · exact hresume hpermitted
      · exact nomatch hrevoke.symm.trans hpermitted
    simp only [LocalProcessSandbox.revokeAndSignal, hentry, hrevoke]
    exact .inr ⟨hout, ⟨error, rfl⟩, rfl⟩
  | ok u =>
    simp only [LocalProcessSandbox.revokeAndSignal, hentry, hrevoke]
    exact signals_signalEntry (.inr hrevoke) hentry signal state

structure Serves (sandbox : LocalProcessSandbox) (entry : RunningEntry) (call : ControlCall) :
    Prop where
  answer : call.operation ≠ .inspect →
    ((∃ answer, (serveControl sandbox call).1 = .ok answer) ↔ Reaches sandbox entry call)
  state : (serveControl sandbox call).2 =
      sandbox.put call.handle.sandboxId (entry.next sandbox call) ∨
    (serveControl sandbox call).2 = sandbox ∧ entry.next sandbox call = entry

theorem Signals.serves {result : Except SandboxError ControlReceipt × LocalProcessSandbox}
    (h : Signals sandbox entry call signal state result)
    (hrequest : call.operation.request = some (signal, state))
    (hserve : serveControl sandbox call = (result.1.map .receipt, result.2)) :
    Serves sandbox entry call := by
  have hnext : entry.next sandbox call =
      if Reaches sandbox entry call then
        { entry with child := entry.child.killpg signal, state } else entry := by
    simp only [RunningEntry.next, hrequest]
  rcases h with ⟨hreaches, ⟨receipt, hanswer⟩, hstate⟩ | ⟨hout, ⟨error, hanswer⟩, hstate⟩
  · refine ⟨fun _ => ⟨fun _ => hreaches, fun _ => ⟨.receipt receipt, ?_⟩⟩, .inl ?_⟩
    · rw [hserve, hanswer]
      rfl
    · rw [hserve, hnext, if_pos hreaches]
      exact hstate
  · refine ⟨fun _ => ⟨?_, fun hreaches => absurd hreaches hout⟩, .inr ⟨?_, ?_⟩⟩
    · rintro ⟨answer, hok⟩
      rw [hserve, hanswer] at hok
      exact nomatch hok
    · rw [hserve]
      exact hstate
    · rw [hnext, if_neg hout]

theorem serves_inspect (hoperation : call.operation = .inspect)
    (hentry : sandbox.running[call.handle.sandboxId]? = some entry) :
    Serves sandbox entry call := by
  refine ⟨fun hother => absurd hoperation hother, .inl ?_⟩
  simp only [serveControl, hoperation, LocalProcessSandbox.inspect, hentry, RunningEntry.next,
    ControlOperation.request, Child.tryWait]
  by_cases hexited : entry.child.HasExited call.now
  · simp [hexited]
  · simp [hexited]

theorem serveControl_of_some (hentry : sandbox.running[call.handle.sandboxId]? = some entry) :
    Serves sandbox entry call := by
  cases hoperation : call.operation with
  | inspect => exact serves_inspect hoperation hentry
  | pause =>
    refine (signals_revokeAndSignal (by simp [hoperation]) hentry .sigstop .paused).serves
      (by rw [hoperation]; rfl) ?_
    simp only [serveControl, hoperation]
    rfl
  | resume =>
    refine (signals_signalEntry (.inl hoperation) hentry .sigcont .running).serves
      (by rw [hoperation]; rfl) ?_
    simp only [serveControl, hoperation]
    rfl
  | cancel =>
    refine (signals_revokeAndSignal (by simp [hoperation]) hentry .sigterm .cancelling).serves
      (by rw [hoperation]; rfl) ?_
    simp only [serveControl, hoperation]
    rfl
  | kill =>
    refine (signals_revokeAndSignal (by simp [hoperation]) hentry .sigkill .killed).serves
      (by rw [hoperation]; rfl) ?_
    simp only [serveControl, hoperation]
    rfl

theorem serveControl_of_none (hentry : sandbox.running[call.handle.sandboxId]? = none) :
    serveControl sandbox call = (.error .orphaned, sandbox) := by
  obtain ⟨now, operation, handle, revokeAll⟩ := call
  cases operation with
  | inspect | pause | resume | cancel | kill =>
    simp [serveControl, LocalProcessSandbox.inspect, LocalProcessSandbox.pause,
      LocalProcessSandbox.resume, LocalProcessSandbox.cancel, LocalProcessSandbox.kill,
      LocalProcessSandbox.revokeAndSignal, LocalProcessSandbox.signalEntry, hentry, Except.map]

@[simp] theorem credentialLifecycle_serveControl :
    (serveControl sandbox call).2.credentialLifecycle = sandbox.credentialLifecycle := by
  cases hentry : sandbox.running[call.handle.sandboxId]? with
  | none => rw [serveControl_of_none hentry]
  | some entry =>
    rcases (serveControl_of_some hentry).state with hstate | ⟨hstate, -⟩
    · rw [hstate]
      rfl
    · rw [hstate]

theorem running_serveControl (sandbox : LocalProcessSandbox) (call : ControlCall)
    (sandboxId : String) : (serveControl sandbox call).2.running[sandboxId]? =
      sandbox.running[sandboxId]?.map fun entry =>
        if call.handle.sandboxId = sandboxId then entry.next sandbox call else entry := by
  cases hentry : sandbox.running[call.handle.sandboxId]? with
  | none =>
    rw [serveControl_of_none hentry]
    by_cases heq : call.handle.sandboxId = sandboxId
    · subst heq
      simp [hentry]
    · simp [heq]
  | some entry =>
    by_cases heq : call.handle.sandboxId = sandboxId
    · subst heq
      rcases (serveControl_of_some hentry).state with hstate | ⟨hstate, hsame⟩
      · simp [hstate, LocalProcessSandbox.running_put, hentry]
      · simp [hstate, hsame, hentry]
    · rcases (serveControl_of_some hentry).state with hstate | ⟨hstate, -⟩
      · simp [hstate, LocalProcessSandbox.running_put, heq]
      · simp [hstate, heq]

theorem kills_serve : ControlEvent.Kills (Machine.serve serveControl sandbox call) sandboxId ↔
    call.operation = .kill ∧ call.handle.sandboxId = sandboxId ∧
      ∃ entry ∈ sandbox.running[call.handle.sandboxId]?, Reaches sandbox entry call := by
  refine and_congr_right fun hkill => and_congr_right fun _ => ?_
  have hother : call.operation ≠ .inspect := fun hinspect => nomatch hinspect.symm.trans hkill
  cases hentry : sandbox.running[call.handle.sandboxId]? with
  | none => simp [serveControl_of_none hentry]
  | some entry => simpa using (serveControl_of_some hentry).answer hother

namespace RunningEntry

theorem next_of_not_reaches (hother : call.operation ≠ .inspect)
    (h : ¬Reaches sandbox entry call) : entry.next sandbox call = entry := by
  unfold next
  cases hoperation : call.operation with
  | inspect => exact absurd hoperation hother
  | pause | resume | cancel | kill => exact if_neg h

theorem next_of_reaches (hrequest : call.operation.request = some (signal, state))
    (h : Reaches sandbox entry call) : entry.next sandbox call =
      { entry with child := entry.child.killpg signal, state } := by
  simp only [next, hrequest, if_pos h]

theorem next_inspect (hoperation : call.operation = .inspect) : entry.next sandbox call =
    if entry.child.HasExited call.now then
      { entry with child := { entry.child with reaped := true }, state := entry.child.status.state }
    else entry := by
  simp only [next, hoperation, ControlOperation.request]

theorem next_cases (sandbox : LocalProcessSandbox) (call : ControlCall) (entry : RunningEntry) :
    entry.next sandbox call = entry ∨
      (call.operation = .inspect ∧ entry.child.HasExited call.now ∧
        entry.next sandbox call = { entry with
          child := { entry.child with reaped := true }, state := entry.child.status.state }) ∨
      ∃ signal state, call.operation.request = some (signal, state) ∧
        Reaches sandbox entry call ∧ entry.next sandbox call =
          { entry with child := entry.child.killpg signal, state } := by
  cases hrequest : call.operation.request with
  | none =>
    have hoperation : call.operation = .inspect := by
      cases hoperation : call.operation with
      | inspect => rfl
      | pause | resume | cancel | kill => exact nomatch hoperation ▸ hrequest
    rw [next_inspect hoperation]
    by_cases hexited : entry.child.HasExited call.now
    · exact .inr (.inl ⟨hoperation, hexited, if_pos hexited⟩)
    · exact .inl (if_neg hexited)
  | some request =>
    by_cases hreaches : Reaches sandbox entry call
    · exact .inr (.inr ⟨request.1, request.2, rfl, hreaches, next_of_reaches hrequest hreaches⟩)
    · refine .inl (next_of_not_reaches (fun hoperation => ?_) hreaches)
      exact nomatch hoperation ▸ hrequest

theorem next_congr (h : Reaches sandbox' entry call ↔ Reaches sandbox entry call) :
    entry.next sandbox' call = entry.next sandbox call := by
  unfold next
  cases call.operation.request with
  | none => rfl
  | some request => simp only [h]

theorem reaped_next (sandbox : LocalProcessSandbox) (entry : RunningEntry)
    (hother : call.operation ≠ .inspect) :
    (entry.next sandbox call).child.reaped = entry.child.reaped := by
  rcases entry.next_cases sandbox call with hsame | ⟨hinspect, -, -⟩ |
    ⟨signal, state, -, -, hsignalled⟩
  · rw [hsame]
  · exact absurd hinspect hother
  · rw [hsignalled]
    rfl

end RunningEntry

def HasKilled (trace : List ControlEvent) (sandboxId : String) : Prop :=
  ∃ event ∈ trace, ControlEvent.Kills event sandboxId

structure Tracked (trace : List ControlEvent) (sandbox : LocalProcessSandbox) : Prop where
  reaped : ∀ sandboxId : String, ∀ entry ∈ sandbox.running[sandboxId]?,
    entry.child.reaped = true → entry.state = entry.child.status.state ∧
      ∃ event ∈ trace, entry.child.exitsAt ≤ event.call.now
  killed : ∀ sandboxId : String, ∀ entry ∈ sandbox.running[sandboxId]?, entry.state = .killed →
    HasKilled trace sandboxId ∧
      (entry.credentialRefs = [] ∨ sandbox.credentialLifecycle = true)

theorem HasKilled.left {later : List ControlEvent} (h : HasKilled trace sandboxId) :
    HasKilled (trace ++ later) sandboxId := by
  obtain ⟨event, hmem, hkills⟩ := h
  exact ⟨event, List.mem_append_left _ hmem, hkills⟩

theorem ControlOperation.eq_kill {operation : ControlOperation}
    (h : operation.request = some (signal, .killed)) : operation = .kill := by
  cases operation with
  | inspect | pause | resume | cancel => simp [request] at h
  | kill => rfl

theorem Permitted.revocable (h : Permitted sandbox entry call) (hkill : call.operation = .kill) :
    entry.credentialRefs = [] ∨ sandbox.credentialLifecycle = true := by
  rcases h with hresume | hrevoke
  · exact nomatch hkill.symm.trans hresume
  · unfold LocalProcessSandbox.revokeCredentials at hrevoke
    split at hrevoke
    · next hempty => exact .inl hempty
    · split at hrevoke
      · exact nomatch hrevoke
      · next hlifecycle => exact .inr (by simpa using hlifecycle)

theorem ExitStatus.state_ne_killed (status : ExitStatus) : status.state ≠ .killed := by
  unfold ExitStatus.state
  split
  · decide
  · decide

theorem entry_of_serveControl
    (h : (serveControl sandbox call).2.running[sandboxId]? = some entry') :
    ∃ entry, sandbox.running[sandboxId]? = some entry ∧
      (call.handle.sandboxId = sandboxId ∧ entry' = entry.next sandbox call ∨
        call.handle.sandboxId ≠ sandboxId ∧ entry' = entry) := by
  rw [running_serveControl] at h
  obtain ⟨entry, hentry, hnext⟩ := Option.map_eq_some_iff.mp h
  refine ⟨entry, hentry, ?_⟩
  by_cases heq : call.handle.sandboxId = sandboxId
  · exact .inl ⟨heq, hnext.symm.trans (if_pos heq)⟩
  · exact .inr ⟨heq, hnext.symm.trans (if_neg heq)⟩

namespace Tracked

theorem start (h : Started sandbox) : Tracked [] sandbox where
  reaped sandboxId entry hentry hreaped :=
    absurd ((h sandboxId entry hentry).2.symm.trans hreaped) (by decide)
  killed sandboxId entry hentry hkilled :=
    absurd ((h sandboxId entry hentry).1.symm.trans hkilled) (by decide)

theorem serve (h : Tracked trace sandbox) (call : ControlCall) :
    Tracked (trace ++ [Machine.serve serveControl sandbox call]) (serveControl sandbox call).2 := by
  constructor
  · intro sandboxId entry' hentry' hreaped
    obtain ⟨entry, hentry, hnext⟩ := entry_of_serveControl hentry'
    have hold : entry.child.reaped = true → entry.state = entry.child.status.state ∧
        ∃ event ∈ trace ++ [Machine.serve serveControl sandbox call],
          entry.child.exitsAt ≤ event.call.now := fun hreaped => by
      obtain ⟨hstate, event, hmem, hexit⟩ := h.reaped sandboxId entry hentry hreaped
      exact ⟨hstate, event, List.mem_append_left _ hmem, hexit⟩
    rcases hnext with ⟨rfl, rfl⟩ | ⟨-, rfl⟩
    · rcases entry.next_cases sandbox call with hsame | ⟨-, hexited, hfound⟩ |
        ⟨signal, state, -, hreaches, hsignalled⟩
      · rw [hsame] at hreaped ⊢
        exact hold hreaped
      · rw [hfound]
        refine ⟨rfl, ?_⟩
        rcases hexited with hreaped | hexited
        · exact (hold hreaped).2
        · exact ⟨_, List.mem_append_right _ (List.mem_singleton_self _), hexited⟩
      · rw [hsignalled] at hreaped
        exact absurd (hreaches.1.symm.trans hreaped) (by decide)
    · exact hold hreaped
  · intro sandboxId entry' hentry' hkilled
    rw [credentialLifecycle_serveControl]
    obtain ⟨entry, hentry, hnext⟩ := entry_of_serveControl hentry'
    have hold : entry.state = .killed →
        HasKilled (trace ++ [Machine.serve serveControl sandbox call]) sandboxId ∧
          (entry.credentialRefs = [] ∨ sandbox.credentialLifecycle = true) := fun hkilled =>
      (h.killed sandboxId entry hentry hkilled).imp_left .left
    rcases hnext with ⟨rfl, rfl⟩ | ⟨-, rfl⟩
    · rcases entry.next_cases sandbox call with hsame | ⟨-, hexited, hfound⟩ |
        ⟨signal, state, hrequest, hreaches, hsignalled⟩
      · rw [hsame] at hkilled ⊢
        exact hold hkilled
      · rw [hfound] at hkilled
        exact absurd hkilled (ExitStatus.state_ne_killed _)
      · rw [hsignalled] at hkilled ⊢
        obtain rfl : state = .killed := hkilled
        have hkill := ControlOperation.eq_kill hrequest
        refine ⟨⟨_, List.mem_append_right _ (List.mem_singleton_self _), ?_⟩,
          hreaches.2.revocable hkill⟩
        exact kills_serve.mpr ⟨hkill, rfl, entry, hentry, hreaches⟩
    · exact hold hkilled

end Tracked

def KillKept (trace : List ControlEvent) (sandbox : LocalProcessSandbox) : Prop :=
  ∀ sandboxId : String, HasKilled trace sandboxId → ∀ entry ∈ sandbox.running[sandboxId]?,
    entry.state = .killed ∨ entry.child.reaped = true ∧ entry.child.status.Success

theorem KillKept.start : KillKept [] sandbox := by
  rintro sandboxId ⟨event, hmem, -⟩
  exact nomatch hmem

theorem Undisturbed.request_eq (h : Undisturbed sandbox call)
    (hentry : sandbox.running[call.handle.sandboxId]? = some entry)
    (hkilled : entry.state = .killed)
    (hreaches : Reaches sandbox entry call)
    (hrequest : call.operation.request = some (signal, state)) : state = .killed := by
  have hsignal := h.signal entry hentry hkilled hreaches.1
  cases hoperation : call.operation with
  | inspect =>
    rw [hoperation] at hrequest
    exact nomatch hrequest
  | pause => exact absurd hreaches.2 (hsignal (.inl hoperation))
  | resume => exact absurd hreaches.2 (hsignal (.inr (.inl hoperation)))
  | cancel => exact absurd hreaches.2 (hsignal (.inr (.inr hoperation)))
  | kill =>
    rw [hoperation] at hrequest
    exact (congrArg Prod.snd (Option.some.inj hrequest)).symm

theorem KillKept.serve (h : KillKept trace sandbox) (hundisturbed : Undisturbed sandbox call) :
    KillKept (trace ++ [Machine.serve serveControl sandbox call])
      (serveControl sandbox call).2 := by
  intro sandboxId hkilled entry' hentry'
  obtain ⟨entry, hentry, hnext⟩ := entry_of_serveControl hentry'
  have hcases : HasKilled trace sandboxId ∨
      ControlEvent.Kills (Machine.serve serveControl sandbox call) sandboxId := by
    obtain ⟨event, hmem, hkills⟩ := hkilled
    rcases List.mem_append.mp hmem with hmem | hlast
    · exact .inl ⟨event, hmem, hkills⟩
    · exact .inr (List.mem_singleton.mp hlast ▸ hkills)
  rcases hcases with hearlier | hkills
  · have hkept := h sandboxId hearlier entry hentry
    rcases hnext with ⟨rfl, rfl⟩ | ⟨-, rfl⟩
    · rcases entry.next_cases sandbox call with hsame | ⟨hinspect, hexited, hfound⟩ |
        ⟨signal, state, hrequest, hreaches, hsignalled⟩
      · rw [hsame]
        exact hkept
      · rw [hfound]
        rcases hkept with hstate | ⟨-, hsuccess⟩
        · exact .inr ⟨rfl, hundisturbed.inspect entry hentry hstate hinspect hexited⟩
        · exact .inr ⟨rfl, hsuccess⟩
      · rw [hsignalled]
        rcases hkept with hstate | ⟨hreaped, -⟩
        · exact .inl (hundisturbed.request_eq hentry hstate hreaches hrequest)
        · exact absurd (hreaches.1.symm.trans hreaped) (by decide)
    · exact hkept
  · obtain ⟨hkill, rfl, _, hmem, hreaches⟩ := kills_serve.mp hkills
    obtain rfl := Option.some.inj (hentry.symm.trans hmem)
    rcases hnext with ⟨-, rfl⟩ | ⟨hother, -⟩
    · have hrequest : call.operation.request = some (.sigkill, .killed) := by
        rw [hkill]
        rfl
      rw [RunningEntry.next_of_reaches hrequest hreaches]
      exact .inl rfl
    · exact absurd rfl hother

/-- An execution in a run in which nobody looks, seen beside the same one in a run with
inspections. -/
structure Shadows (trace : List ControlEvent) (entry shadow : RunningEntry) : Prop where
  exitsAt : shadow.child.exitsAt = entry.child.exitsAt
  status : shadow.child.status = entry.child.status
  timeoutMs : shadow.timeoutMs = entry.timeoutMs
  credentialRefs : shadow.credentialRefs = entry.credentialRefs
  unreaped : shadow.child.reaped = false
  /-- Until an inspection finds the exit there is no difference. -/
  untouched : entry.child.reaped = false → shadow = entry
  /-- After that, a failure is only hidden by a kill that the condition excludes. -/
  disturbed : entry.child.reaped = true → ¬entry.child.status.Success → shadow.state = .killed →
    ∃ event ∈ trace, ¬Undisturbed event.before event.call

theorem permitted_congr {shadow : RunningEntry}
    (hlifecycle : sandbox'.credentialLifecycle = sandbox.credentialLifecycle)
    (hrefs : shadow.credentialRefs = entry.credentialRefs) :
    Permitted sandbox' shadow call ↔ Permitted sandbox entry call := by
  simp only [Permitted, LocalProcessSandbox.revokeCredentials, hlifecycle, hrefs]

namespace Shadows

variable {shadow : RunningEntry}

theorem left {later : List ControlEvent} (h : Shadows trace entry shadow) :
    Shadows (trace ++ later) entry shadow :=
  { h with
    disturbed := fun hreaped hfailed hkilled => by
      obtain ⟨event, hmem, hevent⟩ := h.disturbed hreaped hfailed hkilled
      exact ⟨event, List.mem_append_left _ hmem, hevent⟩ }

theorem hidden (h : Shadows trace entry shadow)
    (hentry : sandbox.running[call.handle.sandboxId]? = some entry)
    (hinspect : call.operation = .inspect) :
    Shadows (trace ++ [Machine.serve serveControl sandbox call]) (entry.next sandbox call)
      shadow := by
  rw [RunningEntry.next_inspect hinspect]
  by_cases hexited : entry.child.HasExited call.now
  · rw [if_pos hexited]
    refine ⟨h.exitsAt, h.status, h.timeoutMs, h.credentialRefs, h.unreaped, nofun, ?_⟩
    intro _ hfailed hkilled
    cases hreaped : entry.child.reaped with
    | true => exact h.left.disturbed hreaped hfailed hkilled
    | false =>
      rw [h.untouched hreaped] at hkilled
      refine ⟨_, List.mem_append_right _ (List.mem_singleton_self _), fun hundisturbed => ?_⟩
      exact hfailed (hundisturbed.inspect entry hentry hkilled hinspect hexited)
  · rw [if_neg hexited]
    exact h.left

theorem visible (h : Shadows trace entry shadow)
    (hlifecycle : sandbox'.credentialLifecycle = sandbox.credentialLifecycle)
    (hentry : sandbox.running[call.handle.sandboxId]? = some entry)
    (hother : call.operation ≠ .inspect) :
    Shadows (trace ++ [Machine.serve serveControl sandbox call]) (entry.next sandbox call)
      (shadow.next sandbox' call) := by
  have hpermitted : Permitted sandbox' shadow call ↔ Permitted sandbox entry call :=
    permitted_congr hlifecycle h.credentialRefs
  cases hreaped : entry.child.reaped with
  | false =>
    obtain rfl := h.untouched hreaped
    have hreaches : Reaches sandbox' shadow call ↔ Reaches sandbox shadow call :=
      and_congr_right fun _ => hpermitted
    have hstill := (RunningEntry.reaped_next sandbox shadow hother).trans hreaped
    rw [RunningEntry.next_congr hreaches]
    exact ⟨rfl, rfl, rfl, rfl, hstill, fun _ => rfl, fun htrue =>
      absurd (hstill.symm.trans htrue) (by decide)⟩
  | true =>
    have hout : ¬Reaches sandbox entry call := fun hreaches =>
      absurd (hreaches.1.symm.trans hreaped) (by decide)
    rw [RunningEntry.next_of_not_reaches hother hout]
    rcases shadow.next_cases sandbox' call with hsame | ⟨hinspect, -, -⟩ |
      ⟨signal, state, hrequest, hreaches, hsignalled⟩
    · rw [hsame]
      exact h.left
    · exact absurd hinspect hother
    · rw [hsignalled]
      refine ⟨h.exitsAt, h.status, h.timeoutMs, h.credentialRefs, h.unreaped,
        fun hfalse => absurd (hfalse.symm.trans hreaped) (by decide), fun _ hfailed hkilled => ?_⟩
      obtain rfl : state = .killed := hkilled
      refine ⟨_, List.mem_append_right _ (List.mem_singleton_self _), fun hundisturbed => ?_⟩
      exact hfailed (hundisturbed.kill entry hentry hreaped (ControlOperation.eq_kill hrequest)
        (hpermitted.mp hreaches.2))

end Shadows

structure Follows (trace : List ControlEvent) (sandbox shadow : LocalProcessSandbox) : Prop where
  credentialLifecycle : shadow.credentialLifecycle = sandbox.credentialLifecycle
  entries : ∀ sandboxId : String,
    Option.Rel (Shadows trace) sandbox.running[sandboxId]? shadow.running[sandboxId]?

namespace Follows

theorem start (h : Started sandbox) : Follows [] sandbox sandbox := by
  refine ⟨rfl, fun sandboxId => ?_⟩
  cases hentry : sandbox.running[sandboxId]? with
  | none => exact .none
  | some entry =>
    have hreaped := (h sandboxId entry hentry).2
    exact .some ⟨rfl, rfl, rfl, rfl, hreaped, fun _ => rfl, fun htrue =>
      absurd (hreaped.symm.trans htrue) (by decide)⟩

theorem running_eq (h : Follows trace sandbox sandbox') (sandboxId : String) :
    (sandbox.running[sandboxId]? = none ∧ sandbox'.running[sandboxId]? = none) ∨
      ∃ entry shadow, sandbox.running[sandboxId]? = some entry ∧
        sandbox'.running[sandboxId]? = some shadow ∧ Shadows trace entry shadow := by
  have hrel := h.entries sandboxId
  cases hentry : sandbox.running[sandboxId]? with
  | none =>
    cases hshadow : sandbox'.running[sandboxId]? with
    | none => exact .inl ⟨rfl, rfl⟩
    | some shadow =>
      rw [hentry, hshadow] at hrel
      exact nomatch hrel
  | some entry =>
    cases hshadow : sandbox'.running[sandboxId]? with
    | none =>
      rw [hentry, hshadow] at hrel
      exact nomatch hrel
    | some shadow =>
      rw [hentry, hshadow] at hrel
      cases hrel with
      | some hshadows => exact .inr ⟨entry, shadow, rfl, rfl, hshadows⟩

theorem hidden (h : Follows trace sandbox sandbox') (hinspect : call.operation = .inspect) :
    Follows (trace ++ [Machine.serve serveControl sandbox call]) (serveControl sandbox call).2
      sandbox' := by
  refine ⟨by rw [credentialLifecycle_serveControl]; exact h.credentialLifecycle,
    fun sandboxId => ?_⟩
  rw [running_serveControl]
  rcases h.running_eq sandboxId with ⟨hentry, hshadow⟩ | ⟨entry, shadow, hentry, hshadow, hshadows⟩
  · rw [hentry, hshadow]
    exact .none
  · rw [hentry, hshadow]
    by_cases heq : call.handle.sandboxId = sandboxId
    · subst heq
      exact .some (by simpa using hshadows.hidden hentry hinspect)
    · exact .some (by simpa [heq] using hshadows.left)

theorem visible (h : Follows trace sandbox sandbox') (hother : call.operation ≠ .inspect) :
    Follows (trace ++ [Machine.serve serveControl sandbox call]) (serveControl sandbox call).2
      (serveControl sandbox' call).2 := by
  refine ⟨by simpa using h.credentialLifecycle, fun sandboxId => ?_⟩
  rw [running_serveControl, running_serveControl]
  rcases h.running_eq sandboxId with ⟨hentry, hshadow⟩ | ⟨entry, shadow, hentry, hshadow, hshadows⟩
  · rw [hentry, hshadow]
    exact .none
  · rw [hentry, hshadow]
    by_cases heq : call.handle.sandboxId = sandboxId
    · subst heq
      exact .some (by simpa using hshadows.visible h.credentialLifecycle hentry hother)
    · exact .some (by simpa [heq] using hshadows.left)

end Follows

section Runs

variable {early late : List ControlCall} {collecting : CollectCall}

abbrev controlTrace (sandbox : LocalProcessSandbox) (calls : List ControlCall) :
    List ControlEvent :=
  Machine.trace serveControl sandbox calls

abbrev afterControl (sandbox : LocalProcessSandbox) (calls : List ControlCall) :
    LocalProcessSandbox :=
  Machine.after serveControl sandbox calls

theorem tracked_of_run (hstarted : Started sandbox) (calls : List ControlCall) :
    Tracked (controlTrace sandbox calls) (afterControl sandbox calls) :=
  Machine.Meets.invariant (.start hstarted) (fun _ _ call htracked _ => htracked.serve call) .true

theorem follows_of_run (hstarted : Started sandbox) (calls : List ControlCall) :
    Follows (controlTrace sandbox calls) (afterControl sandbox calls)
      (afterControl sandbox (withoutInspections calls)) :=
  Machine.Meets.follows (.start hstarted) (fun _ _ _ _ hfollows _ hother => hfollows.visible hother)
    (fun _ _ _ _ hfollows _ hinspect => hfollows.hidden hinspect) .true

theorem killKept_of_run
    (hmeets : Machine.Meets (fun _ => Undisturbed) (controlTrace sandbox calls)) :
    KillKept (controlTrace sandbox calls) (afterControl sandbox calls) :=
  hmeets.invariant .start fun _ _ _ hkept hundisturbed => hkept.serve hundisturbed

theorem LocalProcessSandbox.revokeCredentials_ok {refs : List String}
    (h : refs = [] ∨ sandbox.credentialLifecycle = true) :
    sandbox.revokeCredentials refs (.ok ()) = .ok () := by
  unfold revokeCredentials
  by_cases hempty : refs = []
  · rw [if_pos hempty]
  · rw [if_neg hempty, if_neg (by simp [h.resolve_left hempty])]

theorem reported_of_some
    (hentry : sandbox.running[collecting.handle.sandboxId]? = some entry) :
    reported sandbox collecting =
      if collecting.outputs = true ∧
          sandbox.revokeCredentials entry.credentialRefs collecting.revokeAll = .ok () ∧
          collecting.removed = true then
        some (entry.outcome collecting.now).1
      else none := by
  obtain ⟨now, handle, outputs, revokeAll, removed⟩ := collecting
  simp only [reported, collect, hentry]
  cases outputs with
  | false => rfl
  | true =>
    cases hrevoke : sandbox.revokeCredentials entry.credentialRefs revokeAll with
    | error error => rfl
    | ok u =>
      cases removed with
      | false => rfl
      | true => rfl

theorem reported_of_none
    (hentry : sandbox.running[collecting.handle.sandboxId]? = none) :
    reported sandbox collecting = none := by
  simp [reported, collect, hentry, Except.toOption]

theorem RunningEntry.outcome_fst {now : DateTime} (h : entry.ExitsInTime now) :
    (entry.outcome now).1 = if entry.child.status.Success then .succeeded
      else if entry.state = .killed then .killed else .failed := by
  simp [outcome, h]

theorem Shadows.outcome_eq {shadow : RunningEntry} {now : DateTime}
    (h : Shadows trace entry shadow)
    (hmeets : ∀ event ∈ trace, Undisturbed event.before event.call)
    (hreaped : entry.child.reaped = true → entry.state = entry.child.status.state ∧
      ∃ event ∈ trace, entry.child.exitsAt ≤ event.call.now)
    (hnow : ∀ event ∈ trace, event.call.now ≤ now) :
    (shadow.outcome now).1 = (entry.outcome now).1 := by
  cases hchild : entry.child.reaped with
  | false => rw [h.untouched hchild]
  | true =>
    obtain ⟨hstate, event, hmem, hexit⟩ := hreaped hchild
    have hintime : entry.ExitsInTime now := .inl hchild
    have hintime' : shadow.ExitsInTime now := by
      have hexit' : shadow.child.exitsAt ≤ now := h.exitsAt ▸ hexit.trans (hnow event hmem)
      have hwait : (0 : Int) ≤ shadow.timeoutMs * 1000000 := by omega
      exact .inr (hexit'.trans (Int.le_add_of_nonneg_right hwait))
    rw [RunningEntry.outcome_fst hintime, RunningEntry.outcome_fst hintime', h.status]
    by_cases hsuccess : entry.child.status.Success
    · rw [if_pos hsuccess, if_pos hsuccess]
    · have hstate' : entry.state ≠ .killed := hstate ▸ ExitStatus.state_ne_killed _
      have hshadow : shadow.state ≠ .killed := fun hkilled => by
        obtain ⟨event, hmem, hevent⟩ := h.disturbed hchild hsuccess hkilled
        exact hevent (hmeets event hmem)
      rw [if_neg hstate', if_neg hshadow]

theorem exists_after (calls : List ControlCall) (exitsAt : DateTime) :
    ∃ now, (∀ call ∈ calls, call.now ≤ now) ∧ exitsAt ≤ now := by
  induction calls with
  | nil => exact ⟨exitsAt, nofun, le_rfl⟩
  | cons call calls ih =>
    obtain ⟨now, hcalls, hexit⟩ := ih
    refine ⟨max call.now now, ?_, hexit.trans (le_max_right _ _)⟩
    rintro earlier (_ | ⟨_, hmem⟩)
    · exact le_max_left _ _
    · exact (hcalls earlier hmem).trans (le_max_right _ _)

theorem final_of_undisturbed (hstarted : Started sandbox)
    (hmeets : Machine.Meets (fun _ => Undisturbed) (controlTrace sandbox calls))
    (hkilled : HasKilled (controlTrace sandbox calls) sandboxId)
    (hentry : (afterControl sandbox calls).running[sandboxId]? = some entry) :
    entry.state ≠ .running ∧ entry.state ≠ .paused ∧ entry.state ≠ .cancelling := by
  rcases killKept_of_run hmeets sandboxId hkilled entry hentry with hstate | ⟨hreaped, hsuccess⟩
  · rw [hstate]
    decide
  · have hstate := ((tracked_of_run hstarted calls).reaped sandboxId entry hentry hreaped).1
    rw [hstate, ExitStatus.state, if_pos hsuccess]
    decide

theorem unobserved_of_undisturbed (hstarted : Started sandbox)
    (hmeets : Machine.Meets (fun _ => Undisturbed) (controlTrace sandbox calls))
    (hnow : ∀ call ∈ calls, call.now ≤ collecting.now) :
    reported (afterControl sandbox calls) collecting =
      reported (afterControl sandbox (withoutInspections calls)) collecting := by
  have hfollows := follows_of_run hstarted calls
  rcases hfollows.running_eq collecting.handle.sandboxId with ⟨hentry, hshadow⟩ |
    ⟨entry, shadow, hentry, hshadow, hshadows⟩
  · rw [reported_of_none hentry, reported_of_none hshadow]
  · have houtcome : (shadow.outcome collecting.now).1 = (entry.outcome collecting.now).1 := by
      refine hshadows.outcome_eq (fun event hmem => ?_)
        ((tracked_of_run hstarted calls).reaped _ entry hentry)
        fun event hmem => hnow event.call (Machine.call_mem hmem)
      obtain ⟨before, rest, hsplit⟩ := List.append_of_mem hmem
      exact hmeets before event rest hsplit
    have hrevoke : ∀ answer, (afterControl sandbox (withoutInspections calls)).revokeCredentials
        shadow.credentialRefs answer =
          (afterControl sandbox calls).revokeCredentials entry.credentialRefs answer :=
            fun answer => by
      simp only [LocalProcessSandbox.revokeCredentials, hshadows.credentialRefs,
        hfollows.credentialLifecycle]
    rw [reported_of_some hentry, reported_of_some hshadow, houtcome, hrevoke]

theorem killed_of_undisturbed
    (hmeets : Machine.Meets (fun _ => Undisturbed) (controlTrace sandbox calls))
    (hkilled : HasKilled (controlTrace sandbox calls) collecting.handle.sandboxId)
    (hentry : (afterControl sandbox calls).running[collecting.handle.sandboxId]? = some entry)
    (hintime : entry.ExitsInTime collecting.now) (hfailed : ¬entry.child.status.Success)
    (hreported : reported (afterControl sandbox calls) collecting = some state) :
    state = .killed := by
  have hstate : entry.state = .killed := by
    rcases killKept_of_run hmeets _ hkilled entry hentry with hstate | ⟨-, hsuccess⟩
    · exact hstate
    · exact absurd hsuccess hfailed
  rw [reported_of_some hentry] at hreported
  have hout := (Option.ite_none_right_eq_some.mp hreported).2
  rw [RunningEntry.outcome_fst hintime, if_neg hfailed, if_pos hstate] at hout
  exact (Option.some.inj hout).symm

theorem exists_collecting (calls : List ControlCall) (entry : RunningEntry)
    (handle : ExecutionHandle) :
    ∃ collecting : CollectCall, collecting.handle = handle ∧
      (∀ call ∈ calls, call.now ≤ collecting.now) ∧ entry.child.exitsAt ≤ collecting.now ∧
        collecting.outputs = true ∧ collecting.revokeAll = .ok () ∧ collecting.removed = true := by
  obtain ⟨now, hcalls, hexit⟩ := exists_after calls entry.child.exitsAt
  exact ⟨⟨now, handle, true, .ok (), true⟩, rfl, hcalls, hexit, rfl, rfl, rfl⟩

theorem RunningEntry.exitsInTime_of_le {now : DateTime} (h : entry.child.exitsAt ≤ now) :
    entry.ExitsInTime now :=
  have hwait : (0 : Int) ≤ entry.timeoutMs * 1000000 := by omega
  .inr (h.trans (Int.le_add_of_nonneg_right hwait))

theorem reported_failure
    (hentry : sandbox.running[collecting.handle.sandboxId]? = some entry)
    (hcollecting : collecting.outputs = true ∧ collecting.revokeAll = .ok () ∧
      collecting.removed = true)
    (hexit : entry.child.exitsAt ≤ collecting.now) (hfailed : ¬entry.child.status.Success)
    (hrevocable : entry.credentialRefs = [] ∨ sandbox.credentialLifecycle = true) :
    reported sandbox collecting = some (if entry.state = .killed then .killed else .failed) := by
  obtain ⟨houtputs, hrevoke, hremoved⟩ := hcollecting
  have hrevoked := LocalProcessSandbox.revokeCredentials_ok hrevocable
  rw [reported_of_some hentry, hrevoke, if_pos ⟨houtputs, hrevoked, hremoved⟩,
    RunningEntry.outcome_fst (RunningEntry.exitsInTime_of_le hexit), if_neg hfailed]

theorem success_of_late_kill (hstarted : Started sandbox) (hsettled : Settled sandbox calls)
    (hcalls : calls = (early ++ [call]) ++ late)
    (hentry : (afterControl sandbox early).running[call.handle.sandboxId]? = some entry)
    (hreaped : entry.child.reaped = true) (hkill : call.operation = .kill)
    (hpermitted : Permitted (afterControl sandbox early) entry call) :
    entry.child.status.Success := by
  by_contra hfailed
  have hother : call.operation ≠ .inspect := fun hinspect => nomatch hinspect.symm.trans hkill
  have hfollows := follows_of_run hstarted early
  rcases hfollows.running_eq call.handle.sandboxId with ⟨hnone, -⟩ |
    ⟨_, shadow, hentry', hshadow, hshadows⟩
  · exact nomatch hentry.symm.trans hnone
  obtain rfl := Option.some.inj (hentry.symm.trans hentry')
  obtain ⟨collecting, hhandle, hnow, hexit, hgood⟩ :=
    exists_collecting (early ++ [call]) entry call.handle
  have hrevocable := hpermitted.revocable hkill
  have hlooked : reported (afterControl sandbox (early ++ [call])) collecting = some .failed := by
    have hout : ¬Reaches (afterControl sandbox early) entry call := fun hreaches =>
      absurd (hreaches.1.symm.trans hreaped) (by decide)
    have hafter : (afterControl sandbox (early ++ [call])).running[collecting.handle.sandboxId]? =
        some entry := by
      rw [hhandle, afterControl, Machine.after_snoc, running_serveControl, hentry]
      simp [RunningEntry.next_of_not_reaches hother hout]
    have hstate : entry.state ≠ .killed := by
      rw [((tracked_of_run hstarted early).reaped _ entry hentry hreaped).1]
      exact ExitStatus.state_ne_killed _
    refine (reported_failure hafter hgood hexit hfailed ?_).trans (congrArg some (if_neg hstate))
    rw [afterControl, Machine.after_snoc, credentialLifecycle_serveControl]
    exact hrevocable
  have hnot : reported (afterControl sandbox (withoutInspections (early ++ [call]))) collecting =
      some .killed := by
    have hfilter : withoutInspections (early ++ [call]) = withoutInspections early ++ [call] := by
      simp [withoutInspections, hother]
    have hreaches : Reaches (afterControl sandbox (withoutInspections early)) shadow call :=
      ⟨hshadows.unreaped,
        (permitted_congr hfollows.credentialLifecycle hshadows.credentialRefs).mpr hpermitted⟩
    have hnext := RunningEntry.next_of_reaches (by rw [hkill]; rfl) hreaches
    have hafter : (afterControl sandbox (withoutInspections (early ++ [call]))).running[
        collecting.handle.sandboxId]? =
          some { shadow with child := shadow.child.killpg .sigkill, state := .killed } := by
      rw [hhandle, hfilter, afterControl, Machine.after_snoc, running_serveControl, hshadow,
        ← hnext]
      simp
    refine (reported_failure hafter hgood ?_ ?_ ?_).trans (congrArg some (if_pos rfl))
    · exact hshadows.exitsAt ▸ hexit
    · exact hshadows.status ▸ hfailed
    · rw [hfilter, afterControl, Machine.after_snoc, credentialLifecycle_serveControl]
      show shadow.credentialRefs = [] ∨
        (afterControl sandbox (withoutInspections early)).credentialLifecycle = true
      rw [hshadows.credentialRefs, hfollows.credentialLifecycle]
      exact hrevocable
  have hsame := hsettled.unobserved _ _ hcalls collecting hnow
  exact nomatch hlooked.symm.trans (hsame.trans hnot)

theorem undisturbed_of_settled (hstarted : Started sandbox) (hsettled : Settled sandbox calls)
    (hcalls : calls = early ++ call :: late) : Undisturbed (afterControl sandbox early) call := by
  have hsplit : calls = (early ++ [call]) ++ late := by simp [hcalls]
  have htracked := tracked_of_run hstarted early
  have htrace : controlTrace sandbox (early ++ [call]) = controlTrace sandbox early ++
      [Machine.serve serveControl (afterControl sandbox early) call] := Machine.trace_snoc
  have hnext : ∀ entry, (afterControl sandbox early).running[call.handle.sandboxId]? = some entry →
      (afterControl sandbox (early ++ [call])).running[call.handle.sandboxId]? =
        some (entry.next (afterControl sandbox early) call) := fun entry hentry => by
    rw [afterControl, Machine.after_snoc, running_serveControl, hentry]
    simp
  have hkills : ∀ entry, (afterControl sandbox early).running[call.handle.sandboxId]? = some entry →
      entry.state = .killed →
        HasKilled (controlTrace sandbox (early ++ [call])) call.handle.sandboxId :=
    fun entry hentry hkilled => by
      rw [htrace]
      exact (htracked.killed _ entry hentry hkilled).1.left
  constructor
  · intro entry hentry hkilled hreaped hoperation hpermitted
    obtain ⟨hrunning, hpaused, hcancelling⟩ :=
      hsettled.final _ _ hsplit _ (hkills entry hentry hkilled) _ (hnext entry hentry)
    have hreaches : Reaches (afterControl sandbox early) entry call := ⟨hreaped, hpermitted⟩
    rcases hoperation with hpause | hresume | hcancel
    · exact hpaused (by rw [RunningEntry.next_of_reaches (by rw [hpause]; rfl) hreaches])
    · exact hrunning (by rw [RunningEntry.next_of_reaches (by rw [hresume]; rfl) hreaches])
    · exact hcancelling (by rw [RunningEntry.next_of_reaches (by rw [hcancel]; rfl) hreaches])
  · intro entry hentry hkilled hinspect hexited
    by_contra hfailed
    -- What is found overwrites the kill, so that a failure is reported.
    have hfound : entry.next (afterControl sandbox early) call = _ :=
      RunningEntry.next_inspect hinspect
    rw [if_pos hexited] at hfound
    have hafter := hnext entry hentry
    rw [hfound] at hafter
    obtain ⟨collecting, hhandle, hnow, hexit, hgood⟩ :=
      exists_collecting (early ++ [call]) entry call.handle
    rw [← hhandle] at hafter
    have hrevocable : entry.credentialRefs = [] ∨
        (afterControl sandbox (early ++ [call])).credentialLifecycle = true := by
      rw [afterControl, Machine.after_snoc, credentialLifecycle_serveControl]
      exact (htracked.killed _ entry hentry hkilled).2
    have hreported : reported (afterControl sandbox (early ++ [call])) collecting = some .failed :=
      (reported_failure hafter hgood hexit hfailed hrevocable).trans
        (congrArg some (if_neg entry.child.status.state_ne_killed))
    have hkilled' := hsettled.killed _ _ hsplit collecting hnow
      (hhandle ▸ hkills entry hentry hkilled) _ hafter (.inl rfl) hfailed _ hreported
    exact nomatch hkilled'
  · intro entry hentry hreaped hkill hpermitted
    exact success_of_late_kill hstarted hsettled hsplit hentry hreaped hkill hpermitted

/-- Over every run a kill is final, and reports do not depend on inspections, exactly if nothing
overwrites a kill and nothing found to have failed is killed. -/
theorem kill_is_settled (hstarted : Started sandbox) (calls : List ControlCall) :
    Settled sandbox calls ↔ Machine.Meets (fun _ => Undisturbed) (controlTrace sandbox calls) := by
  constructor
  · intro hsettled before event rest hsplit
    obtain ⟨early, late, hcalls, -, hevent⟩ := Machine.trace_split hsplit
    rw [hevent]
    exact undisturbed_of_settled hstarted hsettled hcalls
  · intro hmeets
    have hpre : ∀ early late, calls = early ++ late →
        Machine.Meets (fun _ => Undisturbed) (controlTrace sandbox early) := by
      rintro early late rfl
      rw [controlTrace, Machine.trace_append] at hmeets
      exact hmeets.left
    refine ⟨?_, ?_, ?_⟩
    · intro early late hcalls sandboxId hkilled entry hentry
      exact final_of_undisturbed hstarted (hpre early late hcalls) hkilled hentry
    · intro early late hcalls collecting hnow
      exact unobserved_of_undisturbed hstarted (hpre early late hcalls) hnow
    · intro early late hcalls collecting hnow hkilled entry hentry hintime hfailed status hstatus
      exact killed_of_undisturbed (hpre early late hcalls) hkilled hentry hintime hfailed hstatus

end Runs

section Samples

def sampleSandbox : LocalProcessSandbox where
  credentialLifecycle := false
  running := (∅ : BTreeMap String RunningEntry).insert "sandbox-1"
    { child := { pid := 7, exitsAt := 10, status := .signaled 9, received := [], reaped := false }
      handle := ⟨"sandbox-1", "execution-1", "action-1"⟩
      state := .running
      timeoutMs := 1000
      credentialRefs := [] }

def sampleControl (now : DateTime) (operation : ControlOperation) : ControlCall :=
  ⟨now, operation, ⟨"sandbox-1", "execution-1", "action-1"⟩, .ok ()⟩

theorem started_sampleSandbox : Started sampleSandbox := by
  intro sandboxId entry hentry
  rw [Option.mem_def, sampleSandbox, BTreeMap.getElem?_insert_ite] at hentry
  split at hentry
  · obtain rfl := Option.some.inj hentry
    exact ⟨rfl, rfl⟩
  · exact nomatch Std.ExtTreeMap.getElem?_empty.symm.trans hentry

theorem kill_is_settled_sample :
    Settled sampleSandbox
      [sampleControl 1 .pause, sampleControl 2 .inspect, sampleControl 5 .kill] ↔
      Machine.Meets (fun _ => Undisturbed) (controlTrace sampleSandbox
        [sampleControl 1 .pause, sampleControl 2 .inspect, sampleControl 5 .kill]) :=
  kill_is_settled started_sampleSandbox _

/-- A process is killed. That is reported if nobody looks, and a failure otherwise; and after it is
killed it is resumed. -/
theorem inspection_hides_kill :
    let collecting : CollectCall :=
      ⟨20, ⟨"sandbox-1", "execution-1", "action-1"⟩, true, .ok (), true⟩
    let kill := sampleControl 5 .kill
    Started sampleSandbox ∧
      reported (afterControl sampleSandbox [kill]) collecting = some .killed ∧
      reported (afterControl sampleSandbox [kill, sampleControl 15 .inspect]) collecting =
        some .failed ∧
      (afterControl sampleSandbox [kill, sampleControl 6 .resume]).running["sandbox-1"]?.map
        (·.state) = some .running ∧
      ¬Settled sampleSandbox [kill, sampleControl 15 .inspect] ∧
      ¬Settled sampleSandbox [kill, sampleControl 6 .resume] := by
  intro collecting kill
  have hreported : reported (afterControl sampleSandbox [kill]) collecting = some .killed := by
    decide
  have hlooked : reported (afterControl sampleSandbox [kill, sampleControl 15 .inspect])
      collecting = some .failed := by
    decide
  have hresumed : (afterControl sampleSandbox [kill, sampleControl 6 .resume]).running[
      "sandbox-1"]?.map (·.state) = some .running := by
    decide
  refine ⟨started_sampleSandbox, hreported, hlooked, hresumed, fun hsettled => ?_,
    fun hsettled => ?_⟩
  · have hsame := hsettled.unobserved _ [] (List.append_nil _).symm collecting (by
      rintro call (_ | ⟨_, _ | ⟨_, _ | _⟩⟩)
      · decide
      · decide)
    have hnot : reported (afterControl sampleSandbox
        (withoutInspections [kill, sampleControl 15 .inspect])) collecting = some .killed :=
      hreported
    exact nomatch hlooked.symm.trans (hsame.trans hnot)
  · obtain ⟨entry, hentry, hstate⟩ := Option.map_eq_some_iff.mp hresumed
    have hanswer : (serveControl sampleSandbox kill).1 =
        .ok (.receipt ⟨⟨"sandbox-1", "execution-1", "action-1"⟩, .killed, 5, some 7⟩) := by
      decide
    have hkills : HasKilled (controlTrace sampleSandbox [kill, sampleControl 6 .resume])
        "sandbox-1" :=
      ⟨_, List.mem_cons_self, rfl, rfl, _, hanswer⟩
    exact (hsettled.final _ [] (List.append_nil _).symm _ hkills entry hentry).1 hstate

end Samples

end AgentSphere.Sandbox
