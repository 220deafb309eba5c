import AgentSphere.PolicyPep.Enforcement
import AgentSphere.Sandbox.Processes

/-!
# The supervisor of executions

`RuntimeSupervisor` pauses and kills executions by the hash of their action. It keeps one handle
for each hash, the one registered last, so an action that is executed more than once is only
reached in its last execution.

A run registers executions and controls them; in between, anything may happen in the sandbox.
-/

namespace AgentSphere.Sandbox

open Concurrency
open PolicyPep (PolicyError)

structure RuntimeSupervisor where
  runtime : LocalProcessSandbox
  actions : BTreeMap ActionHash ExecutionHandle

namespace RuntimeSupervisor

def new (runtime : LocalProcessSandbox) : RuntimeSupervisor :=
  ⟨runtime, ∅⟩

def register (supervisor : RuntimeSupervisor) (handle : ExecutionHandle) : RuntimeSupervisor :=
  { supervisor with actions := supervisor.actions.insert handle.actionHash handle }

/-- An operation on the handle of an action, at a time and with an answer of the credential
lifecycle. -/
def control (supervisor : RuntimeSupervisor) (operation : ControlOperation)
    (actionHash : ActionHash) (now : DateTime) (revokeAll : Except SandboxError Unit) :
    Except PolicyError Unit × RuntimeSupervisor :=
  match supervisor.actions[actionHash]? with
  | none => (.error .obligationFailed, supervisor)
  | some handle =>
    match serveControl supervisor.runtime ⟨now, operation, handle, revokeAll⟩ with
    | (.ok _, runtime) => (.ok (), { supervisor with runtime })
    | (.error _, runtime) => (.error .obligationFailed, { supervisor with runtime })

def pause (supervisor : RuntimeSupervisor) : ActionHash → DateTime → Except SandboxError Unit →
    Except PolicyError Unit × RuntimeSupervisor :=
  supervisor.control .pause

def kill (supervisor : RuntimeSupervisor) : ActionHash → DateTime → Except SandboxError Unit →
    Except PolicyError Unit × RuntimeSupervisor :=
  supervisor.control .kill

end RuntimeSupervisor

inductive Halt where
  | pause
  | kill
  deriving DecidableEq, Repr

def Halt.operation : Halt → ControlOperation
  | .pause => .pause
  | .kill => .kill

def Halt.signal : Halt → Signal
  | .pause => .sigstop
  | .kill => .sigkill

inductive SupervisorCall where
  | register (handle : ExecutionHandle)
  | control (halt : Halt) (actionHash : ActionHash) (now : DateTime)
      (revokeAll : Except SandboxError Unit)
  | elsewhere (runtime : LocalProcessSandbox)

def serveSupervisor (supervisor : RuntimeSupervisor) :
    SupervisorCall → Except PolicyError Unit × RuntimeSupervisor
  | .register handle => (.ok (), supervisor.register handle)
  | .control .pause actionHash now revokeAll => supervisor.pause actionHash now revokeAll
  | .control .kill actionHash now revokeAll => supervisor.kill actionHash now revokeAll
  | .elsewhere runtime => (.ok (), { supervisor with runtime })

abbrev SupervisorEvent := Served RuntimeSupervisor SupervisorCall (Except PolicyError Unit)

def SupervisorCall.registered (actionHash : ActionHash) : SupervisorCall → Option ExecutionHandle
  | .register handle => if handle.actionHash = actionHash then some handle else none
  | _ => none

def executions (actionHash : ActionHash) (trace : List SupervisorEvent) : List ExecutionHandle :=
  trace.filterMap (·.call.registered actionHash)

def StillRunning (runtime : LocalProcessSandbox) (now : DateTime) (handle : ExecutionHandle)
    (entry : RunningEntry) : Prop :=
  runtime.running[handle.sandboxId]? = some entry ∧ ¬entry.child.HasExited now

/-- A control that succeeds sends its signal to every execution of the action that was registered
and is still running. -/
def ReachesAll (before : List SupervisorEvent) (supervisor : RuntimeSupervisor) :
    SupervisorCall → Prop
  | .control halt actionHash now revokeAll =>
    let result := serveSupervisor supervisor (.control halt actionHash now revokeAll)
    result.1 = .ok () → ∀ handle ∈ executions actionHash before,
      ∀ entry, StillRunning supervisor.runtime now handle entry →
        ∃ entry' ∈ result.2.runtime.running[handle.sandboxId]?,
          entry'.child.received = entry.child.received ++ [halt.signal]
  | _ => True

/-- If a signal reaches the execution of an action that was registered last, then every other one
has ended. -/
def RunsOnce (before : List SupervisorEvent) (supervisor : RuntimeSupervisor) :
    SupervisorCall → Prop
  | .control halt actionHash now revokeAll =>
    ∀ kept ∈ (executions actionHash before).getLast?,
      ∀ last ∈ supervisor.runtime.running[kept.sandboxId]?,
        Reaches supervisor.runtime last ⟨now, halt.operation, kept, revokeAll⟩ →
          ∀ handle ∈ executions actionHash before, ∀ entry,
            StillRunning supervisor.runtime now handle entry → handle.sandboxId = kept.sandboxId
  | _ => True

variable {supervisor : RuntimeSupervisor} {runtime : LocalProcessSandbox} {halt : Halt}
  {actionHash : ActionHash} {now : DateTime} {revokeAll : Except SandboxError Unit}
  {trace before : List SupervisorEvent} {call : SupervisorCall} {calls : List SupervisorCall}
  {kept handle : ExecutionHandle} {entry : RunningEntry}

theorem serveSupervisor_control :
    serveSupervisor supervisor (.control halt actionHash now revokeAll) =
    supervisor.control halt.operation actionHash now revokeAll := by
  cases halt with
  | pause | kill => rfl

def Keeps (trace : List SupervisorEvent) (supervisor : RuntimeSupervisor) : Prop :=
  ∀ actionHash, supervisor.actions[actionHash]? = (executions actionHash trace).getLast?

theorem actions_control (operation : ControlOperation) :
    (supervisor.control operation actionHash now revokeAll).2.actions = supervisor.actions := by
  unfold RuntimeSupervisor.control
  split
  · rfl
  · split
    · rfl
    · rfl

theorem executions_snoc : executions actionHash
    (trace ++ [Machine.serve serveSupervisor supervisor call]) =
      executions actionHash trace ++ (call.registered actionHash).toList := by
  rw [executions, List.filterMap_append]
  cases h : call.registered actionHash with
  | none => simp [h, executions]
  | some handle => simp [h, executions]

theorem Keeps.serve (h : Keeps trace supervisor) (call : SupervisorCall) :
    Keeps (trace ++ [Machine.serve serveSupervisor supervisor call])
      (serveSupervisor supervisor call).2 := by
  intro actionHash
  rw [executions_snoc]
  cases call with
  | register handle =>
    rw [serveSupervisor, RuntimeSupervisor.register, BTreeMap.getElem?_insert_ite]
    by_cases heq : handle.actionHash = actionHash
    · simp [SupervisorCall.registered, heq]
    · simpa [SupervisorCall.registered, heq] using h actionHash
  | control halt actionHash' now revokeAll =>
    rw [serveSupervisor_control, actions_control]
    simpa [SupervisorCall.registered] using h actionHash
  | elsewhere runtime => simpa [SupervisorCall.registered, serveSupervisor] using h actionHash

theorem control_of_some (h : supervisor.actions[actionHash]? = some kept)
    (operation : ControlOperation) :
    let result := serveControl supervisor.runtime ⟨now, operation, kept, revokeAll⟩
    let answer := (supervisor.control operation actionHash now revokeAll).1
    (answer = .ok () ↔ ∃ receipt, result.1 = .ok receipt) ∧
      (supervisor.control operation actionHash now revokeAll).2.runtime = result.2 := by
  intro result answer
  simp only [answer, RuntimeSupervisor.control, h]
  cases hresult : result with
  | mk receipt runtime =>
    have hresult' : serveControl supervisor.runtime ⟨now, operation, kept, revokeAll⟩ =
        (receipt, runtime) := hresult
    cases receipt with
    | ok receipt => simp [hresult']
    | error error => simp [hresult']

theorem control_ok_iff :
    (supervisor.control halt.operation actionHash now revokeAll).1 = .ok () ↔
      ∃ kept ∈ supervisor.actions[actionHash]?,
        ∃ last ∈ supervisor.runtime.running[kept.sandboxId]?,
          Reaches supervisor.runtime last ⟨now, halt.operation, kept, revokeAll⟩ := by
  cases hkept : supervisor.actions[actionHash]? with
  | none => simp [RuntimeSupervisor.control, hkept]
  | some kept =>
    rw [(control_of_some hkept halt.operation).1]
    cases hlast : supervisor.runtime.running[kept.sandboxId]? with
    | none =>
      rw [serveControl_of_none hlast]
      simp [hlast]
    | some last =>
      have hother : halt.operation ≠ .inspect := by
        cases halt with
        | pause | kill => decide
      have hserves : Serves supervisor.runtime last ⟨now, halt.operation, kept, revokeAll⟩ :=
        serveControl_of_some hlast
      simpa [hlast] using hserves.answer hother

theorem running_control (hkept : supervisor.actions[actionHash]? = some kept)
    (sandboxId : String) :
    (supervisor.control halt.operation actionHash now revokeAll).2.runtime.running[sandboxId]? =
      supervisor.runtime.running[sandboxId]?.map fun entry =>
        if kept.sandboxId = sandboxId then
          entry.next supervisor.runtime ⟨now, halt.operation, kept, revokeAll⟩
        else entry := by
  rw [(control_of_some hkept halt.operation).2, running_serveControl]

theorem reachesAll_iff (hkeeps : Keeps before supervisor) (call : SupervisorCall) :
    ReachesAll before supervisor call ↔ RunsOnce before supervisor call := by
  cases call with
  | register | elsewhere => exact Iff.rfl
  | control halt actionHash now revokeAll =>
    simp only [ReachesAll, RunsOnce, serveSupervisor_control, ← hkeeps actionHash]
    constructor
    · intro hreaches kept hkept last hlast hsignal handle hhandle entry hrunning
      by_contra hother
      have hok := control_ok_iff.mpr ⟨kept, hkept, last, hlast, hsignal⟩
      obtain ⟨entry', hentry', hreceived⟩ := hreaches hok handle hhandle entry hrunning
      rw [running_control hkept, hrunning.1] at hentry'
      obtain rfl : entry = entry' := by simpa [Ne.symm hother] using hentry'
      simp at hreceived
    · intro honce hok handle hhandle entry hrunning
      obtain ⟨kept, hkept, last, hlast, hsignal⟩ := control_ok_iff.mp hok
      have hsame := honce kept hkept last hlast hsignal handle hhandle entry hrunning
      obtain rfl : last = entry := by
        have hentry := hrunning.1
        rw [hsame, hlast] at hentry
        exact Option.some.inj hentry
      obtain ⟨state, hrequest⟩ : ∃ state, halt.operation.request = some (halt.signal, state) := by
        cases halt with
        | pause | kill => exact ⟨_, rfl⟩
      refine ⟨{ last with child := last.child.killpg halt.signal, state }, ?_, rfl⟩
      rw [running_control hkept, hrunning.1, Option.mem_def, Option.map_some, if_pos hsame.symm,
        RunningEntry.next_of_reaches hrequest hsignal]

/-- Over every run of a supervisor, its controls reach every registered execution of their action
that is still running exactly if these are always the last ones registered. -/
theorem supervisor_reaches_all (runtime : LocalProcessSandbox) (calls : List SupervisorCall) :
    Machine.Meets ReachesAll (Machine.trace serveSupervisor (.new runtime) calls) ↔
      Machine.Meets RunsOnce (Machine.trace serveSupervisor (.new runtime) calls) := by
  have hkeeps : ∀ {before event rest},
      Machine.trace serveSupervisor (.new runtime) calls = before ++ event :: rest →
        Keeps before event.before := fun hsplit =>
    Machine.Meets.always (fun _ => Std.ExtTreeMap.getElem?_empty)
      (fun _ _ call hkeeps _ => hkeeps.serve call) .true hsplit
  constructor
  · intro h before event rest hsplit
    exact (reachesAll_iff (hkeeps hsplit) event.call).mp (h before event rest hsplit)
  · intro h before event rest hsplit
    exact (reachesAll_iff (hkeeps hsplit) event.call).mpr (h before event rest hsplit)

section Samples

def sampleExecution (sandboxId : String) : ExecutionHandle :=
  ⟨sandboxId, "execution of " ++ sandboxId, "action-1"⟩

def sampleEntry (sandboxId : String) (pid : Nat) : RunningEntry where
  child := { pid, exitsAt := 1000, status := .exited 0, received := [], reaped := false }
  handle := sampleExecution sandboxId
  state := .running
  timeoutMs := 1000
  credentialRefs := []

def twiceRunning : LocalProcessSandbox where
  credentialLifecycle := false
  running :=
    ((∅ : BTreeMap String RunningEntry).insert "sandbox-1" (sampleEntry "sandbox-1" 7)).insert
    "sandbox-2" (sampleEntry "sandbox-2" 8)

/-- An action is executed twice and killed: its first execution receives no signal. -/
theorem kill_misses_execution :
    let calls : List SupervisorCall :=
      [.register (sampleExecution "sandbox-1"), .register (sampleExecution "sandbox-2")]
    let supervisor := Machine.after serveSupervisor (.new twiceRunning) calls
    let result := supervisor.kill "action-1" 5 (.ok ())
    result.1 = .ok () ∧
      StillRunning twiceRunning 5 (sampleExecution "sandbox-1") (sampleEntry "sandbox-1" 7) ∧
      result.2.runtime.running["sandbox-1"]? = some (sampleEntry "sandbox-1" 7) ∧
      ¬Machine.Meets ReachesAll (Machine.trace serveSupervisor (.new twiceRunning)
        (calls ++ [.control .kill "action-1" 5 (.ok ())])) := by
  intro calls supervisor result
  have hok : result.1 = .ok () := by decide
  have hrunning : StillRunning twiceRunning 5 (sampleExecution "sandbox-1")
      (sampleEntry "sandbox-1" 7) :=
    ⟨by decide, by decide⟩
  have hmissed : result.2.runtime.running["sandbox-1"]? = some (sampleEntry "sandbox-1" 7) := by
    decide
  refine ⟨hok, hrunning, hmissed, fun hmeets => ?_⟩
  rw [Machine.trace_snoc] at hmeets
  obtain ⟨entry, hentry, hreceived⟩ := hmeets.last hok (sampleExecution "sandbox-1")
    List.mem_cons_self _ hrunning
  obtain rfl := Option.some.inj (hmissed.symm.trans hentry)
  exact nomatch hreceived

end Samples

end AgentSphere.Sandbox
