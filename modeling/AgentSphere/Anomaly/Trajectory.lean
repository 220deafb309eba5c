import AgentSphere.Contracts.Authority
import AgentSphere.Lib.Machine
import Mathlib.Data.List.Sort

/-!
# Windows of signals

`TrajectoryMonitor` keeps the latest signals of every task, sorted by the time at which they
occurred, and the set of their identifiers, by which a repeated signal is recognized. `consume`
enters the identifier first and takes it out again if the window is full of later signals; if the
clock of a signal is refused, or a sum of instants is out of range, the identifier stays.
-/

namespace AgentSphere.Anomaly

open Concurrency

def anomalySchemaVersion : String := "agenttrust.runtime-anomaly.v1"

inductive SignalKind where
  | tool
  | resource
  | network
  | file
  | credential
  | policyDeny
  | approval
  | process
  | telemetry
  | auditControl
  deriving DecidableEq, Repr

structure RiskSignal where
  schemaVersion : String
  eventId : String
  tenantId : TenantId
  taskId : TaskId
  agentInstanceId : AgentInstanceId
  kind : SignalKind
  action : String
  resource : String
  resourceClass : String
  value : Value
  confidenceMillionths : Nat
  sourceVersion : String
  occurredAt : DateTime
  deriving DecidableEq

structure TrajectoryState where
  schemaVersion : String
  tenantId : TenantId
  taskId : TaskId
  goalHash : String
  planHash : String
  allowedResourcePrefixes : BTreeSet String
  allowedNetworkDestinations : BTreeSet String
  eventCount : Nat
  firstSeenAt : DateTime
  lastSeenAt : DateTime
  deriving DecidableEq

structure TaskWindow where
  state : TrajectoryState
  signals : List RiskSignal
  eventIds : BTreeSet String

abbrev Windows := BTreeMap (TenantId × TaskId) TaskWindow

inductive AnomalyError where
  | configurationInvalid
  | trajectoryInvalid
  | trajectoryConflict
  | trajectoryNotFound
  | capacityExceeded
  | signalInvalid
  | signalClockInvalid
  | canonicalization
  | responseInvalid
  /-- Not an error of the source: an instant beyond the range of `chrono` panics. -/
  | panicked
  deriving DecidableEq, Repr

/-- The configuration of a monitor, as `new` admits it; the skew is in nanoseconds. -/
structure TrajectoryMonitor where
  maximumTasks : Nat
  maximumSignalsPerTask : Nat
  maximumClockSkew : Int
  someTask : maximumTasks ≠ 0
  someSignal : maximumSignalsPerTask ≠ 0
  skewNonneg : 0 ≤ maximumClockSkew

/-- What is asked of `start`. -/
structure StartRequest where
  tenantId : TenantId
  taskId : TaskId
  goalHash : String
  planHash : String
  allowedResourcePrefixes : BTreeSet String
  allowedNetworkDestinations : BTreeSet String

inductive MonitorCall where
  | start (request : StartRequest) (now : DateTime)
  | consume (signal : RiskSignal) (now : DateTime)

abbrev MonitorAnswer := Except AnomalyError TrajectoryState

-- The calls

/-- `validate_signal`. -/
def validSignal (signal : RiskSignal) : Bool :=
  signal.schemaVersion = anomalySchemaVersion && !signal.eventId.isEmpty &&
    !signal.action.isEmpty && !signal.resource.isEmpty && !signal.resourceClass.isEmpty &&
    signal.confidenceMillionths ≤ 1000000 && !signal.sourceVersion.isEmpty

/-- `usize::saturating_add(1)`. -/
def saturatingSucc (n : Nat) : Nat := min (n + 1) (2 ^ 64 - 1)

def occursBefore (a b : RiskSignal) : Prop := a.occurredAt ≤ b.occurredAt

instance : DecidableRel occursBefore :=
  fun a b => inferInstanceAs (Decidable (a.occurredAt ≤ b.occurredAt))

def RiskSignal.key (signal : RiskSignal) : TenantId × TaskId := (signal.tenantId, signal.taskId)

namespace TaskWindow

def push (window : TaskWindow) (signal : RiskSignal) : TaskWindow where
  state := { window.state with
    eventCount := saturatingSucc window.state.eventCount
    lastSeenAt := max window.state.lastSeenAt signal.occurredAt }
  signals := (window.signals ++ [signal]).insertionSort occursBefore
  eventIds := window.eventIds

def dropOldest (window : TaskWindow) : TaskWindow :=
  match window.signals with
  | [] => window
  | removed :: signals =>
    { window with signals, eventIds := window.eventIds.erase removed.eventId }

def isBefore (window : TaskWindow) (signal : RiskSignal) : Bool :=
  window.signals.head?.any fun oldest => signal.occurredAt ≤ oldest.occurredAt

end TaskWindow

namespace TrajectoryMonitor

variable (self : TrajectoryMonitor)

def checkClock (window : TaskWindow) (signal : RiskSignal) (now : DateTime) :
    Except AnomalyError Unit :=
  match now.add self.maximumClockSkew with
  | none => .error .panicked
  | some latest =>
    if latest < signal.occurredAt then .error .signalClockInvalid
    else
      match window.state.firstSeenAt.add (-self.maximumClockSkew) with
      | none => .error .panicked
      | some earliest =>
        if signal.occurredAt < earliest then .error .signalClockInvalid else .ok ()

/-- `consume`, on the window of a valid signal. -/
def consumeInto (window : TaskWindow) (signal : RiskSignal) (now : DateTime) :
    MonitorAnswer × TaskWindow :=
  if window.eventIds.contains signal.eventId then (.ok window.state, window)
  else
    let entered := { window with eventIds := window.eventIds.insert signal.eventId }
    match self.checkClock window signal now with
    | .error e => (.error e, entered)
    | .ok () =>
      if self.maximumSignalsPerTask ≤ window.signals.length then
        if window.isBefore signal then
          (.error .signalClockInvalid,
            { entered with eventIds := entered.eventIds.erase signal.eventId })
        else
          let admitted := entered.dropOldest.push signal
          (.ok admitted.state, admitted)
      else
        let admitted := entered.push signal
        (.ok admitted.state, admitted)

def consume (signal : RiskSignal) (now : DateTime) (windows : Windows) : MonitorAnswer × Windows :=
  if !validSignal signal then (.error .signalInvalid, windows)
  else
    match windows[signal.key]? with
    | none => (.error .trajectoryNotFound, windows)
    | some window =>
      let (answer, window') := self.consumeInto window signal now
      (answer, windows.insert signal.key window')

def fresh (request : StartRequest) (now : DateTime) : TaskWindow where
  state :=
    { schemaVersion := anomalySchemaVersion, tenantId := request.tenantId
      taskId := request.taskId, goalHash := request.goalHash, planHash := request.planHash
      allowedResourcePrefixes := request.allowedResourcePrefixes
      allowedNetworkDestinations := request.allowedNetworkDestinations, eventCount := 0
      firstSeenAt := now, lastSeenAt := now }
  signals := []
  eventIds := ∅

def start (request : StartRequest) (now : DateTime) (windows : Windows) :
    MonitorAnswer × Windows :=
  if request.goalHash.utf8ByteSize ≠ 64 ∨ request.planHash.utf8ByteSize ≠ 64 then
    (.error .trajectoryInvalid, windows)
  else
    match windows[(request.tenantId, request.taskId)]? with
    | some existing =>
      if existing.state.goalHash = request.goalHash ∧
          existing.state.planHash = request.planHash then (.ok existing.state, windows)
      else (.error .trajectoryConflict, windows)
    | none =>
      if self.maximumTasks ≤ windows.size then (.error .capacityExceeded, windows)
      else
        (.ok (fresh request now).state,
          windows.insert (request.tenantId, request.taskId) (fresh request now))

def serve (windows : Windows) : MonitorCall → MonitorAnswer × Windows
  | .start request now => self.start request now windows
  | .consume signal now => self.consume signal now windows

end TrajectoryMonitor

-- Consistent windows

structure Consistent (monitor : TrajectoryMonitor) (window : TaskWindow) : Prop where
  ids : ∀ id, id ∈ window.eventIds ↔ ∃ signal ∈ window.signals, signal.eventId = id
  distinct : (window.signals.map (·.eventId)).Nodup
  sorted : window.signals.Pairwise occursBefore
  bounded : window.signals.length ≤ monitor.maximumSignalsPerTask

/-- The clock of a signal lies between the first instant of the task and the present, with the
skew allowed on either side. -/
def InClock (monitor : TrajectoryMonitor) (window : TaskWindow) (signal : RiskSignal)
    (now : DateTime) : Prop :=
  ∃ earliest latest, window.state.firstSeenAt.add (-monitor.maximumClockSkew) = some earliest ∧
    now.add monitor.maximumClockSkew = some latest ∧ earliest ≤ signal.occurredAt ∧
    signal.occurredAt ≤ latest

def Stale (monitor : TrajectoryMonitor) (window : TaskWindow) (signal : RiskSignal) : Prop :=
  monitor.maximumSignalsPerTask ≤ window.signals.length ∧
    ∃ oldest ∈ window.signals.head?, signal.occurredAt ≤ oldest.occurredAt

section Windows

variable {monitor : TrajectoryMonitor} {window : TaskWindow} {signal : RiskSignal} {now : DateTime}

theorem checkClock_eq_ok :
    monitor.checkClock window signal now = .ok () ↔ InClock monitor window signal now := by
  unfold TrajectoryMonitor.checkClock InClock
  cases now.add monitor.maximumClockSkew with
  | none => simp
  | some latest =>
    by_cases hlate : latest < signal.occurredAt
    · simp [hlate, Int.not_le.mpr hlate]
    · cases window.state.firstSeenAt.add (-monitor.maximumClockSkew) with
      | none => simp [hlate]
      | some earliest =>
        by_cases hearly : signal.occurredAt < earliest
        · simp [hlate, hearly, Int.not_le.mpr hearly]
        · simp [hlate, hearly, Int.not_lt.mp hlate, Int.not_lt.mp hearly]

theorem isBefore_iff :
    window.isBefore signal = true ↔
      ∃ oldest ∈ window.signals.head?, signal.occurredAt ≤ oldest.occurredAt := by
  unfold TaskWindow.isBefore
  cases window.signals.head? with
  | none => simp
  | some oldest => simp

theorem fresh_consistent (request : StartRequest) (now : DateTime) :
    Consistent monitor (TrajectoryMonitor.fresh request now) where
  ids id := by simp [TrajectoryMonitor.fresh]
  distinct := .nil
  sorted := .nil
  bounded := Nat.zero_le _

theorem occursBefore_trans {a b c : RiskSignal} (h : occursBefore a b) (h' : occursBefore b c) :
    occursBefore a c :=
  Int.le_trans h h'

instance : IsTrans RiskSignal occursBefore := ⟨fun _ _ _ => occursBefore_trans⟩

instance : Std.Total occursBefore := ⟨fun a b => Int.le_total a.occurredAt b.occurredAt⟩

theorem push_consistent
    (hids : ∀ id, id ∈ window.eventIds ↔
      id = signal.eventId ∨ ∃ other ∈ window.signals, other.eventId = id)
    (hdistinct : (window.signals.map (·.eventId)).Nodup)
    (hnew : ∀ other ∈ window.signals, other.eventId ≠ signal.eventId)
    (hroom : window.signals.length < monitor.maximumSignalsPerTask) :
    Consistent monitor (window.push signal) := by
  have hperm : ((window.signals ++ [signal]).insertionSort occursBefore).Perm
      (window.signals ++ [signal]) := List.perm_insertionSort ..
  refine ⟨fun id => ?_, ?_, List.pairwise_insertionSort .., ?_⟩
  · show id ∈ window.eventIds ↔ _
    rw [hids]
    constructor
    · rintro (rfl | ⟨other, hother, rfl⟩)
      · exact ⟨signal, hperm.mem_iff.mpr (by simp), rfl⟩
      · exact ⟨other, hperm.mem_iff.mpr (List.mem_append_left _ hother), rfl⟩
    · rintro ⟨other, hother, rfl⟩
      obtain hold | hsame := List.mem_append.mp (hperm.mem_iff.mp hother)
      · exact .inr ⟨other, hold, rfl⟩
      · exact .inl (by rw [List.mem_singleton.mp hsame])
  · refine (hperm.map _).nodup_iff.mpr ?_
    rw [List.map_append, List.nodup_append]
    refine ⟨hdistinct, List.nodup_singleton _, ?_⟩
    rintro _ hother _ hsignal rfl
    obtain ⟨other, hmem, hid⟩ := List.mem_map.mp hother
    exact hnew other hmem (hid.trans (List.mem_singleton.mp hsignal))
  · show ((window.signals ++ [signal]).insertionSort occursBefore).length ≤ _
    rw [hperm.length_eq, List.length_append, List.length_singleton]
    exact hroom

theorem mem_push : signal ∈ (window.push signal).signals :=
  (List.mem_insertionSort _).mpr (by simp)

theorem consumeInto_known (h : signal.eventId ∈ window.eventIds) :
    monitor.consumeInto window signal now = (.ok window.state, window) := by
  unfold TrajectoryMonitor.consumeInto
  rw [if_pos (Std.ExtTreeSet.mem_iff_contains.mp h)]

theorem not_contains (h : signal.eventId ∉ window.eventIds) :
    ¬ window.eventIds.contains signal.eventId = true :=
  fun hcontains => h (Std.ExtTreeSet.mem_iff_contains.mpr hcontains)

theorem consumeInto_refused {e : AnomalyError} (hnew : signal.eventId ∉ window.eventIds)
    (hclock : monitor.checkClock window signal now = .error e) :
    monitor.consumeInto window signal now =
      (.error e, { window with eventIds := window.eventIds.insert signal.eventId }) := by
  unfold TrajectoryMonitor.consumeInto
  rw [if_neg (not_contains hnew), hclock]

theorem consumeInto_stale (hnew : signal.eventId ∉ window.eventIds)
    (hclock : InClock monitor window signal now) (hstale : Stale monitor window signal) :
    monitor.consumeInto window signal now = (.error .signalClockInvalid, window) := by
  have hsame : (window.eventIds.insert signal.eventId).erase signal.eventId = window.eventIds := by
    refine Std.ExtTreeSet.ext_mem fun id => ?_
    rw [Std.ExtTreeSet.mem_erase, Std.ExtTreeSet.mem_insert]
    constructor
    · rintro ⟨hne, heq | hold⟩
      · exact absurd heq hne
      · exact hold
    · intro hold
      refine ⟨fun heq => hnew ?_, .inr hold⟩
      rwa [Std.compare_eq_iff_eq.mp heq]
  unfold TrajectoryMonitor.consumeInto
  rw [if_neg (not_contains hnew), checkClock_eq_ok.mpr hclock]
  simp only [if_pos hstale.1, isBefore_iff.mpr hstale.2, if_true, hsame]

theorem consumeInto_admitted (h : Consistent monitor window)
    (hnew : signal.eventId ∉ window.eventIds) (hclock : InClock monitor window signal now)
    (hwanted : ¬ Stale monitor window signal) :
    ∃ window', monitor.consumeInto window signal now = (.ok window'.state, window') ∧
      Consistent monitor window' ∧ signal ∈ window'.signals ∧
      window'.state.eventCount = saturatingSucc window.state.eventCount := by
  have hother : ∀ other ∈ window.signals, other.eventId ≠ signal.eventId :=
    fun other hmem hid => hnew ((h.ids _).mpr ⟨other, hmem, hid⟩)
  have hentered : ∀ id, id ∈ window.eventIds.insert signal.eventId ↔
      id = signal.eventId ∨ ∃ other ∈ window.signals, other.eventId = id := by
    intro id
    rw [Std.ExtTreeSet.mem_insert, Std.compare_eq_iff_eq, h.ids]
    exact or_congr_left eq_comm
  unfold TrajectoryMonitor.consumeInto
  rw [if_neg (not_contains hnew), checkClock_eq_ok.mpr hclock]
  dsimp only
  by_cases hfull : monitor.maximumSignalsPerTask ≤ window.signals.length
  · have hlater : ¬ window.isBefore signal = true :=
      fun hbefore => hwanted ⟨hfull, isBefore_iff.mp hbefore⟩
    rw [if_pos hfull, if_neg hlater]
    obtain ⟨removed, signals, hsignals⟩ : ∃ removed signals,
        window.signals = removed :: signals := by
      refine List.exists_cons_of_length_pos (Nat.pos_of_ne_zero fun hzero => ?_)
      exact monitor.someSignal (Nat.le_zero.mp (hzero ▸ hfull))
    have hdrop : TaskWindow.dropOldest
        { window with eventIds := window.eventIds.insert signal.eventId } =
        { window with
          signals
          eventIds := (window.eventIds.insert signal.eventId).erase removed.eventId } := by
      simp only [TaskWindow.dropOldest, hsignals]
    rw [hdrop]
    have hdistinct := h.distinct
    have hbounded := h.bounded
    rw [hsignals] at hdistinct hbounded hother hentered
    obtain ⟨hremoved, hrest⟩ := List.nodup_cons.mp hdistinct
    refine ⟨_, rfl, push_consistent (fun id => ?_) hrest
      (fun other hmem => hother other (List.mem_cons_of_mem _ hmem)) hbounded, mem_push, rfl⟩
    show id ∈ (window.eventIds.insert signal.eventId).erase removed.eventId ↔ _
    rw [Std.ExtTreeSet.mem_erase, hentered]
    constructor
    · rintro ⟨hne, rfl | ⟨other, hmem, rfl⟩⟩
      · exact .inl rfl
      · rcases List.mem_cons.mp hmem with rfl | hmem
        · exact absurd Std.ReflCmp.compare_self hne
        · exact .inr ⟨other, hmem, rfl⟩
    · rintro (rfl | ⟨other, hmem, rfl⟩)
      · refine ⟨fun heq => ?_, .inl rfl⟩
        exact hother removed List.mem_cons_self (Std.compare_eq_iff_eq.mp heq)
      · refine ⟨fun heq => hremoved ?_, .inr ⟨other, List.mem_cons_of_mem _ hmem, rfl⟩⟩
        exact List.mem_map.mpr ⟨other, hmem, (Std.compare_eq_iff_eq.mp heq).symm⟩
  · rw [if_neg hfull]
    exact ⟨_, rfl, push_consistent hentered h.distinct hother (Nat.lt_of_not_le hfull),
      mem_push, rfl⟩

end Windows

-- Runs

def Stocked (monitor : TrajectoryMonitor) (windows : Windows) : Prop :=
  ∀ (key : TenantId × TaskId) (window : TaskWindow),
    windows[key]? = some window → Consistent monitor window

def Admissible (monitor : TrajectoryMonitor) (windows : Windows) (signal : RiskSignal)
    (now : DateTime) : Prop :=
  validSignal signal = true ∧ ∃ window, windows[signal.key]? = some window ∧
    (∀ other ∈ window.signals, other.eventId ≠ signal.eventId) ∧
    InClock monitor window signal now ∧ ¬ Stale monitor window signal

def Admitted (signal : RiskSignal) (before after : Windows) (answer : MonitorAnswer) : Prop :=
  ∃ window window', before[signal.key]? = some window ∧ after[signal.key]? = some window' ∧
    signal ∈ window'.signals ∧
    window'.state.eventCount = saturatingSucc window.state.eventCount ∧
    answer = .ok window'.state

/-- A refused signal changes nothing, every window stays consistent, and whatever may be admitted
is admitted. -/
structure Lawful (monitor : TrajectoryMonitor) (calls : List MonitorCall) : Prop where
  refused : ∀ event ∈ Machine.trace monitor.serve ∅ calls, ∀ signal now e,
    event.call = .consume signal now → event.answer = .error e →
      (monitor.serve event.before event.call).2 = event.before
  stocked : ∀ early late, calls = early ++ late →
    Stocked monitor (Machine.after monitor.serve ∅ early)
  admitted : ∀ event ∈ Machine.trace monitor.serve ∅ calls, ∀ signal now,
    event.call = .consume signal now → Admissible monitor event.before signal now →
      Admitted signal event.before (monitor.serve event.before event.call).2 event.answer

def WithinClock (monitor : TrajectoryMonitor) (windows : Windows) : MonitorCall → Prop
  | .consume signal now => validSignal signal = true → ∀ window,
    windows[signal.key]? = some window → signal.eventId ∉ window.eventIds →
      InClock monitor window signal now
  | .start .. => True

section Runs

variable {monitor : TrajectoryMonitor} {windows : Windows} {signal : RiskSignal} {now : DateTime}

theorem Stocked.insert {key : TenantId × TaskId} {window : TaskWindow}
    (h : Stocked monitor windows) (hwindow : Consistent monitor window) :
    Stocked monitor (windows.insert key window) := by
  intro key' window' hlookup
  rw [BTreeMap.getElem?_insert_ite] at hlookup
  split at hlookup
  · obtain rfl := Option.some.inj hlookup
    exact hwindow
  · exact h key' window' hlookup

theorem insert_same {key : TenantId × TaskId} {window : TaskWindow}
    (h : windows[key]? = some window) : windows.insert key window = windows := by
  refine Std.ExtTreeMap.ext_getElem? fun key' => ?_
  rw [BTreeMap.getElem?_insert_ite]
  split
  · rename_i heq
    rw [← heq, h]
  · rfl

theorem start_stocked (h : Stocked monitor windows) (request : StartRequest) (now : DateTime) :
    Stocked monitor (monitor.start request now windows).2 := by
  unfold TrajectoryMonitor.start
  split
  · exact h
  · split
    · split
      · exact h
      · exact h
    · split
      · exact h
      · exact h.insert (fresh_consistent request now)

theorem start_fresh {request : StartRequest}
    (hhashes : request.goalHash.utf8ByteSize = 64 ∧ request.planHash.utf8ByteSize = 64)
    (hnew : windows[(request.tenantId, request.taskId)]? = none)
    (hroom : windows.size < monitor.maximumTasks) :
    monitor.start request now windows = (.ok (TrajectoryMonitor.fresh request now).state,
      windows.insert (request.tenantId, request.taskId)
        (TrajectoryMonitor.fresh request now)) := by
  unfold TrajectoryMonitor.start
  rw [if_neg (by simp [hhashes]), hnew]
  exact if_neg (Nat.not_le.mpr hroom)

theorem consume_cases (h : Stocked monitor windows)
    (hclock : WithinClock monitor windows (.consume signal now)) :
    ((monitor.consume signal now windows).2 = windows ∧
      ¬ Admissible monitor windows signal now) ∨
    (Stocked monitor (monitor.consume signal now windows).2 ∧
      Admitted signal windows (monitor.consume signal now windows).2
        (monitor.consume signal now windows).1) := by
  unfold TrajectoryMonitor.consume
  cases hvalid : validSignal signal with
  | false => exact .inl ⟨rfl, fun hadmissible => by simp [hadmissible.1] at hvalid⟩
  | true =>
    simp only [Bool.not_true, Bool.false_eq_true, if_false]
    cases hwindow : windows[signal.key]? with
    | none =>
      refine .inl ⟨rfl, ?_⟩
      rintro ⟨-, window, hsome, -⟩
      rw [hwindow] at hsome
      cases hsome
    | some window =>
      have hconsistent := h _ _ hwindow
      dsimp only
      by_cases hknown : signal.eventId ∈ window.eventIds
      · rw [consumeInto_known hknown]
        refine .inl ⟨insert_same hwindow, ?_⟩
        rintro ⟨-, found, hfound, hnew, -⟩
        obtain rfl := Option.some.inj (hwindow.symm.trans hfound)
        obtain ⟨other, hmem, hid⟩ := (hconsistent.ids _).mp hknown
        exact hnew other hmem hid
      · have htime := hclock hvalid window hwindow hknown
        by_cases hstale : Stale monitor window signal
        · rw [consumeInto_stale hknown htime hstale]
          refine .inl ⟨insert_same hwindow, ?_⟩
          rintro ⟨-, found, hfound, -, -, hwanted⟩
          obtain rfl := Option.some.inj (hwindow.symm.trans hfound)
          exact hwanted hstale
        · obtain ⟨window', hconsumed, hwindow', hmem, hcount⟩ :=
            consumeInto_admitted hconsistent hknown htime hstale
          rw [hconsumed]
          exact .inr ⟨h.insert hwindow', window, window', hwindow, by simp, hmem, hcount, rfl⟩

theorem serve_stocked {call : MonitorCall} (h : Stocked monitor windows)
    (hclock : WithinClock monitor windows call) :
    Stocked monitor (monitor.serve windows call).2 := by
  cases call with
  | start request now => exact start_stocked h request now
  | consume signal now =>
    obtain ⟨hsame, -⟩ | ⟨hstocked, -⟩ := consume_cases h hclock
    · show Stocked monitor (monitor.consume signal now windows).2
      rwa [hsame]
    · exact hstocked

theorem consume_refused (hclock : ¬ WithinClock monitor windows (.consume signal now)) :
    ∃ e, (monitor.consume signal now windows).1 = .error e ∧
      (monitor.consume signal now windows).2 ≠ windows := by
  simp only [WithinClock, not_forall] at hclock
  obtain ⟨hvalid, window, hwindow, hnew, hrefused⟩ := hclock
  obtain ⟨e, he⟩ : ∃ e, monitor.checkClock window signal now = .error e := by
    cases hcheck : monitor.checkClock window signal now with
    | ok u => exact absurd (checkClock_eq_ok.mp hcheck) hrefused
    | error e => exact ⟨e, rfl⟩
  have hconsume : monitor.consume signal now windows = (.error e, windows.insert signal.key
      { window with eventIds := window.eventIds.insert signal.eventId }) := by
    unfold TrajectoryMonitor.consume
    simp only [hvalid, hwindow, consumeInto_refused hnew he]
    rfl
  refine ⟨e, by rw [hconsume], fun hsame => hnew ?_⟩
  rw [hconsume] at hsame
  have hlookup := congrArg (·[signal.key]?) hsame
  simp only [BTreeMap.getElem?_insert_ite, if_true, hwindow, Option.some.injEq] at hlookup
  have hids := congrArg TaskWindow.eventIds hlookup
  rw [← hids]
  exact Std.ExtTreeSet.mem_insert_self

variable {calls : List MonitorCall}

theorem stocked_empty : Stocked monitor ∅ :=
  fun key window hlookup => by simp at hlookup

theorem stocked_of_meets
    (h : Machine.Meets (fun _ => WithinClock monitor) (Machine.trace monitor.serve ∅ calls)) :
    Stocked monitor (Machine.after monitor.serve ∅ calls) :=
  Machine.Meets.invariant (I := fun _ => Stocked monitor)
    stocked_empty (fun _ _ _ h hclock => serve_stocked h hclock) h

/-- **A run is lawful exactly if no clock of a new signal is refused in it**: the identifier of such
a signal stays in its window, and the signal is never admitted. -/
theorem window_lawful_iff :
    Lawful monitor calls ↔
      Machine.Meets (fun _ => WithinClock monitor) (Machine.trace monitor.serve ∅ calls) := by
  constructor
  · intro hlawful before event rest hsplit
    have hmem : event ∈ Machine.trace monitor.serve ∅ calls := by
      rw [hsplit]
      exact List.mem_append_cons_self
    have hanswer := Machine.answer_of_mem hmem
    cases hcall : event.call with
    | start request now => trivial
    | consume signal now =>
      by_contra hclock
      obtain ⟨e, herror, hchanged⟩ := consume_refused hclock
      rw [hcall] at hanswer
      have hsame := hlawful.refused event hmem signal now e hcall (hanswer.trans herror)
      rw [hcall] at hsame
      exact hchanged hsame
  · intro hmeets
    have hcases : ∀ event ∈ Machine.trace monitor.serve ∅ calls,
        Stocked monitor event.before ∧ WithinClock monitor event.before event.call ∧
          event.answer = (monitor.serve event.before event.call).1 := by
      intro event hmem
      obtain ⟨before, rest, hsplit⟩ := List.append_of_mem hmem
      refine ⟨?_, hmeets before event rest hsplit, Machine.answer_of_mem hmem⟩
      exact Machine.Meets.always (I := fun _ => Stocked monitor) stocked_empty
        (fun _ _ _ h hclock => serve_stocked h hclock) hmeets hsplit
    refine ⟨fun event hmem signal now e hcall herror => ?_, ?_,
      fun event hmem signal now hcall hadmissible => ?_⟩
    · obtain ⟨hstocked, hclock, hanswer⟩ := hcases event hmem
      rw [hcall] at hclock hanswer ⊢
      obtain ⟨hsame, -⟩ | ⟨-, window, window', -, -, -, -, hok⟩ := consume_cases hstocked hclock
      · exact hsame
      · exact nomatch (herror.symm.trans (hanswer.trans hok))
    · rintro early late rfl
      rw [Machine.trace_append] at hmeets
      exact stocked_of_meets hmeets.left
    · obtain ⟨hstocked, hclock, hanswer⟩ := hcases event hmem
      rw [hcall] at hclock hanswer ⊢
      obtain ⟨-, hnot⟩ | ⟨-, hadmitted⟩ := consume_cases hstocked hclock
      · exact absurd hadmissible hnot
      · rw [hanswer]
        exact hadmitted

end Runs

-- A refused signal

def sampleMonitor : TrajectoryMonitor where
  maximumTasks := 1
  maximumSignalsPerTask := 2
  maximumClockSkew := 10
  someTask := by decide
  someSignal := by decide
  skewNonneg := by decide

def sampleStart : StartRequest where
  tenantId := "tenant-1"
  taskId := "task-1"
  goalHash := "aaaaaaaaaaaaaaaaaaaaaaaaaaaaaaaaaaaaaaaaaaaaaaaaaaaaaaaaaaaaaaaa"
  planHash := "bbbbbbbbbbbbbbbbbbbbbbbbbbbbbbbbbbbbbbbbbbbbbbbbbbbbbbbbbbbbbbbb"
  allowedResourcePrefixes := ∅
  allowedNetworkDestinations := ∅

def sampleSignal : RiskSignal where
  schemaVersion := anomalySchemaVersion
  eventId := "event-1"
  tenantId := "tenant-1"
  taskId := "task-1"
  agentInstanceId := "agent-1"
  kind := .tool
  action := "READ"
  resource := "repo://allowed/a"
  resourceClass := "repository"
  value := .null
  confidenceMillionths := 1000000
  sourceVersion := "1.0.0"
  occurredAt := 100

/-- A signal from a clock that is ahead, presented again when the time has come: it is refused, and
then taken for a repetition, though it never was in the window. -/
theorem refused_signal_remembered :
    ¬ Lawful sampleMonitor
      [.start sampleStart 0, .consume sampleSignal 0, .consume sampleSignal 100] := by
  intro hlawful
  have hstarted : (sampleMonitor.serve ∅ (.start sampleStart 0)).2 =
      (∅ : Windows).insert sampleSignal.key (TrajectoryMonitor.fresh sampleStart 0) := by
    have hhashes : sampleStart.goalHash.utf8ByteSize = 64 ∧
        sampleStart.planHash.utf8ByteSize = 64 := by decide
    have hfresh : sampleMonitor.start sampleStart 0 ∅ = _ :=
      start_fresh hhashes (by simp) (by simp [sampleMonitor])
    exact congrArg Prod.snd hfresh
  have hclock : ¬ WithinClock sampleMonitor (sampleMonitor.serve ∅ (.start sampleStart 0)).2
      (.consume sampleSignal 0) := by
    rw [hstarted]
    intro hwithin
    obtain ⟨earliest, latest, -, hlatest, -, hlate⟩ :=
      hwithin (by decide) (TrajectoryMonitor.fresh sampleStart 0) (by simp)
        (by simp [TrajectoryMonitor.fresh])
    have hten : DateTime.add 0 sampleMonitor.maximumClockSkew = some 10 := by decide
    obtain rfl := Option.some.inj (hten.symm.trans hlatest)
    exact absurd hlate (by decide)
  obtain ⟨e, herror, hchanged⟩ := consume_refused hclock
  exact hchanged (hlawful.refused
    ⟨(sampleMonitor.serve ∅ (.start sampleStart 0)).2, .consume sampleSignal 0, _⟩
    (.tail _ (.head _)) sampleSignal 0 e rfl herror)

end AgentSphere.Anomaly
