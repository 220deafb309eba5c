import AgentSphere.Anomaly.Detection
import AgentSphere.Lib.Latest

/-!
# The order of arrivals

A window drops its oldest signal before the new one is put in its place, and forgets the identifier
of the dropped one, so that a signal that arrives once more may be looked at as if it were new. For
signals of different times that are all in time this does not matter: in whatever order they arrive,
and however often, the window holds the latest of them, and a detector finds the same.
-/

namespace AgentSphere.Anomaly

open BoundedWindow (Latest)
open Concurrency

structure Telling (key : TenantId × TaskId) (signals : List RiskSignal) : Prop where
  valid : ∀ signal ∈ signals, validSignal signal = true
  ofTask : ∀ signal ∈ signals, signal.key = key
  ids : (signals.map (·.eventId)).Nodup
  times : (signals.map (·.occurredAt)).Nodup

structure Arrive (monitor : TrajectoryMonitor) (window : TaskWindow) (signals : List RiskSignal)
    (arrivals : List (RiskSignal × DateTime)) : Prop where
  all : ∀ signal ∈ signals, signal ∈ arrivals.map Prod.fst
  only : ∀ arrival ∈ arrivals, arrival.1 ∈ signals
  inClock : ∀ arrival ∈ arrivals, InClock monitor window arrival.1 arrival.2

def arrived (arrivals : List (RiskSignal × DateTime)) : Set RiskSignal :=
  {signal | signal ∈ arrivals.map Prod.fst}

def arrivalCalls (arrivals : List (RiskSignal × DateTime)) : List MonitorCall :=
  arrivals.map fun arrival => .consume arrival.1 arrival.2

def latest (monitor : TrajectoryMonitor) (signals : List RiskSignal) : List RiskSignal :=
  (signals.insertionSort occursBefore).drop (signals.length - monitor.maximumSignalsPerTask)

-- One arrival

def TaskWindow.makeRoom (monitor : TrajectoryMonitor) (window : TaskWindow) : TaskWindow :=
  if monitor.maximumSignalsPerTask ≤ window.signals.length then window.dropOldest else window

def SameTask (state state' : TrajectoryState) : Prop :=
  ∃ eventCount lastSeenAt, state' = { state with eventCount, lastSeenAt }

section Arrival

variable {monitor : TrajectoryMonitor} {window : TaskWindow} {signal : RiskSignal} {now : DateTime}
  {state : TrajectoryState} {signals : List RiskSignal} {seen : Set RiskSignal}
  {key : TenantId × TaskId}

theorem consumeInto_wanted (hnew : signal.eventId ∉ window.eventIds)
    (hclock : InClock monitor window signal now) (hwanted : ¬ Stale monitor window signal) :
    (monitor.consumeInto window signal now).2 =
      (({ window with eventIds := window.eventIds.insert signal.eventId } : TaskWindow).makeRoom
        monitor).push signal := by
  unfold TrajectoryMonitor.consumeInto TaskWindow.makeRoom
  rw [if_neg (not_contains hnew), checkClock_eq_ok.mpr hclock]
  dsimp only
  by_cases hfull : monitor.maximumSignalsPerTask ≤ window.signals.length
  · have hlater : ¬ window.isBefore signal = true :=
      fun hbefore => hwanted ⟨hfull, isBefore_iff.mp hbefore⟩
    rw [if_pos hfull, if_pos hfull, if_neg hlater]
  · rw [if_neg hfull, if_neg hfull]

structure Follows (monitor : TrajectoryMonitor) (state : TrajectoryState) (seen : Set RiskSignal)
    (window : TaskWindow) : Prop where
  consistent : Consistent monitor window
  latest : Latest (·.occurredAt) monitor.maximumSignalsPerTask seen window.signals
  sameTask : SameTask state window.state

theorem SameTask.trans {state' state'' : TrajectoryState} (h : SameTask state state')
    (h' : SameTask state' state'') : SameTask state state'' := by
  obtain ⟨_, _, rfl⟩ := h
  obtain ⟨eventCount, lastSeenAt, rfl⟩ := h'
  exact ⟨eventCount, lastSeenAt, rfl⟩

theorem dropOldest_signals : window.dropOldest.signals = window.signals.tail := by
  unfold TaskWindow.dropOldest
  cases hsignals : window.signals with
  | nil => exact hsignals
  | cons removed signals => rfl

theorem dropOldest_state : window.dropOldest.state = window.state := by
  unfold TaskWindow.dropOldest
  cases window.signals with
  | nil => rfl
  | cons removed signals => rfl

theorem sameTask_push {ids : BTreeSet String} :
    SameTask window.state
      ((({ window with eventIds := ids } : TaskWindow).makeRoom monitor).push signal).state := by
  have hstate : (({ window with eventIds := ids } : TaskWindow).makeRoom monitor).state =
      window.state := by
    unfold TaskWindow.makeRoom
    split_ifs
    · exact dropOldest_state
    · rfl
  refine ⟨saturatingSucc window.state.eventCount, max window.state.lastSeenAt signal.occurredAt, ?_⟩
  rw [TaskWindow.push, hstate]

theorem InClock.of_sameTask {window' : TaskWindow} (h : InClock monitor window signal now)
    (hstate : SameTask window.state window'.state) : InClock monitor window' signal now := by
  obtain ⟨eventCount, lastSeenAt, hstate⟩ := hstate
  rw [InClock, hstate]
  exact h

theorem push_perm (window : TaskWindow) (signal : RiskSignal) :
    (window.push signal).signals.Perm (signal :: window.signals) :=
  (List.perm_insertionSort ..).trans (List.perm_append_singleton ..)

theorem push_sorted (hseen : ∀ other ∈ signal :: window.signals, other ∈ signals)
    (htimes : (signals.map (·.occurredAt)).Nodup) (hnodup : (signal :: window.signals).Nodup) :
    (window.push signal).signals.Pairwise fun a b => a.occurredAt < b.occurredAt := by
  refine BoundedWindow.strict_of_distinct (List.pairwise_insertionSort ..) ?_
  refine ((push_perm window signal).map _).nodup_iff.mpr (hnodup.map_on ?_)
  intro a ha b hb heq
  exact List.inj_on_of_nodup_map htimes (hseen a ha) (hseen b hb) heq

theorem latest_admitted (h : Latest (·.occurredAt) monitor.maximumSignalsPerTask seen window.signals)
    (hseen : ∀ other ∈ signal :: window.signals, other ∈ signals)
    (htimes : (signals.map (·.occurredAt)).Nodup) (hnew : signal ∉ window.signals)
    (hwanted : ¬ Stale monitor window signal) :
    Latest (·.occurredAt) monitor.maximumSignalsPerTask (insert signal seen)
      ((window.makeRoom monitor).push signal).signals := by
  have hnodup : (signal :: window.signals).Nodup := List.nodup_cons.mpr ⟨hnew, h.nodup⟩
  unfold TaskWindow.makeRoom
  by_cases hfull : monitor.maximumSignalsPerTask ≤ window.signals.length
  · rw [if_pos hfull]
    obtain ⟨oldest, rest, hwindow⟩ : ∃ oldest rest, window.signals = oldest :: rest := by
      refine List.exists_cons_of_length_pos (Nat.pos_of_ne_zero fun hzero => ?_)
      exact monitor.someSignal (Nat.le_zero.mp (hzero ▸ hfull))
    have hdropped : window.dropOldest.signals = rest := by
      rw [dropOldest_signals, hwindow, List.tail_cons]
    have hlater : oldest.occurredAt < signal.occurredAt := by
      refine Int.not_le.mp fun hbefore => hwanted ⟨hfull, oldest, ?_, hbefore⟩
      rw [hwindow]
      rfl
    have hperm := push_perm window.dropOldest signal
    rw [hdropped] at hperm
    have hlength := le_antisymm h.bounded hfull
    have hsub : (signal :: rest).Sublist (signal :: window.signals) := by
      rw [hwindow]
      exact (List.sublist_cons_self oldest rest).cons_cons signal
    rw [← hdropped] at hsub
    rw [hwindow] at h hlength
    exact h.exchanged hlength hlater hperm
      (push_sorted (fun other hmem => hseen other (hsub.subset hmem)) htimes (hsub.nodup hnodup))
  · rw [if_neg hfull]
    exact h.entered (Nat.lt_of_not_le hfull) (push_perm window signal)
      (push_sorted hseen htimes hnodup)

/-- **One arrival**: the window has the latest of the signals that have arrived. -/
theorem Follows.step (h : Follows monitor state seen window) (hsignals : Telling key signals)
    (hseen : ∀ other ∈ seen, other ∈ signals) (hsignal : signal ∈ signals)
    (hclock : InClock monitor window signal now) :
    Follows monitor state (insert signal seen) (monitor.consumeInto window signal now).2 := by
  have hold : ∀ other ∈ window.signals, other ∈ signals :=
    fun other hmem => hseen other (h.latest.subset other hmem)
  by_cases hknown : signal.eventId ∈ window.eventIds
  · obtain ⟨other, hmem, hid⟩ := (h.consistent.ids _).mp hknown
    obtain rfl : other = signal := List.inj_on_of_nodup_map hsignals.ids (hold other hmem) hsignal hid
    rw [consumeInto_known hknown]
    exact ⟨h.consistent, h.latest.known hmem, h.sameTask⟩
  · have hnew : signal ∉ window.signals :=
      fun hmem => hknown ((h.consistent.ids _).mpr ⟨signal, hmem, rfl⟩)
    have hother : ∀ other ∈ window.signals, other.occurredAt ≠ signal.occurredAt := by
      rintro other hmem heq
      obtain rfl := List.inj_on_of_nodup_map hsignals.times (hold other hmem) hsignal heq
      exact hnew hmem
    by_cases hstale : Stale monitor window signal
    · rw [consumeInto_stale hknown hclock hstale]
      obtain ⟨hfull, oldest, holdest, hbefore⟩ := hstale
      refine ⟨h.consistent, h.latest.stale (le_antisymm h.latest.bounded hfull) ?_, h.sameTask⟩
      obtain ⟨rest, hwindow⟩ := List.head?_eq_some_iff.mp holdest
      have hsorted := h.latest.sorted
      rw [hwindow] at hsorted hother ⊢
      have hfirst : signal.occurredAt < oldest.occurredAt :=
        lt_of_le_of_ne hbefore (hother oldest List.mem_cons_self).symm
      intro other hmem
      obtain rfl | hmem := List.mem_cons.mp hmem
      · exact hfirst
      · exact hfirst.trans ((List.pairwise_cons.mp hsorted).1 other hmem)
    · obtain ⟨window', hconsumed, hconsistent, -⟩ :=
        consumeInto_admitted h.consistent hknown hclock hstale
      have hwindow' : (monitor.consumeInto window signal now).2 = window' :=
        congrArg Prod.snd hconsumed
      rw [← hwindow'] at hconsistent
      have hadmitted := consumeInto_wanted hknown hclock hstale
      refine ⟨hconsistent, ?_, ?_⟩
      · rw [hadmitted]
        exact latest_admitted h.latest (List.forall_mem_cons.mpr ⟨hsignal, hold⟩) hsignals.times
          hnew hstale
      · rw [hadmitted]
        exact h.sameTask.trans sameTask_push

theorem fresh_follows (request : StartRequest) (now : DateTime) :
    Follows monitor (TrajectoryMonitor.fresh request now).state ∅
      (TrajectoryMonitor.fresh request now) where
  consistent := fresh_consistent request now
  latest := .nil
  sameTask := ⟨_, _, rfl⟩

end Arrival

section Arrivals

variable {monitor : TrajectoryMonitor} {windows : Windows} {window : TaskWindow}
  {request : StartRequest} {started : DateTime} {signals : List RiskSignal}
  {arrivals arrivals' : List (RiskSignal × DateTime)}

theorem arrived_nil : arrived [] = ∅ :=
  Set.eq_empty_of_forall_notMem fun _ => List.not_mem_nil

theorem arrived_snoc {signal : RiskSignal} {now : DateTime} :
    arrived (arrivals ++ [(signal, now)]) = insert signal (arrived arrivals) := by
  ext other
  show other ∈ (arrivals ++ [(signal, now)]).map Prod.fst ↔ _
  rw [List.map_append, List.mem_append, Set.mem_insert_iff, or_comm]
  exact or_congr_left List.mem_singleton

theorem consume_window {signal : RiskSignal} {now : DateTime} (hvalid : validSignal signal = true)
    (hwindow : windows[signal.key]? = some window) :
    (monitor.serve windows (.consume signal now)).2[signal.key]? =
      some (monitor.consumeInto window signal now).2 := by
  show (monitor.consume signal now windows).2[signal.key]? = _
  rw [TrajectoryMonitor.consume, hvalid, hwindow]
  simp only [Bool.not_true, Bool.false_eq_true, if_false, BTreeMap.getElem?_insert_ite, if_true]

theorem follows_arrivals {key : TenantId × TaskId} (hsignals : Telling key signals)
    (hfollows : Follows monitor window.state ∅ window) (hwindow : windows[key]? = some window)
    (honly : ∀ arrival ∈ arrivals, arrival.1 ∈ signals)
    (hclock : ∀ arrival ∈ arrivals, InClock monitor window arrival.1 arrival.2) :
    ∃ window', (Machine.after monitor.serve windows (arrivalCalls arrivals))[key]? = some window' ∧
      Follows monitor window.state (arrived arrivals) window' := by
  induction arrivals using List.reverseRecOn with
  | nil =>
    rw [arrived_nil]
    exact ⟨window, hwindow, hfollows⟩
  | append_singleton arrivals arrival ih =>
    obtain ⟨signal, now⟩ := arrival
    obtain ⟨honlyBefore, honlyLast⟩ := List.forall_mem_append.mp honly
    obtain ⟨hclockBefore, hclockLast⟩ := List.forall_mem_append.mp hclock
    obtain ⟨window', hlookup, hbefore⟩ := ih honlyBefore hclockBefore
    have hsignal : signal ∈ signals := honlyLast _ List.mem_cons_self
    have hkey : signal.key = key := hsignals.ofTask signal hsignal
    have hseen : ∀ other ∈ arrived arrivals, other ∈ signals := by
      intro other hmem
      obtain ⟨earlier, hearlier, rfl⟩ := List.mem_map.mp hmem
      exact honlyBefore earlier hearlier
    have hinClock : InClock monitor window' signal now :=
      (hclockLast _ List.mem_cons_self).of_sameTask hbefore.sameTask
    refine ⟨(monitor.consumeInto window' signal now).2, ?_, ?_⟩
    · rw [arrivalCalls, List.map_append, List.map_singleton, Machine.after_snoc, ← hkey]
      rw [← hkey] at hlookup
      exact consume_window (hsignals.valid signal hsignal) hlookup
    · rw [arrived_snoc]
      exact hbefore.step hsignals hseen hsignal hinClock

/-- **The window after all arrivals** holds the latest signals. -/
theorem window_of_arrivals
    (hstarted : windows[(request.tenantId, request.taskId)]? =
      some (TrajectoryMonitor.fresh request started))
    (hsignals : Telling (request.tenantId, request.taskId) signals)
    (harrive : Arrive monitor (TrajectoryMonitor.fresh request started) signals arrivals) :
    ∃ window, (Machine.after monitor.serve windows (arrivalCalls arrivals))[
        (request.tenantId, request.taskId)]? = some window ∧
      window.signals = latest monitor signals ∧
      SameTask (TrajectoryMonitor.fresh request started).state window.state := by
  obtain ⟨window, hwindow, hfollows⟩ := follows_arrivals hsignals (fresh_follows request started)
    hstarted harrive.only harrive.inClock
  have hseen : arrived arrivals = {signal | signal ∈ signals} := by
    ext signal
    constructor
    · intro hmem
      obtain ⟨arrival, harrival, rfl⟩ := List.mem_map.mp hmem
      exact harrive.only arrival harrival
    · exact harrive.all signal
  have hlatest := hfollows.latest
  rw [hseen] at hlatest
  exact ⟨window, hwindow, hlatest.unique (BoundedWindow.latest_drop hsignals.times
    (List.perm_insertionSort ..) (List.pairwise_insertionSort ..)), hfollows.sameTask⟩

theorem reported_sameTask {detector : RuleDetector} {draw draw' : Nat → String}
    {state state' : TrajectoryState} (h : SameTask state state') :
    reported (detector.evaluate draw' state' signals) =
      reported (detector.evaluate draw state signals) := by
  obtain ⟨eventCount, lastSeenAt, rfl⟩ := h
  rw [reported_evaluate, reported_evaluate]
  rfl

/-- **Two orders of arrival**, with any signals repeated in them, lead to the same window and to the
same findings. -/
theorem detection_of_arrivals
    (hstarted : windows[(request.tenantId, request.taskId)]? =
      some (TrajectoryMonitor.fresh request started))
    (hsignals : Telling (request.tenantId, request.taskId) signals)
    (harrive : Arrive monitor (TrajectoryMonitor.fresh request started) signals arrivals)
    (harrive' : Arrive monitor (TrajectoryMonitor.fresh request started) signals arrivals') :
    ∃ window window',
      (Machine.after monitor.serve windows (arrivalCalls arrivals))[
        (request.tenantId, request.taskId)]? = some window ∧
      (Machine.after monitor.serve windows (arrivalCalls arrivals'))[
        (request.tenantId, request.taskId)]? = some window' ∧
      window.signals = latest monitor signals ∧ window'.signals = latest monitor signals ∧
      ∀ (detector : RuleDetector) (draw draw' : Nat → String),
        reported (detector.evaluate draw window.state window.signals) =
          reported (detector.evaluate draw' window'.state window'.signals) := by
  obtain ⟨window, hwindow, hlatest, hstate⟩ := window_of_arrivals hstarted hsignals harrive
  obtain ⟨window', hwindow', hlatest', hstate'⟩ := window_of_arrivals hstarted hsignals harrive'
  refine ⟨window, window', hwindow, hwindow', hlatest, hlatest', fun detector draw draw' => ?_⟩
  have hfound : reported (detector.evaluate draw window.state (latest monitor signals)) =
      reported (detector.evaluate draw (TrajectoryMonitor.fresh request started).state
        (latest monitor signals)) := reported_sameTask hstate
  have hfound' : reported (detector.evaluate draw' window'.state (latest monitor signals)) =
      reported (detector.evaluate draw (TrajectoryMonitor.fresh request started).state
        (latest monitor signals)) := reported_sameTask hstate'
  rw [hlatest, hlatest', hfound, hfound']

end Arrivals

def signalAt (eventId : String) (occurredAt : DateTime) : RiskSignal :=
  { sampleSignal with eventId, occurredAt }

def startedWindows : Windows :=
  (∅ : Windows).insert (sampleStart.tenantId, sampleStart.taskId)
    (TrajectoryMonitor.fresh sampleStart 0)

/-- Three signals for a window of two: the first one is dropped, or turned away, or both. -/
theorem three_arrivals :
    ∃ window window',
      (Machine.after sampleMonitor.serve startedWindows (arrivalCalls
        [(signalAt "event-3" 3, 5), (signalAt "event-1" 1, 5), (signalAt "event-2" 2, 6),
          (signalAt "event-1" 1, 7)]))[(sampleStart.tenantId, sampleStart.taskId)]? =
        some window ∧
      (Machine.after sampleMonitor.serve startedWindows (arrivalCalls
        [(signalAt "event-2" 2, 5), (signalAt "event-3" 3, 5), (signalAt "event-1" 1, 5)]))[
          (sampleStart.tenantId, sampleStart.taskId)]? = some window' ∧
      window.signals = latest sampleMonitor
        [signalAt "event-1" 1, signalAt "event-2" 2, signalAt "event-3" 3] ∧
      window'.signals = latest sampleMonitor
        [signalAt "event-1" 1, signalAt "event-2" 2, signalAt "event-3" 3] ∧
      ∀ (detector : RuleDetector) (draw draw' : Nat → String),
        reported (detector.evaluate draw window.state window.signals) =
          reported (detector.evaluate draw' window'.state window'.signals) := by
  have hclock : ∀ (occurredAt now : DateTime), -10 ≤ occurredAt → occurredAt ≤ now + 10 →
      DateTime.add now 10 = some (now + 10) → ∀ eventId,
      InClock sampleMonitor (TrajectoryMonitor.fresh sampleStart 0) (signalAt eventId occurredAt)
        now :=
    fun occurredAt now hearly hlate hadd eventId => ⟨-10, now + 10, by decide, hadd, hearly, hlate⟩
  have hstarted : startedWindows[(sampleStart.tenantId, sampleStart.taskId)]? =
      some (TrajectoryMonitor.fresh sampleStart 0) := Std.ExtTreeMap.getElem?_insert_self
  refine detection_of_arrivals hstarted ⟨by decide, by decide, by decide, by decide⟩
    ⟨by decide, by decide, ?_⟩ ⟨by decide, by decide, ?_⟩
  · simp only [List.forall_mem_cons]
    exact ⟨hclock 3 5 (by decide) (by decide) (by decide) _,
      hclock 1 5 (by decide) (by decide) (by decide) _,
      hclock 2 6 (by decide) (by decide) (by decide) _,
      hclock 1 7 (by decide) (by decide) (by decide) _, List.forall_mem_nil _⟩
  · simp only [List.forall_mem_cons]
    exact ⟨hclock 2 5 (by decide) (by decide) (by decide) _,
      hclock 3 5 (by decide) (by decide) (by decide) _,
      hclock 1 5 (by decide) (by decide) (by decide) _, List.forall_mem_nil _⟩

end AgentSphere.Anomaly
