import AgentSphere.Gateway.Idempotency
import AgentSphere.Lib.Machine

/-!
# Rate limit of the gateway

The gateway counts the calls of a tenant in a window that starts with a call and is replaced by
the first call after its minute. A tenant can therefore use up one window at its end and the next
one at its start, so that a minute holds up to twice the limit, and never more. Every check runs
under one lock; a call carries the clock readings it makes.
-/

namespace AgentSphere.Gateway

open Concurrency

/-- `Duration::from_secs(60)`, in nanoseconds. -/
def minute : Nat := 60000000000

structure RateWindow where
  started : Nat
  count : UInt32
  deriving DecidableEq, Repr

abbrev RateWindows := BTreeMap TenantId RateWindow

structure RateCall where
  tenant : TenantId
  insertedAt : Nat
  elapsedAt : Nat
  restartedAt : Nat
  deriving DecidableEq, Repr

def currentWindow (windows : RateWindows) (call : RateCall) : RateWindow :=
  let window := windows[call.tenant]?.getD ⟨call.insertedAt, 0⟩
  if minute ≤ Instant.elapsed window.started call.elapsedAt then ⟨call.restartedAt, 0⟩ else window

def checkRate (perTenantRequestsPerMinute : UInt32) (windows : RateWindows) (call : RateCall) :
    Except GatewayError Unit × RateWindows :=
  let window := currentWindow windows call
  if perTenantRequestsPerMinute ≤ window.count then
    (.error .rateLimited, windows.insert call.tenant window)
  else (.ok (), windows.insert call.tenant { window with count := window.count + 1 })

abbrev RateEvent := Served RateWindows RateCall (Except GatewayError Unit)

def acceptedFor (tenant : TenantId) (event : RateEvent) : Option Nat :=
  if event.call.tenant = tenant ∧ event.answer = .ok () then some event.call.elapsedAt else none

def acceptedAt (tenant : TenantId) (events : List RateEvent) : List Nat :=
  events.filterMap (acceptedFor tenant)

def RateTimed (calls : List RateCall) : Prop :=
  (∀ call ∈ calls, call.insertedAt ≤ call.elapsedAt ∧ call.elapsedAt ≤ call.restartedAt) ∧
    calls.Pairwise fun call later => call.restartedAt ≤ later.insertedAt

instance (calls : List RateCall) : Decidable (RateTimed calls) :=
  inferInstanceAs (Decidable (_ ∧ _))

def countFrom (start : Nat) (instants : List Nat) : Nat :=
  instants.countP fun instant => start ≤ instant

section Calls

variable {limit : UInt32} {windows : RateWindows} {call : RateCall} {tenant : TenantId}
  {events : List RateEvent} {start : Nat} {instants : List Nat}

theorem countFrom_concat (instant : Nat) :
    countFrom start (instants ++ [instant]) =
      countFrom start instants + if start ≤ instant then 1 else 0 := by
  rw [countFrom, List.countP_append, List.countP_singleton]
  simp [countFrom]

theorem countFrom_eq_zero (h : ∀ instant ∈ instants, instant < start) :
    countFrom start instants = 0 :=
  List.countP_eq_zero.mpr fun instant hmem => by simpa using h instant hmem

theorem countFrom_anti {start' : Nat} (h : start ≤ start') :
    countFrom start' instants ≤ countFrom start instants := by
  refine List.countP_mono_left fun instant _ hle => ?_
  have hle := of_decide_eq_true hle
  exact decide_eq_true (h.trans hle)

/-- The window of the tenant is examined: it is the one that was there, within its minute, or it
starts anew, with no call, when there was none or its minute is over. -/
theorem currentWindow_cases (windows : RateWindows) (call : RateCall) :
    (∃ window, windows[call.tenant]? = some window ∧ call.elapsedAt < window.started + minute ∧
      currentWindow windows call = window) ∨
    ((currentWindow windows call).count = 0 ∧
      (windows[call.tenant]? = none ∨ ∃ window, windows[call.tenant]? = some window ∧
        window.started + minute ≤ call.elapsedAt ∧
        (currentWindow windows call).started = call.restartedAt) ∧
      (call.insertedAt ≤ call.elapsedAt → call.elapsedAt ≤ call.restartedAt →
        call.elapsedAt < (currentWindow windows call).started + minute)) := by
  unfold currentWindow
  cases hfound : windows[call.tenant]? with
  | none =>
    right
    simp only [Option.getD_none]
    split_ifs with hold
    · refine ⟨rfl, .inl trivial, fun _ hlate => ?_⟩
      show call.elapsedAt < call.restartedAt + minute
      rw [minute]
      omega
    · refine ⟨rfl, .inl trivial, fun hearly _ => ?_⟩
      rw [Instant.elapsed] at hold
      show call.elapsedAt < call.insertedAt + minute
      omega
  | some window =>
    simp only [Option.getD_some]
    split_ifs with hold
    · rw [Instant.elapsed, minute] at hold
      refine .inr ⟨rfl, .inr ⟨window, rfl, ?_, rfl⟩, fun _ hlate => ?_⟩
      · rw [minute]
        omega
      · show call.elapsedAt < call.restartedAt + minute
        rw [minute]
        omega
    · rw [Instant.elapsed] at hold
      exact .inl ⟨window, rfl, by omega, rfl⟩

theorem checkRate_cases (limit : UInt32) (windows : RateWindows) (call : RateCall) :
    (limit ≤ (currentWindow windows call).count ∧ checkRate limit windows call =
      (.error .rateLimited, windows.insert call.tenant (currentWindow windows call))) ∨
    ((currentWindow windows call).count < limit ∧ checkRate limit windows call =
      (.ok (), windows.insert call.tenant
        { currentWindow windows call with count := (currentWindow windows call).count + 1 })) := by
  unfold checkRate
  simp only
  split_ifs with hfull
  · exact .inl ⟨hfull, rfl⟩
  · exact .inr ⟨UInt32.not_le.mp hfull, rfl⟩

theorem toNat_count_succ {count : UInt32} (h : count < limit) :
    count.toNat + 1 < 2 ^ 32 ∧ (count + 1).toNat = count.toNat + 1 := by
  have hlt : count.toNat < limit.toNat := UInt32.lt_iff_toNat_lt.mp h
  have hbound := limit.toNat_lt
  refine ⟨by omega, ?_⟩
  rw [UInt32.toNat_add, UInt32.toNat_one]
  exact Nat.mod_eq_of_lt (by omega)

-- Runs

def countInMinute (start : Nat) (instants : List Nat) : Nat :=
  instants.countP fun instant => start ≤ instant ∧ instant ≤ start + minute

theorem countInMinute_le : countInMinute start instants ≤ countFrom start instants := by
  refine List.countP_mono_left fun instant _ hin => ?_
  exact decide_eq_true (of_decide_eq_true hin).1

theorem countInMinute_concat (instant : Nat) :
    countInMinute start (instants ++ [instant]) =
      countInMinute start instants +
        if start ≤ instant ∧ instant ≤ start + minute then 1 else 0 := by
  rw [countInMinute, List.countP_append, List.countP_singleton]
  simp [countInMinute]

/-- The accepted instants against a window: all are before its end, its count covers those from
its start on, and together with one full window those from any start whose minute is reached. -/
structure WindowHolds (limit : UInt32) (instants : List Nat) (reached : Nat → Prop)
    (window : RateWindow) : Prop where
  count : window.count ≤ limit
  before : ∀ instant ∈ instants, instant < window.started + minute
  own : countFrom window.started instants ≤ window.count.toNat
  recent : ∀ start, reached start →
    countFrom start instants ≤ limit.toNat + window.count.toNat

theorem WindowHolds.mono {reached reached' : Nat → Prop} {window : RateWindow}
    (h : WindowHolds limit instants reached window)
    (hle : ∀ start, reached' start → reached start) :
    WindowHolds limit instants reached' window :=
  ⟨h.count, h.before, h.own, fun start hreached => h.recent start (hle start hreached)⟩

theorem WindowHolds.concat {reached : Nat → Prop} {window : RateWindow}
    (h : WindowHolds limit instants reached window) (hroom : window.count < limit)
    {instant : Nat} (hinstant : instant < window.started + minute) :
    WindowHolds limit (instants ++ [instant]) reached
      { window with count := window.count + 1 } := by
  obtain ⟨-, hsucc⟩ := toNat_count_succ hroom
  have hlt := UInt32.lt_iff_toNat_lt.mp hroom
  refine ⟨UInt32.le_iff_toNat_le.mpr (by rw [hsucc]; exact hlt), ?_, ?_, ?_⟩
  · intro earlier hearlier
    obtain hearlier | hearlier := List.mem_append.mp hearlier
    · exact h.before earlier hearlier
    · exact List.mem_singleton.mp hearlier ▸ hinstant
  · have hown := h.own
    show countFrom window.started (instants ++ [instant]) ≤ (window.count + 1).toNat
    rw [countFrom_concat, hsucc]
    split_ifs <;> omega
  · intro start hreached
    have hrecent := h.recent start hreached
    rw [countFrom_concat, hsucc]
    split_ifs <;> omega

structure Windowed (limit : UInt32) (tenant : TenantId) (events : List RateEvent)
    (windows : RateWindows) : Prop where
  absent : windows[tenant]? = none → acceptedAt tenant events = []
  window : ∀ window, windows[tenant]? = some window →
    WindowHolds limit (acceptedAt tenant events)
      (fun start => ∀ event ∈ events, event.call.restartedAt ≤ start + minute) window
  minute : ∀ start, countInMinute start (acceptedAt tenant events) ≤ 2 * limit.toNat

def Follows (events : List RateEvent) (call : RateCall) : Prop :=
  call.insertedAt ≤ call.elapsedAt ∧ call.elapsedAt ≤ call.restartedAt ∧
    ∀ event ∈ events, event.call.restartedAt ≤ call.insertedAt

theorem Windowed.current (h : Windowed limit call.tenant events windows)
    (hfollows : Follows events call) :
    WindowHolds limit (acceptedAt call.tenant events)
        (fun start => call.elapsedAt ≤ start + Gateway.minute) (currentWindow windows call) ∧
      call.elapsedAt < (currentWindow windows call).started + Gateway.minute := by
  obtain ⟨hearly, hlate, hevents⟩ := hfollows
  obtain ⟨window, hfound, hopen, heq⟩ | ⟨hzero, hfresh, hopen⟩ := currentWindow_cases windows call
  · rw [heq]
    refine ⟨(h.window window hfound).mono fun start hreached event hevent => ?_, hopen⟩
    exact (hevents event hevent).trans (hearly.trans hreached)
  · refine ⟨?_, hopen hearly hlate⟩
    obtain habsent | ⟨window, hfound, hover, hstarted⟩ := hfresh
    · rw [h.absent habsent]
      exact ⟨by rw [hzero]; exact UInt32.zero_le, nofun, Nat.zero_le _,
        fun _ _ => Nat.zero_le _⟩
    · have hwindow := h.window window hfound
      have hbefore : ∀ instant ∈ acceptedAt call.tenant events, instant < call.restartedAt :=
        fun instant hmem =>
          (hwindow.before instant hmem).trans_le (hover.trans hlate)
      refine ⟨by rw [hzero]; exact UInt32.zero_le, ?_, ?_, ?_⟩
      · intro instant hmem
        rw [hstarted]
        exact (hbefore instant hmem).trans_le (Nat.le_add_right _ _)
      · rw [hstarted, countFrom_eq_zero hbefore]
        exact Nat.zero_le _
      · intro start hreached
        -- the minute before this call does not reach back behind the window that is over
        have hstart : window.started ≤ start := by omega
        have hcount := UInt32.le_iff_toNat_le.mp hwindow.count
        have hown := (countFrom_anti hstart).trans hwindow.own
        omega

theorem acceptedAt_other {answer : Except GatewayError Unit} (hother : call.tenant ≠ tenant) :
    acceptedAt tenant (events ++ [⟨windows, call, answer⟩]) = acceptedAt tenant events := by
  simp [acceptedAt, acceptedFor, hother]

theorem acceptedAt_refused {e : GatewayError} :
    acceptedAt tenant (events ++ [⟨windows, call, .error e⟩]) = acceptedAt tenant events := by
  simp [acceptedAt, acceptedFor]

theorem acceptedAt_ok :
    acceptedAt call.tenant (events ++ [⟨windows, call, .ok ()⟩]) =
      acceptedAt call.tenant events ++ [call.elapsedAt] := by
  simp [acceptedAt, acceptedFor]

theorem Windowed.serve (h : Windowed limit tenant events windows) (hfollows : Follows events call) :
    Windowed limit tenant (events ++ [Machine.serve (checkRate limit) windows call])
      (checkRate limit windows call).2 := by
  by_cases htenant : call.tenant = tenant
  · subst htenant
    obtain ⟨hcurrent, hopen⟩ := h.current hfollows
    have hinsert : ∀ window, (windows.insert call.tenant window)[call.tenant]? = some window :=
      fun window => by rw [BTreeMap.getElem?_insert_ite, if_pos rfl]
    have hreached : ∀ answer start,
        (∀ event ∈ events ++ [(⟨windows, call, answer⟩ : RateEvent)],
          event.call.restartedAt ≤ start + Gateway.minute) →
        call.elapsedAt ≤ start + Gateway.minute := fun answer start hall =>
      hfollows.2.1.trans (hall _ (List.mem_append_right _ (List.mem_singleton_self _)))
    obtain ⟨-, heq⟩ | ⟨hroom, heq⟩ := checkRate_cases limit windows call
    · rw [Machine.serve, heq]
      refine ⟨fun habsent => (nomatch (hinsert _).symm.trans habsent), fun window hfound => ?_, ?_⟩
      · obtain rfl := Option.some.inj ((hinsert _).symm.trans hfound)
        rw [acceptedAt_refused]
        exact hcurrent.mono (hreached _)
      · rw [acceptedAt_refused]
        exact h.minute
    · rw [Machine.serve, heq]
      refine ⟨fun habsent => (nomatch (hinsert _).symm.trans habsent), fun window hfound => ?_,
        fun start => ?_⟩
      · obtain rfl := Option.some.inj ((hinsert _).symm.trans hfound)
        rw [acceptedAt_ok]
        exact (hcurrent.concat hroom hopen).mono (hreached _)
      · rw [acceptedAt_ok, countInMinute_concat]
        have hlt := UInt32.lt_iff_toNat_lt.mp hroom
        have hbefore := h.minute start
        split_ifs with hin
        · have hrecent := countInMinute_le.trans (hcurrent.recent start hin.2)
          omega
        · exact hbefore
  · have hinsert : ∀ window, (windows.insert call.tenant window)[tenant]? = windows[tenant]? :=
      fun window => by rw [BTreeMap.getElem?_insert_ite, if_neg htenant]
    have hafter : (checkRate limit windows call).2[tenant]? = windows[tenant]? := by
      obtain ⟨-, heq⟩ | ⟨-, heq⟩ := checkRate_cases limit windows call
      · rw [heq, hinsert]
      · rw [heq, hinsert]
    have hsame : acceptedAt tenant (events ++ [Machine.serve (checkRate limit) windows call]) =
        acceptedAt tenant events := acceptedAt_other htenant
    refine ⟨fun habsent => ?_, fun window hfound => ?_, ?_⟩
    · rw [hsame]
      exact h.absent (hafter ▸ habsent)
    · rw [hsame]
      refine (h.window window (hafter ▸ hfound)).mono fun start hall event hevent => ?_
      exact hall event (List.mem_append_left _ hevent)
    · rw [hsame]
      exact h.minute

end Calls

/-- **The rate limit.** In any run of calls at instants that do not go back, any minute holds at
most twice the limit of accepted calls of a tenant, and no accepted call overflows the counter. -/
theorem accepted_within_minute (limit : UInt32) (calls : List RateCall) (htimed : RateTimed calls) :
    (∀ tenant start,
      countInMinute start (acceptedAt tenant (Machine.trace (checkRate limit) ∅ calls)) ≤
        2 * limit.toNat) ∧
    ∀ event ∈ Machine.trace (checkRate limit) ∅ calls, event.answer = .ok () →
      (currentWindow event.before event.call).count.toNat + 1 < 2 ^ 32 := by
  constructor
  · intro tenant start
    have hmeets : Machine.Meets (fun events _ call => Follows events call)
        (Machine.trace (checkRate limit) ∅ calls) := by
      intro before event rest hsplit
      obtain ⟨early, late, rfl, rfl, -⟩ := Machine.trace_split hsplit
      obtain ⟨hearly, hlate⟩ := htimed.1 event.call (by simp)
      refine ⟨hearly, hlate, fun earlier hearlier => ?_⟩
      have hcall := Machine.call_mem hearlier
      exact (List.pairwise_append.mp htimed.2).2.2 _ hcall _ (by simp)
    have hstart : Windowed limit tenant [] ∅ :=
      ⟨fun _ => rfl, fun window hfound => by simp at hfound, fun _ => Nat.zero_le _⟩
    have hholds := Machine.Meets.invariant hstart (fun events windows call h => h.serve) hmeets
    exact hholds.minute start
  · intro event hevent hanswer
    rw [Machine.answer_of_mem hevent] at hanswer
    obtain ⟨-, heq⟩ | ⟨hroom, -⟩ := checkRate_cases limit event.before event.call
    · rw [heq] at hanswer
      nomatch hanswer
    · exact (toNat_count_succ hroom).1

def sampleRateCall (second : Nat) : RateCall :=
  ⟨"tenant", second * 1000000000, second * 1000000000, second * 1000000000⟩

/-- With a limit of two a minute, three calls are accepted within three seconds. -/
theorem three_within_minute :
    RateTimed ([0, 59, 60, 61].map sampleRateCall) ∧
    2 < countInMinute (59 * 1000000000) (acceptedAt "tenant"
      (Machine.trace (checkRate 2) ∅ ([0, 59, 60, 61].map sampleRateCall))) := by
  decide

theorem accepted_within_minute_sampleRateCall :
    countInMinute (59 * 1000000000) (acceptedAt "tenant"
      (Machine.trace (checkRate 2) ∅ ([0, 59, 60, 61].map sampleRateCall))) ≤ 4 :=
  (accepted_within_minute 2 ([0, 59, 60, 61].map sampleRateCall) (by decide)).1 "tenant" _

end AgentSphere.Gateway
