import Mathlib.Data.List.Induction

/-!
# Sequential machines

An object that serves one call after the other, such as one behind a lock. Its trace lists the
calls of a run with their answers and the states they were made in, and a fact about traces and
states is proved by looking at one more call.
-/

namespace Concurrency

structure Served (σ α β : Type*) where
  before : σ
  call : α
  answer : β
  deriving DecidableEq

namespace Machine

variable {σ α β : Type*} (step : σ → α → β × σ)

def serve (s : σ) (a : α) : Served σ α β := ⟨s, a, (step s a).1⟩

def after (s : σ) (calls : List α) : σ := calls.foldl (fun t a => (step t a).2) s

def trace (s : σ) : List α → List (Served σ α β)
  | [] => []
  | a :: calls => serve step s a :: trace (step s a).2 calls

def Meets (Ok : List (Served σ α β) → σ → α → Prop) (events : List (Served σ α β)) : Prop :=
  ∀ before event rest, events = before ++ event :: rest → Ok before event.before event.call

variable {step} {s : σ} {a : α} {calls calls' : List α} {event : Served σ α β}
  {events before rest : List (Served σ α β)} {Ok Ok' : List (Served σ α β) → σ → α → Prop}

@[simp] theorem serve_before : (serve step s a).before = s := rfl

@[simp] theorem serve_call : (serve step s a).call = a := rfl

@[simp] theorem serve_answer : (serve step s a).answer = (step s a).1 := rfl

@[simp] theorem trace_nil : trace step s [] = [] := rfl

@[simp] theorem after_nil : after step s [] = s := rfl

theorem after_append : after step s (calls ++ calls') = after step (after step s calls) calls' :=
  List.foldl_append

theorem after_snoc : after step s (calls ++ [a]) = (step (after step s calls) a).2 := by
  rw [after_append]
  rfl

theorem trace_append :
    trace step s (calls ++ calls') =
      trace step s calls ++ trace step (after step s calls) calls' := by
  induction calls generalizing s with
  | nil => rfl
  | cons a calls ih => exact congrArg (serve step s a :: ·) ih

theorem trace_snoc :
    trace step s (calls ++ [a]) = trace step s calls ++ [serve step (after step s calls) a] :=
  trace_append

@[simp] theorem map_call_trace : (trace step s calls).map (·.call) = calls := by
  induction calls generalizing s with
  | nil => rfl
  | cons a calls ih => exact congrArg (a :: ·) ih

theorem call_mem (h : event ∈ trace step s calls) : event.call ∈ calls := by
  have hmem : event.call ∈ (trace step s calls).map (·.call) := List.mem_map_of_mem h
  rwa [map_call_trace] at hmem

theorem trace_split (h : trace step s calls = before ++ event :: rest) :
    ∃ early late, calls = early ++ event.call :: late ∧ before = trace step s early ∧
      event = serve step (after step s early) event.call := by
  induction before generalizing s calls with
  | nil =>
    cases calls with
    | nil => exact nomatch h
    | cons a calls =>
      obtain ⟨rfl, -⟩ := List.cons_eq_cons.mp h
      exact ⟨[], calls, rfl, rfl, rfl⟩
  | cons first before ih =>
    cases calls with
    | nil => exact nomatch h
    | cons a calls =>
      obtain ⟨rfl, hrest⟩ := List.cons_eq_cons.mp h
      obtain ⟨early, late, rfl, rfl, hevent⟩ := ih hrest
      exact ⟨a :: early, late, rfl, rfl, hevent⟩

theorem answer_of_mem (h : event ∈ trace step s calls) :
    event.answer = (step event.before event.call).1 := by
  obtain ⟨before, rest, hsplit⟩ := List.append_of_mem h
  obtain ⟨_, _, _, _, hevent⟩ := trace_split hsplit
  rw [hevent]
  rfl

namespace Meets

theorem nil : Meets Ok [] := by
  intro before event rest h
  exact absurd h (by simp)

theorem true : Meets (fun _ _ _ => True) events :=
  fun _ _ _ _ => trivial

theorem of_forall {Ok : σ → α → Prop} (h : ∀ event ∈ events, Ok event.before event.call) :
    Meets (fun _ => Ok) events := by
  rintro before event rest rfl
  exact h event (by simp)

theorem left {later : List (Served σ α β)} (h : Meets Ok (events ++ later)) : Meets Ok events := by
  rintro before event rest rfl
  exact h before event (rest ++ later) (by simp)

theorem right {Ok : σ → α → Prop} {earlier : List (Served σ α β)}
    (h : Meets (fun _ => Ok) (earlier ++ events)) : Meets (fun _ => Ok) events := by
  rintro before event rest rfl
  exact h (earlier ++ before) event rest (by simp)

theorem and (h : Meets Ok events) (h' : Meets Ok' events) :
    Meets (fun before t a => Ok before t a ∧ Ok' before t a) events :=
  fun before event rest hsplit => ⟨h before event rest hsplit, h' before event rest hsplit⟩

theorem last (h : Meets Ok (events ++ [event])) : Ok events event.before event.call :=
  h events event [] rfl

theorem snoc (h : Meets Ok events) (hlast : Ok events event.before event.call) :
    Meets Ok (events ++ [event]) := by
  intro before next rest hsplit
  obtain rfl | ⟨rest, final, rfl⟩ := List.eq_nil_or_concat rest
  · obtain ⟨rfl, hevent⟩ := List.append_inj' hsplit rfl
    obtain rfl := List.singleton_inj.mp hevent
    exact hlast
  · rw [List.concat_eq_append, ← List.cons_append, ← List.append_assoc] at hsplit
    obtain ⟨rfl, -⟩ := List.append_inj' hsplit rfl
    exact h before next rest rfl

/-- What holds at first and is kept by every call that meets the condition holds of the trace and
the state that a run leads to. -/
theorem invariant {I : List (Served σ α β) → σ → Prop} (hstart : I [] s)
    (hstep : ∀ events t a, I events t → Ok events t a →
      I (events ++ [serve step t a]) (step t a).2)
    (hmeets : Meets Ok (trace step s calls)) : I (trace step s calls) (after step s calls) := by
  induction calls using List.reverseRecOn with
  | nil => exact hstart
  | append_singleton calls a ih =>
    rw [trace_snoc] at hmeets ⊢
    rw [after_snoc]
    exact hstep _ _ _ (ih hmeets.left) hmeets.last

/-- A run without its hidden calls follows the run with them, if a call that both make keeps them
related, and so does a hidden one that the follower does not make. -/
theorem follows {R : List (Served σ α β) → σ → σ → Prop} {s' : σ} {hidden : α → Prop}
    [DecidablePred hidden] (hstart : R [] s s')
    (hvisible : ∀ events t t' a, R events t t' → Ok events t a → ¬hidden a →
      R (events ++ [serve step t a]) (step t a).2 (step t' a).2)
    (hhidden : ∀ events t t' a, R events t t' → Ok events t a → hidden a →
      R (events ++ [serve step t a]) (step t a).2 t')
    (hmeets : Meets Ok (trace step s calls)) :
    R (trace step s calls) (after step s calls)
      (after step s' (calls.filter fun a => ¬hidden a)) := by
  induction calls using List.reverseRecOn with
  | nil => exact hstart
  | append_singleton calls a ih =>
    rw [trace_snoc] at hmeets ⊢
    rw [after_snoc, List.filter_append]
    have hok : Ok (trace step s calls) (after step s calls) a := hmeets.last
    by_cases ha : hidden a
    · simpa [ha] using hhidden _ _ _ a (ih hmeets.left) hok ha
    · simpa [ha, after_snoc] using hvisible _ _ _ a (ih hmeets.left) hok ha

theorem always {I : List (Served σ α β) → σ → Prop} (hstart : I [] s)
    (hstep : ∀ events t a, I events t → Ok events t a →
      I (events ++ [serve step t a]) (step t a).2)
    (hmeets : Meets Ok (trace step s calls)) (h : trace step s calls = before ++ event :: rest) :
    I before event.before := by
  obtain ⟨early, late, -, rfl, hevent⟩ := trace_split h
  rw [hevent]
  exact invariant hstart hstep (h ▸ hmeets).left

/-- Where a call keeps a property exactly if it meets a condition, the property holds throughout a
run exactly if every call meets the condition. -/
theorem throughout_iff {I P : List (Served σ α β) → σ → Prop}
    {Exact : List (Served σ α β) → σ → α → Prop} (hstart : P [] s) (hinv : I [] s)
    (hkeep : ∀ events t a, I events t → Ok events t a →
      I (events ++ [serve step t a]) (step t a).2)
    (hexact : ∀ events t a, I events t → P events t → Ok events t a →
      (P (events ++ [serve step t a]) (step t a).2 ↔ Exact events t a))
    (hmeets : Meets Ok (trace step s calls)) :
    (∀ early, early <+: calls → P (trace step s early) (after step s early)) ↔
      Meets Exact (trace step s calls) := by
  induction calls using List.reverseRecOn with
  | nil =>
    refine ⟨fun _ => .nil, fun _ early hearly => ?_⟩
    rw [List.prefix_nil.mp hearly]
    exact hstart
  | append_singleton calls a ih =>
    rw [trace_snoc] at hmeets ⊢
    have hbefore := ih hmeets.left
    have hgood := invariant hinv hkeep hmeets.left
    have hok : Ok (trace step s calls) (after step s calls) a := hmeets.last
    constructor
    · intro h
      have hkept := h (calls ++ [a]) List.prefix_rfl
      rw [trace_snoc, after_snoc] at hkept
      refine (hbefore.mp fun early hearly =>
        h early (hearly.trans (List.prefix_append _ _))).snoc ?_
      exact (hexact _ _ _ hgood (h calls (List.prefix_append _ _)) hok).mp hkept
    · intro h early hearly
      have hthroughout := hbefore.mpr h.left
      rcases List.prefix_concat_iff.mp hearly with rfl | hearly
      · rw [trace_snoc, after_snoc]
        exact (hexact _ _ _ hgood (hthroughout calls List.prefix_rfl) hok).mpr h.last
      · exact hthroughout early hearly

end Meets

end Machine

end Concurrency
