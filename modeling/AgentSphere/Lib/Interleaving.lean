import AgentSphere.Lib.Program
import AgentSphere.Lib.Transition
import Mathlib.Data.List.Forall2

/-!
# Interleaved programs over a shared state

A `System` says how the shared state serves a call, what it does on its own, and which programs
may join. A configuration holds the shared state, one suspended program for each thread that
ever joined, and the trace of all calls. Between two calls of one thread any other thread may
move. Nothing forces a thread to move on, so a thread that is dropped at a call is one that is
never scheduled again.
-/

namespace Concurrency

open Relation

universe u v w

structure System (σ : Type w) (Call : Type u) (Answer : Call → Type v) (α : Type v) where
  /-- A call made in one state may be answered so, leaving another state. -/
  Serve : σ → (c : Call) → Answer c → σ → Prop
  Internal : σ → σ → Prop
  Start : Program Call Answer α → Prop

structure Event (σ : Type w) (Call : Type u) (Answer : Call → Type v) where
  thread : Nat
  call : Call
  answer : Answer call
  before : σ
  after : σ

structure Config (σ : Type w) (Call : Type u) (Answer : Call → Type v) (α : Type v) where
  shared : σ
  threads : List (Program Call Answer α)
  trace : List (Event σ Call Answer)

namespace System

variable {σ : Type w} {Call : Type u} {Answer : Call → Type v} {α M : Type v}

def initial (s : σ) : Config σ Call Answer α := ⟨s, [], []⟩

inductive Step (sys : System σ Call Answer α) :
    Config σ Call Answer α → Config σ Call Answer α → Prop where
  | start {cfg} (p : Program Call Answer α) (starts : sys.Start p) :
      Step sys cfg { cfg with threads := cfg.threads ++ [p] }
  | advance {cfg} (i : Nat) (c : Call) (k : Answer c → Program Call Answer α) (x : Answer c)
      (s' : σ) (suspended : cfg.threads[i]? = some (.perform c k))
      (served : sys.Serve cfg.shared c x s') :
      Step sys cfg ⟨s', cfg.threads.set i (k x), cfg.trace ++ [⟨i, c, x, cfg.shared, s'⟩]⟩
  | internal {cfg} (s' : σ) (moves : sys.Internal cfg.shared s') :
      Step sys cfg { cfg with shared := s' }

abbrev Steps (sys : System σ Call Answer α) := ReflTransGen sys.Step

/-- The configurations of the runs that begin in a shared state `s`. -/
def Reachable (sys : System σ Call Answer α) (s : σ) (cfg : Config σ Call Answer α) : Prop :=
  sys.Steps (initial s) cfg

variable {sys : System σ Call Answer α}

def Ghosts (mon : Monitor Call Answer M) (Post : α → M → Prop)
    (threads : List (Program Call Answer α)) (ghosts : List M) : Prop :=
  List.Forall₂ (fun p m => mon.Ensures Post p m) threads ghosts

variable {mon : Monitor Call Answer M} {Post : α → M → Prop}

theorem Ghosts.set {threads : List (Program Call Answer α)} {ghosts : List M}
    (h : Ghosts mon Post threads ghosts) (i : Nat) {p : Program Call Answer α} {m : M}
    (hp : mon.Ensures Post p m) : Ghosts mon Post (threads.set i p) (ghosts.set i m) := by
  induction h generalizing i with
  | nil => exact .nil
  | cons hd _ ih =>
    cases i with
    | zero => exact .cons hp ‹_›
    | succ i => exact .cons hd (ih i)

theorem Ghosts.ghost_of_getElem? {threads : List (Program Call Answer α)} {ghosts : List M}
    (h : Ghosts mon Post threads ghosts) {i : Nat} {p : Program Call Answer α}
    (hi : threads[i]? = some p) : ∃ m, ghosts[i]? = some m ∧ mon.Ensures Post p m := by
  induction h generalizing i with
  | nil => simp at hi
  | cons hd _ ih =>
    cases i with
    | zero =>
      obtain rfl : _ = p := by simpa using hi
      exact ⟨_, rfl, hd⟩
    | succ i => simpa using ih (by simpa using hi)

def StepWhen (sys : System σ Call Answer α)
    (Meets : Config σ Call Answer α → Config σ Call Answer α → Prop)
    (cfg cfg' : Config σ Call Answer α) : Prop :=
  sys.Step cfg cfg' ∧ Meets cfg cfg'

theorem Steps.always {cfg cfg' : Config σ Call Answer α} (h : sys.Steps cfg cfg') :
    ReflTransGen (sys.StepWhen fun _ _ => True) cfg cfg' :=
  ReflTransGen.mono (r := sys.Step) (p := sys.StepWhen fun _ _ => True)
    (fun _ _ hstep => ⟨hstep, trivial⟩) cfg cfg' h

/-- **Interleaving rule**: an invariant kept by every allowed call, by every step of the shared
state and by every start holds throughout. -/
theorem invariant_of_stepsWhen (sys : System σ Call Answer α) (mon : Monitor Call Answer M)
    (Post : α → M → Prop) (Inv : σ → List (Event σ Call Answer) → List M → Prop)
    {Meets : Config σ Call Answer α → Config σ Call Answer α → Prop}
    (hstart : ∀ s trace ghosts p, Inv s trace ghosts → sys.Start p →
      ∃ m, mon.Ensures Post p m ∧ Inv s trace (ghosts ++ [m]))
    (hserve : ∀ (cfg : Config σ Call Answer α) ghosts i m c k x s',
      Inv cfg.shared cfg.trace ghosts → Ghosts mon Post cfg.threads ghosts →
      cfg.threads[i]? = some (.perform c k) → ghosts[i]? = some m → mon.Allowed m c →
      sys.Serve cfg.shared c x s' →
      Meets cfg ⟨s', cfg.threads.set i (k x), cfg.trace ++ [⟨i, c, x, cfg.shared, s'⟩]⟩ →
      mon.Possible m c x ∧
        Inv s' (cfg.trace ++ [⟨i, c, x, cfg.shared, s'⟩]) (ghosts.set i (mon.next m c x)))
    (hinternal : ∀ s trace ghosts s', Inv s trace ghosts → sys.Internal s s' →
      Inv s' trace ghosts)
    {s : σ} (hinit : Inv s [] []) {cfg : Config σ Call Answer α}
    (hrun : ReflTransGen (sys.StepWhen Meets) (initial s) cfg) :
    ∃ ghosts, Inv cfg.shared cfg.trace ghosts ∧ Ghosts mon Post cfg.threads ghosts := by
  have hinitial : ∃ ghosts, Inv (initial s : Config σ Call Answer α).shared [] ghosts ∧
      Ghosts mon Post (initial s : Config σ Call Answer α).threads ghosts :=
    ⟨[], hinit, List.Forall₂.nil⟩
  refine invariant_of_steps (P := fun c => ∃ ghosts, Inv c.shared c.trace ghosts ∧
    Ghosts mon Post c.threads ghosts) ?_ hinitial hrun
  rintro c c' ⟨ghosts, hinv, hghosts⟩ ⟨hone, hmeets⟩
  cases hone with
  | start p starts =>
    obtain ⟨m, hp, hinv'⟩ := hstart _ _ _ p hinv starts
    exact ⟨_, hinv', List.rel_append hghosts (.cons hp .nil)⟩
  | advance i call k x s' suspended served =>
    obtain ⟨m, hm, hallowed, hk⟩ := hghosts.ghost_of_getElem? suspended
    obtain ⟨hpossible, hinv'⟩ :=
      hserve _ _ i m call k x s' hinv hghosts suspended hm hallowed served hmeets
    exact ⟨_, hinv', hghosts.set i (hk x hpossible)⟩
  | internal s' moves => exact ⟨ghosts, hinternal _ _ _ s' hinv moves, hghosts⟩

end System

end Concurrency
