import AgentSphere.Lib.Ports

/-!
# Programs that run alone

Where the answer to each call and the next state are functions of the state, a program that no
other thread interrupts is a function of the state as well. Such a run is one of the interleaved
runs, as long as no call has to wait.
-/

namespace Concurrency

universe u v w

variable {σ : Type w} {Call : Type u} {Answer : Call → Type v} {α β ε : Type v}

namespace Program

def alone (serve : σ → (c : Call) → Answer c × σ) : Program Call Answer α → σ → α × σ
  | .done a, s => (a, s)
  | .perform c k, s => (k (serve s c).1).alone serve (serve s c).2

def Enabled (serve : σ → (c : Call) → Answer c × σ) (ready : σ → Call → Prop) :
    Program Call Answer α → σ → Prop
  | .done _, _ => True
  | .perform c k, s => ready s c ∧ (k (serve s c).1).Enabled serve ready (serve s c).2

variable {serve : σ → (c : Call) → Answer c × σ} {ready : σ → Call → Prop} {s : σ}

@[simp] theorem alone_done (a : α) : (done a : Program Call Answer α).alone serve s = (a, s) := rfl

@[simp] theorem alone_perform (c : Call) (k : Answer c → Program Call Answer α) :
    (perform c k).alone serve s = (k (serve s c).1).alone serve (serve s c).2 := rfl

theorem alone_bind (p : Program Call Answer α) (f : α → Program Call Answer β) :
    (p >>= f).alone serve s = (f (p.alone serve s).1).alone serve (p.alone serve s).2 := by
  induction p generalizing s with
  | done a => rfl
  | perform c k ih => exact ih _

theorem enabled_of_ready (hready : ∀ s c, ready s c) (p : Program Call Answer α) :
    p.Enabled serve ready s := by
  induction p generalizing s with
  | done a => trivial
  | perform c k ih => exact ⟨hready s c, ih _⟩

end Program

namespace Attempt

variable {serve : σ → (c : Call) → Answer c × σ} {s : σ}

theorem alone_bind_ok {x : Attempt ε Call Answer α} {a : α} {s' : σ}
    (h : x.run.alone serve s = (.ok a, s')) (f : α → Attempt ε Call Answer β) :
    (x >>= f).run.alone serve s = (f a).run.alone serve s' := by
  rw [ExceptT.run_bind, Program.alone_bind, h]

theorem alone_bind_error {x : Attempt ε Call Answer α} {e : ε} {s' : σ}
    (h : x.run.alone serve s = (.error e, s')) (f : α → Attempt ε Call Answer β) :
    (x >>= f).run.alone serve s = (.error e, s') := by
  rw [ExceptT.run_bind, Program.alone_bind, h]
  rfl

theorem alone_ask_bind (c : Call) (f : Answer c → Attempt ε Call Answer β) :
    (ask c >>= f).run.alone serve s = (f (serve s c).1).run.alone serve (serve s c).2 := rfl

theorem alone_port_bind (c : Call) (read : Answer c → Except ε α)
    (f : α → Attempt ε Call Answer β) :
    (port c read >>= f).run.alone serve s =
      match read (serve s c).1 with
      | .ok a => (f a).run.alone serve (serve s c).2
      | .error e => (.error e, (serve s c).2) := by
  have hrun : (port c read >>= f).run.alone serve s =
      ((ofExcept (read (serve s c).1) >>= f).run).alone serve (serve s c).2 := rfl
  rw [hrun]
  cases read (serve s c).1 with
  | ok a => rfl
  | error e => rfl

theorem enabled_ask_bind {ready : σ → Call → Prop} {c : Call}
    {f : Answer c → Attempt ε Call Answer β} (hready : ready s c)
    (hrest : (f (serve s c).1).run.Enabled serve ready (serve s c).2) :
    (ask c >>= f).run.Enabled serve ready s := ⟨hready, hrest⟩

theorem enabled_port_bind {ready : σ → Call → Prop} {c : Call} {read : Answer c → Except ε α}
    {f : α → Attempt ε Call Answer β} (hready : ready s c)
    (hrest : ∀ a, read (serve s c).1 = .ok a → (f a).run.Enabled serve ready (serve s c).2) :
    (port c read >>= f).run.Enabled serve ready s := by
  have hlater : (ofExcept (read (serve s c).1) >>= f).run.Enabled serve ready (serve s c).2 := by
    cases hread : read (serve s c).1 with
    | ok a => exact hrest a hread
    | error e => trivial
  exact ⟨hready, hlater⟩

end Attempt

section Interleaved

variable {Call : Type v} {Answer : Call → Type v} {α : Type v}
  {serve : σ → (c : Call) → Answer c × σ} {ready : σ → Call → Prop} {s : σ}

def Program.entriesAlone (serve : σ → (c : Call) → Answer c × σ) :
    Program Call Answer α → σ → List (Entry Call Answer)
  | .done _, _ => []
  | .perform c k, s => ⟨c, (serve s c).1⟩ :: (k (serve s c).1).entriesAlone serve (serve s c).2

theorem resumes_alone (p : Program Call Answer α) :
    Resumes p (p.entriesAlone serve s) (.done (p.alone serve s).1) := by
  induction p generalizing s with
  | done a => exact .refl _
  | perform c k ih => exact .perform (ih _)

namespace System

variable {sys : System σ Call Answer α}

theorem serves_alone (hserve : ∀ s c, ready s c → sys.Serve s c (serve s c).1 (serve s c).2)
    {p : Program Call Answer α} (hready : p.Enabled serve ready s) :
    sys.Serves s (p.entriesAlone serve s) (p.alone serve s).2 := by
  induction p generalizing s with
  | done a => exact .nil s
  | perform c k ih => exact .cons (hserve s c hready.1) (ih _ hready.2)

theorem steps_alone
    (hserve : ∀ s c, ready s c → sys.Serve s c (serve s c).1 (serve s c).2)
    {cfg : Config σ Call Answer α} {i : Nat} {p : Program Call Answer α}
    (hthread : cfg.threads[i]? = some p) (hready : p.Enabled serve ready cfg.shared) :
    ∃ cfg', sys.Steps cfg cfg' ∧ cfg'.shared = (p.alone serve cfg.shared).2 ∧
      cfg'.threads = cfg.threads.set i (.done (p.alone serve cfg.shared).1) := by
  obtain ⟨events, -, -, hsteps⟩ := Serves.steps (R := sys.Step)
    (fun _ c k x s' _ hsuspended hserved => .advance i c k x s' hsuspended hserved)
    hthread (resumes_alone p) (serves_alone hserve hready)
  exact ⟨_, hsteps, rfl, rfl⟩

/-- **An uninterrupted run is an interleaved run.** -/
theorem Reachable.alone
    (hserve : ∀ s c, ready s c → sys.Serve s c (serve s c).1 (serve s c).2)
    {s : σ} {cfg : Config σ Call Answer α} (hreach : sys.Reachable s cfg)
    {p : Program Call Answer α} (hstart : sys.Start p)
    (hready : p.Enabled serve ready cfg.shared) :
    ∃ cfg', sys.Reachable s cfg' ∧ cfg'.shared = (p.alone serve cfg.shared).2 := by
  let joined : Config σ Call Answer α := { cfg with threads := cfg.threads ++ [p] }
  have hjoined : joined.threads[cfg.threads.length]? = some p := by simp [joined]
  obtain ⟨cfg', hsteps, hshared, -⟩ := steps_alone hserve hjoined hready
  exact ⟨cfg', (hreach.tail (.start p hstart)).trans hsteps, hshared⟩

end System

end Interleaved

end Concurrency
