import Mathlib.Logic.Relation

/-!
# Programs that suspend at their calls

An asynchronous function is a tree: it either has its result, or it performs one call and
continues with whatever answer comes back. `Program Call Answer α` is that tree. Nothing is
said about what a call means; a `Monitor` supplies the ghost state that is updated along the
calls, the calls that are admissible in it and the answers that may come back.
-/

namespace Concurrency

universe u v

inductive Program (Call : Type u) (Answer : Call → Type v) (α : Type v) where
  | done (result : α)
  | perform (call : Call) (resume : Answer call → Program Call Answer α)

namespace Program

variable {Call : Type u} {Answer : Call → Type v} {α β γ : Type v}

/-- Run `p`, then the program its result selects. -/
def bind : Program Call Answer α → (α → Program Call Answer β) → Program Call Answer β
  | .done a, f => f a
  | .perform c k, f => .perform c (fun x => (k x).bind f)

instance : Monad (Program Call Answer) where
  pure := .done
  bind := bind

def call (c : Call) : Program Call Answer (Answer c) := .perform c .done

@[simp] theorem pure_eq (a : α) : (pure a : Program Call Answer α) = .done a := rfl

@[simp] theorem done_bind (a : α) (f : α → Program Call Answer β) :
    (Program.done a >>= f) = f a := rfl

@[simp] theorem perform_bind (c : Call) (k : Answer c → Program Call Answer α)
    (f : α → Program Call Answer β) :
    (Program.perform c k >>= f) = .perform c (fun x => k x >>= f) := rfl

@[simp] theorem call_bind (c : Call) (f : Answer c → Program Call Answer β) :
    (call c >>= f) = .perform c f := rfl

def embed {Call' : Type u} {Answer' : Call' → Type v} (f : Call → Call')
    (g : (c : Call) → Answer' (f c) → Answer c) :
    Program Call Answer α → Program Call' Answer' α
  | .done a => .done a
  | .perform c k => .perform (f c) (fun x => (k (g c x)).embed f g)

end Program

abbrev Attempt (ε : Type v) (Call : Type u) (Answer : Call → Type v) (α : Type v) :=
  ExceptT ε (Program Call Answer) α

theorem except_bind_eq_ok {ε : Type u} {α β : Type v} {x : Except ε α} {f : α → Except ε β}
    {b : β} :
    (x >>= f) = .ok b ↔ ∃ a, x = .ok a ∧ f a = .ok b := by
  cases x with
  | error e =>
    constructor
    · rintro ⟨⟩
    · rintro ⟨a, ⟨⟩, -⟩
  | ok a =>
    constructor
    · intro h
      exact ⟨a, rfl, h⟩
    · rintro ⟨a, ⟨⟩, h⟩
      exact h

theorem except_mapError_eq_ok {ε ε' : Type u} {α : Type v} {f : ε → ε'} {x : Except ε α} {a : α} :
    x.mapError f = .ok a ↔ x = .ok a := by
  cases x with
  | error e =>
    show Except.error (f e) = .ok a ↔ Except.error e = .ok a
    simp
  | ok b =>
    show Except.ok b = .ok a ↔ Except.ok b = .ok a
    simp

namespace Attempt

variable {ε ε' : Type v} {Call : Type u} {Answer : Call → Type v} {α β : Type v}

def ensure (condition : Prop) [Decidable condition] (e : ε) : Attempt ε Call Answer PUnit :=
  if condition then pure ⟨⟩ else throw e

def ofExcept (r : Except ε α) : Attempt ε Call Answer α := ExceptT.mk (.done r)

@[simp] theorem run_pure (a : α) :
    (pure a : Attempt ε Call Answer α).run = .done (.ok a) := rfl

@[simp] theorem run_throw (e : ε) :
    (throw e : Attempt ε Call Answer α).run = .done (.error e) := rfl

@[simp] theorem run_ofExcept (r : Except ε α) :
    (ofExcept r : Attempt ε Call Answer α).run = .done r := rfl

end Attempt

open Program

structure Monitor (Call : Type u) (Answer : Call → Type v) (M : Type v) where
  Allowed : M → Call → Prop
  Possible : M → (c : Call) → Answer c → Prop
  next : M → (c : Call) → Answer c → M

namespace Monitor

variable {Call : Type u} {Answer : Call → Type v} {M : Type v} {α β : Type v}

/-- Every run of the program from `m` makes only allowed calls and ends in `Post`. -/
def Ensures (mon : Monitor Call Answer M) (Post : α → M → Prop) :
    Program Call Answer α → M → Prop
  | .done a, m => Post a m
  | .perform c k, m =>
      mon.Allowed m c ∧ ∀ x, mon.Possible m c x → mon.Ensures Post (k x) (mon.next m c x)

inductive Runs (mon : Monitor Call Answer M) : Program Call Answer α → M → α → M → Prop where
  | done (a : α) (m : M) : Runs mon (.done a) m a m
  | perform {c : Call} {k : Answer c → Program Call Answer α} {m m' : M} {a : α} (x : Answer c)
      (possible : mon.Possible m c x) (rest : Runs mon (k x) (mon.next m c x) a m') :
      Runs mon (.perform c k) m a m'

variable {mon : Monitor Call Answer M}

@[simp] theorem ensures_done {Post : α → M → Prop} {a : α} {m : M} :
    mon.Ensures Post (.done a) m ↔ Post a m := Iff.rfl

@[simp] theorem ensures_perform {Post : α → M → Prop} {c : Call}
    {k : Answer c → Program Call Answer α} {m : M} :
    mon.Ensures Post (.perform c k) m ↔
      mon.Allowed m c ∧
        ∀ x, mon.Possible m c x → mon.Ensures Post (k x) (mon.next m c x) := Iff.rfl

/-- **Consequence rule**: weaken the postcondition. -/
theorem Ensures.mono {Post Post' : α → M → Prop} {p : Program Call Answer α} {m : M}
    (h : mon.Ensures Post p m) (hpost : ∀ a m, Post a m → Post' a m) :
    mon.Ensures Post' p m := by
  induction p generalizing m with
  | done a => exact hpost a m h
  | perform c k ih => exact ⟨h.1, fun x hx => ih x (h.2 x hx)⟩

/-- **Sequencing rule**: the first program establishes what the second needs. -/
theorem ensures_bind {Post : β → M → Prop} {p : Program Call Answer α}
    {f : α → Program Call Answer β} {m : M} :
    mon.Ensures Post (p >>= f) m ↔
      mon.Ensures (fun a m' => mon.Ensures Post (f a) m') p m := by
  induction p generalizing m with
  | done a => exact Iff.rfl
  | perform c k ih =>
    rw [perform_bind, ensures_perform, ensures_perform]
    exact and_congr_right fun _ => forall_congr' fun x => imp_congr_right fun _ => ih x

/-- What a postcondition asks of the first part of an attempt that `f` continues. -/
def andThen (mon : Monitor Call Answer M) {ε : Type v} (Post : Except ε β → M → Prop)
    (f : α → Attempt ε Call Answer β) : Except ε α → M → Prop
  | .ok a, m => mon.Ensures Post (f a).run m
  | .error e, m => Post (.error e) m

@[simp] theorem andThen_ok {ε : Type v} {Post : Except ε β → M → Prop}
    {f : α → Attempt ε Call Answer β} {a : α} {m : M} :
    mon.andThen Post f (.ok a) m ↔ mon.Ensures Post (f a).run m := Iff.rfl

@[simp] theorem andThen_error {ε : Type v} {Post : Except ε β → M → Prop}
    {f : α → Attempt ε Call Answer β} {e : ε} {m : M} :
    mon.andThen Post f (.error e) m ↔ Post (.error e) m := Iff.rfl

/-- **Early exit rule**: an error must meet the postcondition at once, a result must meet what
the rest needs. -/
theorem ensures_attempt_bind {ε : Type v} {Post : Except ε β → M → Prop}
    {x : Attempt ε Call Answer α} {f : α → Attempt ε Call Answer β} {m : M} :
    mon.Ensures Post (x >>= f).run m ↔ mon.Ensures (mon.andThen Post f) x.run m := by
  rw [ExceptT.run_bind, ensures_bind]
  constructor
  · intro h
    refine h.mono fun r m' hr => ?_
    cases r with
    | ok a => exact hr
    | error e => exact hr
  · intro h
    refine h.mono fun r m' hr => ?_
    cases r with
    | ok a => exact hr
    | error e => exact hr

theorem ensures_ensure {ε : Type v} {condition : Prop} [Decidable condition] {e : ε}
    {Post : Except ε PUnit → M → Prop} {m : M} :
    mon.Ensures Post (Attempt.ensure condition e : Attempt ε Call Answer PUnit).run m ↔
      (condition → Post (.ok ⟨⟩) m) ∧ (¬ condition → Post (.error e) m) := by
  unfold Attempt.ensure
  by_cases h : condition
  · simp [h]
  · simp [h]

theorem ensures_ofExcept {ε : Type v} {r : Except ε α} {Post : Except ε α → M → Prop} {m : M} :
    mon.Ensures Post (Attempt.ofExcept r : Attempt ε Call Answer α).run m ↔ Post r m :=
  Iff.rfl

theorem ensures_adapt {ε ε' : Type v} {f : ε → ε'} {x : Attempt ε Call Answer α}
    {Post : Except ε' α → M → Prop} {m : M} :
    mon.Ensures Post (ExceptT.adapt f x).run m ↔
      mon.Ensures (fun r m' => Post (r.mapError f) m') x.run m :=
  ensures_bind

def free (Call : Type u) (Answer : Call → Type v) : Monitor Call Answer PUnit.{v + 1} where
  Allowed _ _ := True
  Possible _ _ _ := True
  next _ _ _ := ⟨⟩

theorem Runs.forget {p : Program Call Answer α} {m m' : M} {a : α} (h : mon.Runs p m a m') :
    (free Call Answer).Runs p ⟨⟩ a ⟨⟩ := by
  induction h with
  | done a m => exact Runs.done a _
  | perform x possible _ ih => exact Runs.perform x trivial ih

def eval (mon : Monitor Call Answer M) (oracle : (c : Call) → Answer c) :
    Program Call Answer α → M → α × M
  | .done a, m => (a, m)
  | .perform c k, m => mon.eval oracle (k (oracle c)) (mon.next m c (oracle c))

theorem runs_eval (oracle : (c : Call) → Answer c) {I : M → Prop}
    (hpossible : ∀ m c, I m → mon.Possible m c (oracle c) ∧ I (mon.next m c (oracle c)))
    (p : Program Call Answer α) {m : M} (hm : I m) :
    mon.Runs p m (mon.eval oracle p m).1 (mon.eval oracle p m).2 := by
  induction p generalizing m with
  | done a => exact Runs.done a m
  | perform c k ih =>
    obtain ⟨hanswer, hnext⟩ := hpossible m c hm
    exact Runs.perform (oracle c) hanswer (ih (oracle c) hnext)

def play (mon : Monitor Call Answer M) (oracle : M → (c : Call) → Answer c) :
    Program Call Answer α → M → α × M
  | .done a, m => (a, m)
  | .perform c k, m => mon.play oracle (k (oracle m c)) (mon.next m c (oracle m c))

theorem runs_play (oracle : M → (c : Call) → Answer c)
    (hpossible : ∀ m c, mon.Possible m c (oracle m c)) (p : Program Call Answer α) (m : M) :
    mon.Runs p m (mon.play oracle p m).1 (mon.play oracle p m).2 := by
  induction p generalizing m with
  | done a => exact Runs.done a m
  | perform c k ih => exact Runs.perform (oracle m c) (hpossible m c) (ih _ _)

theorem Runs.of_bind {p : Program Call Answer α} {f : α → Program Call Answer β} {m m' : M} {b : β}
    (h : mon.Runs (p >>= f) m b m') :
    ∃ a m₁, mon.Runs p m a m₁ ∧ mon.Runs (f a) m₁ b m' := by
  induction p generalizing m with
  | done a => exact ⟨a, m, .done a m, h⟩
  | perform c k ih =>
    cases h with
    | perform x possible rest =>
      obtain ⟨a, m₁, hfirst, hsecond⟩ := ih x rest
      exact ⟨a, m₁, .perform x possible hfirst, hsecond⟩

/-- A run of two attempts in sequence ends with the error of the first or goes on with the
second. -/
theorem Runs.of_attempt_bind {ε : Type v} {x : Attempt ε Call Answer α}
    {f : α → Attempt ε Call Answer β} {m m' : M} {r : Except ε β}
    (h : mon.Runs (x >>= f).run m r m') :
    (∃ e, r = .error e ∧ mon.Runs x.run m (.error e) m') ∨
      ∃ a m₁, mon.Runs x.run m (.ok a) m₁ ∧ mon.Runs (f a).run m₁ r m' := by
  rw [ExceptT.run_bind] at h
  obtain ⟨r', m₁, hfirst, hsecond⟩ := h.of_bind
  cases r' with
  | ok a => exact .inr ⟨a, m₁, hfirst, hsecond⟩
  | error e =>
    cases hsecond with
    | done => exact .inl ⟨e, rfl, hfirst⟩

/-- **Adequacy**: what is ensured holds at the end of every run. -/
theorem Ensures.of_runs {Post : α → M → Prop} {p : Program Call Answer α} {m m' : M} {a : α}
    (h : mon.Ensures Post p m) (hr : mon.Runs p m a m') : Post a m' := by
  induction hr with
  | done a m => exact h
  | perform x possible _ ih => exact ih (h.2 x possible)

end Monitor

end Concurrency
