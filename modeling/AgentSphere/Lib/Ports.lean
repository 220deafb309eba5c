import AgentSphere.Lib.History

/-!
# Attempts that wait for ports

Most calls of a service go to a port: the answer is awaited, and an error in it ends the attempt.
`Attempt.ask` and `Attempt.port` are these two steps, and the rules below say what a monitor has to
establish for each kind of step that an attempt begins with. A second group of rules follows an
attempt along one history.
-/

namespace Concurrency

universe u v

namespace Attempt

variable {ε α : Type v} {Call : Type u} {Answer : Call → Type v}

def ask (call : Call) : Attempt ε Call Answer (Answer call) := ExceptT.lift (Program.call call)

def port (call : Call) (read : Answer call → Except ε α) : Attempt ε Call Answer α := do
  let answer ← ask call
  ofExcept (read answer)

def computed (value : Option α) (e : ε) : Attempt ε Call Answer α :=
  ofExcept (match value with
    | some a => .ok a
    | none => .error e)

end Attempt

open Attempt

section Only

variable {ε α β : Type v} {Call : Type v} {Answer : Call → Type v} {P Q : Call → Prop}

abbrev Only (P : Call → Prop) (x : Attempt ε Call Answer α) : Prop :=
  (only P).Ensures (fun _ _ => True) x.run ⟨⟩

theorem only_mono {p : Program Call Answer α} (h : (only P).Ensures (fun _ _ => True) p ⟨⟩)
    (hsub : ∀ call, P call → Q call) : (only Q).Ensures (fun _ _ => True) p ⟨⟩ := by
  induction p with
  | done a => exact trivial
  | perform c k ih => exact ⟨hsub c h.1, fun x _ => ih x (h.2 x trivial)⟩

theorem only_bind {x : Attempt ε Call Answer α} {f : α → Attempt ε Call Answer β}
    (hx : Only P x) (hf : ∀ a, Only P (f a)) : Only P (x >>= f) := by
  refine Monitor.ensures_attempt_bind.mpr (hx.mono fun result _ _ => ?_)
  cases result with
  | error e => exact trivial
  | ok a => exact hf a

theorem only_ofExcept {r : Except ε α} :
    Only P (Attempt.ofExcept r : Attempt ε Call Answer α) := trivial

theorem only_pure {a : α} : Only P (pure a : Attempt ε Call Answer α) := trivial

theorem only_throw {e : ε} : Only P (throw e : Attempt ε Call Answer α) := trivial

theorem Only.unchanged {M : Type v} {mon : Monitor Call Answer M} {x : Attempt ε Call Answer α}
    (hx : Only P x) (hnext : ∀ m c a, P c → mon.next m c a = m) {m m' : M} {r : Except ε α}
    (h : mon.Runs x.run m r m') : m' = m := by
  unfold Only at hx
  generalize x.run = p at hx h
  induction h with
  | done a m => rfl
  | @perform c k m m' a x _ _ ih => rw [ih (hx.2 x trivial), hnext m c x hx.1]

theorem only_ask {call : Call} (h : P call) :
    Only P (ask call : Attempt ε Call Answer (Answer call)) :=
  ⟨h, fun _ _ => trivial⟩

theorem only_port {call : Call} (h : P call) (read : Answer call → Except ε α) :
    Only P (port call read : Attempt ε Call Answer α) :=
  only_bind (only_ask h) fun _ => trivial

theorem only_ensure {condition : Prop} [Decidable condition] {e : ε} :
    Only P (Attempt.ensure condition e : Attempt ε Call Answer PUnit) :=
  Monitor.ensures_ensure.mpr ⟨fun _ => trivial, fun _ => trivial⟩

end Only

namespace Monitor

variable {ε α β M : Type v} {Call : Type u} {Answer : Call → Type v} {mon : Monitor Call Answer M}
  {m : M} {Post : Except ε β → M → Prop}

theorem possible_ask_bind {call : Call} {f : Answer call → Attempt ε Call Answer β}
    (hmay : mon.Allowed m call)
    (hrest : ∀ answer, mon.Possible m call answer →
      mon.Ensures Post (f answer).run (mon.next m call answer)) :
    mon.Ensures Post (ask call >>= f).run m :=
  ensures_attempt_bind.mpr ⟨hmay, hrest⟩

theorem ask_bind {call : Call} {f : Answer call → Attempt ε Call Answer β}
    (hmay : mon.Allowed m call)
    (hrest : ∀ answer, mon.Ensures Post (f answer).run (mon.next m call answer)) :
    mon.Ensures Post (ask call >>= f).run m :=
  possible_ask_bind hmay fun answer _ => hrest answer

theorem ofExcept_bind {r : Except ε α} {f : α → Attempt ε Call Answer β}
    (hok : ∀ a, r = .ok a → mon.Ensures Post (f a).run m)
    (herror : ∀ e, r = .error e → Post (.error e) m) :
    mon.Ensures Post (ofExcept r >>= f).run m := by
  rw [ensures_attempt_bind, ensures_ofExcept]
  cases r with
  | ok a => exact hok a rfl
  | error e => exact herror e rfl

theorem computed_bind {value : Option α} {e : ε} {f : α → Attempt ε Call Answer β}
    (hsome : ∀ a, value = some a → mon.Ensures Post (f a).run m) (hnone : Post (.error e) m) :
    mon.Ensures Post (computed value e >>= f).run m := by
  cases value with
  | some a => exact ofExcept_bind (fun a' ha => hsome a' (by rw [Except.ok.inj ha])) nofun
  | none => exact ofExcept_bind nofun fun e' he => Except.error.inj he ▸ hnone

theorem possible_port_bind {call : Call} {read : Answer call → Except ε α}
    {f : α → Attempt ε Call Answer β} (hmay : mon.Allowed m call)
    (hok : ∀ answer a, mon.Possible m call answer → read answer = .ok a →
      mon.Ensures Post (f a).run (mon.next m call answer))
    (herror : ∀ answer e, mon.Possible m call answer → read answer = .error e →
      Post (.error e) (mon.next m call answer)) :
    mon.Ensures Post (port call read >>= f).run m := by
  rw [ensures_attempt_bind, port]
  refine possible_ask_bind hmay fun answer hpossible => ?_
  rw [ensures_ofExcept]
  cases hread : read answer with
  | ok a => exact hok answer a hpossible hread
  | error e => exact herror answer e hpossible hread

theorem port_bind {call : Call} {read : Answer call → Except ε α}
    {f : α → Attempt ε Call Answer β} (hmay : mon.Allowed m call)
    (hok : ∀ answer a, read answer = .ok a →
      mon.Ensures Post (f a).run (mon.next m call answer))
    (herror : ∀ answer e, read answer = .error e → Post (.error e) (mon.next m call answer)) :
    mon.Ensures Post (port call read >>= f).run m :=
  possible_port_bind hmay (fun answer a _ => hok answer a) fun answer e _ => herror answer e

theorem ensure_bind {condition : Prop} [Decidable condition] {e : ε}
    {f : PUnit → Attempt ε Call Answer β} (hok : condition → mon.Ensures Post (f ⟨⟩).run m)
    (herror : ¬condition → Post (.error e) m) :
    mon.Ensures Post (Attempt.ensure condition e >>= f).run m := by
  rw [ensures_attempt_bind, ensures_ensure]
  exact ⟨hok, herror⟩

theorem lift_bind {p : Program Call Answer α} {f : α → Attempt ε Call Answer β}
    (h : mon.Ensures (fun a m' => mon.Ensures Post (f a).run m') p m) :
    mon.Ensures Post (ExceptT.lift p >>= f).run m := by
  rw [ensures_attempt_bind]
  exact ensures_bind.mpr h

theorem only_bind {Call : Type v} {Answer : Call → Type v}
    {Allowed : List (Entry Call Answer) → Call → Prop} {Possible : (c : Call) → Answer c → Prop}
    {P : Call → Prop} {x : Attempt ε Call Answer α} {f : α → Attempt ε Call Answer β}
    {Post : Except ε β → List (Entry Call Answer) → Prop} {entries : List (Entry Call Answer)}
    (hx : Only P x) (hallowed : ∀ entries c, P c → Allowed entries c)
    (herror : ∀ e more, (∀ entry ∈ more, P entry.1) → Post (.error e) (entries ++ more))
    (hrest : ∀ a more, (∀ entry ∈ more, P entry.1) →
      (recording Allowed Possible).Ensures Post (f a).run (entries ++ more)) :
    (recording Allowed Possible).Ensures Post (x >>= f).run entries := by
  refine ensures_attempt_bind.mpr
    ((hx.recorded hallowed entries).mono fun result entries' hmore => ?_)
  obtain ⟨-, more, rfl, hcalls⟩ := hmore
  cases result with
  | error e => exact herror e more hcalls
  | ok a => exact hrest a more hcalls

end Monitor

namespace Resumes

variable {ε α β : Type v} {Call : Type v} {Answer : Call → Type v}
  {entries : List (Entry Call Answer)} {q : Program Call Answer (Except ε β)}

theorem ask_bind {call : Call} {f : Answer call → Attempt ε Call Answer β} {answer : Answer call}
    (h : Resumes (f answer).run entries q) :
    Resumes (ask call >>= f).run (⟨call, answer⟩ :: entries) q :=
  .perform h

theorem port_bind {call : Call} {read : Answer call → Except ε α}
    {f : α → Attempt ε Call Answer β} {answer : Answer call} {a : α} (hread : read answer = .ok a)
    (h : Resumes (f a).run entries q) :
    Resumes (port call read >>= f).run (⟨call, answer⟩ :: entries) q := by
  have hrest : Resumes ((Attempt.ofExcept (read answer) : Attempt ε Call Answer α) >>= f).run
      entries q := by
    rw [hread]
    exact h
  exact .perform hrest

theorem ensure_bind {condition : Prop} [Decidable condition] {e : ε}
    {f : PUnit → Attempt ε Call Answer β} (hcondition : condition)
    (h : Resumes (f ⟨⟩).run entries q) :
    Resumes (Attempt.ensure condition e >>= f).run entries q := by
  rw [Attempt.ensure, if_pos hcondition]
  exact h

theorem ofExcept_bind {r : Except ε α} {f : α → Attempt ε Call Answer β} {a : α}
    (hr : r = .ok a) (h : Resumes (f a).run entries q) :
    Resumes (Attempt.ofExcept r >>= f).run entries q := by
  rw [hr]
  exact h

theorem computed_bind {value : Option α} {e : ε} {f : α → Attempt ε Call Answer β} {a : α}
    (hvalue : value = some a) (h : Resumes (f a).run entries q) :
    Resumes (computed value e >>= f).run entries q := by
  rw [hvalue]
  exact h

theorem lift_bind {p : Program Call Answer α} {f : α → Attempt ε Call Answer β} {a : α}
    {entries' : List (Entry Call Answer)} (h : Resumes p entries (.done a))
    (h' : Resumes (f a).run entries' q) :
    Resumes (ExceptT.lift p >>= f).run (entries ++ entries') q := by
  have hlift : Resumes (ExceptT.lift p : Attempt ε Call Answer α).run entries (.done (.ok a)) :=
    h.bind_left _
  exact hlift.attempt_bind h'

end Resumes

end Concurrency
