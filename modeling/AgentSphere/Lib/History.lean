import AgentSphere.Lib.Interleaving

/-!
# Histories of threads

The history of a thread is the list of its own calls with their answers. A thread of a reachable
configuration is what is left of a program that was started, after exactly its history; so what
holds of every history of a program holds of the thread in every interleaving.
-/

namespace Concurrency

open Relation

universe v w

def Program.pending {Call : Type v} {Answer : Call → Type v} {α : Type v} :
    Program Call Answer α → Option Call
  | .done _ => none
  | .perform c _ => some c

@[simp] theorem Program.pending_perform {Call : Type v} {Answer : Call → Type v} {α : Type v}
    (c : Call) (k : Answer c → Program Call Answer α) : (Program.perform c k).pending = some c :=
  rfl

abbrev Entry (Call : Type v) (Answer : Call → Type v) := (c : Call) × Answer c

section Programs

variable {Call : Type v} {Answer : Call → Type v} {α : Type v}

/-- After the answered calls, `p` goes on as `q`. -/
inductive Resumes : Program Call Answer α → List (Entry Call Answer) → Program Call Answer α → Prop
  | refl (p : Program Call Answer α) : Resumes p [] p
  | perform {c : Call} {k : Answer c → Program Call Answer α} {x : Answer c}
      {entries : List (Entry Call Answer)} {q : Program Call Answer α}
      (rest : Resumes (k x) entries q) : Resumes (.perform c k) (⟨c, x⟩ :: entries) q

namespace Resumes

variable {p q : Program Call Answer α} {entries entries' : List (Entry Call Answer)}

theorem snoc {c : Call} {k : Answer c → Program Call Answer α}
    (h : Resumes p entries (.perform c k)) (x : Answer c) :
    Resumes p (entries ++ [⟨c, x⟩]) (k x) := by
  generalize hq : Program.perform c k = q at h
  induction h with
  | refl p =>
    subst hq
    exact .perform (.refl _)
  | perform rest ih => exact .perform (ih hq)

theorem split {c : Call} {x : Answer c} (h : Resumes p (entries ++ ⟨c, x⟩ :: entries') q) :
    ∃ k, Resumes p entries (.perform c k) ∧ Resumes (k x) entries' q := by
  induction entries generalizing p with
  | nil =>
    cases h with
    | perform rest => exact ⟨_, .refl _, rest⟩
  | cons entry entries ih =>
    cases h with
    | perform rest =>
      obtain ⟨k, hbefore, hafter⟩ := ih rest
      exact ⟨k, .perform hbefore, hafter⟩

theorem of_done {a : α} (h : Resumes (.done a) entries q) : entries = [] ∧ q = .done a := by
  cases h
  exact ⟨rfl, rfl⟩

theorem trans {r : Program Call Answer α} (h : Resumes p entries q) (h' : Resumes q entries' r) :
    Resumes p (entries ++ entries') r := by
  induction h with
  | refl p => exact h'
  | perform _ ih => exact .perform (ih h')

theorem bind_left {β : Type v} (h : Resumes p entries q) (f : α → Program Call Answer β) :
    Resumes (p >>= f) entries (q >>= f) := by
  induction h with
  | refl p => exact .refl _
  | perform _ ih => exact .perform ih

theorem attempt_bind {ε β : Type v} {x : Attempt ε Call Answer α}
    {f : α → Attempt ε Call Answer β} {a : α} {r : Program Call Answer (Except ε β)}
    (h : Resumes x.run entries (.done (.ok a))) (h' : Resumes (f a).run entries' r) :
    Resumes (x >>= f).run (entries ++ entries') r := by
  rw [ExceptT.run_bind]
  exact (h.bind_left _).trans h'

theorem of_bind {β : Type v} {p : Program Call Answer α} {f : α → Program Call Answer β} {b : β}
    (h : Resumes (p >>= f) entries (.done b)) :
    ∃ a first second, entries = first ++ second ∧ Resumes p first (.done a) ∧
      Resumes (f a) second (.done b) := by
  induction p generalizing entries with
  | done a => exact ⟨a, [], entries, rfl, .refl _, h⟩
  | perform c k ih =>
    cases h with
    | @perform _ _ x rest _ hrest =>
      obtain ⟨a, first, second, rfl, hfirst, hsecond⟩ := ih x hrest
      exact ⟨a, ⟨c, x⟩ :: first, second, rfl, .perform hfirst, hsecond⟩

theorem of_attempt_bind {ε β : Type v} {x : Attempt ε Call Answer α}
    {f : α → Attempt ε Call Answer β} {b : β}
    (h : Resumes (x >>= f).run entries (.done (.ok b))) :
    ∃ a first second, entries = first ++ second ∧ Resumes x.run first (.done (.ok a)) ∧
      Resumes (f a).run second (.done (.ok b)) := by
  rw [ExceptT.run_bind] at h
  obtain ⟨r, first, second, hentries, hfirst, hsecond⟩ := h.of_bind
  cases r with
  | ok a => exact ⟨a, first, second, hentries, hfirst, hsecond⟩
  | error e => cases hsecond

theorem of_attempt_result {ε β : Type v} {x : Attempt ε Call Answer α}
    {f : α → Attempt ε Call Answer β} {r : Except ε β}
    (h : Resumes (x >>= f).run entries (.done r)) :
    (∃ e, r = .error e ∧ Resumes x.run entries (.done (.error e))) ∨
      ∃ a first second, entries = first ++ second ∧ Resumes x.run first (.done (.ok a)) ∧
        Resumes (f a).run second (.done r) := by
  rw [ExceptT.run_bind] at h
  obtain ⟨r', first, second, rfl, hfirst, hsecond⟩ := h.of_bind
  cases r' with
  | ok a => exact .inr ⟨a, first, second, rfl, hfirst, hsecond⟩
  | error e =>
    cases hsecond
    exact .inl ⟨e, rfl, by rwa [List.append_nil]⟩

theorem of_adapt {ε ε' : Type v} {f : ε → ε'} {x : Attempt ε Call Answer α} {a : α}
    (h : Resumes (ExceptT.adapt f x).run entries (.done (.ok a))) :
    Resumes x.run entries (.done (.ok a)) := by
  obtain ⟨r, first, second, rfl, hfirst, hsecond⟩ := of_bind h
  cases r with
  | ok b =>
    cases hsecond
    rwa [List.append_nil]
  | error e => cases hsecond

theorem of_ofExcept {ε : Type v} {r : Except ε α} {a : α}
    (h : Resumes (Attempt.ofExcept r : Attempt ε Call Answer α).run entries (.done (.ok a))) :
    r = .ok a := by
  cases h
  rfl

theorem of_pure {ε : Type v} {a b : α}
    (h : Resumes (pure a : Attempt ε Call Answer α).run entries (.done (.ok b))) : b = a := by
  cases h
  rfl

theorem ofExcept_entries {ε : Type v} {r : Except ε α} {q : Program Call Answer (Except ε α)}
    (h : Resumes (Attempt.ofExcept r : Attempt ε Call Answer α).run entries q) : entries = [] := by
  cases h
  rfl

theorem pure_entries {ε : Type v} {a : α} {q : Program Call Answer (Except ε α)}
    (h : Resumes (pure a : Attempt ε Call Answer α).run entries q) : entries = [] := by
  cases h
  rfl

theorem of_ensure {ε : Type v} {condition : Prop} [Decidable condition] {e : ε} {u : PUnit}
    (h : Resumes (Attempt.ensure condition e : Attempt ε Call Answer PUnit).run entries
      (.done (.ok u))) : condition ∧ entries = [] := by
  unfold Attempt.ensure at h
  split at h
  · rename_i hcondition
    exact ⟨hcondition, h.pure_entries⟩
  · cases h

theorem runs {a : α} (h : Resumes p entries (.done a)) :
    (Monitor.free Call Answer).Runs p ⟨⟩ a ⟨⟩ := by
  generalize hq : Program.done a = q at h
  induction h with
  | refl p =>
    subst hq
    exact .done a _
  | perform _ ih => exact .perform _ trivial (ih hq)

end Resumes

theorem Monitor.Runs.resumes {M : Type v} {mon : Monitor Call Answer M} {p : Program Call Answer α}
    {m m' : M} {a : α} (h : mon.Runs p m a m') : ∃ entries, Resumes p entries (.done a) := by
  induction h with
  | done a m => exact ⟨[], .refl _⟩
  | perform x _ _ ih =>
    obtain ⟨entries, hresumes⟩ := ih
    exact ⟨⟨_, x⟩ :: entries, .perform hresumes⟩

def recording (Allowed : List (Entry Call Answer) → Call → Prop)
    (Possible : (c : Call) → Answer c → Prop) :
    Monitor Call Answer (List (Entry Call Answer)) where
  Allowed := Allowed
  Possible _ := Possible
  next entries c x := entries ++ [⟨c, x⟩]

variable {Allowed : List (Entry Call Answer) → Call → Prop}
  {Possible : (c : Call) → Answer c → Prop} {Post : α → List (Entry Call Answer) → Prop}

theorem Monitor.Ensures.resumes {p q : Program Call Answer α}
    {before entries : List (Entry Call Answer)}
    (h : (recording Allowed Possible).Ensures Post p before) (hresumes : Resumes p entries q)
    (hpossible : ∀ entry ∈ entries, Possible entry.1 entry.2) :
    (recording Allowed Possible).Ensures Post q (before ++ entries) := by
  induction hresumes generalizing before with
  | refl p => simpa using h
  | @perform c k x entries q _ ih =>
    have hnext := h.2 x (hpossible ⟨c, x⟩ List.mem_cons_self)
    have hrest := ih hnext fun entry hentry => hpossible entry (List.mem_cons_of_mem _ hentry)
    rwa [recording, List.append_assoc] at hrest

def only (P : Call → Prop) : Monitor Call Answer PUnit.{v + 1} where
  Allowed _ := P
  Possible _ _ _ := True
  next _ _ _ := ⟨⟩

theorem Monitor.Ensures.recorded {P : Call → Prop} {Q : α → Prop} {p : Program Call Answer α}
    (h : (only P).Ensures (fun a _ => Q a) p ⟨⟩)
    (hallowed : ∀ entries c, P c → Allowed entries c) (entries : List (Entry Call Answer)) :
    (recording Allowed Possible).Ensures
      (fun a entries' => Q a ∧ ∃ more, entries' = entries ++ more ∧ ∀ entry ∈ more, P entry.1)
      p entries := by
  induction p generalizing entries with
  | done a => exact ⟨h, [], by simp, by simp⟩
  | perform c k ih =>
    refine ⟨hallowed entries c h.1, fun x _ => ?_⟩
    refine (ih x (h.2 x trivial) (entries ++ [⟨c, x⟩])).mono fun a entries' hmore => ?_
    obtain ⟨hresult, more, rfl, hcalls⟩ := hmore
    refine ⟨hresult, ⟨c, x⟩ :: more, by simp, ?_⟩
    rintro entry (_ | ⟨_, hentry⟩)
    · exact h.1
    · exact hcalls entry hentry

theorem resumes_eval (Allowed : List (Entry Call Answer) → Call → Prop)
    (Possible : (c : Call) → Answer c → Prop) (oracle : (c : Call) → Answer c)
    (p : Program Call Answer α) (before : List (Entry Call Answer)) :
    ∃ entries, ((recording Allowed Possible).eval oracle p before).2 = before ++ entries ∧
      Resumes p entries (.done ((recording Allowed Possible).eval oracle p before).1) := by
  induction p generalizing before with
  | done a => exact ⟨[], by simp [Monitor.eval], .refl _⟩
  | perform c k ih =>
    obtain ⟨entries, hentries, hresumes⟩ := ih (oracle c) (before ++ [⟨c, oracle c⟩])
    exact ⟨⟨c, oracle c⟩ :: entries, hentries.trans (by simp), .perform hresumes⟩

def Program.answered (oracle : (c : Call) → Answer c) : Program Call Answer α → α
  | .done a => a
  | .perform c k => (k (oracle c)).answered oracle

theorem Program.answered_bind {β : Type v} (oracle : (c : Call) → Answer c)
    (p : Program Call Answer α) (f : α → Program Call Answer β) :
    (p >>= f).answered oracle = (f (p.answered oracle)).answered oracle := by
  induction p with
  | done a => rfl
  | perform c k ih => exact ih (oracle c)

theorem Attempt.answered_bind {ε β : Type v} {oracle : (c : Call) → Answer c}
    {x : Attempt ε Call Answer α} {f : α → Attempt ε Call Answer β} {a : α}
    (h : x.run.answered oracle = .ok a) :
    (x >>= f).run.answered oracle = (f a).run.answered oracle := by
  have hbind := Program.answered_bind oracle x.run (ExceptT.bindCont f)
  rw [h] at hbind
  exact hbind

theorem Attempt.answered_adapt {ε ε' : Type v} {oracle : (c : Call) → Answer c} (f : ε → ε')
    {x : Attempt ε Call Answer α} {a : α} (h : x.run.answered oracle = .ok a) :
    (ExceptT.adapt f x : Attempt ε' Call Answer α).run.answered oracle = .ok a := by
  have hbind := Program.answered_bind oracle x.run fun r => pure (r.mapError f)
  rw [h] at hbind
  exact hbind

theorem Monitor.eval_fst {M : Type v} (mon : Monitor Call Answer M)
    (oracle : (c : Call) → Answer c) (p : Program Call Answer α) (m : M) :
    (mon.eval oracle p m).1 = p.answered oracle := by
  induction p generalizing m with
  | done a => rfl
  | perform c k ih => exact ih (oracle c) _

theorem resumes_answered (oracle : (c : Call) → Answer c) (p : Program Call Answer α) :
    ∃ entries : List (Entry Call Answer), (∀ entry ∈ entries, entry.2 = oracle entry.1) ∧
      Resumes p entries (.done (p.answered oracle)) := by
  induction p with
  | done a => exact ⟨[], by simp, .refl _⟩
  | perform c k ih =>
    obtain ⟨entries, horacle, hresumes⟩ := ih (oracle c)
    exact ⟨⟨c, oracle c⟩ :: entries, by simpa using horacle, .perform hresumes⟩

end Programs

section Traces

variable {σ : Type w} {Call : Type v} {Answer : Call → Type v} {α : Type v}

def Event.entry (event : Event σ Call Answer) : Entry Call Answer := ⟨event.call, event.answer⟩

@[simp] theorem Event.entry_mk (i : Nat) (c : Call) (x : Answer c) (s s' : σ) :
    (Event.mk i c x s s' : Event σ Call Answer).entry = ⟨c, x⟩ := rfl

theorem Event.of_entry {event : Event σ Call Answer} {c : Call} {x : Answer c}
    (h : event.entry = ⟨c, x⟩) (P : (c : Call) → Answer c → Prop)
    (hevent : P event.call event.answer) : P c x := by
  obtain ⟨i, c', x', s, s'⟩ := event
  cases h
  exact hevent

def history (i : Nat) (trace : List (Event σ Call Answer)) : List (Entry Call Answer) :=
  (trace.filter fun event => event.thread = i).map Event.entry

@[simp] theorem history_nil (i : Nat) : history i ([] : List (Event σ Call Answer)) = [] := rfl

theorem history_append (i : Nat) (trace trace' : List (Event σ Call Answer)) :
    history i (trace ++ trace') = history i trace ++ history i trace' := by
  simp [history]

theorem history_cons_self (event : Event σ Call Answer) (trace : List (Event σ Call Answer)) :
    history event.thread (event :: trace) = event.entry :: history event.thread trace := by
  simp [history]

theorem history_cons_other {i : Nat} {event : Event σ Call Answer} (h : event.thread ≠ i)
    (trace : List (Event σ Call Answer)) : history i (event :: trace) = history i trace := by
  simp [history, h]

theorem history_own {i : Nat} {trace : List (Event σ Call Answer)}
    (h : ∀ event ∈ trace, event.thread = i) : history i trace = trace.map Event.entry := by
  rw [history, List.filter_eq_self.mpr (by simpa using h)]

theorem history_snoc (i : Nat) (trace : List (Event σ Call Answer)) (event : Event σ Call Answer) :
    history i (trace ++ [event]) =
      if event.thread = i then history i trace ++ [event.entry] else history i trace := by
  by_cases h : event.thread = i
  · simp [history, h]
  · simp [history, h]

theorem mem_history {i : Nat} {trace : List (Event σ Call Answer)} {entry : Entry Call Answer} :
    entry ∈ history i trace ↔ ∃ event ∈ trace, event.thread = i ∧ event.entry = entry := by
  simp [history, and_assoc]

theorem mem_history_snoc {i : Nat} {trace : List (Event σ Call Answer)}
    {event : Event σ Call Answer} {entry : Entry Call Answer} :
    entry ∈ history i (trace ++ [event]) ↔
      entry ∈ history i trace ∨ event.thread = i ∧ entry = event.entry := by
  rw [history_snoc]
  by_cases h : event.thread = i
  · simp [h]
  · simp [h]

theorem history_eq_cons {i : Nat} {trace : List (Event σ Call Answer)} {entry : Entry Call Answer}
    {rest : List (Entry Call Answer)} (h : history i trace = entry :: rest) :
    ∃ before event after, trace = before ++ event :: after ∧
      (∀ other ∈ before, other.thread ≠ i) ∧ event.thread = i ∧ event.entry = entry ∧
      history i after = rest := by
  obtain ⟨event, events, hfilter, hentry, hrest⟩ := List.map_eq_cons_iff.mp h
  obtain ⟨before, after, rfl, hbefore, hthread, hafter⟩ := List.filter_eq_cons_iff.mp hfilter
  refine ⟨before, event, after, rfl, ?_, by simpa using hthread, hentry, ?_⟩
  · intro other hother
    simpa using hbefore other hother
  · rw [history, hafter, hrest]

theorem history_eq_append {i : Nat} {trace : List (Event σ Call Answer)}
    {entries entries' : List (Entry Call Answer)} (h : history i trace = entries ++ entries') :
    ∃ before after, trace = before ++ after ∧ history i before = entries ∧
      history i after = entries' := by
  obtain ⟨events, events', hfilter, hentries, hentries'⟩ := List.map_eq_append_iff.mp h
  obtain ⟨before, after, rfl, hbefore, hafter⟩ := List.filter_eq_append_iff.mp hfilter
  exact ⟨before, after, rfl, by rw [history, hbefore, hentries], by rw [history, hafter, hentries']⟩

/-- How often calls for a key were made: those that were answered and those that still wait for an
answer, which may never come. -/
def Config.made {κ : Type*} [DecidableEq κ] (f : Call → Option κ) (key : κ)
    (cfg : Config σ Call Answer α) : Nat :=
  cfg.trace.countP (fun event => f event.call = some key) +
    cfg.threads.countP (fun thread => thread.pending.bind f = some key)

namespace System

variable {sys : System σ Call Answer α}

inductive Serves (sys : System σ Call Answer α) : σ → List (Entry Call Answer) → σ → Prop where
  | nil (s : σ) : Serves sys s [] s
  | cons {s s' s'' : σ} {c : Call} {x : Answer c} {entries : List (Entry Call Answer)}
      (served : sys.Serve s c x s') (rest : Serves sys s' entries s'') :
      Serves sys s (⟨c, x⟩ :: entries) s''

theorem Serves.append {s s' s'' : σ} {entries entries' : List (Entry Call Answer)}
    (h : sys.Serves s entries s') (h' : sys.Serves s' entries' s'') :
    sys.Serves s (entries ++ entries') s'' := by
  induction h with
  | nil s => exact h'
  | cons served _ ih => exact .cons served (ih h')

/-- `Serves.cons` with the state in between given. -/
theorem Serves.through {s s'' : σ} (s' : σ) {c : Call} {x : Answer c}
    {entries : List (Entry Call Answer)} (served : sys.Serve s c x s')
    (rest : sys.Serves s' entries s'') : sys.Serves s (⟨c, x⟩ :: entries) s'' :=
  .cons served rest

/-- **Scheduling rule**: a thread may make any calls that are served one after the other, along
any relation that has these moves. -/
theorem Serves.steps {R : Config σ Call Answer α → Config σ Call Answer α → Prop}
    {cfg : Config σ Call Answer α} {i : Nat} {p q : Program Call Answer α} {s : σ}
    {entries : List (Entry Call Answer)}
    (hmoves : ∀ (cfg : Config σ Call Answer α) (c : Call) k (x : Answer c) s',
      ⟨c, x⟩ ∈ entries → cfg.threads[i]? = some (.perform c k) → sys.Serve cfg.shared c x s' →
        R cfg ⟨s', cfg.threads.set i (k x), cfg.trace ++ [⟨i, c, x, cfg.shared, s'⟩]⟩)
    (hthread : cfg.threads[i]? = some p) (hresumes : Resumes p entries q)
    (hserves : sys.Serves cfg.shared entries s) :
    ∃ events, (∀ event ∈ events, event.thread = i) ∧ events.map Event.entry = entries ∧
      ReflTransGen R cfg ⟨s, cfg.threads.set i q, cfg.trace ++ events⟩ := by
  induction hresumes generalizing cfg with
  | refl p =>
    cases hserves
    obtain ⟨hi, hp⟩ := List.getElem?_eq_some_iff.mp hthread
    refine ⟨[], by simp, rfl, ?_⟩
    rw [List.append_nil, ← hp, List.set_getElem_self]
  | @perform c k x entries q _ ih =>
    cases hserves with
    | @cons _ s' _ _ _ _ served rest =>
      obtain ⟨hi, -⟩ := List.getElem?_eq_some_iff.mp hthread
      have hmoved : (cfg.threads.set i (k x))[i]? = some (k x) := by simp [hi]
      let next : Config σ Call Answer α :=
        ⟨s', cfg.threads.set i (k x), cfg.trace ++ [⟨i, c, x, cfg.shared, s'⟩]⟩
      have hnext : R cfg next := hmoves cfg c k x s' List.mem_cons_self hthread served
      obtain ⟨events, hown, hentries, hsteps⟩ := @ih next
        (fun cfg c k x s' hmem => hmoves cfg c k x s' (List.mem_cons_of_mem _ hmem)) hmoved rest
      refine ⟨⟨i, c, x, cfg.shared, s'⟩ :: events, ?_, by simp [hentries], ?_⟩
      · rintro event (_ | ⟨_, hevent⟩)
        · rfl
        · exact hown event hevent
      · have hall := hsteps.head hnext
        rwa [List.set_set, List.append_assoc, List.singleton_append] at hall

theorem Reachable.run {s₀ s : σ} {cfg : Config σ Call Answer α} (hreach : sys.Reachable s₀ cfg)
    (i : Nat) {p q : Program Call Answer α} {entries : List (Entry Call Answer)}
    (hthread : cfg.threads[i]? = some p) (hresumes : Resumes p entries q)
    (hserves : sys.Serves cfg.shared entries s) :
    ∃ events, (∀ event ∈ events, event.thread = i) ∧ events.map Event.entry = entries ∧
      sys.Reachable s₀ ⟨s, cfg.threads.set i q, cfg.trace ++ events⟩ := by
  obtain ⟨events, hown, hentries, hsteps⟩ := Serves.steps (R := sys.Step)
    (fun _ c k x s' _ hsuspended hserved => .advance i c k x s' hsuspended hserved)
    hthread hresumes hserves
  exact ⟨events, hown, hentries, hreach.trans hsteps⟩

theorem Reachable.run_first {s₀ s s' : σ} {cfg : Config σ Call Answer α}
    (hreach : sys.Reachable s₀ cfg) (i : Nat) {p q : Program Call Answer α} {c : Call}
    {x : Answer c} {entries : List (Entry Call Answer)} (hthread : cfg.threads[i]? = some p)
    (hresumes : Resumes p (⟨c, x⟩ :: entries) q) (served : sys.Serve cfg.shared c x s')
    (hserves : sys.Serves s' entries s) :
    ∃ events, events.map Event.entry = entries ∧ sys.Reachable s₀
      ⟨s, cfg.threads.set i q, cfg.trace ++ ⟨i, c, x, cfg.shared, s'⟩ :: events⟩ := by
  cases hresumes with
  | @perform _ k _ _ _ hrest =>
    obtain ⟨hi, -⟩ := List.getElem?_eq_some_iff.mp hthread
    have hmoved : (cfg.threads.set i (k x))[i]? = some (k x) := by simp [hi]
    obtain ⟨events, -, hentries, hreach'⟩ := Reachable.run
      (hreach.tail (.advance i c k x s' hthread served)) i hmoved hrest hserves
    refine ⟨events, hentries, ?_⟩
    rwa [List.set_set, List.append_assoc, List.singleton_append] at hreach'

theorem Step.thread {cfg cfg' : Config σ Call Answer α} (hstep : sys.Step cfg cfg') {i : Nat}
    {p : Program Call Answer α} (hthread : cfg.threads[i]? = some p) :
    (cfg'.threads[i]? = some p ∧ history i cfg'.trace = history i cfg.trace) ∨
    ∃ c k x s', p = .perform c k ∧ cfg'.threads[i]? = some (k x) ∧
      cfg'.trace = cfg.trace ++ [⟨i, c, x, cfg.shared, s'⟩] := by
  obtain ⟨hi, -⟩ := List.getElem?_eq_some_iff.mp hthread
  cases hstep with
  | start q starts =>
    left
    exact ⟨(List.getElem?_append_left hi).trans hthread, rfl⟩
  | advance j c k x s' suspended served =>
    by_cases hij : j = i
    · subst hij
      obtain rfl := Option.some.inj (hthread.symm.trans suspended)
      exact .inr ⟨c, k, x, s', rfl, by simp [hi], rfl⟩
    · left
      refine ⟨by simp [hij, hthread], ?_⟩
      rw [history_append, history_cons_other hij, history_nil, List.append_nil]
  | internal s' moves => exact .inl ⟨hthread, rfl⟩

theorem Step.resumes {cfg cfg' : Config σ Call Answer α} (hstep : sys.Step cfg cfg') {i : Nat}
    {p p₀ : Program Call Answer α} (hthread : cfg.threads[i]? = some p)
    (hresumes : Resumes p₀ (history i cfg.trace) p) :
    ∃ q, cfg'.threads[i]? = some q ∧ Resumes p₀ (history i cfg'.trace) q := by
  obtain ⟨hsame, hhistory⟩ | ⟨c, k, x, s', rfl, hmoved, htrace⟩ := hstep.thread hthread
  · exact ⟨p, hsame, hhistory ▸ hresumes⟩
  · refine ⟨k x, hmoved, ?_⟩
    rw [htrace, history_append]
    simpa [history] using hresumes.snoc x

theorem Step.trace_subset {cfg cfg' : Config σ Call Answer α} (hstep : sys.Step cfg cfg') :
    cfg.trace ⊆ cfg'.trace := by
  cases hstep with
  | start p starts => exact List.Subset.refl _
  | advance i c k x s' suspended served => exact List.subset_append_left _ _
  | internal s' moves => exact List.Subset.refl _

theorem Reachable.resumes {s : σ} {cfg : Config σ Call Answer α} (hreach : sys.Reachable s cfg) :
    (∀ event ∈ cfg.trace, event.thread < cfg.threads.length) ∧
    ∀ i p, cfg.threads[i]? = some p →
      ∃ p₀, sys.Start p₀ ∧ Resumes p₀ (history i cfg.trace) p := by
  refine invariant_of_steps (P := fun cfg : Config σ Call Answer α =>
    (∀ event ∈ cfg.trace, event.thread < cfg.threads.length) ∧
    ∀ i p, cfg.threads[i]? = some p →
      ∃ p₀, sys.Start p₀ ∧ Resumes p₀ (history i cfg.trace) p) ?_ ?_ hreach
  · rintro cfg cfg' ⟨hthreads, hresumes⟩ hstep
    cases hstep with
    | start p starts =>
      refine ⟨fun event hevent => ?_, fun i q hq => ?_⟩
      · have := hthreads event hevent
        simp only [List.length_append, List.length_singleton]
        omega
      · by_cases hi : i < cfg.threads.length
        · exact hresumes i q (by simpa [List.getElem?_append_left hi] using hq)
        · -- the new thread has made no call yet
          have hnone : history i cfg.trace = [] := by
            rw [history, List.map_eq_nil_iff, List.filter_eq_nil_iff]
            intro event hevent
            have := hthreads event hevent
            simp only [decide_eq_true_eq]
            omega
          have hlast : i = cfg.threads.length := by
            obtain ⟨hlt, -⟩ := List.getElem?_eq_some_iff.mp hq
            simp only [List.length_append, List.length_singleton] at hlt
            omega
          subst hlast
          obtain rfl : p = q := by simpa using hq
          refine ⟨p, starts, ?_⟩
          simp only [hnone]
          exact .refl p
    | advance i c k x s' suspended served =>
      have hi : i < cfg.threads.length := (List.getElem?_eq_some_iff.mp suspended).1
      refine ⟨fun event hevent => ?_, fun j q hq => ?_⟩
      · rw [List.length_set]
        rcases List.mem_append.mp hevent with hold | hnew
        · exact hthreads event hold
        · obtain rfl := List.mem_singleton.mp hnew
          exact hi
      · by_cases hij : i = j
        · subst hij
          obtain ⟨p₀, hstart, hr⟩ := hresumes i _ suspended
          obtain rfl : k x = q := by simpa [List.getElem?_set, hi] using hq
          refine ⟨p₀, hstart, ?_⟩
          rw [history_append]
          simpa [history] using hr.snoc x
        · obtain ⟨p₀, hstart, hr⟩ := hresumes j q (by simpa [List.getElem?_set, hij] using hq)
          refine ⟨p₀, hstart, ?_⟩
          rw [history_append, history_cons_other hij, history_nil, List.append_nil]
          exact hr
    | internal s' moves => exact ⟨hthreads, hresumes⟩
  · exact ⟨by simp [initial], by simp [initial]⟩

theorem Reachable.called {s : σ} {cfg : Config σ Call Answer α} (hreach : sys.Reachable s cfg)
    {before after : List (Event σ Call Answer)} {event : Event σ Call Answer}
    (htrace : cfg.trace = before ++ event :: after) :
    ∃ p k, sys.Start p ∧ Resumes p (history event.thread before) (.perform event.call k) := by
  obtain ⟨hthreads, hresumes⟩ := hreach.resumes
  have hlt := hthreads event (by simp [htrace])
  obtain ⟨p, hp, hr⟩ := hresumes event.thread _ (List.getElem?_eq_getElem hlt)
  rw [htrace, history_append, history_cons_self] at hr
  obtain ⟨k, hbefore, -⟩ := hr.split
  exact ⟨p, k, hp, hbefore⟩

/-- **Prefix rule**: what every event keeps holds before each event and at the end. -/
theorem Reachable.always {I : σ → List (Event σ Call Answer) → Prop}
    (hserve : ∀ s trace i c x s', I s trace → sys.Serve s c x s' →
      I s' (trace ++ [⟨i, c, x, s, s'⟩]))
    (hinternal : ∀ s trace s', I s trace → sys.Internal s s' → I s' trace)
    {s : σ} (hinit : I s []) {cfg : Config σ Call Answer α} (hreach : sys.Reachable s cfg) :
    I cfg.shared cfg.trace ∧
    ∀ before event after, cfg.trace = before ++ event :: after →
      I event.before before ∧ sys.Serve event.before event.call event.answer event.after := by
  refine invariant_of_steps (P := fun cfg : Config σ Call Answer α => I cfg.shared cfg.trace ∧
    ∀ before event after, cfg.trace = before ++ event :: after →
      I event.before before ∧ sys.Serve event.before event.call event.answer event.after)
    ?_ ⟨hinit, by simp [initial]⟩ hreach
  rintro cfg cfg' ⟨hinv, hevents⟩ hstep
  cases hstep with
  | start p starts => exact ⟨hinv, hevents⟩
  | advance i c k x s' suspended served =>
    refine ⟨hserve _ _ i c x s' hinv served, fun before event after htrace => ?_⟩
    rcases List.eq_nil_or_concat after with rfl | ⟨rest, last, rfl⟩
    · obtain ⟨rfl, hevent⟩ := List.append_inj' htrace rfl
      obtain rfl := List.singleton_inj.mp hevent
      exact ⟨hinv, served⟩
    · rw [List.concat_eq_append, ← List.cons_append, ← List.append_assoc] at htrace
      obtain ⟨htrace, -⟩ := List.append_inj' htrace rfl
      exact hevents before event rest htrace
  | internal s' moves => exact ⟨hinternal _ _ s' hinv moves, hevents⟩

theorem Reachable.served {s : σ} {cfg : Config σ Call Answer α} (hreach : sys.Reachable s cfg) :
    ∀ event ∈ cfg.trace, sys.Serve event.before event.call event.answer event.after := by
  intro event hevent
  obtain ⟨before, after, htrace⟩ := List.append_of_mem hevent
  exact ((hreach.always (I := fun _ _ => True) (fun _ _ _ _ _ _ _ _ => trivial)
    (fun _ _ _ _ _ => trivial) trivial).2 before event after htrace).2

/-- **Continuation rule**: what an event has brought about and the later events keep still holds
before each of them and at the end. -/
theorem Reachable.after {Q : σ → Prop} {K : Event σ Call Answer → Prop}
    (hkeeps : ∀ event : Event σ Call Answer,
      sys.Serve event.before event.call event.answer event.after → K event →
        Q event.before → Q event.after)
    (hinternal : ∀ s s', Q s → sys.Internal s s' → Q s')
    {s : σ} {cfg : Config σ Call Answer α} (hreach : sys.Reachable s cfg)
    {before : List (Event σ Call Answer)} {event : Event σ Call Answer}
    {later : List (Event σ Call Answer)} (htrace : cfg.trace = before ++ event :: later)
    (hevent : Q event.after) :
    ((∀ next ∈ later, K next) → Q cfg.shared) ∧
    ∀ between last rest, later = between ++ last :: rest → (∀ next ∈ between, K next) →
      Q last.before := by
  obtain ⟨hend, hevents⟩ := hreach.always (I := fun s trace =>
    ∀ before event later, trace = before ++ event :: later → Q event.after →
      (∀ next ∈ later, K next) → Q s)
    (by
      intro s trace i c x s' hinv hserve before event later htrace hevent hok
      rcases List.eq_nil_or_concat later with rfl | ⟨rest, last, rfl⟩
      · obtain ⟨rfl, hsame⟩ := List.append_inj' htrace rfl
        obtain rfl := List.singleton_inj.mp hsame
        exact hevent
      · rw [List.concat_eq_append, ← List.cons_append, ← List.append_assoc] at htrace
        obtain ⟨hrest, hlast⟩ := List.append_inj' htrace rfl
        obtain rfl := List.singleton_inj.mp hlast
        have hbefore : Q s := hinv before event rest hrest hevent fun next hnext =>
          hok next (by simp [hnext])
        exact hkeeps ⟨i, c, x, s, s'⟩ hserve (hok _ (by simp)) hbefore)
    (by
      intro s trace s' hinv hmoves before event later htrace hevent hok
      exact hinternal s s' (hinv before event later htrace hevent hok) hmoves)
    (by simp)
  refine ⟨hend before event later htrace hevent, ?_⟩
  rintro between last rest rfl hok
  exact (hevents (before ++ event :: between) last rest (by simp [htrace])).1 before event between
    rfl hevent hok

/-- **Frame rule**: what none of the later events changes is still as the event left it. -/
theorem Reachable.unchanged {β : Type*} (f : σ → β)
    (hinternal : ∀ s s', sys.Internal s s' → f s' = f s)
    {s : σ} {cfg : Config σ Call Answer α} (hreach : sys.Reachable s cfg) :
    (∀ before event after, cfg.trace = before ++ event :: after →
      (∀ later ∈ after, f later.after = f later.before) → f cfg.shared = f event.after) ∧
    ∀ before event between last after, cfg.trace = before ++ event :: between ++ last :: after →
      (∀ later ∈ between, f later.after = f later.before) → f last.before = f event.after := by
  have hafter : ∀ before event later, cfg.trace = before ++ event :: later →
      ((∀ next ∈ later, f next.after = f next.before) → f cfg.shared = f event.after) ∧
      ∀ between last rest, later = between ++ last :: rest →
        (∀ next ∈ between, f next.after = f next.before) → f last.before = f event.after := by
    intro before event later htrace
    exact hreach.after (Q := fun s => f s = f event.after)
      (fun _ _ hsame hvalue => hsame.trans hvalue)
      (fun s s' hvalue hmoves => (hinternal s s' hmoves).trans hvalue) htrace rfl
  refine ⟨fun before event after htrace => (hafter before event after htrace).1, ?_⟩
  intro before event between last after htrace
  exact (hafter before event (between ++ last :: after) (by simp [htrace])).2 between last after rfl

theorem Reachable.allowed {Allowed : List (Entry Call Answer) → Call → Prop} {s : σ}
    (hconduct : ∀ p, sys.Start p →
      (recording Allowed fun _ _ => True).Ensures (fun _ _ => True) p [])
    {cfg : Config σ Call Answer α} (hreach : sys.Reachable s cfg)
    {before after : List (Event σ Call Answer)} {event : Event σ Call Answer}
    (htrace : cfg.trace = before ++ event :: after) :
    Allowed (history event.thread before) event.call := by
  obtain ⟨p, k, hstart, hresumes⟩ := hreach.called htrace
  have hrest := (hconduct p hstart).resumes hresumes fun _ _ => trivial
  exact hrest.1

/-- **Conduct rule**: what is kept by every call that the programs may make after the history of
their thread holds before each event and at the end. -/
theorem Reachable.conducted {Allowed : List (Entry Call Answer) → Call → Prop}
    {I : σ → List (Event σ Call Answer) → Prop} {s : σ}
    (hconduct : ∀ p, sys.Start p →
      (recording Allowed fun _ _ => True).Ensures (fun _ _ => True) p [])
    (hserve : ∀ (cfg : Config σ Call Answer α) i c x s', sys.Reachable s cfg →
      I cfg.shared cfg.trace → Allowed (history i cfg.trace) c → sys.Serve cfg.shared c x s' →
      I s' (cfg.trace ++ [⟨i, c, x, cfg.shared, s'⟩]))
    (hinternal : ∀ s trace s', I s trace → sys.Internal s s' → I s' trace)
    (hinit : I s []) {cfg : Config σ Call Answer α} (hreach : sys.Reachable s cfg) :
    I cfg.shared cfg.trace ∧
    ∀ before event after, cfg.trace = before ++ event :: after →
      I event.before before ∧ Allowed (history event.thread before) event.call ∧
        sys.Serve event.before event.call event.answer event.after := by
  unfold System.Reachable at hreach
  induction hreach with
  | refl => exact ⟨hinit, by simp [initial]⟩
  | @tail cfg cfg' hbefore hstep ih =>
    have hreach : sys.Reachable s cfg := hbefore
    have hreach' : sys.Reachable s cfg' := hbefore.tail hstep
    obtain ⟨hinv, hevents⟩ := ih
    cases hstep with
    | start p starts => exact ⟨hinv, hevents⟩
    | advance i c k x s' suspended served =>
      have hmay : Allowed (history i cfg.trace) c :=
        Reachable.allowed hconduct hreach' rfl
      refine ⟨hserve cfg i c x s' hreach hinv hmay served, fun before event after htrace => ?_⟩
      rcases List.eq_nil_or_concat after with rfl | ⟨rest, last, rfl⟩
      · obtain ⟨rfl, hevent⟩ := List.append_inj' htrace rfl
        obtain rfl := List.singleton_inj.mp hevent
        exact ⟨hinv, hmay, served⟩
      · rw [List.concat_eq_append, ← List.cons_append, ← List.append_assoc] at htrace
        obtain ⟨htrace, -⟩ := List.append_inj' htrace rfl
        exact hevents before event rest htrace
    | internal s' moves => exact ⟨hinternal _ _ s' hinv moves, hevents⟩

section Once

variable {κ : Type*} [DecidableEq κ] {f : Call → Option κ} {key : κ} {s : σ}
  {Holder : Nat → List (Event σ Call Answer) → Prop}

theorem Reachable.holder_of_made
    (happend : ∀ i trace rest, Holder i trace → Holder i (trace ++ rest))
    {cfg : Config σ Call Answer α} (hreach : sys.Reachable s cfg)
    (hholds : ∀ before rest, cfg.trace = before ++ rest → ∀ i p call resume, sys.Start p →
      Resumes p (history i before) (.perform call resume) → f call = some key →
        Holder i before ∧ ∀ event ∈ before, event.thread = i → f event.call ≠ some key)
    (hpos : 0 < cfg.made f key) :
    ∃ j, Holder j cfg.trace ∧
      ((∃ event ∈ cfg.trace, event.thread = j ∧ f event.call = some key) ∨
        ∃ thread, cfg.threads[j]? = some thread ∧ thread.pending.bind f = some key) := by
  rcases Nat.eq_zero_or_pos (cfg.trace.countP fun event => f event.call = some key)
    with hzero | hanswered
  · rw [Config.made, hzero, Nat.zero_add] at hpos
    obtain ⟨thread, hmem, hpending⟩ := List.countP_pos_iff.mp hpos
    obtain ⟨j, hj⟩ := List.mem_iff_getElem?.mp hmem
    have hcall : thread.pending.bind f = some key := by simpa using hpending
    refine ⟨j, ?_, .inr ⟨thread, hj, hcall⟩⟩
    cases thread with
    | done a => cases hcall
    | perform call resume =>
      obtain ⟨p, hstart, hresumes⟩ := hreach.resumes.2 j _ hj
      exact (hholds cfg.trace [] (List.append_nil _).symm j p call resume hstart hresumes hcall).1
  · obtain ⟨event, hevent, hcall⟩ := List.countP_pos_iff.mp hanswered
    have hmade : f event.call = some key := by simpa using hcall
    obtain ⟨before, after, htrace⟩ := List.append_of_mem hevent
    obtain ⟨p, resume, hstart, hresumes⟩ := hreach.called htrace
    have hholder := (hholds before (event :: after) htrace event.thread p event.call resume hstart
      hresumes hmade).1
    refine ⟨event.thread, ?_, .inl ⟨event, hevent, rfl, hmade⟩⟩
    rw [htrace]
    exact happend _ _ _ hholder

/-- **Token rule**: if only one thread can hold a key, and a thread calls for it only once and only
after it has got hold of it, the call is made once at most. -/
theorem Reachable.made_le_one (Holder : Nat → List (Event σ Call Answer) → Prop)
    (happend : ∀ i trace rest, Holder i trace → Holder i (trace ++ rest))
    (hown : ∀ i trace, Holder i trace → ∃ event ∈ trace, event.thread = i)
    (hunique : ∀ cfg, sys.Reachable s cfg → ∀ i j, Holder i cfg.trace → Holder j cfg.trace → i = j)
    (hholds : ∀ cfg, sys.Reachable s cfg → ∀ before rest, cfg.trace = before ++ rest →
      ∀ i p call resume, sys.Start p → Resumes p (history i before) (.perform call resume) →
      f call = some key →
        Holder i before ∧ ∀ event ∈ before, event.thread = i → f event.call ≠ some key)
    {cfg : Config σ Call Answer α} (hreach : sys.Reachable s cfg) : cfg.made f key ≤ 1 := by
  have hwaiting : ∀ {cfg : Config σ Call Answer α}, sys.Reachable s cfg → ∀ {i thread},
      cfg.threads[i]? = some thread → thread.pending.bind f = some key →
      Holder i cfg.trace ∧ ∀ event ∈ cfg.trace, event.thread = i → f event.call ≠ some key := by
    intro cfg hreach i thread hthread hpending
    cases thread with
    | done a => cases hpending
    | perform call resume =>
      obtain ⟨p, hstart, hresumes⟩ := hreach.resumes.2 i _ hthread
      exact hholds cfg hreach cfg.trace [] (List.append_nil _).symm i p call resume hstart
        hresumes hpending
  unfold System.Reachable at hreach
  induction hreach with
  | refl => simp [Config.made, System.initial]
  | @tail cfg cfg' hbefore hstep ih =>
    have hreach : sys.Reachable s cfg := hbefore
    have hreach' : sys.Reachable s cfg' := hbefore.tail hstep
    cases hstep with
    | start p starts =>
      have hidle : p.pending.bind f ≠ some key := by
        intro hpending
        have hlast : (cfg.threads ++ [p])[cfg.threads.length]? = some p := by simp
        obtain ⟨event, hevent, hthread⟩ := hown _ _ (hwaiting hreach' hlast hpending).1
        have hbound := hreach.resumes.1 event hevent
        omega
      simpa [Config.made, hidle] using ih
    | advance i call resume answer s' suspended served =>
      have hi : i < cfg.threads.length := (List.getElem?_eq_some_iff.mp suspended).1
      have hcall : cfg.threads[i] = .perform call resume :=
        (List.getElem?_eq_some_iff.mp suspended).2
      have hcount : Config.made f key
          ⟨s', cfg.threads.set i (resume answer),
            cfg.trace ++ [⟨i, call, answer, cfg.shared, s'⟩]⟩ =
          cfg.made f key + if (resume answer).pending.bind f = some key then 1 else 0 := by
        rw [Config.made, Config.made, List.countP_append, List.countP_set hi, hcall,
          List.countP_singleton]
        by_cases hmade : f call = some key
        · have hpos : 0 < cfg.threads.countP fun thread => thread.pending.bind f = some key :=
            List.countP_pos_iff.mpr ⟨_, List.mem_of_getElem? suspended, by simp [hmade]⟩
          simp only [Program.pending_perform, Option.bind_some, hmade, decide_true, if_true,
            decide_eq_true_eq]
          omega
        · simp only [Program.pending_perform, Option.bind_some, hmade, decide_false,
            Bool.false_eq_true, if_false, decide_eq_true_eq]
          omega
      by_cases hpending : (resume answer).pending.bind f = some key
      · -- nobody has made the call before: it would be this thread, and it has not
        have hmoved : (cfg.threads.set i (resume answer))[i]? = some (resume answer) := by
          simp [hi]
        obtain ⟨hholder, hnever⟩ := hwaiting hreach' hmoved hpending
        have hnone : cfg.made f key = 0 := by
          by_contra hne
          obtain ⟨j, hj, hmade⟩ := hreach.holder_of_made happend (hholds cfg hreach)
            (Nat.pos_of_ne_zero hne)
          obtain rfl : i = j := hunique _ hreach' i j hholder (happend _ _ _ hj)
          obtain ⟨event, hevent, hthread, hkey⟩ | ⟨thread, hthread, hkey⟩ := hmade
          · exact hnever event (List.mem_append_left _ hevent) hthread hkey
          · obtain rfl := Option.some.inj (suspended.symm.trans hthread)
            exact hnever ⟨i, call, answer, cfg.shared, s'⟩ (by simp) rfl hkey
        simp only [hcount, hnone, if_pos hpending]
        decide
      · rw [hcount, if_neg hpending]
        exact ih
    | internal s' moves => exact ih

end Once

end System

end Traces

end Concurrency
