import AgentSphere.Lib.History
import Mathlib.Data.List.Pairwise

/-!
# Keys that can be claimed once

A shared set of used keys makes a call happen once: a thread claims the key, the claim succeeds
only if nobody has claimed it before, and only a thread whose claim has succeeded makes the call.
-/

namespace Concurrency

universe v w

section Claims

variable {σ : Type w} {Call : Type v} {Answer : Call → Type v} {α : Type v} {κ : Type*}

/-- The answered calls `won` have claimed a key. The set of used keys only grows, contains what was
claimed, and only what it does not contain can be claimed. -/
structure Claims (sys : System σ Call Answer α) (won : Entry Call Answer → Option κ)
    (used : σ → Set κ) : Prop where
  fresh : ∀ {s c x s' key}, sys.Serve s c x s' → won ⟨c, x⟩ = some key → key ∉ used s
  kept : ∀ {s c x s' key}, sys.Serve s c x s' → won ⟨c, x⟩ = some key → key ∈ used s'
  grows : ∀ {s c x s' key}, sys.Serve s c x s' → key ∈ used s → key ∈ used s'
  stays : ∀ {s s' key}, sys.Internal s s' → key ∈ used s → key ∈ used s'

namespace Claims

variable {sys : System σ Call Answer α} {won : Entry Call Answer → Option κ} {used : σ → Set κ}
  {s : σ} {cfg : Config σ Call Answer α} {key : κ}

def Remembered (won : Entry Call Answer → Option κ) (used : σ → Set κ) (s : σ)
    (trace : List (Event σ Call Answer)) : Prop :=
  (∀ event ∈ trace, ∀ key, won event.entry = some key → key ∈ used s) ∧
    trace.Pairwise fun event event' =>
      ∀ key, won event.entry = some key → won event'.entry ≠ some key

theorem always (h : Claims sys won used) (hreach : sys.Reachable s cfg) :
    Remembered won used cfg.shared cfg.trace ∧
    ∀ before event after, cfg.trace = before ++ event :: after →
      Remembered won used event.before before ∧
        sys.Serve event.before event.call event.answer event.after := by
  refine hreach.always ?_ ?_ ⟨by simp, .nil⟩
  · rintro s trace i c x s' ⟨hused, hpairwise⟩ hserve
    refine ⟨fun event hevent key hwon => ?_, ?_⟩
    · obtain hold | hnew := List.mem_append.mp hevent
      · exact h.grows hserve (hused event hold key hwon)
      · obtain rfl := List.mem_singleton.mp hnew
        exact h.kept hserve hwon
    · refine List.pairwise_append.mpr ⟨hpairwise, List.pairwise_singleton .., ?_⟩
      intro event hevent new hnew key hwon hwon'
      obtain rfl := List.mem_singleton.mp hnew
      exact h.fresh hserve hwon' (hused event hevent key hwon)
  · rintro s trace s' ⟨hused, hpairwise⟩ hmoves
    exact ⟨fun event hevent key hwon => h.stays hmoves (hused event hevent key hwon), hpairwise⟩

/-- **First claim**: before a claim that has succeeded the key was not used, and nobody had claimed
it. -/
theorem first (h : Claims sys won used) (hreach : sys.Reachable s cfg)
    {before after : List (Event σ Call Answer)} {event : Event σ Call Answer}
    (htrace : cfg.trace = before ++ event :: after) (hwon : won event.entry = some key) :
    key ∉ used event.before ∧ ∀ earlier ∈ before, won earlier.entry ≠ some key := by
  obtain ⟨⟨hused, -⟩, hserve⟩ := (h.always hreach).2 before event after htrace
  have hfresh : key ∉ used event.before := h.fresh hserve hwon
  exact ⟨hfresh, fun earlier hearlier hwon' => hfresh (hused earlier hearlier key hwon')⟩

theorem unique (h : Claims sys won used) (hreach : sys.Reachable s cfg)
    {event event' : Event σ Call Answer} (hevent : event ∈ cfg.trace) (hevent' : event' ∈ cfg.trace)
    (hwon : won event.entry = some key) (hwon' : won event'.entry = some key) :
    event = event' := by
  have hsymm : Std.Symm fun event event' : Event σ Call Answer =>
      ∀ key, won event.entry = some key → won event'.entry ≠ some key :=
    ⟨fun _ _ h key hwon hwon' => h key hwon' hwon⟩
  by_contra hne
  exact (h.always hreach).1.2.forall hevent hevent' hne key hwon hwon'

/-- **Claim rule**: what a thread calls for only with a key it has claimed, and only once, is called
for once at most. -/
theorem made_le_one [DecidableEq κ] {f : Call → Option κ} (h : Claims sys won used)
    (hspends : ∀ p, sys.Start p → ∀ entries call resume,
      Resumes p entries (.perform call resume) → f call = some key →
        (∃ entry ∈ entries, won entry = some key) ∧ ∀ entry ∈ entries, f entry.1 ≠ some key)
    (hreach : sys.Reachable s cfg) : cfg.made f key ≤ 1 := by
  refine hreach.made_le_one (fun i trace => ∃ event ∈ trace, event.thread = i ∧
    won event.entry = some key) ?_ ?_ ?_ ?_
  · rintro i trace rest ⟨event, hevent, hclaim⟩
    exact ⟨event, List.mem_append_left rest hevent, hclaim⟩
  · rintro i trace ⟨event, hevent, hthread, -⟩
    exact ⟨event, hevent, hthread⟩
  · rintro cfg hreach i j ⟨event, hevent, rfl, hwon⟩ ⟨event', hevent', rfl, hwon'⟩
    rw [h.unique hreach hevent hevent' hwon hwon']
  · intro cfg hreach before rest htrace i p call resume hstart hresumes hkey
    obtain ⟨⟨entry, hentry, hwon⟩, hnever⟩ := hspends p hstart _ call resume hresumes hkey
    obtain ⟨event, hevent, hthread, rfl⟩ := mem_history.mp hentry
    refine ⟨⟨event, hevent, hthread, hwon⟩, fun other hother hthread' => ?_⟩
    exact hnever other.entry (mem_history.mpr ⟨other, hother, hthread', rfl⟩)

end Claims

end Claims

end Concurrency
