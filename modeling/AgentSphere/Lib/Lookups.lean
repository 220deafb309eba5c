import AgentSphere.Lib.History
import Mathlib.Data.List.Induction
import Mathlib.Data.List.Pairwise

/-!
# Keys that are looked up before they are entered

A thread looks a key up, and if nothing is known of it the thread acts for the key and enters it
among what is known. Between the look-up and the entry another thread may look up the same key, and
then both act. While no key is looked up that another thread has looked up in vain and not settled
since, only one thread acts for it.
-/

namespace Concurrency

universe v w

section Lookups

variable {σ : Type w} {Call : Type v} {Answer : Call → Type v} {α : Type v} {κ : Type*}

theorem pairwise_of_before {β : Type*} {R : β → β → Prop} {l : List β}
    (h : ∀ before b after, l = before ++ b :: after → ∀ a ∈ before, R a b) : l.Pairwise R := by
  induction l using List.reverseRecOn with
  | nil => exact .nil
  | append_singleton l b ih =>
    refine List.pairwise_append.mpr ⟨ih fun before b' after hl a ha => ?_,
      List.pairwise_singleton .., fun a ha b' hb' => ?_⟩
    · exact h before b' (after ++ [b]) (by simp [hl]) a ha
    · obtain rfl := List.mem_singleton.mp hb'
      exact h l b' [] rfl a ha

/-- A thread with this history has looked up the key in vain, and has not come to its end. -/
def Open (misses : Entry Call Answer → κ → Prop) (ends : Entry Call Answer → Prop)
    (entries : List (Entry Call Answer)) (key : κ) : Prop :=
  (∃ entry ∈ entries, misses entry key) ∧ ∀ entry ∈ entries, ¬ends entry

def Apart (misses : Entry Call Answer → κ → Prop) (ends : Entry Call Answer → Prop)
    (trace : List (Event σ Call Answer)) : Prop :=
  ∀ before event after, trace = before ++ event :: after → ∀ key, misses event.entry key →
    ∀ i ≠ event.thread, ¬Open misses ends (history i before) key

theorem apart_of_first {misses : Entry Call Answer → κ → Prop} {ends : Entry Call Answer → Prop}
    {trace : List (Event σ Call Answer)} {first : Entry Call Answer}
    {rest : List (Entry Call Answer)} (htrace : trace.map Event.entry = first :: rest)
    (hrest : ∀ entry ∈ rest, ∀ key, ¬misses entry key) : Apart misses ends trace := by
  intro before event after hsplit key hmisses i _ hopen
  rw [hsplit, List.map_append, List.map_cons] at htrace
  cases before with
  | nil =>
    obtain ⟨⟨entry, hentry, -⟩, -⟩ := hopen
    cases hentry
  | cons other before =>
    have htail : before.map Event.entry ++ event.entry :: after.map Event.entry = rest :=
      (List.cons.inj htrace).2
    refine hrest event.entry ?_ key hmisses
    rw [← htail]
    exact List.mem_append_right _ List.mem_cons_self

/-- A thread acts for keys that it has looked up in vain, once for each and before its end; and at
its end the keys it has acted for are known. What is known stays known, and is not missed. -/
structure LooksFirst (sys : System σ Call Answer α)
    (Allowed : List (Entry Call Answer) → Call → Prop)
    (misses acts settles : Entry Call Answer → κ → Prop) (ends : Entry Call Answer → Prop)
    (known : σ → κ → Prop) : Prop where
  conduct : ∀ p, sys.Start p → (recording Allowed fun _ _ => True).Ensures (fun _ _ => True) p []
  missed : ∀ {s c x s' key}, sys.Serve s c x s' → misses ⟨c, x⟩ key → ¬known s key
  settled : ∀ {s c x s' key}, sys.Serve s c x s' → settles ⟨c, x⟩ key → known s' key
  grows : ∀ {s c x s' key}, sys.Serve s c x s' → known s key → known s' key
  stays : ∀ {s s' key}, sys.Internal s s' → known s key → known s' key
  opened : ∀ {s entries c x s' key}, Allowed entries c → sys.Serve s c x s' → acts ⟨c, x⟩ key →
    Open misses ends entries key ∧ ∀ entry ∈ entries, ¬acts entry key
  closed : ∀ {entries c x key}, Allowed entries c → ends ⟨c, x⟩ →
    (∃ entry ∈ entries ++ [⟨c, x⟩], acts entry key) →
    ∃ entry ∈ entries ++ [⟨c, x⟩], settles entry key

namespace LooksFirst

variable {sys : System σ Call Answer α} {Allowed : List (Entry Call Answer) → Call → Prop}
  {misses acts settles : Entry Call Answer → κ → Prop} {ends : Entry Call Answer → Prop}
  {known : σ → κ → Prop} {s : σ} {cfg : Config σ Call Answer α} {key : κ}
  {before after : List (Event σ Call Answer)} {event other : Event σ Call Answer}

theorem known_of_settled (h : LooksFirst sys Allowed misses acts settles ends known)
    (hreach : sys.Reachable s cfg) (htrace : cfg.trace = before ++ event :: after)
    (hother : other ∈ before) (hsettles : settles other.entry key) : known event.before key := by
  refine ((hreach.always (I := fun s trace => ∀ event ∈ trace, ∀ key,
    settles event.entry key → known s key) ?_ ?_ (by simp)).2 before event after htrace).1
    other hother key hsettles
  · intro s trace i c x s' hknown hserve event hevent key hsettles
    obtain hold | hnew := List.mem_append.mp hevent
    · exact h.grows hserve (hknown event hold key hsettles)
    · obtain rfl := List.mem_singleton.mp hnew
      exact h.settled hserve hsettles
  · intro s trace s' hknown hmoves event hevent key hsettles
    exact h.stays hmoves (hknown event hevent key hsettles)

theorem not_acts (h : LooksFirst sys Allowed misses acts settles ends known)
    (hreach : sys.Reachable s cfg) (htrace : cfg.trace = before ++ event :: after)
    (hmisses : misses event.entry key) {i : Nat}
    (hlooked : ∃ entry ∈ history i before, misses entry key)
    (hclosed : ¬Open misses ends (history i before) key) (hother : other ∈ cfg.trace)
    (hi : other.thread = i) : ¬acts other.entry key := by
  intro hacts
  obtain ⟨entry, hentry, hends⟩ : ∃ entry ∈ history i before, ends entry := by
    by_contra hnone
    exact hclosed ⟨hlooked, fun entry hentry hends => hnone ⟨entry, hentry, hends⟩⟩
  obtain ⟨final, hfinal, hown, rfl⟩ := mem_history.mp hentry
  obtain ⟨early, late, rfl⟩ := List.append_of_mem hfinal
  have hsplit : cfg.trace = early ++ final :: (late ++ event :: after) := by simp [htrace]
  have hcloses : (∃ entry ∈ history i early ++ [final.entry], acts entry key) → False := by
    intro hacted
    have hmay := System.Reachable.allowed h.conduct hreach hsplit
    rw [hown] at hmay
    obtain ⟨entry, hmem, hsettles⟩ := h.closed hmay hends hacted
    have hknown : ∃ earlier ∈ early ++ final :: late, settles earlier.entry key := by
      obtain hold | hnew := List.mem_append.mp hmem
      · obtain ⟨earlier, hearlier, -, rfl⟩ := mem_history.mp hold
        exact ⟨earlier, List.mem_append_left _ hearlier, hsettles⟩
      · obtain rfl := List.mem_singleton.mp hnew
        exact ⟨final, by simp, hsettles⟩
    obtain ⟨earlier, hearlier, hsettles⟩ := hknown
    refine h.missed (hreach.served event (by simp [htrace])) hmisses ?_
    exact h.known_of_settled hreach htrace hearlier hsettles
  rw [hsplit] at hother
  obtain hearly | hlate := List.mem_append.mp hother
  · exact hcloses ⟨other.entry, List.mem_append_left _ (mem_history.mpr
      ⟨other, hearly, hi, rfl⟩), hacts⟩
  obtain rfl | hlate := List.mem_cons.mp hlate
  · exact hcloses ⟨other.entry, by simp, hacts⟩
  · -- the thread has come to its end before
    obtain ⟨between, rest, hrest⟩ := List.append_of_mem hlate
    have hacted : cfg.trace = (early ++ final :: between) ++ other :: rest := by
      rw [hsplit, hrest]
      simp
    have hmay := System.Reachable.allowed h.conduct hreach hacted
    rw [hi] at hmay
    have hserve := hreach.served other (by simp [hacted])
    refine (h.opened hmay hserve hacts).1.2 final.entry
      (mem_history.mpr ⟨final, ?_, hown, rfl⟩) hends
    simp

theorem not_acts_of_apart (h : LooksFirst sys Allowed misses acts settles ends known)
    (hreach : sys.Reachable s cfg) (hapart : Apart misses ends cfg.trace)
    (htrace : cfg.trace = before ++ event :: after) (hmisses : misses event.entry key)
    {look : Event σ Call Answer} (hlook : look ∈ before) (hlooked : misses look.entry key)
    (hthread : look.thread ≠ event.thread) (hother : other ∈ cfg.trace)
    (hown : other.thread = look.thread) : ¬acts other.entry key :=
  h.not_acts hreach htrace hmisses
    ⟨look.entry, mem_history.mpr ⟨look, hlook, rfl, rfl⟩, hlooked⟩
    (hapart before event after htrace key hmisses look.thread hthread) hother hown

/-- **Look-ups apart**: where no key is looked up while another thread has it open, a key is acted
for once at most. -/
theorem acts_once (h : LooksFirst sys Allowed misses acts settles ends known)
    (hreach : sys.Reachable s cfg) (hapart : Apart misses ends cfg.trace) :
    cfg.trace.Pairwise fun event event' =>
      ∀ key, acts event.entry key → ¬acts event'.entry key := by
  have hlooks : ∀ {before event after key}, cfg.trace = before ++ event :: after →
      acts event.entry key → (∃ look ∈ before, look.thread = event.thread ∧
        misses look.entry key) ∧ ∀ entry ∈ history event.thread before, ¬acts entry key := by
    intro before event after key htrace hacts
    have hmay := System.Reachable.allowed h.conduct hreach htrace
    have hserve := hreach.served event (by simp [htrace])
    obtain ⟨⟨⟨_, hmem, hmisses⟩, -⟩, honce⟩ := h.opened hmay hserve hacts
    obtain ⟨look, hlook, hthread, rfl⟩ := mem_history.mp hmem
    exact ⟨⟨look, hlook, hthread, hmisses⟩, honce⟩
  refine pairwise_of_before fun before event after htrace earlier hearlier key hacts hacts' => ?_
  obtain ⟨⟨look, hlook, hthread, hmisses⟩, honce⟩ := hlooks htrace hacts'
  by_cases hsame : earlier.thread = event.thread
  · exact honce earlier.entry (mem_history.mpr ⟨earlier, hearlier, hsame, rfl⟩) hacts
  · -- both have looked the key up, one after the other
    obtain ⟨front, back, hsplit⟩ := List.append_of_mem hearlier
    have hfirst : cfg.trace = front ++ earlier :: (back ++ event :: after) := by
      simp [htrace, hsplit]
    obtain ⟨⟨look', hlook', hthread', hmisses'⟩, -⟩ := hlooks hfirst hacts
    have hmem : look ∈ cfg.trace := htrace ▸ List.mem_append_left _ hlook
    have hmem' : look' ∈ cfg.trace := hfirst ▸ List.mem_append_left _ hlook'
    have hne : look'.thread ≠ look.thread := by rwa [hthread, hthread']
    obtain ⟨first, rest, hlooked⟩ := List.append_of_mem hmem
    rw [hlooked] at hmem'
    obtain hbefore | hafter := List.mem_append.mp hmem'
    · refine h.not_acts_of_apart hreach hapart hlooked hmisses hbefore hmisses' hne ?_
        hthread'.symm hacts
      simp [hfirst]
    · obtain rfl | hafter := List.mem_cons.mp hafter
      · exact hne rfl
      · obtain ⟨between, last, hlast⟩ := List.append_of_mem hafter
        have hlooked' : cfg.trace = (first ++ look :: between) ++ look' :: last := by
          simp [hlooked, hlast]
        refine h.not_acts_of_apart hreach hapart hlooked' hmisses' (by simp) hmisses hne.symm ?_
          hthread.symm hacts'
        simp [htrace]

end LooksFirst

end Lookups

end Concurrency
