import Mathlib.Logic.Relation

/-!
# Invariants of transition relations

The two ways a fact about one step becomes a fact about a whole run: a predicate that every
step keeps holds at the end of the run, and a reflexive and transitive relation that every
step respects relates its two ends.
-/

namespace Concurrency

open Relation

variable {σ : Type*} {Step : σ → σ → Prop} {P : σ → Prop}

theorem invariant_of_steps (hstep : ∀ s s', P s → Step s s' → P s') {s s' : σ}
    (hinv : P s) (hrun : ReflTransGen Step s s') : P s' := by
  induction hrun with
  | refl => exact hinv
  | tail _ hlast ih => exact hstep _ _ ih hlast

theorem relates_of_steps {R : σ → σ → Prop} (hrefl : ∀ s, R s s)
    (htrans : ∀ s t u, R s t → R t u → R s u)
    (hstep : ∀ s s', P s → Step s s' → P s' ∧ R s s') {s s' : σ}
    (hinv : P s) (hrun : ReflTransGen Step s s') : R s s' := by
  have hboth : P s' ∧ R s s' := by
    induction hrun with
    | refl => exact ⟨hinv, hrefl s⟩
    | tail _ hlast ih =>
      obtain ⟨hmid, hrel⟩ := ih
      obtain ⟨hnext, hone⟩ := hstep _ _ hmid hlast
      exact ⟨hnext, htrans _ _ _ hrel hone⟩
  exact hboth.2

section Actions

variable {α : Type*} {next : σ → α → Option σ} {Meets : σ → α → Prop}

def StepBy (next : σ → α → Option σ) (Meets : σ → α → Prop) (s s' : σ) : Prop :=
  ∃ a, Meets s a ∧ next s a = some s'

/-- The state after a list of actions, if each of them meets the condition and can be taken. -/
def runActions (next : σ → α → Option σ) (Meets : σ → α → Prop) [∀ s a, Decidable (Meets s a)]
    (s : σ) (actions : List α) : Option σ :=
  actions.foldlM (fun s a => if Meets s a then next s a else none) s

theorem steps_of_runActions [∀ s a, Decidable (Meets s a)] {actions : List α} {s s' : σ}
    (h : runActions next Meets s actions = some s') : ReflTransGen (StepBy next Meets) s s' := by
  induction actions generalizing s with
  | nil =>
    obtain rfl : s = s' := by simpa [runActions] using h
    exact .refl
  | cons a actions ih =>
    obtain ⟨t, ht, hrest⟩ := Option.bind_eq_some_iff.mp h
    by_cases hmeets : Meets s a
    · exact .head ⟨a, hmeets, (if_pos hmeets).symm.trans ht⟩ (ih hrest)
    · exact nomatch (if_neg hmeets).symm.trans ht

end Actions

end Concurrency
