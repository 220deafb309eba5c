import AgentSphere.Lib.History

/-!
# Cells with versions

A shared cell that is empty at first and is only ever replaced by its next version. A write that
names the version it replaces, then, replaces the very value that was read with that version: no
write is lost, however the reads and writes of several threads are interleaved.
-/

namespace Concurrency

universe v w

inductive CellStep {V : Type*} (version : V → Nat) : Option V → Option V → Prop where
  | same (cell : Option V) : CellStep version cell cell
  | created (value : V) (first : version value = 1) : CellStep version none (some value)
  | replaced (value value' : V) (next : version value' = version value + 1) :
      CellStep version (some value) (some value')

section Cells

variable {σ : Type w} {Call : Type v} {Answer : Call → Type v} {α : Type v} {V : Type*}

/-- In the runs from `s` every event takes the cell through at most one step, and nothing else
changes it. -/
structure Versioned (sys : System σ Call Answer α) (s : σ) (cell : σ → Option V)
    (version : V → Nat) : Prop where
  step : ∀ {cfg}, sys.Reachable s cfg → ∀ event ∈ cfg.trace,
    CellStep version (cell event.before) (cell event.after)
  internal : ∀ {s s'}, sys.Internal s s' → cell s' = cell s

namespace Versioned

variable {sys : System σ Call Answer α} {cell : σ → Option V} {version : V → Nat} {s : σ}
  {cfg : Config σ Call Answer α} {before between later : List (Event σ Call Answer)}
  {event last : Event σ Call Answer} {value value' : V}

/-- **Relation rule**: a preorder that every later write respects relates what the cell held after
an event to what it holds before each later event and at the end. -/
theorem related (h : Versioned sys s cell version) {R : V → V → Prop}
    (hrefl : ∀ value, R value value)
    (htrans : ∀ u v w, R u v → R v w → R u w) (hreach : sys.Reachable s cfg)
    (htrace : cfg.trace = before ++ event :: later)
    (hwrites : ∀ next ∈ later, ∀ v v', cell next.before = some v → cell next.after = some v' →
      v = v' ∨ R v v')
    (hvalue : cell event.after = some value) :
    (∃ value', cell cfg.shared = some value' ∧ R value value') ∧
    ∀ between last rest, later = between ++ last :: rest →
      ∃ value', cell last.before = some value' ∧ R value value' := by
  obtain ⟨hend, hevents⟩ := hreach.after
    (Q := fun s => ∃ value', cell s = some value' ∧ R value value')
    (K := fun next => CellStep version (cell next.before) (cell next.after) ∧
      ∀ v v', cell next.before = some v → cell next.after = some v' → v = v' ∨ R v v')
    (by
      rintro next - ⟨hstep, hwrite⟩ ⟨v, hv, hR⟩
      rw [hv] at hstep
      generalize hafter : cell next.after = after at hstep
      cases hstep with
      | same => exact ⟨v, rfl, hR⟩
      | replaced _ v' _ =>
        refine ⟨v', rfl, ?_⟩
        obtain rfl | hnext := hwrite v v' hv hafter
        · exact hR
        · exact htrans _ _ _ hR hnext)
    (by
      rintro s s' ⟨v, hv, hR⟩ hmoves
      exact ⟨v, (h.internal hmoves).trans hv, hR⟩)
    htrace ⟨value, hvalue, hrefl value⟩
  have hsteps : ∀ next ∈ later, CellStep version (cell next.before) (cell next.after) :=
    fun next hnext => h.step hreach next (by simp [htrace, hnext])
  refine ⟨hend fun next hnext => ⟨hsteps next hnext, hwrites next hnext⟩, ?_⟩
  intro between last rest hlater
  refine hevents between last rest hlater fun next hnext => ?_
  have hmem : next ∈ later := by simp [hlater, hnext]
  exact ⟨hsteps next hmem, hwrites next hmem⟩

theorem eq_of_version_eq (h : Versioned sys s cell version) (hreach : sys.Reachable s cfg)
    (htrace : cfg.trace = before ++ event :: between ++ last :: later)
    (hread : cell event.after = some value) (hfound : cell last.before = some value')
    (hversion : version value' = version value) : value' = value := by
  have htrace' : cfg.trace = before ++ event :: (between ++ last :: later) := by simpa using htrace
  obtain ⟨-, hevents⟩ := h.related
    (R := fun v v' : V => v = v' ∨ version v < version v') (fun v => .inl rfl)
    (by
      rintro u v w (rfl | huv) (rfl | hvw)
      · exact .inl rfl
      · exact .inr hvw
      · exact .inr huv
      · exact .inr (Nat.lt_trans huv hvw))
    hreach htrace'
    (by
      intro next hnext v v' hv hv'
      have hstep := h.step hreach next (by rw [htrace']; simp [hnext])
      rw [hv, hv'] at hstep
      cases hstep with
      | same => exact .inl rfl
      | replaced _ _ hgrows => exact .inr (.inr (by omega)))
    hread
  obtain ⟨v, hv, hgrown⟩ := hevents between last later rfl
  obtain rfl := Option.some.inj (hfound.symm.trans hv)
  obtain heq | hlt := hgrown
  · exact heq.symm
  · omega

theorem holds (h : Versioned sys s cell version) {P : V → Prop} (hempty : cell s = none)
    (hreach : sys.Reachable s cfg)
    (hwrites : ∀ event ∈ cfg.trace, ∀ v, cell event.after = some v →
      cell event.after ≠ cell event.before → P v)
    (hvalue : cell cfg.shared = some value) : P value := by
  refine (hreach.always (I := fun s trace => (∀ event ∈ trace, ∀ v, cell event.after = some v →
    cell event.after ≠ cell event.before → P v) → ∀ v, cell s = some v → P v) ?_ ?_ ?_).1 hwrites
    value hvalue
  · intro s trace i c x s' hholds _ hwrites v hv
    by_cases hsame : cell s' = cell s
    · exact hholds (fun event hevent => hwrites event (by simp [hevent])) v (hsame.symm.trans hv)
    · exact hwrites ⟨i, c, x, s, s'⟩ (by simp) v hv hsame
  · intro s trace s' hholds hmoves hwrites v hv
    exact hholds hwrites v ((h.internal hmoves).symm.trans hv)
  · simp [hempty]

/-- **Counting rule**: the version of a cell that was empty counts the writes. -/
theorem version_eq_countP [DecidableEq V] (h : Versioned sys s cell version)
    (hempty : cell s = none) (hreach : sys.Reachable s cfg) :
    ((cell cfg.shared).map version).getD 0 =
      cfg.trace.countP fun event => cell event.after ≠ cell event.before := by
  refine (hreach.always (I := fun s trace =>
    (∀ event ∈ trace, CellStep version (cell event.before) (cell event.after)) →
      ((cell s).map version).getD 0 =
        trace.countP fun event => cell event.after ≠ cell event.before) ?_ ?_ ?_).1
    (h.step hreach)
  · intro s trace i c x s' hcount _ hsteps
    rw [List.countP_append, ← hcount fun event hevent => hsteps event (by simp [hevent]),
      List.countP_singleton]
    have hstep := hsteps ⟨i, c, x, s, s'⟩ (by simp)
    simp only at hstep ⊢
    generalize cell s = before at hstep ⊢
    generalize cell s' = after at hstep ⊢
    cases hstep with
    | same => simp
    | created value first => simp [first]
    | replaced value value' next =>
      have hne : value' ≠ value := by
        rintro rfl
        omega
      simp [next, hne]
  · intro s trace s' hcount hmoves hsteps
    rw [h.internal hmoves]
    exact hcount hsteps
  · simp [hempty]

end Versioned

end Cells

end Concurrency
