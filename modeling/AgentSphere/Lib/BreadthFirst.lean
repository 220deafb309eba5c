import Mathlib.Combinatorics.SimpleGraph.Metric

/-!
# Breadth-first layers

Edges join two nodes each, several of them possibly the same two, and an edge is as far from a root
as the nearer one of its ends. What is at most one step farther is found from the nodes of the last
layer alone; once a layer is empty, nothing is farther.
-/

namespace BreadthFirst

open SimpleGraph

variable {V E : Type}

section Distance

variable {G : SimpleGraph V} {root v : V} {k n : ℕ}

theorem edist_le_succ_iff : G.edist root v ≤ (k + 1 : ℕ) ↔
    G.edist root v ≤ k ∨ ∃ u, G.edist root u ≤ k ∧ G.Adj u v := by
  constructor
  · intro h
    have hfinite : G.edist v root ≠ ⊤ := by
      rw [edist_comm]
      exact ne_top_of_le_ne_top (ENat.natCast_ne_top _) h
    obtain ⟨walk, hwalk⟩ := exists_walk_of_edist_ne_top hfinite
    rw [edist_comm, ← hwalk, Nat.cast_le] at h
    cases walk with
    | nil => exact .inl (by simp)
    | cons hadj rest =>
      refine .inr ⟨_, ?_, hadj.symm⟩
      rw [edist_comm]
      rw [Walk.length_cons, Nat.add_le_add_iff_right] at h
      exact (edist_le rest).trans (Nat.cast_le.mpr h)
  · rintro (h | ⟨u, hu, hadj⟩)
    · exact h.trans (Nat.cast_le.mpr (Nat.le_succ k))
    · calc G.edist root v ≤ G.edist root u + G.edist u v := G.edist_triangle
        _ ≤ k + 1 := add_le_add hu (edist_eq_one_iff_adj.mpr hadj).le

theorem edist_le_of_layer_empty (hempty : ∀ v, G.edist root v ≠ (k + 1 : ℕ))
    (h : G.edist root v ≤ n) : G.edist root v ≤ k := by
  induction n generalizing v with
  | zero => exact h.trans (Nat.cast_le.mpr (Nat.zero_le k))
  | succ n ih =>
    rcases edist_le_succ_iff.mp h with h | ⟨u, hu, hadj⟩
    · exact ih h
    · have hv : G.edist root v ≤ (k + 1 : ℕ) := edist_le_succ_iff.mpr (.inr ⟨u, ih hu, hadj⟩)
      have hlt := lt_of_le_of_ne hv (hempty v)
      rwa [Nat.cast_succ, ENat.lt_add_one_iff (ENat.natCast_ne_top k)] at hlt

end Distance

-- Edges

variable (ends : E → V × V) (edges : Set E) (root : V)

def graph : SimpleGraph V := fromRel fun u v => ∃ e ∈ edges, ends e = (u, v)

noncomputable def reach (e : E) : ℕ∞ :=
  min ((graph ends edges).edist root (ends e).1) ((graph ends edges).edist root (ends e).2)

def within (n : ℕ) : Set E := {e | e ∈ edges ∧ reach ends edges root e < n}

def Touches (n : ℕ) (e : E) : Prop :=
  (graph ends edges).edist root (ends e).1 = n ∨ (graph ends edges).edist root (ends e).2 = n

variable {ends edges root} {n k : ℕ} {e : E} {u v : V}

theorem within_zero : within ends edges root 0 = ∅ := by
  ext e
  simp [within]

theorem mem_within_succ : e ∈ within ends edges root (n + 1) ↔
    e ∈ within ends edges root n ∨ (e ∈ edges ∧ Touches ends edges root n e) := by
  have hreach : reach ends edges root e < (n + 1 : ℕ) ↔
      reach ends edges root e < n ∨ Touches ends edges root n e := by
    rw [Nat.cast_succ, ENat.lt_add_one_iff (ENat.natCast_ne_top n), le_iff_lt_or_eq]
    refine or_congr_right' fun hfar => ?_
    rw [reach, not_lt, le_min_iff] at hfar
    rw [reach, Touches]
    constructor
    · intro h
      rcases min_choice ((graph ends edges).edist root (ends e).1)
        ((graph ends edges).edist root (ends e).2) with hmin | hmin
      · exact .inl (hmin.symm.trans h)
      · exact .inr (hmin.symm.trans h)
    · rintro (h | h)
      · rw [h]
        exact min_eq_left hfar.2
      · rw [h]
        exact min_eq_right hfar.1
  rw [within, Set.mem_ofPred_eq, within, Set.mem_ofPred_eq, hreach, and_or_left]

theorem within_mono (h : n ≤ k) : within ends edges root n ⊆ within ends edges root k :=
  fun _ he => ⟨he.1, he.2.trans_le (Nat.cast_le.mpr h)⟩

theorem adj_iff : (graph ends edges).Adj u v ↔
    u ≠ v ∧ ∃ e ∈ edges, ends e = (u, v) ∨ ends e = (v, u) := by
  rw [graph, fromRel_adj]
  refine and_congr_right fun _ => ?_
  constructor
  · rintro (⟨e, he, h⟩ | ⟨e, he, h⟩)
    · exact ⟨e, he, .inl h⟩
    · exact ⟨e, he, .inr h⟩
  · rintro ⟨e, he, h | h⟩
    · exact .inl ⟨e, he, h⟩
    · exact .inr ⟨e, he, h⟩

theorem edist_le_succ_iff_touches : (graph ends edges).edist root v ≤ (n + 1 : ℕ) ↔
    (graph ends edges).edist root v ≤ n ∨
      ∃ e ∈ edges, Touches ends edges root n e ∧ (v = (ends e).1 ∨ v = (ends e).2) := by
  constructor
  · intro h
    rcases edist_le_succ_iff.mp h with h | ⟨u, hu, hadj⟩
    · exact .inl h
    rw [or_iff_not_imp_left]
    intro hfar
    have hlayer : (graph ends edges).edist root u = n := by
      refine le_antisymm hu (not_lt.mp fun hlt => hfar ?_)
      cases n with
      | zero => simp at hlt
      | succ n =>
        rw [Nat.cast_succ, ENat.lt_add_one_iff (ENat.natCast_ne_top n)] at hlt
        exact edist_le_succ_iff.mpr (.inr ⟨u, hlt, hadj⟩)
    obtain ⟨-, e, he, hends | hends⟩ := adj_iff.mp hadj
    · exact ⟨e, he, .inl (by rw [hends, hlayer]), .inr (by rw [hends])⟩
    · exact ⟨e, he, .inr (by rw [hends, hlayer]), .inl (by rw [hends])⟩
  · have hstep : ∀ {u}, (graph ends edges).edist root u = n →
        v = u ∨ (graph ends edges).Adj u v → (graph ends edges).edist root v ≤ (n + 1 : ℕ) := by
      rintro u hu (rfl | hadj)
      · exact hu.le.trans (Nat.cast_le.mpr (Nat.le_succ n))
      · exact edist_le_succ_iff.mpr (.inr ⟨u, hu.le, hadj⟩)
    rintro (h | ⟨e, he, hfirst | hsecond, hv⟩)
    · exact h.trans (Nat.cast_le.mpr (Nat.le_succ n))
    · refine hstep hfirst (or_iff_not_imp_left.mpr fun hne => ?_)
      obtain rfl := hv.resolve_left hne
      exact adj_iff.mpr ⟨Ne.symm hne, e, he, .inl rfl⟩
    · refine hstep hsecond (or_iff_not_imp_left.mpr fun hne => ?_)
      obtain rfl := hv.resolve_right hne
      exact adj_iff.mpr ⟨Ne.symm hne, e, he, .inr rfl⟩

theorem within_of_layer_empty (hempty : ∀ v, (graph ends edges).edist root v ≠ (k + 1 : ℕ)) :
    within ends edges root n ⊆ within ends edges root (k + 1) := by
  rintro e ⟨he, hreach⟩
  refine ⟨he, ?_⟩
  rw [reach, min_lt_iff] at hreach
  rw [reach, Nat.cast_succ, ENat.lt_add_one_iff (ENat.natCast_ne_top k), min_le_iff]
  rcases hreach with h | h
  · exact .inl (edist_le_of_layer_empty hempty h.le)
  · exact .inr (edist_le_of_layer_empty hempty h.le)

end BreadthFirst
