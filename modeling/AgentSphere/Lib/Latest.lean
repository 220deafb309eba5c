import Mathlib.Data.List.Sort
import Mathlib.Data.Set.Insert

/-!
# The latest items

A window of bounded length holds the latest of the items that were seen, in the order of their
times. It can be kept up one item at a time, by what it holds and nothing else: an item that is
earlier than all of a full window stays out, and any other takes the place of the oldest. Once all
times are different the window depends on what was seen, and not on the order in which it was.
-/

namespace BoundedWindow

variable {α τ : Type*} [LinearOrder τ] {time : α → τ} {n : Nat} {seen : Set α}
  {items sorted window window' rest : List α} {item oldest : α}

/-- At most so many of the items that were seen, in the order of their times: the latest ones. -/
structure Latest (time : α → τ) (n : Nat) (seen : Set α) (window : List α) : Prop where
  sorted : window.Pairwise fun a b => time a < time b
  subset : ∀ a ∈ window, a ∈ seen
  bounded : window.length ≤ n
  complete : ∀ a ∈ seen, a ∉ window → window.length = n ∧ ∀ b ∈ window, time a < time b

theorem strict_of_distinct (hsorted : sorted.Pairwise fun a b => time a ≤ time b)
    (hdistinct : (sorted.map time).Nodup) : sorted.Pairwise fun a b => time a < time b :=
  (hsorted.and (List.pairwise_map.mp hdistinct)).imp fun h => lt_of_le_of_ne h.1 h.2

namespace Latest

theorem nil : Latest time n ∅ [] where
  sorted := .nil
  subset := List.forall_mem_nil _
  bounded := Nat.zero_le n
  complete _ h := absurd h (Set.notMem_empty _)

theorem nodup (h : Latest time n seen window) : window.Nodup :=
  h.sorted.imp fun hlt heq => absurd (heq ▸ hlt) (lt_irrefl _)

theorem known (h : Latest time n seen window) (hmem : item ∈ window) :
    Latest time n (insert item seen) window := by
  rwa [Set.insert_eq_of_mem (h.subset item hmem)]

theorem stale (h : Latest time n seen window) (hfull : window.length = n)
    (hbefore : ∀ b ∈ window, time item < time b) : Latest time n (insert item seen) window where
  sorted := h.sorted
  subset a ha := Set.mem_insert_of_mem item (h.subset a ha)
  bounded := h.bounded
  complete a ha hout := by
    obtain rfl | hseen := Set.mem_insert_iff.mp ha
    · exact ⟨hfull, hbefore⟩
    · exact h.complete a hseen hout

theorem entered (h : Latest time n seen window) (hroom : window.length < n)
    (hperm : window'.Perm (item :: window))
    (hsorted : window'.Pairwise fun a b => time a < time b) :
    Latest time n (insert item seen) window' where
  sorted := hsorted
  subset a ha := by
    obtain rfl | hold := List.mem_cons.mp (hperm.mem_iff.mp ha)
    · exact Set.mem_insert a seen
    · exact Set.mem_insert_of_mem item (h.subset a hold)
  bounded := by
    rw [hperm.length_eq]
    exact hroom
  complete a ha hout := by
    have hold : a ∉ item :: window := fun hmem => hout (hperm.mem_iff.mpr hmem)
    obtain ⟨hne, hnot⟩ := List.ne_and_not_mem_of_not_mem_cons hold
    obtain rfl | hseen := Set.mem_insert_iff.mp ha
    · exact absurd rfl hne
    · exact absurd (h.complete a hseen hnot).1 hroom.ne

theorem exchanged (h : Latest time n seen (oldest :: rest)) (hfull : (oldest :: rest).length = n)
    (hlater : time oldest < time item) (hperm : window'.Perm (item :: rest))
    (hsorted : window'.Pairwise fun a b => time a < time b) :
    Latest time n (insert item seen) window' where
  sorted := hsorted
  subset a ha := by
    obtain rfl | hold := List.mem_cons.mp (hperm.mem_iff.mp ha)
    · exact Set.mem_insert a seen
    · exact Set.mem_insert_of_mem item (h.subset a (List.mem_cons_of_mem oldest hold))
  bounded := by
    rw [hperm.length_eq]
    exact hfull.le
  complete a ha hout := by
    have hlength : window'.length = n := hperm.length_eq.trans hfull
    have hnot : a ∉ item :: rest := fun hmem => hout (hperm.mem_iff.mpr hmem)
    obtain ⟨hne, hrest⟩ := List.ne_and_not_mem_of_not_mem_cons hnot
    obtain ⟨hfirst, -⟩ := List.pairwise_cons.mp h.sorted
    -- whatever is not later than the oldest is earlier than the others and than the new one
    have hbefore : time a ≤ time oldest → ∀ b ∈ window', time a < time b := by
      intro hle b hb
      obtain rfl | hb := List.mem_cons.mp (hperm.mem_iff.mp hb)
      · exact hle.trans_lt hlater
      · exact hle.trans_lt (hfirst b hb)
    obtain rfl | hseen := Set.mem_insert_iff.mp ha
    · exact absurd rfl hne
    · by_cases holdest : a = oldest
      · exact ⟨hlength, hbefore (by rw [holdest])⟩
      · have hold : a ∉ oldest :: rest := List.not_mem_cons_of_ne_of_not_mem holdest hrest
        obtain ⟨-, hearlier⟩ := h.complete a hseen hold
        exact ⟨hlength, hbefore (hearlier oldest List.mem_cons_self).le⟩

theorem subset_of_latest (h : Latest time n seen window) (h' : Latest time n seen window') :
    window ⊆ window' := by
  intro a ha
  by_contra hout
  obtain ⟨hfull, hbefore⟩ := h'.complete a (h.subset a ha) hout
  have hsub : window' ⊆ window := by
    intro b hb
    by_contra hnot
    obtain ⟨-, hearlier⟩ := h.complete b (h'.subset b hb) hnot
    exact lt_asymm (hbefore b hb) (hearlier a ha)
  have hnodup : (a :: window').Nodup := List.nodup_cons.mpr ⟨hout, h'.nodup⟩
  have hlength : (a :: window').length ≤ window.length :=
    (List.subperm_of_subset hnodup (List.cons_subset.mpr ⟨ha, hsub⟩)).length_le
  rw [List.length_cons, hfull] at hlength
  exact Nat.not_succ_le_self n (hlength.trans h.bounded)

/-- **The window is determined by what was seen.** -/
theorem unique (h : Latest time n seen window) (h' : Latest time n seen window') :
    window = window' := by
  have hperm : window.Perm window' := by
    refine (List.perm_ext_iff_of_nodup h.nodup h'.nodup).mpr fun a => ?_
    exact ⟨fun ha => h.subset_of_latest h' ha, fun ha => h'.subset_of_latest h ha⟩
  refine hperm.eq_of_pairwise ?_ h.sorted h'.sorted
  exact fun a b _ _ hlt hgt => absurd hgt (lt_asymm hlt)

end Latest

/-- **The latest items are the end of the sorted list.** -/
theorem latest_drop (hdistinct : (items.map time).Nodup) (hperm : sorted.Perm items)
    (hsorted : sorted.Pairwise fun a b => time a ≤ time b) :
    Latest time n {a | a ∈ items} (sorted.drop (items.length - n)) := by
  have hstrict : sorted.Pairwise fun a b => time a < time b :=
    strict_of_distinct hsorted ((hperm.map time).nodup_iff.mpr hdistinct)
  have hlength := hperm.length_eq
  refine ⟨hstrict.sublist (List.drop_sublist ..), fun a ha => ?_, ?_, fun a ha hout => ?_⟩
  · exact hperm.mem_iff.mp (List.mem_of_mem_drop ha)
  · rw [List.length_drop]
    omega
  · -- what was dropped stood before all that is left
    have hsplit := List.take_append_drop (items.length - n) sorted
    have hmem : a ∈ sorted := hperm.mem_iff.mpr ha
    rw [← hsplit] at hstrict hmem
    obtain ⟨-, -, hbefore⟩ := List.pairwise_append.mp hstrict
    obtain hdropped | hkept := List.mem_append.mp hmem
    · refine ⟨?_, hbefore a hdropped⟩
      have hpos : 0 < (sorted.take (items.length - n)).length := List.length_pos_of_mem hdropped
      rw [List.length_take] at hpos
      rw [List.length_drop]
      omega
    · exact absurd hkept hout

end BoundedWindow
