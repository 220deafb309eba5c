import Std.Data.ExtTreeMap.Lemmas
import Mathlib.Data.List.Perm.Basic
import Mathlib.Algebra.BigOperators.Group.List.Basic
import Mathlib.Algebra.GroupWithZero.Nat

/-!
# Sums over finite maps

What the entries of a finite map count for, and how that changes with one entry.
-/

namespace Tally

open Std

variable {K V : Type} {cmp : K → K → Ordering} [TransCmp cmp] {m : ExtTreeMap K V cmp} {k : K}
  {v : V} {f : V → Nat}

def tally (f : V → Nat) (m : ExtTreeMap K V cmp) : Nat :=
  (m.toList.map fun entry => f entry.2).sum

theorem nodup_toList (m : ExtTreeMap K V cmp) : m.toList.Nodup := by
  have hdistinct := m.distinct_keys_toList
  refine hdistinct.imp fun hkeys heq => hkeys ?_
  rw [heq]
  exact ReflCmp.compare_self

theorem tally_eq_of_mem {entries : List (K × V)} (hnodup : entries.Nodup)
    (hmem : ∀ entry, entry ∈ m.toList ↔ entry ∈ entries) :
    tally f m = (entries.map fun entry => f entry.2).sum :=
  (((List.perm_ext_iff_of_nodup (nodup_toList m) hnodup).mpr hmem).map _).sum_eq

@[simp] theorem tally_empty : tally f (∅ : ExtTreeMap K V cmp) = 0 := by
  have hnil : (∅ : ExtTreeMap K V cmp).toList = [] := ExtTreeMap.toList_eq_nil_iff.mpr rfl
  rw [tally, hnil]
  rfl

variable [LawfulEqCmp cmp]

theorem tally_insert (h : m[k]? = none) : tally f (m.insert k v) = f v + tally f m := by
  have hfresh : ∀ v', (k, v') ∉ m.toList := fun v' hmem => by
    rw [ExtTreeMap.mem_toList_iff_getElem?_eq_some, h] at hmem
    exact nomatch hmem
  have hentries : tally f (m.insert k v) =
      (((k, v) :: m.toList).map fun entry => f entry.2).sum := by
    refine tally_eq_of_mem (List.nodup_cons.mpr ⟨hfresh v, nodup_toList m⟩) fun entry => ?_
    obtain ⟨k', v'⟩ := entry
    rw [ExtTreeMap.mem_toList_iff_getElem?_eq_some, ExtTreeMap.getElem?_insert, List.mem_cons,
      ExtTreeMap.mem_toList_iff_getElem?_eq_some, Prod.mk.injEq]
    by_cases heq : k = k'
    · subst heq
      simp [h, ReflCmp.compare_self, eq_comm (a := v)]
    · simp [LawfulEqCmp.compare_eq_iff_eq, heq, Ne.symm heq]
  rw [hentries, List.map_cons, List.sum_cons, tally]

theorem tally_erase (h : m[k]? = some v) : tally f m = f v + tally f (m.erase k) := by
  have hgone : (m.erase k)[k]? = none := by
    rw [ExtTreeMap.getElem?_erase, if_pos ReflCmp.compare_self]
  have hsame : (m.erase k).insert k v = m := by
    refine ExtTreeMap.ext_getElem? fun k' => ?_
    rw [ExtTreeMap.getElem?_insert, ExtTreeMap.getElem?_erase]
    by_cases heq : k = k'
    · subst heq
      simp [h]
    · simp [LawfulEqCmp.compare_eq_iff_eq, heq]
  calc tally f m = tally f ((m.erase k).insert k v) := by rw [hsame]
    _ = f v + tally f (m.erase k) := tally_insert hgone

theorem le_tally (h : m[k]? = some v) : f v ≤ tally f m := by
  rw [tally_erase h]
  exact Nat.le_add_right _ _

end Tally
