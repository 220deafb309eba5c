import Mathlib.Algebra.BigOperators.Fin
import Mathlib.Data.Fintype.EquivFin
import Mathlib.Data.List.NodupEquivFin

/-!
# Pairings of lists

Two lists are paired if their places correspond one to one and the items at corresponding places
are related. Where related items have the same key, one list has distinct keys exactly if the other
one has, and then every item has one partner.
-/

namespace Pairings

variable {α β κ : Type*} {R : α → β → Prop} {l : List α} {l' : List β} {f : α → κ} {g : β → κ}

def Paired (R : α → β → Prop) (l : List α) (l' : List β) : Prop :=
  ∃ pairing : Fin l.length ≃ Fin l'.length, ∀ i, R (l.get i) (l'.get (pairing i))

theorem nodup_map_iff : (l.map f).Nodup ↔ Function.Injective fun i => f (l.get i) := by
  rw [← List.ofFn_getElem_eq_map, List.nodup_ofFn]
  rfl

/-- **Distinct keys and a partner for every item give a pairing**, if the lists are equally long. -/
theorem paired_of_keys (hkey : ∀ a b, R a b → f a = g b) (hdistinct : (l.map f).Nodup)
    (hlength : l.length = l'.length) (hpartner : ∀ a ∈ l, ∃ b ∈ l', R a b) : Paired R l l' := by
  have hplace : ∀ i : Fin l.length, ∃ j : Fin l'.length, R (l.get i) (l'.get j) := by
    intro i
    obtain ⟨b, hb, hrelated⟩ := hpartner (l.get i) (List.get_mem l i)
    obtain ⟨j, rfl⟩ := List.mem_iff_get.mp hb
    exact ⟨j, hrelated⟩
  choose place hplace using hplace
  have hinjective : Function.Injective place := by
    intro i i' heq
    refine nodup_map_iff.mp hdistinct ?_
    calc
      f (l.get i) = g (l'.get (place i)) := hkey _ _ (hplace i)
      _ = g (l'.get (place i')) := by rw [heq]
      _ = f (l.get i') := (hkey _ _ (hplace i')).symm
  have hbijective : Function.Bijective place :=
    (Fintype.bijective_iff_injective_and_card place).mpr ⟨hinjective, by simp [hlength]⟩
  exact ⟨.ofBijective place hbijective, hplace⟩

namespace Paired

theorem nodup_iff (h : Paired R l l') (hkey : ∀ a b, R a b → f a = g b) :
    (l.map f).Nodup ↔ (l'.map g).Nodup := by
  obtain ⟨pairing, hpairing⟩ := h
  have hsame : (fun i => f (l.get i)) = (fun j => g (l'.get j)) ∘ pairing :=
    funext fun i => hkey _ _ (hpairing i)
  rw [nodup_map_iff, nodup_map_iff, hsame]
  exact ⟨fun hinjective => (pairing.injective_comp _).mp hinjective,
    fun hinjective => hinjective.comp pairing.injective⟩

theorem existsUnique (h : Paired R l l') (hkey : ∀ a b, R a b → f a = g b)
    (hdistinct : (l'.map g).Nodup) (j : Fin l'.length) : ∃! i, R (l.get i) (l'.get j) := by
  have hinjective := nodup_map_iff.mp ((h.nodup_iff hkey).mpr hdistinct)
  obtain ⟨pairing, hpairing⟩ := h
  have hpartner : R (l.get (pairing.symm j)) (l'.get j) := by
    have hrelated := hpairing (pairing.symm j)
    rwa [pairing.apply_symm_apply] at hrelated
  refine ⟨pairing.symm j, hpartner, fun i hrelated => hinjective ?_⟩
  exact (hkey _ _ hrelated).trans (hkey _ _ hpartner).symm

theorem sum_eq (h : Paired R l l') {amount : α → Nat} {amount' : β → Nat}
    (hamount : ∀ a b, R a b → amount a = amount' b) :
    (l.map amount).sum = (l'.map amount').sum := by
  obtain ⟨pairing, hpairing⟩ := h
  calc
    (l.map amount).sum = ∑ i : Fin l.length, amount (l.get i) := by
      rw [← Fin.sum_univ_fun_getElem l amount]
      rfl
    _ = ∑ i : Fin l.length, amount' (l'.get (pairing i)) :=
      Finset.sum_congr rfl fun i _ => hamount _ _ (hpairing i)
    _ = ∑ j : Fin l'.length, amount' (l'.get j) := pairing.sum_comp fun j => amount' (l'.get j)
    _ = (l'.map amount').sum := by
      rw [← Fin.sum_univ_fun_getElem l' amount']
      rfl

end Paired

end Pairings
