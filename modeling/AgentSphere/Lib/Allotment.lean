import Mathlib.Algebra.Order.BigOperators.Group.Finset
import Mathlib.Data.Finset.Image
import Mathlib.Logic.Relation

/-!
# Allotments that are handed on

A node has an allotment. It uses part of it up and hands parts on to its children, whose allotments
these parts are. If every node keeps its account in balance, a whole tree can use up no more than
the allotment of its root, however large it has grown.
-/

namespace Allotment

open Relation

structure Kinship (ν κ : Type*) where
  key : ν → κ
  parent : ν → Option κ

namespace Kinship

variable {ν κ : Type*} (kin : Kinship ν κ)

structure Forest (nodes : Finset ν) : Prop where
  distinct : ∀ a ∈ nodes, ∀ b ∈ nodes, kin.key a = kin.key b → a = b
  closed : ∀ child ∈ nodes, ∀ k, kin.parent child = some k → ∃ node ∈ nodes, kin.key node = k

def ParentOf (nodes : Finset ν) (node child : ν) : Prop :=
  node ∈ nodes ∧ child ∈ nodes ∧ kin.parent child = some (kin.key node)

def Derives (nodes : Finset ν) : ν → ν → Prop := ReflTransGen (kin.ParentOf nodes)

variable {kin} {nodes nodes' : Finset ν} {a b node child root : ν}

theorem Derives.mono (h : kin.Derives nodes a b) (hsub : nodes ⊆ nodes') :
    kin.Derives nodes' a b := by
  induction h with
  | refl => exact .refl
  | tail _ hstep ih => exact ih.tail ⟨hsub hstep.1, hsub hstep.2.1, hstep.2.2⟩

theorem Derives.related {R : ν → ν → Prop} (hrefl : ∀ a, R a a)
    (htrans : ∀ a b c, R a b → R b c → R a c)
    (hchild : ∀ node ∈ nodes, ∀ child ∈ nodes, kin.parent child = some (kin.key node) →
      R node child) (h : kin.Derives nodes a b) : R a b := by
  induction h with
  | refl => exact hrefl a
  | tail _ hstep ih => exact htrans _ _ _ ih (hchild _ hstep.1 _ hstep.2.1 hstep.2.2)

theorem Derives.eq_or_mem (h : kin.Derives nodes a b) : a = b ∨ a ∈ nodes ∧ b ∈ nodes := by
  induction h with
  | refl => exact .inl rfl
  | tail _ hstep ih =>
    obtain rfl | ⟨ha, -⟩ := ih
    · exact .inr ⟨hstep.1, hstep.2.1⟩
    · exact .inr ⟨ha, hstep.2.1⟩

open Classical in
noncomputable def tree (kin : Kinship ν κ) (nodes : Finset ν) (root : ν) : Finset ν :=
  nodes.filter (kin.Derives nodes root)

theorem mem_tree : node ∈ kin.tree nodes root ↔ node ∈ nodes ∧ kin.Derives nodes root node := by
  simp [tree]

section Growth

variable [DecidableEq ν]

theorem Forest.insert (h : kin.Forest nodes) (hnew : ∀ a ∈ nodes, kin.key a ≠ kin.key child)
    (hparent : ∀ k, kin.parent child = some k → ∃ node ∈ nodes, kin.key node = k) :
    kin.Forest (insert child nodes) where
  distinct a ha b hb hkey := by
    obtain rfl | hold := Finset.mem_insert.mp ha
    · obtain rfl | hold' := Finset.mem_insert.mp hb
      · rfl
      · exact absurd hkey.symm (hnew b hold')
    · obtain rfl | hold' := Finset.mem_insert.mp hb
      · exact absurd hkey (hnew a hold)
      · exact h.distinct a hold b hold' hkey
  closed c hc k hk := by
    obtain rfl | hc := Finset.mem_insert.mp hc
    · obtain ⟨node, hnode, hkey⟩ := hparent k hk
      exact ⟨node, Finset.mem_insert_of_mem hnode, hkey⟩
    · obtain ⟨node, hnode, hkey⟩ := h.closed c hc k hk
      exact ⟨node, Finset.mem_insert_of_mem hnode, hkey⟩

theorem derives_insert (h : kin.Forest nodes) (hnew : ∀ a ∈ nodes, kin.key a ≠ kin.key child)
    (hself : kin.parent child ≠ some (kin.key child))
    (hderives : kin.Derives (insert child nodes) a b) :
    a = b ∨ kin.Derives nodes a b ∨
      b = child ∧ ∃ node ∈ nodes, kin.parent child = some (kin.key node) ∧
        kin.Derives nodes a node := by
  induction hderives with
  | refl => exact .inl rfl
  | @tail b c _ hstep ih =>
    obtain ⟨hb, hc, hparent⟩ := hstep
    -- the new node has no children
    have hold : b ∈ nodes := by
      obtain rfl | hb := Finset.mem_insert.mp hb
      · obtain rfl | hc := Finset.mem_insert.mp hc
        · exact absurd hparent hself
        · obtain ⟨node, hnode, hkey⟩ := h.closed c hc _ hparent
          exact absurd hkey (hnew node hnode)
      · exact hb
    have hfrom : kin.Derives nodes a b := by
      obtain rfl | hab | ⟨rfl, -⟩ := ih
      · exact .refl
      · exact hab
      · exact absurd rfl (hnew b hold)
    obtain rfl | hc := Finset.mem_insert.mp hc
    · exact .inr (.inr ⟨rfl, b, hold, hparent, hfrom⟩)
    · exact .inr (.inl (hfrom.tail ⟨hold, hc, hparent⟩))

end Growth

-- Accounts

variable [DecidableEq κ] {allotted left used : ν → Nat}

variable (kin) in
def handedOn (allotted : ν → Nat) (nodes : Finset ν) (node : ν) : Nat :=
  ∑ child ∈ nodes with kin.parent child = some (kin.key node), allotted child

variable (kin) in
def Balanced (allotted left used : ν → Nat) (nodes : Finset ν) (node : ν) : Prop :=
  left node + used node + kin.handedOn allotted nodes node = allotted node

theorem handedOn_eq_zero (h : ∀ child ∈ nodes, kin.parent child ≠ some (kin.key node)) :
    kin.handedOn allotted nodes node = 0 := by
  rw [handedOn, Finset.filter_eq_empty_iff.mpr fun child hchild => h child hchild,
    Finset.sum_empty]

variable [DecidableEq ν]

theorem handedOn_insert (hnew : child ∉ nodes) :
    kin.handedOn allotted (insert child nodes) node =
      kin.handedOn allotted nodes node +
        if kin.parent child = some (kin.key node) then allotted child else 0 := by
  rw [handedOn, Finset.filter_insert]
  by_cases h : kin.parent child = some (kin.key node)
  · rw [if_pos h, if_pos h, Finset.sum_insert (by simp [hnew]), Nat.add_comm, handedOn]
  · rw [if_neg h, if_neg h, Nat.add_zero, handedOn]

theorem sum_handedOn (h : kin.Forest nodes) (hroot : kin.parent root = none) :
    ∑ node ∈ kin.tree nodes root, kin.handedOn allotted nodes node =
      ∑ child ∈ (kin.tree nodes root).erase root, allotted child := by
  have hchildren : ∀ node ∈ kin.tree nodes root, kin.handedOn allotted nodes node =
      ∑ child ∈ (kin.tree nodes root).erase root with kin.parent child = some (kin.key node),
        allotted child := by
    intro node hnode
    obtain ⟨hmem, hderives⟩ := mem_tree.mp hnode
    refine Finset.sum_congr ?_ fun _ _ => rfl
    ext child
    simp only [Finset.mem_filter, Finset.mem_erase, mem_tree]
    constructor
    · rintro ⟨hchild, hparent⟩
      have hne : child ≠ root := by
        rintro rfl
        rw [hroot] at hparent
        cases hparent
      exact ⟨⟨hne, hchild, hderives.tail ⟨hmem, hchild, hparent⟩⟩, hparent⟩
    · rintro ⟨⟨-, hchild, -⟩, hparent⟩
      exact ⟨hchild, hparent⟩
  have hmaps : ∀ child ∈ (kin.tree nodes root).erase root,
      kin.parent child ∈ (kin.tree nodes root).image fun node => some (kin.key node) := by
    intro child hchild
    obtain ⟨hne, hmem⟩ := Finset.mem_erase.mp hchild
    obtain ⟨-, hderives⟩ := mem_tree.mp hmem
    obtain heq | ⟨node, hnode, hstep⟩ := ReflTransGen.cases_tail hderives
    · exact absurd heq hne
    · exact Finset.mem_image.mpr ⟨node, mem_tree.mpr ⟨hstep.1, hnode⟩, hstep.2.2.symm⟩
  have hinj : Set.InjOn (fun node => some (kin.key node)) (kin.tree nodes root : Set ν) := by
    intro a ha b hb hkey
    exact h.distinct a (mem_tree.mp ha).1 b (mem_tree.mp hb).1 (Option.some.inj hkey)
  rw [Finset.sum_congr rfl hchildren, ← Finset.sum_fiberwise_of_maps_to hmaps,
    Finset.sum_image hinj]

/-- **Trees**: what a tree has left and has used up is the allotment of its root. -/
theorem tree_total (h : kin.Forest nodes) (hmem : root ∈ nodes) (hroot : kin.parent root = none)
    (hbalanced : ∀ node ∈ nodes, kin.Balanced allotted left used nodes node) :
    ∑ node ∈ kin.tree nodes root, (left node + used node) = allotted root := by
  have hself : root ∈ kin.tree nodes root := mem_tree.mpr ⟨hmem, .refl⟩
  have hsum : ∑ node ∈ kin.tree nodes root, (left node + used node) +
      ∑ node ∈ kin.tree nodes root, kin.handedOn allotted nodes node =
        ∑ node ∈ kin.tree nodes root, allotted node := by
    rw [← Finset.sum_add_distrib]
    exact Finset.sum_congr rfl fun node hnode => hbalanced node (mem_tree.mp hnode).1
  rw [sum_handedOn h hroot, ← Finset.add_sum_erase _ allotted hself] at hsum
  exact Nat.add_right_cancel hsum

variable (left) in
theorem tree_used_le (h : kin.Forest nodes) (hmem : root ∈ nodes) (hroot : kin.parent root = none)
    (hbalanced : ∀ node ∈ nodes, kin.Balanced allotted left used nodes node) :
    ∑ node ∈ kin.tree nodes root, used node ≤ allotted root := by
  rw [← tree_total h hmem hroot hbalanced]
  exact Finset.sum_le_sum fun node _ => Nat.le_add_left ..

end Kinship

end Allotment
