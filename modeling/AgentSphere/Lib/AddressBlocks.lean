import Mathlib.Data.Nat.Bitwise

/-!
# Blocks of addresses

An address is a word, and a block of addresses consists of those that begin with the same bits. A
program sees an address in fields, as octets or as longer segments, and tests the bits of a field
with a mask.
-/

namespace AddressBlocks

variable {w : Nat}

structure Block (w : Nat) where
  leading : Nat
  length : Nat

def Block.Contains (block : Block w) (address : BitVec w) : Prop :=
  address.toNat / 2 ^ (w - block.length) = block.leading

instance (block : Block w) (address : BitVec w) : Decidable (block.Contains address) :=
  inferInstanceAs (Decidable (_ = _))

def field (address : BitVec w) (start width : Nat) : Nat := address.toNat / 2 ^ start % 2 ^ width

theorem field_first (address : BitVec w) {m : Nat} (hm : m ≤ w) :
    field address (w - m) m = address.toNat / 2 ^ (w - m) := by
  refine Nat.mod_eq_of_lt (Nat.div_lt_of_lt_mul ?_)
  rw [← pow_add, Nat.sub_add_cancel hm]
  exact address.isLt

theorem and_mask_eq {x n k : Nat} (hx : x < 2 ^ n) (hk : k ≤ n) :
    x &&& (2 ^ n - 2 ^ k) = x / 2 ^ k * 2 ^ k := by
  have hpow : 2 ^ k ≤ 2 ^ n := Nat.pow_le_pow_right (by decide) hk
  have hmask : 2 ^ n - 2 ^ k = 2 ^ n - ((2 ^ k - 1) + 1) := by
    rw [Nat.sub_add_cancel Nat.one_le_two_pow]
  have hlow : 2 ^ k - 1 < 2 ^ n := by
    have hpos := Nat.two_pow_pos k
    omega
  refine Nat.eq_of_testBit_eq fun i => ?_
  rw [hmask, Nat.testBit_and, Nat.testBit_two_pow_sub_succ hlow, Nat.testBit_two_pow_sub_one,
    Nat.testBit_mul_two_pow, Nat.testBit_div_two_pow]
  by_cases hi : k ≤ i
  · have hge : ¬i < k := Nat.not_lt.mpr hi
    by_cases hin : i < n
    · simp [hi, hin, hge, Nat.sub_add_cancel hi]
    · have hzero : x.testBit i = false :=
        Nat.testBit_lt_two_pow (hx.trans_le (Nat.pow_le_pow_right (by decide) (Nat.not_lt.mp hin)))
      simp [hi, hin, hzero, Nat.sub_add_cancel hi]
  · simp [hi, Nat.not_le.mp hi]

/-- **A block within the first field is a test with a mask.** -/
theorem Block.contains_iff_mask (block : Block w) (address : BitVec w) {m : Nat} (hm : m ≤ w)
    (hlength : block.length ≤ m) :
    block.Contains address ↔
      field address (w - m) m &&& (2 ^ m - 2 ^ (m - block.length)) =
        block.leading * 2 ^ (m - block.length) := by
  have hfield : field address (w - m) m < 2 ^ m := Nat.mod_lt _ (Nat.two_pow_pos m)
  have hdrop : address.toNat / 2 ^ (w - m) / 2 ^ (m - block.length) =
      address.toNat / 2 ^ (w - block.length) := by
    rw [Nat.div_div_eq_div_mul, ← pow_add]
    congr 2
    omega
  rw [and_mask_eq hfield (Nat.sub_le m block.length), field_first address hm, hdrop, Contains]
  exact (Nat.mul_left_inj (Nat.two_pow_pos _).ne').symm

/-- **The first fields are zero if all bits in them are.** -/
theorem fields_eq_zero_iff (address : BitVec w) (m k : Nat) (hk : m * k ≤ w) :
    (∀ i < k, field address (w - m - m * i) m = 0) ↔ address.toNat / 2 ^ (w - m * k) = 0 := by
  induction k with
  | zero =>
    have hnone : address.toNat / 2 ^ w = 0 := Nat.div_eq_of_lt address.isLt
    simpa using hnone
  | succ k ih =>
    have hnext : m * (k + 1) = m * k + m := Nat.mul_succ m k
    have hstart : w - m - m * k = w - m * (k + 1) := by omega
    have hbefore : address.toNat / 2 ^ (w - m * k) =
        address.toNat / 2 ^ (w - m * (k + 1)) / 2 ^ m := by
      rw [Nat.div_div_eq_div_mul, ← pow_add]
      congr 2
      omega
    rw [Nat.forall_lt_succ_right, ih (by omega), hbefore, field, hstart]
    constructor
    · rintro ⟨hdiv, hmod⟩
      rw [← Nat.div_add_mod (address.toNat / 2 ^ (w - m * (k + 1))) (2 ^ m), hdiv, hmod]
      rfl
    · intro hzero
      rw [hzero]
      exact ⟨Nat.zero_div _, Nat.zero_mod _⟩

end AddressBlocks
