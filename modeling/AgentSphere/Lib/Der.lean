import Mathlib.Data.Nat.Digits.Lemmas

/-!
# DER

An element is its identifier, the length of its contents and the contents. The identifier is one
octet, and more of them for tag numbers from 31 on; the length is one octet up to 127, and from
there on the number of its octets before them.
-/

namespace Der

def ofOctets (octets : List UInt8) : Nat → Nat :=
  octets.foldl fun length octet => length * 256 + octet.toNat

theorem le_ofOctets (octets : List UInt8) (start : Nat) : start ≤ ofOctets octets start := by
  unfold ofOctets
  induction octets generalizing start with
  | nil => exact le_rfl
  | cons octet octets ih =>
    have hstep : start ≤ start * 256 + octet.toNat := by omega
    exact le_trans hstep (ih _)

def octets (n : Nat) : List UInt8 := ((Nat.digits 256 n).map UInt8.ofNat).reverse

theorem ofOctets_octets (n : Nat) : ofOctets (octets n) 0 = n := by
  have hdigits : ∀ digits : List Nat, (∀ d ∈ digits, d < 256) →
      (digits.map UInt8.ofNat).foldr (fun octet length => length * 256 + octet.toNat) 0 =
        Nat.ofDigits 256 digits := by
    intro digits hlt
    induction digits with
    | nil => rfl
    | cons d digits ih =>
      rw [List.forall_mem_cons] at hlt
      rw [List.map_cons, List.foldr_cons, ih hlt.2, Nat.ofDigits_cons, UInt8.toNat_ofNat',
        Nat.mod_eq_of_lt hlt.1]
      omega
  rw [ofOctets, octets, List.foldl_reverse, hdigits _ fun d => Nat.digits_lt_base (by decide),
    Nat.ofDigits_digits]

theorem length_octets_le {n : Nat} (h : n < 2 ^ 64) : (octets n).length ≤ 8 := by
  rw [octets, List.length_reverse, List.length_map, Nat.digits_length_le_iff (by decide)]
  simpa using h

theorem length_octets_pos {n : Nat} (h : n ≠ 0) : 0 < (octets n).length := by
  rw [octets, List.length_reverse, List.length_map, List.length_pos_iff]
  exact Nat.digits_ne_nil_iff_ne_zero.mpr h

def lengthOctets (n : Nat) : List UInt8 :=
  if n < 128 then [UInt8.ofNat n] else UInt8.ofNat (0x80 + (octets n).length) :: octets n

theorem short_and {n : Nat} (h : n < 128) : UInt8.ofNat n &&& 0x80 = 0 := by
  have hall : ∀ n < 128, UInt8.ofNat n &&& 0x80 = 0 := by decide
  exact hall n h

theorem long_and {n : Nat} (h : n ≤ 8) :
    UInt8.ofNat (0x80 + n) &&& 0x80 ≠ 0 ∧ (UInt8.ofNat (0x80 + n) &&& 0x7f).toNat = n := by
  have hall : ∀ n < 9, UInt8.ofNat (0x80 + n) &&& 0x80 ≠ 0 ∧
      (UInt8.ofNat (0x80 + n) &&& 0x7f).toNat = n := by decide
  exact hall n (Nat.lt_succ_of_le h)

def IsNumber (octets : List UInt8) : Prop :=
  octets ≠ [] ∧ octets.head? ≠ some 0x80 ∧ (∀ octet ∈ octets.dropLast, 0x80 ≤ octet) ∧
    (∀ octet ∈ octets.getLast?, octet < 0x80) ∧ ∀ octet, octets = [octet] → 31 ≤ octet

structure Element where
  tag : UInt8
  further : List UInt8
  contents : List UInt8
  formed : if tag &&& 31 = 31 then IsNumber further else further = []

namespace Element

def encode (element : Element) : List UInt8 :=
  element.tag :: (element.further ++ (lengthOctets element.contents.length ++ element.contents))

variable {element : Element}

theorem eq_cons (h : element.further = []) : element.encode =
    element.tag :: (lengthOctets element.contents.length ++ element.contents) := by
  rw [encode, h, List.nil_append]

theorem tag_of_further (h : element.further ≠ []) : element.tag &&& 31 = 31 := by
  by_contra hshort
  have hformed := element.formed
  rw [if_neg hshort] at hformed
  exact h hformed

theorem length_lengthOctets_pos (n : Nat) : 0 < (lengthOctets n).length := by
  unfold lengthOctets
  split_ifs <;> simp

theorem lt_length_encode (element : Element) :
    element.contents.length + 1 < element.encode.length := by
  have hpos := length_lengthOctets_pos element.contents.length
  simp only [encode, List.length_cons, List.length_append]
  omega

def of (tag : UInt8) (contents : List UInt8) (h : tag &&& 31 ≠ 31) : Element :=
  ⟨tag, [], contents, by rw [if_neg h]⟩

@[simp] theorem further_of {tag : UInt8} {contents : List UInt8} (h : tag &&& 31 ≠ 31) :
    (of tag contents h).further = [] := rfl

@[simp] theorem contents_of {tag : UInt8} {contents : List UInt8} (h : tag &&& 31 ≠ 31) :
    (of tag contents h).contents = contents := rfl

end Element

end Der
