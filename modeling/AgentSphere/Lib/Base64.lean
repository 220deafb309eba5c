import Mathlib.Data.List.Basic

/-!
# Base64

Three bytes are written as four symbols of six bits each. One or two bytes at the end are written as
two or three symbols, whose last bits are zero and which may be padded to four. An engine is an
alphabet and whether it pads. It reads what it writes, and engines with different alphabets agree on
the texts that both of them read.
-/

namespace Base64

-- Symbols

def isAlphanumeric (byte : UInt8) : Bool :=
  (65 ≤ byte && byte ≤ 90) || (97 ≤ byte && byte ≤ 122) || (48 ≤ byte && byte ≤ 57)

def alphanumeric (n : Nat) : UInt8 :=
  if n < 26 then .ofNat (n + 65)
  else if n < 52 then .ofNat (n + 71)
  else .ofNat (n - 4)

def alphanumericValue? (byte : UInt8) : Option Nat :=
  if 65 ≤ byte ∧ byte ≤ 90 then some (byte.toNat - 65)
  else if 97 ≤ byte ∧ byte ≤ 122 then some (byte.toNat - 71)
  else if 48 ≤ byte ∧ byte ≤ 57 then some (byte.toNat + 4)
  else none

theorem isAlphanumeric_alphanumeric : ∀ n < 62, isAlphanumeric (alphanumeric n) = true := by
  decide

theorem alphanumericValue?_alphanumeric :
    ∀ n < 62, alphanumericValue? (alphanumeric n) = some n := by
  decide

theorem alphanumericValue?_eq_none {byte : UInt8} (h : isAlphanumeric byte = false) :
    alphanumericValue? byte = none := by
  grind [isAlphanumeric, alphanumericValue?]

def pad : UInt8 := 61

structure Alphabet where
  plus : UInt8
  slash : UInt8
  plus_other : isAlphanumeric plus = false
  slash_other : isAlphanumeric slash = false
  plus_ne_slash : plus ≠ slash
  plus_ne_pad : plus ≠ pad
  slash_ne_pad : slash ≠ pad

namespace Alphabet

/-- `+` and `/`. -/
def standard : Alphabet :=
  ⟨43, 47, by decide, by decide, by decide, by decide, by decide⟩

/-- `-` and `_`. -/
def urlSafe : Alphabet :=
  ⟨45, 95, by decide, by decide, by decide, by decide, by decide⟩

variable (self : Alphabet)

def symbol (n : Nat) : UInt8 :=
  if n < 62 then alphanumeric n
  else if n = 62 then self.plus
  else self.slash

def value? (byte : UInt8) : Option Nat :=
  match alphanumericValue? byte with
  | some n => some n
  | none =>
    if byte = self.plus then some 62
    else if byte = self.slash then some 63
    else none

def IsSymbol (byte : UInt8) : Prop :=
  isAlphanumeric byte = true ∨ byte = self.plus ∨ byte = self.slash

variable {self} {other : Alphabet}

theorem isSymbol_symbol (n : Nat) : self.IsSymbol (self.symbol n) := by
  unfold symbol
  split
  · rename_i hn
    exact .inl (isAlphanumeric_alphanumeric n hn)
  split
  · exact .inr (.inl rfl)
  · exact .inr (.inr rfl)

theorem IsSymbol.ne_pad {byte : UInt8} (h : self.IsSymbol byte) : byte ≠ pad := by
  obtain h | rfl | rfl := h
  · rintro rfl
    exact absurd h (by decide)
  · exact self.plus_ne_pad
  · exact self.slash_ne_pad

theorem value?_symbol {n : Nat} (h : n < 64) : self.value? (self.symbol n) = some n := by
  unfold symbol value?
  by_cases hn : n < 62
  · rw [if_pos hn, alphanumericValue?_alphanumeric n hn]
  rw [if_neg hn]
  by_cases hplus : n = 62
  · rw [if_pos hplus, alphanumericValue?_eq_none self.plus_other, hplus]
    exact if_pos rfl
  · have hslash : n = 63 := by omega
    rw [if_neg hplus, alphanumericValue?_eq_none self.slash_other, hslash]
    exact (if_neg self.plus_ne_slash.symm).trans (if_pos rfl)

def Compatible (self other : Alphabet) : Prop :=
  self.plus ≠ other.slash ∧ self.slash ≠ other.plus

instance (self other : Alphabet) : Decidable (Compatible self other) :=
  inferInstanceAs (Decidable (_ ∧ _))

theorem value?_unique (h : self.Compatible other) {byte : UInt8} {m n : Nat}
    (hm : self.value? byte = some m) (hn : other.value? byte = some n) : m = n := by
  obtain ⟨hplus, hslash⟩ := h
  unfold value? at hm hn
  cases hvalue : alphanumericValue? byte <;> grind

end Alphabet

-- Sextets

def sextets : List UInt8 → List Nat
  | [] => []
  | [a] => [a.toNat / 4, a.toNat % 4 * 16]
  | [a, b] => [a.toNat / 4, a.toNat % 4 * 16 + b.toNat / 16, b.toNat % 16 * 4]
  | a :: b :: c :: rest =>
    a.toNat / 4 :: (a.toNat % 4 * 16 + b.toNat / 16) :: (b.toNat % 16 * 4 + c.toNat / 64) ::
      c.toNat % 64 :: sextets rest

/-- The bytes back. One sextet at the end is no byte, and bits that are left over are zero. -/
def bytes? : List Nat → Option (List UInt8)
  | [] => some []
  | [_] => none
  | [r, s] => if s % 16 = 0 then some [.ofNat (r * 4 + s / 16)] else none
  | [r, s, t] =>
    if t % 4 = 0 then some [.ofNat (r * 4 + s / 16), .ofNat (s % 16 * 16 + t / 4)] else none
  | r :: s :: t :: u :: rest =>
    (bytes? rest).map fun bytes =>
      .ofNat (r * 4 + s / 16) :: .ofNat (s % 16 * 16 + t / 4) :: .ofNat (t % 4 * 64 + u) :: bytes

theorem sextets_lt (bytes : List UInt8) : ∀ n ∈ sextets bytes, n < 64 := by
  induction bytes using sextets.induct with
  | case1 => simp [sextets]
  | case2 a =>
    have ha := a.toNat_lt
    simp only [sextets, List.forall_mem_cons]
    refine ⟨by omega, by omega, by simp⟩
  | case3 a b =>
    have ha := a.toNat_lt
    have hb := b.toNat_lt
    simp only [sextets, List.forall_mem_cons]
    refine ⟨by omega, by omega, by omega, by simp⟩
  | case4 a b c rest ih =>
    have ha := a.toNat_lt
    have hb := b.toNat_lt
    have hc := c.toNat_lt
    simp only [sextets, List.forall_mem_cons]
    exact ⟨by omega, by omega, by omega, by omega, ih⟩

theorem ofNat_eq (byte : UInt8) {n : Nat} (h : n = byte.toNat) : UInt8.ofNat n = byte := by
  rw [h, UInt8.ofNat_toNat]

theorem bytes?_sextets (bytes : List UInt8) : bytes? (sextets bytes) = some bytes := by
  induction bytes using sextets.induct with
  | case1 => rfl
  | case2 a =>
    have hlast : a.toNat % 4 * 16 % 16 = 0 := by omega
    rw [sextets, bytes?, if_pos hlast, ofNat_eq a (by omega)]
  | case3 a b =>
    have hb := b.toNat_lt
    have hlast : b.toNat % 16 * 4 % 4 = 0 := by omega
    rw [sextets, bytes?, if_pos hlast, ofNat_eq a (by omega),
      ofNat_eq b (by omega)]
  | case4 a b c rest ih =>
    have hb := b.toNat_lt
    have hc := c.toNat_lt
    rw [sextets, bytes?, ih, ofNat_eq a (by omega), ofNat_eq b (by omega),
      ofNat_eq c (by omega)]
    rfl

theorem length_sextets (bytes : List UInt8) :
    (sextets bytes).length = (4 * bytes.length + 2) / 3 := by
  induction bytes using sextets.induct with
  | case1 => rfl
  | case2 a => simp [sextets]
  | case3 a b => simp [sextets]
  | case4 a b c rest ih =>
    simp only [sextets, List.length_cons, ih]
    omega

-- Engines

def padding (symbols : Nat) : List UInt8 := .replicate ((4 - symbols % 4) % 4) pad

structure Engine where
  alphabet : Alphabet
  padded : Bool

namespace Engine

variable (self : Engine)

def paddingOf (symbols : Nat) : List UInt8 := if self.padded then padding symbols else []

def encode (bytes : List UInt8) : List UInt8 :=
  (sextets bytes).map self.alphabet.symbol ++ self.paddingOf (sextets bytes).length

def decode (text : List UInt8) : Option (List UInt8) :=
  if text.dropWhile (· != pad) = self.paddingOf (text.takeWhile (· != pad)).length then
    ((text.takeWhile (· != pad)).mapM self.alphabet.value?).bind bytes?
  else none

variable {self} {other : Engine}

theorem isSymbol_of_mem {bytes : List UInt8} :
    ∀ byte ∈ (sextets bytes).map self.alphabet.symbol, self.alphabet.IsSymbol byte := by
  intro byte hbyte
  obtain ⟨n, -, rfl⟩ := List.mem_map.mp hbyte
  exact Alphabet.isSymbol_symbol n

theorem ne_pad_of_mem {bytes : List UInt8} :
    ∀ byte ∈ (sextets bytes).map self.alphabet.symbol, (byte != pad) = true := by
  intro byte hbyte
  exact bne_iff_ne.mpr (isSymbol_of_mem byte hbyte).ne_pad

theorem eq_pad_of_mem_paddingOf {symbols : Nat} : ∀ byte ∈ self.paddingOf symbols, byte = pad := by
  intro byte hbyte
  unfold paddingOf padding at hbyte
  split at hbyte
  · exact List.eq_of_mem_replicate hbyte
  · cases hbyte

theorem mapM_symbol (ns : List Nat) (h : ∀ n ∈ ns, n < 64) :
    (ns.map self.alphabet.symbol).mapM self.alphabet.value? = some ns := by
  induction ns with
  | nil => rfl
  | cons n ns ih =>
    obtain ⟨hn, hns⟩ := List.forall_mem_cons.mp h
    rw [List.map_cons, List.mapM_cons, Alphabet.value?_symbol hn, ih hns]
    rfl

theorem takeWhile_paddingOf (symbols : Nat) :
    (self.paddingOf symbols).takeWhile (· != pad) = [] := by
  unfold paddingOf padding
  split
  · rw [List.takeWhile_replicate]
    exact if_neg (by simp)
  · rfl

theorem takeWhile_encode (bytes : List UInt8) :
    (self.encode bytes).takeWhile (· != pad) = (sextets bytes).map self.alphabet.symbol := by
  rw [encode, List.takeWhile_append_of_pos ne_pad_of_mem, takeWhile_paddingOf, List.append_nil]

theorem dropWhile_encode (bytes : List UInt8) :
    (self.encode bytes).dropWhile (· != pad) = self.paddingOf (sextets bytes).length := by
  have hwhole := (self.encode bytes).takeWhile_append_dropWhile (p := (· != pad))
  rw [takeWhile_encode] at hwhole
  exact List.append_cancel_left hwhole

theorem decode_eq_some {text bytes : List UInt8} :
    self.decode text = some bytes ↔
      text.dropWhile (· != pad) = self.paddingOf (text.takeWhile (· != pad)).length ∧
        ∃ ns, (text.takeWhile (· != pad)).mapM self.alphabet.value? = some ns ∧
          bytes? ns = some bytes := by
  unfold decode
  split
  · rename_i hpadding
    rw [Option.bind_eq_some_iff]
    exact ⟨fun h => ⟨hpadding, h⟩, fun h => h.2⟩
  · rename_i hpadding
    exact ⟨fun h => (Option.some_ne_none _ h.symm).elim, fun h => (hpadding h.1).elim⟩

/-- **What is written is read back.** -/
theorem decode_encode (bytes : List UInt8) : self.decode (self.encode bytes) = some bytes := by
  refine decode_eq_some.mpr ⟨?_, sextets bytes, ?_, bytes?_sextets bytes⟩
  · rw [takeWhile_encode, dropWhile_encode, List.length_map]
  · rw [takeWhile_encode]
    exact mapM_symbol _ (sextets_lt bytes)

theorem mapM_unique (h : self.alphabet.Compatible other.alphabet) {body : List UInt8}
    {ms ns : List Nat} (hm : body.mapM self.alphabet.value? = some ms)
    (hn : body.mapM other.alphabet.value? = some ns) : ms = ns := by
  induction body generalizing ms ns with
  | nil =>
    cases hm
    exact Option.some.inj hn
  | cons byte body ih =>
    simp only [List.mapM_cons, Option.bind_eq_bind, Option.bind_eq_some_iff, Option.pure_def,
      Option.some.injEq] at hm hn
    obtain ⟨m, hm, ms, hms, rfl⟩ := hm
    obtain ⟨n, hn, ns, hns, rfl⟩ := hn
    rw [Alphabet.value?_unique h hm hn, ih hms hns]

/-- **Two engines read a text in the same way**, if both of them read it. -/
theorem decode_unique (h : self.alphabet.Compatible other.alphabet) {text bytes bytes' : List UInt8}
    (hself : self.decode text = some bytes) (hother : other.decode text = some bytes') :
    bytes = bytes' := by
  obtain ⟨-, ms, hms, hbytes⟩ := decode_eq_some.mp hself
  obtain ⟨-, ns, hns, hbytes'⟩ := decode_eq_some.mp hother
  rw [mapM_unique h hms hns] at hbytes
  exact Option.some.inj (hbytes.symm.trans hbytes')

-- The shape of what is written

theorem length_paddingOf_le (bytes : List UInt8) :
    (self.paddingOf (sextets bytes).length).length ≤ 2 := by
  have hlength := length_sextets bytes
  unfold paddingOf padding
  split
  · rw [List.length_replicate]
    omega
  · exact Nat.zero_le 2

theorem length_lt_encode {bytes : List UInt8} (h : bytes ≠ []) :
    bytes.length < (self.encode bytes).length := by
  have hpos := List.length_pos_iff.mpr h
  rw [encode, List.length_append, List.length_map, length_sextets]
  omega

theorem length_le_encode (bytes : List UInt8) : bytes.length ≤ (self.encode bytes).length := by
  rw [encode, List.length_append, List.length_map, length_sextets]
  omega

theorem encode_nil : self.encode [] = [] := by
  simp [encode, sextets, paddingOf, padding]

theorem isSymbol_or_pad (bytes : List UInt8) :
    ∀ byte ∈ self.encode bytes, self.alphabet.IsSymbol byte ∨ byte = pad := by
  intro byte hbyte
  rw [encode, List.mem_append] at hbyte
  exact hbyte.imp (isSymbol_of_mem byte) (eq_pad_of_mem_paddingOf byte)

end Engine

def firstDecoded (engines : List Engine) (text : List UInt8) : Option (List UInt8) :=
  engines.findSome? (·.decode text)

/-- **It does not matter which engine reads the text first**: what one of them has written is read
back. -/
theorem firstDecoded_encode {engines : List Engine}
    (hcompatible : ∀ self ∈ engines, ∀ other ∈ engines, self.alphabet.Compatible other.alphabet)
    {engine : Engine} (hengine : engine ∈ engines) (bytes : List UInt8) :
    firstDecoded engines (engine.encode bytes) = some bytes := by
  have hdecoded : (firstDecoded engines (engine.encode bytes)).isSome = true := by
    rw [firstDecoded, List.findSome?_isSome_iff]
    exact ⟨engine, hengine, by rw [Engine.decode_encode]; rfl⟩
  obtain ⟨bytes', hbytes'⟩ := Option.isSome_iff_exists.mp hdecoded
  obtain ⟨first, hfirst, hfound⟩ := List.exists_of_findSome?_eq_some hbytes'
  rw [hbytes', Engine.decode_unique (hcompatible first hfirst engine hengine) hfound
    (Engine.decode_encode bytes)]

-- Layers

/-- The text is the content written so many times, each time by one of the engines. What was written
first is the innermost text. -/
inductive Layers (engines : List Engine) (content innermost : List UInt8) :
    Nat → List UInt8 → Prop where
  | one {engine : Engine} (hengine : engine ∈ engines)
      (hinnermost : engine.encode content = innermost) : Layers engines content innermost 1 innermost
  | next {n : Nat} {text : List UInt8} {engine : Engine} (h : Layers engines content innermost n text)
      (hengine : engine ∈ engines) : Layers engines content innermost (n + 1) (engine.encode text)

variable {engines : List Engine} {content innermost text : List UInt8} {n : Nat}

theorem Layers.length_le (h : Layers engines content innermost n text) :
    innermost.length ≤ text.length := by
  induction h with
  | one hengine hinnermost => exact Nat.le_refl _
  | next h hengine ih => exact Nat.le_trans ih (Engine.length_le_encode _)

end Base64
