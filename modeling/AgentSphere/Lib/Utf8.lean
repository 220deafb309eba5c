import Mathlib.Data.String.Basic

/-!
# UTF-8

The bytes of a text, one character after the other. The encoding keeps the order: texts compare by
their bytes as they compare by their code points. A character beyond ASCII has no byte below 0x80,
so that a rewriting of single ASCII bytes is one of single ASCII characters.
-/

namespace Utf8

open String (utf8EncodeChar)

def encode (cs : List Char) : List UInt8 := cs.flatMap utf8EncodeChar

@[simp] theorem encode_nil : encode [] = [] := rfl

@[simp] theorem encode_cons (c : Char) (cs : List Char) :
    encode (c :: cs) = utf8EncodeChar c ++ encode cs := rfl

@[simp] theorem encode_append (cs ds : List Char) : encode (cs ++ ds) = encode cs ++ encode ds :=
  List.flatMap_append

-- The order

theorem utf8EncodeChar_append_lt {c d : Char} (h : c < d) (xs ys : List UInt8) :
    utf8EncodeChar c ++ xs < utf8EncodeChar d ++ ys := by
  have hlt : c.val.toNat < d.val.toNat := h
  have hmax : d.val.toNat < 0x110000 := by
    have hvalid := d.valid
    simp only [UInt32.isValidChar, Nat.isValidChar] at hvalid
    omega
  unfold utf8EncodeChar
  simp only
  split_ifs
  -- with the bytes as numbers, the first one that differs is a digit of the code points
  all_goals
    simp (disch := omega) only [List.cons_append, List.cons_lt_cons_iff, UInt8.lt_iff_toNat_lt,
      ← UInt8.toNat_inj, UInt8.toNat_ofNat', Nat.mod_eq_of_lt]
    omega

theorem nil_lt_utf8EncodeChar_append (d : Char) (ys : List UInt8) :
    [] < utf8EncodeChar d ++ ys := by
  unfold utf8EncodeChar
  simp only
  split_ifs <;> exact List.nil_lt_cons _ _

theorem encode_lt {cs ds : List Char} (h : cs < ds) : encode cs < encode ds := by
  induction cs generalizing ds with
  | nil =>
    cases ds with
    | nil => cases h
    | cons d ds => exact nil_lt_utf8EncodeChar_append d _
  | cons c cs ih =>
    cases ds with
    | nil => cases h
    | cons d ds =>
      rcases List.cons_lt_cons_iff.mp h with hlt | ⟨rfl, hlt⟩
      · exact utf8EncodeChar_append_lt hlt _ _
      · exact List.append_left_lt (ih hlt)

/-- **Texts compare by their bytes as they compare by their code points.** -/
theorem encode_lt_iff {cs ds : List Char} : encode cs < encode ds ↔ cs < ds := by
  constructor
  · intro h
    rcases lt_trichotomy cs ds with hlt | rfl | hlt
    · exact hlt
    · exact absurd h (List.lt_irrefl _)
    · exact absurd h (List.lt_asymm (encode_lt hlt))
  · exact encode_lt

-- ASCII

theorem utf8EncodeChar_ascii {c : Char} (h : c.toNat < 0x80) :
    utf8EncodeChar c = [UInt8.ofNat c.toNat] := by
  have hle : c.val.toNat ≤ 0x7f := Nat.le_of_lt_succ h
  unfold utf8EncodeChar
  simp only
  rw [if_pos hle]
  rfl

theorem le_of_mem_utf8EncodeChar {c : Char} (h : 0x80 ≤ c.toNat) {b : UInt8}
    (hb : b ∈ utf8EncodeChar c) : 0x80 ≤ b := by
  have hle : 0x80 ≤ c.val.toNat := h
  unfold utf8EncodeChar at hb
  simp only at hb
  split_ifs at hb
  · omega
  all_goals
    simp only [List.mem_cons, List.not_mem_nil, or_false] at hb
    rw [UInt8.le_iff_toNat_le]
    rcases hb with rfl | rfl | rfl | rfl <;>
      simp only [UInt8.toNat_ofNat', UInt8.reduceToNat] <;> omega

/-- **Rewriting ASCII bytes is rewriting ASCII characters.** -/
theorem flatMap_encode {f : UInt8 → List UInt8} {g : Char → List Char}
    (hascii : ∀ c : Char, c.toNat < 0x80 → f (UInt8.ofNat c.toNat) = encode (g c))
    (hbyte : ∀ b : UInt8, 0x80 ≤ b → f b = [b]) (hchar : ∀ c : Char, 0x80 ≤ c.toNat → g c = [c])
    (cs : List Char) : (encode cs).flatMap f = encode (cs.flatMap g) := by
  induction cs with
  | nil => rfl
  | cons c cs ih =>
    rw [encode_cons, List.flatMap_append, ih, List.flatMap_cons, encode_append]
    congr 1
    rcases Nat.lt_or_ge c.toNat 0x80 with hc | hc
    · rw [utf8EncodeChar_ascii hc, List.flatMap_singleton, hascii c hc]
    · have hsame : (utf8EncodeChar c).flatMap f = utf8EncodeChar c := by
        rw [List.flatMap_congr fun b hb => hbyte b (le_of_mem_utf8EncodeChar hc hb),
          List.flatMap_singleton']
      rw [hsame, hchar c hc, encode_cons, encode_nil, List.append_nil]

-- Reading

def asBytes (text : String) : List UInt8 := encode text.toList

/-- `from_utf8`. -/
def fromUtf8? (bytes : List UInt8) : Option String := String.fromUTF8? ⟨bytes.toArray⟩

theorem toByteArray_eq (text : String) : text.toByteArray = ⟨(asBytes text).toArray⟩ := by
  have hlist := String.toByteArray_ofList (l := text.toList)
  rw [String.ofList_toList] at hlist
  rw [hlist, List.utf8Encode]
  refine ByteArray.ext (Array.toList_inj.mp ?_)
  rw [List.data_toByteArray]
  rfl

/-- **A text is read back.** -/
theorem fromUtf8?_asBytes (text : String) : fromUtf8? (asBytes text) = some text := by
  rw [fromUtf8?, ← toByteArray_eq]
  exact dif_pos text.isValidUTF8

theorem asBytes_of_fromUtf8? {bytes : List UInt8} {text : String}
    (h : fromUtf8? bytes = some text) : asBytes text = bytes := by
  unfold fromUtf8? String.fromUTF8? at h
  split at h
  · have hbytes := congrArg String.toByteArray (Option.some.inj h)
    rw [toByteArray_eq text] at hbytes
    exact (congrArg (fun array => array.data.toList) hbytes).symm
  · cases h

theorem asBytes_injective : Function.Injective asBytes := by
  intro a b h
  refine Option.some.inj ?_
  rw [← fromUtf8?_asBytes a, h, fromUtf8?_asBytes]

theorem length_asBytes (text : String) : (asBytes text).length = text.utf8ByteSize := by
  rw [← String.size_toByteArray, toByteArray_eq]
  rfl

-- Lossy reading

def replacement : Char := Char.ofNat 0xfffd

def width (b : UInt8) : Nat :=
  if b < 0x80 then 1
  else if b < 0xc2 then 0
  else if b < 0xe0 then 2
  else if b < 0xf0 then 3
  else if b < 0xf5 then 4
  else 0

def isContinuation (b : UInt8) : Bool := 0x80 ≤ b && b ≤ 0xbf

/-- The bytes that may stand second: no code point has a longer form than it needs, is a surrogate
or lies beyond the last one. -/
def isSecond (a b : UInt8) : Bool :=
  isContinuation b && !(a == 0xe0 && b < 0xa0) && !(a == 0xed && 0xa0 ≤ b) &&
    !(a == 0xf0 && b < 0x90) && !(a == 0xf4 && 0x90 ≤ b)

def followers (a : UInt8) : List UInt8 → List UInt8
  | [] => []
  | b :: bs => if isSecond a b then b :: (bs.take (width a - 2)).takeWhile isContinuation else []

def chunk (a : UInt8) (bs : List UInt8) : Char × Nat :=
  if width a = 0 then (replacement, 0)
  else if width a = 1 then (Char.ofNat a.toNat, 0)
  else if (followers a bs).length + 1 = width a then
    (Char.ofNat ((followers a bs).foldl (fun n b => n * 64 + b.toNat % 64)
      (a.toNat % 2 ^ (7 - width a))), (followers a bs).length)
  else (replacement, (followers a bs).length)

def decodeFrom : Nat → List UInt8 → List Char
  | _, [] => []
  | skipped + 1, _ :: bs => decodeFrom skipped bs
  | 0, a :: bs => (chunk a bs).1 :: decodeFrom (chunk a bs).2 bs

/-- `from_utf8_lossy`: what breaks off is replaced as a whole. -/
def decodeLossy (bytes : List UInt8) : List Char := decodeFrom 0 bytes

/-- `from_utf8_lossy` of a text. -/
def fromUtf8Lossy (bytes : List UInt8) : String := String.ofList (decodeLossy bytes)

theorem decodeLossy_ascii {bytes : List UInt8} (h : ∀ b ∈ bytes, b < 0x80) :
    decodeLossy bytes = bytes.map fun b => Char.ofNat b.toNat := by
  induction bytes with
  | nil => rfl
  | cons b bytes ih =>
    obtain ⟨hb, hbytes⟩ := List.forall_mem_cons.mp h
    have hchunk : chunk b bytes = (Char.ofNat b.toNat, 0) := by
      have hwidth : width b = 1 := if_pos hb
      rw [chunk, hwidth]
      rfl
    rw [decodeLossy, decodeFrom, hchunk, List.map_cons, ← ih hbytes]
    rfl

theorem toNat_ofNat_ascii {b : UInt8} (h : b < 0x80) : (Char.ofNat b.toNat).toNat = b.toNat := by
  have hlt : b.toNat < 0x80 := UInt8.lt_iff_toNat_lt.mp h
  have hvalid : b.toNat.isValidChar := .inl (by omega)
  rw [Char.ofNat, dif_pos hvalid]
  rfl

theorem encode_decodeLossy_ascii {bytes : List UInt8} (h : ∀ b ∈ bytes, b < 0x80) :
    encode (decodeLossy bytes) = bytes := by
  rw [decodeLossy_ascii h]
  induction bytes with
  | nil => rfl
  | cons b bytes ih =>
    obtain ⟨hb, hbytes⟩ := List.forall_mem_cons.mp h
    have hlt : b.toNat < 0x80 := UInt8.lt_iff_toNat_lt.mp hb
    have hchar := toNat_ofNat_ascii hb
    rw [List.map_cons, encode_cons, ih hbytes, utf8EncodeChar_ascii (by omega), hchar,
      UInt8.ofNat_toNat, List.singleton_append]

end Utf8
