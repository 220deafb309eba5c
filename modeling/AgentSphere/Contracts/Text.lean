import Mathlib.Algebra.Group.Int.Defs
import Mathlib.Algebra.GroupWithZero.Nat
import Mathlib.Data.List.DropRight
import Mathlib.Data.List.Infix
import Mathlib.Data.String.Basic

/-!
# Text shapes

The identifiers and digests of the control plane are strings with a checked shape. Lengths are
byte lengths, as `str::len` gives them; the predicates that go over the bytes of a string accept
ASCII only, so that they may go over its characters here.

`Uuid.parseStr` follows the four layouts the `uuid` crate reads: 32 digits, the hyphenated form,
and the hyphenated form in braces or after `urn:uuid:`. Only the lower-case hyphenated form is
written back.
-/

namespace AgentSphere

def isDigest (value : String) : Bool :=
  value.utf8ByteSize == 64 &&
    value.toList.all fun c => c.isDigit || ('a' ≤ c && c ≤ 'f')

/-- ASCII letters, digits and `.`, `_`, `:`, `-`. -/
def isToken (value : String) : Bool :=
  value.toList.all fun c =>
    c.isAlphanum || c == '.' || c == '_' || c == ':' || c == '-'

/-- ASCII letters, digits and `.`, `_`, `:`, `/`, `-`. -/
def isPathToken (value : String) : Bool :=
  value.toList.all fun c =>
    c.isAlphanum || c == '.' || c == '_' || c == ':' || c == '/' || c == '-'

/-- `char::is_whitespace`: the characters with the property `White_Space`. -/
def isWhitespace (c : Char) : Bool :=
  let n := c.toNat
  (0x9 ≤ n && n ≤ 0xd) || n == 0x20 || n == 0x85 || n == 0xa0 || n == 0x1680 ||
    (0x2000 ≤ n && n ≤ 0x200a) || n == 0x2028 || n == 0x2029 || n == 0x202f || n == 0x205f ||
    n == 0x3000

/-- `char::is_control`: the control characters. -/
def isControl (c : Char) : Bool :=
  let n := c.toNat
  n ≤ 0x1f || (0x7f ≤ n && n ≤ 0x9f)

/-- Nothing but whitespace, that is, `trim` leaves nothing. -/
def isBlank (value : String) : Bool := value.toList.all isWhitespace

/-- `str::contains` of a text. -/
def containsText (value part : String) : Bool :=
  value.toList.tails.any fun rest => part.toList.isPrefixOf rest

theorem containsText_iff {value part : String} :
    containsText value part = true ↔ part.toList <:+: value.toList := by
  simp only [containsText, List.any_eq_true, List.mem_tails, List.isPrefixOf_iff_prefix]
  rw [List.infix_iff_prefix_suffix]
  exact exists_congr fun rest => and_comm

theorem containsText_self (text : String) : containsText text text = true :=
  containsText_iff.mpr (List.infix_refl _)

def isAsciiGraphic (c : Char) : Bool := 0x21 ≤ c.toNat && c.toNat ≤ 0x7e

def toAsciiLowercase (value : String) : String := value.map Char.toLower

def toAsciiUppercase (value : String) : String := value.map Char.toUpper

def trim (value : String) : String :=
  String.ofList ((value.toList.dropWhile isWhitespace).rdropWhile isWhitespace)

def eqIgnoreAsciiCase (a b : String) : Bool := a.map Char.toLower == b.map Char.toLower

theorem length_le_utf8ByteSize (s : String) : s.length ≤ s.utf8ByteSize := by
  obtain ⟨cs, rfl⟩ : ∃ cs, s = String.ofList cs := ⟨s.toList, by simp⟩
  induction cs with
  | nil => simp
  | cons c cs ih =>
    have hpos := c.utf8Size_pos
    rw [String.ofList_cons, String.utf8ByteSize_append, String.utf8ByteSize_singleton,
      String.length_append, String.length_singleton]
    omega

theorem toNat_toLower (c : Char) :
    c.toLower.toNat = if 65 ≤ c.toNat ∧ c.toNat ≤ 90 then c.toNat + 32 else c.toNat := by
  unfold Char.toLower
  have hiff : (c.val ≥ 'A'.val ∧ c.val ≤ 'Z'.val) ↔ (65 ≤ c.toNat ∧ c.toNat ≤ 90) := Iff.rfl
  by_cases h : 65 ≤ c.toNat ∧ c.toNat ≤ 90
  · rw [dif_pos (hiff.mpr h), if_pos h]
    show (c.val + ('a'.val - 'A'.val)).toNat = c.val.toNat + 32
    have : c.val.toNat ≤ 90 := h.2
    rw [UInt32.toNat_add]
    have : ('a'.val - 'A'.val).toNat = 32 := by decide
    omega
  · rw [dif_neg (hiff.not.mpr h), if_neg h]

theorem toNat_toUpper (c : Char) :
    c.toUpper.toNat = if 97 ≤ c.toNat ∧ c.toNat ≤ 122 then c.toNat - 32 else c.toNat := by
  unfold Char.toUpper
  have hiff : (c.val ≥ 'a'.val ∧ c.val ≤ 'z'.val) ↔ (97 ≤ c.toNat ∧ c.toNat ≤ 122) := Iff.rfl
  by_cases h : 97 ≤ c.toNat ∧ c.toNat ≤ 122
  · rw [dif_pos (hiff.mpr h), if_pos h]
    show (c.val + ('A'.val - 'a'.val)).toNat = c.val.toNat - 32
    have : c.val.toNat ≤ 122 := h.2
    have : 97 ≤ c.val.toNat := h.1
    rw [UInt32.toNat_add]
    have : ('A'.val - 'a'.val).toNat = 4294967264 := by decide
    omega
  · rw [dif_neg (hiff.not.mpr h), if_neg h]

theorem toUpper_toLower (c : Char) : c.toLower.toUpper = c.toUpper := by
  refine Char.ext (UInt32.toNat_inj.mp ?_)
  show c.toLower.toUpper.toNat = c.toUpper.toNat
  rw [toNat_toUpper, toNat_toUpper, toNat_toLower]
  grind

theorem toLower_toUpper (c : Char) : c.toUpper.toLower = c.toLower := by
  refine Char.ext (UInt32.toNat_inj.mp ?_)
  show c.toUpper.toLower.toNat = c.toLower.toNat
  rw [toNat_toLower, toNat_toLower, toNat_toUpper]
  grind

theorem toLower_toLower (c : Char) : c.toLower.toLower = c.toLower := by
  rw [← toLower_toUpper c.toLower, toUpper_toLower, toLower_toUpper]

theorem toUpper_toUpper (c : Char) : c.toUpper.toUpper = c.toUpper := by
  rw [← toUpper_toLower c.toUpper, toLower_toUpper, toUpper_toLower]

theorem isWhitespace_toLower (c : Char) : isWhitespace c.toLower = isWhitespace c := by
  unfold isWhitespace
  rw [toNat_toLower]
  split
  · rename_i h
    grind
  · rfl

theorem isWhitespace_toUpper (c : Char) : isWhitespace c.toUpper = isWhitespace c := by
  unfold isWhitespace
  rw [toNat_toUpper]
  split
  · rename_i h
    grind
  · rfl

theorem trim_map {f : Char → Char} (hf : ∀ c, isWhitespace (f c) = isWhitespace c)
    (value : String) : trim (value.map f) = (trim value).map f := by
  have hcomp : isWhitespace ∘ f = isWhitespace := funext hf
  refine String.toList_injective ?_
  simp only [trim, String.toList_map, String.toList_ofList, List.dropWhile_map, List.rdropWhile,
    ← List.map_reverse, hcomp]

theorem trim_trim (value : String) : trim (trim value) = trim value := by
  have hhead : (trim value).toList.dropWhile isWhitespace = (trim value).toList := by
    rw [trim, String.toList_ofList]
    generalize hrest : value.toList.dropWhile isWhitespace = rest
    cases hl : rest.rdropWhile isWhitespace with
    | nil => rfl
    | cons c cs =>
      -- the first character that is left is the first that is not dropped
      obtain ⟨tail, htail⟩ := List.rdropWhile_prefix isWhitespace (l := rest)
      rw [hl, List.cons_append] at htail
      have hfirst : isWhitespace c = false := by
        have := List.head?_dropWhile_not isWhitespace value.toList
        rw [hrest, ← htail] at this
        simpa using this
      rw [List.dropWhile_cons, hfirst]
      rfl
  rw [trim, hhead, trim, String.toList_ofList, List.rdropWhile_idempotent]

theorem trim_eq_self {value : String} (h : ∀ c ∈ value.toList, isWhitespace c = false) :
    trim value = value := by
  refine String.toList_injective ?_
  have hhead : value.toList.dropWhile isWhitespace = value.toList := by
    rw [List.dropWhile_eq_self_iff]
    exact fun hpos => Bool.eq_false_iff.mp (h _ (List.getElem_mem hpos))
  rw [trim, String.toList_ofList, hhead, List.rdropWhile_eq_self_iff]
  exact fun hne => Bool.eq_false_iff.mp (h _ (List.getLast_mem hne))

/-- `trim` and `to_ascii_lowercase` give a form that they keep. -/
theorem toAsciiLowercase_trim_idem (value : String) :
    toAsciiLowercase (trim (toAsciiLowercase (trim value))) = toAsciiLowercase (trim value) := by
  rw [toAsciiLowercase, toAsciiLowercase, trim_map isWhitespace_toLower, trim_trim,
    String.map_map]
  exact congrArg (fun f => String.map f (trim value)) (funext toLower_toLower)

/-- `trim` and `to_ascii_uppercase` give a form that they keep. -/
theorem toAsciiUppercase_trim_idem (value : String) :
    toAsciiUppercase (trim (toAsciiUppercase (trim value))) = toAsciiUppercase (trim value) := by
  rw [toAsciiUppercase, toAsciiUppercase, trim_map isWhitespace_toUpper, trim_trim,
    String.map_map]
  exact congrArg (fun f => String.map f (trim value)) (funext toUpper_toUpper)

theorem toAsciiUppercase_eq_iff {a b : String} :
    toAsciiUppercase a = toAsciiUppercase b ↔ toAsciiLowercase a = toAsciiLowercase b := by
  have hupper : ∀ s, toAsciiUppercase (toAsciiLowercase s) = toAsciiUppercase s := fun s => by
    rw [toAsciiUppercase, toAsciiLowercase, String.map_map]
    exact congrArg (fun f => String.map f s) (funext toUpper_toLower)
  have hlower : ∀ s, toAsciiLowercase (toAsciiUppercase s) = toAsciiLowercase s := fun s => by
    rw [toAsciiUppercase, toAsciiLowercase, String.map_map]
    exact congrArg (fun f => String.map f s) (funext toLower_toUpper)
  constructor
  · intro h
    rw [← hlower a, h, hlower]
  · intro h
    rw [← hupper a, h, hupper]

structure Uuid where
  digits : List (Fin 16)
  length_digits : digits.length = 32
  deriving DecidableEq, Repr

namespace Uuid

def hexChars : List Char :=
  ['0', '1', '2', '3', '4', '5', '6', '7', '8', '9', 'a', 'b', 'c', 'd', 'e', 'f']

def hexChar (d : Fin 16) : Char := hexChars.get (d.cast (by rfl))

def hexDigit? (c : Char) : Option (Fin 16) :=
  (List.finRange 16).find? fun d => hexChar d == c.toLower

def ofChars (cs : List Char) : Option Uuid := do
  let digits ← cs.mapM hexDigit?
  if h : digits.length = 32 then some ⟨digits, h⟩ else none

def parseHyphenated (cs : List Char) : Option Uuid :=
  if cs.length = 36 ∧ cs[8]? = some '-' ∧ cs[13]? = some '-' ∧ cs[18]? = some '-' ∧
      cs[23]? = some '-' then
    ofChars (cs.take 8 ++ (cs.drop 9).take 4 ++ (cs.drop 14).take 4 ++ (cs.drop 19).take 4 ++
      cs.drop 24)
  else none

def parseStr (value : String) : Option Uuid :=
  match value.utf8ByteSize, value.toList with
  | 32, cs => ofChars cs
  | 36, cs => parseHyphenated cs
  | 38, '{' :: cs => if cs.getLast? = some '}' then parseHyphenated cs.dropLast else none
  | 45, 'u' :: 'r' :: 'n' :: ':' :: 'u' :: 'u' :: 'i' :: 'd' :: ':' :: cs => parseHyphenated cs
  | _, _ => none

def hyphenated (u : Uuid) : List Char :=
  let cs := u.digits.map hexChar
  cs.take 8 ++ '-' :: (cs.drop 8).take 4 ++ '-' :: (cs.drop 12).take 4 ++
    '-' :: (cs.drop 16).take 4 ++ '-' :: cs.drop 20

/-- `Uuid::to_string`. -/
def toStr (u : Uuid) : String := String.ofList u.hyphenated

theorem hexDigit?_hexChar (d : Fin 16) : hexDigit? (hexChar d) = some d := by
  revert d
  decide

theorem hexChar_utf8Size (d : Fin 16) : (hexChar d).utf8Size = 1 := by
  revert d
  decide

theorem mapM_hexDigit?_map_hexChar (ds : List (Fin 16)) :
    (ds.map hexChar).mapM hexDigit? = some ds := by
  induction ds with
  | nil => rfl
  | cons d ds ih => simp [List.mapM_cons, hexDigit?_hexChar, ih]

theorem ofChars_map_hexChar (u : Uuid) : ofChars (u.digits.map hexChar) = some u := by
  rw [ofChars, mapM_hexDigit?_map_hexChar]
  simp [u.length_digits]

theorem parseHyphenated_append {a b c d e : List Char} (ha : a.length = 8) (hb : b.length = 4)
    (hc : c.length = 4) (hd : d.length = 4) (he : e.length = 12) :
    parseHyphenated (a ++ '-' :: b ++ '-' :: c ++ '-' :: d ++ '-' :: e) =
      ofChars (a ++ b ++ c ++ d ++ e) := by
  have hshape : (a ++ '-' :: b ++ '-' :: c ++ '-' :: d ++ '-' :: e).length = 36 ∧
      (a ++ '-' :: b ++ '-' :: c ++ '-' :: d ++ '-' :: e)[8]? = some '-' ∧
      (a ++ '-' :: b ++ '-' :: c ++ '-' :: d ++ '-' :: e)[13]? = some '-' ∧
      (a ++ '-' :: b ++ '-' :: c ++ '-' :: d ++ '-' :: e)[18]? = some '-' ∧
      (a ++ '-' :: b ++ '-' :: c ++ '-' :: d ++ '-' :: e)[23]? = some '-' := by
    refine ⟨by simp; omega, ?_, ?_, ?_, ?_⟩ <;>
      simp [List.getElem?_append, ha, hb, hc, hd]
  rw [parseHyphenated, if_pos hshape]
  simp (disch := omega) [List.drop_append, List.drop_eq_nil_of_le, ha, hb, hc, hd]

theorem parseHyphenated_hyphenated (u : Uuid) : parseHyphenated u.hyphenated = some u := by
  have hlen : (u.digits.map hexChar).length = 32 := by simp [u.length_digits]
  have hsplit : (u.digits.map hexChar).take 8 ++ ((u.digits.map hexChar).drop 8).take 4 ++
      ((u.digits.map hexChar).drop 12).take 4 ++ ((u.digits.map hexChar).drop 16).take 4 ++
      (u.digits.map hexChar).drop 20 = u.digits.map hexChar := by
    have h16 := List.take_append_drop 4 ((u.digits.map hexChar).drop 16)
    have h12 := List.take_append_drop 4 ((u.digits.map hexChar).drop 12)
    have h8 := List.take_append_drop 4 ((u.digits.map hexChar).drop 8)
    rw [List.drop_drop] at h16 h12 h8
    simp only [List.append_assoc]
    rw [h16, h12, h8, List.take_append_drop]
  rw [hyphenated, parseHyphenated_append (by simp [hlen]) (by simp [hlen]) (by simp [hlen])
    (by simp [hlen]) (by simp [hlen]), hsplit, ofChars_map_hexChar]

theorem utf8ByteSize_ofList {cs : List Char} (h : ∀ c ∈ cs, c.utf8Size = 1) :
    (String.ofList cs).utf8ByteSize = cs.length := by
  induction cs with
  | nil => rfl
  | cons c cs ih =>
    have hrest := ih fun x hx => h x (List.mem_cons_of_mem c hx)
    rw [String.ofList_cons, String.utf8ByteSize_append, String.utf8ByteSize_singleton, hrest,
      h c List.mem_cons_self, List.length_cons, Nat.add_comm]

theorem utf8ByteSize_toStr (u : Uuid) : u.toStr.utf8ByteSize = 36 := by
  have hone : ∀ c ∈ u.hyphenated, c.utf8Size = 1 := by
    have hdigit : ∀ c ∈ u.digits.map hexChar, c.utf8Size = 1 := by
      intro c hc
      obtain ⟨d, _, rfl⟩ := List.mem_map.mp hc
      exact hexChar_utf8Size d
    have hpart : ∀ i j, ∀ c ∈ ((u.digits.map hexChar).drop i).take j, c.utf8Size = 1 :=
      fun i j c hc => hdigit c (List.mem_of_mem_drop (List.mem_of_mem_take hc))
    intro c hc
    simp only [hyphenated, List.mem_append, List.mem_cons] at hc
    rcases hc with (((hc | rfl | hc) | rfl | hc) | rfl | hc) | rfl | hc
    · exact hdigit c (List.mem_of_mem_take hc)
    · rfl
    · exact hpart 8 4 c hc
    · rfl
    · exact hpart 12 4 c hc
    · rfl
    · exact hpart 16 4 c hc
    · rfl
    · exact hdigit c (List.mem_of_mem_drop hc)
  have hlen : u.hyphenated.length = 36 := by
    simp [hyphenated, u.length_digits]
  rw [toStr, utf8ByteSize_ofList hone, hlen]

theorem parseStr_toStr (u : Uuid) : parseStr u.toStr = some u := by
  have hchars : u.toStr.toList = u.hyphenated := String.toList_ofList
  rw [parseStr, utf8ByteSize_toStr, hchars]
  exact parseHyphenated_hyphenated u

theorem toStr_injective {u v : Uuid} (h : u.toStr = v.toStr) : u = v := by
  have hparse := congrArg parseStr h
  rw [parseStr_toStr, parseStr_toStr] at hparse
  exact Option.some.inj hparse

end Uuid

def isUuid (value : String) : Bool := (Uuid.parseStr value).isSome

theorem isUuid_toStr (u : Uuid) : isUuid u.toStr = true := by
  rw [isUuid, Uuid.parseStr_toStr]
  rfl

instance neZero_sixteen : NeZero 16 := ⟨by decide⟩

def sampleUuid (d : Fin 16) : Uuid where
  digits := List.replicate 12 d ++ 4 :: List.replicate 3 d ++ 8 :: List.replicate 15 d
  length_digits := rfl

theorem sampleUuid_toStr_ne {d d' : Fin 16} (h : d ≠ d') :
    (sampleUuid d).toStr ≠ (sampleUuid d').toStr := by
  intro heq
  have hdigits := congrArg (fun u : Uuid => u.digits.head?) (Uuid.toStr_injective heq)
  exact h (by simpa [sampleUuid] using hdigits)

def sampleHash (c : Char) : String := String.ofList (List.replicate 64 c)

theorem utf8ByteSize_sampleHash {c : Char} (hone : c.utf8Size = 1) :
    (sampleHash c).utf8ByteSize = 64 := by
  rw [sampleHash, Uuid.utf8ByteSize_ofList] <;> simp [hone]

theorem isDigest_sampleHash {c : Char} (h : (c.isDigit || ('a' ≤ c && c ≤ 'f')) = true)
    (hone : c.utf8Size = 1) : isDigest (sampleHash c) = true := by
  rw [isDigest, utf8ByteSize_sampleHash hone]
  simpa [sampleHash] using h

end AgentSphere
