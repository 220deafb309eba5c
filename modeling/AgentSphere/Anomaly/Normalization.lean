import AgentSphere.Anomaly.Trajectory
import AgentSphere.Lib.Base64
import AgentSphere.Lib.Utf8

/-!
# Texts of a signal

The rules look for markers in one text for each signal: its action, its resource and the texts in
its value, each of them as it stands and decoded up to three times. A layer is a percent encoding or
base64, and the percent encoding is looked for first. What was encoded by up to three layers is
among these texts again.
-/

namespace AgentSphere.Anomaly

open Base64 (Engine firstDecoded)
open Utf8 (asBytes fromUtf8?)

-- Decoding

def hexNibble (value : UInt8) : Option UInt8 :=
  if 48 ≤ value ∧ value ≤ 57 then some (value - 48)
  else if 97 ≤ value ∧ value ≤ 102 then some (value - 97 + 10)
  else if 65 ≤ value ∧ value ≤ 70 then some (value - 65 + 10)
  else none

def percentByte (first high low : UInt8) : Option UInt8 :=
  if first = 37 then
    match hexNibble high, hexNibble low with
    | some high, some low => some (high * 16 + low)
    | _, _ => none
  else none

/-- The loop of `percent_decode_ascii`. -/
def percentDecode : List UInt8 → List UInt8
  | [] => []
  | [a] => [a]
  | [a, b] => [a, b]
  | a :: b :: c :: rest =>
    match percentByte a b c with
    | some byte => byte :: percentDecode rest
    | none => a :: percentDecode (b :: c :: rest)

def percentDecodeAscii (value : String) : String :=
  (fromUtf8? (percentDecode (asBytes value))).getD value

def engines : List Engine := [⟨.standard, true⟩, ⟨.urlSafe, true⟩, ⟨.urlSafe, false⟩]

def base64Decode (current : String) : Option String :=
  match firstDecoded engines (asBytes current) with
  | some bytes => if bytes.length ≤ 8192 then fromUtf8? bytes else none
  | none => none

def isPrintable (byte : UInt8) : Bool := 0x20 ≤ byte && byte ≤ 0x7e

def expand : Nat → String → List String
  | 0, _ => []
  | rounds + 1, current =>
    if 8192 < current.utf8ByteSize then []
    else
      toAsciiLowercase current ::
        -- a percent encoding goes before base64
        if percentDecodeAscii current ≠ current then expand rounds (percentDecodeAscii current)
        else
          match base64Decode current with
          | none => []
          | some next =>
            if next = current ∨ ¬(asBytes next).all isPrintable then [] else expand rounds next

mutual

def collectSafeStrings : Value → Nat → List String → List String
  | .string text, depth, output =>
    if 8 < depth ∨ 64 ≤ output.length then output
    else if text.utf8ByteSize ≤ 8192 then output ++ [text]
    else output
  | .array items, depth, output =>
    if 8 < depth ∨ 64 ≤ output.length then output else collectItems 64 items depth output
  | .object members, depth, output =>
    if 8 < depth ∨ 64 ≤ output.length then output else collectMembers 64 members depth output
  | .null, _, output => output
  | .bool _, _, output => output
  | .number _, _, output => output

def collectItems : Nat → List Value → Nat → List String → List String
  | _, [], _, output => output
  | 0, _ :: _, _, output => output
  | room + 1, item :: items, depth, output =>
    collectItems room items depth (collectSafeStrings item (depth + 1) output)

def collectMembers : Nat → List (String × Value) → Nat → List String → List String
  | _, [], _, output => output
  | 0, _ :: _, _, output => output
  | room + 1, (key, value) :: members, depth, output =>
    collectMembers room members depth (collectSafeStrings value (depth + 1) (output ++ [key]))

end

def signalTexts (signal : RiskSignal) : List String :=
  (collectSafeStrings signal.value 0 [signal.action, signal.resource]).take 64

def normalizedSignalText (signal : RiskSignal) : String :=
  " ".intercalate ((signalTexts signal).flatMap (expand 4))

-- Layers

/-- A text in percent encoding: any of its characters by their two digits, and `%` always. -/
inductive PercentEncoded : List UInt8 → List UInt8 → Prop where
  | nil : PercentEncoded [] []
  | plain {byte : UInt8} {text encoded : List UInt8} (hbyte : byte ≠ 37)
      (h : PercentEncoded text encoded) : PercentEncoded (byte :: text) (byte :: encoded)
  | escaped {byte high low : UInt8} {text encoded : List UInt8}
      (hhigh : hexNibble high = some (byte / 16)) (hlow : hexNibble low = some (byte % 16))
      (h : PercentEncoded text encoded) :
      PercentEncoded (byte :: text) (37 :: high :: low :: encoded)

inductive Layer (text encoded : String) : Prop where
  | percent (h : PercentEncoded (asBytes text) (asBytes encoded)) (hsome : encoded ≠ text)
  | base64 {engine : Engine} (hengine : engine ∈ engines)
      (h : asBytes encoded = engine.encode (asBytes text))

inductive Layers (content : String) : Nat → String → Prop where
  | none : Layers content 0 content
  | next {n : Nat} {text encoded : String} (h : Layers content n text)
      (hlayer : Layer text encoded) : Layers content (n + 1) encoded

section Bytes

variable {text encoded : List UInt8}

theorem byte_of_nibbles (byte : UInt8) : byte / 16 * 16 + byte % 16 = byte := by
  refine UInt8.toNat_inj.mp ?_
  have hlt := byte.toNat_lt
  rw [UInt8.toNat_add, UInt8.toNat_mul, UInt8.toNat_div, UInt8.toNat_mod]
  simp only [UInt8.reduceToNat]
  omega

theorem percentDecode_plain {byte : UInt8} (h : byte ≠ 37) (rest : List UInt8) :
    percentDecode (byte :: rest) = byte :: percentDecode rest := by
  match rest with
  | [] => rfl
  | [_] => rfl
  | b :: c :: rest =>
    have hnone : percentByte byte b c = none := if_neg h
    rw [percentDecode, hnone]

/-- **A percent encoding is decoded.** -/
theorem percentDecode_encoded (h : PercentEncoded text encoded) : percentDecode encoded = text := by
  induction h with
  | nil => rfl
  | plain hbyte h ih => rw [percentDecode_plain hbyte, ih]
  | @escaped byte high low text encoded hhigh hlow h ih =>
    have hdigits : percentByte 37 high low = some byte := by
      rw [percentByte, if_pos rfl, hhigh, hlow]
      exact congrArg some (byte_of_nibbles byte)
    rw [percentDecode, hdigits, ih]

theorem percentEncoded_self (h : ∀ byte ∈ text, byte ≠ 37) : PercentEncoded text text := by
  induction text with
  | nil => exact .nil
  | cons byte text ih =>
    obtain ⟨hbyte, htext⟩ := List.forall_mem_cons.mp h
    exact .plain hbyte (ih htext)

theorem isPrintable_of_hexNibble {byte digit : UInt8} (h : hexNibble byte = some digit) :
    isPrintable byte = true := by
  grind [hexNibble, isPrintable]

theorem PercentEncoded.printable (h : PercentEncoded text encoded)
    (htext : ∀ byte ∈ text, isPrintable byte = true) :
    ∀ byte ∈ encoded, isPrintable byte = true := by
  induction h with
  | nil => exact List.forall_mem_nil _
  | plain hbyte h ih =>
    obtain ⟨hfirst, hrest⟩ := List.forall_mem_cons.mp htext
    exact List.forall_mem_cons.mpr ⟨hfirst, ih hrest⟩
  | escaped hhigh hlow h ih =>
    obtain ⟨-, hrest⟩ := List.forall_mem_cons.mp htext
    simp only [List.forall_mem_cons]
    exact ⟨by decide, isPrintable_of_hexNibble hhigh, isPrintable_of_hexNibble hlow, ih hrest⟩

theorem PercentEncoded.length_le (h : PercentEncoded text encoded) :
    text.length ≤ encoded.length := by
  induction h with
  | nil => exact le_rfl
  | plain hbyte h ih => exact Nat.succ_le_succ ih
  | escaped hhigh hlow h ih =>
    simp only [List.length_cons]
    omega

theorem isPrintable_encode {engine : Engine} (hengine : engine ∈ engines) (text : List UInt8) :
    ∀ byte ∈ engine.encode text, isPrintable byte = true ∧ byte ≠ 37 := by
  intro byte hbyte
  simp only [engines, List.mem_cons, List.not_mem_nil, or_false] at hengine
  obtain hsymbol | rfl := Engine.isSymbol_or_pad text byte hbyte
  · rcases hengine with rfl | rfl | rfl <;>
      grind [isPrintable, Base64.Alphabet.IsSymbol, Base64.isAlphanumeric, Base64.Alphabet.standard,
        Base64.Alphabet.urlSafe]
  · decide

theorem engines_compatible :
    ∀ self ∈ engines, ∀ other ∈ engines, self.alphabet.Compatible other.alphabet := by
  decide

end Bytes

section Texts

variable {content text encoded : String} {n : Nat}

def Printable (text : String) : Prop := ∀ byte ∈ asBytes text, isPrintable byte = true

theorem printable_of_all (h : (asBytes text).all isPrintable = true) : Printable text :=
  List.all_eq_true.mp h

theorem Layer.printable (h : Layer text encoded) (htext : Printable text) : Printable encoded := by
  cases h with
  | percent h hsome => exact h.printable htext
  | base64 hengine h =>
    rw [Printable, h]
    exact fun byte hbyte => (isPrintable_encode hengine _ byte hbyte).1

theorem Layer.size_le (h : Layer text encoded) : text.utf8ByteSize ≤ encoded.utf8ByteSize := by
  rw [← Utf8.length_asBytes, ← Utf8.length_asBytes]
  cases h with
  | percent h hsome => exact h.length_le
  | base64 hengine h =>
    rw [h]
    exact Engine.length_le_encode _

theorem Layer.ne (h : Layer text encoded) (hne : text ≠ "") : encoded ≠ text := by
  cases h with
  | percent h hsome => exact hsome
  | @base64 engine hengine h =>
    rintro rfl
    have hbytes : asBytes encoded ≠ [] := by
      intro hempty
      exact hne (Utf8.asBytes_injective hempty)
    have hlength : (asBytes encoded).length < (engine.encode (asBytes encoded)).length :=
      Engine.length_lt_encode hbytes
    rw [← h] at hlength
    exact lt_irrefl _ hlength

/-- **One layer is taken off.** -/
theorem expand_layer (h : Layer text encoded) (htext : Printable text) (hne : text ≠ "")
    (hsize : encoded.utf8ByteSize ≤ 8192) (rounds : Nat) :
    expand (rounds + 1) encoded = toAsciiLowercase encoded :: expand rounds text := by
  have hdiffers := h.ne hne
  have hsmall := h.size_le.trans hsize
  rw [expand, if_neg (Nat.not_lt.mpr hsize)]
  cases h with
  | percent h hsome =>
    have hdecoded : percentDecodeAscii encoded = text := by
      rw [percentDecodeAscii, percentDecode_encoded h, Utf8.fromUtf8?_asBytes]
      rfl
    rw [hdecoded, if_pos hdiffers.symm]
  | base64 hengine h =>
    have hsame : percentDecodeAscii encoded = encoded := by
      have hplain : percentDecode (asBytes encoded) = asBytes encoded := by
        refine percentDecode_encoded (percentEncoded_self ?_)
        rw [h]
        exact fun byte hbyte => (isPrintable_encode hengine _ byte hbyte).2
      rw [percentDecodeAscii, hplain, Utf8.fromUtf8?_asBytes]
      rfl
    have hdecoded : base64Decode encoded = some text := by
      rw [base64Decode, h, Base64.firstDecoded_encode engines_compatible hengine]
      rw [← Utf8.length_asBytes] at hsmall
      dsimp only
      rw [if_pos hsmall, Utf8.fromUtf8?_asBytes]
    have hprintable : (asBytes text).all isPrintable = true := List.all_eq_true.mpr htext
    rw [hsame, if_neg (fun hne => hne rfl), hdecoded]
    dsimp only
    rw [if_neg (not_or.mpr ⟨hdiffers.symm, fun hnot => hnot hprintable⟩)]

theorem Layers.printable (h : Layers content n text) (hcontent : Printable content) :
    Printable text := by
  induction h with
  | none => exact hcontent
  | next h hlayer ih => exact hlayer.printable ih

theorem Layers.size_le (h : Layers content n text) :
    content.utf8ByteSize ≤ text.utf8ByteSize := by
  induction h with
  | none => exact le_rfl
  | next h hlayer ih => exact ih.trans hlayer.size_le

theorem Layers.ne_empty (h : Layers content n text) (hne : content ≠ "") : text ≠ "" := by
  rintro rfl
  have hsize : content.utf8ByteSize = 0 := Nat.le_zero.mp h.size_le
  rw [← Utf8.length_asBytes, List.length_eq_zero_iff] at hsize
  exact hne (Utf8.asBytes_injective hsize)

/-- **The layers around a text are taken off one after the other.** -/
theorem expand_layers (h : Layers content n text) (hcontent : Printable content)
    (hne : content ≠ "") (hsize : text.utf8ByteSize ≤ 8192) :
    ∃ outer, ∀ rounds, expand (n + rounds) text = outer ++ expand rounds content := by
  induction h with
  | none => exact ⟨[], fun rounds => by rw [Nat.zero_add]; rfl⟩
  | @next n text encoded h hlayer ih =>
    obtain ⟨outer, houter⟩ := ih (hlayer.size_le.trans hsize)
    refine ⟨toAsciiLowercase encoded :: outer, fun rounds => ?_⟩
    rw [Nat.succ_add, expand_layer hlayer (h.printable hcontent) (h.ne_empty hne) hsize, houter]
    rfl

theorem expand_empty (rounds : Nat) : expand (rounds + 1) "" = [""] := by
  have hlower : toAsciiLowercase "" = "" := by
    refine String.toList_injective ?_
    rw [toAsciiLowercase, String.toList_map]
    rfl
  have hpercent : percentDecodeAscii "" = "" := by decide
  have hbase64 : base64Decode "" = some "" := by decide
  rw [expand, if_neg (by decide), hlower, hpercent, if_neg (fun hne => hne rfl), hbase64]
  rfl

theorem expand_one (hsize : text.utf8ByteSize ≤ 8192) : expand 1 text = [toAsciiLowercase text] := by
  rw [expand, if_neg (Nat.not_lt.mpr hsize)]
  refine congrArg (toAsciiLowercase text :: ·) ?_
  split_ifs
  · rfl
  · split
    · rfl
    · split_ifs <;> rfl

theorem expand_plain (hsize : text.utf8ByteSize ≤ 8192) (hpercent : percentDecodeAscii text = text)
    (hbase64 : base64Decode text = none) (rounds : Nat) :
    expand (rounds + 1) text = [toAsciiLowercase text] := by
  rw [expand, if_neg (Nat.not_lt.mpr hsize), hpercent, if_neg (fun hne => hne rfl), hbase64]

theorem Layers.eq_empty (h : Layers "" n text) : text = "" := by
  induction h with
  | none => rfl
  | @next n text encoded h hlayer ih =>
    obtain rfl := ih
    cases hlayer with
    | percent h hsome =>
      generalize hbytes : asBytes encoded = bytes at h
      cases h
      exact Utf8.asBytes_injective hbytes
    | base64 hengine h => exact Utf8.asBytes_injective (h.trans Engine.encode_nil)

/-- **What is searched of an encoded text** goes on with what is searched of the text itself, as far
as the rounds reach. -/
theorem expand_encoded (h : Layers content n text) (hn : n ≤ 3) (hcontent : Printable content)
    (hsize : text.utf8ByteSize ≤ 8192) :
    ∃ outer, expand 4 text = outer ++ expand (4 - n) content := by
  by_cases hne : content = ""
  · subst hne
    have hrounds : 4 - n = (3 - n) + 1 := by omega
    rw [h.eq_empty, hrounds, expand_empty, expand_empty]
    exact ⟨[], rfl⟩
  · obtain ⟨outer, houter⟩ := expand_layers h hcontent hne hsize
    have hrounds : n + (4 - n) = 4 := by omega
    rw [← hrounds, houter, hrounds]
    exact ⟨outer, rfl⟩

end Texts

section Search

mutual

theorem collectSafeStrings_append (value : Value) (depth count : Nat) :
    ∃ rest, ∀ output : List String, output.length = count →
      collectSafeStrings value depth output = output ++ rest := by
  cases value with
  | null => exact ⟨[], fun output _ => (List.append_nil output).symm⟩
  | bool b => exact ⟨[], fun output _ => (List.append_nil output).symm⟩
  | number n => exact ⟨[], fun output _ => (List.append_nil output).symm⟩
  | string text =>
    refine ⟨if 8 < depth ∨ 64 ≤ count then [] else if text.utf8ByteSize ≤ 8192 then [text] else [],
      ?_⟩
    rintro output rfl
    rw [collectSafeStrings]
    split_ifs
    · exact (List.append_nil output).symm
    · rfl
    · exact (List.append_nil output).symm
  | array items =>
    obtain ⟨rest, hrest⟩ := collectItems_append 64 items depth count
    refine ⟨if 8 < depth ∨ 64 ≤ count then [] else rest, ?_⟩
    rintro output rfl
    rw [collectSafeStrings]
    split_ifs
    · exact (List.append_nil output).symm
    · exact hrest output rfl
  | object members =>
    obtain ⟨rest, hrest⟩ := collectMembers_append 64 members depth count
    refine ⟨if 8 < depth ∨ 64 ≤ count then [] else rest, ?_⟩
    rintro output rfl
    rw [collectSafeStrings]
    split_ifs
    · exact (List.append_nil output).symm
    · exact hrest output rfl

theorem collectItems_append (room : Nat) (items : List Value) (depth count : Nat) :
    ∃ rest, ∀ output : List String, output.length = count →
      collectItems room items depth output = output ++ rest := by
  match room, items with
  | room, [] => exact ⟨[], fun output _ => by cases room <;> exact (List.append_nil output).symm⟩
  | 0, _ :: _ => exact ⟨[], fun output _ => (List.append_nil output).symm⟩
  | room + 1, item :: items =>
    obtain ⟨first, hfirst⟩ := collectSafeStrings_append item (depth + 1) count
    obtain ⟨rest, hrest⟩ := collectItems_append room items depth (count + first.length)
    refine ⟨first ++ rest, ?_⟩
    rintro output rfl
    rw [collectItems, hfirst output rfl, hrest _ List.length_append, List.append_assoc]

theorem collectMembers_append (room : Nat) (members : List (String × Value)) (depth count : Nat) :
    ∃ rest, ∀ output : List String, output.length = count →
      collectMembers room members depth output = output ++ rest := by
  match room, members with
  | room, [] => exact ⟨[], fun output _ => by cases room <;> exact (List.append_nil output).symm⟩
  | 0, _ :: _ => exact ⟨[], fun output _ => (List.append_nil output).symm⟩
  | room + 1, (key, value) :: members =>
    obtain ⟨first, hfirst⟩ := collectSafeStrings_append value (depth + 1) (count + 1)
    obtain ⟨rest, hrest⟩ := collectMembers_append room members depth (count + 1 + first.length)
    refine ⟨key :: first ++ rest, ?_⟩
    rintro output rfl
    have hnamed : (output ++ [key]).length = output.length + 1 := List.length_append
    have hvalue : (output ++ [key] ++ first).length = output.length + 1 + first.length := by
      rw [List.length_append, hnamed]
    rw [collectMembers, hfirst _ hnamed, hrest _ hvalue]
    simp only [List.append_assoc, List.cons_append, List.nil_append]

end

theorem signalTexts_eq (signal : RiskSignal) :
    ∃ rest, ∀ action resource, signalTexts { signal with action, resource } =
      action :: resource :: rest := by
  obtain ⟨rest, hrest⟩ := collectSafeStrings_append signal.value 0 2
  refine ⟨rest.take 62, fun action resource => ?_⟩
  rw [signalTexts]
  show (collectSafeStrings signal.value 0 [action, resource]).take 64 = _
  rw [hrest [action, resource] rfl]
  rfl

def valueTexts (signal : RiskSignal) : List String := (signalTexts signal).drop 2

theorem signalTexts_cons (signal : RiskSignal) (resource : String) :
    signalTexts { signal with resource } = signal.action :: resource :: valueTexts signal := by
  obtain ⟨rest, hrest⟩ := signalTexts_eq signal
  have hvalue : valueTexts signal = rest := congrArg (List.drop 2) (hrest signal.action signal.resource)
  rw [hvalue]
  exact hrest signal.action resource

theorem valueTexts_resource (signal : RiskSignal) (resource : String) :
    valueTexts { signal with resource } = valueTexts signal := by
  rw [valueTexts, signalTexts_cons]
  rfl

theorem containsText_intercalate {sep part : String} {searched texts : List String}
    (h : searched <:+: texts) (hpart : containsText (sep.intercalate searched) part = true) :
    containsText (sep.intercalate texts) part = true := by
  refine containsText_iff.mpr ((containsText_iff.mp hpart).trans ?_)
  obtain ⟨before, after, rfl⟩ := h
  by_cases hsearched : searched = []
  · rw [hsearched, String.intercalate_nil]
    exact List.nil_infix
  · have hafter : (sep.intercalate searched).toList <:+:
        (sep.intercalate (searched ++ after)).toList := by
      by_cases hnil : after = []
      · rw [hnil, List.append_nil]
      · rw [String.intercalate_append_of_ne_nil hsearched hnil, String.toList_append,
          String.toList_append, List.append_assoc]
        exact (List.prefix_append ..).isInfix
    refine hafter.trans ?_
    rw [List.append_assoc]
    by_cases hnil : before = []
    · rw [hnil, List.nil_append]
    · rw [String.intercalate_append_of_ne_nil hnil (List.append_ne_nil_of_left_ne_nil hsearched _),
        String.toList_append, String.toList_append]
      exact (List.suffix_append ..).isInfix

theorem normalized_eq (signal : RiskSignal) (resource : String) :
    normalizedSignalText { signal with resource } =
      " ".intercalate (expand 4 signal.action ++
        (expand 4 resource ++ (valueTexts signal).flatMap (expand 4))) := by
  rw [normalizedSignalText, signalTexts_cons, List.flatMap_cons, List.flatMap_cons]

theorem containsText_expand {text : String} (hsize : text.utf8ByteSize ≤ 8192) (rounds : Nat) :
    containsText (" ".intercalate (expand (rounds + 1) text)) (toAsciiLowercase text) = true := by
  obtain ⟨rest, hrest⟩ : ∃ rest, expand (rounds + 1) text = [toAsciiLowercase text] ++ rest := by
    rw [expand, if_neg (Nat.not_lt.mpr hsize)]
    exact ⟨_, rfl⟩
  rw [hrest]
  refine containsText_intercalate (List.prefix_append ..).isInfix ?_
  rw [String.intercalate_singleton]
  exact containsText_self _

/-- **What was encoded by up to three layers is searched as it was**, in small letters. -/
theorem normalized_contains {signal : RiskSignal} {content encoded : String} {n : Nat}
    (h : Layers content n encoded) (hn : n ≤ 3) (hcontent : Printable content)
    (hsize : encoded.utf8ByteSize ≤ 8192)
    (hsignal : signal.action = encoded ∨ signal.resource = encoded) :
    containsText (normalizedSignalText signal) (toAsciiLowercase content) = true := by
  have htext : normalizedSignalText signal = " ".intercalate (expand 4 signal.action ++
      (expand 4 signal.resource ++ (valueTexts signal).flatMap (expand 4))) :=
    normalized_eq signal signal.resource
  obtain ⟨outer, houter⟩ := expand_encoded h hn hcontent hsize
  have hrounds : 4 - n = (3 - n) + 1 := by omega
  have hsearched : expand (3 - n + 1) content <:+: expand 4 encoded := by
    rw [houter, hrounds]
    exact (List.suffix_append ..).isInfix
  rw [htext]
  refine containsText_intercalate (hsearched.trans ?_)
    (containsText_expand (h.size_le.trans hsize) (3 - n))
  obtain rfl | rfl := hsignal
  · exact (List.prefix_append ..).isInfix
  · exact (List.prefix_append ..).isInfix.trans (List.suffix_append ..).isInfix

end Search

end AgentSphere.Anomaly
