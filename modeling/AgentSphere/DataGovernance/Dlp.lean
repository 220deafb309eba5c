import AgentSphere.Contracts.Json
import AgentSphere.DataGovernance.Labels
import AgentSphere.Lib.Base64
import AgentSphere.Lib.Utf8

/-!
# Data loss prevention

A scanner looks for secrets, personal data and what belongs to industrial plants. It looks through
up to three layers of base64, and it goes through a JSON value, where it looks at the texts and at
the names of members.
-/

namespace AgentSphere

inductive Value.Located (root : Value) : String → Value → Prop where
  | root : Located root "$" root
  | member {path key : String} {members : List (String × Value)} {value : Value}
      (h : Located root path (.object members)) (hmember : (key, value) ∈ members) :
      Located root (path ++ "." ++ key) value
  | item {path : String} {items : List Value} {index : Nat} {value : Value}
      (h : Located root path (.array items)) (hitem : items[index]? = some value) :
      Located root (path ++ "[" ++ toString index ++ "]") value

namespace DataGovernance

open Concurrency
open Base64 (Engine Alphabet Layers firstDecoded)
open Utf8 (asBytes fromUtf8Lossy)

def maxInspectionBytes : Nat := 8 * 1024 * 1024

def maxJsonScanDepth : Nat := 32

def maxJsonScanNodes : Nat := 100000

def maxDlpFindings : Nat := 4096

inductive DlpFindingKind where
  | secret
  | personalData
  | industrialSensitive
  | encodedPayload
  | compressedPayload
  deriving DecidableEq, Repr

structure DlpFinding where
  kind : DlpFindingKind
  path : String
  valueHash : String
  blocking : Bool
  deriving DecidableEq, Repr

structure DlpCodec where
  sha256 : List UInt8 → Vector UInt8 32
  toText : Value → String

structure DlpScanner where
  available : Bool
  patternsValid : Bool
  secretPatterns : List (String → Bool)
  personalPatterns : List (String → Bool)

/-- The engines of `decode_base64_layer`: both alphabets, with padding and without. -/
def engines : List Engine :=
  [⟨.standard, true⟩, ⟨.standard, false⟩, ⟨.urlSafe, true⟩, ⟨.urlSafe, false⟩]

def decodeBase64Layer (value : String) : Option (List UInt8) := firstDecoded engines (asBytes value)

def isSymbol (byte : UInt8) : Bool :=
  Base64.isAlphanumeric byte || byte == 43 || byte == 47 || byte == 95 || byte == 45 || byte == 61

def looksBase64 (text : String) : Bool :=
  let value := asBytes (trim text)
  8 ≤ value.length && value.all isSymbol && (value.filter (· == 61)).length ≤ 2 &&
    (value.dropWhile (· != 61)).all (· == 61)

def isCompressed (bytes : List UInt8) : Bool :=
  [0x1f, 0x8b].isPrefixOf bytes || [0x50, 0x4b, 0x03, 0x04].isPrefixOf bytes

namespace DlpScanner

variable (codec : DlpCodec) (self : DlpScanner)

def isAvailable : Bool := self.patternsValid && self.available

def finding (kind : DlpFindingKind) (path : String) (bytes : List UInt8) (blocking : Bool) :
    DlpFinding where
  kind
  path
  valueHash := hex (codec.sha256 bytes).toList
  blocking

def scanText (text path : String) (blocking : Bool) : List DlpFinding :=
  (if self.secretPatterns.any (· text) then
    [finding codec .secret path (asBytes text) true] else []) ++
  (if self.personalPatterns.any (· text) then
    [finding codec .personalData path (asBytes text) blocking] else []) ++
  (if containsText (toAsciiLowercase text) "plc-password" ||
      containsText (toAsciiLowercase text) "sis-bypass" then
    [finding codec .industrialSensitive path (asBytes text) true] else [])

def scanLayers (bytes : List UInt8) : List Nat → List UInt8 → List DlpFinding
  | [], _ => []
  | depth :: depths, encoded =>
    let encodedText := fromUtf8Lossy encoded
    let path := "$[base64:" ++ toString depth ++ "]"
    let payload := finding codec .encodedPayload "$" bytes true
    if looksBase64 encodedText then
      match decodeBase64Layer (trim encodedText) with
      | none => []
      | some decoded =>
        if decoded = [] ∨ maxInspectionBytes < decoded.length then [payload]
        else if isCompressed decoded then
          [payload, finding codec .compressedPayload path decoded true]
        else
          let decodedFindings := self.scanText codec (fromUtf8Lossy decoded) path true
          (if decodedFindings = [] then [] else payload :: decodedFindings) ++
            scanLayers bytes depths decoded
    else []

def scanBytes (bytes : List UInt8) : Except DataError (List DlpFinding) := do
  require (self.isAvailable = true) .dlpUnavailable
  require (bytes ≠ [] ∧ bytes.length ≤ maxInspectionBytes) .contentInvalid
  if isCompressed bytes then
    return [finding codec .compressedPayload "$" bytes true]
  else
    let text := fromUtf8Lossy bytes
    return self.scanText codec text "$" true ++
      self.scanLayers codec bytes [1, 2, 3] (asBytes (trim text))

structure Scanned where
  nodes : Nat
  findings : List DlpFinding

def enter (path : String) (depth : Nat) (scanned : Scanned) : Except DataError Scanned := do
  require (depth ≤ maxJsonScanDepth ∧ scanned.nodes + 1 ≤ maxJsonScanNodes ∧
    path.utf8ByteSize ≤ 4096 ∧ scanned.findings.length ≤ maxDlpFindings) .contentInvalid
  return { scanned with nodes := scanned.nodes + 1 }

def secretKeys : List String := ["password", "token", "secret", "api_key", "authorization"]

def scanKey (key child : String) (value : Value) (scanned : Scanned) : Except DataError Scanned :=
  if toAsciiLowercase key ∈ secretKeys then do
    require (scanned.findings.length ≠ maxDlpFindings) .contentInvalid
    return { scanned with
      findings := scanned.findings ++
        [finding codec .secret child (asBytes (codec.toText value)) true] }
  else .ok scanned

def textFindings (text : String) : Except DataError (List DlpFinding) :=
  if text = "" then .ok [] else self.scanBytes codec (asBytes text)

def scanString (text path : String) (scanned : Scanned) : Except DataError Scanned := do
  let textFindings ← self.textFindings codec text
  require (scanned.findings.length + textFindings.length ≤ maxDlpFindings) .contentInvalid
  return { scanned with
    findings := scanned.findings ++ textFindings.map fun found => { found with path } }

mutual

def scanJsonValue : Value → String → Nat → Scanned → Except DataError Scanned
  | .object members, path, depth, scanned => do
    let scanned ← enter path depth scanned
    scanMembers members path depth scanned
  | .array items, path, depth, scanned => do
    let scanned ← enter path depth scanned
    scanItems items 0 path depth scanned
  | .string text, path, depth, scanned => do
    let scanned ← enter path depth scanned
    self.scanString codec text path scanned
  | .null, path, depth, scanned => enter path depth scanned
  | .bool _, path, depth, scanned => enter path depth scanned
  | .number _, path, depth, scanned => enter path depth scanned

def scanMembers : List (String × Value) → String → Nat → Scanned → Except DataError Scanned
  | [], _, _, scanned => .ok scanned
  | (key, value) :: members, path, depth, scanned => do
    let child := path ++ "." ++ key
    let scanned ← scanKey codec key child value scanned
    let scanned ← scanJsonValue value child (depth + 1) scanned
    scanMembers members path depth scanned

def scanItems : List Value → Nat → String → Nat → Scanned → Except DataError Scanned
  | [], _, _, _, scanned => .ok scanned
  | item :: items, index, path, depth, scanned => do
    let scanned ← scanJsonValue item (path ++ "[" ++ toString index ++ "]") (depth + 1) scanned
    scanItems items (index + 1) path depth scanned

end

def scanJson (value : Value) : Except DataError (List DlpFinding) := do
  require (self.isAvailable = true) .dlpUnavailable
  let scanned ← self.scanJsonValue codec value "$" 0 ⟨0, []⟩
  return scanned.findings

end DlpScanner

section Texts

variable {bytes : List UInt8}

theorem lt_of_isSymbol {byte : UInt8} (h : isSymbol byte = true) : byte < 0x80 := by
  grind [isSymbol, Base64.isAlphanumeric]

theorem isWhitespace_of_isSymbol {byte : UInt8} (h : isSymbol byte = true) :
    isWhitespace (Char.ofNat byte.toNat) = false := by
  have hlow : 43 ≤ byte := by grind [isSymbol, Base64.isAlphanumeric]
  have hlow' : 43 ≤ byte.toNat := UInt8.le_iff_toNat_le.mp hlow
  have hhigh : byte.toNat < 128 := UInt8.lt_iff_toNat_lt.mp (lt_of_isSymbol h)
  rw [isWhitespace, Utf8.toNat_ofNat_ascii (lt_of_isSymbol h)]
  simp only [Bool.or_eq_false_iff, Bool.and_eq_false_iff, decide_eq_false_iff_not, beq_eq_false_iff_ne]
  omega

theorem toList_fromUtf8Lossy (h : ∀ byte ∈ bytes, isSymbol byte = true) :
    (fromUtf8Lossy bytes).toList = bytes.map fun byte => Char.ofNat byte.toNat := by
  rw [fromUtf8Lossy, String.toList_ofList]
  exact Utf8.decodeLossy_ascii fun byte hbyte => lt_of_isSymbol (h byte hbyte)

theorem asBytes_fromUtf8Lossy (h : ∀ byte ∈ bytes, isSymbol byte = true) :
    asBytes (fromUtf8Lossy bytes) = bytes := by
  rw [asBytes, fromUtf8Lossy, String.toList_ofList]
  exact Utf8.encode_decodeLossy_ascii fun byte hbyte => lt_of_isSymbol (h byte hbyte)

theorem trim_fromUtf8Lossy (h : ∀ byte ∈ bytes, isSymbol byte = true) :
    trim (fromUtf8Lossy bytes) = fromUtf8Lossy bytes := by
  have hnone : ∀ c ∈ (fromUtf8Lossy bytes).toList, isWhitespace c = false := by
    intro c hc
    rw [toList_fromUtf8Lossy h] at hc
    obtain ⟨byte, hbyte, rfl⟩ := List.mem_map.mp hc
    exact isWhitespace_of_isSymbol (h byte hbyte)
  exact trim_eq_self hnone

theorem isSymbol_encode {engine : Engine} (hengine : engine ∈ engines) (content : List UInt8) :
    ∀ byte ∈ engine.encode content, isSymbol byte = true := by
  intro byte hbyte
  simp only [engines, List.mem_cons, List.not_mem_nil, or_false] at hengine
  obtain hsymbol | rfl := Engine.isSymbol_or_pad content byte hbyte
  · rcases hengine with rfl | rfl | rfl | rfl <;>
      grind [isSymbol, Base64.Alphabet.IsSymbol, Alphabet.standard, Alphabet.urlSafe]
  · decide

theorem isCompressed_eq_false (h : ∀ byte ∈ bytes, isSymbol byte = true) :
    isCompressed bytes = false := by
  rw [isCompressed, Bool.or_eq_false_iff, Bool.eq_false_iff, Bool.eq_false_iff, ne_eq, ne_eq,
    List.isPrefixOf_iff_prefix, List.isPrefixOf_iff_prefix]
  constructor
  · intro hgzip
    exact absurd (h 0x1f (hgzip.subset (by decide))) (by decide)
  · intro hzip
    exact absurd (h 0x03 (hzip.subset (by decide))) (by decide)

theorem engines_compatible :
    ∀ self ∈ engines, ∀ other ∈ engines, self.alphabet.Compatible other.alphabet := by
  decide

theorem looksBase64_encode {engine : Engine} (hengine : engine ∈ engines) {content : List UInt8}
    (hlength : 8 ≤ (engine.encode content).length) :
    looksBase64 (fromUtf8Lossy (engine.encode content)) = true := by
  have hsymbols := isSymbol_encode hengine content
  have hpads : ((engine.encode content).filter (· == 61)).length ≤ 2 := by
    have hbody : ((Base64.sextets content).map engine.alphabet.symbol).filter (· == 61) = [] := by
      rw [List.filter_eq_nil_iff]
      intro byte hbyte hpad
      exact bne_iff_ne.mp (Engine.ne_pad_of_mem byte hbyte) (beq_iff_eq.mp hpad)
    rw [Engine.encode, List.filter_append, hbody, List.nil_append]
    exact (List.length_filter_le _ _).trans (Engine.length_paddingOf_le content)
  have hrest : ((engine.encode content).dropWhile (· != 61)).all (· == 61) = true := by
    have hpadding : (engine.encode content).dropWhile (· != 61) =
        engine.paddingOf (Base64.sextets content).length := Engine.dropWhile_encode content
    rw [hpadding, List.all_eq_true]
    exact fun byte hbyte => beq_iff_eq.mpr (Engine.eq_pad_of_mem_paddingOf byte hbyte)
  simp only [looksBase64, trim_fromUtf8Lossy hsymbols, asBytes_fromUtf8Lossy hsymbols, hrest,
    Bool.and_true, Bool.and_eq_true, decide_eq_true_eq]
  exact ⟨⟨hlength, List.all_eq_true.mpr hsymbols⟩, hpads⟩

/-- **The first engine that reads a layer reads it as it was written.** -/
theorem decodeBase64Layer_encode {engine : Engine} (hengine : engine ∈ engines)
    (content : List UInt8) :
    decodeBase64Layer (trim (fromUtf8Lossy (engine.encode content))) = some content := by
  have hsymbols := isSymbol_encode hengine content
  rw [decodeBase64Layer, trim_fromUtf8Lossy hsymbols, asBytes_fromUtf8Lossy hsymbols]
  exact Base64.firstDecoded_encode engines_compatible hengine content

end Texts

section Layers

variable {codec : DlpCodec} {self : DlpScanner} {bytes content innermost text : List UInt8} {n : Nat}

theorem scanText_ne_nil_iff {value path : String} {blocking : Bool} :
    self.scanText codec value path blocking ≠ [] ↔
      self.secretPatterns.any (· value) = true ∨ self.personalPatterns.any (· value) = true ∨
        (containsText (toAsciiLowercase value) "plc-password" ||
          containsText (toAsciiLowercase value) "sis-bypass") = true := by
  simp only [DlpScanner.scanText, ne_eq, List.append_eq_nil_iff, not_and_or, or_assoc,
    ite_eq_right_iff, List.cons_ne_nil, imp_false, not_not]

theorem scanLayers_encode {engine : Engine} (hengine : engine ∈ engines)
    (hlength : 8 ≤ (engine.encode content).length) (depth : Nat) (depths : List Nat) :
    self.scanLayers codec bytes (depth :: depths) (engine.encode content) =
      if content = [] ∨ maxInspectionBytes < content.length then
        [DlpScanner.finding codec .encodedPayload "$" bytes true]
      else if isCompressed content then
        [DlpScanner.finding codec .encodedPayload "$" bytes true,
          DlpScanner.finding codec .compressedPayload ("$[base64:" ++ toString depth ++ "]")
            content true]
      else
        (if self.scanText codec (fromUtf8Lossy content) ("$[base64:" ++ toString depth ++ "]")
            true = [] then []
          else DlpScanner.finding codec .encodedPayload "$" bytes true ::
            self.scanText codec (fromUtf8Lossy content) ("$[base64:" ++ toString depth ++ "]")
              true) ++
          self.scanLayers codec bytes depths content := by
  rw [DlpScanner.scanLayers]
  simp only [looksBase64_encode hengine hlength, decodeBase64Layer_encode hengine, if_true]

theorem payload_mem_scanLayers {engine : Engine} (hengine : engine ∈ engines)
    (hlength : 8 ≤ (engine.encode content).length) {depth : Nat} {depths : List Nat}
    (h : self.scanText codec (fromUtf8Lossy content) "$" true ≠ [] ∨
      DlpScanner.finding codec .encodedPayload "$" bytes true ∈
        self.scanLayers codec bytes depths content) :
    DlpScanner.finding codec .encodedPayload "$" bytes true ∈
      self.scanLayers codec bytes (depth :: depths) (engine.encode content) := by
  rw [scanLayers_encode hengine hlength]
  split
  · exact List.mem_cons_self
  split
  · exact List.mem_cons_self
  refine List.mem_append.mpr (h.imp_left fun hflagged => ?_)
  rw [if_neg (scanText_ne_nil_iff.mpr (scanText_ne_nil_iff.mp hflagged))]
  exact List.mem_cons_self

/-- **Layers of base64 hide nothing**: what the innermost of them holds is found, or what is around
it is reported already. -/
theorem scanLayers_payload (h : Layers engines content innermost n text)
    (hinnermost : 8 ≤ innermost.length)
    (hflagged : self.scanText codec (fromUtf8Lossy content) "$" true ≠ []) :
    ∀ depths : List Nat, n ≤ depths.length →
      DlpScanner.finding codec .encodedPayload "$" bytes true ∈
        self.scanLayers codec bytes depths text := by
  induction h with
  | one hengine hencode =>
    intro depths hdepths
    obtain ⟨depth, depths, rfl⟩ := List.exists_cons_of_length_pos hdepths
    rw [← hencode] at hinnermost ⊢
    exact payload_mem_scanLayers hengine hinnermost (.inl hflagged)
  | @next n text engine h hengine ih =>
    intro depths hdepths
    obtain ⟨depth, depths, rfl⟩ := List.exists_cons_of_length_pos (Nat.zero_lt_of_lt hdepths)
    have hlength : 8 ≤ (engine.encode text).length :=
      hinnermost.trans (h.length_le.trans (Engine.length_le_encode text))
    exact payload_mem_scanLayers hengine hlength (.inr (ih depths (Nat.le_of_succ_le_succ hdepths)))

theorem isSymbol_of_layers (h : Layers engines content innermost n text) :
    ∀ byte ∈ text, isSymbol byte = true := by
  cases h with
  | one hengine hencode =>
    rw [← hencode]
    exact isSymbol_encode hengine content
  | next h hengine => exact isSymbol_encode hengine _

theorem scanBytes_payload (h : Layers engines content innermost n text) (hn : n ≤ 3)
    (hinnermost : 8 ≤ innermost.length)
    (hflagged : self.scanText codec (fromUtf8Lossy content) "$" true ≠ [])
    (havailable : self.isAvailable = true) (hlength : text.length ≤ maxInspectionBytes) :
    ∃ findings, self.scanBytes codec text = .ok findings ∧
      DlpScanner.finding codec .encodedPayload "$" text true ∈ findings := by
  have hsymbols := isSymbol_of_layers h
  have hne : text ≠ [] := by
    rintro rfl
    have hshort := hinnermost.trans h.length_le
    cases hshort
  have hscan : self.scanBytes codec text = .ok (self.scanText codec (fromUtf8Lossy text) "$" true ++
      self.scanLayers codec text [1, 2, 3] text) := by
    simp only [DlpScanner.scanBytes, except_bind_eq_ok, require_eq_ok, Unique.exists_iff]
    rw [isCompressed_eq_false hsymbols, trim_fromUtf8Lossy hsymbols, asBytes_fromUtf8Lossy hsymbols]
    exact ⟨havailable, ⟨hne, hlength⟩, rfl⟩
  exact ⟨_, hscan,
    List.mem_append_right _ (scanLayers_payload h hinnermost hflagged [1, 2, 3] hn)⟩

end Layers

section Values

open DlpScanner

variable {codec : DlpCodec} {self : DlpScanner} {path : String} {depth : Nat}
  {scanned scanned' : Scanned}

theorem findings_of_enter (h : enter path depth scanned = .ok scanned') :
    scanned'.findings = scanned.findings := by
  simp only [enter, except_bind_eq_ok, require_eq_ok, Unique.exists_iff] at h
  obtain ⟨-, h⟩ := h
  cases h
  rfl

theorem findings_of_scanKey {key child : String} {value : Value}
    (h : scanKey codec key child value scanned = .ok scanned') :
    scanned.findings ⊆ scanned'.findings ∧
      (toAsciiLowercase key ∈ secretKeys →
        finding codec .secret child (asBytes (codec.toText value)) true ∈ scanned'.findings) := by
  unfold scanKey at h
  split at h
  · simp only [except_bind_eq_ok, require_eq_ok, Unique.exists_iff] at h
    obtain ⟨-, h⟩ := h
    cases h
    exact ⟨List.subset_append_left _ _, fun _ => List.mem_append_right _ List.mem_cons_self⟩
  · rename_i hkey
    cases h
    exact ⟨List.Subset.refl _, fun hin => absurd hin hkey⟩

theorem findings_of_scanString {text : String}
    (h : self.scanString codec text path scanned = .ok scanned') :
    scanned.findings ⊆ scanned'.findings ∧
      ∀ findings, self.scanBytes codec (asBytes text) = .ok findings →
        ∀ found ∈ findings, { found with path } ∈ scanned'.findings := by
  simp only [scanString, except_bind_eq_ok, require_eq_ok, Unique.exists_iff] at h
  obtain ⟨found', htext, -, h⟩ := h
  cases h
  refine ⟨List.subset_append_left _ _, fun findings hfindings found hfound => ?_⟩
  refine List.mem_append_right _ (List.mem_map.mpr ⟨found, ?_, rfl⟩)
  by_cases hempty : text = ""
  · -- there is nothing to scan
    rw [hempty] at hfindings
    simp only [scanBytes, except_bind_eq_ok, require_eq_ok] at hfindings
    obtain ⟨-, -, -, ⟨hne, -⟩, -⟩ := hfindings
    exact absurd rfl hne
  · rw [textFindings, if_neg hempty] at htext
    rw [← Except.ok.inj (hfindings.symm.trans htext)]
    exact hfound

mutual

theorem subset_of_scanJsonValue (value : Value) (path : String) (depth : Nat)
    {scanned scanned' : Scanned}
    (h : self.scanJsonValue codec value path depth scanned = .ok scanned') :
    scanned.findings ⊆ scanned'.findings := by
  cases value with
  | null =>
    rw [scanJsonValue] at h
    rw [findings_of_enter h]
    exact List.Subset.refl _
  | bool b =>
    rw [scanJsonValue] at h
    rw [findings_of_enter h]
    exact List.Subset.refl _
  | number n =>
    rw [scanJsonValue] at h
    rw [findings_of_enter h]
    exact List.Subset.refl _
  | string text =>
    rw [scanJsonValue, except_bind_eq_ok] at h
    obtain ⟨entered, henter, h⟩ := h
    rw [← findings_of_enter henter]
    exact (findings_of_scanString h).1
  | array items =>
    rw [scanJsonValue, except_bind_eq_ok] at h
    obtain ⟨entered, henter, h⟩ := h
    rw [← findings_of_enter henter]
    exact subset_of_scanItems items 0 path depth h
  | object members =>
    rw [scanJsonValue, except_bind_eq_ok] at h
    obtain ⟨entered, henter, h⟩ := h
    rw [← findings_of_enter henter]
    exact subset_of_scanMembers members path depth h

theorem subset_of_scanItems (items : List Value) (index : Nat) (path : String) (depth : Nat)
    {scanned scanned' : Scanned}
    (h : self.scanItems codec items index path depth scanned = .ok scanned') :
    scanned.findings ⊆ scanned'.findings := by
  cases items with
  | nil =>
    rw [scanItems] at h
    cases h
    exact List.Subset.refl _
  | cons item items =>
    rw [scanItems, except_bind_eq_ok] at h
    obtain ⟨first, hfirst, h⟩ := h
    exact List.Subset.trans (subset_of_scanJsonValue item _ _ hfirst)
      (subset_of_scanItems items _ _ _ h)

theorem subset_of_scanMembers (members : List (String × Value)) (path : String) (depth : Nat)
    {scanned scanned' : Scanned}
    (h : self.scanMembers codec members path depth scanned = .ok scanned') :
    scanned.findings ⊆ scanned'.findings := by
  match members with
  | [] =>
    rw [scanMembers] at h
    cases h
    exact List.Subset.refl _
  | (key, value) :: members =>
    rw [scanMembers] at h
    simp only [except_bind_eq_ok] at h
    obtain ⟨named, hnamed, first, hfirst, h⟩ := h
    exact List.Subset.trans (findings_of_scanKey hnamed).1 (List.Subset.trans
      (subset_of_scanJsonValue value _ _ hfirst) (subset_of_scanMembers members _ _ h))

end

theorem scanMembers_visits {members : List (String × Value)} {key : String} {value : Value}
    (hmember : (key, value) ∈ members)
    (h : self.scanMembers codec members path depth scanned = .ok scanned') :
    (∃ before after, self.scanJsonValue codec value (path ++ "." ++ key) (depth + 1) before =
        .ok after ∧ after.findings ⊆ scanned'.findings) ∧
      (toAsciiLowercase key ∈ secretKeys →
        finding codec .secret (path ++ "." ++ key) (asBytes (codec.toText value)) true ∈
          scanned'.findings) := by
  induction members generalizing scanned with
  | nil => cases hmember
  | cons member members ih =>
    rw [scanMembers] at h
    simp only [except_bind_eq_ok] at h
    obtain ⟨named, hnamed, first, hfirst, h⟩ := h
    obtain rfl | hrest := List.mem_cons.mp hmember
    · have hlater := subset_of_scanMembers members path depth h
      have hwithin := subset_of_scanJsonValue value _ _ hfirst
      refine ⟨⟨named, first, hfirst, hlater⟩, fun hkey => ?_⟩
      exact hlater (hwithin ((findings_of_scanKey hnamed).2 hkey))
    · exact ih hrest h

theorem scanItems_visits {items : List Value} {index i : Nat} {item : Value}
    (hitem : items[i]? = some item)
    (h : self.scanItems codec items index path depth scanned = .ok scanned') :
    ∃ before after, self.scanJsonValue codec item (path ++ "[" ++ toString (index + i) ++ "]")
      (depth + 1) before = .ok after ∧ after.findings ⊆ scanned'.findings := by
  induction items generalizing index i scanned with
  | nil => cases hitem
  | cons first items ih =>
    rw [scanItems, except_bind_eq_ok] at h
    obtain ⟨after, hafter, h⟩ := h
    cases i with
    | zero =>
      obtain rfl := Option.some.inj hitem
      exact ⟨scanned, after, hafter, subset_of_scanItems items _ path depth h⟩
    | succ i =>
      obtain ⟨before, later, hlater, hsubset⟩ := ih hitem h
      rw [Nat.add_right_comm, Nat.add_assoc] at hlater
      exact ⟨before, later, hlater, hsubset⟩

/-- **A scan of a value gets to everything in it**, and keeps what it finds there. -/
theorem scanJson_visits {value child : Value} {findings : List DlpFinding}
    (h : self.scanJson codec value = .ok findings) (hlocated : value.Located path child) :
    ∃ depth before after, self.scanJsonValue codec child path depth before = .ok after ∧
      after.findings ⊆ findings := by
  induction hlocated with
  | root =>
    simp only [scanJson, except_bind_eq_ok, require_eq_ok, Unique.exists_iff] at h
    obtain ⟨-, after, hafter, hfindings⟩ := h
    cases hfindings
    exact ⟨0, ⟨0, []⟩, after, hafter, List.Subset.refl _⟩
  | member hlocated hmember ih =>
    obtain ⟨depth, before, after, hafter, hsubset⟩ := ih
    rw [scanJsonValue, except_bind_eq_ok] at hafter
    obtain ⟨entered, -, hafter⟩ := hafter
    obtain ⟨⟨before', after', hafter', hsubset'⟩, -⟩ := scanMembers_visits hmember hafter
    exact ⟨depth + 1, before', after', hafter', List.Subset.trans hsubset' hsubset⟩
  | item hlocated hitem ih =>
    obtain ⟨depth, before, after, hafter, hsubset⟩ := ih
    rw [scanJsonValue, except_bind_eq_ok] at hafter
    obtain ⟨entered, -, hafter⟩ := hafter
    obtain ⟨before', after', hafter', hsubset'⟩ := scanItems_visits hitem hafter
    rw [Nat.zero_add] at hafter'
    exact ⟨depth + 1, before', after', hafter', List.Subset.trans hsubset' hsubset⟩

theorem scanJson_string {value : Value} {text : String} {findings : List DlpFinding}
    (h : self.scanJson codec value = .ok findings) (hlocated : value.Located path (.string text))
    {found : List DlpFinding} (hfound : self.scanBytes codec (asBytes text) = .ok found) :
    ∀ finding ∈ found, { finding with path } ∈ findings := by
  obtain ⟨depth, before, after, hafter, hsubset⟩ := scanJson_visits h hlocated
  rw [scanJsonValue, except_bind_eq_ok] at hafter
  obtain ⟨entered, -, hafter⟩ := hafter
  exact fun finding hfinding =>
    hsubset ((findings_of_scanString hafter).2 found hfound finding hfinding)

theorem scanJson_key {value child : Value} {members : List (String × Value)} {key : String}
    {findings : List DlpFinding} (h : self.scanJson codec value = .ok findings)
    (hlocated : value.Located path (.object members)) (hmember : (key, child) ∈ members)
    (hkey : toAsciiLowercase key ∈ secretKeys) :
    finding codec .secret (path ++ "." ++ key) (asBytes (codec.toText child)) true ∈ findings := by
  obtain ⟨depth, before, after, hafter, hsubset⟩ := scanJson_visits h hlocated
  rw [scanJsonValue, except_bind_eq_ok] at hafter
  obtain ⟨entered, -, hafter⟩ := hafter
  exact hsubset ((scanMembers_visits hmember hafter).2 hkey)

/-- **Completeness**: a text with up to three layers of base64 is reported if what it holds would
be, and a value for every text and name in it. -/
theorem scan_complete (codec : DlpCodec) (self : DlpScanner) :
    (∀ content innermost text n, Layers engines content innermost n text → n ≤ 3 →
      8 ≤ innermost.length → self.scanText codec (fromUtf8Lossy content) "$" true ≠ [] →
      self.isAvailable = true → text.length ≤ maxInspectionBytes →
        ∃ findings, self.scanBytes codec text = .ok findings ∧
          ∃ found ∈ findings, found.kind = .encodedPayload ∧ found.blocking = true) ∧
    ∀ value findings, self.scanJson codec value = .ok findings → ∀ path,
      (∀ text found, value.Located path (.string text) →
        self.scanBytes codec (asBytes text) = .ok found →
          ∀ finding ∈ found, { finding with path } ∈ findings) ∧
      ∀ members key child, value.Located path (.object members) → (key, child) ∈ members →
        toAsciiLowercase key ∈ secretKeys →
          ∃ found ∈ findings, found.kind = .secret ∧ found.path = path ++ "." ++ key ∧
            found.blocking = true := by
  refine ⟨?_, fun value findings h path => ⟨?_, ?_⟩⟩
  · intro content innermost text n hlayers hn hinnermost hflagged havailable hlength
    obtain ⟨findings, hfindings, hpayload⟩ :=
      scanBytes_payload hlayers hn hinnermost hflagged havailable hlength
    exact ⟨findings, hfindings, _, hpayload, rfl, rfl⟩
  · intro text found hlocated hfound
    exact scanJson_string h hlocated hfound
  · intro members key child hlocated hmember hkey
    exact ⟨_, scanJson_key h hlocated hmember hkey, rfl, rfl, rfl⟩

-- A sample scanner

def sampleDlpCodec : DlpCodec := ⟨fun _ => Vector.replicate 32 0, fun _ => "null"⟩

def sampleScanner : DlpScanner where
  available := true
  patternsValid := true
  secretPatterns := [fun text => containsText text "key"]
  personalPatterns := [fun text => text == "42"]

theorem scanBytes_short {bytes : List UInt8} (havailable : self.isAvailable = true)
    (hsymbols : ∀ byte ∈ bytes, isSymbol byte = true) (hne : bytes ≠ []) (hlength : bytes.length < 8) :
    self.scanBytes codec bytes = .ok (self.scanText codec (fromUtf8Lossy bytes) "$" true) := by
  have hshort : looksBase64 (fromUtf8Lossy bytes) = false := by
    rw [looksBase64, trim_fromUtf8Lossy hsymbols, asBytes_fromUtf8Lossy hsymbols]
    simp [hlength]
  have hnone : self.scanLayers codec bytes [1, 2, 3] bytes = [] := by
    rw [scanLayers]
    simp [hshort]
  simp only [scanBytes, except_bind_eq_ok, require_eq_ok, Unique.exists_iff]
  rw [isCompressed_eq_false hsymbols, trim_fromUtf8Lossy hsymbols, asBytes_fromUtf8Lossy hsymbols,
    hnone]
  refine ⟨havailable, ⟨hne, by rw [maxInspectionBytes]; omega⟩, ?_⟩
  exact congrArg Except.ok (List.append_nil _)

theorem fromUtf8Lossy_key : fromUtf8Lossy [107, 101, 121] = "key" := by decide

theorem not_mentions (value name : String) (h : ¬name.toList <:+: value.toList.map Char.toLower) :
    containsText (toAsciiLowercase value) name = false := by
  rw [Bool.eq_false_iff, ne_eq, containsText_iff, toAsciiLowercase, String.toList_map]
  exact h

theorem scanText_sample {value : String} (hkey : containsText value "key" = false)
    (hnumber : (value == "42") = false)
    (hplc : ¬"plc-password".toList <:+: value.toList.map Char.toLower)
    (hsis : ¬"sis-bypass".toList <:+: value.toList.map Char.toLower) :
    sampleScanner.scanText sampleDlpCodec value "$" true = [] := by
  simp [scanText, sampleScanner, hkey, hnumber, not_mentions value _ hplc, not_mentions value _ hsis]

/-- Three bytes of base64 for a key, and a number for a person: neither is reported. -/
theorem short_layer_and_number_missed :
    Layers engines [107, 101, 121] [97, 50, 86, 53] 1 [97, 50, 86, 53] ∧
    sampleScanner.scanText sampleDlpCodec (fromUtf8Lossy [107, 101, 121]) "$" true ≠ [] ∧
    sampleScanner.isAvailable = true ∧
    sampleScanner.scanBytes sampleDlpCodec [97, 50, 86, 53] = .ok [] ∧
    (∃ found, sampleScanner.scanBytes sampleDlpCodec (asBytes "42") = .ok found ∧ found ≠ []) ∧
    sampleScanner.scanJson sampleDlpCodec (.number ⟨"42"⟩) = .ok [] := by
  have hflagged : sampleScanner.scanText sampleDlpCodec "key" "$" true ≠ [] :=
    scanText_ne_nil_iff.mpr (.inl (by decide))
  have hnumber : sampleScanner.scanText sampleDlpCodec (fromUtf8Lossy (asBytes "42")) "$" true ≠ [] :=
    scanText_ne_nil_iff.mpr (.inr (.inl (by decide)))
  have hengine : (⟨.standard, true⟩ : Engine) ∈ engines := List.mem_cons_self
  refine ⟨.one hengine (by decide), ?_, rfl, ?_, ?_, ?_⟩
  · rw [fromUtf8Lossy_key]
    exact hflagged
  · rw [scanBytes_short rfl (List.all_eq_true.mp rfl) (by decide) (by decide)]
    exact congrArg Except.ok (scanText_sample (by decide) (by decide) (by decide) (by decide))
  · exact ⟨_, scanBytes_short rfl (List.all_eq_true.mp rfl) (by decide) (by decide), hnumber⟩
  · decide

/-- Two layers around a key, and a token in a value. -/
theorem scan_complete_sample :
    (∃ findings, sampleScanner.scanBytes sampleDlpCodec
      (Engine.encode ⟨.urlSafe, false⟩ (Engine.encode ⟨.standard, true⟩ (asBytes "the key"))) =
        .ok findings ∧ ∃ found ∈ findings, found.kind = .encodedPayload ∧ found.blocking = true) ∧
    ∃ findings, sampleScanner.scanJson sampleDlpCodec (.object [("token", .null)]) = .ok findings ∧
      ∃ found ∈ findings, found.kind = .secret ∧ found.path = "$.token" ∧ found.blocking = true := by
  have hinner : (⟨.standard, true⟩ : Engine) ∈ engines := List.mem_cons_self
  have houter : (⟨.urlSafe, false⟩ : Engine) ∈ engines := by simp [engines]
  obtain ⟨hbytes, hjson⟩ := scan_complete sampleDlpCodec sampleScanner
  constructor
  · refine hbytes (asBytes "the key") (Engine.encode ⟨.standard, true⟩ (asBytes "the key")) _ 2
      (.next (.one hinner rfl) houter) (by decide) (by decide) ?_ rfl (by decide)
    exact scanText_ne_nil_iff.mpr (.inl (by decide))
  · have hname : toAsciiLowercase "token" = "token" :=
      String.toList_injective (by rw [toAsciiLowercase, String.toList_map]; decide)
    have hkey : toAsciiLowercase "token" ∈ secretKeys := by
      rw [hname]
      decide
    have hscan : sampleScanner.scanJson sampleDlpCodec (.object [("token", .null)]) =
        .ok [finding sampleDlpCodec .secret "$.token" (asBytes "null") true] := by
      rw [scanJson, scanJsonValue]
      simp only [scanMembers, scanKey, if_pos hkey, scanJsonValue]
      decide
    obtain ⟨-, hkeys⟩ := hjson _ _ hscan "$"
    exact ⟨_, hscan, hkeys _ "token" .null .root List.mem_cons_self hkey⟩

end Values

end DataGovernance

end AgentSphere
