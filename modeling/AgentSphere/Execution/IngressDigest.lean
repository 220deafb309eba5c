import AgentSphere.Lib.Utf8
import AgentSphere.Execution.Validation

/-!
# The digest of an ingress envelope

The orchestrator, which is written in Python, hashes the envelope it admits and keeps the digest
with the workflow; the execution service, which is written in Rust, reads the envelope back from
PostgreSQL and hashes it again. Each side has its own JSON writer: Python sorts keys by code point
and escapes characters, `serde_json` iterates a map in the byte order of its keys and escapes
bytes. The bytes are the same.
-/

namespace AgentSphere

-- Member order

/-- One value is the other with the members of its objects in another order. Within one object the
keys are distinct. -/
inductive Value.Reordered : Value → Value → Prop
  | refl (v : Value) : Reordered v v
  | trans {u v w : Value} : Reordered u v → Reordered v w → Reordered u w
  | members {ms ms' : List (String × Value)} (hperm : ms.Perm ms')
      (hkeys : (ms.map Prod.fst).Nodup) : Reordered (.object ms) (.object ms')
  | item (before after : List Value) {v w : Value} (h : Reordered v w) :
      Reordered (.array (before ++ v :: after)) (.array (before ++ w :: after))
  | member (before after : List (String × Value)) (key : String) {v w : Value}
      (h : Reordered v w) :
      Reordered (.object (before ++ (key, v) :: after)) (.object (before ++ (key, w) :: after))

theorem insertionSort_eq_of_perm {α : Type} {ms ms' : List (String × α)} (hperm : ms.Perm ms')
    (hkeys : (ms.map Prod.fst).Nodup) :
    ms.insertionSort (fun a b => a.1 ≤ b.1) = ms'.insertionSort (fun a b => a.1 ≤ b.1) := by
  have hsorted : ∀ l : List (String × α), (l.insertionSort fun a b => a.1 ≤ b.1).map Prod.fst =
      (l.map Prod.fst).insertionSort (· ≤ ·) := fun l =>
    List.map_insertionSort _ _ Prod.fst l fun _ _ _ _ => Iff.rfl
  have hsort : (ms.insertionSort fun a b => a.1 ≤ b.1).Perm ms := List.perm_insertionSort _ _
  refine eq_of_perm_of_keys (hsort.trans (hperm.trans (List.perm_insertionSort _ _).symm)) ?_ ?_
  · rw [hsorted, hsorted]
    refine List.Perm.eq_of_pairwise' (List.pairwise_insertionSort _ _)
      (List.pairwise_insertionSort _ _) ?_
    exact (List.perm_insertionSort _ _).trans
      ((hperm.map Prod.fst).trans (List.perm_insertionSort _ _).symm)
  · exact (hsort.map Prod.fst).nodup_iff.mpr hkeys

theorem Value.Reordered.ordered_eq {v w : Value} (h : v.Reordered w) : v.ordered = w.ordered := by
  induction h with
  | refl v => rfl
  | trans _ _ ih₁ ih₂ => exact ih₁.trans ih₂
  | members hperm hkeys =>
    rw [ordered, ordered, orderedMembers_eq, orderedMembers_eq]
    refine congrArg object (insertionSort_eq_of_perm (hperm.map _) ?_)
    rwa [List.map_map]
  | item before after _ ih =>
    rw [ordered, ordered, orderedItems_eq, orderedItems_eq, List.map_append, List.map_append,
      List.map_cons, List.map_cons, ih]
  | member before after key _ ih =>
    rw [ordered, ordered, orderedMembers_eq, orderedMembers_eq, List.map_append, List.map_append,
      List.map_cons, List.map_cons, ih]

namespace Execution

-- The Rust writer

def ascii (text : String) : List UInt8 := Utf8.encode text.toList

/-- `HEX_DIGITS`. -/
def hexDigitByte (n : UInt8) : UInt8 := if n < 10 then 0x30 + n else 0x57 + n

/-- `ESCAPE` and `write_char_escape`: what is written for one byte of a string. -/
def escapeByte (b : UInt8) : List UInt8 :=
  if b = 0x22 then ascii "\\\""
  else if b = 0x5c then ascii "\\\\"
  else if b = 0x08 then ascii "\\b"
  else if b = 0x0c then ascii "\\f"
  else if b = 0x0a then ascii "\\n"
  else if b = 0x0d then ascii "\\r"
  else if b = 0x09 then ascii "\\t"
  else if b < 0x20 then ascii "\\u00" ++ [hexDigitByte (b / 16), hexDigitByte (b % 16)]
  else [b]

def formatEscapedStr (s : String) : List UInt8 :=
  ascii "\"" ++ (Utf8.encode s.toList).flatMap escapeByte ++ ascii "\""

mutual

/-- `serde_json::to_vec` of a value, with the compact formatter. A number is its own text. -/
def toVec : Value → List UInt8
  | .null => ascii "null"
  | .bool b => if b then ascii "true" else ascii "false"
  | .number n => ascii n.text
  | .string s => formatEscapedStr s
  | .array items => ascii "[" ++ itemsToVec true items ++ ascii "]"
  | .object members => ascii "\x7b" ++ membersToVec true members ++ ascii "\x7d"

def itemsToVec : Bool → List Value → List UInt8
  | _, [] => []
  | first, item :: items =>
    (if first then [] else ascii ",") ++ toVec item ++ itemsToVec false items

def membersToVec : Bool → List (String × Value) → List UInt8
  | _, [] => []
  | first, (key, value) :: members =>
    (if first then [] else ascii ",") ++ formatEscapedStr key ++ ascii ":" ++ toVec value ++
      membersToVec false members

end

mutual

/-- `sort`: every object is collected into a map again, and a map iterates in the order of its keys,
which compare as the bytes of their texts. -/
def sort : Value → Value
  | .object members => .object ((sortMembers members).insertionSort fun a b =>
      Utf8.encode a.1.toList ≤ Utf8.encode b.1.toList)
  | .array items => .array (sortItems items)
  | .null => .null
  | .bool b => .bool b
  | .number n => .number n
  | .string s => .string s

def sortItems : List Value → List Value
  | [] => []
  | item :: items => sort item :: sortItems items

def sortMembers : List (String × Value) → List (String × Value)
  | [] => []
  | (key, value) :: members => (key, sort value) :: sortMembers members

end

/-- `python_compact_sorted_json_bytes`. Writing a value to memory does not fail. -/
def pythonCompactSortedJsonBytes (value : Value) : List UInt8 := toVec (sort value)

/-- The digest check of `materialize`. -/
def checkIngressDigest (sha256Hex : List UInt8 → String) (envelope : Value)
    (ingressDigest : String) : Except ExecutionError Unit :=
  if sha256Hex (pythonCompactSortedJsonBytes envelope) ≠ ingressDigest then
    .error .materializationInvalid
  else .ok ()

-- The Python writer

/-- The values `json.dumps` writes, without floats. The keys of a dictionary are distinct. -/
inductive PyValue where
  | none
  | bool (b : Bool)
  | int (n : Int)
  | str (s : String)
  | list (items : List PyValue)
  | dict (entries : List (String × PyValue))

namespace PyValue

/-- A digit of `'{0:04x}'`. -/
def hexDigitChar (n : Nat) : Char := if n < 10 then Char.ofNat (48 + n) else Char.ofNat (87 + n)

/-- `ESCAPE` and `ESCAPE_DCT`: what is written for one character of a string. -/
def escapeChar (c : Char) : List Char :=
  if c = '\\' then ['\\', '\\']
  else if c = '"' then ['\\', '"']
  else if c = '\x08' then ['\\', 'b']
  else if c = '\x0c' then ['\\', 'f']
  else if c = '\n' then ['\\', 'n']
  else if c = '\r' then ['\\', 'r']
  else if c = '\t' then ['\\', 't']
  else if c.toNat < 0x20 then
    ['\\', 'u', '0', '0', hexDigitChar (c.toNat / 16), hexDigitChar (c.toNat % 16)]
  else [c]

/-- `encode_basestring`, the encoder under `ensure_ascii=False`. -/
def encodeBasestring (s : String) : List Char := '"' :: s.toList.flatMap escapeChar ++ ['"']

def writeEntries : Bool → List (String × List Char) → List Char
  | _, [] => []
  | first, (key, text) :: entries =>
    (if first then [] else [',']) ++ encodeBasestring key ++ ':' :: text ++
      writeEntries false entries

mutual

/-- `json.dumps(value, sort_keys=True, separators=(",", ":"), ensure_ascii=False)`. The text of an
entry does not depend on where it stands, so that entries are written first and sorted then. -/
def dumps : PyValue → List Char
  | .none => "null".toList
  | .bool b => if b then "true".toList else "false".toList
  | .int n => (toString n).toList
  | .str s => encodeBasestring s
  | .list items => '[' :: writeItems true items ++ [']']
  | .dict entries =>
    '{' :: writeEntries true ((entryTexts entries).insertionSort fun a b => a.1 ≤ b.1) ++ ['}']

def writeItems : Bool → List PyValue → List Char
  | _, [] => []
  | first, item :: items => (if first then [] else [',']) ++ dumps item ++ writeItems false items

def entryTexts : List (String × PyValue) → List (String × List Char)
  | [] => []
  | (key, value) :: entries => (key, dumps value) :: entryTexts entries

end

/-- `canonical`, the bytes `submit` hashes. -/
def canonical (envelope : PyValue) : List UInt8 := Utf8.encode envelope.dumps

/-- The `ingress_digest` that `submit` puts into the initial state of the workflow. -/
def ingressDigest (sha256Hex : List UInt8 → String) (envelope : PyValue) : String :=
  sha256Hex envelope.canonical

mutual

/-- The value as `serde_json` holds it. -/
def toJson : PyValue → Value
  | .none => .null
  | .bool b => .bool b
  | .int n => .number ⟨toString n⟩
  | .str s => .string s
  | .list items => .array (itemsToJson items)
  | .dict entries => .object (entriesToJson entries)

def itemsToJson : List PyValue → List Value
  | [] => []
  | item :: items => toJson item :: itemsToJson items

def entriesToJson : List (String × PyValue) → List (String × Value)
  | [] => []
  | (key, value) :: entries => (key, toJson value) :: entriesToJson entries

end

end PyValue

-- Key order

theorem encode_toList_le_iff {a b : String} :
    Utf8.encode a.toList ≤ Utf8.encode b.toList ↔ a ≤ b := by
  rw [← not_lt (a := b), String.lt_iff_toList_lt, ← Utf8.encode_lt_iff]
  exact Iff.rfl

theorem insertionSort_encode (members : List (String × Value)) :
    members.insertionSort (fun a b => Utf8.encode a.1.toList ≤ Utf8.encode b.1.toList) =
      members.insertionSort fun a b => a.1 ≤ b.1 := by
  have hsort := List.map_insertionSort
    (fun a b : String × Value => Utf8.encode a.1.toList ≤ Utf8.encode b.1.toList)
    (fun a b : String × Value => a.1 ≤ b.1) id members fun _ _ _ _ => encode_toList_le_iff
  rwa [List.map_id, List.map_id] at hsort

mutual

theorem sort_eq_ordered : (value : Value) → sort value = value.ordered
  | .null | .bool _ | .number _ | .string _ => rfl
  | .array items => congrArg Value.array (sortItems_eq_orderedItems items)
  | .object members => by
    rw [sort, insertionSort_encode, sortMembers_eq_orderedMembers members, Value.ordered]

theorem sortItems_eq_orderedItems :
    (items : List Value) → sortItems items = Value.orderedItems items
  | [] => rfl
  | item :: items =>
    congrArg₂ List.cons (sort_eq_ordered item) (sortItems_eq_orderedItems items)

theorem sortMembers_eq_orderedMembers :
    (members : List (String × Value)) → sortMembers members = Value.orderedMembers members
  | [] => rfl
  | (key, value) :: members =>
    congrArg₂ List.cons (congrArg (Prod.mk key) (sort_eq_ordered value))
      (sortMembers_eq_orderedMembers members)

end

theorem pythonCompactSortedJsonBytes_of_reordered {v w : Value} (h : v.Reordered w) :
    pythonCompactSortedJsonBytes v = pythonCompactSortedJsonBytes w := by
  rw [pythonCompactSortedJsonBytes, pythonCompactSortedJsonBytes, sort_eq_ordered, sort_eq_ordered,
    h.ordered_eq]

-- The two writers

open PyValue

theorem escapeByte_ascii :
    ∀ n : Fin 128, escapeByte (UInt8.ofNat n) = Utf8.encode (escapeChar (Char.ofNat n)) := by
  decide

theorem escapeByte_of_le {b : UInt8} (h : 0x80 ≤ b) : escapeByte b = [b] := by
  have hne : ∀ n : UInt8, n < 0x80 → b ≠ n := fun n hn heq =>
    UInt8.lt_irrefl _ (UInt8.lt_of_lt_of_le (heq ▸ hn) h)
  have hge : ¬b < 0x20 := fun hlt =>
    UInt8.lt_irrefl _ (UInt8.lt_of_lt_of_le (UInt8.lt_trans hlt (by decide)) h)
  rw [escapeByte, if_neg (hne _ (by decide)), if_neg (hne _ (by decide)),
    if_neg (hne _ (by decide)), if_neg (hne _ (by decide)), if_neg (hne _ (by decide)),
    if_neg (hne _ (by decide)), if_neg (hne _ (by decide)), if_neg hge]

theorem escapeChar_of_le {c : Char} (h : 0x80 ≤ c.toNat) : escapeChar c = [c] := by
  have hne : ∀ d : Char, d.toNat < 0x80 → c ≠ d := fun d hd heq =>
    Nat.lt_irrefl _ (Nat.lt_of_lt_of_le (heq ▸ hd) h)
  have hge : ¬c.toNat < 0x20 := by omega
  rw [escapeChar, if_neg (hne _ (by decide)), if_neg (hne _ (by decide)),
    if_neg (hne _ (by decide)), if_neg (hne _ (by decide)), if_neg (hne _ (by decide)),
    if_neg (hne _ (by decide)), if_neg (hne _ (by decide)), if_neg hge]

/-- **Strings are written alike.** -/
theorem formatEscapedStr_eq (s : String) :
    formatEscapedStr s = Utf8.encode (encodeBasestring s) := by
  have hbody : (Utf8.encode s.toList).flatMap escapeByte =
      Utf8.encode (s.toList.flatMap escapeChar) := by
    refine Utf8.flatMap_encode (fun c hc => ?_) (fun b => escapeByte_of_le)
      (fun c => escapeChar_of_le) s.toList
    have hascii := escapeByte_ascii ⟨c.toNat, hc⟩
    rwa [Char.ofNat_toNat] at hascii
  rw [formatEscapedStr, hbody, encodeBasestring]
  simp only [ascii, Utf8.encode_append, Utf8.encode_cons, List.append_assoc]
  rfl

theorem membersToVec_eq {first : Bool} {members : List (String × Value)}
    {entries : List (String × List Char)}
    (h : members.map (fun member => (member.1, toVec member.2)) =
      entries.map fun entry => (entry.1, Utf8.encode entry.2)) :
    membersToVec first members = Utf8.encode (writeEntries first entries) := by
  induction members generalizing first entries with
  | nil =>
    cases entries with
    | nil => rfl
    | cons entry entries => cases h
  | cons member members ih =>
    cases entries with
    | nil => cases h
    | cons entry entries =>
      obtain ⟨key, value⟩ := member
      obtain ⟨key', text⟩ := entry
      obtain ⟨hhead, htail⟩ := List.cons.inj h
      obtain ⟨rfl, hvalue⟩ := Prod.mk.inj hhead
      have hvalue : toVec value = Utf8.encode text := hvalue
      rw [membersToVec, writeEntries, ih htail, hvalue, formatEscapedStr_eq]
      cases first <;> simp [ascii, List.append_assoc]

theorem membersToVec_insertionSort (first : Bool) {members : List (String × Value)}
    {entries : List (String × List Char)}
    (h : members.map (fun member => (member.1, toVec member.2)) =
      entries.map fun entry => (entry.1, Utf8.encode entry.2)) :
    membersToVec first (members.insertionSort fun a b => a.1 ≤ b.1) =
      Utf8.encode (writeEntries first (entries.insertionSort fun a b => a.1 ≤ b.1)) := by
  refine membersToVec_eq ?_
  rw [List.map_insertionSort _ (fun a b : String × List UInt8 => a.1 ≤ b.1) _ members
      fun _ _ _ _ => Iff.rfl,
    List.map_insertionSort _ (fun a b : String × List UInt8 => a.1 ≤ b.1) _ entries
      fun _ _ _ _ => Iff.rfl, h]

mutual

/-- **A value is written alike.** -/
theorem toVec_sort_toJson : (value : PyValue) → toVec (sort value.toJson) = value.canonical
  | .none => rfl
  | .bool b => by cases b <;> rfl
  | .int n => rfl
  | .str s => formatEscapedStr_eq s
  | .list items => by
    rw [toJson, sort, toVec, itemsToVec_sortItems true items, canonical, dumps]
    simp [ascii]
  | .dict entries => by
    have hmembers := membersToVec_insertionSort true (map_sortMembers entries)
    rw [toJson, sort, insertionSort_encode, toVec, canonical, dumps, hmembers]
    simp [ascii]

theorem itemsToVec_sortItems : (first : Bool) → (items : List PyValue) →
    itemsToVec first (sortItems (itemsToJson items)) = Utf8.encode (writeItems first items)
  | _, [] => rfl
  | first, item :: items => by
    rw [itemsToJson, sortItems, itemsToVec, toVec_sort_toJson item,
      itemsToVec_sortItems false items, writeItems, canonical]
    cases first <;> simp [ascii]

theorem map_sortMembers : (entries : List (String × PyValue)) →
    (sortMembers (entriesToJson entries)).map (fun member => (member.1, toVec member.2)) =
      (entryTexts entries).map fun entry => (entry.1, Utf8.encode entry.2)
  | [] => rfl
  | (key, value) :: entries => by
    rw [entriesToJson, sortMembers, List.map_cons, toVec_sort_toJson value,
      map_sortMembers entries, entryTexts, List.map_cons, canonical]

end

/-- **The digest the orchestrator computed is the one the execution service computes**, in
whatever order the members of the envelope were stored. -/
theorem materialize_accepts_submitted_digest (sha256Hex : List UInt8 → String)
    (envelope : PyValue) (stored : Value) (h : envelope.toJson.Reordered stored) :
    pythonCompactSortedJsonBytes stored = envelope.canonical ∧
      checkIngressDigest sha256Hex stored (envelope.ingressDigest sha256Hex) = .ok () := by
  have hbytes : pythonCompactSortedJsonBytes stored = envelope.canonical := by
    rw [← pythonCompactSortedJsonBytes_of_reordered h]
    exact toVec_sort_toJson envelope
  refine ⟨hbytes, ?_⟩
  rw [checkIngressDigest, hbytes, ingressDigest]
  exact if_neg (not_not.mpr rfl)

/-- An envelope with a key beyond ASCII and a control character, stored with its members the other
way round. -/
def sampleEnvelope : PyValue :=
  .dict [("中文", .str "值\u0001"), ("a", .dict [("z", .int 2), ("b", .int (-1))])]

def sampleStored : Value :=
  .object [("a", .object [("b", .number ⟨"-1"⟩), ("z", .number ⟨"2"⟩)]),
    ("中文", .string "值\u0001")]

theorem sampleStored_reordered : sampleEnvelope.toJson.Reordered sampleStored := by
  refine .trans (.members (List.Perm.swap _ _ []) (by decide)) ?_
  exact .member [] [("中文", .string "值\u0001")] "a"
    (.members (List.Perm.swap _ _ []) (by decide))

def sampleSha256Hex (_ : List UInt8) : String :=
  "41d5d88d32e08d69b596498d582a22189651820b5a60a8f81c3b6723314952ca"

theorem materialize_accepts_sampleEnvelope :
    pythonCompactSortedJsonBytes sampleStored = sampleEnvelope.canonical ∧
      checkIngressDigest sampleSha256Hex sampleStored
        (sampleEnvelope.ingressDigest sampleSha256Hex) = .ok () :=
  materialize_accepts_submitted_digest _ sampleEnvelope sampleStored sampleStored_reordered

example : sampleEnvelope.dumps =
    "\x7b\"a\":\x7b\"b\":-1,\"z\":2\x7d,\"中文\":\"值\\u0001\"\x7d".toList := by
  decide

end Execution

end AgentSphere
