import AgentSphere.ToolProxy.Service
import Mathlib.Data.Finset.Card
import Mathlib.Data.List.Infix
import Mathlib.Data.List.Sort

/-!
# The response filter

What a connector returns is scrubbed before anything is made of it: what stands under a sensitive
name, and every text that contains part of the secret, matches a pattern of known credentials or
looks random. The parts of a secret are the texts in it if it is JSON, and the secret itself unless
it begins like an object or an array.

Numbers are passed over, and a secret that begins like JSON but is none, or has no texts in it, has
no parts.
-/

namespace AgentSphere

mutual

def Value.texts : Value → List String
  | .null => []
  | .bool _ => []
  | .number n => [n.text]
  | .string text => [text]
  | .array items => Value.itemTexts items
  | .object members => Value.memberTexts members

def Value.itemTexts : List Value → List String
  | [] => []
  | item :: items => item.texts ++ Value.itemTexts items

def Value.memberTexts : List (String × Value) → List String
  | [] => []
  | (key, value) :: members => key :: value.texts ++ Value.memberTexts members

end

mutual

def Value.numbers : Value → List Number
  | .null => []
  | .bool _ => []
  | .number n => [n]
  | .string _ => []
  | .array items => Value.itemNumbers items
  | .object members => Value.memberNumbers members

def Value.itemNumbers : List Value → List Number
  | [] => []
  | item :: items => item.numbers ++ Value.itemNumbers items

def Value.memberNumbers : List (String × Value) → List Number
  | [] => []
  | (_, value) :: members => value.numbers ++ Value.memberNumbers members

end

def isExponent : List Char → Bool
  | [] => true
  | e :: sign :: digits =>
    (e == 'e' || e == 'E') &&
      (if sign == '+' || sign == '-' then !digits.isEmpty else sign.isDigit) &&
      digits.all Char.isDigit
  | [_] => false

def isFraction : List Char → Bool
  | '.' :: cs => (cs.head?.any Char.isDigit) && isExponent (cs.dropWhile Char.isDigit)
  | cs => isExponent cs

def isJsonNumber (text : String) : Bool :=
  let cs := if text.toList.head? = some '-' then text.toList.tail else text.toList
  let digits := cs.takeWhile Char.isDigit
  (digits == ['0'] || digits.head?.any (· != '0')) && isFraction (cs.dropWhile Char.isDigit)

def Value.WellFormed (value : Value) : Prop :=
  ∀ n ∈ value.numbers, isJsonNumber n.text = true

namespace ToolProxy

open Concurrency

/-- What the filter takes from other libraries: the regular expression of a pattern, if it is one,
and whether the distribution of some characters has an entropy of at least 4.2. -/
structure FilterCodec where
  fromSlice : ByteArray → Option Value
  regex : String → Option (String → Bool)
  parsesUrl : String → Bool
  entropyReached : List Nat → Nat → Bool

structure ResponseFilter where
  sensitiveKeys : List String
  patterns : List (String → Bool)

def ResponseFilter.default (codec : FilterCodec) : ResponseFilter where
  sensitiveKeys := ["password", "token", "secret", "apikey", "privatekey", "authorization",
    "cookie", "accesstoken", "refreshtoken", "clientsecret", "sessionkey", "credential"]
  patterns := ["(?i)bearer\\s+[a-z0-9._~-]\x7b12,\x7d",
    "eyJ[a-zA-Z0-9_-]\x7b10,\x7d\\.[a-zA-Z0-9_-]\x7b10,\x7d\\.[a-zA-Z0-9_-]\x7b10,\x7d",
    "-----BEGIN [A-Z ]*PRIVATE KEY-----", "AKIA[A-Z0-9]\x7b16\x7d",
    "(?i)(password|client_secret|api[_-]?key)\\s*[=:]\\s*[^\\s,;]\x7b8,\x7d"].filterMap codec.regex

def characterCounts (text : String) : List Nat :=
  (text.toList.dedup.insertionSort (· ≤ ·)).map fun c => text.toList.count c

def looksLikeHighEntropySecret (codec : FilterCodec) (text : String) : Bool :=
  32 ≤ text.utf8ByteSize && text.utf8ByteSize ≤ 4096 && text.toList.all isAsciiGraphic &&
    !codec.parsesUrl text && (Uuid.parseStr text).isNone &&
    !text.toList.all (fun c => c.isDigit || ('a' ≤ c.toLower && c.toLower ≤ 'f')) &&
    12 ≤ (characterCounts text).length &&
    codec.entropyReached (characterCounts text) text.utf8ByteSize

def mentionsInstructions (text : String) : Bool :=
  ["ignore previous instructions", "ignore all previous", "system prompt", "developer message",
    "<system>", "jailbreak"].any (containsText (toAsciiLowercase text))

mutual

def fingerprintsOf : Value → Finset String
  | .object members => memberFingerprints members
  | .array items => itemFingerprints items
  | .string text => if 4 ≤ text.utf8ByteSize ∧ text.utf8ByteSize ≤ 65536 then {text} else ∅
  | .null => ∅
  | .bool _ => ∅
  | .number _ => ∅

def itemFingerprints : List Value → Finset String
  | [] => ∅
  | item :: items => fingerprintsOf item ∪ itemFingerprints items

def memberFingerprints : List (String × Value) → Finset String
  | [] => ∅
  | (_, value) :: members => fingerprintsOf value ∪ memberFingerprints members

end

def collectSecretFingerprints (codec : FilterCodec) (bytes : ByteArray) : Finset String :=
  (match codec.fromSlice bytes with
    | some value => fingerprintsOf value
    | none => ∅) ∪
  match String.fromUTF8? bytes with
  | some text =>
    if 4 ≤ text.utf8ByteSize ∧ text.utf8ByteSize ≤ 65536 ∧ text.toList.head? ≠ some '\x7b' ∧
      text.toList.head? ≠ some '[' then {text} else ∅
  | none => ∅

namespace ResponseFilter

variable (codec : FilterCodec) (filter : ResponseFilter) (fingerprints : Finset String)

def Detected (text : String) : Prop :=
  (∃ fingerprint ∈ fingerprints, containsText text fingerprint = true) ∨
    filter.patterns.any (· text) = true ∨ looksLikeHighEntropySecret codec text = true

instance (text : String) : Decidable (Detected codec filter fingerprints text) :=
  inferInstanceAs (Decidable (_ ∨ _ ∨ _))

def isSensitive (key : String) : Bool :=
  let normalizedKey := String.ofList ((key.toList.filter Char.isAlphanum).map Char.toLower)
  filter.sensitiveKeys.contains normalizedKey || normalizedKey.endsWith "password" ||
    normalizedKey.endsWith "token" || normalizedKey.endsWith "secret" ||
    normalizedKey.endsWith "privatekey"

def redactedText : String := "[REDACTED]"

/-- What a walk makes of a value: the paths it has redacted, and whether anything sounds like
instructions. -/
structure Walked (α : Type) where
  value : α
  redacted : List String
  untrusted : Bool

mutual

def walk : Value → String → Walked Value
  | .object members, path =>
    if members.any (fun member => decide (Detected codec filter fingerprints member.1)) then
      ⟨.string redactedText, [path], false⟩
    else
      let rest := walkMembers members path
      ⟨.object rest.value, rest.redacted,
        members.any (fun member => mentionsInstructions member.1) || rest.untrusted⟩
  | .array items, path =>
    let rest := walkItems items path 0
    ⟨.array rest.value, rest.redacted, rest.untrusted⟩
  | .string text, path =>
    if Detected codec filter fingerprints text then
      ⟨.string redactedText, [path], mentionsInstructions text⟩
    else ⟨.string text, [], mentionsInstructions text⟩
  | .null, _ => ⟨.null, [], false⟩
  | .bool b, _ => ⟨.bool b, [], false⟩
  | .number n, _ => ⟨.number n, [], false⟩

def walkItems : List Value → String → Nat → Walked (List Value)
  | [], _, _ => ⟨[], [], false⟩
  | item :: items, path, index =>
    let first := walk item (path ++ "[" ++ toString index ++ "]")
    let rest := walkItems items path (index + 1)
    ⟨first.value :: rest.value, first.redacted ++ rest.redacted, first.untrusted || rest.untrusted⟩

def walkMembers : List (String × Value) → String → Walked (List (String × Value))
  | [], _ => ⟨[], [], false⟩
  | (key, child) :: members, path =>
    let childPath := path ++ "." ++ key
    let first := if isSensitive filter key then ⟨.string redactedText, [childPath], false⟩
      else walk child childPath
    let rest := walkMembers members path
    ⟨(key, first.value) :: rest.value, first.redacted ++ rest.redacted,
      first.untrusted || rest.untrusted⟩

end

def collectAll : List ByteArray → Finset String → Except ProxyError (Finset String)
  | [], fingerprints => .ok fingerprints
  | bytes :: secrets, fingerprints => do
    let fingerprints := fingerprints ∪ collectSecretFingerprints codec bytes
    require (fingerprints.card ≤ 256) .outputInvalid
    collectAll secrets fingerprints

def apply (value : Value) (secretFingerprints : List ByteArray) :
    Except ProxyError (Value × List String × Bool) := do
  let fingerprints ← collectAll codec secretFingerprints ∅
  let walked := walk codec filter fingerprints value "$"
  require (walked.redacted.length ≤ maxProxyRedactions ∧
    ∀ path ∈ walked.redacted, path.utf8ByteSize ≤ 2048 ∧ path.toList.any isControl = false)
    .outputInvalid
  return (walked.value, walked.redacted, walked.untrusted)

-- What is left

def Left (numbers : List Number) (text : String) : Prop :=
  text = redactedText ∨ (∃ n ∈ numbers, text = n.text) ∨
    ¬Detected codec filter fingerprints text

variable {codec filter fingerprints}

theorem Left.mono {numbers numbers' : List Number} {text : String}
    (h : Left codec filter fingerprints numbers text) (hsub : numbers ⊆ numbers') :
    Left codec filter fingerprints numbers' text := by
  obtain hredacted | ⟨n, hn, htext⟩ | hundetected := h
  · exact .inl hredacted
  · exact .inr (.inl ⟨n, hsub hn, htext⟩)
  · exact .inr (.inr hundetected)

mutual

/-- **Walk**: what is left is the mark of a redaction, a number, or not detected. -/
theorem texts_of_walk (value : Value) (path : String) :
    ∀ text ∈ (walk codec filter fingerprints value path).value.texts,
      Left codec filter fingerprints value.numbers text := by
  intro text htext
  cases value with
  | null => simp [walk, Value.texts] at htext
  | bool b => simp [walk, Value.texts] at htext
  | number n =>
    rw [walk, Value.texts, List.mem_singleton] at htext
    exact .inr (.inl ⟨n, List.mem_cons_self, htext⟩)
  | string original =>
    rw [walk] at htext
    split at htext
    · exact .inl (List.mem_singleton.mp htext)
    · rename_i hundetected
      obtain rfl := List.mem_singleton.mp htext
      exact .inr (.inr hundetected)
  | array items =>
    rw [walk] at htext
    exact texts_of_walkItems items path 0 text htext
  | object members =>
    rw [walk] at htext
    split at htext
    · exact .inl (List.mem_singleton.mp htext)
    · rename_i hkeys
      have hundetected : ∀ member ∈ members, ¬Detected codec filter fingerprints member.1 := by
        simpa using hkeys
      exact texts_of_walkMembers members path hundetected text htext

theorem texts_of_walkItems (items : List Value) (path : String) (index : Nat) :
    ∀ text ∈ Value.itemTexts (walkItems codec filter fingerprints items path index).value,
      Left codec filter fingerprints (Value.itemNumbers items) text := by
  intro text htext
  cases items with
  | nil => simp [walkItems, Value.itemTexts] at htext
  | cons item items =>
    rw [walkItems, Value.itemTexts] at htext
    rw [Value.itemNumbers]
    obtain hfirst | hrest := List.mem_append.mp htext
    · exact (texts_of_walk item _ text hfirst).mono (List.subset_append_left _ _)
    · exact (texts_of_walkItems items path (index + 1) text hrest).mono
        (List.subset_append_right _ _)

theorem texts_of_walkMembers (members : List (String × Value)) (path : String)
    (hundetected : ∀ member ∈ members, ¬Detected codec filter fingerprints member.1) :
    ∀ text ∈ Value.memberTexts (walkMembers codec filter fingerprints members path).value,
      Left codec filter fingerprints (Value.memberNumbers members) text := by
  intro text htext
  cases members with
  | nil => simp [walkMembers, Value.memberTexts] at htext
  | cons member members =>
    obtain ⟨key, child⟩ := member
    rw [walkMembers, Value.memberTexts] at htext
    rw [Value.memberNumbers]
    obtain hkey | hrest := List.mem_cons.mp htext
    · subst hkey
      exact .inr (.inr (hundetected _ List.mem_cons_self))
    · obtain hfirst | hrest := List.mem_append.mp hrest
      · split at hfirst
        · exact .inl (List.mem_singleton.mp hfirst)
        · exact (texts_of_walk child _ text hfirst).mono (List.subset_append_left _ _)
      · exact (texts_of_walkMembers members path (fun other hother =>
          hundetected other (List.mem_cons_of_mem _ hother)) text hrest).mono
            (List.subset_append_right _ _)

end

def sampleFilterCodec : FilterCodec where
  fromSlice bytes :=
    if bytes.data = "12345678".toByteArray.data then some (.number ⟨"12345678"⟩) else none
  regex _ := some fun _ => false
  parsesUrl _ := false
  entropyReached _ _ := false

end ResponseFilter

end ToolProxy

end AgentSphere
