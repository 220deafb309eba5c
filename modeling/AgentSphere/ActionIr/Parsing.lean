import AgentSphere.Contracts.StrictJson

/-!
# Reading of bodies

`parse_strict_json` of the action crate, which the services share, and the function of the same
name in the enforcement point. They bound depth, arrays, objects and strings in the same way and
differ in their errors, in the order of the checks of a key, and in the limit on the body, which
only the first one has.

`ParseLimits` also names a limit on the length of numbers. It is read nowhere. Numbers that are no
integers of 64 bits, moreover, come out as objects.
-/

namespace AgentSphere

open Concurrency

structure JsonText where
  bytes : Nat
  utf8 : Bool
  root : JsonTree
  trailing : Bool

def JsonText.WellFormed (limits : StrictJsonLimits) (text : JsonText) : Prop :=
  text.utf8 = true ∧ text.trailing = false ∧ ∀ node ∈ text.root.nodes 0, NodeOk limits node

namespace ActionIr

structure ParseLimits where
  maxBodyBytes : Nat := 1048576
  maxDepth : Nat := 32
  maxArrayItems : Nat := 1024
  maxStringBytes : Nat := 65536
  maxObjectKeys : Nat := 256
  maxNumberChars : Nat := 128

def ParseLimits.strict (limits : ParseLimits) : StrictJsonLimits where
  maximumDepth := limits.maxDepth
  maximumArrayItems := limits.maxArrayItems
  maximumObjectKeys := limits.maxObjectKeys
  maximumStringBytes := limits.maxStringBytes

/-- The errors of `ActionIrError` that reading fails with. -/
inductive ParseError where
  | parseFailed (fieldPath reasonCode : String)
  | duplicateKey (fieldPath : String)
  | sizeLimitExceeded (fieldPath reasonCode : String)
  deriving DecidableEq, Repr

/-- The errors of the visitor, and those of `serde_json`. -/
inductive VisitError where
  | duplicateKey (key : String)
  | sizeLimitExceeded (what : String)
  | malformed

def mapParseError : VisitError → ParseError
  | .duplicateKey _ => .duplicateKey "$"
  | .sizeLimitExceeded _ => .sizeLimitExceeded "$" "json_limit"
  | .malformed => .parseFailed "$" "malformed_json"

def ParseLimits.checks (limits : ParseLimits) : Checks VisitError where
  limits := limits.strict
  depthError := .sizeLimitExceeded "depth"
  arrayError := .sizeLimitExceeded "array"
  stringError := .sizeLimitExceeded "string"
  malformed := .malformed
  checkKey values key := do
    require (key.utf8ByteSize ≤ limits.maxStringBytes) (.sizeLimitExceeded "key")
    require (key ∉ values.map Prod.fst) (.duplicateKey key)
    require (values.length < limits.maxObjectKeys) (.sizeLimitExceeded "object")

def parseStrictJson (limits : ParseLimits) (text : JsonText) : Except ParseError Value := do
  require (text.bytes ≤ limits.maxBodyBytes) (.sizeLimitExceeded "$" "body")
  require (text.utf8 = true) (.parseFailed "$" "invalid_utf8")
  let value ← (visit limits.checks text.root 0).mapError mapParseError
  require (text.trailing = false) (mapParseError .malformed)
  pure value

end ActionIr

namespace PolicyPep

inductive ConfigurationError where
  | configurationInvalid
  deriving DecidableEq, Repr

def configurationChecks (limits : StrictJsonLimits) : Checks ConfigurationError where
  limits := limits
  depthError := .configurationInvalid
  arrayError := .configurationInvalid
  stringError := .configurationInvalid
  malformed := .configurationInvalid
  checkKey values key :=
    if key.utf8ByteSize > limits.maximumStringBytes ∨ values.length ≥ limits.maximumObjectKeys ∨
        key ∈ values.map Prod.fst then
      .error .configurationInvalid
    else .ok ()

/-- `serde_json::Deserializer::from_slice` looks for bytes that are no UTF-8 only where it meets
them; there, too, they are an error. -/
def parseStrictJson (limits : StrictJsonLimits) (text : JsonText) :
    Except ConfigurationError Value := do
  let value ← visit (configurationChecks limits) text.root 0
  require (text.utf8 = true) .configurationInvalid
  require (text.trailing = false) .configurationInvalid
  pure value

end PolicyPep

-- What is accepted

theorem nodesOk_iff {limits : StrictJsonLimits} {nodes : List (Nat × JsonTree)} :
    NodesOk limits nodes ↔
      (∀ node ∈ nodes, NodeOk limits node) ∧ ∀ node ∈ nodes, NumberFits limits node := by
  rw [NodesOk, forall₂_and]

namespace ActionIr

theorem ParseLimits.keyed (limits : ParseLimits) : limits.checks.Keyed := by
  intro values key
  simp only [ParseLimits.checks, ParseLimits.strict, except_bind_eq_ok, require_eq_ok,
    exists_const]
  tauto

/-- A body is accepted exactly if it is well formed, not too long, and its numbers beyond 64 bits
fit as objects. -/
theorem parseStrictJson_eq_ok {limits : ParseLimits} {text : JsonText} {v : Value} :
    parseStrictJson limits text = .ok v ↔
      (text.bytes ≤ limits.maxBodyBytes ∧ text.WellFormed limits.strict) ∧
        (∀ node ∈ text.root.nodes 0, NumberFits limits.strict node) ∧ text.root.taken = v := by
  simp only [parseStrictJson, except_bind_eq_ok, require_eq_ok, except_mapError_eq_ok, pure_eq_ok,
    visit_eq_ok limits.keyed, nodesOk_iff, JsonText.WellFormed]
  constructor
  · rintro ⟨_, hbytes, _, hutf8, value, ⟨⟨hok, hfits⟩, rfl⟩, _, htrailing, rfl⟩
    exact ⟨⟨hbytes, hutf8, htrailing, hok⟩, hfits, rfl⟩
  · rintro ⟨⟨hbytes, hutf8, htrailing, hok⟩, hfits, rfl⟩
    exact ⟨(), hbytes, (), hutf8, _, ⟨⟨hok, hfits⟩, rfl⟩, (), htrailing, rfl⟩

end ActionIr

namespace PolicyPep

theorem configurationChecks_keyed (limits : StrictJsonLimits) :
    (configurationChecks limits).Keyed := by
  intro values key
  simp only [configurationChecks]
  split_ifs with hbad
  · constructor
    · intro hok
      cases hok
    · rintro ⟨hsize, hroom, hnew⟩
      rcases hbad with hlong | hfull | hmem
      · exact absurd hsize (Nat.not_le.mpr hlong)
      · exact absurd hroom (Nat.not_lt.mpr hfull)
      · exact absurd hmem hnew
  · push Not at hbad
    exact ⟨fun _ => hbad, fun _ => rfl⟩

theorem parseStrictJson_eq_ok {limits : StrictJsonLimits} {text : JsonText} {v : Value} :
    parseStrictJson limits text = .ok v ↔
      text.WellFormed limits ∧ (∀ node ∈ text.root.nodes 0, NumberFits limits node) ∧
        text.root.taken = v := by
  simp only [parseStrictJson, except_bind_eq_ok, require_eq_ok, pure_eq_ok,
    visit_eq_ok (configurationChecks_keyed limits), nodesOk_iff, JsonText.WellFormed]
  constructor
  · rintro ⟨value, ⟨⟨hok, hfits⟩, rfl⟩, _, hutf8, _, htrailing, rfl⟩
    exact ⟨⟨hutf8, htrailing, hok⟩, hfits, rfl⟩
  · rintro ⟨⟨hutf8, htrailing, hok⟩, hfits, rfl⟩
    exact ⟨_, ⟨⟨hok, hfits⟩, rfl⟩, (), hutf8, (), htrailing, rfl⟩

end PolicyPep

namespace ActionIr

def NodeShort (maxNumberChars : Nat) : Nat × JsonTree → Prop
  | (_, .number token) => token.length ≤ maxNumberChars
  | _ => True

def WithinLimits (limits : ParseLimits) (text : JsonText) : Prop :=
  (text.bytes ≤ limits.maxBodyBytes ∧ text.WellFormed limits.strict) ∧
    ∀ node ∈ text.root.nodes 0, NodeShort limits.maxNumberChars node

/-- Exactly the bodies within their limits are accepted, with their values, and up to the limit of
the body the enforcement point does the same. -/
def ParsesExactly (limits : ParseLimits) (text : JsonText) : Prop :=
  (∀ v, parseStrictJson limits text = .ok v ↔
    WithinLimits limits text ∧ v = text.root.value) ∧
  (text.bytes ≤ limits.maxBodyBytes →
    (PolicyPep.parseStrictJson limits.strict text).toOption =
      (parseStrictJson limits text).toOption)

theorem toOption_eq_some {ε α : Type} {x : Except ε α} {a : α} :
    x.toOption = some a ↔ x = .ok a := by
  cases x with
  | error e => simp [Except.toOption]
  | ok b => simp [Except.toOption]

theorem parsers_agree {limits : ParseLimits} {text : JsonText}
    (hbytes : text.bytes ≤ limits.maxBodyBytes) :
    (PolicyPep.parseStrictJson limits.strict text).toOption =
      (parseStrictJson limits text).toOption := by
  ext v
  rw [toOption_eq_some, toOption_eq_some, PolicyPep.parseStrictJson_eq_ok, parseStrictJson_eq_ok]
  constructor
  · rintro ⟨hformed, hfits⟩
    exact ⟨⟨hbytes, hformed⟩, hfits⟩
  · rintro ⟨⟨-, hformed⟩, hfits⟩
    exact ⟨hformed, hfits⟩

theorem numberFits_of_integer {limits : StrictJsonLimits} {node : Nat × JsonTree}
    (h : NodeInteger node) : NumberFits limits node := by
  obtain ⟨depth, tree⟩ := node
  cases tree with
  | number token =>
    intro hnone
    rw [NodeInteger, hnone] at h
    cases h
  | null | bool | string | array | object | malformed => trivial

/-- A body is dealt with as its limits say exactly if it is refused anyway, or its numbers are short
integers, or one that does not fit comes with one too long. -/
theorem parsesExactly_iff (limits : ParseLimits) (text : JsonText) :
    ParsesExactly limits text ↔
      limits.maxBodyBytes < text.bytes ∨ ¬text.WellFormed limits.strict ∨
      (∀ node ∈ text.root.nodes 0, NodeInteger node ∧ NodeShort limits.maxNumberChars node) ∨
      (∃ node ∈ text.root.nodes 0, ¬NumberFits limits.strict node) ∧
        ∃ node ∈ text.root.nodes 0, ¬NodeShort limits.maxNumberChars node := by
  by_cases hbytes : text.bytes ≤ limits.maxBodyBytes
  swap
  · refine iff_of_true ⟨fun v => ?_, fun h => absurd h hbytes⟩ (.inl (Nat.not_le.mp hbytes))
    rw [parseStrictJson_eq_ok, WithinLimits]
    simp only [hbytes, false_and]
  by_cases hformed : text.WellFormed limits.strict
  swap
  · refine iff_of_true ⟨fun v => ?_, parsers_agree⟩ (.inr (.inl hformed))
    rw [parseStrictJson_eq_ok, WithinLimits]
    simp only [hformed, and_false, false_and]
  have hvalue := taken_eq_value_iff text.root 0 hformed.2.2
  simp only [ParsesExactly, parseStrictJson_eq_ok, WithinLimits, hbytes, hformed, true_and,
    Nat.not_lt.mpr hbytes, not_true_eq_false, false_or, forall₂_and, parsers_agree hbytes,
    implies_true, and_true]
  by_cases hfits : ∀ node ∈ text.root.nodes 0, NumberFits limits.strict node
  · have hfit : ¬∃ node ∈ text.root.nodes 0, ¬NumberFits limits.strict node := by
      push Not
      exact hfits
    simp only [hfit, false_and, or_false]
    constructor
    · intro h
      obtain ⟨hshort, htaken⟩ := (h text.root.taken).mp ⟨hfits, rfl⟩
      exact ⟨hvalue.mp htaken, hshort⟩
    · rintro ⟨hinteger, hshort⟩ v
      rw [hvalue.mpr hinteger]
      exact ⟨fun h => ⟨hshort, h.2.symm⟩, fun h => ⟨hfits, h.2.symm⟩⟩
  · have hnot : ¬∀ node ∈ text.root.nodes 0, NodeInteger node := fun h =>
      hfits fun node hnode => numberFits_of_integer (h node hnode)
    have hfit : ∃ node ∈ text.root.nodes 0, ¬NumberFits limits.strict node := by
      push Not at hfits
      exact hfits
    simp only [hfits, hfit, hnot, false_and, true_and, false_or, false_iff, not_and]
    constructor
    · intro h
      by_contra hall
      push Not at hall
      exact h text.root.value hall rfl
    · rintro ⟨node, hnode, hlong⟩ v hshort
      exact absurd (hshort node hnode) hlong

/-- At most one character is allowed, and a number has two. -/
theorem long_number_accepted :
    ¬ParsesExactly { maxNumberChars := 1 } ⟨2, true, .number "12", false⟩ := by
  intro h
  have haccepted : parseStrictJson { maxNumberChars := 1 } ⟨2, true, .number "12", false⟩ =
      .ok (.number ⟨"12"⟩) := by
    rfl
  have hwithin := ((h.1 _).mp haccepted).1
  have hshort : "12".length ≤ 1 := hwithin.2 (0, .number "12") (by simp [JsonTree.nodes])
  exact absurd hshort (by decide)

end ActionIr

end AgentSphere
