import AgentSphere.Lib.Separated
import AgentSphere.Registry.Manifest

/-!
# Semantic versions

The recognizer of versions cuts at the first plus sign and then at the first hyphen. No part before
a plus sign may contain one, and no version core a hyphen, so that these cuts are those of the
grammar: a version core, an optional pre-release after a hyphen, an optional build after a plus
sign.
-/

namespace AgentSphere.Registry

open Separated
open scoped Computability

namespace Semver

-- The grammar

def isPositiveDigit (c : Char) : Bool := c.isDigit && c != '0'

def isNonDigit (c : Char) : Bool := c.isAlpha || c == '-'

def isIdentifierCharacter (c : Char) : Bool := c.isAlphanum || c == '-'

def digits : Language Char := symbol Char.isDigit * (symbol Char.isDigit)∗

def numericIdentifier : Language Char :=
  {['0']} + symbol isPositiveDigit * (symbol Char.isDigit)∗

def alphanumericIdentifier : Language Char :=
  (symbol isIdentifierCharacter)∗ * (symbol isNonDigit * (symbol isIdentifierCharacter)∗)

def preReleaseIdentifier : Language Char := alphanumericIdentifier + numericIdentifier

def buildIdentifier : Language Char := alphanumericIdentifier + digits

def preRelease : Language Char := separated '.' preReleaseIdentifier

def build : Language Char := separated '.' buildIdentifier

def versionCore : Language Char :=
  numericIdentifier * ({['.']} * numericIdentifier * ({['.']} * numericIdentifier))

def semver : Language Char :=
  versionCore * (1 + {['-']} * preRelease) * (1 + {['+']} * build)

-- Identifiers

variable {word value before core : List Char} {separator : Char} {part after : Option (List Char)}
  {l : Language Char}

theorem isIdentifierCharacter_iff {c : Char} :
    isIdentifierCharacter c = true ↔ c.isDigit = true ∨ isNonDigit c = true := by
  simp only [isIdentifierCharacter, isNonDigit, Char.isAlphanum, Bool.or_eq_true]
  tauto

theorem isDigit_of_isPositiveDigit {c : Char} (h : isPositiveDigit c = true) :
    c.isDigit = true := (Bool.and_eq_true_iff.mp h).1

theorem mem_digits : word ∈ digits ↔ word ≠ [] ∧ ∀ c ∈ word, c.isDigit = true := by
  rw [digits, mem_symbol_mul]
  constructor
  · rintro ⟨c, rest, hc, hrest, rfl⟩
    exact ⟨by simp, List.forall_mem_cons.mpr ⟨hc, mem_symbol_kstar.mp hrest⟩⟩
  · rintro ⟨hne, hdigits⟩
    obtain ⟨c, rest, rfl⟩ := List.exists_cons_of_ne_nil hne
    rw [List.forall_mem_cons] at hdigits
    exact ⟨c, rest, hdigits.1, mem_symbol_kstar.mpr hdigits.2, rfl⟩

theorem mem_numericIdentifier : word ∈ numericIdentifier ↔
    word ≠ [] ∧ (word = ['0'] ∨ word.head? ≠ some '0') ∧ ∀ c ∈ word, c.isDigit = true := by
  rw [numericIdentifier, Language.mem_add, mem_symbol_mul]
  constructor
  · rintro (hzero | ⟨c, rest, hc, hrest, rfl⟩)
    · obtain rfl : word = ['0'] := hzero
      exact ⟨by simp, .inl rfl, by simp⟩
    · refine ⟨by simp, .inr ?_, List.forall_mem_cons.mpr ⟨isDigit_of_isPositiveDigit hc,
        mem_symbol_kstar.mp hrest⟩⟩
      simpa using (Bool.and_eq_true_iff.mp hc).2
  · rintro ⟨hne, hzero | hhead, hdigits⟩
    · exact .inl hzero
    · obtain ⟨c, rest, rfl⟩ := List.exists_cons_of_ne_nil hne
      rw [List.forall_mem_cons] at hdigits
      have hc : isPositiveDigit c = true := by
        simpa [isPositiveDigit, hdigits.1] using hhead
      exact .inr ⟨c, rest, hc, mem_symbol_kstar.mpr hdigits.2, rfl⟩

theorem mem_alphanumericIdentifier : word ∈ alphanumericIdentifier ↔
    (∀ c ∈ word, isIdentifierCharacter c = true) ∧ ∃ c ∈ word, c.isDigit = false := by
  have hnonDigit : ∀ {c : Char}, isNonDigit c = true → c.isDigit = false := by
    intro c hc
    simp only [isNonDigit, Bool.or_eq_true, beq_iff_eq] at hc
    rcases hc with halpha | rfl
    · change (decide (c.val ≥ 'A'.val ∧ c.val ≤ 'Z'.val) ||
        (decide (c.val ≥ 'a'.val) && decide (c.val ≤ 'z'.val))) = true at halpha
      simp only [Bool.or_eq_true, Bool.and_eq_true, decide_eq_true_eq, Char.isDigit,
        Bool.and_eq_false_iff, decide_eq_false_iff_not, UInt32.le_iff_toNat_le, ge_iff_le]
        at halpha ⊢
      simp at halpha ⊢
      omega
    · rfl
  rw [alphanumericIdentifier, Language.mem_mul]
  constructor
  · rintro ⟨first, hfirst, tail, htail, rfl⟩
    obtain ⟨c, rest, hc, hrest, rfl⟩ := mem_symbol_mul.mp htail
    refine ⟨fun c' hc' => ?_, c, by simp, hnonDigit hc⟩
    rcases List.mem_append.mp hc' with hmem | hmem
    · exact mem_symbol_kstar.mp hfirst c' hmem
    · rcases List.mem_cons.mp hmem with rfl | hmem
      · exact isIdentifierCharacter_iff.mpr (.inr hc)
      · exact mem_symbol_kstar.mp hrest c' hmem
  · rintro ⟨hall, c, hmem, hc⟩
    obtain ⟨first, rest, rfl⟩ := List.append_of_mem hmem
    rw [List.forall_mem_append, List.forall_mem_cons] at hall
    have hc' : isNonDigit c = true := by
      simpa [hc] using isIdentifierCharacter_iff.mp hall.2.1
    exact ⟨first, mem_symbol_kstar.mpr hall.1, c :: rest,
      mem_symbol_mul.mpr ⟨c, rest, hc', mem_symbol_kstar.mpr hall.2.2, rfl⟩, rfl⟩

theorem mem_preReleaseIdentifier : word ∈ preReleaseIdentifier ↔
    word ≠ [] ∧ (∀ c ∈ word, isIdentifierCharacter c = true) ∧
      ((∀ c ∈ word, c.isDigit = true) → word = ['0'] ∨ word.head? ≠ some '0') := by
  rw [preReleaseIdentifier, Language.mem_add, mem_alphanumericIdentifier, mem_numericIdentifier]
  constructor
  · rintro (⟨hall, c, hmem, hc⟩ | ⟨hne, hzero, hdigits⟩)
    · refine ⟨List.ne_nil_of_mem hmem, hall, fun hdigits => ?_⟩
      rw [hdigits c hmem] at hc
      cases hc
    · exact ⟨hne, fun c hc => isIdentifierCharacter_iff.mpr (.inl (hdigits c hc)), fun _ => hzero⟩
  · rintro ⟨hne, hall, hzero⟩
    by_cases hdigits : ∀ c ∈ word, c.isDigit = true
    · exact .inr ⟨hne, hzero hdigits, hdigits⟩
    · refine .inl ⟨hall, ?_⟩
      push Not at hdigits
      simpa using hdigits

theorem mem_buildIdentifier : word ∈ buildIdentifier ↔
    word ≠ [] ∧ ∀ c ∈ word, isIdentifierCharacter c = true := by
  rw [buildIdentifier, Language.mem_add, mem_alphanumericIdentifier, mem_digits]
  constructor
  · rintro (⟨hall, c, hmem, -⟩ | ⟨hne, hdigits⟩)
    · exact ⟨List.ne_nil_of_mem hmem, hall⟩
    · exact ⟨hne, fun c hc => isIdentifierCharacter_iff.mpr (.inl (hdigits c hc))⟩
  · rintro ⟨hne, hall⟩
    by_cases hdigits : ∀ c ∈ word, c.isDigit = true
    · exact .inr ⟨hne, hdigits⟩
    · refine .inl ⟨hall, ?_⟩
      push Not at hdigits
      simpa using hdigits

-- The recognizers

theorem validSemverNumber_iff : validSemverNumber word = true ↔ word ∈ numericIdentifier := by
  rw [mem_numericIdentifier]
  simp [validSemverNumber, and_assoc]

theorem free_of_identifiers (h : ∀ c ∈ word, isIdentifierCharacter c = true) {c : Char}
    (hc : isIdentifierCharacter c = false) : c ∉ word := by
  intro hmem
  rw [h c hmem] at hc
  cases hc

theorem validSemverIdentifiers_iff {reject : Bool}
    (hl : ∀ {word : List Char}, word ∈ l ↔ word ≠ [] ∧
      (∀ c ∈ word, isIdentifierCharacter c = true) ∧
      (reject = true → (∀ c ∈ word, c.isDigit = true) → word = ['0'] ∨ word.head? ≠ some '0')) :
    validSemverIdentifiers word reject = true ↔ word ∈ separated '.' l := by
  have hfree : ∀ word ∈ l, '.' ∉ word := fun word hword =>
    free_of_identifiers (hl.mp hword).2.1 rfl
  rw [mem_separated_iff hfree, validSemverIdentifiers, Bool.and_eq_true, List.all_eq_true]
  have hpart : ∀ part : List Char, (!part.isEmpty &&
      part.all (fun c => c.isAlphanum || c == '-') && (!reject || !part.all Char.isDigit ||
        part == ['0'] || part.head? != some '0')) = true ↔ part ∈ l := by
    intro part
    rw [hl]
    cases reject with
    | false => simp [isIdentifierCharacter]
    | true =>
      simp only [Bool.and_eq_true, Bool.or_eq_true, Bool.not_eq_true', List.all_eq_true,
        ← Bool.not_eq_true, List.isEmpty_iff, beq_iff_eq, bne_iff_ne, isIdentifierCharacter]
      tauto
  simp only [hpart]
  refine and_iff_right_of_imp fun hparts => ?_
  rw [Bool.not_eq_true', List.isEmpty_eq_false_iff]
  rintro rfl
  exact (hl.mp (hparts [] (by simp))).1 rfl

theorem mem_versionCore : word ∈ versionCore ↔
    (word.splitOn '.').length = 3 ∧ ∀ part ∈ word.splitOn '.', validSemverNumber part = true := by
  have hfree : ∀ {part : List Char}, part ∈ numericIdentifier → '.' ∉ part := by
    intro part hpart hmem
    cases (mem_numericIdentifier.mp hpart).2.2 '.' hmem
  simp only [validSemverNumber_iff]
  constructor
  · intro h
    obtain ⟨major, hmajor, _, ⟨_, ⟨_, rfl, minor, hminor, rfl⟩, _, ⟨_, rfl, patch, hpatch, rfl⟩,
      rfl⟩, rfl⟩ := h
    have hsplit : (major ++ ((['.'] ++ minor) ++ (['.'] ++ patch))).splitOn '.' =
        [major, minor, patch] := by
      rw [List.append_assoc, List.singleton_append, List.splitOn_append_cons_self,
        List.singleton_append, List.splitOn_append_cons_self,
        List.splitOn_eq_singleton (hfree hmajor), List.splitOn_eq_singleton (hfree hminor),
        List.splitOn_eq_singleton (hfree hpatch)]
      rfl
    simp only [hsplit, List.forall_mem_cons]
    exact ⟨rfl, hmajor, hminor, hpatch, by simp⟩
  · rintro ⟨hlength, hparts⟩
    obtain ⟨major, minor, patch, hsplit⟩ := List.length_eq_three.mp hlength
    have hword : ['.'].intercalate (word.splitOn '.') = word := List.intercalate_splitOn '.'
    rw [hsplit] at hword hparts
    simp only [List.forall_mem_cons] at hparts
    refine ⟨major, hparts.1, _, ⟨_, ⟨_, rfl, minor, hparts.2.1, rfl⟩, _, ⟨_, rfl, patch,
      hparts.2.2.1, rfl⟩, rfl⟩, ?_⟩
    rw [← hword]
    simp [List.intercalate_cons_cons]

-- The cuts

def following (separator : Char) (part : Option (List Char)) : List Char :=
  part.elim [] (separator :: ·)

theorem splitOnce_iff : splitOnce value separator = (before, after) ↔
    value = before ++ following separator after ∧ separator ∉ before := by
  rw [splitOnce, Prod.mk.injEq]
  constructor
  · rintro ⟨rfl, rfl⟩
    refine ⟨?_, fun hmem => by simpa using List.mem_takeWhile_imp hmem⟩
    conv_lhs => rw [← List.takeWhile_append_dropWhile (p := (· != separator)) (l := value)]
    refine congrArg _ ?_
    cases hrest : value.dropWhile (· != separator) with
    | nil => rfl
    | cons c rest =>
      have hc := List.head_dropWhile_not (· != separator) (l := value) (by simp [hrest])
      simp only [hrest, List.head_cons, bne_eq_false_iff_eq] at hc
      rw [hc]
      rfl
  · rintro ⟨rfl, hfree⟩
    have hbefore : ∀ c ∈ before, (c != separator) = true := by
      intro c hc
      simpa using ne_of_mem_of_not_mem hc hfree
    rw [List.takeWhile_append_of_pos hbefore, List.dropWhile_append_of_pos hbefore]
    cases after with
    | none => simp [following]
    | some rest => simp [following]

theorem mem_following_mul {separator : Char} : word ∈ 1 + {[separator]} * l ↔
    ∃ part, following separator part = word ∧ ∀ w ∈ part, w ∈ l := by
  rw [mem_one_add]
  constructor
  · rintro (rfl | ⟨_, rfl, w, hw, rfl⟩)
    · exact ⟨none, rfl, by simp⟩
    · refine ⟨some w, rfl, ?_⟩
      rintro w' ⟨⟩
      exact hw
  · rintro ⟨part, rfl, hpart⟩
    cases part with
    | none => exact .inl rfl
    | some w => exact .inr ⟨_, rfl, w, hpart w rfl, rfl⟩

theorem mem_semver : value ∈ semver ↔ ∃ core pre rest,
    value = (core ++ following '-' pre) ++ following '+' rest ∧ core ∈ versionCore ∧
      (∀ w ∈ pre, w ∈ preRelease) ∧ ∀ w ∈ rest, w ∈ build := by
  simp only [semver, Language.mem_mul, mem_following_mul]
  constructor
  · rintro ⟨_, ⟨core, hcore, _, ⟨pre, rfl, hpre⟩, rfl⟩, _, ⟨rest, rfl, hrest⟩, rfl⟩
    exact ⟨core, pre, rest, rfl, hcore, hpre, hrest⟩
  · rintro ⟨core, pre, rest, rfl, hcore, hpre, hrest⟩
    exact ⟨_, ⟨core, hcore, _, ⟨pre, rfl, hpre⟩, rfl⟩, _, ⟨rest, rfl, hrest⟩, rfl⟩

-- Versions

theorem mem_preRelease :
    validSemverIdentifiers word true = true ↔ word ∈ preRelease :=
  validSemverIdentifiers_iff fun {_} => by
    rw [mem_preReleaseIdentifier]
    simp

theorem mem_build : validSemverIdentifiers word false = true ↔ word ∈ build :=
  validSemverIdentifiers_iff fun {_} => by
    rw [mem_buildIdentifier]
    simp

theorem free_of_separated (hl : ∀ w ∈ l, ∀ c ∈ w, isIdentifierCharacter c = true) {c : Char}
    (hc : isIdentifierCharacter c = false) (hdot : c ≠ '.') (h : word ∈ separated '.' l) :
    c ∉ word := by
  have hfree : ∀ w ∈ l, '.' ∉ w := fun w hw => free_of_identifiers (hl w hw) rfl
  intro hmem
  have hword : ['.'].intercalate (word.splitOn '.') = word := List.intercalate_splitOn '.'
  rw [← hword] at hmem
  rcases mem_intercalate hmem with rfl | ⟨part, hpart, hmem⟩
  · exact hdot rfl
  · exact free_of_identifiers (hl part ((mem_separated_iff hfree).mp h part hpart)) hc hmem

theorem free_of_versionCore (h : core ∈ versionCore) {c : Char} (hc : c.isDigit = false)
    (hdot : c ≠ '.') : c ∉ core := by
  intro hmem
  have hcore : ['.'].intercalate (core.splitOn '.') = core := List.intercalate_splitOn '.'
  rw [← hcore] at hmem
  rcases mem_intercalate hmem with rfl | ⟨part, hpart, hmem⟩
  · exact hdot rfl
  · have hnumber := validSemverNumber_iff.mp ((mem_versionCore.mp h).2 part hpart)
    rw [(mem_numericIdentifier.mp hnumber).2.2 c hmem] at hc
    cases hc

theorem identifierCharacter_of_preRelease {w : List Char} (hw : w ∈ preReleaseIdentifier) :
    ∀ c ∈ w, isIdentifierCharacter c = true := (mem_preReleaseIdentifier.mp hw).2.1

theorem identifierCharacter_of_build {w : List Char} (hw : w ∈ buildIdentifier) :
    ∀ c ∈ w, isIdentifierCharacter c = true := (mem_buildIdentifier.mp hw).2

theorem parts_iff {rest : List Char} {pre post : Option (List Char)}
    (hpost : splitOnce value '+' = (rest, post)) (hpre : splitOnce rest '-' = (core, pre)) :
    value ∈ semver ↔ core ∈ versionCore ∧ (∀ w ∈ pre, w ∈ preRelease) ∧
      (∀ w ∈ post, w ∈ build) := by
  rw [mem_semver]
  constructor
  · rintro ⟨core', pre', post', hvalue, hcore, hprerelease, hbuild⟩
    have hplus : '+' ∉ core' ++ following '-' pre' := by
      rw [List.mem_append, not_or]
      refine ⟨free_of_versionCore hcore rfl (by decide), ?_⟩
      cases pre' with
      | none => simp [following]
      | some w =>
        have hfree := free_of_separated (fun _ => identifierCharacter_of_preRelease) (c := '+')
          rfl (by decide) (hprerelease w rfl)
        simpa [following] using hfree
    have hcut := splitOnce_iff.mpr ⟨hvalue, hplus⟩
    rw [hpost] at hcut
    obtain ⟨hrest, rfl⟩ := Prod.mk.inj hcut
    have hcut' := splitOnce_iff.mpr ⟨hrest, free_of_versionCore hcore (c := '-') rfl (by decide)⟩
    rw [hpre] at hcut'
    obtain ⟨rfl, rfl⟩ := Prod.mk.inj hcut'
    exact ⟨hcore, hprerelease, hbuild⟩
  · rintro ⟨hcore, hprerelease, hbuild⟩
    refine ⟨core, pre, post, ?_, hcore, hprerelease, hbuild⟩
    rw [← (splitOnce_iff.mp hpre).1]
    exact (splitOnce_iff.mp hpost).1

/-- **The versions that are recognised** are those of the grammar, up to 128 bytes. -/
theorem validSemver_iff (value : String) : validSemver value = true ↔
    value.utf8ByteSize ≤ 128 ∧ value.toList ∈ semver := by
  have hnone : ∀ w ∈ build, (!w.contains '+') = true := by
    intro w hw
    have hfree := free_of_separated (fun _ => identifierCharacter_of_build) (c := '+') rfl
      (by decide) hw
    simpa using hfree
  simp only [validSemver, Bool.and_eq_true, Option.all_eq_true, decide_eq_true_eq,
    beq_iff_eq, List.all_eq_true, mem_preRelease, mem_build]
  have hpost : splitOnce value.toList '+' =
      ((splitOnce value.toList '+').1, (splitOnce value.toList '+').2) := rfl
  rw [parts_iff hpost rfl, mem_versionCore]
  constructor
  · rintro ⟨⟨⟨⟨⟨-, hsize⟩, hbuild⟩, hpre⟩, hlength⟩, hparts⟩
    exact ⟨hsize, ⟨hlength, hparts⟩, hpre, fun w hw => (hbuild w hw).2⟩
  · rintro ⟨hsize, ⟨hlength, hparts⟩, hpre, hbuild⟩
    refine ⟨⟨⟨⟨⟨?_, hsize⟩, fun w hw => ⟨hnone w (hbuild w hw), hbuild w hw⟩⟩, hpre⟩, hlength⟩,
      hparts⟩
    rw [Bool.not_eq_true', String.isEmpty_eq_false_iff]
    rintro rfl
    simp [splitOnce] at hlength

example : validSemver "1.0.0-x-y.1+001.a-b" = true ∧ validSemver "1.0.0-01" = false := by decide

end Semver

end AgentSphere.Registry
