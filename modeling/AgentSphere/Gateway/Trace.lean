import AgentSphere.Contracts.Basic
import AgentSphere.Lib.Separated

/-!
# Trace headers

A supplied trace header is taken over if it has the length of a version 00 header, starts like one
and consists of hexadecimal digits and hyphens. Where its other hyphens stand is not looked at. A
value that is no text is replaced like an absent one, without being flagged.
-/

namespace AgentSphere.Gateway

open Separated

-- The recognizer

abbrev HeaderValue := List UInt8

structure TraceContext where
  traceId : String
  parentSpanId : Option String
  invalidInputReplaced : Bool
  deriving DecidableEq, Repr

/-- `u8::is_ascii_hexdigit` -/
def isAsciiHexdigit (c : Char) : Bool :=
  c.isDigit || ('a' ≤ c && c ≤ 'f') || ('A' ≤ c && c ≤ 'F')

def validTrace (value : String) : Bool :=
  value.utf8ByteSize == 55 && ['0', '0', '-'].isPrefixOf value.toList &&
    value.toList.all fun c => isAsciiHexdigit c || c == '-'

def slice (value : String) (first last : Nat) : String :=
  String.ofList ((value.toList.take last).drop first)

/-- The context of a request, with what its headers hold under `traceparent`. The fresh identifier
is that of `Uuid::new_v4`. -/
def extractTrace (toStr : HeaderValue → Option String) (fresh : String)
    (traceparent : Option HeaderValue) : TraceContext :=
  let supplied := traceparent.bind toStr
  match supplied.filter validTrace with
  | some value => ⟨slice value 3 35, some (slice value 36 52), false⟩
  | none => ⟨fresh, none, supplied.isSome⟩

-- Version 00

structure IsTraceparent (text traceId parentId flags : List Char) : Prop where
  text_eq : text = ['0', '0'] ++ '-' :: (traceId ++ '-' :: (parentId ++ '-' :: flags))
  trace_length : traceId.length = 32
  parent_length : parentId.length = 16
  flags_length : flags.length = 2
  trace_hex : ∀ c ∈ traceId, isAsciiHexdigit c = true
  parent_hex : ∀ c ∈ parentId, isAsciiHexdigit c = true
  flags_hex : ∀ c ∈ flags, isAsciiHexdigit c = true

def Reads (value : HeaderValue) (text : List Char) : Prop :=
  value.map UInt8.toNat = text.map Char.toNat

def Extracted (fresh : String) (value : HeaderValue) (context : TraceContext) : Prop :=
  (∀ text traceId parentId flags, Reads value text → IsTraceparent text traceId parentId flags →
    context = ⟨String.ofList traceId, some (String.ofList parentId), false⟩) ∧
  ((¬ ∃ text traceId parentId flags, Reads value text ∧
      IsTraceparent text traceId parentId flags) → context = ⟨fresh, none, true⟩)

variable {value : HeaderValue} {supplied : String}
  {text other traceId parentId flags : List Char}

theorem Reads.unique (h : Reads value text) (h' : Reads value other) : text = other := by
  refine List.map_injective_iff.mpr (fun c d hcd => ?_) (h.symm.trans h')
  exact Char.ext (UInt32.toNat_inj.mp hcd)

theorem bounds_of_hex {c : Char} (h : (isAsciiHexdigit c || c == '-') = true) :
    0x21 ≤ c.toNat ∧ c.toNat ≤ 0x7e := by
  simp only [isAsciiHexdigit, Char.isDigit, Bool.or_eq_true, Bool.and_eq_true, decide_eq_true_eq,
    beq_iff_eq, Char.le_def, UInt32.le_iff_toNat_le, ge_iff_le] at h
  rcases h with ((h | h) | h) | rfl
  · exact ⟨le_trans (by decide) h.1, h.2.trans (by decide)⟩
  · exact ⟨le_trans (by decide) h.1, h.2.trans (by decide)⟩
  · exact ⟨le_trans (by decide) h.1, h.2.trans (by decide)⟩
  · decide

theorem hyphen_not_mem (h : ∀ c ∈ text, isAsciiHexdigit c = true) : '-' ∉ text :=
  fun hmem => Bool.noConfusion (h '-' hmem)

namespace IsTraceparent

theorem length_eq (h : IsTraceparent text traceId parentId flags) : text.length = 55 := by
  simp [h.text_eq, h.trace_length, h.parent_length, h.flags_length]

theorem all_hex (h : IsTraceparent text traceId parentId flags) :
    ∀ c ∈ text, (isAsciiHexdigit c || c == '-') = true := by
  have hpart : ∀ {part : List Char}, (∀ c ∈ part, isAsciiHexdigit c = true) →
      ∀ c ∈ part, (isAsciiHexdigit c || c == '-') = true := by
    intro part hhex c hc
    rw [hhex c hc, Bool.true_or]
  rw [h.text_eq]
  simp only [List.forall_mem_append, List.forall_mem_cons]
  exact ⟨⟨rfl, rfl, by simp⟩, rfl, hpart h.trace_hex, rfl, hpart h.parent_hex, rfl,
    hpart h.flags_hex⟩

theorem visible (h : IsTraceparent text traceId parentId flags) (hreads : Reads value text) :
    ∀ byte ∈ value, 0x21 ≤ byte.toNat ∧ byte.toNat ≤ 0x7e := by
  intro byte hbyte
  obtain ⟨c, hc, heq⟩ := List.mem_map.mp (hreads ▸ List.mem_map_of_mem (f := UInt8.toNat) hbyte)
  rw [← heq]
  exact bounds_of_hex (h.all_hex c hc)

theorem validTrace (h : IsTraceparent supplied.toList traceId parentId flags) :
    validTrace supplied = true := by
  have hsize : supplied.utf8ByteSize = 55 := by
    rw [← String.ofList_toList (s := supplied), Uuid.utf8ByteSize_ofList, h.length_eq]
    intro c hc
    rw [Char.utf8Size_eq_one_iff, UInt32.le_iff_toNat_le]
    exact (bounds_of_hex (h.all_hex c hc)).2.trans (by decide)
  have hprefix : ['0', '0', '-'].isPrefixOf supplied.toList = true := by
    rw [h.text_eq]
    rfl
  simp only [Gateway.validTrace, hsize, hprefix, Bool.and_eq_true, List.all_eq_true]
  exact ⟨⟨rfl, trivial⟩, h.all_hex⟩

theorem slices (h : IsTraceparent supplied.toList traceId parentId flags) :
    slice supplied 3 35 = String.ofList traceId ∧
      slice supplied 36 52 = String.ofList parentId := by
  have htrace : supplied.toList =
      (['0', '0', '-'] ++ traceId) ++ '-' :: (parentId ++ '-' :: flags) := by
    rw [h.text_eq]
    rfl
  have hparent : supplied.toList =
      ((['0', '0', '-'] ++ traceId ++ ['-']) ++ parentId) ++ '-' :: flags := by
    simp [h.text_eq]
  rw [slice, slice]
  constructor
  · rw [htrace, List.take_left' (by simp [h.trace_length])]
    exact congrArg String.ofList (List.drop_left' rfl)
  · rw [hparent, List.take_left' (by simp [h.trace_length, h.parent_length]),
      List.drop_left' (by simp [h.trace_length])]

theorem splitOn_eq (h : IsTraceparent text traceId parentId flags) :
    text.splitOn '-' = [['0', '0'], traceId, parentId, flags] := by
  rw [h.text_eq, List.splitOn_append_cons_self, List.splitOn_append_cons_self,
    List.splitOn_append_cons_self, List.splitOn_eq_singleton (hyphen_not_mem h.trace_hex),
    List.splitOn_eq_singleton (hyphen_not_mem h.parent_hex),
    List.splitOn_eq_singleton (hyphen_not_mem h.flags_hex)]
  rfl

end IsTraceparent

theorem exists_isTraceparent (hvalid : validTrace supplied = true) :
    (∃ traceId parentId flags, IsTraceparent supplied.toList traceId parentId flags) ↔
      (supplied.toList.splitOn '-').map List.length = [2, 32, 16, 2] := by
  constructor
  · rintro ⟨traceId, parentId, flags, h⟩
    simp [h.splitOn_eq, h.trace_length, h.parent_length, h.flags_length]
  · intro hlengths
    simp only [validTrace, Bool.and_eq_true, List.all_eq_true] at hvalid
    generalize supplied.toList = text at *
    obtain ⟨version, traceId, parentId, flags, hsplit⟩ :=
      List.length_eq_four.mp ((List.length_map List.length).symm.trans
        (congrArg List.length hlengths))
    rw [hsplit] at hlengths
    simp only [List.map_cons, List.cons.injEq] at hlengths
    obtain ⟨hversion, htrace, hparent, hflags, -⟩ := hlengths
    have hjoin : text = version ++ '-' :: (traceId ++ '-' :: (parentId ++ '-' :: flags)) := by
      have h : ['-'].intercalate (text.splitOn '-') = text := List.intercalate_splitOn '-'
      rw [hsplit] at h
      simpa [List.intercalate_cons_cons] using h.symm
    have hhex : ∀ part ∈ text.splitOn '-', ∀ c ∈ part, isAsciiHexdigit c = true := by
      intro part hpart c hc
      rcases Bool.or_eq_true_iff.mp (hvalid.2 c (mem_of_mem_splitOn hpart hc)) with h | h
      · exact h
      · rw [beq_iff_eq] at h
        exact absurd (h ▸ hc) (not_mem_of_mem_splitOn hpart)
    rw [hsplit] at hhex
    have hstart : version = ['0', '0'] := by
      obtain ⟨first, second, rfl⟩ := List.length_eq_two.mp hversion
      have h := hvalid.1.2
      rw [hjoin] at h
      obtain ⟨rfl, rfl⟩ : '0' = first ∧ '0' = second := by simpa using h
      rfl
    refine ⟨traceId, parentId, flags, hstart ▸ hjoin, htrace, hparent, hflags, ?_, ?_, ?_⟩
    · exact hhex traceId (by simp)
    · exact hhex parentId (by simp)
    · exact hhex flags (by simp)

-- Extraction

theorem extractTrace_some {toStr : HeaderValue → Option String} (fresh : String)
    (h : toStr value = some supplied) : extractTrace toStr fresh (some value) =
      if validTrace supplied = true then ⟨slice supplied 3 35, some (slice supplied 36 52), false⟩
      else ⟨fresh, none, true⟩ := by
  have hsupplied : (some value).bind toStr = some supplied := h
  simp only [extractTrace, hsupplied, Option.filter_some]
  split_ifs <;> rfl

/-- **Trace headers.** For every value, what is extracted is what the version 00 of the header says
exactly if the value is a text, and has its hyphens in place if it looks like a header. -/
theorem extract_trace_iff (toStr : HeaderValue → Option String)
    (htext : ∀ value text, toStr value = some text → Reads value text.toList)
    (hvisible : ∀ value : HeaderValue,
      (∀ byte ∈ value, 0x21 ≤ byte.toNat ∧ byte.toNat ≤ 0x7e) → (toStr value).isSome)
    (fresh : String) (value : HeaderValue) :
    Extracted fresh value (extractTrace toStr fresh (some value)) ↔
      ∃ text, toStr value = some text ∧ (validTrace text = true →
        (text.toList.splitOn '-').map List.length = [2, 32, 16, 2]) := by
  cases hto : toStr value with
  | none =>
    have hcontext : extractTrace toStr fresh (some value) = ⟨fresh, none, false⟩ := by
      simp [extractTrace, hto]
    rw [hcontext]
    refine iff_of_false (fun h => ?_) (by simp)
    refine Bool.false_ne_true (congrArg TraceContext.invalidInputReplaced (h.2 ?_))
    rintro ⟨text, traceId, parentId, flags, hreads, hform⟩
    have hsome := hvisible value (hform.visible hreads)
    rw [hto] at hsome
    cases hsome
  | some supplied =>
    have hread : ∀ {other : List Char}, Reads value other ↔ other = supplied.toList :=
      ⟨fun h => h.unique (htext value supplied hto), fun h => h ▸ htext value supplied hto⟩
    simp only [Option.some.injEq, exists_eq_left', Extracted, hread, extractTrace_some fresh hto]
    by_cases hvalid : validTrace supplied = true
    · rw [if_pos hvalid, ← exists_isTraceparent hvalid, forall_prop_of_true hvalid]
      constructor
      · rintro ⟨-, hother⟩
        by_contra hform
        refine Bool.false_ne_true (congrArg TraceContext.invalidInputReplaced (hother ?_))
        rintro ⟨text, traceId, parentId, flags, rfl, h⟩
        exact hform ⟨traceId, parentId, flags, h⟩
      · rintro ⟨traceId, parentId, flags, h⟩
        refine ⟨?_, fun hform => absurd ⟨_, traceId, parentId, flags, rfl, h⟩ hform⟩
        rintro text traceId parentId flags rfl h'
        rw [h'.slices.1, h'.slices.2]
    · rw [if_neg hvalid]
      refine iff_of_true ⟨?_, fun _ => rfl⟩ fun h => absurd h hvalid
      rintro text traceId parentId flags rfl h
      exact absurd h.validTrace hvalid

def sampleText (value : HeaderValue) : Option String :=
  if value.all fun byte => 0x21 ≤ byte.toNat && byte.toNat ≤ 0x7e then
    some (String.ofList (value.map fun byte => Char.ofNat byte.toNat))
  else none

theorem reads_sampleText (value : HeaderValue) (text : String) (h : sampleText value = some text) :
    Reads value text.toList := by
  unfold sampleText at h
  split_ifs at h with hvisible
  cases h
  simp only [List.all_eq_true, Bool.and_eq_true, decide_eq_true_eq] at hvisible
  rw [Reads, String.toList_ofList, List.map_map]
  refine List.map_congr_left fun byte hbyte => ?_
  have hvalid : byte.toNat.isValidChar := Or.inl ((hvisible byte hbyte).2.trans_lt (by decide))
  rw [Function.comp_apply, Char.ofNat, dif_pos hvalid]
  rfl

theorem sampleText_isSome (value : HeaderValue)
    (h : ∀ byte ∈ value, 0x21 ≤ byte.toNat ∧ byte.toNat ≤ 0x7e) : (sampleText value).isSome := by
  rw [sampleText, if_pos (by simpa using h)]
  rfl

def sampleHeader : HeaderValue :=
  [48, 48, 45] ++ List.replicate 32 97 ++ 45 :: List.replicate 16 98 ++ [45, 48, 49]

theorem extract_sampleHeader :
    Extracted "f" sampleHeader (extractTrace sampleText "f" (some sampleHeader)) :=
  (extract_trace_iff sampleText reads_sampleText sampleText_isSome "f" sampleHeader).mpr
    ⟨_, rfl, fun _ => by decide⟩

/-- A value without its inner hyphens is taken over. -/
theorem hyphens_missing : ¬ ∀ value : HeaderValue,
    Extracted "f" value (extractTrace sampleText "f" (some value)) := by
  intro h
  have hvalue := (h ([48, 48, 45] ++ List.replicate 52 48)).2
  have hto : sampleText ([48, 48, 45] ++ List.replicate 52 48) =
      some (String.ofList (['0', '0', '-'] ++ List.replicate 52 '0')) := by decide
  have hvalid : validTrace (String.ofList (['0', '0', '-'] ++ List.replicate 52 '0')) = true := by
    decide
  rw [extractTrace_some "f" hto, if_pos hvalid] at hvalue
  refine Bool.false_ne_true (congrArg TraceContext.invalidInputReplaced (hvalue ?_))
  rintro ⟨text, traceId, parentId, flags, hreads, hform⟩
  rw [hreads.unique (reads_sampleText _ _ hto)] at hform
  exact absurd ((exists_isTraceparent hvalid).mp ⟨traceId, parentId, flags, hform⟩) (by decide)

end AgentSphere.Gateway
