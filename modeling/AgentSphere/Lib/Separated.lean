import Mathlib.Computability.Language

/-!
# Parts between separators

A list is cut at each occurrence of a separator. The parts are free of separators, and joined with
separators they give the list back. A list begins with another one and a separator exactly if its
parts begin with those of the other one.
-/

namespace Separated

open Computability

variable {α : Type} {p : α → Bool} {l : Language α}

section Parts

variable [BEq α] [LawfulBEq α] {x c : α} {xs ys part : List α} {ls : List (List α)}

theorem not_mem_of_mem_splitOn (h : part ∈ xs.splitOn x) : x ∉ part := by
  induction xs generalizing part with
  | nil =>
    rw [List.splitOn_nil, List.mem_singleton] at h
    simp [h]
  | cons y ys ih =>
    rw [List.splitOn_cons_eq_if_modifyHead] at h
    split at h
    · rcases List.mem_cons.mp h with rfl | hrest
      · simp
      · exact ih hrest
    · rename_i hne
      cases hsplit : ys.splitOn x with
      | nil => exact absurd hsplit (List.splitOn_ne_nil x ys)
      | cons first rest =>
        rw [hsplit, List.modifyHead_cons] at h
        rcases List.mem_cons.mp h with rfl | hrest
        · have hfirst := ih (hsplit ▸ List.mem_cons_self)
          simp only [beq_iff_eq] at hne
          simp [hfirst, Ne.symm hne]
        · exact ih (hsplit ▸ List.mem_cons_of_mem first hrest)

omit [BEq α] [LawfulBEq α] in
theorem mem_intercalate (h : c ∈ [x].intercalate ls) : c = x ∨ ∃ part ∈ ls, c ∈ part := by
  induction ls with
  | nil => cases h
  | cons part ls ih =>
    cases ls with
    | nil => simpa using Or.inr h
    | cons part' ls =>
      rw [List.intercalate_cons_cons, List.mem_append, List.mem_append] at h
      rcases h with (hl | hx) | hrest
      · exact .inr ⟨part, List.mem_cons_self, hl⟩
      · exact .inl (List.mem_singleton.mp hx)
      · rcases ih hrest with heq | ⟨k, hk, hc⟩
        · exact .inl heq
        · exact .inr ⟨k, List.mem_cons_of_mem part hk, hc⟩

omit [BEq α] [LawfulBEq α] in
theorem intercalate_cons_flatMap :
    [x].intercalate (part :: ls) = part ++ ls.flatMap fun other => x :: other := by
  induction ls generalizing part with
  | nil => simp
  | cons other ls ih =>
    rw [List.intercalate_cons_cons, ih, List.flatMap_cons]
    simp

theorem mem_of_mem_splitOn (h : part ∈ xs.splitOn x) (hc : c ∈ part) : c ∈ xs := by
  have hjoin : List.intercalate [x] (xs.splitOn x) = xs := List.intercalate_splitOn x
  rw [← hjoin]
  generalize xs.splitOn x = ls at h
  induction ls with
  | nil => cases h
  | cons l ls ih =>
    cases ls with
    | nil =>
      obtain rfl := List.mem_singleton.mp h
      simpa using hc
    | cons l' ls =>
      rw [List.intercalate_cons_cons, List.mem_append, List.mem_append]
      rcases List.mem_cons.mp h with rfl | hrest
      · exact .inl (.inl hc)
      · exact .inr (ih hrest)

theorem splitOn_injective (x : α) : Function.Injective (List.splitOn x) := by
  intro xs ys h
  have hjoined := congrArg (List.intercalate [x]) h
  rwa [List.intercalate_splitOn, List.intercalate_splitOn] at hjoined

/-- A list is another one, or goes on after it with a separator, exactly if it has the parts of the
other one and then its own. -/
theorem splitOn_prefix_iff :
    xs.splitOn x <+: ys.splitOn x ↔ ys = xs ∨ xs ++ [x] <+: ys := by
  constructor
  · rintro ⟨rest, hrest⟩
    by_cases hnil : rest = []
    · rw [hnil, List.append_nil] at hrest
      exact .inl (splitOn_injective x hrest.symm)
    · refine .inr ⟨[x].intercalate rest, ?_⟩
      refine splitOn_injective x ?_
      have hfree : ∀ part ∈ rest, x ∉ part := fun part hpart =>
        by
        have hparts : part ∈ ys.splitOn x := hrest ▸ List.mem_append_right _ hpart
        exact not_mem_of_mem_splitOn hparts
      rw [List.append_assoc, List.singleton_append, List.splitOn_append_cons_self,
        List.splitOn_intercalate x hfree hnil, hrest]
  · rintro (rfl | ⟨rest, rfl⟩)
    · exact List.prefix_rfl
    · rw [List.append_assoc, List.singleton_append, List.splitOn_append_cons_self]
      exact List.prefix_append _ _

theorem splitOn_map {f : α → α} (hf : ∀ c, f c = x ↔ c = x) :
    (xs.map f).splitOn x = (xs.splitOn x).map (List.map f) := by
  induction xs with
  | nil => rfl
  | cons c xs ih =>
    rw [List.map_cons, List.splitOn_cons_eq_if_modifyHead, List.splitOn_cons_eq_if_modifyHead, ih]
    by_cases hc : c = x
    · rw [if_pos (beq_iff_eq.mpr ((hf c).mpr hc)), if_pos (beq_iff_eq.mpr hc)]
      rfl
    · rw [if_neg (mt beq_iff_eq.mp (mt (hf c).mp hc)), if_neg (mt beq_iff_eq.mp hc)]
      cases xs.splitOn x with
      | nil => rfl
      | cons first rest => rfl

theorem suffix_iff (hfree : x ∉ ys) :
    ys <:+ xs ↔ ys <:+ (xs.splitOn x).getLast (List.splitOn_ne_nil x xs) := by
  obtain ⟨init, part, hsplit⟩ : ∃ init part, xs.splitOn x = init ++ [part] :=
    ⟨_, _, (List.dropLast_append_getLast (List.splitOn_ne_nil x xs)).symm⟩
  simp only [hsplit, List.getLast_append_singleton]
  have hparts : ∀ other ∈ init ++ [part], x ∉ other := by
    rw [← hsplit]
    exact fun other => not_mem_of_mem_splitOn
  have hpart : part.splitOn x = [part] :=
    List.splitOn_eq_singleton (hparts part (List.mem_append_right _ List.mem_cons_self))
  by_cases hnil : init = []
  · rw [hnil, List.nil_append, ← hpart] at hsplit
    rw [splitOn_injective x hsplit]
  · have hxs : xs = [x].intercalate init ++ x :: part := by
      refine splitOn_injective x ?_
      rw [List.splitOn_append_cons_self, hpart, List.splitOn_intercalate x
        (fun other hother => hparts other (List.mem_append_left _ hother)) hnil, hsplit]
    rw [hxs]
    constructor
    · intro h
      have hshorter : ys <:+ x :: part := by
        rcases List.suffix_or_suffix_of_suffix h (List.suffix_append _ _) with hys | hys
        · exact hys
        · exact absurd (hys.subset List.mem_cons_self) hfree
      rcases List.suffix_cons_iff.mp hshorter with rfl | hys
      · exact absurd List.mem_cons_self hfree
      · exact hys
    · intro h
      exact (h.trans (List.suffix_cons _ _)).trans (List.suffix_append _ _)

end Parts

-- Languages

def symbol (p : α → Bool) : Language α := {word | ∃ c, p c = true ∧ word = [c]}

theorem mem_symbol_mul {word : List α} :
    word ∈ symbol p * l ↔ ∃ c rest, p c = true ∧ rest ∈ l ∧ word = c :: rest := by
  rw [Language.mem_mul]
  constructor
  · rintro ⟨_, ⟨c, hc, rfl⟩, rest, hrest, rfl⟩
    exact ⟨c, rest, hc, hrest, rfl⟩
  · rintro ⟨c, rest, hc, hrest, rfl⟩
    exact ⟨[c], ⟨c, hc, rfl⟩, rest, hrest, rfl⟩

theorem mem_symbol_kstar {word : List α} : word ∈ (symbol p)∗ ↔ ∀ c ∈ word, p c = true := by
  constructor
  · rintro ⟨words, rfl, hwords⟩ c hc
    obtain ⟨word, hword, hmem⟩ := List.mem_flatten.mp hc
    obtain ⟨c', hc', rfl⟩ := hwords word hword
    rwa [List.mem_singleton.mp hmem]
  · intro h
    refine ⟨word.map ([·]), (List.flatMap_singleton' word).symm, fun part hpart => ?_⟩
    obtain ⟨c, hc, rfl⟩ := List.mem_map.mp hpart
    exact ⟨c, h c hc, rfl⟩

theorem mem_one_add {word : List α} : word ∈ 1 + l ↔ word = [] ∨ word ∈ l := by
  rw [Language.mem_add, Language.mem_one]

def separated (x : α) (l : Language α) : Language α := l * ({[x]} * l)∗

/-- **What is derived part by part is recognised part by part.** -/
theorem mem_separated_iff [BEq α] [LawfulBEq α] {x : α} {xs : List α} (hl : ∀ word ∈ l, x ∉ word) :
    xs ∈ separated x l ↔ ∀ part ∈ xs.splitOn x, part ∈ l := by
  constructor
  · intro h
    obtain ⟨first, hfirst, tail, ⟨words, rfl, hwords⟩, rfl⟩ := Language.mem_mul.mp h
    clear h
    induction words generalizing first with
    | nil =>
      rw [List.flatten_nil, List.append_nil, List.splitOn_eq_singleton (hl first hfirst)]
      simpa using hfirst
    | cons word words ih =>
      rw [List.forall_mem_cons] at hwords
      obtain ⟨_, rfl, next, hnext, rfl⟩ := Language.mem_mul.mp hwords.1
      rw [List.flatten_cons, List.append_assoc, List.singleton_append,
        List.splitOn_append_cons_self, List.splitOn_eq_singleton (hl first hfirst)]
      rw [List.singleton_append, List.forall_mem_cons]
      exact ⟨hfirst, ih next hnext hwords.2⟩
  · intro h
    obtain ⟨first, rest, hsplit⟩ := List.exists_cons_of_ne_nil (List.splitOn_ne_nil x xs)
    have hxs : xs = [x].intercalate (first :: rest) := by
      rw [← hsplit]
      exact (List.intercalate_splitOn x).symm
    rw [hsplit, List.forall_mem_cons] at h
    refine Language.mem_mul.mpr ⟨first, h.1, (rest.map ([x] ++ ·)).flatten,
      ⟨_, rfl, fun word hword => ?_⟩, ?_⟩
    · obtain ⟨part, hpart, rfl⟩ := List.mem_map.mp hword
      exact Language.mem_mul.mpr ⟨[x], rfl, part, h.2 part hpart, rfl⟩
    · rw [hxs]
      clear hxs hsplit h
      induction rest generalizing first with
      | nil => simp
      | cons next rest ih =>
        rw [List.intercalate_cons_cons, ← ih next]
        simp

end Separated
