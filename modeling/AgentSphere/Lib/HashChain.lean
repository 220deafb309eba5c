import Mathlib.Data.List.Infix

/-!
# Hash chains

A hash chain numbers its entries from one, and each entry carries the hash of the one before it.
So an entry that is known to belong to some chain fixes, by its number and by the hash it carries,
the chain it belongs to and all that stands before it.
-/

namespace HashChain

structure Links (R H : Type*) where
  sequence : R → Nat
  previous : R → H
  hash : R → H

namespace Links

variable {R H ι : Type*} (links : Links R H)

def Linked (start : Nat) (origin : H) : List R → Prop
  | [] => True
  | entry :: entries =>
    links.sequence entry = start + 1 ∧ links.previous entry = origin ∧
      Linked (start + 1) (links.hash entry) entries

def last (origin : H) (entries : List R) : H :=
  (entries.getLast?.map links.hash).getD origin

variable {links} {start : Nat} {origin : H} {entry : R} {entries more : List R}

@[simp] theorem linked_nil : links.Linked start origin [] := trivial

@[simp] theorem linked_cons :
    links.Linked start origin (entry :: entries) ↔
      links.sequence entry = start + 1 ∧ links.previous entry = origin ∧
        links.Linked (start + 1) (links.hash entry) entries := Iff.rfl

@[simp] theorem last_nil : links.last origin [] = origin := rfl

@[simp] theorem last_cons :
    links.last origin (entry :: entries) = links.last (links.hash entry) entries := by
  cases entries with
  | nil => rfl
  | cons next entries =>
    unfold last
    rw [List.getLast?_cons_cons, List.getLast?_cons]
    rfl

@[simp] theorem last_snoc : links.last origin (entries ++ [entry]) = links.hash entry := by
  simp [last]

theorem linked_append :
    links.Linked start origin (entries ++ more) ↔
      links.Linked start origin entries ∧
        links.Linked (start + entries.length) (links.last origin entries) more := by
  induction entries generalizing start origin with
  | nil => simp
  | cons entry entries ih =>
    simp only [List.cons_append, linked_cons, ih, last_cons, List.length_cons, and_assoc]
    rw [Nat.add_assoc start 1, Nat.add_comm 1]

theorem linked_snoc :
    links.Linked start origin (entries ++ [entry]) ↔
      links.Linked start origin entries ∧ links.sequence entry = start + entries.length + 1 ∧
        links.previous entry = links.last origin entries := by
  simp [linked_append]

theorem linked_iff :
    links.Linked 0 origin entries ↔
      ∀ index entry, entries[index]? = some entry →
        links.sequence entry = index + 1 ∧
          links.previous entry = links.last origin (entries.take index) := by
  induction entries using List.reverseRecOn with
  | nil => simp
  | append_singleton entries final ih =>
    rw [linked_snoc, ih, Nat.zero_add]
    constructor
    · rintro ⟨hentries, hfinal⟩ index entry hentry
      obtain hlt | heq | hgt := Nat.lt_trichotomy index entries.length
      · rw [List.getElem?_append_left hlt] at hentry
        rw [List.take_append_of_le_length hlt.le]
        exact hentries index entry hentry
      · subst heq
        obtain rfl : final = entry := by simpa using hentry
        rw [List.take_left]
        exact hfinal
      · rw [List.getElem?_eq_none (by simp; omega)] at hentry
        cases hentry
    · intro h
      refine ⟨fun index entry hentry => ?_, ?_⟩
      · have hlt : index < entries.length := (List.getElem?_eq_some_iff.mp hentry).1
        have hboth := h index entry (by rw [List.getElem?_append_left hlt, hentry])
        rwa [List.take_append_of_le_length hlt.le] at hboth
      · have hboth := h entries.length final (by simp)
        rwa [List.take_left] at hboth

namespace Linked

theorem left (h : links.Linked start origin (entries ++ more)) :
    links.Linked start origin entries := (linked_append.mp h).1

theorem of_prefix (h : links.Linked start origin more) (hpre : entries <+: more) :
    links.Linked start origin entries := by
  obtain ⟨rest, rfl⟩ := hpre
  exact h.left

theorem getElem?_of_mem (h : links.Linked 0 origin entries) (hmem : entry ∈ entries) :
    ∃ index, entries[index]? = some entry ∧ links.sequence entry = index + 1 := by
  obtain ⟨index, hindex⟩ := List.mem_iff_getElem?.mp hmem
  exact ⟨index, hindex, (linked_iff.mp h index entry hindex).1⟩

/-- **A chain of known entries**: the entries of a chain belong to known chains, and a hash says
which one. Then the chain is the beginning of the known chain its first entry belongs to. -/
theorem prefix_of_mem {family : ι → List R} {records : List R} {first : R} {i : ι}
    (hfamily : ∀ i, links.Linked 0 origin (family i))
    (hhash : ∀ i j entry entry', entry ∈ family i → entry' ∈ family j →
      links.hash entry = links.hash entry' → i = j)
    (hrecords : links.Linked 0 origin records) (hmem : ∀ entry ∈ records, ∃ i, entry ∈ family i)
    (hhead : records.head? = some first) (hfirst : first ∈ family i) : records <+: family i := by
  have hall : ∀ (index : Nat) entry, records[index]? = some entry → entry ∈ family i := by
    intro index
    induction index with
    | zero =>
      intro entry hentry
      rw [← List.head?_eq_getElem?, hhead] at hentry
      exact Option.some.inj hentry ▸ hfirst
    | succ index ih =>
      intro entry hentry
      obtain ⟨hnumber, hprevious⟩ := linked_iff.mp hrecords _ _ hentry
      have hlt : index < records.length :=
        Nat.lt_of_succ_lt (List.getElem?_eq_some_iff.mp hentry).1
      have hbefore : records[index]? = some records[index] := List.getElem?_eq_getElem hlt
      rw [List.take_add_one, hbefore, Option.toList_some, last_snoc] at hprevious
      obtain ⟨j, hj⟩ := hmem entry (List.mem_of_getElem? hentry)
      obtain ⟨position, hposition, hsequence⟩ := (hfamily j).getElem?_of_mem hj
      obtain rfl : position = index + 1 := by omega
      -- The entry before it in the known chain has the hash of the one before it here.
      obtain ⟨-, hknown⟩ := linked_iff.mp (hfamily j) _ _ hposition
      have hlt' : index < (family j).length :=
        Nat.lt_of_succ_lt (List.getElem?_eq_some_iff.mp hposition).1
      rw [List.take_add_one, List.getElem?_eq_getElem hlt', Option.toList_some, last_snoc]
        at hknown
      have hsame := hhash i j _ _ (ih _ hbefore) (List.getElem_mem hlt')
        (hprevious.symm.trans hknown)
      exact hsame ▸ hj
  rw [List.prefix_iff_getElem?]
  intro index hlt
  have hentry : records[index]? = some records[index] := List.getElem?_eq_getElem hlt
  obtain ⟨position, hposition, hsequence⟩ := (hfamily i).getElem?_of_mem (hall _ _ hentry)
  obtain ⟨hnumber, -⟩ := linked_iff.mp hrecords _ _ hentry
  obtain rfl : position = index := by omega
  exact hposition

end Linked

theorem filter_prefix_iff {keep : R → Bool} :
    entries.filter keep <+: entries ↔
      entries.Pairwise fun entry entry' => keep entry' = true → keep entry = true := by
  induction entries with
  | nil => simp
  | cons entry entries ih =>
    rw [List.pairwise_cons]
    by_cases hkeep : keep entry = true
    · simp [hkeep, ih]
    · rw [List.filter_cons_of_neg hkeep]
      constructor
      · intro hpre
        have hnone : entries.filter keep = [] := by
          cases hfilter : entries.filter keep with
          | nil => rfl
          | cons first rest =>
            rw [hfilter, List.cons_prefix_cons] at hpre
            have hmem : first ∈ entries.filter keep := hfilter ▸ List.mem_cons_self
            exact absurd (hpre.1 ▸ List.of_mem_filter hmem) hkeep
        rw [List.filter_eq_nil_iff] at hnone
        refine ⟨fun entry' hmem hkept => absurd hkept (hnone entry' hmem), ?_⟩
        exact List.pairwise_of_forall_mem_list fun a _ b hb hkept => absurd hkept (hnone b hb)
      · rintro ⟨hnone, -⟩
        have hfilter : entries.filter keep = [] :=
          List.filter_eq_nil_iff.mpr fun entry' hmem hkept => hkeep (hnone entry' hmem hkept)
        rw [hfilter]
        exact List.nil_prefix

theorem Linked.filter_iff {keep : R → Bool} (h : links.Linked 0 origin entries) :
    links.Linked 0 origin (entries.filter keep) ↔
      entries.Pairwise fun entry entry' => keep entry' = true → keep entry = true := by
  rw [← filter_prefix_iff]
  refine ⟨fun hfilter => ?_, h.of_prefix⟩
  cases hhead : (entries.filter keep).head? with
  | none =>
    rw [List.head?_eq_none_iff.mp hhead]
    exact List.nil_prefix
  | some first =>
    refine prefix_of_mem (i := ()) (fun _ : Unit => h) (fun _ _ _ _ _ _ _ => rfl) hfilter
      (fun entry hmem => ⟨(), List.mem_of_mem_filter hmem⟩) hhead ?_
    exact List.mem_of_mem_filter (List.mem_of_mem_head? hhead)

end Links

end HashChain
