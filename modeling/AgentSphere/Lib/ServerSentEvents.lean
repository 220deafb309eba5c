import Mathlib.Data.List.Basic

/-!
# Server-sent events

The text of a `text/event-stream` is a sequence of lines, each ended by a line feed, a carriage
return or both. A line is a field, whose value starts after the first colon and one space; the
values of the `data` fields up to an empty line are the lines of one message. The fields `event`,
`id` and `retry` and comments say nothing about the data of a message. What comes after the last
empty line is dropped.
-/

namespace ServerSentEvents

/-- The ended lines of a text, with the part of the first line that was read before. After a
carriage return, a line feed ends no other line. -/
def lines : Bool → List Char → List Char → List (List Char)
  | _, _, [] => []
  | afterReturn, line, c :: text =>
    if c = '\n' then
      if afterReturn then lines false line text else line :: lines false [] text
    else if c = '\r' then line :: lines true [] text
    else lines false (line ++ [c]) text

/-- The value of a `data` field. -/
def dataOf (line : List Char) : Option (List Char) :=
  if line.takeWhile (· ≠ ':') = "data".toList then
    let value := (line.dropWhile (· ≠ ':')).drop 1
    some (if value.head? = some ' ' then value.tail else value)
  else none

/-- The data of the messages that lines make up, with the data that was collected before. Every
value is followed by a line feed, and the last of them is dropped. -/
def messages : List Char → List (List Char) → List (List Char)
  | _, [] => []
  | collected, line :: rest =>
    if line = [] then
      if collected = [] then messages [] rest else collected.dropLast :: messages [] rest
    else
      match dataOf line with
      | some value => messages (collected ++ value ++ ['\n']) rest
      | none => messages collected rest

def parse (text : List Char) : List (List Char) := messages [] (lines false [] text)

def opening : List Char := ['d', 'a', 't', 'a', ':', ' ']

def block (text : List Char) : List Char := opening ++ text ++ ['\n', '\n']

def IsLine (text : List Char) : Prop := '\n' ∉ text ∧ '\r' ∉ text

instance (text : List Char) : Decidable (IsLine text) := inferInstanceAs (Decidable (_ ∧ _))

variable {afterReturn : Bool} {line text rest collected : List Char}

-- Single lines

theorem lines_append (h : IsLine text) (hline : text ≠ [] ∨ afterReturn = false) :
    lines afterReturn line (text ++ rest) = lines false (line ++ text) rest := by
  induction text generalizing afterReturn line with
  | nil =>
    obtain hne | rfl := hline
    · exact absurd rfl hne
    · rw [List.nil_append, List.append_nil]
  | cons c text ih =>
    obtain ⟨hfeed, hreturn⟩ := h
    rw [List.mem_cons, not_or] at hfeed hreturn
    rw [List.cons_append, lines, if_neg (Ne.symm hfeed.1), if_neg (Ne.symm hreturn.1),
      ih ⟨hfeed.2, hreturn.2⟩ (.inr rfl), List.append_assoc]
    rfl

theorem dataOf_opening (text : List Char) : dataOf (opening ++ text) = some text := by
  have hname : (opening ++ text).takeWhile (· ≠ ':') = "data".toList := by
    simp [opening]
  have hvalue : (opening ++ text).dropWhile (· ≠ ':') = ':' :: ' ' :: text := by
    simp [opening]
  rw [dataOf, if_pos hname, hvalue]
  rfl

theorem isLine_opening : IsLine opening := by decide

theorem IsLine.opening_append (h : IsLine text) : IsLine (opening ++ text) := by
  refine ⟨fun hmem => ?_, fun hmem => ?_⟩
  · exact (List.mem_append.mp hmem).elim isLine_opening.1 h.1
  · exact (List.mem_append.mp hmem).elim isLine_opening.2 h.2

theorem messages_opening (lines : List (List Char)) :
    messages [] ((opening ++ text) :: lines) = messages (text ++ ['\n']) lines := by
  rw [messages, if_neg (by simp [opening]), dataOf_opening]
  rfl

theorem parse_block (h : IsLine text) :
    parse (block text ++ rest) = text :: parse rest := by
  have hfirst : lines false [] (block text ++ rest) =
      (opening ++ text) :: [] :: lines false [] rest := by
    rw [block, List.append_assoc, lines_append h.opening_append (.inr rfl)]
    rfl
  rw [parse, hfirst, messages_opening, messages, if_pos rfl, if_neg (by simp),
    List.dropLast_concat]
  rfl

-- Several lines

theorem length_dataOf_le {value : List Char} (h : dataOf line = some value) :
    value.length + 4 ≤ line.length := by
  unfold dataOf at h
  split_ifs at h with hname
  have hline := congrArg List.length (List.takeWhile_append_dropWhile (p := (· ≠ ':')) (l := line))
  have hfour : (line.takeWhile (· ≠ ':')).length = 4 := congrArg List.length hname
  rw [List.length_append, hfour] at hline
  have hdrop : ((line.dropWhile (· ≠ ':')).drop 1).length ≤ (line.dropWhile (· ≠ ':')).length := by
    rw [List.length_drop]
    omega
  obtain rfl := Option.some.inj h
  split_ifs
  · rw [List.length_tail]
    omega
  · omega

def NextWithin (bound : Nat) (found : List (List Char)) : Prop :=
  ∃ message later, found = message :: later ∧ message.length + 1 ≤ bound

theorem nextWithin_nil {bound : Nat} {later : List (List Char)} (hcollected : collected ≠ [])
    (hbound : collected.length ≤ bound) : NextWithin bound (messages collected ([] :: later)) := by
  rw [messages, if_pos rfl, if_neg hcollected]
  refine ⟨_, _, rfl, ?_⟩
  have hpos := List.length_pos_of_ne_nil hcollected
  rw [List.length_dropLast]
  omega

theorem nextWithin_cons {bound : Nat} {later : List (List Char)} (hcollected : collected ≠ [])
    (hbound : collected.length + line.length ≤ bound)
    (h : ∀ collected' : List Char, collected' ≠ [] →
      collected'.length ≤ collected.length + line.length →
      NextWithin bound (messages collected' later)) :
    NextWithin bound (messages collected (line :: later)) := by
  by_cases hline : line = []
  · subst hline
    exact nextWithin_nil hcollected hbound
  · rw [messages, if_neg hline]
    cases hdata : dataOf line with
    | none => exact h collected hcollected (Nat.le_add_right _ _)
    | some value =>
      have hvalue := length_dataOf_le hdata
      refine h _ (by simp) ?_
      simp only [List.length_append, List.length_singleton]
      omega

theorem nextWithin_text {bound : Nat} (hreturn : afterReturn = true → line = [])
    (hcollected : collected ≠ [])
    (hbound : collected.length + (line.length + text.length) ≤ bound) :
    NextWithin bound
      (messages collected (lines afterReturn line (text ++ '\n' :: '\n' :: rest))) := by
  induction text generalizing afterReturn line collected with
  | nil =>
    cases afterReturn with
    | true =>
      obtain rfl := hreturn rfl
      exact nextWithin_nil hcollected hbound
    | false =>
      refine nextWithin_cons hcollected hbound fun collected' hcollected' hle => ?_
      exact nextWithin_nil hcollected' (Nat.le_trans hle hbound)
  | cons c text ih =>
    rw [List.length_cons] at hbound
    -- the line ends here, and the rest of the text is left
    have hended : ∀ afterReturn' : Bool, NextWithin bound (messages collected
        (line :: lines afterReturn' [] (text ++ '\n' :: '\n' :: rest))) := by
      intro afterReturn'
      refine nextWithin_cons hcollected (by omega) fun collected' hcollected' hle => ?_
      exact ih (fun _ => rfl) hcollected' (by rw [List.length_nil]; omega)
    rw [List.cons_append, lines]
    split_ifs with hfeed hafter hcarriage
    · exact ih (fun hfalse => nomatch hfalse) hcollected (by omega)
    · exact hended false
    · exact hended true
    · refine ih (fun hfalse => nomatch hfalse) hcollected ?_
      rw [List.length_append, List.length_singleton]
      omega

theorem exists_first_line (h : ¬IsLine text) :
    ∃ first c later, text = first ++ c :: later ∧ IsLine first ∧ (c = '\n' ∨ c = '\r') := by
  induction text with
  | nil => exact absurd (by decide) h
  | cons c text ih =>
    by_cases hc : c = '\n' ∨ c = '\r'
    · exact ⟨[], c, text, rfl, by decide, hc⟩
    · rw [not_or] at hc
      have htext : ¬IsLine text := fun hline => h
        ⟨List.not_mem_cons_of_ne_of_not_mem (Ne.symm hc.1) hline.1,
          List.not_mem_cons_of_ne_of_not_mem (Ne.symm hc.2) hline.2⟩
      obtain ⟨first, end', later, rfl, hfirst, hend⟩ := ih htext
      exact ⟨c :: first, end', later, rfl,
        ⟨List.not_mem_cons_of_ne_of_not_mem (Ne.symm hc.1) hfirst.1,
          List.not_mem_cons_of_ne_of_not_mem (Ne.symm hc.2) hfirst.2⟩, hend⟩

theorem parse_block_shorter (rest : List Char) (h : ¬IsLine text) :
    ∃ message later, parse (block text ++ rest) = message :: later ∧
      message.length < text.length := by
  obtain ⟨first, c, remaining, rfl, hfirst, hc⟩ := exists_first_line h
  have hlines : ∃ afterReturn, lines false [] (block (first ++ c :: remaining) ++ rest) =
      (opening ++ first) ::
        lines afterReturn [] (remaining ++ '\n' :: '\n' :: rest) := by
    have hblock : block (first ++ c :: remaining) ++ rest =
        (opening ++ first) ++ (c :: (remaining ++ '\n' :: '\n' :: rest)) := by
      simp [block]
    rw [hblock, lines_append hfirst.opening_append (.inr rfl), List.nil_append]
    obtain rfl | rfl := hc
    · exact ⟨false, rfl⟩
    · exact ⟨true, rfl⟩
  obtain ⟨afterReturn, hlines⟩ := hlines
  have hnext : NextWithin (first.length + 1 + remaining.length)
      (messages (first ++ ['\n'])
        (lines afterReturn [] (remaining ++ '\n' :: '\n' :: rest))) :=
    nextWithin_text (fun _ => rfl) (by simp) (by simp)
  obtain ⟨message, later, hfound, hlength⟩ := hnext
  refine ⟨message, later, ?_, ?_⟩
  · rw [parse, hlines, messages_opening, hfound]
  · rw [List.length_append, List.length_cons]
    omega

/-- **When texts are read back**: exactly if each is a single line. -/
theorem parse_flatMap_block_iff (texts : List (List Char)) :
    parse (texts.flatMap block) = texts ↔ ∀ text ∈ texts, IsLine text := by
  induction texts with
  | nil => simp [parse, lines, messages]
  | cons text texts ih =>
    rw [List.flatMap_cons]
    by_cases hline : IsLine text
    · rw [parse_block hline, List.cons_inj_right, ih]
      simp [hline]
    · obtain ⟨message, later, hfound, hlength⟩ :=
        parse_block_shorter (texts.flatMap block) hline
      refine iff_of_false (fun hread => ?_) fun hall => hline (hall text List.mem_cons_self)
      rw [hfound, List.cons_eq_cons] at hread
      exact Nat.lt_irrefl _ (hread.1 ▸ hlength)

end ServerSentEvents
