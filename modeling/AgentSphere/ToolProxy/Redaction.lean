import AgentSphere.ToolProxy.ResponseFilter

/-!
# Redactions

What the response filter takes out stands at positions of the response. A position is the way to a
part of a value, by the number of the item or member at each level. The filter replaces the parts at
positions that lie beside each other, leaves everything else as it is, and has nothing more to
replace afterwards.
-/

namespace AgentSphere

namespace Value

abbrev Position := List Nat

def children : Value → List (String × Value)
  | .array items => items.mapIdx fun index item => ("[" ++ toString index ++ "]", item)
  | .object members => members.map fun member => ("." ++ member.1, member.2)
  | .null | .bool _ | .number _ | .string _ => []

def setChild (value : Value) (index : Nat) (child : Value) : Value :=
  match value with
  | .array items => .array (items.modify index fun _ => child)
  | .object members => .object (members.modify index fun member => (member.1, child))
  | .null => .null
  | .bool b => .bool b
  | .number n => .number n
  | .string text => .string text

def subtree? : Value → Position → Option Value
  | value, [] => some value
  | value, index :: position =>
    match value.children[index]? with
    | some (_, child) => child.subtree? position
    | none => none

def replaceAt : Value → Position → Value → Value
  | _, [], part => part
  | value, index :: position, part =>
    match value.children[index]? with
    | some (_, child) => value.setChild index (child.replaceAt position part)
    | none => value

def pathAt : Value → String → Position → String
  | _, path, [] => path
  | value, path, index :: position =>
    match value.children[index]? with
    | some (segment, child) => child.pathAt (path ++ segment) position
    | none => path

def Beside (p q : Position) : Prop := ¬p <+: q ∧ ¬q <+: p

theorem beside_cons {i j : Nat} {p q : Position} :
    Beside (i :: p) (j :: q) ↔ i ≠ j ∨ Beside p q := by
  unfold Beside
  simp only [List.cons_prefix_cons]
  grind

theorem children_setChild (value : Value) (index : Nat) (child : Value) :
    (value.setChild index child).children =
      value.children.modify index fun entry => (entry.1, child) := by
  cases value with
  | array items =>
    refine List.ext_getElem? fun i => ?_
    simp only [setChild, children, List.getElem?_mapIdx, List.getElem?_modify]
    cases items[i]? with
    | none => rfl
    | some item => by_cases hi : index = i <;> simp [hi]
  | object members =>
    refine List.ext_getElem? fun i => ?_
    simp only [setChild, children, List.getElem?_map, List.getElem?_modify]
    cases members[i]? with
    | none => rfl
    | some member => by_cases hi : index = i <;> simp [hi]
  | null => cases index <;> rfl
  | bool b => cases index <;> rfl
  | number n => cases index <;> rfl
  | string text => cases index <;> rfl

theorem setChild_setChild (value : Value) (index : Nat) (child child' : Value) :
    (value.setChild index child).setChild index child' = value.setChild index child' := by
  cases value with
  | array items => simp only [setChild, List.modify_modify_eq, Function.comp_def]
  | object members => simp only [setChild, List.modify_modify_eq, Function.comp_def]
  | null => rfl
  | bool b => rfl
  | number n => rfl
  | string text => rfl

theorem setChild_self {value child : Value} {index : Nat} {segment : String}
    (h : value.children[index]? = some (segment, child)) : value.setChild index child = value := by
  cases value with
  | array items =>
    simp only [children, List.getElem?_mapIdx, Option.map_eq_some_iff, Prod.mk.injEq] at h
    obtain ⟨item, hitem, -, rfl⟩ := h
    refine congrArg Value.array (List.ext_getElem? fun i => ?_)
    rw [List.getElem?_modify]
    by_cases hi : index = i
    · subst hi
      simp [hitem]
    · simp [hi]
  | object members =>
    simp only [children, List.getElem?_map, Option.map_eq_some_iff, Prod.mk.injEq] at h
    obtain ⟨member, hmember, -, rfl⟩ := h
    refine congrArg Value.object (List.ext_getElem? fun i => ?_)
    rw [List.getElem?_modify]
    by_cases hi : index = i
    · subst hi
      simp [hmember]
    · simp [hi]
  | null => rfl
  | bool b => rfl
  | number n => rfl
  | string text => rfl

variable {value child child' mark out : Value} {index : Nat} {segment path : String}
  {paths paths' : List String} {positions positions' : List Position}

theorem getElem?_children_setChild (h : value.children[index]? = some (segment, child)) :
    (value.setChild index child').children[index]? = some (segment, child') := by
  rw [children_setChild, List.getElem?_modify, h]
  simp

theorem getElem?_children_setChild_ne {i : Nat} (h : index ≠ i) :
    (value.setChild index child').children[i]? = value.children[i]? := by
  rw [children_setChild, List.getElem?_modify]
  simp [h]

theorem subtree?_replaceAt_self {p : Position} (h : (value.subtree? p).isSome = true) :
    (value.replaceAt p mark).subtree? p = some mark := by
  induction p generalizing value with
  | nil => rfl
  | cons i p ih =>
    cases hchild : value.children[i]? with
    | none =>
      rw [subtree?, hchild] at h
      cases h
    | some entry =>
      obtain ⟨segment, child⟩ := entry
      rw [subtree?, hchild] at h
      rw [replaceAt, hchild, subtree?, getElem?_children_setChild hchild]
      exact ih h

theorem subtree?_replaceAt_beside {p q : Position} (h : Beside p q) :
    (value.replaceAt p mark).subtree? q = value.subtree? q := by
  induction p generalizing value q with
  | nil => exact absurd (List.nil_prefix) h.1
  | cons i p ih =>
    cases q with
    | nil => exact absurd (List.nil_prefix) h.2
    | cons j q =>
      cases hchild : value.children[i]? with
      | none => rw [replaceAt, hchild]
      | some entry =>
        obtain ⟨segment, child⟩ := entry
        rw [replaceAt, hchild]
        by_cases hij : i = j
        · subst hij
          have hbeside : Beside p q := (beside_cons.mp h).resolve_left fun hne => hne rfl
          rw [subtree?, subtree?, getElem?_children_setChild hchild, hchild]
          exact ih hbeside
        · rw [subtree?, subtree?, getElem?_children_setChild_ne hij]

structure Redacts (mark value out : Value) (path : String) (paths : List String)
    (positions : List Position) : Prop where
  beside : positions.Pairwise Beside
  present : ∀ p ∈ positions, (value.subtree? p).isSome = true
  replaced : positions.foldl (fun value p => value.replaceAt p mark) value = out
  paths : paths = positions.map (value.pathAt path)

theorem Redacts.refl : Redacts mark value value path [] [] where
  beside := .nil
  present := List.forall_mem_nil _
  replaced := rfl
  paths := rfl

theorem Redacts.whole : Redacts mark value mark path [path] [[]] := by
  refine ⟨List.pairwise_singleton _ _, ?_, rfl, rfl⟩
  intro p hp
  obtain rfl := List.mem_singleton.mp hp
  rfl

theorem subtree?_foldl_beside {q : Position} (h : ∀ p ∈ positions, Beside p q) :
    (positions.foldl (fun value p => value.replaceAt p mark) value).subtree? q =
      value.subtree? q := by
  induction positions generalizing value with
  | nil => rfl
  | cons p positions ih =>
    obtain ⟨hp, hpositions⟩ := List.forall_mem_cons.mp h
    rw [List.foldl_cons, ih hpositions, subtree?_replaceAt_beside hp]

theorem Redacts.subtree?_frame (h : Redacts mark value out path paths positions) (q : Position)
    (hbeside : ∀ p ∈ positions, Beside p q) : out.subtree? q = value.subtree? q := by
  rw [← h.replaced]
  exact subtree?_foldl_beside hbeside

theorem subtree?_foldl_mark (hbeside : positions.Pairwise Beside)
    (hpresent : ∀ p ∈ positions, (value.subtree? p).isSome = true) :
    ∀ p ∈ positions, (positions.foldl (fun value p => value.replaceAt p mark) value).subtree? p =
      some mark := by
  induction positions generalizing value with
  | nil => exact List.forall_mem_nil _
  | cons p positions ih =>
    obtain ⟨hp, hpairwise⟩ := List.pairwise_cons.mp hbeside
    obtain ⟨hpart, hparts⟩ := List.forall_mem_cons.mp hpresent
    refine List.forall_mem_cons.mpr ⟨?_, ih hpairwise fun q hq => ?_⟩
    · rw [List.foldl_cons, subtree?_foldl_beside fun q hq => ⟨(hp q hq).2, (hp q hq).1⟩]
      exact subtree?_replaceAt_self hpart
    · rw [subtree?_replaceAt_beside (hp q hq)]
      exact hparts q hq

theorem Redacts.subtree?_mark (h : Redacts mark value out path paths positions) :
    ∀ p ∈ positions, out.subtree? p = some mark := by
  rw [← h.replaced]
  exact subtree?_foldl_mark h.beside h.present

theorem foldl_replaceAt_cons (h : value.children[index]? = some (segment, child))
    (positions : List Position) :
    (positions.map (index :: ·)).foldl (fun value p => value.replaceAt p mark) value =
      value.setChild index (positions.foldl (fun value p => value.replaceAt p mark) child) := by
  induction positions generalizing value child with
  | nil => exact (setChild_self h).symm
  | cons p positions ih =>
    have hstep : value.replaceAt (index :: p) mark =
        value.setChild index (child.replaceAt p mark) := by
      rw [replaceAt, h]
    rw [List.map_cons, List.foldl_cons, List.foldl_cons, hstep, ih (getElem?_children_setChild h),
      setChild_setChild]

structure RedactsFrom (mark : Value) (index : Nat) (value out : Value) (path : String)
    (paths : List String) (positions : List Position) : Prop
    extends Redacts mark value out path paths positions where
  beyond : ∀ p ∈ positions, ∃ i q, index ≤ i ∧ p = i :: q

theorem RedactsFrom.nil : RedactsFrom mark index value value path [] [] where
  toRedacts := .refl
  beyond := List.forall_mem_nil _

theorem RedactsFrom.cons (h : value.children[index]? = some (segment, child))
    (hfirst : Redacts mark child child' (path ++ segment) paths positions)
    (hrest : RedactsFrom mark (index + 1) (value.setChild index child') out path paths' positions') :
    RedactsFrom mark index value out path (paths ++ paths')
      (positions.map (index :: ·) ++ positions') where
  beside := by
    refine List.pairwise_append.mpr ⟨?_, hrest.beside, ?_⟩
    · exact hfirst.beside.map _ fun _ _ hbeside => beside_cons.mpr (.inr hbeside)
    · intro p hp q hq
      obtain ⟨p, -, rfl⟩ := List.mem_map.mp hp
      obtain ⟨i, q, hi, rfl⟩ := hrest.beyond q hq
      exact beside_cons.mpr (.inl (by omega))
  present := by
    intro p hp
    obtain hp | hp := List.mem_append.mp hp
    · obtain ⟨q, hq, rfl⟩ := List.mem_map.mp hp
      rw [subtree?, h]
      exact hfirst.present q hq
    · obtain ⟨i, q, hi, rfl⟩ := hrest.beyond p hp
      have hpresent := hrest.present _ hp
      rwa [subtree?, getElem?_children_setChild_ne (by omega), ← subtree?] at hpresent
  replaced := by
    rw [List.foldl_append, foldl_replaceAt_cons h, hfirst.replaced, hrest.replaced]
  paths := by
    rw [List.map_append, hfirst.paths, hrest.paths, List.map_map]
    congr 1
    · refine List.map_congr_left fun p hp => ?_
      rw [Function.comp_apply, pathAt, h]
    · refine List.map_congr_left fun p hp => ?_
      obtain ⟨i, q, hi, rfl⟩ := hrest.beyond p hp
      rw [pathAt, pathAt, getElem?_children_setChild_ne (by omega)]
  beyond := by
    intro p hp
    obtain hp | hp := List.mem_append.mp hp
    · obtain ⟨q, -, rfl⟩ := List.mem_map.mp hp
      exact ⟨index, q, le_rfl, rfl⟩
    · obtain ⟨i, q, hi, rfl⟩ := hrest.beyond p hp
      exact ⟨i, q, by omega, rfl⟩

theorem modify_append_cons {α : Type} (f : α → α) (pre items : List α) (item : α) :
    (pre ++ item :: items).modify pre.length f = (pre ++ [f item]) ++ items := by
  induction pre with
  | nil => rfl
  | cons first pre ih => exact congrArg (first :: ·) ih

theorem getElem?_children_array {pre items : List Value} {item : Value} :
    (Value.array (pre ++ item :: items)).children[pre.length]? =
      some ("[" ++ toString pre.length ++ "]", item) := by
  rw [children, List.getElem?_mapIdx, List.getElem?_append_right le_rfl, Nat.sub_self]
  rfl

theorem setChild_array {pre items : List Value} {item : Value} :
    (Value.array (pre ++ item :: items)).setChild pre.length child =
      .array ((pre ++ [child]) ++ items) :=
  congrArg Value.array (modify_append_cons _ pre items item)

theorem getElem?_children_object {pre members : List (String × Value)} {key : String} :
    (Value.object (pre ++ (key, child) :: members)).children[pre.length]? =
      some ("." ++ key, child) := by
  rw [children, List.getElem?_map, List.getElem?_append_right le_rfl, Nat.sub_self]
  rfl

theorem setChild_object {pre members : List (String × Value)} {key : String} :
    (Value.object (pre ++ (key, child) :: members)).setChild pre.length child' =
      .object ((pre ++ [(key, child')]) ++ members) :=
  congrArg Value.object (modify_append_cons _ pre members (key, child))

end Value

namespace ToolProxy.ResponseFilter

open Concurrency Value

variable {codec : FilterCodec} {filter : ResponseFilter} {fingerprints : Finset String}

mutual

/-- **The walk replaces what it reports, and nothing else.** -/
theorem redacts_walk (value : Value) (path : String) :
    ∃ positions, Redacts (.string redactedText) value
      (walk codec filter fingerprints value path).value path
      (walk codec filter fingerprints value path).redacted positions := by
  cases value with
  | null => exact ⟨[], .refl⟩
  | bool b => exact ⟨[], .refl⟩
  | number n => exact ⟨[], .refl⟩
  | string text =>
    rw [walk]
    split
    · exact ⟨[[]], .whole⟩
    · exact ⟨[], .refl⟩
  | array items =>
    obtain ⟨positions, h⟩ := redacts_walkItems items path 0
    exact ⟨positions, (h [] rfl).toRedacts⟩
  | object members =>
    rw [walk]
    split
    · exact ⟨[[]], .whole⟩
    · obtain ⟨positions, h⟩ := redacts_walkMembers members path 0
      exact ⟨positions, (h [] rfl).toRedacts⟩

theorem redacts_walkItems (items : List Value) (path : String) (index : Nat) :
    ∃ positions, ∀ pre : List Value, pre.length = index →
      RedactsFrom (.string redactedText) index (.array (pre ++ items))
        (.array (pre ++ (walkItems codec filter fingerprints items path index).value)) path
        (walkItems codec filter fingerprints items path index).redacted positions := by
  cases items with
  | nil => exact ⟨[], fun pre _ => .nil⟩
  | cons item items =>
    obtain ⟨positions, hfirst⟩ := redacts_walk item (path ++ "[" ++ toString index ++ "]")
    obtain ⟨positions', hrest⟩ := redacts_walkItems items path (index + 1)
    refine ⟨positions.map (index :: ·) ++ positions', ?_⟩
    rintro pre rfl
    have hpath : path ++ "[" ++ toString pre.length ++ "]" =
        path ++ ("[" ++ toString pre.length ++ "]") := by simp only [String.append_assoc]
    rw [hpath] at hfirst
    rw [walkItems, hpath]
    refine .cons getElem?_children_array hfirst ?_
    have hlater := hrest (pre ++ [(walk codec filter fingerprints item
      (path ++ ("[" ++ toString pre.length ++ "]"))).value]) (by simp)
    rw [setChild_array]
    simpa only [List.append_assoc, List.singleton_append] using hlater

theorem redacts_walkMembers (members : List (String × Value)) (path : String) (index : Nat) :
    ∃ positions, ∀ pre : List (String × Value), pre.length = index →
      RedactsFrom (.string redactedText) index (.object (pre ++ members))
        (.object (pre ++ (walkMembers codec filter fingerprints members path).value)) path
        (walkMembers codec filter fingerprints members path).redacted positions := by
  match members with
  | [] => exact ⟨[], fun pre _ => .nil⟩
  | (key, child) :: members =>
    have hpath : path ++ "." ++ key = path ++ ("." ++ key) := String.append_assoc
    rw [walkMembers, hpath]
    generalize hfirst : (if isSensitive filter key then
        ⟨.string redactedText, [path ++ ("." ++ key)], false⟩
      else walk codec filter fingerprints child (path ++ ("." ++ key)) : Walked Value) = first
    obtain ⟨positions, hchild⟩ : ∃ positions, Redacts (.string redactedText) child first.value
        (path ++ ("." ++ key)) first.redacted positions := by
      rw [← hfirst]
      split
      · exact ⟨[[]], .whole⟩
      · exact redacts_walk child (path ++ ("." ++ key))
    obtain ⟨positions', hrest⟩ := redacts_walkMembers members path (index + 1)
    refine ⟨positions.map (index :: ·) ++ positions', ?_⟩
    rintro pre rfl
    refine .cons getElem?_children_object hchild ?_
    have hlater := hrest (pre ++ [(key, first.value)]) (by simp)
    rw [setChild_object]
    simpa only [List.append_assoc, List.singleton_append] using hlater

end

theorem walk_redactedText (path : String) :
    (walk codec filter fingerprints (.string redactedText) path).value = .string redactedText ∧
      (walk codec filter fingerprints (.string redactedText) path).redacted.Sublist [path] := by
  rw [walk]
  split
  · exact ⟨rfl, List.Sublist.refl _⟩
  · exact ⟨rfl, List.nil_sublist _⟩

theorem any_walkMembers (p : String → Bool) (members : List (String × Value)) (path : String) :
    (walkMembers codec filter fingerprints members path).value.any (fun member => p member.1) =
      members.any fun member => p member.1 := by
  induction members with
  | nil => rfl
  | cons member members ih => exact congrArg (p member.1 || ·) ih

theorem walk_object {members : List (String × Value)}
    (h : ¬members.any (fun member => decide (Detected codec filter fingerprints member.1)) = true)
    (path : String) :
    (walk codec filter fingerprints (.object members) path).value =
        .object (walkMembers codec filter fingerprints members path).value ∧
      (walk codec filter fingerprints (.object members) path).redacted =
        (walkMembers codec filter fingerprints members path).redacted := by
  rw [walk, if_neg h]
  exact ⟨rfl, rfl⟩

mutual

/-- **A second walk changes nothing** and reports nothing that was not reported. -/
theorem walk_walk (value : Value) (path : String) :
    (walk codec filter fingerprints (walk codec filter fingerprints value path).value path).value =
        (walk codec filter fingerprints value path).value ∧
      (walk codec filter fingerprints
        (walk codec filter fingerprints value path).value path).redacted.Sublist
          (walk codec filter fingerprints value path).redacted := by
  cases value with
  | null => exact ⟨rfl, List.Sublist.refl _⟩
  | bool b => exact ⟨rfl, List.Sublist.refl _⟩
  | number n => exact ⟨rfl, List.Sublist.refl _⟩
  | string text =>
    by_cases hdetected : Detected codec filter fingerprints text
    · have hwalk : walk codec filter fingerprints (.string text) path =
          ⟨.string redactedText, [path], mentionsInstructions text⟩ := by
        rw [walk, if_pos hdetected]
      rw [hwalk]
      exact walk_redactedText path
    · have hwalk : walk codec filter fingerprints (.string text) path =
          ⟨.string text, [], mentionsInstructions text⟩ := by
        rw [walk, if_neg hdetected]
      rw [hwalk, hwalk]
      exact ⟨rfl, List.Sublist.refl _⟩
  | array items =>
    obtain ⟨hvalue, hredacted⟩ := walkItems_walkItems items path 0
    exact ⟨congrArg Value.array hvalue, hredacted⟩
  | object members =>
    by_cases hnamed :
        members.any (fun member => decide (Detected codec filter fingerprints member.1)) = true
    · have hwalk : walk codec filter fingerprints (.object members) path =
          ⟨.string redactedText, [path], false⟩ := by
        rw [walk, if_pos hnamed]
      rw [hwalk]
      exact walk_redactedText path
    · obtain ⟨hvalue, hredacted⟩ := walk_object hnamed path
      rw [← any_walkMembers (fun key => decide (Detected codec filter fingerprints key)) members
        path] at hnamed
      obtain ⟨hvalue', hredacted'⟩ := walk_object hnamed path
      obtain ⟨hagain, hagain'⟩ := walkMembers_walkMembers members path
      rw [hvalue, hredacted, hvalue', hredacted', hagain]
      exact ⟨rfl, hagain'⟩

theorem walkItems_walkItems (items : List Value) (path : String) (index : Nat) :
    (walkItems codec filter fingerprints
        (walkItems codec filter fingerprints items path index).value path index).value =
        (walkItems codec filter fingerprints items path index).value ∧
      (walkItems codec filter fingerprints
        (walkItems codec filter fingerprints items path index).value path index).redacted.Sublist
          (walkItems codec filter fingerprints items path index).redacted := by
  cases items with
  | nil => exact ⟨rfl, List.Sublist.refl _⟩
  | cons item items =>
    obtain ⟨hfirst, hfirst'⟩ := walk_walk item (path ++ "[" ++ toString index ++ "]")
    obtain ⟨hrest, hrest'⟩ := walkItems_walkItems items path (index + 1)
    simp only [walkItems]
    exact ⟨by rw [hfirst, hrest], hfirst'.append hrest'⟩

theorem walkMembers_walkMembers (members : List (String × Value)) (path : String) :
    (walkMembers codec filter fingerprints
        (walkMembers codec filter fingerprints members path).value path).value =
        (walkMembers codec filter fingerprints members path).value ∧
      (walkMembers codec filter fingerprints
        (walkMembers codec filter fingerprints members path).value path).redacted.Sublist
          (walkMembers codec filter fingerprints members path).redacted := by
  match members with
  | [] => exact ⟨rfl, List.Sublist.refl _⟩
  | (key, child) :: members =>
    obtain ⟨hrest, hrest'⟩ := walkMembers_walkMembers members path
    simp only [walkMembers]
    by_cases hsensitive : isSensitive filter key = true
    · simp only [if_pos hsensitive]
      exact ⟨by rw [hrest], (List.Sublist.refl _).append hrest'⟩
    · obtain ⟨hfirst, hfirst'⟩ := walk_walk child (path ++ "." ++ key)
      simp only [if_neg hsensitive]
      exact ⟨by rw [hfirst, hrest], hfirst'.append hrest'⟩

end

/-- **Redaction**: the filter replaces the parts at the positions it reports by the mark, changes
nothing else, and returns the result again. -/
theorem apply_redacts {value out : Value} {secretFingerprints : List ByteArray}
    {paths : List String} {untrusted : Bool}
    (h : apply codec filter value secretFingerprints = .ok (out, paths, untrusted)) :
    (∃ positions : List Position, positions.Pairwise Beside ∧
      (∀ p ∈ positions, (value.subtree? p).isSome = true) ∧
      out = positions.foldl (fun value p => value.replaceAt p (.string "[REDACTED]")) value ∧
      (∀ p ∈ positions, out.subtree? p = some (.string "[REDACTED]")) ∧
      (∀ q, (∀ p ∈ positions, Beside p q) → out.subtree? q = value.subtree? q) ∧
      paths = positions.map (value.pathAt "$")) ∧
    ∃ paths' untrusted', apply codec filter out secretFingerprints = .ok (out, paths', untrusted') := by
  simp only [apply, except_bind_eq_ok, require_eq_ok, Unique.exists_iff] at h
  obtain ⟨fingerprints, hfingerprints, ⟨hlength, hpaths⟩, hout⟩ := h
  cases hout
  constructor
  · obtain ⟨positions, hredacts⟩ := @redacts_walk codec filter fingerprints value "$"
    exact ⟨positions, hredacts.beside, hredacts.present, hredacts.replaced.symm,
      hredacts.subtree?_mark, hredacts.subtree?_frame, hredacts.paths⟩
  · obtain ⟨hvalue, hredacted⟩ := @walk_walk codec filter fingerprints value "$"
    let again := walk codec filter fingerprints (walk codec filter fingerprints value "$").value "$"
    refine ⟨again.redacted, again.untrusted, ?_⟩
    simp only [apply, except_bind_eq_ok, require_eq_ok, Unique.exists_iff]
    refine ⟨fingerprints, hfingerprints,
      ⟨hredacted.length_le.trans hlength, fun path hpath => hpaths path (hredacted.subset hpath)⟩, ?_⟩
    exact congrArg (fun value => Except.ok (value, again.redacted, again.untrusted)) hvalue

-- A sample response

def sampleRedactor : ResponseFilter := ⟨[], [fun text => text == "key"]⟩

theorem apply_sampleRedactor : ∃ untrusted,
    apply sampleFilterCodec sampleRedactor (.array [.string "key", .string "fine"]) [] =
      .ok (.array [.string redactedText, .string "fine"], ["$[0]"], untrusted) := by
  have hkey : Detected sampleFilterCodec sampleRedactor ∅ "key" := by decide
  have hfine : ¬Detected sampleFilterCodec sampleRedactor ∅ "fine" := by decide
  refine ⟨mentionsInstructions "key" || (mentionsInstructions "fine" || false), ?_⟩
  simp only [apply, except_bind_eq_ok, require_eq_ok, Unique.exists_iff]
  refine ⟨∅, rfl, ?_, ?_⟩
  · simp only [walk, walkItems, if_pos hkey, if_neg hfine]
    decide
  · simp only [walk, walkItems, if_pos hkey, if_neg hfine]
    rfl

/-- The positions of a concrete response. -/
theorem apply_redacts_sample : ∃ positions : List Position,
    positions.Pairwise Beside ∧
    Value.array [.string "[REDACTED]", .string "fine"] =
      positions.foldl (fun value p => value.replaceAt p (.string "[REDACTED]"))
        (.array [.string "key", .string "fine"]) := by
  obtain ⟨untrusted, happly⟩ := apply_sampleRedactor
  obtain ⟨⟨positions, hbeside, -, hout, -⟩, -⟩ := apply_redacts happly
  exact ⟨positions, hbeside, hout⟩

end ToolProxy.ResponseFilter

end AgentSphere
