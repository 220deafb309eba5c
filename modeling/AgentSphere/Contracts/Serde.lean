import AgentSphere.Contracts.Basic

/-!
# How values are written as JSON

A type is written as a JSON value and read from one. Records are objects with the names of their
fields, sequences and sets are arrays, and pairs are arrays of two. A map is an object whose names
are its keys, which only a text, a number or a truth value can be: writing a map with another key
fails.
-/

namespace AgentSphere

namespace Serde

structure Format (α : Type) where
  write : α → Option Value
  read : Value → Option α

variable {α β : Type}

def Format.Total (format : Format α) : Prop := ∀ a, ∃ value, format.write a = some value

def Format.Faithful (format : Format α) : Prop :=
  ∀ a value, format.write a = some value → format.read value = some a

/-- A `String`. -/
def text : Format String where
  write s := some (.string s)
  read
    | .string s => some s
    | _ => none

def enumeration (members : List α) (name : α → String) : Format α where
  write a := some (.string (name a))
  read
    | .string s => members.find? fun a => name a = s
    | _ => none

def Format.via (format : Format β) (out : α → β) (into : β → Option α) : Format α where
  write a := format.write (out a)
  read value := (format.read value).bind into

def pair (first : Format α) (second : Format β) : Format (α × β) where
  write entry := do
    let a ← first.write entry.1
    let b ← second.write entry.2
    some (.array [a, b])
  read
    | .array [a, b] => do
      let a ← first.read a
      let b ← second.read b
      some (a, b)
    | _ => none

/-- A `Vec`. -/
def list (format : Format α) : Format (List α) where
  write items := (items.mapM format.write).map .array
  read
    | .array items => items.mapM format.read
    | _ => none

/-- A `BTreeSet`. -/
def set [Ord α] [Std.TransOrd α] (format : Format α) : Format (BTreeSet α) :=
  (list format).via Std.ExtTreeSet.toList fun items => some (Std.ExtTreeSet.ofList items compare)

def memberName : Value → Option String
  | .string s => some s
  | .number n => some n.text
  | .bool b => some (if b then "true" else "false")
  | _ => none

/-- A `BTreeMap`. -/
def map {K V : Type} [Ord K] [Std.TransOrd K] (key : Format K) (format : Format V) :
    Format (BTreeMap K V) where
  write entries := (entries.toList.mapM fun entry : K × V => do
    let name ← (key.write entry.1).bind memberName
    let value ← format.write entry.2
    some (name, value)).map .object
  read
    | .object members => do
      let entries ← members.mapM fun member : String × Value => do
        let k ← key.read (.string member.1)
        let v ← format.read member.2
        some (k, v)
      some (Std.ExtTreeMap.ofList entries compare)
    | _ => none

def member (format : Format α) (members : List (String × Value)) (name : String) : Option α :=
  match members.filter fun member => member.1 = name with
  | [member] => format.read member.2
  | _ => none

-- Reading back

@[simp] theorem read_text (s : String) : text.read (.string s) = some s := rfl

theorem text_faithful : text.Faithful := by
  rintro s value hwrite
  obtain rfl := Option.some.inj hwrite
  rfl

theorem enumeration_faithful {members : List α} {name : α → String} (hall : ∀ a, a ∈ members)
    (hname : ∀ a b, name a = name b → a = b) : (enumeration members name).Faithful := by
  rintro a value hwrite
  obtain rfl := Option.some.inj hwrite
  change members.find? _ = some a
  cases hfind : members.find? fun b => decide (name b = name a) with
  | none => simpa using List.find?_eq_none.mp hfind a (hall a)
  | some b =>
    have hsame := List.find?_some hfind
    rw [hname b a (of_decide_eq_true hsame)]

theorem member_eq_some {format : Format α} {members : List (String × Value)} {name : String}
    {value : Value} {a : α} (hnames : (members.map Prod.fst).Nodup) (i : Nat)
    (hi : members[i]? = some (name, value)) (hread : format.read value = some a) :
    member format members name = some a := by
  have hmem : (name, value) ∈ members := List.mem_of_getElem? hi
  clear hi
  have honly : members.filter (fun member => member.1 = name) = [(name, value)] := by
    induction members with
    | nil => cases hmem
    | cons first members ih =>
      obtain ⟨hnew, hnames⟩ := List.nodup_cons.mp hnames
      obtain rfl | hlater := List.mem_cons.mp hmem
      · have hnone : members.filter (fun member => member.1 = name) = [] := by
          refine List.filter_eq_nil_iff.mpr fun member hmember => ?_
          rw [decide_eq_true_eq]
          rintro rfl
          exact hnew (List.mem_map.mpr ⟨member, hmember, rfl⟩)
        simp [hnone]
      · have hne : ¬ first.1 = name := by
          rintro rfl
          exact hnew (List.mem_map.mpr ⟨_, hlater, rfl⟩)
        simp [hne, ih hnames hlater]
  rw [member, honly]
  exact hread

theorem member_bind {format : Format α} {members : List (String × Value)} {name : String}
    {value : Value} {a : α} {f : α → Option β} {b : β} (hnames : (members.map Prod.fst).Nodup)
    (i : Nat) (hi : members[i]? = some (name, value)) (hread : format.read value = some a)
    (hrest : f a = some b) : (member format members name >>= f) = some b :=
  Option.bind_eq_some_iff.mpr ⟨a, member_eq_some hnames i hi hread, hrest⟩

theorem via_faithful {format : Format β} {out : α → β} {into : β → Option α}
    (h : format.Faithful) (hinto : ∀ a, into (out a) = some a) :
    (format.via out into).Faithful := by
  rintro a value hwrite
  change (format.read value).bind into = some a
  rw [h (out a) value hwrite, Option.bind_some, hinto]

theorem text_total : text.Total := fun _ => ⟨_, rfl⟩

theorem list_total {format : Format α} (h : format.Total) : (list format).Total := by
  intro items
  induction items with
  | nil => exact ⟨_, rfl⟩
  | cons item items ih =>
    obtain ⟨value, hvalue⟩ := h item
    obtain ⟨rest, hrest⟩ := ih
    obtain ⟨values, hvalues, -⟩ := Option.map_eq_some_iff.mp hrest
    refine ⟨.array (value :: values), ?_⟩
    simp [list, hvalue, hvalues]

theorem set_total [Ord α] [Std.TransOrd α] {format : Format α} (h : format.Total) :
    (set format).Total := fun s => list_total h s.toList

theorem mapM_read {format : Format α} (h : format.Faithful) {items : List α} {values : List Value}
    (hwrite : items.mapM format.write = some values) : values.mapM format.read = some items := by
  induction items generalizing values with
  | nil =>
    obtain rfl : [] = values := by simpa using hwrite
    rfl
  | cons item items ih =>
    rw [List.mapM_cons] at hwrite
    obtain ⟨value, hvalue, hwrite⟩ := Option.bind_eq_some_iff.mp hwrite
    obtain ⟨rest, hrest, hwrite⟩ := Option.bind_eq_some_iff.mp hwrite
    obtain rfl := Option.some.inj hwrite
    rw [List.mapM_cons, h item value hvalue, ih hrest]
    rfl

/-- **Sequences** are read back if their items are. -/
theorem list_faithful {format : Format α} (h : format.Faithful) : (list format).Faithful := by
  rintro items value hwrite
  obtain ⟨values, hvalues, rfl⟩ := Option.map_eq_some_iff.mp hwrite
  exact mapM_read h hvalues

theorem ofList_toList [Ord α] [Std.TransOrd α] [Std.LawfulEqOrd α] [DecidableEq α]
    (s : BTreeSet α) :
    Std.ExtTreeSet.ofList s.toList compare = s := by
  refine Std.ExtTreeSet.ext_mem fun a => ?_
  rw [Std.ExtTreeSet.mem_ofList, List.contains_iff_mem, Std.ExtTreeSet.mem_toList]

/-- **Sets** are read back if their members are. -/
theorem set_faithful [Ord α] [Std.TransOrd α] [Std.LawfulEqOrd α] [DecidableEq α]
    {format : Format α} (h : format.Faithful) : (set format).Faithful :=
  via_faithful (list_faithful h) fun s => by rw [ofList_toList]

theorem mapM_eq_none {f : α → Option β} {items : List α} {item : α} (hmem : item ∈ items)
    (h : f item = none) : items.mapM f = none := by
  induction items with
  | nil => cases hmem
  | cons first items ih =>
    rw [List.mapM_cons]
    cases hfirst : f first with
    | none => rfl
    | some b =>
      obtain rfl | hlater := List.mem_cons.mp hmem
      · cases hfirst.symm.trans h
      · rw [ih hlater]
        rfl

section Maps

variable {K V : Type} [Ord K] [Std.TransOrd K] {key : Format K} {format : Format V}

theorem write_map_empty : (map key format).write ∅ = some (.object []) := by
  have hnone : (∅ : BTreeMap K V).toList = [] := Std.ExtTreeMap.toList_eq_nil_iff.mpr rfl
  simp [map, hnone]

/-- **Keys**: a map that has a key which is no name cannot be written. -/
theorem write_map_eq_none [Std.LawfulEqOrd K] {entries : BTreeMap K V} {k : K} (hmem : k ∈ entries)
    (hkey : (key.write k).bind memberName = none) : (map key format).write entries = none := by
  have hentry : (k, entries[k]) ∈ entries.toList :=
    Std.ExtTreeMap.mem_toList_iff_getElem?_eq_some.mpr
      (Std.ExtTreeMap.getElem?_eq_some_getElem hmem)
  simp only [map, Option.map_eq_none_iff]
  refine mapM_eq_none hentry ?_
  simp [hkey]

end Maps

end Serde

end AgentSphere
