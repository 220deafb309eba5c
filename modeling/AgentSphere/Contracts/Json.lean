import Mathlib.Data.List.Sort

/-!
# JSON values

The untyped values that travel through the control plane. A number is the text it was read
from, since `serde_json` is built with `arbitrary_precision`. Object members are listed in key
order, which is how the map behind an object iterates.
-/

namespace AgentSphere

structure Number where
  text : String
  deriving DecidableEq, Repr

theorem eq_of_perm_of_keys {α β : Type} {l l' : List (α × β)} (hperm : l.Perm l')
    (hkeys : l.map Prod.fst = l'.map Prod.fst) (hnodup : (l.map Prod.fst).Nodup) : l = l' := by
  induction l generalizing l' with
  | nil => exact hperm.nil_eq
  | cons a l ih =>
    cases l' with
    | nil => cases hkeys
    | cons b l' =>
      obtain ⟨_, htail⟩ := List.cons.inj hkeys
      obtain ⟨hnew, hnodup⟩ := List.nodup_cons.mp hnodup
      -- the key of `a` stands at the head of both lists and nowhere else
      obtain rfl : a = b := by
        rcases List.mem_cons.mp (hperm.subset List.mem_cons_self) with hab | hmem
        · exact hab
        · exact absurd (htail ▸ List.mem_map_of_mem hmem) hnew
      rw [ih hperm.cons_inv htail hnodup]

inductive Value where
  | null
  | bool (b : Bool)
  | number (n : Number)
  | string (s : String)
  | array (items : List Value)
  | object (members : List (String × Value))
  deriving Repr

namespace Value

mutual

def decEq : (a b : Value) → Decidable (a = b)
  | .null, .null => isTrue rfl
  | .bool a, .bool b => decidable_of_iff (a = b) (by simp)
  | .number a, .number b => decidable_of_iff (a = b) (by simp)
  | .string a, .string b => decidable_of_iff (a = b) (by simp)
  | .array a, .array b => @decidable_of_iff _ (a = b) (by simp) (decEqItems a b)
  | .object a, .object b => @decidable_of_iff _ (a = b) (by simp) (decEqMembers a b)
  | .null, .bool _ | .null, .number _ | .null, .string _ | .null, .array _ | .null, .object _
  | .bool _, .null | .bool _, .number _ | .bool _, .string _ | .bool _, .array _
  | .bool _, .object _ | .number _, .null | .number _, .bool _ | .number _, .string _
  | .number _, .array _ | .number _, .object _ | .string _, .null | .string _, .bool _
  | .string _, .number _ | .string _, .array _ | .string _, .object _ | .array _, .null
  | .array _, .bool _ | .array _, .number _ | .array _, .string _ | .array _, .object _
  | .object _, .null | .object _, .bool _ | .object _, .number _ | .object _, .string _
  | .object _, .array _ => isFalse (by simp)

def decEqItems : (a b : List Value) → Decidable (a = b)
  | [], [] => isTrue rfl
  | [], _ :: _ | _ :: _, [] => isFalse (by simp)
  | a :: as, b :: bs =>
    match decEq a b, decEqItems as bs with
    | isTrue h, isTrue hs => isTrue (by rw [h, hs])
    | isFalse h, _ => isFalse (fun e => h (List.cons.inj e).1)
    | _, isFalse hs => isFalse (fun e => hs (List.cons.inj e).2)

def decEqMembers : (a b : List (String × Value)) → Decidable (a = b)
  | [], [] => isTrue rfl
  | [], _ :: _ | _ :: _, [] => isFalse (by simp)
  | (k, a) :: as, (l, b) :: bs =>
    match String.decEq k l, decEq a b, decEqMembers as bs with
    | isTrue hk, isTrue h, isTrue hs => isTrue (by rw [hk, h, hs])
    | isFalse hk, _, _ => isFalse (fun e => hk (Prod.mk.inj (List.cons.inj e).1).1)
    | _, isFalse h, _ => isFalse (fun e => h (Prod.mk.inj (List.cons.inj e).1).2)
    | _, _, isFalse hs => isFalse (fun e => hs (List.cons.inj e).2)

end

instance : DecidableEq Value := decEq

mutual

/-- The value with the members of every object in key order, as a `Map` holds them. -/
def ordered : Value → Value
  | .array items => .array (orderedItems items)
  | .object members => .object ((orderedMembers members).insertionSort fun a b => a.1 ≤ b.1)
  | .null => .null
  | .bool b => .bool b
  | .number n => .number n
  | .string s => .string s

def orderedItems : List Value → List Value
  | [] => []
  | item :: items => item.ordered :: orderedItems items

def orderedMembers : List (String × Value) → List (String × Value)
  | [] => []
  | (key, value) :: members => (key, value.ordered) :: orderedMembers members

end

theorem orderedItems_eq (items : List Value) : orderedItems items = items.map ordered := by
  induction items with
  | nil => rfl
  | cons item items ih => rw [orderedItems, ih, List.map_cons]

theorem orderedMembers_eq (members : List (String × Value)) :
    orderedMembers members = members.map fun member => (member.1, member.2.ordered) := by
  induction members with
  | nil => rfl
  | cons member members ih => rw [orderedMembers, ih, List.map_cons]

theorem ordered_object_inj {members members' : List (String × Value)}
    (hkeys : members.map Prod.fst = members'.map Prod.fst)
    (hnodup : (members.map Prod.fst).Nodup) :
    (object members).ordered = (object members').ordered ↔
      members.map (fun member => member.2.ordered) =
        members'.map fun member => member.2.ordered := by
  have hkeys' : (orderedMembers members).map Prod.fst = (orderedMembers members').map Prod.fst := by
    simpa [orderedMembers_eq, Function.comp_def] using hkeys
  have hnodup' : ((orderedMembers members).map Prod.fst).Nodup := by
    simpa [orderedMembers_eq, Function.comp_def] using hnodup
  have hvalues : ∀ l : List (String × Value),
      (orderedMembers l).map Prod.snd = l.map fun member => member.2.ordered := fun l => by
    simp [orderedMembers_eq, Function.comp_def]
  rw [ordered, ordered, ← hvalues, ← hvalues]
  constructor
  · intro h
    have hperm : (orderedMembers members).Perm (orderedMembers members') :=
      (List.perm_insertionSort (fun a b => a.1 ≤ b.1) _).symm.trans
        ((List.Perm.of_eq (object.inj h)).trans (List.perm_insertionSort _ _))
    rw [eq_of_perm_of_keys hperm hkeys' hnodup']
  · intro h
    have hsame : orderedMembers members = orderedMembers members' :=
      (List.zip_of_prod hkeys' h).trans (List.zip_of_prod rfl rfl).symm
    rw [hsame]

def asStr : Value → Option String
  | .string s => some s
  | _ => none

end Value

end AgentSphere
