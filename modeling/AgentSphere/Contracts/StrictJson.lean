import AgentSphere.Contracts.Basic
import AgentSphere.Lib.Program

/-!
# Strict JSON

Two services read JSON through a visitor of their own, which bounds what it accepts and refuses
repeated members. Both are driven by `serde_json`, which reads the text from the front: an error
of syntax is met where it stands, after everything before it was visited. A text is therefore a
tree in which a value may be malformed and a container may break off.

`serde_json` is built with `arbitrary_precision`. It hands integers of 64 bits to `visit_u64` and
`visit_i64`, and any other number to `visit_map`, as an object with one member of a private name
that holds the text of the number.
-/

namespace AgentSphere

open Concurrency

inductive JsonTree where
  | null
  | bool (b : Bool)
  | number (token : String)
  | string (s : String)
  /-- The items that were read, and whether the array was closed after them. -/
  | array (items : List JsonTree) (closed : Bool)
  /-- The members that were read, and whether the object was closed after them. -/
  | object (members : List (String × JsonTree)) (closed : Bool)
  | malformed

def decimal (digits : List Char) : Nat :=
  digits.foldl (fun n c => 10 * n + (c.toNat - '0'.toNat)) 0

def integerNumber (token : String) : Option Number :=
  match token.toList with
  | '-' :: digits =>
    if digits ≠ [] ∧ digits.all Char.isDigit ∧ decimal digits ≤ 2 ^ 63 then
      some ⟨toString (-(decimal digits : Int))⟩
    else none
  | digits =>
    if digits ≠ [] ∧ digits.all Char.isDigit ∧ decimal digits < 2 ^ 64 then
      some ⟨toString (decimal digits)⟩
    else none

def byKey (members : List (String × Value)) : List (String × Value) :=
  members.insertionSort fun a b => a.1 ≤ b.1

def numberKey : String := "$serde_json::private::Number"

namespace JsonTree

mutual

def value : JsonTree → Value
  | .null => .null
  | .bool b => .bool b
  | .number token => .number ((integerNumber token).getD ⟨token⟩)
  | .string s => .string s
  | .array items _ => .array (itemValues items)
  | .object members _ => .object (byKey (memberValues members))
  | .malformed => .null

def itemValues : List JsonTree → List Value
  | [] => []
  | item :: items => item.value :: itemValues items

def memberValues : List (String × JsonTree) → List (String × Value)
  | [] => []
  | (key, tree) :: members => (key, tree.value) :: memberValues members

end

mutual

def taken : JsonTree → Value
  | .null => .null
  | .bool b => .bool b
  | .number token =>
    match integerNumber token with
    | some n => .number n
    | none => .object [(numberKey, .string token)]
  | .string s => .string s
  | .array items _ => .array (takenItems items)
  | .object members _ => .object (byKey (takenMembers members))
  | .malformed => .null

def takenItems : List JsonTree → List Value
  | [] => []
  | item :: items => item.taken :: takenItems items

def takenMembers : List (String × JsonTree) → List (String × Value)
  | [] => []
  | (key, tree) :: members => (key, tree.taken) :: takenMembers members

end

mutual

def nodes : JsonTree → Nat → List (Nat × JsonTree)
  | .null, depth => [(depth, .null)]
  | .bool b, depth => [(depth, .bool b)]
  | .number token, depth => [(depth, .number token)]
  | .string s, depth => [(depth, .string s)]
  | .array items closed, depth => (depth, .array items closed) :: itemNodes items (depth + 1)
  | .object members closed, depth =>
    (depth, .object members closed) :: memberNodes members (depth + 1)
  | .malformed, depth => [(depth, .malformed)]

def itemNodes : List JsonTree → Nat → List (Nat × JsonTree)
  | [], _ => []
  | item :: items, depth => item.nodes depth ++ itemNodes items depth

def memberNodes : List (String × JsonTree) → Nat → List (Nat × JsonTree)
  | [], _ => []
  | (_, tree) :: members, depth => tree.nodes depth ++ memberNodes members depth

end

end JsonTree

structure StrictJsonLimits where
  maximumDepth : Nat
  maximumArrayItems : Nat
  maximumObjectKeys : Nat
  maximumStringBytes : Nat

structure Checks (ε : Type) where
  limits : StrictJsonLimits
  depthError : ε
  arrayError : ε
  stringError : ε
  /-- What `serde_json` itself fails with. -/
  malformed : ε
  /-- The checks of a key, given the members before it. -/
  checkKey : List (String × Value) → String → Except ε Unit

section Visit

variable {ε : Type} (checks : Checks ε)

def Checks.seed (depth : Nat) : Except ε Unit :=
  require (depth ≤ checks.limits.maximumDepth) checks.depthError

def Checks.visitString (s : String) : Except ε Value := do
  require (s.utf8ByteSize ≤ checks.limits.maximumStringBytes) checks.stringError
  pure (.string s)

/-- A number beyond 64 bits, through `visit_map`. -/
def Checks.visitNumber (token : String) (depth : Nat) : Except ε Value := do
  checks.checkKey [] numberKey
  checks.seed (depth + 1)
  let text ← checks.visitString token
  pure (.object (byKey [(numberKey, text)]))

/-- `serde_json` enters at most 127 containers. -/
def Checks.enter (depth : Nat) : Except ε Unit := require (depth + 1 < 128) checks.malformed

def Checks.leave (closed : Bool) (value : Value) : Except ε Value :=
  if closed then .ok value else .error checks.malformed

mutual

/-- `StrictValueSeed::deserialize`, at a depth. -/
def visit : JsonTree → Nat → Except ε Value
  | .null, depth => do checks.seed depth; pure .null
  | .bool b, depth => do checks.seed depth; pure (.bool b)
  | .number token, depth => do
    checks.seed depth
    match integerNumber token with
    | some n => pure (.number n)
    | none => checks.visitNumber token depth
  | .string s, depth => do checks.seed depth; checks.visitString s
  | .array items closed, depth => do
    checks.seed depth
    checks.enter depth
    visitSeq items closed (depth + 1) []
  | .object members closed, depth => do
    checks.seed depth
    checks.enter depth
    visitMap members closed (depth + 1) []
  | .malformed, depth => do checks.seed depth; .error checks.malformed

/-- `visit_seq`, after some values: an item is read before the number of items is bounded. -/
def visitSeq : List JsonTree → Bool → Nat → List Value → Except ε Value
  | [], closed, _, values => checks.leave closed (.array values)
  | item :: items, closed, depth, values => do
    let value ← visit item depth
    require (values.length < checks.limits.maximumArrayItems) checks.arrayError
    visitSeq items closed depth (values ++ [value])

/-- `visit_map`, after some members. -/
def visitMap : List (String × JsonTree) → Bool → Nat → List (String × Value) → Except ε Value
  | [], closed, _, values => checks.leave closed (.object (byKey values))
  | (key, tree) :: members, closed, depth, values => do
    checks.checkKey values key
    let value ← visit tree depth
    visitMap members closed depth (values ++ [(key, value)])

end

end Visit

-- What is accepted

def NodeOk (limits : StrictJsonLimits) : Nat × JsonTree → Prop
  | (depth, .array items closed) =>
    depth ≤ limits.maximumDepth ∧ depth + 1 < 128 ∧ closed = true ∧
      items.length ≤ limits.maximumArrayItems
  | (depth, .object members closed) =>
    depth ≤ limits.maximumDepth ∧ depth + 1 < 128 ∧ closed = true ∧
      members.length ≤ limits.maximumObjectKeys ∧ (members.map Prod.fst).Nodup ∧
      ∀ key ∈ members.map Prod.fst, key.utf8ByteSize ≤ limits.maximumStringBytes
  | (depth, .string s) =>
    depth ≤ limits.maximumDepth ∧ s.utf8ByteSize ≤ limits.maximumStringBytes
  | (_, .malformed) => False
  | (depth, .null) | (depth, .bool _) | (depth, .number _) => depth ≤ limits.maximumDepth

def NumberFits (limits : StrictJsonLimits) : Nat × JsonTree → Prop
  | (depth, .number token) => integerNumber token = none →
    numberKey.utf8ByteSize ≤ limits.maximumStringBytes ∧ 0 < limits.maximumObjectKeys ∧
      depth + 1 ≤ limits.maximumDepth ∧ token.utf8ByteSize ≤ limits.maximumStringBytes
  | _ => True

section Accepted

variable {ε : Type} {checks : Checks ε}

/-- The checks of a key are those of its length, of the number of members and of repetitions, in
any order. -/
def Checks.Keyed (checks : Checks ε) : Prop :=
  ∀ values key, checks.checkKey values key = .ok () ↔
    key.utf8ByteSize ≤ checks.limits.maximumStringBytes ∧
      values.length < checks.limits.maximumObjectKeys ∧ key ∉ values.map Prod.fst

theorem pure_eq_ok {α : Type} {a b : α} : (pure a : Except ε α) = .ok b ↔ a = b := by
  simp [pure, Except.pure]

theorem Checks.leave_eq_ok {closed : Bool} {value v : Value} :
    checks.leave closed value = .ok v ↔ closed = true ∧ value = v := by
  unfold Checks.leave
  cases closed with
  | false => simp
  | true => simp

theorem Checks.visitNumber_eq_ok (hkeys : checks.Keyed) {token : String} {depth : Nat}
    {v : Value} :
    checks.visitNumber token depth = .ok v ↔
      (numberKey.utf8ByteSize ≤ checks.limits.maximumStringBytes ∧
        0 < checks.limits.maximumObjectKeys ∧ depth + 1 ≤ checks.limits.maximumDepth ∧
        token.utf8ByteSize ≤ checks.limits.maximumStringBytes) ∧
      v = .object [(numberKey, .string token)] := by
  have hkey := hkeys [] numberKey
  simp only [List.length_nil, List.map_nil, List.not_mem_nil, not_false_iff, and_true] at hkey
  simp only [Checks.visitNumber, Checks.visitString, Checks.seed, except_bind_eq_ok, require_eq_ok,
    pure_eq_ok, byKey, List.insertionSort, List.foldr, List.orderedInsert]
  constructor
  · rintro ⟨_, hchecked, _, hdepth, _, ⟨_, hsize, rfl⟩, rfl⟩
    obtain ⟨hname, hroom⟩ := hkey.mp hchecked
    exact ⟨⟨hname, hroom, hdepth, hsize⟩, rfl⟩
  · rintro ⟨⟨hname, hroom, hdepth, hsize⟩, rfl⟩
    exact ⟨(), hkey.mpr ⟨hname, hroom⟩, (), hdepth, _, ⟨(), hsize, rfl⟩, rfl⟩

def NodesOk (limits : StrictJsonLimits) (nodes : List (Nat × JsonTree)) : Prop :=
  ∀ node ∈ nodes, NodeOk limits node ∧ NumberFits limits node

theorem nodesOk_nil {limits : StrictJsonLimits} : NodesOk limits [] := by
  intro node hnode
  cases hnode

theorem nodesOk_cons {limits : StrictJsonLimits} {node : Nat × JsonTree}
    {nodes : List (Nat × JsonTree)} :
    NodesOk limits (node :: nodes) ↔
      NodeOk limits node ∧ NumberFits limits node ∧ NodesOk limits nodes := by
  rw [NodesOk, List.forall_mem_cons, and_assoc]
  rfl

theorem nodesOk_append {limits : StrictJsonLimits} {nodes nodes' : List (Nat × JsonTree)} :
    NodesOk limits (nodes ++ nodes') ↔ NodesOk limits nodes ∧ NodesOk limits nodes' := by
  rw [NodesOk, List.forall_mem_append]
  rfl

mutual

theorem visit_eq_ok (hkeys : checks.Keyed) : ∀ (tree : JsonTree) (depth : Nat) (v : Value),
    visit checks tree depth = .ok v ↔
      NodesOk checks.limits (tree.nodes depth) ∧ tree.taken = v
  | .null, depth, v => by
    simp only [visit, except_bind_eq_ok, Checks.seed, require_eq_ok, pure_eq_ok, JsonTree.nodes,
      JsonTree.taken, nodesOk_cons, nodesOk_nil, NodeOk, NumberFits, exists_const, and_true]
  | .bool b, depth, v => by
    simp only [visit, except_bind_eq_ok, Checks.seed, require_eq_ok, pure_eq_ok, JsonTree.nodes,
      JsonTree.taken, nodesOk_cons, nodesOk_nil, NodeOk, NumberFits, exists_const, and_true]
  | .string s, depth, v => by
    simp only [visit, except_bind_eq_ok, Checks.seed, Checks.visitString, require_eq_ok,
      pure_eq_ok, JsonTree.nodes, JsonTree.taken, nodesOk_cons, nodesOk_nil, NodeOk, NumberFits,
      exists_const, and_true, and_assoc]
  | .malformed, depth, v => by
    simp only [visit, except_bind_eq_ok, reduceCtorEq, and_false, exists_false, JsonTree.nodes,
      nodesOk_cons, NodeOk, false_and]
  | .number token, depth, v => by
    cases hinteger : integerNumber token with
    | some n =>
      simp only [visit, except_bind_eq_ok, Checks.seed, require_eq_ok, pure_eq_ok, JsonTree.nodes,
        JsonTree.taken, nodesOk_cons, nodesOk_nil, NodeOk, NumberFits, exists_const, and_true,
        hinteger, reduceCtorEq, false_implies]
    | none =>
      simp only [visit, except_bind_eq_ok, Checks.seed, require_eq_ok, JsonTree.nodes,
        JsonTree.taken, nodesOk_cons, nodesOk_nil, NodeOk, NumberFits, exists_const, and_true,
        hinteger, Checks.visitNumber_eq_ok hkeys, true_implies, and_assoc, @eq_comm _ v]
  | .array items closed, depth, v => by
    simp only [visit, except_bind_eq_ok, Checks.seed, Checks.enter, require_eq_ok,
      JsonTree.nodes, JsonTree.taken, nodesOk_cons, NodeOk, NumberFits, true_and,
      visitSeq_eq_ok hkeys items closed (depth + 1) [] v (Nat.zero_le _), List.length_nil,
      Nat.zero_add, List.nil_append, exists_const, and_assoc]
  | .object members closed, depth, v => by
    simp only [visit, except_bind_eq_ok, Checks.seed, Checks.enter, require_eq_ok,
      JsonTree.nodes, JsonTree.taken, nodesOk_cons, NodeOk, NumberFits, true_and,
      visitMap_eq_ok hkeys members closed (depth + 1) [] v (Nat.zero_le _) List.nodup_nil,
      List.length_nil, Nat.zero_add, List.map_nil, List.nil_append, exists_const, and_assoc]

theorem visitSeq_eq_ok (hkeys : checks.Keyed) : ∀ (items : List JsonTree) (closed : Bool)
    (depth : Nat) (values : List Value) (v : Value),
    values.length ≤ checks.limits.maximumArrayItems →
    (visitSeq checks items closed depth values = .ok v ↔
      closed = true ∧ values.length + items.length ≤ checks.limits.maximumArrayItems ∧
        NodesOk checks.limits (JsonTree.itemNodes items depth) ∧
        .array (values ++ JsonTree.takenItems items) = v)
  | [], closed, depth, values, v, hlength => by
    simp [visitSeq, Checks.leave_eq_ok, JsonTree.itemNodes, JsonTree.takenItems, nodesOk_nil,
      hlength]
  | item :: items, closed, depth, values, v, hlength => by
    simp only [visitSeq, except_bind_eq_ok, require_eq_ok, visit_eq_ok hkeys item depth,
      JsonTree.itemNodes, JsonTree.takenItems, nodesOk_append, List.length_cons]
    constructor
    · rintro ⟨value, ⟨hitem, rfl⟩, _, hroom, hrest⟩
      obtain ⟨hclosed, hbound, hnodes, rfl⟩ :=
        (visitSeq_eq_ok hkeys items closed depth _ v
          (by rw [List.length_append]; exact hroom)).mp hrest
      rw [List.length_append, List.length_singleton] at hbound
      refine ⟨hclosed, by omega, ⟨hitem, hnodes⟩, ?_⟩
      rw [List.append_assoc, List.singleton_append]
    · rintro ⟨hclosed, hbound, ⟨hitem, hnodes⟩, rfl⟩
      have hroom : values.length < checks.limits.maximumArrayItems := by omega
      refine ⟨item.taken, ⟨hitem, rfl⟩, (), hroom, ?_⟩
      refine (visitSeq_eq_ok hkeys items closed depth _ _
        (by rw [List.length_append]; exact hroom)).mpr ⟨hclosed, ?_, hnodes, ?_⟩
      · rw [List.length_append, List.length_singleton]
        omega
      · rw [List.append_assoc, List.singleton_append]

theorem visitMap_eq_ok (hkeys : checks.Keyed) : ∀ (members : List (String × JsonTree))
    (closed : Bool) (depth : Nat) (values : List (String × Value)) (v : Value),
    values.length ≤ checks.limits.maximumObjectKeys → (values.map Prod.fst).Nodup →
    (visitMap checks members closed depth values = .ok v ↔
      closed = true ∧ values.length + members.length ≤ checks.limits.maximumObjectKeys ∧
        (values.map Prod.fst ++ members.map Prod.fst).Nodup ∧
        (∀ key ∈ members.map Prod.fst, key.utf8ByteSize ≤ checks.limits.maximumStringBytes) ∧
        NodesOk checks.limits (JsonTree.memberNodes members depth) ∧
        .object (byKey (values ++ JsonTree.takenMembers members)) = v)
  | [], closed, depth, values, v, hlength, hnodup => by
    simp [visitMap, Checks.leave_eq_ok, JsonTree.memberNodes, JsonTree.takenMembers, nodesOk_nil,
      hlength, hnodup]
  | (key, tree) :: members, closed, depth, values, v, hlength, hnodup => by
    simp only [visitMap, except_bind_eq_ok, visit_eq_ok hkeys tree depth, hkeys values key,
      JsonTree.memberNodes, JsonTree.takenMembers, nodesOk_append, List.length_cons,
      List.map_cons, List.forall_mem_cons]
    have hgrown : ∀ value : Value, key ∉ values.map Prod.fst →
        ((values ++ [(key, value)]).map Prod.fst).Nodup := by
      intro value hnew
      rw [List.map_append, List.map_singleton]
      exact List.nodup_append.mpr ⟨hnodup, List.nodup_singleton _, by
        rintro a ha b hb rfl
        obtain rfl : a = key := List.mem_singleton.mp hb
        exact hnew ha⟩
    constructor
    · rintro ⟨_, ⟨hsize, hroom, hnew⟩, value, ⟨htree, rfl⟩, hrest⟩
      obtain ⟨hclosed, hbound, hdistinct, hsizes, hnodes, rfl⟩ :=
        (visitMap_eq_ok hkeys members closed depth _ v (by rw [List.length_append]; exact hroom)
          (hgrown _ hnew)).mp hrest
      rw [List.length_append, List.length_singleton] at hbound
      rw [List.map_append, List.map_singleton, List.append_assoc, List.singleton_append]
        at hdistinct
      refine ⟨hclosed, by omega, hdistinct, ⟨hsize, hsizes⟩, ⟨htree, hnodes⟩, ?_⟩
      rw [List.append_assoc, List.singleton_append]
    · rintro ⟨hclosed, hbound, hdistinct, ⟨hsize, hsizes⟩, ⟨htree, hnodes⟩, rfl⟩
      have hroom : values.length < checks.limits.maximumObjectKeys := by omega
      have hnew : key ∉ values.map Prod.fst := fun hmem =>
        (List.nodup_append.mp hdistinct).2.2 key hmem key List.mem_cons_self rfl
      refine ⟨(), ⟨hsize, hroom, hnew⟩, tree.taken, ⟨htree, rfl⟩, ?_⟩
      refine (visitMap_eq_ok hkeys members closed depth _ _
        (by rw [List.length_append]; exact hroom) (hgrown _ hnew)).mpr
        ⟨hclosed, ?_, ?_, hsizes, hnodes, ?_⟩
      · rw [List.length_append, List.length_singleton]
        omega
      · rw [List.map_append, List.map_singleton, List.append_assoc, List.singleton_append]
        exact hdistinct
      · rw [List.append_assoc, List.singleton_append]

end

end Accepted

section Values

variable {limits : StrictJsonLimits}

def NodeInteger : Nat × JsonTree → Prop
  | (_, .number token) => (integerNumber token).isSome = true
  | _ => True

theorem map_fst_takenMembers (members : List (String × JsonTree)) :
    (JsonTree.takenMembers members).map Prod.fst = members.map Prod.fst := by
  induction members with
  | nil => rfl
  | cons member members ih => rw [JsonTree.takenMembers, List.map_cons, ih, List.map_cons]

theorem map_fst_memberValues (members : List (String × JsonTree)) :
    (JsonTree.memberValues members).map Prod.fst = members.map Prod.fst := by
  induction members with
  | nil => rfl
  | cons member members ih => rw [JsonTree.memberValues, List.map_cons, ih, List.map_cons]

theorem perm_byKey (members : List (String × Value)) : (byKey members).Perm members :=
  List.perm_insertionSort (fun a b : String × Value => a.1 ≤ b.1) members

theorem byKey_inj {members members' : List (String × Value)}
    (hkeys : members.map Prod.fst = members'.map Prod.fst)
    (hnodup : (members.map Prod.fst).Nodup) :
    byKey members = byKey members' ↔ members = members' := by
  constructor
  · intro h
    have hperm : members.Perm members' :=
      (perm_byKey members).symm.trans ((List.Perm.of_eq h).trans (perm_byKey members'))
    exact eq_of_perm_of_keys hperm hkeys hnodup
  · rintro rfl
    rfl

mutual

theorem taken_eq_value_iff : ∀ (tree : JsonTree) (depth : Nat),
    (∀ node ∈ tree.nodes depth, NodeOk limits node) →
    (tree.taken = tree.value ↔ ∀ node ∈ tree.nodes depth, NodeInteger node)
  | .null, depth, _ => by
    simp [JsonTree.taken, JsonTree.value, JsonTree.nodes, NodeInteger]
  | .bool b, depth, _ => by
    simp [JsonTree.taken, JsonTree.value, JsonTree.nodes, NodeInteger]
  | .string s, depth, _ => by
    simp [JsonTree.taken, JsonTree.value, JsonTree.nodes, NodeInteger]
  | .malformed, depth, hok => by
    exact absurd (hok (depth, .malformed) (by simp [JsonTree.nodes])) id
  | .number token, depth, _ => by
    cases hinteger : integerNumber token with
    | some n => simp [JsonTree.taken, JsonTree.value, JsonTree.nodes, NodeInteger, hinteger]
    | none => simp [JsonTree.taken, JsonTree.value, JsonTree.nodes, NodeInteger, hinteger]
  | .array items closed, depth, hok => by
    rw [JsonTree.nodes, List.forall_mem_cons] at hok
    rw [JsonTree.taken, JsonTree.value, JsonTree.nodes, List.forall_mem_cons, Value.array.injEq,
      takenItems_eq_iff items (depth + 1) hok.2]
    exact ⟨fun h => ⟨trivial, h⟩, And.right⟩
  | .object members closed, depth, hok => by
    rw [JsonTree.nodes, List.forall_mem_cons] at hok
    obtain ⟨⟨-, -, -, -, hnodup, -⟩, hrest⟩ := hok
    rw [JsonTree.taken, JsonTree.value, JsonTree.nodes, List.forall_mem_cons, Value.object.injEq,
      byKey_inj (by rw [map_fst_takenMembers, map_fst_memberValues])
        (by rw [map_fst_takenMembers]; exact hnodup),
      takenMembers_eq_iff members (depth + 1) hrest]
    exact ⟨fun h => ⟨trivial, h⟩, And.right⟩

theorem takenItems_eq_iff : ∀ (items : List JsonTree) (depth : Nat),
    (∀ node ∈ JsonTree.itemNodes items depth, NodeOk limits node) →
    (JsonTree.takenItems items = JsonTree.itemValues items ↔
      ∀ node ∈ JsonTree.itemNodes items depth, NodeInteger node)
  | [], depth, _ => by simp [JsonTree.takenItems, JsonTree.itemValues, JsonTree.itemNodes]
  | item :: items, depth, hok => by
    rw [JsonTree.itemNodes, List.forall_mem_append] at hok
    rw [JsonTree.takenItems, JsonTree.itemValues, JsonTree.itemNodes, List.forall_mem_append,
      List.cons.injEq, taken_eq_value_iff item depth hok.1, takenItems_eq_iff items depth hok.2]

theorem takenMembers_eq_iff : ∀ (members : List (String × JsonTree)) (depth : Nat),
    (∀ node ∈ JsonTree.memberNodes members depth, NodeOk limits node) →
    (JsonTree.takenMembers members = JsonTree.memberValues members ↔
      ∀ node ∈ JsonTree.memberNodes members depth, NodeInteger node)
  | [], depth, _ => by simp [JsonTree.takenMembers, JsonTree.memberValues, JsonTree.memberNodes]
  | (key, tree) :: members, depth, hok => by
    rw [JsonTree.memberNodes, List.forall_mem_append] at hok
    rw [JsonTree.takenMembers, JsonTree.memberValues, JsonTree.memberNodes, List.forall_mem_append,
      List.cons.injEq, Prod.mk.injEq, taken_eq_value_iff tree depth hok.1,
      takenMembers_eq_iff members depth hok.2, eq_self_iff_true, true_and]

end

end Values

end AgentSphere
