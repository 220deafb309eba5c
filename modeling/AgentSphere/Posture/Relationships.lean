import AgentSphere.Lib.BreadthFirst
import AgentSphere.Posture.Assets
import Mathlib.Data.Set.Card

/-!
# Relationships of agents

Relationships are the edges of a graph that all tenants share. A query collects those of one tenant
around a node, layer by layer in the order of their keys, and stops in the middle of a layer when it
has as many as it may return.
-/

namespace AgentSphere.Posture

open BreadthFirst hiding graph

inductive RelationshipKind where
  | usesTool
  | usesPack
  | owns
  | sponsoredBy
  | observedAt
  | delegatesTo
  deriving DecidableEq, Repr

structure RelationshipEdge where
  schemaVersion : String
  tenantId : TenantId
  edgeId : String
  fromNode : String
  toNode : String
  kind : RelationshipKind
  evidenceDigest : String
  deriving DecidableEq

/-- `is_sha256` -/
def isSha256 (value : String) : Bool :=
  value.utf8ByteSize == 64 && value.toList.all fun c =>
    c.isDigit || ('a' ≤ c && c ≤ 'f') || ('A' ≤ c && c ≤ 'F')

def RelationshipEdge.Valid (edge : RelationshipEdge) : Prop :=
  edge.schemaVersion = agentRegistrySchemaVersion ∧ edge.edgeId ≠ "" ∧ edge.fromNode ≠ "" ∧
    edge.toNode ≠ "" ∧ edge.fromNode ≠ edge.toNode ∧ isSha256 edge.evidenceDigest = true

instance (edge : RelationshipEdge) : Decidable edge.Valid := inferInstanceAs (Decidable (_ ∧ _))

structure RelationshipGraph where
  maximumEdges : Nat
  edges : BTreeMap (TenantId × String) RelationshipEdge
  bounded : maximumEdges ≠ 0
  keyed : ∀ {key : TenantId × String} {edge : RelationshipEdge}, edges[key]? = some edge →
    key = (edge.tenantId, edge.edgeId)
  valid : ∀ {key : TenantId × String} {edge : RelationshipEdge}, edges[key]? = some edge →
    edge.Valid

namespace RelationshipGraph

def new (maximumEdges : Nat) : Except RegistryError RelationshipGraph :=
  if h : maximumEdges = 0 then .error .configurationInvalid
  else .ok {
    maximumEdges
    edges := ∅
    bounded := h
    keyed := fun h => by simp at h
    valid := fun h => by simp at h }

def add (graph : RelationshipGraph) (edge : RelationshipEdge) :
    Except RegistryError RelationshipGraph :=
  if hvalid : edge.Valid then
    match graph.edges[(edge.tenantId, edge.edgeId)]? with
    | some existing => if existing = edge then .ok graph else .error .registrationConflict
    | none =>
      if graph.maximumEdges ≤ graph.edges.size then .error .capacityExceeded
      else .ok { graph with
        edges := graph.edges.insert (edge.tenantId, edge.edgeId) edge
        keyed := fun {key other} h => by
          rw [BTreeMap.getElem?_insert_ite] at h
          split_ifs at h with hkey
          · cases h
            exact hkey.symm
          · exact graph.keyed h
        valid := fun {key other} h => by
          rw [BTreeMap.getElem?_insert_ite] at h
          split_ifs at h
          · cases h
            exact hvalid
          · exact graph.valid h }
  else .error .relationshipInvalid

structure Round where
  visited : BTreeSet String
  next : BTreeSet String
  result : List RelationshipEdge

def Round.mark (round : Round) (node : String) : Round :=
  if node ∈ round.visited then round
  else { round with visited := round.visited.insert node, next := round.next.insert node }

def Round.keep (round : Round) (edge : RelationshipEdge) : Round :=
  if round.result.any (·.edgeId == edge.edgeId) then round
  else { round with result := round.result ++ [edge] }

def visit (limit : Nat) (round : Round) (edge : RelationshipEdge) :
    Except (List RelationshipEdge) Round :=
  if round.result.length = limit then .error round.result
  else .ok (((round.keep edge).mark edge.fromNode).mark edge.toNode)

def atFrontier (graph : RelationshipGraph) (tenant : TenantId) (frontier : BTreeSet String) :
    List RelationshipEdge :=
  (graph.edges.toList.map Prod.snd).filter fun edge =>
    edge.tenantId = tenant ∧ (edge.fromNode ∈ frontier ∨ edge.toNode ∈ frontier)

def rounds (graph : RelationshipGraph) (tenant : TenantId) (limit : Nat) :
    Nat → BTreeSet String → BTreeSet String → List RelationshipEdge → List RelationshipEdge
  | 0, _, _, result => result
  | depth + 1, frontier, visited, result =>
    match (graph.atFrontier tenant frontier).foldlM (visit limit) ⟨visited, ∅, result⟩ with
    | .error result => result
    | .ok round =>
      if round.next.isEmpty then round.result
      else graph.rounds tenant limit depth round.next round.visited round.result

def query (graph : RelationshipGraph) (tenant : TenantId) (root : String)
    (maximumDepth limit : Nat) : Except RegistryError (List RelationshipEdge) :=
  if root = "" ∨ maximumDepth = 0 ∨ 5 < maximumDepth ∨ limit = 0 ∨ 100 < limit then
    .error .queryDenied
  else
    let frontier := (∅ : BTreeSet String).insert root
    .ok (graph.rounds tenant limit maximumDepth frontier frontier [])

-- The edges of a tenant

def ends (edge : RelationshipEdge) : String × String := (edge.fromNode, edge.toNode)

def edgesOf (graph : RelationshipGraph) (tenant : TenantId) : Set RelationshipEdge :=
  {edge | edge.tenantId = tenant ∧ ∃ key : TenantId × String, graph.edges[key]? = some edge}

def around (graph : RelationshipGraph) (tenant : TenantId) (root : String) (depth : Nat) :
    Set RelationshipEdge := within ends (graph.edgesOf tenant) root depth

variable {graph : RelationshipGraph} {tenant : TenantId} {root node v : String}
  {limit depth : Nat} {frontier visited : BTreeSet String} {start round after : Round}
  {edge e e' : RelationshipEdge} {seen result : List RelationshipEdge}

theorem eq_of_edgeId (h : e ∈ graph.edgesOf tenant) (h' : e' ∈ graph.edgesOf tenant)
    (hid : e.edgeId = e'.edgeId) : e = e' := by
  obtain ⟨htenant, key, hkey⟩ := h
  obtain ⟨htenant', key', hkey'⟩ := h'
  rw [graph.keyed hkey, htenant, hid] at hkey
  rw [graph.keyed hkey', htenant', hkey] at hkey'
  exact Option.some.inj hkey'

theorem mem_atFrontier : e ∈ graph.atFrontier tenant frontier ↔
    e ∈ graph.edgesOf tenant ∧ (e.fromNode ∈ frontier ∨ e.toNode ∈ frontier) := by
  have hstored : (∃ entry ∈ graph.edges.toList, Prod.snd entry = e) ↔
      ∃ key : TenantId × String, graph.edges[key]? = some e := by
    constructor
    · rintro ⟨⟨key, _⟩, hentry, rfl⟩
      exact ⟨key, Std.ExtTreeMap.mem_toList_iff_getElem?_eq_some.mp hentry⟩
    · rintro ⟨key, hkey⟩
      exact ⟨(key, e), Std.ExtTreeMap.mem_toList_iff_getElem?_eq_some.mpr hkey, rfl⟩
  rw [atFrontier, List.mem_filter, List.mem_map, hstored, decide_eq_true_eq]
  exact ⟨fun h => ⟨⟨h.2.1, h.1⟩, h.2.2⟩, fun h => ⟨h.1.2, h.1.1, h.2⟩⟩

-- One round

theorem mark_result : (round.mark node).result = round.result := by
  unfold Round.mark
  split_ifs <;> rfl

theorem mem_visited_mark : v ∈ (round.mark node).visited ↔ v ∈ round.visited ∨ v = node := by
  unfold Round.mark
  split_ifs with h
  · exact (or_iff_left_of_imp (· ▸ h)).symm
  · rw [Std.ExtTreeSet.mem_insert, Std.compare_eq_iff_eq, or_comm, eq_comm]

theorem mem_next_mark : v ∈ (round.mark node).next ↔
    v ∈ round.next ∨ (v = node ∧ v ∉ round.visited) := by
  unfold Round.mark
  split_ifs with h
  · refine (or_iff_left_of_imp ?_).symm
    rintro ⟨rfl, hnew⟩
    exact absurd h hnew
  · rw [Std.ExtTreeSet.mem_insert, Std.compare_eq_iff_eq, or_comm, eq_comm]
    refine or_congr_right (iff_self_and.mpr ?_)
    rintro rfl
    exact h

structure Scanned (graph : RelationshipGraph) (tenant : TenantId) (limit : Nat) (start : Round)
    (seen : List RelationshipEdge) (round : Round) : Prop where
  result : ∀ e, e ∈ round.result ↔ e ∈ start.result ∨ e ∈ seen
  visited : ∀ v, v ∈ round.visited ↔
    v ∈ start.visited ∨ ∃ e ∈ seen, v = (ends e).1 ∨ v = (ends e).2
  next : ∀ v, v ∈ round.next ↔ v ∈ round.visited ∧ v ∉ start.visited
  owned : ∀ e ∈ round.result, e ∈ graph.edgesOf tenant
  nodup : round.result.Nodup
  bounded : round.result.length ≤ limit

theorem keep_visited : (round.keep edge).visited = round.visited := by
  unfold Round.keep
  split_ifs <;> rfl

theorem keep_next : (round.keep edge).next = round.next := by
  unfold Round.keep
  split_ifs <;> rfl

theorem Scanned.keep (h : Scanned graph tenant limit start seen round)
    (hedge : edge ∈ graph.edgesOf tenant) (hfull : round.result.length ≠ limit) :
    (∀ e, e ∈ (round.keep edge).result ↔ e ∈ round.result ∨ e = edge) ∧
      (round.keep edge).result.Nodup ∧ (round.keep edge).result.length ≤ limit := by
  unfold Round.keep
  split_ifs with hany
  · obtain ⟨other, hother, hid⟩ := List.any_eq_true.mp hany
    obtain rfl := eq_of_edgeId (h.owned other hother) hedge (beq_iff_eq.mp hid)
    exact ⟨fun e => (or_iff_left_of_imp (· ▸ hother)).symm, h.nodup, h.bounded⟩
  · have hnew : edge ∉ round.result := fun hmem =>
      hany (List.any_eq_true.mpr ⟨edge, hmem, beq_self_eq_true _⟩)
    refine ⟨by simp, ?_, ?_⟩
    · exact List.nodup_append.mpr ⟨h.nodup, List.nodup_singleton edge, by
        intro e he e' he' heq
        rw [heq, List.mem_singleton.mp he'] at he
        exact hnew he⟩
    · rw [List.length_append, List.length_singleton]
      exact lt_of_le_of_ne h.bounded hfull

theorem Scanned.visit (h : Scanned graph tenant limit start seen round)
    (hedge : edge ∈ graph.edgesOf tenant) (hfull : round.result.length ≠ limit) :
    Scanned graph tenant limit start (seen ++ [edge])
      (((round.keep edge).mark edge.fromNode).mark edge.toNode) := by
  obtain ⟨hkept, hnodup, hbounded⟩ := h.keep hedge hfull
  exact {
    result := fun e => by
      rw [mark_result, mark_result, hkept, h.result, List.mem_append, List.mem_singleton, or_assoc]
    visited := fun v => by
      rw [mem_visited_mark, mem_visited_mark, keep_visited, h.visited, or_assoc, or_assoc]
      refine or_congr_right ?_
      simp only [List.mem_append, List.mem_singleton, or_and_right, exists_or, exists_eq_left]
      rfl
    next := fun v => by
      rw [mem_next_mark, mem_next_mark, mem_visited_mark, mem_visited_mark, mem_visited_mark,
        keep_visited, keep_next, h.next]
      have hstart : v ∈ start.visited → v ∈ round.visited := fun hv =>
        (h.visited v).mpr (.inl hv)
      tauto
    owned := fun e he => by
      rw [mark_result, mark_result, hkept] at he
      rcases he with he | rfl
      · exact h.owned e he
      · exact hedge
    nodup := by rwa [mark_result, mark_result]
    bounded := by rwa [mark_result, mark_result] }

/-- **One layer**: all its edges are collected, or as many as may be returned. -/
theorem collect_cases {es : List RelationshipEdge} (hes : ∀ e ∈ es, e ∈ graph.edgesOf tenant)
    (h : Scanned graph tenant limit start seen round) :
    (∃ after, es.foldlM (visit limit) round = .ok after ∧
      Scanned graph tenant limit start (seen ++ es) after) ∨
    ∃ result, es.foldlM (visit limit) round = .error result ∧ result.Nodup ∧
      result.length = limit ∧ (∀ e ∈ start.result, e ∈ result) ∧
      ∀ e ∈ result, e ∈ start.result ∨ e ∈ seen ++ es := by
  induction es generalizing round seen with
  | nil => exact .inl ⟨round, rfl, by rwa [List.append_nil]⟩
  | cons edge es ih =>
    rw [List.forall_mem_cons] at hes
    rw [List.foldlM_cons]
    by_cases hfull : round.result.length = limit
    · refine .inr ⟨round.result, ?_, h.nodup, hfull, fun e he => (h.result e).mpr (.inl he),
        fun e he => ((h.result e).mp he).imp_right (List.mem_append_left _)⟩
      rw [RelationshipGraph.visit, if_pos hfull]
      rfl
    · rw [RelationshipGraph.visit, if_neg hfull]
      have hrest := ih hes.2 (h.visit hes.1 hfull)
      rw [List.append_assoc, List.singleton_append] at hrest
      exact hrest

-- Searches

structure Search (graph : RelationshipGraph) (tenant : TenantId) (root : String) (limit depth : Nat)
    (frontier visited : BTreeSet String) (result : List RelationshipEdge) : Prop where
  collected : ∀ e, e ∈ result ↔ e ∈ graph.around tenant root depth
  reached : ∀ v, v ∈ visited ↔
    (BreadthFirst.graph ends (graph.edgesOf tenant)).edist root v ≤ depth
  layer : ∀ v, v ∈ frontier ↔
    (BreadthFirst.graph ends (graph.edgesOf tenant)).edist root v = depth
  nodup : result.Nodup
  bounded : result.length ≤ limit

theorem Search.init : Search graph tenant root limit 0 ((∅ : BTreeSet String).insert root)
    ((∅ : BTreeSet String).insert root) [] where
  collected := fun e => by simp [around, within_zero]
  reached := fun v => by simp
  layer := fun v => by simp
  nodup := List.nodup_nil
  bounded := Nat.zero_le limit

theorem Search.touches (h : Search graph tenant root limit depth frontier visited result) :
    e ∈ graph.atFrontier tenant frontier ↔
      e ∈ graph.edgesOf tenant ∧ Touches ends (graph.edgesOf tenant) root depth e := by
  rw [mem_atFrontier, h.layer, h.layer]
  rfl

theorem Search.next (h : Search graph tenant root limit depth frontier visited result)
    (hscanned : Scanned graph tenant limit ⟨visited, ∅, result⟩
      (graph.atFrontier tenant frontier) after) :
    Search graph tenant root limit (depth + 1) after.next after.visited after.result := by
  have hvisited : ∀ v, v ∈ after.visited ↔
      (BreadthFirst.graph ends (graph.edgesOf tenant)).edist root v ≤ (depth + 1 : Nat) := by
    intro v
    rw [hscanned.visited, edist_le_succ_iff_touches, h.reached]
    refine or_congr_right (exists_congr fun e => ?_)
    rw [h.touches, and_assoc]
  exact {
    collected := fun e => by
      rw [hscanned.result, h.collected, h.touches]
      exact mem_within_succ.symm
    reached := hvisited
    layer := fun v => by
      rw [hscanned.next, hvisited, h.reached, not_le, Nat.cast_succ]
      rw [← ENat.add_one_le_iff (ENat.natCast_ne_top depth), and_comm, ← le_antisymm_iff, eq_comm]
    nodup := hscanned.nodup
    bounded := hscanned.bounded }

/-- **A search**: all edges that are near enough, or as many as may be returned, of whole layers
and of a part of the next one. -/
theorem Search.rounds {n : Nat}
    (h : Search graph tenant root limit depth frontier visited result) :
    (graph.rounds tenant limit n frontier visited result).Nodup ∧
    (graph.rounds tenant limit n frontier visited result).length ≤ limit ∧
    ((∀ e, e ∈ graph.rounds tenant limit n frontier visited result ↔
        e ∈ graph.around tenant root (depth + n)) ∨
      (graph.rounds tenant limit n frontier visited result).length = limit ∧
      ∃ k < depth + n,
        (∀ e ∈ graph.around tenant root k,
          e ∈ graph.rounds tenant limit n frontier visited result) ∧
        ∀ e ∈ graph.rounds tenant limit n frontier visited result,
          e ∈ graph.around tenant root (k + 1)) := by
  induction n generalizing depth frontier visited result with
  | zero => exact ⟨h.nodup, h.bounded, .inl h.collected⟩
  | succ n ih =>
    have hscan : Scanned graph tenant limit ⟨visited, ∅, result⟩ [] ⟨visited, ∅, result⟩ := {
      result := by simp
      visited := by simp
      next := by simp
      owned := fun e he => ((h.collected e).mp he).1
      nodup := h.nodup
      bounded := h.bounded }
    have hown : ∀ e ∈ graph.atFrontier tenant frontier, e ∈ graph.edgesOf tenant :=
      fun e he => (mem_atFrontier.mp he).1
    rw [RelationshipGraph.rounds]
    rcases collect_cases hown hscan with ⟨after, hok, hafter⟩ | ⟨stopped, herror, hnodup, hlength,
      hbefore, hpart⟩
    · have hnext := h.next hafter
      rw [hok]
      by_cases hempty : after.next.isEmpty = true
      · simp only [hempty, if_true]
        refine ⟨hnext.nodup, hnext.bounded, .inl fun e => (hnext.collected e).trans ⟨?_, ?_⟩⟩
        · exact fun he => within_mono (by omega) he
        · refine fun he => within_of_layer_empty (fun v hv => ?_) he
          have hmem := (hnext.layer v).mpr hv
          rw [Std.ExtTreeSet.isEmpty_iff] at hempty
          simp [hempty] at hmem
      · simp only [hempty]
        have hrest := ih hnext
        rw [Nat.add_right_comm, Nat.add_assoc] at hrest
        exact hrest
    · rw [herror]
      refine ⟨hnodup, hlength.le, .inr ⟨hlength, depth, by omega, ?_, fun e he => ?_⟩⟩
      · exact fun e he => hbefore e ((h.collected e).mpr he)
      · rcases hpart e he with hstart | hseen
        · exact within_mono (Nat.le_succ depth) ((h.collected e).mp hstart)
        · exact mem_within_succ.mpr (.inr (h.touches.mp hseen))

-- Queries

end RelationshipGraph

end AgentSphere.Posture
