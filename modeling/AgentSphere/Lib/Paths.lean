import Mathlib.Data.List.Basic

/-!
# Path resolution

A path is a text cut at its separators. Resolving it walks from the root of the file system: empty
segments and single dots stay, double dots go up, and any other segment is looked up, with links
followed. Each step starts from a directory.

Without links, resolution is lexical: it depends on the text alone, as far as the directories on
the way are there.
-/

namespace Paths

abbrev Name := List Char

abbrev Location := List Name

inductive Node (Content : Type) where
  | directory
  | file (content : Content)
  | other
  deriving DecidableEq

def IsName (name : Name) : Prop := name ≠ [] ∧ name ≠ ['.'] ∧ name ≠ ['.', '.'] ∧ '/' ∉ name

instance (name : Name) : Decidable (IsName name) :=
  inferInstanceAs (Decidable (_ ∧ _))

structure FileSystem (Content : Type) where
  node : Location → Option (Node Content)
  /-- Where a name in a directory leads, with links followed. -/
  look : Location → Name → Option Location
  root : node [] = some .directory
  look_directory : ∀ {location name location'}, look location name = some location' →
    node location = some .directory
  look_node : ∀ {location name location'}, look location name = some location' →
    node location' ≠ none
  entry : ∀ {location name}, node (location ++ [name]) ≠ none →
    look location name = some (location ++ [name])
  named : ∀ {location name}, node (location ++ [name]) ≠ none → IsName name

-- Resolution

def segments (path : List Char) : List Name := path.splitOn '/'

def isAbsolute (path : List Char) : Bool := path.head? = some '/'

def join (base path : List Char) : List Char :=
  if isAbsolute path then path
  else if base = [] ∨ base.getLast? = some '/' then base ++ path
  else base ++ '/' :: path

def lexicalStep (location : Location) (segment : Name) : Location :=
  if segment = [] ∨ segment = ['.'] then location
  else if segment = ['.', '.'] then location.dropLast
  else location ++ [segment]

def lexical (path : List Char) : Location := (segments path).foldl lexicalStep []

def descend (names : List Name) (segment : Name) : Option (List Name) :=
  if segment = [] ∨ segment = ['.'] then some names
  else if segment = ['.', '.'] then if names = [] then none else some names.dropLast
  else some (names ++ [segment])

namespace FileSystem

variable {Content : Type} (fs : FileSystem Content)

def step (location : Location) (segment : Name) : Option Location :=
  match fs.node location with
  | some .directory =>
    if segment = [] ∨ segment = ['.'] then some location
    else if segment = ['.', '.'] then some location.dropLast
    else fs.look location segment
  | _ => none

def canonicalize (path : List Char) : Option Location := (segments path).foldlM fs.step []

def LinkFree (base : Location) : Prop :=
  ∀ location name location', base <+: location → fs.look location name = some location' →
    location' = location ++ [name]

-- Steps

variable {fs} {base location location' : Location} {segment : Name} {names names' : List Name}

theorem step_eq_some :
    fs.step location segment = some location' ↔ fs.node location = some .directory ∧
      (if segment = [] ∨ segment = ['.'] then some location
        else if segment = ['.', '.'] then some location.dropLast
        else fs.look location segment) = some location' := by
  unfold step
  split
  · next h => simp [h]
  · next h => exact ⟨nofun, fun hnode => absurd hnode.1 h⟩

theorem node_dropLast (h : fs.node location = some .directory) :
    fs.node location.dropLast = some .directory := by
  rcases List.eq_nil_or_concat location with rfl | ⟨parent, name, rfl⟩
  · exact h
  · rw [List.concat_eq_append] at h ⊢
    rw [List.dropLast_concat]
    exact fs.look_directory (fs.entry (by rw [h]; nofun))

theorem step_iff (hfree : fs.LinkFree []) :
    fs.step location segment = some location' ↔ fs.node location = some .directory ∧
      lexicalStep location segment = location' ∧ fs.node location' ≠ none := by
  rw [step_eq_some, lexicalStep]
  split_ifs with hstay hup
  · constructor
    · rintro ⟨hnode, hsame⟩
      obtain rfl := Option.some.inj hsame
      exact ⟨hnode, rfl, by rw [hnode]; nofun⟩
    · rintro ⟨hnode, rfl, -⟩
      exact ⟨hnode, rfl⟩
  · constructor
    · rintro ⟨hnode, hsame⟩
      obtain rfl := Option.some.inj hsame
      exact ⟨hnode, rfl, by rw [node_dropLast hnode]; nofun⟩
    · rintro ⟨hnode, rfl, -⟩
      exact ⟨hnode, rfl⟩
  · constructor
    · rintro ⟨hnode, hlook⟩
      exact ⟨hnode, (hfree _ _ _ List.nil_prefix hlook).symm, fs.look_node hlook⟩
    · rintro ⟨hnode, rfl, hthere⟩
      exact ⟨hnode, fs.entry hthere⟩

theorem step_nil (h : fs.step location segment ≠ none) : fs.step location [] = some location := by
  obtain ⟨location', hstep⟩ := Option.ne_none_iff_exists'.mp h
  exact step_eq_some.mpr ⟨(step_eq_some.mp hstep).1, rfl⟩

theorem walk_nil_cons {rest : List Name} (hrest : rest ≠ []) :
    ([] :: rest).foldlM fs.step location = rest.foldlM fs.step location := by
  obtain ⟨segment, rest, rfl⟩ := List.exists_cons_of_ne_nil hrest
  rw [List.foldlM_cons]
  by_cases h : fs.step location segment = none
  · have hnone : (segment :: rest).foldlM fs.step location = none := by
      rw [List.foldlM_cons, h]
      rfl
    cases hnil : fs.step location [] with
    | none => exact hnone.symm
    | some location' =>
      obtain rfl : location = location' := Option.some.inj (step_eq_some.mp hnil).2
      rfl
  · rw [step_nil h]
    rfl

theorem canonicalize_join {base path : List Char} (hbase : base ≠ [])
    (hpath : isAbsolute path = false) :
    fs.canonicalize (join base path) =
      fs.canonicalize base >>= fun location => (segments path).foldlM fs.step location := by
  have hsegments : segments path ≠ [] := List.splitOn_ne_nil _ _
  unfold canonicalize
  by_cases hlast : base.getLast? = some '/'
  · obtain ⟨start, rfl⟩ := List.getLast?_eq_some_iff.mp hlast
    have hjoin : join (start ++ ['/']) path = start ++ '/' :: path := by
      simp [join, hpath]
    rw [hjoin, segments, segments, List.splitOn_append_cons_self, List.splitOn_append_cons_self,
      List.splitOn_nil, List.foldlM_append, List.foldlM_append, bind_assoc]
    refine bind_congr fun location => ?_
    rw [← segments, ← walk_nil_cons hsegments]
    simp
  · have hjoin : join base path = base ++ '/' :: path := by
      simp [join, hpath, hbase, hlast]
    rw [hjoin, segments, List.splitOn_append_cons_self, List.foldlM_append]
    rfl

-- Walks

theorem walk_iff (hfree : fs.LinkFree []) {path : List Name} (hpath : path ≠ []) :
    path.foldlM fs.step location = some location' ↔
      (∀ k < path.length, fs.node ((path.take k).foldl lexicalStep location) = some .directory) ∧
        path.foldl lexicalStep location = location' ∧ fs.node location' ≠ none := by
  -- from the first segment on, with the directory it starts from
  induction path generalizing location with
  | nil => exact absurd rfl hpath
  | cons segment path ih =>
    rw [List.foldlM_cons, Option.bind_eq_bind, Option.bind_eq_some_iff]
    cases path with
    | nil =>
      constructor
      · rintro ⟨place, hstep, hwalk⟩
        obtain rfl := Option.some.inj hwalk
        obtain ⟨hnode, hplace, hthere⟩ := (step_iff hfree).mp hstep
        refine ⟨fun k hk => ?_, hplace, hthere⟩
        obtain rfl : k = 0 := by simpa using hk
        exact hnode
      · rintro ⟨hdirectories, hplace, hthere⟩
        exact ⟨location', (step_iff hfree).mpr ⟨hdirectories 0 (by simp), hplace, hthere⟩, rfl⟩
    | cons next rest =>
      constructor
      · rintro ⟨place, hstep, hwalk⟩
        obtain ⟨hnode, rfl, -⟩ := (step_iff hfree).mp hstep
        obtain ⟨hdirectories, hplace, hthere⟩ := (ih (by simp)).mp hwalk
        refine ⟨?_, hplace, hthere⟩
        rintro (_ | k) hk
        · exact hnode
        · exact hdirectories k (by simpa using hk)
      · rintro ⟨hdirectories, hplace, hthere⟩
        have hnext : fs.node (lexicalStep location segment) = some .directory :=
          hdirectories 1 (by simp)
        refine ⟨_, (step_iff hfree).mpr ⟨hdirectories 0 (by simp), rfl, by rw [hnext]; nofun⟩,
          (ih (by simp)).mpr ⟨fun k hk => ?_, hplace, hthere⟩⟩
        exact hdirectories (k + 1) (by simpa using hk)

theorem prefix_foldl_lexicalStep {path : List Name}
    (hpath : ∀ segment ∈ path, segment ≠ ['.', '.']) :
    location <+: path.foldl lexicalStep location := by
  induction path generalizing location with
  | nil => exact List.prefix_rfl
  | cons segment path ih =>
    rw [List.forall_mem_cons] at hpath
    have hstep : location <+: lexicalStep location segment := by
      rw [lexicalStep, if_neg hpath.1]
      split_ifs
      · exact List.prefix_rfl
      · exact List.prefix_append _ _
    exact hstep.trans (ih hpath.2)

/-- **Containment**: a walk that never goes up from a place without links stays below it. -/
theorem walk_of_descend (hfree : fs.LinkFree base) {path : List Name}
    (hdescend : path.foldlM descend names = some names')
    (hwalk : path.foldlM fs.step (base ++ names) = some location') :
    location' = base ++ names' := by
  induction path generalizing names with
  | nil =>
    obtain rfl := Option.some.inj hdescend
    exact (Option.some.inj hwalk).symm
  | cons segment path ih =>
    rw [List.foldlM_cons] at hdescend hwalk
    obtain ⟨next, hnext, hdescend⟩ := Option.bind_eq_some_iff.mp hdescend
    obtain ⟨place, hplace, hwalk⟩ := Option.bind_eq_some_iff.mp hwalk
    obtain rfl : place = base ++ next := by
      have hstep := (step_eq_some.mp hplace).2
      unfold descend at hnext
      split_ifs at hnext hstep with hstay hup hnone
      · rw [← Option.some.inj hstep, Option.some.inj hnext]
      · rw [← Option.some.inj hstep, ← Option.some.inj hnext, List.dropLast_append_of_ne_nil hnone]
      · rw [← Option.some.inj hnext, ← List.append_assoc]
        exact hfree _ _ _ (List.prefix_append _ _) hstep
    exact ih hdescend hwalk

theorem lexical_eq_filter {path : List Char} (hempty : [] ∉ segments path)
    (hdots : ['.', '.'] ∉ segments path) :
    lexical path = (segments path).filter (· ≠ ['.']) := by
  have hfold : ∀ (names : List Name) (location : Location), [] ∉ names → ['.', '.'] ∉ names →
      names.foldl lexicalStep location = location ++ names.filter (· ≠ ['.']) := by
    intro names
    induction names with
    | nil => simp
    | cons name names ih =>
      intro location hempty hdots
      rw [List.mem_cons, not_or] at hempty hdots
      rw [List.foldl_cons, ih _ hempty.2 hdots.2, lexicalStep]
      by_cases hdot : name = ['.']
      · simp [hdot]
      · rw [if_neg (not_or.mpr ⟨Ne.symm hempty.1, hdot⟩), if_neg (Ne.symm hdots.1),
          List.filter_cons_of_pos (by simpa using hdot), List.append_assoc]
        rfl
  exact hfold _ [] hempty hdots

-- Trees

def ofNodes (node : Location → Option (Node Content)) (root : node [] = some .directory)
    (entry : ∀ {location name}, node (location ++ [name]) ≠ none →
      node location = some .directory ∧ IsName name) : FileSystem Content where
  node := node
  look location name := if node (location ++ [name]) = none then none else some (location ++ [name])
  root := root
  look_directory h := by
    split_ifs at h with hnone
    exact (entry hnone).1
  look_node h := by
    split_ifs at h with hnone
    exact Option.some.inj h ▸ hnone
  entry h := if_neg h
  named h := (entry h).2

theorem ofNodes_linkFree {node : Location → Option (Node Content)}
    {root : node [] = some .directory}
    {entry : ∀ {location name}, node (location ++ [name]) ≠ none →
      node location = some .directory ∧ IsName name} :
    (ofNodes node root entry).LinkFree base := by
  intro location name location' _ hlook
  replace hlook : (if node (location ++ [name]) = none then none else some (location ++ [name])) =
    some location' := hlook
  split_ifs at hlook
  exact (Option.some.inj hlook).symm

end FileSystem

end Paths
