import AgentSphere.DomainPacks.Setpoints
import AgentSphere.Lib.Paths
import AgentSphere.Lib.Separated

/-!
# Patches of repositories

The paths that a patch may change are compared as texts with the allowed and the denied entries of
the branch policy. Single dots stay in these texts, and of the names that protect a file some are
looked for at the root of the repository only. Where a path leads is its lexical resolution.
-/

namespace AgentSphere.DomainPacks

open Concurrency Paths Separated

inductive CodingError where
  | policyInvalid
  | patchDenied
  | pathDenied
  deriving DecidableEq, Repr

structure RepositoryResource where
  baselineSha : String
  taskBranch : String

structure BranchPolicy where
  allowedBranchPrefix : String
  protectedBranches : BTreeSet String
  allowedPathPrefixes : BTreeSet String
  deniedPaths : BTreeSet String
  commandTemplates : BTreeSet String
  maximumChangedFiles : Nat
  maximumDeletedLines : Nat

structure PatchPlan where
  schemaVersion : String
  repository : RepositoryResource
  changedPaths : BTreeSet String
  deletedLines : Nat
  actionHash : String

structure CodingToolProvider where
  policy : BranchPolicy
  branch : policy.allowedBranchPrefix ≠ ""
  paths : policy.allowedPathPrefixes.isEmpty = false
  commands : policy.commandTemplates.isEmpty = false
  files : policy.maximumChangedFiles ≠ 0

def CodingToolProvider.new (policy : BranchPolicy) : Except CodingError CodingToolProvider :=
  if h : policy.allowedBranchPrefix ≠ "" ∧ policy.allowedPathPrefixes.isEmpty = false ∧
      policy.commandTemplates.isEmpty = false ∧ policy.maximumChangedFiles ≠ 0 then
    .ok ⟨policy, h.1, h.2.1, h.2.2.1, h.2.2.2⟩
  else .error .policyInvalid

def isUnder (entry path : List Char) : Bool := path == entry || (entry ++ ['/']).isPrefixOf path

def namesSecret (lower : List Char) : Bool :=
  ['.', 'p', 'e', 'm'].isSuffixOf lower || ['.', 'k', 'e', 'y'].isSuffixOf lower ||
    lower == ['.', 'e', 'n', 'v'] || ['.', 'g', 'i', 't', '/'].isPrefixOf lower

def pathDenied (policy : BranchPolicy) (path : String) : Bool :=
  let lower := toAsciiLowercase path
  path.toList.head? == some '/' ||
    (segments path.toList).any (fun part => part == ['.', '.'] || part.isEmpty) ||
    namesSecret lower.toList || containsText lower "docker.sock" ||
    policy.deniedPaths.toList.any (fun denied => isUnder denied.toList path.toList) ||
    !policy.allowedPathPrefixes.toList.any (fun entry => isUnder entry.toList path.toList)

def CodingToolProvider.validatePatch (provider : CodingToolProvider) (plan : PatchPlan) :
    Except CodingError Unit := do
  let policy := provider.policy
  require (plan.schemaVersion = domainPacksSchemaVersion ∧
    7 ≤ plan.repository.baselineSha.utf8ByteSize ∧
    policy.allowedBranchPrefix.toList.isPrefixOf plan.repository.taskBranch.toList ∧
    plan.repository.taskBranch ∉ policy.protectedBranches ∧
    plan.changedPaths.isEmpty = false ∧
    plan.changedPaths.size ≤ policy.maximumChangedFiles ∧
    plan.deletedLines ≤ policy.maximumDeletedLines ∧
    plan.actionHash.utf8ByteSize = 64) .patchDenied
  require (plan.changedPaths.toList.any (pathDenied policy) = false) .pathDenied

-- Where a path leads

def IsNormal (entry : String) : Prop :=
  ∀ segment ∈ segments entry.toList, segment ≠ [] ∧ segment ≠ ['.'] ∧ segment ≠ ['.', '.']

def lowerName (name : Name) : Name := name.map Char.toLower

structure Confined (policy : BranchPolicy) (path : String) : Prop where
  allowed : ∃ entry ∈ policy.allowedPathPrefixes, segments entry.toList <+: lexical path.toList
  outside : ∀ denied ∈ policy.deniedPaths, ¬ segments denied.toList <+: lexical path.toList
  git : ∀ name ∈ (lexical path.toList).dropLast, lowerName name ≠ ['.', 'g', 'i', 't']
  env : ∀ name ∈ (lexical path.toList).getLast?, lowerName name ≠ ['.', 'e', 'n', 'v']
  pem : ∀ name ∈ (lexical path.toList).getLast?, ¬ ['.', 'p', 'e', 'm'] <:+ lowerName name
  key : ∀ name ∈ (lexical path.toList).getLast?, ¬ ['.', 'k', 'e', 'y'] <:+ lowerName name

def undotted (path : String) : List Char :=
  ['/'].intercalate ((segments path.toList).filter (· ≠ ['.']))

-- Segments

variable {policy : BranchPolicy} {path : String} {entry text : List Char}

theorem isUnder_iff : isUnder entry text = true ↔ segments entry <+: segments text := by
  rw [isUnder, Bool.or_eq_true, beq_iff_eq, List.isPrefixOf_iff_prefix, segments, segments,
    splitOn_prefix_iff]

theorem toLower_eq_slash (c : Char) : c.toLower = '/' ↔ c = '/' := by
  rw [Char.ext_iff, Char.ext_iff, ← UInt32.toNat_inj, ← UInt32.toNat_inj]
  have h := toNat_toLower c
  have hslash : ('/' : Char).val.toNat = 47 := rfl
  simp only [Char.toNat] at h
  rw [h, hslash]
  split_ifs <;> omega

theorem segments_lower : segments (text.map Char.toLower) = (segments text).map lowerName :=
  splitOn_map toLower_eq_slash

theorem namesSecret_iff {names : List Name} (h : segments text = names) :
    namesSecret text = true ↔ (∃ name ∈ names.getLast?, ['.', 'p', 'e', 'm'] <:+ name) ∨
      (∃ name ∈ names.getLast?, ['.', 'k', 'e', 'y'] <:+ name) ∨
      names = [['.', 'e', 'n', 'v']] ∨
      (1 < names.length ∧ names.head? = some ['.', 'g', 'i', 't']) := by
  have hlast : ∀ {name : Name}, '/' ∉ name →
      (name <:+ text ↔ ∃ last ∈ names.getLast?, name <:+ last) := by
    intro name hfree
    rw [suffix_iff hfree, ← h, segments,
      List.getLast?_eq_some_getLast (List.splitOn_ne_nil '/' text)]
    simp
  have henv : text = ['.', 'e', 'n', 'v'] ↔ names = [['.', 'e', 'n', 'v']] := by
    rw [← h]
    exact ((splitOn_injective '/').eq_iff (b := ['.', 'e', 'n', 'v'])).symm
  have hgit : ['.', 'g', 'i', 't', '/'] <+: text ↔
      1 < names.length ∧ names.head? = some ['.', 'g', 'i', 't'] := by
    constructor
    · rintro ⟨rest, rfl⟩
      have hnames : names = ['.', 'g', 'i', 't'] :: segments rest := by
        rw [← h]
        exact List.splitOn_append_cons_self (a := '/') ['.', 'g', 'i', 't'] rest
      rw [hnames, List.length_cons, List.head?_cons, Nat.lt_add_left_iff_pos, List.length_pos_iff]
      exact ⟨List.splitOn_ne_nil '/' rest, rfl⟩
    · rintro ⟨hlength, hhead⟩
      obtain ⟨rest, hrest⟩ := List.head?_eq_some_iff.mp hhead
      have hprefix : segments ['.', 'g', 'i', 't'] <+: segments text := ⟨rest, (h.trans hrest).symm⟩
      rcases splitOn_prefix_iff.mp hprefix with rfl | hprefix
      · rw [← h] at hlength
        exact absurd hlength (by decide)
      · exact hprefix
  simp only [namesSecret, Bool.or_eq_true, beq_iff_eq, List.isSuffixOf_iff_suffix,
    List.isPrefixOf_iff_prefix, or_assoc]
  rw [hlast (by decide), hlast (by decide), henv, hgit]

theorem mem_dropLast_iff {name : Name} {names : List Name} : name ∈ names.dropLast ↔
    (1 < names.length ∧ names.head? = some name) ∨ name ∈ names.tail.dropLast := by
  cases names with
  | nil => simp
  | cons first rest =>
    cases rest with
    | nil => simp
    | cons second rest => simp [eq_comm]

theorem getLast?_eq_some_iff {name : Name} {names : List Name} : names.getLast? = some name ↔
    names = [name] ∨ names.tail.getLast? = some name := by
  cases names with
  | nil => simp
  | cons first rest =>
    cases rest with
    | nil => simp
    | cons second rest => simp [List.getLast?_cons_cons]

-- Accepted paths

/-- The tests of the path hold of it without its single dots, and below its first segment it has
neither a directory of the repository's own nor a file of secrets as its last name. -/
structure Settled (policy : BranchPolicy) (path : String) : Prop where
  names : namesSecret ((undotted path).map Char.toLower) = false
  denied : ∀ denied ∈ policy.deniedPaths, isUnder denied.toList (undotted path) = false
  git : ['.', 'g', 'i', 't'] ∉ (segments ((undotted path).map Char.toLower)).tail.dropLast
  env : (segments ((undotted path).map Char.toLower)).tail.getLast? ≠ some ['.', 'e', 'n', 'v']

theorem pathDenied_eq_false : pathDenied policy path = false ↔
    (path.toList.head? == some '/') = false ∧
      (∀ part ∈ segments path.toList, part ≠ ['.', '.'] ∧ part ≠ []) ∧
      namesSecret (path.toList.map Char.toLower) = false ∧
      ¬ "docker.sock".toList <:+: path.toList.map Char.toLower ∧
      (∀ denied ∈ policy.deniedPaths, isUnder denied.toList path.toList = false) ∧
      ∃ entry ∈ policy.allowedPathPrefixes, isUnder entry.toList path.toList = true := by
  have hlower : (toAsciiLowercase path).toList = path.toList.map Char.toLower := String.toList_map
  have hsocket : containsText (toAsciiLowercase path) "docker.sock" = false ↔
      ¬ "docker.sock".toList <:+: path.toList.map Char.toLower := by
    rw [← Bool.not_eq_true, containsText_iff, hlower]
  simp only [pathDenied, Bool.or_eq_false_iff, Bool.not_eq_false', List.any_eq_true,
    List.any_eq_false, Std.ExtTreeSet.mem_toList, hsocket, hlower, and_assoc]
  simp

theorem lexical_of_accepted (haccepted : pathDenied policy path = false)
    (hnormal : ∀ entry ∈ policy.allowedPathPrefixes, IsNormal entry) :
    segments (undotted path) = lexical path.toList ∧
      ∃ entry ∈ policy.allowedPathPrefixes, segments entry.toList <+: lexical path.toList := by
  obtain ⟨-, hparts, -, -, -, entry, hentry, hunder⟩ := pathDenied_eq_false.mp haccepted
  have hlexical : lexical path.toList = (segments path.toList).filter (· ≠ ['.']) :=
    FileSystem.lexical_eq_filter (fun h => (hparts _ h).2 rfl) fun h => (hparts _ h).1 rfl
  have hprefix : segments entry.toList <+: lexical path.toList := by
    have hfilter : (segments entry.toList).filter (· ≠ ['.']) = segments entry.toList :=
      List.filter_eq_self.mpr fun segment h => decide_eq_true (hnormal entry hentry segment h).2.1
    rw [hlexical, ← hfilter]
    exact (isUnder_iff.mp hunder).filter _
  refine ⟨?_, entry, hentry, hprefix⟩
  have hne : (segments path.toList).filter (· ≠ ['.']) ≠ [] := by
    rw [← hlexical]
    exact fun h => List.splitOn_ne_nil _ _ (List.prefix_nil.mp (h ▸ hprefix))
  rw [hlexical, undotted, segments, List.splitOn_intercalate '/' _ hne]
  intro part hpart
  exact not_mem_of_mem_splitOn (List.mem_of_mem_filter hpart)

theorem Confined.iff (haccepted : pathDenied policy path = false)
    (hnormal : ∀ entry ∈ policy.allowedPathPrefixes, IsNormal entry) :
    Confined policy path ↔ Settled policy path := by
  obtain ⟨hsegments, hallowed⟩ := lexical_of_accepted haccepted hnormal
  have hlower : segments ((undotted path).map Char.toLower) =
      (lexical path.toList).map lowerName := by
    rw [segments_lower, hsegments]
  have hdenied : (∀ denied ∈ policy.deniedPaths, ¬ segments denied.toList <+: lexical path.toList) ↔
      ∀ denied ∈ policy.deniedPaths, isUnder denied.toList (undotted path) = false := by
    simp only [← Bool.not_eq_true, isUnder_iff, hsegments]
  have hlast (p : Name → Prop) : (∀ name ∈ (lexical path.toList).getLast?, p (lowerName name)) ↔
      ∀ name ∈ ((lexical path.toList).map lowerName).getLast?, p name := by
    rw [List.getLast?_map]
    simp
  have henv := hlast (· ≠ ['.', 'e', 'n', 'v'])
  have hpem := hlast (¬ ['.', 'p', 'e', 'm'] <:+ ·)
  have hkey := hlast (¬ ['.', 'k', 'e', 'y'] <:+ ·)
  have hgit : (∀ name ∈ (lexical path.toList).dropLast, lowerName name ≠ ['.', 'g', 'i', 't']) ↔
      ['.', 'g', 'i', 't'] ∉ ((lexical path.toList).map lowerName).dropLast := by
    rw [← List.map_dropLast, List.mem_map]
    simp
  constructor
  · intro h
    have hnames : namesSecret ((undotted path).map Char.toLower) = false := by
      rw [← Bool.not_eq_true, namesSecret_iff hlower]
      rintro (⟨name, hname, hsuffix⟩ | ⟨name, hname, hsuffix⟩ | hall | hfirst)
      · exact hpem.mp h.pem name hname hsuffix
      · exact hkey.mp h.key name hname hsuffix
      · exact henv.mp h.env _ (getLast?_eq_some_iff.mpr (.inl hall)) rfl
      · exact hgit.mp h.git (mem_dropLast_iff.mpr (.inl hfirst))
    refine ⟨hnames, hdenied.mp h.outside, ?_, ?_⟩
    · rw [hlower]
      exact fun hmem => hgit.mp h.git (mem_dropLast_iff.mpr (.inr hmem))
    · rw [hlower]
      exact fun heq => henv.mp h.env _ (getLast?_eq_some_iff.mpr (.inr heq)) rfl
  · rintro ⟨hnames, hdenied', hbelow, hnamed⟩
    rw [← Bool.not_eq_true, namesSecret_iff hlower, not_or, not_or, not_or] at hnames
    rw [hlower] at hbelow hnamed
    exact {
      allowed := hallowed
      outside := hdenied.mpr hdenied'
      git := hgit.mpr fun hmem => (mem_dropLast_iff.mp hmem).elim hnames.2.2.2 hbelow
      env := henv.mpr fun name hname heq =>
        (getLast?_eq_some_iff.mp (heq ▸ hname)).elim hnames.2.2.1 hnamed
      pem := hpem.mpr fun name hname hsuffix => hnames.1 ⟨name, hname, hsuffix⟩
      key := hkey.mpr fun name hname hsuffix => hnames.2.1 ⟨name, hname, hsuffix⟩ }

/-- **Patches**: each changed path of an accepted patch is where the policy allows it exactly if
each of them is settled. -/
theorem patch_confined_iff (provider : CodingToolProvider) (plan : PatchPlan)
    (hnormal : ∀ entry ∈ provider.policy.allowedPathPrefixes, IsNormal entry)
    (haccepted : provider.validatePatch plan = .ok ()) :
    (∀ path ∈ plan.changedPaths, Confined provider.policy path) ↔
      ∀ path ∈ plan.changedPaths, Settled provider.policy path := by
  have hpaths := (require_eq_ok.mp (except_bind_eq_ok.mp haccepted).choose_spec.2)
  refine forall₂_congr fun path hpath => Confined.iff ?_ hnormal
  rw [List.any_eq_false] at hpaths
  exact Bool.eq_false_iff.mpr (hpaths path (Std.ExtTreeSet.mem_toList.mpr hpath))

-- Samples

def sampleProvider : CodingToolProvider where
  policy := {
    allowedBranchPrefix := "agent-task/"
    protectedBranches := ∅
    allowedPathPrefixes := (∅ : BTreeSet String).insert "src"
    deniedPaths := (∅ : BTreeSet String).insert "src/secret"
    commandTemplates := (∅ : BTreeSet String).insert "cargo-test-v1"
    maximumChangedFiles := 20
    maximumDeletedLines := 500 }
  branch := by decide
  paths := by decide
  commands := by decide
  files := by decide

def samplePatch (path : String) : PatchPlan where
  schemaVersion := domainPacksSchemaVersion
  repository := ⟨"abcdef123456", "agent-task/123"⟩
  changedPaths := (∅ : BTreeSet String).insert path
  deletedLines := 1
  actionHash := sampleHash 'a'

theorem sampleProvider_normal :
    ∀ entry ∈ sampleProvider.policy.allowedPathPrefixes, IsNormal entry := by
  intro entry hentry
  have hsrc : "src" = entry := by simpa [sampleProvider] using hentry
  subst hsrc
  have hsegments : segments "src".toList = [['s', 'r', 'c']] := by decide
  rw [IsNormal, hsegments]
  decide

theorem accepts_samplePatch {path : String}
    (h : pathDenied sampleProvider.policy path = false) :
    sampleProvider.validatePatch (samplePatch path) = .ok () := by
  refine except_bind_eq_ok.mpr ⟨(), require_eq_ok.mpr ⟨rfl, ?_, ?_, ?_, ?_, ?_, ?_,
    utf8ByteSize_sampleHash rfl⟩, require_eq_ok.mpr ?_⟩
  · show 7 ≤ "abcdef123456".utf8ByteSize
    decide
  · show "agent-task/".toList.isPrefixOf "agent-task/123".toList = true
    decide
  · simp [sampleProvider]
  · simp [samplePatch]
  · simp [samplePatch, sampleProvider, Std.ExtTreeSet.size_insert]
  · simp [samplePatch, sampleProvider]
  · rw [List.any_eq_false]
    intro other hother
    have hpath : path = other := by simpa [samplePatch] using hother
    rw [← hpath, h]
    decide

theorem accepts_path {path : String} (hhead : (path.toList.head? == some '/') = false)
    (hparts : ∀ part ∈ segments path.toList, part ≠ ['.', '.'] ∧ part ≠ [])
    (hnames : namesSecret (path.toList.map Char.toLower) = false)
    (hsocket : ¬ "docker.sock".toList <:+: path.toList.map Char.toLower)
    (hsecret : isUnder "src/secret".toList path.toList = false)
    (hsource : isUnder "src".toList path.toList = true) :
    pathDenied sampleProvider.policy path = false :=
  pathDenied_eq_false.mpr ⟨hhead, hparts, hnames, hsocket, by simpa [sampleProvider] using hsecret,
    by simpa [sampleProvider] using hsource⟩

theorem patch_confined_sample :
    (∀ path ∈ (samplePatch "src/lib.rs").changedPaths, Confined sampleProvider.policy path) ↔
      ∀ path ∈ (samplePatch "src/lib.rs").changedPaths, Settled sampleProvider.policy path :=
  patch_confined_iff sampleProvider (samplePatch "src/lib.rs") sampleProvider_normal
    (accepts_samplePatch (accepts_path (by decide) (by decide) (by decide) (by decide)
      (by decide) (by decide)))

/-- A patch may name a denied path with a dot in it. -/
theorem patch_escapes : ¬ ∀ (provider : CodingToolProvider) (plan : PatchPlan),
    (∀ entry ∈ provider.policy.allowedPathPrefixes, IsNormal entry) →
    (∀ entry ∈ provider.policy.deniedPaths, IsNormal entry) →
    provider.validatePatch plan = .ok () →
      ∀ path ∈ plan.changedPaths, Confined provider.policy path := by
  intro h
  have hdenied : ∀ entry ∈ sampleProvider.policy.deniedPaths, IsNormal entry := by
    intro entry hentry
    have hsecret : "src/secret" = entry := by simpa [sampleProvider] using hentry
    subst hsecret
    have hsegments : segments "src/secret".toList =
      [['s', 'r', 'c'], ['s', 'e', 'c', 'r', 'e', 't']] := by decide
    rw [IsNormal, hsegments]
    decide
  have hconfined := h sampleProvider (samplePatch "src/./secret") sampleProvider_normal hdenied
    (accepts_samplePatch (accepts_path (by decide) (by decide) (by decide) (by decide) (by decide)
      (by decide))) "src/./secret" (by simp [samplePatch])
  exact hconfined.outside "src/secret" (by simp [sampleProvider]) (by decide)

end AgentSphere.DomainPacks
