import AgentSphere.Lib.Paths
import AgentSphere.Lib.Program
import AgentSphere.Sandbox.Basic

/-!
# Exported artifacts

`LocalArtifactGateway` reads a file of a sandbox and stores it under its digest. It checks that the
file lies below the directory of the sandbox, which it gets by joining the identifier of the sandbox
to the workspace root. The identifier is not checked: an absolute one takes the place of the root,
and one with double dots leaves it.

Nothing changes the file system during a call. A file that cannot be read counts as missing, and no
path is too long.
-/

namespace AgentSphere.Sandbox

open Concurrency Paths FileSystem

structure ArtifactExportRequest where
  sandboxId : String
  relativePath : String
  mediaType : String
  maximumBytes : Nat
  policyApproved : Bool
  outputSchemaValidated : Bool

structure ArtifactExportReceipt where
  artifactRef : String
  sha256 : String
  bytes : Nat
  dlpPassed : Bool
  exportedAt : DateTime

/-- A gateway as `new` builds it. -/
structure LocalArtifactGateway where
  workspaceRoot : String
  artifactRoot : String
  allowedMediaTypes : BTreeSet String
  workspaceAbsolute : isAbsolute workspaceRoot.toList = true
  artifactAbsolute : isAbsolute artifactRoot.toList = true
  someMediaType : allowedMediaTypes ≠ ∅

/-- `contains_secret_material` of any bytes. The markers are ASCII: a lossy decoding contains one
exactly where the bytes do. -/
def containsSecretMaterial (bytes : List UInt8) : Bool :=
  let lower := bytes.map fun byte => if 65 ≤ byte ∧ byte ≤ 90 then byte + 32 else byte
  ["authorization: bearer ", "-----begin private key-----", "api_key=", "password=", "secret="].any
    fun marker => lower.tails.any fun rest => marker.toUTF8.data.toList.isPrefixOf rest

namespace LocalArtifactGateway

variable (gateway : LocalArtifactGateway) (fs : FileSystem (List UInt8))
  (request : ArtifactExportRequest)

def sandboxRoot : List Char := join gateway.workspaceRoot.toList request.sandboxId.toList

def source : List Char := join (gateway.sandboxRoot request) request.relativePath.toList

def sourcePath : Except SandboxError Location := do
  require (isAbsolute request.relativePath.toList = false ∧
    ∀ segment ∈ segments request.relativePath.toList, segment ≠ ['.', '.']) .artifactDenied
  match fs.canonicalize (gateway.sandboxRoot request), fs.canonicalize (gateway.source request) with
  | some canonicalRoot, some source =>
    require (canonicalRoot <+: source) .artifactDenied
    pure source
  | _, _ => .error .artifactDenied

/-- `export` up to the reading of the file: where it is, and what is in it. -/
def exportedFile : Except SandboxError (Location × List UInt8) := do
  require (request.policyApproved = true ∧ request.outputSchemaValidated = true ∧
    request.maximumBytes ≠ 0 ∧ gateway.allowedMediaTypes.contains request.mediaType = true)
    .artifactDenied
  let source ← gateway.sourcePath fs request
  match fs.node source with
  | some (.file bytes) =>
    require (bytes.length ≤ request.maximumBytes) .artifactDenied
    pure (source, bytes)
  | _ => .error .artifactDenied

/-- `export`, given whether the file is written below the artifact root. -/
def exportArtifact (sha256Hex : List UInt8 → String) (written : Bool) (now : DateTime) :
    Except SandboxError ArtifactExportReceipt := do
  let (_, bytes) ← gateway.exportedFile fs request
  require (containsSecretMaterial bytes = false) .artifactDlpDenied
  require (written = true) .artifactDenied
  pure {
    artifactRef := "artifact:sha256:" ++ sha256Hex bytes
    sha256 := sha256Hex bytes
    bytes := bytes.length
    dlpPassed := true
    exportedAt := now }

/-- The place is in the directory of one sandbox: below the base by one name for the sandbox and at
least one more. -/
def InSandbox (base location : Location) : Prop :=
  ∃ component name rest, location = base ++ component :: name :: rest

def Confined : Prop :=
  ∀ location bytes, gateway.exportedFile fs request = .ok (location, bytes) →
    ∃ base, fs.canonicalize gateway.workspaceRoot.toList = some base ∧ InSandbox base location

structure Admitted : Prop where
  approved : request.policyApproved = true
  validated : request.outputSchemaValidated = true
  bounded : request.maximumBytes ≠ 0
  mediaType : gateway.allowedMediaTypes.contains request.mediaType = true
  relative : isAbsolute request.relativePath.toList = false
  downwards : ∀ segment ∈ segments request.relativePath.toList, segment ≠ ['.', '.']

/-- There is a file for the call to read: the request is admitted, the directories that the text
goes through are there, and so is a file that is not too large. -/
structure Readable : Prop extends Admitted gateway request where
  directories : ∀ k < (segments (gateway.source request)).length,
    fs.node (((segments (gateway.source request)).take k).foldl lexicalStep []) = some .directory
  file : ∃ bytes, fs.node (lexical (gateway.source request)) = some (.file bytes) ∧
    bytes.length ≤ request.maximumBytes

/-- The identifier and the path, taken together, stay below the workspace root all the way and end
in the directory of one sandbox. -/
def Descends : Prop :=
  isAbsolute request.sandboxId.toList = false ∧ ∃ component name rest,
    (segments request.sandboxId.toList ++ segments request.relativePath.toList).foldlM descend [] =
      some (component :: name :: rest)

-- What is read

variable {gateway fs request} {location : Location} {bytes : List UInt8}

theorem ne_nil_of_isAbsolute {path : List Char} (h : isAbsolute path = true) : path ≠ [] := by
  rintro rfl
  cases h

theorem sandboxRoot_ne_nil : gateway.sandboxRoot request ≠ [] := by
  have hroot : gateway.workspaceRoot.toList ≠ [] := ne_nil_of_isAbsolute gateway.workspaceAbsolute
  unfold sandboxRoot join
  split_ifs with hid
  · exact ne_nil_of_isAbsolute hid
  · exact fun h => hroot (List.append_eq_nil_iff.mp h).1
  · exact fun h => hroot (List.append_eq_nil_iff.mp h).1

theorem canonicalize_source (hrelative : isAbsolute request.relativePath.toList = false) :
    fs.canonicalize (gateway.source request) =
      fs.canonicalize (gateway.sandboxRoot request) >>= fun location =>
        (segments request.relativePath.toList).foldlM fs.step location :=
  canonicalize_join sandboxRoot_ne_nil hrelative

theorem sourcePath_eq_ok :
    gateway.sourcePath fs request = .ok location ↔
      (isAbsolute request.relativePath.toList = false ∧
        ∀ segment ∈ segments request.relativePath.toList, segment ≠ ['.', '.']) ∧
      fs.canonicalize (gateway.source request) = some location ∧
      ∃ root, fs.canonicalize (gateway.sandboxRoot request) = some root ∧ root <+: location := by
  simp only [sourcePath, except_bind_eq_ok, require_eq_ok, exists_const]
  refine and_congr_right fun _ => ?_
  cases fs.canonicalize (gateway.sandboxRoot request) with
  | none => simp
  | some root =>
    cases fs.canonicalize (gateway.source request) with
    | none => simp
    | some source =>
      simp only [except_bind_eq_ok, require_eq_ok, exists_const, Option.some.injEq,
        exists_eq_left']
      constructor
      · rintro ⟨hbelow, hsame⟩
        obtain rfl := Except.ok.inj hsame
        exact ⟨rfl, hbelow⟩
      · rintro ⟨rfl, hbelow⟩
        exact ⟨hbelow, rfl⟩

theorem exportedFile_eq_ok :
    gateway.exportedFile fs request = .ok (location, bytes) ↔
      Admitted gateway request ∧ gateway.sourcePath fs request = .ok location ∧
        fs.node location = some (.file bytes) ∧ bytes.length ≤ request.maximumBytes := by
  simp only [exportedFile, except_bind_eq_ok, require_eq_ok, exists_const]
  constructor
  · rintro ⟨⟨happroved, hvalidated, hbounded, hmedia⟩, source, hsource, hread⟩
    obtain ⟨⟨hrelative, hdownwards⟩, -⟩ := sourcePath_eq_ok.mp hsource
    split at hread
    · next content hnode =>
      simp only [except_bind_eq_ok, require_eq_ok, exists_const] at hread
      obtain ⟨hlength, hsame⟩ := hread
      obtain ⟨rfl, rfl⟩ := Prod.mk.inj (Except.ok.inj hsame)
      exact ⟨⟨happroved, hvalidated, hbounded, hmedia, hrelative, hdownwards⟩, hsource, hnode,
        hlength⟩
    · cases hread
  · rintro ⟨h, hsource, hnode, hlength⟩
    refine ⟨⟨h.approved, h.validated, h.bounded, h.mediaType⟩, location, hsource, ?_⟩
    rw [hnode]
    simp only [except_bind_eq_ok, require_eq_ok, exists_const]
    exact ⟨hlength, rfl⟩

theorem exportedFile_iff (hfree : fs.LinkFree []) :
    gateway.exportedFile fs request = .ok (location, bytes) ↔
      Readable gateway fs request ∧ lexical (gateway.source request) = location ∧
        fs.node location = some (.file bytes) := by
  have hsegments : segments (gateway.source request) ≠ [] := List.splitOn_ne_nil _ _
  rw [exportedFile_eq_ok]
  constructor
  · rintro ⟨hadmitted, hsource, hnode, hlength⟩
    obtain ⟨-, hcanonical, -⟩ := sourcePath_eq_ok.mp hsource
    obtain ⟨hdirectories, hlexical, -⟩ := (walk_iff hfree hsegments).mp hcanonical
    have hfile : fs.node (lexical (gateway.source request)) = some (.file bytes) := by
      rw [lexical, hlexical, hnode]
    exact ⟨⟨hadmitted, hdirectories, bytes, hfile, hlength⟩, hlexical, hnode⟩
  · rintro ⟨h, rfl, hnode⟩
    obtain ⟨content, hcontent, hlength⟩ := h.file
    obtain rfl : content = bytes := by simpa [hcontent] using hnode
    have hcanonical : fs.canonicalize (gateway.source request) =
        some (lexical (gateway.source request)) :=
      (walk_iff hfree hsegments).mpr ⟨h.directories, rfl, by rw [hnode]; nofun⟩
    refine ⟨h.toAdmitted, sourcePath_eq_ok.mpr ⟨⟨h.relative, h.downwards⟩, hcanonical, ?_⟩, hnode,
      hlength⟩
    rw [canonicalize_source h.relative] at hcanonical
    obtain ⟨root, hroot, hwalk⟩ := Option.bind_eq_some_iff.mp hcanonical
    refine ⟨root, hroot, ?_⟩
    have hrelative : segments request.relativePath.toList ≠ [] := List.splitOn_ne_nil _ _
    rw [← ((walk_iff hfree hrelative).mp hwalk).2.1]
    exact prefix_foldl_lexicalStep h.downwards

theorem exportArtifact_eq_ok {sha256Hex : List UInt8 → String} {written : Bool} {now : DateTime}
    {receipt : ArtifactExportReceipt}
    (h : gateway.exportArtifact fs request sha256Hex written now = .ok receipt) :
    ∃ location bytes, gateway.exportedFile fs request = .ok (location, bytes) ∧
      containsSecretMaterial bytes = false ∧ receipt.sha256 = sha256Hex bytes ∧
      receipt.bytes = bytes.length := by
  simp only [exportArtifact, except_bind_eq_ok, require_eq_ok, exists_const] at h
  obtain ⟨⟨location, bytes⟩, hread, hclean, -, hreceipt⟩ := h
  obtain rfl := Except.ok.inj hreceipt
  exact ⟨location, bytes, hread, hclean, rfl, rfl⟩

theorem confined_of_descends (hfree : ∀ base,
      fs.canonicalize gateway.workspaceRoot.toList = some base → fs.LinkFree base)
    (hdescends : Descends request) : Confined gateway fs request := by
  intro location bytes hread
  obtain ⟨hid, component, name, rest, hnames⟩ := hdescends
  obtain ⟨hadmitted, hsource, -⟩ := exportedFile_eq_ok.mp hread
  have hcanonical := (sourcePath_eq_ok.mp hsource).2.1
  rw [canonicalize_source hadmitted.relative, sandboxRoot,
    canonicalize_join (ne_nil_of_isAbsolute gateway.workspaceAbsolute) hid, bind_assoc]
    at hcanonical
  obtain ⟨base, hbase, hwalk⟩ := Option.bind_eq_some_iff.mp hcanonical
  refine ⟨base, hbase, component, name, rest, ?_⟩
  rw [← List.foldlM_append, ← List.append_nil base] at hwalk
  exact walk_of_descend (hfree base hbase) hnames hwalk

/-- Nothing is read outside the directories of the sandboxes: without links exactly if the text
leads into one of these, and with links if the identifier stays below the root. -/
theorem export_confined_iff (gateway : LocalArtifactGateway) (fs : FileSystem (List UInt8))
    (request : ArtifactExportRequest) :
    (fs.LinkFree [] → (Confined gateway fs request ↔
      ¬Readable gateway fs request ∨
        (fs.canonicalize gateway.workspaceRoot.toList).isSome = true ∧
          InSandbox (lexical gateway.workspaceRoot.toList) (lexical (gateway.source request)))) ∧
    ((∀ base, fs.canonicalize gateway.workspaceRoot.toList = some base → fs.LinkFree base) →
      Descends request → Confined gateway fs request) := by
  have hsegments : segments gateway.workspaceRoot.toList ≠ [] := List.splitOn_ne_nil _ _
  refine ⟨fun hfree => ⟨?_, ?_⟩, confined_of_descends⟩
  · intro hconfined
    by_cases hreadable : Readable gateway fs request
    · obtain ⟨bytes, hfile, -⟩ := hreadable.file
      obtain ⟨base, hbase, hinside⟩ :=
        hconfined _ bytes ((exportedFile_iff hfree).mpr ⟨hreadable, rfl, hfile⟩)
      have hlexical : lexical gateway.workspaceRoot.toList = base :=
        ((walk_iff hfree hsegments).mp hbase).2.1
      exact .inr ⟨by rw [hbase]; rfl, hlexical ▸ hinside⟩
    · exact .inl hreadable
  · intro hwhen location bytes hread
    obtain ⟨hreadable, rfl, -⟩ := (exportedFile_iff hfree).mp hread
    obtain hnone | ⟨hroot, hinside⟩ := hwhen
    · exact absurd hreadable hnone
    · obtain ⟨base, hbase⟩ := Option.isSome_iff_exists.mp hroot
      have hlexical : lexical gateway.workspaceRoot.toList = base :=
        ((walk_iff hfree hsegments).mp hbase).2.1
      exact ⟨base, hbase, hlexical ▸ hinside⟩

end LocalArtifactGateway

-- Files inside and outside the workspace root

def sampleEntries : List (Location × Node (List UInt8)) :=
  [([], .directory), ([['e', 't', 'c']], .directory),
    ([['e', 't', 'c'], ['h', 'o', 's', 't', 's']], .file [1]), ([['w', 's']], .directory),
    ([['w', 's'], ['s', 'b', 'x']], .directory),
    ([['w', 's'], ['s', 'b', 'x'], ['o', 'u', 't']], .file [2])]

def sampleNode (location : Location) : Option (Node (List UInt8)) := sampleEntries.lookup location

theorem sampleNode_entry {location : Location} {name : Name}
    (h : sampleNode (location ++ [name]) ≠ none) :
    sampleNode location = some .directory ∧ IsName name := by
  have hall : ∀ entry ∈ sampleEntries, entry.1 ≠ [] →
      sampleNode entry.1.dropLast = some .directory ∧ IsName (entry.1.getLast?.getD []) := by
    decide
  obtain ⟨node, hnode⟩ := Option.ne_none_iff_exists'.mp h
  obtain ⟨before, after, hentries, -⟩ := List.lookup_eq_some_iff.mp hnode
  have hmem : (location ++ [name], node) ∈ sampleEntries := by simp [hentries]
  simpa using hall _ hmem (by simp)

def sampleFileSystem : FileSystem (List UInt8) := ofNodes sampleNode rfl sampleNode_entry

def sampleArtifactGateway : LocalArtifactGateway where
  workspaceRoot := "/ws"
  artifactRoot := "/artifacts"
  allowedMediaTypes := (∅ : BTreeSet String).insert "text/plain"
  workspaceAbsolute := by decide
  artifactAbsolute := by decide
  someMediaType := by decide

def sampleExport (sandboxId relativePath : String) : ArtifactExportRequest where
  sandboxId := sandboxId
  relativePath := relativePath
  mediaType := "text/plain"
  maximumBytes := 1024
  policyApproved := true
  outputSchemaValidated := true

theorem export_confined_iff_sampleExport :
    sampleArtifactGateway.exportedFile sampleFileSystem (sampleExport "sbx/." "out") =
      .ok ([['w', 's'], ['s', 'b', 'x'], ['o', 'u', 't']], [2]) ∧
    sampleArtifactGateway.Confined sampleFileSystem (sampleExport "sbx/." "out") := by
  have hdescends : LocalArtifactGateway.Descends (sampleExport "sbx/." "out") :=
    ⟨by decide, ['s', 'b', 'x'], ['o', 'u', 't'], [], by decide⟩
  exact ⟨by decide, (LocalArtifactGateway.export_confined_iff _ _ _).2
    (fun _ _ => ofNodes_linkFree) hdescends⟩

/-- **Counterexample**: an absolute identifier takes the place of the workspace root, and a file
outside it is read. -/
theorem absolute_identifier_escapes :
    sampleFileSystem.LinkFree [] ∧
    sampleArtifactGateway.exportedFile sampleFileSystem (sampleExport "/etc" "hosts") =
      .ok ([['e', 't', 'c'], ['h', 'o', 's', 't', 's']], [1]) ∧
    sampleFileSystem.canonicalize sampleArtifactGateway.workspaceRoot.toList = some [['w', 's']] ∧
    ¬sampleArtifactGateway.Confined sampleFileSystem (sampleExport "/etc" "hosts") := by
  have hread : sampleArtifactGateway.exportedFile sampleFileSystem (sampleExport "/etc" "hosts") =
      .ok ([['e', 't', 'c'], ['h', 'o', 's', 't', 's']], [1]) := by
    decide
  have hroot : sampleFileSystem.canonicalize sampleArtifactGateway.workspaceRoot.toList =
      some [['w', 's']] := by
    decide
  refine ⟨ofNodes_linkFree, hread, hroot, fun hconfined => ?_⟩
  obtain ⟨base, hbase, component, name, rest, hinside⟩ := hconfined _ _ hread
  obtain rfl := Option.some.inj (hroot.symm.trans hbase)
  cases hinside

end AgentSphere.Sandbox
