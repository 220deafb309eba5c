import AgentSphere.Registry.Lifecycle

/-!
# Two ways to resolve a tool

A snapshot is resolved by the registry, or rebuilt from the manifest of an active version. The
registry fails closed while it is marked unavailable. A rebuilt snapshot is checked once more: its
manifest for its shape, now with a signature, and a compensatable version for the status of the
version that compensates it.
-/

namespace AgentSphere.Registry

section Model

variable {Bytes SigningKey VerifyingKey : Type}

def resolvedSnapshotFromActiveManifest (codec : RegistryCodec Bytes SigningKey VerifyingKey)
    (tenant : TenantId) (manifest : ToolManifest) (compensationTargetActive : Bool)
    (now : DateTime) : Except RegistryError ResolvedToolSnapshot := do
  require (manifest.status = .active ∧ manifest.allows tenant = true) .versionNotActive
  validateManifestShape codec manifest
  require (¬ (manifest.effectClass = .compensatable ∧
    manifest.compensation.any (fun binding => binding.tool != manifest.toolRef) = true ∧
    compensationTargetActive = false)) .compensationInvalid
  let schemaHash ← canonicalSchemaPairHash codec manifest
  let manifestHash ← canonicalManifestHash codec manifest
  -- Revision 0 stands for a snapshot that is bound to the row of its manifest.
  hashed codec (manifest.snapshot manifestHash schemaHash 0 now)

def targetActive (registry : InMemoryToolRegistry VerifyingKey) (manifest : ToolManifest) : Bool :=
  manifest.compensation.any fun binding =>
    registry.tools[key binding.tool]?.any fun record => record.manifest.status = .active

end Model

section Agreement

open Concurrency

variable {Bytes SigningKey VerifyingKey : Type}
  {codec : RegistryCodec Bytes SigningKey VerifyingKey}
  {operations : List (Operation SigningKey VerifyingKey)} {tenant : TenantId}

def Compensated (registry : InMemoryToolRegistry VerifyingKey) (manifest : ToolManifest) : Prop :=
  manifest.effectClass = .compensatable → ∀ binding, manifest.compensation = some binding →
    binding.tool = manifest.toolRef ∨ targetActive registry manifest = true

def NamedSignature (manifest : ToolManifest) : Prop :=
  ∀ signature, manifest.signature = some signature →
    validIdentifier signature.publisherId 128 = true ∧ validIdentifier signature.keyId 128 = true

theorem resolved_eq_ok {manifest : ToolManifest} {active : Bool} {now : DateTime}
    {snapshot : ResolvedToolSnapshot} :
    resolvedSnapshotFromActiveManifest codec tenant manifest active now = .ok snapshot ↔
      (manifest.status = .active ∧ manifest.allows tenant = true) ∧
        validateManifestShape codec manifest = .ok () ∧
        ¬ (manifest.effectClass = .compensatable ∧
          manifest.compensation.any (fun binding => binding.tool != manifest.toolRef) = true ∧
          active = false) ∧
        ∃ schemaHash, canonicalSchemaPairHash codec manifest = .ok schemaHash ∧
          ∃ manifestHash, canonicalManifestHash codec manifest = .ok manifestHash ∧
            hashed codec (manifest.snapshot manifestHash schemaHash 0 now) = .ok snapshot := by
  simp only [resolvedSnapshotFromActiveManifest, except_bind_eq_ok, require_eq_ok]
  constructor
  · rintro ⟨_, hstatus, _, hshape, _, hcompensated, hhashes⟩
    exact ⟨hstatus, hshape, hcompensated, hhashes⟩
  · rintro ⟨hstatus, hshape, hcompensated, hhashes⟩
    exact ⟨(), hstatus, (), hshape, (), hcompensated, hhashes⟩

theorem compensated_iff {registry : InMemoryToolRegistry VerifyingKey} {manifest : ToolManifest} :
    Compensated registry manifest ↔
      ¬ (manifest.effectClass = .compensatable ∧
        manifest.compensation.any (fun binding => binding.tool != manifest.toolRef) = true ∧
        targetActive registry manifest = false) := by
  unfold Compensated
  cases hcompensation : manifest.compensation with
  | none => simp
  | some binding =>
    by_cases heffect : manifest.effectClass = .compensatable
    · by_cases htool : binding.tool = manifest.toolRef
      · simp [heffect, htool]
      · simp [heffect, htool]
    · simp [heffect]

theorem hashed_eq_ok {snapshot result : ResolvedToolSnapshot}
    (h : hashed codec snapshot = .ok result) :
    { result with snapshotHash := "" } = { snapshot with snapshotHash := "" } := by
  unfold hashed at h
  split at h
  · cases h
  · cases h
    rfl

theorem hashed_isOk {snapshot : ResolvedToolSnapshot} :
    (∃ result, hashed codec snapshot = .ok result) ↔
      (codec.snapshotJcs { snapshot with snapshotHash := "", resolvedAt := 0 }).isSome = true := by
  unfold hashed snapshotHash
  cases codec.snapshotJcs { snapshot with snapshotHash := "", resolvedAt := 0 } with
  | none => simp
  | some bytes => simp

theorem signatureShape_of_verified {signature : Option ManifestSignature} {manifestHash : String}
    {keys : BTreeMap String VerifyingKey}
    (hverified : verifySignature codec signature manifestHash keys = .ok ())
    (hnamed : ∀ s, signature = some s →
      validIdentifier s.publisherId 128 = true ∧ validIdentifier s.keyId 128 = true) :
    validateSignatureShape codec signature = .ok () := by
  unfold verifySignature at hverified
  split at hverified
  · cases hverified
  · next s =>
    obtain ⟨hpublisher, hkey⟩ := hnamed s rfl
    split at hverified
    · cases hverified
    · next halgorithm =>
      split at hverified
      · next _ raw _ hdecode =>
        split at hverified
        · next hsize =>
          simp [validateSignatureShape, hdecode, not_ne_iff.mp halgorithm, hpublisher, hkey,
            hsize.1]
        · cases hverified
      · cases hverified

theorem hashed_isOk_iff
    (hwritable : ∀ snapshot revision,
      (codec.snapshotJcs { snapshot with registryRevision := revision }).isSome =
        (codec.snapshotJcs snapshot).isSome)
    (manifest : ToolManifest) (manifestHash schemaHash : String) (revision : Nat)
    (now now' : DateTime) :
    (∃ result, hashed codec (manifest.snapshot manifestHash schemaHash revision now) =
        .ok result) ↔
      ∃ result, hashed codec (manifest.snapshot manifestHash schemaHash 0 now') = .ok result := by
  rw [hashed_isOk, hashed_isOk, ← hwritable
    { manifest.snapshot manifestHash schemaHash 0 now' with snapshotHash := "", resolvedAt := 0 }
    revision]
  rfl

/-- While the registry is available, a version whose manifest gives a snapshot is resolved, and a
version that is resolved gives one if it is compensated and its signature is named; the two
snapshots differ in their revision, instant and hash only. While it is unavailable, nothing is
resolved. -/
theorem resolutions_agree (codec : RegistryCodec Bytes SigningKey VerifyingKey)
    (hwritable : ∀ snapshot revision,
      (codec.snapshotJcs { snapshot with registryRevision := revision }).isSome =
        (codec.snapshotJcs snapshot).isSome)
    (operations : List (Operation SigningKey VerifyingKey)) (tenant : TenantId) (tool : ToolRef)
    (record : ToolRecord) (now now' : DateTime)
    (hrecord : (run codec operations).tools[key tool]? = some record) :
    ((run codec operations).available = false →
      (run codec operations).resolveExact codec tenant tool now =
        .error .unavailableFailClosed) ∧
    ((run codec operations).available = true →
      ((∃ rebuilt, resolvedSnapshotFromActiveManifest codec tenant record.manifest
          (targetActive (run codec operations) record.manifest) now' = .ok rebuilt) →
        ∃ resolved, (run codec operations).resolveExact codec tenant tool now = .ok resolved) ∧
      (Compensated (run codec operations) record.manifest → NamedSignature record.manifest →
        (∃ resolved, (run codec operations).resolveExact codec tenant tool now = .ok resolved) →
        ∃ rebuilt, resolvedSnapshotFromActiveManifest codec tenant record.manifest
          (targetActive (run codec operations) record.manifest) now' = .ok rebuilt)) ∧
    (∀ resolved rebuilt, (run codec operations).resolveExact codec tenant tool now = .ok resolved →
      resolvedSnapshotFromActiveManifest codec tenant record.manifest
        (targetActive (run codec operations) record.manifest) now' = .ok rebuilt →
      { resolved with registryRevision := 0, resolvedAt := 0, snapshotHash := "" } =
        { rebuilt with registryRevision := 0, resolvedAt := 0, snapshotHash := "" }) := by
  have hsound := sound_of_run hrecord
  have hhashed := hashed_isOk_iff hwritable record.manifest record.manifestHash record.schemaHash
    record.revision now now'
  refine ⟨fun hclosed => ?_, fun hopen => ⟨?_, ?_⟩, ?_⟩
  · simp [InMemoryToolRegistry.resolveExact, hclosed]
  · rintro ⟨rebuilt, hrebuilt⟩
    obtain ⟨⟨hstatus, hallows⟩, -, -, schemaHash, hschema, manifestHash, hmanifest, hhash⟩ :=
      resolved_eq_ok.mp hrebuilt
    obtain rfl : record.schemaHash = schemaHash :=
      Except.ok.inj (hsound.schemaHash.symm.trans hschema)
    obtain rfl : record.manifestHash = manifestHash :=
      Except.ok.inj (hsound.manifestHash.symm.trans hmanifest)
    obtain ⟨resolved, hresolved⟩ := hhashed.mpr ⟨rebuilt, hhash⟩
    exact ⟨resolved, resolveExact_eq_ok.mpr
      ⟨hopen, hsound.exact, record, hrecord, hstatus, hallows, hresolved⟩⟩
  · rintro hcompensated hnamed ⟨resolved, hresolved⟩
    obtain ⟨-, -, found, hfound, hstatus, hallows, hhash⟩ := resolveExact_eq_ok.mp hresolved
    obtain rfl : record = found := Option.some.inj (hrecord.symm.trans hfound)
    obtain ⟨past, rest, -, hverified⟩ := hsound.verified (.inl hstatus)
    have hshape : validateManifestShape codec record.manifest = .ok () :=
      validateManifestShape_eq_ok.mpr ⟨hsound.shape (by simp [hstatus]),
        signatureShape_of_verified hverified hnamed⟩
    obtain ⟨rebuilt, hrebuilt⟩ := hhashed.mp ⟨resolved, hhash⟩
    exact ⟨rebuilt, resolved_eq_ok.mpr ⟨⟨hstatus, hallows⟩, hshape,
      compensated_iff.mp hcompensated, _, hsound.schemaHash, _, hsound.manifestHash, hrebuilt⟩⟩
  · intro resolved rebuilt hresolved hrebuilt
    obtain ⟨-, -, found, hfound, -, -, hhash⟩ := resolveExact_eq_ok.mp hresolved
    obtain rfl : record = found := Option.some.inj (hrecord.symm.trans hfound)
    obtain ⟨-, -, -, schemaHash, hschema, manifestHash, hmanifest, hhash'⟩ :=
      resolved_eq_ok.mp hrebuilt
    obtain rfl : record.schemaHash = schemaHash :=
      Except.ok.inj (hsound.schemaHash.symm.trans hschema)
    obtain rfl : record.manifestHash = manifestHash :=
      Except.ok.inj (hsound.manifestHash.symm.trans hmanifest)
    have hfields := congrArg
      (fun s : ResolvedToolSnapshot => { s with registryRevision := 0, resolvedAt := 0 })
      (hashed_eq_ok hhash)
    have hfields' := congrArg
      (fun s : ResolvedToolSnapshot => { s with registryRevision := 0, resolvedAt := 0 })
      (hashed_eq_ok hhash')
    exact hfields.trans hfields'.symm

end Agreement

-- One version and the version that compensates it

def sampleCodec : RegistryCodec String Unit Unit where
  manifestJcs manifest := some manifest.toolId
  schemaPairJcs _ := some "schemas"
  snapshotJcs snapshot := some snapshot.toolId
  sha256Hex bytes := "sha256 of " ++ bytes
  asBytes text := text
  sign _ bytes := "signed " ++ bytes
  decode text := some text
  size _ := 64
  verifies _ bytes signature := signature == "signed " ++ bytes
  compiles _ := true

def sampleTenant : TenantId := "11111111-1111-1111-1111-111111111111"

def sampleTool : ToolRef := ⟨"coding.repo-write", "1.0.0"⟩

def sampleTarget : ToolRef := ⟨"coding.repo-undo", "1.0.0"⟩

def sampleManifest (tool : ToolRef) (effectClass : EffectClass)
    (compensation : Option CompensationBinding) : ToolManifest where
  schemaVersion := registrySchemaVersion
  toolId := tool.toolId
  toolVersion := tool.toolVersion
  status := .draft
  domain := "coding"
  displayName := "Repo"
  description := "Work on a repository path"
  inputSchema := .object [("additionalProperties", .bool false), ("type", .string "object")]
  outputSchema := .object [("additionalProperties", .bool false), ("type", .string "object")]
  effectClass := effectClass
  riskLevel := .low
  executorProfile := "coding"
  credentialProfile := "none"
  approvalProfile := "none"
  compensation := compensation
  limits := ⟨5000, 4096⟩
  networkProfileRef := "none"
  filesystemProfileRef := "repo"
  implementation :=
    { kind := .internalService, digest := "sha256:" ++ sampleHash 'a', executorId := "repo" }
  allowedTenants := (∅ : BTreeSet TenantId).insert sampleTenant
  signature := none

def sampleOperations (target : ToolRef) : List (Operation Unit Unit) :=
  [.addPublisherKey "publisher" (), .createDraft (sampleManifest sampleTarget .idempotent none),
    .createDraft (sampleManifest sampleTool .compensatable (some ⟨target, "undo"⟩)),
    .validateVersion sampleTool, .signVersion sampleTool "pub" "publisher" (),
    .activate sampleTool]

def sampleResolves (operations : List (Operation Unit Unit)) : Bool :=
  ((run sampleCodec operations).resolveExact sampleCodec sampleTenant sampleTool 0).isOk

def sampleRebuilds (operations : List (Operation Unit Unit)) : Bool :=
  (run sampleCodec operations).tools[key sampleTool]?.any fun record =>
    (resolvedSnapshotFromActiveManifest sampleCodec sampleTenant record.manifest
      (targetActive (run sampleCodec operations) record.manifest) 0).isOk

theorem resolutions_agree_sampleOperations :
    ∃ record, (run sampleCodec (sampleOperations sampleTool)).tools[key sampleTool]? =
        some record ∧
      ∃ rebuilt, resolvedSnapshotFromActiveManifest sampleCodec sampleTenant record.manifest
          (targetActive (run sampleCodec (sampleOperations sampleTool)) record.manifest) 0 =
            .ok rebuilt ∧
        ∃ resolved, (run sampleCodec (sampleOperations sampleTool)).resolveExact sampleCodec
          sampleTenant sampleTool 0 = .ok resolved := by
  obtain ⟨hrebuilds, havailable⟩ : sampleRebuilds (sampleOperations sampleTool) = true ∧
      (run sampleCodec (sampleOperations sampleTool)).available = true := by decide +kernel
  obtain ⟨record, hrecord, hok⟩ := (Option.any_eq_true _ _).mp hrebuilds
  obtain ⟨-, hagree, -⟩ := resolutions_agree sampleCodec (fun _ _ => rfl)
    (sampleOperations sampleTool) sampleTenant sampleTool record 0 0 hrecord
  cases hrebuilt : resolvedSnapshotFromActiveManifest sampleCodec sampleTenant record.manifest
    (targetActive (run sampleCodec (sampleOperations sampleTool)) record.manifest) 0 with
  | error error => simp [hrebuilt, Except.isOk, Except.toBool] at hok
  | ok rebuilt =>
    exact ⟨record, hrecord, rebuilt, hrebuilt, (hagree havailable).1 ⟨rebuilt, hrebuilt⟩⟩

/-- An unavailable registry resolves nothing of what can be rebuilt, and an available one resolves
a version whose compensation was never activated. -/
theorem resolutions_differ :
    sampleResolves (sampleOperations sampleTool ++ [.setAvailable false]) = false ∧
      sampleRebuilds (sampleOperations sampleTool ++ [.setAvailable false]) = true ∧
      sampleResolves (sampleOperations sampleTarget) = true ∧
      sampleRebuilds (sampleOperations sampleTarget) = false := by
  have hunavailable :
      sampleResolves (sampleOperations sampleTool ++ [.setAvailable false]) = false ∧
        sampleRebuilds (sampleOperations sampleTool ++ [.setAvailable false]) = true := by
    decide +kernel
  have huncompensated : sampleResolves (sampleOperations sampleTarget) = true ∧
      sampleRebuilds (sampleOperations sampleTarget) = false := by
    decide +kernel
  exact ⟨hunavailable.1, hunavailable.2, huncompensated⟩

end AgentSphere.Registry
