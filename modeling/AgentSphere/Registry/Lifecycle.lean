import AgentSphere.Registry.Manifest

/-!
# The lifecycle of a tool version

The in-memory registry keeps one record for every version of a tool. Every operation that changes
a record holds the lock over all of them, and draws the next revision under it, so that a run is a
sequence of operations. The revision is a counter of 64 bits, which is taken not to wrap.
Capabilities have a map of their own, which no other operation reads, and are left out.
-/

namespace AgentSphere.Registry

open Concurrency

structure ToolRecord where
  manifest : ToolManifest
  manifestHash : String
  schemaHash : String
  revision : Nat

/-- The records by tool and version, which is how `ToolRef` is ordered. -/
abbrev Tools := BTreeMap (ToolId × ToolVersion) ToolRecord

def key (tool : ToolRef) : ToolId × ToolVersion := (tool.toolId, tool.toolVersion)

structure InMemoryToolRegistry (VerifyingKey : Type) where
  tools : Tools
  publisherKeys : BTreeMap String VerifyingKey
  revision : Nat
  available : Bool

inductive Operation (SigningKey VerifyingKey : Type) where
  | addPublisherKey (keyId : String) (key : VerifyingKey)
  | setAvailable (available : Bool)
  | createDraft (manifest : ToolManifest)
  | validateVersion (tool : ToolRef)
  | signVersion (tool : ToolRef) (publisherId keyId : String) (key : SigningKey)
  | activate (tool : ToolRef)
  | deprecateVersion (tool : ToolRef)
  | revoke (tool : ToolRef)

section Model

variable {Bytes SigningKey VerifyingKey : Type}

def validateExact (tool : ToolRef) : Bool :=
  !(tool.toolVersion.isEmpty || eqIgnoreAsciiCase tool.toolVersion "latest" ||
    tool.toolVersion.toList.contains '*')

/-- `verify_signature`, over the fields of a record it reads. -/
def verifySignature (codec : RegistryCodec Bytes SigningKey VerifyingKey)
    (signature : Option ManifestSignature) (manifestHash : String)
    (keys : BTreeMap String VerifyingKey) : Except RegistryError Unit :=
  match signature with
  | none => .error .signatureInvalid
  | some signature =>
    if signature.algorithm ≠ "Ed25519" then .error .signatureInvalid
    else
      match keys[signature.keyId]?, codec.decode signature.signature with
      | some key, some raw =>
        if codec.size raw = 64 ∧ codec.verifies key (codec.asBytes manifestHash) raw then .ok ()
        else .error .signatureInvalid
      | _, _ => .error .signatureInvalid

/-- `validate_tool_manifest`: what a version is compensated by must be there. -/
def validateToolManifest (codec : RegistryCodec Bytes SigningKey VerifyingKey)
    (manifest : ToolManifest) (tools : Tools) : Except RegistryError Unit :=
  match validateManifestShape codec manifest with
  | .error error => .error error
  | .ok () =>
    if manifest.effectClass = .compensatable then
      match manifest.compensation with
      | none => .error .compensationInvalid
      | some binding =>
        if !tools.contains (key binding.tool) && binding.tool != manifest.toolRef then
          .error .compensationInvalid
        else .ok ()
    else .ok ()

namespace InMemoryToolRegistry

def new : InMemoryToolRegistry VerifyingKey := ⟨∅, ∅, 0, true⟩

variable (codec : RegistryCodec Bytes SigningKey VerifyingKey)
  (registry : InMemoryToolRegistry VerifyingKey)

def write (tool : ToolRef) (record : ToolRecord) : InMemoryToolRegistry VerifyingKey :=
  { registry with
    tools := registry.tools.insert (key tool) { record with revision := registry.revision + 1 }
    revision := registry.revision + 1 }

/-- `create_draft`. The revision is drawn before the hashes, and stays drawn if they fail. -/
def createDraft (manifest : ToolManifest) :
    InMemoryToolRegistry VerifyingKey × Except RegistryError Unit :=
  let manifest := manifest.drafted
  if ¬ validateExact manifest.toolRef then (registry, .error .versionRequired)
  else if registry.tools.contains (key manifest.toolRef) then (registry, .error .versionConflict)
  else
    let drawn := { registry with revision := registry.revision + 1 }
    match canonicalManifestHash codec manifest with
    | .error error => (drawn, .error error)
    | .ok manifestHash =>
      match canonicalSchemaPairHash codec manifest with
      | .error error => (drawn, .error error)
      | .ok schemaHash =>
        (registry.write manifest.toolRef ⟨manifest, manifestHash, schemaHash, 0⟩, .ok ())

def update (tool : ToolRef) (allowed : ToolVersionStatus → Bool)
    (change : ToolRecord → Except RegistryError ToolManifest) :
    InMemoryToolRegistry VerifyingKey × Except RegistryError Unit :=
  match registry.tools[key tool]? with
  | none => (registry, .error .toolNotFound)
  | some record =>
    if ¬ allowed record.manifest.status then (registry, .error .lifecycleInvalid)
    else
      match change record with
      | .error error => (registry, .error error)
      | .ok manifest => (registry.write tool { record with manifest }, .ok ())

def validateVersion (tool : ToolRef) :
    InMemoryToolRegistry VerifyingKey × Except RegistryError Unit :=
  registry.update tool (· = .draft) fun record => do
    validateToolManifest codec record.manifest registry.tools
    pure { record.manifest with status := .validated }

def signVersion (tool : ToolRef) (publisherId keyId : String) (signingKey : SigningKey) :
    InMemoryToolRegistry VerifyingKey × Except RegistryError Unit :=
  registry.update tool (· = .validated) fun record =>
    .ok
      { record.manifest with
        signature := some
          { publisherId, keyId, algorithm := "Ed25519"
            signature := codec.sign signingKey (codec.asBytes record.manifestHash) }
        status := .signed }

def activate (tool : ToolRef) : InMemoryToolRegistry VerifyingKey × Except RegistryError Unit :=
  registry.update tool (· = .signed) fun record => do
    verifySignature codec record.manifest.signature record.manifestHash registry.publisherKeys
    pure { record.manifest with status := .active }

/-- `deprecate` -/
def deprecateVersion (tool : ToolRef) :
    InMemoryToolRegistry VerifyingKey × Except RegistryError Unit :=
  registry.update tool (· = .active) fun record =>
    .ok { record.manifest with status := .deprecated }

def revoke (tool : ToolRef) : InMemoryToolRegistry VerifyingKey × Except RegistryError Unit :=
  registry.update tool (fun status => status = .active ∨ status = .deprecated) fun record =>
    .ok { record.manifest with status := .revoked }

def perform : Operation SigningKey VerifyingKey →
    InMemoryToolRegistry VerifyingKey × Except RegistryError Unit
  | .addPublisherKey keyId key =>
    ({ registry with publisherKeys := registry.publisherKeys.insert keyId key }, .ok ())
  | .setAvailable available => ({ registry with available }, .ok ())
  | .createDraft manifest => registry.createDraft codec manifest
  | .validateVersion tool => registry.validateVersion codec tool
  | .signVersion tool publisherId keyId key =>
    registry.signVersion codec tool publisherId keyId key
  | .activate tool => registry.activate codec tool
  | .deprecateVersion tool => registry.deprecateVersion tool
  | .revoke tool => registry.revoke tool

end InMemoryToolRegistry

def run (codec : RegistryCodec Bytes SigningKey VerifyingKey)
    (operations : List (Operation SigningKey VerifyingKey)) : InMemoryToolRegistry VerifyingKey :=
  operations.foldl (fun registry operation => (registry.perform codec operation).1) .new

def ToolManifest.allows (manifest : ToolManifest) (tenant : TenantId) : Bool :=
  manifest.allowedTenants.isEmpty || manifest.allowedTenants.contains tenant

def ToolManifest.snapshot (manifest : ToolManifest) (manifestHash schemaHash : String)
    (revision : Nat) (now : DateTime) : ResolvedToolSnapshot where
  schemaVersion := registrySchemaVersion
  toolId := manifest.toolId
  toolVersion := manifest.toolVersion
  schemaHash := schemaHash
  manifestHash := manifestHash
  effectClass := manifest.effectClass
  riskLevel := manifest.riskLevel
  executorProfile := manifest.executorProfile
  credentialProfile := manifest.credentialProfile
  approvalProfile := manifest.approvalProfile
  compensation := manifest.compensation
  limits := manifest.limits
  networkProfileRef := manifest.networkProfileRef
  filesystemProfileRef := manifest.filesystemProfileRef
  implementation := manifest.implementation
  registryRevision := revision
  resolvedAt := now
  snapshotHash := ""
  inputSchema := manifest.inputSchema
  outputSchema := manifest.outputSchema

def hashed (codec : RegistryCodec Bytes SigningKey VerifyingKey)
    (snapshot : ResolvedToolSnapshot) : Except RegistryError ResolvedToolSnapshot :=
  match snapshotHash codec snapshot with
  | .error error => .error error
  | .ok hash => .ok { snapshot with snapshotHash := hash }

def InMemoryToolRegistry.resolveExact (codec : RegistryCodec Bytes SigningKey VerifyingKey)
    (registry : InMemoryToolRegistry VerifyingKey) (tenant : TenantId) (tool : ToolRef)
    (now : DateTime) : Except RegistryError ResolvedToolSnapshot :=
  if ¬ registry.available then .error .unavailableFailClosed
  else if ¬ validateExact tool then .error .versionRequired
  else
    match registry.tools[key tool]? with
    | none => .error .toolNotFound
    | some record =>
      match record.manifest.status with
      | .revoked => .error .toolRevoked
      | .active =>
        if ¬ record.manifest.allows tenant then .error .toolNotFound
        else
          hashed codec
            (record.manifest.snapshot record.manifestHash record.schemaHash record.revision now)
      | _ => .error .versionNotActive

end Model

section Step

variable {Bytes SigningKey VerifyingKey : Type}
  {codec : RegistryCodec Bytes SigningKey VerifyingKey}
  {registry : InMemoryToolRegistry VerifyingKey}

inductive Moves : ToolVersionStatus → ToolVersionStatus → Prop
  | validate : Moves .draft .validated
  | sign : Moves .validated .signed
  | activate : Moves .signed .active
  | deprecate : Moves .active .deprecated
  | revokeActive : Moves .active .revoked
  | revokeDeprecated : Moves .deprecated .revoked

inductive Change (codec : RegistryCodec Bytes SigningKey VerifyingKey)
    (registry : InMemoryToolRegistry VerifyingKey) (tool : ToolRef) (record : ToolRecord) :
    Operation SigningKey VerifyingKey → ToolManifest → Prop
  | validated (hstatus : record.manifest.status = .draft)
      (hvalid : validateToolManifest codec record.manifest registry.tools = .ok ()) :
      Change codec registry tool record (.validateVersion tool)
        { record.manifest with status := .validated }
  | signed (publisherId keyId : String) (signingKey : SigningKey)
      (signature : ManifestSignature) (hstatus : record.manifest.status = .validated) :
      Change codec registry tool record (.signVersion tool publisherId keyId signingKey)
        { record.manifest with signature := some signature, status := .signed }
  | activated (hstatus : record.manifest.status = .signed)
      (hverified : verifySignature codec record.manifest.signature record.manifestHash
        registry.publisherKeys = .ok ()) :
      Change codec registry tool record (.activate tool)
        { record.manifest with status := .active }
  | deprecated (hstatus : record.manifest.status = .active) :
      Change codec registry tool record (.deprecateVersion tool)
        { record.manifest with status := .deprecated }
  | revoked (hstatus : record.manifest.status = .active ∨ record.manifest.status = .deprecated) :
      Change codec registry tool record (.revoke tool)
        { record.manifest with status := .revoked }

theorem Change.moves {tool : ToolRef} {record : ToolRecord}
    {operation : Operation SigningKey VerifyingKey} {manifest : ToolManifest}
    (h : Change codec registry tool record operation manifest) :
    Moves record.manifest.status manifest.status := by
  cases h with
  | validated hstatus => rw [hstatus]; exact .validate
  | signed _ _ _ _ hstatus => rw [hstatus]; exact .sign
  | activated hstatus => rw [hstatus]; exact .activate
  | deprecated hstatus => rw [hstatus]; exact .deprecate
  | revoked hstatus =>
    obtain hstatus | hstatus := hstatus
    · rw [hstatus]; exact .revokeActive
    · rw [hstatus]; exact .revokeDeprecated

theorem Change.drafted {tool : ToolRef} {record : ToolRecord}
    {operation : Operation SigningKey VerifyingKey} {manifest : ToolManifest}
    (h : Change codec registry tool record operation manifest) :
    manifest.drafted = record.manifest.drafted := by
  cases h with
  | validated => rfl
  | signed => rfl
  | activated => rfl
  | deprecated => rfl
  | revoked => rfl

structure Drafts (codec : RegistryCodec Bytes SigningKey VerifyingKey)
    (registry : InMemoryToolRegistry VerifyingKey) (manifest : ToolManifest)
    (manifestHash schemaHash : String) : Prop where
  exact : validateExact manifest.toolRef = true
  fresh : registry.tools[key manifest.toolRef]? = none
  drafted : manifest.drafted = manifest
  manifestHash : canonicalManifestHash codec manifest = .ok manifestHash
  schemaHash : canonicalSchemaPairHash codec manifest = .ok schemaHash

/-- An operation leaves the records, writes a draft where there was none, or changes one record;
only the first may leave the revision as it is. -/
inductive Effect (codec : RegistryCodec Bytes SigningKey VerifyingKey)
    (registry : InMemoryToolRegistry VerifyingKey)
    (operation : Operation SigningKey VerifyingKey) : InMemoryToolRegistry VerifyingKey → Prop
  | kept (registry' : InMemoryToolRegistry VerifyingKey)
      (htools : registry'.tools = registry.tools)
      (hrevision : registry.revision ≤ registry'.revision) :
      Effect codec registry operation registry'
  | drafted (manifest : ToolManifest) (manifestHash schemaHash : String)
      (hdrafts : Drafts codec registry manifest manifestHash schemaHash) :
      Effect codec registry operation
        (registry.write manifest.toolRef ⟨manifest, manifestHash, schemaHash, 0⟩)
  | changed (tool : ToolRef) (record : ToolRecord) (manifest : ToolManifest)
      (hrecord : registry.tools[key tool]? = some record)
      (hchange : Change codec registry tool record operation manifest) :
      Effect codec registry operation (registry.write tool { record with manifest })

theorem Effect.same {operation : Operation SigningKey VerifyingKey} :
    Effect codec registry operation registry := .kept registry rfl le_rfl

theorem createDraft_effect (manifest : ToolManifest) :
    Effect codec registry (.createDraft manifest) (registry.createDraft codec manifest).1 := by
  unfold InMemoryToolRegistry.createDraft
  dsimp only
  split
  · exact .same
  · next hexact =>
    split
    · exact .same
    · next hfresh =>
      split
      · exact .kept _ rfl (Nat.le_succ _)
      · next manifestHash hmanifest =>
        split
        · exact .kept _ rfl (Nat.le_succ _)
        · next schemaHash hschema =>
          refine .drafted manifest.drafted manifestHash schemaHash
            ⟨not_not.mp hexact, ?_, rfl, hmanifest, hschema⟩
          rw [Std.ExtTreeMap.getElem?_eq_none]
          simpa using hfresh

theorem update_effect {operation : Operation SigningKey VerifyingKey} {tool : ToolRef}
    {allowed : ToolVersionStatus → Bool}
    {change : ToolRecord → Except RegistryError ToolManifest}
    (h : ∀ record manifest, allowed record.manifest.status = true → change record = .ok manifest →
      Change codec registry tool record operation manifest) :
    Effect codec registry operation (registry.update tool allowed change).1 := by
  unfold InMemoryToolRegistry.update
  split
  · exact .same
  · next record hrecord =>
    split
    · exact .same
    · next hallowed =>
      split
      · exact .same
      · next manifest hmanifest =>
        exact .changed tool record manifest hrecord
          (h record manifest (not_not.mp hallowed) hmanifest)

theorem perform_effect (codec : RegistryCodec Bytes SigningKey VerifyingKey)
    (registry : InMemoryToolRegistry VerifyingKey)
    (operation : Operation SigningKey VerifyingKey) :
    Effect codec registry operation (registry.perform codec operation).1 := by
  cases operation with
  | addPublisherKey keyId key => exact .kept _ rfl le_rfl
  | setAvailable available => exact .kept _ rfl le_rfl
  | createDraft manifest => exact createDraft_effect manifest
  | validateVersion tool =>
    refine update_effect fun record manifest hallowed hchange => ?_
    obtain ⟨_, hvalid, hmanifest⟩ := except_bind_eq_ok.mp hchange
    cases hmanifest
    exact .validated (of_decide_eq_true hallowed) hvalid
  | signVersion tool publisherId keyId signingKey =>
    refine update_effect fun record manifest hallowed hchange => ?_
    cases hchange
    exact .signed publisherId keyId signingKey _ (of_decide_eq_true hallowed)
  | activate tool =>
    refine update_effect fun record manifest hallowed hchange => ?_
    obtain ⟨_, hverified, hmanifest⟩ := except_bind_eq_ok.mp hchange
    cases hmanifest
    exact .activated (of_decide_eq_true hallowed) hverified
  | deprecateVersion tool =>
    refine update_effect fun record manifest hallowed hchange => ?_
    cases hchange
    exact .deprecated (of_decide_eq_true hallowed)
  | revoke tool =>
    refine update_effect fun record manifest hallowed hchange => ?_
    cases hchange
    exact .revoked (of_decide_eq_true hallowed)

theorem key_inj {tool tool' : ToolRef} : key tool = key tool' ↔ tool = tool' := by
  cases tool
  cases tool'
  simp [key]

@[simp] theorem getElem?_write (tool tool' : ToolRef) (record : ToolRecord) :
    (registry.write tool record).tools[key tool']? =
      if tool = tool' then some { record with revision := registry.revision + 1 }
      else registry.tools[key tool']? := by
  simp only [InMemoryToolRegistry.write, BTreeMap.getElem?_insert_ite, key_inj]

structure Advances (registry registry' : InMemoryToolRegistry VerifyingKey)
    (record record' : ToolRecord) : Prop where
  moves : Moves record.manifest.status record'.manifest.status
  drafted : record'.manifest.drafted = record.manifest.drafted
  revision : registry.revision < record'.revision
  latest : record'.revision = registry'.revision

theorem perform_record (codec : RegistryCodec Bytes SigningKey VerifyingKey)
    (operation : Operation SigningKey VerifyingKey) {tool : ToolRef}
    {record : ToolRecord} (hrecord : registry.tools[key tool]? = some record) :
    ∃ record', (registry.perform codec operation).1.tools[key tool]? = some record' ∧
      (record' = record ∨
        Advances registry (registry.perform codec operation).1 record record') := by
  have heffect := perform_effect codec registry operation
  generalize (registry.perform codec operation).1 = registry' at heffect
  cases heffect with
  | kept _ htools =>
    rw [htools]
    exact ⟨record, hrecord, .inl rfl⟩
  | drafted manifest manifestHash schemaHash hdrafts =>
    have hother : manifest.toolRef ≠ tool := by
      rintro rfl
      have hfresh := hdrafts.fresh
      rw [hrecord] at hfresh
      cases hfresh
    rw [getElem?_write, if_neg hother]
    exact ⟨record, hrecord, .inl rfl⟩
  | changed tool' changed manifest hchanged hchange =>
    rw [getElem?_write]
    by_cases hsame : tool' = tool
    · subst hsame
      obtain rfl : record = changed := Option.some.inj (hrecord.symm.trans hchanged)
      rw [if_pos rfl]
      exact ⟨_, rfl, .inr ⟨hchange.moves, hchange.drafted, Nat.lt_succ_self _, rfl⟩⟩
    · rw [if_neg hsame]
      exact ⟨record, hrecord, .inl rfl⟩

theorem revision_le_perform (operation : Operation SigningKey VerifyingKey) :
    registry.revision ≤ (registry.perform codec operation).1.revision := by
  have heffect := perform_effect codec registry operation
  generalize (registry.perform codec operation).1 = registry' at heffect
  cases heffect with
  | kept _ _ hrevision => exact hrevision
  | drafted => exact Nat.le_succ _
  | changed => exact Nat.le_succ _

end Step

section Runs

variable {Bytes SigningKey VerifyingKey : Type}
  {codec : RegistryCodec Bytes SigningKey VerifyingKey}
  {operations : List (Operation SigningKey VerifyingKey)}

def ValidatedIn (codec : RegistryCodec Bytes SigningKey VerifyingKey)
    (operations : List (Operation SigningKey VerifyingKey)) (tool : ToolRef)
    (record : ToolRecord) : Prop :=
  ∃ past rest, operations = past ++ .validateVersion tool :: rest ∧
    validateToolManifest codec record.manifest.drafted (run codec past).tools = .ok ()

def VerifiedIn (codec : RegistryCodec Bytes SigningKey VerifyingKey)
    (operations : List (Operation SigningKey VerifyingKey)) (tool : ToolRef)
    (record : ToolRecord) : Prop :=
  ∃ past rest, operations = past ++ .activate tool :: rest ∧
    verifySignature codec record.manifest.signature record.manifestHash
      (run codec past).publisherKeys = .ok ()

def Activated (status : ToolVersionStatus) : Prop :=
  status = .active ∨ status = .deprecated ∨ status = .revoked

structure Sound (codec : RegistryCodec Bytes SigningKey VerifyingKey)
    (operations : List (Operation SigningKey VerifyingKey)) (tool : ToolRef)
    (record : ToolRecord) : Prop where
  toolRef : record.manifest.toolRef = tool
  exact : validateExact tool = true
  manifestHash : canonicalManifestHash codec record.manifest = .ok record.manifestHash
  schemaHash : canonicalSchemaPairHash codec record.manifest = .ok record.schemaHash
  revision : record.revision ≤ (run codec operations).revision
  unsigned : record.manifest.status = .draft → record.manifest.drafted = record.manifest
  validated : record.manifest.status ≠ .draft → ValidatedIn codec operations tool record
  verified : Activated record.manifest.status → VerifiedIn codec operations tool record

theorem run_concat (operation : Operation SigningKey VerifyingKey) :
    run codec (operations ++ [operation]) =
      ((run codec operations).perform codec operation).1 := by
  rw [run, List.foldl_append]
  rfl

theorem ValidatedIn.concat {tool : ToolRef} {record record' : ToolRecord}
    (h : ValidatedIn codec operations tool record)
    (hdrafted : record'.manifest.drafted = record.manifest.drafted)
    (operation : Operation SigningKey VerifyingKey) :
    ValidatedIn codec (operations ++ [operation]) tool record' := by
  obtain ⟨past, rest, rfl, hvalid⟩ := h
  exact ⟨past, rest ++ [operation], by simp, hdrafted ▸ hvalid⟩

theorem VerifiedIn.concat {tool : ToolRef} {record record' : ToolRecord}
    (h : VerifiedIn codec operations tool record)
    (hsignature : record'.manifest.signature = record.manifest.signature)
    (hhash : record'.manifestHash = record.manifestHash)
    (operation : Operation SigningKey VerifyingKey) :
    VerifiedIn codec (operations ++ [operation]) tool record' := by
  obtain ⟨past, rest, rfl, hverified⟩ := h
  refine ⟨past, rest ++ [operation], by simp, ?_⟩
  rw [hsignature, hhash]
  exact hverified

theorem Sound.concat {tool : ToolRef} {record : ToolRecord}
    (h : Sound codec operations tool record) (operation : Operation SigningKey VerifyingKey) :
    Sound codec (operations ++ [operation]) tool record where
  toolRef := h.toolRef
  exact := h.exact
  manifestHash := h.manifestHash
  schemaHash := h.schemaHash
  revision := by
    rw [run_concat]
    exact h.revision.trans (revision_le_perform operation)
  unsigned := h.unsigned
  validated hstatus := (h.validated hstatus).concat rfl operation
  verified hstatus := (h.verified hstatus).concat rfl rfl operation

theorem Sound.change {tool : ToolRef} {record : ToolRecord} {manifest : ToolManifest}
    {operation : Operation SigningKey VerifyingKey} (h : Sound codec operations tool record)
    (hchange : Change codec (run codec operations) tool record operation manifest)
    {record' : ToolRecord} (hmanifest : record'.manifest = manifest)
    (hmanifestHash : record'.manifestHash = record.manifestHash)
    (hschemaHash : record'.schemaHash = record.schemaHash)
    (hrevision : record'.revision ≤ (run codec (operations ++ [operation])).revision) :
    Sound codec (operations ++ [operation]) tool record' := by
  have hdrafted : record'.manifest.drafted = record.manifest.drafted :=
    hmanifest ▸ hchange.drafted
  have hfields : record'.manifest.toolRef = record.manifest.toolRef ∧
      canonicalManifestHash codec record'.manifest = canonicalManifestHash codec record.manifest ∧
      canonicalSchemaPairHash codec record'.manifest =
        canonicalSchemaPairHash codec record.manifest := by
    refine ⟨?_, ?_, ?_⟩
    · show record'.manifest.drafted.toolRef = record.manifest.drafted.toolRef
      rw [hdrafted]
    · rw [canonicalManifestHash, hdrafted, canonicalManifestHash]
    · show canonicalSchemaPairHash codec record'.manifest.drafted =
        canonicalSchemaPairHash codec record.manifest.drafted
      rw [hdrafted]
  obtain ⟨htoolRef, hhash, hschema⟩ := hfields
  refine ⟨htoolRef.trans h.toolRef, h.exact, by rw [hhash, hmanifestHash, h.manifestHash],
    by rw [hschema, hschemaHash, h.schemaHash], hrevision, ?_, ?_, ?_⟩
  · intro hstatus
    rw [hmanifest] at hstatus
    cases hchange <;> cases hstatus
  · intro _
    cases hchange with
    | validated hstatus hvalid =>
      exact ⟨operations, [], rfl, by rw [hdrafted, h.unsigned hstatus]; exact hvalid⟩
    | signed _ _ _ _ hstatus => exact (h.validated (by simp [hstatus])).concat hdrafted _
    | activated hstatus => exact (h.validated (by simp [hstatus])).concat hdrafted _
    | deprecated hstatus => exact (h.validated (by simp [hstatus])).concat hdrafted _
    | revoked hstatus =>
      exact (h.validated (by obtain hstatus | hstatus := hstatus <;> simp [hstatus])).concat
        hdrafted _
  · intro hactivated
    rw [hmanifest] at hactivated
    cases hchange with
    | validated => simp [Activated] at hactivated
    | signed => simp [Activated] at hactivated
    | activated hstatus hverified =>
      exact ⟨operations, [], rfl, by rw [hmanifest, hmanifestHash]; exact hverified⟩
    | deprecated hstatus =>
      exact (h.verified (.inl hstatus)).concat (by rw [hmanifest]) hmanifestHash _
    | revoked hstatus =>
      exact (h.verified (hstatus.imp_right .inl)).concat (by rw [hmanifest]) hmanifestHash _

theorem sound_of_run {tool : ToolRef} {record : ToolRecord}
    (hrecord : (run codec operations).tools[key tool]? = some record) :
    Sound codec operations tool record := by
  induction operations using List.reverseRecOn generalizing tool record with
  | nil => cases hrecord
  | append_singleton operations operation ih =>
    have heffect : Effect codec (run codec operations) operation
        (run codec (operations ++ [operation])) := by
      rw [run_concat]
      exact perform_effect codec _ operation
    generalize hnext : run codec (operations ++ [operation]) = registry' at hrecord heffect
    cases heffect with
    | kept _ htools =>
      rw [htools] at hrecord
      exact (ih hrecord).concat operation
    | drafted manifest manifestHash schemaHash hdrafts =>
      rw [getElem?_write] at hrecord
      split at hrecord
      · next htool =>
        cases hrecord
        have hstatus : manifest.status = .draft := by rw [← hdrafts.drafted]; rfl
        exact
          { toolRef := htool
            exact := htool ▸ hdrafts.exact
            manifestHash := hdrafts.manifestHash
            schemaHash := hdrafts.schemaHash
            revision := by rw [hnext]; exact le_rfl
            unsigned := fun _ => hdrafts.drafted
            validated := fun hne => absurd hstatus hne
            verified := fun hactivated => by simp [Activated, hstatus] at hactivated }
      · exact (ih hrecord).concat operation
    | changed tool' old manifest hold hchange =>
      rw [getElem?_write] at hrecord
      split at hrecord
      · next htool =>
        cases hrecord
        subst htool
        exact (ih hold).change hchange rfl rfl rfl (by rw [hnext]; exact le_rfl)
      · exact (ih hrecord).concat operation

theorem revision_ne {tool tool' : ToolRef} {record record' : ToolRecord}
    (hrecord : (run codec operations).tools[key tool]? = some record)
    (hrecord' : (run codec operations).tools[key tool']? = some record') (hne : tool ≠ tool') :
    record.revision ≠ record'.revision := by
  induction operations using List.reverseRecOn generalizing tool tool' record record' with
  | nil => cases hrecord
  | append_singleton operations operation ih =>
    -- Only the written record has the next revision, which is above all the others.
    have hwritten : ∀ {written : ToolRef} {next : ToolRecord},
        run codec (operations ++ [operation]) = (run codec operations).write written next →
        record.revision ≠ record'.revision := by
      intro written next hnext
      rw [hnext, getElem?_write] at hrecord hrecord'
      split at hrecord
      · next htool =>
        rw [if_neg (htool ▸ hne)] at hrecord'
        have hle := (sound_of_run hrecord').revision
        cases hrecord
        exact (Nat.lt_succ_of_le hle).ne'
      · split at hrecord'
        · have hle := (sound_of_run hrecord).revision
          cases hrecord'
          exact (Nat.lt_succ_of_le hle).ne
        · exact ih hrecord hrecord' hne
    have heffect := perform_effect codec (run codec operations) operation
    rw [← run_concat] at heffect
    generalize hnext : run codec (operations ++ [operation]) = registry' at *
    cases heffect with
    | kept _ htools =>
      rw [htools] at hrecord hrecord'
      exact ih hrecord hrecord' hne
    | drafted => exact hwritten rfl
    | changed => exact hwritten rfl

theorem run_record {tool : ToolRef} {record : ToolRecord}
    (hrecord : (run codec operations).tools[key tool]? = some record)
    (more : List (Operation SigningKey VerifyingKey)) :
    ∃ record', (run codec (operations ++ more)).tools[key tool]? = some record' ∧
      record'.manifest.drafted = record.manifest.drafted ∧
      (record.manifest.status = .revoked → record'.manifest.status = .revoked) := by
  induction more using List.reverseRecOn with
  | nil => exact ⟨record, by simpa using hrecord, rfl, id⟩
  | append_singleton more operation ih =>
    obtain ⟨middle, hmiddle, hdrafted, hrevoked⟩ := ih
    rw [← List.append_assoc, run_concat]
    obtain ⟨record', hrecord', hnext⟩ := perform_record codec operation hmiddle
    refine ⟨record', hrecord', ?_⟩
    obtain rfl | hadvances := hnext
    · exact ⟨hdrafted, hrevoked⟩
    · refine ⟨hadvances.drafted.trans hdrafted, fun hstatus => ?_⟩
      have hmoves := hadvances.moves
      rw [hrevoked hstatus] at hmoves
      cases hmoves

theorem validateManifestShape_of_validateToolManifest {manifest : ToolManifest} {tools : Tools}
    (h : validateToolManifest codec manifest tools = .ok ()) :
    validateManifestShape codec manifest = .ok () := by
  unfold validateToolManifest at h
  split at h
  · cases h
  · next hshape => exact hshape

theorem Sound.shape {tool : ToolRef} {record : ToolRecord}
    (h : Sound codec operations tool record) (hstatus : record.manifest.status ≠ .draft) :
    validateManifestShape codec record.manifest.drafted = .ok () := by
  obtain ⟨past, rest, -, hvalid⟩ := h.validated hstatus
  exact validateManifestShape_of_validateToolManifest hvalid

theorem resolveExact_eq_ok {registry : InMemoryToolRegistry VerifyingKey} {tenant : TenantId}
    {tool : ToolRef} {now : DateTime} {snapshot : ResolvedToolSnapshot} :
    registry.resolveExact codec tenant tool now = .ok snapshot ↔
      registry.available = true ∧ validateExact tool = true ∧
        ∃ record, registry.tools[key tool]? = some record ∧ record.manifest.status = .active ∧
          record.manifest.allows tenant = true ∧
          hashed codec (record.manifest.snapshot record.manifestHash record.schemaHash
            record.revision now) = .ok snapshot := by
  unfold InMemoryToolRegistry.resolveExact
  by_cases havailable : registry.available = true
  · by_cases hexact : validateExact tool = true
    · cases hrecord : registry.tools[key tool]? with
      | none => simp [havailable, hexact]
      | some record =>
        by_cases hallows : record.manifest.allows tenant = true
        · cases hstatus : record.manifest.status <;> simp [havailable, hexact, hallows, hstatus]
        · cases hstatus : record.manifest.status <;> simp [havailable, hexact, hallows, hstatus]
    · simp [havailable, hexact]
  · simp [havailable]

/-- Whatever operations a registry has seen: versions move along their lifecycle under higher
revisions, and only active ones resolve, for the tenants they name. -/
theorem versions_follow_lifecycle (codec : RegistryCodec Bytes SigningKey VerifyingKey)
    (operations : List (Operation SigningKey VerifyingKey)) :
    (∀ tool record, (run codec operations).tools[key tool]? = some record →
      canonicalManifestHash codec record.manifest = .ok record.manifestHash ∧
      canonicalSchemaPairHash codec record.manifest = .ok record.schemaHash ∧
      record.revision ≤ (run codec operations).revision ∧
      (Activated record.manifest.status →
        ValidatedIn codec operations tool record ∧ VerifiedIn codec operations tool record) ∧
      (∀ operation, ∃ record',
        (run codec (operations ++ [operation])).tools[key tool]? = some record' ∧
          (record' = record ∨ Moves record.manifest.status record'.manifest.status ∧
            record.revision < record'.revision)) ∧
      (∀ more, ∃ record', (run codec (operations ++ more)).tools[key tool]? = some record' ∧
        record'.manifest.drafted = record.manifest.drafted) ∧
      (record.manifest.status = .revoked → ∀ more tenant now snapshot,
        (run codec (operations ++ more)).resolveExact codec tenant tool now ≠ .ok snapshot)) ∧
    (∀ tool tool' record record', (run codec operations).tools[key tool]? = some record →
      (run codec operations).tools[key tool']? = some record' → tool ≠ tool' →
      record.revision ≠ record'.revision) ∧
    (∀ tenant tool now snapshot,
      (run codec operations).resolveExact codec tenant tool now = .ok snapshot →
      ∃ record, (run codec operations).tools[key tool]? = some record ∧
        record.manifest.status = .active ∧
        record.manifest.allowedTenants.contains tenant = true) := by
  refine ⟨fun tool record hrecord => ?_, fun _ _ _ _ => revision_ne, ?_⟩
  · have hsound := sound_of_run hrecord
    refine ⟨hsound.manifestHash, hsound.schemaHash, hsound.revision, fun hactivated => ?_,
      fun operation => ?_, fun more => ?_, fun hrevoked more tenant now snapshot hresolved => ?_⟩
    · have hstatus : record.manifest.status ≠ .draft := by
        intro hdraft
        simp [Activated, hdraft] at hactivated
      exact ⟨hsound.validated hstatus, hsound.verified hactivated⟩
    · rw [run_concat]
      obtain ⟨record', hrecord', heq | hadvances⟩ := perform_record codec operation hrecord
      · exact ⟨record', hrecord', .inl heq⟩
      · exact ⟨record', hrecord', .inr ⟨hadvances.moves,
          hsound.revision.trans_lt hadvances.revision⟩⟩
    · obtain ⟨record', hrecord', hdrafted, -⟩ := run_record hrecord more
      exact ⟨record', hrecord', hdrafted⟩
    · obtain ⟨record', hrecord', -, hstill⟩ := run_record hrecord more
      obtain ⟨-, -, resolved, hfound, hactive, -⟩ := resolveExact_eq_ok.mp hresolved
      obtain rfl : record' = resolved := Option.some.inj (hrecord'.symm.trans hfound)
      rw [hstill hrevoked] at hactive
      cases hactive
  · intro tenant tool now snapshot hresolved
    obtain ⟨-, -, record, hrecord, hactive, hallows, -⟩ := resolveExact_eq_ok.mp hresolved
    have hshape := (sound_of_run hrecord).shape (by simp [hactive])
    have htenants : record.manifest.drafted.allowedTenants.isEmpty = false :=
      allowedTenants_of_validateManifestShape hshape
    rw [show record.manifest.drafted.allowedTenants = record.manifest.allowedTenants from rfl]
      at htenants
    refine ⟨record, hrecord, hactive, ?_⟩
    simpa [ToolManifest.allows, htenants] using hallows

end Runs

end AgentSphere.Registry
