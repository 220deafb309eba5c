import AgentSphere.Contracts.Authority
import AgentSphere.Lib.Program

/-!
# Tool manifests

A manifest describes one version of a tool. Its shape is checked when the version is validated and
again whenever a snapshot is rebuilt from it. Canonical JSON, SHA-256, Ed25519 and the compilation
of JSON schemas are parameters.

Names are checked over bytes; all of them accept ASCII only, so that they may be checked over
characters here.
-/

namespace AgentSphere.Registry

open Concurrency

inductive ToolVersionStatus where
  | draft
  | validated
  | signed
  | active
  | deprecated
  | revoked
  deriving DecidableEq, Repr

structure ManifestSignature where
  publisherId : String
  keyId : String
  algorithm : String
  signature : String
  deriving DecidableEq

structure ToolManifest where
  schemaVersion : String
  toolId : ToolId
  toolVersion : ToolVersion
  status : ToolVersionStatus
  domain : String
  displayName : String
  description : String
  inputSchema : Value
  outputSchema : Value
  effectClass : EffectClass
  riskLevel : RiskLevel
  executorProfile : String
  credentialProfile : String
  approvalProfile : String
  compensation : Option CompensationBinding
  limits : ToolLimits
  networkProfileRef : String
  filesystemProfileRef : String
  implementation : ToolImplementation
  allowedTenants : BTreeSet TenantId
  signature : Option ManifestSignature

inductive RegistryError where
  | toolNotFound
  | versionRequired
  | versionNotActive
  | toolRevoked
  | schemaInvalid
  | manifestHashMismatch
  | signatureInvalid
  | implementationDigestMismatch
  | compensationInvalid
  | unavailableFailClosed
  | versionConflict
  | lifecycleInvalid
  deriving DecidableEq, Repr

def registrySchemaVersion : String := "agenttrust.registry.v1"

structure RegistryCodec (Bytes SigningKey VerifyingKey : Type) where
  /-- `serde_jcs::to_vec` of a manifest. -/
  manifestJcs : ToolManifest → Option Bytes
  /-- `serde_jcs::to_vec` of the schemas for arguments and results. -/
  schemaPairJcs : Value × Value → Option Bytes
  /-- `serde_jcs::to_vec` of a snapshot. -/
  snapshotJcs : ResolvedToolSnapshot → Option Bytes
  sha256Hex : Bytes → String
  /-- `str::as_bytes`. -/
  asBytes : String → Bytes
  sign : SigningKey → Bytes → String
  /-- `URL_SAFE_NO_PAD.decode`. -/
  decode : String → Option Bytes
  size : Bytes → Nat
  /-- `Verifier::verify` of some bytes and a signature. -/
  verifies : VerifyingKey → Bytes → Bytes → Bool
  /-- Whether `jsonschema` compiles a schema of draft 2020-12. -/
  compiles : Value → Bool

namespace ToolManifest

def toolRef (manifest : ToolManifest) : ToolRef := ⟨manifest.toolId, manifest.toolVersion⟩

def drafted (manifest : ToolManifest) : ToolManifest :=
  { manifest with status := .draft, signature := none }

end ToolManifest

section Hashes

variable {Bytes SigningKey VerifyingKey : Type}

/-- `canonical_manifest_hash`: the hash covers all but the status and the signature. -/
def canonicalManifestHash (codec : RegistryCodec Bytes SigningKey VerifyingKey)
    (manifest : ToolManifest) : Except RegistryError String :=
  match codec.manifestJcs manifest.drafted with
  | some bytes => .ok (codec.sha256Hex bytes)
  | none => .error .manifestHashMismatch

def canonicalSchemaPairHash (codec : RegistryCodec Bytes SigningKey VerifyingKey)
    (manifest : ToolManifest) : Except RegistryError String :=
  match codec.schemaPairJcs (manifest.inputSchema, manifest.outputSchema) with
  | some bytes => .ok (codec.sha256Hex bytes)
  | none => .error .schemaInvalid

/-- `snapshot_hash`: the hash covers all but itself and the instant. -/
def snapshotHash (codec : RegistryCodec Bytes SigningKey VerifyingKey)
    (snapshot : ResolvedToolSnapshot) : Except RegistryError String :=
  match codec.snapshotJcs { snapshot with snapshotHash := "", resolvedAt := 0 } with
  | some bytes => .ok (codec.sha256Hex bytes)
  | none => .error .manifestHashMismatch

end Hashes

-- Names

def validText (value : String) (maximum : Nat) : Bool :=
  !value.isEmpty && value.length ≤ maximum && value == trim value && !value.toList.any isControl

def validIdentifier (value : String) (maximum : Nat) : Bool :=
  validText value maximum && value.toList.head?.any Char.isAlphanum && isToken value

def validDomain (value : String) : Bool :=
  !value.isEmpty && value.utf8ByteSize ≤ 64 && value.toList.head?.any Char.isLower &&
    value.toList.all fun c => c.isLower || c.isDigit || c == '-'

def validProfileRef (value : String) : Bool :=
  validText value 256 && value.toList.head?.any Char.isAlphanum && isPathToken value

def validToolIdSegment (segment : List Char) : Bool :=
  !segment.isEmpty && segment.length ≤ 63 && segment.head?.any Char.isLower &&
    segment.all (fun c => c.isLower || c.isDigit || c == '-') && segment.getLast? != some '-'

def validToolId (value : String) : Bool :=
  value.utf8ByteSize ≤ 128 && 2 ≤ (value.toList.splitOn '.').length &&
    (value.toList.splitOn '.').all validToolIdSegment

/-- `str::split_once`: what stands before and after the first occurrence. -/
def splitOnce (value : List Char) (separator : Char) : List Char × Option (List Char) :=
  (value.takeWhile (· != separator), (value.dropWhile (· != separator)).tail?)

def validSemverNumber (value : List Char) : Bool :=
  !value.isEmpty && (value == ['0'] || value.head? != some '0') && value.all Char.isDigit

def validSemverIdentifiers (value : List Char) (rejectNumericLeadingZero : Bool) : Bool :=
  !value.isEmpty && (value.splitOn '.').all fun identifier =>
    !identifier.isEmpty && identifier.all (fun c => c.isAlphanum || c == '-') &&
      (!rejectNumericLeadingZero || !identifier.all Char.isDigit || identifier == ['0'] ||
        identifier.head? != some '0')

def validSemver (value : String) : Bool :=
  let (version, build) := splitOnce value.toList '+'
  let (core, prerelease) := splitOnce version '-'
  !value.isEmpty && value.utf8ByteSize ≤ 128 &&
    build.all (fun identifiers =>
      !identifiers.contains '+' && validSemverIdentifiers identifiers false) &&
    prerelease.all (fun identifiers => validSemverIdentifiers identifiers true) &&
    (core.splitOn '.').length == 3 && (core.splitOn '.').all validSemverNumber

/-- `is_sha256_digest`: a digest after `sha256:`. -/
def isSha256Digest (value : String) : Bool :=
  "sha256:".toList.isPrefixOf value.toList && isDigest (String.ofList (value.toList.drop 7))

def isCanonicalUuid (value : String) : Bool :=
  (Uuid.parseStr value).any fun uuid => uuid.toStr == value

-- Schemas

def declaresObject (members : List (String × Value)) : Bool :=
  match members.lookup "type" with
  | some (.string value) => value == "object"
  | some (.array values) => values.any fun value => value.asStr == some "object"
  | _ => false

def closedObject (members : List (String × Value)) : Bool :=
  !declaresObject members || members.lookup "additionalProperties" == some (.bool false)

def localReferences (members : List (String × Value)) : Bool :=
  ["$ref", "$dynamicRef", "$recursiveRef"].all fun keyword =>
    (members.lookup keyword).all fun reference =>
      reference.asStr.any fun text => "#".toList.isPrefixOf text.toList

mutual

/-- `walk`: at most 33 levels of closed objects and local references. -/
def walk : Value → Nat → Bool
  | .object members, depth =>
    depth ≤ 32 && closedObject members && localReferences members &&
      walkMembers members (depth + 1)
  | .array items, depth => depth ≤ 32 && walkItems items (depth + 1)
  | .null, depth => depth ≤ 32
  | .bool _, depth => depth ≤ 32
  | .number _, depth => depth ≤ 32
  | .string _, depth => depth ≤ 32

def walkItems : List Value → Nat → Bool
  | [], _ => true
  | item :: items, depth => walk item depth && walkItems items depth

def walkMembers : List (String × Value) → Nat → Bool
  | [], _ => true
  | (_, value) :: members, depth => walk value depth && walkMembers members depth

end

def validateSchemaSecurity (schema : Value) : Except RegistryError Unit :=
  match schema with
  | .object root =>
    if root.isEmpty ∨
        (root.lookup "$schema").any (fun value =>
          value.asStr != some "https://json-schema.org/draft/2020-12/schema") ∨
        ¬ closedObject root then
      .error .schemaInvalid
    else if walk schema 0 then .ok ()
    else .error .schemaInvalid
  | _ => .error .schemaInvalid

section Shape

variable {Bytes SigningKey VerifyingKey : Type}

def validateNames (manifest : ToolManifest) : Except RegistryError Unit :=
  if manifest.schemaVersion ≠ registrySchemaVersion ∨ ¬ validToolId manifest.toolId ∨
      ¬ validSemver manifest.toolVersion ∨ ¬ validDomain manifest.domain ∨
      ¬ validText manifest.displayName 256 ∨ ¬ validText manifest.description 8192 ∨
      ¬ validProfileRef manifest.executorProfile ∨ ¬ validProfileRef manifest.credentialProfile ∨
      ¬ validProfileRef manifest.approvalProfile ∨ ¬ validProfileRef manifest.networkProfileRef ∨
      ¬ validProfileRef manifest.filesystemProfileRef ∨
      ¬ validProfileRef manifest.implementation.executorId then
    .error .schemaInvalid
  else if manifest.allowedTenants.isEmpty ∨
      ¬ manifest.allowedTenants.toList.all isCanonicalUuid then
    .error .schemaInvalid
  else if manifest.compensation.any fun compensation =>
      !validToolId compensation.tool.toolId || !validSemver compensation.tool.toolVersion ||
        !validProfileRef compensation.preconditionKind then
    .error .compensationInvalid
  else .ok ()

def validateSignatureShape (codec : RegistryCodec Bytes SigningKey VerifyingKey)
    (signature : Option ManifestSignature) : Except RegistryError Unit :=
  match signature with
  | none => .ok ()
  | some signature =>
    match codec.decode signature.signature with
    | none => .error .signatureInvalid
    | some decoded =>
      if signature.algorithm ≠ "Ed25519" ∨ ¬ validIdentifier signature.publisherId 128 ∨
          ¬ validIdentifier signature.keyId 128 ∨ codec.size decoded ≠ 64 then
        .error .signatureInvalid
      else .ok ()

def validateEffect (manifest : ToolManifest) : Except RegistryError Unit :=
  if ¬ isSha256Digest manifest.implementation.digest then .error .implementationDigestMismatch
  else if manifest.limits.timeoutMs = 0 ∨ manifest.limits.timeoutMs > 86400000 ∨
      manifest.limits.maxResultBytes = 0 ∨ manifest.limits.maxResultBytes > 1073741824 then
    .error .schemaInvalid
  else if manifest.effectClass = .pure ∧ manifest.credentialProfile ≠ "none" then
    .error .compensationInvalid
  else if manifest.effectClass = .compensatable ∧ manifest.compensation.isNone then
    .error .compensationInvalid
  else if manifest.effectClass = .irreversible ∧
      (manifest.riskLevel.rank < RiskLevel.high.rank ∨ manifest.approvalProfile = "none") then
    .error .compensationInvalid
  else .ok ()

def validateManifestShape (codec : RegistryCodec Bytes SigningKey VerifyingKey)
    (manifest : ToolManifest) : Except RegistryError Unit := do
  validateNames manifest
  validateSignatureShape codec manifest.signature
  validateSchemaSecurity manifest.inputSchema
  validateSchemaSecurity manifest.outputSchema
  require (codec.compiles manifest.inputSchema = true) .schemaInvalid
  require (codec.compiles manifest.outputSchema = true) .schemaInvalid
  validateEffect manifest

theorem validateManifestShape_eq_ok {codec : RegistryCodec Bytes SigningKey VerifyingKey}
    {manifest : ToolManifest} :
    validateManifestShape codec manifest = .ok () ↔
      validateManifestShape codec manifest.drafted = .ok () ∧
        validateSignatureShape codec manifest.signature = .ok () := by
  have hnames : validateNames manifest.drafted = validateNames manifest := rfl
  have heffect : validateEffect manifest.drafted = validateEffect manifest := rfl
  have hsignature : validateSignatureShape codec manifest.drafted.signature = .ok () := rfl
  simp only [validateManifestShape, except_bind_eq_ok, hnames, heffect, hsignature]
  constructor
  · rintro ⟨u, hn, v, hs, hrest⟩
    exact ⟨⟨u, hn, (), trivial, hrest⟩, hs⟩
  · rintro ⟨⟨u, hn, _, -, hrest⟩, hs⟩
    exact ⟨u, hn, (), hs, hrest⟩

theorem allowedTenants_of_validateManifestShape
    {codec : RegistryCodec Bytes SigningKey VerifyingKey} {manifest : ToolManifest}
    (h : validateManifestShape codec manifest = .ok ()) :
    manifest.allowedTenants.isEmpty = false := by
  obtain ⟨_, hnames, -⟩ := except_bind_eq_ok.mp h
  unfold validateNames at hnames
  split at hnames
  · cases hnames
  · split at hnames
    · cases hnames
    · next htenants =>
      rw [not_or, Bool.not_eq_true] at htenants
      exact htenants.1

end Shape

end AgentSphere.Registry
