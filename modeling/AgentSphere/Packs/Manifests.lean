import AgentSphere.Contracts.Basic
import AgentSphere.Contracts.Text
import AgentSphere.Lib.Program
import Mathlib.Data.Finset.Card

/-!
# Domain packs

A pack travels with a manifest that says what it may do. The publisher signs the manifest: its
digest covers every field but the digest itself, its copy in the envelope and the signature, which
are blanked in the copy that is hashed. The verifier knows which keys publishers sign with and
which digests are revoked.
-/

namespace AgentSphere.Packs

open Concurrency

def packSchemaVersion : String := "agenttrust.domain-pack.v1"

structure SignatureEnvelope where
  keyId : String
  publisherIdentity : String
  subjectDigest : String
  signature : String
  signedAt : DateTime
  deriving DecidableEq

structure PackPermissionDeclaration where
  tools : Finset String
  networkDestinations : Finset String
  dataClasses : Finset String
  secretScopes : Finset String
  executors : Finset String
  approvalScopes : Finset String
  deriving DecidableEq

structure PackToolDefinition where
  toolId : String
  effectClass : EffectClass
  approvalRequired : Bool
  compensationRef : Option String
  irreversibleReason : Option String
  executorTemplate : String
  deriving DecidableEq

structure DomainPackManifest where
  schemaVersion : String
  packId : String
  version : String
  digest : String
  publisherIdentity : String
  description : String
  permissions : PackPermissionDeclaration
  tools : List PackToolDefinition
  policyBundleRef : String
  evaluatorRef : String
  compensationRefs : Finset String
  threatScenarioRefs : Finset String
  artifactRefs : Finset String
  compatibility : Finset String
  signature : SignatureEnvelope
  deriving DecidableEq

inductive PackError where
  | canonicalization
  | manifestInvalid
  | toolInvalid
  | compensationMissing
  | irreversibleControlMissing
  | signatureInvalid
  | publisherUnauthorized
  | artifactDenied
  deriving DecidableEq, Repr

structure PackCodec (Bytes SigningKey VerifyingKey : Type) where
  /-- `serde_jcs::to_vec` of a manifest. -/
  manifestJcs : DomainPackManifest → Option Bytes
  sha256Hex : Bytes → String
  /-- The key that `SigningKey` signs for. -/
  verifyingKey : SigningKey → VerifyingKey
  sign : SigningKey → String → Bytes
  /-- `Signature::from_slice` and `Verifier::verify`. -/
  verifies : VerifyingKey → String → Bytes → Bool
  /-- `URL_SAFE_NO_PAD.encode`. -/
  encode : Bytes → String
  /-- `URL_SAFE_NO_PAD.decode`. -/
  decode : String → Option Bytes

variable {Bytes SigningKey VerifyingKey : Type}
  {codec : PackCodec Bytes SigningKey VerifyingKey}

-- Shapes

/-- `valid_semver`: three groups of digits. -/
def validSemver (version : String) : Bool :=
  (version.toList.splitOn '.').length == 3 &&
    (version.toList.splitOn '.').all fun part => !part.isEmpty && part.all Char.isDigit

def lowerDigest (value : String) : Bool := isDigest value

/-- `immutable_reference`: a digest after its kind. -/
def immutableReference (value kind : String) : Bool :=
  (kind ++ ":sha256:").toList.isPrefixOf value.toList &&
    lowerDigest (String.ofList (value.toList.drop (kind ++ ":sha256:").length))

def boundedIdentifier (value : String) (maximum : Nat) : Bool :=
  !value.isEmpty && value.utf8ByteSize ≤ maximum && value.toList.all isAsciiGraphic

def boundedText (value : String) (maximum : Nat) : Bool :=
  !isBlank value && value.utf8ByteSize ≤ maximum && !value.toList.any isControl

namespace PackSdk

def Malformed (manifest : DomainPackManifest) : Prop :=
  manifest.schemaVersion ≠ packSchemaVersion
    ∨ ¬boundedIdentifier manifest.packId 256
    ∨ ¬validSemver manifest.version
    ∨ ¬boundedText manifest.description 4096
    ∨ ¬immutableReference manifest.policyBundleRef "policy"
    ∨ ¬immutableReference manifest.evaluatorRef "evaluator"
    ∨ manifest.threatScenarioRefs = ∅
    ∨ manifest.artifactRefs = ∅
    ∨ manifest.compatibility = ∅
    ∨ manifest.tools = []
    ∨ 1024 < manifest.tools.length
    ∨ 256 < manifest.artifactRefs.card
    ∨ 256 < manifest.threatScenarioRefs.card
    ∨ 256 < manifest.compatibility.card
    ∨ 1024 < manifest.compensationRefs.card
    ∨ ¬lowerDigest manifest.digest
    ∨ ¬boundedIdentifier manifest.publisherIdentity 256
    ∨ manifest.permissions.tools ≠ (manifest.tools.map (·.toolId)).toFinset
    ∨ manifest.permissions.approvalScopes ≠
        ((manifest.tools.filter (·.approvalRequired)).map (·.toolId)).toFinset
    ∨ manifest.compensationRefs ≠ (manifest.tools.filterMap (·.compensationRef)).toFinset
    ∨ (∃ value ∈ manifest.artifactRefs, ¬immutableReference value "artifact")
    ∨ (∃ value ∈ manifest.threatScenarioRefs, ¬boundedIdentifier value 512)
    ∨ (∃ value ∈ manifest.compatibility, ¬boundedIdentifier value 256)
    ∨ 256 < manifest.permissions.networkDestinations.card
    ∨ 256 < manifest.permissions.dataClasses.card
    ∨ 256 < manifest.permissions.secretScopes.card
    ∨ 256 < manifest.permissions.executors.card
    ∨ 1024 < manifest.permissions.approvalScopes.card
    ∨ (∃ value ∈ manifest.permissions.networkDestinations, ¬boundedIdentifier value 512)
    ∨ (∃ value ∈ manifest.permissions.dataClasses, ¬boundedIdentifier value 256)
    ∨ (∃ value ∈ manifest.permissions.secretScopes, ¬boundedIdentifier value 256)
    ∨ ∃ value ∈ manifest.permissions.executors, ¬boundedIdentifier value 256

instance (manifest : DomainPackManifest) : Decidable (Malformed manifest) := by
  unfold Malformed
  infer_instance

def checkTool (manifest : DomainPackManifest) (tool : PackToolDefinition) :
    Except PackError Unit :=
  if ¬boundedIdentifier tool.toolId 256
      ∨ ¬boundedIdentifier tool.executorTemplate 256
      ∨ containsText tool.executorTemplate "/bin/sh"
      ∨ containsText tool.executorTemplate "bash -c"
      ∨ tool.toolId ∉ manifest.permissions.tools then
    .error .toolInvalid
  else
    match tool.effectClass with
    | .pure | .idempotent =>
      if tool.compensationRef.isSome ∨ tool.irreversibleReason.isSome then .error .toolInvalid
      else .ok ()
    | .compensatable =>
      match tool.compensationRef with
      | none => .error .compensationMissing
      | some compensation =>
        if compensation ∉ manifest.compensationRefs
            ∨ ¬tool.approvalRequired
            ∨ ¬boundedIdentifier compensation 512
            ∨ tool.irreversibleReason.isSome then
          .error .compensationMissing
        else .ok ()
    | .irreversible =>
      if ¬tool.approvalRequired
          ∨ tool.compensationRef.isSome
          ∨ tool.irreversibleReason.all String.isEmpty then
        .error .irreversibleControlMissing
      else .ok ()

def validate (manifest : DomainPackManifest) : Except PackError Unit :=
  if Malformed manifest then .error .manifestInvalid
  else manifest.tools.forM (checkTool manifest)

end PackSdk

namespace DomainPackManifest

def blanked (manifest : DomainPackManifest) : DomainPackManifest :=
  { manifest with
    digest := ""
    signature := { manifest.signature with subjectDigest := "", signature := "" } }

def computeDigest (codec : PackCodec Bytes SigningKey VerifyingKey)
    (manifest : DomainPackManifest) : Except PackError String :=
  match codec.manifestJcs manifest.blanked with
  | some bytes => .ok (codec.sha256Hex bytes)
  | none => .error .canonicalization

def stamped (manifest : DomainPackManifest) (keyId : String) (now : DateTime) :
    DomainPackManifest :=
  { manifest with
    signature := { manifest.signature with
      keyId, publisherIdentity := manifest.publisherIdentity, signedAt := now } }

def sealed (codec : PackCodec Bytes SigningKey VerifyingKey) (manifest : DomainPackManifest)
    (key : SigningKey) (digest : String) : DomainPackManifest :=
  { manifest with
    digest
    signature := { manifest.signature with
      subjectDigest := digest, signature := codec.encode (codec.sign key digest) } }

/-- `sign`, which writes to the manifest it is called on. -/
def sign (codec : PackCodec Bytes SigningKey VerifyingKey) (manifest : DomainPackManifest)
    (keyId : String) (key : SigningKey) (now : DateTime) :
    Except PackError Unit × DomainPackManifest :=
  if keyId = "" ∨ manifest.publisherIdentity = "" then (.error .manifestInvalid, manifest)
  else
    match (manifest.stamped keyId now).computeDigest codec with
    | .ok digest => (.ok (), (manifest.stamped keyId now).sealed codec key digest)
    | .error error => (.error error, manifest.stamped keyId now)

end DomainPackManifest

-- The verifier

structure ArtifactVerifier (VerifyingKey : Type) where
  authorizedPublishers : BTreeMap String (String × VerifyingKey)
  revokedDigests : Finset String

def verifySignature (codec : PackCodec Bytes SigningKey VerifyingKey) (key : VerifyingKey)
    (digest encoded : String) : Except PackError Unit :=
  match codec.decode encoded with
  | none => .error .signatureInvalid
  | some decoded => require (codec.verifies key digest decoded) .signatureInvalid

namespace ArtifactVerifier

/-- `authorize_publisher`: a key id names one publisher and one key. -/
def authorizePublisher (verifier : ArtifactVerifier VerifyingKey) (keyId publisher : String)
    (key : VerifyingKey) : ArtifactVerifier VerifyingKey :=
  { verifier with
    authorizedPublishers := verifier.authorizedPublishers.insert keyId (publisher, key) }

def revokeDigest (verifier : ArtifactVerifier VerifyingKey) (digest : String) :
    ArtifactVerifier VerifyingKey :=
  { verifier with revokedDigests := insert digest verifier.revokedDigests }

def verifyPublisher (codec : PackCodec Bytes SigningKey VerifyingKey)
    (verifier : ArtifactVerifier VerifyingKey) (publisherIdentity digest : String)
    (signature : SignatureEnvelope) : Except PackError Unit :=
  match verifier.authorizedPublishers[signature.keyId]? with
  | none => .error .publisherUnauthorized
  | some (publisher, key) =>
    if publisher ≠ publisherIdentity then .error .publisherUnauthorized
    else verifySignature codec key digest signature.signature

def verifyPack (codec : PackCodec Bytes SigningKey VerifyingKey)
    (verifier : ArtifactVerifier VerifyingKey) (manifest : DomainPackManifest) :
    Except PackError Unit := do
  PackSdk.validate manifest
  require (manifest.digest ∉ verifier.revokedDigests) .signatureInvalid
  let digest ← manifest.computeDigest codec
  require (manifest.digest = digest
    ∧ manifest.signature.subjectDigest = manifest.digest
    ∧ manifest.signature.publisherIdentity = manifest.publisherIdentity) .signatureInvalid
  verifier.verifyPublisher codec manifest.publisherIdentity manifest.digest manifest.signature

end ArtifactVerifier

-- What the checks accept

theorem verifySignature_eq_ok {key : VerifyingKey} {digest encoded : String} :
    verifySignature codec key digest encoded = .ok () ↔
      ∃ decoded, codec.decode encoded = some decoded ∧
        codec.verifies key digest decoded = true := by
  unfold verifySignature
  cases codec.decode encoded with
  | none => simp
  | some decoded => simp

namespace ArtifactVerifier

variable {verifier : ArtifactVerifier VerifyingKey} {manifest : DomainPackManifest}

theorem verifyPublisher_eq_ok {publisherIdentity digest : String}
    {signature : SignatureEnvelope} :
    verifier.verifyPublisher codec publisherIdentity digest signature = .ok () ↔
      ∃ key decoded,
        verifier.authorizedPublishers[signature.keyId]? = some (publisherIdentity, key) ∧
        codec.decode signature.signature = some decoded ∧
        codec.verifies key digest decoded = true := by
  unfold verifyPublisher
  cases verifier.authorizedPublishers[signature.keyId]? with
  | none => simp
  | some entry =>
    obtain ⟨publisher, key⟩ := entry
    by_cases hpublisher : publisher = publisherIdentity
    · simp [hpublisher, verifySignature_eq_ok]
    · simp [hpublisher]

structure Intact (codec : PackCodec Bytes SigningKey VerifyingKey)
    (manifest : DomainPackManifest) : Prop where
  valid : PackSdk.validate manifest = .ok ()
  digest : manifest.computeDigest codec = .ok manifest.digest
  subject : manifest.signature.subjectDigest = manifest.digest
  publisher : manifest.signature.publisherIdentity = manifest.publisherIdentity

/-- **What `verifyPack` accepts.** -/
theorem verifyPack_eq_ok :
    verifier.verifyPack codec manifest = .ok () ↔
      Intact codec manifest ∧ manifest.digest ∉ verifier.revokedDigests ∧
        verifier.verifyPublisher codec manifest.publisherIdentity manifest.digest
          manifest.signature = .ok () := by
  simp only [verifyPack, except_bind_eq_ok, require_eq_ok]
  constructor
  · rintro ⟨⟨⟩, hvalid, ⟨⟩, hrevoked, digest, hdigest, ⟨⟩, ⟨rfl, hsubject, hpublisher⟩, h⟩
    exact ⟨⟨hvalid, hdigest, hsubject, hpublisher⟩, hrevoked, h⟩
  · rintro ⟨⟨hvalid, hdigest, hsubject, hpublisher⟩, hrevoked, h⟩
    exact ⟨(), hvalid, (), hrevoked, _, hdigest, (), ⟨rfl, hsubject, hpublisher⟩, h⟩

theorem verifyPack_of_revoked (hvalid : PackSdk.validate manifest = .ok ())
    (h : manifest.digest ∈ verifier.revokedDigests) :
    verifier.verifyPack codec manifest = .error .signatureInvalid := by
  rw [verifyPack, hvalid, require, if_neg (not_not.mpr h)]
  rfl

end ArtifactVerifier

namespace DomainPackManifest

variable {manifest signed : DomainPackManifest} {keyId : String} {key : SigningKey}
  {now : DateTime}

/-- **What `sign` makes.** -/
theorem sign_eq_ok (h : manifest.sign codec keyId key now = (.ok (), signed)) :
    ∃ digest, (manifest.stamped keyId now).computeDigest codec = .ok digest ∧
      signed = (manifest.stamped keyId now).sealed codec key digest := by
  unfold sign at h
  split_ifs at h with hempty
  · cases h
  split at h
  · next digest hdigest => exact ⟨digest, hdigest, (Prod.mk.inj h).2.symm⟩
  · cases h

theorem intact_of_sign (h : manifest.sign codec keyId key now = (.ok (), signed))
    (hvalid : PackSdk.validate signed = .ok ()) : ArtifactVerifier.Intact codec signed := by
  obtain ⟨digest, hdigest, rfl⟩ := sign_eq_ok h
  exact ⟨hvalid, hdigest, rfl, rfl⟩

theorem envelope_of_sign (h : manifest.sign codec keyId key now = (.ok (), signed)) :
    signed.signature.keyId = keyId ∧ signed.signature.subjectDigest = signed.digest ∧
      signed.signature.signature = codec.encode (codec.sign key signed.digest) := by
  obtain ⟨digest, -, rfl⟩ := sign_eq_ok h
  exact ⟨rfl, rfl, rfl⟩

theorem eq_of_blanked_eq {a b : DomainPackManifest} (h : a.blanked = b.blanked)
    (hdigest : a.digest = b.digest)
    (hsubject : a.signature.subjectDigest = b.signature.subjectDigest)
    (hsignature : a.signature.signature = b.signature.signature) : a = b := by
  have hfilled : ∀ m : DomainPackManifest, m = { m.blanked with
      digest := m.digest
      signature := { m.blanked.signature with
        subjectDigest := m.signature.subjectDigest, signature := m.signature.signature } } :=
    fun _ => rfl
  rw [hfilled a, hfilled b, h, hdigest, hsubject, hsignature]

end DomainPackManifest

/-- One call of `sign`. -/
structure Signing (SigningKey : Type) where
  drafted : DomainPackManifest
  keyId : String
  key : SigningKey
  now : DateTime

def Signing.makes (codec : PackCodec Bytes SigningKey VerifyingKey) (signing : Signing SigningKey)
    (manifest : DomainPackManifest) : Prop :=
  signing.drafted.sign codec signing.keyId signing.key signing.now = (.ok (), manifest)

structure PackCodec.Sound (codec : PackCodec Bytes SigningKey VerifyingKey) : Prop where
  decode_encode : ∀ bytes, codec.decode (codec.encode bytes) = some bytes
  /-- No padding and no trailing bits are accepted, so that bytes have one text. -/
  encode_decode : ∀ text bytes, codec.decode text = some bytes → text = codec.encode bytes
  verifies_sign : ∀ key text,
    codec.verifies (codec.verifyingKey key) text (codec.sign key text) = true

/-- The signature of the manifest is no forgery: if it is accepted under the key that its key id
stands for, it was made for that digest by one of the calls. -/
def NotForged (codec : PackCodec Bytes SigningKey VerifyingKey)
    (verifier : ArtifactVerifier VerifyingKey) (signings : List (Signing SigningKey))
    (manifest : DomainPackManifest) : Prop :=
  ∀ publisher key decoded,
    verifier.authorizedPublishers[manifest.signature.keyId]? = some (publisher, key) →
    codec.decode manifest.signature.signature = some decoded →
    codec.verifies key manifest.digest decoded = true →
    ∃ signing ∈ signings, ∃ signed, signing.makes codec signed ∧
      codec.verifyingKey signing.key = key ∧ signed.digest = manifest.digest ∧
      codec.sign signing.key signed.digest = decoded

def CollisionFree (codec : PackCodec Bytes SigningKey VerifyingKey)
    (signings : List (Signing SigningKey)) (manifest : DomainPackManifest) : Prop :=
  ∀ signing ∈ signings, ∀ signed digest, signing.makes codec signed →
    signed.computeDigest codec = .ok digest → manifest.computeDigest codec = .ok digest →
    manifest.blanked = signed.blanked

-- Runs of the verifier

inductive VerifierCall (VerifyingKey : Type) where
  | authorizePublisher (keyId publisher : String) (key : VerifyingKey)
  | revokeDigest (digest : String)

namespace ArtifactVerifier

variable {verifier : ArtifactVerifier VerifyingKey} {manifest : DomainPackManifest}

def serve (verifier : ArtifactVerifier VerifyingKey) :
    VerifierCall VerifyingKey → ArtifactVerifier VerifyingKey
  | .authorizePublisher keyId publisher key => verifier.authorizePublisher keyId publisher key
  | .revokeDigest digest => verifier.revokeDigest digest

def after (verifier : ArtifactVerifier VerifyingKey) (calls : List (VerifierCall VerifyingKey)) :
    ArtifactVerifier VerifyingKey :=
  calls.foldl serve verifier

theorem mem_revokedDigests_after {digest : String}
    (calls : List (VerifierCall VerifyingKey)) (verifier : ArtifactVerifier VerifyingKey) :
    digest ∈ (verifier.after calls).revokedDigests ↔
      digest ∈ verifier.revokedDigests ∨ .revokeDigest digest ∈ calls := by
  induction calls generalizing verifier with
  | nil => simp [after]
  | cons call calls ih =>
    refine (ih (verifier.serve call)).trans ?_
    cases call with
    | authorizePublisher keyId publisher key => simp [serve, authorizePublisher]
    | revokeDigest revoked =>
      simp only [serve, revokeDigest, Finset.mem_insert, List.mem_cons,
        VerifierCall.revokeDigest.injEq]
      tauto

theorem verifyPack_of_sign (hsound : codec.Sound) {signing : Signing SigningKey}
    (hsigned : signing.makes codec manifest) (hvalid : PackSdk.validate manifest = .ok ())
    (hkey : verifier.authorizedPublishers[manifest.signature.keyId]? =
      some (manifest.publisherIdentity, codec.verifyingKey signing.key)) :
    verifier.verifyPack codec manifest = .ok () ↔ manifest.digest ∉ verifier.revokedDigests := by
  obtain ⟨-, -, hsignature⟩ := DomainPackManifest.envelope_of_sign hsigned
  have hpublisher : verifier.verifyPublisher codec manifest.publisherIdentity manifest.digest
      manifest.signature = .ok () := by
    refine verifyPublisher_eq_ok.mpr ⟨_, _, hkey, ?_, hsound.verifies_sign signing.key _⟩
    rw [hsignature, hsound.decode_encode]
  rw [verifyPack_eq_ok]
  exact ⟨fun h => h.2.1, fun h =>
    ⟨DomainPackManifest.intact_of_sign hsigned hvalid, h, hpublisher⟩⟩

theorem signed_of_verifyPack (hsound : codec.Sound) {signings : List (Signing SigningKey)}
    (hforged : NotForged codec verifier signings manifest)
    (hcollision : CollisionFree codec signings manifest)
    (h : verifier.verifyPack codec manifest = .ok ()) :
    ∃ signing ∈ signings, signing.makes codec manifest ∧
      verifier.authorizedPublishers[manifest.signature.keyId]? =
        some (manifest.publisherIdentity, codec.verifyingKey signing.key) := by
  obtain ⟨hintact, -, hpublisher⟩ := verifyPack_eq_ok.mp h
  obtain ⟨key, decoded, hkey, hdecoded, hverifies⟩ := verifyPublisher_eq_ok.mp hpublisher
  obtain ⟨signing, hmem, signed, hsigned, rfl, hdigest, hdecoded'⟩ :=
    hforged _ _ _ hkey hdecoded hverifies
  obtain ⟨-, hsubject, hsignature⟩ := DomainPackManifest.envelope_of_sign hsigned
  -- the digest of the signed manifest was computed over its copy, as that of the accepted one is
  have hcomputed : signed.computeDigest codec = .ok signed.digest := by
    obtain ⟨digest, hcomputed, rfl⟩ := DomainPackManifest.sign_eq_ok hsigned
    exact hcomputed
  have hblanked := hcollision signing hmem signed manifest.digest hsigned (hdigest ▸ hcomputed)
    hintact.digest
  obtain rfl : manifest = signed := by
    refine DomainPackManifest.eq_of_blanked_eq hblanked hdigest.symm ?_ ?_
    · rw [hintact.subject, hsubject, hdigest]
    · rw [hsignature, hdecoded', hsound.encode_decode _ _ hdecoded]
  exact ⟨signing, hmem, hsigned, hkey⟩

end ArtifactVerifier

/-- **Pack manifests are tamper evident**: what was signed and not revoked is accepted, and what is
accepted was signed, in every field, with the key of its publisher. -/
theorem packs_are_tamper_evident (hsound : codec.Sound)
    (verifier : ArtifactVerifier VerifyingKey) (calls : List (VerifierCall VerifyingKey))
    (manifest : DomainPackManifest) :
    (∀ signing : Signing SigningKey, signing.makes codec manifest →
      PackSdk.validate manifest = .ok () →
      ((verifier.after calls).authorizedPublishers[manifest.signature.keyId]? =
          some (manifest.publisherIdentity, codec.verifyingKey signing.key) →
        ((verifier.after calls).verifyPack codec manifest = .ok () ↔
          manifest.digest ∉ verifier.revokedDigests ∧ .revokeDigest manifest.digest ∉ calls)) ∧
      (manifest.digest ∈ verifier.revokedDigests ∨ .revokeDigest manifest.digest ∈ calls →
        (verifier.after calls).verifyPack codec manifest = .error .signatureInvalid)) ∧
    ∀ signings : List (Signing SigningKey),
      NotForged codec (verifier.after calls) signings manifest →
      CollisionFree codec signings manifest →
      (verifier.after calls).verifyPack codec manifest = .ok () →
      ∃ signing ∈ signings, signing.makes codec manifest ∧
        (verifier.after calls).authorizedPublishers[manifest.signature.keyId]? =
          some (manifest.publisherIdentity, codec.verifyingKey signing.key) := by
  refine ⟨fun signing hsigned hvalid => ⟨fun hkey => ?_, fun hrevoked => ?_⟩, fun signings => ?_⟩
  · rw [ArtifactVerifier.verifyPack_of_sign hsound hsigned hvalid hkey,
      ArtifactVerifier.mem_revokedDigests_after, not_or]
  · exact ArtifactVerifier.verifyPack_of_revoked hvalid
      ((ArtifactVerifier.mem_revokedDigests_after calls verifier).mpr hrevoked)
  · exact ArtifactVerifier.signed_of_verifyPack hsound

-- A sample

def sampleDrafted : DomainPackManifest where
  schemaVersion := packSchemaVersion
  packId := "coding"
  version := "1.0.0"
  digest := ""
  publisherIdentity := "publisher:trusted"
  description := "coding"
  permissions :=
    { tools := {"coding.repo_read"}, networkDestinations := ∅, dataClasses := ∅, secretScopes := ∅
      executors := ∅, approvalScopes := ∅ }
  tools :=
    [{ toolId := "coding.repo_read", effectClass := .pure, approvalRequired := false
       compensationRef := none, irreversibleReason := none, executorTemplate := "reader" }]
  policyBundleRef := "policy:sha256:" ++ sampleHash 'b'
  evaluatorRef := "evaluator:sha256:" ++ sampleHash 'c'
  compensationRefs := ∅
  threatScenarioRefs := {"threat"}
  artifactRefs := {"artifact:sha256:" ++ sampleHash 'd'}
  compatibility := {"v1"}
  signature :=
    { keyId := "", publisherIdentity := "", subjectDigest := "", signature := "", signedAt := 0 }

/-- Canonical JSON and SHA-256 at the one manifest that is hashed; the signature of a text is the
text. -/
def sampleCodec : PackCodec String Unit Unit where
  manifestJcs manifest :=
    if manifest = (sampleDrafted.stamped "key" 0).blanked then some "coding" else none
  sha256Hex _ := sampleHash 'a'
  verifyingKey key := key
  sign _ text := text
  verifies _ text bytes := text == bytes
  encode bytes := bytes
  decode text := some text

theorem sampleCodec_sound : sampleCodec.Sound where
  decode_encode _ := rfl
  encode_decode _ _ h := Option.some.inj h
  verifies_sign _ text := beq_self_eq_true text

def sampleManifest : DomainPackManifest :=
  (sampleDrafted.stamped "key" 0).sealed sampleCodec () (sampleHash 'a')

def sampleSigning : Signing Unit := ⟨sampleDrafted, "key", (), 0⟩

theorem sampleSigning_makes : sampleSigning.makes sampleCodec sampleManifest := by
  unfold Signing.makes DomainPackManifest.sign DomainPackManifest.computeDigest
  simp [sampleSigning, sampleCodec, sampleManifest, sampleDrafted]

theorem validate_sampleManifest : PackSdk.validate sampleManifest = .ok () := by
  decide

def sampleAuthorized : VerifierCall Unit := .authorizePublisher "key" "publisher:trusted" ()

def sampleRevoked : VerifierCall Unit := .revokeDigest (sampleHash 'a')

theorem authorized_sampleManifest (calls : List (VerifierCall Unit))
    (h : calls = [sampleAuthorized] ∨ calls = [sampleAuthorized, sampleRevoked]) :
    ((ArtifactVerifier.mk ∅ ∅ : ArtifactVerifier Unit).after calls).authorizedPublishers[
        sampleManifest.signature.keyId]? =
      some (sampleManifest.publisherIdentity, sampleCodec.verifyingKey ()) := by
  have hkeyId : sampleManifest.signature.keyId = "key" := rfl
  rcases h with rfl | rfl
  all_goals
    simp [ArtifactVerifier.after, ArtifactVerifier.serve, ArtifactVerifier.authorizePublisher,
      ArtifactVerifier.revokeDigest, sampleAuthorized, sampleRevoked, hkeyId]
    rfl

theorem notForged_sampleManifest (verifier : ArtifactVerifier Unit) :
    NotForged sampleCodec verifier [sampleSigning] sampleManifest := by
  intro publisher key decoded _ hdecoded _
  exact ⟨sampleSigning, List.mem_singleton_self _, sampleManifest, sampleSigning_makes, rfl, rfl,
    Option.some.inj hdecoded⟩

theorem collisionFree_sampleManifest :
    CollisionFree sampleCodec [sampleSigning] sampleManifest := by
  intro signing hmem signed digest hsigned _ _
  obtain rfl := List.mem_singleton.mp hmem
  obtain ⟨_, _, rfl⟩ := DomainPackManifest.sign_eq_ok hsigned
  rfl

/-- The sample is accepted when its key is authorized, is refused when its digest is revoked, and
is what was signed. -/
theorem sampleManifest_tamper_evident :
    ((ArtifactVerifier.mk ∅ ∅ : ArtifactVerifier Unit).after [sampleAuthorized]).verifyPack
        sampleCodec sampleManifest = .ok () ∧
      ((ArtifactVerifier.mk ∅ ∅ : ArtifactVerifier Unit).after
        [sampleAuthorized, sampleRevoked]).verifyPack sampleCodec sampleManifest =
          .error .signatureInvalid ∧
      ∃ signing ∈ [sampleSigning], signing.makes sampleCodec sampleManifest := by
  have hfresh := packs_are_tamper_evident sampleCodec_sound ⟨∅, ∅⟩ [sampleAuthorized] sampleManifest
  have hlater := packs_are_tamper_evident sampleCodec_sound ⟨∅, ∅⟩
    [sampleAuthorized, sampleRevoked] sampleManifest
  have haccepted := ((hfresh.1 sampleSigning sampleSigning_makes validate_sampleManifest).1
    (authorized_sampleManifest _ (.inl rfl))).mpr
      ⟨Finset.notMem_empty _, by simp [sampleAuthorized]⟩
  obtain ⟨signing, hmem, hsigned, -⟩ := hfresh.2 [sampleSigning] (notForged_sampleManifest _)
    collisionFree_sampleManifest haccepted
  refine ⟨haccepted, ?_, signing, hmem, hsigned⟩
  exact (hlater.1 sampleSigning sampleSigning_makes validate_sampleManifest).2
    (.inr (by simp [sampleRevoked, sampleManifest, DomainPackManifest.sealed]))

end AgentSphere.Packs
