import AgentSphere.Packs.Manifests

/-!
# Artifacts

An artifact comes with a manifest of its own, which the verifier checks field by field. Its
signature is one of the artifact's digest alone: nothing ties the identity, the provenance, the bill
of materials or the vulnerability severity to it, so that whoever holds one accepted manifest can
edit those.
-/

namespace AgentSphere.Packs

open Concurrency

structure SbomRef where
  format : String
  digest : String
  componentCount : Nat
  deriving DecidableEq

structure BuildProvenance where
  sourceRepository : String
  sourceCommit : String
  builderIdentity : String
  buildDefinitionDigest : String
  builtAt : DateTime
  deriving DecidableEq

structure ArtifactManifest where
  schemaVersion : String
  artifactId : String
  artifactType : String
  version : String
  digest : String
  immutableReference : String
  sbom : SbomRef
  provenance : BuildProvenance
  compatibility : Finset String
  vulnerabilitySeverity : Option String
  signature : SignatureEnvelope
  deriving DecidableEq

variable {Bytes SigningKey VerifyingKey : Type}
  {codec : PackCodec Bytes SigningKey VerifyingKey}

namespace ArtifactManifest

def Vulnerable (artifact : ArtifactManifest) : Prop :=
  artifact.vulnerabilitySeverity ∈ [some "CRITICAL", some "HIGH"]

instance (artifact : ArtifactManifest) : Decidable artifact.Vulnerable :=
  inferInstanceAs (Decidable (artifact.vulnerabilitySeverity ∈ _))

def metadata (artifact : ArtifactManifest) :
    String × String × String × SbomRef × BuildProvenance × Finset String × Option String :=
  (artifact.artifactId, artifact.artifactType, artifact.version, artifact.sbom,
    artifact.provenance, artifact.compatibility, artifact.vulnerabilitySeverity)

end ArtifactManifest

namespace ArtifactVerifier

/-- What `verify_artifact` refuses before it looks at the keys. -/
def ArtifactDenied (verifier : ArtifactVerifier VerifyingKey) (artifact : ArtifactManifest) :
    Prop :=
  artifact.schemaVersion ≠ packSchemaVersion
    ∨ ¬lowerDigest artifact.digest
    ∨ ¬lowerDigest artifact.sbom.digest
    ∨ artifact.provenance.sourceCommit.utf8ByteSize < 7
    ∨ containsText (toAsciiLowercase artifact.immutableReference) ":latest"
    ∨ ¬containsText artifact.immutableReference ("sha256:" ++ artifact.digest)
    ∨ artifact.sbom.format ∉ ["SPDX_JSON", "CYCLONEDX_JSON"]
    ∨ artifact.sbom.componentCount = 0
    ∨ artifact.vulnerabilitySeverity ∉
        [none, some "NONE", some "LOW", some "MEDIUM", some "HIGH", some "CRITICAL"]
    ∨ artifact.signature.subjectDigest ≠ artifact.digest
    ∨ artifact.digest ∈ verifier.revokedDigests
    ∨ artifact.Vulnerable

instance (verifier : ArtifactVerifier VerifyingKey) (artifact : ArtifactManifest) :
    Decidable (verifier.ArtifactDenied artifact) := by
  unfold ArtifactDenied
  infer_instance

def verifyArtifact (codec : PackCodec Bytes SigningKey VerifyingKey)
    (verifier : ArtifactVerifier VerifyingKey) (artifact : ArtifactManifest) :
    Except PackError Unit := do
  require (¬verifier.ArtifactDenied artifact) .artifactDenied
  verifier.verifyPublisher codec artifact.signature.publisherIdentity artifact.digest
    artifact.signature

variable {verifier : ArtifactVerifier VerifyingKey} {artifact : ArtifactManifest}

/-- **What `verifyArtifact` accepts.** -/
theorem verifyArtifact_eq_ok :
    verifier.verifyArtifact codec artifact = .ok () ↔
      ¬verifier.ArtifactDenied artifact ∧
        verifier.verifyPublisher codec artifact.signature.publisherIdentity artifact.digest
          artifact.signature = .ok () := by
  simp only [verifyArtifact, except_bind_eq_ok, require_eq_ok, exists_const]

end ArtifactVerifier

-- What the signature vouches for

/-- Accepted manifests under one envelope have the same metadata, and no manifest is accepted under
the envelope of one that its publisher signed and that is refused for its severity. -/
structure MetadataBound (codec : PackCodec Bytes SigningKey VerifyingKey)
    (verifier : ArtifactVerifier VerifyingKey) : Prop where
  agree : ∀ a b : ArtifactManifest, a.signature = b.signature →
    verifier.verifyArtifact codec a = .ok () → verifier.verifyArtifact codec b = .ok () →
    a.metadata = b.metadata
  refused : ∀ a b : ArtifactManifest, a.signature = b.signature → a.Vulnerable →
    verifier.verifyPublisher codec a.signature.publisherIdentity a.digest a.signature = .ok () →
    verifier.verifyArtifact codec b ≠ .ok ()

def SomethingSigned (codec : PackCodec Bytes SigningKey VerifyingKey)
    (verifier : ArtifactVerifier VerifyingKey) : Prop :=
  ∃ (keyId publisher : String) (key : VerifyingKey) (digest encoded : String),
    verifier.authorizedPublishers[keyId]? = some (publisher, key) ∧
    lowerDigest digest ∧ digest ∉ verifier.revokedDigests ∧
    verifySignature codec key digest encoded = .ok ()

def bareArtifact (artifactId digest : String) (signature : SignatureEnvelope) :
    ArtifactManifest where
  schemaVersion := packSchemaVersion
  artifactId
  artifactType := "container"
  version := "1.0.0"
  digest
  immutableReference := "sha256:" ++ digest
  sbom := { format := "SPDX_JSON", digest, componentCount := 1 }
  provenance :=
    { sourceRepository := "", sourceCommit := "0000000", builderIdentity := ""
      buildDefinitionDigest := "", builtAt := 0 }
  compatibility := ∅
  vulnerabilitySeverity := none
  signature

/-- There is no `t` in a reference that is nothing but a digest. -/
theorem not_latest {digest : String} (h : lowerDigest digest = true) :
    containsText (toAsciiLowercase ("sha256:" ++ digest)) ":latest" = false := by
  refine Bool.eq_false_iff.mpr fun hlatest => ?_
  have ht : 't' ∈ (toAsciiLowercase ("sha256:" ++ digest)).toList :=
    (containsText_iff.mp hlatest).subset (by decide)
  rw [toAsciiLowercase, String.toList_map, String.toList_append, List.map_append,
    List.mem_append] at ht
  rcases ht with hhead | hdigest
  · exact absurd hhead (by decide)
  · obtain ⟨c, hc, hlower⟩ := List.mem_map.mp hdigest
    have hhex := List.all_eq_true.mp (Bool.and_eq_true_iff.mp h).2 c hc
    have hrange : c.toNat ≤ 57 ∨ 97 ≤ c.toNat ∧ c.toNat ≤ 102 := by
      rcases Bool.or_eq_true_iff.mp hhex with hdigit | hletter
      · have hnine : c.val ≤ 57 := by simpa using (Bool.and_eq_true_iff.mp hdigit).2
        exact .inl (UInt32.le_iff_toNat_le.mp hnine)
      · obtain ⟨hge, hle⟩ := Bool.and_eq_true_iff.mp hletter
        exact .inr ⟨UInt32.le_iff_toNat_le.mp (of_decide_eq_true hge),
          UInt32.le_iff_toNat_le.mp (of_decide_eq_true hle)⟩
    have hlow := toNat_toLower c
    rw [hlower] at hlow
    split_ifs at hlow with hupper
    · omega
    · have ht : 't'.toNat = 116 := rfl
      omega

theorem not_denied_bareArtifact {verifier : ArtifactVerifier VerifyingKey}
    {artifactId digest : String} {signature : SignatureEnvelope} (h : lowerDigest digest = true)
    (hsubject : signature.subjectDigest = digest) (hrevoked : digest ∉ verifier.revokedDigests) :
    ¬verifier.ArtifactDenied (bareArtifact artifactId digest signature) := by
  have hlatest := not_latest h
  have hreference := containsText_self ("sha256:" ++ digest)
  simp only [ArtifactVerifier.ArtifactDenied, ArtifactManifest.Vulnerable, bareArtifact]
  simp [h, hsubject, hrevoked, hlatest, hreference]
  decide

theorem somethingSigned_of_verifyArtifact {verifier : ArtifactVerifier VerifyingKey}
    {artifact : ArtifactManifest} (h : verifier.verifyArtifact codec artifact = .ok ()) :
    SomethingSigned codec verifier := by
  obtain ⟨hallowed, hpublisher⟩ := ArtifactVerifier.verifyArtifact_eq_ok.mp h
  simp only [ArtifactVerifier.ArtifactDenied, not_or, not_not] at hallowed
  obtain ⟨-, hdigest, -, -, -, -, -, -, -, -, hrevoked, -⟩ := hallowed
  obtain ⟨key, decoded, hkey, hdecoded, hverifies⟩ :=
    ArtifactVerifier.verifyPublisher_eq_ok.mp hpublisher
  exact ⟨_, _, key, artifact.digest, _, hkey, hdigest, hrevoked,
    verifySignature_eq_ok.mpr ⟨decoded, hdecoded, hverifies⟩⟩

/-- **The metadata is bound only if nothing is accepted**: a signature of one digest carries two
manifests that differ in the identity of the artifact. -/
theorem metadataBound_iff (codec : PackCodec Bytes SigningKey VerifyingKey)
    (verifier : ArtifactVerifier VerifyingKey) :
    MetadataBound codec verifier ↔ ¬SomethingSigned codec verifier := by
  constructor
  · rintro hbound ⟨keyId, publisher, key, digest, encoded, hkey, hdigest, hrevoked, hverified⟩
    let envelope : SignatureEnvelope := ⟨keyId, publisher, digest, encoded, 0⟩
    have haccepted : ∀ artifactId, verifier.verifyArtifact codec
        (bareArtifact artifactId digest envelope) = .ok () := by
      intro artifactId
      obtain ⟨decoded, hdecoded, hverifies⟩ := verifySignature_eq_ok.mp hverified
      exact ArtifactVerifier.verifyArtifact_eq_ok.mpr
        ⟨not_denied_bareArtifact hdigest rfl hrevoked,
          ArtifactVerifier.verifyPublisher_eq_ok.mpr ⟨key, decoded, hkey, hdecoded, hverifies⟩⟩
    have hsame := hbound.agree (bareArtifact "artifact" digest envelope)
      (bareArtifact "other" digest envelope) rfl (haccepted _) (haccepted _)
    exact absurd (Prod.mk.inj hsame).1 (by decide : ("artifact" : String) ≠ "other")
  · intro hnothing
    refine ⟨fun a b _ ha _ => ?_, fun a b _ _ _ hb => ?_⟩
    · exact absurd (somethingSigned_of_verifyArtifact ha) hnothing
    · exact hnothing (somethingSigned_of_verifyArtifact hb)

def sampleEnvelope : SignatureEnvelope where
  keyId := "key"
  publisherIdentity := "publisher:trusted"
  subjectDigest := sampleHash 'a'
  signature := sampleCodec.encode (sampleCodec.sign () (sampleHash 'a'))
  signedAt := 0

def sampleArtifact : ArtifactManifest :=
  { bareArtifact "artifact" (sampleHash 'a') sampleEnvelope with
    vulnerabilitySeverity := some "CRITICAL" }

def sampleVerifier : ArtifactVerifier Unit := ⟨(∅ : BTreeMap String (String × Unit)).insert "key"
  ("publisher:trusted", ()), ∅⟩

/-- The signed manifest is refused for its severity, and a copy without it is accepted. -/
theorem sampleArtifact_swapped :
    sampleVerifier.verifyArtifact sampleCodec sampleArtifact = .error .artifactDenied ∧
      sampleVerifier.verifyArtifact sampleCodec
        { sampleArtifact with vulnerabilitySeverity := none } = .ok () ∧
      ¬MetadataBound sampleCodec sampleVerifier := by
  have hkey : sampleVerifier.authorizedPublishers["key"]? = some ("publisher:trusted", ()) := by
    simp [sampleVerifier]
  have hpublisher : sampleVerifier.verifyPublisher sampleCodec "publisher:trusted"
      (sampleHash 'a') sampleEnvelope = .ok () :=
    ArtifactVerifier.verifyPublisher_eq_ok.mpr
      ⟨(), sampleHash 'a', hkey, rfl, beq_self_eq_true (sampleHash 'a')⟩
  have hdigest : lowerDigest (sampleHash 'a') = true := by decide
  have hswapped : sampleVerifier.verifyArtifact sampleCodec
      { sampleArtifact with vulnerabilitySeverity := none } = .ok () :=
    ArtifactVerifier.verifyArtifact_eq_ok.mpr
      ⟨not_denied_bareArtifact hdigest rfl (Finset.notMem_empty _), hpublisher⟩
  have hvulnerable : sampleArtifact.Vulnerable := by decide
  refine ⟨?_, hswapped, fun hbound => ?_⟩
  · have hdenied : sampleVerifier.ArtifactDenied sampleArtifact := by
      simp [ArtifactVerifier.ArtifactDenied, hvulnerable]
    rw [ArtifactVerifier.verifyArtifact, require, if_neg (not_not.mpr hdenied)]
    rfl
  · exact hbound.refused sampleArtifact { sampleArtifact with vulnerabilitySeverity := none } rfl
      hvulnerable hpublisher hswapped

end AgentSphere.Packs
