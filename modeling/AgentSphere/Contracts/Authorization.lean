import AgentSphere.Contracts.Authority
import AgentSphere.Lib.Program

/-!
# Execution authorizations

An authorization carries evidence of its own contents and a signature over both. `verify` is what
every executor asks before it acts on one. Canonical JSON, SHA-256 and Ed25519 are parameters
(`AuthorizationCodec`).
-/

namespace AgentSphere

open Concurrency

def executionAuthorizationSchemaVersion : String := "agenttrust.execution-authorization.v2"
def pepExecutionAuthorizationKeyUsage : String := "PEP_EXECUTION_AUTHORIZATION"

inductive ContractError where
  | canonicalization
  | scopeExceeded
  | expired
  | signatureInvalid
  deriving DecidableEq, Repr

def validIdempotencyKey (value : String) : Bool := boundedNonempty value 128 && isToken value

/-- `valid_implementation_digest`: a digest after `sha256:`. -/
def validImplementationDigest (value : String) : Bool :=
  "sha256:".toList.isPrefixOf value.toList && isDigest (String.ofList (value.toList.drop 7))

structure AuthorizationCodec (Bytes : Type) where
  /-- `serde_jcs::to_vec`. -/
  jcs : ExecutionAuthorization → Option Bytes
  sha256Hex : Bytes → String
  sign : Bytes → String
  /-- Whether a text reads as a signature of the bytes under the verifying key. -/
  verifies : Bytes → String → Bool

namespace ExecutionAuthorization

variable {Bytes : Type}

def withoutEvidence (authorization : ExecutionAuthorization) : ExecutionAuthorization :=
  { authorization with
    authorizationEvidenceRef := "", authorizationEvidenceDigest := "", signature := "" }

def computeEvidenceDigest (codec : AuthorizationCodec Bytes)
    (authorization : ExecutionAuthorization) : Except ContractError String :=
  match codec.jcs authorization.withoutEvidence with
  | some bytes => .ok (codec.sha256Hex bytes)
  | none => .error .canonicalization

def evidenceRefFor (tenantId : TenantId) (authorizationId evidenceDigest : String) : String :=
  "urn:agenttrust:pep-authorization:" ++ tenantId ++ ":" ++ authorizationId ++ ":sha256:" ++
    evidenceDigest

def bindEvidence (codec : AuthorizationCodec Bytes) (authorization : ExecutionAuthorization) :
    Except ContractError ExecutionAuthorization := do
  let cleared := authorization.withoutEvidence
  let digest ← cleared.computeEvidenceDigest codec
  pure
    { cleared with
      authorizationEvidenceDigest := digest
      authorizationEvidenceRef :=
        evidenceRefFor cleared.tenantId cleared.authorizationId digest }

def signingBytes (codec : AuthorizationCodec Bytes) (authorization : ExecutionAuthorization) :
    Except ContractError Bytes :=
  match codec.jcs { authorization with signature := "" } with
  | some bytes => .ok bytes
  | none => .error .canonicalization

def sign (codec : AuthorizationCodec Bytes) (authorization : ExecutionAuthorization) :
    Except ContractError ExecutionAuthorization := do
  let bytes ← authorization.signingBytes codec
  pure { authorization with signature := codec.sign bytes }

-- The checks of `verify` before it looks at the clock, by kind; each fails with the same error.

def constantsOk (a : ExecutionAuthorization) : Bool :=
  a.schemaVersion = executionAuthorizationSchemaVersion &&
    a.keyUsage = pepExecutionAuthorizationKeyUsage &&
    a.workloadCredentialAudience = "tool-proxy" && a.singleUse

def identifiersOk (a : ExecutionAuthorization) : Bool :=
  isUuid a.authorizationId && isUuid a.tenantId && isUuid a.taskId && isUuid a.stepId &&
    isUuid a.agentInstanceId && isUuid a.ledgerExecutionId && isUuid a.ledgerEventId &&
    isUuid a.workloadCredentialId

def digestsOk (a : ExecutionAuthorization) : Bool :=
  isDigest a.ledgerEventDigest && isDigest a.actionHash && isDigest a.toolSnapshotHash &&
    isDigest a.canonicalArgumentsHash && isDigest a.fenceDigest && isDigest a.policyBundleHash &&
    isDigest a.policyInputHash && isDigest a.preapprovalDigest && isDigest a.policyDecisionDigest &&
    isDigest a.workloadCredentialClaimsDigest && validImplementationDigest a.implementationDigest

def approvalsOk (a : ExecutionAuthorization) : Bool :=
  a.approvalReceiptDigest.all isDigest && a.approvalIds.length ≤ 64 &&
    decide a.approvalIds.Nodup && a.approvalIds.all isUuid &&
    (a.approvalConsumptionRef.isSome && a.approvalReceiptDigest.isSome) != a.approvalIds.isEmpty &&
    a.approvalConsumptionRef.isSome = a.approvalReceiptDigest.isSome &&
    a.approvalConsumptionRef.all (boundedNonempty · 2048)

def textsOk (a : ExecutionAuthorization) : Bool :=
  boundedNonempty a.toolId 256 && boundedNonempty a.toolVersion 256 &&
    boundedNonempty a.executorProfile 256 && boundedNonempty a.operation 256 &&
    boundedNonempty a.resource 2048 && boundedNonempty a.targetProfile 256 &&
    boundedNonempty a.environment 128 && validIdempotencyKey a.idempotencyKey &&
    boundedNonempty a.policyDecisionId 256 && boundedNonempty a.policyVersion 256 &&
    boundedNonempty a.resourceVersion 256 && boundedNonempty a.sandboxProfile 256 &&
    boundedNonempty a.networkProfile 256 && boundedNonempty a.credentialProfile 256 &&
    boundedNonempty a.issuer 256 && boundedNonempty a.keyId 256

def limitsOk (a : ExecutionAuthorization) : Bool :=
  a.maxExecutionMs ≠ 0 && a.maxExecutionMs ≤ 86400000 && a.maxResultBytes ≠ 0 &&
    a.maxResultBytes ≤ 1073741824

def windowOk (a : ExecutionAuthorization) : Bool :=
  a.issuedAt < a.expiresAt && a.expiresAt - a.issuedAt ≤ 300 * 1000000000

def scopeOk (a : ExecutionAuthorization) : Bool :=
  a.constantsOk && a.identifiersOk && a.digestsOk && a.approvalsOk && a.textsOk && a.limitsOk &&
    a.windowOk

def verify (codec : AuthorizationCodec Bytes) (authorization : ExecutionAuthorization)
    (now : DateTime) : Except ContractError Unit := do
  require authorization.scopeOk ContractError.scopeExceeded
  require (authorization.issuedAt ≤ now ∧ now < authorization.expiresAt) ContractError.expired
  let bytes ← authorization.signingBytes codec
  require (codec.verifies bytes authorization.signature) ContractError.signatureInvalid
  require (isDigest authorization.authorizationEvidenceDigest ∧
    authorization.authorizationEvidenceRef =
      evidenceRefFor authorization.tenantId authorization.authorizationId
        authorization.authorizationEvidenceDigest) ContractError.scopeExceeded
  let digest ← authorization.computeEvidenceDigest codec
  require (digest = authorization.authorizationEvidenceDigest) ContractError.scopeExceeded

variable {codec : AuthorizationCodec Bytes} {a b : ExecutionAuthorization}

theorem computeEvidenceDigest_eq_ok {digest : String} :
    a.computeEvidenceDigest codec = .ok digest ↔
      ∃ evidence, codec.jcs a.withoutEvidence = some evidence ∧
        codec.sha256Hex evidence = digest := by
  unfold computeEvidenceDigest
  cases codec.jcs a.withoutEvidence with
  | none => simp
  | some evidence => simp

theorem signingBytes_eq_ok {bytes : Bytes} :
    a.signingBytes codec = .ok bytes ↔ codec.jcs { a with signature := "" } = some bytes := by
  unfold signingBytes
  cases codec.jcs { a with signature := "" } with
  | none => simp
  | some bytes' => simp

theorem bindEvidence_eq_ok :
    a.bindEvidence codec = .ok b ↔
      ∃ evidence, codec.jcs a.withoutEvidence = some evidence ∧
        b = { a.withoutEvidence with
          authorizationEvidenceDigest := codec.sha256Hex evidence
          authorizationEvidenceRef :=
            evidenceRefFor a.tenantId a.authorizationId (codec.sha256Hex evidence) } := by
  simp only [bindEvidence, except_bind_eq_ok, computeEvidenceDigest_eq_ok]
  constructor
  · rintro ⟨digest, ⟨evidence, hevidence, rfl⟩, hb⟩
    exact ⟨evidence, hevidence, (Except.ok.inj hb).symm⟩
  · rintro ⟨evidence, hevidence, rfl⟩
    exact ⟨_, ⟨evidence, hevidence, rfl⟩, rfl⟩

theorem sign_eq_ok :
    a.sign codec = .ok b ↔
      ∃ bytes, codec.jcs { a with signature := "" } = some bytes ∧
        b = { a with signature := codec.sign bytes } := by
  simp only [sign, except_bind_eq_ok, signingBytes_eq_ok]
  constructor
  · rintro ⟨bytes, hbytes, hb⟩
    exact ⟨bytes, hbytes, (Except.ok.inj hb).symm⟩
  · rintro ⟨bytes, hbytes, rfl⟩
    exact ⟨bytes, hbytes, rfl⟩

/-- What `verify` accepts. -/
theorem verify_eq_ok {now : DateTime} :
    a.verify codec now = .ok () ↔
      a.scopeOk = true ∧ (a.issuedAt ≤ now ∧ now < a.expiresAt) ∧
      (∃ bytes, codec.jcs { a with signature := "" } = some bytes ∧
        codec.verifies bytes a.signature = true) ∧
      (isDigest a.authorizationEvidenceDigest = true ∧
        a.authorizationEvidenceRef =
          evidenceRefFor a.tenantId a.authorizationId a.authorizationEvidenceDigest) ∧
      ∃ evidence, codec.jcs a.withoutEvidence = some evidence ∧
        codec.sha256Hex evidence = a.authorizationEvidenceDigest := by
  simp only [verify, except_bind_eq_ok, require_eq_ok, signingBytes_eq_ok,
    computeEvidenceDigest_eq_ok]
  constructor
  · rintro ⟨-, hscope, -, hwindow, bytes, hbytes, -, hverifies, -, hreference, digest,
      ⟨evidence, hevidence, rfl⟩, hdigest⟩
    exact ⟨hscope, hwindow, ⟨bytes, hbytes, hverifies⟩, hreference, evidence, hevidence, hdigest⟩
  · rintro ⟨hscope, hwindow, ⟨bytes, hbytes, hverifies⟩, hreference, evidence, hevidence, hdigest⟩
    exact ⟨(), hscope, (), hwindow, bytes, hbytes, (), hverifies, (), hreference, _,
      ⟨evidence, hevidence, rfl⟩, hdigest⟩

theorem verify_of_not_scopeOk {now : DateTime} (h : ¬a.scopeOk = true) :
    a.verify codec now = .error .scopeExceeded := by
  rw [verify, require, if_neg h]
  rfl

end ExecutionAuthorization

end AgentSphere
