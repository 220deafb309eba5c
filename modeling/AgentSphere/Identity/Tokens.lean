import AgentSphere.Identity.Revocation
import AgentSphere.Lib.Program

/-!
# Workload tokens

`WorkloadTokenIssuer` signs what a workload may do as a token of three segments, and
`WorkloadTokenVerifier` reads it back. Instants are cut to seconds when they are signed, and the
verifier allows for a skew of at most a minute. Issuing looks at the frozen tasks and at the epoch
one after the other, and verifying looks at the revocations once, so that these are arguments here.
-/

namespace AgentSphere

/-- The instants of `chrono`. -/
def DateTime.Valid (instant : DateTime) : Prop :=
  -8334601228800000000000 ≤ instant ∧ instant ≤ 8210266876799999999999

def DateTime.timestamp (instant : DateTime) : Int := instant / 1000000000

/-- `DateTime::from_timestamp` without nanoseconds. -/
def DateTime.fromTimestamp (seconds : Int) : Option DateTime :=
  if -8334601228800 ≤ seconds ∧ seconds ≤ 8210266876799 then some (seconds * 1000000000) else none

theorem DateTime.Valid.fromTimestamp {instant : DateTime} (h : instant.Valid) :
    DateTime.fromTimestamp instant.timestamp = some (instant.timestamp * 1000000000) := by
  have hlower : (-8334601228800000000000 : Int) ≤ instant := h.1
  have hupper : (8210266876799999999999 : Int) ≥ instant := h.2
  unfold DateTime.fromTimestamp DateTime.timestamp
  rw [if_pos ⟨by omega, by omega⟩]

theorem DateTime.Valid.of_add {instant result : DateTime} {duration : Int}
    (h : instant.add duration = some result) : result.Valid := by
  unfold DateTime.add at h
  split at h
  · next hrange =>
    obtain rfl := Option.some.inj h
    exact hrange
  · cases h

end AgentSphere

namespace AgentSphere.Identity

open Concurrency

structure AgentPrincipal where
  schemaVersion : SchemaVersion
  subject : String
  organizationId : String
  tenantId : TenantId
  ownerSubject : String
  roles : Finset String
  authStrength : String
  deriving DecidableEq

structure WorkloadIdentity where
  schemaVersion : SchemaVersion
  agentInstanceId : AgentInstanceId
  taskId : TaskId
  stepId : StepId
  tenantId : TenantId
  ownerSubject : String
  actionHash : ActionHash
  policyDecisionId : String
  trustLevel : String
  deriving DecidableEq

structure AuthContext where
  schemaVersion : SchemaVersion
  principal : AgentPrincipal
  workload : WorkloadIdentity
  issuer : String
  audience : String
  keyId : String
  tokenId : String
  revocationEpoch : Nat
  issuedAt : DateTime
  expiresAt : DateTime
  deriving DecidableEq

structure WorkloadClaims where
  schemaVersion : String
  iss : String
  aud : String
  sub : String
  jti : String
  tenantId : TenantId
  agentInstanceId : AgentInstanceId
  taskId : TaskId
  stepId : StepId
  ownerSubject : String
  actionHash : ActionHash
  policyDecisionId : String
  roles : Finset String
  authStrength : String
  trustLevel : String
  revocationEpoch : Nat
  nbf : Int
  iat : Int
  exp : Int
  deriving DecidableEq

structure JwtHeader where
  alg : String
  typ : String
  kid : String
  deriving DecidableEq

structure WorkloadTokenRequest where
  principal : AgentPrincipal
  workload : WorkloadIdentity
  audience : String
  ttl : Int

structure TrustBundleSnapshot (VerifyingKey : Type) where
  version : String
  issuer : String
  keys : BTreeMap String VerifyingKey
  validUntil : DateTime

structure WorkloadCodec (Bytes SigningKey VerifyingKey Signature : Type) where
  /-- `serde_json::to_vec` and `from_slice`. -/
  headerToVec : JwtHeader → Option Bytes
  headerFromSlice : Bytes → Option JwtHeader
  claimsToVec : WorkloadClaims → Option Bytes
  claimsFromSlice : Bytes → Option WorkloadClaims
  /-- `URL_SAFE_NO_PAD`. -/
  encode : Bytes → String
  decode : String → Option Bytes
  sign : SigningKey → String → Signature
  toBytes : Signature → Bytes
  fromSlice : Bytes → Option Signature
  verifies : VerifyingKey → String → Signature → Bool

/-- What is written is read back, no segment contains a dot, and a key verifies what its signing
key has signed. -/
structure WorkloadCodec.Correct {Bytes SigningKey VerifyingKey Signature : Type}
    (codec : WorkloadCodec Bytes SigningKey VerifyingKey Signature) (signingKey : SigningKey)
    (key : VerifyingKey) : Prop where
  header : ∀ header bytes, codec.headerToVec header = some bytes →
    codec.headerFromSlice bytes = some header
  claims : ∀ claims bytes, codec.claimsToVec claims = some bytes →
    codec.claimsFromSlice bytes = some claims
  decoded : ∀ bytes, codec.decode (codec.encode bytes) = some bytes
  dotless : ∀ bytes, '.' ∉ (codec.encode bytes).toList
  signature : ∀ signature, codec.fromSlice (codec.toBytes signature) = some signature
  verified : ∀ text, codec.verifies key text (codec.sign signingKey text) = true

structure WorkloadTokenIssuer (SigningKey : Type) where
  issuer : String
  keyId : String
  signingKey : SigningKey

structure WorkloadTokenVerifier where
  expectedIssuer : String
  clockSkewSeconds : Int
  clamped : 0 ≤ clockSkewSeconds ∧ clockSkewSeconds ≤ 60

def WorkloadTokenVerifier.new (expectedIssuer : String) (clockSkewSeconds : Int) :
    WorkloadTokenVerifier where
  expectedIssuer := expectedIssuer
  clockSkewSeconds := max 0 (min clockSkewSeconds 60)
  clamped := by omega

def orElse {α : Type} (value : Option α) (e : IdentityError) : Except IdentityError α :=
  match value with
  | some a => .ok a
  | none => .error e

@[simp] theorem orElse_some {α : Type} (a : α) (e : IdentityError) : orElse (some a) e = .ok a :=
  rfl

theorem orElse_eq_ok {α : Type} {value : Option α} {e : IdentityError} {a : α} :
    orElse value e = .ok a ↔ value = some a := by
  cases value with
  | none => simp [orElse]
  | some b => simp [orElse]

section Tokens

variable {Bytes SigningKey VerifyingKey Signature : Type}
  (codec : WorkloadCodec Bytes SigningKey VerifyingKey Signature)

namespace WorkloadTokenIssuer

variable (issuer : WorkloadTokenIssuer SigningKey)

/-- The claims that `issue` puts together. -/
def claimsOf (request : WorkloadTokenRequest) (jti : String) (epoch : Nat)
    (now expiresAt : DateTime) : WorkloadClaims where
  schemaVersion := identitySchemaVersion
  iss := issuer.issuer
  aud := request.audience
  sub := "agent:" ++ request.workload.agentInstanceId
  jti := jti
  tenantId := request.workload.tenantId
  agentInstanceId := request.workload.agentInstanceId
  taskId := request.workload.taskId
  stepId := request.workload.stepId
  ownerSubject := request.workload.ownerSubject
  actionHash := request.workload.actionHash
  policyDecisionId := request.workload.policyDecisionId
  roles := request.principal.roles
  authStrength := request.principal.authStrength
  trustLevel := request.workload.trustLevel
  revocationEpoch := epoch
  nbf := now.timestamp - 2
  iat := now.timestamp
  exp := expiresAt.timestamp

def header : JwtHeader := ⟨"EdDSA", "JWT", issuer.keyId⟩

def signingInput (header payload : Bytes) : String :=
  codec.encode header ++ "." ++ codec.encode payload

/-- `issue`. The frozen tasks are looked at in one state, the epoch is read in another. -/
def issue (frozenIn epochIn : RevocationState) (jti : String) (request : WorkloadTokenRequest)
    (now : DateTime) : Except IdentityError String := do
  require (0 < request.ttl ∧ request.ttl ≤ 900000000000) .invalidTtl
  require (request.principal.tenantId = request.workload.tenantId ∧
    request.principal.ownerSubject = request.workload.ownerSubject) .tenantMismatch
  require (request.workload.taskId ∉ frozenIn.frozenTasks) .revoked
  let expiresAt ← orElse (now.add request.ttl) .panicked
  let header ← orElse (codec.headerToVec issuer.header) .tokenInvalid
  let payload ← orElse (codec.claimsToVec (issuer.claimsOf request jti
    (epochIn.currentEpoch request.workload.tenantId) now expiresAt)) .tokenInvalid
  pure (signingInput codec header payload ++ "." ++
    codec.encode (codec.toBytes (codec.sign issuer.signingKey (signingInput codec header payload))))

end WorkloadTokenIssuer

/-- `token.split('.')`. -/
def segmentsOf (token : String) : List String := (token.toList.splitOn '.').map String.ofList

/-- What `verify` returns, if its instants can be built. -/
def contextOf (claims : WorkloadClaims) (keyId : String) (issuedAt expiresAt : DateTime) :
    AuthContext where
  schemaVersion := identitySchemaVersion
  principal :=
    { schemaVersion := identitySchemaVersion
      subject := claims.sub
      organizationId := ""
      tenantId := claims.tenantId
      ownerSubject := claims.ownerSubject
      roles := claims.roles
      authStrength := claims.authStrength }
  workload :=
    { schemaVersion := identitySchemaVersion
      agentInstanceId := claims.agentInstanceId
      taskId := claims.taskId
      stepId := claims.stepId
      tenantId := claims.tenantId
      ownerSubject := claims.ownerSubject
      actionHash := claims.actionHash
      policyDecisionId := claims.policyDecisionId
      trustLevel := claims.trustLevel }
  issuer := claims.iss
  audience := claims.aud
  keyId := keyId
  tokenId := claims.jti
  revocationEpoch := claims.revocationEpoch
  issuedAt := issuedAt
  expiresAt := expiresAt

namespace WorkloadTokenVerifier

variable (verifier : WorkloadTokenVerifier)

def decodeJson {α : Type} (fromSlice : Bytes → Option α) (segment : String) :
    Except IdentityError α := do
  let bytes ← orElse (codec.decode segment) .tokenInvalid
  orElse (fromSlice bytes) .tokenInvalid

/-- `verify` from the claims on. -/
def verifyClaims (trust : Except IdentityError (TrustBundleSnapshot VerifyingKey))
    (revocation : RevocationState) (header : JwtHeader) (claims : WorkloadClaims)
    (signed signatureSegment audience : String) (now : DateTime) :
    Except IdentityError AuthContext := do
  require (claims.schemaVersion = identitySchemaVersion) .tokenInvalid
  require (claims.iss = verifier.expectedIssuer ∧ claims.aud = audience) .issuerOrAudience
  require (claims.nbf ≤ now.timestamp + verifier.clockSkewSeconds ∧
    now.timestamp - verifier.clockSkewSeconds < claims.exp) .expiredOrNotYetValid
  let bundle ← trust
  require (now < bundle.validUntil ∧ bundle.issuer = claims.iss) .trustBundleUnavailable
  let key ← orElse bundle.keys[header.kid]? .unknownKey
  let signatureRaw ← orElse (codec.decode signatureSegment) .tokenInvalid
  let signature ← orElse (codec.fromSlice signatureRaw) .tokenInvalid
  require (codec.verifies key signed signature = true) .signatureInvalid
  revocation.check (some claims.jti) none claims.tenantId claims.taskId claims.agentInstanceId
    claims.revocationEpoch
  let issuedAt ← orElse (DateTime.fromTimestamp claims.iat) .tokenInvalid
  let expiresAt ← orElse (DateTime.fromTimestamp claims.exp) .tokenInvalid
  pure (contextOf claims header.kid issuedAt expiresAt)

/-- `verify`. The trust bundle is what its provider answers. -/
def verify (trust : Except IdentityError (TrustBundleSnapshot VerifyingKey))
    (revocation : RevocationState) (token audience : String) (now : DateTime) :
    Except IdentityError AuthContext :=
  match segmentsOf token with
  | [headerSegment, payloadSegment, signatureSegment] => do
    let header ← decodeJson codec codec.headerFromSlice headerSegment
    require (header.alg = "EdDSA" ∧ header.typ = "JWT") .algorithmDenied
    let claims ← decodeJson codec codec.claimsFromSlice payloadSegment
    verifier.verifyClaims codec trust revocation header claims
      (headerSegment ++ "." ++ payloadSegment) signatureSegment audience now
  | _ => .error .tokenInvalid

end WorkloadTokenVerifier

end Tokens

inductive RevocationState.Step : RevocationState → RevocationState → Prop where
  | revoke (state : RevocationState) (revocation : Revocation) :
      Step state (state.revoke revocation)
  | bump (state : RevocationState) (tenant : TenantId)
      (fits : state.currentEpoch tenant + 1 < 2 ^ 64) : Step state (state.bumpTenantEpoch tenant)

abbrev RevocationState.Later := Relation.ReflTransGen RevocationState.Step

theorem RevocationState.Later.stricter {state state' : RevocationState}
    (h : RevocationState.Later state state') : state.Stricter state' := by
  induction h with
  | refl => exact .refl _
  | tail _ hstep ih =>
    cases hstep with
    | revoke revocation => exact ih.trans (.revoke _ revocation)
    | bump tenant => exact ih.trans (.bump _ tenant)

section RoundTrip

variable {Bytes SigningKey VerifyingKey Signature : Type}
  {codec : WorkloadCodec Bytes SigningKey VerifyingKey Signature}
  {issuer : WorkloadTokenIssuer SigningKey} {verifier : WorkloadTokenVerifier}
  {key : VerifyingKey} {frozenIn epochIn later : RevocationState} {jti token : String}
  {request : WorkloadTokenRequest} {now t : DateTime}
  {bundle : TrustBundleSnapshot VerifyingKey}

theorem segmentsOf_join {a b c : String} (ha : '.' ∉ a.toList) (hb : '.' ∉ b.toList)
    (hc : '.' ∉ c.toList) : segmentsOf (a ++ "." ++ b ++ "." ++ c) = [a, b, c] := by
  have hlist : (a ++ "." ++ b ++ "." ++ c).toList =
      a.toList ++ '.' :: (b.toList ++ '.' :: c.toList) := by
    simp
  rw [segmentsOf, hlist, List.splitOn_append_cons_self_of_not_mem ha,
    List.splitOn_append_cons_self_of_not_mem hb, List.splitOn_eq_singleton hc]
  simp

structure IssuedToken (codec : WorkloadCodec Bytes SigningKey VerifyingKey Signature)
    (issuer : WorkloadTokenIssuer SigningKey) (epochIn : RevocationState) (jti : String)
    (request : WorkloadTokenRequest) (now : DateTime) (token : String) (expiresAt : DateTime)
    (header payload : Bytes) : Prop where
  live : 0 < request.ttl
  tenant : request.principal.tenantId = request.workload.tenantId
  owner : request.principal.ownerSubject = request.workload.ownerSubject
  expires : now.add request.ttl = some expiresAt
  headed : codec.headerToVec issuer.header = some header
  claimed : codec.claimsToVec (issuer.claimsOf request jti
    (epochIn.currentEpoch request.workload.tenantId) now expiresAt) = some payload
  joined : token = WorkloadTokenIssuer.signingInput codec header payload ++ "." ++
    codec.encode (codec.toBytes (codec.sign issuer.signingKey
      (WorkloadTokenIssuer.signingInput codec header payload)))

theorem issuedToken_of_issue (h : issuer.issue codec frozenIn epochIn jti request now = .ok token) :
    ∃ expiresAt header payload,
      IssuedToken codec issuer epochIn jti request now token expiresAt header payload := by
  obtain ⟨_, hlive, h⟩ := except_bind_eq_ok.mp h
  obtain ⟨_, hsame, h⟩ := except_bind_eq_ok.mp h
  obtain ⟨_, -, h⟩ := except_bind_eq_ok.mp h
  obtain ⟨expiresAt, hexpires, h⟩ := except_bind_eq_ok.mp h
  obtain ⟨header, hheader, h⟩ := except_bind_eq_ok.mp h
  obtain ⟨payload, hpayload, h⟩ := except_bind_eq_ok.mp h
  exact ⟨expiresAt, header, payload, (require_eq_ok.mp hlive).1, (require_eq_ok.mp hsame).1,
    (require_eq_ok.mp hsame).2, orElse_eq_ok.mp hexpires, orElse_eq_ok.mp hheader,
    orElse_eq_ok.mp hpayload, (Except.ok.inj h).symm⟩

structure Trusts (bundle : TrustBundleSnapshot VerifyingKey)
    (issuer : WorkloadTokenIssuer SigningKey) (key : VerifyingKey) (t : DateTime) : Prop where
  valid : t < bundle.validUntil
  named : bundle.issuer = issuer.issuer
  holds : bundle.keys[issuer.keyId]? = some key

theorem decodeJson_encode {α : Type} {fromSlice : Bytes → Option α} {bytes : Bytes} {a : α}
    (hcodec : codec.Correct issuer.signingKey key) (hread : fromSlice bytes = some a) :
    WorkloadTokenVerifier.decodeJson codec fromSlice (codec.encode bytes) = .ok a := by
  refine except_bind_eq_ok.mpr ⟨bytes, orElse_eq_ok.mpr (hcodec.decoded bytes), ?_⟩
  exact orElse_eq_ok.mpr hread

theorem verify_issued (hcodec : codec.Correct issuer.signingKey key) {expiresAt : DateTime}
    {header payload : Bytes}
    (hissued : IssuedToken codec issuer epochIn jti request now token expiresAt header payload)
    (trust : Except IdentityError (TrustBundleSnapshot VerifyingKey)) (audience : String) :
    verifier.verify codec trust later token audience t =
      verifier.verifyClaims codec trust later issuer.header
        (issuer.claimsOf request jti (epochIn.currentEpoch request.workload.tenantId) now expiresAt)
        (WorkloadTokenIssuer.signingInput codec header payload)
        (codec.encode (codec.toBytes (codec.sign issuer.signingKey
          (WorkloadTokenIssuer.signingInput codec header payload)))) audience t := by
  have hsegments : segmentsOf token = [codec.encode header, codec.encode payload,
      codec.encode (codec.toBytes (codec.sign issuer.signingKey
        (WorkloadTokenIssuer.signingInput codec header payload)))] := by
    rw [hissued.joined]
    exact segmentsOf_join (hcodec.dotless _) (hcodec.dotless _) (hcodec.dotless _)
  unfold WorkloadTokenVerifier.verify
  rw [hsegments]
  simp only [decodeJson_encode hcodec (hcodec.header _ _ hissued.headed),
    decodeJson_encode hcodec (hcodec.claims _ _ hissued.claimed)]
  rfl

theorem verifyClaims_issued (hcodec : codec.Correct issuer.signingKey key)
    (hexpected : verifier.expectedIssuer = issuer.issuer) (htrusts : Trusts bundle issuer key t)
    {expiresAt : DateTime} (hnow : now.Valid) (hexpires : expiresAt.Valid)
    (later : RevocationState) (request : WorkloadTokenRequest) (jti : String) (epoch : Nat)
    (text : String) (context : AuthContext) :
    verifier.verifyClaims codec (.ok bundle) later issuer.header
        (issuer.claimsOf request jti epoch now expiresAt) text
        (codec.encode (codec.toBytes (codec.sign issuer.signingKey text))) request.audience t =
          .ok context ↔
      (now.timestamp - 2 ≤ t.timestamp + verifier.clockSkewSeconds ∧
        t.timestamp - verifier.clockSkewSeconds < expiresAt.timestamp) ∧
      later.check (some jti) none request.workload.tenantId request.workload.taskId
        request.workload.agentInstanceId epoch = .ok () ∧
      context = contextOf (issuer.claimsOf request jti epoch now expiresAt) issuer.keyId
        (now.timestamp * 1000000000) (expiresAt.timestamp * 1000000000) := by
  have hsignature : orElse (codec.decode (codec.encode (codec.toBytes
      (codec.sign issuer.signingKey text)))) .tokenInvalid = .ok (codec.toBytes
        (codec.sign issuer.signingKey text)) :=
    orElse_eq_ok.mpr (hcodec.decoded _)
  have hread : orElse (codec.fromSlice (codec.toBytes (codec.sign issuer.signingKey text)))
      .tokenInvalid = .ok (codec.sign issuer.signingKey text) :=
    orElse_eq_ok.mpr (hcodec.signature _)
  have hkey : orElse bundle.keys[issuer.header.kid]? .unknownKey = .ok key :=
    orElse_eq_ok.mpr htrusts.holds
  have hissuedAt : orElse (DateTime.fromTimestamp (issuer.claimsOf request jti epoch now
      expiresAt).iat) .tokenInvalid = .ok (now.timestamp * 1000000000) :=
    orElse_eq_ok.mpr hnow.fromTimestamp
  have hexpiresAt : orElse (DateTime.fromTimestamp (issuer.claimsOf request jti epoch now
      expiresAt).exp) .tokenInvalid = .ok (expiresAt.timestamp * 1000000000) :=
    orElse_eq_ok.mpr hexpires.fromTimestamp
  constructor
  · intro h
    obtain ⟨_, -, h⟩ := except_bind_eq_ok.mp h
    obtain ⟨_, -, h⟩ := except_bind_eq_ok.mp h
    obtain ⟨_, htime, h⟩ := except_bind_eq_ok.mp h
    obtain ⟨_, -, h⟩ := except_bind_eq_ok.mp h
    obtain ⟨_, -, h⟩ := except_bind_eq_ok.mp h
    obtain ⟨_, -, h⟩ := except_bind_eq_ok.mp h
    obtain ⟨_, -, h⟩ := except_bind_eq_ok.mp h
    obtain ⟨_, -, h⟩ := except_bind_eq_ok.mp h
    obtain ⟨_, -, h⟩ := except_bind_eq_ok.mp h
    obtain ⟨_, hcheck, h⟩ := except_bind_eq_ok.mp h
    obtain ⟨_, hissued, h⟩ := except_bind_eq_ok.mp h
    obtain ⟨_, hexpired, h⟩ := except_bind_eq_ok.mp h
    obtain rfl := Except.ok.inj (hissuedAt.symm.trans hissued)
    obtain rfl := Except.ok.inj (hexpiresAt.symm.trans hexpired)
    exact ⟨require_eq_ok.mp htime, hcheck, (Except.ok.inj h).symm⟩
  · rintro ⟨htime, hcheck, rfl⟩
    refine except_bind_eq_ok.mpr ⟨(), require_eq_ok.mpr rfl, ?_⟩
    refine except_bind_eq_ok.mpr ⟨(), require_eq_ok.mpr ⟨hexpected.symm, rfl⟩, ?_⟩
    refine except_bind_eq_ok.mpr ⟨(), require_eq_ok.mpr htime, ?_⟩
    refine except_bind_eq_ok.mpr ⟨bundle, rfl, ?_⟩
    refine except_bind_eq_ok.mpr ⟨(), require_eq_ok.mpr ⟨htrusts.valid, htrusts.named⟩, ?_⟩
    refine except_bind_eq_ok.mpr ⟨key, hkey, ?_⟩
    refine except_bind_eq_ok.mpr ⟨_, hsignature, ?_⟩
    refine except_bind_eq_ok.mpr ⟨_, hread, ?_⟩
    refine except_bind_eq_ok.mpr ⟨(), require_eq_ok.mpr (hcodec.verified text), ?_⟩
    refine except_bind_eq_ok.mpr ⟨(), hcheck, ?_⟩
    refine except_bind_eq_ok.mpr ⟨_, hissuedAt, ?_⟩
    exact except_bind_eq_ok.mpr ⟨_, hexpiresAt, rfl⟩

theorem check_later {tenant : TenantId} {task : TaskId} {agent : AgentInstanceId}
    (hlater : RevocationState.Later epochIn later) :
    later.check (some jti) none tenant task agent (epochIn.currentEpoch tenant) = .ok () ↔
      later.currentEpoch tenant = epochIn.currentEpoch tenant ∧ jti ∉ later.revokedTokens ∧
        task ∉ later.revokedTasks ∧ agent ∉ later.revokedAgents := by
  have hepoch : epochIn.currentEpoch tenant ≤ later.currentEpoch tenant :=
    hlater.stricter.epochs tenant
  rw [RevocationState.check_eq_ok]
  constructor
  · intro h
    refine ⟨le_antisymm (Nat.le_of_not_lt fun hlt => h (.inl hlt)) hepoch,
      fun hjti => h (.inr (.inl ⟨jti, rfl, hjti⟩)), fun htask => h ?_, fun hagent => h ?_⟩
    · exact .inr (.inr (.inr (.inl htask)))
    · exact .inr (.inr (.inr (.inr hagent)))
  · rintro ⟨hsame, hjti, htask, hagent⟩
      (hlt | ⟨id, hid, htoken⟩ | ⟨id, hid, -⟩ | hrevoked | hrevoked)
    · omega
    · obtain rfl : jti = id := Option.some.inj hid
      exact hjti htoken
    · cases hid
    · exact htask hrevoked
    · exact hagent hrevoked

/-- **Round trip**: an issued token is accepted exactly while it is in time and nothing of it is
revoked, and reads as what was requested. -/
theorem tokens_round_trip (hcodec : codec.Correct issuer.signingKey key)
    (hexpected : verifier.expectedIssuer = issuer.issuer) (hnow : now.Valid)
    (hissue : issuer.issue codec frozenIn epochIn jti request now = .ok token)
    (htrusts : Trusts bundle issuer key t) (hlater : RevocationState.Later epochIn later) :
    ((∃ context, verifier.verify codec (.ok bundle) later token request.audience t = .ok context) ↔
      (now.timestamp - 2 - verifier.clockSkewSeconds ≤ t.timestamp ∧
        t.timestamp < (now + request.ttl).timestamp + verifier.clockSkewSeconds) ∧
      later.currentEpoch request.workload.tenantId =
        epochIn.currentEpoch request.workload.tenantId ∧
      jti ∉ later.revokedTokens ∧ request.workload.taskId ∉ later.revokedTasks ∧
      request.workload.agentInstanceId ∉ later.revokedAgents) ∧
    ∀ context, verifier.verify codec (.ok bundle) later token request.audience t = .ok context →
      context.workload = { request.workload with schemaVersion := identitySchemaVersion } ∧
      context.principal.tenantId = request.principal.tenantId ∧
      context.principal.ownerSubject = request.principal.ownerSubject ∧
      context.principal.roles = request.principal.roles ∧
      context.principal.authStrength = request.principal.authStrength := by
  obtain ⟨expiresAt, header, payload, hissued⟩ := issuedToken_of_issue hissue
  obtain rfl := DateTime.add_eq_some hissued.expires
  have hverify := verifyClaims_issued hcodec hexpected htrusts hnow
    (DateTime.Valid.of_add hissued.expires) later request jti
    (epochIn.currentEpoch request.workload.tenantId)
    (WorkloadTokenIssuer.signingInput codec header payload)
  rw [verify_issued hcodec hissued]
  refine ⟨⟨?_, ?_⟩, fun context hcontext => ?_⟩
  · rintro ⟨context, hcontext⟩
    obtain ⟨⟨hfrom, huntil⟩, hcheck, -⟩ := (hverify context).mp hcontext
    exact ⟨⟨by omega, by omega⟩, (check_later hlater).mp hcheck⟩
  · rintro ⟨⟨hfrom, huntil⟩, hstate⟩
    exact ⟨_, (hverify _).mpr ⟨⟨by omega, by omega⟩, (check_later hlater).mpr hstate, rfl⟩⟩
  · obtain ⟨-, -, rfl⟩ := (hverify context).mp hcontext
    exact ⟨rfl, hissued.tenant.symm, hissued.owner.symm, rfl, rfl⟩

end RoundTrip

-- A sample token

def sampleIssuer : WorkloadTokenIssuer String := ⟨"issuer", "key", "secret"⟩

def sampleTokenRequest : WorkloadTokenRequest where
  principal :=
    { schemaVersion := identitySchemaVersion
      subject := "user"
      organizationId := "organization"
      tenantId := "tenant"
      ownerSubject := "owner"
      roles := {"operator"}
      authStrength := "mfa" }
  workload :=
    { schemaVersion := "agenttrust.identity.v0"
      agentInstanceId := "agent"
      taskId := "task"
      stepId := "step"
      tenantId := "tenant"
      ownerSubject := "owner"
      actionHash := "hash"
      policyDecisionId := "decision"
      trustLevel := "high" }
  audience := "tool-proxy"
  ttl := 60000000000

def sampleWorkloadClaims : WorkloadClaims :=
  sampleIssuer.claimsOf sampleTokenRequest "token" 0 1000000000 61000000000

inductive SampleBytes where
  | header
  | payload
  | signature
  deriving DecidableEq

def sampleWorkloadCodec : WorkloadCodec SampleBytes String String Unit where
  headerToVec header := if header = sampleIssuer.header then some .header else none
  headerFromSlice
    | .header => some sampleIssuer.header
    | _ => none
  claimsToVec claims := if claims = sampleWorkloadClaims then some .payload else none
  claimsFromSlice
    | .payload => some sampleWorkloadClaims
    | _ => none
  encode
    | .header => "eyJhbGciOiJFZERTQSIsInR5cCI6IkpXVCIsImtpZCI6ImtleSJ9"
    | .payload => "cGF5bG9hZA"
    | .signature => "c2lnbmF0dXJl"
  decode
    | "eyJhbGciOiJFZERTQSIsInR5cCI6IkpXVCIsImtpZCI6ImtleSJ9" => some .header
    | "cGF5bG9hZA" => some .payload
    | "c2lnbmF0dXJl" => some .signature
    | _ => none
  sign _ _ := ()
  toBytes _ := .signature
  fromSlice
    | .signature => some ()
    | _ => none
  verifies key _ _ := key == "public"

theorem sampleWorkloadCodec_correct : sampleWorkloadCodec.Correct "secret" "public" where
  header := by
    intro header bytes h
    simp only [sampleWorkloadCodec] at h
    split at h
    · next hheader =>
      obtain rfl := Option.some.inj h
      rw [hheader]
      rfl
    · cases h
  claims := by
    intro claims bytes h
    simp only [sampleWorkloadCodec] at h
    split at h
    · next hclaims =>
      obtain rfl := Option.some.inj h
      rw [hclaims]
      rfl
    · cases h
  decoded bytes := by cases bytes <;> rfl
  dotless bytes := by cases bytes <;> decide
  signature _ := rfl
  verified _ := rfl

def sampleVerifier : WorkloadTokenVerifier := .new "issuer" 5

def sampleBundle : TrustBundleSnapshot String where
  version := "1"
  issuer := "issuer"
  keys := (∅ : BTreeMap String String).insert "key" "public"
  validUntil := 3600000000000

def sampleToken : String :=
  "eyJhbGciOiJFZERTQSIsInR5cCI6IkpXVCIsImtpZCI6ImtleSJ9.cGF5bG9hZA.c2lnbmF0dXJl"

theorem sampleToken_issued : sampleIssuer.issue sampleWorkloadCodec .empty .empty "token"
    sampleTokenRequest 1000000000 = .ok sampleToken := by
  decide

theorem sampleBundle_trusts : Trusts sampleBundle sampleIssuer "public" 10000000000 :=
  ⟨by decide, rfl, by decide⟩

/-- **Counterexample**: the schema version that is read from a token is not the one requested. -/
theorem token_changes_schema_version :
    sampleIssuer.issue sampleWorkloadCodec .empty .empty "token" sampleTokenRequest 1000000000 =
      .ok sampleToken ∧
    ∃ context, sampleVerifier.verify sampleWorkloadCodec (.ok sampleBundle) .empty sampleToken
        sampleTokenRequest.audience 10000000000 = .ok context ∧
      context.workload ≠ sampleTokenRequest.workload := by
  refine ⟨sampleToken_issued, contextOf sampleWorkloadClaims "key" 1000000000 61000000000, ?_,
    by decide⟩
  decide

/-- The round trip at a concrete token: it is accepted ten seconds after the epoch, and what is
read from it is what was requested. -/
theorem tokens_round_trip_sample : ∃ context,
    sampleVerifier.verify sampleWorkloadCodec (.ok sampleBundle) .empty sampleToken
      sampleTokenRequest.audience 10000000000 = .ok context ∧
    context.workload = { sampleTokenRequest.workload with schemaVersion := identitySchemaVersion } ∧
    context.principal.tenantId = "tenant" ∧ context.principal.ownerSubject = "owner" ∧
    context.principal.roles = {"operator"} ∧ context.principal.authStrength = "mfa" := by
  have hexpected : sampleVerifier.expectedIssuer = sampleIssuer.issuer := rfl
  obtain ⟨haccepted, hread⟩ := tokens_round_trip sampleWorkloadCodec_correct hexpected
    ⟨by decide, by decide⟩ sampleToken_issued sampleBundle_trusts .refl
  have hstate : (RevocationState.empty).currentEpoch "tenant" =
      RevocationState.empty.currentEpoch "tenant" ∧ "token" ∉ RevocationState.empty.revokedTokens ∧
      "task" ∉ RevocationState.empty.revokedTasks ∧
      "agent" ∉ RevocationState.empty.revokedAgents := by
    decide
  obtain ⟨context, hcontext⟩ := haccepted.mpr ⟨⟨by decide, by decide⟩, hstate⟩
  exact ⟨context, hcontext, hread context hcontext⟩

end AgentSphere.Identity
