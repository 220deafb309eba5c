import AgentSphere.Contracts.Authority

/-!
# Evidence chains

The audit chain keeps, for every task, a list of signed events in which each one carries the hash
of the one before. A package is the list of a task with a hash of its own, and the verifier goes
over it without the service. Appending runs under one lock, so that any interleaving of callers is
a sequence of calls. Canonical JSON, SHA-256 and Ed25519 are parameters.
-/

namespace AgentSphere.Evidence

inductive EvidenceError where
  | configurationInvalid
  | eventInvalid
  | capacityExceeded
  | tenantMismatch
  | canonicalization
  | chainIncomplete
  | integrityInvalid
  | unknownKey
  | signatureInvalid
  | artifactDenied
  | artifactNotFound
  | evaluatorTimeout
  | evaluationInvalid
  | authenticationRequired
  | scopeForbidden
  | requestInvalid
  | idempotencyConflict
  | ledgerBindingInvalid
  | authorizationBindingInvalid
  | persistenceUnavailable
  | dependencyUnavailable
  | notFound
  deriving DecidableEq, Repr

/-- The text `{}` prints. -/
def EvidenceError.display : EvidenceError → String
  | .configurationInvalid => "EVIDENCE_CONFIGURATION_INVALID"
  | .eventInvalid => "EVIDENCE_EVENT_INVALID"
  | .capacityExceeded => "EVIDENCE_CAPACITY_EXCEEDED"
  | .tenantMismatch => "EVIDENCE_TENANT_MISMATCH"
  | .canonicalization => "EVIDENCE_CANONICALIZATION_FAILED"
  | .chainIncomplete => "EVIDENCE_CHAIN_INCOMPLETE"
  | .integrityInvalid => "EVIDENCE_INTEGRITY_INVALID"
  | .unknownKey => "EVIDENCE_UNKNOWN_KEY"
  | .signatureInvalid => "EVIDENCE_SIGNATURE_INVALID"
  | .artifactDenied => "EVIDENCE_ARTIFACT_DENIED"
  | .artifactNotFound => "EVIDENCE_ARTIFACT_NOT_FOUND"
  | .evaluatorTimeout => "EVALUATOR_TIMEOUT"
  | .evaluationInvalid => "EVALUATION_INVALID"
  | .authenticationRequired => "EVIDENCE_AUTHENTICATION_REQUIRED"
  | .scopeForbidden => "EVIDENCE_SCOPE_FORBIDDEN"
  | .requestInvalid => "EVIDENCE_REQUEST_INVALID"
  | .idempotencyConflict => "EVIDENCE_IDEMPOTENCY_CONFLICT"
  | .ledgerBindingInvalid => "EVIDENCE_LEDGER_BINDING_INVALID"
  | .authorizationBindingInvalid => "EVIDENCE_AUTHORIZATION_BINDING_INVALID"
  | .persistenceUnavailable => "EVIDENCE_PERSISTENCE_UNAVAILABLE"
  | .dependencyUnavailable => "EVIDENCE_DEPENDENCY_UNAVAILABLE"
  | .notFound => "EVIDENCE_NOT_FOUND"

def evidenceSchemaVersion : String := "agenttrust.evidence.v1"
def evidencePackageSchemaVersion : String := "agenttrust.evidence-package.v1"

structure StoredArtifact where
  artifactRef : ArtifactRef
  sha256 : String
  mediaType : String
  classification : String
  retentionSeconds : Nat
  accessPolicy : String
  bytes : Nat
  createdAt : DateTime

def StoredArtifact.addressed (artifact : StoredArtifact) : Bool :=
  artifact.artifactRef == "artifact:sha256:" ++ artifact.sha256

structure EvidencePackage where
  schemaVersion : String
  packageId : String
  tenantId : TenantId
  taskId : TaskId
  events : List SignedEvidenceEvent
  artifacts : List StoredArtifact
  packageHash : String
  builtAt : DateTime

structure SignedEvidencePackage where
  schemaVersion : String
  package : EvidencePackage
  chainHead : String
  issuer : String
  keyId : String
  signature : String

structure EvidenceCodec (Bytes SigningKey VerifyingKey : Type) where
  /-- `serde_jcs::to_vec` of an event. -/
  eventJcs : SignedEvidenceEvent → Option Bytes
  /-- `serde_jcs::to_vec` of a package. -/
  packageJcs : EvidencePackage → Option Bytes
  /-- `serde_jcs::to_vec` of a signed package. -/
  signedPackageJcs : SignedEvidencePackage → Option Bytes
  sha256Hex : Bytes → String
  /-- `str::as_bytes`. -/
  asBytes : String → Bytes
  verifyingKey : SigningKey → VerifyingKey
  sign : SigningKey → Bytes → String
  readSignature : String → Option Bytes
  /-- `Verifier::verify` of some bytes and a signature. -/
  verifies : VerifyingKey → Bytes → Bytes → Bool

def EvidenceCodec.accepts {Bytes SigningKey VerifyingKey : Type}
    (codec : EvidenceCodec Bytes SigningKey VerifyingKey) (key : VerifyingKey) (bytes : Bytes)
    (signature : String) : Bool :=
  (codec.readSignature signature).any (codec.verifies key bytes)

section Model

variable {Bytes SigningKey VerifyingKey : Type}

/-- `SignedEvidenceEvent::expected_hash`: the hash covers all but itself and the signature. -/
def expectedHash (codec : EvidenceCodec Bytes SigningKey VerifyingKey)
    (event : SignedEvidenceEvent) : Except EvidenceError String :=
  match codec.eventJcs { event with eventHash := "", signature := "" } with
  | some bytes => .ok (codec.sha256Hex bytes)
  | none => .error .canonicalization

def packageHash (codec : EvidenceCodec Bytes SigningKey VerifyingKey)
    (package : EvidencePackage) : Except EvidenceError String :=
  match codec.packageJcs { package with packageHash := "" } with
  | some bytes => .ok (codec.sha256Hex bytes)
  | none => .error .canonicalization

def containsSecret (text : String) : Bool :=
  ["password=", "api_key=", "authorization: bearer", "-----begin private key-----"].any
    fun marker => containsText (toAsciiLowercase text) marker

def isHexDigit (c : Char) : Bool :=
  c.isDigit || ('a' ≤ c && c ≤ 'f') || ('A' ≤ c && c ≤ 'F')

def validateDraft (draft : EvidenceEventDraft) : Except EvidenceError Unit :=
  if draft.actorSubject.isEmpty ∨ draft.sourceService.isEmpty ∨ draft.traceId.isEmpty ∨
      draft.spanId.isEmpty ∨ draft.safeSummary.utf8ByteSize > 512 ∨
      draft.payloadHash.utf8ByteSize ≠ 64 ∨ ¬ draft.payloadHash.toList.all isHexDigit ∨
      containsSecret draft.safeSummary then
    .error .eventInvalid
  else .ok ()

def zeroHash : String := String.ofList (List.replicate 64 '0')

structure InMemoryAuditChain (SigningKey : Type) where
  keyId : String
  signingKey : SigningKey
  maximumEventsPerTask : Nat
  events : BTreeMap TaskId (List SignedEvidenceEvent)

/-- One call of `append`: the draft, and the identifier drawn for the event. -/
structure Append where
  draft : EvidenceEventDraft
  eventId : String

namespace InMemoryAuditChain

def new (keyId : String) (signingKey : SigningKey) (maximumEventsPerTask : Nat) :
    Except EvidenceError (InMemoryAuditChain SigningKey) :=
  if keyId.isEmpty ∨ maximumEventsPerTask = 0 then .error .configurationInvalid
  else .ok ⟨keyId, signingKey, maximumEventsPerTask, ∅⟩

def taskEvents (audit : InMemoryAuditChain SigningKey) (taskId : TaskId) :
    List SignedEvidenceEvent :=
  audit.events[taskId]?.getD []

def following (audit : InMemoryAuditChain SigningKey) (chain : List SignedEvidenceEvent)
    (call : Append) : SignedEvidenceEvent where
  schemaVersion := evidenceSchemaVersion
  eventId := call.eventId
  sequence := chain.length + 1
  previousHash := (chain.getLast?.map SignedEvidenceEvent.eventHash).getD zeroHash
  eventHash := ""
  keyId := audit.keyId
  signature := ""
  draft := call.draft

def store (audit : InMemoryAuditChain SigningKey) (taskId : TaskId)
    (chain : List SignedEvidenceEvent) : InMemoryAuditChain SigningKey :=
  { audit with events := audit.events.insert taskId chain }

/-- `append`. The entry of the task is there from the first call on, even if that call fails. -/
def append (codec : EvidenceCodec Bytes SigningKey VerifyingKey)
    (audit : InMemoryAuditChain SigningKey) (call : Append) :
    InMemoryAuditChain SigningKey × Except EvidenceError SignedEvidenceEvent :=
  match validateDraft call.draft with
  | .error error => (audit, .error error)
  | .ok () =>
    let chain := audit.taskEvents call.draft.taskId
    let audit := audit.store call.draft.taskId chain
    if audit.maximumEventsPerTask ≤ chain.length then (audit, .error .capacityExceeded)
    else if chain.head?.any fun event => event.draft.tenantId != call.draft.tenantId then
      (audit, .error .tenantMismatch)
    else
      let event := audit.following chain call
      match expectedHash codec event with
      | .error error => (audit, .error error)
      | .ok hash =>
        let event :=
          { event with
            eventHash := hash
            signature := codec.sign audit.signingKey (codec.asBytes hash) }
        (audit.store call.draft.taskId (chain ++ [event]), .ok event)

def run (codec : EvidenceCodec Bytes SigningKey VerifyingKey)
    (audit : InMemoryAuditChain SigningKey) (calls : List Append) :
    InMemoryAuditChain SigningKey :=
  calls.foldl (fun audit call => (audit.append codec call).1) audit

def issued (codec : EvidenceCodec Bytes SigningKey VerifyingKey) :
    InMemoryAuditChain SigningKey → List Append → List SignedEvidenceEvent
  | _, [] => []
  | audit, call :: calls =>
    (audit.append codec call).2.toOption.toList ++ issued codec (audit.append codec call).1 calls

end InMemoryAuditChain

/-- `EvidenceBuilder::build`, with the identifier and the instant it draws. -/
def EvidenceBuilder.build (codec : EvidenceCodec Bytes SigningKey VerifyingKey)
    (audit : InMemoryAuditChain SigningKey) (tenantId : TenantId) (taskId : TaskId)
    (artifacts : List StoredArtifact) (packageId : String) (builtAt : DateTime) :
    Except EvidenceError EvidencePackage :=
  let events := audit.taskEvents taskId
  if events.isEmpty ∨ events.any fun event => event.draft.tenantId != tenantId then
    .error .chainIncomplete
  else
    let package : EvidencePackage :=
      { schemaVersion := evidenceSchemaVersion, packageId, tenantId, taskId, events, artifacts
        packageHash := "", builtAt }
    match packageHash codec package with
    | .error error => .error error
    | .ok hash => .ok { package with packageHash := hash }

structure EvidenceIntegrityReport where
  valid : Bool
  verifiedEvents : Nat
  verifiedArtifacts : Nat
  findings : List String

namespace EvidenceChainVerifier

def verifyEvent (codec : EvidenceCodec Bytes SigningKey VerifyingKey)
    (keys : BTreeMap String VerifyingKey) (package : EvidencePackage) (index : Nat)
    (previous : String) (event : SignedEvidenceEvent) : Except EvidenceError Unit :=
  if event.sequence ≠ index + 1 ∨ event.previousHash ≠ previous ∨
      event.draft.taskId ≠ package.taskId ∨ event.draft.tenantId ≠ package.tenantId then
    .error .integrityInvalid
  else
    match expectedHash codec event with
    | .error error => .error error
    | .ok hash =>
      if event.eventHash ≠ hash then .error .integrityInvalid
      else
        match keys[event.keyId]? with
        | none => .error .unknownKey
        | some key =>
          if codec.accepts key (codec.asBytes event.eventHash) event.signature then .ok ()
          else .error .signatureInvalid

def verifyEvents (codec : EvidenceCodec Bytes SigningKey VerifyingKey)
    (keys : BTreeMap String VerifyingKey) (package : EvidencePackage) :
    Nat → String → List SignedEvidenceEvent → Except EvidenceError Unit
  | _, _, [] => .ok ()
  | index, previous, event :: events =>
    match verifyEvent codec keys package index previous event with
    | .error error => .error error
    | .ok () => verifyEvents codec keys package (index + 1) event.eventHash events

def verifyInner (codec : EvidenceCodec Bytes SigningKey VerifyingKey)
    (keys : BTreeMap String VerifyingKey) (package : EvidencePackage) :
    Except EvidenceError Unit :=
  if package.schemaVersion ≠ evidenceSchemaVersion then .error .integrityInvalid
  else
    match packageHash codec package with
    | .error error => .error error
    | .ok hash =>
      if package.packageHash ≠ hash ∨ package.events.isEmpty then .error .integrityInvalid
      else
        match verifyEvents codec keys package 0 zeroHash package.events with
        | .error error => .error error
        | .ok () =>
          if package.artifacts.all fun artifact => artifact.addressed then .ok ()
          else .error .integrityInvalid

def verify (codec : EvidenceCodec Bytes SigningKey VerifyingKey)
    (keys : BTreeMap String VerifyingKey) (package : EvidencePackage) :
    EvidenceIntegrityReport :=
  match verifyInner codec keys package with
  | .ok () => ⟨true, package.events.length, package.artifacts.length, []⟩
  | .error error => ⟨false, 0, 0, [error.display]⟩

end EvidenceChainVerifier

def SignedEvidencePackage.verify (codec : EvidenceCodec Bytes SigningKey VerifyingKey)
    (signed : SignedEvidencePackage) (key : VerifyingKey)
    (eventKeys : BTreeMap String VerifyingKey) : Except EvidenceError EvidenceIntegrityReport :=
  if signed.schemaVersion ≠ evidencePackageSchemaVersion then .error .integrityInvalid
  else
    match signed.package.events.getLast? with
    | none => .error .chainIncomplete
    | some last =>
      if signed.chainHead ≠ last.eventHash ∨ signed.issuer.isEmpty ∨
          signed.issuer.utf8ByteSize > 256 ∨ signed.keyId.isEmpty ∨
          signed.keyId.utf8ByteSize > 128 then
        .error .integrityInvalid
      else
        match codec.readSignature signed.signature with
        | none => .error .signatureInvalid
        | some signature =>
          match codec.signedPackageJcs { signed with signature := "" } with
          | none => .error .canonicalization
          | some bytes =>
            if codec.verifies key bytes signature then
              let report := EvidenceChainVerifier.verify codec eventKeys signed.package
              if report.valid then .ok report else .error .integrityInvalid
            else .error .signatureInvalid

end Model

namespace EvidenceChainVerifier

variable {Bytes SigningKey VerifyingKey : Type}
  {codec : EvidenceCodec Bytes SigningKey VerifyingKey} {keys : BTreeMap String VerifyingKey}
  {package : EvidencePackage}

structure EventOk (codec : EvidenceCodec Bytes SigningKey VerifyingKey)
    (keys : BTreeMap String VerifyingKey) (package : EvidencePackage) (index : Nat)
    (previous : String) (event : SignedEvidenceEvent) : Prop where
  sequence : event.sequence = index + 1
  previousHash : event.previousHash = previous
  taskId : event.draft.taskId = package.taskId
  tenantId : event.draft.tenantId = package.tenantId
  eventHash : expectedHash codec event = .ok event.eventHash
  signed : ∃ key, keys[event.keyId]? = some key ∧
    codec.accepts key (codec.asBytes event.eventHash) event.signature = true

theorem verifyEvent_eq_ok {index : Nat} {previous : String} {event : SignedEvidenceEvent} :
    verifyEvent codec keys package index previous event = .ok () ↔
      EventOk codec keys package index previous event := by
  unfold verifyEvent
  constructor
  · intro h
    split at h
    · cases h
    · next hlinks =>
      rw [not_or, not_or, not_or, not_ne_iff, not_ne_iff, not_ne_iff, not_ne_iff] at hlinks
      obtain ⟨hsequence, hprevious, htask, htenant⟩ := hlinks
      split at h
      · cases h
      · next hash hhash =>
        split at h
        · cases h
        · next heq =>
          split at h
          · cases h
          · next key hkey =>
            split at h
            · next haccepts =>
              rw [← not_ne_iff.mp heq] at hhash
              exact ⟨hsequence, hprevious, htask, htenant, hhash, key, hkey, haccepts⟩
            · cases h
  · rintro ⟨hsequence, hprevious, htask, htenant, hhash, key, hkey, haccepts⟩
    simp [hsequence, hprevious, htask, htenant, hhash, hkey, haccepts]

theorem verifyEvents_cons_eq_ok {index : Nat} {previous : String} {event : SignedEvidenceEvent}
    {events : List SignedEvidenceEvent} :
    verifyEvents codec keys package index previous (event :: events) = .ok () ↔
      EventOk codec keys package index previous event ∧
        verifyEvents codec keys package (index + 1) event.eventHash events = .ok () := by
  rw [← verifyEvent_eq_ok, verifyEvents]
  cases verifyEvent codec keys package index previous event with
  | error error => simp
  | ok _ => simp

theorem verifyEvents_concat {index : Nat} {previous : String}
    {events : List SignedEvidenceEvent} {event : SignedEvidenceEvent} :
    verifyEvents codec keys package index previous (events ++ [event]) = .ok () ↔
      verifyEvents codec keys package index previous events = .ok () ∧
        EventOk codec keys package (index + events.length)
          ((events.getLast?.map SignedEvidenceEvent.eventHash).getD previous) event := by
  induction events generalizing index previous with
  | nil =>
    rw [List.nil_append, verifyEvents_cons_eq_ok]
    simp [verifyEvents]
  | cons first events ih =>
    have hlast : (((first :: events).getLast?.map SignedEvidenceEvent.eventHash).getD previous) =
        ((events.getLast?.map SignedEvidenceEvent.eventHash).getD first.eventHash) := by
      cases events with
      | nil => rfl
      | cons second events => rw [List.getLast?_cons_cons, List.getLast?_cons]; rfl
    rw [List.cons_append, verifyEvents_cons_eq_ok, verifyEvents_cons_eq_ok, ih, hlast, and_assoc,
      List.length_cons, Nat.add_assoc index 1, Nat.add_comm 1]

theorem eventOk_of_verifyEvents {index position : Nat} {previous : String}
    {events : List SignedEvidenceEvent} {event : SignedEvidenceEvent}
    (h : verifyEvents codec keys package index previous events = .ok ())
    (hevent : events[position]? = some event) :
    ∃ before, EventOk codec keys package (index + position) before event := by
  induction events generalizing index previous position with
  | nil => cases hevent
  | cons first events ih =>
    obtain ⟨hfirst, hrest⟩ := verifyEvents_cons_eq_ok.mp h
    cases position with
    | zero =>
      obtain rfl : first = event := Option.some.inj hevent
      exact ⟨previous, hfirst⟩
    | succ position =>
      obtain ⟨before, hok⟩ := ih hrest hevent
      rw [Nat.add_assoc, Nat.add_comm 1] at hok
      exact ⟨before, hok⟩

end EvidenceChainVerifier

namespace InMemoryAuditChain

open EvidenceChainVerifier

variable {Bytes SigningKey VerifyingKey : Type}
  {codec : EvidenceCodec Bytes SigningKey VerifyingKey} {audit : InMemoryAuditChain SigningKey}

def keys (codec : EvidenceCodec Bytes SigningKey VerifyingKey)
    (audit : InMemoryAuditChain SigningKey) : BTreeMap String VerifyingKey :=
  (∅ : BTreeMap String VerifyingKey).insert audit.keyId (codec.verifyingKey audit.signingKey)

@[simp] theorem taskEvents_store (audit : InMemoryAuditChain SigningKey) (taskId other : TaskId)
    (chain : List SignedEvidenceEvent) :
    (audit.store taskId chain).taskEvents other =
      if taskId = other then chain else audit.taskEvents other := by
  simp only [taskEvents, store, BTreeMap.getElem?_insert_ite]
  split
  · rfl
  · rfl

structure Appended (codec : EvidenceCodec Bytes SigningKey VerifyingKey)
    (audit : InMemoryAuditChain SigningKey) (call : Append) (event : SignedEvidenceEvent) :
    Prop where
  hash : expectedHash codec (audit.following (audit.taskEvents call.draft.taskId) call) =
    .ok event.eventHash
  event : event =
    { audit.following (audit.taskEvents call.draft.taskId) call with
      eventHash := event.eventHash
      signature := codec.sign audit.signingKey (codec.asBytes event.eventHash) }
  tenant : ∀ first, (audit.taskEvents call.draft.taskId).head? = some first →
    first.draft.tenantId = call.draft.tenantId

/-- A call keeps the key. Unless it returns an event, every chain stays as it was; else the event
is the new end of the chain of its task. -/
theorem append_cases (codec : EvidenceCodec Bytes SigningKey VerifyingKey)
    (audit : InMemoryAuditChain SigningKey) (call : Append) :
    (audit.append codec call).1.keyId = audit.keyId ∧
    (audit.append codec call).1.signingKey = audit.signingKey ∧
    (((audit.append codec call).2.toOption = none ∧
        ∀ taskId, (audit.append codec call).1.taskEvents taskId = audit.taskEvents taskId) ∨
      ∃ event, (audit.append codec call).2.toOption = some event ∧
        Appended codec audit call event ∧
        ∀ taskId, (audit.append codec call).1.taskEvents taskId =
          if call.draft.taskId = taskId then audit.taskEvents taskId ++ [event]
          else audit.taskEvents taskId) := by
  have hsame : ∀ taskId, (audit.store call.draft.taskId
      (audit.taskEvents call.draft.taskId)).taskEvents taskId = audit.taskEvents taskId := by
    intro taskId
    rw [taskEvents_store]
    split
    · next htask => rw [htask]
    · rfl
  unfold append
  cases validateDraft call.draft with
  | error error => exact ⟨rfl, rfl, .inl ⟨rfl, fun _ => rfl⟩⟩
  | ok _ =>
    dsimp only
    split
    · exact ⟨rfl, rfl, .inl ⟨rfl, hsame⟩⟩
    · split
      · exact ⟨rfl, rfl, .inl ⟨rfl, hsame⟩⟩
      · next htenant =>
        split
        · exact ⟨rfl, rfl, .inl ⟨rfl, hsame⟩⟩
        · next hash hhash =>
          refine ⟨rfl, rfl, .inr ⟨_, rfl, ⟨hhash, rfl, ?_⟩, fun taskId => ?_⟩⟩
          · intro first hfirst
            simpa [hfirst] using htenant
          · rw [taskEvents_store]
            split
            · next htask => rw [htask]
            · rw [hsame]

theorem keys_append (call : Append) :
    (audit.append codec call).1.keys codec = audit.keys codec := by
  obtain ⟨hkeyId, hsigningKey, -⟩ := append_cases codec audit call
  rw [keys, keys, hkeyId, hsigningKey]

def Accepted (codec : EvidenceCodec Bytes SigningKey VerifyingKey)
    (audit : InMemoryAuditChain SigningKey) : Prop :=
  ∀ package : EvidencePackage,
    (∀ first, (audit.taskEvents package.taskId).head? = some first →
      first.draft.tenantId = package.tenantId) →
    verifyEvents codec (audit.keys codec) package 0 zeroHash
      (audit.taskEvents package.taskId) = .ok ()

variable (hsigned : ∀ key bytes,
  codec.accepts (codec.verifyingKey key) bytes (codec.sign key bytes) = true)
include hsigned

theorem Appended.eventOk {call : Append} {event : SignedEvidenceEvent}
    (h : Appended codec audit call event) {package : EvidencePackage}
    (htask : call.draft.taskId = package.taskId)
    (htenant : call.draft.tenantId = package.tenantId) :
    EventOk codec (audit.keys codec) package (0 + (audit.taskEvents package.taskId).length)
      (((audit.taskEvents package.taskId).getLast?.map SignedEvidenceEvent.eventHash).getD
        zeroHash) event := by
  obtain ⟨hhash, hevent, -⟩ := h
  rw [htask] at hhash hevent
  generalize event.eventHash = hash at hhash hevent
  subst hevent
  refine ⟨?_, rfl, htask, htenant, hhash, codec.verifyingKey audit.signingKey, ?_, hsigned _ _⟩
  · rw [Nat.zero_add]
    rfl
  · simp [keys, following]

theorem Accepted.append (h : Accepted codec audit) (call : Append) :
    Accepted codec (audit.append codec call).1 := by
  intro package hfirst
  rw [keys_append]
  obtain ⟨-, -, ⟨-, hsame⟩ | ⟨event, -, happended, hgrows⟩⟩ := append_cases codec audit call
  · rw [hsame] at hfirst ⊢
    exact h package hfirst
  · rw [hgrows] at hfirst ⊢
    by_cases htask : call.draft.taskId = package.taskId
    · rw [if_pos htask] at hfirst ⊢
      rw [verifyEvents_concat]
      -- The tenant of the package is that of the first event, which is the new one if there was
      -- none before.
      cases hhead : (audit.taskEvents package.taskId).head? with
      | none =>
        have hempty : audit.taskEvents package.taskId = [] := List.head?_eq_none_iff.mp hhead
        have htenant : event.draft.tenantId = package.tenantId := hfirst event (by rw [hempty]; rfl)
        rw [happended.event] at htenant
        exact ⟨h package (by simp [hhead]), happended.eventOk hsigned htask htenant⟩
      | some first =>
        have hold : first.draft.tenantId = package.tenantId :=
          hfirst first (by rw [List.head?_append, hhead]; rfl)
        have hnew : first.draft.tenantId = call.draft.tenantId :=
          happended.tenant first (by rw [htask, hhead])
        refine ⟨h package fun first' hfirst' => ?_,
          happended.eventOk hsigned htask (hnew.symm.trans hold)⟩
        rw [hhead] at hfirst'
        cases hfirst'
        exact hold
    · rw [if_neg htask] at hfirst ⊢
      exact h package hfirst

theorem Accepted.run (h : Accepted codec audit) (calls : List Append) :
    Accepted codec (audit.run codec calls) := by
  induction calls generalizing audit with
  | nil => exact h
  | cons call calls ih => exact ih (h.append hsigned call)

end InMemoryAuditChain

section Packages

open EvidenceChainVerifier

variable {Bytes SigningKey VerifyingKey : Type}
  {codec : EvidenceCodec Bytes SigningKey VerifyingKey} {audit : InMemoryAuditChain SigningKey}
  {package : EvidencePackage}

deriving instance DecidableEq for SignedEvidenceEvent

def unsigned (event : SignedEvidenceEvent) : SignedEvidenceEvent :=
  { event with eventHash := "", signature := "" }

/-- No signature in the package is a forgery: what is accepted under the key was made for the
same hash by the calls. -/
def NotForged (codec : EvidenceCodec Bytes SigningKey VerifyingKey) (key : VerifyingKey)
    (issued : List SignedEvidenceEvent) (package : EvidencePackage) : Prop :=
  ∀ event ∈ package.events,
    codec.accepts key (codec.asBytes event.eventHash) event.signature = true →
    ∃ signed ∈ issued, signed.eventHash = event.eventHash ∧ signed.signature = event.signature

/-- Events of the package and signed events that hash to the same text are the same, as far as
the hash covers them. -/
def CollisionFree (codec : EvidenceCodec Bytes SigningKey VerifyingKey)
    (issued : List SignedEvidenceEvent) (package : EvidencePackage) : Prop :=
  ∀ event ∈ package.events, ∀ signed ∈ issued,
    expectedHash codec event = .ok signed.eventHash →
    expectedHash codec signed = .ok signed.eventHash → unsigned event = unsigned signed

theorem InMemoryAuditChain.Accepted.stored (h : audit.Accepted codec) {taskId : TaskId}
    {position : Nat} {first event : SignedEvidenceEvent}
    (hfirst : (audit.taskEvents taskId).head? = some first)
    (hevent : (audit.taskEvents taskId)[position]? = some event) :
    event.sequence = position + 1 ∧ event.draft.tenantId = first.draft.tenantId ∧
      expectedHash codec event = .ok event.eventHash := by
  have haccepted := h
    { schemaVersion := "", packageId := "", tenantId := first.draft.tenantId, taskId, events := []
      artifacts := [], packageHash := "", builtAt := 0 }
    (fun other hother => by rw [hfirst] at hother; cases hother; rfl)
  obtain ⟨before, hok⟩ := eventOk_of_verifyEvents haccepted hevent
  rw [Nat.zero_add] at hok
  exact ⟨hok.sequence, hok.tenantId, hok.eventHash⟩

theorem SignedEvidencePackage.verify_eq_ok {signed : SignedEvidencePackage} {key : VerifyingKey}
    {eventKeys : BTreeMap String VerifyingKey} {report : EvidenceIntegrityReport}
    (h : signed.verify codec key eventKeys = .ok report) :
    (EvidenceChainVerifier.verify codec eventKeys signed.package).valid = true ∧
      signed.package.events.getLast?.map SignedEvidenceEvent.eventHash = some signed.chainHead := by
  unfold SignedEvidencePackage.verify at h
  split at h
  · cases h
  · split at h
    · cases h
    · next last hlast =>
      split at h
      · cases h
      · next hhead =>
        rw [not_or, not_ne_iff] at hhead
        split at h
        · cases h
        · split at h
          · cases h
          · split at h
            · dsimp only at h
              split at h
              · next hvalid => exact ⟨hvalid, by rw [hlast, hhead.1]; rfl⟩
              · cases h
            · cases h

def sampleCodec : EvidenceCodec String Unit Unit where
  eventJcs event := some (event.draft.taskId ++ "/" ++ toString event.sequence)
  packageJcs package := some package.packageId
  signedPackageJcs signed := some signed.chainHead
  sha256Hex bytes := "sha256 of " ++ bytes
  asBytes text := text
  verifyingKey _ := ()
  sign _ bytes := "signed " ++ bytes
  readSignature text := some text
  verifies _ bytes signature := signature == "signed " ++ bytes

def sampleStart : InMemoryAuditChain Unit := ⟨"evidence-key", (), 10, ∅⟩

def sampleArtifact : StoredArtifact where
  artifactRef := "artifact:report"
  sha256 := String.ofList (List.replicate 64 'b')
  mediaType := "text/plain"
  classification := "INTERNAL"
  retentionSeconds := 60
  accessPolicy := "tenant"
  bytes := 12
  createdAt := 0

theorem sampleCodec_signed (key : Unit) (bytes : String) :
    sampleCodec.accepts (sampleCodec.verifyingKey key) bytes (sampleCodec.sign key bytes) =
      true := by
  simp [EvidenceCodec.accepts, sampleCodec]

end Packages

end AgentSphere.Evidence
