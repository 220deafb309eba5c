import AgentSphere.DataGovernance.Labels
import AgentSphere.Lib.Alone
import AgentSphere.Lib.HashChain

/-!
# Audit ingest

The ingest keeps one signed hash chain for each tenant, and an index of all records by the request
that brought them. A batch is looked up in the index, then appended to the chain of its tenant, and
last entered in the index. The index is locked twice and the chains once, from the second section
to the end of the third, so that other batches may be looked up in between.
-/

namespace AgentSphere.Audit

open Concurrency HashChain

inductive AuditError where
  | configurationInvalid
  | recordInvalid
  | tenantDenied
  | idempotencyConflict
  | capacityExceeded
  | retentionPolicyInvalid
  | legalHoldInvalid
  | legalHoldConflict
  | legalHoldReleaseDenied
  | notFound
  | canonicalization
  | signatureInvalid
  | integrityFailed
  | queryDenied
  deriving DecidableEq, Repr

def auditSchemaVersion : String := "agenttrust.audit-retention.v1"

structure AuditRecordDraft where
  schemaVersion : SchemaVersion
  requestId : String
  tenantId : TenantId
  taskId : TaskId
  eventType : String
  actorSubject : String
  resource : String
  classification : DataClassification
  payloadHash : String
  safeSummary : String
  artifactHashes : List String
  occurredAt : DateTime

structure AuditRecord where
  schemaVersion : String
  recordId : String
  sequence : Nat
  previousHash : String
  recordHash : String
  keyId : String
  signature : String
  draft : AuditRecordDraft

structure AuditExportManifest where
  schemaVersion : String
  exportId : String
  tenantId : TenantId
  recordHashes : List String
  chainHead : String
  transformed : Bool
  transformationHash : Option String
  keyId : String
  manifestHash : String
  signature : String
  exportedAt : DateTime

structure AuditCodec (Bytes SigningKey VerifyingKey : Type) where
  /-- `serde_jcs::to_vec` of a record. -/
  recordJcs : AuditRecord → Option Bytes
  /-- `serde_jcs::to_vec` of a manifest. -/
  manifestJcs : AuditExportManifest → Option Bytes
  sha256Hex : Bytes → String
  /-- `str::as_bytes`. -/
  asBytes : String → Bytes
  verifyingKey : SigningKey → VerifyingKey
  sign : SigningKey → Bytes → String
  readSignature : String → Option Bytes
  /-- `Verifier::verify` of some bytes and a signature. -/
  verifies : VerifyingKey → Bytes → Bytes → Bool

/-- The hash before the first record: `"0".repeat(64)`. -/
def zeroHash : String := String.ofList (List.replicate 64 '0')

def validateDraft (draft : AuditRecordDraft) : Except AuditError Unit :=
  let summary := toAsciiLowercase draft.safeSummary
  if draft.schemaVersion ≠ auditSchemaVersion ∨ draft.requestId.isEmpty ∨
      draft.eventType.isEmpty ∨ draft.actorSubject.isEmpty ∨ draft.resource.isEmpty ∨
      draft.payloadHash.utf8ByteSize ≠ 64 ∨ draft.safeSummary.isEmpty ∨
      (draft.artifactHashes.any fun hash => hash.utf8ByteSize ≠ 64) ∨
      ["password=", "api_key=", "bearer ", "private key"].any (containsText summary) then
    .error .recordInvalid
  else .ok ()

def validateDrafts : List AuditRecordDraft → Except AuditError Unit
  | [] => .ok ()
  | draft :: drafts =>
    match validateDraft draft with
    | .error e => .error e
    | .ok () => validateDrafts drafts

structure AuditIngest (SigningKey : Type) where
  keyId : String
  signingKey : SigningKey
  maximumRecordsPerTenant : Nat
  keyNamed : keyId.isEmpty = false
  someRecord : 0 < maximumRecordsPerTenant

structure AuditState where
  records : BTreeMap TenantId (List AuditRecord)
  requestIds : BTreeMap String AuditRecord
  deletedPayloads : BTreeSet String
  /-- Between its last two sections a batch holds the lock of the chains. -/
  chainsHeld : Bool

namespace AuditState

def empty : AuditState := ⟨∅, ∅, ∅, false⟩

def tenantRecords (state : AuditState) (tenant : TenantId) : List AuditRecord :=
  state.records[tenant]?.getD []

def store (state : AuditState) (tenant : TenantId) (chain : List AuditRecord) : AuditState :=
  { state with records := state.records.insert tenant chain }

def lookUp (state : AuditState) (requestIds : List String) : List AuditRecord :=
  requestIds.filterMap fun requestId => state.requestIds[requestId]?

def index (state : AuditState) (appended : List AuditRecord) : AuditState :=
  { state with
    requestIds := appended.foldl (fun requestIds record =>
      requestIds.insert record.draft.requestId record) state.requestIds
    chainsHeld := false }

end AuditState

section Model

variable {Bytes SigningKey VerifyingKey : Type}

def recordHash (codec : AuditCodec Bytes SigningKey VerifyingKey) (record : AuditRecord) :
    Except AuditError String :=
  match codec.recordJcs { record with recordHash := "", signature := "" } with
  | some bytes => .ok (codec.sha256Hex bytes)
  | none => .error .canonicalization

namespace AuditIngest

def following (self : AuditIngest SigningKey) (chain : List AuditRecord)
    (draft : AuditRecordDraft) (recordId : String) : AuditRecord where
  schemaVersion := auditSchemaVersion
  recordId
  sequence := chain.length + 1
  previousHash := (chain.getLast?.map AuditRecord.recordHash).getD zeroHash
  recordHash := ""
  keyId := self.keyId
  signature := ""
  draft

def stamp (codec : AuditCodec Bytes SigningKey VerifyingKey) (self : AuditIngest SigningKey)
    (record : AuditRecord) (hash : String) : AuditRecord :=
  { record with
    recordHash := hash
    signature := codec.sign self.signingKey (codec.asBytes hash) }

def pushAll (codec : AuditCodec Bytes SigningKey VerifyingKey) (self : AuditIngest SigningKey)
    (drawn : Nat → String) (chain appended : List AuditRecord) :
    List AuditRecordDraft → Except AuditError (List AuditRecord) × List AuditRecord
  | [] => (.ok appended, chain)
  | draft :: drafts =>
    let record := self.following chain draft (drawn appended.length)
    match recordHash codec record with
    | .error e => (.error e, chain)
    | .ok hash =>
      let record := self.stamp codec record hash
      pushAll codec self drawn (chain ++ [record]) (appended ++ [record]) drafts

def extend (codec : AuditCodec Bytes SigningKey VerifyingKey) (self : AuditIngest SigningKey)
    (tenant : TenantId) (drafts : List AuditRecordDraft) (drawn : Nat → String)
    (state : AuditState) : Except AuditError (List AuditRecord) × AuditState :=
  let chain := state.tenantRecords tenant
  if self.maximumRecordsPerTenant < chain.length + drafts.length then
    (.error .capacityExceeded, state.store tenant chain)
  else
    let (result, chain) := self.pushAll codec drawn chain [] drafts
    (result, { state.store tenant chain with chainsHeld := result.isOk })

end AuditIngest

structure Batch where
  drafts : List AuditRecordDraft
  drawn : Nat → String

inductive IngestCall where
  | lookUp (requestIds : List String)
  | extend (tenant : TenantId) (batch : Batch)
  | index (appended : List AuditRecord)

abbrev IngestCall.Answer : IngestCall → Type
  | .lookUp _ => List AuditRecord
  | .extend _ _ => Except AuditError (List AuditRecord)
  | .index _ => Unit

def AuditIngest.appendNew (tenant : TenantId) (batch : Batch) :
    Attempt AuditError IngestCall IngestCall.Answer (List AuditRecord) := do
  let appended ← Attempt.port (IngestCall.extend tenant batch) id
  Attempt.ask (IngestCall.index appended)
  pure appended

def AuditIngest.appendBatch (batch : Batch) :
    Attempt AuditError IngestCall IngestCall.Answer (List AuditRecord) :=
  match batch.drafts with
  | [] => throw .recordInvalid
  | first :: _ => do
    Attempt.ofExcept (validateDrafts batch.drafts)
    Attempt.ensure (∀ draft ∈ batch.drafts, draft.tenantId = first.tenantId) .tenantDenied
    let existing : List AuditRecord ←
      Attempt.ask (IngestCall.lookUp (batch.drafts.map (·.requestId)))
    if existing.isEmpty then appendNew first.tenantId batch
    else if existing.length = batch.drafts.length then pure existing
    else throw .idempotencyConflict

def AuditIngest.serve (codec : AuditCodec Bytes SigningKey VerifyingKey)
    (self : AuditIngest SigningKey) (state : AuditState) :
    (call : IngestCall) → call.Answer × AuditState
  | .lookUp requestIds => (state.lookUp requestIds, state)
  | .extend tenant batch => self.extend codec tenant batch.drafts batch.drawn state
  | .index appended => ((), state.index appended)

def AuditState.Ready (state : AuditState) : IngestCall → Prop
  | .extend _ _ => state.chainsHeld = false
  | _ => True

def ingestSystem (codec : AuditCodec Bytes SigningKey VerifyingKey)
    (self : AuditIngest SigningKey) :
    System AuditState IngestCall IngestCall.Answer (Except AuditError (List AuditRecord)) where
  Serve state call answer state' :=
    state.Ready call ∧ self.serve codec state call = (answer, state')
  Internal state state' :=
    ∃ deletedPayloads, state' = { state with deletedPayloads := deletedPayloads }
  Start p := ∃ batch, p = (AuditIngest.appendBatch batch).run

-- The sections

def links : Links AuditRecord String :=
  ⟨AuditRecord.sequence, AuditRecord.previousHash, AuditRecord.recordHash⟩

structure Sealed (codec : AuditCodec Bytes SigningKey VerifyingKey)
    (ingest : AuditIngest SigningKey) (record : AuditRecord) : Prop where
  hash : recordHash codec record = .ok record.recordHash
  keyId : record.keyId = ingest.keyId
  signature : record.signature =
    codec.sign ingest.signingKey (codec.asBytes record.recordHash)

variable {codec : AuditCodec Bytes SigningKey VerifyingKey} {self : AuditIngest SigningKey}
  {state state' : AuditState} {tenant other : TenantId} {drafts : List AuditRecordDraft}
  {drawn : Nat → String} {chain appended : List AuditRecord}

theorem recordHash_eq_error {record : AuditRecord} {e : AuditError}
    (h : recordHash codec record = .error e) : ∃ record, codec.recordJcs record = none := by
  unfold recordHash at h
  split at h
  · cases h
  · exact ⟨_, ‹_›⟩

namespace AuditIngest

theorem sealed_stamp {record : AuditRecord} {hash : String}
    (hhash : recordHash codec record = .ok hash) (hkey : record.keyId = self.keyId) :
    Sealed codec self (self.stamp codec record hash) := ⟨hhash, hkey, rfl⟩

/-- What the loop pushes is sealed and linked, and brings the drafts in their order; only canonical
JSON can stop it. -/
theorem pushAll_spec (codec : AuditCodec Bytes SigningKey VerifyingKey)
    (self : AuditIngest SigningKey) (drawn : Nat → String) (chain appended : List AuditRecord)
    (drafts : List AuditRecordDraft) :
    ∃ more, (self.pushAll codec drawn chain appended drafts).2 = chain ++ more ∧
      (∀ record ∈ more, Sealed codec self record ∧ record.draft ∈ drafts) ∧
      (links.Linked 0 zeroHash chain → links.Linked 0 zeroHash (chain ++ more)) ∧
      (((self.pushAll codec drawn chain appended drafts).1 = .ok (appended ++ more) ∧
          more.map (·.draft) = drafts) ∨
        ∃ e record, (self.pushAll codec drawn chain appended drafts).1 = .error e ∧
          codec.recordJcs record = none) := by
  induction drafts generalizing chain appended with
  | nil =>
    refine ⟨[], ?_, by simp, ?_, .inl ⟨?_, rfl⟩⟩
    · simp [pushAll]
    · simp
    · simp [pushAll]
  | cons draft drafts ih =>
    rw [pushAll]
    have hsequence : (self.following chain draft (drawn appended.length)).sequence =
        0 + chain.length + 1 := by simp [following]
    have hprevious : (self.following chain draft (drawn appended.length)).previousHash =
        links.last zeroHash chain := rfl
    have hdraft : (self.following chain draft (drawn appended.length)).draft = draft := rfl
    have hkey : (self.following chain draft (drawn appended.length)).keyId = self.keyId := rfl
    generalize self.following chain draft (drawn appended.length) = record
      at hsequence hprevious hdraft hkey
    cases hhash : recordHash codec record with
    | error e =>
      obtain ⟨record, hnone⟩ := recordHash_eq_error hhash
      exact ⟨[], by simp, by simp, by simp, .inr ⟨e, record, rfl, hnone⟩⟩
    | ok hash =>
      obtain ⟨more, hchain, hmore, hlinked, hresult⟩ :=
        ih (chain ++ [self.stamp codec record hash])
          (appended ++ [self.stamp codec record hash])
      simp only [List.append_assoc, List.singleton_append] at hchain hlinked hresult
      refine ⟨self.stamp codec record hash :: more, hchain, ?_,
        fun h => hlinked (Links.linked_snoc.mpr ⟨h, hsequence, hprevious⟩), ?_⟩
      · intro record' hmem
        obtain rfl | hmem := List.mem_cons.mp hmem
        · exact ⟨sealed_stamp hhash hkey, by rw [← hdraft]; exact List.mem_cons_self⟩
        · exact ⟨(hmore record' hmem).1, List.mem_cons_of_mem _ (hmore record' hmem).2⟩
      · obtain ⟨hok, hdrafts⟩ | herror := hresult
        · exact .inl ⟨hok, by rw [List.map_cons, hdrafts, ← hdraft]; rfl⟩
        · exact .inr herror

end AuditIngest

namespace AuditState

@[simp] theorem tenantRecords_store (state : AuditState) (tenant other : TenantId)
    (chain : List AuditRecord) :
    (state.store tenant chain).tenantRecords other =
      if tenant = other then chain else state.tenantRecords other := by
  simp only [tenantRecords, store, BTreeMap.getElem?_insert_ite]
  split
  · rfl
  · rfl

theorem tenantRecords_store_self (state : AuditState) (tenant other : TenantId) :
    (state.store tenant (state.tenantRecords tenant)).tenantRecords other =
      state.tenantRecords other := by
  rw [tenantRecords_store]
  split
  · next h => rw [h]
  · rfl

@[simp] theorem tenantRecords_index (appended : List AuditRecord) (tenant : TenantId) :
    (state.index appended).tenantRecords tenant = state.tenantRecords tenant := rfl

theorem index_cons (record : AuditRecord) (appended : List AuditRecord) :
    (state.index (record :: appended)).requestIds =
      (({ state with requestIds := state.requestIds.insert record.draft.requestId record } :
        AuditState).index appended).requestIds := rfl

theorem index_congr (h : state.requestIds = state'.requestIds) (appended : List AuditRecord) :
    (state.index appended).requestIds = (state'.index appended).requestIds := by
  simp only [index, h]

theorem index_other {requestId : String}
    (h : ∀ record ∈ appended, record.draft.requestId ≠ requestId) :
    (state.index appended).requestIds[requestId]? = state.requestIds[requestId]? := by
  induction appended generalizing state with
  | nil => rfl
  | cons record appended ih =>
    rw [index_cons, ih fun other hmem => h other (List.mem_cons_of_mem _ hmem)]
    simp [h record List.mem_cons_self]

theorem index_entered (state : AuditState) {requestId : String}
    (h : ∃ record ∈ appended, record.draft.requestId = requestId) :
    ∃ record ∈ appended, record.draft.requestId = requestId ∧
      (state.index appended).requestIds[requestId]? = some record := by
  induction appended generalizing state with
  | nil =>
    obtain ⟨record, ⟨⟩, -⟩ := h
  | cons record appended ih =>
    rw [index_cons]
    by_cases hlater : ∃ later ∈ appended, later.draft.requestId = requestId
    · obtain ⟨later, hmem, hrequest, hknown⟩ :=
        ih { state with requestIds := state.requestIds.insert record.draft.requestId record }
          hlater
      exact ⟨later, List.mem_cons_of_mem _ hmem, hrequest, hknown⟩
    · obtain ⟨other, hmem, hrequest⟩ := h
      obtain rfl | hmem := List.mem_cons.mp hmem
      · refine ⟨other, List.mem_cons_self, hrequest, ?_⟩
        rw [index_other fun later hmem heq => hlater ⟨later, hmem, heq⟩]
        simp [hrequest]
      · exact absurd ⟨other, hmem, hrequest⟩ hlater

end AuditState

def AuditIngest.Fits (self : AuditIngest SigningKey) (state : AuditState) (tenant : TenantId)
    (drafts : List AuditRecordDraft) : Prop :=
  (state.tenantRecords tenant).length + drafts.length ≤ self.maximumRecordsPerTenant

theorem AuditIngest.extend_spec (codec : AuditCodec Bytes SigningKey VerifyingKey)
    (self : AuditIngest SigningKey) (tenant : TenantId) (drafts : List AuditRecordDraft)
    (drawn : Nat → String) (state : AuditState) :
    ∃ more, (∀ other, (self.extend codec tenant drafts drawn state).2.tenantRecords other =
        if tenant = other then state.tenantRecords other ++ more
        else state.tenantRecords other) ∧
      (self.extend codec tenant drafts drawn state).2.requestIds = state.requestIds ∧
      (self.extend codec tenant drafts drawn state).2.deletedPayloads = state.deletedPayloads ∧
      (∀ record ∈ more, Sealed codec self record ∧ record.draft ∈ drafts) ∧
      (links.Linked 0 zeroHash (state.tenantRecords tenant) →
        links.Linked 0 zeroHash (state.tenantRecords tenant ++ more)) ∧
      (((self.extend codec tenant drafts drawn state).1 = .ok more ∧
          more.map (·.draft) = drafts ∧ self.Fits state tenant drafts) ∨
        ((self.extend codec tenant drafts drawn state).1 = .error .capacityExceeded ∧
          more = [] ∧ ¬ self.Fits state tenant drafts) ∨
        ∃ e record, (self.extend codec tenant drafts drawn state).1 = .error e ∧
          codec.recordJcs record = none) := by
  unfold extend Fits
  dsimp only
  split
  · next hfull =>
    refine ⟨[], fun other => ?_, rfl, rfl, by simp, by simp,
      .inr (.inl ⟨rfl, rfl, Nat.not_le_of_lt hfull⟩)⟩
    rw [AuditState.tenantRecords_store_self, List.append_nil, ite_self]
  · next hfits =>
    obtain ⟨more, hchain, hmore, hlinked, hresult⟩ :=
      pushAll_spec codec self drawn (state.tenantRecords tenant) [] drafts
    refine ⟨more, fun other => ?_, rfl, rfl, hmore, hlinked, ?_⟩
    · have hstored : ∀ held, ({ state.store tenant (self.pushAll codec drawn
          (state.tenantRecords tenant) [] drafts).2 with chainsHeld := held } :
            AuditState).tenantRecords other = _ := fun _ =>
        AuditState.tenantRecords_store state tenant other _
      rw [hstored, hchain]
      split
      · next h => rw [h]
      · rfl
    · obtain ⟨hok, hdrafts⟩ | herror := hresult
      · exact .inl ⟨hok, hdrafts, Nat.le_of_not_lt hfits⟩
      · exact .inr (.inr herror)

-- The order of the sections

abbrev IngestEntry := Entry IngestCall IngestCall.Answer

/-- A section is called for after those before it: a batch of one tenant is appended once none of
its requests was found, and what was appended is entered in the index. -/
def MayCall (entries : List IngestEntry) : IngestCall → Prop
  | .lookUp _ => entries = []
  | .extend tenant batch =>
    entries = [⟨.lookUp (batch.drafts.map (·.requestId)), []⟩] ∧
      ∀ draft ∈ batch.drafts, draft.tenantId = tenant
  | .index appended => ∃ tenant batch,
      entries = [⟨.lookUp (batch.drafts.map (·.requestId)), []⟩,
        ⟨.extend tenant batch, .ok appended⟩]

theorem conduct_appendBatch (batch : Batch) :
    (recording MayCall fun _ _ => True).Ensures (fun _ _ => True)
      (AuditIngest.appendBatch batch).run [] := by
  unfold AuditIngest.appendBatch
  split
  · trivial
  · next first rest hdrafts =>
    refine Monitor.ofExcept_bind (fun _ _ => ?_) fun _ _ => trivial
    refine Monitor.ensure_bind (fun htenant => ?_) fun _ => trivial
    refine Monitor.ask_bind rfl fun existing => ?_
    split
    · next hempty =>
      obtain rfl : existing = [] := List.isEmpty_iff.mp hempty
      refine Monitor.port_bind ⟨rfl, htenant⟩ (fun answer appended hanswer => ?_)
        fun _ _ _ => trivial
      obtain rfl : answer = .ok appended := hanswer
      exact Monitor.ask_bind ⟨_, _, rfl⟩ fun _ => trivial
    · split
      · trivial
      · trivial

theorem conduct_of_start {p : Program IngestCall IngestCall.Answer
    (Except AuditError (List AuditRecord))} (h : (ingestSystem codec self).Start p) :
    (recording MayCall fun _ _ => True).Ensures (fun _ _ => True) p [] := by
  obtain ⟨batch, rfl⟩ := h
  exact conduct_appendBatch batch

-- The chains

structure Stored (codec : AuditCodec Bytes SigningKey VerifyingKey)
    (ingest : AuditIngest SigningKey) (state : AuditState) : Prop where
  linked : ∀ tenant, links.Linked 0 zeroHash (state.tenantRecords tenant)
  sealed : ∀ tenant, ∀ record ∈ state.tenantRecords tenant, Sealed codec ingest record
  owned : ∀ tenant, ∀ record ∈ state.tenantRecords tenant, record.draft.tenantId = tenant

theorem stored_empty : Stored codec self .empty :=
  ⟨by simp [AuditState.empty, AuditState.tenantRecords],
    by simp [AuditState.empty, AuditState.tenantRecords],
    by simp [AuditState.empty, AuditState.tenantRecords]⟩

theorem Stored.congr (h : Stored codec self state)
    (hsame : ∀ tenant, state'.tenantRecords tenant = state.tenantRecords tenant) :
    Stored codec self state' := by
  obtain ⟨hlinked, hsealed, howned⟩ := h
  simp only [← hsame] at hlinked hsealed howned
  exact ⟨hlinked, hsealed, howned⟩

theorem Stored.extend (h : Stored codec self state)
    (htenant : ∀ draft ∈ drafts, draft.tenantId = tenant) :
    Stored codec self (self.extend codec tenant drafts drawn state).2 := by
  obtain ⟨more, hchains, -, -, hmore, hlinked, -⟩ :=
    AuditIngest.extend_spec codec self tenant drafts drawn state
  refine ⟨fun other => ?_, fun other record hmem => ?_, fun other record hmem => ?_⟩
  · rw [hchains]
    split
    · next heq => exact heq ▸ hlinked (h.linked tenant)
    · exact h.linked other
  · rw [hchains] at hmem
    split at hmem
    · obtain hmem | hmem := List.mem_append.mp hmem
      · exact h.sealed other record hmem
      · exact (hmore record hmem).1
    · exact h.sealed other record hmem
  · rw [hchains] at hmem
    split at hmem
    · next heq =>
      obtain hmem | hmem := List.mem_append.mp hmem
      · exact h.owned other record hmem
      · exact heq ▸ htenant _ (hmore record hmem).2
    · exact h.owned other record hmem

theorem Stored.serve (h : Stored codec self state) {entries : List IngestEntry}
    {call : IngestCall} (hmay : MayCall entries call) :
    Stored codec self (self.serve codec state call).2 := by
  cases call with
  | lookUp requestIds => exact h
  | extend tenant batch => exact h.extend hmay.2
  | index appended => exact h.congr fun _ => rfl

abbrev IngestRun := Config AuditState IngestCall IngestCall.Answer
  (Except AuditError (List AuditRecord))

/-- **Chains**: in every interleaving of batches the chains stay linked, sealed and owned. -/
theorem stored_reachable {cfg : IngestRun}
    (hreach : (ingestSystem codec self).Reachable .empty cfg) :
    Stored codec self cfg.shared := by
  refine (hreach.conducted (I := fun state _ => Stored codec self state)
    (fun p hp => conduct_of_start hp) ?_ ?_ stored_empty).1
  · rintro cfg i call answer state' - hstored hmay ⟨-, hserve⟩
    have hkept := hstored.serve hmay
    rwa [hserve] at hkept
  · rintro state - state' hstored ⟨deletedPayloads, rfl⟩
    exact hstored.congr fun _ => rfl

end Model

-- Samples

/-- Bytes are texts, hashes are the names of what is hashed, and a signature is the text it signs
after its key. -/
def sampleCodec : AuditCodec String String String where
  recordJcs record := some ("record " ++ record.recordId)
  manifestJcs manifest := some ("manifest " ++ manifest.exportId)
  sha256Hex := id
  asBytes := id
  verifyingKey := id
  sign key bytes := key ++ bytes
  readSignature := some
  verifies key bytes signature := signature == key ++ bytes

theorem sampleMaximum_pos : 0 < 10 := by decide

def sampleIngest : AuditIngest String where
  keyId := "audit-key"
  signingKey := "a"
  maximumRecordsPerTenant := 10
  keyNamed := by decide
  someRecord := sampleMaximum_pos

def sampleDraft (tenantId : TenantId) (requestId : String) : AuditRecordDraft where
  schemaVersion := auditSchemaVersion
  requestId
  tenantId
  taskId := "task-1"
  eventType := "APPROVAL"
  actorSubject := "user-1"
  resource := "repo://a"
  classification := .internal
  payloadHash := zeroHash
  safeSummary := "approval recorded"
  artifactHashes := []
  occurredAt := 0

def sampleBatch (tenantId : TenantId) (requestId : String) : Batch :=
  ⟨[sampleDraft tenantId requestId], fun _ => requestId⟩

end AgentSphere.Audit
