import AgentSphere.Audit.Batches

/-!
# Exported packages

An export takes the records of a tenant up to a classification, lists their hashes in a manifest
and signs it. The verifier goes over the package without the ingest: it wants the manifest signed
and the records numbered from one, linked, hashed and signed.
-/

namespace AgentSphere.Audit

open Concurrency HashChain

structure AuditExportPackage where
  manifest : AuditExportManifest
  records : List AuditRecord

structure AuditExportService (SigningKey : Type) where
  keyId : String
  signingKey : SigningKey
  keyNamed : keyId.isEmpty = false

structure IntegrityVerifier (VerifyingKey : Type) where
  keys : BTreeMap String VerifyingKey

section Model

variable {Bytes SigningKey VerifyingKey : Type}

def manifestHash (codec : AuditCodec Bytes SigningKey VerifyingKey)
    (manifest : AuditExportManifest) : Except AuditError String :=
  match codec.manifestJcs { manifest with manifestHash := "", signature := "" } with
  | some bytes => .ok (codec.sha256Hex bytes)
  | none => .error .canonicalization

def kept (state : AuditState) (tenant : TenantId) (maximum : DataClassification) :
    List AuditRecord :=
  (state.tenantRecords tenant).filter fun record => record.draft.classification ≤ maximum

namespace AuditExportService

def manifestOf (codec : AuditCodec Bytes SigningKey VerifyingKey)
    (self : AuditExportService SigningKey) (tenantId : TenantId) (recordHashes : List String)
    (transformed : Bool) (exportId : String) (exportedAt : DateTime) : AuditExportManifest where
  schemaVersion := auditSchemaVersion
  exportId
  tenantId
  recordHashes
  chainHead := recordHashes.getLast?.getD ""
  transformed
  transformationHash :=
    if transformed then
      some (codec.sha256Hex (codec.asBytes (String.intercalate ":redacted:" recordHashes)))
    else none
  keyId := self.keyId
  manifestHash := ""
  signature := ""
  exportedAt

/-- `export`; the identifier and the time are drawn. -/
def exportPackage (codec : AuditCodec Bytes SigningKey VerifyingKey)
    (self : AuditExportService SigningKey) (state : AuditState) (tenant : TenantId)
    (maximumClassification : DataClassification) (transformed : Bool) (exportId : String)
    (exportedAt : DateTime) : Except AuditError AuditExportPackage :=
  let records := kept state tenant maximumClassification
  if records.isEmpty then .error .notFound
  else
    let manifest := self.manifestOf codec tenant (records.map (·.recordHash)) transformed exportId
      exportedAt
    match manifestHash codec manifest with
    | .error e => .error e
    | .ok hash => .ok
      { manifest :=
          { manifest with
            manifestHash := hash
            signature := codec.sign self.signingKey (codec.asBytes hash) }
        records }

end AuditExportService

def verifySignature (codec : AuditCodec Bytes SigningKey VerifyingKey) (key : VerifyingKey)
    (message encoded : String) : Except AuditError Unit :=
  match codec.readSignature encoded with
  | none => .error .signatureInvalid
  | some signature =>
    if codec.verifies key (codec.asBytes message) signature then .ok ()
    else .error .signatureInvalid

namespace IntegrityVerifier

def verifyRecord (codec : AuditCodec Bytes SigningKey VerifyingKey)
    (self : IntegrityVerifier VerifyingKey) (index : Nat) (previous : String)
    (record : AuditRecord) : Except AuditError Unit :=
  if record.sequence ≠ index + 1 ∨ record.previousHash ≠ previous then .error .integrityFailed
  else
    match recordHash codec record with
    | .error e => .error e
    | .ok hash =>
      if record.recordHash ≠ hash then .error .integrityFailed
      else
        match self.keys[record.keyId]? with
        | none => .error .signatureInvalid
        | some key => verifySignature codec key record.recordHash record.signature

def verifyRecords (codec : AuditCodec Bytes SigningKey VerifyingKey)
    (self : IntegrityVerifier VerifyingKey) :
    Nat → String → List AuditRecord → Except AuditError String
  | _, previous, [] => .ok previous
  | index, previous, record :: records =>
    match self.verifyRecord codec index previous record with
    | .error e => .error e
    | .ok () => verifyRecords codec self (index + 1) record.recordHash records

def verify (codec : AuditCodec Bytes SigningKey VerifyingKey)
    (self : IntegrityVerifier VerifyingKey) (package : AuditExportPackage) :
    Except AuditError Unit :=
  match self.keys[package.manifest.keyId]? with
  | none => .error .signatureInvalid
  | some key =>
    match verifySignature codec key package.manifest.manifestHash package.manifest.signature with
    | .error e => .error e
    | .ok () =>
      match manifestHash codec package.manifest with
      | .error e => .error e
      | .ok hash =>
        if hash ≠ package.manifest.manifestHash ∨ package.records.isEmpty ∨
            package.records.head?.map (·.draft.tenantId) ≠ some package.manifest.tenantId ∨
            package.manifest.recordHashes ≠ package.records.map (·.recordHash) then
          .error .integrityFailed
        else
          match self.verifyRecords codec 0 zeroHash package.records with
          | .error e => .error e
          | .ok previous =>
            if previous ≠ package.manifest.chainHead then .error .integrityFailed else .ok ()

end IntegrityVerifier

def AuditCodec.accepts (codec : AuditCodec Bytes SigningKey VerifyingKey) (key : VerifyingKey)
    (message encoded : String) : Prop :=
  ∃ signature, codec.readSignature encoded = some signature ∧
    codec.verifies key (codec.asBytes message) signature = true

variable {codec : AuditCodec Bytes SigningKey VerifyingKey} {ingest : AuditIngest SigningKey}
  {service : AuditExportService SigningKey} {verifier : IntegrityVerifier VerifyingKey}
  {package : AuditExportPackage} {state : AuditState}

-- The verifier

theorem verifySignature_eq_ok {key : VerifyingKey} {message encoded : String} :
    verifySignature codec key message encoded = .ok () ↔ codec.accepts key message encoded := by
  unfold verifySignature AuditCodec.accepts
  cases codec.readSignature encoded with
  | none => simp
  | some signature => simp

def SignedBy (codec : AuditCodec Bytes SigningKey VerifyingKey)
    (verifier : IntegrityVerifier VerifyingKey) (keyId message encoded : String) : Prop :=
  ∃ key, verifier.keys[keyId]? = some key ∧ codec.accepts key message encoded

structure RecordOk (codec : AuditCodec Bytes SigningKey VerifyingKey)
    (verifier : IntegrityVerifier VerifyingKey) (record : AuditRecord) : Prop where
  hash : recordHash codec record = .ok record.recordHash
  signed : SignedBy codec verifier record.keyId record.recordHash record.signature

theorem verifyRecord_eq_ok {index : Nat} {previous : String} {record : AuditRecord} :
    verifier.verifyRecord codec index previous record = .ok () ↔
      record.sequence = index + 1 ∧ record.previousHash = previous ∧
        RecordOk codec verifier record := by
  unfold IntegrityVerifier.verifyRecord
  constructor
  · intro h
    split at h
    · cases h
    · next hlinks =>
      rw [not_or, not_ne_iff, not_ne_iff] at hlinks
      split at h
      · cases h
      · next hash hhash =>
        split at h
        · cases h
        · next heq =>
          split at h
          · cases h
          · next key hkey =>
            rw [← not_ne_iff.mp heq] at hhash
            exact ⟨hlinks.1, hlinks.2, hhash, key, hkey, verifySignature_eq_ok.mp h⟩
  · rintro ⟨hsequence, hprevious, hhash, key, hkey, haccepts⟩
    simp [hsequence, hprevious, hhash, hkey, verifySignature_eq_ok.mpr haccepts]

theorem verifyRecords_eq_ok {index : Nat} {previous head : String}
    {records : List AuditRecord} :
    verifier.verifyRecords codec index previous records = .ok head ↔
      links.Linked index previous records ∧ (∀ record ∈ records, RecordOk codec verifier record) ∧
        links.last previous records = head := by
  induction records generalizing index previous with
  | nil => simp [IntegrityVerifier.verifyRecords]
  | cons record records ih =>
    have hcons : verifier.verifyRecords codec index previous (record :: records) = .ok head ↔
        verifier.verifyRecord codec index previous record = .ok () ∧
          verifier.verifyRecords codec (index + 1) record.recordHash records = .ok head := by
      rw [IntegrityVerifier.verifyRecords]
      cases verifier.verifyRecord codec index previous record with
      | error e => simp
      | ok u => simp
    rw [hcons, verifyRecord_eq_ok, ih, Links.linked_cons, Links.last_cons, List.forall_mem_cons]
    constructor
    · rintro ⟨⟨hsequence, hprevious, hrecord⟩, hlinked, hrecords, hhead⟩
      exact ⟨⟨hsequence, hprevious, hlinked⟩, ⟨hrecord, hrecords⟩, hhead⟩
    · rintro ⟨⟨hsequence, hprevious, hlinked⟩, ⟨hrecord, hrecords⟩, hhead⟩
      exact ⟨⟨hsequence, hprevious, hrecord⟩, hlinked, hrecords, hhead⟩

structure Accepted (codec : AuditCodec Bytes SigningKey VerifyingKey)
    (verifier : IntegrityVerifier VerifyingKey) (package : AuditExportPackage) : Prop where
  signed : SignedBy codec verifier package.manifest.keyId package.manifest.manifestHash
    package.manifest.signature
  hash : manifestHash codec package.manifest = .ok package.manifest.manifestHash
  tenant : package.records.head?.map (·.draft.tenantId) = some package.manifest.tenantId
  hashes : package.manifest.recordHashes = package.records.map (·.recordHash)
  linked : links.Linked 0 zeroHash package.records
  records : ∀ record ∈ package.records, RecordOk codec verifier record
  head : links.last zeroHash package.records = package.manifest.chainHead

theorem verify_eq_ok :
    verifier.verify codec package = .ok () ↔ Accepted codec verifier package := by
  unfold IntegrityVerifier.verify
  constructor
  · intro h
    split at h
    · cases h
    · next key hkey =>
      split at h
      · cases h
      · next hsignature =>
        split at h
        · cases h
        · next hash hhash =>
          split at h
          · cases h
          · next hmanifest =>
            rw [not_or, not_or, not_or, not_ne_iff, not_ne_iff, not_ne_iff] at hmanifest
            obtain ⟨rfl, -, htenant, hhashes⟩ := hmanifest
            split at h
            · cases h
            · next previous hrecords =>
              obtain ⟨hlinked, hok, hlast⟩ := verifyRecords_eq_ok.mp hrecords
              split at h
              · cases h
              · next hhead =>
                exact ⟨⟨key, hkey, verifySignature_eq_ok.mp hsignature⟩, hhash, htenant, hhashes,
                  hlinked, hok, hlast.trans (not_ne_iff.mp hhead)⟩
  · rintro ⟨⟨key, hkey, haccepts⟩, hhash, htenant, hhashes, hlinked, hrecords, hhead⟩
    have hnonempty : package.records ≠ [] := by
      intro hnil
      simp [hnil] at htenant
    have hloop := verifyRecords_eq_ok.mpr ⟨hlinked, hrecords, hhead⟩
    simp [hkey, verifySignature_eq_ok.mpr haccepts, hhash, htenant, hhashes, hnonempty, hloop]

section Exports

variable {tenant : TenantId} {maximum : DataClassification} {transformed : Bool}
  {exportId : String} {exportedAt : DateTime}

theorem export_eq_ok
    (h : service.exportPackage codec state tenant maximum transformed exportId exportedAt =
      .ok package) :
    kept state tenant maximum ≠ [] ∧ package.records = kept state tenant maximum ∧
      package.manifest.tenantId = tenant ∧ package.manifest.keyId = service.keyId ∧
      package.manifest.recordHashes = package.records.map (·.recordHash) ∧
      package.manifest.chainHead = links.last zeroHash package.records ∧
      manifestHash codec package.manifest = .ok package.manifest.manifestHash ∧
      package.manifest.signature =
        codec.sign service.signingKey (codec.asBytes package.manifest.manifestHash) := by
  unfold AuditExportService.exportPackage at h
  dsimp only at h
  split at h
  · cases h
  · next hsome =>
    have hnonempty := mt List.isEmpty_iff.mpr hsome
    split at h
    · cases h
    · next hash hhash =>
      cases h
      refine ⟨hnonempty, rfl, rfl, rfl, rfl, ?_, hhash, rfl⟩
      obtain ⟨front, record, hlast⟩ := List.eq_nil_or_concat (kept state tenant maximum)
        |>.resolve_left hnonempty
      simp only [hlast, List.concat_eq_append, Links.last_snoc]
      simp [AuditExportService.manifestOf, links]

def KeptFirst (state : AuditState) (tenant : TenantId) (maximum : DataClassification) : Prop :=
  (state.tenantRecords tenant).Pairwise fun record record' =>
    record'.draft.classification ≤ maximum → record.draft.classification ≤ maximum

theorem linked_kept_iff (hstored : Stored codec ingest state) :
    links.Linked 0 zeroHash (kept state tenant maximum) ↔ KeptFirst state tenant maximum := by
  rw [kept, (hstored.linked tenant).filter_iff]
  simp only [decide_eq_true_eq]
  rfl

theorem export_accepted
    (hsigned : ∀ key message, codec.accepts (codec.verifyingKey key) message
      (codec.sign key (codec.asBytes message)))
    (hingest : verifier.keys[ingest.keyId]? = some (codec.verifyingKey ingest.signingKey))
    (hexport : verifier.keys[service.keyId]? = some (codec.verifyingKey service.signingKey))
    (hstored : Stored codec ingest state)
    (h : service.exportPackage codec state tenant maximum transformed exportId exportedAt =
      .ok package)
    (hlinked : links.Linked 0 zeroHash (kept state tenant maximum)) :
    Accepted codec verifier package := by
  obtain ⟨hnonempty, hrecords, htenant, hkeyId, hhashes, hhead, hhash, hsignature⟩ :=
    export_eq_ok h
  have hmem : ∀ record ∈ package.records, record ∈ state.tenantRecords tenant := by
    rw [hrecords]
    exact fun record hmem => List.mem_of_mem_filter hmem
  refine ⟨⟨_, hkeyId ▸ hexport, hsignature ▸ hsigned _ _⟩, hhash, ?_, hhashes, hrecords ▸ hlinked,
    fun record hrecord => ?_, hhead.symm⟩
  · rw [← hrecords] at hnonempty
    obtain ⟨first, rest, hfirst⟩ := List.exists_cons_of_ne_nil hnonempty
    rw [hfirst] at hmem ⊢
    rw [htenant]
    exact congrArg some (hstored.owned tenant first (hmem first List.mem_cons_self))
  · obtain ⟨hrecordHash, hrecordKey, hrecordSignature⟩ :=
      hstored.sealed tenant record (hmem record hrecord)
    exact ⟨hrecordHash, _, hrecordKey ▸ hingest, hrecordSignature ▸ hsigned _ _⟩

/-- **Exports**: whatever was ingested, an exported package is accepted exactly if no record above
the maximum classification stands before one that is not. -/
theorem export_accepted_iff {cfg : IngestRun}
    (hsigned : ∀ key message, codec.accepts (codec.verifyingKey key) message
      (codec.sign key (codec.asBytes message)))
    (hingest : verifier.keys[ingest.keyId]? = some (codec.verifyingKey ingest.signingKey))
    (hexport : verifier.keys[service.keyId]? = some (codec.verifyingKey service.signingKey))
    (hreach : (ingestSystem codec ingest).Reachable .empty cfg)
    (h : service.exportPackage codec cfg.shared tenant maximum transformed exportId exportedAt =
      .ok package) :
    verifier.verify codec package = .ok () ↔ KeptFirst cfg.shared tenant maximum := by
  have hstored := stored_reachable hreach
  rw [verify_eq_ok, ← linked_kept_iff hstored]
  constructor
  · intro haccepted
    obtain ⟨-, hrecords, -⟩ := export_eq_ok h
    exact hrecords ▸ haccepted.linked
  · exact export_accepted hsigned hingest hexport hstored h

end Exports

-- What is accepted

def unsigned (record : AuditRecord) : AuditRecord :=
  { record with recordHash := "", signature := "" }

/-- No signature in the package is a forgery: what is accepted under the key of the ingest is the
signature of a stored record, and what is accepted under the key of the exports is the hash of an
exported manifest. -/
structure NotForged (codec : AuditCodec Bytes SigningKey VerifyingKey)
    (ingest : AuditIngest SigningKey) (service : AuditExportService SigningKey)
    (state : AuditState) (package : AuditExportPackage) : Prop where
  ingest : ∀ record ∈ package.records,
    codec.accepts (codec.verifyingKey ingest.signingKey) record.recordHash record.signature →
    ∃ tenant, ∃ stored ∈ state.tenantRecords tenant,
      stored.recordHash = record.recordHash ∧ stored.signature = record.signature
  exports : ∀ record ∈ package.records,
    codec.accepts (codec.verifyingKey service.signingKey) record.recordHash record.signature →
    ∃ before tenant maximum transformed exportId exportedAt exported,
      service.exportPackage codec before tenant maximum transformed exportId exportedAt =
        .ok exported ∧ exported.manifest.manifestHash = record.recordHash

/-- Records of the package and of the chains that hash to the same text are the same, as far as the
hash covers them; and no manifest hashes like a record of the package. -/
structure CollisionFree (codec : AuditCodec Bytes SigningKey VerifyingKey) (state : AuditState)
    (package : AuditExportPackage) : Prop where
  records : ∀ record, (record ∈ package.records ∨ ∃ tenant, record ∈ state.tenantRecords tenant) →
    ∀ tenant, ∀ stored ∈ state.tenantRecords tenant, ∀ hash,
      recordHash codec record = .ok hash → recordHash codec stored = .ok hash →
      unsigned record = unsigned stored
  manifests : ∀ record ∈ package.records, ∀ manifest hash,
    recordHash codec record = .ok hash → manifestHash codec manifest ≠ .ok hash

end Model

-- Sample exports

def sampleService : AuditExportService String where
  keyId := "export-key"
  signingKey := "b"
  keyNamed := by decide

def sampleVerifier : IntegrityVerifier String :=
  ⟨((∅ : BTreeMap String String).insert "audit-key" "a").insert "export-key" "b"⟩

theorem sampleCodec_signed (key message : String) :
    sampleCodec.accepts (sampleCodec.verifyingKey key) message
      (sampleCodec.sign key (sampleCodec.asBytes message)) :=
  ⟨_, rfl, beq_self_eq_true _⟩

theorem sampleVerifier_ingest : sampleVerifier.keys[sampleIngest.keyId]? =
    some (sampleCodec.verifyingKey sampleIngest.signingKey) := by
  simp only [sampleVerifier, BTreeMap.getElem?_insert_ite]
  decide

theorem sampleVerifier_export : sampleVerifier.keys[sampleService.keyId]? =
    some (sampleCodec.verifyingKey sampleService.signingKey) := by
  simp [sampleVerifier, sampleService, sampleCodec]

theorem reachable_first {batch : Batch} {tenant : TenantId} (hadmissible : batch.Admissible tenant)
    (hroom : batch.drafts.length ≤ 10) :
    ∃ (cfg : IngestRun) (more : List AuditRecord),
      (ingestSystem sampleCodec sampleIngest).Reachable .empty cfg ∧
      more.map (·.draft) = batch.drafts ∧
      ∀ other, cfg.shared.tenantRecords other = if tenant = other then more else [] := by
  obtain ⟨more, happended⟩ := appended_first hadmissible hroom
  obtain ⟨cfg, hreach, hshared, -⟩ := reachable_after sampleCodec sampleIngest [batch]
  refine ⟨cfg, more, hreach, happended.drafts, fun other => ?_⟩
  rw [hshared]
  refine (happended.chains other).trans ?_
  simp [AuditState.tenantRecords, AuditState.empty]

theorem export_sample {state : AuditState} {tenant : TenantId} {maximum : DataClassification}
    (h : kept state tenant maximum ≠ []) :
    ∃ package, sampleService.exportPackage sampleCodec state tenant maximum false "export-1" 0 =
      .ok package := by
  unfold AuditExportService.exportPackage
  simp only [List.isEmpty_iff, h, if_false]
  exact ⟨_, rfl⟩

theorem export_accepted_single :
    ∃ (cfg : IngestRun) (package : AuditExportPackage),
      (ingestSystem sampleCodec sampleIngest).Reachable .empty cfg ∧
      sampleService.exportPackage sampleCodec cfg.shared "tenant-1" .internal false "export-1" 0 =
        .ok package ∧
      sampleVerifier.verify sampleCodec package = .ok () := by
  obtain ⟨cfg, more, hreach, hdrafts, hchains⟩ := reachable_first
    (sampleBatch_admissible "tenant-1" "request-1" (by decide)) (show 1 ≤ 10 by decide)
  obtain ⟨record, rfl, hdraft⟩ := List.map_eq_singleton_iff.mp hdrafts
  have hchain : cfg.shared.tenantRecords "tenant-1" = [record] :=
    (hchains "tenant-1").trans (if_pos rfl)
  have hkept : kept cfg.shared "tenant-1" .internal ≠ [] := by
    simp [kept, hchain, hdraft, sampleDraft]
  obtain ⟨package, hexport⟩ := export_sample hkept
  refine ⟨cfg, package, hreach, hexport, ?_⟩
  refine (export_accepted_iff sampleCodec_signed sampleVerifier_ingest sampleVerifier_export hreach
    hexport).mpr ?_
  rw [KeptFirst, hchain]
  exact List.pairwise_singleton ..

def mixedBatch : Batch :=
  ⟨[{ sampleDraft "tenant-1" "request-1" with classification := .restricted },
    sampleDraft "tenant-1" "request-2"], fun i => toString i⟩

theorem mixedBatch_admissible : mixedBatch.Admissible "tenant-1" := by
  refine ⟨rfl, ?_, fun draft hmem => ?_⟩
  · have hrestricted : validateDraft { sampleDraft "tenant-1" "request-1" with
        classification := .restricted } = .ok () := validateDraft_sample _ (by decide) _
    have hinternal : validateDraft (sampleDraft "tenant-1" "request-2") = .ok () :=
      validateDraft_sample _ (by decide) .internal
    simp [mixedBatch, validateDrafts, hrestricted, hinternal]
  · simp only [mixedBatch, List.mem_cons, List.not_mem_nil, or_false] at hmem
    obtain rfl | rfl := hmem
    · rfl
    · rfl

/-- **Counterexample**: an export that leaves out a restricted record before an internal one is
refused. -/
theorem export_refused :
    ∃ (cfg : IngestRun) (package : AuditExportPackage),
      (ingestSystem sampleCodec sampleIngest).Reachable .empty cfg ∧
      sampleService.exportPackage sampleCodec cfg.shared "tenant-1" .internal false "export-1" 0 =
        .ok package ∧
      sampleVerifier.verify sampleCodec package ≠ .ok () := by
  obtain ⟨cfg, more, hreach, hdrafts, hchains⟩ :=
    reachable_first mixedBatch_admissible (show 2 ≤ 10 by decide)
  have hchain : cfg.shared.tenantRecords "tenant-1" = more :=
    (hchains "tenant-1").trans (if_pos rfl)
  obtain ⟨first, rest, rfl, hfirst, hrest⟩ := List.map_eq_cons_iff.mp hdrafts
  obtain ⟨second, rfl, hsecond⟩ := List.map_eq_singleton_iff.mp hrest
  have habove : ¬ first.draft.classification ≤ DataClassification.internal := by
    rw [hfirst]
    decide
  have hbelow : second.draft.classification ≤ DataClassification.internal := by
    rw [hsecond]
    decide
  have hkept : kept cfg.shared "tenant-1" .internal = [second] := by
    simp [kept, hchain, habove, hbelow]
  obtain ⟨package, hexport⟩ := export_sample (hkept ▸ List.cons_ne_nil second [])
  refine ⟨cfg, package, hreach, hexport, fun hverify => ?_⟩
  have hlinked := (verify_eq_ok.mp hverify).linked
  rw [(export_eq_ok hexport).2.1, linked_kept_iff (stored_reachable hreach), KeptFirst, hchain]
    at hlinked
  exact habove ((List.pairwise_cons.mp hlinked).1 second List.mem_cons_self hbelow)

end AgentSphere.Audit
