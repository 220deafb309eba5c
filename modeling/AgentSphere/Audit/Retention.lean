import AgentSphere.Audit.Batches

/-!
# Retention

A deletion marks the payload hashes of a tenant's records before a cut-off, other than those under a
legal hold that has not been released. Holds are decided for each record, but what is marked is the
hash of its payload, which other records may share: younger ones, ones under a hold, and ones of
other tenants.

Records and holds are those of the moment of the deletion, and the identifier of its proof is drawn.
-/

namespace AgentSphere.Audit

open Concurrency Machine

structure LegalHold where
  schemaVersion : String
  holdId : String
  tenantId : TenantId
  taskId : Option TaskId
  actorSubject : Option String
  resourcePrefix : Option String
  startsAt : DateTime
  endsAt : Option DateTime
  placedBy : String
  reasonCode : String
  releasedAt : Option DateTime
  releasedBy : Option String

def LegalHold.protects (hold : LegalHold) (record : AuditRecord) : Bool :=
  hold.releasedAt.isNone &&
    hold.tenantId == record.draft.tenantId &&
    hold.startsAt ≤ record.draft.occurredAt &&
    hold.endsAt.all (record.draft.occurredAt ≤ ·) &&
    hold.taskId.all (· == record.draft.taskId) &&
    hold.actorSubject.all (· == record.draft.actorSubject) &&
    hold.resourcePrefix.all fun start => start.toList.isPrefixOf record.draft.resource.toList

/-- `LegalHoldService`: the holds by their identifiers. -/
abbrev LegalHolds := BTreeMap String LegalHold

namespace LegalHolds

def place (holds : LegalHolds) (hold : LegalHold) : Except AuditError Unit × LegalHolds :=
  if hold.schemaVersion ≠ auditSchemaVersion ∨ hold.holdId.isEmpty ∨ hold.placedBy.isEmpty ∨
      hold.reasonCode.isEmpty ∨ hold.releasedAt.isSome ∨ hold.releasedBy.isSome then
    (.error .legalHoldInvalid, holds)
  else if hold.holdId ∈ holds then (.error .legalHoldConflict, holds)
  else (.ok (), holds.insert hold.holdId hold)

def release (holds : LegalHolds) (holdId actor : String) (roles : BTreeSet String)
    (now : DateTime) : Except AuditError LegalHold × LegalHolds :=
  match holds[holdId]? with
  | none => (.error .notFound, holds)
  | some hold =>
    if actor = hold.placedBy ∨ "legal_hold_release" ∉ roles ∨ hold.releasedAt.isSome then
      (.error .legalHoldReleaseDenied, holds)
    else
      let hold := { hold with releasedAt := some now, releasedBy := some actor }
      (.ok hold, holds.insert holdId hold)

def protects (holds : LegalHolds) (record : AuditRecord) : Bool :=
  holds.toList.any fun entry => entry.2.protects record

end LegalHolds

structure DeletionProof where
  schemaVersion : String
  deletionId : String
  tenantId : TenantId
  policyId : String
  deletedPayloadHashes : List String
  protectedRecordIds : List String
  executedAt : DateTime

structure Deletion where
  deleted : BTreeSet String
  deletedPayloadHashes : List String
  protectedRecordIds : List String

def deleteAll (holds : LegalHolds) (before : DateTime) (deletion : Deletion) :
    List AuditRecord → Deletion
  | [] => deletion
  | record :: records =>
    if before ≤ record.draft.occurredAt then deleteAll holds before deletion records
    else if holds.protects record then
      deleteAll holds before { deletion with
        protectedRecordIds := deletion.protectedRecordIds ++ [record.recordId] } records
    else if record.draft.payloadHash ∈ deletion.deleted then
      deleteAll holds before deletion records
    else
      deleteAll holds before { deletion with
        deleted := deletion.deleted.insert record.draft.payloadHash
        deletedPayloadHashes :=
          deletion.deletedPayloadHashes ++ [record.draft.payloadHash] } records

def deleteWithProof (holds : LegalHolds) (state : AuditState) (tenant : TenantId)
    (policyId : String) (before : DateTime) (deletionId : String) (executedAt : DateTime) :
    Except AuditError DeletionProof × AuditState :=
  if policyId.isEmpty then (.error .retentionPolicyInvalid, state)
  else
    let deletion := deleteAll holds before ⟨state.deletedPayloads, [], []⟩
      (state.tenantRecords tenant)
    (.ok
      { schemaVersion := auditSchemaVersion
        deletionId
        tenantId := tenant
        policyId
        deletedPayloadHashes := deletion.deletedPayloadHashes
        protectedRecordIds := deletion.protectedRecordIds
        executedAt },
      { state with deletedPayloads := deletion.deleted })

-- Holds

structure LegalHold.Covers (hold : LegalHold) (record : AuditRecord) : Prop where
  tenant : record.draft.tenantId = hold.tenantId
  starts : hold.startsAt ≤ record.draft.occurredAt
  ends : ∀ endsAt ∈ hold.endsAt, record.draft.occurredAt ≤ endsAt
  task : ∀ task ∈ hold.taskId, record.draft.taskId = task
  actor : ∀ actor ∈ hold.actorSubject, record.draft.actorSubject = actor
  resource : ∀ start ∈ hold.resourcePrefix, start.toList <+: record.draft.resource.toList

def LegalHolds.Protected (holds : LegalHolds) (record : AuditRecord) : Prop :=
  ∃ (holdId : String) (hold : LegalHold),
    holds[holdId]? = some hold ∧ hold.releasedAt = none ∧ hold.Covers record

variable {holds holds' : LegalHolds} {hold : LegalHold} {record : AuditRecord}
  {state : AuditState} {tenant : TenantId} {before : DateTime}

theorem LegalHold.protects_iff :
    hold.protects record = true ↔ hold.releasedAt = none ∧ hold.Covers record := by
  constructor
  · intro h
    simp only [LegalHold.protects, Bool.and_eq_true, Option.isNone_iff_eq_none, beq_iff_eq,
      decide_eq_true_eq, Option.all_eq_true, List.isPrefixOf_iff_prefix] at h
    obtain ⟨⟨⟨⟨⟨⟨hreleased, htenant⟩, hstarts⟩, hends⟩, htask⟩, hactor⟩, hresource⟩ := h
    exact ⟨hreleased, htenant.symm, hstarts, hends, fun task h => (htask task h).symm,
      fun actor h => (hactor actor h).symm, hresource⟩
  · rintro ⟨hreleased, htenant, hstarts, hends, htask, hactor, hresource⟩
    simp only [LegalHold.protects, Bool.and_eq_true, Option.isNone_iff_eq_none, beq_iff_eq,
      decide_eq_true_eq, Option.all_eq_true, List.isPrefixOf_iff_prefix]
    exact ⟨⟨⟨⟨⟨⟨hreleased, htenant.symm⟩, hstarts⟩, hends⟩, fun task h => (htask task h).symm⟩,
      fun actor h => (hactor actor h).symm⟩, hresource⟩

theorem LegalHolds.protects_iff : holds.protects record = true ↔ holds.Protected record := by
  simp only [LegalHolds.protects, List.any_eq_true, Prod.exists,
    Std.ExtTreeMap.mem_toList_iff_getElem?_eq_some, LegalHold.protects_iff, LegalHolds.Protected]

theorem protects_place (h : holds.place hold = (.ok (), holds')) :
    holds'.Protected record ↔ holds.Protected record ∨ hold.Covers record := by
  unfold LegalHolds.place at h
  split at h
  · cases h
  · next hvalid =>
    split at h
    · cases h
    · next hnew =>
      obtain rfl := (Prod.ext_iff.mp h).2
      simp only [not_or, Option.not_isSome_iff_eq_none] at hvalid
      obtain ⟨-, -, -, -, hopen, -⟩ := hvalid
      constructor
      · rintro ⟨holdId, other, hother, hreleased, hcovers⟩
        rw [BTreeMap.getElem?_insert_ite] at hother
        split at hother
        · obtain rfl := Option.some.inj hother
          exact .inr hcovers
        · exact .inl ⟨holdId, other, hother, hreleased, hcovers⟩
      · rintro (⟨holdId, other, hother, hreleased, hcovers⟩ | hcovers)
        · refine ⟨holdId, other, ?_, hreleased, hcovers⟩
          rw [BTreeMap.getElem?_insert_ite, if_neg ?_, hother]
          rintro rfl
          exact hnew (Std.ExtTreeMap.mem_iff_isSome_getElem?.mpr (Option.isSome_of_mem hother))
        · exact ⟨hold.holdId, hold, by simp, hopen, hcovers⟩

theorem protects_release {holdId actor : String} {roles : BTreeSet String} {now : DateTime}
    {released : LegalHold} (h : holds.release holdId actor roles now = (.ok released, holds')) :
    holds'.Protected record ↔ ∃ (otherId : String) (other : LegalHold), otherId ≠ holdId ∧
      holds[otherId]? = some other ∧ other.releasedAt = none ∧ other.Covers record := by
  unfold LegalHolds.release at h
  split at h
  · cases h
  · next hold hhold =>
    split at h
    · cases h
    · obtain rfl := (Prod.ext_iff.mp h).2
      constructor
      · rintro ⟨otherId, other, hother, hreleased, hcovers⟩
        rw [BTreeMap.getElem?_insert_ite] at hother
        split at hother
        · obtain rfl := Option.some.inj hother
          cases hreleased
        · next hne => exact ⟨otherId, other, Ne.symm hne, hother, hreleased, hcovers⟩
      · rintro ⟨otherId, other, hne, hother, hreleased, hcovers⟩
        refine ⟨otherId, other, ?_, hreleased, hcovers⟩
        rw [BTreeMap.getElem?_insert_ite, if_neg (Ne.symm hne), hother]

-- Deletions

def Older (holds : LegalHolds) (before : DateTime) (record : AuditRecord) : Prop :=
  record.draft.occurredAt < before ∧ ¬ holds.Protected record

def Due (holds : LegalHolds) (before : DateTime) (deleted : BTreeSet String)
    (records : List AuditRecord) (hash : String) : Prop :=
  ∃ record ∈ records, (Older holds before record ∧ record.draft.payloadHash ∉ deleted) ∧
    record.draft.payloadHash = hash

theorem Due.cons_of_not {deleted : BTreeSet String} {records : List AuditRecord} {hash : String}
    (h : ¬ (Older holds before record ∧ record.draft.payloadHash ∉ deleted)) :
    Due holds before deleted (record :: records) hash ↔ Due holds before deleted records hash := by
  simp [Due, h]

def protectedRecords (holds : LegalHolds) (before : DateTime) (records : List AuditRecord) :
    List AuditRecord :=
  records.filter fun record => decide (record.draft.occurredAt < before) && holds.protects record

/-- The loop marks the hashes of the older records it has not marked before, each once, and notes
the protected ones in their order. -/
theorem deleteAll_spec (holds : LegalHolds) (before : DateTime) (deletion : Deletion)
    (records : List AuditRecord) :
    ∃ hashes, hashes.Nodup ∧
      (∀ hash, hash ∈ hashes ↔ Due holds before deletion.deleted records hash) ∧
      (∀ hash, hash ∈ (deleteAll holds before deletion records).deleted ↔
        hash ∈ deletion.deleted ∨ hash ∈ hashes) ∧
      (deleteAll holds before deletion records).deletedPayloadHashes =
        deletion.deletedPayloadHashes ++ hashes ∧
      (deleteAll holds before deletion records).protectedRecordIds =
        deletion.protectedRecordIds ++
          (protectedRecords holds before records).map (·.recordId) := by
  induction records generalizing deletion with
  | nil => exact ⟨[], by simp, by simp [Due], by simp [deleteAll], by simp [deleteAll],
      by simp [deleteAll, protectedRecords]⟩
  | cons record records ih =>
    rw [deleteAll, protectedRecords, List.filter_cons, ← protectedRecords]
    split
    · next hyoung =>
      obtain ⟨hashes, hnodup, hhashes, hdeleted, hlist, hids⟩ := ih deletion
      refine ⟨hashes, hnodup, fun hash => ?_, hdeleted, hlist, ?_⟩
      · rw [hhashes, Due.cons_of_not fun h => absurd h.1.1 (not_lt.mpr hyoung)]
      · simpa [not_lt.mpr hyoung] using hids
    · next hold =>
      split
      · next hprotected =>
        obtain ⟨hashes, hnodup, hhashes, hdeleted, hlist, hids⟩ := ih { deletion with
          protectedRecordIds := deletion.protectedRecordIds ++ [record.recordId] }
        refine ⟨hashes, hnodup, fun hash => ?_, hdeleted, hlist, ?_⟩
        · rw [hhashes, Due.cons_of_not fun h => h.1.2 (LegalHolds.protects_iff.mp hprotected)]
        · simpa [lt_of_not_ge hold, hprotected] using hids
      · next hfree =>
        have holder : Older holds before record :=
          ⟨lt_of_not_ge hold, fun h => hfree (LegalHolds.protects_iff.mpr h)⟩
        split
        · next hmarked =>
          obtain ⟨hashes, hnodup, hhashes, hdeleted, hlist, hids⟩ := ih deletion
          refine ⟨hashes, hnodup, fun hash => ?_, hdeleted, hlist, ?_⟩
          · rw [hhashes, Due.cons_of_not fun h => h.2 hmarked]
          · simpa [hfree] using hids
        · next hunmarked =>
          obtain ⟨hashes, hnodup, hhashes, hdeleted, hlist, hids⟩ := ih { deletion with
            deleted := deletion.deleted.insert record.draft.payloadHash
            deletedPayloadHashes :=
              deletion.deletedPayloadHashes ++ [record.draft.payloadHash] }
          have hmem : ∀ hash, hash ∈ deletion.deleted.insert record.draft.payloadHash ↔
              record.draft.payloadHash = hash ∨ hash ∈ deletion.deleted := fun hash => by
            simp [Std.ExtTreeSet.mem_insert]
          refine ⟨record.draft.payloadHash :: hashes, List.nodup_cons.mpr ⟨?_, hnodup⟩,
            fun hash => ?_, fun hash => ?_, by simp [hlist], by simpa [hfree] using hids⟩
          · intro hagain
            obtain ⟨other, -, ⟨-, hother⟩, heq⟩ := (hhashes _).mp hagain
            exact hother ((hmem _).mpr (.inl heq.symm))
          · rw [List.mem_cons, hhashes]
            simp only [Due, hmem, List.exists_mem_cons_iff]
            by_cases heq : record.draft.payloadHash = hash
            · subst heq
              simp [hunmarked, holder]
            · constructor
              · rintro (rfl | ⟨other, hother, ⟨hdue, hnew⟩, rfl⟩)
                · exact absurd rfl heq
                · exact .inr ⟨other, hother, ⟨hdue, fun h => hnew (.inr h)⟩, rfl⟩
              · rintro (⟨-, hsame⟩ | ⟨other, hother, ⟨hdue, hnew⟩, rfl⟩)
                · exact absurd hsame heq
                · refine .inr ⟨other, hother, ⟨hdue, ?_⟩, rfl⟩
                  exact fun h => h.elim heq hnew
          · rw [hdeleted, hmem, List.mem_cons, eq_comm, or_assoc, or_left_comm]

/-- What a deletion has to keep: what is protected, what is not older than the cut-off, and what
belongs to another tenant. -/
def MustKeep (holds : LegalHolds) (tenant : TenantId) (before : DateTime)
    (record : AuditRecord) : Prop :=
  holds.Protected record ∨
    (record.draft.tenantId = tenant ∧ before ≤ record.draft.occurredAt) ∨
    record.draft.tenantId ≠ tenant

/-- No payload that is newly marked is one of a record that has to be kept, and the proof lists what
is newly marked and what is protected. -/
structure Respected (holds : LegalHolds) (state : AuditState) (tenant : TenantId)
    (before : DateTime) (outcome : Except AuditError DeletionProof × AuditState) : Prop where
  kept : ∀ hash ∈ outcome.2.deletedPayloads, hash ∉ state.deletedPayloads →
    ∀ other, ∀ record ∈ state.tenantRecords other, MustKeep holds tenant before record →
      record.draft.payloadHash ≠ hash
  deleted : ∀ proof, outcome.1 = .ok proof → proof.deletedPayloadHashes.Nodup ∧
    ∀ hash, hash ∈ proof.deletedPayloadHashes ↔
      hash ∈ outcome.2.deletedPayloads ∧ hash ∉ state.deletedPayloads
  spared : ∀ proof, outcome.1 = .ok proof → proof.protectedRecordIds =
    (protectedRecords holds before (state.tenantRecords tenant)).map (·.recordId)

def PayloadsApart (holds : LegalHolds) (state : AuditState) (tenant : TenantId)
    (before : DateTime) : Prop :=
  ∀ due ∈ state.tenantRecords tenant, Older holds before due →
    due.draft.payloadHash ∉ state.deletedPayloads →
    ∀ other, ∀ record ∈ state.tenantRecords other, MustKeep holds tenant before record →
      record.draft.payloadHash ≠ due.draft.payloadHash

/-- **Deletion**: for any records and holds, a deletion respects what has to be kept exactly if it
is refused, or no record that is due has the payload of one that has to be kept. -/
theorem deletion_respects_holds_iff (holds : LegalHolds) (state : AuditState) (tenant : TenantId)
    (policyId : String) (before : DateTime) (deletionId : String) (executedAt : DateTime) :
    Respected holds state tenant before
        (deleteWithProof holds state tenant policyId before deletionId executedAt) ↔
      policyId.isEmpty ∨ PayloadsApart holds state tenant before := by
  unfold deleteWithProof
  split
  · next hempty =>
    refine ⟨fun _ => .inl hempty, fun _ => ⟨?_, ?_, ?_⟩⟩
    · intro hash hmem hnew
      exact absurd hmem hnew
    · intro proof hproof
      cases hproof
    · intro proof hproof
      cases hproof
  · next hnamed =>
    obtain ⟨hashes, hnodup, hhashes, hdeleted, hlist, hids⟩ := deleteAll_spec holds before
      ⟨state.deletedPayloads, [], []⟩ (state.tenantRecords tenant)
    have hnew : ∀ hash, hash ∈ hashes ↔ hash ∈ (deleteAll holds before
        ⟨state.deletedPayloads, [], []⟩ (state.tenantRecords tenant)).deleted ∧
          hash ∉ state.deletedPayloads := by
      intro hash
      rw [hdeleted]
      constructor
      · intro hmem
        obtain ⟨due, -, ⟨-, hunmarked⟩, rfl⟩ := (hhashes hash).mp hmem
        exact ⟨.inr hmem, hunmarked⟩
      · rintro ⟨hmarked | hmem, hunmarked⟩
        · exact absurd hmarked hunmarked
        · exact hmem
    constructor
    · rintro ⟨hkept, -, -⟩
      refine .inr fun due hdue holder hunmarked => ?_
      have hmarked := (hhashes _).mpr ⟨due, hdue, ⟨holder, hunmarked⟩, rfl⟩
      exact hkept _ ((hnew _).mp hmarked).1 hunmarked
    · rintro (hempty | hapart)
      · exact absurd hempty hnamed
      · refine ⟨fun hash hmem hunmarked => ?_, fun proof hproof => ?_, fun proof hproof => ?_⟩
        · obtain ⟨due, hdue, ⟨holder, -⟩, rfl⟩ :=
            (hhashes hash).mp ((hnew hash).mpr ⟨hmem, hunmarked⟩)
          exact hapart due hdue holder hunmarked
        · obtain rfl := Except.ok.inj hproof
          dsimp only
          rw [hlist, List.nil_append]
          exact ⟨hnodup, hnew⟩
        · obtain rfl := Except.ok.inj hproof
          exact hids

theorem serveBatch_deletedPayloads {Bytes SigningKey VerifyingKey : Type}
    {codec : AuditCodec Bytes SigningKey VerifyingKey} {ingest : AuditIngest SigningKey}
    (state : AuditState) (batch : Batch) :
    (ingest.serveBatch codec state batch).2.deletedPayloads = state.deletedPayloads := by
  by_cases hadmissible : ∃ tenant, batch.Admissible tenant
  · obtain ⟨tenant, h⟩ := hadmissible
    obtain ⟨-, -, -, hsame, -⟩ :=
      AuditIngest.extend_spec codec ingest tenant batch.drafts batch.drawn state
    rw [serveBatch_admissible h]
    split
    · split
      · exact hsame
      · exact hsame
    · split
      · rfl
      · rfl
  · obtain ⟨e, he⟩ := serveBatch_refused codec ingest (not_exists.mp hadmissible)
    rw [he]

-- A payload of two tasks

def sampleHold : LegalHold where
  schemaVersion := auditSchemaVersion
  holdId := "hold-1"
  tenantId := "tenant-1"
  taskId := some "task-2"
  actorSubject := none
  resourcePrefix := none
  startsAt := 0
  endsAt := none
  placedBy := "counsel-1"
  reasonCode := "LITIGATION"
  releasedAt := none
  releasedBy := none

def sharedBatch : Batch :=
  ⟨[sampleDraft "tenant-1" "request-1",
    { sampleDraft "tenant-1" "request-2" with taskId := "task-2" }], fun i => toString i⟩

theorem sharedBatch_admissible : sharedBatch.Admissible "tenant-1" := by
  refine ⟨rfl, ?_, fun draft hmem => ?_⟩
  · have hfirst : validateDraft (sampleDraft "tenant-1" "request-1") = .ok () :=
      validateDraft_sample _ (by decide) .internal
    have hsecond : validateDraft { sampleDraft "tenant-1" "request-2" with taskId := "task-2" } =
        .ok () := validateDraft_sample "tenant-1" (by decide) .internal
    simp [sharedBatch, validateDrafts, hfirst, hsecond]
  · simp only [sharedBatch, List.mem_cons, List.not_mem_nil, or_false] at hmem
    obtain rfl | rfl := hmem
    · rfl
    · rfl

/-- **Counterexample**: the payload of a record under a hold is marked with that of another record
of the tenant. -/
theorem held_payload_deleted :
    ∃ (cfg : IngestRun) (holds : LegalHolds),
      (ingestSystem sampleCodec sampleIngest).Reachable .empty cfg ∧
      LegalHolds.place ∅ sampleHold = (.ok (), holds) ∧
      ¬ Respected holds cfg.shared "tenant-1" 1
        (deleteWithProof holds cfg.shared "tenant-1" "policy-1" 1 "deletion-1" 2) := by
  obtain ⟨more, happended⟩ := appended_first sharedBatch_admissible (show 2 ≤ 10 by decide)
  obtain ⟨cfg, hreach, hshared, -⟩ := reachable_after sampleCodec sampleIngest [sharedBatch]
  have hchain : cfg.shared.tenantRecords "tenant-1" = more := by
    rw [hshared]
    refine (happended.chains "tenant-1").trans ?_
    simp [AuditState.tenantRecords, AuditState.empty]
  have hdeleted : cfg.shared.deletedPayloads = ∅ := by
    rw [hshared]
    exact serveBatch_deletedPayloads _ sharedBatch
  obtain ⟨first, rest, rfl, hfirst, hrest⟩ := List.map_eq_cons_iff.mp happended.drafts
  obtain ⟨second, rfl, hsecond⟩ := List.map_eq_singleton_iff.mp hrest
  have hplace : LegalHolds.place ∅ sampleHold =
      (.ok (), (∅ : LegalHolds).insert "hold-1" sampleHold) := by
    simp [LegalHolds.place, sampleHold, auditSchemaVersion]
  have hprotected : ∀ record, LegalHolds.Protected
      ((∅ : LegalHolds).insert "hold-1" sampleHold) record ↔ sampleHold.Covers record := by
    intro record
    rw [protects_place hplace]
    simp [LegalHolds.Protected]
  refine ⟨cfg, _, hreach, hplace, fun hrespected => ?_⟩
  have hapart := ((deletion_respects_holds_iff ..).mp hrespected).resolve_left (by decide)
  refine hapart first (hchain ▸ List.mem_cons_self) ⟨?_, ?_⟩ ?_ "tenant-1" second
    (hchain ▸ List.mem_cons_of_mem _ List.mem_cons_self) (.inl ?_) ?_
  · rw [hfirst]
    decide
  · rw [hprotected]
    intro hcovers
    have htask := hcovers.task "task-2" rfl
    rw [hfirst] at htask
    exact absurd htask (by decide)
  · simp [hdeleted]
  · rw [hprotected]
    refine ⟨?_, ?_, by simp [sampleHold], ?_, by simp [sampleHold], by simp [sampleHold]⟩
    · rw [hsecond]
      rfl
    · rw [hsecond]
      decide
    · rw [hsecond]
      simp [sampleHold]
  · rw [hfirst, hsecond]
    rfl

end AgentSphere.Audit
