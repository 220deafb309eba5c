import AgentSphere.Audit.Batches

/-!
# Audited queries

A search of the audit records is itself recorded, by a batch of one draft whose request is named by
the hash of the query. The same query finds that request known the next time, and nothing is
recorded of it. The event type of a query is open to any other batch.
-/

namespace AgentSphere.Audit

open Concurrency Machine

structure AuditQuery where
  schemaVersion : String
  tenantId : TenantId
  actorSubject : String
  auditTaskId : TaskId
  resourcePrefix : String
  maximumClassification : DataClassification
  limit : Nat

structure AuditQueryService where
  maximumQueryRecords : Nat
  someRecord : 0 < maximumQueryRecords

def queryType : String := "AUDIT_QUERY"

def querySummary (count : Nat) : String := "audit query returned " ++ toString count ++ " records"

def AuditQuery.draft (query : AuditQuery) (hash : String) (count : Nat) (now : DateTime) :
    AuditRecordDraft where
  schemaVersion := auditSchemaVersion
  requestId := "query:" ++ hash
  tenantId := query.tenantId
  taskId := query.auditTaskId
  eventType := queryType
  actorSubject := query.actorSubject
  resource := "audit://query"
  classification := .internal
  payloadHash := hash
  safeSummary := querySummary count
  artifactHashes := []
  occurredAt := now

def AuditQuery.select (query : AuditQuery) (state : AuditState) : List AuditRecord :=
  ((state.tenantRecords query.tenantId).filter fun record =>
    query.resourcePrefix.toList.isPrefixOf record.draft.resource.toList ∧
      record.draft.classification ≤ query.maximumClassification).take query.limit

def AuditQueryService.admits (service : AuditQueryService) (query : AuditQuery) : Bool :=
  query.schemaVersion == auditSchemaVersion && !query.actorSubject.isEmpty && query.limit != 0 &&
    query.limit ≤ service.maximumQueryRecords

section Model

variable {Bytes SigningKey VerifyingKey : Type}

def AuditQueryService.batch (codec : AuditCodec Bytes SigningKey VerifyingKey)
    (queryJcs : AuditQuery → Option Bytes) (service : AuditQueryService) (query : AuditQuery)
    (now : DateTime) (drawn : Nat → String) (state : AuditState) : Except AuditError Batch :=
  if service.admits query then
    match queryJcs query with
    | none => .error .canonicalization
    | some bytes =>
      .ok ⟨[query.draft (codec.sha256Hex bytes) (query.select state).length now], drawn⟩
  else .error .queryDenied

def AuditQueryService.search (codec : AuditCodec Bytes SigningKey VerifyingKey)
    (queryJcs : AuditQuery → Option Bytes) (ingest : AuditIngest SigningKey)
    (service : AuditQueryService) (query : AuditQuery) (now : DateTime) (drawn : Nat → String)
    (state : AuditState) : Except AuditError (List AuditRecord) × AuditState :=
  match service.batch codec queryJcs query now drawn state with
  | .error e => (.error e, state)
  | .ok batch =>
    ((ingest.serveBatch codec state batch).1.map fun _ => query.select state,
      (ingest.serveBatch codec state batch).2)

inductive AuditCall where
  | search (query : AuditQuery) (now : DateTime) (drawn : Nat → String)
  | appendBatch (batch : Batch)

def AuditQueryService.serve (codec : AuditCodec Bytes SigningKey VerifyingKey)
    (queryJcs : AuditQuery → Option Bytes) (ingest : AuditIngest SigningKey)
    (service : AuditQueryService) (state : AuditState) :
    AuditCall → Except AuditError (List AuditRecord) × AuditState
  | .search query now drawn => service.search codec queryJcs ingest query now drawn state
  | .appendBatch batch => ingest.serveBatch codec state batch

-- What is recorded of queries

def isQuery (draft : AuditRecordDraft) : Bool := draft.eventType == queryType

def recorded (tenant : TenantId) (state : AuditState) : List String :=
  (((state.tenantRecords tenant).map (·.draft)).filter isQuery).map (·.safeSummary)

abbrev AuditEvent := Served AuditState AuditCall (Except AuditError (List AuditRecord))

def searched (tenant : TenantId) (event : AuditEvent) : Option String :=
  match event.call, event.answer with
  | .search query _ _, .ok records =>
    if query.tenantId = tenant then some (querySummary records.length) else none
  | _, _ => none

/-- The batch of a search finds its request unknown, and another batch that is appended brings no
queries. -/
def Traced (codec : AuditCodec Bytes SigningKey VerifyingKey)
    (queryJcs : AuditQuery → Option Bytes) (ingest : AuditIngest SigningKey)
    (service : AuditQueryService) (state : AuditState) : AuditCall → Prop
  | .search query now drawn => ∀ batch tenant,
    service.batch codec queryJcs query now drawn state = .ok batch → batch.Admissible tenant →
      ∀ draft ∈ batch.drafts, state.known draft = none
  | .appendBatch batch => ∀ tenant, batch.Admissible tenant →
    (∀ draft ∈ batch.drafts, state.known draft = none) →
    ingest.Fits state tenant batch.drafts → ∀ draft ∈ batch.drafts, isQuery draft = false

variable {codec : AuditCodec Bytes SigningKey VerifyingKey} {queryJcs : AuditQuery → Option Bytes}
  {ingest : AuditIngest SigningKey} {service : AuditQueryService} {state after : AuditState}
  {tenant : TenantId} {batch : Batch} {query : AuditQuery} {now : DateTime}
  {drawn : Nat → String} {more : List AuditRecord}

theorem recorded_congr (h : ∀ tenant, after.tenantRecords tenant = state.tenantRecords tenant)
    (tenant : TenantId) : recorded tenant after = recorded tenant state := by
  rw [recorded, recorded, h]

theorem Appended.recorded (h : Appended codec ingest state batch tenant more) (other : TenantId) :
    recorded other (ingest.serveBatch codec state batch).2 = recorded other state ++
      if tenant = other then (batch.drafts.filter isQuery).map (·.safeSummary) else [] := by
  rw [Audit.recorded, Audit.recorded, h.chains]
  split_ifs
  · rw [List.map_append, List.filter_append, List.map_append, h.drafts]
  · rw [List.append_nil]

theorem appendBatch_traced_iff (htotal : ∀ record, ∃ bytes, codec.recordJcs record = some bytes) :
    (∀ tenant, recorded tenant (ingest.serveBatch codec state batch).2 = recorded tenant state) ↔
      Traced codec queryJcs ingest service state (.appendBatch batch) := by
  have hnone : ∀ drafts : List AuditRecordDraft, (drafts.filter isQuery).map (·.safeSummary) = [] ↔
      ∀ draft ∈ drafts, isQuery draft = false := by
    intro drafts
    rw [List.map_eq_nil_iff, List.filter_eq_nil_iff]
    simp only [Bool.not_eq_true]
  obtain ⟨⟨e, herror⟩, hchains, -⟩ | ⟨-, hknown, hserve⟩ | ⟨tenant, more, happended⟩ :=
    served_cases htotal ingest state batch
  · refine iff_of_true (recorded_congr hchains) fun tenant hadmissible hnew hfits => ?_
    obtain ⟨hfull, -⟩ | ⟨more, happended⟩ := appended_cases htotal ingest hadmissible hnew
    · exact absurd hfits hfull
    · cases herror.symm.trans happended.answer
  · refine iff_of_true (fun tenant => by rw [hserve]) fun tenant hadmissible hnew _ => ?_
    obtain ⟨draft, hdraft⟩ := hadmissible.mem_drafts
    have hsome := hknown draft hdraft
    rw [hnew draft hdraft] at hsome
    cases hsome
  · constructor
    · intro h _ _ _ _
      have htenant := h tenant
      rw [happended.recorded, if_pos rfl, List.append_right_eq_self, hnone] at htenant
      exact htenant
    · intro h other
      rw [happended.recorded, (hnone _).mpr
        (h tenant happended.admissible happended.unknown happended.fits), ite_self,
        List.append_nil]

theorem search_eq (h : service.batch codec queryJcs query now drawn state = .ok batch) :
    service.search codec queryJcs ingest query now drawn state =
      ((ingest.serveBatch codec state batch).1.map fun _ => query.select state,
        (ingest.serveBatch codec state batch).2) := by
  rw [AuditQueryService.search, h]

theorem batch_drafts (h : service.batch codec queryJcs query now drawn state = .ok batch) :
    ∃ hash, batch.drafts = [query.draft hash (query.select state).length now] := by
  unfold AuditQueryService.batch at h
  split_ifs at h
  split at h
  · cases h
  · cases h
    exact ⟨_, rfl⟩

theorem batch_admissible_tenant
    (h : service.batch codec queryJcs query now drawn state = .ok batch)
    (hadmissible : batch.Admissible tenant) : tenant = query.tenantId := by
  obtain ⟨hash, hdrafts⟩ := batch_drafts h
  have hfirst := hadmissible.first
  rw [Batch.tenant?, hdrafts] at hfirst
  exact (Option.some.inj hfirst).symm

theorem search_traced_iff (htotal : ∀ record, ∃ bytes, codec.recordJcs record = some bytes) :
    (∀ tenant, recorded tenant (service.search codec queryJcs ingest query now drawn state).2 =
      recorded tenant state ++ (searched tenant (Machine.serve (service.serve codec queryJcs ingest)
        state (.search query now drawn))).toList) ↔
      Traced codec queryJcs ingest service state (.search query now drawn) := by
  have hevent : Machine.serve (service.serve codec queryJcs ingest) state
      (.search query now drawn) = ⟨state, .search query now drawn,
        (service.search codec queryJcs ingest query now drawn state).1⟩ := rfl
  rw [hevent]
  cases hbatch : service.batch codec queryJcs query now drawn state with
  | error e =>
    have hsearch : service.search codec queryJcs ingest query now drawn state =
        (.error e, state) := by rw [AuditQueryService.search, hbatch]
    refine iff_of_true (fun tenant => ?_) fun batch _ h => ?_
    · rw [hsearch]
      exact (List.append_nil _).symm
    · cases hbatch.symm.trans h
  | ok batch =>
    obtain ⟨hash, hdrafts⟩ := batch_drafts hbatch
    obtain ⟨⟨e, herror⟩, hchains, -⟩ | ⟨⟨tenant, hadmissible⟩, hknown, hserve⟩ |
      ⟨tenant, more, happended⟩ := served_cases htotal ingest state batch
    · refine iff_of_true (fun tenant => ?_) fun batch' tenant hbatch' hadmissible draft hdraft => ?_
      · rw [search_eq hbatch, herror, recorded_congr hchains]
        exact (List.append_nil _).symm
      · obtain rfl := Except.ok.inj (hbatch.symm.trans hbatch')
        by_contra hsome
        have hall : ∀ other ∈ batch.drafts, (state.known other).isSome := by
          rw [hdrafts] at hdraft ⊢
          rw [List.mem_singleton] at hdraft
          rw [List.forall_mem_singleton, ← hdraft]
          exact Option.ne_none_iff_isSome.mp hsome
        rw [serveBatch_found hadmissible hall] at herror
        cases herror
    · refine iff_of_false (fun h => ?_) fun h => ?_
      · have htenant := h query.tenantId
        rw [search_eq hbatch, hserve] at htenant
        simp [Except.map, searched] at htenant
      · obtain ⟨draft, hdraft⟩ := hadmissible.mem_drafts
        have hsome := hknown draft hdraft
        rw [h batch tenant hbatch hadmissible draft hdraft] at hsome
        cases hsome
    · refine iff_of_true (fun other => ?_) fun batch' tenant' hbatch' _ => ?_
      · rw [search_eq hbatch, happended.recorded, happended.answer,
          batch_admissible_tenant hbatch happended.admissible, hdrafts]
        refine congrArg _ ?_
        by_cases htenant : query.tenantId = other
        · simp only [Except.map, searched, if_pos htenant]
          rfl
        · simp only [Except.map, searched, if_neg htenant]
          rfl
      · obtain rfl := Except.ok.inj (hbatch.symm.trans hbatch')
        exact happended.unknown

theorem filterMap_singleton {α β : Type} {f : α → Option β} {a : α} :
    [a].filterMap f = (f a).toList := by
  cases h : f a with
  | none => rw [List.filterMap_cons_none h]; rfl
  | some b => rw [List.filterMap_cons_some h]; rfl

/-- **Every audit read leaves a trace**, in every run of searches and batches, exactly if each
search found its request unknown and no other batch brought a query. -/
theorem queries_traced_iff (htotal : ∀ record, ∃ bytes, codec.recordJcs record = some bytes)
    (queryJcs : AuditQuery → Option Bytes) (ingest : AuditIngest SigningKey)
    (service : AuditQueryService) (calls : List AuditCall) :
    (∀ early, early <+: calls → ∀ tenant,
      recorded tenant (Machine.after (service.serve codec queryJcs ingest) .empty early) =
        (trace (service.serve codec queryJcs ingest) .empty early).filterMap (searched tenant)) ↔
    Meets (fun _ => Traced codec queryJcs ingest service)
      (trace (service.serve codec queryJcs ingest) .empty calls) := by
  have hmeets : Meets (fun _ _ _ => True)
      (trace (service.serve codec queryJcs ingest) .empty calls) := Meets.true
  refine Meets.throughout_iff (I := fun _ _ => True)
    (P := fun events state => ∀ tenant, recorded tenant state = events.filterMap (searched tenant))
    (fun tenant => ?_) trivial (fun _ _ _ _ _ => trivial) (fun events state call _ hbefore _ => ?_)
    hmeets
  · simp [recorded, AuditState.tenantRecords, AuditState.empty]
  · have hevent : ∀ event : AuditEvent, ∀ tenant,
        (events ++ [event]).filterMap (searched tenant) =
          recorded tenant state ++ (searched tenant event).toList := by
      intro event tenant
      rw [List.filterMap_append, hbefore, filterMap_singleton]
    simp only [hevent]
    cases call with
    | search query now drawn => exact search_traced_iff htotal
    | appendBatch batch =>
      refine Iff.trans (forall_congr' fun tenant => ?_) (appendBatch_traced_iff htotal)
      exact iff_of_eq (congrArg _ (List.append_nil _))

end Model

section Samples

def sampleQueries : AuditQueryService := ⟨10, sampleMaximum_pos⟩

def sampleQuery : AuditQuery where
  schemaVersion := auditSchemaVersion
  tenantId := "tenant-1"
  actorSubject := "user-1"
  auditTaskId := "task-1"
  resourcePrefix := ""
  maximumClassification := .internal
  limit := 10

def sampleSearch : AuditCall := .search sampleQuery 0 fun _ => "record-1"

theorem sample_traced :
    recorded "tenant-1" (Machine.after (sampleQueries.serve sampleCodec (fun _ => some zeroHash)
        sampleIngest) .empty [sampleSearch]) =
      (trace (sampleQueries.serve sampleCodec (fun _ => some zeroHash) sampleIngest) .empty
        [sampleSearch]).filterMap (searched "tenant-1") :=
  (queries_traced_iff sampleCodec_total (fun _ => some zeroHash) sampleIngest sampleQueries
    [sampleSearch]).mpr (Meets.of_forall fun event hevent => by
      rw [List.mem_singleton.mp hevent]
      intro batch tenant _ _ draft _
      simp [Machine.serve, AuditState.known, AuditState.empty]) _ List.prefix_rfl "tenant-1"

def sampleQueryBatch (count : Nat) : Batch :=
  ⟨[sampleQuery.draft zeroHash count 0], fun _ => "record-1"⟩

theorem sampleQueryBatch_admissible {count : Nat} (hcount : count = 0 ∨ count = 1) :
    (sampleQueryBatch count).Admissible "tenant-1" := by
  have hsafe : ["password=", "api_key=", "bearer ", "private key"].any
      (containsText (toAsciiLowercase (querySummary count))) = false := by
    have hlower : toAsciiLowercase (querySummary count) = querySummary count := by
      rw [← String.toList_inj, toAsciiLowercase, String.toList_map]
      rcases hcount with rfl | rfl <;> decide
    rw [hlower]
    rcases hcount with rfl | rfl <;> decide
  have hsome : (querySummary count).isEmpty = false := by rcases hcount with rfl | rfl <;> decide
  have hhash : zeroHash.utf8ByteSize = 64 := by decide
  refine ⟨rfl, ?_, fun draft hdraft => ?_⟩
  · have hvalid : validateDraft (sampleQuery.draft zeroHash count 0) = .ok () := by
      simp [AuditQuery.draft, sampleQuery, validateDraft, hsafe, hsome, hhash, queryType]
    simp [sampleQueryBatch, validateDrafts, hvalid]
  · rw [List.mem_singleton.mp hdraft]
    rfl

/-- The second time the same search is not recorded. -/
theorem same_search_untraced : ¬ ∀ (calls : List AuditCall) (tenant : TenantId),
    recorded tenant (Machine.after (sampleQueries.serve sampleCodec (fun _ => some zeroHash)
        sampleIngest) .empty calls) =
      (trace (sampleQueries.serve sampleCodec (fun _ => some zeroHash) sampleIngest) .empty
        calls).filterMap (searched tenant) := by
  intro h
  have hbatch : ∀ state, sampleQueries.batch sampleCodec (fun _ => some zeroHash) sampleQuery 0
      (fun _ => "record-1") state = .ok (sampleQueryBatch (sampleQuery.select state).length) :=
    fun state => rfl
  obtain ⟨more, happended⟩ :=
    appended_first (sampleQueryBatch_admissible (.inl rfl)) (show 1 ≤ 10 by decide)
  obtain ⟨record, rfl, hdraft⟩ := List.map_eq_singleton_iff.mp happended.drafts
  obtain ⟨state, hstate⟩ : ∃ state, state =
    (sampleIngest.serveBatch sampleCodec .empty (sampleQueryBatch 0)).2 := ⟨_, rfl⟩
  have hfirst : sampleQueries.search sampleCodec (fun _ => some zeroHash) sampleIngest sampleQuery 0
      (fun _ => "record-1") .empty = _ := search_eq (hbatch .empty)
  have hafter : Machine.after (sampleQueries.serve sampleCodec (fun _ => some zeroHash)
      sampleIngest) .empty [sampleSearch] = state :=
    (congrArg Prod.snd hfirst).trans hstate.symm
  have htraced : Traced sampleCodec (fun _ => some zeroHash) sampleIngest sampleQueries state
      sampleSearch := by
    refine (search_traced_iff sampleCodec_total).mp fun tenant => ?_
    have hboth := h ([sampleSearch] ++ [sampleSearch]) tenant
    rw [after_snoc, trace_snoc, List.filterMap_append, ← h [sampleSearch] tenant, hafter] at hboth
    exact hboth.trans (congrArg _ filterMap_singleton)
  have hcount : (sampleQuery.select state).length ≤ 1 := by
    have hchain := happended.chains "tenant-1"
    rw [← hstate, if_pos rfl] at hchain
    have hlength : (state.tenantRecords "tenant-1").length = 1 := by
      rw [hchain]
      simp [AuditState.tenantRecords, AuditState.empty]
    rw [← hlength]
    exact (List.length_take_le' _ _).trans (List.length_filter_le _ _)
  have hunknown := htraced _ "tenant-1" (hbatch state)
    (sampleQueryBatch_admissible (by omega)) _ List.mem_cons_self
  have hknown := happended.known_appended (List.nodup_singleton _) List.mem_cons_self
  rw [hdraft, ← hstate] at hknown
  cases hknown.symm.trans hunknown

end Samples

end AgentSphere.Audit
