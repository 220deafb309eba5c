import AgentSphere.Audit.Batches
import AgentSphere.Lib.Lookups

/-!
# Batches at the same time

The sections of batches may be interleaved. The chains are only extended under their lock, so that
they stay chains whatever happens. But a batch that is looked up while another one of the same
request has been looked up and not yet entered is appended a second time.
-/

namespace AgentSphere.Audit

open Concurrency HashChain

abbrev IngestEvent := Event AuditState IngestCall IngestCall.Answer

def Misses : IngestEntry → String → Prop
  | ⟨.lookUp requestIds, found⟩, requestId => found = [] ∧ requestId ∈ requestIds
  | _, _ => False

def appendedBy : IngestEntry → List AuditRecord
  | ⟨.extend _ _, .ok appended⟩ => appended
  | _ => []

def appendedTo (tenant : TenantId) (entry : IngestEntry) : List AuditRecord :=
  match entry.1 with
  | .extend other _ => if other = tenant then appendedBy entry else []
  | _ => []

def Appends (entry : IngestEntry) (requestId : String) : Prop :=
  ∃ record ∈ appendedBy entry, record.draft.requestId = requestId

def Enters : IngestEntry → String → Prop
  | ⟨.index appended, _⟩, requestId => ∃ record ∈ appended, record.draft.requestId = requestId
  | _, _ => False

def Ends : IngestEntry → Prop
  | ⟨.extend _ _, .error _⟩ => True
  | ⟨.index _, _⟩ => True
  | _ => False

/-- No request is looked up in vain while another batch has looked it up in vain, and has neither
been refused nor entered since. -/
def LookUpsApart (trace : List IngestEvent) : Prop := Apart Misses Ends trace

section Model

variable {Bytes SigningKey VerifyingKey : Type}
  {codec : AuditCodec Bytes SigningKey VerifyingKey} {ingest : AuditIngest SigningKey}
  {cfg : IngestRun}

theorem appends_iff {state state' : AuditState} {tenant : TenantId} {batch : Batch}
    {appended : List AuditRecord}
    (hserve :
      (ingestSystem codec ingest).Serve state (.extend tenant batch) (.ok appended) state') :
    appended.map (·.draft) = batch.drafts := by
  obtain ⟨-, hserve⟩ := hserve
  obtain ⟨more, -, -, -, -, -, ⟨hok, hdrafts, -⟩ | ⟨herror, -⟩ | ⟨e, -, herror, -⟩⟩ :=
    AuditIngest.extend_spec codec ingest tenant batch.drafts batch.drawn state
  · obtain rfl := Except.ok.inj (hok.symm.trans (congrArg Prod.fst hserve))
    exact hdrafts
  · exact nomatch herror.symm.trans (congrArg Prod.fst hserve)
  · exact nomatch herror.symm.trans (congrArg Prod.fst hserve)

theorem looksFirst : LooksFirst (ingestSystem codec ingest) MayCall Misses Appends Enters Ends
    fun state requestId => state.requestIds[requestId]? ≠ none where
  conduct _ hp := conduct_of_start hp
  missed := by
    rintro state (requestIds | _ | _) found state' requestId ⟨-, hserve⟩ hmisses
    · obtain ⟨hnone, hmem⟩ := hmisses
      have hlookup : state.lookUp requestIds = [] := (congrArg Prod.fst hserve).trans hnone
      exact not_not.mpr (List.filterMap_eq_nil_iff.mp hlookup requestId hmem)
    · exact hmisses.elim
    · exact hmisses.elim
  settled := by
    rintro state (_ | _ | appended) answer state' requestId ⟨-, hserve⟩ henters
    · exact henters.elim
    · exact henters.elim
    · obtain ⟨record, -, -, hknown⟩ := AuditState.index_entered state henters
      obtain rfl : state.index appended = state' := congrArg Prod.snd hserve
      rw [hknown]
      exact Option.some_ne_none record
  grows := by
    rintro state (_ | ⟨tenant, batch⟩ | appended) answer state' requestId ⟨-, hserve⟩ hknown
    · obtain rfl : state = state' := congrArg Prod.snd hserve
      exact hknown
    · obtain ⟨-, -, hindex, -⟩ :=
        AuditIngest.extend_spec codec ingest tenant batch.drafts batch.drawn state
      obtain rfl : (ingest.extend codec tenant batch.drafts batch.drawn state).2 = state' :=
        congrArg Prod.snd hserve
      rwa [hindex]
    · obtain rfl : state.index appended = state' := congrArg Prod.snd hserve
      by_cases hnew : ∃ record ∈ appended, record.draft.requestId = requestId
      · obtain ⟨record, -, -, hrecord⟩ := AuditState.index_entered state hnew
        rw [hrecord]
        exact Option.some_ne_none record
      · rwa [AuditState.index_other fun record hmem heq => hnew ⟨record, hmem, heq⟩]
  stays := by
    rintro state state' requestId ⟨deletedPayloads, rfl⟩ hknown
    exact hknown
  opened := by
    rintro state entries (_ | ⟨tenant, batch⟩ | _) answer state' requestId hmay hserve
      ⟨record, hmem, hrequest⟩
    · cases hmem
    · obtain ⟨rfl, -⟩ := hmay
      cases answer with
      | error e => cases hmem
      | ok appended =>
        have hdraft : record.draft ∈ batch.drafts := by
          rw [← appends_iff hserve]
          exact List.mem_map_of_mem hmem
        refine ⟨⟨⟨_, List.mem_singleton_self _, rfl, ?_⟩, ?_⟩, ?_⟩
        · exact List.mem_map.mpr ⟨record.draft, hdraft, hrequest⟩
        · rintro entry hentry
          obtain rfl := List.mem_singleton.mp hentry
          exact id
        · rintro entry hentry ⟨_, happended, -⟩
          obtain rfl := List.mem_singleton.mp hentry
          cases happended
    · cases hmem
  closed := by
    rintro entries (_ | ⟨tenant, batch⟩ | appended) answer requestId hmay hends hacts
    · exact hends.elim
    · obtain ⟨rfl, -⟩ := hmay
      cases answer with
      | ok appended => exact hends.elim
      | error e =>
        obtain ⟨entry, hentry, record, hmem, -⟩ := hacts
        simp only [List.cons_append, List.nil_append, List.mem_cons, List.not_mem_nil,
          or_false] at hentry
        obtain rfl | rfl := hentry
        · cases hmem
        · cases hmem
    · obtain ⟨tenant, batch, rfl⟩ := hmay
      obtain ⟨entry, hentry, record, hmem, hrequest⟩ := hacts
      simp only [List.cons_append, List.nil_append, List.mem_cons, List.not_mem_nil,
        or_false] at hentry
      obtain rfl | rfl | rfl := hentry
      · cases hmem
      · exact ⟨⟨.index appended, answer⟩, by simp, record, hmem, hrequest⟩
      · cases hmem

theorem appendedTo_extend (tenant other : TenantId) (batch : Batch)
    (answer : Except AuditError (List AuditRecord)) :
    appendedTo tenant ⟨.extend other batch, answer⟩ =
      if other = tenant then appendedBy ⟨.extend other batch, answer⟩ else [] := rfl

theorem appendedTo_subset {tenant : TenantId} {entry : IngestEntry} {record : AuditRecord}
    (h : record ∈ appendedTo tenant entry) : record ∈ appendedBy entry := by
  obtain ⟨call, answer⟩ := entry
  cases call with
  | lookUp requestIds => cases h
  | extend other batch =>
    rw [appendedTo_extend] at h
    split at h
    · exact h
    · cases h
  | index appended => cases h

/-- **Run lemma**: every chain is what was appended to it. -/
theorem chain_of_run (htotal : ∀ record, ∃ bytes, codec.recordJcs record = some bytes)
    (hreach : (ingestSystem codec ingest).Reachable .empty cfg) (tenant : TenantId) :
    cfg.shared.tenantRecords tenant =
      cfg.trace.flatMap fun event => appendedTo tenant event.entry := by
  refine (hreach.always (I := fun state trace => state.tenantRecords tenant =
    trace.flatMap fun event => appendedTo tenant event.entry) ?_ ?_ ?_).1
  · rintro state trace i call answer state' hchain ⟨-, hserve⟩
    rw [List.flatMap_append, ← hchain, List.flatMap_singleton]
    cases call with
    | lookUp requestIds =>
      obtain rfl : state = state' := congrArg Prod.snd hserve
      exact (List.append_nil _).symm
    | extend other batch =>
      obtain ⟨more, hchains, -, -, -, -, hresult⟩ :=
        AuditIngest.extend_spec codec ingest other batch.drafts batch.drawn state
      obtain rfl : (ingest.extend codec other batch.drafts batch.drawn state).1 = answer :=
        congrArg Prod.fst hserve
      obtain rfl : (ingest.extend codec other batch.drafts batch.drawn state).2 = state' :=
        congrArg Prod.snd hserve
      have hmore : appendedBy ⟨.extend other batch,
          (ingest.extend codec other batch.drafts batch.drawn state).1⟩ = more := by
        obtain ⟨hok, -⟩ | ⟨herror, rfl, -⟩ | ⟨-, record, -, hnone⟩ := hresult
        · rw [hok]
          rfl
        · rw [herror]
          rfl
        · obtain ⟨bytes, hbytes⟩ := htotal record
          exact nomatch hnone.symm.trans hbytes
      rw [hchains, Event.entry, appendedTo_extend, hmore]
      split
      · rfl
      · exact (List.append_nil _).symm
    | index appended =>
      obtain rfl : state.index appended = state' := congrArg Prod.snd hserve
      exact (List.append_nil _).symm
  · rintro state trace state' hchain ⟨deletedPayloads, rfl⟩
    exact hchain
  · simp [AuditState.empty, AuditState.tenantRecords]

/-- **Batches at the same time**: in every interleaving the chains are sound, and where look-ups are
apart, no request is appended twice. -/
theorem retries_append_once (htotal : ∀ record, ∃ bytes, codec.recordJcs record = some bytes)
    (hreach : (ingestSystem codec ingest).Reachable .empty cfg) :
    (∀ tenant index record, (cfg.shared.tenantRecords tenant)[index]? = some record →
      record.sequence = index + 1 ∧
        record.previousHash =
          (((cfg.shared.tenantRecords tenant).take index).getLast?.map
            AuditRecord.recordHash).getD zeroHash) ∧
    (∀ tenant, cfg.shared.tenantRecords tenant =
      cfg.trace.flatMap fun event => appendedTo tenant event.entry) ∧
    (LookUpsApart cfg.trace →
      cfg.trace.Pairwise fun event event' => ∀ tenant tenant',
        ∀ record ∈ appendedTo tenant event.entry, ∀ record' ∈ appendedTo tenant' event'.entry,
          record.draft.requestId ≠ record'.draft.requestId) := by
  refine ⟨fun tenant => Links.linked_iff.mp ((stored_reachable hreach).linked tenant),
    chain_of_run htotal hreach, fun hapart => ?_⟩
  refine (looksFirst.acts_once hreach hapart).imp ?_
  intro event event' honce tenant tenant' record hmem record' hmem' heq
  exact honce _ ⟨record, appendedTo_subset hmem, rfl⟩
    ⟨record', appendedTo_subset hmem', heq.symm⟩

end Model

-- A retry

def retried : Batch := sampleBatch "tenant-1" "request-1"

def retriedLookUp (found : List AuditRecord) : IngestEntry := ⟨.lookUp ["request-1"], found⟩

def retriedSections (record : AuditRecord) : List IngestEntry :=
  [⟨.extend "tenant-1" retried, .ok [record]⟩, ⟨.index [record], ()⟩]

theorem resumes_lookUp (found : List AuditRecord) :
    Resumes (AuditIngest.appendBatch retried).run [retriedLookUp found]
      (if found.isEmpty then AuditIngest.appendNew "tenant-1" retried
        else if found.length = 1 then pure found
        else throw .idempotencyConflict :
          Attempt AuditError IngestCall IngestCall.Answer (List AuditRecord)).run := by
  have hadmissible : retried.Admissible "tenant-1" :=
    sampleBatch_admissible "tenant-1" "request-1" (by decide)
  rw [run_appendBatch hadmissible]
  exact Resumes.ask_bind (.refl _)

theorem resumes_sections (record : AuditRecord) :
    Resumes (AuditIngest.appendNew "tenant-1" retried).run (retriedSections record)
      (.done (.ok [record])) :=
  Resumes.port_bind rfl (Resumes.ask_bind (.refl _))

theorem sample_sections {state : AuditState} (hfree : state.chainsHeld = false)
    (hroom : (state.tenantRecords "tenant-1").length < 10) :
    ∃ record : AuditRecord, record.draft.requestId = "request-1" ∧
      ∃ state', (ingestSystem sampleCodec sampleIngest).Serves state (retriedSections record)
          state' ∧ state'.chainsHeld = false ∧
        state'.tenantRecords "tenant-1" = state.tenantRecords "tenant-1" ++ [record] ∧
        state'.requestIds["request-1"]? = some record := by
  obtain ⟨more, hchains, -, -, -, -, ⟨hok, hdrafts, -⟩ | ⟨-, -, hfull⟩ | ⟨-, record, -, hnone⟩⟩ :=
    AuditIngest.extend_spec sampleCodec sampleIngest "tenant-1" retried.drafts retried.drawn state
  · obtain ⟨record, rfl, hdraft⟩ := List.map_eq_singleton_iff.mp hdrafts
    have hrequest : record.draft.requestId = "request-1" := by
      rw [hdraft]
      rfl
    refine ⟨record, hrequest, _, .cons ⟨hfree, Prod.ext hok rfl⟩ (.cons ⟨trivial, rfl⟩ (.nil _)),
      rfl, ?_, ?_⟩
    · exact (hchains "tenant-1").trans (if_pos rfl)
    · obtain ⟨found, hmem, -, hknown⟩ := AuditState.index_entered
        (sampleIngest.extend sampleCodec "tenant-1" retried.drafts retried.drawn state).2
        ⟨record, List.mem_singleton_self record, hrequest⟩
      rwa [List.mem_singleton.mp hmem] at hknown
  · exact absurd (show (state.tenantRecords "tenant-1").length + 1 ≤ 10 from hroom) hfull
  · obtain ⟨bytes, hbytes⟩ := sampleCodec_total record
    exact nomatch hnone.symm.trans hbytes

theorem sample_started :
    (ingestSystem sampleCodec sampleIngest).Reachable .empty
      ⟨.empty, [(AuditIngest.appendBatch retried).run, (AuditIngest.appendBatch retried).run],
        []⟩ := by
  have hone : (ingestSystem sampleCodec sampleIngest).Reachable .empty
      ⟨.empty, [(AuditIngest.appendBatch retried).run], []⟩ :=
    Relation.ReflTransGen.refl.tail (.start _ ⟨retried, rfl⟩)
  exact hone.tail (.start _ ⟨retried, rfl⟩)

theorem serves_lookUp (state : AuditState) :
    (ingestSystem sampleCodec sampleIngest).Serves state
      [retriedLookUp (state.lookUp ["request-1"])] state :=
  .cons ⟨trivial, rfl⟩ (.nil _)

theorem lookUp_empty : AuditState.empty.lookUp ["request-1"] = [] := by
  simp [AuditState.lookUp, AuditState.empty]

theorem room_empty : (AuditState.empty.tenantRecords "tenant-1").length < 10 := by
  simp [AuditState.tenantRecords, AuditState.empty]

/-- A retry that comes after the batch finds its record. -/
theorem retries_append_once_sample :
    ∃ cfg : IngestRun, (ingestSystem sampleCodec sampleIngest).Reachable .empty cfg ∧
      LookUpsApart cfg.trace ∧ cfg.trace.length = 4 ∧
      cfg.trace.Pairwise fun event event' => ∀ tenant tenant',
        ∀ record ∈ appendedTo tenant event.entry, ∀ record' ∈ appendedTo tenant' event'.entry,
          record.draft.requestId ≠ record'.draft.requestId := by
  have hempty : AuditState.empty.chainsHeld = false := rfl
  obtain ⟨record, -, state, hserves, -, -, hknown⟩ := sample_sections hempty room_empty
  have hlookup := serves_lookUp .empty
  rw [lookUp_empty] at hlookup
  obtain ⟨events, -, hentries, hreach⟩ := sample_started.run 0 rfl
    ((resumes_lookUp []).trans (resumes_sections record)) (hlookup.append hserves)
  obtain ⟨events', -, hentries', hreach'⟩ := hreach.run 1 rfl (resumes_lookUp _)
    (serves_lookUp state)
  have hfound : state.lookUp ["request-1"] = [record] := List.filterMap_cons_some hknown
  rw [hfound] at hentries'
  have htrace : ([] ++ events ++ events').map Event.entry =
      [retriedLookUp []] ++ retriedSections record ++ [retriedLookUp [record]] := by
    rw [List.nil_append, List.map_append, hentries, hentries']
  have hapart : LookUpsApart ([] ++ events ++ events') := by
    have hfirst : ([] ++ events ++ events').map Event.entry =
        retriedLookUp [] :: (retriedSections record ++ [retriedLookUp [record]]) := htrace
    refine apart_of_first hfirst fun entry hentry requestId hmisses => ?_
    simp only [retriedSections, List.cons_append, List.nil_append, List.mem_cons,
      List.not_mem_nil, or_false] at hentry
    obtain rfl | rfl | rfl := hentry
    · exact hmisses
    · exact hmisses
    · exact nomatch hmisses.1
  refine ⟨_, hreach', hapart, ?_, ?_⟩
  · simpa [retriedSections] using congrArg List.length htrace
  · exact (retries_append_once sampleCodec_total hreach').2.2 hapart

/-- **Counterexample**: a batch and its retry that are both looked up first are both appended. -/
theorem retry_appended_twice :
    ∃ cfg : IngestRun, (ingestSystem sampleCodec sampleIngest).Reachable .empty cfg ∧
      (∀ p, p ∈ cfg.threads → ∃ records : List AuditRecord, p = .done (.ok records)) ∧
      (cfg.shared.tenantRecords "tenant-1").map (·.draft.requestId) =
        ["request-1", "request-1"] := by
  have hempty : AuditState.empty.chainsHeld = false := rfl
  obtain ⟨record, hrequest, state, hserves, hfree, hchain, -⟩ := sample_sections hempty room_empty
  have hlookup := serves_lookUp .empty
  rw [lookUp_empty] at hlookup
  have hone : state.tenantRecords "tenant-1" = [record] := hchain
  obtain ⟨record', hrequest', state', hserves', -, hchain', -⟩ :=
    sample_sections hfree (by rw [hone]; simp)
  obtain ⟨_, -, -, hreach⟩ := sample_started.run 0 rfl (resumes_lookUp []) hlookup
  obtain ⟨_, -, -, hreach⟩ := hreach.run 1 rfl (resumes_lookUp []) hlookup
  obtain ⟨_, -, -, hreach⟩ := hreach.run 0 rfl (resumes_sections record) hserves
  obtain ⟨_, -, -, hreach⟩ := hreach.run 1 rfl (resumes_sections record') hserves'
  refine ⟨_, hreach, ?_, ?_⟩
  · simp
  · simp [hchain', hone, hrequest, hrequest']

end AgentSphere.Audit
