import AgentSphere.Audit.Ingest
import AgentSphere.Lib.Machine

/-!
# Batches, one after the other

One batch at a time, the index shared by all tenants decides what a batch is: one whose requests are
all known is answered with the records they brought before, one of which only some are known is a
conflict, and one of which none is known is appended.
-/

namespace AgentSphere.Audit

open Concurrency HashChain Machine

section Model

variable {Bytes SigningKey VerifyingKey : Type}

/-- `append_batch` without interruption. -/
def AuditIngest.serveBatch (codec : AuditCodec Bytes SigningKey VerifyingKey)
    (self : AuditIngest SigningKey) (state : AuditState) (batch : Batch) :
    Except AuditError (List AuditRecord) × AuditState :=
  (appendBatch batch).run.alone (self.serve codec) state

def Batch.tenant? (batch : Batch) : Option TenantId := batch.drafts.head?.map (·.tenantId)

structure Batch.Admissible (batch : Batch) (tenant : TenantId) : Prop where
  first : batch.tenant? = some tenant
  valid : validateDrafts batch.drafts = .ok ()
  owned : ∀ draft ∈ batch.drafts, draft.tenantId = tenant

def AuditState.known (state : AuditState) (draft : AuditRecordDraft) : Option AuditRecord :=
  state.requestIds[draft.requestId]?

variable {codec : AuditCodec Bytes SigningKey VerifyingKey} {ingest : AuditIngest SigningKey}
  {state state' : AuditState} {tenant other : TenantId} {batch : Batch}

-- One batch

theorem lookUp_eq (state : AuditState) (batch : Batch) :
    state.lookUp (batch.drafts.map (·.requestId)) = batch.drafts.filterMap state.known :=
  List.filterMap_map

theorem Batch.Admissible.drafts_ne_nil (h : batch.Admissible tenant) : batch.drafts ≠ [] := by
  intro hnil
  have hfirst := h.first
  simp [Batch.tenant?, hnil] at hfirst

theorem Batch.Admissible.mem_drafts (h : batch.Admissible tenant) :
    ∃ draft, draft ∈ batch.drafts := List.exists_mem_of_ne_nil _ h.drafts_ne_nil

theorem run_refused (h : ∀ tenant, ¬ batch.Admissible tenant) :
    ∃ e, (AuditIngest.appendBatch batch).run = .done (.error e) := by
  unfold AuditIngest.appendBatch
  split
  · exact ⟨.recordInvalid, rfl⟩
  · next first rest hdrafts =>
    cases hvalid : validateDrafts batch.drafts with
    | error e => exact ⟨e, rfl⟩
    | ok u =>
      have hmixed : ¬ ∀ draft ∈ batch.drafts, draft.tenantId = first.tenantId :=
        fun howned => h first.tenantId ⟨by simp [Batch.tenant?, hdrafts], hvalid, howned⟩
      rw [Attempt.ensure, if_neg hmixed]
      exact ⟨.tenantDenied, rfl⟩

theorem serveBatch_refused (codec : AuditCodec Bytes SigningKey VerifyingKey)
    (ingest : AuditIngest SigningKey) (h : ∀ tenant, ¬ batch.Admissible tenant) :
    ∃ e, ∀ state, ingest.serveBatch codec state batch = (.error e, state) := by
  obtain ⟨e, he⟩ := run_refused h
  exact ⟨e, fun state => by rw [AuditIngest.serveBatch, he]; rfl⟩

theorem run_appendBatch (h : batch.Admissible tenant) :
    (AuditIngest.appendBatch batch).run =
      (do
        let existing : List AuditRecord ←
          Attempt.ask (IngestCall.lookUp (batch.drafts.map (·.requestId)))
        if existing.isEmpty then AuditIngest.appendNew tenant batch
        else if existing.length = batch.drafts.length then pure existing
        else throw .idempotencyConflict :
          Attempt AuditError IngestCall IngestCall.Answer (List AuditRecord)).run := by
  obtain ⟨hfirst, hvalid, howned⟩ := h
  unfold AuditIngest.appendBatch
  split
  · next hnil => simp [Batch.tenant?, hnil] at hfirst
  · next first rest hdrafts =>
    obtain rfl : first.tenantId = tenant := by simpa [Batch.tenant?, hdrafts] using hfirst
    rw [hvalid, Attempt.ensure, if_pos howned]
    rfl

theorem alone_appendNew (tenant : TenantId) (batch : Batch) (state : AuditState) :
    (AuditIngest.appendNew tenant batch).run.alone (ingest.serve codec) state =
      match (ingest.extend codec tenant batch.drafts batch.drawn state).1 with
      | .ok appended => (.ok appended,
          (ingest.extend codec tenant batch.drafts batch.drawn state).2.index appended)
      | .error e =>
        (.error e, (ingest.extend codec tenant batch.drafts batch.drawn state).2) := by
  rw [AuditIngest.appendNew, Attempt.alone_port_bind]
  simp only [AuditIngest.serve, id]
  cases (ingest.extend codec tenant batch.drafts batch.drawn state).1 with
  | ok appended => rfl
  | error e => rfl

theorem serveBatch_admissible (h : batch.Admissible tenant) (state : AuditState) :
    ingest.serveBatch codec state batch =
      if (batch.drafts.filterMap state.known).isEmpty then
        match (ingest.extend codec tenant batch.drafts batch.drawn state).1 with
        | .ok appended => (.ok appended,
            (ingest.extend codec tenant batch.drafts batch.drawn state).2.index appended)
        | .error e =>
          (.error e, (ingest.extend codec tenant batch.drafts batch.drawn state).2)
      else if (batch.drafts.filterMap state.known).length = batch.drafts.length then
        (.ok (batch.drafts.filterMap state.known), state)
      else (.error .idempotencyConflict, state) := by
  rw [AuditIngest.serveBatch, run_appendBatch h, Attempt.alone_ask_bind]
  simp only [AuditIngest.serve, lookUp_eq]
  split
  · exact alone_appendNew tenant batch state
  · split
    · rfl
    · rfl

section Cases

variable (h : batch.Admissible tenant)
include h

theorem serveBatch_found (hknown : ∀ draft ∈ batch.drafts, (state.known draft).isSome) :
    ingest.serveBatch codec state batch = (.ok (batch.drafts.filterMap state.known), state) := by
  have hlength := List.filterMap_length_eq_length.mpr hknown
  have hsome : ¬ (batch.drafts.filterMap state.known).isEmpty := by
    rw [List.isEmpty_iff_length_eq_zero, hlength, List.length_eq_zero_iff]
    exact h.drafts_ne_nil
  rw [serveBatch_admissible h, if_neg hsome, if_pos hlength]

theorem serveBatch_conflict {draft draft' : AuditRecordDraft} (hmem : draft ∈ batch.drafts)
    (hknown : (state.known draft).isSome) (hmem' : draft' ∈ batch.drafts)
    (hnew : state.known draft' = none) :
    ingest.serveBatch codec state batch = (.error .idempotencyConflict, state) := by
  have hsome : ¬ (batch.drafts.filterMap state.known).isEmpty := by
    rw [List.isEmpty_iff, List.filterMap_eq_nil_iff]
    intro hnone
    simp [hnone draft hmem] at hknown
  have hlength : (batch.drafts.filterMap state.known).length ≠ batch.drafts.length := by
    rw [Ne, List.filterMap_length_eq_length]
    intro hall
    have hsome := hall draft' hmem'
    rw [hnew] at hsome
    cases hsome
  rw [serveBatch_admissible h, if_neg hsome, if_neg hlength]

theorem serveBatch_new (hnew : ∀ draft ∈ batch.drafts, state.known draft = none) :
    ingest.serveBatch codec state batch =
      match (ingest.extend codec tenant batch.drafts batch.drawn state).1 with
      | .ok appended => (.ok appended,
          (ingest.extend codec tenant batch.drafts batch.drawn state).2.index appended)
      | .error e => (.error e, (ingest.extend codec tenant batch.drafts batch.drawn state).2) := by
  rw [serveBatch_admissible h, if_pos (List.isEmpty_iff.mpr (List.filterMap_eq_nil_iff.mpr hnew))]

end Cases

/-- What a batch finds in the index is its own: where all its requests are known, they have brought
the same drafts; and where none of them is known from a record of its tenant, none is known at all,
and no request comes twice, unless the batch does not fit. -/
structure OwnRequests (ingest : AuditIngest SigningKey) (state : AuditState) (batch : Batch) :
    Prop where
  same : ∀ tenant, batch.Admissible tenant →
    (∀ draft ∈ batch.drafts, (state.known draft).isSome) →
    ∀ draft ∈ batch.drafts, ∀ record, state.known draft = some record → record.draft = draft
  fresh : ∀ tenant, batch.Admissible tenant →
    (∃ draft ∈ batch.drafts, state.known draft = none) →
    (∀ draft ∈ batch.drafts, ∀ record, state.known draft = some record →
      record.draft.tenantId ≠ tenant) →
    (∀ draft ∈ batch.drafts, state.known draft = none) ∧
      (ingest.Fits state tenant batch.drafts → (batch.drafts.map (·.requestId)).Nodup)

theorem map_draft_known_iff {drafts : List AuditRecordDraft}
    (hknown : ∀ draft ∈ drafts, (state.known draft).isSome) :
    (drafts.filterMap state.known).map (·.draft) = drafts ↔
      ∀ draft ∈ drafts, ∀ record, state.known draft = some record → record.draft = draft := by
  induction drafts with
  | nil => simp
  | cons draft drafts ih =>
    obtain ⟨record, hrecord⟩ := Option.isSome_iff_exists.mp (hknown draft List.mem_cons_self)
    rw [List.filterMap_cons_some hrecord, List.map_cons, List.cons.injEq,
      ih fun d hd => hknown d (List.mem_cons_of_mem _ hd)]
    simp [hrecord]

structure Appended (codec : AuditCodec Bytes SigningKey VerifyingKey)
    (ingest : AuditIngest SigningKey) (state : AuditState) (batch : Batch) (tenant : TenantId)
    (more : List AuditRecord) : Prop where
  admissible : batch.Admissible tenant
  unknown : ∀ draft ∈ batch.drafts, state.known draft = none
  fits : ingest.Fits state tenant batch.drafts
  answer : (ingest.serveBatch codec state batch).1 = .ok more
  drafts : more.map (·.draft) = batch.drafts
  chains : ∀ other, (ingest.serveBatch codec state batch).2.tenantRecords other =
    if tenant = other then state.tenantRecords other ++ more else state.tenantRecords other
  index : (ingest.serveBatch codec state batch).2.requestIds = (state.index more).requestIds

theorem appended_cases (htotal : ∀ record, ∃ bytes, codec.recordJcs record = some bytes)
    (ingest : AuditIngest SigningKey) (h : batch.Admissible tenant)
    (hnew : ∀ draft ∈ batch.drafts, state.known draft = none) :
    (¬ ingest.Fits state tenant batch.drafts ∧
      (ingest.serveBatch codec state batch).1 = .error .capacityExceeded ∧
      (∀ tenant, (ingest.serveBatch codec state batch).2.tenantRecords tenant =
        state.tenantRecords tenant) ∧
      (ingest.serveBatch codec state batch).2.requestIds = state.requestIds) ∨
    ∃ more, Appended codec ingest state batch tenant more := by
  have hserve : ingest.serveBatch codec state batch = _ := serveBatch_new h hnew
  obtain ⟨more, hchains, hindex, -, -, -, ⟨hok, hdrafts, hfits⟩ | ⟨herror, rfl, hfull⟩ |
      ⟨-, record, -, hrecord⟩⟩ :=
    AuditIngest.extend_spec codec ingest tenant batch.drafts batch.drawn state
  · rw [hok] at hserve
    refine .inr ⟨more, h, hnew, hfits, ?_, hdrafts, fun other => ?_, ?_⟩
    · rw [hserve]
    · rw [hserve, ← hchains other]
      rfl
    · rw [hserve]
      exact AuditState.index_congr hindex more
  · rw [herror] at hserve
    refine .inl ⟨hfull, by rw [hserve], fun other => ?_, by rw [hserve, hindex]⟩
    rw [hserve, hchains, List.append_nil, ite_self]
  · obtain ⟨bytes, hbytes⟩ := htotal record
    exact nomatch hrecord.symm.trans hbytes

/-- **Cases**: a batch is refused and leaves chains and index alone, it finds all its records, or it
is appended. -/
theorem served_cases (htotal : ∀ record, ∃ bytes, codec.recordJcs record = some bytes)
    (ingest : AuditIngest SigningKey) (state : AuditState) (batch : Batch) :
    ((∃ e, (ingest.serveBatch codec state batch).1 = .error e) ∧
      (∀ tenant, (ingest.serveBatch codec state batch).2.tenantRecords tenant =
        state.tenantRecords tenant) ∧
      (ingest.serveBatch codec state batch).2.requestIds = state.requestIds) ∨
    ((∃ tenant, batch.Admissible tenant) ∧
      (∀ draft ∈ batch.drafts, (state.known draft).isSome) ∧
      ingest.serveBatch codec state batch =
        (.ok (batch.drafts.filterMap state.known), state)) ∨
    ∃ tenant more, Appended codec ingest state batch tenant more := by
  by_cases hadmissible : ∃ tenant, batch.Admissible tenant
  · obtain ⟨tenant, h⟩ := hadmissible
    by_cases hall : ∀ draft ∈ batch.drafts, (state.known draft).isSome
    · exact .inr (.inl ⟨⟨tenant, h⟩, hall, serveBatch_found h hall⟩)
    · by_cases hnone : ∀ draft ∈ batch.drafts, state.known draft = none
      · obtain ⟨-, herror, hchains, hindex⟩ | happended := appended_cases htotal ingest h hnone
        · exact .inl ⟨⟨_, herror⟩, hchains, hindex⟩
        · exact .inr (.inr ⟨tenant, happended⟩)
      · simp only [not_forall, Option.not_isSome_iff_eq_none] at hall
        obtain ⟨draft', hmem', hunknown⟩ := hall
        simp only [not_forall, ← ne_eq, Option.ne_none_iff_isSome] at hnone
        obtain ⟨draft, hmem, hknown⟩ := hnone
        have hserve : ingest.serveBatch codec state batch = _ :=
          serveBatch_conflict h hmem hknown hmem' hunknown
        exact .inl ⟨⟨_, by rw [hserve]⟩, fun _ => by rw [hserve], by rw [hserve]⟩
  · obtain ⟨e, he⟩ := serveBatch_refused codec ingest (not_exists.mp hadmissible)
    exact .inl ⟨⟨e, by rw [he]⟩, fun _ => by rw [he], by rw [he]⟩

-- Chains and index

structure Indexed (state : AuditState) : Prop where
  entered : ∀ requestId record, state.requestIds[requestId]? = some record →
    record.draft.requestId = requestId ∧ record ∈ state.tenantRecords record.draft.tenantId
  listed : ∀ tenant, ∀ record ∈ state.tenantRecords tenant,
    record.draft.tenantId = tenant ∧ state.requestIds[record.draft.requestId]? = some record
  once : ∀ tenant, ((state.tenantRecords tenant).map (·.draft.requestId)).Nodup

theorem indexed_empty : Indexed .empty :=
  ⟨by simp [AuditState.empty], by simp [AuditState.empty, AuditState.tenantRecords],
    by simp [AuditState.empty, AuditState.tenantRecords]⟩

theorem Indexed.congr (h : Indexed state)
    (hchains : ∀ tenant, state'.tenantRecords tenant = state.tenantRecords tenant)
    (hindex : state'.requestIds = state.requestIds) : Indexed state' := by
  obtain ⟨hentered, hlisted, honce⟩ := h
  simp only [← hchains, ← hindex] at hentered hlisted honce
  exact ⟨hentered, hlisted, honce⟩

namespace Appended

variable {more : List AuditRecord}

theorem draft_mem (h : Appended codec ingest state batch tenant more) {record : AuditRecord}
    (hmem : record ∈ more) : record.draft ∈ batch.drafts := by
  rw [← h.drafts]
  exact List.mem_map_of_mem hmem

theorem owned (h : Appended codec ingest state batch tenant more) {record : AuditRecord}
    (hmem : record ∈ more) : record.draft.tenantId = tenant :=
  h.admissible.owned _ (h.draft_mem hmem)

theorem requestIds_eq (h : Appended codec ingest state batch tenant more) :
    more.map (·.draft.requestId) = batch.drafts.map (·.requestId) := by
  rw [← h.drafts, List.map_map]
  rfl

theorem unknown_record (h : Appended codec ingest state batch tenant more) {record : AuditRecord}
    (hmem : record ∈ more) : state.requestIds[record.draft.requestId]? = none :=
  h.unknown _ (h.draft_mem hmem)

theorem known_before (h : Appended codec ingest state batch tenant more) {requestId : String}
    {record : AuditRecord} (hknown : state.requestIds[requestId]? = some record) :
    (ingest.serveBatch codec state batch).2.requestIds[requestId]? = some record := by
  rw [h.index, AuditState.index_other fun other hmem heq => ?_, hknown]
  rw [← heq, h.unknown_record hmem] at hknown
  cases hknown

theorem known_after (h : Appended codec ingest state batch tenant more) {requestId : String}
    {record : AuditRecord}
    (hknown : (ingest.serveBatch codec state batch).2.requestIds[requestId]? = some record) :
    state.requestIds[requestId]? = some record ∨
      (record ∈ more ∧ record.draft.requestId = requestId) := by
  rw [h.index] at hknown
  by_cases hnew : ∃ other ∈ more, other.draft.requestId = requestId
  · obtain ⟨other, hmem, hrequest, hother⟩ := AuditState.index_entered state hnew
    obtain rfl := Option.some.inj (hknown.symm.trans hother)
    exact .inr ⟨hmem, hrequest⟩
  · rw [AuditState.index_other fun other hmem heq => hnew ⟨other, hmem, heq⟩] at hknown
    exact .inl hknown

theorem known_appended (h : Appended codec ingest state batch tenant more)
    (hnodup : (batch.drafts.map (·.requestId)).Nodup) {record : AuditRecord}
    (hmem : record ∈ more) :
    (ingest.serveBatch codec state batch).2.requestIds[record.draft.requestId]? =
      some record := by
  obtain ⟨other, hother, hrequest, hknown⟩ :=
    AuditState.index_entered state ⟨record, hmem, rfl⟩
  rw [← h.requestIds_eq] at hnodup
  rw [h.index, hknown, List.inj_on_of_nodup_map hnodup hother hmem hrequest]

theorem indexed (h : Appended codec ingest state batch tenant more) (hindexed : Indexed state)
    (hnodup : (batch.drafts.map (·.requestId)).Nodup) :
    Indexed (ingest.serveBatch codec state batch).2 := by
  refine ⟨fun requestId record hknown => ?_, fun other record hmem => ?_, fun other => ?_⟩
  · rw [h.chains]
    obtain hold | ⟨hmem, hrequest⟩ := h.known_after hknown
    · obtain ⟨hrequest, hmem⟩ := hindexed.entered requestId record hold
      refine ⟨hrequest, ?_⟩
      split
      · exact List.mem_append_left _ hmem
      · exact hmem
    · rw [if_pos (h.owned hmem).symm]
      exact ⟨hrequest, List.mem_append_right _ hmem⟩
  · rw [h.chains] at hmem
    have hold : record ∈ state.tenantRecords other → record.draft.tenantId = other ∧
        (ingest.serveBatch codec state batch).2.requestIds[record.draft.requestId]? =
          some record := fun hmem =>
      ⟨(hindexed.listed other record hmem).1, h.known_before (hindexed.listed other record hmem).2⟩
    split at hmem
    · next heq =>
      obtain hmem | hmem := List.mem_append.mp hmem
      · exact hold hmem
      · exact ⟨(h.owned hmem).trans heq, h.known_appended hnodup hmem⟩
    · exact hold hmem
  · rw [h.chains]
    split
    · rw [List.map_append, List.nodup_append]
      refine ⟨hindexed.once other, h.requestIds_eq ▸ hnodup, ?_⟩
      intro requestId hold requestId' hnew heq
      obtain ⟨record, hmem, rfl⟩ := List.mem_map.mp hold
      obtain ⟨record', hmem', rfl⟩ := List.mem_map.mp hnew
      have hknown := (hindexed.listed other record hmem).2
      rw [heq, h.unknown_record hmem'] at hknown
      cases hknown
    · exact hindexed.once other

end Appended

-- One tenant

structure Restricts (tenant : TenantId) (state restricted : AuditState) : Prop where
  chain : restricted.tenantRecords tenant = state.tenantRecords tenant
  index : ∀ (requestId : String) (record : AuditRecord),
    restricted.requestIds[requestId]? = some record ↔
      state.requestIds[requestId]? = some record ∧ record.draft.tenantId = tenant

theorem restricts_empty : Restricts tenant .empty .empty := ⟨rfl, by simp [AuditState.empty]⟩

theorem extend_congr (codec : AuditCodec Bytes SigningKey VerifyingKey)
    (ingest : AuditIngest SigningKey) (drafts : List AuditRecordDraft) (drawn : Nat → String)
    (h : state'.tenantRecords tenant = state.tenantRecords tenant) :
    (ingest.extend codec tenant drafts drawn state').1 =
        (ingest.extend codec tenant drafts drawn state).1 ∧
      (ingest.extend codec tenant drafts drawn state').2.tenantRecords tenant =
        (ingest.extend codec tenant drafts drawn state).2.tenantRecords tenant := by
  unfold AuditIngest.extend
  dsimp only
  rw [h]
  have hstored : ∀ (state : AuditState) held chain, ({ state.store tenant chain with
      chainsHeld := held } : AuditState).tenantRecords tenant = chain := fun state _ chain => by
    have hself := AuditState.tenantRecords_store state tenant tenant chain
    rwa [if_pos rfl] at hself
  split
  · simp
  · exact ⟨rfl, by rw [hstored, hstored]⟩

namespace Restricts

variable {restricted : AuditState} {more : List AuditRecord}

/-- A request of the tenant is known in both, by the same record of the tenant, or in the first by
a record of another tenant. -/
theorem known_eq (h : Restricts tenant state restricted) {draft : AuditRecordDraft}
    {record : AuditRecord} (hknown : state.known draft = some record)
    (howned : record.draft.tenantId = tenant) : restricted.known draft = some record :=
  (h.index _ _).mpr ⟨hknown, howned⟩

theorem unknown (h : Restricts tenant state restricted) {draft : AuditRecordDraft}
    (hunknown : state.known draft = none) : restricted.known draft = none := by
  cases hknown : restricted.known draft with
  | none => rfl
  | some record =>
    have hboth := ((h.index _ _).mp hknown).1
    exact nomatch hunknown.symm.trans hboth

theorem appended (h : Restricts tenant state restricted)
    (happended : Appended codec ingest state batch tenant more) :
    Appended codec ingest restricted batch tenant more := by
  obtain ⟨hadmissible, hunknown, hfits, hanswer, hdrafts, hchains, hindex⟩ := happended
  have hnew := fun draft hmem => h.unknown (hunknown draft hmem)
  have hserve : ingest.serveBatch codec state batch = _ := serveBatch_new hadmissible hunknown
  have hserve' : ingest.serveBatch codec restricted batch = _ := serveBatch_new hadmissible hnew
  obtain ⟨hsame, hchain⟩ := extend_congr codec ingest batch.drafts batch.drawn h.chain
  obtain ⟨more', hchains', hindex', -, -, -, -⟩ :=
    AuditIngest.extend_spec codec ingest tenant batch.drafts batch.drawn restricted
  rw [hsame] at hserve'
  cases hextend : (ingest.extend codec tenant batch.drafts batch.drawn state).1 with
  | error e =>
    rw [hserve, hextend] at hanswer
    cases hanswer
  | ok result =>
    rw [hextend] at hserve hserve'
    obtain rfl : result = more := by
      rw [hserve] at hanswer
      exact Except.ok.inj hanswer
    have hmore : more' = result := by
      have hown := hchains tenant
      rw [hserve, if_pos rfl] at hown
      have hother := hchains' tenant
      rw [if_pos rfl, hchain, h.chain] at hother
      exact List.append_cancel_left (hother.symm.trans hown)
    refine ⟨hadmissible, hnew, ?_, by rw [hserve'], hdrafts, fun other => ?_, ?_⟩
    · rw [AuditIngest.Fits, h.chain]
      exact hfits
    · rw [hserve', ← hmore, ← hchains' other]
      rfl
    · rw [hserve']
      exact AuditState.index_congr hindex' result

theorem visible_new (htotal : ∀ record, ∃ bytes, codec.recordJcs record = some bytes)
    (h : Restricts tenant state restricted) (hadmissible : batch.Admissible tenant)
    (hnew : ∀ draft ∈ batch.drafts, state.known draft = none)
    (hnodup : ingest.Fits state tenant batch.drafts →
      (batch.drafts.map (·.requestId)).Nodup) :
    (ingest.serveBatch codec restricted batch).1 = (ingest.serveBatch codec state batch).1 ∧
      Restricts tenant (ingest.serveBatch codec state batch).2
        (ingest.serveBatch codec restricted batch).2 := by
  have hanswer : (ingest.serveBatch codec restricted batch).1 =
      (ingest.serveBatch codec state batch).1 := by
    rw [serveBatch_new hadmissible hnew,
      serveBatch_new hadmissible fun draft hmem => h.unknown (hnew draft hmem),
      (extend_congr codec ingest batch.drafts batch.drawn h.chain).1]
    cases (ingest.extend codec tenant batch.drafts batch.drawn state).1 with
    | ok appended => rfl
    | error e => rfl
  refine ⟨hanswer, ?_⟩
  obtain ⟨⟨e, herror⟩, hchains, hindex⟩ | ⟨-, hall, -⟩ | ⟨other, more, happended⟩ :=
    served_cases htotal ingest state batch
  · obtain ⟨-, hchains', hindex'⟩ | ⟨-, -, hserve'⟩ | ⟨other, more, happended'⟩ :=
      served_cases htotal ingest restricted batch
    · exact ⟨by rw [hchains, hchains', h.chain], by rw [hindex, hindex']; exact h.index⟩
    · rw [hserve', herror] at hanswer
      cases hanswer
    · rw [happended'.answer, herror] at hanswer
      cases hanswer
  · obtain ⟨draft, hmem⟩ := hadmissible.mem_drafts
    have hsome := hall draft hmem
    rw [hnew draft hmem] at hsome
    cases hsome
  · obtain rfl : other = tenant :=
      Option.some.inj (happended.admissible.first.symm.trans hadmissible.first)
    have happended' := h.appended happended
    have hnodup := hnodup happended.fits
    refine ⟨by rw [happended.chains, happended'.chains, if_pos rfl, if_pos rfl, h.chain],
      fun requestId record => ⟨fun hknown => ?_, fun ⟨hknown, howned⟩ => ?_⟩⟩
    · obtain hold | ⟨hmem, rfl⟩ := happended'.known_after hknown
      · obtain ⟨hold, howned⟩ := (h.index _ _).mp hold
        exact ⟨happended.known_before hold, howned⟩
      · exact ⟨happended.known_appended hnodup hmem, happended.owned hmem⟩
    · obtain hold | ⟨hmem, rfl⟩ := happended.known_after hknown
      · exact happended'.known_before ((h.index _ _).mpr ⟨hold, howned⟩)
      · exact happended'.known_appended hnodup hmem

/-- **Visible step**: a batch of the tenant has the same outcome in both, and keeps them related. -/
theorem visible (htotal : ∀ record, ∃ bytes, codec.recordJcs record = some bytes)
    (h : Restricts tenant state restricted) (hown : OwnRequests ingest state batch)
    (hbatch : batch.tenant? = some tenant) :
    (ingest.serveBatch codec restricted batch).1 = (ingest.serveBatch codec state batch).1 ∧
      Restricts tenant (ingest.serveBatch codec state batch).2
        (ingest.serveBatch codec restricted batch).2 := by
  by_cases hadmissible : batch.Admissible tenant
  · by_cases hall : ∀ draft ∈ batch.drafts, (state.known draft).isSome
    · -- all that is known is known by the same drafts, which are of the tenant
      have hsame : ∀ draft ∈ batch.drafts, restricted.known draft = state.known draft := by
        intro draft hmem
        obtain ⟨record, hrecord⟩ := Option.isSome_iff_exists.mp (hall draft hmem)
        rw [hrecord]
        refine h.known_eq hrecord ?_
        rw [hown.same tenant hadmissible hall draft hmem record hrecord]
        exact hadmissible.owned draft hmem
      have hall' : ∀ draft ∈ batch.drafts, (restricted.known draft).isSome := fun draft hmem => by
        rw [hsame draft hmem]
        exact hall draft hmem
      rw [serveBatch_found hadmissible hall, serveBatch_found hadmissible hall',
        List.filterMap_congr hsame]
      exact ⟨rfl, h⟩
    · simp only [not_forall, Option.not_isSome_iff_eq_none] at hall
      obtain ⟨draft', hmem', hunknown⟩ := hall
      by_cases hfound : ∃ draft ∈ batch.drafts, ∃ record, state.known draft = some record ∧
          record.draft.tenantId = tenant
      · obtain ⟨draft, hmem, record, hknown, howned⟩ := hfound
        rw [serveBatch_conflict hadmissible hmem (Option.isSome_of_mem hknown) hmem' hunknown,
          serveBatch_conflict hadmissible hmem (Option.isSome_of_mem (h.known_eq hknown howned))
            hmem' (h.unknown hunknown)]
        exact ⟨rfl, h⟩
      · obtain ⟨hnew, hnodup⟩ := hown.fresh tenant hadmissible ⟨draft', hmem', hunknown⟩
          fun draft hmem record hknown howned => hfound ⟨draft, hmem, record, hknown, howned⟩
        exact h.visible_new htotal hadmissible hnew hnodup
  · have hrefused : ∀ other, ¬ batch.Admissible other := by
      intro other hother
      obtain rfl := Option.some.inj (hother.first.symm.trans hbatch)
      exact hadmissible hother
    obtain ⟨e, he⟩ := serveBatch_refused codec ingest hrefused
    rw [he, he]
    exact ⟨rfl, h⟩

/-- **Hidden step**: a batch of another tenant keeps them related. -/
theorem hidden (htotal : ∀ record, ∃ bytes, codec.recordJcs record = some bytes)
    (h : Restricts tenant state restricted) (hbatch : batch.tenant? ≠ some tenant) :
    Restricts tenant (ingest.serveBatch codec state batch).2 restricted := by
  obtain ⟨-, hchains, hindex⟩ | ⟨-, -, hserve⟩ | ⟨other, more, happended⟩ :=
    served_cases htotal ingest state batch
  · refine ⟨h.chain.trans (hchains tenant).symm, ?_⟩
    rw [hindex]
    exact h.index
  · rw [hserve]
    exact h
  · have hother : other ≠ tenant := by
      rintro rfl
      exact hbatch happended.admissible.first
    refine ⟨?_, fun requestId record => ?_⟩
    · rw [happended.chains, if_neg hother]
      exact h.chain
    · rw [h.index]
      refine and_congr_left fun howned => ⟨happended.known_before, fun hknown => ?_⟩
      obtain hold | ⟨hmem, -⟩ := happended.known_after hknown
      · exact hold
      · exact absurd ((happended.owned hmem).symm.trans howned) hother

end Restricts

-- Runs

def ownBatches (tenant : TenantId) (calls : List Batch) : List Batch :=
  calls.filter fun batch => ¬ batch.tenant? ≠ some tenant

structure Lawful (codec : AuditCodec Bytes SigningKey VerifyingKey)
    (ingest : AuditIngest SigningKey) (calls : List Batch) : Prop where
  answered : ∀ event ∈ trace (ingest.serveBatch codec) .empty calls, ∀ records,
    event.answer = .ok records → records.map (·.draft) = event.call.drafts
  /-- A request of the tenant that comes with another draft is refused. -/
  refused : ∀ event ∈ trace (ingest.serveBatch codec) .empty calls,
    ∀ draft ∈ event.call.drafts, ∀ record ∈ event.before.tenantRecords draft.tenantId,
      record.draft.requestId = draft.requestId → record.draft ≠ draft →
      (∃ e, event.answer = .error e) ∧
        ∀ tenant, (ingest.serveBatch codec event.before event.call).2.tenantRecords tenant =
          event.before.tenantRecords tenant
  once : ∀ early late, calls = early ++ late → ∀ tenant,
    (((after (ingest.serveBatch codec) .empty early).tenantRecords tenant).map
      (·.draft.requestId)).Nodup
  isolated : ∀ early late, calls = early ++ late → ∀ tenant,
    (after (ingest.serveBatch codec) .empty (ownBatches tenant early)).tenantRecords tenant =
        (after (ingest.serveBatch codec) .empty early).tenantRecords tenant ∧
      ∀ batch rest, late = batch :: rest → batch.tenant? = some tenant →
        (ingest.serveBatch codec
            (after (ingest.serveBatch codec) .empty (ownBatches tenant early)) batch).1 =
          (ingest.serveBatch codec (after (ingest.serveBatch codec) .empty early) batch).1

section Runs

variable {calls : List Batch} (htotal : ∀ record, ∃ bytes, codec.recordJcs record = some bytes)

/-- **Step lemma**: a batch that finds only its own keeps chains and index together. -/
theorem Indexed.serve (htotal : ∀ record, ∃ bytes, codec.recordJcs record = some bytes)
    (h : Indexed state) (hown : OwnRequests ingest state batch) :
    Indexed (ingest.serveBatch codec state batch).2 := by
  obtain ⟨-, hchains, hindex⟩ | ⟨-, -, hserve⟩ | ⟨tenant, more, happended⟩ :=
    served_cases htotal ingest state batch
  · exact h.congr hchains hindex
  · rw [hserve]
    exact h
  · obtain ⟨draft, hmem⟩ := happended.admissible.mem_drafts
    refine happended.indexed h ?_
    refine (hown.fresh tenant happended.admissible ⟨draft, hmem, happended.unknown draft hmem⟩
      fun draft hmem record hknown => ?_).2 happended.fits
    exact nomatch (happended.unknown draft hmem).symm.trans hknown

theorem Lawful.left {more : List Batch} (h : Lawful codec ingest (calls ++ more)) :
    Lawful codec ingest calls := by
  have htrace : ∀ event ∈ trace (ingest.serveBatch codec) .empty calls,
      event ∈ trace (ingest.serveBatch codec) .empty (calls ++ more) := fun event hmem => by
    rw [trace_append]
    exact List.mem_append_left _ hmem
  refine ⟨fun event hmem => h.answered event (htrace event hmem),
    fun event hmem => h.refused event (htrace event hmem), fun early late hcalls => ?_,
    fun early late hcalls tenant => ?_⟩
  · exact h.once early (late ++ more) (by rw [hcalls, List.append_assoc])
  · obtain ⟨hchain, hanswer⟩ :=
      h.isolated early (late ++ more) (by rw [hcalls, List.append_assoc]) tenant
    refine ⟨hchain, ?_⟩
    rintro batch rest rfl hbatch
    exact hanswer batch (rest ++ more) rfl hbatch

include htotal

/-- **Run lemma**: chains and index hold the same. -/
theorem indexed_of_run
    (h : Meets (fun _ => OwnRequests ingest) (trace (ingest.serveBatch codec) .empty calls)) :
    Indexed (after (ingest.serveBatch codec) .empty calls) :=
  Meets.invariant (I := fun _ => Indexed) indexed_empty
    (fun _ _ _ hindexed hown => hindexed.serve htotal hown) h

/-- **Run lemma**: the run of one tenant follows the run of all. -/
theorem restricts_of_run (tenant : TenantId)
    (h : Meets (fun _ => OwnRequests ingest) (trace (ingest.serveBatch codec) .empty calls)) :
    Restricts tenant (after (ingest.serveBatch codec) .empty calls)
      (after (ingest.serveBatch codec) .empty (ownBatches tenant calls)) :=
  Meets.follows (R := fun _ => Restricts tenant) restricts_empty
    (fun _ _ _ _ h hown hbatch => (h.visible htotal hown (not_not.mp hbatch)).2)
    (fun _ _ _ _ h _ hbatch => h.hidden htotal hbatch) h

theorem Lawful.last (h : Lawful codec ingest (calls ++ [batch]))
    (hmeets : Meets (fun _ => OwnRequests ingest)
      (trace (ingest.serveBatch codec) .empty calls)) :
    OwnRequests ingest (after (ingest.serveBatch codec) .empty calls) batch := by
  have hmem : serve (ingest.serveBatch codec) (after (ingest.serveBatch codec) .empty calls)
      batch ∈ trace (ingest.serveBatch codec) .empty (calls ++ [batch]) := by
    rw [trace_snoc]
    exact List.mem_append_right _ List.mem_cons_self
  refine ⟨fun tenant hadmissible hall => ?_, fun tenant hadmissible hunknown hother => ?_⟩
  · have hanswer := h.answered _ hmem _ (by
      rw [serve_answer, serveBatch_found hadmissible hall])
    exact (map_draft_known_iff hall).mp hanswer
  · have hrestricts := restricts_of_run htotal tenant hmeets
    obtain ⟨-, hsame⟩ := h.isolated calls [batch] rfl tenant
    have hsame := hsame batch [] rfl hadmissible.first
    have hnew : ∀ draft ∈ batch.drafts,
        (after (ingest.serveBatch codec) .empty calls).known draft = none := by
      by_contra hsome
      simp only [not_forall, ← ne_eq, Option.ne_none_iff_isSome] at hsome
      obtain ⟨draft, hdraft, hknown⟩ := hsome
      obtain ⟨draft', hdraft', hunknown⟩ := hunknown
      -- alone, the batch would not have been a conflict
      have halone : ∀ draft ∈ batch.drafts, (after (ingest.serveBatch codec) .empty
          (ownBatches tenant calls)).known draft = none := by
        intro draft hdraft
        cases hknown : (after (ingest.serveBatch codec) .empty
            (ownBatches tenant calls)).known draft with
        | none => rfl
        | some record =>
          obtain ⟨hrecord, howned⟩ := (hrestricts.index _ _).mp hknown
          exact absurd howned (hother draft hdraft record hrecord)
      rw [serveBatch_conflict hadmissible hdraft hknown hdraft' hunknown] at hsame
      obtain ⟨-, herror, -, -⟩ | ⟨more, happended⟩ :=
        appended_cases htotal ingest hadmissible halone
      · exact nomatch herror.symm.trans hsame
      · exact nomatch happended.answer.symm.trans hsame
    refine ⟨hnew, fun hfits => ?_⟩
    obtain ⟨hfull, -⟩ | ⟨more, happended⟩ := appended_cases htotal ingest hadmissible hnew
    · exact absurd hfits hfull
    · have honce := h.once (calls ++ [batch]) [] (List.append_nil _).symm tenant
      rw [after_snoc, happended.chains, if_pos rfl, List.map_append, happended.requestIds_eq]
        at honce
      exact (List.nodup_append.mp honce).2.1

/-- **A run is lawful exactly if every batch finds only its own in the index.** -/
theorem batches_lawful_iff (ingest : AuditIngest SigningKey) (calls : List Batch) :
    Lawful codec ingest calls ↔
      Meets (fun _ => OwnRequests ingest) (trace (ingest.serveBatch codec) .empty calls) := by
  constructor
  · intro hlawful
    induction calls using List.reverseRecOn with
    | nil => exact Meets.nil
    | append_singleton calls batch ih =>
      rw [trace_snoc]
      have hmeets := ih hlawful.left
      exact hmeets.snoc (hlawful.last htotal hmeets)
  · intro hmeets
    have hcases : ∀ event ∈ trace (ingest.serveBatch codec) .empty calls,
        Indexed event.before ∧ OwnRequests ingest event.before event.call ∧
          event.answer = (ingest.serveBatch codec event.before event.call).1 := by
      intro event hmem
      obtain ⟨before, rest, hsplit⟩ := List.append_of_mem hmem
      refine ⟨?_, hmeets before event rest hsplit, answer_of_mem hmem⟩
      exact Meets.always (I := fun _ => Indexed) indexed_empty
        (fun _ _ _ hindexed hown => hindexed.serve htotal hown) hmeets hsplit
    refine ⟨fun event hmem records hok => ?_, fun event hmem draft hdraft record hrecord hrequest
      hdiffer => ?_, ?_, ?_⟩
    · obtain ⟨hindexed, hown, hanswer⟩ := hcases event hmem
      rw [hok] at hanswer
      obtain ⟨⟨e, herror⟩, -⟩ | ⟨⟨tenant, hadmissible⟩, hall, hserve⟩ |
          ⟨tenant, more, happended⟩ := served_cases htotal ingest event.before event.call
      · exact nomatch hanswer.trans herror
      · rw [hserve] at hanswer
        obtain rfl := Except.ok.inj hanswer
        exact (map_draft_known_iff hall).mpr (hown.same tenant hadmissible hall)
      · obtain rfl := Except.ok.inj (hanswer.trans happended.answer)
        exact happended.drafts
    · obtain ⟨hindexed, hown, hanswer⟩ := hcases event hmem
      have hknown : event.before.known draft = some record := by
        rw [AuditState.known, ← hrequest]
        exact (hindexed.listed _ record hrecord).2
      obtain ⟨⟨e, herror⟩, hchains, -⟩ | ⟨⟨tenant, hadmissible⟩, hall, -⟩ |
          ⟨tenant, more, happended⟩ := served_cases htotal ingest event.before event.call
      · exact ⟨⟨e, hanswer.trans herror⟩, hchains⟩
      · exact absurd (hown.same tenant hadmissible hall draft hdraft record hknown) hdiffer
      · exact nomatch (happended.unknown draft hdraft).symm.trans hknown
    · rintro early late rfl tenant
      rw [trace_append] at hmeets
      exact (indexed_of_run htotal hmeets.left).once tenant
    · rintro early late rfl tenant
      have hrestricts : Restricts tenant (after (ingest.serveBatch codec) .empty early)
          (after (ingest.serveBatch codec) .empty (ownBatches tenant early)) := by
        rw [trace_append] at hmeets
        exact restricts_of_run htotal tenant hmeets.left
      refine ⟨hrestricts.chain, ?_⟩
      rintro batch rest rfl hbatch
      refine (hrestricts.visible htotal ?_ hbatch).1
      exact hmeets (trace (ingest.serveBatch codec) .empty early) _ _ trace_append

end Runs

-- Uninterrupted runs

theorem extend_held (codec : AuditCodec Bytes SigningKey VerifyingKey)
    (ingest : AuditIngest SigningKey) (tenant : TenantId) (batch : Batch)
    (hfree : state.chainsHeld = false) :
    (ingest.extend codec tenant batch.drafts batch.drawn state).2.chainsHeld =
      (ingest.extend codec tenant batch.drafts batch.drawn state).1.isOk := by
  unfold AuditIngest.extend
  dsimp only
  split
  · exact hfree
  · rfl

theorem serveBatch_free (hfree : state.chainsHeld = false) :
    (ingest.serveBatch codec state batch).2.chainsHeld = false := by
  by_cases hadmissible : ∃ tenant, batch.Admissible tenant
  · obtain ⟨tenant, h⟩ := hadmissible
    have hheld := extend_held codec ingest tenant batch hfree
    rw [serveBatch_admissible h]
    split
    · split
      · rfl
      · next e herror =>
        rw [herror] at hheld
        exact hheld
    · split
      · exact hfree
      · exact hfree
  · obtain ⟨e, he⟩ := serveBatch_refused codec ingest (not_exists.mp hadmissible)
    rw [he]
    exact hfree

theorem enabled_appendBatch (hfree : state.chainsHeld = false) :
    (AuditIngest.appendBatch batch).run.Enabled (ingest.serve codec) AuditState.Ready state := by
  by_cases hadmissible : ∃ tenant, batch.Admissible tenant
  · obtain ⟨tenant, h⟩ := hadmissible
    rw [run_appendBatch h]
    refine Attempt.enabled_ask_bind trivial ?_
    split
    · exact Attempt.enabled_port_bind hfree fun appended _ => ⟨trivial, trivial⟩
    · split
      · trivial
      · trivial
  · obtain ⟨e, he⟩ := run_refused (not_exists.mp hadmissible)
    rw [he]
    trivial

/-- **A run of batches is one of the interleaved runs.** -/
theorem reachable_after (codec : AuditCodec Bytes SigningKey VerifyingKey)
    (ingest : AuditIngest SigningKey) (calls : List Batch) :
    ∃ cfg : IngestRun, (ingestSystem codec ingest).Reachable .empty cfg ∧
      cfg.shared = after (ingest.serveBatch codec) .empty calls ∧
      cfg.shared.chainsHeld = false := by
  induction calls using List.reverseRecOn with
  | nil => exact ⟨_, .refl, rfl, rfl⟩
  | append_singleton calls batch ih =>
    obtain ⟨cfg, hreach, hshared, hfree⟩ := ih
    have hserve : ∀ state call, AuditState.Ready state call →
        (ingestSystem codec ingest).Serve state call (ingest.serve codec state call).1
          (ingest.serve codec state call).2 := fun _ _ hready => ⟨hready, rfl⟩
    obtain ⟨cfg', hreach', hshared'⟩ := hreach.alone hserve ⟨batch, rfl⟩
      (enabled_appendBatch hfree)
    refine ⟨cfg', hreach', ?_, ?_⟩
    · rw [hshared', after_snoc, ← hshared]
      rfl
    · rw [hshared']
      exact serveBatch_free hfree

end Model

section Samples

variable {tenant : TenantId} {batch : Batch}

theorem sampleCodec_total (record : AuditRecord) :
    ∃ bytes, sampleCodec.recordJcs record = some bytes := ⟨_, rfl⟩

theorem validateDraft_sample (tenant : TenantId) {requestId : String}
    (hrequest : requestId.isEmpty = false) (classification : DataClassification) :
    validateDraft { sampleDraft tenant requestId with classification } = .ok () := by
  have hsafe : ¬ (["password=", "api_key=", "bearer ", "private key"].any
      (containsText (toAsciiLowercase "approval recorded")) = true) := by decide +kernel
  have hhash : zeroHash.utf8ByteSize = 64 := by decide
  simp [sampleDraft, validateDraft, hrequest, hsafe, hhash]

theorem sampleBatch_admissible (tenant : TenantId) (requestId : String)
    (hrequest : requestId.isEmpty = false) :
    (sampleBatch tenant requestId).Admissible tenant := by
  refine ⟨rfl, ?_, fun draft hmem => ?_⟩
  · have hvalid : validateDraft (sampleDraft tenant requestId) = .ok () :=
      validateDraft_sample tenant hrequest .internal
    simp [sampleBatch, validateDrafts, hvalid]
  · rw [List.mem_singleton.mp hmem]
    rfl

theorem appended_first (hadmissible : batch.Admissible tenant) (hroom : batch.drafts.length ≤ 10) :
    ∃ more, Appended sampleCodec sampleIngest .empty batch tenant more := by
  have hnew : ∀ draft ∈ batch.drafts, AuditState.empty.known draft = none := by
    simp [AuditState.known, AuditState.empty]
  obtain ⟨hfull, -⟩ | happended := appended_cases sampleCodec_total sampleIngest hadmissible hnew
  · refine absurd ?_ hfull
    simpa [AuditIngest.Fits, AuditState.tenantRecords, AuditState.empty, sampleIngest] using hroom
  · exact happended

theorem own_sample {state : AuditState} {tenant : TenantId} {requestId : String}
    (h : ∀ record, state.known (sampleDraft tenant requestId) = some record →
      record.draft = sampleDraft tenant requestId) :
    OwnRequests sampleIngest state (sampleBatch tenant requestId) := by
  refine ⟨fun _ _ _ draft hmem record hknown => ?_, fun _ _ hunknown _ => ⟨?_, fun _ => ?_⟩⟩
  · obtain rfl := List.mem_singleton.mp hmem
    exact h record hknown
  · obtain ⟨draft, hmem, hnone⟩ := hunknown
    intro other hother
    rwa [List.mem_singleton.mp hother, ← List.mem_singleton.mp hmem]
  · exact List.nodup_singleton _

theorem sample_known (tenant : TenantId) (requestId : String)
    (hrequest : requestId.isEmpty = false) :
    ∃ record : AuditRecord, record.draft = sampleDraft tenant requestId ∧
      ∀ other, (sampleIngest.serveBatch sampleCodec .empty
          (sampleBatch tenant requestId)).2.requestIds[other]? =
        if other = requestId then some record else none := by
  obtain ⟨more, happended⟩ :=
    appended_first (sampleBatch_admissible tenant requestId hrequest) (show 1 ≤ 10 by decide)
  obtain ⟨record, rfl, hdraft⟩ := List.map_eq_singleton_iff.mp happended.drafts
  refine ⟨record, hdraft, fun other => ?_⟩
  have hown := happended.known_appended (List.nodup_singleton _) List.mem_cons_self
  rw [hdraft] at hown
  split
  · next heq =>
    subst heq
    exact hown
  · next hne =>
    rw [Option.eq_none_iff_forall_ne_some]
    intro found hfound
    obtain hold | ⟨hmem, hrequest⟩ := happended.known_after hfound
    · simp [AuditState.empty] at hold
    · rw [List.mem_singleton.mp hmem, hdraft] at hrequest
      exact hne hrequest.symm

/-- A batch, its retry and a batch of another tenant make a lawful run. -/
theorem batches_lawful_retry :
    Lawful sampleCodec sampleIngest
      [sampleBatch "tenant-1" "request-1", sampleBatch "tenant-1" "request-1",
        sampleBatch "tenant-2" "request-2"] := by
  obtain ⟨record, hdraft, hknown⟩ := sample_known "tenant-1" "request-1" (by decide)
  have hretry : sampleIngest.serveBatch sampleCodec
      (sampleIngest.serveBatch sampleCodec .empty (sampleBatch "tenant-1" "request-1")).2
      (sampleBatch "tenant-1" "request-1") = (_, _) :=
    serveBatch_found (sampleBatch_admissible "tenant-1" "request-1" (by decide))
      fun draft hmem => by
        rw [List.mem_singleton.mp hmem]
        exact Option.isSome_of_mem ((hknown "request-1").trans (if_pos rfl))
  refine (batches_lawful_iff sampleCodec_total sampleIngest _).mpr ?_
  refine ((Meets.nil.snoc (own_sample ?_)).snoc (own_sample ?_)).snoc (own_sample ?_)
  · intro record hrecord
    simp [AuditState.known, AuditState.empty] at hrecord
  · intro other hother
    obtain rfl := Option.some.inj (((hknown "request-1").trans (if_pos rfl)).symm.trans hother)
    exact hdraft
  · intro other hother
    rw [serve_before, hretry] at hother
    cases ((hknown "request-2").trans (if_neg (by decide))).symm.trans hother

/-- **Counterexample**: a tenant whose request another tenant has used before is answered with the
record of that tenant. -/
theorem request_of_other_tenant :
    ¬ Lawful sampleCodec sampleIngest
      [sampleBatch "tenant-1" "request-1", sampleBatch "tenant-2" "request-1"] := by
  intro hlawful
  obtain ⟨record, hdraft, hknown⟩ := sample_known "tenant-1" "request-1" (by decide)
  have hfound := (hknown "request-1").trans (if_pos rfl)
  have hanswer := hlawful.answered _ (.tail _ (.head _)) [record] (by
    rw [serve_answer, serveBatch_found
      (sampleBatch_admissible "tenant-2" "request-1" (by decide)) ?_]
    · exact congrArg Except.ok (List.filterMap_cons_some (l := []) hfound)
    · intro draft hmem
      rw [List.mem_singleton.mp hmem]
      exact Option.isSome_of_mem hfound)
  have hsame : record.draft = sampleDraft "tenant-2" "request-1" := List.singleton_inj.mp hanswer
  rw [hdraft] at hsame
  exact absurd (congrArg AuditRecordDraft.tenantId hsame) (by decide)

end Samples

end AgentSphere.Audit
