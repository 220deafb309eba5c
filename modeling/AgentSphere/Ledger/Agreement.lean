import AgentSphere.Ledger.Indexes
import AgentSphere.Ledger.Lifecycle
import AgentSphere.Ledger.Postgres

/-!
# The two ledgers side by side

The same calls are made on the ledger in memory and on the ledger in PostgreSQL. Each ledger
generates its own execution identifiers and fence tokens, so a run carries the renaming between
the identifiers, and a fence on one side is matched with a fence on the other that names the
same execution and holds its token exactly when the other does.
-/

namespace AgentSphere.Ledger

open Concurrency

-- Calls on both sides

/-- The `mark` calls, without the fence. -/
inductive Mark where
  | started (operation : Option String)
  | succeeded (result evidence : String)
  | failed (error : String)
  | unknown (error : String)
  | manualRecovery (case : ManualRecoveryCase)

namespace Mark

def onMemory (ledger : InMemoryExecutionLedger) (ambient : Ambient) (fence : ExecutionFence) :
    Mark → Except LedgerError Unit × InMemoryExecutionLedger
  | .started operation => ledger.markStarted ambient fence operation
  | .succeeded result evidence => ledger.markSucceeded ambient fence result evidence
  | .failed error => ledger.markFailed ambient fence error
  | .unknown error => ledger.markUnknown ambient fence error
  | .manualRecovery case => ledger.markManualRecovery ambient fence case

def onPostgres (db : Database) (tx : Transaction) (fence : ExecutionFence) :
    Mark → Except LedgerError Unit × Database
  | .started operation => db.markStarted tx fence operation
  | .succeeded result evidence => db.markSucceeded tx fence result evidence
  | .failed error => db.markFailed tx fence error
  | .unknown error => db.markUnknown tx fence error
  | .manualRecovery case => db.markManualRecovery tx fence case

def strings : Mark → List String
  | .started operation => operation.toList
  | .succeeded result evidence => [result, evidence]
  | .failed error => [error]
  | .unknown error => [error]
  | .manualRecovery case => case.strings

end Mark

/-- Both ledgers, the renaming of executions, and for each call whether it succeeded on the one
and on the other. -/
structure Paired where
  memory : InMemoryExecutionLedger
  postgres : Database
  names : List (ExecutionId × ExecutionId)
  outcomes : List (Bool × Bool)

namespace Paired

def start : Paired where
  memory := .default
  postgres := .empty
  names := []
  outcomes := []

def Canonical (value : String) : Prop := ∃ u : Uuid, u.toStr = value

def FreshTx (p : Paired) (tx : Transaction) : Prop :=
  p.postgres.executions[tx.executionUuid.toStr]? = none ∧
    ∀ row ∈ p.postgres.outbox, row.eventId ≠ tx.eventUuid

def SameFence (p : Paired) (fence fence' : ExecutionFence) : Prop :=
  fence.tenantId = fence'.tenantId ∧
  ∀ name ∈ p.names, (fence.executionId = name.1 ↔ fence'.executionId = name.2) ∧
    (fence.executionId = name.1 → ∀ record row, p.memory.byExecution[name.1]? = some record →
      p.postgres.executions[name.2]? = some row →
      (fence.token = record.fenceToken ↔ fence'.token = asU64 row.fenceToken))

inductive Call where
  | reserve (intent : ExecutionIntent)
  | mark (mark : Mark) (fence fence' : ExecutionFence)

def created : Except LedgerError Reservation → Except LedgerError Reservation →
    List (ExecutionId × ExecutionId)
  | .ok reservation, .ok reservation' =>
    if reservation.existing then [] else [(reservation.executionId, reservation'.executionId)]
  | _, _ => []

/-- Both ledgers after a `reserve` on each. -/
def afterReserve (p : Paired) (ambient : Ambient) (tx : Transaction) (intent : ExecutionIntent) :
    Paired :=
  let (answer, memory) := p.memory.reserve ambient intent
  let (answer', postgres) := p.postgres.reserve tx intent
  { memory, postgres, names := p.names ++ created answer answer'
    outcomes := p.outcomes ++ [(answer.isOk, answer'.isOk)] }

/-- Both ledgers after a `mark` call on each. -/
def afterMark (p : Paired) (ambient : Ambient) (tx : Transaction) (mark : Mark)
    (fence fence' : ExecutionFence) : Paired :=
  let (answer, memory) := mark.onMemory p.memory ambient fence
  let (answer', postgres) := mark.onPostgres p.postgres tx fence'
  { memory, postgres, names := p.names
    outcomes := p.outcomes ++ [(answer.isOk, answer'.isOk)] }

inductive Step (p : Paired) : Call → Paired → Prop where
  | reserve (ambient : Ambient) (tx : Transaction) (intent : ExecutionIntent)
      (fresh : ambient.Fresh p.memory) (freshTx : p.FreshTx tx)
      (tenant : Canonical intent.tenantId) (task : Canonical intent.taskId)
      (step : Canonical intent.stepId) :
      Step p (.reserve intent) (p.afterReserve ambient tx intent)
  | mark (ambient : Ambient) (tx : Transaction) (mark : Mark) (fence fence' : ExecutionFence)
      (freshTx : p.FreshTx tx) (same : p.SameFence fence fence')
      (tenant : Canonical fence.tenantId) (execution : Canonical fence'.executionId)
      (token : fence'.token < 2 ^ 64) :
      Step p (.mark mark fence fence') (p.afterMark ambient tx mark fence fence')

/-- The calls on which the two ledgers agree. A call must not send a running record to manual
recovery. A new reservation must fit the columns of the tables, and its fence the sequence. -/
def Portable (p : Paired) : Call → Prop
  | .reserve intent => p.memory.byIdempotency[intent.key]? = none →
      intent.actionHash.length = 64 ∧ intent.strings.all acceptsText ∧
        p.postgres.fenceSeq + 1 < 2 ^ 63
  | .mark mark fence _ => mark.strings.all acceptsText ∧
      ∀ case, mark = .manualRecovery case →
        ∀ record, p.memory.byExecution[fence.executionId]? = some record →
          record.intent.tenantId = fence.tenantId → record.fenceToken = fence.token →
          record.status ≠ .running

structure Same (record : ExecutionRecord) (row : ExecutionRow) : Prop where
  status : row.status = statusText record.status
  attempt : row.attempt = record.attempt
  externalOperationId : row.externalOperationId = record.externalOperationId
  resultRef : row.resultRef = record.resultRef
  evidenceRef : row.evidenceRef = record.evidenceRef
  lastErrorCode : row.lastErrorCode = record.lastErrorCode
  manualRecovery : row.manualRecovery = record.manualRecovery

/-- Up to the renaming, which is one to one, the ledgers hold the same records, and every call so
far has succeeded on the one exactly if it has on the other. -/
structure Agree (p : Paired) : Prop where
  oneToOne : p.names.Pairwise fun name other => name.1 ≠ other.1 ∧ name.2 ≠ other.2
  record : ∀ (executionId : ExecutionId) record,
    p.memory.byExecution[executionId]? = some record →
    ∃ name ∈ p.names, name.1 = executionId ∧
      ∃ row, p.postgres.executions[name.2]? = some row ∧ Same record row
  row : ∀ (executionId : ExecutionId) row, p.postgres.executions[executionId]? = some row →
    ∃ name ∈ p.names, name.2 = executionId ∧
      ∃ record, p.memory.byExecution[name.1]? = some record ∧ Same record row
  success : ∀ outcome ∈ p.outcomes, outcome.1 = outcome.2

inductive Run (Condition : Paired → Call → Prop) : Paired → Prop where
  | start : Run Condition start
  | step {p p' : Paired} {call : Call} (run : Run Condition p) (holds : Condition p call)
      (next : p.Step call p') : Run Condition p'

-- The simulation

structure Matched (record : ExecutionRecord) (row : ExecutionRow) : Prop where
  same : Same record row
  tenant : row.tenantId.toStr = record.intent.tenantId
  key : row.idempotencyKey = record.intent.idempotencyKey
  hash : row.actionHash = record.intent.actionHash
  tokenPos : 0 ≤ row.fenceToken
  tokenLt : row.fenceToken < 2 ^ 63
  recordOk : RecordOk record
  unstarted : record.status = .prepared → record.externalOperationId = none

structure Corresponds (p : Paired) : Prop where
  oneToOne : p.names.Pairwise fun name other => name.1 ≠ other.1 ∧ name.2 ≠ other.2
  indexed : p.memory.Indexed p.names.length
  sequence : p.names.length ≤ p.postgres.fenceSeq
  matched : ∀ name ∈ p.names, ∃ record row, p.memory.byExecution[name.1]? = some record ∧
    p.postgres.executions[name.2]? = some row ∧ Matched record row
  named : ∀ (executionId : ExecutionId) record,
    p.memory.byExecution[executionId]? = some record → ∃ name ∈ p.names, name.1 = executionId
  rowNamed : ∀ (executionId : ExecutionId) row,
    p.postgres.executions[executionId]? = some row →
    row.executionId.toStr = executionId ∧ ∃ name ∈ p.names, name.2 = executionId
  keys : ∀ entry ∈ p.postgres.idempotencyRecords,
    ∃ (executionId : ExecutionId) (row : ExecutionRow),
      p.postgres.executions[executionId]? = some row ∧ row.tenantId = entry.tenantId ∧
        row.idempotencyKey = entry.idempotencyKey
  success : ∀ outcome ∈ p.outcomes, outcome.1 = outcome.2

theorem Corresponds.agree {p : Paired} (h : Corresponds p) : Agree p where
  oneToOne := h.oneToOne
  success := h.success
  record executionId record hrecord := by
    obtain ⟨name, hname, rfl⟩ := h.named executionId record hrecord
    obtain ⟨record', row, hrecord', hrow, hmatched⟩ := h.matched name hname
    obtain rfl : record' = record := by simpa [hrecord] using hrecord'.symm
    exact ⟨name, hname, rfl, row, hrow, hmatched.same⟩
  row executionId row hrow := by
    obtain ⟨-, name, hname, rfl⟩ := h.rowNamed executionId row hrow
    obtain ⟨record, row', hrecord, hrow', hmatched⟩ := h.matched name hname
    obtain rfl : row' = row := by simpa [hrow] using hrow'.symm
    exact ⟨name, hname, rfl, record, hrecord, hmatched.same⟩

theorem corresponds_start : Corresponds start := by
  constructor <;> simp [start, Database.empty, InMemoryExecutionLedger.default]
  exact InMemoryExecutionLedger.indexed_default

end Paired

namespace Mark

def allowed : Mark → List ExecutionStatus
  | .started _ => [.prepared]
  | .succeeded .. => [.running, .unknown]
  | .failed _ => [.prepared, .running]
  | .unknown _ => [.running]
  | .manualRecovery _ => [.running, .unknown, .compensationFailed]

def next : Mark → ExecutionStatus
  | .started _ => .running
  | .succeeded .. => .succeeded
  | .failed _ => .failed
  | .unknown _ | .manualRecovery _ => .unknown

def update : Mark → ExecutionRecord → ExecutionRecord
  | .started operation, record =>
    { record with attempt := (record.attempt + 1) % 2 ^ 32, externalOperationId := operation }
  | .succeeded result evidence, record =>
    { record with resultRef := some result, evidenceRef := some evidence }
  | .failed error, record => { record with lastErrorCode := some error }
  | .unknown error, record => { record with lastErrorCode := some error }
  | .manualRecovery case, record => { record with manualRecovery := some case }

def onRecord (now : DateTime) (mark : Mark) (record : ExecutionRecord) : ExecutionRecord :=
  mark.update { record with status := mark.next, updatedAt := now }

def onRow (now : DateTime) : Mark → ExecutionRow → ExecutionRow
  | .started operation, row =>
    { row with
      status := "RUNNING", updatedAt := now, attempt := row.attempt + 1
      externalOperationId := operation.or row.externalOperationId }
  | .succeeded result evidence, row =>
    { row with
      status := "SUCCEEDED", updatedAt := now
      resultRef := some result, evidenceRef := some evidence }
  | .failed error, row =>
    { row with status := "FAILED", updatedAt := now, lastErrorCode := some error }
  | .unknown error, row =>
    { row with status := "UNKNOWN", updatedAt := now, lastErrorCode := some error }
  | .manualRecovery case, row => { row with updatedAt := now, manualRecovery := some case }

theorem onMemory_eq (mark : Mark) (ledger : InMemoryExecutionLedger) (ambient : Ambient)
    (fence : ExecutionFence) :
    mark.onMemory ledger ambient fence =
      ledger.transition ambient fence mark.allowed mark.next mark.update := by
  cases mark <;> rfl

theorem onPostgres_eq (mark : Mark) (db : Database) (tx : Transaction) (fence : ExecutionFence) :
    ∃ eventType payload, mark.onPostgres db tx fence =
      db.fencedUpdate tx fence mark.strings (mark.allowed.map statusText) (mark.onRow tx.now)
        eventType payload := by
  cases mark with
  | started operation =>
    refine ⟨"EXECUTION_RUNNING", .transition "RUNNING" operation none none none, ?_⟩
    simp only [onPostgres, Database.markStarted, Database.pgTransition, Option.toList_none,
      List.append_nil]
    rfl
  | succeeded result evidence => exact ⟨_, _, rfl⟩
  | failed error => exact ⟨_, _, rfl⟩
  | unknown error => exact ⟨_, _, rfl⟩
  | manualRecovery case => exact ⟨_, _, rfl⟩

theorem move_onRecord {mark : Mark} {record : ExecutionRecord} (now : DateTime)
    (h : record.status ∈ mark.allowed) : Move record (mark.onRecord now record) := by
  cases mark with
  | started operation => exact .started now operation (by simpa [allowed] using h)
  | succeeded result evidence => exact .succeeded now result evidence (by simpa [allowed] using h)
  | failed error => exact .failed now error (by simpa [allowed] using h)
  | unknown error => exact .unknown now error (by simpa [allowed] using h)
  | manualRecovery case => exact .manualRecovery now case (by simpa [allowed] using h)

end Mark

namespace Paired

variable {p : Paired}

theorem eq_asI64_iff {token : Nat} {fenceToken : Int} (hword : token < 2 ^ 64)
    (hpos : 0 ≤ fenceToken) (hlt : fenceToken < 2 ^ 63) :
    fenceToken = asI64 token ↔ token = asU64 fenceToken := by
  unfold asI64 asU64
  split_ifs <;> omega

/-- A call that is allowed on both sides takes matching entries to matching entries, unless it
sends a running record to manual recovery. -/
theorem Matched.mark {record : ExecutionRecord} {row : ExecutionRow} (h : Matched record row)
    {mark : Mark} (now now' : DateTime) (hstatus : record.status ∈ mark.allowed)
    (hrecovery : ∀ case, mark = .manualRecovery case → record.status ≠ .running) :
    Matched (mark.onRecord now record) (mark.onRow now' row) := by
  have hmove := mark.move_onRecord now hstatus
  have hok : RecordOk (mark.onRecord now record) := (RecordStep.moved hmove).recordOk h.recordOk
  obtain ⟨⟨hs, ha, he, hr, hv, hl, hm⟩, htenant, hkey, hhash, hpos, hlt, hrok, hunstarted⟩ := h
  cases mark with
  | started operation =>
    have hprepared : record.status = .prepared := by simpa [Mark.allowed] using hstatus
    have hzero := hrok.unstarted hprepared
    have hnone := hunstarted hprepared
    refine ⟨⟨rfl, ?_, ?_, hr, hv, hl, hm⟩, htenant, hkey, hhash, hpos, hlt, hok, ?_⟩
    · simp [Mark.onRecord, Mark.onRow, Mark.update, ha, hzero]
    · simp [Mark.onRecord, Mark.onRow, Mark.update, he, hnone]
    · simp [Mark.onRecord, Mark.update, Mark.next]
  | succeeded result evidence =>
    exact ⟨⟨rfl, ha, he, rfl, rfl, hl, hm⟩, htenant, hkey, hhash, hpos, hlt, hok,
      by simp [Mark.onRecord, Mark.update, Mark.next]⟩
  | failed error =>
    exact ⟨⟨rfl, ha, he, hr, hv, rfl, hm⟩, htenant, hkey, hhash, hpos, hlt, hok,
      by simp [Mark.onRecord, Mark.update, Mark.next]⟩
  | unknown error =>
    exact ⟨⟨rfl, ha, he, hr, hv, rfl, hm⟩, htenant, hkey, hhash, hpos, hlt, hok,
      by simp [Mark.onRecord, Mark.update, Mark.next]⟩
  | manualRecovery case =>
    -- what is left is a record that was unknown already
    have hunknown : record.status = .unknown := by
      have hnot : record.status ≠ .compensationFailed := by
        intro h
        simpa [h] using hrok.status
      have hnot' := hrecovery case rfl
      simpa [Mark.allowed, hnot, hnot'] using hstatus
    refine ⟨⟨?_, ha, he, hr, hv, hl, rfl⟩, htenant, hkey, hhash, hpos, hlt, hok,
      by simp [Mark.onRecord, Mark.update, Mark.next]⟩
    simp [Mark.onRow, Mark.onRecord, Mark.update, Mark.next, hs, hunknown]

theorem Matched.addressed {record : ExecutionRecord} {row : ExecutionRow}
    (h : Matched record row) {fence fence' : ExecutionFence} (allowed : List ExecutionStatus)
    (htenant : fence.tenantId = fence'.tenantId) (hword : fence'.token < 2 ^ 64)
    (htoken : fence.token = record.fenceToken ↔ fence'.token = asU64 row.fenceToken) :
    (record.intent.tenantId = fence.tenantId ∧ record.fenceToken = fence.token ∧
      record.status ∈ allowed) ↔
    (row.tenantId.toStr = fence'.tenantId ∧ row.fenceToken = asI64 fence'.token ∧
      row.status ∈ allowed.map statusText) := by
  have hstatus : row.status ∈ allowed.map statusText ↔ record.status ∈ allowed := by
    rw [h.same.status, List.mem_map]
    constructor
    · rintro ⟨status, hmem, heq⟩
      rwa [← statusText_injective heq]
    · intro hmem
      exact ⟨_, hmem, rfl⟩
  rw [hstatus, h.tenant, htenant, eq_asI64_iff hword h.tokenPos h.tokenLt, ← htoken,
    @eq_comm _ fence.token]

theorem Corresponds.unchanged (h : Corresponds p) (success : Bool) :
    Corresponds { p with outcomes := p.outcomes ++ [(success, success)] } where
  oneToOne := h.oneToOne
  indexed := h.indexed
  sequence := h.sequence
  matched := h.matched
  named := h.named
  rowNamed := h.rowNamed
  keys := h.keys
  success outcome hmem := by
    rcases List.mem_append.mp hmem with hmem | hmem
    · exact h.success outcome hmem
    · rw [List.mem_singleton.mp hmem]

theorem Corresponds.store (h : Corresponds p) {name : ExecutionId × ExecutionId}
    (hnames : ∀ other ∈ p.names, name.1 = other.1 ↔ name.2 = other.2)
    {record record' : ExecutionRecord} {row row' : ExecutionRow} {event : OutboxEvent}
    {outbox : List OutboxRow} (hrecord : p.memory.byExecution[name.1]? = some record)
    (hrow : p.postgres.executions[name.2]? = some row) (hmove : Move record record')
    (hid : row'.executionId = row.executionId) (htenant : row'.tenantId = row.tenantId)
    (hkey : row'.idempotencyKey = row.idempotencyKey) (hmatched : Matched record' row') :
    Corresponds
      { memory := p.memory.put name.1 record' event
        postgres :=
          { p.postgres with
            executions := p.postgres.executions.insert name.2 row', outbox := outbox }
        names := p.names
        outcomes := p.outcomes ++ [(true, true)] } where
  oneToOne := h.oneToOne
  indexed := h.indexed.put hrecord hmove
  sequence := h.sequence
  matched other hother := by
    by_cases hsame : name.1 = other.1
    · have hsame' := (hnames other hother).mp hsame
      exact ⟨record', row', by simp [hsame], by simp [hsame'], hmatched⟩
    · have hsame' : name.2 ≠ other.2 := fun heq => hsame ((hnames other hother).mpr heq)
      simpa [hsame, hsame'] using h.matched other hother
  named executionId found hfound := by
    by_cases hsame : name.1 = executionId
    · rw [← hsame]
      exact h.named name.1 record hrecord
    · exact h.named executionId found (by simpa [hsame] using hfound)
  rowNamed executionId found hfound := by
    by_cases hsame : name.2 = executionId
    · subst hsame
      obtain rfl := by simpa using hfound
      rw [hid]
      exact h.rowNamed name.2 row hrow
    · exact h.rowNamed executionId found (by simpa [hsame] using hfound)
  keys entry hentry := by
    obtain ⟨executionId, found, hfound, htenant', hkey'⟩ := h.keys entry hentry
    by_cases hsame : name.2 = executionId
    · subst hsame
      obtain rfl : row = found := by simpa [hrow] using hfound
      exact ⟨name.2, row', by simp, htenant.trans htenant', hkey.trans hkey'⟩
    · exact ⟨executionId, found, by simpa [hsame] using hfound, htenant', hkey'⟩
  success outcome hmem := by
    rcases List.mem_append.mp hmem with hmem | hmem
    · exact h.success outcome hmem
    · rw [List.mem_singleton.mp hmem]

/-- Both ledgers after a `mark` call that finds its entry on both sides. -/
theorem afterMark_both {mark : Mark} {fence fence' : ExecutionFence} (ambient : Ambient)
    (tx : Transaction) (hfresh : p.FreshTx tx) (htenant : Canonical fence.tenantId)
    (hsame : fence.tenantId = fence'.tenantId) (hexecution : Canonical fence'.executionId)
    (htexts : mark.strings.all acceptsText) {record : ExecutionRecord} {row : ExecutionRow}
    (hrecord : p.memory.byExecution[fence.executionId]? = some record)
    (htenantEq : record.intent.tenantId = fence.tenantId)
    (htokenEq : record.fenceToken = fence.token) (hstatus : record.status ∈ mark.allowed)
    (hrow : p.postgres.executions[fence'.executionId]? = some row)
    (hrtenant : row.tenantId.toStr = fence'.tenantId)
    (hrtoken : row.fenceToken = asI64 fence'.token)
    (hrstatus : row.status ∈ mark.allowed.map statusText) :
    ∃ event, event.eventId = tx.eventUuid ∧ p.afterMark ambient tx mark fence fence' =
      { memory := p.memory.put fence.executionId (mark.onRecord ambient.now record)
          (InMemoryExecutionLedger.transitionEvent ambient fence.executionId mark.next)
        postgres :=
          { p.postgres with
            executions := p.postgres.executions.insert fence'.executionId (mark.onRow tx.now row)
            outbox := p.postgres.outbox ++ [event] }
        names := p.names
        outcomes := p.outcomes ++ [(true, true)] } := by
  obtain ⟨eventType, payload, hpostgres⟩ := mark.onPostgres_eq p.postgres tx fence'
  obtain ⟨hnone, -⟩ | ⟨record', hrecord', -, -, -, hmemory⟩ :=
    p.memory.transition_cases ambient fence mark.allowed mark.next mark.update
  · exact absurd hstatus (hnone record hrecord htenantEq htokenEq)
  obtain ⟨hnone, -⟩ | ⟨row', event, hrow', -, -, -, hevent, hsucceeds⟩ :=
    p.postgres.fencedUpdate_cases tx (mark.allowed.map statusText) (mark.onRow tx.now) eventType
      payload hexecution (hsame ▸ htenant) htexts hfresh.2
  · exact absurd hrstatus (hnone row hrow hrtenant hrtoken)
  obtain rfl : record' = record := by simpa [hrecord] using hrecord'.symm
  obtain rfl : row' = row := by simpa [hrow] using hrow'.symm
  refine ⟨event, hevent, ?_⟩
  simp [afterMark, mark.onMemory_eq, hmemory, hpostgres, hsucceeds, Except.isOk, Except.toBool,
    Mark.onRecord]

/-- **One `mark` call**: a portable call keeps the ledgers in step. -/
theorem Corresponds.mark (h : Corresponds p) {mark : Mark} {fence fence' : ExecutionFence}
    (ambient : Ambient) (tx : Transaction) (hfresh : p.FreshTx tx)
    (hsame : p.SameFence fence fence') (htenant : Canonical fence.tenantId)
    (hexecution : Canonical fence'.executionId) (hword : fence'.token < 2 ^ 64)
    (hportable : p.Portable (.mark mark fence fence')) :
    Corresponds (p.afterMark ambient tx mark fence fence') := by
  obtain ⟨htexts, hrecovery⟩ := hportable
  obtain ⟨eventType, payload, hpostgres⟩ := mark.onPostgres_eq p.postgres tx fence'
  -- an entry that one side addresses is addressed by the other
  have haddressed : ∀ name ∈ p.names, fence.executionId = name.1 → ∀ record row,
      p.memory.byExecution[name.1]? = some record → p.postgres.executions[name.2]? = some row →
      Matched record row →
      ((record.intent.tenantId = fence.tenantId ∧ record.fenceToken = fence.token ∧
        record.status ∈ mark.allowed) ↔
      (row.tenantId.toStr = fence'.tenantId ∧ row.fenceToken = asI64 fence'.token ∧
        row.status ∈ mark.allowed.map statusText)) := by
    intro name hname hid record row hrecord hrow hmatched
    exact hmatched.addressed mark.allowed hsame.1 hword
      ((hsame.2 name hname).2 hid record row hrecord hrow)
  obtain ⟨hnone, e, hmemory⟩ | ⟨record, hrecord, htenantEq, htokenEq, hstatus, hmemory⟩ :=
    p.memory.transition_cases ambient fence mark.allowed mark.next mark.update
  · -- the record is not there to be moved, and neither is its row
    obtain ⟨-, e', hfails⟩ | ⟨row, event, hrow, hrtenant, hrtoken, hrstatus, -⟩ :=
      p.postgres.fencedUpdate_cases tx (mark.allowed.map statusText) (mark.onRow tx.now) eventType
        payload hexecution (hsame.1 ▸ htenant) htexts hfresh.2
    · have hafter : p.afterMark ambient tx mark fence fence' =
          { p with outcomes := p.outcomes ++ [(false, false)] } := by
        simp [afterMark, mark.onMemory_eq, hmemory, hpostgres, hfails, Except.isOk, Except.toBool]
      rw [hafter]
      exact h.unchanged false
    · exfalso
      obtain ⟨-, name, hname, hname'⟩ := h.rowNamed _ row hrow
      have hid : fence.executionId = name.1 := ((hsame.2 name hname).1).mpr hname'.symm
      obtain ⟨record, row', hrecord, hrow', hmatched⟩ := h.matched name hname
      obtain rfl : row' = row := by
        rw [hname', hrow] at hrow'
        exact (Option.some.inj hrow').symm
      obtain ⟨h1, h2, h3⟩ := (haddressed name hname hid record row' hrecord hrow' hmatched).mpr
        ⟨hrtenant, hrtoken, hrstatus⟩
      exact hnone record (hid ▸ hrecord) h1 h2 h3
  · obtain ⟨name, hname, hname'⟩ := h.named _ record hrecord
    have hid' : fence'.executionId = name.2 := ((hsame.2 name hname).1).mp hname'.symm
    obtain ⟨record', row, hrecord', hrow, hmatched⟩ := h.matched name hname
    obtain rfl : record' = record := by
      rw [hname', hrecord] at hrecord'
      exact (Option.some.inj hrecord').symm
    obtain ⟨hrtenant, hrtoken, hrstatus⟩ :=
      (haddressed name hname hname'.symm record' row hrecord' hrow hmatched).mp
        ⟨htenantEq, htokenEq, hstatus⟩
    obtain ⟨event, -, hafter⟩ := afterMark_both ambient tx hfresh htenant hsame.1 hexecution htexts
      hrecord htenantEq htokenEq hstatus (hid' ▸ hrow) hrtenant hrtoken hrstatus
    rw [hid', ← hname'] at hafter
    rw [hafter]
    refine h.store ?_ hrecord' hrow (mark.move_onRecord ambient.now hstatus) ?_ ?_ ?_ ?_
    · intro other hother
      rw [← hid', hname']
      exact (hsame.2 other hother).1
    · cases mark <;> rfl
    · cases mark <;> rfl
    · cases mark <;> rfl
    · refine hmatched.mark _ _ hstatus fun case hcase => ?_
      exact hrecovery case hcase record' hrecord htenantEq htokenEq

theorem Corresponds.row_of_key (h : Corresponds p) {intent : ExecutionIntent} {tenantId : Uuid}
    (htenant : tenantId.toStr = intent.tenantId) {executionId : ExecutionId} {row : ExecutionRow}
    (hrow : p.postgres.executions[executionId]? = some row) (hrtenant : row.tenantId = tenantId)
    (hrkey : row.idempotencyKey = intent.idempotencyKey) :
    ∃ name ∈ p.names, name.2 = executionId ∧
      p.memory.byIdempotency[intent.key]? = some name.1 ∧
      ∃ record, p.memory.byExecution[name.1]? = some record ∧ Matched record row := by
  obtain ⟨-, name, hname, rfl⟩ := h.rowNamed executionId row hrow
  obtain ⟨record, row', hrecord, hrow', hmatched⟩ := h.matched name hname
  obtain rfl : row' = row := by simpa [hrow] using hrow'.symm
  have hkey : record.key = intent.key := by
    refine Prod.ext ?_ ?_
    · exact hmatched.tenant.symm.trans ((congrArg Uuid.toStr hrtenant).trans htenant)
    · exact hmatched.key.symm.trans hrkey
  exact ⟨name, hname, rfl, hkey ▸ h.indexed.key_of_record hrecord, record, hrecord, hmatched⟩

theorem matched_prepared (ledger : InMemoryExecutionLedger) (ambient : Ambient)
    (tx : Transaction) {intent : ExecutionIntent} {tenantId : Uuid} (taskId stepId : Uuid)
    {fenceToken : Nat} (htenant : tenantId.toStr = intent.tenantId)
    (htoken : fenceToken < 2 ^ 63) :
    Matched (ledger.preparedRecord ambient intent)
      (Database.preparedRow tx intent tenantId taskId stepId fenceToken) where
  same := ⟨rfl, rfl, rfl, rfl, rfl, rfl, rfl⟩
  tenant := htenant
  key := rfl
  hash := rfl
  tokenPos := Int.natCast_nonneg fenceToken
  tokenLt := by
    simp only [Database.preparedRow]
    omega
  recordOk := recordOk_prepared _ _ _
  unstarted _ := rfl

theorem Corresponds.insert (h : Corresponds p) {ambient : Ambient} {tx : Transaction}
    {intent : ExecutionIntent} {tenantId taskId stepId : Uuid} {outbox : List OutboxRow}
    (hfresh : ambient.Fresh p.memory) (hfreshTx : p.FreshTx tx)
    (htenant : tenantId.toStr = intent.tenantId)
    (habsent : p.memory.byIdempotency[intent.key]? = none)
    (hsequence : p.postgres.fenceSeq + 1 < 2 ^ 63) :
    Corresponds
      { memory := p.memory.insertPrepared ambient intent
        postgres :=
          { executions := p.postgres.executions.insert tx.executionUuid.toStr
              (Database.preparedRow tx intent tenantId taskId stepId (p.postgres.fenceSeq + 1))
            idempotencyRecords := p.postgres.idempotencyRecords ++
              [⟨tenantId, intent.idempotencyKey, intent.actionHash, tx.executionUuid⟩]
            outbox := outbox
            fenceSeq := p.postgres.fenceSeq + 1 }
        names := p.names ++ [(ambient.executionUuid.toStr, tx.executionUuid.toStr)]
        outcomes := p.outcomes ++ [(true, true)] } := by
  have hlength := h.sequence
  -- the new name is new on both sides
  have hnew : ∀ name ∈ p.names, name.1 ≠ ambient.executionUuid.toStr ∧
      name.2 ≠ tx.executionUuid.toStr := by
    intro name hname
    obtain ⟨record, row, hrecord, hrow, -⟩ := h.matched name hname
    constructor
    · intro heq
      rw [Ambient.Fresh, ← heq, hrecord] at hfresh
      cases hfresh
    · intro heq
      rw [FreshTx, ← heq, hrow] at hfreshTx
      cases hfreshTx.1
  have hmatched := matched_prepared p.memory ambient tx taskId stepId htenant hsequence
  refine ⟨?_, ?_, ?_, ?_, ?_, ?_, ?_, ?_⟩
  · rw [List.pairwise_append]
    refine ⟨h.oneToOne, List.pairwise_singleton _ _, ?_⟩
    rintro name hname other hother
    rw [List.mem_singleton.mp hother]
    exact hnew name hname
  · simp only [List.length_append, List.length_singleton]
    exact h.indexed.insertPrepared hfresh habsent (by omega)
  · simp only [List.length_append, List.length_singleton]
    omega
  · intro name hname
    rcases List.mem_append.mp hname with hname | hname
    · obtain ⟨hne, hne'⟩ := hnew name hname
      simpa [hne.symm, hne'.symm] using h.matched name hname
    · rw [List.mem_singleton.mp hname]
      exact ⟨_, _, by simp, by simp, hmatched⟩
  · intro executionId record hrecord
    by_cases hid : ambient.executionUuid.toStr = executionId
    · exact ⟨_, List.mem_append_right _ (List.mem_singleton_self _), hid⟩
    · obtain ⟨name, hname, hname'⟩ := h.named executionId record (by simpa [hid] using hrecord)
      exact ⟨name, List.mem_append_left _ hname, hname'⟩
  · intro executionId row hrow
    by_cases hid : tx.executionUuid.toStr = executionId
    · subst hid
      obtain rfl := by simpa using hrow
      exact ⟨rfl, _, List.mem_append_right _ (List.mem_singleton_self _), rfl⟩
    · obtain ⟨hself, name, hname, hname'⟩ :=
        h.rowNamed executionId row (by simpa [hid] using hrow)
      exact ⟨hself, name, List.mem_append_left _ hname, hname'⟩
  · intro entry hentry
    rcases List.mem_append.mp hentry with hentry | hentry
    · obtain ⟨executionId, row, hrow, hrest⟩ := h.keys entry hentry
      have hid : tx.executionUuid.toStr ≠ executionId := by
        rintro rfl
        rw [FreshTx, hrow] at hfreshTx
        cases hfreshTx.1
      exact ⟨executionId, row, by simpa [hid] using hrow, hrest⟩
    · rw [List.mem_singleton.mp hentry]
      exact ⟨tx.executionUuid.toStr,
        Database.preparedRow tx intent tenantId taskId stepId (p.postgres.fenceSeq + 1),
        by simp, rfl, rfl⟩
  · intro outcome hmem
    rcases List.mem_append.mp hmem with hmem | hmem
    · exact h.success outcome hmem
    · rw [List.mem_singleton.mp hmem]

theorem afterReserve_new {intent : ExecutionIntent} (ambient : Ambient) (tx : Transaction)
    (hfreshTx : p.FreshTx tx) {tenantId taskId stepId : Uuid}
    (htenant : tenantId.toStr = intent.tenantId) (htask : taskId.toStr = intent.taskId)
    (hstep : stepId.toStr = intent.stepId) (hvalid : validateIntent intent = .ok ())
    (habsent : p.memory.byIdempotency[intent.key]? = none)
    (hnone : ∀ (executionId : String) (row : ExecutionRow),
      p.postgres.executions[executionId]? = some row →
      ¬(row.tenantId = tenantId ∧ row.idempotencyKey = intent.idempotencyKey))
    (hrecords : ∀ entry ∈ p.postgres.idempotencyRecords,
      ¬(entry.tenantId = tenantId ∧ entry.idempotencyKey = intent.idempotencyKey))
    (hfits : intent.actionHash.length = 64 ∧ intent.strings.all acceptsText ∧
      p.postgres.fenceSeq + 1 < 2 ^ 63) :
    ∃ event, event.eventId = tx.eventUuid ∧ p.afterReserve ambient tx intent =
      { memory := p.memory.insertPrepared ambient intent
        postgres :=
          { executions := p.postgres.executions.insert tx.executionUuid.toStr
              (Database.preparedRow tx intent tenantId taskId stepId (p.postgres.fenceSeq + 1))
            idempotencyRecords := p.postgres.idempotencyRecords ++
              [⟨tenantId, intent.idempotencyKey, intent.actionHash, tx.executionUuid⟩]
            outbox := p.postgres.outbox ++ [event]
            fenceSeq := p.postgres.fenceSeq + 1 }
        names := p.names ++ [(ambient.executionUuid.toStr, tx.executionUuid.toStr)]
        outcomes := p.outcomes ++ [(true, true)] } := by
  obtain ⟨hlength, htexts, hsequence⟩ := hfits
  have hparse : Uuid.parseStr intent.tenantId = some tenantId := by
    rw [← htenant, Uuid.parseStr_toStr]
  have hparse' : Uuid.parseStr intent.taskId = some taskId := by
    rw [← htask, Uuid.parseStr_toStr]
  have hparse'' : Uuid.parseStr intent.stepId = some stepId := by
    rw [← hstep, Uuid.parseStr_toStr]
  have hmissing : p.postgres.selectByKey intent.tenantId tenantId intent.idempotencyKey = none := by
    rw [← htenant]
    obtain ⟨executionId, row, hrow, hrtenant, hrkey, -⟩ | ⟨-, hmissing⟩ :=
      p.postgres.selectByKey_cases tenantId intent.idempotencyKey
    · exact absurd ⟨hrtenant, hrkey⟩ (hnone executionId row hrow)
    · exact hmissing
  obtain ⟨event, hevent, hinsert⟩ := Database.insertReservation_fresh
    { p.postgres with fenceSeq := p.postgres.fenceSeq + 1 } tx taskId stepId
    (p.postgres.fenceSeq + 1) htenant hvalid hlength htexts hfreshTx.1 hnone hrecords hfreshTx.2
  have hnext : p.postgres.nextval = some (p.postgres.fenceSeq + 1) := if_pos hsequence
  refine ⟨event, hevent, ?_⟩
  simp [afterReserve, InMemoryExecutionLedger.reserve, Database.reserve, hvalid, hparse,
    hparse', hparse'', hmissing, habsent, hnext, hinsert, created,
    InMemoryExecutionLedger.reservationOf, Except.isOk, Except.toBool]

/-- **One `reserve` call**: a portable call keeps the ledgers in step. -/
theorem Corresponds.reserve (h : Corresponds p) {intent : ExecutionIntent} (ambient : Ambient)
    (tx : Transaction) (hfresh : ambient.Fresh p.memory) (hfreshTx : p.FreshTx tx)
    (htenant : Canonical intent.tenantId) (htask : Canonical intent.taskId)
    (hstep : Canonical intent.stepId) (hportable : p.Portable (.reserve intent)) :
    Corresponds (p.afterReserve ambient tx intent) := by
  obtain ⟨tenantId, htenant⟩ := htenant
  obtain ⟨taskId, htask⟩ := htask
  obtain ⟨stepId, hstep⟩ := hstep
  have hparse : Uuid.parseStr intent.tenantId = some tenantId := by
    rw [← htenant, Uuid.parseStr_toStr]
  have hparse' : Uuid.parseStr intent.taskId = some taskId := by
    rw [← htask, Uuid.parseStr_toStr]
  have hparse'' : Uuid.parseStr intent.stepId = some stepId := by
    rw [← hstep, Uuid.parseStr_toStr]
  have hselect := p.postgres.selectByKey_cases tenantId intent.idempotencyKey
  rw [htenant] at hselect
  cases hvalid : validateIntent intent with
  | error e =>
    have hafter : p.afterReserve ambient tx intent =
        { p with outcomes := p.outcomes ++ [(false, false)] } := by
      simp [afterReserve, InMemoryExecutionLedger.reserve, Database.reserve, hvalid, created,
        Except.isOk, Except.toBool]
    rw [hafter]
    exact h.unchanged false
  | ok =>
    obtain ⟨executionId, row, hrow, hrtenant, hrkey, hfound⟩ | ⟨hnone, hmissing⟩ := hselect
    · -- the key is taken, on both sides by the same action
      obtain ⟨name, hname, -, hindex, record, hrecord, hmatched⟩ :=
        h.row_of_key htenant hrow hrtenant hrkey
      have hstatus : parseStatus row.status = .ok record.status := by
        rw [hmatched.same.status, parseStatus_statusText]
      have hhash := hmatched.hash
      by_cases hsame : record.intent.actionHash = intent.actionHash
      · have hafter : p.afterReserve ambient tx intent =
            { p with outcomes := p.outcomes ++ [(true, true)] } := by
          simp [afterReserve, InMemoryExecutionLedger.reserve, Database.reserve, hvalid, hparse,
            hparse', hparse'', hfound, hindex, hrecord, hhash, hsame, hstatus, created,
            InMemoryExecutionLedger.reservationOf, Except.isOk, Except.toBool]
        rw [hafter]
        exact h.unchanged true
      · have hafter : p.afterReserve ambient tx intent =
            { p with outcomes := p.outcomes ++ [(false, false)] } := by
          simp [afterReserve, InMemoryExecutionLedger.reserve, Database.reserve, hvalid, hparse,
            hparse', hparse'', hfound, hindex, hrecord, hhash, hsame, created, Except.isOk,
            Except.toBool]
        rw [hafter]
        exact h.unchanged false
    · have habsent : p.memory.byIdempotency[intent.key]? = none := by
        cases hindex : p.memory.byIdempotency[intent.key]? with
        | none => rfl
        | some executionId =>
          obtain ⟨record, hrecord, hkey⟩ := h.indexed.record_of_key hindex
          obtain ⟨name, hname, rfl⟩ := h.named executionId record hrecord
          obtain ⟨record', row, hrecord', hrow, hmatched⟩ := h.matched name hname
          obtain rfl : record' = record := by simpa [hrecord] using hrecord'.symm
          refine absurd ⟨?_, ?_⟩ (hnone name.2 row hrow)
          · refine Uuid.toStr_injective (hmatched.tenant.trans ?_)
            exact (congrArg Prod.fst hkey).trans htenant.symm
          · exact hmatched.key.trans (congrArg Prod.snd hkey)
      obtain ⟨hlength, htexts, hsequence⟩ := hportable habsent
      have hrecords : ∀ entry ∈ p.postgres.idempotencyRecords,
          ¬(entry.tenantId = tenantId ∧ entry.idempotencyKey = intent.idempotencyKey) := by
        rintro entry hentry ⟨htenantEq, hkeyEq⟩
        obtain ⟨executionId, row, hrow, hrtenant, hrkey⟩ := h.keys entry hentry
        exact hnone executionId row hrow ⟨hrtenant.trans htenantEq, hrkey.trans hkeyEq⟩
      obtain ⟨event, -, hafter⟩ := afterReserve_new ambient tx hfreshTx htenant htask hstep hvalid
        habsent hnone hrecords ⟨hlength, htexts, hsequence⟩
      rw [hafter]
      exact h.insert hfresh hfreshTx htenant habsent hsequence

/-- **The two ledgers agree** in every run in which no running record is sent to manual recovery
and every new reservation fits the tables. -/
theorem ledgers_agree (hrun : Run Portable p) : Agree p := by
  have hcorresponds : Corresponds p := by
    induction hrun with
    | start => exact corresponds_start
    | step run portable next ih =>
      cases next with
      | reserve ambient tx intent fresh freshTx tenant task step =>
        exact ih.reserve ambient tx fresh freshTx tenant task step portable
      | mark ambient tx mark fence fence' freshTx same tenant execution token =>
        exact ih.mark ambient tx freshTx same tenant execution token portable
  exact hcorresponds.agree

-- Two sample runs

def sampleTx (d : Fin 16) (now : DateTime) : Transaction where
  now := now
  executionUuid := sampleUuid d
  eventUuid := sampleUuid d

def sampleFence' : ExecutionFence where
  tenantId := (sampleUuid 1).toStr
  executionId := (sampleUuid 7).toStr
  token := 1

def sampleCase : ManualRecoveryCase where
  caseId := (sampleUuid 5).toStr
  impactScope := "coding.run-tests"
  lastKnownState := "Running"
  recommendedActions := ["inspect the runner"]
  evidenceRefs := []
  openedAt := 3

def bothReserved : Paired :=
  start.afterReserve (sampleAmbient 10 0) (sampleTx 7 0) sampleIntent

def bothStarted : Paired :=
  bothReserved.afterMark (sampleAmbient 11 1) (sampleTx 8 1) (.started none) sampleFence
    sampleFence'

def bothRecovered : Paired :=
  bothStarted.afterMark (sampleAmbient 12 2) (sampleTx 9 2) (.manualRecovery sampleCase)
    sampleFence sampleFence'

theorem sampleIntent_fits : sampleIntent.actionHash.length = 64 ∧
    sampleIntent.strings.all acceptsText ∧ start.postgres.fenceSeq + 1 < 2 ^ 63 := by
  decide

def sampleRecord : ExecutionRecord :=
  InMemoryExecutionLedger.default.preparedRecord (sampleAmbient 10 0) sampleIntent

def sampleRow : ExecutionRow :=
  Database.preparedRow (sampleTx 7 0) sampleIntent (sampleUuid 1) (sampleUuid 2) (sampleUuid 3) 1

/-- The sample execution is all there is, as a record and as a row, and events were numbered by
the identifiers of `used`. -/
structure Sample (p : Paired) (record : ExecutionRecord) (row : ExecutionRow)
    (used : List (Fin 16)) : Prop where
  names : p.names = [(sampleFence.executionId, sampleFence'.executionId)]
  memory : p.memory.byExecution[sampleFence.executionId]? = some record
  postgres : p.postgres.executions =
    (∅ : BTreeMap String ExecutionRow).insert sampleFence'.executionId row
  events : ∀ event ∈ p.postgres.outbox, ∃ d ∈ used, event.eventId = sampleUuid d

namespace Sample

variable {record : ExecutionRecord} {row : ExecutionRow} {used : List (Fin 16)}

theorem freshTx (h : Sample p record row used) {d : Fin 16} (now : DateTime)
    (hd : d ≠ 7 ∧ d ∉ used) : p.FreshTx (sampleTx d now) := by
  constructor
  · have hne : sampleFence'.executionId ≠ (sampleTx d now).executionUuid.toStr :=
      sampleUuid_toStr_ne hd.1.symm
    rw [h.postgres, BTreeMap.getElem?_insert_ite, if_neg hne]
    rfl
  · intro event hevent heq
    obtain ⟨d', hd', heq'⟩ := h.events event hevent
    have hsame : d' = d := by
      by_contra hne
      exact sampleUuid_toStr_ne hne (congrArg Uuid.toStr (heq'.symm.trans heq))
    exact hd.2 (hsame ▸ hd')

theorem row_found (h : Sample p record row used) :
    p.postgres.executions[sampleFence'.executionId]? = some row := by
  rw [h.postgres, BTreeMap.getElem?_insert_ite, if_pos rfl]

/-- A `mark` call that both sides allow. -/
theorem mark (h : Sample p record row used) (mark : Mark) {d : Fin 16} (ambient : Ambient)
    (now : DateTime) (hd : d ≠ 7 ∧ d ∉ used) (htexts : mark.strings.all acceptsText)
    (hrecord : record.intent.tenantId = sampleFence.tenantId ∧ record.fenceToken = 1 ∧
      record.status ∈ mark.allowed)
    (hrow : row.tenantId = sampleUuid 1 ∧ row.fenceToken = 1 ∧
      row.status ∈ mark.allowed.map statusText) :
    p.Step (.mark mark sampleFence sampleFence')
      (p.afterMark ambient (sampleTx d now) mark sampleFence sampleFence') ∧
    Sample (p.afterMark ambient (sampleTx d now) mark sampleFence sampleFence')
      (mark.onRecord ambient.now record) (mark.onRow now row) (d :: used) := by
  have hfresh := h.freshTx now hd
  obtain ⟨htenant, htoken, hstatus⟩ := hrecord
  obtain ⟨hrtenant, hrtoken, hrstatus⟩ := hrow
  have hsame : p.SameFence sampleFence sampleFence' := by
    refine ⟨rfl, fun name hname => ?_⟩
    rw [h.names, List.mem_singleton] at hname
    subst hname
    refine ⟨by simp, fun _ found found' hfound hfound' => ?_⟩
    rw [h.memory] at hfound
    rw [h.row_found] at hfound'
    cases hfound
    cases hfound'
    simp [sampleFence, sampleFence', htoken, hrtoken, asU64]
  refine ⟨.mark _ _ _ _ _ hfresh hsame ⟨sampleUuid 1, rfl⟩ ⟨sampleUuid 7, rfl⟩ (by decide), ?_⟩
  obtain ⟨event, hevent, hafter⟩ := afterMark_both ambient (sampleTx d now) hfresh
    ⟨sampleUuid 1, rfl⟩ (show sampleFence.tenantId = sampleFence'.tenantId from rfl)
    ⟨sampleUuid 7, rfl⟩ htexts h.memory htenant htoken hstatus h.row_found
    (congrArg Uuid.toStr hrtenant) (by rw [hrtoken]; rfl) hrstatus
  rw [hafter]
  refine ⟨h.names, by simp, ?_, ?_⟩
  · rw [h.postgres]
    refine Std.ExtTreeMap.ext_getElem? fun key => ?_
    by_cases hkey : sampleFence'.executionId = key
    · simp [hkey, sampleTx]
    · simp [hkey]
  · intro other hother
    rcases List.mem_append.mp hother with hother | hother
    · obtain ⟨d', hd', heq⟩ := h.events other hother
      exact ⟨d', List.mem_cons_of_mem _ hd', heq⟩
    · rw [List.mem_singleton.mp hother]
      exact ⟨d, List.mem_cons_self, hevent⟩

end Sample

theorem sample_bothReserved : Sample bothReserved sampleRecord sampleRow [7] := by
  obtain ⟨event, hevent, hafter⟩ := afterReserve_new (p := start) (sampleAmbient 10 0)
    (sampleTx 7 0) ⟨rfl, by simp [start, Database.empty]⟩
    (show (sampleUuid 1).toStr = sampleIntent.tenantId from rfl)
    (show (sampleUuid 2).toStr = sampleIntent.taskId from rfl)
    (show (sampleUuid 3).toStr = sampleIntent.stepId from rfl)
    (by decide) rfl (by simp [start, Database.empty]) (by simp [start, Database.empty])
    sampleIntent_fits
  rw [bothReserved, hafter]
  refine ⟨rfl, by simp [sampleFence, sampleAmbient, sampleRecord, start], rfl, ?_⟩
  simp [start, Database.empty, hevent, sampleTx]

theorem step_bothReserved : start.Step (.reserve sampleIntent) bothReserved :=
  .reserve _ _ _ rfl ⟨rfl, by simp [start, Database.empty]⟩ ⟨sampleUuid 1, rfl⟩
    ⟨sampleUuid 2, rfl⟩ ⟨sampleUuid 3, rfl⟩

theorem sample_bothStarted :
    bothReserved.Step (.mark (.started none) sampleFence sampleFence') bothStarted ∧
    Sample bothStarted (Mark.onRecord 1 (.started none) sampleRecord)
      (Mark.onRow 1 (.started none) sampleRow) [8, 7] :=
  sample_bothReserved.mark (.started none) (sampleAmbient 11 1) 1 (by decide) rfl
    ⟨rfl, rfl, by decide⟩ ⟨rfl, rfl, by decide⟩

theorem sample_bothRecovered :
    bothStarted.Step (.mark (.manualRecovery sampleCase) sampleFence sampleFence')
      bothRecovered ∧
    Sample bothRecovered
      (Mark.onRecord 2 (.manualRecovery sampleCase) (Mark.onRecord 1 (.started none) sampleRecord))
      (Mark.onRow 2 (.manualRecovery sampleCase) (Mark.onRow 1 (.started none) sampleRow))
      [9, 8, 7] :=
  sample_bothStarted.2.mark (.manualRecovery sampleCase) (sampleAmbient 12 2) 2 (by decide)
    (by decide) ⟨rfl, rfl, by decide⟩ ⟨rfl, rfl, by decide⟩

/-- Reserving and starting an execution is portable. -/
theorem ledgers_agree_bothStarted :
    bothStarted.names = [(sampleFence.executionId, sampleFence'.executionId)] ∧
      Agree bothStarted := by
  have hreserve : start.Portable (.reserve sampleIntent) := fun _ => sampleIntent_fits
  have hstart : bothReserved.Portable (.mark (.started none) sampleFence sampleFence') :=
    ⟨rfl, fun case hcase => nomatch hcase⟩
  refine ⟨sample_bothStarted.2.names, ledgers_agree ?_⟩
  exact .step (.step .start hreserve step_bothReserved) hstart sample_bothStarted.1

/-- Sent to manual recovery while it runs, an execution becomes unknown in memory and stays
running in PostgreSQL. -/
theorem manualRecovery_disagrees : ¬ ∀ p, Run (fun _ _ => True) p → Agree p := by
  intro h
  have hrun : Run (fun _ _ => True) bothRecovered :=
    .step (.step (.step .start trivial step_bothReserved) trivial sample_bothStarted.1) trivial
      sample_bothRecovered.1
  have hsample := sample_bothRecovered.2
  obtain ⟨name, hname, -, row, hrow, hsame⟩ := (h _ hrun).record _ _ hsample.memory
  rw [hsample.names, List.mem_singleton] at hname
  rw [hname, hsample.row_found] at hrow
  cases hrow
  exact absurd hsame.status (by decide)

end Paired

end AgentSphere.Ledger
