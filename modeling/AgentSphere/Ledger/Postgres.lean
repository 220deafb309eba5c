import AgentSphere.Ledger.Model

/-!
# The ledger in PostgreSQL

The statements of `PostgresExecutionLedger`, over the tables of the migrations. Each operation
is one transaction: when it fails, every table is as before, and only the fence sequence keeps
the value it handed out. Row security hides the rows of other tenants, `text` and `jsonb` refuse
the character NUL, and `char(64)` pads what is shorter and refuses what is longer.
-/

namespace AgentSphere.Ledger

def statusText : ExecutionStatus → String
  | .prepared => "PREPARED"
  | .running => "RUNNING"
  | .succeeded => "SUCCEEDED"
  | .failed => "FAILED"
  | .timedOut => "TIMED_OUT"
  | .cancelled => "CANCELLED"
  | .killed => "KILLED"
  | .compensating => "COMPENSATING"
  | .compensated => "COMPENSATED"
  | .compensationFailed => "COMPENSATION_FAILED"
  | .unknown => "UNKNOWN"

def parseStatus (value : String) : Except LedgerError ExecutionStatus :=
  match value with
  | "PREPARED" => .ok .prepared
  | "RUNNING" => .ok .running
  | "SUCCEEDED" => .ok .succeeded
  | "FAILED" => .ok .failed
  | "TIMED_OUT" => .ok .timedOut
  | "CANCELLED" => .ok .cancelled
  | "KILLED" => .ok .killed
  | "COMPENSATING" => .ok .compensating
  | "COMPENSATED" => .ok .compensated
  | "COMPENSATION_FAILED" => .ok .compensationFailed
  | "UNKNOWN" => .ok .unknown
  | _ => .error .storeFailure

@[simp] theorem parseStatus_statusText (status : ExecutionStatus) :
    parseStatus (statusText status) = .ok status := by
  cases status <;> rfl

theorem statusText_injective {status status' : ExecutionStatus}
    (h : statusText status = statusText status') : status = status' := by
  have hparse := congrArg parseStatus h
  simpa using hparse

-- Column types

/-- `text` holds every character but NUL. -/
def acceptsText (value : String) : Bool := value.toList.all (· != Char.ofNat 0)

mutual

def Value.strings : Value → List String
  | .string s => [s]
  | .array items => Value.stringsOfItems items
  | .object members => Value.stringsOfMembers members
  | _ => []

def Value.stringsOfItems : List Value → List String
  | [] => []
  | item :: items => Value.strings item ++ Value.stringsOfItems items

def Value.stringsOfMembers : List (String × Value) → List String
  | [] => []
  | (name, member) :: members => name :: Value.strings member ++ Value.stringsOfMembers members

end

def ToolRef.strings (tool : ToolRef) : List String := [tool.toolId, tool.toolVersion]

def CompensationStep.strings (step : CompensationStep) : List String :=
  [step.stepId, step.argumentsHash] ++ ToolRef.strings step.tool ++
    step.requiredCurrentVersion.toList ++
    (step.expectedCurrentValue.map Value.strings).getD []

def CompensationPlan.strings (plan : CompensationPlan) : List String :=
  [plan.planId, plan.forwardActionHash] ++ plan.steps.flatMap CompensationStep.strings

def ExecutionIntent.strings (intent : ExecutionIntent) : List String :=
  [intent.schemaVersion, intent.tenantId, intent.taskId, intent.stepId, intent.actionHash,
    intent.idempotencyKey, intent.canonicalArgumentsHash] ++ ToolRef.strings intent.tool ++
    intent.resourceVersion.toList ++
    (intent.compensationPlan.map CompensationPlan.strings).getD []

def ManualRecoveryCase.strings (case : ManualRecoveryCase) : List String :=
  [case.caseId, case.impactScope, case.lastKnownState] ++ case.recommendedActions ++
    case.evidenceRefs

/-- `char(64)`: shorter values are padded with blanks, longer ones must be blank from there on. -/
def char64 (value : String) : Option String :=
  if value.length ≤ 64 then
    some (value ++ String.ofList (List.replicate (64 - value.length) ' '))
  else if (value.toList.drop 64).all (· == ' ') then
    some (String.ofList (value.toList.take 64))
  else
    none

/-- `as i64` of a 64-bit word. -/
def asI64 (token : Nat) : Int :=
  if token % 2 ^ 64 < 2 ^ 63 then (token % 2 ^ 64 : Nat) else (token % 2 ^ 64 : Nat) - 2 ^ 64

/-- `as u64` of a signed 64-bit integer. -/
def asU64 (token : Int) : Nat := (token % 2 ^ 64).toNat

-- Tables

structure ExecutionRow where
  executionId : Uuid
  tenantId : Uuid
  taskId : Uuid
  stepId : Uuid
  actionHash : String
  idempotencyKey : String
  fenceToken : Int
  status : String
  intent : ExecutionIntent
  attempt : Nat
  externalOperationId : Option String
  resultRef : Option String
  evidenceRef : Option String
  lastErrorCode : Option String
  manualRecovery : Option ManualRecoveryCase
  createdAt : DateTime
  updatedAt : DateTime
  deriving DecidableEq, Repr

structure IdempotencyRow where
  tenantId : Uuid
  idempotencyKey : String
  actionHash : String
  executionId : Uuid
  deriving DecidableEq, Repr

inductive OutboxPayload where
  | reserved
  | transition (status : String)
      (externalOperationId errorCode resultRef evidenceRef : Option String)
  | manualRecovery (case : ManualRecoveryCase)
  deriving DecidableEq, Repr

structure OutboxRow where
  eventId : Uuid
  tenantId : Uuid
  executionId : Uuid
  eventType : String
  payload : OutboxPayload
  createdAt : DateTime
  deriving DecidableEq, Repr

/-- The tables of the ledger; `executions` by its primary key. -/
structure Database where
  executions : BTreeMap String ExecutionRow
  idempotencyRecords : List IdempotencyRow
  outbox : List OutboxRow
  fenceSeq : Nat

structure Transaction where
  now : DateTime
  executionUuid : Uuid
  eventUuid : Uuid

namespace Database

variable (db : Database) (tx : Transaction)

def empty : Database where
  executions := ∅
  idempotencyRecords := []
  outbox := []
  fenceSeq := 0

def visible (appTenantId : String) (tenantId : Uuid) : Bool := tenantId.toStr == appTenantId

/-- `SELECT nextval('execution_fence_seq')`. -/
def nextval : Option Nat := if db.fenceSeq + 1 < 2 ^ 63 then some (db.fenceSeq + 1) else none

/-- `INSERT INTO executions`, with the checks and keys of the table. -/
def insertExecution (appTenantId : String) (row : ExecutionRow) : Option Database := do
  let actionHash ← char64 row.actionHash
  if acceptsText row.actionHash ∧ acceptsText row.idempotencyKey ∧
      row.intent.strings.all acceptsText ∧
      1 ≤ row.idempotencyKey.length ∧ row.idempotencyKey.length ≤ 128 ∧
      visible appTenantId row.tenantId ∧ row.executionId.toStr ∉ db.executions ∧
      (db.executions.toList.all fun other =>
        ¬(other.2.tenantId = row.tenantId ∧ other.2.idempotencyKey = row.idempotencyKey)) then
    some { db with
      executions := db.executions.insert row.executionId.toStr { row with actionHash } }
  else
    none

/-- `INSERT INTO idempotency_records`. -/
def insertIdempotency (appTenantId : String) (row : IdempotencyRow) : Option Database := do
  let actionHash ← char64 row.actionHash
  if visible appTenantId row.tenantId ∧
      (db.idempotencyRecords.all fun other =>
        ¬(other.tenantId = row.tenantId ∧ other.idempotencyKey = row.idempotencyKey)) then
    some { db with
      idempotencyRecords := db.idempotencyRecords ++ [{ row with actionHash }] }
  else
    none

/-- `INSERT INTO execution_outbox`. -/
def insertOutbox (appTenantId : String) (row : OutboxRow) : Option Database :=
  if visible appTenantId row.tenantId ∧ (db.outbox.all fun other => other.eventId ≠ row.eventId)
  then
    some { db with outbox := db.outbox ++ [row] }
  else
    none

/-- `UPDATE executions SET … WHERE tenant_id=$1 AND execution_id=$2 AND fence_token=$3 AND
status = ANY(…)`: the updated table and the number of rows. -/
def updateExecution (appTenantId : String) (tenantId executionId : Uuid) (fenceToken : Int)
    (allowed : List String) (set : ExecutionRow → ExecutionRow) : Nat × Database :=
  match db.executions[executionId.toStr]? with
  | none => (0, db)
  | some row =>
    if visible appTenantId row.tenantId ∧ row.tenantId = tenantId ∧
        row.fenceToken = fenceToken ∧ row.status ∈ allowed then
      (1, { db with executions := db.executions.insert executionId.toStr (set row) })
    else
      (0, db)

/-- `SELECT … FROM executions WHERE tenant_id=$1 AND idempotency_key=$2`. -/
def selectByKey (appTenantId : String) (tenantId : Uuid) (idempotencyKey : String) :
    Option ExecutionRow :=
  (db.executions.toList.find? fun entry =>
    visible appTenantId entry.2.tenantId && entry.2.tenantId = tenantId &&
      entry.2.idempotencyKey = idempotencyKey).map Prod.snd

def preparedRow (intent : ExecutionIntent) (tenantId taskId stepId : Uuid) (fenceToken : Nat) :
    ExecutionRow where
  executionId := tx.executionUuid
  tenantId := tenantId
  taskId := taskId
  stepId := stepId
  actionHash := intent.actionHash
  idempotencyKey := intent.idempotencyKey
  fenceToken := fenceToken
  status := "PREPARED"
  intent := intent
  attempt := 0
  externalOperationId := none
  resultRef := none
  evidenceRef := none
  lastErrorCode := none
  manualRecovery := none
  createdAt := tx.now
  updatedAt := tx.now

def insertReservation (intent : ExecutionIntent) (tenantId taskId stepId : Uuid)
    (fenceToken : Nat) : Option Database := do
  let db ← db.insertExecution intent.tenantId
    (preparedRow tx intent tenantId taskId stepId fenceToken)
  let db ← db.insertIdempotency intent.tenantId
    { tenantId, idempotencyKey := intent.idempotencyKey, actionHash := intent.actionHash
      executionId := tx.executionUuid }
  db.insertOutbox intent.tenantId
    { eventId := tx.eventUuid, tenantId, executionId := tx.executionUuid
      eventType := "EXECUTION_RESERVED", payload := .reserved, createdAt := tx.now }

def reserve (intent : ExecutionIntent) : Except LedgerError Reservation × Database :=
  match validateIntent intent with
  | .error e => (.error e, db)
  | .ok () =>
    match Uuid.parseStr intent.tenantId, Uuid.parseStr intent.taskId,
        Uuid.parseStr intent.stepId with
    | some tenantId, some taskId, some stepId =>
      match db.selectByKey intent.tenantId tenantId intent.idempotencyKey with
      | some row =>
        if row.actionHash ≠ intent.actionHash then (.error .idempotencyConflict, db)
        else
          match parseStatus row.status with
          | .error e => (.error e, db)
          | .ok status =>
            (.ok
              { executionId := row.executionId.toStr
                fence :=
                  { tenantId := intent.tenantId, executionId := row.executionId.toStr
                    token := asU64 row.fenceToken }
                existing := true
                status }, db)
      | none =>
        match db.nextval with
        | none => (.error .storeFailure, db)
        | some fenceToken =>
          -- a sequence is not rolled back
          let advanced := { db with fenceSeq := fenceToken }
          match advanced.insertReservation tx intent tenantId taskId stepId fenceToken with
          | none => (.error .storeFailure, advanced)
          | some committed =>
            (.ok
              { executionId := tx.executionUuid.toStr
                fence :=
                  { tenantId := intent.tenantId, executionId := tx.executionUuid.toStr
                    token := asU64 fenceToken }
                existing := false
                status := .prepared }, committed)
    | _, _, _ => (.error .intentInvalid, db)

/-- The transaction behind every `mark` call: update the row under the fence, which must be
exactly one, and append an event. `texts` are the strings it binds. -/
def fencedUpdate (fence : ExecutionFence) (texts : List String) (allowed : List String)
    (set : ExecutionRow → ExecutionRow) (eventType : String) (payload : OutboxPayload) :
    Except LedgerError Unit × Database :=
  match Uuid.parseStr fence.executionId, Uuid.parseStr fence.tenantId with
  | some executionId, some tenantId =>
    if ¬ texts.all acceptsText then (.error .storeFailure, db)
    else
      let (changed, updated) := db.updateExecution fence.tenantId tenantId executionId
        (asI64 fence.token) allowed set
      if changed ≠ 1 then (.error .staleFence, db)
      else
        match updated.insertOutbox fence.tenantId
            { eventId := tx.eventUuid, tenantId, executionId, eventType, payload
              createdAt := tx.now } with
        | none => (.error .storeFailure, db)
        | some committed => (.ok (), committed)
  | _, _ => (.error .storeFailure, db)

/-- `pg_transition`, with the comma-separated list of allowed statuses already split. -/
def pgTransition (fence : ExecutionFence) (allowed : List String) (next : String)
    (externalOperationId errorCode result evidence : Option String) :
    Except LedgerError Unit × Database :=
  db.fencedUpdate tx fence
    (externalOperationId.toList ++ errorCode.toList ++ result.toList ++ evidence.toList) allowed
    (fun row =>
      { row with
        status := next
        externalOperationId := externalOperationId.or row.externalOperationId
        lastErrorCode := errorCode.or row.lastErrorCode
        resultRef := result.or row.resultRef
        evidenceRef := evidence.or row.evidenceRef
        attempt := if next = "RUNNING" then row.attempt + 1 else row.attempt
        updatedAt := tx.now })
    ("EXECUTION_" ++ next)
    (.transition next externalOperationId errorCode result evidence)

def markStarted (fence : ExecutionFence) (operation : Option String) :
    Except LedgerError Unit × Database :=
  db.pgTransition tx fence ["PREPARED"] "RUNNING" operation none none none

def markSucceeded (fence : ExecutionFence) (result evidence : String) :
    Except LedgerError Unit × Database :=
  db.pgTransition tx fence ["RUNNING", "UNKNOWN"] "SUCCEEDED" none none (some result)
    (some evidence)

def markFailed (fence : ExecutionFence) (error : String) : Except LedgerError Unit × Database :=
  db.pgTransition tx fence ["PREPARED", "RUNNING"] "FAILED" none (some error) none none

def markUnknown (fence : ExecutionFence) (error : String) : Except LedgerError Unit × Database :=
  db.pgTransition tx fence ["RUNNING"] "UNKNOWN" none (some error) none none

/-- `mark_manual_recovery`. The status column is not among the columns it sets. -/
def markManualRecovery (fence : ExecutionFence) (case : ManualRecoveryCase) :
    Except LedgerError Unit × Database :=
  db.fencedUpdate tx fence case.strings ["RUNNING", "UNKNOWN", "COMPENSATION_FAILED"]
    (fun row => { row with manualRecovery := some case, updatedAt := tx.now })
    "MANUAL_RECOVERY_REQUIRED" (.manualRecovery case)

/-- What `selectByKey` finds is a row of the tenant and the key; it misses none. -/
theorem selectByKey_cases (tenantId : Uuid) (idempotencyKey : String) :
    (∃ (executionId : String) (row : ExecutionRow), db.executions[executionId]? = some row ∧
      row.tenantId = tenantId ∧ row.idempotencyKey = idempotencyKey ∧
      db.selectByKey tenantId.toStr tenantId idempotencyKey = some row) ∨
    ((∀ (executionId : String) (row : ExecutionRow), db.executions[executionId]? = some row →
      ¬(row.tenantId = tenantId ∧ row.idempotencyKey = idempotencyKey)) ∧
      db.selectByKey tenantId.toStr tenantId idempotencyKey = none) := by
  unfold selectByKey
  cases hfind : db.executions.toList.find? fun entry =>
      visible tenantId.toStr entry.2.tenantId && entry.2.tenantId = tenantId &&
        entry.2.idempotencyKey = idempotencyKey with
  | some entry =>
    obtain ⟨executionId, row⟩ := entry
    have hmem := List.mem_of_find?_eq_some hfind
    have hmatch := List.find?_some hfind
    rw [Std.ExtTreeMap.mem_toList_iff_getElem?_eq_some] at hmem
    simp only [Bool.and_eq_true, decide_eq_true_eq] at hmatch
    exact .inl ⟨executionId, row, hmem, hmatch.1.2, hmatch.2, rfl⟩
  | none =>
    rw [List.find?_eq_none] at hfind
    refine .inr ⟨?_, rfl⟩
    rintro executionId row hrow ⟨rfl, rfl⟩
    refine hfind (executionId, row)
      (Std.ExtTreeMap.mem_toList_iff_getElem?_eq_some.mpr hrow) ?_
    simp [visible]

theorem insertOutbox_fresh {appTenantId : String} (row : OutboxRow)
    (htenant : row.tenantId.toStr = appTenantId)
    (hevent : ∀ other ∈ db.outbox, other.eventId ≠ row.eventId) :
    db.insertOutbox appTenantId row = some { db with outbox := db.outbox ++ [row] } := by
  have hall : (db.outbox.all fun other => other.eventId ≠ row.eventId) = true := by
    simpa using hevent
  simp only [insertOutbox, visible, htenant, hall, BEq.rfl, and_self, if_true]

theorem insertReservation_fresh {intent : ExecutionIntent} {tenantId : Uuid}
    (taskId stepId : Uuid) (fenceToken : Nat) (htenant : tenantId.toStr = intent.tenantId)
    (hvalid : validateIntent intent = .ok ()) (hhash : intent.actionHash.length = 64)
    (htexts : intent.strings.all acceptsText)
    (hexecution : db.executions[tx.executionUuid.toStr]? = none)
    (hkey : ∀ (executionId : String) (row : ExecutionRow),
      db.executions[executionId]? = some row →
      ¬(row.tenantId = tenantId ∧ row.idempotencyKey = intent.idempotencyKey))
    (hrecords : ∀ entry ∈ db.idempotencyRecords,
      ¬(entry.tenantId = tenantId ∧ entry.idempotencyKey = intent.idempotencyKey))
    (hevent : ∀ row ∈ db.outbox, row.eventId ≠ tx.eventUuid) :
    ∃ event, event.eventId = tx.eventUuid ∧
      db.insertReservation tx intent tenantId taskId stepId fenceToken = some
      { db with
        executions := db.executions.insert tx.executionUuid.toStr
          (preparedRow tx intent tenantId taskId stepId fenceToken)
        idempotencyRecords := db.idempotencyRecords ++
          [⟨tenantId, intent.idempotencyKey, intent.actionHash, tx.executionUuid⟩]
        outbox := db.outbox ++ [event] } := by
  obtain ⟨-, hnonempty, hsize, -, -, -⟩ := validateIntent_ok hvalid
  have hchar : char64 intent.actionHash = some intent.actionHash := by
    simp [char64, hhash]
  have hlength : 1 ≤ intent.idempotencyKey.length ∧ intent.idempotencyKey.length ≤ 128 := by
    refine ⟨?_, Nat.le_trans (length_le_utf8ByteSize _) hsize⟩
    rw [Nat.one_le_iff_ne_zero, ne_eq, String.length_eq_zero_iff]
    intro hempty
    simp [hempty] at hnonempty
  have haccepts : acceptsText intent.actionHash ∧ acceptsText intent.idempotencyKey := by
    rw [List.all_eq_true] at htexts
    exact ⟨htexts _ (by simp [ExecutionIntent.strings]),
      htexts _ (by simp [ExecutionIntent.strings])⟩
  have habsent : tx.executionUuid.toStr ∉ db.executions := by
    rw [Std.ExtTreeMap.mem_iff_isSome_getElem?, hexecution]
    simp
  have hunique : (db.executions.toList.all fun other =>
      ¬(other.2.tenantId = tenantId ∧ other.2.idempotencyKey = intent.idempotencyKey)) = true := by
    rw [List.all_eq_true]
    rintro ⟨executionId, row⟩ hmem
    rw [Std.ExtTreeMap.mem_toList_iff_getElem?_eq_some] at hmem
    exact decide_eq_true (hkey executionId row hmem)
  have hexecutions : db.insertExecution intent.tenantId
      (preparedRow tx intent tenantId taskId stepId fenceToken) = some
        { db with
          executions := db.executions.insert tx.executionUuid.toStr
            (preparedRow tx intent tenantId taskId stepId fenceToken) } := by
    simp only [insertExecution, preparedRow, hchar, Option.bind_eq_bind, Option.bind_some]
    exact if_pos ⟨haccepts.1, haccepts.2, htexts, hlength.1, hlength.2, by simp [visible, htenant],
      habsent, hunique⟩
  have hidempotency : insertIdempotency
      { db with
        executions := db.executions.insert tx.executionUuid.toStr
          (preparedRow tx intent tenantId taskId stepId fenceToken) } intent.tenantId
      ⟨tenantId, intent.idempotencyKey, intent.actionHash, tx.executionUuid⟩ = some
        { db with
          executions := db.executions.insert tx.executionUuid.toStr
            (preparedRow tx intent tenantId taskId stepId fenceToken)
          idempotencyRecords := db.idempotencyRecords ++
            [⟨tenantId, intent.idempotencyKey, intent.actionHash, tx.executionUuid⟩] } := by
    have hall : (db.idempotencyRecords.all fun other =>
        ¬(other.tenantId = tenantId ∧ other.idempotencyKey = intent.idempotencyKey)) = true :=
      List.all_eq_true.mpr fun entry hentry => decide_eq_true (hrecords entry hentry)
    simp only [insertIdempotency, hchar, Option.bind_eq_bind, Option.bind_some]
    exact if_pos ⟨by simp [visible, htenant], hall⟩
  refine ⟨⟨tx.eventUuid, tenantId, tx.executionUuid, "EXECUTION_RESERVED", .reserved, tx.now⟩, rfl,
    ?_⟩
  rw [insertReservation, hexecutions, Option.bind_eq_bind, Option.bind_some, hidempotency,
    Option.bind_some]
  exact insertOutbox_fresh _ _ htenant hevent

theorem updateExecution_cases (tenantId executionId : Uuid) (fenceToken : Int)
    (allowed : List String) (set : ExecutionRow → ExecutionRow) :
    ((∀ row, db.executions[executionId.toStr]? = some row →
        row.tenantId.toStr = tenantId.toStr → row.fenceToken = fenceToken →
        row.status ∉ allowed) ∧
      db.updateExecution tenantId.toStr tenantId executionId fenceToken allowed set = (0, db)) ∨
    ∃ row, db.executions[executionId.toStr]? = some row ∧
      row.tenantId.toStr = tenantId.toStr ∧ row.fenceToken = fenceToken ∧ row.status ∈ allowed ∧
      db.updateExecution tenantId.toStr tenantId executionId fenceToken allowed set =
        (1, { db with executions := db.executions.insert executionId.toStr (set row) }) := by
  unfold updateExecution
  cases hrow : db.executions[executionId.toStr]? with
  | none => exact .inl ⟨by simp, rfl⟩
  | some row =>
    simp only
    split_ifs with hmatch
    · obtain ⟨-, hsame, htoken, hstatus⟩ := hmatch
      exact .inr ⟨row, rfl, by rw [hsame], htoken, hstatus, rfl⟩
    · refine .inl ⟨?_, rfl⟩
      rintro _ ⟨⟩ hsame htoken hstatus
      exact hmatch ⟨by simpa [visible] using hsame, Uuid.toStr_injective hsame, htoken, hstatus⟩

/-- A fenced update finds its row under the fence in an allowed status, stores the change and
appends an event; otherwise it fails and changes nothing. -/
theorem fencedUpdate_cases {fence : ExecutionFence} {texts : List String} (allowed : List String)
    (set : ExecutionRow → ExecutionRow) (eventType : String) (payload : OutboxPayload)
    (hexecution : ∃ u : Uuid, u.toStr = fence.executionId)
    (htenant : ∃ u : Uuid, u.toStr = fence.tenantId) (htexts : texts.all acceptsText)
    (hevent : ∀ row ∈ db.outbox, row.eventId ≠ tx.eventUuid) :
    ((∀ row, db.executions[fence.executionId]? = some row →
        row.tenantId.toStr = fence.tenantId → row.fenceToken = asI64 fence.token →
        row.status ∉ allowed) ∧
      ∃ e, db.fencedUpdate tx fence texts allowed set eventType payload = (.error e, db)) ∨
    ∃ row event, db.executions[fence.executionId]? = some row ∧
      row.tenantId.toStr = fence.tenantId ∧ row.fenceToken = asI64 fence.token ∧
      row.status ∈ allowed ∧ event.eventId = tx.eventUuid ∧
      db.fencedUpdate tx fence texts allowed set eventType payload =
        (.ok (), { db with
          executions := db.executions.insert fence.executionId (set row)
          outbox := db.outbox ++ [event] }) := by
  obtain ⟨tenantId, executionId, token⟩ := fence
  obtain ⟨executionUuid, rfl⟩ := hexecution
  obtain ⟨tenantUuid, rfl⟩ := htenant
  unfold fencedUpdate
  simp only [Uuid.parseStr_toStr, htexts, not_true_eq_false, if_false]
  obtain ⟨hnone, heq⟩ | ⟨row, hrow, hsame, htoken, hstatus, heq⟩ :=
    db.updateExecution_cases tenantUuid executionUuid (asI64 token) allowed set
  · refine .inl ⟨hnone, .staleFence, ?_⟩
    rw [heq]
    rfl
  · have hinsert := insertOutbox_fresh
      { db with executions := db.executions.insert executionUuid.toStr (set row) }
      ⟨tx.eventUuid, tenantUuid, executionUuid, eventType, payload, tx.now⟩ rfl hevent
    refine .inr ⟨row, ⟨tx.eventUuid, tenantUuid, executionUuid, eventType, payload, tx.now⟩,
      hrow, hsame, htoken, hstatus, rfl, ?_⟩
    rw [heq]
    simp only [ne_eq, not_true_eq_false, if_false]
    rw [hinsert]

end Database

end AgentSphere.Ledger
