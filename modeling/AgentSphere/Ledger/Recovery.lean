import AgentSphere.Ledger.Changes
import AgentSphere.Lib.Interleaving

/-!
# Restarts and the recovery scanner

A restart writes the records and the outbox to a document and rebuilds the idempotency index
and the fence counter from what it reads back. The recovery scanner is a program: it takes a
copy of the stale records, asks the resolver about each of them and marks the ledger, while
other callers use the same ledger.
-/

namespace AgentSphere.Ledger

open Concurrency

-- Snapshots

/-- The record without the expected values of its compensation steps. An expected value is an
arbitrary JSON value: `null` reads back as no value, and a float may lose its last digit. -/
def ExecutionRecord.withoutExpectedValues (record : ExecutionRecord) : ExecutionRecord :=
  { record with
    intent := { record.intent with
      compensationPlan := record.intent.compensationPlan.map fun plan =>
        { plan with steps := plan.steps.map fun step =>
          { step with expectedCurrentValue := none } } } }

/-- The JSON codec behind `snapshot` and `from_snapshot`. Reading may fail (a document may be
nested too deeply), but what is read back is what was written. -/
structure SnapshotCodec where
  toVec : BTreeMap ExecutionId ExecutionRecord × List OutboxEvent → Option ByteArray
  fromSlice : ByteArray → Option (BTreeMap ExecutionId ExecutionRecord × List OutboxEvent)
  fromSlice_toVec : ∀ {records outbox bytes records' outbox'},
    toVec (records, outbox) = some bytes → fromSlice bytes = some (records', outbox') →
    outbox' = outbox ∧ ∀ executionId : ExecutionId,
      records'[executionId]?.map ExecutionRecord.withoutExpectedValues =
        records[executionId]?.map ExecutionRecord.withoutExpectedValues

namespace InMemoryExecutionLedger

def snapshot (ledger : InMemoryExecutionLedger) (codec : SnapshotCodec) :
    Except LedgerError ByteArray :=
  match codec.toVec (ledger.byExecution, ledger.outbox) with
  | some bytes => .ok bytes
  | none => .error .storeFailure

/-- One turn of the loop in `from_snapshot`. -/
def indexRecord (rebuilt : BTreeMap (TenantId × IdempotencyKey) ExecutionId × Nat)
    (entry : ExecutionId × ExecutionRecord) :
    BTreeMap (TenantId × IdempotencyKey) ExecutionId × Nat :=
  (rebuilt.1.insert entry.2.key entry.1, max rebuilt.2 entry.2.fenceToken)

/-- `from_snapshot`. The fence counter is a 64-bit word. -/
def fromSnapshot (codec : SnapshotCodec) (bytes : ByteArray) :
    Except LedgerError InMemoryExecutionLedger :=
  match codec.fromSlice bytes with
  | none => .error .storeFailure
  | some (byExecution, outbox) =>
    let (byIdempotency, maxFence) := byExecution.toList.foldl indexRecord (∅, 0)
    .ok { byExecution, byIdempotency, outbox, nextFence := (maxFence + 1) % 2 ^ 64 }

def Restart (codec : SnapshotCodec) (ledger ledger' : InMemoryExecutionLedger) : Prop :=
  ∃ bytes, ledger.snapshot codec = .ok bytes ∧ fromSnapshot codec bytes = .ok ledger'

variable {codec : SnapshotCodec} {ledger ledger' : InMemoryExecutionLedger}

theorem Restart.cases (h : Restart codec ledger ledger') :
    ledger'.outbox = ledger.outbox ∧
    (∀ executionId : ExecutionId,
      ledger'.byExecution[executionId]?.map ExecutionRecord.withoutExpectedValues =
        ledger.byExecution[executionId]?.map ExecutionRecord.withoutExpectedValues) ∧
    ledger'.byIdempotency = (ledger'.byExecution.toList.foldl indexRecord (∅, 0)).1 ∧
    ledger'.nextFence = ((ledger'.byExecution.toList.foldl indexRecord (∅, 0)).2 + 1) % 2 ^ 64 := by
  obtain ⟨bytes, hwrite, hread⟩ := h
  unfold snapshot at hwrite
  unfold fromSnapshot at hread
  cases hto : codec.toVec (ledger.byExecution, ledger.outbox) with
  | none => simp [hto] at hwrite
  | some written =>
    obtain rfl : written = bytes := by simpa [hto] using hwrite
    cases hfrom : codec.fromSlice written with
    | none => simp [hfrom] at hread
    | some parts =>
      obtain ⟨records, outbox⟩ := parts
      obtain rfl := by simpa [hfrom] using hread
      obtain ⟨houtbox, hrecords⟩ := codec.fromSlice_toVec hto hfrom
      exact ⟨houtbox, hrecords, rfl, rfl⟩

theorem Restart.record_before (h : Restart codec ledger ledger') {executionId : ExecutionId}
    {record' : ExecutionRecord} (hfound : ledger'.byExecution[executionId]? = some record') :
    ∃ record, ledger.byExecution[executionId]? = some record ∧
      record'.withoutExpectedValues = record.withoutExpectedValues := by
  have hsame := h.cases.2.1 executionId
  rw [hfound, Option.map_some, eq_comm, Option.map_eq_some_iff] at hsame
  obtain ⟨record, hrecord, heq⟩ := hsame
  exact ⟨record, hrecord, heq.symm⟩

theorem Restart.record_after (h : Restart codec ledger ledger') {executionId : ExecutionId}
    {record : ExecutionRecord} (hfound : ledger.byExecution[executionId]? = some record) :
    ∃ record', ledger'.byExecution[executionId]? = some record' ∧
      record'.withoutExpectedValues = record.withoutExpectedValues := by
  have hsame := h.cases.2.1 executionId
  rw [hfound, Option.map_some, Option.map_eq_some_iff] at hsame
  exact hsame

end InMemoryExecutionLedger

-- The recovery scanner

inductive RecoveryDecision where
  | succeeded (resultRef evidenceRef : String)
  | failed (errorCode : String)
  | stillUnknown
  | manualRecovery (reason : String)
  deriving DecidableEq, Repr

inductive ScanCall where
  | ledger (call : LedgerCall)
  | resolve (record : ExecutionRecord)
  | newUuid
  | utcNow

abbrev ScanCall.Answer : ScanCall → Type
  | .ledger call => call.Answer
  | .resolve _ => Except LedgerError RecoveryDecision
  | .newUuid => Uuid
  | .utcNow => DateTime

abbrev Scan := Attempt LedgerError ScanCall ScanCall.Answer

namespace Scan

def markSucceeded (fence : ExecutionFence) (resultRef evidenceRef : String) : Scan Unit :=
  ExceptT.mk (Program.call (ScanCall.ledger (.markSucceeded fence resultRef evidenceRef)))

def markFailed (fence : ExecutionFence) (errorCode : String) : Scan Unit :=
  ExceptT.mk (Program.call (ScanCall.ledger (.markFailed fence errorCode)))

def markManualRecovery (fence : ExecutionFence) (case : ManualRecoveryCase) : Scan Unit :=
  ExceptT.mk (Program.call (ScanCall.ledger (.markManualRecovery fence case)))

def staleNonTerminal (tenantId : TenantId) (before : DateTime) : Scan (List ExecutionRecord) :=
  ExceptT.mk (Program.call (ScanCall.ledger (.staleNonTerminal tenantId before)))

def resolve (record : ExecutionRecord) : Scan RecoveryDecision :=
  ExceptT.mk (Program.call (ScanCall.resolve record))

def newUuid : Scan Uuid := ExceptT.lift (Program.call ScanCall.newUuid)

def utcNow : Scan DateTime := ExceptT.lift (Program.call ScanCall.utcNow)

end Scan

/-- The loop of `reconcile` over the copied records. -/
def reconcileEach : List ExecutionRecord → Nat → Scan Nat
  | [], reconciled => pure reconciled
  | record :: rest, reconciled => do
    match ← Scan.resolve record with
    | .succeeded resultRef evidenceRef =>
      Scan.markSucceeded record.fence resultRef evidenceRef
      reconcileEach rest (reconciled + 1)
    | .failed errorCode =>
      -- a failure is believed only of a record that was running when it was copied
      if record.status = .running then
        Scan.markFailed record.fence errorCode
        reconcileEach rest (reconciled + 1)
      else
        reconcileEach rest reconciled
    | .manualRecovery reason =>
      let caseId ← Scan.newUuid
      let openedAt ← Scan.utcNow
      Scan.markManualRecovery record.fence
        { caseId := caseId.toStr, impactScope := record.intent.tool.toolId
          lastKnownState := record.status.debug, recommendedActions := [reason]
          evidenceRefs := [], openedAt }
      reconcileEach rest (reconciled + 1)
    | .stillUnknown => reconcileEach rest reconciled

def reconcile (tenantId : TenantId) (before : DateTime) : Scan Nat := do
  let stale ← Scan.staleNonTerminal tenantId before
  reconcileEach stale 0

-- One ledger, many callers

def Ambient.Fresh (ambient : Ambient) (ledger : InMemoryExecutionLedger) : Prop :=
  ledger.byExecution[ambient.executionUuid.toStr]? = none

instance (ambient : Ambient) (ledger : InMemoryExecutionLedger) :
    Decidable (ambient.Fresh ledger) :=
  inferInstanceAs (Decidable (_ = none))

def serve (digest : EventDigest) (ledger : InMemoryExecutionLedger) :
    (call : ScanCall) → call.Answer → InMemoryExecutionLedger → Prop
  | .ledger call, answer, ledger' =>
    ∃ ambient : Ambient, ambient.Fresh ledger ∧
      ledger.perform ambient digest call = (answer, ledger')
  | _, _, ledger' => ledger' = ledger

inductive Caller : Program ScanCall ScanCall.Answer Unit → Prop where
  | operation (call : LedgerCall) :
      Caller (.perform (.ledger call) fun _ => .done ())
  | scanner (tenantId : TenantId) (before : DateTime) :
      Caller ((reconcile tenantId before).run >>= fun _ => .done ())

def system (digest : EventDigest) (codec : SnapshotCodec) :
    System InMemoryExecutionLedger ScanCall ScanCall.Answer Unit where
  Serve := serve digest
  Internal := InMemoryExecutionLedger.Restart codec
  Start := Caller

def afterOperation (digest : EventDigest) (ambient : Ambient)
    (cfg : Config InMemoryExecutionLedger ScanCall ScanCall.Answer Unit) (call : LedgerCall) :
    Config InMemoryExecutionLedger ScanCall ScanCall.Answer Unit where
  shared := (cfg.shared.perform ambient digest call).2
  threads := cfg.threads ++ [.done ()]
  trace := cfg.trace ++ [⟨cfg.threads.length, .ledger call,
    (cfg.shared.perform ambient digest call).1, cfg.shared,
    (cfg.shared.perform ambient digest call).2⟩]

theorem steps_afterOperation {digest : EventDigest} {codec : SnapshotCodec}
    {cfg : Config InMemoryExecutionLedger ScanCall ScanCall.Answer Unit} (ambient : Ambient)
    (call : LedgerCall) (hfresh : ambient.Fresh cfg.shared) :
    (system digest codec).Steps cfg (afterOperation digest ambient cfg call) := by
  have hserved : (system digest codec).Serve cfg.shared (.ledger call)
      (cfg.shared.perform ambient digest call).1 (cfg.shared.perform ambient digest call).2 :=
    ⟨ambient, hfresh, rfl⟩
  have hjoin : (system digest codec).Step cfg _ := .start _ (.operation call)
  have hcall : (system digest codec).Step
      { cfg with threads := cfg.threads ++ [.perform (.ledger call) fun _ => .done ()] } _ :=
    .advance cfg.threads.length (.ledger call) (fun _ => .done ()) _ _ (by simp) hserved
  refine .tail (.single hjoin) ?_
  simpa [afterOperation] using hcall

inductive Evolves (codec : SnapshotCodec) (ledger : InMemoryExecutionLedger) :
    InMemoryExecutionLedger → Prop where
  | same : Evolves codec ledger ledger
  | changed {ledger' : InMemoryExecutionLedger} (ambient : Ambient)
      (fresh : ambient.Fresh ledger)
      (change : InMemoryExecutionLedger.Change ambient ledger ledger') :
      Evolves codec ledger ledger'
  | restarted {ledger' : InMemoryExecutionLedger}
      (restart : InMemoryExecutionLedger.Restart codec ledger ledger') :
      Evolves codec ledger ledger'

theorem serve_evolves {digest : EventDigest} {codec : SnapshotCodec}
    {ledger ledger' : InMemoryExecutionLedger} {call : ScanCall} {answer : call.Answer}
    (h : serve digest ledger call answer ledger') : Evolves codec ledger ledger' := by
  cases call with
  | ledger call =>
    obtain ⟨ambient, hfresh, heq⟩ := h
    have hchange := InMemoryExecutionLedger.perform_change ledger ambient digest call
    rw [heq] at hchange
    exact .changed ambient hfresh hchange
  | resolve record =>
    obtain rfl : ledger' = ledger := h
    exact .same
  | newUuid =>
    obtain rfl : ledger' = ledger := h
    exact .same
  | utcNow =>
    obtain rfl : ledger' = ledger := h
    exact .same

theorem step_evolves {digest : EventDigest} {codec : SnapshotCodec}
    {cfg cfg' : Config InMemoryExecutionLedger ScanCall ScanCall.Answer Unit}
    (h : (system digest codec).Step cfg cfg') : Evolves codec cfg.shared cfg'.shared := by
  cases h with
  | start p starts => exact .same
  | advance i call resume answer ledger' suspended served => exact serve_evolves served
  | internal ledger' moves => exact .restarted moves

/-- What one step does to one record: nothing, a `mark`, or a trip through a snapshot. -/
inductive RecordStep (record : ExecutionRecord) : ExecutionRecord → Prop where
  | kept : RecordStep record record
  | moved {record' : ExecutionRecord} (move : Move record record') : RecordStep record record'
  | reloaded {record' : ExecutionRecord}
      (same : record'.withoutExpectedValues = record.withoutExpectedValues) :
      RecordStep record record'

theorem Evolves.record_after {codec : SnapshotCodec} {ledger ledger' : InMemoryExecutionLedger}
    (h : Evolves codec ledger ledger') {executionId : ExecutionId} {record : ExecutionRecord}
    (hfound : ledger.byExecution[executionId]? = some record) :
    ∃ record', ledger'.byExecution[executionId]? = some record' ∧ RecordStep record record' := by
  cases h with
  | same => exact ⟨record, hfound, .kept⟩
  | changed ambient fresh change =>
    cases change with
    | none => exact ⟨record, hfound, .kept⟩
    | reserved intent valid absent =>
      have hne : ambient.executionUuid.toStr ≠ executionId := by
        rintro rfl
        rw [Ambient.Fresh, hfound] at fresh
        cases fresh
      exact ⟨record, by simp [hne, hfound], .kept⟩
    | @moved movedId old new found move =>
      by_cases hid : movedId = executionId
      · subst hid
        obtain rfl : old = record := by simpa [hfound] using found.symm
        exact ⟨new, by simp, .moved move⟩
      · exact ⟨record, by simp [hid, hfound], .kept⟩
  | restarted restart =>
    obtain ⟨record', hrecord', hsame⟩ := restart.record_after hfound
    exact ⟨record', hrecord', .reloaded hsame⟩

theorem Evolves.record_before {codec : SnapshotCodec} {ledger ledger' : InMemoryExecutionLedger}
    (h : Evolves codec ledger ledger') {executionId : ExecutionId} {record' : ExecutionRecord}
    (hfound : ledger'.byExecution[executionId]? = some record') :
    (∃ record, ledger.byExecution[executionId]? = some record ∧ RecordStep record record') ∨
    (ledger.byExecution[executionId]? = none ∧
      ∃ ambient intent, record' = ledger.preparedRecord ambient intent) := by
  cases h with
  | same => exact .inl ⟨record', hfound, .kept⟩
  | changed ambient fresh change =>
    cases change with
    | none => exact .inl ⟨record', hfound, .kept⟩
    | reserved intent valid absent =>
      by_cases hid : ambient.executionUuid.toStr = executionId
      · subst hid
        obtain rfl := by simpa using hfound
        exact .inr ⟨fresh, ambient, intent, rfl⟩
      · exact .inl ⟨record', by simpa [hid] using hfound, .kept⟩
    | @moved movedId old new found move =>
      by_cases hid : movedId = executionId
      · subst hid
        obtain rfl := by simpa using hfound
        exact .inl ⟨old, found, .moved move⟩
      · exact .inl ⟨record', by simpa [hid] using hfound, .kept⟩
  | restarted restart =>
    obtain ⟨record, hrecord, hsame⟩ := restart.record_before hfound
    exact .inl ⟨record, hrecord, .reloaded hsame⟩

-- A sample run

def sampleAmbient (d : Fin 16) (now : DateTime) : Ambient where
  now := now
  eventCreatedAt := now
  executionUuid := sampleUuid d
  eventUuid := sampleUuid d

def sampleIntent : ExecutionIntent where
  schemaVersion := ledgerSchemaVersion
  tenantId := (sampleUuid 1).toStr
  taskId := (sampleUuid 2).toStr
  stepId := (sampleUuid 3).toStr
  actionHash := "a591a6d40bf420404a011733cfb7b190d62c65bf0bcda32b57b277d9ad9f146e"
  idempotencyKey := "task:1"
  tool := { toolId := "coding.run-tests", toolVersion := "1.0.0" }
  effectClass := .idempotent
  resourceVersion := some "v1"
  canonicalArgumentsHash := "args"
  compensationPlan := none
  requestedAt := 0

def sampleFence : ExecutionFence where
  tenantId := (sampleUuid 1).toStr
  executionId := (sampleUuid 10).toStr
  token := 1

open Classical in
noncomputable def sampleCodec : SnapshotCodec where
  toVec parts := if parts = (∅, []) then some "[\x7b\x7d,[]]".toUTF8 else none
  fromSlice bytes := if bytes.data = "[\x7b\x7d,[]]".toUTF8.data then some (∅, []) else none
  fromSlice_toVec := by
    intro records outbox bytes records' outbox' hto hfrom
    split_ifs at hto hfrom
    simp_all

def sampleDigest : EventDigest := fun _ => none

def sampleReserved : Config InMemoryExecutionLedger ScanCall ScanCall.Answer Unit :=
  afterOperation sampleDigest (sampleAmbient 10 0) (System.initial .default)
    (.reserve sampleIntent)

def sampleStarted : Config InMemoryExecutionLedger ScanCall ScanCall.Answer Unit :=
  afterOperation sampleDigest (sampleAmbient 11 1) sampleReserved (.markStarted sampleFence none)

def sampleLost : Config InMemoryExecutionLedger ScanCall ScanCall.Answer Unit :=
  afterOperation sampleDigest (sampleAmbient 12 2) sampleStarted
    (.markUnknown sampleFence "EXECUTION_TOOL_UNKNOWN")

theorem sampleLost_reachable :
    (system sampleDigest sampleCodec).Reachable .default sampleLost := by
  have hnil : (∅ : BTreeMap ExecutionId ExecutionRecord).toList = [] :=
    Std.ExtTreeMap.toList_eq_nil_iff.mpr rfl
  have hrestart : InMemoryExecutionLedger.Restart sampleCodec .default .default := by
    refine ⟨"[\x7b\x7d,[]]".toUTF8, ?_, ?_⟩
    · simp [InMemoryExecutionLedger.snapshot, InMemoryExecutionLedger.default, sampleCodec]
    · simp [InMemoryExecutionLedger.fromSnapshot, InMemoryExecutionLedger.default, sampleCodec,
        hnil]
  have hfirst : (system sampleDigest sampleCodec).Step (System.initial .default)
      (System.initial .default) := .internal _ hrestart
  have hreserved : (system sampleDigest sampleCodec).Steps (System.initial .default)
      sampleReserved := steps_afterOperation _ _ (by decide)
  have hstarted : (system sampleDigest sampleCodec).Steps sampleReserved sampleStarted :=
    steps_afterOperation _ _ (by decide)
  have hlost : (system sampleDigest sampleCodec).Steps sampleStarted sampleLost :=
    steps_afterOperation _ _ (by decide)
  exact ((Relation.ReflTransGen.single hfirst).trans hreserved).trans (hstarted.trans hlost)

end AgentSphere.Ledger
