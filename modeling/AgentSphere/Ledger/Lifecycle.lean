import AgentSphere.Ledger.Recovery

/-!
# The life of a record

Whatever callers, scanners and restarts do, a record moves along a fixed set of status changes,
and it is frozen once it has succeeded or failed.
-/

namespace AgentSphere.Ledger

open Concurrency

def statusMoves : List (ExecutionStatus × ExecutionStatus) :=
  [(.prepared, .running), (.prepared, .failed), (.running, .succeeded), (.running, .failed),
    (.running, .unknown), (.unknown, .succeeded), (.unknown, .unknown)]

structure RecordOk (record : ExecutionRecord) : Prop where
  status : record.status ∈ [.prepared, .running, .succeeded, .failed, .unknown]
  result : record.resultRef.isSome ↔ record.status = .succeeded
  evidence : record.evidenceRef.isSome ↔ record.status = .succeeded
  attempt : record.attempt ≤ 1
  unstarted : record.status = .prepared → record.attempt = 0

structure Later (record record' : ExecutionRecord) : Prop where
  frozen : record.status = .succeeded ∨ record.status = .failed →
    record'.status = record.status ∧ record'.resultRef = record.resultRef ∧
      record'.evidenceRef = record.evidenceRef ∧ record'.lastErrorCode = record.lastErrorCode
  unknown : record.status = .unknown → record'.status = .unknown ∨ record'.status = .succeeded

theorem Later.refl (record : ExecutionRecord) : Later record record where
  frozen _ := ⟨rfl, rfl, rfl, rfl⟩
  unknown h := .inl h

theorem Later.trans {r s t : ExecutionRecord} (hrs : Later r s) (hst : Later s t) :
    Later r t where
  frozen h := by
    obtain ⟨hstatus, hresult, hevidence, herror⟩ := hrs.frozen h
    rw [← hstatus] at h
    obtain ⟨hstatus', hresult', hevidence', herror'⟩ := hst.frozen h
    exact ⟨hstatus'.trans hstatus, hresult'.trans hresult, hevidence'.trans hevidence,
      herror'.trans herror⟩
  unknown h := by
    rcases hrs.unknown h with hs | hs
    · exact hst.unknown hs
    · exact .inr ((hst.frozen (.inl hs)).1.trans hs)

theorem recordOk_prepared (ledger : InMemoryExecutionLedger) (ambient : Ambient)
    (intent : ExecutionIntent) : RecordOk (ledger.preparedRecord ambient intent) := by
  constructor <;> simp [InMemoryExecutionLedger.preparedRecord]

namespace RecordStep

variable {record record' : ExecutionRecord}

theorem reloaded_fields
    (h : record'.withoutExpectedValues = record.withoutExpectedValues) :
    record'.status = record.status ∧ record'.resultRef = record.resultRef ∧
      record'.evidenceRef = record.evidenceRef ∧
      record'.lastErrorCode = record.lastErrorCode ∧ record'.attempt = record.attempt :=
  ⟨congrArg (·.status) h, congrArg (·.resultRef) h, congrArg (·.evidenceRef) h,
    congrArg (·.lastErrorCode) h, congrArg (·.attempt) h⟩

theorem recordOk (h : RecordStep record record') (hok : RecordOk record) : RecordOk record' := by
  obtain ⟨hstatus, hresult, hevidence, hattempt, hunstarted⟩ := hok
  cases h with
  | kept => exact ⟨hstatus, hresult, hevidence, hattempt, hunstarted⟩
  | moved move =>
    cases move with
    | started now operation source =>
      have hzero : record.attempt = 0 := hunstarted source
      constructor <;> simp_all
    | succeeded now result evidence source =>
      constructor <;> simp_all
    | failed now error source =>
      have hne : record.status ≠ .succeeded := by rcases source with h | h <;> simp [h]
      constructor <;> simp_all
    | unknown now error source =>
      constructor <;> simp_all
    | manualRecovery now case source =>
      have hne : record.status ≠ .succeeded := by rcases source with h | h | h <;> simp [h]
      constructor <;> simp_all
  | reloaded same =>
    obtain ⟨h1, h2, h3, -, h5⟩ := reloaded_fields same
    constructor
    · rwa [h1]
    · rwa [h1, h2]
    · rwa [h1, h3]
    · rwa [h5]
    · rwa [h1, h5]

theorem status_moves (h : RecordStep record record') (hok : RecordOk record) :
    record'.status = record.status ∨ (record.status, record'.status) ∈ statusMoves := by
  cases h with
  | kept => exact .inl rfl
  | moved move =>
    right
    cases move with
    | started now operation source => simp [statusMoves, source]
    | succeeded now result evidence source => rcases source with h | h <;> simp [statusMoves, h]
    | failed now error source => rcases source with h | h <;> simp [statusMoves, h]
    | unknown now error source => simp [statusMoves, source]
    | manualRecovery now case source =>
      -- no record is ever in the third status the ledger would accept here
      have hne : record.status ≠ .compensationFailed := by
        intro h
        simpa [h] using hok.status
      rcases source with h | h | h
      · simp [statusMoves, h]
      · simp [statusMoves, h]
      · exact absurd h hne
  | reloaded same => exact .inl (reloaded_fields same).1

theorem later (h : RecordStep record record') : Later record record' := by
  cases h with
  | kept => exact .refl record
  | moved move =>
    cases move with
    | started now operation source => constructor <;> simp [source]
    | succeeded now result evidence source =>
      constructor <;> rcases source with h | h <;> simp [h]
    | failed now error source =>
      constructor <;> rcases source with h | h <;> simp [h]
    | unknown now error source => constructor <;> simp [source]
    | manualRecovery now case source =>
      constructor <;> rcases source with h | h | h <;> simp [h]
  | reloaded same =>
    obtain ⟨h1, h2, h3, h4, -⟩ := reloaded_fields same
    exact ⟨fun _ => ⟨h1, h2, h3, h4⟩, fun h => .inl (h1.trans h)⟩

end RecordStep

namespace InMemoryExecutionLedger

def RecordsOk (ledger : InMemoryExecutionLedger) : Prop :=
  ∀ (executionId : ExecutionId) record, ledger.byExecution[executionId]? = some record →
    RecordOk record

def Continues (ledger ledger' : InMemoryExecutionLedger) : Prop :=
  ∀ (executionId : ExecutionId) record, ledger.byExecution[executionId]? = some record →
    ∃ record', ledger'.byExecution[executionId]? = some record' ∧ Later record record'

/-- Every record of the later ledger is new and prepared, or has kept its status, or has moved
along one of the status changes. -/
def Moves (ledger ledger' : InMemoryExecutionLedger) : Prop :=
  ∀ (executionId : ExecutionId) record', ledger'.byExecution[executionId]? = some record' →
    (ledger.byExecution[executionId]? = none ∧ record'.status = .prepared) ∨
    ∃ record, ledger.byExecution[executionId]? = some record ∧
      (record'.status = record.status ∨ (record.status, record'.status) ∈ statusMoves)

variable {codec : SnapshotCodec} {ledger ledger' : InMemoryExecutionLedger}

theorem recordsOk_default : default.RecordsOk := by
  intro executionId record hfound
  simp [default] at hfound

theorem RecordsOk.evolves (hok : ledger.RecordsOk) (h : Evolves codec ledger ledger') :
    ledger'.RecordsOk := by
  intro executionId record' hfound
  obtain ⟨record, hrecord, hstep⟩ | ⟨-, ambient, intent, rfl⟩ := h.record_before hfound
  · exact hstep.recordOk (hok executionId record hrecord)
  · exact recordOk_prepared ledger ambient intent

theorem RecordsOk.moves (hok : ledger.RecordsOk) (h : Evolves codec ledger ledger') :
    ledger.Moves ledger' := by
  intro executionId record' hfound
  obtain ⟨record, hrecord, hstep⟩ | ⟨hnone, ambient, intent, rfl⟩ := h.record_before hfound
  · exact .inr ⟨record, hrecord, hstep.status_moves (hok executionId record hrecord)⟩
  · exact .inl ⟨hnone, rfl⟩

theorem Continues.refl (ledger : InMemoryExecutionLedger) : ledger.Continues ledger :=
  fun _ record hfound => ⟨record, hfound, .refl record⟩

theorem Continues.trans {ledger'' : InMemoryExecutionLedger} (h : ledger.Continues ledger')
    (h' : ledger'.Continues ledger'') : ledger.Continues ledger'' := by
  intro executionId record hfound
  obtain ⟨record', hrecord', hlater⟩ := h executionId record hfound
  obtain ⟨record'', hrecord'', hlater'⟩ := h' executionId record' hrecord'
  exact ⟨record'', hrecord'', hlater.trans hlater'⟩

theorem Continues.of_evolves (h : Evolves codec ledger ledger') : ledger.Continues ledger' := by
  intro executionId record hfound
  obtain ⟨record', hrecord', hstep⟩ := h.record_after hfound
  exact ⟨record', hrecord', hstep.later⟩

end InMemoryExecutionLedger

/-- **The life of an execution**: in every run statuses move along `statusMoves`, the final ones
stay, and a record has both references exactly when it has succeeded. -/
theorem execution_lifecycle (digest : EventDigest) (codec : SnapshotCodec)
    {cfg : Config InMemoryExecutionLedger ScanCall ScanCall.Answer Unit}
    (hreach : (system digest codec).Reachable .default cfg) :
    (∀ cfg', (system digest codec).Step cfg cfg' → cfg.shared.Moves cfg'.shared) ∧
    (∀ cfg', (system digest codec).Steps cfg cfg' →
      ∀ (executionId : ExecutionId) record, cfg.shared.byExecution[executionId]? = some record →
        ∃ record', cfg'.shared.byExecution[executionId]? = some record' ∧
          (record.status = .succeeded ∨ record.status = .failed →
            record'.status = record.status ∧ record'.resultRef = record.resultRef ∧
              record'.evidenceRef = record.evidenceRef ∧
              record'.lastErrorCode = record.lastErrorCode) ∧
          (record.status = .unknown → record'.status ≠ .failed)) ∧
    (∀ (executionId : ExecutionId) record, cfg.shared.byExecution[executionId]? = some record →
      (record.status = .succeeded ↔ record.resultRef.isSome ∧ record.evidenceRef.isSome) ∧
        record.attempt ≤ 1) := by
  have hok : cfg.shared.RecordsOk :=
    invariant_of_steps (P := fun c => c.shared.RecordsOk)
      (fun _ _ h hstep => h.evolves (step_evolves hstep))
      InMemoryExecutionLedger.recordsOk_default hreach
  refine ⟨fun cfg' hstep => hok.moves (step_evolves hstep), ?_, ?_⟩
  · intro cfg' hsteps executionId record hfound
    have hcontinues : cfg.shared.Continues cfg'.shared :=
      relates_of_steps (P := fun _ => True) (R := fun c c' => c.shared.Continues c'.shared)
        (fun c => .refl c.shared) (fun _ _ _ h h' => h.trans h')
        (fun _ _ _ hstep => ⟨trivial, .of_evolves (step_evolves hstep)⟩) trivial hsteps
    obtain ⟨record', hrecord', hlater⟩ := hcontinues executionId record hfound
    refine ⟨record', hrecord', hlater.frozen, fun hunknown hfailed => ?_⟩
    rcases hlater.unknown hunknown with h | h <;> rw [hfailed] at h <;> cases h
  · intro executionId record hfound
    obtain ⟨-, hresult, hevidence, hattempt, -⟩ := hok executionId record hfound
    refine ⟨?_, hattempt⟩
    rw [hresult, hevidence, and_self]

/-- In the sample run the execution was lost, so no continuation ever reports it as failed. -/
theorem execution_lifecycle_sampleLost :
    (sampleLost.shared.byExecution[sampleFence.executionId]?.map (·.status)) = some .unknown ∧
    ∀ cfg', (system sampleDigest sampleCodec).Steps sampleLost cfg' →
      (cfg'.shared.byExecution[sampleFence.executionId]?.map (·.status)) ≠ some .failed := by
  have hlost : sampleLost.shared.byExecution[sampleFence.executionId]?.map (·.status) =
      some .unknown := by decide
  refine ⟨hlost, fun cfg' hsteps => ?_⟩
  obtain ⟨record, hrecord, hstatus⟩ := Option.map_eq_some_iff.mp hlost
  obtain ⟨record', hrecord', -, hnever⟩ :=
    (execution_lifecycle sampleDigest sampleCodec sampleLost_reachable).2.1 cfg' hsteps _ _ hrecord
  rw [hrecord', Option.map_some, ne_eq, Option.some.injEq]
  exact hnever hstatus

end AgentSphere.Ledger
