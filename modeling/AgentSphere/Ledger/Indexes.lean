import AgentSphere.Ledger.Recovery

/-!
# The two indexes and the fence counter

The ledger finds a record by its execution and by its tenant and idempotency key, and hands out
fence tokens from a counter. A restart writes out only the first index. `Indexed` says how the
parts fit together; `reservations` reads the answered reservations off a trace.
-/

namespace AgentSphere.Ledger

open Concurrency

namespace ExecutionRecord

def identity (record : ExecutionRecord) :
    ExecutionId × (TenantId × IdempotencyKey) × Nat × ActionHash :=
  (record.executionId, record.key, record.fenceToken, record.intent.actionHash)

theorem identity_eq {record record' : ExecutionRecord} (h : record.identity = record'.identity) :
    record.executionId = record'.executionId ∧ record.key = record'.key ∧
      record.fenceToken = record'.fenceToken ∧
      record.intent.actionHash = record'.intent.actionHash := by
  simpa [identity] using h

end ExecutionRecord

namespace InMemoryExecutionLedger

/-- The indexes are inverse to each other and the tokens `1..n` have been handed out. -/
structure Indexed (ledger : InMemoryExecutionLedger) (n : Nat) : Prop where
  executionId : ∀ {executionId : ExecutionId} {record},
    ledger.byExecution[executionId]? = some record → record.executionId = executionId
  record_of_key : ∀ {key : TenantId × IdempotencyKey} {executionId},
    ledger.byIdempotency[key]? = some executionId →
    ∃ record, ledger.byExecution[executionId]? = some record ∧ record.key = key
  key_of_record : ∀ {executionId : ExecutionId} {record},
    ledger.byExecution[executionId]? = some record →
    ledger.byIdempotency[record.key]? = some executionId
  token_le : ∀ {executionId : ExecutionId} {record},
    ledger.byExecution[executionId]? = some record → record.fenceToken ≤ n
  token_injective : ∀ {executionId executionId' : ExecutionId} {record record'},
    ledger.byExecution[executionId]? = some record →
    ledger.byExecution[executionId']? = some record' →
    record.fenceToken = record'.fenceToken → executionId = executionId'
  token_last : 0 < n →
    ∃ (executionId : ExecutionId) (record : ExecutionRecord),
      ledger.byExecution[executionId]? = some record ∧ record.fenceToken = n
  nextFence : ledger.nextFence = n + 1

variable {ledger ledger' : InMemoryExecutionLedger} {n : Nat}

theorem indexed_default : Indexed default 0 := by
  constructor <;> simp [default]

def SameIdentities (ledger ledger' : InMemoryExecutionLedger) : Prop :=
  ∀ executionId : ExecutionId, ledger'.byExecution[executionId]?.map ExecutionRecord.identity =
    ledger.byExecution[executionId]?.map ExecutionRecord.identity

theorem SameIdentities.before (h : ledger.SameIdentities ledger') {executionId : ExecutionId}
    {record' : ExecutionRecord} (hfound : ledger'.byExecution[executionId]? = some record') :
    ∃ record, ledger.byExecution[executionId]? = some record ∧
      record.identity = record'.identity := by
  have hsame := h executionId
  rw [hfound, Option.map_some, eq_comm, Option.map_eq_some_iff] at hsame
  exact hsame

theorem SameIdentities.after (h : ledger.SameIdentities ledger') {executionId : ExecutionId}
    {record : ExecutionRecord} (hfound : ledger.byExecution[executionId]? = some record) :
    ∃ record', ledger'.byExecution[executionId]? = some record' ∧
      record'.identity = record.identity := by
  have hsame := h executionId
  rw [hfound, Option.map_some, Option.map_eq_some_iff] at hsame
  exact hsame

theorem Indexed.congr (h : ledger.Indexed n) (hsame : ledger.SameIdentities ledger')
    (hkeys : ledger'.byIdempotency = ledger.byIdempotency)
    (hfence : ledger'.nextFence = ledger.nextFence) : ledger'.Indexed n := by
  refine ⟨?_, ?_, ?_, ?_, ?_, ?_, hfence.trans h.nextFence⟩
  · intro id r' hr'
    obtain ⟨r, hr, heq⟩ := hsame.before hr'
    exact (ExecutionRecord.identity_eq heq).1.symm.trans (h.executionId hr)
  · intro key id hkey
    rw [hkeys] at hkey
    obtain ⟨r, hr, hrkey⟩ := h.record_of_key hkey
    obtain ⟨r', hr', heq⟩ := hsame.after hr
    exact ⟨r', hr', (ExecutionRecord.identity_eq heq).2.1.trans hrkey⟩
  · intro id r' hr'
    obtain ⟨r, hr, heq⟩ := hsame.before hr'
    rw [hkeys, ← (ExecutionRecord.identity_eq heq).2.1]
    exact h.key_of_record hr
  · intro id r' hr'
    obtain ⟨r, hr, heq⟩ := hsame.before hr'
    rw [← (ExecutionRecord.identity_eq heq).2.2.1]
    exact h.token_le hr
  · intro id id' r' s' hr' hs' htoken
    obtain ⟨r, hr, hreq⟩ := hsame.before hr'
    obtain ⟨s, hs, hseq⟩ := hsame.before hs'
    refine h.token_injective hr hs ?_
    rw [(ExecutionRecord.identity_eq hreq).2.2.1, (ExecutionRecord.identity_eq hseq).2.2.1, htoken]
  · intro hpos
    obtain ⟨id, r, hr, htoken⟩ := h.token_last hpos
    obtain ⟨r', hr', heq⟩ := hsame.after hr
    exact ⟨id, r', hr', (ExecutionRecord.identity_eq heq).2.2.1.trans htoken⟩

theorem sameIdentities_put {executionId : ExecutionId} {record record' : ExecutionRecord}
    {event : OutboxEvent} (hfound : ledger.byExecution[executionId]? = some record)
    (hmove : Move record record') :
    ledger.SameIdentities (ledger.put executionId record' event) := by
  intro id
  by_cases hid : executionId = id
  · subst hid
    simp [hfound, ExecutionRecord.identity, hmove.intent_eq, hmove.executionId_eq,
      hmove.fenceToken_eq, hmove.key_eq]
  · simp [hid]

theorem Indexed.put (h : ledger.Indexed n) {executionId : ExecutionId}
    {record record' : ExecutionRecord} {event : OutboxEvent}
    (hfound : ledger.byExecution[executionId]? = some record) (hmove : Move record record') :
    (ledger.put executionId record' event).Indexed n :=
  h.congr (sameIdentities_put hfound hmove) rfl rfl

theorem Indexed.insertPrepared (h : ledger.Indexed n) {ambient : Ambient}
    (hfresh : ambient.Fresh ledger) {intent : ExecutionIntent}
    (habsent : ledger.byIdempotency[intent.key]? = none) (hn : n + 2 < 2 ^ 64) :
    (ledger.insertPrepared ambient intent).Indexed (n + 1) := by
  have hprepared : (ledger.preparedRecord ambient intent).fenceToken = n + 1 := h.nextFence
  have hcases : ∀ {id : ExecutionId} {r : ExecutionRecord},
      (ledger.insertPrepared ambient intent).byExecution[id]? = some r →
      (id = ambient.executionUuid.toStr ∧ r = ledger.preparedRecord ambient intent) ∨
      (id ≠ ambient.executionUuid.toStr ∧ ledger.byExecution[id]? = some r) := by
    intro id r hr
    by_cases hid : ambient.executionUuid.toStr = id
    · subst hid
      exact .inl ⟨rfl, by simpa using hr.symm⟩
    · exact .inr ⟨Ne.symm hid, by simpa [hid] using hr⟩
  have hkept : ∀ {id : ExecutionId} {r : ExecutionRecord}, ledger.byExecution[id]? = some r →
      (ledger.insertPrepared ambient intent).byExecution[id]? = some r := by
    intro id r hr
    have hid : ambient.executionUuid.toStr ≠ id := by
      rintro rfl
      rw [Ambient.Fresh, hr] at hfresh
      cases hfresh
    simpa [hid] using hr
  refine ⟨?_, ?_, ?_, ?_, ?_, ?_, ?_⟩
  · intro id r hr
    obtain ⟨rfl, rfl⟩ | ⟨-, hr⟩ := hcases hr
    · rfl
    · exact h.executionId hr
  · intro key id hkey
    by_cases hk : intent.key = key
    · subst hk
      obtain rfl : ambient.executionUuid.toStr = id := by simpa using hkey
      exact ⟨ledger.preparedRecord ambient intent, by simp, rfl⟩
    · obtain ⟨r, hr, hrkey⟩ := h.record_of_key (by simpa [hk] using hkey)
      exact ⟨r, hkept hr, hrkey⟩
  · intro id r hr
    obtain ⟨rfl, rfl⟩ | ⟨-, hr⟩ := hcases hr
    · simp
    · have hk : intent.key ≠ r.key := by
        intro hk
        rw [hk, h.key_of_record hr] at habsent
        cases habsent
      simpa [hk] using h.key_of_record hr
  · intro id r hr
    obtain ⟨rfl, rfl⟩ | ⟨-, hr⟩ := hcases hr
    · exact Nat.le_of_eq hprepared
    · exact Nat.le_succ_of_le (h.token_le hr)
  · intro id id' r r' hr hr' heq
    obtain ⟨rfl, rfl⟩ | ⟨-, hr⟩ := hcases hr
    · obtain ⟨rfl, -⟩ | ⟨-, hr'⟩ := hcases hr'
      · rfl
      · have hle := h.token_le hr'
        omega
    · obtain ⟨rfl, rfl⟩ | ⟨-, hr'⟩ := hcases hr'
      · have hle := h.token_le hr
        omega
      · exact h.token_injective hr hr' heq
  · intro _
    exact ⟨ambient.executionUuid.toStr, ledger.preparedRecord ambient intent, by simp, hprepared⟩
  · rw [insertPrepared_nextFence, h.nextFence, Nat.mod_eq_of_lt hn]

section Rebuild

variable (entries : List (ExecutionId × ExecutionRecord))
  (rebuilt : BTreeMap (TenantId × IdempotencyKey) ExecutionId × Nat)

theorem foldl_indexRecord_sound {key : TenantId × IdempotencyKey} {executionId : ExecutionId}
    (h : (entries.foldl indexRecord rebuilt).1[key]? = some executionId) :
    rebuilt.1[key]? = some executionId ∨
      ∃ record, (executionId, record) ∈ entries ∧ record.key = key := by
  induction entries generalizing rebuilt with
  | nil => exact .inl h
  | cons entry rest ih =>
    obtain hrest | ⟨record, hmem, hkey⟩ := ih _ h
    · by_cases hk : entry.2.key = key
      · obtain rfl : entry.1 = executionId := by simpa [indexRecord, hk] using hrest
        exact .inr ⟨entry.2, List.mem_cons_self, hk⟩
      · exact .inl (by simpa [indexRecord, hk] using hrest)
    · exact .inr ⟨record, List.mem_cons_of_mem _ hmem, hkey⟩

theorem foldl_indexRecord_complete {key : TenantId × IdempotencyKey}
    (h : rebuilt.1[key]?.isSome ∨ ∃ entry ∈ entries, entry.2.key = key) :
    (entries.foldl indexRecord rebuilt).1[key]?.isSome := by
  induction entries generalizing rebuilt with
  | nil => simpa using h
  | cons entry rest ih =>
    refine ih (indexRecord rebuilt entry) ?_
    by_cases hk : entry.2.key = key
    · exact .inl (by simp [indexRecord, hk])
    · obtain hbefore | ⟨other, hmem, hkey⟩ := h
      · exact .inl (by simpa [indexRecord, hk] using hbefore)
      · obtain rfl | hmem := List.mem_cons.mp hmem
        · exact absurd hkey hk
        · exact .inr ⟨other, hmem, hkey⟩

theorem foldl_indexRecord_fence :
    (∀ entry ∈ entries, entry.2.fenceToken ≤ (entries.foldl indexRecord rebuilt).2) ∧
    rebuilt.2 ≤ (entries.foldl indexRecord rebuilt).2 ∧
    ((entries.foldl indexRecord rebuilt).2 = rebuilt.2 ∨
      ∃ entry ∈ entries, (entries.foldl indexRecord rebuilt).2 = entry.2.fenceToken) := by
  induction entries generalizing rebuilt with
  | nil => simp
  | cons entry rest ih =>
    obtain ⟨hall, hstart, hreached⟩ := ih (indexRecord rebuilt entry)
    have hboth : rebuilt.2 ≤ (indexRecord rebuilt entry).2 ∧
        entry.2.fenceToken ≤ (indexRecord rebuilt entry).2 :=
      ⟨Nat.le_max_left .., Nat.le_max_right ..⟩
    refine ⟨?_, Nat.le_trans hboth.1 hstart, ?_⟩
    · intro other hmem
      obtain rfl | hmem := List.mem_cons.mp hmem
      · exact Nat.le_trans hboth.2 hstart
      · exact hall other hmem
    · obtain hsame | ⟨other, hmem, hother⟩ := hreached
      · have hmax : (indexRecord rebuilt entry).2 = rebuilt.2 ∨
            (indexRecord rebuilt entry).2 = entry.2.fenceToken := by
          simp only [indexRecord]
          omega
        obtain hmax | hmax := hmax
        · exact .inl (hsame.trans hmax)
        · exact .inr ⟨entry, List.mem_cons_self, hsame.trans hmax⟩
      · exact .inr ⟨other, List.mem_cons_of_mem _ hmem, hother⟩

end Rebuild

section Restart

variable {codec : SnapshotCodec}

theorem Restart.sameIdentities (h : Restart codec ledger ledger') :
    ledger.SameIdentities ledger' := by
  intro executionId
  have hkept : ∀ record : Option ExecutionRecord, record.map ExecutionRecord.identity =
      (record.map ExecutionRecord.withoutExpectedValues).map ExecutionRecord.identity := by
    intro record
    cases record <;> rfl
  rw [hkept, h.cases.2.1 executionId, ← hkept]

theorem Indexed.restart_byIdempotency (h : ledger.Indexed n)
    (hrestart : Restart codec ledger ledger') : ledger'.byIdempotency = ledger.byIdempotency := by
  have hsame := hrestart.sameIdentities
  have hrebuilt := hrestart.cases.2.2.1
  -- a record of the key, before or after the restart, is the one the index pointed to
  have hunique : ∀ {key : TenantId × IdempotencyKey} {executionId : ExecutionId},
      ledger'.byIdempotency[key]? = some executionId →
      ledger.byIdempotency[key]? = some executionId := by
    intro key executionId hkey
    rw [hrebuilt] at hkey
    obtain hempty | ⟨record', hmem, hkey'⟩ := foldl_indexRecord_sound _ _ hkey
    · simp at hempty
    · rw [Std.ExtTreeMap.mem_toList_iff_getElem?_eq_some] at hmem
      obtain ⟨record, hrecord, heq⟩ := hsame.before hmem
      rw [← hkey', ← (ExecutionRecord.identity_eq heq).2.1]
      exact h.key_of_record hrecord
  refine Std.ExtTreeMap.ext_getElem? fun key => ?_
  cases hkey : ledger'.byIdempotency[key]? with
  | some executionId => exact (hunique hkey).symm
  | none =>
    cases hbefore : ledger.byIdempotency[key]? with
    | none => rfl
    | some executionId =>
      obtain ⟨record, hrecord, hrkey⟩ := h.record_of_key hbefore
      obtain ⟨record', hrecord', heq⟩ := hsame.after hrecord
      have hpresent : ledger'.byIdempotency[key]?.isSome := by
        rw [hrebuilt]
        refine foldl_indexRecord_complete _ _ (.inr ⟨(executionId, record'), ?_, ?_⟩)
        · rwa [Std.ExtTreeMap.mem_toList_iff_getElem?_eq_some]
        · exact (ExecutionRecord.identity_eq heq).2.1.trans hrkey
      rw [hkey] at hpresent
      cases hpresent

theorem Indexed.restart_nextFence (h : ledger.Indexed n) (hn : n + 1 < 2 ^ 64)
    (hrestart : Restart codec ledger ledger') : ledger'.nextFence = ledger.nextFence := by
  have hsame := hrestart.sameIdentities
  obtain ⟨hall, -, hreached⟩ := foldl_indexRecord_fence ledger'.byExecution.toList (∅, 0)
  have hle : ∀ entry ∈ ledger'.byExecution.toList, entry.2.fenceToken ≤ n := by
    rintro ⟨executionId, record'⟩ hmem
    rw [Std.ExtTreeMap.mem_toList_iff_getElem?_eq_some] at hmem
    obtain ⟨record, hrecord, heq⟩ := hsame.before hmem
    rw [← (ExecutionRecord.identity_eq heq).2.2.1]
    exact h.token_le hrecord
  have hmax : (ledger'.byExecution.toList.foldl indexRecord (∅, 0)).2 = n := by
    apply Nat.le_antisymm
    · obtain hzero | ⟨entry, hmem, hentry⟩ := hreached
      · rw [hzero]
        exact Nat.zero_le n
      · rw [hentry]
        exact hle entry hmem
    · rcases Nat.eq_zero_or_pos n with hzero | hpos
      · rw [hzero]
        exact Nat.zero_le _
      · obtain ⟨executionId, record, hrecord, htoken⟩ := h.token_last hpos
        obtain ⟨record', hrecord', heq⟩ := hsame.after hrecord
        rw [← htoken, ← (ExecutionRecord.identity_eq heq).2.2.1]
        exact hall (executionId, record')
          (Std.ExtTreeMap.mem_toList_iff_getElem?_eq_some.mpr hrecord')
  rw [hrestart.cases.2.2.2, hmax, h.nextFence, Nat.mod_eq_of_lt hn]

theorem Indexed.restart (h : ledger.Indexed n) (hn : n + 1 < 2 ^ 64)
    (hrestart : Restart codec ledger ledger') : ledger'.Indexed n :=
  h.congr hrestart.sameIdentities (h.restart_byIdempotency hrestart)
    (h.restart_nextFence hn hrestart)

end Restart

end InMemoryExecutionLedger

-- The reservations of a run

/-- A successful `reserve` call in a trace: what was asked for and what was answered. -/
def reserveOutcome :
    Event InMemoryExecutionLedger ScanCall ScanCall.Answer → Option (ExecutionIntent × Reservation)
  | ⟨_, .ledger (.reserve intent), .ok reservation, _, _⟩ => some (intent, reservation)
  | _ => none

/-- The successful `reserve` calls of a trace, in order. -/
def reservations (trace : List (Event InMemoryExecutionLedger ScanCall ScanCall.Answer)) :
    List (ExecutionIntent × Reservation) :=
  trace.filterMap reserveOutcome

def created (answers : List (ExecutionIntent × Reservation)) : Nat :=
  answers.countP (fun answer => answer.2.existing = false)

def createdFor (key : TenantId × IdempotencyKey)
    (answers : List (ExecutionIntent × Reservation)) : Nat :=
  answers.countP (fun answer => answer.1.key = key ∧ answer.2.existing = false)

theorem createdFor_append (key : TenantId × IdempotencyKey)
    (answers : List (ExecutionIntent × Reservation)) (answer : ExecutionIntent × Reservation) :
    createdFor key (answers ++ [answer]) =
      createdFor key answers +
        if answer.1.key = key ∧ answer.2.existing = false then 1 else 0 := by
  simp [createdFor, List.countP_append, List.countP_singleton]

/-- The answered reservations speak of the stored records, and each stored key was created by
one of them. -/
structure Answered (ledger : InMemoryExecutionLedger)
    (answers : List (ExecutionIntent × Reservation)) : Prop where
  record : ∀ answer ∈ answers, ∃ record,
    ledger.byExecution[answer.2.executionId]? = some record ∧ record.key = answer.1.key ∧
      record.intent.actionHash = answer.1.actionHash ∧
      answer.2.fence = ⟨answer.1.tenantId, answer.2.executionId, record.fenceToken⟩
  once : ∀ key : TenantId × IdempotencyKey,
    createdFor key answers = if (ledger.byIdempotency[key]?).isSome then 1 else 0

namespace Answered

variable {ledger ledger' : InMemoryExecutionLedger}
  {answers : List (ExecutionIntent × Reservation)}

theorem congr (h : Answered ledger answers) (hsame : ledger.SameIdentities ledger')
    (hkeys : ledger'.byIdempotency = ledger.byIdempotency) : Answered ledger' answers where
  record answer hmem := by
    obtain ⟨record, hrecord, hkey, hhash, hfence⟩ := h.record answer hmem
    obtain ⟨record', hrecord', heq⟩ := hsame.after hrecord
    obtain ⟨-, hkey', htoken', hhash'⟩ := ExecutionRecord.identity_eq heq
    refine ⟨record', hrecord', hkey'.trans hkey, hhash'.trans hhash, ?_⟩
    rw [hfence, htoken']
  once key := by rw [hkeys, h.once key]

theorem existing (h : Answered ledger answers) {intent : ExecutionIntent}
    {executionId : ExecutionId} {record : ExecutionRecord}
    (hrecord : ledger.byExecution[executionId]? = some record) (hkey : record.key = intent.key)
    (hhash : record.intent.actionHash = intent.actionHash) :
    Answered ledger (answers ++ [(intent,
      InMemoryExecutionLedger.reservationOf executionId record true)]) where
  record answer hmem := by
    rcases List.mem_append.mp hmem with hmem | hmem
    · exact h.record answer hmem
    · obtain rfl := List.mem_singleton.mp hmem
      refine ⟨record, hrecord, hkey, hhash, ?_⟩
      simp only [InMemoryExecutionLedger.reservationOf]
      rw [show record.intent.tenantId = intent.tenantId from congrArg Prod.fst hkey]
  once key := by
    rw [createdFor_append, h.once key]
    simp [InMemoryExecutionLedger.reservationOf]

theorem insertPrepared (h : Answered ledger answers) {ambient : Ambient}
    (hfresh : ambient.Fresh ledger) {intent : ExecutionIntent}
    (habsent : ledger.byIdempotency[intent.key]? = none) :
    Answered (ledger.insertPrepared ambient intent) (answers ++ [(intent,
      InMemoryExecutionLedger.reservationOf ambient.executionUuid.toStr
        (ledger.preparedRecord ambient intent) false)]) where
  record answer hmem := by
    rcases List.mem_append.mp hmem with hmem | hmem
    · obtain ⟨record, hrecord, hrest⟩ := h.record answer hmem
      have hne : ambient.executionUuid.toStr ≠ answer.2.executionId := by
        intro heq
        rw [Ambient.Fresh, heq, hrecord] at hfresh
        cases hfresh
      exact ⟨record, by simpa [hne] using hrecord, hrest⟩
    · obtain rfl := List.mem_singleton.mp hmem
      refine ⟨ledger.preparedRecord ambient intent, ?_, rfl, rfl, rfl⟩
      simp [InMemoryExecutionLedger.reservationOf]
  once key := by
    rw [createdFor_append, h.once key]
    by_cases hk : intent.key = key
    · subst hk
      rw [habsent]
      simp [InMemoryExecutionLedger.reservationOf]
    · simp [hk]

end Answered

variable {digest : EventDigest} {codec : SnapshotCodec}

/-- The invariant of a run: the indexes fit and the answers are true, as long as fewer than
`2 ^ 64 - 1` executions have been created. -/
def Consistent (cfg : Config InMemoryExecutionLedger ScanCall ScanCall.Answer Unit) : Prop :=
  created (reservations cfg.trace) < 2 ^ 64 - 1 →
    cfg.shared.Indexed (created (reservations cfg.trace)) ∧
      Answered cfg.shared (reservations cfg.trace)

theorem reservations_append (trace : List (Event InMemoryExecutionLedger ScanCall ScanCall.Answer))
    (event : Event InMemoryExecutionLedger ScanCall ScanCall.Answer) :
    reservations (trace ++ [event]) = reservations trace ++ (reserveOutcome event).toList := by
  rw [reservations, List.filterMap_append, ← reservations]
  cases hevent : reserveOutcome event <;> simp [hevent]

theorem created_append (answers more : List (ExecutionIntent × Reservation)) :
    created (answers ++ more) = created answers + created more :=
  List.countP_append

/-- A call other than `reserve` keeps the invariant of a ledger and its answers. -/
theorem serve_other {ledger ledger' : InMemoryExecutionLedger} {call : ScanCall}
    {answer : call.Answer} {answers : List (ExecutionIntent × Reservation)} {n : Nat}
    (hcall : ∀ intent, call ≠ .ledger (.reserve intent))
    (hserved : serve digest ledger call answer ledger')
    (hindexed : ledger.Indexed n) (hanswered : Answered ledger answers) :
    ledger'.Indexed n ∧ Answered ledger' answers := by
  cases call with
  | ledger call =>
    obtain ⟨ambient, hfresh, heq⟩ := hserved
    have hkeys : ledger'.byIdempotency = ledger.byIdempotency := by
      have hperform := InMemoryExecutionLedger.perform_byIdempotency ledger ambient digest
        (fun intent h => hcall intent (congrArg ScanCall.ledger h))
      rw [heq] at hperform
      exact hperform
    have hchange := InMemoryExecutionLedger.perform_change ledger ambient digest call
    rw [heq] at hchange
    cases hchange with
    | none => exact ⟨hindexed, hanswered⟩
    | reserved intent valid absent =>
      have hpresent := congrArg (fun index => index[intent.key]?) hkeys
      simp [absent] at hpresent
    | moved found move =>
      exact ⟨hindexed.put found move,
        hanswered.congr (InMemoryExecutionLedger.sameIdentities_put found move) rfl⟩
  | resolve record =>
    obtain rfl : ledger' = ledger := hserved
    exact ⟨hindexed, hanswered⟩
  | newUuid =>
    obtain rfl : ledger' = ledger := hserved
    exact ⟨hindexed, hanswered⟩
  | utcNow =>
    obtain rfl : ledger' = ledger := hserved
    exact ⟨hindexed, hanswered⟩

/-- A `reserve` call keeps the invariant and makes its own answer true. -/
theorem serve_reserve {ledger ledger' : InMemoryExecutionLedger} {intent : ExecutionIntent}
    {answer : Except LedgerError Reservation} {answers more : List (ExecutionIntent × Reservation)}
    (hserved : serve digest ledger (.ledger (.reserve intent)) answer ledger')
    (hmore : more = match answer with
      | .ok reservation => [(intent, reservation)]
      | .error _ => [])
    (hbound : created (answers ++ more) < 2 ^ 64 - 1)
    (hindexed : ledger.Indexed (created answers)) (hanswered : Answered ledger answers) :
    ledger'.Indexed (created (answers ++ more)) ∧ Answered ledger' (answers ++ more) := by
  obtain ⟨ambient, hfresh, heq⟩ := hserved
  simp only [InMemoryExecutionLedger.perform] at heq
  obtain ⟨e, hcase⟩ | ⟨executionId, record, -, hkey, hrecord, hhash, hcase⟩ |
      ⟨-, habsent, hcase⟩ := InMemoryExecutionLedger.reserve_cases ledger ambient intent
  · obtain ⟨rfl, rfl⟩ := by simpa using hcase.symm.trans heq
    simpa [hmore] using ⟨hindexed, hanswered⟩
  · obtain ⟨rfl, rfl⟩ := by simpa using hcase.symm.trans heq
    obtain ⟨record', hrecord', hrkey⟩ := hindexed.record_of_key hkey
    obtain rfl : record' = record := by simpa [hrecord] using hrecord'.symm
    have hnone : created more = 0 := by
      simp [hmore, created, InMemoryExecutionLedger.reservationOf]
    rw [created_append, hnone, Nat.add_zero]
    subst hmore
    exact ⟨hindexed, hanswered.existing hrecord hrkey hhash⟩
  · obtain ⟨rfl, rfl⟩ := by simpa using hcase.symm.trans heq
    have hone : created more = 1 := by
      simp [hmore, created, InMemoryExecutionLedger.reservationOf]
    rw [created_append, hone] at hbound ⊢
    subst hmore
    exact ⟨hindexed.insertPrepared hfresh habsent (by omega),
      hanswered.insertPrepared hfresh habsent⟩

theorem Consistent.step {cfg cfg' : Config InMemoryExecutionLedger ScanCall ScanCall.Answer Unit}
    (h : Consistent cfg) (hstep : (system digest codec).Step cfg cfg') : Consistent cfg' := by
  intro hbound
  cases hstep with
  | start p starts => exact h hbound
  | internal ledger' restarts =>
    obtain ⟨hindexed, hanswered⟩ := h hbound
    have hkeys := hindexed.restart_byIdempotency restarts
    exact ⟨hindexed.restart (by simp only at hbound; omega) restarts,
      hanswered.congr restarts.sameIdentities hkeys⟩
  | advance i call resume answer ledger' suspended served =>
    simp only [reservations_append] at hbound ⊢
    have hbefore : created (reservations cfg.trace) < 2 ^ 64 - 1 := by
      rw [created_append] at hbound
      omega
    obtain ⟨hindexed, hanswered⟩ := h hbefore
    by_cases hreserve : ∃ intent, call = .ledger (.reserve intent)
    · obtain ⟨intent, rfl⟩ := hreserve
      refine serve_reserve served ?_ hbound hindexed hanswered
      cases answer <;> rfl
    · have hnone : reserveOutcome ⟨i, call, answer, cfg.shared, ledger'⟩ = none := by
        unfold reserveOutcome
        split
        · next heq =>
          cases heq
          exact absurd ⟨_, rfl⟩ hreserve
        · rfl
      rw [hnone, Option.toList_none, List.append_nil]
      exact serve_other (fun intent heq => hreserve ⟨intent, heq⟩) served hindexed hanswered

def refusal (intent : ExecutionIntent) : LedgerError :=
  match validateIntent intent with
  | .ok () => .idempotencyConflict
  | .error e => e

/-- **One execution for each key**: in every run the indexes are inverse to each other, fences are
distinct, and the reservations of one key agree. -/
theorem reservations_unique (digest : EventDigest) (codec : SnapshotCodec)
    {cfg : Config InMemoryExecutionLedger ScanCall ScanCall.Answer Unit}
    (hreach : (system digest codec).Reachable .default cfg)
    (hbound : created (reservations cfg.trace) < 2 ^ 64 - 1) :
    (∀ (key : TenantId × IdempotencyKey) (executionId : ExecutionId),
      cfg.shared.byIdempotency[key]? = some executionId ↔
        ∃ record, cfg.shared.byExecution[executionId]? = some record ∧ record.key = key) ∧
    (∀ (executionId : ExecutionId) record, cfg.shared.byExecution[executionId]? = some record →
      record.executionId = executionId ∧ record.fenceToken < cfg.shared.nextFence) ∧
    (∀ (executionId executionId' : ExecutionId) record record',
      cfg.shared.byExecution[executionId]? = some record →
      cfg.shared.byExecution[executionId']? = some record' →
      record.fenceToken = record'.fenceToken → executionId = executionId') ∧
    (∀ first ∈ reservations cfg.trace, ∀ second ∈ reservations cfg.trace,
      first.1.key = second.1.key →
        first.2.executionId = second.2.executionId ∧ first.2.fence = second.2.fence) ∧
    (∀ answer ∈ reservations cfg.trace,
      createdFor answer.1.key (reservations cfg.trace) = 1) ∧
    (∀ answer ∈ reservations cfg.trace, ∀ intent ambient, intent.key = answer.1.key →
      intent.actionHash ≠ answer.1.actionHash →
        cfg.shared.reserve ambient intent = (.error (refusal intent), cfg.shared)) := by
  have hconsistent : Consistent cfg :=
    invariant_of_steps (fun _ _ h hstep => h.step hstep)
      (fun _ => ⟨InMemoryExecutionLedger.indexed_default, by simp [System.initial, reservations],
        fun key => by simp [System.initial, reservations, createdFor,
          InMemoryExecutionLedger.default]⟩) hreach
  obtain ⟨hindexed, hanswered⟩ := hconsistent hbound
  refine ⟨fun key executionId => ⟨hindexed.record_of_key, ?_⟩, ?_, ?_, ?_, ?_, ?_⟩
  · rintro ⟨record, hrecord, rfl⟩
    exact hindexed.key_of_record hrecord
  · intro executionId record hrecord
    refine ⟨hindexed.executionId hrecord, ?_⟩
    rw [hindexed.nextFence]
    exact Nat.lt_succ_of_le (hindexed.token_le hrecord)
  · intro executionId executionId' record record' hrecord hrecord'
    exact hindexed.token_injective hrecord hrecord'
  · intro first hfirst second hsecond hkeys
    obtain ⟨record, hrecord, hkey, -, hfence⟩ := hanswered.record first hfirst
    obtain ⟨record', hrecord', hkey', -, hfence'⟩ := hanswered.record second hsecond
    have hid : first.2.executionId = second.2.executionId := by
      have hindex := hindexed.key_of_record hrecord
      have hindex' := hindexed.key_of_record hrecord'
      rw [hkey, hkeys, ← hkey', hindex'] at hindex
      exact (Option.some.inj hindex).symm
    obtain rfl : record = record' := by
      rw [hid, hrecord'] at hrecord
      exact (Option.some.inj hrecord).symm
    have htenant : first.1.tenantId = second.1.tenantId := congrArg Prod.fst hkeys
    exact ⟨hid, by rw [hfence, hfence', hid, htenant]⟩
  · intro answer hmem
    obtain ⟨record, hrecord, hkey, -, -⟩ := hanswered.record answer hmem
    rw [hanswered.once, ← hkey, hindexed.key_of_record hrecord]
    rfl
  · intro answer hmem intent ambient hkey hhash
    obtain ⟨record, hrecord, hrkey, hrhash, -⟩ := hanswered.record answer hmem
    have hindex : cfg.shared.byIdempotency[intent.key]? = some answer.2.executionId := by
      rw [hkey, ← hrkey]
      exact hindexed.key_of_record hrecord
    have hne : record.intent.actionHash ≠ intent.actionHash := by
      rw [hrhash]
      exact Ne.symm hhash
    unfold InMemoryExecutionLedger.reserve refusal
    cases hvalid : validateIntent intent with
    | error e => rfl
    | ok => simp [hindex, hrecord, hne]

/-- The sample run reserved its key once, and the key stays with that action. -/
theorem reservations_unique_sampleLost :
    (reservations sampleLost.trace).map (·.2.fence) = [sampleFence] ∧
    createdFor sampleIntent.key (reservations sampleLost.trace) = 1 ∧
    sampleLost.shared.reserve (sampleAmbient 13 3) { sampleIntent with actionHash := "other" } =
      (.error .idempotencyConflict, sampleLost.shared) := by
  have hanswers : (reservations sampleLost.trace).map (·.2.fence) = [sampleFence] := by decide
  have hbound : created (reservations sampleLost.trace) < 2 ^ 64 - 1 := by decide
  obtain ⟨-, -, -, -, honce, hrefused⟩ :=
    reservations_unique sampleDigest sampleCodec sampleLost_reachable hbound
  have hmem : (sampleIntent, (⟨sampleFence.executionId, sampleFence, false, .prepared⟩ :
      Reservation)) ∈ reservations sampleLost.trace := by decide
  exact ⟨hanswers, honce _ hmem, hrefused _ hmem _ _ rfl (by decide)⟩

/-- An intent that is not even well formed is refused as such, whatever the key already holds. -/
theorem reserve_not_always_conflict :
    ¬ ∀ (digest : EventDigest) (codec : SnapshotCodec)
      (cfg : Config InMemoryExecutionLedger ScanCall ScanCall.Answer Unit),
      (system digest codec).Reachable .default cfg →
      created (reservations cfg.trace) < 2 ^ 64 - 1 →
      ∀ answer ∈ reservations cfg.trace, ∀ intent ambient, intent.key = answer.1.key →
        intent.actionHash ≠ answer.1.actionHash →
          cfg.shared.reserve ambient intent = (.error .idempotencyConflict, cfg.shared) := by
  intro h
  have hmem : (sampleIntent, (⟨sampleFence.executionId, sampleFence, false, .prepared⟩ :
      Reservation)) ∈ reservations sampleLost.trace := by decide
  have hconflict := h sampleDigest sampleCodec sampleLost sampleLost_reachable (by decide) _ hmem
    { sampleIntent with schemaVersion := "agenttrust.ledger.v0", actionHash := "other" }
    (sampleAmbient 13 3) rfl (by decide)
  exact absurd (congrArg Prod.fst hconflict) (by decide)

end AgentSphere.Ledger
