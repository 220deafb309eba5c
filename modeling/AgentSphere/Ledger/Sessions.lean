import AgentSphere.Ledger.Agreement

/-!
# Concurrent transactions on the ledger in PostgreSQL

A transaction of `PostgresExecutionLedger` begins, updates the row it addresses and commits; in
between, others do the same. `now()` is the time at which a transaction began. The update waits
for the row to be unlocked and then goes by what is committed, and it keeps the lock to the end.
A reservation inserts rows nobody else can see before it commits, so it is one step after it has
begun. `status_event_fact` takes the event that sorts last by `created_at` and `event_id`.
-/

namespace AgentSphere.Ledger

open Concurrency

/-- The order of the type `uuid`. -/
def uuidOrder (uuid : Uuid) : Nat := uuid.digits.foldl (fun n d => 16 * n + d.val) 0

namespace OutboxRow

/-- Earlier by `created_at` and then by `event_id`. -/
def Before (event other : OutboxRow) : Prop :=
  event.createdAt < other.createdAt ∨
    event.createdAt = other.createdAt ∧ uuidOrder event.eventId < uuidOrder other.eventId

instance (event other : OutboxRow) : Decidable (event.Before other) :=
  inferInstanceAs (Decidable (_ ∨ _))

theorem Before.trans {a b c : OutboxRow} (hab : a.Before b) (hbc : b.Before c) : a.Before c := by
  have htime : ∀ s t u : Int, ∀ x y z : Nat, (s < t ∨ s = t ∧ x < y) → (t < u ∨ t = u ∧ y < z) →
      (s < u ∨ s = u ∧ x < z) := by omega
  exact htime _ _ _ _ _ _ hab hbc

end OutboxRow

/-- `serde_json::to_value` of a recovery case. -/
def ManualRecoveryCase.toJson (rfc3339 : DateTime → String) (case : ManualRecoveryCase) : Value :=
  .object [("case_id", .string case.caseId),
    ("evidence_refs", .array (case.evidenceRefs.map .string)),
    ("impact_scope", .string case.impactScope),
    ("last_known_state", .string case.lastKnownState),
    ("opened_at", .string (rfc3339 case.openedAt)),
    ("recommended_actions", .array (case.recommendedActions.map .string))]

/-- The column `payload`. -/
def OutboxPayload.toJson (rfc3339 : DateTime → String) : OutboxPayload → Value
  | .reserved => .object []
  | .transition status externalOperationId errorCode resultRef evidenceRef =>
    let text (value : Option String) : Value := (value.map Value.string).getD .null
    .object [("error_code", text errorCode), ("evidence_ref", text evidenceRef),
      ("external_operation_id", text externalOperationId), ("result_ref", text resultRef),
      ("status", .string status)]
  | .manualRecovery case => case.toJson rfc3339

namespace Database

def eventsOf (db : Database) (executionId : Uuid) : List OutboxRow :=
  db.outbox.filter fun event => event.executionId = executionId

/-- `ORDER BY created_at DESC, event_id DESC LIMIT 1`. -/
def latestFirst : List OutboxRow → Option OutboxRow
  | [] => none
  | event :: events =>
    match latestFirst events with
    | none => some event
    | some other => if event.Before other then some other else some event

/-- `SELECT … FROM execution_outbox WHERE tenant_id=$1 AND execution_id=$2 ORDER BY …`. -/
def selectStatusEvent (db : Database) (appTenantId : String) (tenantId executionId : Uuid) :
    Option OutboxRow :=
  latestFirst ((db.eventsOf executionId).filter fun event =>
    visible appTenantId event.tenantId && event.tenantId = tenantId)

def outboxEvent (rfc3339 : DateTime → String) (executionId : ExecutionId) (row : OutboxRow) :
    OutboxEvent where
  eventId := row.eventId.toStr
  executionId := executionId
  eventType := row.eventType
  payload := row.payload.toJson rfc3339
  createdAt := row.createdAt
  publishedAt := none

def statusEventFact (db : Database) (digest : EventDigest) (rfc3339 : DateTime → String)
    (tenantId : TenantId) (executionId : ExecutionId) : Except LedgerError LedgerEventFact :=
  match Uuid.parseStr tenantId, Uuid.parseStr executionId with
  | some tenantUuid, some executionUuid =>
    match db.selectStatusEvent tenantId tenantUuid executionUuid with
    | none => .error .notFound
    | some row => ledgerEventFact digest tenantId (outboxEvent rfc3339 executionId row)
  | _, _ => .error .notFound

theorem latestFirst_append {events : List OutboxRow} {event : OutboxRow}
    (h : ∀ other ∈ events, other.Before event) :
    latestFirst (events ++ [event]) = some event := by
  induction events with
  | nil => rfl
  | cons other events ih =>
    have hrest := ih fun e he => h e (List.mem_cons_of_mem _ he)
    rw [List.cons_append, latestFirst, hrest]
    exact if_pos (h other List.mem_cons_self)

end Database

namespace Mark

def eventType : Mark → String
  | .started _ => "EXECUTION_RUNNING"
  | .succeeded .. => "EXECUTION_SUCCEEDED"
  | .failed _ => "EXECUTION_FAILED"
  | .unknown _ => "EXECUTION_UNKNOWN"
  | .manualRecovery _ => "MANUAL_RECOVERY_REQUIRED"

def payload : Mark → OutboxPayload
  | .started operation => .transition "RUNNING" operation none none none
  | .succeeded result evidence => .transition "SUCCEEDED" none none (some result) (some evidence)
  | .failed error => .transition "FAILED" none (some error) none none
  | .unknown error => .transition "UNKNOWN" none (some error) none none
  | .manualRecovery case => .manualRecovery case

end Mark

namespace Database

variable (db : Database) (tx : Transaction)

/-- The `UPDATE` and the `INSERT` of a `mark` transaction: the new row and the event, which
nobody else sees yet. -/
def stage (mark : Mark) (fence : ExecutionFence) : Except LedgerError (ExecutionRow × OutboxRow) :=
  match Uuid.parseStr fence.executionId, Uuid.parseStr fence.tenantId with
  | some executionId, some tenantId =>
    if ¬ mark.strings.all acceptsText then .error .storeFailure
    else
      let (changed, updated) := db.updateExecution fence.tenantId tenantId executionId
        (asI64 fence.token) (mark.allowed.map statusText) (mark.onRow tx.now)
      if changed ≠ 1 then .error .staleFence
      else
        match updated.executions[executionId.toStr]? with
        | none => .error .storeFailure
        | some row =>
          .ok (row, ⟨tx.eventUuid, tenantId, executionId, mark.eventType, mark.payload, tx.now⟩)
  | _, _ => .error .storeFailure

/-- `COMMIT`: both become visible, unless the identifier of the event is taken. -/
def commitStaged (row : ExecutionRow) (event : OutboxRow) : Option Database :=
  { db with executions := db.executions.insert event.executionId.toStr row }.insertOutbox
    event.tenantId.toStr event

end Database

inductive SessionCall where
  | reserve (intent : ExecutionIntent)
  | mark (mark : Mark) (fence : ExecutionFence)

inductive Phase where
  | begun
  | holding (row : ExecutionRow) (event : OutboxRow)
  | closed

structure Session where
  call : SessionCall
  tx : Transaction
  phase : Phase

namespace Session

def locks (session : Session) (executionId : Uuid) : Bool :=
  match session.phase with
  | .holding _ event => event.executionId = executionId
  | _ => false

end Session

structure Server where
  db : Database
  clock : DateTime
  sessions : List Session

inductive Action where
  | tick (clock : DateTime)
  | start (call : SessionCall) (executionUuid eventUuid : Uuid)
  | update (i : Nat)
  | commit (i : Nat)
  | abort (i : Nat)

namespace Server

def initial (clock : DateTime) : Server where
  db := .empty
  clock := clock
  sessions := []

variable (server : Server)

def setPhase (i : Nat) (phase : Phase) : Server :=
  { server with sessions := server.sessions.modify i fun session => { session with phase } }

def lockedByOther (i : Nat) (executionId : Uuid) : Bool :=
  server.sessions.zipIdx.any fun (session, j) => j ≠ i && session.locks executionId

/-- The statements of transaction `i` up to its commit. A reservation commits at once. -/
def update (i : Nat) (session : Session) : Option Server :=
  match session.phase, session.call with
  | .begun, .reserve intent =>
    some { server.setPhase i .closed with db := (server.db.reserve session.tx intent).2 }
  | .begun, .mark mark fence =>
    match server.db.stage session.tx mark fence with
    | .error _ => some (server.setPhase i .closed)
    | .ok (row, event) =>
      if server.lockedByOther i event.executionId then none
      else some (server.setPhase i (.holding row event))
  | _, _ => none

/-- The commit of transaction `i`. -/
def commit (i : Nat) (session : Session) : Option Server :=
  match session.phase with
  | .holding row event =>
    match server.db.commitStaged row event with
    | none => some (server.setPhase i .closed)
    | some db => some { server.setPhase i .closed with db }
  | _ => none

def next : Action → Option Server
  | .tick clock => if server.clock ≤ clock then some { server with clock } else none
  | .start call executionUuid eventUuid =>
    some { server with
      sessions := server.sessions ++ [⟨call, ⟨server.clock, executionUuid, eventUuid⟩, .begun⟩] }
  | .update i => server.sessions[i]?.bind (server.update i)
  | .commit i => server.sessions[i]?.bind (server.commit i)
  | .abort i => some (server.setPhase i .closed)

end Server

def Tells (row : ExecutionRow) (event : OutboxRow) : Prop :=
  match event.payload with
  | .reserved => row.status = "PREPARED"
  | .transition status .. => row.status = status
  | .manualRecovery case => row.manualRecovery = some case

namespace Database

variable {db : Database} {tx : Transaction}

theorem insertReservation_some {intent : ExecutionIntent} {tenantId taskId stepId : Uuid}
    {fenceToken : Nat} {db' : Database}
    (h : db.insertReservation tx intent tenantId taskId stepId fenceToken = some db') :
    ∃ row event, db.executions[event.executionId.toStr]? = none ∧
      row.executionId = event.executionId ∧ row.tenantId = event.tenantId ∧ Tells row event ∧
      db'.executions = db.executions.insert event.executionId.toStr row ∧
      db'.outbox = db.outbox ++ [event] := by
  obtain ⟨db₁, hexecution, h⟩ := Option.bind_eq_some_iff.mp h
  obtain ⟨db₂, hidempotency, houtbox⟩ := Option.bind_eq_some_iff.mp h
  obtain ⟨actionHash, -, hexecution⟩ := Option.bind_eq_some_iff.mp hexecution
  obtain ⟨actionHash', -, hidempotency⟩ := Option.bind_eq_some_iff.mp hidempotency
  unfold insertOutbox at houtbox
  split_ifs at hexecution hidempotency houtbox with hfits hnew hvisible
  obtain rfl := Option.some.inj hexecution
  obtain rfl := Option.some.inj hidempotency
  obtain rfl := Option.some.inj houtbox
  have habsent : db.executions[tx.executionUuid.toStr]? = none :=
    Std.ExtTreeMap.getElem?_eq_none hfits.2.2.2.2.2.2.1
  refine ⟨_, ⟨tx.eventUuid, tenantId, tx.executionUuid, "EXECUTION_RESERVED", .reserved, tx.now⟩,
    habsent, rfl, rfl, ?_, rfl, rfl⟩
  show _ = "PREPARED"
  rfl

theorem reserve_tables (db : Database) (tx : Transaction) (intent : ExecutionIntent) :
    ((db.reserve tx intent).2.executions = db.executions ∧
      (db.reserve tx intent).2.outbox = db.outbox) ∨
    ∃ row event, db.executions[event.executionId.toStr]? = none ∧
      row.executionId = event.executionId ∧ row.tenantId = event.tenantId ∧ Tells row event ∧
      (db.reserve tx intent).2.executions = db.executions.insert event.executionId.toStr row ∧
      (db.reserve tx intent).2.outbox = db.outbox ++ [event] := by
  unfold reserve
  split
  · exact .inl ⟨rfl, rfl⟩
  · split
    · split
      · split_ifs
        · exact .inl ⟨rfl, rfl⟩
        · split
          · exact .inl ⟨rfl, rfl⟩
          · exact .inl ⟨rfl, rfl⟩
      · split
        · exact .inl ⟨rfl, rfl⟩
        · simp only
          split
          · exact .inl ⟨rfl, rfl⟩
          · rename_i hinsert
            obtain ⟨row, event, hadded⟩ := insertReservation_some hinsert
            exact .inr ⟨row, event, hadded⟩
    · exact .inl ⟨rfl, rfl⟩

theorem stage_ok {mark : Mark} {fence : ExecutionFence} {row : ExecutionRow} {event : OutboxRow}
    (h : db.stage tx mark fence = .ok (row, event)) :
    ∃ old, db.executions[event.executionId.toStr]? = some old ∧
      Uuid.parseStr fence.executionId = some event.executionId ∧ event.tenantId = old.tenantId ∧
      row = mark.onRow tx.now old ∧ event.payload = mark.payload ∧
      event.createdAt = tx.now ∧ event.eventId = tx.eventUuid := by
  unfold stage at h
  split at h
  · rename_i executionId tenantId hexecution htenant
    split_ifs at h with htexts
    unfold updateExecution at h
    cases hold : db.executions[executionId.toStr]? with
    | none => simp [hold] at h
    | some old =>
      simp only [hold] at h
      by_cases hmatch : visible fence.tenantId old.tenantId ∧ old.tenantId = tenantId ∧
          old.fenceToken = asI64 fence.token ∧ old.status ∈ mark.allowed.map statusText
      · simp only [if_pos hmatch, ne_eq, not_true_eq_false, if_false,
          BTreeMap.getElem?_insert_ite, if_true] at h
        obtain ⟨rfl, rfl⟩ := Prod.mk.inj (Except.ok.inj h)
        exact ⟨old, hold, hexecution, hmatch.2.1.symm, rfl, rfl, rfl, rfl⟩
      · simp only [if_neg hmatch] at h
        cases h
  · cases h

end Database

theorem Mark.onRow_keeps (mark : Mark) (now : DateTime) (row : ExecutionRow) :
    (mark.onRow now row).executionId = row.executionId ∧
      (mark.onRow now row).tenantId = row.tenantId := by
  cases mark <;> exact ⟨rfl, rfl⟩

/-- The event of a `mark` call reports what the call makes of the row. -/
theorem Mark.tells (mark : Mark) (now : DateTime) (row : ExecutionRow) {event : OutboxRow}
    (h : event.payload = mark.payload) : Tells (mark.onRow now row) event := by
  unfold Tells
  rw [h]
  cases mark <;> rfl

namespace Server

structure Told (server : Server) : Prop where
  named : ∀ (executionId : String) row, server.db.executions[executionId]? = some row →
    row.executionId.toStr = executionId
  told : ∀ (executionId : String) row, server.db.executions[executionId]? = some row →
    ∃ events event, server.db.eventsOf row.executionId = events ++ [event] ∧
      (∀ other ∈ events, other.Before event) ∧ Tells row event
  tenants : ∀ event ∈ server.db.outbox, ∃ row,
    server.db.executions[event.executionId.toStr]? = some row ∧ row.tenantId = event.tenantId
  held : ∀ (i : Nat) session row event, server.sessions[i]? = some session →
    session.phase = .holding row event →
    ∃ old, server.db.executions[event.executionId.toStr]? = some old ∧
      row.executionId = old.executionId ∧ row.tenantId = old.tenantId ∧
      event.tenantId = old.tenantId ∧ Tells row event ∧
      ∀ other ∈ server.db.eventsOf event.executionId, other.Before event
  exclusive : ∀ (i j : Nat) session other row row' event event',
    server.sessions[i]? = some session → server.sessions[j]? = some other →
    session.phase = .holding row event → other.phase = .holding row' event' →
    event.executionId = event'.executionId → i = j

/-- A transaction that is about to lock a row began after every transaction that has written an
event of the execution. Transactions that began at the same time are ordered by their events. -/
def InOrder (server : Server) : Action → Prop
  | .update i =>
    match server.sessions[i]? with
    | some ⟨.mark _ fence, tx, _⟩ =>
      ∀ event ∈ server.db.outbox, Uuid.parseStr fence.executionId = some event.executionId →
        event.createdAt < tx.now ∨
          event.createdAt = tx.now ∧ uuidOrder event.eventId < uuidOrder tx.eventUuid
    | _ => True
  | _ => True

instance (server : Server) (action : Action) : Decidable (server.InOrder action) :=
  match action with
  | .update i =>
    match h : server.sessions[i]? with
    | some ⟨.mark _ fence, tx, _⟩ => decidable_of_iff
      (∀ event ∈ server.db.outbox, Uuid.parseStr fence.executionId = some event.executionId →
        event.createdAt < tx.now ∨
          event.createdAt = tx.now ∧ uuidOrder event.eventId < uuidOrder tx.eventUuid)
      (by rw [InOrder, h])
    | some ⟨.reserve _, _, _⟩ => isTrue (by rw [InOrder, h]; trivial)
    | none => isTrue (by rw [InOrder, h]; trivial)
  | .tick _ | .start .. | .commit _ | .abort _ => isTrue trivial

variable {server server' : Server}

theorem told_initial (clock : DateTime) : (initial clock).Told := by
  constructor
  · intro executionId row hrow
    simp [initial, Database.empty] at hrow
  · intro executionId row hrow
    simp [initial, Database.empty] at hrow
  · intro event hevent
    cases hevent
  · intro i session row event hsession
    simp [initial] at hsession
  · intro i j session other row row' event event' hsession
    simp [initial] at hsession

theorem Told.sessions (h : server.Told) (clock : DateTime) {sessions : List Session}
    (hheld : ∀ (i : Nat) session row event, sessions[i]? = some session →
      session.phase = .holding row event →
      ∃ old, server.sessions[i]? = some old ∧ old.phase = .holding row event) :
    Told { server with clock, sessions } where
  named := h.named
  told := h.told
  tenants := h.tenants
  held i session row event hsession hphase := by
    obtain ⟨old, hold, holding⟩ := hheld i session row event hsession hphase
    exact h.held i old row event hold holding
  exclusive i j session other row row' event event' hsession hother hphase hphase' hsame := by
    obtain ⟨old, hold, holding⟩ := hheld i session row event hsession hphase
    obtain ⟨old', hold', holding'⟩ := hheld j other row' event' hother hphase'
    exact h.exclusive i j old old' row row' event event' hold hold' holding holding' hsame

theorem getElem?_setPhase {i j : Nat} {phase : Phase} {session : Session}
    (h : (server.setPhase i phase).sessions[j]? = some session) :
    ∃ old, server.sessions[j]? = some old ∧
      session = if i = j then { old with phase } else old := by
  rw [setPhase, List.getElem?_modify] at h
  obtain ⟨old, hold, heq⟩ := Option.map_eq_some_iff.mp h
  refine ⟨old, hold, ?_⟩
  split_ifs with hij
  · simpa [hij] using heq.symm
  · simpa [hij] using heq.symm

theorem Told.closed (h : server.Told) (i : Nat) : (server.setPhase i .closed).Told := by
  refine h.sessions server.clock fun j session row event hsession hphase => ?_
  obtain ⟨old, hold, rfl⟩ := getElem?_setPhase hsession
  by_cases hij : i = j
  · rw [if_pos hij] at hphase
    cases hphase
  · rw [if_neg hij] at hphase
    exact ⟨old, hold, hphase⟩

theorem Told.locked (h : server.Told) {i : Nat} {row : ExecutionRow} {event : OutboxRow}
    {old : ExecutionRow} (hold : server.db.executions[event.executionId.toStr]? = some old)
    (hkeeps : row.executionId = old.executionId ∧ row.tenantId = old.tenantId)
    (htenant : event.tenantId = old.tenantId) (htells : Tells row event)
    (hlast : ∀ other ∈ server.db.eventsOf event.executionId, other.Before event)
    (hfree : server.lockedByOther i event.executionId = false) :
    (server.setPhase i (.holding row event)).Told := by
  have hothers : ∀ (j : Nat) other row' event', server.sessions[j]? = some other → i ≠ j →
      other.phase = .holding row' event' → event'.executionId ≠ event.executionId := by
    intro j other row' event' hother hij hphase hsame
    have hany := List.any_eq_false.mp hfree (other, j)
      (List.mk_mem_zipIdx_iff_getElem?.mpr hother)
    simp [Session.locks, hphase, hsame, Ne.symm hij] at hany
  refine ⟨h.named, h.told, h.tenants, ?_, ?_⟩
  · intro j session row' event' hsession hphase
    obtain ⟨before, hbefore, rfl⟩ := getElem?_setPhase hsession
    by_cases hij : i = j
    · rw [if_pos hij] at hphase
      obtain ⟨rfl, rfl⟩ := Phase.holding.inj hphase
      exact ⟨old, hold, hkeeps.1, hkeeps.2, htenant, htells, hlast⟩
    · rw [if_neg hij] at hphase
      exact h.held j before row' event' hbefore hphase
  · intro j k session other row' row'' event' event'' hsession hother hphase hphase' hsame
    obtain ⟨before, hbefore, rfl⟩ := getElem?_setPhase hsession
    obtain ⟨before', hbefore', rfl⟩ := getElem?_setPhase hother
    by_cases hij : i = j
    · rw [if_pos hij] at hphase
      obtain ⟨rfl, rfl⟩ := Phase.holding.inj hphase
      by_cases hik : i = k
      · exact hij.symm.trans hik
      · rw [if_neg hik] at hphase'
        exact absurd hsame.symm (hothers k before' _ _ hbefore' hik hphase')
    · rw [if_neg hij] at hphase
      by_cases hik : i = k
      · rw [if_pos hik] at hphase'
        obtain ⟨rfl, rfl⟩ := Phase.holding.inj hphase'
        exact absurd hsame (hothers j before _ _ hbefore hij hphase)
      · rw [if_neg hik] at hphase'
        exact h.exclusive j k before before' _ _ _ _ hbefore hbefore' hphase hphase' hsame

theorem Told.sameTables (h : server.Told) {db : Database}
    (hexecutions : db.executions = server.db.executions) (houtbox : db.outbox = server.db.outbox) :
    Told { server with db } := by
  have hevents : db.eventsOf = server.db.eventsOf := by
    funext executionId
    rw [Database.eventsOf, Database.eventsOf, houtbox]
  obtain ⟨hnamed, htold, htenants, hheld, hexclusive⟩ := h
  rw [← hexecutions] at hnamed htold htenants hheld
  rw [← hevents] at htold hheld
  rw [← houtbox] at htenants
  exact ⟨hnamed, htold, htenants, hheld, hexclusive⟩

theorem Told.written (h : server.Told) {db : Database} (sessions : List Session)
    {row : ExecutionRow} {event : OutboxRow}
    (hexecutions : db.executions = server.db.executions.insert event.executionId.toStr row)
    (houtbox : db.outbox = server.db.outbox ++ [event])
    (hrow : row.executionId = event.executionId ∧ row.tenantId = event.tenantId)
    (htells : Tells row event)
    (hlast : ∀ other ∈ server.db.eventsOf event.executionId, other.Before event)
    (hold : ∀ old, server.db.executions[event.executionId.toStr]? = some old →
      old.tenantId = event.tenantId)
    (hheld : ∀ (i : Nat) session row' event', sessions[i]? = some session →
      session.phase = .holding row' event' → event'.executionId ≠ event.executionId ∧
        ∃ old, server.sessions[i]? = some old ∧ old.phase = .holding row' event') :
    Told { server with db, sessions } := by
  have hevents : ∀ executionId, db.eventsOf executionId = server.db.eventsOf executionId ++
      if event.executionId = executionId then [event] else [] := by
    intro executionId
    rw [Database.eventsOf, Database.eventsOf, houtbox, List.filter_append]
    by_cases hid : event.executionId = executionId
    · simp [hid]
    · simp [hid]
  have hfound : ∀ executionId : String, db.executions[executionId]? =
      if event.executionId.toStr = executionId then some row
      else server.db.executions[executionId]? := by
    intro executionId
    rw [hexecutions, BTreeMap.getElem?_insert_ite]
  have hother : ∀ executionId, executionId ≠ event.executionId →
      db.executions[executionId.toStr]? = server.db.executions[executionId.toStr]? ∧
        db.eventsOf executionId = server.db.eventsOf executionId := by
    intro executionId hne
    rw [hfound, if_neg fun heq => hne (Uuid.toStr_injective heq).symm, hevents,
      if_neg (Ne.symm hne), List.append_nil]
    exact ⟨rfl, rfl⟩
  refine ⟨?_, ?_, ?_, ?_, ?_⟩
  · intro executionId found hget
    rw [hfound] at hget
    split_ifs at hget with hid
    · obtain rfl := Option.some.inj hget
      rw [hrow.1, hid]
    · exact h.named executionId found hget
  · intro executionId found hget
    rw [hfound] at hget
    split_ifs at hget with hid
    · obtain rfl := Option.some.inj hget
      refine ⟨server.db.eventsOf event.executionId, event, ?_, hlast, htells⟩
      rw [hrow.1, hevents, if_pos rfl]
    · obtain ⟨events, last, hsplit, hbefore, hlasts⟩ := h.told executionId found hget
      refine ⟨events, last, ?_, hbefore, hlasts⟩
      have hne : found.executionId ≠ event.executionId := by
        intro heq
        exact hid (heq ▸ h.named executionId found hget)
      rw [(hother found.executionId hne).2, hsplit]
  · intro other hmem
    rw [houtbox] at hmem
    rw [hfound]
    rcases List.mem_append.mp hmem with hmem | hmem
    · obtain ⟨found, hget, htenant⟩ := h.tenants other hmem
      by_cases hid : event.executionId.toStr = other.executionId.toStr
      · rw [if_pos hid]
        exact ⟨row, rfl, hrow.2.trans ((hold found (hid ▸ hget)).symm.trans htenant)⟩
      · rw [if_neg hid]
        exact ⟨found, hget, htenant⟩
    · obtain rfl := List.mem_singleton.mp hmem
      rw [if_pos rfl]
      exact ⟨row, rfl, hrow.2⟩
  · intro i session row' event' hsession hphase
    obtain ⟨hne, before, hbefore, holding⟩ := hheld i session row' event' hsession hphase
    obtain ⟨hget, heventsOf⟩ := hother event'.executionId hne
    show ∃ old, db.executions[event'.executionId.toStr]? = some old ∧ _
    rw [hget]
    obtain ⟨old, hold, hrest, htenant, htenant', htells', hlast'⟩ :=
      h.held i before row' event' hbefore holding
    refine ⟨old, hold, hrest, htenant, htenant', htells', ?_⟩
    show ∀ other ∈ db.eventsOf event'.executionId, other.Before event'
    rw [heventsOf]
    exact hlast'
  · intro i j session other row' row'' event' event'' hsession hother' hphase hphase' hsame
    obtain ⟨-, before, hbefore, holding⟩ := hheld i session row' event' hsession hphase
    obtain ⟨-, before', hbefore', holding'⟩ := hheld j other row'' event'' hother' hphase'
    exact h.exclusive i j before before' _ _ _ _ hbefore hbefore' holding holding' hsame

theorem Told.update (h : server.Told) {i : Nat} {session : Session}
    (hsession : server.sessions[i]? = some session) (horder : server.InOrder (.update i))
    (hnext : server.update i session = some server') : server'.Told := by
  obtain ⟨call, tx, phase⟩ := session
  cases phase with
  | holding row event => cases hnext
  | closed => cases hnext
  | begun =>
    cases call with
    | reserve intent =>
      obtain rfl := Option.some.inj hnext
      have hclosed := h.closed i
      obtain ⟨hexecutions, houtbox⟩ | ⟨row, event, habsent, hid, htenant, htells, hexecutions,
        houtbox⟩ := server.db.reserve_tables tx intent
      · exact hclosed.sameTables hexecutions houtbox
      · refine h.written (server.setPhase i .closed).sessions hexecutions houtbox
          ⟨hid, htenant⟩ htells ?_ ?_ ?_
        · intro other hother
          obtain ⟨hmem, hsame⟩ := List.mem_filter.mp hother
          obtain ⟨found, hfound, -⟩ := h.tenants other hmem
          rw [of_decide_eq_true hsame, habsent] at hfound
          cases hfound
        · intro old hold
          rw [habsent] at hold
          cases hold
        · intro j other row' event' hother hphase
          obtain ⟨before, hbefore, rfl⟩ := getElem?_setPhase hother
          by_cases hij : i = j
          · rw [if_pos hij] at hphase
            cases hphase
          · rw [if_neg hij] at hphase
            refine ⟨fun hsame => ?_, before, hbefore, hphase⟩
            obtain ⟨old, hold, -⟩ := h.held j before row' event' hbefore hphase
            rw [hsame, habsent] at hold
            cases hold
    | mark mark fence =>
      simp only [Server.update] at hnext
      split at hnext
      · obtain rfl := Option.some.inj hnext
        exact h.closed i
      · rename_i row event hstage
        split_ifs at hnext with hlocked
        obtain rfl := Option.some.inj hnext
        obtain ⟨old, hold, hparse, htenant, rfl, hpayload, hcreated, heventId⟩ :=
          Database.stage_ok hstage
        have hkeeps := mark.onRow_keeps tx.now old
        refine h.locked hold hkeeps htenant (mark.tells tx.now old hpayload) ?_
          (by simpa using hlocked)
        intro other hother
        obtain ⟨hmem, hsame⟩ := List.mem_filter.mp hother
        have hbefore := horder
        simp only [InOrder, hsession] at hbefore
        have := hbefore other hmem (hparse.trans (by rw [of_decide_eq_true hsame]))
        rwa [← hcreated, ← heventId] at this

theorem Told.next (h : server.Told) {action : Action} (horder : server.InOrder action)
    (hnext : server.next action = some server') : server'.Told := by
  cases action with
  | tick clock =>
    simp only [Server.next] at hnext
    split_ifs at hnext
    obtain rfl := Option.some.inj hnext
    exact h.sessions clock fun i session row event hsession hphase => ⟨session, hsession, hphase⟩
  | start call executionUuid eventUuid =>
    obtain rfl := Option.some.inj hnext
    refine h.sessions server.clock fun i session row event hsession hphase => ?_
    rw [List.getElem?_append] at hsession
    split_ifs at hsession with hlt
    · exact ⟨session, hsession, hphase⟩
    · rw [List.getElem?_singleton] at hsession
      split_ifs at hsession
      obtain rfl := Option.some.inj hsession
      cases hphase
  | update i =>
    obtain ⟨session, hsession, hupdate⟩ := Option.bind_eq_some_iff.mp hnext
    exact h.update hsession horder hupdate
  | commit i =>
    obtain ⟨session, hsession, hcommit⟩ := Option.bind_eq_some_iff.mp hnext
    unfold Server.commit at hcommit
    split at hcommit
    · rename_i row event hphase
      split at hcommit
      · obtain rfl := Option.some.inj hcommit
        exact h.closed i
      · rename_i db hstaged
        obtain rfl := Option.some.inj hcommit
        unfold Database.commitStaged Database.insertOutbox at hstaged
        split_ifs at hstaged
        obtain rfl := Option.some.inj hstaged
        obtain ⟨old, hold, hid, htenant, htenant', htells, hlast⟩ :=
          h.held i session row event hsession hphase
        have hsame : row.executionId = event.executionId := by
          rw [hid]
          exact Uuid.toStr_injective (h.named _ old hold)
        refine h.written (server.setPhase i .closed).sessions rfl rfl
          ⟨hsame, htenant.trans htenant'.symm⟩ htells hlast ?_ ?_
        · intro other hother
          rw [hold] at hother
          obtain rfl := Option.some.inj hother
          exact htenant'.symm
        · intro j other row' event' hother hphase'
          obtain ⟨before, hbefore, rfl⟩ := getElem?_setPhase hother
          by_cases hij : i = j
          · rw [if_pos hij] at hphase'
            cases hphase'
          · rw [if_neg hij] at hphase'
            refine ⟨fun hsame' => hij ?_, before, hbefore, hphase'⟩
            exact h.exclusive i j session before _ _ _ _ hsession hbefore hphase hphase' hsame'.symm
    · cases hcommit
  | abort i =>
    obtain rfl := Option.some.inj hnext
    exact h.closed i

end Server

/-- **The last committed event is returned** in every run in which transactions lock the row of an
execution in the order in which they began. -/
theorem latest_event_returned (digest : EventDigest) (rfc3339 : DateTime → String)
    {clock : DateTime} {server : Server}
    (hrun : Relation.ReflTransGen (StepBy Server.next Server.InOrder) (.initial clock) server)
    {executionId : ExecutionId} {row : ExecutionRow}
    (hrow : server.db.executions[executionId]? = some row) :
    ∃ event, (server.db.eventsOf row.executionId).getLast? = some event ∧ Tells row event ∧
      server.db.selectStatusEvent row.tenantId.toStr row.tenantId row.executionId = some event ∧
      server.db.statusEventFact digest rfc3339 row.tenantId.toStr executionId =
        ledgerEventFact digest row.tenantId.toStr
          (Database.outboxEvent rfc3339 executionId event) := by
  have htold : server.Told := by
    refine invariant_of_steps (P := Server.Told) ?_ (Server.told_initial clock) hrun
    rintro s s' h ⟨action, horder, hnext⟩
    exact h.next horder hnext
  obtain ⟨events, event, hevents, hbefore, htells⟩ := htold.told executionId row hrow
  have hnamed := htold.named executionId row hrow
  have htenants : ∀ other ∈ server.db.eventsOf row.executionId, other.tenantId = row.tenantId := by
    intro other hother
    obtain ⟨hmem, hsame⟩ := List.mem_filter.mp hother
    obtain ⟨found, hfound, htenant⟩ := htold.tenants other hmem
    rw [of_decide_eq_true hsame, hnamed, hrow] at hfound
    obtain rfl := Option.some.inj hfound
    exact htenant.symm
  have hselect : server.db.selectStatusEvent row.tenantId.toStr row.tenantId row.executionId =
      some event := by
    have hall : (server.db.eventsOf row.executionId).filter (fun other =>
        Database.visible row.tenantId.toStr other.tenantId && other.tenantId = row.tenantId) =
        server.db.eventsOf row.executionId := by
      refine List.filter_eq_self.mpr fun other hother => ?_
      simp [htenants other hother, Database.visible]
    rw [Database.selectStatusEvent, hall, hevents]
    exact Database.latestFirst_append hbefore
  refine ⟨event, by simp [hevents], htells, hselect, ?_⟩
  subst hnamed
  simp only [Database.statusEventFact, Uuid.parseStr_toStr, hselect]

def sampleBegun : List Action :=
  [.start (.reserve sampleIntent) (sampleUuid 7) (sampleUuid 7), .update 0, .tick 1,
    .start (.mark (.started none) Paired.sampleFence') (sampleUuid 8) (sampleUuid 8), .update 1,
    .commit 1]

/-- Then `mark_succeeded` begins, and after it `mark_unknown`, which locks the row and commits
first. -/
def sampleOvertaken : List Action :=
  sampleBegun ++ [.tick 2,
    .start (.mark (.succeeded "result" "evidence") Paired.sampleFence') (sampleUuid 9)
      (sampleUuid 9), .tick 3,
    .start (.mark (.unknown "EXECUTION_TOOL_UNKNOWN") Paired.sampleFence') (sampleUuid 10)
      (sampleUuid 10), .update 3, .commit 3, .update 2, .commit 2]

/-- Until then everything is in order, and the start is what is returned. -/
theorem latest_event_returned_sampleBegun :
    ∃ server row, Relation.ReflTransGen (StepBy Server.next Server.InOrder) (.initial 0) server ∧
      server.db.executions[Paired.sampleFence'.executionId]? = some row ∧ row.status = "RUNNING" ∧
      ∃ event, Tells row event ∧
        server.db.selectStatusEvent row.tenantId.toStr row.tenantId row.executionId =
          some event := by
  have hreached :
      (runActions Server.next Server.InOrder (.initial 0) sampleBegun).any (fun server =>
      server.db.executions[Paired.sampleFence'.executionId]?.any (·.status = "RUNNING")) =
        true := by
    decide +kernel
  obtain ⟨server, hserver, hfound⟩ := (Option.any_eq_true _ _).mp hreached
  obtain ⟨row, hrow, hstatus⟩ := (Option.any_eq_true _ _).mp hfound
  have hrun := steps_of_runActions hserver
  obtain ⟨event, -, htells, hselect, -⟩ := latest_event_returned (fun _ => none) (fun _ => "") hrun
    hrow
  exact ⟨server, row, hrun, hrow, of_decide_eq_true hstatus, event, htells, hselect⟩

/-- A transaction that locks the row late hides its own event: the execution has succeeded, and
the event returned says that its outcome is unknown. -/
theorem late_start_misreported :
    ¬ ∀ server : Server, ∀ (executionId : ExecutionId) (row : ExecutionRow),
      Relation.ReflTransGen (StepBy Server.next fun _ _ => True) (.initial 0) server →
      server.db.executions[executionId]? = some row →
      ∃ event, (server.db.eventsOf row.executionId).getLast? = some event ∧ Tells row event ∧
        server.db.selectStatusEvent row.tenantId.toStr row.tenantId row.executionId =
          some event := by
  intro h
  have hreached : (runActions Server.next (fun _ _ => True) (.initial 0) sampleOvertaken).any
      (fun server => server.db.executions[Paired.sampleFence'.executionId]?.any fun row =>
        row.status = "SUCCEEDED" &&
          (server.db.selectStatusEvent row.tenantId.toStr row.tenantId row.executionId).any
            fun event => event.payload =
              .transition "UNKNOWN" none (some "EXECUTION_TOOL_UNKNOWN") none none) = true := by
    decide +kernel
  obtain ⟨server, hserver, hfound⟩ := (Option.any_eq_true _ _).mp hreached
  obtain ⟨row, hrow, hreported⟩ := (Option.any_eq_true _ _).mp hfound
  simp only [Bool.and_eq_true, decide_eq_true_eq] at hreported
  obtain ⟨hstatus, hevent⟩ := hreported
  obtain ⟨event, hselect, hpayload⟩ := (Option.any_eq_true _ _).mp hevent
  obtain ⟨last, -, htells, hlast⟩ := h server _ row (steps_of_runActions hserver) hrow
  obtain rfl : event = last := Option.some.inj (hselect.symm.trans hlast)
  rw [Tells, of_decide_eq_true hpayload, hstatus] at htells
  exact absurd (show "SUCCEEDED" = "UNKNOWN" from htells) (by decide)

end AgentSphere.Ledger
