import AgentSphere.Contracts.Basic

/-!
# Idempotency records of the gateway

The gateway remembers, for every tenant and idempotency key, the hash of the payload it accepted
first. A record lapses after `idempotency_ttl`; lapsed records are dropped at the start of the
next check. Every check runs under one lock, so that any interleaving of callers is a sequence of
calls. A call carries the clock readings it makes: one for each record it examines, and one for
the record it may insert.
-/

namespace AgentSphere.Gateway

abbrev Instant := Nat

/-- `Instant::elapsed`, read at `now`: it saturates at zero. -/
def Instant.elapsed (recordedAt now : Instant) : Nat := now - recordedAt

structure GatewayConfig where
  requireIdempotencyKey : Bool
  idempotencyTtl : Nat
  maxIdempotencyRecords : Nat
  maxIdempotencyRecordsPerTenant : Nat

structure ReplayRecord where
  payloadHash : String
  recordedAt : Instant
  deriving DecidableEq, Repr

inductive GatewayError where
  | rateLimited
  | idempotencyConflict
  deriving DecidableEq, Repr

abbrev Records := BTreeMap (TenantId × String) ReplayRecord

structure Call where
  tenant : TenantId
  key : Option String
  payloadHash : String
  /-- The reading made when the record under a key is examined. -/
  elapsedAt : TenantId × String → Instant
  /-- The reading made for the record that is inserted. -/
  insertedAt : Instant

def validToken (value : String) (max : Nat) : Bool :=
  !value.isEmpty && value.utf8ByteSize ≤ max && isToken value

def GatewayConfig.live (config : GatewayConfig) (now : Instant) (record : ReplayRecord) : Bool :=
  record.recordedAt.elapsed now < config.idempotencyTtl

/-- `records.retain(..)` -/
def GatewayConfig.retain (config : GatewayConfig) (call : Call) (records : Records) : Records :=
  records.filter fun key record => config.live (call.elapsedAt key) record

def tenantRecords (records : Records) (tenant : TenantId) : Nat :=
  (records.keys.filter fun key => key.1 == tenant).length

/-- `GatewayState::check_idempotency`: the records afterwards and the answer. -/
def checkIdempotency (config : GatewayConfig) (records : Records) (call : Call) :
    Records × Except GatewayError Unit :=
  match call.key with
  | none =>
    if config.requireIdempotencyKey then (records, .error .idempotencyConflict)
    else (records, .ok ())
  | some key =>
    if !validToken key 128 then (records, .error .idempotencyConflict)
    else
      let records := config.retain call records
      match records[(call.tenant, key)]? with
      | some existing =>
        if existing.payloadHash ≠ call.payloadHash then (records, .error .idempotencyConflict)
        else (records, .ok ())
      | none =>
        if config.maxIdempotencyRecords ≤ records.size ∨
            config.maxIdempotencyRecordsPerTenant ≤ tenantRecords records call.tenant then
          (records, .error .rateLimited)
        else
          (records.insert (call.tenant, key) ⟨call.payloadHash, call.insertedAt⟩, .ok ())

def after (config : GatewayConfig) (records : Records) (calls : List Call) : Records :=
  calls.foldl (fun records call => (checkIdempotency config records call).1) records

def Timed : Instant → List Call → Prop
  | _, [] => True
  | now, call :: calls =>
    (∀ key, now ≤ call.elapsedAt key) ∧ (∀ key, call.elapsedAt key ≤ call.insertedAt) ∧
      Timed call.insertedAt calls

def RecordedFirst (config : GatewayConfig) (records : Records) (call : Call) (key : String) :
    Prop :=
  call.key = some key ∧ (checkIdempotency config records call).2 = .ok () ∧
    (config.retain call records)[(call.tenant, key)]? = none

/-- Only the cap over all tenants refuses the call: it needs a new record, and its tenant may
still have one. -/
def capped (config : GatewayConfig) (records : Records) (call : Call) : Bool :=
  match call.key with
  | none => false
  | some key =>
    let records := config.retain call records
    (records[(call.tenant, key)]?).isNone &&
      decide (config.maxIdempotencyRecords ≤ records.size ∧
        tenantRecords records call.tenant < config.maxIdempotencyRecordsPerTenant)

structure Answered where
  call : Call
  capped : Bool
  answer : Except GatewayError Unit

def trace (config : GatewayConfig) : Records → List Call → List Answered
  | _, [] => []
  | records, call :: calls =>
    ⟨call, capped config records call, (checkIdempotency config records call).2⟩ ::
      trace config (checkIdempotency config records call).1 calls

def ofTenant (tenant : TenantId) (entries : List Answered) : List Answered :=
  entries.filter fun entry => entry.call.tenant == tenant

def heard (entries : List Answered) : List (Call × Bool) :=
  entries.map fun entry => (entry.call, entry.capped)

namespace Alone

def check (config : GatewayConfig) (records : Records) (call : Call) (capped : Bool) :
    Records × Except GatewayError Unit :=
  match call.key with
  | none =>
    if config.requireIdempotencyKey then (records, .error .idempotencyConflict)
    else (records, .ok ())
  | some key =>
    if !validToken key 128 then (records, .error .idempotencyConflict)
    else
      let records := config.retain call records
      match records[(call.tenant, key)]? with
      | some existing =>
        if existing.payloadHash ≠ call.payloadHash then (records, .error .idempotencyConflict)
        else (records, .ok ())
      | none =>
        if capped ∨ config.maxIdempotencyRecordsPerTenant ≤ records.size then
          (records, .error .rateLimited)
        else
          (records.insert (call.tenant, key) ⟨call.payloadHash, call.insertedAt⟩, .ok ())

def answers (config : GatewayConfig) :
    Records → List (Call × Bool) → List (Except GatewayError Unit)
  | _, [] => []
  | records, (call, capped) :: calls =>
    (check config records call capped).2 ::
      answers config (check config records call capped).1 calls

end Alone

/-! ### Records over time -/

section Lapse

variable {config : GatewayConfig} {call : Call} {records : Records} {now later : Nat}

theorem GatewayConfig.live_of_le {record : ReplayRecord} (h : now ≤ later)
    (hlive : config.live later record = true) : config.live now record = true := by
  have hlater := of_decide_eq_true hlive
  refine decide_eq_true ?_
  unfold Instant.elapsed at *
  omega

theorem filter_live_of_le {record : Option ReplayRecord} (h : now ≤ later) :
    (record.filter (config.live now)).filter (config.live later) =
      record.filter (config.live later) := by
  cases record with
  | none => rfl
  | some record =>
    cases hlive : config.live later record with
    | false => cases hnow : config.live now record <;> simp [Option.filter, hlive, hnow]
    | true => simp [Option.filter, hlive, GatewayConfig.live_of_le h hlive]

theorem getElem?_retain (key : TenantId × String) :
    (config.retain call records)[key]? =
      records[key]?.filter (config.live (call.elapsedAt key)) :=
  Std.ExtTreeMap.getElem?_filter'

theorem getElem?_retain_of_live {key : TenantId × String} {record : ReplayRecord}
    (h : records[key]? = some record)
    (hlive : config.live (call.elapsedAt key) record = true) :
    (config.retain call records)[key]? = some record := by
  rw [getElem?_retain, h, Option.filter, if_pos hlive]

end Lapse

/-! ### One call -/

section Call

variable {config : GatewayConfig} {call : Call} {records : Records}

/-- A call leaves the records, prunes them, or prunes them and inserts its own record where none
was found and both caps allow it. -/
theorem checkIdempotency_records (config : GatewayConfig) (records : Records) (call : Call) :
    (checkIdempotency config records call).1 = records ∨
      (checkIdempotency config records call).1 = config.retain call records ∨
      ∃ key, call.key = some key ∧
        (config.retain call records)[(call.tenant, key)]? = none ∧
        (config.retain call records).size < config.maxIdempotencyRecords ∧
        tenantRecords (config.retain call records) call.tenant <
          config.maxIdempotencyRecordsPerTenant ∧
        (checkIdempotency config records call).1 = (config.retain call records).insert
          (call.tenant, key) ⟨call.payloadHash, call.insertedAt⟩ := by
  unfold checkIdempotency
  cases hkey : call.key with
  | none => exact .inl (by dsimp only; split <;> rfl)
  | some key =>
    dsimp only
    split
    · exact .inl rfl
    · cases hfound : (config.retain call records)[(call.tenant, key)]? with
      | some existing => exact .inr (.inl (by dsimp only; split <;> rfl))
      | none =>
        dsimp only
        split
        · exact .inr (.inl rfl)
        · next hcaps =>
          rw [not_or, Nat.not_le, Nat.not_le] at hcaps
          exact .inr (.inr ⟨key, rfl, hfound, hcaps.1, hcaps.2, rfl⟩)

theorem checkIdempotency_of_found {key : String} {record : ReplayRecord}
    (hkey : call.key = some key) (hvalid : validToken key 128 = true)
    (hfound : (config.retain call records)[(call.tenant, key)]? = some record) :
    (checkIdempotency config records call).2 =
      if call.payloadHash = record.payloadHash then .ok ()
      else .error .idempotencyConflict := by
  unfold checkIdempotency
  simp only [hkey, hvalid, hfound]
  by_cases hsame : call.payloadHash = record.payloadHash
  · simp [hsame]
  · simp [hsame, Ne.symm hsame]

theorem checkIdempotency_other (config : GatewayConfig) (records : Records)
    {key : TenantId × String}
    (hother : ∀ own, call.key = some own → (call.tenant, own) ≠ key) :
    (checkIdempotency config records call).1[key]? = records[key]? ∨
      (checkIdempotency config records call).1[key]? =
        records[key]?.filter (config.live (call.elapsedAt key)) := by
  obtain heq | heq | ⟨own, hown, -, -, -, heq⟩ := checkIdempotency_records config records call
  · exact .inl (by rw [heq])
  · exact .inr (by rw [heq, getElem?_retain])
  · refine .inr ?_
    rw [heq, BTreeMap.getElem?_insert_ite, if_neg (hother own hown), getElem?_retain]

theorem checkIdempotency_keeps {key : TenantId × String} {record : ReplayRecord}
    (h : records[key]? = some record)
    (hlive : config.live (call.elapsedAt key) record = true) :
    (checkIdempotency config records call).1[key]? = some record := by
  have hretain := getElem?_retain_of_live h hlive
  obtain heq | heq | ⟨own, -, hnone, -, -, heq⟩ := checkIdempotency_records config records call
  · rw [heq, h]
  · rw [heq, hretain]
  · have hother : (call.tenant, own) ≠ key := by
      rintro rfl
      rw [hretain] at hnone
      cases hnone
    rw [heq, BTreeMap.getElem?_insert_ite, if_neg hother, hretain]

theorem RecordedFirst.recorded {key : String} (h : RecordedFirst config records call key) :
    validToken key 128 = true ∧
      (checkIdempotency config records call).1[(call.tenant, key)]? =
        some ⟨call.payloadHash, call.insertedAt⟩ := by
  obtain ⟨hkey, hok, hnone⟩ := h
  unfold checkIdempotency at hok ⊢
  simp only [hkey, hnone] at hok ⊢
  cases hvalid : validToken key 128 with
  | false => simp [hvalid] at hok
  | true =>
    simp only [hvalid, Bool.not_true, Bool.false_eq_true, if_false] at hok ⊢
    split at hok
    · cases hok
    · next hcaps => simp [hcaps]

end Call

/-! ### The period of a record -/

section Period

variable {config : GatewayConfig} {records : Records}

theorem Timed.le {now : Nat} {between rest : List Call} {later : Call}
    (h : Timed now (between ++ later :: rest)) (key : TenantId × String) :
    now ≤ later.elapsedAt key := by
  induction between generalizing now with
  | nil => exact h.1 key
  | cons call between ih =>
    obtain ⟨hstart, hend, hrest⟩ := h
    calc now ≤ call.elapsedAt key := hstart key
      _ ≤ call.insertedAt := hend key
      _ ≤ later.elapsedAt key := ih hrest

theorem Timed.suffix {now : Nat} {past rest : List Call} (h : Timed now (past ++ rest)) :
    ∃ now', Timed now' rest := by
  induction past generalizing now with
  | nil => exact ⟨now, h⟩
  | cons call past ih => exact ih h.2.2

theorem after_keeps {now : Instant} {key : TenantId × String} {record : ReplayRecord}
    {between rest : List Call} {later : Call} (htimed : Timed now (between ++ later :: rest))
    (h : records[key]? = some record)
    (hlive : config.live (later.elapsedAt key) record = true) :
    (after config records between)[key]? = some record := by
  induction between generalizing now records with
  | nil => exact h
  | cons call between ih =>
    obtain ⟨-, hend, hrest⟩ := htimed
    have hle : call.elapsedAt key ≤ later.elapsedAt key := (hend key).trans (hrest.le key)
    exact ih hrest (checkIdempotency_keeps h (GatewayConfig.live_of_le hle hlive))

/-- Within the period of a recorded acceptance, a call with its key is accepted exactly if it
carries the recorded payload hash, and is a conflict otherwise. -/
theorem answer_of_recorded {now : Instant} {first later : Call} {between rest : List Call}
    {key : String} (htimed : Timed now (first :: between ++ later :: rest))
    (hfirst : RecordedFirst config records first key) (htenant : later.tenant = first.tenant)
    (hkey : later.key = some key)
    (hperiod : first.insertedAt.elapsed (later.elapsedAt (first.tenant, key)) <
      config.idempotencyTtl) :
    (checkIdempotency config (after config records (first :: between)) later).2 =
      if later.payloadHash = first.payloadHash then .ok ()
      else .error .idempotencyConflict := by
  obtain ⟨hvalid, hrecord⟩ := hfirst.recorded
  have hlive : config.live (later.elapsedAt (first.tenant, key))
      ⟨first.payloadHash, first.insertedAt⟩ = true := decide_eq_true hperiod
  have hkept := after_keeps htimed.2.2 hrecord hlive
  rw [← htenant] at hkept hlive
  exact checkIdempotency_of_found hkey hvalid (getElem?_retain_of_live hkept hlive)

end Period

/-! ### The caps -/

section Caps

variable {config : GatewayConfig} {records : Records} {tenant : TenantId}

def tenantPart (records : Records) (tenant : TenantId) : Records :=
  records.filter fun key _ => key.1 == tenant

theorem tenantRecords_eq_size :
    tenantRecords records tenant = (tenantPart records tenant).size := by
  rw [tenantRecords, tenantPart, ← Std.ExtTreeMap.keys_filter_key, Std.ExtTreeMap.length_keys]

theorem getElem?_tenantPart (key : TenantId × String) :
    (tenantPart records tenant)[key]? = if key.1 = tenant then records[key]? else none := by
  rw [tenantPart, Std.ExtTreeMap.getElem?_filter']
  by_cases h : key.1 = tenant
  · cases records[key]? with
    | none => simp
    | some record => simp [Option.filter, h]
  · cases records[key]? with
    | none => simp
    | some record => simp [Option.filter, h]

theorem tenantPart_insert {key : TenantId × String} {record : ReplayRecord} :
    tenantPart (records.insert key record) tenant =
      if key.1 = tenant then (tenantPart records tenant).insert key record
      else tenantPart records tenant := by
  refine Std.ExtTreeMap.ext_getElem? fun other => ?_
  by_cases hkey : key.1 = tenant
  · by_cases hother : key = other
    · subst hother
      simp [getElem?_tenantPart, hkey]
    · simp [getElem?_tenantPart, hkey, hother]
  · by_cases hother : key = other
    · subst hother
      simp [getElem?_tenantPart, hkey]
    · simp [getElem?_tenantPart, hkey, hother]

theorem tenantPart_retain (call : Call) :
    tenantPart (config.retain call records) tenant =
      config.retain call (tenantPart records tenant) := by
  refine Std.ExtTreeMap.ext_getElem? fun key => ?_
  rw [getElem?_tenantPart, getElem?_retain, getElem?_retain, getElem?_tenantPart]
  by_cases h : key.1 = tenant
  · rw [if_pos h, if_pos h]
  · rw [if_neg h, if_neg h]
    rfl

def Bounded (config : GatewayConfig) (records : Records) : Prop :=
  records.size ≤ config.maxIdempotencyRecords ∧
    ∀ tenant, tenantRecords records tenant ≤ config.maxIdempotencyRecordsPerTenant

theorem Bounded.retain (h : Bounded config records) (call : Call) :
    Bounded config (config.retain call records) := by
  refine ⟨Std.ExtTreeMap.size_filter_le_size.trans h.1, fun tenant => ?_⟩
  rw [tenantRecords_eq_size, tenantPart_retain]
  refine Std.ExtTreeMap.size_filter_le_size.trans ?_
  rw [← tenantRecords_eq_size]
  exact h.2 tenant

theorem Bounded.step (h : Bounded config records) (call : Call) :
    Bounded config (checkIdempotency config records call).1 := by
  have hretain := h.retain call
  obtain heq | heq | ⟨key, -, -, hsize, hown, heq⟩ := checkIdempotency_records config records call
  · rwa [heq]
  · rwa [heq]
  · rw [heq]
    refine ⟨Std.ExtTreeMap.size_insert_le.trans hsize, fun tenant => ?_⟩
    rw [tenantRecords_eq_size, tenantPart_insert]
    by_cases htenant : call.tenant = tenant
    · rw [if_pos htenant]
      refine Std.ExtTreeMap.size_insert_le.trans ?_
      rwa [← htenant, ← tenantRecords_eq_size]
    · rw [if_neg htenant, ← tenantRecords_eq_size]
      exact hretain.2 tenant

theorem bounded_after (h : Bounded config records) (calls : List Call) :
    Bounded config (after config records calls) := by
  induction calls generalizing records with
  | nil => exact h
  | cons call calls ih => exact ih (h.step call)

theorem bounded_empty : Bounded config ∅ := by
  refine ⟨?_, fun tenant => ?_⟩
  · simp
  · rw [tenantRecords_eq_size]
    exact Std.ExtTreeMap.size_filter_le_size.trans (by simp)

end Caps

/-! ### One tenant among the others -/

section Isolation

variable {config : GatewayConfig} {records alone : Records} {tenant : TenantId}

structure Tracks (config : GatewayConfig) (tenant : TenantId) (now : Nat)
    (records alone : Records) : Prop where
  live : ∀ key : TenantId × String, key.1 = tenant → ∀ later, now ≤ later →
    records[key]?.filter (config.live later) = alone[key]?.filter (config.live later)
  own : ∀ key : TenantId × String, key.1 ≠ tenant → alone[key]? = none

theorem Tracks.mono {now later : Nat} (h : Tracks config tenant now records alone)
    (hle : now ≤ later) : Tracks config tenant later records alone :=
  ⟨fun key hkey reading hreading => h.live key hkey reading (hle.trans hreading), h.own⟩

theorem Tracks.tenantPart_retain {now : Nat} {call : Call}
    (h : Tracks config tenant now records alone) (hstart : ∀ key, now ≤ call.elapsedAt key) :
    tenantPart (config.retain call records) tenant = config.retain call alone := by
  refine Std.ExtTreeMap.ext_getElem? fun key => ?_
  rw [getElem?_tenantPart, getElem?_retain, getElem?_retain]
  by_cases hkey : key.1 = tenant
  · rw [if_pos hkey, h.live key hkey _ (hstart key)]
  · rw [if_neg hkey, h.own key hkey]
    rfl

theorem tracks_of_tenantPart_eq {now : Nat} (h : tenantPart records tenant = alone) :
    Tracks config tenant now records alone := by
  subst h
  refine ⟨fun key hkey later _ => ?_, fun key hkey => ?_⟩
  · rw [getElem?_tenantPart, if_pos hkey]
  · rw [getElem?_tenantPart, if_neg hkey]

theorem Tracks.foreign {now : Nat} {call : Call} (h : Tracks config tenant now records alone)
    (hforeign : call.tenant ≠ tenant) (hstart : ∀ key, now ≤ call.elapsedAt key)
    (hend : ∀ key, call.elapsedAt key ≤ call.insertedAt) :
    Tracks config tenant call.insertedAt (checkIdempotency config records call).1 alone := by
  refine ⟨fun key hkey later hlater => ?_, h.own⟩
  have hnow : now ≤ later := ((hstart key).trans (hend key)).trans hlater
  have hother : ∀ own, call.key = some own → (call.tenant, own) ≠ key := by
    rintro own - rfl
    exact hforeign hkey
  obtain heq | heq := checkIdempotency_other config records hother
  · rw [heq, h.live key hkey later hnow]
  · rw [heq, filter_live_of_le ((hend key).trans hlater), h.live key hkey later hnow]

/-- Where a new record is needed, one of the caps refuses it: that of the tenant, or that over
all tenants alone. -/
theorem capped_or_iff {call : Call} {key : String} (hkey : call.key = some key)
    (hnone : (config.retain call records)[(call.tenant, key)]? = none) :
    (capped config records call = true ∨ config.maxIdempotencyRecordsPerTenant ≤
        tenantRecords (config.retain call records) call.tenant) ↔
      (config.maxIdempotencyRecords ≤ (config.retain call records).size ∨
        config.maxIdempotencyRecordsPerTenant ≤
          tenantRecords (config.retain call records) call.tenant) := by
  unfold capped
  simp only [hkey, hnone, Option.isNone_none, Bool.true_and, decide_eq_true_eq]
  omega

theorem Tracks.answered {now : Nat} {call : Call} (h : Tracks config tenant now records alone)
    (hown : call.tenant = tenant) (hstart : ∀ key, now ≤ call.elapsedAt key)
    (hend : ∀ key, call.elapsedAt key ≤ call.insertedAt) :
    (checkIdempotency config records call).2 =
        (Alone.check config alone call (capped config records call)).2 ∧
      Tracks config tenant call.insertedAt (checkIdempotency config records call).1
        (Alone.check config alone call (capped config records call)).1 := by
  have hlater : Tracks config tenant call.insertedAt records alone :=
    h.mono ((hstart (tenant, "")).trans (hend (tenant, "")))
  have hpart := h.tenantPart_retain hstart
  have hcount : tenantRecords (config.retain call records) call.tenant =
      (config.retain call alone).size := by rw [tenantRecords_eq_size, hown, hpart]
  have hfound : ∀ key : String, (config.retain call records)[(call.tenant, key)]? =
      (config.retain call alone)[(call.tenant, key)]? := by
    intro key
    rw [← hpart, getElem?_tenantPart, if_pos hown]
  have hcaps : ∀ key, call.key = some key →
      (config.retain call alone)[(call.tenant, key)]? = none →
      ((capped config records call = true ∨
          config.maxIdempotencyRecordsPerTenant ≤ (config.retain call alone).size) ↔
        (config.maxIdempotencyRecords ≤ (config.retain call records).size ∨
          config.maxIdempotencyRecordsPerTenant ≤
            tenantRecords (config.retain call records) call.tenant)) := by
    intro key hkey hnone
    rw [← hcount]
    exact capped_or_iff hkey ((hfound key).trans hnone)
  generalize capped config records call = bit at hcaps ⊢
  unfold checkIdempotency Alone.check
  cases hkey : call.key with
  | none =>
    dsimp only
    split
    · exact ⟨rfl, hlater⟩
    · exact ⟨rfl, hlater⟩
  | some key =>
    dsimp only
    split
    · exact ⟨rfl, hlater⟩
    · rw [hfound key]
      cases hrecord : (config.retain call alone)[(call.tenant, key)]? with
      | some existing =>
        dsimp only
        split
        · exact ⟨rfl, tracks_of_tenantPart_eq hpart⟩
        · exact ⟨rfl, tracks_of_tenantPart_eq hpart⟩
      | none =>
        dsimp only
        simp only [hcaps key hkey hrecord]
        split
        · exact ⟨rfl, tracks_of_tenantPart_eq hpart⟩
        · refine ⟨rfl, tracks_of_tenantPart_eq ?_⟩
          rw [tenantPart_insert, if_pos hown, hpart]

/-- The answers of a tenant among others are those it gets alone, given what the cap over all
tenants refused. -/
theorem answers_eq_alone {now : Nat} {calls : List Call} (htimed : Timed now calls)
    (h : Tracks config tenant now records alone) :
    (ofTenant tenant (trace config records calls)).map Answered.answer =
      Alone.answers config alone (heard (ofTenant tenant (trace config records calls))) := by
  induction calls generalizing now records alone with
  | nil => rfl
  | cons call calls ih =>
    obtain ⟨hstart, hend, hrest⟩ := htimed
    by_cases hown : call.tenant = tenant
    · obtain ⟨hanswer, htracks⟩ := h.answered hown hstart hend
      simp only [trace, ofTenant, heard, List.filter_cons, hown, beq_self_eq_true, if_true,
        List.map_cons, Alone.answers] at ih ⊢
      rw [hanswer, ih hrest htracks]
    · have htracks := h.foreign hown hstart hend
      simp only [trace, ofTenant, heard, List.filter_cons, beq_iff_eq, hown, if_false] at ih ⊢
      exact ih hrest htracks

end Isolation

/-! ### Sequences of calls -/

/-- Whatever calls reach the gateway: within the period of an acceptance its key is accepted with
the same payload only, tenants do not disturb each other, and the caps hold. -/
theorem idempotency_agrees (config : GatewayConfig) (calls : List Call) (htimed : Timed 0 calls) :
    (∀ past first between later rest key, calls = past ++ (first :: between ++ later :: rest) →
      RecordedFirst config (after config ∅ past) first key →
      later.tenant = first.tenant → later.key = some key →
      first.insertedAt.elapsed (later.elapsedAt (first.tenant, key)) < config.idempotencyTtl →
      (checkIdempotency config (after config ∅ (past ++ first :: between)) later).2 =
        if later.payloadHash = first.payloadHash then .ok ()
        else .error .idempotencyConflict) ∧
    (∀ tenant others, Timed 0 others →
      heard (ofTenant tenant (trace config ∅ calls)) =
        heard (ofTenant tenant (trace config ∅ others)) →
      (ofTenant tenant (trace config ∅ calls)).map Answered.answer =
        (ofTenant tenant (trace config ∅ others)).map Answered.answer) ∧
    (after config ∅ calls).size ≤ config.maxIdempotencyRecords ∧
    ∀ tenant, tenantRecords (after config ∅ calls) tenant ≤
      config.maxIdempotencyRecordsPerTenant := by
  refine ⟨?_, ?_, bounded_after bounded_empty calls⟩
  · rintro past first between later rest key rfl hfirst htenant hkey hperiod
    obtain ⟨now, hsuffix⟩ := htimed.suffix
    have hanswer := answer_of_recorded hsuffix hfirst htenant hkey hperiod
    rwa [after, List.foldl_append]
  · intro tenant others hothers hheard
    have htracks : Tracks config tenant 0 ∅ ∅ := ⟨fun _ _ _ _ => rfl, fun _ _ => rfl⟩
    calc (ofTenant tenant (trace config ∅ calls)).map Answered.answer
        = Alone.answers config ∅ (heard (ofTenant tenant (trace config ∅ calls))) :=
          answers_eq_alone htimed htracks
      _ = Alone.answers config ∅ (heard (ofTenant tenant (trace config ∅ others))) := by
          rw [hheard]
      _ = (ofTenant tenant (trace config ∅ others)).map Answered.answer :=
          (answers_eq_alone hothers htracks).symm

def sampleConfig : GatewayConfig := ⟨true, 10, 1, 1⟩

def sampleCall (payloadHash : String) (now : Instant) : Call :=
  ⟨"tenant-a", some "client:key", payloadHash, fun _ => now, now⟩

theorem idempotency_agrees_sampleCall :
    (checkIdempotency sampleConfig (after sampleConfig ∅ [sampleCall "hash-a" 1])
      (sampleCall "hash-b" 5)).2 = .error .idempotencyConflict := by
  have htimed : Timed 0 [sampleCall "hash-a" 1, sampleCall "hash-b" 5] := by
    simp [Timed, sampleCall]
  have hfirst : RecordedFirst sampleConfig ∅ (sampleCall "hash-a" 1) "client:key" :=
    ⟨rfl, by decide, by decide⟩
  obtain ⟨hagrees, -⟩ := idempotency_agrees sampleConfig _ htimed
  exact hagrees [] _ [] _ [] "client:key" rfl hfirst rfl rfl (by decide)

end AgentSphere.Gateway
