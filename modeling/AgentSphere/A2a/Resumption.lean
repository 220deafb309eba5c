import AgentSphere.A2a.EventStream
import AgentSphere.Lib.Program

/-!
# Reading a stream to its end

In any run of `publish_backend` the events of a task are numbered from one without a gap. Whoever
resumes with a token reads the events after the number it names, and whoever starts from a snapshot
reads those that were published after it.
-/

namespace AgentSphere.A2a

open Concurrency Machine

def Recent (now time : DateTime) : Prop := ∃ limit, now.add fiveMinutes = some limit ∧ time ≤ limit

def Granting (now expiresAt : DateTime) : Prop :=
  now < expiresAt ∧ ∃ limit, now.add twentyFourHours = some limit ∧ expiresAt ≤ limit

def FourDigitYear (time : DateTime) : Prop :=
  -62167219200000000000 ≤ time ∧ time < 253402300800000000000

structure StreamCodec.Lawful {Bytes : Type} (codec : StreamCodec Bytes) : Prop where
  verified : ∀ bytes, codec.verifies bytes (codec.sign bytes) = true
  decoded : ∀ bytes, codec.decode (codec.encode bytes) = some bytes
  token_written : ∀ token, (codec.tokenJcs token).isSome = true
  token_parsed : ∀ token bytes, token.afterSequence < 2 ^ 64 →
    codec.tokenJcs token = some bytes → codec.parseToken bytes = some token
  snapshot_written : ∀ snapshot, (codec.snapshotJcs snapshot).isSome = true
  time_parsed : ∀ time, FourDigitYear time → codec.parsesRfc3339 (codec.toRfc3339 time) = true

section Reads

variable {Bytes : Type} {codec : StreamCodec Bytes} {adapter : AgUiStreamAdapter}
  {streams streams' : Streams} {key : TenantId × TaskId} {now time : DateTime}

-- Instants and signatures

@[simp] theorem checkTime_eq_ok {u : Unit} :
    checkTime time now = .ok u ↔ Recent now time := by
  unfold checkTime Recent
  cases now.add fiveMinutes with
  | none => simp
  | some limit => simp

@[simp] theorem checkExpiry_eq_ok {u : Unit} :
    checkExpiry time now = .ok u ↔ Granting now time := by
  unfold checkExpiry Granting
  rw [except_bind_eq_ok]
  cases now.add twentyFourHours with
  | none => simp
  | some limit => simp

theorem StreamCodec.Lawful.checkSignature (hcodec : codec.Lawful) {bytes : Option Bytes}
    {signature : String} (h : signBytes codec bytes = .ok signature) :
    checkSignature codec bytes signature = .ok () := by
  cases bytes with
  | none => cases h
  | some bytes =>
    obtain rfl := Except.ok.inj h
    exact require_eq_ok.mpr (hcodec.verified bytes)

theorem signBytes_of_isSome {bytes : Option Bytes} (h : bytes.isSome = true) :
    ∃ signature, signBytes codec bytes = .ok signature := by
  obtain ⟨bytes, rfl⟩ := Option.isSome_iff_exists.mp h
  exact ⟨_, rfl⟩

theorem verifyEvent_eq_ok {event : AgUiEventEnvelope} :
    verifyEvent codec event now = .ok () ↔
      (event.schemaVersion = a2aSchemaVersion ∧ event.sequence ≠ 0 ∧ event.eventId ≠ "" ∧
        isUuid event.eventId = true ∧ event.traceId ≠ "" ∧ event.traceId.utf8ByteSize ≤ 256 ∧
        safePayloadAllowed event.safePayload 0 = true) ∧
      Recent now event.occurredAt ∧
      checkSignature codec (eventBytes codec event) event.backendSignature = .ok () := by
  unfold verifyEvent
  simp only [except_bind_eq_ok, require_eq_ok, checkTime_eq_ok, exists_and_left, exists_const]

def Verifiable (codec : StreamCodec Bytes) (event : AgUiEventEnvelope) : Prop :=
  ∀ now, Recent now event.occurredAt → verifyEvent codec event now = .ok ()

-- Publishing

@[simp] theorem eventsOf_insert {key' : TenantId × TaskId} {events : List AgUiEventEnvelope} :
    eventsOf (streams.insert key events) key' =
      if key = key' then events else eventsOf streams key' := by
  unfold eventsOf
  rw [Std.ExtTreeMap.getD_eq_getD_getElem?, BTreeMap.getElem?_insert_ite]
  by_cases hkey : key = key'
  · simp [hkey]
  · simp [hkey, Std.ExtTreeMap.getD_eq_getD_getElem?]

structure Stream (adapter : AgUiStreamAdapter) (codec : StreamCodec Bytes)
    (key : TenantId × TaskId) (events : List AgUiEventEnvelope) : Prop where
  length_le : events.length ≤ adapter.maximumEventsPerTask
  numbered : ∀ i event, events[i]? = some event → event.sequence = i + 1
  owned : ∀ event ∈ events, (event.tenantId, event.taskId) = key
  verifiable : ∀ event ∈ events, Verifiable codec event

structure Follows (adapter : AgUiStreamAdapter) (codec : StreamCodec Bytes)
    (key : TenantId × TaskId) (events : List AgUiEventEnvelope) (event : AgUiEventEnvelope) :
    Prop where
  room : events.length < adapter.maximumEventsPerTask
  sequence : event.sequence = events.length + 1
  owner : (event.tenantId, event.taskId) = key
  verifiable : Verifiable codec event

theorem publish_cases (hcodec : codec.Lawful) (adapter : AgUiStreamAdapter) (streams : Streams)
    (call : PublishCall) :
    (∃ e, (publishBackend codec adapter streams call).1 = .error e ∧ ∀ key,
      eventsOf (publishBackend codec adapter streams call).2 key = eventsOf streams key) ∨
    ∃ event, (publishBackend codec adapter streams call).1 = .ok event ∧
      Follows adapter codec call.key (eventsOf streams call.key) event ∧ ∀ key,
      eventsOf (publishBackend codec adapter streams call).2 key =
        if call.key = key then eventsOf streams key ++ [event] else eventsOf streams key := by
  have hentry : ∀ key, eventsOf (streams.insert call.key (eventsOf streams call.key)) key =
      eventsOf streams key := by
    intro key
    by_cases hkey : call.key = key
    · simp [hkey]
    · simp [hkey]
  unfold publishBackend
  split
  case isFalse => exact .inl ⟨_, rfl, fun _ => rfl⟩
  case isTrue hcontent =>
    obtain ⟨htrace, hlength, hpayload, -⟩ := hcontent
    simp only
    split
    case isTrue => exact .inl ⟨_, rfl, hentry⟩
    case isFalse hroom =>
      split
      case h_2 => exact .inl ⟨_, rfl, hentry⟩
      case h_1 signature hsigned =>
        refine .inr ⟨_, rfl, ⟨Nat.lt_of_not_le hroom, rfl, rfl, ?_⟩, ?_⟩
        · intro now hrecent
          have hid : call.eventId.toStr ≠ "" := by
            intro hempty
            have hsize := Uuid.utf8ByteSize_toStr call.eventId
            rw [hempty] at hsize
            cases hsize
          exact verifyEvent_eq_ok.mpr ⟨⟨rfl, Nat.succ_ne_zero _, hid, isUuid_toStr call.eventId,
            htrace, hlength, hpayload⟩, hrecent, hcodec.checkSignature hsigned⟩
        · intro key
          by_cases hkey : call.key = key
          · simp [hkey]
          · simp [hkey]

theorem Stream.nil : Stream adapter codec key [] where
  length_le := Nat.zero_le _
  numbered := by simp
  owned := by simp
  verifiable := by simp

theorem Stream.snoc {events : List AgUiEventEnvelope} {event : AgUiEventEnvelope}
    (h : Stream adapter codec key events) (hnext : Follows adapter codec key events event) :
    Stream adapter codec key (events ++ [event]) where
  length_le := by
    rw [List.length_append]
    exact hnext.room
  numbered i other hother := by
    obtain hi | rfl | hi := Nat.lt_trichotomy i events.length
    · rw [List.getElem?_append_left hi] at hother
      exact h.numbered i other hother
    · obtain rfl : event = other := by simpa using hother
      exact hnext.sequence
    · rw [List.getElem?_append_right hi.le] at hother
      simp [show i - events.length ≠ 0 by omega] at hother
  owned other hother := by
    obtain hold | hnew := List.mem_append.mp hother
    · exact h.owned other hold
    · rw [List.mem_singleton.mp hnew]
      exact hnext.owner
  verifiable other hother := by
    obtain hold | hnew := List.mem_append.mp hother
    · exact h.verifiable other hold
    · rw [List.mem_singleton.mp hnew]
      exact hnext.verifiable

theorem Stream.sequences {events : List AgUiEventEnvelope}
    (h : Stream adapter codec key events) :
    events.map (·.sequence) = List.range' 1 events.length := by
  refine List.ext_getElem (by simp) fun i hi _ => ?_
  have hlt : i < events.length := by simpa using hi
  have hsequence := h.numbered i events[i] (List.getElem?_eq_getElem hlt)
  simp [hsequence, Nat.add_comm]

theorem Stream.sorted {events : List AgUiEventEnvelope} (h : Stream adapter codec key events) :
    events.Pairwise fun a b => a.sequence < b.sequence := by
  have hrange : (events.map (·.sequence)).Pairwise (· < ·) := by
    rw [h.sequences]
    exact List.pairwise_lt_range'
  exact List.pairwise_map.mp hrange

theorem Stream.filter_new {old new : List AgUiEventEnvelope}
    (h : Stream adapter codec key (old ++ new)) :
    (old ++ new).filter (fun event => old.length < event.sequence) = new := by
  have hold : old.filter (fun event => old.length < event.sequence) = [] := by
    refine List.filter_eq_nil_iff.mpr fun event hevent => ?_
    obtain ⟨i, hi⟩ := List.getElem?_of_mem hevent
    obtain ⟨hlt, -⟩ := List.getElem?_eq_some_iff.mp hi
    have hsequence := h.numbered i event ((List.getElem?_append_left hlt).trans hi)
    simp only [hsequence, decide_eq_true_eq]
    omega
  have hnew : new.filter (fun event => old.length < event.sequence) = new := by
    refine List.filter_eq_self.mpr fun event hevent => ?_
    obtain ⟨i, hi⟩ := List.getElem?_of_mem hevent
    have hsequence := h.numbered (old.length + i) event
      (by rwa [List.getElem?_append_right (by omega), Nat.add_sub_cancel_left])
    simp only [hsequence, decide_eq_true_eq]
    omega
  rw [List.filter_append, hold, hnew, List.nil_append]

theorem Stream.getLast_sequence {events : List AgUiEventEnvelope}
    (h : Stream adapter codec key events) :
    events.getLast?.elim 0 (·.sequence) = events.length := by
  obtain rfl | ⟨events, event, rfl⟩ := List.eq_nil_or_concat events
  · rfl
  · rw [List.concat_eq_append] at h ⊢
    simp [h.numbered events.length event (by simp)]

-- Resuming

def Punctual (clock : Nat → DateTime) (events : List AgUiEventEnvelope) : Prop :=
  ∀ i event, events[i]? = some event → Recent (clock i) event.occurredAt

theorem checkEvents_ok (token : ResumeToken) {prior : Nat} {clock : Nat → DateTime}
    {events : List AgUiEventEnvelope} (hverifiable : ∀ event ∈ events, Verifiable codec event)
    (howned : ∀ event ∈ events, (event.tenantId, event.taskId) = (token.tenantId, token.taskId))
    (hprior : ∀ event ∈ events, prior < event.sequence)
    (hsorted : events.Pairwise fun a b => a.sequence < b.sequence)
    (hclock : Punctual clock events) : checkEvents codec token prior clock events = .ok () := by
  induction events generalizing prior clock with
  | nil => rfl
  | cons event events ih =>
    obtain ⟨hfirst, hsorted⟩ := List.pairwise_cons.mp hsorted
    obtain ⟨htenant, htask⟩ := Prod.mk.inj (howned event List.mem_cons_self)
    have hevent : verifyEvent codec event (clock 0) = .ok () :=
      hverifiable event List.mem_cons_self _ (hclock 0 event rfl)
    have hrest : checkEvents codec token event.sequence (fun i => clock (i + 1)) events = .ok () :=
      ih (fun other hother => hverifiable other (List.mem_cons_of_mem _ hother))
        (fun other hother => howned other (List.mem_cons_of_mem _ hother)) hfirst hsorted
        fun i other hother => hclock (i + 1) other (by simpa using hother)
    unfold checkEvents
    have hplace : event.tenantId = token.tenantId ∧ event.taskId = token.taskId ∧
        prior < event.sequence := ⟨htenant, htask, hprior event List.mem_cons_self⟩
    exact except_bind_eq_ok.mpr ⟨(), hevent,
      except_bind_eq_ok.mpr ⟨(), require_eq_ok.mpr hplace, hrest⟩⟩

structure ResumeToken.Genuine (codec : StreamCodec Bytes) (token : ResumeToken) : Prop where
  schema : token.schemaVersion = a2aSchemaVersion
  signed : checkSignature codec (resumeBytes codec token) token.signature = .ok ()

theorem resumeToken_eq_ok (hcodec : codec.Lawful) {tenantId : TenantId} {taskId : TaskId}
    {afterSequence : Nat} {expiresAt : DateTime} {token : ResumeToken}
    (h : resumeToken codec tenantId taskId afterSequence expiresAt now = .ok token) :
    token.Genuine codec ∧ token.tenantId = tenantId ∧ token.taskId = taskId ∧
      token.afterSequence = afterSequence ∧ token.expiresAt = expiresAt := by
  unfold resumeToken at h
  obtain ⟨-, -, h⟩ := except_bind_eq_ok.mp h
  obtain ⟨signature, hsigned, h⟩ := except_bind_eq_ok.mp h
  obtain rfl := Except.ok.inj h
  exact ⟨⟨rfl, hcodec.checkSignature hsigned⟩, rfl, rfl, rfl, rfl⟩

theorem exists_token (hcodec : codec.Lawful) (tenantId : TenantId) (taskId : TaskId)
    (afterSequence : Nat) {expiresAt : DateTime} (h : Granting now expiresAt) :
    ∃ token, resumeToken codec tenantId taskId afterSequence expiresAt now = .ok token := by
  obtain ⟨signature, hsigned⟩ := signBytes_of_isSome (hcodec.token_written
    ⟨a2aSchemaVersion, tenantId, taskId, afterSequence, expiresAt, ""⟩)
  exact ⟨_, except_bind_eq_ok.mpr ⟨(), checkExpiry_eq_ok.mpr h,
    except_bind_eq_ok.mpr ⟨signature, hsigned, rfl⟩⟩⟩

theorem resume_eq_ok {token : ResumeToken} {clock : Nat → DateTime}
    {events : List AgUiEventEnvelope}
    (hevents : eventsOf streams (token.tenantId, token.taskId) = events)
    (hstream : Stream adapter codec (token.tenantId, token.taskId) events)
    (hgenuine : token.Genuine codec) (hvalid : now < token.expiresAt)
    (hclock : Punctual clock (events.filter fun event => token.afterSequence < event.sequence)) :
    resume codec adapter streams token now clock =
      .ok (events.filter fun event => token.afterSequence < event.sequence) := by
  subst hevents
  have hsub : ((eventsOf streams (token.tenantId, token.taskId)).filter fun event =>
      token.afterSequence < event.sequence).Sublist
        (eventsOf streams (token.tenantId, token.taskId)) := List.filter_sublist
  have hchecked := checkEvents_ok token
    (fun event hevent => hstream.verifiable event (hsub.subset hevent))
    (fun event hevent => hstream.owned event (hsub.subset hevent))
    (fun event hevent => of_decide_eq_true (List.mem_filter.mp hevent).2)
    (hstream.sorted.sublist hsub) hclock
  unfold resume
  refine except_bind_eq_ok.mpr ⟨(), require_eq_ok.mpr ⟨hgenuine.schema, hvalid⟩, ?_⟩
  refine except_bind_eq_ok.mpr ⟨(), hgenuine.signed, ?_⟩
  refine except_bind_eq_ok.mpr ⟨(), require_eq_ok.mpr ?_, ?_⟩
  · exact hsub.length_le.trans hstream.length_le
  · exact except_bind_eq_ok.mpr ⟨(), hchecked, rfl⟩

-- Snapshots

structure SnapshotCall.Allowed (call : SnapshotCall) (events : List AgUiEventEnvelope) : Prop where
  status : validStatus call.status = true
  digest : call.evidenceDigest.all isDigest = true
  expiry : Granting call.now call.tokenExpiresAt
  issued : Granting call.issuedAt call.tokenExpiresAt
  latest : ∀ event ∈ events.getLast?, Recent call.verifiedAt event.occurredAt

structure SnapshotCall.Gives (codec : StreamCodec Bytes) (call : SnapshotCall)
    (events : List AgUiEventEnvelope) (snapshot : AgUiSafeSnapshot) : Prop where
  allowed : call.Allowed events
  schema : snapshot.schemaVersion = aguiSnapshotSchemaVersion
  owner : (snapshot.tenantId, snapshot.taskId) = call.key
  sequence : snapshot.sequence = events.length
  state : snapshot.safeState = call.safeState codec events.getLast?
  generated : snapshot.generatedAt = call.now
  signed : checkSignature codec (snapshotBytes codec snapshot) snapshot.backendSignature = .ok ()
  token : ∃ token, readToken codec snapshot.nextResumeToken = some token ∧ token.Genuine codec ∧
    (token.tenantId, token.taskId) = call.key ∧ token.afterSequence = events.length ∧
    token.expiresAt = call.tokenExpiresAt

variable {call : SnapshotCall} {events : List AgUiEventEnvelope} {snapshot : AgUiSafeSnapshot}

theorem readToken_encode (hcodec : codec.Lawful) {token : ResumeToken} {bytes : Bytes}
    (hfits : token.afterSequence < 2 ^ 64) (h : codec.tokenJcs token = some bytes) :
    readToken codec (codec.encode bytes) = some token := by
  rw [readToken, hcodec.decoded, Option.bind_some, hcodec.token_parsed token bytes hfits h]

theorem safeSnapshot_eq_ok (hcodec : codec.Lawful) (hevents : eventsOf streams call.key = events)
    (hstream : Stream adapter codec call.key events)
    (h : safeSnapshot codec streams call = .ok snapshot) : call.Gives codec events snapshot := by
  unfold safeSnapshot at h
  rw [hevents] at h
  obtain ⟨_, hargs, h⟩ := except_bind_eq_ok.mp h
  obtain ⟨hstatus, hdigest⟩ := require_eq_ok.mp hargs
  obtain ⟨_, hexpiry, h⟩ := except_bind_eq_ok.mp h
  obtain ⟨_, hverified, h⟩ := except_bind_eq_ok.mp h
  obtain ⟨token, htoken, h⟩ := except_bind_eq_ok.mp h
  have hissued : Granting call.issuedAt call.tokenExpiresAt := by
    unfold resumeToken at htoken
    obtain ⟨_, hgranted, -⟩ := except_bind_eq_ok.mp htoken
    exact checkExpiry_eq_ok.mp hgranted
  have hlatest : ∀ event ∈ events.getLast?, Recent call.verifiedAt event.occurredAt := by
    intro event hevent
    rw [Option.mem_def.mp hevent] at hverified
    exact (verifyEvent_eq_ok.mp hverified).2.1
  obtain ⟨hgenuine, htenant, htask, hafter, hexpires⟩ := resumeToken_eq_ok hcodec htoken
  rw [hstream.getLast_sequence] at hafter h
  split at h
  case h_1 => cases h
  case h_2 bytes hbytes =>
    obtain ⟨signature, hsigned, h⟩ := except_bind_eq_ok.mp h
    obtain rfl := Except.ok.inj h
    have hfits : token.afterSequence < 2 ^ 64 := by
      rw [hafter]
      exact hstream.length_le.trans_lt adapter.fits
    exact
      { allowed := ⟨hstatus, hdigest, checkExpiry_eq_ok.mp hexpiry, hissued, hlatest⟩
        schema := rfl
        owner := rfl
        sequence := rfl
        state := rfl
        generated := rfl
        signed := hcodec.checkSignature hsigned
        token := ⟨token, readToken_encode hcodec hfits hbytes, hgenuine,
          Prod.ext htenant htask, hafter, hexpires⟩ }

theorem exists_snapshot (hcodec : codec.Lawful) (hevents : eventsOf streams call.key = events)
    (hstream : Stream adapter codec call.key events) (hallowed : call.Allowed events) :
    ∃ snapshot, safeSnapshot codec streams call = .ok snapshot := by
  unfold safeSnapshot
  rw [hevents]
  have hverified : verifyLatest codec events.getLast? call.verifiedAt = .ok () := by
    cases hlast : events.getLast? with
    | none => rfl
    | some event =>
      exact hstream.verifiable event (List.mem_of_getLast? hlast) _ (hallowed.latest event hlast)
  obtain ⟨token, htoken⟩ := exists_token hcodec call.tenantId call.taskId
    (events.getLast?.elim 0 (·.sequence)) hallowed.issued
  obtain ⟨bytes, hbytes⟩ := Option.isSome_iff_exists.mp (hcodec.token_written token)
  obtain ⟨signature, hsigned⟩ : ∃ signature, signBytes codec (snapshotBytes codec
      ⟨aguiSnapshotSchemaVersion, call.tenantId, call.taskId,
        events.getLast?.elim 0 (·.sequence), call.safeState codec events.getLast?,
        codec.encode bytes, call.now, ""⟩) = .ok signature :=
    signBytes_of_isSome (hcodec.snapshot_written _)
  have hargs : require (validStatus call.status = true ∧ call.evidenceDigest.all isDigest = true)
      A2aError.eventInvalid = .ok () := require_eq_ok.mpr ⟨hallowed.status, hallowed.digest⟩
  have hexpiry : checkExpiry call.tokenExpiresAt call.now = .ok () :=
    checkExpiry_eq_ok.mpr hallowed.expiry
  rw [hargs, hexpiry]
  simp only [bind, Except.bind, hverified, htoken, hbytes, hsigned]
  exact ⟨_, rfl⟩

theorem safeSnapshotState_safeState (hcodec : codec.Lawful) (hallowed : call.Allowed events)
    (hyear : ∀ event ∈ events.getLast?, FourDigitYear event.occurredAt) :
    safeSnapshotState codec (call.safeState codec events.getLast?) = true := by
  have hstatus := hallowed.status
  have hdigest := hallowed.digest
  have htime : ∀ event ∈ events.getLast?,
      codec.parsesRfc3339 (codec.toRfc3339 event.occurredAt) = true :=
    fun event hevent => hcodec.time_parsed _ (hyear event hevent)
  unfold SnapshotCall.safeState safeSnapshotState
  cases hgiven : call.evidenceDigest with
  | none =>
    cases hlast : events.getLast? with
    | none => simp [Value.asStr, List.lookup_cons, hstatus]
    | some event => simp [Value.asStr, List.lookup_cons, hstatus, htime event hlast]
  | some digest =>
    have hshape : isDigest digest = true := by simpa [hgiven] using hdigest
    cases hlast : events.getLast? with
    | none => simp [Value.asStr, List.lookup_cons, hstatus, hshape]
    | some event => simp [Value.asStr, List.lookup_cons, hstatus, hshape, htime event hlast]

theorem verifySnapshot_eq_ok (hcodec : codec.Lawful) (h : call.Gives codec events snapshot)
    (hrecent : Recent now call.now)
    (hyear : ∀ event ∈ events.getLast?, FourDigitYear event.occurredAt) :
    verifySnapshot codec snapshot now = .ok () := by
  obtain ⟨token, hread, hgenuine, howner, hafter, hexpires⟩ := h.token
  have hstate : safeSnapshotState codec snapshot.safeState = true := by
    rw [h.state]
    exact safeSnapshotState_safeState hcodec h.allowed hyear
  have hbound : token.schemaVersion = a2aSchemaVersion ∧ token.tenantId = snapshot.tenantId ∧
      token.taskId = snapshot.taskId ∧ token.afterSequence = snapshot.sequence ∧
      snapshot.generatedAt < token.expiresAt := by
    obtain ⟨htenant, htask⟩ := Prod.mk.inj (howner.trans h.owner.symm)
    refine ⟨hgenuine.schema, htenant, htask, hafter.trans h.sequence.symm, ?_⟩
    rw [h.generated, hexpires]
    exact h.allowed.expiry.1
  unfold verifySnapshot
  refine except_bind_eq_ok.mpr ⟨(), require_eq_ok.mpr h.schema, ?_⟩
  refine except_bind_eq_ok.mpr ⟨(), checkTime_eq_ok.mpr (h.generated ▸ hrecent), ?_⟩
  refine except_bind_eq_ok.mpr ⟨(), require_eq_ok.mpr hstate, ?_⟩
  refine except_bind_eq_ok.mpr ⟨(), h.signed, ?_⟩
  simp only [hread]
  exact except_bind_eq_ok.mpr ⟨(), require_eq_ok.mpr hbound, hgenuine.signed⟩

end Reads

section Runs

def published (key : TenantId × TaskId)
    (events : List (Served Streams PublishCall (Except A2aError AgUiEventEnvelope))) :
    List AgUiEventEnvelope :=
  events.filterMap fun event =>
    match event.answer with
    | .ok envelope => if event.call.key = key then some envelope else none
    | .error _ => none

variable {Bytes : Type} (codec : StreamCodec Bytes) (adapter : AgUiStreamAdapter)

def TokenReads (streams : Streams) (token : ResumeToken) (events : List AgUiEventEnvelope) : Prop :=
  ∀ now clock, now < token.expiresAt → Punctual clock events →
    resume codec adapter streams token now clock = .ok events

structure Continues (call : SnapshotCall) (early : List AgUiEventEnvelope) (streams : Streams)
    (late : List AgUiEventEnvelope) (snapshot : AgUiSafeSnapshot) : Prop where
  accepted : ∀ now, Recent now call.now →
    (∀ event ∈ early.getLast?, FourDigitYear event.occurredAt) →
    verifySnapshot codec snapshot now = .ok ()
  continued : ∃ token, readToken codec snapshot.nextResumeToken = some token ∧
    token.expiresAt = call.tokenExpiresAt ∧ TokenReads codec adapter streams token late

structure Resumable (calls : List PublishCall) : Prop where
  numbered : ∀ key,
    (published key (trace (publishBackend codec adapter) ∅ calls)).map (·.sequence) =
      List.range' 1 (published key (trace (publishBackend codec adapter) ∅ calls)).length ∧
    (published key (trace (publishBackend codec adapter) ∅ calls)).length ≤
      adapter.maximumEventsPerTask
  resumed : ∀ tenantId taskId afterSequence expiresAt issuedAt token,
    resumeToken codec tenantId taskId afterSequence expiresAt issuedAt = .ok token →
    TokenReads codec adapter (after (publishBackend codec adapter) ∅ calls) token
      ((published (tenantId, taskId) (trace (publishBackend codec adapter) ∅ calls)).filter
        fun event => afterSequence < event.sequence)
  yields : ∀ call : SnapshotCall,
    call.Allowed (published call.key (trace (publishBackend codec adapter) ∅ calls)) →
    ∃ snapshot,
      safeSnapshot codec (after (publishBackend codec adapter) ∅ calls) call = .ok snapshot
  continued : ∀ early late, calls = early ++ late → ∀ call snapshot,
    safeSnapshot codec (after (publishBackend codec adapter) ∅ early) call = .ok snapshot →
    Continues codec adapter call
      (published call.key (trace (publishBackend codec adapter) ∅ early))
      (after (publishBackend codec adapter) ∅ calls)
      (published call.key (trace (publishBackend codec adapter)
        (after (publishBackend codec adapter) ∅ early) late)) snapshot

variable {codec adapter} {key : TenantId × TaskId}

theorem published_append
    {events events' : List (Served Streams PublishCall (Except A2aError AgUiEventEnvelope))} :
    published key (events ++ events') = published key events ++ published key events' :=
  List.filterMap_append

theorem stream_of_run (hcodec : codec.Lawful) (adapter : AgUiStreamAdapter)
    (calls : List PublishCall) (key : TenantId × TaskId) :
    eventsOf (after (publishBackend codec adapter) ∅ calls) key =
      published key (trace (publishBackend codec adapter) ∅ calls) ∧
    Stream adapter codec key (published key (trace (publishBackend codec adapter) ∅ calls)) := by
  have hany : Meets (fun _ _ _ => True) (trace (publishBackend codec adapter) ∅ calls) := .true
  refine Meets.invariant (I := fun events streams => ∀ key,
    eventsOf streams key = published key events ∧
      Stream adapter codec key (published key events)) ?_ ?_ hany key
  · exact fun key => ⟨by simp [eventsOf, published], .nil⟩
  · intro events streams call ih _ key
    rw [published_append]
    obtain ⟨e, hanswer, hsame⟩ | ⟨event, hanswer, hnext, hgrown⟩ :=
      publish_cases hcodec adapter streams call
    · have hnone : published key [serve (publishBackend codec adapter) streams call] = [] := by
        simp [published, hanswer]
      rw [hnone, List.append_nil, hsame]
      exact ih key
    · rw [hgrown]
      by_cases hkey : call.key = key
      · have hone : published key [serve (publishBackend codec adapter) streams call] =
            [event] := by
          simp [published, hanswer, hkey]
        obtain ⟨hevents, hstream⟩ := ih key
        rw [hkey, hevents] at hnext
        rw [hone, if_pos hkey, hevents]
        exact ⟨rfl, hstream.snoc hnext⟩
      · have hnone : published key [serve (publishBackend codec adapter) streams call] = [] := by
          simp [published, hanswer, hkey]
        rw [hnone, List.append_nil, if_neg hkey]
        exact ih key

/-- **Streams**: in any run the events of a task are numbered without a gap, tokens read what comes
after them, and snapshots are accepted, as long as the clock is not set back too far. -/
theorem streams_resumable (hcodec : codec.Lawful) (adapter : AgUiStreamAdapter)
    (calls : List PublishCall) : Resumable codec adapter calls where
  numbered key := by
    obtain ⟨-, hstream⟩ := stream_of_run hcodec adapter calls key
    exact ⟨hstream.sequences, hstream.length_le⟩
  resumed := by
    intro tenantId taskId afterSequence expiresAt issuedAt token hissued now clock hvalid hclock
    obtain ⟨hgenuine, rfl, rfl, rfl, rfl⟩ := resumeToken_eq_ok hcodec hissued
    obtain ⟨hevents, hstream⟩ :=
      stream_of_run hcodec adapter calls (token.tenantId, token.taskId)
    exact resume_eq_ok hevents hstream hgenuine hvalid hclock
  yields := by
    intro call hallowed
    obtain ⟨hevents, hstream⟩ := stream_of_run hcodec adapter calls call.key
    exact exists_snapshot hcodec hevents hstream hallowed
  continued := by
    rintro early late rfl call snapshot hsnapshot
    obtain ⟨hevents, hstream⟩ := stream_of_run hcodec adapter early call.key
    obtain ⟨hlater, hall⟩ := stream_of_run hcodec adapter (early ++ late) call.key
    rw [trace_append, published_append] at hlater hall
    have hgives := safeSnapshot_eq_ok hcodec hevents hstream hsnapshot
    refine ⟨fun now hrecent hyear => verifySnapshot_eq_ok hcodec hgives hrecent hyear, ?_⟩
    obtain ⟨token, hread, hgenuine, howner, hafter, hexpires⟩ := hgives.token
    refine ⟨token, hread, hexpires, fun now clock hvalid hclock => ?_⟩
    have hnew := hall.filter_new
    rw [← hafter] at hnew
    rw [← howner] at hlater hall hnew hclock ⊢
    have hresumed := resume_eq_ok hlater hall hgenuine hvalid (by rwa [hnew])
    exact hresumed.trans (congrArg Except.ok hnew)

end Runs

-- A clock that is set back

def putField (cs : List Char) : List Char := List.replicate cs.length '1' ++ '0' :: cs

def takeField (cs : List Char) : List Char × List Char :=
  let rest := (cs.dropWhile (· = '1')).drop 1
  let length := (cs.takeWhile (· = '1')).length
  (rest.take length, rest.drop length)

theorem takeField_putField (cs rest : List Char) :
    takeField (putField cs ++ rest) = (cs, rest) := by
  have hones : ∀ c ∈ List.replicate cs.length '1', decide (c = '1') = true := by
    intro c hc
    rw [List.eq_of_mem_replicate hc]
    decide
  unfold takeField putField
  rw [List.append_assoc, List.takeWhile_append_of_pos hones, List.dropWhile_append_of_pos hones]
  simp

def putInt : Int → List Char
  | .ofNat n => '+' :: List.replicate n 'x'
  | .negSucc n => '-' :: List.replicate n 'x'

def takeInt : List Char → Int
  | '-' :: cs => .negSucc cs.length
  | cs => .ofNat (cs.length - 1)

theorem takeInt_putInt (n : Int) : takeInt (putInt n) = n := by
  cases n with
  | ofNat n => simp [putInt, takeInt]
  | negSucc n => simp [putInt, takeInt]

def sampleTokenText (token : ResumeToken) : String :=
  String.ofList (putField token.schemaVersion.toList ++ (putField token.tenantId.toList ++
    (putField token.taskId.toList ++ (putField (List.replicate token.afterSequence 'x') ++
    (putField (putInt token.expiresAt) ++ putField token.signature.toList)))))

def sampleParseToken (text : String) : Option ResumeToken :=
  let (schemaVersion, rest) := takeField text.toList
  let (tenantId, rest) := takeField rest
  let (taskId, rest) := takeField rest
  let (afterSequence, rest) := takeField rest
  let (expiresAt, rest) := takeField rest
  let (signature, _) := takeField rest
  some ⟨String.ofList schemaVersion, String.ofList tenantId, String.ofList taskId,
    afterSequence.length, takeInt expiresAt, String.ofList signature⟩

def sampleStreamCodec : StreamCodec String where
  jcsSize _ := some 2
  eventJcs event := some event.eventId
  tokenJcs token := some (sampleTokenText token)
  snapshotJcs snapshot := some snapshot.nextResumeToken
  sign bytes := "signed:" ++ bytes
  verifies bytes signature := signature = "signed:" ++ bytes
  encode bytes := bytes
  decode text := some text
  parseToken bytes := sampleParseToken bytes
  toRfc3339 _ := "1970-01-01T00:06:40+00:00"
  parsesRfc3339 text := text = "1970-01-01T00:06:40+00:00"

theorem sampleStreamCodec_lawful : sampleStreamCodec.Lawful where
  verified := by simp [sampleStreamCodec]
  decoded := by simp [sampleStreamCodec]
  token_written := by simp [sampleStreamCodec]
  token_parsed := by
    intro token bytes _ hbytes
    obtain rfl := Option.some.inj hbytes
    have hlast := takeField_putField token.signature.toList []
    rw [List.append_nil] at hlast
    simp [sampleStreamCodec, sampleParseToken, sampleTokenText, takeField_putField, hlast,
      takeInt_putInt]
  snapshot_written := by simp [sampleStreamCodec]
  time_parsed := by simp [sampleStreamCodec]

def sampleStream : AgUiStreamAdapter where
  maximumEventsPerTask := 10
  somePlace := by decide
  fits := by decide

def samplePublish : PublishCall where
  tenantId := "tenant"
  taskId := "task"
  kind := .executionStatus
  traceId := "trace"
  safePayload := .object [("status", .string "RUNNING")]
  eventId := sampleUuid 1
  now := 400000000000

def sampleResumeToken : ResumeToken :=
  let token : ResumeToken := ⟨a2aSchemaVersion, "tenant", "task", 0, 5, ""⟩
  { token with signature := "signed:" ++ sampleTokenText token }

/-- **Counterexample**: the clock is set back to zero before a token is issued, and the token reads
nothing as long as it is valid. -/
theorem clock_set_back :
    resumeToken sampleStreamCodec "tenant" "task" 0 5 1 = .ok sampleResumeToken ∧
    2 < sampleResumeToken.expiresAt ∧
    (published ("tenant", "task")
      (trace (publishBackend sampleStreamCodec sampleStream) ∅ [samplePublish])).length = 1 ∧
    resume sampleStreamCodec sampleStream
      (after (publishBackend sampleStreamCodec sampleStream) ∅ [samplePublish]) sampleResumeToken 2
      (fun _ => 2) = .error .eventInvalid := by
  refine ⟨rfl, by decide, by decide +kernel, by decide +kernel⟩

theorem streams_resumable_sample : Resumable sampleStreamCodec sampleStream [samplePublish] :=
  streams_resumable sampleStreamCodec_lawful sampleStream [samplePublish]

end AgentSphere.A2a
