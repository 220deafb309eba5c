import AgentSphere.Industrial.Journal

/-!
# Chains of stops

Every record of a safe stop carries a hash that is computed from the hash of the last record of its
tenant. A request reads that hash, lets the adapter stop, and only then appends its record, so the
records of a tenant are one chain as long as no other stop of the tenant is recorded in between.
-/

namespace AgentSphere.Industrial

open Concurrency Attempt IndustrialGateway

section Stops

variable {Bytes VerifyingKey : Type}

def zeroHash : String := String.ofList (List.replicate 64 '0')

def Follows (codec : IndustrialCodec Bytes VerifyingKey) (prior : String)
    (record : SafeStopRecord) : Prop :=
  codec.safeStopHash record.tenantId record.resourceKey record.requestedBy record.reasonCode
    record.requestedAt prior = some record.localJournalHash

instance (codec : IndustrialCodec Bytes VerifyingKey) (prior : String) (record : SafeStopRecord) :
    Decidable (Follows codec prior record) :=
  inferInstanceAs (Decidable (_ = _))

def Chained (codec : IndustrialCodec Bytes VerifyingKey) : String → List SafeStopRecord → Prop
  | _, [] => True
  | prior, record :: rest => Follows codec prior record ∧ Chained codec record.localJournalHash rest

def stopsOf (tenantId : TenantId) (records : List SafeStopRecord) : List SafeStopRecord :=
  records.filter fun record => record.tenantId = tenantId

def lastHash (records : List SafeStopRecord) : Option String :=
  records.getLast?.map SafeStopRecord.localJournalHash

variable {codec : IndustrialCodec Bytes VerifyingKey} {gateway : IndustrialGateway}
  {state state' : GatewayState VerifyingKey} {call : GatewayCall VerifyingKey}
  {entries : List (GatewayEntry VerifyingKey)} {record : SafeStopRecord} {tenantId : TenantId}

theorem Chained.snoc {records : List SafeStopRecord} {prior : String}
    (h : Chained codec prior records)
    (hfollows : Follows codec ((lastHash records).getD prior) record) :
    Chained codec prior (records ++ [record]) := by
  induction records generalizing prior with
  | nil => exact ⟨hfollows, trivial⟩
  | cons first rest ih =>
    refine ⟨h.1, ih h.2 ?_⟩
    cases hlast : rest.getLast? <;> simpa [lastHash, List.getLast?_cons, hlast] using hfollows

theorem priorHash_eq (records : List SafeStopRecord) :
    (records.reverse.find? fun record => record.tenantId = tenantId).map
      SafeStopRecord.localJournalHash = lastHash (stopsOf tenantId records) := by
  rw [lastHash, stopsOf, ← List.head?_reverse, ← List.filter_reverse, List.head?_filter]

theorem stopsOf_snoc (records : List SafeStopRecord) :
    stopsOf tenantId (records ++ [record]) =
      if record.tenantId = tenantId then stopsOf tenantId records ++ [record]
      else stopsOf tenantId records := by
  by_cases h : record.tenantId = tenantId
  · simp [stopsOf, h]
  · simp [stopsOf, h]

-- Requests

def MayPush (codec : IndustrialCodec Bytes VerifyingKey)
    (entries : List (GatewayEntry VerifyingKey)) :
    GatewayCall VerifyingKey → Prop
  | .pushSafeStop record => ∃ prior, ⟨.priorSafeStop record.tenantId, prior⟩ ∈ entries ∧
    Follows codec (Option.getD prior zeroHash) record
  | _ => True

def Calm : GatewayCall VerifyingKey → Prop
  | .pushSafeStop _ => False
  | _ => True

theorem Calm.mayPush (h : Calm call) : MayPush codec entries call := by
  cases call with
  | pushSafeStop => exact h.elim
  | _ => exact trivial

theorem Preparing.calm (h : Preparing call) : Calm call := by
  cases call with
  | pushSafeStop => exact h.elim
  | _ => exact trivial

theorem Checking.calm (h : Checking call) : Calm call := h.preparing.calm

theorem Settling.calm (h : Settling call) : Calm call := by
  cases call with
  | pushSafeStop => exact h.elim
  | _ => exact trivial

theorem calm_commit (auth : EdgeAuthorization) (preparationId : String) :
    Only Calm (gateway.commit codec auth preparationId) := by
  have hwrite : ∀ action channel dispatchJournalDigest, Only Calm (do
      let _ ← ask (.removePrepared preparationId)
      let answer ← ask (.compareAndSet channel action)
      gateway.settle codec action channel dispatchJournalDigest answer :
        Gatewaying VerifyingKey IndustrialCommitReceipt) := by
    intro action channel dispatchJournalDigest
    refine only_bind (only_ask trivial) fun _ => only_bind (only_ask trivial) fun answer => ?_
    exact only_mono (only_settle action channel dispatchJournalDigest answer) fun _ => Settling.calm
  unfold commit
  refine only_bind (only_ask trivial) fun connected => ?_
  refine only_bind only_ensure fun _ => ?_
  refine only_bind (only_ask trivial) fun envelope => ?_
  refine only_bind (only_ask trivial) fun policyAt => ?_
  refine only_bind trivial fun _ => ?_
  refine only_bind (only_ask trivial) fun clockAt => ?_
  refine only_bind (only_mono (only_validateClock clockAt) fun _ => Checking.calm) fun _ => ?_
  refine only_bind (only_mono (only_findAction auth preparationId) fun _ => Checking.calm)
    fun action => ?_
  refine only_bind only_ensure fun _ => ?_
  refine only_bind (only_ask trivial) fun central => ?_
  refine only_bind only_ensure fun _ => ?_
  refine only_bind (only_ask trivial) fun expiryAt => ?_
  refine only_bind only_ensure fun _ => ?_
  refine only_bind (only_ask trivial) fun now => ?_
  refine only_bind (only_mono (only_verifyAndConsume auth now) fun _ => Checking.calm) fun _ => ?_
  refine only_bind (only_port trivial id) fun channel => ?_
  split
  · exact only_bind (only_port trivial journaled) fun digest => hwrite action channel digest
  · refine only_bind trivial fun digest => ?_
    exact hwrite action channel digest

def pushing (codec : IndustrialCodec Bytes VerifyingKey) :
    Monitor (GatewayCall VerifyingKey) GatewayCall.Answer (List (GatewayEntry VerifyingKey)) :=
  recording (MayPush codec) fun _ _ => True

theorem pushing_settleStop (prior : Option String) {stopped : Except IndustrialError Unit}
    (hprior : ⟨.priorSafeStop record.tenantId, prior⟩ ∈ entries)
    (hfollows : Follows codec (prior.getD zeroHash) record) :
    (pushing codec).Ensures (fun _ _ => True)
      (gateway.settleStop record stopped : Gatewaying VerifyingKey SafeStopRecord).run entries := by
  have hcomplete : ∀ completed entries', entries ⊆ entries' →
      (pushing codec).Ensures (fun _ _ => True)
        (completeStop record completed : Gatewaying VerifyingKey SafeStopRecord).run entries' := by
    intro completed entries' hsubset
    unfold completeStop
    split
    · -- the digest of the record is not hashed
      exact Monitor.ask_bind ⟨prior, hsubset hprior, hfollows⟩ fun _ => trivial
    · exact Monitor.port_bind trivial (fun _ _ _ => trivial) fun _ _ _ => trivial
  unfold settleStop
  split
  · split
    · exact Monitor.ask_bind trivial fun answer => hcomplete _ _ (List.subset_append_left _ _)
    · exact hcomplete _ _ (List.Subset.refl _)
  · split
    · exact Monitor.port_bind trivial (fun _ _ _ => trivial) fun _ _ _ => trivial
    · exact trivial

theorem pushing_requestSafeStop (auth : EdgeAuthorization) (requestedBy reasonCode : String) :
    (pushing codec).Ensures (fun _ _ => True)
      (gateway.requestSafeStop codec auth requestedBy reasonCode).run [] := by
  unfold requestSafeStop
  refine Monitor.ensure_bind (fun _ => ?_) fun _ => trivial
  refine Monitor.ensure_bind (fun _ => ?_) fun _ => trivial
  refine Monitor.ofExcept_bind (fun digest _ => ?_) fun _ _ => trivial
  refine Monitor.ensure_bind (fun _ => ?_) fun _ => trivial
  refine Monitor.ask_bind trivial fun central => ?_
  refine Monitor.ensure_bind (fun _ => ?_) fun _ => trivial
  refine Monitor.ask_bind trivial fun now => ?_
  refine Monitor.only_bind (only_verifyAndConsume auth now) (fun _ _ h => h.calm.mayPush)
    (fun _ _ _ => trivial) fun _ more _ => ?_
  refine Monitor.port_bind trivial (fun _ channel _ => ?_) fun _ _ _ => trivial
  refine Monitor.ask_bind trivial fun prior => ?_
  refine Monitor.ask_bind trivial fun requestedAt => ?_
  refine Monitor.computed_bind (fun localJournalHash hhash => ?_) trivial
  refine Monitor.ask_bind trivial fun recordId => ?_
  -- neither the identifier nor the digest of the intent is hashed
  split
  · refine Monitor.port_bind trivial (fun _ intent _ => ?_) fun _ _ _ => trivial
    refine Monitor.ask_bind trivial fun stopped => ?_
    exact pushing_settleStop prior (by simp [recording]) hhash
  · refine Monitor.ask_bind trivial fun stopped => ?_
    exact pushing_settleStop prior (by simp [recording]) hhash

/-- **Threads**: only requests record stops. -/
theorem pushing_operator {p : Program (GatewayCall VerifyingKey) GatewayCall.Answer ThreadResult}
    (h : Operator codec gateway p) : (pushing codec).Ensures (fun _ _ => True) p [] := by
  have hcalm : ∀ {α : Type} {operation : Gatewaying VerifyingKey α}, Only Calm operation →
      (pushing codec).Ensures (fun _ _ => True) operation.run [] :=
    fun h => (h.recorded (fun _ _ => Calm.mayPush) []).mono fun _ _ _ => trivial
  cases h with
  | prepareWrite auth targetValue engineeringUnit =>
    exact Monitor.ensures_bind.mpr (hcalm (only_mono
      (only_prepareWrite auth targetValue engineeringUnit) fun _ => Preparing.calm))
  | commit auth preparationId =>
    exact Monitor.ensures_bind.mpr (hcalm (calm_commit auth preparationId))
  | requestSafeStop auth requestedBy reasonCode =>
    exact Monitor.ensures_bind.mpr (pushing_requestSafeStop auth requestedBy reasonCode)
  | updateCentralPolicy next now =>
    refine Monitor.ensures_bind.mpr (hcalm (only_bind trivial fun _ => ?_))
    exact only_bind (only_ask trivial) fun current => only_bind trivial fun _ => only_ask trivial
  | setConnected connected => exact Monitor.ensures_bind.mpr (hcalm (only_ask trivial))
  | register channel =>
    refine Monitor.ensures_bind.mpr (hcalm (only_bind trivial fun _ => ?_))
    exact only_bind (only_ask trivial) fun known => only_bind only_ensure fun _ => only_ask trivial
  | read tenantId resourceKey =>
    exact Monitor.ensures_bind.mpr (hcalm (only_bind (only_port trivial id) fun _ =>
      only_port trivial id))
  | addKey keyId issuer key => exact Monitor.ensures_bind.mpr (hcalm (only_ask trivial))

-- Runs

def Records (tenantId : TenantId) : GatewayCall VerifyingKey → Prop
  | .pushSafeStop record => record.tenantId = tenantId
  | _ => False

/-- Between reading the last hash of its tenant and recording its stop, a thread meets no other
recorded stop of that tenant. -/
def Undisturbed (trace : List (GatewayEvent VerifyingKey)) : Prop :=
  ∀ before prior between event after, trace = before ++ prior :: between ++ event :: after →
    ∀ record, event.call = .pushSafeStop record → prior.thread = event.thread →
      prior.call = .priorSafeStop record.tenantId →
        ∀ other ∈ between, ¬Records record.tenantId other.call

theorem Undisturbed.prefix {trace rest : List (GatewayEvent VerifyingKey)}
    (h : Undisturbed (trace ++ rest)) : Undisturbed trace := by
  intro before prior between event after htrace
  exact h before prior between event (after ++ rest) (by simp [htrace])

theorem stopsOf_unchanged {answer : call.Answer} (hserve : serve state call answer state')
    (hother : ¬Records tenantId call) :
    stopsOf tenantId state'.safeStopRecords = stopsOf tenantId state.safeStopRecords := by
  cases call with
  | pushSafeStop record =>
    obtain rfl := hserve
    exact (stopsOf_snoc _).trans (if_neg hother)
  | addKey | writeCentral | writeConnected | insertChannel | insertPrepared | removePrepared =>
    obtain rfl := hserve
    rfl
  | recordPrepared =>
    obtain rfl | rfl := hserve
    · rfl
    · rfl
  | verifierKey | markUsed | readCentral | readConnected | containsChannel | resolve | findPrepared
  | loadPrepared | priorSafeStop =>
    obtain ⟨-, rfl⟩ := hserve
    rfl
  | _ =>
    obtain rfl := hserve
    rfl

theorem prior_is_last {cfg : GatewayConfig VerifyingKey} {i : Nat} {prior : Option String}
    (hreach : (system codec gateway).Reachable state cfg)
    (hprior : ⟨.priorSafeStop tenantId, prior⟩ ∈ history i cfg.trace)
    (hnone : ∀ before event between, cfg.trace = before ++ event :: between → event.thread = i →
      event.call = .priorSafeStop tenantId → ∀ other ∈ between, ¬Records tenantId other.call) :
    prior = lastHash (stopsOf tenantId cfg.shared.safeStopRecords) := by
  obtain ⟨event, hevent, hthread, hentry⟩ := mem_history.mp hprior
  obtain ⟨before, between, htrace⟩ := List.append_of_mem hevent
  have hserved := System.Reachable.served hreach
  have hkept : stopsOf tenantId cfg.shared.safeStopRecords =
      stopsOf tenantId event.after.safeStopRecords := by
    refine (hreach.unchanged (fun s => stopsOf tenantId s.safeStopRecords)
      (by rintro _ _ ⟨⟩)).1 before event between htrace fun later hlater => ?_
    refine stopsOf_unchanged (hserved later (by simp [htrace, hlater])) ?_
    exact hnone before event between htrace hthread (congrArg Sigma.fst hentry) later hlater
  obtain ⟨thread, call, answer, before, after⟩ := event
  cases hentry
  obtain ⟨hanswer, hsame⟩ := hserved _ hevent
  rw [hkept, hsame]
  exact hanswer.trans (priorHash_eq _)

/-- **Chains**: while no other stop of a tenant is recorded between reading its last hash and
recording a stop, the stops of every tenant are one chain from the zero hash. -/
theorem stops_are_chained {cfg : GatewayConfig VerifyingKey} (hempty : state.safeStopRecords = [])
    (hreach : (system codec gateway).Reachable state cfg) (hundisturbed : Undisturbed cfg.trace)
    (tenantId : TenantId) :
    Chained codec zeroHash (stopsOf tenantId cfg.shared.safeStopRecords) := by
  refine (hreach.conducted (I := fun shared trace => Undisturbed trace → ∀ tenantId,
      Chained codec zeroHash (stopsOf tenantId shared.safeStopRecords))
    (fun p hp => pushing_operator hp) ?_ (by rintro _ _ _ _ ⟨⟩) ?_).1 hundisturbed tenantId
  · intro cfg i call answer shared' hreach hinv hallowed hserve hundisturbed tenantId
    have hchain := hinv hundisturbed.prefix tenantId
    by_cases hrecords : Records tenantId call
    · cases call with
      | pushSafeStop record =>
        obtain rfl : record.tenantId = tenantId := hrecords
        obtain ⟨prior, hprior, hfollows⟩ := hallowed
        obtain rfl := prior_is_last hreach hprior fun before event between htrace hthread hcall =>
          hundisturbed before event between ⟨i, .pushSafeStop record, answer, cfg.shared, shared'⟩
            [] (by simp [htrace]) record rfl hthread hcall
        obtain rfl := hserve
        rw [stopsOf_snoc, if_pos rfl]
        exact hchain.snoc hfollows
      | _ => exact hrecords.elim
    · rw [stopsOf_unchanged hserve hrecords]
      exact hchain
  · intro _ tenantId
    rw [hempty]
    exact trivial

theorem Undisturbed.alone {trace events : List (GatewayEvent VerifyingKey)} {i : Nat}
    (h : Undisturbed trace) (hnew : ∀ event ∈ trace, event.thread ≠ i)
    (hown : ∀ event ∈ events, event.thread = i)
    (hlast : ∀ before event after, events = before ++ event :: after →
      ∀ tenantId, ∀ other ∈ before, ¬Records tenantId other.call) :
    Undisturbed (trace ++ events) := by
  intro before prior between event after htrace record hcall hthread hprior
  have hforeign : event.thread = i → prior ∉ trace := fun hevent hmem =>
    hnew prior hmem (hthread.trans hevent)
  obtain ⟨rest, hold, hmore⟩ | ⟨rest, hold, hmore⟩ := List.append_eq_append_iff.mp htrace
  · -- the event is one of the request, and so is all since the last hash was read
    have hevent : event.thread = i := hown event (by simp [hmore])
    have hbetween : ∀ other ∈ between, other ∈ rest := by
      obtain ⟨front, htail, hrest⟩ | ⟨front, -, hrest⟩ := List.append_eq_append_iff.mp hold
      · rcases front with _ | ⟨first, front⟩
        · intro other hother
          rw [List.nil_append] at hrest
          exact hrest ▸ List.mem_cons_of_mem _ hother
        · obtain ⟨rfl, -⟩ := List.cons.inj hrest
          exact absurd (by simp [htail]) (hforeign hevent)
      · intro other hother
        simp [hrest, hother]
    exact fun other hother => hlast rest event after hmore _ other (hbetween other hother)
  · rcases rest with _ | ⟨first, rest⟩
    · have hevent : event.thread = i := by
        rw [List.nil_append] at hmore
        exact hown event (hmore ▸ List.mem_cons_self)
      exact absurd (by simp [hold]) (hforeign hevent)
    · obtain ⟨rfl, -⟩ := List.cons.inj hmore
      exact h before prior between event rest (by simp [hold]) record hcall hthread hprior

end Stops

-- Two stops

def sampleStopCodec : IndustrialCodec String String :=
  { sampleIndustrialCodec with
    safeStopHash := fun _ _ _ _ _ prior => some ("after " ++ prior) }

def sampleStopGateway : IndustrialGateway := { sampleGateway .high with journal := false }

def sampleStopAuthorization (n : Fin 16) : EdgeAuthorization :=
  { sampleEdgeAuthorization with
    authorizationId := (sampleUuid n).toStr
    purpose := "SAFE_STOP"
    argumentsDigest := sampleHash 'b' }

def sampleStop (n : Fin 16) (localJournalHash : String) : SafeStopRecord where
  schemaVersion := industrialSchemaVersion
  recordId := "record"
  tenantId := "tenant"
  authorizationId := (sampleUuid n).toStr
  actionHash := sampleHash 'a'
  resourceKey := "site/area/line/asset/setpoint"
  reasonCode := "OVERHEAT"
  requestedBy := "operator"
  requestedAt := 20
  localJournalHash := localJournalHash
  intentJournalDigest := ""
  completionJournalDigest := ""

def sampleReading (n : Fin 16) (prior : Option String) : List (GatewayEntry String) :=
  [⟨.readCentral, sampleCentral "central-1" 10⟩, ⟨.utcNow, (10 : DateTime)⟩,
    ⟨.verifierKey "key", some ("central", "key-1")⟩, ⟨.markUsed (sampleUuid n).toStr, true⟩,
    ⟨.resolve (.stop (sampleStopAuthorization n)) "tenant" "site/area/line/asset/setpoint",
      .ok sampleChannel⟩,
    ⟨.priorSafeStop "tenant", prior⟩]

def sampleStopping (n : Fin 16) (localJournalHash : String) : List (GatewayEntry String) :=
  [⟨.newUuid, "record"⟩, ⟨.safeStop sampleChannel (sampleStop n localJournalHash), .ok ()⟩,
    ⟨.pushSafeStop (sampleStop n localJournalHash), ()⟩]

theorem sampleStop_resumes {n : Fin 16} (hn : n ∈ ([1, 2] : List (Fin 16)))
    (prior : Option String) :
    Resumes (sampleStopGateway.requestSafeStop sampleStopCodec (sampleStopAuthorization n)
        "operator" "OVERHEAT").run
      (sampleReading n prior ++ ⟨.utcNow, (20 : DateTime)⟩ ::
        sampleStopping n ("after " ++ prior.getD zeroHash))
      (.done (.ok (sampleStop n ("after " ++ prior.getD zeroHash)))) := by
  have hverify : ∀ n ∈ ([1, 2] : List (Fin 16)), (sampleStopAuthorization n).verify sampleStopCodec
      (some ("central", "key-1")) 10 = .ok () := by
    decide
  have hconsume : Resumes (sampleStopGateway.verifyAndConsume sampleStopCodec
      (sampleStopAuthorization n) 10).run
      [⟨.verifierKey "key", some ("central", "key-1")⟩, ⟨.markUsed (sampleUuid n).toStr, true⟩]
      (.done (.ok ())) := by
    have hkey : Resumes (verify sampleStopCodec (sampleStopAuthorization n) 10).run
        [⟨.verifierKey "key", some ("central", "key-1")⟩] (.done (.ok ())) := by
      rw [← hverify n hn]
      exact .perform (.refl _)
    refine hkey.attempt_bind ?_
    refine .ask_bind ?_
    exact .refl _
  have hdigest : safeStopArgumentsDigest sampleStopCodec "site/area/line/asset/setpoint" "v1" =
      .ok (sampleHash 'b') := by
    decide
  refine .ensure_bind (by decide) ?_
  refine .ensure_bind rfl ?_
  refine .ofExcept_bind (a := sampleHash 'b') hdigest ?_
  refine .ensure_bind rfl ?_
  refine .ask_bind ?_
  refine .ensure_bind rfl ?_
  refine .ask_bind ?_
  refine hconsume.attempt_bind ?_
  refine .port_bind rfl ?_
  refine .ask_bind ?_
  refine .ask_bind ?_
  refine .computed_bind rfl ?_
  refine .ask_bind ?_
  refine .ask_bind ?_
  refine .ask_bind ?_
  exact .refl _

def sampleUsed (used : List (Fin 16)) : BTreeSet String :=
  used.foldl (fun used n => used.insert (sampleUuid n).toStr) ∅

def sampleStopState (used : List (Fin 16)) (records : List SafeStopRecord) : GatewayState String :=
  { sampleGatewayState with
    used := sampleUsed used
    safeStopRecords := records }

abbrev sampleStopSystem := system sampleStopCodec sampleStopGateway

def sampleRequest (n : Fin 16) : Program (GatewayCall String) GatewayCall.Answer ThreadResult :=
  finished (sampleStopGateway.requestSafeStop sampleStopCodec (sampleStopAuthorization n)
    "operator" "OVERHEAT")

theorem sampleRequest_split {n : Fin 16} (hn : n ∈ ([1, 2] : List (Fin 16)))
    (prior : Option String) :
    ∃ resume, Resumes (sampleRequest n) (sampleReading n prior) (.perform .utcNow resume) ∧
      Resumes (.perform .utcNow resume) (⟨.utcNow, (20 : DateTime)⟩ ::
        sampleStopping n ("after " ++ prior.getD zeroHash)) (.done none) := by
  obtain ⟨resume, hreading, hrest⟩ := ((sampleStop_resumes hn prior).bind_left fun _ =>
    (.done none : Program (GatewayCall String) GatewayCall.Answer ThreadResult)).split
  exact ⟨resume, hreading, .perform hrest⟩

theorem sampleReading_serves (used : List (Fin 16)) (records : List SafeStopRecord) (n : Fin 16)
    (hfresh : (sampleUsed used).contains (sampleUuid n).toStr = false) :
    sampleStopSystem.Serves (sampleStopState used records)
      (sampleReading n (lastHash (stopsOf "tenant" records)))
      (sampleStopState (used ++ [n]) records) := by
  have hkey : sampleGatewayState.keys["key"]? = some ("central", "key-1") := by decide
  refine .through (sampleStopState used records) ⟨rfl, rfl⟩ ?_
  refine .through (sampleStopState used records) rfl ?_
  refine .through (sampleStopState used records) ⟨hkey.symm, rfl⟩ ?_
  refine .through (sampleStopState (used ++ [n]) records) ⟨?_, ?_⟩ ?_
  · exact (congrArg not hfresh).symm
  · simp [sampleStopState, sampleUsed]
  refine .through (sampleStopState (used ++ [n]) records)
    ⟨(sampleGatewayState_resolve rfl).symm, rfl⟩ ?_
  exact .through (sampleStopState (used ++ [n]) records)
    ⟨(priorHash_eq records).symm, rfl⟩ (.nil _)

theorem sampleStopping_serves (used : List (Fin 16)) (records : List SafeStopRecord) (n : Fin 16)
    (localJournalHash : String) :
    sampleStopSystem.Serves (sampleStopState used records)
      (⟨.utcNow, (20 : DateTime)⟩ :: sampleStopping n localJournalHash)
      (sampleStopState used (records ++ [sampleStop n localJournalHash])) := by
  refine .through (sampleStopState used records) rfl ?_
  refine .through (sampleStopState used records) rfl ?_
  refine .through (sampleStopState used records) rfl ?_
  exact .through (sampleStopState used (records ++ [sampleStop n localJournalHash])) rfl (.nil _)

/-- **Counterexample**: two requests read the same hash, and their records both follow it. -/
theorem stops_fork : ∃ cfg, sampleStopSystem.Reachable (sampleStopState [] []) cfg ∧
    (sampleStopState [] []).safeStopRecords = [] ∧
    ¬Chained sampleStopCodec zeroHash (stopsOf "tenant" cfg.shared.safeStopRecords) := by
  obtain ⟨resume₁, hreading₁, hstopping₁⟩ := sampleRequest_split (n := 1) (by decide) none
  obtain ⟨resume₂, hreading₂, hstopping₂⟩ := sampleRequest_split (n := 2) (by decide) none
  have hjoined : sampleStopSystem.Reachable (sampleStopState [] [])
      ⟨sampleStopState [] [], [sampleRequest 1, sampleRequest 2], []⟩ :=
    .tail (.tail .refl (.start _ (.requestSafeStop ..))) (.start _ (.requestSafeStop ..))
  obtain ⟨_, -, -, hfirst⟩ := hjoined.run 0 rfl hreading₁
    (sampleReading_serves _ [] _ (by decide))
  obtain ⟨_, -, -, hsecond⟩ := hfirst.run 1 rfl hreading₂
    (sampleReading_serves _ [] _ (by decide))
  obtain ⟨_, -, -, hthird⟩ := hsecond.run 0 rfl hstopping₁ (sampleStopping_serves ..)
  obtain ⟨_, -, -, hfourth⟩ := hthird.run 1 rfl hstopping₂ (sampleStopping_serves ..)
  refine ⟨_, hfourth, rfl, ?_⟩
  have hsecond : ¬Follows sampleStopCodec ("after " ++ zeroHash)
      (sampleStop 2 ("after " ++ zeroHash)) := by
    decide
  exact fun hchained => hsecond hchained.2.1

theorem sampleRequest_last {events : List (GatewayEvent String)} {n : Fin 16}
    {prior : Option String} {localJournalHash : String}
    (hentries : events.map Event.entry = sampleReading n prior ++ ⟨.utcNow, (20 : DateTime)⟩ ::
      sampleStopping n localJournalHash) :
    ∀ before event after, events = before ++ event :: after →
      ∀ tenantId, ∀ other ∈ before, ¬Records tenantId other.call := by
  rintro before event after rfl tenantId other hother
  have hfront : other.entry ∈ ((before ++ event :: after).map Event.entry).dropLast := by
    rw [List.map_append, List.dropLast_append_of_ne_nil (by simp)]
    exact List.mem_append_left _ (List.mem_map_of_mem hother)
  rw [hentries] at hfront
  have hcalm : ∀ entry ∈ (sampleReading n prior ++ ⟨.utcNow, (20 : DateTime)⟩ ::
      sampleStopping n localJournalHash).dropLast, ¬Records tenantId entry.1 := by
    simp [sampleReading, sampleStopping, Records]
  exact hcalm _ hfront

def sampleRequesting (n : Fin 16) (prior : Option String) : List (GatewayEntry String) :=
  sampleReading n prior ++ ⟨.utcNow, (20 : DateTime)⟩ ::
    sampleStopping n ("after " ++ prior.getD zeroHash)

theorem sampleRequesting_resumes {n : Fin 16} (hn : n ∈ ([1, 2] : List (Fin 16)))
    (prior : Option String) :
    Resumes (sampleRequest n) (sampleRequesting n prior) (.done none) := by
  obtain ⟨resume, hreading, hstopping⟩ := sampleRequest_split hn prior
  exact hreading.trans hstopping

theorem sampleRequesting_serves (used : List (Fin 16)) (records : List SafeStopRecord) (n : Fin 16)
    (hfresh : (sampleUsed used).contains (sampleUuid n).toStr = false) :
    sampleStopSystem.Serves (sampleStopState used records)
      (sampleRequesting n (lastHash (stopsOf "tenant" records)))
      (sampleStopState (used ++ [n]) (records ++ [sampleStop n ("after " ++
        (lastHash (stopsOf "tenant" records)).getD zeroHash)])) :=
  (sampleReading_serves used records n hfresh).append (sampleStopping_serves ..)

/-- Chains at a concrete run: two requests, one after the other. -/
theorem stops_are_chained_sample : ∃ cfg, sampleStopSystem.Reachable (sampleStopState [] []) cfg ∧
    (∃ first second, stopsOf "tenant" cfg.shared.safeStopRecords = [first, second]) ∧
    Chained sampleStopCodec zeroHash (stopsOf "tenant" cfg.shared.safeStopRecords) := by
  have hjoined : sampleStopSystem.Reachable (sampleStopState [] [])
      ⟨sampleStopState [] [], [sampleRequest 1, sampleRequest 2], []⟩ :=
    .tail (.tail .refl (.start _ (.requestSafeStop ..))) (.start _ (.requestSafeStop ..))
  obtain ⟨events₁, hown₁, hentries₁, hfirst⟩ :=
    hjoined.run 0 rfl (sampleRequesting_resumes (n := 1) (by decide) _)
    (sampleRequesting_serves [] [] 1 (by decide))
  have hfresh : (sampleUsed ([] ++ [1])).contains (sampleUuid 2).toStr = false := by decide
  obtain ⟨events₂, hown₂, hentries₂, hsecond⟩ :=
    hfirst.run 1 rfl (sampleRequesting_resumes (n := 2) (by decide) _)
    (sampleRequesting_serves _ _ 2 hfresh)
  have hundisturbed : Undisturbed ([] ++ events₁) :=
    Undisturbed.alone (by simp [Undisturbed]) (by simp) hown₁ (sampleRequest_last hentries₁)
  have hforeign : ∀ event ∈ [] ++ events₁, event.thread ≠ 1 := by
    intro event hevent
    simp [hown₁ event hevent]
  refine ⟨_, hsecond, ⟨_, _, rfl⟩, stops_are_chained rfl hsecond ?_ "tenant"⟩
  exact hundisturbed.alone hforeign hown₂ (sampleRequest_last hentries₂)

end AgentSphere.Industrial
