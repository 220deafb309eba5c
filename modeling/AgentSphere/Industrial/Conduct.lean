import AgentSphere.Industrial.Gateway

/-!
# The conduct of operations

Which calls the operations of a gateway make, after any answers. An action is journaled and kept
only after it has been compared with its authorization, with the channel that was found and with
all limits; a write is made only for an action that was loaded in time, by the commit that has used
up its authorization.
-/

namespace AgentSphere.Industrial

open Concurrency Attempt IndustrialGateway

section Conduct

variable {Bytes VerifyingKey : Type}

/-- What binds an authorization, a channel and an action that was prepared. `Known` are the keys
that the verifier holds for an identifier and an issuer. -/
structure Granted (codec : IndustrialCodec Bytes VerifyingKey) (gateway : IndustrialGateway)
    (Known : String → String → VerifyingKey → Prop) (auth : EdgeAuthorization)
    (channel : AssetChannel) (action : PreparedIndustrialAction) : Prop where
  signed : ∃ key now, Known auth.keyId auth.issuer key ∧
    auth.verify codec (some (auth.issuer, key)) now = .ok ()
  write : auth.purpose = "WRITE"
  named : action.tenantId = auth.tenantId ∧ action.resourceKey = auth.resourceKey ∧
    action.authorizationId = auth.authorizationId ∧ action.expiresAt = auth.expiresAt
  bound : writeArgumentsDigest codec auth.resourceKey action.before.resourceVersion
    action.targetValue channel.engineeringUnit = .ok auth.argumentsDigest
  admissible : Admissible gateway.localPolicy auth channel.engineeringUnit channel
  values : ∃ current target, codec.asF64 action.before.value = some current ∧
    codec.asF64 action.targetValue = some target ∧
    WithinLimits gateway.localPolicy channel current target

def KeyFound (entries : List (GatewayEntry VerifyingKey)) (keyId issuer : String)
    (key : VerifyingKey) : Prop :=
  ⟨.verifierKey keyId, some (issuer, key)⟩ ∈ entries

def Vouched (codec : IndustrialCodec Bytes VerifyingKey) (gateway : IndustrialGateway)
    (entries : List (GatewayEntry VerifyingKey)) (auth : EdgeAuthorization)
    (channel : AssetChannel) (action : PreparedIndustrialAction) : Prop :=
  Granted codec gateway (KeyFound entries) auth channel action ∧
    ⟨.resolve (.prepare auth channel.engineeringUnit) auth.tenantId auth.resourceKey,
      .ok channel⟩ ∈ entries

def Loaded (entries : List (GatewayEntry VerifyingKey)) (action : PreparedIndustrialAction) :
    Prop :=
  (∃ preparationId, ⟨.findPrepared preparationId, some action⟩ ∈ entries) ∨
    ∃ tenantId preparationId, ⟨.loadPrepared tenantId preparationId, .ok (some action)⟩ ∈ entries

structure Dispatched (entries : List (GatewayEntry VerifyingKey)) (channel : AssetChannel)
    (action : PreparedIndustrialAction) : Prop where
  loaded : Loaded entries action
  claimed : ⟨.markUsed action.authorizationId, true⟩ ∈ entries
  inTime : ∃ now, ⟨.utcNow, now⟩ ∈ entries ∧ now < action.expiresAt
  resolved : ∃ use, ⟨.resolve use action.tenantId action.resourceKey, .ok channel⟩ ∈ entries

def grantOf : GatewayCall VerifyingKey → Option String
  | .compareAndSet _ action => some action.authorizationId
  | .safeStop _ record => some record.authorizationId
  | _ => none

def Quiet (entries : List (GatewayEntry VerifyingKey)) : Prop :=
  ∀ entry ∈ entries, grantOf entry.1 = none

def MayCall (codec : IndustrialCodec Bytes VerifyingKey) (gateway : IndustrialGateway)
    (entries : List (GatewayEntry VerifyingKey)) : GatewayCall VerifyingKey → Prop
  | .recordPrepared action | .insertPrepared action =>
    ∃ auth channel, Vouched codec gateway entries auth channel action
  | .writeCentral next => gateway.localPolicy.NotLooser next
  | .compareAndSet channel action => Dispatched entries channel action ∧ Quiet entries
  | .safeStop _ record => ⟨.markUsed record.authorizationId, true⟩ ∈ entries ∧ Quiet entries
  | _ => True

def conduct (codec : IndustrialCodec Bytes VerifyingKey) (gateway : IndustrialGateway) :
    Monitor (GatewayCall VerifyingKey) GatewayCall.Answer (List (GatewayEntry VerifyingKey)) :=
  recording (MayCall codec gateway) fun _ _ => True

def Harmless : GatewayCall VerifyingKey → Prop
  | .recordPrepared _ | .insertPrepared _ | .writeCentral _ | .compareAndSet .. | .safeStop .. =>
    False
  | _ => True

variable {codec : IndustrialCodec Bytes VerifyingKey} {gateway : IndustrialGateway}
  {entries entries' : List (GatewayEntry VerifyingKey)} {call : GatewayCall VerifyingKey}
  {auth : EdgeAuthorization} {channel : AssetChannel} {action : PreparedIndustrialAction}

theorem Harmless.mayCall (h : Harmless call) : MayCall codec gateway entries call := by
  cases call with
  | recordPrepared | insertPrepared | writeCentral | compareAndSet | safeStop => exact h.elim
  | _ => exact trivial

theorem Harmless.grantOf_eq_none (h : Harmless call) : grantOf call = none := by
  cases call with
  | compareAndSet | safeStop => exact h.elim
  | _ => rfl

@[simp] theorem mem_conduct_next {entry : GatewayEntry VerifyingKey} {answer : call.Answer} :
    entry ∈ (conduct codec gateway).next entries call answer ↔
      entry ∈ entries ∨ entry = ⟨call, answer⟩ := by
  simp [conduct, recording]

theorem Quiet.append (h : Quiet entries) (h' : Quiet entries') : Quiet (entries ++ entries') := by
  intro entry hentry
  obtain hold | hnew := List.mem_append.mp hentry
  · exact h entry hold
  · exact h' entry hnew

theorem Quiet.next (h : Quiet entries) {answer : call.Answer} (hcall : grantOf call = none) :
    Quiet ((conduct codec gateway).next entries call answer) := by
  intro entry hentry
  obtain hold | rfl := mem_conduct_next.mp hentry
  · exact h entry hold
  · exact hcall

theorem Granted.mono {Known Known' : String → String → VerifyingKey → Prop}
    (h : Granted codec gateway Known auth channel action)
    (hknown : ∀ keyId issuer key, Known keyId issuer key → Known' keyId issuer key) :
    Granted codec gateway Known' auth channel action := by
  obtain ⟨key, now, hkey, hverify⟩ := h.signed
  exact { h with signed := ⟨key, now, hknown _ _ key hkey, hverify⟩ }

section Calls

def Checking : GatewayCall VerifyingKey → Prop
  | .utcNow | .newUuid | .verifierKey _ | .consumeOnce _ | .markUsed _ | .readCentral
  | .readConnected | .clockHealth | .resolve .. | .adapterRead _ | .findPrepared _
  | .loadPrepared .. => True
  | _ => False

def Preparing : GatewayCall VerifyingKey → Prop
  | .recordPrepared _ | .insertPrepared _ => True
  | call => Checking call

def Settling : GatewayCall VerifyingKey → Prop
  | .utcNow | .observeAfterWrite .. | .recordNoop .. | .recordUnknown .. | .recordCommit _ => True
  | _ => False

def Completing : GatewayCall VerifyingKey → Prop
  | .recordSafeStopCompleted _ | .recordSafeStopUnknown .. | .pushSafeStop _ => True
  | _ => False

theorem only_validateClock (now : DateTime) :
    Only Checking (gateway.validateClock codec now : Gatewaying VerifyingKey String) := by
  unfold validateClock
  split
  · exact only_bind (only_port trivial id) fun health => only_bind only_ensure fun _ => trivial
  · exact trivial

theorem only_verify (auth : EdgeAuthorization) (now : DateTime) :
    Only Checking (verify codec auth now : Gatewaying VerifyingKey Unit) :=
  only_bind (only_ask trivial) fun _ => trivial

theorem only_verifyAndConsume (auth : EdgeAuthorization) (now : DateTime) :
    Only Checking (gateway.verifyAndConsume codec auth now : Gatewaying VerifyingKey Unit) := by
  have hclaim : Only Checking (do
      let unused ← ask (.markUsed auth.authorizationId)
      ensure (unused = true) .authorizationReplayed : Gatewaying VerifyingKey Unit) :=
    only_bind (only_ask trivial) fun _ => only_ensure
  unfold verifyAndConsume
  refine only_bind (only_verify auth now) fun _ => ?_
  split
  · exact only_bind (only_port trivial id) fun fresh => only_bind only_ensure fun _ => hclaim
  · exact hclaim

theorem only_findAction (auth : EdgeAuthorization) (preparationId : String) :
    Only Checking (gateway.findAction auth preparationId :
      Gatewaying VerifyingKey PreparedIndustrialAction) := by
  refine only_bind (only_ask trivial) fun found => ?_
  unfold foundOrLoaded
  split
  · exact trivial
  · split
    · exact only_bind (only_port trivial id) fun _ => trivial
    · exact trivial

theorem only_keepPrepared (action : PreparedIndustrialAction) :
    Only Preparing (gateway.keepPrepared action :
      Gatewaying VerifyingKey PreparedIndustrialAction) := by
  have hinsert : ∀ journalDigest, Only Preparing (do
      let _ ← ask (.insertPrepared { action with journalDigest := journalDigest })
      pure { action with journalDigest := journalDigest } :
        Gatewaying VerifyingKey PreparedIndustrialAction) :=
    fun _ => only_bind (only_ask trivial) fun _ => trivial
  unfold keepPrepared
  split
  · exact only_bind (only_port trivial journaled) hinsert
  · exact only_bind trivial hinsert

theorem Checking.preparing (h : Checking call) : Preparing call := by
  cases call with
  | recordPrepared | insertPrepared => exact trivial
  | _ => exact h

theorem only_prepareWrite (auth : EdgeAuthorization) (targetValue : Value)
    (engineeringUnit : String) :
    Only Preparing (gateway.prepareWrite codec auth targetValue engineeringUnit) := by
  unfold prepareWrite
  refine only_bind (only_ask trivial) fun now => ?_
  refine only_bind (only_mono (only_verify auth now) fun _ => Checking.preparing) fun _ => ?_
  refine only_bind (only_ask trivial) fun envelope => ?_
  refine only_bind trivial fun _ => ?_
  refine only_bind (only_mono (only_validateClock now) fun _ => Checking.preparing) fun _ => ?_
  refine only_bind (only_ask trivial) fun central => ?_
  refine only_bind (only_ask trivial) fun connected => ?_
  refine only_bind only_ensure fun _ => ?_
  refine only_bind trivial fun digest => ?_
  refine only_bind only_ensure fun _ => ?_
  refine only_bind (only_port trivial id) fun channel => ?_
  refine only_bind only_ensure fun _ => ?_
  refine only_bind (only_port trivial id) fun before => ?_
  refine only_bind (only_ask trivial) fun readAt => ?_
  refine only_bind trivial fun _ => ?_
  refine only_bind only_ensure fun _ => ?_
  refine only_bind only_ensure fun _ => ?_
  refine only_bind trivial fun current => ?_
  refine only_bind trivial fun target => ?_
  refine only_bind only_ensure fun _ => ?_
  exact only_bind (only_ask trivial) fun _ => only_keepPrepared _

theorem only_settle (action : PreparedIndustrialAction) (channel : AssetChannel)
    (dispatchJournalDigest : String) (answer : Except IndustrialError TelemetrySample) :
    Only Settling (gateway.settle codec action channel dispatchJournalDigest answer :
      Gatewaying VerifyingKey IndustrialCommitReceipt) := by
  have hunknown : ∀ stableError, Only Settling (gateway.outcomeUnknown action stableError :
      Gatewaying VerifyingKey IndustrialCommitReceipt) := by
    intro stableError
    unfold outcomeUnknown
    split
    · exact only_bind (only_port trivial id) fun _ => trivial
    · exact trivial
  have hconfirm : ∀ after samples, Only Settling
      (gateway.confirm codec action channel dispatchJournalDigest after samples :
        Gatewaying VerifyingKey IndustrialCommitReceipt) := by
    intro after samples
    refine only_bind trivial fun target => only_bind (only_ask trivial) fun now => ?_
    split
    · exact hunknown _
    · split
      · refine only_bind (only_ask trivial) fun committedAt => ?_
        split
        · exact only_bind (only_port trivial journaled) fun _ => trivial
        · exact trivial
      · exact hunknown _
  unfold settle
  split
  · refine only_bind (only_ask trivial) fun now => ?_
    split
    · exact hunknown _
    · split
      · refine only_bind (only_ask trivial) fun observed => ?_
        unfold confirmObserved
        split
        · exact hconfirm _ _
        · exact hunknown _
      · exact hconfirm _ []
  · split
    · exact only_bind (only_port trivial id) fun _ => trivial
    · exact trivial
  · exact hunknown _

theorem only_settleStop (record : SafeStopRecord) (stopped : Except IndustrialError Unit) :
    Only Completing (gateway.settleStop record stopped :
      Gatewaying VerifyingKey SafeStopRecord) := by
  have hcomplete : ∀ completed, Only Completing
      (completeStop record completed : Gatewaying VerifyingKey SafeStopRecord) := by
    intro completed
    unfold completeStop
    split
    · exact only_bind (only_ask trivial) fun _ => trivial
    · exact only_bind (only_port trivial id) fun _ => trivial
  unfold settleStop
  split
  · split
    · exact only_bind (only_ask trivial) fun answer => hcomplete _
    · exact hcomplete _
  · split
    · exact only_bind (only_port trivial id) fun _ => trivial
    · exact trivial

end Calls

theorem Checking.harmless (h : Checking call) : Harmless call := by
  cases call with
  | recordPrepared | insertPrepared | writeCentral | compareAndSet | safeStop => exact h.elim
  | _ => exact trivial

theorem Settling.harmless (h : Settling call) : Harmless call := by
  cases call with
  | recordPrepared | insertPrepared | writeCentral | compareAndSet | safeStop => exact h.elim
  | _ => exact trivial

theorem Completing.harmless (h : Completing call) : Harmless call := by
  cases call with
  | recordPrepared | insertPrepared | writeCentral | compareAndSet | safeStop => exact h.elim
  | _ => exact trivial

section Parts

variable {α β : Type} {x : Gatewaying VerifyingKey α} {f : α → Gatewaying VerifyingKey β}
  {Post : Except IndustrialError β → List (GatewayEntry VerifyingKey) → Prop}

theorem conduct_harmless_bind (herror : ∀ e entries, Post (.error e) entries)
    (hx : Only Harmless x) (hquiet : Quiet entries)
    (hrest : ∀ a entries', entries ⊆ entries' → Quiet entries' →
      (conduct codec gateway).Ensures Post (f a).run entries') :
    (conduct codec gateway).Ensures Post (x >>= f).run entries := by
  refine Monitor.ensures_attempt_bind.mpr ((hx.recorded
    (fun _ _ => Harmless.mayCall) entries).mono fun result entries' hmore => ?_)
  obtain ⟨-, more, rfl, hcalls⟩ := hmore
  cases result with
  | error e => exact herror e _
  | ok a =>
    refine hrest a _ (List.subset_append_left _ _) (hquiet.append fun entry hentry => ?_)
    exact (hcalls entry hentry).grantOf_eq_none

theorem conduct_verify_bind {now : DateTime} {f : Unit → Gatewaying VerifyingKey β}
    (herror : ∀ e entries, Post (.error e) entries) (hquiet : Quiet entries)
    (hrest : ∀ key entries', entries ⊆ entries' → Quiet entries' →
      KeyFound entries' auth.keyId auth.issuer key →
      auth.verify codec (some (auth.issuer, key)) now = .ok () →
        (conduct codec gateway).Ensures Post (f ()).run entries') :
    (conduct codec gateway).Ensures Post (verify codec auth now >>= f).run entries := by
  refine Monitor.ensures_attempt_bind.mpr ?_
  refine Monitor.ask_bind trivial fun found => ?_
  rw [Monitor.ensures_ofExcept]
  cases hverify : auth.verify codec found now with
  | error e => exact herror e _
  | ok _ =>
    cases found with
    | none => cases hverify
    | some holder =>
      obtain ⟨issuer, key⟩ := holder
      obtain ⟨_, hchecks, -⟩ := except_bind_eq_ok.mp hverify
      obtain rfl : issuer = auth.issuer := (require_eq_ok.mp hchecks).1
      refine hrest key _ ?_ (hquiet.next rfl) ?_ hverify
      · exact fun entry hentry => mem_conduct_next.mpr (.inl hentry)
      · exact mem_conduct_next.mpr (.inr rfl)

theorem conduct_verifyAndConsume_bind {now : DateTime} {f : Unit → Gatewaying VerifyingKey β}
    (herror : ∀ e entries, Post (.error e) entries) (hquiet : Quiet entries)
    (hrest : ∀ entries', entries ⊆ entries' → Quiet entries' →
      ⟨.markUsed auth.authorizationId, true⟩ ∈ entries' →
        (conduct codec gateway).Ensures Post (f ()).run entries') :
    (conduct codec gateway).Ensures Post
      (gateway.verifyAndConsume codec auth now >>= f).run entries := by
  have hclaim : ∀ entries', entries ⊆ entries' → Quiet entries' →
      (conduct codec gateway).Ensures ((conduct codec gateway).andThen Post f)
        (do
          let unused ← ask (.markUsed auth.authorizationId)
          ensure (unused = true) .authorizationReplayed : Gatewaying VerifyingKey Unit).run
        entries' := by
    intro entries' hsubset hquiet'
    refine Monitor.ask_bind trivial fun unused => ?_
    rw [Monitor.ensures_ensure]
    refine ⟨?_, fun _ => herror _ _⟩
    rintro rfl
    refine hrest _ ?_ (hquiet'.next rfl) (mem_conduct_next.mpr (.inr rfl))
    exact fun entry hentry => mem_conduct_next.mpr (.inl (hsubset hentry))
  refine Monitor.ensures_attempt_bind.mpr ?_
  unfold verifyAndConsume
  refine conduct_verify_bind herror hquiet fun _ entries' hsubset hquiet' _ _ => ?_
  split
  · refine conduct_harmless_bind herror (only_port trivial id) hquiet'
      fun fresh entries'' hsubset' hquiet'' => ?_
    refine Monitor.ensure_bind (fun _ => ?_) fun _ => herror _ _
    exact hclaim entries'' (List.Subset.trans hsubset hsubset') hquiet''
  · exact hclaim entries' hsubset hquiet'

theorem conduct_findAction_bind {preparationId : String}
    {f : PreparedIndustrialAction → Gatewaying VerifyingKey β}
    (herror : ∀ e entries, Post (.error e) entries) (hquiet : Quiet entries)
    (hrest : ∀ action entries', entries ⊆ entries' → Quiet entries' → Loaded entries' action →
      (conduct codec gateway).Ensures Post (f action).run entries') :
    (conduct codec gateway).Ensures Post
      (gateway.findAction auth preparationId >>= f).run entries := by
  refine Monitor.ensures_attempt_bind.mpr ?_
  unfold findAction
  refine Monitor.ask_bind trivial fun found => ?_
  have hmore : entries ⊆ (conduct codec gateway).next entries
      (.findPrepared preparationId) found :=
    fun entry hentry => mem_conduct_next.mpr (.inl hentry)
  cases found with
  | some action =>
    exact hrest action _ hmore (hquiet.next rfl)
      (.inl ⟨preparationId, mem_conduct_next.mpr (.inr rfl)⟩)
  | none =>
    simp only [foundOrLoaded]
    split
    · refine Monitor.port_bind trivial (fun answer loaded hloaded => ?_)
        fun _ e _ => herror e _
      obtain rfl : answer = .ok loaded := hloaded
      cases loaded with
      | none => exact herror _ _
      | some action =>
        refine hrest action _ ?_ ((hquiet.next rfl).next rfl)
          (.inr ⟨_, preparationId, mem_conduct_next.mpr (.inr rfl)⟩)
        exact List.Subset.trans hmore fun entry hentry => mem_conduct_next.mpr (.inl hentry)
    · exact herror _ _

end Parts

-- Operations

theorem Vouched.mono (h : Vouched codec gateway entries auth channel action)
    (hsubset : entries ⊆ entries') : Vouched codec gateway entries' auth channel action :=
  ⟨h.1.mono fun _ _ _ hkey => hsubset hkey, hsubset h.2⟩

theorem Granted.withDigest {Known : String → String → VerifyingKey → Prop}
    (h : Granted codec gateway Known auth channel action) (journalDigest : String) :
    Granted codec gateway Known auth channel { action with journalDigest := journalDigest } :=
  ⟨h.signed, h.write, h.named, h.bound, h.admissible, h.values⟩

theorem conduct_keepPrepared (auth : EdgeAuthorization) (channel : AssetChannel)
    (h : Vouched codec gateway entries auth channel action) :
    (conduct codec gateway).Ensures (fun _ _ => True)
      (gateway.keepPrepared action).run entries := by
  have hinsert : ∀ entries', entries ⊆ entries' → ∀ journalDigest,
      MayCall codec gateway entries'
        (.insertPrepared { action with journalDigest := journalDigest }) := by
    intro entries' hsubset journalDigest
    obtain ⟨hgranted, hresolved⟩ := h.mono hsubset
    exact ⟨auth, channel, hgranted.withDigest journalDigest, hresolved⟩
  unfold keepPrepared
  split
  · refine Monitor.port_bind ⟨auth, channel, h⟩ (fun _ journalDigest _ => ?_) fun _ _ _ => trivial
    refine Monitor.ask_bind (hinsert _ ?_ journalDigest) fun _ => trivial
    exact fun entry hentry => mem_conduct_next.mpr (.inl hentry)
  · exact Monitor.ask_bind (hinsert _ (List.Subset.refl _) "") fun _ => trivial

theorem conduct_prepareWrite (auth : EdgeAuthorization) (targetValue : Value)
    (engineeringUnit : String) :
    (conduct codec gateway).Ensures (fun _ _ => True)
      (gateway.prepareWrite codec auth targetValue engineeringUnit).run [] := by
  have herror : ∀ (e : IndustrialError) (entries : List (GatewayEntry VerifyingKey)), True :=
    fun _ _ => trivial
  unfold prepareWrite
  refine Monitor.ask_bind trivial fun now => ?_
  refine conduct_verify_bind herror (Quiet.next (by simp [Quiet]) rfl)
    fun key entries₁ _ hquiet₁ hkey hverify => ?_
  refine Monitor.ask_bind trivial fun envelope => ?_
  refine Monitor.ofExcept_bind (fun _ _ => ?_) fun _ _ => trivial
  refine conduct_harmless_bind herror
    (only_mono (only_validateClock now) fun _ => Checking.harmless) (hquiet₁.next rfl)
    fun clockHealthDigest entries₂ hsubset hquiet₂ => ?_
  have hkey₂ : ⟨.verifierKey auth.keyId, some (auth.issuer, key)⟩ ∈ entries₂ :=
    hsubset (mem_conduct_next.mpr (.inl hkey))
  refine Monitor.ask_bind trivial fun central => ?_
  refine Monitor.ask_bind trivial fun connected => ?_
  refine Monitor.ensure_bind (fun hwrite => ?_) fun _ => trivial
  refine Monitor.ofExcept_bind (fun digest hdigest => ?_) fun _ _ => trivial
  refine Monitor.ensure_bind (fun hauth => ?_) fun _ => trivial
  refine Monitor.port_bind trivial (fun answer channel hchannel => ?_) fun _ _ _ => trivial
  obtain rfl : answer = .ok channel := hchannel
  refine Monitor.ensure_bind (fun hadmissible => ?_) fun _ => trivial
  obtain rfl : engineeringUnit = channel.engineeringUnit := hadmissible.2.2.1
  refine Monitor.port_bind trivial (fun _ before _ => ?_) fun _ _ _ => trivial
  refine Monitor.ask_bind trivial fun readAt => ?_
  refine Monitor.ofExcept_bind (fun _ _ => ?_) fun _ _ => trivial
  refine Monitor.ensure_bind (fun _ => ?_) fun _ => trivial
  refine Monitor.ensure_bind (fun hversion => ?_) fun _ => trivial
  refine Monitor.computed_bind (fun current hcurrent => ?_) trivial
  refine Monitor.computed_bind (fun target htarget => ?_) trivial
  refine Monitor.ensure_bind (fun hlimits => ?_) fun _ => trivial
  refine Monitor.ask_bind trivial fun preparationId => ?_
  refine conduct_keepPrepared auth channel ⟨?_, ?_⟩
  · exact {
      signed := ⟨key, now, by simp only [KeyFound, mem_conduct_next, hkey₂, true_or], hverify⟩
      write := hwrite.2.2
      named := ⟨rfl, rfl, rfl, rfl⟩
      bound := by
        rw [hauth.1, ← hdigest, ← hversion]
        rfl
      admissible := hadmissible
      values := ⟨current, target, hcurrent, htarget, hlimits⟩ }
  · simp only [mem_conduct_next, true_or, or_true]

theorem conduct_commit (auth : EdgeAuthorization) (preparationId : String) :
    (conduct codec gateway).Ensures (fun _ _ => True)
      (gateway.commit codec auth preparationId).run [] := by
  have herror : ∀ (e : IndustrialError) (entries : List (GatewayEntry VerifyingKey)), True :=
    fun _ _ => trivial
  have hempty : Quiet ([] : List (GatewayEntry VerifyingKey)) := by simp [Quiet]
  unfold commit
  refine Monitor.ask_bind trivial fun connected => ?_
  refine Monitor.ensure_bind (fun _ => ?_) fun _ => trivial
  refine Monitor.ask_bind trivial fun envelope => ?_
  refine Monitor.ask_bind trivial fun policyAt => ?_
  refine Monitor.ofExcept_bind (fun _ _ => ?_) fun _ _ => trivial
  refine Monitor.ask_bind trivial fun clockAt => ?_
  refine conduct_harmless_bind herror
    (only_mono (only_validateClock clockAt) fun _ => Checking.harmless)
    ((((hempty.next rfl).next rfl).next rfl).next rfl) fun _ entries₁ _ hquiet₁ => ?_
  refine conduct_findAction_bind herror hquiet₁ fun action entries₂ _ hquiet₂ hloaded => ?_
  refine Monitor.ensure_bind (fun hnamed => ?_) fun _ => trivial
  refine Monitor.ask_bind trivial fun central => ?_
  refine Monitor.ensure_bind (fun _ => ?_) fun _ => trivial
  refine Monitor.ask_bind trivial fun expiryAt => ?_
  refine Monitor.ensure_bind (fun hexpiry => ?_) fun _ => trivial
  refine Monitor.ask_bind trivial fun now => ?_
  refine conduct_verifyAndConsume_bind herror (((hquiet₂.next rfl).next rfl).next rfl)
    fun entries₃ hsubset hquiet₃ hclaimed => ?_
  refine Monitor.port_bind trivial (fun answer channel hchannel => ?_) fun _ _ _ => trivial
  obtain rfl : answer = .ok channel := hchannel
  -- from here on nothing is checked, whether the dispatch is journaled or not
  have hwrite : ∀ entries', Quiet entries' →
      (conduct codec gateway).next entries₃
        (.resolve (.dispatch auth) auth.tenantId action.resourceKey) (.ok channel) ⊆ entries' →
      ∀ dispatchJournalDigest, (conduct codec gateway).Ensures (fun _ _ => True)
        (do
          let _ ← ask (.removePrepared preparationId)
          let answer ← ask (.compareAndSet channel action)
          gateway.settle codec action channel dispatchJournalDigest answer :
            Gatewaying VerifyingKey IndustrialCommitReceipt).run entries' := by
    intro entries' hquiet' hsubset' dispatchJournalDigest
    have hold : ∀ {entry : GatewayEntry VerifyingKey}, entry ∈ entries₃ →
        entry ∈ (conduct codec gateway).next entries' (.removePrepared preparationId) () :=
      fun hentry => mem_conduct_next.mpr (.inl (hsubset' (mem_conduct_next.mpr (.inl hentry))))
    have hold₂ : ∀ {entry : GatewayEntry VerifyingKey}, entry ∈ entries₂ → entry ∈ entries₃ :=
      fun hentry => hsubset (by simp only [mem_conduct_next, hentry, true_or])
    have hdispatched : Dispatched ((conduct codec gateway).next entries'
        (.removePrepared preparationId) ()) channel action := {
      loaded := by
        obtain ⟨id, hfound⟩ | ⟨tenantId, id, hfound⟩ := hloaded
        · exact .inl ⟨id, hold (hold₂ hfound)⟩
        · exact .inr ⟨tenantId, id, hold (hold₂ hfound)⟩
      claimed := by
        rw [hnamed.1]
        exact hold hclaimed
      inTime := ⟨expiryAt, hold (hsubset (by simp only [mem_conduct_next, true_or, or_true])),
        hexpiry⟩
      resolved := by
        rw [hnamed.2.2.1]
        exact ⟨.dispatch auth, mem_conduct_next.mpr (.inl (hsubset' (mem_conduct_next.mpr
          (.inr rfl))))⟩ }
    refine Monitor.ask_bind trivial fun _ => ?_
    refine Monitor.ask_bind ⟨hdispatched, hquiet'.next rfl⟩ fun answer => ?_
    exact ((only_settle action channel dispatchJournalDigest answer).recorded
      (fun _ _ h => h.harmless.mayCall) _).mono fun _ _ _ => trivial
  split
  · refine conduct_harmless_bind herror
      (only_port trivial journaled) (hquiet₃.next rfl)
      fun digest entries' hsubset' hquiet' => ?_
    exact hwrite entries' hquiet' hsubset' digest
  · exact hwrite _ (hquiet₃.next rfl) (List.Subset.refl _) ""

theorem conduct_requestSafeStop (auth : EdgeAuthorization) (requestedBy reasonCode : String) :
    (conduct codec gateway).Ensures (fun _ _ => True)
      (gateway.requestSafeStop codec auth requestedBy reasonCode).run [] := by
  have herror : ∀ (e : IndustrialError) (entries : List (GatewayEntry VerifyingKey)), True :=
    fun _ _ => trivial
  have hempty : Quiet ([] : List (GatewayEntry VerifyingKey)) := by simp [Quiet]
  unfold requestSafeStop
  refine Monitor.ensure_bind (fun _ => ?_) fun _ => trivial
  refine Monitor.ensure_bind (fun _ => ?_) fun _ => trivial
  refine Monitor.ofExcept_bind (fun digest _ => ?_) fun _ _ => trivial
  refine Monitor.ensure_bind (fun _ => ?_) fun _ => trivial
  refine Monitor.ask_bind trivial fun central => ?_
  refine Monitor.ensure_bind (fun _ => ?_) fun _ => trivial
  refine Monitor.ask_bind trivial fun now => ?_
  refine conduct_verifyAndConsume_bind herror ((hempty.next rfl).next rfl)
    fun entries₁ _ hquiet₁ hclaimed => ?_
  refine Monitor.port_bind trivial (fun _ channel _ => ?_) fun _ _ _ => trivial
  refine Monitor.ask_bind trivial fun prior => ?_
  refine Monitor.ask_bind trivial fun requestedAt => ?_
  refine Monitor.computed_bind (fun localJournalHash _ => ?_) trivial
  refine Monitor.ask_bind trivial fun recordId => ?_
  -- the stop itself, whether the intent is journaled or not
  have hstop : ∀ entries', Quiet entries' → entries₁ ⊆ entries' → ∀ record : SafeStopRecord,
      record.authorizationId = auth.authorizationId →
      (conduct codec gateway).Ensures (fun _ _ => True)
        (do
          let stopped ← ask (.safeStop channel record)
          gateway.settleStop record stopped : Gatewaying VerifyingKey SafeStopRecord).run
        entries' := by
    intro entries' hquiet' hsubset' record hrecord
    refine Monitor.ask_bind ⟨?_, hquiet'⟩ fun stopped => ?_
    · rw [hrecord]
      exact hsubset' hclaimed
    · exact ((only_settleStop record stopped).recorded
        (fun _ _ h => h.harmless.mayCall) _).mono fun _ _ _ => trivial
  split
  · refine conduct_harmless_bind herror (only_port trivial journaled)
      ((((hquiet₁.next rfl).next rfl).next rfl).next rfl) fun intent entries' hsubset' hquiet' => ?_
    refine hstop entries' hquiet' (fun entry hentry => hsubset' ?_) _ rfl
    simp only [mem_conduct_next, hentry, true_or]
  · refine hstop _ ((((hquiet₁.next rfl).next rfl).next rfl).next rfl)
      (fun entry hentry => ?_) _ rfl
    simp only [mem_conduct_next, hentry, true_or]

theorem conduct_updateCentralPolicy (next : CentralSafetyEnvelope) (now : DateTime) :
    (conduct codec gateway).Ensures (fun _ _ => True)
      (gateway.updateCentralPolicy codec next now).run [] := by
  unfold updateCentralPolicy
  refine Monitor.ofExcept_bind (fun _ hpolicy => ?_) fun _ _ => trivial
  refine Monitor.ask_bind trivial fun current => ?_
  refine Monitor.ofExcept_bind (fun _ _ => ?_) fun _ _ => trivial
  exact ⟨LocalSafetyPolicy.NotLooser.of_verify hpolicy, fun _ _ => trivial⟩

/-- **Conduct**: after any answers, an operation makes only calls it may make. -/
theorem Operator.mayCall {p : Program (GatewayCall VerifyingKey) GatewayCall.Answer ThreadResult}
    (h : Operator codec gateway p)
    {resume : call.Answer → Program (GatewayCall VerifyingKey) GatewayCall.Answer ThreadResult}
    (hresumes : Resumes p entries (.perform call resume)) :
    MayCall codec gateway entries call := by
  have hconduct : (conduct codec gateway).Ensures (fun _ _ => True) p [] := by
    have hharmless : ∀ {α : Type} {p : Program (GatewayCall VerifyingKey) GatewayCall.Answer α},
        (only Harmless).Ensures (fun _ _ => True) p ⟨⟩ →
          (conduct codec gateway).Ensures (fun _ _ => True) p [] :=
      fun h => (h.recorded (fun _ _ => Harmless.mayCall) []).mono fun _ _ _ => trivial
    cases h with
    | prepareWrite auth targetValue engineeringUnit =>
      exact Monitor.ensures_bind.mpr (conduct_prepareWrite auth targetValue engineeringUnit)
    | commit auth preparationId =>
      exact Monitor.ensures_bind.mpr (conduct_commit auth preparationId)
    | requestSafeStop auth requestedBy reasonCode =>
      exact Monitor.ensures_bind.mpr (conduct_requestSafeStop auth requestedBy reasonCode)
    | updateCentralPolicy next now =>
      exact Monitor.ensures_bind.mpr (conduct_updateCentralPolicy next now)
    | setConnected connected => exact Monitor.ensures_bind.mpr ⟨trivial, fun _ _ => trivial⟩
    | register channel =>
      refine Monitor.ensures_bind.mpr (hharmless ?_)
      refine Monitor.ofExcept_bind (fun _ _ => ?_) fun _ _ => trivial
      refine Monitor.ask_bind trivial fun known => ?_
      exact Monitor.ensure_bind (fun _ => ⟨trivial, fun _ _ => trivial⟩) fun _ => trivial
    | read tenantId resourceKey =>
      refine Monitor.ensures_bind.mpr (hharmless ?_)
      refine Monitor.port_bind trivial (fun _ channel _ => ?_) fun _ _ _ => trivial
      exact only_port trivial id
    | addKey keyId issuer key => exact Monitor.ensures_bind.mpr ⟨trivial, fun _ _ => trivial⟩
  have hrest := hconduct.resumes hresumes fun _ _ => trivial
  rw [List.nil_append] at hrest
  exact hrest.1

end Conduct

end AgentSphere.Industrial
