import AgentSphere.Identity.Revocation
import AgentSphere.Lib.Claims
import AgentSphere.Lib.Ports

/-!
# Task credentials

`CredentialService` issues credentials that can be used a number of times and counts their uses.
The records stand under one lock and the revocations under another. Issuing takes the locks one
after the other: for the frozen tasks, for the epoch and for the new record. Using a credential
holds the lock of the records throughout, so that it is one call, which happens when it looks at
the revocations.

A drawn identifier has never been drawn before.
-/

namespace AgentSphere.Identity

open Concurrency Attempt

structure CredentialRequest where
  schemaVersion : SchemaVersion
  tenantId : TenantId
  agentInstanceId : AgentInstanceId
  taskId : TaskId
  stepId : StepId
  actionHash : ActionHash
  audience : String
  resources : Finset String
  operations : Finset String
  toolId : String
  ttlSeconds : Nat
  maxUses : Nat

structure CredentialClaims where
  schemaVersion : SchemaVersion
  credentialId : String
  tenantId : TenantId
  agentInstanceId : AgentInstanceId
  taskId : TaskId
  stepId : StepId
  actionHash : ActionHash
  audience : String
  resources : Finset String
  operations : Finset String
  toolId : String
  revocationEpoch : Nat
  issuedAt : DateTime
  expiresAt : DateTime
  maxUses : Nat
  deriving DecidableEq

structure CredentialRecord where
  claims : CredentialClaims
  remainingUses : Nat
  deriving DecidableEq

structure CredentialStore where
  records : BTreeMap String CredentialRecord
  revocation : RevocationState
  drawn : Finset String

def CredentialStore.initial : CredentialStore := ⟨∅, .empty, ∅⟩

structure CredentialUse where
  handle : String
  audience : String
  actionHash : ActionHash
  resource : String
  operation : String
  now : DateTime

def CredentialUse.InScope (use : CredentialUse) (claims : CredentialClaims) : Prop :=
  claims.audience = use.audience ∧ claims.actionHash = use.actionHash ∧
    use.resource ∈ claims.resources ∧ use.operation ∈ claims.operations

instance (use : CredentialUse) (claims : CredentialClaims) : Decidable (use.InScope claims) :=
  inferInstanceAs (Decidable (_ ∧ _ ∧ _ ∧ _))

namespace CredentialStore

/-- The checks of `validate_and_consume`, in their order. -/
def checkUse (store : CredentialStore) (use : CredentialUse) (record : CredentialRecord) :
    Except IdentityError Unit := do
  store.revocation.check none (some use.handle) record.claims.tenantId record.claims.taskId
    record.claims.agentInstanceId record.claims.revocationEpoch
  require (record.claims.issuedAt ≤ use.now ∧ use.now < record.claims.expiresAt)
    .expiredOrNotYetValid
  require (use.InScope record.claims) .credentialScopeInvalid
  require (record.remainingUses ≠ 0) .usageExceeded

def validateAndConsume (store : CredentialStore) (use : CredentialUse) :
    Except IdentityError CredentialClaims × CredentialStore :=
  match store.records[use.handle]? with
  | none => (.error .credentialNotFound, store)
  | some record =>
    match store.checkUse use record with
    | .error e => (.error e, store)
    | .ok _ =>
      (.ok record.claims, { store with
        records := store.records.insert use.handle
          { record with remainingUses := record.remainingUses - 1 } })

/-- The end of `issue`. -/
def insertRecord (store : CredentialStore) (claims : CredentialClaims) : CredentialStore :=
  { store with records := store.records.insert claims.credentialId ⟨claims, claims.maxUses⟩ }

end CredentialStore

-- Operations

inductive CredentialCall where
  | isFrozen (task : TaskId)
  | newUuid
  | currentEpoch (tenant : TenantId)
  | insertRecord (claims : CredentialClaims)
  | validateAndConsume (use : CredentialUse)
  | revoke (revocation : Revocation)
  | bumpTenantEpoch (tenant : TenantId)

abbrev CredentialCall.Answer : CredentialCall → Type
  | .isFrozen _ => Bool
  | .newUuid => String
  | .currentEpoch _ | .bumpTenantEpoch _ => Nat
  | .validateAndConsume _ => Except IdentityError CredentialClaims
  | .insertRecord _ | .revoke _ => Unit

abbrev Issuing := Attempt IdentityError CredentialCall CredentialCall.Answer

namespace CredentialService

/-- The claims that `issue` puts together. -/
def claimsOf (request : CredentialRequest) (credentialId : String) (epoch : Nat)
    (now expiresAt : DateTime) : CredentialClaims where
  schemaVersion := identitySchemaVersion
  credentialId := credentialId
  tenantId := request.tenantId
  agentInstanceId := request.agentInstanceId
  taskId := request.taskId
  stepId := request.stepId
  actionHash := request.actionHash
  audience := request.audience
  resources := request.resources
  operations := request.operations
  toolId := request.toolId
  revocationEpoch := epoch
  issuedAt := now
  expiresAt := expiresAt
  maxUses := request.maxUses

def issue (request : CredentialRequest) (now : DateTime) : Issuing String := do
  ensure (request.schemaVersion = identitySchemaVersion ∧ request.maxUses ≠ 0 ∧
    request.ttlSeconds ≠ 0 ∧ request.ttlSeconds ≤ 900 ∧ request.resources ≠ ∅ ∧
    request.operations ≠ ∅) .credentialScopeInvalid
  let frozen ← ask (.isFrozen request.taskId)
  ensure (frozen = false) .revoked
  let credentialId ← ask .newUuid
  let epoch ← ask (.currentEpoch request.tenantId)
  let expiresAt ← computed (now.add (request.ttlSeconds * 1000000000)) .panicked
  let _ ← ask (.insertRecord (claimsOf request credentialId epoch now expiresAt))
  pure credentialId

end CredentialService

inductive CredentialReply where
  | handle (credentialId : String)
  | claims (claims : CredentialClaims)
  | epoch (epoch : Nat)
  | revoked

def CredentialStore.serve (store : CredentialStore) :
    (call : CredentialCall) → call.Answer → CredentialStore → Prop
  | .isFrozen task, frozen, store' =>
    frozen = decide (task ∈ store.revocation.frozenTasks) ∧ store' = store
  | .newUuid, id, store' =>
    id ∉ store.drawn ∧ store' = { store with drawn := insert id store.drawn }
  | .currentEpoch tenant, epoch, store' =>
    epoch = store.revocation.currentEpoch tenant ∧ store' = store
  | .insertRecord claims, _, store' => store' = store.insertRecord claims
  | .validateAndConsume use, answer, store' =>
    answer = (store.validateAndConsume use).1 ∧ store' = (store.validateAndConsume use).2
  | .revoke revocation, _, store' =>
    store' = { store with revocation := store.revocation.revoke revocation }
  | .bumpTenantEpoch tenant, epoch, store' =>
    store.revocation.currentEpoch tenant + 1 < 2 ^ 64 ∧
      epoch = store.revocation.currentEpoch tenant + 1 ∧
      store' = { store with revocation := store.revocation.bumpTenantEpoch tenant }

abbrev CredentialEvent := Event CredentialStore CredentialCall CredentialCall.Answer

abbrev CredentialEntry := Entry CredentialCall CredentialCall.Answer

abbrev CredentialConfig :=
  Config CredentialStore CredentialCall CredentialCall.Answer (Except IdentityError CredentialReply)

inductive CredentialUser :
    Program CredentialCall CredentialCall.Answer (Except IdentityError CredentialReply) → Prop where
  | issue (request : CredentialRequest) (now : DateTime) :
      CredentialUser (do
        let credentialId ← CredentialService.issue request now
        pure (.handle credentialId) : Issuing CredentialReply).run
  | validateAndConsume (use : CredentialUse) :
      CredentialUser (do
        let claims ← port (.validateAndConsume use) id
        pure (.claims claims) : Issuing CredentialReply).run
  | revoke (revocation : Revocation) :
      CredentialUser (do
        let _ ← ask (.revoke revocation)
        pure .revoked : Issuing CredentialReply).run
  | bumpTenantEpoch (tenant : TenantId) :
      CredentialUser (do
        let epoch ← ask (.bumpTenantEpoch tenant)
        pure (.epoch epoch) : Issuing CredentialReply).run
  | currentEpoch (tenant : TenantId) :
      CredentialUser (do
        let epoch ← ask (.currentEpoch tenant)
        pure (.epoch epoch) : Issuing CredentialReply).run

def credentials : System CredentialStore CredentialCall CredentialCall.Answer
    (Except IdentityError CredentialReply) where
  Serve := CredentialStore.serve
  Internal _ _ := False
  Start := CredentialUser

section Uses

variable {store store' : CredentialStore} {use : CredentialUse} {record : CredentialRecord}

structure Admitted (store : CredentialStore) (use : CredentialUse) (record : CredentialRecord) :
    Prop where
  unrevoked : store.revocation.check none (some use.handle) record.claims.tenantId
    record.claims.taskId record.claims.agentInstanceId record.claims.revocationEpoch = .ok ()
  inTime : record.claims.issuedAt ≤ use.now ∧ use.now < record.claims.expiresAt
  inScope : use.InScope record.claims
  remaining : 0 < record.remainingUses

theorem admitted_of_checkUse (h : store.checkUse use record = .ok ()) :
    Admitted store use record := by
  obtain ⟨_, hunrevoked, h⟩ := except_bind_eq_ok.mp h
  obtain ⟨_, htime, h⟩ := except_bind_eq_ok.mp h
  obtain ⟨_, hscope, h⟩ := except_bind_eq_ok.mp h
  exact ⟨hunrevoked, require_eq_ok.mp htime, require_eq_ok.mp hscope,
    Nat.pos_of_ne_zero (require_eq_ok.mp h)⟩

theorem validateAndConsume_cases (store : CredentialStore) (use : CredentialUse) :
    (∃ e, store.validateAndConsume use = (.error e, store)) ∨
    ∃ record, store.records[use.handle]? = some record ∧ Admitted store use record ∧
      store.validateAndConsume use = (.ok record.claims, { store with
        records := store.records.insert use.handle
          { record with remainingUses := record.remainingUses - 1 } }) := by
  unfold CredentialStore.validateAndConsume
  cases hrecord : store.records[use.handle]? with
  | none => exact .inl ⟨_, rfl⟩
  | some record =>
    cases hcheck : store.checkUse use record with
    | error e => exact .inl ⟨e, by simp only [hcheck]⟩
    | ok _ => exact .inr ⟨record, rfl, admitted_of_checkUse hcheck, by simp only [hcheck]⟩

end Uses

section Issuing

def MayIssue (entries : List CredentialEntry) : CredentialCall → Prop
  | .insertRecord claims => ⟨.newUuid, claims.credentialId⟩ ∈ entries ∧
    ⟨.currentEpoch claims.tenantId, claims.revocationEpoch⟩ ∈ entries ∧
    ∀ entry ∈ entries, ∀ claims', entry.1 ≠ .insertRecord claims'
  | _ => True

def Idle : CredentialEntry → Prop
  | ⟨.insertRecord _, _⟩ | ⟨.revoke _, _⟩ | ⟨.bumpTenantEpoch _, _⟩
  | ⟨.validateAndConsume _, .ok _⟩ => False
  | _ => True

def IdleIfFailed (result : Except IdentityError CredentialReply) (entries : List CredentialEntry) :
    Prop :=
  ∀ e, result = .error e → ∀ entry ∈ entries, Idle entry

theorem idleIfFailed_ok {reply : CredentialReply} {entries : List CredentialEntry} :
    IdleIfFailed (.ok reply) entries := by
  intro e hfailed
  cases hfailed

/-- A record is inserted once, under a drawn identifier and with an epoch that was read, and as the
last call of its operation. -/
theorem CredentialUser.conduct
    {p : Program CredentialCall CredentialCall.Answer (Except IdentityError CredentialReply)}
    (h : CredentialUser p) :
    (recording MayIssue fun _ _ => True).Ensures IdleIfFailed p [] := by
  cases h with
  | issue request now =>
    refine Monitor.ensures_attempt_bind.mpr ?_
    unfold CredentialService.issue
    refine Monitor.ensure_bind (fun _ => ?_) fun _ => ?_
    · refine Monitor.ask_bind trivial fun frozen => ?_
      refine Monitor.ensure_bind (fun _ => ?_) fun _ => ?_
      · refine Monitor.ask_bind trivial fun credentialId => ?_
        refine Monitor.ask_bind trivial fun epoch => ?_
        refine Monitor.computed_bind (fun expiresAt _ => ?_) ?_
        · refine Monitor.ask_bind ⟨?_, ?_, ?_⟩ fun _ => idleIfFailed_ok
          · simp [recording, CredentialService.claimsOf]
          · simp [recording, CredentialService.claimsOf]
          · simp [recording]
        · simp [Monitor.andThen, IdleIfFailed, recording, Idle]
      · simp [Monitor.andThen, IdleIfFailed, recording, Idle]
    · simp [Monitor.andThen, IdleIfFailed]
  | validateAndConsume use =>
    refine Monitor.port_bind trivial (fun _ _ _ => idleIfFailed_ok) fun answer e hanswer => ?_
    obtain rfl : answer = .error e := hanswer
    simp [IdleIfFailed, recording, Idle]
  | revoke | bumpTenantEpoch | currentEpoch => exact Monitor.ask_bind trivial fun _ => idleIfFailed_ok

theorem CredentialUser.mayIssue
    {p : Program CredentialCall CredentialCall.Answer (Except IdentityError CredentialReply)}
    (h : CredentialUser p) :
    (recording MayIssue fun _ _ => True).Ensures (fun _ _ => True) p [] :=
  h.conduct.mono fun _ _ _ => trivial

def drew : CredentialEntry → Option String
  | ⟨.newUuid, id⟩ => some id
  | _ => none

theorem credentials_claims : Claims credentials drew fun store => store.drawn := by
  have hdrew : ∀ {call : CredentialCall} {answer : call.Answer} {id : String},
      drew ⟨call, answer⟩ = some id → (⟨call, answer⟩ : CredentialEntry) = ⟨.newUuid, id⟩ := by
    intro call answer id h
    cases call with
    | newUuid => rw [Option.some.inj h]
    | _ => cases h
  refine ⟨?_, ?_, ?_, by rintro _ _ _ ⟨⟩⟩
  · intro store call answer store' id hserve hwon
    cases hdrew hwon
    exact hserve.1
  · intro store call answer store' id hserve hwon
    cases hdrew hwon
    obtain ⟨-, rfl⟩ := hserve
    exact Finset.mem_insert_self _ _
  · intro store call answer store' id hserve hmem
    cases call with
    | newUuid =>
      obtain ⟨-, rfl⟩ := hserve
      exact Finset.mem_insert_of_mem hmem
    | isFrozen | currentEpoch =>
      obtain ⟨-, rfl⟩ := hserve
      exact hmem
    | insertRecord | revoke =>
      obtain rfl := hserve
      exact hmem
    | bumpTenantEpoch =>
      obtain ⟨-, -, rfl⟩ := hserve
      exact hmem
    | validateAndConsume use =>
      obtain ⟨-, rfl⟩ := hserve
      obtain ⟨e, hcase⟩ | ⟨record, -, -, hcase⟩ := validateAndConsume_cases store use
      · rw [hcase]
        exact hmem
      · rw [hcase]
        exact hmem

def Issued (claims : CredentialClaims) (trace : List CredentialEvent) : Prop :=
  ∃ event ∈ trace, event.call = .insertRecord claims

theorem fresh_of_insert {cfg : CredentialConfig} {i : Nat} {claims : CredentialClaims}
    (hreach : credentials.Reachable .initial cfg)
    (hmay : MayIssue (history i cfg.trace) (.insertRecord claims)) {other : CredentialClaims}
    (hissued : Issued other cfg.trace) : other.credentialId ≠ claims.credentialId := by
  intro hsame
  obtain ⟨hdrawn, -, hnone⟩ := hmay
  obtain ⟨event, hevent, hcall⟩ := hissued
  obtain ⟨before, after, htrace⟩ := List.append_of_mem hevent
  -- who has inserted the other record has drawn its identifier
  have hother : MayIssue (history event.thread before) (.insertRecord other) :=
    hcall ▸ System.Reachable.allowed (fun p hp => CredentialUser.mayIssue hp) hreach htrace
  obtain ⟨drawing, hdrawing, hthread, hentry⟩ := mem_history.mp hdrawn
  obtain ⟨drawing', hdrawing', hthread', hentry'⟩ := mem_history.mp hother.1
  have hdrew : drew drawing.entry = some claims.credentialId := by
    rw [hentry]
    rfl
  have hdrew' : drew drawing'.entry = some claims.credentialId := by
    rw [hentry', hsame]
    rfl
  have hunique : drawing' = drawing :=
    credentials_claims.unique hreach (by simp [htrace, hdrawing']) hdrawing hdrew' hdrew
  refine hnone event.entry (mem_history.mpr ⟨event, hevent, ?_, rfl⟩) other hcall
  rw [← hthread', hunique, hthread]

end Issuing

section Runs

def used : CredentialEntry → Option String
  | ⟨.validateAndConsume use, .ok _⟩ => some use.handle
  | _ => none

def successes (handle : String) (trace : List CredentialEvent) : Nat :=
  trace.countP fun event => used event.entry = some handle

structure Accounted (store : CredentialStore) (trace : List CredentialEvent) : Prop where
  epochs : ∀ event ∈ trace, ∀ tenant epoch, event.entry = ⟨.currentEpoch tenant, epoch⟩ →
    epoch ≤ store.revocation.currentEpoch tenant
  recorded : ∀ claims, Issued claims trace →
    (∃ record, store.records[claims.credentialId]? = some record ∧ record.claims = claims) ∧
      claims.revocationEpoch ≤ store.revocation.currentEpoch claims.tenantId
  known : ∀ id record, store.records[id]? = some record →
    Issued record.claims trace ∧ record.claims.credentialId = id ∧
      record.remainingUses + successes id trace = record.claims.maxUses
  unknown : ∀ id, store.records[id]? = none → successes id trace = 0

theorem successes_snoc {handle : String} {trace : List CredentialEvent} {event : CredentialEvent} :
    successes handle (trace ++ [event]) =
      successes handle trace + if used event.entry = some handle then 1 else 0 := by
  rw [successes, List.countP_append, List.countP_singleton, successes]
  simp only [decide_eq_true_eq]

theorem issued_snoc {claims : CredentialClaims} {trace : List CredentialEvent}
    {event : CredentialEvent} :
    Issued claims (trace ++ [event]) ↔ Issued claims trace ∨ event.call = .insertRecord claims := by
  simp [Issued, or_and_right, exists_or]

namespace Accounted

variable {store store' : CredentialStore} {trace : List CredentialEvent} {event : CredentialEvent}

theorem aside (h : Accounted store trace) (hrecords : store'.records = store.records)
    (hepochs : ∀ tenant, store.revocation.currentEpoch tenant ≤
      store'.revocation.currentEpoch tenant)
    (hread : ∀ tenant epoch, event.entry = ⟨.currentEpoch tenant, epoch⟩ →
      epoch ≤ store.revocation.currentEpoch tenant)
    (hused : used event.entry = none) (hinsert : ∀ claims, event.call ≠ .insertRecord claims) :
    Accounted store' (trace ++ [event]) := by
  have hsuccesses : ∀ id, successes id (trace ++ [event]) = successes id trace := by
    intro id
    simp [successes_snoc, hused]
  have hissued : ∀ claims, Issued claims (trace ++ [event]) ↔ Issued claims trace := by
    intro claims
    simp [issued_snoc, hinsert claims]
  refine ⟨?_, fun claims hclaims => ?_, fun id record hrecord => ?_, fun id hnone => ?_⟩
  · intro earlier hearlier tenant epoch hentry
    obtain hold | hnew := List.mem_append.mp hearlier
    · exact (h.epochs earlier hold tenant epoch hentry).trans (hepochs tenant)
    · obtain rfl := List.mem_singleton.mp hnew
      exact (hread tenant epoch hentry).trans (hepochs tenant)
  · obtain ⟨hrecord, hepoch⟩ := h.recorded claims ((hissued claims).mp hclaims)
    rw [hrecords]
    exact ⟨hrecord, hepoch.trans (hepochs _)⟩
  · rw [hrecords] at hrecord
    rw [hissued, hsuccesses]
    exact h.known id record hrecord
  · rw [hrecords] at hnone
    rw [hsuccesses]
    exact h.unknown id hnone

theorem insert {claims : CredentialClaims} (h : Accounted store trace)
    (hcall : event.entry = ⟨.insertRecord claims, ()⟩)
    (hfresh : ∀ other, Issued other trace → other.credentialId ≠ claims.credentialId)
    (hepoch : claims.revocationEpoch ≤ store.revocation.currentEpoch claims.tenantId) :
    Accounted (store.insertRecord claims) (trace ++ [event]) := by
  have hnone : store.records[claims.credentialId]? = none := by
    cases hrecord : store.records[claims.credentialId]? with
    | none => rfl
    | some record =>
      obtain ⟨hissued, hid, -⟩ := h.known _ record hrecord
      exact absurd hid (hfresh _ hissued)
  have hsuccesses : ∀ id, successes id (trace ++ [event]) = successes id trace := by
    intro id
    simp [successes_snoc, hcall, used]
  have hissued : ∀ other,
      Issued other (trace ++ [event]) ↔ Issued other trace ∨ claims = other := by
    intro other
    have hinsert : event.call = .insertRecord claims := congrArg Sigma.fst hcall
    simp [issued_snoc, hinsert]
  refine ⟨?_, fun other hother => ?_, fun id record hrecord => ?_, fun id hid => ?_⟩
  · intro earlier hearlier tenant epoch hentry
    obtain hold | hnew := List.mem_append.mp hearlier
    · exact h.epochs earlier hold tenant epoch hentry
    · obtain rfl := List.mem_singleton.mp hnew
      cases hcall.symm.trans hentry
  · simp only [CredentialStore.insertRecord, BTreeMap.getElem?_insert_ite]
    obtain hold | rfl := (hissued other).mp hother
    · rw [if_neg (hfresh other hold).symm]
      exact h.recorded other hold
    · rw [if_pos rfl]
      exact ⟨⟨_, rfl, rfl⟩, hepoch⟩
  · simp only [CredentialStore.insertRecord, BTreeMap.getElem?_insert_ite] at hrecord
    rw [hissued, hsuccesses]
    split at hrecord
    · next hid =>
      obtain rfl := Option.some.inj hrecord
      refine ⟨.inr rfl, hid, ?_⟩
      rw [← hid, h.unknown _ hnone]
      rfl
    · obtain ⟨hold, hid, hbalance⟩ := h.known id record hrecord
      exact ⟨.inl hold, hid, hbalance⟩
  · simp only [CredentialStore.insertRecord, BTreeMap.getElem?_insert_ite] at hid
    rw [hsuccesses]
    split at hid
    · cases hid
    · exact h.unknown id hid

theorem consume {use : CredentialUse} {record : CredentialRecord} (h : Accounted store trace)
    (hcall : event.entry = ⟨.validateAndConsume use, .ok record.claims⟩)
    (hrecord : store.records[use.handle]? = some record) (hremaining : 0 < record.remainingUses) :
    Accounted { store with
      records := store.records.insert use.handle
        { record with remainingUses := record.remainingUses - 1 } } (trace ++ [event]) := by
  have hsuccesses : ∀ id, successes id (trace ++ [event]) =
      successes id trace + if use.handle = id then 1 else 0 := by
    intro id
    simp [successes_snoc, hcall, used]
  have hissued : ∀ other, Issued other (trace ++ [event]) ↔ Issued other trace := by
    intro other
    have hconsume : event.call = .validateAndConsume use := congrArg Sigma.fst hcall
    simp [issued_snoc, hconsume]
  refine ⟨?_, fun other hother => ?_, fun id found hfound => ?_, fun id hid => ?_⟩
  · intro earlier hearlier tenant epoch hentry
    obtain hold | hnew := List.mem_append.mp hearlier
    · exact h.epochs earlier hold tenant epoch hentry
    · obtain rfl := List.mem_singleton.mp hnew
      cases hcall.symm.trans hentry
  · obtain ⟨⟨found, hfound, hclaims⟩, hepoch⟩ := h.recorded other ((hissued other).mp hother)
    refine ⟨?_, hepoch⟩
    simp only [BTreeMap.getElem?_insert_ite]
    split
    · next hhandle =>
      rw [hhandle, hfound] at hrecord
      obtain rfl := Option.some.inj hrecord
      exact ⟨_, rfl, hclaims⟩
    · exact ⟨found, hfound, hclaims⟩
  · simp only [BTreeMap.getElem?_insert_ite] at hfound
    rw [hissued, hsuccesses]
    split at hfound
    · next hhandle =>
      subst hhandle
      obtain rfl := Option.some.inj hfound
      obtain ⟨hold, hid, hbalance⟩ := h.known _ record hrecord
      refine ⟨hold, hid, ?_⟩
      rw [if_pos rfl]
      dsimp only
      omega
    · next hother =>
      rw [if_neg hother]
      exact h.known id found hfound
  · simp only [BTreeMap.getElem?_insert_ite] at hid
    split at hid
    · cases hid
    · next hother =>
      rw [hsuccesses, if_neg hother]
      exact h.unknown id hid

end Accounted

/-- **Step**: an allowed call keeps the records accounted. -/
theorem accounted_step (cfg : CredentialConfig) (i : Nat) (call : CredentialCall)
    (answer : call.Answer) (store' : CredentialStore)
    (hreach : credentials.Reachable .initial cfg) (h : Accounted cfg.shared cfg.trace)
    (hmay : MayIssue (history i cfg.trace) call) (hserve : cfg.shared.serve call answer store') :
    Accounted store' (cfg.trace ++ [⟨i, call, answer, cfg.shared, store'⟩]) := by
  cases call with
  | insertRecord claims =>
    obtain rfl := hserve
    refine h.insert rfl (fun other hother => fresh_of_insert hreach hmay hother) ?_
    obtain ⟨reading, hreading, -, hentry⟩ := mem_history.mp hmay.2.1
    exact h.epochs reading hreading _ _ hentry
  | validateAndConsume use =>
    obtain ⟨rfl, rfl⟩ := hserve
    obtain ⟨e, hcase⟩ | ⟨record, hrecord, hadmitted, hcase⟩ :=
      validateAndConsume_cases cfg.shared use
    · rw [hcase]
      exact h.aside rfl (fun _ => le_rfl) nofun rfl nofun
    · rw [hcase]
      exact h.consume rfl hrecord hadmitted.remaining
  | currentEpoch tenant =>
    obtain ⟨rfl, rfl⟩ := hserve
    refine h.aside rfl (fun _ => le_rfl) ?_ rfl nofun
    rintro tenant' epoch ⟨⟩
    exact le_rfl
  | isFrozen | newUuid =>
    obtain ⟨-, rfl⟩ := hserve
    exact h.aside rfl (fun _ => le_rfl) nofun rfl nofun
  | revoke revocation =>
    obtain rfl := hserve
    exact h.aside rfl (RevocationState.Stricter.revoke _ revocation).epochs nofun rfl nofun
  | bumpTenantEpoch tenant =>
    obtain ⟨-, -, rfl⟩ := hserve
    exact h.aside rfl (RevocationState.Stricter.bump _ tenant).epochs nofun rfl nofun

theorem accounted_initial : Accounted .initial [] := by
  refine ⟨by simp, fun claims hissued => ?_, fun id record hrecord => ?_, fun _ _ => rfl⟩
  · simp [Issued] at hissued
  · simp [CredentialStore.initial] at hrecord

/-- **Run**: the records are accounted before each call and at the end. -/
theorem accounted_of_run {cfg : CredentialConfig} (hreach : credentials.Reachable .initial cfg) :
    Accounted cfg.shared cfg.trace ∧
    ∀ before event after, cfg.trace = before ++ event :: after →
      Accounted event.before before ∧
        event.before.serve event.call event.answer event.after := by
  have hrun := hreach.conducted (I := Accounted) (fun p hp => CredentialUser.mayIssue hp)
    accounted_step (by rintro _ _ _ _ ⟨⟩) accounted_initial
  exact ⟨hrun.1, fun before event after htrace =>
    ⟨(hrun.2 before event after htrace).1, (hrun.2 before event after htrace).2.2⟩⟩

theorem stricter_of_serve {store store' : CredentialStore} {call : CredentialCall}
    {answer : call.Answer} (hserve : store.serve call answer store') :
    store.revocation.Stricter store'.revocation := by
  cases call with
  | revoke revocation =>
    obtain rfl := hserve
    exact .revoke _ revocation
  | bumpTenantEpoch tenant =>
    obtain ⟨-, -, rfl⟩ := hserve
    exact .bump _ tenant
  | insertRecord =>
    obtain rfl := hserve
    exact .refl _
  | isFrozen | newUuid | currentEpoch =>
    obtain ⟨-, rfl⟩ := hserve
    exact .refl _
  | validateAndConsume use =>
    obtain ⟨-, rfl⟩ := hserve
    obtain ⟨e, hcase⟩ | ⟨record, -, -, hcase⟩ := validateAndConsume_cases store use
    · rw [hcase]
      exact .refl _
    · rw [hcase]
      exact .refl _

theorem revocation_of_revoke {store store' : CredentialStore} {call : CredentialCall}
    {answer : call.Answer} {revocation : Revocation} (hserve : store.serve call answer store')
    (hcall : call = .revoke revocation) :
    store'.revocation = store.revocation.revoke revocation := by
  subst hcall
  obtain rfl := hserve
  rfl

theorem revocation_of_bump {store store' : CredentialStore} {call : CredentialCall}
    {answer : call.Answer} {tenant : TenantId} (hserve : store.serve call answer store')
    (hcall : call = .bumpTenantEpoch tenant) :
    store'.revocation = store.revocation.bumpTenantEpoch tenant := by
  subst hcall
  obtain ⟨-, -, rfl⟩ := hserve
  rfl

theorem stricter_between {cfg : CredentialConfig} (hreach : credentials.Reachable .initial cfg)
    {before between after : List CredentialEvent} {event event' : CredentialEvent}
    (htrace : cfg.trace = before ++ event :: between ++ event' :: after) :
    event.after.revocation.Stricter event'.before.revocation := by
  have htrace' : cfg.trace = before ++ event :: (between ++ event' :: after) := by
    simp [htrace]
  have hafter := System.Reachable.after
    (Q := fun store => event.after.revocation.Stricter store.revocation) (K := fun _ => True)
    (fun _ hserve _ hstricter => hstricter.trans (stricter_of_serve hserve))
    (by rintro _ _ _ ⟨⟩) hreach htrace' (.refl _)
  exact hafter.2 between event' after rfl fun _ _ => trivial

theorem admitted_of_used {cfg : CredentialConfig} (hreach : credentials.Reachable .initial cfg)
    {before after : List CredentialEvent} {event : CredentialEvent}
    (htrace : cfg.trace = before ++ event :: after) {use : CredentialUse}
    {claims : CredentialClaims} (hused : event.entry = ⟨.validateAndConsume use, .ok claims⟩) :
    ∃ record, event.before.records[use.handle]? = some record ∧ record.claims = claims ∧
      Admitted event.before use record ∧ Accounted event.before before := by
  obtain ⟨haccounted, hserve⟩ := (accounted_of_run hreach).2 before event after htrace
  obtain ⟨thread, call, answer, store, store'⟩ := event
  cases hused
  obtain ⟨hanswer, -⟩ := hserve
  obtain ⟨e, hcase⟩ | ⟨record, hrecord, hadmitted, hcase⟩ := validateAndConsume_cases store use
  · rw [hcase] at hanswer
    cases hanswer
  · rw [hcase] at hanswer
    exact ⟨record, hrecord, (Except.ok.inj hanswer).symm, hadmitted, haccounted⟩

-- Uses and revocations

def Revocation.Affects (handle : String) (claims : CredentialClaims) : Revocation → Prop
  | .credential revoked => revoked = handle
  | .task revoked => revoked = claims.taskId
  | .agent revoked => revoked = claims.agentInstanceId
  | .token _ | .freeze _ => False

theorem refuses_of_affects {state : RevocationState} {revocation : Revocation} {handle : String}
    {claims : CredentialClaims} (h : revocation.Affects handle claims) :
    (state.revoke revocation).Refuses none (some handle) claims.tenantId claims.taskId
      claims.agentInstanceId claims.revocationEpoch := by
  cases revocation with
  | credential revoked =>
    obtain rfl : revoked = handle := h
    exact .inr (.inr (.inl ⟨revoked, rfl, Finset.mem_insert_self _ _⟩))
  | task task =>
    obtain rfl : task = claims.taskId := h
    exact .inr (.inr (.inr (.inl (Finset.mem_insert_self _ _))))
  | agent agent =>
    obtain rfl : agent = claims.agentInstanceId := h
    exact .inr (.inr (.inr (.inr (Finset.mem_insert_self _ _))))
  | token | freeze => exact h.elim

structure Governed (cfg : CredentialConfig) : Prop where
  balanced : ∀ id record, cfg.shared.records[id]? = some record →
    record.remainingUses + successes id cfg.trace = record.claims.maxUses
  unissued : ∀ id, cfg.shared.records[id]? = none → successes id cfg.trace = 0
  matched : ∀ event ∈ cfg.trace, ∀ use claims,
    event.entry = ⟨.validateAndConsume use, .ok claims⟩ →
      Issued claims cfg.trace ∧ claims.credentialId = use.handle ∧
        claims.issuedAt ≤ use.now ∧ use.now < claims.expiresAt ∧ use.InScope claims
  failed : ∀ (i : Nat) e, cfg.threads[i]? = some (.done (.error e)) →
    ∀ event ∈ cfg.trace, event.thread = i →
      event.after.records = event.before.records ∧
        event.after.revocation = event.before.revocation
  revoked : ∀ before revoking between consuming after,
    cfg.trace = before ++ revoking :: between ++ consuming :: after →
      ∀ revocation, revoking.call = .revoke revocation →
        ∀ use claims, consuming.entry = ⟨.validateAndConsume use, .ok claims⟩ →
          ¬revocation.Affects use.handle claims
  bumped : ∀ before bumping between consuming after,
    cfg.trace = before ++ bumping :: between ++ consuming :: after →
      ∀ tenant, bumping.call = .bumpTenantEpoch tenant → ∀ claims, claims.tenantId = tenant →
        Issued claims before → ∀ use, consuming.entry ≠ ⟨.validateAndConsume use, .ok claims⟩

theorem unchanged_of_idle {store store' : CredentialStore} {call : CredentialCall}
    {answer : call.Answer} (hserve : store.serve call answer store') (hidle : Idle ⟨call, answer⟩) :
    store'.records = store.records ∧ store'.revocation = store.revocation := by
  cases call with
  | insertRecord | revoke | bumpTenantEpoch => exact hidle.elim
  | isFrozen | newUuid | currentEpoch =>
    obtain ⟨-, rfl⟩ := hserve
    exact ⟨rfl, rfl⟩
  | validateAndConsume use =>
    obtain ⟨rfl, rfl⟩ := hserve
    obtain ⟨e, hcase⟩ | ⟨record, -, -, hcase⟩ := validateAndConsume_cases store use
    · rw [hcase]
      exact ⟨rfl, rfl⟩
    · rw [hcase] at hidle
      exact hidle.elim

/-- **Credentials**: in every run each credential was used within its uses, its time and its scope,
and never after it was revoked. -/
theorem credentials_are_governed {cfg : CredentialConfig}
    (hreach : credentials.Reachable .initial cfg) : Governed cfg := by
  obtain ⟨haccounted, hevents⟩ := accounted_of_run hreach
  refine ⟨fun id record hrecord => (haccounted.known id record hrecord).2.2, haccounted.unknown,
    ?_, ?_, ?_, ?_⟩
  · intro event hevent use claims hused
    obtain ⟨before, after, htrace⟩ := List.append_of_mem hevent
    obtain ⟨record, hrecord, rfl, hadmitted, hbefore⟩ := admitted_of_used hreach htrace hused
    obtain ⟨⟨issuing, hissuing, hcall⟩, hid, -⟩ := hbefore.known _ record hrecord
    exact ⟨⟨issuing, by simp [htrace, hissuing], hcall⟩, hid, hadmitted.inTime.1,
      hadmitted.inTime.2, hadmitted.inScope⟩
  · intro i e hthread event hevent hown
    obtain ⟨p, huser, hresumes⟩ := hreach.resumes.2 i _ hthread
    have hidle := (CredentialUser.conduct huser).resumes hresumes fun _ _ => trivial
    refine unchanged_of_idle (System.Reachable.served hreach event hevent) ?_
    refine hidle e rfl event.entry ?_
    rw [List.nil_append]
    exact mem_history.mpr ⟨event, hevent, hown, rfl⟩
  · intro before revoking between consuming after htrace revocation hcall use claims hused haffects
    obtain ⟨record, -, rfl, hadmitted, -⟩ := admitted_of_used hreach htrace hused
    have hstricter := stricter_between hreach htrace
    rw [revocation_of_revoke (System.Reachable.served hreach revoking (by simp [htrace])) hcall]
      at hstricter
    exact RevocationState.check_eq_ok.mp hadmitted.unrevoked
      (hstricter.refuses (refuses_of_affects haffects))
  · rintro before bumping between consuming after htrace tenant hcall claims rfl hissued use hused
    obtain ⟨record, hrecord, rfl, hadmitted, -⟩ := admitted_of_used hreach htrace hused
    have hstricter := stricter_between hreach htrace
    obtain ⟨hbefore, hserve⟩ :=
      hevents before bumping (between ++ consuming :: after) (by simp [htrace])
    rw [revocation_of_bump hserve hcall] at hstricter
    have hold : record.claims.revocationEpoch ≤
        bumping.before.revocation.currentEpoch record.claims.tenantId :=
      (hbefore.recorded _ hissued).2
    refine RevocationState.check_eq_ok.mp hadmitted.unrevoked (hstricter.refuses (.inl ?_))
    rw [RevocationState.currentEpoch_bump, if_pos rfl]
    exact Nat.lt_succ_of_le hold

end Runs

-- A credential that is used and revoked

def sampleCredentialRequest : CredentialRequest where
  schemaVersion := identitySchemaVersion
  tenantId := "tenant"
  agentInstanceId := "agent"
  taskId := "task"
  stepId := "step"
  actionHash := "hash"
  audience := "tool-proxy"
  resources := {"file"}
  operations := {"read"}
  toolId := "tool"
  ttlSeconds := 60
  maxUses := 2

def sampleCredential : CredentialClaims :=
  CredentialService.claimsOf sampleCredentialRequest "credential" 0 0 60000000000

def sampleUse : CredentialUse where
  handle := "credential"
  audience := "tool-proxy"
  actionHash := "hash"
  resource := "file"
  operation := "read"
  now := 5

def sampleIssuing : List CredentialEntry :=
  [⟨.isFrozen "task", false⟩, ⟨.newUuid, "credential"⟩, ⟨.currentEpoch "tenant", (0 : Nat)⟩,
    ⟨.insertRecord sampleCredential, ()⟩]

def sampleDrawnStore : CredentialStore :=
  { CredentialStore.initial with drawn := insert "credential" ∅ }

def sampleIssuedStore : CredentialStore := sampleDrawnStore.insertRecord sampleCredential

def sampleUsedStore : CredentialStore :=
  { sampleIssuedStore with
    records := sampleIssuedStore.records.insert "credential" ⟨sampleCredential, 1⟩ }

def sampleRevokedStore : CredentialStore :=
  { sampleUsedStore with revocation := sampleUsedStore.revocation.revoke (.agent "agent") }

def sampleUsing : List CredentialEntry :=
  [⟨.validateAndConsume sampleUse, .ok sampleCredential⟩, ⟨.revoke (.agent "agent"), ()⟩,
    ⟨.validateAndConsume sampleUse, .error .revoked⟩]

theorem sampleIssuing_resumes (f : String → CredentialReply) :
    Resumes (do
      let credentialId ← CredentialService.issue sampleCredentialRequest 0
      pure (f credentialId) : Issuing CredentialReply).run sampleIssuing
      (.done (.ok (f "credential"))) := by
  have hissue : Resumes (CredentialService.issue sampleCredentialRequest 0).run sampleIssuing
      (.done (.ok "credential")) := by
    refine .ensure_bind ⟨rfl, by decide, by decide, by decide, by decide, by decide⟩ ?_
    refine .ask_bind ?_
    refine .ensure_bind rfl ?_
    refine .ask_bind ?_
    refine .ask_bind ?_
    refine .computed_bind (a := 60000000000) (by decide) ?_
    exact .ask_bind (.refl _)
  exact hissue.attempt_bind (.refl _)

theorem sampleIssuing_serves : credentials.Serves .initial sampleIssuing sampleIssuedStore := by
  refine .through .initial ⟨by decide, rfl⟩ ?_
  refine .through sampleDrawnStore ⟨by decide, rfl⟩ ?_
  refine .through sampleDrawnStore ⟨by decide, rfl⟩ ?_
  exact .through sampleIssuedStore rfl (.nil _)

theorem sampleUse_succeeds :
    sampleIssuedStore.validateAndConsume sampleUse = (.ok sampleCredential, sampleUsedStore) := by
  have hfound : sampleIssuedStore.records[sampleUse.handle]? = some ⟨sampleCredential, 2⟩ := by
    decide
  have hcheck : sampleIssuedStore.checkUse sampleUse ⟨sampleCredential, 2⟩ = .ok () := by
    decide
  simp only [CredentialStore.validateAndConsume, hfound, hcheck]
  rfl

theorem sampleUse_refused :
    sampleRevokedStore.validateAndConsume sampleUse = (.error .revoked, sampleRevokedStore) := by
  have hfound : sampleRevokedStore.records[sampleUse.handle]? = some ⟨sampleCredential, 1⟩ := by
    decide
  have hcheck : sampleRevokedStore.checkUse sampleUse ⟨sampleCredential, 1⟩ = .error .revoked := by
    decide
  simp only [CredentialStore.validateAndConsume, hfound, hcheck]

/-- The uses of all credentials at a concrete run: one is used, its agent revoked, and then it is
refused. -/
theorem credentials_are_governed_sample : ∃ cfg : CredentialConfig,
    cfg.trace.map Event.entry = sampleIssuing ++ sampleUsing ∧ Governed cfg := by
  let consuming := (do
    let claims ← port (.validateAndConsume sampleUse) id
    pure (.claims claims) : Issuing CredentialReply).run
  let revoking := (do
    let _ ← ask (.revoke (.agent "agent"))
    pure .revoked : Issuing CredentialReply).run
  have hjoined :
      credentials.Reachable .initial ⟨.initial, [_, consuming, revoking, consuming], []⟩ :=
    .tail (.tail (.tail (.tail .refl (.start _ (.issue sampleCredentialRequest 0)))
      (.start _ (.validateAndConsume ..))) (.start _ (.revoke ..)))
      (.start _ (.validateAndConsume ..))
  have hconsume : ∀ answer, ∃ q, Resumes consuming [⟨.validateAndConsume sampleUse, answer⟩] q :=
    fun answer => ⟨_, .perform (x := answer) (.refl _)⟩
  have hrevoke : Resumes revoking [⟨.revoke (.agent "agent"), ()⟩] (.done (.ok .revoked)) :=
    .ask_bind (.refl _)
  obtain ⟨q₁, hconsume₁⟩ := hconsume (.ok sampleCredential)
  obtain ⟨q₂, hconsume₂⟩ := hconsume (.error .revoked)
  obtain ⟨events₁, -, hentries₁, hfirst⟩ :=
    hjoined.run 0 rfl (sampleIssuing_resumes _) sampleIssuing_serves
  obtain ⟨events₂, -, hentries₂, hsecond⟩ := hfirst.run 1 rfl hconsume₁
    (.through sampleUsedStore
      ⟨by rw [sampleUse_succeeds], by rw [sampleUse_succeeds]⟩ (.nil _))
  obtain ⟨events₃, -, hentries₃, hthird⟩ := hsecond.run 2 rfl hrevoke
    (.through sampleRevokedStore rfl (.nil _))
  obtain ⟨events₄, -, hentries₄, hfourth⟩ := hthird.run 3 rfl hconsume₂
    (.through sampleRevokedStore
      ⟨by rw [sampleUse_refused], by rw [sampleUse_refused]⟩ (.nil _))
  refine ⟨_, ?_, credentials_are_governed hfourth⟩
  simp [hentries₁, hentries₂, hentries₃, hentries₄, sampleUsing]

end AgentSphere.Identity
