import AgentSphere.Lib.Machine
import AgentSphere.Packs.Manifests

/-!
# Installations

A tenant installs a pack into an environment: an installation is requested, approved, installed and
activated, and may be rolled back or revoked. The service keeps the installations and, for each
tenant, environment and pack, which installation is the active one.
-/

namespace AgentSphere.Packs

open Concurrency Concurrency.Machine

def marketplaceSchemaVersion : String := "agenttrust.pack-marketplace.v1"

inductive MarketplaceError where
  | installationDenied
  | permissionReviewRequired
  | activationDenied
  | rollbackDenied
  | revocationDenied
  | notFound
  deriving DecidableEq, Repr

structure MarketplaceListing where
  packId : String
  version : String
  packDigest : String
  revoked : Bool
  deriving DecidableEq

structure PermissionDiff where
  addedTools : Finset String
  addedNetworkDestinations : Finset String
  addedDataClasses : Finset String
  addedSecretScopes : Finset String
  addedExecutors : Finset String
  addedApprovalScopes : Finset String
  deriving DecidableEq

def PermissionDiff.ExpandsPrivilege (diff : PermissionDiff) : Prop :=
  diff.addedTools ≠ ∅ ∨ diff.addedNetworkDestinations ≠ ∅ ∨ diff.addedDataClasses ≠ ∅
    ∨ diff.addedSecretScopes ≠ ∅ ∨ diff.addedExecutors ≠ ∅ ∨ diff.addedApprovalScopes ≠ ∅

instance (diff : PermissionDiff) : Decidable diff.ExpandsPrivilege :=
  inferInstanceAs (Decidable (_ ∨ _ ∨ _ ∨ _ ∨ _ ∨ _))

inductive InstallationState where
  | pendingApproval
  | approved
  | installed
  | active
  | rolledBack
  | revoked
  deriving DecidableEq, Repr

structure Installation where
  schemaVersion : String
  installationId : String
  tenantId : TenantId
  environment : String
  packId : String
  version : String
  packDigest : String
  permissionsDigest : String
  state : InstallationState
  approvedBy : Option String
  productionCertificateDigest : Option String
  previousInstallationId : Option String
  runningTaskResponse : Option String
  updatedAt : DateTime
  deriving DecidableEq

abbrev PackKey := TenantId × String × String

def Installation.key (installation : Installation) : PackKey :=
  (installation.tenantId, installation.environment, installation.packId)

structure InstallationService where
  installations : String → Option Installation
  active : PackKey → Option String

namespace InstallationService

/-- `InstallationService::default`. -/
def empty : InstallationService := ⟨fun _ => none, fun _ => none⟩

def put (service : InstallationService) (id : String) (installation : Installation) :
    InstallationService :=
  { service with installations := Function.update service.installations id (some installation) }

def point (service : InstallationService) (key : PackKey) (entry : Option String) :
    InstallationService :=
  { service with active := Function.update service.active key entry }

end InstallationService

abbrev InstallationAnswer := Except MarketplaceError Installation

variable (service : InstallationService)

/-- `request`; the id is drawn by the service. -/
def request (installationId : String) (tenant : TenantId) (environment : String)
    (listing : MarketplaceListing) (permissionsDigest : String) (now : DateTime) :
    InstallationAnswer × InstallationService :=
  if listing.revoked ∨ environment = "" ∨ permissionsDigest.utf8ByteSize ≠ 64 then
    (.error .installationDenied, service)
  else
    let installation : Installation :=
      { schemaVersion := marketplaceSchemaVersion
        installationId
        tenantId := tenant
        environment
        packId := listing.packId
        version := listing.version
        packDigest := listing.packDigest
        permissionsDigest
        state := .pendingApproval
        approvedBy := none
        productionCertificateDigest := none
        previousInstallationId := none
        runningTaskResponse := none
        updatedAt := now }
    (.ok installation, service.put installationId installation)

def approve (installationId reviewer : String) (permissionDiff : PermissionDiff)
    (now : DateTime) : InstallationAnswer × InstallationService :=
  match service.installations installationId with
  | none => (.error .notFound, service)
  | some installation =>
    if installation.state ≠ .pendingApproval ∨ reviewer = "" then
      (.error .installationDenied, service)
    else if permissionDiff.ExpandsPrivilege ∧ reviewer = installation.packId then
      (.error .permissionReviewRequired, service)
    else
      let approved : Installation :=
        { installation with state := .approved, approvedBy := some reviewer, updatedAt := now }
      (.ok approved, service.put installationId approved)

/-- `transition`, between two states of one installation. -/
def transition (installationId : String) (before after : InstallationState) (now : DateTime) :
    InstallationAnswer × InstallationService :=
  match service.installations installationId with
  | none => (.error .notFound, service)
  | some installation =>
    if installation.state ≠ before then (.error .installationDenied, service)
    else
      let moved : Installation := { installation with state := after, updatedAt := now }
      (.ok moved, service.put installationId moved)

def install (installationId : String) (now : DateTime) :
    InstallationAnswer × InstallationService :=
  transition service installationId .approved .installed now

/-- What `activate` refuses. -/
def ActivationDenied (installation : Installation) (certificate : Option String) : Prop :=
  installation.state ≠ .installed
    ∨ installation.environment = "production" ∧ ¬∃ digest ∈ certificate, digest.utf8ByteSize = 64

instance (installation : Installation) (certificate : Option String) :
    Decidable (ActivationDenied installation certificate) :=
  inferInstanceAs (Decidable (_ ∨ _ ∧ ¬_))

/-- `activate`: the entry of the key is overwritten, and the installation it named is remembered but
not changed. -/
def activate (installationId : String) (certificate : Option String) (now : DateTime) :
    InstallationAnswer × InstallationService :=
  match service.installations installationId with
  | none => (.error .notFound, service)
  | some installation =>
    if ActivationDenied installation certificate then (.error .activationDenied, service)
    else
      let activated : Installation :=
        { installation with
          productionCertificateDigest := certificate
          state := .active
          updatedAt := now
          previousInstallationId := service.active installation.key }
      (.ok activated, (service.put installationId activated).point activated.key
        (some activated.installationId))

/-- `rollback`: the state of the predecessor is not looked at. -/
def rollback (installationId : String) (now : DateTime) :
    InstallationAnswer × InstallationService :=
  match service.installations installationId with
  | none => (.error .notFound, service)
  | some current =>
    if current.state ≠ .active then (.error .rollbackDenied, service)
    else
      match current.previousInstallationId with
      | none => (.error .rollbackDenied, service)
      | some previousId =>
        match service.installations previousId with
        | none => (.error .rollbackDenied, service)
        | some previous =>
          let revived := (service.put previousId
            { previous with state := .active, updatedAt := now }).point current.key
              (some previousId)
          match revived.installations installationId with
          | none => (.error .notFound, revived)
          | some current =>
            let rolledBack : Installation :=
              { current with state := .rolledBack, updatedAt := now }
            (.ok rolledBack, revived.put installationId rolledBack)

/-- `revoke`: the entry of the key is removed whatever installation it names. -/
def revoke (installationId runningTaskResponse : String) (now : DateTime) :
    InstallationAnswer × InstallationService :=
  if runningTaskResponse ∉ ["PAUSE", "KILL", "ALLOW_TO_FINISH"] then
    (.error .revocationDenied, service)
  else
    match service.installations installationId with
    | none => (.error .notFound, service)
    | some installation =>
      let revoked : Installation :=
        { installation with
          state := .revoked
          runningTaskResponse := some runningTaskResponse
          updatedAt := now }
      (.ok revoked, (service.put installationId revoked).point revoked.key none)

/-- `active`: what the entry of the key names. Calls run one after the other, so that both reads see
one service. -/
def InstallationService.activeInstallation (tenant : TenantId) (environment packId : String) :
    InstallationAnswer :=
  match service.active (tenant, environment, packId) with
  | none => .error .notFound
  | some id =>
    match service.installations id with
    | none => .error .notFound
    | some installation => .ok installation

inductive InstallationOperation where
  | request (installationId : String) (tenant : TenantId) (environment : String)
    (listing : MarketplaceListing) (permissionsDigest : String)
  | approve (installationId reviewer : String) (permissionDiff : PermissionDiff)
  | install (installationId : String)
  | activate (installationId : String) (certificate : Option String)
  | rollback (installationId : String)
  | revoke (installationId runningTaskResponse : String)

structure InstallationCall where
  now : DateTime
  operation : InstallationOperation

def serve (call : InstallationCall) : InstallationAnswer × InstallationService :=
  match call.operation with
  | .request installationId tenant environment listing permissionsDigest =>
    request service installationId tenant environment listing permissionsDigest call.now
  | .approve installationId reviewer permissionDiff =>
    approve service installationId reviewer permissionDiff call.now
  | .install installationId => install service installationId call.now
  | .activate installationId certificate => activate service installationId certificate call.now
  | .rollback installationId => rollback service installationId call.now
  | .revoke installationId runningTaskResponse =>
    revoke service installationId runningTaskResponse call.now

def Fresh (call : InstallationCall) : Prop :=
  match call.operation with
  | .request installationId .. => service.installations installationId = none
  | _ => True

instance : (call : InstallationCall) → Decidable (Fresh service call)
  | ⟨_, .request installationId ..⟩ =>
    inferInstanceAs (Decidable (service.installations installationId = none))
  | ⟨_, .approve ..⟩ | ⟨_, .install _⟩ | ⟨_, .activate ..⟩ | ⟨_, .rollback _⟩ | ⟨_, .revoke ..⟩ =>
    .isTrue trivial

variable {service}

namespace InstallationService

variable {id id' : String} {key key' : PackKey} {installation : Installation}
  {entry : Option String}

theorem put_installations : (service.put id installation).installations id' =
    if id' = id then some installation else service.installations id' :=
  Function.update_apply ..

@[simp] theorem put_installations_self :
    (service.put id installation).installations id = some installation :=
  Function.update_self ..

theorem put_installations_of_ne (h : id' ≠ id) :
    (service.put id installation).installations id' = service.installations id' :=
  Function.update_of_ne h ..

@[simp] theorem put_active : (service.put id installation).active = service.active := rfl

@[simp] theorem point_installations :
    (service.point key entry).installations = service.installations := rfl

theorem point_active : (service.point key entry).active key' =
    if key' = key then entry else service.active key' :=
  Function.update_apply ..

@[simp] theorem point_active_self : (service.point key entry).active key = entry :=
  Function.update_self ..

theorem point_active_of_ne (h : key' ≠ key) :
    (service.point key entry).active key' = service.active key' :=
  Function.update_of_ne h ..

end InstallationService

-- What a call does

structure SameInstallation (x y : Installation) : Prop where
  installationId : y.installationId = x.installationId
  key : y.key = x.key
  previous : y.previousInstallationId = x.previousInstallationId

section Calls

variable {id : String} {now : DateTime}

theorem request_cases {tenant : TenantId} {environment : String} {listing : MarketplaceListing}
    {permissionsDigest : String} :
    (request service id tenant environment listing permissionsDigest now).2 = service ∨
      ∃ y : Installation, y.installationId = id ∧ y.state = .pendingApproval ∧
        y.previousInstallationId = none ∧
        (request service id tenant environment listing permissionsDigest now).2 =
          service.put id y := by
  unfold request
  split
  · exact .inl rfl
  · exact .inr ⟨_, rfl, rfl, rfl, rfl⟩

def Moves (service service' : InstallationService) (id : String) : Prop :=
  ∃ x y, service.installations id = some x ∧ SameInstallation x y ∧
    x.state ∈ [.pendingApproval, .approved] ∧ y.state ∈ [.approved, .installed] ∧
    service' = service.put id y

theorem approve_cases {reviewer : String} {permissionDiff : PermissionDiff} :
    (approve service id reviewer permissionDiff now).2 = service ∨
      Moves service (approve service id reviewer permissionDiff now).2 id := by
  unfold approve
  split
  · exact .inl rfl
  · next x hx =>
    split_ifs with hdenied
    · exact .inl rfl
    · exact .inl rfl
    · have hpending := not_not.mp (not_or.mp hdenied).1
      refine .inr ⟨x, _, hx, ⟨?_, ?_, ?_⟩, by simp [hpending], ?_, rfl⟩
      · rfl
      · rfl
      · rfl
      · simp

theorem install_cases : (install service id now).2 = service ∨
    Moves service (install service id now).2 id := by
  unfold install transition
  split
  · exact .inl rfl
  · next x hx =>
    split_ifs with hdenied
    · exact .inl rfl
    · refine .inr ⟨x, _, hx, ⟨?_, ?_, ?_⟩, by simp [not_not.mp hdenied], ?_, rfl⟩
      · rfl
      · rfl
      · rfl
      · simp

def Activates (service : InstallationService) (id : String) (certificate : Option String)
    (x : Installation) : Prop :=
  service.installations id = some x ∧ ¬ActivationDenied x certificate

theorem activate_cases {certificate : Option String} :
    (activate service id certificate now).2 = service ∧
        (∀ x, ¬Activates service id certificate x) ∨
      ∃ x y, Activates service id certificate x ∧ y.installationId = x.installationId ∧
        y.key = x.key ∧ y.state = .active ∧ y.previousInstallationId = service.active x.key ∧
        (activate service id certificate now).2 =
          (service.put id y).point x.key (some x.installationId) := by
  unfold activate
  split
  · next hx => exact .inl ⟨rfl, fun x h => by simp [Activates, hx] at h⟩
  · next x hx =>
    split_ifs with hdenied
    · refine .inl ⟨rfl, fun x' h => h.2 ?_⟩
      obtain rfl := Option.some.inj (hx.symm.trans h.1)
      exact hdenied
    · refine .inr ⟨x, _, ⟨hx, hdenied⟩, ?_, ?_, ?_, ?_, rfl⟩ <;> rfl

structure RollsBack (service : InstallationService) (id previousId : String)
    (x previous : Installation) : Prop where
  current : service.installations id = some x
  active : x.state = .active
  predecessor : x.previousInstallationId = some previousId
  previous : service.installations previousId = some previous

theorem rollback_cases (hne : ∀ x, service.installations id = some x →
      x.previousInstallationId ≠ some id) :
    (rollback service id now).2 = service ∧
        (∀ previousId x previous, ¬RollsBack service id previousId x previous) ∨
      ∃ previousId x previous y z, RollsBack service id previousId x previous ∧
        SameInstallation previous y ∧ y.state = .active ∧
        SameInstallation x z ∧ z.state = .rolledBack ∧
        (rollback service id now).2 =
          ((service.put previousId y).point x.key (some previousId)).put id z := by
  unfold rollback
  split
  · next hx =>
    exact .inl ⟨rfl, fun _ _ _ h => by cases hx.symm.trans h.current⟩
  · next x hx =>
    have hcurrent : ∀ {previousId x' previous}, RollsBack service id previousId x' previous →
        x' = x := fun h => Option.some.inj (h.current.symm.trans hx)
    split_ifs with hstate
    · exact .inl ⟨rfl, fun _ _ _ h => hstate (hcurrent h ▸ h.active)⟩
    · split
      · next hnone =>
        exact .inl ⟨rfl, fun _ _ _ h => by cases hnone.symm.trans (hcurrent h ▸ h.predecessor)⟩
      · next previousId hprevious =>
        split
        · next hmissing =>
          refine .inl ⟨rfl, fun _ _ _ h => ?_⟩
          obtain rfl := Option.some.inj (hprevious.symm.trans (hcurrent h ▸ h.predecessor))
          cases hmissing.symm.trans h.previous
        · next previous hfound =>
          -- the predecessor is another installation, so that the current one is still there
          have hother : id ≠ previousId := fun heq => hne x hx (heq ▸ hprevious)
          simp only [InstallationService.point_installations,
            InstallationService.put_installations_of_ne hother, hx]
          refine .inr ⟨previousId, x, previous, _, _, ⟨hx, not_not.mp hstate, hprevious, hfound⟩,
            ⟨?_, ?_, ?_⟩, ?_, ⟨?_, ?_, ?_⟩, ?_, rfl⟩ <;> rfl

theorem revoke_cases {runningTaskResponse : String} :
    (revoke service id runningTaskResponse now).2 = service ∧
        (runningTaskResponse ∉ ["PAUSE", "KILL", "ALLOW_TO_FINISH"] ∨
          service.installations id = none) ∨
      ∃ x y, runningTaskResponse ∈ ["PAUSE", "KILL", "ALLOW_TO_FINISH"] ∧
        service.installations id = some x ∧ SameInstallation x y ∧ y.state = .revoked ∧
        (revoke service id runningTaskResponse now).2 =
          (service.point x.key none).put id y := by
  unfold revoke
  split_ifs with hresponse
  · split
    · next hx => exact .inl ⟨rfl, .inr hx⟩
    · next x hx =>
      refine .inr ⟨x, _, hresponse, hx, ⟨?_, ?_, ?_⟩, ?_, rfl⟩ <;> rfl
  · exact .inl ⟨rfl, .inl hresponse⟩

end Calls

-- What every run keeps

/-- An installation is kept under its id, an entry names an active installation of its key, and a
predecessor is another installation of the same key. -/
structure WellFormed (service : InstallationService) : Prop where
  ids : ∀ {id x}, service.installations id = some x → x.installationId = id
  entries : ∀ {key id}, service.active key = some id →
    ∃ x, service.installations id = some x ∧ x.state = .active ∧ x.key = key
  previous : ∀ {id x previousId}, service.installations id = some x →
    x.previousInstallationId = some previousId →
    previousId ≠ id ∧ ∃ y, service.installations previousId = some y ∧ y.key = x.key

namespace WellFormed

theorem empty : WellFormed .empty where
  ids h := nomatch h
  entries h := nomatch h
  previous h := nomatch h

theorem put (h : WellFormed service) {id : String} {y : Installation}
    (hid : y.installationId = id)
    (hkey : ∀ x, service.installations id = some x → y.key = x.key)
    (hprevious : ∀ previousId, y.previousInstallationId = some previousId →
      previousId ≠ id ∧ ∃ z, service.installations previousId = some z ∧ z.key = y.key)
    (hentry : service.active y.key = some id → y.state = .active) :
    WellFormed (service.put id y) := by
  refine ⟨fun {id' x} hx => ?_, fun {key id'} hnames => ?_, fun {id' x previousId} hx hprev => ?_⟩
  · rw [InstallationService.put_installations] at hx
    split_ifs at hx with heq
    · rw [← Option.some.inj hx, heq, hid]
    · exact h.ids hx
  · obtain ⟨x, hx, hstate, rfl⟩ := h.entries hnames
    by_cases heq : id' = id
    · subst heq
      have hsame := hkey x hx
      exact ⟨y, InstallationService.put_installations_self, hentry (hsame ▸ hnames), hsame⟩
    · exact ⟨x, (InstallationService.put_installations_of_ne heq).trans hx, hstate, rfl⟩
  · have hold : previousId ≠ id' ∧
        ∃ z, service.installations previousId = some z ∧ z.key = x.key := by
      rw [InstallationService.put_installations] at hx
      split_ifs at hx with heq
      · subst heq
        obtain rfl := Option.some.inj hx
        exact hprevious previousId hprev
      · exact h.previous hx hprev
    obtain ⟨hne, z, hz, hzkey⟩ := hold
    refine ⟨hne, ?_⟩
    by_cases heq : previousId = id
    · subst heq
      exact ⟨y, InstallationService.put_installations_self, (hkey z hz).trans hzkey⟩
    · exact ⟨z, (InstallationService.put_installations_of_ne heq).trans hz, hzkey⟩

theorem put_same (h : WellFormed service) {id : String} {x y : Installation}
    (hx : service.installations id = some x) (hsame : SameInstallation x y)
    (hentry : service.active x.key = some id → y.state = .active) :
    WellFormed (service.put id y) := by
  refine h.put (hsame.installationId.trans (h.ids hx)) (fun x' hx' => ?_)
    (fun previousId hprev => ?_)
    (fun hnames => hentry (hsame.key ▸ hnames))
  · obtain rfl := Option.some.inj (hx.symm.trans hx')
    exact hsame.key
  · rw [hsame.key]
    exact h.previous hx (hsame.previous ▸ hprev)

theorem point (h : WellFormed service) {key : PackKey} {entry : Option String}
    (hentry : ∀ id, entry = some id →
      ∃ x, service.installations id = some x ∧ x.state = .active ∧ x.key = key) :
    WellFormed (service.point key entry) := by
  refine ⟨h.ids, fun {key' id} hnames => ?_, h.previous⟩
  rw [InstallationService.point_active] at hnames
  split_ifs at hnames with heq
  · exact heq ▸ hentry id hnames
  · exact h.entries hnames

theorem previous_ne (h : WellFormed service) (id : String) :
    ∀ x, service.installations id = some x → x.previousInstallationId ≠ some id :=
  fun _ hx hprev => (h.previous hx hprev).1 rfl

theorem not_named (h : WellFormed service) {id : String} {x : Installation} {key : PackKey}
    (hx : service.installations id = some x) (hstate : x.state ≠ .active) :
    service.active key ≠ some id := by
  intro hnames
  obtain ⟨x', hx', hactive, -⟩ := h.entries hnames
  exact hstate (Option.some.inj (hx.symm.trans hx') ▸ hactive)

theorem moves (h : WellFormed service) {id : String} {service' : InstallationService}
    (hmoves : Moves service service' id) : WellFormed service' := by
  obtain ⟨x, y, hx, hsame, hbefore, -, rfl⟩ := hmoves
  exact h.put_same hx hsame fun hnames =>
    absurd hnames (h.not_named hx fun hactive => by simp [hactive] at hbefore)

/-- **Every call keeps the service well formed.** -/
theorem serve (h : WellFormed service) {call : InstallationCall} (hfresh : Fresh service call) :
    WellFormed (serve service call).2 := by
  obtain ⟨now, operation⟩ := call
  cases operation with
  | request id tenant environment listing permissionsDigest =>
    rcases request_cases with hsame | ⟨y, hid, hstate, hprev, hput⟩
    · exact hsame.symm ▸ h
    · refine hput.symm ▸ h.put hid (fun x hx => ?_) (fun _ hp => ?_) (fun hnames => ?_)
      · cases hx.symm.trans hfresh
      · cases hprev.symm.trans hp
      · obtain ⟨x, hx, -⟩ := h.entries hnames
        cases hx.symm.trans hfresh
  | approve id reviewer permissionDiff =>
    rcases approve_cases with hsame | hmoves
    · exact hsame.symm ▸ h
    · exact h.moves hmoves
  | install id =>
    rcases install_cases with hsame | hmoves
    · exact hsame.symm ▸ h
    · exact h.moves hmoves
  | activate id certificate =>
    rcases activate_cases with ⟨hsame, -⟩ | ⟨x, y, ⟨hx, hallowed⟩, hid, hkey, hstate, hprev, heq⟩
    · exact hsame.symm ▸ h
    · have hinstalled : x.state ≠ .active := fun hactive =>
        hallowed (.inl (by simp [hactive]))
      have hput : WellFormed (service.put id y) := by
        refine h.put (hid.trans (h.ids hx)) (fun x' hx' => ?_) (fun previousId hp => ?_)
          (fun _ => hstate)
        · rw [hkey, Option.some.inj (hx.symm.trans hx')]
        · obtain ⟨z, hz, hactive, hzkey⟩ := h.entries (hprev.symm.trans hp)
          refine ⟨fun hself => hinstalled ?_, z, hz, hzkey.trans hkey.symm⟩
          subst hself
          rwa [Option.some.inj (hx.symm.trans hz)]
      refine heq.symm ▸ hput.point fun id' hid' => ?_
      obtain rfl := Option.some.inj hid'
      rw [h.ids hx]
      exact ⟨y, InstallationService.put_installations_self, hstate, hkey⟩
  | rollback id =>
    rcases rollback_cases (h.previous_ne id) with ⟨hsame, -⟩ |
      ⟨previousId, x, previous, y, z, hback, hy, hactive, hz, hrolled, heq⟩
    · exact hsame.symm ▸ h
    · obtain ⟨hne, previous', hprevious', hkey⟩ := h.previous hback.current hback.predecessor
      obtain rfl := Option.some.inj (hback.previous.symm.trans hprevious')
      have hpointed : WellFormed ((service.put previousId y).point x.key (some previousId)) := by
        refine (h.put_same hback.previous hy fun _ => hactive).point fun id' hid' => ?_
        obtain rfl := Option.some.inj hid'
        exact ⟨y, InstallationService.put_installations_self, hactive, hy.key.trans hkey⟩
      have hcurrent : ((service.put previousId y).point x.key (some previousId)).installations id =
          some x :=
        (InstallationService.put_installations_of_ne (Ne.symm hne)).trans hback.current
      refine heq.symm ▸ hpointed.put_same hcurrent hz fun hnames => ?_
      rw [InstallationService.point_active_self] at hnames
      exact absurd (Option.some.inj hnames) hne
  | revoke id runningTaskResponse =>
    rcases revoke_cases with ⟨hsame, -⟩ | ⟨x, y, -, hx, hy, -, heq⟩
    · exact hsame.symm ▸ h
    · have hpointed : WellFormed (service.point x.key none) := h.point fun _ hid => nomatch hid
      refine heq.symm ▸ hpointed.put_same hx hy fun hnames => ?_
      rw [InstallationService.point_active_self] at hnames
      exact nomatch hnames

end WellFormed

-- One active installation

def ActiveIn (service : InstallationService) (key : PackKey) (id : String) : Prop :=
  ∃ x, service.installations id = some x ∧ x.state = .active ∧ x.key = key

structure OneActive (service : InstallationService) : Prop where
  atMostOne : ∀ key id id', ActiveIn service key id → ActiveIn service key id' → id = id'
  entry : ∀ key id, service.active key = some id ↔ ActiveIn service key id
  answer : ∀ tenant environment packId,
    service.activeInstallation tenant environment packId = .error .notFound ∨
      ∃ x, service.activeInstallation tenant environment packId = .ok x ∧ x.state = .active

/-- What the call finds in the service does not lead it astray: an activation finds no entry, and a
revocation finds none or one that names the revoked installation. -/
def Undisturbed (service : InstallationService) (call : InstallationCall) : Prop :=
  match call.operation with
  | .activate id certificate =>
    ∀ x, Activates service id certificate x → service.active x.key = none
  | .revoke id runningTaskResponse =>
    runningTaskResponse ∈ ["PAUSE", "KILL", "ALLOW_TO_FINISH"] →
      ∀ x, service.installations id = some x →
        service.active x.key = none ∨ service.active x.key = some id
  | _ => True

theorem WellFormed.answer (h : WellFormed service) (tenant : TenantId)
    (environment packId : String) :
    service.activeInstallation tenant environment packId = .error .notFound ∨
      ∃ id x, service.activeInstallation tenant environment packId = .ok x ∧
        service.installations id = some x ∧ x.state = .active := by
  unfold InstallationService.activeInstallation
  cases hentry : service.active (tenant, environment, packId) with
  | none => exact .inl rfl
  | some id =>
    obtain ⟨x, hx, hstate, -⟩ := h.entries hentry
    exact .inr ⟨id, x, by simp [hx], hx, hstate⟩

theorem oneActive_iff (h : WellFormed service) :
    OneActive service ↔ ∀ key id, ActiveIn service key id → service.active key = some id := by
  refine ⟨fun hone key id => (hone.entry key id).mpr, fun hnone => ⟨?_, ?_, ?_⟩⟩
  · intro key id id' hid hid'
    exact Option.some.inj ((hnone key id hid).symm.trans (hnone key id' hid'))
  · intro key id
    exact ⟨h.entries, hnone key id⟩
  · intro tenant environment packId
    rcases h.answer tenant environment packId with hmissing | ⟨id, x, hanswer, -, hstate⟩
    · exact .inl hmissing
    · exact .inr ⟨x, hanswer, hstate⟩

theorem activeIn_put_of_ne {id id' : String} {y : Installation} {key : PackKey} (hne : id' ≠ id) :
    ActiveIn (service.put id y) key id' ↔ ActiveIn service key id' := by
  unfold ActiveIn
  rw [InstallationService.put_installations_of_ne hne]

theorem not_activeIn_put {id : String} {y : Installation} {key : PackKey}
    (hstate : y.state ≠ .active) : ¬ActiveIn (service.put id y) key id := by
  rintro ⟨x, hx, hactive, -⟩
  rw [InstallationService.put_installations_self] at hx
  exact hstate (Option.some.inj hx ▸ hactive)

theorem oneActive_put_of_not_active {id : String} {y : Installation}
    (hnone : ∀ key id', id' ≠ id → ActiveIn service key id' → service.active key = some id')
    (hstate : y.state ≠ .active) :
    ∀ key id', ActiveIn (service.put id y) key id' → (service.put id y).active key = some id' := by
  intro key id' hactive
  by_cases heq : id' = id
  · subst heq
    exact absurd hactive (not_activeIn_put hstate)
  · exact hnone key id' heq ((activeIn_put_of_ne heq).mp hactive)

theorem oneActive_activate_iff (h : WellFormed service) (hone : OneActive service) {id : String}
    {certificate : Option String} {now : DateTime} (hnext : WellFormed
      (activate service id certificate now).2) :
    OneActive (activate service id certificate now).2 ↔
      ∀ x, Activates service id certificate x → service.active x.key = none := by
  rcases activate_cases with ⟨hsame, hnever⟩ | ⟨x, y, hx, hid, hkey, hstate, -, heq⟩
  · rw [hsame]
    exact ⟨fun _ x hx => absurd hx (hnever x), fun _ => hone⟩
  · rw [oneActive_iff hnext, heq]
    have hfound : ∀ x', Activates service id certificate x' → x' = x := fun x' hx' =>
      Option.some.inj (hx'.1.symm.trans hx.1)
    constructor
    · intro hnone x' hx'
      rw [hfound x' hx']
      by_contra hentry
      obtain ⟨old, hold⟩ := Option.ne_none_iff_exists'.mp hentry
      obtain ⟨z, hz, hactive, hzkey⟩ := h.entries hold
      -- the installation that was named is another one, and is still active
      have hne : old ≠ id := by
        rintro rfl
        obtain rfl := Option.some.inj (hx.1.symm.trans hz)
        exact hx.2 (.inl (by simp [hactive]))
      have hnamed := hnone x.key old
        ⟨z, (InstallationService.put_installations_of_ne hne).trans hz, hactive, hzkey⟩
      rw [InstallationService.point_active_self, h.ids hx.1] at hnamed
      exact hne (Option.some.inj hnamed).symm
    · intro hfree key id' hactive
      rw [InstallationService.point_active]
      by_cases heq' : id' = id
      · subst heq'
        obtain ⟨y', hy', -, rfl⟩ := hactive
        obtain rfl : y = y' := by
          simpa using hy'
        rw [if_pos hkey, h.ids hx.1]
      · have hold := (oneActive_iff h).mp hone key id' ((activeIn_put_of_ne heq').mp hactive)
        have hother : key ≠ x.key := by
          rintro rfl
          cases (hfree x hx).symm.trans hold
        rw [if_neg hother]
        exact hold

theorem oneActive_rollback (h : WellFormed service) (hone : OneActive service) {id : String}
    {now : DateTime} (hnext : WellFormed (rollback service id now).2) :
    OneActive (rollback service id now).2 := by
  rcases rollback_cases (h.previous_ne id) with ⟨hsame, -⟩ |
    ⟨previousId, x, previous, y, z, hback, hy, hactive, hz, hrolled, heq⟩
  · rwa [hsame]
  · rw [oneActive_iff hnext, heq]
    obtain ⟨hne, previous', hprevious', hkey⟩ := h.previous hback.current hback.predecessor
    obtain rfl := Option.some.inj (hback.previous.symm.trans hprevious')
    have hnamed := (oneActive_iff h).mp hone
    refine oneActive_put_of_not_active (fun key id' hother hid' => ?_) (by simp [hrolled])
    by_cases heq' : id' = previousId
    · subst heq'
      obtain ⟨y', hy', -, rfl⟩ := hid'
      obtain rfl : y = y' := by
        simpa using hy'
      rw [hy.key, hkey, InstallationService.point_active_self]
    · have hold : service.active key = some id' :=
        hnamed key id' ((activeIn_put_of_ne heq').mp hid')
      -- the entry of the key named the installation that is rolled back
      have hdiffers : key ≠ x.key := by
        rintro rfl
        have hcurrent := hnamed x.key id ⟨x, hback.current, hback.active, rfl⟩
        exact hother (Option.some.inj (hold.symm.trans hcurrent))
      exact (InstallationService.point_active_of_ne hdiffers).trans hold

theorem oneActive_revoke_iff (h : WellFormed service) (hone : OneActive service) {id : String}
    {runningTaskResponse : String} {now : DateTime} (hnext : WellFormed
      (revoke service id runningTaskResponse now).2) :
    OneActive (revoke service id runningTaskResponse now).2 ↔
      (runningTaskResponse ∈ ["PAUSE", "KILL", "ALLOW_TO_FINISH"] →
        ∀ x, service.installations id = some x →
          service.active x.key = none ∨ service.active x.key = some id) := by
  rcases revoke_cases with ⟨hsame, hdenied⟩ | ⟨x, y, hresponse, hx, hy, hstate, heq⟩
  · rw [hsame]
    refine ⟨fun _ hresponse x hx => ?_, fun _ => hone⟩
    rcases hdenied with hdenied | hnone
    · exact absurd hresponse hdenied
    · cases hnone.symm.trans hx
  · rw [oneActive_iff hnext, heq]
    constructor
    · intro hnone _ x' hx'
      obtain rfl := Option.some.inj (hx.symm.trans hx')
      by_contra hentry
      obtain ⟨hsome, hother⟩ := not_or.mp hentry
      obtain ⟨old, hold⟩ := Option.ne_none_iff_exists'.mp hsome
      obtain ⟨z, hz, hactive, hzkey⟩ := h.entries hold
      have hne : old ≠ id := fun heq => hother (heq ▸ hold)
      have hnamed := hnone x.key old
        ⟨z, (InstallationService.put_installations_of_ne hne).trans hz, hactive, hzkey⟩
      rw [InstallationService.put_active, InstallationService.point_active_self] at hnamed
      exact nomatch hnamed
    · intro hentry
      refine oneActive_put_of_not_active (fun key id' hother hid' => ?_) (by simp [hstate])
      have hold : service.active key = some id' := (oneActive_iff h).mp hone key id' hid'
      have hdiffers : key ≠ x.key := by
        rintro rfl
        rcases hentry hresponse x hx with hnone | hself
        · cases hnone.symm.trans hold
        · exact hother (Option.some.inj (hold.symm.trans hself))
      exact (InstallationService.point_active_of_ne hdiffers).trans hold

theorem oneActive_moves (h : WellFormed service) (hone : OneActive service) {id : String}
    {service' : InstallationService} (hmoves : Moves service service' id) :
    OneActive service' := by
  rw [oneActive_iff (h.moves hmoves)]
  obtain ⟨x, y, -, -, -, hafter, rfl⟩ := hmoves
  refine oneActive_put_of_not_active
    (fun key id' _ hid' => (oneActive_iff h).mp hone key id' hid') ?_
  intro hactive
  simp [hactive] at hafter

/-- **A call keeps one active installation exactly if it is undisturbed.** -/
theorem oneActive_serve_iff (h : WellFormed service) (hone : OneActive service)
    {call : InstallationCall} (hfresh : Fresh service call) :
    OneActive (serve service call).2 ↔ Undisturbed service call := by
  have hnext := h.serve hfresh
  obtain ⟨now, operation⟩ := call
  cases operation with
  | request id tenant environment listing permissionsDigest =>
    refine iff_of_true ?_ trivial
    rcases request_cases with hsame | ⟨y, hid, hstate, hprev, hput⟩
    · exact hsame.symm ▸ hone
    · refine (oneActive_iff hnext).mpr (hput.symm ▸ ?_)
      exact oneActive_put_of_not_active
        (fun key id' _ hid' => (oneActive_iff h).mp hone key id' hid') (by simp [hstate])
  | approve id reviewer permissionDiff =>
    refine iff_of_true ?_ trivial
    rcases approve_cases with hsame | hmoves
    · exact hsame.symm ▸ hone
    · exact oneActive_moves h hone hmoves
  | install id =>
    refine iff_of_true ?_ trivial
    rcases install_cases with hsame | hmoves
    · exact hsame.symm ▸ hone
    · exact oneActive_moves h hone hmoves
  | activate id certificate => exact oneActive_activate_iff h hone hnext
  | rollback id => exact iff_of_true (oneActive_rollback h hone hnext) trivial
  | revoke id runningTaskResponse => exact oneActive_revoke_iff h hone hnext

theorem oneActive_empty : OneActive .empty where
  atMostOne := by
    rintro _ _ _ ⟨x, hx, -⟩ -
    exact nomatch hx
  entry key id := by
    constructor
    · intro hnames
      exact nomatch hnames
    · rintro ⟨x, hx, -⟩
      exact nomatch hx
  answer _ _ _ := .inl rfl

/-- **There is one active installation throughout a run exactly if every call is undisturbed.** -/
theorem one_active_iff (calls : List InstallationCall)
    (hfresh : Meets (fun _ => Fresh) (trace serve .empty calls)) :
    (∀ early, early <+: calls → OneActive (after serve .empty early)) ↔
      Meets (fun _ => Undisturbed) (trace serve .empty calls) :=
  Meets.throughout_iff (P := fun _ => OneActive) (I := fun _ => WellFormed) oneActive_empty
    .empty (fun _ _ _ h hok => h.serve hok) (fun _ _ _ h hone hok => oneActive_serve_iff h hone hok)
    hfresh

def sampleActivation (id version : String) : List InstallationCall :=
  [⟨0, .request id "tenant" "staging"
      { packId := "coding", version, packDigest := sampleHash 'a', revoked := false }
      (sampleHash 'b')⟩,
    ⟨1, .approve id "reviewer" ⟨∅, ∅, ∅, ∅, ∅, ∅⟩⟩, ⟨2, .install id⟩, ⟨3, .activate id none⟩]

def sampleUpgrade : List InstallationCall :=
  sampleActivation "first" "1.0.0" ++ sampleActivation "second" "1.1.0"

/-- One activation leaves one active installation. -/
theorem sampleActivation_one_active :
    OneActive (after serve .empty (sampleActivation "first" "1.0.0")) := by
  refine (one_active_iff _ (.of_forall (by decide))).mpr (.of_forall fun event hevent => ?_) _
    List.prefix_rfl
  simp only [sampleActivation, trace, List.mem_cons, List.not_mem_nil, or_false] at hevent
  rcases hevent with rfl | rfl | rfl | rfl
  · trivial
  · trivial
  · trivial
  · exact fun x _ => rfl

theorem sampleUpgrade_two_active :
    Meets (fun _ => Fresh) (trace serve .empty sampleUpgrade) ∧
      ActiveIn (after serve .empty sampleUpgrade) ("tenant", "staging", "coding") "first" ∧
      ActiveIn (after serve .empty sampleUpgrade) ("tenant", "staging", "coding") "second" ∧
      ¬OneActive (after serve .empty sampleUpgrade) := by
  have hfirst : ActiveIn (after serve .empty sampleUpgrade) ("tenant", "staging", "coding")
      "first" := ⟨_, rfl, rfl, rfl⟩
  have hsecond : ActiveIn (after serve .empty sampleUpgrade) ("tenant", "staging", "coding")
      "second" := ⟨_, rfl, rfl, rfl⟩
  refine ⟨.of_forall (by decide), hfirst, hsecond, fun hone => ?_⟩
  exact absurd (hone.atMostOne _ _ _ hfirst hsecond) (by decide)

-- Revoked installations

def RevokedIn (service : InstallationService) (id : String) : Prop :=
  ∃ x, service.installations id = some x ∧ x.state = .revoked

def StaysRevoked (service : InstallationService) (id : String) : Prop :=
  RevokedIn service id ∧ ∀ tenant environment packId x,
    service.activeInstallation tenant environment packId = .ok x → x.installationId ≠ id

def Spares (service : InstallationService) (call : InstallationCall) : Prop :=
  match call.operation with
  | .rollback id => ∀ previousId x previous,
      RollsBack service id previousId x previous → previous.state ≠ .revoked
  | _ => True

theorem WellFormed.staysRevoked (h : WellFormed service) {id : String}
    (hrevoked : RevokedIn service id) : StaysRevoked service id := by
  refine ⟨hrevoked, fun tenant environment packId x hanswer hid => ?_⟩
  rcases h.answer tenant environment packId with hmissing | ⟨id', x', hok, hx', hstate⟩
  · cases hmissing.symm.trans hanswer
  · obtain rfl := Except.ok.inj (hanswer.symm.trans hok)
    obtain ⟨z, hz, hzstate⟩ := hrevoked
    rw [← hid, h.ids hx', hx'] at hz
    obtain rfl := Option.some.inj hz
    cases hstate.symm.trans hzstate

theorem RevokedIn.put {id id' : String} {y : Installation} (h : RevokedIn service id)
    (hstate : id' = id → y.state = .revoked) : RevokedIn (service.put id' y) id := by
  obtain ⟨x, hx, hrevoked⟩ := h
  by_cases heq : id = id'
  · subst heq
    exact ⟨y, InstallationService.put_installations_self, hstate rfl⟩
  · exact ⟨x, (InstallationService.put_installations_of_ne heq).trans hx, hrevoked⟩

theorem RevokedIn.state {id : String} {x : Installation} (h : RevokedIn service id)
    (hx : service.installations id = some x) : x.state = .revoked := by
  obtain ⟨z, hz, hrevoked⟩ := h
  rwa [Option.some.inj (hx.symm.trans hz)]

theorem RevokedIn.moves {id id' : String} {service' : InstallationService}
    (h : RevokedIn service id) (hmoves : Moves service service' id') : RevokedIn service' id := by
  obtain ⟨x, y, hx, -, hbefore, -, rfl⟩ := hmoves
  refine h.put fun heq => ?_
  subst heq
  simp [h.state hx] at hbefore

/-- **A call that does not roll back to a revoked installation leaves it revoked.** -/
theorem RevokedIn.serve (h : WellFormed service) {id : String} (hrevoked : RevokedIn service id)
    {call : InstallationCall} (hfresh : Fresh service call) (hspares : Spares service call) :
    RevokedIn (serve service call).2 id := by
  obtain ⟨now, operation⟩ := call
  cases operation with
  | request id' tenant environment listing permissionsDigest =>
    rcases request_cases with hsame | ⟨y, -, -, -, hput⟩
    · exact hsame.symm ▸ hrevoked
    · refine hput.symm ▸ hrevoked.put fun heq => ?_
      obtain ⟨x, hx, -⟩ := hrevoked
      subst heq
      cases hx.symm.trans hfresh
  | approve id' reviewer permissionDiff =>
    rcases approve_cases with hsame | hmoves
    · exact hsame.symm ▸ hrevoked
    · exact hrevoked.moves hmoves
  | install id' =>
    rcases install_cases with hsame | hmoves
    · exact hsame.symm ▸ hrevoked
    · exact hrevoked.moves hmoves
  | activate id' certificate =>
    rcases activate_cases with ⟨hsame, -⟩ | ⟨x, y, ⟨hx, hallowed⟩, -, -, -, -, heq⟩
    · exact hsame.symm ▸ hrevoked
    · refine heq.symm ▸ RevokedIn.put hrevoked fun hself => ?_
      subst hself
      exact absurd (.inl (by simp [hrevoked.state hx])) hallowed
  | rollback id' =>
    rcases rollback_cases (h.previous_ne id') with ⟨hsame, -⟩ |
      ⟨previousId, x, previous, y, z, hback, -, -, -, -, heq⟩
    · exact hsame.symm ▸ hrevoked
    · have hold : RevokedIn (service.put previousId y) id := hrevoked.put fun hself => by
        subst hself
        exact absurd (hrevoked.state hback.previous) (hspares previousId x previous hback)
      refine heq.symm ▸ RevokedIn.put hold fun hself => ?_
      subst hself
      cases (hrevoked.state hback.current).symm.trans hback.active
  | revoke id' runningTaskResponse =>
    rcases revoke_cases with ⟨hsame, -⟩ | ⟨x, y, -, -, -, hstate, heq⟩
    · exact hsame.symm ▸ hrevoked
    · exact heq.symm ▸ RevokedIn.put hrevoked fun _ => hstate

theorem not_revokedIn_rollback (h : WellFormed service) {id previousId : String}
    {x previous : Installation} {now : DateTime}
    (hback : RollsBack service id previousId x previous) :
    ¬RevokedIn (rollback service id now).2 previousId := by
  rcases rollback_cases (h.previous_ne id) with ⟨-, hnever⟩ |
    ⟨previousId', x', previous', y, z, hback', -, hactive, -, hrolled, heq⟩
  · exact absurd hback (hnever previousId x previous)
  · obtain rfl := Option.some.inj (hback.current.symm.trans hback'.current)
    obtain rfl := Option.some.inj (hback.predecessor.symm.trans hback'.predecessor)
    have hne : previousId ≠ id := (h.previous hback.current hback.predecessor).1
    rintro ⟨w, hw, hstate⟩
    rw [heq, InstallationService.put_installations_of_ne hne,
      InstallationService.point_installations, InstallationService.put_installations_self] at hw
    obtain rfl := Option.some.inj hw
    cases hactive.symm.trans hstate

/-- **Revocation is final in a run exactly if no call rolls back to a revoked installation.** -/
theorem revocation_final_iff (calls : List InstallationCall)
    (hfresh : Meets (fun _ => Fresh) (trace serve .empty calls)) :
    (∀ early later, early <+: later → later <+: calls → ∀ id,
      RevokedIn (after serve .empty early) id → StaysRevoked (after serve .empty later) id) ↔
      Meets (fun _ => Spares) (trace serve .empty calls) := by
  constructor
  · intro hfinal before event rest hsplit
    obtain ⟨early, late, rfl, rfl, hevent⟩ := trace_split hsplit
    have hwell : WellFormed (after serve .empty early) := by
      rw [trace_append] at hfresh
      exact Meets.invariant (I := fun _ => WellFormed) .empty (fun _ _ _ h hok => h.serve hok)
        hfresh.left
    have hbefore : event.before = after serve .empty early := by rw [hevent]; rfl
    rw [hbefore]
    generalize event.call = call at hfinal hfresh ⊢
    obtain ⟨now, operation⟩ := call
    cases operation with
    | rollback id =>
      intro previousId x previous hback hrevoked
      have hstays := hfinal early (early ++ [⟨now, .rollback id⟩]) (List.prefix_append _ _)
        ⟨late, by simp⟩ previousId ⟨previous, hback.previous, hrevoked⟩
      rw [after_snoc] at hstays
      exact not_revokedIn_rollback hwell hback hstays.1
    | request | approve | install | activate | revoke => trivial
  · rintro hspares early later ⟨between, rfl⟩ ⟨late, rfl⟩ id hrevoked
    have hboth := hfresh.and hspares
    rw [trace_append, trace_append] at hboth
    have hwell : WellFormed (after serve .empty early) :=
      Meets.invariant (I := fun _ => WellFormed) .empty (fun _ _ _ h hok => h.serve hok.1)
        hboth.left.left
    have hkept := Meets.invariant
      (I := fun _ service => WellFormed service ∧ RevokedIn service id) ⟨hwell, hrevoked⟩
      (fun _ _ _ h hok => ⟨h.1.serve hok.1, h.2.serve h.1 hok.1 hok.2⟩) hboth.left.right
    rw [after_append]
    exact hkept.1.staysRevoked hkept.2

def sampleRevocation : List InstallationCall := sampleUpgrade ++ [⟨4, .revoke "first" "KILL"⟩]

/-- It stays so as long as nothing is rolled back. -/
theorem sampleRevocation_final : StaysRevoked (after serve .empty sampleRevocation) "first" := by
  have hfinal := (revocation_final_iff sampleRevocation (.of_forall (by decide))).mpr
    (.of_forall fun event hevent => ?_)
  · exact hfinal sampleRevocation sampleRevocation List.prefix_rfl List.prefix_rfl "first"
      ⟨_, rfl, rfl⟩
  · have hcall := call_mem hevent
    simp only [sampleRevocation, sampleUpgrade, sampleActivation, List.mem_append, List.mem_cons,
      List.not_mem_nil, or_false] at hcall
    unfold Spares
    rcases hcall with ((h | h | h | h) | h | h | h | h) | h <;> rw [h] <;> trivial

/-- A rollback of the other installation brings it back. -/
theorem sampleRevocation_undone :
    Meets (fun _ => Fresh)
        (trace serve .empty (sampleRevocation ++ [⟨5, .rollback "second"⟩])) ∧
      RevokedIn (after serve .empty sampleRevocation) "first" ∧
      ¬RevokedIn (after serve .empty (sampleRevocation ++ [⟨5, .rollback "second"⟩])) "first" ∧
      ∃ x, (after serve .empty
          (sampleRevocation ++ [⟨5, .rollback "second"⟩])).activeInstallation "tenant" "staging"
            "coding" = .ok x ∧ x.installationId = "first" := by
  refine ⟨.of_forall (by decide), ⟨_, rfl, rfl⟩, ?_, _, rfl, rfl⟩
  rintro ⟨x, hx, hstate⟩
  obtain rfl := Option.some.inj hx
  cases hstate

end AgentSphere.Packs
