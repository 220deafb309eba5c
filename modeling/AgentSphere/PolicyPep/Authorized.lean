import AgentSphere.ActionIr.Canonical
import AgentSphere.PolicyPep.Enforcement

/-!
# What stands behind an authorization

`enforce` answers with an authorization only after every local guard, the decision, the approval
and the obligations have been dealt with. The run is taken apart call by call; what each part
establishes is collected in `Passage`.
-/

namespace AgentSphere.PolicyPep

open Concurrency

section Calls

variable {α : Type} {entries : List PolicyEntry}

theorem of_ask {call : PolicyCall} {answer : call.Answer}
    (h : Resumes (ask call).run entries (.done (.ok answer))) : entries = [⟨call, answer⟩] := by
  cases h with
  | perform rest =>
    cases rest
    rfl

theorem of_port {call : PolicyCall} {read : call.Answer → Except PolicyError α} {a : α}
    (h : Resumes (port call read).run entries (.done (.ok a))) :
    ∃ answer, entries = [⟨call, answer⟩] ∧ read answer = .ok a := by
  obtain ⟨answer, first, rest, rfl, hfirst, h⟩ := h.of_attempt_bind
  refine ⟨answer, ?_, h.of_ofExcept⟩
  rw [of_ask hfirst, h.ofExcept_entries, List.append_nil]

def isKernel : PolicyCall → Bool
  | .verifyAndConsume .. => true
  | _ => false

end Calls

section Obligations

variable {Bytes : Type} {pep : PolicyEnforcementPoint Bytes} {request : EnforcementRequest}
  {entries : List PolicyEntry}

def Enforced (pep : PolicyEnforcementPoint Bytes) (request : EnforcementRequest)
    (entries : List PolicyEntry) (obligation : Obligation) (receipt : EnforcementReceipt) : Prop :=
  if isRuntime obligation then
    (⟨.handle obligation (PolicyEnforcementPoint.contextOf request), .ok receipt⟩ : PolicyEntry) ∈
      entries
  else
    unmet request obligation = none ∧
      receipt = pep.receipt (obligationName obligation)
        (PolicyEnforcementPoint.contextOf request)

theorem Enforced.mono {entries' : List PolicyEntry} {obligation : Obligation}
    {receipt : EnforcementReceipt} (h : Enforced pep request entries obligation receipt)
    (hsub : entries ⊆ entries') : Enforced pep request entries' obligation receipt := by
  unfold Enforced at h ⊢
  by_cases hruntime : isRuntime obligation = true
  · rw [if_pos hruntime] at h ⊢
    exact hsub h
  · rwa [if_neg hruntime] at h ⊢

theorem enforceObligation_ok {obligation : Obligation} {receipt : EnforcementReceipt}
    (h : Resumes (pep.enforceObligation request obligation).run entries (.done (.ok receipt))) :
    Enforced pep request entries obligation receipt ∧
      ∀ entry ∈ entries, isKernel entry.1 = false := by
  unfold PolicyEnforcementPoint.enforceObligation at h
  unfold Enforced
  by_cases hruntime : isRuntime obligation = true
  · rw [if_pos hruntime] at h ⊢
    obtain ⟨⟨⟩, first, rest, rfl, hfirst, h⟩ := h.of_attempt_bind
    obtain ⟨answer, rfl, hread⟩ := of_port h
    obtain rfl : answer = .ok receipt := hread
    obtain ⟨-, rfl⟩ := hfirst.of_ensure
    simp [isKernel]
  · rw [if_neg hruntime] at h ⊢
    cases hunmet : unmet request obligation with
    | some error =>
      rw [hunmet] at h
      cases h
    | none =>
      rw [hunmet] at h
      obtain rfl := h.of_pure
      obtain rfl := h.pure_entries
      simp

theorem enforceObligations_ok {obligations : List Obligation}
    {receipts : List EnforcementReceipt}
    (h : Resumes (pep.enforceObligations request obligations).run entries
      (.done (.ok receipts))) :
    List.Forall₂ (Enforced pep request entries) obligations receipts ∧
      ∀ entry ∈ entries, isKernel entry.1 = false := by
  induction obligations generalizing entries receipts with
  | nil =>
    obtain rfl := h.of_pure
    obtain rfl := h.pure_entries
    exact ⟨.nil, by simp⟩
  | cons obligation obligations ih =>
    obtain ⟨receipt, first, rest, rfl, hfirst, h⟩ := h.of_attempt_bind
    obtain ⟨later, second, rest, rfl, hsecond, h⟩ := h.of_attempt_bind
    obtain rfl := h.of_pure
    obtain rfl := h.pure_entries
    obtain ⟨hmet, hquiet⟩ := enforceObligation_ok hfirst
    obtain ⟨hlater, hquiet'⟩ := ih hsecond
    refine ⟨.cons (hmet.mono (by simp)) (hlater.imp fun _ _ h => h.mono (by simp)), ?_⟩
    intro entry hentry
    simp only [List.append_nil, List.mem_append] at hentry
    exact hentry.elim (hquiet entry) (hquiet' entry)

end Obligations

-- The authorization

structure Issuance {Bytes : Type} (pep : PolicyEnforcementPoint Bytes)
    (request : EnforcementRequest) (decision : PolicyDecision)
    (authorization : ExecutionAuthorization) where
  context : ExecutionAuthorizationContext
  idempotencyKey : String
  authorizationId : Uuid
  argumentsHash : String
  decisionDigest : String
  expiresAt : DateTime
  bound : ExecutionAuthorization
  context_eq : PolicyEnforcementPoint.authorizationContext request = .ok (context, idempotencyKey)
  expiry_eq : PolicyEnforcementPoint.expiryOf request = .ok expiresAt
  arguments_eq : pep.documentHash (.arguments request.action.arguments) .executionAuthInvalid =
    .ok argumentsHash
  decision_eq : pep.documentHash (.decision decision) .executionAuthInvalid = .ok decisionDigest
  bound_eq : (pep.draftAuthorization request decision context idempotencyKey
    authorizationId.toStr argumentsHash decisionDigest expiresAt).bindEvidence
      pep.authorizations = .ok bound
  signed_eq : bound.sign pep.authorizations = .ok authorization

section Issue

variable {Bytes : Type} {pep : PolicyEnforcementPoint Bytes} {request : EnforcementRequest}
  {decision : PolicyDecision} {authorization : ExecutionAuthorization}
  {entries : List PolicyEntry}

theorem issueExecutionAuthorization_ok
    (h : Resumes (pep.issueExecutionAuthorization request decision).run entries
      (.done (.ok authorization))) :
    ∃ issuance : Issuance pep request decision authorization,
      entries = [⟨.newUuid, issuance.authorizationId⟩] := by
  unfold PolicyEnforcementPoint.issueExecutionAuthorization at h
  obtain ⟨⟨context, key⟩, first, rest, rfl, hcontext, h⟩ := h.of_attempt_bind
  obtain ⟨expiresAt, second, rest, rfl, hexpiry, h⟩ := h.of_attempt_bind
  obtain ⟨authorizationId, third, rest, rfl, hid, h⟩ := h.of_attempt_bind
  obtain ⟨argumentsHash, fourth, rest, rfl, harguments, h⟩ := h.of_attempt_bind
  obtain ⟨decisionDigest, fifth, rest, rfl, hdecision, h⟩ := h.of_attempt_bind
  obtain ⟨bound, sixth, rest, rfl, hbound, h⟩ := h.of_attempt_bind
  refine ⟨⟨context, key, authorizationId, argumentsHash, decisionDigest, expiresAt, bound,
    hcontext.of_ofExcept, hexpiry.of_ofExcept, harguments.of_ofExcept, hdecision.of_ofExcept,
    except_mapError_eq_ok.mp hbound.of_ofExcept, except_mapError_eq_ok.mp h.of_ofExcept⟩, ?_⟩
  simp [hcontext.ofExcept_entries, hexpiry.ofExcept_entries, of_ask hid,
    harguments.ofExcept_entries, hdecision.ofExcept_entries, hbound.ofExcept_entries,
    h.ofExcept_entries]

def Issuance.draft (i : Issuance pep request decision authorization) : ExecutionAuthorization :=
  pep.draftAuthorization request decision i.context i.idempotencyKey i.authorizationId.toStr
    i.argumentsHash i.decisionDigest i.expiresAt

theorem Issuance.authorization_eq (i : Issuance pep request decision authorization) :
    ∃ evidence bytes, pep.authorizations.jcs i.draft = some evidence ∧
      pep.authorizations.jcs i.bound = some bytes ∧
      i.bound = { i.draft with
        authorizationEvidenceDigest := pep.authorizations.sha256Hex evidence
        authorizationEvidenceRef := ExecutionAuthorization.evidenceRefFor i.draft.tenantId
          i.draft.authorizationId (pep.authorizations.sha256Hex evidence) } ∧
      authorization = { i.bound with signature := pep.authorizations.sign bytes } := by
  obtain ⟨evidence, hevidence, hbound⟩ := ExecutionAuthorization.bindEvidence_eq_ok.mp i.bound_eq
  obtain ⟨bytes, hbytes, hsigned⟩ := ExecutionAuthorization.sign_eq_ok.mp i.signed_eq
  -- the draft has neither evidence nor a signature yet
  have hunsigned : { i.bound with signature := "" } = i.bound := by
    rw [hbound]
    rfl
  rw [hunsigned] at hbytes
  exact ⟨evidence, bytes, hevidence, hbytes, hbound, hsigned⟩

theorem Issuance.withoutEvidence_eq (i : Issuance pep request decision authorization) :
    authorization.withoutEvidence = i.draft := by
  obtain ⟨evidence, bytes, -, -, hbound, hsigned⟩ := i.authorization_eq
  have hsame := congrArg ExecutionAuthorization.withoutEvidence hsigned
  have hdraft := congrArg ExecutionAuthorization.withoutEvidence hbound
  exact hsame.trans hdraft

end Issue

-- A whole run

structure Passage {Bytes : Type} (pep : PolicyEnforcementPoint Bytes)
    (request : EnforcementRequest) (entries : List PolicyEntry) (decision : PolicyDecision)
    (authorization : ExecutionAuthorization) (receipts : List EnforcementReceipt) : Prop where
  stage : request.stage = .preExecution
  requestGuard : pep.requestGuard request = .ok ()
  notRevoked : (⟨.isRevoked request.action.tool request.tool.implementation.digest, some false⟩ :
    PolicyEntry) ∈ entries
  toolGuard : PolicyEnforcementPoint.toolGuard request = .ok ()
  decided : (⟨.evaluate request.policyInput request.stage, .ok decision⟩ : PolicyEntry) ∈ entries
  valid : ∃ inputHash, pep.policyInputHash request.policyInput = .ok inputHash ∧
    validatePolicyDecision decision inputHash request.now pep.activePolicyBundleDigest = .ok ()
  permitted : decision.decision = .allow ∨ decision.decision = .requireApproval
  approved : approvalRequired request.tool decision = true →
    ∃ grant, request.approval = some grant ∧
      (⟨.verifyAndConsume grant request decision.policyVersion, .ok ()⟩ : PolicyEntry) ∈ entries
  unapproved : approvalRequired request.tool decision = false →
    ∀ entry ∈ entries, isKernel entry.1 = false
  obligations : List.Forall₂ (Enforced pep request entries) decision.obligations receipts
  issuance : Nonempty (Issuance pep request decision authorization)

section Run

variable {Bytes : Type} {pep : PolicyEnforcementPoint Bytes} {request : EnforcementRequest}
  {entries : List PolicyEntry} {decision : PolicyDecision}
  {authorization : ExecutionAuthorization} {receipts : List EnforcementReceipt}

theorem localHardGuard_ok
    (h : Resumes (pep.localHardGuard request).run entries (.done (.ok ()))) :
    pep.requestGuard request = .ok () ∧ PolicyEnforcementPoint.toolGuard request = .ok () ∧
      (⟨.isRevoked request.action.tool request.tool.implementation.digest, some false⟩ :
        PolicyEntry) ∈ entries ∧
      ∀ entry ∈ entries, isKernel entry.1 = false := by
  unfold PolicyEnforcementPoint.localHardGuard at h
  obtain ⟨_, first, rest, rfl, hrequest, hafter⟩ := h.of_attempt_bind
  obtain ⟨_, second, rest, rfl, hrevoked, hafter⟩ := hafter.of_attempt_bind
  obtain ⟨_, third, rest, rfl, harguments, htool⟩ := hafter.of_attempt_bind
  obtain ⟨answer, hsecond, hanswer⟩ := of_port hrevoked
  obtain ⟨valid, hthird, -⟩ := of_port harguments
  have hfalse : answer = some false := by
    unfold PolicyEnforcementPoint.notRevoked at hanswer
    split at hanswer
    · rfl
    · cases hanswer
  refine ⟨hrequest.of_ofExcept, htool.of_ofExcept, by simp [hsecond, hfalse], ?_⟩
  rw [hrequest.ofExcept_entries, htool.ofExcept_entries, hsecond, hthird]
  simp [isKernel]

theorem consumeApproval_ok
    (h : Resumes (PolicyEnforcementPoint.consumeApproval request decision).run entries
      (.done (.ok ()))) :
    (approvalRequired request.tool decision = true →
      ∃ grant, request.approval = some grant ∧
        (⟨.verifyAndConsume grant request decision.policyVersion, .ok ()⟩ : PolicyEntry) ∈
          entries) ∧
    (approvalRequired request.tool decision = false → entries = []) := by
  unfold PolicyEnforcementPoint.consumeApproval at h
  by_cases hrequired : approvalRequired request.tool decision = true
  · rw [if_pos hrequired] at h
    refine ⟨fun _ => ?_, fun hnot => absurd hrequired (by simp [hnot])⟩
    cases hgrant : request.approval with
    | none =>
      rw [hgrant] at h
      cases h
    | some grant =>
      rw [hgrant] at h
      obtain ⟨answer, hentries, hanswer⟩ := of_port h
      have hok : answer = .ok () := hanswer
      exact ⟨grant, rfl, by simp [hentries, hok]⟩
  · rw [if_neg hrequired] at h
    exact ⟨fun hyes => absurd hyes hrequired, fun _ => h.pure_entries⟩

theorem enforceExecution_ok {decided : PolicyDecision}
    (h : Resumes (pep.enforceExecution request decided).run entries
      (.done (.ok (.executionAuthorized decision authorization receipts)))) :
    decided = decision ∧
    (approvalRequired request.tool decision = true →
      ∃ grant, request.approval = some grant ∧
        (⟨.verifyAndConsume grant request decision.policyVersion, .ok ()⟩ : PolicyEntry) ∈
          entries) ∧
    (approvalRequired request.tool decision = false →
      ∀ entry ∈ entries, isKernel entry.1 = false) ∧
    (decision.decision = .allow ∨ decision.decision = .requireApproval) ∧
    List.Forall₂ (Enforced pep request entries) decision.obligations receipts ∧
    Nonempty (Issuance pep request decision authorization) := by
  unfold PolicyEnforcementPoint.enforceExecution at h
  obtain ⟨_, first, rest, rfl, happroval, hrest⟩ := h.of_attempt_bind
  obtain ⟨_, second, rest, rfl, hallowed, hrest⟩ := hrest.of_attempt_bind
  obtain ⟨receipts', third, rest, rfl, hobligations, hrest⟩ := hrest.of_attempt_bind
  obtain ⟨authorization', fourth, rest, rfl, hissued, hlast⟩ := hrest.of_attempt_bind
  obtain ⟨rfl, rfl, rfl⟩ := EnforcementOutcome.executionAuthorized.inj hlast.of_pure
  obtain ⟨hyes, hno⟩ := consumeApproval_ok happroval
  obtain ⟨hpermitted, hsecond⟩ := hallowed.of_ensure
  obtain ⟨hmet, hquiet⟩ := enforceObligations_ok hobligations
  obtain ⟨issuance, hfourth⟩ := issueExecutionAuthorization_ok hissued
  refine ⟨rfl, fun hrequired => ?_, fun hnot => ?_, hpermitted,
    hmet.imp fun _ _ h => h.mono ?_, ⟨issuance⟩⟩
  · obtain ⟨grant, hgrant, hentry⟩ := hyes hrequired
    exact ⟨grant, hgrant, by simp [hentry]⟩
  · rw [hno hnot, hsecond, hfourth, hlast.pure_entries]
    intro entry hentry
    simp only [List.nil_append, List.append_nil, List.mem_append, List.mem_singleton] at hentry
    rcases hentry with hobligation | rfl
    · exact hquiet entry hobligation
    · rfl
  · intro entry hentry
    simp [hentry]

/-- **A run that ends with an authorization has passed every part of the enforcement.** -/
theorem enforce_passage
    (h : Resumes (pep.enforce request).run entries
      (.done (.ok (.executionAuthorized decision authorization receipts)))) :
    Passage pep request entries decision authorization receipts := by
  unfold PolicyEnforcementPoint.enforce at h
  obtain ⟨_, first, rest, rfl, hguard, hrest⟩ := h.of_attempt_bind
  obtain ⟨inputHash, second, rest, rfl, hinput, hrest⟩ := hrest.of_attempt_bind
  obtain ⟨decided, third, rest, rfl, hevaluate, hrest⟩ := hrest.of_attempt_bind
  obtain ⟨_, fourth, rest, rfl, hvalid, hlast⟩ := hrest.of_attempt_bind
  obtain ⟨hrequest, htool, hrevoked, hquiet⟩ := localHardGuard_ok hguard
  obtain ⟨answer, hthird, hanswer⟩ := of_port hevaluate
  have hdecided : answer = .ok decided := hanswer
  by_cases hdeny : decided.decision = .deny
  · rw [if_pos hdeny] at hlast
    cases hlast.of_pure
  rw [if_neg hdeny] at hlast
  unfold PolicyEnforcementPoint.enforceStage at hlast
  cases hstage : request.stage with
  | preApproval =>
    rw [hstage] at hlast
    dsimp only at hlast
    split at hlast
    · cases hlast.of_pure
    · obtain ⟨_, _, _, _, _, hend⟩ := hlast.of_attempt_bind
      cases hend.of_pure
  | continuous =>
    rw [hstage] at hlast
    obtain ⟨_, _, _, _, _, hend⟩ := hlast.of_attempt_bind
    split at hend
    all_goals cases hend
  | preExecution =>
    rw [hstage] at hlast
    obtain ⟨rfl, hyes, hno, hpermitted, hmet, hissuance⟩ := enforceExecution_ok hlast
    refine ⟨hstage, hrequest, by simp [hrevoked], htool, by simp [hthird, hdecided],
      ⟨inputHash, hinput.of_ofExcept, hvalid.of_ofExcept⟩, hpermitted, fun hrequired => ?_,
      fun hnot => ?_, hmet.imp fun _ _ h => h.mono ?_, hissuance⟩
    · obtain ⟨grant, hgrant, hentry⟩ := hyes hrequired
      exact ⟨grant, hgrant, by simp [hentry]⟩
    · rw [hinput.ofExcept_entries, hvalid.ofExcept_entries, hthird]
      intro entry hentry
      simp only [List.nil_append, List.mem_append, List.mem_singleton] at hentry
      rcases hentry with hfirst | rfl | hlater
      · exact hquiet entry hfirst
      · rfl
      · exact hno hnot entry hlater
    · intro entry hentry
      simp [hentry]

end Run

-- Limits

theorem le_foldl_min {l : List Nat} {a b : Nat} :
    b ≤ l.foldl min a ↔ b ≤ a ∧ ∀ x ∈ l, b ≤ x := by
  induction l generalizing a with
  | nil => simp
  | cons x l ih =>
    rw [List.foldl_cons, ih, Nat.le_min, List.forall_mem_cons, and_assoc]

theorem foldl_min_le {l : List Nat} {a b : Nat} :
    l.foldl min a ≤ b ↔ a ≤ b ∨ ∃ x ∈ l, x ≤ b := by
  induction l generalizing a with
  | nil => simp
  | cons x l ih =>
    rw [List.foldl_cons, ih, List.exists_mem_cons_iff, ← or_assoc]
    exact or_congr_left (by omega)

def executionLimit : Obligation → Option Nat
  | .maxExecutionTime milliseconds => some milliseconds
  | _ => none

def resultLimit : Obligation → Option Nat
  | .maxResultBytes bytes => some bytes
  | _ => none

theorem mem_executionLimits {obligations : List Obligation} {ms : Nat} :
    ms ∈ obligations.filterMap executionLimit ↔ .maxExecutionTime ms ∈ obligations := by
  rw [List.mem_filterMap]
  constructor
  · rintro ⟨obligation, hmem, hlimit⟩
    cases obligation <;> cases hlimit
    exact hmem
  · intro hmem
    exact ⟨_, hmem, rfl⟩

theorem mem_resultLimits {obligations : List Obligation} {bytes : Nat} :
    bytes ∈ obligations.filterMap resultLimit ↔ .maxResultBytes bytes ∈ obligations := by
  rw [List.mem_filterMap]
  constructor
  · rintro ⟨obligation, hmem, hlimit⟩
    cases obligation <;> cases hlimit
    exact hmem
  · intro hmem
    exact ⟨_, hmem, rfl⟩

theorem ObligationConfig.limit_foldl {limit? : Obligation → Option Nat}
    {limit : ObligationConfig → Nat}
    (hstep : ∀ config obligation,
      limit (config.apply obligation) =
        (limit? obligation).elim (limit config) (min (limit config)))
    (obligations : List Obligation) (config : ObligationConfig) :
    limit (obligations.foldl apply config) =
      (obligations.filterMap limit?).foldl min (limit config) := by
  induction obligations generalizing config with
  | nil => rfl
  | cons obligation obligations ih =>
    rw [List.foldl_cons, ih, hstep, List.filterMap_cons]
    cases limit? obligation with
    | none => rfl
    | some bound => rfl

theorem ObligationConfig.maxExecutionMs_eq (obligations : List Obligation)
    (tool : ResolvedToolSnapshot) :
    (fromObligations obligations tool).maxExecutionMs =
      (obligations.filterMap executionLimit).foldl min tool.limits.timeoutMs :=
  limit_foldl (fun config obligation => by cases obligation <;> rfl) obligations (ofTool tool)

theorem ObligationConfig.maxResultBytes_eq (obligations : List Obligation)
    (tool : ResolvedToolSnapshot) :
    (fromObligations obligations tool).maxResultBytes =
      (obligations.filterMap resultLimit).foldl min tool.limits.maxResultBytes :=
  limit_foldl (fun config obligation => by cases obligation <;> rfl) obligations (ofTool tool)

section Limits

variable {Bytes : Type} {pep : PolicyEnforcementPoint Bytes} {request : EnforcementRequest}
  {decision : PolicyDecision} {authorization : ExecutionAuthorization}

theorem Issuance.maxExecutionMs_eq (i : Issuance pep request decision authorization) :
    authorization.maxExecutionMs =
      (decision.obligations.filterMap executionLimit).foldl min request.tool.limits.timeoutMs := by
  have hlimit : authorization.maxExecutionMs = i.draft.maxExecutionMs :=
    congrArg (·.maxExecutionMs) i.withoutEvidence_eq
  have hle := (le_foldl_min (l := decision.obligations.filterMap executionLimit)
    (a := request.tool.limits.timeoutMs)).mp le_rfl
  rw [hlimit]
  show min (ObligationConfig.fromObligations decision.obligations request.tool).maxExecutionMs
    request.tool.limits.timeoutMs = _
  rw [ObligationConfig.maxExecutionMs_eq]
  exact Nat.min_eq_left hle.1

theorem Issuance.maxResultBytes_eq (i : Issuance pep request decision authorization) :
    authorization.maxResultBytes =
      (decision.obligations.filterMap resultLimit).foldl min
        request.tool.limits.maxResultBytes := by
  have hlimit : authorization.maxResultBytes = i.draft.maxResultBytes :=
    congrArg (·.maxResultBytes) i.withoutEvidence_eq
  have hle := (le_foldl_min (l := decision.obligations.filterMap resultLimit)
    (a := request.tool.limits.maxResultBytes)).mp le_rfl
  rw [hlimit]
  show min (ObligationConfig.fromObligations decision.obligations request.tool).maxResultBytes
    request.tool.limits.maxResultBytes = _
  rw [ObligationConfig.maxResultBytes_eq]
  exact Nat.min_eq_left hle.1

theorem Issuance.approvalIds_eq (i : Issuance pep request decision authorization) :
    authorization.approvalIds = request.approval.toList.map (·.approvalId) := by
  exact congrArg (·.approvalIds) i.withoutEvidence_eq

end Limits

-- What an authorization says

structure Guarded {Bytes : Type} (pep : PolicyEnforcementPoint Bytes)
    (request : EnforcementRequest) : Prop where
  context : request.executionContext.all PolicyEnforcementPoint.contextOk = true
  idempotencyKey : request.stage = .preExecution →
    request.idempotencyKey.any validIdempotencyKey = true
  actionHash : ActionIr.hash pep.canon request.action = .ok request.actionHash
  tenants : request.action.environment.tenantId = request.action.agent.tenantId ∧
    request.action.resource.tenantId = request.action.environment.tenantId

theorem guarded_of_ok {Bytes : Type} {pep : PolicyEnforcementPoint Bytes}
    {request : EnforcementRequest} (h : pep.requestGuard request = .ok ()) :
    Guarded pep request := by
  simp only [PolicyEnforcementPoint.requestGuard, except_bind_eq_ok, require_eq_ok,
    except_mapError_eq_ok] at h
  obtain ⟨-, -, -, hcontext, -, hkey, hash, hhash, -, rfl, -, htenants, -⟩ := h
  exact ⟨hcontext, hkey, hhash, htenants⟩

def Passed (request : EnforcementRequest) (entries : List PolicyEntry)
    (grant : MinimalApprovalGrant) : Prop :=
  ∃ policyVersion, (⟨.verifyAndConsume grant request policyVersion, .ok ()⟩ : PolicyEntry) ∈
      entries ∧
    ∃ used, (MinimalApprovalKernel.verifyAndConsume used grant request policyVersion).1 = .ok ()

structure Justified {Bytes : Type} (pep : PolicyEnforcementPoint Bytes)
    (request : EnforcementRequest) (entries : List PolicyEntry) (decision : PolicyDecision)
    (authorization : ExecutionAuthorization) (receipts : List EnforcementReceipt) : Prop where
  stage : request.stage = .preExecution
  actionHash : ActionIr.hash pep.canon request.action = .ok request.actionHash
  tenants : request.action.environment.tenantId = request.action.agent.tenantId ∧
    request.action.resource.tenantId = request.action.environment.tenantId
  notRevoked : (⟨.isRevoked request.action.tool request.tool.implementation.digest, some false⟩ :
    PolicyEntry) ∈ entries
  decided : (⟨.evaluate request.policyInput request.stage, .ok decision⟩ : PolicyEntry) ∈ entries
  permitted : decision.decision = .allow ∨ decision.decision = .requireApproval
  inputHash : pep.policyInputHash request.policyInput = .ok decision.inputHash
  bundle : decision.policyBundleHash = pep.activePolicyBundleDigest
  window : decision.evaluatedAt ≤ request.now ∧ request.now < decision.expiresAt
  obligations : List.Forall₂ (Enforced pep request entries) decision.obligations receipts
  executionTime : authorization.maxExecutionMs ≤ request.tool.limits.timeoutMs ∧
    ∀ ms, .maxExecutionTime ms ∈ decision.obligations → authorization.maxExecutionMs ≤ ms
  resultBytes : authorization.maxResultBytes ≤ request.tool.limits.maxResultBytes ∧
    ∀ bytes, .maxResultBytes bytes ∈ decision.obligations → authorization.maxResultBytes ≤ bytes
  approvals : ∀ id ∈ authorization.approvalIds,
    ∃ grant, grant.approvalId = id ∧ Passed request entries grant

section Justification

variable {Bytes : Type} {pep : PolicyEnforcementPoint Bytes} {request : EnforcementRequest}
  {entries : List PolicyEntry} {decision : PolicyDecision}
  {authorization : ExecutionAuthorization} {receipts : List EnforcementReceipt}

theorem Passage.approvals_iff (h : Passage pep request entries decision authorization receipts)
    (hserved : ∀ entry ∈ entries, Served entry) :
    (∀ id ∈ authorization.approvalIds,
      ∃ grant, grant.approvalId = id ∧ Passed request entries grant) ↔
    (request.approval = none ∨ approvalRequired request.tool decision = true) := by
  obtain ⟨issuance⟩ := h.issuance
  rw [issuance.approvalIds_eq]
  cases hrequired : approvalRequired request.tool decision with
  | true =>
    obtain ⟨grant, hgrant, hentry⟩ := h.approved hrequired
    obtain ⟨used, hused⟩ := hserved _ hentry
    simp only [hgrant, Option.toList_some, List.map_cons, List.map_nil, List.mem_singleton,
      forall_eq, or_true, iff_true]
    exact ⟨grant, rfl, decision.policyVersion, hentry, used, hused.symm⟩
  | false =>
    cases hgrant : request.approval with
    | none => simp
    | some grant =>
      simp only [Option.toList_some, List.map_cons, List.map_nil, List.mem_singleton, forall_eq,
        reduceCtorEq, Bool.false_eq_true, or_self, iff_false]
      rintro ⟨other, -, policyVersion, hentry, -⟩
      exact absurd (h.unapproved hrequired _ hentry) (by simp [isKernel])

/-- **An authorization is justified in all it says exactly if it names no approval or one was
required**: an approval that is not required is named without having passed the kernel. -/
theorem authorization_justified_iff (hserved : ∀ entry ∈ entries, Served entry)
    (hrun : Resumes (pep.enforce request).run entries
      (.done (.ok (.executionAuthorized decision authorization receipts)))) :
    Justified pep request entries decision authorization receipts ↔
      (request.approval = none ∨ approvalRequired request.tool decision = true) := by
  have h := enforce_passage hrun
  rw [← h.approvals_iff hserved]
  constructor
  · intro hjustified
    exact hjustified.approvals
  · intro happrovals
    have hguarded := guarded_of_ok h.requestGuard
    obtain ⟨inputHash, hinput, hvalid⟩ := h.valid
    obtain ⟨-, rfl, hfrom, huntil, hbundle⟩ := require_eq_ok.mp hvalid
    obtain ⟨issuance⟩ := h.issuance
    have htime := le_foldl_min.mp issuance.maxExecutionMs_eq.le
    have hbytes := le_foldl_min.mp issuance.maxResultBytes_eq.le
    exact
      { stage := h.stage
        actionHash := hguarded.actionHash
        tenants := hguarded.tenants
        notRevoked := h.notRevoked
        decided := h.decided
        permitted := h.permitted
        inputHash := hinput
        bundle := hbundle
        window := ⟨hfrom, huntil⟩
        obligations := h.obligations
        executionTime := ⟨htime.1, fun ms hms => htime.2 ms (mem_executionLimits.mpr hms)⟩
        resultBytes := ⟨hbytes.1, fun bytes hb => hbytes.2 bytes (mem_resultLimits.mpr hb)⟩
        approvals := happrovals }

end Justification

-- A sample request

def sampleCanon : ActionIr.Canon String String where
  nfc := id
  parseUrl _ := none
  rfc3339 _ := "1970-01-01T00:00:00Z"
  jcs _ := some "action"
  sha256Hex bytes := if bytes = "action" then sampleHash 'a' else sampleHash 'd'

def samplePep : PolicyEnforcementPoint String where
  issuer := "pep"
  keyId := "key-1"
  activePolicyBundleDigest := sampleHash 'b'
  hasRuntimeHandler := false
  canon := sampleCanon
  authorizations :=
    { jcs := fun _ => some "authorization", sha256Hex := fun _ => sampleHash 'e'
      sign := fun _ => "signature", verifies := fun _ signature => signature = "signature" }
  jcs document :=
    match document with
    | .policyInput _ => some "input"
    | .decision _ => some "decision"
    | .arguments _ => some "arguments"
  asBytes := id

def sampleTool : ResolvedToolSnapshot where
  schemaVersion := "agenttrust.registry.v1"
  toolId := "coding.repo-read"
  toolVersion := "1.0.0"
  schemaHash := sampleHash '3'
  manifestHash := sampleHash '4'
  effectClass := .pure
  riskLevel := .low
  executorProfile := "local"
  credentialProfile := "none"
  approvalProfile := "none"
  compensation := none
  limits := { timeoutMs := 5000, maxResultBytes := 4096 }
  networkProfileRef := "none"
  filesystemProfileRef := "repo-ro"
  implementation :=
    { kind := .internalService, digest := "sha256:" ++ sampleHash '5', executorId := "reader" }
  registryRevision := 1
  resolvedAt := 0
  snapshotHash := sampleHash '6'
  inputSchema := .object [("type", .string "object")]
  outputSchema := .object [("type", .string "object")]

def sampleAction : CanonicalAction :=
  ActionIr.canonicalAction ActionIr.samplePlain "org/repository"

def sampleInput : PolicyInput where
  subject := sampleAction.agent
  intent := sampleAction.intent
  tool := sampleTool.policySnapshot
  arguments := sampleAction.arguments
  resource := sampleAction.resource
  environment := sampleAction.environment
  currentStateVersion := none
  executionPlanHash := none
  dataClassification := .internal
  trajectoryRisk := { version := "1", accumulatedResources := [], anomalyScoreMillionths := 0 }
  registrySnapshotHash := sampleHash '6'
  runtime := { identitySubject := "user:1", priorApprovals := [], budgetRemainingMicrounits := 1 }

def sampleRequest (approval : Option MinimalApprovalGrant) : EnforcementRequest where
  stage := .preExecution
  action := sampleAction
  actionHash := sampleHash 'a'
  tool := sampleTool
  policyInput := sampleInput
  approval := approval
  idempotencyKey := some "task:1"
  executionContext := some
    { ledgerExecutionId := (sampleUuid 6).toStr, ledgerEventId := (sampleUuid 7).toStr
      ledgerEventDigest := sampleHash '9', fenceDigest := sampleHash 'f'
      targetProfile := "repo-primary", preapprovalDigest := sampleHash '7'
      approvalConsumptionRef := approval.map fun _ => "approval://consumption/1"
      approvalReceiptDigest := approval.map fun _ => sampleHash '8'
      workloadCredentialId := (sampleUuid 8).toStr
      workloadCredentialClaimsDigest := sampleHash 'c'
      workloadCredentialAudience := "tool-proxy", workloadCredentialRevocationEpoch := 0 }
  identityUsesDevVerifier := false
  resourceStateFresh := true
  now := 1000

def sampleDecision (obligations : List Obligation) : PolicyDecision where
  schemaVersion := policySchemaVersion
  decisionId := "decision-1"
  decision := .allow
  reasonCodes := ["ALLOW"]
  policyVersion := "p1"
  policyBundleHash := sampleHash 'b'
  inputHash := sampleHash 'd'
  evaluatedAt := 0
  expiresAt := 60000000000
  obligations := obligations
  riskSummary := .low

def sampleStaleGrant : MinimalApprovalGrant where
  schemaVersion := "agenttrust.contracts.v1"
  approvalId := (sampleUuid 9).toStr
  taskId := (sampleUuid 10).toStr
  stepId := (sampleUuid 11).toStr
  actionHash := sampleHash '0'
  resourceVersion := "v0"
  policyVersion := "p0"
  approverSubject := "user:2"
  approverRoles := []
  expiresAt := 0
  singleUse := true

def sampleOracle (obligations : List Obligation) : (call : PolicyCall) → call.Answer
  | .isRevoked .. => some false
  | .validateArguments .. => true
  | .evaluate .. => .ok (sampleDecision obligations)
  | .verifyAndConsume grant request policyVersion =>
    (MinimalApprovalKernel.verifyAndConsume ∅ grant request policyVersion).1
  | .handle .. => .error .obligationFailed
  | .newUuid => sampleUuid 12

def authorized : Except PolicyError EnforcementOutcome →
    Option (PolicyDecision × ExecutionAuthorization)
  | .ok (.executionAuthorized decision authorization _) => some (decision, authorization)
  | _ => none

def sampleAuthorized (approval : Option MinimalApprovalGrant) (obligations : List Obligation) :
    Option (PolicyDecision × ExecutionAuthorization) :=
  authorized ((samplePep.enforce (sampleRequest approval)).run.answered (sampleOracle obligations))

theorem sampleAuthorized_runs {approval : Option MinimalApprovalGrant}
    {obligations : List Obligation} {decision : PolicyDecision}
    {authorization : ExecutionAuthorization}
    (h : sampleAuthorized approval obligations = some (decision, authorization)) :
    ∃ (entries : List PolicyEntry) (receipts : List EnforcementReceipt),
      (∀ entry ∈ entries, Served entry) ∧
      Resumes (samplePep.enforce (sampleRequest approval)).run entries
        (.done (.ok (.executionAuthorized decision authorization receipts))) := by
  obtain ⟨entries, horacle, hresumes⟩ := resumes_answered (sampleOracle obligations)
    (samplePep.enforce (sampleRequest approval)).run
  unfold sampleAuthorized at h
  unfold authorized at h
  split at h
  · rename_i receipts hresult
    obtain ⟨rfl, rfl⟩ := Prod.mk.inj (Option.some.inj h)
    rw [hresult] at hresumes
    refine ⟨entries, receipts, fun entry hentry => ?_, hresumes⟩
    have hanswer := horacle entry hentry
    obtain ⟨call, answer⟩ := entry
    cases call with
    | verifyAndConsume grant request policyVersion => exact ⟨∅, hanswer⟩
    | _ => trivial
  · cases h

/-- Without an approval there is none to justify. -/
theorem authorization_justified_iff_plain :
    ∃ entries decision authorization receipts,
      Resumes (samplePep.enforce (sampleRequest none)).run entries
        (.done (.ok (.executionAuthorized decision authorization receipts))) ∧
      (Justified samplePep (sampleRequest none) entries decision authorization receipts ↔
        ((sampleRequest none).approval = none ∨ approvalRequired sampleTool decision = true)) ∧
      Justified samplePep (sampleRequest none) entries decision authorization receipts := by
  have hissued : (sampleAuthorized none []).isSome = true := by decide +kernel
  obtain ⟨⟨decision, authorization⟩, h⟩ := Option.isSome_iff_exists.mp hissued
  obtain ⟨entries, receipts, hserved, hrun⟩ := sampleAuthorized_runs h
  have hiff := authorization_justified_iff hserved hrun
  exact ⟨entries, decision, authorization, receipts, hrun, hiff, hiff.mpr (.inl rfl)⟩

/-- An allowed request that asks for no approval but comes with a stale one: the authorization
names it, though it never passed the kernel. -/
theorem unrequired_approval_named :
    ∃ entries decision authorization receipts,
      (∀ entry ∈ entries, Served entry) ∧
      Resumes (samplePep.enforce (sampleRequest (some sampleStaleGrant))).run entries
        (.done (.ok (.executionAuthorized decision authorization receipts))) ∧
      ¬ Justified samplePep (sampleRequest (some sampleStaleGrant)) entries decision authorization
        receipts := by
  have hissued : (sampleAuthorized (some sampleStaleGrant) []).any (fun (decision, _) =>
      !approvalRequired sampleTool decision) = true := by
    decide +kernel
  obtain ⟨⟨decision, authorization⟩, h, hrequired⟩ := (Option.any_eq_true _ _).mp hissued
  obtain ⟨entries, receipts, hserved, hrun⟩ := sampleAuthorized_runs h
  refine ⟨entries, decision, authorization, receipts, hserved, hrun, fun hjustified => ?_⟩
  rcases ((enforce_passage hrun).approvals_iff hserved).mp hjustified.approvals with hnone | hyes
  · cases hnone
  · have htool : (sampleRequest (some sampleStaleGrant)).tool = sampleTool := rfl
    rw [htool] at hyes
    simp [hyes] at hrequired

end AgentSphere.PolicyPep
