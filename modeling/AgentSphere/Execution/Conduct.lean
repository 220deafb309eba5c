import AgentSphere.Execution.Coordinator
import AgentSphere.Lib.Ports

/-!
# What one execution does

The calls of an execution that matter to others, its writes to the ledger, its call to the tool
proxy and its calls for evidence, follow one of a few courses. `MayCall` says after which
history a call is made, `Course` which courses end an execution, and `Reported` where a returned
outcome comes from. Nothing is assumed about the answers.
-/

namespace AgentSphere.Execution

open Concurrency Ledger

def isEffect : ExecutionCall → Bool
  | .toolExecute .. | .appendEvidence _ | .verifyEvidence _ => true
  | .ledger (.reserve _) | .ledger (.markStarted ..) | .ledger (.markSucceeded ..)
  | .ledger (.markFailed ..) | .ledger (.markUnknown ..) | .ledger (.markManualRecovery ..) => true
  | _ => false

def effects (entries : List ExecutionEntry) : List ExecutionEntry :=
  entries.filter fun entry => isEffect entry.1

@[simp] theorem effects_nil : effects [] = [] := rfl

theorem effects_cons (entry : ExecutionEntry) (entries : List ExecutionEntry) :
    effects (entry :: entries) =
      if isEffect entry.1 = true then entry :: effects entries else effects entries := by
  simp [effects, List.filter_cons]

theorem effects_append (entries entries' : List ExecutionEntry) :
    effects (entries ++ entries') = effects entries ++ effects entries' :=
  List.filter_append ..

theorem effects_snoc (entries : List ExecutionEntry) {call : ExecutionCall} (answer : call.Answer)
    (h : isEffect call = true) : effects (entries ++ [⟨call, answer⟩]) =
      effects entries ++ [⟨call, answer⟩] := by
  simp [effects, h]

theorem effects_snoc_other (entries : List ExecutionEntry) {call : ExecutionCall}
    (answer : call.Answer) (h : isEffect call = false) :
    effects (entries ++ [⟨call, answer⟩]) = effects entries := by
  simp [effects, h]

theorem mem_effects {entries : List ExecutionEntry} {entry : ExecutionEntry}
    (hmem : entry ∈ entries) (h : isEffect entry.1 = true) : entry ∈ effects entries :=
  List.mem_filter.mpr ⟨hmem, h⟩

-- The effects of an execution

abbrev reservedEntry (reserved : Reserved) : ExecutionEntry :=
  ⟨.ledger (.reserve reserved.intent), .ok reserved.reservation⟩

abbrev startedEntry (reserved : Reserved) : ExecutionEntry :=
  ⟨.ledger (.markStarted reserved.fence none), .ok ()⟩

abbrev toolCall (reserved : Reserved) (ledgerEvent : LedgerEventFact)
    (authorized : PreExecutionAuthorization) : ExecutionCall :=
  .toolExecute (ExecutionCoordinator.toolRequestFor reserved ledgerEvent authorized)
    reserved.request.idempotencyKey reserved.fenceDigest

abbrev toolEntry (reserved : Reserved) (ledgerEvent : LedgerEventFact)
    (authorized : PreExecutionAuthorization) (answer : Except ExecutionError SanitizedToolResult) :
    ExecutionEntry :=
  ⟨toolCall reserved ledgerEvent authorized, answer⟩

structure PreparedBy (coordinator : ExecutionCoordinator) (prepared : Prepared)
    (entries : List ExecutionEntry) : Prop where
  materialized : ⟨.materialize prepared.request, .ok prepared.materialized⟩ ∈ entries
  resolved : ⟨.resolve prepared.request.tenantId prepared.materialized.action.tool,
    .ok prepared.tool⟩ ∈ entries
  preapproved : ⟨.preapprove prepared.preapprovalRequest, .ok prepared.preapproval⟩ ∈ entries
  accepted : ∃ now, ⟨.utcNow, now⟩ ∈ entries ∧
    validatePreapproval coordinator.codec prepared.preapproval prepared.preapprovalRequest
      prepared.materialized prepared.tool now = .ok ()
  approved : prepared.preapproval.signedOutcome.approvalRequired = true →
    ∃ request receipt grant, ⟨.verifyApproval request receipt, .ok grant⟩ ∈ entries ∧
      prepared.approval.grant = some grant
  compensable : prepared.tool.effectClass = .compensatable →
    compensationValid prepared.preapproval.compensationPlan prepared.materialized.actionHash = true
  intent : intentFor coordinator.codec prepared.request prepared.materialized prepared.tool
    prepared.preapproval.compensationPlan = .ok prepared.intent

theorem PreparedBy.mono {coordinator : ExecutionCoordinator} {prepared : Prepared}
    {entries entries' : List ExecutionEntry} (h : PreparedBy coordinator prepared entries)
    (hsub : entries ⊆ entries') : PreparedBy coordinator prepared entries' where
  materialized := hsub h.materialized
  resolved := hsub h.resolved
  preapproved := hsub h.preapproved
  accepted := by
    obtain ⟨now, hnow, hvalid⟩ := h.accepted
    exact ⟨now, hsub hnow, hvalid⟩
  approved hrequired := by
    obtain ⟨request, receipt, grant, hmem, hgrant⟩ := h.approved hrequired
    exact ⟨request, receipt, grant, hsub hmem, hgrant⟩
  compensable := h.compensable
  intent := h.intent

structure ReservedBy (coordinator : ExecutionCoordinator) (reserved : Reserved)
    (entries : List ExecutionEntry) : Prop where
  prepared : PreparedBy coordinator reserved.toPrepared entries
  fenced : coordinator.codec.digest (.fence reserved.fence) = .ok reserved.fenceDigest

theorem ReservedBy.mono {coordinator : ExecutionCoordinator} {reserved : Reserved}
    {entries entries' : List ExecutionEntry} (h : ReservedBy coordinator reserved entries)
    (hsub : entries ⊆ entries') : ReservedBy coordinator reserved entries' :=
  ⟨h.prepared.mono hsub, h.fenced⟩

def AuthorizedBy (coordinator : ExecutionCoordinator) (reserved : Reserved)
    (ledgerEvent : LedgerEventFact) (authorized : PreExecutionAuthorization)
    (entries : List ExecutionEntry) : Prop :=
  ∃ policyInput requestedAt,
    ⟨.authorize (ExecutionCoordinator.finalRequestFor reserved policyInput ledgerEvent requestedAt),
      .ok authorized⟩ ∈ entries ∧
    validateAuthorization coordinator.codec authorized
      (ExecutionCoordinator.finalRequestFor reserved policyInput ledgerEvent requestedAt)
      reserved.materialized reserved.tool = .ok ()

/-- The tool proxy may be called: everything was checked, the record was started, and the
release was still active right after that. -/
structure Licensed (coordinator : ExecutionCoordinator) (reserved : Reserved)
    (ledgerEvent : LedgerEventFact) (authorized : PreExecutionAuthorization)
    (entries : List ExecutionEntry) : Prop where
  checked : ReservedBy coordinator reserved entries
  authorized : AuthorizedBy coordinator reserved ledgerEvent authorized entries
  effects : effects entries = [reservedEntry reserved, startedEntry reserved]
  active : ∃ before, entries = before ++ [startedEntry reserved, ⟨.requireActive, true⟩]

/-- The effects after which an execution fails its record: it was not started, or the release
was no longer active then, or the tool proxy denied. -/
inductive Failing (reserved : Reserved) : List ExecutionEntry → Prop where
  | reserved : Failing reserved [reservedEntry reserved]
  | started : Failing reserved [reservedEntry reserved, startedEntry reserved]
  | denied (ledgerEvent : LedgerEventFact) (authorized : PreExecutionAuthorization) :
      Failing reserved [reservedEntry reserved, startedEntry reserved,
        toolEntry reserved ledgerEvent authorized (.error .authorizationDenied)]

/-- The effects after which an execution does not know the outcome: the tool proxy gave no
answer, its result was not valid, or the evidence was not recorded, valid and verified. -/
inductive Uncertain (reserved : Reserved) : List ExecutionEntry → Prop where
  | unanswered (ledgerEvent : LedgerEventFact) (authorized : PreExecutionAuthorization)
      (e : ExecutionError) (notDenied : e ≠ .authorizationDenied) :
      Uncertain reserved [reservedEntry reserved, startedEntry reserved,
        toolEntry reserved ledgerEvent authorized (.error e)]
  | invalid (ledgerEvent : LedgerEventFact) (authorized : PreExecutionAuthorization)
      (result : SanitizedToolResult) :
      Uncertain reserved [reservedEntry reserved, startedEntry reserved,
        toolEntry reserved ledgerEvent authorized (.ok result)]
  | unrecorded (ledgerEvent : LedgerEventFact) (authorized : PreExecutionAuthorization)
      (result : SanitizedToolResult) (request : ExecutionEvidenceRequest) (e : ExecutionError) :
      Uncertain reserved [reservedEntry reserved, startedEntry reserved,
        toolEntry reserved ledgerEvent authorized (.ok result),
        ⟨.appendEvidence request, .error e⟩]
  | unproven (ledgerEvent : LedgerEventFact) (authorized : PreExecutionAuthorization)
      (result : SanitizedToolResult) (request : ExecutionEvidenceRequest)
      (evidence : ExecutionEvidenceReceipt) :
      Uncertain reserved [reservedEntry reserved, startedEntry reserved,
        toolEntry reserved ledgerEvent authorized (.ok result),
        ⟨.appendEvidence request, .ok evidence⟩]
  | unverified (ledgerEvent : LedgerEventFact) (authorized : PreExecutionAuthorization)
      (result : SanitizedToolResult) (request : ExecutionEvidenceRequest)
      (evidence : ExecutionEvidenceReceipt) (e : ExecutionError) :
      Uncertain reserved [reservedEntry reserved, startedEntry reserved,
        toolEntry reserved ledgerEvent authorized (.ok result),
        ⟨.appendEvidence request, .ok evidence⟩, ⟨.verifyEvidence evidence, .error e⟩]

def MayCall (coordinator : ExecutionCoordinator) (entries : List ExecutionEntry) :
    ExecutionCall → Prop
  | .toolExecute request idempotencyKey fenceDigest =>
    ∃ reserved ledgerEvent authorized,
      Licensed coordinator reserved ledgerEvent authorized entries ∧
      .toolExecute request idempotencyKey fenceDigest = toolCall reserved ledgerEvent authorized
  | .ledger (.reserve _) => effects entries = []
  | .ledger (.markStarted fence _) =>
    ∃ reserved, effects entries = [reservedEntry reserved] ∧ fence = reserved.fence
  | .ledger (.markFailed fence _) =>
    ∃ reserved, fence = reserved.fence ∧ Failing reserved (effects entries)
  | .ledger (.markManualRecovery ..) | .ledger (.staleNonTerminal ..) => False
  | _ => True

inductive Course (coordinator : ExecutionCoordinator) : List ExecutionEntry → Prop where
  | unreserved : Course coordinator []
  | refused (intent : ExecutionIntent) (e : LedgerError) :
      Course coordinator [⟨.ledger (.reserve intent), .error e⟩]
  | left (reserved : Reserved) : Course coordinator [reservedEntry reserved]
  | outrun (reserved : Reserved) (e : LedgerError) :
      Course coordinator [reservedEntry reserved,
        ⟨.ledger (.markStarted reserved.fence none), .error e⟩]
  | failed {reserved : Reserved} {before : List ExecutionEntry} (failing : Failing reserved before)
      (code : String) (answer : Except LedgerError Unit) :
      Course coordinator (before ++ [⟨.ledger (.markFailed reserved.fence code), answer⟩])
  | unknown {reserved : Reserved} {before : List ExecutionEntry}
      (uncertain : Uncertain reserved before) (code : String)
      (answer : Except LedgerError Unit) :
      Course coordinator (before ++ [⟨.ledger (.markUnknown reserved.fence code), answer⟩])
  | succeeded (reserved : Reserved) (ledgerEvent : LedgerEventFact)
      (authorized : PreExecutionAuthorization) (result : SanitizedToolResult)
      (authorizationDigest : String) (occurredAt : DateTime)
      (evidence : ExecutionEvidenceReceipt) (answer : Except LedgerError Unit)
      (fenced : coordinator.codec.digest (.fence reserved.fence) = .ok reserved.fenceDigest)
      (accepted : authorized.authorization.actionHash = reserved.materialized.actionHash)
      (digest : coordinator.codec.digest (.authorization authorized.authorization) =
        .ok authorizationDigest)
      (valid : toolResultValid coordinator.codec result authorized.authorization
        reserved.request.tenantId reserved.materialized.actionHash = .ok true)
      (proven : validateEvidence coordinator.codec evidence (coordinator.evidenceRequestFor reserved
        authorized.authorization authorizationDigest result occurredAt) = .ok ()) :
      Course coordinator [reservedEntry reserved, startedEntry reserved,
        toolEntry reserved ledgerEvent authorized (.ok result),
        ⟨.appendEvidence (coordinator.evidenceRequestFor reserved authorized.authorization
          authorizationDigest result occurredAt), .ok evidence⟩,
        ⟨.verifyEvidence evidence, .ok ()⟩,
        ⟨.ledger (.markSucceeded reserved.fence result.resultHash evidence.evidenceRef), answer⟩]
  | uncanonical (reserved : Reserved) (ledgerEvent : LedgerEventFact)
      (authorized : PreExecutionAuthorization) (result : SanitizedToolResult)
      (partially : ¬ coordinator.codec.Total) :
      Course coordinator [reservedEntry reserved, startedEntry reserved,
        toolEntry reserved ledgerEvent authorized (.ok result)]

def Reported (coordinator : ExecutionCoordinator) (entries : List ExecutionEntry)
    (outcome : ExecutionOutcome) : Prop :=
  ∃ request before tenantId executionId record fact fenceDigest,
    entries = before ++ [⟨.ledger (.get tenantId executionId), .ok record⟩,
      ⟨.ledger (.statusEventFact record.intent.tenantId record.executionId), .ok fact⟩] ∧
    outcomeOfRecord coordinator.codec request record fenceDigest fact.eventRef = .ok outcome

def conduct (coordinator : ExecutionCoordinator) :
    Monitor ExecutionCall ExecutionCall.Answer (List ExecutionEntry) :=
  recording (MayCall coordinator) fun _ _ => True

def Ended (coordinator : ExecutionCoordinator) (result : Except ExecutionError ExecutionOutcome)
    (entries : List ExecutionEntry) : Prop :=
  Course coordinator (effects entries) ∧
    ∀ outcome, result = .ok outcome → Reported coordinator entries outcome

section Rules

variable {coordinator : ExecutionCoordinator} {entries : List ExecutionEntry} {α β : Type}
  {Post : Except ExecutionError β → List ExecutionEntry → Prop}

theorem ask_bind {call : ExecutionCall} {f : call.Answer → Coordination β}
    (hmay : MayCall coordinator entries call)
    (hrest : ∀ answer,
      (conduct coordinator).Ensures Post (f answer).run (entries ++ [⟨call, answer⟩])) :
    (conduct coordinator).Ensures Post (Coordination.ask call >>= f).run entries :=
  Monitor.ask_bind hmay hrest

theorem ofExcept_bind {r : Except ExecutionError α} {f : α → Coordination β}
    (hok : ∀ a, r = .ok a → (conduct coordinator).Ensures Post (f a).run entries)
    (herror : ∀ e, r = .error e → Post (.error e) entries) :
    (conduct coordinator).Ensures Post (Attempt.ofExcept r >>= f).run entries :=
  Monitor.ofExcept_bind hok herror

theorem port_bind {call : ExecutionCall} {read : call.Answer → Except ExecutionError α}
    {f : α → Coordination β} (hmay : MayCall coordinator entries call)
    (hok : ∀ answer a, read answer = .ok a →
      (conduct coordinator).Ensures Post (f a).run (entries ++ [⟨call, answer⟩]))
    (herror : ∀ answer e, read answer = .error e → Post (.error e) (entries ++ [⟨call, answer⟩])) :
    (conduct coordinator).Ensures Post (Coordination.port call read >>= f).run entries :=
  Monitor.port_bind hmay hok herror

theorem ensure_bind {condition : Prop} [Decidable condition] {e : ExecutionError}
    {f : Unit → Coordination β}
    (hok : condition → (conduct coordinator).Ensures Post (f ()).run entries)
    (herror : Post (.error e) entries) :
    (conduct coordinator).Ensures Post (Attempt.ensure condition e >>= f).run entries :=
  Monitor.ensure_bind hok fun _ => herror

theorem requireActivation_bind {f : Unit → Coordination β}
    (hok : (conduct coordinator).Ensures Post (f ()).run (entries ++ [⟨.requireActive, true⟩]))
    (herror : ∀ active, Post (.error .activationUnavailable)
      (entries ++ [⟨.requireActive, active⟩])) :
    (conduct coordinator).Ensures Post (Coordination.requireActivation >>= f).run entries := by
  rw [Monitor.ensures_attempt_bind, Coordination.requireActivation]
  refine ask_bind trivial fun active => ?_
  rw [Monitor.ensures_ensure]
  refine ⟨fun hactive => ?_, fun _ => herror active⟩
  subst hactive
  exact hok

theorem Ended.error {e : ExecutionError} (h : Course coordinator (effects entries)) :
    Ended coordinator (.error e) entries :=
  ⟨h, fun _ hok => nomatch hok⟩

end Rules

section Settle

variable {coordinator : ExecutionCoordinator} {entries : List ExecutionEntry}
  {reserved : Reserved} {code : String}

theorem conduct_outcomeFromRecord {request : ExecutionRequest} {record : ExecutionRecord}
    {fenceDigest : String} {tenantId : TenantId} {executionId : ExecutionId}
    (hcourse : Course coordinator (effects entries)) :
    (conduct coordinator).Ensures (Ended coordinator)
      (coordinator.outcomeFromRecord request record fenceDigest).run
      (entries ++ [⟨.ledger (.get tenantId executionId), .ok record⟩]) := by
  have hquiet : ∀ answer, Course coordinator (effects (entries ++
      [⟨.ledger (.get tenantId executionId), .ok record⟩] ++
      [⟨.ledger (.statusEventFact record.intent.tenantId record.executionId), answer⟩])) := by
    intro answer
    rwa [effects_snoc_other _ _ rfl, effects_snoc_other _ _ rfl]
  refine port_bind trivial (fun answer fact hfact => ?_) fun answer e _ => .error (hquiet answer)
  obtain rfl := except_mapError_eq_ok.mp hfact
  refine ⟨hquiet _, fun outcome houtcome => ?_⟩
  exact ⟨request, entries, tenantId, executionId, record, fact, fenceDigest, by simp, houtcome⟩

theorem conduct_currentOutcome (hcourse : Course coordinator (effects entries)) :
    (conduct coordinator).Ensures (Ended coordinator) (coordinator.currentOutcome reserved).run
      entries := by
  refine port_bind trivial (fun answer record hrecord => ?_) fun answer e _ => .error ?_
  · obtain rfl := except_mapError_eq_ok.mp hrecord
    exact conduct_outcomeFromRecord hcourse
  · rwa [effects_snoc_other _ _ rfl]

theorem conduct_settleFailed (hfailing : Failing reserved (effects entries)) :
    (conduct coordinator).Ensures (Ended coordinator)
      (coordinator.settleFailed reserved code).run entries := by
  have hcourse : ∀ answer, Course coordinator
      (effects (entries ++ [⟨.ledger (.markFailed reserved.fence code), answer⟩])) := by
    intro answer
    rw [effects_snoc _ _ rfl]
    exact .failed hfailing code answer
  exact port_bind ⟨reserved, rfl, hfailing⟩
    (fun answer _ _ => conduct_currentOutcome (hcourse answer))
    fun answer e _ => .error (hcourse answer)

theorem conduct_settleUnknown (huncertain : Uncertain reserved (effects entries)) :
    (conduct coordinator).Ensures (Ended coordinator)
      (coordinator.settleUnknown reserved code).run entries := by
  have hcourse : ∀ answer, Course coordinator
      (effects (entries ++ [⟨.ledger (.markUnknown reserved.fence code), answer⟩])) := by
    intro answer
    rw [effects_snoc _ _ rfl]
    exact .unknown huncertain code answer
  exact port_bind trivial (fun answer _ _ => conduct_currentOutcome (hcourse answer))
    fun answer e _ => .error (hcourse answer)

theorem conduct_activationLost (hfailing : Failing reserved (effects entries)) :
    (conduct coordinator).Ensures (Ended coordinator)
      (ExecutionCoordinator.activationLost reserved).run entries := by
  have hcourse : ∀ code answer, Course coordinator
      (effects (entries ++ [⟨.ledger (.markFailed reserved.fence code), answer⟩])) := by
    intro code answer
    rw [effects_snoc _ _ rfl]
    exact .failed hfailing code answer
  exact port_bind ⟨reserved, rfl, hfailing⟩ (fun answer _ _ => .error (hcourse _ answer))
    fun answer e _ => .error (hcourse _ answer)

end Settle

section Phases

variable {coordinator : ExecutionCoordinator} {entries : List ExecutionEntry}
  {reserved : Reserved} {ledgerEvent : LedgerEventFact} {authorized : PreExecutionAuthorization}

theorem conduct_recordEvidence {result : SanitizedToolResult} {authorizationDigest : String}
    {occurredAt : DateTime} {evidence : ExecutionEvidenceReceipt}
    (heffects : effects entries = [reservedEntry reserved, startedEntry reserved,
      toolEntry reserved ledgerEvent authorized (.ok result),
      ⟨.appendEvidence (coordinator.evidenceRequestFor reserved authorized.authorization
        authorizationDigest result occurredAt), .ok evidence⟩])
    (hfenced : coordinator.codec.digest (.fence reserved.fence) = .ok reserved.fenceDigest)
    (haccepted : authorized.authorization.actionHash = reserved.materialized.actionHash)
    (hdigest : coordinator.codec.digest (.authorization authorized.authorization) =
      .ok authorizationDigest)
    (hvalid : toolResultValid coordinator.codec result authorized.authorization
      reserved.request.tenantId reserved.materialized.actionHash = .ok true) :
    (conduct coordinator).Ensures (Ended coordinator)
      (coordinator.recordEvidence reserved result (coordinator.evidenceRequestFor reserved
        authorized.authorization authorizationDigest result occurredAt) evidence).run entries := by
  unfold ExecutionCoordinator.recordEvidence
  cases hproven : validateEvidence coordinator.codec evidence (coordinator.evidenceRequestFor
      reserved authorized.authorization authorizationDigest result occurredAt) with
  | error e =>
    refine conduct_settleUnknown ?_
    rw [heffects]
    exact .unproven ..
  | ok _ =>
    refine ask_bind trivial fun verdict => ?_
    cases verdict with
    | error e =>
      refine conduct_settleUnknown ?_
      rw [effects_snoc _ _ rfl, heffects]
      exact .unverified ..
    | ok _ =>
      have hcourse : ∀ answer, Course coordinator (effects (entries ++
          [⟨.verifyEvidence evidence, .ok ()⟩] ++ [⟨.ledger (.markSucceeded reserved.fence
            result.resultHash evidence.evidenceRef), answer⟩])) := by
        intro answer
        rw [effects_snoc _ _ rfl, effects_snoc _ _ rfl, heffects]
        exact .succeeded reserved ledgerEvent authorized result authorizationDigest occurredAt
          evidence answer hfenced haccepted hdigest hvalid hproven
      exact port_bind trivial (fun answer _ _ => conduct_currentOutcome (hcourse answer))
        fun answer e _ => .error (hcourse answer)

theorem conduct_recordResult {result : SanitizedToolResult} {authorizationDigest : String}
    (heffects : effects entries = [reservedEntry reserved, startedEntry reserved,
      toolEntry reserved ledgerEvent authorized (.ok result)])
    (hfenced : coordinator.codec.digest (.fence reserved.fence) = .ok reserved.fenceDigest)
    (haccepted : authorized.authorization.actionHash = reserved.materialized.actionHash)
    (hdigest : coordinator.codec.digest (.authorization authorized.authorization) =
      .ok authorizationDigest) :
    (conduct coordinator).Ensures (Ended coordinator)
      (coordinator.recordResult reserved authorized.authorization authorizationDigest result).run
      entries := by
  unfold ExecutionCoordinator.recordResult
  refine ofExcept_bind (fun valid hvalid => ?_) fun e herror => .error ?_
  · cases valid with
    | false =>
      refine conduct_settleUnknown ?_
      rw [heffects]
      exact .invalid ..
    | true =>
      refine ask_bind trivial fun occurredAt => ?_
      refine ask_bind trivial fun answer => ?_
      cases answer with
      | error e =>
        refine conduct_settleUnknown ?_
        rw [effects_snoc _ _ rfl, effects_snoc_other _ _ rfl, heffects]
        exact .unrecorded ..
      | ok evidence =>
        have hnext : effects (entries ++ [⟨.utcNow, occurredAt⟩] ++ [⟨.appendEvidence
            (coordinator.evidenceRequestFor reserved authorized.authorization authorizationDigest
              result occurredAt), .ok evidence⟩]) = [reservedEntry reserved, startedEntry reserved,
            toolEntry reserved ledgerEvent authorized (.ok result),
            ⟨.appendEvidence (coordinator.evidenceRequestFor reserved authorized.authorization
              authorizationDigest result occurredAt), .ok evidence⟩] := by
          rw [effects_snoc _ _ rfl, effects_snoc_other _ _ rfl, heffects, List.cons_append,
            List.cons_append, List.cons_append, List.nil_append]
        exact conduct_recordEvidence hnext hfenced haccepted hdigest hvalid
  · -- only a value without canonical form stops the call here
    rw [heffects]
    refine .uncanonical _ _ _ _ fun htotal => ?_
    obtain ⟨valueHash, hvalue⟩ := htotal.digest (.value result.value)
    unfold toolResultValid at herror
    split at herror
    · cases herror
    · rw [hvalue] at herror
      cases herror

theorem conduct_invokeTool {authorizationDigest : String}
    (hlicensed : Licensed coordinator reserved ledgerEvent authorized entries)
    (haccepted : authorized.authorization.actionHash = reserved.materialized.actionHash)
    (hdigest : coordinator.codec.digest (.authorization authorized.authorization) =
      .ok authorizationDigest) :
    (conduct coordinator).Ensures (Ended coordinator)
      (coordinator.invokeTool reserved ledgerEvent authorized authorizationDigest).run entries := by
  unfold ExecutionCoordinator.invokeTool
  refine ask_bind ⟨reserved, ledgerEvent, authorized, hlicensed, rfl⟩ fun answer => ?_
  have heffects : effects (entries ++ [⟨toolCall reserved ledgerEvent authorized, answer⟩]) =
      [reservedEntry reserved, startedEntry reserved,
        toolEntry reserved ledgerEvent authorized answer] := by
    rw [effects_snoc _ _ rfl, hlicensed.effects, List.cons_append, List.cons_append,
      List.nil_append]
  split
  · next result => exact conduct_recordResult heffects hlicensed.checked.fenced haccepted hdigest
  · refine conduct_settleFailed ?_
    rw [heffects]
    exact .denied ..
  · next e hdenied =>
    refine conduct_settleUnknown ?_
    rw [heffects]
    exact .unanswered _ _ _ hdenied

theorem conduct_start (hreserved : ReservedBy coordinator reserved entries)
    (hauthorized : AuthorizedBy coordinator reserved ledgerEvent authorized entries)
    (heffects : effects entries = [reservedEntry reserved]) :
    (conduct coordinator).Ensures (Ended coordinator)
      (coordinator.start reserved ledgerEvent authorized).run entries := by
  unfold ExecutionCoordinator.start
  refine ofExcept_bind (fun authorizationDigest hdigest => ?_) fun e _ => .error ?_
  · refine ask_bind trivial fun active => ?_
    have hactive : effects (entries ++ [⟨.requireActive, active⟩]) = [reservedEntry reserved] := by
      rw [effects_snoc_other _ _ rfl, heffects]
    cases active with
    | false =>
      refine conduct_activationLost ?_
      rw [hactive]
      exact .reserved
    | true =>
      refine ask_bind ⟨reserved, hactive, rfl⟩ fun started => ?_
      have hcourse : ∀ e : LedgerError, Course coordinator (effects (entries ++
          [⟨.requireActive, true⟩] ++
          [⟨.ledger (.markStarted reserved.fence none), .error e⟩])) := by
        intro e
        rw [effects_snoc _ _ rfl, hactive]
        exact .outrun ..
      split
      · exact conduct_currentOutcome (hcourse _)
      · exact conduct_currentOutcome (hcourse _)
      · exact .error (hcourse _)
      · have hstarted : ∀ still, effects (entries ++ [⟨.requireActive, true⟩] ++
            [startedEntry reserved] ++ [⟨.requireActive, still⟩]) =
            [reservedEntry reserved, startedEntry reserved] := by
          intro still
          rw [effects_snoc_other _ _ rfl, effects_snoc _ _ rfl, hactive, List.cons_append,
            List.nil_append]
        refine ask_bind trivial fun still => ?_
        cases still with
        | false =>
          refine conduct_activationLost ?_
          rw [hstarted]
          exact .started
        | true =>
          have hsub : entries ⊆ entries ++ [⟨.requireActive, true⟩] ++ [startedEntry reserved] ++
              [⟨.requireActive, true⟩] := by
            intro entry hentry
            simp [hentry]
          obtain ⟨policyInput, requestedAt, hmem, hvalid⟩ := hauthorized
          refine conduct_invokeTool ⟨hreserved.mono hsub,
            ⟨policyInput, requestedAt, hsub hmem, hvalid⟩, hstarted true,
            entries ++ [⟨.requireActive, true⟩], ?_⟩
            (validateAuthorization_actionHash hvalid) hdigest
          rw [List.append_assoc, List.append_assoc, List.append_assoc]
          rfl
  · rw [heffects]
    exact .left reserved

theorem conduct_authorizeFinally (hreserved : ReservedBy coordinator reserved entries)
    (heffects : effects entries = [reservedEntry reserved]) :
    (conduct coordinator).Ensures (Ended coordinator) (coordinator.authorizeFinally reserved).run
      entries := by
  unfold ExecutionCoordinator.authorizeFinally
  refine ofExcept_bind (fun policyInput _ => ?_) fun e _ => .error ?_
  · refine port_bind trivial (fun answer ledgerEvent _ => ?_) fun answer e _ => .error ?_
    · refine ask_bind trivial fun requestedAt => ?_
      refine ask_bind trivial fun verdict => ?_
      have hquiet : effects (entries ++ [⟨.ledger (.statusEventFact reserved.request.tenantId
          reserved.reservation.executionId), answer⟩] ++ [⟨.utcNow, requestedAt⟩] ++
          [⟨.authorize (ExecutionCoordinator.finalRequestFor reserved policyInput ledgerEvent
            requestedAt), verdict⟩]) = [reservedEntry reserved] := by
        rw [effects_snoc_other _ _ rfl, effects_snoc_other _ _ rfl, effects_snoc_other _ _ rfl,
          heffects]
      have hfailing : Failing reserved (effects (entries ++ [⟨.ledger (.statusEventFact
          reserved.request.tenantId reserved.reservation.executionId), answer⟩] ++
          [⟨.utcNow, requestedAt⟩] ++ [⟨.authorize (ExecutionCoordinator.finalRequestFor reserved
            policyInput ledgerEvent requestedAt), verdict⟩])) := by
        rw [hquiet]
        exact .reserved
      split
      · next authorized =>
        split
        · next hvalid =>
          refine conduct_start (hreserved.mono fun entry hentry => by simp [hentry])
            ⟨policyInput, requestedAt, by simp, hvalid⟩ hquiet
        · exact conduct_settleFailed hfailing
      · exact conduct_settleFailed hfailing
      · exact conduct_settleFailed hfailing
      · refine .error ?_
        rw [hquiet]
        exact .left reserved
    · rw [effects_snoc_other _ _ rfl, heffects]
      exact .left reserved
  · rw [heffects]
    exact .left reserved

theorem conduct_continuePrepared (hreserved : ReservedBy coordinator reserved entries)
    (heffects : effects entries = [reservedEntry reserved]) :
    (conduct coordinator).Ensures (Ended coordinator) (coordinator.continuePrepared reserved).run
      entries := by
  unfold ExecutionCoordinator.continuePrepared
  refine ask_bind trivial fun now => ?_
  have hquiet : effects (entries ++ [⟨.utcNow, now⟩]) = [reservedEntry reserved] := by
    rw [effects_snoc_other _ _ rfl, heffects]
  split
  · refine conduct_settleFailed ?_
    rw [hquiet]
    exact .reserved
  · exact conduct_authorizeFinally (hreserved.mono fun entry hentry => by simp [hentry]) hquiet

theorem conduct_reserveAndRun {prepared : Prepared}
    (hprepared : PreparedBy coordinator prepared entries) (heffects : effects entries = []) :
    (conduct coordinator).Ensures (Ended coordinator) (coordinator.reserveAndRun prepared).run
      entries := by
  unfold ExecutionCoordinator.reserveAndRun
  have hactive : ∀ active, effects (entries ++ [⟨.requireActive, active⟩]) = [] := by
    intro active
    rw [effects_snoc_other _ _ rfl, heffects]
  refine requireActivation_bind ?_ fun active => .error ?_
  · refine port_bind (hactive true) (fun answer reservation hreservation => ?_)
      fun answer e herror => .error ?_
    · obtain rfl := except_mapError_eq_ok.mp hreservation
      have hreserved : ∀ fenceDigest, effects (entries ++ [⟨.requireActive, true⟩] ++
          [⟨.ledger (.reserve prepared.intent), .ok reservation⟩]) =
          [reservedEntry { prepared with reservation, fenceDigest }] := by
        intro fenceDigest
        rw [effects_snoc _ _ rfl, hactive, List.nil_append]
      refine ofExcept_bind (fun fenceDigest hfenced => ?_) fun e _ => .error ?_
      · split
        · refine port_bind trivial (fun answer record hrecord => ?_) fun answer e _ => .error ?_
          · obtain rfl := except_mapError_eq_ok.mp hrecord
            split
            · refine conduct_outcomeFromRecord ?_
              rw [hreserved fenceDigest]
              exact .left _
            · refine conduct_continuePrepared
                ⟨hprepared.mono fun entry hentry => by simp [hentry], hfenced⟩ ?_
              rw [effects_snoc_other _ _ rfl, hreserved fenceDigest]
          · rw [effects_snoc_other _ _ rfl, hreserved ""]
            exact .left _
        · exact conduct_continuePrepared
            ⟨hprepared.mono fun entry hentry => by simp [hentry], hfenced⟩ (hreserved fenceDigest)
      · rw [hreserved ""]
        exact .left _
    · cases answer with
      | ok reservation => cases herror
      | error e =>
        rw [effects_snoc _ _ rfl, hactive]
        exact .refused ..
  · rw [hactive]
    exact .unreserved

end Phases

section Prepare

variable {coordinator : ExecutionCoordinator} {entries : List ExecutionEntry}

theorem effects_snoc_nil {call : ExecutionCall} {answer : call.Answer}
    (h : effects entries = []) (hcall : isEffect call = false) :
    effects (entries ++ [⟨call, answer⟩]) = [] := by
  rw [effects_snoc_other _ _ hcall, h]

def Quietly {α : Type} (P : α → List ExecutionEntry → Prop) (result : Except ExecutionError α)
    (entries : List ExecutionEntry) : Prop :=
  effects entries = [] ∧ ∀ a, result = .ok a → P a entries

theorem Quietly.error {α : Type} {P : α → List ExecutionEntry → Prop} {e : ExecutionError}
    (h : effects entries = []) : Quietly P (.error e) entries :=
  ⟨h, fun _ hok => nomatch hok⟩

theorem conduct_obtainApproval {request : ExecutionRequest} {materialized : MaterializedAction}
    {tool : ResolvedToolSnapshot} {signed : SignedPreApprovalOutcome}
    (heffects : effects entries = []) :
    (conduct coordinator).Ensures
      (Quietly fun approval entries' => entries ⊆ entries' ∧ (signed.approvalRequired = true →
        ∃ request receipt grant, ⟨.verifyApproval request receipt, .ok grant⟩ ∈ entries' ∧
          approval.grant = some grant))
      (coordinator.obtainApproval request materialized tool signed).run entries := by
  unfold ExecutionCoordinator.obtainApproval
  split
  · next hnone =>
    refine ⟨heffects, fun approval _ => ⟨fun _ h => h, fun hrequired => ?_⟩⟩
    simp [hrequired] at hnone
  · refine ofExcept_bind (fun approvalRequest _ => ?_) fun e _ => .error heffects
    refine port_bind trivial (fun answer receipt _ => ?_)
      fun answer e _ => .error (effects_snoc_nil heffects rfl)
    have hconsumed : effects (entries ++ [⟨.consume approvalRequest, answer⟩]) = [] :=
      effects_snoc_nil heffects rfl
    refine port_bind trivial (fun answer grant hgrant => ?_)
      fun answer e _ => .error (effects_snoc_nil hconsumed rfl)
    obtain rfl : answer = .ok grant := hgrant
    refine ofExcept_bind (fun receiptDigest _ => ?_)
      fun e _ => .error (effects_snoc_nil hconsumed rfl)
    refine ⟨effects_snoc_nil hconsumed rfl, ?_⟩
    rintro approval ⟨⟩
    refine ⟨fun entry hentry => by simp [hentry], fun _ => ?_⟩
    exact ⟨approvalRequest, receipt, grant, by simp, rfl⟩

theorem conduct_prepare {request : ExecutionRequest} :
    (conduct coordinator).Ensures (Quietly (PreparedBy coordinator))
      (coordinator.prepare request).run [] := by
  unfold ExecutionCoordinator.prepare
  refine requireActivation_bind ?_ fun active => .error rfl
  refine ofExcept_bind (fun _ _ => ?_) fun e _ => .error rfl
  refine port_bind trivial (fun answer materialized hmaterialized => ?_)
    fun answer e _ => .error rfl
  obtain rfl : answer = .ok materialized := hmaterialized
  refine ensure_bind (fun _ => ?_) (.error rfl)
  refine port_bind trivial (fun answer tool hresolved => ?_) fun answer e _ => .error rfl
  obtain rfl : answer = .ok tool := hresolved
  refine ofExcept_bind (fun _ _ => ?_) fun e _ => .error rfl
  refine ask_bind trivial fun requestedAt => ?_
  refine port_bind trivial (fun answer preapproval hpreapproved => ?_) fun answer e _ => .error rfl
  obtain rfl : answer = .ok preapproval := hpreapproved
  refine ask_bind trivial fun now => ?_
  refine ofExcept_bind (fun _ hvalid => ?_) fun e _ => .error rfl
  rw [Monitor.ensures_attempt_bind]
  refine (conduct_obtainApproval rfl).mono fun result entries' happroval => ?_
  obtain ⟨hquiet, happroval⟩ := happroval
  cases result with
  | error e => exact .error hquiet
  | ok approval =>
    obtain ⟨hsub, hrequired⟩ := happroval approval rfl
    refine ensure_bind (fun hcompensation => ?_) (.error hquiet)
    refine ofExcept_bind (fun intent hintent => ?_) fun e _ => .error hquiet
    refine ⟨hquiet, ?_⟩
    rintro prepared ⟨⟩
    exact
      { materialized := hsub (by simp)
        resolved := hsub (by simp)
        preapproved := hsub (by simp)
        accepted := ⟨now, hsub (by simp), hvalid⟩
        approved := hrequired
        compensable := fun hclass => (if_pos hclass).symm.trans hcompensation
        intent := hintent }

/-- **Conduct**: whatever its ports answer, an execution calls only what it may and ends along
one of the courses. -/
theorem conduct_execute (request : ExecutionRequest) :
    (conduct coordinator).Ensures (Ended coordinator) (coordinator.execute request).run [] := by
  unfold ExecutionCoordinator.execute
  rw [Monitor.ensures_attempt_bind]
  refine conduct_prepare.mono fun result entries hprepared => ?_
  obtain ⟨hquiet, hprepared⟩ := hprepared
  cases result with
  | error e =>
    refine .error ?_
    rw [hquiet]
    exact .unreserved
  | ok prepared => exact conduct_reserveAndRun (hprepared prepared rfl) hquiet

end Prepare

end AgentSphere.Execution
