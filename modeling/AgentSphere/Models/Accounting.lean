import AgentSphere.Lib.Claims
import AgentSphere.Models.Gateway

/-!
# Accounts of the model gateway

Runs of any number of requests, of any gateways, and of other users of one `BudgetManager`. What is
taken of the limit of a tenant is always what its open reservations amount to and what it was
charged. A request closes its reservation once, and nobody else does: its identifier never leaves
the request.
-/

namespace AgentSphere.Models

open Concurrency Attempt

structure Accounts where
  budget : BudgetState
  entrusted : Finset String

def Accounts.start : Accounts := ⟨.empty, ∅⟩

def OfBudget : GatewayCall → Prop
  | .setLimit .. => True
  | .reserve .. => True
  | .finalize .. => True
  | _ => False

def entrust (entry : GatewayEntry) (entrusted : Finset String) : Finset String :=
  match reservationOf entry with
  | some reservation => insert reservation.reservationId entrusted
  | none => entrusted

/-- How calls are served. An identifier that is drawn is new, and nobody can name the reservation of
a request but the request itself. -/
inductive Serve : Accounts → (call : GatewayCall) → call.Answer → Accounts → Prop
  | answer {accounts : Accounts} {call : GatewayCall} (hfree : ¬OfBudget call)
      (answer : call.Answer) : Serve accounts call answer accounts
  | setLimit {accounts : Accounts} (tenantId : TenantId) (microunits : Nat) :
      Serve accounts (.setLimit tenantId microunits) ()
        { accounts with budget := accounts.budget.setLimit tenantId microunits }
  | reserve {accounts : Accounts} (party : Party) (tenantId : TenantId) (taskId : TaskId)
      (amountMicrounits : Nat) (reservationId : String)
      (hfresh : accounts.budget.reservations[reservationId]? = none ∧
        reservationId ∉ accounts.budget.finalized) :
      Serve accounts (.reserve party tenantId taskId amountMicrounits)
        (accounts.budget.reserve tenantId taskId amountMicrounits reservationId).1
        { budget := (accounts.budget.reserve tenantId taskId amountMicrounits reservationId).2
          entrusted := entrust ⟨.reserve party tenantId taskId amountMicrounits,
            (accounts.budget.reserve tenantId taskId amountMicrounits reservationId).1⟩
            accounts.entrusted }
  | finalize {accounts : Accounts} (party : Party) (reservationId : String)
      (actualMicrounits : Nat) (hknown : party = .client → reservationId ∉ accounts.entrusted) :
      Serve accounts (.finalize party reservationId actualMicrounits)
        (accounts.budget.finalize reservationId actualMicrounits).1
        { accounts with budget := (accounts.budget.finalize reservationId actualMicrounits).2 }

inductive GatewayResult where
  | generated (result : ModelGatewayResult)
  | streamed (result : ModelStreamGatewayResult)
  | accounted

abbrev GatewayThread := Program GatewayCall GatewayCall.Answer (Except ModelError GatewayResult)

def generateRequest (gateway : ModelGateway) (request : ModelRequestEnvelope) :
    Working GatewayResult := do
  let result ← gateway.generate request
  pure (.generated result)

def streamRequest (gateway : ModelGateway) (request : ModelRequestEnvelope) :
    Working GatewayResult := do
  let result ← gateway.stream request
  pure (.streamed result)

def accountRequest (call : GatewayCall) : Working GatewayResult := do
  let _ ← ask call
  pure .accounted

inductive Starts : GatewayThread → Prop
  | generate (gateway : ModelGateway) (request : ModelRequestEnvelope) :
      Starts (generateRequest gateway request).run
  | stream (gateway : ModelGateway) (request : ModelRequestEnvelope) :
      Starts (streamRequest gateway request).run
  | setLimit (tenantId : TenantId) (microunits : Nat) :
      Starts (accountRequest (.setLimit tenantId microunits)).run
  | reserve (tenantId : TenantId) (taskId : TaskId) (amountMicrounits : Nat) :
      Starts (accountRequest (.reserve .client tenantId taskId amountMicrounits)).run
  | finalize (reservationId : String) (actualMicrounits : Nat) :
      Starts (accountRequest (.finalize .client reservationId actualMicrounits)).run

def accountSystem :
    System Accounts GatewayCall GatewayCall.Answer (Except ModelError GatewayResult) where
  Serve := Serve
  Internal _ _ := False
  Start := Starts

abbrev GatewayEvent := Event Accounts GatewayCall GatewayCall.Answer

abbrev GatewayConfig :=
  Config Accounts GatewayCall GatewayCall.Answer (Except ModelError GatewayResult)

def chargedBy (tenant : TenantId) (event : GatewayEvent) : Nat :=
  match event.call with
  | .finalize _ reservationId actualMicrounits =>
    event.before.budget.chargeTo tenant reservationId actualMicrounits
  | _ => 0

def charged (tenant : TenantId) (trace : List GatewayEvent) : Nat :=
  (trace.map (chargedBy tenant)).sum

def Settles (reservation : BudgetReservation) (amount : Nat) (event : GatewayEvent) : Prop :=
  ∃ party actual, event.call = .finalize party reservation.reservationId actual ∧
    event.before.budget.charge reservation.reservationId actual =
      some (reservation.tenantId, amount)

-- The invariant

structure Kept (accounts : Accounts) (trace : List GatewayEvent) : Prop where
  balanced : Balanced accounts.budget fun tenant => charged tenant trace
  opened : ∀ (id : String) (reservation : BudgetReservation),
    accounts.budget.reservations[id]? = some reservation →
      reservation.reservationId = id ∧ id ∉ accounts.budget.finalized
  entrusted : ∀ event ∈ trace, ∀ reservation, reservationOf event.entry = some reservation →
    reservation.reservationId ∈ accounts.entrusted ∧ 0 < reservation.amountMicrounits
  held : ∀ event ∈ trace, ∀ reservation, reservationOf event.entry = some reservation →
    (∀ other ∈ trace, closingOf other.call ≠ some reservation.reservationId) →
      accounts.budget.reservations[reservation.reservationId]? = some reservation

section Keeping

variable {accounts accounts' : Accounts} {trace : List GatewayEvent} {event : GatewayEvent}

theorem Kept.start : Kept .start [] where
  balanced := Balanced.start
  opened id reservation h := by simp [Accounts.start, BudgetState.empty] at h
  entrusted := by simp
  held := by simp

theorem charged_snoc (tenant : TenantId) (trace : List GatewayEvent) (event : GatewayEvent) :
    charged tenant (trace ++ [event]) = charged tenant trace + chargedBy tenant event := by
  simp [charged]

theorem Balanced.snoc {budget : BudgetState}
    (h : Balanced budget fun tenant => charged tenant trace + chargedBy tenant event) :
    Balanced budget fun tenant => charged tenant (trace ++ [event]) := by
  intro tenant
  show _ = _ + charged tenant (trace ++ [event])
  rw [charged_snoc]
  exact h tenant

theorem Kept.quiet (h : Kept accounts trace)
    (hreserved : accounts'.budget.reserved = accounts.budget.reserved)
    (hreservations : accounts'.budget.reservations = accounts.budget.reservations)
    (hfinalized : accounts'.budget.finalized = accounts.budget.finalized)
    (hentrusted : accounts'.entrusted = accounts.entrusted)
    (hnone : reservationOf event.entry = none) (hcharged : ∀ tenant, chargedBy tenant event = 0) :
    Kept accounts' (trace ++ [event]) where
  balanced tenant := by
    have htaken := h.balanced tenant
    simp only [BudgetState.used, BudgetState.outstanding] at htaken ⊢
    rw [hreserved, hreservations, charged_snoc, hcharged, Nat.add_zero]
    exact htaken
  opened id reservation hopen := by
    rw [hreservations] at hopen
    rw [hfinalized]
    exact h.opened id reservation hopen
  entrusted other hother reservation hreservation := by
    rw [hentrusted]
    obtain hold | hnew := List.mem_append.mp hother
    · exact h.entrusted other hold reservation hreservation
    · obtain rfl := List.mem_singleton.mp hnew
      rw [hnone] at hreservation
      cases hreservation
  held other hother reservation hreservation hnever := by
    rw [hreservations]
    obtain hold | hnew := List.mem_append.mp hother
    · exact h.held other hold reservation hreservation fun third hthird =>
        hnever third (List.mem_append_left _ hthird)
    · obtain rfl := List.mem_singleton.mp hnew
      rw [hnone] at hreservation
      cases hreservation

theorem Kept.reserve (h : Kept accounts trace) (i : Nat) (party : Party) (tenantId : TenantId)
    (taskId : TaskId) (amountMicrounits : Nat) (reservationId : String)
    (hfresh : accounts.budget.reservations[reservationId]? = none ∧
      reservationId ∉ accounts.budget.finalized)
    {answer : Except ModelError BudgetReservation}
    (hanswer : (answer, accounts'.budget) =
      accounts.budget.reserve tenantId taskId amountMicrounits reservationId)
    (hentrust : accounts'.entrusted =
      entrust ⟨.reserve party tenantId taskId amountMicrounits, answer⟩ accounts.entrusted) :
    Kept accounts' (trace ++
      [⟨i, .reserve party tenantId taskId amountMicrounits, answer, accounts, accounts'⟩]) := by
  have hbalanced := h.balanced.reserve hfresh.1 tenantId taskId amountMicrounits
  rw [← hanswer] at hbalanced
  rcases reserve_cases accounts.budget tenantId taskId amountMicrounits reservationId with
    ⟨e, hrefused⟩ | ⟨limit, -, hpos, -, hreserved⟩
  · rw [hrefused, Prod.mk.injEq] at hanswer
    obtain ⟨rfl, hsame⟩ := hanswer
    have hnone : reservationOf ⟨.reserve party tenantId taskId amountMicrounits, .error e⟩ =
        none := by
      cases party with
      | gateway => rfl
      | client => rfl
    rw [entrust, hnone] at hentrust
    exact h.quiet (by rw [hsame]) (by rw [hsame]) (by rw [hsame]) hentrust hnone fun _ => rfl
  · rw [hreserved, Prod.mk.injEq] at hanswer
    obtain ⟨rfl, hbudget⟩ := hanswer
    have hopen : ∀ id : String, accounts'.budget.reservations[id]? = if reservationId = id then
        some ⟨reservationId, tenantId, taskId, amountMicrounits⟩
        else accounts.budget.reservations[id]? := by
      intro id
      rw [hbudget, BTreeMap.getElem?_insert_ite]
    have hgrows : accounts.entrusted ⊆ accounts'.entrusted := by
      rw [hentrust]
      cases party with
      | gateway => exact Finset.subset_insert _ _
      | client => exact Finset.Subset.refl _
    refine ⟨.snoc hbalanced, ?_, ?_, ?_⟩
    · intro id reservation hreservation
      rw [hopen] at hreservation
      rw [hbudget]
      split at hreservation
      · rename_i hid
        subst hid
        obtain rfl := Option.some.inj hreservation
        exact ⟨rfl, hfresh.2⟩
      · exact h.opened id reservation hreservation
    · intro event hevent reservation hreservation
      obtain hold | hnew := List.mem_append.mp hevent
      · obtain ⟨hknown, hamount⟩ := h.entrusted event hold reservation hreservation
        exact ⟨hgrows hknown, hamount⟩
      · obtain rfl := List.mem_singleton.mp hnew
        cases party with
        | client => cases hreservation
        | gateway =>
          obtain rfl := Option.some.inj hreservation
          rw [hentrust]
          exact ⟨Finset.mem_insert_self _ _, hpos⟩
    · intro event hevent reservation hreservation hnever
      rw [hopen]
      obtain hold | hnew := List.mem_append.mp hevent
      · have hheld := h.held event hold reservation hreservation fun other hother =>
          hnever other (List.mem_append_left _ hother)
        rw [if_neg, hheld]
        rintro rfl
        rw [hfresh.1] at hheld
        cases hheld
      · obtain rfl := List.mem_singleton.mp hnew
        cases party with
        | client => cases hreservation
        | gateway =>
          obtain rfl := Option.some.inj hreservation
          exact if_pos rfl

theorem Kept.finalize (h : Kept accounts trace) (i : Nat) (party : Party) (reservationId : String)
    (actualMicrounits : Nat) (hknown : party = .client → reservationId ∉ accounts.entrusted)
    (answer : Except ModelError Unit)
    (hbudget : accounts'.budget = (accounts.budget.finalize reservationId actualMicrounits).2)
    (hentrusted : accounts'.entrusted = accounts.entrusted) :
    Kept accounts' (trace ++
      [⟨i, .finalize party reservationId actualMicrounits, answer, accounts, accounts'⟩]) := by
  have hbalanced := (h.balanced.finalize reservationId actualMicrounits).2
  rw [← hbudget] at hbalanced
  rcases finalize_cases accounts.budget reservationId actualMicrounits with
    ⟨hcharge, e, -, hrefused⟩ | ⟨reservation, hopen, hreservation, hreservations, hfinalized, -⟩
  · rw [hrefused] at hbudget
    refine h.quiet (by rw [hbudget]) (by rw [hbudget]) (by rw [hbudget]) hentrusted rfl ?_
    intro tenant
    show accounts.budget.chargeTo _ _ _ = 0
    rw [BudgetState.chargeTo, hcharge]
  · rw [← hbudget] at hreservations hfinalized
    have hothers : ∀ id : String, accounts'.budget.reservations[id]? =
        if reservationId = id then none else accounts.budget.reservations[id]? := by
      intro id
      rw [hreservations, Std.ExtTreeMap.getElem?_erase]
      by_cases hid : reservationId = id
      · rw [if_pos hid, if_pos (Std.LawfulEqCmp.compare_eq_iff_eq.mpr hid)]
      · rw [if_neg hid, if_neg fun heq => hid (Std.LawfulEqCmp.compare_eq_iff_eq.mp heq)]
    refine ⟨.snoc hbalanced, ?_, ?_, ?_⟩
    · intro id other hother
      rw [hothers] at hother
      split at hother
      · cases hother
      · rename_i hid
        obtain ⟨hkey, hnotfinal⟩ := h.opened id other hother
        refine ⟨hkey, ?_⟩
        rw [hfinalized, Finset.mem_insert, not_or]
        exact ⟨Ne.symm hid, hnotfinal⟩
    · intro event hevent other hother
      rw [hentrusted]
      obtain hold | hnew := List.mem_append.mp hevent
      · exact h.entrusted event hold other hother
      · obtain rfl := List.mem_singleton.mp hnew
        cases hother
    · intro event hevent other hother hnever
      obtain hold | hnew := List.mem_append.mp hevent
      · have hheld := h.held event hold other hother fun third hthird =>
          hnever third (List.mem_append_left _ hthird)
        rw [hothers, if_neg, hheld]
        rintro rfl
        cases party with
        | client => exact hknown rfl (h.entrusted event hold other hother).1
        | gateway => exact hnever _ (List.mem_append_right _ List.mem_cons_self) rfl
      · obtain rfl := List.mem_singleton.mp hnew
        cases hother

/-- **Step lemma**: every call keeps the invariant. -/
theorem Kept.serve (h : Kept accounts trace) (i : Nat) {call : GatewayCall} {answer : call.Answer}
    (hserve : Serve accounts call answer accounts') :
    Kept accounts' (trace ++ [⟨i, call, answer, accounts, accounts'⟩]) := by
  cases hserve with
  | answer hfree =>
    refine h.quiet rfl rfl rfl rfl ?_ fun tenant => ?_
    · cases call with
      | reserve => exact absurd trivial hfree
      | _ => rfl
    · cases call with
      | finalize => exact absurd trivial hfree
      | _ => rfl
  | setLimit => exact h.quiet rfl rfl rfl rfl rfl fun _ => rfl
  | reserve party tenantId taskId amountMicrounits reservationId hfresh =>
    exact h.reserve i party tenantId taskId amountMicrounits reservationId hfresh rfl rfl
  | finalize party reservationId actualMicrounits hknown =>
    exact h.finalize i party reservationId actualMicrounits hknown _ rfl rfl

end Keeping

section Runs

variable {cfg : GatewayConfig} {before after : List GatewayEvent} {event : GatewayEvent}
  {reservation : BudgetReservation} {i : Nat}

theorem Starts.conduct {p : GatewayThread} (h : Starts p) :
    accounting.Ensures (fun _ entries => Closed entries) p [] := by
  cases h with
  | generate gateway request =>
    refine Monitor.ensures_attempt_bind.mpr ((conduct_generate gateway request).mono ?_)
    rintro (_ | _) entries hclosed
    · exact hclosed
    · exact hclosed
  | stream gateway request =>
    refine Monitor.ensures_attempt_bind.mpr ((conduct_stream gateway request).mono ?_)
    rintro (_ | _) entries hclosed
    · exact hclosed
    · exact hclosed
  | setLimit => exact Monitor.ask_bind trivial fun _ => .inl ⟨rfl, rfl, rfl⟩
  | reserve => exact Monitor.ask_bind trivial fun _ => .inl ⟨rfl, rfl, rfl⟩
  | finalize => exact Monitor.ask_bind trivial fun _ => .inl ⟨rfl, rfl, rfl⟩

theorem kept_of_reach (hreach : accountSystem.Reachable .start cfg) :
    Kept cfg.shared cfg.trace ∧ ∀ before event after, cfg.trace = before ++ event :: after →
      Kept event.before before ∧ Serve event.before event.call event.answer event.after :=
  hreach.always (I := Kept) (fun _ _ i _ _ _ hkept hserve => hkept.serve i hserve)
    (fun _ _ _ _ hmoves => False.elim hmoves) .start

theorem Settles.finalized {amount : Nat} (h : Settles reservation amount event)
    (hserve : Serve event.before event.call event.answer event.after) :
    reservation.reservationId ∉ event.before.budget.finalized ∧
      reservation.reservationId ∈ event.after.budget.finalized := by
  obtain ⟨party, actual, hcall, hcharge⟩ := h
  obtain ⟨thread, call, answer, accounts, accounts'⟩ := event
  subst hcall
  dsimp only at hserve hcharge ⊢
  cases hserve with
  | answer hfree => exact absurd trivial hfree
  | finalize =>
    rcases finalize_cases accounts.budget reservation.reservationId actual with
      ⟨hnone, -⟩ | ⟨closed, hopen, -, -, hfinalized, -⟩
    · rw [hnone] at hcharge
      exact nomatch hcharge
    · refine ⟨hopen, ?_⟩
      show _ ∈ (accounts.budget.finalize _ _).2.finalized
      rw [hfinalized]
      exact Finset.mem_insert_self _ _

theorem finalized_of_serve {accounts accounts' : Accounts} {call : GatewayCall}
    {answer : call.Answer} (hserve : Serve accounts call answer accounts') {id : String}
    (hfinalized : id ∈ accounts.budget.finalized) : id ∈ accounts'.budget.finalized := by
  cases hserve with
  | answer => exact hfinalized
  | setLimit => exact hfinalized
  | reserve party tenantId taskId amountMicrounits reservationId hfresh =>
    rcases reserve_cases accounts.budget tenantId taskId amountMicrounits reservationId with
      ⟨e, hrefused⟩ | ⟨limit, -, -, -, hreserved⟩
    · rw [hrefused]
      exact hfinalized
    · rw [hreserved]
      exact hfinalized
  | finalize party reservationId actualMicrounits hknown =>
    rcases finalize_cases accounts.budget reservationId actualMicrounits with
      ⟨-, e, -, hrefused⟩ | ⟨closed, -, -, -, hgrown, -⟩
    · rw [hrefused]
      exact hfinalized
    · show _ ∈ (accounts.budget.finalize _ _).2.finalized
      rw [hgrown]
      exact Finset.mem_insert_of_mem hfinalized

theorem Settles.last (hreach : accountSystem.Reachable .start cfg)
    (htrace : cfg.trace = before ++ event :: after) {amount amount' : Nat}
    (h : Settles reservation amount event) :
    ∀ later ∈ after, ¬Settles reservation amount' later := by
  intro later hlater hagain
  obtain ⟨between, rest, rfl⟩ := List.append_of_mem hlater
  have hserved := (kept_of_reach hreach).2
  have hfinal : reservation.reservationId ∈ later.before.budget.finalized :=
    (hreach.after (Q := fun accounts => reservation.reservationId ∈ accounts.budget.finalized)
      (K := fun _ => True) (fun _ hserve _ hfinal => finalized_of_serve hserve hfinal)
      (fun _ _ _ hmoves => False.elim hmoves) htrace
      (h.finalized (hserved before event _ htrace).2).2).2 between later rest rfl
      fun _ _ => trivial
  have hserve := (hserved (before ++ event :: between) later rest (by simp [htrace])).2
  exact (hagain.finalized hserve).1 hfinal

theorem invocations_le_one (hreach : accountSystem.Reachable .start cfg) (i : Nat) :
    (invocations (history i cfg.trace)).length ≤ 1 := by
  have hconduct : ∀ p, accountSystem.Start p → accounting.Ensures (fun _ _ => True) p [] :=
    fun p hstart => (Starts.conduct hstart).mono fun _ _ _ => trivial
  refine (hreach.conducted (I := fun _ trace => ∀ i, (invocations (history i trace)).length ≤ 1)
    hconduct ?_ (fun _ _ _ _ hmoves => False.elim hmoves) (by simp [invocations])).1 i
  intro cfg j call answer accounts' _ hinv hmay _ i
  rw [history_snoc]
  split
  · rename_i hthread
    obtain rfl : j = i := hthread
    rw [invocations_append]
    cases call with
    | generate =>
      rw [hmay.2]
      exact Nat.le_refl 1
    | stream =>
      rw [hmay.2]
      exact Nat.le_refl 1
    | _ => simpa [invocations, invokes] using hinv j
  · exact hinv i

end Runs

-- A sample request

def sampleGateway : ModelGateway where
  digests := ⟨fun _ => "", fun _ => some ""⟩
  adapters := {"provider:model:1"}

def sampleProvider : ProviderProfile where
  providerId := "provider"
  modelId := "model"
  modelVersion := "1"
  jurisdiction := "eu"
  deployment := .vpc
  capabilities := {.stream}
  approvedTenants := {"tenant-1"}
  maximumContextBytes := 100
  maximumOutputBytes := 100
  costMicrounitsPerToken := 3

def sampleEnvelope : ModelRequestEnvelope where
  schemaVersion := modelSchemaVersion
  tenantId := "tenant-1"
  taskId := "task-1"
  taskType := "summary"
  classification := .internal
  sourceJurisdiction := "eu"
  deploymentProfile := "standard"
  requiredCapabilities := {.stream}
  allowedProviderIds := {"provider"}
  maximumLatencyMs := 1000
  maximumCostMicrounits := 500
  maximumOutputBytes := 100
  prompt := "hello".toUTF8
  idempotencyKey := "key-1"

def sampleDecision : DataPolicyDecision where
  schemaVersion := "agenttrust.contracts.v1"
  allowed := true
  policyVersion := "policy-1"
  reasonCodes := ["allowed"]
  requiredTransformations := []
  maximumRetentionSeconds := 60

def sampleRoute : RouteCandidate := ⟨"provider:model:1", 1, ["only"]⟩

def sampleStream : ProviderStreamResponse where
  providerRequestId := "response-1"
  chunks := [⟨modelSchemaVersion, 1, "hi".toUTF8, some "stop"⟩]
  inputTokens := 0
  outputTokens := 0

def sampleReservation : BudgetReservation := ⟨"reservation-1", "tenant-1", "task-1", 500⟩

def sampleLimited : BudgetState := BudgetState.empty.setLimit "tenant-1" 1000

def sampleReserved : BudgetState :=
  (sampleLimited.reserve "tenant-1" "task-1" 500 "reservation-1").2

end AgentSphere.Models
