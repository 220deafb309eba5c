import AgentSphere.Lib.Ports
import AgentSphere.Models.Requests

/-!
# The model gateway

`generate` and `stream` look for providers that the data policy allows, have them ranked, reserve
the largest cost of the request and try the routes one after the other. A route whose provider is
gone or has no adapter is passed over. Once an adapter has been called nothing else is tried: the
request ends, whatever comes of the call, after its reservation has been finalized.
-/

namespace AgentSphere.Models

open Concurrency Attempt

inductive Party where
  | gateway
  | client
  deriving DecidableEq, Repr

/-- What a request and the other users of the budget wait for. A call of an adapter says for which
provider it was resolved. -/
inductive GatewayCall where
  | active
  | evaluate (request : DataPolicyRequest)
  | rank (request : ModelRequestEnvelope) (candidates : List ProviderProfile)
  | resolve (providerKey : String)
  | generate (provider : ProviderProfile) (providerKey : String) (request : ProviderRequest)
  | stream (provider : ProviderProfile) (providerKey : String) (request : ProviderRequest)
  | utcNow
  | setLimit (tenantId : TenantId) (microunits : Nat)
  | reserve (party : Party) (tenantId : TenantId) (taskId : TaskId) (amountMicrounits : Nat)
  | finalize (party : Party) (reservationId : String) (actualMicrounits : Nat)

abbrev GatewayCall.Answer : GatewayCall → Type
  | .active => List ProviderProfile
  | .evaluate _ => Except Unit DataPolicyDecision
  | .rank .. => Except ModelError (List RouteCandidate)
  | .resolve _ => Except ModelError ProviderProfile
  | .generate .. => Option (Except ModelError ProviderResponse)
  | .stream .. => Option (Except ModelError ProviderStreamResponse)
  | .utcNow => DateTime
  | .setLimit .. => Unit
  | .reserve .. => Except ModelError BudgetReservation
  | .finalize .. => Except ModelError Unit

abbrev Working := Attempt ModelError GatewayCall GatewayCall.Answer

structure ModelGateway where
  digests : GatewayDigests
  adapters : Finset String

abbrev Decisions := BTreeMap String DataPolicyDecision

namespace ModelGateway

variable {α : Type}

/-- The providers that are left to ask the policy about, those that it allows so far, and whether it
asked for a transformation. -/
def allowedAmong (request : ModelRequestEnvelope) :
    List ProviderProfile → List ProviderProfile → Decisions → Bool →
      Working (List ProviderProfile × Decisions)
  | [], allowed, decisions, transformationRequired =>
    if allowed = [] then
      throw (if transformationRequired then .dataTransformationRequired else .noCompliantProvider)
    else pure (allowed, decisions)
  | provider :: providers, allowed, decisions, transformationRequired =>
    if Eligible request provider then do
      let decision ← port (.evaluate (dataPolicyRequest request provider))
        (Except.mapError fun _ => .dataPolicyDenied)
      Attempt.ofExcept (validateDataPolicyDecision decision)
      if decision.allowed then
        if decision.requiredTransformations = [] then
          allowedAmong request providers (allowed ++ [provider])
            (decisions.insert provider.key decision) transformationRequired
        else allowedAmong request providers allowed decisions true
      else allowedAmong request providers allowed decisions transformationRequired
    else allowedAmong request providers allowed decisions transformationRequired

def allowedCandidates (request : ModelRequestEnvelope) :
    Working (List ProviderProfile × Decisions) := do
  let providers ← ask .active
  allowedAmong request providers [] ∅ false

def finalize (reservation : BudgetReservation) (actualMicrounits : Nat) : Working Unit :=
  port (.finalize .gateway reservation.reservationId actualMicrounits) id

def tryRoutes (gateway : ModelGateway) (reservation : BudgetReservation)
    (attempt : ProviderProfile → RouteCandidate → Working α) :
    List RouteCandidate → ModelError → Working α
  | [], lastError => do
    let _ ← ask (.finalize .gateway reservation.reservationId 0)
    throw lastError
  | route :: routes, _ => do
    let provider : Except ModelError ProviderProfile ←
      ask (GatewayCall.resolve route.providerKey)
    match provider with
    | .error error => tryRoutes gateway reservation attempt routes error
    | .ok provider =>
      if route.providerKey ∈ gateway.adapters then attempt provider route
      else tryRoutes gateway reservation attempt routes .providerUnavailable

def evidenceOf (gateway : ModelGateway) (decisions : Decisions) (promptHash : String)
    (provider : ProviderProfile) (route : RouteCandidate) (providerRequestId : String)
    (inputTokens outputTokens cost : Nat) (outputHash : String) : Working ModelEvidence := do
  let decision ← computed decisions[provider.key]? .dataPolicyDenied
  let digest ← computed (gateway.digests.decisionDigest decision) .dataPolicyDenied
  let now ← ask .utcNow
  pure {
    requestHash := promptHash
    providerKey := provider.key
    providerRequestId
    routeReasons := route.reasons
    dataPolicyVersion := decision.policyVersion
    dataPolicyDecisionDigest := digest
    inputTokens, outputTokens
    costMicrounits := cost
    outputHash
    createdAt := now }

/-- What `generate` does with the answer of an adapter. -/
def settleResponse (gateway : ModelGateway) (request : ModelRequestEnvelope)
    (decisions : Decisions) (promptHash : String) (reservation : BudgetReservation)
    (provider : ProviderProfile) (route : RouteCandidate) (response : ProviderResponse) :
    Working ModelGatewayResult := do
  if response.Valid then
    let cost := provider.cost response.tokens
    if response.output.size > request.maximumOutputBytes ∨
        response.output.size > provider.maximumOutputBytes then
      finalize reservation cost
      throw .responseTooLarge
    else
      let outputHash := ResponseDataGuard.inspect gateway.digests response.output
        (min request.maximumOutputBytes provider.maximumOutputBytes)
      finalize reservation cost
      let outputHash ← Attempt.ofExcept outputHash
      let evidence ← gateway.evidenceOf decisions promptHash provider route
        response.providerRequestId response.inputTokens response.outputTokens cost outputHash
      pure { output := response.output, untrustedContent := true, evidence }
  else
    finalize reservation reservation.amountMicrounits
    throw .providerProtocolInvalid

/-- What `stream` does with the answer of an adapter. -/
def settleStream (gateway : ModelGateway) (request : ModelRequestEnvelope) (decisions : Decisions)
    (promptHash : String) (reservation : BudgetReservation) (provider : ProviderProfile)
    (route : RouteCandidate) (response : ProviderStreamResponse) :
    Working ModelStreamGatewayResult := do
  let cost := provider.cost response.tokens
  let ambiguousCost := if response.tokens = 0 then reservation.amountMicrounits else cost
  let maximumBytes := min request.maximumOutputBytes provider.maximumOutputBytes
  if response.chunks = [] ∨ response.chunks.length > 10000 then
    finalize reservation ambiguousCost
    throw .streamInvalid
  else
    match checkChunks maximumBytes response.chunks 1 .empty with
    | .error error =>
      finalize reservation ambiguousCost
      throw error
    | .ok output =>
      if HasLength response.providerRequestId 512 ∧ response.tokens ≠ 0 then
        let outputHash := ResponseDataGuard.inspect gateway.digests output maximumBytes
        finalize reservation cost
        let outputHash ← Attempt.ofExcept outputHash
        let evidence ← gateway.evidenceOf decisions promptHash provider route
          response.providerRequestId response.inputTokens response.outputTokens cost outputHash
        pure { chunks := response.chunks, untrustedContent := true, evidence }
      else
        finalize reservation ambiguousCost
        throw .providerProtocolInvalid

def settleUnknown (reservation : BudgetReservation) : Working α := do
  finalize reservation reservation.amountMicrounits
  throw .providerOutcomeUnknown

def prepare (gateway : ModelGateway) (request : ModelRequestEnvelope) :
    Working (String × Decisions × List RouteCandidate × BudgetReservation) := do
  let promptHash ← Attempt.ofExcept
    (PromptDataGuard.inspect gateway.digests request.prompt (4 * 1024 * 1024))
  let (candidates, decisions) ← allowedCandidates request
  let ranked ← port (.rank request candidates) id
  Attempt.ofExcept (validateRoutePlan candidates ranked)
  let reservation ← port
    (.reserve .gateway request.tenantId request.taskId request.maximumCostMicrounits) id
  pure (promptHash, decisions, ranked, reservation)

def providerRequest (request : ModelRequestEnvelope) (promptHash : String) : ProviderRequest where
  requestHash := promptHash
  prompt := request.prompt
  maximumOutputBytes := request.maximumOutputBytes
  idempotencyKey := request.idempotencyKey

def generate (gateway : ModelGateway) (request : ModelRequestEnvelope) :
    Working ModelGatewayResult := do
  Attempt.ofExcept (validateRequest request)
  let (promptHash, decisions, ranked, reservation) ← gateway.prepare request
  gateway.tryRoutes reservation (fun provider route => do
    let answer : Option (Except ModelError ProviderResponse) ←
      ask (GatewayCall.generate provider route.providerKey (providerRequest request promptHash))
    match answer with
    | some (.ok response) =>
      gateway.settleResponse request decisions promptHash reservation provider route response
    | _ => settleUnknown reservation) ranked .providerUnavailable

def stream (gateway : ModelGateway) (request : ModelRequestEnvelope) :
    Working ModelStreamGatewayResult := do
  Attempt.ofExcept (validateRequest request)
  ensure (.stream ∈ request.requiredCapabilities) .capabilityMissing
  let (promptHash, decisions, ranked, reservation) ← gateway.prepare request
  gateway.tryRoutes reservation (fun provider route => do
    let answer : Option (Except ModelError ProviderStreamResponse) ←
      ask (GatewayCall.stream provider route.providerKey (providerRequest request promptHash))
    match answer with
    | some (.ok response) =>
      gateway.settleStream request decisions promptHash reservation provider route response
    | _ => settleUnknown reservation) ranked .providerUnavailable

end ModelGateway

-- What a request has done

abbrev GatewayEntry := Entry GatewayCall GatewayCall.Answer

def reservationOf : GatewayEntry → Option BudgetReservation
  | ⟨.reserve .gateway _ _ _, .ok reservation⟩ => some reservation
  | _ => none

def closingOf : GatewayCall → Option String
  | .finalize .gateway reservationId _ => some reservationId
  | _ => none

def invokes : GatewayCall → Bool
  | .generate .. => true
  | .stream .. => true
  | _ => false

def meteredCost : GatewayEntry → Option Nat
  | ⟨.generate provider _ _, some (.ok response)⟩ =>
    if response.Valid then some (provider.cost response.tokens) else none
  | ⟨.stream provider _ _, some (.ok response)⟩ =>
    if response.tokens ≠ 0 then some (provider.cost response.tokens) else none
  | _ => none

def reservations (entries : List GatewayEntry) : List BudgetReservation :=
  entries.filterMap reservationOf

def closings (entries : List GatewayEntry) : List String :=
  entries.filterMap fun entry => closingOf entry.1

def invocations (entries : List GatewayEntry) : List GatewayEntry :=
  entries.filter fun entry => invokes entry.1

/-- What a request is charged: nothing if no adapter was called, what the response costs if that can
be told, and else all it has reserved. -/
def due (entries : List GatewayEntry) (reserved : Nat) : Nat :=
  match invocations entries with
  | [] => 0
  | entry :: _ => (meteredCost entry).getD reserved

def Holds (reservation : BudgetReservation) (entries : List GatewayEntry) : Prop :=
  reservations entries = [reservation] ∧ closings entries = []

def MayCall (entries : List GatewayEntry) : GatewayCall → Prop
  | .reserve .gateway .. => reservations entries = [] ∧ closings entries = []
  | .generate .. => (∃ reservation, Holds reservation entries) ∧ invocations entries = []
  | .stream .. => (∃ reservation, Holds reservation entries) ∧ invocations entries = []
  | .finalize .gateway reservationId actual => ∃ reservation, Holds reservation entries ∧
    reservation.reservationId = reservationId ∧ actual = due entries reservation.amountMicrounits
  | _ => True

def Untouched (entries : List GatewayEntry) : Prop :=
  reservations entries = [] ∧ closings entries = [] ∧ invocations entries = []

def Closed (entries : List GatewayEntry) : Prop :=
  Untouched entries ∨ ∃ reservation answer, reservations entries = [reservation] ∧
    closings entries = [reservation.reservationId] ∧
    ⟨.finalize .gateway reservation.reservationId (due entries reservation.amountMicrounits),
      answer⟩ ∈ entries

abbrev accounting : Monitor GatewayCall GatewayCall.Answer (List GatewayEntry) :=
  recording MayCall fun _ _ => True

section Conduct

variable {α : Type} {entries : List GatewayEntry} {reservation : BudgetReservation}
  {gateway : ModelGateway}

def Plain : GatewayCall → Prop
  | .reserve .. => False
  | .finalize .. => False
  | .generate .. => False
  | .stream .. => False
  | _ => True

theorem Plain.mayCall {call : GatewayCall} (h : Plain call) : MayCall entries call := by
  cases call with
  | active => trivial
  | evaluate => trivial
  | rank => trivial
  | resolve => trivial
  | utcNow => trivial
  | setLimit => trivial
  | generate => exact h.elim
  | stream => exact h.elim
  | reserve => exact h.elim
  | finalize => exact h.elim

theorem Plain.marks {more : List GatewayEntry} (h : ∀ entry ∈ more, Plain entry.1) :
    Untouched more := by
  induction more with
  | nil => exact ⟨rfl, rfl, rfl⟩
  | cons entry more ih =>
    obtain ⟨hreservations, hclosings, hinvocations⟩ :=
      ih fun other hother => h other (List.mem_cons_of_mem _ hother)
    have hplain : Plain entry.1 := h entry List.mem_cons_self
    obtain ⟨call, answer⟩ := entry
    cases call with
    | active => exact ⟨hreservations, hclosings, hinvocations⟩
    | evaluate => exact ⟨hreservations, hclosings, hinvocations⟩
    | rank => exact ⟨hreservations, hclosings, hinvocations⟩
    | resolve => exact ⟨hreservations, hclosings, hinvocations⟩
    | utcNow => exact ⟨hreservations, hclosings, hinvocations⟩
    | setLimit => exact ⟨hreservations, hclosings, hinvocations⟩
    | generate => exact hplain.elim
    | stream => exact hplain.elim
    | reserve => exact hplain.elim
    | finalize => exact hplain.elim

theorem reservations_append (entries more : List GatewayEntry) :
    reservations (entries ++ more) = reservations entries ++ reservations more :=
  List.filterMap_append

theorem closings_append (entries more : List GatewayEntry) :
    closings (entries ++ more) = closings entries ++ closings more :=
  List.filterMap_append

theorem invocations_append (entries more : List GatewayEntry) :
    invocations (entries ++ more) = invocations entries ++ invocations more :=
  List.filter_append ..

theorem marks_append (entries : List GatewayEntry) {more : List GatewayEntry}
    (h : ∀ entry ∈ more, Plain entry.1) :
    reservations (entries ++ more) = reservations entries ∧
      closings (entries ++ more) = closings entries ∧
      invocations (entries ++ more) = invocations entries := by
  obtain ⟨hreservations, hclosings, hinvocations⟩ := Plain.marks h
  rw [reservations_append, closings_append, invocations_append, hreservations, hclosings,
    hinvocations]
  exact ⟨List.append_nil _, List.append_nil _, List.append_nil _⟩

theorem due_append {more : List GatewayEntry} (h : invocations (entries ++ more) =
    invocations entries) (amount : Nat) : due (entries ++ more) amount = due entries amount := by
  rw [due, h, due]

theorem Closed.append {more : List GatewayEntry} (h : Closed entries)
    (hmore : ∀ entry ∈ more, Plain entry.1) : Closed (entries ++ more) := by
  obtain ⟨hreservations, hclosings, hinvocations⟩ := marks_append entries hmore
  obtain ⟨hnone, hopen, huncalled⟩ | ⟨reservation, answer, hone, hclosed, hfinalized⟩ := h
  · exact .inl ⟨hreservations.trans hnone, hclosings.trans hopen, hinvocations.trans huncalled⟩
  · refine .inr ⟨reservation, answer, hreservations.trans hone, hclosings.trans hclosed, ?_⟩
    rw [due_append hinvocations]
    exact List.mem_append_left more hfinalized

theorem Holds.closed (h : Holds reservation entries) {actual : Nat}
    (hdue : actual = due entries reservation.amountMicrounits) (answer : Except ModelError Unit) :
    Closed (entries ++ [⟨.finalize .gateway reservation.reservationId actual, answer⟩]) := by
  obtain ⟨hreservations, hclosings⟩ := h
  refine .inr ⟨reservation, answer, ?_, ?_, ?_⟩
  · rw [reservations_append, hreservations]
    rfl
  · rw [closings_append, hclosings]
    rfl
  · rw [due_append (by rw [invocations_append]; exact List.append_nil _), ← hdue]
    exact List.mem_append_right entries List.mem_cons_self

theorem conduct_finalize {f : PUnit → Working α} {actual : Nat} (h : Holds reservation entries)
    (hdue : actual = due entries reservation.amountMicrounits)
    (hrest : ∀ entries', Closed entries' →
      accounting.Ensures (fun _ entries' => Closed entries') (f ⟨⟩).run entries') :
    accounting.Ensures (fun _ entries' => Closed entries')
      (ModelGateway.finalize reservation actual >>= f).run entries :=
  Monitor.port_bind ⟨reservation, h, rfl, hdue⟩
    (fun answer _ _ => hrest _ (h.closed hdue answer)) fun answer _ _ => h.closed hdue answer

theorem conduct_plain {x : Working α} (hx : Only Plain x) (h : Closed entries) :
    accounting.Ensures (fun _ entries' => Closed entries') x.run entries := by
  refine (hx.recorded (fun _ _ => Plain.mayCall) entries).mono fun _ entries' hmore => ?_
  obtain ⟨-, more, rfl, hcalls⟩ := hmore
  exact h.append hcalls

theorem only_evidenceOf (decisions : Decisions) (promptHash : String) (provider : ProviderProfile)
    (route : RouteCandidate) (providerRequestId : String) (inputTokens outputTokens cost : Nat)
    (outputHash : String) :
    Only Plain (gateway.evidenceOf decisions promptHash provider route providerRequestId
      inputTokens outputTokens cost outputHash) := by
  unfold ModelGateway.evidenceOf
  refine Monitor.computed_bind (fun decision _ => ?_) trivial
  refine Monitor.computed_bind (fun digest _ => ?_) trivial
  exact Monitor.ask_bind trivial fun now => trivial

def Called (reservation : BudgetReservation) (entry : GatewayEntry) (entries : List GatewayEntry) :
    Prop :=
  Holds reservation entries ∧ invocations entries = [entry]

theorem Called.due {entry : GatewayEntry} (h : Called reservation entry entries) (amount : Nat) :
    due entries amount = (meteredCost entry).getD amount := by
  rw [Models.due, h.2]

theorem conduct_settleUnknown {entry : GatewayEntry} (h : Called reservation entry entries)
    (hmetered : meteredCost entry = none) :
    accounting.Ensures (fun _ entries' => Closed entries')
      (ModelGateway.settleUnknown reservation : Working α).run entries := by
  refine conduct_finalize h.1 ?_ fun _ hclosed => hclosed
  rw [h.due, hmetered]
  rfl

theorem conduct_accept {outputHash : Except ModelError String} (h : Closed entries)
    {decisions : Decisions} {promptHash : String} {provider : ProviderProfile}
    {route : RouteCandidate} {providerRequestId : String} {inputTokens outputTokens cost : Nat}
    {f : ModelEvidence → α} :
    accounting.Ensures (fun _ entries' => Closed entries')
      (do
        let outputHash ← Attempt.ofExcept outputHash
        let evidence ← gateway.evidenceOf decisions promptHash provider route providerRequestId
          inputTokens outputTokens cost outputHash
        pure (f evidence) : Working α).run entries := by
  refine Monitor.ofExcept_bind (fun hash _ => conduct_plain ?_ h) fun _ _ => h
  exact only_bind (only_evidenceOf ..) fun _ => trivial

theorem conduct_settleResponse {request : ModelRequestEnvelope} {decisions : Decisions}
    {promptHash : String} {provider : ProviderProfile} {route : RouteCandidate}
    {response : ProviderResponse} {providerKey : String} {sent : ProviderRequest}
    (h : Called reservation ⟨.generate provider providerKey sent, some (.ok response)⟩ entries) :
    accounting.Ensures (fun _ entries' => Closed entries')
      (gateway.settleResponse request decisions promptHash reservation provider route
        response).run entries := by
  have hdue := h.due reservation.amountMicrounits
  unfold ModelGateway.settleResponse
  by_cases hvalid : response.Valid
  · have hcost : provider.cost response.tokens = due entries reservation.amountMicrounits := by
      rw [hdue, meteredCost, if_pos hvalid]
      rfl
    rw [if_pos hvalid]
    split
    · exact conduct_finalize h.1 hcost fun _ hclosed => hclosed
    · exact conduct_finalize h.1 hcost fun _ hclosed => conduct_accept hclosed
  · rw [if_neg hvalid]
    refine conduct_finalize h.1 ?_ fun _ hclosed => hclosed
    rw [hdue, meteredCost, if_neg hvalid]
    rfl

theorem conduct_settleStream {request : ModelRequestEnvelope} {decisions : Decisions}
    {promptHash : String} {provider : ProviderProfile} {route : RouteCandidate}
    {response : ProviderStreamResponse} {providerKey : String} {sent : ProviderRequest}
    (h : Called reservation ⟨.stream provider providerKey sent, some (.ok response)⟩ entries) :
    accounting.Ensures (fun _ entries' => Closed entries')
      (gateway.settleStream request decisions promptHash reservation provider route
        response).run entries := by
  have hambiguous : (if response.tokens = 0 then reservation.amountMicrounits
      else provider.cost response.tokens) = due entries reservation.amountMicrounits := by
    rw [h.due, meteredCost]
    by_cases htokens : response.tokens = 0
    · rw [if_pos htokens, if_neg (not_not.mpr htokens)]
      rfl
    · rw [if_neg htokens, if_pos htokens]
      rfl
  unfold ModelGateway.settleStream
  by_cases hcount : response.chunks = [] ∨ response.chunks.length > 10000
  · simp only [if_pos hcount]
    exact conduct_finalize h.1 hambiguous fun _ hclosed => hclosed
  · simp only [if_neg hcount]
    cases checkChunks (min request.maximumOutputBytes provider.maximumOutputBytes)
      response.chunks 1 .empty with
    | error error => exact conduct_finalize h.1 hambiguous fun _ hclosed => hclosed
    | ok output =>
      by_cases hidentified : HasLength response.providerRequestId 512 ∧ response.tokens ≠ 0
      · rw [if_neg hidentified.2] at hambiguous
        simp only [if_pos hidentified]
        exact conduct_finalize h.1 hambiguous fun _ hclosed => conduct_accept hclosed
      · simp only [if_neg hidentified]
        exact conduct_finalize h.1 hambiguous fun _ hclosed => hclosed

theorem conduct_of_routes (h : Holds reservation entries) (hnone : invocations entries = [])
    {attempt : ProviderProfile → RouteCandidate → Working α}
    (hattempt : ∀ entries' provider route, Holds reservation entries' →
      invocations entries' = [] →
      accounting.Ensures (fun _ entries' => Closed entries') (attempt provider route).run entries')
    (routes : List RouteCandidate) (lastError : ModelError) :
    accounting.Ensures (fun _ entries' => Closed entries')
      (gateway.tryRoutes reservation attempt routes lastError).run entries := by
  induction routes generalizing entries lastError with
  | nil =>
    have hdue : 0 = due entries reservation.amountMicrounits := by rw [due, hnone]
    exact Monitor.ask_bind ⟨reservation, h, rfl, hdue⟩ fun answer => h.closed hdue answer
  | cons route routes ih =>
    refine Monitor.ask_bind trivial fun answer => ?_
    have hplain : ∀ entry ∈ [(⟨.resolve route.providerKey, answer⟩ : GatewayEntry)],
        Plain entry.1 := by simp [Plain]
    obtain ⟨hreservations, hclosings, hinvocations⟩ := marks_append entries hplain
    have hholds : Holds reservation (entries ++ [⟨.resolve route.providerKey, answer⟩]) :=
      ⟨hreservations.trans h.1, hclosings.trans h.2⟩
    cases answer with
    | error error => exact ih hholds (hinvocations.trans hnone) error
    | ok provider =>
      simp only
      split
      · exact hattempt _ provider route hholds (hinvocations.trans hnone)
      · exact ih hholds (hinvocations.trans hnone) _

theorem only_allowedAmong (request : ModelRequestEnvelope)
    (providers allowed : List ProviderProfile) (decisions : Decisions)
    (transformationRequired : Bool) :
    Only Plain (ModelGateway.allowedAmong request providers allowed decisions
      transformationRequired) := by
  induction providers generalizing allowed decisions transformationRequired with
  | nil =>
    unfold ModelGateway.allowedAmong
    split
    · exact trivial
    · exact trivial
  | cons provider providers ih =>
    unfold ModelGateway.allowedAmong
    split
    · refine only_bind (only_port trivial _) fun decision => ?_
      refine Monitor.ofExcept_bind (fun _ _ => ?_) fun _ _ => trivial
      split
      · split
        · exact ih ..
        · exact ih ..
      · exact ih ..
    · exact ih ..

theorem Untouched.closed (h : Untouched entries) : Closed entries := .inl h

theorem start_untouched : Untouched [] := ⟨rfl, rfl, rfl⟩

theorem Untouched.append {more : List GatewayEntry} (h : Untouched entries)
    (hmore : ∀ entry ∈ more, Plain entry.1) : Untouched (entries ++ more) := by
  obtain ⟨hreservations, hclosings, hinvocations⟩ := marks_append entries hmore
  exact ⟨hreservations.trans h.1, hclosings.trans h.2.1, hinvocations.trans h.2.2⟩

def Prepared : Except ModelError (String × Decisions × List RouteCandidate × BudgetReservation) →
    List GatewayEntry → Prop
  | .ok (_, _, _, reservation), entries => Holds reservation entries ∧ invocations entries = []
  | .error _, entries => Closed entries

theorem conduct_prepare {request : ModelRequestEnvelope} (h : Untouched entries) :
    accounting.Ensures Prepared (gateway.prepare request).run entries := by
  unfold ModelGateway.prepare
  refine Monitor.ofExcept_bind (fun promptHash _ => ?_) fun _ _ => h.closed
  refine Monitor.only_bind (only_bind (only_ask trivial) fun _ => only_allowedAmong ..)
    (fun _ _ => Plain.mayCall) (fun _ _ hmore => (h.append hmore).closed) fun found more hmore => ?_
  refine Monitor.only_bind (only_port trivial id) (fun _ _ => Plain.mayCall)
    (fun _ _ hmore' => ((h.append hmore).append hmore').closed) fun ranked more' hmore' => ?_
  have huntouched := (h.append hmore).append hmore'
  refine Monitor.ofExcept_bind (fun _ _ => ?_) fun _ _ => huntouched.closed
  obtain ⟨hreservations, hclosings, hinvocations⟩ := huntouched
  refine Monitor.port_bind ⟨hreservations, hclosings⟩ (fun answer reservation hanswer => ?_)
    fun answer e hanswer => ?_
  · obtain rfl : answer = .ok reservation := hanswer
    refine ⟨⟨?_, ?_⟩, ?_⟩
    · show reservations (_ ++ [_]) = _
      rw [reservations_append, hreservations]
      rfl
    · show closings (_ ++ [_]) = _
      rw [closings_append, hclosings]
      rfl
    · show invocations (_ ++ [_]) = _
      rw [invocations_append, hinvocations]
      rfl
  · obtain rfl : answer = .error e := hanswer
    refine .inl ⟨?_, ?_, ?_⟩
    · show reservations (_ ++ [_]) = _
      rw [reservations_append, hreservations]
      rfl
    · show closings (_ ++ [_]) = _
      rw [closings_append, hclosings]
      rfl
    · show invocations (_ ++ [_]) = _
      rw [invocations_append, hinvocations]
      rfl

theorem Holds.called (h : Holds reservation entries) (hnone : invocations entries = [])
    {entry : GatewayEntry} (hinvokes : invokes entry.1 = true) :
    Called reservation entry (entries ++ [entry]) := by
  obtain ⟨call, answer⟩ := entry
  cases call with
  | active => cases hinvokes
  | evaluate => cases hinvokes
  | rank => cases hinvokes
  | resolve => cases hinvokes
  | utcNow => cases hinvokes
  | setLimit => cases hinvokes
  | reserve => cases hinvokes
  | finalize => cases hinvokes
  | generate =>
    refine ⟨⟨?_, ?_⟩, ?_⟩
    · rw [reservations_append, h.1]
      rfl
    · rw [closings_append, h.2]
      rfl
    · rw [invocations_append, hnone]
      rfl
  | stream =>
    refine ⟨⟨?_, ?_⟩, ?_⟩
    · rw [reservations_append, h.1]
      rfl
    · rw [closings_append, h.2]
      rfl
    · rw [invocations_append, hnone]
      rfl

theorem conduct_generate (gateway : ModelGateway) (request : ModelRequestEnvelope) :
    accounting.Ensures (fun _ entries => Closed entries) (gateway.generate request).run [] := by
  unfold ModelGateway.generate
  refine Monitor.ofExcept_bind (fun _ _ => ?_) fun _ _ => start_untouched.closed
  refine Monitor.ensures_attempt_bind.mpr
    ((conduct_prepare start_untouched).mono fun result entries hprepared => ?_)
  cases result with
  | error e => exact hprepared
  | ok prepared =>
    obtain ⟨promptHash, decisions, ranked, reservation⟩ := prepared
    refine conduct_of_routes hprepared.1 hprepared.2
      (fun entries' provider route hholds hnone => ?_) ranked _
    refine Monitor.ask_bind ⟨⟨reservation, hholds⟩, hnone⟩ fun answer => ?_
    cases answer with
    | none => exact conduct_settleUnknown (hholds.called hnone rfl) rfl
    | some answer =>
      cases answer with
      | error e => exact conduct_settleUnknown (hholds.called hnone rfl) rfl
      | ok response => exact conduct_settleResponse (hholds.called hnone rfl)

theorem conduct_stream (gateway : ModelGateway) (request : ModelRequestEnvelope) :
    accounting.Ensures (fun _ entries => Closed entries) (gateway.stream request).run [] := by
  unfold ModelGateway.stream
  refine Monitor.ofExcept_bind (fun _ _ => ?_) fun _ _ => start_untouched.closed
  refine Monitor.ensure_bind (fun _ => ?_) fun _ => start_untouched.closed
  refine Monitor.ensures_attempt_bind.mpr
    ((conduct_prepare start_untouched).mono fun result entries hprepared => ?_)
  cases result with
  | error e => exact hprepared
  | ok prepared =>
    obtain ⟨promptHash, decisions, ranked, reservation⟩ := prepared
    refine conduct_of_routes hprepared.1 hprepared.2
      (fun entries' provider route hholds hnone => ?_) ranked _
    refine Monitor.ask_bind ⟨⟨reservation, hholds⟩, hnone⟩ fun answer => ?_
    cases answer with
    | none => exact conduct_settleUnknown (hholds.called hnone rfl) rfl
    | some answer =>
      cases answer with
      | error e => exact conduct_settleUnknown (hholds.called hnone rfl) rfl
      | ok response => exact conduct_settleStream (hholds.called hnone rfl)

end Conduct

end AgentSphere.Models
