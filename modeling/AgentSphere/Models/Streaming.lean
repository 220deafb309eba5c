import AgentSphere.Lib.Alone
import AgentSphere.Models.Accounting

/-!
# Streams from adapters that do not stream

An adapter without a stream of its own gives its whole response as one chunk. The gateway takes a
chunk of at most 1048576 bytes, and a response of as many bytes as the request and the provider
allow. So a longer response that `generate` returns is refused by `stream`; in everything else the
two operations agree.
-/

namespace AgentSphere.Models

open Concurrency Attempt

/-- `ModelProviderAdapter::stream`, where an adapter has none of its own. -/
def ProviderResponse.streamed (response : ProviderResponse) : ProviderStreamResponse where
  providerRequestId := response.providerRequestId
  chunks := [{
    schemaVersion := modelSchemaVersion
    sequence := 1
    bytes := response.output
    finishReason := some response.finishReason }]
  inputTokens := response.inputTokens
  outputTokens := response.outputTokens

@[simp] theorem ProviderResponse.tokens_streamed (response : ProviderResponse) :
    response.streamed.tokens = response.tokens := rfl

section Worlds

variable {σ : Type} (serve : σ → (call : GatewayCall) → call.Answer × σ)

/-- The registry, the policy, the planner, the budget and the adapters, none of which has a stream
of its own. -/
def streamingByDefault : σ → (call : GatewayCall) → call.Answer × σ
  | s, .stream provider providerKey request =>
    ((serve s (.generate provider providerKey request)).1.map (Except.map ProviderResponse.streamed),
      (serve s (.generate provider providerKey request)).2)
  | s, call => serve s call

end Worlds

-- The common part

structure Approach where
  promptHash : String
  decisions : Decisions
  reservation : BudgetReservation
  provider : ProviderProfile
  route : RouteCandidate

namespace ModelGateway

def approach (gateway : ModelGateway) (request : ModelRequestEnvelope) : Working Approach := do
  Attempt.ofExcept (validateRequest request)
  let (promptHash, decisions, ranked, reservation) ← gateway.prepare request
  gateway.tryRoutes reservation (fun provider route =>
    pure { promptHash, decisions, reservation, provider, route }) ranked .providerUnavailable

/-- What `generate` does from the call of an adapter on. -/
def finishGenerate (gateway : ModelGateway) (request : ModelRequestEnvelope)
    (approach : Approach) : Working ModelGatewayResult := do
  let answer : Option (Except ModelError ProviderResponse) ←
    ask (GatewayCall.generate approach.provider approach.route.providerKey
      (providerRequest request approach.promptHash))
  match answer with
  | some (.ok response) =>
    gateway.settleResponse request approach.decisions approach.promptHash approach.reservation
      approach.provider approach.route response
  | _ => settleUnknown approach.reservation

/-- What `stream` does from the call of an adapter on. -/
def finishStream (gateway : ModelGateway) (request : ModelRequestEnvelope)
    (approach : Approach) : Working ModelStreamGatewayResult := do
  let answer : Option (Except ModelError ProviderStreamResponse) ←
    ask (GatewayCall.stream approach.provider approach.route.providerKey
      (providerRequest request approach.promptHash))
  match answer with
  | some (.ok response) =>
    gateway.settleStream request approach.decisions approach.promptHash approach.reservation
      approach.provider approach.route response
  | _ => settleUnknown approach.reservation

end ModelGateway

def continued {σ α β : Type} (serve : σ → (call : GatewayCall) → call.Answer × σ)
    (f : α → Working β) : Except ModelError α × σ → Except ModelError β × σ
  | (.ok a, s) => (f a).run.alone serve s
  | (.error e, s) => (.error e, s)

section Alone

variable {σ α β : Type} {serve : σ → (call : GatewayCall) → call.Answer × σ} {s : σ}
  {gateway : ModelGateway} {request : ModelRequestEnvelope}

theorem alone_bind (x : Working α) (f : α → Working β) :
    (x >>= f).run.alone serve s = continued serve f (x.run.alone serve s) := by
  cases hx : x.run.alone serve s with
  | mk result s' =>
    cases result with
    | ok a => exact alone_bind_ok hx f
    | error e => exact alone_bind_error hx f

theorem alone_tryRoutes (reservation : BudgetReservation)
    (found : ProviderProfile → RouteCandidate → α) (f : α → Working β)
    (routes : List RouteCandidate) (lastError : ModelError) :
    (gateway.tryRoutes reservation (fun provider route => f (found provider route)) routes
      lastError).run.alone serve s =
    continued serve f ((gateway.tryRoutes reservation
      (fun provider route => pure (found provider route)) routes lastError).run.alone serve s) := by
  induction routes generalizing s lastError with
  | nil => rfl
  | cons route routes ih =>
    unfold ModelGateway.tryRoutes
    rw [alone_ask_bind, alone_ask_bind]
    generalize serve s (.resolve route.providerKey) = served
    obtain ⟨answer, s'⟩ := served
    cases answer with
    | error e => exact ih e
    | ok provider =>
      by_cases hadapter : route.providerKey ∈ gateway.adapters
      · simp only [if_pos hadapter]
        rfl
      · simp only [if_neg hadapter]
        exact ih _

theorem alone_generate :
    (gateway.generate request).run.alone serve s =
      continued serve (gateway.finishGenerate request)
        ((gateway.approach request).run.alone serve s) := by
  unfold ModelGateway.generate ModelGateway.approach
  rw [alone_bind, alone_bind]
  cases (Attempt.ofExcept (validateRequest request) : Working Unit).run.alone serve s with
  | mk result s' =>
    cases result with
    | error e => rfl
    | ok valid =>
      simp only [continued]
      rw [alone_bind, alone_bind]
      cases (gateway.prepare request).run.alone serve s' with
      | mk result s'' =>
        cases result with
        | error e => rfl
        | ok prepared =>
          exact alone_tryRoutes prepared.2.2.2
            (fun provider route => ⟨prepared.1, prepared.2.1, prepared.2.2.2, provider, route⟩)
            (gateway.finishGenerate request) prepared.2.2.1 .providerUnavailable

theorem alone_stream (hstream : .stream ∈ request.requiredCapabilities) :
    (gateway.stream request).run.alone serve s =
      continued serve (gateway.finishStream request)
        ((gateway.approach request).run.alone serve s) := by
  unfold ModelGateway.stream ModelGateway.approach
  rw [alone_bind, alone_bind]
  cases (Attempt.ofExcept (validateRequest request) : Working Unit).run.alone serve s with
  | mk result s' =>
    cases result with
    | error e => rfl
    | ok valid =>
      simp only [continued]
      have hensure : (Attempt.ensure (.stream ∈ request.requiredCapabilities)
          ModelError.capabilityMissing : Working PUnit).run.alone serve s' = (.ok ⟨⟩, s') := by
        rw [Attempt.ensure, if_pos hstream]
        rfl
      rw [alone_bind_ok hensure, alone_bind, alone_bind]
      cases (gateway.prepare request).run.alone serve s' with
      | mk result s'' =>
        cases result with
        | error e => rfl
        | ok prepared =>
          exact alone_tryRoutes prepared.2.2.2
            (fun provider route => ⟨prepared.1, prepared.2.1, prepared.2.2.2, provider, route⟩)
            (gateway.finishStream request) prepared.2.2.1 .providerUnavailable

end Alone

-- The response

/-- A response that `generate` does not refuse: it follows the protocol, is neither empty nor too
long, and has no secret in it. -/
structure Proper (request : ModelRequestEnvelope) (provider : ProviderProfile)
    (response : ProviderResponse) : Prop where
  valid : response.Valid
  present : response.output.size ≠ 0
  wanted : response.output.size ≤ request.maximumOutputBytes
  provided : response.output.size ≤ provider.maximumOutputBytes
  harmless : containsSecret response.output = false

def Creditable (gateway : ModelGateway) (approach : Approach) (finalized : Except ModelError Unit) :
    Prop :=
  finalized = .ok () ∧ ∃ decision, approach.decisions[approach.provider.key]? = some decision ∧
    (gateway.digests.decisionDigest decision).isSome = true

namespace ModelGateway

def evidenceFor (gateway : ModelGateway) (approach : Approach) (response : ProviderResponse) :
    Working ModelEvidence :=
  gateway.evidenceOf approach.decisions approach.promptHash approach.provider approach.route
    response.providerRequestId response.inputTokens response.outputTokens
    (approach.provider.cost response.tokens) (gateway.digests.sha256Hex response.output)

def credit (gateway : ModelGateway) (approach : Approach) (response : ProviderResponse) :
    Working ModelEvidence := do
  finalize approach.reservation (approach.provider.cost response.tokens)
  gateway.evidenceFor approach response

end ModelGateway

section Settling

variable {σ α : Type} {serve : σ → (call : GatewayCall) → call.Answer × σ} {s : σ}
  {gateway : ModelGateway} {request : ModelRequestEnvelope} {approach : Approach}
  {response : ProviderResponse}

theorem alone_finalize_throw (reservation : BudgetReservation) (actual : Nat) (e : ModelError) :
    ∃ e' s', (ModelGateway.finalize reservation actual >>= fun _ =>
      (throw e : Working α)).run.alone serve s = (.error e', s') := by
  rw [ModelGateway.finalize, alone_port_bind]
  cases (serve s (.finalize .gateway reservation.reservationId actual)).1 with
  | ok u => exact ⟨e, _, rfl⟩
  | error e' => exact ⟨e', _, rfl⟩

theorem inspect_eq_ok (digests : GatewayDigests) {output : ByteArray} {maximumBytes : Nat}
    (hpresent : output.size ≠ 0) (hlong : output.size ≤ maximumBytes)
    (hharmless : containsSecret output = false) :
    ResponseDataGuard.inspect digests output maximumBytes = .ok (digests.sha256Hex output) := by
  simp [ResponseDataGuard.inspect, inspectText, require, hpresent, hlong, hharmless]
  rfl

theorem inspect_eq_error (digests : GatewayDigests) (output : ByteArray) (maximumBytes : Nat)
    (h : ¬(output.size ≠ 0 ∧ output.size ≤ maximumBytes ∧ containsSecret output = false)) :
    ∃ e, ResponseDataGuard.inspect digests output maximumBytes = .error e := by
  cases hinspect : ResponseDataGuard.inspect digests output maximumBytes with
  | error e => exact ⟨e, rfl⟩
  | ok hash =>
    simp only [ResponseDataGuard.inspect, inspectText, except_bind_eq_ok, require_eq_ok,
      Unique.exists_iff] at hinspect
    exact absurd ⟨hinspect.1.1, hinspect.1.2, hinspect.2.1⟩ h

theorem alone_finalize_error {β : Type} (reservation : BudgetReservation) (actual : Nat)
    {outputHash : Except ModelError String} {e : ModelError} (h : outputHash = .error e)
    (f : String → Working β) :
    ∃ e' s', (ModelGateway.finalize reservation actual >>= fun _ =>
      Attempt.ofExcept outputHash >>= f).run.alone serve s = (.error e', s') := by
  rw [ModelGateway.finalize, alone_port_bind, h]
  cases (serve s (.finalize .gateway reservation.reservationId actual)).1 with
  | ok u => exact ⟨e, _, rfl⟩
  | error e' => exact ⟨e', _, rfl⟩

/-- `generate` returns a proper response that is credited. -/
theorem alone_settleResponse (h : Proper request approach.provider response) :
    (gateway.settleResponse request approach.decisions approach.promptHash approach.reservation
      approach.provider approach.route response).run.alone serve s =
    continued serve (fun evidence => pure ⟨response.output, true, evidence⟩)
      ((gateway.credit approach response).run.alone serve s) := by
  have hsize : ¬(response.output.size > request.maximumOutputBytes ∨
      response.output.size > approach.provider.maximumOutputBytes) := by
    have hwanted := h.wanted
    have hprovided := h.provided
    omega
  have hhash := inspect_eq_ok gateway.digests h.present
    (le_min h.wanted h.provided) h.harmless
  unfold ModelGateway.settleResponse ModelGateway.credit
  simp only [if_pos h.valid, if_neg hsize, hhash]
  rw [ModelGateway.finalize, alone_port_bind, alone_port_bind]
  cases (serve s (.finalize .gateway approach.reservation.reservationId
      (approach.provider.cost response.tokens))).1 with
  | ok u => exact alone_bind (gateway.evidenceFor approach response) _
  | error e => rfl

variable (serve s gateway) in
theorem alone_settleResponse_error (h : ¬Proper request approach.provider response) :
    ∃ e s', (gateway.settleResponse request approach.decisions approach.promptHash
      approach.reservation approach.provider approach.route response).run.alone serve s =
        (.error e, s') := by
  unfold ModelGateway.settleResponse
  by_cases hvalid : response.Valid
  · by_cases hsize : response.output.size > request.maximumOutputBytes ∨
        response.output.size > approach.provider.maximumOutputBytes
    · simp only [if_pos hvalid, if_pos hsize]
      exact alone_finalize_throw ..
    · simp only [if_pos hvalid, if_neg hsize]
      obtain ⟨e, he⟩ := inspect_eq_error gateway.digests response.output
        (min request.maximumOutputBytes approach.provider.maximumOutputBytes)
        fun ⟨hpresent, hlong, hharmless⟩ => h ⟨hvalid, hpresent, hlong.trans (min_le_left _ _),
          hlong.trans (min_le_right _ _), hharmless⟩
      exact alone_finalize_error _ _ he _
  · simp only [if_neg hvalid]
    exact alone_finalize_throw ..

theorem empty_append_bytes (bytes : ByteArray) : ByteArray.empty ++ bytes = bytes :=
  ByteArray.empty_append

def maximumChunkBytes : Nat := 1048576

theorem checkChunks_streamed {maximumBytes : Nat} {output : ByteArray} :
    checkChunks maximumBytes response.streamed.chunks 1 .empty = .ok output ↔
      (response.output.size ≠ 0 ∧ response.output.size ≤ maximumChunkBytes ∧
        response.output.IsValidUTF8 ∧ HasLength response.finishReason 64 ∧
        response.output.size ≤ maximumBytes) ∧ output = response.output := by
  simp only [checkChunks, ProviderResponse.streamed, except_bind_eq_ok, require_eq_ok,
    Unique.exists_iff, ModelStreamChunk.Valid, empty_append_bytes, List.isEmpty_nil,
    Option.isSome_some, Option.mem_def, Option.some.injEq, forall_eq', true_and, Except.ok.injEq,
    maximumChunkBytes]
  constructor
  · rintro ⟨⟨hpresent, hshort, htext, hreason⟩, hlong, rfl⟩
    exact ⟨⟨hpresent, hshort, htext, hreason, hlong⟩, rfl⟩
  · rintro ⟨⟨hpresent, hshort, htext, hreason, hlong⟩, rfl⟩
    exact ⟨⟨hpresent, hshort, htext, hreason⟩, hlong, rfl⟩

theorem one_chunk : ¬(response.streamed.chunks = [] ∨ response.streamed.chunks.length > 10000) := by
  simp [ProviderResponse.streamed]

/-- `stream` returns a proper response that is credited, if it fits in a chunk. -/
theorem alone_settleStream (h : Proper request approach.provider response)
    (hshort : response.output.size ≤ maximumChunkBytes) :
    (gateway.settleStream request approach.decisions approach.promptHash approach.reservation
      approach.provider approach.route response.streamed).run.alone serve s =
    continued serve (fun evidence => pure ⟨response.streamed.chunks, true, evidence⟩)
      ((gateway.credit approach response).run.alone serve s) := by
  obtain ⟨htokens, hid, hreason, htext⟩ := h.valid
  have hlong := le_min h.wanted h.provided
  have hchunks := checkChunks_streamed.mpr ⟨⟨h.present, hshort, htext, hreason, hlong⟩, rfl⟩
  have hhash := inspect_eq_ok gateway.digests h.present hlong h.harmless
  have hidentified : HasLength response.streamed.providerRequestId 512 ∧ response.tokens ≠ 0 :=
    ⟨hid, htokens⟩
  unfold ModelGateway.settleStream ModelGateway.credit
  simp only [if_neg one_chunk, hchunks, if_pos hidentified, hhash,
    ProviderResponse.tokens_streamed]
  rw [ModelGateway.finalize, alone_port_bind, alone_port_bind]
  cases (serve s (.finalize .gateway approach.reservation.reservationId
      (approach.provider.cost response.tokens))).1 with
  | ok u => exact alone_bind (gateway.evidenceFor approach response) _
  | error e => rfl

variable (serve s gateway) in
theorem alone_settleStream_error
    (h : ¬(Proper request approach.provider response ∧
      response.output.size ≤ maximumChunkBytes)) :
    ∃ e s', (gateway.settleStream request approach.decisions approach.promptHash
      approach.reservation approach.provider approach.route response.streamed).run.alone serve s =
        (.error e, s') := by
  unfold ModelGateway.settleStream
  simp only [if_neg one_chunk]
  cases hchunks : checkChunks (min request.maximumOutputBytes approach.provider.maximumOutputBytes)
    response.streamed.chunks 1 .empty with
  | error e => exact alone_finalize_throw ..
  | ok output =>
    obtain ⟨⟨hpresent, hshort, htext, hreason, hlong⟩, rfl⟩ := checkChunks_streamed.mp hchunks
    by_cases hidentified : HasLength response.streamed.providerRequestId 512 ∧
        response.streamed.tokens ≠ 0
    · simp only [if_pos hidentified]
      obtain ⟨e, he⟩ := inspect_eq_error gateway.digests response.output
        (min request.maximumOutputBytes approach.provider.maximumOutputBytes)
        fun ⟨_, _, hharmless⟩ => h ⟨⟨⟨hidentified.2, hidentified.1, hreason, htext⟩, hpresent,
          hlong.trans (min_le_left _ _), hlong.trans (min_le_right _ _), hharmless⟩, hshort⟩
      exact alone_finalize_error _ _ he _
    · simp only [if_neg hidentified]
      exact alone_finalize_throw ..

theorem alone_evidenceFor :
    (∃ evidence s', (gateway.evidenceFor approach response).run.alone serve s =
      (.ok evidence, s')) ↔
    ∃ decision, approach.decisions[approach.provider.key]? = some decision ∧
      (gateway.digests.decisionDigest decision).isSome = true := by
  unfold ModelGateway.evidenceFor ModelGateway.evidenceOf
  cases approach.decisions[approach.provider.key]? with
  | none => exact iff_of_false (fun ⟨_, _, h⟩ => nomatch h) (fun ⟨_, h, _⟩ => nomatch h)
  | some decision =>
    have hdecision : (computed (some decision) ModelError.dataPolicyDenied :
        Working DataPolicyDecision).run.alone serve s = (.ok decision, s) := rfl
    rw [alone_bind_ok hdecision]
    cases hdigest : gateway.digests.decisionDigest decision with
    | none =>
      refine iff_of_false (fun ⟨_, _, h⟩ => nomatch h) ?_
      rintro ⟨other, hother, h⟩
      obtain rfl := Option.some.inj hother
      simp [hdigest] at h
    | some digest =>
      exact iff_of_true ⟨_, _, rfl⟩ ⟨decision, rfl, by rw [hdigest]; rfl⟩

variable (serve s gateway approach response) in
theorem alone_credit :
    (∃ evidence s', (gateway.credit approach response).run.alone serve s = (.ok evidence, s')) ↔
      Creditable gateway approach (serve s (.finalize .gateway approach.reservation.reservationId
        (approach.provider.cost response.tokens))).1 := by
  unfold ModelGateway.credit Creditable
  rw [ModelGateway.finalize, alone_port_bind]
  cases (serve s (.finalize .gateway approach.reservation.reservationId
      (approach.provider.cost response.tokens))).1 with
  | error e => exact iff_of_false (fun ⟨_, _, h⟩ => nomatch h) (fun h => nomatch h.1)
  | ok u => exact alone_evidenceFor.trans ⟨fun h => ⟨rfl, h⟩, fun h => h.2⟩

end Settling

-- Agreement

/-- One operation succeeds if the other one does, and then they return the same output and the same
evidence, which holds the token counts and the cost. -/
structure StreamsAlike (generated : Except ModelError ModelGatewayResult)
    (streamed : Except ModelError ModelStreamGatewayResult) : Prop where
  succeeds : (∃ result, streamed = .ok result) ↔ ∃ result, generated = .ok result
  output : ∀ result result', generated = .ok result → streamed = .ok result' →
    (result'.chunks.map (·.bytes)).foldl (· ++ ·) .empty = result.output
  evidence : ∀ result result', generated = .ok result → streamed = .ok result' →
    result'.evidence = result.evidence

section Agreement

variable {σ : Type} {serve : σ → (call : GatewayCall) → call.Answer × σ}
  {gateway : ModelGateway} {request : ModelRequestEnvelope} {approach : Approach} {s : σ}

theorem streamsAlike_error (e e' : ModelError) : StreamsAlike (.error e) (.error e') where
  succeeds := by simp
  output _ _ h := nomatch h
  evidence _ _ h := nomatch h

theorem streamsAlike_credited (response : ProviderResponse)
    (credited : Except ModelError ModelEvidence × σ) :
    StreamsAlike
      (continued serve (fun evidence => pure ⟨response.output, true, evidence⟩) credited).1
      (continued serve (fun evidence => pure ⟨response.streamed.chunks, true, evidence⟩)
        credited).1 := by
  obtain ⟨result, s'⟩ := credited
  cases result with
  | error e => exact streamsAlike_error e e
  | ok evidence =>
    refine ⟨iff_of_true ⟨_, rfl⟩ ⟨_, rfl⟩, ?_, ?_⟩
    · rintro _ _ ⟨⟩ ⟨⟩
      exact empty_append_bytes _
    · rintro _ _ ⟨⟩ ⟨⟩
      rfl

theorem finish_alike_iff :
    StreamsAlike ((gateway.finishGenerate request approach).run.alone (streamingByDefault serve) s).1
      ((gateway.finishStream request approach).run.alone (streamingByDefault serve) s).1 ↔
    ∀ response s', serve s (.generate approach.provider approach.route.providerKey
        (ModelGateway.providerRequest request approach.promptHash)) =
        (some (.ok response), s') →
      Proper request approach.provider response →
      Creditable gateway approach (serve s' (.finalize .gateway approach.reservation.reservationId
        (approach.provider.cost response.tokens))).1 →
      response.output.size ≤ maximumChunkBytes := by
  have hunknown : ∀ {α : Type} (reservation : BudgetReservation) (s : σ), ∃ e s',
      (ModelGateway.settleUnknown reservation : Working α).run.alone (streamingByDefault serve) s =
        (.error e, s') := fun reservation s => alone_finalize_throw ..
  unfold ModelGateway.finishGenerate ModelGateway.finishStream
  rw [alone_ask_bind, alone_ask_bind]
  simp only [streamingByDefault]
  cases hserve : serve s (.generate approach.provider approach.route.providerKey
      (ModelGateway.providerRequest request approach.promptHash)) with
  | mk answer s' =>
    match answer with
    | none =>
      obtain ⟨e, t, hgenerate⟩ := hunknown (α := ModelGatewayResult) approach.reservation s'
      obtain ⟨e', t', hstream⟩ := hunknown (α := ModelStreamGatewayResult) approach.reservation s'
      simp only [Option.map_none, hgenerate, hstream]
      exact iff_of_true (streamsAlike_error e e') nofun
    | some (.error error) =>
      obtain ⟨e, t, hgenerate⟩ := hunknown (α := ModelGatewayResult) approach.reservation s'
      obtain ⟨e', t', hstream⟩ := hunknown (α := ModelStreamGatewayResult) approach.reservation s'
      simp only [Option.map_some, Except.map, hgenerate, hstream]
      exact iff_of_true (streamsAlike_error e e') nofun
    | some (.ok response) =>
      simp only [Option.map_some, Except.map]
      by_cases hproper : Proper request approach.provider response
      · by_cases hshort : response.output.size ≤ maximumChunkBytes
        · -- both return what is credited
          rw [alone_settleResponse hproper, alone_settleStream hproper hshort]
          refine iff_of_true (streamsAlike_credited response _) ?_
          rintro _ _ ⟨⟩ - -
          exact hshort
        · -- only `generate` may succeed
          obtain ⟨e, t, hstream⟩ :=
            alone_settleStream_error (streamingByDefault serve) s' gateway fun h => hshort h.2
          rw [alone_settleResponse hproper, hstream]
          have hcredit := alone_credit (streamingByDefault serve) s' gateway approach response
          constructor
          · rintro halike _ _ ⟨⟩ - hcreditable
            obtain ⟨evidence, t', hcredited⟩ := hcredit.mpr hcreditable
            rw [hcredited] at halike
            obtain ⟨result, hresult⟩ := halike.succeeds.mpr ⟨_, rfl⟩
            cases hresult
          · intro h
            cases hcredited : (gateway.credit approach response).run.alone
              (streamingByDefault serve) s' with
            | mk result t' =>
              cases result with
              | error e' => exact streamsAlike_error e' e
              | ok evidence =>
                exact absurd (h response s' rfl hproper (hcredit.mp ⟨evidence, t', hcredited⟩))
                  hshort
      · obtain ⟨e, t, hgenerate⟩ :=
          alone_settleResponse_error (streamingByDefault serve) s' gateway hproper
        obtain ⟨e', t', hstream⟩ :=
          alone_settleStream_error (streamingByDefault serve) s' gateway fun h => hproper h.1
        rw [hgenerate, hstream]
        refine iff_of_true (streamsAlike_error e e') ?_
        rintro _ _ ⟨⟩ h -
        exact absurd h hproper

/-- **When streams are like what is generated**: no proper response that is credited is too long for
a chunk. -/
theorem streamsAlike_iff (gateway : ModelGateway) (request : ModelRequestEnvelope)
    (hstream : .stream ∈ request.requiredCapabilities)
    (serve : σ → (call : GatewayCall) → call.Answer × σ) (s : σ) :
    StreamsAlike ((gateway.generate request).run.alone (streamingByDefault serve) s).1
      ((gateway.stream request).run.alone (streamingByDefault serve) s).1 ↔
    ∀ approach s' response s'',
      (gateway.approach request).run.alone (streamingByDefault serve) s = (.ok approach, s') →
      serve s' (.generate approach.provider approach.route.providerKey
        (ModelGateway.providerRequest request approach.promptHash)) =
        (some (.ok response), s'') →
      Proper request approach.provider response →
      Creditable gateway approach (serve s''
        (.finalize .gateway approach.reservation.reservationId
          (approach.provider.cost response.tokens))).1 →
      response.output.size ≤ maximumChunkBytes := by
  rw [alone_generate, alone_stream hstream]
  cases happroach : (gateway.approach request).run.alone (streamingByDefault serve) s with
  | mk result s' =>
    cases result with
    | error e => exact iff_of_true (streamsAlike_error e e) nofun
    | ok approach =>
      refine finish_alike_iff.trans ⟨?_, fun h response s'' => h approach s' response s'' rfl⟩
      rintro h _ _ response s'' ⟨⟩
      exact h response s''

end Agreement

-- A response that is too long for a chunk

def sampleText (n : Nat) : ByteArray := ⟨(List.replicate n 97).toArray⟩

theorem sampleText_toList (n : Nat) : (sampleText n).data.toList = List.replicate n 97 := rfl

theorem sampleText_valid (n : Nat) : (sampleText n).IsValidUTF8 := by
  have hbytes : (List.replicate n 'a').flatMap String.utf8EncodeChar = List.replicate n 97 := by
    induction n with
    | zero => rfl
    | succ n ih =>
      rw [List.replicate_succ, List.flatMap_cons, ih]
      rfl
  refine ⟨List.replicate n 'a', ByteArray.ext (Array.toList_inj.mp ?_)⟩
  rw [List.utf8Encode, List.data_toByteArray, List.toList_toArray, hbytes, sampleText_toList]

theorem sampleText_size (n : Nat) : (sampleText n).size = n := by
  rw [ByteArray.size, ← Array.length_toList, sampleText_toList, List.length_replicate]

theorem containsSecret_sampleText (n : Nat) : containsSecret (sampleText n) = false := by
  have hmarker : ∀ marker ∈ secretMarkers, ∃ byte ∈ marker.toUTF8.data.toList, byte ≠ 97 := by
    decide
  refine Bool.eq_false_iff.mpr fun hcontains => ?_
  obtain ⟨marker, hmem, hfound⟩ := List.any_eq_true.mp hcontains
  obtain ⟨rest, hrest, hprefix⟩ := List.any_eq_true.mp hfound
  obtain ⟨byte, hbyte, hother⟩ := hmarker marker hmem
  have hin : byte ∈ (sampleText n).data.toList.map asciiLower :=
    ((List.mem_tails ..).mp hrest).subset ((List.isPrefixOf_iff_prefix.mp hprefix).subset hbyte)
  rw [sampleText_toList, List.map_replicate] at hin
  exact hother (List.eq_of_mem_replicate hin)

def sampleResponse (n : Nat) : ProviderResponse where
  providerRequestId := "response-1"
  output := sampleText n
  inputTokens := 1
  outputTokens := 1
  finishReason := "stop"

def roomyProvider : ProviderProfile := { sampleProvider with maximumOutputBytes := 2097152 }

def roomyEnvelope : ModelRequestEnvelope := { sampleEnvelope with maximumOutputBytes := 2097152 }

def sampleWorld (n : Nat) : Unit → (call : GatewayCall) → call.Answer × Unit
  | _, .active => ([roomyProvider], ())
  | _, .evaluate _ => (.ok sampleDecision, ())
  | _, .rank _ _ => (.ok [sampleRoute], ())
  | _, .resolve _ => (.ok roomyProvider, ())
  | _, .generate _ _ _ => (some (.ok (sampleResponse n)), ())
  | _, .stream _ _ _ => (none, ())
  | _, .utcNow => ((0 : DateTime), ())
  | _, .setLimit _ _ => ((), ())
  | _, .reserve _ _ _ _ => (.ok sampleReservation, ())
  | _, .finalize _ _ _ => (.ok (), ())

def sampleApproach : Approach where
  promptHash := ""
  decisions := (∅ : Decisions).insert roomyProvider.key sampleDecision
  reservation := sampleReservation
  provider := roomyProvider
  route := sampleRoute

theorem sampleWorld_approach (n : Nat) :
    (sampleGateway.approach roomyEnvelope).run.alone (streamingByDefault (sampleWorld n)) () =
      (.ok sampleApproach, ()) := by
  rfl

theorem sampleResponse_proper (n : Nat) (hpresent : n ≠ 0) (hlong : n ≤ 2097152) :
    Proper roomyEnvelope roomyProvider (sampleResponse n) where
  valid := ⟨show saturatingAdd 1 1 ≠ 0 by decide, show HasLength "response-1" 512 by decide,
    show HasLength "stop" 64 by decide, sampleText_valid n⟩
  present := (sampleText_size n).trans_ne hpresent
  wanted := (sampleText_size n).trans_le hlong
  provided := (sampleText_size n).trans_le hlong
  harmless := containsSecret_sampleText n

theorem sampleApproach_creditable (answer : Except ModelError Unit) (h : answer = .ok ()) :
    Creditable sampleGateway sampleApproach answer :=
  ⟨h, sampleDecision, by rfl, rfl⟩

/-- The operations at a concrete short response. -/
theorem streamsAlike_short : StreamsAlike
    ((sampleGateway.generate roomyEnvelope).run.alone (streamingByDefault (sampleWorld 5)) ()).1
    ((sampleGateway.stream roomyEnvelope).run.alone (streamingByDefault (sampleWorld 5)) ()).1 := by
  refine (streamsAlike_iff sampleGateway roomyEnvelope (by decide) (sampleWorld 5) ()).mpr ?_
  rintro approach s' response s'' - ⟨⟩ - -
  decide

theorem not_streamsAlike_long {n : Nat} (hlong : maximumChunkBytes < n) (hroom : n ≤ 2097152) :
    ¬StreamsAlike
      ((sampleGateway.generate roomyEnvelope).run.alone (streamingByDefault (sampleWorld n)) ()).1
      ((sampleGateway.stream roomyEnvelope).run.alone
        (streamingByDefault (sampleWorld n)) ()).1 := by
  have hstream : .stream ∈ roomyEnvelope.requiredCapabilities := by decide
  rw [alone_generate, alone_stream hstream, sampleWorld_approach]
  intro halike
  have hshort := finish_alike_iff.mp halike (sampleResponse n) () rfl
    (sampleResponse_proper n (Nat.ne_zero_of_lt hlong) hroom) (sampleApproach_creditable _ rfl)
  exact absurd ((sampleText_size n).symm.trans_le hshort) (Nat.not_le.mpr hlong)

/-- **Counterexample**: a response of one byte more than a chunk may have is generated, but not
streamed. -/
theorem long_response_not_streamed : ¬StreamsAlike
    ((sampleGateway.generate roomyEnvelope).run.alone
      (streamingByDefault (sampleWorld 1048577)) ()).1
    ((sampleGateway.stream roomyEnvelope).run.alone
      (streamingByDefault (sampleWorld 1048577)) ()).1 :=
  not_streamsAlike_long (by decide) (by decide)

end AgentSphere.Models
