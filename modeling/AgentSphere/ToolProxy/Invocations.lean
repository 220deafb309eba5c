import AgentSphere.ToolProxy.Conduct

/-!
# What transactions do to invocations

What one transaction can do to a row is said once (`RowStep`), and everything about the life of an
invocation is derived from that.
-/

namespace AgentSphere.ToolProxy

open Concurrency

-- One row

inductive RowStep (codec : ProxyCodec) (key : TenantId × IdempotencyKey) :
    Option Invocation → Option Invocation → Prop where
  | same (row : Option Invocation) : RowStep codec key row row
  | prepared (request : AuthorizedToolRequest) (row : Invocation) (own : rowKey request = key)
      (written : row.For codec request) (state : row.state = .prepared) :
      RowStep codec key none (some row)
  | executing (row : Invocation) (state : row.state = .prepared) (owner : Option String)
      (lease : Option DateTime) :
      RowStep codec key (some row) (some { row with
        state := .executing, executionOwner := owner, executionLeaseUntil := lease })
  | failed (row : Invocation) (state : row.state = .prepared) (code : String)
      (valid : validateErrorCode code = .ok ()) :
      RowStep codec key (some row) (some { row with state := .failed, stableError := some code })
  | succeeded (row : Invocation) (state : row.state = .executing) (result : SanitizedToolResult)
      (resultDigest receiptDigest : String) :
      RowStep codec key (some row) (some { row with
        state := .succeeded, safeResult := some result, safeResultDigest := some resultDigest,
        credentialConsumptionId := some result.credentialConsumptionReceipt.consumptionId,
        credentialConsumptionReceiptDigest := some receiptDigest, executionLeaseUntil := none })
  | unknown (row : Invocation) (state : row.state = .executing) (code : String) :
      RowStep codec key (some row) (some { row with
        state := .unknown, stableError := some code, executionLeaseUntil := none })

section Rows

variable {codec : ProxyCodec} {store store' : Store} {key : TenantId × IdempotencyKey}

theorem update_ok {condition : Invocation → Bool} {change : Invocation → Invocation} {u : Unit}
    (h : update key condition change store = .ok (u, store')) :
    ∃ row, store[key]? = some row ∧ condition row = true ∧
      store' = store.insert key (change row) := by
  unfold update at h
  split at h
  · rename_i row hfound
    split_ifs at h with hcondition
    cases h
    exact ⟨row, hfound, hcondition, rfl⟩
  · cases h

theorem insert_self (store : Store) (key : TenantId × IdempotencyKey) (row : Invocation) :
    (store.insert key row)[key]? = some row := by
  rw [BTreeMap.getElem?_insert_ite, if_pos rfl]

theorem insert_other (store : Store) {key other : TenantId × IdempotencyKey} (row : Invocation)
    (h : key ≠ other) : (store.insert key row)[other]? = store[other]? := by
  rw [BTreeMap.getElem?_insert_ite, if_neg h]

theorem update_rows {condition : Invocation → Bool} {change : Invocation → Invocation} {u : Unit}
    (h : update key condition change store = .ok (u, store'))
    (hstep : ∀ row, condition row = true → RowStep codec key (some row) (some (change row)))
    (other : TenantId × IdempotencyKey) : RowStep codec other store[other]? store'[other]? := by
  obtain ⟨row, hfound, hcondition, rfl⟩ := update_ok h
  by_cases hkey : key = other
  · subst hkey
    rw [hfound, insert_self]
    exact hstep row hcondition
  · rw [insert_other _ _ hkey]
    exact .same _

theorem available_eq_ok {α : Type} {value : Option α} {a : α} :
    available value = .ok a ↔ value = some a := by
  cases value with
  | none => simp [available]
  | some b => simp [available]

theorem preparedFor_for {request : AuthorizedToolRequest}
    {requestDigest authorizationDigest : String}
    (hrequest : codec.requestDigest request = some requestDigest)
    (hauthorization : codec.authorizationDigest request.authorization = some authorizationDigest) :
    (Invocation.preparedFor codec request requestDigest authorizationDigest).For codec request :=
  ⟨hrequest, rfl, hauthorization, rfl, rfl, rfl, rfl⟩

/-- What `prepare` found and did when it succeeded. -/
theorem prepare_cases {request : AuthorizedToolRequest} {outcome : PrepareOutcome}
    (h : prepare codec request store = .ok (outcome, store')) :
    (∃ row, store[rowKey request]? = some row ∧ row.For codec request ∧
      row.replay codec = .ok outcome ∧ store' = store) ∨
    (store[rowKey request]? = none ∧ outcome = .new ∧ ∃ row : Invocation,
      row.For codec request ∧ row.state = .prepared ∧
      store' = store.insert (rowKey request) row) := by
  unfold prepare at h
  obtain ⟨_, -, h⟩ := except_bind_eq_ok.mp h
  obtain ⟨requestDigest, hrequest, h⟩ := except_bind_eq_ok.mp h
  obtain ⟨authorizationDigest, hauthorization, h⟩ := except_bind_eq_ok.mp h
  cases hfound : store[rowKey request]? with
  | some row =>
    simp only [hfound] at h
    obtain ⟨_, hfor, h⟩ := except_bind_eq_ok.mp h
    obtain ⟨_, hreplay, h⟩ := except_bind_eq_ok.mp h
    cases h
    exact .inl ⟨row, rfl, require_eq_ok.mp hfor, hreplay, rfl⟩
  | none =>
    simp only [hfound] at h
    cases h
    exact .inr ⟨rfl, rfl, _, preparedFor_for (available_eq_ok.mp hrequest)
      (available_eq_ok.mp hauthorization), rfl, rfl⟩

theorem prepare_valid {request : AuthorizedToolRequest} {outcome : PrepareOutcome}
    (h : prepare codec request store = .ok (outcome, store')) :
    validatePersistenceIdentity request = .ok () := by
  obtain ⟨_, hvalid, -⟩ := except_bind_eq_ok.mp h
  exact hvalid

theorem prepare_found {request : AuthorizedToolRequest} {row : Invocation}
    (hvalid : validatePersistenceIdentity request = .ok ()) (hfor : row.For codec request)
    (hfound : store[rowKey request]? = some row) :
    prepare codec request store = (row.replay codec).map fun outcome => (outcome, store) := by
  unfold prepare
  rw [hvalid, hfor.1, hfor.2.2.1]
  simp only [available, hfound, require, if_pos hfor]
  cases row.replay codec with
  | error e => rfl
  | ok outcome => rfl

theorem prepare_conflict {request : AuthorizedToolRequest} {row : Invocation}
    (hnot : ¬row.For codec request) (hfound : store[rowKey request]? = some row) :
    ∃ e, prepare codec request store = .error e := by
  cases hprepare : prepare codec request store with
  | error e => exact ⟨e, rfl⟩
  | ok prepared =>
    obtain ⟨row', hfound', hfor, -⟩ | ⟨habsent, -⟩ := prepare_cases hprepare
    · rw [hfound] at hfound'
      cases hfound'
      exact absurd hfor hnot
    · rw [hfound] at habsent
      cases habsent

theorem prepare_rows {request : AuthorizedToolRequest} {outcome : PrepareOutcome}
    (h : prepare codec request store = .ok (outcome, store')) (other : TenantId × IdempotencyKey) :
    RowStep codec other store[other]? store'[other]? := by
  obtain ⟨row, -, -, -, rfl⟩ | ⟨habsent, -, row, hfor, hstate, rfl⟩ := prepare_cases h
  · exact .same _
  · by_cases hkey : rowKey request = other
    · subst hkey
      rw [habsent, insert_self]
      exact .prepared request row rfl hfor hstate
    · rw [insert_other _ _ hkey]
      exact .same _

def Swept (store store' : Store) : Prop :=
  ∀ key : TenantId × IdempotencyKey, store'[key]? = store[key]? ∨
    ∃ row, store[key]? = some row ∧ row.state = .executing ∧
      store'[key]? = some { row with
        state := .unknown, stableError := some "PROXY_CRASH_RECOVERY_UNKNOWN",
        executionLeaseUntil := none }

theorem Swept.trans {store'' : Store} (h : Swept store store') (h' : Swept store' store'') :
    Swept store store'' := by
  intro key
  rcases h' key with hsame' | ⟨row', hfound', hstate', hswept'⟩
  · rw [hsame']
    exact h key
  · rcases h key with hsame | ⟨row, hfound, hstate, hswept⟩
    · exact .inr ⟨row', hsame.symm.trans hfound', hstate', hswept'⟩
    · -- a row that was swept before is not executing any more
      rw [hswept] at hfound'
      cases hfound'
      cases hstate'

theorem recoverRow_swept {now : DateTime} {recovered recovered' : Nat} {row : Invocation}
    (h : recoverRow now recovered store key row = .ok (recovered', store')) :
    Swept store store' := by
  unfold recoverRow at h
  obtain ⟨owner, -, h⟩ := except_bind_eq_ok.mp h
  split at h
  · rename_i changed hupdate
    cases h
    obtain ⟨found, hfound, hcondition, rfl⟩ := update_ok hupdate
    intro other
    by_cases hkey : key = other
    · subst hkey
      refine .inr ⟨found, hfound, ?_, insert_self ..⟩
      simp only [expired, Bool.decide_and, Bool.and_eq_true, decide_eq_true_eq] at hcondition
      exact hcondition.1.1
    · exact .inl (insert_other _ _ hkey)
  · cases h
    exact fun _ => .inl rfl

theorem recoverTenant_swept {tenant : TenantId} {now : DateTime} {locked : IdempotencyKey → Bool}
    {recovered recovered' : Nat}
    (h : recoverTenant tenant now locked recovered store = .ok (recovered', store')) :
    Swept store store' := by
  obtain ⟨_, -, hfold⟩ := except_bind_eq_ok.mp h
  clear h
  generalize sweptRows now locked tenant store = rows at hfold
  induction rows generalizing recovered store with
  | nil =>
    cases hfold
    exact fun _ => .inl rfl
  | cons entry rows ih =>
    rw [List.foldlM_cons] at hfold
    obtain ⟨⟨counted, swept⟩, hrow, hrest⟩ := except_bind_eq_ok.mp hfold
    exact (recoverRow_swept hrow).trans (ih hrest)

theorem transact_rows {ambient : Ambient} {call : StoreCall} {result : call.Result}
    (h : call.transact codec ambient store = .ok (result, store'))
    (other : TenantId × IdempotencyKey) : RowStep codec other store[other]? store'[other]? := by
  cases call with
  | prepare request => exact prepare_rows h other
  | markExecuting key owner leaseFor =>
    obtain ⟨_, -, h⟩ := except_bind_eq_ok.mp h
    obtain ⟨_, -, h⟩ := except_bind_eq_ok.mp h
    obtain ⟨_, -, h⟩ := except_bind_eq_ok.mp h
    refine update_rows h (fun row hrow => ?_) other
    exact .executing row (by simpa using (of_decide_eq_true hrow).1) _ _
  | markFailed key code =>
    obtain ⟨_, hcode, h⟩ := except_bind_eq_ok.mp h
    obtain ⟨_, -, h⟩ := except_bind_eq_ok.mp h
    refine update_rows h (fun row hrow => ?_) other
    exact .failed row (of_decide_eq_true hrow).1 code hcode
  | markUnknown key owner code =>
    obtain ⟨_, -, h⟩ := except_bind_eq_ok.mp h
    obtain ⟨_, -, h⟩ := except_bind_eq_ok.mp h
    obtain ⟨_, -, h⟩ := except_bind_eq_ok.mp h
    refine update_rows h (fun row hrow => ?_) other
    exact .unknown row (of_decide_eq_true hrow).1 code
  | succeed key owner result' =>
    obtain ⟨resultDigest, -, h⟩ := except_bind_eq_ok.mp h
    obtain ⟨receiptDigest, -, h⟩ := except_bind_eq_ok.mp h
    obtain ⟨_, -, h⟩ := except_bind_eq_ok.mp h
    obtain ⟨_, -, h⟩ := except_bind_eq_ok.mp h
    obtain ⟨_, -, h⟩ := except_bind_eq_ok.mp h
    refine update_rows h (fun row hrow => ?_) other
    exact .succeeded row (of_decide_eq_true hrow).1 result' resultDigest receiptDigest
  | recover tenant recovered =>
    rcases recoverTenant_swept h other with hsame | ⟨row, hfound, hstate, hswept⟩
    · rw [hsame]
      exact .same _
    · rw [hfound, hswept]
      exact .unknown row hstate _

theorem RowStep.kept {row : Invocation} {after : Option Invocation}
    (h : RowStep codec key (some row) after) :
    ∃ row', after = some row' ∧ (∀ request, row.For codec request → row'.For codec request) ∧
      (row.state ≠ .prepared → row'.state ≠ .prepared) := by
  cases h with
  | same => exact ⟨row, rfl, fun _ h => h, id⟩
  | executing _ state owner lease => exact ⟨_, rfl, fun _ h => h, fun _ => by simp⟩
  | failed _ state code valid => exact ⟨_, rfl, fun _ h => h, fun _ => by simp⟩
  | succeeded _ state result => exact ⟨_, rfl, fun _ h => h, fun _ => by simp⟩
  | unknown _ state code => exact ⟨_, rfl, fun _ h => h, fun _ => by simp⟩

theorem RowStep.settled {row : Invocation} {after : Option Invocation}
    (h : RowStep codec key (some row) after) (hprepared : row.state ≠ .prepared)
    (hexecuting : row.state ≠ .executing) : after = some row := by
  cases h with
  | same => rfl
  | executing _ state | failed _ state => exact absurd state hprepared
  | succeeded _ state | unknown _ state => exact absurd state hexecuting

def Moves (before after : Option Invocation) : Prop :=
  after = before ∨
  (before = none ∧ ∃ row, after = some row ∧ row.state = .prepared) ∨
  ∃ row row', before = some row ∧ after = some row' ∧
    ((row.state = .prepared ∧ (row'.state = .executing ∨ row'.state = .failed)) ∨
      (row.state = .executing ∧ (row'.state = .succeeded ∨ row'.state = .unknown)))

theorem RowStep.moves {before after : Option Invocation} (h : RowStep codec key before after) :
    Moves before after := by
  cases h with
  | same => exact .inl rfl
  | prepared request row own written state => exact .inr (.inl ⟨rfl, row, rfl, state⟩)
  | executing row state owner lease =>
    exact .inr (.inr ⟨row, _, rfl, rfl, .inl ⟨state, .inl rfl⟩⟩)
  | failed row state code valid => exact .inr (.inr ⟨row, _, rfl, rfl, .inl ⟨state, .inr rfl⟩⟩)
  | succeeded row state result => exact .inr (.inr ⟨row, _, rfl, rfl, .inr ⟨state, .inl rfl⟩⟩)
  | unknown row state code => exact .inr (.inr ⟨row, _, rfl, rfl, .inr ⟨state, .inr rfl⟩⟩)

end Rows

section Served

variable {codec : ProxyCodec} {store store' : Store} {key : TenantId × IdempotencyKey}

theorem storeCall_serve_cases {ambient : Ambient} {call : StoreCall}
    {answer : Except ProductionProxyError call.Result}
    (h : call.serve codec ambient store = (answer, store')) :
    store' = store ∨ ∃ result, call.transact codec ambient store = .ok (result, store') := by
  unfold StoreCall.serve at h
  split at h
  · exact .inl (Prod.mk.inj h).2.symm
  · exact .inl (Prod.mk.inj h).2.symm
  · rename_i result changed _ htransact
    obtain ⟨-, rfl⟩ := Prod.mk.inj h
    exact .inr ⟨result, htransact⟩
  · rename_i result changed _ htransact
    obtain ⟨-, rfl⟩ := Prod.mk.inj h
    exact .inr ⟨result, htransact⟩

theorem storeCall_serve_ok {ambient : Ambient} {call : StoreCall} {result : call.Result}
    (h : call.serve codec ambient store = (.ok result, store')) :
    call.transact codec ambient store = .ok (result, store') := by
  unfold StoreCall.serve at h
  split at h
  · cases h
  · cases h
  · rename_i result' changed _ htransact
    cases h
    exact htransact
  · cases h

theorem serve_rows {call : ProxyCall} {answer : call.Answer}
    (h : serve codec store call answer store') (other : TenantId × IdempotencyKey) :
    RowStep codec other store[other]? store'[other]? := by
  by_cases hcall : ∃ storeCall, call = .store storeCall
  · obtain ⟨storeCall, rfl⟩ := hcall
    obtain ⟨ambient, hserve⟩ := h
    rcases storeCall_serve_cases hserve with rfl | ⟨result, htransact⟩
    · exact .same _
    · exact transact_rows htransact other
  · have hsame : store' = store := by
      cases call with
      | store storeCall => exact absurd ⟨storeCall, rfl⟩ hcall
      | _ => exact h
    rw [hsame]
    exact .same _

theorem serve_markExecuting {owner : String} {leaseFor : Nat}
    (h : serve codec store (.store (.markExecuting key owner leaseFor)) (.ok ()) store') :
    (∃ row, store[key]? = some row ∧ row.state = .prepared) ∧
      ∃ row', store'[key]? = some row' ∧ row'.state = .executing := by
  obtain ⟨ambient, hserve⟩ := h
  have htransact := storeCall_serve_ok hserve
  obtain ⟨_, -, htransact⟩ := except_bind_eq_ok.mp htransact
  obtain ⟨_, -, htransact⟩ := except_bind_eq_ok.mp htransact
  obtain ⟨_, -, htransact⟩ := except_bind_eq_ok.mp htransact
  obtain ⟨row, hfound, hcondition, rfl⟩ := update_ok htransact
  exact ⟨⟨row, hfound, (of_decide_eq_true hcondition).1⟩, _, insert_self .., rfl⟩

inductive Fails (P : ProductionProxyError → Prop) {α : Type} :
    Except ProductionProxyError α → Prop where
  | ok {a : α} : Fails P (.ok a)
  | error {e : ProductionProxyError} (kind : P e) : Fails P (.error e)

section Errors

variable {P : ProductionProxyError → Prop}

theorem Fails.bind {α β : Type} {x : Except ProductionProxyError α}
    {f : α → Except ProductionProxyError β} (hx : Fails P x) (hf : ∀ a, Fails P (f a)) :
    Fails P (x >>= f) := by
  cases hx with
  | ok => exact hf _
  | error kind => exact .error kind

theorem fails_require {condition : Prop} [Decidable condition] {e : ProductionProxyError}
    (h : P e) : Fails P (require condition e) := by
  unfold require
  split
  · exact .ok
  · exact .error h

theorem fails_available {α : Type} (h : P .storeUnavailable) (value : Option α) :
    Fails P (available value) := by
  cases value with
  | none => exact .error h
  | some a => exact .ok

theorem fails_update (h : P .stateConflict) (key : TenantId × IdempotencyKey)
    (condition : Invocation → Bool) (change : Invocation → Invocation) (store : Store) :
    Fails P (update key condition change store) := by
  unfold update
  split
  · split
    · exact .ok
    · exact .error h
  · exact .error h

theorem fails_storedResult (h : P .storeUnavailable) (codec : ProxyCodec) (row : Invocation) :
    Fails P (row.storedResult codec) := by
  refine .bind (fails_available h _) fun result => ?_
  refine .bind (fails_available h _) fun resultDigest => ?_
  refine .bind (fails_available h _) fun consumptionId => ?_
  refine .bind (fails_available h _) fun receiptDigest => ?_
  refine .bind ?_ fun _ => .ok
  refine .bind (fails_available h _) fun _ => ?_
  refine .bind (fails_available h _) fun _ => ?_
  refine .bind (fails_available h _) fun _ => ?_
  refine .bind (fails_available h _) fun _ => ?_
  exact .bind (fails_require h) fun _ => fails_require h

theorem fails_replay (h : P .storeUnavailable) (codec : ProxyCodec) (row : Invocation) :
    Fails P (row.replay codec) := by
  unfold Invocation.replay
  split
  · exact .ok
  · exact .ok
  · exact .ok
  · exact .bind (fails_storedResult h codec row) fun _ => .ok
  · exact .bind (fails_available h _) fun _ => .bind (fails_require h) fun _ => .ok

theorem fails_prepare (h : P .storeUnavailable) (hconflict : P .idempotencyConflict)
    (codec : ProxyCodec) (request : AuthorizedToolRequest) (store : Store) :
    Fails P (prepare codec request store) := by
  refine .bind ?_ fun _ => ?_
  · refine .bind (fails_require h) fun _ => .bind (fails_require h) fun _ => ?_
    exact .bind (fails_require h) fun _ => .bind (fails_require h) fun _ => fails_require hconflict
  · refine .bind (fails_available h _) fun _ => .bind (fails_available h _) fun _ => ?_
    split
    · exact .bind (fails_require hconflict) fun _ => .bind (fails_replay h codec _) fun _ => .ok
    · exact .ok

def Identified (codec : ProxyCodec) (request : AuthorizedToolRequest) : Prop :=
  isCanonicalUuid request.tenantId = true ∧ isCanonicalUuid request.ledgerExecutionId = true ∧
    isCanonicalUuid request.ledgerEventId = true ∧
    isCanonicalUuid request.authorization.authorizationId = true ∧
    (codec.requestDigest request).isSome = true ∧
    (codec.authorizationDigest request.authorization).isSome = true

theorem parseUuid_canonical {value : String} (h : isCanonicalUuid value = true) :
    parseUuid value = .ok () :=
  require_eq_ok.mpr h

theorem fails_prepare_identified (hconflict : P .idempotencyConflict) {codec : ProxyCodec}
    {request : AuthorizedToolRequest} {store : Store} {row : Invocation}
    (hidentified : Identified codec request) (hnot : ¬row.For codec request)
    (hfound : store[rowKey request]? = some row) : Fails P (prepare codec request store) := by
  obtain ⟨htenant, hexecution, hevent, hauthorization, hrequest, hdigest⟩ := hidentified
  obtain ⟨requestDigest, hrequest⟩ := Option.isSome_iff_exists.mp hrequest
  obtain ⟨authorizationDigest, hdigest⟩ := Option.isSome_iff_exists.mp hdigest
  have hvalid : Fails P (validatePersistenceIdentity request) := by
    unfold validatePersistenceIdentity
    rw [parseUuid_canonical htenant, parseUuid_canonical hexecution, parseUuid_canonical hevent,
      parseUuid_canonical hauthorization]
    exact fails_require hconflict
  refine .bind hvalid fun _ => ?_
  rw [hrequest, hdigest]
  refine .bind .ok fun _ => .bind .ok fun _ => ?_
  simp only [hfound, require, if_neg hnot]
  exact Fails.error hconflict

theorem fails_transitionTerminal (h : P .storeUnavailable) (hstate : P .stateConflict)
    (key : TenantId × IdempotencyKey) (expected next : InvocationState) (owner : Option String)
    (code : String) (store : Store) :
    Fails P (transitionTerminal key expected next owner code store) := by
  refine .bind (fails_require h) fun _ => ?_
  split
  · exact .bind (fails_require h) fun _ => fails_update hstate ..
  · exact fails_update hstate ..

theorem fails_recoverTenant (h : P .storeUnavailable) (tenant : TenantId) (now : DateTime)
    (locked : IdempotencyKey → Bool) (recovered : Nat) (store : Store) :
    Fails P (recoverTenant tenant now locked recovered store) := by
  refine .bind (fails_require h) fun _ => ?_
  generalize sweptRows now locked tenant store = rows
  induction rows generalizing recovered store with
  | nil => exact .ok
  | cons entry rows ih =>
    rw [List.foldlM_cons]
    refine .bind (.bind (fails_available h _) fun owner => ?_) fun counted => ih ..
    split
    · exact .ok
    · exact .ok

theorem fails_transact (h : P .storeUnavailable) (hconflict : P .idempotencyConflict)
    (hstate : P .stateConflict) (codec : ProxyCodec) (ambient : Ambient) (call : StoreCall)
    (store : Store) : Fails P (call.transact codec ambient store) := by
  cases call with
  | prepare request => exact fails_prepare h hconflict codec request store
  | markExecuting key owner leaseFor =>
    refine .bind (fails_require h) fun _ => .bind (fails_require h) fun _ => ?_
    exact .bind (fails_require h) fun _ => fails_update hstate ..
  | markFailed key code =>
    exact .bind (fails_require h) fun _ => fails_transitionTerminal h hstate ..
  | markUnknown key owner code =>
    exact .bind (fails_require h) fun _ => fails_transitionTerminal h hstate ..
  | succeed key owner result =>
    refine .bind (fails_available h _) fun _ => .bind (fails_available h _) fun _ => ?_
    refine .bind (fails_require h) fun _ => .bind (fails_require h) fun _ => ?_
    exact .bind (fails_require h) fun _ => fails_update hstate ..
  | recover tenant recovered => exact fails_recoverTenant h ..

end Errors

theorem storeCall_serve_error {ambient : Ambient} {call : StoreCall} {e : ProductionProxyError}
    (h : call.serve codec ambient store = (.error e, store')) :
    e = .storeUnavailable ∨ call.transact codec ambient store = .error e ∧ store' = store := by
  unfold StoreCall.serve at h
  split at h
  · cases h
    exact .inl rfl
  · rename_i htransact hfault
    cases h
    exact .inr ⟨htransact, rfl⟩
  · cases h
  · cases h
    exact .inl rfl

theorem storeCall_serve_answer {ambient : Ambient} {call : StoreCall}
    {answer : Except ProductionProxyError call.Result}
    (h : call.serve codec ambient store = (answer, store')) :
    answer = (call.transact codec ambient store).map Prod.fst ∨
      answer = .error .storeUnavailable := by
  unfold StoreCall.serve at h
  split at h
  · cases h
    exact .inr rfl
  · rename_i htransact hfault
    cases h
    exact .inl (by rw [htransact]; rfl)
  · rename_i htransact
    cases h
    exact .inl (by rw [htransact]; rfl)
  · cases h
    exact .inr rfl

theorem serve_possible {call : ProxyCall} {answer : call.Answer}
    (h : serve codec store call answer store') : Possible call answer := by
  cases call with
  | store storeCall =>
    obtain ⟨ambient, hserve⟩ := h
    cases answer with
    | ok result => trivial
    | error e =>
      rcases storeCall_serve_error hserve with rfl | ⟨htransact, -⟩
      · exact nofun
      · have hfails := fails_transact (P := (· ≠ .registryTrustInvalid)) nofun nofun nofun codec
          ambient storeCall store
        rw [htransact] at hfails
        cases hfails with
        | error kind => exact kind
  | _ => trivial

end Served

end AgentSphere.ToolProxy
