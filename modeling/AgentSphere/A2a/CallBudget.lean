import AgentSphere.A2a.DelegationRuns

/-!
# Call budgets

Each token has an account: the calls that are left, those it was used for and those of its children
add up to what it was signed for. A child's counter is there before its parent has paid for it, so
that the accounts of tokens on which a reservation has been refused do not count; such a token is
never handed out.
-/

namespace AgentSphere.A2a

open Concurrency Attempt Allotment

/-- The token that a call of `consume_call` was granted for. -/
def spends : LimiterEntry → Option DelegationToken
  | ⟨.consume token, .ok _⟩ => some token
  | _ => none

/-- How often `consume_call` has succeeded with a token. -/
def consumed (trace : List LimiterEvent) (token : DelegationToken) : Nat :=
  trace.countP fun event => spends event.entry = some token

theorem consumed_snoc (trace : List LimiterEvent) (event : LimiterEvent) (token : DelegationToken) :
    consumed (trace ++ [event]) token =
      consumed trace token + if spends event.entry = some token then 1 else 0 := by
  simp [consumed, List.countP_singleton]

abbrev handedOn (issued : Finset DelegationToken) (token : DelegationToken) : Nat :=
  tokenKin.handedOn DelegationToken.remainingCalls issued token

def Accounted (shared : Delegations) (trace : List LimiterEvent) (token : DelegationToken) : Prop :=
  ∃ remaining, shared.state.remainingCalls[token.tokenId]? = some remaining ∧
    remaining + consumed trace token + handedOn shared.issued token = token.remainingCalls

structure Budgets (shared : Delegations) (trace : List LimiterEvent) : Prop where
  accounts : ∀ token ∈ shared.signed,
    (token ∈ shared.issued ∨ ∀ i, ¬ ReservedBy trace i token) → Accounted shared trace token
  spent : ∀ event ∈ trace, ∀ token, spends event.entry = some token → token ∈ shared.issued

section Accounts

variable {shared shared' : Delegations} {trace trace' : List LimiterEvent}
  {event : LimiterEvent} {token child : DelegationToken}

theorem Accounted.of_eq (h : Accounted shared trace token)
    (hremaining : shared'.state.remainingCalls[token.tokenId]? =
      shared.state.remainingCalls[token.tokenId]?)
    (hconsumed : consumed trace' token = consumed trace token)
    (hhanded : handedOn shared'.issued token = handedOn shared.issued token) :
    Accounted shared' trace' token := by
  obtain ⟨remaining, hfound, hsum⟩ := h
  refine ⟨remaining, hremaining.trans hfound, ?_⟩
  rwa [hconsumed, hhanded]

theorem accounted_new (hfound : shared.state.remainingCalls[token.tokenId]? =
      some token.remainingCalls)
    (hunspent : ∀ event ∈ trace, spends event.entry ≠ some token)
    (hchildless : ∀ child ∈ shared.issued, child.parentTokenId ≠ some token.tokenId) :
    Accounted shared trace token := by
  refine ⟨token.remainingCalls, hfound, ?_⟩
  have hconsumed : consumed trace token = 0 := by
    simpa [consumed, List.countP_eq_zero] using hunspent
  have hhanded : handedOn shared.issued token = 0 := Kinship.handedOn_eq_zero hchildless
  rw [hconsumed, hhanded, Nat.add_zero]

theorem handedOn_insert_other (hnew : child ∉ shared.issued)
    (hparent : child.parentTokenId ≠ some token.tokenId) :
    handedOn (insert child shared.issued) token = handedOn shared.issued token := by
  refine (Kinship.handedOn_insert hnew).trans ?_
  rw [if_neg (show tokenKin.parent child ≠ some (tokenKin.key token) from hparent), Nat.add_zero]

theorem handedOn_insert_child (hnew : child ∉ shared.issued)
    (hparent : child.parentTokenId = some token.tokenId) :
    handedOn (insert child shared.issued) token =
      handedOn shared.issued token + child.remainingCalls := by
  refine (Kinship.handedOn_insert hnew).trans ?_
  rw [if_pos (show tokenKin.parent child = some (tokenKin.key token) from hparent)]

theorem Budgets.other (h : Budgets shared trace)
    (hremaining : shared'.state.remainingCalls = shared.state.remainingCalls)
    (hsigned : shared'.signed = shared.signed) (hissued : shared'.issued = shared.issued)
    (hspends : spends event.entry = none) : Budgets shared' (trace ++ [event]) where
  accounts token htoken hopen := by
    rw [hsigned] at htoken
    have hopen' : token ∈ shared.issued ∨ ∀ i, ¬ ReservedBy trace i token := by
      refine hopen.imp (fun hmem => hissued ▸ hmem) fun hnone i hreserved => ?_
      exact hnone i hreserved.snoc
    refine (h.accounts token htoken hopen').of_eq (by rw [hremaining]) ?_ (by rw [hissued])
    rw [consumed_snoc, hspends, if_neg (by simp), Nat.add_zero]
  spent earlier hearlier token hspent := by
    rw [hissued]
    obtain hold | hnew := List.mem_append.mp hearlier
    · exact h.spent earlier hold token hspent
    · obtain rfl := List.mem_singleton.mp hnew
      rw [hspends] at hspent
      cases hspent

theorem reserve_cases (state : DelegationState) (parentTokenId : String)
    (token : DelegationToken) :
    (∃ remaining, state.remainingCalls[parentTokenId]? = some remaining ∧
      token.remainingCalls ≤ remaining ∧ (state.reserve parentTokenId token).1 = .ok () ∧
      (state.reserve parentTokenId token).2.remainingCalls =
        state.remainingCalls.insert parentTokenId (remaining - token.remainingCalls)) ∨
    ∃ e, (state.reserve parentTokenId token).1 = .error e ∧
      ((state.reserve parentTokenId token).2.remainingCalls = state.remainingCalls ∨
        (state.reserve parentTokenId token).2.remainingCalls =
          state.remainingCalls.erase token.tokenId) := by
  unfold DelegationState.reserve
  cases hfound : state.remainingCalls[parentTokenId]? with
  | none => exact .inr ⟨_, rfl, .inl rfl⟩
  | some remaining =>
    by_cases hless : remaining < token.remainingCalls
    · refine .inr ⟨.budgetExceeded, ?_, .inr ?_⟩
      · simp only [if_pos hless]
      · simp only [if_pos hless]
    · refine .inl ⟨remaining, rfl, Nat.not_lt.mp hless, ?_, ?_⟩
      · simp only [if_neg hless]
      · simp only [if_neg hless]

theorem consume_cases (state : DelegationState) (token : DelegationToken) :
    (∃ remaining, state.remainingCalls[token.tokenId]? = some (remaining + 1) ∧
      (state.consume token).1 = .ok remaining ∧
      (state.consume token).2.remainingCalls =
        state.remainingCalls.insert token.tokenId remaining) ∨
    ∃ e, (state.consume token).1 = .error e ∧ (state.consume token).2 = state := by
  unfold DelegationState.consume
  cases hfound : state.remainingCalls[token.tokenId]? with
  | none => exact .inr ⟨_, rfl, rfl⟩
  | some remaining =>
    cases remaining with
    | zero => exact .inr ⟨_, rfl, rfl⟩
    | succ remaining => exact .inl ⟨remaining, rfl, rfl, rfl⟩

end Accounts

section Steps

variable {shared : Delegations} {trace : List LimiterEvent} {token child : DelegationToken}

theorem Budgets.sign (h : Budgets shared trace) (hlineage : Lineage shared trace) {i : Nat}
    {warrant : Warrant} (hnew : ∀ a ∈ shared.signed, a.tokenId ≠ token.tokenId)
    (hborne : Bears shared.issued warrant token) :
    Budgets (shared.sign warrant token)
      (trace ++ [⟨i, .insertCounter warrant token, (), shared, shared.sign warrant token⟩]) := by
  have hunsigned : token ∉ shared.signed := fun hmem => hnew token hmem rfl
  have hissued : ∀ a ∈ (shared.sign warrant token).issued, a ∈ shared.issued ∨
      a = token ∧ token.parentTokenId = none := by
    intro a ha
    cases warrant with
    | lease lease =>
      obtain rfl | hold := Finset.mem_insert.mp ha
      · exact .inr ⟨rfl, hborne.root⟩
      · exact .inl hold
    | parent parent => exact .inl ha
  refine ⟨?_, ?_⟩
  · intro a ha hopen
    obtain rfl | hold := Finset.mem_insert.mp ha
    · refine accounted_new (by simp [Delegations.sign, DelegationState.insertCounter]) ?_ ?_
      · intro event hevent hspent
        obtain hold | hlast := List.mem_append.mp hevent
        · exact hunsigned (hlineage.issued (h.spent event hold a hspent))
        · obtain rfl := List.mem_singleton.mp hlast
          cases hspent
      · intro child hchild hparent
        obtain hold | ⟨rfl, hroot⟩ := hissued child hchild
        · obtain ⟨parent, hmem, hkey, -⟩ := hlineage.parents (hlineage.issued hold) hparent
          exact hnew parent (hlineage.issued hmem) hkey
        · rw [hroot] at hparent
          cases hparent
    · have hne : a.tokenId ≠ token.tokenId := hnew a hold
      have hopen' : a ∈ shared.issued ∨ ∀ i, ¬ ReservedBy trace i a := by
        refine hopen.imp (fun hmem => ?_) fun hnone j hreserved => hnone j hreserved.snoc
        obtain hmem' | ⟨rfl, -⟩ := hissued a hmem
        · exact hmem'
        · exact absurd rfl hne
      refine (h.accounts a hold hopen').of_eq ?_ ?_ ?_
      · simp [Delegations.sign, DelegationState.insertCounter, hne.symm]
      · rw [consumed_snoc]
        simp [spends]
      · cases warrant with
        | lease lease =>
          refine handedOn_insert_other (fun hmem => hunsigned (hlineage.issued hmem)) ?_
          simp [hborne.root]
        | parent parent => rfl
  · intro event hevent a hspent
    obtain hold | hlast := List.mem_append.mp hevent
    · exact issued_sign shared warrant token (h.spent event hold a hspent)
    · obtain rfl := List.mem_singleton.mp hlast
      cases hspent

theorem Budgets.reserve (h : Budgets shared trace) (hlineage : Lineage shared trace) {i : Nat}
    {parent : DelegationToken} {answer : Except A2aError Unit} (hparent : parent ∈ shared.issued)
    (hsigned : child ∈ shared.signed) (hnarrows : Narrows parent child)
    (hunpaid : ∀ j, ¬ ReservedBy trace j child) :
    Budgets (shared.reserve parent.tokenId child) (trace ++
      [⟨i, .reserve parent.tokenId child, answer, shared,
        shared.reserve parent.tokenId child⟩]) := by
  have hunissued : child ∉ shared.issued := by
    intro hmem
    obtain ⟨j, hpaid⟩ := hlineage.paid child hmem (by simp [hnarrows.named])
    exact hunpaid j hpaid
  have hne : ∀ a ∈ shared.signed, a ≠ child → a.tokenId ≠ child.tokenId :=
    fun a ha hdiff hkey => hdiff (hlineage.distinct a ha child hsigned hkey)
  have hparentNe : parent.tokenId ≠ child.tokenId := by
    refine hne parent (hlineage.issued hparent) ?_
    rintro rfl
    exact hunissued hparent
  have hconsumed : ∀ a, consumed (trace ++ [⟨i, .reserve parent.tokenId child, answer, shared,
      shared.reserve parent.tokenId child⟩]) a = consumed trace a := by
    intro a
    rw [consumed_snoc]
    simp [spends]
  refine ⟨?_, ?_⟩
  · intro a ha hopen
    obtain ⟨remaining, hfound, hle, hok, hafter⟩ | ⟨e, herror, hafter⟩ :=
      reserve_cases shared.state parent.tokenId child
    · -- the child is handed out and its parent has paid
      have hissued : (shared.reserve parent.tokenId child).issued = insert child shared.issued := by
        simp only [Delegations.reserve, hok]
      have hremaining : (shared.reserve parent.tokenId child).state.remainingCalls =
          shared.state.remainingCalls.insert parent.tokenId (remaining - child.remainingCalls) :=
        hafter
      have hopen' : a ∈ shared.issued ∨ ∀ j, ¬ ReservedBy trace j a := by
        rw [hissued] at hopen
        obtain hmem | hnone := hopen
        · obtain rfl | hmem' := Finset.mem_insert.mp hmem
          · exact .inr hunpaid
          · exact .inl hmem'
        · exact .inr fun j hreserved => hnone j hreserved.snoc
      have haccount := h.accounts a ha hopen'
      by_cases hpaying : a = parent
      · subst hpaying
        obtain ⟨left, hleft, hsum⟩ := haccount
        obtain rfl : left = remaining := Option.some.inj (hleft.symm.trans hfound)
        refine ⟨left - child.remainingCalls, by simp [hremaining], ?_⟩
        rw [hconsumed, hissued, handedOn_insert_child hunissued hnarrows.named]
        omega
      · have hother : a.tokenId ≠ parent.tokenId := fun hkey =>
          hpaying (hlineage.distinct a ha parent (hlineage.issued hparent) hkey)
        refine haccount.of_eq (by simp [hremaining, hother.symm]) (hconsumed a) ?_
        rw [hissued]
        refine handedOn_insert_other hunissued ?_
        rw [hnarrows.named]
        exact fun hkey => hother (Option.some.inj hkey).symm
    · -- nobody gets the child
      have hissued : (shared.reserve parent.tokenId child).issued = shared.issued := by
        simp only [Delegations.reserve, herror]
      have hdiff : a ≠ child := by
        rintro rfl
        obtain hmem | hnone := hopen
        · exact hunissued (hissued ▸ hmem)
        · exact hnone i ⟨parent.tokenId, answer, mem_history_snoc.mpr (.inr ⟨rfl, rfl⟩)⟩
      have hopen' : a ∈ shared.issued ∨ ∀ j, ¬ ReservedBy trace j a := by
        rw [hissued] at hopen
        exact hopen.imp id fun hnone j hreserved => hnone j hreserved.snoc
      refine (h.accounts a ha hopen').of_eq ?_ (hconsumed a) (by rw [hissued])
      have hremaining : (shared.reserve parent.tokenId child).state.remainingCalls =
          (shared.state.reserve parent.tokenId child).2.remainingCalls := rfl
      obtain hsame | herased := hafter
      · rw [hremaining, hsame]
      · rw [hremaining, herased, Std.ExtTreeMap.getElem?_erase, if_neg]
        exact fun heq => hne a ha hdiff (Std.compare_eq_iff_eq.mp heq).symm
  · intro event hevent a hspent
    obtain hold | hlast := List.mem_append.mp hevent
    · exact issued_reserve shared parent.tokenId child (h.spent event hold a hspent)
    · obtain rfl := List.mem_singleton.mp hlast
      cases hspent

theorem Budgets.consume (h : Budgets shared trace) (hlineage : Lineage shared trace) {i : Nat}
    (htoken : token ∈ shared.issued) :
    Budgets { shared with state := (shared.state.consume token).2 } (trace ++
      [⟨i, .consume token, (shared.state.consume token).1, shared,
        { shared with state := (shared.state.consume token).2 }⟩]) := by
  obtain ⟨remaining, hfound, hok, hafter⟩ | ⟨e, herror, hsame⟩ := consume_cases shared.state token
  · have hspends : spends ⟨.consume token, (shared.state.consume token).1⟩ = some token := by
      rw [hok]
      rfl
    refine ⟨?_, ?_⟩
    · intro a ha hopen
      have hopen' : a ∈ shared.issued ∨ ∀ j, ¬ ReservedBy trace j a :=
        hopen.imp id fun hnone j hreserved => hnone j hreserved.snoc
      have haccount := h.accounts a ha hopen'
      by_cases hsame : a = token
      · subst hsame
        obtain ⟨left, hleft, hsum⟩ := haccount
        obtain rfl : left = remaining + 1 := Option.some.inj (hleft.symm.trans hfound)
        refine ⟨remaining, by simp [hafter], ?_⟩
        rw [consumed_snoc, Event.entry_mk, hspends, if_pos rfl]
        show remaining + (consumed trace a + 1) + handedOn shared.issued a = a.remainingCalls
        omega
      · have hne : a.tokenId ≠ token.tokenId := fun hkey =>
          hsame (hlineage.distinct a ha token (hlineage.issued htoken) hkey)
        refine haccount.of_eq (by simp [hafter, hne.symm]) ?_ rfl
        rw [consumed_snoc, Event.entry_mk, hspends, if_neg (by simp [Ne.symm hsame]), Nat.add_zero]
    · intro event hevent a hspent
      obtain hold | hlast := List.mem_append.mp hevent
      · exact h.spent event hold a hspent
      · obtain rfl := List.mem_singleton.mp hlast
        rw [Event.entry_mk, hspends] at hspent
        obtain rfl := Option.some.inj hspent
        exact htoken
  · refine h.other (by rw [hsame]) rfl rfl ?_
    rw [Event.entry_mk, herror]
    rfl

end Steps

section Runs

variable {Bytes : Type} {codec : TokenCodec Bytes} {limiter : DelegationLimiter}
  {shared' : Delegations} {cfg : LimiterConfig}

/-- **Step lemma**: a call that an operation may make keeps the accounts. -/
theorem Budgets.step (h : Budgets cfg.shared cfg.trace)
    (hreach : (delegations codec limiter).Reachable .initial cfg) {i : Nat} {call : LimiterCall}
    {answer : call.Answer} (hmay : MayCall codec (history i cfg.trace) call)
    (hserve : cfg.shared.serve codec call answer shared') :
    Budgets shared' (cfg.trace ++ [⟨i, call, answer, cfg.shared, shared'⟩]) := by
  have hlineage := (lineage_of_run hreach).1
  cases call with
  | insertCounter warrant token =>
    obtain rfl := hserve
    obtain ⟨hwarranted, hdrew, -, huntouched⟩ := hmay
    exact h.sign hlineage (hlineage.fresh hreach hdrew huntouched)
      (bears_of_warranted hreach hwarranted)
  | reserve parentTokenId token =>
    obtain ⟨-, rfl⟩ := hserve
    obtain ⟨⟨parent, rfl, hsigned⟩, hnone⟩ := hmay
    obtain ⟨hparent, hnarrows⟩ := hlineage.borne i (.parent parent) token hsigned
    exact h.reserve hlineage hparent (hlineage.drew i _ token hsigned).1 hnarrows
      (hlineage.unpaid hreach hsigned hnone)
  | consume token =>
    obtain ⟨rfl, rfl⟩ := hserve
    exact h.consume hlineage (presented_issued hreach hmay.presented hmay.signed)
  | utcNow | revokeToken | revokeRootTask =>
    obtain rfl := hserve
    exact h.other rfl rfl rfl rfl
  | present | newUuid | currentEpoch | isRevoked | bumpTenantEpoch =>
    obtain ⟨-, rfl⟩ := hserve
    exact h.other rfl rfl rfl rfl

/-- **Run lemma**: the accounts of every run are in balance. -/
theorem budgets_of_run (hreach : (delegations codec limiter).Reachable .initial cfg) :
    Budgets cfg.shared cfg.trace := by
  refine (hreach.conducted (fun p (hp : Caller codec limiter p) => hp.mayCall) ?_ ?_ ?_).1
  · intro cfg i call answer shared' hreach hbudgets hmay hserve
    exact hbudgets.step hreach hmay hserve
  · rintro _ _ _ _ ⟨⟩
  · exact ⟨by simp [Delegations.initial], by simp⟩

theorem tree_consumed_le (hreach : (delegations codec limiter).Reachable .initial cfg)
    {root : DelegationToken} (hissued : root ∈ cfg.shared.issued)
    (hroot : root.parentTokenId = none) :
    ∑ token ∈ tokenKin.tree cfg.shared.issued root, consumed cfg.trace token ≤
      root.remainingCalls := by
  have hlineage := (lineage_of_run hreach).1
  refine Kinship.tree_used_le
    (fun token => (cfg.shared.state.remainingCalls[token.tokenId]?).getD 0)
    hlineage.forest_issued hissued hroot ?_
  intro token htoken
  obtain ⟨remaining, hfound, hsum⟩ :=
    (budgets_of_run hreach).accounts token (hlineage.issued htoken) (.inl htoken)
  rw [Kinship.Balanced, hfound]
  exact hsum

/-- **Delegation budget**: in every run the calls left, used and delegated add up to what was
signed, and every token is within its parent. -/
theorem calls_conserved (hreach : (delegations codec limiter).Reachable .initial cfg) :
    (∀ token ∈ cfg.shared.issued, ∃ remaining,
      cfg.shared.state.remainingCalls[token.tokenId]? = some remaining ∧
        remaining + consumed cfg.trace token +
          ∑ child ∈ cfg.shared.issued with child.parentTokenId = some token.tokenId,
            child.remainingCalls = token.remainingCalls) ∧
    (∀ root ∈ cfg.shared.issued, root.parentTokenId = none →
      ∑ token ∈ tokenKin.tree cfg.shared.issued root, consumed cfg.trace token ≤
        root.remainingCalls) ∧
    ∀ token ∈ cfg.shared.issued, token.depth ≤ token.maximumDepth ∧
      (∀ k, token.parentTokenId = some k →
        ∃ parent ∈ cfg.shared.issued, parent.tokenId = k ∧ Narrows parent token) ∧
      (token.parentTokenId = none →
        ∃ i lease, SignedBy cfg.trace i (.lease lease) token ∧ token.envelope.isWithin lease) ∧
      ∀ i lease, SignedBy cfg.trace i (.lease lease) token → token.envelope.isWithin lease := by
  have hlineage := (lineage_of_run hreach).1
  refine ⟨?_, fun root hissued hroot => tree_consumed_le hreach hissued hroot, ?_⟩
  · intro token htoken
    exact (budgets_of_run hreach).accounts token (hlineage.issued htoken) (.inl htoken)
  · intro token htoken
    have hsigned := hlineage.issued htoken
    refine ⟨(hlineage.depth hsigned).2, fun k hk => hlineage.parents hsigned hk, ?_, ?_⟩
    · intro hroot
      obtain ⟨i, lease, hsignedBy, hroots⟩ := hlineage.root_lease hsigned hroot
      exact ⟨i, lease, hsignedBy, hroots.within⟩
    · intro i lease hsignedBy
      have hroots : Roots lease token := hlineage.borne i (.lease lease) token hsignedBy
      exact hroots.within

end Runs

-- A sample run

def sampleConsuming : List LimiterEntry :=
  [⟨.present, sampleChild⟩, ⟨.isRevoked sampleChild, false⟩, ⟨.consume sampleChild, .ok (0 : Nat)⟩]

theorem sample_consumed :
    ∃ cfg : LimiterConfig, (delegations sampleTokenCodec sampleLimiter).Reachable .initial cfg ∧
      cfg.shared.issued = {sampleChild, sampleRoot} ∧
      consumed cfg.trace sampleChild = 1 := by
  obtain ⟨cfg, hreach, hshared, hthreads, hentries⟩ := sample_tree
  let consuming : Program LimiterCall LimiterCall.Answer (Except A2aError Reply) := (do
    let token ← ask .present
    let calls ← sampleLimiter.consumeCall sampleTokenCodec token 5
    pure (.remaining calls) : Limiting Reply).run
  have hconsume : Resumes (sampleLimiter.consumeCall sampleTokenCodec sampleChild 5).run
      sampleConsuming.tail (.done (.ok (0 : Nat))) :=
    (sample_verify (by simp)).attempt_bind (.perform (.refl _))
  have hconsuming : Resumes consuming sampleConsuming (.done (.ok (.remaining 0))) :=
    .ask_bind (hconsume.attempt_bind (.refl _))
  have hjoined : (delegations sampleTokenCodec sampleLimiter).Reachable .initial
      { cfg with threads := cfg.threads ++ [consuming] } :=
    hreach.tail (.start consuming (.consumeCall 5))
  have hserves : (delegations sampleTokenCodec sampleLimiter).Serves cfg.shared sampleConsuming
      { sampleTree with state := (sampleTree.state.consume sampleChild).2 } := by
    rw [hshared]
    refine .through sampleTree ⟨fun _ => by decide, rfl⟩ ?_
    refine .through sampleTree ⟨by decide, rfl⟩ ?_
    exact .cons ⟨by decide, rfl⟩ (.nil _)
  obtain ⟨events, -, hevents, hlast⟩ := hjoined.run 2 (by simp [hthreads]) hconsuming hserves
  refine ⟨_, hlast, show sampleTree.issued = _ by decide, ?_⟩
  have hcount : consumed (cfg.trace ++ events) sampleChild =
      ((cfg.trace ++ events).map Event.entry).countP
        fun entry => spends entry = some sampleChild := by
    rw [List.countP_map]
    rfl
  refine hcount.trans ?_
  rw [List.map_append, hentries, hevents]
  decide

/-- The budget at a concrete run: the root was signed for two calls, and one of them was used. -/
theorem calls_conserved_sample :
    ∃ cfg : LimiterConfig, consumed cfg.trace sampleChild = 1 ∧
      ∑ token ∈ tokenKin.tree cfg.shared.issued sampleRoot, consumed cfg.trace token ≤ 2 := by
  obtain ⟨cfg, hreach, hissued, hconsumed⟩ := sample_consumed
  refine ⟨cfg, hconsumed, ?_⟩
  exact (calls_conserved hreach).2.1 sampleRoot (by simp [hissued]) rfl

end AgentSphere.A2a
