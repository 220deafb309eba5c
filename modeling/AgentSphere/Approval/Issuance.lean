import AgentSphere.Approval.Lifecycle

/-!
# Which grants a case gets

A case that is not an emergency leaves its undecided statuses with its grant, so that it gets one
grant at most. An emergency case keeps its status, and a second approver gets it a second grant.
-/

namespace AgentSphere.Approval

open Concurrency

variable {service : EnterpriseApprovalService} {cfg : ApprovalConfig}

structure Reissues (directory : ApproverDirectory) (state : ApprovalState)
    (caseId subject reason : String) (now : DateTime) (case : ApprovalCase)
    (approver : ApproverIdentity) : Prop where
  found : state.cases[caseId]? = some case
  emergency : case.policy.approvalType = .emergency
  granted : ∃ (grantId : String) (grant : EnterpriseApprovalGrant),
    state.grants[grantId]? = some grant ∧ grant.caseId = caseId
  approves : Approves directory case subject approver now
  enough : case.policy.minimumApprovers ≤ (case.decide approver .approve reason now).approvals

def reissues (event : ApprovalEvent) : Prop :=
  ∃ caseId subject reason now, event.call = .approve caseId subject reason now ∧
    InSomeDirectory event fun directory => ∃ case approver,
      Reissues directory event.before.state caseId subject reason now case approver

def caseConsumptions (caseId : String) (trace : List ApprovalEvent) : Nat :=
  trace.countP fun event => (consumedGrant event.call event.answer).map (·.caseId) = some caseId

structure OneGrantPerCase (cfg : ApprovalConfig) : Prop where
  once : ∀ caseId, (issued cfg.trace).countP (·.caseId = caseId) ≤ 1
  uses : ∀ (caseId : String) (case : ApprovalCase), cfg.shared.state.cases[caseId]? = some case →
    caseConsumptions caseId cfg.trace ≤ min case.request.requestedUses case.policy.maximumUses

def ApprovalCase.Decided (case : ApprovalCase) : Prop :=
  case.policy.approvalType ≠ .emergency →
    case.status ≠ .pending ∧ case.status ≠ .postReviewRequired

theorem decided_grantedBy (case : ApprovalCase) (approver : ApproverIdentity) (reason : String)
    (now : DateTime) : (case.grantedBy approver reason now).Decided := by
  intro hregular
  have happroved : (case.grantedBy approver reason now).status = .approved := if_neg hregular
  rw [happroved]
  exact ⟨nofun, nofun⟩

theorem Amends.keeps_decided {directory : ApproverDirectory} {caseId : String}
    {case case' : ApprovalCase} {operation : Operation}
    (h : Amends directory caseId case operation case') (hdecided : case.Decided) :
    case'.Decided := by
  cases h with
  | expired | rejected | revoked | reviewed | consumed =>
    exact fun _ => ⟨nofun, nofun⟩
  | approved => exact hdecided
  | granted => exact decided_grantedBy case _ _ _

structure Single (state : ApprovalState) (trace : List ApprovalEvent) : Prop where
  once : ∀ caseId, (issued trace).countP (·.caseId = caseId) ≤ 1
  decided : ∀ grant ∈ issued trace, ∀ case : ApprovalCase,
    state.cases[grant.caseId]? = some case → case.Decided

namespace Single

variable {state state' : ApprovalState} {ambient : Ambient}
  {directories : Nat → ApproverDirectory} {operation : Operation} {answer : operation.Answer}
  {trace : List ApprovalEvent}

theorem initial : Single .default [] :=
  ⟨by simp [issued], by simp [issued]⟩

theorem unissued (h : Single state trace) (hbooks : Books state trace)
    (hnot : ∀ caseId subject reason now case approver,
      operation = .approve caseId subject reason now →
      ¬ Reissues (directories 0) state caseId subject reason now case approver)
    (heffect : Effect service ambient directories state operation answer state')
    {grant : EnterpriseApprovalGrant} (hissued : issuedGrant operation answer = some grant) :
    ∀ other ∈ issued trace, other.caseId ≠ grant.caseId := by
  intro other hother hcase
  cases heffect with
  | refused _ _ hrefused => simp [(refused_grants hrefused).1] at hissued
  | granted caseId subject reason now case approver found approves enough =>
    obtain rfl := Option.some.inj hissued
    have hid : other.caseId = caseId := hcase.trans (hbooks.keyed caseId case found)
    by_cases hemergency : case.policy.approvalType = .emergency
    · have hstored := (hbooks.stored _ other).mpr ⟨hother, rfl⟩
      exact hnot caseId subject reason now case approver rfl
        ⟨found, hemergency, ⟨_, other, hstored, hid⟩, approves, enough⟩
    · obtain ⟨hpending, hreview⟩ := h.decided other hother case (hid ▸ found) hemergency
      exact approves.undecided.elim hpending hreview
  | _ => cases hissued

theorem keeps_once (h : Single state trace) {new : Option EnterpriseApprovalGrant}
    (hnew : ∀ grant, new = some grant → ∀ other ∈ issued trace, other.caseId ≠ grant.caseId)
    (caseId : String) :
    (issued trace ++ new.toList).countP (·.caseId = caseId) ≤ 1 := by
  rw [List.countP_append]
  cases new with
  | none => simpa using h.once caseId
  | some grant =>
    by_cases hid : grant.caseId = caseId
    · have hnone : (issued trace).countP (·.caseId = caseId) = 0 := by
        rw [List.countP_eq_zero]
        intro other hother
        simpa [hid] using hnew grant rfl other hother
      simp [hnone, hid]
    · simpa [hid] using h.once caseId

theorem keeps_decided (h : Single state trace) (hbooks : Books state trace)
    (hfresh : ambient.Fresh state)
    (heffect : Effect service ambient directories state operation answer state')
    {grant : EnterpriseApprovalGrant}
    (hgrant : grant ∈ issued trace ++ (issuedGrant operation answer).toList)
    {case : ApprovalCase} (hfound : state'.cases[grant.caseId]? = some case) : case.Decided := by
  rcases List.mem_append.mp hgrant with hold | hnew
  · obtain ⟨old, hbefore, -⟩ := hbooks.backed grant hold
    obtain ⟨case', hfound', hfate⟩ := heffect.case_fate hfresh hbefore
    obtain rfl : case = case' := Option.some.inj (hfound.symm.trans hfound')
    rcases hfate with rfl | hamends
    · exact h.decided grant hold case hbefore
    · exact hamends.keeps_decided (h.decided grant hold old hbefore)
  · obtain hissued : issuedGrant operation answer = some grant := by simpa using hnew
    cases heffect with
    | refused _ _ hrefused => simp [(refused_grants hrefused).1] at hissued
    | granted caseId subject reason now old approver found approves enough =>
      obtain rfl := Option.some.inj hissued
      have hid : (old.grantedBy approver reason now).caseId = caseId :=
        hbooks.keyed caseId old found
      obtain rfl : old.grantedBy approver reason now = case := by
        have hfound' := hfound
        simp only [EnterpriseApprovalService.signedGrant, EnterpriseApprovalService.makeGrant, hid,
          ApprovalState.putGrant_cases, ApprovalState.putCase_cases,
          Std.ExtTreeMap.getElem?_insert_self] at hfound'
        exact Option.some.inj hfound'
      exact decided_grantedBy old approver reason now
    | _ => cases hissued

end Single

/-- **One grant for each case**: while no event gives an emergency case another grant. -/
theorem single (hreach : (system service).Reachable .default cfg)
    (hnot : ∀ event ∈ cfg.trace, ¬ reissues event) : Single cfg.shared.state cfg.trace := by
  have hrun := hreach.always (I := fun shared trace => Books shared.state trace ∧
    ((∀ event ∈ trace, ¬ reissues event) → Single shared.state trace)) ?_ ?_
    ⟨.initial, fun _ => .initial⟩
  · exact hrun.1.2 hnot
  · rintro shared trace i operation answer shared' ⟨hbooks, hsingle⟩ hserve
    obtain ⟨ambient, directories, hfresh, hsome, heffect⟩ :=
      event_effect ⟨i, operation, answer, shared, shared'⟩ hserve
    refine ⟨hbooks.keeps hfresh heffect i shared shared', fun hnot => ?_⟩
    have hbefore := hsingle fun event hevent => hnot event (by simp [hevent])
    have hlast := hnot ⟨i, operation, answer, shared, shared'⟩ (by simp)
    constructor
    · rw [issued_snoc]
      refine hbefore.keeps_once fun grant hissued => hbefore.unissued hbooks ?_ heffect hissued
      intro caseId subject reason now case approver hoperation hreissues
      exact hlast ⟨caseId, subject, reason, now, hoperation, hsome _ ⟨case, approver, hreissues⟩⟩
    · intro grant hgrant case hfound
      rw [issued_snoc] at hgrant
      exact hbefore.keeps_decided hbooks hfresh heffect hgrant hfound
  · rintro shared trace shared' hinv ⟨hstate, -⟩
    rwa [hstate]

theorem consumed_issued (hreach : (system service).Reachable .default cfg) {event : ApprovalEvent}
    (hevent : event ∈ cfg.trace) {grant : EnterpriseApprovalGrant}
    (hused : consumedGrant event.call event.answer = some grant) : grant ∈ issued cfg.trace := by
  obtain ⟨before, after, htrace⟩ := List.append_of_mem hevent
  obtain ⟨hbooks, hserve⟩ := (books hreach).2 before event after htrace
  obtain ⟨hstored, -⟩ := consumption_open hserve hused
  have hknown : grant ∈ issued before := ((hbooks.stored _ grant).mp hstored).1
  rw [htrace, issued, List.filterMap_append]
  exact List.mem_append_left _ hknown

theorem eq_of_countP_le_one {α : Type*} {p : α → Bool} {l : List α} (h : l.countP p ≤ 1) {x y : α}
    (hx : x ∈ l) (hy : y ∈ l) (hpx : p x = true) (hpy : p y = true) : x = y := by
  rw [List.countP_eq_length_filter] at h
  have hx' := List.mem_filter.mpr ⟨hx, hpx⟩
  have hy' := List.mem_filter.mpr ⟨hy, hpy⟩
  match hfilter : l.filter p with
  | [] => simp [hfilter] at hx'
  | [z] =>
    rw [hfilter, List.mem_singleton] at hx' hy'
    exact hx'.trans hy'.symm
  | _ :: _ :: _ => simp [hfilter] at h

/-- **One grant for each case**, in every run in which no emergency case that has a grant gets
another one. -/
theorem one_grant_per_case (service : EnterpriseApprovalService) {cfg : ApprovalConfig}
    (hreach : (system service).Reachable .default cfg)
    (hnot : ∀ event ∈ cfg.trace, ¬ reissues event) : OneGrantPerCase cfg where
  once := (single hreach hnot).once
  uses caseId case hfound := by
    obtain ⟨hbooks, -⟩ := books hreach
    by_cases hgranted : ∃ grant ∈ issued cfg.trace, grant.caseId = caseId
    · obtain ⟨grant, hgrant, rfl⟩ := hgranted
      obtain ⟨remaining, -, hsum⟩ := hbooks.uses grant hgrant
      obtain ⟨case', hfound', hbacks⟩ := hbooks.backed grant hgrant
      obtain rfl : case = case' := Option.some.inj (hfound.symm.trans hfound')
      have hsame : caseConsumptions grant.caseId cfg.trace ≤
          consumptions grant.grantId cfg.trace := by
        refine List.countP_mono_left fun event hevent hused => ?_
        obtain ⟨used, hconsumed, hcase⟩ := Option.map_eq_some_iff.mp (of_decide_eq_true hused)
        obtain rfl : used = grant := eq_of_countP_le_one ((single hreach hnot).once grant.caseId)
          (consumed_issued hreach hevent hconsumed) hgrant (by simpa using hcase) (by simp)
        simp [hconsumed]
      have hmaximum := hbacks.maximumUses
      omega
    · have hnone : caseConsumptions caseId cfg.trace = 0 := by
        refine List.countP_eq_zero.mpr fun event hevent hused => hgranted ?_
        obtain ⟨grant, hconsumed, hcase⟩ := Option.map_eq_some_iff.mp (of_decide_eq_true hused)
        exact ⟨grant, consumed_issued hreach hevent hconsumed, hcase⟩
      omega

/-- The emergency case gets its first grant, which is used. -/
theorem one_grant_per_case_sample :
    ∃ threads, (system sampleService).Reachable .default
      (sampleRun .emergency (sampleUse .emergency) threads) ∧
    caseConsumptions (sampleUuid 1).toStr (sampleSession .emergency (sampleUse .emergency)) = 1 ∧
    OneGrantPerCase (sampleRun .emergency (sampleUse .emergency) threads) := by
  obtain ⟨threads, hreach⟩ := reachable_sample .emergency (by decide) (sampleUse .emergency)
    (by decide)
  refine ⟨threads, hreach, by decide, one_grant_per_case sampleService hreach ?_⟩
  refine List.forall_mem_cons.mpr ⟨?_, List.forall_mem_cons.mpr ⟨?_, List.forall_mem_cons.mpr
    ⟨?_, by simp [session]⟩⟩⟩
  · rintro ⟨_, _, _, _, hcall, _⟩
    cases hcall
  · -- there is no grant yet
    rintro ⟨_, _, _, _, hcall, directory, -, -, case, approver, hreissues⟩
    obtain ⟨grantId, grant, hstored, -⟩ := hreissues.granted
    simp [sampleOpen, ApprovalState.default] at hstored
  · rintro ⟨_, _, _, _, hcall, _⟩
    cases hcall

def sampleSecond : List (Ambient × Operation) :=
  [(sampleIds 3 4, .approve (sampleUuid 1).toStr "alice" "reviewed" 1),
    (sampleIds 5 6, .approve (sampleUuid 1).toStr "bob" "reviewed" 2)]

/-- The second approver of an emergency case gets it a second grant. -/
theorem second_grant_issued :
    ∃ threads, (system sampleService).Reachable .default
      (sampleRun .emergency sampleSecond threads) ∧
    ¬ OneGrantPerCase (sampleRun .emergency sampleSecond threads) := by
  obtain ⟨threads, hreach⟩ := reachable_sample .emergency (by decide) sampleSecond
    (by decide)
  refine ⟨threads, hreach, fun hone => ?_⟩
  have honce : (issued (sampleSession .emergency sampleSecond)).countP
      (·.caseId = (sampleUuid 1).toStr) ≤ 1 := hone.once _
  exact absurd honce (by decide)

end AgentSphere.Approval
